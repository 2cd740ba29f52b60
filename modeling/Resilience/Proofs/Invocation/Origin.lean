import Resilience.Proofs.Invocation.Story

/-!
Origins: where the fault of an invocation comes from, and what its story tells of it. Each strategy
adds its own faults and passes those of the strategies inside it on.
-/

namespace Resilience

namespace Mark

def trial? : Mark → Option (Nat × Outcome)
  | tried number outcome => some (number, outcome)
  | entered .. | handled .. | told _ => none

def tries (marks : List Mark) : List (Nat × Outcome) := marks.filterMap trial?

@[simp] theorem tries_nil : tries [] = [] := rfl

@[simp] theorem tries_append (first second : List Mark) :
    tries (first ++ second) = tries first ++ tries second :=
  List.filterMap_append

@[simp] theorem tries_told (event : Event) (marks : List Mark) :
    tries (told event :: marks) = tries marks := rfl

@[simp] theorem tries_tried (number : Nat) (outcome : Outcome) (marks : List Mark) :
    tries (tried number outcome :: marks) = (number, outcome) :: tries marks := rfl

@[simp] theorem tries_entered (policy : BulkheadPolicy) (admission : Admission)
    (marks : List Mark) : tries (entered policy admission :: marks) = tries marks := rfl

@[simp] theorem tries_handled (name : String) (fault : Fault)
    (answer : Option (Except Failure String)) (marks : List Mark) :
    tries (handled name fault answer :: marks) = tries marks := rfl

end Mark

namespace Invocation

open Mark

def Heard (tries : List (Nat × Outcome)) : Prop :=
  ∀ tried ∈ tries, tried.2 ≠ .error .cancelled

/-- How attempts from a number on fail. -/
inductive Fails (policy : Policy) (number : Nat) (tries : List (Nat × Outcome)) : Fault → Prop
  | cancelled : Fails policy number tries .cancelled
  | inner {failure : Failure} {last : Nat}
      (lasts : tries.getLast? = some (last, .error (.inner failure))) (heard : Heard tries) :
      Fails policy number tries (.inner failure)
  | timeout {timeout : TimeoutPolicy} {elapsed limit : Duration}
      (declared : policy.timeout = some timeout) (bound : limit = timeout.duration.toDuration) :
      Fails policy number tries (.timeout elapsed limit)
  | refused {breaker : BreakerPolicy} {retryAfter : Duration}
      (declared : policy.breaker = some breaker) (samples : breaker.sampling = .attempt)
      (within : retryAfter ≤ breaker.delay.toDuration) :
      Fails policy number tries (.circuitOpen retryAfter)
  | exhausted {retry : RetryPolicy} {attempts : Nat} {last : Fault} {category : Category}
      (declared : policy.retry = some retry) (count : number + tries.length = attempts + 1)
      (tried : number ≤ attempts) (within : attempts ≤ retry.maxRetries.toNat + 1)
      (repeats : Repeats retry last category) (heard : Heard tries) :
      Fails policy number tries (.retryExhausted attempts last)

/-- Where the fault of an invocation comes from. -/
inductive Origin (operation : OperationId) (policy : Policy) (marks : List Mark) : Fault → Prop
  | attempts {fault : Fault} (fails : Fails policy 1 (tries marks) fault) :
      Origin operation policy marks fault
  | refused {breaker : BreakerPolicy} {retryAfter : Duration}
      (declared : policy.breaker = some breaker) (samples : breaker.sampling = .invocation)
      (within : retryAfter ≤ breaker.delay.toDuration) (untried : tries marks = []) :
      Origin operation policy marks (.circuitOpen retryAfter)
  | unmade {retry : RetryPolicy} {name : String} (declared : policy.retry = some retry)
      (named : retry.backoff = .custom name) (untried : tries marks = []) :
      Origin operation policy marks (.misconfigured operation
        ("backoff strategy '" ++ name ++ "' is not registered"))
  | full {bulkhead : BulkheadPolicy} {inFlight max waiting : Nat}
      (declared : policy.bulkhead = some bulkhead)
      (entered : .entered bulkhead (.full inFlight max waiting) ∈ marks)
      (untried : tries marks = []) :
      Origin operation policy marks (.bulkheadFull inFlight max waiting)
  | handler {name : String} {fault : Fault} {failure : Failure}
      (handled : .handled name fault (some (.error failure)) ∈ marks) :
      Origin operation policy marks (.inner failure)
  | missing {fallback : FallbackPolicy} (declared : policy.fallback = some fallback) :
      Origin operation policy marks (.misconfigured operation ("fallback handler '" ++
        fallback.handler ++ "' is not registered for this operation's types"))

variable {operation : OperationId} {policy : Policy} {marks : List Mark} {outcome : Outcome}
  {fault : Fault}

theorem Sampled.parts {sampling : Sampling} {inside : List Mark → Outcome → Prop}
    (sampled : Sampled policy sampling inside marks outcome) :
    (∃ before within after, marks = before ++ (within ++ after) ∧ tries before = [] ∧
        tries after = [] ∧ inside within outcome) ∨
      ∃ breaker retryAfter, policy.breaker = some breaker ∧ breaker.sampling = sampling ∧
        retryAfter ≤ breaker.delay.toDuration ∧ outcome = .error (.circuitOpen retryAfter) ∧
          tries marks = [] := by
  have unguarded (does : inside marks outcome) : ∃ before within after,
      marks = before ++ (within ++ after) ∧ tries before = [] ∧ tries after = [] ∧
        inside within outcome := ⟨[], marks, [], by simp, rfl, rfl, does⟩
  unfold Sampled at sampled
  cases declared : policy.breaker with
  | none =>
    simp only [declared] at sampled
    exact .inl (unguarded sampled)
  | some breaker =>
    simp only [declared] at sampled
    by_cases samples : breaker.sampling = sampling
    · rw [if_pos samples] at sampled
      cases sampled with
      | refused within => exact .inr ⟨breaker, _, rfl, samples, within, rfl, rfl⟩
      | @admitted before marks after outcome renews does settles =>
        refine .inl ⟨before, marks, after, List.append_assoc .., ?_, ?_, does⟩
        · obtain rfl | rfl := renews <;> rfl
        · obtain rfl | rfl | ⟨failures, samples, rfl⟩ := settles <;> rfl
    · rw [if_neg samples] at sampled
      exact .inl (unguarded sampled)

theorem Called.fails {number : Nat} (called : Called policy number marks outcome) :
    tries marks = [(number, outcome)] ∧
      ∀ fault, outcome = .error fault → Fails policy number (tries marks) fault := by
  cases called with
  | timely ended =>
    refine ⟨rfl, fun fault same => ?_⟩
    subst same
    obtain rfl | ⟨failure, rfl⟩ := ended fault rfl
    · exact .cancelled
    · exact .inner rfl (by simp [Heard])
  | late declared bound =>
    refine ⟨rfl, fun fault same => ?_⟩
    cases same
    exact .timeout declared bound

theorem Tried.fails {number : Nat} (tried : Tried policy number marks (.error fault)) :
    Fails policy number (tries marks) fault := by
  obtain ⟨before, within, after, rfl, untriedBefore, untriedAfter, called⟩ |
    ⟨breaker, retryAfter, declared, samples, within, refused, -⟩ := Sampled.parts tried
  · simpa [untriedBefore, untriedAfter] using called.fails.2 fault rfl
  · cases refused
    exact .refused declared samples within

/-- An attempt that is repeated was made, and nobody gave it up. -/
theorem Tried.made {number : Nat} {category : Category}
    (tried : Tried policy number marks (.error fault)) (repeatable : Repeatable fault category) :
    tries marks = [(number, .error fault)] ∧ fault ≠ .cancelled := by
  refine ⟨?_, ?_⟩
  · obtain ⟨before, within, after, rfl, untriedBefore, untriedAfter, called⟩ |
      ⟨_, retryAfter, _, _, _, refused, _⟩ := Sampled.parts tried
    · simpa [untriedBefore, untriedAfter] using called.fails.1
    · cases refused
      simpa using repeatable.own
  · rintro rfl
    simpa using repeatable.own

/-- An attempt that is repeated counts among those that fail after it. -/
theorem Fails.again {number : Nat} {later : List (Nat × Outcome)} {repeated : Fault}
    (fails : Fails policy (number + 1) later fault) (heard : repeated ≠ .cancelled) :
    Fails policy number ((number, .error repeated) :: later) fault := by
  have alsoHeard (others : Heard later) : Heard ((number, .error repeated) :: later) :=
    List.forall_mem_cons.mpr ⟨fun same => heard (Except.error.inj same), others⟩
  cases fails with
  | cancelled => exact .cancelled
  | @inner failure last lasts others =>
    have stillLasts : ((number, .error repeated) :: later).getLast? =
        some (last, .error (.inner failure)) := by
      rw [List.getLast?_cons, lasts]
      rfl
    exact .inner stillLasts (alsoHeard others)
  | timeout declared bound => exact .timeout declared bound
  | refused declared samples within => exact .refused declared samples within
  | exhausted declared count tried within repeats others =>
    refine .exhausted declared ?_ (by omega) within repeats (alsoHeard others)
    rw [List.length_cons]
    omega

theorem Retried.fails {retry : RetryPolicy} {number : Nat} (declared : policy.retry = some retry)
    (retried : Retried retry (Tried policy) number marks outcome) :
    ∀ fault, outcome = .error fault → Fails policy number (tries marks) fault := by
  induction retried with
  | final tried =>
    rintro fault rfl
    exact tried.fails
  | aborted tried aborts =>
    rintro fault ⟨⟩
    simpa using tried.fails
  | exhausted tried repeats within =>
    rintro fault ⟨⟩
    obtain ⟨made, heard⟩ := tried.made repeats.toRepeatable
    refine .exhausted declared ?_ (Nat.le_refl _) within repeats ?_
    · simp [made]
    · simpa [made, Heard] using heard
  | givenUp =>
    rintro fault ⟨⟩
    exact .cancelled
  | again tried repeats _ _ inductionHypothesis =>
    intro fault same
    obtain ⟨made, heard⟩ := tried.made repeats.toRepeatable
    simpa [made] using (inductionHypothesis fault same).again heard

theorem Attempted.origin (attempted : Attempted operation policy marks (.error fault)) :
    Origin operation policy marks fault := by
  cases attempted with
  | single _ tried => exact .attempts tried.fails
  | unmade declared named => exact .unmade declared named rfl
  | row declared retried => exact .attempts (retried.fails declared fault rfl)

theorem Origin.around (origin : Origin operation policy marks fault) (before after : List Mark)
    (untriedBefore : tries before = []) (untriedAfter : tries after = []) :
    Origin operation policy (before ++ (marks ++ after)) fault := by
  have same : tries (before ++ (marks ++ after)) = tries marks := by
    simp [untriedBefore, untriedAfter]
  have member {mark : Mark} (member : mark ∈ marks) : mark ∈ before ++ (marks ++ after) :=
    List.mem_append_right before (List.mem_append_left after member)
  cases origin with
  | attempts fails => exact .attempts (same ▸ fails)
  | refused declared samples within untried =>
    exact .refused declared samples within (same.trans untried)
  | unmade declared named untried => exact .unmade declared named (same.trans untried)
  | full declared entered untried => exact .full declared (member entered) (same.trans untried)
  | handler handled => exact .handler (member handled)
  | missing declared => exact .missing declared

theorem Guarded.origin (guarded : Guarded operation policy marks (.error fault)) :
    Origin operation policy marks fault := by
  obtain ⟨before, within, after, rfl, untriedBefore, untriedAfter, attempted⟩ |
    ⟨breaker, retryAfter, declared, samples, within, refused, untried⟩ := Sampled.parts guarded
  · exact attempted.origin.around before after untriedBefore untriedAfter
  · cases refused
    exact .refused declared samples within untried

theorem Entered.origin {bulkhead : BulkheadPolicy} (declared : policy.bulkhead = some bulkhead)
    (entered : Entered bulkhead marks (.error fault)) : Origin operation policy marks fault := by
  cases entered with
  | left => exact .attempts .cancelled
  | rejected => exact .full declared (.head _) rfl

theorem Entered.untried {bulkhead : BulkheadPolicy} {entry : Except Fault Unit}
    (entered : Entered bulkhead marks entry) : tries marks = [] := by
  cases entered <;> rfl

/-- The fallback passes a fault on, or puts one of its own in its place. -/
theorem Recovered.origin {later : List Mark}
    (recovered : Recovered operation policy outcome later (.error fault))
    (inside : outcome = .error fault → Origin operation policy marks fault) :
    Origin operation policy (marks ++ later) fault := by
  cases recovered with
  | kept => simpa using (inside rfl).around [] [] rfl rfl
  | failed => exact .handler (List.mem_append_right marks (.head _))
  | missing answers => exact .missing answers.declared

theorem Passed.origin (passed : Passed operation policy marks (.error fault)) :
    Origin operation policy marks fault := by
  cases passed with
  | unlimited _ guarded recovered =>
    refine recovered.origin fun same => ?_
    subst same
    exact guarded.origin
  | @admitted _ first _ _ _ _ _ entered guarded recovered =>
    rw [← List.append_assoc]
    refine recovered.origin fun same => ?_
    subst same
    simpa using guarded.origin.around first [] entered.untried rfl
  | refused declared entered recovered =>
    refine recovered.origin fun same => ?_
    cases same
    exact entered.origin declared

/-- Every fault that an invocation of a registered operation ends with comes from one of its
strategies. -/
theorem Story.origin (story : Story operation policy marks (.error fault)) :
    Origin operation policy marks fault := by
  cases story with
  | told passed => simpa using passed.origin.around [] _ rfl (tries_told _ [])

end Invocation

end Resilience
