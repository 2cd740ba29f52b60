import Resilience.Proofs.Invocation.Path
import Resilience.Proofs.Plan.Tale

/-!
The story of an invocation: the order in which its strategies show up in its marks, strategy by
strategy from the inside out, and that every invocation tells such a story.
-/

namespace Resilience.Invocation

inductive Called (policy : Policy) (number : Nat) : List Mark → Outcome → Prop
  | timely {outcome : Outcome} (ended : ∀ fault, outcome = .error fault →
        fault = .cancelled ∨ ∃ failure, fault = .inner failure) :
      Called policy number [.tried number outcome] outcome
  | late {timeout : TimeoutPolicy} {elapsed limit : Duration}
      (declared : policy.timeout = some timeout) (bound : limit = timeout.duration.toDuration) :
      Called policy number
        [.tried number (.error (.timeout elapsed limit)), .told (.timeoutOccurred number limit)]
        (.error (.timeout elapsed limit))

inductive Through (rule : BreakerRule) (inside : List Mark → Outcome → Prop) :
    List Mark → Outcome → Prop
  | refused {retryAfter : Duration} (within : retryAfter ≤ rule.delay.toDuration) :
      Through rule inside [.told (.breakerRejected retryAfter)] (.error (.circuitOpen retryAfter))
  | admitted {before marks after : List Mark} {outcome : Outcome}
      (renews : before = [] ∨ before = [.told .breakerHalfOpen]) (does : inside marks outcome)
      (settles : after = [] ∨ after = [.told .breakerClosed] ∨
        ∃ failures samples, after = [.told (.breakerOpened failures samples)]) :
      Through rule inside (before ++ marks ++ after) outcome

def Sampled (policy : Policy) (sampling : Sampling) (inside : List Mark → Outcome → Prop) :
    List Mark → Outcome → Prop :=
  match policy.breaker with
  | some breaker =>
    if breaker.sampling = sampling then Through breaker.toBreakerRule inside else inside
  | none => inside

def Tried (policy : Policy) (number : Nat) : List Mark → Outcome → Prop :=
  Sampled policy .attempt (Called policy number)

/-- Whether a failure may be repeated at all, and its category: one of the operation itself, or of
its time. -/
structure Repeatable (fault : Fault) (category : Category) : Prop where
  own : (∃ failure, fault = .inner failure) ∨ ∃ elapsed limit, fault = .timeout elapsed limit
  known : fault.category? = some category

/-- Whether a retry policy repeats a failure. -/
structure Repeats (policy : RetryPolicy) (fault : Fault) (category : Category) : Prop
    extends Repeatable fault category where
  repeated : policy.retryOn.contains category = true
  kept : policy.abortOn.contains category = false

/-- Whether a retry policy never repeats a failure. -/
structure Aborts (policy : RetryPolicy) (fault : Fault) (category : Category) : Prop
    extends Repeatable fault category where
  aborted : policy.abortOn.contains category = true

/-- The attempts of a retry policy from a number on. Only a failure that the policy repeats is
followed by another attempt. -/
inductive Retried (policy : RetryPolicy) (attempt : Nat → List Mark → Outcome → Prop) :
    Nat → List Mark → Outcome → Prop
  | final {number : Nat} {marks : List Mark} {outcome : Outcome}
      (tried : attempt number marks outcome)
      (unjudged : ∀ fault category, outcome = .error fault →
        ¬Repeats policy fault category ∧ ¬Aborts policy fault category) :
      Retried policy attempt number marks outcome
  | aborted {number : Nat} {marks : List Mark} {fault : Fault} {category : Category}
      (tried : attempt number marks (.error fault)) (aborts : Aborts policy fault category) :
      Retried policy attempt number (marks ++ [.told (.retryAborted number category)])
        (.error fault)
  | exhausted {number : Nat} {marks : List Mark} {fault : Fault} {category : Category}
      {duration : Duration} (tried : attempt number marks (.error fault))
      (repeats : Repeats policy fault category) (within : number ≤ policy.maxRetries.toNat + 1) :
      Retried policy attempt number (marks ++ [.told (.retryExhausted number duration)])
        (.error (.retryExhausted number fault))
  | givenUp {number : Nat} {marks : List Mark} {fault : Fault} {category : Category}
      {delay : Duration} (tried : attempt number marks (.error fault))
      (repeats : Repeats policy fault category) (within : number ≤ policy.maxRetries.toNat) :
      Retried policy attempt number (marks ++ [.told (.retryAttempt number delay)])
        (.error .cancelled)
  | again {number : Nat} {marks later : List Mark} {fault : Fault} {category : Category}
      {delay : Duration} {outcome : Outcome} (tried : attempt number marks (.error fault))
      (repeats : Repeats policy fault category) (within : number ≤ policy.maxRetries.toNat)
      (rest : Retried policy attempt (number + 1) later outcome) :
      Retried policy attempt number (marks ++ .told (.retryAttempt number delay) :: later) outcome

/-- All attempts: a single one without a retry policy, and none if its backoff is missing. -/
inductive Attempted (operation : OperationId) (policy : Policy) : List Mark → Outcome → Prop
  | single {marks : List Mark} {outcome : Outcome} (undeclared : policy.retry = none)
      (tried : Tried policy 1 marks outcome) : Attempted operation policy marks outcome
  | unmade {retry : RetryPolicy} {name : String} (declared : policy.retry = some retry)
      (named : retry.backoff = .custom name) :
      Attempted operation policy [] (.error (.misconfigured operation
        ("backoff strategy '" ++ name ++ "' is not registered")))
  | row {retry : RetryPolicy} {marks : List Mark} {outcome : Outcome}
      (declared : policy.retry = some retry)
      (retried : Retried retry (Tried policy) 1 marks outcome) :
      Attempted operation policy marks outcome

/-- All attempts behind a breaker that samples invocations. -/
def Guarded (operation : OperationId) (policy : Policy) : List Mark → Outcome → Prop :=
  Sampled policy .invocation (Attempted operation policy)

/-- Whether the fallback of a policy answers a fault of a category. -/
structure Answers (policy : Policy) (fallback : FallbackPolicy) (fault : Fault)
    (category : Category) : Prop where
  declared : policy.fallback = some fallback
  known : fault.category? = some category
  applies : fallback.applies (some category) = true

inductive Recovered (operation : OperationId) (policy : Policy) :
    Outcome → List Mark → Outcome → Prop
  | kept {outcome : Outcome} (unanswered : ∀ fallback fault category, outcome = .error fault →
        ¬Answers policy fallback fault category) :
      Recovered operation policy outcome [] outcome
  | applied {fallback : FallbackPolicy} {fault : Fault} {category : Category} {text : String}
      (answers : Answers policy fallback fault category) :
      Recovered operation policy (.error fault)
        [.handled fallback.handler fault (some (.ok text)),
          .told (.fallbackApplied fallback.handler category)]
        (.ok text)
  | failed {fallback : FallbackPolicy} {fault : Fault} {category : Category} {failure : Failure}
      (answers : Answers policy fallback fault category) :
      Recovered operation policy (.error fault)
        [.handled fallback.handler fault (some (.error failure)),
          .told (.fallbackFailed fallback.handler category)]
        (.error (.inner failure))
  | missing {fallback : FallbackPolicy} {fault : Fault} {category : Category}
      (answers : Answers policy fallback fault category) :
      Recovered operation policy (.error fault) [.handled fallback.handler fault none]
        (.error (.misconfigured operation ("fallback handler '" ++ fallback.handler ++
          "' is not registered for this operation's types")))

inductive Entered (policy : BulkheadPolicy) : List Mark → Except Fault Unit → Prop
  | acquired {active max : Nat} :
      Entered policy [.entered policy .admitted, .told (.bulkheadAcquired active max)] (.ok ())
  | queued {ticket waiting active max : Nat} :
      Entered policy
        [.entered policy (.queued ticket), .told (.bulkheadQueued waiting policy.queueSize.toNat),
          .told (.bulkheadAcquired active max)]
        (.ok ())
  | left {ticket waiting : Nat} :
      Entered policy
        [.entered policy (.queued ticket), .told (.bulkheadQueued waiting policy.queueSize.toNat)]
        (.error .cancelled)
  | rejected {inFlight max waiting : Nat} :
      Entered policy
        [.entered policy (.full inFlight max waiting),
          .told (.bulkheadRejected inFlight max waiting)]
        (.error (.bulkheadFull inFlight max waiting))

inductive Passed (operation : OperationId) (policy : Policy) : List Mark → Outcome → Prop
  | unlimited {marks later : List Mark} {outcome final : Outcome}
      (undeclared : policy.bulkhead = none) (guarded : Guarded operation policy marks outcome)
      (recovered : Recovered operation policy outcome later final) :
      Passed operation policy (marks ++ later) final
  | admitted {bulkhead : BulkheadPolicy} {first marks later : List Mark} {outcome final : Outcome}
      (declared : policy.bulkhead = some bulkhead) (entered : Entered bulkhead first (.ok ()))
      (guarded : Guarded operation policy marks outcome)
      (recovered : Recovered operation policy outcome later final) :
      Passed operation policy (first ++ (marks ++ later)) final
  | refused {bulkhead : BulkheadPolicy} {first later : List Mark} {fault : Fault} {final : Outcome}
      (declared : policy.bulkhead = some bulkhead) (entered : Entered bulkhead first (.error fault))
      (recovered : Recovered operation policy (.error fault) later final) :
      Passed operation policy (first ++ later) final

/-- The whole story, which closes with the one event of the outcome. -/
inductive Story (operation : OperationId) (policy : Policy) : List Mark → Outcome → Prop
  | told {marks : List Mark} {outcome : Outcome} {duration : Duration}
      (passed : Passed operation policy marks outcome) :
      Story operation policy (marks ++ [.told (outcomeEvent duration outcome)]) outcome

variable {operation : OperationId} {policy : Policy}

theorem call_tells (number : Nat) :
    (call operation policy number).Tells (Called policy number) := by
  refine .ask fun outcome possible => ?_
  cases outcome with
  | ok text => exact .done (.timely nofun)
  | error fault =>
    obtain rfl | ⟨failure, rfl⟩ | ⟨elapsed, bound, limited, rfl⟩ := possible
    · exact .done (.timely fun _ same => .inl (Except.error.inj same).symm)
    · exact .done (.timely fun _ same => .inr ⟨failure, (Except.error.inj same).symm⟩)
    · obtain ⟨timeout, declared, rfl⟩ := Option.map_eq_some_iff.mp limited
      exact .pass fun _ _ => .pass fun _ _ => .ask fun _ _ => .done (.late declared rfl)

theorem report_tells (transition : Option Transition) :
    (report transition).Tells fun marks _ => marks =
      match transition with
      | none => []
      | some (.opened failures samples) => [.told (.breakerOpened failures samples)]
      | some .halfOpened => [.told .breakerHalfOpen]
      | some .closed => [.told .breakerClosed] := by
  cases transition with
  | none => exact .done rfl
  | some transition =>
    cases transition with
    | opened failures samples => exact .pass fun _ _ => .ask fun _ _ => .done rfl
    | halfOpened => exact .ask fun _ _ => .done rfl
    | closed => exact .ask fun _ _ => .done rfl

/-- What follows the outcome of what a breaker guards shows at most that the breaker opens or
closes. -/
theorem settle_tells (breaker : BreakerPolicy) (outcome : Outcome) :
    (settle breaker outcome).Tells fun marks final => final = outcome ∧
      (marks = [] ∨ marks = [.told .breakerClosed] ∨
        ∃ failures samples, marks = [.told (.breakerOpened failures samples)]) := by
  unfold settle
  split
  · refine .pass fun changed possible => (report_tells changed).bind fun marks _ shown => .done ?_
    rw [List.append_nil, shown]
    refine ⟨rfl, ?_⟩
    cases changed with
    | none => exact .inl rfl
    | some transition =>
      cases transition with
      | opened failures samples => exact .inr (.inr ⟨failures, samples, rfl⟩)
      | halfOpened => exact absurd rfl possible
      | closed => exact .inr (.inl rfl)
  · exact .pass fun _ _ => .done ⟨rfl, .inl rfl⟩

theorem throughBreaker_tells (breaker : BreakerPolicy) {guarded : Plan Outcome}
    {inside : List Mark → Outcome → Prop} (does : guarded.Tells inside) :
    (throughBreaker breaker guarded).Tells (Through breaker.toBreakerRule inside) := by
  rw [throughBreaker_eq]
  refine .pass fun answer possible => ?_
  cases answer with
  | error retryAfter => exact .pass fun _ _ => .ask fun _ _ => .done (.refused possible)
  | ok transition =>
    refine (report_tells transition).bind fun before _ shown => ?_
    refine does.bind fun marks outcome done => ?_
    refine (settle_tells breaker outcome).mono fun after final settled => ?_
    obtain ⟨rfl, settles⟩ := settled
    rw [← List.append_assoc]
    refine .admitted ?_ done settles
    obtain rfl | rfl := possible
    · exact .inl shown
    · exact .inr shown

theorem sampled_tells (sampling : Sampling) {guarded : Plan Outcome}
    {inside : List Mark → Outcome → Prop} (does : guarded.Tells inside) :
    (sampled policy sampling guarded).Tells (Sampled policy sampling inside) := by
  unfold sampled Sampled
  cases policy.breaker with
  | none => exact does
  | some breaker =>
    by_cases samples : breaker.sampling = sampling
    · simpa [samples] using throughBreaker_tells breaker does
    · simpa [samples] using does

theorem attempt_tells (number : Nat) :
    (attempt operation policy number).Tells (Tried policy number) :=
  sampled_tells .attempt (call_tells number)

/-- Only failures of the operation itself and timeouts are judged by their categories. -/
inductive Judged (policy : RetryPolicy) : Outcome → Judgement → Prop
  | final {outcome : Outcome} {stop : RetryStop} (unjudged : ∀ fault category,
        outcome = .error fault → ¬Repeats policy fault category ∧ ¬Aborts policy fault category) :
      Judged policy outcome (.final stop)
  | aborted {fault : Fault} {category : Category} (aborts : Aborts policy fault category) :
      Judged policy (.error fault) (.aborted category)
  | failed {fault : Fault} {category : Category} (repeats : Repeats policy fault category) :
      Judged policy (.error fault) (.failed fault category)

theorem judged (policy : RetryPolicy) (outcome : Outcome) :
    Judged policy outcome (policy.judge outcome) := by
  cases outcome with
  | ok text => exact .final nofun
  | error fault =>
    have unrepeatable {stop : RetryStop} (never : ∀ category, ¬Repeatable fault category) :
        Judged policy (.error fault) (.final stop) := by
      refine .final fun other category same => ?_
      cases same
      exact ⟨fun repeats => never _ repeats.toRepeatable,
        fun aborts => never _ aborts.toRepeatable⟩
    have repeatable {category : Category} (repeatable : Repeatable fault category) :
        Judged policy (.error fault)
          (if policy.abortOn.contains category then .aborted category
            else if policy.retryOn.contains category then .failed fault category
            else .final .notRetryable) := by
      split
      next aborted => exact .aborted ⟨repeatable, aborted⟩
      next kept =>
        split
        next repeated => exact .failed ⟨repeatable, repeated, Bool.eq_false_iff.mpr kept⟩
        next unrepeated =>
          refine .final fun other category same => ?_
          cases same
          refine ⟨fun repeats => ?_, fun aborts => ?_⟩
          · cases repeatable.known.symm.trans repeats.known
            exact unrepeated repeats.repeated
          · cases repeatable.known.symm.trans aborts.known
            exact kept aborts.aborted
    cases fault with
    | inner failure => exact repeatable ⟨.inl ⟨failure, rfl⟩, rfl⟩
    | timeout elapsed limit => exact repeatable ⟨.inr ⟨elapsed, limit, rfl⟩, rfl⟩
    | _ => exact unrepeatable fun category never => by simpa using never.own

theorem Repeatable.exhausted_eq {fault : Fault} {category : Category}
    (repeatable : Repeatable fault category) (attempts : Nat) :
    fault.exhausted attempts = .retryExhausted attempts fault := by
  obtain ⟨_, rfl⟩ | ⟨_, _, rfl⟩ := repeatable.own <;> rfl

section Attempts

variable {retrier : Retrier} {attempt : Nat → Plan Outcome}
  {tale : Nat → List Mark → Outcome → Prop} {started remaining retries : Nat}

theorem attempts_tells_step (tells : ∀ number, (attempt number).Tells (tale number))
    (all : retries + remaining = retrier.policy.maxRetries.toNat)
    (again : ∀ fewer, remaining = fewer + 1 →
      (retrier.attempts attempt started fewer (retries + 1)).Tells fun marks ended =>
        Retried retrier.policy tale (retries + 2) marks ended.1) :
    (retrier.attempts attempt started remaining retries).Tells fun marks ended =>
      Retried retrier.policy tale (retries + 1) marks ended.1 := by
  unfold Retrier.attempts
  refine (tells _).bind fun marks outcome tried => ?_
  have judgement := judged retrier.policy outcome
  generalize retrier.policy.judge outcome = verdict at judgement
  cases judgement with
  | final unjudged =>
    refine .done ?_
    rw [List.append_nil]
    exact .final tried unjudged
  | aborted aborts => exact .pass fun _ _ => .ask fun _ _ => .done (.aborted tried aborts)
  | @failed fault category repeats =>
    have givesUp (elapsed : Nat) (stop : RetryStop) :
        (retrier.giveUp (retries + 1) elapsed fault stop).Tells fun later ended =>
          Retried retrier.policy tale (retries + 1) (marks ++ later) ended.1 := by
      refine .pass fun _ _ => .ask fun _ _ => .done ?_
      rw [repeats.exhausted_eq]
      exact .exhausted tried repeats (by omega)
    refine .pass fun now _ => ?_
    cases remaining with
    | zero => exact givesUp _ _
    | succ fewer =>
      have jittered (delay : Duration) :
          (Plan.jittered retrier.jitter delay).Tells fun marks _ => marks = [] := by
        cases retrier.jitter with
        | none => exact .done rfl
        | bounded bound => exact .pass fun _ _ => .done rfl
      refine (jittered _).bind fun _ delay silent => ?_
      subst silent
      split
      · exact givesUp _ _
      · refine .pass fun _ _ => .ask fun _ _ => .pass fun goesOn _ => ?_
        cases goesOn with
        | false => exact .done (.givenUp tried repeats (by omega))
        | true => exact (again fewer rfl).mono fun later ended rest =>
            .again tried repeats (by omega) rest

theorem attempts_tells (tells : ∀ number, (attempt number).Tells (tale number))
    (all : retries + remaining = retrier.policy.maxRetries.toNat) :
    (retrier.attempts attempt started remaining retries).Tells fun marks ended =>
      Retried retrier.policy tale (retries + 1) marks ended.1 := by
  induction remaining generalizing retries with
  | zero => exact attempts_tells_step tells all nofun
  | succ remaining inductionHypothesis =>
    refine attempts_tells_step tells all fun fewer same => ?_
    cases same
    exact inductionHypothesis (by omega)

end Attempts

theorem retrier_tells (retry : RetryPolicy) :
    (retrier operation retry).Tells fun marks made => marks = [] ∧
      match made with
      | .ok made => made.policy = retry
      | .error fault => ∃ name, retry.backoff = .custom name ∧ fault = .misconfigured operation
          ("backoff strategy '" ++ name ++ "' is not registered") := by
  unfold retrier
  split
  next name named =>
    refine .pass fun strategy _ => ?_
    dsimp only [Plan.bind]
    split
    · exact .done ⟨rfl, rfl⟩
    · exact .done ⟨rfl, name, named, rfl⟩
  next => exact .done ⟨rfl, rfl⟩

theorem allAttempts_tell (operation : OperationId) (policy : Policy) :
    (attempts operation policy).Tells (Attempted operation policy) := by
  unfold attempts
  split
  next undeclared => exact (attempt_tells 1).mono fun _ _ tried => .single undeclared tried
  next retry declared =>
    refine (retrier_tells retry).bind fun _ made shown => ?_
    obtain ⟨rfl, shown⟩ := shown
    cases made with
    | error fault =>
      obtain ⟨name, named, rfl⟩ := shown
      exact .done (.unmade declared named)
    | ok made =>
      have ran : (made.run (attempt operation policy)).Tells fun marks ended =>
          Retried retry (Tried policy) 1 marks ended.1 := by
        refine .pass fun started _ => ?_
        rw [← shown]
        exact attempts_tells attempt_tells (Nat.zero_add _)
      refine ran.bind fun marks ended retried => .pass fun _ _ => ?_
      have closes : Attempted operation policy (marks ++ []) ended.1 := by
        rw [List.append_nil]
        exact .row declared retried
      split
      · exact .pass fun _ _ => .done closes
      · exact .done closes

theorem guarded_tells (operation : OperationId) (policy : Policy) :
    (guarded operation policy).Tells (Guarded operation policy) :=
  sampled_tells .invocation (allAttempts_tell operation policy)

theorem handled_tells {fallback : FallbackPolicy} {fault : Fault} {category : Category}
    (answers : Answers policy fallback fault category) :
    (handled operation fallback.handler category fault).Tells
      (Recovered operation policy (.error fault)) := by
  refine .ask fun answer _ => ?_
  match answer with
  | none => exact .pass fun _ _ => .done (.missing answers)
  | some (.ok text) =>
    exact .pass fun _ _ => .pass fun _ _ => .ask fun _ _ => .done (.applied answers)
  | some (.error failure) =>
    exact .pass fun _ _ => .pass fun _ _ => .ask fun _ _ => .done (.failed answers)

theorem recovered_tells (outcome : Outcome) :
    (recovered operation policy outcome).Tells (Recovered operation policy outcome) := by
  cases outcome with
  | ok text => exact .done (.kept nofun)
  | error fault =>
    have kept (unanswered : ∀ fallback category, ¬Answers policy fallback fault category) :
        Recovered operation policy (.error fault) [] (.error fault) :=
      .kept fun fallback _ category same => Except.error.inj same ▸ unanswered fallback category
    cases declared : policy.fallback with
    | none =>
      simp only [recovered, declared]
      exact .done (kept fun _ _ answers => nomatch declared.symm.trans answers.declared)
    | some fallback =>
      cases known : fault.category? with
      | none =>
        simp only [recovered, declared, known]
        exact .done (kept fun _ _ answers => nomatch known.symm.trans answers.known)
      | some category =>
        simp only [recovered, declared, known]
        by_cases applies : fallback.applies (some category) = true
        · rw [if_pos applies]
          exact handled_tells ⟨declared, known, applies⟩
        · rw [if_neg applies]
          refine .done (kept fun other named answers => applies ?_)
          cases declared.symm.trans answers.declared
          cases known.symm.trans answers.known
          exact answers.applies

theorem acquired_tells :
    enter.acquired.Tells fun marks entered => entered = .ok () ∧
      ∃ active max, marks = [.told (.bulkheadAcquired active max)] :=
  .pass fun _ _ => .ask fun _ _ => .done ⟨rfl, _, _, rfl⟩

theorem enter_tells (bulkhead : BulkheadPolicy) :
    (enter operation bulkhead).Tells (Entered bulkhead) := by
  refine .ask fun entry _ => ?_
  obtain ⟨rebuilt, admission, waiting⟩ := entry
  -- The rebuilding of a bulkhead is told to the log only.
  have logged {line : LogLine} {rest : Plan (Except Fault Unit)}
      {tale : List Mark → Except Fault Unit → Prop} (tells : rest.Tells tale) :
      (if rebuilt then Plan.log line >>= fun _ => rest else rest).Tells tale := by
    cases rebuilt with
    | false => exact tells
    | true => exact .pass fun _ _ => tells
  cases admission with
  | admitted =>
    refine logged (acquired_tells.mono fun marks entered shown => ?_)
    obtain ⟨rfl, active, max, rfl⟩ := shown
    exact .acquired
  | queued ticket =>
    refine logged (.pass fun _ _ => .pass fun _ _ => .ask fun _ _ => .pass fun granted _ => ?_)
    cases granted with
    | false => exact .done .left
    | true =>
      refine acquired_tells.mono fun marks entered shown => ?_
      obtain ⟨rfl, active, max, rfl⟩ := shown
      exact .queued
  | full inFlight max waiting =>
    exact logged (.pass fun _ _ => .pass fun _ _ => .ask fun _ _ => .done .rejected)

theorem strategies_tell (operation : OperationId) (policy : Policy) :
    (strategies operation policy).Tells (Passed operation policy) := by
  unfold strategies
  cases declared : policy.bulkhead with
  | none =>
    refine (guarded_tells operation policy).bind fun marks outcome guarded => ?_
    exact (recovered_tells outcome).mono fun later final recovered =>
      .unlimited declared guarded recovered
  | some bulkhead =>
    refine (enter_tells bulkhead).bind fun first entry entered => ?_
    cases entry with
    | error fault =>
      exact (recovered_tells (.error fault)).mono fun later final recovered =>
        .refused declared entered recovered
    | ok =>
      refine (guarded_tells operation policy).bind fun marks outcome guarded => ?_
      refine (recovered_tells outcome).bind fun later final recovered => ?_
      refine .pass fun _ _ => .done ?_
      rw [List.append_nil]
      exact .admitted declared entered guarded recovered

/-- Every invocation of a registered operation tells a story of the policy that was found. Any other
one looks for a policy and ends. -/
theorem plan_tells {history : List Exchange} {outcome : Outcome}
    (returns : (plan operation).Returns history outcome)
    (possible : ∀ exchange ∈ history, exchange.Possible) :
    match resolved? history with
    | some policy => Story operation policy (marks history) outcome
    | none => (∃ started line, history = [⟨.time, started⟩, ⟨.resolve, none⟩, ⟨.log line, ()⟩]) ∧
        outcome = .error (.unknownOperation operation) := by
  obtain ⟨started, tail, rfl, follows⟩ := Plan.returns_ask.mp returns
  obtain ⟨found, rest, rfl, proceeds⟩ := Plan.returns_ask.mp follows
  have later : ∀ exchange ∈ rest, exchange.Possible :=
    fun exchange member => possible exchange (.tail _ (.tail _ member))
  cases found with
  | none =>
    obtain ⟨_, tail, rfl, ends⟩ := Plan.returns_ask.mp proceeds
    obtain ⟨rfl, rfl⟩ := Plan.returns_done.mp ends
    exact ⟨⟨started, _, rfl⟩, rfl⟩
  | some policy =>
    refine Plan.Tells.pass (fun _ _ => ?_) (fun _ => rfl) rest outcome proceeds later
    refine (strategies_tell operation policy).bind fun marks ended passed => ?_
    exact .pass fun _ _ => .pass fun _ _ => .ask fun _ _ => .done (.told passed)

/-- A call of a service that is not ready at first ends before anything is asked. -/
theorem service_returns {service : Service} {history : List Exchange} {outcome : Outcome}
    (returns : (service.plan operation).Returns history outcome) :
    (plan operation).Returns history outcome ∨ ∃ failure, service.unready? 1 = some failure ∧
      history = [] ∧ outcome = .error (.inner failure) := by
  unfold Service.plan at returns
  split at returns
  next failure unready =>
    obtain ⟨rfl, rfl⟩ := Plan.returns_done.mp returns
    exact .inr ⟨failure, unready, rfl, rfl⟩
  next => exact .inl returns

end Resilience.Invocation
