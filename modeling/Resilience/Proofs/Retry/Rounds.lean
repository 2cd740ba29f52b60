import Resilience.Proofs.Invocation.Story

/-!
Rounds: what a row of attempts with the retries between them comes to, however each attempt ends,
whatever the clock shows and whenever the caller gives up. The last outcome alone decides the end of
the row, by the first of a few rules that applies to it.
-/

namespace Resilience

/-- What answers requests, by what was asked and answered before. -/
abbrev Surroundings := List Exchange → (request : Request) → request.Answer

namespace Plan

variable {α : Type}

/-- The exchanges of a plan in its surroundings, after those that went before, and its value. -/
def follow (surroundings : Surroundings) : Plan α → List Exchange → List Exchange × α
  | .done value, past => (past, value)
  | .ask request next, past =>
    (next (surroundings past request)).follow surroundings
      (past ++ [⟨request, surroundings past request⟩])

theorem follow_returns (surroundings : Surroundings) (plan : Plan α) (past : List Exchange) :
    ∃ history, (plan.follow surroundings past).1 = past ++ history ∧
      plan.Returns history (plan.follow surroundings past).2 := by
  induction plan generalizing past with
  | done value => exact ⟨[], (List.append_nil past).symm, .refl _⟩
  | ask request next inductionHypothesis =>
    obtain ⟨history, path, returns⟩ := inductionHypothesis (surroundings past request)
      (past ++ [⟨request, surroundings past request⟩])
    exact ⟨_ :: history, path.trans (List.append_assoc ..), .ask returns⟩

end Plan

namespace Exchange

def number? : Exchange → Option Nat
  | ⟨.attempt number .., _⟩ => some number
  | _ => none

def reading? : Exchange → Option Nat
  | ⟨.clock, now⟩ => some now
  | _ => none

def wait? : Exchange → Option (Duration × Bool)
  | ⟨.pause delay, ended⟩ => some (delay, ended)
  | _ => none

end Exchange

def numbers (history : List Exchange) : List Nat := history.filterMap Exchange.number?

/-- What the clock showed, the first time first. -/
def readings (history : List Exchange) : List Nat := history.filterMap Exchange.reading?

def waits (history : List Exchange) : List (Duration × Bool) := history.filterMap Exchange.wait?

/-- A rule about the last outcome of a row: whether it applies, and to what the row comes then. -/
structure RetryRule where
  applies : Bool
  outcome : Outcome
  stop : RetryStop

def RetryRule.first? : List RetryRule → Option (Outcome × RetryStop)
  | [] => none
  | rule :: rest => if rule.applies then some (rule.outcome, rule.stop) else first? rest

namespace RetryPolicy

/-- The rules about the outcome of an attempt after a time, with the delay that would follow. -/
def rules (policy : RetryPolicy) (number elapsed : Nat) (delay : Duration) :
    Outcome → List RetryRule
  | .ok text => [⟨true, .ok text, .succeeded⟩]
  | .error fault =>
    [⟨fault = .cancelled, .error fault, .cancelled⟩,
      ⟨!(fault.isInner || fault.isTimeout), .error fault, .notRetryable⟩,
      ⟨fault.category?.any policy.abortOn.contains, .error fault, .aborted⟩,
      ⟨!fault.category?.any policy.retryOn.contains, .error fault, .notRetryable⟩,
      ⟨number = policy.maxRetries.toNat + 1, .error (.retryExhausted number fault),
        .maxRetriesReached⟩,
      ⟨0 < policy.budget ∧ policy.budget ≤ elapsed + delay.millis,
        .error (.retryExhausted number fault), .maxDurationReached⟩]

/-- What the first rule that applies makes of an outcome. If none does, there is a wait. -/
def verdict? (policy : RetryPolicy) (number elapsed : Nat) (delay : Duration) (ended : Outcome) :
    Option (Outcome × RetryStop) :=
  RetryRule.first? (policy.rules number elapsed delay ended)

variable {policy : RetryPolicy} {number elapsed : Nat} {delay : Duration} {ended : Outcome}

/-- The limit of the counted milliseconds hides no time that is too long. -/
theorem exceeds_iff :
    policy.exceeds elapsed delay ↔
      0 < policy.budget ∧ policy.budget ≤ elapsed + delay.millis := by
  have counted : policy.budget ≤ 2 ^ 64 - 1 := Nat.min_le_right _ _
  simp only [exceeds, decide_eq_true_eq, Nat.le_min]
  exact ⟨fun ⟨limited, reached, _⟩ => ⟨limited, reached⟩,
    fun ⟨limited, reached⟩ => ⟨limited, reached, counted⟩⟩

open Invocation

def verdictOn? (policy : RetryPolicy) (number elapsed : Nat) (delay : Duration)
    (ended : Outcome) : Judgement → Option (Outcome × RetryStop)
  | .final stop => some (ended, stop)
  | .aborted _ => some (ended, .aborted)
  | .failed fault _ =>
    if number = policy.maxRetries.toNat + 1 then
      some (.error (.exhausted number fault), .maxRetriesReached)
    else if policy.exceeds elapsed delay then
      some (.error (.exhausted number fault), .maxDurationReached)
    else none

theorem verdict?_eq (policy : RetryPolicy) (number elapsed : Nat) (delay : Duration)
    (ended : Outcome) :
    policy.verdict? number elapsed delay ended =
      policy.verdictOn? number elapsed delay ended (policy.judge ended) := by
  cases ended with
  | ok text => rfl
  | error fault =>
    have repeatable {category : Category} (repeatable : Repeatable fault category) :
        policy.verdict? number elapsed delay (.error fault) =
          policy.verdictOn? number elapsed delay (.error fault)
            (if policy.abortOn.contains category then .aborted category
              else if policy.retryOn.contains category then .failed fault category
              else .final .notRetryable) := by
      have own : fault ≠ .cancelled ∧ (fault.isInner || fault.isTimeout) = true := by
        obtain ⟨_, rfl⟩ | ⟨_, _, rfl⟩ := repeatable.own <;> exact ⟨nofun, rfl⟩
      cases aborted : policy.abortOn.contains category <;>
        cases repeated : policy.retryOn.contains category <;>
          simp [verdict?, rules, RetryRule.first?, verdictOn?, repeatable.known,
            repeatable.exhausted_eq, exceeds_iff, own, aborted, repeated]
    cases fault with
    | inner failure => exact repeatable ⟨.inl ⟨failure, rfl⟩, rfl⟩
    | timeout elapsed limit => exact repeatable ⟨.inr ⟨elapsed, limit, rfl⟩, rfl⟩
    | cancelled => rfl
    | _ => rfl

/-- The waits after the attempts from a number on, each of which came to its end. -/
def waited (backoff : Backoff) (first retries : Nat) : List (Duration × Bool) :=
  (List.range' first retries).map fun number => (backoff.delay number, true)

/-- How a row of attempts goes from its first one through some retries to its end. -/
structure Rounds (policy : RetryPolicy) (backoff : Backoff) (started first retries : Nat)
    (history : List Exchange) (ended outcome : Outcome) (report : RetryReport) : Prop where
  within : first + retries ≤ policy.maxRetries.toNat + 1
  numbers : numbers history = List.range' first (retries + 1)
  outcomes : ∃ earlier, outcomes history = earlier ++ [ended] ∧
    ∀ each ∈ earlier, ∃ fault category, each = .error fault ∧ Repeats policy fault category
  counted : report.retries + 1 = first + retries
  timed : ∀ fault category, ended = .error fault → Repeats policy fault category →
    (readings history).length = retries + 1
  ends :
    let last := first + retries
    let verdict := policy.verdict? last ((readings history).getD retries 0 - started)
      (backoff.delay last) ended
    verdict = some (outcome, report.stop) ∧ waits history = waited backoff first retries ∨
      verdict = none ∧ outcome = .error .cancelled ∧ report.stop = .cancelled ∧
        waits history = waited backoff first retries ++ [(backoff.delay last, false)]

section Rows

variable {backoff : Backoff} {started first retries : Nat} {history : List Exchange}
  {outcome : Outcome} {report : RetryReport} {limit : Option Duration} {heeds : Bool}

theorem Rounds.again {fault : Fault} {category : Category}
    (repeats : Repeats policy fault category) (now : Nat) (line : LogLine) (event : Event)
    (rest : policy.Rounds backoff started (first + 1) retries history ended outcome report) :
    policy.Rounds backoff started first (retries + 1)
      (⟨.attempt first limit heeds, .error fault⟩ :: ⟨.clock, now⟩ :: ⟨.log line, ()⟩ ::
        ⟨.emit event, ()⟩ :: ⟨.pause (backoff.delay first), true⟩ :: history)
      ended outcome report := by
  have later : first + 1 + retries = first + (retries + 1) := Nat.succ_add_eq_add_succ ..
  obtain ⟨within, numbers, ⟨earlier, outcomes, repeated⟩, counted, timed, ends⟩ := rest
  rw [later] at within counted ends
  refine ⟨within, congrArg (first :: ·) numbers, ⟨.error fault :: earlier, ?_, ?_⟩, counted,
    ?_, ?_⟩
  · exact congrArg (.error fault :: ·) outcomes
  · exact List.forall_mem_cons.mpr ⟨⟨fault, category, rfl, repeats⟩, repeated⟩
  · exact fun fault category same repeated => congrArg (· + 1) (timed fault category same repeated)
  · exact ends.imp (fun ⟨found, waits⟩ => ⟨found, congrArg (_ :: ·) waits⟩)
      fun ⟨found, left, stopped, waits⟩ => ⟨found, left, stopped, congrArg (_ :: ·) waits⟩

/-- A row of one attempt, with what is asked after it. -/
theorem Rounds.single {stop : RetryStop} (within : retries ≤ policy.maxRetries.toNat)
    (numbers : Resilience.numbers history = []) (outcomes : Resilience.outcomes history = [])
    (timed : ∀ fault category, ended = .error fault → Repeats policy fault category →
      (readings history).length = 1)
    (ends :
      let last := retries + 1
      let verdict := policy.verdict? last ((readings history).getD 0 0 - started)
        (backoff.delay last) ended
      verdict = some (outcome, stop) ∧ waits history = [] ∨
        verdict = none ∧ outcome = .error .cancelled ∧ stop = .cancelled ∧
          waits history = [(backoff.delay last, false)]) :
    policy.Rounds backoff started (retries + 1) 0
      (⟨.attempt (retries + 1) limit heeds, ended⟩ :: history) ended outcome ⟨retries, stop⟩ where
  within := Nat.succ_le_succ within
  numbers := congrArg ((retries + 1) :: ·) numbers
  outcomes := ⟨[], congrArg (ended :: ·) outcomes, List.forall_mem_nil _⟩
  counted := rfl
  timed := timed
  ends := ends

end Rows

end RetryPolicy

namespace Retrier

open Invocation

variable {retrier : Retrier} {limit : Option Duration} {heeds : Bool} {started : Nat}

theorem giveUp_returns {attempts elapsed : Nat} {last : Fault} {stop : RetryStop}
    {history : List Exchange} {outcome : Outcome} {report : RetryReport}
    (returns : (retrier.giveUp attempts elapsed last stop).Returns history (outcome, report)) :
    (∃ line event, history = [⟨.log line, ()⟩, ⟨.emit event, ()⟩]) ∧
      outcome = .error (.exhausted attempts last) ∧ report = ⟨attempts - 1, stop⟩ := by
  simp only [giveUp, Plan.log, Plan.emit, Plan.ask_bind, Plan.done_bind] at returns
  obtain ⟨_, _, rfl, logged⟩ := Plan.returns_ask.mp returns
  obtain ⟨_, _, rfl, told⟩ := Plan.returns_ask.mp logged
  obtain ⟨rfl, same⟩ := Plan.returns_done.mp told
  cases same
  exact ⟨⟨_, _, rfl⟩, rfl, rfl⟩

theorem attempts_rounds_step (still : retrier.jitter = .none) {remaining retries : Nat}
    (all : retries + remaining = retrier.policy.maxRetries.toNat) {history : List Exchange}
    {outcome : Outcome} {report : RetryReport}
    (again : ∀ fewer later, remaining = fewer + 1 →
      (retrier.attempts (Plan.attempt · limit heeds) started fewer (retries + 1)).Returns later
        (outcome, report) →
      ∃ more ended, retrier.policy.Rounds retrier.backoff started (retries + 2) more later ended
        outcome report)
    (returns : (retrier.attempts (Plan.attempt · limit heeds) started remaining retries).Returns
      history (outcome, report)) :
    ∃ more ended, retrier.policy.Rounds retrier.backoff started (retries + 1) more history ended
      outcome report := by
  unfold attempts at returns
  simp only [Plan.attempt, Plan.ask_bind, Plan.done_bind] at returns
  obtain ⟨ended, tail, rfl, follows⟩ := Plan.returns_ask.mp returns
  have within : retries ≤ retrier.policy.maxRetries.toNat := by omega
  have ruled (elapsed : Nat) := retrier.policy.verdict?_eq (retries + 1) elapsed
    (retrier.backoff.delay (retries + 1)) ended
  have judgement := judged retrier.policy ended
  generalize retrier.policy.judge ended = verdict at ruled follows judgement
  cases judgement with
  | final unjudged =>
    obtain ⟨rfl, same⟩ := Plan.returns_done.mp follows
    cases same
    refine ⟨0, _, .single within rfl rfl (fun fault category same repeats => ?_)
      (.inl ⟨ruled _, rfl⟩)⟩
    exact absurd repeats (unjudged fault category same).1
  | aborted aborts =>
    simp only [Plan.log, Plan.emit, Plan.ask_bind, Plan.done_bind] at follows
    obtain ⟨_, _, rfl, logged⟩ := Plan.returns_ask.mp follows
    obtain ⟨_, _, rfl, told⟩ := Plan.returns_ask.mp logged
    obtain ⟨rfl, same⟩ := Plan.returns_done.mp told
    cases same
    refine ⟨0, _, .single within rfl rfl (fun fault category same repeats => ?_)
      (.inl ⟨ruled _, rfl⟩)⟩
    cases same
    cases aborts.known.symm.trans repeats.known
    exact absurd aborts.aborted (Bool.eq_false_iff.mp repeats.kept)
  | @failed fault category repeats =>
    simp only [Plan.clock, Plan.ask_bind, Plan.done_bind] at follows
    obtain ⟨now, _, rfl, timed⟩ := Plan.returns_ask.mp follows
    have givesUp {stop : RetryStop} {later : List Exchange}
        (decided : retrier.policy.verdictOn? (retries + 1) (now - started)
          (retrier.backoff.delay (retries + 1)) (.error fault) (.failed fault category) =
            some (.error (.exhausted (retries + 1) fault), stop))
        (given : (retrier.giveUp (retries + 1) (now - started) fault stop).Returns later
          (outcome, report)) :
        ∃ more ended, retrier.policy.Rounds retrier.backoff started (retries + 1) more
          (⟨.attempt (retries + 1) limit heeds, .error fault⟩ :: ⟨.clock, now⟩ :: later) ended
          outcome report := by
      obtain ⟨⟨line, event, rfl⟩, rfl, rfl⟩ := giveUp_returns given
      exact ⟨0, _, .single within rfl rfl (fun _ _ _ _ => rfl)
        (.inl ⟨(ruled _).trans decided, rfl⟩)⟩
    cases remaining with
    | zero => exact givesUp (if_pos (by omega)) timed
    | succ fewer =>
      have more : retries + 1 ≠ retrier.policy.maxRetries.toNat + 1 := by omega
      simp only [still, Plan.jittered, Plan.done_bind] at timed
      split at timed
      next exceeds => exact givesUp ((if_neg more).trans (if_pos exceeds)) timed
      next admissible =>
        simp only [Plan.log, Plan.emit, Plan.pause, Plan.ask_bind, Plan.done_bind] at timed
        obtain ⟨_, _, rfl, logged⟩ := Plan.returns_ask.mp timed
        obtain ⟨_, _, rfl, told⟩ := Plan.returns_ask.mp logged
        obtain ⟨goesOn, later, rfl, paused⟩ := Plan.returns_ask.mp told
        cases goesOn with
        | true =>
          obtain ⟨more, ended, rounds⟩ := again fewer later rfl paused
          exact ⟨more + 1, ended, rounds.again repeats now _ _⟩
        | false =>
          obtain ⟨rfl, same⟩ := Plan.returns_done.mp paused
          cases same
          have undecided := (ruled (now - started)).trans
            ((if_neg more).trans (if_neg admissible))
          exact ⟨0, _, .single within rfl rfl (fun _ _ _ _ => rfl)
            (.inr ⟨undecided, rfl, rfl, rfl⟩)⟩

theorem attempts_rounds (still : retrier.jitter = .none) {remaining retries : Nat}
    (all : retries + remaining = retrier.policy.maxRetries.toNat) {history : List Exchange}
    {outcome : Outcome} {report : RetryReport}
    (returns : (retrier.attempts (Plan.attempt · limit heeds) started remaining retries).Returns
      history (outcome, report)) :
    ∃ more ended, retrier.policy.Rounds retrier.backoff started (retries + 1) more history ended
      outcome report := by
  -- The induction is on the retries that are left, one round a step.
  induction remaining generalizing retries history with
  | zero => exact attempts_rounds_step still all (fun _ _ none => nomatch none) returns
  | succ remaining inductionHypothesis =>
    refine attempts_rounds_step still all (fun fewer later same follows => ?_) returns
    cases same
    exact inductionHypothesis (by omega) follows

/-- Without jitter a policy makes its attempts, numbered from one, and the waits between them, and
comes to what the first rule about the last outcome says, whatever the attempts come to, whatever
the clock shows and whenever the caller gives up. -/
theorem run_rounds (operation : OperationId) {policy : RetryPolicy}
    (still : policy.jitter.isZero = true) (backoff : Backoff) (limit : Option Duration)
    (heeds : Bool) (surroundings : Surroundings) :
    let retrier := { ofPolicy operation policy with backoff }
    let (history, outcome, report) :=
      (retrier.run (Plan.attempt · limit heeds)).follow surroundings []
    ∃ started rest retries ended, history = ⟨.clock, started⟩ :: rest ∧
      policy.Rounds backoff started 1 retries rest ended outcome report := by
  intro retrier
  have calm : retrier.jitter = .none := by
    refine if_pos ?_
    have zero : policy.jitter.value = 0 := of_decide_eq_true still
    simp [Amount.nanos_toDuration, zero]
  obtain ⟨history, same, returns⟩ :=
    (retrier.run (Plan.attempt · limit heeds)).follow_returns surroundings []
  obtain ⟨started, rest, rfl, follows⟩ := Plan.returns_ask.mp returns
  obtain ⟨retries, ended, rounds⟩ := attempts_rounds calm (Nat.zero_add _) follows
  exact ⟨started, rest, retries, ended, same, rounds⟩

def patient : RetryPolicy := { maxRetries := 1, delay := .millis 1000, jitter := .millis 0 }

def failing : Surroundings := fun _ => fun
  | .clock | .time => 0
  | .emit _ | .log _ | .count .. | .leaveBulkhead | .dropPermit => ()
  | .resolve | .strategy _ | .handle .. | .recordSample .. => none
  | .enterBulkhead _ => ⟨false, .admitted, 0⟩
  | .awaitSlot | .pause _ => true
  | .bulkheadLoad => (0, 0)
  | .acquirePermit _ => .ok none
  | .attempt .. => .error (.inner ⟨"Down", "no"⟩)
  | .jitter _ delay => delay

/-- Two failed attempts with a wait of a second between them. -/
theorem run_rounds_patient :
    patient.jitter.isZero = true ∧
      let retrier := ofPolicy "pay" patient
      let (history, outcome, report) := (retrier.run (Plan.attempt · none false)).follow failing []
      report = ⟨1, .maxRetriesReached⟩ ∧ waits history = [(.ofMillis 1000, true)] ∧
        ∃ started rest retries ended, history = ⟨.clock, started⟩ :: rest ∧
          patient.Rounds retrier.backoff started 1 retries rest ended outcome report :=
  ⟨rfl, by decide +kernel, by decide +kernel,
    run_rounds "pay" rfl (ofPolicy "pay" patient).backoff none false failing⟩

end Retrier

end Resilience
