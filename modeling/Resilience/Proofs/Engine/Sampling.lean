import Resilience.Proofs.Engine.History

/-!
Sampling: what the breakers of an engine come to know of an invocation, whatever else the engine
does at the same time. A breaker that samples invocations gets one sample of an invocation that it
admitted, that called its operation and that was not given up; a missing backoff is the exception,
for it counts as a success although nothing was called.
-/

namespace Resilience

open Move

namespace BreakerPolicy

variable {breaker : BreakerPolicy} {outcome : Outcome}

/-- The samples that an invocation owes a breaker that samples invocations. -/
def due (breaker : BreakerPolicy) (admitted called : Bool) (outcome : Outcome) : List Bool :=
  if admitted && called then (breaker.sample? outcome).toList else []

theorem due_cancelled (admitted called : Bool) :
    breaker.due admitted called (.error .cancelled) = [] := by
  unfold due
  split <;> rfl

theorem sample?_eq_none : breaker.sample? outcome = none ↔ outcome = .error .cancelled := by
  constructor
  · intro none
    unfold sample? at none
    split at none <;> first | rfl | cases none
  · rintro rfl
    rfl

theorem sample?_error {fault : Fault} (heard : fault ≠ .cancelled) :
    breaker.sample? (.error fault) = some (breaker.countsAsFailure fault.category?) := by
  cases fault with
  | cancelled => exact absurd rfl heard
  | _ => rfl

theorem countsAsFailure_iff {category? : Option Category} :
    breaker.countsAsFailure category? = true ↔
      ∃ category, category? = some category ∧
        breaker.failOn.contains category = true ∧ breaker.skipOn.contains category = false := by
  cases category? with
  | none => exact ⟨nofun, nofun⟩
  | some category => simp [countsAsFailure]

theorem sample?_eq_failure : breaker.sample? outcome = some true ↔
    ∃ fault category, outcome = .error fault ∧ fault.category? = some category ∧
      breaker.failOn.contains category = true ∧ breaker.skipOn.contains category = false := by
  cases outcome with
  | ok text => exact ⟨nofun, nofun⟩
  | error fault =>
    by_cases heard : fault = .cancelled
    · subst heard
      refine ⟨nofun, ?_⟩
      rintro ⟨_, _, same, none, -⟩
      cases same
      cases none
    · rw [sample?_error heard, Option.some_inj, countsAsFailure_iff]
      constructor
      · rintro ⟨category, known, counts⟩
        exact ⟨fault, category, rfl, known, counts⟩
      · rintro ⟨_, category, same, known, counts⟩
        cases same
        exact ⟨category, known, counts⟩

end BreakerPolicy

/-- Whether moves change nothing that breakers show, but for an admission that makes the breaker of
their own operation half-open when it was open. -/
def Unseen (operation : OperationId) (moves : List (Move Outcome)) : Prop :=
  ∀ move ∈ moves, ∀ other,
    (move.before.circuit other).Undisturbed (move.after.circuit other) ∨
      other = operation ∧
        (∃ rule answer wait, move.deed = .answered ⟨.acquirePermit rule, answer⟩ wait) ∧
          (move.before.circuit other).state = .open ∧
            (move.after.circuit other).state = .halfOpen ∧
              (move.after.circuit other).window = (move.before.circuit other).window ∧
                (move.after.circuit other).successes = 0

/-- Whether moves end with a result. -/
def Returned (moves : List (Move Outcome)) : Prop :=
  ∃ move ∈ moves, ∃ result, move.result? = some result

inductive SampledOnce (operation : OperationId) (policy : Policy) (breaker : BreakerPolicy)
    (mine : List (Move Outcome)) : Prop
  /-- It has not come to what the policy guards, or never did, as when a bulkhead is full. -/
  | outside (quiet : Quiet (history mine)) (unseen : Unseen operation mine)
  /-- It is on its guarded path, or was stopped there. A sample is of attempts that have ended. -/
  | inside {before part : List Exchange} {left : Plan Outcome}
      (path : history mine = before ++ part) (quiet : Quiet before)
      (leads : (Invocation.guarded operation policy).Leads part left) (underway : left.Unended)
      (unreturned : ¬Returned mine)
      (sampled : samples (history mine) = [] ∨ ∃ inner outcome, inner <:+: part ∧
        (Invocation.attempts operation policy).Returns inner outcome ∧
          admissions (history mine) = 1 ∧
            (calls mine ≠ [] ∨ lacksBackoff (history mine) = true) ∧
              samples (history mine) = (breaker.sample? outcome).toList)
  /-- The guarded path ended with an outcome, and the samples are those that are due. It was not
  admitted only if the breaker turned it away. -/
  | ruled {before part after : List Exchange} {outcome : Outcome}
      (path : history mine = before ++ part ++ after) (quiet : Quiet before)
      (quietAfter : Quiet after)
      (returns : (Invocation.guarded operation policy).Returns part outcome)
      (present : lacksBackoff (history mine) = false)
      (turnedAway : admissions (history mine) = 0 →
        ∃ retryAfter, outcome = .error (.circuitOpen retryAfter))
      (sampled : samples (history mine) =
        breaker.due (0 < admissions (history mine)) (calls mine ≠ []) outcome)
      (unseen : admissions (history mine) = 0 ∨ outcome = .error .cancelled →
        Unseen operation mine)
  /-- The backoff was missing. Nothing was called, and the breaker was told of a success. -/
  | misconfigured {before part after : List Exchange} {reason : String}
      (path : history mine = before ++ part ++ after) (quiet : Quiet before)
      (quietAfter : Quiet after)
      (returns : (Invocation.guarded operation policy).Returns part
        (.error (.misconfigured operation reason)))
      (lacking : lacksBackoff (history mine) = true) (admitted : admissions (history mine) = 1)
      (uncalled : calls mine = []) (sampled : samples (history mine) = [false])

/-- How an invocation stands with a breaker that samples attempts: each was admitted, and every
outcome but perhaps that of the last one on its way has its sample. -/
structure SampledEach (breaker : BreakerPolicy) (mine : List (Move Outcome)) (owed : List Bool)
    (pending : Nat) : Prop where
  sampled : (outcomes (history mine)).filterMap breaker.sample? = samples (history mine) ++ owed
  admitted : admissions (history mine) = (outcomes (history mine)).length + pending
  underway : owed.length + pending ≤ 1
  settled : Returned mine → owed = [] ∧ pending = 0

/-- What breakers come to know of the moves of an invocation. -/
structure Accounted (operation : OperationId) (mine : List (Move Outcome)) : Prop where
  affects : ∀ move ∈ mine, move.Affects operation
  unseen : samples (history mine) = [] → Unseen operation mine
  once : ∀ policy breaker, resolved? (history mine) = some policy →
    policy.breaker = some breaker → breaker.sampling = .invocation →
      SampledOnce operation policy breaker mine
  each : ∀ policy breaker, resolved? (history mine) = some policy →
    policy.breaker = some breaker → breaker.sampling = .attempt →
      ∃ owed pending, SampledEach breaker mine owed pending

variable {operation : OperationId} {mine : List (Move Outcome)} {policy : Policy}
  {breaker : BreakerPolicy} {service : Service} {plan : Plan Outcome}

theorem sample_mem {move : Move Outcome} (member : move ∈ mine) {rule : BreakerRule}
    {failed : Bool} {answer : (Request.recordSample rule failed).Answer} {wait : Wait}
    (recorded : move.deed = .answered ⟨.recordSample rule failed, answer⟩ wait) :
    failed ∈ samples (history mine) := by
  refine List.mem_filterMap.mpr ⟨⟨.recordSample rule failed, answer⟩, ?_, rfl⟩
  refine List.mem_filterMap.mpr ⟨move, member, ?_⟩
  unfold exchange?
  rw [recorded]

/-- Without a sample, breakers see nothing but an admission. -/
theorem unseen_of_unsampled (affects : ∀ move ∈ mine, move.Affects operation)
    (unsampled : samples (history mine) = []) : Unseen operation mine := by
  intro move member other
  have effect := affects move member
  rcases move with ⟨id, before, deed, after⟩
  cases deed with
  | answered exchange wait =>
    rcases exchange with ⟨request, answer⟩
    cases request with
    | acquirePermit rule =>
      obtain ⟨-, circuits⟩ := effect
      rw [circuits other]
      split
      next same =>
        subst same
        rcases Breaker.acquire_undisturbed (before.circuit operation) rule before.clock with
          undisturbed | opened
        · exact .inl undisturbed
        · exact .inr ⟨rfl, ⟨rule, answer, wait, rfl⟩, opened⟩
      next => exact .inl (.refl _)
    | recordSample rule failed =>
      have member := sample_mem member rfl
      rw [unsampled] at member
      cases member
    | _ => exact .inl (effect other)
  | _ => exact .inl (effect other)

theorem not_asksAttempt_of_quiet (quiet : plan.Uses Request.Quiet) : ¬plan.AsksAttempt := by
  intro asks
  cases plan with
  | done => exact asks
  | ask request next =>
    cases request with
    | attempt => exact quiet.1
    | _ => exact asks

theorem Account.sampledOnce (account : Account (service.plan operation) operation mine plan)
    (returned : Returned mine → ¬plan.Unended) (resolves : resolved? (history mine) = some policy)
    (found : policy.breaker = some breaker) (sampling : breaker.sampling = .invocation) :
    SampledOnce operation policy breaker mine := by
  have unseen := unseen_of_unsampled account.affects
  have outside (quiet : Quiet (history mine)) : SampledOnce operation policy breaker mine :=
    .outside quiet (unseen (samples_of_offBreaker quiet.offBreaker))
  rcases Invocation.service_around account.leads with quiet | ⟨other, resolved, around⟩
  · exact outside quiet
  cases Option.some.inj (resolves.symm.trans resolved)
  obtain ⟨row, path⟩ : ∃ row, history mine = row := ⟨_, rfl⟩
  rw [path] at around
  cases around with
  | outside quiet => exact outside (path ▸ quiet)
  | @inside before part left _ quiet leads underway unended =>
    refine .inside path quiet leads underway (fun finished => returned finished unended) ?_
    have silent : samples (history mine) = samples part := by
      rw [path, samples_append, samples_of_offBreaker quiet.offBreaker, List.nil_append]
    rcases Invocation.settlement_of_sampled found sampling leads with
      unsampled | ⟨inner, outcome, within, ended, settled⟩
    · exact .inl (silent.trans unsampled)
    have settled := settled.around quiet Quiet.nil
    rw [List.append_nil, ← path] at settled
    cases settled with
    | rejected _ _ _ _ unsampled => exact .inl unsampled
    | @attempted first admitted member cancels _ sampled =>
      by_cases heard : outcome = .error .cancelled
      · rw [heard] at sampled
        exact .inl sampled
      · have started := account.called first member fun gaveUp => heard (cancels gaveUp)
        exact .inr ⟨inner, outcome, within, ended, admitted, .inl started, sampled⟩
    | misconfigured admitted _ lacking fails sampled =>
      refine .inr ⟨inner, outcome, within, ended, admitted, .inr lacking, ?_⟩
      rw [sampled, fails]
      rfl
  | @beyond before part after outcome _ quiet returns quietAfter closing =>
    have settled := (Invocation.settlement found sampling returns).around quiet quietAfter
    rw [← path] at settled
    cases settled with
    | rejected turnedAway unadmitted _ present unsampled =>
      refine .ruled path quiet quietAfter returns present (fun _ => ⟨_, turnedAway⟩) ?_
        fun _ => unseen unsampled
      rw [unsampled, unadmitted]
      rfl
    | @attempted first admitted member cancels present sampled =>
      refine .ruled path quiet quietAfter returns present (fun unadmitted => ?_) ?_ ?_
      · rw [admitted] at unadmitted
        cases unadmitted
      · by_cases heard : outcome = .error .cancelled
        · rw [sampled, heard, BreakerPolicy.due_cancelled]
          rfl
        · have started := account.called first member fun gaveUp => heard (cancels gaveUp)
          rw [sampled, admitted, decide_eq_true started]
          rfl
      · rintro (unadmitted | gaveUp)
        · rw [admitted] at unadmitted
          cases unadmitted
        · rw [gaveUp] at sampled
          exact unseen sampled
    | @misconfigured reason admitted unattempted lacking fails sampled =>
      subst fails
      refine .misconfigured path quiet quietAfter returns lacking admitted ?_ sampled
      -- What is left of the plan is quiet, so no attempt can be on its way either.
      apply Decidable.not_not.mp
      intro started
      rcases account.asked started with attempted | asks
      · exact attempted unattempted
      · exact not_asksAttempt_of_quiet closing asks

theorem Account.sampledEach (account : Account (service.plan operation) operation mine plan)
    (returned : Returned mine → ¬plan.Unended) (resolves : resolved? (history mine) = some policy)
    (found : policy.breaker = some breaker) (sampling : breaker.sampling = .attempt) :
    ∃ owed pending, SampledEach breaker mine owed pending := by
  rcases Invocation.service_around account.leads with quiet | ⟨other, resolved, around⟩
  · refine ⟨[], 0, ?_, ?_, Nat.zero_le 1, fun _ => ⟨rfl, rfl⟩⟩
    · rw [quiet.outcomes_eq, samples_of_offBreaker quiet.offBreaker]
      rfl
    · rw [quiet.outcomes_eq, admissions_of_offBreaker quiet.offBreaker]
      rfl
  · cases Option.some.inj (resolves.symm.trans resolved)
    obtain ⟨phase, sampled, admitted, back⟩ :=
      Invocation.attempts_sampled found sampling around
    refine ⟨phase.owed, phase.pending, sampled, admitted, phase.owed_pending_le, ?_⟩
    intro ended
    rw [back (returned ended)]
    exact ⟨rfl, rfl⟩

theorem Account.accounted (account : Account (service.plan operation) operation mine plan)
    (returned : Returned mine → ¬plan.Unended) : Accounted operation mine where
  affects := account.affects
  unseen := unseen_of_unsampled account.affects
  once _ _ := account.sampledOnce returned
  each _ _ := account.sampledEach returned

namespace Engine

theorem spawn_fate (engine : Engine Outcome) {task : Task Outcome} {start : Plan Outcome}
    (unbegun : task.progress = .suspended start .unbegun) (free : task.permit = none) :
    Fate start task.operation engine.nextTask [] ⟨(engine.spawn task).2, none⟩ := by
  have core : (engine.spawn task).2.core? engine.nextTask =
      some (task.operation, none, .suspended start .unbegun) := by
    rw [core?_spawn, if_pos rfl, unbegun, free]
  have nothing {P : Move Outcome → Prop} : ∀ move ∈ ([] : List (Move Outcome)), P move :=
    fun _ none => absurd none List.not_mem_nil
  have uncalled : ∀ ended ∈ outcomes (history ([] : List (Move Outcome))),
      ended ≠ .error .cancelled → calls ([] : List (Move Outcome)) ≠ [] :=
    fun _ none => absurd none List.not_mem_nil
  refine .suspended (apart_none engine.nextTask) core
    ⟨⟨.refl start, uncalled, fun started => absurd rfl started, nothing⟩, rfl, ?_, nothing⟩
  intro begun
  cases begun

/-- Whatever an engine does besides, its breakers come to know of an invocation what they are due,
and a success of one whose backoff is missing. Only who gave up is not sampled, and a failure is a
fault whose category counts as one. -/
theorem samples_accounted (engine : Engine Outcome) (operation : OperationId) (input : String)
    (service : Service) (linked cancelled : Bool) {moves : List (Move Outcome)}
    {stage : Stage Outcome}
    (run : Run ⟨(engine.spawn (invocation operation input service linked cancelled)).2, none⟩
      moves stage) :
    Accounted operation (own engine.nextTask moves) ∧
      ∀ (breaker : BreakerPolicy) (outcome : Outcome),
        (breaker.sample? outcome = none ↔ outcome = .error .cancelled) ∧
          (breaker.sample? outcome = some true ↔
            ∃ fault category, outcome = .error fault ∧ fault.category? = some category ∧
              breaker.failOn.contains category = true ∧
                breaker.skipOn.contains category = false) := by
  have known : engine.nextTask <
      (engine.spawn (invocation operation input service linked cancelled)).2.nextTask := by
    rw [nextTask_spawn]
    exact Nat.lt_succ_self engine.nextTask
  obtain ⟨-, fate⟩ := (engine.spawn_fate rfl rfl).run (fun _ _ => Invocation.service_permits)
    known run
  obtain ⟨plan, account, results⟩ := fate.account
  have returned (ended : Returned (own engine.nextTask moves)) : ¬plan.Unended := by
    obtain ⟨move, member, result, finished⟩ := ended
    rw [results move member result finished]
    exact not_false
  exact ⟨account.accounted returned, fun breaker outcome =>
    ⟨BreakerPolicy.sample?_eq_none, BreakerPolicy.sample?_eq_failure⟩⟩

/-- An engine that knows one operation, with its policy and its breaker. -/
def knowing (operation : OperationId) (policy : Policy) (breaker : Breaker)
    (clock : ManualClock) : Engine Outcome where
  registry := ⟨({} : Table OperationId Registration).set operation ⟨policy, [], policy⟩⟩
  operations := ({} : Table OperationId OperationState).set operation { breaker }
  manualClock := clock

/-- The moves of an invocation that goes on at once, in an engine of its own. -/
def movesOf (engine : Engine Outcome) (operation : OperationId) (service : Service) :
    List (Move Outcome) :=
  (engine.starting (invocation operation "" service true false)).moves engine.nextTask
    (service.plan operation) .unbegun

/-- A service that always fails for the same reason. -/
def failing : Service := { respond := fun _ => .immediate (.error (.inner ⟨"Other", "no"⟩)) }

/-- A call that fails is one failure for its breaker. -/
theorem samples_accounted_failing :
    let engine := knowing "pay" { breaker := some {} } {} {}
    let mine := own engine.nextTask (engine.movesOf "pay" failing)
    Accounted "pay" mine ∧ Returned mine ∧ calls mine = [1] ∧
      samples (history mine) = [true] := by
  refine ⟨?_, ?_, rfl, rfl⟩
  · exact (samples_accounted (knowing "pay" { breaker := some {} } {} {}) "pay" "" failing true
      false (run_starting _ rfl)).1
  · exact ⟨_, List.mem_of_getElem? (i := 9) rfl, _, rfl⟩

/-- A probe whose backoff is missing closes its breaker, although nothing was called. -/
theorem closes_uncalled :
    let policy : Policy := { breaker := some {}, retry := some { backoff := .custom "steps" } }
    let engine := knowing "pay" policy { state := .open, generation := 1 } ⟨5000⟩
    let moves := engine.movesOf "pay" failing
    ∃ stage, Run ⟨(engine.spawn (invocation "pay" "" failing true false)).2, none⟩ moves stage ∧
      resolved? (history moves) = some policy ∧ admissions (history moves) = 1 ∧
        calls moves = [] ∧ samples (history moves) = [false] ∧
          (stage.engine.circuit "pay").state = .closed := by
  refine ⟨_, run_starting _ rfl, rfl, rfl, rfl, rfl, rfl⟩

end Engine

end Resilience
