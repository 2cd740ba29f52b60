import Resilience.Proofs.Invocation.Refitting
import Resilience.Proofs.Invocation.Resampling

/-!
Invocations with retries that never retry. Next to the same policy without retries such an
invocation asks for the same in the same order; what it asks for in between is faint, because it
shows in the log and in what is counted and told of retries that stop, and nowhere else. What
differs is the fault: the failure of its one attempt may come as that of exhausted retries.
-/

namespace Resilience

/-- Whether retries never retry, and need no strategy for the delays that there are none of. -/
structure RetryPolicy.Idle (retry : RetryPolicy) : Prop where
  never : retry.maxRetries = 0
  known : ∀ name, retry.backoff ≠ .custom name

/-- Whether a policy is the same as another one, or adds retries that never retry to it. -/
inductive Policy.Idled (policy : Policy) : Policy → Prop
  | same : Idled policy policy
  | added {retry : RetryPolicy} (without : policy.retry = none) (idle : retry.Idle) :
      Idled policy { policy with retry := some retry }

/-- Whether two registries have policies for the same operations, and those of the second differ at
most in retries that never retry. -/
def Registry.Idled (registry twin : Registry) : Prop :=
  ∀ operation, Option.Rel Policy.Idled (registry.resolve? operation) (twin.resolve? operation)

namespace Policy.Idled

variable {policy twin : Policy}

theorem breaker (idled : policy.Idled twin) : twin.breaker = policy.breaker := by
  cases idled <;> rfl

theorem bulkhead (idled : policy.Idled twin) : twin.bulkhead = policy.bulkhead := by
  cases idled <;> rfl

end Policy.Idled

/-- Whether two outcomes are the same, or the second one is that of exhausted retries after a single
attempt that ended in the first one. -/
inductive Outcome.Shadows : Outcome → Outcome → Prop
  | same (outcome : Outcome) : Shadows outcome outcome
  | exhausted {fault : Fault} (repeatable : (fault.isInner || fault.isTimeout) = true) :
      Shadows (.error fault) (.error (.retryExhausted 1 fault))

namespace Outcome.Shadows

variable {outcome twin : Outcome}

theorem sample?_eq (shadows : Outcome.Shadows outcome twin) (breaker : BreakerPolicy) :
    breaker.sample? twin = breaker.sample? outcome := by
  cases shadows with
  | same => rfl
  | @exhausted fault repeatable =>
    cases fault with
    | inner | timeout => rfl
    | _ => cases repeatable

theorem outcomeCounter_eq (shadows : Outcome.Shadows outcome twin) :
    Invocation.outcomeCounter twin = Invocation.outcomeCounter outcome := by
  cases shadows with
  | same => rfl
  | @exhausted fault repeatable =>
    cases fault with
    | inner | timeout => rfl
    | _ => cases repeatable

theorem outcomeEvent_eq (shadows : Outcome.Shadows outcome twin) (duration : Duration) :
    Invocation.outcomeEvent duration twin = Invocation.outcomeEvent duration outcome := by
  cases shadows with
  | same => rfl
  | @exhausted fault repeatable =>
    cases fault with
    | inner | timeout => rfl
    | _ => cases repeatable

end Outcome.Shadows

def Event.isStop : Event → Bool
  | retryAborted .. | retryExhausted .. => true
  | _ => false

def Counter.isStop : Counter → Bool
  | retriesAborted | retriesExhausted => true
  | _ => false

def Request.Faint : Request → Prop
  | .clock | .log _ => True
  | .emit event => event.isStop = true
  | .count counter amount => counter = .retries ∧ amount = 0 ∨ counter.isStop = true
  | _ => False

def Plan.Clear {α : Type} : Plan α → Prop
  | .done _ => True
  | .ask request _ => ¬request.Faint

/-- Whether a plan asks for the same as another one, but for faint requests in between, and tells
its fallback handler and its caller of the same faults, but for the exhaustion of retries. It asks
faintly only once its operation is known to be in use, which is what the truth value says. -/
inductive Plan.Shadows : Bool → Plan Outcome → Plan Outcome → Prop
  | done {known : Bool} {outcome twin : Outcome} (shadows : Outcome.Shadows outcome twin) :
      Shadows known (.done outcome) (.done twin)
  | ask {known : Bool} {request : Request} {next next' : request.Answer → Plan Outcome}
      (other : request ≠ .resolve) (after : ∀ answer, Shadows known (next answer) (next' answer)) :
      Shadows known (.ask request next) (.ask request next')
  | resolve {known : Bool} {next next' : Option Policy → Plan Outcome}
      (unfound : Shadows known (next none) (next' none))
      (found : ∀ policy twin : Policy, policy.Idled twin →
        Shadows true (next (some policy)) (next' (some twin))) :
      Shadows known (.ask .resolve next) (.ask .resolve next')
  | handle {known : Bool} {name : String} {fault : Fault}
      {next next' : Option (Except Failure String) → Plan Outcome}
      (settles : ∀ answer, (next answer).Uses Request.Settling)
      (settles' : ∀ answer, (next' answer).Uses Request.Settling)
      (after : ∀ answer, Shadows known (next answer) (next' answer)) :
      Shadows known (.ask (.handle name fault) next)
        (.ask (.handle name (.retryExhausted 1 fault)) next')
  | faint {plan : Plan Outcome} {request : Request} {next : request.Answer → Plan Outcome}
      (faint : request.Faint) (after : ∀ answer, Shadows true plan (next answer)) :
      Shadows true plan (.ask request next)

namespace Plan.Shadows

variable {known : Bool} {plan twin : Plan Outcome}

theorem of_unresolving (unresolving : plan.Uses (· ≠ .resolve)) : Shadows known plan plan := by
  induction plan with
  | done outcome => exact .done (.same outcome)
  | ask request next inductionHypothesis =>
    obtain ⟨other, after⟩ := unresolving
    exact .ask other fun answer => inductionHypothesis answer (after answer)

theorem of_guarding (guarding : plan.Uses Request.Guarding) : Shadows known plan plan := by
  apply of_unresolving
  apply guarding.mono
  rintro request guards rfl
  exact guards

theorem of_closing (closing : plan.Uses Request.Closing) : Shadows known plan plan := by
  apply of_unresolving
  apply closing.mono
  rintro request closes rfl
  exact closes

theorem mono (shadows : Shadows known plan twin) : Shadows true plan twin := by
  induction shadows with
  | done shadows => exact .done shadows
  | ask other _ inductionHypothesis => exact .ask other inductionHypothesis
  | resolve _ found inductionHypothesis => exact .resolve inductionHypothesis found
  | handle settles settles' _ inductionHypothesis =>
    exact .handle settles settles' inductionHypothesis
  | faint faint after => exact .faint faint after

theorem later {later : Bool} (shadows : Shadows known plan twin)
    (more : known = true → later = true) : Shadows later plan twin := by
  cases later with
  | true => exact shadows.mono
  | false =>
    cases known with
    | true => cases more rfl
    | false => exact shadows

theorem bind (shadows : Shadows known plan twin) (guarding : plan.Uses Request.Guarding)
    {next next' : Outcome → Plan Outcome}
    (after : ∀ outcome outcome', Outcome.Shadows outcome outcome' →
      Shadows known (next outcome) (next' outcome')) :
    Shadows known (plan >>= next) (twin >>= next') := by
  induction shadows with
  | done shadows => exact after _ _ shadows
  | ask other _ inductionHypothesis =>
    exact .ask other fun answer => inductionHypothesis answer (guarding.2 answer) after
  | resolve => exact guarding.1.elim
  | handle => exact guarding.1.elim
  | faint faint _ inductionHypothesis =>
    exact .faint faint fun answer => inductionHypothesis answer guarding after

theorem bind_same {α : Type} {plan : Plan α} (guarding : plan.Uses Request.Guarding)
    {next next' : α → Plan Outcome} (after : ∀ value, Shadows known (next value) (next' value)) :
    Shadows known (plan >>= next) (plan >>= next') := by
  induction plan with
  | done value => exact after value
  | ask request rest inductionHypothesis =>
    obtain ⟨asked, further⟩ := guarding
    have other : request ≠ .resolve := by
      rintro rfl
      exact asked
    exact .ask other fun answer => inductionHypothesis answer (further answer)

end Plan.Shadows

namespace Invocation

open Plan (Shadows)

variable {operation : OperationId} {policy twin : Policy}

/-- Retries with a built-in backoff look no strategy up. -/
theorem retrier_of_idle {retry : RetryPolicy} (idle : retry.Idle) :
    retrier operation retry = .done (.ok (.ofPolicy operation retry)) := by
  unfold retrier
  cases backoff : retry.backoff with
  | custom name => exact absurd backoff (idle.known name)
  | none | exponential | fibonacci => simp

theorem judge_final {retry : RetryPolicy} {outcome : Outcome} {stop : RetryStop}
    (final : retry.judge outcome = .final stop) : stopCounter? stop = none := by
  unfold RetryPolicy.judge at final
  repeat' split at final
  all_goals cases final <;> rfl

/-- Only a failure of the operation itself and a timeout can be repeated. -/
theorem judge_failed {retry : RetryPolicy} {outcome : Outcome} {fault : Fault}
    {category : Category} (failed : retry.judge outcome = .failed fault category) :
    outcome = .error fault ∧ (fault.isInner || fault.isTimeout) = true := by
  rcases outcome with other | text
  · cases repeatable : (other.isInner || other.isTimeout) with
    | true =>
      simp only [RetryPolicy.judge] at failed
      repeat' split at failed
      all_goals first | (cases failed; exact ⟨rfl, repeatable⟩) | cases failed
    | false =>
      simp only [RetryPolicy.judge, repeatable] at failed
      split at failed <;> cases failed
  · cases failed

theorem exhausted_of_repeatable {fault : Fault}
    (repeatable : (fault.isInner || fault.isTimeout) = true) (attempts : Nat) :
    Fault.exhausted attempts fault = .retryExhausted attempts fault := by
  cases fault with
  | inner | timeout => rfl
  | _ => cases repeatable

theorem attempt_eq (idled : policy.Idled twin) :
    attempt operation twin = attempt operation policy := by
  funext number
  cases idled <;> rfl

/-- Retries that never retry ask for one attempt, and else only faintly. -/
theorem attempts_shadows (without : policy.retry = none) {retry : RetryPolicy} (idle : retry.Idle) :
    Shadows true (attempts operation policy)
      (attempts operation { policy with retry := some retry }) := by
  have never : (Retrier.ofPolicy operation retry).policy.maxRetries.toNat = 0 :=
    congrArg UInt32.toNat idle.never
  unfold attempts
  rw [without]
  simp only [retrier_of_idle idle, Plan.done_bind, Retrier.run, Plan.clock, Plan.ask_bind]
  refine .faint trivial fun started => ?_
  rw [never, attempt_eq (.added without idle), ← Plan.bind_done (attempt operation policy 1)]
  unfold Retrier.attempts
  simp only [Plan.bind_assoc]
  refine .bind_same (attempt_guarding 1) fun outcome => ?_
  cases judged : (Retrier.ofPolicy operation retry).policy.judge outcome with
  | final stop =>
    simp only [Plan.pure_eq, Plan.done_bind, judge_final judged]
    exact .faint (.inl ⟨rfl, rfl⟩) fun _ => .done (.same outcome)
  | aborted category =>
    refine .faint trivial fun _ => .faint rfl fun _ => ?_
    refine .faint (.inl ⟨rfl, rfl⟩) fun _ => .faint (.inr rfl) fun _ => ?_
    exact .done (.same outcome)
  | failed fault category =>
    obtain ⟨rfl, repeatable⟩ := judge_failed judged
    have last : Outcome.Shadows (.error fault) (.error (.exhausted 1 fault)) := by
      rw [exhausted_of_repeatable repeatable]
      exact .exhausted repeatable
    refine .faint trivial fun now => .faint trivial fun _ => .faint rfl fun _ => ?_
    refine .faint (.inl ⟨rfl, rfl⟩) fun _ => .faint (.inr rfl) fun _ => ?_
    exact .done last

theorem throughBreaker_shadows (breaker : BreakerPolicy) {inside inside' : Plan Outcome}
    (guarding : inside.Uses Request.Guarding) (shadows : Shadows true inside inside') :
    Shadows true (throughBreaker breaker inside) (throughBreaker breaker inside') := by
  simp only [throughBreaker_eq]
  refine .ask nofun fun answer => ?_
  cases answer with
  | error retryAfter =>
    apply Shadows.of_guarding
    exact ⟨trivial, fun _ => ⟨rfl, fun _ => rfl⟩⟩
  | ok transition =>
    refine .bind_same (report_guarding transition) fun _ => shadows.bind guarding ?_
    intro outcome outcome' ends
    unfold settle
    rw [ends.sample?_eq breaker]
    cases breaker.sample? outcome with
    | none => exact .ask nofun fun _ => .done ends
    | some failed =>
      refine .ask nofun fun changed => ?_
      exact .bind_same (report_guarding changed) fun _ => .done ends

theorem guarded_shadows (idled : policy.Idled twin) :
    Shadows true (guarded operation policy) (guarded operation twin) := by
  cases idled with
  | same => exact .of_guarding (guarded_guarding operation policy)
  | @added retry without idle =>
    have inside : Shadows true (attempts operation policy)
        (attempts operation { policy with retry := some retry }) := attempts_shadows without idle
    have guarding : (attempts operation policy).Uses Request.Guarding := by
      unfold attempts
      rw [without]
      exact attempt_guarding 1
    have same := (Policy.Idled.added without idle).breaker
    generalize { policy with retry := some retry } = twin at inside same ⊢
    unfold guarded sampled
    rw [same]
    cases policy.breaker with
    | none => exact inside
    | some breaker =>
      by_cases samples : breaker.sampling = .invocation
      · simp only [if_pos samples]
        exact throughBreaker_shadows breaker guarding inside
      · simp only [if_neg samples]
        exact inside

/-- Whether what follows a fallback seals the invocation, and does so alike after either outcome. -/
structure Closes (closing : Outcome → Plan Outcome) : Prop where
  seals : Seals closing
  shadows : ∀ outcome twin, Outcome.Shadows outcome twin →
    Shadows true (closing outcome) (closing twin)

theorem Closes.report (started : Nat) : Closes fun outcome => .ask .time fun finished =>
    .ask (.count (outcomeCounter outcome) 1) fun _ =>
      .ask (.emit (outcomeEvent (.ofMillis (finished - started)) outcome)) fun _ =>
        .done outcome where
  seals := .report started
  shadows outcome twin ends := by
    rw [ends.outcomeCounter_eq]
    refine .ask nofun fun finished => ?_
    rw [ends.outcomeEvent_eq]
    exact .ask nofun fun _ => .ask nofun fun _ => .done ends

theorem Closes.leave {closing : Outcome → Plan Outcome} (closes : Closes closing) :
    Closes fun outcome => .ask .leaveBulkhead fun _ => closing outcome where
  seals := closes.seals.leave
  shadows outcome twin ends := .ask nofun fun _ => closes.shadows outcome twin ends

/-- What follows the answer of a handler does not depend on the fault that it was asked about. -/
theorem handled_next (operation : OperationId) (name : String) (category : Category) :
    ∃ next : Option (Except Failure String) → Plan Outcome,
      (∀ fault, handled operation name category fault = Plan.handle name fault >>= next) ∧
        ∀ answer, (next answer).Uses Request.Settling := by
  refine ⟨_, fun _ => rfl, fun answer => ?_⟩
  rcases answer with _ | failure | text
  · exact ⟨trivial, fun _ => rfl⟩
  · exact ⟨rfl, fun _ => ⟨trivial, fun _ => ⟨rfl, fun _ => rfl⟩⟩⟩
  · exact ⟨rfl, fun _ => ⟨trivial, fun _ => ⟨rfl, fun _ => rfl⟩⟩⟩

theorem answering_shadows (idled : policy.Idled twin) {closing : Outcome → Plan Outcome}
    (closes : Closes closing) {outcome outcome' : Outcome}
    (ends : Outcome.Shadows outcome outcome') :
    Shadows true (answering operation policy outcome closing)
      (answering operation twin outcome' closing) := by
  have settles (outcome : Outcome) : (closing outcome).Uses Request.Settling :=
    (closes.seals.uses outcome).mono fun _ => Request.Sealing.settling
  have refits : recovered operation twin = recovered operation policy := by
    cases idled <;> rfl
  unfold answering
  rw [refits]
  cases ends with
  | same outcome => exact .of_closing (answering_closing operation policy outcome closes.seals)
  | @exhausted fault repeatable =>
    have kept :
        Shadows true (closing (.error fault)) (closing (.error (.retryExhausted 1 fault))) :=
      closes.shadows _ _ (.exhausted repeatable)
    simp only [recovered, show (Fault.retryExhausted 1 fault).category? = fault.category? from rfl]
    split
    next fallback category _ _ =>
      split
      · obtain ⟨next, asks, settled⟩ := handled_next operation fallback.handler category
        simp only [asks, Plan.handle, Plan.ask_bind, Plan.done_bind]
        have closed (answer : Option (Except Failure String)) :
            (next answer >>= closing).Uses Request.Settling := (settled answer).bind settles
        refine .handle closed closed fun answer => .of_closing ?_
        exact (closed answer).mono fun _ => Request.Settling.closing
      · exact kept
    next => exact kept

theorem strategies_shadows (idled : policy.Idled twin) {closing : Outcome → Plan Outcome}
    (closes : Closes closing) :
    Shadows true (strategies operation policy >>= closing)
      (strategies operation twin >>= closing) := by
  have guarding := guarded_guarding operation policy
  unfold strategies
  rw [idled.bulkhead]
  cases policy.bulkhead with
  | none =>
    simp only [Plan.bind_assoc]
    exact (guarded_shadows idled).bind guarding fun _ _ ends => answering_shadows idled closes ends
  | some bulkhead =>
    simp only [Plan.bind_assoc]
    refine .bind_same (enter_guarding operation bulkhead) fun entered => ?_
    cases entered with
    | error fault => exact answering_shadows idled closes (.same (.error fault))
    | ok =>
      simp only [Plan.bind_assoc]
      refine (guarded_shadows idled).bind guarding fun _ _ ends => ?_
      exact answering_shadows idled closes.leave ends

/-- An invocation that finds idle retries in its policy goes on in the shadow of one that finds
none. -/
theorem service_shadows (service : Service) (operation : OperationId) :
    Shadows false (service.plan operation) (service.plan operation) := by
  unfold Service.plan
  split
  · exact .done (.same _)
  · refine .ask nofun fun started => .resolve ?_ fun policy twin idled => ?_
    · exact .ask nofun fun _ => .done (.same _)
    · exact .ask nofun fun _ => strategies_shadows idled (.report started)

theorem service_shadows_onward {service : Service} {operation : OperationId}
    {history : List Exchange} {plan : Plan Outcome} (known : Bool)
    (leads : (service.plan operation).Leads history plan) : Shadows known plan plan := by
  obtain ⟨goesOn, plans, unresolving, -⟩ := plan_looks_up operation
  have whole := service_shadows service operation
  unfold Service.plan at leads whole
  cases unready : service.unready? 1 with
  | some failure =>
    rw [unready] at leads
    rw [(Plan.leads_done leads).2]
    exact .done (.same _)
  | none =>
    rw [unready] at leads whole
    simp only [plans] at leads whole
    rcases Plan.leads_ask leads with ⟨-, rfl⟩ | ⟨started, tail, -, looks⟩
    · exact whole.later nofun
    rcases Plan.leads_ask looks with ⟨-, rfl⟩ | ⟨found, tail, -, looked⟩
    · cases whole with
      | ask _ after => exact (after started).later nofun
    · exact .of_unresolving ((unresolving started found).rest looked)

end Invocation

end Resilience
