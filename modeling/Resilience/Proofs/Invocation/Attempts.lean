import Resilience.Invocation
import Resilience.Proofs.Plan.Monitor

/-!
Attempts: what the attempts of an invocation ask for, with the retries between them.
-/

namespace Resilience

namespace Retrier

variable {retrier : Retrier} {attempt : Nat → Plan Outcome}

theorem giveUp_calm (attempts elapsed : Nat) (last : Fault) (stop : RetryStop) :
    (retrier.giveUp attempts elapsed last stop).Uses Request.Calm := by
  simp [giveUp, Plan.log, Plan.emit]

/-- A draw that leaves a monitor as it found it does so in a plan. -/
theorem jittered_stays {σ : Type} {monitor : Monitor σ} {state : σ} {jitter : Jitter}
    {delay : Duration} (allowed : ∀ bound, monitor.allows state (.jitter bound delay))
    (same : ∀ bound drawn, monitor.next state ⟨.jitter bound delay, drawn⟩ = state) :
    monitor.Stays state (Plan.jittered jitter delay) := by
  cases jitter with
  | none => exact rfl
  | bounded bound => exact ⟨allowed bound, same bound⟩

theorem attempts_induction {started : Nat} (holds : Plan (Outcome × RetryReport) → Nat → Prop)
    (step : ∀ remaining retries, (∀ fewer, remaining = fewer + 1 →
      holds (retrier.attempts attempt started fewer (retries + 1)) (retries + 1)) →
        holds (retrier.attempts attempt started remaining retries) retries)
    (remaining retries : Nat) :
    holds (retrier.attempts attempt started remaining retries) retries := by
  induction remaining generalizing retries with
  | zero => exact step 0 retries fun fewer same => absurd same.symm (Nat.succ_ne_zero fewer)
  | succ remaining inductionHypothesis =>
    refine step (remaining + 1) retries fun fewer same => ?_
    cases same
    exact inductionHypothesis (retries + 1)

theorem attempts_stays {σ : Type} {monitor : Monitor σ} {state : σ}
    (ignores : monitor.Ignores state Request.Calm)
    (stays : ∀ number, monitor.Stays state (attempt number)) (started remaining retries : Nat) :
    monitor.Stays state (retrier.attempts attempt started remaining retries) := by
  have calm {request : Request} {next : request.Answer → Plan (Outcome × RetryReport)}
      (asked : request.Calm) (rest : ∀ answer, monitor.Stays state (next answer)) :
      monitor.Stays state (.ask request next) := by
    obtain ⟨allowed, same⟩ := ignores request asked
    refine ⟨allowed, ?_⟩
    intro answer
    rw [same answer]
    exact rest answer
  have given (attempts elapsed : Nat) (last : Fault) (stop : RetryStop) :
      monitor.Stays state (retrier.giveUp attempts elapsed last stop) :=
    (giveUp_calm attempts elapsed last stop).stays ignores
  have jittered (delay : Duration) : monitor.Stays state (Plan.jittered retrier.jitter delay) :=
    jittered_stays (fun _ => (ignores (.jitter ..) trivial).1)
      fun _ => (ignores (.jitter ..) trivial).2
  refine attempts_induction (fun plan _ => monitor.Stays state plan)
    (fun remaining retries again => ?_) remaining retries
  unfold attempts
  apply (stays _).bind
  intro outcome
  split
  next => exact rfl
  next => exact calm trivial fun _ => calm trivial fun _ => rfl
  next =>
    refine calm trivial fun now => ?_
    split
    next => exact given _ _ _ _
    next fewer =>
      refine (jittered _).bind fun delay => ?_
      split
      next => exact given _ _ _ _
      next =>
        refine calm trivial fun _ => calm trivial fun _ => calm trivial ?_
        intro goesOn
        cases goesOn with
        | false => exact rfl
        | true => exact again fewer rfl

theorem run_stays {σ : Type} {monitor : Monitor σ} {state : σ}
    (ignores : monitor.Ignores state Request.Calm)
    (stays : ∀ number, monitor.Stays state (attempt number)) :
    monitor.Stays state (retrier.run attempt) := by
  obtain ⟨allowed, same⟩ := ignores .clock trivial
  refine ⟨allowed, ?_⟩
  intro started
  rw [same started]
  exact attempts_stays ignores stays started _ 0

/-- The attempts begin with one, and if the caller gave that up, then the whole row of them. -/
theorem attempts_first {started remaining retries : Nat} {history : List Exchange}
    {outcome : Outcome} {report : RetryReport}
    (returns : (retrier.attempts attempt started remaining retries).Returns history
      (outcome, report)) :
    ∃ first rest ended, history = first ++ rest ∧ (attempt (retries + 1)).Returns first ended ∧
      (ended = .error .cancelled → outcome = .error .cancelled) := by
  unfold attempts at returns
  obtain ⟨first, rest, ended, rfl, attempted, follows⟩ := Plan.returns_bind.mp returns
  refine ⟨first, rest, ended, rfl, attempted, ?_⟩
  intro gaveUp
  rw [gaveUp] at follows
  obtain ⟨-, same⟩ := Plan.returns_done.mp follows
  cases same
  rfl

theorem run_first {history : List Exchange} {outcome : Outcome} {report : RetryReport}
    (returns : (retrier.run attempt).Returns history (outcome, report)) :
    ∃ started first rest ended, history = ⟨.clock, started⟩ :: (first ++ rest) ∧
      (attempt 1).Returns first ended ∧
      (ended = .error .cancelled → outcome = .error .cancelled) := by
  obtain ⟨started, tail, rfl, follows⟩ := Plan.returns_ask.mp returns
  obtain ⟨first, rest, ended, rfl, attempted, cancels⟩ := attempts_first follows
  exact ⟨started, first, rest, ended, rfl, attempted, cancels⟩

end Retrier

namespace Invocation

variable {operation : OperationId} {policy : Policy}

def Unsampled (policy : Policy) : Prop :=
  ∀ breaker, policy.breaker = some breaker → breaker.sampling ≠ .attempt

theorem attempt_of_unsampled (unsampled : Unsampled policy) (number : Nat) :
    attempt operation policy number = call operation policy number := by
  unfold attempt sampled
  split
  next breaker found => exact if_neg (unsampled breaker found)
  next => rfl

theorem call_eq (operation : OperationId) (policy : Policy) (number : Nat) :
    ∃ limit next, call operation policy number = .ask (.attempt number limit true) next ∧
      ∀ outcome, (Monitor.only Request.Calm).Admits (next outcome) () fun value _ =>
        value = outcome := by
  refine ⟨_, _, rfl, ?_⟩
  intro outcome
  cases outcome with
  | ok text => exact rfl
  | error fault =>
    cases fault with
    | timeout elapsed limit =>
      exact ⟨trivial, fun _ => ⟨trivial, fun _ => ⟨trivial, fun _ => rfl⟩⟩⟩
    | _ => exact rfl

theorem call_returns {number : Nat} {history : List Exchange} {outcome : Outcome}
    (returns : (call operation policy number).Returns history outcome) :
    ∃ limit tail, history = ⟨.attempt number limit true, outcome⟩ :: tail := by
  obtain ⟨limit, next, shape, tells⟩ := call_eq operation policy number
  rw [shape] at returns
  obtain ⟨ended, tail, rfl, follows⟩ := Plan.returns_ask.mp returns
  have same : outcome = ended := ((tells ended).leads follows).2
  exact ⟨limit, tail, by rw [same]⟩

theorem call_stays {σ : Type} {monitor : Monitor σ} {state : σ}
    (ignores : monitor.Ignores state Request.Routine) (number : Nat) :
    monitor.Stays state (call operation policy number) := by
  obtain ⟨limit, next, shape, tells⟩ := call_eq operation policy number
  have calm : monitor.Ignores state Request.Calm :=
    ignores.mono fun _ => Request.routine_of_calm
  obtain ⟨allowed, same⟩ := ignores (.attempt number limit true) trivial
  rw [shape]
  refine ⟨allowed, ?_⟩
  intro outcome
  rw [same outcome]
  exact ((tells outcome).of_only calm).mono fun _ _ ends => ends.2

theorem retrier_cases (operation : OperationId) (policy : RetryPolicy) :
    (∃ made, retrier operation policy = .done (.ok made)) ∨
      ∃ name, retrier operation policy = .ask (.strategy name) fun
        | some strategy => .done (.ok { Retrier.ofPolicy operation policy with
            backoff := .custom strategy })
        | none => .done (.error (.misconfigured operation
            ("backoff strategy '" ++ name ++ "' is not registered"))) := by
  unfold retrier
  split
  next name custom =>
    refine .inr ⟨name, congrArg (Plan.ask _) (funext ?_)⟩
    intro strategy
    have chosen : Backoff.ofPolicy? policy strategy = strategy.map .custom := by
      simp only [Backoff.ofPolicy?, custom]
    cases strategy with
    | none => simp [Plan.bind, chosen]
    | some strategy => simp [Plan.bind, chosen]
  next => exact .inl ⟨_, rfl⟩

/-- What attempts with retries ask for last. -/
def closing (outcome : Outcome) (report : RetryReport) : Plan Outcome :=
  .ask (.count .retries report.retries) fun _ =>
    match stopCounter? report.stop with
    | some counter => .ask (.count counter 1) fun _ => .done outcome
    | none => .done outcome

theorem closing_tells (outcome : Outcome) (report : RetryReport) :
    (Monitor.only Request.Calm).Admits (closing outcome report) () fun value _ =>
      value = outcome := by
  refine ⟨trivial, ?_⟩
  intro _
  cases stopCounter? report.stop with
  | none => exact rfl
  | some counter => exact ⟨trivial, fun _ => rfl⟩

/-- Attempts without retries are a single one; with retries they need a retrier first. -/
theorem attempts_cases (operation : OperationId) (policy : Policy) :
    attempts operation policy = attempt operation policy 1 ∨ ∃ retry,
      attempts operation policy = retrier operation retry >>= fun
        | .error fault => .done (.error fault)
        | .ok made => made.run (attempt operation policy) >>= fun ended =>
          closing ended.1 ended.2 := by
  unfold attempts
  split
  next => exact .inl rfl
  next retry _ =>
    refine .inr ⟨retry, congrArg (retrier operation retry >>= ·) (funext ?_)⟩
    intro made
    cases made with
    | error fault => rfl
    | ok made =>
      refine congrArg (made.run (attempt operation policy) >>= ·) (funext ?_)
      intro ended
      refine congrArg (Plan.ask _) (funext ?_)
      intro _
      cases stopCounter? ended.2.stop <;> rfl

theorem attempts_admits {σ : Type} {monitor : Monitor σ} {state : σ} {ends : Outcome → σ → Prop}
    (named : monitor.Ignores state fun request => ∃ name, request = .strategy name)
    (single : monitor.Admits (attempt operation policy 1) state ends)
    (unmade : ∀ fault : Fault, fault ≠ .cancelled → ends (.error fault) state)
    (retried : ∀ made : Retrier,
      monitor.Admits (made.run (attempt operation policy) >>= fun ended =>
        closing ended.1 ended.2) state ends) :
    monitor.Admits (attempts operation policy) state ends := by
  rcases attempts_cases operation policy with alone | ⟨retry, repeated⟩
  · rw [alone]
    exact single
  rw [repeated]
  rcases retrier_cases operation retry with ⟨made, there⟩ | ⟨name, asked⟩
  · rw [there]
    exact retried made
  · rw [asked]
    obtain ⟨allowed, same⟩ := named (.strategy name) ⟨name, rfl⟩
    refine ⟨allowed, ?_⟩
    intro answer
    rw [same answer]
    cases answer with
    | none => exact unmade _ fun never => by cases never
    | some strategy => exact retried _

theorem attempts_stays {σ : Type} {monitor : Monitor σ} {state : σ}
    (ignores : monitor.Ignores state Request.Calm)
    (named : monitor.Ignores state fun request => ∃ name, request = .strategy name)
    (stays : ∀ number, monitor.Stays state (attempt operation policy number)) :
    monitor.Stays state (attempts operation policy) := by
  refine attempts_admits named (stays 1) (fun _ _ => rfl) fun made => ?_
  apply (Retrier.run_stays ignores stays).bind
  intro ended
  exact ((closing_tells ended.1 ended.2).of_only ignores).mono fun _ _ ends => ends.2

theorem attempts_offBreaker (operation : OperationId) (unsampled : Unsampled policy) :
    (attempts operation policy).Uses Request.OffBreaker := by
  have routine : (Monitor.only Request.OffBreaker).Ignores () Request.Routine :=
    fun request asked =>
      ⟨Request.offBreaker_of_plain (Request.plain_of_routine asked), fun _ => rfl⟩
  refine attempts_stays (routine.mono fun _ => Request.routine_of_calm) (fun request named => ?_)
    fun number => ?_
  · obtain ⟨name, rfl⟩ := named
    exact ⟨trivial, fun _ => rfl⟩
  · rw [attempt_of_unsampled unsampled]
    exact call_stays routine number

/-- The first attempt of a retrier, which is no use if the caller gave it up. -/
theorem retried_returns (unsampled : Unsampled policy) {made : Retrier}
    {history : List Exchange} {outcome : Outcome}
    (returns : (made.run (attempt operation policy) >>= fun ended =>
      closing ended.1 ended.2).Returns history outcome) :
    (∀ exchange ∈ history, exchange.request.Plain) ∧
      ∃ limit ended, ⟨.attempt 1 limit true, ended⟩ ∈ history ∧
        (ended = .error .cancelled → outcome = .error .cancelled) := by
  obtain ⟨first, second, ⟨last, report⟩, rfl, ran, closed⟩ := Plan.returns_bind.mp returns
  have same : outcome = last := ((closing_tells last report).leads closed).2
  have routine : (Monitor.only Request.Plain).Ignores () Request.Routine :=
    fun request asked => ⟨Request.plain_of_routine asked, fun _ => rfl⟩
  have calm := routine.mono fun _ => Request.routine_of_calm
  have calls (number : Nat) :
      (Monitor.only Request.Plain).Stays () (attempt operation policy number) := by
    rw [attempt_of_unsampled unsampled]
    exact call_stays routine number
  have closes : (closing last report).Uses Request.Plain :=
    ((closing_tells last report).of_only calm).mono fun _ _ ends => ends.2
  refine ⟨fun exchange member => ?_, ?_⟩
  · rcases List.mem_append.mp member with earlier | later
    · exact Plan.Uses.mem (Retrier.run_stays calm calls) ran exchange earlier
    · exact closes.mem closed exchange later
  · obtain ⟨started, attempted, rest, ended, rfl, called, cancels⟩ := Retrier.run_first ran
    rw [attempt_of_unsampled unsampled] at called
    obtain ⟨limit, tail, rfl⟩ := call_returns called
    refine ⟨limit, ended, ?_, fun gaveUp => same.trans (cancels gaveUp)⟩
    simp

theorem attempts_returns (unsampled : Unsampled policy) {history : List Exchange}
    {outcome : Outcome} (returns : (attempts operation policy).Returns history outcome) :
    (∃ name, history = [⟨.strategy name, none⟩] ∧ outcome = .error (.misconfigured operation
      ("backoff strategy '" ++ name ++ "' is not registered"))) ∨
      lacksBackoff history = false ∧
        ∃ limit ended, ⟨.attempt 1 limit true, ended⟩ ∈ history ∧
          (ended = .error .cancelled → outcome = .error .cancelled) := by
  have keeps {history : List Exchange}
      (plain : ∀ exchange ∈ history, exchange.request.Plain) : lacksBackoff history = false := by
    apply List.any_eq_false.mpr
    intro exchange member
    have plain := plain exchange member
    rcases exchange with ⟨request, answer⟩
    cases request <;> first | exact Bool.false_ne_true | exact plain.elim
  rcases attempts_cases operation policy with single | ⟨retry, repeated⟩
  · rw [single, attempt_of_unsampled unsampled] at returns
    have routine : (call operation policy 1).Uses Request.Routine :=
      call_stays (fun request asked => ⟨asked, fun _ => rfl⟩) 1
    have plain := (routine.mono fun _ => Request.plain_of_routine).mem returns
    obtain ⟨limit, tail, rfl⟩ := call_returns returns
    exact .inr ⟨keeps plain, limit, outcome, .head _, id⟩
  rw [repeated] at returns
  obtain ⟨first, second, made, rfl, chosen, follows⟩ := Plan.returns_bind.mp returns
  rcases retrier_cases operation retry with ⟨there, shape⟩ | ⟨name, shape⟩
  · rw [shape] at chosen
    obtain ⟨rfl, rfl⟩ := Plan.returns_done.mp chosen
    obtain ⟨plain, called⟩ := retried_returns unsampled follows
    exact .inr ⟨keeps plain, called⟩
  · rw [shape] at chosen
    obtain ⟨strategy, rest, rfl, answered⟩ := Plan.returns_ask.mp chosen
    cases strategy with
    | none =>
      obtain ⟨rfl, rfl⟩ := Plan.returns_done.mp answered
      obtain ⟨rfl, rfl⟩ := Plan.returns_done.mp follows
      exact .inl ⟨name, rfl, rfl⟩
    | some strategy =>
      obtain ⟨rfl, rfl⟩ := Plan.returns_done.mp answered
      obtain ⟨plain, limit, ended, called, cancels⟩ := retried_returns unsampled follows
      have later : lacksBackoff second = false := keeps plain
      exact .inr ⟨later, limit, ended, .tail _ called, cancels⟩

end Invocation

end Resilience
