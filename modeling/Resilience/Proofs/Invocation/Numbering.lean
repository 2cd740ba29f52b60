import Resilience.Proofs.Invocation.Admission
import Resilience.Proofs.Retry.Rounds

/-!
The numbers and the time of attempts: an invocation numbers its attempts one after the other, heeds
its caller in each of them, and gives each the time of the policy that it looked up, whatever the
ones before it took.
-/

namespace Resilience

def Policy.limit? (policy : Policy) : Option Duration :=
  policy.timeout.map fun timeout => timeout.duration.toDuration

/-- The attempts that may be asked for. The state is the policy that was looked up first, and how
many attempts were made. -/
def trials : Monitor (Option Policy × Nat) where
  allows
    | (found, made), .attempt number limit heedsCaller =>
      number = made + 1 ∧ heedsCaller = true ∧ found.map Policy.limit? = some limit
    | _, _ => True
  next
    | (found, made), ⟨.resolve, policy⟩ => (found <|> policy, made)
    | (found, made), ⟨.attempt .., _⟩ => (found, made + 1)
    | state, _ => state

@[simp] def Request.Untried : Request → Prop
  | .attempt .. | .resolve => False
  | _ => True

theorem trials_ignores (state : Option Policy × Nat) :
    trials.Ignores state Request.Untried := by
  intro request untried
  cases request <;> first | exact ⟨trivial, fun _ => rfl⟩ | exact untried.elim

theorem Request.untried_of_calm {request : Request} (calm : request.Calm) : request.Untried := by
  cases request <;> first | exact trivial | exact calm.elim

theorem trials_after (found : Option Policy) (made : Nat) (history : List Exchange) :
    trials.after (found, made) history =
      ((found <|> resolved? history), made + (numbers history).length) := by
  induction history generalizing found made with
  | nil => cases found <;> rfl
  | cons exchange rest inductionHypothesis =>
    rcases exchange with ⟨request, answer⟩
    cases request with
    | resolve =>
      refine (inductionHypothesis (found <|> answer) made).trans ?_
      cases found with
      | some policy => rfl
      | none => cases answer <;> rfl
    | attempt number limit heedsCaller =>
      refine (inductionHypothesis found (made + 1)).trans (congrArg (Prod.mk _) ?_)
      show made + 1 + (numbers rest).length = made + ((numbers rest).length + 1)
      omega
    | _ => exact inductionHypothesis found made

theorem trials_numbers {found : Option Policy} {made : Nat} {history : List Exchange}
    (accepts : trials.Accepts (found, made) history) :
    numbers history = List.range' (made + 1) (numbers history).length := by
  induction history generalizing found made with
  | nil => rfl
  | cons exchange rest inductionHypothesis =>
    obtain ⟨allowed, accepts⟩ := accepts
    rcases exchange with ⟨request, answer⟩
    cases request with
    | attempt number limit heedsCaller =>
      have later := inductionHypothesis accepts
      show number :: numbers rest = List.range' (made + 1) ((numbers rest).length + 1)
      rw [List.range'_succ, ← later, allowed.1]
    | _ => exact inductionHypothesis accepts

namespace Invocation

variable {operation : OperationId} {policy : Policy}

def Ventured (policy : Policy) (made : Nat) (outcome : Outcome) (state : Option Policy × Nat) :
    Prop :=
  state = (some policy, made + 1) ∨
    state = (some policy, made) ∧ ∃ retryAfter, outcome = .error (.circuitOpen retryAfter)

theorem Ventured.found {made : Nat} {outcome : Outcome} {state : Option Policy × Nat}
    (ventured : Ventured policy made outcome state) : state.1 = some policy := by
  rcases ventured with rfl | ⟨rfl, -⟩ <;> rfl

theorem call_trials (made : Nat) :
    trials.Admits (call operation policy (made + 1)) (some policy, made)
      (Ventured policy made) := by
  refine ⟨⟨rfl, rfl, rfl⟩, fun outcome => ?_⟩
  show trials.Admits _ (some policy, made + 1) _
  cases outcome with
  | ok text => exact .inl rfl
  | error fault =>
    cases fault with
    | timeout elapsed limit =>
      exact ⟨trivial, fun _ => ⟨trivial, fun _ => ⟨trivial, fun _ => .inl rfl⟩⟩⟩
    | _ => exact .inl rfl

theorem settle_untried (breaker : BreakerPolicy) (outcome : Outcome) :
    (Monitor.only Request.Untried).Admits (settle breaker outcome) () fun value _ =>
      value = outcome := by
  unfold settle
  cases breaker.sample? outcome with
  | none => exact ⟨trivial, fun _ => rfl⟩
  | some failed =>
    refine ⟨trivial, fun changed => Monitor.Stays.bind ?_ fun _ => rfl⟩
    exact (report_calm changed).mono fun _ => Request.untried_of_calm

theorem throughBreaker_trials {breaker : BreakerPolicy} {guarded : Plan Outcome}
    {state : Option Policy × Nat} {ends : Outcome → Option Policy × Nat → Prop}
    (refused : ∀ retryAfter, ends (.error (.circuitOpen retryAfter)) state)
    (inside : trials.Admits guarded state ends) :
    trials.Admits (throughBreaker breaker guarded) state ends := by
  rw [throughBreaker_eq]
  refine ⟨trivial, fun answer => ?_⟩
  cases answer with
  | error retryAfter => exact ⟨trivial, fun _ => ⟨trivial, fun _ => refused retryAfter⟩⟩
  | ok transition =>
    have reports : (report transition).Uses Request.Untried :=
      (report_calm transition).mono fun _ => Request.untried_of_calm
    refine (reports.stays (trials_ignores state)).bind fun _ => ?_
    refine (Monitor.admits_bind _ _).mpr (inside.mono fun outcome after ended => ?_)
    refine ((settle_untried breaker outcome).of_only (trials_ignores after)).mono ?_
    rintro value _ ⟨rfl, rfl⟩
    exact ended

theorem sampled_trials {sampling : Sampling} {guarded : Plan Outcome}
    {state : Option Policy × Nat} {ends : Outcome → Option Policy × Nat → Prop}
    (refused : ∀ retryAfter, ends (.error (.circuitOpen retryAfter)) state)
    (inside : trials.Admits guarded state ends) :
    trials.Admits (sampled policy sampling guarded) state ends := by
  unfold sampled
  split
  · split
    · exact throughBreaker_trials refused inside
    · exact inside
  · exact inside

theorem attempt_trials (made : Nat) :
    trials.Admits (attempt operation policy (made + 1)) (some policy, made)
      (Ventured policy made) :=
  sampled_trials (fun retryAfter => .inr ⟨rfl, retryAfter, rfl⟩) (call_trials made)

/-- A refusal of the breaker is not repeated, so each further attempt follows one that was made. -/
theorem retried_trials (retrier : Retrier) (started remaining retries : Nat) :
    trials.Admits (retrier.attempts (attempt operation policy) started remaining retries)
      (some policy, retries) fun _ state => state.1 = some policy := by
  refine Retrier.attempts_induction (fun plan retries =>
    trials.Admits plan (some policy, retries) fun _ state => state.1 = some policy)
    (fun remaining retries again => ?_) remaining retries
  unfold Retrier.attempts
  refine (Monitor.admits_bind _ _).mpr ((attempt_trials retries).mono ?_)
  intro outcome state ventured
  have found := ventured.found
  split
  next => exact found
  next => exact ⟨trivial, fun _ => ⟨trivial, fun _ => found⟩⟩
  next fault category repeated =>
    have made : state = (some policy, retries + 1) := by
      rcases ventured with made | ⟨-, retryAfter, rfl⟩
      · exact made
      · cases repeated
    subst made
    refine ⟨trivial, fun now => ?_⟩
    split
    next => exact ⟨trivial, fun _ => ⟨trivial, fun _ => rfl⟩⟩
    next fewer =>
      refine (Retrier.jittered_stays (fun _ => trivial) fun _ _ => rfl).bind fun delay => ?_
      split
      next => exact ⟨trivial, fun _ => ⟨trivial, fun _ => rfl⟩⟩
      next =>
        refine ⟨trivial, fun _ => ⟨trivial, fun _ => ⟨trivial, fun passed => ?_⟩⟩⟩
        cases passed with
        | false => exact rfl
        | true => exact again fewer rfl

theorem attempts_trials : trials.Admits (attempts operation policy) (some policy, 0)
    fun _ state => state.1 = some policy := by
  refine attempts_admits ?_ ((attempt_trials 0).mono fun _ _ ventured => ventured.found)
    (fun _ _ => rfl) fun made => ?_
  · rintro request ⟨name, rfl⟩
    exact ⟨trivial, fun _ => rfl⟩
  · refine (Monitor.admits_bind _ _).mpr ⟨trivial, fun started => ?_⟩
    refine (retried_trials made started _ 0).mono fun ended state found => ?_
    have calm : trials.Ignores state Request.Calm :=
      (trials_ignores state).mono fun _ => Request.untried_of_calm
    refine ((closing_tells ended.1 ended.2).of_only calm).mono ?_
    rintro value _ ⟨-, rfl⟩
    exact found

theorem recovered_untried (outcome : Outcome) :
    (recovered operation policy outcome).Uses Request.Untried :=
  (recovered_calm outcome).mono fun _ => Request.untried_of_calm

theorem enter_untried (operation : OperationId) (bulkhead : BulkheadPolicy) :
    (enter operation bulkhead).Uses Request.Untried := by
  have acquired : enter.acquired.Uses Request.Untried := by
    simp [enter.acquired, Plan.bulkheadLoad, Plan.emit]
  simp only [enter, Plan.enterBulkhead, Plan.log, Plan.count, Plan.emit, Plan.awaitSlot,
    Plan.ask_bind, Plan.done_bind, Plan.uses_ask]
  refine ⟨trivial, ?_⟩
  rintro ⟨rebuilt, admission, waiting⟩
  cases admission <;> cases rebuilt <;> simp [acquired]

theorem strategies_trials : trials.Admits (strategies operation policy) (some policy, 0)
    fun _ _ => True := by
  have guards {next : Outcome → Plan Outcome}
      (after : ∀ outcome, (next outcome).Uses Request.Untried) :
      trials.Admits (guarded operation policy >>= next) (some policy, 0) fun _ _ => True := by
    have guarded : trials.Admits (guarded operation policy) (some policy, 0)
        fun _ state => state.1 = some policy :=
      sampled_trials (fun _ => rfl) attempts_trials
    refine (Monitor.admits_bind _ _).mpr (guarded.mono fun outcome state _ => ?_)
    exact ((after outcome).stays (trials_ignores state)).mono fun _ _ _ => trivial
  unfold strategies
  split
  next => exact guards recovered_untried
  next bulkhead _ =>
    refine ((enter_untried operation bulkhead).stays (trials_ignores _)).bind fun entered => ?_
    cases entered with
    | error fault =>
      exact ((recovered_untried (.error fault)).stays (trials_ignores _)).mono fun _ _ _ => trivial
    | ok =>
      exact guards fun outcome =>
        (recovered_untried outcome).bind fun final => .asks trivial fun _ => rfl

/-- An invocation asks only for attempts as they are allowed. -/
theorem service_trials (service : Service) (operation : OperationId) :
    trials.Admits (service.plan operation) (none, 0) fun _ _ => True := by
  unfold Service.plan
  split
  · exact trivial
  refine ⟨trivial, fun started => ⟨trivial, fun resolved => ?_⟩⟩
  cases resolved with
  | none => exact ⟨trivial, fun _ => trivial⟩
  | some policy =>
    refine ⟨trivial, fun _ => (Monitor.admits_bind (strategies operation policy) _).mpr ?_⟩
    refine strategies_trials.mono fun outcome state _ => ?_
    exact ⟨trivial, fun _ => ⟨trivial, fun _ => ⟨trivial, fun _ => trivial⟩⟩⟩

/-- After what was asked and answered, the next attempt is the next one in number, and has the time
of the policy that was found. -/
theorem next_attempt {service : Service} {history : List Exchange} {number : Nat}
    {limit : Option Duration} {heedsCaller : Bool} {next : Outcome → Plan Outcome}
    (leads : (service.plan operation).Leads history
      (.ask (.attempt number limit heedsCaller) next)) :
    number = (numbers history).length + 1 ∧ heedsCaller = true ∧
      (resolved? history).map Policy.limit? = some limit ∧
        numbers history = List.range' 1 (numbers history).length := by
  obtain ⟨accepts, admits⟩ := Monitor.Admits.leads (service_trials service operation) leads
  obtain ⟨allowed, -⟩ := admits
  rw [trials_after] at allowed
  obtain ⟨next, heeds, found⟩ := allowed
  exact ⟨by omega, heeds, found, trials_numbers accepts⟩

end Invocation

end Resilience
