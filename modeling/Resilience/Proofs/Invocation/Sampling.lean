import Resilience.Proofs.Invocation.Path

/-!
Samples: what an invocation hands its breaker. When invocations are sampled there is one sample for
all attempts, when attempts are sampled there is one for each, and a caller who gives up is never
sampled.
-/

namespace Resilience

/-- The order of requests to a breaker: a permit is asked for by who has none, and is used up by
its holder. The state is whether a permit is held. -/
def permits : Monitor Bool where
  allows
    | held, .acquirePermit _ => held = false
    | held, .recordSample .. | held, .dropPermit => held = true
    | _, _ => True
  next
    | held, ⟨.acquirePermit _, .error _⟩ => held
    | _, ⟨.acquirePermit _, .ok _⟩ => true
    | _, ⟨.recordSample .., _⟩ | _, ⟨.dropPermit, _⟩ => false
    | held, _ => held

theorem permits_ignores (held : Bool) : permits.Ignores held Request.OffBreaker := by
  intro request off
  cases request <;> first | exact ⟨trivial, fun _ => rfl⟩ | exact off.elim

theorem permits_ignores_quiet (held : Bool) : permits.Ignores held Request.Quiet :=
  fun request quiet => permits_ignores held request
    (Request.offBreaker_of_plain (Request.plain_of_quiet quiet))

namespace Invocation

variable {operation : OperationId} {policy : Policy}

theorem report_stays {σ : Type} {monitor : Monitor σ} {state : σ}
    (ignores : monitor.Ignores state Request.Quiet) (transition : Option Transition) :
    monitor.Stays state (report transition) :=
  (report_quiet transition).stays ignores

theorem throughBreaker_permits {breaker : BreakerPolicy} {guarded : Plan Outcome}
    (inside : permits.Stays true guarded) :
    permits.Stays false (throughBreaker breaker guarded) := by
  rw [throughBreaker_eq]
  refine ⟨rfl, ?_⟩
  intro answer
  cases answer with
  | error retryAfter => exact ⟨trivial, fun _ => ⟨trivial, fun _ => rfl⟩⟩
  | ok transition =>
    apply (report_stays (permits_ignores_quiet true) transition).bind
    intro _
    apply inside.bind
    intro outcome
    unfold settle
    cases breaker.sample? outcome with
    | none => exact ⟨rfl, fun _ => rfl⟩
    | some failed =>
      refine ⟨rfl, ?_⟩
      intro changed
      exact (report_stays (permits_ignores_quiet false) changed).bind fun _ => rfl

theorem sampled_permits {sampling : Sampling} {guarded : Plan Outcome}
    (free : permits.Stays false guarded)
    (inside : ∀ breaker, policy.breaker = some breaker → breaker.sampling = sampling →
      permits.Stays true guarded) :
    permits.Stays false (sampled policy sampling guarded) := by
  unfold sampled
  split
  next breaker found =>
    split
    next same => exact throughBreaker_permits (inside breaker found same)
    next => exact free
  next => exact free

theorem guarded_permits : permits.Stays false (guarded operation policy) := by
  have calls (held : Bool) (number : Nat) :
      permits.Stays held (call operation policy number) :=
    call_stays ((permits_ignores held).mono fun _ routine =>
      Request.offBreaker_of_plain (Request.plain_of_routine routine)) number
  have all {held : Bool}
      (each : ∀ number, permits.Stays held (attempt operation policy number)) :
      permits.Stays held (attempts operation policy) := by
    refine attempts_stays ((permits_ignores_quiet held).mono fun _ => Request.quiet_of_calm) ?_ each
    intro request named
    obtain ⟨name, rfl⟩ := named
    exact ⟨trivial, fun _ => rfl⟩
  refine sampled_permits (all fun number => ?_) fun breaker found same => ?_
  · exact sampled_permits (calls false number) fun _ _ _ => calls true number
  · apply all
    intro number
    have unsampled : Unsampled policy := by
      intro other present
      have equal : breaker = other := Option.some.inj (found.symm.trans present)
      rw [← equal, same]
      exact Sampling.noConfusion
    rw [attempt_of_unsampled unsampled]
    exact calls true number

theorem service_permits {service : Service} {history : List Exchange} {rest : Plan Outcome}
    (leads : (service.plan operation).Leads history rest) : permits.Accepts false history := by
  rcases service_around leads with quiet | ⟨policy, -, around⟩
  · exact ((permits_ignores_quiet false).accepts quiet).1
  · exact (around.accepts (permits_ignores_quiet false) guarded_permits).1

theorem service_unpermitted {service : Service} {history : List Exchange} {outcome : Outcome}
    (returns : (service.plan operation).Returns history outcome) :
    permits.after false history = false := by
  rcases service_around returns with quiet | ⟨policy, -, around⟩
  · exact ((permits_ignores_quiet false).accepts quiet).2
  · exact (around.accepts (permits_ignores_quiet false) guarded_permits).2 not_false

end Invocation

inductive Phase where
  | free
  | admitted
  /-- The attempt has ended, and the breaker is owed its sample, if there is one. -/
  | owing (sample : Option Bool)

namespace Phase

def owed : Phase → List Bool
  | owing sample => sample.toList
  | free | admitted => []

def pending : Phase → Nat
  | admitted => 1
  | free | owing _ => 0

theorem owed_pending_le (phase : Phase) : phase.owed.length + phase.pending ≤ 1 := by
  cases phase with
  | free => exact Nat.zero_le 1
  | admitted => exact Nat.le_refl 1
  | owing sample => cases sample <;> simp [owed, pending]

end Phase

/-- The order of requests when attempts are sampled: an admission, the attempt, and its sample. -/
def phases (policy : BreakerPolicy) : Monitor Phase where
  allows
    | phase, .acquirePermit _ => phase = .free
    | phase, .attempt .. => phase = .admitted
    | phase, .recordSample _ failed => phase = .owing (some failed)
    | phase, .dropPermit => phase = .owing none
    | _, _ => True
  next
    | phase, ⟨.acquirePermit _, .error _⟩ => phase
    | _, ⟨.acquirePermit _, .ok _⟩ => .admitted
    | _, ⟨.attempt .., outcome⟩ => .owing (policy.sample? outcome)
    | _, ⟨.recordSample .., _⟩ | _, ⟨.dropPermit, _⟩ => .free
    | phase, _ => phase

section Phases

variable {breaker : BreakerPolicy}

theorem phases_ignores (phase : Phase) : (phases breaker).Ignores phase Request.Quiet := by
  intro request quiet
  cases request <;> first | exact ⟨trivial, fun _ => rfl⟩ | exact quiet.elim

/-- An allowed exchange settles what it ends and owes what it begins. -/
theorem phases_step {phase : Phase} {exchange : Exchange}
    (allowed : (phases breaker).allows phase exchange.request) :
    phase.owed ++ exchange.outcome?.toList.filterMap breaker.sample? =
        exchange.sample?.toList ++ ((phases breaker).next phase exchange).owed ∧
      phase.pending + exchange.admits.toNat =
        exchange.outcome?.toList.length + ((phases breaker).next phase exchange).pending := by
  rcases exchange with ⟨request, answer⟩
  cases request with
  | acquirePermit rule =>
    cases show phase = .free from allowed
    cases answer <;> exact ⟨rfl, rfl⟩
  | attempt number limit heedsCaller =>
    cases show phase = .admitted from allowed
    refine ⟨?_, rfl⟩
    cases sample : breaker.sample? answer <;>
      simp [Exchange.outcome?, Exchange.sample?, phases, Phase.owed, sample]
  | recordSample rule failed =>
    cases show phase = .owing (some failed) from allowed
    exact ⟨rfl, rfl⟩
  | dropPermit =>
    cases show phase = .owing none from allowed
    exact ⟨rfl, rfl⟩
  | _ => exact ⟨List.append_nil _, (Nat.zero_add _).symm⟩

/-- Along a row of allowed exchanges, each attempt was admitted, and each outcome has its sample. -/
theorem phases_accepts {phase : Phase} {history : List Exchange}
    (accepts : (phases breaker).Accepts phase history) :
    phase.owed ++ (outcomes history).filterMap breaker.sample? =
        samples history ++ ((phases breaker).after phase history).owed ∧
      phase.pending + admissions history =
        (outcomes history).length + ((phases breaker).after phase history).pending := by
  -- The phase changes with each exchange; the balance of what is owed and handed in does not.
  induction history generalizing phase with
  | nil => exact ⟨List.append_nil _, (Nat.zero_add _).symm⟩
  | cons exchange rest inductionHypothesis =>
    obtain ⟨samples, admissions⟩ := phases_step accepts.1
    obtain ⟨laterSamples, laterAdmissions⟩ := inductionHypothesis accepts.2
    rw [samples_cons, outcomes_cons, admissions_cons, List.filterMap_append, List.length_append,
      Monitor.after_cons]
    constructor
    · rw [← List.append_assoc, samples, List.append_assoc, laterSamples, List.append_assoc]
    · omega

namespace Invocation

variable {operation : OperationId} {policy : Policy}

theorem attempt_phases (found : policy.breaker = some breaker)
    (sampling : breaker.sampling = .attempt) (number : Nat) :
    (phases breaker).Stays .free (attempt operation policy number) := by
  have through : attempt operation policy number =
      throughBreaker breaker (call operation policy number) := by
    unfold attempt sampled
    rw [found]
    exact if_pos sampling
  rw [through, throughBreaker_eq]
  refine ⟨rfl, ?_⟩
  intro answer
  cases answer with
  | error retryAfter => exact ⟨trivial, fun _ => ⟨trivial, fun _ => rfl⟩⟩
  | ok transition =>
    apply (report_stays (phases_ignores .admitted) transition).bind
    intro _
    obtain ⟨limit, next, shape, tells⟩ := call_eq operation policy number
    rw [shape]
    refine ⟨rfl, fun outcome => (Monitor.admits_bind _ _).mpr ?_⟩
    have calm : (phases breaker).Ignores (.owing (breaker.sample? outcome)) Request.Calm :=
      (phases_ignores _).mono fun _ => Request.quiet_of_calm
    apply ((tells outcome).of_only calm).mono
    rintro value phase ⟨rfl, rfl⟩
    unfold settle
    cases breaker.sample? value with
    | none => exact ⟨rfl, fun _ => rfl⟩
    | some failed =>
      refine ⟨rfl, ?_⟩
      intro changed
      exact (report_stays (phases_ignores .free) changed).bind fun _ => rfl

theorem guarded_phases (found : policy.breaker = some breaker)
    (sampling : breaker.sampling = .attempt) :
    (phases breaker).Stays .free (guarded operation policy) := by
  have bare : guarded operation policy = attempts operation policy := by
    unfold guarded sampled
    rw [found]
    apply if_neg
    rw [sampling]
    exact Sampling.noConfusion
  rw [bare]
  refine attempts_stays ((phases_ignores .free).mono fun _ => Request.quiet_of_calm)
    (fun request named => ?_) (attempt_phases found sampling)
  obtain ⟨name, rfl⟩ := named
  exact ⟨trivial, fun _ => rfl⟩

/-- When attempts are sampled, each of them was admitted, and the breaker gets the sample of each
outcome, but for the last one on its way. -/
theorem attempts_sampled {history : List Exchange} {rest : Plan Outcome}
    (found : policy.breaker = some breaker) (sampling : breaker.sampling = .attempt)
    (around : Around (guarded operation policy) history rest) :
    ∃ phase : Phase, (outcomes history).filterMap breaker.sample? = samples history ++ phase.owed ∧
      admissions history = (outcomes history).length + phase.pending ∧
      (¬rest.Unended → phase = .free) := by
  obtain ⟨accepts, back⟩ := around.accepts (phases_ignores .free) (guarded_phases found sampling)
  obtain ⟨samples, admissions⟩ := phases_accepts accepts
  refine ⟨_, samples, ?_, back⟩
  rw [← admissions]
  exact (Nat.zero_add _).symm

theorem unsampled_of_invocation (found : policy.breaker = some breaker)
    (sampling : breaker.sampling = .invocation) : Unsampled policy := by
  intro other present
  have equal : breaker = other := Option.some.inj (found.symm.trans present)
  rw [← equal, sampling]
  exact Sampling.noConfusion

theorem guarded_eq (found : policy.breaker = some breaker)
    (sampling : breaker.sampling = .invocation) :
    guarded operation policy = throughBreaker breaker (attempts operation policy) := by
  unfold guarded sampled
  rw [found]
  exact if_pos sampling

/-- What comes of an outcome on the guarded path, with a breaker that samples invocations. -/
inductive Settlement (operation : OperationId) (breaker : BreakerPolicy) (outcome : Outcome)
    (history : List Exchange) : Prop
  | rejected {retryAfter : Duration} (turnedAway : outcome = .error (.circuitOpen retryAfter))
      (unadmitted : admissions history = 0) (unattempted : outcomes history = [])
      (present : lacksBackoff history = false) (unsampled : samples history = [])
  | attempted {ended : Outcome} (admitted : admissions history = 1)
      (member : ended ∈ outcomes history)
      (cancels : ended = .error .cancelled → outcome = .error .cancelled)
      (present : lacksBackoff history = false)
      (sampled : samples history = (breaker.sample? outcome).toList)
  | misconfigured {reason : String} (admitted : admissions history = 1)
      (unattempted : outcomes history = []) (lacking : lacksBackoff history = true)
      (fails : outcome = .error (.misconfigured operation reason))
      (sampled : samples history = [false])

/-- Quiet exchanges around the guarded path do not matter. -/
theorem Settlement.around {outcome : Outcome} {before part after : List Exchange}
    (settlement : Settlement operation breaker outcome part) (quiet : Quiet before)
    (quietAfter : Quiet after) :
    Settlement operation breaker outcome (before ++ part ++ after) := by
  obtain ⟨samples, admissions, outcomes, lacks⟩ := quiet.tells_nothing part quietAfter
  cases settlement with
  | rejected turnedAway unadmitted unattempted present unsampled =>
    exact .rejected turnedAway (admissions.trans unadmitted) (outcomes.trans unattempted)
      (lacks.trans present) (samples.trans unsampled)
  | attempted admitted member cancels present sampled =>
    exact .attempted (admissions.trans admitted) (outcomes ▸ member) cancels (lacks.trans present)
      (samples.trans sampled)
  | misconfigured admitted unattempted lacking fails sampled =>
    exact .misconfigured (admissions.trans admitted) (outcomes.trans unattempted)
      (lacks.trans lacking) fails (samples.trans sampled)

theorem Settlement.of_attempts (unsampled : Unsampled policy) {transition : Option Transition}
    {lead inner tail : List Exchange} {outcome : Outcome} (quiet : Quiet lead)
    (returns : (attempts operation policy).Returns inner outcome) (unadmitted : admissions tail = 0)
    (unattempted : outcomes tail = []) (present : lacksBackoff tail = false)
    (sampled : samples tail = (breaker.sample? outcome).toList) :
    Settlement operation breaker outcome
      (⟨.acquirePermit breaker.toBreakerRule, .ok transition⟩ :: (lead ++ inner ++ tail)) := by
  have inside := (attempts_offBreaker operation unsampled).mem returns
  have admitted : admissions (⟨.acquirePermit breaker.toBreakerRule, .ok transition⟩ ::
      (lead ++ inner ++ tail)) = 1 := by
    rw [admissions_cons, admissions_append, admissions_append,
      admissions_of_offBreaker quiet.offBreaker, admissions_of_offBreaker inside, unadmitted]
    rfl
  have made : outcomes (lead ++ inner ++ tail) = outcomes inner := by
    rw [outcomes_append, outcomes_append, quiet.outcomes_eq, unattempted, List.nil_append,
      List.append_nil]
  have lacks : lacksBackoff (lead ++ inner ++ tail) = lacksBackoff inner := by
    rw [lacksBackoff_append, lacksBackoff_append, quiet.lacksBackoff_eq, present,
      Bool.false_or, Bool.or_false]
  have handed : samples (lead ++ inner ++ tail) = (breaker.sample? outcome).toList := by
    rw [samples_append, samples_append, samples_of_offBreaker quiet.offBreaker,
      samples_of_offBreaker inside, sampled, List.nil_append, List.nil_append]
  rcases attempts_returns unsampled returns with
    ⟨name, rfl, rfl⟩ | ⟨none, limit, first, called, cancels⟩
  · exact .misconfigured admitted made lacks rfl handed
  · refine .attempted admitted ?_ cancels (lacks.trans none) handed
    have member : first ∈ outcomes inner := List.mem_filterMap.mpr ⟨_, called, rfl⟩
    exact made ▸ member

theorem Settlement.of_recorded (unsampled : Unsampled policy)
    {transition changed : Option Transition} {lead inner tail : List Exchange} {outcome : Outcome}
    {failed : Bool} (quiet : Quiet lead)
    (returns : (attempts operation policy).Returns inner outcome)
    (sample : breaker.sample? outcome = some failed) (quietAfter : Quiet tail) :
    Settlement operation breaker outcome
      (⟨.acquirePermit breaker.toBreakerRule, .ok transition⟩ :: (lead ++ inner ++
        ⟨.recordSample breaker.toBreakerRule failed, changed⟩ :: tail)) := by
  refine .of_attempts unsampled quiet returns ?_ ?_ ?_ ?_
  · rw [admissions_cons, admissions_of_offBreaker quietAfter.offBreaker]
    rfl
  · exact quietAfter.outcomes_eq
  · exact quietAfter.lacksBackoff_eq
  · rw [samples_cons, samples_of_offBreaker quietAfter.offBreaker, sample]
    rfl

/-- On the guarded path, a sample is handed in for attempts that have ended only. -/
theorem settlement_of_sampled {part : List Exchange} {left : Plan Outcome}
    (found : policy.breaker = some breaker) (sampling : breaker.sampling = .invocation)
    (leads : (guarded operation policy).Leads part left) :
    samples part = [] ∨ ∃ inner outcome, inner <:+: part ∧
      (attempts operation policy).Returns inner outcome ∧
        Settlement operation breaker outcome part := by
  have unsampled := unsampled_of_invocation found sampling
  have off := attempts_offBreaker operation unsampled
  rw [guarded_eq found sampling] at leads
  have silent {lead inner : List Exchange} {left : Plan Outcome} (quiet : Quiet lead)
      (through : (attempts operation policy).Leads inner left) :
      samples (lead ++ inner) = [] := by
    rw [samples_append, samples_of_offBreaker quiet.offBreaker,
      samples_of_offBreaker (off.mem through), List.append_nil]
  cases passage leads with
  | start => exact .inl rfl
  | @rejected retryAfter tail _ quiet _ =>
    have nothing : samples tail = [] := samples_of_offBreaker quiet.offBreaker
    exact .inl nothing
  | inside quiet through _ => exact .inl (silent quiet through)
  | @recorded transition changed lead inner tail outcome failed _ quiet through sample after _ =>
    refine .inr ⟨inner, outcome, ?_, through, .of_recorded unsampled quiet through sample after⟩
    exact ⟨⟨.acquirePermit breaker.toBreakerRule, .ok transition⟩ :: lead,
      ⟨.recordSample breaker.toBreakerRule failed, changed⟩ :: tail, by simp⟩
  | @dropped transition lead inner outcome _ quiet through sample _ =>
    refine .inl ?_
    have dropped : samples ((lead ++ inner) ++ [⟨.dropPermit, ()⟩]) = [] := by
      rw [samples_append, silent quiet through]
      rfl
    exact dropped

theorem settlement {part : List Exchange} {outcome : Outcome}
    (found : policy.breaker = some breaker) (sampling : breaker.sampling = .invocation)
    (returns : (guarded operation policy).Returns part outcome) :
    Settlement operation breaker outcome part := by
  have unsampled := unsampled_of_invocation found sampling
  rw [guarded_eq found sampling] at returns
  cases passage returns with
  | @rejected retryAfter tail _ quiet ends =>
    have admitted : admissions tail = 0 := admissions_of_offBreaker quiet.offBreaker
    have handed : samples tail = [] := samples_of_offBreaker quiet.offBreaker
    refine .rejected (ends outcome rfl) ?_ quiet.outcomes_eq quiet.lacksBackoff_eq handed
    rw [admissions_cons, admitted]
    rfl
  | inside _ _ unended => exact unended.elim
  | @recorded transition changed lead inner tail ended failed _ quiet through sample after ends =>
    have same : outcome = ended := ends outcome rfl
    exact same.symm ▸ .of_recorded unsampled quiet through sample after
  | @dropped transition lead inner ended _ quiet through sample ends =>
    have same : outcome = ended := ends outcome rfl
    rw [same]
    refine .of_attempts unsampled quiet through rfl rfl rfl ?_
    rw [sample]
    rfl

end Invocation

end Phases

end Resilience
