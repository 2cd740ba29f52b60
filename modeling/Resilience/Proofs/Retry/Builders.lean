import Resilience.Proofs.Policy.Registry
import Resilience.Proofs.Retry.Delays

/-!
Backoffs that are built step by step. From the values of an accepted policy the steps lead to the
backoff that the policy describes, if its largest delay is neither zero nor below its delay. That
is not checked when a policy is accepted, so the retries may go by a backoff that the steps refuse.
-/

namespace Resilience

/-- The growing backoff that is built step by step from the values of a policy: without a largest
delay at first and, if it is exponential, doubling; then it gets the policy's factor and largest
delay. -/
def RetryPolicy.built? (policy : RetryPolicy) : Option (Except BackoffError Backoff) :=
  let base := policy.delay.toDuration
  match policy.backoff with
  | .exponential factor maxDelay => some do
    let backoff ← (Backoff.exponential base 2 none).withFactor factor
    backoff.withMax maxDelay.toDuration
  | .fibonacci maxDelay => some ((Backoff.fibonacci base none).withMax maxDelay.toDuration)
  | .none | .custom _ => none

inductive Backoff.Matches (base max : Duration) (described : Backoff) :
    Except BackoffError Backoff → Prop
  /-- The steps succeed, and lead to the same backoff. -/
  | same (positive : 0 < max.nanos) (above : base ≤ max) {built : Backoff}
      (delays : ∀ attempt, built.delay attempt = described.delay attempt) :
      Matches base max described (.ok built)
  /-- The steps refuse a largest delay of zero, with which there is no delay at all. -/
  | idle (zero : max.nanos = 0) (delays : ∀ attempt, described.delay attempt = .zero) :
      Matches base max described (.error .maxMustBePositive)
  /-- The steps refuse a largest delay below the first, with which all delays are the largest. -/
  | flat (positive : 0 < max.nanos) (below : max < base)
      (delays : ∀ attempt, described.delay (attempt + 1) = min max .day) :
      Matches base max described (.error (.maxLessThanBase base max))

/-- Whether the steps never fail on the factor, and on the largest delay exactly if it is zero or
below the delay, and else lead to the backoff that a policy describes. -/
def RetryPolicy.Agrees (policy : RetryPolicy) : Prop :=
  ∀ built, policy.built? = some built → ∀ strategy, ∃ maxDelay : Amount, ∃ described,
    (policy.backoff = .fibonacci maxDelay ∨
      ∃ factor, policy.backoff = .exponential factor maxDelay) ∧
    Backoff.ofPolicy? policy strategy = some described ∧
    Backoff.Matches policy.delay.toDuration maxDelay.toDuration described built

namespace Backoff

/-- Where the first ideal delay is the base and the ideal delays grow, setting a largest delay
succeeds or the delays are flat. -/
theorem matches_withMax {base max : Duration} {backoff described : Backoff}
    (set : backoff.withMax max = if max.nanos = 0 then .error .maxMustBePositive
      else if max < base then .error (.maxLessThanBase base max) else .ok described)
    (limit : described.limit = min max .day) (grows : described.Grows)
    (first : described.ideal 1 = base.nanos) :
    Matches base max described (backoff.withMax max) := by
  rw [set]
  by_cases zero : max.nanos = 0
  · rw [if_pos zero]
    refine .idle zero fun attempt => ?_
    cases attempt with
    | zero => rfl
    | succ n =>
      refine Duration.ext_nanos ?_
      rw [nanos_delay, limit, Duration.nanos_min, zero]
      simp
  rw [if_neg zero]
  by_cases below : max < base
  · rw [if_pos below]
    refine .flat (Nat.pos_of_ne_zero zero) below fun attempt => Duration.ext_nanos ?_
    have grown := ideal_mono grows (Nat.le_add_left 1 attempt)
    rw [first] at grown
    rw [nanos_delay, limit, Duration.nanos_min]
    rw [Duration.lt_iff] at below
    omega
  · rw [if_neg below]
    exact .same (Nat.pos_of_ne_zero zero) (Nat.le_of_not_lt below) fun _ => rfl

end Backoff

theorem RetryPolicy.agrees {policy : RetryPolicy} (accepted : policy.problem? = none) :
    policy.Agrees := by
  intro built steps strategy
  unfold problem? at accepted
  split at accepted
  · cases accepted
  unfold built? at steps
  unfold Backoff.ofPolicy?
  cases backoff : policy.backoff with
  | none =>
    rw [backoff] at steps
    cases steps
  | custom =>
    rw [backoff] at steps
    cases steps
  | exponential factor maxDelay =>
    rw [backoff] at steps accepted
    have nonzero : factor ≠ 0 := by
      rintro rfl
      cases accepted
    refine ⟨maxDelay, _, .inr ⟨factor, rfl⟩, rfl, ?_⟩
    obtain rfl := Option.some.inj steps
    have factored : (Backoff.exponential policy.delay.toDuration 2 none).withFactor factor =
        .ok (.exponential policy.delay.toDuration factor none) := if_neg nonzero
    rw [factored]
    show Backoff.Matches _ _ _ ((Backoff.exponential policy.delay.toDuration factor none).withMax _)
    apply Backoff.matches_withMax
    · rfl
    · rfl
    · exact nonzero
    · simp [Backoff.ideal]
  | fibonacci maxDelay =>
    rw [backoff] at steps
    refine ⟨maxDelay, _, .inl rfl, rfl, ?_⟩
    obtain rfl := Option.some.inj steps
    apply Backoff.matches_withMax
    · rfl
    · rfl
    · trivial
    · simp [Backoff.ideal]

namespace Engine

variable {α : Type}

/-- The backoff of every accepted retry policy goes together with the one that is built from its
values, and so does the one of every policy that a registry comes to hold through declarations and
overrides: the steps fail exactly if the largest delay is zero or below the delay, and else lead to
the same delays. -/
theorem built_backoffs_agree (engine : Engine α) (amendments : List Amendment) :
    (∀ retry : RetryPolicy, retry.problem? = none → retry.Agrees) ∧
      ∀ operation policy retry,
        (({ engine with registry := {} } : Engine α).amendAll amendments).registry.resolve?
          operation = some policy → policy.retry = some retry → retry.Agrees := by
  refine ⟨fun retry => RetryPolicy.agrees, fun operation policy retry resolved declared => ?_⟩
  have sound : (({ engine with registry := {} } : Engine α).amendAll amendments).registry.Sound :=
    amendAll_sound Registry.sound_empty amendments
  obtain ⟨registration, found, rfl⟩ := Option.map_eq_some_iff.mp resolved
  have valid := (sound operation registration found).resolved .retry
  rw [Policy.problemOf?, declared] at valid
  exact RetryPolicy.agrees valid

/-- A registered policy whose steps fail on a largest delay of zero never waits. -/
theorem built_backoffs_agree_idle :
    let declared : RetryPolicy := { delay := .millis 100, backoff := .exponential 2 (.millis 0) }
    let amendments := [.register "slow" { retry := some declared }]
    declared.problem? = none ∧
      ((({} : Engine Outcome).amendAll amendments).registry.resolve? "slow").bind Policy.retry =
        some declared ∧
      ∃ described, Backoff.ofPolicy? declared none = some described ∧
        ∀ attempt, described.delay attempt = .zero := by
  intro declared amendments
  have valid : declared.problem? = none := by decide
  have reached : ((({} : Engine Outcome).amendAll amendments).registry.resolve? "slow").bind
      Policy.retry = some declared := by decide +kernel
  obtain ⟨policy, found, declares⟩ := Option.bind_eq_some_iff.mp reached
  have agrees := (built_backoffs_agree ({} : Engine Outcome) amendments).2 "slow" policy declared
    found declares
  obtain ⟨maxDelay, described, -, same, goes⟩ := agrees (.error .maxMustBePositive) rfl none
  refine ⟨valid, reached, described, same, ?_⟩
  cases goes with
  | idle zero delays => exact delays

/-- A policy whose largest delay is zero is accepted and its backoff refused, and an override comes
to the same. -/
theorem refused_backoffs_are_reached :
    let declared : RetryPolicy := { delay := .millis 100, backoff := .exponential 2 (.millis 0) }
    let amended : RetryPolicy := { backoff := .fibonacci (.minutes 0) }
    let reached := ({} : Engine Outcome).amendAll [.register "slow" { retry := some declared },
      .register "quick" { retry := some { backoff := .defaultFibonacci } },
      .overrideField "quick" .retry "maxDelay" "0"]
    declared.problem? = none ∧
      (reached.registry.resolve? "slow").bind Policy.retry = some declared ∧
      declared.built?.map Except.isOk = some false ∧
      (reached.registry.resolve? "quick").bind Policy.retry = some amended ∧
      amended.built?.map Except.isOk = some false := by
  decide +kernel

end Engine

end Resilience
