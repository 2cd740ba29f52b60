import Resilience.Policy.Validity
import Resilience.Proofs.Policy.Overlay

/-!
What a valid strategy holds is said of each field on its own, except that the limit of retries lies
above their delay, where each of the two is a value times a unit.
-/

namespace Resilience

namespace Amount

/-- Whether a limit lies above a delay. A limit of zero is none. -/
def Above (limit delay : Amount) : Prop :=
  limit.isZero = true ∨ delay.toDuration.nanos < limit.toDuration.nanos

theorem nanos_mono {a b : UInt64} (unit : TimeUnit) (le : a ≤ b) :
    (mk a unit).toDuration.nanos ≤ (mk b unit).toDuration.nanos := by
  have scaled := Nat.mul_le_mul_right unit.length (UInt64.le_iff_toNat_le.mp le)
  rw [nanos_toDuration, nanos_toDuration]
  dsimp only
  omega

variable {limit delay former current : Amount}

theorem Above.mono {limit' delay' : Amount} (above : limit.Above delay)
    (raised : limit.isZero = true → limit'.isZero = true)
    (higher : limit.toDuration.nanos ≤ limit'.toDuration.nanos)
    (lower : delay'.toDuration.nanos ≤ delay.toDuration.nanos) : limit'.Above delay' := by
  rcases above with none | above
  · exact .inl (raised none)
  · exact .inr (by omega)

/-- Of two different delays below a limit, one takes the value or the unit of the other so that it
stays below. -/
theorem Above.mix_delay (first : limit.Above former) (second : limit.Above current)
    (differ : former ≠ current) :
    former.value ≠ current.value ∧ limit.Above ⟨former.value, current.unit⟩ ∨
      former.unit ≠ current.unit ∧ limit.Above ⟨current.value, former.unit⟩ := by
  by_cases value : former.value = current.value
  · refine .inr ⟨fun unit => differ (eq_iff.mpr ⟨value, unit⟩), ?_⟩
    rwa [← value]
  by_cases unit : former.unit = current.unit
  · refine .inl ⟨value, ?_⟩
    rwa [← unit]
  rcases UInt64.le_total former.value current.value with less | less
  · exact .inl ⟨value, second.mono id (Nat.le_refl _) (nanos_mono current.unit less)⟩
  · exact .inr ⟨unit, first.mono id (Nat.le_refl _) (nanos_mono former.unit less)⟩

theorem Above.mix_limit (first : former.Above delay) (second : current.Above delay)
    (differ : former ≠ current) :
    former.value ≠ current.value ∧ (mk former.value current.unit).Above delay ∨
      former.unit ≠ current.unit ∧ (mk current.value former.unit).Above delay := by
  by_cases value : former.value = current.value
  · refine .inr ⟨fun unit => differ (eq_iff.mpr ⟨value, unit⟩), ?_⟩
    rwa [← value]
  by_cases unit : former.unit = current.unit
  · refine .inl ⟨value, ?_⟩
    rwa [← unit]
  -- A limit of zero is none in every unit, and else the larger value is the better one.
  by_cases unlimited : former.isZero = true
  · exact .inl ⟨value, .inl unlimited⟩
  by_cases unlimited' : current.isZero = true
  · exact .inr ⟨unit, .inl unlimited'⟩
  rcases UInt64.le_total former.value current.value with less | less
  · have higher := nanos_mono former.unit less
    exact .inr ⟨unit, first.mono (absurd · unlimited) higher (Nat.le_refl _)⟩
  · have higher := nanos_mono current.unit less
    exact .inl ⟨value, second.mono (absurd · unlimited') higher (Nat.le_refl _)⟩

end Amount

def RetryField.Admits : RetryField → FieldValue → Prop
  | factor, .count value => value ≠ 0
  | backoff, .backoff (.custom name) => Text.trimmed name.toList ≠ []
  | _, _ => True

def TimeoutField.Admits : TimeoutField → FieldValue → Prop
  | value, .amount amount => amount ≠ 0
  | _, _ => True

def BreakerField.Admits : BreakerField → FieldValue → Prop
  | volume, .count value | successThreshold, .count value => value ≠ 0
  | failureRatio, .ratio value => 0 ≤ value ∧ value ≤ 1
  | _, _ => True

def BulkheadField.Admits : BulkheadField → FieldValue → Prop
  | maxConcurrent, .count value => value ≠ 0
  | _, _ => True

def FallbackField.Admits : FallbackField → FieldValue → Prop
  | handler, .name value => Text.trimmed value.toList ≠ []
  | _, _ => True

namespace PolicyKind

def problem? : (kind : PolicyKind) → kind.Part → Option (String × FieldProblem)
  | retry => RetryPolicy.problem?
  | timeout => TimeoutPolicy.problem?
  | breaker => BreakerPolicy.problem?
  | bulkhead => BulkheadPolicy.problem?
  | fallback => FallbackPolicy.problem?

def Admits : (kind : PolicyKind) → kind.form.Field → FieldValue → Prop
  | retry => RetryField.Admits
  | timeout => TimeoutField.Admits
  | breaker => BreakerField.Admits
  | bulkhead => BulkheadField.Admits
  | fallback => FallbackField.Admits

/-- What a valid strategy needs beyond its fields: retries are limited above their delay. -/
def Limited : (kind : PolicyKind) → kind.Part → Prop
  | retry, part => Amount.Above part.maxDuration part.delay
  | _, _ => True

end PolicyKind

namespace RetryPolicy

/-- A retry is valid if its fields are and its limit lies above its delay. -/
theorem problem?_eq_none_iff {policy : RetryPolicy} : policy.problem? = none ↔
    (∀ field value, policy.value? field = some value → field.Admits value) ∧
      policy.maxDuration.Above policy.delay := by
  have refused : (!policy.maxDuration.isZero &&
      decide (policy.maxDuration.toDuration ≤ policy.delay.toDuration)) = true ↔
        ¬policy.maxDuration.Above policy.delay := by
    simp [Amount.Above, Duration.le_iff]
  obtain ⟨_, _, _, _, _, _, backoff⟩ := policy
  unfold problem?
  split
  next late => exact ⟨nofun, fun ⟨_, above⟩ => absurd above (refused.mp late)⟩
  next early =>
    rw [and_iff_left (Classical.not_not.mp (mt refused.mpr early))]
    constructor
    · intro sound field value held
      cases field with
      | backoff =>
        cases held
        cases backoff with
        | custom name => simpa [BackoffPolicy.plain, RetryField.Admits] using sound
        | _ => exact trivial
      | factor =>
        cases backoff <;> cases held
        simpa [RetryField.Admits] using sound
      | _ => exact trivial
    · intro admitted
      cases backoff with
      | exponential factor => exact if_neg (admitted .factor _ rfl)
      | custom name => exact if_neg (admitted .backoff _ rfl)
      | _ => rfl

end RetryPolicy

theorem TimeoutPolicy.problem?_eq_none_iff {policy : TimeoutPolicy} : policy.problem? = none ↔
    ∀ field value, policy.value? field = some value → field.Admits value := by
  have zero : policy.duration.toDuration.nanos = 0 ↔ policy.duration.value = 0 := by
    have positive := policy.duration.unit.length_pos
    have product : policy.duration.value.toNat * policy.duration.unit.length = 0 ↔
        policy.duration.value.toNat = 0 := by
      rw [Nat.mul_eq_zero, or_iff_left (Nat.ne_of_gt positive)]
    rw [Amount.nanos_toDuration, ← UInt64.toNat_inj, UInt64.toNat_zero, ← product]
    omega
  simp only [problem?, zero]
  constructor
  · intro sound field value held
    cases field <;> cases held <;> grind [TimeoutField.Admits]
  · intro admitted
    exact if_neg (admitted .value _ rfl)

theorem BreakerPolicy.problem?_eq_none_iff {policy : BreakerPolicy} : policy.problem? = none ↔
    ∀ field value, policy.value? field = some value → field.Admits value := by
  unfold problem?
  constructor
  · intro sound field value held
    cases field <;> cases held <;> grind [BreakerField.Admits]
  · intro admitted
    have ratio : 0 ≤ policy.failureRatio ∧ policy.failureRatio ≤ 1 := admitted .failureRatio _ rfl
    rw [if_neg (admitted .volume _ rfl), if_neg (Classical.not_not.mpr ratio)]
    exact if_neg (admitted .successThreshold _ rfl)

theorem BulkheadPolicy.problem?_eq_none_iff {policy : BulkheadPolicy} : policy.problem? = none ↔
    ∀ field value, policy.value? field = some value → field.Admits value := by
  unfold problem?
  constructor
  · intro sound field value held
    cases field <;> cases held <;> grind [BulkheadField.Admits]
  · intro admitted
    exact if_neg (admitted .maxConcurrent _ rfl)

theorem FallbackPolicy.problem?_eq_none_iff {policy : FallbackPolicy} : policy.problem? = none ↔
    ∀ field value, policy.value? field = some value → field.Admits value := by
  unfold problem?
  constructor
  · intro sound field value held
    cases field <;> cases held <;> grind [FallbackField.Admits]
  · intro admitted
    exact if_neg (admitted .handler _ rfl)

namespace PolicyKind

variable {kind : PolicyKind} {part : kind.Part}

/-- A strategy is valid if its fields are, and a retry is limited above its delay. -/
theorem problem?_eq_none_iff : kind.problem? part = none ↔
    (∀ field value, kind.form.value? part field = some value → kind.Admits field value) ∧
      kind.Limited part := by
  cases kind with
  | retry => exact RetryPolicy.problem?_eq_none_iff
  | timeout => exact TimeoutPolicy.problem?_eq_none_iff.trans (and_iff_left trivial).symm
  | breaker => exact BreakerPolicy.problem?_eq_none_iff.trans (and_iff_left trivial).symm
  | bulkhead => exact BulkheadPolicy.problem?_eq_none_iff.trans (and_iff_left trivial).symm
  | fallback => exact FallbackPolicy.problem?_eq_none_iff.trans (and_iff_left trivial).symm

end PolicyKind

/-- A backoff that a text names has a factor that is not zero, or a name. -/
theorem BackoffPolicy.admits_of_ofText {text : String} {named : BackoffPolicy}
    (read : ofText text = .ok named) {field : RetryField} {value : FieldValue}
    (held : named.value? field = some value) : field.Admits value := by
  unfold ofText at read
  dsimp only at read
  split at read
  · cases read
    cases field <;> cases held <;> exact trivial
  split at read
  · cases read
    cases field <;> cases held <;> first | exact trivial | exact show (2 : UInt32) ≠ 0 by decide
  split at read
  · cases read
    cases field <;> cases held <;> exact trivial
  split at read
  next first rest name =>
    cases read
    obtain ⟨word, -, trimmed⟩ := Option.map_eq_some_iff.mp name
    have named : Text.trimmed (first :: rest) ≠ [] := by
      rw [← trimmed, Text.trimmed_trimmed, trimmed]
      exact List.cons_ne_nil _ _
    cases field <;> cases held
    simpa [RetryField.Admits, plain] using named
  · cases read

/-- Another backoff leaves a valid retry valid. -/
theorem RetryPolicy.problem?_renamed {policy : RetryPolicy} {text : String}
    {named : BackoffPolicy} (sound : policy.problem? = none)
    (read : BackoffPolicy.ofText text = .ok named) :
    problem? { policy with backoff := policy.backoff.renamed named } = none := by
  have taken : policy.backoff.renamed named = policy.backoff ∨
      policy.backoff.renamed named = named := by
    unfold BackoffPolicy.renamed
    split
    · exact .inr rfl
    · split
      · exact .inl rfl
      · exact .inr rfl
  rcases taken with same | same
  · rwa [same]
  · obtain ⟨admitted, above⟩ := problem?_eq_none_iff.mp sound
    rw [same]
    refine problem?_eq_none_iff.mpr ⟨fun field value held => ?_, above⟩
    cases field with
    | backoff | factor | maxDelay | maxDelayUnit => exact BackoffPolicy.admits_of_ofText read held
    | _ => exact admitted _ value held

end Resilience
