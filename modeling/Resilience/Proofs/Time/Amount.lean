import Resilience.Time.Amount

/-!
Durations as amounts and amounts as durations. Two bounds cut what is too large: a value is at most
what 64 bits hold, in milliseconds or in nanoseconds, and the duration of an amount is at most that
many nanoseconds. The first bound is never the tighter one, so only the second is ever seen.
-/

namespace Resilience.Amount

/-- The most nanoseconds that an amount may mean. -/
def mostNanos : Nat := 2 ^ 64 - 1

theorem ofDuration_cases (d : Duration) :
    (d.nanos % 10 ^ 6 = 0 ∧ (ofDuration d).unit = .millis ∧
        (ofDuration d).value.toNat = min (d.nanos / 10 ^ 6) mostNanos) ∨
      (d.nanos % 10 ^ 6 ≠ 0 ∧ (ofDuration d).unit = .nanos ∧
        (ofDuration d).value.toNat = min d.nanos mostNanos) := by
  have fits (value : Nat) :
      (UInt64.ofNat (min value (2 ^ 64 - 1))).toNat = min value mostNanos := by
    simp only [UInt64.toNat_ofNat', mostNanos]
    omega
  unfold ofDuration
  split
  next whole => exact .inl ⟨whole, rfl, fits _⟩
  next part => exact .inr ⟨part, rfl, fits _⟩

/-- Milliseconds that are cut at 64 bits still mean more than the nanoseconds that are kept. -/
theorem min_millis (nanos : Nat) (whole : nanos % 10 ^ 6 = 0) :
    min (min (nanos / 10 ^ 6) mostNanos * 10 ^ 6) mostNanos = min nanos mostNanos := by
  have split : nanos / 10 ^ 6 * 10 ^ 6 = nanos := by omega
  rcases Nat.le_total (nanos / 10 ^ 6) mostNanos with few | many
  · simp only [Nat.min_eq_left few, split]
  · have long : mostNanos ≤ nanos := by omega
    simp only [Nat.min_eq_right many, Nat.min_eq_right long]
    exact Nat.min_eq_right (Nat.le_mul_of_pos_right _ (by decide))

/-- A duration that becomes an amount keeps all of its nanoseconds that an amount may mean. -/
theorem nanos_ofDuration (d : Duration) :
    (ofDuration d).toDuration.nanos = min d.nanos mostNanos := by
  rw [nanos_toDuration]
  rcases ofDuration_cases d with ⟨whole, unit, value⟩ | ⟨-, unit, value⟩
  · rw [unit, value]
    exact min_millis d.nanos whole
  · rw [unit, value]
    simp [TimeUnit.length, mostNanos]

theorem nanos_toDuration_le (amount : Amount) : amount.toDuration.nanos ≤ mostNanos := by
  rw [nanos_toDuration]
  exact Nat.min_le_right _ _

/-- The duration of an amount is not changed by a second way through an amount. -/
theorem toDuration_ofDuration_toDuration (amount : Amount) :
    (ofDuration amount.toDuration).toDuration = amount.toDuration :=
  Duration.ext_nanos <| by
    rw [nanos_ofDuration]
    exact Nat.min_eq_left amount.nanos_toDuration_le

/-- Only the value zero means no time: every unit is longer than nothing. -/
theorem isZero_iff_toDuration (amount : Amount) :
    amount.isZero = true ↔ amount.toDuration = .zero := by
  have long := amount.unit.length_pos
  have product : amount.value.toNat * amount.unit.length = 0 ↔
      amount.value.toNat = 0 ∨ amount.unit.length = 0 := Nat.mul_eq_zero
  calc amount.isZero = true
      _ ↔ amount.value.toNat = 0 := by simp [isZero, ← UInt64.toNat_inj]
      _ ↔ amount.toDuration.nanos = 0 := by
        rw [nanos_toDuration]
        omega
      _ ↔ amount.toDuration = .zero :=
        ⟨fun zero => Duration.ext_nanos zero, fun zero => zero ▸ Duration.nanos_zero⟩

theorem toDuration_le (unit : TimeUnit) {value more : UInt64} (le : value ≤ more) :
    toDuration ⟨value, unit⟩ ≤ toDuration ⟨more, unit⟩ := by
  have longer := Nat.mul_le_mul_right unit.length (UInt64.le_iff_toNat_le.mp le)
  simp only [Duration.le_iff, nanos_toDuration]
  omega

/-- What the conversions between durations and amounts keep: every duration but for what lies above
the nanoseconds of 64 bits, the duration of every amount, what is zero, and the order of the values
of one unit. -/
theorem conversions_keep :
    (∀ d : Duration, (ofDuration d).toDuration.nanos = min d.nanos (2 ^ 64 - 1)) ∧
      (∀ amount : Amount, (ofDuration amount.toDuration).toDuration = amount.toDuration) ∧
        (∀ amount : Amount, amount.isZero = true ↔ amount.toDuration = .zero) ∧
          ∀ (unit : TimeUnit) (value more : UInt64), value ≤ more →
            toDuration ⟨value, unit⟩ ≤ toDuration ⟨more, unit⟩ :=
  ⟨nanos_ofDuration, toDuration_ofDuration_toDuration, isZero_iff_toDuration,
    fun unit _ _ le => toDuration_le unit le⟩

/-- A duration of more milliseconds than 64 bits count, and days of which the last is cut. -/
theorem conversions_keep_longest :
    (ofDuration (.ofMillis (2 ^ 64))).toDuration.nanos = 2 ^ 64 - 1 ∧
      (3 : UInt64) ≤ 213504 ∧ toDuration ⟨3, .days⟩ ≤ toDuration ⟨213504, .days⟩ :=
  ⟨(conversions_keep.1 (.ofMillis (2 ^ 64))).trans (by decide), by decide,
    conversions_keep.2.2.2 .days 3 213504 (by decide)⟩

end Resilience.Amount
