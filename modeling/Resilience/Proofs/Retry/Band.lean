import Resilience.Jitter

/-!
The band of a jitter. A number that is drawn never passes the end of its range, not even with the
carry of a second draw, and 128 bits are enough for every count on the way. So a changed delay is
the delay with an offset between the bounds, cut off at zero and at the longest duration.
-/

namespace Resilience

namespace WordSource

variable (source : WordSource)

theorem draw_lt : source.draw.1 < 2 ^ 128 := by
  have low := (source.word source.used).toNat_lt
  have high := (source.word (source.used + 1)).toNat_lt
  simp only [draw]
  omega

/-- A number that is drawn lies in its range. The range is missed by the last number at most by a
fraction that asks for no second draw, so the carry never leads past the end. -/
theorem drawUpTo_le {greatest : Nat} (fits : greatest < 2 ^ 128) :
    (source.drawUpTo greatest).1 ≤ greatest := by
  have product : source.draw.1 * (greatest + 1) ≤ (2 ^ 128 - 1) * (greatest + 1) :=
    Nat.mul_le_mul_right _ (Nat.le_pred_of_lt source.draw_lt)
  unfold drawUpTo
  dsimp only
  split
  next large =>
    have before : source.draw.1 * (greatest + 1) / 2 ^ 128 + 1 ≤ greatest := by omega
    dsimp only
    split <;> omega
  next => omega

end WordSource

namespace Jitter

variable (bound delay : Duration) (source : WordSource)

/-- A count is split and put together again without a loss. -/
theorem ofCount_eq (nanos : Nat) : ofCount nanos = .ofNanos nanos := by
  apply Duration.ext_nanos
  rw [Duration.nanos_ofNanos, Duration.maxNanos]
  unfold ofCount
  split
  · dsimp only
    omega
  · rw [Duration.longest, Duration.nanos_ofNanos, Duration.maxNanos]
    omega

/-- The offset of a change. It is drawn from twice the bound, and without a bound it is zero. -/
def offset : Nat := if bound.nanos = 0 then 0 else (source.drawUpTo (2 * bound.nanos)).1

theorem doubled_le_cap : 2 * bound.nanos < cap := by
  have := bound.nanos_lt
  unfold cap
  omega

theorem offset_le : offset bound source ≤ 2 * bound.nanos := by
  unfold offset
  split
  · exact Nat.zero_le _
  · apply source.drawUpTo_le
    have := doubled_le_cap bound
    unfold cap at this
    omega

theorem sum_le_cap : delay.nanos + offset bound source ≤ cap := by
  have drawn := offset_le bound source
  have := delay.nanos_lt
  have := bound.nanos_lt
  unfold cap
  omega

/-- A changed delay, counted without any limit but the longest duration. -/
theorem apply_bounded :
    ((bounded bound).apply delay source).1 =
      .ofNanos (delay.nanos + offset bound source - bound.nanos) := by
  have sum := sum_le_cap bound delay source
  simp only [apply]
  by_cases none : bound.nanos = 0
  · rw [if_pos none, offset, if_pos none, none]
    exact (Duration.ofNanos_nanos delay).symm
  · have doubled : min (bound.nanos * 2) cap = 2 * bound.nanos := by
      have := doubled_le_cap bound
      omega
    have drawn : (source.drawUpTo (2 * bound.nanos)).1 = offset bound source :=
      (if_neg none).symm
    rw [if_neg none, doubled, drawn, Nat.min_eq_left sum, ofCount_eq]

theorem apply_ofBound :
    (ofBound bound).apply delay source = (bounded bound).apply delay source := by
  unfold ofBound
  split
  next none => simp [apply, none]
  next => rfl

/-- A delay is changed by an offset between the bound down and the bound up, and cut off only at
zero and at the longest duration. The offset is the number that is drawn for twice the bound, so a
changed delay stays in its band. Every count on the way fits into 128 bits, and its seconds fit
into 64 unless it is cut off. -/
theorem changes_stay_in_band :
    let offset := offset bound source
    let changed := ((bounded bound).apply delay source).1
    (ofBound bound).apply delay source = (bounded bound).apply delay source ∧
    offset ≤ 2 * bound.nanos ∧
    (changed.nanos : Int) =
      max 0 (min ((delay.nanos : Int) + offset - bound.nanos) Duration.longest.nanos) ∧
    max 0 ((delay.nanos : Int) - bound.nanos) ≤ changed.nanos ∧
    changed.nanos ≤ min (delay.nanos + bound.nanos) Duration.longest.nanos ∧
    min (bound.nanos * 2) cap = 2 * bound.nanos ∧ 2 * bound.nanos + 1 ≤ cap ∧
    min (delay.nanos + offset) cap = delay.nanos + offset ∧
    ((delay.nanos + offset - bound.nanos) / 10 ^ 9 < 2 ^ 64 ↔
      delay.nanos + offset - bound.nanos ≤ Duration.longest.nanos) := by
  intro offset changed
  have drawn : offset ≤ 2 * bound.nanos := offset_le bound source
  have doubled := doubled_le_cap bound
  have longest : Duration.longest.nanos = Duration.maxNanos := Nat.min_self _
  have within := delay.nanos_le
  have nanos : changed.nanos = min (delay.nanos + offset - bound.nanos) Duration.maxNanos := by
    simp only [changed, apply_bounded, Duration.nanos_ofNanos, offset]
  have seconds : Duration.maxNanos = 2 ^ 64 * 10 ^ 9 - 1 := rfl
  rw [longest]
  refine ⟨apply_ofBound bound delay source, drawn, ?_, ?_, ?_, ?_, doubled,
    Nat.min_eq_left (sum_le_cap bound delay source), ?_⟩ <;> omega

end Jitter

end Resilience
