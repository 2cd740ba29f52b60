import Mathlib.Data.Nat.Fib.Basic
import Resilience.Backoff

/-!
Delays: the multipliers stop at the largest count, the exponents and the row of numbers are cut off,
and the nanoseconds are narrowed, but none of this shows. Every delay is what unbounded numbers
give, up to the largest delay and a day.
-/

namespace Resilience.Backoff

/-- Numbers that are the same up to the cap. From the cap on, any base but zero gives more than a
day. -/
def Alike (first second : Nat) : Prop := min first cap = min second cap

theorem alike_min (number : Nat) : Alike (min number cap) number := by
  simp [Alike]

theorem Alike.of_le {first second : Nat} (first_large : cap ≤ first) (second_large : cap ≤ second) :
    Alike first second := by
  rw [Alike, Nat.min_eq_right first_large, Nat.min_eq_right second_large]

theorem Alike.trans {first second third : Nat} (before : Alike first second)
    (after : Alike second third) : Alike first third :=
  Eq.trans before after

theorem day_le_cap : Duration.day.nanos ≤ cap := by decide

theorem nanos_day_lt : Duration.day.nanos < 2 ^ 64 := by decide

/-- Numbers that are the same up to the cap give the same multiples up to a day. -/
theorem Alike.mul {first second : Nat} (alike : Alike first second) (base : Nat) :
    min (base * first) Duration.day.nanos = min (base * second) Duration.day.nanos := by
  have day_le_cap := day_le_cap
  by_cases none : base = 0
  · simp [none]
  by_cases same : first = second
  · rw [same]
  -- Numbers that differ are both above the cap.
  have large : cap ≤ first ∧ cap ≤ second := by
    simp only [Alike] at alike
    omega
  have above {number : Nat} (large : cap ≤ number) : Duration.day.nanos ≤ base * number := by
    calc Duration.day.nanos ≤ cap := day_le_cap
      _ ≤ number := large
      _ ≤ base * number := Nat.le_mul_of_pos_left number (Nat.pos_of_ne_zero none)
  rw [Nat.min_eq_right (above large.1), Nat.min_eq_right (above large.2)]

/-- Cutting an exponent from the number of the cap's bits on changes no power up to the cap. -/
theorem alike_pow {bound : Nat} (enough : 128 ≤ bound) (base exponent : Nat) :
    Alike (base ^ min exponent bound) (base ^ exponent) := by
  by_cases within : exponent ≤ bound
  · rw [Nat.min_eq_left within, Alike]
  have beyond : bound ≤ exponent := by omega
  rw [Nat.min_eq_right beyond]
  rcases base with _ | _ | base
  · rw [Nat.zero_pow (by omega), Nat.zero_pow (by omega), Alike]
  · simp [Alike]
  · have large {exponent : Nat} (enough : 128 ≤ exponent) : cap ≤ (base + 1 + 1) ^ exponent := by
      calc cap ≤ 2 ^ 128 := Nat.sub_le ..
        _ ≤ 2 ^ exponent := Nat.pow_le_pow_right (by decide) enough
        _ ≤ (base + 1 + 1) ^ exponent := Nat.pow_le_pow_left (by omega) exponent
    exact .of_le (large enough) (large (enough.trans beyond))

theorem alike_cappedPower (base exponent : Nat) :
    Alike (cappedPower base exponent) (base ^ exponent) :=
  (alike_min _).trans (alike_pow (Nat.le_refl 128) base exponent)

theorem cappedFibonacci_eq (n : Nat) :
    cappedFibonacci n = (min (Nat.fib (n + 2)) cap, min (Nat.fib (n + 3)) cap) := by
  induction n with
  | zero => decide
  | succ n inductionHypothesis =>
    have next : Nat.fib (n + 1 + 3) = Nat.fib (n + 2) + Nat.fib (n + 3) := Nat.fib_add_two
    rw [cappedFibonacci, inductionHypothesis, next]
    simp only [Prod.mk.injEq, true_and]
    omega

theorem cap_le_fib {n : Nat} (enough : 257 ≤ n) : cap ≤ Nat.fib n := by
  calc cap ≤ Nat.fib 257 := by decide +kernel
    _ ≤ Nat.fib n := Nat.fib_mono enough

/-- Cutting the row of Fibonacci numbers off changes none of them up to the cap. -/
theorem alike_cappedFibonacci (n : Nat) :
    Alike (cappedFibonacci (min (n + 1) 256 - 1)).1 (Nat.fib (n + 2)) := by
  rw [cappedFibonacci_eq]
  apply (alike_min _).trans
  by_cases within : n ≤ 255
  · rw [show min (n + 1) 256 - 1 = n by omega, Alike]
  · exact .of_le (cap_le_fib (by omega)) (cap_le_fib (by omega))

/-- The nanoseconds of the delay after a failed attempt, if numbers had no limits. -/
def ideal : Backoff → (attempt : Nat) → Nat
  | constant delay, _ => delay.nanos
  | exponential base factor _, attempt => base.nanos * factor.toNat ^ (attempt - 1)
  | fibonacci base _, attempt => base.nanos * Nat.fib (attempt + 1)
  | custom strategy, attempt => (strategy attempt).nanos

/-- The longest delay of a backoff: its largest delay if it has one, and never more than a day. -/
def limit : Backoff → Duration
  | exponential _ _ (some max) | fibonacci _ (some max) => min max .day
  | _ => .day

def atMost : Option Duration → Duration
  | some max => min max .day
  | none => .day

theorem limit_exponential (base : Duration) (factor : UInt32) (max : Option Duration) :
    (exponential base factor max).limit = atMost max := by
  cases max <;> rfl

theorem limit_fibonacci (base : Duration) (max : Option Duration) :
    (fibonacci base max).limit = atMost max := by
  cases max <;> rfl

theorem atMost_le (max : Option Duration) : (atMost max).nanos ≤ Duration.day.nanos := by
  cases max <;> simp [atMost]

/-- A multiple is exact up to the longest delay, whatever is cut off its multiplier. -/
theorem nanos_scaled {multiplier exact : Nat} (alike : Alike multiplier exact) (base : Duration)
    (max : Option Duration) :
    (scaled base multiplier max).nanos = min (base.nanos * exact) (atMost max).nanos := by
  have within : min (min (base.nanos * multiplier) cap) Duration.day.nanos < UInt64.size :=
    Nat.lt_of_le_of_lt (Nat.min_le_right ..) nanos_day_lt
  -- A day fits in 64 bits, so narrowing changes nothing.
  have narrowed := UInt64.toNat_ofNat_of_lt' within
  have same := alike.mul base.nanos
  have day_le_cap := day_le_cap
  have longest : Duration.day.nanos ≤ Duration.maxNanos := Duration.nanos_le _
  have short := atMost_le max
  unfold scaled
  dsimp only
  rw [narrowed]
  cases max with
  | none =>
    simp only [atMost, Duration.nanos_min, Duration.nanos_ofNanos]
    omega
  | some max =>
    simp only [atMost, Duration.nanos_min, Duration.nanos_ofNanos] at short ⊢
    omega

theorem nanos_delay (backoff : Backoff) (n : Nat) :
    (backoff.delay (n + 1)).nanos = min (backoff.ideal (n + 1)) backoff.limit.nanos := by
  unfold delay
  rw [if_neg (Nat.succ_ne_zero n)]
  cases backoff with
  | constant delay => simp [ideal, limit]
  | exponential base factor max =>
    have exact := (alike_cappedPower factor.toNat (min n (2 ^ 32 - 1))).trans
      (alike_pow (by decide) factor.toNat n)
    simp only [Nat.add_sub_cancel, nanos_scaled exact, ideal, limit_exponential]
  | fibonacci base max =>
    simp only [nanos_scaled (alike_cappedFibonacci n), ideal, limit_fibonacci]
  | custom strategy => simp [ideal, limit]

/-- The backoffs whose delays never become shorter. -/
def Grows : Backoff → Prop
  | constant _ | fibonacci .. => True
  | exponential _ factor _ => factor ≠ 0
  | custom _ => False

theorem ideal_mono {backoff : Backoff} (grows : backoff.Grows) {m n : Nat} (later : m ≤ n) :
    backoff.ideal m ≤ backoff.ideal n := by
  cases backoff with
  | constant => exact Nat.le_refl _
  | exponential base factor max =>
    have positive : 0 < factor.toNat := by
      refine Nat.pos_of_ne_zero fun zero => grows (UInt32.toNat_inj.mp zero)
    exact Nat.mul_le_mul_left _ (Nat.pow_le_pow_right positive (by omega))
  | fibonacci => exact Nat.mul_le_mul_left _ (Nat.fib_mono (by omega))
  | custom => exact grows.elim

/-- Delays are exact. There is none before the first attempt; after an attempt the delay is the
ideal one, cut at the largest delay and at a day only, so none is longer than that; and where the
ideal delays grow, later delays are never shorter. -/
theorem delays_are_exact (backoff : Backoff) :
    backoff.delay 0 = .zero ∧
      (∀ attempt, 1 ≤ attempt →
        (backoff.delay attempt).nanos = min (backoff.ideal attempt) backoff.limit.nanos) ∧
      (∀ attempt, backoff.delay attempt ≤ backoff.limit) ∧
      (backoff.Grows → ∀ earlier later, 1 ≤ earlier → earlier ≤ later →
        backoff.delay earlier ≤ backoff.delay later) := by
  have exact (attempt : Nat) (made : 1 ≤ attempt) :
      (backoff.delay attempt).nanos = min (backoff.ideal attempt) backoff.limit.nanos := by
    obtain ⟨n, rfl⟩ := Nat.exists_eq_add_of_le' made
    exact nanos_delay backoff n
  refine ⟨rfl, exact, fun attempt => ?_, fun grows earlier later made order => ?_⟩
  · by_cases none : attempt = 0
    · rw [none]
      exact Nat.zero_le _
    · rw [Duration.le_iff, exact attempt (Nat.pos_of_ne_zero none)]
      exact Nat.min_le_right ..
  · rw [Duration.le_iff, exact earlier made, exact later (made.trans order)]
    have grown := ideal_mono grows order
    omega

/-- Tripling stops at the largest delay. -/
theorem delays_are_exact_capped :
    let backoff := exponential (.ofMillis 10) 3 (some (.ofMillis 200))
    1 ≤ 4 ∧ (backoff.delay 3).nanos = 90 * 10 ^ 6 ∧ (backoff.delay 4).nanos = 200 * 10 ^ 6 ∧
      backoff.Grows ∧ backoff.delay 3 ≤ backoff.delay 4 := by
  intro backoff
  obtain ⟨-, exact, -, grows⟩ := delays_are_exact backoff
  have growing : backoff.Grows := by
    show (3 : UInt32) ≠ 0
    decide
  refine ⟨by decide, ?_, ?_, growing, grows growing 3 4 (by decide) (by decide)⟩
  · rw [exact 3 (by decide)]
    decide
  · rw [exact 4 (by decide)]
    decide

end Resilience.Backoff
