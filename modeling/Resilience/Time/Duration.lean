import Resilience.Number.Power
import Resilience.Text.Blank

/-!
Durations in whole nanoseconds, up to the longest one, and their text.
-/

namespace Resilience

/-- A length of time. Its seconds fit in 64 bits. -/
structure Duration where
  nanos : Nat
  nanos_lt : nanos < 2 ^ 64 * 10 ^ 9
  deriving DecidableEq, Repr

namespace Duration

def maxNanos : Nat := 2 ^ 64 * 10 ^ 9 - 1

def ofNanos (nanos : Nat) : Duration :=
  ⟨min nanos maxNanos, by unfold maxNanos; omega⟩

def ofMillis (millis : Nat) : Duration := ofNanos (millis * 10 ^ 6)

def zero : Duration := ofNanos 0

def longest : Duration := ofNanos maxNanos

def day : Duration := ofNanos (24 * 3600 * 10 ^ 9)

/-- The whole milliseconds of a duration, as far as 64 bits count them. -/
def millis (d : Duration) : Nat := min (d.nanos / 10 ^ 6) (2 ^ 64 - 1)

/-- The milliseconds that a timer waits: a duration rounded up. -/
def ceilMillis (d : Duration) : Nat := (d.nanos + (10 ^ 6 - 1)) / 10 ^ 6

instance : LE Duration := ⟨fun a b => a.nanos ≤ b.nanos⟩
instance : LT Duration := ⟨fun a b => a.nanos < b.nanos⟩

instance (a b : Duration) : Decidable (a ≤ b) := inferInstanceAs (Decidable (a.nanos ≤ b.nanos))
instance (a b : Duration) : Decidable (a < b) := inferInstanceAs (Decidable (a.nanos < b.nanos))

instance : Min Duration := ⟨fun a b => if a ≤ b then a else b⟩

theorem le_iff {a b : Duration} : a ≤ b ↔ a.nanos ≤ b.nanos := Iff.rfl

theorem lt_iff {a b : Duration} : a < b ↔ a.nanos < b.nanos := Iff.rfl

theorem ext_nanos {a b : Duration} (h : a.nanos = b.nanos) : a = b := by
  cases a
  cases b
  simp_all

theorem nanos_le (d : Duration) : d.nanos ≤ maxNanos := by
  have := d.nanos_lt
  unfold maxNanos
  omega

@[simp] theorem nanos_ofNanos (nanos : Nat) : (ofNanos nanos).nanos = min nanos maxNanos := rfl

@[simp] theorem ofNanos_nanos (d : Duration) : ofNanos d.nanos = d :=
  ext_nanos (Nat.min_eq_left d.nanos_le)

@[simp] theorem nanos_zero : zero.nanos = 0 := rfl

@[simp] theorem nanos_min (a b : Duration) : (min a b).nanos = min a.nanos b.nanos := by
  change (if a ≤ b then a else b).nanos = _
  split <;> simp_all [le_iff] <;> omega

/-- The fraction of a unit without its trailing zeros: the digits of `part` out of `whole`. -/
def fractionText (width part : Nat) : List Char :=
  let digits := Nat.toDigits 10 part
  let padded := List.replicate (width - digits.length) '0' ++ digits
  let kept := (padded.reverse.dropWhile (· == '0')).reverse
  if kept = [] then [] else '.' :: kept

/-- A number of units with its fraction, `width` digits of the next smaller count. -/
def unitText (nanos width : Nat) (unit : String) : String :=
  let whole := Nat.pow 10 width
  toString (nanos / whole) ++ .ofList (fractionText width (nanos % whole)) ++ unit

def text (d : Duration) : String :=
  if 10 ^ 9 ≤ d.nanos then unitText d.nanos 9 "s"
  else if 10 ^ 6 ≤ d.nanos then unitText d.nanos 6 "ms"
  else if 10 ^ 3 ≤ d.nanos then unitText d.nanos 3 "µs"
  else toString d.nanos ++ "ns"

end Duration

end Resilience
