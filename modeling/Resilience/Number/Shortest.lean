import Resilience.Number.Reading

/-!
The shortest decimal digits of a floating-point number: of the decimals that are nearer to it
than to any other number, those with the fewest digits, and of these the nearest.
-/

namespace Resilience.Number

/-- A positive binary number: `mantissa` times two to `exponent`. The numbers below it are
`narrow` when their spacing is half the spacing above. -/
structure Binary where
  mantissa : Nat
  exponent : Int
  narrow : Bool
  deriving DecidableEq, Repr

/-- The binary form of the magnitude in the lower 63 bits of a finite number. -/
def Binary.ofBits (bits : Nat) : Binary :=
  let fraction : Nat := bits % 2 ^ 52
  let field : Nat := bits / 2 ^ 52 % 2 ^ 11
  if field = 0 then ⟨fraction, -1074, false⟩
  else ⟨fraction + 2 ^ 52, (field : Int) - 1075, decide (fraction = 0 ∧ 1 < field)⟩

structure Interval where
  low : Nat
  value : Nat
  high : Nat
  denominator : Nat
  /-- Whether the two ends belong to the interval. -/
  closed : Bool
  deriving DecidableEq, Repr

/-- The rationals that round to a binary number. -/
def Binary.rounding (b : Binary) : Interval :=
  let scale := b.exponent - 2
  let up := Nat.pow 2 scale.toNat
  ⟨(4 * b.mantissa - if b.narrow then 1 else 2) * up, 4 * b.mantissa * up,
    (4 * b.mantissa + 2) * up, Nat.pow 2 (-scale).toNat, decide (b.mantissa % 2 = 0)⟩

def leadingPower (numerator denominator : Nat) : Int :=
  if denominator ≤ numerator then
    ((Nat.toDigits 10 (numerator / denominator)).length : Int) - 1
  else
    let inverse := (denominator + numerator - 1) / numerator;
    -(Nat.toDigits 10 (inverse - 1)).length

/-- The value's nearest point on the grid of multiples of ten to `power`, if the interval holds
one; of two as near the upper one. -/
def Interval.gridPoint? (interval : Interval) (power : Int) : Option Nat :=
  let up := Nat.pow 10 (-power).toNat
  let down := Nat.pow 10 power.toNat * interval.denominator
  let below := interval.value * up / down
  let inside (point : Nat) : Bool :=
    if interval.closed then interval.low * up ≤ point * down && point * down ≤ interval.high * up
    else interval.low * up < point * down && point * down < interval.high * up
  let nearBelow := 2 * (interval.value * up - below * down) < down
  match inside below && 0 < below, inside (below + 1) with
  | true, true => some (if nearBelow then below else below + 1)
  | true, false => some below
  | false, true => some (below + 1)
  | false, false => none

/-- Searches the grids from the coarsest on. The first argument is the number of grids left. -/
def Interval.shortestFrom (interval : Interval) : (grids : Nat) → (power : Int) → Numeral
  | 0, power =>
    ⟨interval.value * Nat.pow 10 (-power).toNat /
      (Nat.pow 10 power.toNat * interval.denominator), power⟩
  | grids + 1, power =>
    match interval.gridPoint? power with
    | some point => ⟨point, power⟩
    | none => interval.shortestFrom grids (power - 1)

/-- The shortest numeral of a positive binary number. Seventeen digits always tell it from its
neighbours. -/
def Binary.shortest (b : Binary) : Numeral :=
  let interval := b.rounding
  interval.shortestFrom 17 (leadingPower interval.value interval.denominator)

end Resilience.Number
