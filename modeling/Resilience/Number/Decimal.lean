import Resilience.Number.Shortest

/-!
Decimal texts of floating-point numbers. A layout decides where the point stands and when powers
of ten are written.
-/

namespace Resilience.Number

structure Layout where
  /-- Whether whole numbers end in `.0`. -/
  fraction : Bool
  /-- Whether numbers whose first digit stands at this power of ten are written without an
  exponent. -/
  positional : Int → Bool

def Layout.plain : Layout := ⟨false, fun _ => true⟩

/-- Always told from an integer: whole numbers end in `.0`, and numbers below a ten-thousandth or
from ten to the 16th on have an exponent. -/
def Layout.marked : Layout := ⟨true, fun power => decide (-5 < power ∧ power < 16)⟩

/-- Digits with the point after the first `before` of them, filled with zeros. -/
def positionalText (layout : Layout) (digits : List Char) (before : Int) : List Char :=
  if before ≤ 0 then
    ['0', '.'] ++ List.replicate (-before).toNat '0' ++ digits
  else if digits.length ≤ before then
    digits ++ List.replicate (before.toNat - digits.length) '0' ++
      (if layout.fraction then ['.', '0'] else [])
  else
    digits.take before.toNat ++ '.' :: digits.drop before.toNat

def exponentText (digits : List Char) (power : Int) : List Char :=
  let mantissa :=
    match digits with
    | first :: rest => if rest = [] then [first] else first :: '.' :: rest
    | [] => []
  mantissa ++ 'e' :: (toString power).toList

def Layout.numeralText (layout : Layout) (numeral : Numeral) : List Char :=
  let written := Nat.toDigits 10 numeral.digits
  let digits := (written.reverse.dropWhile (· == '0')).reverse
  let before := (written.length : Int) + numeral.exponent
  if layout.positional (before - 1) then positionalText layout digits before
  else exponentText digits (before - 1)

def Layout.text (layout : Layout) (x : Float) : String :=
  let bits := x.toBits.toNat
  let magnitude := bits % 2 ^ 63
  if 0x7ff0000000000000 < magnitude then "NaN"
  else
    let sign := if 2 ^ 63 ≤ bits then ['-'] else []
    let body :=
      if magnitude = 0x7ff0000000000000 then "inf".toList
      else if magnitude = 0 then if layout.fraction then "0.0".toList else ['0']
      else layout.numeralText (Binary.ofBits magnitude).shortest
    .ofList (sign ++ body)

end Resilience.Number
