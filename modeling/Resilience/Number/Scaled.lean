import Resilience.Number.Reading

/-!
Scaled reading of decimal numerals: as many digits as 64 bits hold are read as a whole number,
and floating-point arithmetic brings that number to its power of ten. This takes two roundings,
so the result may lie beside the nearest number. It is the nearest one for numerals of at most
fifteen digits whose power of ten lies within the 22nd and its inverse.
-/

namespace Resilience.Number

namespace Numeral

/-- A numeral with one more digit behind it, if 64 bits hold all the digits. -/
def append? (numeral : Numeral) (c : Char) : Option Nat :=
  let digits := numeral.digits * 10 + (digit? c).getD 0
  if digits < 2 ^ 64 then some digits else none

/-- Reads the digits before the point. From the first one for which there is no room on, each
stands for a power of ten only. -/
def readWhole (numeral : Numeral) : List Char → Numeral
  | [] => numeral
  | c :: rest =>
    match if numeral.exponent = 0 then numeral.append? c else none with
    | some digits => readWhole ⟨digits, 0⟩ rest
    | none => readWhole ⟨numeral.digits, numeral.exponent + 1⟩ rest

/-- Reads the digits behind the point, up to the first one for which there is no room. -/
def readFraction (numeral : Numeral) : List Char → Numeral
  | [] => numeral
  | c :: rest =>
    match numeral.append? c with
    | some digits => readFraction ⟨digits, numeral.exponent - 1⟩ rest
    | none => numeral

end Numeral

/-- Reads an unsigned numeral whose digits 64 bits hold: digits, then optionally a point and
digits, then optionally an exponent. -/
def readShortNumeral? (text : List Char) : Option Numeral :=
  let whole := text.takeWhile isDigit
  let numeral := Numeral.readWhole ⟨0, 0⟩ whole
  if whole = [] then none
  else
    match text.dropWhile isDigit with
    | '.' :: rest =>
      let fraction := rest.takeWhile isDigit
      if fraction = [] then none
      else
        let numeral := numeral.readFraction fraction
        (readExponent? (rest.dropWhile isDigit)).map fun exponent =>
          ⟨numeral.digits, numeral.exponent + exponent⟩
    | rest =>
      (readExponent? rest).map fun exponent => ⟨numeral.digits, numeral.exponent + exponent⟩

def greatestPower : Nat := 308

def powerOfTen (power : Nat) : Float := Float.ofScientific 1 false power

def shrink (value : Float) (power : Nat) : Float :=
  if power ≤ greatestPower ∨ value == 0 then value / powerOfTen (min power greatestPower)
  else shrink (value / powerOfTen greatestPower) (power - greatestPower)
termination_by power
decreasing_by
  simp only [greatestPower] at *
  omega

/-- The digits of a numeral brought to its power of ten, unless the result is too large. -/
def Numeral.scaled? (numeral : Numeral) : Option Float :=
  let value := Float.ofNat numeral.digits
  if numeral.exponent < 0 then some (shrink value numeral.exponent.natAbs)
  else if value == 0 then some value
  else if numeral.exponent ≤ greatestPower then
    let product := value * powerOfTen numeral.exponent.toNat
    if product.isInf then none else some product
  else none

def readScaled? : List Char → Option Float
  | '-' :: rest => do return -(← (← readShortNumeral? rest).scaled?)
  | text => do (← readShortNumeral? text).scaled?

end Resilience.Number
