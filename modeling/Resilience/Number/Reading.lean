import Resilience.Number.Power

/-!
Reading numbers and truth values from text. Each reader takes the whole text or says why it does
not.
-/

namespace Resilience.Number

inductive ReadError where
  | emptyInteger
  | invalidDigit
  | tooLarge
  | emptyFloat
  | invalidFloat
  | notTruth
  deriving DecidableEq, Repr

def ReadError.message : ReadError → String
  | .emptyInteger => "cannot parse integer from empty string"
  | .invalidDigit => "invalid digit found in string"
  | .tooLarge => "number too large to fit in target type"
  | .emptyFloat => "cannot parse float from empty string"
  | .invalidFloat => "invalid float literal"
  | .notTruth => "provided string was not `true` or `false`"

def digit? (c : Char) : Option Nat :=
  if '0' ≤ c ∧ c ≤ '9' then some (c.toNat - '0'.toNat) else none

/-- Reads digits after a value that is already read. The first character that is no digit, or
that takes the value above the limit, decides the error. -/
def readDigits (limit : Nat) : (value : Nat) → List Char → Except ReadError Nat
  | value, [] => .ok value
  | value, c :: rest =>
    match digit? c with
    | none => .error .invalidDigit
    | some digit =>
      let next := value * 10 + digit
      if next ≤ limit then readDigits limit next rest else .error .tooLarge

/-- Reads a natural number up to a limit: decimal digits after an optional plus sign. -/
def readNatural (limit : Nat) (text : String) : Except ReadError Nat :=
  match text.toList with
  | [] => .error .emptyInteger
  | ['+'] => .error .invalidDigit
  | '+' :: digits => readDigits limit 0 digits
  | digits => readDigits limit 0 digits

def readUInt32 (text : String) : Except ReadError UInt32 :=
  (readNatural (UInt32.size - 1) text).map UInt32.ofNat

def readUInt64 (text : String) : Except ReadError UInt64 :=
  (readNatural (UInt64.size - 1) text).map UInt64.ofNat

def readTruth (text : String) : Except ReadError Bool :=
  if text = "true" then .ok true
  else if text = "false" then .ok false
  else .error .notTruth

/-- An unsigned decimal numeral: `digits` stands for itself times ten to `exponent`. -/
structure Numeral where
  digits : Nat
  exponent : Int
  deriving DecidableEq, Repr

def digitsValue (digits : List Char) : Nat :=
  digits.foldl (fun value c => value * 10 + (digit? c).getD 0) 0

def isDigit (c : Char) : Bool :=
  (digit? c).isSome

/-- Reads the exponent that ends a numeral: nothing, or `e`, an optional sign and digits. -/
def readExponent? : List Char → Option Int
  | [] => some 0
  | mark :: rest =>
    if mark = 'e' ∨ mark = 'E' then
      match rest with
      | '-' :: digits => magnitude? digits |>.map fun value => -(value : Int)
      | '+' :: digits => magnitude? digits |>.map fun value => (value : Int)
      | digits => magnitude? digits |>.map fun value => (value : Int)
    else none
where
  magnitude? (digits : List Char) : Option Nat :=
    if digits ≠ [] ∧ digits.all isDigit then some (digitsValue digits) else none

/-- Reads an unsigned numeral: digits with an optional point among or beside them, then an
optional exponent. -/
def readNumeral? (text : List Char) : Option Numeral :=
  let whole := text.takeWhile isDigit
  match text.dropWhile isDigit with
  | '.' :: rest =>
    let fraction := rest.takeWhile isDigit
    if whole = [] ∧ fraction = [] then none
    else
      (readExponent? (rest.dropWhile isDigit)).map fun exponent =>
        ⟨digitsValue (whole ++ fraction), exponent - fraction.length⟩
  | rest =>
    if whole = [] then none
    else (readExponent? rest).map fun exponent => ⟨digitsValue whole, exponent⟩

/-- The number nearest to a numeral. Numerals beyond ten to the 310th are infinite, and those
below ten to minus the 330th are zero. -/
def Numeral.toFloat (numeral : Numeral) : Float :=
  if numeral.digits = 0 then 0
  else
    let size : Int := (Nat.toDigits 10 numeral.digits).length + numeral.exponent
    if 310 < size then 1 / 0
    else if size < -330 then 0
    else if 0 ≤ numeral.exponent then
      Float.ofScientific (numeral.digits * Nat.pow 10 numeral.exponent.toNat) false 0
    else Float.ofScientific numeral.digits true (-numeral.exponent).toNat

def readMagnitude? (text : List Char) : Option Float :=
  let name := text.map Char.toLower
  if name = "inf".toList ∨ name = "infinity".toList then some (1 / 0)
  else if name = "nan".toList then some (0 / 0)
  else (readNumeral? text).map Numeral.toFloat

/-- Reads a floating-point number: an optional sign and a magnitude. -/
def readFloat (text : String) : Except ReadError Float :=
  match text.toList with
  | [] => .error .emptyFloat
  | '-' :: rest => finish ((readMagnitude? rest).map fun value => -value)
  | '+' :: rest => finish (readMagnitude? rest)
  | rest => finish (readMagnitude? rest)
where
  finish : Option Float → Except ReadError Float
    | some value => .ok value
    | none => .error .invalidFloat

end Resilience.Number
