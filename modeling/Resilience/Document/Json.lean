import Resilience.Document
import Resilience.Number.Decimal
import Resilience.Number.Scaled
import Resilience.Table

/-!
The text of documents in JSON.
-/

namespace Resilience.Json

def skip (text : List Char) : List Char :=
  text.dropWhile fun c => c == ' ' || c == '\t' || c == '\n' || c == '\r'

def hexDigit? (c : Char) : Option Nat :=
  if '0' ≤ c ∧ c ≤ '9' then some (c.toNat - 48)
  else if 'a' ≤ c ∧ c ≤ 'f' then some (c.toNat - 87)
  else if 'A' ≤ c ∧ c ≤ 'F' then some (c.toNat - 55)
  else none

def unit? (digits : List Char) : Option Nat :=
  digits.foldlM (fun value c => (hexDigit? c).map (16 * value + ·)) 0

/-- The character of an escape by one letter; every other character stands for itself. -/
def unescaped : Char → Char
  | 'n' => '\n'
  | 't' => '\t'
  | 'r' => '\r'
  | 'b' => '\x08'
  | 'f' => '\x0c'
  | c => c

def prepend (c : Char) (read : List Char × List Char) : List Char × List Char :=
  (c :: read.1, read.2)

/-- Reads a text up to its closing quote. Two units from the surrogate ranges are one
character. -/
def readText : List Char → Option (List Char × List Char)
  | '"' :: rest => some ([], rest)
  | '\\' :: 'u' :: a :: b :: c :: d :: rest => do
    let high ← unit? [a, b, c, d]
    if 0xd800 ≤ high ∧ high < 0xdc00 then
      match rest with
      | '\\' :: 'u' :: e :: f :: g :: h :: rest =>
        let low ← unit? [e, f, g, h]
        return prepend (.ofNat (0x10000 + (high - 0xd800) * 0x400 + (low - 0xdc00)))
          (← readText rest)
      | _ => none
    else return prepend (.ofNat high) (← readText rest)
  | '\\' :: c :: rest => do return prepend (unescaped c) (← readText rest)
  | c :: rest => do return prepend c (← readText rest)
  | [] => none

/-- Reads a number. One with a point or an exponent, and a negative zero, is a floating-point
number, and so is an integer for which 64 bits are too few. -/
def readNumber? (digits : List Char) : Option Document := do
  let float := (Number.readScaled? digits).map Document.float
  if digits.any fun c => c == '.' || c == 'e' || c == 'E' then float
  else
    let value ← (String.ofList digits).toInt?
    if digits.head? = some '-' ∧ value = 0 then float
    else if -2 ^ 63 ≤ value ∧ value < 2 ^ 64 then some (.integer value)
    else float

def isNumeric (c : Char) : Bool :=
  c.isDigit || c == '-' || c == '+' || c == '.' || c == 'e' || c == 'E'

mutual

/-- Reads a document at the beginning of a text. The number bounds the depth and the length. -/
def readDocument : Nat → List Char → Option (Document × List Char)
  | 0, _ => none
  | fuel + 1, text =>
    match skip text with
    | '"' :: rest => do
      let (value, rest) ← readText rest
      return (.text (.ofList value), rest)
    | '[' :: rest =>
      match skip rest with
      | ']' :: rest => some (.list [], rest)
      | rest => do
        let (items, rest) ← readItems fuel rest
        return (.list items, rest)
    | '\x7b' :: rest =>
      match skip rest with
      | '\x7d' :: rest => some (.record [], rest)
      | rest => do
        let (fields, rest) ← readFields fuel rest []
        return (.record fields, rest)
    | 't' :: 'r' :: 'u' :: 'e' :: rest => some (.truth true, rest)
    | 'f' :: 'a' :: 'l' :: 's' :: 'e' :: rest => some (.truth false, rest)
    | 'n' :: 'u' :: 'l' :: 'l' :: rest => some (.null, rest)
    | rest => do return (← readNumber? (rest.takeWhile isNumeric), rest.dropWhile isNumeric)

def readItems : Nat → List Char → Option (List Document × List Char)
  | 0, _ => none
  | fuel + 1, text => do
    let (item, rest) ← readDocument fuel text
    match skip rest with
    | ',' :: rest =>
      let (items, rest) ← readItems fuel rest
      return (item :: items, rest)
    | ']' :: rest => return ([item], rest)
    | _ => none

/-- Reads the fields of a record and its closing brace, after the fields before them. A name that
comes twice has its last value. -/
def readFields : Nat → List Char → List (String × Document) →
    Option (List (String × Document) × List Char)
  | 0, _, _ => none
  | fuel + 1, text, fields =>
    match skip text with
    | '"' :: rest => do
      let (name, rest) ← readText rest
      match skip rest with
      | ':' :: rest =>
        let (value, rest) ← readDocument fuel rest
        let fields := Table.put (.ofList name) value fields
        match skip rest with
        | ',' :: rest => readFields fuel rest fields
        | '\x7d' :: rest => return (fields, rest)
        | _ => none
      | _ => none
    | _ => none

end

def escaped (c : Char) : List Char :=
  match c with
  | '"' => ['\\', '"']
  | '\\' => ['\\', '\\']
  | '\n' => ['\\', 'n']
  | '\r' => ['\\', 'r']
  | '\t' => ['\\', 't']
  | c =>
    if c.toNat < 32 then
      let digits := Nat.toDigits 16 c.toNat
      ['\\', 'u'] ++ List.replicate (4 - digits.length) '0' ++ digits
    else [c]

def quoted (text : String) : String := .ofList ('"' :: text.toList.flatMap escaped ++ ['"'])

mutual

def write : Document → String
  | .null => "null"
  | .truth value => if value then "true" else "false"
  | .integer value => toString value
  | .float value => if value.isFinite then Number.Layout.marked.text value else "null"
  | .text value => quoted value
  | .list items => "[" ++ ",".intercalate (writeItems items) ++ "]"
  | .record fields => "\x7b" ++ ",".intercalate (writeFields fields) ++ "\x7d"

def writeItems : List Document → List String
  | [] => []
  | item :: rest => write item :: writeItems rest

def writeFields : List (String × Document) → List String
  | [] => []
  | (name, value) :: rest => (quoted name ++ ":" ++ write value) :: writeFields rest

end

end Resilience.Json

namespace Resilience.Document

def ofJson? (text : String) : Option Document := do
  let (document, rest) ← Json.readDocument (2 * text.length + 2) text.toList
  if Json.skip rest = [] then return document else none

def toJson (document : Document) : String := Json.write document

end Resilience.Document
