/-!
Documents: the structured form in which policies and events are stored. A record is read by the
names of its fields, and other fields are passed over; a list is read by position.
-/

namespace Resilience

inductive Document where
  | null
  | truth (value : Bool)
  | integer (value : Int)
  | float (value : Float)
  | text (value : String)
  | list (items : List Document)
  | record (fields : List (String × Document))
  deriving Inhabited

namespace Document

def ofNat (n : Nat) : Document := integer n

def truth? : Document → Option Bool
  | truth value => some value
  | _ => none

def text? : Document → Option String
  | text value => some value
  | _ => none

def natural? (limit : Nat) : Document → Option Nat
  | integer value => if 0 ≤ value ∧ value ≤ limit then some value.toNat else none
  | _ => none

def uint32? (document : Document) : Option UInt32 :=
  (document.natural? (UInt32.size - 1)).map UInt32.ofNat

def uint64? (document : Document) : Option UInt64 :=
  (document.natural? (UInt64.size - 1)).map UInt64.ofNat

def float? : Document → Option Float
  | integer value =>
    some (if value < 0 then -(Float.ofNat value.natAbs) else Float.ofNat value.toNat)
  | float value => some value
  | _ => none

def list? : Document → Option (List Document)
  | list items => some items
  | _ => none

def texts? (document : Document) : Option (List String) := do (← document.list?).mapM text?

def field? (name : String) : Document → Option Document
  | record fields => fields.lookup name
  | _ => none

/-- The parts of a record or list with these fields. A record may lack some of them, a list has
to have them all and no more. -/
def parts? (names : List String) : Document → Option (List (Option Document))
  | record fields => some (names.map fun name => fields.lookup name)
  | list items => if items.length = names.length then some (items.map some) else none
  | _ => none

def allParts? (names : List String) (document : Document) : Option (List Document) := do
  (← document.parts? names).mapM id

/-- The variant of a choice and its content: a name alone, or a record of one field. -/
def variant? : Document → Option (String × Option Document)
  | text name => some (name, none)
  | record [(name, content)] => some (name, some content)
  | _ => none

def choice? (document : Document) : Option String :=
  match document.variant? with
  | some (name, none) => some name
  | some (name, some null) => some name
  | _ => none

end Document

end Resilience
