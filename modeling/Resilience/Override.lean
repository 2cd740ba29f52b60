import Resilience.Policy.Kind
import Resilience.Text.Split

/-!
Overrides written as text: one line for each, with the operation, the kind and the field before
the equals sign and the new value after it.
-/

namespace Resilience

structure OverrideKey where
  operation : OperationId
  kind : PolicyKind
  field : String
  deriving DecidableEq, Repr

namespace OverrideKey

def text (key : OverrideKey) : String :=
  key.operation ++ "/" ++ key.kind.name ++ "/" ++ key.field

/-- The three parts of a key: the last two slashes part them, so operations may hold slashes. -/
def parts? (key : List Char) : Option (List Char × List Char × List Char) := do
  let (front, field) ← Text.cutLast? '/' key
  let (operation, kind) ← Text.cutLast? '/' front
  return (Text.trimmed operation, Text.trimmed kind, Text.trimmed field)

def ofText (text : String) : Except PolicyError OverrideKey :=
  let key := Text.trimmed text.toList
  match parts? key with
  | some (operation, kind, field) =>
    if field = [] ∨ operation = [] then .error (.malformedOverride (.ofList key))
    else
      (PolicyKind.ofText (.ofList kind)).map fun kind =>
        ⟨.ofList operation, kind, .ofList field⟩
  | none => .error (.malformedOverride (.ofList key))

end OverrideKey

structure OverrideLine where
  key : OverrideKey
  value : String
  deriving DecidableEq, Repr

namespace OverrideLine

def text (line : OverrideLine) : String := line.key.text ++ "=" ++ line.value

def ofLine (line : List Char) : Except PolicyError OverrideLine :=
  match Text.cutFirst? '=' line with
  | some (key, value) =>
    (OverrideKey.ofText (.ofList key)).map fun key => ⟨key, .ofList (Text.trimmed value)⟩
  | none => .error (.malformedOverride (.ofList line))

/-- Whether a trimmed line says anything: empty lines and comments do not. -/
def isWritten (line : List Char) : Bool :=
  line ≠ [] && line.head? ≠ some '#'

/-- The lines of a text that say anything, trimmed. -/
def writtenLines (text : List Char) : List (List Char) :=
  ((Text.pieces '\n' text).map Text.trimmed).filter isWritten

/-- Reads all overrides of a text, or tells what is wrong with the first line that is wrong. -/
def ofText (text : String) : Except PolicyError (List OverrideLine) :=
  (writtenLines text.toList).mapM ofLine

end OverrideLine

end Resilience
