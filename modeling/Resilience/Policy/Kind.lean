import Resilience.Number.Reading
import Resilience.Text.Blank

/-!
The kinds of strategies, and the ways in which a policy can be refused.
-/

namespace Resilience

abbrev OperationId := String

/-- The strategies that can guard an operation, in the order in which they are listed. -/
inductive PolicyKind where
  | retry | timeout | breaker | bulkhead | fallback
  deriving DecidableEq, Repr

namespace PolicyKind

def all : List PolicyKind := [retry, timeout, breaker, bulkhead, fallback]

theorem mem_all (kind : PolicyKind) : kind ∈ all := by
  cases kind <;> decide

def name : PolicyKind → String
  | retry => "Retry"
  | timeout => "Timeout"
  | breaker => "CircuitBreaker"
  | bulkhead => "Bulkhead"
  | fallback => "Fallback"

def index : PolicyKind → Nat
  | retry => 0
  | timeout => 1
  | breaker => 2
  | bulkhead => 3
  | fallback => 4

def ofText? (text : String) : Option PolicyKind :=
  let word := (Text.trimmed text.toList).map Char.toLower
  all.find? fun kind => kind.name.toList.map Char.toLower = word

@[simp] theorem ofText?_name (kind : PolicyKind) : ofText? kind.name = some kind := by
  cases kind <;> decide

end PolicyKind

inductive FieldProblem where
  | unread (text : String) (cause : Number.ReadError)
  | unknownUnit (message : String)
  | unknownBackoff (text : String)
  | unknownSampling
  | needsExponential
  | needsGrowth
  | notAboveDelay
  | belowOne
  | namelessBackoff
  | zero
  | outsideUnitInterval
  | empty
  deriving DecidableEq, Repr

def FieldProblem.message : FieldProblem → String
  | unread text cause => "'" ++ text ++ "': " ++ cause.message
  | unknownUnit message => message
  | unknownBackoff text =>
    "expected none, exponential, fibonacci or custom:<name>, got '" ++ text ++ "'"
  | unknownSampling => "expected 'invocation' or 'attempt'"
  | needsExponential => "requires exponential backoff"
  | needsGrowth => "requires exponential or fibonacci backoff"
  | notAboveDelay => "must be greater than delay"
  | belowOne => "must be at least 1"
  | namelessBackoff => "custom backoff needs a name"
  | zero => "must be greater than zero"
  | outsideUnitInterval => "must be within [0, 1]"
  | empty => "must not be empty"

inductive PolicyError where
  | unknownOperation (operation : OperationId)
  | unknownKind (text : String)
  | unknownField (kind : PolicyKind) (field : String)
  | invalidField (kind : PolicyKind) (field : String) (problem : FieldProblem)
  | notDeclared (operation : OperationId) (kind : PolicyKind)
  | malformedOverride (text : String)
  deriving DecidableEq, Repr

def PolicyError.name : PolicyError → String
  | unknownOperation _ => "UnknownOperation"
  | unknownKind _ => "UnknownKind"
  | unknownField .. => "UnknownField"
  | invalidField .. => "InvalidField"
  | notDeclared .. => "NotDeclared"
  | malformedOverride _ => "MalformedOverride"

def PolicyError.message : PolicyError → String
  | unknownOperation operation =>
    "no fault-tolerance policy registered for '" ++ operation ++ "'"
  | unknownKind text => "unknown policy kind '" ++ text ++ "'"
  | unknownField kind field => "unknown field '" ++ field ++ "' for " ++ kind.name
  | invalidField kind field problem =>
    "invalid " ++ kind.name ++ "/" ++ field ++ ": " ++ problem.message
  | notDeclared operation kind =>
    "operation '" ++ operation ++ "' does not declare a " ++ kind.name ++ " policy"
  | malformedOverride text =>
    "malformed override '" ++ text ++ "': expected <operation>/<Kind>/<field>=<value>"

def PolicyKind.ofText (text : String) : Except PolicyError PolicyKind :=
  match ofText? text with
  | some kind => .ok kind
  | none => .error (.unknownKind (Text.trim text))

end Resilience
