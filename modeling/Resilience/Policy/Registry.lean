import Resilience.Log
import Resilience.Override
import Resilience.Policy.Field
import Resilience.Policy.Validity
import Resilience.Table

/-!
The registry of policies. Each operation has the policy that was declared for it, the overrides
of single fields, and the policy that results from both.
-/

namespace Resilience

structure FieldOverride where
  kind : PolicyKind
  field : String
  value : String
  deriving DecidableEq, Repr

namespace FieldOverride

def sameField (a b : FieldOverride) : Bool := a.kind = b.kind ∧ a.field = b.field

def before (a b : FieldOverride) : Bool :=
  a.kind.index < b.kind.index ∨ a.kind = b.kind ∧ a.field < b.field

/-- When the fields of one kind are applied: the backoff before the fields that depend on it, and
the switch that takes the strategy away after all others. -/
def rank (field : String) : Nat :=
  if field = "backoff" then 0 else if field = "enabled" then 2 else 1

end FieldOverride

abbrev Overrides := List FieldOverride

namespace Overrides

def set (added : FieldOverride) : Overrides → Overrides
  | [] => [added]
  | entry :: rest =>
    if added.sameField entry then added :: rest
    else if added.before entry then added :: entry :: rest
    else entry :: set added rest

def clear (kind : PolicyKind) (field : String) (overrides : Overrides) : Overrides :=
  overrides.filter fun entry => !(entry.kind = kind ∧ entry.field = field)

def ordered (overrides : Overrides) : List FieldOverride :=
  PolicyKind.all.flatMap fun kind =>
    [0, 1, 2].flatMap fun rank =>
      overrides.filter fun entry => entry.kind = kind ∧ FieldOverride.rank entry.field = rank

end Overrides

namespace Policy

/-- Applies one override. The strategy has to be declared; when it was taken away by then, the
override changes nothing. -/
def applyOverride (declared : Policy) (operation : OperationId) (resolved : Policy)
    (entry : FieldOverride) : Except PolicyError Policy :=
  if !declared.declares entry.kind then .error (.notDeclared operation entry.kind)
  else if !resolved.declares entry.kind then .ok resolved
  else resolved.applyField operation entry.kind entry.field entry.value

/-- The policy that results from a declared policy and overrides. It has to be valid. -/
def resolve (declared : Policy) (operation : OperationId) (overrides : Overrides) :
    Except PolicyError Policy := do
  let resolved ← overrides.ordered.foldlM (declared.applyOverride operation) declared
  match resolved.error? with
  | some error => .error error
  | none => .ok resolved

end Policy

structure Registration where
  declared : Policy
  overrides : Overrides := []
  resolved : Policy

structure Registry where
  registrations : Table OperationId Registration := {}

namespace Registry

def resolve? (registry : Registry) (operation : OperationId) : Option Policy :=
  (registry.registrations.get? operation).map Registration.resolved

def resolve (registry : Registry) (operation : OperationId) : Except PolicyError Policy :=
  match registry.resolve? operation with
  | some policy => .ok policy
  | none => .error (.unknownOperation operation)

def publish (registry : Registry) (operation : OperationId) (declared : Policy)
    (overrides : Overrides) : Except PolicyError (Policy × Registry) := do
  let resolved ← declared.resolve operation overrides
  return (resolved, ⟨registry.registrations.set operation ⟨declared, overrides, resolved⟩⟩)

/-- Declares the policy of an operation. The overrides that it has stay. -/
def register (registry : Registry) (operation : OperationId) (policy : Policy) :
    Except PolicyError (Policy × Registry) :=
  match policy.error? with
  | some error => .error error
  | none =>
    let overrides := ((registry.registrations.get? operation).map Registration.overrides).getD []
    registry.publish operation policy overrides

def updateOverrides (registry : Registry) (operation : OperationId)
    (change : Overrides → Overrides) : Except PolicyError (Policy × Registry) :=
  match registry.registrations.get? operation with
  | some registration =>
    registry.publish operation registration.declared (change registration.overrides)
  | none => .error (.unknownOperation operation)

def overrideField (registry : Registry) (operation : OperationId) (kind : PolicyKind)
    (field value : String) : Except PolicyError (Policy × Registry) :=
  registry.updateOverrides operation (Overrides.set ⟨kind, Text.trim field, Text.trim value⟩)

def clearOverride (registry : Registry) (operation : OperationId) (kind : PolicyKind)
    (field : String) : Except PolicyError (Policy × Registry) :=
  registry.updateOverrides operation (Overrides.clear kind (Text.trim field))

def overrides (registry : Registry) (operation : OperationId) : Overrides :=
  ((registry.registrations.get? operation).map Registration.overrides).getD []

def insertNamed {α : Type} (named : OperationId × α) : List (OperationId × α) →
    List (OperationId × α)
  | [] => [named]
  | head :: rest =>
    if named.1 < head.1 then named :: head :: rest else head :: insertNamed named rest

def operations (registry : Registry) : List (OperationId × Policy) :=
  registry.registrations.entries.foldl
    (fun sorted entry => insertNamed (entry.1, entry.2.resolved) sorted) []

def summary (registry : Registry) : String :=
  "PolicyRegistry \x7b operations: " ++ toString registry.registrations.size ++ " \x7d"

/-- What a registration writes to the log: a valid policy may replace an older one. -/
def registerLines (registry : Registry) (operation : OperationId) (policy : Policy) :
    List LogLine :=
  if policy.error?.isNone ∧ registry.registrations.contains operation then
    [⟨.warn, "faultline::registry", "policy replaced; last registration wins",
      [("operation", operation)]⟩]
  else []

def overrideLines (operation : OperationId) (kind : PolicyKind) (field value : String) :
    List LogLine :=
  [⟨.debug, "faultline::registry", "policy override applied",
    [("operation", Text.quoted operation), ("kind", kind.name), ("field", Text.quoted field),
      ("value", Text.quoted value)]⟩]

end Registry

end Resilience
