import Resilience.Behaviour
import Resilience.Log
import Resilience.Policy.Basic
import Resilience.Table

/-!
Fallbacks: handlers that answer in place of a failed operation. They are registered by name, each
for one type of results.
-/

namespace Resilience

/-- Whether a fallback handles a failure of a category. A failure without a category is never
handled. -/
def FallbackPolicy.applies (policy : FallbackPolicy) : Option Category → Bool
  | none => false
  | some category =>
    !policy.skipOn.contains category &&
      (policy.applyOn.isEmpty || policy.applyOn.contains category)

/-- A fallback handler, for operations with text results or with numeric ones. -/
inductive Handler where
  /-- Answers an input and the fault that it led to. -/
  | text (respond : String → Fault → Behaviour Failure)
  | numeric

abbrev Handlers := Table String Handler

namespace Handlers

def text? (handlers : Handlers) (name : String) : Option (String → Fault → Behaviour Failure) :=
  match handlers.get? name with
  | some (.text respond) => some respond
  | some .numeric | none => none

def isNumeric (handlers : Handlers) (name : String) : Bool :=
  match handlers.get? name with
  | some .numeric => true
  | some (.text _) | none => false

def names (handlers : Handlers) : List String :=
  (handlers.entries.map Prod.fst).mergeSort fun a b => a ≤ b

def summary (handlers : Handlers) : String :=
  "FallbackRegistry \x7b handlers: " ++ Text.quotedList handlers.names ++ " \x7d"

def registerLines (handlers : Handlers) (name : String) : List LogLine :=
  if handlers.contains name then
    [⟨.warn, "faultline::fallback", "replacing fallback handler", [("handler", name)]⟩]
  else []

end Handlers

end Resilience
