import Resilience.Category
import Resilience.Policy.Kind
import Resilience.Time.Duration

/-!
Faults: the ways in which an invocation ends without a value.
-/

namespace Resilience

structure Failure where
  category : Category
  message : String
  deriving DecidableEq, Repr

inductive Fault where
  /-- An attempt ran out of time. -/
  | timeout (elapsed limit : Duration)
  /-- The circuit breaker let nothing through. -/
  | circuitOpen (retryAfter : Duration)
  /-- Every slot of the bulkhead was taken, and every place in its queue. -/
  | bulkheadFull (inFlight max waiting : Nat)
  /-- The last of several attempts failed. -/
  | retryExhausted (attempts : Nat) (last : Fault)
  /-- No policy is registered for the operation. -/
  | unknownOperation (operation : OperationId)
  /-- The caller gave up. -/
  | cancelled
  /-- The policy names something that is not registered. -/
  | misconfigured (operation : OperationId) (reason : String)
  /-- The operation failed. -/
  | inner (failure : Failure)
  deriving DecidableEq, Repr

namespace Fault

def message : Fault → String
  | timeout elapsed limit =>
    "operation timed out after " ++ elapsed.text ++ " (limit: " ++ limit.text ++ ")"
  | circuitOpen retryAfter => "circuit breaker open (retry after " ++ retryAfter.text ++ ")"
  | bulkheadFull inFlight max waiting =>
    "bulkhead rejected request (" ++ toString inFlight ++ " in-flight, max " ++ toString max ++
      ", " ++ toString waiting ++ " waiting)"
  | retryExhausted attempts last =>
    "retry exhausted after " ++ toString attempts ++ " attempts; last error: " ++ last.message
  | unknownOperation operation =>
    "no fault-tolerance policy registered for '" ++ operation ++ "'"
  | cancelled => "invocation cancelled"
  | misconfigured operation reason =>
    "operation '" ++ operation ++ "' is misconfigured: " ++ reason
  | inner failure => failure.message

/-- The category of a fault; an exhausted retry has that of its last attempt. -/
def category? : Fault → Option Category
  | timeout .. => some Category.timeout
  | circuitOpen _ => some Category.circuitOpen
  | bulkheadFull .. => some Category.bulkheadFull
  | retryExhausted _ last => last.category?
  | inner failure => some failure.category
  | unknownOperation _ | cancelled | misconfigured .. => none

/-- The fault of a number of attempts of which the last failed. Retries inside retries keep the
innermost last failure. -/
def exhausted (attempts : Nat) : Fault → Fault
  | retryExhausted _ last => retryExhausted attempts last
  | last => retryExhausted attempts last

def isTimeout : Fault → Bool
  | timeout .. => true
  | _ => false

def isCircuitOpen : Fault → Bool
  | circuitOpen _ => true
  | _ => false

def isBulkheadFull : Fault → Bool
  | bulkheadFull .. => true
  | _ => false

def isRetryExhausted : Fault → Bool
  | retryExhausted .. => true
  | _ => false

def isCancelled : Fault → Bool
  | cancelled => true
  | _ => false

def isInner : Fault → Bool
  | inner _ => true
  | _ => false

def failure? : Fault → Option Failure
  | inner failure => some failure
  | _ => none

def last? : Fault → Option Fault
  | retryExhausted _ last => some last
  | _ => none

/-- The operation's own failure behind any number of exhausted retries. -/
def rootFailure? : Fault → Option Failure
  | inner failure => some failure
  | retryExhausted _ last => last.rootFailure?
  | _ => none

def timeoutDetails? : Fault → Option (Duration × Duration)
  | timeout elapsed limit => some (elapsed, limit)
  | _ => none

def capacity? : Fault → Option (Nat × Nat × Nat)
  | bulkheadFull inFlight max waiting => some (inFlight, max, waiting)
  | _ => none

def attempts? : Fault → Option Nat
  | retryExhausted attempts _ => some attempts
  | _ => none

def causes : Fault → List String
  | inner failure => [failure.message]
  | retryExhausted _ last => last.message :: last.causes
  | _ => []

def properties : List (String × (Fault → Bool)) :=
  [("timeout", isTimeout), ("circuit_open", isCircuitOpen), ("bulkhead_full", isBulkheadFull),
    ("retry_exhausted", isRetryExhausted), ("cancelled", isCancelled), ("inner", isInner)]

end Fault

abbrev Outcome := Except Fault String

end Resilience
