import Resilience.Category
import Resilience.Document
import Resilience.Policy.Kind
import Resilience.Time.Duration

/-!
Events: what the strategies report while they guard an operation.
-/

namespace Resilience

inductive Event where
  /-- A failed attempt is repeated after a delay. -/
  | retryAttempt (attempt : Nat) (delay : Duration)
  /-- A failure is never repeated. -/
  | retryAborted (attempt : Nat) (category : Category)
  /-- No attempt or no time is left. -/
  | retryExhausted (attempts : Nat) (duration : Duration)
  | breakerOpened (failures samples : Nat)
  | breakerHalfOpen
  | breakerClosed
  | breakerRejected (retryAfter : Duration)
  | bulkheadAcquired (active max : Nat)
  | bulkheadQueued (waiting queueSize : Nat)
  | bulkheadRejected (active max waiting : Nat)
  | timeoutOccurred (attempt : Nat) (limit : Duration)
  | fallbackApplied (handler : String) (category : Category)
  | fallbackFailed (handler : String) (category : Category)
  | requestSuccess (duration : Duration)
  | requestFailure (duration : Duration)
  | requestCancelled (duration : Duration)
  deriving DecidableEq, Repr

namespace Event

def text : Event → String
  | retryAttempt attempt delay =>
    "Retry::Attempt(#" ++ toString attempt ++ ", delay=" ++ delay.text ++ ")"
  | retryAborted attempt category =>
    "Retry::Aborted(#" ++ toString attempt ++ ", category=" ++ category ++ ")"
  | retryExhausted attempts duration =>
    "Retry::Exhausted(attempts=" ++ toString attempts ++ ", duration=" ++ duration.text ++ ")"
  | breakerOpened failures samples =>
    "CircuitBreaker::Opened(failures=" ++ toString failures ++ "/" ++ toString samples ++ ")"
  | breakerHalfOpen => "CircuitBreaker::HalfOpen"
  | breakerClosed => "CircuitBreaker::Closed"
  | breakerRejected retryAfter =>
    "CircuitBreaker::Rejected(retry_after=" ++ retryAfter.text ++ ")"
  | bulkheadAcquired active max =>
    "Bulkhead::Acquired(" ++ toString active ++ "/" ++ toString max ++ ")"
  | bulkheadQueued waiting queueSize =>
    "Bulkhead::Queued(" ++ toString waiting ++ "/" ++ toString queueSize ++ ")"
  | bulkheadRejected active max waiting =>
    "Bulkhead::Rejected(" ++ toString active ++ "/" ++ toString max ++ ", waiting=" ++
      toString waiting ++ ")"
  | timeoutOccurred attempt limit =>
    "Timeout::Occurred(#" ++ toString attempt ++ ", timeout=" ++ limit.text ++ ")"
  | fallbackApplied handler category =>
    "Fallback::Applied(" ++ handler ++ ", category=" ++ category ++ ")"
  | fallbackFailed handler category =>
    "Fallback::Failed(" ++ handler ++ ", category=" ++ category ++ ")"
  | requestSuccess duration => "Request::Success(duration=" ++ duration.text ++ ")"
  | requestFailure duration => "Request::Failure(duration=" ++ duration.text ++ ")"
  | requestCancelled duration => "Request::Cancelled(duration=" ++ duration.text ++ ")"

end Event

/-- A duration as a document: whole seconds and the nanoseconds beyond them. -/
def Duration.toDocument (d : Duration) : Document :=
  .record [("secs", .ofNat (d.nanos / 10 ^ 9)), ("nanos", .ofNat (d.nanos % 10 ^ 9))]

namespace Event

private def variant (strategy name : String) (fields : List (String × Document)) : Document :=
  .record [(strategy, if fields.isEmpty then .text name else .record [(name, .record fields)])]

def toDocument : Event → Document
  | retryAttempt attempt delay =>
    variant "Retry" "Attempt" [("attempt", .ofNat attempt), ("delay", delay.toDocument)]
  | retryAborted attempt category =>
    variant "Retry" "Aborted" [("attempt", .ofNat attempt), ("category", .text category)]
  | retryExhausted attempts duration =>
    variant "Retry" "Exhausted"
      [("total_attempts", .ofNat attempts), ("total_duration", duration.toDocument)]
  | breakerOpened failures samples =>
    variant "CircuitBreaker" "Opened" [("failures", .ofNat failures), ("samples", .ofNat samples)]
  | breakerHalfOpen => variant "CircuitBreaker" "HalfOpen" []
  | breakerClosed => variant "CircuitBreaker" "Closed" []
  | breakerRejected retryAfter =>
    variant "CircuitBreaker" "Rejected" [("retry_after", retryAfter.toDocument)]
  | bulkheadAcquired active max =>
    variant "Bulkhead" "Acquired" [("active_count", .ofNat active), ("max_concurrency", .ofNat max)]
  | bulkheadQueued waiting queueSize =>
    variant "Bulkhead" "Queued" [("waiting", .ofNat waiting), ("queue_size", .ofNat queueSize)]
  | bulkheadRejected active max waiting =>
    variant "Bulkhead" "Rejected"
      [("active_count", .ofNat active), ("max_concurrency", .ofNat max),
        ("waiting", .ofNat waiting)]
  | timeoutOccurred attempt limit =>
    variant "Timeout" "Occurred" [("attempt", .ofNat attempt), ("timeout", limit.toDocument)]
  | fallbackApplied handler category =>
    variant "Fallback" "Applied" [("handler", .text handler), ("category", .text category)]
  | fallbackFailed handler category =>
    variant "Fallback" "Failed" [("handler", .text handler), ("category", .text category)]
  | requestSuccess duration => variant "Request" "Success" [("duration", duration.toDocument)]
  | requestFailure duration => variant "Request" "Failure" [("duration", duration.toDocument)]
  | requestCancelled duration => variant "Request" "Cancelled" [("duration", duration.toDocument)]

end Event

structure OperationEvent where
  operation : OperationId
  event : Event
  deriving DecidableEq, Repr

namespace OperationEvent

def text (occurrence : OperationEvent) : String :=
  occurrence.operation ++ " " ++ occurrence.event.text

def toDocument (occurrence : OperationEvent) : Document :=
  .record [("operation", .text occurrence.operation), ("event", occurrence.event.toDocument)]

end OperationEvent

end Resilience
