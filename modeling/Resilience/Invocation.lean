import Resilience.Behaviour
import Resilience.Fallback
import Resilience.Retry

/-!
Invocations: the plan of guarding one call of an operation. From the outside in, the strategies
are the bulkhead, the breaker when it samples invocations, the retries, the breaker when it
samples attempts, and the timeout; the fallback answers a failure of all of them while the
bulkhead's slot is still held.
-/

namespace Resilience

/-- The sample that an outcome is for a breaker: whether it is a failure, or none for an
invocation that the caller gave up. -/
def BreakerPolicy.sample? (policy : BreakerPolicy) : Outcome → Option Bool
  | .ok _ => some false
  | .error .cancelled => none
  | .error fault => some (policy.countsAsFailure fault.category?)

namespace Invocation

private def line (operation : OperationId) (level : LogLevel) (message : String)
    (fields : List (String × String)) : LogLine :=
  ⟨level, "faultline::pipeline", message, ("operation", operation) :: fields⟩

def enter (operation : OperationId) (policy : BulkheadPolicy) : Plan (Except Fault Unit) := do
  let entry ← Plan.enterBulkhead policy
  if entry.rebuilt then
    Plan.log ⟨.debug, "faultline::pipeline", "bulkhead policy changed, rebuilding",
      [("operation", operation),
        ("policy", "BulkheadPolicy \x7b max_concurrent: " ++ toString policy.maxConcurrent ++
          ", waiting_queue_size: " ++ toString policy.queueSize ++ " \x7d")]⟩
  match entry.admission with
  | .admitted => acquired
  | .queued _ =>
    Plan.count .bulkheadQueued 1
    Plan.log <| line operation .debug "bulkhead full, queueing"
      [("waiting", toString entry.waiting)]
    Plan.emit (.bulkheadQueued entry.waiting policy.queueSize.toNat)
    if ← Plan.awaitSlot then acquired else return .error .cancelled
  | .full inFlight max waiting =>
    Plan.count .bulkheadRejections 1
    Plan.log <| line operation .debug "bulkhead rejected"
      [("in_flight", toString inFlight), ("max", toString max), ("waiting", toString waiting)]
    Plan.emit (.bulkheadRejected inFlight max waiting)
    return .error (.bulkheadFull inFlight max waiting)
where
  acquired : Plan (Except Fault Unit) := do
    let (active, max) ← Plan.bulkheadLoad
    Plan.emit (.bulkheadAcquired active max)
    return .ok ()

def report : Option Transition → Plan Unit
  | none => return ()
  | some (.opened failures samples) => do
    Plan.count .circuitOpened 1
    Plan.emit (.breakerOpened failures samples)
  | some .halfOpened => Plan.emit .breakerHalfOpen
  | some .closed => Plan.emit .breakerClosed

def throughBreaker (policy : BreakerPolicy) (guarded : Plan Outcome) : Plan Outcome := do
  match ← Plan.acquirePermit policy.toBreakerRule with
  | .error retryAfter =>
    Plan.count .circuitRejections 1
    Plan.emit (.breakerRejected retryAfter)
    return .error (.circuitOpen retryAfter)
  | .ok transition =>
    report transition
    let outcome ← guarded
    match policy.sample? outcome with
    | some failed => report (← Plan.recordSample policy.toBreakerRule failed)
    | none => Plan.dropPermit
    return outcome

def sampled (policy : Policy) (sampling : Sampling) (guarded : Plan Outcome) : Plan Outcome :=
  match policy.breaker with
  | some breaker =>
    if breaker.sampling = sampling then throughBreaker breaker guarded else guarded
  | none => guarded

def call (operation : OperationId) (policy : Policy) (number : Nat) : Plan Outcome := do
  let timeout := policy.timeout.map fun timeout => timeout.duration.toDuration
  let outcome ← Plan.attempt number timeout true
  match outcome with
  | .error (.timeout _ limit) =>
    Plan.count .timeouts 1
    Plan.log <| line operation .debug "attempt timed out"
      [("attempt", toString number), ("timeout", limit.text)]
    Plan.emit (.timeoutOccurred number limit)
  | _ => pure ()
  return outcome

def attempt (operation : OperationId) (policy : Policy) (number : Nat) : Plan Outcome :=
  sampled policy .attempt (call operation policy number)

def stopCounter? : RetryStop → Option Counter
  | .aborted => some .retriesAborted
  | .maxRetriesReached | .maxDurationReached => some .retriesExhausted
  | .succeeded | .notRetryable | .cancelled => none

def retrier (operation : OperationId) (policy : RetryPolicy) : Plan (Except Fault Retrier) := do
  let retrier := Retrier.ofPolicy operation policy
  match policy.backoff with
  | .custom name =>
    match Backoff.ofPolicy? policy (← Plan.strategy name) with
    | some backoff => return .ok { retrier with backoff }
    | none =>
      return .error (.misconfigured operation
        ("backoff strategy '" ++ name ++ "' is not registered"))
  | _ => return .ok retrier

/-- All attempts: as many as the retry policy makes, or a single one without such a policy. -/
def attempts (operation : OperationId) (policy : Policy) : Plan Outcome := do
  match policy.retry with
  | none => attempt operation policy 1
  | some retry =>
    match ← retrier operation retry with
    | .error fault => return .error fault
    | .ok retrier =>
      let (outcome, report) ← retrier.run (attempt operation policy)
      Plan.count .retries report.retries
      match stopCounter? report.stop with
      | some counter => Plan.count counter 1
      | none => pure ()
      return outcome

def guarded (operation : OperationId) (policy : Policy) : Plan Outcome :=
  sampled policy .invocation (attempts operation policy)

def handled (operation : OperationId) (name : String) (category : Category) (fault : Fault) :
    Plan Outcome := do
  match ← Plan.handle name fault with
  | none =>
    Plan.log <| line operation .error "fallback handler missing" [("handler", name)]
    return .error (.misconfigured operation
      ("fallback handler '" ++ name ++ "' is not registered for this operation's types"))
  | some (.ok text) =>
    Plan.count .fallbacksApplied 1
    Plan.log <| line operation .debug "fallback applied" [("handler", name), ("category", category)]
    Plan.emit (.fallbackApplied name category)
    return .ok text
  | some (.error failure) =>
    Plan.count .fallbacksFailed 1
    Plan.log <| line operation .warn "fallback failed" [("handler", name), ("category", category)]
    Plan.emit (.fallbackFailed name category)
    return .error (.inner failure)

def recovered (operation : OperationId) (policy : Policy) : Outcome → Plan Outcome
  | .ok text => return .ok text
  | .error fault =>
    match policy.fallback, fault.category? with
    | some fallback, some category =>
      if fallback.applies (some category) then handled operation fallback.handler category fault
      else return .error fault
    | _, _ => return .error fault

def strategies (operation : OperationId) (policy : Policy) : Plan Outcome := do
  match policy.bulkhead with
  | none => recovered operation policy (← guarded operation policy)
  | some bulkhead =>
    match ← enter operation bulkhead with
    | .error fault => recovered operation policy (.error fault)
    | .ok () =>
      let outcome ← recovered operation policy (← guarded operation policy)
      Plan.leaveBulkhead
      return outcome

def outcomeCounter : Outcome → Counter
  | .ok _ => .successes
  | .error .cancelled => .cancellations
  | .error _ => .failures

def outcomeEvent (duration : Duration) : Outcome → Event
  | .ok _ => .requestSuccess duration
  | .error .cancelled => .requestCancelled duration
  | .error _ => .requestFailure duration

def plan (operation : OperationId) : Plan Outcome := do
  let started ← Plan.time
  match ← Plan.resolve with
  | none =>
    Plan.log ⟨.debug, "faultline::pipeline", "invocation of unregistered operation",
      [("operation", Text.quoted operation)]⟩
    return .error (.unknownOperation operation)
  | some policy =>
    Plan.count .invocations 1
    let outcome ← strategies operation policy
    let finished ← Plan.time
    Plan.count (outcomeCounter outcome) 1
    Plan.emit (outcomeEvent (.ofMillis (finished - started)) outcome)
    return outcome

end Invocation

/-- The plan of an invocation that calls a service. A service that is not ready at first ends it
before it starts. -/
def Service.plan (service : Service) (operation : OperationId) : Plan Outcome :=
  match service.unready? 1 with
  | some failure => return .error (.inner failure)
  | none => Invocation.plan operation

end Resilience
