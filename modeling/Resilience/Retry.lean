import Resilience.Plan

/-!
Retries: a failed attempt is repeated as long as its category asks for it and attempts and time
are left.
-/

namespace Resilience

inductive RetryStop where
  | succeeded | notRetryable | aborted | maxRetriesReached | maxDurationReached | cancelled
  deriving DecidableEq, Repr

def RetryStop.name : RetryStop → String
  | succeeded => "Succeeded"
  | notRetryable => "NotRetryable"
  | aborted => "Aborted"
  | maxRetriesReached => "MaxRetriesReached"
  | maxDurationReached => "MaxDurationReached"
  | cancelled => "Cancelled"

structure RetryReport where
  retries : Nat
  stop : RetryStop
  deriving DecidableEq, Repr

inductive Judgement where
  /-- It is the final outcome. -/
  | final (stop : RetryStop)
  /-- It is the final outcome, as a failure that is never repeated. -/
  | aborted (category : Category)
  /-- The attempt is to be repeated. -/
  | failed (fault : Fault) (category : Category)
  deriving DecidableEq, Repr

/-- Judges an outcome. Only failures of the operation itself and timeouts can be repeated, and a
category that aborts wins over one that retries. -/
def RetryPolicy.judge (policy : RetryPolicy) : Outcome → Judgement
  | .ok _ => .final .succeeded
  | .error fault =>
    if fault.isCancelled then .final .cancelled
    else if !(fault.isInner || fault.isTimeout) then .final .notRetryable
    else
      match fault.category? with
      | none => .final .notRetryable
      | some category =>
        if policy.abortOn.contains category then .aborted category
        else if policy.retryOn.contains category then .failed fault category
        else .final .notRetryable

/-- The milliseconds that all attempts and delays may take; zero sets no limit. -/
def RetryPolicy.budget (policy : RetryPolicy) : Nat := policy.maxDuration.toDuration.millis

def RetryPolicy.exceeds (policy : RetryPolicy) (elapsed : Nat) (delay : Duration) : Bool :=
  0 < policy.budget ∧ policy.budget ≤ min (elapsed + delay.millis) (2 ^ 64 - 1)

structure Retrier where
  operation : OperationId
  policy : RetryPolicy
  backoff : Backoff
  jitter : Jitter

namespace Retrier

/-- The retrier of a policy. A named backoff that is not given is the constant delay. -/
def ofPolicy (operation : OperationId) (policy : RetryPolicy) : Retrier where
  operation
  policy
  backoff := (Backoff.ofPolicy? policy none).getD (.constant policy.delay.toDuration)
  jitter := .ofBound policy.jitter.toDuration

private def line (retrier : Retrier) (level : LogLevel) (message : String)
    (fields : List (String × String)) : LogLine :=
  ⟨level, "faultline::retry", message, ("operation", retrier.operation) :: fields⟩

def giveUp (retrier : Retrier) (attempts elapsed : Nat) (last : Fault) (stop : RetryStop) :
    Plan (Outcome × RetryReport) := do
  let duration := Duration.ofMillis elapsed
  Plan.log <| retrier.line .warn "retries exhausted"
    [("attempts", toString attempts), ("total_duration", duration.text)]
  Plan.emit (.retryExhausted attempts duration)
  return (.error (.exhausted attempts last), ⟨attempts - 1, stop⟩)

/-- Makes the attempt after the retries that were made, and the attempts that follow it. At most
`remaining` retries may still be made. -/
def attempts (retrier : Retrier) (attempt : Nat → Plan Outcome) (started : Nat) :
    (remaining retries : Nat) → Plan (Outcome × RetryReport)
  | remaining, retries => do
    let number := retries + 1
    let outcome ← attempt number
    match retrier.policy.judge outcome with
    | .final stop => return (outcome, ⟨retries, stop⟩)
    | .aborted category =>
      Plan.log <| retrier.line .debug "retry aborted"
        [("attempt", toString number), ("category", category)]
      Plan.emit (.retryAborted number category)
      return (outcome, ⟨retries, .aborted⟩)
    | .failed fault category =>
      let elapsed := (← Plan.clock) - started
      match remaining with
      | 0 => retrier.giveUp number elapsed fault .maxRetriesReached
      | remaining + 1 =>
        let delay ← Plan.jittered retrier.jitter (retrier.backoff.delay number)
        if retrier.policy.exceeds elapsed delay then
          retrier.giveUp number elapsed fault .maxDurationReached
        else
          Plan.log <| retrier.line .debug "retrying after failure"
            [("attempt", toString number), ("delay_ms", toString delay.millis),
              ("category", category)]
          Plan.emit (.retryAttempt number delay)
          if ← Plan.pause delay then
            retrier.attempts attempt started remaining (retries + 1)
          else return (.error .cancelled, ⟨retries, .cancelled⟩)

def run (retrier : Retrier) (attempt : Nat → Plan Outcome) : Plan (Outcome × RetryReport) := do
  let started ← Plan.clock
  retrier.attempts attempt started retrier.policy.maxRetries.toNat 0

end Retrier

end Resilience
