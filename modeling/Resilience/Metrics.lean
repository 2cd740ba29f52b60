import Resilience.Document
import Resilience.Number.Power

/-!
The counters of an operation.
-/

namespace Resilience

inductive Counter where
  | invocations | successes | failures | cancellations | retries | retriesExhausted
  | retriesAborted | timeouts | circuitRejections | circuitOpened | bulkheadQueued
  | bulkheadRejections | fallbacksApplied | fallbacksFailed
  deriving DecidableEq, Repr

namespace Counter

def all : List Counter :=
  [invocations, successes, failures, cancellations, retries, retriesExhausted, retriesAborted,
    timeouts, circuitRejections, circuitOpened, bulkheadQueued, bulkheadRejections,
    fallbacksApplied, fallbacksFailed]

def name : Counter → String
  | invocations => "invocations"
  | successes => "successes"
  | failures => "failures"
  | cancellations => "cancellations"
  | retries => "retries"
  | retriesExhausted => "retries_exhausted"
  | retriesAborted => "retries_aborted"
  | timeouts => "timeouts"
  | circuitRejections => "circuit_rejections"
  | circuitOpened => "circuit_opened"
  | bulkheadQueued => "bulkhead_queued"
  | bulkheadRejections => "bulkhead_rejections"
  | fallbacksApplied => "fallbacks_applied"
  | fallbacksFailed => "fallbacks_failed"

end Counter

/-- The value of every counter. The numbers have no bound: that counters of 64 bits start again from
zero after `2 ^ 64` increments is left out. -/
structure Metrics where
  count : Counter → Nat := fun _ => 0

namespace Metrics

def add (metrics : Metrics) (counter : Counter) (amount : Nat) : Metrics :=
  ⟨fun other => if other = counter then metrics.count other + amount else metrics.count other⟩

@[simp] theorem count_add (metrics : Metrics) (counter other : Counter) (amount : Nat) :
    (metrics.add counter amount).count other =
      if other = counter then metrics.count other + amount else metrics.count other := rfl

def nonzero (metrics : Metrics) : List (String × Nat) :=
  (Counter.all.map fun counter => (counter.name, metrics.count counter)).filter
    fun entry => entry.2 ≠ 0

def toDocument (metrics : Metrics) : Document :=
  .record (Counter.all.map fun counter => (counter.name, .ofNat (metrics.count counter)))

def ofDocument? (document : Document) : Option Metrics := do
  let parts ← document.allParts? (Counter.all.map Counter.name)
  let values ← parts.mapM (Document.natural? (2 ^ 64 - 1))
  let counts := Counter.all.zip values
  return ⟨fun counter => (counts.lookup counter).getD 0⟩

end Metrics

end Resilience
