import Resilience.Log
import Resilience.Number.Decimal
import Resilience.Document
import Resilience.Policy.Basic

/-!
Circuit breakers. A closed breaker keeps the outcomes of the newest samples and opens when too
many of them failed; an open one lets nothing through until its delay has passed; then one probe
at a time decides whether it closes again. Every transition starts a new generation, and a permit
of an older generation changes nothing any more.
-/

namespace Resilience

inductive CircuitState where
  | closed | «open» | halfOpen
  deriving DecidableEq, Repr

def CircuitState.name : CircuitState → String
  | closed => "Closed"
  | «open» => "Open"
  | halfOpen => "HalfOpen"

def CircuitState.ofDocument? (document : Document) : Option CircuitState := do
  let name ← document.choice?
  [closed, «open», halfOpen].find? fun state => state.name = name

inductive Transition where
  | opened (failures samples : Nat)
  | halfOpened
  | closed
  deriving DecidableEq, Repr

/-- The leave to make a call, until its outcome is recorded or it is dropped. -/
structure Permit where
  generation : Nat
  /-- Whether the call probes a half-open breaker. -/
  probe : Bool
  /-- The transition that the acquisition caused. -/
  transition : Option Transition
  deriving DecidableEq, Repr

structure Breaker where
  state : CircuitState := .closed
  /-- Whether each of the newest samples failed, the oldest first. -/
  window : List Bool := []
  /-- When the breaker last opened, in milliseconds of its clock. -/
  openedAt : Nat := 0
  /-- The successful probes since the breaker became half-open. -/
  successes : Nat := 0
  /-- Whether a probe is on its way. -/
  probing : Bool := false
  /-- How often the state was changed, as a number without a bound: that 64 bits hold no more than
  `2 ^ 64` changes is left out. -/
  generation : Nat := 0
  deriving DecidableEq, Repr

namespace BreakerPolicy

def countsAsFailure (policy : BreakerPolicy) (category : Option Category) : Bool :=
  match category with
  | some category => policy.failOn.contains category && !policy.skipOn.contains category
  | none => false

end BreakerPolicy

namespace BreakerRule

def capacity (rule : BreakerRule) : Nat := max 1 rule.volume.toNat

def reachesRatio (rule : BreakerRule) (failures samples : Nat) : Bool :=
  rule.failureRatio ≤ Float.ofNat failures / Float.ofNat samples

end BreakerRule

namespace Breaker

def counts (breaker : Breaker) : Nat × Nat := (breaker.window.count true, breaker.window.length)

/-- Asks for a permit at a time. The refusal tells how long to wait. -/
def acquire (breaker : Breaker) (rule : BreakerRule) (now : Nat) :
    Except Duration Permit × Breaker :=
  match breaker.state with
  | .closed => (.ok ⟨breaker.generation, false, none⟩, breaker)
  | .open =>
    let delay := rule.delay.toDuration.millis
    let elapsed := now - breaker.openedAt
    if elapsed < delay then (.error (.ofMillis (delay - elapsed)), breaker)
    else
      (.ok ⟨breaker.generation + 1, true, some .halfOpened⟩,
        { breaker with
          state := .halfOpen, successes := 0, probing := true,
          generation := breaker.generation + 1 })
  | .halfOpen =>
    if breaker.probing then (.error .zero, breaker)
    else (.ok ⟨breaker.generation, true, none⟩, { breaker with probing := true })

def trip (breaker : Breaker) (now : Nat) : Breaker :=
  { state := .open, window := [], openedAt := now, successes := 0, probing := false,
    generation := breaker.generation + 1 }

/-- The newest samples that leave room for one more, and that one. -/
def slide (capacity : Nat) (window : List Bool) (failed : Bool) : List Bool :=
  window.drop (window.length + 1 - capacity) ++ [failed]

def sample (breaker : Breaker) (rule : BreakerRule) (now : Nat) (failed : Bool) :
    Option Transition × Breaker :=
  let window := slide rule.capacity breaker.window failed
  let failures := window.count true
  let samples := window.length
  if rule.capacity ≤ samples ∧ 0 < failures ∧ rule.reachesRatio failures samples then
    (some (.opened failures samples), breaker.trip now)
  else (none, { breaker with window })

def probed (breaker : Breaker) (rule : BreakerRule) (now : Nat) (failed : Bool) :
    Option Transition × Breaker :=
  if failed then (some (.opened 1 1), breaker.trip now)
  else
    let successes := breaker.successes + 1
    if successes < rule.successThreshold.toNat then
      (none, { breaker with successes })
    else
      (some .closed,
        { breaker with
          state := .closed, window := [], successes := 0,
          generation := breaker.generation + 1 })

def record (breaker : Breaker) (permit : Permit) (rule : BreakerRule) (now : Nat)
    (failed : Bool) : Option Transition × Breaker :=
  if breaker.generation ≠ permit.generation then (none, breaker)
  else
    let breaker := { breaker with probing := breaker.probing && !permit.probe }
    match breaker.state with
    | .closed => breaker.sample rule now failed
    | .halfOpen => breaker.probed rule now failed
    | .open => (none, breaker)

def drop (breaker : Breaker) (permit : Permit) : Breaker :=
  if permit.probe && breaker.generation == permit.generation then
    { breaker with probing := false }
  else breaker

def reset (breaker : Breaker) : Breaker := { generation := breaker.generation + 1 }

private def line (operation : OperationId) (level : LogLevel) (message : String)
    (fields : List (String × String)) : LogLine :=
  ⟨level, "faultline::circuit_breaker", message, ("operation", operation) :: fields⟩

def acquireLines (operation : OperationId) : Except Duration Permit → List LogLine
  | .ok ⟨_, _, some _⟩ => [line operation .info "Circuit breaker → half-open" []]
  | .ok ⟨_, true, none⟩ => [line operation .debug "Circuit breaker: half-open probe" []]
  | _ => []

def recordLines (operation : OperationId) (breaker : Breaker) (permit : Permit)
    (rule : BreakerRule) (transition : Option Transition) : List LogLine :=
  if breaker.generation ≠ permit.generation then
    [line operation .trace "stale breaker sample ignored" []]
  else
    match transition with
    | some (.opened failures samples) =>
      if breaker.state = .closed then
        [line operation .error "Circuit breaker → open"
          [("failures", toString failures), ("samples", toString samples),
            ("threshold", Number.Layout.marked.text rule.failureRatio)]]
      else [line operation .warn "Circuit breaker → open (probe failed)" []]
    | some .closed => [line operation .info "Circuit breaker → closed" []]
    | _ => []

def resetLines (operation : OperationId) : List LogLine :=
  [line operation .info "Circuit breaker reset → closed" []]

end Breaker

end Resilience
