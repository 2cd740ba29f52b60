import Resilience.Engine.Schedule
import Resilience.Invocation
import Resilience.Override
import Resilience.Policy.Document

/-!
Control: starting and stopping tasks, changing policies, and asking for the state of operations.
-/

namespace Resilience

structure OperationSummary where
  operation : OperationId
  policy : Policy
  circuit : CircuitState
  metrics : Metrics

namespace OperationSummary

def toDocument (summary : OperationSummary) : Document :=
  .record [("id", .text summary.operation), ("policy", summary.policy.toDocument),
    ("circuit_state", .text summary.circuit.name), ("metrics", summary.metrics.toDocument)]

end OperationSummary

namespace Engine

variable {α : Type}

def spawn (engine : Engine α) (task : Task α) : TaskId × Engine α :=
  (engine.nextTask,
    { engine with
      tasks := engine.tasks.set engine.nextTask task, nextTask := engine.nextTask + 1 }.wake
        engine.nextTask)

def invocation (operation : OperationId) (input : String) (service : Service)
    (linked cancelled : Bool) : Task Outcome :=
  { operation, input, service, linked, cancelled := cancelled && linked,
    progress := .suspended (service.plan operation) .unbegun }

def cancel (engine : Engine α) (id : TaskId) : Engine α :=
  match engine.tasks.get? id with
  | some task =>
    let engine := engine.modifyTask id Task.cancel
    if task.linked && task.heedsCaller then engine.wake id else engine
  | none => engine

def awaitsGate (task : Task α) : Bool :=
  match task.progress with
  | .suspended _ (.attempt { actions := .awaitGate :: _, .. } ..)
  | .suspended _ (.handler { actions := .awaitGate :: _, .. } _) => true
  | _ => false

def openGate (engine : Engine α) (id : TaskId) (permits : Nat) : Engine α :=
  match engine.tasks.get? id with
  | some task =>
    let engine := engine.modifyTask id fun task => { task with gate := task.gate + permits }
    if 0 < permits && awaitsGate task then engine.wake id else engine
  | none => engine

def openSink (engine : Engine α) (permits : Nat) : Engine α :=
  engine.changeGate fun gate => permits.repeat Slots.release gate

def forget (engine : Engine α) (id : TaskId) : Engine α :=
  { engine with
    tasks := engine.tasks.erase id, ready := engine.ready.filter fun other => other ≠ id }

/-- Ends a task where it stands and forgets it. Whatever it holds is given back. -/
def abort (engine : Engine α) (id : TaskId) : Engine α :=
  match engine.tasks.get? id with
  | some task => (if task.isRunning then engine.release id task else engine).forget id
  | none => engine

/-- Runs a task to its end: its result, the task, and the engine after it. The number bounds the
turns. -/
def complete? (turns : Nat) (engine : Engine α) (task : Task α) :
    Option (α × Task α × Engine α) :=
  let (id, engine) := engine.spawn task
  let engine := engine.runUntil (fun engine => !engine.isRunning id) turns turns
  match engine.tasks.get? id with
  | some task =>
    match task.progress with
    | .finished result => some (result, task, engine)
    | .suspended .. | .crashed => none
  | none => none

def changeRegistry (engine : Engine α) (accepted refused : List LogLine) :
    Except PolicyError (Policy × Registry) → Except PolicyError Policy × Engine α
  | .ok (policy, registry) => (.ok policy, { engine with registry }.write accepted)
  | .error error => (.error error, engine.write refused)

def register (engine : Engine α) (operation : OperationId) (policy : Policy) :
    Except PolicyError Policy × Engine α :=
  let lines := engine.registry.registerLines operation policy
  engine.changeRegistry lines lines (engine.registry.register operation policy)

def overrideField (engine : Engine α) (operation : OperationId) (kind : PolicyKind)
    (field value : String) : Except PolicyError Policy × Engine α :=
  engine.changeRegistry (Registry.overrideLines operation kind field value) []
    (engine.registry.overrideField operation kind field value)

def clearOverride (engine : Engine α) (operation : OperationId) (kind : PolicyKind)
    (field : String) : Except PolicyError Policy × Engine α :=
  engine.changeRegistry [] [] (engine.registry.clearOverride operation kind field)

def overrideAll (engine : Engine α) :
    List OverrideLine → Except PolicyError Unit × Engine α
  | [] => (.ok (), engine)
  | line :: rest =>
    match engine.overrideField line.key.operation line.key.kind line.key.field line.value with
    | (.ok _, engine) => engine.overrideAll rest
    | (.error error, engine) => (.error error, engine)

/-- Applies the overrides of a text and tells their number. A text with a wrong line changes
nothing. -/
def applyOverrides (engine : Engine α) (text : String) : Except PolicyError Nat × Engine α :=
  match OverrideLine.ofText text with
  | .error error => (.error error, engine)
  | .ok lines =>
    match engine.overrideAll lines with
    | (.ok (), engine) => (.ok lines.length, engine)
    | (.error error, engine) => (.error error, engine)

def registerStrategy (engine : Engine α) (name : String) (strategy : Strategy) : Engine α :=
  { engine with strategies := engine.strategies.set name strategy }

def registerHandler (engine : Engine α) (name : String) (handler : Handler) : Engine α :=
  { engine with handlers := engine.handlers.set name handler }.write
    (engine.handlers.registerLines name)

def circuitState? (engine : Engine α) (operation : OperationId) : Option CircuitState :=
  (engine.registry.resolve? operation).map fun _ => (engine.stateOf operation).breaker.state

def metrics? (engine : Engine α) (operation : OperationId) : Option Metrics :=
  (engine.registry.resolve? operation).map fun _ => (engine.stateOf operation).metrics

def reset (engine : Engine α) (operation : OperationId) : Except PolicyError Unit × Engine α :=
  match engine.registry.resolve operation with
  | .error error => (.error error, engine)
  | .ok _ =>
    match engine.operations.get? operation with
    | none => (.ok (), engine)
    | some state =>
      (.ok (), (engine.setState operation { state with breaker := state.breaker.reset }).write
        (Breaker.resetLines operation))

def summaries (engine : Engine α) : List OperationSummary :=
  engine.registry.operations.map fun (operation, policy) =>
    let state := engine.stateOf operation
    { operation, policy, circuit := state.breaker.state, metrics := state.metrics }

def collect (engine : Engine α) : (Journal α × List OperationEvent) × Engine α :=
  let (events, sink) := engine.sink.drain
  ((engine.journal, events), { engine with sink, journal := {} })

end Engine

end Resilience
