import Resilience.Engine.Task
import Resilience.Fallback
import Resilience.Policy.Registry
import Resilience.Sink
import Resilience.Time.Clock

/-!
Engines: the registered policies, handlers and strategies, the state of every operation, and the
tasks with the time that they share.
-/

namespace Resilience

structure OperationState where
  breaker : Breaker := {}
  /-- Every bulkhead that the operation had, the current one last. -/
  bulkheads : List Bulkhead := []
  metrics : Metrics := {}

namespace OperationState

/-- Makes a bulkhead of this policy the current one, unless it is already. The truth value says
whether it took the place of another. -/
def provide (state : OperationState) (policy : BulkheadPolicy) : Bool × OperationState :=
  match state.bulkheads.getLast? with
  | some current =>
    if current.policy = policy then (false, state)
    else (true, { state with bulkheads := state.bulkheads ++ [.ofPolicy policy] })
  | none => (false, { state with bulkheads := [.ofPolicy policy] })

def modifyBulkhead (state : OperationState) (index : Nat) (change : Bulkhead → Bulkhead) :
    OperationState :=
  { state with bulkheads := state.bulkheads.modify index change }

def count (state : OperationState) (counter : Counter) (amount : Nat) : OperationState :=
  { state with metrics := state.metrics.add counter amount }

end OperationState

inductive ClockKind where
  | manual
  | virtual
  deriving DecidableEq, Repr

inductive Sleeper where
  /-- Not at all. -/
  | instant
  /-- Not at all, but the manual clock moves on by the delay. -/
  | stepping
  /-- In virtual time. -/
  | timed
  deriving DecidableEq, Repr

/-- What tasks leave behind: log lines, the delays that they asked for, and their ends. -/
structure Journal (α : Type) where
  lines : List LogLine := []
  sleeps : List Duration := []
  completions : List (Completion α) := []

structure Engine (α : Type) where
  registry : Registry := {}
  operations : Table OperationId OperationState := {}
  handlers : Handlers := {}
  strategies : Table String Strategy := {}
  clockKind : ClockKind := .manual
  sleeper : Sleeper := .instant
  manualClock : ManualClock := {}
  /-- The virtual time in milliseconds. -/
  now : Nat := 0
  nextStamp : Nat := 0
  words : WordSource := .cycling []
  sink : Sink := {}
  tasks : Table TaskId (Task α) := {}
  nextTask : TaskId := 0
  /-- The tasks that can go on, the next one first. -/
  ready : List TaskId := []
  stint : Stint := {}
  /-- The tasks that used up their stints, the latest one first. -/
  aside : List TaskId := []
  /-- The number of stints in the round so far. -/
  stints : Nat := 0
  journal : Journal α := {}

namespace Engine

variable {α : Type}

/-- The state of an operation; one that was never invoked is in the initial state. -/
def stateOf (engine : Engine α) (operation : OperationId) : OperationState :=
  (engine.operations.get? operation).getD {}

def setState (engine : Engine α) (operation : OperationId) (state : OperationState) : Engine α :=
  { engine with operations := engine.operations.set operation state }

def modifyTask (engine : Engine α) (id : TaskId) (change : Task α → Task α) : Engine α :=
  { engine with tasks := engine.tasks.modify id change }

def write (engine : Engine α) (lines : List LogLine) : Engine α :=
  { engine with journal := { engine.journal with lines := engine.journal.lines ++ lines } }

def clock (engine : Engine α) : Nat :=
  match engine.clockKind with
  | .manual => engine.manualClock.now
  | .virtual => engine.now

def startTimer (engine : Engine α) (duration : Duration) : Timer × Engine α :=
  (⟨Timer.dueAfter engine.now duration, engine.nextStamp⟩,
    { engine with nextStamp := engine.nextStamp + 1 })

def keepTimer (engine : Engine α) (duration : Duration) : Option Timer → Timer × Engine α
  | some timer => (timer, engine)
  | none => engine.startTimer duration

def isRunning (engine : Engine α) (id : TaskId) : Bool :=
  match engine.tasks.get? id with
  | some task => task.isRunning
  | none => false

/-- Lets a task go on, unless it does so anyway. During its own stint it goes on
once more after that. -/
def wake (engine : Engine α) (id : TaskId) : Engine α :=
  if engine.stint.task = some id then { engine with stint := { engine.stint with woken := true } }
  else if engine.ready.contains id then engine
  else { engine with ready := engine.ready ++ [id] }

def wakeAll (engine : Engine α) (ids : List TaskId) : Engine α := ids.foldl wake engine

def isSpent (engine : Engine α) : Bool := engine.stint.left = 0

def endWait (engine : Engine α) : Engine α :=
  { engine with stint := { engine.stint with left := engine.stint.left - 1 } }

def setAside (engine : Engine α) (id : TaskId) : Engine α :=
  { engine with aside := id :: engine.aside }

/-- Fires the token of the caller of a task. The task that does this itself looks at its token
after its stint. -/
def fireToken (engine : Engine α) (id : TaskId) : Engine α :=
  match engine.tasks.get? id with
  | some task => if task.linked then (engine.modifyTask id Task.cancel).wake id else engine
  | none => engine

def ticketHolders (engine : Engine α) (operation : OperationId) (index : Nat)
    (tickets : List Nat) : List TaskId :=
  (engine.tasks.entries.filter fun (_, task) =>
    task.awaitsSlot && task.operation == operation &&
      match task.place with
      | some (.ticket bulkhead number) => bulkhead == index && tickets.contains number
      | some (.slot _) | none => false).map Prod.fst

def changeBulkhead (engine : Engine α) (operation : OperationId) (index : Nat)
    (change : Bulkhead → Bulkhead) : Engine α :=
  let state := engine.stateOf operation
  match state.bulkheads[index]? with
  | none => engine
  | some bulkhead =>
    let granted := bulkhead.toSlots.grantedSince (change bulkhead).toSlots
    (engine.setState operation (state.modifyBulkhead index change)).wakeAll
      (engine.ticketHolders operation index granted)

def changeGate (engine : Engine α) (change : Slots → Slots) : Engine α :=
  let gate := change engine.sink.gate
  { engine with sink := { engine.sink with gate } }.wakeAll (engine.sink.gate.grantedSince gate)

def dropPermit (engine : Engine α) (id : TaskId) (task : Task α) : Engine α :=
  match task.permit with
  | none => engine
  | some permit =>
    let state := engine.stateOf task.operation
    (engine.setState task.operation { state with breaker := state.breaker.drop permit }).modifyTask
      id fun task => { task with permit := none }

def leavePlace (engine : Engine α) (id : TaskId) (task : Task α) : Engine α :=
  match task.place with
  | none => engine
  | some place =>
    (engine.modifyTask id fun task => { task with place := none }).changeBulkhead task.operation
      place.bulkhead place.giveBack

def release (engine : Engine α) (id : TaskId) (task : Task α) : Engine α :=
  ((engine.changeGate (·.leave id)).dropPermit id task).leavePlace id task

end Engine

end Resilience
