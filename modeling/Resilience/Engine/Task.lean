import Resilience.Behaviour
import Resilience.Plan

/-!
Tasks: the invocations that an engine runs, each with what it holds and how far it has come.
-/

namespace Resilience

abbrev TaskId := Nat

/-- A moment in virtual time at which something is due. Timers that are due together fire in the
order of their stamps. -/
structure Timer where
  due : Nat
  stamp : Nat
  deriving DecidableEq, Repr

namespace Timer

/-- When a wait that starts now is over, in milliseconds. A wait without an end in sight is over
after thirty years. -/
def dueAfter (now : Nat) (duration : Duration) : Nat :=
  if 2 ^ 63 * 10 ^ 9 ≤ duration.nanos then now + 30 * 365 * 86400 * 1000
  else min (now + duration.ceilMillis) (2 ^ 64 - 3)

def before (a b : Timer) : Bool := a.due < b.due ∨ a.due = b.due ∧ a.stamp ≤ b.stamp

end Timer

/-- A call of a task's service, and whether its attempt ran out of time. -/
structure Call where
  number : Nat
  expired : Bool := false
  deriving DecidableEq, Repr

/-- What a task holds in the bulkheads of its operation, which are known by their positions. -/
inductive Place where
  | slot (bulkhead : Nat)
  | ticket (bulkhead number : Nat)
  deriving DecidableEq, Repr

namespace Place

def bulkhead : Place → Nat
  | slot bulkhead => bulkhead
  | ticket bulkhead _ => bulkhead

def giveBack : Place → Bulkhead → Bulkhead
  | slot _, bulkhead => bulkhead.release
  | ticket _ number, bulkhead => bulkhead.leave number

end Place

inductive Wait where
  | unbegun
  /-- In the queue of a bulkhead. -/
  | slot
  /-- At the gate of the sink, or on the way into its queue. -/
  | delivery
  /-- In a pause, with its timer once that is set. -/
  | pause (timer : Option Timer)
  /-- In a fallback handler, with the rest of its behaviour and the timer of its first action. -/
  | handler (rest : Behaviour Failure) (timer : Option Timer)
  /-- In an attempt, with the rest of its behaviour, the timer of its first action, the moment at
  which it started and its deadline. -/
  | attempt (rest : Behaviour Fault) (timer : Option Timer) (started : Nat)
    (deadline : Option Timer)

def Wait.timers : Wait → List Timer
  | unbegun | slot | delivery => []
  | pause timer => timer.toList
  | handler _ timer => timer.toList
  | attempt _ timer _ deadline => timer.toList ++ deadline.toList

inductive Progress (α : Type) where
  | suspended (plan : Plan α) (wait : Wait)
  | finished (result : α)
  | crashed

structure Task (α : Type) where
  operation : OperationId
  input : String
  service : Service
  /-- Whether the caller's cancellation token reaches the task. -/
  linked : Bool := true
  /-- Whether the token has fired. -/
  cancelled : Bool := false
  /-- The permits of the gate at which calls wait. -/
  gate : Nat := 0
  calls : List Call := []
  place : Option Place := none
  permit : Option Permit := none
  progress : Progress α

namespace Task

variable {α : Type}

def isRunning (task : Task α) : Bool :=
  match task.progress with
  | .suspended .. => true
  | .finished _ | .crashed => false

def timers (task : Task α) : List Timer :=
  match task.progress with
  | .suspended _ wait => wait.timers
  | .finished _ | .crashed => []

def awaitsSlot (task : Task α) : Bool :=
  match task.progress with
  | .suspended _ .slot => true
  | _ => false

def heedsCaller (task : Task α) : Bool :=
  match task.progress with
  | .suspended (.ask request _) _ => request.heedsCaller
  | _ => false

def cancel (task : Task α) : Task α := { task with cancelled := task.cancelled || task.linked }

def expire (task : Task α) : Task α :=
  match task.calls.reverse with
  | [] => task
  | call :: earlier => { task with calls := ({ call with expired := true } :: earlier).reverse }

def callNumbers (task : Task α) : List Nat := task.calls.map Call.number

/-- Whether the token that each call was given has fired; unlinked calls get none. -/
def callTokens (task : Task α) : List Bool :=
  if task.linked then task.calls.map fun call => call.expired || task.cancelled else []

end Task

/-- The stint of the task that goes on. A wait that is over takes up one unit of the stint, and
when none is left the task is set aside, so that it cannot keep the others waiting for good. -/
structure Stint where
  task : Option TaskId := none
  /-- How many more waits may be over in this stint. -/
  left : Nat := 0
  /-- Whether the task was woken during its own stint. -/
  woken : Bool := false
  deriving DecidableEq, Repr

namespace Stint

def length : Nat := 128

def start (task : TaskId) : Stint := { task := some task, left := length }

end Stint

/-- The end of a task. A task that crashed has no result. -/
structure Completion (α : Type) where
  task : TaskId
  result : Option α
  calls : List Nat
  tokens : List Bool

end Resilience
