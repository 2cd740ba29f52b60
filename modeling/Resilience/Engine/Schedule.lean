import Resilience.Engine.Answer

/-!
The schedule: tasks go on one at a time, in the order in which they were woken, each until it has
to wait or its stint is used up. Those who used up their stints go on in the next round, the latest
one first; a round ends when no task can go on, and after a fixed number of stints. Virtual time
moves only when no task can go on, to the next timer.
-/

namespace Resilience.Engine

variable {α : Type}

/-- Ends a task with a result, or without one. Whatever it still holds is given back. -/
def finish (engine : Engine α) (id : TaskId) (result : Option α) : Engine α :=
  match engine.tasks.get? id with
  | none => engine
  | some task =>
    let engine := (engine.release id task).modifyTask id fun task =>
      { task with progress := match result with
          | some result => .finished result
          | none => .crashed }
    let completion := ⟨id, result, task.callNumbers, task.callTokens⟩
    { engine with
      journal := { engine.journal with
        completions := engine.journal.completions ++ [completion] } }

def suspend (engine : Engine α) (id : TaskId) (plan : Plan α) (wait : Wait) : Engine α :=
  engine.modifyTask id fun task => { task with progress := .suspended plan wait }

/-- Goes on with the plan of a task until it has to wait or ends. -/
def run (engine : Engine α) (id : TaskId) : Plan α → Wait → Engine α
  | .done result, _ => engine.finish id (some result)
  | .ask request next, wait =>
    match engine.tasks.get? id with
    | none => engine
    | some task =>
      match engine.answer id task request wait with
      | (.now answer, engine) => engine.run id (next answer) .unbegun
      | (.later wait, engine) => engine.suspend id (.ask request next) wait
      | (.crash, engine) => engine.finish id none

def poll (engine : Engine α) (id : TaskId) : Engine α :=
  match engine.tasks.get? id with
  | some { progress := .suspended plan wait, .. } => engine.run id plan wait
  | _ => engine

/-- Gives a task a stint. A task that was woken in its stint gets another one after all that are
ready. -/
def work (engine : Engine α) (id : TaskId) : Engine α :=
  let engine := { engine with stint := .start id, stints := engine.stints + 1 }.poll id
  let woken := engine.stint.woken
  let engine := { engine with stint := {} }
  if woken && engine.isRunning id then engine.wake id else engine

def roundLength : Nat := 61

def nextRound (engine : Engine α) : Engine α :=
  { engine with aside := [], stints := 0 }.wakeAll (engine.aside.filter engine.isRunning)

/-- Lets tasks go on until all of them wait. The number bounds how often. -/
def settle (engine : Engine α) : (turns : Nat) → Engine α
  | 0 => engine
  | turns + 1 =>
    match engine.ready with
    | [] => if engine.aside = [] then engine.nextRound else engine.nextRound.settle turns
    | id :: rest =>
      if engine.stints = roundLength then engine.nextRound.settle turns
      else ({ engine with ready := rest }.work id).settle turns

def timers (engine : Engine α) : List (Timer × TaskId) :=
  engine.tasks.entries.flatMap fun (id, task) => task.timers.map fun timer => (timer, id)

def nextDue? (engine : Engine α) : Option Nat := (engine.timers.map fun entry => entry.1.due).min?

/-- Moves the virtual time on and fires the timers that are due by then. -/
def moveTo (engine : Engine α) (moment : Nat) : Engine α :=
  let due := (engine.timers.filter fun entry => entry.1.due ≤ moment).mergeSort
    fun a b => a.1.before b.1
  { engine with now := moment }.wakeAll (due.map Prod.snd)

/-- Runs tasks and lets time pass until a condition holds or nothing can happen any more. The
numbers bound how often tasks go on at one moment, and the moments. -/
def runUntil (engine : Engine α) (stop : Engine α → Bool) (turns : Nat) :
    (moments : Nat) → Engine α
  | 0 => engine
  | moments + 1 =>
    let engine := engine.settle turns
    if stop engine then engine
    else
      match engine.nextDue? with
      | some due => (engine.moveTo due).runUntil stop turns moments
      | none => engine

def runTo (engine : Engine α) (moment turns : Nat) : (moments : Nat) → Engine α
  | 0 => engine
  | moments + 1 =>
    let engine := engine.settle turns
    match engine.nextDue? with
    | some due =>
      if due ≤ moment then (engine.moveTo due).runTo moment turns moments
      else (engine.moveTo moment).settle turns
    | none => (engine.moveTo moment).settle turns

end Resilience.Engine
