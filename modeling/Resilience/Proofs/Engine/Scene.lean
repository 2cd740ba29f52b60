import Resilience.Proofs.Engine.Frame
import Resilience.Proofs.Invocation.Refitting

/-!
Scenes: what an invocation can notice of an engine, apart from the policies and the fallback
handlers. What it is answered depends on the scene, on its own task and on its stint only, so it is
answered the same wherever these look the same.
-/

namespace Resilience

/-- Counters without what was counted of answers. -/
def Metrics.cleared (metrics : Metrics) : Metrics :=
  ⟨fun counter => if counter.isClosing then 0 else metrics.count counter⟩

theorem Metrics.cleared_add (metrics : Metrics) (counter : Counter) (amount : Nat) :
    (metrics.add counter amount).cleared =
      if counter.isClosing then metrics.cleared else metrics.cleared.add counter amount := by
  have added (other : Counter) : (metrics.add counter amount).cleared.count other =
      if other.isClosing then 0
      else if other = counter then metrics.count other + amount else metrics.count other := rfl
  split
  next closing =>
    refine congrArg Metrics.mk (funext fun other => (added other).trans ?_)
    split
    · rfl
    next remains =>
      rw [if_neg]
      rintro rfl
      exact remains closing
  next remains =>
    refine congrArg Metrics.mk (funext fun other => (added other).trans ?_)
    show _ = if other = counter then metrics.cleared.count other + amount
      else metrics.cleared.count other
    unfold cleared
    by_cases closing : other.isClosing = true
    · have differs : other ≠ counter := by
        rintro rfl
        exact remains closing
      simp [closing, differs]
    · simp [closing]

namespace OperationState

def cleared (state : OperationState) : OperationState :=
  { state with metrics := state.metrics.cleared }

theorem cleared_initial : ({} : OperationState).cleared = {} := by
  have nothing : Metrics.cleared {} = {} := congrArg Metrics.mk (funext fun _ => ite_self 0)
  unfold cleared
  rw [nothing]

theorem cleared_count (state : OperationState) (counter : Counter) (amount : Nat) :
    (state.count counter amount).cleared =
      if counter.isClosing then state.cleared else state.cleared.count counter amount := by
  show ({ state with metrics := (state.metrics.add counter amount).cleared } : OperationState) = _
  rw [Metrics.cleared_add]
  split <;> rfl

end OperationState

/-- What an invocation can notice of an engine. -/
structure Scene where
  /-- The states of the operations that were invoked, without what was counted of answers. -/
  states : OperationId → Option OperationState
  strategies : Table String Strategy
  clockKind : ClockKind
  sleeper : Sleeper
  manualClock : ManualClock
  now : Nat
  words : WordSource
  /-- Whether the sink takes events, which of them it holds up, and the gate at which it does. -/
  takesEvents : Bool
  stallOn : Option String
  gate : Slots
  nextTask : TaskId

namespace Scene

def set (scene : Scene) (operation : OperationId) (state : OperationState) : Scene :=
  { scene with states := fun other =>
      if operation = other then some state else scene.states other }

def modify (scene : Scene) (operation : OperationId) (change : OperationState → OperationState) :
    Scene :=
  { scene with states := fun other =>
      if operation = other then (scene.states other).map change else scene.states other }

end Scene

def Task.bare {α : Type} (task : Task α) : Task α := { task with progress := .crashed }

def Timer.bare (timer : Timer) : Timer := { timer with stamp := 0 }

def Wait.bare : Wait → Wait
  | unbegun => unbegun
  | slot => slot
  | delivery => delivery
  | pause timer => pause (timer.map Timer.bare)
  | handler rest timer => handler rest (timer.map Timer.bare)
  | attempt rest timer started deadline =>
    attempt rest (timer.map Timer.bare) started (deadline.map Timer.bare)

def Reply.bare {ρ : Type} : Reply ρ → Reply ρ
  | now answer => now answer
  | later wait => later wait.bare
  | crash => crash

def Halt.bare : Halt → Halt
  | finished => finished
  | waiting actions timer => waiting actions (timer.map Timer.bare)
  | crashed => crashed

structure View (α : Type) where
  scene : Scene
  /-- How many more waits may be over. -/
  left : Nat
  task : Option (Task α)

namespace View

variable {α : Type}

def setState (view : View α) (operation : OperationId) (state : OperationState) : View α :=
  { view with scene := view.scene.set operation state }

def modifyTask (view : View α) (change : Task α → Task α) : View α :=
  { view with task := view.task.map fun task => (change task).bare }

def endWait (view : View α) : View α := { view with left := view.left - 1 }

end View

namespace Engine

variable {α : Type}

def scene (engine : Engine α) : Scene where
  states operation := (engine.operations.get? operation).map OperationState.cleared
  strategies := engine.strategies
  clockKind := engine.clockKind
  sleeper := engine.sleeper
  manualClock := engine.manualClock
  now := engine.now
  words := engine.words
  takesEvents := engine.sink.ready
  stallOn := engine.sink.stallOn
  gate := engine.sink.gate
  nextTask := engine.nextTask

def view (engine : Engine α) (id : TaskId) : View α where
  scene := engine.scene
  left := engine.stint.left
  task := (engine.tasks.get? id).map Task.bare

def shown {ρ : Type} (id : TaskId) (replied : Reply ρ × Engine α) : Reply ρ × View α :=
  (replied.1.bare, replied.2.view id)

section Scene

variable (engine : Engine α) (id other : TaskId)

@[simp] theorem scene_write (lines : List LogLine) : (engine.write lines).scene = engine.scene :=
  rfl

@[simp] theorem scene_modifyTask (change : Task α → Task α) :
    (engine.modifyTask id change).scene = engine.scene := rfl

@[simp] theorem scene_wake : (engine.wake id).scene = engine.scene := by
  unfold wake
  split
  · rfl
  · split <;> rfl

@[simp] theorem scene_wakeAll (ids : List TaskId) : (engine.wakeAll ids).scene = engine.scene := by
  unfold wakeAll
  induction ids generalizing engine with
  | nil => rfl
  | cons id rest inductionHypothesis =>
    rw [List.foldl_cons, inductionHypothesis, scene_wake]

@[simp] theorem scene_keepTimer (duration : Duration) (timer : Option Timer) :
    (engine.keepTimer duration timer).2.scene = engine.scene := by
  cases timer <;> rfl

@[simp] theorem scene_fireToken : (engine.fireToken id).scene = engine.scene := by
  unfold fireToken
  split
  · split
    · rw [scene_wake, scene_modifyTask]
    · rfl
  · rfl

@[simp] theorem scene_setState (operation : OperationId) (state : OperationState) :
    (engine.setState operation state).scene = engine.scene.set operation state.cleared := by
  refine congrArg (fun states => { engine.scene with states }) (funext fun each => ?_)
  show ((engine.operations.set operation state).get? each).map OperationState.cleared = _
  rw [Table.get?_set]
  split <;> rfl

@[simp] theorem scene_changeGate (change : Slots → Slots) :
    (engine.changeGate change).scene = { engine.scene with gate := change engine.scene.gate } :=
  scene_wakeAll { engine with sink := { engine.sink with gate := change engine.sink.gate } } _

theorem stateOf_cleared (operation : OperationId) :
    (engine.stateOf operation).cleared = (engine.scene.states operation).getD {} := by
  show _ = ((engine.operations.get? operation).map OperationState.cleared).getD {}
  unfold stateOf
  cases engine.operations.get? operation with
  | none => exact OperationState.cleared_initial
  | some state => rfl

theorem modify_of_absent {operation : OperationId} {index : Nat}
    (absent : (engine.stateOf operation).bulkheads[index]? = none)
    (change : Bulkhead → Bulkhead) :
    engine.scene.modify operation (·.modifyBulkhead index change) = engine.scene := by
  refine congrArg (fun states => { engine.scene with states }) (funext fun each => ?_)
  split
  next here =>
    subst here
    show ((engine.operations.get? operation).map OperationState.cleared).map _ =
      (engine.operations.get? operation).map OperationState.cleared
    unfold stateOf at absent
    cases known : engine.operations.get? operation with
    | none => rfl
    | some state =>
      rw [known] at absent
      refine congrArg (fun bulkheads => some { state.cleared with bulkheads }) ?_
      exact List.modify_eq_self (List.getElem?_eq_none_iff.mp absent)
  next => rfl

theorem modify_of_present {operation : OperationId} {index : Nat} {bulkhead : Bulkhead}
    (present : (engine.stateOf operation).bulkheads[index]? = some bulkhead)
    (change : Bulkhead → Bulkhead) :
    engine.scene.modify operation (·.modifyBulkhead index change) =
      engine.scene.set operation
        ((engine.stateOf operation).modifyBulkhead index change).cleared := by
  refine congrArg (fun states => { engine.scene with states }) (funext fun each => ?_)
  split
  next here =>
    subst here
    show ((engine.operations.get? operation).map OperationState.cleared).map _ = _
    unfold stateOf at present ⊢
    cases known : engine.operations.get? operation with
    | none =>
      rw [known] at present
      cases present
    | some state => rfl
  next => rfl

@[simp] theorem scene_changeBulkhead (operation : OperationId) (index : Nat)
    (change : Bulkhead → Bulkhead) :
    (engine.changeBulkhead operation index change).scene =
      engine.scene.modify operation (·.modifyBulkhead index change) := by
  unfold changeBulkhead
  simp only
  split
  next absent => exact (modify_of_absent engine absent change).symm
  next bulkhead present =>
    rw [scene_wakeAll, scene_setState]
    exact (modify_of_present engine present change).symm

@[simp] theorem view_write (lines : List LogLine) :
    (engine.write lines).view id = engine.view id := rfl

@[simp] theorem view_endWait : engine.endWait.view id = (engine.view id).endWait := rfl

@[simp] theorem view_wake : (engine.wake other).view id = engine.view id := by
  unfold wake
  split
  · rfl
  · split <;> rfl

@[simp] theorem view_wakeAll (ids : List TaskId) :
    (engine.wakeAll ids).view id = engine.view id := by
  unfold wakeAll
  induction ids generalizing engine with
  | nil => rfl
  | cons other rest inductionHypothesis =>
    rw [List.foldl_cons, inductionHypothesis, view_wake]

@[simp] theorem view_setState (operation : OperationId) (state : OperationState) :
    (engine.setState operation state).view id =
      (engine.view id).setState operation state.cleared :=
  congrArg (fun scene => { engine.view id with scene }) (scene_setState engine operation state)

@[simp] theorem view_changeGate (change : Slots → Slots) :
    (engine.changeGate change).view id =
      { engine.view id with scene := { engine.scene with gate := change engine.scene.gate } } :=
  view_wakeAll { engine with sink := { engine.sink with gate := change engine.sink.gate } } id _

@[simp] theorem view_changeBulkhead (operation : OperationId) (index : Nat)
    (change : Bulkhead → Bulkhead) :
    (engine.changeBulkhead operation index change).view id =
      { engine.view id with
        scene := engine.scene.modify operation (·.modifyBulkhead index change) } := by
  unfold changeBulkhead
  simp only
  split
  next absent =>
    rw [modify_of_absent engine absent]
    rfl
  next bulkhead present =>
    rw [view_wakeAll, view_setState, modify_of_present engine present]
    rfl

theorem view_modifyTask {change : Task α → Task α}
    (blind : ∀ task : Task α, (change task).bare = (change task.bare).bare) :
    (engine.modifyTask id change).view id = (engine.view id).modifyTask change := by
  refine congrArg (fun task => { engine.view id with task }) ?_
  rw [get?_modifyTask, if_pos rfl]
  show _ = ((engine.tasks.get? id).map Task.bare).map fun task => (change task).bare
  cases engine.tasks.get? id with
  | none => rfl
  | some task => exact congrArg some (blind task)

end Scene

end Engine

end Resilience
