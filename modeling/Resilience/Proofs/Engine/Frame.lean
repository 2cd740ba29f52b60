import Resilience.Engine.Control
import Resilience.Proofs.Plan.Exchange

/-!
Frames: what the answers to requests leave as it is. Only requests to a breaker change a breaker or
the permit of a task, only requests to a bulkhead change a bulkhead or the place of a task, and no
answer changes how far a task has come.
-/

namespace Resilience

theorem Reply.eq_of_given {ρ σ : Type} {answered : ρ × σ} {answer : ρ} {after : σ}
    (given : Reply.given answered = (.now answer, after)) : answered = (answer, after) := by
  cases given
  rfl

/-- What only breakers and the schedule change of a task. -/
def Task.core {α : Type} (task : Task α) : OperationId × Option Permit × Progress α :=
  (task.operation, task.permit, task.progress)

structure Holding (α : Type) where
  operation : OperationId
  place : Option Place
  permit : Option Permit
  progress : Progress α

def Holding.core {α : Type} (holding : Holding α) : OperationId × Option Permit × Progress α :=
  (holding.operation, holding.permit, holding.progress)

def Holding.isRunning {α : Type} (holding : Holding α) : Bool :=
  match holding.progress with
  | .suspended .. => true
  | .finished _ | .crashed => false

theorem Holding.isRunning_of_suspended {α : Type} (holding : Holding α) {plan : Plan α}
    {wait : Wait} (suspended : holding.progress = .suspended plan wait) :
    holding.isRunning = true := by
  unfold isRunning
  rw [suspended]

def Task.holding {α : Type} (task : Task α) : Holding α :=
  ⟨task.operation, task.place, task.permit, task.progress⟩

/-- Whether a task persists: what it was started with stays, and so does a token that has fired. -/
structure Task.Persists {α : Type} (before after : Task α) : Prop where
  operation : after.operation = before.operation
  input : after.input = before.input
  service : after.service = before.service
  linked : after.linked = before.linked
  cancelled : before.cancelled = true → after.cancelled = true

structure Task.Lasts {α : Type} (before after : Task α) : Prop
    extends before.Persists after where
  place : after.place = before.place
  permit : after.permit = before.permit
  progress : after.progress = before.progress

structure Sink.Lasts (before after : Sink) : Prop where
  store : after.store = before.store
  ready : after.ready = before.ready
  stallOn : after.stallOn = before.stallOn

namespace Task

variable {α : Type} {before middle after : Task α}

theorem Persists.refl (task : Task α) : task.Persists task := ⟨rfl, rfl, rfl, rfl, id⟩

theorem Persists.trans (first : before.Persists middle) (second : middle.Persists after) :
    before.Persists after where
  operation := second.operation.trans first.operation
  input := second.input.trans first.input
  service := second.service.trans first.service
  linked := second.linked.trans first.linked
  cancelled := second.cancelled ∘ first.cancelled

theorem Lasts.refl (task : Task α) : task.Lasts task := ⟨.refl task, rfl, rfl, rfl⟩

theorem Lasts.trans (first : before.Lasts middle) (second : middle.Lasts after) :
    before.Lasts after where
  toPersists := first.toPersists.trans second.toPersists
  place := second.place.trans first.place
  permit := second.permit.trans first.permit
  progress := second.progress.trans first.progress

theorem Lasts.holding_eq (lasts : before.Lasts after) : after.holding = before.holding := by
  unfold holding
  rw [lasts.operation, lasts.place, lasts.permit, lasts.progress]

theorem cancel_lasts (task : Task α) : task.Lasts task.cancel where
  toPersists := ⟨rfl, rfl, rfl, rfl, fun fired => by simp [cancel, fired]⟩
  place := rfl
  permit := rfl
  progress := rfl

theorem expire_lasts (task : Task α) : task.Lasts task.expire := by
  unfold expire
  split
  · exact .refl task
  · exact ⟨⟨rfl, rfl, rfl, rfl, id⟩, rfl, rfl, rfl⟩

end Task

theorem Sink.Lasts.refl (sink : Sink) : sink.Lasts sink := ⟨rfl, rfl, rfl⟩

theorem Sink.Lasts.trans {before middle after : Sink} (first : before.Lasts middle)
    (second : middle.Lasts after) : before.Lasts after where
  store := second.store.trans first.store
  ready := second.ready.trans first.ready
  stallOn := second.stallOn.trans first.stallOn

namespace Engine

variable {α : Type}

def circuit (engine : Engine α) (operation : OperationId) : Breaker :=
  (engine.stateOf operation).breaker

def hall (engine : Engine α) (operation : OperationId) : List Bulkhead :=
  (engine.stateOf operation).bulkheads

def core? (engine : Engine α) (id : TaskId) :
    Option (OperationId × Option Permit × Progress α) :=
  (engine.tasks.get? id).map Task.core

def holding? (engine : Engine α) (id : TaskId) : Option (Holding α) :=
  (engine.tasks.get? id).map Task.holding

theorem core?_eq (engine : Engine α) (id : TaskId) :
    engine.core? id = (engine.holding? id).map Holding.core := by
  unfold core? holding?
  rw [Option.map_map]
  rfl

/-- Whether a change of an engine concerns no breaker. -/
structure Keeps (before after : Engine α) : Prop where
  circuit : ∀ operation, after.circuit operation = before.circuit operation
  tasks : ∀ id, after.core? id = before.core? id
  nextTask : after.nextTask = before.nextTask

/-- Whether a change of an engine concerns neither a breaker nor a bulkhead. -/
structure Retains (before after : Engine α) : Prop where
  circuit : ∀ operation, after.circuit operation = before.circuit operation
  hall : ∀ operation, after.hall operation = before.hall operation
  tasks : ∀ id, after.holding? id = before.holding? id
  nextTask : after.nextTask = before.nextTask

structure Touches (before after : Engine α) : Prop where
  states : ∀ operation, after.stateOf operation = before.stateOf operation
  tasks : ∀ id, Option.Rel Task.Lasts (before.tasks.get? id) (after.tasks.get? id)
  nextTask : after.nextTask = before.nextTask
  sink : before.sink.Lasts after.sink

variable {engine before middle after : Engine α} {id : TaskId}

namespace Keeps

theorem refl (engine : Engine α) : engine.Keeps engine :=
  ⟨fun _ => rfl, fun _ => rfl, rfl⟩

theorem trans (first : before.Keeps middle) (second : middle.Keeps after) :
    before.Keeps after where
  circuit operation := (second.circuit operation).trans (first.circuit operation)
  tasks id := (second.tasks id).trans (first.tasks id)
  nextTask := second.nextTask.trans first.nextTask

end Keeps

namespace Retains

theorem refl (engine : Engine α) : engine.Retains engine :=
  ⟨fun _ => rfl, fun _ => rfl, fun _ => rfl, rfl⟩

theorem trans (first : before.Retains middle) (second : middle.Retains after) :
    before.Retains after where
  circuit operation := (second.circuit operation).trans (first.circuit operation)
  hall operation := (second.hall operation).trans (first.hall operation)
  tasks id := (second.tasks id).trans (first.tasks id)
  nextTask := second.nextTask.trans first.nextTask

theorem symm (retains : before.Retains after) : after.Retains before where
  circuit operation := (retains.circuit operation).symm
  hall operation := (retains.hall operation).symm
  tasks id := (retains.tasks id).symm
  nextTask := retains.nextTask.symm

theorem keeps (retains : before.Retains after) : before.Keeps after where
  circuit := retains.circuit
  tasks id := by rw [core?_eq, core?_eq, retains.tasks]
  nextTask := retains.nextTask

/-- What leaves the tables of an engine alone concerns nothing that they hold. -/
theorem tables {final : Engine α} (retains : before.Retains after)
    (operations : final.operations = after.operations) (tasks : final.tasks = after.tasks)
    (nextTask : final.nextTask = after.nextTask) : before.Retains final := by
  refine retains.trans ⟨fun operation => ?_, fun operation => ?_, fun id => ?_, nextTask⟩
  · unfold Engine.circuit stateOf
    rw [operations]
  · unfold Engine.hall stateOf
    rw [operations]
  · unfold holding?
    rw [tasks]

end Retains

theorem stateOf_setState (engine : Engine α) (operation other : OperationId)
    (state : OperationState) :
    (engine.setState operation state).stateOf other =
      if operation = other then state else engine.stateOf other := by
  unfold setState stateOf
  rw [Table.get?_set]
  split <;> rfl

theorem circuit_setState (engine : Engine α) (operation other : OperationId)
    (state : OperationState) :
    (engine.setState operation state).circuit other =
      if operation = other then state.breaker else engine.circuit other := by
  unfold circuit
  rw [stateOf_setState]
  split <;> rfl

theorem hall_setState (engine : Engine α) (operation other : OperationId)
    (state : OperationState) :
    (engine.setState operation state).hall other =
      if operation = other then state.bulkheads else engine.hall other := by
  unfold hall
  rw [stateOf_setState]
  split <;> rfl

theorem get?_modifyTask (engine : Engine α) (id other : TaskId) (change : Task α → Task α) :
    (engine.modifyTask id change).tasks.get? other =
      if id = other then (engine.tasks.get? other).map change else engine.tasks.get? other :=
  Table.get?_modify _ _ _ _

theorem holding?_modifyTask (engine : Engine α) (id other : TaskId) (change : Task α → Task α) :
    (engine.modifyTask id change).holding? other =
      if id = other then (engine.tasks.get? other).map fun task => (change task).holding
      else engine.holding? other := by
  unfold holding?
  rw [get?_modifyTask]
  split
  · exact Option.map_map _ _ _
  · rfl

theorem restate (engine : Engine α) (operation other : OperationId) :
    (engine.setState operation (engine.stateOf operation)).stateOf other =
      engine.stateOf other := by
  rw [stateOf_setState]
  split
  next same => rw [same]
  next => rfl

namespace Touches

theorem refl (engine : Engine α) : engine.Touches engine where
  states _ := rfl
  tasks id := by
    cases engine.tasks.get? id with
    | none => exact .none
    | some task => exact .some (.refl task)
  nextTask := rfl
  sink := .refl _

theorem trans (first : before.Touches middle) (second : middle.Touches after) :
    before.Touches after where
  states operation := (second.states operation).trans (first.states operation)
  tasks id := by
    have one := first.tasks id
    have two := second.tasks id
    generalize before.tasks.get? id = old, middle.tasks.get? id = between,
      after.tasks.get? id = new at one two
    cases one with
    | none =>
      cases two
      exact .none
    | some one =>
      cases two with
      | some two => exact .some (one.trans two)
  nextTask := second.nextTask.trans first.nextTask
  sink := first.sink.trans second.sink

theorem retains (touches : before.Touches after) : before.Retains after where
  circuit operation := congrArg OperationState.breaker (touches.states operation)
  hall operation := congrArg OperationState.bulkheads (touches.states operation)
  tasks id := by
    unfold holding?
    have lasts := touches.tasks id
    generalize before.tasks.get? id = old, after.tasks.get? id = new at lasts
    cases lasts with
    | none => rfl
    | some lasts => exact congrArg some lasts.holding_eq
  nextTask := touches.nextTask

theorem tables {final : Engine α} (touches : before.Touches after)
    (operations : final.operations = after.operations) (tasks : final.tasks = after.tasks)
    (nextTask : final.nextTask = after.nextTask) (sink : after.sink.Lasts final.sink) :
    before.Touches final := by
  refine touches.trans ⟨fun operation => ?_, fun id => ?_, nextTask, sink⟩
  · unfold stateOf
    rw [operations]
  · rw [tasks]
    exact (refl after).tasks id

theorem modifyTask {change : Task α → Task α} (touches : before.Touches after)
    (lasts : ∀ task : Task α, task.Lasts (change task)) :
    before.Touches (after.modifyTask id change) := by
  refine touches.trans ⟨fun _ => rfl, fun other => ?_, rfl, .refl _⟩
  rw [get?_modifyTask]
  split
  · cases after.tasks.get? other with
    | none => exact .none
    | some task => exact .some (lasts task)
  · exact (refl after).tasks other

theorem write (touches : before.Touches after) (lines : List LogLine) :
    before.Touches (after.write lines) :=
  touches.tables rfl rfl rfl (.refl _)

theorem wake (touches : before.Touches after) (id : TaskId) : before.Touches (after.wake id) := by
  unfold Engine.wake
  split
  · exact touches.tables rfl rfl rfl (.refl _)
  · split
    · exact touches
    · exact touches.tables rfl rfl rfl (.refl _)

theorem wakeAll (touches : before.Touches after) (ids : List TaskId) :
    before.Touches (after.wakeAll ids) := by
  induction ids generalizing after with
  | nil => exact touches
  | cons id rest inductionHypothesis => exact inductionHypothesis (touches.wake id)

theorem endWait (touches : before.Touches after) : before.Touches after.endWait :=
  touches.tables rfl rfl rfl (.refl _)

theorem setAside (touches : before.Touches after) (id : TaskId) :
    before.Touches (after.setAside id) :=
  touches.tables rfl rfl rfl (.refl _)

theorem keepTimer (touches : before.Touches after) (duration : Duration) (timer : Option Timer) :
    before.Touches (after.keepTimer duration timer).2 := by
  cases timer with
  | none => exact touches.tables rfl rfl rfl (.refl _)
  | some timer => exact touches

theorem changeGate (touches : before.Touches after) (change : Slots → Slots) :
    before.Touches (after.changeGate change) := by
  refine .wakeAll (.tables touches ?_ ?_ ?_ ⟨?_, ?_, ?_⟩) _ <;> rfl

theorem fireToken (touches : before.Touches after) (id : TaskId) :
    before.Touches (after.fireToken id) := by
  unfold Engine.fireToken
  split
  · split
    · exact .wake (.modifyTask touches Task.cancel_lasts) id
    · exact touches
  · exact touches

theorem cancel (touches : before.Touches after) (id : TaskId) :
    before.Touches (after.cancel id) := by
  unfold Engine.cancel
  split
  · have cancelled : before.Touches (after.modifyTask id Task.cancel) :=
      touches.modifyTask Task.cancel_lasts
    simp only
    split
    · exact cancelled.wake id
    · exact cancelled
  · exact touches

theorem openGate (touches : before.Touches after) (id : TaskId) (permits : Nat) :
    before.Touches (after.openGate id permits) := by
  unfold Engine.openGate
  split
  · have opened : before.Touches (after.modifyTask id fun task =>
        { task with gate := task.gate + permits }) :=
      touches.modifyTask fun _ => ⟨⟨rfl, rfl, rfl, rfl, fun fired => fired⟩, rfl, rfl, rfl⟩
    simp only
    split
    · exact opened.wake id
    · exact opened
  · exact touches

theorem changeRegistry (touches : before.Touches after) (accepted refused : List LogLine)
    (result : Except PolicyError (Policy × Registry)) :
    before.Touches (after.changeRegistry accepted refused result).2 := by
  cases result <;> exact touches.tables rfl rfl rfl (.refl _)

theorem act (touches : before.Touches after) (id : TaskId) (actions : List Action)
    (timer : Option Timer) : before.Touches (after.act id actions timer).2 := by
  induction actions generalizing after timer with
  | nil => exact touches
  | cons action rest inductionHypothesis =>
    cases action with
    | cancelCaller => exact inductionHypothesis (touches.fireToken id) none
    | advanceClock millis =>
      refine inductionHypothesis (touches.tables ?_ ?_ ?_ ⟨?_, ?_, ?_⟩) none <;> rfl
    | sleep millis =>
      unfold Engine.act
      split
      · exact touches.setAside id
      · have timed := touches.keepTimer (.ofMillis millis) timer
        simp only
        split
        · exact inductionHypothesis timed.endWait none
        · exact timed
    | awaitGate =>
      unfold Engine.act
      split
      · exact touches.setAside id
      · split
        · split
          · refine inductionHypothesis (.endWait (.modifyTask touches ?_)) none
            intro _
            exact ⟨⟨rfl, rfl, rfl, rfl, fun fired => fired⟩, rfl, rfl, rfl⟩
          · exact touches
        · exact touches
    | crash => exact touches

theorem passGate (touches : before.Touches after) (id : TaskId) :
    before.Touches (after.passGate id).2 := by
  unfold Engine.passGate
  split
  · exact touches.setAside id
  · split
    · exact (touches.changeGate _).endWait
    · split
      · exact touches
      · split
        · exact (touches.changeGate _).endWait
        · exact touches.changeGate (·.join id)

theorem proceed (touches : before.Touches after) (id : TaskId) (limit : Option Duration)
    (rest : Behaviour Fault) (timer : Option Timer) (started : Nat) (deadline : Option Timer) :
    before.Touches (after.proceed id limit rest timer started deadline).2 := by
  have acted := touches.act id rest.actions timer
  unfold Engine.proceed
  generalize after.act id rest.actions timer = acts at acted ⊢
  rcases acts with ⟨halt, final⟩
  cases halt with
  | finished => exact acted
  | crashed => exact acted
  | waiting actions timer =>
    simp only
    split
    · exact acted
    next limit =>
      have timed := acted.keepTimer limit deadline
      split
      · exact .modifyTask timed.endWait Task.expire_lasts
      · exact timed

theorem attempt (touches : before.Touches after) (id : TaskId) (task : Task α) (number : Nat)
    (limit : Option Duration) (heedsCaller : Bool) (wait : Wait) :
    before.Touches (after.attempt id task number limit heedsCaller wait).2 := by
  unfold Engine.attempt
  split
  · exact touches.setAside id
  · split
    · exact touches
    · split
      · exact touches.proceed id limit _ _ _ _
      · split
        · exact touches
        · refine .proceed (.modifyTask touches ?_) id limit _ _ _ _
          intro _
          exact ⟨⟨rfl, rfl, rfl, rfl, fun fired => fired⟩, rfl, rfl, rfl⟩

theorem proceedPause (touches : before.Touches after) (id : TaskId) (task : Task α)
    (delay : Duration) (timer : Option Timer) :
    before.Touches (after.proceedPause id task delay timer).2 := by
  unfold Engine.proceedPause
  split
  · exact touches.setAside id
  · split
    · exact touches
    · split
      · exact touches
      · exact touches
      · have timed := touches.keepTimer delay timer
        simp only
        split
        · exact timed.endWait
        · exact timed

theorem pause (touches : before.Touches after) (id : TaskId) (task : Task α) (delay : Duration)
    (wait : Wait) : before.Touches (after.pause id task delay wait).2 := by
  unfold Engine.pause
  split
  · exact touches.proceedPause id task delay _
  · refine .proceedPause ?_ id task delay none
    split <;> exact touches.tables rfl rfl rfl (.refl _)

theorem proceedHandler (touches : before.Touches after) (id : TaskId) (rest : Behaviour Failure)
    (timer : Option Timer) : before.Touches (after.proceedHandler id rest timer).2 := by
  have acted := touches.act id rest.actions timer
  unfold Engine.proceedHandler
  generalize after.act id rest.actions timer = acts at acted ⊢
  rcases acts with ⟨halt, final⟩
  cases halt <;> exact acted

theorem handle (touches : before.Touches after) (id : TaskId) (task : Task α) (name : String)
    (fault : Fault) (wait : Wait) : before.Touches (after.handle id task name fault wait).2 := by
  unfold Engine.handle
  split
  · exact touches.proceedHandler id _ _
  · split
    · exact touches.proceedHandler id _ none
    · exact touches

theorem resolve (touches : before.Touches after) (operation : OperationId) :
    before.Touches (after.resolve operation).2 := by
  unfold Engine.resolve
  split
  · refine touches.trans ⟨restate after operation, (refl after).tasks, rfl, .refl _⟩
  · exact touches

end Touches

namespace Retains

theorem setState {operation : OperationId} {state : OperationState}
    (retains : before.Retains after) (circuit : state.breaker = after.circuit operation)
    (hall : state.bulkheads = after.hall operation) :
    before.Retains (after.setState operation state) := by
  refine retains.trans ⟨?_, ?_, fun _ => rfl, rfl⟩
  · intro other
    rw [circuit_setState]
    split
    next found => rw [circuit, found]
    next => rfl
  · intro other
    rw [hall_setState]
    split
    next found => rw [hall, found]
    next => rfl

theorem send (retains : before.Retains after) (id : TaskId) (occurrence : OperationEvent)
    (wait : Wait) : before.Retains (after.send id occurrence wait).2 := by
  unfold Engine.send
  split
  · exact retains.trans ((Touches.refl after).passGate id).retains
  · split
    · exact retains
    · have recorded : before.Retains ({ after with sink := after.sink.record occurrence }.write
          (after.sink.recordLines occurrence)) := by
        refine retains.tables ?_ ?_ ?_ <;> rfl
      simp only
      split
      · exact recorded.trans ((Touches.refl _).passGate id).retains
      · exact recorded

end Retains

/-- Requests that concern neither a breaker nor a bulkhead change nothing that they hold. -/
theorem answer_retains (engine : Engine α) (id : TaskId) (task : Task α) {request : Request}
    (offBreaker : request.OffBreaker) (offBulkhead : request.OffBulkhead) (wait : Wait) :
    engine.Retains (engine.answer id task request wait).2 := by
  have same := Retains.refl engine
  have touches := Touches.refl engine
  cases request with
  | clock => exact same
  | time => exact same
  | emit event => exact same.send id _ wait
  | log line => exact (touches.write [line]).retains
  | count counter amount => exact same.setState rfl rfl
  | resolve => exact (touches.resolve task.operation).retains
  | enterBulkhead policy => exact offBulkhead.elim
  | awaitSlot => exact offBulkhead.elim
  | bulkheadLoad => exact same
  | leaveBulkhead => exact offBulkhead.elim
  | acquirePermit rule => exact offBreaker.elim
  | recordSample rule failed => exact offBreaker.elim
  | dropPermit => exact offBreaker.elim
  | attempt number limit heedsCaller =>
    exact (touches.attempt id task number limit heedsCaller wait).retains
  | pause delay => exact (touches.pause id task delay wait).retains
  | jitter bound delay => exact same.tables rfl rfl rfl
  | strategy name => exact same
  | handle name fault => exact (touches.handle id task name fault wait).retains

end Engine

end Resilience
