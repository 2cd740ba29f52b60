import Resilience.Proofs.Bulkhead.Occupancy
import Resilience.Proofs.Engine.Frame

/-!
Holdings: what requests to a breaker or a bulkhead change, what becomes of a task that ends, and
that all this leaves other tasks alone.
-/

namespace Resilience

namespace Engine

variable {α : Type} {engine before middle after : Engine α} {id : TaskId}

def setCircuit (engine : Engine α) (operation : OperationId) (breaker : Breaker) : Engine α :=
  engine.setState operation { engine.stateOf operation with breaker }

def setPermit (engine : Engine α) (id : TaskId) (permit : Option Permit) : Engine α :=
  engine.modifyTask id fun task => { task with permit }

def setHall (engine : Engine α) (operation : OperationId) (bulkheads : List Bulkhead) : Engine α :=
  engine.setState operation { engine.stateOf operation with bulkheads }

def setPlace (engine : Engine α) (id : TaskId) (place : Option Place) : Engine α :=
  engine.modifyTask id fun task => { task with place }

def setProgress (engine : Engine α) (id : TaskId) (progress : Progress α) : Engine α :=
  engine.modifyTask id fun task => { task with progress }

theorem circuit_setCircuit (engine : Engine α) (operation other : OperationId)
    (breaker : Breaker) :
    (engine.setCircuit operation breaker).circuit other =
      if operation = other then breaker else engine.circuit other :=
  circuit_setState _ _ _ _

theorem hall_setCircuit (engine : Engine α) (operation other : OperationId) (breaker : Breaker) :
    (engine.setCircuit operation breaker).hall other = engine.hall other := by
  unfold setCircuit
  rw [hall_setState]
  split
  next same => rw [← same, hall]
  next => rfl

theorem circuit_setPermit (engine : Engine α) (id : TaskId) (permit : Option Permit)
    (operation : OperationId) : (engine.setPermit id permit).circuit operation =
      engine.circuit operation :=
  rfl

theorem holding?_setPermit (engine : Engine α) (id other : TaskId) (permit : Option Permit) :
    (engine.setPermit id permit).holding? other =
      if id = other then (engine.holding? other).map fun holding => { holding with permit }
      else engine.holding? other := by
  unfold setPermit
  rw [holding?_modifyTask, holding?, Option.map_map]
  rfl

theorem hall_setHall (engine : Engine α) (operation other : OperationId)
    (bulkheads : List Bulkhead) :
    (engine.setHall operation bulkheads).hall other =
      if operation = other then bulkheads else engine.hall other :=
  hall_setState _ _ _ _

theorem circuit_setHall (engine : Engine α) (operation other : OperationId)
    (bulkheads : List Bulkhead) :
    (engine.setHall operation bulkheads).circuit other = engine.circuit other := by
  unfold setHall
  rw [circuit_setState]
  split
  next same => rw [← same, circuit]
  next => rfl

theorem holding?_setPlace (engine : Engine α) (id other : TaskId) (place : Option Place) :
    (engine.setPlace id place).holding? other =
      if id = other then (engine.holding? other).map fun holding => { holding with place }
      else engine.holding? other := by
  unfold setPlace
  rw [holding?_modifyTask, holding?, Option.map_map]
  rfl

theorem holding?_setProgress (engine : Engine α) (id other : TaskId) (progress : Progress α) :
    (engine.setProgress id progress).holding? other =
      if id = other then (engine.holding? other).map fun holding => { holding with progress }
      else engine.holding? other := by
  unfold setProgress
  rw [holding?_modifyTask, holding?, Option.map_map]
  rfl

theorem Retains.setHall (retains : before.Retains after) (operation : OperationId)
    (bulkheads : List Bulkhead) :
    Retains (before.setHall operation bulkheads) (after.setHall operation bulkheads) where
  circuit other := by rw [circuit_setHall, circuit_setHall, retains.circuit]
  hall other := by rw [hall_setHall, hall_setHall, retains.hall]
  tasks := retains.tasks
  nextTask := retains.nextTask

theorem Retains.setPlace (retains : before.Retains after) (id : TaskId) (place : Option Place) :
    Retains (before.setPlace id place) (after.setPlace id place) where
  circuit := retains.circuit
  hall := retains.hall
  tasks other := by rw [holding?_setPlace, holding?_setPlace, retains.tasks]
  nextTask := retains.nextTask

/-- A bulkhead that a change leaves alone stays, and with it all the others. -/
theorem modify_of_fixed {bulkheads : List Bulkhead} {index : Nat} {bulkhead : Bulkhead}
    {change : Bulkhead → Bulkhead} (found : bulkheads[index]? = some bulkhead)
    (fixed : change bulkhead = bulkhead) : bulkheads.modify index change = bulkheads := by
  apply List.ext_getElem?
  intro other
  rw [List.getElem?_modify]
  by_cases same : index = other
  · subst same
    simp [found, fixed]
  · simp [same]

theorem retains_setHall (engine : Engine α) (operation : OperationId) :
    Retains engine (engine.setHall operation (engine.hall operation)) :=
  (Retains.refl engine).setState rfl rfl

theorem retains_changeBulkhead (engine : Engine α) (operation : OperationId) (index : Nat)
    (change : Bulkhead → Bulkhead) :
    Retains (engine.setHall operation ((engine.hall operation).modify index change))
      (engine.changeBulkhead operation index change) := by
  unfold changeBulkhead
  simp only
  split
  next missing =>
    have same : (engine.hall operation).modify index change = engine.hall operation :=
      List.modify_eq_self (List.getElem?_eq_none_iff.mp missing)
    rw [same]
    exact (retains_setHall engine operation).symm
  next => exact ((Touches.refl _).wakeAll _).retains

theorem retains_leavePlace {task : Task α} {place : Place} (held : task.place = some place) :
    Retains ((engine.setHall task.operation
      ((engine.hall task.operation).modify place.bulkhead place.giveBack)).setPlace id none)
      (engine.leavePlace id task) := by
  unfold leavePlace
  rw [held]
  exact retains_changeBulkhead (engine.setPlace id none) task.operation place.bulkhead
    place.giveBack

theorem leavePlace_of_free {task : Task α} (free : task.place = none) :
    engine.leavePlace id task = engine := by
  unfold leavePlace
  rw [free]

theorem provide_cases (state : OperationState) (policy : BulkheadPolicy) :
    (state.provide policy).2.breaker = state.breaker ∧
      ((state.provide policy).2.bulkheads = state.bulkheads ∧ state.bulkheads ≠ [] ∨
        (state.provide policy).2.bulkheads = state.bulkheads ++ [.ofPolicy policy] ∧
          ∀ current, state.bulkheads.getLast? = some current → current.policy ≠ policy) ∧
      ∀ current, (state.provide policy).2.bulkheads.getLast? = some current →
        current.policy = policy := by
  have new (bulkheads : List Bulkhead) (current : Bulkhead)
      (last : (bulkheads ++ [Bulkhead.ofPolicy policy]).getLast? = some current) :
      current.policy = policy := by
    rw [List.getLast?_concat] at last
    exact Option.some.inj last ▸ rfl
  unfold OperationState.provide
  split
  next current last =>
    have some : state.bulkheads ≠ [] := by
      intro none
      rw [none] at last
      cases last
    split
    next same =>
      refine ⟨rfl, .inl ⟨rfl, some⟩, fun other latest => ?_⟩
      cases last.symm.trans latest
      exact same
    next differs =>
      refine ⟨rfl, .inr ⟨rfl, fun other latest => ?_⟩, new _⟩
      cases last.symm.trans latest
      exact differs
  next none =>
    refine ⟨rfl, .inr ⟨?_, fun other latest => ?_⟩, new []⟩
    · rw [List.getLast?_eq_none_iff.mp none]
      rfl
    · cases none.symm.trans latest

theorem retains_enterBulkhead (engine : Engine α) (id : TaskId) (task : Task α)
    (policy : BulkheadPolicy) :
    ∃ bulkheads index bulkhead,
      (bulkheads = engine.hall task.operation ∨
        bulkheads = engine.hall task.operation ++ [.ofPolicy policy] ∧
          ∀ current, (engine.hall task.operation).getLast? = some current →
            current.policy ≠ policy) ∧
      bulkheads[index]? = some bulkhead ∧ bulkhead.policy = policy ∧
      (engine.enterBulkhead id task policy).1.admission = bulkhead.enter.1 ∧
      Retains ((engine.setHall task.operation (bulkheads.modify index fun _ => bulkhead.enter.2)
        ).setPlace id (bulkhead.enter.1.place? index)) (engine.enterBulkhead id task policy).2 := by
  obtain ⟨circuit, cases, last⟩ := provide_cases (engine.stateOf task.operation) policy
  unfold enterBulkhead
  generalize (engine.stateOf task.operation).provide policy = provided at circuit cases last ⊢
  rcases provided with ⟨rebuilt, state⟩
  have inhabited : state.bulkheads.length - 1 < state.bulkheads.length := by
    apply Nat.sub_one_lt
    intro empty
    have none := List.length_eq_zero_iff.mp empty
    rcases cases with ⟨same, some⟩ | ⟨added, -⟩
    · exact some (same.symm.trans none)
    · exact List.append_ne_nil_of_right_ne_nil _ (List.cons_ne_nil _ _) (added.symm.trans none)
  have current := List.getElem?_eq_getElem inhabited
  refine ⟨state.bulkheads, _, _, cases.imp_left And.left, current,
    last _ (List.getLast?_eq_getElem?.trans current), ?_, ?_⟩
  · simp only [List.getD_eq_getElem?_getD, current, Option.getD_some]
  · simp only [List.getD_eq_getElem?_getD, current, Option.getD_some]
    have entered : Retains (engine.setHall task.operation (state.bulkheads.modify
        (state.bulkheads.length - 1) fun _ => state.bulkheads[state.bulkheads.length - 1].enter.2))
        (engine.setState task.operation (state.modifyBulkhead (state.bulkheads.length - 1) fun _ =>
          state.bulkheads[state.bulkheads.length - 1].enter.2)) := by
      refine ⟨fun other => ?_, fun other => ?_, fun _ => rfl, rfl⟩
      · rw [circuit_setHall, circuit_setState]
        split
        next same => exact circuit.trans (congrArg engine.circuit same)
        next => rfl
      · rw [hall_setHall, hall_setState]
        rfl
    have placed := entered.setPlace id (state.bulkheads[state.bulkheads.length - 1].enter.1.place?
      (state.bulkheads.length - 1))
    unfold Admission.place? at placed
    exact placed

/-- The ways in which a task asks for the slot that it queues for, with the answer and the engine
after it. -/
inductive Awaiting (engine : Engine α) (id : TaskId) (task : Task α) :
    Reply Bool × Engine α → Prop
  | remains {wait : Wait} {after : Engine α} (retains : engine.Retains after) :
      Awaiting engine id task (.later wait, after)
  | absent (absent : ∀ index ticket, task.place = some (.ticket index ticket) →
      (engine.hall task.operation)[index]? = none) :
      Awaiting engine id task (.now false, engine)
  | granted {index ticket : Nat} {bulkhead : Bulkhead} {after : Engine α}
      (held : task.place = some (.ticket index ticket))
      (found : (engine.hall task.operation)[index]? = some bulkhead)
      (turn : (bulkhead.poll ticket task.cancelled).1 = .granted)
      (retains : Retains ((engine.setHall task.operation ((engine.hall task.operation).modify index
        fun bulkhead => (bulkhead.poll ticket task.cancelled).2)).setPlace id
          (some (.slot index))) after) :
      Awaiting engine id task (.now true, after)
  | cancelled {index ticket : Nat} {bulkhead : Bulkhead} {after : Engine α}
      (held : task.place = some (.ticket index ticket))
      (found : (engine.hall task.operation)[index]? = some bulkhead)
      (turn : (bulkhead.poll ticket task.cancelled).1 = .cancelled)
      (retains : Retains ((engine.setHall task.operation ((engine.hall task.operation).modify index
        fun bulkhead => (bulkhead.poll ticket task.cancelled).2)).setPlace id none) after) :
      Awaiting engine id task (.now false, after)

theorem awaiting (engine : Engine α) (id : TaskId) (task : Task α) :
    Awaiting engine id task (engine.awaitSlot id task) := by
  unfold awaitSlot
  split
  · exact .remains ((Touches.refl engine).setAside id).retains
  split
  next index ticket held =>
    split
    next missing =>
      refine .absent fun other number same => ?_
      cases held.symm.trans same
      exact missing
    next bulkhead found =>
      have found : (engine.hall task.operation)[index]? = some bulkhead := found
      have written := ((Touches.refl engine).write (Bulkhead.pollLines
        (bulkhead.poll ticket task.cancelled).1)).retains
      have changed := (written.setHall task.operation _).trans (retains_changeBulkhead _
        task.operation index fun bulkhead => (bulkhead.poll ticket task.cancelled).2)
      simp only
      split
      next turn =>
        have ended := changed.trans ((Touches.refl _).endWait).retains
        exact .granted held found turn (ended.setPlace id _)
      next turn => exact .cancelled held found turn (changed.setPlace id none)
      next turn =>
        rw [written.hall, modify_of_fixed found (Bulkhead.poll_of_pending turn)] at changed
        exact .remains ((retains_setHall engine _).trans changed)
  next other =>
    refine .absent fun index ticket same => ?_
    rw [other] at same
    cases same
  next free =>
    refine .absent fun index ticket same => ?_
    rw [free] at same
    cases same

theorem acquirePermit_eq (engine : Engine α) (id : TaskId) (task : Task α) (rule : BreakerRule) :
    (engine.acquirePermit id task rule).1 =
      ((engine.circuit task.operation).acquire rule engine.clock).1.map Permit.transition := by
  unfold acquirePermit circuit
  dsimp only
  rcases (engine.stateOf task.operation).breaker.acquire rule engine.clock with ⟨_ | _, _⟩ <;> rfl

theorem retains_acquirePermit (engine : Engine α) (id : TaskId) (task : Task α)
    (rule : BreakerRule) :
    Retains
      (match (engine.circuit task.operation).acquire rule engine.clock with
        | (.ok permit, breaker) =>
          (engine.setCircuit task.operation breaker).setPermit id (some permit)
        | (.error _, breaker) => engine.setCircuit task.operation breaker)
      (engine.acquirePermit id task rule).2 := by
  unfold acquirePermit circuit
  dsimp only
  rcases (engine.stateOf task.operation).breaker.acquire rule engine.clock with ⟨_ | _, _⟩ <;>
    exact .tables (.refl _) rfl rfl rfl

theorem retains_recordSample (engine : Engine α) (id : TaskId) {task : Task α} {permit : Permit}
    (held : task.permit = some permit) (rule : BreakerRule) (failed : Bool) :
    (engine.recordSample id task rule failed).1 =
        ((engine.circuit task.operation).record permit rule engine.clock failed).1 ∧
      Retains
        ((engine.setCircuit task.operation
          ((engine.circuit task.operation).record permit rule engine.clock failed).2).setPermit id
            none)
        (engine.recordSample id task rule failed).2 := by
  unfold recordSample circuit
  rw [held]
  exact ⟨rfl, .tables (.refl _) rfl rfl rfl⟩

theorem dropPermit_of_held {task : Task α} {permit : Permit} (held : task.permit = some permit) :
    engine.dropPermit id task =
      (engine.setCircuit task.operation ((engine.circuit task.operation).drop permit)).setPermit id
        none := by
  unfold dropPermit
  rw [held]
  rfl

theorem dropPermit_of_free {task : Task α} (free : task.permit = none) :
    engine.dropPermit id task = engine := by
  unfold dropPermit
  rw [free]

def ending : Option α → Progress α
  | some result => .finished result
  | none => .crashed

theorem retains_finish {task : Task α} (found : engine.tasks.get? id = some task)
    (result : Option α) :
    Retains ((engine.release id task).setProgress id (ending result))
      (engine.finish id result) := by
  unfold finish
  rw [found]
  cases result <;> exact .tables (.refl _) rfl rfl rfl

namespace Keeps

theorem setHall (engine : Engine α) (operation : OperationId) (bulkheads : List Bulkhead) :
    engine.Keeps (engine.setHall operation bulkheads) :=
  ⟨fun other => circuit_setHall engine operation other bulkheads, fun _ => rfl, rfl⟩

theorem setPlace (engine : Engine α) (id : TaskId) (place : Option Place) :
    engine.Keeps (engine.setPlace id place) := by
  refine ⟨fun _ => rfl, fun other => ?_, rfl⟩
  rw [core?_eq, core?_eq, holding?_setPlace]
  split
  · exact Option.map_map _ _ _
  · rfl

theorem setHall_setPlace (engine : Engine α) (operation : OperationId) (bulkheads : List Bulkhead)
    (id : TaskId) (place : Option Place) :
    engine.Keeps ((engine.setHall operation bulkheads).setPlace id place) :=
  (setHall engine operation bulkheads).trans (setPlace _ id place)

theorem leavePlace (engine : Engine α) (id : TaskId) (task : Task α) :
    engine.Keeps (engine.leavePlace id task) := by
  cases held : task.place with
  | none => exact leavePlace_of_free held ▸ .refl engine
  | some place =>
    exact (setHall_setPlace _ _ _ _ _).trans (retains_leavePlace held).keeps

theorem enterBulkhead (engine : Engine α) (id : TaskId) (task : Task α)
    (policy : BulkheadPolicy) : engine.Keeps (engine.enterBulkhead id task policy).2 := by
  obtain ⟨bulkheads, index, bulkhead, -, -, -, -, retains⟩ :=
    retains_enterBulkhead engine id task policy
  exact (setHall_setPlace _ _ _ _ _).trans retains.keeps

theorem awaitSlot (engine : Engine α) (id : TaskId) (task : Task α) :
    engine.Keeps (engine.awaitSlot id task).2 := by
  have awaits := awaiting engine id task
  generalize engine.awaitSlot id task = result at awaits
  cases awaits with
  | remains retains => exact retains.keeps
  | absent => exact .refl engine
  | granted _ _ _ retains => exact (setHall_setPlace _ _ _ _ _).trans retains.keeps
  | cancelled _ _ _ retains => exact (setHall_setPlace _ _ _ _ _).trans retains.keeps

end Keeps

theorem answer_keeps (engine : Engine α) (id : TaskId) (task : Task α) {request : Request}
    (offBreaker : request.OffBreaker) (wait : Wait) :
    engine.Keeps (engine.answer id task request wait).2 := by
  cases request with
  | enterBulkhead policy => exact .enterBulkhead engine id task policy
  | awaitSlot => exact .awaitSlot engine id task
  | leaveBulkhead => exact .leavePlace engine id task
  | acquirePermit rule => exact offBreaker.elim
  | recordSample rule failed => exact offBreaker.elim
  | dropPermit => exact offBreaker.elim
  | _ => exact (answer_retains engine id task offBreaker trivial wait).keeps

/-- Whether a change of an engine leaves alone all tasks but one. -/
structure Spares (id : TaskId) (before after : Engine α) : Prop where
  tasks : ∀ other, other ≠ id → after.core? other = before.core? other
  nextTask : after.nextTask = before.nextTask

/-- Whether a change of an engine leaves alone what all tasks but one hold. -/
structure Isolates (id : TaskId) (before after : Engine α) : Prop where
  tasks : ∀ other, other ≠ id → after.holding? other = before.holding? other
  nextTask : after.nextTask = before.nextTask

theorem Retains.isolates (retains : before.Retains after) : Isolates id before after :=
  ⟨fun other _ => retains.tasks other, retains.nextTask⟩

theorem holding?_forget (engine : Engine α) (id other : TaskId) :
    (engine.forget id).holding? other = if id = other then none else engine.holding? other := by
  unfold forget holding?
  rw [Table.get?_erase]
  split <;> rfl

namespace Isolates

theorem spares (isolates : Isolates id before after) : Spares id before after where
  tasks other differs := by rw [core?_eq, core?_eq, isolates.tasks other differs]
  nextTask := isolates.nextTask

theorem trans (first : Isolates id before middle) (second : Isolates id middle after) :
    Isolates id before after where
  tasks other differs := (second.tasks other differs).trans (first.tasks other differs)
  nextTask := second.nextTask.trans first.nextTask

theorem modifyTask (engine : Engine α) (id : TaskId) (change : Task α → Task α) :
    Isolates id engine (engine.modifyTask id change) where
  tasks other differs := by rw [holding?_modifyTask, if_neg (Ne.symm differs)]
  nextTask := rfl

theorem setCircuit (engine : Engine α) (id : TaskId) (operation : OperationId)
    (breaker : Breaker) : Isolates id engine (engine.setCircuit operation breaker) :=
  ⟨fun _ _ => rfl, rfl⟩

theorem setHall (engine : Engine α) (id : TaskId) (operation : OperationId)
    (bulkheads : List Bulkhead) : Isolates id engine (engine.setHall operation bulkheads) :=
  ⟨fun _ _ => rfl, rfl⟩

theorem setCircuit_setPermit (engine : Engine α) (id : TaskId) (operation : OperationId)
    (breaker : Breaker) (permit : Option Permit) :
    Isolates id engine ((engine.setCircuit operation breaker).setPermit id permit) :=
  (setCircuit engine id operation breaker).trans (modifyTask _ id _)

theorem setHall_setPlace (engine : Engine α) (id : TaskId) (operation : OperationId)
    (bulkheads : List Bulkhead) (place : Option Place) :
    Isolates id engine ((engine.setHall operation bulkheads).setPlace id place) :=
  (setHall engine id operation bulkheads).trans (modifyTask _ id _)

theorem dropPermit (engine : Engine α) (id : TaskId) (task : Task α) :
    Isolates id engine (engine.dropPermit id task) := by
  cases held : task.permit with
  | none => exact dropPermit_of_free held ▸ (Retains.refl engine).isolates
  | some permit =>
    rw [dropPermit_of_held held]
    exact .setCircuit_setPermit engine id _ _ _

theorem leavePlace (engine : Engine α) (id : TaskId) (task : Task α) :
    Isolates id engine (engine.leavePlace id task) := by
  cases held : task.place with
  | none => exact leavePlace_of_free held ▸ (Retains.refl engine).isolates
  | some place =>
    exact (setHall_setPlace _ id _ _ _).trans (retains_leavePlace held).isolates

theorem awaitSlot (engine : Engine α) (id : TaskId) (task : Task α) :
    Isolates id engine (engine.awaitSlot id task).2 := by
  have awaits := awaiting engine id task
  generalize engine.awaitSlot id task = result at awaits
  cases awaits with
  | remains retains => exact retains.isolates
  | absent => exact (Retains.refl engine).isolates
  | granted _ _ _ retains =>
    exact (setHall_setPlace _ id _ _ _).trans retains.isolates
  | cancelled _ _ _ retains =>
    exact (setHall_setPlace _ id _ _ _).trans retains.isolates

theorem answer (engine : Engine α) (id : TaskId) (task : Task α) (request : Request)
    (wait : Wait) : Isolates id engine (engine.answer id task request wait).2 := by
  cases request with
  | enterBulkhead policy =>
    obtain ⟨bulkheads, index, bulkhead, -, -, -, -, retains⟩ :=
      retains_enterBulkhead engine id task policy
    exact (setHall_setPlace _ id _ _ _).trans retains.isolates
  | awaitSlot => exact .awaitSlot engine id task
  | leaveBulkhead => exact .leavePlace engine id task
  | acquirePermit rule =>
    refine .trans ?_ (retains_acquirePermit engine id task rule).isolates
    rcases (engine.circuit task.operation).acquire rule engine.clock with ⟨_ | _, _⟩
    · exact .setCircuit _ _ _ _
    · exact .setCircuit_setPermit _ _ _ _ _
  | recordSample rule failed =>
    cases held : task.permit with
    | none =>
      have same : engine.recordSample id task rule failed = (none, engine) := by
        unfold recordSample
        rw [held]
      have isolates : Isolates id engine (engine.recordSample id task rule failed).2 := by
        rw [same]
        exact (Retains.refl engine).isolates
      exact isolates
    | some permit =>
      refine .trans ?_ (retains_recordSample engine id held rule failed).2.isolates
      exact .setCircuit_setPermit _ _ _ _ _
  | dropPermit => exact .dropPermit engine id task
  | _ =>
    refine (answer_retains engine id task ?_ ?_ wait).isolates
    · exact trivial
    · exact trivial

theorem release (engine : Engine α) (id : TaskId) (task : Task α) :
    Isolates id engine (engine.release id task) :=
  (((Touches.refl engine).changeGate _).retains.isolates.trans (.dropPermit _ _ _)).trans
    (.leavePlace _ id task)

theorem finish (engine : Engine α) (id : TaskId) (result : Option α) :
    Isolates id engine (engine.finish id result) := by
  cases found : engine.tasks.get? id with
  | none =>
    unfold Engine.finish
    rw [found]
    exact (Retains.refl engine).isolates
  | some task =>
    have ends := retains_finish found result
    exact ((Isolates.release engine id task).trans (.modifyTask _ _ _)).trans ends.isolates

theorem suspend (engine : Engine α) (id : TaskId) (plan : Plan α) (wait : Wait) :
    Isolates id engine (engine.suspend id plan wait) :=
  .modifyTask _ _ _

theorem abort (engine : Engine α) (id : TaskId) : Isolates id engine (engine.abort id) := by
  have forgets (engine : Engine α) : Isolates id engine (engine.forget id) := by
    refine ⟨?_, rfl⟩
    intro other differs
    rw [holding?_forget, if_neg (Ne.symm differs)]
  unfold Engine.abort
  split
  · split
    · exact (Isolates.release engine id _).trans (forgets _)
    · exact forgets engine
  · exact (Retains.refl engine).isolates

end Isolates

theorem holding?_of_found {task : Task α} (found : engine.tasks.get? id = some task) :
    engine.holding? id = some task.holding :=
  congrArg (Option.map Task.holding) found

theorem found_of_holding {holding : Holding α} (held : engine.holding? id = some holding) :
    ∃ task, engine.tasks.get? id = some task ∧ task.holding = holding :=
  Option.map_eq_some_iff.mp held

theorem core?_of_holding {holding : Holding α} (found : engine.holding? id = some holding) :
    engine.core? id = some holding.core := by
  rw [core?_eq, found]
  rfl

theorem core?_of_found {task : Task α} (found : engine.tasks.get? id = some task) :
    engine.core? id = some (task.operation, task.permit, task.progress) :=
  core?_of_holding (holding?_of_found found)

theorem core?_setPermit {task : Task α} (found : engine.tasks.get? id = some task)
    (permit : Option Permit) :
    (engine.setPermit id permit).core? id = some (task.operation, permit, task.progress) := by
  rw [core?_eq, holding?_setPermit, if_pos rfl, holding?_of_found found]
  rfl

theorem core?_suspend {operation : OperationId} {permit : Option Permit} {progress : Progress α}
    (core : engine.core? id = some (operation, permit, progress)) (plan : Plan α) (wait : Wait) :
    (engine.suspend id plan wait).core? id = some (operation, permit, .suspended plan wait) := by
  rw [core?_eq] at core ⊢
  obtain ⟨holding, found, same⟩ := Option.map_eq_some_iff.mp core
  cases same
  have suspended : (engine.suspend id plan wait).holding? id = _ :=
    holding?_setProgress engine id id (.suspended plan wait)
  rw [suspended, if_pos rfl, found]
  rfl

theorem core?_finish (result : Option α) {core : OperationId × Option Permit × Progress α}
    (found : (engine.finish id result).core? id = some core) : core.2.2 = ending result := by
  cases present : engine.tasks.get? id with
  | none =>
    unfold finish at found
    rw [present] at found
    unfold core? at found
    rw [present] at found
    cases found
  | some task =>
    rw [(retains_finish present result).keeps.tasks, core?_eq, holding?_setProgress, if_pos rfl,
      Option.map_map] at found
    obtain ⟨released, -, same⟩ := Option.map_eq_some_iff.mp found
    rw [← same]
    rfl

theorem holding?_spawn (engine : Engine α) (task : Task α) (id : TaskId) :
    (engine.spawn task).2.holding? id =
      if engine.nextTask = id then some task.holding else engine.holding? id := by
  apply (((Touches.refl _).wake engine.nextTask).retains.tasks id).trans
  unfold holding?
  rw [Table.get?_set]
  split <;> rfl

theorem core?_spawn (engine : Engine α) (task : Task α) (id : TaskId) :
    (engine.spawn task).2.core? id =
      if engine.nextTask = id then some (task.operation, task.permit, task.progress)
      else engine.core? id := by
  rw [core?_eq, core?_eq, holding?_spawn]
  split <;> rfl

theorem nextTask_spawn (engine : Engine α) (task : Task α) :
    (engine.spawn task).2.nextTask = engine.nextTask + 1 :=
  ((Touches.refl _).wake engine.nextTask).nextTask

theorem holding?_abort : (engine.abort id).holding? id = none := by
  unfold abort
  split
  · rw [holding?_forget, if_pos rfl]
  next missing =>
    unfold holding?
    rw [missing]
    rfl

theorem core?_abort : (engine.abort id).core? id = none := by
  rw [core?_eq, holding?_abort]
  rfl

end Engine

end Resilience
