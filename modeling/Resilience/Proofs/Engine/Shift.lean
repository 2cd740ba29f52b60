import Resilience.Proofs.Engine.Tandem

/-!
Shifts: what changes from outside do to scenes and to tasks. A change that is made in two engines
leaves them alike where they were; a change of policies, of handlers or of the order of tasks shows
nowhere, so it may be made in one engine only.
-/

namespace Resilience

open Move Invocation

namespace Scene

variable {scene : Scene} {operation other : OperationId}

@[simp] theorem known_modify (change : OperationState → OperationState) :
    ((scene.modify operation change).states other).isSome = (scene.states other).isSome := by
  show (if operation = other then (scene.states other).map _ else scene.states other).isSome = _
  split
  · exact Option.isSome_map
  · rfl

/-- Changes of different parts of states may be made in any order. -/
theorem modify_comm {first second : OperationState → OperationState}
    (apart : ∀ state, first (second state) = second (first state)) :
    (scene.modify operation first).modify other second =
      (scene.modify other second).modify operation first := by
  refine congrArg (fun states => { scene with states }) (funext fun each => ?_)
  show (if other = each then
      (if operation = each then (scene.states each).map first else scene.states each).map second
      else if operation = each then (scene.states each).map first else scene.states each) =
    if operation = each then
      (if other = each then (scene.states each).map second else scene.states each).map first
      else if other = each then (scene.states each).map second else scene.states each
  split
  · split
    · rw [Option.map_map, Option.map_map]
      exact congrArg (Option.map · _) (funext fun state => (apart state).symm)
    · rfl
  · split <;> rfl

end Scene

namespace Slots

variable {slots : Slots} {caller : Nat} {request : Request} {wait : Wait}

theorem Vacant.releases (vacant : slots.Vacant) (permits : Nat) :
    (permits.repeat Slots.release slots).Vacant := by
  induction permits with
  | zero => exact vacant
  | succ permits inductionHypothesis => exact inductionHypothesis.release

theorem Awaits.releases (awaits : slots.Awaits caller request wait) (permits : Nat) :
    (permits.repeat Slots.release slots).Awaits caller request wait := by
  rcases awaits with vacant | ⟨waits, tells, reserved⟩
  · exact .inl (vacant.releases permits)
  · refine .inr ⟨waits, tells, ?_⟩
    induction permits with
    | zero => exact reserved
    | succ permits inductionHypothesis => exact inductionHypothesis.release

end Slots

namespace Change

variable {α : Type}

/-- Whether a change concerns policies, handlers, the order of tasks, or what was left behind. -/
def Apart : Change α → Prop
  | register .. | overrideField .. | clearOverride .. | registerHandler .. | collect
  | schedule .. => True
  | _ => False

/-- Whether a change concerns anything else, but starts no task. -/
def Joint : Change α → Prop
  | cancel _ | openGate .. | openSink _ | registerStrategy .. | reset _ | setClock _
  | elapse _ => True
  | _ => False

/-- What a change does to a scene, in an engine in which these operations have policies. -/
def shift (registered : OperationId → Bool) (scene : Scene) : Change α → Scene
  | openSink permits => { scene with gate := permits.repeat Slots.release scene.gate }
  | registerStrategy name strategy =>
    { scene with strategies := scene.strategies.set name strategy }
  | reset operation =>
    if registered operation then
      scene.modify operation fun state => { state with breaker := state.breaker.reset }
    else scene
  | setClock clock => { scene with manualClock := clock }
  | elapse moment => { scene with now := moment }
  | _ => scene

def touch (id : TaskId) (task : Task α) : Change α → Task α
  | cancel other => if other = id then task.cancel else task
  | openGate other permits =>
    if other = id then { task with gate := task.gate + permits } else task
  | _ => task

variable {change : Change α} {registered : OperationId → Bool} {scene : Scene}
  {operation : OperationId} {id : TaskId} {task : Task α}

theorem known_shift :
    ((change.shift registered scene).states operation).isSome =
      (scene.states operation).isSome := by
  cases change with
  | reset other =>
    simp only [shift]
    split
    · exact Scene.known_modify _
    · rfl
  | _ => rfl

theorem stallOn_shift : (change.shift registered scene).stallOn = scene.stallOn := by
  cases change with
  | reset other =>
    simp only [shift]
    split <;> rfl
  | _ => rfl

/-- A shift does something to the gate of the sink that concerns no wait there. -/
theorem gate_shift (change : Change α) (registered : OperationId → Bool) (scene : Scene) :
    (change.shift registered scene).gate = scene.gate ∨
      ∃ permits : Nat, (change.shift registered scene).gate =
        permits.repeat Slots.release scene.gate := by
  cases change with
  | openSink permits => exact .inr ⟨permits, rfl⟩
  | reset other =>
    simp only [shift]
    split <;> exact .inl rfl
  | _ => exact .inl rfl

theorem vacant_shift (vacant : scene.gate.Vacant) :
    (change.shift registered scene).gate.Vacant := by
  rcases gate_shift change registered scene with same | ⟨permits, same⟩
  · exact same.symm ▸ vacant
  · exact same.symm ▸ vacant.releases permits

theorem shift_vacate (place : Option Place) :
    change.shift registered (scene.vacate operation place) =
      (change.shift registered scene).vacate operation place := by
  cases place with
  | none => rfl
  | some place =>
    cases change with
    | reset other =>
      simp only [shift, Scene.vacate]
      split
      · exact Scene.modify_comm fun state => rfl
      · rfl
    | _ => rfl

@[simp] theorem touch_progress : (change.touch id task).progress = task.progress := by
  cases change with
  | cancel | openGate =>
    simp only [touch]
    split <;> rfl
  | _ => rfl

@[simp] theorem touch_holding : (change.touch id task).holding = task.holding := by
  cases change with
  | cancel | openGate =>
    simp only [touch]
    split <;> rfl
  | _ => rfl

theorem touch_bare : (change.touch id task).bare = (change.touch id task.bare).bare := by
  cases change with
  | cancel | openGate =>
    simp only [touch]
    split <;> rfl
  | _ => rfl

end Change

namespace Engine

variable {α : Type} {engine twin : Engine α} {id : TaskId} {change : Change α}

/-- A change of policies, handlers or the order of tasks shows nowhere. -/
theorem apply_apart (engine : Engine α) (apart : change.Apart) :
    (change.apply engine).scene = engine.scene ∧ (change.apply engine).tasks = engine.tasks := by
  have entered (accepted refused : List LogLine)
      (result : Except PolicyError (Policy × Registry)) :
      (engine.changeRegistry accepted refused result).2.scene = engine.scene ∧
        (engine.changeRegistry accepted refused result).2.tasks = engine.tasks := by
    cases result <;> exact ⟨rfl, rfl⟩
  cases change with
  | register | overrideField | clearOverride => exact entered _ _ _
  | registerHandler | schedule => exact ⟨rfl, rfl⟩
  | collect =>
    refine ⟨?_, rfl⟩
    show Engine.scene { engine with sink := engine.sink.drain.2, journal := {} } = engine.scene
    unfold Sink.drain
    split <;> rfl
  | _ => exact apart.elim

theorem scene_reset (engine : Engine α) (operation : OperationId) :
    (engine.reset operation).2.scene =
      if (engine.registry.resolve? operation).isSome then
        engine.scene.modify operation fun state => { state with breaker := state.breaker.reset }
      else engine.scene := by
  unfold reset Registry.resolve
  cases engine.registry.resolve? operation with
  | none => rfl
  | some policy =>
    simp only [Option.isSome_some, if_true]
    -- Only a state that is there has a breaker to be reset.
    split
    next unknown =>
      refine congrArg (fun states => { engine.scene with states }) (funext fun each => ?_)
      split
      next here =>
        subst here
        show (engine.operations.get? operation).map _ =
          ((engine.operations.get? operation).map _).map _
        rw [unknown]
        rfl
      next => rfl
    next state known =>
      rw [scene_write, scene_setState]
      refine congrArg (fun states => { engine.scene with states }) (funext fun each => ?_)
      split
      next here =>
        subst here
        show _ = ((engine.operations.get? operation).map _).map _
        rw [known]
        rfl
      next => rfl

theorem scene_joint (engine : Engine α) (joint : change.Joint) :
    (change.apply engine).scene =
      change.shift (fun operation => (engine.registry.resolve? operation).isSome)
        engine.scene := by
  cases change with
  | cancel other =>
    show (engine.cancel other).scene = engine.scene
    unfold cancel
    split
    · simp only
      split
      · rw [scene_wake, scene_modifyTask]
      · rfl
    · rfl
  | openGate other permits =>
    show (engine.openGate other permits).scene = engine.scene
    unfold openGate
    split
    · simp only
      split
      · rw [scene_wake, scene_modifyTask]
      · rfl
    · rfl
  | openSink permits => exact scene_changeGate engine _
  | reset operation => exact scene_reset engine operation
  | registerStrategy | setClock | elapse => rfl
  | _ => exact joint.elim

@[simp] theorem tasks_wake (engine : Engine α) (id : TaskId) :
    (engine.wake id).tasks = engine.tasks := by
  unfold wake
  split
  · rfl
  · split <;> rfl

@[simp] theorem tasks_wakeAll (engine : Engine α) (ids : List TaskId) :
    (engine.wakeAll ids).tasks = engine.tasks := by
  unfold wakeAll
  induction ids generalizing engine with
  | nil => rfl
  | cons id rest inductionHypothesis =>
    rw [List.foldl_cons, inductionHypothesis, tasks_wake]

theorem tasks_joint (engine : Engine α) (id : TaskId) (joint : change.Joint) :
    (change.apply engine).tasks.get? id =
      (engine.tasks.get? id).map fun task => change.touch id task := by
  have untouched {tasks : Table TaskId (Task α)} (same : tasks = engine.tasks)
      (touches : ∀ task : Task α, change.touch id task = task) :
      tasks.get? id = (engine.tasks.get? id).map fun task => change.touch id task := by
    rw [same, funext touches]
    exact Option.map_id'.symm
  have meant (other : TaskId) (amend : Task α → Task α) :
      (engine.modifyTask other amend).tasks.get? id =
        (engine.tasks.get? id).map fun task => if other = id then amend task else task := by
    rw [get?_modifyTask]
    split
    · rfl
    · exact Option.map_id'.symm
  have missing {other : TaskId} (absent : engine.tasks.get? other = none)
      (amend : Task α → Task α) : engine.tasks.get? id =
        (engine.tasks.get? id).map fun task => if other = id then amend task else task := by
    rw [← meant, get?_modifyTask]
    split
    next same =>
      rw [← same, absent]
      rfl
    next => rfl
  cases change with
  | cancel other =>
    show (engine.cancel other).tasks.get? id =
      (engine.tasks.get? id).map fun task => if other = id then task.cancel else task
    unfold cancel
    split
    · simp only
      split
      · rw [tasks_wake, meant]
      · exact meant other Task.cancel
    next absent => exact missing absent Task.cancel
  | openGate other permits =>
    show (engine.openGate other permits).tasks.get? id = (engine.tasks.get? id).map fun task =>
      if other = id then { task with gate := task.gate + permits } else task
    unfold openGate
    split
    · simp only
      split
      · rw [tasks_wake, meant]
      · exact meant other _
    next absent => exact missing absent fun task => { task with gate := task.gate + permits }
  | openSink permits => exact untouched (tasks_wakeAll _ _) fun _ => rfl
  | reset operation => exact untouched (Change.reset_tasks engine operation).1 fun _ => rfl
  | registerStrategy | setClock | elapse => exact untouched rfl fun _ => rfl
  | _ => exact joint.elim

structure Shifted (change : Change α) (registered : OperationId → Bool) (id : TaskId)
    (engine after : Engine α) : Prop where
  scene : after.scene = change.shift registered engine.scene
  task : after.tasks.get? id = (engine.tasks.get? id).map fun task => change.touch id task

namespace Shifted

variable {registered : OperationId → Bool} {after : Engine α} {operation : OperationId}
  {scene : Scene}

theorem joint (engine : Engine α) (id : TaskId) (joint : change.Joint) :
    Shifted change (fun operation => (engine.registry.resolve? operation).isSome) id engine
      (change.apply engine) :=
  ⟨scene_joint engine joint, tasks_joint engine id joint⟩

/-- A change that shows nowhere leaves all as it is. -/
theorem of_same (apart : change.Apart) (scene : after.scene = engine.scene)
    (task : after.tasks.get? id = engine.tasks.get? id) :
    Shifted change registered id engine after := by
  have still (view : Scene) : change.shift registered view = view := by
    cases change <;> first | rfl | exact apart.elim
  have untouched (task : Task α) : change.touch id task = task := by
    cases change <;> first | rfl | exact apart.elim
  refine ⟨scene.trans (still engine.scene).symm, ?_⟩
  rw [task, funext untouched]
  exact Option.map_id'.symm

theorem apart (engine : Engine α) (apart : change.Apart) :
    Shifted change registered id engine (change.apply engine) := by
  obtain ⟨scene, tasks⟩ := apply_apart engine apart
  exact .of_same apart scene (congrArg (fun tasks : Table TaskId (Task α) => tasks.get? id) tasks)

variable (shifted : Shifted change registered id engine after)

include shifted

theorem found {task : Task α} (found : engine.tasks.get? id = some task) :
    after.tasks.get? id = some (change.touch id task) := by
  rw [shifted.task, found]
  rfl

theorem progress {progress : Progress α}
    (stands : ∀ task, engine.tasks.get? id = some task → task.progress = progress) :
    ∀ task, after.tasks.get? id = some task → task.progress = progress := by
  intro task found
  rw [shifted.task] at found
  obtain ⟨earlier, here, rfl⟩ := Option.map_eq_some_iff.mp found
  exact Change.touch_progress.trans (stands earlier here)

theorem isRunning : after.isRunning id = engine.isRunning id := by
  unfold Engine.isRunning
  rw [shifted.task]
  cases engine.tasks.get? id with
  | none => rfl
  | some task =>
    show (change.touch id task).isRunning = task.isRunning
    unfold Task.isRunning
    rw [Change.touch_progress]

theorem holding? : after.holding? id = engine.holding? id := by
  unfold Engine.holding?
  rw [shifted.task, Option.map_map]
  exact congrArg (Option.map · _) (funext fun task => Change.touch_holding)

theorem nears (nears : engine.Nears id operation scene) :
    after.Nears id operation (change.shift registered scene) := by
  obtain ⟨⟨holding, held, same, permit⟩, settles⟩ := nears
  rw [settled_of_holding held] at settles
  have held' := shifted.holding?.trans held
  refine ⟨⟨holding, held', same, permit⟩, ?_⟩
  rw [settled_of_holding held', shifted.scene, ← Change.shift_vacate, settles]

theorem concludes (concludes : engine.Concludes id operation scene) :
    after.Concludes id operation (change.shift registered scene) := by
  cases concludes with
  | ended left rests =>
    refine .ended ?_ (shifted.isRunning.trans rests)
    rw [shifted.scene, left]
  | handling nears found suspended settles aloof =>
    exact .handling (shifted.nears nears) (shifted.found found)
      (Change.touch_progress.trans suspended) settles aloof

end Shifted

theorem Ready.shift {operation : OperationId} {scene : Scene} (ready : Ready operation scene)
    (change : Change α) (registered : OperationId → Bool) :
    Ready operation (change.shift registered scene) where
  known := Change.known_shift.trans ready.known
  prompt operation event part closing stalls :=
    ready.prompt operation event part closing (Change.stallOn_shift.symm.trans stalls)
  vacant := Change.vacant_shift ready.vacant

section Invocations

variable {operation : OperationId} {service : Service} {engine twin after after' : Engine Outcome}
  {change : Change Outcome} {registered : OperationId → Bool} {found found' : Option Policy}
  {past past' : List Exchange} {rest rest' : Plan Outcome} {wait : Wait}

theorem Tandem.shift
    (tandem : Tandem operation service id engine twin found found' past past' rest rest' wait)
    (shifted : Shifted change registered id engine after)
    (shifted' : Shifted change registered id twin after') :
    Tandem operation service id after after' found found' past past' rest rest' wait where
  scenes := by rw [shifted.scene, shifted'.scene, tandem.scenes]
  tasks := by
    have bare (task : Option (Task Outcome)) :
        (task.map fun task => change.touch id task).map Task.bare =
          (task.map Task.bare).map fun task => (change.touch id task).bare := by
      rw [Option.map_map, Option.map_map]
      exact congrArg (Option.map · task) (funext fun task => Change.touch_bare)
    rw [shifted.task, shifted'.task, bare, bare, tandem.tasks]
  invokes := by
    obtain ⟨task, here, same, permitted⟩ := tandem.invokes
    have held : (change.touch id task).holding = task.holding := Change.touch_holding
    refine ⟨_, shifted.found here, ?_, ?_⟩
    · exact (congrArg Holding.operation held).trans same
    · exact (congrArg (fun holding => holding.permit.isSome) held).trans permitted
  paced := tandem.paced
  known registered := by
    rw [shifted.scene, Change.known_shift]
    exact tandem.known registered
  gate := by
    have gate : after.sink.gate = (change.shift registered engine.scene).gate :=
      congrArg Scene.gate shifted.scene
    rw [gate]
    rcases tandem.gate with vacant | ⟨request, next, asks, awaits⟩
    · exact .inl (Change.vacant_shift vacant)
    · refine .inr ⟨request, next, asks, ?_⟩
      rcases Change.gate_shift change registered engine.scene with same | ⟨permits, same⟩
      · rw [same]
        exact awaits
      · rw [same]
        exact awaits.releases permits

/-- What changes both engines alike leaves them standing as they did. -/
theorem Footing.shift (footing : Footing operation service id engine twin past past')
    (shifted : Shifted change registered id engine after)
    (shifted' : Shifted change registered id twin after') :
    Footing operation service id after after' past past' := by
  cases footing with
  | together tandem level suspended suspended' =>
    exact .together (tandem.shift shifted shifted') level (shifted.progress suspended)
      (shifted'.progress suspended')
  | ended scenes rests rests' vacant alongside =>
    refine .ended ?_ (shifted.isRunning.trans rests) (shifted'.isRunning.trans rests') ?_ alongside
    · rw [shifted.scene, shifted'.scene, scenes]
    · have gate : after.sink.gate = (change.shift registered engine.scene).gate :=
        congrArg Scene.gate shifted.scene
      rw [gate]
      exact Change.vacant_shift vacant
  | parted ready concludes concludes' alongside =>
    exact .parted (ready.shift change registered) (shifted.concludes concludes)
      (shifted'.concludes concludes') alongside

/-- What shows in neither engine leaves them standing as they did. -/
theorem Footing.congr (footing : Footing operation service id engine twin past past')
    (scene : after.scene = engine.scene) (scene' : after'.scene = twin.scene)
    (task : after.tasks.get? id = engine.tasks.get? id)
    (task' : after'.tasks.get? id = twin.tasks.get? id) :
    Footing operation service id after after' past past' := by
  have shown {engine after : Engine Outcome} (scene : after.scene = engine.scene)
      (task : after.tasks.get? id = engine.tasks.get? id) :
      Shifted .collect (fun _ => false) id engine after := .of_same trivial scene task
  exact footing.shift (shown scene task) (shown scene' task')

theorem abort_of_running {task : Task Outcome} (found : engine.tasks.get? id = some task)
    (running : engine.isRunning id = true) :
    engine.abort id = (engine.release id task).forget id := by
  unfold isRunning at running
  unfold abort
  rw [found] at running ⊢
  exact congrArg (Engine.forget · id) (if_pos running)

theorem abort_of_ended {α : Type} {engine : Engine α} (ended : engine.isRunning id = false) :
    (engine.abort id).scene = engine.scene ∧
      ∀ other, other ≠ id → (engine.abort id).tasks.get? other = engine.tasks.get? other := by
  unfold isRunning at ended
  unfold abort
  cases found : engine.tasks.get? id with
  | none => exact ⟨rfl, fun _ _ => rfl⟩
  | some task =>
    rw [found] at ended
    refine ⟨?_, fun other differs => ?_⟩
    · show (Engine.forget (if task.isRunning = true then _ else engine) id).scene = _
      rw [if_neg (ne_true_of_eq_false ended)]
      rfl
    · show (Engine.forget (if task.isRunning = true then _ else engine) id).tasks.get? other = _
      rw [if_neg (ne_true_of_eq_false ended)]
      exact (Table.get?_erase _ _ _).trans (if_neg (Ne.symm differs))

theorem isRunning_abort (engine : Engine Outcome) (id : TaskId) :
    (engine.abort id).isRunning id = false := by
  have gone : (engine.abort id).holding? id = none := holding?_abort
  have missing := Option.map_eq_none_iff.mp gone
  unfold isRunning
  rw [missing]

theorem Concludes.abort {scene : Scene} (concludes : engine.Concludes id operation scene)
    (ready : Ready operation scene) : (engine.abort id).scene = scene := by
  cases concludes with
  | ended left rests => exact (abort_of_ended rests).1.trans left
  | @handling task _ _ _ _ _ nears found suspended =>
    have running : engine.isRunning id = true := by
      unfold isRunning
      rw [found]
      exact task.holding.isRunning_of_suspended suspended
    rw [abort_of_running found running]
    exact nears.release ready found

/-- An invocation that is ended in both engines leaves the same behind. -/
theorem Footing.abort (footing : Footing operation service id engine twin past past') :
    (engine.abort id).scene = (twin.abort id).scene ∧
      (engine.abort id).sink.gate.Vacant := by
  cases footing with
  | together tandem level suspended suspended' =>
    obtain ⟨task, task', here, there, bare, -⟩ := tandem.present
    have running : engine.isRunning id = true := by
      unfold isRunning
      rw [here]
      exact task.holding.isRunning_of_suspended (suspended task here)
    have running' : twin.isRunning id = true := by
      unfold isRunning
      rw [there]
      exact task'.holding.isRunning_of_suspended (suspended' task' there)
    rw [abort_of_running here running, abort_of_running there running']
    refine ⟨?_, release_vacant tandem.reserved task⟩
    show (engine.release id task.bare).scene = (twin.release id task'.bare).scene
    rw [← bare]
    exact release_scene tandem.scenes task.bare
  | ended scenes rests rests' vacant =>
    have left := (abort_of_ended rests).1
    refine ⟨left.trans (scenes.trans (abort_of_ended rests').1.symm), ?_⟩
    show (engine.abort id).scene.gate.Vacant
    rw [left]
    exact vacant
  | parted ready concludes concludes' =>
    refine ⟨(concludes.abort ready).trans (concludes'.abort ready).symm, ?_⟩
    show (engine.abort id).scene.gate.Vacant
    rw [concludes.abort ready]
    exact ready.vacant

/-- An invocation that runs in neither engine any more leaves the same behind. -/
theorem Footing.settles (footing : Footing operation service id engine twin past past')
    (ended : engine.isRunning id = false) (ended' : twin.isRunning id = false) :
    engine.scene = twin.scene ∧ engine.sink.gate.Vacant := by
  obtain ⟨scenes, vacant⟩ := footing.abort
  have left := (abort_of_ended ended).1
  refine ⟨left.symm.trans (scenes.trans (abort_of_ended ended').1), ?_⟩
  have vacant : (engine.abort id).scene.gate.Vacant := vacant
  rw [left] at vacant
  exact vacant

theorem Footing.alongside (footing : Footing operation service id engine twin past past') :
    Alongside operation (service.plan operation) past past' := by
  cases footing with
  | together tandem level => exact .level tandem.paced level.parallel
  | ended _ _ _ _ alongside => exact alongside
  | parted _ _ _ alongside =>
    have here := alongside [] []
    rwa [List.append_nil, List.append_nil] at here

end Invocations

end Engine

end Resilience
