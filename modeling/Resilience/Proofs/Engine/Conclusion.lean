import Resilience.Proofs.Engine.Leaks
import Resilience.Proofs.Engine.Ledger
import Resilience.Proofs.Engine.Likeness

/-!
Conclusions: what an invocation does once its guarded outcome is there. Whatever its fallback does,
and however long that takes, the scene that it leaves is the one that it had come to, with its place
in the bulkhead given back.
-/

namespace Resilience

def Slots.Vacant (slots : Slots) : Prop := slots.queue = [] ∧ slots.granted = []

theorem Slots.leave_of_vacant {slots : Slots} (vacant : slots.Vacant) (caller : Nat) :
    slots.leave caller = slots := by
  unfold leave
  rw [vacant.1, vacant.2]
  rfl

namespace Scene

def vacate (scene : Scene) (operation : OperationId) : Option Place → Scene
  | some place => scene.modify operation (·.modifyBulkhead place.bulkhead place.giveBack)
  | none => scene

/-- Whether the sink holds nobody up who tells of the answer to an invocation. -/
def Prompt (scene : Scene) : Prop :=
  ∀ operation event part, event.isClosing = true → scene.stallOn = some part →
    Text.holds part.toList (OperationEvent.text ⟨operation, event⟩).toList = false

variable {scene : Scene} {operation other : OperationId} {place : Option Place}

@[simp] theorem gate_vacate : (scene.vacate operation place).gate = scene.gate := by
  cases place <;> rfl

@[simp] theorem stallOn_vacate : (scene.vacate operation place).stallOn = scene.stallOn := by
  cases place <;> rfl

@[simp] theorem known_vacate : ((scene.vacate operation place).states other).isSome =
    (scene.states other).isSome := by
  cases place with
  | none => rfl
  | some place =>
    show (if operation = other then (scene.states other).map _ else scene.states other).isSome = _
    split
    · exact Option.isSome_map
    · rfl

theorem set_getD (known : (scene.states operation).isSome = true) :
    scene.set operation ((scene.states operation).getD {}) = scene := by
  refine congrArg (fun states => { scene with states }) (funext fun each => ?_)
  split
  next here =>
    subst here
    obtain ⟨state, same⟩ := Option.isSome_iff_exists.mp known
    rw [same]
    rfl
  next => rfl

end Scene

/-- Whether a behaviour does not move the manual clock. -/
def Behaviour.Aloof {ε : Type} (behaviour : Behaviour ε) : Prop :=
  ∀ millis, .advanceClock millis ∉ behaviour.actions

def Handlers.Aloof (handlers : Handlers) : Prop :=
  ∀ name respond, handlers.text? name = some respond → ∀ input fault, (respond input fault).Aloof

def Wait.Aloof : Wait → Prop
  | .handler rest _ => rest.Aloof
  | _ => True

namespace Engine

variable {α : Type} {engine before after : Engine α} {id : TaskId} {task : Task α}

/-- A behaviour that leaves the clock alone leaves the scene alone, also where it goes on later. -/
theorem act_aloof (engine : Engine α) (id : TaskId) {actions : List Action}
    (aloof : ∀ millis, .advanceClock millis ∉ actions) (timer : Option Timer) :
    (engine.act id actions timer).2.scene = engine.scene ∧
      ∀ left timer', (engine.act id actions timer).1 = .waiting left timer' →
        ∀ millis, .advanceClock millis ∉ left := by
  induction actions generalizing engine timer with
  | nil => exact ⟨rfl, nofun⟩
  | cons action rest inductionHypothesis =>
    have later : ∀ millis, .advanceClock millis ∉ rest :=
      fun millis member => aloof millis (.tail _ member)
    have stays {left : List Action} {first second : Option Timer}
        (same : Halt.waiting (action :: rest) first = .waiting left second) :
        ∀ millis, .advanceClock millis ∉ left := by
      cases same
      exact aloof
    cases action with
    | cancelCaller =>
      obtain ⟨scene, waits⟩ := inductionHypothesis (engine.fireToken id) later none
      exact ⟨scene.trans (scene_fireToken engine id), waits⟩
    | advanceClock millis => exact absurd (List.Mem.head rest) (aloof millis)
    | sleep millis =>
      have kept := scene_keepTimer engine (.ofMillis millis) timer
      unfold act
      generalize engine.keepTimer (.ofMillis millis) timer = set at kept ⊢
      rcases set with ⟨due, after⟩
      split
      · exact ⟨rfl, fun _ _ => stays⟩
      · simp only
        split
        · obtain ⟨scene, waits⟩ := inductionHypothesis after.endWait later none
          exact ⟨scene.trans kept, waits⟩
        · exact ⟨kept, fun _ _ => stays⟩
    | awaitGate =>
      unfold act
      split
      · exact ⟨rfl, fun _ _ => stays⟩
      · split
        · split
          · exact inductionHypothesis (Engine.endWait _) later none
          · exact ⟨rfl, fun _ _ => stays⟩
        · exact ⟨rfl, fun _ _ => stays⟩
    | crash => exact ⟨rfl, nofun⟩

theorem proceedHandler_aloof (engine : Engine α) (id : TaskId) {rest : Behaviour Failure}
    (aloof : rest.Aloof) (timer : Option Timer) :
    (engine.proceedHandler id rest timer).2.scene = engine.scene ∧
      ∀ later, (engine.proceedHandler id rest timer).1 = .later later →
        ∃ left timer', later = .handler left timer' ∧ left.Aloof := by
  obtain ⟨scene, waits⟩ := act_aloof engine id aloof timer
  unfold proceedHandler
  generalize engine.act id rest.actions timer = acts at scene waits ⊢
  rcases acts with ⟨halt, after⟩
  cases halt with
  | finished => exact ⟨scene, nofun⟩
  | crashed => exact ⟨scene, nofun⟩
  | waiting actions timer =>
    refine ⟨scene, fun later same => ?_⟩
    cases same
    exact ⟨_, _, rfl, waits actions timer rfl⟩

theorem handle_aloof (aloof : engine.handlers.Aloof) (id : TaskId) (task : Task α) (name : String)
    (fault : Fault) {wait : Wait} (waits : wait.Aloof) :
    (engine.handle id task name fault wait).2.scene = engine.scene ∧
      ∀ later, (engine.handle id task name fault wait).1 = .later later →
        ∃ left timer, later = .handler left timer ∧ left.Aloof := by
  unfold handle
  split
  · exact proceedHandler_aloof engine id waits _
  · split
    next respond found =>
      exact proceedHandler_aloof engine id (aloof name respond found task.input fault) none
    next => exact ⟨rfl, nofun⟩

def settled (engine : Engine α) (id : TaskId) : Scene :=
  match engine.holding? id with
  | some holding => engine.scene.vacate holding.operation holding.place
  | none => engine.scene

theorem settled_of_holding {holding : Holding α} (held : engine.holding? id = some holding) :
    engine.settled id = engine.scene.vacate holding.operation holding.place := by
  unfold settled
  rw [held]

theorem settled_congr (scene : after.scene = before.scene)
    (held : after.holding? id = before.holding? id) : after.settled id = before.settled id := by
  unfold settled
  rw [scene, held]

theorem scene_leavePlace (engine : Engine α) (id : TaskId) (task : Task α) :
    (engine.leavePlace id task).scene = engine.scene.vacate task.operation task.place := by
  unfold leavePlace
  split
  next free =>
    rw [free]
    rfl
  next place held =>
    rw [held, scene_changeBulkhead, scene_modifyTask]
    rfl

theorem holding?_leavePlace (found : engine.tasks.get? id = some task) :
    (engine.leavePlace id task).holding? id = some { task.holding with place := none } := by
  have here := holding?_of_found found
  cases held : task.place with
  | none =>
    rw [leavePlace_of_free held, here]
    unfold Task.holding
    rw [held]
  | some place =>
    rw [(retains_leavePlace held).tasks, holding?_setPlace, if_pos rfl]
    exact congrArg (Option.map _) here

/-- Whether a task is past its guarded part: it holds no permit, and leaves this scene behind as
soon as it has given back its place. -/
structure Nears (engine : Engine α) (id : TaskId) (operation : OperationId) (scene : Scene) :
    Prop where
  held : ∃ holding, engine.holding? id = some holding ∧ holding.operation = operation ∧
    holding.permit = none
  settled : engine.settled id = scene

structure Ready (operation : OperationId) (scene : Scene) : Prop where
  known : (scene.states operation).isSome = true
  prompt : scene.Prompt
  vacant : scene.gate.Vacant

section Ending

variable {operation : OperationId} {scene : Scene}

namespace Nears

theorem found (nears : engine.Nears id operation scene) :
    ∃ task, engine.tasks.get? id = some task ∧ task.operation = operation ∧ task.permit = none ∧
      engine.scene.vacate operation task.place = scene := by
  obtain ⟨holding, held, rfl, permit⟩ := nears.held
  obtain ⟨task, found, rfl⟩ := found_of_holding held
  exact ⟨task, found, rfl, permit, (settled_of_holding held).symm.trans nears.settled⟩

theorem ready (nears : engine.Nears id operation scene) (ready : Ready operation scene) :
    Ready operation engine.scene := by
  obtain ⟨task, -, -, -, rfl⟩ := nears.found
  obtain ⟨known, prompt, vacant⟩ := ready
  simp only [Scene.known_vacate, Scene.gate_vacate] at known vacant
  exact ⟨known, fun operation event part closing held =>
    prompt operation event part closing (Scene.stallOn_vacate.trans held), vacant⟩

theorem congr (nears : before.Nears id operation scene) (same : after.scene = before.scene)
    (held : after.holding? id = before.holding? id) : after.Nears id operation scene where
  held := held.symm ▸ nears.held
  settled := (settled_congr same held).trans nears.settled

theorem leave (nears : engine.Nears id operation scene)
    (found : engine.tasks.get? id = some task) :
    (engine.leavePlace id task).Nears id operation scene := by
  obtain ⟨other, here, same, permit, settles⟩ := nears.found
  cases found.symm.trans here
  have held := holding?_leavePlace found
  refine ⟨⟨_, held, same, permit⟩, (settled_of_holding held).trans ?_⟩
  rw [← settles, ← same]
  exact scene_leavePlace engine id task

theorem suspend (nears : engine.Nears id operation scene) (plan : Plan α) (wait : Wait) :
    (engine.suspend id plan wait).Nears id operation scene := by
  obtain ⟨task, found, rfl, permit, settles⟩ := nears.found
  have held : (engine.suspend id plan wait).holding? id =
      some { task.holding with progress := .suspended plan wait } :=
    (holding?_setProgress engine id id (.suspended plan wait)).trans
      ((if_pos rfl).trans (congrArg _ (holding?_of_found found)))
  exact ⟨⟨_, held, rfl, permit⟩, (settled_of_holding held).trans settles⟩

end Nears

/-- Whoever releases what is left at the end has only a place to give back. -/
theorem Nears.release (nears : engine.Nears id operation scene) (ready : Ready operation scene)
    (found : engine.tasks.get? id = some task) : (engine.release id task).scene = scene := by
  obtain ⟨other, here, rfl, permit, settles⟩ := nears.found
  cases found.symm.trans here
  have vacant := (nears.ready ready).vacant
  have gate : (engine.changeGate (·.leave id)).scene = engine.scene := by
    rw [scene_changeGate, Slots.leave_of_vacant vacant]
  unfold Engine.release
  rw [dropPermit_of_free permit, scene_leavePlace, gate]
  exact settles

theorem Nears.finish (nears : engine.Nears id operation scene) (ready : Ready operation scene)
    (result : Option α) : (engine.finish id result).scene = scene := by
  obtain ⟨task, found, -⟩ := nears.found
  have released := nears.release ready found
  unfold Engine.finish
  rw [found]
  exact released

theorem isRunning_finish (engine : Engine α) (id : TaskId) (result : Option α) :
    (engine.finish id result).isRunning id = false := by
  unfold isRunning
  split
  next task found =>
    have ended : task.progress = ending result := core?_finish result (core?_of_found found)
    unfold Task.isRunning
    rw [ended]
    cases result <;> rfl
  next => rfl

theorem prompt_stalls (prompt : engine.scene.Prompt) (operation : OperationId) {event : Event}
    (closing : event.isClosing = true) :
    (engine.sink.record ⟨operation, event⟩).stalls ⟨operation, event⟩ = false := by
  unfold Sink.stalls
  rw [Sink.stallOn_record]
  split
  next part held => exact prompt operation event part closing held
  next => rfl

/-- After the fallback nobody waits any more, and nothing shows but a place that is given back. -/
theorem Nears.settling (nears : engine.Nears id operation scene) (ready : Ready operation scene)
    (found : engine.tasks.get? id = some task) {request : Request}
    (settling : request.Settling) :
    ∃ answer, (engine.answer id task request .unbegun).1 = .now answer ∧
      (engine.answer id task request .unbegun).2.Nears id operation scene := by
  have keeps (off : request.OffBulkhead) :=
    (answer_retains engine id task settling.closing.offBreaker off .unbegun).tasks id
  obtain ⟨other, here, rfl, -⟩ := nears.found
  cases found.symm.trans here
  have near := nears.ready ready
  cases request with
  | time => exact ⟨_, rfl, nears⟩
  | log line => exact ⟨_, rfl, nears.congr rfl rfl⟩
  | count counter amount =>
    refine ⟨_, rfl, nears.congr ?_ (keeps trivial)⟩
    refine (scene_setState engine _ _).trans ?_
    have closing : counter.isClosing = true := settling
    rw [OperationState.cleared_count, if_pos closing, stateOf_cleared, Scene.set_getD near.known]
  | emit event =>
    have sent : engine.send id ⟨task.operation, event⟩ .unbegun = (.now (), engine) ∨
        engine.send id ⟨task.operation, event⟩ .unbegun =
          (.now (), { engine with sink := engine.sink.record ⟨task.operation, event⟩ }.write
            (engine.sink.recordLines ⟨task.operation, event⟩)) := by
      have passes := prompt_stalls near.prompt task.operation settling
      unfold send
      simp only
      split
      · exact .inl rfl
      · exact .inr (if_neg (ne_true_of_eq_false passes))
    have recorded := congrArg View.scene (record_view engine id ⟨task.operation, event⟩)
    refine ⟨(), ?_, nears.congr ?_ (keeps trivial)⟩
    · exact sent.elim (congrArg Prod.fst) (congrArg Prod.fst)
    · show (engine.send id ⟨task.operation, event⟩ .unbegun).2.scene = engine.scene
      rcases sent with passed | kept
      · rw [passed]
      · rw [kept]
        exact recorded
  | leaveBulkhead => exact ⟨_, rfl, nears.leave found⟩
  | _ => exact settling.elim

end Ending

end Engine

namespace Move

variable {α : Type}

def Closing (move : Move α) : Prop :=
  move.call? = none ∧ ∀ occurrence, move.occurrence? = some occurrence →
    occurrence.event.isClosing = true

variable {move : Move α}

theorem Closing.of_idle (idle : move.deed = .aborted ∨ ∃ result, move.deed = .finished result) :
    move.Closing := by
  refine ⟨call?_eq_none idle, fun occurrence told => ?_⟩
  unfold occurrence? at told
  rw [asked?_eq_none idle] at told
  cases told

theorem Closing.of_asked {task : Task α} {request : Request} {wait : Wait}
    (found : move.before.tasks.get? move.id = some task)
    (about : (∃ answer, move.deed = .answered ⟨request, answer⟩ wait) ∨
      move.deed = .waited request wait ∨ move.deed = .crashed request wait)
    (closing : request.Closing) : move.Closing := by
  constructor
  · rw [call?_of_found found about]
    cases request <;> first | rfl | exact closing.elim
  · intro occurrence told
    unfold occurrence? at told
    rw [asked?_of_found found about] at told
    obtain ⟨event, sent, rfl⟩ := Option.map_eq_some_iff.mp told
    cases request with
    | emit other =>
      cases wait <;> cases sent <;> exact closing
    | _ => cases sent

def Consults (move : Move α) : Prop :=
  ∃ operation name fault wait, move.asked? = some (operation, .handle name fault, wait)

theorem Consults.of_asked {task : Task α} {name : String} {fault : Fault} {wait : Wait}
    (found : move.before.tasks.get? move.id = some task)
    (about : (∃ answer, move.deed = .answered ⟨.handle name fault, answer⟩ wait) ∨
      move.deed = .waited (.handle name fault) wait ∨
        move.deed = .crashed (.handle name fault) wait) : move.Consults :=
  ⟨_, _, _, _, asked?_of_found found about⟩

end Move

namespace Engine

variable {α : Type} {engine : Engine α} {id : TaskId} {operation : OperationId} {scene : Scene}

/-- How the end of an invocation stands while nobody goes on: it is over, or it waits for its
fallback handler. -/
inductive Concludes (engine : Engine α) (id : TaskId) (operation : OperationId) (scene : Scene) :
    Prop
  | ended (left : engine.scene = scene) (rests : engine.isRunning id = false) :
      Concludes engine id operation scene
  | handling {task : Task α} {name : String} {fault : Fault}
      {next : (Request.handle name fault).Answer → Plan α} {rest : Behaviour Failure}
      {timer : Option Timer} (nears : engine.Nears id operation scene)
      (found : engine.tasks.get? id = some task)
      (suspended : task.progress =
        .suspended (.ask (.handle name fault) next) (.handler rest timer))
      (settles : ∀ answer, (next answer).Uses Request.Settling) (aloof : rest.Aloof) :
      Concludes engine id operation scene

/-- What follows the fallback goes on to the end at once, and returns. -/
theorem Nears.run (nears : engine.Nears id operation scene) (ready : Ready operation scene)
    {plan : Plan α} (settles : plan.Uses Request.Settling) :
    (engine.run id plan .unbegun).Concludes id operation scene ∧
      (∀ move ∈ engine.moves id plan .unbegun, move.Closing) ∧
        ∃ move ∈ engine.moves id plan .unbegun, ∃ result, move.result? = some result := by
  induction plan generalizing engine with
  | done result =>
    refine ⟨.ended (nears.finish ready _) (isRunning_finish engine id _), ?_, _, .head _, _, rfl⟩
    exact List.forall_mem_singleton.mpr (.of_idle (.inr ⟨result, rfl⟩))
  | ask request next inductionHypothesis =>
    obtain ⟨settling, later⟩ := settles
    obtain ⟨task, found, -⟩ := nears.found
    obtain ⟨answer, replies, near⟩ := nears.settling ready found settling
    unfold Engine.run moves
    simp only [found]
    generalize engine.answer id task request .unbegun = replied at replies near ⊢
    rcases replied with ⟨reply, after⟩
    cases replies
    obtain ⟨concludes, closing, last, made, returned⟩ :=
      inductionHypothesis answer near (later answer)
    refine ⟨concludes, List.forall_mem_cons.mpr ⟨?_, closing⟩, last, .tail _ made, returned⟩
    exact .of_asked found (.inl ⟨answer, rfl⟩) settling.closing

/-- A fallback handler may be waited for, and then what follows it goes on to the end. -/
theorem Nears.run_handle (nears : engine.Nears id operation scene) (ready : Ready operation scene)
    (aloof : engine.handlers.Aloof) {name : String} {fault : Fault}
    {next : (Request.handle name fault).Answer → Plan α}
    (settles : ∀ answer, (next answer).Uses Request.Settling) {wait : Wait} (waits : wait.Aloof) :
    (engine.run id (.ask (.handle name fault) next) wait).Concludes id operation scene ∧
      (∀ move ∈ engine.moves id (.ask (.handle name fault) next) wait, move.Closing) ∧
        ∃ move ∈ engine.moves id (.ask (.handle name fault) next) wait, move.Consults := by
  obtain ⟨task, found, -⟩ := nears.found
  obtain ⟨same, awaits⟩ := handle_aloof aloof id task name fault waits
  have held := (answer_retains engine id task
    (show (Request.handle name fault).OffBreaker from trivial) trivial wait).tasks id
  have near := nears.congr same held
  have asked : (Request.handle name fault).Closing := trivial
  unfold Engine.run moves
  simp only [found, show engine.answer id task (.handle name fault) wait =
    engine.handle id task name fault wait from rfl]
  generalize engine.handle id task name fault wait = replied at same awaits near ⊢
  rcases replied with ⟨reply, after⟩
  cases reply with
  | now answer =>
    obtain ⟨concludes, closing, -⟩ := near.run ready (settles answer)
    have about : (∃ given, (Deed.answered ⟨.handle name fault, answer⟩ wait : Deed α) =
        .answered ⟨.handle name fault, given⟩ wait) := ⟨answer, rfl⟩
    refine ⟨concludes, List.forall_mem_cons.mpr ⟨?_, closing⟩, _, .head _, ?_⟩
    · exact .of_asked found (.inl about) asked
    · exact .of_asked found (.inl about)
  | later later =>
    obtain ⟨rest, timer, rfl, aloof⟩ := awaits later rfl
    refine ⟨?_, List.forall_mem_singleton.mpr (.of_asked found (.inr (.inl rfl)) asked), _,
      .head _, .of_asked found (.inr (.inl rfl))⟩
    obtain ⟨waiting, here, -⟩ := near.found
    have suspended := get?_modifyTask after id id fun task =>
      { task with progress := .suspended (.ask (.handle name fault) next) (.handler rest timer) }
    rw [if_pos rfl, here] at suspended
    exact .handling (near.suspend _ _) suspended rfl settles aloof
  | crash =>
    refine ⟨.ended (near.finish ready _) (isRunning_finish after id _),
      List.forall_mem_singleton.mpr (.of_asked found (.inr (.inr rfl)) asked), _, .head _,
      .of_asked found (.inr (.inr rfl))⟩

end Engine

end Resilience
