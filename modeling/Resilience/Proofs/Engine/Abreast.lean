import Resilience.Proofs.Engine.Narration
import Resilience.Proofs.Engine.Shift
import Resilience.Proofs.Engine.Twins

/-!
Engines abreast: the same invocations, one after the other, in two engines whose policies differ in
their fallbacks only. The fallbacks change what some invocations answer, and nothing else that can
be noticed.
-/

namespace Resilience

open Move Invocation

/-- Two engines that go on side by side: they do the same invocations, one after the other, and the
same happens to them from outside, but for what concerns their policies and handlers and the order
of their tasks. Whenever a task goes on, or something else is changed, they can be compared. -/
inductive Abreast :
    List (Move Outcome) → Engine Outcome → List (Move Outcome) → Engine Outcome → Prop
  | start (engine : Engine Outcome) (registry : Registry) (handlers : Handlers)
      (vacant : engine.sink.gate.Vacant) :
      Abreast [] engine.idle [] { engine.idle with registry, handlers }
  | invoke {moves moves' : List (Move Outcome)} {engine twin : Engine Outcome}
      (abreast : Abreast moves engine moves' twin) (rests : ∀ id, engine.isRunning id = false)
      (rests' : ∀ id, twin.isRunning id = false) (operation : OperationId) (input : String)
      (service : Service) (linked cancelled : Bool) :
      Abreast moves
        (engine.spawn (Engine.invocation operation input service linked cancelled)).2 moves'
        (twin.spawn (Engine.invocation operation input service linked cancelled)).2
  | poll {moves moves' : List (Move Outcome)} {engine twin : Engine Outcome}
      (abreast : Abreast moves engine moves' twin) (comparable : engine.Comparable twin)
      (left : engine.stint.left = twin.stint.left) (id : TaskId) :
      Abreast (moves ++ engine.turn id) (engine.poll id) (moves' ++ twin.turn id) (twin.poll id)
  | change {moves moves' : List (Move Outcome)} {engine twin : Engine Outcome}
      (abreast : Abreast moves engine moves' twin) (comparable : engine.Comparable twin)
      (change : Change Outcome) (joint : change.Joint) :
      Abreast moves (change.apply engine) moves' (change.apply twin)
  | amend {moves moves' : List (Move Outcome)} {engine twin : Engine Outcome}
      (abreast : Abreast moves engine moves' twin) (change : Change Outcome)
      (apart : change.Apart) : Abreast moves (change.apply engine) moves' twin
  | amendTwin {moves moves' : List (Move Outcome)} {engine twin : Engine Outcome}
      (abreast : Abreast moves engine moves' twin) (change : Change Outcome)
      (apart : change.Apart) : Abreast moves engine moves' (change.apply twin)
  | abort {moves moves' : List (Move Outcome)} {engine twin : Engine Outcome}
      (abreast : Abreast moves engine moves' twin) (id : TaskId) (known : id < engine.nextTask) :
      Abreast (moves ++ [⟨id, engine, .aborted, engine.abort id⟩]) (engine.abort id)
        (moves' ++ [⟨id, twin, .aborted, twin.abort id⟩]) (twin.abort id)

/-- Whether a task was started as an invocation, and these are the moves that led here. -/
inductive Launched (id : TaskId) (operation : OperationId) (input : String) (service : Service)
    (moves : List (Move Outcome)) (engine : Engine Outcome) : Prop
  | launched {before : Engine Outcome} {linked cancelled : Bool}
      {prior later : List (Move Outcome)} (next : before.nextTask = id)
      (path : moves = prior ++ later) (others : own id prior = [])
      (run : Run ⟨(before.spawn (Engine.invocation operation input service linked cancelled)).2,
        none⟩ later ⟨engine, none⟩) : Launched id operation input service moves engine

theorem Launched.run {id : TaskId} {operation : OperationId} {input : String} {service : Service}
    {moves more : List (Move Outcome)} {engine after : Engine Outcome}
    (launched : Launched id operation input service moves engine)
    (goes : Run ⟨engine, none⟩ more ⟨after, none⟩) :
    Launched id operation input service (moves ++ more) after := by
  cases launched with
  | launched next path others run =>
    refine .launched next ?_ others (run.trans goes)
    rw [path, List.append_assoc]

structure Entered (id : TaskId) (operation : OperationId) (input : String) (service : Service)
    (moves : List (Move Outcome)) (engine : Engine Outcome) (moves' : List (Move Outcome))
    (twin : Engine Outcome) : Prop where
  launched : Launched id operation input service moves engine
  launched' : Launched id operation input service moves' twin
  alongside : Alongside operation (service.plan operation) (history (own id moves))
    (history (own id moves'))
  tied : Tied (own id moves) (own id moves')

/-- What is known of a task in two engines: it was the same invocation in both, or it was none. -/
inductive Tracked (id : TaskId) (moves : List (Move Outcome)) (engine : Engine Outcome)
    (moves' : List (Move Outcome)) (twin : Engine Outcome) : Prop
  | foreign (unfinished : ∀ move ∈ own id moves, move.result? = none)
      (unfinished' : ∀ move ∈ own id moves', move.result? = none)
  | entered {operation : OperationId} {input : String} {service : Service}
      (entered : Entered id operation input service moves engine moves' twin)

structure Silent (moves : List (Move Outcome)) : Prop where
  untold : history moves = []
  unfinished : ∀ move ∈ moves, move.result? = none

theorem Silent.nil : Silent [] := ⟨rfl, fun _ none => absurd none List.not_mem_nil⟩

section Records

variable {id : TaskId} {operation : OperationId} {input : String} {service : Service}
  {moves moves' more more' : List (Move Outcome)} {engine twin after after' : Engine Outcome}

/-- An invocation that is told nothing and returns nothing has come as far as before. -/
theorem Entered.goes (entered : Entered id operation input service moves engine moves' twin)
    (run : Run ⟨engine, none⟩ more ⟨after, none⟩) (run' : Run ⟨twin, none⟩ more' ⟨after', none⟩)
    (silent : Silent (own id more)) (silent' : Silent (own id more')) :
    Entered id operation input service (moves ++ more) after (moves' ++ more') after' := by
  refine ⟨entered.launched.run run, entered.launched'.run run', ?_, ?_⟩
  · rw [own_append, own_append, history_concat, history_concat, silent.untold, silent'.untold,
      List.append_nil, List.append_nil]
    exact entered.alongside
  · rw [own_append, own_append]
    exact entered.tied.append (.of_unfinished silent.unfinished silent'.unfinished)

theorem Tracked.goes (tracked : Tracked id moves engine moves' twin)
    (run : Run ⟨engine, none⟩ more ⟨after, none⟩) (run' : Run ⟨twin, none⟩ more' ⟨after', none⟩)
    (silent : Silent (own id more)) (silent' : Silent (own id more')) :
    Tracked id (moves ++ more) after (moves' ++ more') after' := by
  cases tracked with
  | foreign earlier earlier' =>
    refine .foreign ?_ ?_
    · rw [own_append]
      exact List.forall_mem_append.mpr ⟨earlier, silent.unfinished⟩
    · rw [own_append]
      exact List.forall_mem_append.mpr ⟨earlier', silent'.unfinished⟩
  | entered entered => exact .entered (entered.goes run run' silent silent')

/-- What makes no moves leaves an invocation as far as it has come. -/
theorem Entered.stays (entered : Entered id operation input service moves engine moves' twin)
    (run : Run ⟨engine, none⟩ [] ⟨after, none⟩) (run' : Run ⟨twin, none⟩ [] ⟨after', none⟩) :
    Entered id operation input service moves after moves' after' := by
  have goes := entered.goes run run' .nil .nil
  rwa [List.append_nil, List.append_nil] at goes

theorem Tracked.stays (tracked : Tracked id moves engine moves' twin)
    (run : Run ⟨engine, none⟩ [] ⟨after, none⟩) (run' : Run ⟨twin, none⟩ [] ⟨after', none⟩) :
    Tracked id moves after moves' after' := by
  cases tracked with
  | foreign unfinished unfinished' => exact .foreign unfinished unfinished'
  | entered entered => exact .entered (entered.stays run run')

end Records

/-- How two engines abreast stand: nothing runs in either, or one invocation may. -/
inductive Stance (moves : List (Move Outcome)) (engine : Engine Outcome)
    (moves' : List (Move Outcome)) (twin : Engine Outcome) : Prop
  | idle (scenes : engine.scene = twin.scene) (vacant : engine.sink.gate.Vacant)
      (rests : ∀ id, engine.isRunning id = false) (rests' : ∀ id, twin.isRunning id = false)
  | busy {id : TaskId} {operation : OperationId} {input : String} {service : Service}
      (entered : Entered id operation input service moves engine moves' twin)
      (known : id < engine.nextTask)
      (footing : Engine.Footing operation service id engine twin (history (own id moves))
        (history (own id moves')))
      (rests : ∀ other, other ≠ id → engine.isRunning other = false)
      (rests' : ∀ other, other ≠ id → twin.isRunning other = false)

structure Paired (moves : List (Move Outcome)) (engine : Engine Outcome)
    (moves' : List (Move Outcome)) (twin : Engine Outcome) : Prop where
  calls : bodyCalls moves' = bodyCalls moves
  events : guardEvents moves' = guardEvents moves
  nextTask : twin.nextTask = engine.nextTask
  moved : ∀ move ∈ moves, move.id < engine.nextTask
  moved' : ∀ move ∈ moves', move.id < engine.nextTask
  stance : Stance moves engine moves' twin
  records : ∀ id, Tracked id moves engine moves' twin

namespace Engine

variable {α : Type} {engine after : Engine α} {id : TaskId}

theorem isRunning_congr (held : after.holding? id = engine.holding? id) :
    after.isRunning id = engine.isRunning id := by
  have running (engine : Engine α) :
      engine.isRunning id = (engine.holding? id).elim false Holding.isRunning := by
    unfold isRunning holding?
    cases engine.tasks.get? id <;> rfl
  rw [running, running, held]

theorem Isolates.isRunning {other : TaskId} (isolates : Isolates id engine after)
    (differs : other ≠ id) : after.isRunning other = engine.isRunning other :=
  isRunning_congr (isolates.tasks other differs)

theorem scene_spawn (engine : Engine α) (task : Task α) :
    (engine.spawn task).2.scene = { engine.scene with nextTask := engine.scene.nextTask + 1 } :=
  scene_wake { engine with
    tasks := engine.tasks.set engine.nextTask task, nextTask := engine.nextTask + 1 } _

theorem isRunning_spawn (engine : Engine α) (task : Task α) {other : TaskId}
    (differs : other ≠ engine.nextTask) :
    (engine.spawn task).2.isRunning other = engine.isRunning other := by
  refine isRunning_congr ?_
  rw [holding?_spawn, if_neg (Ne.symm differs)]

/-- An invocation starts equally far in two engines that look alike. -/
theorem Footing.spawn {engine twin : Engine Outcome} (scenes : engine.scene = twin.scene)
    (vacant : engine.sink.gate.Vacant) (operation : OperationId) (input : String)
    (service : Service) (linked cancelled : Bool) :
    Footing operation service engine.nextTask
      (engine.spawn (invocation operation input service linked cancelled)).2
      (twin.spawn (invocation operation input service linked cancelled)).2 [] [] := by
  have nextTask : twin.nextTask = engine.nextTask :=
    congrArg Scene.nextTask scenes.symm
  have here := engine.get?_starting (invocation operation input service linked cancelled)
  have there := twin.get?_starting (invocation operation input service linked cancelled)
  rw [nextTask] at there
  have here : (engine.spawn (invocation operation input service linked cancelled)).2.tasks.get?
      engine.nextTask = some (invocation operation input service linked cancelled) := here
  have there : (twin.spawn (invocation operation input service linked cancelled)).2.tasks.get?
      engine.nextTask = some (invocation operation input service linked cancelled) := there
  have gate : (engine.spawn (invocation operation input service linked cancelled)).2.sink.gate =
      engine.sink.gate := congrArg Scene.gate (scene_spawn engine _)
  refine .together ⟨?_, ?_, ⟨_, here, rfl, rfl⟩, .start _, nofun, .inl ?_⟩
    (.fresh (service_parallel service operation)) (fun task found => ?_) fun task found => ?_
  · rw [scene_spawn, scene_spawn, scenes]
  · rw [here, there]
  · rw [gate]
    exact vacant
  · cases here.symm.trans found
    rfl
  · cases there.symm.trans found
    rfl

end Engine

variable {moves moves' : List (Move Outcome)} {engine twin : Engine Outcome}

theorem own_fresh {id : TaskId} (moved : ∀ move ∈ moves, move.id < id) : own id moves = [] :=
  own_of_others fun move member => Nat.ne_of_lt (moved move member)

/-- Where nothing runs any more, the scenes are the same, and nobody waits at the gate of the
sink. -/
theorem Stance.settles (stance : Stance moves engine moves' twin)
    (rests : ∀ id, engine.isRunning id = false) (rests' : ∀ id, twin.isRunning id = false) :
    engine.scene = twin.scene ∧ engine.sink.gate.Vacant := by
  cases stance with
  | idle scenes vacant => exact ⟨scenes, vacant⟩
  | @busy id _ _ _ _ _ footing => exact footing.settles (rests id) (rests' id)

theorem Silent.abort (engine : Engine Outcome) (id other : TaskId) :
    Silent (own other [⟨id, engine, .aborted, engine.abort id⟩]) := by
  have only {move : Move Outcome}
      (member : move ∈ own other [⟨id, engine, .aborted, engine.abort id⟩]) :
      move = ⟨id, engine, .aborted, engine.abort id⟩ :=
    List.mem_singleton.mp (List.mem_filter.mp member).1
  exact ⟨history_of_aborted fun move member => only member ▸ rfl,
    fun move member => only member ▸ rfl⟩

theorem rests_abort {id other : TaskId} (rests : other ≠ id → engine.isRunning other = false) :
    (engine.abort id).isRunning other = false := by
  by_cases same : other = id
  · exact same ▸ engine.isRunning_abort id
  · exact ((Engine.Isolates.abort engine id).isRunning same).trans (rests same)

/-- A task that is ended in both engines leaves the same behind. -/
theorem Stance.abort (stance : Stance moves engine moves' twin) (id : TaskId) :
    Stance (moves ++ [⟨id, engine, .aborted, engine.abort id⟩]) (engine.abort id)
      (moves' ++ [⟨id, twin, .aborted, twin.abort id⟩]) (twin.abort id) := by
  cases stance with
  | idle scenes vacant rests rests' =>
    obtain ⟨left, -⟩ := Engine.abort_of_ended (rests id)
    obtain ⟨left', -⟩ := Engine.abort_of_ended (rests' id)
    refine .idle (left.trans (scenes.trans left'.symm)) ?_
      (fun other => rests_abort fun _ => rests other) fun other => rests_abort fun _ => rests' other
    show (engine.abort id).scene.gate.Vacant
    rw [left]
    exact vacant
  | @busy active _ _ _ entered known footing rests rests' =>
    by_cases same : id = active
    · subst same
      obtain ⟨scenes, vacant⟩ := footing.abort
      exact .idle scenes vacant (fun other => rests_abort (rests other))
        fun other => rests_abort (rests' other)
    · obtain ⟨left, kept⟩ := Engine.abort_of_ended (rests id same)
      obtain ⟨left', kept'⟩ := Engine.abort_of_ended (rests' id same)
      have footing := footing.congr left left' (kept active (Ne.symm same))
        (kept' active (Ne.symm same))
      have elsewhere (engine : Engine Outcome) : ∀ move ∈
          [(⟨id, engine, .aborted, engine.abort id⟩ : Move Outcome)], move.id ≠ active :=
        List.forall_mem_singleton.mpr same
      rw [← own_append_of_others (elsewhere engine) moves,
        ← own_append_of_others (elsewhere twin) moves'] at footing
      exact .busy (entered.goes (.single (.abort engine id)) (.single (.abort twin id))
          (.abort engine id active) (.abort twin id active))
        ((Engine.Isolates.abort engine id).nextTask.symm ▸ known) footing
        (fun other differs => rests_abort fun _ => rests other differs)
        fun other differs => rests_abort fun _ => rests' other differs

namespace Paired

theorem start (engine : Engine Outcome) (registry : Registry) (handlers : Handlers)
    (vacant : engine.sink.gate.Vacant) :
    Paired [] engine.idle [] { engine.idle with registry, handlers } where
  calls := rfl
  events := rfl
  nextTask := rfl
  moved := fun _ none => absurd none List.not_mem_nil
  moved' := fun _ none => absurd none List.not_mem_nil
  stance := .idle rfl vacant (fun _ => rfl) fun _ => rfl
  records := fun _ => .foreign (fun _ none => absurd none List.not_mem_nil)
    fun _ none => absurd none List.not_mem_nil

theorem invoke (paired : Paired moves engine moves' twin)
    (rests : ∀ id, engine.isRunning id = false) (rests' : ∀ id, twin.isRunning id = false)
    (operation : OperationId) (input : String) (service : Service) (linked cancelled : Bool) :
    Paired moves (engine.spawn (Engine.invocation operation input service linked cancelled)).2
      moves' (twin.spawn (Engine.invocation operation input service linked cancelled)).2 := by
  obtain ⟨scenes, vacant⟩ := paired.stance.settles rests rests'
  have nothing := own_fresh paired.moved
  have nothing' := own_fresh paired.moved'
  have same := paired.nextTask
  have entered : Entered engine.nextTask operation input service moves
      (engine.spawn (Engine.invocation operation input service linked cancelled)).2 moves'
      (twin.spawn (Engine.invocation operation input service linked cancelled)).2 := by
    refine ⟨.launched rfl (List.append_nil moves).symm nothing .refl,
      .launched same (List.append_nil moves').symm nothing' .refl, ?_, ?_⟩
    · rw [nothing, nothing']
      exact .level (.start _) (service_parallel service operation)
    · rw [nothing, nothing']
      exact .inr .rfl
  refine ⟨paired.calls, paired.events, ?_, fun move member => ?_, fun move member => ?_, ?_,
    fun id => ?_⟩
  · rw [Engine.nextTask_spawn, Engine.nextTask_spawn, same]
  · rw [Engine.nextTask_spawn]
    exact Nat.lt_succ_of_lt (paired.moved move member)
  · rw [Engine.nextTask_spawn]
    exact Nat.lt_succ_of_lt (paired.moved' move member)
  · refine .busy entered ?_ ?_ (fun other differs => ?_) fun other differs => ?_
    · rw [Engine.nextTask_spawn]
      exact Nat.lt_succ_self _
    · rw [nothing, nothing']
      exact .spawn scenes vacant operation input service linked cancelled
    · exact (Engine.isRunning_spawn engine _ differs).trans (rests other)
    · exact (Engine.isRunning_spawn twin _ (same.symm ▸ differs)).trans (rests' other)
  · by_cases fresh : id = engine.nextTask
    · subst fresh
      exact .entered entered
    · exact (paired.records id).stays (.single (.change engine (.spawn _)))
        (.single (.change twin (.spawn _)))

/-- What changes both engines alike, or shows nowhere, leaves them standing as they did. -/
theorem change (paired : Paired moves engine moves' twin) {change : Change Outcome}
    {registered : OperationId → Bool} {after after' : Engine Outcome}
    (shifted : ∀ id, Engine.Shifted change registered id engine after)
    (shifted' : ∀ id, Engine.Shifted change registered id twin after')
    (run : Run ⟨engine, none⟩ [] ⟨after, none⟩) (run' : Run ⟨twin, none⟩ [] ⟨after', none⟩)
    (nextTask : after.nextTask = engine.nextTask) (nextTask' : after'.nextTask = twin.nextTask) :
    Paired moves after moves' after' := by
  refine ⟨paired.calls, paired.events, ?_, ?_, ?_, ?_, fun id => ?_⟩
  · rw [nextTask, nextTask', paired.nextTask]
  · rw [nextTask]
    exact paired.moved
  · rw [nextTask]
    exact paired.moved'
  · cases paired.stance with
    | idle scenes vacant rests rests' =>
      refine .idle ?_ ?_ (fun id => (shifted id).isRunning.trans (rests id))
        fun id => (shifted' id).isRunning.trans (rests' id)
      · rw [(shifted 0).scene, (shifted' 0).scene, scenes]
      · have gate : after.sink.gate = (change.shift registered engine.scene).gate :=
          congrArg Scene.gate (shifted 0).scene
        rw [gate]
        exact Change.vacant_shift vacant
    | @busy id operation input service entered known footing rests rests' =>
      exact .busy (entered.stays run run') (nextTask.symm ▸ known)
        (footing.shift (shifted id) (shifted' id))
        (fun other differs => (shifted other).isRunning.trans (rests other differs))
        fun other differs => (shifted' other).isRunning.trans (rests' other differs)
  · exact (paired.records id).stays run run'

/-- The invocation in progress goes on in both engines, and shows the same. -/
theorem proceed (paired : Paired moves engine moves' twin) {id : TaskId} {operation : OperationId}
    {input : String} {service : Service}
    (entered : Entered id operation input service moves engine moves' twin)
    (known : id < engine.nextTask)
    (reaches : Engine.Reaches operation service id (engine.poll id) (twin.poll id)
      (history (own id moves)) (history (own id moves')) (engine.turn id) (twin.turn id))
    (rests : ∀ other, other ≠ id → engine.isRunning other = false)
    (rests' : ∀ other, other ≠ id → twin.isRunning other = false) :
    Paired (moves ++ engine.turn id) (engine.poll id) (moves' ++ twin.turn id) (twin.poll id) := by
  obtain ⟨isolates, mine⟩ := engine.poll_isolates id
  obtain ⟨isolates', mine'⟩ := twin.poll_isolates id
  have run := engine.run_turn id
  have run' := twin.run_turn id
  obtain ⟨footing, calls, events, tied⟩ := reaches
  have tied := entered.tied.append tied
  rw [← own_append_of_mine mine, ← own_append_of_mine mine'] at tied
  rw [← history_concat, ← history_concat, ← own_append_of_mine mine, ← own_append_of_mine mine']
    at footing
  have entered : Entered id operation input service (moves ++ engine.turn id) (engine.poll id)
      (moves' ++ twin.turn id) (twin.poll id) :=
    ⟨entered.launched.run run, entered.launched'.run run', footing.alongside, tied⟩
  refine ⟨?_, ?_, ?_, ?_, ?_, .busy entered (isolates.nextTask.symm ▸ known) footing
    (fun other differs => (isolates.isRunning differs).trans (rests other differs))
    (fun other differs => (isolates'.isRunning differs).trans (rests' other differs)),
    fun other => ?_⟩
  · rw [bodyCalls_append, bodyCalls_append, calls, paired.calls]
  · rw [guardEvents_append, guardEvents_append, events, paired.events]
  · rw [isolates.nextTask, isolates'.nextTask, paired.nextTask]
  · rw [isolates.nextTask]
    exact List.forall_mem_append.mpr ⟨paired.moved, fun move member => mine move member ▸ known⟩
  · rw [isolates.nextTask]
    exact List.forall_mem_append.mpr ⟨paired.moved', fun move member => mine' move member ▸ known⟩
  · by_cases same : other = id
    · subst same
      exact .entered entered
    · have nothing := own_of_others fun move member => mine move member ▸ Ne.symm same
      have nothing' := own_of_others fun move member => mine' move member ▸ Ne.symm same
      refine (paired.records other).goes run run' ?_ ?_
      · rw [nothing]
        exact .nil
      · rw [nothing']
        exact .nil

theorem poll (paired : Paired moves engine moves' twin) (attuned : engine.Attuned twin)
    (left : engine.stint.left = twin.stint.left) (id : TaskId) :
    Paired (moves ++ engine.turn id) (engine.poll id) (moves' ++ twin.turn id) (twin.poll id) := by
  have ended (ended : engine.isRunning id = false) (ended' : twin.isRunning id = false) :
      Paired (moves ++ engine.turn id) (engine.poll id) (moves' ++ twin.turn id)
        (twin.poll id) := by
    obtain ⟨same, nothing⟩ := Engine.turn_of_ended ended
    obtain ⟨same', nothing'⟩ := Engine.turn_of_ended ended'
    rw [same, same', nothing, nothing', List.append_nil, List.append_nil]
    exact paired
  cases paired.stance with
  | idle _ _ rests rests' => exact ended (rests id) (rests' id)
  | @busy active _ _ _ entered known footing rests rests' =>
    by_cases same : id = active
    · subst same
      exact paired.proceed entered known (footing.poll left attuned) rests rests'
    · exact ended (rests id same) (rests' id same)

theorem abort (paired : Paired moves engine moves' twin) (id : TaskId)
    (known : id < engine.nextTask) :
    Paired (moves ++ [⟨id, engine, .aborted, engine.abort id⟩]) (engine.abort id)
      (moves' ++ [⟨id, twin, .aborted, twin.abort id⟩]) (twin.abort id) := by
  have nothing (engine : Engine Outcome) :=
    shows_nothing (List.forall_mem_singleton.mpr
      (Closing.of_idle (.inl rfl) : Closing ⟨id, engine, .aborted, engine.abort id⟩))
  have isolates := Engine.Isolates.abort engine id
  have isolates' := Engine.Isolates.abort twin id
  refine ⟨?_, ?_, ?_, ?_, ?_, paired.stance.abort id, fun other => ?_⟩
  · rw [bodyCalls_append, bodyCalls_append, (nothing _).1, (nothing _).1, paired.calls]
  · rw [guardEvents_append, guardEvents_append, (nothing _).2, (nothing _).2, paired.events]
  · rw [isolates.nextTask, isolates'.nextTask, paired.nextTask]
  · rw [isolates.nextTask]
    exact List.forall_mem_append.mpr ⟨paired.moved, List.forall_mem_singleton.mpr known⟩
  · rw [isolates.nextTask]
    exact List.forall_mem_append.mpr ⟨paired.moved', List.forall_mem_singleton.mpr known⟩
  · exact (paired.records other).goes (.single (.abort engine id)) (.single (.abort twin id))
      (.abort engine id other) (.abort twin id other)

end Paired

theorem Change.nextTask_joint {change : Change Outcome} (joint : change.Joint)
    (engine : Engine Outcome) : (change.apply engine).nextTask = engine.nextTask := by
  refine change.nextTask_apply engine fun task same => ?_
  subst same
  exact joint

theorem Change.nextTask_apart {change : Change Outcome} (apart : change.Apart)
    (engine : Engine Outcome) : (change.apply engine).nextTask = engine.nextTask := by
  refine change.nextTask_apply engine fun task same => ?_
  subst same
  exact apart

namespace Paired

/-- What is changed in both engines leaves them paired if they know the same operations. -/
theorem joint (paired : Paired moves engine moves' twin) (comparable : engine.Comparable twin)
    {change : Change Outcome} (joint : change.Joint) :
    Paired moves (change.apply engine) moves' (change.apply twin) := by
  have registered : (fun operation => (twin.registry.resolve? operation).isSome) =
      fun operation => (engine.registry.resolve? operation).isSome := by
    funext operation
    exact (comparable.registered operation).symm
  refine paired.change (fun id => .joint engine id joint) (fun id => ?_)
    (.single (.change engine change)) (.single (.change twin change))
    (change.nextTask_joint joint engine) (change.nextTask_joint joint twin)
  rw [← registered]
  exact .joint twin id joint

/-- What shows nowhere leaves two engines paired even if it is changed in one of them only. -/
theorem apart (paired : Paired moves engine moves' twin) {change : Change Outcome}
    (apart : change.Apart) :
    Paired moves (change.apply engine) moves' twin ∧
      Paired moves engine moves' (change.apply twin) := by
  have amended (id : TaskId) (engine : Engine Outcome) :
      Engine.Shifted change (fun _ => false) id engine (change.apply engine) :=
    .apart engine apart
  have still (id : TaskId) (engine : Engine Outcome) :
      Engine.Shifted change (fun _ => false) id engine engine :=
    .of_same apart rfl rfl
  exact ⟨paired.change (amended · engine) (still · twin) (.single (.change engine change)) .refl
      (change.nextTask_apart apart engine) rfl,
    paired.change (still · engine) (amended · twin) .refl (.single (.change twin change)) rfl
      (change.nextTask_apart apart twin)⟩

end Paired

theorem prompt_of_run {start stage : Stage Outcome} (run : Run start moves stage)
    (prompt : stage.engine.scene.Prompt) : start.engine.scene.Prompt :=
  fun operation event part closing held =>
    prompt operation event part closing (run.stallOn.trans held)

/-- Whatever engines go through side by side, they stay paired, if their sink holds up no event that
tells of an answer. -/
theorem Abreast.paired (abreast : Abreast moves engine moves' twin)
    (prompt : engine.scene.Prompt) : Paired moves engine moves' twin := by
  induction abreast with
  | start engine registry handlers vacant => exact .start engine registry handlers vacant
  | @invoke _ _ engine _ _ rests rests' operation input service linked cancelled
      inductionHypothesis =>
    have earlier := prompt_of_run (.single (.change engine (.spawn _))) prompt
    exact (inductionHypothesis earlier).invoke rests rests' operation input service linked
      cancelled
  | @poll _ _ engine _ _ comparable left id inductionHypothesis =>
    have earlier := prompt_of_run (engine.run_turn id) prompt
    exact (inductionHypothesis earlier).poll ⟨comparable, earlier⟩ left id
  | @change _ _ engine _ _ comparable change joint inductionHypothesis =>
    exact (inductionHypothesis (prompt_of_run (.single (.change engine change)) prompt)).joint
      comparable joint
  | @amend _ _ engine _ _ change apart inductionHypothesis =>
    exact ((inductionHypothesis
      (prompt_of_run (.single (.change engine change)) prompt)).apart apart).1
  | amendTwin _ _ apart inductionHypothesis => exact ((inductionHypothesis prompt).apart apart).2
  | @abort _ _ engine _ _ id known inductionHypothesis =>
    exact (inductionHypothesis (prompt_of_run (.single (.abort engine id)) prompt)).abort id known

end Resilience
