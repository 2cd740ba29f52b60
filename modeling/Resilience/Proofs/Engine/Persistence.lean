import Resilience.Proofs.Engine.History

/-!
Persistence: what outlasts everything else that an engine does. Only a count changes a counter, only
an event changes what the sink has, and a token that has fired stays so as long as its task is
known.
-/

namespace Resilience

/-- Whether a request neither counts anything nor tells of an event. -/
def Request.Silent : Request → Prop
  | .emit _ | .count .. => False
  | _ => True

namespace Sink

theorem stallOn_record (sink : Sink) (occurrence : OperationEvent) :
    (sink.record occurrence).stallOn = sink.stallOn := by
  unfold record
  split <;> rfl

theorem drain_lasts (sink : Sink) :
    sink.drain.2.ready = sink.ready ∧ sink.drain.2.stallOn = sink.stallOn := by
  unfold drain
  split <;> exact ⟨rfl, rfl⟩

end Sink

namespace Engine

variable {α : Type}

def Outlasts (before after : Engine α) : Prop :=
  ∀ id task, after.tasks.get? id = some task →
    ∃ earlier, before.tasks.get? id = some earlier ∧ earlier.Persists task

/-- Whether a change of an engine changes no counter and no event, and no task for another. -/
structure Preserves (before after : Engine α) : Prop where
  tasks : before.Outlasts after
  metrics : ∀ operation, (after.stateOf operation).metrics = (before.stateOf operation).metrics
  sink : before.sink.Lasts after.sink

variable {engine before middle after : Engine α} {id : TaskId}

namespace Outlasts

theorem of_eq (same : after.tasks = before.tasks) : before.Outlasts after := by
  intro id task found
  rw [same] at found
  exact ⟨task, found, .refl task⟩

theorem trans (first : before.Outlasts middle) (second : middle.Outlasts after) :
    before.Outlasts after := by
  intro id task found
  obtain ⟨between, found, later⟩ := second id task found
  obtain ⟨earlier, found, sooner⟩ := first id between found
  exact ⟨earlier, found, sooner.trans later⟩

end Outlasts

namespace Preserves

theorem refl (engine : Engine α) : engine.Preserves engine :=
  ⟨.of_eq rfl, fun _ => rfl, .refl _⟩

theorem trans (first : before.Preserves middle) (second : middle.Preserves after) :
    before.Preserves after where
  tasks := first.tasks.trans second.tasks
  metrics operation := (second.metrics operation).trans (first.metrics operation)
  sink := first.sink.trans second.sink

theorem touches (preserves : before.Preserves middle) (touches : middle.Touches after) :
    before.Preserves after := by
  refine preserves.trans ⟨fun id task found => ?_, fun operation => ?_, touches.sink⟩
  · have lasts := touches.tasks id
    rw [found] at lasts
    generalize middle.tasks.get? id = earlier at lasts
    cases lasts with
    | some lasts => exact ⟨_, rfl, lasts.toPersists⟩
  · rw [touches.states]

theorem setState (engine : Engine α) {operation : OperationId} {state : OperationState}
    (metrics : state.metrics = (engine.stateOf operation).metrics) :
    engine.Preserves (engine.setState operation state) := by
  refine ⟨.of_eq rfl, fun other => ?_, .refl _⟩
  rw [stateOf_setState]
  split
  next same => rw [metrics, same]
  next => rfl

theorem modifyTask (engine : Engine α) (id : TaskId) {change : Task α → Task α}
    (persists : ∀ task : Task α, task.Persists (change task)) :
    engine.Preserves (engine.modifyTask id change) := by
  refine ⟨fun other task found => ?_, fun _ => rfl, .refl _⟩
  rw [get?_modifyTask] at found
  split at found
  · obtain ⟨earlier, known, rfl⟩ := Option.map_eq_some_iff.mp found
    exact ⟨earlier, known, persists earlier⟩
  · exact ⟨task, found, .refl task⟩

theorem forget (engine : Engine α) (id : TaskId) : engine.Preserves (engine.forget id) := by
  refine ⟨fun other task found => ?_, fun _ => rfl, .refl _⟩
  unfold Engine.forget at found
  rw [Table.get?_erase] at found
  split at found
  · cases found
  · exact ⟨task, found, .refl task⟩

theorem changeBulkhead (engine : Engine α) (operation : OperationId) (index : Nat)
    (change : Bulkhead → Bulkhead) :
    engine.Preserves (engine.changeBulkhead operation index change) := by
  unfold Engine.changeBulkhead
  simp only
  split
  · exact refl engine
  · refine (setState engine ?_).touches ((Touches.refl _).wakeAll _)
    rfl

theorem setPlace (engine : Engine α) (id : TaskId) (place : Option Place) :
    engine.Preserves (engine.setPlace id place) :=
  modifyTask engine id fun _ => ⟨rfl, rfl, rfl, rfl, fun fired => fired⟩

theorem setPermit (engine : Engine α) (id : TaskId) (permit : Option Permit) :
    engine.Preserves (engine.setPermit id permit) :=
  modifyTask engine id fun _ => ⟨rfl, rfl, rfl, rfl, fun fired => fired⟩

theorem setProgress (engine : Engine α) (id : TaskId) (progress : Progress α) :
    engine.Preserves (engine.setProgress id progress) :=
  modifyTask engine id fun _ => ⟨rfl, rfl, rfl, rfl, fun fired => fired⟩

theorem leavePlace (engine : Engine α) (id : TaskId) (task : Task α) :
    engine.Preserves (engine.leavePlace id task) := by
  unfold Engine.leavePlace
  split
  · exact refl engine
  · exact (setPlace engine id none).trans (changeBulkhead _ _ _ _)

theorem dropPermit (engine : Engine α) (id : TaskId) (task : Task α) :
    engine.Preserves (engine.dropPermit id task) := by
  unfold Engine.dropPermit
  split
  · exact refl engine
  · refine (setState engine ?_).trans (setPermit _ id none)
    rfl

theorem enterBulkhead (engine : Engine α) (id : TaskId) (task : Task α)
    (policy : BulkheadPolicy) : engine.Preserves (engine.enterBulkhead id task policy).2 := by
  have provided : ((engine.stateOf task.operation).provide policy).2.metrics =
      (engine.stateOf task.operation).metrics := by
    unfold OperationState.provide
    split
    · split <;> rfl
    · rfl
  refine (setState engine ?_).trans (setPlace _ id _)
  exact provided

theorem awaitSlot (engine : Engine α) (id : TaskId) (task : Task α) :
    engine.Preserves (engine.awaitSlot id task).2 := by
  unfold Engine.awaitSlot
  split
  · exact (refl engine).touches ((Touches.refl engine).setAside id)
  split
  · split
    · exact refl engine
    next bulkhead _ =>
      have asked (turn : Turn) (change : Bulkhead → Bulkhead) (index : Nat) :
          engine.Preserves ((engine.write (Bulkhead.pollLines turn)).changeBulkhead task.operation
            index change) :=
        ((refl engine).touches ((Touches.refl engine).write _)).trans (changeBulkhead _ _ _ _)
      simp only
      split
      · exact ((asked _ _ _).touches (Touches.refl _).endWait).trans (setPlace _ id _)
      · exact (asked _ _ _).trans (setPlace _ id none)
      · exact asked _ _ _
  · exact refl engine
  · exact refl engine

theorem acquirePermit (engine : Engine α) (id : TaskId) (task : Task α) (rule : BreakerRule) :
    engine.Preserves (engine.acquirePermit id task rule).2 := by
  unfold Engine.acquirePermit
  simp only
  split
  · refine ((setState engine ?_).touches ((Touches.refl _).write _)).trans (setPermit _ id _)
    rfl
  · refine (setState engine ?_).touches ((Touches.refl _).write _)
    rfl

theorem recordSample (engine : Engine α) (id : TaskId) (task : Task α) (rule : BreakerRule)
    (failed : Bool) : engine.Preserves (engine.recordSample id task rule failed).2 := by
  unfold Engine.recordSample
  split
  · exact refl engine
  · refine ((setState engine ?_).touches ((Touches.refl _).write _)).trans (setPermit _ id none)
    rfl

theorem release (engine : Engine α) (id : TaskId) (task : Task α) :
    engine.Preserves (engine.release id task) :=
  (((refl engine).touches ((Touches.refl engine).changeGate _)).trans (dropPermit _ id task)).trans
    (leavePlace _ id task)

theorem finish (engine : Engine α) (id : TaskId) (result : Option α) :
    engine.Preserves (engine.finish id result) := by
  unfold Engine.finish
  split
  · exact refl engine
  · exact ((release engine id _).trans (setProgress _ id _)).touches
      ((Touches.refl _).tables rfl rfl rfl (.refl _))

theorem suspend (engine : Engine α) (id : TaskId) (plan : Plan α) (wait : Wait) :
    engine.Preserves (engine.suspend id plan wait) :=
  setProgress engine id _

theorem abort (engine : Engine α) (id : TaskId) : engine.Preserves (engine.abort id) := by
  unfold Engine.abort
  split
  · split
    · exact (release engine id _).trans (forget _ id)
    · exact forget engine id
  · exact refl engine

theorem reset (engine : Engine α) (operation : OperationId) :
    engine.Preserves (engine.reset operation).2 := by
  unfold Engine.reset
  split
  · exact refl engine
  · split
    · exact refl engine
    next state found =>
      refine (setState engine ?_).touches ((Touches.refl _).write _)
      unfold stateOf
      rw [found]
      rfl

end Preserves

theorem answer_preserves (engine : Engine α) (id : TaskId) (task : Task α) {request : Request}
    (silent : request.Silent) (wait : Wait) :
    engine.Preserves (engine.answer id task request wait).2 := by
  have same := Preserves.refl engine
  have touches := Touches.refl engine
  cases request with
  | clock => exact same
  | time => exact same
  | emit event => exact silent.elim
  | log line => exact same.touches (touches.write [line])
  | count counter amount => exact silent.elim
  | resolve => exact same.touches (touches.resolve task.operation)
  | enterBulkhead policy => exact .enterBulkhead engine id task policy
  | awaitSlot => exact .awaitSlot engine id task
  | bulkheadLoad => exact same
  | leaveBulkhead => exact .leavePlace engine id task
  | acquirePermit rule => exact .acquirePermit engine id task rule
  | recordSample rule failed => exact .recordSample engine id task rule failed
  | dropPermit => exact .dropPermit engine id task
  | attempt number limit heedsCaller =>
    exact same.touches (touches.attempt id task number limit heedsCaller wait)
  | pause delay => exact same.touches (touches.pause id task delay wait)
  | jitter bound delay => exact same.touches (touches.tables rfl rfl rfl (.refl _))
  | strategy name => exact same
  | handle name fault => exact same.touches (touches.handle id task name fault wait)

/-- What sending an event changes: the sink records it, unless it was recorded before. -/
theorem send_tasks (engine : Engine α) (id : TaskId) (occurrence : OperationEvent) (wait : Wait) :
    engine.Outlasts (engine.send id occurrence wait).2 := by
  unfold send
  split
  · exact ((Preserves.refl engine).touches ((Touches.refl engine).passGate id)).tasks
  · split
    · exact .of_eq rfl
    · simp only
      split
      · exact ((Preserves.refl _).touches ((Touches.refl _).passGate id)).tasks
      · exact .of_eq rfl

theorem answer_outlasts (engine : Engine α) (id : TaskId) (task : Task α) (request : Request)
    (wait : Wait) : engine.Outlasts (engine.answer id task request wait).2 := by
  cases request with
  | emit event => exact send_tasks engine id _ wait
  | count counter amount => exact .of_eq rfl
  | _ =>
    apply (answer_preserves engine id task ?_ wait).tasks
    trivial

theorem answer_stallOn (engine : Engine α) (id : TaskId) (task : Task α) (request : Request)
    (wait : Wait) :
    (engine.answer id task request wait).2.sink.stallOn = engine.sink.stallOn := by
  cases request with
  | emit event =>
    show (engine.send id _ wait).2.sink.stallOn = engine.sink.stallOn
    unfold send
    split
    · exact ((Touches.refl engine).passGate id).sink.stallOn
    · split
      · rfl
      · simp only
        split
        · exact (((Touches.refl _).passGate id).sink.stallOn).trans (Sink.stallOn_record _ _)
        · exact Sink.stallOn_record _ _
  | count counter amount => rfl
  | _ =>
    apply (answer_preserves engine id task ?_ wait).sink.stallOn
    trivial

end Engine

variable {α : Type}

/-- A change from outside starts a task, takes out events, or changes no counter and no event. -/
theorem Change.preserves (engine : Engine α) (change : Change α) :
    (∃ task, change = .spawn task) ∨ change = .collect ∨
      engine.Preserves (change.apply engine) := by
  have same := Engine.Preserves.refl engine
  have touches := Engine.Touches.refl engine
  cases change with
  | spawn task => exact .inl ⟨task, rfl⟩
  | collect => exact .inr (.inl rfl)
  | cancel other => exact .inr (.inr (same.touches (touches.cancel other)))
  | openGate other permits => exact .inr (.inr (same.touches (touches.openGate other permits)))
  | openSink permits => exact .inr (.inr (same.touches (touches.changeGate _)))
  | register operation policy =>
    exact .inr (.inr (same.touches (touches.changeRegistry _ _ _)))
  | overrideField operation kind field value =>
    exact .inr (.inr (same.touches (touches.changeRegistry _ _ _)))
  | clearOverride operation kind field =>
    exact .inr (.inr (same.touches (touches.changeRegistry _ _ _)))
  | reset operation => exact .inr (.inr (.reset engine operation))
  | _ =>
    refine .inr (.inr (same.touches (touches.tables ?_ ?_ ?_ (.refl _))))
    · rfl
    · rfl
    · rfl

theorem Change.persists {engine : Engine α} (change : Change α) {id : TaskId} {task : Task α}
    (known : id < engine.nextTask) (found : (change.apply engine).tasks.get? id = some task) :
    ∃ earlier, engine.tasks.get? id = some earlier ∧ earlier.Persists task := by
  rcases change.preserves engine with ⟨other, rfl⟩ | rfl | preserves
  · have woken := (Engine.Preserves.refl _).touches
      ((Engine.Touches.refl { engine with
        tasks := engine.tasks.set engine.nextTask other, nextTask := engine.nextTask + 1 }).wake
          engine.nextTask)
    obtain ⟨earlier, before, persists⟩ := woken.tasks id task found
    rw [Table.get?_set, if_neg (Nat.ne_of_gt known)] at before
    exact ⟨earlier, before, persists⟩
  · exact ⟨task, found, .refl task⟩
  · exact preserves.tasks id task found

theorem Step.persists {more : List (Move α)} {middle stage : Stage α}
    (step : Step middle more stage) {id : TaskId} {task : Task α}
    (known : id < middle.engine.nextTask) (found : stage.engine.tasks.get? id = some task) :
    ∃ earlier, middle.engine.tasks.get? id = some earlier ∧ earlier.Persists task := by
  cases step with
  | change engine change => exact change.persists known found
  | abort engine other => exact (Engine.Preserves.abort engine other).tasks id task found
  | resume => exact ⟨task, found, .refl task⟩
  | @answer engine after active actor request _ wait answer _ answers =>
    have outlasts : engine.Outlasts (engine.answer active actor request wait).2 :=
      Engine.answer_outlasts engine active actor request wait
    rw [answers] at outlasts
    exact outlasts id task found
  | @wait engine after active actor request next wait later _ waits =>
    have outlasts : engine.Outlasts (engine.answer active actor request wait).2 :=
      Engine.answer_outlasts engine active actor request wait
    rw [waits] at outlasts
    exact outlasts.trans (Engine.Preserves.suspend after active _ later).tasks id task found
  | @crash engine after active actor request _ wait _ crashes =>
    have outlasts : engine.Outlasts (engine.answer active actor request wait).2 :=
      Engine.answer_outlasts engine active actor request wait
    rw [crashes] at outlasts
    exact outlasts.trans (Engine.Preserves.finish after active none).tasks id task found
  | @finish engine active result _ =>
    exact (Engine.Preserves.finish engine active (some result)).tasks id task found
  | vanish => exact ⟨task, found, .refl task⟩

theorem Step.stallOn {more : List (Move α)} {middle stage : Stage α}
    (step : Step middle more stage) :
    stage.engine.sink.stallOn = middle.engine.sink.stallOn := by
  cases step with
  | change engine change =>
    rcases change.preserves engine with ⟨task, rfl⟩ | rfl | preserves
    · exact ((Engine.Touches.refl { engine with
        tasks := engine.tasks.set engine.nextTask task, nextTask := engine.nextTask + 1 }).wake
          engine.nextTask).sink.stallOn
    · exact (Sink.drain_lasts engine.sink).2
    · exact preserves.sink.stallOn
  | abort engine other => exact (Engine.Preserves.abort engine other).sink.stallOn
  | resume | vanish => rfl
  | @answer engine _ active actor request _ wait _ _ answers =>
    have held := engine.answer_stallOn active actor request wait
    rw [answers] at held
    exact held
  | @wait engine after active actor request _ wait later _ waits =>
    have held := engine.answer_stallOn active actor request wait
    rw [waits] at held
    exact (Engine.Preserves.suspend after active _ later).sink.stallOn.trans held
  | @crash engine after active actor request _ wait _ crashes =>
    have held := engine.answer_stallOn active actor request wait
    rw [crashes] at held
    exact (Engine.Preserves.finish after active none).sink.stallOn.trans held
  | @finish engine active result _ =>
    exact (Engine.Preserves.finish engine active (some result)).sink.stallOn

theorem Run.stallOn {moves : List (Move α)} {start stage : Stage α}
    (run : Run start moves stage) : stage.engine.sink.stallOn = start.engine.sink.stallOn := by
  induction run with
  | refl => rfl
  | next _ step inductionHypothesis => exact step.stallOn.trans inductionHypothesis

theorem Step.before {more : List (Move α)} {middle stage : Stage α}
    (step : Step middle more stage) : ∀ move ∈ more, move.before = middle.engine := by
  cases step with
  | change | resume | vanish => exact fun _ none => absurd none List.not_mem_nil
  | _ => exact List.forall_mem_singleton.mpr rfl

theorem Run.persists {moves : List (Move α)} {start stage : Stage α} (run : Run start moves stage)
    {id : TaskId} {first : Task α} (known : id < start.engine.nextTask)
    (found : start.engine.tasks.get? id = some first) :
    (∀ task, stage.engine.tasks.get? id = some task → first.Persists task) ∧
      ∀ move ∈ Move.own id moves, ∀ task, move.before.tasks.get? move.id = some task →
        first.Persists task := by
  induction run with
  | refl =>
    refine ⟨fun task same => ?_, fun _ none => absurd none List.not_mem_nil⟩
    cases found.symm.trans same
    exact .refl first
  | @next moves more middle stage run step inductionHypothesis =>
    obtain ⟨lasts, moved⟩ := inductionHypothesis
    have known := Nat.lt_of_lt_of_le known run.nextTask_le
    refine ⟨fun task later => ?_, ?_⟩
    · obtain ⟨earlier, before, persists⟩ := step.persists known later
      exact (lasts earlier before).trans persists
    · rw [Move.own_append]
      refine List.forall_mem_append.mpr ⟨moved, fun move member task before => ?_⟩
      obtain ⟨made, mine⟩ := List.mem_filter.mp member
      rw [step.before move made, of_decide_eq_true mine] at before
      exact lasts task before

end Resilience
