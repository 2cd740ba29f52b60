import Resilience.Engine.Control
import Resilience.Proofs.Plan.Path

/-!
Runs of an engine, one move after the other. Between two moves the engine may be changed from
outside and may be rescheduled in any way, so a run here is a run under any scheduler; the engine's
own schedule makes such runs.
-/

namespace Resilience

/-- A task that goes on, at some point of its plan. -/
structure Active (α : Type) where
  id : TaskId
  plan : Plan α
  wait : Wait

/-- An engine with the task that goes on, if there is one. -/
structure Stage (α : Type) where
  engine : Engine α
  active : Option (Active α) := none

/-- What a task does in one move. -/
inductive Deed (α : Type) where
  /-- It is answered a request for which it waited so far. -/
  | answered (exchange : Exchange) (wait : Wait)
  /-- It has to wait, or to wait on, for the answer to a request. -/
  | waited (request : Request) (wait : Wait)
  /-- It ends without a result. -/
  | crashed (request : Request) (wait : Wait)
  | finished (result : α)
  /-- It is ended from outside. -/
  | aborted

/-- A move of a task, with the engine before it and after it. -/
structure Move (α : Type) where
  id : TaskId
  before : Engine α
  deed : Deed α
  after : Engine α

/-- What happens to an engine between the moves of its tasks. -/
inductive Change (α : Type) where
  | spawn (task : Task α)
  | cancel (id : TaskId)
  | openGate (id : TaskId) (permits : Nat)
  | openSink (permits : Nat)
  | register (operation : OperationId) (policy : Policy)
  | overrideField (operation : OperationId) (kind : PolicyKind) (field value : String)
  | clearOverride (operation : OperationId) (kind : PolicyKind) (field : String)
  | registerStrategy (name : String) (strategy : Strategy)
  | registerHandler (name : String) (handler : Handler)
  | reset (operation : OperationId)
  | collect
  | setClock (clock : ManualClock)
  /-- Virtual time moves to a moment. -/
  | elapse (moment : Nat)
  /-- The tasks that can go on are put in another order, or others are chosen. -/
  | schedule (ready aside : List TaskId) (stint : Stint) (stints : Nat)

namespace Change

variable {α : Type}

def apply (engine : Engine α) : Change α → Engine α
  | spawn task => (engine.spawn task).2
  | cancel id => engine.cancel id
  | openGate id permits => engine.openGate id permits
  | openSink permits => engine.openSink permits
  | register operation policy => (engine.register operation policy).2
  | overrideField operation kind field value =>
    (engine.overrideField operation kind field value).2
  | clearOverride operation kind field => (engine.clearOverride operation kind field).2
  | registerStrategy name strategy => engine.registerStrategy name strategy
  | registerHandler name handler => engine.registerHandler name handler
  | reset operation => (engine.reset operation).2
  | collect => engine.collect.2
  | setClock clock => { engine with manualClock := clock }
  | elapse moment => { engine with now := moment }
  | schedule ready aside stint stints => { engine with ready, aside, stint, stints }

/-- Whether a change starts no task and reads no events. -/
def Plain : Change α → Prop
  | spawn _ | collect => False
  | _ => True

end Change

inductive Step {α : Type} : Stage α → List (Move α) → Stage α → Prop
  | change (engine : Engine α) (change : Change α) :
      Step ⟨engine, none⟩ [] ⟨change.apply engine, none⟩
  | abort (engine : Engine α) (id : TaskId) :
      Step ⟨engine, none⟩ [⟨id, engine, .aborted, engine.abort id⟩] ⟨engine.abort id, none⟩
  | resume {engine : Engine α} {id : TaskId} {task : Task α} {plan : Plan α} {wait : Wait}
      (found : engine.tasks.get? id = some task)
      (suspended : task.progress = .suspended plan wait) :
      Step ⟨engine, none⟩ [] ⟨engine, some ⟨id, plan, wait⟩⟩
  | answer {engine after : Engine α} {id : TaskId} {task : Task α} {request : Request}
      {next : request.Answer → Plan α} {wait : Wait} {answer : request.Answer}
      (found : engine.tasks.get? id = some task)
      (answers : engine.answer id task request wait = (.now answer, after)) :
      Step ⟨engine, some ⟨id, .ask request next, wait⟩⟩
        [⟨id, engine, .answered ⟨request, answer⟩ wait, after⟩]
        ⟨after, some ⟨id, next answer, .unbegun⟩⟩
  | wait {engine after : Engine α} {id : TaskId} {task : Task α} {request : Request}
      {next : request.Answer → Plan α} {wait later : Wait}
      (found : engine.tasks.get? id = some task)
      (waits : engine.answer id task request wait = (.later later, after)) :
      Step ⟨engine, some ⟨id, .ask request next, wait⟩⟩
        [⟨id, engine, .waited request wait, after.suspend id (.ask request next) later⟩]
        ⟨after.suspend id (.ask request next) later, none⟩
  | crash {engine after : Engine α} {id : TaskId} {task : Task α} {request : Request}
      {next : request.Answer → Plan α} {wait : Wait}
      (found : engine.tasks.get? id = some task)
      (crashes : engine.answer id task request wait = (.crash, after)) :
      Step ⟨engine, some ⟨id, .ask request next, wait⟩⟩
        [⟨id, engine, .crashed request wait, after.finish id none⟩] ⟨after.finish id none, none⟩
  | finish {engine : Engine α} {id : TaskId} {result : α} {wait : Wait} :
      Step ⟨engine, some ⟨id, .done result, wait⟩⟩
        [⟨id, engine, .finished result, engine.finish id (some result)⟩]
        ⟨engine.finish id (some result), none⟩
  | vanish {engine : Engine α} {id : TaskId} {request : Request}
      {next : request.Answer → Plan α} {wait : Wait} (missing : engine.tasks.get? id = none) :
      Step ⟨engine, some ⟨id, .ask request next, wait⟩⟩ [] ⟨engine, none⟩

/-- A row of steps, with the moves among them. -/
inductive Run {α : Type} (start : Stage α) : List (Move α) → Stage α → Prop
  | refl : Run start [] start
  | next {moves more : List (Move α)} {middle stage : Stage α} (run : Run start moves middle)
      (step : Step middle more stage) : Run start (moves ++ more) stage

namespace Run

variable {α : Type} {start middle stage : Stage α} {moves more : List (Move α)}

theorem single (step : Step start moves stage) : Run start moves stage :=
  .next .refl step

theorem trans (first : Run start moves middle) (second : Run middle more stage) :
    Run start (moves ++ more) stage := by
  induction second with
  | refl => exact (List.append_nil moves).symm ▸ first
  | next _ step inductionHypothesis =>
    rw [← List.append_assoc]
    exact .next inductionHypothesis step

end Run

theorem Step.engine_of_still {α : Type} {engine : Engine α} {active : Active α} {stage : Stage α}
    {more : List (Move α)} (step : Step ⟨engine, some active⟩ more stage) (still : more = []) :
    stage.engine = engine := by
  cases step with
  | vanish => rfl
  | _ => cases still

/-- A row of steps in which no task is started and no events are read, with the moves among them. -/
inductive Proceeds {α : Type} (start : Stage α) : List (Move α) → Stage α → Prop
  | refl : Proceeds start [] start
  | change {moves : List (Move α)} {engine : Engine α}
      (proceeds : Proceeds start moves ⟨engine, none⟩) (change : Change α) (plain : change.Plain) :
      Proceeds start moves ⟨change.apply engine, none⟩
  | step {moves more : List (Move α)} {middle stage : Stage α}
      (proceeds : Proceeds start moves middle) (step : Step middle more stage)
      (moved : more = [] → stage.engine = middle.engine) : Proceeds start (moves ++ more) stage

namespace Proceeds

variable {α : Type} {start middle stage : Stage α} {moves more : List (Move α)}

theorem single {engine : Engine α} {active : Active α}
    (step : Step ⟨engine, some active⟩ more stage) : Proceeds ⟨engine, some active⟩ more stage :=
  .step .refl step step.engine_of_still

theorem trans (first : Proceeds start moves middle) (second : Proceeds middle more stage) :
    Proceeds start (moves ++ more) stage := by
  induction second with
  | refl => exact (List.append_nil moves).symm ▸ first
  | change _ change plain inductionHypothesis => exact .change inductionHypothesis change plain
  | step _ step moved inductionHypothesis =>
    rw [← List.append_assoc]
    exact .step inductionHypothesis step moved

theorem run (proceeds : Proceeds start moves stage) : Run start moves stage := by
  induction proceeds with
  | refl => exact .refl
  | change _ change _ inductionHypothesis =>
    have changed := inductionHypothesis.next (.change _ change)
    rwa [List.append_nil] at changed
  | step _ step _ inductionHypothesis => exact inductionHypothesis.next step

end Proceeds

namespace Engine

variable {α : Type}

/-- The moves that a task makes until it has to wait or ends. -/
def moves (engine : Engine α) (id : TaskId) : Plan α → Wait → List (Move α)
  | .done result, _ => [⟨id, engine, .finished result, engine.finish id (some result)⟩]
  | .ask request next, wait =>
    match engine.tasks.get? id with
    | none => []
    | some task =>
      match engine.answer id task request wait with
      | (.now answer, after) =>
        ⟨id, engine, .answered ⟨request, answer⟩ wait, after⟩ ::
          after.moves id (next answer) .unbegun
      | (.later later, after) =>
        [⟨id, engine, .waited request wait, after.suspend id (.ask request next) later⟩]
      | (.crash, after) => [⟨id, engine, .crashed request wait, after.finish id none⟩]

theorem proceeds_moves (engine : Engine α) (id : TaskId) (plan : Plan α) (wait : Wait) :
    Proceeds ⟨engine, some ⟨id, plan, wait⟩⟩ (engine.moves id plan wait)
      ⟨engine.run id plan wait, none⟩ := by
  induction plan generalizing engine wait with
  | done result => exact .single .finish
  | ask request next inductionHypothesis =>
    unfold moves run
    cases found : engine.tasks.get? id with
    | none => exact .single (.vanish found)
    | some task =>
      simp only
      rcases answers : engine.answer id task request wait with ⟨reply, after⟩
      cases reply with
      | now answer =>
        refine Proceeds.trans (.single (.answer found answers)) ?_
        exact inductionHypothesis answer after .unbegun
      | later later => exact .single (.wait found answers)
      | crash => exact .single (.crash found answers)

theorem run_moves (engine : Engine α) (id : TaskId) (plan : Plan α) (wait : Wait) :
    Run ⟨engine, some ⟨id, plan, wait⟩⟩ (engine.moves id plan wait)
      ⟨engine.run id plan wait, none⟩ :=
  (proceeds_moves engine id plan wait).run

/-- The engine when a task that was just spawned starts its first stint. -/
def starting (engine : Engine α) (task : Task α) : Engine α :=
  { (engine.spawn task).2 with stint := .start engine.nextTask, stints := 1 }

theorem get?_starting (engine : Engine α) (task : Task α) :
    (engine.starting task).tasks.get? engine.nextTask = some task := by
  have tasks : (engine.spawn task).2.tasks = engine.tasks.set engine.nextTask task := by
    unfold spawn wake
    simp only
    split
    · rfl
    · split <;> rfl
  show (engine.spawn task).2.tasks.get? engine.nextTask = some task
  rw [tasks, Table.get?_set, if_pos rfl]

theorem run_starting (engine : Engine α) {task : Task α} {plan : Plan α} {wait : Wait}
    (suspended : task.progress = .suspended plan wait) :
    Run ⟨(engine.spawn task).2, none⟩ ((engine.starting task).moves engine.nextTask plan wait)
      ⟨(engine.starting task).run engine.nextTask plan wait, none⟩ := by
  have scheduled : Run ⟨(engine.spawn task).2, none⟩ [] ⟨engine.starting task, none⟩ :=
    .single (.change _ (.schedule (engine.spawn task).2.ready (engine.spawn task).2.aside
      (.start engine.nextTask) 1))
  have resumed : Run ⟨engine.starting task, none⟩ []
      ⟨engine.starting task, some ⟨engine.nextTask, plan, wait⟩⟩ :=
    .single (.resume (engine.get?_starting task) suspended)
  exact scheduled.trans (resumed.trans (run_moves _ engine.nextTask plan wait))

/-- Whether an engine becomes another one by steps, with no task going on before or after, in which
no task is started and no events are read. -/
def Becomes (engine after : Engine α) : Prop :=
  ∃ moves, Proceeds ⟨engine, none⟩ moves ⟨after, none⟩

namespace Becomes

variable {engine middle after : Engine α}

theorem refl (engine : Engine α) : engine.Becomes engine := ⟨[], .refl⟩

theorem trans (first : engine.Becomes middle) (second : middle.Becomes after) :
    engine.Becomes after := by
  obtain ⟨moves, first⟩ := first
  obtain ⟨more, second⟩ := second
  exact ⟨moves ++ more, first.trans second⟩

theorem change (engine : Engine α) (change : Change α) (plain : change.Plain) :
    engine.Becomes (change.apply engine) :=
  ⟨[], .change .refl change plain⟩

theorem schedule (engine : Engine α) (ready aside : List TaskId) (stint : Stint)
    (stints : Nat) : engine.Becomes { engine with ready, aside, stint, stints } :=
  change engine (.schedule ready aside stint stints) trivial

theorem wake (engine : Engine α) (id : TaskId) : engine.Becomes (engine.wake id) := by
  unfold Engine.wake
  split
  · exact schedule engine _ _ _ _
  · split
    · exact refl engine
    · exact schedule engine _ _ _ _

theorem wakeAll (engine : Engine α) (ids : List TaskId) : engine.Becomes (engine.wakeAll ids) := by
  induction ids generalizing engine with
  | nil => exact refl engine
  | cons id rest inductionHypothesis => exact (wake engine id).trans (inductionHypothesis _)

theorem poll (engine : Engine α) (id : TaskId) : engine.Becomes (engine.poll id) := by
  unfold Engine.poll
  split
  next task plan wait found =>
    have resumed : Proceeds ⟨engine, none⟩ [] ⟨engine, some ⟨id, plan, wait⟩⟩ :=
      .step .refl (.resume found rfl) fun _ => rfl
    exact ⟨_, resumed.trans (proceeds_moves engine id plan wait)⟩
  · exact refl engine

theorem work (engine : Engine α) (id : TaskId) : engine.Becomes (engine.work id) := by
  unfold Engine.work
  have rests (engine : Engine α) : engine.Becomes { engine with stint := {} } :=
    schedule engine engine.ready engine.aside {} engine.stints
  have started := schedule engine engine.ready engine.aside (.start id) (engine.stints + 1)
  have worked := (started.trans (poll _ id)).trans (rests _)
  simp only
  split
  · exact worked.trans (wake _ id)
  · exact worked

theorem nextRound (engine : Engine α) : engine.Becomes engine.nextRound :=
  (schedule engine engine.ready [] engine.stint 0).trans (wakeAll _ _)

theorem settle (engine : Engine α) (turns : Nat) : engine.Becomes (engine.settle turns) := by
  induction turns generalizing engine with
  | zero => exact refl engine
  | succ turns inductionHypothesis =>
    unfold Engine.settle
    split
    · split
      · exact nextRound engine
      · exact (nextRound engine).trans (inductionHypothesis _)
    next id rest _ =>
      split
      · exact (nextRound engine).trans (inductionHypothesis _)
      · have taken := schedule engine rest engine.aside engine.stint engine.stints
        exact taken.trans ((work _ id).trans (inductionHypothesis _))

theorem moveTo (engine : Engine α) (moment : Nat) : engine.Becomes (engine.moveTo moment) :=
  (change engine (.elapse moment) trivial).trans (wakeAll _ _)

theorem runUntil (engine : Engine α) (stop : Engine α → Bool) (turns moments : Nat) :
    engine.Becomes (engine.runUntil stop turns moments) := by
  induction moments generalizing engine with
  | zero => exact refl engine
  | succ moments inductionHypothesis =>
    unfold Engine.runUntil
    have settled := settle engine turns
    simp only
    split
    · exact settled
    · split
      · exact settled.trans ((moveTo _ _).trans (inductionHypothesis _))
      · exact settled

theorem runTo (engine : Engine α) (moment turns moments : Nat) :
    engine.Becomes (engine.runTo moment turns moments) := by
  induction moments generalizing engine with
  | zero => exact refl engine
  | succ moments inductionHypothesis =>
    unfold Engine.runTo
    have settled := settle engine turns
    have arrives := settled.trans ((moveTo _ moment).trans (settle _ turns))
    simp only
    split
    · split
      · exact settled.trans ((moveTo _ _).trans (inductionHypothesis _))
      · exact arrives
    · exact arrives

theorem overrideAll (engine : Engine α) (lines : List OverrideLine) :
    engine.Becomes (engine.overrideAll lines).2 := by
  induction lines generalizing engine with
  | nil => exact refl engine
  | cons line rest inductionHypothesis =>
    have overridden := change engine
      (.overrideField line.key.operation line.key.kind line.key.field line.value) trivial
    unfold Engine.overrideAll
    simp only [Change.apply] at overridden
    generalize engine.overrideField line.key.operation line.key.kind line.key.field
      line.value = result at overridden ⊢
    rcases result with ⟨_ | _, after⟩
    · exact overridden
    · exact overridden.trans (inductionHypothesis after)

theorem applyOverrides (engine : Engine α) (text : String) :
    engine.Becomes (engine.applyOverrides text).2 := by
  unfold Engine.applyOverrides
  split
  · exact refl engine
  next lines _ =>
    have overridden := overrideAll engine lines
    generalize engine.overrideAll lines = result at overridden ⊢
    rcases result with ⟨_ | _, after⟩
    · exact overridden
    · exact overridden

theorem abort (engine : Engine α) (id : TaskId) : engine.Becomes (engine.abort id) :=
  ⟨_, .step .refl (.abort engine id) nofun⟩

/-- Nothing is left to give back when a task that ended is forgotten. -/
theorem forget {id : TaskId} {task : Task α} (found : engine.tasks.get? id = some task)
    (ended : task.isRunning = false) : engine.Becomes (engine.forget id) := by
  have aborted := abort engine id
  unfold Engine.abort at aborted
  rw [found] at aborted
  simp only [ended, Bool.false_eq_true, ↓reduceIte] at aborted
  exact aborted

end Becomes

end Engine

end Resilience
