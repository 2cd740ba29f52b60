import Resilience.Proofs.Engine.Custody
import Resilience.Proofs.Engine.History

/-!
Leaks: there are none. In every run of an engine whose tasks are invocations, whatever is taken of a
bulkhead or a breaker belongs to an invocation in progress, and an operation without invocations has
all its slots back, no queue and no probe on its way.
-/

namespace Resilience

open Move

/-- Whether moves lead from an engine that did nothing yet to a stage, when every task that is
started is an invocation. -/
inductive Course : List (Move Outcome) → Stage Outcome → Prop
  | start (engine : Engine Outcome) :
      Course [] ⟨{ engine with tasks := {}, operations := {} }, none⟩
  | invoke {moves : List (Move Outcome)} {engine : Engine Outcome}
      (course : Course moves ⟨engine, none⟩) (operation : OperationId) (input : String)
      (service : Service) (linked cancelled : Bool) :
      Course moves
        ⟨(engine.spawn (Engine.invocation operation input service linked cancelled)).2, none⟩
  | step {moves more : List (Move Outcome)} {middle stage : Stage Outcome}
      (course : Course moves middle) (step : Step middle more stage)
      (unspawned : stage.engine.nextTask = middle.engine.nextTask) : Course (moves ++ more) stage

theorem Course.run {moves more : List (Move Outcome)} {middle stage : Stage Outcome}
    (course : Course moves middle) (run : Run middle more stage)
    (unspawned : stage.engine.nextTask = middle.engine.nextTask) :
    Course (moves ++ more) stage := by
  induction run with
  | refl => exact (List.append_nil moves).symm ▸ course
  | next run step inductionHypothesis =>
    have before := run.nextTask_le
    have after := step.nextTask_le
    rw [unspawned] at after
    have same := Nat.le_antisymm after before
    rw [← List.append_assoc]
    exact .step (inductionHypothesis same) step (unspawned.trans same.symm)

/-- What the exchanges of an invocation say of what it holds at a point of its plan. -/
structure Underway (history : List Exchange) (holding : Holding Outcome) (plan : Plan Outcome) :
    Prop where
  leads : ∃ service : Service, (service.plan holding.operation).Leads history plan
  permitted : holding.permit.isSome = permits.after false history
  placed : .ofPlace holding.place = places.after .outside history

inductive Attending (history : List Exchange) (id : TaskId) :
    Option (Active Outcome) → Holding Outcome → Prop
  | active {plan : Plan Outcome} {wait : Wait} {holding : Holding Outcome}
      (running : holding.isRunning = true) (underway : Underway history holding plan) :
      Attending history id (some ⟨id, plan, wait⟩) holding
  | suspended {active : Option (Active Outcome)} {plan : Plan Outcome} {wait : Wait}
      {holding : Holding Outcome} (apart : ∀ other, active = some other → other.id ≠ id)
      (suspended : holding.progress = .suspended plan wait)
      (underway : Underway history holding plan) : Attending history id active holding
  | ended {active : Option (Active Outcome)} {holding : Holding Outcome}
      (apart : ∀ other, active = some other → other.id ≠ id) (ended : holding.isRunning = false)
      (place : holding.place = none) (permit : holding.permit = none) :
      Attending history id active holding

structure Attended (moves : List (Move Outcome)) (stage : Stage Outcome) : Prop where
  custody : stage.engine.Custody
  fresh : ∀ id, stage.engine.nextTask ≤ id →
    stage.engine.holding? id = none ∧ history (own id moves) = []
  present : ∀ active, stage.active = some active →
    ∃ holding, stage.engine.holding? active.id = some holding
  tasks : ∀ id holding, stage.engine.holding? id = some holding →
    Attending (history (own id moves)) id stage.active holding

variable {moves more : List (Move Outcome)} {engine after : Engine Outcome} {id : TaskId}
  {past : List Exchange} {holding : Holding Outcome}

theorem Underway.answered {task : Task Outcome} {request : Request}
    {next : request.Answer → Plan Outcome} {wait : Wait} {answer : request.Answer}
    (underway : Underway past task.holding (.ask request next)) (custody : engine.Custody)
    (found : engine.tasks.get? id = some task)
    (answers : engine.answer id task request wait = (.now answer, after)) :
    after.Custody ∧ ∃ holding, after.holding? id = some holding ∧
      holding.progress = task.progress ∧
        Underway (past ++ [⟨request, answer⟩]) holding (next answer) := by
  obtain ⟨service, leads⟩ := underway.leads
  have further := leads.snoc answer
  have permitted := (Invocation.service_permits further).last
  have placed := (Invocation.service_places further).last
  rw [← underway.permitted] at permitted
  rw [← underway.placed] at placed
  obtain ⟨custody, place, permit, held, permitted, placed⟩ :=
    custody.answer found permitted placed answers
  refine ⟨custody, _, held, rfl, ⟨service, further⟩, ?_, ?_⟩
  · rw [Monitor.after_append, ← underway.permitted]
    exact permitted
  · rw [Monitor.after_append, ← underway.placed]
    exact placed

namespace Attending

variable {active next : Option (Active Outcome)}

theorem stays (attending : Attending past id active holding)
    (apart : ∀ other, active = some other → other.id ≠ id)
    (apart' : ∀ other, next = some other → other.id ≠ id) : Attending past id next holding := by
  cases attending with
  | active => exact absurd rfl (apart _ rfl)
  | suspended _ suspended underway => exact .suspended apart' suspended underway
  | ended _ ended place permit => exact .ended apart' ended place permit

theorem free (attending : Attending past id active holding) (ended : holding.isRunning = false) :
    holding.place = none ∧ holding.permit = none := by
  cases attending with
  | active running =>
    rw [running] at ended
    cases ended
  | suspended _ suspended =>
    rw [holding.isRunning_of_suspended suspended] at ended
    cases ended
  | ended _ _ place permit => exact ⟨place, permit⟩

theorem placed (attending : Attending past id active holding)
    (running : holding.isRunning = true) : .ofPlace holding.place = places.after .outside past := by
  cases attending with
  | active _ underway => exact underway.placed
  | suspended _ _ underway => exact underway.placed
  | ended _ ended =>
    rw [running] at ended
    cases ended

end Attending

namespace Attended

variable {active next : Option (Active Outcome)} {stage middle : Stage Outcome}

theorem start (engine : Engine Outcome) :
    Attended [] ⟨{ engine with tasks := {}, operations := {} }, none⟩ where
  custody := .start engine
  fresh _ _ := ⟨rfl, rfl⟩
  present := nofun
  tasks := nofun

theorem isolated (attended : Attended moves ⟨engine, active⟩)
    (mine : ∀ other, active = some other → other.id = id)
    (mine' : ∀ other, next = some other → other.id = id) (custody : after.Custody)
    (isolates : Engine.Isolates id engine after) (moved : ∀ move ∈ more, move.id = id)
    (fresh : engine.nextTask ≤ id → after.holding? id = none ∧ history more = [])
    (present : next ≠ none → ∃ holding, after.holding? id = some holding)
    (stands : ∀ holding, after.holding? id = some holding →
      Attending (history (own id moves ++ more)) id next holding) :
    Attended (moves ++ more) ⟨after, next⟩ := by
  have others {other : TaskId} (differs : other ≠ id) : own other (moves ++ more) =
      own other moves :=
    own_append_of_others (fun move member => by
      rw [moved move member]
      exact Ne.symm differs) moves
  refine ⟨custody, fun other unknown => ?_, fun other same => ?_, fun other holding found => ?_⟩
  · have unknown : engine.nextTask ≤ other := isolates.nextTask ▸ unknown
    obtain ⟨absent, silent⟩ := attended.fresh other unknown
    by_cases same : other = id
    · subst same
      rw [own_append_of_mine moved]
      refine ⟨(fresh unknown).1, ?_⟩
      unfold history at silent ⊢
      rw [List.filterMap_append, silent]
      exact (fresh unknown).2
    · rw [others same]
      exact ⟨(isolates.tasks other same).trans absent, silent⟩
  · have some : next ≠ none := fun none => by
      rw [none] at same
      cases same
    rw [mine' other same]
    exact present some
  · -- The moves are all of one task, so for any other one nothing new has happened.
    by_cases same : other = id
    · subst same
      rw [own_append_of_mine moved]
      exact stands holding found
    · rw [others same]
      have found := (isolates.tasks other same).symm.trans found
      exact (attended.tasks other holding found).stays
        (fun task going => fun equal => same (equal.symm.trans (mine task going)))
        (fun task going => fun equal => same (equal.symm.trans (mine' task going)))

theorem change (attended : Attended moves ⟨engine, none⟩) (change : Change Outcome)
    (unspawned : (change.apply engine).nextTask = engine.nextTask) :
    Attended moves ⟨change.apply engine, none⟩ := by
  have same (custody : (change.apply engine).Custody)
      (tasks : ∀ id, (change.apply engine).holding? id = engine.holding? id) :
      Attended moves ⟨change.apply engine, none⟩ := by
    refine ⟨custody, fun id unknown => ?_, nofun, fun id holding found => ?_⟩
    · rw [tasks]
      exact attended.fresh id (Nat.le_trans (Nat.le_of_eq unspawned.symm) unknown)
    · exact attended.tasks id holding ((tasks id).symm.trans found)
  rcases change.apply_cases engine with ⟨task, rfl⟩ | ⟨operation, rfl⟩ | retains
  · rw [Change.apply, engine.nextTask_spawn] at unspawned
    exact absurd unspawned (Nat.succ_ne_self _)
  · refine same (attended.custody.reset operation) fun id => ?_
    exact congrArg (fun tasks => (tasks.get? id).map Task.holding)
      (Change.reset_tasks engine operation).1
  · exact same (attended.custody.retains retains) retains.tasks

theorem abort (attended : Attended moves ⟨engine, none⟩) (id : TaskId) :
    Attended (moves ++ [⟨id, engine, .aborted, engine.abort id⟩]) ⟨engine.abort id, none⟩ := by
  have custody : (engine.abort id).Custody := by
    apply attended.custody.abort
    intro task found ended
    exact (attended.tasks id task.holding (Engine.holding?_of_found found)).free ended
  refine attended.isolated nofun nofun custody (.abort engine id) (fun move member => ?_)
    (fun _ => ⟨Engine.holding?_abort, rfl⟩) (fun none => absurd rfl none) fun holding found => ?_
  · rw [List.mem_singleton.mp member]
  · rw [Engine.holding?_abort] at found
    cases found

theorem invoke (attended : Attended moves ⟨engine, none⟩) (operation : OperationId)
    (input : String) (service : Service) (linked cancelled : Bool) :
    Attended moves
      ⟨(engine.spawn (Engine.invocation operation input service linked cancelled)).2, none⟩ := by
  obtain ⟨absent, silent⟩ := attended.fresh engine.nextTask (Nat.le_refl _)
  refine ⟨attended.custody.spawn absent rfl rfl, fun id unknown => ?_, nofun,
    fun id holding found => ?_⟩
  · have later : engine.nextTask < id := by
      rw [engine.nextTask_spawn] at unknown
      exact unknown
    rw [Engine.holding?_spawn, if_neg (Nat.ne_of_lt later)]
    exact attended.fresh id (Nat.le_of_lt later)
  · rw [Engine.holding?_spawn] at found
    split at found
    next same =>
      cases found
      subst same
      rw [silent]
      exact .suspended nofun rfl ⟨⟨service, .refl _⟩, rfl, rfl⟩
    next => exact attended.tasks id holding found

theorem resume (attended : Attended moves ⟨engine, none⟩) {task : Task Outcome}
    {plan : Plan Outcome} {wait : Wait} (found : engine.tasks.get? id = some task)
    (suspended : task.progress = .suspended plan wait) :
    Attended moves ⟨engine, some ⟨id, plan, wait⟩⟩ := by
  have here := Engine.holding?_of_found found
  rw [← List.append_nil moves]
  refine attended.isolated nofun (fun other same => ?_) attended.custody
    (Engine.Retains.refl engine).isolates (fun _ none => absurd none List.not_mem_nil)
    (fun unknown => ?_) (fun _ => ⟨_, here⟩) fun holding same => ?_
  · cases same
    rfl
  · exact ⟨(attended.fresh id unknown).1, rfl⟩
  · cases here.symm.trans same
    rw [List.append_nil]
    cases attended.tasks id _ here with
    | suspended _ progress underway =>
      cases suspended.symm.trans progress
      exact .active (Holding.isRunning_of_suspended _ suspended) underway
    | ended _ ended =>
      have running := task.holding.isRunning_of_suspended suspended
      rw [running] at ended
      cases ended

section Active

variable {plan : Plan Outcome} {wait : Wait}

/-- A step of a task that is in the table concerns no other one. -/
theorem advance (attended : Attended moves ⟨engine, some ⟨id, plan, wait⟩⟩)
    (step : Step ⟨engine, some ⟨id, plan, wait⟩⟩ more ⟨after, next⟩) (custody : after.Custody)
    (held : after.holding? id = some holding)
    (attending : Attending (history (own id moves ++ more)) id next holding) :
    Attended (moves ++ more) ⟨after, next⟩ := by
  obtain ⟨isolates, moved, remains⟩ := step.isolates
  have goes (other : Active Outcome) (same : some ⟨id, plan, wait⟩ = some other) :
      other.id = id := by
    cases same
    rfl
  refine attended.isolated goes remains custody isolates moved (fun unknown => ?_)
    (fun _ => ⟨holding, held⟩) fun other same => ?_
  · obtain ⟨present, here⟩ := attended.present _ rfl
    have absent := (attended.fresh id unknown).1
    cases absent.symm.trans here
  · cases held.symm.trans same
    exact attending

/-- A task that ends has given everything back. -/
theorem finish {middle : Engine Outcome} {result : Option Outcome}
    (attended : Attended moves ⟨engine, some ⟨id, plan, wait⟩⟩)
    (step : Step ⟨engine, some ⟨id, plan, wait⟩⟩ more ⟨middle.finish id result, none⟩)
    (custody : middle.Custody) (here : middle.holding? id = some holding) :
    Attended (moves ++ more) ⟨middle.finish id result, none⟩ := by
  obtain ⟨task, found, -⟩ := Engine.found_of_holding here
  obtain ⟨custody, held⟩ := custody.finish found result
  apply attended.advance step custody held
  refine .ended nofun ?_ rfl rfl
  cases result <;> rfl

theorem proceed (attended : Attended moves ⟨engine, some ⟨id, plan, wait⟩⟩)
    (step : Step ⟨engine, some ⟨id, plan, wait⟩⟩ more stage) :
    Attended (moves ++ more) stage := by
  obtain ⟨holding, here⟩ := attended.present _ rfl
  cases attended.tasks id holding here with
  | suspended apart => exact absurd rfl (apart _ rfl)
  | ended apart => exact absurd rfl (apart _ rfl)
  | active running underway =>
  -- The step is needed whole too, for what it says of the other tasks.
  have whole := step
  cases step with
  | @answer _ _ _ task request _ _ answer found answers =>
    cases here.symm.trans (Engine.holding?_of_found found)
    obtain ⟨custody, holding, held, progress, underway⟩ :=
      underway.answered attended.custody found answers
    apply attended.advance whole custody held
    rw [history_append]
    refine .active ?_ underway
    unfold Holding.isRunning at running ⊢
    rw [progress]
    exact running
  | @wait _ after _ task request next _ later found waits =>
    cases here.symm.trans (Engine.holding?_of_found found)
    have retains := Engine.retains_of_unanswered waits nofun
    have custody := (attended.custody.retains retains).setProgress id
      (.suspended (.ask request next) later)
    have held : (after.suspend id (.ask request next) later).holding? id = _ :=
      Engine.holding?_setProgress after id id (.suspended (.ask request next) later)
    rw [if_pos rfl, retains.tasks, here] at held
    apply attended.advance whole custody held
    rw [history_append_of_silent rfl]
    exact .suspended nofun rfl ⟨underway.leads, underway.permitted, underway.placed⟩
  | @crash _ _ _ task _ _ _ found crashes =>
    have retains := Engine.retains_of_unanswered crashes nofun
    exact attended.finish whole (attended.custody.retains retains) ((retains.tasks id).trans here)
  | @finish _ _ result _ => exact attended.finish whole attended.custody here
  | vanish missing =>
    have absent : engine.holding? id = none := congrArg (Option.map Task.holding) missing
    cases absent.symm.trans here

end Active

theorem step (attended : Attended moves middle) (step : Step middle more stage)
    (unspawned : stage.engine.nextTask = middle.engine.nextTask) :
    Attended (moves ++ more) stage := by
  rcases middle with ⟨engine, _ | ⟨id, plan, wait⟩⟩
  · cases step with
    | change _ change =>
      rw [List.append_nil]
      exact attended.change change unspawned
    | abort _ id => exact attended.abort id
    | resume found suspended =>
      rw [List.append_nil]
      exact attended.resume found suspended
  · exact attended.proceed step

end Attended

theorem Course.attended {stage : Stage Outcome} (course : Course moves stage) :
    Attended moves stage := by
  induction course with
  | start engine => exact .start engine
  | invoke _ operation input service linked cancelled inductionHypothesis =>
    exact inductionHypothesis.invoke operation input service linked cancelled
  | step _ step unspawned inductionHypothesis => exact inductionHypothesis.step step unspawned

namespace Engine

/-- Whether a task is an invocation of an operation in progress that has a place. -/
def Occupies (engine : Engine Outcome) (operation : OperationId) (id : TaskId) (place : Place) :
    Prop :=
  ∃ task, engine.tasks.get? id = some task ∧ task.isRunning = true ∧
    task.operation = operation ∧ task.place = some place

theorem occupies_iff {stage : Stage Outcome} (attended : Attended moves stage)
    (operation : OperationId) (id : TaskId) (place : Place) :
    stage.engine.heldIn Holding.place operation id = some place ↔
      stage.engine.Occupies operation id place := by
  rw [heldIn_eq_some]
  constructor
  · rintro ⟨holding, held, same, placed⟩
    obtain ⟨task, found, rfl⟩ := found_of_holding held
    refine ⟨task, found, ?_, same, placed⟩
    apply eq_true_of_ne_false
    intro ended
    have free := ((attended.tasks id _ held).free ended).1
    cases placed.symm.trans free
  · rintro ⟨task, found, -, same, placed⟩
    exact ⟨task.holding, holding?_of_found found, same, placed⟩

/-- In every stage of a course, the slots of a bulkhead that are held and those that were handed
over belong one-to-one to the invocations that are past admission or were just let in, as each
invocation's own exchanges tell. And when no invocation of an operation is in progress, all
bulkheads that it ever had are unused and its breaker waits for no probe. -/
theorem nothing_leaks {stage : Stage Outcome} (course : Course moves stage)
    (operation : OperationId) :
    let state := stage.engine.stateOf operation
    ((∀ id task, stage.engine.tasks.get? id = some task → task.operation = operation →
        task.isRunning = false) →
      (∀ bulkhead ∈ state.bulkheads, bulkhead.inFlight = 0 ∧ bulkhead.queue = []) ∧
        state.breaker.probing = false) ∧
    (∀ index bulkhead, state.bulkheads[index]? = some bulkhead →
      ∃ inside handed : List TaskId, (inside ++ handed).Nodup ∧
        bulkhead.inFlight = inside.length + handed.length ∧
        (∀ id, id ∈ inside ↔ stage.engine.Occupies operation id (.slot index)) ∧
        ∀ id, id ∈ handed ↔ ∃ ticket ∈ bulkhead.granted,
          stage.engine.Occupies operation id (.ticket index ticket)) ∧
    ∀ id task, stage.engine.tasks.get? id = some task → task.operation = operation →
      task.isRunning = true →
        .ofPlace task.place = places.after .outside (history (own id moves)) ∧
          ∀ place, task.place = some place → place.bulkhead < state.bulkheads.length := by
  intro state
  have attended := course.attended
  have occupied := attended.custody.occupied operation
  refine ⟨fun idle => ?_, fun index bulkhead found => ?_, fun id task found same running => ?_⟩
  · have free (id : TaskId) (holding : Holding Outcome)
        (held : stage.engine.holding? id = some holding) (same : holding.operation = operation) :
        holding.place = none ∧ holding.permit = none := by
      obtain ⟨task, found, rfl⟩ := found_of_holding held
      exact (attended.tasks id _ held).free (idle id task found same)
    have empty (id : TaskId) : stage.engine.heldIn Holding.place operation id = none :=
      heldIn_eq_none fun holding held same => (free id holding held same).1
    have unpermitted (id : TaskId) : stage.engine.heldIn Holding.permit operation id = none :=
      heldIn_eq_none fun holding held same => (free id holding held same).2
    refine ⟨fun bulkhead member => ?_, (attended.custody.probed operation).idle unpermitted⟩
    obtain ⟨index, found⟩ := List.mem_iff_getElem?.mp member
    obtain ⟨holders, waiters, seated⟩ := occupied.seated index bulkhead found
    exact seated.idle empty
  · obtain ⟨holders, waiters, seated⟩ := occupied.seated index bulkhead found
    obtain ⟨handed, distinct, length, mem_handed⟩ := seated.handed
    refine ⟨holders, handed, distinct, ?_, fun id => ?_, fun id => ?_⟩
    · rw [length]
      exact seated.conserved.inFlight_eq
    · exact (seated.holds id).trans (occupies_iff attended operation id _)
    · rw [mem_handed]
      exact exists_congr fun ticket => and_congr_right fun _ => occupies_iff attended operation id _
  · have here := holding?_of_found found
    refine ⟨(attended.tasks id _ here).placed running, fun place placed => ?_⟩
    exact occupied.within id place
      ((occupies_iff attended operation id place).mpr ⟨task, found, running, same, placed⟩)

/-- A service whose calls wait for a gate. -/
def gated : Service := { respond := fun _ => ⟨[.awaitGate], .ok "done"⟩ }

/-- An engine that knows one operation, with a bulkhead of one slot. -/
def narrow : Engine Outcome where
  registry :=
    let policy : Policy := { bulkhead := some { maxConcurrent := 1 } }
    ⟨({} : Table OperationId Registration).set "pay" ⟨policy, [], policy⟩⟩

/-- An engine after one more gated invocation has gone as far as it can. -/
def joined (engine : Engine Outcome) : Engine Outcome :=
  (engine.starting (invocation "pay" "" gated true false)).run engine.nextTask (gated.plan "pay")
    .unbegun

/-- The slot of an invocation that is ended from outside belongs to the next one in the queue. -/
theorem nothing_leaks_handover :
    let engine := narrow.joined.joined.abort 0
    (∃ moves, Course moves ⟨engine, none⟩) ∧
      (engine.stateOf "pay").bulkheads.map (·.granted) = [[0]] ∧
      ∀ bulkhead, (engine.stateOf "pay").bulkheads[0]? = some bulkhead →
        ∃ inside handed : List TaskId, (inside ++ handed).Nodup ∧
          bulkhead.inFlight = inside.length + handed.length ∧
          (∀ id, id ∈ inside ↔ engine.Occupies "pay" id (.slot 0)) ∧
          ∀ id, id ∈ handed ↔ ∃ ticket ∈ bulkhead.granted,
            engine.Occupies "pay" id (.ticket 0 ticket) := by
  have idle : Course [] ⟨narrow, none⟩ := .start narrow
  have first := (idle.invoke "pay" "" gated true false).run (run_starting narrow rfl) rfl
  have second := (first.invoke "pay" "" gated true false).run (run_starting narrow.joined rfl) rfl
  have course := second.step (.abort narrow.joined.joined 0) rfl
  exact ⟨⟨_, course⟩, rfl, (nothing_leaks course "pay").2.1 0⟩

end Engine

end Resilience
