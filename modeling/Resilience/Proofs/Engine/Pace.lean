import Resilience.Proofs.Engine.Discretion
import Resilience.Proofs.Engine.Onward
import Resilience.Proofs.Engine.Unison

/-!
The pace of an engine that keeps its schedule: tasks go on in their order, each with a full stint,
and time passes only while all of them wait, never past a timer that one of them waits for. What
happens to an engine besides takes no time and keeps no task from going on.
-/

namespace Resilience

open Move

variable {α : Type}

def Engine.Rests (engine : Engine α) : Prop := engine.ready = [] ∧ engine.aside = []

instance (engine : Engine α) : Decidable engine.Rests :=
  inferInstanceAs (Decidable (_ ∧ _))

def Engine.Queued (engine : Engine α) (id : TaskId) : Prop :=
  id ∈ engine.ready ∨ id ∈ engine.aside

theorem Engine.Rests.not_queued {engine : Engine α} (rests : engine.Rests) (id : TaskId) :
    ¬ engine.Queued id := by
  rintro (goes | aside)
  · rw [rests.1] at goes
    cases goes
  · rw [rests.2] at aside
    cases aside

/-- Whether a change starts no task and leaves the time and the order of tasks to the engine. -/
def Change.Prompt : Change α → Prop
  | spawn _ | elapse _ | schedule .. => False
  | _ => True

/-- Whether these moves lead from an engine to another one that keeps its schedule. All tasks that
are started on the way are invocations. -/
inductive Scheduled (first : Engine Outcome) : List (Move Outcome) → Engine Outcome → Prop
  | refl : Scheduled first [] first
  | invoke {moves : List (Move Outcome)} {engine : Engine Outcome}
      (scheduled : Scheduled first moves engine) (operation : OperationId) (input : String)
      (service : Service) (linked cancelled : Bool) :
      Scheduled first moves
        (engine.spawn (Engine.invocation operation input service linked cancelled)).2
  | change {moves : List (Move Outcome)} {engine : Engine Outcome}
      (scheduled : Scheduled first moves engine) (change : Change Outcome)
      (prompt : change.Prompt) : Scheduled first moves (change.apply engine)
  | abort {moves : List (Move Outcome)} {engine : Engine Outcome}
      (scheduled : Scheduled first moves engine) (id : TaskId) :
      Scheduled first (moves ++ [⟨id, engine, .aborted, engine.abort id⟩]) (engine.abort id)
  | work {moves : List (Move Outcome)} {engine : Engine Outcome}
      (scheduled : Scheduled first moves engine) {id : TaskId} {rest : List TaskId}
      (next : engine.ready = id :: rest) :
      Scheduled first (moves ++ ({ engine with ready := rest }.stinted id).turn id)
        ({ engine with ready := rest }.work id)
  | round {moves : List (Move Outcome)} {engine : Engine Outcome}
      (scheduled : Scheduled first moves engine) : Scheduled first moves engine.nextRound
  | elapse {moves : List (Move Outcome)} {engine : Engine Outcome}
      (scheduled : Scheduled first moves engine) (rests : engine.Rests) {moment : Nat}
      (later : engine.now ≤ moment) (next : ∀ entry ∈ engine.timers, moment ≤ entry.1.due) :
      Scheduled first moves (engine.moveTo moment)

namespace Engine

theorem wakeAll_order (engine : Engine α) (ids : List TaskId) :
    ∃ ready stint, engine.wakeAll ids = { engine with ready, stint } := by
  induction ids generalizing engine with
  | nil => exact ⟨engine.ready, engine.stint, rfl⟩
  | cons id rest inductionHypothesis =>
    obtain ⟨ready, stint, woken⟩ := engine.wake_order id
    obtain ⟨ready', stint', same⟩ := inductionHypothesis (engine.wake id)
    refine ⟨ready', stint', same.trans ?_⟩
    rw [woken]

end Engine

namespace Onward

variable {first : Stage Outcome} {moves : List (Move Outcome)} {engine : Engine Outcome}

theorem change (onward : Onward first moves ⟨engine, none⟩) (change : Change Outcome)
    (other : ∀ task, change ≠ .spawn task) : Onward first moves ⟨change.apply engine, none⟩ := by
  have further := onward.step (.change engine change) (change.nextTask_apply engine other)
  rwa [List.append_nil] at further

theorem order (onward : Onward first moves ⟨engine, none⟩) (ready aside : List TaskId)
    (stint : Stint) (stints : Nat) :
    Onward first moves ⟨{ engine with ready, aside, stint, stints }, none⟩ :=
  onward.change (.schedule ready aside stint stints) fun _ => by simp

theorem wake (onward : Onward first moves ⟨engine, none⟩) (id : TaskId) :
    Onward first moves ⟨engine.wake id, none⟩ := by
  obtain ⟨ready, stint, same⟩ := engine.wake_order id
  rw [same]
  exact onward.order ready engine.aside stint engine.stints

theorem wakeAll (onward : Onward first moves ⟨engine, none⟩) (ids : List TaskId) :
    Onward first moves ⟨engine.wakeAll ids, none⟩ := by
  obtain ⟨ready, stint, same⟩ := engine.wakeAll_order ids
  rw [same]
  exact onward.order ready engine.aside stint engine.stints

theorem work (onward : Onward first moves ⟨engine, none⟩) (id : TaskId) :
    Onward first (moves ++ (engine.stinted id).turn id) ⟨engine.work id, none⟩ := by
  have started := onward.order engine.ready engine.aside (.start id) (engine.stints + 1)
  have polled := started.further ((engine.stinted id).run_turn id)
    (((engine.stinted id).poll_isolates id).1.nextTask)
  have rested := polled.order ((engine.stinted id).poll id).ready
    ((engine.stinted id).poll id).aside {} ((engine.stinted id).poll id).stints
  unfold Engine.work
  simp only
  split
  · exact rested.wake id
  · exact rested

end Onward

namespace Scheduled

variable {first engine : Engine Outcome} {moves : List (Move Outcome)}

theorem onward (scheduled : Scheduled first moves engine) :
    Onward ⟨first, none⟩ moves ⟨engine, none⟩ := by
  induction scheduled with
  | refl => exact .refl
  | invoke _ operation input service linked cancelled inductionHypothesis =>
    exact inductionHypothesis.invoke operation input service linked cancelled
  | change _ change prompt inductionHypothesis =>
    exact inductionHypothesis.change change fun task same => by rw [same] at prompt; exact prompt
  | @abort moves engine _ id inductionHypothesis =>
    exact inductionHypothesis.step (.abort engine id) (Engine.Isolates.abort engine id).nextTask
  | @work moves engine _ id rest _ inductionHypothesis =>
    exact (inductionHypothesis.order rest engine.aside engine.stint engine.stints).work id
  | @round moves engine _ inductionHypothesis =>
    exact (inductionHypothesis.order engine.ready [] engine.stint 0).wakeAll _
  | @elapse moves engine _ _ moment _ _ inductionHypothesis =>
    exact (inductionHypothesis.change (.elapse moment) fun _ => by simp).wakeAll _

end Scheduled

/-- The moves that tasks make when they go on until all of them wait. -/
def Engine.settling (engine : Engine α) : (turns : Nat) → List (Move α)
  | 0 => []
  | turns + 1 =>
    match engine.ready with
    | [] => if engine.aside = [] then [] else engine.nextRound.settling turns
    | next :: rest =>
      if engine.stints = roundLength then engine.nextRound.settling turns
      else ({ engine with ready := rest }.stinted next).turn next ++
        ({ engine with ready := rest }.work next).settling turns

theorem Scheduled.settle {first engine : Engine Outcome} {moves : List (Move Outcome)}
    (scheduled : Scheduled first moves engine) (turns : Nat) :
    Scheduled first (moves ++ engine.settling turns) (engine.settle turns) := by
  induction turns generalizing engine moves with
  | zero =>
    rw [Engine.settling, List.append_nil]
    exact scheduled
  | succ turns inductionHypothesis =>
    unfold Engine.settling Engine.settle
    cases next : engine.ready with
    | nil =>
      simp only
      split
      · rw [List.append_nil]
        exact scheduled.round
      · exact inductionHypothesis scheduled.round
    | cons id rest =>
      simp only
      split
      · exact inductionHypothesis scheduled.round
      · rw [← List.append_assoc]
        exact inductionHypothesis (scheduled.work next)

namespace Engine

structure Unhindered (before after : Engine α) : Prop where
  now : after.now = before.now
  stint : after.stint.task = before.stint.task
  ready : ∀ id ∈ before.ready, id ∈ after.ready
  aside : ∀ id ∈ before.aside, id ∈ after.aside

variable {engine before middle after : Engine α} {id : TaskId}

namespace Unhindered

theorem refl (engine : Engine α) : engine.Unhindered engine :=
  ⟨rfl, rfl, fun _ goes => goes, fun _ rests => rests⟩

theorem tables (now : after.now = before.now) (stint : after.stint.task = before.stint.task)
    (ready : after.ready = before.ready) (aside : after.aside = before.aside) :
    before.Unhindered after :=
  ⟨now, stint, fun _ goes => ready ▸ goes, fun _ rests => aside ▸ rests⟩

theorem trans (first : before.Unhindered middle) (second : middle.Unhindered after) :
    before.Unhindered after where
  now := second.now.trans first.now
  stint := second.stint.trans first.stint
  ready id goes := second.ready id (first.ready id goes)
  aside id rests := second.aside id (first.aside id rests)

/-- What is no doing of a task keeps none from going on. -/
theorem of_discreet (discreet : ∀ id, Discreet id before after) : before.Unhindered after where
  now := (discreet 0).now
  stint := (discreet 0).stint
  ready id goes := (discreet (id + 1)).ready id (Nat.ne_of_lt (Nat.lt_succ_self id)) goes
  aside := (discreet 0).aside

theorem wake (engine : Engine α) (id : TaskId) : engine.Unhindered (engine.wake id) :=
  of_discreet fun other => (Discreet.refl engine other).wake id

theorem wakeAll (engine : Engine α) (ids : List TaskId) : engine.Unhindered (engine.wakeAll ids) :=
  of_discreet fun other => (Discreet.refl engine other).wakeAll ids

theorem spawn (engine : Engine α) (task : Task α) : engine.Unhindered (engine.spawn task).2 :=
  (tables (by rfl) (by rfl) (by rfl) (by rfl)).trans
    (wake { engine with
      tasks := engine.tasks.set engine.nextTask task, nextTask := engine.nextTask + 1 }
        engine.nextTask)

theorem apply {change : Change α} (prompt : change.Prompt) (engine : Engine α) :
    engine.Unhindered (change.apply engine) := by
  have same := Unhindered.refl engine
  have entered (accepted refused : List LogLine)
      (result : Except PolicyError (Policy × Registry)) :
      engine.Unhindered (engine.changeRegistry accepted refused result).2 := by
    cases result <;> exact tables rfl rfl rfl rfl
  have modified (other : TaskId) (amend : Task α → Task α) (woken : Bool) :
      engine.Unhindered (if woken then (engine.modifyTask other amend).wake other
        else engine.modifyTask other amend) := by
    have amended : engine.Unhindered (engine.modifyTask other amend) := tables rfl rfl rfl rfl
    split
    · exact amended.trans (wake _ other)
    · exact amended
  cases change with
  | cancel other =>
    show engine.Unhindered (engine.cancel other)
    unfold cancel
    split
    · exact modified other Task.cancel _
    · exact same
  | openGate other permits =>
    show engine.Unhindered (engine.openGate other permits)
    unfold openGate
    split
    · exact modified other _ _
    · exact same
  | openSink permits =>
    exact of_discreet fun other => (Discreet.refl engine other).changeGate _
  | register | overrideField | clearOverride => exact entered _ _ _
  | reset operation =>
    show engine.Unhindered (engine.reset operation).2
    unfold reset
    split
    · exact same
    · split
      · exact same
      · exact tables rfl rfl rfl rfl
  | registerStrategy | registerHandler | collect | setClock => exact tables rfl rfl rfl rfl
  | _ => exact prompt.elim

end Unhindered

theorem mem_ready_wake (idle : engine.stint.task = none) (id : TaskId) :
    id ∈ (engine.wake id).ready := by
  unfold wake
  rw [idle]
  simp only [reduceCtorEq, if_false]
  split
  next goes => exact List.contains_iff_mem.mp goes
  next => exact List.mem_append_right _ (.head _)

theorem mem_ready_wakeAll (idle : engine.stint.task = none) {ids : List TaskId}
    (member : id ∈ ids) : id ∈ (engine.wakeAll ids).ready := by
  induction ids generalizing engine with
  | nil => cases member
  | cons other rest inductionHypothesis =>
    have woken := Unhindered.wake engine other
    rcases List.mem_cons.mp member with rfl | later
    · exact (Unhindered.wakeAll (engine.wake id) rest).ready id (mem_ready_wake idle id)
    · exact inductionHypothesis (woken.stint.trans idle) later

theorem mem_ready_nextRound (idle : engine.stint.task = none) (runs : engine.isRunning id = true)
    (queued : engine.Queued id) : id ∈ engine.nextRound.ready := by
  have cleared : { engine with aside := [], stints := 0 }.stint.task = none := idle
  unfold nextRound
  rcases queued with goes | rests
  · exact (Unhindered.wakeAll _ _).ready id goes
  · exact mem_ready_wakeAll cleared (List.mem_filter.mpr ⟨rests, runs⟩)

theorem mem_timers {task : Task α} {timer : Timer} (found : engine.tasks.get? id = some task)
    (set : timer ∈ task.timers) : (timer, id) ∈ engine.timers := by
  obtain ⟨entry, entered, rfl⟩ := Option.map_eq_some_iff.mp found
  have same := List.find?_some entered
  refine List.mem_flatMap.mpr ⟨entry, List.mem_of_find?_eq_some entered, ?_⟩
  rw [← of_decide_eq_true same]
  exact List.mem_map_of_mem set

theorem mem_ready_moveTo (idle : engine.stint.task = none) {task : Task α} {timer : Timer}
    {moment : Nat} (found : engine.tasks.get? id = some task) (set : timer ∈ task.timers)
    (due : timer.due ≤ moment) : id ∈ (engine.moveTo moment).ready := by
  have moved : { engine with now := moment }.stint.task = none := idle
  refine mem_ready_wakeAll moved (List.mem_map.mpr ⟨(timer, id), ?_, rfl⟩)
  exact List.mem_mergeSort.mpr
    (List.mem_filter.mpr ⟨mem_timers found set, decide_eq_true due⟩)

/-- A stint ends with its task waiting, or going on once more. -/
theorem work_cases (engine : Engine α) (id : TaskId) :
    engine.work id = { (engine.stinted id).poll id with stint := {} } ∨
      engine.work id = { (engine.stinted id).poll id with stint := {} }.wake id := by
  unfold work
  simp only
  split
  · exact .inr rfl
  · exact .inl rfl

/-- Whether what happens takes no time and leaves a task where it stands, if it leaves it at all: it
can still go on if it could before, and if its body waits for a permit that is there now, it can go
on as well. -/
structure Leaves (id : TaskId) (before after : Engine α) : Prop where
  now : after.now = before.now
  idle : after.stint.task = none
  queued : after.isRunning id = true → before.Queued id → after.Queued id
  task : ∀ later, after.tasks.get? id = some later → ∃ task, before.tasks.get? id = some task ∧
    later.service = task.service ∧ later.calls = task.calls ∧ later.progress = task.progress ∧
      (later.gate = task.gate ∨ awaitsGate task = false ∨ after.Queued id)

namespace Leaves

theorem of_same (idle : before.stint.task = none) (unhindered : before.Unhindered after)
    (same : after.tasks.get? id = before.tasks.get? id) : Leaves id before after where
  now := unhindered.now
  idle := unhindered.stint.trans idle
  queued _ := Or.imp (unhindered.ready id) (unhindered.aside id)
  task later found := ⟨later, same.symm.trans found, rfl, rfl, rfl, .inl rfl⟩

theorem spawn (idle : engine.stint.task = none) (known : id < engine.nextTask) (task : Task α) :
    Leaves id engine (engine.spawn task).2 := by
  refine .of_same idle (.spawn engine task) ?_
  unfold Engine.spawn
  rw [tasks_wake]
  exact (Table.get?_set ..).trans (if_neg (Nat.ne_of_gt known))

/-- A permit that comes wakes the body that waits for it. -/
theorem openGate (idle : engine.stint.task = none) (id : TaskId) (permits : Nat)
    {task : Task α} (found : engine.tasks.get? id = some task) :
    task.gate + permits = task.gate ∨ awaitsGate task = false ∨
      (engine.openGate id permits).Queued id := by
  cases awaits : awaitsGate task with
  | false => exact .inr (.inl rfl)
  | true =>
    rcases Nat.eq_zero_or_pos permits with none | some
    · exact .inl (by rw [none, Nat.add_zero])
    · have opened : engine.openGate id permits =
          (engine.modifyTask id fun task => { task with gate := task.gate + permits }).wake id := by
        unfold Engine.openGate
        rw [found]
        exact if_pos (by simp [some, awaits])
      have modified : (engine.modifyTask id fun task =>
          { task with gate := task.gate + permits }).stint.task = .none := idle
      rw [opened]
      exact .inr (.inr (.inl (mem_ready_wake modified id)))

theorem apply (idle : engine.stint.task = none) (id : TaskId) {change : Change α}
    (prompt : change.Prompt) : Leaves id engine (change.apply engine) := by
  have unhindered := Unhindered.apply prompt engine
  have touched (joint : change.Joint) : Leaves id engine (change.apply engine) := by
    refine ⟨unhindered.now, unhindered.stint.trans idle,
      fun _ => Or.imp (unhindered.ready id) (unhindered.aside id), fun later found => ?_⟩
    rw [tasks_joint engine id joint] at found
    obtain ⟨task, before, rfl⟩ := Option.map_eq_some_iff.mp found
    refine ⟨task, before, ?_, ?_, Change.touch_progress, ?_⟩
    · cases change <;> simp only [Change.touch] <;> split <;> rfl
    · cases change <;> simp only [Change.touch] <;> split <;> rfl
    · cases change with
      | openGate other permits =>
        simp only [Change.touch]
        split
        next same =>
          subst same
          exact openGate idle other permits before
        next => exact .inl rfl
      | cancel other =>
        simp only [Change.touch]
        split <;> exact .inl rfl
      | _ => exact .inl rfl
  have untouched (apart : change.Apart) : Leaves id engine (change.apply engine) :=
    .of_same idle unhindered (by rw [(apply_apart engine apart).2])
  cases change with
  | cancel | openGate | openSink | registerStrategy | reset | setClock => exact touched trivial
  | register | overrideField | clearOverride | registerHandler | collect =>
    exact untouched trivial
  | spawn | elapse | schedule => exact prompt.elim

theorem abort (idle : engine.stint.task = none) (id other : TaskId) :
    Leaves id engine (engine.abort other) := by
  have discreet := Discreet.abort engine other
  by_cases apart : id = other
  · subst apart
    have gone : (engine.abort id).tasks.get? id = none :=
      Option.map_eq_none_iff.mp core?_abort
    refine ⟨discreet.now, discreet.stint.trans idle, fun runs => ?_, fun later found => ?_⟩
    · unfold isRunning at runs
      rw [gone] at runs
      cases runs
    · cases gone.symm.trans found
  · exact ⟨discreet.now, discreet.stint.trans idle,
      fun _ => Or.imp (discreet.ready id apart) (discreet.aside id), fun later found =>
        ⟨later, (discreet.tasks id apart).symm.trans found, rfl, rfl, rfl, .inl rfl⟩⟩

theorem nextRound (idle : engine.stint.task = none) (id : TaskId) :
    Leaves id engine engine.nextRound := by
  have woken := Unhindered.wakeAll { engine with aside := [], stints := 0 }
    (engine.aside.filter engine.isRunning)
  have same : engine.nextRound.tasks = engine.tasks := tasks_wakeAll _ _
  refine ⟨woken.now, woken.stint.trans idle, fun runs queued => .inl ?_, fun later found => ?_⟩
  · unfold isRunning at runs
    rw [same] at runs
    exact mem_ready_nextRound idle runs queued
  · rw [same] at found
    exact ⟨later, found, rfl, rfl, rfl, .inl rfl⟩

theorem wake (leaves : Leaves id before after) (other : TaskId) :
    Leaves id before (after.wake other) := by
  have woken := Unhindered.wake after other
  refine ⟨woken.now.trans leaves.now, woken.stint.trans leaves.idle, fun runs queued => ?_,
    fun later found => ?_⟩
  · unfold isRunning at runs
    rw [tasks_wake] at runs
    exact (leaves.queued runs queued).imp (woken.ready id) (woken.aside id)
  · rw [tasks_wake] at found
    obtain ⟨task, known, service, calls, progress, gate⟩ := leaves.task later found
    exact ⟨task, known, service, calls, progress,
      gate.imp_right (Or.imp_right (Or.imp (woken.ready id) (woken.aside id)))⟩

theorem stint {other : TaskId}
    (leaves : Leaves id before { (engine.stinted other).poll other with stint := {} }) :
    Leaves id before (engine.work other) := by
  rcases work_cases engine other with same | same
  · rw [same]
    exact leaves
  · rw [same]
    exact leaves.wake other

theorem work {other : TaskId} {rest : List TaskId} (apart : id ≠ other)
    (next : engine.ready = other :: rest) :
    Leaves id engine ({ engine with ready := rest }.work other) := by
  have polled := Discreet.poll ({ engine with ready := rest }.stinted other) other
  refine stint ⟨polled.now, rfl, fun _ queued => ?_, fun later found =>
    ⟨later, (polled.tasks id apart).symm.trans found, rfl, rfl, rfl, .inl rfl⟩⟩
  refine queued.imp (fun goes => polled.ready id apart ?_) (polled.aside id)
  rw [next] at goes
  exact (List.mem_cons.mp goes).resolve_left apart

end Leaves

end Engine

end Resilience
