import Mathlib.Algebra.BigOperators.Ring.Finset
import Resilience.Proofs.Engine.Leaks
import Resilience.Proofs.Engine.Ledger
import Resilience.Proofs.Engine.Sampling

/-!
Chronicles: whole courses of an engine, with the events that were read from its sink on the way.
Once all invocations have returned, the counters of each operation tell the same story as its
events.
-/

namespace Resilience

open Move

namespace Sink

variable {sink : Sink} {memory : MemorySink}

theorem kept_of_record {occurrence : OperationEvent}
    (stored : (sink.record occurrence).store = .memory memory) (complete : memory.evicted = 0) :
    ∃ earlier, sink.store = .memory earlier ∧ earlier.evicted = 0 ∧
      memory.events = earlier.events ++ [occurrence] := by
  unfold record at stored
  split at stored
  next same => cases same.symm.trans stored
  next same => cases same.symm.trans stored
  next earlier same =>
    cases stored
    refine ⟨earlier, same, ?_⟩
    unfold MemorySink.send at complete ⊢
    split at complete
    next => cases complete
    next room =>
      rw [if_neg room]
      exact ⟨complete, rfl⟩
  next => cases stored

theorem kept_of_drain (stored : sink.drain.2.store = .memory memory)
    (complete : memory.evicted = 0) :
    ∃ earlier, sink.store = .memory earlier ∧ earlier.evicted = 0 ∧
      earlier.events = sink.drain.1 ∧ memory.events = [] := by
  unfold drain at stored ⊢
  split
  next same =>
    rw [same] at stored
    cases same.symm.trans stored
  next same =>
    rw [same] at stored
    cases same.symm.trans stored
  next earlier same =>
    rw [same] at stored
    cases stored
    exact ⟨earlier, same, complete, rfl, rfl⟩
  next same =>
    rw [same] at stored
    cases stored

end Sink

/-- Whether moves lead from an engine that did nothing yet to a stage: the operations that were
invoked, in the order of their tasks, and the events that were read from the sink. -/
inductive Chronicle :
    List OperationId → List OperationEvent → List (Move Outcome) → Stage Outcome → Prop
  | start (engine : Engine Outcome) (store : EventStore)
      (empty : ∀ memory, store = .memory memory → memory.events = []) :
      Chronicle [] [] [] ⟨{ engine with
        tasks := {}, nextTask := 0, operations := {},
        sink := { engine.sink with store, ready := true } }, none⟩
  | invoke {invoked : List OperationId} {read : List OperationEvent} {moves : List (Move Outcome)}
      {engine : Engine Outcome} (chronicle : Chronicle invoked read moves ⟨engine, none⟩)
      (operation : OperationId) (input : String) (service : Service) (linked cancelled : Bool) :
      Chronicle (invoked ++ [operation]) read moves
        ⟨(engine.spawn (Engine.invocation operation input service linked cancelled)).2, none⟩
  | collect {invoked : List OperationId} {read : List OperationEvent} {moves : List (Move Outcome)}
      {engine : Engine Outcome} (chronicle : Chronicle invoked read moves ⟨engine, none⟩) :
      Chronicle invoked (read ++ engine.collect.1.2) moves ⟨engine.collect.2, none⟩
  | change {invoked : List OperationId} {read : List OperationEvent} {moves : List (Move Outcome)}
      {engine : Engine Outcome} (chronicle : Chronicle invoked read moves ⟨engine, none⟩)
      (change : Change Outcome) (plain : change.Plain) :
      Chronicle invoked read moves ⟨change.apply engine, none⟩
  | step {invoked : List OperationId} {read : List OperationEvent}
      {moves more : List (Move Outcome)} {middle stage : Stage Outcome}
      (chronicle : Chronicle invoked read moves middle) (step : Step middle more stage)
      (moved : more = [] → stage.engine = middle.engine) :
      Chronicle invoked read (moves ++ more) stage

variable {invoked : List OperationId} {read : List OperationEvent}
  {moves more : List (Move Outcome)} {middle stage : Stage Outcome}

/-- A chronicle goes on with steps that start no task and read no events. -/
theorem Chronicle.proceeds (chronicle : Chronicle invoked read moves middle)
    (proceeds : Proceeds middle more stage) : Chronicle invoked read (moves ++ more) stage := by
  induction proceeds with
  | refl => exact (List.append_nil moves).symm ▸ chronicle
  | change _ change plain inductionHypothesis => exact inductionHypothesis.change change plain
  | step _ step moved inductionHypothesis =>
    rw [← List.append_assoc]
    exact inductionHypothesis.step step moved

theorem Chronicle.runUntil {engine : Engine Outcome}
    (chronicle : Chronicle invoked read moves ⟨engine, none⟩) (stop : Engine Outcome → Bool)
    (turns moments : Nat) :
    ∃ more, Chronicle invoked read (moves ++ more) ⟨engine.runUntil stop turns moments, none⟩ := by
  obtain ⟨more, proceeds⟩ := Engine.Becomes.runUntil engine stop turns moments
  exact ⟨more, chronicle.proceeds proceeds⟩

theorem Chronicle.turn {engine : Engine Outcome} {id : TaskId} {plan : Plan Outcome} {wait : Wait}
    (chronicle : Chronicle invoked read moves ⟨engine, some ⟨id, plan, wait⟩⟩) :
    Chronicle invoked read (moves ++ engine.moves id plan wait) ⟨engine.run id plan wait, none⟩ :=
  chronicle.proceeds (engine.proceeds_moves id plan wait)

theorem Chronicle.starting {engine : Engine Outcome}
    (chronicle : Chronicle invoked read moves ⟨engine, none⟩) (operation : OperationId)
    (service : Service) :
    Chronicle (invoked ++ [operation]) read (moves ++ engine.movesOf operation service)
      ⟨(engine.starting (Engine.invocation operation "" service true false)).run engine.nextTask
        (service.plan operation) .unbegun, none⟩ := by
  have started := chronicle.invoke operation "" service true false
  have scheduled := started.change (.schedule
    (engine.spawn (Engine.invocation operation "" service true false)).2.ready
    (engine.spawn (Engine.invocation operation "" service true false)).2.aside
    (.start engine.nextTask) 1) trivial
  have resumed := scheduled.step (.resume (engine.get?_starting _) rfl) fun _ => rfl
  rw [List.append_nil] at resumed
  exact resumed.turn

theorem Chronicle.unspawned {engine : Engine Outcome} {change : Change Outcome}
    (plain : change.Plain) : (change.apply engine).nextTask = engine.nextTask := by
  refine Change.nextTask_apply engine ?_
  rintro task rfl
  exact plain

theorem Step.nextTask_of_moved (step : Step middle more stage)
    (moved : more = [] → stage.engine = middle.engine) :
    stage.engine.nextTask = middle.engine.nextTask := by
  rcases middle with ⟨engine, _ | active⟩
  · cases step with
    | change => exact congrArg Engine.nextTask (moved rfl)
    | abort _ id => exact (Engine.Isolates.abort engine id).nextTask
    | resume => rfl
  · exact step.isolates.1.nextTask

theorem Chronicle.course (chronicle : Chronicle invoked read moves stage) : Course moves stage := by
  induction chronicle with
  | start engine store =>
    exact .start { engine with nextTask := 0, sink := { engine.sink with store, ready := true } }
  | invoke _ operation input service linked cancelled inductionHypothesis =>
    exact inductionHypothesis.invoke operation input service linked cancelled
  | collect _ inductionHypothesis =>
    have further := inductionHypothesis.step (.change _ .collect) rfl
    rwa [List.append_nil] at further
  | change _ change plain inductionHypothesis =>
    have further := inductionHypothesis.step (.change _ change) (unspawned plain)
    rwa [List.append_nil] at further
  | step _ step moved inductionHypothesis =>
    exact inductionHypothesis.step step (step.nextTask_of_moved moved)

def Recalled (operation : OperationId) (id : TaskId) (mine : List (Move Outcome))
    (stage : Stage Outcome) : Prop :=
  ∃ (service : Service) (before later : List (Move Outcome)), mine = before ++ later ∧
    (∀ move ∈ before, move.deed = .aborted) ∧
      Follows ⟨id, operation, false⟩ ⟨service.plan operation, .unbegun, none⟩ stage later

theorem Recalled.step {operation : OperationId} {id : TaskId} {mine : List (Move Outcome)}
    (recalled : Recalled operation id mine middle) (known : id < middle.engine.nextTask)
    (step : Step middle more stage) : Recalled operation id (mine ++ own id more) stage := by
  obtain ⟨service, before, later, rfl, forgotten, follows⟩ := recalled
  exact ⟨service, before, later ++ own id more, List.append_assoc .., forgotten,
    follows.step known step⟩

structure Recounted (invoked : List OperationId) (read : List OperationEvent)
    (moves : List (Move Outcome)) (stage : Stage Outcome) : Prop where
  length : stage.engine.nextTask = invoked.length
  ready : stage.engine.sink.ready = true
  known : ∀ move ∈ moves, move.id < invoked.length ∨ move.deed = .aborted
  recalled : ∀ id operation, invoked[id]? = some operation →
    Recalled operation id (own id moves) stage
  books : ∀ operation, (stage.engine.stateOf operation).metrics.books -
    tellings operation (occurrences moves) = (moves.map (entry operation)).sum
  kept : ∀ memory, stage.engine.sink.store = .memory memory → memory.evicted = 0 →
    occurrences moves = read ++ memory.events

namespace Recounted

variable {engine : Engine Outcome}

theorem start (engine : Engine Outcome) {store : EventStore}
    (empty : ∀ memory, store = .memory memory → memory.events = []) :
    Recounted [] [] [] ⟨{ engine with
      tasks := {}, nextTask := 0, operations := {},
      sink := { engine.sink with store, ready := true } }, none⟩ where
  length := rfl
  ready := rfl
  known := fun _ none => absurd none List.not_mem_nil
  recalled := fun _ _ none => by cases none
  books operation := by
    funext counter
    simp [Engine.stateOf, Metrics.books, tellings, occurrences]
  kept memory stored _ := (empty memory stored).symm

theorem recalled_change (recounted : Recounted invoked read moves ⟨engine, none⟩)
    (change : Change Outcome) {id : TaskId} {operation : OperationId}
    (known : invoked[id]? = some operation) :
    Recalled operation id (own id moves) ⟨change.apply engine, none⟩ := by
  have within : id < engine.nextTask := by
    rw [show engine.nextTask = invoked.length from recounted.length]
    exact (List.getElem?_eq_some_iff.mp known).1
  have further := (recounted.recalled id operation known).step within (.change engine change)
  rwa [show own id ([] : List (Move Outcome)) = [] from rfl, List.append_nil] at further

theorem invoke (recounted : Recounted invoked read moves ⟨engine, none⟩) (operation : OperationId)
    (input : String) (service : Service) (linked cancelled : Bool) :
    Recounted (invoked ++ [operation]) read moves
      ⟨(engine.spawn (Engine.invocation operation input service linked cancelled)).2, none⟩ := by
  have woken := (Engine.Touches.refl { engine with
    tasks := engine.tasks.set engine.nextTask
      (Engine.invocation operation input service linked cancelled),
    nextTask := engine.nextTask + 1 }).wake engine.nextTask
  have length : engine.nextTask = invoked.length := recounted.length
  refine ⟨?_, woken.sink.ready.trans recounted.ready, fun move member => ?_,
    fun id other known => ?_, fun other => ?_, fun memory stored => ?_⟩
  · rw [List.length_append, ← length]
    exact engine.nextTask_spawn _
  · refine (recounted.known move member).imp_left fun within => ?_
    rw [List.length_append]
    exact Nat.lt_succ_of_lt within
  · rcases Nat.lt_or_ge id invoked.length with within | beyond
    · rw [List.getElem?_append_left within] at known
      exact recounted.recalled_change (.spawn _) known
    · -- The moves of the new task so far are attempts to end one that was not there.
      rw [List.getElem?_append_right beyond, List.getElem?_singleton] at known
      split at known
      next last =>
        cases known
        obtain rfl : id = engine.nextTask := by
          rw [length]
          exact Nat.le_antisymm (Nat.le_of_sub_eq_zero last) beyond
        refine ⟨service, own engine.nextTask moves, [], (List.append_nil _).symm, ?_,
          .stands .refl (.spawn engine (Engine.invocation operation input service linked cancelled)
            rfl rfl)⟩
        intro move member
        obtain ⟨made, mine⟩ := List.mem_filter.mp member
        refine (recounted.known move made).resolve_left fun within => ?_
        rw [of_decide_eq_true mine, length] at within
        exact Nat.lt_irrefl _ within
      next => cases known
  · refine Eq.trans ?_ (recounted.books other)
    rw [show (engine.spawn _).2.stateOf other = engine.stateOf other from woken.states other]
  · exact recounted.kept memory (woken.sink.store.symm.trans stored)

theorem collect (recounted : Recounted invoked read moves ⟨engine, none⟩) :
    Recounted invoked (read ++ engine.collect.1.2) moves ⟨engine.collect.2, none⟩ where
  length := recounted.length
  ready := by
    refine Eq.trans ?_ recounted.ready
    show engine.sink.drain.2.ready = engine.sink.ready
    unfold Sink.drain
    split <;> rfl
  known := recounted.known
  recalled _ _ := recounted.recalled_change .collect
  books := recounted.books
  kept memory stored complete := by
    obtain ⟨earlier, held, whole, drained, none⟩ := Sink.kept_of_drain stored complete
    rw [none, List.append_nil, recounted.kept earlier held whole, drained]
    rfl

theorem change (recounted : Recounted invoked read moves ⟨engine, none⟩)
    {change : Change Outcome} (plain : change.Plain) :
    Recounted invoked read moves ⟨change.apply engine, none⟩ := by
  have preserves : engine.Preserves (change.apply engine) := by
    rcases change.preserves engine with ⟨task, rfl⟩ | rfl | preserves
    · exact plain.elim
    · exact plain.elim
    · exact preserves
  refine ⟨(Chronicle.unspawned plain).trans recounted.length,
    preserves.sink.ready.trans recounted.ready, recounted.known,
    fun _ _ => recounted.recalled_change change, fun operation => ?_, fun memory stored => ?_⟩
  · rw [preserves.metrics]
    exact recounted.books operation
  · exact recounted.kept memory (preserves.sink.store.symm.trans stored)

/-- The move of a step is one of a task that was invoked, or an attempt to end a task. -/
theorem known_step (chronicle : Chronicle invoked read moves middle)
    (recounted : Recounted invoked read moves middle) (step : Step middle more stage) :
    ∀ move ∈ more, move.id < invoked.length ∨ move.deed = .aborted := by
  rcases middle with ⟨engine, _ | active⟩
  · cases step with
    | change => exact none_mem_nil
    | abort => exact List.forall_mem_singleton.mpr (.inr rfl)
    | resume => exact none_mem_nil
  · obtain ⟨-, mine, -⟩ := step.isolates
    obtain ⟨holding, present⟩ := chronicle.course.attended.present active rfl
    intro move member
    refine .inl (Nat.lt_of_not_ge fun beyond => ?_)
    rw [mine move member, ← recounted.length] at beyond
    have absent := (chronicle.course.attended.fresh active.id beyond).1
    cases absent.symm.trans present

theorem step (chronicle : Chronicle invoked read moves middle)
    (recounted : Recounted invoked read moves middle) (step : Step middle more stage)
    (moved : more = [] → stage.engine = middle.engine) :
    Recounted invoked read (moves ++ more) stage := by
  have known := recounted.known_step chronicle step
  have recalled (id : TaskId) (operation : OperationId) (invoked : invoked[id]? = some operation) :
      Recalled operation id (own id (moves ++ more)) stage := by
    rw [own_append]
    refine (recounted.recalled id operation invoked).step ?_ step
    rw [recounted.length]
    exact (List.getElem?_eq_some_iff.mp invoked).1
  have length := (step.nextTask_of_moved moved).trans recounted.length
  rcases step.booked recounted.ready moved with ⟨rfl, same⟩ | ⟨move, rfl, before, after, booked⟩
  · rw [List.append_nil] at recalled ⊢
    exact ⟨length, same ▸ recounted.ready, recounted.known, recalled, same ▸ recounted.books,
      same ▸ recounted.kept⟩
  · refine ⟨length, ?_, List.forall_mem_append.mpr ⟨recounted.known, known⟩, recalled,
      fun operation => ?_, fun memory stored complete => ?_⟩
    · rw [← after, booked.ready, before]
      exact recounted.ready
    · have entered := booked.books operation (occurrences moves)
      rw [after, before, recounted.books operation] at entered
      rw [occurrences_append, List.map_append, List.sum_append, entered, List.map_singleton,
        List.sum_singleton]
    · have store := booked.store
      rw [after, before, stored] at store
      rw [occurrences_append]
      cases sent : move.occurrence? with
      | none =>
        rw [sent] at store
        rw [Option.toList_none, List.append_nil]
        exact recounted.kept memory store.symm complete
      | some occurrence =>
        rw [sent] at store
        obtain ⟨earlier, held, whole, events⟩ := Sink.kept_of_record store.symm complete
        rw [recounted.kept earlier held whole, events, List.append_assoc]
        rfl

end Recounted

theorem Chronicle.recounted (chronicle : Chronicle invoked read moves stage) :
    Recounted invoked read moves stage := by
  induction chronicle with
  | start engine store empty => exact .start engine empty
  | invoke _ operation input service linked cancelled inductionHypothesis =>
    exact inductionHypothesis.invoke operation input service linked cancelled
  | collect _ inductionHypothesis => exact inductionHypothesis.collect
  | change _ change plain inductionHypothesis => exact inductionHypothesis.change plain
  | step chronicle step moved inductionHypothesis =>
    exact inductionHypothesis.step chronicle step moved

/-- An invocation that has returned leaves the books of its operation as they were, but for a retry
that was told of and not made, and there is one such retry at most. -/
theorem Recalled.settled {operation : OperationId} {id : TaskId} {mine : List (Move Outcome)}
    (recalled : Recalled operation id mine stage) (returned : Returned mine) :
    (mine.map (entry operation)).sum = -broken (history mine) ∧
      (∀ other, operation ≠ other → (mine.map (entry other)).sum = 0) ∧
        (history mine).countP Exchange.breaksPause ≤ 1 := by
  obtain ⟨service, before, later, rfl, forgotten, follows⟩ := recalled
  obtain ⟨looks, rest, point, rfl, thread, endings⟩ := follows.parts
  obtain ⟨outcome, ends⟩ : ∃ outcome, point.plan = .done outcome := by
    obtain ⟨move, member, outcome, finished⟩ := returned
    rcases List.mem_append.mp member with earlier | later
    · unfold result? at finished
      rw [forgotten move earlier] at finished
      cases finished
    · exact ⟨outcome, thread.ends_of_finished endings later finished⟩
  have leads : (service.plan operation).Leads (history looks) point.plan := thread.leads
  have told : history (before ++ (looks ++ rest)) = history looks := by
    have silent := history_of_aborted forgotten
    unfold history at silent ⊢
    rw [List.filterMap_append, silent, List.nil_append]
    exact history_of_endings endings looks
  have unasked : ∀ move ∈ rest, move.asked? = none := by
    intro move last
    cases endings move last with
    | crashed => cases ends
    | finished => exact asked?_eq_none (.inr ⟨_, rfl⟩)
    | aborted => exact asked?_eq_none (.inl rfl)
  have entries (other : OperationId) : ((before ++ (looks ++ rest)).map (entry other)).sum =
      (looks.map (entry other)).sum := by
    rw [List.map_append, List.map_append, List.sum_append, List.sum_append,
      sum_of_unasked (fun move earlier => asked?_eq_none (.inl (forgotten move earlier))),
      sum_of_unasked unasked, zero_add, add_zero]
  refine ⟨?_, fun other differs => ?_, ?_⟩
  · have stays : balance.Stays 0 (service.plan operation) :=
      Invocation.service_balanced service operation
    have balanced := (stays.leads leads).2
    have answered : point.pending = 0 := by
      unfold Point.pending
      rw [ends]
    rw [ends] at balanced
    rw [entries, told, thread.entries (Point.pending_of_unbegun rfl), answered, sub_zero,
      show balance.after 0 (history looks) = 0 from balanced, zero_sub]
  · rw [entries]
    exact thread.entries_of_others differs
  · rw [told]
    exact breaks_le_one ((Invocation.service_parting service operation).leads leads).1

/-- The invocations of an operation whose callers gave up in a pause between two attempts. -/
def brokenOff (invoked : List OperationId) (moves : List (Move Outcome))
    (operation : OperationId) : Finset TaskId :=
  (Finset.range invoked.length).filter fun id =>
    invoked[id]? = some operation ∧ (history (own id moves)).any Exchange.breaksPause

theorem broken_eq {history : List Exchange} (once : history.countP Exchange.breaksPause ≤ 1) :
    broken history =
      Pi.single .retries (if history.any Exchange.breaksPause then 1 else 0 : Int) := by
  unfold broken
  refine congrArg (Pi.single Counter.retries) ?_
  by_cases some : history.any Exchange.breaksPause = true
  · have positive := List.countP_pos_iff.mpr (List.any_eq_true.mp some)
    rw [if_pos some, Nat.le_antisymm once positive]
    rfl
  · rw [if_neg some, List.countP_eq_zero.mpr fun exchange member breaks =>
      some (List.any_eq_true.mpr ⟨exchange, member, breaks⟩)]
    rfl

/-- When all invocations have returned, the books of an operation show only the retries that were
told of and not made. -/
theorem Chronicle.settled (chronicle : Chronicle invoked read moves stage)
    (returned : ∀ id < invoked.length, Returned (own id moves)) (operation : OperationId) :
    (moves.map (entry operation)).sum =
      -Pi.single .retries ((brokenOff invoked moves operation).card : Int) := by
  have recounted := chronicle.recounted
  have each (id : TaskId) (within : id < invoked.length) :
      ((own id moves).map (entry operation)).sum = -Pi.single .retries
        (if invoked[id]? = some operation ∧ (history (own id moves)).any Exchange.breaksPause then 1
          else 0 : Int) := by
    obtain ⟨asked, found⟩ : ∃ asked, invoked[id]? = some asked :=
      ⟨_, List.getElem?_eq_getElem within⟩
    obtain ⟨own, others, once⟩ := (recounted.recalled id asked found).settled (returned id within)
    by_cases same : asked = operation
    · subst same
      simp only [found, true_and]
      rw [own, broken_eq once]
    · have other : ¬(invoked[id]? = some operation ∧
          (history (Move.own id moves)).any Exchange.breaksPause) :=
        fun so => same (Option.some.inj (found.symm.trans so.1))
      rw [others operation same, if_neg other, Pi.single_zero, neg_zero]
  have known : ∀ move ∈ moves, move.id < invoked.length ∨ move.entry operation = 0 :=
    fun move member => (recounted.known move member).imp_right fun aborted =>
      entry_of_unasked (asked?_eq_none (.inl aborted)) operation
  rw [sum_entries operation invoked.length known, Finset.sum_congr rfl fun id member =>
    each id (Finset.mem_range.mp member), Finset.sum_neg_distrib]
  refine congrArg Neg.neg ?_
  rw [brokenOff, Finset.natCast_card_filter]
  exact (map_sum (AddMonoidHom.single (fun _ => Int) Counter.retries) _ _).symm

/-- Counters and events tell the same story: when all invocations have returned, each counter of an
operation is the number of events that go with it, the outcomes add up to the invocations, and of
the retries that events tell of only those were not made in whose pauses the callers gave up. A sink
that evicts nothing has all events that were not read from it. -/
theorem counters_match_events (chronicle : Chronicle invoked read moves stage)
    (returned : ∀ id < invoked.length, Returned (own id moves)) :
    (∀ memory, stage.engine.sink.store = .memory memory → memory.evicted = 0 →
      read ++ memory.events = occurrences moves) ∧
      ∀ operation : OperationId,
        let count := (stage.engine.stateOf operation).metrics.count
        let told (counter : Counter) := (occurrences moves).countP fun occurrence =>
          occurrence.operation = operation ∧ occurrence.event.counter? = some counter
        (∀ counter, counter ≠ .invocations → counter ≠ .retries →
          count counter = told counter) ∧
          count .successes + count .failures + count .cancellations = count .invocations ∧
            count .retries + (brokenOff invoked moves operation).card = told .retries := by
  have recounted := chronicle.recounted
  refine ⟨fun memory stored complete => (recounted.kept memory stored complete).symm,
    fun operation => ?_⟩
  intro count told
  have books := recounted.books operation
  rw [chronicle.settled returned] at books
  have shown (counter : Counter) : ((count counter : Int) - if counter = .invocations then
      (count .successes + count .failures + count .cancellations : Int) else 0) - told counter =
        -(Pi.single .retries ((brokenOff invoked moves operation).card : Int) : Counter → Int)
          counter := congrFun books counter
  refine ⟨fun counter begun retried => ?_, ?_, ?_⟩
  · have here := shown counter
    rw [if_neg begun, Pi.single_eq_of_ne retried] at here
    omega
  · have untold : told .invocations = 0 := List.countP_eq_zero.mpr fun occurrence _ tells =>
      occurrence.event.counter?_ne_invocations (of_decide_eq_true tells).2
    have here := shown .invocations
    rw [if_pos rfl, Pi.single_eq_of_ne (by decide), untold] at here
    omega
  · have here := shown .retries
    rw [if_neg (by decide), Pi.single_eq_same] at here
    omega

namespace Engine

/-- A service whose caller gives up in the middle of a call that fails. -/
def forsaken : Service :=
  { respond := fun _ => ⟨[.cancelCaller], .error (.inner ⟨"Other", "no"⟩)⟩ }

def persistent : Engine Outcome :=
  knowing "pay" { retry := some { delay := .millis 100, jitter := .millis 0 } } {} {}

/-- An engine that knows the same operations and did nothing yet. -/
def fresh (engine : Engine Outcome) : Engine Outcome :=
  { engine with
    tasks := {}, nextTask := 0, operations := {},
    sink := { engine.sink with store := .memory {}, ready := true } }

/-- A retry that a caller gives up on is told of, but not counted. -/
theorem a_retry_is_broken_off :
    let moves := persistent.fresh.movesOf "pay" forsaken
    ∃ stage, Chronicle ["pay"] [] moves stage ∧ Returned (own 0 moves) ∧
      (stage.engine.stateOf "pay").metrics.count .retries = 0 ∧
        ((occurrences moves).countP fun occurrence =>
          occurrence.operation = "pay" ∧ occurrence.event.counter? = some .retries) = 1 := by
  intro moves
  have started : Chronicle [] [] [] ⟨persistent.fresh, none⟩ :=
    .start persistent (.memory {}) fun memory same => by cases same; rfl
  have chronicle : Chronicle ["pay"] [] moves _ := started.starting "pay" forsaken
  have ended : (own 0 moves).any (·.result?.isSome) = true := by decide +kernel
  have returned : ∀ id < ["pay"].length, Returned (own id moves) := by
    intro id within
    obtain rfl : id = 0 := Nat.lt_one_iff.mp within
    obtain ⟨move, member, finished⟩ := List.any_eq_true.mp ended
    exact ⟨move, member, Option.isSome_iff_exists.mp finished⟩
  obtain ⟨-, -, matched⟩ := (counters_match_events chronicle returned).2 "pay"
  have broken : (brokenOff ["pay"] moves "pay").card = 1 := by decide +kernel
  have told : ((occurrences moves).countP fun occurrence =>
      occurrence.operation = "pay" ∧ occurrence.event.counter? = some .retries) = 1 := by
    decide +kernel
  refine ⟨_, chronicle, returned 0 Nat.one_pos, ?_, told⟩
  rw [broken] at matched
  exact Nat.succ.inj (matched.trans told)

end Engine

end Resilience
