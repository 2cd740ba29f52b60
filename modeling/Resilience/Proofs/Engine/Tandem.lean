import Resilience.Proofs.Engine.Constancy
import Resilience.Proofs.Engine.Onward
import Resilience.Proofs.Engine.Sampling
import Resilience.Proofs.Engine.Turn

/-!
Tandems: two engines in which an invocation goes on, under policies that differ in their fallbacks
only. As long as it has no guarded outcome it does the same in both, move by move; from then on the
engines differ in nothing that another invocation can notice, but for a place that is still to be
given back.
-/

namespace Resilience

open Move Invocation

namespace Invocation

theorem closing_returns {plan : Plan Outcome} (closes : plan.Uses Request.Closing) :
    ∃ history outcome, plan.Returns history outcome := by
  induction plan with
  | done outcome => exact ⟨[], outcome, .refl _⟩
  | ask request next inductionHypothesis =>
    obtain ⟨closing, later⟩ := closes
    have answer : request.Answer := by
      cases request with
      | time => exact (0 : Nat)
      | log | emit | count | leaveBulkhead => exact ()
      | handle => exact (none : Option (Except Failure String))
      | _ => exact closing.elim
    obtain ⟨history, outcome, returns⟩ := inductionHypothesis answer (later answer)
    exact ⟨_, outcome, .ask returns⟩

theorem answering_unpermitted {service : Service} {operation : OperationId} {policy : Policy}
    {outcome : Outcome} {closing : Outcome → Plan Outcome} (seals : Seals closing)
    {history : List Exchange}
    (leads : (service.plan operation).Leads history (answering operation policy outcome closing)) :
    permits.after false history = false := by
  have closes := answering_closing operation policy outcome seals
  obtain ⟨rest, result, returns⟩ := closing_returns closes
  have ended := service_unpermitted (leads.trans returns)
  rw [Monitor.after_append] at ended
  have ignored := (permits_ignores (permits.after false history)).accepts fun exchange member =>
    (closes.mem returns exchange member).offBreaker
  exact ignored.2.symm.trans ended

end Invocation

namespace Move

variable {α : Type} {moves more : List (Move α)} {move twin : Move α}

/-- The calls that moves start, with the tasks that make them, the first one first. -/
def bodyCalls (moves : List (Move α)) : List (TaskId × Nat) :=
  moves.filterMap fun move => move.call?.map fun number => (move.id, number)

/-- The events that moves send to the sink, but those that tell of answers to invocations. -/
def guardEvents (moves : List (Move α)) : List OperationEvent :=
  (occurrences moves).filter fun occurrence => !occurrence.event.isClosing

theorem bodyCalls_append (moves more : List (Move α)) :
    bodyCalls (moves ++ more) = bodyCalls moves ++ bodyCalls more :=
  List.filterMap_append

theorem guardEvents_append (moves more : List (Move α)) :
    guardEvents (moves ++ more) = guardEvents moves ++ guardEvents more := by
  unfold guardEvents occurrences
  rw [List.filterMap_append, List.filter_append]

/-- Moves at the end of an invocation show neither a call nor an event before it. -/
theorem shows_nothing (closing : ∀ move ∈ moves, move.Closing) :
    bodyCalls moves = [] ∧ guardEvents moves = [] := by
  constructor
  · refine List.filterMap_eq_nil_iff.mpr fun move member => ?_
    rw [(closing move member).1]
    rfl
  · refine List.filter_eq_nil_iff.mpr fun occurrence member => ?_
    obtain ⟨move, made, told⟩ := List.mem_filterMap.mp member
    rw [(closing move made).2 occurrence told]
    exact Bool.false_ne_true

/-- Two moves show the same if they start the same call and send the same event. -/
theorem shows_alike (id : twin.id = move.id) (calls : twin.call? = move.call?)
    (events : twin.occurrence? = move.occurrence?) :
    bodyCalls [twin] = bodyCalls [move] ∧ guardEvents [twin] = guardEvents [move] := by
  unfold bodyCalls guardEvents occurrences
  simp only [List.filterMap_cons, List.filterMap_nil, id, calls, events]
  exact ⟨trivial, trivial⟩

/-- Whether two rows of moves return both or neither, unless a fallback handler is asked. -/
def Tied (moves moves' : List (Move Outcome)) : Prop :=
  (∃ move ∈ moves ++ moves', move.Consults) ∨ (Returned moves ↔ Returned moves')

section Tied

variable {moves moves' more more' : List (Move Outcome)}

theorem returned_append : Returned (moves ++ more) ↔ Returned moves ∨ Returned more := by
  unfold Returned
  simp only [List.mem_append, or_and_right, exists_or]

theorem Tied.append (tied : Tied moves moves') (later : Tied more more') :
    Tied (moves ++ more) (moves' ++ more') := by
  rcases tied with ⟨move, member, consults⟩ | both
  · refine .inl ⟨move, ?_, consults⟩
    rcases List.mem_append.mp member with here | there
    · exact List.mem_append_left _ (List.mem_append_left _ here)
    · exact List.mem_append_right _ (List.mem_append_left _ there)
  · rcases later with ⟨move, member, consults⟩ | bothLater
    · refine .inl ⟨move, ?_, consults⟩
      rcases List.mem_append.mp member with here | there
      · exact List.mem_append_left _ (List.mem_append_right _ here)
      · exact List.mem_append_right _ (List.mem_append_right _ there)
    · exact .inr (returned_append.trans ((or_congr both bothLater).trans returned_append.symm))

/-- Moves that return nothing leave two rows as they are. -/
theorem Tied.of_unfinished (unfinished : ∀ move ∈ moves, move.result? = none)
    (unfinished' : ∀ move ∈ moves', move.result? = none) : Tied moves moves' := by
  have never {moves : List (Move Outcome)} (unfinished : ∀ move ∈ moves, move.result? = none) :
      ¬Returned moves := by
    rintro ⟨move, member, result, returned⟩
    rw [unfinished move member] at returned
    cases returned
  exact .inr (iff_of_false (never unfinished) (never unfinished'))

/-- Either row asks a fallback handler or returns. -/
theorem Tied.of_ends (ends : (∃ move ∈ moves, move.Consults) ∨ Returned moves)
    (ends' : (∃ move ∈ moves', move.Consults) ∨ Returned moves') : Tied moves moves' := by
  rcases ends with ⟨move, member, consults⟩ | returned
  · exact .inl ⟨move, List.mem_append_left _ member, consults⟩
  · rcases ends' with ⟨move, member, consults⟩ | returned'
    · exact .inl ⟨move, List.mem_append_right _ member, consults⟩
    · exact .inr (iff_of_true returned returned')

end Tied

end Move

namespace Engine

/-- Whether two engines have policies that differ in their fallbacks only, and no handler of either
moves the clock. -/
structure Comparable (engine twin : Engine Outcome) : Prop where
  refitted : ∀ operation, Option.Rel Policy.Refitted (engine.registry.resolve? operation)
    (twin.registry.resolve? operation)
  aloof : engine.handlers.Aloof
  aloof' : twin.handlers.Aloof

theorem Comparable.congr {engine twin after after' : Engine Outcome}
    (comparable : engine.Comparable twin) (registry : after.registry = engine.registry)
    (registry' : after'.registry = twin.registry) (handlers : after.handlers = engine.handlers)
    (handlers' : after'.handlers = twin.handlers) : after.Comparable after' where
  refitted := by
    rw [registry, registry']
    exact comparable.refitted
  aloof := by
    rw [handlers]
    exact comparable.aloof
  aloof' := by
    rw [handlers']
    exact comparable.aloof'

/-- What looks up a policy changes nothing but the states of operations. -/
theorem resolve_operations (engine : Engine Outcome) (operation : OperationId) :
    ∃ operations, (engine.resolve operation).2 = { engine with operations } := by
  unfold Engine.resolve
  split
  · exact ⟨_, rfl⟩
  · exact ⟨engine.operations, rfl⟩

theorem Comparable.registered {engine twin : Engine Outcome} (comparable : engine.Comparable twin)
    (operation : OperationId) : (engine.registry.resolve? operation).isSome =
      (twin.registry.resolve? operation).isSome := by
  have related := comparable.refitted operation
  generalize engine.registry.resolve? operation = found,
    twin.registry.resolve? operation = found' at related
  cases related <;> rfl

/-- Whether two engines can be compared and their sink holds up no event that tells of an answer, so
that whatever their fallbacks do cannot be noticed. -/
structure Attuned (engine twin : Engine Outcome) : Prop extends engine.Comparable twin where
  prompt : engine.scene.Prompt

theorem Attuned.congr {engine twin after after' : Engine Outcome} (attuned : engine.Attuned twin)
    (comparable : after.Comparable after')
    (stallOn : after.sink.stallOn = engine.sink.stallOn) : after.Attuned after' where
  toComparable := comparable
  prompt operation event part closing held :=
    attuned.prompt operation event part closing (stallOn.symm.trans held)

theorem Attuned.answer {engine twin : Engine Outcome} (attuned : engine.Attuned twin)
    (id : TaskId) (task : Task Outcome) {request : Request} (guarding : request.Guarding)
    (wait wait' : Wait) :
    (engine.answer id task request wait).2.Attuned (twin.answer id task request wait').2 :=
  attuned.congr
    (attuned.toComparable.congr (answer_registry ..) (answer_registry ..)
      (answer_recalls engine id task guarding wait).handlers
      (answer_recalls twin id task guarding wait').handlers)
    (answer_stallOn ..)

theorem Attuned.resolve {engine twin : Engine Outcome} (attuned : engine.Attuned twin)
    (operation : OperationId) :
    (engine.resolve operation).2.Attuned (twin.resolve operation).2 := by
  obtain ⟨operations, same⟩ := resolve_operations engine operation
  obtain ⟨operations', same'⟩ := resolve_operations twin operation
  rw [same, same']
  exact attuned.congr (attuned.toComparable.congr rfl rfl rfl rfl) rfl

variable {operation : OperationId} {service : Service} {id : TaskId}
  {engine twin : Engine Outcome} {found found' : Option Policy} {past past' : List Exchange}
  {rest rest' : Plan Outcome} {wait wait' : Wait}

/-- How two engines stand while the same invocation has come equally far in both. -/
structure Tandem (operation : OperationId) (service : Service) (id : TaskId)
    (engine twin : Engine Outcome) (found found' : Option Policy) (past past' : List Exchange)
    (rest rest' : Plan Outcome) (wait : Wait) : Prop where
  scenes : engine.scene = twin.scene
  tasks : (engine.tasks.get? id).map Task.bare = (twin.tasks.get? id).map Task.bare
  invokes : ∃ task, engine.tasks.get? id = some task ∧ task.operation = operation ∧
    task.permit.isSome = permits.after false past
  paced : Paced (service.plan operation) found found' past past' rest rest'
  known : found.isSome = true → (engine.scene.states operation).isSome = true
  gate : engine.sink.gate.Vacant ∨
    ∃ request next, rest = .ask request next ∧ engine.sink.gate.Awaits id request wait

inductive Level (operation : OperationId) (found found' : Option Policy) :
    Plan Outcome → Wait → Plan Outcome → Wait → Prop
  | fresh {rest rest' : Plan Outcome} (parallel : Parallel operation found found' rest rest') :
      Level operation found found' rest .unbegun rest' .unbegun
  | waiting {request : Request} {next next' : request.Answer → Plan Outcome} {wait wait' : Wait}
      (guarding : request.Guarding)
      (after : ∀ answer, Parallel operation found found' (next answer) (next' answer))
      (waits : wait.bare = wait'.bare) :
      Level operation found found' (.ask request next) wait (.ask request next') wait'

theorem Level.parallel (level : Level operation found found' rest wait rest' wait') :
    Parallel operation found found' rest rest' := by
  cases level with
  | fresh parallel => exact parallel
  | waiting guarding after => exact .ask guarding after

/-- How two engines stand, while nobody goes on, in which the same invocation went on so far: it has
come equally far, or is over in both, or is at least past its guarded part. -/
inductive Footing (operation : OperationId) (service : Service) (id : TaskId)
    (engine twin : Engine Outcome) (past past' : List Exchange) : Prop
  | together {found found' : Option Policy} {rest rest' : Plan Outcome} {wait wait' : Wait}
      (tandem : Tandem operation service id engine twin found found' past past' rest rest' wait)
      (level : Level operation found found' rest wait rest' wait')
      (suspended : ∀ task, engine.tasks.get? id = some task →
        task.progress = .suspended rest wait)
      (suspended' : ∀ task, twin.tasks.get? id = some task →
        task.progress = .suspended rest' wait')
  | ended (scenes : engine.scene = twin.scene) (rests : engine.isRunning id = false)
      (rests' : twin.isRunning id = false) (vacant : engine.sink.gate.Vacant)
      (alongside : Alongside operation (service.plan operation) past past')
  | parted {scene : Scene} (ready : Ready operation scene)
      (concludes : engine.Concludes id operation scene)
      (concludes' : twin.Concludes id operation scene)
      (alongside : ∀ more more',
        Alongside operation (service.plan operation) (past ++ more) (past' ++ more'))

structure Reaches (operation : OperationId) (service : Service) (id : TaskId)
    (engine twin : Engine Outcome) (past past' : List Exchange)
    (moves moves' : List (Move Outcome)) : Prop where
  footing : Footing operation service id engine twin (past ++ history moves)
    (past' ++ history moves')
  calls : bodyCalls moves' = bodyCalls moves
  events : guardEvents moves' = guardEvents moves
  tied : Tied moves moves'

namespace Tandem

theorem view
    (tandem : Tandem operation service id engine twin found found' past past' rest rest' wait)
    (left : engine.stint.left = twin.stint.left) : engine.view id = twin.view id := by
  unfold Engine.view
  rw [tandem.scenes, tandem.tasks, left]

theorem present
    (tandem : Tandem operation service id engine twin found found' past past' rest rest' wait) :
    ∃ task task', engine.tasks.get? id = some task ∧ twin.tasks.get? id = some task' ∧
      task.bare = task'.bare ∧ task.operation = operation ∧
        task.permit.isSome = permits.after false past := by
  obtain ⟨task, here, same, permitted⟩ := tandem.invokes
  have tasks := tandem.tasks
  rw [here] at tasks
  obtain ⟨task', there, bare⟩ := Option.map_eq_some_iff.mp tasks.symm
  exact ⟨task, task', here, there, bare.symm, same, permitted⟩

theorem reserved
    (tandem : Tandem operation service id engine twin found found' past past' rest rest' wait) :
    engine.sink.gate.Reserved id := by
  rcases tandem.gate with vacant | ⟨request, next, -, awaits⟩
  · exact vacant.reserved id
  · exact awaits.reserved

end Tandem

theorem Tandem.vacant
    (tandem : Tandem operation service id engine twin found found' past past' rest rest' .unbegun) :
    engine.sink.gate.Vacant := by
  rcases tandem.gate with vacant | ⟨request, next, -, vacant | ⟨waits, -⟩⟩
  · exact vacant
  · exact vacant
  · cases waits

theorem suspend_bare (engine : Engine Outcome) (id : TaskId) (plan : Plan Outcome) (wait : Wait) :
    ((engine.suspend id plan wait).tasks.get? id).map Task.bare =
      (engine.tasks.get? id).map Task.bare := by
  unfold suspend
  rw [get?_modifyTask, if_pos rfl, Option.map_map]
  rfl

theorem suspend_progress {task : Task Outcome}
    (found : (engine.suspend id rest wait).tasks.get? id = some task) :
    task.progress = .suspended rest wait := by
  unfold suspend at found
  rw [get?_modifyTask, if_pos rfl] at found
  obtain ⟨earlier, -, rfl⟩ := Option.map_eq_some_iff.mp found
  rfl

/-- What looks alike resolves alike, if it knows a policy in both engines or in none. -/
theorem resolve_view (same : engine.view id = twin.view id) (operation : OperationId)
    (registered : (engine.registry.resolve? operation).isSome =
      (twin.registry.resolve? operation).isSome) :
    (engine.resolve operation).2.view id = (twin.resolve operation).2.view id := by
  unfold resolve
  cases here : engine.registry.resolve? operation with
  | none =>
    cases there : twin.registry.resolve? operation with
    | none => exact same
    | some => rw [here, there] at registered; cases registered
  | some =>
    cases there : twin.registry.resolve? operation with
    | none => rw [here, there] at registered; cases registered
    | some => exact view_setState_eq same operation (stateOf_eq same operation)

theorem resolve_known (engine : Engine Outcome) (operation : OperationId)
    (registered : (engine.registry.resolve? operation).isSome = true) :
    ((engine.resolve operation).2.scene.states operation).isSome = true := by
  unfold resolve
  cases found : engine.registry.resolve? operation with
  | none => rw [found] at registered; cases registered
  | some policy =>
    show ((engine.setState operation (engine.stateOf operation)).scene.states operation).isSome =
      true
    rw [scene_setState]
    unfold Scene.set
    simp

theorem release_scene (scenes : engine.scene = twin.scene) (task : Task Outcome) :
    (engine.release id task).scene = (twin.release id task).scene := by
  have gates : (engine.changeGate (·.leave id)).scene = (twin.changeGate (·.leave id)).scene := by
    rw [scene_changeGate, scene_changeGate, scenes]
  have drops {engine twin : Engine Outcome} (scenes : engine.scene = twin.scene) :
      (engine.dropPermit id task).scene = (twin.dropPermit id task).scene := by
    have states : (engine.stateOf task.operation).cleared =
        (twin.stateOf task.operation).cleared := by
      rw [stateOf_cleared, stateOf_cleared, scenes]
    unfold dropPermit
    split
    · exact scenes
    next permit _ =>
      simp only [scene_modifyTask, scene_setState, scenes, OperationState.breaker_eq states]
      exact congrArg (fun state : OperationState => twin.scene.set task.operation
        { state with breaker := (twin.stateOf task.operation).breaker.drop permit }) states
  unfold release
  rw [scene_leavePlace, scene_leavePlace, drops gates]

/-- What looks alike ends alike. -/
theorem finish_scene (scenes : engine.scene = twin.scene)
    (tasks : (engine.tasks.get? id).map Task.bare = (twin.tasks.get? id).map Task.bare)
    (result : Option Outcome) :
    (engine.finish id result).scene = (twin.finish id result).scene := by
  unfold finish
  cases here : engine.tasks.get? id with
  | none =>
    cases there : twin.tasks.get? id with
    | none => exact scenes
    | some => rw [here, there] at tasks; cases tasks
  | some task =>
    cases there : twin.tasks.get? id with
    | none => rw [here, there] at tasks; cases tasks
    | some task' =>
      rw [here, there] at tasks
      have bare : task.bare = task'.bare := Option.some.inj tasks
      show (engine.release id task.bare).scene = (twin.release id task'.bare).scene
      rw [← bare]
      exact release_scene scenes task.bare

/-- What is asked of engines that look alike starts the same call and sends the same event. -/
theorem asks_alike (same : engine.view id = twin.view id) {task task' : Task Outcome}
    (here : engine.tasks.get? id = some task) (there : twin.tasks.get? id = some task')
    (bare : task.bare = task'.bare) {request : Request} (waits : wait.bare = wait'.bare)
    {deed deed' : Deed Outcome} {after after' : Engine Outcome}
    (about : (∃ answer, deed = .answered ⟨request, answer⟩ wait) ∨ deed = .waited request wait ∨
      deed = .crashed request wait)
    (about' : (∃ answer, deed' = .answered ⟨request, answer⟩ wait') ∨
      deed' = .waited request wait' ∨ deed' = .crashed request wait') :
    bodyCalls [⟨id, twin, deed', after'⟩] = bodyCalls [⟨id, engine, deed, after⟩] ∧
      guardEvents [⟨id, twin, deed', after'⟩] = guardEvents [⟨id, engine, deed, after⟩] := by
  obtain ⟨delivery, calls⟩ := Wait.eq_of_bare waits
  have cancelled : task.cancelled = task'.cancelled :=
    show task.bare.cancelled = task'.bare.cancelled by rw [bare]
  have operations : task.operation = task'.operation :=
    show task.bare.operation = task'.bare.operation by rw [bare]
  refine shows_alike rfl ?_ ?_
  · rw [call?_of_found there about', call?_of_found here about]
    show twin.starts? task' request wait' = engine.starts? task request wait
    cases request with
    | attempt number limit heedsCaller =>
      rw [starts?_attempt, starts?_attempt, calls, isSpent_eq same, cancelled]
    | _ => rfl
  · unfold occurrence?
    rw [asked?_of_found there about', asked?_of_found here about, operations]
    have sends : request.sends? wait' = request.sends? wait := by
      cases request with
      | emit event =>
        by_cases arrived : wait = .delivery
        · rw [arrived, delivery.mp arrived]
        · have unarrived : wait' ≠ .delivery := fun same => arrived (delivery.mpr same)
          cases wait <;> cases wait' <;>
            first | rfl | exact absurd rfl arrived | exact absurd rfl unarrived
      | _ => rfl
    show (request.sends? wait').map _ = (request.sends? wait).map _
    rw [sends]

namespace Reaches

variable {moves moves' : List (Move Outcome)} {final final' : Engine Outcome}

theorem cons {move move' : Move Outcome} {request request' : Request} {answer : request.Answer}
    {answer' : request'.Answer}
    (exchanged : move.exchange? = some ⟨request, answer⟩)
    (exchanged' : move'.exchange? = some ⟨request', answer'⟩)
    (alike : bodyCalls [move'] = bodyCalls [move] ∧ guardEvents [move'] = guardEvents [move])
    (reaches : Reaches operation service id final final' (past ++ [⟨request, answer⟩])
      (past' ++ [⟨request', answer'⟩]) moves moves') :
    Reaches operation service id final final' past past' (move :: moves) (move' :: moves') := by
  have path (past : List Exchange) {move : Move Outcome} {exchange : Exchange}
      {moves : List (Move Outcome)} (exchanged : move.exchange? = some exchange) :
      past ++ history (move :: moves) = past ++ [exchange] ++ history moves := by
    unfold history
    rw [List.filterMap_cons_some exchanged, List.append_assoc, List.singleton_append]
  have unfinished {move : Move Outcome} {exchange : Exchange}
      (exchanged : move.exchange? = some exchange) :
      ∀ other ∈ [move], other.result? = none := by
    refine List.forall_mem_singleton.mpr ?_
    rcases move with ⟨id, before, deed, after⟩
    cases deed <;> first | rfl | cases exchanged
  refine ⟨?_, ?_, ?_, ?_⟩
  · rw [path past exchanged, path past' exchanged']
    exact reaches.footing
  · rw [← List.singleton_append, ← List.singleton_append (l := moves), bodyCalls_append,
      bodyCalls_append, alike.1, reaches.calls]
  · rw [← List.singleton_append, ← List.singleton_append (l := moves), guardEvents_append,
      guardEvents_append, alike.2, reaches.events]
  · exact (Tied.of_unfinished (unfinished exchanged) (unfinished exchanged')).append reaches.tied

theorem last {move move' : Move Outcome} (silent : move.exchange? = none)
    (silent' : move'.exchange? = none) (same : move'.result? = move.result?)
    (alike : bodyCalls [move'] = bodyCalls [move] ∧ guardEvents [move'] = guardEvents [move])
    (footing : Footing operation service id final final' past past') :
    Reaches operation service id final final' past past' [move] [move'] := by
  have tied : Returned [move] ↔ Returned [move'] := by
    unfold Returned
    simp only [List.mem_singleton, exists_eq_left, same]
  refine ⟨?_, alike.1, alike.2, .inr tied⟩
  unfold history
  rw [List.filterMap_cons_none silent, List.filterMap_cons_none silent', List.filterMap_nil,
    List.append_nil, List.append_nil]
  exact footing

end Reaches

/-- Whoever has its guarded outcome goes on to the end, or up to its fallback handler. -/
theorem Nears.answer {scene : Scene} (nears : engine.Nears id operation scene)
    (ready : Ready operation scene) (aloof : engine.handlers.Aloof) (policy : Policy)
    (outcome : Outcome) {closing : Outcome → Plan Outcome} (seals : Seals closing) :
    (engine.run id (answering operation policy outcome closing) .unbegun).Concludes id operation
        scene ∧
      (∀ move ∈ engine.moves id (answering operation policy outcome closing) .unbegun,
        move.Closing) ∧
        ((∃ move ∈ engine.moves id (answering operation policy outcome closing) .unbegun,
            move.Consults) ∨
          Returned (engine.moves id (answering operation policy outcome closing) .unbegun)) := by
  rcases answering_cases operation policy outcome seals with
    settles | ⟨name, fault, next, asks, settles⟩
  · obtain ⟨concludes, closes, returned⟩ := nears.run ready settles
    exact ⟨concludes, closes, .inr returned⟩
  · have waits : Wait.unbegun.Aloof := trivial
    rw [asks]
    obtain ⟨concludes, closes, consults⟩ := nears.run_handle ready aloof settles waits
    exact ⟨concludes, closes, .inl consults⟩

/-- What two invocations that have come equally far are told of next. -/
def Goes (operation : OperationId) (service : Service) (id : TaskId)
    (found found' : Option Policy) (past past' : List Exchange) (rest rest' : Plan Outcome) :
    Prop :=
  ∀ engine twin : Engine Outcome,
    Tandem operation service id engine twin found found' past past' rest rest' .unbegun →
      engine.stint.left = twin.stint.left → engine.Attuned twin →
        Reaches operation service id (engine.run id rest .unbegun) (twin.run id rest' .unbegun) past
          past' (engine.moves id rest .unbegun) (twin.moves id rest' .unbegun)

namespace Tandem

theorem ended
    (tandem : Tandem operation service id engine twin found found' past past' rest rest' wait)
    (parallel : Parallel operation found found' rest rest') {after after' : Engine Outcome}
    (same : after.view id = after'.view id) {task : Task Outcome}
    (here : after.tasks.get? id = some task) (reserved : after.sink.gate.Reserved id)
    (result : Option Outcome) :
    Footing operation service id (after.finish id result) (after'.finish id result) past past' :=
  .ended (finish_scene (congrArg View.scene same) (congrArg View.task same) result)
    (isRunning_finish after id result)
    (isRunning_finish after' id result) (finish_vacant here reserved result)
    (.level tandem.paced parallel)

theorem done {outcome : Outcome}
    (tandem : Tandem operation service id engine twin none none past past' (.done outcome)
      (.done outcome) .unbegun) (left : engine.stint.left = twin.stint.left) :
    Reaches operation service id (engine.run id (.done outcome) .unbegun)
      (twin.run id (.done outcome) .unbegun) past past' (engine.moves id (.done outcome) .unbegun)
      (twin.moves id (.done outcome) .unbegun) := by
  obtain ⟨task, -, here, -⟩ := tandem.present
  have idle (engine after : Engine Outcome) :
      Closing ⟨id, engine, .finished outcome, after⟩ := .of_idle (.inr ⟨outcome, rfl⟩)
  have nothing (engine after : Engine Outcome) :=
    shows_nothing (List.forall_mem_singleton.mpr (idle engine after))
  refine .last rfl rfl rfl ?_
    (tandem.ended (.done outcome) (tandem.view left) here tandem.reserved _)
  exact ⟨(nothing _ _).1.trans (nothing _ _).1.symm, (nothing _ _).2.trans (nothing _ _).2.symm⟩

theorem resolve {next next' : Option Policy → Plan Outcome}
    (tandem : Tandem operation service id engine twin none none past past' (.ask .resolve next)
      (.ask .resolve next') .unbegun) (left : engine.stint.left = twin.stint.left)
    (attuned : engine.Attuned twin)
    (goes : ∀ found found', Option.Rel Policy.Refitted found found' →
      Goes operation service id found found' (past ++ [⟨.resolve, found⟩])
        (past' ++ [⟨.resolve, found'⟩]) (next found) (next' found')) :
    Reaches operation service id (engine.run id (.ask .resolve next) .unbegun)
      (twin.run id (.ask .resolve next') .unbegun) past past'
      (engine.moves id (.ask .resolve next) .unbegun)
      (twin.moves id (.ask .resolve next') .unbegun) := by
  obtain ⟨task, task', here, there, bare, rfl, permitted⟩ := tandem.present
  have operations : task'.operation = task.operation :=
    show task'.bare.operation = task.bare.operation by rw [bare]
  have answered (engine : Engine Outcome) (task : Task Outcome) :
      engine.answer id task .resolve .unbegun =
        (.now (engine.registry.resolve? task.operation), (engine.resolve task.operation).2) := by
    rw [← resolve_fst]
    rfl
  obtain ⟨states, resolved⟩ := resolve_operations engine task.operation
  obtain ⟨states', resolved'⟩ := resolve_operations twin task.operation
  have looks := resolve_view (tandem.view left) task.operation
    (attuned.registered task.operation)
  unfold Engine.run moves
  simp only [here, there, answered, operations]
  refine .cons rfl rfl ?_ (goes _ _ (attuned.refitted task.operation) _ _ ?_ ?_
    (attuned.resolve task.operation))
  · exact asks_alike (tandem.view left) here there bare rfl (.inl ⟨_, rfl⟩) (.inl ⟨_, rfl⟩)
  · refine ⟨congrArg View.scene looks, congrArg View.task looks, ?_, tandem.paced.resolve _ _, ?_,
      .inl ?_⟩
    · refine ⟨task, resolved ▸ here, rfl, permitted.trans ?_⟩
      rw [Monitor.after_append]
      rfl
    · exact resolve_known engine task.operation
    · rw [resolved]
      exact tandem.vacant
  · rw [resolved, resolved']
    exact left

section Ask

variable {request : Request} {next next' : request.Answer → Plan Outcome}
  {task : Task Outcome} {final final' : Engine Outcome}

theorem awaits (tandem : Tandem operation service id engine twin found found' past past'
      (.ask request next) (.ask request next') wait) :
    engine.sink.gate.Awaits id request wait := by
  rcases tandem.gate with vacant | ⟨request, next, asks, awaits⟩
  · exact .inl vacant
  · cases asks
    exact awaits

theorem stays_known (tandem : Tandem operation service id engine twin found found' past past'
      (.ask request next) (.ask request next') wait) (guarding : request.Guarding)
    {reply : Reply request.Answer}
    (replies : engine.answer id task request wait = (reply, final))
    (registered : found.isSome = true) : (final.scene.states operation).isSome = true := by
  have recalls := answer_recalls engine id task guarding wait
  rw [replies] at recalls
  have earlier := tandem.known registered
  unfold scene at earlier ⊢
  rw [Option.isSome_map] at earlier ⊢
  exact recalls.known operation earlier

/-- What both are answered before the fallback leaves them equally far. -/
theorem answered {answer : request.Answer}
    (tandem : Tandem operation service id engine twin found found' past past' (.ask request next)
      (.ask request next') wait) (guarding : request.Guarding)
    (here : engine.tasks.get? id = some task)
    (replies : engine.answer id task request wait = (.now answer, final))
    (looks : final.view id = final'.view id) :
    Tandem operation service id final final' found found' (past ++ [⟨request, answer⟩])
      (past' ++ [⟨request, answer⟩]) (next answer) (next' answer) .unbegun := by
  obtain ⟨other, present, rfl, permitted⟩ := tandem.invokes
  cases here.symm.trans present
  have further := tandem.paced.ask guarding answer
  have allowed : permits.allows task.permit.isSome request := by
    rw [permitted]
    exact (service_permits further.leads).last
  obtain ⟨given, core, isSome, -⟩ := Engine.answered here allowed replies
  obtain ⟨later, found, parts⟩ := Option.map_eq_some_iff.mp core
  have leaves := answer_awaits engine id task guarding tandem.awaits
  rw [replies] at leaves
  refine ⟨congrArg View.scene looks, congrArg View.task looks, ⟨later, found, ?_, ?_⟩, further,
    tandem.stays_known guarding replies, .inl ?_⟩
  · exact congrArg (fun core => core.1) parts
  · rw [Monitor.after_append, ← permitted]
    exact (congrArg (fun core => core.2.1.isSome) parts).trans isSome
  · rcases leaves with vacant | ⟨_, never, _⟩
    · exact vacant
    · cases never

theorem waited {later later' : Wait}
    (tandem : Tandem operation service id engine twin found found' past past' (.ask request next)
      (.ask request next') wait) (guarding : request.Guarding)
    (here : engine.tasks.get? id = some task)
    (replies : engine.answer id task request wait = (.later later, final))
    (looks : final.view id = final'.view id) :
    Tandem operation service id (final.suspend id (.ask request next) later)
      (final'.suspend id (.ask request next') later') found found' past past' (.ask request next)
      (.ask request next') later := by
  obtain ⟨other, present, rfl, permitted⟩ := tandem.invokes
  cases here.symm.trans present
  obtain ⟨permit, core, kept⟩ := answer_core here request wait
  rw [replies] at core
  obtain ⟨stays, found, parts⟩ := Option.map_eq_some_iff.mp
    (core?_suspend core (.ask request next) later)
  have leaves := answer_awaits engine id task guarding tandem.awaits
  rw [replies] at leaves
  have known := tandem.stays_known guarding replies
  refine ⟨congrArg View.scene looks, ?_, ⟨stays, found, ?_, ?_⟩, tandem.paced, known, ?_⟩
  · rw [suspend_bare, suspend_bare]
    exact congrArg View.task looks
  · exact congrArg (fun core => core.1) parts
  · rw [← permitted, ← kept (offBreaker_of_unanswered replies nofun)]
    exact congrArg (fun core => core.2.1.isSome) parts
  · rcases leaves with vacant | ⟨_, same, awaits⟩
    · exact .inl vacant
    · cases same
      exact .inr ⟨request, next, rfl, awaits⟩

/-- What is asked before the fallback is answered the same, and the invocations stand together, or
end together, or go on together. -/
theorem ask (tandem : Tandem operation service id engine twin found found' past past'
      (.ask request next) (.ask request next') wait) (left : engine.stint.left = twin.stint.left)
    (attuned : engine.Attuned twin) (guarding : request.Guarding)
    (after : ∀ answer, Parallel operation found found' (next answer) (next' answer))
    (waits : wait.bare = wait'.bare)
    (goes : ∀ answer, Goes operation service id found found' (past ++ [⟨request, answer⟩])
      (past' ++ [⟨request, answer⟩]) (next answer) (next' answer)) :
    Reaches operation service id (engine.run id (.ask request next) wait)
      (twin.run id (.ask request next') wait') past past'
      (engine.moves id (.ask request next) wait) (twin.moves id (.ask request next') wait') := by
  obtain ⟨task, task', here, there, bare, -⟩ := tandem.present
  have same := tandem.view left
  have shows := answer_shown same task guarding waits
  have compares := attuned.answer id task guarding wait wait'
  obtain ⟨permit, core, -⟩ := answer_core here request wait
  have leaves := answer_awaits engine id task guarding tandem.awaits
  unfold Engine.run moves
  simp only [here, there]
  rw [← answer_bare twin id task' request wait', ← bare, answer_bare]
  generalize replies : engine.answer id task request wait = replied
    at shows compares core leaves ⊢
  generalize twin.answer id task request wait' = replied' at shows compares ⊢
  rcases replied with ⟨reply, final⟩
  rcases replied' with ⟨reply', final'⟩
  obtain ⟨bares, looks⟩ := Prod.ext_iff.mp shows
  simp only [shown] at bares looks
  cases reply with
  | now answer =>
    cases reply' with
    | later | crash => cases bares
    | now answer' =>
    cases bares
    exact .cons rfl rfl
      (asks_alike same here there bare waits (.inl ⟨answer, rfl⟩) (.inl ⟨answer, rfl⟩))
      (goes answer final final' (tandem.answered guarding here replies looks)
        (congrArg View.left looks) compares)
  | later later =>
    cases reply' with
    | now | crash => cases bares
    | later later' =>
    exact .last rfl rfl rfl
      (asks_alike same here there bare waits (.inr (.inl rfl)) (.inr (.inl rfl)))
      (.together (tandem.waited guarding here replies looks)
        (.waiting guarding after (Reply.later.inj bares)) (fun _ => suspend_progress)
        fun _ => suspend_progress)
  | crash =>
    cases reply' with
    | now | later => cases bares
    | crash =>
    obtain ⟨last, found, -⟩ := Option.map_eq_some_iff.mp core
    refine .last rfl rfl rfl
      (asks_alike same here there bare waits (.inr (.inr rfl)) (.inr (.inr rfl)))
      (tandem.ended (.ask guarding after) looks found ?_ none)
    rcases leaves with vacant | ⟨_, never, _⟩
    · exact vacant.reserved id
    · cases never

end Ask

section Part

variable {policy other : Policy} {outcome : Outcome} {closing : Outcome → Plan Outcome}

/-- Whoever has its guarded outcome has nothing to give back but a place. -/
theorem nears
    (tandem : Tandem operation service id engine twin (some policy) (some other) past past'
      (answering operation policy outcome closing) (answering operation other outcome closing)
      .unbegun) (attuned : engine.Attuned twin) (seals : Seals closing) :
    ∃ scene, Ready operation scene ∧ engine.Nears id operation scene ∧
      twin.Nears id operation scene := by
  obtain ⟨task, task', here, there, bare, rfl, permitted⟩ := tandem.present
  rw [answering_unpermitted seals tandem.paced.leads] at permitted
  have free : task.permit = none := by
    cases held : task.permit with
    | none => rfl
    | some permit =>
      rw [held] at permitted
      cases permitted
  have operations : task'.operation = task.operation :=
    show task'.bare.operation = task.bare.operation by rw [bare]
  have permits : task'.permit = task.permit :=
    show task'.bare.permit = task.bare.permit by rw [bare]
  have places : task'.place = task.place :=
    show task'.bare.place = task.bare.place by rw [bare]
  have held := holding?_of_found here
  have held' := holding?_of_found there
  refine ⟨engine.settled id, ?_, ⟨⟨_, held, rfl, free⟩, rfl⟩,
    ⟨⟨_, held', operations, permits.trans free⟩, ?_⟩⟩
  · rw [settled_of_holding held]
    refine ⟨?_, ?_, ?_⟩
    · rw [Scene.known_vacate]
      exact tandem.known rfl
    · exact fun operation event part closing stalls => attuned.prompt operation event part
        closing (Scene.stallOn_vacate.symm.trans stalls)
    · rw [Scene.gate_vacate]
      exact tandem.vacant
  · rw [settled_of_holding held, settled_of_holding held', ← tandem.scenes]
    show engine.scene.vacate task'.operation task'.place =
      engine.scene.vacate task.operation task.place
    rw [operations, places]

/-- Each invocation recovers the outcome that both have in its own way, and what it leaves is the
same. -/
theorem part
    (tandem : Tandem operation service id engine twin (some policy) (some other) past past'
      (answering operation policy outcome closing) (answering operation other outcome closing)
      .unbegun) (attuned : engine.Attuned twin) (refitted : policy.Refitted other)
    (seals : Seals closing) :
    Reaches operation service id
      (engine.run id (answering operation policy outcome closing) .unbegun)
      (twin.run id (answering operation other outcome closing) .unbegun) past past'
      (engine.moves id (answering operation policy outcome closing) .unbegun)
      (twin.moves id (answering operation other outcome closing) .unbegun) := by
  obtain ⟨scene, ready, nears, nears'⟩ := tandem.nears attuned seals
  obtain ⟨concludes, closes, ends⟩ :=
    nears.answer ready attuned.aloof policy outcome seals
  obtain ⟨concludes', closes', ends'⟩ :=
    nears'.answer ready attuned.aloof' other outcome seals
  have nothing := shows_nothing closes
  have nothing' := shows_nothing closes'
  refine ⟨.parted ready concludes concludes' fun more more' => ?_, nothing'.1.trans nothing.1.symm,
    nothing'.2.trans nothing.2.symm, .of_ends ends ends'⟩
  rw [List.append_assoc, List.append_assoc]
  exact .parted refitted seals tandem.paced _ _

end Part

end Tandem

/-- Two invocations whose plans are parallel go on together. -/
theorem parallel_goes (parallel : Parallel operation found found' rest rest')
    (past past' : List Exchange) :
    Goes operation service id found found' past past' rest rest' := by
  induction parallel generalizing past past' with
  | done outcome => exact fun engine twin tandem left _ => tandem.done left
  | ask guarding after inductionHypothesis =>
    exact fun engine twin tandem left attuned => tandem.ask left attuned guarding after rfl
      fun answer => inductionHypothesis answer _ _
  | resolve after inductionHypothesis =>
    exact fun engine twin tandem left attuned => tandem.resolve left attuned
      fun found found' related => inductionHypothesis found found' related _ _
  | part refitted seals outcome =>
    exact fun engine twin tandem _ attuned => tandem.part attuned refitted seals

/-- The end of an invocation goes on to its end, or up to its fallback handler. -/
theorem Concludes.poll {scene : Scene} (concludes : engine.Concludes id operation scene)
    (ready : Ready operation scene) (aloof : engine.handlers.Aloof) :
    (engine.poll id).Concludes id operation scene ∧ (∀ move ∈ engine.turn id, move.Closing) ∧
      ((∃ move ∈ engine.turn id, move.Consults) ∨ engine.turn id = []) := by
  cases concludes with
  | ended left rests =>
    obtain ⟨same, nothing⟩ := turn_of_ended rests
    rw [same, nothing]
    exact ⟨.ended left rests, fun _ none => absurd none List.not_mem_nil, .inr rfl⟩
  | @handling _ _ _ _ rest timer nears found suspended settles goesOn =>
    have waits : (Wait.handler rest timer).Aloof := goesOn
    obtain ⟨same, made⟩ := turn_of_suspended found suspended
    rw [same, made]
    obtain ⟨concludes, closes, consults⟩ := nears.run_handle ready aloof settles waits
    exact ⟨concludes, closes, .inl consults⟩

theorem Footing.poll (footing : Footing operation service id engine twin past past')
    (left : engine.stint.left = twin.stint.left) (attuned : engine.Attuned twin) :
    Reaches operation service id (engine.poll id) (twin.poll id) past past' (engine.turn id)
      (twin.turn id) := by
  cases footing with
  | together tandem level suspended suspended' =>
    obtain ⟨task, task', here, there, -⟩ := tandem.present
    obtain ⟨same, made⟩ := turn_of_suspended here (suspended task here)
    obtain ⟨same', made'⟩ := turn_of_suspended there (suspended' task' there)
    rw [same, same', made, made']
    cases level with
    | fresh parallel => exact parallel_goes parallel past past' engine twin tandem left attuned
    | waiting guarding after waits =>
      exact tandem.ask left attuned guarding after waits fun answer =>
        parallel_goes (after answer) _ _
  | ended scenes rests rests' vacant alongside =>
    obtain ⟨same, nothing⟩ := turn_of_ended rests
    obtain ⟨same', nothing'⟩ := turn_of_ended rests'
    rw [same, same', nothing, nothing']
    refine ⟨?_, rfl, rfl, .inr .rfl⟩
    rw [show history ([] : List (Move Outcome)) = [] from rfl, List.append_nil, List.append_nil]
    exact .ended scenes rests rests' vacant alongside
  | parted ready concludes concludes' alongside =>
    obtain ⟨concludes, closes, consults⟩ := concludes.poll ready attuned.aloof
    obtain ⟨concludes', closes', consults'⟩ := concludes'.poll ready attuned.aloof'
    have nothing := shows_nothing closes
    have nothing' := shows_nothing closes'
    have tied : Tied (engine.turn id) (twin.turn id) := by
      rcases consults with ⟨move, made, asks⟩ | still
      · exact .inl ⟨move, List.mem_append_left _ made, asks⟩
      · rcases consults' with ⟨move, made, asks⟩ | still'
        · exact .inl ⟨move, List.mem_append_right _ made, asks⟩
        · rw [still, still']
          exact .inr .rfl
    refine ⟨.parted ready concludes concludes' fun more more' => ?_,
      nothing'.1.trans nothing.1.symm, nothing'.2.trans nothing.2.symm, tied⟩
    rw [List.append_assoc, List.append_assoc]
    exact alongside _ _

end Engine

end Resilience
