import Mathlib.Algebra.BigOperators.Group.Finset.Piecewise
import Mathlib.Tactic.Abel
import Resilience.Proofs.Engine.Thread
import Resilience.Proofs.Invocation.Balance

/-!
The ledger: what the moves of tasks count and send, and what becomes of it. The counters of an
operation and the events that its sink has are changed by these moves and by nothing else.
-/

namespace Resilience

namespace Request

/-- The event that a request sends to the sink. One that the sink holds up is sent only once. -/
def sends? : Request → Wait → Option Event
  | .emit _, .delivery => none
  | .emit event, _ => some event
  | _, _ => none

def tally : Request → Metrics → Metrics
  | .count counter amount, metrics => metrics.add counter amount
  | _, metrics => metrics

def entry : Request → Wait → Counter → Int
  | .count counter amount, _ => counted counter amount
  | request, wait => -(request.sends? wait).elim 0 told

end Request

/-- How much more was counted of everything; of invocations, how much more than of outcomes. -/
def Metrics.books (metrics : Metrics) : Counter → Int := fun counter =>
  metrics.count counter - if counter = .invocations then
    (metrics.count .successes + metrics.count .failures + metrics.count .cancellations : Int) else 0

def tellings (operation : OperationId) (occurrences : List OperationEvent) : Counter → Int :=
  fun counter => (occurrences.countP fun occurrence =>
    occurrence.operation = operation ∧ occurrence.event.counter? = some counter : Nat)

theorem books_add (metrics : Metrics) (counter : Counter) (amount : Nat) :
    (metrics.add counter amount).books = metrics.books + counted counter amount := by
  funext other
  cases counter <;> cases other <;>
    simp [Metrics.books, counted, Counter.isOutcome] <;> omega

theorem tellings_append (operation : OperationId) (first second : List OperationEvent) :
    tellings operation (first ++ second) =
      tellings operation first + tellings operation second := by
  funext counter
  unfold tellings
  rw [List.countP_append]
  exact Nat.cast_add _ _

theorem tellings_singleton (operation : OperationId) (occurrence : OperationEvent) :
    tellings operation [occurrence] =
      if occurrence.operation = operation then told occurrence.event else 0 := by
  funext counter
  unfold tellings told
  split
  next same =>
    cases goes : occurrence.event.counter? with
    | none => simp [goes]
    | some other => simp [goes, same, Pi.single_apply, eq_comm]
  next differs => simp [differs]

theorem books_tally (request : Request) (wait : Wait) (metrics : Metrics) :
    (request.tally metrics).books - (request.sends? wait).elim 0 told =
      metrics.books + request.entry wait := by
  cases request with
  | count counter amount =>
    show (metrics.add counter amount).books - 0 = metrics.books + counted counter amount
    rw [books_add, sub_zero]
  | _ => exact sub_eq_add_neg _ _

namespace Engine

variable {α : Type} {engine before middle after : Engine α} {id : TaskId} {task : Task α}
  {operation : OperationId} {request : Request} {wait : Wait}

/-- Whether an engine changes its counters and its events just as a request of an operation says. -/
structure Enters (before after : Engine α) (operation : OperationId) (request : Request)
    (wait : Wait) : Prop where
  metrics : ∀ other, (after.stateOf other).metrics = if operation = other then
    request.tally (before.stateOf other).metrics else (before.stateOf other).metrics
  store : after.sink.store = ((request.sends? wait).elim before.sink fun event =>
    before.sink.record ⟨operation, event⟩).store
  ready : after.sink.ready = before.sink.ready

theorem Enters.preserves (enters : before.Enters middle operation request wait)
    (preserves : middle.Preserves after) : before.Enters after operation request wait where
  metrics other := (preserves.metrics other).trans (enters.metrics other)
  store := preserves.sink.store.trans enters.store
  ready := preserves.sink.ready.trans enters.ready

theorem Preserves.enters (preserves : before.Preserves after) (silent : request.Silent)
    (operation : OperationId) (wait : Wait) : before.Enters after operation request wait := by
  have nothing : request.sends? wait = none ∧ ∀ metrics, request.tally metrics = metrics := by
    cases request with
    | emit => exact silent.elim
    | count => exact silent.elim
    | _ => exact ⟨rfl, fun _ => rfl⟩
  refine ⟨fun other => ?_, ?_, preserves.sink.ready⟩
  · rw [nothing.2, ite_self]
    exact preserves.metrics other
  · rw [nothing.1]
    exact preserves.sink.store

theorem record_ready (sink : Sink) (occurrence : OperationEvent) :
    (sink.record occurrence).ready = sink.ready := by
  unfold Sink.record
  split <;> rfl

theorem answer_enters (ready : engine.sink.ready = true) (id : TaskId) (task : Task α)
    (request : Request) (wait : Wait) :
    engine.Enters (engine.answer id task request wait).2 task.operation request wait := by
  cases request with
  | count counter amount =>
    refine ⟨fun other => ?_, rfl, rfl⟩
    show ((engine.setState _ _).stateOf other).metrics = _
    rw [stateOf_setState]
    split
    next same => rw [← same]; rfl
    next => rfl
  | emit event =>
    show engine.Enters (engine.send id ⟨task.operation, event⟩ wait).2 task.operation _ wait
    unfold send
    split
    next =>
      have passes := (Preserves.refl engine).touches ((Touches.refl engine).passGate id)
      refine ⟨fun other => ?_, passes.sink.store, passes.sink.ready⟩
      exact (passes.metrics other).trans (ite_self _).symm
    next held =>
      have sends : Request.sends? (.emit event) wait = some event := by
        cases wait <;> first | rfl | exact absurd rfl held
      have recorded : engine.Enters ({ engine with
          sink := engine.sink.record ⟨task.operation, event⟩ }.write
            (engine.sink.recordLines ⟨task.operation, event⟩)) task.operation (.emit event)
          wait := by
        refine ⟨fun other => (ite_self _).symm, ?_, record_ready _ _⟩
        rw [sends]
        rfl
      rw [ready]
      simp only [Bool.not_true, Bool.false_eq_true, ↓reduceIte]
      split
      · exact recorded.preserves ((Preserves.refl _).touches ((Touches.refl _).passGate id))
      · exact recorded
  | _ =>
    refine (answer_preserves engine id task ?_ wait).enters ?_ task.operation wait
    · trivial
    · trivial

end Engine

namespace Move

variable {α : Type}

def asked? (move : Move α) : Option (OperationId × Request × Wait) :=
  (move.before.tasks.get? move.id).bind fun task =>
    match move.deed with
    | .answered ⟨request, _⟩ wait | .waited request wait | .crashed request wait =>
      some (task.operation, request, wait)
    | .finished _ | .aborted => none

def occurrence? (move : Move α) : Option OperationEvent :=
  move.asked?.bind fun (operation, request, wait) =>
    (request.sends? wait).map fun event => ⟨operation, event⟩

/-- The events that moves send to the sink, the first one first. -/
def occurrences (moves : List (Move α)) : List OperationEvent := moves.filterMap occurrence?

def entry (operation : OperationId) (move : Move α) : Counter → Int :=
  match move.asked? with
  | some (asking, request, wait) => if asking = operation then request.entry wait else 0
  | none => 0

/-- Whether a move changes the counters and the events of an engine just as it says. -/
structure Booked (move : Move α) : Prop where
  books : ∀ operation events,
    (move.after.stateOf operation).metrics.books -
        tellings operation (events ++ move.occurrence?.toList) =
      (move.before.stateOf operation).metrics.books - tellings operation events +
        move.entry operation
  store : move.after.sink.store =
    (move.occurrence?.elim move.before.sink move.before.sink.record).store
  ready : move.after.sink.ready = move.before.sink.ready

variable {move : Move α}

theorem asked?_of_found {task : Task α} {request : Request} {wait : Wait}
    (found : move.before.tasks.get? move.id = some task)
    (deed : (∃ answer, move.deed = .answered ⟨request, answer⟩ wait) ∨
      move.deed = .waited request wait ∨ move.deed = .crashed request wait) :
    move.asked? = some (task.operation, request, wait) := by
  unfold asked?
  rw [found]
  rcases deed with ⟨answer, same⟩ | same | same <;> rw [same] <;> rfl

theorem Booked.of_enters {operation : OperationId} {request : Request} {wait : Wait}
    (asked : move.asked? = some (operation, request, wait))
    (enters : move.before.Enters move.after operation request wait) : move.Booked := by
  have sent : move.occurrence? = (request.sends? wait).map fun event => ⟨operation, event⟩ := by
    unfold occurrence?
    rw [asked]
    rfl
  refine ⟨fun other events => ?_, ?_, enters.ready⟩
  · have telling : tellings other move.occurrence?.toList =
        if operation = other then (request.sends? wait).elim 0 told else 0 := by
      rw [sent]
      cases request.sends? wait with
      | none => exact (ite_self _).symm
      | some event => exact tellings_singleton other ⟨operation, event⟩
    have entered : move.entry other = if operation = other then request.entry wait else 0 := by
      unfold entry
      rw [asked]
    rw [enters.metrics, tellings_append, telling, entered]
    split
    next same =>
      rw [sub_add_eq_sub_sub_swap, books_tally]
      exact add_sub_right_comm _ _ _
    next => rw [add_zero, add_zero]
  · rw [enters.store, sent]
    cases request.sends? wait <;> rfl

theorem entry_of_unasked (unasked : move.asked? = none) (operation : OperationId) :
    move.entry operation = 0 := by
  unfold entry
  rw [unasked]

theorem Booked.of_preserves (unasked : move.asked? = none)
    (preserves : move.before.Preserves move.after) : move.Booked := by
  have unsent : move.occurrence? = none := by
    unfold occurrence?
    rw [unasked]
    rfl
  refine ⟨fun operation events => ?_, ?_, preserves.sink.ready⟩
  · rw [unsent, entry_of_unasked unasked, preserves.metrics, Option.toList_none, List.append_nil,
      add_zero]
  · rw [unsent]
    exact preserves.sink.store

theorem asked?_eq_none (idle : move.deed = .aborted ∨ ∃ result, move.deed = .finished result) :
    move.asked? = none := by
  unfold asked?
  rcases idle with same | ⟨result, same⟩ <;> rw [same] <;>
    cases move.before.tasks.get? move.id <;> rfl

theorem occurrences_append (moves : List (Move α)) (move : Move α) :
    occurrences (moves ++ [move]) = occurrences moves ++ move.occurrence?.toList := by
  unfold occurrences
  rw [List.filterMap_append]
  cases found : move.occurrence? <;> simp [found]

theorem sum_of_unasked {moves : List (Move α)} (unasked : ∀ move ∈ moves, move.asked? = none)
    (operation : OperationId) : (moves.map (entry operation)).sum = 0 := by
  refine List.sum_eq_zero (List.forall_mem_map.mpr fun move member => ?_)
  exact entry_of_unasked (unasked move member) operation

theorem sum_entries (operation : OperationId) (tasks : Nat) {moves : List (Move α)}
    (known : ∀ move ∈ moves, move.id < tasks ∨ move.entry operation = 0) :
    (moves.map (entry operation)).sum =
      ∑ id ∈ Finset.range tasks, ((own id moves).map (entry operation)).sum := by
  induction moves with
  | nil => exact (Finset.sum_const_zero).symm
  | cons move rest inductionHypothesis =>
    obtain ⟨here, later⟩ := List.forall_mem_cons.mp known
    have split (id : TaskId) : ((own id (move :: rest)).map (entry operation)).sum =
        (if move.id = id then move.entry operation else 0) +
          ((own id rest).map (entry operation)).sum := by
      unfold own
      rw [List.filter_cons]
      by_cases mine : move.id = id
      · simp [mine]
      · simp [mine]
    rw [List.map_cons, List.sum_cons, inductionHypothesis later, Finset.sum_congr rfl fun id _ =>
      split id, Finset.sum_add_distrib, Finset.sum_ite_eq]
    refine congrArg (· + _) ?_
    rcases here with within | nothing
    · rw [if_pos (Finset.mem_range.mpr within)]
    · rw [nothing, ite_self]

end Move

variable {α : Type}

theorem Step.booked {middle stage : Stage α} {more : List (Move α)}
    (step : Step middle more stage) (ready : middle.engine.sink.ready = true)
    (moves : more = [] → stage.engine = middle.engine) :
    more = [] ∧ stage.engine = middle.engine ∨ ∃ move, more = [move] ∧
      move.before = middle.engine ∧ move.after = stage.engine ∧ move.Booked := by
  cases step with
  | change => exact .inl ⟨rfl, moves rfl⟩
  | resume => exact .inl ⟨rfl, rfl⟩
  | vanish => exact .inl ⟨rfl, rfl⟩
  | abort engine id =>
    exact .inr ⟨_, rfl, rfl, rfl, .of_preserves (Move.asked?_eq_none (.inl rfl)) (.abort engine id)⟩
  | @finish engine id result _ =>
    exact .inr ⟨_, rfl, rfl, rfl, .of_preserves (Move.asked?_eq_none (.inr ⟨result, rfl⟩))
      (.finish engine id (some result))⟩
  | @answer engine after id task request _ wait _ found answers =>
    have enters := Engine.answer_enters ready id task request wait
    rw [answers] at enters
    exact .inr ⟨_, rfl, rfl, rfl, .of_enters (Move.asked?_of_found found (.inl ⟨_, rfl⟩)) enters⟩
  | @wait engine after id task request next wait later found waits =>
    have enters := Engine.answer_enters ready id task request wait
    rw [waits] at enters
    exact .inr ⟨_, rfl, rfl, rfl, .of_enters (Move.asked?_of_found found (.inr (.inl rfl)))
      (enters.preserves (.suspend after id _ later))⟩
  | @crash engine after id task request _ wait found crashes =>
    have enters := Engine.answer_enters ready id task request wait
    rw [crashes] at enters
    exact .inr ⟨_, rfl, rfl, rfl, .of_enters (Move.asked?_of_found found (.inr (.inr rfl)))
      (enters.preserves (.finish after id none))⟩

def Request.pending : Request → Wait → Counter → Int
  | .emit event, .delivery => told event
  | _, _ => 0

/-- An event is sent at the first look at its request, and pending from then on. -/
theorem pending_sub_entry (event : Event) (wait : Wait) :
    (Request.emit event).pending wait - (Request.emit event).entry wait = told event := by
  cases wait with
  | delivery => exact (congrArg (told event - ·) neg_zero).trans (sub_zero _)
  | _ => exact (sub_neg_eq_add _ _).trans (zero_add _)

/-- What an exchange adds to the books of an invocation is what its request adds, less what was sent
before, and a retry if it was not made. -/
theorem balance_next (books : Counter → Int) (exchange : Exchange) (wait : Wait) :
    balance.next books exchange =
      books - (exchange.request.pending wait - exchange.request.entry wait) +
        if exchange.breaksPause then Pi.single .retries 1 else 0 := by
  have silent : books = books - (0 - -(0 : Counter → Int)) + 0 := by
    rw [neg_zero, sub_zero, sub_zero, add_zero]
  rcases exchange with ⟨request, answer⟩
  cases request with
  | count counter amount =>
    show books + counted counter amount = books - (0 - counted counter amount) + 0
    rw [zero_sub, sub_neg_eq_add, add_zero]
  | emit event =>
    show books - told event = books - _ + 0
    rw [pending_sub_entry, add_zero]
  | pause delay =>
    cases answer with
    | true => exact silent
    | false =>
      show books + Pi.single .retries 1 = books - (0 - -(0 : Counter → Int)) + Pi.single .retries 1
      rw [neg_zero, sub_zero, sub_zero]
  | _ => exact silent

/-- A request that keeps waiting has sent what it adds to the books. -/
theorem pending_of_later {engine after : Engine α} {id : TaskId} {task : Task α}
    {request : Request} {wait later : Wait}
    (waits : engine.answer id task request wait = (.later later, after)) :
    request.pending later = request.pending wait - request.entry wait := by
  have silent : (0 : Counter → Int) = 0 - -0 := by rw [neg_zero, sub_zero]
  cases request with
  | count => cases waits
  | emit event =>
    have sends : (engine.send id ⟨task.operation, event⟩ wait).1 = .later later :=
      congrArg Prod.fst waits
    rcases Engine.send_cases engine id ⟨task.operation, event⟩ wait with passes | held
    · cases passes.symm.trans sends
    · cases held.symm.trans sends
      rw [pending_sub_entry]
      rfl
  | _ => exact silent

/-- What a task has sent to the sink ahead of the answer for which it waits. -/
def Point.pending (point : Point α) : Counter → Int :=
  match point.plan with
  | .ask request _ => request.pending point.wait
  | .done _ => 0

theorem Point.pending_of_unbegun {point : Point α} (unbegun : point.wait = .unbegun) :
    point.pending = 0 := by
  unfold pending
  rw [unbegun]
  split
  next request _ _ => cases request <;> rfl
  next => rfl

/-- The retries that were told of and not made, because the caller gave up in the pause before. -/
def broken (history : List Exchange) : Counter → Int :=
  Pi.single .retries (history.countP Exchange.breaksPause : Int)

theorem broken_append (history : List Exchange) (exchange : Exchange) :
    broken (history ++ [exchange]) =
      broken history + if exchange.breaksPause then Pi.single .retries 1 else 0 := by
  unfold broken
  rw [List.countP_append, List.countP_singleton]
  split
  next => rw [Nat.cast_add, Nat.cast_one, Pi.single_add]
  next => exact (add_zero _).symm

variable {actor : Actor} {first point : Point α} {mine : List (Move α)}

open Move

theorem entry_of_holds {engine after : Engine α} {task : Task α} {permit : Option Permit}
    {request : Request} {wait : Wait} {deed : Deed α} (holds : actor.Holds engine task permit)
    (about : (∃ answer, deed = .answered ⟨request, answer⟩ wait) ∨ deed = .waited request wait ∨
      deed = .crashed request wait) (operation : OperationId) :
    entry operation ⟨actor.id, engine, deed, after⟩ =
      if actor.operation = operation then request.entry wait else 0 := by
  have asked : (⟨actor.id, engine, deed, after⟩ : Move α).asked? =
    some (task.operation, request, wait) := asked?_of_found holds.found about
  unfold entry
  rw [asked, holds.operation]

/-- What a task adds to the books of its operation is what its exchanges add to those of its
invocation, but for retries that were not made, and what it has sent to the sink ahead of that. -/
theorem Thread.entries (thread : Thread actor first mine point) (begins : first.pending = 0) :
    (mine.map (entry actor.operation)).sum =
      balance.after 0 (history mine) - broken (history mine) - point.pending := by
  induction thread with
  | refl =>
    rw [begins, sub_zero]
    exact (sub_eq_zero_of_eq (Pi.single_zero _).symm).symm
  | @look earlier move _ _ _ look inductionHypothesis =>
    rw [List.map_append, List.sum_append, inductionHypothesis, List.map_singleton,
      List.sum_singleton]
    cases look with
    | @answered engine after task request next wait answer permit later holds =>
      have answers : Point.pending ⟨next answer, .unbegun, later⟩ = 0 :=
        Point.pending_of_unbegun rfl
      have told : history (earlier ++ [_]) = history earlier ++ [⟨request, answer⟩] :=
        history_append earlier ⟨actor.id, engine, .answered ⟨request, answer⟩ wait, after⟩
      rw [entry_of_holds holds (.inl ⟨_, rfl⟩), if_pos rfl, answers, told, Monitor.after_append,
        broken_append]
      show _ - _ - request.pending wait + _ = balance.next _ ⟨request, answer⟩ - _ - 0
      rw [balance_next _ _ wait]
      abel
    | @waited engine after task request next wait later permit holds waits =>
      rw [entry_of_holds holds (.inr (.inl rfl)), if_pos rfl, history_append_of_silent rfl]
      show _ - _ - request.pending wait + _ = _ - _ - request.pending later
      rw [pending_of_later waits]
      abel

/-- A task adds nothing to the books of other operations. -/
theorem Thread.entries_of_others (thread : Thread actor first mine point) {operation : OperationId}
    (other : actor.operation ≠ operation) : (mine.map (entry operation)).sum = 0 := by
  induction thread with
  | refl => rfl
  | look _ look inductionHypothesis =>
    rw [List.map_append, List.sum_append, inductionHypothesis, List.map_singleton,
      List.sum_singleton, zero_add]
    cases look with
    | answered holds =>
      rw [entry_of_holds holds (.inl ⟨_, rfl⟩), if_neg other]
    | waited holds =>
      rw [entry_of_holds holds (.inr (.inl rfl)), if_neg other]

end Resilience
