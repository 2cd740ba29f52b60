import Mathlib.Data.List.Forall2
import Resilience.Proofs.Engine.Tandem
import Resilience.Proofs.Engine.Unison

/-!
Transparency: retries that never retry change nothing but the fault that the caller and the fallback
are told of. Whatever happens in two engines in unison, they make the same calls, are answered the
same by bulkheads and breakers, ask the same fallbacks about faults of the same categories, and come
to the same state; and this holds of a task's next turn whatever its fallback handler makes of the
exhaustion of retries.
-/

namespace Resilience

open Move

namespace Move

variable {moves moves' : List (Move Outcome)} {β : Type}

/-- What is read off each move, and not off faint ones, compares in rows that shadow each other. -/
theorem Shadowed.reads {reads : Move Outcome → Option β} {relates : β → β → Prop}
    (shadowed : Shadowed moves moves')
    (alike : ∀ move twin : Move Outcome, move.Shadows twin →
      Option.Rel relates (reads move) (reads twin))
    (unheard : ∀ move : Move Outcome, move.Faint → reads move = none) :
    List.Forall₂ relates (moves.filterMap reads) (moves'.filterMap reads) := by
  induction shadowed with
  | nil => exact .nil
  | @cons move twin _ _ shadows _ inductionHypothesis =>
    have related := alike move twin shadows
    rw [List.filterMap_cons, List.filterMap_cons]
    generalize reads move = mine, reads twin = yours at related ⊢
    cases related with
    | none => exact inductionHypothesis
    | some same => exact .cons same inductionHypothesis
  | faint faint _ inductionHypothesis =>
    rw [List.filterMap_cons, unheard _ faint]
    exact inductionHypothesis

theorem Shadowed.reads_eq {reads : Move Outcome → Option β} (shadowed : Shadowed moves moves')
    (alike : ∀ move twin : Move Outcome, move.Shadows twin → reads twin = reads move)
    (unheard : ∀ move : Move Outcome, move.Faint → reads move = none) :
    moves'.filterMap reads = moves.filterMap reads := by
  have related : List.Forall₂ Eq (moves.filterMap reads) (moves'.filterMap reads) := by
    refine shadowed.reads (fun move twin shadows => ?_) unheard
    rw [alike move twin shadows]
    cases reads move with
    | none => exact .none
    | some value => exact .some rfl
  rw [List.forall₂_eq_eq_eq] at related
  exact related.symm

end Move

/-- Whether a request is one to the bulkhead, to the breaker or to the service. -/
def Request.isGuard : Request → Bool
  | .enterBulkhead _ | .awaitSlot | .bulkheadLoad | .acquirePermit _ | .recordSample ..
  | .dropPermit | .attempt .. => true
  | _ => false

/-- Whether a fallback handler is called in the shadow of another call: it is the same handler, for
the same input, because of the same fault or of the exhaustion of retries after it, which is of the
same category. -/
structure HandlerCall.Shadows (call twin : HandlerCall) : Prop where
  name : twin.name = call.name
  input : twin.input = call.input
  fault : twin.fault = call.fault ∨ twin.fault = .retryExhausted 1 call.fault
  category : twin.fault.category? = call.fault.category?

theorem HandlerCall.Shadows.refl (call : HandlerCall) : call.Shadows call :=
  ⟨rfl, rfl, .inl rfl, rfl⟩

namespace Move

def guard? {α : Type} (move : Move α) : Option (TaskId × Exchange) :=
  (move.exchange?.filter fun exchange => exchange.request.isGuard).map fun exchange =>
    (move.id, exchange)

/-- What tasks are answered by bulkheads, breakers and services, the first answer first: the
admissions, the samples with the transitions that they lead to, and the outcomes of attempts. -/
def guards {α : Type} (moves : List (Move α)) : List (TaskId × Exchange) := moves.filterMap guard?

def results {α : Type} (moves : List (Move α)) : List (TaskId × α) :=
  moves.filterMap fun move => move.result?.map fun result => (move.id, result)

def loud? {α : Type} (move : Move α) : Option OperationEvent :=
  move.occurrence?.filter fun occurrence => !occurrence.event.isStop

/-- The events that tasks send to the sink, but those that tell that retries stop. -/
def loud {α : Type} (moves : List (Move α)) : List OperationEvent := moves.filterMap loud?

namespace Shadows

variable {move twin : Move Outcome}

theorem tasks (shadows : move.Shadows twin) :
    Option.Rel (fun task task' : Task Outcome => task'.muted = task.muted)
      (move.before.tasks.get? move.id) (twin.before.tasks.get? twin.id) := by
  rw [shadows.id]
  cases found : move.before.tasks.get? move.id with
  | none =>
    rw [shadows.before.missing found]
    exact .none
  | some task =>
    obtain ⟨task', found', muted, -⟩ := shadows.before.found found
    rw [found']
    exact .some muted

theorem call?_eq (shadows : move.Shadows twin) : twin.call? = move.call? := by
  have spent : twin.before.isSpent = move.before.isSpent :=
    congrArg (fun engine => engine.isSpent) shadows.before.muted
  have starts {task task' : Task Outcome} (muted : task'.muted = task.muted) (request : Request)
      (wait : Wait) :
      twin.before.starts? task' request wait = move.before.starts? task request wait := by
    have cancelled : task'.cancelled = task.cancelled :=
      congrArg (fun task => task.cancelled) muted
    unfold Engine.starts?
    rw [spent, cancelled]
  have tasks := shadows.tasks
  have deeds := shadows.deed
  unfold call?
  generalize move.before.tasks.get? move.id = mine, twin.before.tasks.get? twin.id = yours
    at tasks ⊢
  cases tasks with
  | none => rfl
  | some muted =>
    simp only [Option.bind_some]
    generalize move.deed = deed, twin.deed = deed' at deeds ⊢
    cases deeds with
    | same =>
      cases deed with
      | answered | waited | crashed => exact starts muted _ _
      | finished | aborted => rfl
    | _ => rfl

theorem guard?_eq (shadows : move.Shadows twin) : twin.guard? = move.guard? := by
  have deeds := shadows.deed
  unfold guard? exchange?
  rw [shadows.id]
  generalize move.deed = deed, twin.deed = deed' at deeds ⊢
  cases deeds <;> rfl

theorem loud?_eq (shadows : move.Shadows twin) : twin.loud? = move.loud? := by
  have tasks := shadows.tasks
  have deeds := shadows.deed
  unfold loud? occurrence? asked?
  generalize move.before.tasks.get? move.id = mine, twin.before.tasks.get? twin.id = yours
    at tasks ⊢
  cases tasks with
  | none => rfl
  | @some task task' muted =>
    have operations : task'.operation = task.operation :=
      congrArg (fun task => task.operation) muted
    simp only [Option.bind_some, operations]
    generalize move.deed = deed, twin.deed = deed' at deeds ⊢
    cases deeds <;> rfl

theorem result? (shadows : move.Shadows twin) :
    Option.Rel Outcome.Shadows move.result? twin.result? := by
  have deeds := shadows.deed
  unfold Move.result?
  generalize move.deed = deed, twin.deed = deed' at deeds ⊢
  cases deeds with
  | same =>
    cases deed with
    | finished result => exact .some (.same result)
    | _ => exact .none
  | finished ends => exact .some ends
  | _ => exact .none

theorem handlerCall? (shadows : move.Shadows twin) :
    Option.Rel HandlerCall.Shadows move.handlerCall? twin.handlerCall? := by
  have handlers : twin.before.handlers = move.before.handlers :=
    congrArg (fun engine => engine.handlers) shadows.before.muted
  have tasks := shadows.tasks
  have deeds := shadows.deed
  unfold Move.handlerCall?
  generalize move.before.tasks.get? move.id = mine, twin.before.tasks.get? twin.id = yours
    at tasks ⊢
  cases tasks with
  | none => exact .none
  | @some task task' muted =>
    have input : task'.input = task.input := congrArg (fun task => task.input) muted
    have wrapped (name : String) (fault : Fault) (wait : Wait) : Option.Rel HandlerCall.Shadows
        (move.before.consults? task (.handle name fault) wait)
        (twin.before.consults? task' (.handle name (.retryExhausted 1 fault)) wait) := by
      simp only [Engine.consults?, handlers, input]
      cases wait.isHandler with
      | true => exact .none
      | false =>
        cases move.before.handlers.text? name with
        | none => exact .none
        | some respond => exact .some ⟨rfl, rfl, .inr rfl, rfl⟩
    have same (request : Request) (wait : Wait) : Option.Rel HandlerCall.Shadows
        (move.before.consults? task request wait) (twin.before.consults? task' request wait) := by
      have same : twin.before.consults? task' request wait =
          move.before.consults? task request wait := by
        unfold Engine.consults?
        rw [handlers, input]
      rw [same]
      cases move.before.consults? task request wait with
      | none => exact .none
      | some call => exact .some (.refl call)
    simp only [Option.bind_some]
    generalize move.deed = deed, twin.deed = deed' at deeds ⊢
    cases deeds with
    | same =>
      cases deed with
      | answered | waited | crashed => exact same _ _
      | finished | aborted => exact .none
    | handled | handling | crashed => exact wrapped _ _ _
    | resolved | finished => exact .none

end Shadows

structure Unseen (move : Move Outcome) : Prop where
  call : move.call? = none
  guard : move.guard? = none
  loud : move.loud? = none
  result : move.result? = none
  handlerCall : move.handlerCall? = none

theorem Faint.unseen {move : Move Outcome} (faint : move.Faint) : move.Unseen := by
  obtain ⟨request, answer, faint, deed⟩ := faint.asks
  have exchanged : move.exchange? = some ⟨request, answer⟩ := by
    unfold exchange?
    rw [deed]
  have unguarded : move.guard? = none := by
    unfold guard?
    rw [exchanged]
    cases request <;> first | rfl | exact faint.elim
  have unreturned : move.result? = none := by
    unfold result?
    rw [deed]
  cases found : move.before.tasks.get? move.id with
  | none =>
    refine ⟨?_, unguarded, ?_, unreturned, ?_⟩
    · simp [call?, found]
    · simp [loud?, occurrence?, asked?, found]
    · simp [handlerCall?, found]
  | some task =>
    have about : (∃ answer, move.deed = .answered ⟨request, answer⟩ .unbegun) ∨
        move.deed = .waited request .unbegun ∨ move.deed = .crashed request .unbegun :=
      .inl ⟨answer, deed⟩
    refine ⟨?_, unguarded, ?_, unreturned, ?_⟩
    · rw [call?_of_found found about]
      cases request <;> first | rfl | exact faint.elim
    · unfold loud? occurrence?
      rw [asked?_of_found found about]
      cases request with
      | emit event =>
        have stops : event.isStop = true := faint
        simp [Request.sends?, stops]
      | clock | log | count => rfl
      | _ => exact faint.elim
    · rw [handlerCall?_of_found found about]
      cases request <;> first | rfl | exact faint.elim

end Move

/-- What two rows of moves have in common even if fallback handlers answer otherwise: the calls, the
answers of bulkheads, breakers and services, the events that tell of anything but the answers and
that retries stop, and the fallbacks that are called. -/
structure Concur (moves moves' : List (Move Outcome)) : Prop where
  calls : bodyCalls moves' = bodyCalls moves
  guards : guards moves' = guards moves
  events : (loud moves').filter (fun occurrence => !occurrence.event.isClosing) =
    (loud moves).filter fun occurrence => !occurrence.event.isClosing
  consultations : List.Forall₂ HandlerCall.Shadows (handlerCalls moves) (handlerCalls moves')

namespace Concur

variable {moves moves' more more' : List (Move Outcome)}

theorem append (concur : Concur moves moves') (further : Concur more more') :
    Concur (moves ++ more) (moves' ++ more') where
  calls := by
    rw [bodyCalls_append, bodyCalls_append, concur.calls, further.calls]
  guards := by
    unfold Move.guards
    rw [List.filterMap_append, List.filterMap_append]
    exact congrArg₂ _ concur.guards further.guards
  events := by
    unfold loud
    rw [List.filterMap_append, List.filterMap_append, List.filter_append, List.filter_append]
    exact congrArg₂ _ concur.events further.events
  consultations := by
    unfold handlerCalls
    rw [List.filterMap_append, List.filterMap_append]
    exact List.rel_append concur.consultations further.consultations

theorem of_shadowed (shadowed : Shadowed moves moves') : Concur moves moves' where
  calls := by
    refine shadowed.reads_eq (fun move twin shadows => ?_) fun move faint => ?_
    · rw [shadows.call?_eq, shadows.id]
    · rw [faint.unseen.call]
      rfl
  guards := shadowed.reads_eq (fun _ _ shadows => shadows.guard?_eq)
    fun _ faint => faint.unseen.guard
  events := congrArg (List.filter _) (shadowed.reads_eq (fun _ _ shadows => shadows.loud?_eq)
    fun _ faint => faint.unseen.loud)
  consultations := shadowed.reads (fun _ _ shadows => shadows.handlerCall?)
    fun _ faint => faint.unseen.handlerCall

/-- What only asks a fallback handler or follows its answer has all in common if the calls of the
handler have. -/
theorem of_closing (closes : ∀ move ∈ moves, move.Closing ∧ move.guard? = none)
    (closes' : ∀ move ∈ moves', move.Closing ∧ move.guard? = none)
    (consultations : List.Forall₂ HandlerCall.Shadows (handlerCalls moves) (handlerCalls moves')) :
    Concur moves moves' := by
  have nothing {moves : List (Move Outcome)}
      (closes : ∀ move ∈ moves, move.Closing ∧ move.guard? = none) :
      bodyCalls moves = [] ∧ Move.guards moves = [] ∧
        (loud moves).filter (fun occurrence => !occurrence.event.isClosing) = [] := by
    refine ⟨(shows_nothing fun move member => (closes move member).1).1,
      List.filterMap_eq_nil_iff.mpr fun move member => (closes move member).2,
      List.filter_eq_nil_iff.mpr fun occurrence member => ?_⟩
    obtain ⟨move, made, told⟩ := List.mem_filterMap.mp member
    have sent := (Option.filter_eq_some_iff.mp told).1
    rw [(closes move made).1.2 occurrence sent]
    exact Bool.false_ne_true
  obtain ⟨calls, guards, events⟩ := nothing closes
  obtain ⟨calls', guards', events'⟩ := nothing closes'
  exact ⟨calls'.trans calls.symm, guards'.trans guards.symm, events'.trans events.symm,
    consultations⟩

end Concur

namespace Engine

variable {α : Type} {engine : Engine α} {id : TaskId} {task : Task α}

/-- What asks the fallback handler or follows its answer calls nothing and is answered by nothing
that guards. -/
theorem moves_close {plan : Plan α} (closes : plan.Uses Request.Closing) (wait : Wait) :
    ∀ move ∈ engine.moves id plan wait, move.Closing ∧ move.guard? = none := by
  intro move member
  rcases moves_use closes engine id wait move member with
    ⟨result, finished⟩ | ⟨task, request, wait, closing, found, about⟩
  · refine ⟨.of_idle (.inr ⟨result, finished⟩), ?_⟩
    unfold guard? exchange?
    rw [finished]
    rfl
  · refine ⟨.of_asked found about closing, ?_⟩
    unfold guard? exchange?
    rcases about with ⟨answer, same⟩ | same | same
    · rw [same]
      cases request <;> first | rfl | exact closing.elim
    · rw [same]
      rfl
    · rw [same]
      rfl

theorem Shadows.stateOf {engine twin : Engine Outcome} (shadows : engine.Shadows twin)
    (operation : OperationId) :
    (twin.stateOf operation).muted = (engine.stateOf operation).muted := by
  rw [← stateOf_muted, ← stateOf_muted, shadows.muted]

theorem Shadows.circuit {engine twin : Engine Outcome} (shadows : engine.Shadows twin)
    (operation : OperationId) : twin.circuit operation = engine.circuit operation :=
  congrArg (fun state => state.breaker) (shadows.stateOf operation)

theorem closing_of_settling {name : String} {fault : Fault}
    {next : Option (Except Failure String) → Plan α}
    (settles : ∀ answer, (next answer).Uses Request.Settling) :
    (Plan.ask (.handle name fault) next).Uses Request.Closing :=
  ⟨trivial, fun answer => (settles answer).mono fun _ settling => settling.closing⟩

variable {moves moves' : List (Move Outcome)} {twin after after' : Engine Outcome}

/-- Whatever fallback handlers make of the exhaustion of retries, the next turns have all in common
but the answers. -/
theorem Accords.concur (accords : Accords id moves after moves' after') : Concur moves moves' := by
  cases accords with
  | level shadowed => exact .of_shadowed shadowed
  | @parted first first' engine twin task name respond fault next next' wait shadowed shadows found
      begins registered tells settles settles' =>
    refine (Concur.of_shadowed shadowed).append ?_
    obtain ⟨task', found', muted, -⟩ := shadows.found found
    have input : task'.input = task.input := congrArg (fun task => task.input) muted
    have registered' : twin.handlers.text? name = some respond := by
      rw [← registered]
      exact congrArg (fun engine => engine.handlers.text? name) shadows.muted
    refine .of_closing (moves_close (closing_of_settling settles) wait)
      (moves_close (closing_of_settling settles') wait) ?_
    rw [handlerCalls_handle found registered begins fault settles,
      handlerCalls_handle found' registered' begins _ settles', input]
    exact .cons ⟨rfl, rfl, .inr rfl, rfl⟩ .nil

theorem Accords.undisturbed (accords : Accords id moves after moves' after')
    (operation : OperationId) :
    (after.circuit operation).Undisturbed (after'.circuit operation) := by
  cases accords with
  | level _ shadows =>
    rw [shadows.circuit]
    exact .refl _
  | @parted first first' engine twin task name respond fault next next' wait _ shadows _ _ _ _
      settles settles' =>
    have off (fault : Fault) {next : Option (Except Failure String) → Plan Outcome}
        (settles : ∀ answer, (next answer).Uses Request.Settling) :
        (Plan.ask (.handle name fault) next).Uses Request.OffBreaker :=
      (closing_of_settling settles).mono fun _ closing => closing.offBreaker
    have here := run_undisturbed (off fault settles) engine id wait operation
    have there := run_undisturbed (off (.retryExhausted 1 fault) settles') twin id wait operation
    rw [shadows.circuit] at there
    exact ⟨there.state.trans here.state.symm, there.window.trans here.window.symm,
      there.successes.trans here.successes.symm⟩

/-- Whether two engines have the same breakers, bulkheads and clocks, the same counters but those of
retries that stop, and tasks that made the same calls, hold the same and have come as far. -/
structure Matches (engine twin : Engine Outcome) : Prop where
  circuits : ∀ operation, twin.circuit operation = engine.circuit operation
  halls : ∀ operation, twin.hall operation = engine.hall operation
  counts : ∀ operation counter, counter.isStop = false →
    (twin.stateOf operation).metrics.count counter =
      (engine.stateOf operation).metrics.count counter
  clock : twin.clock = engine.clock
  now : twin.now = engine.now
  tasks : ∀ id, (twin.tasks.get? id).map Task.muted = (engine.tasks.get? id).map Task.muted

theorem Shadows.matches {engine twin : Engine Outcome} (shadows : engine.Shadows twin) :
    engine.Matches twin where
  circuits := shadows.circuit
  halls operation := congrArg (fun state => state.bulkheads) (shadows.stateOf operation)
  counts operation counter counts := by
    have kept (metrics : Metrics) : metrics.muted.count counter = metrics.count counter :=
      if_neg (ne_true_of_eq_false counts)
    rw [← kept, ← kept (engine.stateOf operation).metrics]
    exact congrArg (fun state => state.metrics.count counter) (shadows.stateOf operation)
  clock := congrArg (fun engine => engine.clock) shadows.muted
  now := congrArg (fun engine => engine.now) shadows.muted
  tasks id := by
    rw [← get?_muted, ← get?_muted, shadows.muted]

/-- Whether a task returns in another engine what it returns here, or the exhaustion of retries
after that. -/
structure Returns (returned twin : TaskId × Outcome) : Prop where
  id : twin.1 = returned.1
  outcome : Outcome.Shadows returned.2 twin.2

/-- An engine whose only operation is guarded by a breaker that has been open for as long as it may
be, and retries as stated. -/
def probing (retry : Option RetryPolicy) : Engine Outcome :=
  knowing "pay" { breaker := some {}, retry } { state := .open, generation := 1 } ⟨5000⟩

end Engine

end Resilience
