import Resilience.Proofs.Engine.Constancy
import Resilience.Proofs.Engine.Consultation
import Resilience.Proofs.Engine.Turn

/-!
Looks: what a task does when it goes on is to look at one request after the other. What each answer
leaves as it is, a whole turn leaves as it is; and a task asks for nothing that its plan does not
use.
-/

namespace Resilience.Engine

open Move

variable {α : Type} {engine after : Engine α} {id : TaskId} {task : Task α}

section Looks

variable {request : Request} {wait : Wait}

theorem look_now {answer : request.Answer} (found : engine.tasks.get? id = some task)
    (answers : engine.answer id task request wait = (.now answer, after))
    (next : request.Answer → Plan α) :
    engine.moves id (.ask request next) wait =
        ⟨id, engine, .answered ⟨request, answer⟩ wait, after⟩ ::
          after.moves id (next answer) .unbegun ∧
      engine.run id (.ask request next) wait = after.run id (next answer) .unbegun := by
  constructor
  · rw [moves]
    simp only [found, answers]
  · rw [Engine.run]
    simp only [found, answers]

theorem look_later {later : Wait} (found : engine.tasks.get? id = some task)
    (waits : engine.answer id task request wait = (.later later, after))
    (next : request.Answer → Plan α) :
    engine.moves id (.ask request next) wait =
        [⟨id, engine, .waited request wait, after.suspend id (.ask request next) later⟩] ∧
      engine.run id (.ask request next) wait = after.suspend id (.ask request next) later := by
  constructor
  · rw [moves]
    simp only [found, waits]
  · rw [Engine.run]
    simp only [found, waits]

theorem look_crash (found : engine.tasks.get? id = some task)
    (crashes : engine.answer id task request wait = (.crash, after))
    (next : request.Answer → Plan α) :
    engine.moves id (.ask request next) wait =
        [⟨id, engine, .crashed request wait, after.finish id none⟩] ∧
      engine.run id (.ask request next) wait = after.finish id none := by
  constructor
  · rw [moves]
    simp only [found, crashes]
  · rw [Engine.run]
    simp only [found, crashes]

end Looks

theorem recalls_resolve (engine : Engine α) (operation : OperationId) :
    engine.Recalls (engine.resolve operation).2 := by
  unfold resolve
  split
  · exact ((Sustains.refl engine).setState operation _).toRecalls
  · exact .refl engine

/-- No answer concerns the fallback handlers, or lets an operation be forgotten. -/
theorem recalls_answer (engine : Engine α) (id : TaskId) (task : Task α) (request : Request)
    (wait : Wait) : engine.Recalls (engine.answer id task request wait).2 := by
  cases request with
  | emit event => exact (Recalls.refl engine).send id _ wait
  | resolve => exact recalls_resolve engine task.operation
  | handle name fault =>
    have goesOn (rest : Behaviour Failure) (timer : Option Timer) :
        engine.Recalls (engine.proceedHandler id rest timer).2 := by
      have acted := (Sustains.refl engine).act id rest.actions timer
      unfold proceedHandler
      generalize engine.act id rest.actions timer = acts at acted ⊢
      rcases acts with ⟨halt, after⟩
      cases halt <;> exact acted.toRecalls
    show engine.Recalls (engine.handle id task name fault wait).2
    unfold handle
    split
    · exact goesOn _ _
    · split
      · exact goesOn _ none
      · exact .refl engine
  | _ =>
    apply answer_recalls engine id task ?_ wait
    exact trivial

theorem recalls_release (engine : Engine α) (id : TaskId) (task : Task α) :
    engine.Recalls (engine.release id task) := by
  have left := (Recalls.refl engine).changeGate (·.leave id)
  unfold release
  exact left.trans (((Sustains.refl _).dropPermit id task).leavePlace id task).toRecalls

theorem finish_handlers (engine : Engine α) (id : TaskId) (result : Option α) :
    (engine.finish id result).handlers = engine.handlers := by
  unfold finish
  split
  · rfl
  · exact (recalls_release engine id _).handlers

theorem run_handlers (engine : Engine α) (id : TaskId) (plan : Plan α) (wait : Wait) :
    (engine.run id plan wait).handlers = engine.handlers ∧
      ∀ move ∈ engine.moves id plan wait, move.before.handlers = engine.handlers := by
  induction plan generalizing engine wait with
  | done result => exact ⟨finish_handlers engine id _, List.forall_mem_singleton.mpr rfl⟩
  | ask request next inductionHypothesis =>
    cases found : engine.tasks.get? id with
    | none =>
      rw [Engine.run, moves]
      simp [found]
    | some task =>
      have recalls := (recalls_answer engine id task request wait).handlers
      rcases replies : engine.answer id task request wait with ⟨reply, after⟩
      rw [replies] at recalls
      cases reply with
      | now answer =>
        obtain ⟨made, went⟩ := look_now found replies next
        obtain ⟨left, others⟩ := inductionHypothesis answer after .unbegun
        rw [made, went, left]
        refine ⟨recalls, List.forall_mem_cons.mpr ⟨rfl, fun move member => ?_⟩⟩
        exact (others move member).trans recalls
      | later later =>
        obtain ⟨made, went⟩ := look_later found replies next
        rw [made, went]
        exact ⟨recalls, List.forall_mem_singleton.mpr rfl⟩
      | crash =>
        obtain ⟨made, went⟩ := look_crash found replies next
        rw [made, went, finish_handlers]
        exact ⟨recalls, List.forall_mem_singleton.mpr rfl⟩

theorem poll_handlers (engine : Engine α) (id : TaskId) :
    (engine.poll id).handlers = engine.handlers ∧
      ∀ move ∈ engine.turn id, move.before.handlers = engine.handlers := by
  rcases engine.running_cases id with ended | ⟨task, plan, wait, found, suspended⟩
  · obtain ⟨same, nothing⟩ := turn_of_ended ended
    rw [same, nothing]
    exact ⟨rfl, fun _ none => absurd none List.not_mem_nil⟩
  · obtain ⟨same, made⟩ := turn_of_suspended found suspended
    rw [same, made]
    exact run_handlers engine id plan wait

theorem moves_use {allowed : Request → Prop} {plan : Plan α} (uses : plan.Uses allowed)
    (engine : Engine α) (id : TaskId) (wait : Wait) : ∀ move ∈ engine.moves id plan wait,
      (∃ result, move.deed = .finished result) ∨ ∃ task request wait, allowed request ∧
        move.before.tasks.get? move.id = some task ∧
          ((∃ answer, move.deed = .answered ⟨request, answer⟩ wait) ∨
            move.deed = .waited request wait ∨ move.deed = .crashed request wait) := by
  induction plan generalizing engine wait with
  | done result => exact List.forall_mem_singleton.mpr (.inl ⟨result, rfl⟩)
  | ask request next inductionHypothesis =>
    obtain ⟨asked, later⟩ := uses
    cases found : engine.tasks.get? id with
    | none =>
      intro move member
      rw [moves] at member
      simp [found] at member
    | some task =>
      rcases replies : engine.answer id task request wait with ⟨reply, after⟩
      cases reply with
      | now answer =>
        rw [(look_now found replies next).1]
        refine List.forall_mem_cons.mpr ⟨.inr ⟨task, request, wait, asked, found, ?_⟩, ?_⟩
        · exact .inl ⟨answer, rfl⟩
        · exact inductionHypothesis answer (later answer) after .unbegun
      | later =>
        rw [(look_later found replies next).1]
        exact List.forall_mem_singleton.mpr
          (.inr ⟨task, request, wait, asked, found, .inr (.inl rfl)⟩)
      | crash =>
        rw [(look_crash found replies next).1]
        exact List.forall_mem_singleton.mpr
          (.inr ⟨task, request, wait, asked, found, .inr (.inr rfl)⟩)

theorem run_undisturbed {plan : Plan α} (off : plan.Uses Request.OffBreaker) (engine : Engine α)
    (id : TaskId) (wait : Wait) (operation : OperationId) :
    (engine.circuit operation).Undisturbed ((engine.run id plan wait).circuit operation) := by
  induction plan generalizing engine wait with
  | done result => exact finish_undisturbed engine id (some result) operation
  | ask request next inductionHypothesis =>
    obtain ⟨offBreaker, later⟩ := off
    cases found : engine.tasks.get? id with
    | none =>
      rw [Engine.run]
      simp only [found]
      exact .refl _
    | some task =>
      have kept := (answer_keeps engine id task offBreaker wait).circuit operation
      rcases replies : engine.answer id task request wait with ⟨reply, after⟩
      rw [replies] at kept
      cases reply with
      | now answer =>
        rw [(look_now found replies next).2, ← kept]
        exact inductionHypothesis answer (later answer) after .unbegun
      | later later =>
        rw [(look_later found replies next).2, ← kept]
        exact .refl _
      | crash =>
        rw [(look_crash found replies next).2, ← kept]
        exact finish_undisturbed after id none operation

/-- What follows the answer of a fallback handler calls none. -/
theorem handlerCalls_settling {plan : Plan α} (settles : plan.Uses Request.Settling) (wait : Wait) :
    handlerCalls (engine.moves id plan wait) = [] := by
  refine List.filterMap_eq_nil_iff.mpr fun move member => ?_
  rcases moves_use settles engine id wait move member with
    ⟨result, finished⟩ | ⟨task, request, wait, settling, found, about⟩
  · exact handlerCall?_eq_none (.inr ⟨result, finished⟩)
  · rw [handlerCall?_of_found found about]
    cases request <;> first | rfl | exact settling.elim

theorem handlerCalls_handle (found : engine.tasks.get? id = some task) {name : String}
    {respond : String → Fault → Behaviour Failure}
    (registered : engine.handlers.text? name = some respond) {wait : Wait}
    (begins : wait.isHandler = false) (fault : Fault)
    {next : Option (Except Failure String) → Plan α}
    (settles : ∀ answer, (next answer).Uses Request.Settling) :
    handlerCalls (engine.moves id (.ask (.handle name fault) next) wait) =
      [⟨name, task.input, fault⟩] := by
  have called {move : Move α} (before : move.before = engine) (same : move.id = id)
      (about : (∃ answer, move.deed = .answered ⟨.handle name fault, answer⟩ wait) ∨
        move.deed = .waited (.handle name fault) wait ∨
          move.deed = .crashed (.handle name fault) wait) :
      move.handlerCall? = some ⟨name, task.input, fault⟩ := by
    rw [handlerCall?_of_found (by rw [before, same, found]) about, before]
    simp [consults?, begins, registered]
  unfold handlerCalls
  rcases replies : engine.answer id task (.handle name fault) wait with ⟨reply, after⟩
  cases reply with
  | now answer =>
    have settled : handlerCalls (after.moves id (next answer) .unbegun) = [] :=
      handlerCalls_settling (settles answer) .unbegun
    rw [(look_now found replies next).1, List.filterMap_cons, called rfl rfl (.inl ⟨answer, rfl⟩)]
    exact congrArg _ settled
  | later =>
    rw [(look_later found replies next).1, List.filterMap_cons, called rfl rfl (.inr (.inl rfl))]
    rfl
  | crash =>
    rw [(look_crash found replies next).1, List.filterMap_cons, called rfl rfl (.inr (.inr rfl))]
    rfl

end Resilience.Engine
