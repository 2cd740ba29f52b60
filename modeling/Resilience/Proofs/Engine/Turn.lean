import Resilience.Proofs.Engine.Holdings
import Resilience.Proofs.Engine.Run

/-!
Turns: the moves that a task makes when it goes on. They are its own and concern no other task, and
a task that has ended makes none.
-/

namespace Resilience.Engine

variable {α : Type} {id : TaskId}

def turn (engine : Engine α) (id : TaskId) : List (Move α) :=
  match engine.tasks.get? id with
  | some { progress := .suspended plan wait, .. } => engine.moves id plan wait
  | _ => []

theorem turn_of_suspended {engine : Engine α} {task : Task α} {plan : Plan α} {wait : Wait}
    (found : engine.tasks.get? id = some task) (suspended : task.progress = .suspended plan wait) :
    engine.poll id = engine.run id plan wait ∧ engine.turn id = engine.moves id plan wait := by
  rcases task with ⟨operation, input, service, linked, cancelled, gate, calls, place, permit, _⟩
  cases suspended
  unfold poll turn
  rw [found]
  exact ⟨rfl, rfl⟩

theorem turn_of_ended {engine : Engine α} (ended : engine.isRunning id = false) :
    engine.poll id = engine ∧ engine.turn id = [] := by
  unfold isRunning at ended
  unfold poll turn
  cases found : engine.tasks.get? id with
  | none => exact ⟨rfl, rfl⟩
  | some task =>
    rw [found] at ended
    rcases task with ⟨operation, input, service, linked, cancelled, gate, calls, place, permit,
      progress⟩
    cases progress with
    | suspended => cases ended
    | finished | crashed => exact ⟨rfl, rfl⟩

theorem running_cases (engine : Engine α) (id : TaskId) : engine.isRunning id = false ∨
    ∃ task plan wait, engine.tasks.get? id = some task ∧
      task.progress = .suspended plan wait := by
  unfold isRunning Task.isRunning
  cases engine.tasks.get? id with
  | none => exact .inl rfl
  | some task =>
    cases suspended : task.progress with
    | suspended plan wait => exact .inr ⟨task, plan, wait, rfl, suspended⟩
    | finished | crashed => exact .inl (by simp [suspended])

theorem run_isolates (engine : Engine α) (id : TaskId) (plan : Plan α) (wait : Wait) :
    Isolates id engine (engine.run id plan wait) ∧
      ∀ move ∈ engine.moves id plan wait, move.id = id := by
  induction plan generalizing engine wait with
  | done result => exact ⟨.finish engine id _, List.forall_mem_singleton.mpr rfl⟩
  | ask request next inductionHypothesis =>
    unfold Engine.run moves
    cases found : engine.tasks.get? id with
    | none => exact ⟨(Retains.refl engine).isolates, fun _ none => absurd none List.not_mem_nil⟩
    | some task =>
      have isolates := Isolates.answer engine id task request wait
      simp only
      generalize engine.answer id task request wait = replied at isolates ⊢
      rcases replied with ⟨reply, after⟩
      cases reply with
      | now answer =>
        obtain ⟨later, mine⟩ := inductionHypothesis answer after .unbegun
        exact ⟨isolates.trans later, List.forall_mem_cons.mpr ⟨rfl, mine⟩⟩
      | later later =>
        exact ⟨isolates.trans (.suspend after id _ later), List.forall_mem_singleton.mpr rfl⟩
      | crash => exact ⟨isolates.trans (.finish after id none), List.forall_mem_singleton.mpr rfl⟩

theorem poll_isolates (engine : Engine α) (id : TaskId) :
    Isolates id engine (engine.poll id) ∧ ∀ move ∈ engine.turn id, move.id = id := by
  rcases engine.running_cases id with ended | ⟨task, plan, wait, found, suspended⟩
  · obtain ⟨same, nothing⟩ := turn_of_ended ended
    rw [same, nothing]
    exact ⟨(Retains.refl engine).isolates, fun _ none => absurd none List.not_mem_nil⟩
  · obtain ⟨same, made⟩ := turn_of_suspended found suspended
    rw [same, made]
    exact run_isolates engine id plan wait

theorem run_turn (engine : Engine α) (id : TaskId) :
    Run ⟨engine, none⟩ (engine.turn id) ⟨engine.poll id, none⟩ := by
  rcases engine.running_cases id with ended | ⟨task, plan, wait, found, suspended⟩
  · obtain ⟨same, nothing⟩ := turn_of_ended ended
    rw [same, nothing]
    exact .refl
  · obtain ⟨same, made⟩ := turn_of_suspended found suspended
    rw [same, made]
    have resumed : Run ⟨engine, none⟩ [] ⟨engine, some ⟨id, plan, wait⟩⟩ :=
      .single (.resume found suspended)
    exact resumed.trans (run_moves engine id plan wait)

end Resilience.Engine
