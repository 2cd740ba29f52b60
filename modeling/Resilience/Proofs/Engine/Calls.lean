import Resilience.Proofs.Engine.Narration
import Resilience.Proofs.Invocation.Origin

/-!
Calls: an attempt calls the service once, unless its caller gives it up.
-/

namespace Resilience

open Move Mark Invocation

def Request.begun : Request → Wait → List Nat
  | .attempt number .., wait => if wait.isCall then [number] else []
  | _, _ => []

theorem begun_unbegun (request : Request) : request.begun .unbegun = [] := by
  cases request <;> rfl

namespace Engine

variable {α : Type} {engine after : Engine α} {id : TaskId} {task : Task α} {request : Request}
  {wait later : Wait}

theorem proceed_waits {limit : Option Duration} {rest : Behaviour Fault} {timer : Option Timer}
    {started : Nat} {deadline : Option Timer}
    (waits : (engine.proceed id limit rest timer started deadline).1 = .later later) :
    later.isCall = true := by
  unfold proceed at waits
  generalize engine.act id rest.actions timer = acts at waits
  rcases acts with ⟨halt, final⟩
  cases halt with
  | finished => cases waits
  | crashed => cases waits
  | waiting actions timer =>
    cases limit with
    | none =>
      cases waits
      rfl
    | some bound =>
      simp only at waits
      split at waits
      · cases waits
      · cases waits
        rfl

theorem begun_of_later (waits : engine.answer id task request wait = (.later later, after)) :
    request.begun later = request.begun wait ++ (engine.starts? task request wait).toList := by
  cases request with
  | attempt number limit heedsCaller =>
    have waits : (engine.attempt id task number limit heedsCaller wait).1 = .later later :=
      congrArg Prod.fst waits
    simp only [Request.begun]
    cases going : wait.isCall with
    | true =>
      have idle : engine.starts? task (.attempt number limit heedsCaller) wait = none := by
        rw [starts?_attempt, going]
        rfl
      have calls : later.isCall = true := by
        unfold attempt at waits
        split at waits
        · cases waits
          exact going
        · split at waits
          · cases waits
          · cases wait with
            | attempt => exact proceed_waits waits
            | _ => cases going
      simp [idle, calls]
    | false =>
      cases starts : engine.starts? task (.attempt number limit heedsCaller) wait with
      | some started =>
        obtain ⟨rfl, replies⟩ := attempt_of_starts starts id
        have calls : later.isCall = true := by
          rw [replies] at waits
          split at waits
          · cases waits
          · exact proceed_waits waits
        simp [calls]
      | none =>
        rcases attempt_of_idle going starts id with rests | givenUp
        · rw [rests] at waits
          cases waits
          simp [going]
        · rw [givenUp] at waits
          cases waits
  | _ => rfl

/-- The answer to an attempt that nobody gave up comes from one call. -/
theorem begun_of_now {answer : request.Answer}
    (answers : engine.answer id task request wait = (.now answer, after))
    (heard : Heard (tries (Exchange.mark? ⟨request, answer⟩).toList)) :
    request.begun wait ++ (engine.starts? task request wait).toList =
      (tries (Exchange.mark? ⟨request, answer⟩).toList).map Prod.fst := by
  cases request with
  | attempt number limit heedsCaller =>
    have started := attempt_called answers (heard (number, answer) (.head _))
    simp only [Request.begun]
    cases going : wait.isCall with
    | true =>
      have idle : engine.starts? task (.attempt number limit heedsCaller) wait = none := by
        rw [starts?_attempt, going]
        rfl
      simp [idle, Exchange.mark?]
    | false =>
      have started := started.resolve_left (by simp [going])
      obtain ⟨other, starts⟩ := Option.isSome_iff_exists.mp started
      obtain ⟨rfl, -⟩ := attempt_of_starts starts id
      simp [starts, Exchange.mark?]
  | _ => rfl

end Engine

/-- The call that a task has started ahead of the answer for which it waits. -/
def Point.begun {α : Type} (point : Point α) : List Nat :=
  match point.plan with
  | .ask request _ => request.begun point.wait
  | .done _ => []

theorem Point.begun_of_unbegun {α : Type} {point : Point α} (unbegun : point.wait = .unbegun) :
    point.begun = [] := by
  unfold begun
  rw [unbegun]
  split
  · exact begun_unbegun _
  · rfl

/-- The calls of a task are those of its attempts, and the one that it has started ahead, as long as
its caller gives none of them up. -/
theorem Thread.calls_eq {α : Type} {actor : Actor} {first point : Point α} {mine : List (Move α)}
    (thread : Thread actor first mine point) (begins : first.begun = [])
    (heard : Heard (tries (marks (history mine)))) :
    calls mine = (tries (marks (history mine))).map Prod.fst ++ point.begun := by
  induction thread with
  | refl =>
    rw [begins]
    rfl
  | @look mine move point after _ look inductionHypothesis =>
    rw [calls_append]
    cases look with
    | @answered engine after task request next wait answer permit later holds answers =>
      have unbegun : Point.begun ⟨next answer, .unbegun, later⟩ = [] :=
        Point.begun_of_unbegun rfl
      have path : tries (marks (history (mine ++
          [⟨actor.id, engine, .answered ⟨request, answer⟩ wait, after⟩]))) =
          tries (marks (history mine)) ++ tries (Exchange.mark? ⟨request, answer⟩).toList := by
        simp only [history_append, Move.exchange?, Option.toList_some, marks_append, marks_cons,
          tries_append]
        rw [show marks [] = [] from rfl, tries_nil, List.append_nil]
      rw [path] at heard ⊢
      obtain ⟨before, here⟩ := List.forall_mem_append.mp heard
      rw [inductionHypothesis before, call?_of_found holds.found (.inl ⟨_, rfl⟩), unbegun,
        List.append_nil, List.map_append, List.append_assoc]
      exact congrArg _ (Engine.begun_of_now answers here)
    | @waited engine after task request next wait later permit holds waits =>
      rw [history_append_of_silent rfl] at heard ⊢
      rw [inductionHypothesis heard, call?_of_found holds.found (.inr (.inl rfl)),
        List.append_assoc]
      exact congrArg _ (Engine.begun_of_later waits).symm

/-- The calls of a returned invocation whose caller gave up no attempt are those of its attempts. -/
theorem Invoked.calls_eq {actor : Actor} {service : Service} {input : String}
    {mine looks rest : List (Move Outcome)} {point : Point Outcome} {outcome : Outcome}
    (invoked : Invoked actor service input mine looks rest point)
    {move : Move Outcome} (member : move ∈ mine) (returned : move.result? = some outcome)
    (heard : Heard (tries (marks (history mine)))) :
    calls mine = (tries (marks (history mine))).map Prod.fst := by
  obtain ⟨ends, -⟩ := invoked.returns member returned
  have silent : calls rest = [] := List.filterMap_eq_nil_iff.mpr fun other last =>
    call?_eq_none (invoked.idle member returned other last)
  have ahead : point.begun = [] := by
    unfold Point.begun
    rw [ends]
  rw [invoked.history_eq] at heard ⊢
  have called := invoked.thread.calls_eq (Point.begun_of_unbegun rfl) heard
  rw [ahead, List.append_nil] at called
  rw [invoked.path]
  unfold calls at silent called ⊢
  rw [List.filterMap_append, silent, List.append_nil, called]

end Resilience
