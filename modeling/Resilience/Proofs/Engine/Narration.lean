import Resilience.Proofs.Engine.Ledger
import Resilience.Proofs.Engine.Replies
import Resilience.Proofs.Engine.Sampling
import Resilience.Proofs.Invocation.Story

/-!
Narration: the events that an invocation sends to the sink, whatever else happens in the engine, are
those of its story, in order.
-/

namespace Resilience

open Move

def Request.ahead : Request → Wait → List Event
  | .emit event, .delivery => [event]
  | _, _ => []

theorem ahead_unbegun (request : Request) : request.ahead .unbegun = [] := by
  cases request <;> rfl

/-- An event is sent at the first look at its request, and ahead of the answer from then on. -/
theorem ahead_sends (request : Request) (wait : Wait) (answer : request.Answer) :
    request.ahead wait ++ (request.sends? wait).toList =
      Mark.events (Exchange.mark? ⟨request, answer⟩).toList := by
  cases request with
  | emit event => cases wait <;> rfl
  | _ => rfl

theorem ahead_of_later {α : Type} {engine after : Engine α} {id : TaskId} {task : Task α}
    {request : Request} {wait later : Wait}
    (waits : engine.answer id task request wait = (.later later, after)) :
    request.ahead later = request.ahead wait ++ (request.sends? wait).toList := by
  cases request with
  | emit event =>
    have sends : (engine.send id ⟨task.operation, event⟩ wait).1 = .later later :=
      congrArg Prod.fst waits
    rcases Engine.send_cases engine id ⟨task.operation, event⟩ wait with passes | held
    · cases passes.symm.trans sends
    · cases held.symm.trans sends
      cases wait <;> rfl
  | _ => rfl

def Point.ahead {α : Type} (point : Point α) : List Event :=
  match point.plan with
  | .ask request _ => request.ahead point.wait
  | .done _ => []

theorem Point.ahead_of_unbegun {α : Type} {point : Point α} (unbegun : point.wait = .unbegun) :
    point.ahead = [] := by
  unfold ahead
  rw [unbegun]
  split
  · exact ahead_unbegun _
  · rfl

variable {α : Type} {actor : Actor} {first point : Point α} {mine : List (Move α)}

theorem occurrence_of_holds {engine after : Engine α} {task : Task α} {permit : Option Permit}
    {request : Request} {wait : Wait} {deed : Deed α} (holds : actor.Holds engine task permit)
    (about : (∃ answer, deed = .answered ⟨request, answer⟩ wait) ∨ deed = .waited request wait ∨
      deed = .crashed request wait) :
    occurrence? ⟨actor.id, engine, deed, after⟩ =
      (request.sends? wait).map fun event => ⟨actor.operation, event⟩ := by
  have asked : (⟨actor.id, engine, deed, after⟩ : Move α).asked? =
      some (task.operation, request, wait) := asked?_of_found holds.found about
  unfold occurrence?
  rw [asked, holds.operation]
  rfl

/-- What a task sends to the sink are the events of its exchanges, and what it sends ahead. -/
theorem Thread.occurrences_eq (thread : Thread actor first mine point)
    (begins : first.ahead = []) :
    occurrences mine = (Mark.events (marks (history mine)) ++ point.ahead).map
      fun event => ⟨actor.operation, event⟩ := by
  induction thread with
  | refl =>
    rw [begins]
    rfl
  | @look mine move point after _ look inductionHypothesis =>
    rw [occurrences_append, inductionHypothesis]
    cases look with
    | @answered engine after task request next wait answer permit later holds =>
      have answered : Point.ahead ⟨next answer, .unbegun, later⟩ = [] :=
        Point.ahead_of_unbegun rfl
      have sent := ahead_sends request wait answer
      rw [occurrence_of_holds holds (.inl ⟨_, rfl⟩), answered, history_append]
      simp only [Move.exchange?, Option.toList_some, marks_append, marks_cons, Mark.events_append,
        ← sent, List.append_nil, List.map_append, List.append_assoc, Point.ahead]
      cases request.sends? wait <;> simp [marks, Mark.events]
    | @waited engine after task request next wait later permit holds waits =>
      rw [occurrence_of_holds holds (.inr (.inl rfl)), history_append_of_silent rfl]
      simp only [Point.ahead, ahead_of_later waits, List.map_append, List.append_assoc]
      cases request.sends? wait <;> simp

/-- How the moves of an invocation go in a run: along a thread to a point of its plan, where it ends
if it does. -/
structure Invoked (actor : Actor) (service : Service) (input : String)
    (mine looks rest : List (Move Outcome)) (point : Point Outcome) : Prop where
  path : mine = looks ++ rest
  thread : Thread actor ⟨service.plan actor.operation, .unbegun, none⟩ looks point
  endings : ∀ move ∈ rest, Ending actor point move
  serves : ∀ move ∈ mine, move.Serves input service

namespace Invoked

variable {service : Service} {input : String} {mine looks rest : List (Move Outcome)}
  {point : Point Outcome} {outcome : Outcome}

theorem history_eq (invoked : Invoked actor service input mine looks rest point) :
    history mine = history looks := by
  rw [invoked.path]
  exact history_of_endings invoked.endings looks

theorem returns (invoked : Invoked actor service input mine looks rest point)
    {move : Move Outcome} (member : move ∈ mine) (returned : move.result? = some outcome) :
    point.plan = .done outcome ∧
      (service.plan actor.operation).Returns (history mine) outcome := by
  rw [invoked.path] at member
  have ends := invoked.thread.ends_of_finished invoked.endings member returned
  have leads := invoked.thread.leads
  rw [ends] at leads
  exact ⟨ends, invoked.history_eq ▸ leads⟩

theorem genuine (invoked : Invoked actor service input mine looks rest point) :
    ∀ exchange ∈ history mine, exchange.Genuine service (Handled input mine) := by
  have serves := invoked.serves
  rw [invoked.path] at serves
  have genuine := (invoked.thread.genuine rfl (List.forall_mem_append.mp serves).1).1
  intro exchange member
  rw [invoked.history_eq] at member
  rw [invoked.path]
  exact (genuine exchange member).mono fun _ _ _ handled => handled.later rest

/-- A returned invocation ends with its result, and is forgotten at most. -/
theorem idle (invoked : Invoked actor service input mine looks rest point)
    {move : Move Outcome} (member : move ∈ mine) (returned : move.result? = some outcome) :
    ∀ move ∈ rest, move.deed = .aborted ∨ ∃ result, move.deed = .finished result := by
  obtain ⟨ends, -⟩ := invoked.returns member returned
  intro move member
  have ending := invoked.endings move member
  rcases point with ⟨plan, wait, permit⟩
  cases ends
  cases ending with
  | finished => exact .inr ⟨_, rfl⟩
  | aborted => exact .inl rfl

/-- What a returned invocation sent to the sink are the events of its exchanges. -/
theorem occurrences_eq (invoked : Invoked actor service input mine looks rest point)
    {move : Move Outcome} (member : move ∈ mine) (returned : move.result? = some outcome) :
    occurrences mine =
      (Mark.events (marks (history mine))).map fun event => ⟨actor.operation, event⟩ := by
  obtain ⟨ends, -⟩ := invoked.returns member returned
  have silent : occurrences rest = [] := by
    refine List.filterMap_eq_nil_iff.mpr fun other last => ?_
    unfold occurrence?
    rw [asked?_eq_none (invoked.idle member returned other last)]
    rfl
  have ahead : point.ahead = [] := by
    unfold Point.ahead
    rw [ends]
  rw [invoked.history_eq, invoked.path]
  unfold occurrences at silent ⊢
  rw [List.filterMap_append, silent, List.append_nil]
  have sent := invoked.thread.occurrences_eq (Point.ahead_of_unbegun rfl)
  rw [ahead, List.append_nil] at sent
  exact sent

end Invoked

namespace Engine

/-- The service and the input of an invocation stay the same in a run, whatever else happens. -/
theorem invoked (engine : Engine Outcome) (operation : OperationId) (input : String)
    (service : Service) (linked cancelled : Bool) {moves : List (Move Outcome)}
    {stage : Stage Outcome}
    (run : Run ⟨(engine.spawn (invocation operation input service linked cancelled)).2, none⟩
      moves stage) :
    ∃ looks rest point, Invoked ⟨engine.nextTask, operation, false⟩ service input
      (own engine.nextTask moves) looks rest point := by
  have known : engine.nextTask <
      (engine.spawn (invocation operation input service linked cancelled)).2.nextTask := by
    rw [nextTask_spawn]
    exact Nat.lt_succ_self engine.nextTask
  have stands : Stands ⟨engine.nextTask, operation, false⟩ ⟨service.plan operation, .unbegun, none⟩
      ⟨(engine.spawn (invocation operation input service linked cancelled)).2, none⟩ :=
    .spawn engine (invocation operation input service linked cancelled) rfl rfl
  obtain ⟨looks, rest, point, path, thread, endings⟩ := (run.follows stands known).parts
  obtain ⟨-, persists⟩ := run.persists known (get?_starting engine _)
  refine ⟨looks, rest, point, path, thread, endings, fun move member task found => ?_⟩
  have lasts := persists move member task found
  exact ⟨lasts.input, lasts.service⟩

/-- Whatever policy an invocation finds, in whatever state, and whatever happens meanwhile: if it
returns, it tells its story, and its events are those of the story, in order. -/
theorem events_in_order (engine : Engine Outcome) (operation : OperationId) (input : String)
    (unready? : Nat → Option Failure) (body : Nat → Behaviour Failure) (linked cancelled : Bool)
    {moves : List (Move Outcome)} {stage : Stage Outcome}
    {policy : Policy} {outcome : Outcome}
    (run : Run ⟨(engine.spawn (invocation operation input (.ofBody unready? body) linked
      cancelled)).2, none⟩ moves stage)
    (registered : resolved? (history (own engine.nextTask moves)) = some policy)
    (returned : ∃ move ∈ own engine.nextTask moves, move.result? = some outcome) :
    let mine := own engine.nextTask moves
    Invocation.Story operation policy (marks (history mine)) outcome ∧
      occurrences mine =
        (Mark.events (marks (history mine))).map fun event => ⟨operation, event⟩ := by
  intro mine
  obtain ⟨looks, rest, point, invoked⟩ :=
    engine.invoked operation input (.ofBody unready? body) linked cancelled run
  obtain ⟨move, member, finished⟩ := returned
  have returns := (invoked.returns member finished).2
  have possible : ∀ exchange ∈ history mine, exchange.Possible :=
    fun exchange member => (invoked.genuine exchange member).possible
  refine ⟨?_, invoked.occurrences_eq member finished⟩
  rcases Invocation.service_returns returns with returns | ⟨_, -, nothing, -⟩
  · have told := Invocation.plan_tells returns possible
    rw [registered] at told
    exact told
  · rw [show history mine = [] from nothing] at registered
    cases registered

/-- An operation with room for calls, whose failures are counted one by one and repeated once. -/
def layered : Policy where
  bulkhead := some {}
  breaker := some { sampling := .attempt }
  retry := some { maxRetries := 1, jitter := .millis 0 }

/-- A call that fails twice enters the bulkhead, is repeated and fails. -/
theorem events_in_order_repeated :
    let engine := knowing "pay" layered {} {}
    let mine := own engine.nextTask (engine.movesOf "pay" failing)
    Invocation.Story "pay" layered (marks (history mine))
        (.error (.retryExhausted 2 (.inner ⟨"Other", "no"⟩))) ∧
      (occurrences mine).map OperationEvent.event =
        [.bulkheadAcquired 1 10, .retryAttempt 1 (.ofMillis 0), .retryExhausted 2 (.ofMillis 0),
          .requestFailure (.ofMillis 0)] := by
  intro engine mine
  have ended : mine.any fun move =>
      move.result? = some (.error (.retryExhausted 2 (.inner ⟨"Other", "no"⟩))) := by
    decide +kernel
  obtain ⟨move, member, finished⟩ := List.any_eq_true.mp ended
  obtain ⟨story, -⟩ := events_in_order engine "pay" "" (fun _ => none)
    (fun _ => .immediate (.error ⟨"Other", "no"⟩)) true false (run_starting engine rfl) rfl
      ⟨move, member, of_decide_eq_true finished⟩
  exact ⟨story, by decide +kernel⟩

end Engine

end Resilience
