import Resilience.Proofs.Engine.Conclusion
import Resilience.Proofs.Engine.Faults

/-!
Consultations: what a fallback makes of the outcome of an invocation. Whatever happens meanwhile, a
fallback that applies calls its handler once, with the input of the invocation and its fault, unless
there is no such handler.
-/

namespace Resilience

open Move Mark Invocation

/-- The call of a fallback handler: its name, and the input and the fault that it is given. -/
structure HandlerCall where
  name : String
  input : String
  fault : Fault

def Wait.isHandler : Wait → Bool
  | .handler .. => true
  | _ => false

def Request.consulting (input : String) : Request → Wait → List HandlerCall
  | .handle name fault, wait => if wait.isHandler then [⟨name, input, fault⟩] else []
  | _, _ => []

theorem consulting_unbegun (input : String) (request : Request) :
    request.consulting input .unbegun = [] := by
  cases request <;> rfl

def Mark.consulted? (input : String) : Mark → Option HandlerCall
  | handled name fault (some _) => some ⟨name, input, fault⟩
  | handled _ _ none | entered .. | tried .. | told _ => none

def Mark.consulted (input : String) (marks : List Mark) : List HandlerCall :=
  marks.filterMap (consulted? input)

namespace Engine

variable {α : Type} {engine after : Engine α} {id : TaskId} {task : Task α} {request : Request}
  {wait later : Wait}

def consults? (engine : Engine α) (task : Task α) : Request → Wait → Option HandlerCall
  | .handle name fault, wait =>
    if wait.isHandler then none
    else (engine.handlers.text? name).map fun _ => ⟨name, task.input, fault⟩
  | _, _ => none

theorem handle_cases (engine : Engine α) (id : TaskId) (task : Task α) (name : String)
    (fault : Fault) (wait : Wait) :
    (∃ rest timer, wait = .handler rest timer ∧
        engine.handle id task name fault wait = engine.proceedHandler id rest timer) ∨
      wait.isHandler = false ∧
        ((∃ respond, engine.handlers.text? name = some respond ∧
            engine.handle id task name fault wait =
              engine.proceedHandler id (respond task.input fault) none) ∨
          engine.handlers.text? name = none ∧
            engine.handle id task name fault wait = (.now none, engine)) := by
  cases wait with
  | handler rest timer => exact .inl ⟨rest, timer, rfl, rfl⟩
  | _ =>
    refine .inr ⟨rfl, ?_⟩
    unfold handle
    cases engine.handlers.text? name with
    | some respond => exact .inl ⟨respond, rfl, rfl⟩
    | none => exact .inr ⟨rfl, rfl⟩

theorem proceedHandler_replies (engine : Engine α) (id : TaskId) (rest : Behaviour Failure)
    (timer : Option Timer) :
    (∀ answer, (engine.proceedHandler id rest timer).1 = .now answer → answer.isSome = true) ∧
      ∀ later, (engine.proceedHandler id rest timer).1 = .later later →
        later.isHandler = true := by
  unfold proceedHandler
  rcases engine.act id rest.actions timer with ⟨halt, final⟩
  cases halt with
  | finished =>
    refine ⟨fun answer same => ?_, nofun⟩
    cases same
    rfl
  | crashed => exact ⟨nofun, nofun⟩
  | waiting =>
    refine ⟨nofun, fun later same => ?_⟩
    cases same
    rfl

theorem consulting_of_later (waits : engine.answer id task request wait = (.later later, after)) :
    request.consulting task.input later =
      request.consulting task.input wait ++ (engine.consults? task request wait).toList := by
  cases request with
  | handle name fault =>
    have waits : engine.handle id task name fault wait = (.later later, after) := waits
    simp only [Request.consulting, consults?]
    rcases engine.handle_cases id task name fault wait with
      ⟨rest, timer, rfl, goesOn⟩ | ⟨begins, ⟨respond, found, starts⟩ | ⟨missing, none⟩⟩
    · have awaits := (engine.proceedHandler_replies id rest timer).2 later
        (goesOn ▸ congrArg Prod.fst waits)
      have begun : (Wait.handler rest timer).isHandler = true := rfl
      simp [awaits, begun]
    · have awaits := (engine.proceedHandler_replies id (respond task.input fault) _).2 later
        (starts ▸ congrArg Prod.fst waits)
      simp [awaits, begins, found]
    · cases none.symm.trans waits
  | _ => rfl

theorem consulting_of_now {answer : request.Answer}
    (answers : engine.answer id task request wait = (.now answer, after)) :
    request.consulting task.input wait ++ (engine.consults? task request wait).toList =
      consulted task.input (Exchange.mark? ⟨request, answer⟩).toList := by
  cases request with
  | handle name fault =>
    have answers : engine.handle id task name fault wait = (.now answer, after) := answers
    simp only [Request.consulting, consults?]
    have tells (given : answer.isSome = true) :
        consulted task.input (Exchange.mark? ⟨.handle name fault, answer⟩).toList =
          [⟨name, task.input, fault⟩] := by
      obtain ⟨result, rfl⟩ := Option.isSome_iff_exists.mp given
      rfl
    rcases engine.handle_cases id task name fault wait with
      ⟨rest, timer, rfl, goesOn⟩ | ⟨begins, ⟨respond, found, starts⟩ | ⟨missing, none⟩⟩
    · have given := (engine.proceedHandler_replies id rest timer).1 answer
        (goesOn ▸ congrArg Prod.fst answers)
      rw [tells given]
      rfl
    · have given := (engine.proceedHandler_replies id (respond task.input fault) _).1 answer
        (starts ▸ congrArg Prod.fst answers)
      simp [tells given, begins, found]
    · cases none.symm.trans answers
      simp [begins, missing, Exchange.mark?, consulted, consulted?]
  | emit | enterBulkhead | attempt => rfl
  | _ => rfl

end Engine

def Point.consulting {α : Type} (input : String) (point : Point α) : List HandlerCall :=
  match point.plan with
  | .ask request _ => request.consulting input point.wait
  | .done _ => []

theorem Point.consulting_of_unbegun {α : Type} {point : Point α} (input : String)
    (unbegun : point.wait = .unbegun) : point.consulting input = [] := by
  unfold consulting
  rw [unbegun]
  split
  · exact consulting_unbegun input _
  · rfl

namespace Move

variable {α : Type}

def handlerCall? (move : Move α) : Option HandlerCall :=
  (move.before.tasks.get? move.id).bind fun task =>
    match move.deed with
    | .answered ⟨request, _⟩ wait | .waited request wait | .crashed request wait =>
      move.before.consults? task request wait
    | .finished _ | .aborted => none

def handlerCalls (moves : List (Move α)) : List HandlerCall := moves.filterMap handlerCall?

variable {move : Move α} {moves : List (Move α)}

theorem handlerCall?_of_found {task : Task α} {request : Request} {wait : Wait}
    (found : move.before.tasks.get? move.id = some task)
    (about : (∃ answer, move.deed = .answered ⟨request, answer⟩ wait) ∨
      move.deed = .waited request wait ∨ move.deed = .crashed request wait) :
    move.handlerCall? = move.before.consults? task request wait := by
  unfold handlerCall?
  rw [found]
  rcases about with ⟨answer, same⟩ | same | same <;> rw [same] <;> rfl

theorem consults_of_handlerCall {call : HandlerCall} (calls : move.handlerCall? = some call) :
    move.Consults := by
  obtain ⟨task, found, starts⟩ := Option.bind_eq_some_iff.mp calls
  have asks {request : Request} {wait : Wait}
      (starts : move.before.consults? task request wait = some call)
      (about : (∃ answer, move.deed = .answered ⟨request, answer⟩ wait) ∨
        move.deed = .waited request wait ∨ move.deed = .crashed request wait) :
      move.Consults := by
    cases request with
    | handle => exact .of_asked found about
    | _ => cases starts
  rcases move with ⟨id, before, deed, after⟩
  cases deed with
  | answered exchange => exact asks starts (.inl ⟨exchange.answer, rfl⟩)
  | waited => exact asks starts (.inr (.inl rfl))
  | crashed => exact asks starts (.inr (.inr rfl))
  | finished | aborted => cases starts

theorem handlerCall?_eq_none
    (idle : move.deed = .aborted ∨ ∃ result, move.deed = .finished result) :
    move.handlerCall? = none := by
  unfold handlerCall?
  rcases idle with same | ⟨result, same⟩ <;> rw [same] <;>
    cases move.before.tasks.get? move.id <;> rfl

end Move

/-- The fallback handlers that a task calls are those of its exchanges, and the one that it is still
waiting for. -/
theorem Thread.handlerCalls_eq {α : Type} {actor : Actor} {first point : Point α}
    {mine : List (Move α)} {input : String} {service : Service}
    (thread : Thread actor first mine point) (begins : first.consulting input = [])
    (serves : ∀ move ∈ mine, move.Serves input service) :
    handlerCalls mine = consulted input (marks (history mine)) ++ point.consulting input := by
  induction thread with
  | refl =>
    rw [begins]
    rfl
  | @look mine move point after _ look inductionHypothesis =>
    obtain ⟨earlier, last⟩ := List.forall_mem_append.mp serves
    have calls : handlerCalls (mine ++ [move]) =
        handlerCalls mine ++ move.handlerCall?.toList := by
      unfold handlerCalls
      rw [List.filterMap_append]
      cases called : move.handlerCall? <;> simp [called]
    rw [calls, inductionHypothesis earlier, List.append_assoc]
    cases look with
    | @answered engine after task request next wait answer permit later holds answers =>
      obtain ⟨rfl, -⟩ := List.forall_mem_singleton.mp last task holds.found
      have unbegun : Point.consulting task.input ⟨next answer, .unbegun, later⟩ = [] :=
        Point.consulting_of_unbegun task.input rfl
      rw [handlerCall?_of_found holds.found (.inl ⟨_, rfl⟩), unbegun, List.append_nil,
        history_append, marks_append]
      unfold consulted
      rw [List.filterMap_append]
      refine congrArg _ ((Engine.consulting_of_now answers).trans ?_)
      show _ = consulted task.input (marks [⟨request, answer⟩])
      rw [marks_cons]
      exact congrArg _ (List.append_nil _).symm
    | @waited engine after task request next wait later permit holds waits =>
      obtain ⟨rfl, -⟩ := List.forall_mem_singleton.mp last task holds.found
      rw [handlerCall?_of_found holds.found (.inr (.inl rfl)), history_append_of_silent rfl]
      exact congrArg _ (Engine.consulting_of_later waits).symm

namespace Move

/-- Whether no move asks a fallback handler. -/
def Unconsulted {α : Type} (moves : List (Move α)) : Prop := ∀ move ∈ moves, ¬move.Consults

theorem asked?_eq_some {α : Type} {move : Move α} {operation : OperationId} {request : Request}
    {wait : Wait} (asked : move.asked? = some (operation, request, wait)) :
    (∃ answer, move.deed = .answered ⟨request, answer⟩ wait) ∨ move.deed = .waited request wait ∨
      move.deed = .crashed request wait := by
  obtain ⟨task, -, about⟩ := Option.bind_eq_some_iff.mp asked
  rcases move with ⟨id, before, deed, after⟩
  cases deed with
  | answered exchange =>
    cases about
    exact .inl ⟨exchange.answer, rfl⟩
  | waited =>
    cases about
    exact .inr (.inl rfl)
  | crashed =>
    cases about
    exact .inr (.inr rfl)
  | finished | aborted => cases about

end Move

/-- What the fallback of a policy makes of the outcome of an invocation: it leaves it alone, or its
handler is called once, with the input and the fault, and answers, or there is no such handler. -/
inductive Recovers (operation : OperationId) (policy : Policy) (input : String)
    (mine : List (Move Outcome)) : Outcome → Outcome → Prop
  | kept {outcome : Outcome} (unanswered : ∀ fallback fault category, outcome = .error fault →
        ¬Answers policy fallback fault category) (unconsulted : Unconsulted mine) :
      Recovers operation policy input mine outcome outcome
  | answered {fallback : FallbackPolicy} {fault : Fault} {category : Category}
      {result : Except Failure String} (answers : Answers policy fallback fault category)
      (called : handlerCalls mine = [⟨fallback.handler, input, fault⟩])
      (handled : Handled input mine fallback.handler fault result) :
      Recovers operation policy input mine (.error fault) (result.mapError .inner)
  | missing {fallback : FallbackPolicy} {fault : Fault} {category : Category}
      (answers : Answers policy fallback fault category) (uncalled : handlerCalls mine = [])
      (unregistered : ∃ move ∈ mine, move.Consults ∧
        move.before.handlers.text? fallback.handler = none) :
      Recovers operation policy input mine (.error fault)
        (.error (.misconfigured operation ("fallback handler '" ++ fallback.handler ++
          "' is not registered for this operation's types")))

namespace Recovers

variable {operation : OperationId} {policy : Policy} {input : String} {mine : List (Move Outcome)}
  {outcome result : Outcome}

theorem of_unconsulted (recovers : Recovers operation policy input mine outcome result)
    (unconsulted : Unconsulted mine) : outcome = result := by
  cases recovers with
  | kept => rfl
  | answered answers called =>
    obtain ⟨move, member, calls⟩ := List.mem_filterMap.mp (called ▸ List.mem_singleton_self _)
    exact absurd (consults_of_handlerCall calls) (unconsulted move member)
  | missing answers uncalled unregistered =>
    obtain ⟨move, member, consults, -⟩ := unregistered
    exact absurd consults (unconsulted move member)

/-- A failure without a category is nothing for a fallback. -/
theorem of_uncategorized {fault : Fault}
    (recovers : Recovers operation policy input mine (.error fault) result)
    (uncategorized : fault.category? = none) : result = .error fault ∧ Unconsulted mine := by
  have never {fallback : FallbackPolicy} {category : Category}
      (answers : Answers policy fallback fault category) : False := by
    cases uncategorized.symm.trans answers.known
  cases recovers with
  | kept _ unconsulted => exact ⟨rfl, unconsulted⟩
  | answered answers => exact (never answers).elim
  | missing answers => exact (never answers).elim

end Recovers

/-- Every mark of a handler that was called is one of the fallback. -/
theorem consulted_recoveries (input : String) (history : List Exchange) :
    consulted input (recoveries history) = consulted input (marks history) := by
  unfold recoveries consulted
  rw [List.filterMap_filter]
  refine List.filterMap_congr fun mark _ => ?_
  cases mark with
  | told => exact ite_self none
  | handled | entered | tried => rfl

namespace Invoked

variable {actor : Actor} {service : Service} {input : String}
  {mine looks rest : List (Move Outcome)} {point : Point Outcome} {outcome result : Outcome}
  {move : Move Outcome}

/-- The fallback handlers that a returned invocation called are those of its exchanges. -/
theorem handlerCalls_eq (invoked : Invoked actor service input mine looks rest point)
    (member : move ∈ mine) (returned : move.result? = some result) :
    handlerCalls mine = consulted input (marks (history mine)) := by
  obtain ⟨ends, -⟩ := invoked.returns member returned
  have silent : handlerCalls rest = [] := List.filterMap_eq_nil_iff.mpr fun other last =>
    handlerCall?_eq_none (invoked.idle member returned other last)
  have nothing : point.consulting input = [] := by
    unfold Point.consulting
    rw [ends]
  have serves := invoked.serves
  rw [invoked.history_eq]
  rw [invoked.path] at serves ⊢
  have called := invoked.thread.handlerCalls_eq (Point.consulting_of_unbegun input rfl)
    (List.forall_mem_append.mp serves).1
  rw [nothing, List.append_nil] at called
  unfold handlerCalls at silent called ⊢
  rw [List.filterMap_append, silent, List.append_nil, called]

/-- Whoever asks a fallback handler before it returns was told of it. -/
theorem unconsulted (invoked : Invoked actor service input mine looks rest point)
    (member : move ∈ mine) (returned : move.result? = some result)
    (unrecovered : recoveries (history mine) = []) : Unconsulted mine := by
  obtain ⟨ends, -⟩ := invoked.returns member returned
  rintro other made ⟨operation, name, fault, wait, asked⟩
  rw [invoked.path] at made
  rcases List.mem_append.mp made with early | last
  · rcases invoked.thread.asked other early _ _ (asked?_eq_some asked) with
      ⟨⟨request, answer⟩, exchanged, same⟩ | ⟨next, stands⟩
    · cases same
      rw [← invoked.history_eq] at exchanged
      have shown : .handled name fault answer ∈ recoveries (history mine) :=
        List.mem_filter.mpr ⟨List.mem_filterMap.mpr ⟨_, exchanged, rfl⟩, rfl⟩
      rw [unrecovered] at shown
      cases shown
    · cases ends.symm.trans stands
  · rw [asked?_eq_none (invoked.idle member returned other last)] at asked
    cases asked

theorem lacks (invoked : Invoked actor service input mine looks rest point) {name : String}
    {fault : Fault} (handled : .handled name fault none ∈ marks (history mine)) :
    ∃ move ∈ mine, move.Consults ∧ move.before.handlers.text? name = none := by
  obtain ⟨⟨request, answer⟩, exchanged, told⟩ := List.mem_filterMap.mp handled
  rw [invoked.history_eq] at exchanged
  cases request with
  | handle =>
    cases told
    obtain ⟨engine, after, task, permit, wait, holds, answers, made⟩ :=
      invoked.thread.answered exchanged
    refine ⟨_, invoked.path ▸ List.mem_append_left rest made,
      .of_asked holds.found (.inl ⟨none, rfl⟩), ?_⟩
    have answers : engine.handle actor.id task name fault wait = (.now none, after) := answers
    rcases engine.handle_cases actor.id task name fault wait with
      ⟨left, timer, -, goesOn⟩ | ⟨-, ⟨respond, -, starts⟩ | ⟨missing, -⟩⟩
    · cases (engine.proceedHandler_replies actor.id left timer).1 none
        (goesOn ▸ congrArg Prod.fst answers)
    · cases (engine.proceedHandler_replies actor.id (respond task.input fault) _).1 none
        (starts ▸ congrArg Prod.fst answers)
    · exact missing
  | _ => cases told

/-- What the marks of an invocation tell of its fallback is what the fallback did. -/
theorem recovers {id : TaskId} {operation : OperationId} {policy : Policy}
    (invoked : Invoked ⟨id, operation, false⟩ service input mine looks rest point)
    (member : move ∈ mine) (returned : move.result? = some result)
    (recovered : Recovered operation policy outcome (recoveries (history mine)) result) :
    Recovers operation policy input mine outcome result := by
  have calls := invoked.handlerCalls_eq member returned
  rw [← consulted_recoveries] at calls
  have shown {mark : Mark} (told : mark ∈ recoveries (history mine)) :
      mark ∈ marks (history mine) := (List.mem_filter.mp told).1
  have unconsulted := invoked.unconsulted member returned
  generalize recoveries (history mine) = told at recovered calls shown unconsulted
  cases recovered with
  | kept unanswered => exact .kept unanswered (unconsulted rfl)
  | applied answers => exact .answered answers calls (invoked.handles (shown (.head _)))
  | failed answers => exact .answered answers calls (invoked.handles (shown (.head _)))
  | missing answers => exact .missing answers calls (invoked.lacks (shown (.head _)))

end Invoked

end Resilience
