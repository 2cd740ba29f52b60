import Resilience.Proofs.Breaker.Usage
import Resilience.Proofs.Engine.Holdings
import Resilience.Proofs.Engine.Run
import Resilience.Proofs.Invocation.Sampling

/-!
Effects: which answers start a call, and what each move of a task does to the breakers.
-/

namespace Resilience

def Wait.isCall : Wait → Bool
  | .attempt .. => true
  | _ => false

def Reply.awaitsCall {ρ : Type} : Reply ρ → Bool
  | .later wait => wait.isCall
  | _ => false

/-- The replies to what calls nothing: they neither await a call nor end a task. -/
inductive Reply.Uncalling {ρ : Type} : Reply ρ → Prop
  | now (answer : ρ) : Uncalling (.now answer)
  | later {wait : Wait} (idle : wait.isCall = false) : Uncalling (.later wait)

namespace Reply.Uncalling

variable {ρ : Type} {reply : Reply ρ}

theorem awaitsCall (uncalling : reply.Uncalling) : reply.awaitsCall = false := by
  cases uncalling with
  | now => rfl
  | later idle => exact idle

theorem ne_crash (uncalling : reply.Uncalling) : reply ≠ .crash := by
  cases uncalling <;> exact nofun

end Reply.Uncalling

namespace Engine

variable {α : Type}

/-- The number of the call that the answer to a request starts. An attempt that heeds its caller
starts none while its stint is used up, or when the caller gave up. -/
def starts? (engine : Engine α) (task : Task α) : Request → Wait → Option Nat
  | .attempt number _ heedsCaller, wait =>
    if wait.isCall then none
    else if heedsCaller && (engine.isSpent || task.cancelled) then none
    else some number
  | _, _ => none

theorem starts?_attempt (engine : Engine α) (task : Task α) (number : Nat)
    (limit : Option Duration) (heedsCaller : Bool) (wait : Wait) :
    engine.starts? task (.attempt number limit heedsCaller) wait =
      if wait.isCall then none
      else if heedsCaller && (engine.isSpent || task.cancelled) then none
      else some number :=
  rfl

variable {engine after : Engine α} {id : TaskId} {task : Task α}

/-- An attempt that starts a call asks its service whether it is ready, and then for its answer. -/
theorem attempt_of_starts {number started : Nat} {limit : Option Duration} {heedsCaller : Bool}
    {wait : Wait}
    (starts : engine.starts? task (.attempt number limit heedsCaller) wait = some started)
    (id : TaskId) :
    started = number ∧ engine.attempt id task number limit heedsCaller wait =
      match task.service.unready? (number + 1) with
      | some failure => (.now (.error (.inner failure)), engine)
      | none =>
        (engine.modifyTask id fun task =>
          { task with calls := task.calls ++ [{ number }] }).proceed id limit
            (task.service.respond number) none engine.now none := by
  rw [starts?_attempt] at starts
  split at starts
  · cases starts
  next idle =>
    split at starts
    · cases starts
    next going =>
      refine ⟨(Option.some.inj starts).symm, ?_⟩
      have first : (heedsCaller && engine.isSpent) = false ∧
          (heedsCaller && task.cancelled) = false := by
        cases heedsCaller with
        | false => exact ⟨rfl, rfl⟩
        | true => simpa using going
      unfold attempt
      rw [first.1, first.2]
      cases wait with
      | attempt => exact absurd rfl idle
      | _ => rfl

/-- An attempt that neither is on its way nor starts waits on, or the caller has given up. -/
theorem attempt_of_idle {number : Nat} {limit : Option Duration} {heedsCaller : Bool}
    {wait : Wait} (idle : wait.isCall = false)
    (starts : engine.starts? task (.attempt number limit heedsCaller) wait = none) (id : TaskId) :
    engine.attempt id task number limit heedsCaller wait = (.later wait, engine.setAside id) ∨
      engine.attempt id task number limit heedsCaller wait =
        (.now (.error .cancelled), engine) := by
  rw [starts?_attempt, idle] at starts
  unfold attempt
  split
  · exact .inl rfl
  next unspent =>
    split
    · exact .inr rfl
    next uncancelled =>
      cases heedsCaller with
      | false => cases starts
      | true =>
        have rests : (engine.isSpent || task.cancelled) = false := by
          simpa using And.intro unspent uncancelled
        rw [rests] at starts
        cases starts

/-- The gate of the sink lets a task pass, or it waits for the delivery of its event. -/
theorem passGate_cases (engine : Engine α) (id : TaskId) :
    (engine.passGate id).1 = .now () ∨ (engine.passGate id).1 = .later .delivery := by
  unfold passGate
  split
  · exact .inr rfl
  · split
    · exact .inl rfl
    · split
      · exact .inr rfl
      · split
        · exact .inl rfl
        · exact .inr rfl

theorem send_cases (engine : Engine α) (id : TaskId) (occurrence : OperationEvent) (wait : Wait) :
    (engine.send id occurrence wait).1 = .now () ∨
      (engine.send id occurrence wait).1 = .later .delivery := by
  unfold send
  split
  · exact passGate_cases engine id
  · split
    · exact .inl rfl
    · simp only
      split
      · exact passGate_cases _ id
      · exact .inl rfl

theorem send_uncalling (engine : Engine α) (id : TaskId) (occurrence : OperationEvent)
    (wait : Wait) : (engine.send id occurrence wait).1.Uncalling := by
  rcases send_cases engine id occurrence wait with passes | waits
  · rw [passes]
    exact .now ()
  · rw [waits]
    exact .later rfl

theorem awaitSlot_uncalling (engine : Engine α) (id : TaskId) (task : Task α) :
    (engine.awaitSlot id task).1.Uncalling := by
  unfold awaitSlot
  split
  · exact .later rfl
  · split
    · split
      · exact .now _
      · simp only
        split
        · exact .now _
        · exact .now _
        · exact .later rfl
    · exact .now _
    · exact .now _

theorem proceedPause_uncalling (engine : Engine α) (id : TaskId) (task : Task α)
    (delay : Duration) (timer : Option Timer) :
    (engine.proceedPause id task delay timer).1.Uncalling := by
  unfold proceedPause
  split
  · exact .later rfl
  · split
    · exact .now _
    · split
      · exact .now _
      · exact .now _
      · simp only
        split
        · exact .now _
        · exact .later rfl

theorem pause_uncalling (engine : Engine α) (id : TaskId) (task : Task α) (delay : Duration)
    (wait : Wait) : (engine.pause id task delay wait).1.Uncalling := by
  unfold pause
  split <;> exact proceedPause_uncalling _ id task delay _

theorem proceedHandler_awaitsCall {rest : Behaviour Failure} {timer : Option Timer} :
    (engine.proceedHandler id rest timer).1.awaitsCall = false := by
  unfold proceedHandler
  generalize engine.act id rest.actions timer = acts
  rcases acts with ⟨halt, final⟩
  cases halt <;> rfl

theorem handle_awaitsCall {name : String} {fault : Fault} {wait : Wait} :
    (engine.handle id task name fault wait).1.awaitsCall = false := by
  unfold handle
  split
  · exact proceedHandler_awaitsCall
  · split
    · exact proceedHandler_awaitsCall
    · rfl

theorem answer_awaitsCall {request : Request} {wait : Wait}
    (awaits : (engine.answer id task request wait).1.awaitsCall = true) :
    wait.isCall = true ∨ (engine.starts? task request wait).isSome = true := by
  cases request with
  | attempt number limit heedsCaller =>
    cases idle : wait.isCall with
    | true => exact .inl rfl
    | false =>
      cases starts : engine.starts? task (.attempt number limit heedsCaller) wait with
      | some started => exact .inr rfl
      | none =>
        have replies :
            ((engine.attempt id task number limit heedsCaller wait).1).awaitsCall = true := awaits
        rcases attempt_of_idle idle starts id with waits | givenUp
        · rw [waits] at replies
          exact .inl (idle.symm.trans replies)
        · rw [givenUp] at replies
          cases replies
  | emit event => cases (send_uncalling engine id _ wait).awaitsCall.symm.trans awaits
  | awaitSlot => cases (awaitSlot_uncalling engine id task).awaitsCall.symm.trans awaits
  | pause delay => cases (pause_uncalling engine id task delay wait).awaitsCall.symm.trans awaits
  | handle name fault => exact absurd awaits (Bool.not_eq_true _ ▸ handle_awaitsCall)
  | _ => cases awaits

theorem attempt_called {number : Nat} {limit : Option Duration} {heedsCaller : Bool} {wait : Wait}
    {outcome : Outcome}
    (answers : engine.answer id task (.attempt number limit heedsCaller) wait =
      (.now outcome, after))
    (heard : outcome ≠ .error .cancelled) :
    wait.isCall = true ∨
      (engine.starts? task (.attempt number limit heedsCaller) wait).isSome = true := by
  have ended : engine.attempt id task number limit heedsCaller wait = (.now outcome, after) :=
    answers
  cases idle : wait.isCall with
  | true => exact .inl rfl
  | false =>
    cases starts : engine.starts? task (.attempt number limit heedsCaller) wait with
    | some started => exact .inr rfl
    | none =>
      rcases attempt_of_idle idle starts id with waits | givenUp
      · rw [waits] at ended
        cases ended
      · rw [givenUp] at ended
        cases ended
        exact absurd rfl heard

end Engine

namespace Move

variable {α : Type}

def exchange? (move : Move α) : Option Exchange :=
  match move.deed with
  | .answered exchange _ => some exchange
  | .waited .. | .crashed .. | .finished _ | .aborted => none

/-- The result with which a move ends its task. -/
def result? (move : Move α) : Option α :=
  match move.deed with
  | .finished result => some result
  | .answered .. | .waited .. | .crashed .. | .aborted => none

/-- The number of the call that a move starts. -/
def call? (move : Move α) : Option Nat :=
  (move.before.tasks.get? move.id).bind fun task =>
    match move.deed with
    | .answered ⟨request, _⟩ wait | .waited request wait | .crashed request wait =>
      move.before.starts? task request wait
    | .finished _ | .aborted => none

/-- What a move of a task of an operation does to the breakers. An acquisition and a record are
what the breaker of the operation makes of them, a record with the permit that the task holds;
anything else leaves all breakers undisturbed. -/
def Affects (operation : OperationId) (move : Move α) : Prop :=
  match move.deed with
  | .answered ⟨.acquirePermit rule, answer⟩ _ =>
    let acquired := (move.before.circuit operation).acquire rule move.before.clock
    answer = acquired.1.map Permit.transition ∧ ∀ other, move.after.circuit other =
      if operation = other then acquired.2 else move.before.circuit other
  | .answered ⟨.recordSample rule failed, answer⟩ _ =>
    ∃ task permit, move.before.tasks.get? move.id = some task ∧ task.permit = some permit ∧
      let recorded := (move.before.circuit operation).record permit rule move.before.clock failed
      answer = recorded.1 ∧ ∀ other, move.after.circuit other =
        if operation = other then recorded.2 else move.before.circuit other
  | _ => ∀ other, (move.before.circuit other).Undisturbed (move.after.circuit other)

end Move

namespace Engine

variable {α : Type} {engine after : Engine α} {id : TaskId} {task : Task α}

theorem dropPermit_undisturbed (engine : Engine α) (id : TaskId) (task : Task α)
    (operation : OperationId) :
    (engine.circuit operation).Undisturbed ((engine.dropPermit id task).circuit operation) := by
  cases held : task.permit with
  | none =>
    rw [dropPermit_of_free held]
    exact .refl _
  | some permit =>
    rw [dropPermit_of_held held, circuit_setPermit, circuit_setCircuit]
    split
    next same =>
      rw [← same]
      exact Breaker.drop_undisturbed _ permit
    next => exact .refl _

theorem release_undisturbed (engine : Engine α) (id : TaskId) (task : Task α)
    (operation : OperationId) :
    (engine.circuit operation).Undisturbed ((engine.release id task).circuit operation) := by
  unfold release
  rw [(Keeps.leavePlace _ id task).circuit]
  have gate := ((Touches.refl engine).changeGate (·.leave id)).retains.circuit operation
  rw [← gate]
  exact dropPermit_undisturbed _ id task operation

theorem finish_undisturbed (engine : Engine α) (id : TaskId) (result : Option α)
    (operation : OperationId) :
    (engine.circuit operation).Undisturbed ((engine.finish id result).circuit operation) := by
  cases found : engine.tasks.get? id with
  | none =>
    unfold finish
    rw [found]
    exact .refl _
  | some task =>
    rw [(retains_finish found result).circuit]
    exact release_undisturbed engine id task operation

theorem abort_undisturbed (engine : Engine α) (id : TaskId) (operation : OperationId) :
    (engine.circuit operation).Undisturbed ((engine.abort id).circuit operation) := by
  unfold abort
  split
  next task found =>
    split
    · exact release_undisturbed engine id task operation
    · exact .refl _
  · exact .refl _

/-- An answer changes of its task only the permit, as the order of requests says, and of the
breakers only what the request asks for. -/
theorem answered {request : Request} {wait : Wait} {answer : request.Answer}
    (found : engine.tasks.get? id = some task)
    (allowed : permits.allows task.permit.isSome request)
    (answers : engine.answer id task request wait = (.now answer, after)) :
    ∃ permit, after.core? id = some (task.operation, permit, task.progress) ∧
      permit.isSome = permits.next task.permit.isSome ⟨request, answer⟩ ∧
        Move.Affects task.operation ⟨id, engine, .answered ⟨request, answer⟩ wait, after⟩ := by
  have core := core?_of_found found
  have kept (off : request.OffBreaker) (same : permits.next task.permit.isSome ⟨request, answer⟩ =
      task.permit.isSome) :
      ∃ permit, after.core? id = some (task.operation, permit, task.progress) ∧
        permit.isSome = permits.next task.permit.isSome ⟨request, answer⟩ ∧
          ∀ other, (engine.circuit other).Undisturbed (after.circuit other) := by
    have keeps : engine.Keeps (engine.answer id task request wait).2 :=
      answer_keeps engine id task off wait
    rw [answers] at keeps
    refine ⟨task.permit, (keeps.tasks id).trans core, same.symm, ?_⟩
    intro other
    rw [keeps.circuit other]
    exact .refl _
  cases request with
  | acquirePermit rule =>
    have same : engine.acquirePermit id task rule = (answer, after) :=
      Reply.eq_of_given answers
    have replies : (engine.acquirePermit id task rule).1 = _ :=
      acquirePermit_eq engine id task rule
    have keeps := (retains_acquirePermit engine id task rule).keeps
    rw [same] at replies keeps
    have circuits (other : OperationId) : after.circuit other =
        if task.operation = other then
          ((engine.circuit task.operation).acquire rule engine.clock).2
        else engine.circuit other := by
      rw [keeps.circuit]
      rcases (engine.circuit task.operation).acquire rule engine.clock with ⟨_ | _, breaker⟩ <;>
        exact circuit_setCircuit engine _ other breaker
    have affects : Move.Affects task.operation
        ⟨id, engine, .answered ⟨.acquirePermit rule, answer⟩ wait, after⟩ := ⟨replies, circuits⟩
    rcases acquired : (engine.circuit task.operation).acquire rule engine.clock with
      ⟨retryAfter | permit, breaker⟩ <;> rw [acquired] at replies keeps
    · cases replies
      exact ⟨task.permit, (keeps.tasks id).trans core, rfl, affects⟩
    · cases replies
      exact ⟨some permit, (keeps.tasks id).trans (core?_setPermit found _), rfl, affects⟩
  | recordSample rule failed =>
    obtain ⟨permit, held⟩ := Option.isSome_iff_exists.mp allowed
    obtain ⟨replies, retains⟩ := retains_recordSample engine id held rule failed
    have keeps := retains.keeps
    have same : engine.recordSample id task rule failed = (answer, after) :=
      Reply.eq_of_given answers
    rw [same] at replies keeps
    refine ⟨none, (keeps.tasks id).trans (core?_setPermit found _), rfl, task, permit, found, held,
      replies, fun other => ?_⟩
    exact (keeps.circuit other).trans (circuit_setCircuit engine _ other _)
  | dropPermit =>
    obtain ⟨permit, held⟩ := Option.isSome_iff_exists.mp allowed
    have same : engine.dropPermit id task = after := (Prod.ext_iff.mp answers).2
    refine ⟨none, ?_, rfl, fun other => ?_⟩
    · rw [← same, dropPermit_of_held held]
      exact core?_setPermit found none
    · rw [← same]
      exact dropPermit_undisturbed engine id task other
  | _ =>
    refine kept ?_ ?_
    · exact trivial
    · rfl

theorem offBreaker_of_unanswered {request : Request} {wait : Wait} {reply : Reply request.Answer}
    (replies : engine.answer id task request wait = (reply, after))
    (unanswered : ∀ answer, reply ≠ .now answer) : request.OffBreaker := by
  cases request with
  | acquirePermit rule => exact absurd (Prod.ext_iff.mp replies).1.symm (unanswered _)
  | recordSample rule failed => exact absurd (Prod.ext_iff.mp replies).1.symm (unanswered _)
  | dropPermit => exact absurd (Prod.ext_iff.mp replies).1.symm (unanswered ())
  | _ => exact trivial

end Engine

end Resilience
