import Resilience.Proofs.Engine.Thread
import Resilience.Proofs.Plan.Tale

/-!
Replies: what the answers of an engine go by. An attempt ends as its service says, unless the caller
or the clock ends it, and a fallback handler answers as it was registered when it was asked.
-/

namespace Resilience

open Move

namespace Breaker

/-- A breaker refuses for no longer than its delay, and otherwise becomes half-open at most. -/
theorem acquire_possible (breaker : Breaker) (rule : BreakerRule) (now : Nat) :
    Exchange.Possible
      ⟨.acquirePermit rule, (breaker.acquire rule now).1.map Permit.transition⟩ := by
  have acquired := acquisition breaker rule now
  generalize breaker.acquire rule now = result at acquired
  cases acquired with
  | closed => exact .inl rfl
  | early _ early =>
    show Duration.ofMillis _ ≤ rule.delay.toDuration
    rw [Duration.le_iff, Duration.ofMillis, Duration.nanos_ofNanos]
    unfold Duration.millis at early ⊢
    omega
  | late => exact .inr rfl
  | busy => exact Nat.zero_le _
  | idle => exact .inl rfl

theorem record_possible (breaker : Breaker) (permit : Permit) (rule : BreakerRule) (now : Nat)
    (failed : Bool) :
    Exchange.Possible
      ⟨.recordSample rule failed, (breaker.record permit rule now failed).1⟩ := by
  have recorded := recording breaker permit rule now failed
  generalize breaker.record permit rule now failed = result at recorded
  cases recorded <;> exact nofun

end Breaker

/-- The service of a body, which fails only by itself. -/
def Service.ofBody (unready? : Nat → Option Failure) (body : Nat → Behaviour Failure) :
    Service where
  unready?
  respond number := (body number).mapError .inner

inductive Service.Ends (service : Service) (number : Nat) (limit : Option Duration) :
    Outcome → Prop
  | givenUp : Ends service number limit (.error .cancelled)
  | late {elapsed bound : Duration} (limited : limit = some bound) :
      Ends service number limit (.error (.timeout elapsed bound))
  | unready {failure : Failure} (unready : service.unready? (number + 1) = some failure) :
      Ends service number limit (.error (.inner failure))
  | responded : Ends service number limit (service.respond number).result

def Request.Awaits (service : Service) (handles : String → Fault → Except Failure String → Prop) :
    Request → Wait → Prop
  | .attempt number .., .attempt rest .. => rest.result = (service.respond number).result
  | .handle name fault, .handler rest _ => handles name fault rest.result
  | _, _ => True

/-- Whether an answer goes by what a service, the handlers and a breaker say. -/
def Exchange.Genuine (service : Service) (handles : String → Fault → Except Failure String → Prop) :
    Exchange → Prop
  | ⟨.attempt number limit _, outcome⟩ => service.Ends number limit outcome
  | ⟨.handle name fault, some result⟩ => handles name fault result
  | exchange => exchange.Possible

theorem Exchange.Genuine.possible {unready? : Nat → Option Failure}
    {body : Nat → Behaviour Failure} {handles : String → Fault → Except Failure String → Prop}
    {exchange : Exchange} (genuine : exchange.Genuine (.ofBody unready? body) handles) :
    exchange.Possible := by
  rcases exchange with ⟨request, answer⟩
  cases request with
  | attempt number limit heedsCaller =>
    cases genuine with
    | givenUp => exact .inl rfl
    | late limited => exact .inr (.inr ⟨_, _, limited, rfl⟩)
    | unready => exact .inr (.inl ⟨_, rfl⟩)
    | responded =>
      show Exchange.Possible
        ⟨.attempt number limit heedsCaller, (body number).result.mapError .inner⟩
      cases (body number).result with
      | ok text => exact trivial
      | error failure => exact .inr (.inl ⟨failure, rfl⟩)
  | handle => exact trivial
  | _ => exact genuine

def Reply.Honest (service : Service) (handles : String → Fault → Except Failure String → Prop)
    (request : Request) : Reply request.Answer → Prop
  | .now answer => Exchange.Genuine service handles ⟨request, answer⟩
  | .later wait => request.Awaits service handles wait
  | .crash => True

namespace Engine

variable {α : Type} {engine : Engine α} {id : TaskId} {task : Task α} {service : Service}
  {handles : String → Fault → Except Failure String → Prop}

theorem proceed_honest {number : Nat} {limit : Option Duration} {heedsCaller : Bool}
    {rest : Behaviour Fault} (serves : rest.result = (service.respond number).result)
    (timer : Option Timer) (started : Nat) (deadline : Option Timer) :
    Reply.Honest service handles (.attempt number limit heedsCaller)
      (engine.proceed id limit rest timer started deadline).1 := by
  unfold proceed
  generalize engine.act id rest.actions timer = acts
  rcases acts with ⟨halt, after⟩
  cases halt with
  | finished =>
    show service.Ends number limit rest.result
    rw [serves]
    exact .responded
  | crashed => exact trivial
  | waiting actions timer =>
    cases limit with
    | none => exact serves
    | some bound =>
      simp only
      split
      · exact .late rfl
      · exact serves

theorem attempt_honest {number : Nat} {limit : Option Duration} {heedsCaller : Bool} {wait : Wait}
    (serves : task.service = service)
    (awaits : (Request.attempt number limit heedsCaller).Awaits service handles wait) :
    Reply.Honest service handles (.attempt number limit heedsCaller)
      (engine.attempt id task number limit heedsCaller wait).1 := by
  unfold attempt
  split
  · exact awaits
  · split
    · exact .givenUp
    · split
      · exact proceed_honest awaits _ _ _
      · rw [serves]
        split
        next failure unready => exact .unready unready
        next => exact proceed_honest rfl _ _ _

theorem proceedHandler_honest {name : String} {fault : Fault} {rest : Behaviour Failure}
    (answers : handles name fault rest.result) (timer : Option Timer) :
    Reply.Honest service handles (.handle name fault)
      (engine.proceedHandler id rest timer).1 := by
  unfold proceedHandler
  generalize engine.act id rest.actions timer = acts
  rcases acts with ⟨halt, after⟩
  cases halt with
  | finished => exact answers
  | crashed => exact trivial
  | waiting actions timer => exact answers

theorem handle_honest {name : String} {fault : Fault} {wait : Wait}
    (registered : ∀ respond, engine.handlers.text? name = some respond →
      handles name fault (respond task.input fault).result)
    (awaits : (Request.handle name fault).Awaits service handles wait) :
    Reply.Honest service handles (.handle name fault)
      (engine.handle id task name fault wait).1 := by
  unfold handle
  split
  · exact proceedHandler_honest awaits _
  · split
    next respond found => exact proceedHandler_honest (registered respond found) none
    next => exact trivial

theorem answer_honest (request : Request) (wait : Wait) (serves : task.service = service)
    (registered : ∀ name fault respond, engine.handlers.text? name = some respond →
      handles name fault (respond task.input fault).result)
    (awaits : request.Awaits service handles wait) :
    Reply.Honest service handles request (engine.answer id task request wait).1 := by
  have idle {request : Request} {reply : Reply request.Answer} (uncalling : reply.Uncalling)
      (genuine : ∀ answer, Exchange.Genuine service handles ⟨request, answer⟩)
      (waits : ∀ wait, request.Awaits service handles wait) :
      Reply.Honest service handles request reply := by
    cases uncalling with
    | now answer => exact genuine answer
    | later => exact waits _
  cases request with
  | attempt number limit heedsCaller => exact attempt_honest serves awaits
  | handle name fault => exact handle_honest (registered name fault) awaits
  | acquirePermit rule =>
    show Exchange.Possible ⟨.acquirePermit rule, (engine.acquirePermit id task rule).1⟩
    rw [acquirePermit_eq]
    exact Breaker.acquire_possible _ rule engine.clock
  | recordSample rule failed =>
    show Exchange.Possible ⟨.recordSample rule failed, (engine.recordSample id task rule failed).1⟩
    cases held : task.permit with
    | none =>
      unfold recordSample
      rw [held]
      exact nofun
    | some permit =>
      rw [(retains_recordSample engine id held rule failed).1]
      exact Breaker.record_possible _ permit rule engine.clock failed
  | emit event => exact idle (send_uncalling engine id _ wait) (fun _ => trivial) fun _ => trivial
  | awaitSlot => exact idle (awaitSlot_uncalling engine id task) (fun _ => trivial) fun _ => trivial
  | pause delay =>
    exact idle (pause_uncalling engine id task delay wait) (fun _ => trivial) fun _ => trivial
  | _ => exact trivial

end Engine

section Handles

variable {service : Service} {handles wider : String → Fault → Except Failure String → Prop}

theorem Request.Awaits.mono {request : Request} {wait : Wait}
    (awaits : request.Awaits service handles wait)
    (widens : ∀ name fault result, handles name fault result → wider name fault result) :
    request.Awaits service wider wait := by
  cases request with
  | attempt => cases wait <;> exact awaits
  | handle name fault =>
    cases wait with
    | handler rest timer => exact widens name fault rest.result awaits
    | _ => exact trivial
  | _ => exact trivial

theorem Exchange.Genuine.mono {exchange : Exchange} (genuine : exchange.Genuine service handles)
    (widens : ∀ name fault result, handles name fault result → wider name fault result) :
    exchange.Genuine service wider := by
  rcases exchange with ⟨request, answer⟩
  cases request with
  | handle name fault =>
    cases answer with
    | none => exact trivial
    | some result => exact widens name fault result genuine
  | _ => exact genuine

theorem Request.awaits_unbegun (request : Request) : request.Awaits service handles .unbegun := by
  cases request <;> exact trivial

end Handles

variable {α : Type}

/-- Whether a fallback handler that was registered when one of these moves was made answers so. -/
def Handled (input : String) (mine : List (Move α)) (name : String) (fault : Fault)
    (result : Except Failure String) : Prop :=
  ∃ move ∈ mine, ∃ respond, move.before.handlers.text? name = some respond ∧
    (respond input fault).result = result

theorem Handled.later {input : String} {mine : List (Move α)} {name : String} {fault : Fault}
    {result : Except Failure String} (handled : Handled input mine name fault result)
    (more : List (Move α)) : Handled input (mine ++ more) name fault result := by
  obtain ⟨move, member, registered⟩ := handled
  exact ⟨move, List.mem_append_left more member, registered⟩

def Move.Serves (input : String) (service : Service) (move : Move α) : Prop :=
  ∀ task, move.before.tasks.get? move.id = some task →
    task.input = input ∧ task.service = service

theorem Thread.genuine {actor : Actor} {first point : Point α} {mine : List (Move α)}
    {input : String} {service : Service} (thread : Thread actor first mine point)
    (unbegun : first.wait = .unbegun) (serves : ∀ move ∈ mine, move.Serves input service) :
    (∀ exchange ∈ history mine, exchange.Genuine service (Handled input mine)) ∧
      ∀ request next, point.plan = .ask request next →
        request.Awaits service (Handled input mine) point.wait := by
  induction thread with
  | refl =>
    refine ⟨fun _ none => absurd none List.not_mem_nil, fun request _ _ => ?_⟩
    rw [unbegun]
    exact request.awaits_unbegun
  | @look mine move _ _ _ look inductionHypothesis =>
    obtain ⟨earlier, last⟩ := List.forall_mem_append.mp serves
    obtain ⟨genuine, awaits⟩ := inductionHypothesis earlier
    have widens (name : String) (fault : Fault) (result : Except Failure String)
        (handled : Handled input mine name fault result) :
        Handled input (mine ++ [move]) name fault result := handled.later [move]
    have genuine : ∀ exchange ∈ history mine,
        exchange.Genuine service (Handled input (mine ++ [move])) :=
      fun exchange member => (genuine exchange member).mono widens
    have serves := List.forall_mem_singleton.mp last
    have registered {task : Task α} (found : move.before.tasks.get? move.id = some task)
        (name : String) (fault : Fault) (respond : String → Fault → Behaviour Failure)
        (named : move.before.handlers.text? name = some respond) :
        Handled input (mine ++ [move]) name fault (respond task.input fault).result := by
      rw [(serves task found).1]
      exact ⟨move, List.mem_append_right mine (.head _), respond, named, rfl⟩
    have honest {task : Task α} {request : Request} {wait : Wait}
        (found : move.before.tasks.get? move.id = some task)
        (awaits : request.Awaits service (Handled input mine) wait) :
        Reply.Honest service (Handled input (mine ++ [move])) request
          (move.before.answer move.id task request wait).1 :=
      Engine.answer_honest request wait (serves task found).2 (registered found)
        (awaits.mono widens)
    cases look with
    | @answered engine after task request next wait answer permit later holds answers =>
      have honest := honest holds.found (awaits request next rfl)
      rw [answers] at honest
      refine ⟨?_, fun request _ _ => request.awaits_unbegun⟩
      rw [history_append]
      exact List.forall_mem_append.mpr ⟨genuine, List.forall_mem_singleton.mpr honest⟩
    | @waited engine after task request next wait later permit holds waits =>
      have honest := honest holds.found (awaits request next rfl)
      rw [waits] at honest
      refine ⟨?_, fun other _ same => ?_⟩
      · rw [history_append_of_silent rfl]
        exact genuine
      · cases same
        exact honest

end Resilience
