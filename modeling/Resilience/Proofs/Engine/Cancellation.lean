import Resilience.Proofs.Engine.Leaks
import Resilience.Proofs.Engine.Sampling
import Resilience.Proofs.Engine.Thread
import Resilience.Proofs.Engine.Turn
import Resilience.Proofs.Invocation.Cancellation

/-!
Cancellation: a caller who gives up stops an invocation for good. No call of it begins after that,
and if it was waiting for what the caller gave up, then it ends as cancelled, gives its permit back
without a sample, and asks no fallback.
-/

namespace Resilience

open Move

def Deed.request? {α : Type} : Deed α → Option Request
  | .answered exchange _ => some exchange.request
  | .waited request _ | .crashed request _ => some request
  | .finished _ | .aborted => none

namespace Engine

variable {α : Type} {engine : Engine α} {id : TaskId} {task : Task α}

/-- Whether a reply to a request tells who gave up so, or puts it off because the stint is used
up. -/
def Heeds (engine : Engine α) (request : Request) (reply : Reply request.Answer) : Prop :=
  (∃ answer, reply = .now answer ∧ Exchange.givesUp ⟨request, answer⟩ = true) ∨
    engine.isSpent = true ∧ ∃ later, reply = .later later

theorem awaitSlot_heeds (cancelled : task.cancelled = true) (engine : Engine α) (id : TaskId) :
    engine.Heeds .awaitSlot (engine.awaitSlot id task).1 := by
  unfold awaitSlot
  split
  next spent => exact .inr ⟨spent, _, rfl⟩
  next =>
    refine .inl ⟨false, ?_, rfl⟩
    split
    · split
      · rfl
      next bulkhead _ =>
        have leaves (ticket : Nat) : (bulkhead.poll ticket task.cancelled).1 = .cancelled := by
          unfold Bulkhead.poll
          rw [if_pos cancelled]
        simp only [leaves]
    · rfl
    · rfl

/-- A pause heeds its caller whenever it goes on, in whatever sleep. -/
theorem proceedPause_heeds (cancelled : task.cancelled = true) {engine asking : Engine α}
    (same : asking.isSpent = engine.isSpent) (id : TaskId) (delay : Duration)
    (timer : Option Timer) :
    engine.Heeds (.pause delay) (asking.proceedPause id task delay timer).1 := by
  unfold proceedPause
  rw [same, cancelled]
  split
  next spent => exact .inr ⟨spent, _, rfl⟩
  next => exact .inl ⟨false, rfl, rfl⟩

theorem pause_heeds (cancelled : task.cancelled = true) (engine : Engine α) (id : TaskId)
    (delay : Duration) (wait : Wait) :
    engine.Heeds (.pause delay) (engine.pause id task delay wait).1 := by
  unfold pause
  split
  · exact proceedPause_heeds cancelled rfl id delay _
  · refine proceedPause_heeds cancelled ?_ id delay none
    cases engine.sleeper <;> rfl

theorem attempt_heeds (cancelled : task.cancelled = true) (engine : Engine α) (id : TaskId)
    (number : Nat) (limit : Option Duration) (wait : Wait) :
    engine.Heeds (.attempt number limit true)
      (engine.attempt id task number limit true wait).1 := by
  unfold attempt
  split
  next spent => exact .inr ⟨spent, _, rfl⟩
  next =>
    rw [if_pos (by exact cancelled)]
    exact .inl ⟨.error .cancelled, rfl, rfl⟩

/-- Whoever gave up is told so, unless the stint is used up. -/
theorem answer_heeds (cancelled : task.cancelled = true) {request : Request}
    (heeds : request.heedsCaller = true) (engine : Engine α) (id : TaskId) (wait : Wait) :
    engine.Heeds request (engine.answer id task request wait).1 := by
  cases request with
  | awaitSlot => exact awaitSlot_heeds cancelled engine id
  | pause delay => exact pause_heeds cancelled engine id delay wait
  | attempt number limit heedsCaller =>
    cases heeds
    exact attempt_heeds cancelled engine id number limit wait
  | _ => cases heeds

/-- Only what is called can end a task without a result. -/
theorem answer_ne_crash {request : Request} (calls : ¬request.Calls) (engine : Engine α)
    (id : TaskId) (task : Task α) (wait : Wait) :
    (engine.answer id task request wait).1 ≠ .crash := by
  cases request with
  | emit event => exact (send_uncalling engine id _ wait).ne_crash
  | awaitSlot => exact (awaitSlot_uncalling engine id task).ne_crash
  | pause delay => exact (pause_uncalling engine id task delay wait).ne_crash
  | attempt => exact absurd trivial calls
  | handle => exact absurd trivial calls
  | _ => exact nofun

theorem starts?_of_cancelled (cancelled : task.cancelled = true) {request : Request}
    (heeds : ∀ number limit heedsCaller, request = .attempt number limit heedsCaller →
      heedsCaller = true) (engine : Engine α) (wait : Wait) :
    engine.starts? task request wait = none := by
  cases request with
  | attempt number limit heedsCaller =>
    cases heeds _ _ _ rfl
    rw [starts?_attempt, cancelled]
    simp
  | _ => rfl

end Engine

variable {actor : Actor} {first point : Point Outcome} {mine : List (Move Outcome)}
  {past : List Exchange} {service : Service}

theorem asks_allowed {request : Request} {next : request.Answer → Plan Outcome}
    (leads : (service.plan actor.operation).Leads past (.ask request next)) :
    parting.allows (parting.after .unresolved past) request :=
  ((Invocation.service_parting service actor.operation).leads leads).2.1

theorem Look.heeds {move : Move Outcome} {next : Point Outcome} (look : Look actor point move next)
    (fired : actor.fired = true) :
    ∀ exchange, move.exchange? = some exchange → exchange.request.heedsCaller = true →
      exchange.givesUp = true := by
  intro exchange told heeds
  cases look with
  | @answered engine after task request next wait answer _ _ holds answers _ _ =>
    cases told
    rcases Engine.answer_heeds (holds.cancelled fired) heeds engine actor.id wait with
      ⟨given, now, gaveUp⟩ | ⟨-, later, waits⟩
    · rw [answers] at now
      cases now
      exact gaveUp
    · rw [answers] at waits
      cases waits
  | waited => cases told

/-- Whoever gave up is told so wherever it waits. -/
theorem Thread.heeds (thread : Thread actor first mine point) (fired : actor.fired = true) :
    ∀ exchange ∈ history mine, exchange.request.heedsCaller = true →
      exchange.givesUp = true := by
  induction thread with
  | refl => exact fun exchange none => absurd none List.not_mem_nil
  | look _ look inductionHypothesis =>
    intro exchange member
    rw [history_append] at member
    rcases List.mem_append.mp member with earlier | last
    · exact inductionHypothesis exchange earlier
    · exact look.heeds fired exchange (Option.mem_toList.mp last)

theorem uncalled_of_holds {engine : Engine Outcome} {task : Task Outcome} {request : Request}
    {next : request.Answer → Plan Outcome} {wait : Wait} {permit : Option Permit}
    (holds : actor.Holds engine task permit) (fired : actor.fired = true)
    (leads : (service.plan actor.operation).Leads past (.ask request next)) :
    engine.starts? task request wait = none := by
  refine Engine.starts?_of_cancelled (holds.cancelled fired) ?_ engine wait
  rintro number limit heedsCaller rfl
  exact parting_allows_attempt (asks_allowed leads)

/-- No call begins once the caller gave up. -/
theorem Thread.uncalled (thread : Thread actor first mine point) (fired : actor.fired = true)
    (leads : (service.plan actor.operation).Leads past first.plan) : calls mine = [] := by
  induction thread with
  | refl => rfl
  | look thread look inductionHypothesis =>
    rw [calls_append, inductionHypothesis, List.nil_append]
    have reached := leads.trans thread.leads
    cases look with
    | answered holds =>
      rw [call?_of_found holds.found (.inl ⟨_, rfl⟩), uncalled_of_holds holds fired reached]
      rfl
    | waited holds =>
      rw [call?_of_found holds.found (.inr (.inl rfl)), uncalled_of_holds holds fired reached]
      rfl

theorem Ending.uncalled {move : Move Outcome} (ending : Ending actor point move)
    (fired : actor.fired = true) (leads : (service.plan actor.operation).Leads past point.plan) :
    move.call? = none := by
  cases ending with
  | crashed holds =>
    rw [call?_of_found holds.found (.inr (.inr rfl))]
    exact uncalled_of_holds holds fired leads
  | finished => exact call?_eq_none (.inr ⟨_, rfl⟩)
  | aborted => exact call?_eq_none (.inl rfl)

section Leaving

variable {request : Request} {next : request.Answer → Plan Outcome} {wait : Wait}
  {permit : Option Permit}

theorem Thread.leaves (thread : Thread actor ⟨.ask request next, wait, permit⟩ mine point)
    (fired : actor.fired = true) (heeds : request.heedsCaller = true)
    (leads : (service.plan actor.operation).Leads past (.ask request next)) :
    history mine = [] ∧ point.plan = .ask request next ∨
      ∃ answer tail, history mine = ⟨request, answer⟩ :: tail ∧ parting.Accepts .leaving tail ∧
        parting.after .unresolved (past ++ history mine) = parting.after .leaving tail := by
  have through := thread.leads
  rcases Plan.leads_ask through with ⟨none, same⟩ | ⟨answer, tail, path, follows⟩
  · exact .inl ⟨none, same⟩
  obtain ⟨single, underway⟩ := parting_allows_wait (asks_allowed leads) heeds
  have gaveUp : Exchange.givesUp ⟨request, answer⟩ = true := by
    refine thread.heeds fired ⟨request, answer⟩ ?_ heeds
    rw [path]
    exact .head _
  have accepts := ((Invocation.service_parting service actor.operation).leads
    (leads.trans through)).1.later
  rw [path, underway] at accepts
  have left := parting_next_gaveUp gaveUp single
  refine .inr ⟨answer, tail, path, left ▸ accepts.2, ?_⟩
  rw [Monitor.after_append, underway, path, Monitor.after_cons, left]

theorem concludes_of_heeds (heeds : request.heedsCaller = true) : request.concludes = false := by
  cases request <;> first | rfl | cases heeds

theorem Thread.records (thread : Thread actor ⟨.ask request next, wait, permit⟩ mine point)
    (fired : actor.fired = true) (heeds : request.heedsCaller = true)
    (leads : (service.plan actor.operation).Leads past (.ask request next)) :
    (∃ duration, conclusions (past ++ history mine) <+: farewell duration) ∧
      ∀ result, point.plan = .done result → result = .error .cancelled ∧
        ∃ duration, conclusions (past ++ history mine) = farewell duration := by
  obtain ⟨single, underway⟩ := parting_allows_wait (asks_allowed leads) heeds
  have before := unrecorded
    ((Invocation.service_parting service actor.operation).leads leads).1
  rw [underway] at before
  have silent : conclusions past = [] := before.1
  rcases thread.leaves fired heeds leads with ⟨none, same⟩ | ⟨answer, tail, path, accepts, state⟩
  · rw [none, List.append_nil, silent]
    refine ⟨⟨.ofMillis 0, List.nil_prefix⟩, fun result ended => ?_⟩
    cases same.symm.trans ended
  · have only : conclusions (past ++ history mine) = conclusions tail := by
      rw [path, conclusions_append, silent, List.nil_append]
      unfold conclusions
      rw [List.filter_cons_of_neg]
      rw [concludes_of_heeds heeds]
      exact Bool.false_ne_true
    have recorded := Resilience.recorded accepts
    rw [only]
    refine ⟨recorded.begins, fun result ended => ?_⟩
    have ends := ((Invocation.service_parting service actor.operation).leads
      (leads.trans thread.leads)).2
    rw [ended, state] at ends
    rcases ends with same | same | ⟨same, gaveUp⟩
    · rw [same] at recorded
      exact recorded.elim
    · rw [same] at recorded
      exact recorded.elim
    · rw [same] at recorded
      exact ⟨gaveUp, recorded⟩

/-- An invocation whose caller gave up waits for nothing that could fail to give an answer, but for
what its caller gave up on. -/
theorem Thread.asks_left (thread : Thread actor ⟨.ask request next, wait, permit⟩ mine point)
    (fired : actor.fired = true) (heeds : request.heedsCaller = true)
    (leads : (service.plan actor.operation).Leads past (.ask request next)) {asked : Request}
    {remaining : asked.Answer → Plan Outcome} (asks : point.plan = .ask asked remaining) :
    asked.heedsCaller = true ∨ ¬asked.Calls := by
  rcases thread.leaves fired heeds leads with ⟨-, same⟩ | ⟨answer, tail, path, accepts, state⟩
  · cases asks.symm.trans same
    exact .inl heeds
  · have allowed := asks_allowed (asks ▸ leads.trans thread.leads)
    rw [state] at allowed
    rcases parting_allows_left (Resilience.recorded accepts) allowed with rfl | ⟨-, uncalled⟩
    · exact .inr not_false
    · exact .inr uncalled

theorem Thread.unbroken (thread : Thread actor ⟨.ask request next, wait, permit⟩ mine point)
    (fired : actor.fired = true) (heeds : request.heedsCaller = true)
    (leads : (service.plan actor.operation).Leads past (.ask request next)) {move : Move Outcome}
    (ending : Ending actor point move) : move.deed.request? = none := by
  cases ending with
  | @crashed engine after _ task asked _ wait _ holds crashes =>
    exfalso
    rcases thread.asks_left fired heeds leads rfl with heeds | uncalled
    · rcases Engine.answer_heeds (holds.cancelled fired) heeds engine actor.id wait with
        ⟨given, now, -⟩ | ⟨-, later, waits⟩
      · rw [crashes] at now
        cases now
      · rw [crashes] at waits
        cases waits
    · have never := Engine.answer_ne_crash uncalled engine actor.id task wait
      rw [crashes] at never
      exact never rfl
  | finished => rfl
  | aborted => rfl

end Leaving

/-- Whether a move gives a permit back to the breaker of an operation, without an outcome. -/
def Move.Drops {α : Type} (operation : OperationId) (permit : Permit) (move : Move α) : Prop :=
  (∃ wait, move.deed = .answered ⟨.dropPermit, ()⟩ wait) ∧ ∀ other, move.after.circuit other =
    if operation = other then (move.before.circuit operation).drop permit
    else move.before.circuit other

/-- Who gives back the permit of a probe lets the next one in. -/
theorem Move.Drops.freed {α : Type} {operation : OperationId} {permit : Permit} {move : Move α}
    (drops : move.Drops operation permit) (probe : permit.probe = true)
    (current : (move.before.circuit operation).generation = permit.generation) :
    (move.after.circuit operation).probing = false := by
  rw [drops.2 operation, if_pos rfl]
  unfold Breaker.drop
  rw [probe, current, Bool.true_and, if_pos (beq_self_eq_true permit.generation)]

theorem Thread.drops {held : Permit} (thread : Thread actor first mine point)
    (holds : first.permit = some held)
    (only : ∀ exchange ∈ history mine,
      exchange.request = .dropPermit ∨ exchange.request.OffBreaker) :
    point.permit = some held ∨ ∃ move ∈ mine, move.Drops actor.operation held := by
  induction thread with
  | refl => exact .inl holds
  | look _ look inductionHypothesis =>
    cases look with
    | @answered engine after task request next wait answer permit later has answers kept _ =>
      rw [history_append] at only
      obtain ⟨earlier, last⟩ := List.forall_mem_append.mp only
      rcases inductionHypothesis earlier with still | ⟨move, member, drops⟩
      · rcases last _ (List.mem_singleton.mpr rfl) with dropped | off
        · cases show request = .dropPermit from dropped
          have same : engine.dropPermit actor.id task = after := (Prod.ext_iff.mp answers).2
          refine .inr ⟨_, List.mem_append_right _ (List.mem_singleton.mpr rfl), ⟨wait, rfl⟩,
            fun other => ?_⟩
          rw [← same, Engine.dropPermit_of_held (has.permit.trans still), has.operation]
          exact Engine.circuit_setCircuit engine _ other _
        · exact .inl ((kept off).trans still)
      · exact .inr ⟨move, List.mem_append_left _ member, drops⟩
    | waited =>
      rw [history_append_of_silent rfl] at only
      rcases inductionHypothesis only with still | ⟨move, member, drops⟩
      · exact .inl still
      · exact .inr ⟨move, List.mem_append_left _ member, drops⟩

namespace Engine

variable {engine : Engine Outcome} {id : TaskId} {task : Task Outcome}

/-- Whether a task ended as cancelled, or has only its sink to wait for, which holds it up. -/
def Exits (engine : Engine Outcome) (stallOn : Option String) (id : TaskId) : Prop :=
  ∃ task, engine.tasks.get? id = some task ∧ (task.progress = .finished (.error .cancelled) ∨
    stallOn ≠ none ∧ ∃ rest, task.progress = .suspended rest .delivery)

theorem Exits.touches {after : Engine Outcome} {stallOn : Option String}
    (exits : engine.Exits stallOn id) (touches : engine.Touches after) :
    after.Exits stallOn id := by
  obtain ⟨task, found, stands⟩ := exits
  have lasts := touches.tasks id
  rw [found] at lasts
  generalize present : after.tasks.get? id = new at lasts
  cases lasts with
  | some lasts => exact ⟨_, present, lasts.progress ▸ stands⟩

section Turn

variable {service : Service} {operation : OperationId} {past : List Exchange} {request : Request}
  {next : request.Answer → Plan Outcome} {wait : Wait}

end Turn

/-- An engine that knows one operation, with a breaker that is open for long enough. -/
def tripped : Engine Outcome :=
  knowing "pay" { breaker := some {} } { state := .open, generation := 1 } ⟨5000⟩

end Engine

end Resilience
