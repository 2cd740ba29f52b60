import Resilience.Proofs.Breaker.Probe
import Resilience.Proofs.Engine.Effect
import Resilience.Proofs.Invocation.Admission

/-!
Custody: every taken slot, every live ticket and every probe on its way belongs to a task of the
operation, which holds it. Whatever is asked for in order keeps this, and so do the ends of tasks,
which give back all that they hold.
-/

namespace Resilience

/-- How the holder of a place stands with the bulkhead. -/
def Standing.ofPlace : Option Place → Standing
  | none => outside
  | some (.ticket ..) => queued
  | some (.slot _) => inside

theorem Standing.ofPlace_place? (index : Nat) (admission : Admission) :
    ofPlace (admission.place? index) = admission.standing := by
  cases admission <;> rfl

theorem Standing.ofPlace_eq_outside {place : Option Place} (outside : ofPlace place = .outside) :
    place = none := by
  rcases place with _ | place | place
  · rfl
  · cases outside
  · cases outside

theorem Standing.ofPlace_eq_queued {place : Option Place} (queued : ofPlace place = .queued) :
    ∃ index ticket, place = some (.ticket index ticket) := by
  rcases place with _ | index | ⟨index, ticket⟩
  · cases queued
  · cases queued
  · exact ⟨index, ticket, rfl⟩

namespace Engine

variable {α : Type}

def heldIn {β : Type} (engine : Engine α) (part : Holding α → Option β) (operation : OperationId)
    (id : TaskId) : Option β :=
  (engine.holding? id).bind fun holding =>
    if holding.operation = operation then part holding else none

/-- Whether all that is taken of bulkheads and breakers is held by tasks. -/
structure Custody (engine : Engine α) : Prop where
  occupied : ∀ operation,
    Bulkhead.Occupied (engine.hall operation) (engine.heldIn Holding.place operation)
  probed : ∀ operation,
    (engine.circuit operation).Probed (engine.heldIn Holding.permit operation)

section HeldIn

variable {β : Type} {engine before after : Engine α} {part : Holding α → Option β} {id : TaskId}
  {operation : OperationId} {holding : Holding α}

theorem heldIn_of_holding (found : engine.holding? id = some holding) :
    engine.heldIn part holding.operation id = part holding := by
  unfold heldIn
  rw [found, Option.bind_some, if_pos rfl]

theorem heldIn_eq_some {held : β} :
    engine.heldIn part operation id = some held ↔ ∃ holding, engine.holding? id = some holding ∧
      holding.operation = operation ∧ part holding = some held := by
  unfold heldIn
  rw [Option.bind_eq_some_iff]
  refine exists_congr fun holding => and_congr_right fun _ => ?_
  split
  next same => exact (and_iff_right same).symm
  next differs => exact iff_of_false nofun fun both => differs both.1

theorem heldIn_eq_none (free : ∀ holding, engine.holding? id = some holding →
    holding.operation = operation → part holding = none) :
    engine.heldIn part operation id = none := by
  apply Option.eq_none_iff_forall_ne_some.mpr
  intro held same
  obtain ⟨holding, found, there, holds⟩ := heldIn_eq_some.mp same
  cases holds.symm.trans (free holding found there)

theorem heldIn_setProgress
    (blind : ∀ (holding : Holding α) (progress : Progress α),
      part { holding with progress } = part holding) (progress : Progress α) :
    (engine.setProgress id progress).heldIn part operation = engine.heldIn part operation := by
  funext other
  unfold heldIn
  rw [holding?_setProgress]
  split
  · cases engine.holding? other with
    | none => rfl
    | some holding => simp only [Option.map_some, Option.bind_some, blind]
  · rfl

/-- A task that comes or goes with nothing in its hands does not matter. -/
theorem heldIn_of_free (others : ∀ other, other ≠ id → after.holding? other = before.holding? other)
    (was : ∀ holding, before.holding? id = some holding → part holding = none)
    (is : ∀ holding, after.holding? id = some holding → part holding = none) :
    after.heldIn part operation = before.heldIn part operation := by
  funext other
  by_cases same : other = id
  · rw [same, heldIn_eq_none fun holding found _ => was holding found,
      heldIn_eq_none fun holding found _ => is holding found]
  · unfold heldIn
    rw [others other same]

/-- A change of one task changes what the tasks of its operation hold in one place. -/
theorem heldIn_of_amended {next : Holding α} (isolates : Isolates id before after)
    (was : before.holding? id = some holding) (is : after.holding? id = some next)
    (same : next.operation = holding.operation) (other : OperationId) :
    after.heldIn part other =
      if holding.operation = other then
        Function.update (before.heldIn part other) id (part next)
      else before.heldIn part other := by
  funext task
  by_cases mine : task = id
  · subst mine
    split
    next here =>
      rw [Function.update_self, ← here, ← same]
      exact heldIn_of_holding is
    next elsewhere =>
      unfold heldIn
      rw [was, is, Option.bind_some, Option.bind_some, same, if_neg elsewhere, if_neg elsewhere]
  · have kept : after.heldIn part other task = before.heldIn part other task := by
      unfold heldIn
      rw [isolates.tasks task mine]
    rw [kept]
    split
    · rw [Function.update_of_ne mine]
    · rfl

end HeldIn

variable {engine before after : Engine α} {id : TaskId} {operation : OperationId}
  {holding : Holding α} {task : Task α}

theorem retains_of_unanswered {request : Request} {wait : Wait} {reply : Reply request.Answer}
    (replies : engine.answer id task request wait = (reply, after))
    (unanswered : ∀ answer, reply ≠ .now answer) : engine.Retains after := by
  have offBreaker := offBreaker_of_unanswered replies unanswered
  have kept (offBulkhead : request.OffBulkhead) : engine.Retains after := by
    have retains := answer_retains engine id task offBreaker offBulkhead wait
    rwa [replies] at retains
  cases request with
  | enterBulkhead policy => exact absurd (Prod.ext_iff.mp replies).1.symm (unanswered _)
  | leaveBulkhead => exact absurd (Prod.ext_iff.mp replies).1.symm (unanswered ())
  | awaitSlot =>
    have awaits : Awaiting engine id task (reply, after) := replies ▸ awaiting engine id task
    cases awaits with
    | remains retains => exact retains
    | absent => exact absurd rfl (unanswered _)
    | granted => exact absurd rfl (unanswered _)
    | cancelled => exact absurd rfl (unanswered _)
  | _ =>
    apply kept
    exact trivial

theorem reset_cases (engine : Engine α) (operation : OperationId) :
    (engine.reset operation).2 = engine ∨
      Retains (engine.setCircuit operation (engine.circuit operation).reset)
        (engine.reset operation).2 := by
  unfold Engine.reset
  split
  · exact .inl rfl
  split
  · exact .inl rfl
  next state found =>
    have same : engine.stateOf operation = state := by
      unfold stateOf
      rw [found]
      rfl
    refine .inr ?_
    unfold setCircuit circuit
    rw [same]
    exact ((Touches.refl _).write _).retains

namespace Custody

theorem start (engine : Engine α) : Custody { engine with tasks := {}, operations := {} } where
  occupied _ := .start fun _ => rfl
  probed _ := .start rfl fun _ => rfl

theorem congr (custody : before.Custody) (halls : ∀ operation, after.hall operation =
    before.hall operation) (circuits : ∀ operation, after.circuit operation =
    before.circuit operation)
    (places : ∀ operation, after.heldIn Holding.place operation =
      before.heldIn Holding.place operation)
    (permits : ∀ operation, after.heldIn Holding.permit operation =
      before.heldIn Holding.permit operation) : after.Custody where
  occupied operation := by
    rw [halls, places]
    exact custody.occupied operation
  probed operation := by
    rw [circuits, permits]
    exact custody.probed operation

theorem retains (custody : before.Custody) (retains : before.Retains after) : after.Custody := by
  have same {β : Type} (part : Holding α → Option β) (operation : OperationId) :
      after.heldIn part operation = before.heldIn part operation := by
    funext id
    unfold heldIn
    rw [retains.tasks]
  exact custody.congr retains.hall retains.circuit (same _) (same _)

theorem setProgress (custody : engine.Custody) (id : TaskId) (progress : Progress α) :
    (engine.setProgress id progress).Custody :=
  custody.congr (fun _ => rfl) (fun _ => rfl) (fun _ => heldIn_setProgress (fun _ _ => rfl) _)
    fun _ => heldIn_setProgress (fun _ _ => rfl) _

/-- A change of what one task holds, and of the bulkheads and the breaker of its operation. -/
theorem amend {next : Holding α} (custody : before.Custody) (isolates : Isolates id before after)
    (was : before.holding? id = some holding) (is : after.holding? id = some next)
    (same : next.operation = holding.operation)
    (halls : ∀ other, holding.operation ≠ other → after.hall other = before.hall other)
    (circuits : ∀ other, holding.operation ≠ other → after.circuit other = before.circuit other)
    (occupied : Bulkhead.Occupied (after.hall holding.operation)
      (Function.update (before.heldIn Holding.place holding.operation) id next.place))
    (probed : (after.circuit holding.operation).Probed
      (Function.update (before.heldIn Holding.permit holding.operation) id next.permit)) :
    after.Custody where
  occupied other := by
    rw [heldIn_of_amended isolates was is same]
    split
    next here => exact here ▸ occupied
    next elsewhere => exact halls other elsewhere ▸ custody.occupied other
  probed other := by
    rw [heldIn_of_amended isolates was is same]
    split
    next here => exact here ▸ probed
    next elsewhere => exact circuits other elsewhere ▸ custody.probed other

theorem setCircuit (custody : engine.Custody) {breaker : Breaker}
    (probed : breaker.Probed (engine.heldIn Holding.permit operation)) :
    (engine.setCircuit operation breaker).Custody where
  occupied other := by
    rw [hall_setCircuit]
    exact custody.occupied other
  probed other := by
    rw [circuit_setCircuit]
    split
    next same => exact same ▸ probed
    next => exact custody.probed other

theorem setHall_setPlace (custody : engine.Custody) (found : engine.holding? id = some holding)
    {bulkheads : List Bulkhead} {place : Option Place}
    (occupied : Bulkhead.Occupied bulkheads
      (Function.update (engine.heldIn Holding.place holding.operation) id place)) :
    ((engine.setHall holding.operation bulkheads).setPlace id place).Custody ∧
      ((engine.setHall holding.operation bulkheads).setPlace id place).holding? id =
        some { holding with place } := by
  have placed : ((engine.setHall holding.operation bulkheads).setPlace id place).holding? id =
      some { holding with place } := by
    rw [holding?_setPlace, if_pos rfl]
    exact congrArg _ found
  refine ⟨custody.amend (.setHall_setPlace engine id _ _ _) found placed rfl
    (fun other differs => ?_) (fun other _ => ?_) ?_ ?_, placed⟩
  · exact (hall_setHall engine _ other bulkheads).trans (if_neg differs)
  · exact circuit_setHall engine _ other bulkheads
  · have hall : ((engine.setHall holding.operation bulkheads).setPlace id place).hall
        holding.operation = bulkheads :=
      (hall_setHall engine _ _ bulkheads).trans (if_pos rfl)
    rw [hall]
    exact occupied
  · have circuit : ((engine.setHall holding.operation bulkheads).setPlace id place).circuit
        holding.operation = engine.circuit holding.operation :=
      circuit_setHall engine _ _ bulkheads
    have same : engine.heldIn Holding.permit holding.operation id = holding.permit :=
      heldIn_of_holding found
    rw [circuit, ← same, Function.update_eq_self]
    exact custody.probed holding.operation

theorem setCircuit_setPermit (custody : engine.Custody)
    (found : engine.holding? id = some holding) {breaker : Breaker} {permit : Option Permit}
    (probed : breaker.Probed
      (Function.update (engine.heldIn Holding.permit holding.operation) id permit)) :
    ((engine.setCircuit holding.operation breaker).setPermit id permit).Custody ∧
      ((engine.setCircuit holding.operation breaker).setPermit id permit).holding? id =
        some { holding with permit } := by
  have placed : ((engine.setCircuit holding.operation breaker).setPermit id permit).holding? id =
      some { holding with permit } := by
    rw [holding?_setPermit, if_pos rfl]
    exact congrArg _ found
  refine ⟨custody.amend (.setCircuit_setPermit engine id _ _ _) found placed rfl
    (fun other _ => ?_) (fun other differs => ?_) ?_ ?_, placed⟩
  · exact hall_setCircuit engine _ other breaker
  · exact (circuit_setCircuit engine _ other breaker).trans (if_neg differs)
  · have hall : ((engine.setCircuit holding.operation breaker).setPermit id permit).hall
        holding.operation = engine.hall holding.operation :=
      hall_setCircuit engine _ _ breaker
    have same : engine.heldIn Holding.place holding.operation id = holding.place :=
      heldIn_of_holding found
    rw [hall, ← same, Function.update_eq_self]
    exact custody.occupied holding.operation
  · have circuit : ((engine.setCircuit holding.operation breaker).setPermit id permit).circuit
        holding.operation = breaker :=
      (circuit_setCircuit engine _ _ breaker).trans (if_pos rfl)
    rw [circuit]
    exact probed

theorem occupied_entry (custody : engine.Custody) {bulkheads : List Bulkhead}
    {policy : BulkheadPolicy} (hall : bulkheads = engine.hall operation ∨
      bulkheads = engine.hall operation ++ [.ofPolicy policy]) :
    Bulkhead.Occupied bulkheads (engine.heldIn Holding.place operation) := by
  rcases hall with rfl | rfl
  · exact custody.occupied operation
  · exact (custody.occupied operation).build policy

theorem enterBulkhead (custody : engine.Custody) (found : engine.tasks.get? id = some task)
    (outside : task.place = none) (policy : BulkheadPolicy) :
    (engine.enterBulkhead id task policy).2.Custody ∧ ∃ place,
      (engine.enterBulkhead id task policy).2.holding? id = some { task.holding with place } ∧
        Standing.ofPlace place = (engine.enterBulkhead id task policy).1.admission.standing := by
  have here := holding?_of_found found
  obtain ⟨bulkheads, index, bulkhead, hall, current, -, admission, retains⟩ :=
    retains_enterBulkhead engine id task policy
  have free : engine.heldIn Holding.place task.operation id = none :=
    (heldIn_of_holding here).trans outside
  have entered := (custody.occupied_entry (hall.imp_right And.left)).enter free current
  obtain ⟨placed, held⟩ := custody.setHall_setPlace here entered
  refine ⟨placed.retains retains, _, (retains.tasks id).trans held, ?_⟩
  rw [admission, Standing.ofPlace_place?]

/-- Whoever is turned away finds all slots of its policy taken, and all places in the queue. -/
theorem full (custody : engine.Custody) {policy : BulkheadPolicy} {inFlight max waiting : Nat}
    (rejected : (engine.enterBulkhead id task policy).1.admission = .full inFlight max waiting) :
    inFlight = policy.slots ∧ max = policy.slots ∧ waiting = policy.queueSize.toNat := by
  obtain ⟨bulkheads, index, bulkhead, hall, current, rfl, admission, -⟩ :=
    retains_enterBulkhead engine id task policy
  obtain ⟨holders, waiters, seated⟩ :=
    (custody.occupied_entry (hall.imp_right And.left)).seated index bulkhead current
  have entered := admission.symm.trans rejected
  exact ((seated.conserved.enter_eq_full_iff inFlight max waiting).mp entered).2.2

theorem awaitSlot (custody : engine.Custody) (found : engine.tasks.get? id = some task)
    {index ticket : Nat} (queued : task.place = some (.ticket index ticket)) {granted : Bool}
    (awaits : engine.awaitSlot id task = (.now granted, after)) :
    after.Custody ∧ ∃ place, after.holding? id = some { task.holding with place } ∧
      Standing.ofPlace place = bif granted then .inside else .outside := by
  have here := holding?_of_found found
  have held : engine.heldIn Holding.place task.operation id = some (.ticket index ticket) :=
    (heldIn_of_holding here).trans queued
  have occupied := custody.occupied task.operation
  have result := awaiting engine id task
  rw [awaits] at result
  cases result with
  | absent absent =>
    have missing := List.getElem?_eq_none_iff.mp (absent index ticket queued)
    exact absurd (occupied.within id _ held) (Nat.not_lt.mpr missing)
  | granted same current turn retains =>
    cases queued.symm.trans same
    have polled := occupied.poll held current task.cancelled
    rw [turn] at polled
    obtain ⟨placed, seated⟩ := custody.setHall_setPlace here polled
    exact ⟨placed.retains retains, _, (retains.tasks id).trans seated, rfl⟩
  | cancelled same current turn retains =>
    cases queued.symm.trans same
    have polled := occupied.poll held current task.cancelled
    rw [turn] at polled
    obtain ⟨placed, left⟩ := custody.setHall_setPlace here polled
    exact ⟨placed.retains retains, _, (retains.tasks id).trans left, rfl⟩

theorem leavePlace (custody : engine.Custody) (found : engine.holding? id = some holding)
    (operation : task.operation = holding.operation) (place : task.place = holding.place) :
    (engine.leavePlace id task).Custody ∧
      (engine.leavePlace id task).holding? id = some { holding with place := none } := by
  cases held : task.place with
  | none =>
    rw [leavePlace_of_free held, ← held, place]
    exact ⟨custody, found⟩
  | some taken =>
    have retains : Retains _ (engine.leavePlace id task) := retains_leavePlace held
    rw [operation] at retains
    rw [place] at held
    have occupied := (custody.occupied holding.operation).giveBack
      ((heldIn_of_holding found).trans held)
    obtain ⟨placed, here⟩ := custody.setHall_setPlace found occupied
    exact ⟨placed.retains retains, (retains.tasks id).trans here⟩

theorem dropPermit (custody : engine.Custody) (found : engine.holding? id = some holding)
    (operation : task.operation = holding.operation) (permit : task.permit = holding.permit) :
    (engine.dropPermit id task).Custody ∧
      (engine.dropPermit id task).holding? id = some { holding with permit := none } := by
  cases held : task.permit with
  | none =>
    rw [dropPermit_of_free held, ← held, permit]
    exact ⟨custody, found⟩
  | some taken =>
    rw [dropPermit_of_held held, operation]
    rw [permit] at held
    exact custody.setCircuit_setPermit found
      ((custody.probed holding.operation).drop ((heldIn_of_holding found).trans held))

theorem acquirePermit (custody : engine.Custody) (found : engine.tasks.get? id = some task)
    (free : task.permit = none) (rule : BreakerRule) :
    (engine.acquirePermit id task rule).2.Custody ∧ ∃ permit,
      (engine.acquirePermit id task rule).2.holding? id = some { task.holding with permit } ∧
        permit.isSome =
          permits.next false ⟨.acquirePermit rule, (engine.acquirePermit id task rule).1⟩ := by
  have here := holding?_of_found found
  have acquired := (custody.probed task.operation).acquire
    ((heldIn_of_holding here).trans free) rule engine.clock
  have retains := retains_acquirePermit engine id task rule
  have replies := acquirePermit_eq engine id task rule
  rw [replies]
  rcases asked : (engine.circuit task.operation).acquire rule engine.clock with
    ⟨retryAfter | permit, breaker⟩
  · rw [asked] at acquired retains
    refine ⟨(custody.setCircuit acquired).retains retains, none, ?_, rfl⟩
    rw [retains.tasks, ← free]
    exact here
  · rw [asked] at acquired retains
    obtain ⟨placed, held⟩ := custody.setCircuit_setPermit here acquired
    exact ⟨placed.retains retains, _, (retains.tasks id).trans held, rfl⟩

theorem recordSample (custody : engine.Custody) (found : engine.tasks.get? id = some task)
    {permit : Permit} (held : task.permit = some permit) (rule : BreakerRule) (failed : Bool) :
    (engine.recordSample id task rule failed).2.Custody ∧
      (engine.recordSample id task rule failed).2.holding? id =
        some { task.holding with permit := none } := by
  have here := holding?_of_found found
  obtain ⟨-, retains⟩ := retains_recordSample engine id held rule failed
  obtain ⟨placed, used⟩ := custody.setCircuit_setPermit here
    ((custody.probed task.operation).record ((heldIn_of_holding here).trans held) rule
      engine.clock failed)
  exact ⟨placed.retains retains, (retains.tasks id).trans used⟩

/-- What is asked for in order is had afterwards as the order of requests says. -/
theorem answer (custody : engine.Custody) (found : engine.tasks.get? id = some task)
    {request : Request} {wait : Wait} {answer : request.Answer}
    (permitted : permits.allows task.permit.isSome request)
    (placed : places.allows (.ofPlace task.place) request)
    (answers : engine.answer id task request wait = (.now answer, after)) :
    after.Custody ∧ ∃ place permit,
      after.holding? id = some { task.holding with place, permit } ∧
        permit.isSome = permits.next task.permit.isSome ⟨request, answer⟩ ∧
          .ofPlace place = places.next (.ofPlace task.place) ⟨request, answer⟩ := by
  have here := holding?_of_found found
  have kept (offBreaker : request.OffBreaker) (offBulkhead : request.OffBulkhead) :
      after.Custody ∧ ∃ place permit,
        after.holding? id = some { task.holding with place, permit } ∧
          permit.isSome = permits.next task.permit.isSome ⟨request, answer⟩ ∧
            .ofPlace place = places.next (.ofPlace task.place) ⟨request, answer⟩ := by
    have retains : engine.Retains (engine.answer id task request wait).2 :=
      answer_retains engine id task offBreaker offBulkhead wait
    rw [answers] at retains
    exact ⟨custody.retains retains, task.place, task.permit, (retains.tasks id).trans here,
      ((permits_ignores _ request offBreaker).2 answer).symm,
      ((places_ignores _ request offBulkhead).2 answer).symm⟩
  -- Six requests concern what tasks hold. All others leave it alone.
  cases request with
  | enterBulkhead policy =>
    have entered := custody.enterBulkhead found (Standing.ofPlace_eq_outside placed) policy
    have same : engine.enterBulkhead id task policy = (answer, after) :=
      Reply.eq_of_given answers
    rw [same] at entered
    obtain ⟨custody, place, held, standing⟩ := entered
    exact ⟨custody, place, task.permit, held, rfl, standing⟩
  | awaitSlot =>
    obtain ⟨index, ticket, queued⟩ := Standing.ofPlace_eq_queued placed
    obtain ⟨custody, place, held, standing⟩ := custody.awaitSlot found queued answers
    exact ⟨custody, place, task.permit, held, rfl, standing⟩
  | leaveBulkhead =>
    obtain ⟨custody, held⟩ := custody.leavePlace here rfl rfl
    have same : engine.leavePlace id task = after := (Prod.ext_iff.mp answers).2
    rw [same] at custody held
    exact ⟨custody, none, task.permit, held, rfl, rfl⟩
  | acquirePermit rule =>
    have lacks : task.permit.isSome = false := permitted
    have acquired := custody.acquirePermit found
      (Option.isNone_iff_eq_none.mp (Option.isSome_eq_false_iff.mp lacks)) rule
    have same : engine.acquirePermit id task rule = (answer, after) :=
      Reply.eq_of_given answers
    rw [same] at acquired
    obtain ⟨custody, permit, held, next⟩ := acquired
    rw [← lacks] at next
    exact ⟨custody, task.place, permit, held, next, rfl⟩
  | recordSample rule failed =>
    obtain ⟨permit, held⟩ := Option.isSome_iff_exists.mp permitted
    have recorded := custody.recordSample found held rule failed
    have same : engine.recordSample id task rule failed = (answer, after) :=
      Reply.eq_of_given answers
    rw [same] at recorded
    exact ⟨recorded.1, task.place, none, recorded.2, rfl, rfl⟩
  | dropPermit =>
    obtain ⟨custody, held⟩ := custody.dropPermit here rfl rfl
    have same : engine.dropPermit id task = after := (Prod.ext_iff.mp answers).2
    rw [same] at custody held
    exact ⟨custody, task.place, none, held, rfl, rfl⟩
  | _ =>
    apply kept
    · exact trivial
    · exact trivial

theorem release (custody : engine.Custody) (found : engine.tasks.get? id = some task) :
    (engine.release id task).Custody ∧
      (engine.release id task).holding? id =
        some { task.holding with place := none, permit := none } := by
  have gate : engine.Retains (engine.changeGate (·.leave id)) :=
    ((Touches.refl engine).changeGate _).retains
  have here := (gate.tasks id).trans (holding?_of_found found)
  obtain ⟨dropped, held⟩ := (custody.retains gate).dropPermit here (Eq.refl task.operation)
    (Eq.refl task.permit)
  exact dropped.leavePlace held rfl rfl

theorem finish (custody : engine.Custody) (found : engine.tasks.get? id = some task)
    (result : Option α) :
    (engine.finish id result).Custody ∧ (engine.finish id result).holding? id =
      some ⟨task.operation, none, none, ending result⟩ := by
  have retains := retains_finish found result
  obtain ⟨released, held⟩ := custody.release found
  refine ⟨(released.setProgress id (ending result)).retains retains, ?_⟩
  rw [retains.tasks, holding?_setProgress, if_pos rfl, held]
  rfl

theorem exchange (custody : before.Custody) (id : TaskId)
    (others : ∀ other, other ≠ id → after.holding? other = before.holding? other)
    (was : ∀ holding, before.holding? id = some holding →
      holding.place = none ∧ holding.permit = none)
    (is : ∀ holding, after.holding? id = some holding →
      holding.place = none ∧ holding.permit = none)
    (halls : ∀ operation, after.hall operation = before.hall operation)
    (circuits : ∀ operation, after.circuit operation = before.circuit operation) :
    after.Custody := by
  refine custody.congr halls circuits ?_ ?_
  · intro operation
    exact heldIn_of_free others (fun holding found => (was holding found).1)
      fun holding found => (is holding found).1
  · intro operation
    exact heldIn_of_free others (fun holding found => (was holding found).2)
      fun holding found => (is holding found).2

theorem spawn (custody : engine.Custody) (fresh : engine.holding? engine.nextTask = none)
    (place : task.place = none) (permit : task.permit = none) :
    (engine.spawn task).2.Custody := by
  have woken := ((Touches.refl { engine with
    tasks := engine.tasks.set engine.nextTask task, nextTask := engine.nextTask + 1 }).wake
      engine.nextTask).retains
  refine custody.exchange engine.nextTask ?_ ?_ ?_ woken.hall woken.circuit
  · intro other differs
    rw [holding?_spawn, if_neg (Ne.symm differs)]
  · intro holding found
    rw [fresh] at found
    cases found
  · intro holding found
    rw [holding?_spawn, if_pos rfl] at found
    cases found
    exact ⟨place, permit⟩

theorem forget (custody : engine.Custody) (free : ∀ holding, engine.holding? id = some holding →
    holding.place = none ∧ holding.permit = none) : (engine.forget id).Custody := by
  refine custody.exchange id ?_ free ?_ (fun _ => rfl) fun _ => rfl
  · intro other differs
    rw [holding?_forget, if_neg (Ne.symm differs)]
  · intro holding found
    rw [holding?_forget, if_pos rfl] at found
    cases found

/-- A task that is ended from outside gives everything back; one that had ended holds nothing. -/
theorem abort (custody : engine.Custody)
    (ended : ∀ task, engine.tasks.get? id = some task → task.isRunning = false →
      task.place = none ∧ task.permit = none) : (engine.abort id).Custody := by
  unfold Engine.abort
  split
  next task found =>
    have here := holding?_of_found found
    split
    next running =>
      obtain ⟨released, held⟩ := custody.release found
      apply released.forget
      intro holding same
      cases held.symm.trans same
      exact ⟨rfl, rfl⟩
    next still =>
      apply custody.forget
      intro holding same
      cases here.symm.trans same
      exact ended task found (Bool.eq_false_iff.mpr still)
  next => exact custody

theorem reset (custody : engine.Custody) (operation : OperationId) :
    (engine.reset operation).2.Custody := by
  rcases reset_cases engine operation with same | retains
  · rw [same]
    exact custody
  · exact (custody.setCircuit (custody.probed operation).reset).retains retains

end Custody

end Engine

end Resilience
