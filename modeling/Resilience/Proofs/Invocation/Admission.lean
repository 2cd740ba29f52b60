import Resilience.Proofs.Invocation.Path

/-!
Admissions: how an invocation deals with its bulkhead. It enters that of the policy that it looked
up, at most once, waits only for the ticket that it was given, and gives back the slot that it got,
whatever happened in between.
-/

namespace Resilience

/-- How a caller stands with the bulkhead of an operation. -/
inductive Standing where
  | outside
  /-- It has a ticket. -/
  | queued
  /-- It has a slot. -/
  | inside
  deriving DecidableEq, Repr

/-- How a caller stands who entered, or who was turned away. -/
def Standing.ofEntry : Except Fault Unit → Standing
  | .ok () => inside
  | .error _ => outside

def Admission.standing : Admission → Standing
  | admitted => .inside
  | queued _ => .queued
  | full .. => .outside

/-- The order of requests to a bulkhead. The state is how the caller stands with it. -/
def places : Monitor Standing where
  allows
    | standing, .enterBulkhead _ => standing = .outside
    | standing, .awaitSlot => standing = .queued
    | standing, .leaveBulkhead => standing = .inside
    | _, _ => True
  next
    | _, ⟨.enterBulkhead _, entry⟩ => entry.admission.standing
    | _, ⟨.awaitSlot, granted⟩ => bif granted then .inside else .outside
    | _, ⟨.leaveBulkhead, _⟩ => .outside
    | standing, _ => standing

theorem places_ignores (standing : Standing) : places.Ignores standing Request.OffBulkhead := by
  intro request off
  cases request <;> first | exact ⟨trivial, fun _ => rfl⟩ | exact off.elim

@[simp] def Request.Enters (bulkhead : Option BulkheadPolicy) : Request → Prop
  | .enterBulkhead other => bulkhead = some other
  | _ => True

theorem Request.enters_of_offBulkhead {bulkhead : Option BulkheadPolicy} (request : Request)
    (off : request.OffBulkhead) : request.Enters bulkhead := by
  cases request <;> first | exact trivial | exact off.elim

/-- The bulkhead that may be entered: that of the policy that was looked up first. -/
def lookups : Monitor (Option Policy) where
  allows found request := request.Enters (found.bind Policy.bulkhead)
  next
    | none, ⟨.resolve, found⟩ => found
    | found, _ => found

theorem lookups_after (found : Option Policy) (history : List Exchange) :
    lookups.after found history = (found <|> resolved? history) := by
  induction history generalizing found with
  | nil => cases found <;> rfl
  | cons exchange rest inductionHypothesis =>
    rw [Monitor.after_cons, inductionHypothesis]
    rcases exchange with ⟨request, answer⟩
    cases found with
    | some policy => cases request <;> rfl
    | none =>
      cases request with
      | resolve => cases answer <;> rfl
      | _ => rfl

namespace Invocation

variable {operation : OperationId} {policy : Policy}

theorem throughBreaker_inner {breaker : BreakerPolicy} {guarded : Plan Outcome}
    (inside : guarded.Uses Request.Inner) :
    (throughBreaker breaker guarded).Uses Request.Inner := by
  have reports (transition : Option Transition) : (report transition).Uses Request.Inner :=
    (report_calm transition).mono fun _ => Request.inner_of_calm
  rw [throughBreaker_eq]
  refine ⟨trivial, ?_⟩
  intro answer
  cases answer with
  | error retryAfter => exact ⟨trivial, fun _ => ⟨trivial, fun _ => rfl⟩⟩
  | ok transition =>
    refine (reports transition).bind fun _ => inside.bind fun outcome => ?_
    unfold settle
    cases breaker.sample? outcome with
    | none => exact ⟨trivial, fun _ => rfl⟩
    | some failed => exact ⟨trivial, fun changed => (reports changed).bind fun _ => rfl⟩

theorem sampled_inner {sampling : Sampling} {guarded : Plan Outcome}
    (inside : guarded.Uses Request.Inner) :
    (sampled policy sampling guarded).Uses Request.Inner := by
  unfold sampled
  split
  · split
    · exact throughBreaker_inner inside
    · exact inside
  · exact inside

theorem guarded_inner : (guarded operation policy).Uses Request.Inner := by
  have routine : (Monitor.only Request.Inner).Ignores () Request.Routine :=
    fun request asked => ⟨Request.inner_of_routine asked, fun _ => rfl⟩
  apply sampled_inner
  refine attempts_stays (routine.mono fun _ => Request.routine_of_calm) ?_ fun number => ?_
  · intro request named
    obtain ⟨name, rfl⟩ := named
    exact ⟨trivial, fun _ => rfl⟩
  · exact sampled_inner (call_stays routine number)

theorem guarded_offBulkhead : (guarded operation policy).Uses Request.OffBulkhead :=
  guarded_inner.mono fun _ => Request.offBulkhead_of_inner

theorem recovered_inner (outcome : Outcome) :
    (recovered operation policy outcome).Uses Request.Inner :=
  (recovered_calm outcome).mono fun _ => Request.inner_of_calm

theorem recovered_offBulkhead (outcome : Outcome) :
    (recovered operation policy outcome).Uses Request.OffBulkhead :=
  (recovered_inner outcome).mono fun _ => Request.offBulkhead_of_inner

theorem enter_places (operation : OperationId) (policy : BulkheadPolicy) :
    places.Admits (enter operation policy) .outside fun entered standing =>
      standing = .ofEntry entered := by
  have acquired : places.Admits enter.acquired .inside fun entered standing =>
      standing = .ofEntry entered :=
    ⟨trivial, fun _ => ⟨trivial, fun _ => rfl⟩⟩
  refine ⟨rfl, ?_⟩
  -- What stands between the requests to the bulkhead is told to others and changes nothing here.
  rintro ⟨rebuilt, admission, waiting⟩
  cases admission with
  | admitted =>
    cases rebuilt with
    | false => exact acquired
    | true => exact ⟨trivial, fun _ => acquired⟩
  | queued ticket =>
    have awaited (granted : Bool) : places.Admits
        (if granted then enter.acquired else pure (.error .cancelled))
        (places.next .queued ⟨.awaitSlot, granted⟩) fun entered standing =>
          standing = .ofEntry entered := by
      cases granted with
      | false => exact rfl
      | true => exact acquired
    have queued : places.Admits (Plan.awaitSlot >>= fun granted =>
        if granted then enter.acquired else pure (.error .cancelled)) .queued _ := ⟨rfl, awaited⟩
    cases rebuilt with
    | false => exact ⟨trivial, fun _ => ⟨trivial, fun _ => ⟨trivial, fun _ => queued⟩⟩⟩
    | true =>
      exact ⟨trivial, fun _ => ⟨trivial, fun _ => ⟨trivial, fun _ => ⟨trivial, fun _ => queued⟩⟩⟩⟩
  | full inFlight max waiting =>
    cases rebuilt with
    | false => exact ⟨trivial, fun _ => ⟨trivial, fun _ => ⟨trivial, fun _ => rfl⟩⟩⟩
    | true =>
      exact ⟨trivial, fun _ => ⟨trivial, fun _ => ⟨trivial, fun _ => ⟨trivial, fun _ => rfl⟩⟩⟩⟩

theorem strategies_places : places.Stays .outside (strategies operation policy) := by
  unfold strategies
  split
  next =>
    exact (guarded_offBulkhead.bind recovered_offBulkhead).stays (places_ignores .outside)
  next bulkhead _ =>
    refine (Monitor.admits_bind _ _).mpr ((enter_places operation bulkhead).mono ?_)
    rintro (fault | ⟨⟩) standing rfl
    · exact (recovered_offBulkhead (.error fault)).stays (places_ignores .outside)
    · apply (guarded_offBulkhead.stays (places_ignores .inside)).bind
      intro outcome
      apply ((recovered_offBulkhead outcome).stays (places_ignores .inside)).bind
      intro final
      exact ⟨rfl, fun _ => rfl⟩

theorem service_places {service : Service} {history : List Exchange} {rest : Plan Outcome}
    (leads : (service.plan operation).Leads history rest) :
    places.Accepts .outside history := by
  have stays : places.Stays .outside (service.plan operation) := by
    unfold Service.plan
    split
    · exact rfl
    refine ⟨trivial, fun started => ⟨trivial, fun resolved => ?_⟩⟩
    cases resolved with
    | none => exact ⟨trivial, fun _ => rfl⟩
    | some policy =>
      refine ⟨trivial, fun _ => ?_⟩
      apply strategies_places.bind
      intro outcome
      exact ⟨trivial, fun _ => ⟨trivial, fun _ => ⟨trivial, fun _ => rfl⟩⟩⟩
  exact (Monitor.Admits.leads stays leads).1

theorem enter_enters (operation : OperationId) (bulkhead : BulkheadPolicy) :
    (enter operation bulkhead).Uses (Request.Enters bulkhead) := by
  have acquired : enter.acquired.Uses (Request.Enters bulkhead) := by
    simp [enter.acquired, Plan.bulkheadLoad, Plan.emit]
  simp only [enter, Plan.enterBulkhead, Plan.log, Plan.count, Plan.emit, Plan.awaitSlot,
    Plan.ask_bind, Plan.done_bind, Plan.uses_ask]
  refine ⟨rfl, ?_⟩
  rintro ⟨rebuilt, admission, waiting⟩
  cases admission <;> cases rebuilt <;> simp [acquired]

theorem strategies_enter : (strategies operation policy).Uses (Request.Enters policy.bulkhead) := by
  have guarded : (guarded operation policy).Uses (Request.Enters policy.bulkhead) :=
    guarded_offBulkhead.mono Request.enters_of_offBulkhead
  have recovered (outcome : Outcome) :
      (recovered operation policy outcome).Uses (Request.Enters policy.bulkhead) :=
    (recovered_offBulkhead outcome).mono Request.enters_of_offBulkhead
  unfold strategies
  split
  next => exact guarded.bind recovered
  next bulkhead declared =>
    rw [declared] at guarded recovered ⊢
    refine (enter_enters operation bulkhead).bind ?_
    rintro (fault | ⟨⟩)
    · exact recovered (.error fault)
    · refine guarded.bind fun outcome => (recovered outcome).bind fun final => ?_
      exact ⟨trivial, fun _ => rfl⟩

theorem service_enters {service : Service} {history : List Exchange} {rest : Plan Outcome}
    (leads : (service.plan operation).Leads history rest) {bulkhead : BulkheadPolicy}
    {entry : Entry} (entered : ⟨.enterBulkhead bulkhead, entry⟩ ∈ history) :
    (resolved? history).bind Policy.bulkhead = some bulkhead := by
  have admits : lookups.Admits (service.plan operation) none fun _ _ => True := by
    unfold Service.plan
    split
    · exact trivial
    refine ⟨trivial, fun started => ⟨trivial, fun resolved => ?_⟩⟩
    cases resolved with
    | none => exact ⟨trivial, fun _ => trivial⟩
    | some policy =>
      have ignores : lookups.Ignores (some policy) (Request.Enters policy.bulkhead) :=
        fun request asked => ⟨asked, fun _ => rfl⟩
      refine ⟨trivial, fun _ => (strategies_enter.stays ignores).bind fun outcome => ?_⟩
      exact ⟨trivial, fun _ => ⟨trivial, fun _ => ⟨trivial, fun _ => trivial⟩⟩⟩
  obtain ⟨before, after, rfl⟩ := List.append_of_mem entered
  have accepts := (Monitor.Admits.leads admits leads).1
  rw [List.append_cons] at accepts
  have allowed : ((none <|> resolved? before).bind Policy.bulkhead) = some bulkhead :=
    lookups_after none before ▸ accepts.before.last
  obtain ⟨policy, found, declared⟩ := Option.bind_eq_some_iff.mp allowed
  have stays : resolved? (before ++ ⟨.enterBulkhead bulkhead, entry⟩ :: after) = some policy :=
    (List.findSome?_append ..).trans (congrArg (Option.or · _) found)
  rw [stays]
  exact declared

end Invocation

end Resilience
