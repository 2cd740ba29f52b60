import Resilience.Proofs.Invocation.Admission
import Resilience.Proofs.Policy.Resampling

/-!
Invocations without retries: there is one attempt, so a breaker that samples attempts guards the
very call that one which samples invocations does. The policy shows only in the one look that an
invocation takes at it.
-/

namespace Resilience

namespace Invocation

variable {operation : OperationId} {policy twin : Policy}

/-- Without retries a breaker guards the one call, whatever it takes samples of. -/
theorem guarded_of_unretried (unretried : policy.retry = none) :
    guarded operation policy =
      match policy.breaker with
      | some breaker => throughBreaker breaker (call operation policy 1)
      | none => call operation policy 1 := by
  unfold guarded attempts
  rw [unretried]
  unfold attempt sampled
  cases policy.breaker with
  | none => rfl
  | some breaker =>
    cases samples : breaker.sampling with
    | invocation => simp [samples]
    | attempt => simp [samples]

theorem guarded_resampled (unretried : policy.retry = none) (resampled : policy.Resampled twin) :
    guarded operation twin = guarded operation policy := by
  obtain ⟨sampling, rfl⟩ := resampled
  have also : (policy.resampled sampling).retry = none := unretried
  rw [guarded_of_unretried unretried, guarded_of_unretried also]
  rcases policy with ⟨retry, timeout, _ | breaker, bulkhead, fallback⟩ <;> rfl

theorem strategies_resampled (unretried : policy.retry = none)
    (resampled : policy.Resampled twin) :
    strategies operation twin = strategies operation policy := by
  have guards : guarded operation twin = guarded operation policy :=
    guarded_resampled unretried resampled
  obtain ⟨sampling, rfl⟩ := resampled
  unfold strategies
  rw [guards]
  rfl

theorem enter_unresolving (operation : OperationId) (bulkhead : BulkheadPolicy) :
    (enter operation bulkhead).Uses (· ≠ .resolve) := by
  have acquired : enter.acquired.Uses (· ≠ .resolve) := by
    simp [enter.acquired, Plan.bulkheadLoad, Plan.emit]
  simp only [enter, Plan.enterBulkhead, Plan.log, Plan.count, Plan.emit, Plan.awaitSlot,
    Plan.ask_bind, Plan.done_bind, Plan.uses_ask]
  refine ⟨by simp, ?_⟩
  rintro ⟨rebuilt, admission, waiting⟩
  cases admission <;> cases rebuilt <;> simp [acquired]

theorem strategies_unresolving : (strategies operation policy).Uses (· ≠ .resolve) := by
  have unresolving (request : Request) (inner : request.Inner) : request ≠ .resolve := by
    rintro rfl
    exact inner
  have guarded : (guarded operation policy).Uses (· ≠ .resolve) := guarded_inner.mono unresolving
  have recovered (outcome : Outcome) :
      (recovered operation policy outcome).Uses (· ≠ .resolve) :=
    (recovered_inner outcome).mono unresolving
  unfold strategies
  split
  next => exact guarded.bind recovered
  next bulkhead _ =>
    refine (enter_unresolving operation bulkhead).bind ?_
    rintro (fault | ⟨⟩)
    · exact recovered (.error fault)
    · exact guarded.bind fun outcome => (recovered outcome).bind fun final => ⟨nofun, fun _ => rfl⟩

/-- An invocation looks its policy up once, after the time. Without retries it goes on the same from
there, whatever its breaker takes samples of. -/
theorem plan_looks_up (operation : OperationId) :
    ∃ next : Nat → Option Policy → Plan Outcome,
      plan operation = .ask .time (fun started => .ask .resolve (next started)) ∧
        (∀ started found, (next started found).Uses (· ≠ .resolve)) ∧
          ∀ started (policy twin : Policy), policy.retry = none → policy.Resampled twin →
            next started (some twin) = next started (some policy) := by
  refine ⟨_, rfl, fun started found => ?_, fun started policy twin unretried resampled => ?_⟩
  · cases found with
    | none => exact ⟨nofun, fun _ => rfl⟩
    | some policy =>
      refine ⟨nofun, fun _ => strategies_unresolving.bind fun outcome => ?_⟩
      exact ⟨nofun, fun _ => ⟨nofun, fun _ => ⟨nofun, fun _ => rfl⟩⟩⟩
  · have same : strategies operation twin = strategies operation policy :=
      strategies_resampled unretried resampled
    simp only [Plan.bind, same]

theorem service_resampled {service : Service} {history : List Exchange}
    {next : Option Policy → Plan Outcome}
    (leads : (service.plan operation).Leads history (.ask .resolve next))
    (unretried : policy.retry = none) (resampled : policy.Resampled twin) :
    next (some twin) = next (some policy) := by
  obtain ⟨goesOn, plans, unresolving, resampling⟩ := plan_looks_up operation
  unfold Service.plan at leads
  split at leads
  · cases (Plan.leads_done leads).2
  rw [plans] at leads
  rcases Plan.leads_ask leads with ⟨-, same⟩ | ⟨started, tail, -, looks⟩
  · cases same
  rcases Plan.leads_ask looks with ⟨-, same⟩ | ⟨found, tail, -, looked⟩
  · cases same
    exact resampling started policy twin unretried resampled
  · exact absurd rfl ((unresolving started found).rest looked).1

end Invocation

end Resilience
