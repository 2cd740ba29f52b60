import Resilience.Proofs.Policy.Clearing
import Resilience.Proofs.Policy.Registry

/-!
Overrides can be undone. Whatever led to the overrides of an operation, they can be taken back one
by one, each time with a policy that results, down to the policy that was declared. An override of
a field that had none is undone by taking it back at once.
-/

namespace Resilience

namespace Overrides

variable {overrides rest : Overrides} {kind : PolicyKind} {field value : String}
  {head entry : FieldOverride}

theorem clear_cons_self :
    Overrides.clear entry.kind entry.field (entry :: rest) =
      rest.clear entry.kind entry.field :=
  List.filter_cons_of_neg (by simp)

theorem clear_cons_of_ne (differs : ¬(head.kind = kind ∧ head.field = field)) :
    Overrides.clear kind field (head :: rest) = head :: rest.clear kind field :=
  List.filter_cons_of_pos (by rw [decide_eq_false differs]; rfl)

theorem clear_of_omits (omits : overrides.Omits kind field) :
    overrides.clear kind field = overrides := by
  refine List.filter_eq_self.mpr fun entry member => ?_
  have differs : ¬(entry.kind = kind ∧ entry.field = field) := by
    rintro ⟨rfl, rfl⟩
    exact omits entry.value member
  rw [decide_eq_false differs]
  rfl

theorem perm_clear (keyed : Keyed overrides) (member : entry ∈ overrides) :
    overrides.Perm (entry :: overrides.clear entry.kind entry.field) := by
  induction overrides with
  | nil => cases member
  | cons head rest inductionHypothesis =>
    obtain ⟨apart, keyed⟩ := List.pairwise_cons.mp keyed
    simp only [FieldOverride.sameField_iff] at apart
    rcases List.mem_cons.mp member with rfl | later
    · have alone : Omits rest entry.kind entry.field := fun text held =>
        apart _ held ⟨rfl, rfl⟩
      rw [clear_cons_self, clear_of_omits alone]
    · rw [clear_cons_of_ne (apart entry later)]
      exact ((inductionHypothesis keyed later).cons head).trans (.swap _ _ _)

/-- An override that was put in where there was none is taken out again. -/
theorem clear_set (omits : overrides.Omits kind field) :
    (overrides.set ⟨kind, field, value⟩).clear kind field = overrides := by
  induction overrides with
  | nil => exact clear_cons_self
  | cons head rest inductionHypothesis =>
    have differs : ¬(head.kind = kind ∧ head.field = field) := by
      rintro ⟨rfl, rfl⟩
      exact omits head.value (.head _)
    rw [set]
    split
    next same =>
      obtain ⟨kind, field⟩ := FieldOverride.sameField_iff.mp same
      exact absurd ⟨kind.symm, field.symm⟩ differs
    next =>
      split
      · exact clear_cons_self.trans (clear_of_omits omits)
      · rw [clear_cons_of_ne differs]
        rw [inductionHypothesis fun text later => omits text (.tail _ later)]

end Overrides

namespace Registry

variable {registry middle after last : Registry} {operation : OperationId}

theorem Enters.trans {first second : Registration} (enters : registry.Enters operation first middle)
    (again : middle.Enters operation second last) : registry.Enters operation second last := by
  intro other
  rw [again other, enters other]
  split <;> rfl

def clearAll (registry : Registry) (operation : OperationId) (entries : List FieldOverride) :
    Except PolicyError Registry :=
  entries.foldlM (fun registry entry =>
    (registry.clearOverride operation entry.kind entry.field).map Prod.snd) registry

theorem exists_clearOverride {registration : Registration} (sound : registry.Sound)
    (found : registry.registrations.get? operation = some registration)
    (nonempty : registration.overrides ≠ []) :
    ∃ entry ∈ registration.overrides, ∃ resolved after,
      registry.clearOverride operation entry.kind entry.field = .ok (resolved, after) ∧
        after.Sound ∧ registry.Enters operation ⟨registration.declared,
          registration.overrides.clear entry.kind entry.field, resolved⟩ after := by
  have fits := sound operation registration found
  have keyed := fits.ascending.keyed
  obtain ⟨entry, member, resolved, resolves⟩ :=
    Policy.exists_clear fits.declared keyed fits.resolves nonempty
  have cleared : registry.clearOverride operation entry.kind entry.field =
      .ok (resolved, ⟨registry.registrations.set operation ⟨registration.declared,
        registration.overrides.clear entry.kind entry.field, resolved⟩⟩) := by
    rw [clearOverride, Policy.trim_field keyed fits.resolves member, updateOverrides, found]
    simp only [publish, resolves]
    rfl
  refine ⟨entry, member, resolved, _, cleared, ?_, fun other => Table.get?_set ..⟩
  exact sound.updateOverrides (fun _ ascending => ascending.clear _ _) cleared

theorem exists_clearAll {registration : Registration} (sound : registry.Sound)
    (found : registry.registrations.get? operation = some registration) :
    ∃ order last, order.Perm registration.overrides ∧
      registry.clearAll operation order = .ok last ∧
        registry.Enters operation ⟨registration.declared, [], registration.declared⟩ last := by
  -- There is one override less with each that is taken back.
  induction count : registration.overrides.length generalizing registry registration with
  | zero =>
    have fits := sound operation registration found
    obtain ⟨declared, overrides, resolved⟩ := registration
    obtain rfl := List.eq_nil_of_length_eq_zero count
    have bare : declared.resolve operation [] = .ok declared :=
      Policy.resolve_eq_ok_iff.mpr ⟨rfl, fits.declared⟩
    have same : resolved = declared := Except.ok.inj (fits.resolves.symm.trans bare)
    subst same
    refine ⟨[], registry, .refl _, rfl, fun other => ?_⟩
    split
    next same => exact same ▸ found
    next => rfl
  | succ number inductionHypothesis =>
    have nonempty : registration.overrides ≠ [] :=
      List.ne_nil_of_length_eq_add_one count
    obtain ⟨entry, member, resolved, middle, cleared, sound', enters⟩ :=
      exists_clearOverride sound found nonempty
    have found' := enters operation
    rw [if_pos rfl] at found'
    have less := Overrides.perm_clear (sound operation registration found).ascending.keyed member
    have fewer : (registration.overrides.clear entry.kind entry.field).length = number := by
      have := less.length_eq
      rw [List.length_cons] at this
      omega
    obtain ⟨order, last, same, rest, enters'⟩ := inductionHypothesis sound' found' fewer
    refine ⟨entry :: order, last, (same.cons entry).trans less.symm, ?_, enters.trans enters'⟩
    rw [clearAll, List.foldlM_cons, cleared]
    exact rest

/-- An override of a field that had none is taken back without a trace. -/
theorem clearOverride_overrideField {kind : PolicyKind} {field value : String}
    {resolved : Policy} (sound : registry.Sound)
    (omits : (registry.overrides operation).Omits kind (Text.trim field))
    (overridden : registry.overrideField operation kind field value = .ok (resolved, after)) :
    ∃ former, registry.resolve operation = .ok former ∧
      after.clearOverride operation kind field = .ok (former, registry) := by
  obtain ⟨registration, found, published⟩ := updateOverrides_ok overridden
  obtain ⟨policy, -, same⟩ := bind_eq_ok_iff.mp published
  cases same
  have fits := sound operation registration found
  have bare : registration.overrides.Omits kind (Text.trim field) := by
    rwa [overrides, found] at omits
  refine ⟨registration.resolved, ?_, ?_⟩
  · rw [resolve, resolve?, found]
    rfl
  · have reached := Table.get?_set registry.registrations operation operation
      (Registration.mk registration.declared
        (registration.overrides.set ⟨kind, Text.trim field, Text.trim value⟩) resolved)
    rw [if_pos rfl] at reached
    have kept := Table.set_of_present registry.registrations operation found
    simp only [clearOverride, updateOverrides, reached, publish, Overrides.clear_set bare,
      fits.resolves, Table.set_set]
    exact congrArg (fun entries => Except.ok (registration.resolved, Registry.mk entries)) kept

end Registry

namespace Engine

variable {α : Type}

/-- However the registry of an engine is amended, the overrides of each operation can be taken back
in some order, one by one, until its declared policy is the one that guards it. And an accepted
override of a field that had none can be taken back at once, which leads to the very registry that
there was before. -/
theorem overrides_can_be_undone (engine : Engine α) (amendments : List Amendment) :
    let registry := (({ engine with registry := {} } : Engine α).amendAll amendments).registry
    (∀ operation registration, registry.registrations.get? operation = some registration →
      ∃ order last, order.Perm registration.overrides ∧
        registry.clearAll operation order = .ok last ∧
          registry.Enters operation ⟨registration.declared, [], registration.declared⟩ last) ∧
      ∀ operation kind field value resolved after,
        registry.overrideField operation kind field value = .ok (resolved, after) →
          (registry.overrides operation).Omits kind (Text.trim field) →
            ∃ former, registry.resolve operation = .ok former ∧
              after.clearOverride operation kind field = .ok (former, registry) := by
  intro registry
  have sound : registry.Sound := amendAll_sound Registry.sound_empty amendments
  refine ⟨fun operation registration found => Registry.exists_clearAll sound found, ?_⟩
  intro operation kind field value resolved after overridden omits
  exact Registry.clearOverride_overrideField sound omits overridden

/-- A limit that was raised for a longer delay cannot be taken back before the delay. -/
theorem overrides_can_be_undone_delay_first :
    let declared : RetryPolicy := { delay := .millis 100, maxDuration := .millis 200 }
    let delay : FieldOverride := ⟨.retry, "delay", "500"⟩
    let limit : FieldOverride := ⟨.retry, "maxDuration", "1000"⟩
    let amendments := [.register "pay" { retry := some declared },
      .overrideField "pay" .retry limit.field limit.value,
      .overrideField "pay" .retry delay.field delay.value]
    let registry := (({} : Engine Outcome).amendAll amendments).registry
    (registry.clearAll "pay" [limit, delay]).isOk = false ∧
      (∃ order last, order.Perm [delay, limit] ∧ registry.clearAll "pay" order = .ok last ∧
        (last.resolve? "pay").bind Policy.retry = some declared) ∧
      ∃ resolved after, registry.overrideField "pay" .retry "jitter" "0" = .ok (resolved, after) ∧
        ∃ former, after.clearOverride "pay" .retry "jitter" = .ok (former, registry) := by
  intro declared delay limit amendments
  have undone := overrides_can_be_undone ({} : Engine Outcome) amendments
  have reached : ((({} : Engine Outcome).amendAll amendments).registry.registrations.get?
      "pay").map (fun registration => (registration.declared.retry, registration.overrides)) =
        some (some declared, [delay, limit]) := by
    decide +kernel
  have refused : ((({} : Engine Outcome).amendAll amendments).registry.clearAll "pay"
      [limit, delay]).isOk = false := by
    decide +kernel
  have accepted : ((({} : Engine Outcome).amendAll amendments).registry.overrideField "pay" .retry
      "jitter" "0").isOk = true := by
    decide +kernel
  -- What follows needs no more of the registry than this.
  generalize (({} : Engine Outcome).amendAll amendments).registry = registry at *
  obtain ⟨registration, found, same⟩ := Option.map_eq_some_iff.mp reached
  obtain ⟨retry, overrides⟩ := Prod.mk.inj same
  refine ⟨refused, ?_, ?_⟩
  · obtain ⟨order, last, perm, cleared, enters⟩ := undone.1 "pay" registration found
    refine ⟨order, last, overrides ▸ perm, cleared, ?_⟩
    rw [Registry.resolve?, enters "pay", if_pos rfl]
    exact retry
  · have omits : (registry.overrides "pay").Omits .retry (Text.trim "jitter") := by
      rw [Registry.overrides, found, Option.map_some, Option.getD_some, overrides]
      intro text member
      have trimmed : Text.trim "jitter" = "jitter" := by decide
      simp [trimmed, delay, limit] at member
    cases overridden : registry.overrideField "pay" .retry "jitter" "0" with
    | error error =>
      rw [overridden] at accepted
      cases accepted
    | ok result =>
      obtain ⟨former, -, cleared⟩ := undone.2 "pay" .retry "jitter" "0" _ _ overridden omits
      exact ⟨_, _, rfl, former, cleared⟩

end Engine

end Resilience
