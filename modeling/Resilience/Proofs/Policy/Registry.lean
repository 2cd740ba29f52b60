import Resilience.Engine.Control
import Resilience.Proofs.Policy.Resolution

/-!
The registry through any row of amendments. Every operation has a valid policy that results from
its declaration and its overrides, and a refused amendment leaves no trace.
-/

namespace Resilience

structure Registration.Sound (operation : OperationId) (registration : Registration) : Prop where
  declared : registration.declared.Valid
  ascending : registration.overrides.Ascending
  kinds : ∀ entry ∈ registration.overrides, registration.declared.declares entry.kind = true
  resolves : registration.declared.resolve operation registration.overrides =
    .ok registration.resolved
  resolved : registration.resolved.Valid

namespace Registry

variable {registry after : Registry} {operation : OperationId}

def Sound (registry : Registry) : Prop :=
  ∀ operation registration, registry.registrations.get? operation = some registration →
    registration.Sound operation

/-- Whether a registry differs from another one only in the entry of an operation. -/
def Enters (registry : Registry) (operation : OperationId) (registration : Registration)
    (after : Registry) : Prop :=
  ∀ other, after.registrations.get? other =
    if operation = other then some registration else registry.registrations.get? other

theorem sound_empty : Sound {} := by
  intro operation registration found
  rw [Table.get?_empty] at found
  cases found

theorem Sound.enter {registration : Registration} (sound : registry.Sound)
    (enters : registry.Enters operation registration after)
    (fits : registration.Sound operation) : after.Sound := by
  intro other entry found
  rw [enters other] at found
  split at found
  next same =>
    cases found
    exact same ▸ fits
  next => exact sound other entry found

theorem Sound.ascending (sound : registry.Sound) (operation : OperationId) :
    (registry.overrides operation).Ascending := by
  unfold overrides
  cases found : registry.registrations.get? operation with
  | none => exact List.Pairwise.nil
  | some registration => exact (sound operation registration found).ascending

theorem publish_ok {declared resolved : Policy} {overrides : Overrides}
    (published : registry.publish operation declared overrides = .ok (resolved, after)) :
    declared.resolve operation overrides = .ok resolved ∧
      registry.Enters operation ⟨declared, overrides, resolved⟩ after := by
  obtain ⟨policy, resolves, same⟩ := bind_eq_ok_iff.mp published
  cases same
  refine ⟨resolves, ?_⟩
  intro other
  exact Table.get?_set _ _ _ _

theorem sound_of_publish {declared resolved : Policy} {overrides : Overrides}
    (sound : registry.Sound) (valid : declared.Valid) (ascending : overrides.Ascending)
    (published : registry.publish operation declared overrides = .ok (resolved, after)) :
    after.Sound := by
  obtain ⟨resolves, enters⟩ := publish_ok published
  obtain ⟨applied, fits⟩ := Policy.resolve_eq_ok_iff.mp resolves
  apply sound.enter enters
  refine ⟨valid, ascending, ?_, resolves, fits⟩
  intro entry member
  exact Policy.declares_of_applied applied entry (Overrides.mem_ordered.mpr member)

theorem register_ok {policy resolved : Policy}
    (registered : registry.register operation policy = .ok (resolved, after)) :
    policy.Valid ∧
      registry.publish operation policy (registry.overrides operation) = .ok (resolved, after) := by
  unfold register at registered
  split at registered
  · cases registered
  next valid => exact ⟨Policy.error?_eq_none_iff.mp valid, registered⟩

theorem updateOverrides_ok {change : Overrides → Overrides} {resolved : Policy}
    (updated : registry.updateOverrides operation change = .ok (resolved, after)) :
    ∃ former, registry.registrations.get? operation = some former ∧
      registry.publish operation former.declared (change former.overrides) =
        .ok (resolved, after) := by
  unfold updateOverrides at updated
  split at updated
  next former found => exact ⟨former, found, updated⟩
  · cases updated

theorem Sound.register {policy resolved : Policy} (sound : registry.Sound)
    (registered : registry.register operation policy = .ok (resolved, after)) : after.Sound := by
  obtain ⟨valid, published⟩ := register_ok registered
  exact sound_of_publish sound valid (sound.ascending operation) published

theorem Sound.updateOverrides {change : Overrides → Overrides} {resolved : Policy}
    (sound : registry.Sound)
    (orderly : ∀ overrides : Overrides, overrides.Ascending →
      Overrides.Ascending (change overrides))
    (updated : registry.updateOverrides operation change = .ok (resolved, after)) :
    after.Sound := by
  obtain ⟨former, found, published⟩ := updateOverrides_ok updated
  have fits := sound operation former found
  exact sound_of_publish sound fits.declared (orderly _ fits.ascending) published

/-- What an accepted override of one line leads to. -/
def overrideLine (registry : Registry) (line : OverrideLine) : Except PolicyError Registry :=
  (registry.overrideField line.key.operation line.key.kind line.key.field line.value).map Prod.snd

theorem Sound.overrideLines {lines : List OverrideLine} (sound : registry.Sound)
    (accepted : lines.foldlM overrideLine registry = .ok after) : after.Sound := by
  induction lines generalizing registry with
  | nil =>
    cases accepted
    exact sound
  | cons line rest inductionHypothesis =>
    rw [List.foldlM_cons, bind_eq_ok_iff] at accepted
    obtain ⟨middle, first, accepted⟩ := accepted
    obtain ⟨⟨resolved, reached⟩, overridden, rfl⟩ := map_eq_ok_iff.mp first
    apply inductionHypothesis _ accepted
    exact sound.updateOverrides (fun _ ascending => ascending.set _) overridden

end Registry

/-- What may be asked of the registry of an engine. -/
inductive Amendment where
  | register (operation : OperationId) (policy : Policy)
  | overrideField (operation : OperationId) (kind : PolicyKind) (field value : String)
  | clearOverride (operation : OperationId) (kind : PolicyKind) (field : String)
  | applyOverrides (text : String)

namespace Engine

variable {α : Type} {engine : Engine α} {operation : OperationId}

def amend (engine : Engine α) : Amendment → Engine α
  | .register operation policy => (engine.register operation policy).2
  | .overrideField operation kind field value =>
    (engine.overrideField operation kind field value).2
  | .clearOverride operation kind field => (engine.clearOverride operation kind field).2
  | .applyOverrides text => (engine.applyOverrides text).2

def amendAll (engine : Engine α) (amendments : List Amendment) : Engine α :=
  amendments.foldl amend engine

/-- What becomes of the registry with the answer to an amendment. A refusal leaves it as it was,
and else one operation has a new entry, which depends on the policy that results. -/
def Amends (engine : Engine α) (operation : OperationId) (leads : Policy → Option Registration) :
    Except PolicyError Policy × Engine α → Prop
  | (.error _, after) => after.registry = engine.registry
  | (.ok resolved, after) => ∃ registration, leads resolved = some registration ∧
      engine.registry.Enters operation registration after.registry

theorem changeRegistry_amends {leads : Policy → Option Registration} (accepted refused)
    {result : Except PolicyError (Policy × Registry)}
    (enters : ∀ resolved registry, result = .ok (resolved, registry) →
      ∃ registration, leads resolved = some registration ∧
        engine.registry.Enters operation registration registry) :
    engine.Amends operation leads (engine.changeRegistry accepted refused result) := by
  cases result with
  | error error => exact rfl
  | ok result => exact enters result.1 result.2 rfl

theorem register_amends (engine : Engine α) (operation : OperationId) (policy : Policy) :
    engine.Amends operation
      (fun resolved => some ⟨policy, engine.registry.overrides operation, resolved⟩)
      (engine.register operation policy) := by
  apply changeRegistry_amends
  intro resolved registry registered
  exact ⟨_, rfl, (Registry.publish_ok (Registry.register_ok registered).2).2⟩

/-- An entry whose declaration stays and whose overrides change. -/
def overridden? (engine : Engine α) (operation : OperationId) (change : Overrides → Overrides)
    (resolved : Policy) : Option Registration :=
  (engine.registry.registrations.get? operation).map fun former =>
    ⟨former.declared, change former.overrides, resolved⟩

theorem updateOverrides_amends (change : Overrides → Overrides) (accepted refused) :
    engine.Amends operation (engine.overridden? operation change)
      (engine.changeRegistry accepted refused
        (engine.registry.updateOverrides operation change)) := by
  apply changeRegistry_amends
  intro resolved registry updated
  obtain ⟨former, found, published⟩ := Registry.updateOverrides_ok updated
  exact ⟨_, by rw [overridden?, found]; rfl, (Registry.publish_ok published).2⟩

/-- Overrides are applied in order, up to the first one that is refused. -/
theorem overrideAll_splits (engine : Engine α) (lines : List OverrideLine) :
    ∃ accepted rest registry, lines = accepted ++ rest ∧
      accepted.foldlM Registry.overrideLine engine.registry = .ok registry ∧
      (engine.overrideAll lines).2.registry = registry ∧
      match rest with
      | [] => (engine.overrideAll lines).1 = .ok ()
      | line :: _ => ∃ error, registry.overrideLine line = .error error ∧
          (engine.overrideAll lines).1 = .error error := by
  induction lines generalizing engine with
  | nil => exact ⟨[], [], engine.registry, rfl, rfl, rfl, rfl⟩
  | cons line rest inductionHypothesis =>
    unfold overrideAll overrideField
    cases first : engine.registry.overrideField line.key.operation line.key.kind line.key.field
        line.value with
    | error error =>
      refine ⟨[], line :: rest, engine.registry, rfl, rfl, rfl, error, ?_, rfl⟩
      rw [Registry.overrideLine, first]
      rfl
    | ok result =>
      obtain ⟨accepted, beyond, registry, split, folded, reached, answer⟩ :=
        inductionHypothesis (engine.changeRegistry (Registry.overrideLines line.key.operation
          line.key.kind line.key.field line.value) [] (.ok result)).2
      refine ⟨line :: accepted, beyond, registry, by rw [split]; rfl, ?_, reached, answer⟩
      rw [List.foldlM_cons, Registry.overrideLine, first]
      exact folded

theorem applyOverrides_eq {text : String} {lines : List OverrideLine}
    (read : OverrideLine.ofText text = .ok lines) :
    engine.applyOverrides text =
      ((engine.overrideAll lines).1.map fun _ => lines.length, (engine.overrideAll lines).2) := by
  simp only [applyOverrides, read]
  rcases engine.overrideAll lines with ⟨_ | _, _⟩ <;> rfl

theorem amend_sound (sound : engine.registry.Sound) (amendment : Amendment) :
    (engine.amend amendment).registry.Sound := by
  have changed {accepted refused : List LogLine}
      {result : Except PolicyError (Policy × Registry)}
      (kept : ∀ resolved registry, result = .ok (resolved, registry) → registry.Sound) :
      (engine.changeRegistry accepted refused result).2.registry.Sound := by
    cases result with
    | error error => exact sound
    | ok result => exact kept result.1 result.2 rfl
  cases amendment with
  | register operation policy =>
    apply changed
    intro resolved registry registered
    exact sound.register registered
  | overrideField operation kind field value =>
    apply changed
    intro resolved registry overridden
    exact sound.updateOverrides (fun _ ascending => ascending.set _) overridden
  | clearOverride operation kind field =>
    apply changed
    intro resolved registry cleared
    exact sound.updateOverrides (fun _ ascending => ascending.clear _ _) cleared
  | applyOverrides text =>
    rw [amend]
    cases read : OverrideLine.ofText text with
    | error error =>
      rw [applyOverrides, read]
      exact sound
    | ok lines =>
      obtain ⟨accepted, -, registry, -, folded, reached, -⟩ := engine.overrideAll_splits lines
      rw [applyOverrides_eq read, reached]
      exact sound.overrideLines folded

theorem amendAll_sound (sound : engine.registry.Sound) (amendments : List Amendment) :
    (engine.amendAll amendments).registry.Sound := by
  induction amendments generalizing engine with
  | nil => exact sound
  | cons amendment rest inductionHypothesis => exact inductionHypothesis (amend_sound sound _)

/-- However the registry of an engine is amended, every operation in it has a valid policy that
results from a valid declaration and overrides of its strategies. Amendments that are refused
change nothing, those of one operation change its entry only, and a text of overrides is applied
up to the first line that is refused. -/
theorem registry_sound (engine : Engine α) (amendments : List Amendment) :
    let reached := ({ engine with registry := {} } : Engine α).amendAll amendments
    reached.registry.Sound ∧
      (∀ operation policy, reached.Amends operation
        (fun resolved => some ⟨policy, reached.registry.overrides operation, resolved⟩)
        (reached.register operation policy)) ∧
      (∀ operation kind field value, reached.Amends operation
        (reached.overridden? operation (Overrides.set ⟨kind, Text.trim field, Text.trim value⟩))
        (reached.overrideField operation kind field value)) ∧
      (∀ operation kind field, reached.Amends operation
        (reached.overridden? operation (Overrides.clear kind (Text.trim field)))
        (reached.clearOverride operation kind field)) ∧
      ∀ text, match OverrideLine.ofText text with
        | .error error => reached.applyOverrides text = (.error error, reached)
        | .ok lines => ∃ accepted rest registry, lines = accepted ++ rest ∧
            accepted.foldlM Registry.overrideLine reached.registry = .ok registry ∧
            (reached.applyOverrides text).2.registry = registry ∧
            match rest with
            | [] => (reached.applyOverrides text).1 = .ok lines.length
            | line :: _ => ∃ error, registry.overrideLine line = .error error ∧
                (reached.applyOverrides text).1 = .error error := by
  intro reached
  refine ⟨amendAll_sound Registry.sound_empty amendments, register_amends reached,
    fun operation kind field value => updateOverrides_amends _ _ _,
    fun operation kind field => updateOverrides_amends _ _ _, ?_⟩
  intro text
  cases read : OverrideLine.ofText text with
  | error error =>
    rw [applyOverrides, read]
  | ok lines =>
    obtain ⟨accepted, rest, registry, split, folded, same, answer⟩ :=
      reached.overrideAll_splits lines
    rw [applyOverrides_eq read]
    refine ⟨accepted, rest, registry, split, folded, same, ?_⟩
    cases rest with
    | nil => exact congrArg (Except.map fun _ => lines.length) answer
    | cons line rest =>
      obtain ⟨error, refused, answered⟩ := answer
      exact ⟨error, refused, congrArg (Except.map fun _ => lines.length) answered⟩

end Engine

end Resilience
