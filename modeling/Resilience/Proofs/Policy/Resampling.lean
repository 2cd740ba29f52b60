import Mathlib.Data.List.Forall2
import Resilience.Proofs.Policy.Registry

/-!
Resampling: a policy whose breaker takes samples of something else is as valid as before, and the
same amendments of a registry make of it what they make of the policy itself, but for what the
breaker takes samples of. Nor does it matter what an override says about that.
-/

namespace Resilience

/-- Whether two computations fail for the same reason, or have results that are related. -/
inductive Agree {ε α : Type} (related : α → α → Prop) : Except ε α → Except ε α → Prop
  | error (error : ε) : Agree related (.error error) (.error error)
  | ok {first second : α} (alike : related first second) : Agree related (.ok first) (.ok second)

namespace Agree

variable {ε φ α β : Type} {related : α → α → Prop} {wider : β → β → Prop}
  {first second : Except ε α}

theorem refl (reflexive : ∀ value, related value value) (result : Except ε α) :
    Agree related result result := by
  cases result with
  | error error => exact .error error
  | ok value => exact .ok (reflexive value)

theorem bind (agree : Agree related first second) {next later : α → Except ε β}
    (goesOn : ∀ value other, related value other → Agree wider (next value) (later other)) :
    Agree wider (first >>= next) (second >>= later) := by
  cases agree with
  | error error => exact .error error
  | ok alike => exact goesOn _ _ alike

theorem map (agree : Agree related first second) {change other : α → β}
    (changed : ∀ value twin, related value twin → wider (change value) (other twin)) :
    Agree wider (first.map change) (second.map other) := by
  cases agree with
  | error error => exact .error error
  | ok alike => exact .ok (changed _ _ alike)

theorem mapError (agree : Agree related first second) (change : ε → φ) :
    Agree related (first.mapError change) (second.mapError change) := by
  cases agree with
  | error error => exact .error (change error)
  | ok alike => exact .ok alike

end Agree

/-- How two runs may differ: in what the policies of an operation declare that its breaker takes
samples of, and, if `overriding` holds, in what overrides say of that. -/
structure Leeway where
  operation : OperationId
  overriding : Prop

/-- Whether two overrides differ at most in what they make a breaker take samples of. -/
inductive FieldOverride.Twins (overriding : Prop) : FieldOverride → FieldOverride → Prop
  | same (entry : FieldOverride) : Twins overriding entry entry
  | sampling {value other : String} {sampling twin : Sampling} (allowed : overriding)
      (reads : Sampling.ofText value = .ok sampling) (reads' : Sampling.ofText other = .ok twin) :
      Twins overriding ⟨.breaker, BreakerField.sampling.name, value⟩
        ⟨.breaker, BreakerField.sampling.name, other⟩

namespace FieldOverride.Twins

variable {overriding : Prop} {entry twin : FieldOverride}

theorem kind (twins : entry.Twins overriding twin) : twin.kind = entry.kind := by
  cases twins <;> rfl

theorem field (twins : entry.Twins overriding twin) : twin.field = entry.field := by
  cases twins <;> rfl

end FieldOverride.Twins

/-- Whether the overrides of two entries for an operation differ at most in what they make its
breaker take samples of, and not even in that unless it is a certain operation. -/
structure Overrides.Twins (leeway : Leeway) (entered : OperationId) (overrides twin : Overrides) :
    Prop where
  alike : List.Forall₂ (FieldOverride.Twins leeway.overriding) overrides twin
  elsewhere : entered ≠ leeway.operation → twin = overrides

namespace Overrides

variable {overriding : Prop} {leeway : Leeway} {entered : OperationId} {overrides twin : Overrides}

theorem Twins.refl (leeway : Leeway) (entered : OperationId) (overrides : Overrides) :
    overrides.Twins leeway entered overrides :=
  ⟨List.forall₂_same.mpr fun entry _ => .same entry, fun _ => rfl⟩

theorem set_twins {added other : FieldOverride} (adds : added.Twins overriding other)
    (alike : List.Forall₂ (FieldOverride.Twins overriding) overrides twin) :
    List.Forall₂ (FieldOverride.Twins overriding) (overrides.set added) (twin.set other) := by
  induction alike with
  | nil => exact .cons adds .nil
  | @cons entry paired rest others same alike inductionHypothesis =>
    have sameField : other.sameField paired = added.sameField entry := by
      simp only [FieldOverride.sameField, adds.kind, adds.field, same.kind, same.field]
    have before : other.before paired = added.before entry := by
      simp only [FieldOverride.before, adds.kind, adds.field, same.kind, same.field]
    simp only [set, sameField, before]
    split
    · exact .cons adds alike
    · split
      · exact .cons adds (.cons same alike)
      · exact .cons same inductionHypothesis

/-- Overrides that are alike stay so whichever are taken out by their kinds and fields. -/
theorem filter_twins {test : FieldOverride → Bool}
    (blind : ∀ entry other : FieldOverride, entry.Twins overriding other → test other = test entry)
    (alike : List.Forall₂ (FieldOverride.Twins overriding) overrides twin) :
    List.Forall₂ (FieldOverride.Twins overriding) (overrides.filter test) (twin.filter test) :=
  List.rel_filter
    (fun entry other same => (Bool.eq_iff_iff.mp (blind entry other same)).symm) alike

theorem ordered_twins (alike : List.Forall₂ (FieldOverride.Twins overriding) overrides twin) :
    List.Forall₂ (FieldOverride.Twins overriding) overrides.ordered twin.ordered := by
  unfold ordered
  refine List.rel_flatMap (List.forall₂_same.mpr fun _ _ => rfl) fun kind _ same => ?_
  subst same
  refine List.rel_flatMap (List.forall₂_same.mpr fun _ _ => rfl) fun rank _ same => ?_
  subst same
  exact filter_twins (fun entry other same => by simp only [same.kind, same.field]) alike

namespace Twins

theorem set (twins : overrides.Twins leeway entered twin) {added other : FieldOverride}
    (adds : added.Twins leeway.overriding other)
    (elsewhere : entered ≠ leeway.operation → other = added) :
    (overrides.set added).Twins leeway entered (twin.set other) :=
  ⟨set_twins adds twins.alike, fun differs => by rw [elsewhere differs, twins.elsewhere differs]⟩

theorem clear (twins : overrides.Twins leeway entered twin) (kind : PolicyKind) (field : String) :
    (overrides.clear kind field).Twins leeway entered (twin.clear kind field) :=
  ⟨filter_twins (fun entry other same => by simp only [same.kind, same.field]) twins.alike,
    fun differs => by rw [twins.elsewhere differs]⟩

end Twins

end Overrides

def BreakerPolicy.resampled (policy : BreakerPolicy) (sampling : Sampling) : BreakerPolicy :=
  { policy with sampling }

/-- Whether two breaker policies differ at most in what they take samples of. -/
def BreakerPolicy.Resampled (policy other : BreakerPolicy) : Prop :=
  ∃ sampling, other = policy.resampled sampling

def Policy.resampled (policy : Policy) (sampling : Sampling) : Policy :=
  { policy with breaker := policy.breaker.map fun breaker => breaker.resampled sampling }

/-- Whether two policies differ at most in what their breakers take samples of. -/
def Policy.Resampled (policy other : Policy) : Prop :=
  ∃ sampling, other = policy.resampled sampling

theorem BreakerPolicy.Resampled.set {policy other : BreakerPolicy}
    (resampled : policy.Resampled other) (field : BreakerField) (text : String) :
    Agree BreakerPolicy.Resampled (policy.set field text) (other.set field text) := by
  obtain ⟨sampling, rfl⟩ := resampled
  have reads {α : Type} (read : Except FieldProblem α) (change : α → BreakerPolicy)
      (other : α → BreakerPolicy) (changed : ∀ value, (change value).Resampled (other value)) :
      Agree BreakerPolicy.Resampled (read >>= fun value => pure (change value))
        (read >>= fun value => pure (other value)) :=
    (Agree.refl (fun _ => rfl) read).bind fun value other same => same ▸ .ok (changed value)
  cases field with
  | sampling => exact reads _ _ _ fun named => ⟨named, rfl⟩
  | failOn => exact .ok ⟨sampling, rfl⟩
  | skipOn => exact .ok ⟨sampling, rfl⟩
  | _ => exact reads _ _ _ fun _ => ⟨sampling, rfl⟩

theorem BreakerPolicy.Resampled.setField {policy other : BreakerPolicy}
    (resampled : policy.Resampled other) (field text : String) :
    Agree BreakerPolicy.Resampled (policy.setField field text) (other.setField field text) := by
  unfold BreakerPolicy.setField setNamed
  split
  next found _ => exact (resampled.set found text).mapError _
  next => exact .error _

namespace Policy

variable {policy other : Policy}

theorem Resampled.refl (policy : Policy) : policy.Resampled policy := by
  rcases policy with ⟨retry, timeout, _ | breaker, bulkhead, fallback⟩
  · exact ⟨.invocation, rfl⟩
  · exact ⟨breaker.sampling, rfl⟩

theorem Resampled.declares_eq (resampled : policy.Resampled other) (kind : PolicyKind) :
    other.declares kind = policy.declares kind := by
  obtain ⟨sampling, rfl⟩ := resampled
  cases kind with
  | breaker => exact Option.isSome_map
  | _ => rfl

theorem problemOf?_resampled (policy : Policy) (sampling : Sampling) (kind : PolicyKind) :
    (policy.resampled sampling).problemOf? kind = policy.problemOf? kind := by
  rcases policy with ⟨retry, timeout, _ | breaker, bulkhead, fallback⟩ <;> cases kind <;> rfl

theorem Resampled.error?_eq (resampled : policy.Resampled other) :
    other.error? = policy.error? := by
  obtain ⟨sampling, rfl⟩ := resampled
  unfold error?
  simp only [problemOf?_resampled]

theorem Resampled.remove (resampled : policy.Resampled other) (kind : PolicyKind) :
    (policy.remove kind).Resampled (other.remove kind) := by
  obtain ⟨sampling, rfl⟩ := resampled
  refine ⟨sampling, ?_⟩
  cases kind <;> rfl

theorem Resampled.setPart (resampled : policy.Resampled other) (kind : PolicyKind)
    (field text : String) :
    Agree Resampled (policy.setPart kind field text) (other.setPart kind field text) := by
  obtain ⟨sampling, rfl⟩ := resampled
  rcases policy with ⟨retry, timeout, breaker, bulkhead, fallback⟩
  have sets {α : Type} (result : Except PolicyError α) (change : α → Policy) :
      Agree Resampled (result.map change)
        (result.map fun part => (change part).resampled sampling) :=
    (Agree.refl (fun _ => rfl) result).map fun part twin same => same ▸ ⟨sampling, rfl⟩
  cases kind with
  | retry =>
    cases retry with
    | none => exact .ok ⟨sampling, rfl⟩
    | some part => exact sets _ _
  | timeout =>
    cases timeout with
    | none => exact .ok ⟨sampling, rfl⟩
    | some part => exact sets _ _
  | breaker =>
    cases breaker with
    | none => exact .ok ⟨sampling, rfl⟩
    | some part =>
      have resampled : part.Resampled (part.resampled sampling) := ⟨sampling, rfl⟩
      refine (resampled.setField field text).map ?_
      rintro first _ ⟨other, rfl⟩
      exact ⟨other, rfl⟩
  | bulkhead =>
    cases bulkhead with
    | none => exact .ok ⟨sampling, rfl⟩
    | some part => exact sets _ _
  | fallback =>
    cases fallback with
    | none => exact .ok ⟨sampling, rfl⟩
    | some part => exact sets _ _

theorem Resampled.applyField (resampled : policy.Resampled other) (operation : OperationId)
    (kind : PolicyKind) (field text : String) :
    Agree Resampled (policy.applyField operation kind field text)
      (other.applyField operation kind field text) := by
  unfold Policy.applyField
  rw [resampled.declares_eq]
  split
  · exact .error _
  split
  · split
    next enabled _ =>
      cases enabled with
      | true => exact .ok resampled
      | false => exact .ok (resampled.remove kind)
    next => exact .error _
  · exact resampled.setPart kind field text

variable {declared twin : Policy}

theorem Resampled.applyOverride (sampled : declared.Resampled twin)
    (resampled : policy.Resampled other) (operation : OperationId) (entry : FieldOverride) :
    Agree Resampled (declared.applyOverride operation policy entry)
      (twin.applyOverride operation other entry) := by
  unfold Policy.applyOverride
  rw [sampled.declares_eq, resampled.declares_eq]
  split
  · exact .error _
  split
  · exact .ok resampled
  · exact resampled.applyField operation entry.kind entry.field entry.value

/-- An override of what the breaker takes samples of is accepted with any value that can be read. -/
theorem setPart_sampling (policy : Policy) {text : String} {sampling : Sampling}
    (reads : Sampling.ofText text = .ok sampling) :
    policy.setPart .breaker BreakerField.sampling.name text =
      .ok (policy.resampled sampling) := by
  rcases policy with ⟨retry, timeout, _ | breaker, bulkhead, fallback⟩
  · rfl
  · have set : breaker.setField BreakerField.sampling.name text =
        .ok (breaker.resampled sampling) := by
      show ((Sampling.ofText text >>= fun sampling =>
        pure (breaker.resampled sampling)).mapError _ : Except PolicyError BreakerPolicy) = _
      rw [reads]
      rfl
    show (breaker.setField BreakerField.sampling.name text).map _ = _
    rw [set]
    rfl

theorem Resampled.again (resampled : policy.Resampled other) (first second : Sampling) :
    (policy.resampled first).Resampled (other.resampled second) := by
  obtain ⟨sampling, rfl⟩ := resampled
  rcases policy with ⟨retry, timeout, _ | breaker, bulkhead, fallback⟩
  · exact ⟨.invocation, rfl⟩
  · exact ⟨second, rfl⟩

theorem Resampled.applyOverride_twins {overriding : Prop} (sampled : declared.Resampled twin)
    (resampled : policy.Resampled other) (operation : OperationId) {entry paired : FieldOverride}
    (alike : entry.Twins overriding paired) :
    Agree Resampled (declared.applyOverride operation policy entry)
      (twin.applyOverride operation other paired) := by
  cases alike with
  | same => exact sampled.applyOverride resampled operation entry
  | @sampling value text first second _ reads reads' =>
    unfold Policy.applyOverride Policy.applyField
    rw [sampled.declares_eq, resampled.declares_eq]
    split
    · exact .error _
    split
    · exact .ok resampled
    split
    · exact absurd ‹_› (by decide : BreakerField.sampling.name ≠ "enabled")
    · rw [setPart_sampling policy reads, setPart_sampling other reads']
      exact .ok (resampled.again first second)

theorem Resampled.applyOverrides {overriding : Prop} (sampled : declared.Resampled twin)
    (resampled : policy.Resampled other) (operation : OperationId) {row others : List FieldOverride}
    (alike : List.Forall₂ (FieldOverride.Twins overriding) row others) :
    Agree Resampled (row.foldlM (declared.applyOverride operation) policy)
      (others.foldlM (twin.applyOverride operation) other) := by
  induction alike generalizing policy other with
  | nil => exact .ok resampled
  | cons same _ inductionHypothesis =>
    rw [List.foldlM_cons, List.foldlM_cons]
    exact (sampled.applyOverride_twins resampled operation same).bind
      fun _ _ resampled => inductionHypothesis resampled

theorem Resampled.resolve {overriding : Prop} (sampled : declared.Resampled twin)
    (operation : OperationId) {overrides others : Overrides}
    (alike : List.Forall₂ (FieldOverride.Twins overriding) overrides others) :
    Agree Resampled (declared.resolve operation overrides) (twin.resolve operation others) := by
  refine (sampled.applyOverrides sampled operation (Overrides.ordered_twins alike)).bind
    fun policy other resampled => ?_
  rw [resampled.error?_eq]
  cases policy.error? with
  | some error => exact .error error
  | none => exact .ok resampled

end Policy

/-- Whether two policies of an operation differ at most in what the breaker takes samples of, and
not even in that unless it is a certain operation. -/
structure Policy.Twins (operation entered : OperationId) (policy twin : Policy) : Prop where
  resampled : policy.Resampled twin
  elsewhere : entered ≠ operation → twin = policy

theorem Policy.Twins.refl (operation entered : OperationId) (policy : Policy) :
    policy.Twins operation entered policy :=
  ⟨.refl policy, fun _ => rfl⟩

theorem Policy.Twins.resolve {leeway : Leeway} {entered : OperationId} {declared twin : Policy}
    (twins : declared.Twins leeway.operation entered twin) {overrides others : Overrides}
    (alike : overrides.Twins leeway entered others) :
    Agree (Policy.Twins leeway.operation entered) (declared.resolve entered overrides)
      (twin.resolve entered others) := by
  by_cases here : entered = leeway.operation
  · have resolved := twins.resampled.resolve entered alike.alike
    generalize declared.resolve entered overrides = result at resolved ⊢
    generalize twin.resolve entered others = other at resolved ⊢
    cases resolved with
    | error error => exact .error error
    | ok resampled => exact .ok ⟨resampled, fun elsewhere => absurd here elsewhere⟩
  · rw [twins.elsewhere here, alike.elsewhere here]
    exact .refl (.refl leeway.operation entered) _

/-- Whether two entries for an operation differ at most in what their breakers take samples of, and
not even in that unless it is a certain operation. -/
structure Registration.Twins (leeway : Leeway) (entered : OperationId)
    (registration twin : Registration) : Prop where
  overrides : registration.overrides.Twins leeway entered twin.overrides
  declared : registration.declared.Twins leeway.operation entered twin.declared
  resolved : registration.resolved.Twins leeway.operation entered twin.resolved

namespace Registry

/-- Whether two registries differ at most in what the breaker of one operation takes samples of. -/
def Twins (leeway : Leeway) (registry twin : Registry) : Prop :=
  ∀ entered, Option.Rel (Registration.Twins leeway entered)
    (registry.registrations.get? entered) (twin.registrations.get? entered)

/-- Whether two entries that were accepted differ at most in what the breaker of one operation takes
samples of. -/
structure Published (leeway : Leeway) (entered : OperationId) (published twin : Policy × Registry) :
    Prop where
  policy : published.1.Twins leeway.operation entered twin.1
  registry : published.2.Twins leeway twin.2

variable {leeway : Leeway} {registry twin : Registry}

/-- A fact about an entry that its twin shares holds of both registries or of neither. -/
theorem Twins.entry {α : Type} (twins : registry.Twins leeway twin) (entered : OperationId)
    (read : Option Registration → α)
    (alike : ∀ registration other, registration.Twins leeway entered other →
      read (some other) = read (some registration)) :
    read (twin.registrations.get? entered) = read (registry.registrations.get? entered) := by
  have entry := twins entered
  generalize registry.registrations.get? entered = first at entry
  generalize twin.registrations.get? entered = second at entry
  cases entry with
  | none => rfl
  | some same => exact alike _ _ same

theorem Twins.overrides (twins : registry.Twins leeway twin) (entered : OperationId) :
    (registry.overrides entered).Twins leeway entered (twin.overrides entered) := by
  have entry := twins entered
  unfold Registry.overrides
  generalize registry.registrations.get? entered = first at entry
  generalize twin.registrations.get? entered = second at entry
  cases entry with
  | none => exact .refl leeway entered []
  | some same => exact same.overrides

theorem Twins.contains_eq (twins : registry.Twins leeway twin) (entered : OperationId) :
    twin.registrations.contains entered = registry.registrations.contains entered :=
  twins.entry entered Option.isSome fun _ _ _ => rfl

theorem Twins.resolve? (twins : registry.Twins leeway twin) (entered : OperationId) :
    Option.Rel (Policy.Twins leeway.operation entered) (registry.resolve? entered)
      (twin.resolve? entered) := by
  have entry := twins entered
  unfold Registry.resolve?
  generalize registry.registrations.get? entered = first at entry
  generalize twin.registrations.get? entered = second at entry
  cases entry with
  | none => exact .none
  | some same => exact .some same.resolved

theorem Twins.isSome_eq (twins : registry.Twins leeway twin) (entered : OperationId) :
    (twin.resolve? entered).isSome = (registry.resolve? entered).isSome :=
  twins.entry entered (fun entry => (entry.map Registration.resolved).isSome) fun _ _ _ => rfl

theorem Twins.publish (twins : registry.Twins leeway twin) {entered : OperationId}
    {declared sampled : Policy} (alike : declared.Twins leeway.operation entered sampled)
    {overrides others : Overrides} (overridden : overrides.Twins leeway entered others) :
    Agree (Published leeway entered) (registry.publish entered declared overrides)
      (twin.publish entered sampled others) := by
  refine (alike.resolve overridden).bind fun policy other resolved => .ok ⟨resolved, ?_⟩
  intro other
  simp only [Table.get?_set]
  split
  next same => exact .some ⟨same ▸ overridden, same ▸ alike, same ▸ resolved⟩
  next => exact twins other

theorem Twins.register (twins : registry.Twins leeway twin) {entered : OperationId}
    {policy sampled : Policy} (alike : policy.Twins leeway.operation entered sampled) :
    Agree (Published leeway entered) (registry.register entered policy)
      (twin.register entered sampled) := by
  unfold Registry.register
  rw [alike.resampled.error?_eq]
  cases policy.error? with
  | some error => exact .error error
  | none => exact twins.publish alike (twins.overrides entered)

theorem Twins.registerLines_eq (twins : registry.Twins leeway twin) {entered : OperationId}
    {policy sampled : Policy} (alike : policy.Twins leeway.operation entered sampled) :
    twin.registerLines entered sampled = registry.registerLines entered policy := by
  unfold registerLines
  rw [alike.resampled.error?_eq, twins.contains_eq]

theorem Twins.updateOverrides (twins : registry.Twins leeway twin) (entered : OperationId)
    {change other : Overrides → Overrides}
    (changes : ∀ overrides others, overrides.Twins leeway entered others →
      (change overrides).Twins leeway entered (other others)) :
    Agree (Published leeway entered) (registry.updateOverrides entered change)
      (twin.updateOverrides entered other) := by
  have entry := twins entered
  unfold Registry.updateOverrides
  generalize registry.registrations.get? entered = first at entry
  generalize twin.registrations.get? entered = second at entry
  cases entry with
  | none => exact .error _
  | some same => exact twins.publish same.declared (changes _ _ same.overrides)

end Registry

end Resilience
