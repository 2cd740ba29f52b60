import Resilience.Policy.Registry

/-!
Resolution: overrides are kept in one order, each field at most once, and applied in another. A
policy that results is valid, and only declared strategies are overridden.
-/

namespace Resilience

theorem bind_eq_ok_iff {ε α β : Type} {result : Except ε α} {next : α → Except ε β} {last : β} :
    result >>= next = .ok last ↔ ∃ middle, result = .ok middle ∧ next middle = .ok last := by
  cases result with
  | error error => exact ⟨nofun, fun ⟨_, missing, _⟩ => nomatch missing⟩
  | ok value =>
    constructor
    · intro leads
      exact ⟨value, rfl, leads⟩
    · rintro ⟨_, same, leads⟩
      cases same
      exact leads

theorem map_eq_ok_iff {ε α β : Type} {result : Except ε α} {change : α → β} {last : β} :
    result.map change = .ok last ↔ ∃ middle, result = .ok middle ∧ change middle = last := by
  cases result <;> simp [Except.map]

namespace PolicyKind

theorem index_inj {a b : PolicyKind} (same : a.index = b.index) : a = b := by
  cases a <;> cases b <;> first | rfl | cases same

end PolicyKind

namespace FieldOverride

variable {a b c : FieldOverride}

theorem sameField_iff : a.sameField b = true ↔ a.kind = b.kind ∧ a.field = b.field := by
  simp [sameField]

theorem before_iff : a.before b = true ↔
    a.kind.index < b.kind.index ∨ a.kind = b.kind ∧ a.field < b.field := by
  simp [before]

theorem before_trans (first : a.before b = true) (second : b.before c = true) :
    a.before c = true := by
  rw [before_iff] at *
  rcases first with lower | ⟨same, lower⟩ <;> rcases second with higher | ⟨alike, higher⟩
  · exact .inl (Nat.lt_trans lower higher)
  · exact .inl (alike ▸ lower)
  · exact .inl (same ▸ higher)
  · exact .inr ⟨same.trans alike, String.lt_trans lower higher⟩

theorem before_of_not (differs : ¬a.sameField b = true) (later : ¬a.before b = true) :
    b.before a = true := by
  rw [sameField_iff] at differs
  rw [before_iff] at *
  rw [not_or, not_and] at later
  rcases Nat.lt_or_eq_of_le (Nat.not_lt.mp later.1) with lower | same
  · exact .inl lower
  · have alike := PolicyKind.index_inj same
    refine .inr ⟨alike, ?_⟩
    apply Std.lt_of_le_of_ne (String.not_lt.mp (later.2 alike.symm))
    exact fun equal => differs ⟨alike.symm, equal.symm⟩

theorem before_congr (same : a.sameField b = true) : b.before c = a.before c := by
  rw [sameField_iff] at same
  rw [before, before, same.1, same.2]

theorem not_sameField_of_before (earlier : a.before b = true) : ¬a.sameField b = true := by
  rw [before_iff] at earlier
  rw [sameField_iff]
  rintro ⟨kind, field⟩
  rcases earlier with lower | ⟨-, lower⟩
  · exact Nat.lt_irrefl _ (kind ▸ lower)
  · exact String.lt_irrefl _ (field ▸ lower)

theorem rank_cases (field : String) :
    rank field = 0 ∧ field = "backoff" ∨ rank field = 2 ∧ field = "enabled" ∨
      rank field = 1 ∧ field ≠ "backoff" ∧ field ≠ "enabled" := by
  unfold rank
  split
  · exact .inl ⟨rfl, ‹_›⟩
  · split
    · exact .inr (.inl ⟨rfl, ‹_›⟩)
    · exact .inr (.inr ⟨rfl, ‹_›, ‹_›⟩)

end FieldOverride

namespace Overrides

variable {overrides : Overrides}

/-- Whether overrides stand in order, so that none concerns the field of another. -/
def Ascending (overrides : Overrides) : Prop := overrides.Pairwise fun a b => a.before b = true

theorem mem_set {added entry : FieldOverride} (member : entry ∈ overrides.set added) :
    entry = added ∨ entry ∈ overrides := by
  induction overrides with
  | nil => simpa [set] using member
  | cons head rest inductionHypothesis =>
    rw [set] at member
    split at member
    · rcases List.mem_cons.mp member with same | later
      · exact .inl same
      · exact .inr (.tail _ later)
    · split at member
      · exact List.mem_cons.mp member
      · rcases List.mem_cons.mp member with rfl | later
        · exact .inr (.head _)
        · exact (inductionHypothesis later).imp id (.tail _)

theorem Ascending.set (ascending : overrides.Ascending) (added : FieldOverride) :
    (overrides.set added).Ascending := by
  induction overrides with
  | nil => exact List.pairwise_singleton _ _
  | cons head rest inductionHypothesis =>
    obtain ⟨first, later⟩ := List.pairwise_cons.mp ascending
    rw [Overrides.set]
    split
    next same =>
      apply List.pairwise_cons.mpr
      refine ⟨fun entry member => ?_, later⟩
      rw [← FieldOverride.before_congr same]
      exact first entry member
    next differs =>
      split
      next earlier =>
        apply List.pairwise_cons.mpr
        refine ⟨fun entry member => ?_, ascending⟩
        rcases List.mem_cons.mp member with rfl | beyond
        · exact earlier
        · exact FieldOverride.before_trans earlier (first entry beyond)
      next notEarlier =>
        apply List.pairwise_cons.mpr
        refine ⟨fun entry member => ?_, inductionHypothesis later⟩
        rcases mem_set member with rfl | old
        · exact FieldOverride.before_of_not differs notEarlier
        · exact first entry old

theorem Ascending.clear (ascending : overrides.Ascending) (kind : PolicyKind) (field : String) :
    (overrides.clear kind field).Ascending :=
  List.Pairwise.filter _ ascending

@[simp] theorem mem_ordered {entry : FieldOverride} :
    entry ∈ overrides.ordered ↔ entry ∈ overrides := by
  simp only [ordered, List.mem_flatMap, List.mem_filter, decide_eq_true_eq]
  constructor
  · rintro ⟨_, -, _, -, member, -⟩
    exact member
  · intro member
    refine ⟨entry.kind, PolicyKind.mem_all _, FieldOverride.rank entry.field, ?_, member, rfl, rfl⟩
    rcases FieldOverride.rank_cases entry.field with same | same | same <;> simp [same.1]

end Overrides

namespace Policy

variable {declared resolved : Policy} {operation : OperationId}

theorem declares_of_applied {row : List FieldOverride} {policy : Policy}
    (applied : row.foldlM (declared.applyOverride operation) policy = .ok resolved) :
    ∀ entry ∈ row, declared.declares entry.kind = true := by
  induction row generalizing policy with
  | nil => simp
  | cons head rest inductionHypothesis =>
    rw [List.foldlM_cons, bind_eq_ok_iff] at applied
    obtain ⟨middle, first, applied⟩ := applied
    intro entry member
    rcases List.mem_cons.mp member with rfl | later
    · cases known : declared.declares entry.kind with
      | true => rfl
      | false => simp [applyOverride, known] at first
    · exact inductionHypothesis applied entry later

theorem resolve_eq_ok_iff {overrides : Overrides} :
    declared.resolve operation overrides = .ok resolved ↔
      overrides.ordered.foldlM (declared.applyOverride operation) declared = .ok resolved ∧
        resolved.Valid := by
  unfold resolve
  cases applied : overrides.ordered.foldlM (declared.applyOverride operation) declared with
  | error error => exact ⟨nofun, fun ⟨applied, _⟩ => nomatch applied⟩
  | ok result =>
    simp only [bind, Except.bind, ← error?_eq_none_iff]
    cases problem : result.error? with
    | some error =>
      refine ⟨nofun, fun ⟨same, valid⟩ => ?_⟩
      cases same
      rw [problem] at valid
      cases valid
    | none =>
      constructor
      · intro same
        cases same
        exact ⟨rfl, problem⟩
      · rintro ⟨same, -⟩
        exact same

end Policy

end Resilience
