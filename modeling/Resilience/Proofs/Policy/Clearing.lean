import Resilience.Proofs.Policy.Validity

/-!
Overrides taken back one at a time. Between two valid strategies some field can always be put back:
the delay of retries where it was raised and their limit where it was lowered, and of its value and
its unit the one that is better for it. The fields that depend on the backoff go before it, and the
switch goes last.
-/

namespace Resilience

namespace Form

variable {Part : Type} {form : Form Part} {base after less : Part} {field : String}

/-- Whether a strategy is another one with a field put back to what it held before. -/
def Restores (form : Form Part) (base after : Part) (field : String) (less : Part) : Prop :=
  ∀ other, form.valueOf? less other =
    if other = field then form.valueOf? base other else form.valueOf? after other

theorem Restores.mixes (restores : form.Restores base after field less) (known : form.Field) :
    form.value? less known = form.value? base known ∨
      form.value? less known = form.value? after known := by
  have held := restores (form.name known)
  simp only [valueOf?_name] at held
  split at held
  · exact .inl held
  · exact .inr held

end Form

namespace RetryPolicy

variable {base after less : RetryPolicy} {field : RetryField}

theorem value?_restored (restores : form.Restores base after field.name less)
    (other : RetryField) :
    less.value? other = if other = field then base.value? other else after.value? other := by
  have held (part : RetryPolicy) := form.valueOf?_name part other
  by_cases same : other = field
  · subst same
    rw [if_pos rfl]
    exact (held less).symm.trans ((restores _).trans ((if_pos rfl).trans (held base)))
  · have apart : form.name other ≠ field.name := fun name => same (form.name_inj name)
    rw [if_neg same]
    exact (held less).symm.trans ((restores _).trans ((if_neg apart).trans (held after)))

theorem amounts_restored (restores : form.Restores base after field.name less) :
    less.delay = ⟨if .delay = field then base.delay.value else after.delay.value,
        if .delayUnit = field then base.delay.unit else after.delay.unit⟩ ∧
      less.maxDuration =
        ⟨if .maxDuration = field then base.maxDuration.value else after.maxDuration.value,
          if .durationUnit = field then base.maxDuration.unit else after.maxDuration.unit⟩ := by
  have held := value?_restored restores
  have delay := held .delay
  have delayUnit := held .delayUnit
  have maxDuration := held .maxDuration
  have durationUnit := held .durationUnit
  clear held
  cases field <;> simp_all [value?, Amount.eq_iff]

/-- Whether some field can be put back that holds another value than before, and leave the limit
above the delay. -/
def Restorable (base after : RetryPolicy) : Prop :=
  ∃ field : RetryField, base.value? field ≠ after.value? field ∧
    ∀ less, form.Restores base after field.name less → less.maxDuration.Above less.delay

theorem restorable_delay (former : after.maxDuration.Above base.delay)
    (current : after.maxDuration.Above after.delay) (differ : base.delay ≠ after.delay) :
    base.Restorable after := by
  rcases former.mix_delay current differ with ⟨differs, above⟩ | ⟨differs, above⟩
  · refine ⟨.delay, by simpa [value?] using differs, fun less restores => ?_⟩
    obtain ⟨delay, limit⟩ := amounts_restored restores
    simpa [delay, limit] using above
  · refine ⟨.delayUnit, by simpa [value?] using differs, fun less restores => ?_⟩
    obtain ⟨delay, limit⟩ := amounts_restored restores
    simpa [delay, limit] using above

theorem restorable_limit (former : base.maxDuration.Above after.delay)
    (current : after.maxDuration.Above after.delay)
    (differ : base.maxDuration ≠ after.maxDuration) : base.Restorable after := by
  rcases former.mix_limit current differ with ⟨differs, above⟩ | ⟨differs, above⟩
  · refine ⟨.maxDuration, by simpa [value?] using differs, fun less restores => ?_⟩
    obtain ⟨delay, limit⟩ := amounts_restored restores
    simpa [delay, limit] using above
  · refine ⟨.durationUnit, by simpa [value?] using differs, fun less restores => ?_⟩
    obtain ⟨delay, limit⟩ := amounts_restored restores
    simpa [delay, limit] using above

/-- A delay that was raised can go down, and otherwise the limit can go up, unless it is the other
one of the two that differs. -/
theorem restorable (former : base.maxDuration.Above base.delay)
    (current : after.maxDuration.Above after.delay)
    (differ : ¬(base.delay = after.delay ∧ base.maxDuration = after.maxDuration)) :
    base.Restorable after := by
  rcases Nat.le_total base.delay.toDuration.nanos after.delay.toDuration.nanos with raised | lowered
  · by_cases same : base.delay = after.delay
    · exact restorable_limit (same ▸ former) current fun limits => differ ⟨same, limits⟩
    · exact restorable_delay (current.mono id (Nat.le_refl _) raised) current same
  · by_cases same : base.maxDuration = after.maxDuration
    · exact restorable_delay (same ▸ former) current fun delays => differ ⟨delays, same⟩
    · exact restorable_limit (former.mono id (Nat.le_refl _) lowered) current same

/-- Whatever is put back, the amounts in which two retries are alike stay. -/
theorem amounts_of_mixes (mixes : ∀ field, less.value? field = base.value? field ∨
    less.value? field = after.value? field)
    (same : base.delay = after.delay ∧ base.maxDuration = after.maxDuration) :
    less.delay = after.delay ∧ less.maxDuration = after.maxDuration := by
  have delay := mixes .delay
  have delayUnit := mixes .delayUnit
  have maxDuration := mixes .maxDuration
  have durationUnit := mixes .durationUnit
  clear mixes
  simp_all [value?, Amount.eq_iff]

end RetryPolicy

namespace PolicyKind

variable {kind : PolicyKind} {row : List FieldOverride} {part base after : kind.Part}
  {result : Option kind.Part}

/-- Between two valid strategies some overridden field can be put back. -/
theorem exists_restorable (filled : kind.form.Filled kind row base after)
    (former : kind.problem? base = none) (current : kind.problem? after = none)
    (nonempty : row ≠ []) :
    ∃ entry ∈ row, ∀ less, kind.form.Restores base after entry.field less →
      kind.problem? less = none := by
  rw [problem?_eq_none_iff] at former current
  suffices limited : ∃ entry ∈ row, ∀ less, kind.form.Restores base after entry.field less →
      kind.Limited less by
    obtain ⟨entry, member, limited⟩ := limited
    refine ⟨entry, member, fun less restores => ?_⟩
    refine problem?_eq_none_iff.mpr ⟨fun field value held => ?_, limited less restores⟩
    rcases restores.mixes field with same | same
    · exact former.1 field value (same ▸ held)
    · exact current.1 field value (same ▸ held)
  obtain ⟨entry, member⟩ := List.exists_mem_of_ne_nil row nonempty
  cases kind with
  | retry =>
    by_cases same : base.delay = after.delay ∧ base.maxDuration = after.maxDuration
    · refine ⟨entry, member, fun less restores => ?_⟩
      obtain ⟨delay, limit⟩ := RetryPolicy.amounts_of_mixes restores.mixes same
      show less.maxDuration.Above less.delay
      rw [delay, limit]
      exact current.2
    · obtain ⟨field, differs, above⟩ := RetryPolicy.restorable former.2 current.2 same
      -- A field that no override concerns would hold the same as before.
      obtain ⟨entry, member, name⟩ : ∃ entry ∈ row, entry.field = field.name := by
        refine Classical.not_forall_not.mp fun none => differs ?_
        have kept := filled.kept field.name fun entry member name => none entry ⟨member, name⟩
        have held (part : RetryPolicy) := RetryPolicy.form.valueOf?_name part field
        exact (held base).symm.trans (kept.symm.trans (held after))
      exact ⟨entry, member, name ▸ above⟩
  | _ => exact ⟨entry, member, fun _ _ => trivial⟩

end PolicyKind

namespace Overrides

def without (field : String) (row : List FieldOverride) : List FieldOverride :=
  row.filter fun entry => entry.field ≠ field

variable {row : List FieldOverride} {field : String} {entry : FieldOverride}

@[simp] theorem mem_without : entry ∈ without field row ↔ entry ∈ row ∧ entry.field ≠ field := by
  simp [without]

/-- In a row of different fields an override can be moved to the end. -/
theorem mem_without_append (distinct : row.Pairwise fun a b => a.field ≠ b.field)
    (member : entry ∈ row) (other : FieldOverride) :
    other ∈ without entry.field row ++ [entry] ↔ other ∈ row := by
  have alone (named : other.field = entry.field) (held : other ∈ row) : other = entry := by
    rcases PolicyKind.filter_field distinct entry.field with ⟨-, none⟩ | ⟨only, -, -, alone, -⟩
    · exact absurd rfl (none entry member)
    · exact (alone other held named).trans (alone entry member rfl).symm
  rw [List.mem_append, List.mem_singleton, mem_without]
  constructor
  · rintro (⟨held, -⟩ | rfl)
    · exact held
    · exact member
  · intro held
    by_cases named : other.field = entry.field
    · exact .inr (alone named held)
    · exact .inl ⟨held, named⟩

theorem filter_without (keep : FieldOverride → Bool) :
    (without field row).filter keep = without field (row.filter keep) := by
  simp only [without, List.filter_filter, Bool.and_comm]

end Overrides

namespace Form

open Overrides

variable {Part : Type} {form : Form Part} {kind : PolicyKind} {base after less : Part}
  {row other : List FieldOverride} {entry : FieldOverride}

theorem Filled.congr (filled : form.Filled kind row base after)
    (same : ∀ entry, entry ∈ row ↔ entry ∈ other) : form.Filled kind other base after := by
  refine ⟨?_, ?_⟩
  · simpa only [same] using filled.written
  · simpa only [same] using filled.kept

theorem Filled.restores (filled : form.Filled kind row base after)
    (fewer : form.Filled kind (without entry.field row) base less) :
    form.Restores base after entry.field less := by
  intro field
  split
  next same =>
    apply fewer.kept
    intro other member
    exact same ▸ (mem_without.mp member).2
  next differs =>
    by_cases overridden : ∃ other ∈ row, other.field = field
    · obtain ⟨other, member, rfl⟩ := overridden
      obtain ⟨-, value, read, written⟩ := fewer.written other (mem_without.mpr ⟨member, differs⟩)
      obtain ⟨-, value', read', written'⟩ := filled.written other member
      cases read.symm.trans read'
      rw [written, written']
    · have none : ∀ other ∈ row, other.field ≠ field := fun other member name =>
        overridden ⟨other, member, name⟩
      rw [filled.kept field none]
      exact fewer.kept field fun other member => none other (mem_without.mp member).1

/-- Fewer fields are set as well: the override that is left out might as well come last. -/
theorem Filled.fewer (filled : form.Filled kind row base after)
    (distinct : row.Pairwise fun a b => a.field ≠ b.field)
    (plain : ∀ entry ∈ row, entry.field ≠ "backoff") (member : entry ∈ row) :
    ∃ less, form.Filled kind (without entry.field row) base less := by
  have fewer : (without entry.field row).Pairwise fun a b => a.field ≠ b.field :=
    List.Pairwise.filter _ distinct
  have last : form.Filled kind (without entry.field row ++ [entry]) base after :=
    filled.congr fun other => (mem_without_append distinct member other).symm
  have folded : (without entry.field row ++ [entry]).foldlM
      (fun part entry => form.put kind part entry.field entry.value) base = .ok after := by
    refine (foldlM_put_iff ?_ ?_).mpr last
    · refine List.pairwise_append.mpr ⟨fewer, List.pairwise_singleton _ _, ?_⟩
      intro a later b only
      rw [List.mem_singleton.mp only]
      exact (mem_without.mp later).2
    · intro other whole
      rcases List.mem_append.mp whole with later | only
      · exact plain other (mem_without.mp later).1
      · exact List.mem_singleton.mp only ▸ plain entry member
  rw [List.foldlM_append, bind_eq_ok_iff] at folded
  obtain ⟨less, folded, -⟩ := folded
  refine ⟨less, (foldlM_put_iff fewer ?_).mp folded⟩
  intro other member
  exact plain other (mem_without.mp member).1

end Form

namespace PolicyKind

open Overrides

variable {kind : PolicyKind} {row : List FieldOverride} {part base after less : kind.Part}
  {result : Option kind.Part} {field : String}

/-- The backoff of a row leaves a valid strategy valid. -/
theorem Led.sound (led : kind.Led row part base) (sound : kind.problem? part = none) :
    kind.problem? base = none := by
  rcases led with ⟨-, rfl⟩ | ⟨entry, -, -, put⟩
  · exact sound
  · obtain ⟨rfl, -⟩ := put_backoff put
    obtain ⟨named, read, rfl⟩ := RetryPolicy.put_backoff put
    exact RetryPolicy.problem?_renamed sound read

theorem Led.without (led : kind.Led row part base) (other : field ≠ "backoff") :
    kind.Led (without field row) part base := by
  rcases led with ⟨none, same⟩ | ⟨entry, member, name, put⟩
  · exact .inl ⟨fun entry member => none entry (mem_without.mp member).1, same⟩
  · exact .inr ⟨entry, mem_without.mpr ⟨member, name ▸ other.symm⟩, name, put⟩

theorem Switched.without (switched : kind.Switched row after result) (other : field ≠ "enabled")
    (less : kind.Part) : kind.Switched (without field row) less (result.map fun _ => less) := by
  rcases switched with ⟨none, rfl⟩ | ⟨entry, member, name, enabled, read, rfl⟩
  · exact .inl ⟨fun entry member => none entry (mem_without.mp member).1, rfl⟩
  · refine .inr ⟨entry, mem_without.mpr ⟨member, name ▸ other.symm⟩, name, enabled, read, ?_⟩
    cases enabled <;> rfl

theorem Switched.eq (switched : kind.Switched row after result) (present : result ≠ none) :
    result = some after := by
  rcases switched with ⟨-, rfl⟩ | ⟨-, -, -, enabled, -, rfl⟩
  · rfl
  · cases enabled with
    | true => rfl
    | false => exact absurd rfl present

theorem trim_name (kind : PolicyKind) (field : kind.form.Field) :
    Text.trim (kind.form.name field) = kind.form.name field := by
  cases kind <;> cases field <;> decide

theorem plain_iff {entry : FieldOverride} :
    plain entry = true ↔ entry.field ≠ "backoff" ∧ entry.field ≠ "enabled" := by
  simp [plain]

/-- Whether a row of overrides makes a valid strategy of another one, or takes it away. -/
def Fits (kind : PolicyKind) (row : List FieldOverride) (part : kind.Part) : Prop :=
  ∃ result, kind.Laid row part result ∧ ∀ after, result = some after → kind.problem? after = none

/-- A switch alone leaves a valid strategy as it is, if it does not take it away. -/
theorem fits_of_switched (sound : kind.problem? part = none)
    (switches : ∀ entry ∈ row, entry.field = "enabled")
    (switched : kind.Switched row part (result.map fun _ => part)) : kind.Fits row part := by
  have bare : row.filter plain = [] := by
    apply List.filter_eq_nil_iff.mpr
    intro entry member
    simp [plain, switches entry member]
  refine ⟨_, ⟨part, part, .inl ⟨?_, rfl⟩, ?_, switched⟩, ?_⟩
  · intro entry member
    rw [switches entry member]
    decide
  · rw [bare]
    exact Form.filled_nil.mpr rfl
  · intro after held
    obtain ⟨_, -, rfl⟩ := Option.map_eq_some_iff.mp held
    exact sound

/-- Of overrides that lead to a valid strategy one can be taken back so that the others do. -/
theorem Fits.exists_without (fits : kind.Fits row part) (sound : kind.problem? part = none)
    (distinct : row.Pairwise fun a b => a.field ≠ b.field) (nonempty : row ≠ []) :
    ∃ entry ∈ row, kind.Fits (without entry.field row) part := by
  obtain ⟨result, ⟨base, after, led, filled, switched⟩, valid⟩ := fits
  by_cases bare : row.filter plain = []
  · -- Only the backoff and the switch are left, and the backoff goes first.
    have left : ∀ entry ∈ row, entry.field ≠ "backoff" → entry.field = "enabled" := by
      intro entry member other
      have notPlain := List.filter_eq_nil_iff.mp bare entry member
      rw [plain_iff] at notPlain
      exact Classical.not_not.mp fun notSwitch => notPlain ⟨other, notSwitch⟩
    rcases filter_field distinct "backoff" with ⟨-, none⟩ | ⟨entry, member, name, only, -⟩
    · obtain ⟨entry, member⟩ := List.exists_mem_of_ne_nil _ nonempty
      have name := left entry member (none entry member)
      have switched : kind.Switched (without entry.field row) part
          ((some part).map fun _ => part) := by
        refine .inl ⟨fun other held => ?_, rfl⟩
        exact name ▸ (mem_without.mp held).2
      refine ⟨entry, member, fits_of_switched sound (fun other held => ?_) switched⟩
      obtain ⟨held, -⟩ := mem_without.mp held
      exact left other held (none other held)
    · refine ⟨entry, member, fits_of_switched sound ?_ (switched.without ?_ part)⟩
      · intro other held
        obtain ⟨held, differs⟩ := mem_without.mp held
        exact left other held (name ▸ differs)
      · rw [name]
        decide
  · -- While the strategy is taken away, any plain override can be taken back.
    have candidate : ∃ entry ∈ row.filter plain, ∀ less,
        kind.form.Restores base after entry.field less →
          ∀ last, result.map (fun _ => less) = some last → kind.problem? last = none := by
      cases result with
      | none =>
        obtain ⟨entry, member⟩ := List.exists_mem_of_ne_nil _ bare
        exact ⟨entry, member, fun _ _ => nofun⟩
      | some last =>
        obtain rfl := Option.some.inj (switched.eq nofun)
        obtain ⟨entry, member, restorable⟩ :=
          exists_restorable filled (led.sound sound) (valid last rfl) bare
        refine ⟨entry, member, fun less restores last same => ?_⟩
        cases same
        exact restorable less restores
    obtain ⟨entry, member, sufficient⟩ := candidate
    obtain ⟨held, isPlain⟩ := List.mem_filter.mp member
    have names := plain_iff.mp isPlain
    obtain ⟨less, fewer⟩ := filled.fewer (List.Pairwise.filter _ distinct)
      (fun other member => (plain_iff.mp (List.mem_filter.mp member).2).1) member
    rw [← filter_without] at fewer
    have laid : kind.Laid (without entry.field row) part (result.map fun _ => less) :=
      ⟨base, less, led.without names.1, fewer, switched.without names.2 less⟩
    rw [filter_without] at fewer
    exact ⟨entry, held, _, laid, sufficient less (filled.restores fewer)⟩

end PolicyKind

namespace Overrides

variable {kind other : PolicyKind} {field : String} {overrides : Overrides}

theorem Keyed.clear (keyed : Keyed overrides) (kind : PolicyKind) (field : String) :
    Keyed (overrides.clear kind field) :=
  List.Pairwise.filter _ keyed

theorem ofKind_clear :
    ofKind kind (overrides.clear kind field) = without field (ofKind kind overrides) := by
  simp only [ofKind, clear, without, List.filter_filter]
  refine List.filter_congr fun entry _ => ?_
  by_cases same : entry.kind = kind <;> simp [same]

theorem ofKind_clear_of_ne (differs : other ≠ kind) :
    ofKind other (overrides.clear kind field) = ofKind other overrides := by
  simp only [ofKind, clear, List.filter_filter]
  refine List.filter_congr fun entry _ => ?_
  by_cases same : entry.kind = other
  · subst same
    simp [differs]
  · simp [same]

end Overrides

namespace Policy

open Overrides

variable {declared resolved policy : Policy} {operation : OperationId} {kind : PolicyKind}
  {overrides : Overrides}

theorem valid_iff : policy.Valid ↔
    ∀ kind part, policy.part? kind = some part → kind.problem? part = none := by
  have problem (kind : PolicyKind) :
      policy.problemOf? kind = (policy.part? kind).bind kind.problem? := by
    cases kind <;> rfl
  simp only [Valid, problem, Option.bind_eq_none_iff]

theorem resolve_iff_laid (keyed : Keyed overrides) :
    declared.resolve operation overrides = .ok resolved ↔
      (∀ entry ∈ overrides, declared.declares entry.kind = true) ∧
        (∀ kind, match declared.part? kind with
          | some part => kind.Laid (ofKind kind overrides) part (resolved.part? kind)
          | none => resolved.part? kind = none) ∧ resolved.Valid := by
  have alike (kind : PolicyKind) (entry : FieldOverride) :
      entry ∈ ofKind kind overrides.ordered ↔ entry ∈ ofKind kind overrides := by simp
  rw [resolve_eq_ok_iff, foldlM_ok_iff keyed.ordered (staged_ordered _), and_assoc]
  refine and_congr (by simp) (and_congr (forall_congr' fun kind => ?_) Iff.rfl)
  cases declared.part? kind with
  | some part => exact ⟨.congr (alike kind), .congr fun entry => (alike kind entry).symm⟩
  | none => rfl

theorem resolve_clear {field : String} {part : kind.Part} {result : Option kind.Part}
    (keyed : Keyed overrides) (resolves : declared.resolve operation overrides = .ok resolved)
    (found : declared.part? kind = some part)
    (less : kind.Laid (without field (ofKind kind overrides)) part result)
    (sound : ∀ after, result = some after → kind.problem? after = none) :
    declared.resolve operation (overrides.clear kind field) =
      .ok (resolved.withPart kind result) := by
  obtain ⟨declares, laid, valid⟩ := (resolve_iff_laid keyed).mp resolves
  rw [valid_iff] at valid
  refine (resolve_iff_laid (keyed.clear kind field)).mpr ⟨?_, ?_, valid_iff.mpr ?_⟩
  · intro entry member
    exact declares entry (List.mem_filter.mp member).1
  · intro other
    by_cases same : other = kind
    · subst same
      rw [found, part?_withPart, ofKind_clear]
      exact less
    · rw [part?_withPart_of_ne result same, ofKind_clear_of_ne same]
      exact laid other
  · intro other after held
    by_cases same : other = kind
    · subst same
      exact sound after (part?_withPart result ▸ held)
    · exact valid other after (part?_withPart_of_ne result same ▸ held)

theorem laid_of_mem {entry : FieldOverride} (keyed : Keyed overrides)
    (resolves : declared.resolve operation overrides = .ok resolved) (member : entry ∈ overrides) :
    ∃ part, declared.part? entry.kind = some part ∧
      entry.kind.Laid (ofKind entry.kind overrides) part (resolved.part? entry.kind) := by
  obtain ⟨declares, laid, -⟩ := (resolve_iff_laid keyed).mp resolves
  have present := declares entry member
  rw [declares_eq] at present
  obtain ⟨part, found⟩ := Option.isSome_iff_exists.mp present
  have own := laid entry.kind
  rw [found] at own
  exact ⟨part, found, own⟩

/-- A policy that results from overrides still results when some one of them is taken back. -/
theorem exists_clear (valid : declared.Valid) (keyed : Keyed overrides)
    (resolves : declared.resolve operation overrides = .ok resolved) (nonempty : overrides ≠ []) :
    ∃ entry ∈ overrides, ∃ cleared,
      declared.resolve operation (overrides.clear entry.kind entry.field) = .ok cleared := by
  obtain ⟨first, member⟩ := List.exists_mem_of_ne_nil _ nonempty
  obtain ⟨part, found, laid⟩ := laid_of_mem keyed resolves member
  have sound := valid_iff.mp ((resolve_iff_laid keyed).mp resolves).2.2 first.kind
  have fits : first.kind.Fits (ofKind first.kind overrides) part := ⟨_, laid, sound⟩
  have held : ofKind first.kind overrides ≠ [] :=
    List.ne_nil_of_mem (mem_ofKind.mpr ⟨member, rfl⟩)
  obtain ⟨entry, among, result, less, fit⟩ :=
    fits.exists_without (valid_iff.mp valid _ _ found) (keyed.distinct _) held
  obtain ⟨among, kind⟩ := mem_ofKind.mp among
  refine ⟨entry, among, resolved.withPart first.kind result, ?_⟩
  rw [kind]
  exact resolve_clear keyed resolves found less fit

/-- The fields of overrides that apply are named without blanks around. -/
theorem trim_field {entry : FieldOverride} (keyed : Keyed overrides)
    (resolves : declared.resolve operation overrides = .ok resolved) (member : entry ∈ overrides) :
    Text.trim entry.field = entry.field := by
  obtain ⟨part, -, base, after, -, filled, -⟩ := laid_of_mem keyed resolves member
  rcases FieldOverride.rank_cases entry.field with ⟨-, name⟩ | ⟨-, name⟩ | ⟨-, names⟩
  · rw [name]
    decide
  · rw [name]
    decide
  · have plain : entry ∈ (ofKind entry.kind overrides).filter PolicyKind.plain :=
      List.mem_filter.mpr ⟨mem_ofKind.mpr ⟨member, rfl⟩, PolicyKind.plain_iff.mpr names⟩
    obtain ⟨value, held⟩ := Option.isSome_iff_exists.mp (filled.written entry plain).1
    obtain ⟨known, named, -⟩ := Option.bind_eq_some_iff.mp held
    rw [← entry.kind.form.name_of_find? named]
    exact entry.kind.trim_name known

end Policy

end Resilience
