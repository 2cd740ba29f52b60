import Resilience.Proofs.Policy.Row

/-!
Overrides lie over a declared policy field by field, and within each strategy those of fields other
than the backoff and the switch may be applied in any order.
-/

namespace Resilience

namespace Overrides

def Keyed (row : List FieldOverride) : Prop := row.Pairwise fun a b => ¬a.sameField b = true

/-- Whether in each strategy the backoff comes first and the switch last. -/
def Staged (row : List FieldOverride) : Prop :=
  row.Pairwise fun a b => a.kind = b.kind → FieldOverride.rank a.field ≤ FieldOverride.rank b.field

def ofKind (kind : PolicyKind) (row : List FieldOverride) : List FieldOverride :=
  row.filter fun entry => entry.kind = kind

variable {overrides row : Overrides} {kind : PolicyKind} {entry : FieldOverride}

@[simp] theorem mem_ofKind : entry ∈ ofKind kind row ↔ entry ∈ row ∧ entry.kind = kind := by
  simp [ofKind]

theorem Ascending.keyed (ascending : overrides.Ascending) : Keyed overrides :=
  ascending.imp FieldOverride.not_sameField_of_before

theorem Keyed.perm {other : Overrides} (keyed : Keyed row) (same : other.Perm row) :
    Keyed other := by
  refine (same.pairwise_iff ?_).mpr keyed
  intro a b differs alike
  apply differs
  rw [FieldOverride.sameField_iff] at *
  exact ⟨alike.1.symm, alike.2.symm⟩

theorem Keyed.distinct (keyed : Keyed row) (kind : PolicyKind) :
    (ofKind kind row).Pairwise fun a b => a.field ≠ b.field := by
  refine List.pairwise_filter.mpr (keyed.imp ?_)
  intro a b differs ofA ofB same
  apply differs
  rw [FieldOverride.sameField_iff]
  exact ⟨(of_decide_eq_true ofA).trans (of_decide_eq_true ofB).symm, same⟩

theorem Keyed.value_unique {field text other : String} (keyed : Keyed row)
    (one : ⟨kind, field, text⟩ ∈ row) (another : ⟨kind, field, other⟩ ∈ row) : text = other := by
  rcases PolicyKind.filter_field (keyed.distinct kind) field with
    ⟨-, none⟩ | ⟨entry, -, -, only, -⟩
  · exact absurd rfl (none _ (mem_ofKind.mpr ⟨one, rfl⟩))
  · have first := only _ (mem_ofKind.mpr ⟨one, rfl⟩) rfl
    have second := only _ (mem_ofKind.mpr ⟨another, rfl⟩) rfl
    exact congrArg FieldOverride.value (first.trans second.symm)

theorem Staged.ranked (staged : Staged row) (kind : PolicyKind) :
    (ofKind kind row).Pairwise fun a b =>
      FieldOverride.rank a.field ≤ FieldOverride.rank b.field := by
  refine List.pairwise_filter.mpr (staged.imp ?_)
  intro a b ranked ofA ofB
  exact ranked ((of_decide_eq_true ofA).trans (of_decide_eq_true ofB).symm)

theorem ordered_pairwise {related : FieldOverride → FieldOverride → Prop}
    (kinds : ∀ a b, a.kind ≠ b.kind → related a b)
    (ranks : ∀ a b, FieldOverride.rank a.field < FieldOverride.rank b.field → related a b)
    (within : overrides.Pairwise fun a b =>
      FieldOverride.rank a.field = FieldOverride.rank b.field → related a b) :
    overrides.ordered.Pairwise related := by
  refine List.pairwise_flatMap.mpr ⟨fun kind _ => List.pairwise_flatMap.mpr ⟨?_, ?_⟩, ?_⟩
  · intro rank _
    refine List.pairwise_filter.mpr (within.imp ?_)
    intro a b close ofA ofB
    simp only [decide_eq_true_eq] at ofA ofB
    exact close (ofA.2.trans ofB.2.symm)
  · have ascending : [0, 1, 2].Pairwise (· < ·) := by decide
    refine ascending.imp ?_
    intro lower higher less a first b second
    simp only [List.mem_filter, decide_eq_true_eq] at first second
    apply ranks
    omega
  · have different : PolicyKind.all.Pairwise (· ≠ ·) := by decide
    refine different.imp ?_
    intro one other differs a first b second
    simp only [List.mem_flatMap, List.mem_filter, decide_eq_true_eq] at first second
    obtain ⟨_, -, -, rfl, -⟩ := first
    obtain ⟨_, -, -, rfl, -⟩ := second
    exact kinds a b differs

theorem Keyed.ordered (keyed : Keyed overrides) : Keyed overrides.ordered := by
  apply ordered_pairwise
  · intro a b differs same
    exact differs (FieldOverride.sameField_iff.mp same).1
  · intro a b less same
    rw [(FieldOverride.sameField_iff.mp same).2] at less
    exact Nat.lt_irrefl _ less
  · refine keyed.imp ?_
    intro a b differs _
    exact differs

theorem staged_ordered (overrides : Overrides) : Staged overrides.ordered := by
  apply ordered_pairwise
  · intro a b differs same
    exact absurd same differs
  · intro a b less _
    exact Nat.le_of_lt less
  · exact List.pairwise_of_forall fun _ _ same _ => Nat.le_of_eq same

end Overrides

def RetryField.ofBackoff : List RetryField := [factor, maxDelay, maxDelayUnit]

namespace BackoffPolicy

/-- What the fields of a backoff hold at first: the factor two and one minute. -/
def initial? : BackoffPolicy → RetryField → Option FieldValue
  | exponential .., .factor => some (.count 2)
  | exponential .., .maxDelay | fibonacci .., .maxDelay => some (.amount 1)
  | exponential .., .maxDelayUnit | fibonacci .., .maxDelayUnit => some (.unit .minutes)
  | _, _ => Option.none

variable {current named : BackoffPolicy} {field : RetryField}

theorem plain_of_ofText {text : String} (read : ofText text = .ok named) : named.plain = named := by
  unfold ofText at read
  dsimp only at read
  split at read
  · cases read; rfl
  split at read
  · cases read; rfl
  split at read
  · cases read; rfl
  split at read
  · cases read; rfl
  · cases read

theorem plain_renamed (plain : named.plain = named) : (current.renamed named).plain = named := by
  cases current <;> cases named <;> simp_all [renamed, sameKind, BackoffPolicy.plain]

theorem value?_renamed_same (dependent : field ∈ RetryField.ofBackoff)
    (same : current.sameKind named = true) :
    (current.renamed named).value? field = current.value? field := by
  cases current <;> cases named <;> cases same <;> first | rfl | skip
  simp only [RetryField.ofBackoff, List.mem_cons, List.not_mem_nil, or_false] at dependent
  rcases dependent with rfl | rfl | rfl <;> rfl

theorem value?_renamed_other (dependent : field ∈ RetryField.ofBackoff)
    (plain : named.plain = named) (differs : current.sameKind named = false) :
    (current.renamed named).value? field = named.initial? field := by
  have taken : current.renamed named = named := by
    unfold renamed
    split
    · rfl
    · rw [differs]; rfl
  rw [taken, ← plain]
  simp only [RetryField.ofBackoff, List.mem_cons, List.not_mem_nil, or_false] at dependent
  rcases dependent with rfl | rfl | rfl <;> cases named <;> rfl

end BackoffPolicy

namespace RetryPolicy

variable {part base : RetryPolicy} {text field : String}

theorem put_backoff (put : form.put .retry part "backoff" text = .ok base) :
    ∃ named, BackoffPolicy.ofText text = .ok named ∧
      base = { part with backoff := part.backoff.renamed named } := by
  have unfolded : form.put .retry part "backoff" text =
      (part.set .backoff text).mapError (.invalidField .retry "backoff") := rfl
  rw [unfolded, set] at put
  cases read : BackoffPolicy.ofText text with
  | error problem =>
    rw [read] at put
    cases put
  | ok named =>
    rw [read] at put
    cases put
    exact ⟨named, rfl, rfl⟩

theorem value?_of_ofBackoff {field : RetryField} (dependent : field ∈ RetryField.ofBackoff) :
    part.value? field = part.backoff.value? field := by
  simp only [RetryField.ofBackoff, List.mem_cons, List.not_mem_nil, or_false] at dependent
  rcases dependent with rfl | rfl | rfl <;> rfl

theorem valueOf?_backoff {backoff : BackoffPolicy} (other : field ≠ "backoff")
    (same : ∀ dependent ∈ RetryField.ofBackoff, dependent.name = field →
      backoff.value? dependent = part.backoff.value? dependent) :
    form.valueOf? { part with backoff } field = form.valueOf? part field := by
  apply form.valueOf?_congr
  intro (known : RetryField) name
  cases known with
  | backoff => exact absurd name.symm other
  | factor => exact same .factor (by decide) name
  | maxDelay => exact same .maxDelay (by decide) name
  | maxDelayUnit => exact same .maxDelayUnit (by decide) name
  | _ => rfl

end RetryPolicy

namespace Policy

variable {declared resolved policy : Policy} {operation : OperationId} {kind : PolicyKind}
  {overrides row other : Overrides}

theorem foldlM_ok_iff (keyed : Overrides.Keyed row) (staged : Overrides.Staged row) :
    row.foldlM (declared.applyOverride operation) declared = .ok resolved ↔
      (∀ entry ∈ row, declared.declares entry.kind = true) ∧
        ∀ kind, match declared.part? kind with
          | some part => kind.Laid (Overrides.ofKind kind row) part (resolved.part? kind)
          | none => resolved.part? kind = none := by
  rw [foldlM_applyOverride_iff]
  refine and_congr_right fun _ => forall_congr' fun kind => ?_
  cases declared.part? kind with
  | some part => exact PolicyKind.foldlM_amend_iff (keyed.distinct kind) (staged.ranked kind)
  | none =>
    rw [PolicyKind.foldlM_amend_none]
    exact ⟨fun same => (Except.ok.inj same).symm, fun same => congrArg _ same.symm⟩

/-- The order within a stage does not matter. -/
theorem foldlM_congr (same : ∀ entry, entry ∈ row ↔ entry ∈ other)
    (keyed : Overrides.Keyed row) (staged : Overrides.Staged row)
    (keyed' : Overrides.Keyed other) (staged' : Overrides.Staged other) :
    row.foldlM (declared.applyOverride operation) declared = .ok resolved ↔
      other.foldlM (declared.applyOverride operation) declared = .ok resolved := by
  rw [foldlM_ok_iff keyed staged, foldlM_ok_iff keyed' staged']
  have alike : ∀ kind entry, entry ∈ Overrides.ofKind kind row ↔
      entry ∈ Overrides.ofKind kind other := by
    simp [same]
  refine and_congr (by simp only [same]) (forall_congr' fun kind => ?_)
  cases declared.part? kind with
  | some part => exact ⟨.congr (alike kind), .congr fun entry => (alike kind entry).symm⟩
  | none => rfl

end Policy

namespace Overrides

def Disables (overrides : Overrides) (kind : PolicyKind) : Prop :=
  ∃ text, ⟨kind, "enabled", text⟩ ∈ overrides ∧ readField Number.readTruth text = .ok false

/-- Whether overrides leave a field as it is declared. -/
def Omits (overrides : Overrides) (kind : PolicyKind) (field : String) : Prop :=
  ∀ text, ⟨kind, field, text⟩ ∉ overrides

/-- Whether overrides name a backoff in place of one of another kind. -/
def Replaces (overrides : Overrides) (declared : Policy) (named : BackoffPolicy) : Prop :=
  ∃ text retry, ⟨.retry, "backoff", text⟩ ∈ overrides ∧ declared.retry = some retry ∧
    BackoffPolicy.ofText text = .ok named ∧ retry.backoff.sameKind named = false

end Overrides

/-- What the strategy of a kind is in the policy that results from overrides. -/
structure Policy.Overlays (declared : Policy) (overrides : Overrides) (resolved : Policy)
    (kind : PolicyKind) : Prop where
  bare : (∀ entry ∈ overrides, entry.kind ≠ kind) → resolved.part? kind = declared.part? kind
  disabled : overrides.Disables kind → resolved.part? kind = none
  declares : ¬overrides.Disables kind → resolved.declares kind = declared.declares kind
  overridden : ¬overrides.Disables kind → ∀ field text, field ≠ "enabled" →
    ⟨kind, field, text⟩ ∈ overrides → ∃ value, kind.form.readAs kind field text = .ok value ∧
      resolved.value? kind field = some value
  kept : ¬overrides.Disables kind → ∀ field, overrides.Omits kind field →
    (kind = .retry → field ∈ RetryField.ofBackoff.map RetryField.name →
      ∀ named, ¬overrides.Replaces declared named) →
    resolved.value? kind field = declared.value? kind field
  replaced : ¬overrides.Disables kind → kind = .retry → ∀ named,
    overrides.Replaces declared named → ∀ field ∈ RetryField.ofBackoff,
      overrides.Omits kind field.name → resolved.value? kind field.name = named.initial? field

namespace PolicyKind

variable {kind : PolicyKind} {row : List FieldOverride} {part base after : kind.Part}
  {result : Option kind.Part} {overrides : Overrides} {text : String}

theorem Led.of_mem (keyed : Overrides.Keyed overrides)
    (led : kind.Led (Overrides.ofKind kind overrides) part base)
    (member : ⟨kind, "backoff", text⟩ ∈ overrides) :
    kind.form.put kind part "backoff" text = .ok base := by
  rcases led with ⟨none, -⟩ | ⟨⟨_, field, other⟩, held, named, put⟩
  · exact absurd rfl (none _ (Overrides.mem_ofKind.mpr ⟨member, rfl⟩))
  · obtain ⟨stands, rfl⟩ := Overrides.mem_ofKind.mp held
    cases named
    rwa [keyed.value_unique member stands]

theorem put_backoff (put : kind.form.put kind part "backoff" text = .ok base) :
    kind = .retry ∧ ∃ value, kind.form.readAs kind "backoff" text = .ok value ∧
      kind.form.valueOf? base "backoff" = some value := by
  cases kind with
  | retry =>
    obtain ⟨named, read, rfl⟩ := RetryPolicy.put_backoff put
    refine ⟨rfl, .backoff named, ?_, ?_⟩
    · have unfolded : RetryPolicy.form.readAs .retry "backoff" text =
          ((BackoffPolicy.ofText text).map FieldValue.backoff).mapError
            (.invalidField .retry "backoff") := rfl
      exact unfolded.trans (by rw [read]; rfl)
    · have plain := BackoffPolicy.plain_of_ofText read
      exact congrArg (some ∘ FieldValue.backoff) (BackoffPolicy.plain_renamed plain)
  | _ => cases put

theorem Led.of_omits (led : kind.Led (Overrides.ofKind kind overrides) part base)
    (omits : overrides.Omits kind "backoff") : part = base := by
  rcases led with ⟨-, same⟩ | ⟨⟨_, field, other⟩, held, named, put⟩
  · exact same
  · obtain ⟨stands, rfl⟩ := Overrides.mem_ofKind.mp held
    cases named
    exact absurd stands (omits other)

theorem Switched.of_disables (keyed : Overrides.Keyed overrides)
    (switched : kind.Switched (Overrides.ofKind kind overrides) part result)
    (disables : overrides.Disables kind) : result = none := by
  obtain ⟨text, member, off⟩ := disables
  rcases switched with ⟨none, -⟩ | ⟨⟨_, field, other⟩, held, named, enabled, read, same⟩
  · exact absurd rfl (none _ (Overrides.mem_ofKind.mpr ⟨member, rfl⟩))
  · obtain ⟨stands, rfl⟩ := Overrides.mem_ofKind.mp held
    cases named
    rw [keyed.value_unique stands member, off] at read
    cases read
    exact same.symm

theorem Switched.of_not_disables
    (switched : kind.Switched (Overrides.ofKind kind overrides) part result)
    (enables : ¬overrides.Disables kind) : result = some part := by
  rcases switched with ⟨-, same⟩ | ⟨⟨_, field, other⟩, held, named, enabled, read, same⟩
  · exact same.symm
  · obtain ⟨stands, rfl⟩ := Overrides.mem_ofKind.mp held
    cases named
    cases enabled with
    | true => exact same.symm
    | false => exact absurd ⟨other, stands, read⟩ enables

end PolicyKind

namespace Policy

variable {declared resolved : Policy} {overrides : Overrides} {kind : PolicyKind}
  {part : kind.Part}

theorem overlays_of_laid (keyed : Overrides.Keyed overrides)
    (found : declared.part? kind = some part)
    (laid : kind.Laid (Overrides.ofKind kind overrides) part (resolved.part? kind)) :
    declared.Overlays overrides resolved kind := by
  obtain ⟨base, after, led, filled, switched⟩ := laid
  have declaredHolds (field : String) :
      declared.value? kind field = kind.form.valueOf? part field := by
    rw [value?, found, Option.bind_some]
  have holds (enables : ¬overrides.Disables kind) (field : String) :
      resolved.value? kind field = kind.form.valueOf? after field := by
    rw [value?, switched.of_not_disables enables, Option.bind_some]
  have kept {field : String} (omits : overrides.Omits kind field) :
      kind.form.valueOf? after field = kind.form.valueOf? base field := by
    apply filled.kept
    rintro ⟨_, name, text⟩ member rfl
    obtain ⟨stands, rfl⟩ := Overrides.mem_ofKind.mp (List.mem_filter.mp member).1
    exact omits text stands
  constructor
  case bare =>
    intro none
    have omits (field : String) : overrides.Omits kind field := fun text member =>
      none _ member rfl
    have enables : ¬overrides.Disables kind := by
      rintro ⟨text, member, -⟩
      exact omits _ text member
    have same : after = base := kind.form.ext_valueOf? fun field => kept (omits field)
    rw [found, switched.of_not_disables enables, same, led.of_omits (omits _)]
  case disabled => exact switched.of_disables keyed
  case declares =>
    intro enables
    rw [declares_eq, declares_eq, switched.of_not_disables enables, found]
    rfl
  case overridden =>
    intro enables field text notSwitch member
    rw [holds enables]
    by_cases first : field = "backoff"
    · subst first
      obtain ⟨-, value, read, held⟩ := PolicyKind.put_backoff (led.of_mem keyed member)
      refine ⟨value, read, ?_⟩
      rw [filled.kept "backoff", held]
      intro entry beside name
      have plain := (List.mem_filter.mp beside).2
      simp [PolicyKind.plain, name] at plain
    · have stands : ⟨kind, field, text⟩ ∈ (Overrides.ofKind kind overrides).filter
          PolicyKind.plain := by
        simp [member, PolicyKind.plain, first, notSwitch]
      exact (filled.written _ stands).2
  case kept =>
    intro enables field omits unreplaced
    rw [holds enables, declaredHolds, kept omits]
    by_cases untouched : overrides.Omits kind "backoff"
    · rw [led.of_omits untouched]
    · obtain ⟨text, member⟩ := Classical.not_forall_not.mp untouched
      have put := led.of_mem keyed member
      obtain ⟨rfl, -⟩ := PolicyKind.put_backoff put
      obtain ⟨named, read, rfl⟩ := RetryPolicy.put_backoff put
      apply RetryPolicy.valueOf?_backoff
      · rintro rfl
        exact untouched omits
      · intro dependent belongs name
        apply BackoffPolicy.value?_renamed_same belongs
        cases alike : part.backoff.sameKind named with
        | true => rfl
        | false =>
          have listed := List.mem_map.mpr ⟨dependent, belongs, name⟩
          exact absurd ⟨text, part, member, found, read, alike⟩ (unreplaced rfl listed named)
  case replaced =>
    rintro enables isRetry named ⟨text, retry, member, declares, read, differs⟩ field belongs omits
    subst isRetry
    cases found.symm.trans declares
    obtain ⟨_, reread, rfl⟩ := RetryPolicy.put_backoff (led.of_mem keyed member)
    cases reread.symm.trans read
    rw [holds enables, kept omits]
    refine (RetryPolicy.form.valueOf?_name _ field).trans ?_
    refine (RetryPolicy.value?_of_ofBackoff belongs).trans ?_
    exact BackoffPolicy.value?_renamed_other belongs (BackoffPolicy.plain_of_ofText read) differs

theorem overlays_of_undeclared (undeclared : declared.part? kind = none)
    (absent : resolved.part? kind = none) (none : ∀ entry ∈ overrides, entry.kind ≠ kind) :
    declared.Overlays overrides resolved kind := by
  have same : resolved.part? kind = declared.part? kind := absent.trans undeclared.symm
  constructor
  case bare => exact fun _ => same
  case disabled => exact fun _ => absent
  case declares => exact fun _ => by rw [declares_eq, declares_eq, same]
  case overridden => exact fun _ field text _ member => absurd rfl (none _ member)
  case kept => exact fun _ field _ _ => by rw [value?, value?, same]
  case replaced =>
    rintro - rfl named ⟨text, retry, member, -⟩
    exact absurd rfl (none _ member)

/-- A policy that results from overrides is the declared one with the fields that are overridden
holding what their texts read as. A switch that is off takes the strategy away, and a backoff of
another kind comes with a factor and a largest delay of its own. Apart from backoffs and switches
the overrides may be applied in any order. -/
theorem resolve_overlays {overrides : Overrides} (ascending : overrides.Ascending)
    (declared : Policy) (operation : OperationId) :
    (∀ resolved, declared.resolve operation overrides = .ok resolved →
      ∀ kind, declared.Overlays overrides resolved kind) ∧
    ∀ row, row.Perm overrides → Overrides.Staged row → ∀ resolved,
      declared.resolve operation overrides = .ok resolved ↔
        row.foldlM (declared.applyOverride operation) declared = .ok resolved ∧
          resolved.Valid := by
  have keyed := ascending.keyed
  constructor
  · intro resolved resolves kind
    obtain ⟨applied, -⟩ := resolve_eq_ok_iff.mp resolves
    obtain ⟨known, parts⟩ := (foldlM_ok_iff keyed.ordered (Overrides.staged_ordered _)).mp applied
    have laid := parts kind
    cases found : declared.part? kind with
    | some part =>
      rw [found] at laid
      refine overlays_of_laid keyed found (laid.congr ?_)
      simp
    | none =>
      rw [found] at laid
      apply overlays_of_undeclared found laid
      rintro entry member rfl
      have declares := known entry (Overrides.mem_ordered.mpr member)
      rw [declares_eq, found] at declares
      cases declares
  · intro row same staged resolved
    rw [resolve_eq_ok_iff, foldlM_congr ?_ keyed.ordered (Overrides.staged_ordered _)
      (keyed.perm same) staged]
    intro entry
    rw [Overrides.mem_ordered, same.mem_iff]

/-- A backoff of another kind with a largest delay that is overridden too. -/
theorem resolve_overlays_fibonacci :
    let declared : Policy := { retry := some { backoff := .exponential 3 (.millis 500) } }
    let overrides : Overrides := [⟨.retry, "backoff", "fibonacci"⟩, ⟨.retry, "maxDelay", "7"⟩]
    overrides.Ascending ∧ ∃ resolved, declared.resolve "op" overrides = .ok resolved ∧
      declared.Overlays overrides resolved .retry := by
  intro declared overrides
  have ascending : overrides.Ascending := by
    unfold Overrides.Ascending
    decide
  have resolves : declared.resolve "op" overrides =
      .ok { retry := some { backoff := .fibonacci ⟨7, .minutes⟩ } } := by
    rfl
  exact ⟨ascending, _, resolves, (resolve_overlays ascending declared "op").1 _ resolves .retry⟩

end Policy

end Resilience
