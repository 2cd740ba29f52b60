import Resilience.Policy.Validity
import Resilience.Proofs.Policy.Legibility
import Resilience.Proofs.Policy.Overlay

/-!
Rendered parameters apply back: whatever strategy of the kind is there before, the parameters that
a strategy shows make it that strategy. The fields that do not depend on the backoff come first,
then the backoff brings its own fields along, and these come last.
-/

namespace Resilience

namespace Form

variable {Part : Type} {form : Form Part} {kind : PolicyKind} {before target : Part}
  {fields : List form.Field}

def shown (form : Form Part) (part : Part) (fields : List form.Field) : List (String × String) :=
  fields.filterMap fun field =>
    (form.value? part field).map fun value => (form.name field, value.text)

theorem mem_shown {parameter : String × String} :
    parameter ∈ form.shown target fields ↔ ∃ field ∈ fields, ∃ value,
      form.value? target field = some value ∧ (form.name field, value.text) = parameter := by
  simp only [shown, List.mem_filterMap, Option.map_eq_some_iff]

theorem shownFields_eq (form : Form Part) {target : Part} {fields : List form.Field}
    {fieldText? : form.Field → Option String}
    (same : ∀ field, fieldText? field = (form.value? target field).map FieldValue.text) :
    shownFields fields form.name fieldText? = form.shown target fields := by
  refine List.filterMap_congr fun field _ => ?_
  rw [same, Option.map_map]
  rfl

theorem readAs_name {field : form.Field} {value : FieldValue}
    (sorted : value.sort = form.sort field) (legible : value.Legible) :
    form.readAs kind (form.name field) value.text = .ok value := by
  have known : form.find? (form.name field) = some field := form.found field
  simp only [readAs, known, ← sorted, value.read_text legible, Except.mapError]

theorem shown_distinct (once : fields.Nodup) :
    (form.shown target fields).Pairwise fun a b => a.1 ≠ b.1 := by
  refine List.pairwise_filterMap.mpr (once.imp fun differs a first b second same => ?_)
  obtain ⟨_, -, rfl⟩ := Option.map_eq_some_iff.mp first
  obtain ⟨_, -, rfl⟩ := Option.map_eq_some_iff.mp second
  exact differs (form.name_inj same)

/-- Setting some fields to what they show in another strategy makes one strategy the other, if it
has these fields too and the others hold the same. -/
theorem foldlM_shown (once : fields.Nodup) (plain : ∀ field ∈ fields, form.name field ≠ "backoff")
    (legible : ∀ field ∈ fields, ∀ value, form.value? target field = some value →
      value.sort = form.sort field ∧ value.Legible)
    (alike : ∀ field ∈ fields,
      (form.value? before field).isSome = (form.value? target field).isSome)
    (elsewhere : ∀ field, field ∉ fields → form.value? target field = form.value? before field) :
    (form.shown target fields).foldlM (fun part parameter =>
      form.put kind part parameter.1 parameter.2) before = .ok target := by
  let override (parameter : String × String) : FieldOverride := ⟨kind, parameter.1, parameter.2⟩
  have row : (form.shown target fields).foldlM
      (fun part parameter => form.put kind part parameter.1 parameter.2) before =
        ((form.shown target fields).map override).foldlM
          (fun part entry => form.put kind part entry.field entry.value) before := by
    rw [List.foldlM_map]
  have named : ∀ parameter ∈ form.shown target fields, parameter.1 ≠ "backoff" := by
    intro parameter member
    obtain ⟨field, listed, _, -, rfl⟩ := mem_shown.mp member
    exact plain field listed
  rw [row, foldlM_put_iff (List.pairwise_map.mpr (shown_distinct once))
    (List.forall_mem_map.mpr named)]
  constructor
  · refine List.forall_mem_map.mpr fun parameter member => ?_
    obtain ⟨field, listed, value, held, rfl⟩ := mem_shown.mp member
    obtain ⟨sorted, readable⟩ := legible field listed value held
    have present : (form.value? before field).isSome := by rw [alike field listed, held]; rfl
    refine ⟨?_, value, readAs_name sorted readable, ?_⟩
    · exact (form.valueOf?_name before field).symm ▸ present
    · exact (form.valueOf?_name target field).trans held
  · intro field unwritten
    refine form.valueOf?_congr fun known name => ?_
    by_cases listed : known ∈ fields
    · have absent : form.value? target known = none := by
        refine Option.eq_none_iff_forall_ne_some.mpr fun value held => ?_
        have written := mem_shown.mpr ⟨known, listed, value, held, rfl⟩
        exact unwritten _ (List.mem_map_of_mem written) name
      have missing := alike known listed
      rw [absent, Option.isSome_none, Option.isSome_eq_false_iff,
        Option.isNone_iff_eq_none] at missing
      rw [absent, missing]
    · exact elsewhere known listed

end Form

namespace RetryPolicy

variable {base target : RetryPolicy}

def ownFields : List RetryField :=
  [.maxRetries, .delay, .delayUnit, .maxDuration, .durationUnit, .jitter, .jitterUnit, .retryOn,
    .abortOn]

theorem fieldText?_eq (policy : RetryPolicy) (field : RetryField) :
    policy.fieldText? field = (policy.value? field).map FieldValue.text := by
  obtain ⟨_, _, _, _, _, _, backoff⟩ := policy
  cases field <;> first | rfl | (cases backoff <;> rfl)

theorem sort_of_value? {field : RetryField} {value : FieldValue}
    (held : target.value? field = some value) : value.sort = field.sort := by
  obtain ⟨_, _, _, _, _, _, backoff⟩ := target
  cases field <;> first
    | (cases held; rfl)
    | (cases backoff <;> cases held <;> rfl)

theorem isSome_value?_congr {a b : BackoffPolicy} (same : a.plain = b.plain) (field : RetryField) :
    (a.value? field).isSome = (b.value? field).isSome := by
  cases a <;> cases b <;> cases same <;> cases field <;> rfl

theorem put_backoff_label {named : BackoffPolicy} (legible : (FieldValue.backoff named).Legible) :
    form.put .retry base "backoff" named.label =
      .ok { base with backoff := base.backoff.renamed named } := by
  have read := BackoffPolicy.ofText_label legible.1
  rw [legible.2] at read
  have unfolded : form.put .retry base "backoff" named.label =
      (base.set .backoff named.label).mapError (.invalidField .retry "backoff") := rfl
  rw [unfolded, set, read]
  rfl

theorem value?_own {field : RetryField} (own : field ∈ ownFields) (policy : RetryPolicy)
    (backoff : BackoffPolicy) :
    ({ policy with backoff } : RetryPolicy).value? field = policy.value? field ∧
      (policy.value? field).isSome := by
  cases field <;> first | exact ⟨rfl, rfl⟩ | exact absurd own (by decide)

theorem value?_of_not_own {field : RetryField} (other : field ∉ ownFields) (policy : RetryPolicy) :
    policy.value? field = policy.backoff.value? field := by
  cases field <;> first | rfl | exact absurd (by decide) other

theorem value?_of_not_ofBackoff {field : RetryField} (other : field ∉ RetryField.ofBackoff)
    (policy : RetryPolicy) {backoff : BackoffPolicy} (same : backoff.plain = policy.backoff.plain) :
    policy.value? field = ({ policy with backoff } : RetryPolicy).value? field := by
  cases field <;> first
    | rfl
    | exact congrArg (some ∘ FieldValue.backoff) same.symm
    | exact absurd (by decide) other

/-- The name of a backoff is legible if it has no blanks around it, because a valid policy names
none without a name. -/
theorem legible_backoff {policy : RetryPolicy} (sound : policy.problem? = none)
    (trimmed : ∀ name, policy.backoff = .custom name → Text.IsTrimmed name.toList) :
    (FieldValue.backoff policy.backoff.plain).Legible := by
  obtain ⟨_, _, _, _, _, _, backoff⟩ := policy
  cases backoff with
  | custom name =>
    refine ⟨fun other same => ?_, rfl⟩
    cases same
    refine ⟨?_, trimmed name rfl⟩
    rintro rfl
    unfold problem? at sound
    split at sound
    · cases sound
    · cases sound
  | _ => exact ⟨nofun, rfl⟩

theorem foldlM_ownFields
    (legible : ∀ field value, target.value? field = some value → value.Legible) :
    (form.shown target ownFields).foldlM (fun part parameter =>
      form.put .retry part parameter.1 parameter.2) base =
        .ok { target with backoff := base.backoff } := by
  let owned : RetryPolicy := { target with backoff := base.backoff }
  have once : ownFields.Nodup := by decide
  have plain : ∀ field ∈ ownFields, field.name ≠ "backoff" := by decide
  have known (field : RetryField) (own : field ∈ ownFields) := value?_own own target base.backoff
  have same : form.shown target ownFields = form.shown owned ownFields := rfl
  rw [same]
  refine Form.foldlM_shown once plain ?_ ?_ ?_
  · intro field own value held
    exact ⟨sort_of_value? held, legible field value ((known field own).1 ▸ held)⟩
  · intro field own
    have here : (owned.value? field).isSome := (known field own).1 ▸ (known field own).2
    exact (value?_own own base base.backoff).2.trans here.symm
  · intro field other
    exact (value?_of_not_own other owned).trans (value?_of_not_own other base).symm

theorem foldlM_ofBackoff {backoff : BackoffPolicy} (same : backoff.plain = target.backoff.plain)
    (legible : ∀ field value, target.value? field = some value → value.Legible) :
    (form.shown target RetryField.ofBackoff).foldlM (fun part parameter =>
      form.put .retry part parameter.1 parameter.2) { target with backoff } = .ok target := by
  have once : RetryField.ofBackoff.Nodup := by decide
  have plain : ∀ field ∈ RetryField.ofBackoff, field.name ≠ "backoff" := by decide
  refine Form.foldlM_shown once plain ?_ ?_ ?_
  · exact fun field _ value held => ⟨sort_of_value? held, legible field value held⟩
  · intro field own
    have dependent (policy : RetryPolicy) : policy.value? field = policy.backoff.value? field :=
      value?_of_ofBackoff own
    have alike := isSome_value?_congr same field
    rw [← dependent { target with backoff }, ← dependent target] at alike
    exact alike
  · exact fun field other => value?_of_not_ofBackoff other target same

theorem foldlM_shown
    (legible : ∀ field value, target.value? field = some value → value.Legible) :
    (form.shown target RetryField.all).foldlM (fun part parameter =>
      form.put .retry part parameter.1 parameter.2) base = .ok target := by
  let named := target.backoff.plain
  have parts : form.shown target RetryField.all = form.shown target ownFields ++
      ("backoff", named.label) :: form.shown target RetryField.ofBackoff := rfl
  have nameable : (FieldValue.backoff named).Legible := legible .backoff _ rfl
  have same : (base.backoff.renamed named).plain = target.backoff.plain :=
    BackoffPolicy.plain_renamed nameable.2
  rw [parts, List.foldlM_append, bind_eq_ok_iff]
  refine ⟨_, foldlM_ownFields legible, ?_⟩
  rw [List.foldlM_cons, bind_eq_ok_iff]
  exact ⟨_, put_backoff_label nameable, foldlM_ofBackoff same legible⟩

end RetryPolicy

namespace PolicyKind

variable {kind : PolicyKind} {part : kind.Part}

theorem mem_fields (field : kind.form.Field) : field ∈ kind.form.fields :=
  List.mem_of_find?_eq_some (kind.form.found field)

theorem sort_of_value? {field : kind.form.Field} {value : FieldValue}
    (held : kind.form.value? part field = some value) : value.sort = kind.form.sort field := by
  cases kind with
  | retry => exact RetryPolicy.sort_of_value? held
  | _ => cases field <;> cases held <;> rfl

theorem isSome_value? (other : kind ≠ .retry) (part : kind.Part) (field : kind.form.Field) :
    (kind.form.value? part field).isSome := by
  cases kind with
  | retry => exact absurd rfl other
  | _ => cases field <;> rfl

theorem name_ne_enabled (kind : PolicyKind) (field : kind.form.Field) :
    kind.form.name field ≠ "enabled" := by
  cases kind <;> cases field <;> exact (by decide)

theorem foldlM_shown (base : kind.Part) {target : kind.Part}
    (legible : ∀ field value, kind.form.value? target field = some value → value.Legible) :
    (kind.form.shown target kind.form.fields).foldlM (fun part parameter =>
      kind.form.put kind part parameter.1 parameter.2) base = .ok target := by
  by_cases retry : kind = .retry
  · subst retry
    exact RetryPolicy.foldlM_shown legible
  · have once : kind.form.fields.Nodup := by
      cases kind with
      | retry => exact absurd rfl retry
      | timeout => exact (by decide : TimeoutField.all.Nodup)
      | breaker => exact (by decide : BreakerField.all.Nodup)
      | bulkhead => exact (by decide : BulkheadField.all.Nodup)
      | fallback => exact (by decide : FallbackField.all.Nodup)
    have plain : ∀ field ∈ kind.form.fields, kind.form.name field ≠ "backoff" := by
      intro field _
      cases kind with
      | retry => exact absurd rfl retry
      | _ => cases field <;> exact (by decide)
    refine Form.foldlM_shown once plain ?_ ?_ ?_
    · exact fun field _ value held => ⟨sort_of_value? held, legible field value held⟩
    · intro field _
      rw [isSome_value? retry base, isSome_value? retry target]
    · exact fun field other => absurd (mem_fields field) other

end PolicyKind

namespace Policy

variable {target base : Policy} {kind : PolicyKind}

theorem parameters_eq (policy : Policy) (kind : PolicyKind) {part : kind.Part}
    (found : policy.part? kind = some part) :
    policy.parameters kind = kind.form.shown part kind.form.fields := by
  cases kind with
  | retry =>
    rw [part?] at found
    rw [parameters, found]
    exact Form.shownFields_eq RetryPolicy.form part.fieldText?_eq
  | timeout =>
    rw [part?] at found
    rw [parameters, found]
    exact Form.shownFields_eq TimeoutPolicy.form fun field => by cases field <;> rfl
  | breaker =>
    rw [part?] at found
    rw [parameters, found]
    exact Form.shownFields_eq BreakerPolicy.form fun field => by cases field <;> rfl
  | bulkhead =>
    rw [part?] at found
    rw [parameters, found]
    exact Form.shownFields_eq BulkheadPolicy.form fun field => by cases field <;> rfl
  | fallback =>
    rw [part?] at found
    rw [parameters, found]
    exact Form.shownFields_eq FallbackPolicy.form fun field => by cases field <;> rfl

theorem withPart_withPart (policy : Policy) (kind : PolicyKind) (first second : Option kind.Part) :
    (policy.withPart kind first).withPart kind second = policy.withPart kind second := by
  cases kind <;> rfl

theorem foldlM_applyField (operation : OperationId) {parameters : List (String × String)}
    (unswitched : ∀ parameter ∈ parameters, parameter.1 ≠ "enabled") {part after : kind.Part}
    (found : base.part? kind = some part)
    (put : parameters.foldlM (fun part parameter =>
      kind.form.put kind part parameter.1 parameter.2) part = .ok after) :
    parameters.foldlM (fun policy parameter =>
      policy.applyField operation kind parameter.1 parameter.2) base =
        .ok (base.withPart kind (some after)) := by
  induction parameters generalizing base part with
  | nil =>
    cases put
    rw [← found]
    exact congrArg Except.ok (base.withPart_self kind).symm
  | cons parameter rest inductionHypothesis =>
    obtain ⟨first, unswitched⟩ := List.forall_mem_cons.mp unswitched
    rw [List.foldlM_cons, bind_eq_ok_iff] at put ⊢
    obtain ⟨middle, put, rest⟩ := put
    refine ⟨base.withPart kind (some middle), ?_, ?_⟩
    · have declared : base.declares kind = true := by rw [declares_eq, found]; rfl
      simp only [applyField, declared, Bool.not_true, Bool.false_eq_true, if_false, first,
        setPart_eq base kind _ _ found, put, Except.map]
    · rw [inductionHypothesis unswitched (part?_withPart _) rest, withPart_withPart]

/-- Whether the texts in a policy are legible: its sets of categories, and the names of its
handler and its backoff. -/
structure Legible (policy : Policy) : Prop where
  retry : ∀ retry, policy.retry = some retry → retry.retryOn.Legible ∧ retry.abortOn.Legible ∧
    ∀ name, retry.backoff = .custom name → Text.IsTrimmed name.toList
  breaker : ∀ breaker, policy.breaker = some breaker →
    breaker.failOn.Legible ∧ breaker.skipOn.Legible
  fallback : ∀ fallback, policy.fallback = some fallback → fallback.applyOn.Legible ∧
    fallback.skipOn.Legible ∧ Text.IsTrimmed fallback.handler.toList

/-- Whether the text of the failure ratio in a policy is read as that number. -/
def RatioReads (policy : Policy) : Prop :=
  ∀ breaker, policy.breaker = some breaker →
    Number.readFloat (Number.Layout.plain.text breaker.failureRatio) = .ok breaker.failureRatio

theorem legible_of_part? (valid : target.Valid) (legible : target.Legible)
    (reads : target.RatioReads) {part : kind.Part} (found : target.part? kind = some part)
    {field : kind.form.Field} {value : FieldValue}
    (held : kind.form.value? part field = some value) : value.Legible := by
  cases kind with
  | retry =>
    obtain ⟨retryOn, abortOn, named⟩ := legible.retry part found
    have sound : RetryPolicy.problem? part = none := by
      have unproblematic := valid .retry
      rw [part?] at found
      rw [problemOf?, found] at unproblematic
      exact unproblematic
    have nameable := RetryPolicy.legible_backoff sound named
    obtain ⟨_, _, _, _, _, _, backoff⟩ := part
    cases field with
    | retryOn => cases held; exact retryOn
    | abortOn => cases held; exact abortOn
    | backoff => cases held; exact nameable
    | factor | maxDelay | maxDelayUnit => cases backoff <;> cases held <;> exact trivial
    | _ => cases held; exact trivial
  | timeout => cases field <;> cases held <;> exact trivial
  | breaker =>
    obtain ⟨failOn, skipOn⟩ := legible.breaker part found
    have ratio := reads part found
    cases field <;> cases held <;> first | exact trivial | assumption
  | bulkhead => cases field <;> cases held <;> exact trivial
  | fallback =>
    obtain ⟨applyOn, skipOn, handler⟩ := legible.fallback part found
    cases field <;> cases held <;> assumption

/-- The parameters that a valid policy shows for one of its strategies can all be applied to any
policy that declares such a strategy, and they make it that strategy. -/
theorem parameters_apply_back (valid : target.Valid) (legible : target.Legible)
    (reads : target.RatioReads) (declared : target.declares kind = true)
    (present : base.declares kind = true) (operation : OperationId) :
    (target.parameters kind).foldlM (fun policy parameter =>
      policy.applyField operation kind parameter.1 parameter.2) base =
        .ok (base.withPart kind (target.part? kind)) := by
  rw [declares_eq] at declared present
  obtain ⟨part, found⟩ := Option.isSome_iff_exists.mp declared
  obtain ⟨old, there⟩ := Option.isSome_iff_exists.mp present
  have put := PolicyKind.foldlM_shown old fun field value held =>
    legible_of_part? valid legible reads found held
  have unswitched : ∀ parameter ∈ kind.form.shown part kind.form.fields,
      parameter.1 ≠ "enabled" := by
    intro parameter member
    obtain ⟨field, -, _, -, rfl⟩ := Form.mem_shown.mp member
    exact kind.name_ne_enabled field
  rw [parameters_eq target kind found, found]
  exact foldlM_applyField operation unswitched there put

def picky : Policy :=
  { retry := some
      { maxRetries := 7, delay := ⟨2, .seconds⟩, retryOn := .of ["Down", "Slow"],
        backoff := .custom "steps" } }

/-- A policy with another backoff, which has fields that the named one lacks. -/
def eager : Policy := { retry := some { backoff := .exponential 3 (.millis 500) } }

theorem parameters_apply_back_picky :
    picky.Valid ∧ picky.Legible ∧ picky.RatioReads ∧
      picky.declares .retry = true ∧ eager.declares .retry = true ∧
        (picky.parameters .retry).foldlM (fun policy parameter =>
          policy.applyField "pay" .retry parameter.1 parameter.2) eager = .ok picky := by
  have legible : picky.Legible := by
    refine ⟨fun retry declared => ?_, nofun, nofun⟩
    cases declared
    refine ⟨by decide, by decide, fun name same => ?_⟩
    cases same
    decide
  have reads : picky.RatioReads := nofun
  exact ⟨by decide, legible, reads, rfl, rfl,
    parameters_apply_back (by decide) legible reads rfl rfl "pay"⟩

end Policy

end Resilience
