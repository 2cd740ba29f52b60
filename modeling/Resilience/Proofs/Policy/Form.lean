import Resilience.Policy.Field

/-!
The strategies by their fields. A strategy is what its fields hold, and to set a field is to read
its text and to change that field alone. The backoff is the one exception: it brings the fields
that depend on it along.
-/

namespace Resilience

/-- What a field of a strategy holds. A backoff stands here without the parameters that are fields
of their own. -/
inductive FieldValue where
  | count (value : UInt32)
  | amount (value : UInt64)
  | unit (value : TimeUnit)
  | ratio (value : Float)
  | categories (value : CategorySet)
  | sampling (value : Sampling)
  | backoff (value : BackoffPolicy)
  | name (value : String)

inductive FieldSort where
  | count | amount | unit | ratio | categories | sampling | backoff | name

def FieldSort.read : FieldSort → String → Except FieldProblem FieldValue
  | count, text => (readField Number.readUInt32 text).map .count
  | amount, text => (readField Number.readUInt64 text).map .amount
  | unit, text => (readUnit text).map .unit
  | ratio, text => (readField Number.readFloat text).map .ratio
  | categories, text => .ok (.categories (.ofText text))
  | sampling, text => (Sampling.ofText text).map .sampling
  | backoff, text => (BackoffPolicy.ofText text).map .backoff
  | name, text => .ok (.name (Text.trim text))

/-- How a field is set. It takes what its text reads as and every other field stays, unless the
strategy has no such field or the text cannot be read. -/
inductive Setting {ε Part Field : Type} [DecidableEq Field]
    (value? : Part → Field → Option FieldValue) (read : Except ε FieldValue) (part : Part)
    (field : Field) : Except ε Part → Prop
  | missing (problem : ε) : value? part field = none →
      Setting value? read part field (.error problem)
  | unread {problem : ε} : read = .error problem →
      Setting value? read part field (.error problem)
  | done {value : FieldValue} {after : Part} : read = .ok value → (value? part field).isSome →
      (∀ other, value? after other = if other = field then some value else value? part other) →
      Setting value? read part field (.ok after)

section

variable {ε β Part Field : Type} [DecidableEq Field] {value? : Part → Field → Option FieldValue}
  {part : Part} {field : Field}

theorem Setting.of_read {read : Except ε β} {hold : β → FieldValue} {build : β → Part}
    (present : (value? part field).isSome)
    (alone : ∀ value other, value? (build value) other =
      if other = field then some (hold value) else value? part other) :
    Setting value? (read.map hold) part field (do let value ← read; return build value) := by
  cases read with
  | error problem => exact .unread rfl
  | ok value => exact .done rfl present (alone value)

end

/-- The fields of one kind of strategy: how they are called, read, looked up and set. -/
structure Form (Part : Type) where
  Field : Type
  fields : List Field
  name : Field → String
  sort : Field → FieldSort
  value? : Part → Field → Option FieldValue
  set : Part → Field → String → Except FieldProblem Part
  [decidable : DecidableEq Field]
  found : ∀ field, (fields.find? fun other => name other = name field) = some field
  ext : ∀ a b, (∀ field, value? a field = value? b field) → a = b
  setting : ∀ part field text, name field ≠ "backoff" →
    Setting value? ((sort field).read text) part field (set part field text)

def BackoffPolicy.plain : BackoffPolicy → BackoffPolicy
  | none => none
  | exponential .. => defaultExponential
  | fibonacci .. => defaultFibonacci
  | custom name => custom name

namespace RetryField

def sort : RetryField → FieldSort
  | maxRetries | factor => .count
  | delay | maxDuration | jitter | maxDelay => .amount
  | delayUnit | durationUnit | jitterUnit | maxDelayUnit => .unit
  | retryOn | abortOn => .categories
  | backoff => .backoff

end RetryField

theorem Amount.eq_iff {a b : Amount} : a = b ↔ a.value = b.value ∧ a.unit = b.unit := by
  cases a
  cases b
  rw [mk.injEq]

namespace BackoffPolicy

def value? : BackoffPolicy → RetryField → Option FieldValue
  | backoff, .backoff => some (.backoff backoff.plain)
  | exponential factor _, .factor => some (.count factor)
  | exponential _ maxDelay, .maxDelay | fibonacci maxDelay, .maxDelay =>
    some (.amount maxDelay.value)
  | exponential _ maxDelay, .maxDelayUnit | fibonacci maxDelay, .maxDelayUnit =>
    some (.unit maxDelay.unit)
  | _, _ => Option.none

end BackoffPolicy

namespace RetryPolicy

def value? (policy : RetryPolicy) : RetryField → Option FieldValue
  | .maxRetries => some (.count policy.maxRetries)
  | .delay => some (.amount policy.delay.value)
  | .delayUnit => some (.unit policy.delay.unit)
  | .maxDuration => some (.amount policy.maxDuration.value)
  | .durationUnit => some (.unit policy.maxDuration.unit)
  | .jitter => some (.amount policy.jitter.value)
  | .jitterUnit => some (.unit policy.jitter.unit)
  | .retryOn => some (.categories policy.retryOn)
  | .abortOn => some (.categories policy.abortOn)
  | field => policy.backoff.value? field

end RetryPolicy

theorem BackoffPolicy.ext_value {a b : BackoffPolicy}
    (same : ∀ field, a.value? field = b.value? field) : a = b := by
  have kind := same .backoff
  have factor := same .factor
  have maxDelay := same .maxDelay
  have maxDelayUnit := same .maxDelayUnit
  cases a <;> cases b <;>
    simp_all [value?, plain, defaultExponential, defaultFibonacci, Amount.eq_iff]

namespace RetryPolicy

theorem ext_value {a b : RetryPolicy} (same : ∀ field, a.value? field = b.value? field) :
    a = b := by
  have backoff : a.backoff = b.backoff := by
    apply BackoffPolicy.ext_value
    intro field
    cases field with
    | backoff => exact same .backoff
    | factor => exact same .factor
    | maxDelay => exact same .maxDelay
    | maxDelayUnit => exact same .maxDelayUnit
    | _ => rfl
  have amounts := And.intro (same .delay) (And.intro (same .maxDuration) (same .jitter))
  have units := And.intro (same .delayUnit) (And.intro (same .durationUnit) (same .jitterUnit))
  have others := And.intro (same .maxRetries) (And.intro (same .retryOn) (same .abortOn))
  cases a
  cases b
  simp_all [value?, Amount.eq_iff]

theorem setting (policy : RetryPolicy) {field : RetryField} (text : String)
    (plain : field ≠ .backoff) :
    Setting value? (field.sort.read text) policy field (policy.set field text) := by
  obtain ⟨_, _, _, _, _, _, backoff⟩ := policy
  cases field with
  | backoff => exact absurd rfl plain
  | retryOn | abortOn =>
    apply Setting.done rfl rfl
    intro other
    cases other <;> rfl
  | factor =>
    cases backoff with
    | exponential =>
      simp only [set, RetryField.sort, FieldSort.read]
      apply Setting.of_read rfl
      intro value other
      cases other <;> rfl
    | _ => exact .missing _ rfl
  | maxDelay | maxDelayUnit =>
    cases backoff with
    | exponential | fibonacci =>
      simp only [set, RetryField.sort, FieldSort.read]
      apply Setting.of_read rfl
      intro value other
      cases other <;> rfl
    | _ => exact .missing _ rfl
  | _ =>
    simp only [set, RetryField.sort, FieldSort.read]
    apply Setting.of_read rfl
    intro value other
    cases other <;> rfl

def form : Form RetryPolicy where
  Field := RetryField
  fields := RetryField.all
  name := RetryField.name
  sort := RetryField.sort
  value? := value?
  set := set
  found field := by cases field <;> rfl
  ext _ _ := ext_value
  setting policy field text plain := by
    apply policy.setting
    rintro rfl
    exact plain rfl

end RetryPolicy

def TimeoutField.sort : TimeoutField → FieldSort
  | value => .amount
  | unit => .unit

namespace TimeoutPolicy

def value? (policy : TimeoutPolicy) : TimeoutField → Option FieldValue
  | .value => some (.amount policy.duration.value)
  | .unit => some (.unit policy.duration.unit)

def form : Form TimeoutPolicy where
  Field := TimeoutField
  fields := TimeoutField.all
  name := TimeoutField.name
  sort := TimeoutField.sort
  value? := value?
  set := set
  found field := by cases field <;> rfl
  ext a b same := by
    have value := same .value
    have unit := same .unit
    cases a
    cases b
    simp_all [value?, Amount.eq_iff]
  setting policy field text _ := by
    cases field <;> simp only [set, TimeoutField.sort, FieldSort.read]
    all_goals
      apply Setting.of_read rfl
      intro value other
      cases other <;> rfl

end TimeoutPolicy

def BreakerField.sort : BreakerField → FieldSort
  | volume | successThreshold => .count
  | delay => .amount
  | delayUnit => .unit
  | failureRatio => .ratio
  | failOn | skipOn => .categories
  | sampling => .sampling

namespace BreakerPolicy

def value? (policy : BreakerPolicy) : BreakerField → Option FieldValue
  | .delay => some (.amount policy.delay.value)
  | .delayUnit => some (.unit policy.delay.unit)
  | .volume => some (.count policy.volume)
  | .failureRatio => some (.ratio policy.failureRatio)
  | .successThreshold => some (.count policy.successThreshold)
  | .failOn => some (.categories policy.failOn)
  | .skipOn => some (.categories policy.skipOn)
  | .sampling => some (.sampling policy.sampling)

theorem ext_value {a b : BreakerPolicy} (same : ∀ field, a.value? field = b.value? field) :
    a = b := by
  have delays := And.intro (same .delay) (same .delayUnit)
  have counts := And.intro (same .volume) (same .successThreshold)
  have sets := And.intro (same .failOn) (same .skipOn)
  have others := And.intro (same .failureRatio) (same .sampling)
  obtain ⟨⟨⟩⟩ := a
  obtain ⟨⟨⟩⟩ := b
  simp_all [value?, Amount.eq_iff]

def form : Form BreakerPolicy where
  Field := BreakerField
  fields := BreakerField.all
  name := BreakerField.name
  sort := BreakerField.sort
  value? := value?
  set := set
  found field := by cases field <;> rfl
  ext _ _ := ext_value
  setting policy field text _ := by
    cases field with
    | failOn | skipOn =>
      apply Setting.done rfl rfl
      intro other
      cases other <;> rfl
    | _ =>
      simp only [set, BreakerField.sort, FieldSort.read]
      apply Setting.of_read rfl
      intro value other
      cases other <;> rfl

end BreakerPolicy

namespace BulkheadPolicy

def value? (policy : BulkheadPolicy) : BulkheadField → Option FieldValue
  | .maxConcurrent => some (.count policy.maxConcurrent)
  | .queueSize => some (.count policy.queueSize)

def form : Form BulkheadPolicy where
  Field := BulkheadField
  fields := BulkheadField.all
  name := BulkheadField.name
  sort _ := .count
  value? := value?
  set := set
  found field := by cases field <;> rfl
  ext a b same := by
    have maxConcurrent := same .maxConcurrent
    have queueSize := same .queueSize
    cases a
    cases b
    simp_all [value?]
  setting policy field text _ := by
    cases field <;> simp only [set, FieldSort.read]
    all_goals
      apply Setting.of_read rfl
      intro value other
      cases other <;> rfl

end BulkheadPolicy

namespace FallbackPolicy

def value? (policy : FallbackPolicy) : FallbackField → Option FieldValue
  | .handler => some (.name policy.handler)
  | .applyOn => some (.categories policy.applyOn)
  | .skipOn => some (.categories policy.skipOn)

def form : Form FallbackPolicy where
  Field := FallbackField
  fields := FallbackField.all
  name := FallbackField.name
  sort
    | .handler => .name
    | .applyOn | .skipOn => .categories
  value? := value?
  set := set
  found field := by cases field <;> rfl
  ext a b same := by
    have handler := same .handler
    have applyOn := same .applyOn
    have skipOn := same .skipOn
    cases a
    cases b
    simp_all [value?]
  setting policy field text _ := by
    cases field <;> apply Setting.done rfl rfl
    all_goals
      intro other
      cases other <;> rfl

end FallbackPolicy

namespace Form

variable {Part : Type} (form : Form Part) (kind : PolicyKind) {part after : Part}
  {field text : String}

def find? (field : String) : Option form.Field :=
  form.fields.find? fun other => form.name other = field

def valueOf? (part : Part) (field : String) : Option FieldValue :=
  (form.find? field).bind (form.value? part)

def readAs (field text : String) : Except PolicyError FieldValue :=
  match form.find? field with
  | some found => ((form.sort found).read text).mapError (.invalidField kind field)
  | none => .error (.unknownField kind field)

def put (part : Part) (field text : String) : Except PolicyError Part :=
  setNamed kind form.fields form.name form.set part field text

theorem name_of_find? {found : form.Field} (known : form.find? field = some found) :
    form.name found = field := by
  have named := List.find?_some (p := fun other => decide (form.name other = field)) known
  exact of_decide_eq_true named

theorem name_inj {a b : form.Field} (same : form.name a = form.name b) : a = b := by
  have found := form.found a
  rw [same, form.found b] at found
  exact (Option.some.inj found).symm

theorem valueOf?_name (part : Part) (field : form.Field) :
    form.valueOf? part (form.name field) = form.value? part field := by
  rw [valueOf?, find?, form.found field, Option.bind_some]

theorem valueOf?_congr {a b : Part}
    (same : ∀ known, form.name known = field → form.value? a known = form.value? b known) :
    form.valueOf? a field = form.valueOf? b field := by
  unfold valueOf?
  cases known : form.find? field with
  | none => rfl
  | some found => exact same found (form.name_of_find? known)

theorem ext_valueOf? {a b : Part} (same : ∀ field, form.valueOf? a field = form.valueOf? b field) :
    a = b := by
  apply form.ext
  intro field
  rw [← valueOf?_name, ← valueOf?_name]
  exact same _

theorem put_setting (part : Part) (text : String) (plain : field ≠ "backoff") :
    Setting form.valueOf? (form.readAs kind field text) part field
      (form.put kind part field text) := by
  cases known : form.find? field with
  | none =>
    have unread : form.readAs kind field text = .error (.unknownField kind field) := by
      rw [readAs, known]
    rw [put, setNamed, ← find?, known]
    exact .unread unread
  | some found =>
    have name := form.name_of_find? known
    have read : form.readAs kind field text =
        ((form.sort found).read text).mapError (.invalidField kind field) := by
      rw [readAs, known]
    have value (part : Part) : form.valueOf? part field = form.value? part found := by
      rw [valueOf?, known]
      rfl
    have put : form.put kind part field text =
        (form.set part found text).mapError (.invalidField kind field) := by
      rw [put, setNamed, ← find?, known]
    rw [put]
    have setting := form.setting part found text (name ▸ plain)
    generalize form.set part found text = result at setting ⊢
    cases setting with
    | missing problem absent =>
      refine Setting.missing (PolicyError.invalidField kind field problem) ?_
      rw [value, absent]
    | unread failed =>
      have problem := congrArg (Except.mapError (PolicyError.invalidField kind field)) failed
      exact Setting.unread (read.trans problem)
    | done ready present alone =>
      have readable := congrArg (Except.mapError (PolicyError.invalidField kind field)) ready
      refine Setting.done (read.trans readable) ((value part).symm ▸ present) ?_
      intro other
      split
      next same => rw [same, value, alone, if_pos rfl]
      next differs =>
        rw [valueOf?, valueOf?]
        cases beside : form.find? other with
        | none => rfl
        | some next =>
          have apart : next ≠ found := by
            rintro rfl
            exact differs ((form.name_of_find? beside).symm.trans name)
          exact (alone next).trans (if_neg apart)

end Form

end Resilience
