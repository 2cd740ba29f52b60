import Resilience.Proofs.Policy.Form
import Resilience.Proofs.Policy.Resolution

/-!
A row of overrides falls apart into one row for each strategy. What such a row makes of a strategy
depends on its members only: the backoff comes first, the other fields do not touch each other, and
the switch comes last.
-/

namespace Resilience

def PolicyKind.Part : PolicyKind → Type
  | retry => RetryPolicy
  | timeout => TimeoutPolicy
  | breaker => BreakerPolicy
  | bulkhead => BulkheadPolicy
  | fallback => FallbackPolicy

def PolicyKind.form : (kind : PolicyKind) → Form kind.Part
  | retry => RetryPolicy.form
  | timeout => TimeoutPolicy.form
  | breaker => BreakerPolicy.form
  | bulkhead => BulkheadPolicy.form
  | fallback => FallbackPolicy.form

namespace Policy

def part? (policy : Policy) : (kind : PolicyKind) → Option kind.Part
  | .retry => policy.retry
  | .timeout => policy.timeout
  | .breaker => policy.breaker
  | .bulkhead => policy.bulkhead
  | .fallback => policy.fallback

def value? (policy : Policy) (kind : PolicyKind) (field : String) : Option FieldValue :=
  (policy.part? kind).bind fun part => kind.form.valueOf? part field

def withPart (policy : Policy) : (kind : PolicyKind) → Option kind.Part → Policy
  | .retry, part => { policy with retry := part }
  | .timeout, part => { policy with timeout := part }
  | .breaker, part => { policy with breaker := part }
  | .bulkhead, part => { policy with bulkhead := part }
  | .fallback, part => { policy with fallback := part }

variable {policy : Policy} {kind other : PolicyKind}

@[simp] theorem part?_withPart (part : Option kind.Part) :
    (policy.withPart kind part).part? kind = part := by
  cases kind <;> rfl

theorem part?_withPart_of_ne (part : Option kind.Part) (differs : other ≠ kind) :
    (policy.withPart kind part).part? other = policy.part? other := by
  cases kind <;> cases other <;> first | rfl | exact absurd rfl differs

theorem ext_part {a b : Policy} (same : ∀ kind, a.part? kind = b.part? kind) : a = b := by
  have retry := same .retry
  have timeout := same .timeout
  have breaker := same .breaker
  have bulkhead := same .bulkhead
  have fallback := same .fallback
  cases a
  cases b
  simp_all [part?]

theorem withPart_self (policy : Policy) (kind : PolicyKind) :
    policy.withPart kind (policy.part? kind) = policy := by
  cases kind <;> rfl

theorem declares_eq (policy : Policy) (kind : PolicyKind) :
    policy.declares kind = (policy.part? kind).isSome := by
  cases kind <;> rfl

theorem remove_eq (policy : Policy) (kind : PolicyKind) :
    policy.remove kind = policy.withPart kind none := by
  cases kind <;> rfl

theorem setPart_eq (policy : Policy) (kind : PolicyKind) (field text : String) {part : kind.Part}
    (found : policy.part? kind = some part) :
    policy.setPart kind field text =
      (kind.form.put kind part field text).map fun part => policy.withPart kind (some part) := by
  cases kind <;> (rw [part?] at found; simp only [setPart, found]; rfl)

end Policy

def PolicyKind.amend (kind : PolicyKind) (part? : Option kind.Part) (entry : FieldOverride) :
    Except PolicyError (Option kind.Part) :=
  match part? with
  | none => .ok none
  | some part =>
    if entry.field = "enabled" then
      match readField Number.readTruth entry.value with
      | .ok enabled => .ok (if enabled then some part else none)
      | .error problem => .error (.invalidField kind "enabled" problem)
    else (kind.form.put kind part entry.field entry.value).map some

namespace Policy

variable {declared policy after : Policy} {operation : OperationId}

theorem applyOverride_eq (entry : FieldOverride)
    (known : declared.declares entry.kind = true) :
    declared.applyOverride operation policy entry =
      (entry.kind.amend (policy.part? entry.kind) entry).map (policy.withPart entry.kind) := by
  simp only [applyOverride, known, Bool.not_true, Bool.false_eq_true, ↓reduceIte]
  cases found : policy.part? entry.kind with
  | none =>
    have missing : policy.declares entry.kind = false := by rw [declares_eq, found]; rfl
    have same := policy.withPart_self entry.kind
    rw [found] at same
    simp only [missing, Bool.not_false, ↓reduceIte, PolicyKind.amend, Except.map, same]
  | some part =>
    have present : policy.declares entry.kind = true := by rw [declares_eq, found]; rfl
    have same := policy.withPart_self entry.kind
    rw [found] at same
    simp only [present, Bool.not_true, Bool.false_eq_true, ↓reduceIte, applyField,
      PolicyKind.amend]
    split
    · cases readField Number.readTruth entry.value with
      | error problem => rfl
      | ok enabled => cases enabled <;> simp [Except.map, remove_eq, same]
    · rw [setPart_eq policy entry.kind entry.field entry.value found]
      cases entry.kind.form.put entry.kind part entry.field entry.value <;> rfl

theorem foldlM_applyOverride_iff {row : List FieldOverride} :
    row.foldlM (declared.applyOverride operation) policy = .ok after ↔
      (∀ entry ∈ row, declared.declares entry.kind = true) ∧
        ∀ kind, (row.filter fun entry => entry.kind = kind).foldlM kind.amend (policy.part? kind) =
          .ok (after.part? kind) := by
  -- The first override changes one strategy, which is the policy that the rest starts from.
  induction row generalizing policy with
  | nil =>
    constructor
    · intro same
      cases same
      exact ⟨nofun, fun _ => rfl⟩
    · rintro ⟨-, same⟩
      exact congrArg _ (ext_part fun kind => Except.ok.inj (same kind))
  | cons head rest inductionHypothesis =>
    rw [List.foldlM_cons, bind_eq_ok_iff, List.forall_mem_cons]
    by_cases known : declared.declares head.kind = true
    · simp only [applyOverride_eq head known, map_eq_ok_iff, known, true_and]
      have beside {kind : PolicyKind} (differs : head.kind ≠ kind) :
          (head :: rest).filter (fun entry => entry.kind = kind) =
            rest.filter fun entry => entry.kind = kind :=
        List.filter_cons_of_neg (by simpa using differs)
      have first : (head :: rest).filter (fun entry => entry.kind = head.kind) =
          head :: rest.filter fun entry => entry.kind = head.kind :=
        List.filter_cons_of_pos (by simp)
      constructor
      · rintro ⟨_, ⟨part, amended, rfl⟩, folded⟩
        obtain ⟨declares, parts⟩ := inductionHypothesis.mp folded
        refine ⟨declares, fun kind => ?_⟩
        by_cases same : head.kind = kind
        · subst same
          rw [first, List.foldlM_cons, bind_eq_ok_iff]
          refine ⟨part, amended, ?_⟩
          simpa using parts head.kind
        · rw [beside same, ← part?_withPart_of_ne part (Ne.symm same)]
          exact parts kind
      · rintro ⟨declares, parts⟩
        have own := parts head.kind
        rw [first, List.foldlM_cons, bind_eq_ok_iff] at own
        obtain ⟨part, amended, folded⟩ := own
        refine ⟨_, ⟨part, amended, rfl⟩, inductionHypothesis.mpr ⟨declares, fun kind => ?_⟩⟩
        by_cases same : head.kind = kind
        · subst same
          simpa using folded
        · rw [part?_withPart_of_ne part (Ne.symm same), ← beside same]
          exact parts kind
    · simp [applyOverride, known]

end Policy

namespace Form

variable {Part : Type} {form : Form Part} {kind : PolicyKind} {before after : Part}

/-- Whether the fields of a row of overrides hold what they read as, and all others what they held
before. -/
structure Filled (form : Form Part) (kind : PolicyKind) (row : List FieldOverride)
    (before after : Part) : Prop where
  written : ∀ entry ∈ row, (form.valueOf? before entry.field).isSome ∧
    ∃ value, form.readAs kind entry.field entry.value = .ok value ∧
      form.valueOf? after entry.field = some value
  kept : ∀ field, (∀ entry ∈ row, entry.field ≠ field) →
    form.valueOf? after field = form.valueOf? before field

theorem filled_nil : form.Filled kind [] before after ↔ before = after := by
  constructor
  · intro filled
    exact form.ext_valueOf? fun field => (filled.kept field nofun).symm
  · rintro rfl
    exact ⟨nofun, fun _ _ => rfl⟩

/-- Fields that differ are set each on its own, whatever the order. -/
theorem foldlM_put_iff {row : List FieldOverride}
    (distinct : row.Pairwise fun a b => a.field ≠ b.field)
    (plain : ∀ entry ∈ row, entry.field ≠ "backoff") :
    row.foldlM (fun part entry => form.put kind part entry.field entry.value) before = .ok after ↔
      form.Filled kind row before after := by
  induction row generalizing before with
  | nil => rw [filled_nil]; exact ⟨Except.ok.inj, congrArg _⟩
  | cons head rest inductionHypothesis =>
    obtain ⟨apart, distinct⟩ := List.pairwise_cons.mp distinct
    obtain ⟨first, plain⟩ := List.forall_mem_cons.mp plain
    have setting := form.put_setting kind before head.value first
    rw [List.foldlM_cons, bind_eq_ok_iff]
    generalize form.put kind before head.field head.value = result at setting ⊢
    constructor
    · rintro ⟨middle, rfl, folded⟩
      cases setting with
      | done read present alone =>
      have filled := (inductionHypothesis distinct plain).mp folded
      constructor
      · intro entry member
        rcases List.mem_cons.mp member with rfl | later
        · refine ⟨present, _, read, ?_⟩
          rw [filled.kept _ fun other beyond => (apart other beyond).symm, alone, if_pos rfl]
        · obtain ⟨held, written⟩ := filled.written entry later
          rw [alone, if_neg (apart entry later).symm] at held
          exact ⟨held, written⟩
      · intro field others
        rw [filled.kept field fun entry later => others entry (.tail _ later), alone,
          if_neg (others head (.head _)).symm]
    · intro filled
      obtain ⟨held, value, read, written⟩ := filled.written head (.head _)
      cases setting with
      | missing problem absent => rw [absent] at held; cases held
      | unread failed => rw [failed] at read; cases read
      | @done value' middle read' present alone =>
      cases read'.symm.trans read
      refine ⟨middle, rfl, (inductionHypothesis distinct plain).mpr ⟨?_, ?_⟩⟩
      · intro entry later
        obtain ⟨held, written⟩ := filled.written entry (.tail _ later)
        rw [alone, if_neg (apart entry later).symm]
        exact ⟨held, written⟩
      · intro field others
        rw [alone]
        split
        next same => exact same ▸ written
        next differs =>
          apply filled.kept
          intro entry member
          rcases List.mem_cons.mp member with rfl | later
          · exact Ne.symm differs
          · exact others entry later

end Form

namespace PolicyKind

variable {kind : PolicyKind} {row : List FieldOverride} {part base after : kind.Part}
  {result : Option kind.Part}

def Led (kind : PolicyKind) (row : List FieldOverride) (part base : kind.Part) : Prop :=
  (∀ entry ∈ row, entry.field ≠ "backoff") ∧ part = base ∨
    ∃ entry ∈ row, entry.field = "backoff" ∧
      kind.form.put kind part "backoff" entry.value = .ok base

def Switched (kind : PolicyKind) (row : List FieldOverride) (part : kind.Part)
    (result : Option kind.Part) : Prop :=
  (∀ entry ∈ row, entry.field ≠ "enabled") ∧ some part = result ∨
    ∃ entry ∈ row, entry.field = "enabled" ∧
      ∃ enabled, readField Number.readTruth entry.value = .ok enabled ∧
        (if enabled then some part else none) = result

def plain (entry : FieldOverride) : Bool := entry.field ≠ "backoff" ∧ entry.field ≠ "enabled"

/-- What a row of overrides of one kind makes of a strategy, whatever its order. -/
def Laid (kind : PolicyKind) (row : List FieldOverride) (part : kind.Part)
    (result : Option kind.Part) : Prop :=
  ∃ base after, kind.Led row part base ∧ kind.form.Filled kind (row.filter plain) base after ∧
    kind.Switched row after result

theorem Laid.congr {row other : List FieldOverride} (same : ∀ entry, entry ∈ row ↔ entry ∈ other)
    (laid : kind.Laid row part result) : kind.Laid other part result := by
  obtain ⟨base, after, led, filled, switched⟩ := laid
  refine ⟨base, after, ?_, ⟨?_, ?_⟩, ?_⟩
  · simpa only [Led, same] using led
  · simpa only [List.mem_filter, same] using filled.written
  · simpa only [List.mem_filter, same] using filled.kept
  · simpa only [Switched, same] using switched

theorem foldlM_amend_none (row : List FieldOverride) :
    row.foldlM kind.amend none = .ok none := by
  induction row with
  | nil => rfl
  | cons head rest inductionHypothesis => exact inductionHypothesis

/-- In a row of different fields there is one override of a field, or none. -/
theorem filter_field (distinct : row.Pairwise fun a b => a.field ≠ b.field) (field : String) :
    row.filter (fun entry => entry.field = field) = [] ∧ (∀ entry ∈ row, entry.field ≠ field) ∨
      ∃ entry ∈ row, entry.field = field ∧ (∀ other ∈ row, other.field = field → other = entry) ∧
        row.filter (fun entry => entry.field = field) = [entry] := by
  induction row with
  | nil => exact .inl ⟨rfl, nofun⟩
  | cons head rest inductionHypothesis =>
    obtain ⟨apart, distinct⟩ := List.pairwise_cons.mp distinct
    by_cases same : head.field = field
    · have others : ∀ entry ∈ rest, entry.field ≠ field := by
        intro entry later
        exact same ▸ (apart entry later).symm
      refine .inr ⟨head, .head _, same, ?_, ?_⟩
      · intro other member named
        rcases List.mem_cons.mp member with rfl | later
        · rfl
        · exact absurd named (others other later)
      · rw [List.filter_cons_of_pos (by simpa using same), List.filter_eq_nil_iff.mpr]
        simpa using others
    · rw [List.filter_cons_of_neg (by simpa using same)]
      rcases inductionHypothesis distinct with
        ⟨empty, others⟩ | ⟨entry, member, named, only, filtered⟩
      · exact .inl ⟨empty, List.forall_mem_cons.mpr ⟨same, others⟩⟩
      · refine .inr ⟨entry, .tail _ member, named, ?_, filtered⟩
        exact List.forall_mem_cons.mpr ⟨fun named => absurd named same, only⟩

theorem eq_stages
    (ranked : row.Pairwise fun a b => FieldOverride.rank a.field ≤ FieldOverride.rank b.field) :
    row = row.filter (fun entry => entry.field = "backoff") ++
      (row.filter plain ++ row.filter fun entry => entry.field = "enabled") := by
  induction row with
  | nil => rfl
  | cons head rest inductionHypothesis =>
    obtain ⟨first, ranked⟩ := List.pairwise_cons.mp ranked
    have stages := inductionHypothesis ranked
    rcases FieldOverride.rank_cases head.field with ⟨-, name⟩ | ⟨rank, name⟩ | ⟨rank, name⟩
    · refine (congrArg (head :: ·) stages).trans ?_
      simp [plain, name]
    · -- The highest rank comes first, so there is nothing but switches.
      have switches : ∀ entry ∈ head :: rest, entry.field = "enabled" := by
        intro entry member
        rcases List.mem_cons.mp member with rfl | later
        · exact name
        · have above := first entry later
          rcases FieldOverride.rank_cases entry.field with ⟨low, -⟩ | ⟨-, name⟩ | ⟨low, -⟩
          · omega
          · exact name
          · omega
      rw [List.filter_eq_nil_iff.mpr, List.filter_eq_nil_iff.mpr, List.filter_eq_self.mpr]
      · rfl
      all_goals
        intro entry member
        simp [plain, switches entry member]
    · have noBackoff : rest.filter (fun entry => entry.field = "backoff") = [] := by
        apply List.filter_eq_nil_iff.mpr
        intro entry later named
        have above := first entry later
        rcases FieldOverride.rank_cases entry.field with ⟨low, -⟩ | ⟨-, other⟩ | ⟨-, other, -⟩
        · omega
        · simp [other] at named
        · simp [other] at named
      refine (congrArg (head :: ·) stages).trans ?_
      simp [noBackoff, plain, name]

theorem foldlM_backoff_iff (distinct : row.Pairwise fun a b => a.field ≠ b.field) :
    (row.filter fun entry => entry.field = "backoff").foldlM kind.amend (some part) = .ok result ↔
      ∃ base, kind.Led row part base ∧ some base = result := by
  rcases filter_field distinct "backoff" with ⟨empty, none⟩ | ⟨entry, member, name, only, filtered⟩
  · rw [empty]
    constructor
    · intro same
      exact ⟨part, .inl ⟨none, rfl⟩, Except.ok.inj same⟩
    · rintro ⟨base, ⟨-, rfl⟩ | ⟨entry, member, name, -⟩, rfl⟩
      · rfl
      · exact absurd name (none entry member)
  · have amended : [entry].foldlM kind.amend (some part) =
        (kind.form.put kind part "backoff" entry.value).map some := by
      simp only [List.foldlM_cons, List.foldlM_nil, bind_pure, amend, name]
      rfl
    rw [filtered, amended, map_eq_ok_iff]
    constructor
    · rintro ⟨base, put, rfl⟩
      exact ⟨base, .inr ⟨entry, member, name, put⟩, rfl⟩
    · rintro ⟨base, ⟨none, -⟩ | ⟨other, held, named, put⟩, rfl⟩
      · exact absurd name (none entry member)
      · rw [only other held named] at put
        exact ⟨base, put, rfl⟩

theorem foldlM_amend_eq (unswitched : ∀ entry ∈ row, entry.field ≠ "enabled") :
    row.foldlM kind.amend (some part) =
      (row.foldlM (fun part entry => kind.form.put kind part entry.field entry.value) part).map
        some := by
  induction row generalizing part with
  | nil => rfl
  | cons head rest inductionHypothesis =>
    obtain ⟨first, unswitched⟩ := List.forall_mem_cons.mp unswitched
    rw [List.foldlM_cons, List.foldlM_cons, amend, if_neg first]
    cases kind.form.put kind part head.field head.value with
    | error error => rfl
    | ok middle => exact inductionHypothesis unswitched

theorem foldlM_enabled_iff (distinct : row.Pairwise fun a b => a.field ≠ b.field) :
    (row.filter fun entry => entry.field = "enabled").foldlM kind.amend (some part) = .ok result ↔
      kind.Switched row part result := by
  rcases filter_field distinct "enabled" with ⟨empty, none⟩ | ⟨entry, member, name, only, filtered⟩
  · rw [empty]
    constructor
    · intro same
      exact .inl ⟨none, Except.ok.inj same⟩
    · rintro (⟨-, rfl⟩ | ⟨entry, member, name, -⟩)
      · rfl
      · exact absurd name (none entry member)
  · rw [filtered, List.foldlM_cons, amend, if_pos name]
    constructor
    · intro amended
      refine .inr ⟨entry, member, name, ?_⟩
      cases read : readField Number.readTruth entry.value with
      | error problem =>
        rw [read] at amended
        cases amended
      | ok enabled =>
        rw [read] at amended
        exact ⟨enabled, rfl, Except.ok.inj amended⟩
    · rintro (⟨none, -⟩ | ⟨other, held, named, enabled, read, rfl⟩)
      · exact absurd name (none entry member)
      · rw [only other held named] at read
        rw [read]
        rfl

theorem foldlM_amend_iff (distinct : row.Pairwise fun a b => a.field ≠ b.field)
    (ranked : row.Pairwise fun a b => FieldOverride.rank a.field ≤ FieldOverride.rank b.field) :
    row.foldlM kind.amend (some part) = .ok result ↔ kind.Laid row part result := by
  have parted := List.Pairwise.filter plain distinct
  have isPlain : ∀ entry ∈ row.filter plain, entry.field ≠ "backoff" ∧ entry.field ≠ "enabled" := by
    intro entry member
    simpa [plain] using (List.mem_filter.mp member).2
  have stages := congrArg (List.foldlM kind.amend (some part)) (eq_stages ranked)
  rw [stages]
  simp only [List.foldlM_append, bind_eq_ok_iff]
  constructor
  · rintro ⟨_, first, _, second, last⟩
    obtain ⟨base, led, rfl⟩ := (foldlM_backoff_iff distinct).mp first
    rw [foldlM_amend_eq fun entry member => (isPlain entry member).2, map_eq_ok_iff] at second
    obtain ⟨after, filled, rfl⟩ := second
    refine ⟨base, after, led, ?_, (foldlM_enabled_iff distinct).mp last⟩
    exact (Form.foldlM_put_iff parted fun entry member => (isPlain entry member).1).mp filled
  · rintro ⟨base, after, led, filled, switched⟩
    refine ⟨some base, (foldlM_backoff_iff distinct).mpr ⟨base, led, rfl⟩, some after, ?_,
      (foldlM_enabled_iff distinct).mpr switched⟩
    rw [foldlM_amend_eq fun entry member => (isPlain entry member).2, map_eq_ok_iff]
    exact ⟨after, (Form.foldlM_put_iff parted fun entry member =>
      (isPlain entry member).1).mpr filled, rfl⟩

end PolicyKind

end Resilience
