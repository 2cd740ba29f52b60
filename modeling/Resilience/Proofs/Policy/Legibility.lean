import Mathlib.Data.List.Sort
import Resilience.Proofs.Policy.Form

/-!
Legible values: what the fields of a strategy show is read as what they hold. Numbers, units and
names of strategies always are; sets of categories and names given by users are if blanks and
commas do not mislead the reader.
-/

namespace Resilience

namespace Text

instance (text : List Char) : Decidable (IsTrimmed text) :=
  decidable_of_iff
    (text.head?.all (fun c => !isBlank c) ∧ text.getLast?.all (fun c => !isBlank c))
    (by simp [IsTrimmed, Option.all_eq_true])

theorem isBlank_of_isDigit {c : Char} (digit : c.isDigit = true) : isBlank c = false := by
  obtain ⟨least, most⟩ : 48 ≤ c.toNat ∧ c.toNat ≤ 57 := Char.isDigit_iff_toNat.mp digit
  have above : ¬c ≤ '\x0d' := fun below => absurd (show c.toNat ≤ 13 from below) (by omega)
  have below : ¬('\u2000' ≤ c) := fun above => absurd (show 8192 ≤ c.toNat from above) (by omega)
  have apart (other : Char) (outside : other.toNat < 48 ∨ 57 < other.toNat) :
      (c == other) = false := by
    refine beq_eq_false_iff_ne.mpr ?_
    rintro rfl
    omega
  simp [isBlank, above, below, apart]

def Solid (text : List Char) : Prop := ∀ c ∈ text, isBlank c = false

instance : DecidablePred Solid := List.decidableBAll _

theorem Solid.append {first second : List Char} (before : Solid first) (after : Solid second) :
    Solid (first ++ second) :=
  fun c member => (List.mem_append.mp member).elim (before c) (after c)

theorem solid_toDigits (n : Nat) : Solid (Nat.toDigits 10 n) := fun _ member =>
  isBlank_of_isDigit (Nat.isDigit_of_mem_toDigits (by decide) (by decide) member)

theorem solid_zeros (count : Nat) : Solid (List.replicate count '0') := by
  intro c member
  rw [List.eq_of_mem_replicate member]
  rfl

theorem IsTrimmed.append {first middle second : List Char} (before : IsTrimmed first)
    (after : IsTrimmed second) (some : first ≠ []) (more : second ≠ []) :
    IsTrimmed (first ++ middle ++ second) := by
  constructor
  · rw [List.append_assoc, List.head?_append_of_ne_nil _ some]
    exact before.1
  · rw [List.getLast?_append_of_ne_nil _ more]
    exact after.2

theorem isTrimmed_intercalate {separator : List Char} {texts : List (List Char)}
    (trimmed : ∀ text ∈ texts, text ≠ [] ∧ IsTrimmed text) :
    IsTrimmed (separator.intercalate texts) := by
  -- The whole ends like the last text, which is not empty, so the induction carries that along.
  have whole : texts ≠ [] →
      separator.intercalate texts ≠ [] ∧ IsTrimmed (separator.intercalate texts) := by
    induction texts with
    | nil => exact fun none => absurd rfl none
    | cons text rest inductionHypothesis =>
      obtain ⟨⟨some, first⟩, trimmed⟩ := List.forall_mem_cons.mp trimmed
      intro _
      cases rest with
      | nil =>
        rw [List.intercalate_singleton]
        exact ⟨some, first⟩
      | cons next rest =>
        obtain ⟨more, last⟩ := inductionHypothesis trimmed (List.cons_ne_nil _ _)
        rw [List.intercalate_cons_cons]
        exact ⟨List.append_ne_nil_of_right_ne_nil _ more, first.append last some more⟩
  by_cases none : texts = []
  · rw [none]
    exact ⟨nofun, nofun⟩
  · exact (whole none).2

theorem isTrimmed_of_solid {text : List Char} (solid : Solid text) : IsTrimmed text :=
  ⟨fun c first => solid c (List.mem_of_mem_head? first),
    fun c last => solid c (List.mem_of_getLast? last)⟩

theorem trim_of_isTrimmed {text : String} (trimmed : IsTrimmed text.toList) : trim text = text := by
  rw [trim, trimmed_of_isTrimmed trimmed, String.ofList_toList]

theorem pieces_eq_splitOn (separator : Char) (text : List Char) :
    pieces separator text = text.splitOn separator := by
  induction text with
  | nil => rfl
  | cons c rest inductionHypothesis =>
    rw [pieces, List.splitOn_cons_eq_if_modifyHead, ← inductionHypothesis]
    by_cases same : c = separator
    · simp [same]
    · simp only [same, if_false, beq_eq_false_iff_ne.mpr same, Bool.false_eq_true]
      cases found : pieces separator rest with
      | nil => exact absurd found (pieces_ne_nil separator rest)
      | cons piece others => rfl

end Text

namespace Number

theorem digit?_of_isDigit {c : Char} (digit : c.isDigit = true) :
    digit? c = some (c.toNat - '0'.toNat) := by
  have bounds := Char.isDigit_iff_toNat.mp digit
  exact if_pos bounds

theorem readDigits_eq {limit value : Nat} {digits : List Char}
    (digital : ∀ c ∈ digits, c.isDigit = true)
    (within : Nat.ofDigitChars 10 digits value ≤ limit) :
    readDigits limit value digits = .ok (Nat.ofDigitChars 10 digits value) := by
  induction digits generalizing value with
  | nil => rfl
  | cons c rest inductionHypothesis =>
    obtain ⟨digit, digital⟩ := List.forall_mem_cons.mp digital
    rw [Nat.ofDigitChars_cons, Nat.mul_comm] at within ⊢
    have below : value * 10 + (c.toNat - '0'.toNat) ≤ limit := by
      rw [Nat.ofDigitChars_eq_ofDigitChars_zero] at within
      have scale : 0 < 10 ^ rest.length := Nat.pow_pos (by decide)
      have grows := Nat.le_mul_of_pos_left (value * 10 + (c.toNat - '0'.toNat)) scale
      omega
    rw [readDigits, digit?_of_isDigit digit]
    exact (if_pos below).trans (inductionHypothesis digital within)

theorem readNatural_naturalText {limit n : Nat} (within : n ≤ limit) :
    readNatural limit (naturalText n) = .ok n := by
  have text : (naturalText n).toList = Nat.toDigits 10 n := Nat.toList_repr
  have digital : ∀ c ∈ Nat.toDigits 10 n, c.isDigit = true := fun c member =>
    Nat.isDigit_of_mem_toDigits (by decide) (by decide) member
  have unsigned : '+' ∉ Nat.toDigits 10 n := fun member => nomatch digital '+' member
  have read : readDigits limit 0 (Nat.toDigits 10 n) = .ok _ :=
    readDigits_eq digital (by simpa using within)
  rw [Nat.ofDigitChars_ten_toDigits] at read
  rw [readNatural, text]
  split
  next empty => exact absurd empty Nat.toDigits_ne_nil
  next sign => exact absurd (sign ▸ List.mem_singleton_self _) unsigned
  next sign => exact absurd (sign ▸ List.mem_cons_self) unsigned
  next => exact read

theorem readUInt32_naturalText (value : UInt32) :
    readUInt32 (naturalText value.toNat) = .ok value := by
  have within : value.toNat ≤ UInt32.size - 1 := Nat.le_pred_of_lt value.toNat_lt
  rw [readUInt32, readNatural_naturalText within]
  exact congrArg Except.ok UInt32.ofNat_toNat

theorem readUInt64_naturalText (value : UInt64) :
    readUInt64 (naturalText value.toNat) = .ok value := by
  have within : value.toNat ≤ UInt64.size - 1 := Nat.le_pred_of_lt value.toNat_lt
  rw [readUInt64, readNatural_naturalText within]
  exact congrArg Except.ok UInt64.ofNat_toNat

theorem isTrimmed_naturalText (n : Nat) : Text.IsTrimmed (naturalText n).toList := by
  have text : (naturalText n).toList = Nat.toDigits 10 n := Nat.toList_repr
  exact text ▸ Text.isTrimmed_of_solid (Text.solid_toDigits n)

theorem solid_positionalText {layout : Layout} {digits : List Char} (solid : Text.Solid digits)
    (before : Int) : Text.Solid (positionalText layout digits before) := by
  have point : Text.Solid ['0', '.'] ∧ Text.Solid ['.', '0'] ∧ Text.Solid [] := by
    decide
  unfold positionalText
  split
  · exact (point.1.append (Text.solid_zeros _)).append solid
  split
  · refine (solid.append (Text.solid_zeros _)).append ?_
    split
    · exact point.2.1
    · exact point.2.2
  · intro c member
    rcases List.mem_append.mp member with early | late
    · exact solid c (List.mem_of_mem_take early)
    · rcases List.mem_cons.mp late with rfl | late
      · rfl
      · exact solid c (List.mem_of_mem_drop late)

theorem solid_numeralText (numeral : Numeral) :
    Text.Solid (Layout.plain.numeralText numeral) := by
  refine solid_positionalText (fun c member => Text.solid_toDigits numeral.digits c ?_) _
  have kept := (List.dropWhile_suffix _).mem (List.mem_reverse.mp member)
  exact List.mem_reverse.mp kept

theorem isTrimmed_plain (x : Float) : Text.IsTrimmed (Layout.plain.text x).toList := by
  have words : Text.Solid "NaN".toList ∧ Text.Solid ['-'] ∧ Text.Solid [] ∧
      Text.Solid "inf".toList ∧ Text.Solid ['0'] := by
    decide
  refine Text.isTrimmed_of_solid ?_
  unfold Layout.text
  dsimp only
  split
  · exact words.1
  · rw [String.toList_ofList]
    refine .append ?_ ?_
    · split
      · exact words.2.1
      · exact words.2.2.1
    · split
      · exact words.2.2.2.1
      split
      · exact words.2.2.2.2
      · exact solid_numeralText _

end Number

/-- A text that a reader takes and that has no blanks around it is a text that a field takes. -/
theorem readField_of_isTrimmed {α : Type} {read : String → Except Number.ReadError α}
    {text : String} {value : α} (trimmed : Text.IsTrimmed text.toList)
    (taken : read text = .ok value) : readField read text = .ok value := by
  rw [readField, Text.trim_of_isTrimmed trimmed, taken]
  rfl

namespace CategorySet

/-- Whether the text of a set is read as the set: it holds all categories, or a star does not stand
alone and no name misleads the reader. -/
def Legible (set : CategorySet) : Prop :=
  set = all ∨ set.any = false ∧ set.members ≠ ["*"] ∧
    ∀ name ∈ set.members, name ≠ "" ∧ ',' ∉ name.toList ∧ Text.IsTrimmed name.toList

instance (set : CategorySet) : Decidable set.Legible := inferInstanceAs (Decidable (_ ∨ _))

variable {set : CategorySet}

theorem mem_members_foldl {names : List Category} {other : Category} :
    other ∈ (names.foldl add set).members ↔ other ∈ names ∨ other ∈ set.members := by
  induction names generalizing set with
  | nil => simp
  | cons name rest inductionHypothesis =>
    rw [List.foldl_cons, inductionHypothesis, mem_members_add, List.mem_cons]
    tauto

theorem any_foldl (names : List Category) : (names.foldl add set).any = set.any := by
  induction names generalizing set with
  | nil => rfl
  | cons name rest inductionHypothesis => exact inductionHypothesis

theorem of_members (explicit : set.any = false) : of set.members = set := by
  have any : (of set.members).any = set.any := (any_foldl _).trans explicit.symm
  have members : (of set.members).members = set.members := by
    refine (of set.members).ascending.eq_of_mem_iff set.ascending fun name => ?_
    simp [of, mem_members_foldl, none]
  generalize of set.members = other at any members
  cases other
  cases set
  cases any
  cases members
  rfl

theorem listed_intercalate {names : List Category} (some : names ≠ [])
    (legible : ∀ name ∈ names, name ≠ "" ∧ ',' ∉ name.toList ∧ Text.IsTrimmed name.toList) :
    listed ([','].intercalate (names.map String.toList)) = names := by
  have apart : ∀ text ∈ names.map String.toList, ',' ∉ text :=
    List.forall_mem_map.mpr fun name member => (legible name member).2.1
  have trimmed : (names.map String.toList).map Text.trimmed = names.map String.toList := by
    rw [List.map_map]
    exact List.map_congr_left fun name member =>
      Text.trimmed_of_isTrimmed (legible name member).2.2
  have kept : (names.map String.toList).filter (fun text => text ≠ []) =
      names.map String.toList := by
    refine List.filter_eq_self.mpr (List.forall_mem_map.mpr fun name member => ?_)
    simpa using (legible name member).1
  rw [listed, Text.pieces_eq_splitOn, List.splitOn_intercalate _ apart (by simpa using some),
    trimmed, kept, List.map_map]
  exact (List.map_congr_left fun name _ => String.ofList_toList).trans (List.map_id _)

theorem ofText_text (legible : set.Legible) : ofText set.text = set := by
  rcases legible with rfl | ⟨explicit, unstarred, legible⟩
  · rfl
  have text : set.text.toList = [','].intercalate (set.members.map String.toList) := by
    rw [CategorySet.text, explicit]
    exact String.toList_intercalate
  by_cases some : set.members = []
  · have silent : set.text = "" := by rw [CategorySet.text, explicit, some]; rfl
    rw [silent, ← of_members explicit, some]
    rfl
  · have trimmed : Text.IsTrimmed ([','].intercalate (set.members.map String.toList)) := by
      refine Text.isTrimmed_intercalate (List.forall_mem_map.mpr fun name member => ?_)
      obtain ⟨named, -, trimmed⟩ := legible name member
      exact ⟨by simpa using named, trimmed⟩
    have read := listed_intercalate some legible
    have starless : [','].intercalate (set.members.map String.toList) ≠ ['*'] := by
      intro star
      rw [star] at read
      exact unstarred read.symm
    rw [ofText, text, Text.trimmed_of_isTrimmed trimmed, read]
    exact (if_neg starless).trans (of_members explicit)

end CategorySet

theorem Sampling.ofText_label (sampling : Sampling) : ofText sampling.label = .ok sampling := by
  cases sampling <;> rfl

namespace BackoffPolicy

def Legible (backoff : BackoffPolicy) : Prop :=
  ∀ name, backoff = custom name → name ≠ "" ∧ Text.IsTrimmed name.toList

/-- The text that names a legible backoff is read as one of its kind. -/
theorem ofText_label {backoff : BackoffPolicy} (legible : backoff.Legible) :
    ofText backoff.label = .ok backoff.plain := by
  cases backoff with
  | none => rfl
  | exponential => exact (rfl : ofText "exponential" = .ok defaultExponential)
  | fibonacci => exact (rfl : ofText "fibonacci" = .ok defaultFibonacci)
  | custom name =>
    obtain ⟨named, trimmed⟩ := legible name rfl
    obtain ⟨first, rest, letters⟩ : ∃ first rest, name.toList = first :: rest :=
      List.exists_cons_of_ne_nil (by simpa using named)
    have marked : Text.IsTrimmed "custom:".toList := by decide
    have joined : Text.IsTrimmed ("custom:".toList ++ [] ++ name.toList) :=
      marked.append trimmed (by decide) (by simpa using named)
    have whole : Text.trimmed ("custom:" ++ name).toList = "custom:".toList ++ name.toList :=
      (congrArg Text.trimmed String.toList_append).trans (Text.trimmed_of_isTrimmed joined)
    have ofList : String.ofList (first :: rest) = name := letters ▸ String.ofList_toList
    have body : Text.trimmed (first :: rest) = first :: rest :=
      Text.trimmed_of_isTrimmed (letters ▸ trimmed)
    change ofText ("custom:" ++ name) = .ok (custom name)
    rw [ofText, whole, letters]
    simpa [Text.rest?, body] using ofList

end BackoffPolicy

namespace FieldValue

def sort : FieldValue → FieldSort
  | count _ => .count
  | amount _ => .amount
  | unit _ => .unit
  | ratio _ => .ratio
  | categories _ => .categories
  | sampling _ => .sampling
  | backoff _ => .backoff
  | name _ => .name

def text : FieldValue → String
  | count value => naturalText value.toNat
  | amount value => naturalText value.toNat
  | unit value => value.name
  | ratio value => Number.Layout.plain.text value
  | categories value => value.text
  | sampling value => value.label
  | backoff value => value.label
  | name value => value

def Legible : FieldValue → Prop
  | ratio value => Number.readFloat (Number.Layout.plain.text value) = .ok value
  | categories value => value.Legible
  | backoff value => value.Legible ∧ value.plain = value
  | name value => Text.IsTrimmed value.toList
  | _ => True

theorem read_text {value : FieldValue} (legible : value.Legible) :
    value.sort.read value.text = .ok value := by
  cases value with
  | count value =>
    have read := readField_of_isTrimmed (Number.isTrimmed_naturalText value.toNat)
      (Number.readUInt32_naturalText value)
    simp only [sort, text, FieldSort.read, read, Except.map]
  | amount value =>
    have read := readField_of_isTrimmed (Number.isTrimmed_naturalText value.toNat)
      (Number.readUInt64_naturalText value)
    simp only [sort, text, FieldSort.read, read, Except.map]
  | unit value =>
    simp only [sort, text, FieldSort.read, readUnit, TimeUnit.ofText?_name, Except.map]
  | ratio value =>
    have read := readField_of_isTrimmed (Number.isTrimmed_plain value) legible
    simp only [sort, text, FieldSort.read, read, Except.map]
  | categories value =>
    simp only [sort, text, FieldSort.read, CategorySet.ofText_text legible]
  | sampling value =>
    simp only [sort, text, FieldSort.read, Sampling.ofText_label, Except.map]
  | backoff value =>
    simp only [sort, text, FieldSort.read, BackoffPolicy.ofText_label legible.1, legible.2,
      Except.map]
  | name value =>
    simp only [sort, text, FieldSort.read, Text.trim_of_isTrimmed legible]

end FieldValue

end Resilience
