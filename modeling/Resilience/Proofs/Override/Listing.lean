import Mathlib.Data.List.DropRight
import Resilience.Override
import Resilience.Proofs.Policy.Rendering
import Resilience.Proofs.Policy.Resolution

/-!
Overrides as text. Whatever was read from a text, the text of it is read as the same: the parts of
a line come out trimmed and free of the signs that would part them elsewhere, and no line starts
like a comment. A text is refused for the first line that cannot be read.
-/

namespace Resilience

section

variable {ε α β : Type} {read : α → Except ε β} {row : List α}

theorem mapM_eq_ok_iff {results : List β} :
    row.mapM read = .ok results ↔
      List.Forall₂ (fun value result => read value = .ok result) row results := by
  induction row generalizing results with
  | nil =>
    constructor
    · intro same
      cases same
      exact .nil
    · rintro ⟨⟩
      rfl
  | cons value rest inductionHypothesis =>
    simp only [List.mapM_cons, bind_eq_ok_iff, List.forall₂_cons_left_iff, inductionHypothesis]
    constructor
    · rintro ⟨result, first, later, follow, same⟩
      cases same
      exact ⟨result, later, first, follow, rfl⟩
    · rintro ⟨result, later, first, follow, rfl⟩
      exact ⟨result, first, later, follow, rfl⟩

theorem mapM_cons_eq_error_iff {value : α} {result : β} {error : ε}
    (first : read value = .ok result) :
    (value :: row).mapM read = .error error ↔ row.mapM read = .error error := by
  rw [List.mapM_cons, first]
  cases row.mapM read with
  | error cause => exact ⟨congrArg _ ∘ Except.error.inj, congrArg _ ∘ Except.error.inj⟩
  | ok results => exact ⟨nofun, nofun⟩

theorem mapM_cons_eq_error {value : α} {cause : ε} (first : read value = .error cause) :
    (value :: row).mapM read = .error cause := by
  rw [List.mapM_cons, first]
  rfl

theorem exists_mapM_eq_error_iff :
    (∃ error, row.mapM read = .error error) ↔
      ∃ value ∈ row, ∃ error, read value = .error error := by
  induction row with
  | nil => exact ⟨nofun, nofun⟩
  | cons head rest inductionHypothesis =>
    rw [List.exists_mem_cons_iff]
    cases first : read head with
    | error cause =>
      exact ⟨fun _ => .inl ⟨cause, rfl⟩, fun _ => ⟨cause, mapM_cons_eq_error first⟩⟩
    | ok result =>
      simp only [mapM_cons_eq_error_iff first, inductionHypothesis, reduceCtorEq, exists_false,
        false_or]

theorem mapM_eq_error_iff {error : ε} :
    row.mapM read = .error error ↔
      ∃ earlier value later, row = earlier ++ value :: later ∧
        (∀ other ∈ earlier, ∀ cause, read other ≠ .error cause) ∧ read value = .error error := by
  induction row with
  | nil =>
    refine ⟨nofun, ?_⟩
    rintro ⟨earlier, value, later, nothing, -⟩
    simp at nothing
  | cons head rest inductionHypothesis =>
    cases first : read head with
    | error cause =>
      rw [mapM_cons_eq_error first]
      constructor
      · intro same
        cases same
        exact ⟨[], head, rest, rfl, nofun, first⟩
      · rintro ⟨_ | ⟨before, earlier⟩, value, later, same, readable, refused⟩
        · cases same
          cases first.symm.trans refused
          rfl
        · cases same
          exact absurd first (readable head List.mem_cons_self cause)
    | ok result =>
      rw [mapM_cons_eq_error_iff first, inductionHypothesis]
      constructor
      · rintro ⟨earlier, value, later, rfl, readable, refused⟩
        refine ⟨head :: earlier, value, later, rfl, ?_, refused⟩
        refine List.forall_mem_cons.mpr ⟨fun cause refusal => ?_, readable⟩
        cases first.symm.trans refusal
      · rintro ⟨_ | ⟨before, earlier⟩, value, later, same, readable, refused⟩
        · cases same
          cases first.symm.trans refused
        · cases same
          exact ⟨earlier, value, later, rfl, (List.forall_mem_cons.mp readable).2, refused⟩

end

namespace Text

variable {separator : Char} {text before after piece rest : List Char}

theorem cutLast?_eq_some_iff :
    cutLast? separator text = some (before, after) ↔
      text = before ++ separator :: after ∧ separator ∉ after := by
  simp only [cutLast?, Option.map_eq_some_iff, Prod.exists, cutFirst?_eq_some_iff,
    Prod.mk.injEq]
  constructor
  · rintro ⟨last, first, ⟨split, free⟩, rfl, rfl⟩
    refine ⟨?_, by simpa using free⟩
    simpa using congrArg List.reverse split
  · rintro ⟨rfl, free⟩
    exact ⟨after.reverse, before.reverse, ⟨by simp, by simpa using free⟩, by simp, by simp⟩

/-- A text without the blanks at its ends. -/
def stripped (text : List Char) : List Char := (text.dropWhile isBlank).rdropWhile isBlank

theorem trimmed_eq_stripped (text : List Char) : trimmed text = stripped text := rfl

theorem pieces_append (free : separator ∉ piece) :
    pieces separator (piece ++ separator :: rest) = piece :: pieces separator rest := by
  induction piece with
  | nil => simp [pieces]
  | cons c piece inductionHypothesis =>
    obtain ⟨differs, free⟩ := not_or.mp (mt List.mem_cons.mpr free)
    rw [List.cons_append, pieces, if_neg (Ne.symm differs), inductionHypothesis free]

theorem trimmed_prefix (start : ∀ c, text.head? = some c → isBlank c = false) :
    trimmed text <+: text := by
  have front : text.dropWhile isBlank = text := by
    cases text with
    | nil => rfl
    | cons c rest => exact List.dropWhile_cons_of_neg (by simp [start c rfl])
  rw [trimmed_eq_stripped, stripped, front]
  exact List.rdropWhile_prefix isBlank text

theorem head?_of_prefix {part : List Char} (starts : part <+: text) (some : part ≠ []) :
    text.head? = part.head? := by
  obtain ⟨rest, rfl⟩ := starts
  exact List.head?_append_of_ne_nil _ some

end Text

namespace OverrideKey

variable {key : OverrideKey} {text : String}

/-- Whether the text of a key can be read: it has an operation and a field, no blanks at their ends
and no slash in the field. -/
structure Legible (key : OverrideKey) : Prop where
  operation : key.operation.toList ≠ []
  operationTrimmed : Text.IsTrimmed key.operation.toList
  field : key.field.toList ≠ []
  fieldTrimmed : Text.IsTrimmed key.field.toList
  unslashed : '/' ∉ key.field.toList

theorem toList_text (key : OverrideKey) :
    key.text.toList =
      key.operation.toList ++ '/' :: (key.kind.name.toList ++ '/' :: key.field.toList) := by
  simp [text]

theorem ofText_eq_ok (read : ofText text = .ok key) :
    ∃ operation kind field,
      Text.trimmed text.toList = operation ++ '/' :: (kind ++ '/' :: field) ∧ '/' ∉ field ∧
        Text.trimmed operation = key.operation.toList ∧ key.operation.toList ≠ [] ∧
        Text.trimmed field = key.field.toList ∧ key.field.toList ≠ [] := by
  unfold ofText at read
  dsimp only at read
  split at read
  next operation kind field parted =>
    simp only [parts?, Option.bind_eq_bind, Option.bind_eq_some_iff, Prod.exists, Option.pure_def,
      Option.some.injEq, Prod.mk.injEq, Text.cutLast?_eq_some_iff] at parted
    obtain ⟨_, field, ⟨whole, free⟩, operation, kind, ⟨rfl, -⟩, rfl, rfl, rfl⟩ := parted
    split at read
    · cases read
    next some =>
      obtain ⟨known, -, rfl⟩ := map_eq_ok_iff.mp read
      obtain ⟨fieldSome, operationSome⟩ := not_or.mp some
      refine ⟨operation, kind, field, by simpa using whole, free, ?_⟩
      simp [fieldSome, operationSome]
  · cases read

theorem legible_of_ofText (read : ofText text = .ok key) : key.Legible := by
  obtain ⟨operation, kind, field, -, free, trimmed, operationSome, fieldTrimmed, fieldSome⟩ :=
    ofText_eq_ok read
  refine ⟨operationSome, ?_, fieldSome, ?_, ?_⟩
  · exact trimmed ▸ Text.isTrimmed_trimmed operation
  · exact fieldTrimmed ▸ Text.isTrimmed_trimmed field
  · exact fieldTrimmed ▸ fun slash => free (Text.mem_of_mem_trimmed slash)

theorem mem_text_of_ofText {c : Char} (read : ofText text = .ok key)
    (member : c ∈ key.text.toList) : c ∈ text.toList ∨ c ∈ key.kind.name.toList := by
  obtain ⟨operation, kind, field, whole, -, operationTrimmed, -, fieldTrimmed, -⟩ :=
    ofText_eq_ok read
  have inside : ∀ d ∈ operation ++ '/' :: (kind ++ '/' :: field), d ∈ text.toList :=
    fun d part => Text.mem_of_mem_trimmed (whole ▸ part)
  rw [toList_text, ← operationTrimmed, ← fieldTrimmed] at member
  simp only [List.mem_append, List.mem_cons] at member inside
  rcases member with front | slash | named | slash | last
  · exact .inl (inside c (.inl (Text.mem_of_mem_trimmed front)))
  · exact .inl (inside c (.inr (.inl slash)))
  · exact .inr named
  · exact .inl (inside c (.inr (.inl slash)))
  · exact .inl (inside c (.inr (.inr (.inr (.inr (Text.mem_of_mem_trimmed last))))))

theorem head?_operation (read : ofText text = .ok key)
    (start : ∀ c, text.toList.head? = some c → Text.isBlank c = false) :
    key.operation.toList.head? = text.toList.head? := by
  obtain ⟨operation, kind, field, whole, -, trimmed, some, -⟩ := ofText_eq_ok read
  have front : text.toList.head? = operation.head? := by
    have operationSome : operation ≠ [] := by
      rintro rfl
      exact some trimmed.symm
    rw [Text.head?_of_prefix (Text.trimmed_prefix start) (by simp [whole]), whole,
      List.head?_append_of_ne_nil _ operationSome]
  rw [front] at start ⊢
  rw [Text.head?_of_prefix (Text.trimmed_prefix start) (trimmed ▸ some), trimmed]

theorem Legible.isTrimmed_text (legible : key.Legible) : Text.IsTrimmed key.text.toList := by
  have whole : key.text.toList =
      key.operation.toList ++ '/' :: (key.kind.name.toList ++ ['/']) ++ key.field.toList := by
    simp [toList_text]
  rw [whole]
  exact legible.operationTrimmed.append legible.fieldTrimmed legible.operation legible.field

theorem ofText_text (legible : key.Legible) : ofText key.text = .ok key := by
  have trimmed := Text.trimmed_of_isTrimmed legible.isTrimmed_text
  have kindUnslashed : '/' ∉ key.kind.name.toList := by cases key.kind <;> decide
  have kindTrimmed : Text.trimmed key.kind.name.toList = key.kind.name.toList := by
    cases key.kind <;> decide
  have parted : parts? key.text.toList =
      some (key.operation.toList, key.kind.name.toList, key.field.toList) := by
    have last : Text.cutLast? '/' key.text.toList =
        some (key.operation.toList ++ '/' :: key.kind.name.toList, key.field.toList) :=
      Text.cutLast?_eq_some_iff.mpr ⟨by simp [toList_text], legible.unslashed⟩
    have first : Text.cutLast? '/' (key.operation.toList ++ '/' :: key.kind.name.toList) =
        some (key.operation.toList, key.kind.name.toList) :=
      Text.cutLast?_eq_some_iff.mpr ⟨rfl, kindUnslashed⟩
    simp [parts?, last, first, kindTrimmed, Text.trimmed_of_isTrimmed legible.operationTrimmed,
      Text.trimmed_of_isTrimmed legible.fieldTrimmed]
  have known : PolicyKind.ofText key.kind.name = .ok key.kind := by
    rw [PolicyKind.ofText, PolicyKind.ofText?_name]
  have some : ¬(key.field.toList = [] ∨ key.operation.toList = []) :=
    not_or.mpr ⟨legible.field, legible.operation⟩
  rw [ofText, trimmed, parted]
  simp only [if_neg some, String.ofList_toList, known]
  rfl

end OverrideKey

namespace OverrideLine

variable {line : OverrideLine} {written : List Char} {error : PolicyError}

def States (written : List Char) (line : OverrideLine) : Prop :=
  ∃ key value, written = key ++ '=' :: value ∧ '=' ∉ key ∧
    OverrideKey.ofText (.ofList key) = .ok line.key ∧ line.value.toList = Text.stripped value

/-- What is wrong with a written line: it has no equals sign, or what stands before the first one is
no key. -/
inductive Faulty (written : List Char) : PolicyError → Prop
  | unequal : '=' ∉ written → Faulty written (.malformedOverride (.ofList written))
  | keyless {key value : List Char} {error : PolicyError} : written = key ++ '=' :: value →
      '=' ∉ key → OverrideKey.ofText (.ofList key) = .error error → Faulty written error

theorem ofLine_eq_ok_iff : ofLine written = .ok line ↔ States written line := by
  unfold ofLine
  cases cut : Text.cutFirst? '=' written with
  | none =>
    have unequal := Text.cutFirst?_eq_none_iff.mp cut
    refine ⟨nofun, ?_⟩
    rintro ⟨key, value, rfl, -⟩
    simp at unequal
  | some parts =>
    obtain ⟨key, value⟩ := parts
    obtain ⟨whole, unequal⟩ := Text.cutFirst?_eq_some_iff.mp cut
    rw [map_eq_ok_iff]
    constructor
    · rintro ⟨known, read, rfl⟩
      exact ⟨key, value, whole, unequal, read, String.toList_ofList⟩
    · rintro ⟨key', value', whole', unequal', read, same⟩
      have cut' := Text.cutFirst?_eq_some_iff.mpr ⟨whole', unequal'⟩
      cases cut.symm.trans cut'
      exact ⟨line.key, read, by rw [Text.trimmed_eq_stripped, ← same, String.ofList_toList]⟩

theorem ofLine_eq_error_iff : ofLine written = .error error ↔ Faulty written error := by
  unfold ofLine
  cases cut : Text.cutFirst? '=' written with
  | none =>
    have unequal := Text.cutFirst?_eq_none_iff.mp cut
    constructor
    · intro refused
      cases refused
      exact .unequal unequal
    · rintro (_ | ⟨whole, -, -⟩)
      · rfl
      · simp [whole] at unequal
  | some parts =>
    obtain ⟨key, value⟩ := parts
    obtain ⟨whole, unequal⟩ := Text.cutFirst?_eq_some_iff.mp cut
    constructor
    · intro refused
      refine .keyless whole unequal ?_
      cases read : OverrideKey.ofText (.ofList key) with
      | error cause =>
        simp only [read] at refused
        cases refused
        rfl
      | ok known =>
        simp only [read] at refused
        cases refused
    · rintro (missing | ⟨whole', unequal', refused⟩)
      · simp [whole] at missing
      · have cut' := Text.cutFirst?_eq_some_iff.mpr ⟨whole', unequal'⟩
        cases cut.symm.trans cut'
        simp only [refused]
        rfl

/-- Whether the text of an override can be read as one line: its key can be read, no sign in it
parts it elsewhere, and it does not start like a comment. -/
structure Legible (line : OverrideLine) : Prop where
  key : line.key.Legible
  unequal : '=' ∉ line.key.text.toList
  value : Text.IsTrimmed line.value.toList
  uncommented : line.key.operation.toList.head? ≠ some '#'
  unbroken : '\n' ∉ line.text.toList

theorem toList_text (line : OverrideLine) :
    line.text.toList = line.key.text.toList ++ '=' :: line.value.toList := by
  simp [text]

theorem legible_of_states (trimmed : Text.IsTrimmed written) (said : isWritten written = true)
    (unbroken : '\n' ∉ written) (states : States written line) : line.Legible := by
  obtain ⟨key, value, whole, unequal, read, same⟩ := states
  rw [← Text.trimmed_eq_stripped] at same
  have legible := OverrideKey.legible_of_ofText read
  have kinds (c : Char) (sign : c = '=' ∨ c = '\n') : c ∉ line.key.kind.name.toList := by
    rcases sign with rfl | rfl <;> cases line.key.kind <;> decide
  have keySigns (c : Char) (sign : c = '=' ∨ c = '\n') (absent : c ∉ key) :
      c ∉ line.key.text.toList := fun member =>
    (OverrideKey.mem_text_of_ofText read member).elim (by simpa using absent) (kinds c sign)
  have unbrokenKey : '\n' ∉ key := fun member => unbroken (by simp [whole, member])
  have unbrokenValue : '\n' ∉ value := fun member => unbroken (by simp [whole, member])
  refine ⟨legible, keySigns '=' (.inl rfl) unequal, same ▸ Text.isTrimmed_trimmed value, ?_, ?_⟩
  · have keySome : key ≠ [] := by
      rintro rfl
      obtain ⟨operation, kind, field, nothing, -⟩ := OverrideKey.ofText_eq_ok read
      simp at nothing
    have front : written.head? = key.head? := by
      rw [whole, List.head?_append_of_ne_nil _ keySome]
    have starts := OverrideKey.head?_operation read (by
      rw [String.toList_ofList, ← front]
      exact trimmed.1)
    rw [starts, String.toList_ofList, ← front]
    simp only [isWritten, Bool.and_eq_true, decide_eq_true_eq] at said
    exact said.2
  · rw [toList_text, List.mem_append, List.mem_cons, same]
    rintro (member | other | member)
    · exact keySigns '\n' (.inr rfl) unbrokenKey member
    · cases other
    · exact unbrokenValue (Text.mem_of_mem_trimmed member)

theorem Legible.isTrimmed_text (legible : line.Legible) : Text.IsTrimmed line.text.toList := by
  rw [toList_text]
  constructor
  · have keySome : line.key.text.toList ≠ [] := by simp [OverrideKey.toList_text]
    rw [List.head?_append_of_ne_nil _ keySome]
    exact legible.key.isTrimmed_text.1
  · intro c last
    rw [List.getLast?_append_of_ne_nil _ (List.cons_ne_nil _ _), List.getLast?_cons] at last
    cases ends : line.value.toList.getLast? with
    | none =>
      rw [ends] at last
      cases last
      rfl
    | some d =>
      rw [ends] at last
      cases last
      exact legible.value.2 d ends

theorem Legible.isWritten_text (legible : line.Legible) : isWritten line.text.toList = true := by
  have front : line.text.toList.head? = line.key.operation.toList.head? := by
    rw [toList_text, OverrideKey.toList_text, List.append_assoc,
      List.head?_append_of_ne_nil _ legible.key.operation]
  have some : line.text.toList ≠ [] := by simp [toList_text]
  rw [isWritten, front]
  simp [some, legible.uncommented]

theorem Legible.states_text (legible : line.Legible) : States line.text.toList line := by
  refine ⟨line.key.text.toList, line.value.toList, toList_text line, legible.unequal, ?_, ?_⟩
  · rw [String.ofList_toList]
    exact OverrideKey.ofText_text legible.key
  · exact (Text.trimmed_of_isTrimmed legible.value).symm

/-- What a text says, line by line: the lines between its breaks without the blanks at their ends,
but for those that are empty then and those that start with a number sign. -/
def saidLines (text : String) : List (List Char) :=
  ((text.toList.splitOn '\n').map Text.stripped).filter fun line =>
    line ≠ [] ∧ line.head? ≠ some '#'

theorem writtenLines_eq_saidLines (text : String) : writtenLines text.toList = saidLines text := by
  unfold writtenLines saidLines
  rw [Text.pieces_eq_splitOn, List.map_congr_left fun line _ => Text.trimmed_eq_stripped line]
  refine List.filter_congr fun line _ => ?_
  rw [isWritten, Bool.decide_and]

/-- The text of a row of overrides, each on a line of its own. -/
def listing : List OverrideLine → String
  | [] => ""
  | line :: rest => line.text ++ "\n" ++ listing rest

variable {lines : List OverrideLine} {text : String}

theorem writtenLines_listing (legible : ∀ line ∈ lines, line.Legible) :
    writtenLines (listing lines).toList = lines.map fun line => line.text.toList := by
  induction lines with
  | nil => rfl
  | cons line rest inductionHypothesis =>
    obtain ⟨first, legible⟩ := List.forall_mem_cons.mp legible
    have whole : (listing (line :: rest)).toList =
        line.text.toList ++ '\n' :: (listing rest).toList := by
      simp [listing]
    have later := inductionHypothesis legible
    unfold writtenLines at later ⊢
    rw [whole, Text.pieces_append first.unbroken, List.map_cons,
      Text.trimmed_of_isTrimmed first.isTrimmed_text, List.filter_cons_of_pos first.isWritten_text,
      later, List.map_cons]

theorem of_mem_writtenLines {text : List Char} (member : written ∈ writtenLines text) :
    Text.IsTrimmed written ∧ isWritten written = true ∧ '\n' ∉ written := by
  obtain ⟨stands, said⟩ := List.mem_filter.mp member
  obtain ⟨piece, among, rfl⟩ := List.mem_map.mp stands
  refine ⟨Text.isTrimmed_trimmed piece, said, fun broken => ?_⟩
  exact Text.not_mem_of_mem_pieces among (Text.mem_of_mem_trimmed broken)

theorem ofText_eq_mapM (text : String) : ofText text = (saidLines text).mapM ofLine := by
  rw [ofText, writtenLines_eq_saidLines]

theorem ofText_eq_ok_iff :
    ofText text = .ok lines ↔ List.Forall₂ States (saidLines text) lines := by
  simp only [ofText_eq_mapM, mapM_eq_ok_iff, ofLine_eq_ok_iff]

theorem ofText_listing (legible : ∀ line ∈ lines, line.Legible) :
    ofText (listing lines) = .ok lines := by
  rw [ofText_eq_ok_iff, ← writtenLines_eq_saidLines, writtenLines_listing legible,
    List.forall₂_map_left_iff, List.forall₂_same]
  exact fun line member => (legible line member).states_text

theorem legible_of_ofText (read : ofText text = .ok lines) : ∀ line ∈ lines, line.Legible := by
  have stated := ofText_eq_ok_iff.mp read
  have sound : ∀ written ∈ writtenLines text.toList, _ := fun _ => of_mem_writtenLines
  rw [writtenLines_eq_saidLines] at sound
  generalize saidLines text = row at stated sound
  clear read
  induction stated with
  | nil => exact nofun
  | cons states _ inductionHypothesis =>
    obtain ⟨⟨trimmed, said, unbroken⟩, sound⟩ := List.forall_mem_cons.mp sound
    exact List.forall_mem_cons.mpr
      ⟨legible_of_states trimmed said unbroken states, inductionHypothesis sound⟩

/-- The overrides that are read from a text are those that its lines state, one for each line that
is neither blank nor a comment, and they are read from their listing as well; and a key that is read
from a text is read from its own. A text of overrides is refused exactly if one of those lines is
faulty, for what is wrong with the first of them. -/
theorem overrides_are_read_back (text : String) :
    (∀ lines, ofText text = .ok lines →
      ofText (listing lines) = .ok lines ∧ List.Forall₂ States (saidLines text) lines) ∧
    (∀ key, OverrideKey.ofText text = .ok key → OverrideKey.ofText key.text = .ok key) ∧
    ((∃ error, ofText text = .error error) ↔
      ∃ said ∈ saidLines text, ∃ error, Faulty said error) ∧
    ∀ error, ofText text = .error error ↔
      ∃ earlier said later, saidLines text = earlier ++ said :: later ∧
        (∀ other ∈ earlier, ∀ cause, ¬Faulty other cause) ∧ Faulty said error := by
  refine ⟨fun lines read => ?_, fun key read => ?_, ?_, fun error => ?_⟩
  · exact ⟨ofText_listing (legible_of_ofText read), ofText_eq_ok_iff.mp read⟩
  · exact OverrideKey.ofText_text (OverrideKey.legible_of_ofText read)
  · simp only [ofText_eq_mapM, exists_mapM_eq_error_iff, ofLine_eq_error_iff]
  · simp only [ofText_eq_mapM, mapM_eq_error_iff, ne_eq, ofLine_eq_error_iff]

/-- Two overrides stand between a comment and blank lines, one of them for an operation with slashes
in its name and with an equals sign in its value; and a text is refused for its second line, which
has no equals sign, although the third has no key. -/
theorem overrides_are_read_back_commented :
    let text := "# limits\n\n pay/Bulkhead/value = 4 \n\t\n a/b/Fallback/fallbackMethod =x=y\t"
    let lines : List OverrideLine :=
      [⟨⟨"pay", .bulkhead, "value"⟩, "4"⟩, ⟨⟨"a/b", .fallback, "fallbackMethod"⟩, "x=y"⟩]
    let faulty := "pay/Bulkhead/value=4\n pay/Retry \nnothing=1"
    ofText text = .ok lines ∧ ofText (listing lines) = .ok lines ∧
      List.Forall₂ States (saidLines text) lines ∧
      listing lines = "pay/Bulkhead/value=4\na/b/Fallback/fallbackMethod=x=y\n" ∧
      OverrideKey.ofText "a/b/Fallback/fallbackMethod" =
        .ok ⟨"a/b", .fallback, "fallbackMethod"⟩ ∧
      ofText faulty = .error (.malformedOverride "pay/Retry") := by
  intro text lines faulty
  have read : ofText text = .ok lines := by decide +kernel
  obtain ⟨again, stated⟩ := (overrides_are_read_back text).1 lines read
  have key := (overrides_are_read_back " a/b / Fallback/fallbackMethod").2.1
    ⟨"a/b", .fallback, "fallbackMethod"⟩ (by decide +kernel)
  refine ⟨read, again, stated, by decide +kernel, key, ?_⟩
  refine ((overrides_are_read_back faulty).2.2.2 _).mpr
    ⟨["pay/Bulkhead/value=4".toList], "pay/Retry".toList, ["nothing=1".toList], by decide +kernel,
      List.forall_mem_singleton.mpr fun cause wrong => ?_, .unequal (by decide +kernel)⟩
  have fine : ofLine "pay/Bulkhead/value=4".toList = .ok ⟨⟨"pay", .bulkhead, "value"⟩, "4"⟩ := by
    decide +kernel
  exact nomatch fine.symm.trans (ofLine_eq_error_iff.mpr wrong)

end OverrideLine

end Resilience
