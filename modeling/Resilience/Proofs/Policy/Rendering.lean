import Resilience.Proofs.Policy.Legibility

/-!
Sets of categories that were read from a text. Whatever was read, the text of the set is read as the
same set, with one exception: a list that names the star and nothing else is a set with a single
member, but its text is the star, which stands for all categories.
-/

namespace Resilience

theorem Text.not_mem_of_mem_pieces {separator : Char} {text piece : List Char}
    (member : piece ∈ pieces separator text) : separator ∉ piece := by
  induction text generalizing piece with
  | nil => simp_all [pieces]
  | cons c rest inductionHypothesis =>
    rw [pieces] at member
    split at member
    · rcases List.mem_cons.mp member with rfl | later
      · simp
      · exact inductionHypothesis later
    · next differs =>
      cases split : pieces separator rest with
      | nil => exact absurd split (pieces_ne_nil separator rest)
      | cons first others =>
        rw [split] at inductionHypothesis
        simp only [split, List.mem_cons] at member
        rcases member with rfl | later
        · have free := inductionHypothesis List.mem_cons_self
          simp [free, Ne.symm differs]
        · exact inductionHypothesis (List.mem_cons_of_mem _ later)

theorem Text.mem_of_mem_trimmed {text : List Char} {c : Char} (member : c ∈ trimmed text) :
    c ∈ text := by
  have inner := (List.dropWhile_suffix isBlank).mem (List.mem_reverse.mp member)
  exact (List.dropWhile_suffix isBlank).mem (List.mem_reverse.mp inner)

namespace CategorySet

theorem mem_listed {text : List Char} {name : Category} :
    name ∈ listed text ↔
      name ≠ "" ∧ ∃ piece ∈ Text.pieces ',' text, Text.trimmed piece = name.toList := by
  simp only [listed, List.mem_map, List.mem_filter, decide_eq_true_eq]
  constructor
  · rintro ⟨body, ⟨⟨piece, member, rfl⟩, some⟩, rfl⟩
    exact ⟨by simpa using some, piece, member, by simp⟩
  · rintro ⟨named, piece, member, same⟩
    refine ⟨Text.trimmed piece, ⟨⟨piece, member, rfl⟩, ?_⟩, ?_⟩
    · simpa [same] using named
    · rw [same, String.ofList_toList]

/-- The names in a list do not mislead a reader. -/
theorem legible_of_listed {text : List Char} {name : Category} (listed : name ∈ listed text) :
    name ≠ "" ∧ ',' ∉ name.toList ∧ Text.IsTrimmed name.toList := by
  obtain ⟨named, piece, member, same⟩ := mem_listed.mp listed
  refine ⟨named, ?_, ?_⟩
  · intro comma
    rw [← same] at comma
    exact Text.not_mem_of_mem_pieces member (Text.mem_of_mem_trimmed comma)
  · rw [← same]
    exact Text.isTrimmed_trimmed piece

theorem mem_members_of {names : List Category} {name : Category} :
    name ∈ (of names).members ↔ name ∈ names := by
  simp [of, mem_members_foldl, none]

theorem any_of (names : List Category) : (of names).any = false := any_foldl names

/-- Names that occur make up the same set in any order and number. -/
theorem of_congr {names others : List Category} (same : ∀ name, name ∈ names ↔ name ∈ others) :
    of names = of others := by
  rw [← of_members (any_of names), ← of_members (any_of others)]
  refine congrArg of ((of names).ascending.eq_of_mem_iff (of others).ascending fun name => ?_)
  rw [mem_members_of, mem_members_of, same name]

/-- Whether a text lists the star, perhaps several times, and nothing else, without being the star
itself. -/
def ListsStar (text : String) : Prop :=
  Text.trimmed text.toList ≠ ['*'] ∧
    ['*'] ∈ (Text.pieces ',' (Text.trimmed text.toList)).map Text.trimmed ∧
    ∀ piece ∈ Text.pieces ',' (Text.trimmed text.toList),
      Text.trimmed piece = [] ∨ Text.trimmed piece = ['*']

instance (text : String) : Decidable (ListsStar text) := inferInstanceAs (Decidable (_ ∧ _ ∧ _))

variable {text : String}

/-- Such a text is read as the set of the star alone. -/
theorem ofText_of_listsStar (stars : ListsStar text) : ofText text = of ["*"] := by
  obtain ⟨unstarred, occurs, only⟩ := stars
  rw [ofText, if_neg unstarred]
  refine of_congr fun name => ?_
  rw [mem_listed, List.mem_singleton]
  constructor
  · rintro ⟨named, piece, member, same⟩
    rcases only piece member with empty | star
    · rw [same] at empty
      exact absurd (String.toList_eq_nil_iff.mp empty) named
    · exact String.toList_injective (same.symm.trans star)
  · rintro rfl
    obtain ⟨piece, member, star⟩ := List.mem_map.mp occurs
    exact ⟨by decide, piece, member, star⟩

theorem listsStar_of_members (explicit : (ofText text).any = false)
    (members : (ofText text).members = ["*"]) : ListsStar text := by
  by_cases star : Text.trimmed text.toList = ['*']
  · rw [ofText, if_pos star] at explicit
    cases explicit
  rw [ofText, if_neg star] at members
  have names (name : Category) : name ∈ listed (Text.trimmed text.toList) ↔ name = "*" := by
    rw [← mem_members_of, members, List.mem_singleton]
  refine ⟨star, ?_, fun piece member => ?_⟩
  · obtain ⟨-, piece, member, same⟩ := mem_listed.mp ((names "*").mpr rfl)
    exact List.mem_map.mpr ⟨piece, member, same⟩
  · by_cases empty : Text.trimmed piece = []
    · exact .inl empty
    · right
      have name := (names (String.ofList (Text.trimmed piece))).mp
        (mem_listed.mpr ⟨by simpa using empty, piece, member, by simp⟩)
      simpa using congrArg String.toList name

theorem legible_ofText (text : String) : (ofText text).Legible ∨ ListsStar text := by
  by_cases star : Text.trimmed text.toList = ['*']
  · rw [ofText, if_pos star]
    exact .inl (.inl rfl)
  have read : ofText text = of (listed (Text.trimmed text.toList)) := if_neg star
  have explicit : (ofText text).any = false := by rw [read, any_of]
  by_cases alone : (ofText text).members = ["*"]
  · exact .inr (listsStar_of_members explicit alone)
  · refine .inl (.inr ⟨explicit, alone, fun name member => ?_⟩)
    rw [read, mem_members_of] at member
    exact legible_of_listed member

/-- The text of a set that was read from a text is read as the same set, unless the first text lists
the star and nothing else: then the set holds the category of that name only, and its text is read
as the set of all categories. -/
theorem text_is_read_back (text : String) :
    ¬ListsStar text ∧ ofText (ofText text).text = ofText text ∨
      ListsStar text ∧ (ofText text).text = "*" ∧
        (∀ category, (ofText text).contains category = decide (category = "*")) ∧
          ofText (ofText text).text = all := by
  by_cases stars : ListsStar text
  · have shown : (of ["*"]).text = "*" := by decide
    rw [ofText_of_listsStar stars, shown]
    refine .inr ⟨stars, rfl, fun category => ?_, by decide⟩
    simp [contains, of, none, add, Category.insert]
  · exact .inl ⟨stars, ofText_text ((legible_ofText text).resolve_right stars)⟩

/-- A star with a comma is read as the set of the star alone, whose text is read as all. -/
theorem a_listed_star_reads_as_all :
    ofText (ofText "*,").text ≠ ofText "*," ∧
      (ofText (ofText "*,").text).contains Category.timeout ≠
        (ofText "*,").contains Category.timeout := by
  decide

end CategorySet

end Resilience
