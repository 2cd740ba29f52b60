/-!
Cutting a text at a separator. The pieces joined by the separator are the text again, and no
piece holds the separator.
-/

namespace Resilience.Text

def pieces (separator : Char) : List Char → List (List Char)
  | [] => [[]]
  | c :: rest =>
    if c = separator then [] :: pieces separator rest
    else
      match pieces separator rest with
      | [] => [[c]]
      | piece :: others => (c :: piece) :: others

def cutFirst? (separator : Char) : List Char → Option (List Char × List Char)
  | [] => none
  | c :: rest =>
    if c = separator then some ([], rest)
    else (cutFirst? separator rest).map fun cut => (c :: cut.1, cut.2)

def cutLast? (separator : Char) (text : List Char) : Option (List Char × List Char) :=
  (cutFirst? separator text.reverse).map fun cut => (cut.2.reverse, cut.1.reverse)

def rest? : (beginning : List Char) → List Char → Option (List Char)
  | [], text => some text
  | _ :: _, [] => none
  | b :: beginning, c :: text => if b = c then rest? beginning text else none

theorem pieces_ne_nil (separator : Char) (text : List Char) : pieces separator text ≠ [] := by
  cases text with
  | nil => simp [pieces]
  | cons c rest =>
    rw [pieces]
    split
    · simp
    · split <;> simp

/-- A cut at the first separator loses nothing, and the part before it is free of separators. -/
theorem cutFirst?_eq_some_iff {separator : Char} {text before after : List Char} :
    cutFirst? separator text = some (before, after) ↔
      text = before ++ separator :: after ∧ separator ∉ before := by
  induction text generalizing before after with
  | nil => simp [cutFirst?]
  | cons c rest ih =>
    rw [cutFirst?]
    split
    · subst c
      cases before with
      | nil => simp
      | cons d before => simp; intro h; simp [h]
    · next ne =>
      cases before with
      | nil => simp [ne]
      | cons d before =>
        simp only [Option.map_eq_some_iff, Prod.exists, Prod.mk.injEq, List.cons.injEq, ih,
          List.cons_append, List.mem_cons, not_or]
        constructor
        · rintro ⟨_, _, ⟨split, free⟩, ⟨rfl, rfl⟩, rfl⟩
          exact ⟨⟨rfl, split⟩, Ne.symm ne, free⟩
        · rintro ⟨⟨rfl, split⟩, _, free⟩
          exact ⟨_, _, ⟨split, free⟩, ⟨rfl, rfl⟩, rfl⟩

theorem cutFirst?_eq_none_iff {separator : Char} {text : List Char} :
    cutFirst? separator text = none ↔ separator ∉ text := by
  induction text with
  | nil => simp [cutFirst?]
  | cons c rest ih =>
    rw [cutFirst?]
    split
    · simp_all
    · next ne => simp [ih, Ne.symm ne]

def holds (part : List Char) : List Char → Bool
  | [] => part.isEmpty
  | c :: rest => part.isPrefixOf (c :: rest) || holds part rest

end Resilience.Text
