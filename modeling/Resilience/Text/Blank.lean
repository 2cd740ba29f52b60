/-!
Blank characters and trimming: a text is trimmed by dropping the blanks at its two ends.
-/

namespace Resilience.Text

/-- The characters with the Unicode property White_Space. -/
def isBlank (c : Char) : Bool :=
  ('\x09' ≤ c && c ≤ '\x0d') || c == ' ' || c == '\u0085' || c == '\u00a0' || c == '\u1680' ||
    ('\u2000' ≤ c && c ≤ '\u200a') || c == '\u2028' || c == '\u2029' || c == '\u202f' ||
    c == '\u205f' || c == '\u3000'

def trimmed (text : List Char) : List Char :=
  ((text.dropWhile isBlank).reverse.dropWhile isBlank).reverse

def trim (text : String) : String :=
  .ofList (trimmed text.toList)

@[simp] theorem trimmed_nil : trimmed [] = [] := rfl

/-- A text that neither starts nor ends with a blank is its own trimmed form. -/
def IsTrimmed (text : List Char) : Prop :=
  (∀ c, text.head? = some c → isBlank c = false) ∧
    ∀ c, text.getLast? = some c → isBlank c = false

private theorem dropWhile_of_head {test : Char → Bool} {text : List Char}
    (h : ∀ c, text.head? = some c → test c = false) : text.dropWhile test = text := by
  cases text with
  | nil => rfl
  | cons c rest => simp [h c rfl]

private theorem head_dropWhile {test : Char → Bool} {text : List Char} :
    ∀ c, (text.dropWhile test).head? = some c → test c = false := by
  induction text with
  | nil => simp
  | cons d rest ih =>
    intro c hc
    rw [List.dropWhile_cons] at hc
    split at hc
    · exact ih c hc
    · simp_all

theorem trimmed_of_isTrimmed {text : List Char} (h : IsTrimmed text) : trimmed text = text := by
  unfold trimmed
  rw [dropWhile_of_head h.1, dropWhile_of_head, List.reverse_reverse]
  simpa using h.2

theorem isTrimmed_trimmed (text : List Char) : IsTrimmed (trimmed text) := by
  constructor
  · intro c hc
    unfold trimmed at hc
    rw [List.head?_reverse] at hc
    obtain ⟨dropped, split⟩ := List.dropWhile_suffix isBlank (l := (text.dropWhile isBlank).reverse)
    have last : (text.dropWhile isBlank).reverse.getLast? = some c := by
      rw [← split, List.getLast?_append, hc, Option.some_or]
    rw [List.getLast?_reverse] at last
    exact head_dropWhile c last
  · intro c hc
    unfold trimmed at hc
    rw [List.getLast?_reverse] at hc
    exact head_dropWhile c hc

@[simp] theorem trimmed_trimmed (text : List Char) : trimmed (trimmed text) = trimmed text :=
  trimmed_of_isTrimmed (isTrimmed_trimmed text)

end Resilience.Text
