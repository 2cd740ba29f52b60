/-!
Tables: values under keys, in the order in which the keys came. A key has at most one value.
-/

namespace Resilience

structure Table (κ α : Type) where
  entries : List (κ × α) := []

namespace Table

variable {κ α : Type} [DecidableEq κ]

/-- Gives a key a value, in the place of its old value or at the end. -/
def put (key : κ) (value : α) : List (κ × α) → List (κ × α)
  | [] => [(key, value)]
  | entry :: rest =>
    if entry.1 = key then (key, value) :: rest else entry :: put key value rest

def get? (table : Table κ α) (key : κ) : Option α :=
  (table.entries.find? fun entry => entry.1 = key).map Prod.snd

def set (table : Table κ α) (key : κ) (value : α) : Table κ α := ⟨put key value table.entries⟩

def erase (table : Table κ α) (key : κ) : Table κ α :=
  ⟨table.entries.filter fun entry => entry.1 ≠ key⟩

def modify (table : Table κ α) (key : κ) (change : α → α) : Table κ α :=
  match table.get? key with
  | some value => table.set key (change value)
  | none => table

def contains (table : Table κ α) (key : κ) : Bool := (table.get? key).isSome

def size (table : Table κ α) : Nat := table.entries.length

def values (table : Table κ α) : List α := table.entries.map Prod.snd

theorem find?_put (key other : κ) (value : α) (entries : List (κ × α)) :
    ((put key value entries).find? fun entry => entry.1 = other).map Prod.snd =
      if key = other then some value
      else (entries.find? fun entry => entry.1 = other).map Prod.snd := by
  induction entries with
  | nil => by_cases h : key = other <;> simp [put, h]
  | cons entry rest ih =>
    rw [put]
    split
    · next same => by_cases h : key = other <;> simp [h, same]
    · next differs =>
      by_cases h : entry.1 = other
      · have : ¬key = other := fun same => differs (h.trans same.symm)
        simp [h, this]
      · simp [h, ih]

@[simp] theorem get?_set (table : Table κ α) (key other : κ) (value : α) :
    (table.set key value).get? other = if key = other then some value else table.get? other :=
  find?_put key other value table.entries

@[simp] theorem get?_empty (key : κ) : ({} : Table κ α).get? key = none := rfl

theorem put_put (key : κ) (first second : α) (entries : List (κ × α)) :
    put key second (put key first entries) = put key second entries := by
  induction entries with
  | nil => simp [put]
  | cons entry rest ih =>
    by_cases same : entry.1 = key
    · simp [put, same]
    · simp [put, same, ih]

theorem set_set (table : Table κ α) (key : κ) (first second : α) :
    (table.set key first).set key second = table.set key second :=
  congrArg mk (put_put key first second table.entries)

theorem put_of_present (key : κ) {value : α} {entries : List (κ × α)}
    (present : (entries.find? fun entry => entry.1 = key).map Prod.snd = some value) :
    put key value entries = entries := by
  induction entries with
  | nil => cases present
  | cons entry rest ih =>
    rcases entry with ⟨other, held⟩
    by_cases same : other = key
    · simp only [List.find?_cons, same, decide_true, Option.map_some, Option.some.injEq] at present
      simp [put, same, present]
    · simp only [List.find?_cons, same, decide_false] at present
      simp [put, same, ih present]

theorem set_of_present (table : Table κ α) (key : κ) {value : α}
    (present : table.get? key = some value) : table.set key value = table :=
  congrArg mk (put_of_present key present)

@[simp] theorem get?_erase (table : Table κ α) (key other : κ) :
    (table.erase key).get? other = if key = other then none else table.get? other := by
  simp only [get?, erase]
  induction table.entries with
  | nil => simp
  | cons entry rest ih =>
    by_cases h : entry.1 = key
    · rw [List.filter_cons_of_neg (by simpa using h)]
      rw [ih]
      by_cases same : key = other
      · simp [same]
      · have : ¬entry.1 = other := fun eq => same (h.symm.trans eq)
        simp [same, this]
    · rw [List.filter_cons_of_pos (by simpa using h)]
      by_cases found : entry.1 = other
      · have : ¬key = other := fun same => h (found.trans same.symm)
        simp [found, this]
      · rw [List.find?_cons_of_neg (by simpa using found), ih,
          List.find?_cons_of_neg (by simpa using found)]

@[simp] theorem get?_modify (table : Table κ α) (key other : κ) (change : α → α) :
    (table.modify key change).get? other =
      if key = other then (table.get? other).map change else table.get? other := by
  unfold modify
  split
  · next value found =>
    rw [get?_set]
    split
    · next same => subst same; simp [found]
    · rfl
  · next missing =>
    split
    · next same => subst same; simp [missing]
    · rfl

end Table

end Resilience
