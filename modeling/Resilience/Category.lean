import Resilience.Text.Blank
import Resilience.Text.Split

/-!
Failure categories, and the sets of them that policies name. A set holds every category, or the
listed ones in order without repetition.
-/

namespace Resilience

abbrev Category := String

namespace Category

def timeout : Category := "Timeout"
def circuitOpen : Category := "CircuitBreakerOpen"
def bulkheadFull : Category := "BulkheadFull"

/-- The categories of failed input and output, by the number of the kind of failure. -/
def inputOutput : List Category :=
  ["NotFound", "PermissionDenied", "ConnectionRefused", "ConnectionReset", "ConnectionAborted",
    "NotConnected", "AddrInUse", "AddrNotAvailable", "BrokenPipe", "AlreadyExists", "WouldBlock",
    "InvalidInput", "InvalidData", "TimedOut", "WriteZero", "Interrupted", "Unsupported",
    "UnexpectedEof", "OutOfMemory", "Other"]

/-- Puts a name into a list in ascending order, unless it is there already. -/
def insert (name : Category) : List Category → List Category
  | [] => [name]
  | head :: rest =>
    if name < head then name :: head :: rest
    else if name = head then head :: rest
    else head :: insert name rest

@[simp] theorem mem_insert {name other : Category} {names : List Category} :
    other ∈ insert name names ↔ other = name ∨ other ∈ names := by
  induction names with
  | nil => simp [insert]
  | cons head rest ih =>
    rw [insert]
    split
    · simp
    · split
      · simp_all
      · simp only [List.mem_cons, ih]
        constructor <;> rintro (h | h | h) <;> simp_all

theorem pairwise_insert {name : Category} {names : List Category}
    (h : names.Pairwise (· < ·)) : (insert name names).Pairwise (· < ·) := by
  induction names with
  | nil => simp [insert]
  | cons head rest ih =>
    rw [List.pairwise_cons] at h
    rw [insert]
    split
    · next lt =>
      refine List.pairwise_cons.2 ⟨?_, List.pairwise_cons.2 h⟩
      intro other member
      rcases List.mem_cons.1 member with rfl | member
      · exact lt
      · exact String.lt_trans lt (h.1 other member)
    · next notLt =>
      split
      · exact List.pairwise_cons.2 h
      · next ne =>
        refine List.pairwise_cons.2 ⟨?_, ih h.2⟩
        intro other member
        rcases mem_insert.1 member with rfl | member
        · exact Std.lt_of_le_of_ne (String.not_lt.1 notLt) (Ne.symm ne)
        · exact h.1 other member

end Category

/-- A set of failure categories: all of them, or the members, which are listed in ascending
order. -/
structure CategorySet where
  any : Bool
  members : List Category
  ascending : members.Pairwise (· < ·)
  deriving DecidableEq

namespace CategorySet

def all : CategorySet := ⟨true, [], .nil⟩

def none : CategorySet := ⟨false, [], .nil⟩

def add (set : CategorySet) (name : Category) : CategorySet :=
  ⟨set.any, Category.insert name set.members, Category.pairwise_insert set.ascending⟩

def of (names : List Category) : CategorySet := names.foldl add none

def contains (set : CategorySet) (category : Category) : Bool :=
  set.any || set.members.contains category

def isEmpty (set : CategorySet) : Bool := !set.any && set.members.isEmpty

/-- The names in a comma list, without the blanks around them and without empty ones. -/
def listed (text : List Char) : List Category :=
  (((Text.pieces ',' text).map Text.trimmed).filter (· ≠ [])).map String.ofList

/-- Reads a set: a star for all categories, else a comma list. -/
def ofText (text : String) : CategorySet :=
  let body := Text.trimmed text.toList
  if body = ['*'] then all else of (listed body)

def text (set : CategorySet) : String :=
  if set.any then "*" else ",".intercalate set.members

@[simp] theorem mem_members_add {set : CategorySet} {name other : Category} :
    other ∈ (set.add name).members ↔ other = name ∨ other ∈ set.members :=
  Category.mem_insert

end CategorySet

end Resilience
