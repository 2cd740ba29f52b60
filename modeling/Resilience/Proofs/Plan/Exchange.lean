import Resilience.Plan

/-!
Exchanges: requests with their answers, and what rows of them tell about a breaker.
-/

namespace Resilience

/-- A request and its answer. -/
structure Exchange where
  request : Request
  answer : request.Answer

@[simp] def Request.OffBreaker : Request → Prop
  | .acquirePermit _ | .recordSample .. | .dropPermit => False
  | _ => True

@[simp] def Request.Plain : Request → Prop
  | .strategy _ => False
  | request => request.OffBreaker

/-- Whether a request has nothing to do with what is guarded: it is a plain one and no attempt. -/
@[simp] def Request.Quiet : Request → Prop
  | .attempt .. => False
  | request => request.Plain

/-- Whether a request asks for no place in a bulkhead and gives none back. -/
@[simp] def Request.OffBulkhead : Request → Prop
  | .enterBulkhead _ | .awaitSlot | .leaveBulkhead => False
  | _ => True

/-- Whether a request is a quiet one and has nothing to do with policies or places in bulkheads. -/
@[simp] def Request.Calm : Request → Prop
  | .resolve | .enterBulkhead _ | .awaitSlot | .leaveBulkhead => False
  | request => request.Quiet

/-- Whether a request may be made by someone who has a place in a bulkhead and keeps it: it looks no
policy up either. -/
@[simp] def Request.Inner : Request → Prop
  | .resolve => False
  | request => request.OffBulkhead

/-- Whether a request may be made in the course of an attempt: it is calm or the attempt itself. -/
@[simp] def Request.Routine : Request → Prop
  | .attempt .. => True
  | request => request.Calm

def Quiet (history : List Exchange) : Prop := ∀ exchange ∈ history, exchange.request.Quiet

def Exchange.lacksBackoff : Exchange → Bool
  | ⟨.strategy _, none⟩ => true
  | _ => false

namespace Request

variable {request : Request}

theorem offBreaker_of_plain (plain : request.Plain) : request.OffBreaker := by
  cases request <;> first | exact trivial | exact plain.elim

theorem plain_of_quiet (quiet : request.Quiet) : request.Plain := by
  cases request <;> first | exact trivial | exact quiet.elim

theorem routine_of_calm (calm : request.Calm) : request.Routine := by
  cases request <;> first | exact trivial | exact calm.elim

theorem plain_of_routine (routine : request.Routine) : request.Plain := by
  cases request <;> first | exact trivial | exact routine.elim

theorem inner_of_routine (routine : request.Routine) : request.Inner := by
  cases request <;> first | exact trivial | exact routine.elim

theorem offBulkhead_of_inner (inner : request.Inner) : request.OffBulkhead := by
  cases request <;> first | exact trivial | exact inner.elim

theorem quiet_of_calm (calm : request.Calm) : request.Quiet := by
  cases request <;> first | exact trivial | exact calm.elim

theorem inner_of_calm (calm : request.Calm) : request.Inner := by
  cases request <;> first | exact trivial | exact calm.elim

end Request

theorem Quiet.nil : Quiet [] := fun _ none => absurd none List.not_mem_nil

theorem quiet_singleton {exchange : Exchange} (quiet : exchange.request.Quiet) :
    Quiet [exchange] := by
  intro other member
  rw [List.mem_singleton.mp member]
  exact quiet

theorem Quiet.append {first second : List Exchange} (before : Quiet first)
    (after : Quiet second) : Quiet (first ++ second) := by
  intro exchange member
  rcases List.mem_append.mp member with earlier | later
  · exact before exchange earlier
  · exact after exchange later

namespace Exchange

def sample? : Exchange → Option Bool
  | ⟨.recordSample _ failed, _⟩ => some failed
  | _ => none

def admits : Exchange → Bool
  | ⟨.acquirePermit _, .ok _⟩ => true
  | _ => false

def outcome? : Exchange → Option Outcome
  | ⟨.attempt .., outcome⟩ => some outcome
  | _ => none

def policy? : Exchange → Option Policy
  | ⟨.resolve, policy⟩ => policy
  | _ => none

end Exchange

/-- The policy of the operation, as it was found first. -/
def resolved? (history : List Exchange) : Option Policy := history.findSome? Exchange.policy?

/-- The samples that were handed in, the first one first. -/
def samples (history : List Exchange) : List Bool := history.filterMap Exchange.sample?

/-- How often a breaker admitted the caller. -/
def admissions (history : List Exchange) : Nat := history.countP Exchange.admits

/-- The outcomes of the attempts, the first one first. -/
def outcomes (history : List Exchange) : List Outcome := history.filterMap Exchange.outcome?

def lacksBackoff (history : List Exchange) : Bool := history.any Exchange.lacksBackoff

theorem samples_cons (exchange : Exchange) (rest : List Exchange) :
    samples (exchange :: rest) = exchange.sample?.toList ++ samples rest := by
  unfold samples
  rw [List.filterMap_cons]
  cases exchange.sample? <;> rfl

theorem outcomes_cons (exchange : Exchange) (rest : List Exchange) :
    outcomes (exchange :: rest) = exchange.outcome?.toList ++ outcomes rest := by
  unfold outcomes
  rw [List.filterMap_cons]
  cases exchange.outcome? <;> rfl

theorem admissions_cons (exchange : Exchange) (rest : List Exchange) :
    admissions (exchange :: rest) = exchange.admits.toNat + admissions rest := by
  unfold admissions
  rw [List.countP_cons, Nat.add_comm]
  cases exchange.admits <;> rfl

theorem samples_append (first second : List Exchange) :
    samples (first ++ second) = samples first ++ samples second :=
  List.filterMap_append

theorem admissions_append (first second : List Exchange) :
    admissions (first ++ second) = admissions first + admissions second :=
  List.countP_append

theorem outcomes_append (first second : List Exchange) :
    outcomes (first ++ second) = outcomes first ++ outcomes second :=
  List.filterMap_append

theorem lacksBackoff_append (first second : List Exchange) :
    lacksBackoff (first ++ second) = (lacksBackoff first || lacksBackoff second) :=
  List.any_append

theorem resolved?_append (first second : List Exchange) :
    resolved? (first ++ second) = (resolved? first).or (resolved? second) :=
  List.findSome?_append

theorem samples_of_offBreaker {history : List Exchange}
    (offBreaker : ∀ exchange ∈ history, exchange.request.OffBreaker) : samples history = [] := by
  apply List.filterMap_eq_nil_iff.mpr
  intro exchange member
  have off := offBreaker exchange member
  rcases exchange with ⟨request, answer⟩
  cases request <;> first | rfl | exact off.elim

theorem admissions_of_offBreaker {history : List Exchange}
    (offBreaker : ∀ exchange ∈ history, exchange.request.OffBreaker) :
    admissions history = 0 := by
  apply List.countP_eq_zero.mpr
  intro exchange member
  have off := offBreaker exchange member
  rcases exchange with ⟨request, answer⟩
  cases request <;> first | exact Bool.false_ne_true | exact off.elim

namespace Quiet

variable {history : List Exchange}

theorem offBreaker (quiet : Quiet history) :
    ∀ exchange ∈ history, exchange.request.OffBreaker := by
  intro exchange member
  have plain := Request.plain_of_quiet (quiet exchange member)
  exact Request.offBreaker_of_plain plain

theorem outcomes_eq (quiet : Quiet history) : outcomes history = [] := by
  apply List.filterMap_eq_nil_iff.mpr
  intro exchange member
  have quiet := quiet exchange member
  rcases exchange with ⟨request, answer⟩
  cases request <;> first | rfl | exact quiet.elim

theorem lacksBackoff_eq (quiet : Quiet history) : lacksBackoff history = false := by
  apply List.any_eq_false.mpr
  intro exchange member
  have quiet := quiet exchange member
  rcases exchange with ⟨request, answer⟩
  cases request <;> first | exact Bool.false_ne_true | exact quiet.elim

theorem tells_nothing {before after : List Exchange} (quiet : Quiet before)
    (part : List Exchange) (quietAfter : Quiet after) :
    samples (before ++ part ++ after) = samples part ∧
      admissions (before ++ part ++ after) = admissions part ∧
        outcomes (before ++ part ++ after) = outcomes part ∧
          lacksBackoff (before ++ part ++ after) = lacksBackoff part := by
  refine ⟨?_, ?_, ?_, ?_⟩
  · rw [samples_append, samples_append, samples_of_offBreaker quiet.offBreaker,
      samples_of_offBreaker quietAfter.offBreaker, List.nil_append, List.append_nil]
  · rw [admissions_append, admissions_append, admissions_of_offBreaker quiet.offBreaker,
      admissions_of_offBreaker quietAfter.offBreaker, Nat.zero_add, Nat.add_zero]
  · rw [outcomes_append, outcomes_append, quiet.outcomes_eq, quietAfter.outcomes_eq,
      List.nil_append, List.append_nil]
  · rw [lacksBackoff_append, lacksBackoff_append, quiet.lacksBackoff_eq,
      quietAfter.lacksBackoff_eq, Bool.false_or, Bool.or_false]

end Quiet

end Resilience
