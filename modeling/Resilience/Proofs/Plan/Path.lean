import Resilience.Proofs.Plan.Exchange

/-!
Paths through plans. A path is the list of the requests that were answered, with their answers. A
path through two plans one after the other is a path through the first and then one through the
second.
-/

namespace Resilience

namespace Plan

variable {α β : Type}

inductive Leads : Plan α → List Exchange → Plan α → Prop
  | refl (plan : Plan α) : Leads plan [] plan
  | ask {request : Request} {next : request.Answer → Plan α} {answer : request.Answer}
      {history : List Exchange} {rest : Plan α} (leads : Leads (next answer) history rest) :
      Leads (.ask request next) (⟨request, answer⟩ :: history) rest

def Unended : Plan α → Prop
  | .done _ => False
  | .ask .. => True

def Returns (plan : Plan α) (history : List Exchange) (value : α) : Prop :=
  plan.Leads history (.done value)

theorem leads_done {value : α} {history : List Exchange} {rest : Plan α}
    (leads : (done value).Leads history rest) : history = [] ∧ rest = done value := by
  cases leads with
  | refl => exact ⟨rfl, rfl⟩

theorem leads_ask {request : Request} {next : request.Answer → Plan α}
    {history : List Exchange} {rest : Plan α} (leads : (ask request next).Leads history rest) :
    history = [] ∧ rest = ask request next ∨
      ∃ answer tail, history = ⟨request, answer⟩ :: tail ∧ (next answer).Leads tail rest := by
  cases leads with
  | refl => exact .inl ⟨rfl, rfl⟩
  | ask leads => exact .inr ⟨_, _, rfl, leads⟩

theorem Leads.trans {plan middle rest : Plan α} {first second : List Exchange}
    (before : plan.Leads first middle) (after : middle.Leads second rest) :
    plan.Leads (first ++ second) rest := by
  induction before with
  | refl => exact after
  | ask _ inductionHypothesis => exact .ask (inductionHypothesis after)

theorem Leads.snoc {plan : Plan α} {history : List Exchange} {request : Request}
    {next : request.Answer → Plan α} (leads : plan.Leads history (.ask request next))
    (answer : request.Answer) : plan.Leads (history ++ [⟨request, answer⟩]) (next answer) :=
  leads.trans (.ask (.refl _))

/-- A way that goes on from where another one ended is a way from there. -/
theorem Leads.cancel {plan middle rest : Plan α} {first second : List Exchange}
    (before : plan.Leads first middle) (whole : plan.Leads (first ++ second) rest) :
    middle.Leads second rest := by
  induction before with
  | refl => exact whole
  | ask _ inductionHypothesis =>
    rcases leads_ask whole with ⟨none, -⟩ | ⟨answer, tail, same, taken⟩
    · cases none
    · cases same
      exact inductionHypothesis taken

theorem Leads.unique {plan rest other : Plan α} {history : List Exchange}
    (leads : plan.Leads history rest) (again : plan.Leads history other) : rest = other := by
  rw [← List.append_nil history] at again
  cases leads.cancel again with
  | refl => rfl

theorem Unended.bind {plan : Plan α} (unended : plan.Unended) (next : α → Plan β) :
    (plan >>= next).Unended := by
  cases plan with
  | done value => exact unended.elim
  | ask request continuation => exact trivial

theorem Unended.ne_done {plan : Plan α} (unended : plan.Unended) (value : α) :
    plan ≠ done value := by
  rintro rfl
  exact unended

/-- A way through two plans ends in the first one, or goes through it and on into the second. -/
theorem leads_bind {plan : Plan α} {next : α → Plan β} {history : List Exchange}
    {rest : Plan β} (leads : (plan >>= next).Leads history rest) :
    (∃ left, plan.Leads history left ∧ left.Unended ∧ rest = left >>= next) ∨
      ∃ first second value, history = first ++ second ∧ plan.Returns first value ∧
        (next value).Leads second rest := by
  -- The history is split where the first plan ends, so the induction is on that plan.
  induction plan generalizing history with
  | done value => exact .inr ⟨[], history, value, rfl, .refl _, leads⟩
  | ask request continuation inductionHypothesis =>
    rcases leads_ask leads with ⟨rfl, rfl⟩ | ⟨answer, tail, rfl, taken⟩
    · exact .inl ⟨_, .refl _, trivial, rfl⟩
    · rcases inductionHypothesis answer taken with
        ⟨left, before, unended, rfl⟩ | ⟨first, second, value, rfl, before, after⟩
      · exact .inl ⟨left, .ask before, unended, rfl⟩
      · exact .inr ⟨_, second, value, rfl, .ask before, after⟩

theorem returns_done {value other : α} {history : List Exchange} :
    (done value).Returns history other ↔ history = [] ∧ value = other := by
  constructor
  · intro returns
    obtain ⟨empty, same⟩ := leads_done returns
    cases same
    exact ⟨empty, rfl⟩
  · rintro ⟨rfl, rfl⟩
    exact .refl _

theorem returns_ask {request : Request} {next : request.Answer → Plan α}
    {history : List Exchange} {value : α} :
    (ask request next).Returns history value ↔
      ∃ answer tail, history = ⟨request, answer⟩ :: tail ∧ (next answer).Returns tail value := by
  constructor
  · intro returns
    rcases leads_ask returns with ⟨-, other⟩ | found
    · cases other
    · exact found
  · rintro ⟨answer, tail, rfl, returns⟩
    exact .ask returns

theorem Leads.bind {plan middle : Plan α} {next : α → Plan β} {history : List Exchange}
    (leads : plan.Leads history middle) : (plan >>= next).Leads history (middle >>= next) := by
  induction leads with
  | refl => exact .refl _
  | ask _ inductionHypothesis => exact .ask inductionHypothesis

theorem returns_bind {plan : Plan α} {next : α → Plan β} {history : List Exchange}
    {value : β} :
    (plan >>= next).Returns history value ↔
      ∃ first second middle, history = first ++ second ∧ plan.Returns first middle ∧
        (next middle).Returns second value := by
  constructor
  · intro returns
    rcases leads_bind returns with ⟨left, before, unended, same⟩ | found
    · exact absurd same.symm ((unended.bind next).ne_done value)
    · exact found
  · rintro ⟨first, second, middle, rfl, before, after⟩
    exact (Leads.bind before).trans after

end Plan

end Resilience
