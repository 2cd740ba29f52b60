import Resilience.Proofs.Plan.Path

/-!
Tales: what the ways through a plan tell of themselves, as long as they are answered the way an
engine answers. The tale of two plans, one after the other, is the tale of the first one with that
of the second one behind it.
-/

namespace Resilience

/-- What shows of an invocation: how a bulkhead takes it in, its attempts, the answers of fallback
handlers, and its events. -/
inductive Mark where
  | entered (policy : BulkheadPolicy) (admission : Admission)
  | tried (number : Nat) (outcome : Outcome)
  | handled (name : String) (fault : Fault) (answer : Option (Except Failure String))
  | told (event : Event)

namespace Mark

def event? : Mark → Option Event
  | told event => some event
  | entered .. | tried .. | handled .. => none

/-- The events among marks, the first one first. -/
def events (marks : List Mark) : List Event := marks.filterMap event?

theorem events_append (first second : List Mark) :
    events (first ++ second) = events first ++ events second :=
  List.filterMap_append

end Mark

namespace Exchange

def mark? : Exchange → Option Mark
  | ⟨.enterBulkhead policy, entry⟩ => some (.entered policy entry.admission)
  | ⟨.attempt number _ _, outcome⟩ => some (.tried number outcome)
  | ⟨.handle name fault, answer⟩ => some (.handled name fault answer)
  | ⟨.emit event, _⟩ => some (.told event)
  | _ => none

/-- Whether an engine may answer so: a breaker refuses for no longer than its delay and is at most
renewed by an acquisition, never by a sample, and an attempt is given up by the caller, fails by
itself or runs out of the time that it has. -/
def Possible : Exchange → Prop
  | ⟨.acquirePermit rule, .error retryAfter⟩ => retryAfter ≤ rule.delay.toDuration
  | ⟨.acquirePermit _, .ok transition⟩ => transition = none ∨ transition = some .halfOpened
  | ⟨.recordSample .., transition⟩ => transition ≠ some .halfOpened
  | ⟨.attempt _ limit _, .error fault⟩ =>
    fault = .cancelled ∨ (∃ failure, fault = .inner failure) ∨
      ∃ elapsed bound, limit = some bound ∧ fault = .timeout elapsed bound
  | _ => True

end Exchange

/-- The marks of a row of exchanges, the first one first. -/
def marks (history : List Exchange) : List Mark := history.filterMap Exchange.mark?

theorem marks_cons (exchange : Exchange) (rest : List Exchange) :
    marks (exchange :: rest) = exchange.mark?.toList ++ marks rest := by
  unfold marks
  rw [List.filterMap_cons]
  cases exchange.mark? <;> rfl

theorem marks_append (first second : List Exchange) :
    marks (first ++ second) = marks first ++ marks second :=
  List.filterMap_append

namespace Plan

variable {α β : Type} {tale : List Mark → α → Prop}

/-- Whether every way through a plan, possibly answered, leaves marks and ends as stated. -/
def Tells (plan : Plan α) (tale : List Mark → α → Prop) : Prop :=
  ∀ history value, plan.Returns history value → (∀ exchange ∈ history, exchange.Possible) →
    tale (marks history) value

theorem Tells.done {value : α} (ends : tale [] value) : (done value).Tells tale := by
  intro history other returns possible
  obtain ⟨rfl, rfl⟩ := returns_done.mp returns
  exact ends

theorem Tells.ask {request : Request} {next : request.Answer → Plan α}
    (answered : ∀ answer, Exchange.Possible ⟨request, answer⟩ →
      (next answer).Tells fun later => tale ((Exchange.mark? ⟨request, answer⟩).toList ++ later)) :
    (ask request next).Tells tale := by
  intro history value returns possible
  obtain ⟨answer, tail, rfl, follows⟩ := returns_ask.mp returns
  obtain ⟨here, later⟩ := List.forall_mem_cons.mp possible
  rw [marks_cons]
  exact answered answer here tail value follows later

theorem Tells.pass {request : Request} {next : request.Answer → Plan α}
    (rest : ∀ answer, Exchange.Possible ⟨request, answer⟩ → (next answer).Tells tale)
    (hidden : ∀ answer, Exchange.mark? ⟨request, answer⟩ = none := by exact fun _ => rfl) :
    (Plan.ask request next).Tells tale := by
  refine .ask fun answer possible => ?_
  simpa only [hidden answer, Option.toList_none, List.nil_append] using rest answer possible

theorem Tells.bind {plan : Plan α} {next : α → Plan β} {early : List Mark → α → Prop}
    {tale : List Mark → β → Prop} (first : plan.Tells early)
    (second : ∀ marks value, early marks value →
      (next value).Tells fun later => tale (marks ++ later)) : (plan >>= next).Tells tale := by
  intro history value returns possible
  obtain ⟨before, after, middle, rfl, ended, follows⟩ := returns_bind.mp returns
  obtain ⟨possibleBefore, possibleAfter⟩ := List.forall_mem_append.mp possible
  rw [marks_append]
  exact second _ _ (first before middle ended possibleBefore) after value follows possibleAfter

theorem Tells.mono {plan : Plan α} {wider : List Mark → α → Prop} (tells : plan.Tells tale)
    (implies : ∀ marks value, tale marks value → wider marks value) : plan.Tells wider :=
  fun history value returns possible => implies _ _ (tells history value returns possible)

end Plan

end Resilience
