import Mathlib.Data.List.Range
import Resilience.Proofs.Bulkhead.Conservation

/-!
Waiting callers are served in the order in which they came. A run of a bulkhead is told by the
tickets that queue, the tickets that are handed a slot and the tickets that leave the queue, step
by step; those handed a slot and those still queued follow each other in the order of queueing.
-/

namespace Resilience.Bulkhead

namespace Usage

/-- The ticket that joins the queue in a step, if there is one. -/
def joins (usage : Usage) : Step → List Nat
  | .enter =>
    match usage.bulkhead.enter.1 with
    | .queued ticket => [ticket]
    | .admitted | .full .. => []
  | .dropPermit | .dropTicket _ | .wait .. => []

/-- The tickets that are handed a slot in a step. -/
def hands (usage : Usage) (step : Step) : List Nat :=
  usage.bulkhead.grantedSince (usage.after step).bulkhead.toSlots

/-- The ticket whose caller gives it up in a step, if there is one. -/
def forsakes (usage : Usage) : Step → List Nat
  | .dropTicket ticket | .wait ticket true => if ticket ∈ usage.tickets then [ticket] else []
  | .enter | .dropPermit | .wait _ false => []

/-- The ticket that leaves the queue in a step without a slot, if there is one. -/
def quits (usage : Usage) (step : Step) : List Nat :=
  (usage.forsakes step).filter fun ticket => ticket ∈ usage.bulkhead.queue

/-- What the steps of a row tell, one after the other. -/
def along (told : Usage → Step → List Nat) (usage : Usage) : List Step → List Nat
  | [] => []
  | step :: rest => told usage step ++ along told (usage.after step) rest

/-- What a step does to the queue: the tickets that join it, that are handed a slot and that leave
it. -/
inductive Shift (before after : Bulkhead) : List Nat → List Nat → List Nat → Prop
  | still (queue : after.queue = before.queue) (next : after.nextTicket = before.nextTicket) :
      Shift before after [] [] []
  | joined (queue : after.queue = before.queue ++ [before.nextTicket])
      (next : after.nextTicket = before.nextTicket + 1) :
      Shift before after [before.nextTicket] [] []
  | served {ticket : Nat} (queue : before.queue = ticket :: after.queue)
      (next : after.nextTicket = before.nextTicket) : Shift before after [] [ticket] []
  | quit {ticket : Nat} (queued : ticket ∈ before.queue)
      (queue : after.queue = before.queue.erase ticket)
      (next : after.nextTicket = before.nextTicket) : Shift before after [] [] [ticket]

variable {usage : Usage}

theorem grantedSince_append {before after : Slots} {kept : List Nat} {ticket : Nat}
    (granted : after.granted = kept ++ [ticket]) (subset : kept ⊆ before.granted)
    (new : ticket ∉ before.granted) : before.grantedSince after = [ticket] := by
  have old : kept.filter (fun caller => !before.granted.contains caller) = [] := by
    apply List.filter_eq_nil_iff.mpr
    intro caller member
    simpa using subset member
  rw [Slots.grantedSince, granted, List.filter_append, old]
  simp [new]

/-- Nobody is handed a slot as long as nobody is added to those who were. -/
theorem still_shift {after : Bulkhead} (queue : after.queue = usage.bulkhead.queue)
    (next : after.nextTicket = usage.bulkhead.nextTicket)
    (subset : after.granted ⊆ usage.bulkhead.granted) :
    Shift usage.bulkhead after [] (usage.bulkhead.grantedSince after.toSlots) [] := by
  have none : usage.bulkhead.grantedSince after.toSlots = [] := by
    apply List.filter_eq_nil_iff.mpr
    intro ticket granted
    simpa using subset granted
  rw [none]
  exact .still queue next

/-- A loose slot goes to the head of the queue, if there is one. -/
theorem release_shift (conserved : usage.Conserved 0) {kept : List Nat}
    (subset : kept ⊆ usage.bulkhead.granted) :
    let after := release { usage.bulkhead with granted := kept }
    Shift usage.bulkhead after [] (usage.bulkhead.grantedSince after.toSlots) [] := by
  intro after
  cases queue : usage.bulkhead.queue with
  | nil =>
    have freed : after = { usage.bulkhead with granted := kept, free := usage.bulkhead.free + 1 } :=
      release_of_empty queue
    rw [freed]
    exact still_shift rfl rfl subset
  | cons ticket rest =>
    have handed : after =
        { usage.bulkhead with queue := rest, granted := kept ++ [ticket] } :=
      release_of_queue queue
    have new : ticket ∉ usage.bulkhead.granted :=
      conserved.not_granted_of_queued (by simp [queue])
    rw [grantedSince_append (by rw [handed]) subset new]
    apply Shift.served <;> simp [handed, queue]

theorem leave_shift (conserved : usage.Conserved 0) {ticket : Nat} (held : ticket ∈ usage.tickets) :
    Shift usage.bulkhead (usage.bulkhead.leave ticket) []
      (usage.bulkhead.grantedSince (usage.bulkhead.leave ticket).toSlots)
      ([ticket].filter fun ticket => ticket ∈ usage.bulkhead.queue) := by
  rcases conserved.mem_tickets.mp held with queued | granted
  · have none : usage.bulkhead.grantedSince (usage.bulkhead.leave ticket).toSlots = [] := by
      rw [leave_of_queued queued]
      simp [Slots.grantedSince]
    rw [none, leave_of_queued queued]
    simp only [queued, decide_true, List.filter_cons_of_pos, List.filter_nil]
    exact .quit queued rfl rfl
  · have absent : ticket ∉ usage.bulkhead.queue := fun queued =>
      conserved.not_granted_of_queued queued granted
    rw [leave_of_granted absent granted]
    simpa [absent] using release_shift conserved List.erase_subset

theorem shift (conserved : usage.Conserved 0) (step : Step) :
    Shift usage.bulkhead (usage.after step).bulkhead (usage.joins step) (usage.hands step)
      (usage.quits step) := by
  have idle : Shift usage.bulkhead usage.bulkhead []
      (usage.bulkhead.grantedSince usage.bulkhead.toSlots) [] :=
    still_shift rfl rfl (List.Subset.refl _)
  cases step with
  | enter =>
    rcases enter_cases usage.bulkhead with free | ⟨busy, full⟩ | ⟨busy, room⟩
    · simp only [joins, hands, quits, forsakes, after, enter_of_free free, List.filter_nil]
      exact still_shift rfl rfl (List.Subset.refl _)
    · simp only [joins, hands, quits, forsakes, after, enter_of_full busy full, List.filter_nil]
      exact idle
    · simp only [joins, hands, quits, forsakes, after, enter_of_room busy room, List.filter_nil]
      have none : usage.bulkhead.grantedSince { usage.bulkhead.toSlots with
          queue := usage.bulkhead.queue ++ [usage.bulkhead.nextTicket] } = [] := by
        simp [Slots.grantedSince]
      rw [none]
      exact .joined rfl rfl
  | dropPermit =>
    simp only [joins, hands, quits, forsakes, after, List.filter_nil]
    split
    · exact release_shift conserved (List.Subset.refl _)
    · exact idle
  | dropTicket ticket =>
    simp only [joins, hands, quits, forsakes, after]
    split
    · exact leave_shift conserved ‹_›
    · exact idle
  | wait ticket cancelled =>
    by_cases held : ticket ∈ usage.tickets
    · cases cancelled with
      | true =>
        simp only [joins, hands, quits, forsakes, after, if_pos held, poll_of_cancelled]
        exact leave_shift conserved held
      | false =>
        by_cases granted : ticket ∈ usage.bulkhead.granted
        · simp only [joins, hands, quits, forsakes, after, if_pos held, poll_of_granted granted,
            List.filter_nil]
          exact still_shift rfl rfl List.erase_subset
        · simp only [joins, hands, quits, forsakes, after, if_pos held, poll_of_waiting granted,
            List.filter_nil]
          exact idle
    · cases cancelled <;>
        simp only [joins, hands, quits, forsakes, after, if_neg held, List.filter_nil] <;>
        exact idle

/-- The tickets that queued are numbered in the order in which they came, and each of them was
handed a slot, left the queue or still stands in it. Those handed a slot and those in the queue
follow each other by number. -/
structure Ordered (usage : Usage) (joined handed quit : List Nat) : Prop where
  numbered : joined = List.range usage.bulkhead.nextTicket
  parts : joined.Perm (quit ++ (handed ++ usage.bulkhead.queue))
  ascending : (handed ++ usage.bulkhead.queue).Pairwise (· < ·)

namespace Ordered

variable {joined handed quit : List Nat}

theorem start (policy : BulkheadPolicy) : (Usage.start policy).Ordered [] [] [] where
  numbered := rfl
  parts := .nil
  ascending := .nil

theorem lt_next (ordered : usage.Ordered joined handed quit) {ticket : Nat}
    (member : ticket ∈ handed ++ usage.bulkhead.queue) : ticket < usage.bulkhead.nextTicket := by
  have known : ticket ∈ joined := ordered.parts.mem_iff.mpr (List.mem_append_right _ member)
  rwa [ordered.numbered, List.mem_range] at known

theorem of_shift {next : Usage} {joins hands quits : List Nat}
    (ordered : usage.Ordered joined handed quit)
    (shift : Shift usage.bulkhead next.bulkhead joins hands quits) :
    next.Ordered (joined ++ joins) (handed ++ hands) (quit ++ quits) := by
  obtain ⟨numbered, parts, ascending⟩ := ordered
  cases shift with
  | still queue same =>
    simp only [List.append_nil]
    exact ⟨same ▸ numbered, queue ▸ parts, queue ▸ ascending⟩
  | joined queue same =>
    simp only [List.append_nil]
    refine ⟨?_, ?_, ?_⟩
    · rw [same, List.range_succ, numbered]
    · rw [queue, ← List.append_assoc handed, ← List.append_assoc quit]
      exact parts.append_right _
    · rw [queue, ← List.append_assoc]
      apply List.pairwise_append.mpr
      refine ⟨ascending, List.pairwise_singleton _ _, ?_⟩
      intro ticket member other same
      rw [List.mem_singleton.mp same]
      exact lt_next ⟨numbered, parts, ascending⟩ member
  | @served ticket queue same =>
    -- The head of the queue becomes the last one served, so the whole row stays the same.
    have moved : handed ++ [ticket] ++ next.bulkhead.queue = handed ++ usage.bulkhead.queue := by
      simp [queue]
    simp only [List.append_nil]
    exact ⟨same ▸ numbered, moved ▸ parts, moved ▸ ascending⟩
  | @quit ticket queued queue same =>
    simp only [List.append_nil]
    refine ⟨same ▸ numbered, ?_, ?_⟩
    · have moved : usage.bulkhead.queue.Perm (ticket :: next.bulkhead.queue) := by
        rw [queue]
        exact List.perm_cons_erase queued
      apply parts.trans
      rw [List.append_assoc]
      exact ((moved.append_left handed).trans List.perm_middle).append_left quit
    · rw [queue]
      exact ascending.sublist (List.erase_sublist.append_left handed)

theorem run (conserved : usage.Conserved 0) (ordered : usage.Ordered joined handed quit)
    (steps : List Step) :
    (usage.run steps).Ordered (joined ++ along joins usage steps)
      (handed ++ along hands usage steps) (quit ++ along quits usage steps) := by
  induction steps generalizing usage joined handed quit with
  | nil => simpa [along] using ordered
  | cons step rest inductionHypothesis =>
    simpa only [run_cons, along, List.append_assoc] using
      inductionHypothesis (conserved.after step) (ordered.of_shift (shift conserved step))

/-- Whoever is handed a slot stood first in the queue, and nobody before it still waits. -/
theorem served (conserved : usage.Conserved 0) (ordered : usage.Ordered joined handed quit)
    {step : Step} {ticket : Nat} (served : ticket ∈ usage.hands step) :
    usage.bulkhead.queue.head? = some ticket ∧
      ∀ earlier < ticket, earlier ∈ handed ∨ earlier ∈ quit := by
  have shifted := shift conserved step
  generalize usage.joins step = joins, usage.hands step = hands, usage.quits step = quits
    at shifted served
  cases shifted with
  | still | joined | quit => cases served
  | @served first queue =>
    rw [List.mem_singleton.mp served]
    refine ⟨by rw [queue, List.head?_cons], ?_⟩
    intro earlier before
    have present : first ∈ handed ++ usage.bulkhead.queue := by simp [queue]
    have known : earlier ∈ joined := by
      rw [ordered.numbered, List.mem_range]
      exact before.trans (ordered.lt_next present)
    have waits : earlier ∉ usage.bulkhead.queue := by
      have sorted := (List.pairwise_append.mp ordered.ascending).2.1
      rw [queue, List.pairwise_cons] at sorted
      rw [queue, List.mem_cons]
      rintro (rfl | later)
      · exact Nat.lt_irrefl _ before
      · exact Nat.lt_asymm before (sorted.1 earlier later)
    rcases List.mem_append.mp (ordered.parts.mem_iff.mp known) with left | rest
    · exact .inr left
    · exact .inl ((List.mem_append.mp rest).resolve_right waits)

end Ordered

/-- A slot whose caller gives it up before claiming it goes to the first ticket in the queue, or
becomes free. -/
theorem after_forsaken (conserved : usage.Conserved 0) {step : Step} {ticket : Nat}
    (forsaken : ticket ∈ usage.forsakes step) (granted : ticket ∈ usage.bulkhead.granted) :
    usage.after step =
      { usage with
        bulkhead := release { usage.bulkhead with granted := usage.bulkhead.granted.erase ticket }
        tickets := usage.tickets.erase ticket } := by
  have absent : ticket ∉ usage.bulkhead.queue := fun queued =>
    conserved.not_granted_of_queued queued granted
  have passed := leave_of_granted absent granted
  cases step with
  | enter | dropPermit => cases forsaken
  | dropTicket other =>
    obtain ⟨held, member⟩ := List.mem_ite_nil_right.mp forsaken
    cases List.mem_singleton.mp member
    rw [after, if_pos held, passed]
  | wait other cancelled =>
    cases cancelled with
    | false => cases forsaken
    | true =>
      obtain ⟨held, member⟩ := List.mem_ite_nil_right.mp forsaken
      cases List.mem_singleton.mp member
      rw [after, if_pos held, poll_of_cancelled, passed]

end Usage

/-- In every run of a bulkhead the tickets are numbered as they queue, and slots are handed to them
in this order: whoever is handed one stood first in the queue, and everyone before it was handed
one or has left. No newcomer is admitted while a live ticket is queued, and a slot that is given up
before it is claimed goes to the oldest ticket in the queue at once, or becomes free if there is
none. -/
theorem served_in_order (policy : BulkheadPolicy) (steps : List Step) :
    let start := Usage.start policy
    let usage := start.run steps
    let bulkhead := usage.bulkhead
    let handed := Usage.along Usage.hands start steps
    let quit := Usage.along Usage.quits start steps
    (Usage.along Usage.joins start steps = List.range bulkhead.nextTicket ∧
      (List.range bulkhead.nextTicket).Perm (quit ++ (handed ++ bulkhead.queue))) ∧
    handed.Pairwise (· < ·) ∧
    (∀ step, ∀ ticket ∈ usage.hands step, bulkhead.queue.head? = some ticket ∧
      ∀ earlier < ticket, earlier ∈ handed ∨ earlier ∈ quit) ∧
    (∀ ticket ∈ usage.tickets, ticket ∈ bulkhead.queue → bulkhead.enter.1 ≠ .admitted) ∧
    ∀ step, ∀ ticket ∈ usage.forsakes step, ticket ∈ bulkhead.granted →
      let granted := bulkhead.granted.erase ticket
      let tickets := usage.tickets.erase ticket
      match bulkhead.queue with
      | [] => usage.after step =
          { usage with bulkhead := { bulkhead with granted, free := bulkhead.free + 1 }, tickets }
      | oldest :: rest => (∀ other ∈ rest, oldest < other) ∧ usage.after step =
          { usage with
            bulkhead := { bulkhead with queue := rest, granted := granted ++ [oldest] }
            tickets } := by
  intro start usage bulkhead handed quit
  have began : start.Conserved 0 := Usage.Conserved.start policy
  have conserved : usage.Conserved 0 := began.run steps
  have ordered : usage.Ordered (Usage.along Usage.joins start steps) handed quit :=
    Usage.Ordered.run began (Usage.Ordered.start policy) steps
  have sorted := List.pairwise_append.mp ordered.ascending
  refine ⟨⟨ordered.numbered, ordered.numbered ▸ ordered.parts⟩, sorted.1,
    fun step ticket served => ordered.served conserved served, ?_, ?_⟩
  · intro ticket _ queued admitted
    rcases enter_cases bulkhead with free | ⟨busy, full⟩ | ⟨busy, room⟩
    · rw [conserved.busy free] at queued
      cases queued
    · rw [enter_of_full busy full] at admitted
      cases admitted
    · rw [enter_of_room busy room] at admitted
      cases admitted
  · intro step ticket forsaken unclaimed granted tickets
    have passed := Usage.after_forsaken conserved forsaken unclaimed
    split
    next queue =>
      rw [passed, release_of_empty]
      exact queue
    next oldest rest queue =>
      have first := sorted.2.1
      rw [queue, List.pairwise_cons] at first
      refine ⟨first.1, ?_⟩
      rw [passed, release_of_queue]
      exact queue

end Resilience.Bulkhead
