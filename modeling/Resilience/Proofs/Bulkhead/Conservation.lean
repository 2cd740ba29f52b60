import Mathlib.Data.List.Perm.Basic
import Mathlib.Data.List.Nodup
import Resilience.Proofs.Bulkhead.Usage

/-!
Slots are conserved: in every run of a bulkhead the free slots, the permits and the slots that
were handed over and not yet claimed make up all slots, and the queue holds exactly the live
tickets that still wait.
-/

namespace Resilience

/-- Offers a slot to callers in order. A caller who does not listen any more is passed over. -/
def Slots.offer (slots : Slots) (listens : Nat → Bool) : List Nat → Slots
  | [] => { slots with queue := [], free := slots.free + 1 }
  | caller :: rest =>
    if listens caller then { slots with queue := rest, granted := slots.granted ++ [caller] }
    else slots.offer listens rest

theorem Slots.offer_queue {slots : Slots} {listens : Nat → Bool}
    (listening : ∀ caller ∈ slots.queue, listens caller = true) :
    slots.offer listens slots.queue = slots.release := by
  unfold release
  cases queue : slots.queue with
  | nil => simp [offer, ← queue]
  | cons caller rest =>
    have heard := listening caller (by simp [queue])
    simp [offer, heard]

namespace Bulkhead

namespace Usage

/-- Nothing is lost and nothing is counted twice, up to a number of loose slots, which were taken
from their holders and not given back yet. -/
structure Conserved (usage : Usage) (loose : Nat) : Prop where
  slots : usage.bulkhead.free + usage.permits + usage.bulkhead.granted.length + loose =
    usage.bulkhead.policy.slots
  holders : usage.tickets.Perm (usage.bulkhead.queue ++ usage.bulkhead.granted)
  distinct : usage.tickets.Nodup
  issued : ∀ ticket ∈ usage.tickets, ticket < usage.bulkhead.nextTicket
  bounded : usage.bulkhead.queue.length ≤ usage.bulkhead.policy.queueSize.toNat
  busy : 0 < usage.bulkhead.free → usage.bulkhead.queue = []

namespace Conserved

variable {usage : Usage} {loose : Nat}

theorem apart (conserved : usage.Conserved loose) :
    (usage.bulkhead.queue ++ usage.bulkhead.granted).Nodup :=
  conserved.holders.nodup_iff.mp conserved.distinct

theorem mem_tickets (conserved : usage.Conserved loose) {ticket : Nat} :
    ticket ∈ usage.tickets ↔
      ticket ∈ usage.bulkhead.queue ∨ ticket ∈ usage.bulkhead.granted := by
  rw [conserved.holders.mem_iff, List.mem_append]

theorem not_granted_of_queued (conserved : usage.Conserved loose) {ticket : Nat}
    (queued : ticket ∈ usage.bulkhead.queue) : ticket ∉ usage.bulkhead.granted :=
  fun granted => (List.nodup_append.mp conserved.apart).2.2 ticket queued ticket granted rfl

theorem start (policy : BulkheadPolicy) : (Usage.start policy).Conserved 0 where
  slots := rfl
  holders := List.Perm.nil
  distinct := List.nodup_nil
  issued := by simp [Usage.start]
  bounded := Nat.zero_le _
  busy := fun _ => rfl

/-- A loose slot that is given back goes to the first ticket in the queue, or becomes free. -/
theorem release (conserved : usage.Conserved (loose + 1)) :
    Conserved { usage with bulkhead := usage.bulkhead.release } loose := by
  have slots := conserved.slots
  cases queue : usage.bulkhead.queue with
  | nil =>
    rw [release_of_empty queue]
    refine { conserved with slots := ?_, busy := fun _ => queue }
    simp only
    omega
  | cons ticket rest =>
    rw [release_of_queue queue]
    have holders := conserved.holders
    have bounded := conserved.bounded
    rw [queue] at holders bounded
    refine ⟨?_, ?_, conserved.distinct, conserved.issued, ?_, ?_⟩
    · simp only [List.length_append, List.length_singleton]
      omega
    · apply holders.trans
      rw [← List.append_assoc, List.cons_append]
      exact (List.perm_append_singleton ticket _).symm
    · exact Nat.le_of_succ_le bounded
    · intro free
      rw [conserved.busy free] at queue
      contradiction

theorem enter (conserved : usage.Conserved 0) : (usage.after .enter).Conserved 0 := by
  have slots := conserved.slots
  rcases enter_cases usage.bulkhead with free | ⟨busy, full⟩ | ⟨busy, room⟩
  · simp only [after, enter_of_free free]
    refine { conserved with slots := ?_, busy := fun _ => conserved.busy free }
    simp only
    omega
  · simp only [after, enter_of_full busy full]
    exact conserved
  · simp only [after, enter_of_room busy room]
    have fresh : usage.bulkhead.nextTicket ∉ usage.tickets := fun held =>
      Nat.lt_irrefl _ (conserved.issued _ held)
    refine ⟨slots, ?_, ?_, ?_, ?_, fun free => absurd free (by simp [busy])⟩
    · apply (conserved.holders.append_right [usage.bulkhead.nextTicket]).trans
      simp only [List.append_assoc]
      exact List.perm_append_comm.append_left _
    · exact List.nodup_append.mpr ⟨conserved.distinct, List.nodup_singleton _, by
        intro held member other same equal
        rw [List.mem_singleton] at same
        exact fresh (same ▸ equal ▸ member)⟩
    · intro ticket member
      rcases List.mem_append.mp member with held | new
      · exact Nat.lt_succ_of_lt (conserved.issued ticket held)
      · rw [List.mem_singleton] at new
        exact new ▸ Nat.lt_succ_self _
    · simp only [List.length_append, List.length_singleton]
      exact room

theorem dropPermit (conserved : usage.Conserved 0) : (usage.after .dropPermit).Conserved 0 := by
  have slots := conserved.slots
  by_cases held : 0 < usage.permits
  · rw [after, if_pos held]
    have loosened : Conserved { usage with permits := usage.permits - 1 } 1 := by
      refine { conserved with slots := ?_ }
      simp only
      omega
    exact loosened.release
  · rw [after, if_neg held]
    exact conserved

/-- A ticket that gives its place in the queue up leaves no slot behind. -/
theorem quit (conserved : usage.Conserved loose) {ticket : Nat}
    (queued : ticket ∈ usage.bulkhead.queue) :
    Conserved
      { usage with
        bulkhead := { usage.bulkhead with queue := usage.bulkhead.queue.erase ticket }
        tickets := usage.tickets.erase ticket } loose where
  slots := conserved.slots
  holders := by
    rw [← List.erase_append_left _ queued]
    exact conserved.holders.erase ticket
  distinct := conserved.distinct.erase ticket
  issued := fun other member => conserved.issued other (List.mem_of_mem_erase member)
  bounded := Nat.le_trans List.length_erase_le conserved.bounded
  busy := fun free => by
    rw [conserved.busy free] at queued
    contradiction

/-- A ticket that is used up after it was handed a slot leaves this slot loose. -/
theorem claim (conserved : usage.Conserved loose) {ticket : Nat}
    (granted : ticket ∈ usage.bulkhead.granted) :
    Conserved
      { usage with
        bulkhead := { usage.bulkhead with granted := usage.bulkhead.granted.erase ticket }
        tickets := usage.tickets.erase ticket } (loose + 1) where
  slots := by
    have slots := conserved.slots
    have length := List.length_erase_of_mem granted
    have positive := List.length_pos_of_mem granted
    simp only [length]
    omega
  holders := by
    have absent : ticket ∉ usage.bulkhead.queue := fun queued =>
      conserved.not_granted_of_queued queued granted
    rw [← List.erase_append_right _ absent]
    exact conserved.holders.erase ticket
  distinct := conserved.distinct.erase ticket
  issued := fun other member => conserved.issued other (List.mem_of_mem_erase member)
  bounded := conserved.bounded
  busy := conserved.busy

/-- A live ticket that is given up leaves the queue, or passes its slot on. -/
theorem leave (conserved : usage.Conserved 0) {ticket : Nat} (held : ticket ∈ usage.tickets) :
    Conserved
      { usage with
        bulkhead := usage.bulkhead.leave ticket, tickets := usage.tickets.erase ticket } 0 := by
  rcases conserved.mem_tickets.mp held with queued | granted
  · rw [leave_of_queued queued]
    exact conserved.quit queued
  · have absent : ticket ∉ usage.bulkhead.queue := fun queued =>
      conserved.not_granted_of_queued queued granted
    rw [leave_of_granted absent granted]
    exact (conserved.claim granted).release

theorem dropTicket (conserved : usage.Conserved 0) (ticket : Nat) :
    (usage.after (.dropTicket ticket)).Conserved 0 := by
  by_cases held : ticket ∈ usage.tickets
  · rw [after, if_pos held]
    exact conserved.leave held
  · rw [after, if_neg held]
    exact conserved

theorem wait (conserved : usage.Conserved 0) (ticket : Nat) (cancelled : Bool) :
    (usage.after (.wait ticket cancelled)).Conserved 0 := by
  by_cases held : ticket ∈ usage.tickets
  · rw [after, if_pos held]
    cases cancelled with
    | true =>
      rw [poll_of_cancelled]
      exact conserved.leave held
    | false =>
      by_cases granted : ticket ∈ usage.bulkhead.granted
      · rw [poll_of_granted granted]
        have loosened := conserved.claim granted
        have slots := loosened.slots
        refine { loosened with slots := ?_ }
        simp only at slots ⊢
        omega
      · rw [poll_of_waiting granted]
        exact conserved
  · rw [after, if_neg held]
    exact conserved

theorem after (conserved : usage.Conserved 0) (step : Step) :
    (usage.after step).Conserved 0 := by
  cases step with
  | enter => exact conserved.enter
  | dropPermit => exact conserved.dropPermit
  | dropTicket ticket => exact conserved.dropTicket ticket
  | wait ticket cancelled => exact conserved.wait ticket cancelled

theorem run (conserved : usage.Conserved 0) (steps : List Step) :
    (usage.run steps).Conserved 0 := by
  induction steps generalizing usage with
  | nil => exact conserved
  | cons step rest inductionHypothesis => exact inductionHypothesis (conserved.after step)

theorem inFlight_eq (conserved : usage.Conserved 0) :
    usage.bulkhead.inFlight = usage.permits + usage.bulkhead.granted.length := by
  have slots := conserved.slots
  unfold inFlight
  omega

/-- A caller is turned away exactly when all slots are taken and the queue is full. -/
theorem enter_eq_full_iff (conserved : usage.Conserved 0) (inFlight max waiting : Nat) :
    usage.bulkhead.enter.1 = .full inFlight max waiting ↔
      usage.permits + usage.bulkhead.granted.length = usage.bulkhead.policy.slots ∧
        usage.bulkhead.queue.length = usage.bulkhead.policy.queueSize.toNat ∧
        inFlight = usage.bulkhead.policy.slots ∧ max = usage.bulkhead.policy.slots ∧
        waiting = usage.bulkhead.policy.queueSize.toNat := by
  have slots := conserved.slots
  have bounded := conserved.bounded
  rcases enter_cases usage.bulkhead with free | ⟨busy, full⟩ | ⟨busy, room⟩
  · rw [enter_of_free free]
    refine ⟨fun admitted => Admission.noConfusion admitted, fun ⟨taken, _⟩ => ?_⟩
    omega
  · rw [enter_of_full busy full]
    have inFlight_slots : usage.bulkhead.inFlight = usage.bulkhead.policy.slots := by
      rw [conserved.inFlight_eq]
      omega
    have length : usage.bulkhead.queue.length = usage.bulkhead.policy.queueSize.toNat :=
      Nat.le_antisymm bounded full
    simp only [Admission.full.injEq, inFlight_slots, length]
    constructor
    · rintro ⟨rfl, rfl, rfl⟩
      exact ⟨by omega, trivial, rfl, rfl, rfl⟩
    · rintro ⟨-, -, rfl, rfl, rfl⟩
      exact ⟨rfl, rfl, rfl⟩
  · rw [enter_of_room busy room]
    refine ⟨fun queued => Admission.noConfusion queued, fun ⟨_, full, _⟩ => ?_⟩
    omega

end Conserved

end Usage

/-- In every reachable state of a bulkhead the free slots, the live permits and the live tickets
that were handed a slot make up all slots; the queue holds exactly the live tickets that were not
handed one, each once, within its bound, and is empty while a slot is free. So every grant reaches
a caller who listens, and a caller who has to wait on stands in the queue. -/
theorem slots_conserved (policy : BulkheadPolicy) (steps : List Step) :
    let usage := (Usage.start policy).run steps
    let bulkhead := usage.bulkhead
    let limit := max 1 policy.maxConcurrent.toNat
    (bulkhead.free + usage.permits + bulkhead.granted.length = limit ∧
      bulkhead.granted.Nodup ∧ ∀ ticket ∈ bulkhead.granted, ticket ∈ usage.tickets) ∧
    (bulkhead.queue.Nodup ∧ ∀ ticket,
      ticket ∈ bulkhead.queue ↔ ticket ∈ usage.tickets ∧ ticket ∉ bulkhead.granted) ∧
    bulkhead.queue.length ≤ policy.queueSize.toNat ∧
    (0 < bulkhead.free → bulkhead.queue = []) ∧
    (bulkhead.inFlight = usage.permits + bulkhead.granted.length ∧ bulkhead.inFlight ≤ limit) ∧
    (∀ inFlight max waiting, bulkhead.enter.1 = .full inFlight max waiting ↔
      usage.permits + bulkhead.granted.length = limit ∧
        bulkhead.queue.length = policy.queueSize.toNat ∧
        inFlight = limit ∧ max = limit ∧ waiting = policy.queueSize.toNat) ∧
    (usage.permits = 0 → usage.tickets = [] → bulkhead.free = limit) ∧
    (∀ slots : Slots, slots.queue = bulkhead.queue →
      slots.offer (fun ticket => ticket ∈ usage.tickets) slots.queue = slots.release) ∧
    ∀ ticket ∈ usage.tickets,
      (bulkhead.poll ticket false).1 = .pending → ticket ∈ bulkhead.queue := by
  intro usage bulkhead limit
  have conserved : usage.Conserved 0 := (Usage.Conserved.start policy).run steps
  have same : bulkhead.policy = policy := Usage.run_policy (Usage.start policy) steps
  have slots : bulkhead.free + usage.permits + bulkhead.granted.length = limit := by
    have slots := conserved.slots
    rw [same] at slots
    exact slots
  have taken : bulkhead.inFlight = usage.permits + bulkhead.granted.length :=
    conserved.inFlight_eq
  have parts := List.nodup_append.mp conserved.apart
  refine ⟨⟨slots, parts.2.1, fun ticket granted => conserved.mem_tickets.mpr (.inr granted)⟩,
    ⟨parts.1, fun ticket => ⟨fun queued => ?_, fun ⟨held, waits⟩ => ?_⟩⟩, same ▸ conserved.bounded,
    conserved.busy, ⟨taken, ?_⟩, fun inFlight max waiting => ?_,
    fun noPermit noTicket => ?_, fun slots queue => ?_, fun ticket held pending => ?_⟩
  · exact ⟨conserved.mem_tickets.mpr (.inl queued), conserved.not_granted_of_queued queued⟩
  · exact (conserved.mem_tickets.mp held).resolve_right waits
  · rw [taken]
    omega
  · have full := conserved.enter_eq_full_iff inFlight max waiting
    rw [same] at full
    exact full
  · have holders : [] = bulkhead.queue ++ bulkhead.granted :=
      List.nil_perm.mp (noTicket ▸ conserved.holders) |>.symm
    have none : bulkhead.granted = [] := (List.append_eq_nil_iff.mp holders.symm).2
    rw [noPermit, none, List.length_nil] at slots
    exact slots
  · apply Slots.offer_queue
    intro caller queued
    rw [queue] at queued
    exact decide_eq_true (conserved.mem_tickets.mpr (.inl queued))
  · apply (conserved.mem_tickets.mp held).resolve_right
    intro granted
    rw [poll_of_granted granted] at pending
    exact Turn.noConfusion pending

end Bulkhead

end Resilience
