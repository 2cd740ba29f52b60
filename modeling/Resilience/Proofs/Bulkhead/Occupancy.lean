import Resilience.Engine.Task
import Resilience.Proofs.Bulkhead.Conservation

/-!
Occupancy: whom the slots and the tickets in the bulkheads of an operation belong to. Every taken
slot has one holder and every live ticket one waiter, each with its place in that bulkhead, so a
bulkhead in which nobody has a place is as it was in the beginning.
-/

namespace Resilience

def Admission.place? (index : Nat) : Admission → Option Place
  | admitted => some (.slot index)
  | queued ticket => some (.ticket index ticket)
  | full .. => none

theorem Admission.bulkhead_of_place {index : Nat} {admission : Admission} {place : Place}
    (given : admission.place? index = some place) : place.bulkhead = index := by
  cases admission <;> cases given <;> rfl

namespace Bulkhead

theorem Usage.Conserved.reorder {usage : Usage} {loose : Nat} (conserved : usage.Conserved loose)
    {tickets : List Nat} (same : tickets.Perm usage.tickets) :
    Usage.Conserved { usage with tickets } loose where
  slots := conserved.slots
  holders := same.trans conserved.holders
  distinct := same.nodup_iff.mpr conserved.distinct
  issued ticket member := conserved.issued ticket (same.mem_iff.mp member)
  bounded := conserved.bounded
  busy := conserved.busy

structure Seated (index : Nat) (bulkhead : Bulkhead) (place : TaskId → Option Place)
    (holders : List TaskId) (waiters : List (TaskId × Nat)) : Prop where
  distinct : holders.Nodup
  holds : ∀ id, id ∈ holders ↔ place id = some (.slot index)
  waits : ∀ id ticket, (id, ticket) ∈ waiters ↔ place id = some (.ticket index ticket)
  conserved : Usage.Conserved ⟨bulkhead, holders.length, waiters.map Prod.snd⟩ 0

namespace Seated

variable {index ticket : Nat} {bulkhead : Bulkhead} {place later : TaskId → Option Place}
  {holders : List TaskId} {waiters : List (TaskId × Nat)} {id : TaskId}

theorem start (policy : BulkheadPolicy) (empty : ∀ id taken, place id = some taken →
    taken.bulkhead ≠ index) : Seated index (.ofPolicy policy) place [] [] where
  distinct := List.nodup_nil
  holds id := by
    refine ⟨fun none => absurd none List.not_mem_nil, fun taken => ?_⟩
    exact absurd rfl (empty id _ taken)
  waits id ticket := by
    refine ⟨fun none => absurd none List.not_mem_nil, fun taken => ?_⟩
    exact absurd rfl (empty id _ taken)
  conserved := .start policy

theorem congr (seated : Seated index bulkhead place holders waiters)
    (same : ∀ id (taken : Place), taken.bulkhead = index →
      (later id = some taken ↔ place id = some taken)) :
    Seated index bulkhead later holders waiters where
  distinct := seated.distinct
  holds id := (seated.holds id).trans (same id _ rfl).symm
  waits id ticket := (seated.waits id ticket).trans (same id _ rfl).symm
  conserved := seated.conserved

theorem distinct_waiters (seated : Seated index bulkhead place holders waiters) :
    waiters.Nodup :=
  seated.conserved.distinct.of_map Prod.snd

theorem holds_cons (seated : Seated index bulkhead place holders waiters) (other : TaskId) :
    other ∈ id :: holders ↔
      Function.update place id (some (.slot index)) other = some (.slot index) := by
  by_cases same : other = id
  · simp [same]
  · rw [Function.update_of_ne same, ← seated.holds other, List.mem_cons, or_iff_right same]

theorem waits_erase (seated : Seated index bulkhead place holders waiters)
    (held : place id = some (.ticket index ticket)) {taken : Option Place}
    (used : ∀ number, taken ≠ some (.ticket index number)) (other : TaskId) (number : Nat) :
    (other, number) ∈ waiters.erase (id, ticket) ↔
      Function.update place id taken other = some (.ticket index number) := by
  rw [seated.distinct_waiters.mem_erase_iff, seated.waits other number]
  by_cases same : other = id
  · subst same
    rw [Function.update_self, held]
    refine ⟨fun ⟨differs, found⟩ => ?_, fun found => absurd found (used number)⟩
    cases found
    exact absurd rfl differs
  · rw [Function.update_of_ne same]
    have differs : (other, number) ≠ (id, ticket) := fun equal => same (congrArg Prod.fst equal)
    exact and_iff_right differs

theorem tickets_erase (seated : Seated index bulkhead place holders waiters)
    (held : place id = some (.ticket index ticket)) :
    ((waiters.erase (id, ticket)).map Prod.snd).Perm ((waiters.map Prod.snd).erase ticket) := by
  have member : (id, ticket) ∈ waiters := (seated.waits id ticket).mpr held
  have split := ((List.perm_cons_erase member).map Prod.snd).erase ticket
  rw [List.map_cons, List.erase_cons_head] at split
  exact split.symm

theorem ticket_mem (seated : Seated index bulkhead place holders waiters)
    (held : place id = some (.ticket index ticket)) : ticket ∈ waiters.map Prod.snd :=
  List.mem_map.mpr ⟨(id, ticket), (seated.waits id ticket).mpr held, rfl⟩

theorem seat (seated : Seated index bulkhead place holders waiters) (outside : place id = none)
    (free : 0 < bulkhead.free) :
    Seated index { bulkhead with free := bulkhead.free - 1 }
      (Function.update place id (some (.slot index))) (id :: holders) waiters where
  distinct := by
    refine List.nodup_cons.mpr ⟨fun member => ?_, seated.distinct⟩
    rw [seated.holds, outside] at member
    cases member
  holds := seated.holds_cons
  waits other number := by
    rw [seated.waits]
    by_cases same : other = id
    · simp [same, outside]
    · rw [Function.update_of_ne same]
  conserved := by
    have entered := seated.conserved.enter
    simp only [Usage.after, enter_of_free free] at entered
    exact entered

theorem queue (seated : Seated index bulkhead place holders waiters) (outside : place id = none)
    (busy : bulkhead.free = 0)
    (room : bulkhead.queue.length < bulkhead.policy.queueSize.toNat) :
    Seated index
      { bulkhead with
        queue := bulkhead.queue ++ [bulkhead.nextTicket]
        nextTicket := bulkhead.nextTicket + 1 }
      (Function.update place id (some (.ticket index bulkhead.nextTicket))) holders
      (waiters ++ [(id, bulkhead.nextTicket)]) where
  distinct := seated.distinct
  holds other := by
    rw [seated.holds]
    by_cases same : other = id
    · simp [same, outside]
    · rw [Function.update_of_ne same]
  waits other number := by
    rw [List.mem_append, seated.waits]
    by_cases same : other = id
    · simp [same, outside, eq_comm]
    · simp [same]
  conserved := by
    have entered := seated.conserved.enter
    simp only [Usage.after, enter_of_room busy room] at entered
    rw [List.map_append]
    exact entered

theorem enter (seated : Seated index bulkhead place holders waiters) (outside : place id = none) :
    ∃ holders waiters, Seated index bulkhead.enter.2
      (Function.update place id (bulkhead.enter.1.place? index)) holders waiters := by
  rcases enter_cases bulkhead with free | ⟨busy, full⟩ | ⟨busy, room⟩
  · rw [enter_of_free free]
    exact ⟨_, _, seated.seat outside free⟩
  · rw [enter_of_full busy full]
    have same : Function.update place id none = place :=
      Function.update_eq_self_iff.mpr outside.symm
    refine ⟨holders, waiters, ?_⟩
    rw [Admission.place?, same]
    exact seated
  · rw [enter_of_room busy room]
    exact ⟨_, _, seated.queue outside busy room⟩

theorem vacate (seated : Seated index bulkhead place holders waiters)
    (held : place id = some (.slot index)) :
    Seated index bulkhead.release (Function.update place id none) (holders.erase id) waiters where
  distinct := seated.distinct.erase id
  holds other := by
    rw [seated.distinct.mem_erase_iff, seated.holds]
    by_cases same : other = id
    · simp [same]
    · simp [same]
  waits other number := by
    rw [seated.waits]
    by_cases same : other = id
    · simp [same, held]
    · rw [Function.update_of_ne same]
  conserved := by
    have member := (seated.holds id).mpr held
    have released := seated.conserved.dropPermit
    rw [Usage.after, if_pos (List.length_pos_of_mem member)] at released
    rw [List.length_erase_of_mem member]
    exact released

theorem quit (seated : Seated index bulkhead place holders waiters)
    (held : place id = some (.ticket index ticket)) :
    Seated index (bulkhead.leave ticket) (Function.update place id none) holders
      (waiters.erase (id, ticket)) where
  distinct := seated.distinct
  holds other := by
    rw [seated.holds]
    by_cases same : other = id
    · simp [same, held]
    · rw [Function.update_of_ne same]
  waits := seated.waits_erase held nofun
  conserved := (seated.conserved.leave (seated.ticket_mem held)).reorder (seated.tickets_erase held)

theorem giveBack (seated : Seated index bulkhead place holders waiters) {taken : Place}
    (held : place id = some taken) (here : taken.bulkhead = index) :
    ∃ holders waiters, Seated index (taken.giveBack bulkhead) (Function.update place id none)
      holders waiters := by
  subst here
  cases taken with
  | slot index => exact ⟨_, _, seated.vacate held⟩
  | ticket index number => exact ⟨_, _, seated.quit held⟩

/-- A waiter who was handed a slot becomes a holder. -/
theorem claim (seated : Seated index bulkhead place holders waiters)
    (held : place id = some (.ticket index ticket)) (granted : ticket ∈ bulkhead.granted) :
    Seated index { bulkhead with granted := bulkhead.granted.erase ticket }
      (Function.update place id (some (.slot index))) (id :: holders)
      (waiters.erase (id, ticket)) where
  distinct := by
    refine List.nodup_cons.mpr ⟨fun member => ?_, seated.distinct⟩
    rw [seated.holds, held] at member
    cases member
  holds := seated.holds_cons
  waits := seated.waits_erase held nofun
  conserved := by
    have claimed := seated.conserved.wait ticket false
    rw [Usage.after, if_pos (seated.ticket_mem held), poll_of_granted granted] at claimed
    exact claimed.reorder (seated.tickets_erase held)

theorem idle (seated : Seated index bulkhead place holders waiters)
    (empty : ∀ id, place id = none) : bulkhead.inFlight = 0 ∧ bulkhead.queue = [] := by
  have noHolder : holders = [] := by
    apply List.eq_nil_iff_forall_not_mem.mpr
    intro id member
    rw [seated.holds, empty] at member
    cases member
  have noWaiter : waiters = [] := by
    apply List.eq_nil_iff_forall_not_mem.mpr
    intro ⟨id, number⟩ member
    rw [seated.waits, empty] at member
    cases member
  have conserved := seated.conserved
  rw [noHolder, noWaiter] at conserved
  obtain ⟨queue, granted⟩ := List.append_eq_nil_iff.mp (List.nil_perm.mp conserved.holders)
  refine ⟨?_, queue⟩
  have taken := conserved.inFlight_eq
  rw [granted] at taken
  exact taken

/-- The waiters who were handed a slot that they did not claim yet. -/
theorem handed (seated : Seated index bulkhead place holders waiters) :
    ∃ handed : List TaskId, (holders ++ handed).Nodup ∧
      handed.length = bulkhead.granted.length ∧
        ∀ id, id ∈ handed ↔
          ∃ ticket ∈ bulkhead.granted, place id = some (.ticket index ticket) := by
  let granted := waiters.filter fun waiter => waiter.2 ∈ bulkhead.granted
  have mem_granted (id : TaskId) (ticket : Nat) : (id, ticket) ∈ granted ↔
      place id = some (.ticket index ticket) ∧ ticket ∈ bulkhead.granted := by
    simp [granted, seated.waits]
  have mem_handed (id : TaskId) : id ∈ granted.map Prod.fst ↔
      ∃ ticket ∈ bulkhead.granted, place id = some (.ticket index ticket) := by
    constructor
    · intro member
      obtain ⟨⟨other, ticket⟩, found, rfl⟩ := List.mem_map.mp member
      obtain ⟨held, handed⟩ := (mem_granted other ticket).mp found
      exact ⟨ticket, handed, held⟩
    · rintro ⟨ticket, handed, held⟩
      exact List.mem_map.mpr ⟨(id, ticket), (mem_granted id ticket).mpr ⟨held, handed⟩, rfl⟩
  refine ⟨granted.map Prod.fst, List.nodup_append.mpr ⟨seated.distinct, ?_, ?_⟩, ?_, mem_handed⟩
  · -- A task has one place, so it stands among the waiters once.
    refine (seated.distinct_waiters.filter _).map_on ?_
    rintro ⟨id, ticket⟩ first ⟨other, number⟩ second rfl
    have held := ((mem_granted _ _).mp first).1
    rw [((mem_granted _ _).mp second).1] at held
    cases held
    rfl
  · rintro id holder other member rfl
    obtain ⟨ticket, -, held⟩ := (mem_handed id).mp member
    rw [(seated.holds id).mp holder] at held
    cases held
  · have taken : (waiters.map Prod.snd).filter (· ∈ bulkhead.granted) =
        granted.map Prod.snd := List.filter_map
    have queued : bulkhead.queue.filter (· ∈ bulkhead.granted) = [] := by
      apply List.filter_eq_nil_iff.mpr
      intro ticket member
      simpa using seated.conserved.not_granted_of_queued member
    have kept : bulkhead.granted.filter (· ∈ bulkhead.granted) = bulkhead.granted :=
      List.filter_eq_self.mpr fun ticket member => decide_eq_true member
    have holders := seated.conserved.holders.filter (· ∈ bulkhead.granted)
    rw [List.filter_append, queued, kept, List.nil_append, taken] at holders
    rw [List.length_map, ← List.length_map (f := Prod.snd)]
    exact holders.length_eq

end Seated

/-- Whether places are in existing bulkheads, and all that is taken there belongs to them. -/
structure Occupied (hall : List Bulkhead) (place : TaskId → Option Place) : Prop where
  within : ∀ id taken, place id = some taken → taken.bulkhead < hall.length
  seated : ∀ index bulkhead, hall[index]? = some bulkhead →
    ∃ holders waiters, Seated index bulkhead place holders waiters

namespace Occupied

variable {hall : List Bulkhead} {place : TaskId → Option Place} {id : TaskId} {index : Nat}
  {bulkhead : Bulkhead}

theorem start (empty : ∀ id, place id = none) : Occupied [] place where
  within id taken held := by
    rw [empty] at held
    cases held
  seated _ _ found := by cases found

theorem build (occupied : Occupied hall place) (policy : BulkheadPolicy) :
    Occupied (hall ++ [.ofPolicy policy]) place where
  within id taken held := by
    rw [List.length_append]
    exact Nat.lt_add_right 1 (occupied.within id taken held)
  seated index bulkhead found := by
    by_cases old : index < hall.length
    · rw [List.getElem?_append_left old] at found
      exact occupied.seated index bulkhead found
    · rw [List.getElem?_append_right (Nat.not_lt.mp old)] at found
      have new : bulkhead = .ofPolicy policy := List.mem_singleton.mp (List.mem_of_getElem? found)
      refine ⟨[], [], new ▸ .start policy fun id taken held => ?_⟩
      exact Nat.ne_of_lt (Nat.lt_of_lt_of_le (occupied.within id taken held) (Nat.not_lt.mp old))

theorem change (occupied : Occupied hall place) (found : hall[index]? = some bulkhead)
    {alter : Bulkhead → Bulkhead} {next : Option Place}
    (before : ∀ taken, place id = some taken → taken.bulkhead = index)
    (after : ∀ taken, next = some taken → taken.bulkhead = index)
    (seated : ∃ holders waiters, Seated index (alter bulkhead) (Function.update place id next)
      holders waiters) :
    Occupied (hall.modify index alter) (Function.update place id next) where
  within other taken held := by
    rw [List.length_modify]
    by_cases same : other = id
    · rw [same, Function.update_self] at held
      rw [after taken held]
      exact (List.getElem?_eq_some_iff.mp found).1
    · rw [Function.update_of_ne same] at held
      exact occupied.within other taken held
  seated position other there := by
    rw [List.getElem?_modify] at there
    obtain ⟨present, old, same⟩ := Option.map_eq_some_iff.mp there
    by_cases here : index = position
    · subst here
      cases found.symm.trans old
      rw [if_pos rfl] at same
      exact same ▸ seated
    · rw [if_neg here] at same
      obtain ⟨holders, waiters, seated⟩ := occupied.seated position present old
      refine ⟨holders, waiters, same ▸ seated.congr fun other taken located => ?_⟩
      by_cases mine : other = id
      · rw [mine, Function.update_self]
        constructor
        · intro held
          exact absurd ((after taken held).symm.trans located) here
        · intro held
          exact absurd ((before taken held).symm.trans located) here
      · rw [Function.update_of_ne mine]

theorem enter (occupied : Occupied hall place) (outside : place id = none)
    (found : hall[index]? = some bulkhead) :
    Occupied (hall.modify index fun _ => bulkhead.enter.2)
      (Function.update place id (bulkhead.enter.1.place? index)) := by
  obtain ⟨holders, waiters, seated⟩ := occupied.seated index bulkhead found
  refine occupied.change found (fun taken held => ?_)
    (fun taken => Admission.bulkhead_of_place) (seated.enter outside)
  rw [outside] at held
  cases held

theorem giveBack (occupied : Occupied hall place) {taken : Place} (held : place id = some taken) :
    Occupied (hall.modify taken.bulkhead taken.giveBack) (Function.update place id none) := by
  have within := occupied.within id taken held
  obtain ⟨holders, waiters, seated⟩ := occupied.seated _ _ (List.getElem?_eq_getElem within)
  refine occupied.change (List.getElem?_eq_getElem within) (fun other same => ?_) nofun
    (seated.giveBack held rfl)
  rw [Option.some.inj (held.symm.trans same)]

/-- A ticket that is looked at stays, becomes a slot, or is given up. -/
theorem poll (occupied : Occupied hall place) {ticket : Nat}
    (held : place id = some (.ticket index ticket)) (found : hall[index]? = some bulkhead)
    (cancelled : Bool) :
    Occupied (hall.modify index fun bulkhead => (bulkhead.poll ticket cancelled).2)
      (Function.update place id (match (bulkhead.poll ticket cancelled).1 with
        | .granted => some (.slot index)
        | .pending => some (.ticket index ticket)
        | .cancelled => none)) := by
  obtain ⟨holders, waiters, seated⟩ := occupied.seated index bulkhead found
  have before (taken : Place) (same : place id = some taken) : taken.bulkhead = index := by
    cases held.symm.trans same
    rfl
  cases cancelled with
  | true => exact occupied.change found before nofun ⟨_, _, seated.quit held⟩
  | false =>
    by_cases granted : ticket ∈ bulkhead.granted
    · refine occupied.change found before ?_ ?_
      · rw [poll_of_granted granted]
        rintro taken ⟨⟩
        rfl
      · rw [poll_of_granted granted]
        exact ⟨_, _, seated.claim held granted⟩
    · refine occupied.change found before ?_ ?_
      · rw [poll_of_waiting granted]
        rintro taken ⟨⟩
        rfl
      · rw [poll_of_waiting granted, ← held, Function.update_eq_self]
        exact ⟨_, _, seated⟩

end Occupied

end Bulkhead

end Resilience
