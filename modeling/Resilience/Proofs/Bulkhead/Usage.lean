import Resilience.Bulkhead

/-!
Runs of a bulkhead. A usage is a bulkhead with everything that its callers hold: permits, and
tickets that stand in the queue or were handed a slot. Callers can only give back what they hold,
and in any order.
-/

namespace Resilience.Bulkhead

/-- A bulkhead with the permits and the tickets that are alive. -/
structure Usage where
  bulkhead : Bulkhead
  permits : Nat := 0
  tickets : List Nat := []
  deriving DecidableEq

/-- What a caller can do. -/
inductive Step where
  | enter
  | dropPermit
  | dropTicket (ticket : Nat)
  /-- Looks at a ticket, for a caller who has given up or not. -/
  | wait (ticket : Nat) (cancelled : Bool)
  deriving DecidableEq, Repr

namespace Usage

/-- A bulkhead that nobody uses yet. -/
def start (policy : BulkheadPolicy) : Usage := { bulkhead := .ofPolicy policy }

/-- The usage after a step. A ticket is used up when it turns into a permit and when its caller
gives up. -/
def after (usage : Usage) : Step → Usage
  | .enter =>
    let (admission, bulkhead) := usage.bulkhead.enter
    match admission with
    | .admitted => { usage with bulkhead, permits := usage.permits + 1 }
    | .queued ticket => { usage with bulkhead, tickets := usage.tickets ++ [ticket] }
    | .full .. => { usage with bulkhead }
  | .dropPermit =>
    if 0 < usage.permits then
      { usage with bulkhead := usage.bulkhead.release, permits := usage.permits - 1 }
    else usage
  | .dropTicket ticket =>
    if ticket ∈ usage.tickets then
      { usage with
        bulkhead := usage.bulkhead.leave ticket, tickets := usage.tickets.erase ticket }
    else usage
  | .wait ticket cancelled =>
    if ticket ∈ usage.tickets then
      let (turn, bulkhead) := usage.bulkhead.poll ticket cancelled
      match turn with
      | .granted =>
        { bulkhead, permits := usage.permits + 1, tickets := usage.tickets.erase ticket }
      | .cancelled => { usage with bulkhead, tickets := usage.tickets.erase ticket }
      | .pending => { usage with bulkhead }
    else usage

def run (usage : Usage) (steps : List Step) : Usage := steps.foldl after usage

@[simp] theorem run_nil (usage : Usage) : usage.run [] = usage := rfl

@[simp] theorem run_cons (usage : Usage) (step : Step) (rest : List Step) :
    usage.run (step :: rest) = (usage.after step).run rest := rfl

end Usage

variable {bulkhead : Bulkhead}

theorem enter_of_free (free : 0 < bulkhead.free) :
    bulkhead.enter = (.admitted, { bulkhead with free := bulkhead.free - 1 }) := by
  simp [enter, free, Slots.take]

theorem enter_of_full (busy : bulkhead.free = 0)
    (full : bulkhead.policy.queueSize.toNat ≤ bulkhead.queue.length) :
    bulkhead.enter =
      (.full bulkhead.inFlight bulkhead.policy.slots bulkhead.queue.length, bulkhead) := by
  simp [enter, busy, waiting, full]

theorem enter_of_room (busy : bulkhead.free = 0)
    (room : bulkhead.queue.length < bulkhead.policy.queueSize.toNat) :
    bulkhead.enter = (.queued bulkhead.nextTicket,
      { bulkhead with
        queue := bulkhead.queue ++ [bulkhead.nextTicket]
        nextTicket := bulkhead.nextTicket + 1 }) := by
  simp [enter, busy, waiting, Nat.not_le.mpr room, Slots.join]

theorem enter_cases (bulkhead : Bulkhead) :
    0 < bulkhead.free ∨
      bulkhead.free = 0 ∧ bulkhead.policy.queueSize.toNat ≤ bulkhead.queue.length ∨
      bulkhead.free = 0 ∧ bulkhead.queue.length < bulkhead.policy.queueSize.toNat := by
  omega

theorem release_of_empty (empty : bulkhead.queue = []) :
    bulkhead.release = { bulkhead with free := bulkhead.free + 1 } := by
  simp [release, Slots.release, empty]

theorem release_of_queue {ticket : Nat} {rest : List Nat}
    (queue : bulkhead.queue = ticket :: rest) :
    bulkhead.release =
      { bulkhead with queue := rest, granted := bulkhead.granted ++ [ticket] } := by
  simp [release, Slots.release, queue]

theorem leave_of_queued {ticket : Nat} (queued : ticket ∈ bulkhead.queue) :
    bulkhead.leave ticket = { bulkhead with queue := bulkhead.queue.erase ticket } := by
  simp [leave, Slots.leave, queued]

theorem leave_of_granted {ticket : Nat} (absent : ticket ∉ bulkhead.queue)
    (granted : ticket ∈ bulkhead.granted) :
    bulkhead.leave ticket =
      release { bulkhead with granted := bulkhead.granted.erase ticket } := by
  simp [leave, Slots.leave, absent, granted, Slots.claim, release]

theorem poll_of_cancelled (ticket : Nat) :
    bulkhead.poll ticket true = (.cancelled, bulkhead.leave ticket) := rfl

theorem poll_of_granted {ticket : Nat} (granted : ticket ∈ bulkhead.granted) :
    bulkhead.poll ticket false =
      (.granted, { bulkhead with granted := bulkhead.granted.erase ticket }) := by
  simp [poll, Slots.isGranted, granted, Slots.claim]

theorem poll_of_waiting {ticket : Nat} (waits : ticket ∉ bulkhead.granted) :
    bulkhead.poll ticket false = (.pending, bulkhead) := by
  simp [poll, Slots.isGranted, waits]

theorem poll_of_pending {ticket : Nat} {cancelled : Bool}
    (turn : (bulkhead.poll ticket cancelled).1 = .pending) :
    (bulkhead.poll ticket cancelled).2 = bulkhead := by
  unfold poll at turn ⊢
  split at turn
  · cases turn
  next going =>
    rw [if_neg going]
    split at turn
    · cases turn
    next waits => rw [if_neg waits]

@[simp] theorem policy_release (bulkhead : Bulkhead) : bulkhead.release.policy = bulkhead.policy :=
  rfl

@[simp] theorem policy_leave (bulkhead : Bulkhead) (ticket : Nat) :
    (bulkhead.leave ticket).policy = bulkhead.policy :=
  rfl

@[simp] theorem policy_enter (bulkhead : Bulkhead) :
    bulkhead.enter.2.policy = bulkhead.policy := by
  unfold enter
  split
  · rfl
  · split <;> rfl

@[simp] theorem policy_poll (bulkhead : Bulkhead) (ticket : Nat) (cancelled : Bool) :
    (bulkhead.poll ticket cancelled).2.policy = bulkhead.policy := by
  unfold poll
  split
  · rfl
  · split <;> rfl

namespace Usage

@[simp] theorem after_policy (usage : Usage) (step : Step) :
    (usage.after step).bulkhead.policy = usage.bulkhead.policy := by
  cases step with
  | enter =>
    rw [← policy_enter usage.bulkhead, after]
    split
    next equal => split <;> simp [equal]
  | dropPermit =>
    rw [after]
    split <;> simp
  | dropTicket ticket =>
    rw [after]
    split <;> simp
  | wait ticket cancelled =>
    rw [← policy_poll usage.bulkhead ticket cancelled, after]
    split
    · split
      next equal => split <;> simp [equal]
    · simp

theorem run_policy (usage : Usage) (steps : List Step) :
    (usage.run steps).bulkhead.policy = usage.bulkhead.policy := by
  induction steps generalizing usage with
  | nil => rfl
  | cons step rest inductionHypothesis =>
    rw [run_cons, inductionHypothesis, after_policy]

end Usage

end Resilience.Bulkhead
