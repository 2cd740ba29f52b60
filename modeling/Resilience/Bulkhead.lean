import Resilience.Log
import Resilience.Policy.Basic
import Resilience.Slots

/-!
Bulkheads: slots for the invocations that run, and a bounded queue of callers who wait for one.
-/

namespace Resilience

/-- A bulkhead. Waiting callers are known by the numbers of their tickets. -/
structure Bulkhead extends Slots where
  policy : BulkheadPolicy
  /-- The number of the next ticket, without a bound: that 64 bits have no more numbers after
  `2 ^ 64` tickets is left out. -/
  nextTicket : Nat := 0
  deriving DecidableEq

inductive Admission where
  | admitted
  | queued (ticket : Nat)
  | full (inFlight max waiting : Nat)
  deriving DecidableEq, Repr

inductive Turn where
  /-- It was handed a slot, and takes it. -/
  | granted
  | pending
  /-- The caller gave up. -/
  | cancelled
  deriving DecidableEq, Repr

/-- The number of slots; there is always at least one. -/
def BulkheadPolicy.slots (policy : BulkheadPolicy) : Nat := max 1 policy.maxConcurrent.toNat

namespace Bulkhead

def ofPolicy (policy : BulkheadPolicy) : Bulkhead := { policy, free := policy.slots }

/-- The slots that are taken or handed over. -/
def inFlight (bulkhead : Bulkhead) : Nat := bulkhead.policy.slots - bulkhead.free

def waiting (bulkhead : Bulkhead) : Nat := bulkhead.queue.length

def enter (bulkhead : Bulkhead) : Admission × Bulkhead :=
  if 0 < bulkhead.free then (.admitted, { bulkhead with toSlots := bulkhead.take })
  else if bulkhead.policy.queueSize.toNat ≤ bulkhead.waiting then
    (.full bulkhead.inFlight bulkhead.policy.slots bulkhead.waiting, bulkhead)
  else
    (.queued bulkhead.nextTicket,
      { bulkhead with
        toSlots := bulkhead.join bulkhead.nextTicket, nextTicket := bulkhead.nextTicket + 1 })

def release (bulkhead : Bulkhead) : Bulkhead :=
  { bulkhead with toSlots := bulkhead.toSlots.release }

def leave (bulkhead : Bulkhead) (ticket : Nat) : Bulkhead :=
  { bulkhead with toSlots := bulkhead.toSlots.leave ticket }

/-- A waiting caller asks about its ticket. One who has given up leaves, even when a slot was
handed over. -/
def poll (bulkhead : Bulkhead) (ticket : Nat) (cancelled : Bool) : Turn × Bulkhead :=
  if cancelled then (.cancelled, bulkhead.leave ticket)
  else if bulkhead.isGranted ticket then
    (.granted, { bulkhead with toSlots := bulkhead.claim ticket })
  else (.pending, bulkhead)

def pollLines : Turn → List LogLine
  | .cancelled => [⟨.debug, "faultline::bulkhead", "bulkhead wait cancelled", []⟩]
  | .granted | .pending => []

end Bulkhead

end Resilience
