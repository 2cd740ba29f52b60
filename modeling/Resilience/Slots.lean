/-!
Slots that are handed to callers in the order in which they came. A slot that is given back goes
to the first caller in the queue, and becomes free only when nobody waits; so no slot is free
while somebody waits.
-/

namespace Resilience

/-- Free slots and the callers who wait for one. Callers are known by numbers. -/
structure Slots where
  free : Nat := 0
  /-- The callers who wait, the oldest first. -/
  queue : List Nat := []
  /-- The callers who were handed a slot and did not claim it yet. -/
  granted : List Nat := []
  deriving DecidableEq, Repr

namespace Slots

/-- Gives a slot back: the oldest waiting caller gets it. -/
def release (slots : Slots) : Slots :=
  match slots.queue with
  | caller :: rest => { slots with queue := rest, granted := slots.granted ++ [caller] }
  | [] => { slots with free := slots.free + 1 }

def take (slots : Slots) : Slots := { slots with free := slots.free - 1 }

def join (slots : Slots) (caller : Nat) : Slots := { slots with queue := slots.queue ++ [caller] }

def isGranted (slots : Slots) (caller : Nat) : Bool := slots.granted.contains caller

def claim (slots : Slots) (caller : Nat) : Slots :=
  { slots with granted := slots.granted.erase caller }

/-- Gives a wait up. A slot that was handed over goes on to the next caller. -/
def leave (slots : Slots) (caller : Nat) : Slots :=
  if caller ∈ slots.queue then { slots with queue := slots.queue.erase caller }
  else if caller ∈ slots.granted then (slots.claim caller).release
  else slots

def grantedSince (before after : Slots) : List Nat :=
  after.granted.filter fun caller => !before.granted.contains caller

end Slots

end Resilience
