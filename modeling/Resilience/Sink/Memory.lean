import Resilience.Event

/-!
A sink that keeps the newest events. It holds at most its capacity and counts what it dropped.
-/

namespace Resilience

structure MemorySink where
  capacity : Nat := 10000
  events : List OperationEvent := []
  /-- How many events made way for newer ones, without a bound: that a counter of 64 bits starts
  again from zero after `2 ^ 64` of them is left out. -/
  evicted : Nat := 0

namespace MemorySink

def ofCapacity (capacity : Nat) : MemorySink := { capacity := max capacity 1 }

/-- Takes an event in; the oldest makes way in a full sink. -/
def send (sink : MemorySink) (occurrence : OperationEvent) : MemorySink :=
  if sink.capacity ≤ sink.events.length then
    { sink with events := sink.events.tail ++ [occurrence], evicted := sink.evicted + 1 }
  else { sink with events := sink.events ++ [occurrence] }

def clear (sink : MemorySink) : MemorySink := { sink with events := [] }

def eventsFor (sink : MemorySink) (operation : OperationId) : List OperationEvent :=
  sink.events.filter fun occurrence => occurrence.operation = operation

@[simp] theorem events_clear (sink : MemorySink) : sink.clear.events = [] := rfl

@[simp] theorem evicted_clear (sink : MemorySink) : sink.clear.evicted = sink.evicted := rfl

@[simp] theorem capacity_send (sink : MemorySink) (occurrence : OperationEvent) :
    (sink.send occurrence).capacity = sink.capacity := by
  unfold send
  split <;> rfl

end MemorySink

end Resilience
