import Resilience.Event
import Resilience.Table

/-!
A sink that hands every event to all its receivers. Each receiver reads at its own pace from a
buffer of the newest events; one that falls too far behind is told how many it lost.
-/

namespace Resilience

/-- The buffer and the receivers, each with the number of the event that it reads next. -/
structure StreamingSink where
  /-- The room of the buffer, a power of two. -/
  room : Nat
  /-- How many events went to receivers. -/
  sent : Nat := 0
  /-- The newest of them, the oldest first. -/
  buffer : List OperationEvent := []
  receivers : Table String Nat := {}
  /-- How many events nobody received. This and `sent` have no bound: that counters of 64 bits start
  again from zero is left out. -/
  dropped : Nat := 0

inductive Reception where
  | event (occurrence : OperationEvent)
  | empty
  | lagged (missed : Nat)
  | unknown
  deriving DecidableEq, Repr

namespace StreamingSink

/-- The least power of two that is not below a number, found by doubling. -/
def doubled (least : Nat) : (doublings : Nat) → (size : Nat) → Nat
  | 0, size => size
  | doublings + 1, size => if least ≤ size then size else doubled least doublings (2 * size)

/-- A sink without receivers whose buffer holds at least `capacity` events. -/
def ofCapacity (capacity : Nat) : StreamingSink := { room := doubled capacity capacity 1 }

/-- Adds a receiver of the events from now on, in place of one of the same name. -/
def subscribe (sink : StreamingSink) (name : String) : StreamingSink :=
  { sink with receivers := sink.receivers.set name sink.sent }

def unsubscribe (sink : StreamingSink) (name : String) : StreamingSink :=
  { sink with receivers := sink.receivers.erase name }

/-- Hands an event to all receivers, or counts it as dropped when there are none. -/
def send (sink : StreamingSink) (occurrence : OperationEvent) : StreamingSink :=
  if sink.receivers.size = 0 then { sink with dropped := sink.dropped + 1 }
  else
    let kept := sink.buffer ++ [occurrence]
    { sink with sent := sink.sent + 1, buffer := kept.drop (kept.length - sink.room) }

def receive (sink : StreamingSink) (name : String) : Reception × StreamingSink :=
  match sink.receivers.get? name with
  | none => (.unknown, sink)
  | some next =>
    if sink.room < sink.sent - next then
      let oldest := sink.sent - sink.room
      (.lagged (oldest - next), { sink with receivers := sink.receivers.set name oldest })
    else
      match sink.buffer[sink.buffer.length - (sink.sent - next)]? with
      | some occurrence =>
        (.event occurrence, { sink with receivers := sink.receivers.set name (next + 1) })
      | none => (.empty, sink)

/-- The kept events that a receiver did not read yet, and the sink after it reads them all. -/
def drain (sink : StreamingSink) (name : String) : List OperationEvent × StreamingSink :=
  match sink.receivers.get? name with
  | none => ([], sink)
  | some next =>
    (sink.buffer.drop (sink.buffer.length - (sink.sent - next)),
      { sink with receivers := sink.receivers.set name sink.sent })

end StreamingSink

end Resilience
