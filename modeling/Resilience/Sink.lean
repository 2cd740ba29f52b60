import Resilience.Log
import Resilience.Sink.Memory
import Resilience.Sink.Stream
import Resilience.Slots
import Resilience.Text.Split

/-!
Where events go. A sink can refuse all events, and it can hold up those who send it some.
-/

namespace Resilience

inductive EventStore where
  | nothing
  | log
  | memory (sink : MemorySink)
  | stream (sink : StreamingSink)

structure Sink where
  store : EventStore := .memory {}
  /-- Whether the sink takes events at all. -/
  ready : Bool := true
  /-- The text of the events whose sender waits for a permit after they are recorded. -/
  stallOn : Option String := none
  /-- The permits, and the senders that wait for them. -/
  gate : Slots := {}

namespace Sink

def stalls (sink : Sink) (occurrence : OperationEvent) : Bool :=
  match sink.stallOn with
  | some part => Text.holds part.toList occurrence.text.toList
  | none => false

def record (sink : Sink) (occurrence : OperationEvent) : Sink :=
  match sink.store with
  | .nothing | .log => sink
  | .memory memory => { sink with store := .memory (memory.send occurrence) }
  | .stream stream => { sink with store := .stream (stream.send occurrence) }

def recordLines (sink : Sink) (occurrence : OperationEvent) : List LogLine :=
  match sink.store with
  | .log =>
    [⟨.info, "faultline::telemetry::sinks", "policy_event",
      [("operation", occurrence.operation), ("event", occurrence.event.text)]⟩]
  | .nothing | .memory _ | .stream _ => []

def reader : String := "reader"

def streaming (capacity : Nat) : EventStore :=
  .stream ((StreamingSink.ofCapacity capacity).subscribe reader)

def drain (sink : Sink) : List OperationEvent × Sink :=
  match sink.store with
  | .nothing | .log => ([], sink)
  | .memory memory => (memory.events, { sink with store := .memory memory.clear })
  | .stream stream =>
    let (events, stream) := stream.drain reader
    (events, { sink with store := .stream stream })

end Sink

end Resilience
