import Mathlib.Data.List.DropRight
import Resilience.Sink.Memory

/-!
Runs of a memory sink. Events are delivered to it and it is cleared, in any order and any number of
times. It then holds the newest of the events that came after the last clearing, and every event
that was ever delivered is held, was evicted or was cleared away.
-/

namespace Resilience.MemorySink

inductive Use where
  | deliver (occurrence : OperationEvent)
  | clear

namespace Use

def event? : Use → Option OperationEvent
  | deliver occurrence => some occurrence
  | clear => none

/-- The events that are delivered, the first one first. -/
def delivered (uses : List Use) : List OperationEvent := uses.filterMap event?

/-- The events that are delivered after the last clearing. -/
def recent (uses : List Use) : List OperationEvent :=
  delivered (uses.rtakeWhile fun use => use.event?.isSome)

@[simp] theorem recent_deliver (uses : List Use) (occurrence : OperationEvent) :
    recent (uses ++ [.deliver occurrence]) = recent uses ++ [occurrence] := by
  simp [recent, delivered, event?]

@[simp] theorem recent_clear (uses : List Use) : recent (uses ++ [.clear]) = [] := by
  simp [recent, delivered, event?]

theorem delivered_cons (use : Use) (rest : List Use) :
    delivered (use :: rest) = use.event?.toList ++ delivered rest := by
  unfold delivered
  cases use with
  | deliver occurrence => exact List.filterMap_cons_some rfl
  | clear => exact List.filterMap_cons_none rfl

end Use

variable {sink : MemorySink} {capacity : Nat}

def after (sink : MemorySink) : Use → MemorySink
  | .deliver occurrence => sink.send occurrence
  | .clear => sink.clear

def run (sink : MemorySink) (uses : List Use) : MemorySink := uses.foldl after sink

def clearedBy (sink : MemorySink) : Use → Nat
  | .deliver _ => 0
  | .clear => sink.events.length

/-- How many events a row of uses clears away. -/
def cleared (sink : MemorySink) : List Use → Nat
  | [] => 0
  | use :: rest => sink.clearedBy use + (sink.after use).cleared rest

@[simp] theorem run_append (sink : MemorySink) (uses : List Use) (use : Use) :
    sink.run (uses ++ [use]) = (sink.run uses).after use := by
  simp [run]

@[simp] theorem capacity_after (sink : MemorySink) (use : Use) :
    (sink.after use).capacity = sink.capacity := by
  cases use with
  | deliver occurrence => exact sink.capacity_send occurrence
  | clear => rfl

/-- Whether a sink holds the newest of some events, as many as it may hold. -/
structure Newest (sink : MemorySink) (recent : List OperationEvent) : Prop where
  suffix : sink.events <:+ recent
  length : sink.events.length = min recent.length sink.capacity

theorem ofCapacity_room (capacity : Nat) : 0 < (ofCapacity capacity).capacity :=
  Nat.lt_of_lt_of_le Nat.one_pos (Nat.le_max_right capacity 1)

theorem newest_ofCapacity (capacity : Nat) : (ofCapacity capacity).Newest [] :=
  ⟨List.suffix_refl [], (Nat.zero_min _).symm⟩

/-- A full sink gives up the event that is no longer among the newest. -/
theorem Newest.send {recent : List OperationEvent} (newest : sink.Newest recent)
    (room : 0 < sink.capacity) (occurrence : OperationEvent) :
    (sink.send occurrence).Newest (recent ++ [occurrence]) := by
  have length := newest.length
  unfold MemorySink.send
  split
  next full =>
    have suffix := sink.events.tail_suffix.trans newest.suffix
    refine ⟨List.suffix_append_self_iff.mpr suffix, ?_⟩
    simp only [List.length_append, List.length_tail, List.length_singleton]
    omega
  next space =>
    refine ⟨List.suffix_append_self_iff.mpr newest.suffix, ?_⟩
    simp only [List.length_append, List.length_singleton]
    omega

theorem clear_newest (sink : MemorySink) : sink.clear.Newest [] :=
  ⟨List.suffix_refl [], (Nat.zero_min _).symm⟩

/-- What a run leaves of a new sink. The capacity zero means one. -/
theorem run_newest (capacity : Nat) (uses : List Use) :
    ((ofCapacity capacity).run uses).capacity = max 1 capacity ∧
      ((ofCapacity capacity).run uses).Newest (Use.recent uses) := by
  induction uses using List.reverseRecOn with
  | nil => exact ⟨Nat.max_comm capacity 1, newest_ofCapacity capacity⟩
  | append_singleton uses use inductionHypothesis =>
    obtain ⟨room, newest⟩ := inductionHypothesis
    rw [run_append]
    refine ⟨(capacity_after _ use).trans room, ?_⟩
    cases use with
    | deliver occurrence =>
      rw [Use.recent_deliver]
      exact newest.send (by omega) occurrence
    | clear =>
      rw [Use.recent_clear]
      exact clear_newest _

/-- One use moves events between those that are held, evicted and cleared, and adds what it
delivers. A sink without any room would count an event as evicted that it still holds. -/
theorem after_conserves (room : 0 < sink.capacity) (use : Use) :
    (sink.after use).evicted + (sink.after use).events.length + sink.clearedBy use =
      sink.evicted + sink.events.length + use.event?.toList.length := by
  cases use with
  | clear => simp [after, clearedBy, Use.event?]
  | deliver occurrence =>
    simp only [after, clearedBy, Use.event?, send, Option.toList, List.length_singleton]
    split
    · simp only [List.length_append, List.length_tail, List.length_singleton]
      omega
    · simp only [List.length_append, List.length_singleton]
      omega

theorem run_conserves (uses : List Use) (room : 0 < sink.capacity) :
    (sink.run uses).evicted + (sink.run uses).events.length + sink.cleared uses =
      sink.evicted + sink.events.length + (Use.delivered uses).length := by
  induction uses generalizing sink with
  | nil => simp [run, cleared, Use.delivered]
  | cons use rest inductionHypothesis =>
    have first := after_conserves room use
    have later := @inductionHypothesis (sink.after use) (by simpa using room)
    have delivered := congrArg List.length (Use.delivered_cons use rest)
    rw [List.length_append] at delivered
    change ((sink.after use).run rest).evicted + ((sink.after use).run rest).events.length +
      (sink.clearedBy use + (sink.after use).cleared rest) = _
    omega

/-- Whether some events are all those of an operation, in their order: they belong to it, and every
choice of events that belong to it is a choice of them. -/
structure AllOf (operation : OperationId) (chosen events : List OperationEvent) : Prop where
  sublist : chosen.Sublist events
  belong : ∀ occurrence ∈ chosen, occurrence.operation = operation
  greatest : ∀ other : List OperationEvent, other.Sublist events →
    (∀ occurrence ∈ other, occurrence.operation = operation) → other.Sublist chosen

theorem eventsFor_allOf (sink : MemorySink) (operation : OperationId) :
    AllOf operation (sink.eventsFor operation) sink.events where
  sublist := List.filter_sublist
  belong occurrence kept := of_decide_eq_true (List.mem_filter.mp kept).2
  greatest other sublist belong := by
    have same : other.filter (fun occurrence => occurrence.operation = operation) = other :=
      List.filter_eq_self.mpr fun occurrence kept => decide_eq_true (belong occurrence kept)
    exact same ▸ sublist.filter _

/-- After any row of uses a new sink holds the newest of the events since the last clearing, as many
of them as fit, in the order of their delivery. What it evicted, holds and cleared away is all that
was delivered, and the events it names for an operation are all that it holds of that one. -/
theorem keeps_newest (capacity : Nat) (uses : List Use) (operation : OperationId) :
    let sink := (ofCapacity capacity).run uses
    sink.events <:+ Use.recent uses ∧
      sink.events.length = min (Use.recent uses).length (max 1 capacity) ∧
        sink.evicted + sink.events.length + (ofCapacity capacity).cleared uses =
            (Use.delivered uses).length ∧
          AllOf operation (sink.eventsFor operation) sink.events := by
  intro sink
  obtain ⟨room, newest⟩ := run_newest capacity uses
  have conserved := run_conserves uses (ofCapacity_room capacity)
  exact ⟨newest.suffix, room ▸ newest.length, conserved.trans (Nat.zero_add _),
    sink.eventsFor_allOf operation⟩

end Resilience.MemorySink
