import Resilience.Proofs.Engine.Conclusion

/-!
Constancy: what the answers that a task gets before its fallback leave as it is. The fallback
handlers stay, and so does every operation that is known. Only an event may keep a task at the gate
of the sink, and as long as no other task goes on, nobody else waits there.
-/

namespace Resilience

namespace Slots

def callers (slots : Slots) : List Nat := slots.queue ++ slots.granted

def Reserved (slots : Slots) (caller : Nat) : Prop :=
  slots.callers = [] ∨ slots.callers = [caller]

variable {slots : Slots} {caller : Nat}

theorem vacant_iff : slots.Vacant ↔ slots.callers = [] := List.append_eq_nil_iff.symm

theorem Vacant.reserved (vacant : slots.Vacant) (caller : Nat) : slots.Reserved caller :=
  .inl (vacant_iff.mp vacant)

theorem Reserved.cases (reserved : slots.Reserved caller) :
    slots.Vacant ∨ slots.queue = [caller] ∧ slots.granted = [] ∨
      slots.queue = [] ∧ slots.granted = [caller] := by
  rcases reserved with none | only
  · exact .inl (vacant_iff.mpr none)
  · rcases List.append_eq_singleton_iff.mp only with granted | queued
    · exact .inr (.inr granted)
    · exact .inr (.inl queued)

/-- Whoever gives up the only wait leaves a gate at which nobody waits. -/
theorem Reserved.leave (reserved : slots.Reserved caller) : (slots.leave caller).Vacant := by
  rcases reserved.cases with vacant | ⟨queue, granted⟩ | ⟨queue, granted⟩
  · rw [leave_of_vacant vacant]
    exact vacant
  · unfold Slots.leave
    simp [queue, granted, Vacant]
  · unfold Slots.leave claim Slots.release
    simp [queue, granted, Vacant]

/-- Whether nobody waits at the gate of the sink but perhaps a caller, after it has sent an
event. -/
def Awaits (slots : Slots) (caller : Nat) (request : Request) (wait : Wait) : Prop :=
  slots.Vacant ∨ wait = .delivery ∧ (∃ event, request = .emit event) ∧ slots.Reserved caller

theorem Awaits.reserved {request : Request} {wait : Wait}
    (awaits : slots.Awaits caller request wait) : slots.Reserved caller := by
  rcases awaits with vacant | ⟨-, -, reserved⟩
  · exact vacant.reserved caller
  · exact reserved

theorem Reserved.release (reserved : slots.Reserved caller) : slots.release.Reserved caller := by
  unfold Reserved callers Slots.release at *
  split
  next first rest queue =>
    rw [queue] at reserved
    rcases reserved with none | only
    · cases none
    · obtain ⟨rfl, nobody⟩ := List.cons_eq_cons.mp only
      obtain ⟨rfl, granted⟩ := List.append_eq_nil_iff.mp nobody
      rw [granted]
      exact .inr rfl
  next => exact reserved

theorem Vacant.release (vacant : slots.Vacant) : slots.release.Vacant := by
  unfold Slots.release
  simp [vacant.1, vacant.2, Vacant]

end Slots

namespace Engine

variable {α : Type} {engine before middle after : Engine α} {id : TaskId}

/-- Whether a change does not concern the fallback handlers, and every operation that was known is
known after it. -/
structure Recalls (before after : Engine α) : Prop where
  handlers : after.handlers = before.handlers
  known : ∀ operation, (before.operations.get? operation).isSome = true →
    (after.operations.get? operation).isSome = true

/-- Whether a change concerns neither the fallback handlers nor the gate of the sink. -/
structure Sustains (before after : Engine α) : Prop extends before.Recalls after where
  gate : after.sink.gate = before.sink.gate

namespace Recalls

theorem refl (engine : Engine α) : engine.Recalls engine := ⟨rfl, fun _ known => known⟩

theorem trans (first : before.Recalls middle) (second : middle.Recalls after) :
    before.Recalls after where
  handlers := second.handlers.trans first.handlers
  known operation known := second.known operation (first.known operation known)

theorem tables {final : Engine α} (recalls : before.Recalls after)
    (handlers : final.handlers = after.handlers)
    (operations : final.operations = after.operations) : before.Recalls final :=
  recalls.trans ⟨handlers, fun _ known => operations.symm ▸ known⟩

end Recalls

namespace Sustains

theorem refl (engine : Engine α) : engine.Sustains engine := ⟨.refl engine, rfl⟩

theorem trans (first : before.Sustains middle) (second : middle.Sustains after) :
    before.Sustains after where
  toRecalls := first.toRecalls.trans second.toRecalls
  gate := second.gate.trans first.gate

theorem tables {final : Engine α} (sustains : before.Sustains after)
    (handlers : final.handlers = after.handlers) (sink : final.sink.gate = after.sink.gate)
    (operations : final.operations = after.operations) : before.Sustains final :=
  sustains.trans ⟨⟨handlers, fun _ known => operations.symm ▸ known⟩, sink⟩

theorem setState (sustains : before.Sustains after) (operation : OperationId)
    (state : OperationState) : before.Sustains (after.setState operation state) := by
  refine sustains.trans ⟨⟨rfl, fun other known => ?_⟩, rfl⟩
  show ((after.operations.set operation state).get? other).isSome = true
  rw [Table.get?_set]
  split
  · rfl
  · exact known

theorem modifyTask (sustains : before.Sustains after) (id : TaskId) (change : Task α → Task α) :
    before.Sustains (after.modifyTask id change) :=
  sustains.tables rfl rfl rfl

theorem write (sustains : before.Sustains after) (lines : List LogLine) :
    before.Sustains (after.write lines) :=
  sustains.tables rfl rfl rfl

theorem endWait (sustains : before.Sustains after) : before.Sustains after.endWait :=
  sustains.tables rfl rfl rfl

theorem setAside (sustains : before.Sustains after) (id : TaskId) :
    before.Sustains (after.setAside id) :=
  sustains.tables rfl rfl rfl

theorem wake (sustains : before.Sustains after) (id : TaskId) :
    before.Sustains (after.wake id) := by
  unfold Engine.wake
  split
  · exact sustains.tables rfl rfl rfl
  · split
    · exact sustains
    · exact sustains.tables rfl rfl rfl

theorem wakeAll (sustains : before.Sustains after) (ids : List TaskId) :
    before.Sustains (after.wakeAll ids) := by
  induction ids generalizing after with
  | nil => exact sustains
  | cons id rest inductionHypothesis => exact inductionHypothesis (sustains.wake id)

theorem changeBulkhead (sustains : before.Sustains after) (operation : OperationId) (index : Nat)
    (change : Bulkhead → Bulkhead) :
    before.Sustains (after.changeBulkhead operation index change) := by
  unfold Engine.changeBulkhead
  simp only
  split
  · exact sustains
  · exact (sustains.setState operation _).wakeAll _

theorem keepTimer (sustains : before.Sustains after) (duration : Duration)
    (timer : Option Timer) : before.Sustains (after.keepTimer duration timer).2 := by
  cases timer with
  | none => exact sustains.tables rfl rfl rfl
  | some timer => exact sustains

theorem fireToken (sustains : before.Sustains after) (id : TaskId) :
    before.Sustains (after.fireToken id) := by
  unfold Engine.fireToken
  split
  · split
    · exact (sustains.modifyTask id _).wake id
    · exact sustains
  · exact sustains

theorem act (sustains : before.Sustains after) (id : TaskId) (actions : List Action)
    (timer : Option Timer) : before.Sustains (after.act id actions timer).2 := by
  induction actions generalizing after timer with
  | nil => exact sustains
  | cons action rest inductionHypothesis =>
    cases action with
    | cancelCaller => exact inductionHypothesis (sustains.fireToken id) none
    | advanceClock millis =>
      refine inductionHypothesis (sustains.tables ?_ ?_ ?_) none <;> rfl
    | sleep millis =>
      unfold Engine.act
      split
      · exact sustains.setAside id
      · have timed := sustains.keepTimer (.ofMillis millis) timer
        simp only
        split
        · exact inductionHypothesis timed.endWait none
        · exact timed
    | awaitGate =>
      unfold Engine.act
      split
      · exact sustains.setAside id
      · split
        · split
          · exact inductionHypothesis (sustains.modifyTask id _).endWait none
          · exact sustains
        · exact sustains
    | crash => exact sustains

theorem proceed (sustains : before.Sustains after) (id : TaskId) (limit : Option Duration)
    (rest : Behaviour Fault) (timer : Option Timer) (started : Nat) (deadline : Option Timer) :
    before.Sustains (after.proceed id limit rest timer started deadline).2 := by
  have acted := sustains.act id rest.actions timer
  unfold Engine.proceed
  generalize after.act id rest.actions timer = acts at acted ⊢
  rcases acts with ⟨halt, final⟩
  cases halt with
  | finished => exact acted
  | crashed => exact acted
  | waiting actions timer =>
    simp only
    split
    · exact acted
    next limit =>
      have timed := acted.keepTimer limit deadline
      split
      · exact timed.endWait.modifyTask id _
      · exact timed

theorem attempt (sustains : before.Sustains after) (id : TaskId) (task : Task α) (number : Nat)
    (limit : Option Duration) (heedsCaller : Bool) (wait : Wait) :
    before.Sustains (after.attempt id task number limit heedsCaller wait).2 := by
  unfold Engine.attempt
  split
  · exact sustains.setAside id
  · split
    · exact sustains
    · split
      · exact sustains.proceed id limit _ _ _ _
      · split
        · exact sustains
        · exact (sustains.modifyTask id _).proceed id limit _ _ _ _

theorem proceedPause (sustains : before.Sustains after) (id : TaskId) (task : Task α)
    (delay : Duration) (timer : Option Timer) :
    before.Sustains (after.proceedPause id task delay timer).2 := by
  unfold Engine.proceedPause
  split
  · exact sustains.setAside id
  · split
    · exact sustains
    · split
      · exact sustains
      · exact sustains
      · have timed := sustains.keepTimer delay timer
        simp only
        split
        · exact timed.endWait
        · exact timed

theorem pause (sustains : before.Sustains after) (id : TaskId) (task : Task α) (delay : Duration)
    (wait : Wait) : before.Sustains (after.pause id task delay wait).2 := by
  unfold Engine.pause
  split
  · exact sustains.proceedPause id task delay _
  · refine .proceedPause ?_ id task delay none
    split <;> exact sustains.tables rfl rfl rfl

theorem awaitSlot (sustains : before.Sustains after) (id : TaskId) (task : Task α) :
    before.Sustains (after.awaitSlot id task).2 := by
  unfold Engine.awaitSlot
  split
  · exact sustains.setAside id
  · split
    · split
      · exact sustains
      next bulkhead _ =>
        have asked (turn : Turn) (change : Bulkhead → Bulkhead) (index : Nat) :
            before.Sustains ((after.write (Bulkhead.pollLines turn)).changeBulkhead
              task.operation index change) :=
          (sustains.write _).changeBulkhead _ _ _
        simp only
        split
        · exact (asked _ _ _).endWait.modifyTask id _
        · exact (asked _ _ _).modifyTask id _
        · exact asked _ _ _
    · exact sustains
    · exact sustains

theorem leavePlace (sustains : before.Sustains after) (id : TaskId) (task : Task α) :
    before.Sustains (after.leavePlace id task) := by
  unfold Engine.leavePlace
  split
  · exact sustains
  · exact (sustains.modifyTask id _).changeBulkhead _ _ _

theorem acquirePermit (sustains : before.Sustains after) (id : TaskId) (task : Task α)
    (rule : BreakerRule) : before.Sustains (after.acquirePermit id task rule).2 := by
  unfold Engine.acquirePermit
  simp only
  split
  · exact ((sustains.setState task.operation _).write _).modifyTask id _
  · exact (sustains.setState task.operation _).write _

theorem recordSample (sustains : before.Sustains after) (id : TaskId) (task : Task α)
    (rule : BreakerRule) (failed : Bool) :
    before.Sustains (after.recordSample id task rule failed).2 := by
  unfold Engine.recordSample
  split
  · exact sustains
  · exact ((sustains.setState task.operation _).write _).modifyTask id _

theorem dropPermit (sustains : before.Sustains after) (id : TaskId) (task : Task α) :
    before.Sustains (after.dropPermit id task) := by
  unfold Engine.dropPermit
  split
  · exact sustains
  · exact (sustains.setState task.operation _).modifyTask id _

end Sustains

/-- Before the fallback, all answers but that to an event leave the gate of the sink alone. -/
theorem answer_sustains (engine : Engine α) (id : TaskId) (task : Task α) {request : Request}
    (guarding : request.Guarding) (untold : ∀ event, request ≠ .emit event) (wait : Wait) :
    engine.Sustains (engine.answer id task request wait).2 := by
  have same := Sustains.refl engine
  cases request with
  | clock => exact same
  | time => exact same
  | emit event => exact absurd rfl (untold event)
  | log line => exact same.write [line]
  | count counter amount => exact same.setState task.operation _
  | resolve => exact guarding.elim
  | enterBulkhead policy => exact (same.setState task.operation _).modifyTask id _
  | awaitSlot => exact same.awaitSlot id task
  | bulkheadLoad => exact same
  | leaveBulkhead => exact same.leavePlace id task
  | acquirePermit rule => exact same.acquirePermit id task rule
  | recordSample rule failed => exact same.recordSample id task rule failed
  | dropPermit => exact same.dropPermit id task
  | attempt number limit heedsCaller => exact same.attempt id task number limit heedsCaller wait
  | pause delay => exact same.pause id task delay wait
  | jitter bound delay => exact same.tables rfl rfl rfl
  | strategy name => exact same
  | handle => exact guarding.elim

/-- What a reply to an event leaves at the gate of the sink: nobody, or the task that waits. -/
inductive Delivers (id : TaskId) : Reply Unit → Slots → Prop
  | passes {gate : Slots} (vacant : gate.Vacant) : Delivers id (.now ()) gate
  | held {gate : Slots} (reserved : gate.Reserved id) : Delivers id (.later .delivery) gate

theorem gate_changeGate (engine : Engine α) (change : Slots → Slots) :
    (engine.changeGate change).sink.gate = change engine.sink.gate :=
  congrArg Scene.gate (scene_changeGate engine change)

theorem passGate_delivers (reserved : engine.sink.gate.Reserved id) :
    Delivers id (engine.passGate id).1 (engine.passGate id).2.sink.gate := by
  unfold passGate
  split
  · exact .held reserved
  · split
    next granted =>
      refine .passes ?_
      show (engine.changeGate (·.claim id)).sink.gate.Vacant
      rw [gate_changeGate]
      unfold Slots.isGranted at granted
      rcases reserved.cases with vacant | ⟨-, none⟩ | ⟨queue, only⟩
      · rw [vacant.2] at granted
        cases granted
      · rw [none] at granted
        cases granted
      · unfold Slots.claim
        rw [only]
        exact ⟨queue, List.erase_cons_head ..⟩
    next ungranted =>
      split
      · exact .held reserved
      next unqueued =>
        have vacant : engine.sink.gate.Vacant := by
          unfold Slots.isGranted at ungranted
          rcases reserved.cases with vacant | ⟨queue, -⟩ | ⟨-, granted⟩
          · exact vacant
          · simp [queue] at unqueued
          · simp [granted] at ungranted
        split
        · refine .passes ?_
          show (engine.changeGate Slots.take).sink.gate.Vacant
          rw [gate_changeGate]
          exact vacant
        · refine .held (.inr ?_)
          rw [gate_changeGate]
          unfold Slots.join Slots.callers
          rw [vacant.1, vacant.2]
          rfl

theorem send_delivers (reserved : engine.sink.gate.Reserved id) (occurrence : OperationEvent)
    {wait : Wait} (arrives : wait ≠ .delivery → engine.sink.gate.Vacant) :
    Delivers id (engine.send id occurrence wait).1
      (engine.send id occurrence wait).2.sink.gate := by
  have recorded : (engine.sink.record occurrence).gate = engine.sink.gate := by
    unfold Sink.record
    split <;> rfl
  by_cases waits : wait = .delivery
  · subst waits
    exact passGate_delivers reserved
  · have vacant := arrives waits
    have sends : Delivers id (engine.send id occurrence .unbegun).1
        (engine.send id occurrence .unbegun).2.sink.gate := by
      unfold send
      simp only
      split
      · exact .passes vacant
      · split
        · refine passGate_delivers ?_
          show (engine.sink.record occurrence).gate.Reserved id
          rw [recorded]
          exact reserved
        · refine .passes ?_
          show (engine.sink.record occurrence).gate.Vacant
          rw [recorded]
          exact vacant
    cases wait <;> first | exact sends | exact absurd rfl waits

namespace Recalls

theorem changeGate (recalls : before.Recalls after) (change : Slots → Slots) :
    before.Recalls (after.changeGate change) := by
  have sustains := (Sustains.refl { after with
    sink := { after.sink with gate := change after.sink.gate } }).wakeAll
      (after.sink.gate.grantedSince (change after.sink.gate))
  exact recalls.trans ⟨sustains.handlers, sustains.known⟩

theorem passGate (recalls : before.Recalls after) (id : TaskId) :
    before.Recalls (after.passGate id).2 := by
  unfold Engine.passGate
  split
  · exact recalls.tables rfl rfl
  · split
    · exact (recalls.changeGate _).tables rfl rfl
    · split
      · exact recalls
      · split
        · exact (recalls.changeGate _).tables rfl rfl
        · exact recalls.changeGate (·.join id)

theorem send (recalls : before.Recalls after) (id : TaskId) (occurrence : OperationEvent)
    (wait : Wait) : before.Recalls (after.send id occurrence wait).2 := by
  unfold Engine.send
  split
  · exact recalls.passGate id
  · split
    · exact recalls
    · simp only
      split
      · refine .passGate (recalls.tables ?_ ?_) id <;> rfl
      · exact recalls.tables rfl rfl

end Recalls

/-- Before the fallback no answer concerns the handlers, or lets an operation be forgotten. -/
theorem answer_recalls (engine : Engine α) (id : TaskId) (task : Task α) {request : Request}
    (guarding : request.Guarding) (wait : Wait) :
    engine.Recalls (engine.answer id task request wait).2 := by
  cases request with
  | emit event => exact (Recalls.refl engine).send id _ wait
  | _ => exact (answer_sustains engine id task guarding nofun wait).toRecalls

/-- What an answer before the fallback leaves at the gate of the sink: the task itself at most, and
only if it has to wait. -/
theorem answer_awaits (engine : Engine α) (id : TaskId) (task : Task α) {request : Request}
    (guarding : request.Guarding) {wait : Wait}
    (awaits : engine.sink.gate.Awaits id request wait) :
    (engine.answer id task request wait).2.sink.gate.Vacant ∨
      ∃ later, (engine.answer id task request wait).1 = .later later ∧
        (engine.answer id task request wait).2.sink.gate.Awaits id request later := by
  by_cases told : ∃ event, request = .emit event
  · obtain ⟨event, rfl⟩ := told
    have arrives : wait ≠ .delivery → engine.sink.gate.Vacant := fun differs =>
      awaits.elim (fun vacant => vacant) fun ⟨waits, _⟩ => absurd waits differs
    have delivers := send_delivers awaits.reserved ⟨task.operation, event⟩ arrives
    show (engine.send id ⟨task.operation, event⟩ wait).2.sink.gate.Vacant ∨
      ∃ later, (engine.send id ⟨task.operation, event⟩ wait).1 = .later later ∧ _
    generalize sent : (engine.send id ⟨task.operation, event⟩ wait).1 = reply at delivers ⊢
    cases delivers with
    | passes vacant => exact .inl vacant
    | held reserved => exact .inr ⟨_, rfl, .inr ⟨rfl, ⟨event, rfl⟩, reserved⟩⟩
  · have untold : ∀ event, request ≠ .emit event := fun event same => told ⟨event, same⟩
    refine .inl ?_
    rw [(answer_sustains engine id task guarding untold wait).gate]
    exact awaits.elim (fun vacant => vacant) fun ⟨_, tells, _⟩ => absurd tells told

/-- Whoever gives back what it holds leaves a gate at which nobody waits. -/
theorem release_vacant (reserved : engine.sink.gate.Reserved id) (task : Task α) :
    (engine.release id task).sink.gate.Vacant := by
  have released := (((Sustains.refl (engine.changeGate (·.leave id))).dropPermit id task).leavePlace
    id task).gate
  unfold release
  rw [released, gate_changeGate]
  exact reserved.leave

theorem finish_vacant {task : Task α} (found : engine.tasks.get? id = some task)
    (reserved : engine.sink.gate.Reserved id) (result : Option α) :
    (engine.finish id result).sink.gate.Vacant := by
  unfold finish
  rw [found]
  exact release_vacant reserved task

end Engine

end Resilience
