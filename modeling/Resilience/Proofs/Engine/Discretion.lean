import Resilience.Engine.Control

/-!
Discretion: what a task does takes no time, changes no other task, and keeps no other task from
going on that could go on before.
-/

namespace Resilience

variable {α : Type}

/-- Whether what one task does takes no time, leaves all other tasks as they are, and lets go on
those of them that could go on. -/
structure Engine.Discreet (id : TaskId) (before after : Engine α) : Prop where
  now : after.now = before.now
  stint : after.stint.task = before.stint.task
  tasks : ∀ other, other ≠ id → after.tasks.get? other = before.tasks.get? other
  ready : ∀ other, other ≠ id → other ∈ before.ready → other ∈ after.ready
  aside : ∀ other ∈ before.aside, other ∈ after.aside

namespace Engine.Discreet

variable {before middle after : Engine α} {id : TaskId}

theorem refl (engine : Engine α) (id : TaskId) : engine.Discreet id engine :=
  ⟨rfl, rfl, fun _ _ => rfl, fun _ _ goes => goes, fun _ rests => rests⟩

theorem trans (first : Discreet id before middle) (second : Discreet id middle after) :
    Discreet id before after where
  now := second.now.trans first.now
  stint := second.stint.trans first.stint
  tasks other apart := (second.tasks other apart).trans (first.tasks other apart)
  ready other apart goes := second.ready other apart (first.ready other apart goes)
  aside other rests := second.aside other (first.aside other rests)

theorem tables {final : Engine α} (discreet : Discreet id before after)
    (now : final.now = after.now) (stint : final.stint.task = after.stint.task)
    (tasks : final.tasks = after.tasks) (ready : final.ready = after.ready)
    (aside : final.aside = after.aside) : Discreet id before final :=
  discreet.trans
    ⟨now, stint, fun _ _ => by rw [tasks], fun _ _ goes => ready ▸ goes,
      fun _ rests => aside ▸ rests⟩

theorem modifyTask (discreet : Discreet id before after) (change : Task α → Task α) :
    Discreet id before (after.modifyTask id change) := by
  refine discreet.trans
    ⟨rfl, rfl, fun other apart => ?_, fun _ _ goes => goes, fun _ rests => rests⟩
  show (after.tasks.modify id change).get? other = after.tasks.get? other
  rw [Table.get?_modify, if_neg (Ne.symm apart)]

theorem setState (discreet : Discreet id before after) (operation : OperationId)
    (state : OperationState) : Discreet id before (after.setState operation state) :=
  discreet.tables rfl rfl rfl rfl rfl

theorem write (discreet : Discreet id before after) (lines : List LogLine) :
    Discreet id before (after.write lines) :=
  discreet.tables rfl rfl rfl rfl rfl

theorem endWait (discreet : Discreet id before after) : Discreet id before after.endWait :=
  discreet.tables rfl rfl rfl rfl rfl

theorem setAside (discreet : Discreet id before after) :
    Discreet id before (after.setAside id) :=
  discreet.trans
    ⟨rfl, rfl, fun _ _ => rfl, fun _ _ goes => goes, fun _ rests => List.mem_cons_of_mem id rests⟩

theorem wake (discreet : Discreet id before after) (other : TaskId) :
    Discreet id before (after.wake other) := by
  unfold Engine.wake
  split
  · exact discreet.tables rfl rfl rfl rfl rfl
  · split
    · exact discreet
    · exact discreet.trans
        ⟨rfl, rfl, fun _ _ => rfl, fun _ _ goes => List.mem_append_left _ goes,
          fun _ rests => rests⟩

theorem wakeAll (discreet : Discreet id before after) (ids : List TaskId) :
    Discreet id before (after.wakeAll ids) := by
  induction ids generalizing after with
  | nil => exact discreet
  | cons other rest inductionHypothesis => exact inductionHypothesis (discreet.wake other)

theorem keepTimer (discreet : Discreet id before after) (duration : Duration)
    (timer : Option Timer) : Discreet id before (after.keepTimer duration timer).2 := by
  cases timer with
  | none => exact discreet.tables rfl rfl rfl rfl rfl
  | some timer => exact discreet

theorem fireToken (discreet : Discreet id before after) :
    Discreet id before (after.fireToken id) := by
  unfold Engine.fireToken
  split
  · split
    · exact (discreet.modifyTask _).wake id
    · exact discreet
  · exact discreet

theorem changeBulkhead (discreet : Discreet id before after) (operation : OperationId)
    (index : Nat) (change : Bulkhead → Bulkhead) :
    Discreet id before (after.changeBulkhead operation index change) := by
  unfold Engine.changeBulkhead
  simp only
  split
  · exact discreet
  · exact (discreet.setState operation _).wakeAll _

theorem changeGate (discreet : Discreet id before after) (change : Slots → Slots) :
    Discreet id before (after.changeGate change) := by
  refine .wakeAll (discreet.tables ?_ ?_ ?_ ?_ ?_) _ <;> rfl

theorem dropPermit (discreet : Discreet id before after) (task : Task α) :
    Discreet id before (after.dropPermit id task) := by
  unfold Engine.dropPermit
  split
  · exact discreet
  · exact (discreet.setState task.operation _).modifyTask _

theorem leavePlace (discreet : Discreet id before after) (task : Task α) :
    Discreet id before (after.leavePlace id task) := by
  unfold Engine.leavePlace
  split
  · exact discreet
  · exact (discreet.modifyTask _).changeBulkhead _ _ _

theorem release (discreet : Discreet id before after) (task : Task α) :
    Discreet id before (after.release id task) :=
  ((discreet.changeGate (·.leave id)).dropPermit task).leavePlace task

theorem act (discreet : Discreet id before after) (actions : List Action) (timer : Option Timer) :
    Discreet id before (after.act id actions timer).2 := by
  induction actions generalizing after timer with
  | nil => exact discreet
  | cons action rest inductionHypothesis =>
    cases action with
    | cancelCaller => exact inductionHypothesis discreet.fireToken none
    | advanceClock millis =>
      refine inductionHypothesis (discreet.tables ?_ ?_ ?_ ?_ ?_) none <;> rfl
    | sleep millis =>
      unfold Engine.act
      split
      · exact discreet.setAside
      · have timed := discreet.keepTimer (.ofMillis millis) timer
        simp only
        split
        · exact inductionHypothesis timed.endWait none
        · exact timed
    | awaitGate =>
      unfold Engine.act
      split
      · exact discreet.setAside
      · split
        · split
          · exact inductionHypothesis (discreet.modifyTask _).endWait none
          · exact discreet
        · exact discreet
    | crash => exact discreet

theorem proceed (discreet : Discreet id before after) (limit : Option Duration)
    (rest : Behaviour Fault) (timer : Option Timer) (started : Nat) (deadline : Option Timer) :
    Discreet id before (after.proceed id limit rest timer started deadline).2 := by
  have acted := discreet.act rest.actions timer
  unfold Engine.proceed
  generalize after.act id rest.actions timer = acts at acted ⊢
  rcases acts with ⟨halt, final⟩
  cases halt with
  | finished => exact acted
  | crashed => exact acted
  | waiting actions timer =>
    simp only
    split
    · exact acted
    next limit =>
      have timed := acted.keepTimer limit deadline
      split
      · exact timed.endWait.modifyTask _
      · exact timed

theorem attempt (discreet : Discreet id before after) (task : Task α) (number : Nat)
    (limit : Option Duration) (heedsCaller : Bool) (wait : Wait) :
    Discreet id before (after.attempt id task number limit heedsCaller wait).2 := by
  unfold Engine.attempt
  split
  · exact discreet.setAside
  · split
    · exact discreet
    · split
      · exact discreet.proceed limit _ _ _ _
      · split
        · exact discreet
        · exact (discreet.modifyTask _).proceed limit _ _ _ _

theorem proceedPause (discreet : Discreet id before after) (task : Task α) (delay : Duration)
    (timer : Option Timer) : Discreet id before (after.proceedPause id task delay timer).2 := by
  unfold Engine.proceedPause
  split
  · exact discreet.setAside
  · split
    · exact discreet
    · split
      · exact discreet
      · exact discreet
      · have timed := discreet.keepTimer delay timer
        simp only
        split
        · exact timed.endWait
        · exact timed

theorem pause (discreet : Discreet id before after) (task : Task α) (delay : Duration)
    (wait : Wait) : Discreet id before (after.pause id task delay wait).2 := by
  unfold Engine.pause
  split
  · exact discreet.proceedPause task delay _
  · refine .proceedPause ?_ task delay none
    split <;> exact discreet.tables rfl rfl rfl rfl rfl

theorem passGate (discreet : Discreet id before after) :
    Discreet id before (after.passGate id).2 := by
  unfold Engine.passGate
  split
  · exact discreet.setAside
  · split
    · exact (discreet.changeGate _).endWait
    · split
      · exact discreet
      · split
        · exact (discreet.changeGate _).endWait
        · exact discreet.changeGate (·.join id)

theorem send (discreet : Discreet id before after) (occurrence : OperationEvent) (wait : Wait) :
    Discreet id before (after.send id occurrence wait).2 := by
  unfold Engine.send
  split
  · exact discreet.passGate
  · split
    · exact discreet
    · simp only
      split
      · refine .passGate (discreet.tables ?_ ?_ ?_ ?_ ?_) <;> rfl
      · exact discreet.tables rfl rfl rfl rfl rfl

theorem awaitSlot (discreet : Discreet id before after) (task : Task α) :
    Discreet id before (after.awaitSlot id task).2 := by
  unfold Engine.awaitSlot
  split
  · exact discreet.setAside
  · split
    · split
      · exact discreet
      next bulkhead _ =>
        have asked (turn : Turn) (change : Bulkhead → Bulkhead) (index : Nat) :
            Discreet id before ((after.write (Bulkhead.pollLines turn)).changeBulkhead
              task.operation index change) :=
          (discreet.write _).changeBulkhead _ _ _
        simp only
        split
        · exact (asked _ _ _).endWait.modifyTask _
        · exact (asked _ _ _).modifyTask _
        · exact asked _ _ _
    · exact discreet
    · exact discreet

theorem acquirePermit (discreet : Discreet id before after) (task : Task α) (rule : BreakerRule) :
    Discreet id before (after.acquirePermit id task rule).2 := by
  unfold Engine.acquirePermit
  simp only
  split
  · exact ((discreet.setState task.operation _).write _).modifyTask _
  · exact (discreet.setState task.operation _).write _

theorem recordSample (discreet : Discreet id before after) (task : Task α) (rule : BreakerRule)
    (failed : Bool) : Discreet id before (after.recordSample id task rule failed).2 := by
  unfold Engine.recordSample
  split
  · exact discreet
  · exact ((discreet.setState task.operation _).write _).modifyTask _

theorem proceedHandler (discreet : Discreet id before after) (rest : Behaviour Failure)
    (timer : Option Timer) : Discreet id before (after.proceedHandler id rest timer).2 := by
  have acted := discreet.act rest.actions timer
  unfold Engine.proceedHandler
  generalize after.act id rest.actions timer = acts at acted ⊢
  rcases acts with ⟨halt, final⟩
  cases halt <;> exact acted

theorem handle (discreet : Discreet id before after) (task : Task α) (name : String)
    (fault : Fault) (wait : Wait) :
    Discreet id before (after.handle id task name fault wait).2 := by
  unfold Engine.handle
  split
  · exact discreet.proceedHandler _ _
  · split
    · exact discreet.proceedHandler _ _
    · exact discreet

theorem resolve (discreet : Discreet id before after) (operation : OperationId) :
    Discreet id before (after.resolve operation).2 := by
  unfold Engine.resolve
  split
  · exact discreet.setState operation _
  · exact discreet

theorem answer (engine : Engine α) (id : TaskId) (task : Task α) (request : Request)
    (wait : Wait) : Discreet id engine (engine.answer id task request wait).2 := by
  have same := Discreet.refl engine id
  cases request with
  | clock | time | bulkheadLoad | strategy => exact same
  | emit event => exact same.send _ wait
  | log line => exact same.write [line]
  | count counter amount => exact same.setState task.operation _
  | resolve => exact same.resolve task.operation
  | enterBulkhead policy => exact (same.setState task.operation _).modifyTask _
  | awaitSlot => exact same.awaitSlot task
  | leaveBulkhead => exact same.leavePlace task
  | acquirePermit rule => exact same.acquirePermit task rule
  | recordSample rule failed => exact same.recordSample task rule failed
  | dropPermit => exact same.dropPermit task
  | attempt number limit heedsCaller => exact same.attempt task number limit heedsCaller wait
  | pause delay => exact same.pause task delay wait
  | jitter bound delay => exact same.tables rfl rfl rfl rfl rfl
  | handle name fault => exact same.handle task name fault wait

theorem suspend (discreet : Discreet id before after) (plan : Plan α) (wait : Wait) :
    Discreet id before (after.suspend id plan wait) :=
  discreet.modifyTask _

theorem finish (discreet : Discreet id before after) (result : Option α) :
    Discreet id before (after.finish id result) := by
  unfold Engine.finish
  split
  · exact discreet
  · exact ((discreet.release _).modifyTask _).tables rfl rfl rfl rfl rfl

theorem abort (engine : Engine α) (id : TaskId) : Discreet id engine (engine.abort id) := by
  have forgotten {after : Engine α} (discreet : Discreet id engine after) :
      Discreet id engine (after.forget id) := by
    refine discreet.trans ⟨rfl, rfl, fun other apart => ?_, fun other apart goes => ?_,
      fun _ rests => rests⟩
    · show (after.tasks.erase id).get? other = after.tasks.get? other
      rw [Table.get?_erase, if_neg (Ne.symm apart)]
    · exact List.mem_filter.mpr ⟨goes, decide_eq_true apart⟩
  unfold Engine.abort
  split
  · split
    · exact forgotten ((Discreet.refl engine id).release _)
    · exact forgotten (Discreet.refl engine id)
  · exact .refl engine id

theorem run (engine : Engine α) (id : TaskId) (plan : Plan α) (wait : Wait) :
    Discreet id engine (engine.run id plan wait) := by
  induction plan generalizing engine wait with
  | done result => exact (Discreet.refl engine id).finish _
  | ask request next inductionHypothesis =>
    unfold Engine.run
    split
    · exact .refl engine id
    next task _ =>
      have answered := answer engine id task request wait
      generalize engine.answer id task request wait = replied at answered ⊢
      rcases replied with ⟨reply, after⟩
      cases reply with
      | now answer => exact answered.trans (inductionHypothesis answer after .unbegun)
      | later later => exact answered.suspend _ later
      | crash => exact answered.finish none

theorem poll (engine : Engine α) (id : TaskId) : Discreet id engine (engine.poll id) := by
  unfold Engine.poll
  split
  · exact run engine id _ _
  · exact .refl engine id

end Engine.Discreet

end Resilience
