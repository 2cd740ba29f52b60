import Resilience.Proofs.Engine.Effect
import Resilience.Proofs.Engine.Scene

/-!
Likeness: in engines that look the same to a task, what it asks before its fallback gets the same
reply, and the engines look the same to it afterwards.
-/

namespace Resilience

theorem Timer.due_eq {timer other : Timer} (same : timer.bare = other.bare) :
    timer.due = other.due :=
  show timer.bare.due = other.bare.due by rw [same]

theorem Wait.eq_of_bare {wait other : Wait} (same : wait.bare = other.bare) :
    (wait = .delivery ↔ other = .delivery) ∧ (wait.isCall = other.isCall) := by
  cases wait <;> cases other <;> first | cases same; done | simp [Wait.isCall]

namespace OperationState

variable {state other : OperationState}

theorem breaker_eq (same : state.cleared = other.cleared) : state.breaker = other.breaker :=
  show state.cleared.breaker = other.cleared.breaker by rw [same]

theorem bulkheads_eq (same : state.cleared = other.cleared) :
    state.bulkheads = other.bulkheads :=
  show state.cleared.bulkheads = other.cleared.bulkheads by rw [same]

end OperationState

namespace Engine

variable {α : Type} {engine twin : Engine α} {id : TaskId}

theorem isSpent_eq (same : engine.view id = twin.view id) : engine.isSpent = twin.isSpent :=
  congrArg (fun view : View α => decide (view.left = 0)) same

theorem now_eq (same : engine.view id = twin.view id) : engine.now = twin.now :=
  congrArg (fun view => view.scene.now) same

theorem clock_eq (same : engine.view id = twin.view id) : engine.clock = twin.clock := by
  have kinds : engine.clockKind = twin.clockKind := congrArg (fun view => view.scene.clockKind) same
  have clocks : engine.manualClock = twin.manualClock :=
    congrArg (fun view => view.scene.manualClock) same
  unfold clock
  rw [kinds, clocks, now_eq same]

theorem gate_eq (same : engine.view id = twin.view id) : engine.sink.gate = twin.sink.gate :=
  congrArg (fun view => view.scene.gate) same

theorem stateOf_eq (same : engine.view id = twin.view id) (operation : OperationId) :
    (engine.stateOf operation).cleared = (twin.stateOf operation).cleared := by
  rw [stateOf_cleared, stateOf_cleared]
  exact congrArg (fun view => (view.scene.states operation).getD {}) same

theorem circuit_eq (same : engine.view id = twin.view id) (operation : OperationId) :
    (engine.stateOf operation).breaker = (twin.stateOf operation).breaker :=
  OperationState.breaker_eq (stateOf_eq same operation)

theorem hall_eq (same : engine.view id = twin.view id) (operation : OperationId) :
    (engine.stateOf operation).bulkheads = (twin.stateOf operation).bulkheads :=
  OperationState.bulkheads_eq (stateOf_eq same operation)

theorem view_setState_eq (same : engine.view id = twin.view id) (operation : OperationId)
    {state other : OperationState} (alike : state.cleared = other.cleared) :
    (engine.setState operation state).view id = (twin.setState operation other).view id := by
  rw [view_setState, view_setState, same, alike]

theorem view_modifyTask_eq (same : engine.view id = twin.view id) {change : Task α → Task α}
    (blind : ∀ task : Task α, (change task).bare = (change task.bare).bare) :
    (engine.modifyTask id change).view id = (twin.modifyTask id change).view id := by
  rw [view_modifyTask engine id blind, view_modifyTask twin id blind, same]

theorem view_changeGate_eq (same : engine.view id = twin.view id) (change : Slots → Slots) :
    (engine.changeGate change).view id = (twin.changeGate change).view id := by
  rw [view_changeGate, view_changeGate]
  exact congrArg (fun view : View α =>
    { view with scene := { view.scene with gate := change view.scene.gate } }) same

theorem view_changeBulkhead_eq (same : engine.view id = twin.view id) (operation : OperationId)
    (index : Nat) (change : Bulkhead → Bulkhead) :
    (engine.changeBulkhead operation index change).view id =
      (twin.changeBulkhead operation index change).view id := by
  rw [view_changeBulkhead, view_changeBulkhead]
  exact congrArg (fun view : View α =>
    { view with scene := view.scene.modify operation (·.modifyBulkhead index change) }) same

theorem keepTimer_shown (same : engine.view id = twin.view id) (duration : Duration)
    {timer other : Option Timer} (timers : timer.map Timer.bare = other.map Timer.bare) :
    (engine.keepTimer duration timer).1.bare = (twin.keepTimer duration other).1.bare ∧
      (engine.keepTimer duration timer).2.view id = (twin.keepTimer duration other).2.view id := by
  cases timer with
  | none =>
    cases other with
    | none =>
      refine ⟨?_, same⟩
      show (⟨Timer.dueAfter engine.now duration, 0⟩ : Timer) = ⟨Timer.dueAfter twin.now duration, 0⟩
      rw [now_eq same]
    | some => cases timers
  | some timer =>
    cases other with
    | none => cases timers
    | some other => exact ⟨Option.some.inj timers, same⟩

theorem fireToken_view (engine : Engine α) (id : TaskId) : (engine.fireToken id).view id =
    (engine.view id).modifyTask fun task => if task.linked then task.cancel else task := by
  unfold fireToken
  show _ = ({ engine.view id with
    task := ((engine.tasks.get? id).map Task.bare).map fun task =>
      (if task.linked then task.cancel else task).bare } : View α)
  cases found : engine.tasks.get? id with
  | none =>
    show engine.view id = _
    unfold view
    rw [found]
    rfl
  | some task =>
    simp only
    cases linked : task.linked with
    | true =>
      rw [if_pos rfl, view_wake, view_modifyTask engine id fun _ => rfl]
      show ({ engine.view id with task := ((engine.tasks.get? id).map Task.bare).map _ } : View α)
        = _
      rw [found]
      simp [Task.bare, linked]
    | false =>
      rw [if_neg Bool.false_ne_true]
      unfold view
      rw [found]
      simp [Task.bare, linked]

/-- A behaviour goes the same way, and comes as far. -/
theorem act_shown (same : engine.view id = twin.view id) (actions : List Action)
    {timer other : Option Timer} (timers : timer.map Timer.bare = other.map Timer.bare) :
    (engine.act id actions timer).1.bare = (twin.act id actions other).1.bare ∧
      (engine.act id actions timer).2.view id = (twin.act id actions other).2.view id := by
  induction actions generalizing engine twin timer other with
  | nil => exact ⟨rfl, same⟩
  | cons action rest inductionHypothesis =>
    have spent := isSpent_eq same
    cases action with
    | cancelCaller =>
      refine inductionHypothesis ?_ rfl
      rw [fireToken_view, fireToken_view, same]
    | advanceClock millis =>
      refine inductionHypothesis ?_ rfl
      exact congrArg (fun view : View α => { view with scene := { view.scene with
        manualClock := view.scene.manualClock.advance (.ofMillis millis) } }) same
    | sleep millis =>
      unfold act
      rw [spent]
      split
      · refine ⟨congrArg (Halt.waiting _) timers, same⟩
      · obtain ⟨kept, looks⟩ := keepTimer_shown same (.ofMillis millis) timers
        generalize engine.keepTimer (.ofMillis millis) timer = set at kept looks ⊢
        generalize twin.keepTimer (.ofMillis millis) other = set' at kept looks ⊢
        rcases set with ⟨timer, after⟩
        rcases set' with ⟨timer', after'⟩
        simp only at kept looks ⊢
        rw [Timer.due_eq kept, now_eq looks]
        split
        · refine inductionHypothesis ?_ rfl
          rw [view_endWait, view_endWait, looks]
        · exact ⟨congrArg (fun timer => Halt.waiting _ (some timer)) kept, looks⟩
    | awaitGate =>
      unfold act
      rw [spent]
      split
      · exact ⟨rfl, same⟩
      · have tasks : (engine.tasks.get? id).map Task.bare = (twin.tasks.get? id).map Task.bare :=
          congrArg View.task same
        cases found : engine.tasks.get? id with
        | none =>
          cases found' : twin.tasks.get? id with
          | none => exact ⟨rfl, same⟩
          | some => rw [found, found'] at tasks; cases tasks
        | some task =>
          cases found' : twin.tasks.get? id with
          | none => rw [found, found'] at tasks; cases tasks
          | some task' =>
            rw [found, found'] at tasks
            have alike : task.bare = task'.bare := Option.some.inj tasks
            have gates : task.gate = task'.gate :=
              show task.bare.gate = task'.bare.gate by rw [alike]
            simp only [gates]
            split
            · refine inductionHypothesis ?_ rfl
              rw [view_endWait, view_endWait]
              exact congrArg View.endWait (view_modifyTask_eq same fun _ => rfl)
            · exact ⟨rfl, same⟩
    | crash => exact ⟨rfl, same⟩

theorem passGate_shown (same : engine.view id = twin.view id) :
    shown id (engine.passGate id) = shown id (twin.passGate id) := by
  unfold passGate shown
  rw [isSpent_eq same, gate_eq same]
  split
  · exact Prod.ext rfl same
  · split
    · refine Prod.ext rfl ?_
      show (Engine.endWait _).view id = (Engine.endWait _).view id
      rw [view_endWait, view_endWait, view_changeGate_eq same]
    · split
      · exact Prod.ext rfl same
      · split
        · refine Prod.ext rfl ?_
          show (Engine.endWait _).view id = (Engine.endWait _).view id
          rw [view_endWait, view_endWait, view_changeGate_eq same]
        · exact Prod.ext rfl (view_changeGate_eq same _)

theorem record_view (engine : Engine α) (id : TaskId) (occurrence : OperationEvent) :
    Engine.view { engine with sink := engine.sink.record occurrence } id = engine.view id := by
  unfold Sink.record
  split <;> rfl

theorem stalls_eq (same : engine.view id = twin.view id) (occurrence : OperationEvent) :
    (engine.sink.record occurrence).stalls occurrence =
      (twin.sink.record occurrence).stalls occurrence := by
  have held := congrArg (fun view => view.scene.stallOn)
    ((record_view engine id occurrence).trans (same.trans (record_view twin id occurrence).symm))
  have held : (engine.sink.record occurrence).stallOn = (twin.sink.record occurrence).stallOn :=
    held
  unfold Sink.stalls
  rw [held]

theorem send_shown (same : engine.view id = twin.view id) (occurrence : OperationEvent)
    {wait other : Wait} (waits : wait.bare = other.bare) :
    shown id (engine.send id occurrence wait) = shown id (twin.send id occurrence other) := by
  have takes : engine.sink.ready = twin.sink.ready :=
    congrArg (fun view => view.scene.takesEvents) same
  have recorded (engine : Engine α) : Engine.view (({ engine with
      sink := engine.sink.record occurrence } : Engine α).write
        (engine.sink.recordLines occurrence)) id = engine.view id :=
    (view_write _ id _).trans (record_view engine id occurrence)
  have alike := (recorded engine).trans (same.trans (recorded twin).symm)
  have sends : shown id (engine.send id occurrence .unbegun) =
      shown id (twin.send id occurrence .unbegun) := by
    unfold send
    simp only
    rw [takes]
    split
    · exact Prod.ext rfl same
    · have stalls := stalls_eq same occurrence
      show shown id (if (engine.sink.record occurrence).stalls occurrence = true then _ else _) =
        shown id (if (twin.sink.record occurrence).stalls occurrence = true then _ else _)
      rw [stalls]
      split
      · exact passGate_shown alike
      · exact Prod.ext rfl alike
  cases wait with
  | delivery =>
    cases other with
    | delivery => exact passGate_shown same
    | _ => cases waits
  | _ =>
    cases other with
    | delivery => cases waits
    | _ => exact sends

theorem awaitSlot_shown (same : engine.view id = twin.view id) (task : Task α) :
    shown id (engine.awaitSlot id task) = shown id (twin.awaitSlot id task) := by
  unfold awaitSlot
  rw [isSpent_eq same]
  split
  · exact Prod.ext rfl same
  · split
    next index ticket _ =>
      rw [hall_eq same task.operation]
      split
      · exact Prod.ext rfl same
      next bulkhead _ =>
        have polled (lines : List LogLine) :
            ((engine.write lines).changeBulkhead task.operation index
              fun bulkhead => (bulkhead.poll ticket task.cancelled).2).view id =
            ((twin.write lines).changeBulkhead task.operation index
              fun bulkhead => (bulkhead.poll ticket task.cancelled).2).view id :=
          view_changeBulkhead_eq
            (show (engine.write lines).view id = (twin.write lines).view id from same) _ _ _
        simp only
        generalize (bulkhead.poll ticket task.cancelled).1 = turn
        cases turn with
        | granted =>
          refine Prod.ext rfl (view_modifyTask_eq ?_ fun _ => rfl)
          rw [view_endWait, view_endWait, polled]
        | cancelled => exact Prod.ext rfl (view_modifyTask_eq (polled _) fun _ => rfl)
        | pending => exact Prod.ext rfl (polled _)
    · exact Prod.ext rfl same
    · exact Prod.ext rfl same

theorem bulkheadLoad_eq (same : engine.view id = twin.view id) (task : Task α) :
    engine.bulkheadLoad task = twin.bulkheadLoad task := by
  unfold bulkheadLoad
  rw [hall_eq same task.operation]

theorem enterBulkhead_shown (same : engine.view id = twin.view id) (task : Task α)
    (policy : BulkheadPolicy) :
    (engine.enterBulkhead id task policy).1 = (twin.enterBulkhead id task policy).1 ∧
      (engine.enterBulkhead id task policy).2.view id =
        (twin.enterBulkhead id task policy).2.view id := by
  have states := stateOf_eq same task.operation
  have provided : ((engine.stateOf task.operation).provide policy).1 =
        ((twin.stateOf task.operation).provide policy).1 ∧
      ((engine.stateOf task.operation).provide policy).2.cleared =
        ((twin.stateOf task.operation).provide policy).2.cleared := by
    have halls := hall_eq same task.operation
    unfold OperationState.provide
    rw [halls]
    split
    · split
      · exact ⟨rfl, states⟩
      · exact ⟨rfl, congrArg (fun state : OperationState => { state with
          bulkheads := (twin.stateOf task.operation).bulkheads ++ [Bulkhead.ofPolicy policy] })
            states⟩
    · exact ⟨rfl, congrArg (fun state : OperationState =>
        { state with bulkheads := [Bulkhead.ofPolicy policy] }) states⟩
  unfold enterBulkhead
  generalize (engine.stateOf task.operation).provide policy = given at provided ⊢
  generalize (twin.stateOf task.operation).provide policy = given' at provided ⊢
  rcases given with ⟨rebuilt, state⟩
  rcases given' with ⟨rebuilt', state'⟩
  obtain ⟨rfl, alike⟩ := provided
  have alike : state.cleared = state'.cleared := alike
  have halls : state.bulkheads = state'.bulkheads := OperationState.bulkheads_eq alike
  simp only [halls]
  refine ⟨trivial, view_modifyTask_eq (view_setState_eq same _ ?_) fun _ => rfl⟩
  exact congrArg (fun state : OperationState =>
    { state with bulkheads := state.bulkheads.modify (state'.bulkheads.length - 1) fun _ =>
      (state'.bulkheads.getD (state'.bulkheads.length - 1) (Bulkhead.ofPolicy policy)).enter.2 })
    alike

theorem view_setBreaker_eq (same : engine.view id = twin.view id) (operation : OperationId)
    (breaker : Breaker) :
    (engine.setState operation { engine.stateOf operation with breaker }).view id =
      (twin.setState operation { twin.stateOf operation with breaker }).view id :=
  view_setState_eq same operation (congrArg (fun state : OperationState => { state with breaker })
    (stateOf_eq same operation))

theorem acquirePermit_shown (same : engine.view id = twin.view id) (task : Task α)
    (rule : BreakerRule) :
    (engine.acquirePermit id task rule).1 = (twin.acquirePermit id task rule).1 ∧
      (engine.acquirePermit id task rule).2.view id =
        (twin.acquirePermit id task rule).2.view id := by
  have set := view_setBreaker_eq same task.operation
  unfold acquirePermit
  simp only [circuit_eq same task.operation, clock_eq same]
  generalize (twin.stateOf task.operation).breaker.acquire rule twin.clock = acquired
  rcases acquired with ⟨_ | permit, breaker⟩
  · exact ⟨rfl, set breaker⟩
  · exact ⟨rfl, view_modifyTask_eq (set breaker) fun _ => rfl⟩

theorem recordSample_shown (same : engine.view id = twin.view id) (task : Task α)
    (rule : BreakerRule) (failed : Bool) :
    (engine.recordSample id task rule failed).1 = (twin.recordSample id task rule failed).1 ∧
      (engine.recordSample id task rule failed).2.view id =
        (twin.recordSample id task rule failed).2.view id := by
  unfold recordSample
  split
  · exact ⟨rfl, same⟩
  · simp only [circuit_eq same task.operation, clock_eq same]
    exact ⟨trivial, view_modifyTask_eq (view_setBreaker_eq same _ _) fun _ => rfl⟩

theorem dropPermit_shown (same : engine.view id = twin.view id) (task : Task α) :
    (engine.dropPermit id task).view id = (twin.dropPermit id task).view id := by
  unfold dropPermit
  split
  · exact same
  · simp only [circuit_eq same task.operation]
    exact view_modifyTask_eq (view_setBreaker_eq same _ _) fun _ => rfl

theorem leavePlace_shown (same : engine.view id = twin.view id) (task : Task α) :
    (engine.leavePlace id task).view id = (twin.leavePlace id task).view id := by
  unfold leavePlace
  split
  · exact same
  · exact view_changeBulkhead_eq (view_modifyTask_eq same fun _ => rfl) _ _ _

theorem expire_bare (task : Task α) : task.expire.bare = task.bare.expire.bare := by
  rcases task with ⟨operation, input, service, linked, cancelled, gate, calls, place, permit,
    progress⟩
  simp only [Task.expire, Task.bare]
  cases calls.reverse <;> rfl

theorem proceed_shown (same : engine.view id = twin.view id) (limit : Option Duration)
    (rest : Behaviour Fault) (started : Nat) {timer timer' deadline deadline' : Option Timer}
    (timers : timer.map Timer.bare = timer'.map Timer.bare)
    (deadlines : deadline.map Timer.bare = deadline'.map Timer.bare) :
    shown id (engine.proceed id limit rest timer started deadline) =
      shown id (twin.proceed id limit rest timer' started deadline') := by
  obtain ⟨halts, looks⟩ := act_shown same rest.actions timers
  unfold proceed
  generalize engine.act id rest.actions timer = acts at halts looks ⊢
  generalize twin.act id rest.actions timer' = acts' at halts looks ⊢
  rcases acts with ⟨halt, after⟩
  rcases acts' with ⟨halt', after'⟩
  simp only at halts looks ⊢
  cases halt with
  | finished =>
    cases halt' with
    | finished => exact Prod.ext rfl looks
    | _ => cases halts
  | crashed =>
    cases halt' with
    | crashed => exact Prod.ext rfl looks
    | _ => cases halts
  | waiting actions timer =>
    cases halt' with
    | waiting actions' timer' =>
      obtain ⟨rfl, timers⟩ := Halt.waiting.inj halts
      cases limit with
      | none =>
        refine Prod.ext ?_ looks
        exact congrArg (fun timer => Reply.later (.attempt _ timer started none)) timers
      | some limit =>
        obtain ⟨kept, later⟩ := keepTimer_shown looks limit deadlines
        simp only
        generalize after.keepTimer limit deadline = set at kept later ⊢
        generalize after'.keepTimer limit deadline' = set' at kept later ⊢
        rcases set with ⟨deadline, final⟩
        rcases set' with ⟨deadline', final'⟩
        simp only at kept later ⊢
        rw [Timer.due_eq kept, now_eq later]
        split
        · refine Prod.ext rfl (view_modifyTask_eq ?_ expire_bare)
          rw [view_endWait, view_endWait, later]
        · refine Prod.ext ?_ later
          show Reply.later (.attempt _ (timer.map Timer.bare) started (some deadline.bare)) =
            .later (.attempt _ (timer'.map Timer.bare) started (some deadline'.bare))
          rw [timers, kept]
    | _ => cases halts

theorem attempt_shown (same : engine.view id = twin.view id) (task : Task α) (number : Nat)
    (limit : Option Duration) (heedsCaller : Bool) {wait other : Wait}
    (waits : wait.bare = other.bare) :
    shown id (engine.attempt id task number limit heedsCaller wait) =
      shown id (twin.attempt id task number limit heedsCaller other) := by
  unfold attempt
  rw [isSpent_eq same]
  split
  · exact Prod.ext (congrArg Reply.later waits) same
  · split
    · exact Prod.ext rfl same
    · have begins : shown id ((engine.modifyTask id fun task =>
            { task with calls := task.calls ++ [{ number }] }).proceed id limit
              (task.service.respond number) none engine.now none) =
          shown id ((twin.modifyTask id fun task =>
            { task with calls := task.calls ++ [{ number }] }).proceed id limit
              (task.service.respond number) none twin.now none) := by
        rw [now_eq same]
        exact proceed_shown (view_modifyTask_eq same fun _ => rfl) limit _ _ rfl rfl
      cases wait with
      | attempt rest timer started deadline =>
        cases other with
        | attempt rest' timer' started' deadline' =>
          obtain ⟨rfl, timers, rfl, deadlines⟩ := Wait.attempt.inj waits
          exact proceed_shown same limit rest started timers deadlines
        | _ => cases waits
      | _ =>
        cases other with
        | attempt => cases waits
        | _ =>
          -- Whoever is not in the attempt yet starts it, whatever it waited for.
          cases task.service.unready? (number + 1) with
          | some failure => exact Prod.ext rfl same
          | none => exact begins

theorem proceedPause_shown (same : engine.view id = twin.view id) (task : Task α)
    (delay : Duration) {timer other : Option Timer}
    (timers : timer.map Timer.bare = other.map Timer.bare) :
    shown id (engine.proceedPause id task delay timer) =
      shown id (twin.proceedPause id task delay other) := by
  have sleeper : engine.sleeper = twin.sleeper := congrArg (fun view => view.scene.sleeper) same
  unfold proceedPause
  rw [isSpent_eq same, sleeper]
  split
  · exact Prod.ext (congrArg (fun timer => Reply.later (.pause timer)) timers) same
  · split
    · exact Prod.ext rfl same
    · split
      · exact Prod.ext rfl same
      · exact Prod.ext rfl same
      · obtain ⟨kept, later⟩ := keepTimer_shown same delay timers
        generalize engine.keepTimer delay timer = set at kept later ⊢
        generalize twin.keepTimer delay other = set' at kept later ⊢
        rcases set with ⟨timer, after⟩
        rcases set' with ⟨timer', after'⟩
        simp only at kept later ⊢
        rw [Timer.due_eq kept, now_eq later]
        split
        · refine Prod.ext rfl ?_
          show after.endWait.view id = after'.endWait.view id
          rw [view_endWait, view_endWait, later]
        · exact Prod.ext (congrArg (fun timer => Reply.later (.pause (some timer))) kept) later

theorem pause_shown (same : engine.view id = twin.view id) (task : Task α) (delay : Duration)
    {wait other : Wait} (waits : wait.bare = other.bare) :
    shown id (engine.pause id task delay wait) = shown id (twin.pause id task delay other) := by
  have sleeper : engine.sleeper = twin.sleeper := congrArg (fun view => view.scene.sleeper) same
  have begins : shown id (engine.pause id task delay .unbegun) =
      shown id (twin.pause id task delay .unbegun) := by
    unfold pause
    simp only [sleeper]
    refine proceedPause_shown ?_ task delay rfl
    cases twin.sleeper with
    | stepping =>
      exact congrArg (fun view : View α => { view with scene := { view.scene with
        sleeper := .stepping, manualClock := view.scene.manualClock.advance delay } }) same
    | instant =>
      exact congrArg (fun view : View α =>
        { view with scene := { view.scene with sleeper := .instant } }) same
    | timed =>
      exact congrArg (fun view : View α =>
        { view with scene := { view.scene with sleeper := .timed } }) same
  cases wait with
  | pause timer =>
    cases other with
    | pause timer' => exact proceedPause_shown same task delay (Wait.pause.inj waits)
    | _ => cases waits
  | _ =>
    cases other with
    | pause => cases waits
    | _ => exact begins

theorem jitter_shown (same : engine.view id = twin.view id) (bound delay : Duration) :
    (engine.jitter bound delay).1 = (twin.jitter bound delay).1 ∧
      (engine.jitter bound delay).2.view id = (twin.jitter bound delay).2.view id := by
  have words : engine.words = twin.words := congrArg (fun view => view.scene.words) same
  unfold jitter
  rw [words]
  exact ⟨rfl, congrArg (fun view : View α => { view with scene := { view.scene with
    words := ((Jitter.bounded bound).apply delay twin.words).2 } }) same⟩

/-- Before the fallback, what a task asks for gets the same reply where things look the same to
it. -/
theorem answer_shown (same : engine.view id = twin.view id) (task : Task α) {request : Request}
    (guarding : request.Guarding) {wait other : Wait} (waits : wait.bare = other.bare) :
    shown id (engine.answer id task request wait) =
      shown id (twin.answer id task request other) := by
  have given {ρ : Type} {first second : ρ × Engine α}
      (alike : first.1 = second.1 ∧ first.2.view id = second.2.view id) :
      shown id (Reply.given first) = shown id (Reply.given second) :=
    Prod.ext (congrArg Reply.now alike.1) alike.2
  cases request with
  | clock => exact Prod.ext (congrArg Reply.now (clock_eq same)) same
  | time => exact Prod.ext (congrArg Reply.now (now_eq same)) same
  | emit event => exact send_shown same _ waits
  | log line => exact Prod.ext rfl same
  | count counter amount =>
    refine Prod.ext rfl (view_setState_eq same _ ?_)
    rw [OperationState.cleared_count, OperationState.cleared_count, stateOf_eq same]
  | resolve => exact guarding.elim
  | enterBulkhead policy => exact given (enterBulkhead_shown same task policy)
  | awaitSlot => exact awaitSlot_shown same task
  | bulkheadLoad => exact Prod.ext (congrArg Reply.now (bulkheadLoad_eq same task)) same
  | leaveBulkhead => exact Prod.ext rfl (leavePlace_shown same task)
  | acquirePermit rule => exact given (acquirePermit_shown same task rule)
  | recordSample rule failed => exact given (recordSample_shown same task rule failed)
  | dropPermit => exact Prod.ext rfl (dropPermit_shown same task)
  | attempt number limit heedsCaller =>
    exact attempt_shown same task number limit heedsCaller waits
  | pause delay => exact pause_shown same task delay waits
  | jitter bound delay => exact given (jitter_shown same bound delay)
  | strategy name =>
    have known : engine.strategies = twin.strategies :=
      congrArg (fun view => view.scene.strategies) same
    exact Prod.ext (congrArg (fun strategies : Table String Strategy =>
      (Reply.now (strategies.get? name) : Reply (Option Strategy))) known) same
  | handle => exact guarding.elim

/-- A reply does not depend on how far the plan of the task has come. -/
theorem answer_bare (engine : Engine α) (id : TaskId) (task : Task α) (request : Request)
    (wait : Wait) :
    engine.answer id task.bare request wait = engine.answer id task request wait := by
  cases request <;> rfl

end Engine

end Resilience
