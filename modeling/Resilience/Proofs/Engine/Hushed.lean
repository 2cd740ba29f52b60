import Resilience.Proofs.Engine.Muted

/-!
What a muted engine does. Whatever a task asks for, policies apart, a muted engine replies the same
and becomes what the engine becomes, muted; and so it is when a task ends, and when the engine is
changed from outside.
-/

namespace Resilience.Engine

variable {α : Type} (engine : Engine α) (id : TaskId)

@[simp] theorem isSpent_muted : engine.muted.isSpent = engine.isSpent := rfl

theorem setAside_muted : engine.muted.setAside id = (engine.setAside id).muted := rfl

theorem endWait_muted : engine.muted.endWait = engine.endWait.muted := rfl

theorem act_muted (actions : List Action) (timer : Option Timer) :
    engine.muted.act id actions timer = hushed (engine.act id actions timer) := by
  induction actions generalizing engine timer with
  | nil => rfl
  | cons action rest inductionHypothesis =>
    cases action with
    | cancelCaller => simp only [act, fireToken_muted, inductionHypothesis]
    | advanceClock millis =>
      exact inductionHypothesis
        { engine with manualClock := engine.manualClock.advance (.ofMillis millis) } none
    | sleep millis =>
      simp only [act, keepTimer_muted, apply_ite hushed, ← inductionHypothesis]
      rfl
    | awaitGate =>
      have passes : engine.muted.modifyTask id (fun task => { task with gate := task.gate - 1 }) =
          (engine.modifyTask id fun task => { task with gate := task.gate - 1 }).muted :=
        modifyTask_muted engine id fun _ => rfl
      simp only [act, get?_muted, apply_ite hushed, passes]
      cases engine.tasks.get? id with
      | none => rfl
      | some task =>
        simp only [Option.map_some, apply_ite hushed, ← inductionHypothesis]
        rfl
    | crash => rfl

theorem passGate_muted : engine.muted.passGate id = hushed (engine.passGate id) := by
  simp only [passGate, changeGate_muted, apply_ite hushed]
  rfl

theorem muted_record (occurrence : OperationEvent) (lines : List LogLine) :
    ({ engine with sink := engine.sink.record occurrence }.write lines).muted = engine.muted := by
  unfold Sink.record
  cases engine.sink.store <;> simp [muted, write]

theorem stalls_record (sink : Sink) (occurrence : OperationEvent) :
    (sink.record occurrence).stalls occurrence = sink.stalls occurrence := by
  unfold Sink.stalls Sink.record
  cases sink.store <;> rfl

theorem hushed_send {wait : Wait} (unsent : wait ≠ .delivery) (occurrence : OperationEvent) :
    hushed (engine.send id occurrence wait) =
      if engine.sink.ready && engine.sink.stalls occurrence then engine.muted.passGate id
      else (.now (), engine.muted) := by
  have sent : engine.send id occurrence wait =
      if !engine.sink.ready then (.now (), engine)
      else
        let after := { engine with sink := engine.sink.record occurrence }.write
          (engine.sink.recordLines occurrence)
        if (engine.sink.record occurrence).stalls occurrence then after.passGate id
        else (.now (), after) := by
    cases wait with
    | delivery => exact absurd rfl unsent
    | _ => rfl
  rw [sent, stalls_record]
  cases engine.sink.ready with
  | false => rfl
  | true =>
    simp only [apply_ite hushed, ← passGate_muted, muted_record]
    simp only [hushed, muted_record]
    rfl

theorem send_muted (occurrence : OperationEvent) (wait : Wait) :
    hushed (engine.muted.send id occurrence wait) = hushed (engine.send id occurrence wait) := by
  by_cases sent : wait = .delivery
  · subst sent
    show hushed (engine.muted.passGate id) = hushed (engine.passGate id)
    rw [passGate_muted, hushed_hushed]
  · rw [hushed_send _ _ sent, hushed_send _ _ sent, muted_muted]
    rfl

theorem proceed_muted (limit : Option Duration) (rest : Behaviour Fault)
    (timer : Option Timer) (started : Nat) (deadline : Option Timer) :
    engine.muted.proceed id limit rest timer started deadline =
      hushed (engine.proceed id limit rest timer started deadline) := by
  unfold proceed
  rw [act_muted]
  generalize engine.act id rest.actions timer = acts
  rcases acts with ⟨halt, after⟩
  cases halt with
  | finished => rfl
  | crashed => rfl
  | waiting actions timer =>
    cases limit with
    | none => rfl
    | some bound =>
      have expires (after : Engine α) : after.endWait.muted.modifyTask id Task.expire =
          (after.endWait.modifyTask id Task.expire).muted := modifyTask_muted _ id Task.expire_muted
      simp only [hushed, keepTimer_muted]
      generalize after.keepTimer bound deadline = timed
      rcases timed with ⟨due, after⟩
      have late : due.due ≤ after.muted.now ↔ due.due ≤ after.now := Iff.rfl
      simp only [late]
      split
      · exact Prod.ext rfl (expires after)
      · rfl

theorem attempt_muted (task : Task α) (number : Nat) (limit : Option Duration)
    (heedsCaller : Bool) (wait : Wait) :
    engine.muted.attempt id task.muted number limit heedsCaller wait =
      hushed (engine.attempt id task number limit heedsCaller wait) := by
  simp only [attempt, apply_ite hushed]
  cases wait with
  | attempt rest timer started deadline =>
    simp only [← proceed_muted]
    rfl
  | _ =>
    have calls : engine.muted.modifyTask id
          (fun task => { task with calls := task.calls ++ [{ number }] }) =
        Engine.muted (engine.modifyTask id
          fun task => { task with calls := task.calls ++ [{ number }] }) :=
      modifyTask_muted engine id fun _ => rfl
    rw [show task.muted.service = task.service from rfl]
    cases task.service.unready? (number + 1) with
    | some failure => rfl
    | none =>
      simp only [← proceed_muted, ← calls]
      rfl

theorem proceedPause_muted (task : Task α) (delay : Duration) (timer : Option Timer) :
    engine.muted.proceedPause id task.muted delay timer =
      hushed (engine.proceedPause id task delay timer) := by
  have same : engine.muted.sleeper = engine.sleeper := rfl
  cases sleeper : engine.sleeper <;>
    simp only [proceedPause, same, sleeper, apply_ite hushed] <;> cases timer <;> rfl

theorem pause_muted (task : Task α) (delay : Duration) (wait : Wait) :
    engine.muted.pause id task.muted delay wait = hushed (engine.pause id task delay wait) := by
  have same : engine.muted.sleeper = engine.sleeper := rfl
  unfold pause
  split
  · exact proceedPause_muted engine id task delay _
  · cases sleeper : engine.sleeper <;> simp only [same, sleeper, ← proceedPause_muted] <;> rfl

theorem proceedHandler_muted (rest : Behaviour Failure) (timer : Option Timer) :
    engine.muted.proceedHandler id rest timer = hushed (engine.proceedHandler id rest timer) := by
  unfold proceedHandler
  rw [act_muted]
  generalize engine.act id rest.actions timer = acts
  rcases acts with ⟨halt, after⟩
  cases halt <;> rfl

theorem handle_muted (task : Task α) (name : String) (fault : Fault) (wait : Wait) :
    engine.muted.handle id task.muted name fault wait =
      hushed (engine.handle id task name fault wait) := by
  have same : engine.muted.handlers = engine.handlers := rfl
  unfold handle
  split
  · exact proceedHandler_muted engine id _ _
  · rw [same]
    cases engine.handlers.text? name with
    | some respond => exact proceedHandler_muted engine id _ none
    | none => rfl

theorem awaitSlot_muted (task : Task α) :
    hushed (engine.muted.awaitSlot id task.muted) = hushed (engine.awaitSlot id task) := by
  have place : task.muted.place = task.place := rfl
  have invokes : task.muted.operation = task.operation := rfl
  have cancelled : task.muted.cancelled = task.cancelled := rfl
  simp only [awaitSlot, apply_ite hushed, isSpent_muted, place, invokes, cancelled, stateOf_muted,
    OperationState.bulkheads_muted]
  split
  · simp only [hushed, setAside_muted, muted_muted]
  · rcases task.place with _ | index | ⟨index, ticket⟩
    · simp only [hushed, muted_muted]
    · simp only [hushed, muted_muted]
    · simp only
      cases (engine.stateOf task.operation).bulkheads[index]? with
      | none => simp only [hushed, muted_muted]
      | some bulkhead =>
        have polled (lines : List LogLine) :
            ((engine.muted.write lines).changeBulkhead task.operation index fun bulkhead =>
              (bulkhead.poll ticket task.cancelled).2).muted =
            ((engine.write lines).changeBulkhead task.operation index fun bulkhead =>
              (bulkhead.poll ticket task.cancelled).2).muted := by
          simp only [← changeBulkhead_muted, muted_write, muted_muted]
        simp only
        cases (bulkhead.poll ticket task.cancelled).1 with
        | pending => exact Prod.ext rfl (polled _)
        | granted =>
          refine Prod.ext rfl ?_
          show (setPlace (endWait _) id _).muted = (setPlace (endWait _) id _).muted
          rw [← setPlace_muted, ← setPlace_muted, ← endWait_muted, ← endWait_muted, polled]
        | cancelled =>
          refine Prod.ext rfl ?_
          show (setPlace _ id none).muted = (setPlace _ id none).muted
          rw [← setPlace_muted, ← setPlace_muted, polled]

theorem bulkheadLoad_muted (task : Task α) :
    engine.muted.bulkheadLoad task.muted = engine.bulkheadLoad task := by
  unfold bulkheadLoad
  simp only [stateOf_muted]
  rfl

theorem provide_muted (state : OperationState) (policy : BulkheadPolicy) :
    state.muted.provide policy = ((state.provide policy).1, (state.provide policy).2.muted) := by
  unfold OperationState.provide
  rw [OperationState.bulkheads_muted]
  cases state.bulkheads.getLast? with
  | none => rfl
  | some current =>
    simp only
    split <;> rfl

theorem enterBulkhead_muted (task : Task α) (policy : BulkheadPolicy) :
    engine.muted.enterBulkhead id task.muted policy =
      hushed (engine.enterBulkhead id task policy) := by
  have invokes : task.muted.operation = task.operation := rfl
  unfold enterBulkhead
  simp only [invokes, stateOf_muted, provide_muted, OperationState.bulkheads_muted]
  generalize (engine.stateOf task.operation).provide policy = provided
  rcases provided with ⟨rebuilt, state⟩
  simp only
  generalize (state.bulkheads.getD (state.bulkheads.length - 1) (.ofPolicy policy)).enter = entered
  rcases entered with ⟨admission, bulkhead⟩
  have placed (place : Option Place) :=
    (engine.setState task.operation (state.modifyBulkhead
      (state.bulkheads.length - 1) fun _ => bulkhead)).setPlace_muted id place
  simp only [← setState_muted] at placed
  exact Prod.ext rfl (placed _)

theorem setCircuit_muted (operation : OperationId) (breaker : Breaker) :
    engine.muted.setCircuit operation breaker = (engine.setCircuit operation breaker).muted := by
  unfold setCircuit
  rw [stateOf_muted]
  exact setState_muted engine operation { engine.stateOf operation with breaker }

theorem acquirePermit_muted (task : Task α) (rule : BreakerRule) :
    hushed (engine.muted.acquirePermit id task.muted rule) =
      hushed (engine.acquirePermit id task rule) := by
  have invokes : task.muted.operation = task.operation := rfl
  have entered (breaker : Breaker) := engine.setCircuit_muted task.operation breaker
  unfold setCircuit at entered
  rw [stateOf_muted] at entered
  unfold acquirePermit
  simp only [invokes, stateOf_muted, clock_muted, OperationState.breaker_muted, entered]
  rcases (engine.stateOf task.operation).breaker.acquire rule engine.clock with
    ⟨retryAfter | permit, breaker⟩
  · refine Prod.ext rfl ?_
    exact muted_muted _
  · refine Prod.ext rfl ?_
    show (setPermit _ id (some permit)).muted = (setPermit _ id (some permit)).muted
    rw [← setPermit_muted, ← setPermit_muted, muted_write, muted_write, muted_muted]

theorem recordSample_muted (task : Task α) (rule : BreakerRule) (failed : Bool) :
    hushed (engine.muted.recordSample id task.muted rule failed) =
      hushed (engine.recordSample id task rule failed) := by
  have invokes : task.muted.operation = task.operation := rfl
  have held : task.muted.permit = task.permit := rfl
  have entered (breaker : Breaker) := engine.setCircuit_muted task.operation breaker
  unfold setCircuit at entered
  rw [stateOf_muted] at entered
  unfold recordSample
  rw [held]
  cases task.permit with
  | none => simp only [hushed, muted_muted]
  | some permit =>
    simp only [invokes, stateOf_muted, clock_muted, OperationState.breaker_muted, entered]
    refine Prod.ext rfl ?_
    show (setPermit _ id none).muted = (setPermit _ id none).muted
    rw [← setPermit_muted, ← setPermit_muted, muted_write, muted_write, muted_muted]

/-- Whatever is asked for, policies apart, a muted engine replies the same. -/
theorem answer_muted (task : Task α) {request : Request} (other : request ≠ .resolve)
    (wait : Wait) :
    hushed (engine.muted.answer id task.muted request wait) =
      hushed (engine.answer id task request wait) := by
  have exactly {ρ : Type} {reply : ρ × Engine Unit} {reply' : ρ × Engine α}
      (same : reply = hushed reply') : hushed reply = hushed reply' := by
    rw [same, hushed_hushed]
  have given {ρ : Type} {reply : ρ × Engine Unit} {reply' : ρ × Engine α}
      (same : hushed reply = hushed reply') :
      hushed (Reply.given reply) = hushed (Reply.given reply') := by
    have answers : reply.1 = reply'.1 := congrArg Prod.fst same
    have after : reply.2.muted = reply'.2.muted := congrArg Prod.snd same
    exact Prod.ext (congrArg Reply.now answers) after
  cases request with
  | resolve => exact absurd rfl other
  | clock | time | strategy | log =>
    refine Prod.ext rfl ?_
    exact muted_muted engine
  | emit event => exact send_muted engine id _ wait
  | count counter amount =>
    refine Prod.ext rfl ?_
    show (engine.muted.setState task.operation
        ((engine.muted.stateOf task.operation).count counter amount)).muted =
      (engine.setState task.operation
        ((engine.stateOf task.operation).count counter amount)).muted
    rw [stateOf_muted, ← setState_muted, muted_muted, OperationState.muted_count, setState_muted]
  | enterBulkhead policy => exact given (exactly (enterBulkhead_muted engine id task policy))
  | awaitSlot => exact awaitSlot_muted engine id task
  | bulkheadLoad =>
    refine Prod.ext ?_ (muted_muted engine)
    exact congrArg Reply.now (bulkheadLoad_muted engine task)
  | leaveBulkhead =>
    refine Prod.ext rfl ?_
    show (engine.muted.leavePlace id task.muted).muted = (engine.leavePlace id task).muted
    rw [leavePlace_muted, muted_muted]
  | acquirePermit rule => exact given (acquirePermit_muted engine id task rule)
  | recordSample rule failed => exact given (recordSample_muted engine id task rule failed)
  | dropPermit =>
    refine Prod.ext rfl ?_
    show (engine.muted.dropPermit id task.muted).muted = (engine.dropPermit id task).muted
    rw [dropPermit_muted, muted_muted]
  | attempt number limit heedsCaller =>
    exact exactly (attempt_muted engine id task number limit heedsCaller wait)
  | pause delay => exact exactly (pause_muted engine id task delay wait)
  | jitter bound delay => exact given (exactly rfl)
  | handle name fault => exact exactly (handle_muted engine id task name fault wait)

theorem setProgress_muted (progress : Progress α) :
    engine.muted.setProgress id progress.muted = (engine.setProgress id progress).muted :=
  modifyTask_muted engine id fun _ => rfl

theorem muted_finish (result : Option α) :
    (engine.muted.finish id (result.map fun _ => ())).muted = (engine.finish id result).muted := by
  unfold finish
  rw [get?_muted]
  cases engine.tasks.get? id with
  | none => exact muted_muted engine
  | some task =>
    show (setProgress (release engine.muted id task.muted) id _).muted =
      (setProgress (release engine id task) id _).muted
    rw [← setProgress_muted, release_muted, ← setProgress_muted, muted_muted]
    cases result <;> rfl

theorem abort_muted : engine.muted.abort id = (engine.abort id).muted := by
  have forgets (engine : Engine α) : engine.muted.forget id = (engine.forget id).muted := by
    simp [forget, muted]
  unfold abort
  rw [get?_muted]
  cases engine.tasks.get? id with
  | none => rfl
  | some task =>
    simp only [Option.map_some, Task.isRunning_muted, release_muted]
    split
    · exact forgets _
    · exact forgets engine

theorem cancel_muted : engine.muted.cancel id = (engine.cancel id).muted := by
  have cancels : engine.muted.modifyTask id Task.cancel =
      (engine.modifyTask id Task.cancel).muted := modifyTask_muted engine id Task.cancel_muted
  unfold cancel
  rw [get?_muted]
  cases engine.tasks.get? id with
  | none => rfl
  | some task =>
    simp only [Option.map_some, Task.heedsCaller_muted, cancels,
      show task.muted.linked = task.linked from rfl]
    split
    · exact wake_muted _ id
    · rfl

theorem openGate_muted (permits : Nat) :
    engine.muted.openGate id permits = (engine.openGate id permits).muted := by
  have opens : engine.muted.modifyTask id (fun task => { task with gate := task.gate + permits }) =
      (engine.modifyTask id fun task => { task with gate := task.gate + permits }).muted :=
    modifyTask_muted engine id fun _ => rfl
  unfold openGate
  rw [get?_muted]
  cases engine.tasks.get? id with
  | none => rfl
  | some task =>
    simp only [Option.map_some, Task.awaitsGate_muted, opens]
    split
    · exact wake_muted _ id
    · rfl

theorem spawn_muted (task : Task α) :
    engine.muted.spawn task.muted = hushed (engine.spawn task) := by
  refine Prod.ext rfl ?_
  have entered : ({ engine.muted with
      tasks := engine.muted.tasks.set engine.nextTask task.muted,
      nextTask := engine.nextTask + 1 } : Engine Unit) =
        Engine.muted { engine with
          tasks := engine.tasks.set engine.nextTask task, nextTask := engine.nextTask + 1 } := by
    simp [muted]
  show ({ engine.muted with
      tasks := engine.muted.tasks.set engine.nextTask task.muted,
      nextTask := engine.nextTask + 1 } : Engine Unit).wake engine.nextTask = _
  rw [entered, wake_muted]
  rfl

/-- What looks up a policy shows only that the operation is in use. -/
theorem muted_resolve (operation : OperationId) :
    (engine.resolve operation).2.muted =
      if (engine.registry.resolve? operation).isSome then
        engine.muted.setState operation (engine.muted.stateOf operation)
      else engine.muted := by
  unfold resolve
  cases engine.registry.resolve? operation with
  | none => rfl
  | some policy =>
    rw [stateOf_muted, setState_muted]
    rfl

theorem muted_reset (operation : OperationId) :
    (engine.reset operation).2.muted =
      if (engine.registry.resolve? operation).isSome then
        match engine.muted.operations.get? operation with
        | some state =>
          engine.muted.setState operation { state with breaker := state.breaker.reset }
        | none => engine.muted
      else engine.muted := by
  have known : engine.muted.operations.get? operation =
      (engine.operations.get? operation).map OperationState.muted := Table.get?_map ..
  rw [known]
  unfold reset Registry.resolve
  cases engine.registry.resolve? operation with
  | none => rfl
  | some policy =>
    cases engine.operations.get? operation with
    | none => rfl
    | some state =>
      exact (setState_muted engine operation { state with breaker := state.breaker.reset }).symm

end Resilience.Engine
