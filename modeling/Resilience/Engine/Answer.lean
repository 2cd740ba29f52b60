import Resilience.Engine.Basic

/-!
Answers: what an engine does about each request of a task. A request is answered at once or keeps
the task waiting, and then it is looked at again whenever the task wakes. A task whose stint is
used up has to wait at the next sleep, gate, queue, attempt or pause, ready or not.
-/

namespace Resilience

inductive Reply (ρ : Type) where
  | now (answer : ρ)
  | later (wait : Wait)
  /-- The task ends without a result. -/
  | crash

def Reply.given {ρ σ : Type} (answered : ρ × σ) : Reply ρ × σ := (.now answered.1, answered.2)

inductive Halt where
  | finished
  | waiting (actions : List Action) (timer : Option Timer)
  | crashed

namespace Engine

variable {α : Type}

def act (engine : Engine α) (id : TaskId) : List Action → Option Timer → Halt × Engine α
  | [], _ => (.finished, engine)
  | .cancelCaller :: rest, _ => (engine.fireToken id).act id rest none
  | .advanceClock millis :: rest, _ =>
    { engine with manualClock := engine.manualClock.advance (.ofMillis millis) }.act id rest none
  | .sleep millis :: rest, timer =>
    if engine.isSpent then (.waiting (.sleep millis :: rest) timer, engine.setAside id)
    else
      let (timer, engine) := engine.keepTimer (.ofMillis millis) timer
      if timer.due ≤ engine.now then engine.endWait.act id rest none
      else (.waiting (.sleep millis :: rest) (some timer), engine)
  | .awaitGate :: rest, _ =>
    if engine.isSpent then (.waiting (.awaitGate :: rest) none, engine.setAside id)
    else
      match engine.tasks.get? id with
      | some task =>
        if 0 < task.gate then
          (engine.modifyTask id fun task => { task with gate := task.gate - 1 }).endWait.act id
            rest none
        else (.waiting (.awaitGate :: rest) none, engine)
      | none => (.waiting (.awaitGate :: rest) none, engine)
  | .crash :: _, _ => (.crashed, engine)

def passGate (engine : Engine α) (id : TaskId) : Reply Unit × Engine α :=
  if engine.isSpent then (.later .delivery, engine.setAside id)
  else if engine.sink.gate.isGranted id then (.now (), (engine.changeGate (·.claim id)).endWait)
  else if engine.sink.gate.queue.contains id then (.later .delivery, engine)
  else if 0 < engine.sink.gate.free then (.now (), (engine.changeGate Slots.take).endWait)
  else (.later .delivery, engine.changeGate (·.join id))

def send (engine : Engine α) (id : TaskId) (occurrence : OperationEvent) :
    Wait → Reply Unit × Engine α
  | .delivery => engine.passGate id
  | _ =>
    if !engine.sink.ready then (.now (), engine)
    else
      let lines := engine.sink.recordLines occurrence
      let engine := { engine with sink := engine.sink.record occurrence }.write lines
      if engine.sink.stalls occurrence then engine.passGate id else (.now (), engine)

def enterBulkhead (engine : Engine α) (id : TaskId) (task : Task α) (policy : BulkheadPolicy) :
    Entry × Engine α :=
  let (rebuilt, state) := (engine.stateOf task.operation).provide policy
  let index := state.bulkheads.length - 1
  let (admission, bulkhead) := (state.bulkheads.getD index (.ofPolicy policy)).enter
  let place :=
    match admission with
    | .admitted => some (.slot index)
    | .queued ticket => some (.ticket index ticket)
    | .full .. => none
  (⟨rebuilt, admission, bulkhead.waiting⟩,
    (engine.setState task.operation (state.modifyBulkhead index fun _ => bulkhead)).modifyTask id
      fun task => { task with place })

def awaitSlot (engine : Engine α) (id : TaskId) (task : Task α) : Reply Bool × Engine α :=
  if engine.isSpent then (.later .slot, engine.setAside id)
  else
    match task.place with
    | some (.ticket index ticket) =>
      match (engine.stateOf task.operation).bulkheads[index]? with
      | none => (.now false, engine)
      | some bulkhead =>
        let turn := (bulkhead.poll ticket task.cancelled).1
        let engine := (engine.write (Bulkhead.pollLines turn)).changeBulkhead task.operation index
          fun bulkhead => (bulkhead.poll ticket task.cancelled).2
        match turn with
        | .granted =>
          (.now true, engine.endWait.modifyTask id fun task =>
            { task with place := some (.slot index) })
        | .cancelled => (.now false, engine.modifyTask id fun task => { task with place := none })
        | .pending => (.later .slot, engine)
    | some (.slot _) | none => (.now false, engine)

def bulkheadLoad (engine : Engine α) (task : Task α) : Nat × Nat :=
  match task.place.bind fun place => (engine.stateOf task.operation).bulkheads[place.bulkhead]? with
  | some bulkhead => (bulkhead.inFlight, bulkhead.policy.slots)
  | none => (0, 0)

def acquirePermit (engine : Engine α) (id : TaskId) (task : Task α) (rule : BreakerRule) :
    Except Duration (Option Transition) × Engine α :=
  let state := engine.stateOf task.operation
  let (result, breaker) := state.breaker.acquire rule engine.clock
  let engine := (engine.setState task.operation { state with breaker }).write
    (Breaker.acquireLines task.operation result)
  match result with
  | .ok permit =>
    (.ok permit.transition, engine.modifyTask id fun task => { task with permit := some permit })
  | .error retryAfter => (.error retryAfter, engine)

def recordSample (engine : Engine α) (id : TaskId) (task : Task α) (rule : BreakerRule)
    (failed : Bool) : Option Transition × Engine α :=
  match task.permit with
  | none => (none, engine)
  | some permit =>
    let state := engine.stateOf task.operation
    let (transition, breaker) := state.breaker.record permit rule engine.clock failed
    let lines := state.breaker.recordLines task.operation permit rule transition
    (transition, ((engine.setState task.operation { state with breaker }).write lines).modifyTask id
      fun task => { task with permit := none })

/-- Goes on with an attempt. Its behaviour is looked at before its deadline, so an attempt that
is ready at its deadline is in time. The deadline is looked at even if the behaviour used the
stint up. -/
def proceed (engine : Engine α) (id : TaskId) (limit : Option Duration) (rest : Behaviour Fault)
    (timer : Option Timer) (started : Nat) (deadline : Option Timer) :
    Reply Outcome × Engine α :=
  match engine.act id rest.actions timer with
  | (.finished, engine) => (.now rest.result, engine)
  | (.crashed, engine) => (.crash, engine)
  | (.waiting actions timer, engine) =>
    let rest := { rest with actions }
    match limit with
    | none => (.later (.attempt rest timer started none), engine)
    | some limit =>
      let (deadline, engine) := engine.keepTimer limit deadline
      if deadline.due ≤ engine.now then
        (.now (.error (.timeout (.ofMillis (engine.now - started)) limit)),
          engine.endWait.modifyTask id Task.expire)
      else (.later (.attempt rest timer started (some deadline)), engine)

/-- Makes an attempt. A caller who gives up is looked at before anything else. -/
def attempt (engine : Engine α) (id : TaskId) (task : Task α) (number : Nat)
    (limit : Option Duration) (heedsCaller : Bool) (wait : Wait) : Reply Outcome × Engine α :=
  if heedsCaller && engine.isSpent then (.later wait, engine.setAside id)
  else if heedsCaller && task.cancelled then (.now (.error .cancelled), engine)
  else
    match wait with
    | .attempt rest timer started deadline =>
      engine.proceed id limit rest timer started deadline
    | _ =>
      match task.service.unready? (number + 1) with
      | some failure => (.now (.error (.inner failure)), engine)
      | none =>
        (engine.modifyTask id fun task =>
          { task with calls := task.calls ++ [{ number }] }).proceed id limit
            (task.service.respond number) none engine.now none

/-- Goes on with a pause. A caller who gives up is looked at before the delay. -/
def proceedPause (engine : Engine α) (id : TaskId) (task : Task α) (delay : Duration)
    (timer : Option Timer) : Reply Bool × Engine α :=
  if engine.isSpent then (.later (.pause timer), engine.setAside id)
  else if task.cancelled then (.now false, engine)
  else
    match engine.sleeper with
    | .instant | .stepping => (.now true, engine)
    | .timed =>
      let (timer, engine) := engine.keepTimer delay timer
      if timer.due ≤ engine.now then (.now true, engine.endWait)
      else (.later (.pause (some timer)), engine)

def pause (engine : Engine α) (id : TaskId) (task : Task α) (delay : Duration) :
    Wait → Reply Bool × Engine α
  | .pause timer => engine.proceedPause id task delay timer
  | _ =>
    let engine :=
      { engine with journal := { engine.journal with sleeps := engine.journal.sleeps ++ [delay] } }
    let engine :=
      match engine.sleeper with
      | .stepping => { engine with manualClock := engine.manualClock.advance delay }
      | .instant | .timed => engine
    engine.proceedPause id task delay none

def jitter (engine : Engine α) (bound delay : Duration) : Duration × Engine α :=
  let (delay, words) := (Jitter.bounded bound).apply delay engine.words
  (delay, { engine with words })

def proceedHandler (engine : Engine α) (id : TaskId) (rest : Behaviour Failure)
    (timer : Option Timer) : Reply (Option (Except Failure String)) × Engine α :=
  match engine.act id rest.actions timer with
  | (.finished, engine) => (.now (some rest.result), engine)
  | (.crashed, engine) => (.crash, engine)
  | (.waiting actions timer, engine) => (.later (.handler { rest with actions } timer), engine)

def handle (engine : Engine α) (id : TaskId) (task : Task α) (name : String) (fault : Fault) :
    Wait → Reply (Option (Except Failure String)) × Engine α
  | .handler rest timer => engine.proceedHandler id rest timer
  | _ =>
    match engine.handlers.text? name with
    | some respond => engine.proceedHandler id (respond task.input fault) none
    | none => (.now none, engine)

/-- The policy of an operation. An operation that has one gets a state of its own. -/
def resolve (engine : Engine α) (operation : OperationId) : Option Policy × Engine α :=
  match engine.registry.resolve? operation with
  | some policy => (some policy, engine.setState operation (engine.stateOf operation))
  | none => (none, engine)

def answer (engine : Engine α) (id : TaskId) (task : Task α) :
    (request : Request) → Wait → Reply request.Answer × Engine α
  | .clock, _ => (.now engine.clock, engine)
  | .time, _ => (.now engine.now, engine)
  | .emit event, wait => engine.send id ⟨task.operation, event⟩ wait
  | .log line, _ => (.now (), engine.write [line])
  | .count counter amount, _ =>
    (.now (), engine.setState task.operation
      ((engine.stateOf task.operation).count counter amount))
  | .resolve, _ => Reply.given (engine.resolve task.operation)
  | .enterBulkhead policy, _ => Reply.given (engine.enterBulkhead id task policy)
  | .awaitSlot, _ => engine.awaitSlot id task
  | .bulkheadLoad, _ => (.now (engine.bulkheadLoad task), engine)
  | .leaveBulkhead, _ => (.now (), engine.leavePlace id task)
  | .acquirePermit rule, _ => Reply.given (engine.acquirePermit id task rule)
  | .recordSample rule failed, _ => Reply.given (engine.recordSample id task rule failed)
  | .dropPermit, _ => (.now (), engine.dropPermit id task)
  | .attempt number limit heedsCaller, wait => engine.attempt id task number limit heedsCaller wait
  | .pause delay, wait => engine.pause id task delay wait
  | .jitter bound delay, _ => Reply.given (engine.jitter bound delay)
  | .strategy name, _ => (.now (engine.strategies.get? name), engine)
  | .handle name fault, wait => engine.handle id task name fault wait

end Engine

end Resilience
