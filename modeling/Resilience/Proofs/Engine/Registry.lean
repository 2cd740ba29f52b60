import Resilience.Proofs.Engine.Run
import Resilience.Proofs.Policy.Registry

/-!
The registry of an engine: it is read where a task finds its policy and where an operation is reset,
and only what changes policies changes it. Everything else goes on the same under any registry, and
whatever the log has already.
-/

namespace Resilience

namespace Engine

variable {α : Type}

/-- An engine with another registry, and with lines in its log before those that it has. -/
def under (engine : Engine α) (registry : Registry) (prior : List LogLine) : Engine α :=
  { engine with
    registry
    journal := { engine.journal with lines := prior ++ engine.journal.lines } }

def alike {ρ : Type} (registry : Registry) (prior : List LogLine) (reply : ρ × Engine α) :
    ρ × Engine α :=
  (reply.1, reply.2.under registry prior)

section Under

variable (engine : Engine α) (registry : Registry) (prior : List LogLine) (id : TaskId)

@[simp] theorem write_under (lines : List LogLine) :
    (engine.under registry prior).write lines = (engine.write lines).under registry prior :=
  congrArg (fun lines => { engine with registry, journal := { engine.journal with lines } })
    (List.append_assoc ..)

@[simp] theorem modifyTask_under (change : Task α → Task α) :
    (engine.under registry prior).modifyTask id change =
      (engine.modifyTask id change).under registry prior :=
  rfl

@[simp] theorem setState_under (operation : OperationId) (state : OperationState) :
    (engine.under registry prior).setState operation state =
      (engine.setState operation state).under registry prior := rfl

@[simp] theorem stateOf_under (operation : OperationId) :
    (engine.under registry prior).stateOf operation = engine.stateOf operation := rfl

@[simp] theorem clock_under : (engine.under registry prior).clock = engine.clock := rfl

@[simp] theorem tasks_under : (engine.under registry prior).tasks = engine.tasks := rfl

@[simp] theorem wake_under :
    (engine.under registry prior).wake id = (engine.wake id).under registry prior := by
  unfold wake under
  dsimp only
  split
  · rfl
  · split <;> rfl

@[simp] theorem wakeAll_under (ids : List TaskId) :
    (engine.under registry prior).wakeAll ids = (engine.wakeAll ids).under registry prior := by
  unfold wakeAll
  induction ids generalizing engine with
  | nil => rfl
  | cons id rest inductionHypothesis =>
    simp only [List.foldl_cons, wake_under, inductionHypothesis]

@[simp] theorem keepTimer_under (duration : Duration) (timer : Option Timer) :
    (engine.under registry prior).keepTimer duration timer =
      alike registry prior (engine.keepTimer duration timer) := by
  cases timer <;> rfl

@[simp] theorem changeGate_under (change : Slots → Slots) :
    (engine.under registry prior).changeGate change =
      (engine.changeGate change).under registry prior :=
  wakeAll_under { engine with sink := { engine.sink with gate := change engine.sink.gate } }
    registry prior _

@[simp] theorem changeBulkhead_under (operation : OperationId) (index : Nat)
    (change : Bulkhead → Bulkhead) :
    (engine.under registry prior).changeBulkhead operation index change =
      (engine.changeBulkhead operation index change).under registry prior := by
  unfold changeBulkhead
  simp only [stateOf_under]
  split
  · rfl
  · rw [setState_under, wakeAll_under]
    rfl

@[simp] theorem fireToken_under :
    (engine.under registry prior).fireToken id = (engine.fireToken id).under registry prior := by
  unfold fireToken
  simp only [tasks_under]
  split
  · split
    · rw [modifyTask_under, wake_under]
    · rfl
  · rfl

@[simp] theorem dropPermit_under (task : Task α) :
    (engine.under registry prior).dropPermit id task =
      (engine.dropPermit id task).under registry prior := by
  unfold dropPermit
  split <;> rfl

@[simp] theorem leavePlace_under (task : Task α) :
    (engine.under registry prior).leavePlace id task =
      (engine.leavePlace id task).under registry prior := by
  unfold leavePlace
  split
  · rfl
  · rw [modifyTask_under, changeBulkhead_under]

@[simp] theorem release_under (task : Task α) :
    (engine.under registry prior).release id task =
      (engine.release id task).under registry prior := by
  unfold release
  simp only [changeGate_under, dropPermit_under, leavePlace_under]

theorem act_under (actions : List Action) (timer : Option Timer) :
    (engine.under registry prior).act id actions timer =
      alike registry prior (engine.act id actions timer) := by
  induction actions generalizing engine timer with
  | nil => rfl
  | cons action rest inductionHypothesis =>
    cases action with
    | cancelCaller => simp only [act, fireToken_under, inductionHypothesis]
    | advanceClock millis =>
      exact inductionHypothesis
        { engine with manualClock := engine.manualClock.advance (.ofMillis millis) } none
    | sleep millis =>
      simp only [act, keepTimer_under, apply_ite (alike registry prior), ← inductionHypothesis]
      rfl
    | awaitGate =>
      simp only [act, tasks_under, apply_ite (alike registry prior)]
      cases engine.tasks.get? id with
      | none => rfl
      | some task =>
        simp only [apply_ite (alike registry prior), ← inductionHypothesis]
        rfl
    | crash => rfl

theorem passGate_under :
    (engine.under registry prior).passGate id = alike registry prior (engine.passGate id) := by
  simp only [passGate, changeGate_under, apply_ite (alike registry prior)]
  rfl

theorem send_under (occurrence : OperationEvent) (wait : Wait) :
    (engine.under registry prior).send id occurrence wait =
      alike registry prior (engine.send id occurrence wait) := by
  unfold send
  split
  · exact passGate_under engine registry prior id
  · have recorded := write_under { engine with sink := engine.sink.record occurrence } registry
      prior (engine.sink.recordLines occurrence)
    unfold under at recorded
    simp only [apply_ite (alike registry prior), ← passGate_under, under, recorded]
    rfl

theorem awaitSlot_under (task : Task α) :
    (engine.under registry prior).awaitSlot id task =
      alike registry prior (engine.awaitSlot id task) := by
  simp only [awaitSlot, apply_ite (alike registry prior), stateOf_under, write_under,
    changeBulkhead_under]
  rcases task.place with _ | index | ⟨index, ticket⟩
  · rfl
  · rfl
  · simp only
    cases (engine.stateOf task.operation).bulkheads[index]? with
    | none => rfl
    | some bulkhead =>
      simp only
      cases (bulkhead.poll ticket task.cancelled).1 <;> rfl

theorem acquirePermit_under (task : Task α) (rule : BreakerRule) :
    (engine.under registry prior).acquirePermit id task rule =
      alike registry prior (engine.acquirePermit id task rule) := by
  unfold acquirePermit
  simp only [stateOf_under, clock_under, setState_under, write_under]
  cases ((engine.stateOf task.operation).breaker.acquire rule engine.clock).1 <;> rfl

theorem recordSample_under (task : Task α) (rule : BreakerRule) (failed : Bool) :
    (engine.under registry prior).recordSample id task rule failed =
      alike registry prior (engine.recordSample id task rule failed) := by
  unfold recordSample
  split
  · rfl
  · simp only [stateOf_under, clock_under, setState_under, write_under, modifyTask_under]
    rfl

theorem proceed_under (limit : Option Duration) (rest : Behaviour Fault)
    (timer : Option Timer) (started : Nat) (deadline : Option Timer) :
    (engine.under registry prior).proceed id limit rest timer started deadline =
      alike registry prior (engine.proceed id limit rest timer started deadline) := by
  unfold proceed
  rw [act_under]
  generalize engine.act id rest.actions timer = acts
  rcases acts with ⟨halt, after⟩
  cases halt with
  | finished => rfl
  | crashed => rfl
  | waiting actions timer =>
    cases limit with
    | none => rfl
    | some bound =>
      simp only [apply_ite (alike registry prior)]
      cases deadline <;> rfl

theorem attempt_under (task : Task α) (number : Nat) (limit : Option Duration)
    (heedsCaller : Bool) (wait : Wait) :
    (engine.under registry prior).attempt id task number limit heedsCaller wait =
      alike registry prior (engine.attempt id task number limit heedsCaller wait) := by
  simp only [attempt, apply_ite (alike registry prior)]
  cases wait with
  | attempt rest timer started deadline =>
    simp only [← proceed_under]
    rfl
  | _ =>
    cases task.service.unready? (number + 1) with
    | some failure => rfl
    | none =>
      simp only [← proceed_under]
      rfl

theorem proceedPause_under (task : Task α) (delay : Duration) (timer : Option Timer) :
    (engine.under registry prior).proceedPause id task delay timer =
      alike registry prior (engine.proceedPause id task delay timer) := by
  have same : (engine.under registry prior).sleeper = engine.sleeper := rfl
  cases sleeper : engine.sleeper <;>
    simp only [proceedPause, same, sleeper, apply_ite (alike registry prior)] <;>
    cases timer <;> rfl

theorem pause_under (task : Task α) (delay : Duration) (wait : Wait) :
    (engine.under registry prior).pause id task delay wait =
      alike registry prior (engine.pause id task delay wait) := by
  have same : (engine.under registry prior).sleeper = engine.sleeper := rfl
  unfold pause
  split
  · exact proceedPause_under engine registry prior id task delay _
  · cases sleeper : engine.sleeper <;> simp only [same, sleeper, ← proceedPause_under] <;> rfl

theorem proceedHandler_under (rest : Behaviour Failure) (timer : Option Timer) :
    (engine.under registry prior).proceedHandler id rest timer =
      alike registry prior (engine.proceedHandler id rest timer) := by
  unfold proceedHandler
  rw [act_under]
  generalize engine.act id rest.actions timer = acts
  rcases acts with ⟨halt, after⟩
  cases halt <;> rfl

theorem handle_under (task : Task α) (name : String) (fault : Fault) (wait : Wait) :
    (engine.under registry prior).handle id task name fault wait =
      alike registry prior (engine.handle id task name fault wait) := by
  have same : (engine.under registry prior).handlers = engine.handlers := rfl
  unfold handle
  split
  · exact proceedHandler_under engine registry prior id _ _
  · rw [same]
    cases engine.handlers.text? name with
    | some respond => exact proceedHandler_under engine registry prior id _ none
    | none => rfl

theorem answer_under (task : Task α) {request : Request} (other : request ≠ .resolve)
    (wait : Wait) :
    (engine.under registry prior).answer id task request wait =
      alike registry prior (engine.answer id task request wait) := by
  cases request with
  | resolve => exact absurd rfl other
  | log line =>
    show (Reply.now (), (engine.under registry prior).write [line]) = _
    rw [write_under]
    rfl
  | emit event => exact send_under engine registry prior id _ wait
  | awaitSlot => exact awaitSlot_under engine registry prior id task
  | leaveBulkhead =>
    show (Reply.now (), (engine.under registry prior).leavePlace id task) = _
    rw [leavePlace_under]
    rfl
  | acquirePermit rule =>
    show Reply.given ((engine.under registry prior).acquirePermit id task rule) = _
    rw [acquirePermit_under]
    rfl
  | recordSample rule failed =>
    show Reply.given ((engine.under registry prior).recordSample id task rule failed) = _
    rw [recordSample_under]
    rfl
  | dropPermit =>
    show (Reply.now (), (engine.under registry prior).dropPermit id task) = _
    rw [dropPermit_under]
    rfl
  | attempt number limit heedsCaller =>
    exact attempt_under engine registry prior id task number limit heedsCaller wait
  | pause delay => exact pause_under engine registry prior id task delay wait
  | handle name fault => exact handle_under engine registry prior id task name fault wait
  | _ => rfl

theorem finish_under (result : Option α) :
    (engine.under registry prior).finish id result =
      (engine.finish id result).under registry prior := by
  unfold finish
  simp only [tasks_under]
  split
  · rfl
  · simp only [release_under, modifyTask_under]
    rfl

theorem forget_under :
    (engine.under registry prior).forget id = (engine.forget id).under registry prior := rfl

theorem abort_under :
    (engine.under registry prior).abort id = (engine.abort id).under registry prior := by
  unfold abort
  simp only [tasks_under]
  split
  · split
    · rw [release_under, forget_under]
    · rfl
  · rfl

theorem cancel_under :
    (engine.under registry prior).cancel id = (engine.cancel id).under registry prior := by
  unfold cancel
  simp only [tasks_under]
  split
  · split
    · rw [modifyTask_under, wake_under]
    · rfl
  · rfl

theorem openGate_under (permits : Nat) :
    (engine.under registry prior).openGate id permits =
      (engine.openGate id permits).under registry prior := by
  unfold openGate
  simp only [tasks_under]
  split
  · split
    · rw [modifyTask_under, wake_under]
    · rfl
  · rfl

theorem reset_under (operation : OperationId)
    (registered : (registry.resolve? operation).isSome =
      (engine.registry.resolve? operation).isSome) :
    ((engine.under registry prior).reset operation).2 =
      (engine.reset operation).2.under registry prior := by
  unfold reset
  simp only [Registry.resolve, show (engine.under registry prior).registry = registry from rfl]
  cases here : engine.registry.resolve? operation <;>
    cases there : registry.resolve? operation
  · rfl
  · simp [here, there] at registered
  · simp [here, there] at registered
  · simp only [show (engine.under registry prior).operations = engine.operations from rfl]
    split
    · rfl
    · rw [setState_under, write_under]

end Under

end Engine

namespace Change

variable {α : Type}

def keeps (prior : List LogLine) : Change α → List LogLine
  | collect => []
  | _ => prior

/-- Whether a change neither reads nor changes the registry. -/
def Blind : Change α → Prop
  | register .. | overrideField .. | clearOverride .. | reset _ => False
  | _ => True

theorem apply_under (engine : Engine α) (registry : Registry) (prior : List LogLine)
    {change : Change α} (blind : change.Blind) :
    change.apply (engine.under registry prior) =
      (change.apply engine).under registry (change.keeps prior) := by
  cases change with
  | spawn task =>
    exact Engine.wake_under { engine with
      tasks := engine.tasks.set engine.nextTask task, nextTask := engine.nextTask + 1 }
        registry prior engine.nextTask
  | cancel id => exact engine.cancel_under registry prior id
  | openGate id permits => exact engine.openGate_under registry prior id permits
  | openSink permits => exact engine.changeGate_under registry prior _
  | registerHandler name handler =>
    exact Engine.write_under { engine with handlers := engine.handlers.set name handler } registry
      prior _
  | register => exact blind.elim
  | overrideField => exact blind.elim
  | clearOverride => exact blind.elim
  | reset => exact blind.elim
  | _ => rfl

end Change

namespace Engine

variable {α : Type}

theorem answer_registry (engine : Engine α) (id : TaskId) (task : Task α) (request : Request)
    (wait : Wait) : (engine.answer id task request wait).2.registry = engine.registry := by
  by_cases resolves : request = .resolve
  · subst resolves
    show (engine.resolve task.operation).2.registry = engine.registry
    unfold resolve
    split <;> rfl
  · exact congrArg (fun replied => replied.2.registry)
      (answer_under engine engine.registry [] id task resolves wait)

end Engine

theorem registry_of_under {α : Type} {engine after : Engine α} {prior : List LogLine}
    (same : after = after.under engine.registry prior) : after.registry = engine.registry := by
  rw [same]
  rfl

theorem Step.sound {α : Type} {more : List (Move α)} {middle stage : Stage α}
    (step : Step middle more stage) (sound : middle.engine.registry.Sound) :
    stage.engine.registry.Sound := by
  have kept {before after : Engine α} {prior : List LogLine} (sound : before.registry.Sound)
      (same : after = after.under before.registry prior) : after.registry.Sound := by
    rw [registry_of_under same]
    exact sound
  have answered {engine : Engine α} (sound : engine.registry.Sound) {after : Engine α}
      {id : TaskId} {task : Task α} {request : Request} {wait : Wait}
      {reply : Reply request.Answer}
      (replies : engine.answer id task request wait = (reply, after)) :
      after.registry.Sound := by
    have same := engine.answer_registry id task request wait
    rw [replies] at same
    exact same.symm ▸ sound
  cases step with
  | change engine change =>
    have blind {change : Change α} (blind : change.Blind) :
        (change.apply engine).registry.Sound :=
      kept sound (Change.apply_under engine engine.registry [] blind)
    cases change with
    | register operation policy => exact Engine.amend_sound sound (.register operation policy)
    | overrideField operation kind field value =>
      exact Engine.amend_sound sound (.overrideField operation kind field value)
    | clearOverride operation kind field =>
      exact Engine.amend_sound sound (.clearOverride operation kind field)
    | reset operation => exact kept sound (engine.reset_under engine.registry [] operation rfl)
    | _ => exact blind trivial
  | abort engine id => exact kept sound (engine.abort_under engine.registry [] id)
  | resume => exact sound
  | answer _ answers => exact answered sound answers
  | @wait _ after _ _ _ _ _ _ _ waits =>
    show after.registry.Sound
    exact answered sound waits
  | @crash _ after id _ _ _ _ _ crashes =>
    exact kept (answered sound crashes) (after.finish_under _ [] id none)
  | @finish engine id result => exact kept sound (engine.finish_under _ [] id (some result))
  | vanish => exact sound

end Resilience
