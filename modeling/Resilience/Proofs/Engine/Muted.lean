import Resilience.Proofs.Engine.Holdings
import Resilience.Proofs.Invocation.Shadow

/-!
Muted engines: what is left of an engine without its registry, its log, the events that its sink
keeps, the counters of retries that stop, and the plans of its tasks. Whatever goes on in an engine
reads nothing else, policies apart: it goes on in the muted engine just the same.
-/

namespace Resilience

namespace Table

variable {κ α β : Type} [DecidableEq κ]

def map (change : α → β) (table : Table κ α) : Table κ β :=
  ⟨table.entries.map fun entry => (entry.1, change entry.2)⟩

variable (change : α → β) (table : Table κ α) (key : κ)

@[simp] theorem get?_map : (table.map change).get? key = (table.get? key).map change := by
  simp [map, get?, List.find?_map, Function.comp_def]

theorem map_put (value : α) (entries : List (κ × α)) :
    put key (change value) (entries.map fun entry => (entry.1, change entry.2)) =
      (put key value entries).map fun entry => (entry.1, change entry.2) := by
  induction entries with
  | nil => rfl
  | cons entry rest inductionHypothesis =>
    simp only [List.map_cons, put]
    split
    · rfl
    · rw [inductionHypothesis, List.map_cons]

@[simp] theorem set_map (value : α) :
    (table.map change).set key (change value) = (table.set key value).map change :=
  congrArg Table.mk (map_put change key value table.entries)

theorem modify_map {before : α → α} {after : β → β}
    (agree : ∀ value, after (change value) = change (before value)) :
    (table.map change).modify key after = (table.modify key before).map change := by
  unfold modify
  rw [get?_map]
  cases table.get? key with
  | none => rfl
  | some value => simp only [Option.map_some, agree, set_map]

@[simp] theorem erase_map :
    (table.map change).erase key = (table.erase key).map change := by
  simp [map, erase, List.filter_map, Function.comp_def]

omit [DecidableEq κ] in
@[simp] theorem map_map {γ : Type} (again : β → γ) :
    (table.map change).map again = table.map (again ∘ change) := by
  simp [map, Function.comp_def]

end Table

/-- Counters without those of retries that stop. -/
def Metrics.muted (metrics : Metrics) : Metrics :=
  ⟨fun counter => if counter.isStop then 0 else metrics.count counter⟩

namespace OperationState

def muted (state : OperationState) : OperationState :=
  { state with metrics := state.metrics.muted }

@[simp] theorem breaker_muted (state : OperationState) : state.muted.breaker = state.breaker := rfl

@[simp] theorem bulkheads_muted (state : OperationState) :
    state.muted.bulkheads = state.bulkheads := rfl

theorem muted_initial : ({} : OperationState).muted = {} := by
  simp [muted, Metrics.muted]

@[simp] theorem muted_muted (state : OperationState) : state.muted.muted = state.muted := by
  have again (counter : Counter) :
      (if counter.isStop then 0 else if counter.isStop then 0 else state.metrics.count counter) =
        if counter.isStop then 0 else state.metrics.count counter := by
    split <;> rfl
  simp [muted, Metrics.muted, again]

theorem muted_count (state : OperationState) (counter : Counter) (amount : Nat) :
    (state.muted.count counter amount).muted = (state.count counter amount).muted := by
  have counted (other : Counter) : (state.muted.count counter amount).muted.metrics.count other =
      (state.count counter amount).muted.metrics.count other := by
    show (if other.isStop then 0 else (state.metrics.muted.add counter amount).count other) =
      if other.isStop then 0 else (state.metrics.add counter amount).count other
    by_cases stops : other.isStop = true <;> simp [Metrics.muted, stops]
  exact congrArg (fun metrics => { state with metrics }) (congrArg Metrics.mk (funext counted))

theorem muted_count_of_faint {counter : Counter} {amount : Nat}
    (faint : counter = .retries ∧ amount = 0 ∨ counter.isStop = true) (state : OperationState) :
    (state.count counter amount).muted = state.muted := by
  have counted (other : Counter) :
      (if other.isStop then 0 else (state.metrics.add counter amount).count other) =
        if other.isStop then 0 else state.metrics.count other := by
    rw [Metrics.count_add]
    by_cases same : other = counter
    · subst same
      rcases faint with ⟨-, rfl⟩ | stops
      · simp
      · simp [stops]
    · simp [same]
  exact congrArg (fun metrics => { state with metrics }) (congrArg Metrics.mk (funext counted))

end OperationState

def Plan.ofHeeds : Bool → Plan Unit
  | true => .ask .awaitSlot fun _ => .done ()
  | false => .done ()

def Plan.heedsCaller {α : Type} : Plan α → Bool
  | .done _ => false
  | .ask request _ => request.heedsCaller

def Progress.muted {α : Type} : Progress α → Progress Unit
  | suspended plan wait => suspended (.ofHeeds plan.heedsCaller) wait
  | finished _ => finished ()
  | crashed => crashed

namespace Task

variable {α : Type} (task : Task α)

def muted : Task Unit := { task with progress := task.progress.muted }

@[simp] theorem muted_muted : task.muted.muted = task.muted := by
  rcases task with ⟨operation, input, service, linked, cancelled, gate, calls, place, permit, at_⟩
  rcases at_ with ⟨plan, wait⟩ | result | _
  · cases heeds : plan.heedsCaller <;> simp [muted, Progress.muted, Plan.ofHeeds, heeds]
    all_goals rfl
  · rfl
  · rfl

@[simp] theorem isRunning_muted : task.muted.isRunning = task.isRunning := by
  unfold isRunning muted
  cases task.progress <;> rfl

@[simp] theorem timers_muted : task.muted.timers = task.timers := by
  unfold timers muted
  cases task.progress <;> rfl

@[simp] theorem awaitsSlot_muted : task.muted.awaitsSlot = task.awaitsSlot := by
  unfold awaitsSlot muted
  rcases task.progress with ⟨plan, wait⟩ | result | _
  · cases wait <;> rfl
  · rfl
  · rfl

@[simp] theorem heedsCaller_muted : task.muted.heedsCaller = task.heedsCaller := by
  unfold heedsCaller muted
  rcases task.progress with ⟨_ | ⟨request, next⟩, wait⟩ | result | _
  · rfl
  · cases heeds : request.heedsCaller <;> simp [Progress.muted, Plan.heedsCaller, heeds] <;> rfl
  · rfl
  · rfl

@[simp] theorem awaitsGate_muted : Engine.awaitsGate task.muted = Engine.awaitsGate task := by
  unfold Engine.awaitsGate muted
  rcases task.progress with ⟨plan, wait⟩ | result | _
  · rcases wait with _ | _ | _ | _ | ⟨⟨_ | ⟨action, _⟩, _⟩, _⟩ | ⟨⟨_ | ⟨action, _⟩, _⟩, _, _, _⟩
    all_goals first | rfl | (cases action <;> rfl)
  · rfl
  · rfl

@[simp] theorem cancel_muted : task.muted.cancel = task.cancel.muted := rfl

@[simp] theorem expire_muted : task.muted.expire = task.expire.muted := by
  cases reversed : task.calls.reverse <;> simp [expire, muted, reversed]

end Task

namespace Engine

variable {α : Type}

def muted (engine : Engine α) : Engine Unit where
  operations := engine.operations.map OperationState.muted
  handlers := engine.handlers
  strategies := engine.strategies
  clockKind := engine.clockKind
  sleeper := engine.sleeper
  manualClock := engine.manualClock
  now := engine.now
  nextStamp := engine.nextStamp
  words := engine.words
  sink := { engine.sink with store := .nothing }
  tasks := engine.tasks.map Task.muted
  nextTask := engine.nextTask
  ready := engine.ready
  stint := engine.stint
  aside := engine.aside
  stints := engine.stints
  journal := { sleeps := engine.journal.sleeps }

def hushed {ρ : Type} (reply : ρ × Engine α) : ρ × Engine Unit := (reply.1, reply.2.muted)

@[simp] theorem muted_muted (engine : Engine α) : engine.muted.muted = engine.muted := by
  simp [muted, Function.comp_def]

@[simp] theorem hushed_hushed {ρ : Type} (reply : ρ × Engine α) :
    hushed (hushed reply) = hushed reply := by
  simp [hushed]

section Parts

variable (engine : Engine α) (id : TaskId)

@[simp] theorem muted_write (lines : List LogLine) : (engine.write lines).muted = engine.muted :=
  rfl

@[simp] theorem get?_muted : engine.muted.tasks.get? id = (engine.tasks.get? id).map Task.muted :=
  Table.get?_map ..

@[simp] theorem clock_muted : engine.muted.clock = engine.clock := rfl

@[simp] theorem stateOf_muted (operation : OperationId) :
    engine.muted.stateOf operation = (engine.stateOf operation).muted := by
  unfold stateOf muted
  rw [Table.get?_map]
  cases engine.operations.get? operation with
  | none => exact OperationState.muted_initial.symm
  | some state => rfl

theorem setState_muted (operation : OperationId) (state : OperationState) :
    engine.muted.setState operation state.muted = (engine.setState operation state).muted := by
  simp [setState, muted]

theorem setState_known {operation : OperationId} {known state : OperationState}
    (found : engine.operations.get? operation = some known) (same : state.muted = known.muted) :
    (engine.setState operation state).muted = engine.muted := by
  have present : engine.muted.operations.get? operation = some state.muted := by
    rw [same]
    exact (Table.get?_map ..).trans (congrArg _ found)
  rw [← setState_muted]
  unfold setState
  rw [Table.set_of_present _ _ present]

theorem modifyTask_muted {change : Task α → Task α} {muted : Task Unit → Task Unit}
    (agree : ∀ task : Task α, muted task.muted = (change task).muted) :
    engine.muted.modifyTask id muted = (engine.modifyTask id change).muted := by
  unfold modifyTask Engine.muted
  rw [Table.modify_map Task.muted engine.tasks id agree]

theorem setPermit_muted (permit : Option Permit) :
    engine.muted.setPermit id permit = (engine.setPermit id permit).muted :=
  modifyTask_muted engine id fun _ => rfl

theorem setPlace_muted (place : Option Place) :
    engine.muted.setPlace id place = (engine.setPlace id place).muted :=
  modifyTask_muted engine id fun _ => rfl

@[simp] theorem isRunning_muted : engine.muted.isRunning id = engine.isRunning id := by
  unfold isRunning
  rw [get?_muted]
  cases engine.tasks.get? id with
  | none => rfl
  | some task => simp

@[simp] theorem wake_muted : engine.muted.wake id = (engine.wake id).muted := by
  unfold wake
  by_cases own : engine.stint.task = some id
  · simp [muted, own]
  · by_cases ready : engine.ready.contains id = true <;> simp_all [muted]

@[simp] theorem wakeAll_muted (ids : List TaskId) :
    engine.muted.wakeAll ids = (engine.wakeAll ids).muted := by
  unfold wakeAll
  induction ids generalizing engine with
  | nil => rfl
  | cons id rest inductionHypothesis =>
    simp only [List.foldl_cons, wake_muted, inductionHypothesis]

@[simp] theorem keepTimer_muted (duration : Duration) (timer : Option Timer) :
    engine.muted.keepTimer duration timer = hushed (engine.keepTimer duration timer) := by
  cases timer <;> rfl

@[simp] theorem changeGate_muted (change : Slots → Slots) :
    engine.muted.changeGate change = (engine.changeGate change).muted :=
  wakeAll_muted { engine with sink := { engine.sink with gate := change engine.sink.gate } } _

@[simp] theorem ticketHolders_muted (operation : OperationId) (index : Nat) (tickets : List Nat) :
    engine.muted.ticketHolders operation index tickets =
      engine.ticketHolders operation index tickets := by
  have place (task : Task α) : task.muted.place = task.place := rfl
  have invokes (task : Task α) : task.muted.operation = task.operation := rfl
  simp only [ticketHolders, muted, Table.map, List.filter_map, List.map_map]
  congr 1
  apply List.filter_congr
  intro entry _
  simp only [Function.comp_apply, Task.awaitsSlot_muted, place, invokes]

@[simp] theorem changeBulkhead_muted (operation : OperationId) (index : Nat)
    (change : Bulkhead → Bulkhead) :
    engine.muted.changeBulkhead operation index change =
      (engine.changeBulkhead operation index change).muted := by
  simp only [changeBulkhead, stateOf_muted, ticketHolders_muted, OperationState.bulkheads_muted]
  cases (engine.stateOf operation).bulkheads[index]? with
  | none => rfl
  | some bulkhead =>
    simp only
    rw [← wakeAll_muted, ← setState_muted]
    rfl

@[simp] theorem fireToken_muted :
    engine.muted.fireToken id = (engine.fireToken id).muted := by
  have cancels : engine.muted.modifyTask id Task.cancel =
      (engine.modifyTask id Task.cancel).muted := modifyTask_muted engine id Task.cancel_muted
  unfold fireToken
  rw [get?_muted]
  cases engine.tasks.get? id with
  | none => rfl
  | some task =>
    show (if task.linked then _ else _) = Engine.muted (if task.linked then _ else _)
    split
    · rw [cancels, wake_muted]
    · rfl

@[simp] theorem dropPermit_muted (task : Task α) :
    engine.muted.dropPermit id task.muted = (engine.dropPermit id task).muted := by
  unfold dropPermit
  rw [show task.muted.permit = task.permit from rfl]
  cases task.permit with
  | none => rfl
  | some permit =>
    have given := (engine.setState task.operation { engine.stateOf task.operation with
      breaker := (engine.stateOf task.operation).breaker.drop permit }).setPermit_muted id none
    rw [← setState_muted] at given
    simp only [stateOf_muted]
    exact given

@[simp] theorem leavePlace_muted (task : Task α) :
    engine.muted.leavePlace id task.muted = (engine.leavePlace id task).muted := by
  unfold leavePlace
  rw [show task.muted.place = task.place from rfl]
  cases task.place with
  | none => rfl
  | some place =>
    have left := (engine.setPlace id none).changeBulkhead_muted task.operation place.bulkhead
      place.giveBack
    rw [← setPlace_muted] at left
    exact left

@[simp] theorem release_muted (task : Task α) :
    engine.muted.release id task.muted = (engine.release id task).muted := by
  unfold release
  simp only [changeGate_muted, dropPermit_muted, leavePlace_muted]

end Parts

end Engine

end Resilience
