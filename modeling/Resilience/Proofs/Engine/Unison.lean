import Resilience.Proofs.Engine.Accord
import Resilience.Proofs.Engine.Registry
import Resilience.Proofs.Engine.Substitution

/-!
Unison: two engines in which the same happens, under policies that differ in retries that never
retry. The same invocations are started, cancelled and ended, and the same tasks go on, in any
order; as long as no fallback handler tells the exhaustion of retries from the fault behind it, the
engines stand alike.
-/

namespace Resilience

open Move

namespace Change

variable {α : Type} {engine : Engine α} {change : Change α}

/-- Whether a change concerns policies. -/
def Governs : Change α → Prop
  | register .. | overrideField .. | clearOverride .. => True
  | _ => False

/-- Whether a change neither concerns policies nor starts a task. -/
def Common : Change α → Prop
  | spawn _ | register .. | overrideField .. | clearOverride .. => False
  | _ => True

theorem Governs.enters (governs : change.Governs) (engine : Engine α) :
    ∃ registry lines, change.apply engine = { engine with registry }.write lines := by
  have entered (accepted refused : List LogLine)
      (result : Except PolicyError (Policy × Registry)) : ∃ registry lines,
        (engine.changeRegistry accepted refused result).2 =
          { engine with registry }.write lines := by
    cases result with
    | ok published => exact ⟨published.2, accepted, rfl⟩
    | error => exact ⟨engine.registry, refused, rfl⟩
  cases change with
  | register | overrideField | clearOverride => exact entered _ _ _
  | _ => exact governs.elim

/-- Whatever happens to policies changes nothing else but the log. -/
theorem enters_of_governs {changes : List (Change α)} (governs : ∀ change ∈ changes, change.Governs)
    (engine : Engine α) :
    ∃ registry lines, changes.foldl apply engine = { engine with registry }.write lines := by
  induction changes generalizing engine with
  | nil =>
    refine ⟨engine.registry, [], ?_⟩
    simp [Engine.write]
  | cons change rest inductionHypothesis =>
    obtain ⟨first, others⟩ := List.forall_mem_cons.mp governs
    obtain ⟨registry, before, entered⟩ := first.enters engine
    obtain ⟨last, later, same⟩ := inductionHypothesis others ({ engine with registry }.write before)
    refine ⟨last, before ++ later, ?_⟩
    rw [List.foldl_cons, entered, same]
    simp [Engine.write]

end Change

namespace Engine

variable {α : Type} {engine twin : Engine Outcome} {change : Change Outcome}

theorem sustains_of_common (engine : Engine α) {change : Change α} (common : change.Common)
    {operation : OperationId} (known : engine.knows operation = true) :
    (change.apply engine).knows operation = true := by
  have same := Sustains.refl engine
  cases change with
  | cancel id =>
    show (engine.cancel id).knows operation = true
    unfold cancel
    split
    · simp only
      split
      · exact ((same.modifyTask id _).wake id).known operation known
      · exact known
    · exact known
  | openGate id permits =>
    show (engine.openGate id permits).knows operation = true
    unfold openGate
    split
    · simp only
      split
      · exact ((same.modifyTask id _).wake id).known operation known
      · exact known
    · exact known
  | openSink permits => exact ((Recalls.refl engine).changeGate _).known operation known
  | reset other =>
    show (engine.reset other).2.knows operation = true
    unfold reset
    split
    · exact known
    · split
      · exact known
      · exact ((same.setState other _).write _).known operation known
  | spawn | register | overrideField | clearOverride => exact common.elim
  | _ => exact known

theorem abides_of_common (engine : Engine α) {change : Change α} (common : change.Common) :
    engine.Abides (change.apply engine) where
  registry := by
    have blind {change : Change α} (blind : change.Blind) :
        (change.apply engine).registry = engine.registry :=
      registry_of_under (change.apply_under engine engine.registry [] blind)
    cases change with
    | reset operation =>
      exact registry_of_under (engine.reset_under engine.registry [] operation rfl)
    | spawn | register | overrideField | clearOverride => exact common.elim
    | _ => exact blind trivial
  ready := by
    rcases change.preserves engine with ⟨task, rfl⟩ | rfl | preserves
    · exact common.elim
    · exact (Sink.drain_lasts engine.sink).1
    · exact preserves.sink.ready
  stallOn := by
    rcases change.preserves engine with ⟨task, rfl⟩ | rfl | preserves
    · exact common.elim
    · exact (Sink.drain_lasts engine.sink).2
    · exact preserves.sink.stallOn
  knows _ := sustains_of_common engine common

theorem course?_common (engine : Engine α) {change : Change α} (common : change.Common)
    (id : TaskId) : (change.apply engine).course? id = engine.course? id := by
  rcases change.apply_cases engine with ⟨task, rfl⟩ | ⟨operation, rfl⟩ | retains
  · exact common.elim
  · unfold course?
    rw [Change.apply, (Change.reset_tasks engine operation).1]
  · exact retains.keeps.course? id

theorem Shadows.apply (shadows : engine.Shadows twin) (common : change.Common) :
    (change.apply engine).Shadows (change.apply twin) := by
  have muted : (change.apply twin).muted = (change.apply engine).muted := by
    have same := shadows.muted
    cases change with
    | cancel id =>
      show (twin.cancel id).muted = (engine.cancel id).muted
      rw [← cancel_muted, ← cancel_muted, same]
    | openGate id permits =>
      show (twin.openGate id permits).muted = (engine.openGate id permits).muted
      rw [← openGate_muted, ← openGate_muted, same]
    | openSink permits =>
      show (twin.changeGate _).muted = (engine.changeGate _).muted
      rw [← changeGate_muted, ← changeGate_muted, same]
    | reset operation =>
      show (twin.reset operation).2.muted = (engine.reset operation).2.muted
      rw [muted_reset, muted_reset, same, shadows.isSome_eq]
    | registerStrategy name strategy =>
      exact congrArg (fun engine => engine.registerStrategy name strategy) same
    | registerHandler name handler =>
      exact congrArg (fun engine =>
        { engine with handlers := engine.handlers.set name handler }) same
    | collect =>
      have collected (engine : Engine Outcome) :
          engine.collect.2.muted = { engine.muted with journal := {} } := by
        show ({ engine with sink := engine.sink.drain.2, journal := {} } : Engine Outcome).muted = _
        unfold Sink.drain
        split <;> rfl
      show twin.collect.2.muted = engine.collect.2.muted
      rw [collected, collected, same]
    | setClock clock =>
      exact congrArg (fun engine => { engine with manualClock := clock }) same
    | elapse moment =>
      exact congrArg (fun engine => { engine with now := moment }) same
    | schedule ready aside stint stints =>
      exact congrArg (fun engine => { engine with ready, aside, stint, stints }) same
    | spawn | register | overrideField | clearOverride => exact common.elim
  exact shadows.stays (abides_of_common engine common) (abides_of_common twin common) muted
    (course?_common engine common) (course?_common twin common)

/-- Engines stay alike if policies are changed in them that still differ in idle retries only. -/
theorem Shadows.govern (shadows : engine.Shadows twin) {changes changes' : List (Change Outcome)}
    (governs : ∀ change ∈ changes, change.Governs) (governs' : ∀ change ∈ changes', change.Governs)
    (idled : (changes.foldl Change.apply engine).registry.Idled
      (changes'.foldl Change.apply twin).registry) :
    (changes.foldl Change.apply engine).Shadows (changes'.foldl Change.apply twin) := by
  obtain ⟨registry, lines, same⟩ := Change.enters_of_governs governs engine
  obtain ⟨registry', lines', same'⟩ := Change.enters_of_governs governs' twin
  rw [same, same'] at idled ⊢
  exact ⟨shadows.muted, idled, shadows.passes, shadows.tasks⟩

theorem wake_order (engine : Engine α) (id : TaskId) :
    ∃ ready stint, engine.wake id = { engine with ready, stint } := by
  unfold wake
  split
  · exact ⟨engine.ready, _, rfl⟩
  · split
    · exact ⟨engine.ready, engine.stint, rfl⟩
    · exact ⟨_, engine.stint, rfl⟩

theorem spawn_abides (engine : Engine α) (task : Task α) :
    engine.Abides (engine.spawn task).2 := by
  obtain ⟨ready, stint, same⟩ := wake_order { engine with
    tasks := engine.tasks.set engine.nextTask task, nextTask := engine.nextTask + 1 }
      engine.nextTask
  have entered : (engine.spawn task).2 = _ := same
  rw [entered]
  exact ⟨rfl, rfl, rfl, fun _ known => known⟩

theorem Shadows.nextTask (shadows : engine.Shadows twin) : twin.nextTask = engine.nextTask :=
  congrArg (fun engine => engine.nextTask) shadows.muted

theorem Shadows.spawn (shadows : engine.Shadows twin) {task : Task Outcome}
    (starts : Progress.Shadows false task.progress task.progress) :
    (engine.spawn task).2.Shadows (twin.spawn task).2 := by
  have muted : (twin.spawn task).2.muted = (engine.spawn task).2.muted := by
    have spawned (engine : Engine Outcome) :
        (engine.muted.spawn task.muted).2 = (engine.spawn task).2.muted :=
      congrArg Prod.snd (engine.spawn_muted task)
    rw [← spawned, ← spawned, shadows.muted]
  have course (engine : Engine Outcome) (id : TaskId) : (engine.spawn task).2.course? id =
      if engine.nextTask = id then some (task.operation, task.progress) else engine.course? id := by
    rw [course?_eq, course?_eq, core?_spawn]
    split <;> rfl
  refine shadows.further (spawn_abides engine task) (spawn_abides twin task) muted fun id => ?_
  by_cases same : engine.nextTask = id
  · unfold AtPar
    rw [course, course, shadows.nextTask, if_pos same, if_pos same]
    exact .some (starts.mono nofun)
  · refine shadows.atPar (spawn_abides engine task) ?_ ?_
    · rw [course, if_neg same]
    · rw [course, shadows.nextTask, if_neg same]

theorem invocation_shadows (operation : OperationId) (input : String) (service : Service)
    (linked cancelled : Bool) :
    Progress.Shadows false (invocation operation input service linked cancelled).progress
      (invocation operation input service linked cancelled).progress := by
  refine .suspended (Invocation.service_shadows service operation) ?_
  unfold Service.plan
  split
  · exact trivial
  · exact id

theorem Shadows.abort (shadows : engine.Shadows twin) (id : TaskId) :
    (engine.abort id).Shadows (twin.abort id) := by
  have muted : (twin.abort id).muted = (engine.abort id).muted := by
    rw [← abort_muted, ← abort_muted, shadows.muted]
  have gone (engine : Engine Outcome) : (engine.abort id).course? id = none := by
    have left : (engine.abort id).holding? id = none := holding?_abort
    have missing : (engine.abort id).tasks.get? id = none := Option.map_eq_none_iff.mp left
    exact congrArg (Option.map _) missing
  refine shadows.turns (abort_abides engine id) (abort_abides twin id) muted (.abort engine id)
    (.abort twin id) ?_
  unfold AtPar
  rw [gone, gone]
  exact .none

/-- Whether every task that goes on is an invocation at some point of its course, and none waits for
the sink to take what tells that retries stop. -/
def Afoot (engine : Engine Outcome) : Prop :=
  ∀ id task plan wait, engine.tasks.get? id = some task → task.progress = .suspended plan wait →
    plan.Clear ∧ ∃ (service : Service) (history : List Exchange),
      (service.plan task.operation).Leads history plan

/-- Whatever goes on between two turns of a course is an invocation at some point of its own. -/
theorem afoot_of_course {moves : List (Move Outcome)} (course : Course moves ⟨engine, none⟩)
    (clear : ∀ id task plan wait, engine.tasks.get? id = some task →
      task.progress = .suspended plan wait → plan.Clear) : engine.Afoot := by
  intro id task plan wait found suspended
  refine ⟨clear id task plan wait found suspended, ?_⟩
  cases course.attended.tasks id task.holding (holding?_of_found found) with
  | suspended _ here underway =>
    cases here.symm.trans suspended
    obtain ⟨service, leads⟩ := underway.leads
    exact ⟨service, _, leads⟩
  | ended _ ended =>
    rw [task.holding.isRunning_of_suspended suspended] at ended
    cases ended

/-- Engines stand alike under policies that differ in idle retries, whichever invocations go on in
them already. -/
theorem Shadows.start (afoot : engine.Afoot) {registry : Registry}
    (idled : engine.registry.Idled registry) (passes : engine.sink.Passes) :
    engine.Shadows { engine with registry } := by
  refine ⟨rfl, idled, passes, fun id => ?_⟩
  show Option.Rel _ (engine.course? id) (engine.course? id)
  cases found : engine.tasks.get? id with
  | none =>
    have missing : engine.course? id = none := congrArg (Option.map _) found
    rw [missing]
    exact .none
  | some task =>
    rw [course?_of_found found]
    refine .some ?_
    show Progress.Shadows (engine.knows task.operation) task.progress task.progress
    cases progress : task.progress with
    | suspended plan wait =>
      obtain ⟨clear, service, history, leads⟩ := afoot id task plan wait found progress
      exact .suspended (Invocation.service_shadows_onward _ leads) clear
    | finished result => exact .finished (.same result)
    | crashed => exact .crashed

end Engine

/-- Whether the fallback handler that a move calls, if it calls one with the exhaustion of retries
after a single attempt, answers it just as the fault behind it. -/
def Move.Indifferent {α : Type} (move : Move α) : Prop :=
  ∀ name input fault respond,
    move.handlerCall? = some ⟨name, input, .retryExhausted 1 fault⟩ →
      move.before.handlers.text? name = some respond →
        respond input (.retryExhausted 1 fault) = respond input fault

namespace Engine

variable {engine twin after after' : Engine Outcome} {id : TaskId}
  {moves moves' : List (Move Outcome)}

theorem retryExhausted_ne (attempts : Nat) (fault : Fault) :
    Fault.retryExhausted attempts fault ≠ fault := by
  intro same
  have sizes := congrArg sizeOf same
  simp only [Fault.retryExhausted.sizeOf_spec] at sizes
  omega

/-- Where handlers cannot tell the turns apart, engines that stand alike still do after them. -/
theorem Accords.level_of_veiled (accords : Accords id moves after moves' after')
    (veiled : handlerCalls moves' = handlerCalls moves ∨ ∀ move ∈ moves', move.Indifferent) :
    Shadowed moves moves' ∧ after.Shadows after' := by
  cases accords with
  | level shadowed shadows => exact ⟨shadowed, shadows⟩
  | @parted first first' engine twin task name respond fault next next' wait shadowed shadows found
      begins registered tells settles settles' =>
    obtain ⟨task', found', muted, -⟩ := shadows.found found
    have handlers : twin.handlers = engine.handlers :=
      congrArg (fun engine => engine.handlers) shadows.muted
    have input : task'.input = task.input := congrArg (fun task => task.input) muted
    have here := handlerCalls_handle found registered begins fault settles
    have there := handlerCalls_handle found' (handlers ▸ registered) begins
      (.retryExhausted 1 fault) settles'
    rw [input] at there
    rcases veiled with same | indifferent
    · -- The handler is called in both turns last of all, and not with the same fault.
      unfold handlerCalls at same here there
      rw [List.filterMap_append, List.filterMap_append, here, there] at same
      have last := List.append_inj_right' same rfl
      simp only [List.cons.injEq, HandlerCall.mk.injEq] at last
      exact absurd last.1.2.2 (retryExhausted_ne 1 fault)
    · have member : ⟨name, task.input, .retryExhausted 1 fault⟩ ∈ handlerCalls
          (twin.moves id (.ask (.handle name (.retryExhausted 1 fault)) next') wait) := by
        rw [there]
        exact .head _
      obtain ⟨move, made, called⟩ := List.mem_filterMap.mp member
      have kept : move.before.handlers = engine.handlers :=
        ((twin.run_handlers id _ wait).2 move made).trans handlers
      exact absurd (indifferent move (List.mem_append_right _ made) name task.input fault respond
        called (kept ▸ registered)) tells

/-- Whether the next turns of a task call the same fallback handlers with the same faults, or such
as do not tell the exhaustion of retries from the fault behind it. -/
def Veils (engine twin : Engine Outcome) (id : TaskId) : Prop :=
  handlerCalls (twin.turn id) = handlerCalls (engine.turn id) ∨
    ∀ move ∈ twin.turn id, move.Indifferent

end Engine

/-- Two engines in which the same happens, with the moves that their tasks made: the same
invocations start, whatever runs meanwhile, the same tasks go on, the same is changed from outside
at the same moments, and tasks are ended in both. At first the same invocations go on in both, each
at any point of its course. The policies may differ in retries that never retry, and may be changed
in any way that leaves them so; and the fallback handlers that a turn calls are given the same
faults in both engines, or do not tell the exhaustion of retries from the fault behind it. -/
inductive Unison :
    List (Move Outcome) → Engine Outcome → List (Move Outcome) → Engine Outcome → Prop
  | start (engine : Engine Outcome) (registry : Registry) (afoot : engine.Afoot)
      (idled : engine.registry.Idled registry) (passes : engine.sink.Passes) :
      Unison [] engine [] { engine with registry }
  | invoke {moves moves' : List (Move Outcome)} {engine twin : Engine Outcome}
      (unison : Unison moves engine moves' twin) (operation : OperationId) (input : String)
      (service : Service) (linked cancelled : Bool) :
      Unison moves (engine.spawn (Engine.invocation operation input service linked cancelled)).2
        moves' (twin.spawn (Engine.invocation operation input service linked cancelled)).2
  | poll {moves moves' : List (Move Outcome)} {engine twin : Engine Outcome}
      (unison : Unison moves engine moves' twin) (id : TaskId) (veils : engine.Veils twin id) :
      Unison (moves ++ engine.turn id) (engine.poll id) (moves' ++ twin.turn id) (twin.poll id)
  | change {moves moves' : List (Move Outcome)} {engine twin : Engine Outcome}
      (unison : Unison moves engine moves' twin) (change : Change Outcome)
      (common : change.Common) : Unison moves (change.apply engine) moves' (change.apply twin)
  | govern {moves moves' : List (Move Outcome)} {engine twin : Engine Outcome}
      (unison : Unison moves engine moves' twin) (changes changes' : List (Change Outcome))
      (governs : ∀ change ∈ changes, change.Governs)
      (governs' : ∀ change ∈ changes', change.Governs)
      (idled : (changes.foldl Change.apply engine).registry.Idled
        (changes'.foldl Change.apply twin).registry) :
      Unison moves (changes.foldl Change.apply engine) moves' (changes'.foldl Change.apply twin)
  | abort {moves moves' : List (Move Outcome)} {engine twin : Engine Outcome}
      (unison : Unison moves engine moves' twin) (id : TaskId) :
      Unison (moves ++ [⟨id, engine, .aborted, engine.abort id⟩]) (engine.abort id)
        (moves' ++ [⟨id, twin, .aborted, twin.abort id⟩]) (twin.abort id)

/-- Engines in unison stand alike, and their tasks made the same moves, but for faint ones. -/
theorem Unison.shadows {moves moves' : List (Move Outcome)} {engine twin : Engine Outcome}
    (unison : Unison moves engine moves' twin) :
    Shadowed moves moves' ∧ engine.Shadows twin := by
  induction unison with
  | start engine registry afoot idled passes => exact ⟨.nil, .start afoot idled passes⟩
  | invoke _ operation input service linked cancelled inductionHypothesis =>
    obtain ⟨shadowed, shadows⟩ := inductionHypothesis
    exact ⟨shadowed, shadows.spawn (Engine.invocation_shadows ..)⟩
  | poll _ id veils inductionHypothesis =>
    obtain ⟨shadowed, shadows⟩ := inductionHypothesis
    obtain ⟨more, after⟩ := (shadows.poll id).level_of_veiled veils
    exact ⟨shadowed.append more, after⟩
  | change _ _ common inductionHypothesis =>
    obtain ⟨shadowed, shadows⟩ := inductionHypothesis
    exact ⟨shadowed, shadows.apply common⟩
  | govern _ changes changes' governs governs' idled inductionHypothesis =>
    obtain ⟨shadowed, shadows⟩ := inductionHypothesis
    exact ⟨shadowed, shadows.govern governs governs' idled⟩
  | abort _ id inductionHypothesis =>
    obtain ⟨shadowed, shadows⟩ := inductionHypothesis
    exact ⟨shadowed.append (.single ⟨rfl, shadows, .same _, shadows.abort id⟩), shadows.abort id⟩

/-- Whether no fallback handler tells the exhaustion of retries after a single attempt from the
fault behind it. -/
def Handlers.Indifferent (handlers : Handlers) : Prop :=
  ∀ name respond, handlers.text? name = some respond → ∀ input fault,
    respond input (.retryExhausted 1 fault) = respond input fault

namespace Engine

variable {α : Type}

theorem indifferent_of_handlers {engine : Engine α} (indifferent : engine.handlers.Indifferent)
    (id : TaskId) : ∀ move ∈ engine.turn id, move.Indifferent := by
  intro move member name input fault respond _ registered
  rw [(engine.poll_handlers id).2 move member] at registered
  exact indifferent name respond registered input fault

theorem wake_handlers (engine : Engine α) (id : TaskId) :
    (engine.wake id).handlers = engine.handlers := by
  obtain ⟨ready, stint, same⟩ := engine.wake_order id
  rw [same]

theorem wakeAll_handlers (engine : Engine α) (ids : List TaskId) :
    (engine.wakeAll ids).handlers = engine.handlers :=
  ((Sustains.refl engine).wakeAll ids).handlers

theorem work_handlers (engine : Engine α) (id : TaskId) :
    (engine.work id).handlers = engine.handlers := by
  have polled : ((engine.stinted id).poll id).handlers = engine.handlers :=
    (poll_handlers (engine.stinted id) id).1
  unfold work
  simp only
  split
  · rw [wake_handlers]
    exact polled
  · exact polled

theorem Shadows.ordered {engine twin : Engine Outcome} (shadows : engine.Shadows twin) :
    twin.ready = engine.ready ∧ twin.aside = engine.aside ∧ twin.stint = engine.stint ∧
      twin.stints = engine.stints := by
  have same := shadows.muted
  exact ⟨congrArg (fun engine => engine.ready) same, congrArg (fun engine => engine.aside) same,
    congrArg (fun engine => engine.stint) same, congrArg (fun engine => engine.stints) same⟩

@[simp] theorem timers_muted (engine : Engine α) : engine.muted.timers = engine.timers := by
  simp [timers, muted, Table.map, List.flatMap_map]

end Engine

namespace Unison

variable {moves moves' : List (Move Outcome)} {engine twin : Engine Outcome}

theorem order (unison : Unison moves engine moves' twin) {ready ready' aside aside' : List TaskId}
    {stint stint' : Stint} {stints stints' : Nat} (sameReady : ready' = ready)
    (sameAside : aside' = aside) (sameStint : stint' = stint) (sameStints : stints' = stints) :
    Unison moves { engine with ready, aside, stint, stints } moves'
      { twin with ready := ready', aside := aside', stint := stint', stints := stints' } := by
  subst sameReady sameAside sameStint sameStints
  exact unison.change (.schedule ready' aside' stint' stints') trivial

theorem wake (unison : Unison moves engine moves' twin) (id : TaskId) :
    Unison moves (engine.wake id) moves' (twin.wake id) := by
  have woken : (twin.wake id).muted = (engine.wake id).muted := by
    rw [← Engine.wake_muted, ← Engine.wake_muted, unison.shadows.2.muted]
  have ready : (twin.wake id).ready = (engine.wake id).ready :=
    congrArg (fun engine => engine.ready) woken
  have stint : (twin.wake id).stint = (engine.wake id).stint :=
    congrArg (fun engine => engine.stint) woken
  obtain ⟨-, aside, -, stints⟩ := unison.shadows.2.ordered
  obtain ⟨_, _, same⟩ := engine.wake_order id
  obtain ⟨_, _, same'⟩ := twin.wake_order id
  rw [same, same'] at ready stint ⊢
  exact unison.order ready aside stint stints

theorem wakeAll (unison : Unison moves engine moves' twin) (ids : List TaskId) :
    Unison moves (engine.wakeAll ids) moves' (twin.wakeAll ids) := by
  unfold Engine.wakeAll
  induction ids generalizing engine twin with
  | nil => exact unison
  | cons id rest inductionHypothesis => exact inductionHypothesis (unison.wake id)

theorem work (unison : Unison moves engine moves' twin) (indifferent : twin.handlers.Indifferent)
    (id : TaskId) :
    Unison (moves ++ (engine.stinted id).turn id) (engine.work id)
      (moves' ++ (twin.stinted id).turn id) (twin.work id) := by
  obtain ⟨ready, aside, -, stints⟩ := unison.shadows.2.ordered
  have started : Unison moves (engine.stinted id) moves' (twin.stinted id) :=
    unison.order ready aside rfl (congrArg (· + 1) stints)
  have still : (twin.stinted id).handlers.Indifferent := indifferent
  have polled := started.poll id (.inr (Engine.indifferent_of_handlers still id))
  obtain ⟨ready, aside, stint, stints⟩ := polled.shadows.2.ordered
  have rested : Unison (moves ++ (engine.stinted id).turn id)
      { (engine.stinted id).poll id with stint := {} } (moves' ++ (twin.stinted id).turn id)
      { (twin.stinted id).poll id with stint := {} } := polled.order ready aside rfl stints
  have running := rested.shadows.2.isRunning id
  unfold Engine.work
  show Unison _ (if ((engine.stinted id).poll id).stint.woken &&
      Engine.isRunning { (engine.stinted id).poll id with stint := {} } id then _ else _) _
    (if ((twin.stinted id).poll id).stint.woken &&
      Engine.isRunning { (twin.stinted id).poll id with stint := {} } id then _ else _)
  rw [stint, running]
  split
  · exact rested.wake id
  · exact rested

/-- Whether engines in unison go on to these engines in unison, whose handlers do not tell
exhaustion. -/
def Leads (moves moves' : List (Move Outcome)) (engine twin : Engine Outcome) : Prop :=
  twin.handlers.Indifferent ∧ ∃ more more', Unison (moves ++ more) engine (moves' ++ more') twin

theorem leads (unison : Unison moves engine moves' twin) (indifferent : twin.handlers.Indifferent) :
    Leads moves moves' engine twin := by
  refine ⟨indifferent, [], [], ?_⟩
  rw [List.append_nil, List.append_nil]
  exact unison

namespace Leads

theorem further {after after' : Engine Outcome} (leads : Leads moves moves' engine twin)
    (goes : ∀ moves moves', Unison moves engine moves' twin → twin.handlers.Indifferent →
      Leads moves moves' after after') : Leads moves moves' after after' := by
  obtain ⟨indifferent, more, more', unison⟩ := leads
  obtain ⟨still, later, later', further⟩ := goes _ _ unison indifferent
  refine ⟨still, more ++ later, more' ++ later', ?_⟩
  rw [← List.append_assoc, ← List.append_assoc]
  exact further

theorem work (leads : Leads moves moves' engine twin) (id : TaskId) :
    Leads moves moves' (engine.work id) (twin.work id) := by
  refine leads.further fun moves moves' unison indifferent => ⟨?_, _, _, unison.work indifferent id⟩
  rw [Engine.work_handlers]
  exact indifferent

theorem wakeAll (leads : Leads moves moves' engine twin) (ids : List TaskId) :
    Leads moves moves' (engine.wakeAll ids) (twin.wakeAll ids) := by
  obtain ⟨indifferent, more, more', unison⟩ := leads
  refine ⟨?_, more, more', unison.wakeAll ids⟩
  rw [Engine.wakeAll_handlers]
  exact indifferent

theorem shadows (leads : Leads moves moves' engine twin) : engine.Shadows twin := by
  obtain ⟨-, more, more', unison⟩ := leads
  exact unison.shadows.2

theorem order (leads : Leads moves moves' engine twin) {ready ready' aside aside' : List TaskId}
    {stint stint' : Stint} {stints stints' : Nat} (sameReady : ready' = ready)
    (sameAside : aside' = aside) (sameStint : stint' = stint) (sameStints : stints' = stints) :
    Leads moves moves' { engine with ready, aside, stint, stints }
      { twin with ready := ready', aside := aside', stint := stint', stints := stints' } := by
  obtain ⟨indifferent, more, more', unison⟩ := leads
  exact ⟨indifferent, more, more', unison.order sameReady sameAside sameStint sameStints⟩

theorem nextRound (leads : Leads moves moves' engine twin) :
    Leads moves moves' engine.nextRound twin.nextRound := by
  obtain ⟨ready, aside, stint, -⟩ := leads.shadows.ordered
  have running : twin.isRunning = engine.isRunning := funext leads.shadows.isRunning
  unfold Engine.nextRound
  rw [aside, running]
  exact (leads.order ready rfl stint rfl).wakeAll _

theorem settle (leads : Leads moves moves' engine twin) (turns : Nat) :
    Leads moves moves' (engine.settle turns) (twin.settle turns) := by
  induction turns generalizing engine twin with
  | zero => exact leads
  | succ turns inductionHypothesis =>
    obtain ⟨ready, aside, stint, stints⟩ := leads.shadows.ordered
    unfold Engine.settle
    rw [ready, aside, stints]
    split
    · split
      · exact leads.nextRound
      · exact inductionHypothesis leads.nextRound
    next id rest _ =>
      split
      · exact inductionHypothesis leads.nextRound
      · have taken : Leads moves moves' { engine with ready := rest }
            { twin with ready := rest, aside := engine.aside, stints := engine.stints } :=
          leads.order rfl rfl stint rfl
        exact inductionHypothesis (taken.work id)

theorem moveTo (leads : Leads moves moves' engine twin) (moment : Nat) :
    Leads moves moves' (engine.moveTo moment) (twin.moveTo moment) := by
  have timers : twin.timers = engine.timers := by
    rw [← Engine.timers_muted twin, ← Engine.timers_muted engine, leads.shadows.muted]
  unfold Engine.moveTo
  rw [timers]
  apply wakeAll
  obtain ⟨indifferent, more, more', unison⟩ := leads
  exact ⟨indifferent, more, more', unison.change (.elapse moment) trivial⟩

theorem nextDue? (leads : Leads moves moves' engine twin) : twin.nextDue? = engine.nextDue? := by
  unfold Engine.nextDue?
  rw [← Engine.timers_muted twin, ← Engine.timers_muted engine, leads.shadows.muted]

/-- Engines that run by themselves until a moment, or until a task ends, stay in unison. -/
theorem runTo (leads : Leads moves moves' engine twin) (moment turns moments : Nat) :
    Leads moves moves' (engine.runTo moment turns moments) (twin.runTo moment turns moments) := by
  induction moments generalizing engine twin with
  | zero => exact leads
  | succ moments inductionHypothesis =>
    have settled := leads.settle turns
    have arrives := (settled.moveTo moment).settle turns
    unfold Engine.runTo
    simp only
    rw [settled.nextDue?]
    split
    · split
      · exact inductionHypothesis (settled.moveTo _)
      · exact arrives
    · exact arrives

theorem runUntil (leads : Leads moves moves' engine twin) (id : TaskId) (turns moments : Nat) :
    Leads moves moves' (engine.runUntil (fun engine => !engine.isRunning id) turns moments)
      (twin.runUntil (fun engine => !engine.isRunning id) turns moments) := by
  induction moments generalizing engine twin with
  | zero => exact leads
  | succ moments inductionHypothesis =>
    have settled := leads.settle turns
    unfold Engine.runUntil
    simp only
    rw [settled.nextDue?, settled.shadows.isRunning]
    split
    · exact settled
    · split
      · exact inductionHypothesis (settled.moveTo _)
      · exact settled

end Leads

end Unison

end Resilience
