import Resilience.Proofs.Engine.Effect

/-!
Histories: the moves of one task in a run of an engine. Whatever happens in between, the exchanges
of a task are a path through the plan that it started with, and it asks its breaker in order.
-/

namespace Resilience

namespace Change

variable {α : Type} {engine : Engine α}

/-- A change from outside starts a task, resets a breaker, or concerns nothing that is held. -/
theorem apply_cases (engine : Engine α) (change : Change α) :
    (∃ task, change = .spawn task) ∨ (∃ operation, change = .reset operation) ∨
      engine.Retains (change.apply engine) := by
  have same := Engine.Retains.refl engine
  have touches := Engine.Touches.refl engine
  cases change with
  | spawn task => exact .inl ⟨task, rfl⟩
  | reset operation => exact .inr (.inl ⟨operation, rfl⟩)
  | cancel other => exact .inr (.inr (touches.cancel other).retains)
  | openGate other permits => exact .inr (.inr (touches.openGate other permits).retains)
  | openSink permits => exact .inr (.inr (touches.changeGate _).retains)
  | register operation policy => exact .inr (.inr (touches.changeRegistry _ _ _).retains)
  | overrideField operation kind field value =>
    exact .inr (.inr (touches.changeRegistry _ _ _).retains)
  | clearOverride operation kind field => exact .inr (.inr (touches.changeRegistry _ _ _).retains)
  | _ =>
    refine .inr (.inr (same.tables ?_ ?_ ?_))
    · rfl
    · rfl
    · rfl

theorem reset_tasks (engine : Engine α) (operation : OperationId) :
    (engine.reset operation).2.tasks = engine.tasks ∧
      (engine.reset operation).2.nextTask = engine.nextTask := by
  unfold Engine.reset
  split
  · exact ⟨rfl, rfl⟩
  · split <;> exact ⟨rfl, rfl⟩

theorem nextTask_apply (engine : Engine α) {change : Change α}
    (other : ∀ task, change ≠ .spawn task) : (change.apply engine).nextTask = engine.nextTask := by
  rcases change.apply_cases engine with ⟨task, rfl⟩ | ⟨operation, rfl⟩ | retains
  · exact absurd rfl (other task)
  · exact (reset_tasks engine operation).2
  · exact retains.nextTask

/-- A change from outside leaves a task as far as it has come. -/
theorem core?_apply (change : Change α) {id : TaskId} (known : id < engine.nextTask) :
    (change.apply engine).core? id = engine.core? id ∧
      id < (change.apply engine).nextTask := by
  rcases change.apply_cases engine with ⟨task, rfl⟩ | ⟨operation, rfl⟩ | retains
  · refine ⟨?_, engine.nextTask_spawn task ▸ Nat.lt_succ_of_lt known⟩
    exact (engine.core?_spawn task id).trans (if_neg (Nat.ne_of_gt known))
  · obtain ⟨tasks, nextTask⟩ := reset_tasks engine operation
    refine ⟨?_, Nat.lt_of_lt_of_eq known nextTask.symm⟩
    exact congrArg (fun tasks => (tasks.get? id).map Task.core) tasks
  · exact ⟨retains.keeps.tasks id, retains.nextTask ▸ known⟩

end Change

namespace Move

variable {α : Type}

def own (id : TaskId) (moves : List (Move α)) : List (Move α) :=
  moves.filter fun move => move.id = id

def history (moves : List (Move α)) : List Exchange := moves.filterMap exchange?

/-- The numbers of the calls that moves start. -/
def calls (moves : List (Move α)) : List Nat := moves.filterMap call?

theorem own_append (id : TaskId) (moves more : List (Move α)) :
    own id (moves ++ more) = own id moves ++ own id more :=
  List.filter_append ..

theorem own_of_others {id : TaskId} {more : List (Move α)} (others : ∀ move ∈ more, move.id ≠ id) :
    own id more = [] :=
  List.filter_eq_nil_iff.mpr fun move member => by simpa using others move member

theorem own_of_mine {id : TaskId} {more : List (Move α)} (mine : ∀ move ∈ more, move.id = id) :
    own id more = more :=
  List.filter_eq_self.mpr fun move member => by simpa using mine move member

theorem own_append_of_others {id : TaskId} {more : List (Move α)}
    (others : ∀ move ∈ more, move.id ≠ id) (moves : List (Move α)) :
    own id (moves ++ more) = own id moves := by
  rw [own_append, own_of_others others, List.append_nil]

theorem own_append_of_mine {id : TaskId} {more : List (Move α)}
    (mine : ∀ move ∈ more, move.id = id) (moves : List (Move α)) :
    own id (moves ++ more) = own id moves ++ more := by
  rw [own_append, own_of_mine mine]

theorem history_concat (first second : List (Move α)) :
    history (first ++ second) = history first ++ history second :=
  List.filterMap_append

theorem history_append (moves : List (Move α)) (move : Move α) :
    history (moves ++ [move]) = history moves ++ move.exchange?.toList := by
  unfold history
  rw [List.filterMap_append]
  cases found : move.exchange? <;> simp [found]

theorem history_append_of_silent {move : Move α} (silent : move.exchange? = none)
    (moves : List (Move α)) : history (moves ++ [move]) = history moves := by
  rw [history_append, silent]
  exact List.append_nil _

theorem history_of_aborted {moves : List (Move α)}
    (aborted : ∀ move ∈ moves, move.deed = .aborted) : history moves = [] :=
  List.filterMap_eq_nil_iff.mpr fun move member => by
    unfold exchange?
    rw [aborted move member]

theorem calls_append (moves : List (Move α)) (move : Move α) :
    calls (moves ++ [move]) = calls moves ++ move.call?.toList := by
  unfold calls
  rw [List.filterMap_append]
  cases found : move.call? <;> simp [found]

end Move

def Plan.AsksAttempt {α : Type} : Plan α → Prop
  | .ask (.attempt ..) _ => True
  | _ => False

open Move

variable {α : Type}

structure Account (start : Plan α) (operation : OperationId) (mine : List (Move α))
    (plan : Plan α) : Prop where
  leads : start.Leads (history mine) plan
  /-- An outcome that the caller did not bring about comes from a call. -/
  called : ∀ ended ∈ outcomes (history mine), ended ≠ .error .cancelled → calls mine ≠ []
  /-- A call belongs to an attempt. -/
  asked : calls mine ≠ [] → outcomes (history mine) ≠ [] ∨ plan.AsksAttempt
  affects : ∀ move ∈ mine, move.Affects operation

structure Live (start : Plan α) (operation : OperationId) (mine : List (Move α)) (plan : Plan α)
    (wait : Wait) (permit : Option Permit) : Prop
    extends Account start operation mine plan where
  permitted : permit.isSome = permits.after false (history mine)
  begun : wait.isCall = true → calls mine ≠ []
  unfinished : ∀ move ∈ mine, move.result? = none

inductive Fate (start : Plan α) (operation : OperationId) (id : TaskId) (mine : List (Move α)) :
    Stage α → Prop
  | active {engine : Engine α} {plan : Plan α} {wait : Wait} {permit : Option Permit}
      {progress : Progress α} (core : engine.core? id = some (operation, permit, progress))
      (live : Live start operation mine plan wait permit) :
      Fate start operation id mine ⟨engine, some ⟨id, plan, wait⟩⟩
  | suspended {engine : Engine α} {active : Option (Active α)} {plan : Plan α} {wait : Wait}
      {permit : Option Permit} (apart : ∀ other, active = some other → other.id ≠ id)
      (core : engine.core? id = some (operation, permit, .suspended plan wait))
      (live : Live start operation mine plan wait permit) :
      Fate start operation id mine ⟨engine, active⟩
  | ended {engine : Engine α} {active : Option (Active α)} {plan : Plan α}
      (apart : ∀ other, active = some other → other.id ≠ id)
      (gone : ∀ core, engine.core? id = some core → ∀ plan wait, core.2.2 ≠ .suspended plan wait)
      (account : Account start operation mine plan)
      (results : ∀ move ∈ mine, ∀ result, move.result? = some result → plan = .done result) :
      Fate start operation id mine ⟨engine, active⟩

variable {start : Plan α} {operation : OperationId} {id : TaskId} {mine : List (Move α)}

theorem apart_none (id : TaskId) : ∀ other : Active α, none = some other → other.id ≠ id := by
  intro other same
  cases same

theorem Live.results {plan : Plan α} {wait : Wait} {permit : Option Permit}
    (live : Live start operation mine plan wait permit) (last : Plan α) :
    ∀ move ∈ mine, ∀ result, move.result? = some result → last = .done result := by
  intro move member result finished
  rw [live.unfinished move member] at finished
  cases finished

theorem Fate.account {stage : Stage α} (fate : Fate start operation id mine stage) :
    ∃ plan, Account start operation mine plan ∧
      ∀ move ∈ mine, ∀ result, move.result? = some result → plan = .done result := by
  cases fate with
  | active _ live => exact ⟨_, live.toAccount, live.results _⟩
  | suspended _ _ live => exact ⟨_, live.toAccount, live.results _⟩
  | ended _ _ account results => exact ⟨_, account, results⟩

/-- A task that does not go on stands as before as long as its own parts stay. -/
theorem Fate.stays {engine after : Engine α} {active active' : Option (Active α)}
    (fate : Fate start operation id mine ⟨engine, active⟩)
    (apart : ∀ other, active = some other → other.id ≠ id)
    (apart' : ∀ other, active' = some other → other.id ≠ id)
    (same : after.core? id = engine.core? id) :
    Fate start operation id mine ⟨after, active'⟩ := by
  cases fate with
  | active core live => exact absurd rfl (apart _ rfl)
  | suspended _ core live => exact .suspended apart' (same.trans core) live
  | ended _ gone account results =>
    exact .ended apart' (fun core found => gone core (same.symm.trans found)) account results

theorem calls_append_ne_nil {move : Move α}
    (started : calls mine ≠ [] ∨ move.call?.isSome = true) : calls (mine ++ [move]) ≠ [] := by
  rw [calls_append]
  rcases started with earlier | now
  · intro none
    exact earlier (List.append_eq_nil_iff.mp none).1
  · obtain ⟨number, found⟩ := Option.isSome_iff_exists.mp now
    rw [found]
    intro none
    exact List.cons_ne_nil _ _ (List.append_eq_nil_iff.mp none).2

theorem started_of_append {move : Move α} (started : calls (mine ++ [move]) ≠ []) :
    calls mine ≠ [] ∨ move.call?.isSome = true := by
  rw [calls_append] at started
  cases call : move.call? with
  | some number => exact .inr rfl
  | none =>
    rw [call] at started
    exact .inl fun none => started (List.append_eq_nil_iff.mpr ⟨none, rfl⟩)

theorem call?_of_found {move : Move α} {task : Task α} {request : Request} {wait : Wait}
    (found : move.before.tasks.get? move.id = some task)
    (asks : (∃ answer, move.deed = .answered ⟨request, answer⟩ wait) ∨
      move.deed = .waited request wait ∨ move.deed = .crashed request wait) :
    move.call? = move.before.starts? task request wait := by
  unfold Move.call?
  rw [found]
  rcases asks with ⟨answer, same⟩ | same | same <;> rw [same] <;> rfl

theorem asksAttempt_of_starts {engine : Engine α} {task : Task α} {request : Request} {wait : Wait}
    (starts : (engine.starts? task request wait).isSome = true) (next : request.Answer → Plan α) :
    (Plan.ask request next).AsksAttempt := by
  cases request with
  | attempt => exact trivial
  | _ => cases starts

theorem forall_append {P : Move α → Prop} {move : Move α} (earlier : ∀ other ∈ mine, P other)
    (last : P move) : ∀ other ∈ mine ++ [move], P other :=
  List.forall_mem_append.mpr ⟨earlier, List.forall_mem_singleton.mpr last⟩

theorem Account.silent {plan : Plan α} {move : Move α}
    (account : Account start operation mine plan) (silent : move.exchange? = none)
    (call : move.call?.isSome = true → plan.AsksAttempt) (affects : move.Affects operation) :
    Account start operation (mine ++ [move]) plan := by
  have same := history_append_of_silent silent mine
  refine ⟨same ▸ account.leads, fun ended member heard => ?_, fun started => ?_,
    forall_append account.affects affects⟩
  · exact calls_append_ne_nil (.inl (account.called ended (same ▸ member) heard))
  · rw [same]
    rcases started_of_append started with earlier | now
    · exact account.asked earlier
    · exact .inr (call now)

theorem Live.answered {engine after : Engine α} {task : Task α} {request : Request}
    {next : request.Answer → Plan α} {wait : Wait} {answer : request.Answer}
    (live : Live start task.operation mine (.ask request next) wait task.permit)
    (ordered : ∀ history rest, start.Leads history rest → permits.Accepts false history)
    (found : engine.tasks.get? id = some task)
    (answers : engine.answer id task request wait = (.now answer, after)) :
    ∃ permit, after.core? id = some (task.operation, permit, task.progress) ∧
      Live start task.operation
        (mine ++ [⟨id, engine, .answered ⟨request, answer⟩ wait, after⟩]) (next answer) .unbegun
        permit := by
  have leads := live.leads.snoc answer
  -- That a permit is held where one is used up comes from the order of the plan's requests.
  have allowed : permits.allows task.permit.isSome request := by
    rw [live.permitted]
    exact (ordered _ _ leads).last
  obtain ⟨permit, core, held, affects⟩ := Engine.answered found allowed answers
  have exchanged : history (mine ++ [⟨id, engine, .answered ⟨request, answer⟩ wait, after⟩]) =
      history mine ++ [⟨request, answer⟩] := history_append _ _
  have call : Move.call? ⟨id, engine, .answered ⟨request, answer⟩ wait, after⟩ =
      engine.starts? task request wait := call?_of_found found (.inl ⟨answer, rfl⟩)
  have attempted (asks : (Plan.ask request next).AsksAttempt) :
      outcomes (history mine ++ [⟨request, answer⟩]) ≠ [] := by
    rw [outcomes_append]
    cases request with
    | attempt => exact fun none => List.cons_ne_nil _ _ (List.append_eq_nil_iff.mp none).2
    | _ => exact asks.elim
  refine ⟨permit, core, ⟨⟨exchanged ▸ leads, fun ended member heard => ?_, fun started => ?_,
    forall_append live.affects affects⟩, ?_, fun begun => ?_,
    forall_append live.unfinished rfl⟩⟩
  · rw [exchanged, outcomes_append] at member
    apply calls_append_ne_nil
    rw [call]
    rcases List.mem_append.mp member with earlier | last
    · exact .inl (live.called ended earlier heard)
    · cases request with
      | attempt number limit heedsCaller =>
        have same : ended = answer := List.mem_singleton.mp last
        rcases Engine.attempt_called answers (same ▸ heard) with going | starts
        · exact .inl (live.begun going)
        · exact .inr starts
      | _ => cases last
  · rw [exchanged]
    refine .inl ?_
    rcases started_of_append started with earlier | now
    · rcases live.asked earlier with some | asks
      · rw [outcomes_append]
        intro none
        exact some (List.append_eq_nil_iff.mp none).1
      · exact attempted asks
    · rw [call] at now
      exact attempted (asksAttempt_of_starts now next)
  · rw [exchanged, Monitor.after_append, held, live.permitted]
    rfl
  · cases begun

/-- A task without an answer concerns no breaker, and starts a call only for an attempt. -/
theorem Account.unanswered {engine after : Engine α} {task : Task α} {request : Request}
    {next : request.Answer → Plan α} {wait : Wait} {reply : Reply request.Answer}
    (account : Account start task.operation mine (.ask request next))
    (found : engine.tasks.get? id = some task)
    (replies : engine.answer id task request wait = (reply, after))
    (unanswered : ∀ answer, reply ≠ .now answer) (final : Engine α)
    (undisturbed : ∀ other, (after.circuit other).Undisturbed (final.circuit other)) :
    engine.Keeps after ∧
      Account start task.operation (mine ++ [⟨id, engine, .waited request wait, final⟩])
        (.ask request next) ∧
      Account start task.operation (mine ++ [⟨id, engine, .crashed request wait, final⟩])
        (.ask request next) := by
  have off := Engine.offBreaker_of_unanswered replies unanswered
  have keeps : engine.Keeps after := by
    have keeps := Engine.answer_keeps engine id task off wait
    rwa [replies] at keeps
  have effect (other : OperationId) :
      (engine.circuit other).Undisturbed (final.circuit other) :=
    keeps.circuit other ▸ undisturbed other
  refine ⟨keeps, account.silent rfl ?_ effect, account.silent rfl ?_ effect⟩
  · intro starts
    rw [call?_of_found found (.inr (.inl rfl))] at starts
    exact asksAttempt_of_starts starts next
  · intro starts
    rw [call?_of_found found (.inr (.inr rfl))] at starts
    exact asksAttempt_of_starts starts next

theorem call?_eq_none {move : Move α}
    (idle : move.deed = .aborted ∨ ∃ result, move.deed = .finished result) : move.call? = none := by
  unfold Move.call?
  rcases idle with same | ⟨result, same⟩ <;> rw [same] <;>
    cases move.before.tasks.get? move.id <;> rfl

theorem Fate.aborted {engine : Engine α} (fate : Fate start operation id mine ⟨engine, none⟩) :
    Fate start operation id (mine ++ [⟨id, engine, .aborted, engine.abort id⟩])
      ⟨engine.abort id, none⟩ := by
  obtain ⟨plan, account, results⟩ := fate.account
  have silent : Account start operation (mine ++ [⟨id, engine, .aborted, engine.abort id⟩])
      plan := by
    refine account.silent rfl ?_ (Engine.abort_undisturbed engine id)
    intro starts
    rw [call?_eq_none (.inl rfl)] at starts
    cases starts
  refine .ended (apart_none id) ?_ silent (forall_append results nofun)
  intro core found
  rw [Engine.core?_abort] at found
  cases found

theorem Fate.resumed {engine : Engine α} {task : Task α} {plan : Plan α} {wait : Wait}
    (fate : Fate start operation id mine ⟨engine, none⟩)
    (found : engine.tasks.get? id = some task) (suspended : task.progress = .suspended plan wait) :
    Fate start operation id mine ⟨engine, some ⟨id, plan, wait⟩⟩ := by
  have present := Engine.core?_of_found found
  rw [suspended] at present
  cases fate with
  | suspended _ core live =>
    cases Option.some.inj (core.symm.trans present)
    exact .active core live
  | ended _ gone => exact absurd rfl (gone _ present plan wait)

theorem Live.step {engine : Engine α} {plan : Plan α} {wait : Wait} {permit : Option Permit}
    {progress : Progress α} {more : List (Move α)} {stage : Stage α}
    (live : Live start operation mine plan wait permit)
    (core : engine.core? id = some (operation, permit, progress))
    (ordered : ∀ history rest, start.Leads history rest → permits.Accepts false history)
    (step : Step ⟨engine, some ⟨id, plan, wait⟩⟩ more stage) :
    Fate start operation id (mine ++ more) stage := by
  have known {task : Task α} (found : engine.tasks.get? id = some task) :
      (operation, permit, progress) = (task.operation, task.permit, task.progress) :=
    Option.some.inj (core.symm.trans (Engine.core?_of_found found))
  cases step with
  | answer found answers =>
    cases known found
    obtain ⟨permit, core, live⟩ := live.answered ordered found answers
    exact .active core live
  | @wait _ after _ task request next _ later found waits =>
    cases known found
    obtain ⟨keeps, account, -⟩ := live.toAccount.unanswered found waits nofun
      (after.suspend id (.ask request next) later) fun _ => .refl _
    have suspended := Engine.core?_suspend ((keeps.tasks id).trans core) (.ask request next) later
    refine .suspended (apart_none id) suspended
      ⟨account, ?_, ?_, forall_append live.unfinished rfl⟩
    · rw [history_append_of_silent rfl]
      exact live.permitted
    · intro begun
      have awaits : (engine.answer id task request wait).1.awaitsCall = true := by
        rw [waits]
        exact begun
      apply calls_append_ne_nil
      rcases Engine.answer_awaitsCall awaits with going | starts
      · exact .inl (live.begun going)
      · rw [call?_of_found found (.inr (.inl rfl))]
        exact .inr starts
  | @crash _ after _ task request next _ found crashes =>
    cases known found
    obtain ⟨-, -, account⟩ := live.toAccount.unanswered found crashes nofun (after.finish id none)
      (Engine.finish_undisturbed after id none)
    refine .ended (apart_none id) ?_ account (forall_append (live.results _) nofun)
    intro core found plan wait same
    cases (Engine.core?_finish none found).symm.trans same
  | @finish _ _ value _ =>
    refine .ended (apart_none id) ?_ (live.toAccount.silent rfl ?_ ?_)
      (forall_append (live.results _) ?_)
    · intro core found plan wait same
      cases (Engine.core?_finish (some value) found).symm.trans same
    · intro starts
      rw [call?_eq_none (.inr ⟨value, rfl⟩)] at starts
      cases starts
    · exact Engine.finish_undisturbed engine id (some value)
    · intro result finished
      exact congrArg Plan.done (Option.some.inj finished)
  | vanish missing =>
    unfold Engine.core? at core
    rw [missing] at core
    cases core

/-- A step of a task leaves alone the tasks that were there before. -/
theorem Step.isolates {engine : Engine α} {active : Active α} {more : List (Move α)}
    {stage : Stage α} (step : Step ⟨engine, some active⟩ more stage) :
    Engine.Isolates active.id engine stage.engine ∧
      (∀ move ∈ more, move.id = active.id) ∧
        ∀ other, stage.active = some other → other.id = active.id := by
  cases step with
  | @answer _ after id task request next wait answer found answers =>
    have isolates := Engine.Isolates.answer engine id task request wait
    rw [answers] at isolates
    refine ⟨isolates, fun move member => ?_, fun other same => ?_⟩
    · rw [List.mem_singleton.mp member]
    · cases same
      rfl
  | @wait _ after id task request next wait later found waits =>
    have isolates := Engine.Isolates.answer engine id task request wait
    rw [waits] at isolates
    refine ⟨isolates.trans (.suspend after id _ later), ?_, nofun⟩
    intro move member
    rw [List.mem_singleton.mp member]
  | @crash _ after id task request next wait found crashes =>
    have isolates := Engine.Isolates.answer engine id task request wait
    rw [crashes] at isolates
    refine ⟨isolates.trans (.finish after id none), ?_, nofun⟩
    intro move member
    rw [List.mem_singleton.mp member]
  | @finish _ id result wait =>
    refine ⟨.finish engine id (some result), ?_, nofun⟩
    intro move member
    rw [List.mem_singleton.mp member]
  | vanish missing =>
    exact ⟨(Engine.Retains.refl engine).isolates, fun _ none => absurd none List.not_mem_nil, nofun⟩

theorem Step.nextTask_le {more : List (Move α)} {middle stage : Stage α}
    (step : Step middle more stage) : middle.engine.nextTask ≤ stage.engine.nextTask := by
  rcases middle with ⟨engine, _ | active⟩
  · cases step with
    | change _ change =>
      rcases change.apply_cases engine with ⟨task, rfl⟩ | ⟨operation, rfl⟩ | retains
      · exact engine.nextTask_spawn task ▸ Nat.le_succ _
      · exact Nat.le_of_eq (Change.reset_tasks engine operation).2.symm
      · exact Nat.le_of_eq retains.nextTask.symm
    | abort _ id => exact Nat.le_of_eq (Engine.Isolates.abort engine id).nextTask.symm
    | resume => exact Nat.le_refl _
  · exact Nat.le_of_eq step.isolates.1.nextTask.symm

theorem Run.nextTask_le {more : List (Move α)} {middle stage : Stage α}
    (run : Run middle more stage) : middle.engine.nextTask ≤ stage.engine.nextTask := by
  induction run with
  | refl => exact Nat.le_refl _
  | next _ step inductionHypothesis => exact Nat.le_trans inductionHypothesis step.nextTask_le

theorem Fate.step {moves more : List (Move α)} {middle stage : Stage α}
    (fate : Fate start operation id (own id moves) middle)
    (ordered : ∀ history rest, start.Leads history rest → permits.Accepts false history)
    (known : id < middle.engine.nextTask) (step : Step middle more stage) :
    id < stage.engine.nextTask ∧ Fate start operation id (own id (moves ++ more)) stage := by
  rcases middle with ⟨engine, _ | ⟨active, plan, wait⟩⟩
  · cases step with
    | change _ change =>
      obtain ⟨same, known⟩ := change.core?_apply known
      rw [List.append_nil]
      exact ⟨known, fate.stays (apart_none id) (apart_none id) same⟩
    | abort _ other =>
      have spares := (Engine.Isolates.abort engine other).spares
      refine ⟨spares.nextTask.symm ▸ known, ?_⟩
      by_cases mine : other = id
      · subst mine
        rw [own_append_of_mine fun move member => by rw [List.mem_singleton.mp member]]
        exact fate.aborted
      · have others : ∀ move ∈ [(⟨other, engine, .aborted, engine.abort other⟩ : Move α)],
            move.id ≠ id := fun move member => List.mem_singleton.mp member ▸ mine
        rw [own_append_of_others others]
        exact fate.stays (apart_none id) (apart_none id) (spares.tasks id (Ne.symm mine))
    | @resume _ other task plan wait found suspended =>
      rw [List.append_nil]
      refine ⟨known, ?_⟩
      by_cases mine : other = id
      · subst mine
        exact fate.resumed found suspended
      · exact fate.stays (apart_none id) (fun _ same => Option.some.inj same ▸ mine) rfl
  · obtain ⟨isolates, moved, remains⟩ := step.isolates
    have spares := isolates.spares
    refine ⟨spares.nextTask.symm ▸ known, ?_⟩
    by_cases mine : active = id
    · subst mine
      rw [own_append_of_mine moved]
      cases fate with
      | active core live => exact live.step core ordered step
      | suspended apart => exact absurd rfl (apart _ rfl)
      | ended apart => exact absurd rfl (apart _ rfl)
    · rw [own_append_of_others fun move member => moved move member ▸ mine]
      exact fate.stays (fun _ same => Option.some.inj same ▸ mine)
        (fun other same => remains other same ▸ mine) (spares.tasks id (Ne.symm mine))

theorem Fate.run {moves : List (Move α)} {first stage : Stage α}
    (fate : Fate start operation id [] first)
    (ordered : ∀ history rest, start.Leads history rest → permits.Accepts false history)
    (known : id < first.engine.nextTask) (run : Run first moves stage) :
    id < stage.engine.nextTask ∧ Fate start operation id (own id moves) stage := by
  induction run with
  | refl => exact ⟨known, fate⟩
  | next _ step inductionHypothesis =>
    obtain ⟨known, fate⟩ := inductionHypothesis
    exact fate.step ordered known step

end Resilience
