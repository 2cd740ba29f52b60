import Resilience.Proofs.Engine.Persistence

/-!
Threads: what one task does in a run of an engine, from a point of its plan on. Whatever happens in
between, its moves are looks at the requests of its plan, one after the other, and each look starts
where the one before it left the task.
-/

namespace Resilience

open Move

variable {α : Type}

structure Point (α : Type) where
  plan : Plan α
  wait : Wait
  permit : Option Permit

/-- What stays the same of a task: its number, its operation, and a token that has fired. -/
structure Actor where
  id : TaskId
  operation : OperationId
  /-- Whether the token is known to have fired. -/
  fired : Bool

structure Actor.Holds (actor : Actor) (engine : Engine α) (task : Task α)
    (permit : Option Permit) : Prop where
  found : engine.tasks.get? actor.id = some task
  operation : task.operation = actor.operation
  permit : task.permit = permit
  cancelled : actor.fired = true → task.cancelled = true

inductive Look (actor : Actor) : Point α → Move α → Point α → Prop
  | answered {engine after : Engine α} {task : Task α} {request : Request}
      {next : request.Answer → Plan α} {wait : Wait} {answer : request.Answer}
      {permit later : Option Permit} (holds : actor.Holds engine task permit)
      (answers : engine.answer actor.id task request wait = (.now answer, after))
      (kept : request.OffBreaker → later = permit)
      (permitted : permits.allows permit.isSome request →
        later.isSome = permits.next permit.isSome ⟨request, answer⟩) :
      Look actor ⟨.ask request next, wait, permit⟩
        ⟨actor.id, engine, .answered ⟨request, answer⟩ wait, after⟩ ⟨next answer, .unbegun, later⟩
  | waited {engine after : Engine α} {task : Task α} {request : Request}
      {next : request.Answer → Plan α} {wait later : Wait} {permit : Option Permit}
      (holds : actor.Holds engine task permit)
      (waits : engine.answer actor.id task request wait = (.later later, after)) :
      Look actor ⟨.ask request next, wait, permit⟩
        ⟨actor.id, engine, .waited request wait, after.suspend actor.id (.ask request next) later⟩
        ⟨.ask request next, later, permit⟩

/-- The move that ends a task at a point of its plan. -/
inductive Ending (actor : Actor) : Point α → Move α → Prop
  | crashed {engine after final : Engine α} {task : Task α} {request : Request}
      {next : request.Answer → Plan α} {wait : Wait} {permit : Option Permit}
      (holds : actor.Holds engine task permit)
      (crashes : engine.answer actor.id task request wait = (.crash, after)) :
      Ending actor ⟨.ask request next, wait, permit⟩
        ⟨actor.id, engine, .crashed request wait, final⟩
  | finished {engine final : Engine α} {result : α} {wait : Wait} {permit : Option Permit} :
      Ending actor ⟨.done result, wait, permit⟩ ⟨actor.id, engine, .finished result, final⟩
  | aborted {engine final : Engine α} {point : Point α} :
      Ending actor point ⟨actor.id, engine, .aborted, final⟩

inductive Thread (actor : Actor) (first : Point α) : List (Move α) → Point α → Prop
  | refl : Thread actor first [] first
  | look {mine : List (Move α)} {move : Move α} {point after : Point α}
      (thread : Thread actor first mine point) (look : Look actor point move after) :
      Thread actor first (mine ++ [move]) after

/-- What is left of the moves of a task that ends at a point: its end, and that it is forgotten. -/
inductive Ended (actor : Actor) (point : Point α) : List (Move α) → Prop
  | ended {move : Move α} (ending : Ending actor point move) : Ended actor point [move]
  | forgotten {rest : List (Move α)} {engine final : Engine α} (ended : Ended actor point rest) :
      Ended actor point (rest ++ [⟨actor.id, engine, .aborted, final⟩])

/-- Whether a task stands at a point of its plan. -/
inductive Stands (actor : Actor) (point : Point α) : Stage α → Prop
  | active {engine : Engine α} {progress : Progress α}
      (core : engine.core? actor.id = some (actor.operation, point.permit, progress))
      (fired : ∀ task, engine.tasks.get? actor.id = some task → actor.fired = true →
        task.cancelled = true) :
      Stands actor point ⟨engine, some ⟨actor.id, point.plan, point.wait⟩⟩
  | suspended {engine : Engine α} {active : Option (Active α)}
      (apart : ∀ other, active = some other → other.id ≠ actor.id)
      (core : engine.core? actor.id =
        some (actor.operation, point.permit, .suspended point.plan point.wait))
      (fired : ∀ task, engine.tasks.get? actor.id = some task → actor.fired = true →
        task.cancelled = true) :
      Stands actor point ⟨engine, active⟩

structure Gone (id : TaskId) (stage : Stage α) : Prop where
  apart : ∀ other, stage.active = some other → other.id ≠ id
  ended : ∀ core, stage.engine.core? id = some core → ∀ plan wait, core.2.2 ≠ .suspended plan wait

variable {actor : Actor} {first point : Point α} {engine after : Engine α} {id : TaskId}
  {task : Task α}

namespace Engine

/-- An answer leaves a task in the table, and only requests to a breaker change its permit. -/
theorem answer_core (found : engine.tasks.get? id = some task) (request : Request) (wait : Wait) :
    ∃ permit, (engine.answer id task request wait).2.core? id =
        some (task.operation, permit, task.progress) ∧
      (request.OffBreaker → permit = task.permit) := by
  have core := core?_of_found found
  cases request with
  | acquirePermit rule =>
    have retains := (retains_acquirePermit engine id task rule).keeps
    rcases acquired : (engine.circuit task.operation).acquire rule engine.clock with
      ⟨retryAfter | permit, breaker⟩ <;> rw [acquired] at retains
    · exact ⟨task.permit, (retains.tasks id).trans core, fun _ => rfl⟩
    · exact ⟨some permit, (retains.tasks id).trans (core?_setPermit found _), fun off => off.elim⟩
  | recordSample rule failed =>
    cases held : task.permit with
    | none =>
      have same : engine.recordSample id task rule failed = (none, engine) := by
        unfold recordSample
        rw [held]
      refine ⟨none, ?_, fun _ => rfl⟩
      rw [held] at core
      exact (congrArg (fun recorded => recorded.2.core? id) same).trans core
    | some permit =>
      obtain ⟨-, retains⟩ := retains_recordSample engine id held rule failed
      exact ⟨none, (retains.keeps.tasks id).trans (core?_setPermit found none), fun off => off.elim⟩
  | dropPermit =>
    cases held : task.permit with
    | none =>
      refine ⟨none, ?_, fun _ => rfl⟩
      rw [held] at core
      exact (congrArg (fun dropped => dropped.core? id) (dropPermit_of_free held)).trans core
    | some permit =>
      refine ⟨none, ?_, fun off => off.elim⟩
      refine (congrArg (fun dropped => dropped.core? id) (dropPermit_of_held held)).trans ?_
      exact core?_setPermit found none
  | _ =>
    refine ⟨task.permit, ((answer_keeps engine id task ?_ wait).tasks id).trans core, fun _ => rfl⟩
    trivial

end Engine

theorem none_mem_nil {P : Move α → Prop} : ∀ move ∈ ([] : List (Move α)), P move :=
  fun _ none => absurd none List.not_mem_nil

theorem Thread.leads {mine : List (Move α)} (thread : Thread actor first mine point) :
    first.plan.Leads (history mine) point.plan := by
  induction thread with
  | refl => exact .refl _
  | look _ look inductionHypothesis =>
    cases look with
    | answered =>
      rw [history_append]
      exact inductionHypothesis.snoc _
    | waited =>
      rw [history_append_of_silent rfl]
      exact inductionHypothesis

/-- No look ends a task. -/
theorem Thread.unfinished {mine : List (Move α)} (thread : Thread actor first mine point) :
    ∀ move ∈ mine, move.result? = none ∧ ∀ request wait, move.deed ≠ .crashed request wait := by
  induction thread with
  | refl => exact none_mem_nil
  | look _ look inductionHypothesis =>
    refine forall_append inductionHypothesis ?_
    cases look with
    | answered => exact ⟨rfl, fun _ _ crashed => by cases crashed⟩
    | waited => exact ⟨rfl, fun _ _ crashed => by cases crashed⟩

/-- The requests to a breaker tell whether a permit is held. -/
theorem Thread.permitted {mine : List (Move α)} (thread : Thread actor first mine point)
    (accepts : permits.Accepts first.permit.isSome (history mine)) :
    point.permit.isSome = permits.after first.permit.isSome (history mine) := by
  induction thread with
  | refl => rfl
  | look _ look inductionHypothesis =>
    cases look with
    | answered _ _ _ permitted =>
      rw [history_append] at accepts ⊢
      have held := inductionHypothesis accepts.before
      rw [Monitor.after_append, ← held]
      exact permitted (held ▸ accepts.last)
    | waited =>
      rw [history_append_of_silent rfl] at accepts ⊢
      exact inductionHypothesis accepts

theorem Ended.mem {rest : List (Move α)} (ended : Ended actor point rest) :
    ∀ move ∈ rest, Ending actor point move := by
  induction ended with
  | ended ending => exact List.forall_mem_singleton.mpr ending
  | forgotten _ inductionHypothesis => exact forall_append inductionHypothesis .aborted

theorem Ending.silent {move : Move α} (ending : Ending actor point move) :
    move.exchange? = none := by
  cases ending <;> rfl

theorem history_of_endings {rest : List (Move α)} (endings : ∀ move ∈ rest, Ending actor point move)
    (looks : List (Move α)) : history (looks ++ rest) = history looks := by
  have silent : history rest = [] :=
    List.filterMap_eq_nil_iff.mpr fun move member => (endings move member).silent
  unfold history at silent ⊢
  rw [List.filterMap_append, silent, List.append_nil]

theorem Thread.ends_of_finished {looks rest : List (Move α)}
    (thread : Thread actor first looks point) (endings : ∀ move ∈ rest, Ending actor point move)
    {move : Move α} (member : move ∈ looks ++ rest) {result : α}
    (finished : move.result? = some result) : point.plan = .done result := by
  rcases List.mem_append.mp member with earlier | last
  · cases (thread.unfinished move earlier).1.symm.trans finished
  · cases endings move last with
    | finished => exact congrArg Plan.done (Option.some.inj finished)
    | crashed => cases finished
    | aborted => cases finished

theorem Stands.known {stage : Stage α} (stands : Stands actor point stage) :
    ∃ progress, stage.engine.core? actor.id = some (actor.operation, point.permit, progress) := by
  cases stands with
  | active core => exact ⟨_, core⟩
  | suspended _ core => exact ⟨_, core⟩

theorem Stands.fires {stage : Stage α} (stands : Stands actor point stage) :
    ∀ task, stage.engine.tasks.get? actor.id = some task → actor.fired = true →
      task.cancelled = true := by
  cases stands with
  | active _ fired => exact fired
  | suspended _ _ fired => exact fired

theorem Stands.holds {stage : Stage α} (stands : Stands actor point stage)
    (found : stage.engine.tasks.get? actor.id = some task) :
    actor.Holds stage.engine task point.permit := by
  obtain ⟨progress, core⟩ := stands.known
  have same := Option.some.inj ((Engine.core?_of_found found).symm.trans core)
  exact ⟨found, congrArg Prod.fst same, congrArg (fun core => core.2.1) same,
    stands.fires task found⟩

theorem Stands.suspends {active : Option (Active α)} (stands : Stands actor point ⟨engine, active⟩)
    (apart : ∀ other, active = some other → other.id ≠ actor.id)
    (found : engine.tasks.get? actor.id = some task) :
    task.progress = .suspended point.plan point.wait := by
  cases stands with
  | active => exact absurd rfl (apart _ rfl)
  | suspended _ core =>
    have same := Option.some.inj ((Engine.core?_of_found found).symm.trans core)
    exact congrArg (fun core => core.2.2) same

theorem Stands.fires_after {middle stage : Stage α} {more : List (Move α)}
    (stands : Stands actor point middle) (known : actor.id < middle.engine.nextTask)
    (step : Step middle more stage) :
    ∀ task, stage.engine.tasks.get? actor.id = some task → actor.fired = true →
      task.cancelled = true := by
  intro task found fired
  obtain ⟨earlier, before, persists⟩ := step.persists known found
  exact persists.cancelled (stands.fires earlier before fired)

theorem Stands.stays {active next : Option (Active α)}
    (stands : Stands actor point ⟨engine, active⟩)
    (apart : ∀ other, active = some other → other.id ≠ actor.id)
    (apart' : ∀ other, next = some other → other.id ≠ actor.id)
    (same : after.core? actor.id = engine.core? actor.id)
    (fired : ∀ task, after.tasks.get? actor.id = some task → actor.fired = true →
      task.cancelled = true) : Stands actor point ⟨after, next⟩ := by
  cases stands with
  | active => exact absurd rfl (apart _ rfl)
  | suspended _ core => exact .suspended apart' (same.trans core) fired

/-- How a task stands after a step: as before, after one more look, or ended. -/
inductive Succeeds (actor : Actor) (point : Point α) (more : List (Move α)) (stage : Stage α) :
    Prop
  | stays (others : ∀ move ∈ more, move.id ≠ actor.id) (stands : Stands actor point stage)
  | looks {move : Move α} {next : Point α} (single : more = [move])
      (look : Look actor point move next) (stands : Stands actor next stage)
  | ends {move : Move α} (single : more = [move]) (ending : Ending actor point move)
      (gone : Gone actor.id stage)

theorem Gone.finish (engine : Engine α) (id : TaskId) (result : Option α) :
    Gone id ⟨engine.finish id result, none⟩ := by
  refine ⟨apart_none id, fun core found plan wait same => ?_⟩
  have ended := (Engine.core?_finish result found).symm.trans same
  cases result <;> cases ended

theorem Gone.abort (engine : Engine α) (id : TaskId) : Gone id ⟨engine.abort id, none⟩ := by
  refine ⟨apart_none id, fun core found => ?_⟩
  rw [Engine.core?_abort] at found
  cases found

theorem Stands.spawn (engine : Engine α) (task : Task α) {start : Plan α}
    (unbegun : task.progress = .suspended start .unbegun) (free : task.permit = none) :
    Stands ⟨engine.nextTask, task.operation, false⟩ ⟨start, .unbegun, none⟩
      ⟨(engine.spawn task).2, none⟩ := by
  have core : (engine.spawn task).2.core? engine.nextTask =
      some (task.operation, none, .suspended start .unbegun) := by
    rw [Engine.core?_spawn, if_pos rfl, unbegun, free]
  exact .suspended (apart_none engine.nextTask) core fun _ _ never => Bool.noConfusion never

/-- What an active task does next is a look, or its end. -/
theorem Stands.proceed {more : List (Move α)} {stage : Stage α}
    (stands : Stands actor point ⟨engine, some ⟨actor.id, point.plan, point.wait⟩⟩)
    (known : actor.id < engine.nextTask)
    (step : Step ⟨engine, some ⟨actor.id, point.plan, point.wait⟩⟩ more stage) :
    Succeeds actor point more stage := by
  have fired := stands.fires_after known step
  rcases point with ⟨plan, wait, permit⟩
  cases step with
  | @answer _ after _ task request next _ answer found answers =>
    have holds := stands.holds found
    obtain ⟨later, core, kept⟩ := Engine.answer_core found request wait
    rw [answers, holds.operation] at core
    refine .looks rfl (.answered holds answers (fun off => (kept off).trans holds.permit) ?_)
      (.active core fired)
    cases show task.permit = permit from holds.permit
    intro allowed
    obtain ⟨same, present, isSome, -⟩ := Engine.answered found allowed answers
    rw [holds.operation] at present
    cases core.symm.trans present
    exact isSome
  | @wait _ after _ task request next _ later found waits =>
    have holds := stands.holds found
    have off := Engine.offBreaker_of_unanswered waits nofun
    obtain ⟨same, core, kept⟩ := Engine.answer_core found request wait
    rw [waits, holds.operation, kept off, holds.permit] at core
    exact .looks rfl (.waited holds waits)
      (.suspended (apart_none _) (Engine.core?_suspend core _ later) fired)
  | crash found crashes => exact .ends rfl (.crashed (stands.holds found) crashes) (.finish _ _ _)
  | finish => exact .ends rfl .finished (.finish _ _ _)
  | vanish missing =>
    obtain ⟨progress, core⟩ := stands.known
    have absent : engine.core? actor.id = none := congrArg (Option.map Task.core) missing
    cases absent.symm.trans core

theorem Stands.step {middle stage : Stage α} {more : List (Move α)}
    (stands : Stands actor point middle) (known : actor.id < middle.engine.nextTask)
    (step : Step middle more stage) : Succeeds actor point more stage := by
  have fired := stands.fires_after known step
  rcases middle with ⟨engine, _ | ⟨active, plan, wait⟩⟩
  · cases step with
    | change _ change =>
      exact .stays none_mem_nil
        (stands.stays (apart_none _) (apart_none _) (change.core?_apply known).1 fired)
    | abort _ other =>
      by_cases mine : other = actor.id
      · subst mine
        exact .ends rfl .aborted (.abort engine _)
      · have spares := (Engine.Isolates.abort engine other).spares
        refine .stays (fun move member => List.mem_singleton.mp member ▸ mine) ?_
        exact stands.stays (apart_none _) (apart_none _) (spares.tasks _ (Ne.symm mine)) fired
    | @resume _ other task plan wait found suspended =>
      refine .stays none_mem_nil ?_
      by_cases mine : other = actor.id
      · subst mine
        cases stands with
        | suspended _ core =>
          cases suspended.symm.trans (congrArg (fun core => core.2.2)
            (Option.some.inj ((Engine.core?_of_found found).symm.trans core)))
          exact .active core fired
      · exact stands.stays (apart_none _) (fun _ same => Option.some.inj same ▸ mine) rfl fired
  · by_cases mine : active = actor.id
    · subst mine
      cases stands with
      | active core fires => exact (Stands.active core fires).proceed known step
      | suspended apart => exact absurd rfl (apart _ rfl)
    · obtain ⟨isolates, moved, remains⟩ := step.isolates
      refine .stays (fun move member => moved move member ▸ mine) ?_
      exact stands.stays (fun _ same => Option.some.inj same ▸ mine)
        (fun other same => remains other same ▸ mine)
        (isolates.spares.tasks _ (Ne.symm mine)) fired

theorem Gone.step {middle stage : Stage α} {more : List (Move α)} (gone : Gone id middle)
    (known : id < middle.engine.nextTask) (step : Step middle more stage) :
    Gone id stage ∧ ((∀ move ∈ more, move.id ≠ id) ∨
      ∃ engine final, more = [⟨id, engine, .aborted, final⟩]) := by
  rcases middle with ⟨engine, _ | ⟨active, plan, wait⟩⟩
  · cases step with
    | change _ change =>
      have same := (change.core?_apply known).1
      exact ⟨⟨apart_none id, fun core found => gone.ended core (same.symm.trans found)⟩,
        .inl none_mem_nil⟩
    | abort _ other =>
      by_cases mine : other = id
      · subst mine
        exact ⟨.abort engine _, .inr ⟨_, _, rfl⟩⟩
      · have same := (Engine.Isolates.abort engine other).spares.tasks id (Ne.symm mine)
        exact ⟨⟨apart_none id, fun core found => gone.ended core (same.symm.trans found)⟩,
          .inl fun move member => List.mem_singleton.mp member ▸ mine⟩
    | @resume _ other task plan wait found suspended =>
      refine ⟨⟨fun active same => ?_, gone.ended⟩, .inl none_mem_nil⟩
      cases same
      rintro rfl
      exact gone.ended _ (Engine.core?_of_found found) plan wait suspended
  · have mine : active ≠ id := gone.apart _ rfl
    obtain ⟨isolates, moved, remains⟩ := step.isolates
    have same := isolates.spares.tasks id (Ne.symm mine)
    exact ⟨⟨fun other active => remains other active ▸ mine,
      fun core found => gone.ended core (same.symm.trans found)⟩,
      .inl fun move member => moved move member ▸ mine⟩

/-- How the moves of a task in a run go: along a thread to a point, where it stands or ends. -/
inductive Follows (actor : Actor) (first : Point α) (stage : Stage α) : List (Move α) → Prop
  | stands {looks : List (Move α)} {point : Point α} (thread : Thread actor first looks point)
      (stands : Stands actor point stage) : Follows actor first stage looks
  | ends {looks rest : List (Move α)} {point : Point α} (thread : Thread actor first looks point)
      (ended : Ended actor point rest) (gone : Gone actor.id stage) :
      Follows actor first stage (looks ++ rest)

theorem Follows.parts {stage : Stage α} {mine : List (Move α)}
    (follows : Follows actor first stage mine) :
    ∃ looks rest point, mine = looks ++ rest ∧ Thread actor first looks point ∧
      ∀ move ∈ rest, Ending actor point move := by
  cases follows with
  | @stands _ point thread =>
    exact ⟨mine, [], point, (List.append_nil mine).symm, thread, none_mem_nil⟩
  | @ends looks rest point thread ended => exact ⟨looks, rest, point, rfl, thread, ended.mem⟩

/-- A step of the task itself is a look or an end; any other leaves the task where it stands. -/
theorem Follows.step {middle stage : Stage α} {mine more : List (Move α)}
    (follows : Follows actor first middle mine) (known : actor.id < middle.engine.nextTask)
    (step : Step middle more stage) : Follows actor first stage (mine ++ own actor.id more) := by
  cases follows with
  | stands thread stands =>
    cases stands.step known step with
    | stays others stands =>
      rw [own_of_others others, List.append_nil]
      exact .stands thread stands
    | looks single look stands =>
      rw [single, own_of_mine fun move member => ?_]
      · exact .stands (.look thread look) stands
      · rw [List.mem_singleton.mp member]
        cases look <;> rfl
    | ends single ending gone =>
      rw [single, own_of_mine fun move member => ?_]
      · exact .ends thread (.ended ending) gone
      · rw [List.mem_singleton.mp member]
        cases ending <;> rfl
  | ends thread ended gone =>
    obtain ⟨gone, others | ⟨engine, final, rfl⟩⟩ := gone.step known step
    · rw [own_of_others others, List.append_nil]
      exact .ends thread ended gone
    · rw [own_of_mine fun move member => by rw [List.mem_singleton.mp member], List.append_assoc]
      exact .ends thread (.forgotten ended) gone

theorem Run.follows {start stage : Stage α} {moves : List (Move α)} (run : Run start moves stage)
    (stands : Stands actor first start) (known : actor.id < start.engine.nextTask) :
    Follows actor first stage (own actor.id moves) := by
  induction run with
  | refl => exact .stands .refl stands
  | next run step inductionHypothesis =>
    rw [own_append]
    exact inductionHypothesis.step (Nat.lt_of_lt_of_le known run.nextTask_le) step

theorem Run.forgets {start stage : Stage α} {moves : List (Move α)} (run : Run start moves stage)
    (gone : Gone id start) (known : id < start.engine.nextTask) :
    Gone id stage ∧ ∀ move ∈ own id moves, move.deed = .aborted := by
  induction run with
  | refl => exact ⟨gone, none_mem_nil⟩
  | next run step inductionHypothesis =>
    obtain ⟨gone, forgotten⟩ := inductionHypothesis
    have known := Nat.lt_of_lt_of_le known run.nextTask_le
    obtain ⟨gone, others | ⟨engine, final, rfl⟩⟩ := gone.step known step
    · rw [own_append_of_others others]
      exact ⟨gone, forgotten⟩
    · rw [own_append_of_mine fun move member => by rw [List.mem_singleton.mp member]]
      exact ⟨gone, forall_append forgotten rfl⟩

end Resilience
