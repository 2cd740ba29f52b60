import Resilience.Proofs.Engine.Leaks
import Resilience.Proofs.Engine.Registry

/-!
How an engine goes on from a stage in the middle of a course, with what was known before still known
at each move; and that an invocation that holds nothing leaves every operation as it is.
-/

namespace Resilience

open Move

theorem Step.moves_cases {α : Type} {more : List (Move α)} {middle stage : Stage α}
    (step : Step middle more stage) : more = [] ∨ ∃ move, more = [move] := by
  cases step with
  | change | resume | vanish => exact .inl rfl
  | _ => exact .inr ⟨_, rfl⟩

/-- Whether moves lead from one stage to another when every task that is started on the way is an
invocation. -/
inductive Onward (first : Stage Outcome) : List (Move Outcome) → Stage Outcome → Prop
  | refl : Onward first [] first
  | invoke {moves : List (Move Outcome)} {engine : Engine Outcome}
      (onward : Onward first moves ⟨engine, none⟩) (operation : OperationId) (input : String)
      (service : Service) (linked cancelled : Bool) :
      Onward first moves
        ⟨(engine.spawn (Engine.invocation operation input service linked cancelled)).2, none⟩
  | step {moves more : List (Move Outcome)} {middle stage : Stage Outcome}
      (onward : Onward first moves middle) (step : Step middle more stage)
      (unspawned : stage.engine.nextTask = middle.engine.nextTask) :
      Onward first (moves ++ more) stage

namespace Onward

variable {first stage : Stage Outcome} {past moves : List (Move Outcome)}

theorem trans {middle : Stage Outcome} {more : List (Move Outcome)}
    (onward : Onward first moves middle) (further : Onward middle more stage) :
    Onward first (moves ++ more) stage := by
  induction further with
  | refl => exact (List.append_nil moves).symm ▸ onward
  | invoke _ operation input service linked cancelled inductionHypothesis =>
    exact inductionHypothesis.invoke operation input service linked cancelled
  | step _ step unspawned inductionHypothesis =>
    rw [← List.append_assoc]
    exact inductionHypothesis.step step unspawned

theorem further {middle : Stage Outcome} {more : List (Move Outcome)}
    (onward : Onward first moves middle) (run : Run middle more stage)
    (unspawned : stage.engine.nextTask = middle.engine.nextTask) :
    Onward first (moves ++ more) stage := by
  induction run with
  | refl => exact (List.append_nil moves).symm ▸ onward
  | next run step inductionHypothesis =>
    have before := run.nextTask_le
    have after := step.nextTask_le
    rw [unspawned] at after
    have same := Nat.le_antisymm after before
    rw [← List.append_assoc]
    exact .step (inductionHypothesis same) step (unspawned.trans same.symm)

theorem run (onward : Onward first moves stage) : Run first moves stage := by
  induction onward with
  | refl => exact .refl
  | @invoke moves engine _ operation input service linked cancelled inductionHypothesis =>
    rw [← List.append_nil moves]
    exact inductionHypothesis.next (.change engine
      (.spawn (Engine.invocation operation input service linked cancelled)))
  | step _ step _ inductionHypothesis => exact inductionHypothesis.next step

theorem course (onward : Onward first moves stage) (before : Course past first) :
    Course (past ++ moves) stage := by
  induction onward with
  | refl => exact (List.append_nil past).symm ▸ before
  | invoke _ operation input service linked cancelled inductionHypothesis =>
    exact inductionHypothesis.invoke operation input service linked cancelled
  | step _ step unspawned inductionHypothesis =>
    rw [← List.append_assoc]
    exact inductionHypothesis.step step unspawned

theorem sound (onward : Onward first moves stage) (before : first.engine.registry.Sound) :
    stage.engine.registry.Sound := by
  induction onward with
  | refl => exact before
  | @invoke moves engine _ operation input service linked cancelled inductionHypothesis =>
    exact (Step.change engine
      (.spawn (Engine.invocation operation input service linked cancelled))).sound
        inductionHypothesis
  | step _ step _ inductionHypothesis => exact step.sound inductionHypothesis

theorem reached (onward : Onward first moves stage) {move : Move Outcome} (member : move ∈ moves) :
    ∃ earlier middle next, Onward first earlier middle ∧ Step middle [move] next ∧
      earlier ++ [move] <+: moves := by
  induction onward with
  | refl => cases member
  | invoke _ _ _ _ _ _ inductionHypothesis => exact inductionHypothesis member
  | @step moves more middle stage onward step _ inductionHypothesis =>
    rcases List.mem_append.mp member with before | last
    · obtain ⟨earlier, middle, next, reached, step, begins⟩ := inductionHypothesis before
      exact ⟨earlier, middle, next, reached, step, begins.trans (List.prefix_append _ _)⟩
    · rcases step.moves_cases with rfl | ⟨only, rfl⟩
      · cases last
      · cases List.mem_singleton.mp last
        exact ⟨moves, middle, stage, onward, step, List.prefix_refl _⟩

end Onward

/-- An engine without policies in which nothing has happened. -/
def Engine.blank {α : Type} (engine : Engine α) : Engine α :=
  { engine with registry := {}, tasks := {}, operations := {} }

/-- The policy that an invocation found is the answer to one of its requests. -/
theorem resolve_mem {history : List Exchange} {policy : Policy}
    (resolved : resolved? history = some policy) : ⟨.resolve, some policy⟩ ∈ history := by
  obtain ⟨⟨request, answer⟩, member, told⟩ := List.exists_of_findSome?_eq_some resolved
  cases request with
  | resolve =>
    cases show answer = some policy from told
    exact member
  | _ => cases told

theorem Engine.resolve_fst {α : Type} (engine : Engine α) (operation : OperationId) :
    (engine.resolve operation).1 = engine.registry.resolve? operation := by
  unfold resolve
  split
  next found => exact found.symm
  next none => exact none.symm

theorem Registry.Sound.valid {registry : Registry} (sound : registry.Sound)
    {operation : OperationId} {policy : Policy}
    (resolved : registry.resolve? operation = some policy) : policy.Valid := by
  obtain ⟨registration, found, rfl⟩ := Option.map_eq_some_iff.mp resolved
  exact (sound operation registration found).resolved

theorem Policy.Valid.slots_eq {policy : Policy} (valid : policy.Valid) {bulkhead : BulkheadPolicy}
    (declared : policy.bulkhead = some bulkhead) :
    bulkhead.slots = bulkhead.maxConcurrent.toNat := by
  have checked : bulkhead.problem? = none := by
    have checked := valid .bulkhead
    rw [Policy.problemOf?, declared] at checked
    exact checked
  have some : bulkhead.maxConcurrent ≠ 0 := by
    rintro none
    rw [BulkheadPolicy.problem?, if_pos none] at checked
    cases checked
  have positive : bulkhead.maxConcurrent.toNat ≠ 0 := fun zero => some (UInt32.toNat_inj.mp zero)
  unfold BulkheadPolicy.slots
  omega

theorem Onward.resolved_valid {first stage : Stage Outcome} {moves : List (Move Outcome)}
    (onward : Onward first moves stage) (sound : first.engine.registry.Sound) {id : TaskId}
    {policy : Policy} (resolved : resolved? (history (own id moves)) = some policy) :
    policy.Valid := by
  obtain ⟨move, mine, told⟩ := List.mem_filterMap.mp (resolve_mem resolved)
  obtain ⟨earlier, middle, next, reached, step, -⟩ :=
    onward.reached (List.mem_of_mem_filter mine)
  have sound := reached.sound sound
  cases step with
  | @answer engine after id task request next wait answer found answers =>
    cases told
    have replies : Reply.given (engine.resolve task.operation) = (.now (some policy), after) :=
      answers
    have same := congrArg Prod.fst (Reply.eq_of_given replies)
    exact sound.valid ((engine.resolve_fst task.operation).symm.trans same)
  | _ => cases told

/-- Whether a request only looks at the engine or writes to its log. -/
def Request.Idle : Request → Prop
  | .time | .resolve | .log _ => True
  | _ => False

namespace Engine

/-- Whether every operation of an engine is as before, and the sink has no other events. -/
structure Unmoved {α : Type} (before after : Engine α) : Prop where
  states : ∀ operation, after.stateOf operation = before.stateOf operation
  sink : before.sink.Lasts after.sink

variable {α : Type} {engine before after : Engine α} {id : TaskId} {task : Task α}

theorem Touches.unmoved (touches : before.Touches after) : before.Unmoved after :=
  ⟨touches.states, touches.sink⟩

theorem release_touches (id : TaskId) (place : task.place = none) (permit : task.permit = none) :
    engine.Touches (engine.release id task) := by
  unfold release
  rw [leavePlace_of_free place, dropPermit_of_free permit]
  exact (Touches.refl engine).changeGate _

theorem finish_unmoved (bare : ∀ task, engine.tasks.get? id = some task →
      task.place = none ∧ task.permit = none) (result : Option α) :
    engine.Unmoved (engine.finish id result) := by
  unfold finish
  split
  · exact (Touches.refl engine).unmoved
  next task found =>
    obtain ⟨place, permit⟩ := bare task found
    have released := (engine.release_touches id place permit).unmoved
    exact ⟨released.states, released.sink⟩

theorem abort_unmoved (bare : ∀ task, engine.tasks.get? id = some task →
      task.place = none ∧ task.permit = none) : engine.Unmoved (engine.abort id) := by
  unfold abort
  split
  next task found =>
    obtain ⟨place, permit⟩ := bare task found
    split
    · have released := (engine.release_touches id place permit).unmoved
      exact ⟨released.states, released.sink⟩
    · exact ⟨fun _ => rfl, .refl _⟩
  · exact (Touches.refl engine).unmoved

theorem answer_idle {request : Request} (idle : request.Idle) (engine : Engine α) (id : TaskId)
    (task : Task α) (wait : Wait) :
    (∃ answer, (engine.answer id task request wait).1 = .now answer) ∧
      engine.Touches (engine.answer id task request wait).2 := by
  have touches := Touches.refl engine
  cases request with
  | time => exact ⟨⟨_, rfl⟩, touches⟩
  | resolve => exact ⟨⟨_, rfl⟩, touches.resolve task.operation⟩
  | log line => exact ⟨⟨_, rfl⟩, touches.write [line]⟩
  | _ => exact idle.elim

end Engine

variable {moves : List (Move Outcome)} {middle next : Stage Outcome} {move : Move Outcome}

theorem Attending.bare {past : List Exchange} {id : TaskId} {active : Option (Active Outcome)}
    {holding : Holding Outcome} (attending : Attending past id active holding)
    (idle : ∀ exchange ∈ past, exchange.request.Idle) :
    holding.place = none ∧ holding.permit = none := by
  have offBulkhead (request : Request) (idle : request.Idle) : request.OffBulkhead := by
    cases request <;> first | exact trivial | exact idle.elim
  have offBreaker (request : Request) (idle : request.Idle) : request.OffBreaker := by
    cases request <;> first | exact trivial | exact idle.elim
  have underway {plan : Plan Outcome} (underway : Underway past holding plan) :
      holding.place = none ∧ holding.permit = none := by
    have placed := underway.placed
    have permitted := underway.permitted
    rw [((places_ignores .outside).mono offBulkhead |>.accepts idle).2] at placed
    rw [((permits_ignores false).mono offBreaker |>.accepts idle).2] at permitted
    exact ⟨Standing.ofPlace_eq_outside placed, by simpa using permitted⟩
  cases attending with
  | active _ holds => exact underway holds
  | suspended _ _ holds => exact underway holds
  | ended _ _ place permit => exact ⟨place, permit⟩

/-- A move of an invocation that asks for nothing but idle requests leaves every operation as it
is. -/
theorem Attended.unmoved (attended : Attended moves middle) (step : Step middle [move] next)
    (idle : ∀ exchange ∈ history (own move.id moves), exchange.request.Idle)
    (asks : ∀ request wait, (∃ answer, move.deed = .answered ⟨request, answer⟩ wait) ∨
      move.deed = .waited request wait ∨ move.deed = .crashed request wait → request.Idle) :
    move.before.Unmoved move.after := by
  have bare (task : Task Outcome) (found : middle.engine.tasks.get? move.id = some task) :
      task.place = none ∧ task.permit = none :=
    (attended.tasks move.id task.holding (Engine.holding?_of_found found)).bare idle
  cases step with
  | abort engine id => exact Engine.abort_unmoved bare
  | @answer engine after id task request next wait answer found answers =>
    have touches := (engine.answer_idle (asks request wait (.inl ⟨answer, rfl⟩)) id task wait).2
    rw [answers] at touches
    exact touches.unmoved
  | @wait engine after id task request next wait later found waits =>
    obtain ⟨⟨answer, now⟩, -⟩ :=
      engine.answer_idle (asks request wait (.inr (.inl rfl))) id task wait
    rw [waits] at now
    cases now
  | @crash engine after id task request next wait found crashes =>
    obtain ⟨⟨answer, now⟩, -⟩ :=
      engine.answer_idle (asks request wait (.inr (.inr rfl))) id task wait
    rw [crashes] at now
    cases now
  | @finish engine id result => exact Engine.finish_unmoved bare (some result)

end Resilience
