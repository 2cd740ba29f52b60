import Resilience.Proofs.Engine.Onward

/-!
Cues: what drives an engine from outside. Each cue is one step, and which step that is depends on
nothing but the stage; so two engines can be given the same cues. Every way on from a stage is what
comes of some cues.
-/

namespace Resilience

/-- What happens next to an engine whose tasks are invocations. -/
inductive Cue where
  | invoke (operation : OperationId) (input : String) (service : Service) (linked cancelled : Bool)
  | change (change : Change Outcome) (unspawning : ∀ task, change ≠ .spawn task)
  | abort (id : TaskId)
  /-- A task is chosen to go on. -/
  | resume (id : TaskId)
  /-- The task that goes on makes its next move. -/
  | advance

/-- What comes of a cue: the moves that answer it, and the stage after them. -/
abbrev Response (α : Type) := List (Move α) × Stage α

def Engine.advance {α : Type} (engine : Engine α) (id : TaskId) : Plan α → Wait → Response α
  | .done result, _ =>
    let after := engine.finish id (some result)
    ([⟨id, engine, .finished result, after⟩], ⟨after, none⟩)
  | .ask request next, wait =>
    match engine.tasks.get? id with
    | none => ([], ⟨engine, none⟩)
    | some task =>
      match engine.answer id task request wait with
      | (.now answer, after) =>
        ([⟨id, engine, .answered ⟨request, answer⟩ wait, after⟩],
          ⟨after, some ⟨id, next answer, .unbegun⟩⟩)
      | (.later later, after) =>
        let after := after.suspend id (.ask request next) later
        ([⟨id, engine, .waited request wait, after⟩], ⟨after, none⟩)
      | (.crash, after) =>
        let after := after.finish id none
        ([⟨id, engine, .crashed request wait, after⟩], ⟨after, none⟩)

def Engine.heed? (engine : Engine Outcome) : Cue → Option (Response Outcome)
  | .invoke operation input service linked cancelled =>
    some ([], ⟨(engine.spawn (invocation operation input service linked cancelled)).2, none⟩)
  | .change change _ => some ([], ⟨change.apply engine, none⟩)
  | .abort id => some ([⟨id, engine, .aborted, engine.abort id⟩], ⟨engine.abort id, none⟩)
  | .resume id =>
    match engine.tasks.get? id with
    | some { progress := .suspended plan wait, .. } => some ([], ⟨engine, some ⟨id, plan, wait⟩⟩)
    | _ => none
  | .advance => none

namespace Stage

def take? (stage : Stage Outcome) (cue : Cue) : Option (Response Outcome) :=
  match stage.active with
  | none => stage.engine.heed? cue
  | some active =>
    match cue with
    | .advance => some (stage.engine.advance active.id active.plan active.wait)
    | _ => none

def play? (stage : Stage Outcome) : List Cue → Option (Response Outcome)
  | [] => some ([], stage)
  | cue :: rest =>
    (stage.take? cue).bind fun taken =>
      (taken.2.play? rest).map fun played => (taken.1 ++ played.1, played.2)

variable {stage middle last : Stage Outcome} {moves more : List (Move Outcome)} {cues : List Cue}

theorem play?_cons_eq_some {cue : Cue} :
    stage.play? (cue :: cues) = some (moves, last) ↔ ∃ first middle more,
      stage.take? cue = some (first, middle) ∧ middle.play? cues = some (more, last) ∧
        moves = first ++ more := by
  simp only [play?, Option.bind_eq_some_iff, Option.map_eq_some_iff, Prod.exists, Prod.mk.injEq]
  constructor
  · rintro ⟨first, middle, taken, more, _, played, rfl, rfl⟩
    exact ⟨first, middle, more, taken, played, rfl⟩
  · rintro ⟨first, middle, more, taken, played, rfl⟩
    exact ⟨first, middle, taken, more, last, played, rfl, rfl⟩

theorem play?_append {later : List Cue} (first : stage.play? cues = some (moves, middle))
    (second : middle.play? later = some (more, last)) :
    stage.play? (cues ++ later) = some (moves ++ more, last) := by
  induction cues generalizing stage moves with
  | nil =>
    cases first
    exact second
  | cons cue rest inductionHypothesis =>
    obtain ⟨begun, reached, moves, taken, played, rfl⟩ := play?_cons_eq_some.mp first
    exact play?_cons_eq_some.mpr ⟨begun, reached, _, taken, inductionHypothesis played,
      List.append_assoc ..⟩

end Stage

variable {first stage middle last : Stage Outcome} {moves more : List (Move Outcome)}

theorem Engine.advance_step {α : Type} (engine : Engine α) (id : TaskId) (plan : Plan α)
    (wait : Wait) :
    Step ⟨engine, some ⟨id, plan, wait⟩⟩ (engine.advance id plan wait).1
      (engine.advance id plan wait).2 := by
  unfold advance
  cases plan with
  | done result => exact .finish
  | ask request next =>
    cases found : engine.tasks.get? id with
    | none => exact .vanish found
    | some task =>
      simp only
      rcases answers : engine.answer id task request wait with ⟨reply, after⟩
      cases reply with
      | now answer => exact .answer found answers
      | later later => exact .wait found answers
      | crash => exact .crash found answers

theorem Step.advance_eq {α : Type} {engine : Engine α} {active : Active α} {stage : Stage α}
    {more : List (Move α)} (step : Step ⟨engine, some active⟩ more stage) :
    engine.advance active.id active.plan active.wait = (more, stage) := by
  cases step with
  | answer found answers => simp only [Engine.advance, found, answers]
  | wait found waits => simp only [Engine.advance, found, waits]
  | crash found crashes => simp only [Engine.advance, found, crashes]
  | finish => rfl
  | vanish missing => simp only [Engine.advance, missing]

theorem Stage.take?_onward {cue : Cue} (taken : stage.take? cue = some (more, last)) :
    Onward stage more last := by
  have single {more : List (Move Outcome)} {last : Stage Outcome} (step : Step stage more last)
      (unspawned : last.engine.nextTask = stage.engine.nextTask) : Onward stage more last :=
    .step .refl step unspawned
  unfold take? at taken
  rcases stage with ⟨engine, _ | active⟩
  · cases cue with
    | invoke operation input service linked cancelled =>
      cases taken
      exact .invoke .refl operation input service linked cancelled
    | change change unspawning =>
      cases taken
      exact single (.change engine change) (Change.nextTask_apply engine unspawning)
    | abort id =>
      cases taken
      exact single (.abort engine id) (Engine.Isolates.abort engine id).nextTask
    | resume id =>
      unfold Engine.heed? at taken
      simp only at taken
      split at taken
      next found =>
        cases taken
        exact single (.resume found rfl) rfl
      next => cases taken
    | advance => cases taken
  · cases cue with
    | advance =>
      obtain ⟨rfl, rfl⟩ := Prod.mk.inj (Option.some.inj taken)
      have step := engine.advance_step active.id active.plan active.wait
      exact single step step.isolates.1.nextTask
    | _ => cases taken

theorem Onward.play {cues : List Cue} (onward : Onward first moves stage)
    (played : stage.play? cues = some (more, last)) : Onward first (moves ++ more) last := by
  induction cues generalizing stage moves more with
  | nil =>
    cases played
    exact (List.append_nil moves).symm ▸ onward
  | cons cue rest inductionHypothesis =>
    obtain ⟨begun, middle, later, taken, remains, rfl⟩ := Stage.play?_cons_eq_some.mp played
    rw [← List.append_assoc]
    exact inductionHypothesis (onward.trans (Stage.take?_onward taken)) remains

theorem Step.cue (step : Step stage more last)
    (unspawned : last.engine.nextTask = stage.engine.nextTask) :
    ∃ cue, stage.take? cue = some (more, last) := by
  rcases stage with ⟨engine, _ | active⟩
  · cases step with
    | change _ change =>
      refine ⟨.change change ?_, rfl⟩
      rintro task rfl
      rw [Change.apply, engine.nextTask_spawn] at unspawned
      exact Nat.succ_ne_self _ unspawned
    | abort _ id => exact ⟨.abort id, rfl⟩
    | @resume _ id task plan wait found suspended =>
      refine ⟨.resume id, ?_⟩
      rcases task with ⟨operation, input, service, linked, cancelled, gate, calls, place, permit, _⟩
      cases suspended
      simp only [Stage.take?, Engine.heed?, found]
  · exact ⟨.advance, congrArg some step.advance_eq⟩

theorem onward_iff_play : Onward first moves stage ↔
    ∃ cues, first.play? cues = some (moves, stage) := by
  constructor
  · intro onward
    induction onward with
    | refl => exact ⟨[], rfl⟩
    | @invoke moves engine _ operation input service linked cancelled inductionHypothesis =>
      obtain ⟨cues, played⟩ := inductionHypothesis
      have invoked : Stage.play? ⟨engine, none⟩
          [.invoke operation input service linked cancelled] = some ([], _) := rfl
      have both := Stage.play?_append played invoked
      rw [List.append_nil] at both
      exact ⟨_, both⟩
    | step _ step unspawned inductionHypothesis =>
      obtain ⟨cues, played⟩ := inductionHypothesis
      obtain ⟨cue, taken⟩ := step.cue unspawned
      refine ⟨cues ++ [cue], Stage.play?_append played ?_⟩
      exact Stage.play?_cons_eq_some.mpr ⟨_, _, [], taken, rfl, (List.append_nil _).symm⟩
  · rintro ⟨cues, played⟩
    exact Onward.refl.play played

end Resilience
