import Resilience.Proofs.Engine.Hushed
import Resilience.Proofs.Engine.Looks
import Resilience.Proofs.Engine.Tandem

/-!
Engines in each other's shadow: their policies differ in retries that never retry, and else they
differ in nothing that a muted engine keeps. Whenever a task goes on in both, it does the same in
both, but for faint requests in between, up to the call of a fallback handler that can tell the
exhaustion of retries from the fault behind it.
-/

namespace Resilience

/-- Whether the sink holds nobody up who tells that retries stop. -/
def Sink.Passes (sink : Sink) : Prop :=
  ∀ operation event, event.isStop = true → (sink.ready && sink.stalls ⟨operation, event⟩) = false

/-- Whether a task has come to a point in the shadow of that at which another one is. -/
inductive Progress.Shadows (known : Bool) : Progress Outcome → Progress Outcome → Prop
  | suspended {plan plan' : Plan Outcome} {wait : Wait} (shadows : Plan.Shadows known plan plan')
      (clear : plan'.Clear) : Shadows known (.suspended plan wait) (.suspended plan' wait)
  | finished {result result' : Outcome} (ends : Outcome.Shadows result result') :
      Shadows known (.finished result) (.finished result')
  | crashed : Shadows known .crashed .crashed

theorem Progress.Shadows.mono {known later : Bool} {progress progress' : Progress Outcome}
    (shadows : Progress.Shadows known progress progress') (more : known = true → later = true) :
    Progress.Shadows later progress progress' := by
  cases shadows with
  | suspended shadows clear => exact .suspended (shadows.later more) clear
  | finished ends => exact .finished ends
  | crashed => exact .crashed

namespace Engine

variable {α : Type} {engine after : Engine α} {id : TaskId} {task : Task α}

def knows (engine : Engine α) (operation : OperationId) : Bool :=
  (engine.operations.get? operation).isSome

def course? (engine : Engine α) (id : TaskId) : Option (OperationId × Progress α) :=
  (engine.tasks.get? id).map fun task => (task.operation, task.progress)

theorem course?_of_found (found : engine.tasks.get? id = some task) :
    engine.course? id = some (task.operation, task.progress) :=
  congrArg (Option.map _) found

theorem course?_eq (engine : Engine α) (id : TaskId) :
    engine.course? id = (engine.core? id).map fun core => (core.1, core.2.2) := by
  unfold course? core?
  rw [Option.map_map]
  rfl

theorem Keeps.course? {before : Engine α} (keeps : before.Keeps after) (id : TaskId) :
    after.course? id = before.course? id := by
  rw [course?_eq, course?_eq, keeps.tasks]

theorem course?_setPermit (engine : Engine α) (id other : TaskId) (permit : Option Permit) :
    (engine.setPermit id permit).course? other = engine.course? other := by
  unfold course? setPermit
  rw [get?_modifyTask]
  split
  · rw [Option.map_map]
    rfl
  · rfl

theorem course?_answer (engine : Engine α) (id : TaskId) (task : Task α) (request : Request)
    (wait : Wait) (other : TaskId) :
    (engine.answer id task request wait).2.course? other = engine.course? other := by
  cases request with
  | acquirePermit rule =>
    show (engine.acquirePermit id task rule).2.course? other = engine.course? other
    unfold acquirePermit
    dsimp only
    rcases (engine.stateOf task.operation).breaker.acquire rule engine.clock with ⟨_ | permit, _⟩
    · rfl
    · exact course?_setPermit _ id other (some permit)
  | recordSample rule failed =>
    show (engine.recordSample id task rule failed).2.course? other = engine.course? other
    unfold recordSample
    split
    · rfl
    · exact course?_setPermit _ id other none
  | dropPermit =>
    show (engine.dropPermit id task).course? other = engine.course? other
    unfold dropPermit
    split
    · rfl
    · exact course?_setPermit _ id other none
  | _ =>
    apply Keeps.course?
    apply answer_keeps
    exact trivial

theorem answer_ready (engine : Engine α) (id : TaskId) (task : Task α) (request : Request)
    (wait : Wait) : (engine.answer id task request wait).2.sink.ready = engine.sink.ready := by
  have passed {β : Type} (engine : Engine β) :
      (engine.passGate id).2.sink.ready = engine.sink.ready :=
    ((Touches.refl engine).passGate id).sink.ready
  cases request with
  | emit event =>
    show (engine.send id ⟨task.operation, event⟩ wait).2.sink.ready = engine.sink.ready
    by_cases sent : wait = .delivery
    · subst sent
      exact passed engine
    · have muted := congrArg (fun reply => reply.2.sink.ready)
        (hushed_send engine id sent ⟨task.operation, event⟩)
      refine Eq.trans muted ?_
      split
      · exact passed engine.muted
      · rfl
  | count counter amount => rfl
  | _ =>
    apply (answer_preserves engine id task ?_ wait).sink.ready
    exact trivial

/-- What no task changes: the policies, whether the sink takes events and which of them it holds up,
and which operations were in use. -/
structure Abides (before after : Engine α) : Prop where
  registry : after.registry = before.registry
  ready : after.sink.ready = before.sink.ready
  stallOn : after.sink.stallOn = before.sink.stallOn
  knows : ∀ operation, before.knows operation = true → after.knows operation = true

theorem answer_abides (engine : Engine α) (id : TaskId) (task : Task α) (request : Request)
    (wait : Wait) : engine.Abides (engine.answer id task request wait).2 where
  registry := answer_registry ..
  ready := answer_ready ..
  stallOn := answer_stallOn ..
  knows := (recalls_answer engine id task request wait).known

theorem finish_abides (engine : Engine α) (id : TaskId) (result : Option α) :
    engine.Abides (engine.finish id result) where
  registry := registry_of_under (engine.finish_under engine.registry [] id result)
  ready := (Preserves.finish engine id result).sink.ready
  stallOn := (Preserves.finish engine id result).sink.stallOn
  knows operation knows := by
    unfold finish
    split
    · exact knows
    next task _ => exact (recalls_release engine id task).known operation knows

theorem abort_abides (engine : Engine α) (id : TaskId) : engine.Abides (engine.abort id) where
  registry := registry_of_under (engine.abort_under engine.registry [] id)
  ready := (Preserves.abort engine id).sink.ready
  stallOn := (Preserves.abort engine id).sink.stallOn
  knows operation knows := by
    unfold abort
    split
    next task _ =>
      split
      · exact (recalls_release engine id task).known operation knows
      · exact knows
    · exact knows

theorem Abides.refl (engine : Engine α) : engine.Abides engine := ⟨rfl, rfl, rfl, fun _ => id⟩

def AtPar (engine twin : Engine Outcome) (id : TaskId) : Prop :=
  Option.Rel (fun one other => Progress.Shadows (engine.knows one.1) one.2 other.2)
    (engine.course? id) (twin.course? id)

/-- Whether two engines differ only in what a muted engine does not keep: in retries that never
retry, and in the plans of tasks that go on in the shadow of each other. -/
structure Shadows (engine twin : Engine Outcome) : Prop where
  muted : twin.muted = engine.muted
  registry : engine.registry.Idled twin.registry
  passes : engine.sink.Passes
  tasks : ∀ id, engine.AtPar twin id

namespace Shadows

variable {engine twin after after' : Engine Outcome} {id : TaskId} {task task' : Task Outcome}

theorem further (shadows : engine.Shadows twin) (abides : engine.Abides after)
    (abides' : twin.Abides after') (muted : after'.muted = after.muted)
    (tasks : ∀ id, after.AtPar after' id) : after.Shadows after' where
  muted := muted
  registry := by
    rw [abides.registry, abides'.registry]
    exact shadows.registry
  passes operation event stops := by
    have passes := shadows.passes operation event stops
    unfold Sink.stalls at passes ⊢
    rw [abides.ready, abides.stallOn]
    exact passes
  tasks := tasks

theorem atPar (shadows : engine.Shadows twin) (abides : engine.Abides after)
    (course : after.course? id = engine.course? id)
    (course' : after'.course? id = twin.course? id) : after.AtPar after' id := by
  have related := shadows.tasks id
  unfold AtPar at related ⊢
  rw [course, course']
  generalize engine.course? id = mine, twin.course? id = yours at related ⊢
  cases related with
  | none => exact .none
  | some progress => exact .some (progress.mono (abides.knows _))

/-- Engines stay alike if no task comes any further. -/
theorem stays (shadows : engine.Shadows twin) (abides : engine.Abides after)
    (abides' : twin.Abides after') (muted : after'.muted = after.muted)
    (course : ∀ id, after.course? id = engine.course? id)
    (course' : ∀ id, after'.course? id = twin.course? id) : after.Shadows after' :=
  shadows.further abides abides' muted fun id => shadows.atPar abides (course id) (course' id)

/-- Engines stay alike if one task comes as far in both. -/
theorem turns (shadows : engine.Shadows twin) (abides : engine.Abides after)
    (abides' : twin.Abides after') (muted : after'.muted = after.muted)
    (isolates : Isolates id engine after) (isolates' : Isolates id twin after')
    (own : after.AtPar after' id) : after.Shadows after' := by
  have others {before after : Engine Outcome} (isolates : Isolates id before after)
      {other : TaskId} (differs : other ≠ id) : after.course? other = before.course? other := by
    rw [course?_eq, course?_eq, isolates.spares.tasks other differs]
  refine shadows.further abides abides' muted fun other => ?_
  by_cases same : other = id
  · exact same ▸ own
  · exact shadows.atPar abides (others isolates same) (others isolates' same)

theorem found (shadows : engine.Shadows twin) (found : engine.tasks.get? id = some task) :
    ∃ task', twin.tasks.get? id = some task' ∧ task'.muted = task.muted ∧
      Progress.Shadows (engine.knows task.operation) task.progress task'.progress := by
  have same : (twin.tasks.get? id).map Task.muted = (engine.tasks.get? id).map Task.muted := by
    rw [← get?_muted, ← get?_muted, shadows.muted]
  rw [found] at same
  obtain ⟨task', found', muted⟩ := Option.map_eq_some_iff.mp same
  have progress := shadows.tasks id
  unfold AtPar at progress
  rw [course?_of_found found, course?_of_found found'] at progress
  cases progress with
  | some progress => exact ⟨task', found', muted, progress⟩

theorem missing (shadows : engine.Shadows twin) (missing : engine.tasks.get? id = none) :
    twin.tasks.get? id = none := by
  have same : (twin.tasks.get? id).map Task.muted = (engine.tasks.get? id).map Task.muted := by
    rw [← get?_muted, ← get?_muted, shadows.muted]
  rw [missing] at same
  exact Option.map_eq_none_iff.mp same

/-- Whatever is asked for, policies apart, both engines reply the same. -/
theorem answer (shadows : engine.Shadows twin) (muted : task'.muted = task.muted)
    {request : Request} (other : request ≠ .resolve) (id : TaskId) (wait : Wait) :
    (twin.answer id task' request wait).1 = (engine.answer id task request wait).1 ∧
      (engine.answer id task request wait).2.Shadows (twin.answer id task' request wait).2 := by
  have same : hushed (twin.answer id task' request wait) =
      hushed (engine.answer id task request wait) := by
    rw [← answer_muted twin id task' other, ← answer_muted engine id task other, shadows.muted,
      muted]
  have replies : (hushed (twin.answer id task' request wait)).1 =
      (hushed (engine.answer id task request wait)).1 := congrArg Prod.fst same
  exact ⟨replies, shadows.stays (answer_abides ..) (answer_abides ..) (congrArg Prod.snd same)
    (course?_answer engine id task request wait) (course?_answer twin id task' request wait)⟩

theorem knows (shadows : engine.Shadows twin) (operation : OperationId) :
    twin.knows operation = engine.knows operation := by
  have known (engine : Engine Outcome) : engine.muted.knows operation = engine.knows operation := by
    unfold Engine.knows Engine.muted
    simp only [Table.get?_map, Option.isSome_map]
  rw [← known, ← known, shadows.muted]

theorem passes' (shadows : engine.Shadows twin) : twin.sink.Passes := by
  have ready : twin.sink.ready = engine.sink.ready :=
    congrArg (fun engine => engine.sink.ready) shadows.muted
  have stallOn : twin.sink.stallOn = engine.sink.stallOn :=
    congrArg (fun engine => engine.sink.stallOn) shadows.muted
  intro operation event stops
  have passes := shadows.passes operation event stops
  unfold Sink.stalls at passes ⊢
  rw [ready, stallOn]
  exact passes

end Shadows

section Faint

variable {request : Request}

theorem send_of_stop (passes : engine.sink.Passes) (id : TaskId) (operation : OperationId)
    {event : Event} (stops : event.isStop = true) :
    hushed (engine.send id ⟨operation, event⟩ .unbegun) = (.now (), engine.muted) := by
  have unsent : Wait.unbegun ≠ .delivery := nofun
  rw [hushed_send engine id unsent, passes operation event stops]
  rfl

theorem answer_of_faint (passes : engine.sink.Passes) (faint : request.Faint) (id : TaskId)
    (task : Task α) : ∃ answer, (engine.answer id task request .unbegun).1 = .now answer := by
  cases request with
  | emit event => exact ⟨(), congrArg Prod.fst (send_of_stop passes id task.operation faint)⟩
  | clock | log | count => exact ⟨_, rfl⟩
  | _ => exact faint.elim

/-- A faint request leaves nothing behind that is heard. -/
theorem muted_answer (passes : engine.sink.Passes) (faint : request.Faint) (id : TaskId)
    (knows : engine.knows task.operation = true) :
    (engine.answer id task request .unbegun).2.muted = engine.muted := by
  cases request with
  | emit event => exact congrArg Prod.snd (send_of_stop passes id task.operation faint)
  | clock | log => rfl
  | count counter amount =>
    obtain ⟨state, known⟩ := Option.isSome_iff_exists.mp knows
    have current : engine.stateOf task.operation = state := by
      unfold stateOf
      rw [known]
      rfl
    refine setState_known engine known ?_
    rw [current]
    exact OperationState.muted_count_of_faint faint state
  | _ => exact faint.elim

/-- Engines stay alike if one of them is asked faintly. -/
theorem Shadows.faint {engine twin : Engine Outcome} (shadows : engine.Shadows twin)
    (faint : request.Faint) (id : TaskId) {task : Task Outcome}
    (knows : engine.knows task.operation = true) :
    ∃ answer, (twin.answer id task request .unbegun).1 = .now answer ∧
      (twin.answer id task request .unbegun).2.muted = twin.muted ∧
        engine.Shadows (twin.answer id task request .unbegun).2 := by
  obtain ⟨answer, now⟩ := answer_of_faint shadows.passes' faint id task
  have unheard := muted_answer shadows.passes' faint id ((shadows.knows _).trans knows)
  exact ⟨answer, now, unheard, shadows.stays (.refl engine) (answer_abides ..)
    (unheard.trans shadows.muted) (fun _ => rfl)
    (course?_answer twin id task request .unbegun)⟩

end Faint

theorem Shadows.isSome_eq {engine twin : Engine Outcome} (shadows : engine.Shadows twin)
    (operation : OperationId) : (twin.registry.resolve? operation).isSome =
      (engine.registry.resolve? operation).isSome := by
  have related := shadows.registry operation
  generalize engine.registry.resolve? operation = mine,
    twin.registry.resolve? operation = yours at related ⊢
  cases related <;> rfl

/-- Engines stay alike if a task looks its policy up in both. -/
theorem Shadows.resolve {engine twin : Engine Outcome} (shadows : engine.Shadows twin)
    (operation : OperationId) :
    (engine.resolve operation).2.Shadows (twin.resolve operation).2 := by
  have abides (engine : Engine Outcome) : engine.Abides (engine.resolve operation).2 := by
    refine ⟨?_, ?_, ?_, (recalls_resolve engine operation).known⟩
    all_goals
      obtain ⟨operations, same⟩ := resolve_operations engine operation
      rw [same]
  have muted : (twin.resolve operation).2.muted = (engine.resolve operation).2.muted := by
    rw [muted_resolve, muted_resolve, shadows.isSome_eq, shadows.muted]
  have course (engine : Engine Outcome) (id : TaskId) :
      (engine.resolve operation).2.course? id = engine.course? id := by
    obtain ⟨operations, same⟩ := resolve_operations engine operation
    rw [same]
    rfl
  exact shadows.stays (abides engine) (abides twin) muted (course engine) (course twin)

theorem knows_of_resolved {engine : Engine Outcome} {operation : OperationId} {policy : Policy}
    (found : engine.registry.resolve? operation = some policy) :
    (engine.resolve operation).2.knows operation = true := by
  unfold Engine.resolve
  rw [found]
  unfold knows setState
  simp

end Engine

end Resilience
