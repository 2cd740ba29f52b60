import Resilience.Proofs.Engine.Shadow

/-!
Accord: what a task does when it goes on in engines that stand alike. It makes the same moves in
both, but for faint ones in between, and leaves both alike; unless it asks a fallback handler that
can tell the exhaustion of retries from the fault behind it. Until then it did the same in both, and
from then on all that is left to do is to settle the invocation.
-/

namespace Resilience

/-- Whether a task does the same in two engines, but for the policy that it finds and for the fault
that its fallback handler and its caller are told of. -/
inductive Deed.Shadows : Deed Outcome → Deed Outcome → Prop
  | same (deed : Deed Outcome) : Shadows deed deed
  | resolved {policy twin : Policy} (idled : policy.Idled twin) (wait : Wait) :
      Shadows (.answered ⟨.resolve, some policy⟩ wait) (.answered ⟨.resolve, some twin⟩ wait)
  | handled (name : String) (fault : Fault) (answer : Option (Except Failure String))
      (wait : Wait) :
      Shadows (.answered ⟨.handle name fault, answer⟩ wait)
        (.answered ⟨.handle name (.retryExhausted 1 fault), answer⟩ wait)
  | handling (name : String) (fault : Fault) (wait : Wait) :
      Shadows (.waited (.handle name fault) wait)
        (.waited (.handle name (.retryExhausted 1 fault)) wait)
  | crashed (name : String) (fault : Fault) (wait : Wait) :
      Shadows (.crashed (.handle name fault) wait)
        (.crashed (.handle name (.retryExhausted 1 fault)) wait)
  | finished {result result' : Outcome} (ends : Outcome.Shadows result result') :
      Shadows (.finished result) (.finished result')

namespace Move

/-- Whether two moves do the same in engines that stand alike, and leave them alike. -/
structure Shadows (move twin : Move Outcome) : Prop where
  id : twin.id = move.id
  before : move.before.Shadows twin.before
  deed : move.deed.Shadows twin.deed
  after : move.after.Shadows twin.after

structure Faint (move : Move Outcome) : Prop where
  asks : ∃ request answer, request.Faint ∧ move.deed = .answered ⟨request, answer⟩ .unbegun
  unheard : move.after.muted = move.before.muted

/-- Whether the moves of the second row are those of the first one, each in the shadow of the one
that it stands for, with faint moves in between. -/
inductive Shadowed : List (Move Outcome) → List (Move Outcome) → Prop
  | nil : Shadowed [] []
  | cons {move twin : Move Outcome} {moves moves' : List (Move Outcome)}
      (shadows : move.Shadows twin) (rest : Shadowed moves moves') :
      Shadowed (move :: moves) (twin :: moves')
  | faint {twin : Move Outcome} {moves moves' : List (Move Outcome)} (faint : twin.Faint)
      (rest : Shadowed moves moves') : Shadowed moves (twin :: moves')

theorem Shadowed.append {moves moves' more more' : List (Move Outcome)}
    (first : Shadowed moves moves') (second : Shadowed more more') :
    Shadowed (moves ++ more) (moves' ++ more') := by
  induction first with
  | nil => exact second
  | cons shadows _ inductionHypothesis => exact .cons shadows inductionHypothesis
  | faint faint _ inductionHypothesis => exact .faint faint inductionHypothesis

theorem Shadowed.single {move twin : Move Outcome} (shadows : move.Shadows twin) :
    Shadowed [move] [twin] :=
  .cons shadows .nil

end Move

/-- A plan that asks nothing faint next heeds the caller if the one in whose shadow it is does. -/
theorem Plan.Shadows.heedsCaller {known : Bool} {plan twin : Plan Outcome}
    (shadows : Plan.Shadows known plan twin) (clear : twin.Clear) :
    twin.heedsCaller = plan.heedsCaller := by
  cases shadows with
  | faint faint => exact absurd faint clear
  | _ => rfl

namespace Engine

open Move

variable {engine twin after after' : Engine Outcome} {id : TaskId} {task task' : Task Outcome}

theorem course?_setProgress (engine : Engine Outcome) (id : TaskId) (progress : Progress Outcome) :
    (engine.setProgress id progress).course? id =
      (engine.course? id).map fun course => (course.1, progress) := by
  unfold course? setProgress
  rw [get?_modifyTask, if_pos rfl, Option.map_map, Option.map_map]
  rfl

theorem course?_release (engine : Engine Outcome) (id : TaskId) (task : Task Outcome) :
    (engine.release id task).course? id = engine.course? id := by
  have left := ((Touches.refl engine).changeGate (·.leave id)).retains.keeps
  have dropped (engine : Engine Outcome) :
      (engine.dropPermit id task).course? id = engine.course? id :=
    course?_answer engine id task .dropPermit .unbegun id
  unfold release
  rw [(Keeps.leavePlace _ id task).course?, dropped, left.course?]

theorem course?_finish (engine : Engine Outcome) (id : TaskId) (result : Option Outcome) :
    (engine.finish id result).course? id =
      (engine.course? id).map fun course => (course.1, ending result) := by
  cases found : engine.tasks.get? id with
  | none =>
    have missing : engine.course? id = none := congrArg (Option.map _) found
    unfold finish
    rw [found, missing]
    rfl
  | some task =>
    rw [(retains_finish found result).keeps.course?, course?_setProgress, course?_release]

namespace Shadows

theorem suspend (shadows : engine.Shadows twin) {known : Bool} {plan plan' : Plan Outcome}
    (plans : Plan.Shadows known plan plan') (clear : plan'.Clear)
    {operation : OperationId} {progress : Progress Outcome}
    (course : engine.course? id = some (operation, progress))
    (knows : known = true → engine.knows operation = true) (wait : Wait) :
    (engine.suspend id plan wait).Shadows (twin.suspend id plan' wait) := by
  have progress : (Progress.suspended plan' wait).muted = (Progress.suspended plan wait).muted := by
    simp only [Progress.muted, plans.heedsCaller clear]
  have muted : (twin.suspend id plan' wait).muted = (engine.suspend id plan wait).muted := by
    show (twin.setProgress id _).muted = (engine.setProgress id _).muted
    rw [← setProgress_muted, ← setProgress_muted, shadows.muted, progress]
  refine shadows.turns ⟨rfl, rfl, rfl, fun _ known => known⟩ ⟨rfl, rfl, rfl, fun _ known => known⟩
    muted (.suspend engine id plan wait) (.suspend twin id plan' wait) ?_
  have related := shadows.tasks id
  unfold AtPar at related ⊢
  show Option.Rel _ ((engine.setProgress id _).course? id) ((twin.setProgress id _).course? id)
  rw [course?_setProgress, course?_setProgress]
  rw [course] at related ⊢
  generalize twin.course? id = yours at related ⊢
  cases related with
  | some => exact .some (.suspended (plans.later knows) clear)

theorem finish (shadows : engine.Shadows twin) {result result' : Option Outcome}
    (ends : Option.Rel Outcome.Shadows result result') (id : TaskId) :
    (engine.finish id result).Shadows (twin.finish id result') := by
  have ended : (result'.map fun _ => ()) = result.map fun _ => () := by
    cases ends <;> rfl
  have muted : (twin.finish id result').muted = (engine.finish id result).muted := by
    rw [← muted_finish twin id result', ← muted_finish engine id result, shadows.muted, ended]
  refine shadows.turns (finish_abides ..) (finish_abides ..) muted (.finish ..) (.finish ..) ?_
  have related := shadows.tasks id
  unfold AtPar at related ⊢
  rw [course?_finish, course?_finish]
  generalize engine.course? id = mine, twin.course? id = yours at related ⊢
  cases related with
  | none => exact .none
  | some =>
    refine .some ?_
    cases ends with
    | none => exact .crashed
    | some ends => exact .finished ends

end Shadows

/-- How two engines that stand alike have gone on: they stand alike again, or they did when the task
was about to call a fallback handler that can tell the exhaustion of retries from the fault behind
it. What comes after that only asks the handler and settles the invocation. -/
inductive Accords (id : TaskId) :
    List (Move Outcome) → Engine Outcome → List (Move Outcome) → Engine Outcome → Prop
  | level {moves moves' : List (Move Outcome)} {after after' : Engine Outcome}
      (shadowed : Shadowed moves moves') (shadows : after.Shadows after') :
      Accords id moves after moves' after'
  | parted {first first' : List (Move Outcome)} {engine twin : Engine Outcome}
      {task : Task Outcome} {name : String} {respond : String → Fault → Behaviour Failure}
      {fault : Fault} {next next' : Option (Except Failure String) → Plan Outcome} {wait : Wait}
      (shadowed : Shadowed first first') (shadows : engine.Shadows twin)
      (found : engine.tasks.get? id = some task) (begins : wait.isHandler = false)
      (registered : engine.handlers.text? name = some respond)
      (tells : respond task.input (.retryExhausted 1 fault) ≠ respond task.input fault)
      (settles : ∀ answer, (next answer).Uses Request.Settling)
      (settles' : ∀ answer, (next' answer).Uses Request.Settling) :
      Accords id (first ++ engine.moves id (.ask (.handle name fault) next) wait)
        (engine.run id (.ask (.handle name fault) next) wait)
        (first' ++ twin.moves id (.ask (.handle name (.retryExhausted 1 fault)) next') wait)
        (twin.run id (.ask (.handle name (.retryExhausted 1 fault)) next') wait)

namespace Accords

variable {moves moves' : List (Move Outcome)}

theorem cons {move twin : Move Outcome} (shadows : move.Shadows twin)
    (accords : Accords id moves after moves' after') :
    Accords id (move :: moves) after (twin :: moves') after' := by
  cases accords with
  | level shadowed alike => exact .level (.cons shadows shadowed) alike
  | parted shadowed alike found begins registered tells settles settles' =>
    exact .parted (.cons shadows shadowed) alike found begins registered tells settles settles'

theorem faint {twin : Move Outcome} (faint : twin.Faint)
    (accords : Accords id moves after moves' after') :
    Accords id moves after (twin :: moves') after' := by
  cases accords with
  | level shadowed alike => exact .level (.faint faint shadowed) alike
  | parted shadowed alike found begins registered tells settles settles' =>
    exact .parted (.faint faint shadowed) alike found begins registered tells settles settles'

theorem single {move twin : Move Outcome} (shadows : move.Shadows twin) :
    Accords id [move] move.after [twin] twin.after :=
  .level (.single shadows) shadows.after

end Accords

/-- A handler that answers the exhaustion of retries as the fault behind it goes on just the
same. -/
theorem handle_indifferent {name : String} {fault : Fault} {wait : Wait}
    (indifferent : wait.isHandler = false → ∀ respond, engine.handlers.text? name = some respond →
      respond task.input (.retryExhausted 1 fault) = respond task.input fault) :
    engine.handle id task name (.retryExhausted 1 fault) wait =
      engine.handle id task name fault wait := by
  rcases engine.handle_cases id task name fault wait with
    ⟨rest, timer, rfl, goesOn⟩ | ⟨begins, ⟨respond, registered, starts⟩ | ⟨missing, none⟩⟩
  · rfl
  · have same := indifferent begins respond registered
    cases wait with
    | handler => cases begins
    | _ => simp only [handle, registered, same]
  · cases wait with
    | handler => cases begins
    | _ => simp only [handle, missing]

/-- Whether a task of an operation may go on in two engines that stand alike. The truth value says
whether the operation is known to be in use. -/
structure Abeam (id : TaskId) (operation : OperationId) (known : Bool)
    (engine twin : Engine Outcome) : Prop where
  shadows : engine.Shadows twin
  course : ∃ progress, engine.course? id = some (operation, progress)
  knows : known = true → engine.knows operation = true

namespace Abeam

variable {operation : OperationId} {known : Bool} {request : Request} {wait : Wait}

theorem found (abeam : Abeam id operation known engine twin) : ∃ task task',
    engine.tasks.get? id = some task ∧ twin.tasks.get? id = some task' ∧
      task'.muted = task.muted ∧ task.operation = operation := by
  obtain ⟨progress, course⟩ := abeam.course
  obtain ⟨task, here, same⟩ := Option.map_eq_some_iff.mp course
  obtain ⟨task', there, muted, -⟩ := abeam.shadows.found here
  exact ⟨task, task', here, there, muted, congrArg Prod.fst same⟩

/-- Whatever is asked for, policies apart, the task may go on when it is answered. -/
theorem answer (abeam : Abeam id operation known engine twin) (muted : task'.muted = task.muted)
    (other : request ≠ .resolve) (wait : Wait) :
    (twin.answer id task' request wait).1 = (engine.answer id task request wait).1 ∧
      Abeam id operation known (engine.answer id task request wait).2
        (twin.answer id task' request wait).2 := by
  obtain ⟨replies, shadows⟩ := abeam.shadows.answer muted other id wait
  obtain ⟨progress, course⟩ := abeam.course
  have stays := (course?_answer engine id task request wait id).trans course
  exact ⟨replies, shadows, ⟨progress, stays⟩, fun begun =>
    (recalls_answer engine id task request wait).known operation (abeam.knows begun)⟩

theorem suspend (abeam : Abeam id operation known engine twin) {plan plan' : Plan Outcome}
    (plans : Plan.Shadows known plan plan') (clear : plan'.Clear) (wait : Wait) :
    (engine.suspend id plan wait).Shadows (twin.suspend id plan' wait) := by
  obtain ⟨progress, course⟩ := abeam.course
  exact abeam.shadows.suspend plans clear course abeam.knows wait

end Abeam

/-- Whether a task with these plans goes on alike in any two engines that stand alike. -/
def Follows (id : TaskId) (operation : OperationId) (known : Bool) (plan plan' : Plan Outcome) :
    Prop :=
  ∀ engine twin wait, Abeam id operation known engine twin → (plan'.Clear ∨ wait = .unbegun) →
    Accords id (engine.moves id plan wait) (engine.run id plan wait) (twin.moves id plan' wait)
      (twin.run id plan' wait)

namespace Follows

variable {operation : OperationId} {known : Bool}

theorem done {outcome outcome' : Outcome} (ends : Outcome.Shadows outcome outcome') :
    Follows id operation known (.done outcome) (.done outcome') := by
  intro engine twin wait abeam clear
  exact .single ⟨rfl, abeam.shadows, .finished ends, abeam.shadows.finish (.some ends) id⟩

theorem ask {request : Request} {next next' : request.Answer → Plan Outcome}
    (other : request ≠ .resolve) (after : ∀ answer, Plan.Shadows known (next answer) (next' answer))
    (goes : ∀ answer, Follows id operation known (next answer) (next' answer)) :
    Follows id operation known (.ask request next) (.ask request next') := by
  intro engine twin wait abeam clear
  obtain ⟨task, task', here, there, muted, -⟩ := abeam.found
  obtain ⟨replies, answered⟩ := abeam.answer muted other wait
  rcases answers : engine.answer id task request wait with ⟨reply, between⟩
  rcases answers' : twin.answer id task' request wait with ⟨reply', between'⟩
  rw [answers, answers'] at replies answered
  cases replies
  cases reply with
  | now answer =>
    obtain ⟨made, went⟩ := look_now here answers next
    obtain ⟨made', went'⟩ := look_now there answers' next'
    rw [made, went, made', went']
    refine .cons ⟨rfl, abeam.shadows, .same _, answered.shadows⟩ ?_
    exact goes answer between between' .unbegun answered (.inr rfl)
  | later later =>
    obtain ⟨made, went⟩ := look_later here answers next
    obtain ⟨made', went'⟩ := look_later there answers' next'
    -- What is asked faintly is answered at once, so this is not what the task waits for.
    have loud : ¬request.Faint := by
      intro faint
      obtain rfl := clear.resolve_left fun clear => clear faint
      obtain ⟨answer, now⟩ := answer_of_faint abeam.shadows.passes faint id task
      rw [answers] at now
      cases now
    rw [made, went, made', went']
    refine .single ⟨rfl, abeam.shadows, .same _, ?_⟩
    exact answered.suspend (.ask other after) loud later
  | crash =>
    obtain ⟨made, went⟩ := look_crash here answers next
    obtain ⟨made', went'⟩ := look_crash there answers' next'
    rw [made, went, made', went']
    exact .single ⟨rfl, abeam.shadows, .same _, answered.shadows.finish .none id⟩

theorem resolve {next next' : Option Policy → Plan Outcome}
    (unfound : Follows id operation known (next none) (next' none))
    (found : ∀ policy twin : Policy, policy.Idled twin →
      Follows id operation true (next (some policy)) (next' (some twin))) :
    Follows id operation known (.ask .resolve next) (.ask .resolve next') := by
  intro engine twin wait abeam clear
  obtain ⟨task, task', here, there, muted, rfl⟩ := abeam.found
  have operations : task'.operation = task.operation :=
    congrArg (fun task => task.operation) muted
  have answers (engine : Engine Outcome) (task : Task Outcome) :
      engine.answer id task .resolve wait =
        (.now (engine.registry.resolve? task.operation), (engine.resolve task.operation).2) := by
    rw [← resolve_fst]
    rfl
  obtain ⟨made, went⟩ := look_now here (answers engine task) next
  obtain ⟨made', went'⟩ := look_now there (answers twin task') next'
  rw [made, went, made', went', operations]
  have shadows := abeam.shadows.resolve task.operation
  obtain ⟨progress, course⟩ := abeam.course
  have stays := (course?_answer engine id task .resolve wait id).trans course
  have remembers (begun : known = true) := 
    (recalls_resolve engine task.operation).known task.operation (abeam.knows begun)
  have learns {policy : Policy} (found : engine.registry.resolve? task.operation = some policy) :=
    knows_of_resolved found
  have policies := abeam.shadows.registry task.operation
  rw [answers] at stays
  generalize engine.registry.resolve? task.operation = mine,
    twin.registry.resolve? task.operation = yours at policies learns ⊢
  cases policies with
  | none =>
    refine .cons ⟨rfl, abeam.shadows, .same _, shadows⟩ ?_
    exact unfound _ _ .unbegun ⟨shadows, ⟨progress, stays⟩, remembers⟩ (.inr rfl)
  | @some policy other idled =>
    refine .cons ⟨rfl, abeam.shadows, .resolved idled wait, shadows⟩ ?_
    exact found policy other idled _ _ .unbegun
      ⟨shadows, ⟨progress, stays⟩, fun _ => learns rfl⟩ (.inr rfl)

theorem handle {name : String} {fault : Fault}
    {next next' : Option (Except Failure String) → Plan Outcome}
    (settles : ∀ answer, (next answer).Uses Request.Settling)
    (settles' : ∀ answer, (next' answer).Uses Request.Settling)
    (after : ∀ answer, Plan.Shadows known (next answer) (next' answer))
    (goes : ∀ answer, Follows id operation known (next answer) (next' answer)) :
    Follows id operation known (.ask (.handle name fault) next)
      (.ask (.handle name (.retryExhausted 1 fault)) next') := by
  intro engine twin wait abeam clear
  obtain ⟨task, task', here, there, muted, -⟩ := abeam.found
  have handlers : twin.handlers = engine.handlers :=
    congrArg (fun engine => engine.handlers) abeam.shadows.muted
  have input : task'.input = task.input := congrArg (fun task => task.input) muted
  by_cases indifferent : wait.isHandler = false → ∀ respond,
      engine.handlers.text? name = some respond →
        respond task.input (.retryExhausted 1 fault) = respond task.input fault
  · have same : twin.answer id task' (.handle name (.retryExhausted 1 fault)) wait =
        twin.answer id task' (.handle name fault) wait := by
      apply handle_indifferent
      rw [handlers, input]
      exact indifferent
    have other : Request.handle name fault ≠ .resolve := nofun
    obtain ⟨replies, answered⟩ := abeam.answer muted other wait
    rcases answers : engine.answer id task (.handle name fault) wait with ⟨reply, between⟩
    rcases answers' : twin.answer id task' (.handle name fault) wait with ⟨reply', between'⟩
    rw [answers, answers'] at replies answered
    have answers' := same.trans answers'
    cases replies
    cases reply with
    | now answer =>
      obtain ⟨made, went⟩ := look_now here answers next
      obtain ⟨made', went'⟩ := look_now there answers' next'
      rw [made, went, made', went']
      refine .cons ⟨rfl, abeam.shadows, .handled name fault answer wait, answered.shadows⟩ ?_
      exact goes answer between between' .unbegun answered (.inr rfl)
    | later later =>
      obtain ⟨made, went⟩ := look_later here answers next
      obtain ⟨made', went'⟩ := look_later there answers' next'
      rw [made, went, made', went']
      refine .single ⟨rfl, abeam.shadows, .handling name fault wait, ?_⟩
      exact answered.suspend (.handle settles settles' after) (fun faint => faint) later
    | crash =>
      obtain ⟨made, went⟩ := look_crash here answers next
      obtain ⟨made', went'⟩ := look_crash there answers' next'
      rw [made, went, made', went']
      refine .single ⟨rfl, abeam.shadows, .crashed name fault wait, ?_⟩
      exact answered.shadows.finish .none id
  · obtain ⟨begins, respond, registered, tells⟩ : ∃ _ : wait.isHandler = false, ∃ respond,
        ∃ _ : engine.handlers.text? name = some respond,
          respond task.input (.retryExhausted 1 fault) ≠ respond task.input fault := by
      simpa only [Classical.not_forall] using indifferent
    exact .parted .nil abeam.shadows here begins registered tells settles settles'

/-- One task is asked faintly while the other one stays where it is. -/
theorem faint {plan : Plan Outcome} {request : Request} {next : request.Answer → Plan Outcome}
    (faint : request.Faint) (goes : ∀ answer, Follows id operation true plan (next answer)) :
    Follows id operation true plan (.ask request next) := by
  intro engine twin wait abeam clear
  obtain rfl := clear.resolve_left fun clear => clear faint
  obtain ⟨task, task', here, there, muted, rfl⟩ := abeam.found
  have operations : task'.operation = task.operation :=
    congrArg (fun task => task.operation) muted
  have known : engine.knows task'.operation = true := by
    rw [operations]
    exact abeam.knows rfl
  obtain ⟨answer, now, unheard, shadows⟩ := abeam.shadows.faint faint id known
  rcases answers : twin.answer id task' request .unbegun with ⟨reply, between⟩
  rw [answers] at now unheard shadows
  cases now
  obtain ⟨made, went⟩ := look_now there answers next
  rw [made, went]
  refine .faint ⟨⟨request, answer, faint, rfl⟩, unheard⟩ ?_
  exact goes answer engine between .unbegun ⟨shadows, abeam.course, abeam.knows⟩ (.inr rfl)

end Follows

theorem follows_of_shadows {known : Bool} {plan plan' : Plan Outcome}
    (plans : Plan.Shadows known plan plan') (id : TaskId) (operation : OperationId) :
    Follows id operation known plan plan' := by
  induction plans with
  | done ends => exact .done ends
  | ask other after inductionHypothesis => exact .ask other after inductionHypothesis
  | resolve _ _ unfound found => exact .resolve unfound found
  | handle settles settles' after inductionHypothesis =>
    exact .handle settles settles' after inductionHypothesis
  | faint faint _ inductionHypothesis => exact .faint faint inductionHypothesis

theorem Shadows.isRunning (shadows : engine.Shadows twin) (id : TaskId) :
    twin.isRunning id = engine.isRunning id := by
  rw [← isRunning_muted twin, ← isRunning_muted engine, shadows.muted]

theorem Shadows.poll (shadows : engine.Shadows twin) (id : TaskId) :
    Accords id (engine.turn id) (engine.poll id) (twin.turn id) (twin.poll id) := by
  rcases engine.running_cases id with ended | ⟨task, plan, wait, here, suspended⟩
  · obtain ⟨same, nothing⟩ := turn_of_ended ended
    obtain ⟨same', nothing'⟩ := turn_of_ended ((shadows.isRunning id).trans ended)
    rw [same, nothing, same', nothing']
    exact .level .nil shadows
  · obtain ⟨task', there, -, progress⟩ := shadows.found here
    rw [suspended] at progress
    rcases suspended' : task'.progress with ⟨plan', wait'⟩ | result | _
    · rw [suspended'] at progress
      obtain ⟨same, made⟩ := turn_of_suspended here suspended
      obtain ⟨same', made'⟩ := turn_of_suspended there suspended'
      rw [same, made, same', made']
      cases progress with
      | suspended plans clear =>
        refine follows_of_shadows plans id task.operation engine twin wait ?_ (.inl clear)
        exact ⟨shadows, ⟨_, course?_of_found here⟩, fun known => known⟩
    · rw [suspended'] at progress
      cases progress
    · rw [suspended'] at progress
      cases progress

end Engine

end Resilience
