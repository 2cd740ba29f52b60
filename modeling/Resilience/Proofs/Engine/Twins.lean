import Mathlib.Data.List.Forall2
import Resilience.Proofs.Engine.Cues
import Resilience.Proofs.Engine.Sampling
import Resilience.Proofs.Invocation.Resampling

/-!
Twins: two engines that are given the same cues, but for what the breaker of one operation takes
samples of, as policies or overrides have it. As long as the policies of that operation make no
retries, the engines differ in nothing but their registries, and in the lines of their logs that
tell of such overrides, whatever else is going on in them.
-/

namespace Resilience

def Cue.register (operation : OperationId) (policy : Policy) : Cue :=
  .change (.register operation policy) fun _ => nofun

def Cue.override (operation : OperationId) (field value : String) : Cue :=
  .change (.overrideField operation .breaker field value) fun _ => nofun

/-- Whether two cues differ at most in what the breaker of an operation is to take samples of. -/
inductive Cue.Twins (leeway : Leeway) : Cue → Cue → Prop
  | same (cue : Cue) : Twins leeway cue cue
  | register {policy twin : Policy} (resampled : policy.Resampled twin) :
      Twins leeway (.register leeway.operation policy) (.register leeway.operation twin)
  | override {field value other : String} {sampling twin : Sampling} (allowed : leeway.overriding)
      (names : Text.trim field = BreakerField.sampling.name)
      (reads : Sampling.ofText value = .ok sampling) (reads' : Sampling.ofText other = .ok twin) :
      Twins leeway (.override leeway.operation field value) (.override leeway.operation field other)

inductive Deed.Twins {α : Type} : Deed α → Deed α → Prop
  | same (deed : Deed α) : Twins deed deed
  | resolved {policy twin : Policy} (resampled : policy.Resampled twin) (wait : Wait) :
      Twins (.answered ⟨.resolve, some policy⟩ wait) (.answered ⟨.resolve, some twin⟩ wait)

/-- Whether two logs are the same but for the values of overrides that say what the breaker of an
operation takes samples of. -/
inductive LogTwins (leeway : Leeway) : List LogLine → List LogLine → Prop
  | nil : LogTwins leeway [] []
  | same (line : LogLine) {lines others : List LogLine} (rest : LogTwins leeway lines others) :
      LogTwins leeway (line :: lines) (line :: others)
  | override {field : String} (value other : String) {lines others : List LogLine}
      (allowed : leeway.overriding) (names : Text.trim field = BreakerField.sampling.name)
      (rest : LogTwins leeway lines others) :
      LogTwins leeway (Registry.overrideLines leeway.operation .breaker field value ++ lines)
        (Registry.overrideLines leeway.operation .breaker field other ++ others)

/-- Whether two engines are the same but for their registries and what their logs begin with, and
these differ at most in what the breaker of an operation takes samples of. -/
inductive Engine.Twins {α : Type} (leeway : Leeway) : Engine α → Engine α → Prop
  | under {engine : Engine α} {registry twin : Registry} {prior other : List LogLine}
      (registries : registry.Twins leeway twin) (lines : LogTwins leeway prior other) :
      Twins leeway (engine.under registry prior) (engine.under twin other)

/-- Whether two stages differ at most in what the breaker of an operation takes samples of. -/
structure Stage.Twins {α : Type} (leeway : Leeway) (stage twin : Stage α) : Prop where
  engine : stage.engine.Twins leeway twin.engine
  active : twin.active = stage.active

/-- Whether two moves of one task differ at most in what the breaker of an operation takes samples
of. -/
structure Move.Twins {α : Type} (leeway : Leeway) (move twin : Move α) : Prop where
  id : twin.id = move.id
  before : move.before.Twins leeway twin.before
  deed : move.deed.Twins twin.deed
  after : move.after.Twins leeway twin.after

/-- Whether what comes of cues differs at most in what the breaker of an operation takes samples
of. -/
structure Response.Twins {α : Type} (leeway : Leeway) (response twin : Response α) : Prop where
  moves : List.Forall₂ (Move.Twins leeway) response.1 twin.1
  stage : response.2.Twins leeway twin.2

variable {leeway : Leeway}

namespace LogTwins

variable {lines others : List LogLine}

theorem refl (lines : List LogLine) : LogTwins leeway lines lines := by
  induction lines with
  | nil => exact .nil
  | cons line _ inductionHypothesis => exact .same line inductionHypothesis

theorem append {more later : List LogLine} (alike : LogTwins leeway lines others)
    (follow : LogTwins leeway more later) : LogTwins leeway (lines ++ more) (others ++ later) := by
  induction alike with
  | nil => exact follow
  | same line _ inductionHypothesis => exact .same line inductionHypothesis
  | override value other allowed names _ inductionHypothesis =>
    rw [List.append_assoc, List.append_assoc]
    exact .override value other allowed names inductionHypothesis

theorem keeps {α : Type} (alike : LogTwins leeway lines others) (change : Change α) :
    LogTwins leeway (change.keeps lines) (change.keeps others) := by
  cases change with
  | collect => exact .nil
  | _ => exact alike

end LogTwins

theorem Response.Twins.single {α : Type} {id : TaskId} {before before' after after' : Engine α}
    {deed deed' : Deed α} (start : before.Twins leeway before') (deeds : deed.Twins deed')
    (ends : after.Twins leeway after') (active : Option (Active α)) :
    Response.Twins leeway ([⟨id, before, deed, after⟩], ⟨after, active⟩)
      ([⟨id, before', deed', after'⟩], ⟨after', active⟩) :=
  ⟨.cons ⟨rfl, start, deeds, ends⟩ .nil, ends, rfl⟩

namespace Engine

variable {α : Type} {engine twin : Engine α}

theorem Twins.goes (twins : engine.Twins leeway twin) (goesOn : Engine α → Engine α)
    (kept : ∀ engine registry prior,
      goesOn (engine.under registry prior) = (goesOn engine).under registry prior) :
    (goesOn engine).Twins leeway (goesOn twin) := by
  cases twins with | under registries lines
  rw [kept, kept]
  exact .under registries lines

theorem Twins.tasks (twins : engine.Twins leeway twin) : twin.tasks = engine.tasks := by
  cases twins
  rfl

theorem Twins.registry (twins : engine.Twins leeway twin) :
    engine.registry.Twins leeway twin.registry := by
  cases twins with | under registries lines
  exact registries

/-- Engines that are alike may be taken apart so that the first one has the registry of both. -/
theorem Twins.parts (twins : engine.Twins leeway twin) :
    ∃ (core : Engine α) (registry : Registry) (prior other : List LogLine),
      engine = core.under core.registry prior ∧ twin = core.under registry other ∧
        core.registry.Twins leeway registry ∧ LogTwins leeway prior other := by
  cases twins with | @under engine registry twin prior other registries lines
  exact ⟨engine.under registry [], twin, prior, other, rfl, rfl, registries, lines⟩

theorem Twins.write {registry registry' : Registry} {prior other lines others : List LogLine}
    (registries : registry.Twins leeway registry') (logs : LogTwins leeway prior other)
    (alike : LogTwins leeway lines others) (engine : Engine α) :
    ((engine.under registry prior).write lines).Twins leeway
      ((engine.under registry' other).write others) := by
  -- The lines that the log has already are moved to those that come before all others.
  have written (registry : Registry) (prior lines : List LogLine) :
      (engine.under registry prior).write lines =
        { engine with journal := { engine.journal with lines := [] } }.under registry
          (prior ++ engine.journal.lines ++ lines) :=
    congrArg (fun lines => { engine with registry, journal := { engine.journal with lines } })
      (List.append_nil _).symm
  rw [written, written]
  exact .under registries ((logs.append (.refl _)).append alike)

theorem Twins.changeRegistry {entered : OperationId} (twins : engine.Twins leeway twin)
    {result other : Except PolicyError (Policy × Registry)}
    (agree : Agree (Registry.Published leeway entered) result other)
    {accepted accepted' : List LogLine} (alike : LogTwins leeway accepted accepted')
    (refused : List LogLine) :
    (engine.changeRegistry accepted refused result).2.Twins leeway
      (twin.changeRegistry accepted' refused other).2 := by
  cases twins with | @under engine registry twin prior other registries lines
  cases agree with
  | error => exact .write registries lines (.refl refused) engine
  | ok published => exact .write published.registry lines alike engine

theorem Twins.register (twins : engine.Twins leeway twin) {entered : OperationId}
    {policy sampled : Policy} (alike : policy.Twins leeway.operation entered sampled) :
    (engine.register entered policy).2.Twins leeway (twin.register entered sampled).2 := by
  unfold Engine.register
  rw [twins.registry.registerLines_eq alike]
  exact twins.changeRegistry (twins.registry.register alike) (.refl _) _

theorem Twins.override (twins : engine.Twins leeway twin) (allowed : leeway.overriding)
    {field value other : String} {sampling sampled : Sampling}
    (names : Text.trim field = BreakerField.sampling.name)
    (reads : Sampling.ofText value = .ok sampling) (reads' : Sampling.ofText other = .ok sampled) :
    (engine.overrideField leeway.operation .breaker field value).2.Twins leeway
      (twin.overrideField leeway.operation .breaker field other).2 := by
  have trims (text : String) : Sampling.ofText (Text.trim text) = Sampling.ofText text := by
    unfold Sampling.ofText Text.trim
    rw [String.toList_ofList, Text.trimmed_trimmed]
  have lines := LogTwins.override value other allowed names (.nil : LogTwins leeway [] [])
  rw [List.append_nil, List.append_nil] at lines
  refine twins.changeRegistry (twins.registry.updateOverrides _ fun overrides others alike => ?_)
    lines []
  rw [names]
  exact alike.set (.sampling allowed ((trims value).trans reads) ((trims other).trans reads'))
    fun elsewhere => absurd rfl elsewhere

theorem Twins.apply (twins : engine.Twins leeway twin) (change : Change α) :
    (change.apply engine).Twins leeway (change.apply twin) := by
  have blind {change : Change α} (blind : change.Blind) :
      (change.apply engine).Twins leeway (change.apply twin) := by
    cases twins with | under registries lines
    rw [Change.apply_under _ _ _ blind, Change.apply_under _ _ _ blind]
    exact .under registries (lines.keeps change)
  cases change with
  | register entered policy => exact twins.register (.refl leeway.operation entered policy)
  | overrideField entered kind field value =>
    exact twins.changeRegistry (twins.registry.updateOverrides entered fun _ _ alike =>
      alike.set (.same _) fun _ => rfl) (.refl _) _
  | clearOverride entered kind field =>
    exact twins.changeRegistry (twins.registry.updateOverrides entered fun _ _ alike =>
      alike.clear kind _) (.refl _) _
  | reset entered =>
    obtain ⟨core, registry, prior, other, rfl, rfl, registries, lines⟩ := twins.parts
    show ((core.under core.registry prior).reset entered).2.Twins leeway
      ((core.under registry other).reset entered).2
    rw [core.reset_under core.registry prior entered rfl,
      core.reset_under registry other entered (registries.isSome_eq entered)]
    exact .under registries lines
  | _ => exact blind trivial

theorem Twins.abort (twins : engine.Twins leeway twin) (id : TaskId) :
    (engine.abort id).Twins leeway (twin.abort id) :=
  twins.goes (·.abort id) fun engine registry prior => engine.abort_under registry prior id

theorem Twins.finish (twins : engine.Twins leeway twin) (id : TaskId) (result : Option α) :
    (engine.finish id result).Twins leeway (twin.finish id result) :=
  twins.goes (·.finish id result) fun engine registry prior =>
    engine.finish_under registry prior id result

theorem resolve_under (engine : Engine α) (registry : Registry) (prior : List LogLine)
    (entered : OperationId)
    (registered : (registry.resolve? entered).isSome = (engine.registry.resolve? entered).isSome) :
    ((engine.under registry prior).resolve entered).2 =
      (engine.resolve entered).2.under registry prior := by
  unfold resolve
  simp only [show (engine.under registry prior).registry = registry from rfl]
  cases here : engine.registry.resolve? entered <;>
    cases there : registry.resolve? entered
  · rfl
  · simp [here, there] at registered
  · simp [here, there] at registered
  · rfl

theorem Twins.resolve (twins : engine.Twins leeway twin) (entered : OperationId) :
    (engine.resolve entered).2.Twins leeway (twin.resolve entered).2 := by
  obtain ⟨core, registry, prior, other, rfl, rfl, registries, lines⟩ := twins.parts
  rw [core.resolve_under core.registry prior entered rfl,
    core.resolve_under registry other entered (registries.isSome_eq entered)]
  exact .under registries lines

/-- What comes of a task's look at its policy is alike if it goes on the same from policies that are
alike. -/
theorem Twins.advance_resolve (twins : engine.Twins leeway twin) {id : TaskId}
    {task : Task α} (found : engine.tasks.get? id = some task) (next : Option Policy → Plan α)
    (wait : Wait)
    (goesOn : ∀ policy other, engine.registry.resolve? task.operation = some policy →
      policy.Twins leeway.operation task.operation other →
        next (some other) = next (some policy)) :
    Response.Twins leeway (engine.advance id (.ask .resolve next) wait)
      (twin.advance id (.ask .resolve next) wait) := by
  have answered (engine : Engine α) : engine.answer id task .resolve wait =
      (.now (engine.registry.resolve? task.operation), (engine.resolve task.operation).2) := by
    rw [← resolve_fst]
    rfl
  have looks := twins.resolve task.operation
  have entry := twins.registry.resolve? task.operation
  simp only [advance, twins.tasks, found, answered]
  generalize engine.registry.resolve? task.operation = known at entry goesOn ⊢
  generalize twin.registry.resolve? task.operation = other at entry ⊢
  cases entry with
  | none => exact .single twins (.same _) looks _
  | @some policy other alike =>
    rw [goesOn policy other rfl alike]
    exact .single twins (.resolved alike.resampled wait) looks _

theorem Twins.advance (twins : engine.Twins leeway twin) (id : TaskId) (plan : Plan α)
    (wait : Wait)
    (goesOn : ∀ task next policy other, engine.tasks.get? id = some task →
      plan = .ask .resolve next → engine.registry.resolve? task.operation = some policy →
        policy.Twins leeway.operation task.operation other →
          next (some other) = next (some policy)) :
    Response.Twins leeway (engine.advance id plan wait) (twin.advance id plan wait) := by
  cases plan with
  | done result => exact .single twins (.same _) (twins.finish id _) none
  | ask request next =>
    cases found : engine.tasks.get? id with
    | none =>
      simp only [Engine.advance, twins.tasks, found]
      exact ⟨.nil, twins, rfl⟩
    | some task =>
      by_cases resolves : request = .resolve
      · subst resolves
        exact twins.advance_resolve found next wait
          fun policy other => goesOn task next policy other found rfl
      · cases twins with | @under core registry twin prior other registries lines
        have alike (after : Engine α) :
            (after.under registry prior).Twins leeway (after.under twin other) :=
          .under registries lines
        simp only [tasks_under] at found
        simp only [Engine.advance, tasks_under, found, core.answer_under _ _ id task resolves wait]
        rcases core.answer id task request wait with ⟨reply, after⟩
        cases reply with
        | now answer => exact .single (alike core) (.same _) (alike after) _
        | later later =>
          exact .single (alike core) (.same _) (alike (after.suspend id (.ask request next) later))
            none
        | crash => exact .single (alike core) (.same _) ((alike after).finish id none) none

end Engine

theorem Engine.advance_moves {α : Type} {engine : Engine α} {id : TaskId} {task : Task α}
    (found : engine.tasks.get? id = some task) (plan : Plan α) (wait : Wait) :
    ∃ move, (engine.advance id plan wait).1 = [move] ∧ move.before = engine := by
  unfold advance
  cases plan with
  | done result => exact ⟨_, rfl, rfl⟩
  | ask request next =>
    simp only [found]
    rcases engine.answer id task request wait with ⟨reply, after⟩
    cases reply <;> exact ⟨_, rfl, rfl⟩

/-- Whether the policy that an operation has before a move, if it has one, makes no retries. -/
def Move.Unretried {α : Type} (operation : OperationId) (move : Move α) : Prop :=
  ∀ policy, move.before.registry.resolve? operation = some policy → policy.retry = none

variable {past moves : List (Move Outcome)} {stage twin : Stage Outcome}

/-- An invocation goes on the same from policies that are alike, unless they make retries. -/
theorem Course.goes_on {engine : Engine Outcome} {active : Active Outcome}
    (course : Course past ⟨engine, some active⟩) {task : Task Outcome}
    (found : engine.tasks.get? active.id = some task) {next : Option Policy → Plan Outcome}
    (asks : active.plan = .ask .resolve next) {operation : OperationId} {policy other : Policy}
    (alike : policy.Twins operation task.operation other)
    (unretried : task.operation = operation → policy.retry = none) :
    next (some other) = next (some policy) := by
  rcases active with ⟨id, plan, wait⟩
  by_cases here : task.operation = operation
  · cases course.attended.tasks id task.holding (Engine.holding?_of_found found) with
    | active running underway =>
      obtain ⟨service, leads⟩ := underway.leads
      cases asks
      exact Invocation.service_resampled leads (unretried here) alike.resampled
    | suspended apart => exact absurd rfl (apart _ rfl)
    | ended apart => exact absurd rfl (apart _ rfl)
  · rw [alike.elsewhere here]

theorem Engine.Twins.heed {engine twin : Engine Outcome} (twins : engine.Twins leeway twin)
    {cue other : Cue} (alike : cue.Twins leeway other) {response : Response Outcome}
    (heeded : engine.heed? cue = some response) :
    ∃ same, twin.heed? other = some same ∧ response.Twins leeway same := by
  cases alike with
  | register resampled =>
    cases heeded
    have registers := twins.register ⟨resampled, fun elsewhere => absurd rfl elsewhere⟩
    exact ⟨_, rfl, .nil, registers, rfl⟩
  | override allowed names reads reads' =>
    cases heeded
    exact ⟨_, rfl, .nil, twins.override allowed names reads reads', rfl⟩
  | same =>
    cases cue with
    | invoke entered input service linked cancelled =>
      cases heeded
      exact ⟨_, rfl, .nil, twins.apply (.spawn _), rfl⟩
    | change change =>
      cases heeded
      exact ⟨_, rfl, .nil, twins.apply change, rfl⟩
    | abort id =>
      cases heeded
      exact ⟨_, rfl, .single twins (.same _) (twins.abort id) none⟩
    | resume id =>
      unfold heed? at heeded ⊢
      rw [twins.tasks]
      simp only at heeded ⊢
      split at heeded
      next =>
        cases heeded
        exact ⟨_, rfl, .nil, twins, rfl⟩
      next => cases heeded
    | advance => cases heeded

theorem Stage.Twins.take (twins : stage.Twins leeway twin) (course : Course past stage)
    {cue other : Cue} (alike : cue.Twins leeway other) {response : Response Outcome}
    (taken : stage.take? cue = some response)
    (unretried : ∀ move ∈ response.1, move.Unretried leeway.operation) :
    ∃ same, twin.take? other = some same ∧ response.Twins leeway same := by
  rcases stage with ⟨engine, active⟩
  rcases twin with ⟨_, _⟩
  obtain ⟨twins, same⟩ := twins
  cases same
  cases active with
  | none => exact twins.heed alike taken
  | some active =>
    cases alike with
    | register | override => cases taken
    | same =>
      cases cue with
      | advance =>
        cases Option.some.inj taken
        refine ⟨_, rfl, twins.advance active.id active.plan active.wait ?_⟩
        intro task next policy other found asks resolved alike
        refine course.goes_on found asks alike fun here => ?_
        obtain ⟨move, single, before⟩ := Engine.advance_moves found active.plan active.wait
        have unretried := unretried move (single ▸ .head _) policy
        rw [before, ← here] at unretried
        exact unretried resolved
      | _ => cases taken

theorem Stage.Twins.play {cues others : List Cue}
    (alike : List.Forall₂ (Cue.Twins leeway) cues others) (twins : stage.Twins leeway twin)
    (course : Course past stage) {response : Response Outcome}
    (played : stage.play? cues = some response)
    (unretried : ∀ move ∈ response.1, move.Unretried leeway.operation) :
    ∃ same, twin.play? others = some same ∧ response.Twins leeway same := by
  induction alike generalizing stage twin past response with
  | nil =>
    cases played
    exact ⟨_, rfl, .nil, twins⟩
  | cons alike _ inductionHypothesis =>
    obtain ⟨begun, middle, moves, taken, remains, same⟩ := Stage.play?_cons_eq_some.mp played
    rw [same] at unretried
    obtain ⟨unretriedFirst, unretriedRest⟩ := List.forall_mem_append.mp unretried
    obtain ⟨first, took, reached⟩ := twins.take course alike taken unretriedFirst
    have further := (Stage.take?_onward taken).course course
    obtain ⟨rest, played, last⟩ :=
      inductionHypothesis reached.stage further remains unretriedRest
    refine ⟨(first.1 ++ rest.1, rest.2), ?_, ?_, last.stage⟩
    · exact Stage.play?_cons_eq_some.mpr ⟨_, _, _, took, played, rfl⟩
    · rw [same]
      exact List.rel_append reached.moves last.moves

namespace Engine

/-- An engine in which nothing has happened yet. -/
def idle {α : Type} (engine : Engine α) : Engine α := { engine with tasks := {}, operations := {} }

/-- Whatever an engine is told to do, it does the same with any sampling of an operation whose
policies make no retries, and everything becomes the same but its registry and the lines of its log
that tell of overrides of the sampling. -/
theorem sampling_is_immaterial {engine twin : Engine Outcome} {leeway : Leeway}
    (twins : engine.Twins leeway twin) {cues others : List Cue}
    (alike : List.Forall₂ (Cue.Twins leeway) cues others) {response : Response Outcome}
    (played : Stage.play? ⟨engine.idle, none⟩ cues = some response)
    (unretried : ∀ move ∈ response.1, move.Unretried leeway.operation) :
    ∃ same, Stage.play? ⟨twin.idle, none⟩ others = some same ∧
      response.Twins leeway same := by
  have stages : Stage.Twins leeway ⟨engine.idle, none⟩ ⟨twin.idle, none⟩ :=
    ⟨twins.goes idle fun _ _ _ => rfl, rfl⟩
  have course : Course [] ⟨engine.idle, none⟩ := .start engine
  exact stages.play alike course played unretried

def guarding (sampling : Sampling) : Engine Outcome :=
  knowing "pay" { breaker := some { sampling } } {} {}

theorem guarding_twins (sampling other : Sampling) (overriding : Prop) :
    (guarding sampling).Twins ⟨"pay", overriding⟩ (guarding other) := by
  have policies (entered : OperationId) (same : "pay" = entered) : Policy.Twins "pay" entered
      { breaker := some { sampling } } { breaker := some { sampling := other } } :=
    ⟨⟨other, rfl⟩, fun elsewhere => absurd same.symm elsewhere⟩
  have registries :
      (guarding sampling).registry.Twins ⟨"pay", overriding⟩ (guarding other).registry := by
    intro entered
    simp only [guarding, knowing, Table.get?_set]
    split
    next same => exact .some ⟨.refl _ _ _, policies entered same, policies entered same⟩
    next => exact .none
  exact @Twins.under _ _ (guarding sampling) _ _ [] [] registries .nil

/-- A call that fails, after which the policy is declared anew and its sampling overridden. -/
def failure (sampling : Sampling) : List Cue :=
  [.invoke "pay" "" failing true false, .change (.schedule [] [] (.start 0) 1) fun _ => nofun,
    .resume 0] ++ List.replicate 10 .advance ++
    [.register "pay" { breaker := some { sampling } },
      .override "pay" " sampling" sampling.label]

/-- A call fails with the same moves behind a breaker that samples attempts as behind one that
samples invocations. -/
theorem sampling_is_immaterial_failing :
    ∃ response same, Stage.play? ⟨(guarding .invocation).idle, none⟩ (failure .invocation) =
        some response ∧
      Stage.play? ⟨(guarding .attempt).idle, none⟩ (failure .attempt) = some same ∧
        response.Twins ⟨"pay", True⟩ same ∧
          response.1.filterMap Move.result? = [.error (.inner ⟨"Other", "no"⟩)] := by
  have alike : List.Forall₂ (Cue.Twins ⟨"pay", True⟩) (failure .invocation) (failure .attempt) :=
    List.rel_append (List.forall₂_same.mpr fun cue _ => .same cue)
      (.cons (.register ⟨.attempt, rfl⟩)
        (.cons (.override trivial (by decide) (by rfl) (by rfl)) .nil))
  obtain ⟨response, played, unretried, results⟩ : ∃ response,
      Stage.play? ⟨(guarding .invocation).idle, none⟩ (failure .invocation) = some response ∧
        (response.1.all fun move => (move.before.registry.resolve? "pay").all
          fun policy => policy.retry.isNone) ∧
          response.1.filterMap Move.result? = [.error (.inner ⟨"Other", "no"⟩)] :=
    ⟨_, rfl, rfl, rfl⟩
  have unretried : ∀ move ∈ response.1, move.Unretried "pay" := by
    intro move member policy found
    have none := List.all_eq_true.mp unretried move member
    rw [found] at none
    exact Option.isNone_iff_eq_none.mp none
  obtain ⟨same, follows, twins⟩ :=
    sampling_is_immaterial (guarding_twins .invocation .attempt True) alike played unretried
  exact ⟨response, same, played, follows, twins, results⟩

end Engine

end Resilience
