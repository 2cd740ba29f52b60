import Resilience.Proofs.Engine.Discretion
import Resilience.Proofs.Engine.Shift
import Resilience.Proofs.Engine.Span

/-!
Looks at an attempt: how far its body goes at a moment, and what its deadline makes of that. The
body comes first, so the deadline ends only an attempt whose body cannot go on.
-/

namespace Resilience

variable {α : Type}

/-- Whether a task stays the same while its body does some actions, but for the permits that it
takes and for its token, which fires only if one of them fires it. -/
structure Task.Does (done : List Action) (before after : Task α) : Prop where
  service : after.service = before.service
  calls : after.calls = before.calls
  progress : after.progress = before.progress
  gate : after.gate ≤ before.gate
  cancelled : after.cancelled = true → before.cancelled = true ∨ .cancelCaller ∈ done

theorem Task.Does.refl (task : Task α) (done : List Action) : task.Does done task :=
  ⟨rfl, rfl, rfl, Nat.le_refl _, .inl⟩

theorem Task.Does.mono {done more : List Action} {before after : Task α}
    (does : before.Does done after) (within : ∀ action ∈ done, action ∈ more) :
    before.Does more after :=
  { does with cancelled := fun fired => (does.cancelled fired).imp_right (within _) }

namespace Engine

/-- Whether the body of a task has done some actions in one go. Each wait among them takes up one
unit of the stint. -/
structure Acted (id : TaskId) (done : List Action) (engine after : Engine α)
    (task later : Task α) : Prop where
  discreet : Discreet id engine after
  found : after.tasks.get? id = some later
  does : task.Does done later
  left : engine.stint.left ≤ after.stint.left + done.countP Action.waits

variable {engine middle after : Engine α} {id : TaskId} {task later final : Task α}
  {actions done more : List Action} {timer : Option Timer} {since : Nat} {opens : Nat → Prop}

theorem Acted.nothing (found : engine.tasks.get? id = some task) :
    Acted id [] engine engine task task where
  discreet := .refl engine id
  found := found
  does := .refl task []
  left := Nat.le_refl _

theorem Acted.trans (first : Acted id done engine middle task later)
    (second : Acted id more middle after later final) :
    Acted id (done ++ more) engine after task final where
  discreet := first.discreet.trans second.discreet
  found := second.found
  does := by
    obtain ⟨service, calls, progress, gate, cancelled⟩ := first.does
    obtain ⟨service', calls', progress', gate', cancelled'⟩ := second.does
    refine ⟨service'.trans service, calls'.trans calls, progress'.trans progress, gate'.trans gate,
      fun fired => ?_⟩
    rcases cancelled' fired with earlier | fires
    · exact (cancelled earlier).imp_right (List.mem_append_left _)
    · exact .inr (List.mem_append_right _ fires)
  left := by
    have first := first.left
    have second := second.left
    rw [List.countP_append]
    omega

theorem left_wake (engine : Engine α) (id : TaskId) :
    (engine.wake id).stint.left = engine.stint.left := by
  unfold wake
  split
  · rfl
  · split <;> rfl

theorem get?_modified (found : engine.tasks.get? id = some task) (change : Task α → Task α) :
    (engine.modifyTask id change).tasks.get? id = some (change task) := by
  rw [get?_modifyTask, if_pos rfl, found]
  rfl

theorem acted_cancelCaller (found : engine.tasks.get? id = some task) :
    ∃ later, Acted id [.cancelCaller] engine (engine.fireToken id) task later := by
  have discreet := (Discreet.refl engine id).fireToken
  have unfolded : engine.fireToken id =
      if task.linked then (engine.modifyTask id Task.cancel).wake id else engine := by
    unfold fireToken
    rw [found]
  rw [unfolded] at discreet ⊢
  split at discreet
  next linked =>
    rw [if_pos linked]
    refine ⟨task.cancel, discreet, ?_, ⟨rfl, rfl, rfl, Nat.le_refl _, fun _ => .inr (.head _)⟩, ?_⟩
    · rw [tasks_wake]
      exact get?_modified found Task.cancel
    · rw [left_wake]
      exact Nat.le_add_right _ _
  next unlinked =>
    rw [if_neg unlinked]
    exact ⟨task, .refl engine id, found, .refl task _, Nat.le_add_right _ _⟩

theorem acted_advanceClock (found : engine.tasks.get? id = some task) (millis : Nat) :
    Acted id [.advanceClock millis] engine
      { engine with manualClock := engine.manualClock.advance (.ofMillis millis) } task task where
  discreet := (Discreet.refl engine id).tables rfl rfl rfl rfl rfl
  found := found
  does := .refl task _
  left := Nat.le_add_right _ _

theorem acted_wait (found : engine.tasks.get? id = some later) (action : Action)
    (waits : action.waits = true) (discreet : Discreet id engine after)
    (tasks : after.tasks = engine.tasks) (left : after.stint.left = engine.stint.left) :
    Acted id [action] engine after.endWait later later where
  discreet := discreet.endWait
  found := (congrArg (Table.get? · id) tasks).trans found
  does := .refl later _
  left := by
    show _ ≤ after.stint.left - 1 + _
    rw [left, List.countP_singleton, if_pos waits]
    omega

theorem acted_awaitGate (found : engine.tasks.get? id = some task) :
    Acted id [.awaitGate] engine
      (engine.modifyTask id fun task => { task with gate := task.gate - 1 }).endWait task
        { task with gate := task.gate - 1 } := by
  have passed := get?_modified found fun task => { task with gate := task.gate - 1 }
  have taken : Acted id [] engine (engine.modifyTask id fun task =>
      { task with gate := task.gate - 1 }) task { task with gate := task.gate - 1 } :=
    ⟨(Discreet.refl engine id).modifyTask _, passed, ⟨rfl, rfl, rfl, Nat.sub_le _ _, .inl⟩,
      Nat.le_add_right _ _⟩
  exact taken.trans (acted_wait passed .awaitGate rfl (.refl _ id) rfl rfl)

/-- How far the actions of a body go at a look: to their end, into a crash, or to one for which it
has to wait, because it is stuck there or because the stint of its task is used up. -/
inductive Acting (opens : Nat → Prop) (id : TaskId) (engine : Engine α) (task : Task α)
    (since : Nat) (actions : List Action) : Halt × Engine α → Prop
  | finished {after : Engine α} {later : Task α} (acted : Acted id actions engine after task later)
      (span : Action.Span opens actions since engine.now) :
      Acting opens id engine task since actions (.finished, after)
  | crashed {after : Engine α} {later : Task α} {done tail : List Action}
      (acted : Acted id done engine after task later) (split : actions = done ++ .crash :: tail)
      (span : Action.Span opens done since engine.now) :
      Acting opens id engine task since actions (.crashed, after)
  | waiting {after : Engine α} {later : Task α} {done rest : List Action} {timer : Option Timer}
      {moment : Nat} (acted : Acted id done engine after task later)
      (split : actions = done ++ rest) (span : Action.Span opens done since moment)
      (waiting : Action.Waiting engine.now moment rest timer)
      (stays : Action.Stuck engine.now later.gate rest timer ∨
        engine.stint.left < actions.countP Action.waits ∧ id ∈ after.aside) :
      Acting opens id engine task since actions (.waiting rest timer, after)

theorem Acting.cons {action : Action} {halted : Halt × Engine α}
    (acted : Acted id [action] engine middle task later)
    (span : Action.Span opens [action] since engine.now)
    (acting : Acting opens id middle later engine.now actions halted) :
    Acting opens id engine task since (action :: actions) halted := by
  have now : middle.now = engine.now := acted.discreet.now
  have through {moment : Nat} {done : List Action}
      (rest : Action.Span opens done engine.now moment) :
      Action.Span opens (action :: done) since moment :=
    Action.span_append.mpr ⟨engine.now, span, rest⟩
  cases acting with
  | finished later rest =>
    rw [now] at rest
    exact .finished (acted.trans later) (through rest)
  | crashed later split rest =>
    rw [now] at rest
    exact .crashed (acted.trans later) (congrArg (action :: ·) split) (through rest)
  | waiting later split rest waiting stays =>
    rw [now] at waiting stays
    refine .waiting (acted.trans later) (congrArg (action :: ·) split) (through rest) waiting
      (stays.imp_right fun ⟨spent, rests⟩ => ⟨?_, rests⟩)
    have left := acted.left
    simp only [List.countP_cons, List.countP_nil] at left ⊢
    omega

/-- A body whose stint is used up stays where it is. -/
theorem Acting.spent {action : Action} (found : engine.tasks.get? id = some task)
    (spent : engine.isSpent = true) (waits : action.waits = true)
    (waiting : Action.Waiting engine.now since (action :: actions) timer) :
    Acting opens id engine task since (action :: actions)
      (.waiting (action :: actions) timer, engine.setAside id) := by
  have none : engine.stint.left = 0 := of_decide_eq_true spent
  have acted : Acted id [] engine (engine.setAside id) task task :=
    ⟨(Discreet.refl engine id).setAside, found, .refl task [], Nat.le_refl _⟩
  refine .waiting acted rfl rfl waiting (.inr ⟨?_, .head _⟩)
  rw [none, List.countP_cons, if_pos waits]
  exact Nat.succ_pos _

theorem keepTimer_of_waiting {millis : Nat}
    (waiting : Action.Waiting engine.now since (.sleep millis :: actions) timer) :
    (engine.keepTimer (.ofMillis millis) timer).1.due = Timer.dueAfter since (.ofMillis millis) ∧
      ((engine.keepTimer (.ofMillis millis) timer).1.due ≤ engine.now →
        Timer.ends since (.ofMillis millis) = engine.now) := by
  cases timer with
  | none =>
    cases show since = engine.now from waiting
    exact ⟨rfl, Nat.max_eq_left⟩
  | some timer =>
    obtain ⟨due, since, early⟩ := waiting
    refine ⟨due, fun late => ?_⟩
    have now : timer.due = engine.now := Nat.le_antisymm late early
    unfold Timer.ends
    omega

theorem keepTimer_keeps (engine : Engine α) (duration : Duration) (timer : Option Timer) :
    (engine.keepTimer duration timer).2.tasks = engine.tasks ∧
      (engine.keepTimer duration timer).2.aside = engine.aside ∧
        (engine.keepTimer duration timer).2.stint.left = engine.stint.left := by
  cases timer <;> exact ⟨rfl, rfl, rfl⟩

/-- A body sleeps until its timer is due, and goes on then if its stint is not used up. -/
theorem Acting.sleep {millis : Nat} (found : engine.tasks.get? id = some task)
    (waiting : Action.Waiting engine.now since (.sleep millis :: actions) timer)
    (further : ∀ middle later, Acted id [.sleep millis] engine middle task later →
      Acting opens id middle later engine.now actions (middle.act id actions none)) :
    Acting opens id engine task since (.sleep millis :: actions)
      (engine.act id (.sleep millis :: actions) timer) := by
  unfold act
  split
  next spent => exact .spent found spent rfl waiting
  next =>
    obtain ⟨due, ended⟩ := keepTimer_of_waiting waiting
    obtain ⟨tasks, -, left⟩ := engine.keepTimer_keeps (.ofMillis millis) timer
    have timed := (Discreet.refl engine id).keepTimer (.ofMillis millis) timer
    generalize engine.keepTimer (.ofMillis millis) timer = kept at due ended tasks left timed
    rcases kept with ⟨timer, middle⟩
    simp only at due ended tasks left timed ⊢
    rw [timed.now]
    split
    next late =>
      have acted := acted_wait found (.sleep millis) rfl timed tasks left
      exact .cons acted (ended late).symm (further _ _ acted)
    next early =>
      have since := waiting.le
      have acted : Acted id [] engine middle task task :=
        ⟨timed, (congrArg (Table.get? · id) tasks).trans found, .refl task _,
          Nat.le_of_eq left.symm⟩
      exact .waiting acted rfl rfl ⟨due, since, by omega⟩ (.inl (Nat.not_le.mp early))

/-- A body waits until its task has a permit, and goes on then if its stint is not used up. -/
theorem Acting.awaitGate (found : engine.tasks.get? id = some task)
    (permits : 0 < task.gate → opens engine.now)
    (waiting : Action.Waiting engine.now since (.awaitGate :: actions) timer)
    (further : ∀ middle later, Acted id [.awaitGate] engine middle task later →
      Acting opens id middle later engine.now actions (middle.act id actions none)) :
    Acting opens id engine task since (.awaitGate :: actions)
      (engine.act id (.awaitGate :: actions) timer) := by
  unfold act
  cases timer with
  | some timer => exact waiting.elim
  | none =>
    split
    next spent => exact .spent found spent rfl waiting
    next =>
      rw [found]
      simp only
      split
      next permitted =>
        have acted := acted_awaitGate found
        exact .cons acted ⟨engine.now, waiting, permits permitted, rfl⟩ (further _ _ acted)
      next shut =>
        exact .waiting (.nothing found) rfl rfl waiting (.inl (Nat.eq_zero_of_not_pos shut))

theorem acting (found : engine.tasks.get? id = some task)
    (permits : 0 < task.gate → opens engine.now)
    (waiting : Action.Waiting engine.now since actions timer) :
    Acting opens id engine task since actions (engine.act id actions timer) := by
  induction actions generalizing engine task timer since with
  | nil =>
    cases timer with
    | none => exact .finished (.nothing found) waiting.symm
    | some timer => exact waiting.elim
  | cons action rest inductionHypothesis =>
    -- What follows an action that is done is met for the first time at this moment.
    have further (middle : Engine α) (later : Task α)
        (acted : Acted id [action] engine middle task later) :
        Acting opens id middle later engine.now rest (middle.act id rest none) := by
      have now : middle.now = engine.now := acted.discreet.now
      refine inductionHypothesis acted.found (fun permitted => ?_)
        (now ▸ Action.waiting_now rest middle.now)
      exact now ▸ permits (Nat.lt_of_lt_of_le permitted acted.does.gate)
    cases action with
    | sleep millis => exact .sleep found waiting further
    | awaitGate => exact .awaitGate found permits waiting further
    | cancelCaller =>
      obtain ⟨rfl, now⟩ := waiting.at_once rfl
      obtain ⟨later, acted⟩ := acted_cancelCaller found
      exact .cons acted now.symm (further _ later acted)
    | advanceClock millis =>
      obtain ⟨rfl, now⟩ := waiting.at_once rfl
      have acted := acted_advanceClock found millis
      exact .cons acted now.symm (further _ task acted)
    | crash =>
      obtain ⟨rfl, now⟩ := waiting.at_once rfl
      exact .crashed (.nothing found) rfl now.symm

/-- Whether an attempt that started at a moment has come so far by now: what is left of its body,
with its timer, and its deadline once that is set. -/
structure Going (opens : Nat → Prop) (body : Behaviour Fault) (limit : Duration)
    (started now : Nat) (rest : Behaviour Fault) (timer deadline : Option Timer) : Prop where
  result : rest.result = body.result
  course : ∃ done since, body.actions = done ++ rest.actions ∧
    Action.Span opens done started since ∧ Action.Waiting now since rest.actions timer
  timed : deadline = none ∧ started = now ∨
    ∃ set, deadline = some set ∧ set.due = Timer.dueAfter started limit

theorem Going.start (body : Behaviour Fault) (limit : Duration) (now : Nat) :
    Going opens body limit now now body none none :=
  ⟨rfl, ⟨[], now, rfl, rfl, Action.waiting_now body.actions now⟩, .inl ⟨rfl, rfl⟩⟩

theorem Going.mono {body rest : Behaviour Fault} {limit : Duration} {started now : Nat}
    {timer deadline : Option Timer} {wider : Nat → Prop}
    (going : Going opens body limit started now rest timer deadline)
    (within : ∀ now, opens now → wider now) :
    Going wider body limit started now rest timer deadline := by
  obtain ⟨done, since, path, span, waiting⟩ := going.course
  exact ⟨going.result, ⟨done, since, path, span.mono within, waiting⟩, going.timed⟩

/-- What a look at an attempt comes to. If its body has come to its end, so has the attempt,
whatever its deadline; if not, it goes on or, at its deadline, has run out of time. -/
inductive Looked (opens : Nat → Prop) (id : TaskId) (engine : Engine α) (task : Task α)
    (body : Behaviour Fault) (limit : Duration) (started : Nat) :
    Reply Outcome × Engine α → Prop
  | inTime {after : Engine α} {later : Task α} (discreet : Discreet id engine after)
      (found : after.tasks.get? id = some later) (does : task.Does body.actions later)
      (span : Action.Span opens body.actions started engine.now) :
      Looked opens id engine task body limit started (.now body.result, after)
  | late {after : Engine α} {later : Task α} {done rest : List Action} {moment : Nat}
      (discreet : Discreet id engine after) (found : after.tasks.get? id = some later.expire)
      (does : task.Does body.actions later) (due : Timer.dueAfter started limit ≤ engine.now)
      (split : body.actions = done ++ rest) (span : Action.Span opens done started moment)
      (stays : Action.Blocked engine.now later.gate moment rest ∨
        engine.stint.left < body.actions.countP Action.waits) :
      Looked opens id engine task body limit started
        (.now (.error (.timeout (.ofMillis (engine.now - started)) limit)), after)
  | crashed {after : Engine α} {done tail : List Action} (discreet : Discreet id engine after)
      (split : body.actions = done ++ .crash :: tail)
      (span : Action.Span opens done started engine.now) :
      Looked opens id engine task body limit started (.crash, after)
  | pending {after : Engine α} {later : Task α} {rest : Behaviour Fault} {timer : Option Timer}
      {deadline : Timer} (discreet : Discreet id engine after)
      (found : after.tasks.get? id = some later) (does : task.Does body.actions later)
      (going : Going opens body limit started engine.now rest timer (some deadline))
      (early : engine.now < deadline.due)
      (stays : Action.Stuck engine.now later.gate rest.actions timer ∨ id ∈ after.aside) :
      Looked opens id engine task body limit started
        (.later (.attempt rest timer started (some deadline)), after)

/-- The deadline of an attempt is due when its time is over, whether it is set only now or not. -/
theorem Going.keepTimer {body rest : Behaviour Fault} {limit : Duration} {started : Nat}
    {deadline : Option Timer}
    (going : Going opens body limit started engine.now rest timer deadline)
    (same : after.now = engine.now) :
    (after.keepTimer limit deadline).1.due = Timer.dueAfter started limit := by
  rcases going.timed with ⟨rfl, now⟩ | ⟨set, rfl, due⟩
  · rw [now, ← same]
    rfl
  · exact due

theorem Looked.halted {body left : Behaviour Fault} {limit : Duration} {started moment : Nat}
    {set : Timer} (discreet : Discreet id engine after) (found : after.tasks.get? id = some later)
    (does : task.Does body.actions later) (result : left.result = body.result)
    (path : body.actions = done ++ left.actions) (span : Action.Span opens done started moment)
    (waiting : Action.Waiting engine.now moment left.actions timer)
    (due : set.due = Timer.dueAfter started limit)
    (stays : Action.Stuck engine.now later.gate left.actions timer ∨
      engine.stint.left < body.actions.countP Action.waits ∧ id ∈ after.aside) :
    Looked opens id engine task body limit started
      (if set.due ≤ after.now then
        (.now (.error (.timeout (.ofMillis (after.now - started)) limit)),
          after.endWait.modifyTask id Task.expire)
      else (.later (.attempt left timer started (some set)), after)) := by
  rw [discreet.now]
  split
  next reached =>
    exact .late (discreet.endWait.modifyTask _) (get?_modified found _) does (due ▸ reached) path
      span (stays.imp (fun stuck => stuck.blocked waiting) And.left)
  next early =>
    have going : Going opens body limit started engine.now left timer (some set) :=
      ⟨result, ⟨done, moment, path, span, waiting⟩, .inr ⟨set, rfl, due⟩⟩
    exact .pending discreet found does going (Nat.not_le.mp early) (stays.imp_right And.right)

theorem proceed_looked {body rest : Behaviour Fault} {limit : Duration} {started : Nat}
    {deadline : Option Timer} (found : engine.tasks.get? id = some task)
    (permits : 0 < task.gate → opens engine.now)
    (going : Going opens body limit started engine.now rest timer deadline) :
    Looked opens id engine task body limit started
      (engine.proceed id (some limit) rest timer started deadline) := by
  obtain ⟨earlier, since, path, before, waiting⟩ := going.course
  have within : ∀ action ∈ rest.actions, action ∈ body.actions := fun action member =>
    path ▸ List.mem_append_right earlier member
  have through {done : List Action} {moment : Nat} (span : Action.Span opens done since moment) :
      Action.Span opens (earlier ++ done) started moment :=
    Action.span_append.mpr ⟨since, before, span⟩
  have acting := acting found permits waiting
  unfold proceed
  generalize engine.act id rest.actions timer = acts at acting ⊢
  cases acting with
  | finished acted span =>
    simp only
    rw [going.result]
    exact .inTime acted.discreet acted.found (acted.does.mono within) (path ▸ through span)
  | @crashed after later done tail acted split span =>
    have path : body.actions = (earlier ++ done) ++ .crash :: tail := by
      rw [path, split, List.append_assoc]
    exact .crashed acted.discreet path (through span)
  | @waiting after later done left timer moment acted split span waiting stays =>
    have does : task.Does body.actions later := acted.does.mono fun action member =>
      within action (split ▸ List.mem_append_left left member)
    have counted : rest.actions.countP Action.waits ≤ body.actions.countP Action.waits := by
      rw [path, List.countP_append]
      exact Nat.le_add_left _ _
    have due := going.keepTimer acted.discreet.now
    have discreet := acted.discreet.keepTimer limit deadline
    obtain ⟨tasks, aside, -⟩ := after.keepTimer_keeps limit deadline
    simp only
    generalize after.keepTimer limit deadline = timed at due discreet tasks aside ⊢
    rcases timed with ⟨set, final⟩
    have found : final.tasks.get? id = some later :=
      (congrArg (Table.get? · id) tasks).trans acted.found
    have path : body.actions = (earlier ++ done) ++ left := by
      rw [path, split, List.append_assoc]
    exact .halted discreet found does going.result path (through span) waiting due
      (stays.imp_right fun ⟨spent, rests⟩ => ⟨Nat.lt_of_lt_of_le spent counted, aside ▸ rests⟩)

end Engine

end Resilience
