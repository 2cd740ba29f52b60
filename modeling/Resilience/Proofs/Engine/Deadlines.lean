import Resilience.Proofs.Engine.Cancellation
import Resilience.Proofs.Engine.Pace
import Resilience.Proofs.Engine.Verdict

/-!
Deadlines: what becomes of each attempt with a limit in an engine that keeps its schedule. An
attempt is on its way for no longer than its limit, counted from the moment at which it began, and
whoever waits for it can go on as soon as its body can or its time is over.
-/

namespace Resilience

open Move

variable {α : Type}

namespace Move

/-- Whether a move begins an attempt of a task that made some calls before. -/
structure Begins (start : Move α) (number : Nat) (earlier : List Call) : Prop where
  call : start.call? = some number
  calls : ∃ task, start.before.tasks.get? start.id = some task ∧ task.calls = earlier

def Admits (mine : List (Move α)) (number moment : Nat) : Prop :=
  ∃ look ∈ mine, (∃ limit heeds, look.deed.request? = some (.attempt number limit heeds)) ∧
    look.before.now = moment ∧ ∃ task, look.before.tasks.get? look.id = some task ∧ 0 < task.gate

theorem Admits.mono {mine more : List (Move α)} {number moment : Nat}
    (admits : Admits mine number moment) (within : ∀ move ∈ mine, move ∈ more) :
    Admits more number moment := by
  obtain ⟨look, member, permitted⟩ := admits
  exact ⟨look, within look member, permitted⟩

/-- Whether a move ends an attempt with a limit, with an outcome or with a crash. -/
inductive Concludes (move : Move α) (number : Nat) (limit : Duration) : Prop
  | answered {heeds : Bool} {outcome : Outcome} {wait : Wait}
      (deed : move.deed = .answered ⟨.attempt number (some limit) heeds, outcome⟩ wait) :
      Concludes move number limit
  | crashed {heeds : Bool} {wait : Wait}
      (deed : move.deed = .crashed (.attempt number (some limit) heeds) wait) :
      Concludes move number limit

/-- How a move may end an attempt that one of these moves began: its caller gave up, there is a
verdict, or the body has crashed before the time was over. -/
inductive Settles (service : Service) (mine : List (Move α)) (move : Move α) (number : Nat)
    (limit : Duration) : Prop
  | givenUp {task : Task α} {heeds : Bool} {wait : Wait}
      (deed : move.deed =
        .answered ⟨.attempt number (some limit) heeds, .error .cancelled⟩ wait)
      (found : move.before.tasks.get? move.id = some task) (cancelled : task.cancelled = true) :
      Settles service mine move number limit
  | judged {start : Move α} {earlier : List Call} {task later : Task α} {heeds : Bool}
      {outcome : Outcome} {wait : Wait} (begun : start ∈ mine)
      (begins : start.Begins number earlier)
      (deed : move.deed = .answered ⟨.attempt number (some limit) heeds, outcome⟩ wait)
      (discreet : Engine.Discreet move.id move.before move.after)
      (found : move.before.tasks.get? move.id = some task)
      (left : move.after.tasks.get? move.id = some later)
      (token : later.cancelled = true →
        task.cancelled = true ∨ .cancelCaller ∈ (service.respond number).actions)
      (verdict : Verdict (Admits mine number) service number limit start.before.now earlier
        move.before.now later outcome) :
      Settles service mine move number limit
  | crashed {start : Move α} {earlier : List Call} {heeds : Bool} {wait : Wait}
      {done tail : List Action} (begun : start ∈ mine) (begins : start.Begins number earlier)
      (deed : move.deed = .crashed (.attempt number (some limit) heeds) wait)
      (split : (service.respond number).actions = done ++ .crash :: tail)
      (span : Action.Span (Admits mine number) done start.before.now move.before.now)
      (early : move.before.now ≤ Timer.ends start.before.now limit) :
      Settles service mine move number limit

theorem Settles.mono {service : Service} {mine more : List (Move α)} {move : Move α}
    {number : Nat} {limit : Duration} (settles : move.Settles service mine number limit)
    (within : ∀ start ∈ mine, start ∈ more) : move.Settles service more number limit := by
  have opens (moment : Nat) (admits : Admits mine number moment) : Admits more number moment :=
    admits.mono within
  cases settles with
  | givenUp deed found cancelled => exact .givenUp deed found cancelled
  | judged begun begins deed discreet found left token verdict =>
    exact .judged (within _ begun) begins deed discreet found left token (verdict.mono opens)
  | crashed begun begins deed split span early =>
    exact .crashed (within _ begun) begins deed split (span.mono opens) early

end Move

/-- Whether an attempt with a limit is on its way that one of these moves began, by a task that made
these calls. -/
structure Midway (service : Service) (mine : List (Move α)) (number : Nat) (limit : Duration)
    (now : Nat) (calls : List Call) (rest : Behaviour Fault) (timer : Option Timer) (started : Nat)
    (deadline : Option Timer) : Prop where
  going : Engine.Going (Admits mine number) (service.respond number) limit started now rest timer
    deadline
  early : now ≤ Timer.ends started limit
  begun : ∃ start ∈ mine, ∃ earlier, start.Begins number earlier ∧ start.before.now = started ∧
    calls = earlier ++ [⟨number, false⟩]

namespace Engine

variable {engine before after : Engine α} {id : TaskId} {task : Task α} {service : Service}
  {mine : List (Move α)} {number started : Nat} {limit : Duration} {heeds : Bool} {wait : Wait}
  {rest : Behaviour Fault} {timer deadline : Option Timer}

/-- Whether a task waits in an attempt on its way whose deadline is set. It can go on, or its body
is stuck and there is time left. -/
structure Pending (service : Service) (mine : List (Move α)) (id : TaskId) (engine : Engine α)
    (task : Task α) (number : Nat) (limit : Duration) (rest : Behaviour Fault)
    (timer : Option Timer) (started : Nat) (deadline : Option Timer) : Prop
    extends Midway service mine number limit engine.now task.calls rest timer started deadline where
  set : ∃ timer, deadline = some timer ∧ timer.due = Timer.dueAfter started limit
  stays : engine.Queued id ∨ Action.Stuck engine.now task.gate rest.actions timer ∧
    engine.now < Timer.dueAfter started limit

def Awaits (service : Service) (mine : List (Move α)) (id : TaskId) (engine : Engine α) : Prop :=
  ∀ task number limit heeds next rest timer started deadline,
    engine.tasks.get? id = some task →
    task.progress = .suspended (.ask (.attempt number (some limit) heeds) next)
      (.attempt rest timer started deadline) →
    Pending service mine id engine task number limit rest timer started deadline

def Resumes (service : Service) (mine : List (Move α)) (id : TaskId) (engine : Engine α)
    (request : Request) (wait : Wait) : Prop :=
  ∀ task number limit heeds rest timer started deadline, engine.tasks.get? id = some task →
    request = .attempt number (some limit) heeds → wait = .attempt rest timer started deadline →
    engine.stint.left = Stint.length ∧
      Midway service mine number limit engine.now task.calls rest timer started deadline

theorem resumes_of_idle (idle : wait.isCall = false) (request : Request) :
    Resumes service mine id engine request wait := by
  rintro _ _ _ _ _ _ _ _ - - rfl
  cases idle

theorem attempt_looked (found : engine.tasks.get? id = some task) (served : task.service = service)
    (resumes : Resumes service mine id engine (.attempt number (some limit) heeds) wait)
    {deed : Deed α} (final : Engine α)
    (about : (∃ answer, deed = .answered ⟨.attempt number (some limit) heeds, answer⟩ wait) ∨
      deed = .waited (.attempt number (some limit) heeds) wait ∨
        deed = .crashed (.attempt number (some limit) heeds) wait) :
    (wait.isCall = false ∧ engine.attempt id task number (some limit) heeds wait =
        (.later wait, engine.setAside id)) ∨
      (task.cancelled = true ∧ engine.attempt id task number (some limit) heeds wait =
        (.now (.error .cancelled), engine)) ∨
      ∃ start ∈ mine ++ [⟨id, engine, deed, final⟩], ∃ earlier, start.Begins number earlier ∧
        Weighed (Admits (mine ++ [⟨id, engine, deed, final⟩]) number) service number limit
          start.before.now earlier id engine task
          (engine.attempt id task number (some limit) heeds wait) := by
  have asks : deed.request? = some (.attempt number (some limit) heeds) := by
    rcases about with ⟨answer, rfl⟩ | rfl | rfl <;> rfl
  have permits (permitted : 0 < task.gate) :
      Admits (mine ++ [⟨id, engine, deed, final⟩]) number engine.now :=
    ⟨_, List.mem_append_right _ (.head _), ⟨_, _, asks⟩, rfl, task, found, permitted⟩
  cases idle : wait.isCall with
  | false =>
    rcases attempt_fresh found permits served idle with waits | givenUp | ⟨starts, weighed⟩
    · exact .inl ⟨rfl, waits⟩
    · exact .inr (.inl givenUp)
    · refine .inr (.inr ⟨⟨id, engine, deed, final⟩, List.mem_append_right _ (.head _),
        task.calls, ⟨?_, task, found, rfl⟩, weighed⟩)
      exact (call?_of_found found about).trans starts
  | true =>
    cases wait with
    | attempt rest timer started deadline =>
      obtain ⟨full, midway⟩ := resumes _ _ _ _ _ _ _ _ found rfl rfl
      obtain ⟨start, begun, earlier, begins, rfl, calls⟩ := midway.begun
      have opens (moment : Nat) (admits : Admits mine number moment) :
          Admits (mine ++ [⟨id, engine, deed, final⟩]) number moment :=
        admits.mono fun _ => List.mem_append_left _
      have going := midway.going.mono opens
      rcases attempt_resumed found permits full going midway.early calls heeds with
        givenUp | weighed
      · exact .inr (.inl givenUp)
      · exact .inr (.inr ⟨start, List.mem_append_left _ begun, earlier, begins, weighed⟩)
    | _ => cases idle

theorem settles_of_answered (found : engine.tasks.get? id = some task)
    (served : task.service = service)
    (resumes : Resumes service mine id engine (.attempt number (some limit) heeds) wait)
    {outcome : Outcome}
    (answers : engine.answer id task (.attempt number (some limit) heeds) wait =
      (.now outcome, after)) :
    Move.Settles service
      (mine ++ [⟨id, engine, .answered ⟨.attempt number (some limit) heeds, outcome⟩ wait, after⟩])
      ⟨id, engine, .answered ⟨.attempt number (some limit) heeds, outcome⟩ wait, after⟩
      number limit := by
  have replies : engine.attempt id task number (some limit) heeds wait = (.now outcome, after) :=
    answers
  have looked := attempt_looked found served resumes after (.inl ⟨outcome, rfl⟩)
  rw [replies] at looked
  rcases looked with ⟨-, waits⟩ | ⟨cancelled, givenUp⟩ | ⟨start, begun, earlier, begins, weighed⟩
  · cases waits
  · cases givenUp
    exact .givenUp rfl found cancelled
  · cases weighed with
    | judged discreet left token verdict =>
      exact .judged begun begins rfl discreet found left token verdict

theorem settles_of_crashed (found : engine.tasks.get? id = some task)
    (served : task.service = service)
    (resumes : Resumes service mine id engine (.attempt number (some limit) heeds) wait)
    (crashes : engine.answer id task (.attempt number (some limit) heeds) wait = (.crash, after))
    (final : Engine α) :
    Move.Settles service
      (mine ++ [⟨id, engine, .crashed (.attempt number (some limit) heeds) wait, final⟩])
      ⟨id, engine, .crashed (.attempt number (some limit) heeds) wait, final⟩ number limit := by
  have replies : engine.attempt id task number (some limit) heeds wait = (.crash, after) := crashes
  have looked := attempt_looked found served resumes final (.inr (.inr rfl))
  rw [replies] at looked
  rcases looked with ⟨-, waits⟩ | ⟨-, givenUp⟩ | ⟨start, begun, earlier, begins, weighed⟩
  · cases waits
  · cases givenUp
  · cases weighed with
    | crashed split span early => exact .crashed begun begins rfl split span early

theorem awaits_of_waited {request : Request} {next : request.Answer → Plan α} {later : Wait}
    (found : engine.tasks.get? id = some task) (served : task.service = service)
    (resumes : Resumes service mine id engine request wait)
    (waits : engine.answer id task request wait = (.later later, after)) :
    Awaits service
      (mine ++ [⟨id, engine, .waited request wait, after.suspend id (.ask request next) later⟩])
      id (after.suspend id (.ask request next) later) := by
  intro final number limit heeds following rest timer started deadline found' suspended
  unfold suspend at found'
  rw [get?_modifyTask, if_pos rfl] at found'
  obtain ⟨between, left, rfl⟩ := Option.map_eq_some_iff.mp found'
  cases suspended
  have replies : engine.attempt id task number (some limit) heeds wait =
      (.later (.attempt rest timer started deadline), after) := waits
  have looked := attempt_looked found served resumes
    (after.suspend id (.ask (.attempt number (some limit) heeds) following)
      (.attempt rest timer started deadline)) (.inr (.inl rfl))
  rw [replies] at looked
  rcases looked with ⟨idle, rests⟩ | ⟨-, givenUp⟩ | ⟨start, begun, earlier, begins, weighed⟩
  · cases rests
    cases idle
  · cases givenUp
  · generalize same : start.before.now = moment at weighed
    cases weighed with
    | @pending _ kept _ _ set discreet here calls going early stays =>
      cases left.symm.trans here
      have now : (after.suspend id (.ask (.attempt number (some limit) heeds) following)
          (.attempt rest timer started (some set))).now = engine.now := discreet.now
      have due : set.due = Timer.dueAfter started limit := by
        rcases going.timed with ⟨none, -⟩ | ⟨timer, same, due⟩
        · cases none
        · cases same
          exact due
      refine ⟨⟨now.symm ▸ going, ?_, start, begun, earlier, begins, same, calls⟩,
        ⟨set, rfl, due⟩, ?_⟩
      · rw [now]
        exact Nat.le_trans (Nat.le_of_lt early) (Timer.dueAfter_le_ends started limit)
      · rw [now]
        exact stays.symm.imp .inr fun stuck => ⟨stuck, early⟩

def Serves (service : Service) (id : TaskId) (engine : Engine α) : Prop :=
  ∀ task, engine.tasks.get? id = some task → task.service = service

theorem Serves.outlasts (serves : Serves service id before) (outlasts : before.Outlasts after) :
    Serves service id after := by
  intro task found
  obtain ⟨earlier, known, persists⟩ := outlasts id task found
  exact persists.service.trans (serves earlier known)

theorem awaits_of_ended (ended : Gone id ⟨engine, none⟩) : Awaits service mine id engine :=
  fun _ _ _ _ _ _ _ _ _ found suspended =>
    absurd suspended (ended.ended _ (core?_of_found found) _ _)

def AllSettled (service : Service) (mine moves : List (Move α)) : Prop :=
  ∀ move ∈ moves, ∀ number limit, move.Concludes number limit →
    move.Settles service mine number limit

/-- A task that waits, finishes or is ended from outside ends no attempt. -/
theorem allSettled_single {move : Move α} (idle : move.deed = .aborted ∨
    (∃ result, move.deed = .finished result) ∨ ∃ request wait, move.deed = .waited request wait) :
    AllSettled service mine [move] := by
  refine List.forall_mem_singleton.mpr fun number limit concludes => ?_
  cases concludes with
  | answered answered =>
    rcases idle with deed | ⟨_, deed⟩ | ⟨_, _, deed⟩ <;> cases deed.symm.trans answered
  | crashed crashed =>
    rcases idle with deed | ⟨_, deed⟩ | ⟨_, _, deed⟩ <;> cases deed.symm.trans crashed

theorem allSettled_cons {move : Move α} {rest : List (Move α)}
    (first : ∀ number limit, move.Concludes number limit →
      move.Settles service (mine ++ [move]) number limit)
    (later : AllSettled service (mine ++ [move] ++ rest) rest) :
    AllSettled service (mine ++ move :: rest) (move :: rest) := by
  rw [List.append_assoc] at later
  refine List.forall_mem_cons.mpr ⟨fun number limit concludes => ?_, later⟩
  refine (first number limit concludes).mono fun start member => ?_
  rw [List.append_cons]
  exact List.mem_append_left rest member

/-- In one turn a task settles the attempts that it ends, and if it has to wait in another one, then
that is pending. -/
theorem moves_settle (plan : Plan α) (engine : Engine α) (mine : List (Move α)) (wait : Wait)
    (serves : Serves service id engine)
    (resumes : ∀ request next, plan = .ask request next →
      Resumes service mine id engine request wait) :
    AllSettled service (mine ++ engine.moves id plan wait) (engine.moves id plan wait) ∧
      Serves service id (engine.run id plan wait) ∧
        Awaits service (mine ++ engine.moves id plan wait) id (engine.run id plan wait) := by
  induction plan generalizing engine mine wait with
  | done result =>
    exact ⟨allSettled_single (.inr (.inl ⟨result, rfl⟩)),
      serves.outlasts (Preserves.finish engine id (some result)).tasks,
      awaits_of_ended (.finish engine id (some result))⟩
  | ask request next inductionHypothesis =>
    have resumes := resumes request next rfl
    cases found : engine.tasks.get? id with
    | none =>
      rw [moves, Engine.run]
      simp only [found]
      refine ⟨fun _ none => absurd none List.not_mem_nil, serves, ?_⟩
      intro _ _ _ _ _ _ _ _ _ missing
      cases found.symm.trans missing
    | some task =>
      have served := serves task found
      have outlasts := answer_outlasts engine id task request wait
      rcases replies : engine.answer id task request wait with ⟨reply, after⟩
      rw [replies] at outlasts
      cases reply with
      | now answer =>
        obtain ⟨made, went⟩ := look_now found replies next
        obtain ⟨settled, served', awaits⟩ := inductionHypothesis answer after
          (mine ++ [⟨id, engine, .answered ⟨request, answer⟩ wait, after⟩]) .unbegun
          (serves.outlasts outlasts) fun other _ _ => resumes_of_idle rfl other
        rw [made, went]
        refine ⟨allSettled_cons (fun number limit concludes => ?_) settled, served', ?_⟩
        · cases concludes with
          | answered deed =>
            cases deed
            exact settles_of_answered found served resumes replies
          | crashed deed => cases deed
        · rwa [List.append_assoc] at awaits
      | later later =>
        obtain ⟨made, went⟩ := look_later found replies next
        rw [made, went]
        exact ⟨allSettled_single (.inr (.inr ⟨request, wait, rfl⟩)),
          (serves.outlasts outlasts).outlasts
            (Preserves.suspend after id (.ask request next) later).tasks,
          awaits_of_waited found served resumes replies⟩
      | crash =>
        obtain ⟨made, went⟩ := look_crash found replies next
        rw [made, went]
        refine ⟨?_, (serves.outlasts outlasts).outlasts (Preserves.finish after id none).tasks,
          awaits_of_ended (.finish after id none)⟩
        refine List.forall_mem_singleton.mpr fun number limit concludes => ?_
        cases concludes with
        | answered deed => cases deed
        | crashed deed =>
          cases deed
          exact settles_of_crashed found served resumes replies _

theorem isRunning_of_suspended {plan : Plan α} (found : engine.tasks.get? id = some task)
    (suspended : task.progress = .suspended plan wait) : engine.isRunning id = true := by
  unfold isRunning Task.isRunning
  rw [found]
  simp only [suspended]

/-- Only a body that waits for a permit minds how many there are. -/
theorem stuck_of_unmindful {plan : Plan α} {now gate : Nat}
    (suspended : task.progress = .suspended plan (.attempt rest timer started deadline))
    (unmindful : awaitsGate task = false)
    (stuck : Action.Stuck now task.gate rest.actions timer) :
    Action.Stuck now gate rest.actions timer := by
  rcases rest with ⟨_ | ⟨action, rest⟩, result⟩
  · exact stuck.elim
  · cases action with
    | awaitGate =>
      unfold awaitsGate at unmindful
      rw [suspended] at unmindful
      cases unmindful
    | sleep => cases timer <;> exact stuck
    | cancelCaller | advanceClock | crash => exact stuck.elim

theorem Serves.leaves (serves : Serves service id before) (leaves : Leaves id before after) :
    Serves service id after := by
  intro later found
  obtain ⟨task, known, same, -⟩ := leaves.task later found
  exact same.trans (serves task known)

/-- What leaves a task where it stands leaves it pending. -/
theorem Awaits.leaves (awaits : Awaits service mine id before) (leaves : Leaves id before after) :
    Awaits service mine id after := by
  intro later number limit heeds next rest timer started deadline found suspended
  obtain ⟨task, known, -, calls, progress, gate⟩ := leaves.task later found
  have pending := awaits _ _ _ _ _ _ _ _ _ known (progress.symm.trans suspended)
  have queued := leaves.queued (isRunning_of_suspended found suspended)
  have now := leaves.now
  refine ⟨⟨now.symm ▸ pending.going, now.symm ▸ pending.early, calls.symm ▸ pending.begun⟩,
    pending.set, ?_⟩
  rw [now]
  rcases pending.stays with goes | ⟨stuck, early⟩
  · exact .inl (queued goes)
  · rcases gate with same | unmindful | goes
    · exact .inr ⟨same.symm ▸ stuck, early⟩
    · exact .inr ⟨stuck_of_unmindful (progress.symm.trans suspended) unmindful stuck, early⟩
    · exact .inl goes

/-- Time passes up to the deadline at most, and whose sleep or time is over then can go on. -/
theorem Awaits.elapse (awaits : Awaits service mine id engine) (idle : engine.stint.task = none)
    (rests : engine.Rests) {moment : Nat} (later : engine.now ≤ moment)
    (next : ∀ entry ∈ engine.timers, moment ≤ entry.1.due) :
    Awaits service mine id (engine.moveTo moment) := by
  intro task number limit heeds following rest timer started deadline found suspended
  have found : engine.tasks.get? id = some task := by
    rw [← found]
    unfold moveTo
    rw [tasks_wakeAll]
  obtain ⟨⟨going, -, begun⟩, ⟨set, rfl, due⟩, stays⟩ := awaits _ _ _ _ _ _ _ _ _ found suspended
  obtain ⟨stuck, -⟩ := stays.resolve_left (rests.not_queued id)
  have timers : task.timers = timer.toList ++ [set] := by
    unfold Task.timers
    rw [suspended]
    rfl
  have timed (other : Timer) (member : other ∈ task.timers) : moment ≤ other.due :=
    next _ (mem_timers found member)
  have wakes (other : Timer) (member : other ∈ task.timers) (passed : other.due ≤ moment) :
      (engine.moveTo moment).Queued id := .inl (mem_ready_moveTo idle found member passed)
  have ours (pending : Timer) (same : timer = some pending) : pending ∈ task.timers := by
    rw [timers, same]
    exact .head _
  have last : set ∈ task.timers := timers ▸ List.mem_append_right _ (.head _)
  have bound : moment ≤ Timer.dueAfter started limit := due ▸ timed set last
  have now : (engine.moveTo moment).now = moment := (Unhindered.wakeAll _ _).now
  obtain ⟨done, since, path, span, waiting⟩ := going.course
  obtain ⟨waiting, stays⟩ := waiting.elapse stuck later fun pending same =>
    timed pending (ours pending same)
  refine ⟨⟨⟨going.result, ⟨done, since, path, span, now.symm ▸ waiting⟩, .inr ⟨set, rfl, due⟩⟩,
    ?_, begun⟩, ⟨set, rfl, due⟩, ?_⟩
  · rw [now]
    exact Nat.le_trans bound (Timer.dueAfter_le_ends started limit)
  · rw [now]
    rcases stays with stuck | ⟨pending, same, passed⟩
    · rcases Nat.lt_or_eq_of_le bound with early | reached
      · exact .inr ⟨stuck, early⟩
      · exact .inl (wakes set last (Nat.le_of_eq (due.trans reached.symm)))
    · exact .inl (wakes pending (ours pending same) passed)

/-- What holds of an invocation between the turns of an engine that keeps its schedule. -/
structure Punctual (service : Service) (mine : List (Move α)) (id : TaskId) (engine : Engine α) :
    Prop where
  idle : engine.stint.task = none
  serves : Serves service id engine
  settled : AllSettled service mine mine
  awaits : Awaits service mine id engine

theorem Punctual.leaves (punctual : Punctual service mine id before)
    (leaves : Leaves id before after) : Punctual service mine id after where
  idle := leaves.idle
  serves := punctual.serves.leaves leaves
  settled := punctual.settled
  awaits := punctual.awaits.leaves leaves

theorem AllSettled.append {more : List (Move α)} (settled : AllSettled service mine mine)
    (further : AllSettled service (mine ++ more) more) :
    AllSettled service (mine ++ more) (mine ++ more) := by
  refine List.forall_mem_append.mpr ⟨fun move member number limit concludes => ?_, further⟩
  exact (settled move member number limit concludes).mono fun _ => List.mem_append_left more

theorem Punctual.elapse (punctual : Punctual service mine id engine) (rests : engine.Rests)
    {moment : Nat} (later : engine.now ≤ moment)
    (next : ∀ entry ∈ engine.timers, moment ≤ entry.1.due) :
    Punctual service mine id (engine.moveTo moment) where
  idle := (Unhindered.wakeAll _ _).stint.trans punctual.idle
  serves task found := punctual.serves task <| by
    rw [← found]
    unfold moveTo
    rw [tasks_wakeAll]
  settled := punctual.settled
  awaits := punctual.awaits.elapse punctual.idle rests later next

theorem Punctual.abort (punctual : Punctual service mine id engine) :
    Punctual service (mine ++ [⟨id, engine, .aborted, engine.abort id⟩]) id (engine.abort id) := by
  have left := punctual.leaves (.abort punctual.idle id id)
  exact ⟨left.idle, left.serves, punctual.settled.append (allSettled_single (.inl rfl)),
    awaits_of_ended (.abort engine id)⟩

theorem Punctual.work (punctual : Punctual service mine id engine) (others : List TaskId) :
    Punctual service (mine ++ ({ engine with ready := others }.stinted id).turn id) id
      ({ engine with ready := others }.work id) := by
  let started := { engine with ready := others }.stinted id
  have stays : Leaves id (started.poll id) ({ engine with ready := others }.work id) :=
    .stint ⟨rfl, rfl, fun _ queued => queued, fun later found =>
      ⟨later, found, rfl, rfl, rfl, .inl rfl⟩⟩
  have turned : AllSettled service (mine ++ started.turn id) (started.turn id) ∧
      Serves service id (started.poll id) ∧
        Awaits service (mine ++ started.turn id) id (started.poll id) := by
    rcases started.running_cases id with ended | ⟨task, plan, wait, found, suspended⟩
    · obtain ⟨same, nothing⟩ := turn_of_ended ended
      rw [same, nothing]
      refine ⟨fun _ none => absurd none List.not_mem_nil, punctual.serves, ?_⟩
      intro task _ _ _ _ _ _ _ _ found suspended
      cases ended.symm.trans (isRunning_of_suspended found suspended)
    · obtain ⟨same, made⟩ := turn_of_suspended found suspended
      rw [same, made]
      refine moves_settle plan started mine wait punctual.serves ?_
      rintro _ next rfl other number limit heeds rest timer began deadline found' rfl rfl
      cases found.symm.trans found'
      exact ⟨rfl, (punctual.awaits _ _ _ _ _ _ _ _ _ found suspended).toMidway⟩
  obtain ⟨settled, serves, awaits⟩ := turned
  exact ⟨stays.idle, serves.leaves stays, punctual.settled.append settled, awaits.leaves stays⟩

end Engine

theorem Scheduled.punctual {first engine : Engine Outcome} {moves : List (Move Outcome)}
    {id : TaskId} {service : Service} (scheduled : Scheduled first moves engine)
    (known : id < first.nextTask) (start : first.Punctual service [] id) :
    engine.Punctual service (own id moves) id := by
  induction scheduled with
  | refl => exact start
  | invoke scheduled operation input service' linked cancelled inductionHypothesis =>
    have known := Nat.lt_of_lt_of_le known scheduled.onward.run.nextTask_le
    exact inductionHypothesis.leaves (.spawn inductionHypothesis.idle known _)
  | change _ change prompt inductionHypothesis =>
    exact inductionHypothesis.leaves (.apply inductionHypothesis.idle id prompt)
  | @abort moves engine _ other inductionHypothesis =>
    by_cases mine : other = id
    · subst mine
      rw [own_append_of_mine fun move member => by rw [List.mem_singleton.mp member]]
      exact inductionHypothesis.abort
    · rw [own_append_of_others fun move member => List.mem_singleton.mp member ▸ mine]
      exact inductionHypothesis.leaves (.abort inductionHypothesis.idle id other)
  | @work moves engine _ other rest next inductionHypothesis =>
    have turned := (({ engine with ready := rest }.stinted other).poll_isolates other).2
    by_cases mine : other = id
    · subst mine
      rw [own_append_of_mine turned]
      exact inductionHypothesis.work rest
    · rw [own_append_of_others fun move member => turned move member ▸ mine]
      exact inductionHypothesis.leaves (.work (Ne.symm mine) next)
  | round _ inductionHypothesis =>
    exact inductionHypothesis.leaves (.nextRound inductionHypothesis.idle id)
  | elapse _ rests later next inductionHypothesis =>
    exact inductionHypothesis.elapse rests later next

end Resilience
