import Resilience.Proofs.Engine.Deadlines
import Resilience.Proofs.Engine.Trials
import Resilience.Proofs.Time.Amount

/-!
Timeouts: each attempt of an invocation whose policy limits them comes to one outcome by its own
deadline, whatever the attempts and the pauses before it took. A body that is done by then decides
the attempt, also in the last millisecond; any other is given up in that millisecond.
-/

namespace Resilience

open Move Invocation

/-- A valid policy gives attempts some time, and not without an end. -/
theorem Policy.Valid.limit_bounds {policy : Policy} (valid : policy.Valid)
    {timeout : TimeoutPolicy} (timed : policy.timeout = some timeout) :
    0 < timeout.duration.toDuration.nanos ∧
      timeout.duration.toDuration.nanos < 2 ^ 63 * 10 ^ 9 := by
  have checked : timeout.problem? = none := by
    have checked := valid .timeout
    rw [Policy.problemOf?, timed] at checked
    exact checked
  have long := timeout.duration.nanos_toDuration_le
  constructor
  · refine Nat.pos_of_ne_zero fun none => ?_
    rw [TimeoutPolicy.problem?, if_pos none] at checked
    cases checked
  · unfold Amount.mostNanos at long
    omega

/-- Whether it is known when actions that begin at a moment are done, however they are looked at:
they need no permits and few waits, or they need a permit and there is none. -/
inductive Action.Foreseen (opens : Nat → Prop) (actions : List Action) (started : Nat) :
    Option Nat → Prop
  | ends {finish : Nat} (ends : end? actions started = some finish)
      (few : actions.countP waits ≤ Stint.length) : Foreseen opens actions started (some finish)
  | never (gated : awaitGate ∈ actions) (shut : ∀ moment, ¬ opens moment) :
      Foreseen opens actions started none

/-- What comes of an attempt that began at a moment and whose body is done at another one or never:
when it is over, with which outcome, and whether it ran out of time. -/
inductive Decided (limit : Duration) (started : Nat) (finish : Option Nat) (result : Outcome) :
    (now : Nat) → (outcome : Outcome) → (expired : Bool) → Prop
  | inTime {moment : Nat} (ends : finish = some moment)
      (early : moment ≤ started + limit.ceilMillis) :
      Decided limit started finish result moment result false
  | late (due : ∀ moment, finish = some moment → started + limit.ceilMillis < moment) :
      Decided limit started finish result (started + limit.ceilMillis)
        (.error (.timeout (.ofMillis limit.ceilMillis) limit)) true

/-- When the body of an attempt is done decides what becomes of the attempt. -/
theorem Verdict.decided {α : Type} {opens : Nat → Prop} {service : Service}
    {number started now : Nat} {finish : Option Nat} {limit : Duration} {earlier : List Call}
    {later : Task α} {outcome : Outcome}
    (verdict : Verdict opens service number limit started earlier now later outcome)
    (whole : Timer.ends started limit = started + limit.ceilMillis)
    (positive : 0 < limit.ceilMillis) (ready : service.unready? (number + 1) = none)
    (foreseen : Action.Foreseen opens (service.respond number).actions started finish) :
    ∃ expired, later.calls = earlier ++ [⟨number, expired⟩] ∧
      Decided limit started finish (service.respond number).result now outcome expired := by
  cases verdict with
  | unready unready => cases ready.symm.trans unready
  | inTime span early calls =>
    refine ⟨false, calls, ?_⟩
    cases foreseen with
    | ends ends => exact .inTime (congrArg some (Action.span_eq_end span ends).symm) (whole ▸ early)
    | never gated shut =>
      obtain ⟨moment, opened⟩ := span.opened gated
      exact absurd opened (shut moment)
  | @late done rest moment due split span stays calls =>
    have now : now = started + limit.ceilMillis := due.trans whole
    subst now
    refine ⟨true, calls, ?_⟩
    rw [Nat.add_sub_cancel_left]
    refine .late fun finish same => ?_
    cases foreseen with
    | never => cases same
    | ends ends few =>
      cases same
      rw [split] at ends
      have blocked := (stays (Nat.lt_add_of_pos_right positive)).resolve_right (Nat.not_lt.mpr few)
      exact blocked.lt_end (Action.end?_of_span span ends)

/-- Whether a move that answers an attempt does so as the end of the body decides, if that end is
foreseen. -/
def Move.Decides (service : Service) (mine : List (Move Outcome)) (move : Move Outcome)
    (number : Nat) (limit : Duration) (outcome : Outcome) : Prop :=
  ∃ start ∈ mine, ∃ earlier later, start.Begins number earlier ∧
    move.after.tasks.get? move.id = some later ∧
      ∀ finish, Action.Foreseen (Admits mine number) (service.respond number).actions
          start.before.now finish →
        start.before.now + limit.ceilMillis ≤ Timer.last →
          ∃ expired, later.calls = earlier ++ [⟨number, expired⟩] ∧
            Decided limit start.before.now finish (service.respond number).result move.before.now
              outcome expired

/-- An attempt that its caller did not give up comes to what the end of its body decides. -/
theorem Move.Settles.decides {service : Service} {mine : List (Move Outcome)}
    {move : Move Outcome} {number : Nat} {limit : Duration} {heeds : Bool} {outcome : Outcome}
    {wait : Wait} {task : Task Outcome} (settles : move.Settles service mine number limit)
    (deed : move.deed = .answered ⟨.attempt number (some limit) heeds, outcome⟩ wait)
    (found : move.before.tasks.get? move.id = some task) (uncancelled : task.cancelled = false)
    (ready : service.unready? (number + 1) = none) (positive : 0 < limit.nanos)
    (short : limit.nanos < 2 ^ 63 * 10 ^ 9) :
    move.Decides service mine number limit outcome := by
  cases settles with
  | givenUp _ found' cancelled =>
    cases found.symm.trans found'
    cases uncancelled.symm.trans cancelled
  | @judged start earlier _ later _ _ _ begun begins deed' discreet _ left token verdict =>
    cases deed.symm.trans deed'
    refine ⟨start, begun, earlier, later, begins, left, fun finish foreseen fits => ?_⟩
    exact verdict.decided (Timer.ends_eq short fits) (Duration.ceilMillis_pos positive) ready
      foreseen
  | crashed _ _ deed' => cases deed.symm.trans deed'

/-- How an invocation keeps the deadlines of a policy that gives each attempt a limit. -/
structure KeepsDeadlines (service : Service) (limit : Duration) (id : TaskId)
    (mine : List (Move Outcome)) (last : Engine Outcome) : Prop where
  /-- The time of an attempt is its limit, rounded up to milliseconds. -/
  rounds : limit ≤ .ofMillis limit.ceilMillis ∧ ∀ started,
    started + limit.ceilMillis ≤ Timer.last →
      Timer.ends started limit = started + limit.ceilMillis
  /-- Each attempt that is looked at has the whole limit, and is the next one after those that are
  over; so nothing is done for an attempt that is over. -/
  next : ∀ earlier move later, mine = earlier ++ move :: later → ∀ number bound heeds,
    move.deed.request? = some (.attempt number bound heeds) →
      bound = some limit ∧ number = (numbers (history earlier)).length + 1
  /-- The attempts begin in order, each once at most. -/
  begins : (calls mine).Pairwise (· < ·)
  /-- And they come to their outcomes in order, each to one at most. -/
  once : (numbers (history mine)).Pairwise (· < ·)
  /-- An attempt is over with a verdict on its body and the moment at which it began, if its caller
  did not give up, or with the crash of the body. -/
  settled : ∀ move ∈ mine, ∀ number, move.Concludes number limit →
    move.Settles service mine number limit
  /-- The outcome of an attempt that the caller did not give up is decided by when its body is done,
  if that is foreseen. -/
  decided : ∀ move ∈ mine, ∀ number heeds outcome wait task,
    move.deed = .answered ⟨.attempt number (some limit) heeds, outcome⟩ wait →
    move.before.tasks.get? id = some task → task.cancelled = false →
    service.unready? (number + 1) = none →
    move.Decides service mine number limit outcome
  /-- Whatever attempt begins is over by its deadline, unless the task is ended before. -/
  comes : ∀ number ∈ calls mine,
    (∃ move ∈ mine, move.deed = .aborted ∨ move.Concludes number limit) ∨
      ∃ task rest timer started deadline, last.tasks.get? id = some task ∧
        Engine.Pending service mine id last task number limit rest timer started deadline

section Runs

variable {engine last : Engine Outcome} {operation : OperationId} {input : String}
  {service : Service} {linked cancelled : Bool} {moves : List (Move Outcome)}

/-- An invocation that was just started has done nothing yet. -/
theorem Engine.spawn_punctual (idle : engine.stint.task = none) (operation : OperationId)
    (input : String) (service : Service) (linked cancelled : Bool) :
    (engine.spawn (invocation operation input service linked cancelled)).2.Punctual service []
      engine.nextTask := by
  have started := engine.get?_starting (invocation operation input service linked cancelled)
  have found : (engine.spawn (invocation operation input service linked cancelled)).2.tasks.get?
      engine.nextTask = some (invocation operation input service linked cancelled) := started
  refine ⟨(Engine.Unhindered.spawn engine _).stint.trans idle, fun task same => ?_,
    fun _ none => absurd none List.not_mem_nil, ?_⟩
  · cases found.symm.trans same
    rfl
  · intro task _ _ _ _ _ _ _ _ same suspended
    cases found.symm.trans same
    injection suspended with _ unbegun
    cases unbegun

theorem Scheduled.follows
    (scheduled : Scheduled
      (engine.spawn (Engine.invocation operation input service linked cancelled)).2 moves last) :
    Follows ⟨engine.nextTask, operation, false⟩ ⟨service.plan operation, .unbegun, none⟩
      ⟨last, none⟩ (own engine.nextTask moves) := by
  have stands : Stands ⟨engine.nextTask, operation, false⟩
      ⟨service.plan operation, .unbegun, none⟩
      ⟨(engine.spawn (Engine.invocation operation input service linked cancelled)).2, none⟩ :=
    .spawn engine (Engine.invocation operation input service linked cancelled) rfl rfl
  refine scheduled.onward.run.follows stands ?_
  rw [Engine.nextTask_spawn]
  exact Nat.lt_succ_self engine.nextTask

variable {id : TaskId} {stage : Stage Outcome} {mine : List (Move Outcome)} {policy : Policy}
  {number : Nat} {limit : Duration}

/-- What an invocation finds first is the policy of all of its attempts. -/
theorem Follows.attempt_limit
    (follows : Follows ⟨id, operation, false⟩ ⟨service.plan operation, .unbegun, none⟩ stage mine)
    (resolved : resolved? (history mine) = some policy) {earlier later : List (Move Outcome)}
    {move : Move Outcome} (path : mine = earlier ++ move :: later) {bound : Option Duration}
    {heeds : Bool} (asks : move.deed.request? = some (.attempt number bound heeds)) :
    bound = policy.limit? ∧ number = (numbers (history earlier)).length + 1 := by
  obtain ⟨following, leads⟩ := follows.asks path asks
  obtain ⟨numbered, -, found, -⟩ := next_attempt leads
  obtain ⟨first, known, limit⟩ := Option.map_eq_some_iff.mp found
  rw [path, history_concat, resolved?_append, known] at resolved
  cases resolved
  exact ⟨limit.symm, numbered⟩

theorem answered_of_mem_numbers (answered : number ∈ numbers (history mine)) :
    ∃ move ∈ mine, ∃ bound heeds outcome wait,
      move.deed = .answered ⟨.attempt number bound heeds, outcome⟩ wait := by
  obtain ⟨⟨request, answer⟩, exchanged, numbered⟩ := List.mem_filterMap.mp answered
  obtain ⟨move, member, told⟩ := List.mem_filterMap.mp exchanged
  cases request with
  | attempt other bound heeds =>
    cases show other = number from Option.some.inj numbered
    refine ⟨move, member, bound, heeds, answer, ?_⟩
    unfold Move.exchange? at told
    split at told
    next exchange wait deed =>
      cases told
      exact ⟨wait, deed⟩
    all_goals cases told
  | _ => cases numbered

/-- An attempt that has begun without coming to anything yet is pending. -/
theorem Engine.Awaits.pending (awaits : last.Awaits service mine id) {point : Point Outcome}
    (stands : Stands ⟨id, operation, false⟩ point ⟨last, none⟩) (begun : number ∈ point.begun)
    (limited : ∀ bound heeds next, point.plan = .ask (.attempt number bound heeds) next →
      bound = some limit) :
    ∃ task rest timer started deadline, last.tasks.get? id = some task ∧
      Engine.Pending service mine id last task number limit rest timer started deadline := by
  obtain ⟨bound, heeds, next, plan, calls⟩ := Point.mem_begun begun
  cases limited bound heeds next plan
  obtain ⟨progress, core⟩ := stands.known
  obtain ⟨task, found, -⟩ := Option.map_eq_some_iff.mp core
  have suspended := stands.suspends (apart_none id) found
  rw [plan] at suspended
  cases wait : point.wait with
  | attempt rest timer started deadline =>
    rw [wait] at suspended
    exact ⟨task, rest, timer, started, deadline, found, awaits _ _ _ _ _ _ _ _ _ found suspended⟩
  | _ =>
    rw [wait] at calls
    cases calls

/-- Whatever attempt has begun under a policy with a limit was concluded, was ended with its task
from outside, or is pending. -/
theorem Follows.comes
    (follows : Follows ⟨id, operation, false⟩ ⟨service.plan operation, .unbegun, none⟩
      ⟨last, none⟩ mine)
    (awaits : last.Awaits service mine id)
    (resolved : resolved? (history mine) = some policy) (limited : policy.limit? = some limit)
    (called : number ∈ calls mine) :
    (∃ move ∈ mine, move.deed = .aborted ∨ move.Concludes number limit) ∨
      ∃ task rest timer started deadline, last.tasks.get? id = some task ∧
        Engine.Pending service mine id last task number limit rest timer started deadline := by
  have bounded {move : Move Outcome} (member : move ∈ mine) {bound : Option Duration}
      {heeds : Bool} (asks : move.deed.request? = some (.attempt number bound heeds)) :
      bound = some limit := by
    obtain ⟨earlier, later, path⟩ := List.append_of_mem member
    exact (follows.attempt_limit resolved path asks).1.trans limited
  rcases calls_come_to_something follows called with
    answered | ⟨move, member, aborted | ⟨bound, heeds, wait, crashed⟩⟩ |
      ⟨point, stands, leads, begun⟩
  · obtain ⟨move, member, bound, heeds, outcome, wait, deed⟩ := answered_of_mem_numbers answered
    cases bounded member (by rw [deed]; rfl)
    exact .inl ⟨move, member, .inr (.answered deed)⟩
  · exact .inl ⟨move, member, .inl aborted⟩
  · cases bounded member (by rw [crashed]; rfl)
    exact .inl ⟨move, member, .inr (.crashed crashed)⟩
  · refine .inr (awaits.pending stands begun fun bound heeds next plan => ?_)
    rw [plan] at leads
    obtain ⟨-, -, found, -⟩ := next_attempt leads
    rw [resolved] at found
    exact (Option.some.inj found).symm.trans limited

end Runs

/-- The attempts of an invocation keep their deadlines in an engine that keeps its schedule: under
any valid policy with a timeout, with any service, and whatever else goes on. -/
theorem Engine.attempts_keep_their_deadlines (engine : Engine Outcome) (operation : OperationId)
    (input : String) (service : Service) (linked cancelled : Bool) {moves : List (Move Outcome)}
    {last : Engine Outcome} {policy : Policy} {timeout : TimeoutPolicy}
    (sound : engine.registry.Sound) (idle : engine.stint.task = none)
    (scheduled : Scheduled
      (engine.spawn (invocation operation input service linked cancelled)).2 moves last)
    (resolved : resolved? (history (own engine.nextTask moves)) = some policy)
    (timed : policy.timeout = some timeout) :
    KeepsDeadlines service timeout.duration.toDuration engine.nextTask
      (own engine.nextTask moves) last := by
  let task := invocation operation input service linked cancelled
  have known : engine.nextTask < (engine.spawn task).2.nextTask := by
    rw [nextTask_spawn]
    exact Nat.lt_succ_self engine.nextTask
  have punctual := scheduled.punctual known
    (engine.spawn_punctual idle operation input service linked cancelled)
  have follows := scheduled.follows
  have valid : policy.Valid :=
    scheduled.onward.resolved_valid ((Step.change engine (.spawn task)).sound sound) resolved
  obtain ⟨positive, short⟩ := valid.limit_bounds timed
  have limited : policy.limit? = some timeout.duration.toDuration := by
    rw [Policy.limit?, timed]
    rfl
  constructor
  case rounds => exact ⟨Duration.le_ofMillis_ceilMillis _, fun _ fits => Timer.ends_eq short fits⟩
  case next =>
    intro earlier move later path number bound heeds asks
    obtain ⟨same, numbered⟩ := follows.attempt_limit resolved path asks
    exact ⟨same.trans limited, numbered⟩
  case begins => exact calls_increase follows
  case once => exact numbers_increase follows
  case settled => exact fun move member number => punctual.settled move member number _
  case decided =>
    intro move member number heeds outcome wait task deed found uncancelled ready
    have mine : move.id = engine.nextTask := of_decide_eq_true (List.mem_filter.mp member).2
    have settles := punctual.settled move member number _ (.answered deed)
    exact settles.decides deed (mine ▸ found) uncancelled ready positive short
  case comes => exact fun number called => follows.comes punctual.awaits resolved limited called

/-- As time passes to a moment, tasks go on there until all of them wait. -/
theorem Scheduled.pass {first engine : Engine Outcome} {moves : List (Move Outcome)}
    (scheduled : Scheduled first moves engine) (turns moment : Nat)
    (passes : engine.Rests ∧ engine.now ≤ moment ∧
      ∀ entry ∈ engine.timers, moment ≤ entry.1.due) :
    Scheduled first (moves ++ (engine.moveTo moment).settling turns)
      ((engine.moveTo moment).settle turns) :=
  (scheduled.elapse passes.1 passes.2.1 passes.2.2).settle turns

namespace Engine

def timely (policy : Policy) : Engine Outcome :=
  ({ blank {} with sleeper := .timed }.register "pay" policy).2

def paying (policy : Policy) (service : Service) : Engine Outcome :=
  ((timely policy).spawn (invocation "pay" "" service true false)).2

def brief : Policy where
  retry := some { maxRetries := 1, delay := .millis 3, jitter := .millis 0 }
  timeout := some { duration := ⟨1500, .micros⟩ }

def hastened : Service where
  respond number :=
    if number = 1 then { actions := [.sleep 5], result := .ok "late" }
    else { actions := [.sleep 2], result := .ok "paid" }

/-- The engine when the second attempt is on its way. -/
def resumed : Engine Outcome :=
  (((((paying brief hastened).settle 4).moveTo 2).settle 4).moveTo 5).settle 4

/-- At seven milliseconds both the sleep of the body and the time of the attempt are over. -/
theorem resumed_moveTo : resumed.moveTo 7 = { resumed with now := 7 }.wakeAll [0, 0] := by
  have due : (resumed.timers.filter fun entry => entry.1.due ≤ 7) =
      [(⟨7, 3⟩, 0), (⟨7, 4⟩, 0)] := by
    decide +kernel
  unfold moveTo
  rw [due, List.mergeSort_of_pairwise (by decide)]
  rfl

/-- An attempt that is too slow is over after two milliseconds, and the next one has two more. -/
theorem attempts_keep_their_deadlines_hastened :
    ∃ moves last, Scheduled (paying brief hastened) moves last ∧
      outcomes (history (own 0 moves)) =
        [.error (.timeout (.ofMillis 2) (.ofNanos 1500000)), .ok "paid"] ∧
      KeepsDeadlines hastened (Amount.toDuration ⟨1500, .micros⟩) 0 (own 0 moves) last := by
  have sound : (timely brief).registry.Sound :=
    (Step.change { blank {} with sleeper := .timed } (.register "pay" brief)).sound
      Registry.sound_empty
  have keeps {moves : List (Move Outcome)} {last : Engine Outcome}
      (scheduled : Scheduled (paying brief hastened) moves last)
      (limited : (resolved? (history (own 0 moves))).bind Policy.timeout =
        some ⟨⟨1500, .micros⟩⟩) :
      KeepsDeadlines hastened (Amount.toDuration ⟨1500, .micros⟩) 0 (own 0 moves) last := by
    obtain ⟨policy, resolved, timed⟩ := Option.bind_eq_some_iff.mp limited
    exact attempts_keep_their_deadlines (timely brief) "pay" "" hastened true false sound rfl
      scheduled resolved timed
  have late := (Scheduled.refl.settle 4).pass 4 2
    (show ((paying brief hastened).settle 4).Rests ∧ _ by decide +kernel)
  have again : Scheduled (paying brief hastened) _ resumed := late.pass 4 5 (by decide +kernel)
  have paid := again.pass 4 7 (by decide +kernel)
  rw [resumed_moveTo] at paid
  exact ⟨_, _, paid, by decide +kernel, keeps paid (by decide +kernel)⟩

/-- A policy that gives each attempt a tenth of a second. -/
def lenient : Policy := { timeout := some { duration := ⟨100, .millis⟩ } }

def crashing : Service := { respond := fun _ => ⟨[.crash], .ok "done"⟩ }

/-- A service that is not ready for any attempt. -/
def absent : Service where
  unready? number := if number = 1 then none else some ⟨"Unready", "not ready"⟩
  respond _ := ⟨[], .ok "done"⟩

def gatedBy (permits : Nat) : Service :=
  { respond := fun _ => ⟨List.replicate permits .awaitGate, .ok "done"⟩ }

/-- The engine when the permits come in the hundredth millisecond, after the body was asked. -/
def admitted (policy : Policy) (permits : Nat) : Engine Outcome :=
  (((((paying policy (gatedBy permits)).settle 4).moveTo 100).settle 4).openGate 0 permits).settle 4

/-- The engine when the permits come in the hundredth millisecond, before the body is asked. -/
def supplied (policy : Policy) (permits : Nat) : Engine Outcome :=
  ((((paying policy (gatedBy permits)).settle 4).moveTo 100).openGate 0 permits).settle 4

/-- Whether a run of a gated service ends in the hundredth millisecond with this outcome. -/
def EndsWith (policy : Policy) (permits : Nat) (last : Engine Outcome) (outcome : Outcome) : Prop :=
  last.now = 100 ∧ ∃ moves, Scheduled (paying policy (gatedBy permits)) moves last ∧
    outcomes (history (own 0 moves)) = [outcome]

/-- A body that crashes ends its invocation at once, without any outcome, and a service that is not
ready fails it at once. A body that would be done in the last millisecond is too late if the permit
for which it waits comes only after it was asked in that millisecond, or if it has to wait more
often than a stint allows. -/
theorem crashes_and_late_permits :
    (∃ moves last, Scheduled (paying lenient crashing) moves last ∧ calls (own 0 moves) = [1] ∧
      last.now = 0 ∧ last.isRunning 0 = false ∧ outcomes (history (own 0 moves)) = []) ∧
    (∃ moves last, Scheduled (paying lenient absent) moves last ∧ last.now = 0 ∧
      outcomes (history (own 0 moves)) = [.error (.inner ⟨"Unready", "not ready"⟩)]) ∧
    (EndsWith {} 1 (admitted {} 1) (.ok "done") ∧
      EndsWith lenient 1 (admitted lenient 1)
        (.error (.timeout (.ofMillis 100) (.ofMillis 100)))) ∧
    EndsWith {} 129 (supplied {} 129) (.ok "done") ∧
      EndsWith lenient 129 (supplied lenient 129)
        (.error (.timeout (.ofMillis 100) (.ofMillis 100))) := by
  have crashed := (Scheduled.refl : Scheduled (paying lenient crashing) [] _).settle 4
  have failed := (Scheduled.refl : Scheduled (paying lenient absent) [] _).settle 4
  have waited (policy : Policy) (permits : Nat)
      (passes : ((paying policy (gatedBy permits)).settle 4).Rests ∧
        ((paying policy (gatedBy permits)).settle 4).now ≤ 100 ∧
        ∀ entry ∈ ((paying policy (gatedBy permits)).settle 4).timers, 100 ≤ entry.1.due) :=
    (Scheduled.refl.settle 4).elapse passes.1 passes.2.1 passes.2.2
  have admits (policy : Policy) (passes) :=
    (((waited policy 1 passes).settle 4).change (.openGate 0 1) trivial).settle 4
  have supplies (policy : Policy) (passes) :=
    ((waited policy 129 passes).change (.openGate 0 129) trivial).settle 4
  refine ⟨⟨_, _, crashed, by decide +kernel⟩, ⟨_, _, failed, by decide +kernel⟩, ⟨?_, ?_⟩, ?_, ?_⟩
  · exact ⟨by decide +kernel, _, admits {} (by decide +kernel), by decide +kernel⟩
  · exact ⟨by decide +kernel, _, admits lenient (by decide +kernel), by decide +kernel⟩
  · exact ⟨by decide +kernel, _, supplies {} (by decide +kernel), by decide +kernel⟩
  · exact ⟨by decide +kernel, _, supplies lenient (by decide +kernel), by decide +kernel⟩

end Engine

end Resilience
