import Resilience.Proofs.Engine.Attempt
import Resilience.Proofs.Engine.Looks

/-!
Verdicts: what an attempt with a limit comes to, when it does, and how it leaves its task. An
attempt is over when its body is, if its time is not over before that; else it is over with its
time, and then the body was asked last and could not go on.
-/

namespace Resilience

open Move

variable {α : Type}

namespace Task

variable {task : Task α} {earlier : List Call} {number : Nat}

theorem calls_expire (calls : task.calls = earlier ++ [⟨number, false⟩]) :
    task.expire.calls = earlier ++ [⟨number, true⟩] := by
  unfold expire
  rw [calls]
  simp

theorem gate_expire (task : Task α) : task.expire.gate = task.gate := by
  unfold expire
  split <;> rfl

theorem cancelled_expire (task : Task α) : task.expire.cancelled = task.cancelled := by
  unfold expire
  split <;> rfl

end Task

/-- How an attempt may be over that began at a moment, now, with an outcome, when its task made some
calls before it and had permits at some moments only. Once time has passed, an attempt is late only
if its body still had to wait when it was asked last, or did so much at once that its stint was used
up. -/
inductive Verdict (opens : Nat → Prop) (service : Service) (number : Nat) (limit : Duration)
    (started : Nat) (earlier : List Call) (now : Nat) (later : Task α) : Outcome → Prop
  /-- The service was not ready, so nothing was called. -/
  | unready {failure : Failure} (unready : service.unready? (number + 1) = some failure)
      (atOnce : now = started) (calls : later.calls = earlier) :
      Verdict opens service number limit started earlier now later (.error (.inner failure))
  | inTime (span : Action.Span opens (service.respond number).actions started now)
      (early : now ≤ Timer.ends started limit)
      (calls : later.calls = earlier ++ [⟨number, false⟩]) :
      Verdict opens service number limit started earlier now later (service.respond number).result
  | late {done rest : List Action} {moment : Nat} (due : now = Timer.ends started limit)
      (split : (service.respond number).actions = done ++ rest)
      (span : Action.Span opens done started moment)
      (stays : started < now → Action.Blocked now later.gate moment rest ∨
        Stint.length < (service.respond number).actions.countP Action.waits)
      (calls : later.calls = earlier ++ [⟨number, true⟩]) :
      Verdict opens service number limit started earlier now later
        (.error (.timeout (.ofMillis (now - started)) limit))

theorem Verdict.mono {opens wider : Nat → Prop} {service : Service} {number started now : Nat}
    {limit : Duration} {earlier : List Call} {later : Task α} {outcome : Outcome}
    (verdict : Verdict opens service number limit started earlier now later outcome)
    (within : ∀ now, opens now → wider now) :
    Verdict wider service number limit started earlier now later outcome := by
  cases verdict with
  | unready unready atOnce calls => exact .unready unready atOnce calls
  | inTime span early calls => exact .inTime (span.mono within) early calls
  | late due split span stays calls => exact .late due split (span.mono within) stays calls

namespace Engine

variable {engine middle after : Engine α} {id : TaskId} {task later : Task α} {service : Service}
  {number started : Nat} {limit : Duration} {earlier : List Call} {opens : Nat → Prop}

/-- What a look at an attempt that began at a moment comes to: a verdict, a crash by the end of its
time, or that the body has to wait while there is time left. -/
inductive Weighed (opens : Nat → Prop) (service : Service) (number : Nat) (limit : Duration)
    (started : Nat) (earlier : List Call) (id : TaskId) (engine : Engine α) (task : Task α) :
    Reply Outcome × Engine α → Prop
  | judged {outcome : Outcome} {after : Engine α} {later : Task α}
      (discreet : Discreet id engine after) (found : after.tasks.get? id = some later)
      (token : later.cancelled = true →
        task.cancelled = true ∨ .cancelCaller ∈ (service.respond number).actions)
      (verdict : Verdict opens service number limit started earlier engine.now later outcome) :
      Weighed opens service number limit started earlier id engine task (.now outcome, after)
  | crashed {after : Engine α} {done tail : List Action}
      (split : (service.respond number).actions = done ++ .crash :: tail)
      (span : Action.Span opens done started engine.now)
      (early : engine.now ≤ Timer.ends started limit) :
      Weighed opens service number limit started earlier id engine task (.crash, after)
  | pending {after : Engine α} {later : Task α} {rest : Behaviour Fault} {timer : Option Timer}
      {deadline : Timer} (discreet : Discreet id engine after)
      (found : after.tasks.get? id = some later)
      (calls : later.calls = earlier ++ [⟨number, false⟩])
      (going : Going opens (service.respond number) limit started engine.now rest timer
        (some deadline))
      (early : engine.now < Timer.dueAfter started limit)
      (stays : Action.Stuck engine.now later.gate rest.actions timer ∨ id ∈ after.aside) :
      Weighed opens service number limit started earlier id engine task
        (.later (.attempt rest timer started (some deadline)), after)

theorem Looked.weighed {replied : Reply Outcome × Engine α}
    (looked : Looked opens id middle later (service.respond number) limit started replied)
    (before : Discreet id engine middle) (token : later.cancelled = task.cancelled)
    (calls : later.calls = earlier ++ [⟨number, false⟩]) (since : started ≤ engine.now)
    (early : engine.now ≤ Timer.ends started limit)
    (full : started < engine.now → middle.stint.left = Stint.length) :
    Weighed opens service number limit started earlier id engine task replied := by
  have now := before.now
  cases looked with
  | inTime discreet found does span =>
    rw [now] at span
    refine .judged (before.trans discreet) found (fun fired => ?_)
      (.inTime span early (does.calls.trans calls))
    exact token ▸ does.cancelled fired
  | @late after final done rest moment discreet found does due split span stays =>
    rw [now] at due stays ⊢
    have reached : engine.now = Timer.ends started limit :=
      Nat.le_antisymm early (Nat.max_le.mpr ⟨since, due⟩)
    refine .judged (before.trans discreet) found (fun fired => ?_)
      (.late reached split span (fun passed => ?_) (Task.calls_expire (does.calls.trans calls)))
    · rw [final.cancelled_expire] at fired
      exact token ▸ does.cancelled fired
    · rw [full passed] at stays
      rwa [final.gate_expire]
  | crashed discreet split span =>
    rw [now] at span
    exact .crashed split span early
  | pending discreet found does going before' stays =>
    rw [now] at going before' stays
    refine .pending (before.trans discreet) found (does.calls.trans calls) going ?_ stays
    rcases going.timed with ⟨none, -⟩ | ⟨set, same, due⟩
    · cases none
    · cases same
      exact due ▸ before'

theorem attempt_fresh (found : engine.tasks.get? id = some task)
    (permits : 0 < task.gate → opens engine.now) (served : task.service = service)
    {heeds : Bool} {wait : Wait} (idle : wait.isCall = false) :
    engine.attempt id task number (some limit) heeds wait = (.later wait, engine.setAside id) ∨
      (task.cancelled = true ∧ engine.attempt id task number (some limit) heeds wait =
        (.now (.error .cancelled), engine)) ∨
      (engine.starts? task (.attempt number (some limit) heeds) wait = some number ∧
        Weighed opens service number limit engine.now task.calls id engine task
          (engine.attempt id task number (some limit) heeds wait)) := by
  cases starts : engine.starts? task (.attempt number (some limit) heeds) wait with
  | some started =>
    obtain ⟨rfl, asks⟩ := attempt_of_starts starts id
    refine .inr (.inr ⟨rfl, ?_⟩)
    rw [asks, served]
    split
    next failure unready =>
      exact .judged (.refl engine id) found .inl (.unready unready rfl rfl)
    next =>
      have called := (Discreet.refl engine id).modifyTask
        fun task => { task with calls := task.calls ++ [{ number := started }] }
      refine (proceed_looked (get?_modified found _) permits ?_).weighed called rfl rfl
        (Nat.le_refl _) (Timer.le_ends _ _) fun passed => absurd passed (Nat.lt_irrefl _)
      exact .start (service.respond started) limit engine.now
  | none =>
    rcases attempt_of_idle idle starts id with waits | givenUp
    · exact .inl waits
    · refine .inr (.inl ⟨?_, givenUp⟩)
      -- A stint that is used up would have put the attempt off.
      rw [starts?_attempt, idle] at starts
      unfold attempt at givenUp
      cases heeds with
      | false => cases starts
      | true =>
        cases spent : engine.isSpent with
        | true =>
          rw [spent] at givenUp
          cases givenUp
        | false =>
          rw [spent] at starts
          cases gaveUp : task.cancelled with
          | true => rfl
          | false =>
            rw [gaveUp] at starts
            cases starts

theorem attempt_resumed (found : engine.tasks.get? id = some task)
    (permits : 0 < task.gate → opens engine.now) (full : engine.stint.left = Stint.length)
    {rest : Behaviour Fault} {timer deadline : Option Timer}
    (going : Going opens (service.respond number) limit started engine.now rest timer deadline)
    (early : engine.now ≤ Timer.ends started limit)
    (calls : task.calls = earlier ++ [⟨number, false⟩]) (heeds : Bool) :
    (task.cancelled = true ∧
      engine.attempt id task number (some limit) heeds (.attempt rest timer started deadline) =
        (.now (.error .cancelled), engine)) ∨
      Weighed opens service number limit started earlier id engine task
        (engine.attempt id task number (some limit) heeds
          (.attempt rest timer started deadline)) := by
  have unspent : engine.isSpent = false := by
    unfold isSpent
    rw [full]
    rfl
  have since : started ≤ engine.now := by
    obtain ⟨done, moment, -, span, waiting⟩ := going.course
    exact Nat.le_trans span.le waiting.le
  unfold attempt
  rw [unspent, Bool.and_false]
  simp only [Bool.false_eq_true, if_false]
  split
  next givenUp => exact .inl ⟨(Bool.and_eq_true _ _ ▸ givenUp).2, rfl⟩
  next =>
    exact .inr ((proceed_looked found permits going).weighed (.refl engine id) rfl calls since early
      fun _ => full)

end Engine

end Resilience
