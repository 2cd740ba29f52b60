import Resilience.Engine.Task

/-!
Spans: how long the actions of a behaviour take. Sleeps end at moments that are known when they
start, the gate of a task opens when others see fit, and all other actions take no time.
-/

namespace Resilience

namespace Duration

/-- Rounding up shortens no wait. -/
theorem le_ofMillis_ceilMillis (d : Duration) : d ≤ .ofMillis d.ceilMillis := by
  have bounded := d.nanos_le
  simp only [le_iff, ofMillis, nanos_ofNanos, ceilMillis]
  omega

theorem ceilMillis_pos {d : Duration} (positive : 0 < d.nanos) : 0 < d.ceilMillis := by
  unfold ceilMillis
  omega

end Duration

namespace Timer

/-- The last moment at which a timer can be due. -/
def last : Nat := 2 ^ 64 - 3

/-- When a wait is over that starts at a moment: at once, if no timer can be due so late. -/
def ends (moment : Nat) (duration : Duration) : Nat := max moment (dueAfter moment duration)

theorem le_ends (moment : Nat) (duration : Duration) : moment ≤ ends moment duration :=
  Nat.le_max_left _ _

theorem dueAfter_le_ends (moment : Nat) (duration : Duration) :
    dueAfter moment duration ≤ ends moment duration :=
  Nat.le_max_right _ _

theorem ends_eq {moment : Nat} {duration : Duration} (short : duration.nanos < 2 ^ 63 * 10 ^ 9)
    (fits : moment + duration.ceilMillis ≤ last) :
    ends moment duration = moment + duration.ceilMillis := by
  have due : dueAfter moment duration = moment + duration.ceilMillis :=
    (if_neg (Nat.not_le.mpr short)).trans (Nat.min_eq_left fits)
  unfold ends
  omega

end Timer

namespace Action

def waits : Action → Bool
  | sleep _ | awaitGate => true
  | cancelCaller | advanceClock _ | crash => false

/-- Whether actions that are done one after the other may take from one moment to another, if the
gate of their task opens at these moments only. -/
def Span (opens : Nat → Prop) : List Action → (start finish : Nat) → Prop
  | [], start, finish => finish = start
  | sleep millis :: rest, start, finish =>
    Span opens rest (Timer.ends start (.ofMillis millis)) finish
  | awaitGate :: rest, start, finish =>
    ∃ moment, start ≤ moment ∧ opens moment ∧ Span opens rest moment finish
  | cancelCaller :: rest, start, finish | advanceClock _ :: rest, start, finish =>
    Span opens rest start finish
  | crash :: _, _, _ => False

def end? : List Action → (start : Nat) → Option Nat
  | [], start => some start
  | sleep millis :: rest, start => end? rest (Timer.ends start (.ofMillis millis))
  | cancelCaller :: rest, start | advanceClock _ :: rest, start => end? rest start
  | awaitGate :: _, _ | crash :: _, _ => none

def Waiting (now since : Nat) : List Action → Option Timer → Prop
  | sleep millis :: _, some timer =>
    timer.due = Timer.dueAfter since (.ofMillis millis) ∧ since ≤ now ∧ now ≤ timer.due
  | awaitGate :: _, none => since ≤ now
  | _, none => since = now
  | _, some _ => False

/-- Whether a body cannot go on: its timer is not due yet, or its gate has no permit. -/
def Stuck (now permits : Nat) : List Action → Option Timer → Prop
  | sleep _ :: _, some timer => now < timer.due
  | awaitGate :: _, _ => permits = 0
  | _, _ => False

/-- Whether a body cannot go on from an action that it reached at a moment: its sleep lasts longer,
or its gate has no permit. -/
def Blocked (now permits since : Nat) : List Action → Prop
  | sleep millis :: _ => now < Timer.ends since (.ofMillis millis)
  | awaitGate :: _ => permits = 0
  | _ => False

variable {actions done rest : List Action} {start moment finish now since permits : Nat}
  {timer : Option Timer} {opens more : Nat → Prop}

theorem span_append : Span opens (done ++ rest) start finish ↔
    ∃ moment, Span opens done start moment ∧ Span opens rest moment finish := by
  induction done generalizing start with
  | nil => simp [Span]
  | cons action done inductionHypothesis =>
    cases action with
    | awaitGate =>
      simp only [List.cons_append, Span, inductionHypothesis]
      exact ⟨fun ⟨passed, later, opened, moment, first, second⟩ =>
          ⟨moment, ⟨passed, later, opened, first⟩, second⟩,
        fun ⟨moment, ⟨passed, later, opened, first⟩, second⟩ =>
          ⟨passed, later, opened, moment, first, second⟩⟩
    | crash => simp [Span]
    | sleep | cancelCaller | advanceClock => exact inductionHypothesis

theorem Span.mono (span : Span opens actions start finish) (within : ∀ now, opens now → more now) :
    Span more actions start finish := by
  induction actions generalizing start with
  | nil => exact span
  | cons action rest inductionHypothesis =>
    cases action with
    | awaitGate =>
      obtain ⟨moment, later, opened, span⟩ := span
      exact ⟨moment, later, within moment opened, inductionHypothesis span⟩
    | crash => exact span.elim
    | sleep | cancelCaller | advanceClock => exact inductionHypothesis span

/-- No body gets past a gate that never opens. -/
theorem Span.opened (span : Span opens actions start finish) (gated : awaitGate ∈ actions) :
    ∃ moment, opens moment := by
  induction actions generalizing start with
  | nil => cases gated
  | cons action rest inductionHypothesis =>
    cases action with
    | awaitGate =>
      obtain ⟨moment, -, opened, -⟩ := span
      exact ⟨moment, opened⟩
    | crash => exact span.elim
    | sleep | cancelCaller | advanceClock =>
      exact inductionHypothesis span ((List.mem_cons.mp gated).resolve_left (by simp))

theorem Span.le (span : Span opens actions start finish) : start ≤ finish := by
  induction actions generalizing start with
  | nil => exact Nat.le_of_eq (Eq.symm span)
  | cons action rest inductionHypothesis =>
    cases action with
    | sleep millis => exact Nat.le_trans (Timer.le_ends start _) (inductionHypothesis span)
    | awaitGate =>
      obtain ⟨moment, later, -, span⟩ := span
      exact Nat.le_trans later (inductionHypothesis span)
    | cancelCaller | advanceClock => exact inductionHypothesis span
    | crash => exact span.elim

theorem le_end {finish : Nat} (ends : end? actions start = some finish) : start ≤ finish := by
  induction actions generalizing start with
  | nil => exact Nat.le_of_eq (Option.some.inj ends)
  | cons action rest inductionHypothesis =>
    cases action with
    | sleep millis => exact Nat.le_trans (Timer.le_ends start _) (inductionHypothesis ends)
    | cancelCaller | advanceClock => exact inductionHypothesis ends
    | awaitGate | crash => cases ends

theorem end?_of_span (span : Span opens done start moment)
    (ends : end? (done ++ rest) start = some finish) : end? rest moment = some finish := by
  induction done generalizing start with
  | nil =>
    cases span
    exact ends
  | cons action done inductionHypothesis =>
    cases action with
    | sleep | cancelCaller | advanceClock => exact inductionHypothesis span ends
    | awaitGate | crash => cases ends

theorem span_eq_end (span : Span opens actions start moment)
    (ends : end? actions start = some finish) : moment = finish := by
  rw [← List.append_nil actions] at ends
  exact Option.some.inj (end?_of_span span ends)

/-- A body that cannot go on ends later. -/
theorem Blocked.lt_end (blocked : Blocked now permits since rest)
    (ends : end? rest since = some finish) : now < finish := by
  cases rest with
  | nil => exact blocked.elim
  | cons action rest =>
    cases action with
    | sleep millis => exact Nat.lt_of_lt_of_le blocked (le_end ends)
    | awaitGate => cases ends
    | cancelCaller | advanceClock | crash => exact blocked.elim

theorem waiting_now (actions : List Action) (now : Nat) : Waiting now now actions none := by
  cases actions with
  | nil => exact rfl
  | cons action rest =>
    cases action with
    | awaitGate => exact Nat.le_refl now
    | cancelCaller | advanceClock | sleep | crash => exact rfl

theorem Waiting.le (waiting : Waiting now since actions timer) : since ≤ now := by
  unfold Waiting at waiting
  split at waiting
  · exact waiting.2.1
  · exact waiting
  · exact Nat.le_of_eq waiting
  · exact waiting.elim

theorem Waiting.at_once {action : Action} (waiting : Waiting now since (action :: rest) timer)
    (atOnce : action.waits = false) : timer = none ∧ since = now := by
  cases timer with
  | none =>
    cases action with
    | sleep | awaitGate => cases atOnce
    | cancelCaller | advanceClock | crash => exact ⟨rfl, waiting⟩
  | some timer =>
    cases action with
    | sleep | awaitGate => cases atOnce
    | cancelCaller | advanceClock | crash => exact waiting.elim

theorem Stuck.blocked (stuck : Stuck now permits actions timer)
    (waiting : Waiting now since actions timer) : Blocked now permits since actions := by
  unfold Stuck at stuck
  split at stuck
  · obtain ⟨due, -⟩ := waiting
    rw [due] at stuck
    exact Nat.lt_of_lt_of_le stuck (Timer.dueAfter_le_ends _ _)
  · exact stuck
  · exact stuck.elim

/-- As time goes on, up to the timer of a body at most, the body goes on to wait; it cannot go on
either, unless its timer is due. -/
theorem Waiting.elapse (waiting : Waiting now since actions timer)
    (stuck : Stuck now permits actions timer) (later : now ≤ moment)
    (early : ∀ pending, timer = some pending → moment ≤ pending.due) :
    Waiting moment since actions timer ∧
      (Stuck moment permits actions timer ∨
        ∃ pending, timer = some pending ∧ pending.due ≤ moment) := by
  unfold Stuck at stuck
  split at stuck
  next pending =>
    obtain ⟨due, since, -⟩ := waiting
    have early := early pending rfl
    refine ⟨⟨due, Nat.le_trans since later, early⟩, ?_⟩
    rcases Nat.lt_or_eq_of_le early with before | now
    · exact .inl before
    · exact .inr ⟨pending, rfl, Nat.le_of_eq now.symm⟩
  next =>
    cases timer with
    | none => exact ⟨Nat.le_trans waiting later, .inl stuck⟩
    | some pending => exact waiting.elim
  next => exact stuck.elim

end Action

end Resilience
