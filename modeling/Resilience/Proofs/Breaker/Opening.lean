import Resilience.Proofs.Breaker.Recovery

/-!
How long a breaker stays open. Its delay runs from the last time that it opened, by the clock that
was read then. The delay is counted in whole milliseconds, and what is above them is cut off: a
delay of whole milliseconds is kept to the full, and any other one ends within its last millisecond.
-/

namespace Resilience.Breaker

namespace Usage

def opening? (usage : Usage) (step : Step) : Option Nat :=
  match step, (usage.answer step).transition with
  | .record _ _ now _, some (.opened ..) => some now
  | _, _ => none

/-- The moments at which a row of steps opens the breaker, in order. -/
def openings (usage : Usage) : List Step → List Nat
  | [] => []
  | step :: rest => (usage.opening? step).toList ++ (usage.after step).openings rest

/-- Whether a caller of a breaker that opened at a moment is refused and leaves no trace. The wait
that it is told ends within the last millisecond of the delay. -/
def Refuses (usage : Usage) (rule : BreakerRule) (opened now : Nat) : Prop :=
  ∃ wait, usage.perform (.acquire rule now) = (.acquired (.error wait), usage) ∧
    (now - opened) * 10 ^ 6 + wait.nanos ≤ rule.delay.toDuration.nanos ∧
      rule.delay.toDuration.nanos < (now - opened + 1) * 10 ^ 6 + wait.nanos

/-- Whether a caller gets the first probe of a breaker that becomes half-open with it. -/
def StartsProbing (usage : Usage) (rule : BreakerRule) (now : Nat) : Prop :=
  ∃ permit, usage.answer (.acquire rule now) = .acquired (.ok permit) ∧ permit.probe = true ∧
    (usage.after (.acquire rule now)).breaker.state = .halfOpen

variable {usage : Usage} {rule : BreakerRule}

theorem opening_of_open {step : Step} (state : (usage.after step).breaker.state = .open) :
    usage.opening? step = some (usage.after step).breaker.openedAt ∨
      usage.opening? step = none ∧ usage.breaker.state = .open ∧
        (usage.after step).breaker.openedAt = usage.breaker.openedAt := by
  cases step with
  | acquire rule now =>
    right
    change (usage.issue (usage.breaker.acquire rule now)).2.breaker.state = .open at state
    change _ ∧ _ ∧ (usage.issue (usage.breaker.acquire rule now)).2.breaker.openedAt = _
    have acquired := acquisition usage.breaker rule now
    generalize usage.breaker.acquire rule now = result at acquired state ⊢
    cases acquired with
    | closed other => cases other.symm.trans state
    | early other => exact ⟨rfl, other, rfl⟩
    | late => cases state
    | busy other => cases other.symm.trans state
    | idle other => cases other.symm.trans state
  | record number rule now failed =>
    unfold opening? answer
    unfold after at state ⊢
    cases live : usage.permits.get? number with
    | none =>
      rw [perform_record_absent live] at state ⊢
      exact .inr ⟨rfl, state, rfl⟩
    | some permit =>
      rw [perform_record live] at state ⊢
      have recorded := recording usage.breaker permit rule now failed
      generalize usage.breaker.record permit rule now failed = result at recorded state ⊢
      cases recorded with
      | stale => exact .inr ⟨rfl, state, rfl⟩
      | kept _ other => cases other.symm.trans state
      | tripped => exact .inl rfl
      | reopened => exact .inl rfl
      | counted _ other => cases other.symm.trans state
      | recovered => cases state
      | opened _ other => exact .inr ⟨rfl, other, rfl⟩
  | drop number =>
    right
    unfold after at state ⊢
    cases live : usage.permits.get? number with
    | none =>
      rw [perform_drop_absent live] at state ⊢
      exact ⟨rfl, state, rfl⟩
    | some permit =>
      rw [perform_drop live] at state ⊢
      have same := (drop_undisturbed usage.breaker permit).state
      refine ⟨rfl, same.symm.trans state, ?_⟩
      unfold spend Breaker.drop
      split <;> rfl
  | reset => cases state

theorem last_opening {steps : List Step} {last : Option Nat}
    (known : usage.breaker.state = .open → last = some usage.breaker.openedAt)
    (state : (usage.run steps).breaker.state = .open) :
    (usage.openings steps).getLast?.or last = some (usage.run steps).breaker.openedAt := by
  induction steps generalizing usage last with
  | nil => exact known state
  | cons step rest inductionHypothesis =>
    have next : (usage.after step).breaker.state = .open →
        (usage.opening? step).or last = some (usage.after step).breaker.openedAt := by
      intro opened
      rcases opening_of_open opened with here | ⟨none, before, same⟩
      · rw [here, Option.some_or]
      · rw [none, Option.none_or, known before, same]
    have later := inductionHypothesis next state
    rw [openings, List.getLast?_append, Option.or_assoc]
    cases opening : usage.opening? step with
    | none =>
      rw [opening, Option.none_or] at later
      exact later
    | some moment =>
      rw [opening] at later
      exact later

/-- A caller is refused as long as a whole millisecond of the delay is left. -/
theorem refuses_of_early {now : Nat} (state : usage.breaker.state = .open)
    (early : (now - usage.breaker.openedAt + 1) * 10 ^ 6 ≤ rule.delay.toDuration.nanos) :
    usage.Refuses rule usage.breaker.openedAt now := by
  have waits : now - usage.breaker.openedAt < rule.delay.toDuration.nanos / 10 ^ 6 := by omega
  refine ⟨_, (perform_open state rule now).trans (if_pos waits), ?_⟩
  rw [nanos_ofMillis_sub]
  omega

theorem startsProbing_of_late {now : Nat} (state : usage.breaker.state = .open)
    (late : rule.delay.toDuration.nanos < (now - usage.breaker.openedAt + 1) * 10 ^ 6) :
    usage.StartsProbing rule now := by
  have elapsed : ¬now - usage.breaker.openedAt < rule.delay.toDuration.nanos / 10 ^ 6 := by omega
  unfold StartsProbing answer after
  rw [perform_open state, if_neg elapsed]
  exact ⟨_, rfl, rfl, rfl⟩

theorem Refuses.not_startsProbing {opened now : Nat} (refuses : usage.Refuses rule opened now) :
    ¬usage.StartsProbing rule now := by
  obtain ⟨wait, refused, -⟩ := refuses
  rintro ⟨permit, admitted, -⟩
  rw [answer, refused] at admitted
  cases admitted

end Usage

/-- In every reachable state in which a breaker is open, its delay runs from the moment at which
it opened last. A caller is refused, and nothing changes, exactly as long as a whole millisecond of
the delay is left, and the first one after that gets the probe. So no probe comes before the delay
has passed if that is a number of whole milliseconds, and else none comes a millisecond early. A
clock that was set back before the opening counts as one that has not moved since. -/
theorem refused_until_last_millisecond (steps : List Step) (rule : BreakerRule)
    (state : (Usage.run {} steps).breaker.state = .open) :
    let usage := Usage.run {} steps
    let delay := rule.delay.toDuration.nanos
    ∃ opened, (Usage.openings {} steps).getLast? = some opened ∧ ∀ now,
      (usage.Refuses rule opened now ↔ (now - opened + 1) * 10 ^ 6 ≤ delay) ∧
      (usage.StartsProbing rule now ↔ delay < (now - opened + 1) * 10 ^ 6) ∧
      (10 ^ 6 ∣ delay → (now - opened) * 10 ^ 6 < delay → usage.Refuses rule opened now) := by
  intro usage delay
  have unopened : ({} : Usage).breaker.state = .open → none = some ({} : Usage).breaker.openedAt :=
    nofun
  have opening := Usage.last_opening unopened state
  rw [Option.or_none] at opening
  refine ⟨usage.breaker.openedAt, opening, fun now => ?_⟩
  have refuses : (now - usage.breaker.openedAt + 1) * 10 ^ 6 ≤ delay →
      usage.Refuses rule usage.breaker.openedAt now := Usage.refuses_of_early state
  have starts : delay < (now - usage.breaker.openedAt + 1) * 10 ^ 6 →
      usage.StartsProbing rule now := Usage.startsProbing_of_late state
  refine ⟨⟨fun refused => ?_, refuses⟩, ⟨fun admitted => ?_, starts⟩, fun whole before => ?_⟩
  · exact Nat.not_lt.mp fun late => refused.not_startsProbing (starts late)
  · exact Nat.not_le.mp fun early => (refuses early).not_startsProbing admitted
  · obtain ⟨millis, same⟩ := whole
    have early : (now - usage.breaker.openedAt + 1) * 10 ^ 6 ≤ delay := by omega
    exact refuses early

/-- A breaker that is open for a millisecond and a half refuses the caller of its first
millisecond. -/
theorem refused_until_last_millisecond_once :
    let rule : BreakerRule := { delay := ⟨1500, .micros⟩, volume := 1 }
    let usage := Usage.run {} [.acquire rule 0, .record 0 rule 0 true]
    usage.breaker.state = .open ∧ usage.Refuses rule 0 0 := by
  intro rule usage
  have state : usage.breaker.state = .open := by decide
  obtain ⟨opened, last, answers⟩ :=
    refused_until_last_millisecond [.acquire rule 0, .record 0 rule 0 true] rule state
  have start : (Usage.openings {} [.acquire rule 0, .record 0 rule 0 true]).getLast? = some 0 := by
    decide
  cases start.symm.trans last
  exact ⟨state, (answers 0).1.mpr (by decide)⟩

/-- The same breaker gives its probe away after one millisecond, half a millisecond before the
delay has passed. -/
theorem probed_half_a_millisecond_early :
    let rule : BreakerRule := { delay := ⟨1500, .micros⟩, volume := 1 }
    let usage := Usage.run {} [.acquire rule 0, .record 0 rule 0 true]
    usage.breaker.state = .open ∧
      (Usage.openings {} [.acquire rule 0, .record 0 rule 0 true]).getLast? = some 0 ∧
      (1 - 0) * 10 ^ 6 < rule.delay.toDuration.nanos ∧
      usage.answer (.acquire rule 1) = .acquired (.ok ⟨2, true, some .halfOpened⟩) ∧
        (usage.after (.acquire rule 1)).breaker.state = .halfOpen := by
  exact ⟨by decide, by decide, by decide, rfl, by decide⟩

end Resilience.Breaker
