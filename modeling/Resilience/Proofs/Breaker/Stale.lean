import Resilience.Proofs.Breaker.Permits

/-!
Stale permits. A permit is stale as soon as its breaker has changed since it was issued. What is
done with stale permits leaves no trace: without it a run ends with the same breaker, and nobody
else is answered differently.
-/

namespace Resilience.Breaker

def Step.stale (fence : Nat) : Step → Bool
  | record number _ _ _ | drop number => number < fence
  | acquire .. | reset => false

theorem record_of_ne {breaker : Breaker} {permit : Permit}
    (differs : breaker.generation ≠ permit.generation) (rule : BreakerRule) (now : Nat)
    (failed : Bool) : breaker.record permit rule now failed = (none, breaker) :=
  if_pos differs

theorem drop_of_ne {breaker : Breaker} {permit : Permit}
    (differs : breaker.generation ≠ permit.generation) : breaker.drop permit = breaker := by
  simp [Breaker.drop, differs]

namespace Usage

/-- The fence after a step. A permit was issued before the last transition or reset if its number
lies below the fence; the acquisition that makes a breaker half-open leaves its own permit above. -/
def fenceAfter (usage : Usage) (fence : Nat) (step : Step) : Nat :=
  if usage.changes step then usage.issued else fence

def fenceIn (usage : Usage) (fence : Nat) : List Step → Nat
  | [] => fence
  | step :: rest => (usage.after step).fenceIn (usage.fenceAfter fence step) rest

/-- The steps of a row with their answers, without all that is done with stale permits. -/
def heeded (usage : Usage) (fence : Nat) : List Step → List (Step × Answer)
  | [] => []
  | step :: rest =>
    let later := (usage.after step).heeded (usage.fenceAfter fence step) rest
    if step.stale fence then later else (step, usage.answer step) :: later

/-- What the fence of a usage separates: its permits of older generations from those of the
current one. -/
structure Fenced (usage : Usage) (fence : Nat) : Prop where
  coherent : usage.Coherent
  fence_le : fence ≤ usage.issued
  stale_iff : ∀ number permit, usage.permits.get? number = some permit →
    (number < fence ↔ usage.breaker.generation ≠ permit.generation)

/-- Usages that differ at most in their permits from below a fence. -/
structure Alike (fence : Nat) (first second : Usage) : Prop where
  breaker : first.breaker = second.breaker
  issued : first.issued = second.issued
  permits : ∀ number, fence ≤ number →
    first.permits.get? number = second.permits.get? number

variable {usage : Usage} {fence : Nat}

theorem live_after {step : Step} {number : Nat} {permit : Permit}
    (live : (usage.after step).permits.get? number = some permit) :
    usage.permits.get? number = some permit ∨
      number = usage.issued ∧ (usage.after step).breaker.generation = permit.generation := by
  cases step with
  | acquire rule now =>
    change (usage.issue (usage.breaker.acquire rule now)).2.permits.get? number = _ at live
    change _ ∨ _ ∧ (usage.issue (usage.breaker.acquire rule now)).2.breaker.generation = _
    have acquired := acquisition usage.breaker rule now
    generalize usage.breaker.acquire rule now = result at acquired live
    cases acquired with
    | early | busy => exact .inl live
    | closed | late | idle =>
      rcases Coherent.admit_get?.mp live with ⟨rfl, rfl⟩ | ⟨-, old⟩
      · exact .inr ⟨rfl, rfl⟩
      · exact .inl old
  | record handed rule now failed =>
    left
    unfold after at live
    cases found : usage.permits.get? handed with
    | none => rwa [perform_record_absent found] at live
    | some _ =>
      rw [perform_record found] at live
      exact (spend_get?.mp live).2
  | drop handed =>
    left
    unfold after at live
    cases found : usage.permits.get? handed with
    | none => rwa [perform_drop_absent found] at live
    | some _ =>
      rw [perform_drop found] at live
      exact (spend_get?.mp live).2
  | reset => exact .inl live

theorem issued_le_after (step : Step) : usage.issued ≤ (usage.after step).issued := by
  cases step with
  | acquire rule now =>
    change _ ≤ (usage.issue (usage.breaker.acquire rule now)).2.issued
    cases usage.breaker.acquire rule now with
    | mk result breaker => cases result <;> simp [issue]
  | record number rule now failed =>
    apply Nat.le_of_eq
    unfold after
    cases found : usage.permits.get? number with
    | none => rw [perform_record_absent found]
    | some _ =>
      rw [perform_record found]
      rfl
  | drop number =>
    apply Nat.le_of_eq
    unfold after
    cases found : usage.permits.get? number with
    | none => rw [perform_drop_absent found]
    | some _ =>
      rw [perform_drop found]
      rfl
  | reset => exact Nat.le_refl _

theorem live_run {steps : List Step} {number : Nat} {permit : Permit}
    (known : number < usage.issued)
    (live : (usage.run steps).permits.get? number = some permit) :
    usage.permits.get? number = some permit := by
  induction steps generalizing usage with
  | nil => exact live
  | cons step rest inductionHypothesis =>
    have before := inductionHypothesis (Nat.lt_of_lt_of_le known (issued_le_after step)) live
    rcases live_after before with old | ⟨new, -⟩
    · exact old
    · omega

/-- What an acquisition hands out is alive under the next number, and of the generation that the
breaker has then. -/
theorem live_of_acquired {rule : BreakerRule} {now : Nat} {permit : Permit}
    (answered : usage.answer (.acquire rule now) = .acquired (.ok permit)) :
    (usage.after (.acquire rule now)).permits.get? usage.issued = some permit ∧
      (usage.after (.acquire rule now)).breaker.generation = permit.generation ∧
        usage.issued < (usage.after (.acquire rule now)).issued := by
  change (usage.issue (usage.breaker.acquire rule now)).1 = _ at answered
  change (usage.issue (usage.breaker.acquire rule now)).2.permits.get? _ = _ ∧
    (usage.issue (usage.breaker.acquire rule now)).2.breaker.generation = _ ∧
      _ < (usage.issue (usage.breaker.acquire rule now)).2.issued
  have acquired := acquisition usage.breaker rule now
  generalize usage.breaker.acquire rule now = result at acquired answered
  cases acquired with
  | early | busy => simp [issue] at answered
  | closed | late | idle =>
    simp only [issue, Answer.acquired.injEq, Except.ok.injEq] at answered
    subst answered
    exact ⟨Coherent.admit_get?.mpr (.inl ⟨rfl, rfl⟩), rfl, Nat.lt_succ_self _⟩

theorem fenceAfter_of_eq (fence : Nat) {step : Step}
    (same : (usage.after step).breaker.generation = usage.breaker.generation) :
    usage.fenceAfter fence step = fence := by
  have generation := generation_after usage step
  unfold fenceAfter
  split at generation
  · omega
  next unchanged => rw [if_neg unchanged]

theorem fenceAfter_le (bound : fence ≤ usage.issued) (step : Step) :
    usage.fenceAfter fence step ≤ (usage.after step).issued := by
  have : usage.issued ≤ (usage.after step).issued := issued_le_after step
  unfold fenceAfter
  split <;> omega

theorem le_fenceAfter (bound : fence ≤ usage.issued) (step : Step) :
    fence ≤ usage.fenceAfter fence step := by
  unfold fenceAfter
  split
  · exact bound
  · exact Nat.le_refl _

theorem le_fenceIn (bound : fence ≤ usage.issued) (steps : List Step) :
    fence ≤ usage.fenceIn fence steps := by
  induction steps generalizing usage fence with
  | nil => exact Nat.le_refl _
  | cons step rest inductionHypothesis =>
    exact Nat.le_trans (le_fenceAfter bound step) (inductionHypothesis (fenceAfter_le bound step))

theorem fenceIn_append (earlier later : List Step) :
    usage.fenceIn fence (earlier ++ later) =
      (usage.run earlier).fenceIn (usage.fenceIn fence earlier) later := by
  induction earlier generalizing usage fence with
  | nil => rfl
  | cons step rest inductionHypothesis => exact inductionHypothesis

/-- The fence passes a permit at the first change after it was issued. -/
theorem lt_fenceIn_iff {number : Nat} (fresh : fence ≤ number) (known : number < usage.issued)
    (steps : List Step) :
    number < usage.fenceIn fence steps ↔ 0 < usage.changesIn steps := by
  induction steps generalizing usage fence with
  | nil =>
    simp only [fenceIn, changesIn, Nat.lt_irrefl, iff_false]
    omega
  | cons step rest inductionHypothesis =>
    rw [fenceIn, changesIn]
    cases changed : usage.changes step with
    | true =>
      have passed : usage.issued ≤ (usage.after step).fenceIn usage.issued rest :=
        le_fenceIn (issued_le_after step) rest
      simp only [fenceAfter, changed, ↓reduceIte]
      omega
    | false =>
      simp only [fenceAfter, changed, Bool.false_eq_true, ↓reduceIte, Nat.zero_add]
      exact inductionHypothesis fresh (Nat.lt_of_lt_of_le known (issued_le_after step))

namespace Fenced

theorem start : Fenced {} 0 where
  coherent := .start
  fence_le := Nat.le_refl _
  stale_iff := by simp

theorem after (fenced : usage.Fenced fence) (step : Step) :
    (usage.after step).Fenced (usage.fenceAfter fence step) where
  coherent := fenced.coherent.after step
  fence_le := fenceAfter_le fenced.fence_le step
  stale_iff := by
    intro number permit live
    have generation := generation_after usage step
    have bound := fenced.fence_le
    rcases live_after live with old | ⟨rfl, current⟩
    · have earlier := fenced.stale_iff number permit old
      have known := fenced.coherent.issued number permit old
      have older := fenced.coherent.old number permit old
      cases changed : usage.changes step with
      | true =>
        simp only [fenceAfter, changed, ↓reduceIte] at generation ⊢
        omega
      | false =>
        simp only [fenceAfter, changed, Bool.false_eq_true, ↓reduceIte] at generation ⊢
        omega
    · unfold fenceAfter
      split <;> omega

theorem run (fenced : usage.Fenced fence) (steps : List Step) :
    (usage.run steps).Fenced (usage.fenceIn fence steps) := by
  induction steps generalizing usage fence with
  | nil => exact fenced
  | cons step rest inductionHypothesis => exact inductionHypothesis (fenced.after step)

end Fenced

namespace Alike

variable {first second : Usage}

theorem refl (fence : Nat) (usage : Usage) : Alike fence usage usage :=
  ⟨rfl, rfl, fun _ _ => rfl⟩

theorem mono {later : Nat} (alike : Alike fence first second) (bound : fence ≤ later) :
    Alike later first second :=
  { alike with permits := fun number above => alike.permits number (Nat.le_trans bound above) }

theorem trans {third : Usage} (one : Alike fence first second)
    (two : Alike fence second third) : Alike fence first third where
  breaker := one.breaker.trans two.breaker
  issued := one.issued.trans two.issued
  permits number above := (one.permits number above).trans (two.permits number above)

theorem spend (alike : Alike fence first second) (number : Nat) (breaker : Breaker) :
    Alike fence (first.spend number breaker) (second.spend number breaker) where
  breaker := rfl
  issued := alike.issued
  permits := by
    intro other above
    simp only [Usage.spend, Table.get?_erase, alike.permits other above]

theorem issue (alike : Alike fence first second) (result : Except Duration Permit × Breaker) :
    (first.issue result).1 = (second.issue result).1 ∧
      Alike fence (first.issue result).2 (second.issue result).2 := by
  obtain ⟨outcome, breaker⟩ := result
  cases outcome with
  | error retryAfter => exact ⟨rfl, rfl, alike.issued, alike.permits⟩
  | ok permit =>
    refine ⟨rfl, rfl, congrArg (· + 1) alike.issued, ?_⟩
    intro number above
    simp only [Usage.issue, Table.get?_set, alike.issued, alike.permits number above]

/-- A step that hands in no stale permit is answered the same in both usages. -/
theorem perform (alike : Alike fence first second) {step : Step}
    (fresh : step.stale fence = false) :
    first.answer step = second.answer step ∧
      Alike fence (first.after step) (second.after step) := by
  unfold answer Usage.after
  cases step with
  | acquire rule now =>
    simp only [Usage.perform, alike.breaker]
    exact alike.issue _
  | record number rule now failed =>
    have same := alike.permits number (by simpa [Step.stale] using fresh)
    cases live : second.permits.get? number with
    | none =>
      rw [perform_record_absent live, perform_record_absent (same.trans live)]
      exact ⟨rfl, alike⟩
    | some permit =>
      rw [perform_record live, perform_record (same.trans live), alike.breaker]
      exact ⟨rfl, alike.spend number _⟩
  | drop number =>
    have same := alike.permits number (by simpa [Step.stale] using fresh)
    cases live : second.permits.get? number with
    | none =>
      rw [perform_drop_absent live, perform_drop_absent (same.trans live)]
      exact ⟨rfl, alike⟩
    | some permit =>
      rw [perform_drop live, perform_drop (same.trans live), alike.breaker]
      exact ⟨rfl, alike.spend number _⟩
  | reset => exact ⟨rfl, congrArg Breaker.reset alike.breaker, alike.issued, alike.permits⟩

end Alike

/-- A step with a stale permit uses that permit up and does nothing else. -/
theorem Fenced.stale (fenced : usage.Fenced fence) {step : Step}
    (stale : step.stale fence = true) :
    Alike fence (usage.after step) usage := by
  -- The permit is gone afterwards, but it lies below the fence.
  have spent {number : Nat} (below : number < fence) :
      Alike fence (usage.spend number usage.breaker) usage := by
    refine ⟨rfl, rfl, fun other above => ?_⟩
    rw [spend, Table.get?_erase, if_neg (by omega)]
  unfold Usage.after
  cases step with
  | acquire rule now => cases stale
  | reset => cases stale
  | record number rule now failed =>
    have below : number < fence := by simpa [Step.stale] using stale
    cases live : usage.permits.get? number with
    | none =>
      rw [perform_record_absent live]
      exact .refl fence usage
    | some permit =>
      have differs := (fenced.stale_iff number permit live).mp below
      rw [perform_record live, record_of_ne differs]
      exact spent below
  | drop number =>
    have below : number < fence := by simpa [Step.stale] using stale
    cases live : usage.permits.get? number with
    | none =>
      rw [perform_drop_absent live]
      exact .refl fence usage
    | some permit =>
      have differs := (fenced.stale_iff number permit live).mp below
      rw [perform_drop live, drop_of_ne differs]
      exact spent below

/-- The run without stale steps, beside the whole run. -/
theorem Fenced.heeded (fenced : usage.Fenced fence) {pruned : Usage}
    (alike : Alike fence usage pruned) (steps : List Step) :
    pruned.answers ((usage.heeded fence steps).map Prod.fst) =
        (usage.heeded fence steps).map Prod.snd ∧
      Alike (usage.fenceIn fence steps) (usage.run steps)
        (pruned.run ((usage.heeded fence steps).map Prod.fst)) := by
  induction steps generalizing usage fence pruned with
  | nil => exact ⟨rfl, alike⟩
  | cons step rest inductionHypothesis =>
    rw [Usage.heeded]
    cases stale : step.stale fence with
    | true =>
      have same := fenced.stale stale
      have still := fenceAfter_of_eq fence (congrArg Breaker.generation same.breaker)
      have apart : Alike (usage.fenceAfter fence step) (usage.after step) pruned := by
        rw [still]
        exact same.trans alike
      exact inductionHypothesis (fenced.after step) apart
    | false =>
      obtain ⟨answered, together⟩ := alike.perform stale
      obtain ⟨told, ends⟩ := inductionHypothesis (fenced.after step)
        (together.mono (le_fenceAfter fenced.fence_le step))
      refine ⟨?_, ends⟩
      simp only [Bool.false_eq_true, ↓reduceIte, List.map_cons, answers, told, answered]

end Usage

/-- A permit is inert once the breaker has changed after it was issued, which is when the fence
has passed its number: neither of its outcomes is answered by a transition, and recording and
dropping it leave the whole breaker as it is, whatever is asked meanwhile under whatever rules and
clocks. Hence a run without all that is done with stale permits gives every other step the same
answer and ends with the same breaker, and runs that differ only in such steps cannot be told
apart. -/
theorem stale_permits_are_inert :
    (∀ before rule now permit later,
      (Usage.run {} before).answer (.acquire rule now) = .acquired (.ok permit) →
        let number := (Usage.run {} before).issued
        let issued := (Usage.run {} before).after (.acquire rule now)
        let usage := issued.run later
        (number < Usage.fenceIn {} 0 (before ++ .acquire rule now :: later) ↔
            0 < issued.changesIn later) ∧
          (0 < issued.changesIn later →
            (∀ rule now failed,
              usage.breaker.record permit rule now failed = (none, usage.breaker)) ∧
            usage.breaker.drop permit = usage.breaker ∧
            ∀ held, usage.permits.get? number = some held →
              held = permit ∧
              (∀ rule now failed, usage.perform (.record number rule now failed) =
                (.recorded none, usage.spend number usage.breaker)) ∧
              usage.perform (.drop number) = (.done, usage.spend number usage.breaker))) ∧
    (∀ steps,
      let heeded := Usage.heeded {} 0 steps
      Usage.answers {} (heeded.map Prod.fst) = heeded.map Prod.snd ∧
        (Usage.run {} (heeded.map Prod.fst)).breaker = (Usage.run {} steps).breaker) ∧
    (∀ first second,
      (Usage.heeded {} 0 first).map Prod.fst = (Usage.heeded {} 0 second).map Prod.fst →
        (Usage.heeded {} 0 first).map Prod.snd = (Usage.heeded {} 0 second).map Prod.snd ∧
          (Usage.run {} first).breaker = (Usage.run {} second).breaker) := by
  have pruned : ∀ steps,
      Usage.answers {} ((Usage.heeded {} 0 steps).map Prod.fst) =
          (Usage.heeded {} 0 steps).map Prod.snd ∧
        (Usage.run {} ((Usage.heeded {} 0 steps).map Prod.fst)).breaker =
          (Usage.run {} steps).breaker := by
    intro steps
    obtain ⟨told, ends⟩ := Usage.Fenced.start.heeded (.refl 0 {}) steps
    exact ⟨told, ends.breaker.symm⟩
  refine ⟨?_, pruned, ?_⟩
  · intro before rule now permit later answered number issued usage
    obtain ⟨live, current, known⟩ := Usage.live_of_acquired answered
    have bound := (Usage.Fenced.start.run before).fence_le
    have fresh : (Usage.run {} before).fenceAfter (Usage.fenceIn {} 0 before)
        (.acquire rule now) ≤ number := by
      unfold Usage.fenceAfter
      split
      · exact Nat.le_refl _
      · exact bound
    refine ⟨?_, fun changed => ?_⟩
    · rw [Usage.fenceIn_append]
      exact Usage.lt_fenceIn_iff fresh known later
    · have generation := Usage.generation_run issued later
      have differs : usage.breaker.generation ≠ permit.generation := by
        change (issued.run later).breaker.generation ≠ _
        change issued.breaker.generation = _ at current
        omega
      refine ⟨record_of_ne differs, drop_of_ne differs, fun held alive => ?_⟩
      obtain rfl : held = permit :=
        Option.some.inj ((Usage.live_run known alive).symm.trans live)
      refine ⟨rfl, fun rule now failed => ?_, ?_⟩
      · rw [Usage.perform_record alive, record_of_ne differs]
      · rw [Usage.perform_drop alive, drop_of_ne differs]
  · intro first second same
    refine ⟨?_, ?_⟩
    · rw [← (pruned first).1, same, (pruned second).1]
    · rw [← (pruned first).2, same, (pruned second).2]

/-- A probe from before a reset comes back while another probe is on its way. -/
theorem stale_probe_is_inert :
    let rule : BreakerRule := ⟨.millis 10, 1, 0.5, 2⟩
    let before := [Step.acquire rule 0, .record 0 rule 0 true]
    let later := [Step.reset, .acquire rule 10, .record 2 rule 10 true, .acquire rule 20]
    let permit : Permit := ⟨2, true, some .halfOpened⟩
    let usage := (Usage.run {} (before ++ [.acquire rule 10])).run later
    (usage.breaker.state = .halfOpen ∧ usage.breaker.probing = true ∧
        usage.permits.get? 1 = some permit) ∧
      usage.breaker.record permit rule 20 true = (none, usage.breaker) ∧
        usage.breaker.drop permit = usage.breaker := by
  intro rule before later permit usage
  have opened : (Usage.run {} before).breaker = { state := .open, generation := 1 } := by decide
  have answered : (Usage.run {} before).answer (.acquire rule 10) = .acquired (.ok permit) := by
    change ((Usage.run {} before).issue ((Usage.run {} before).breaker.acquire rule 10)).1 = _
    have late : ¬10 - 0 < rule.delay.toDuration.millis := by decide
    rw [opened]
    simp only [Breaker.acquire, late, ↓reduceIte, Usage.issue, permit]
  have inert := (stale_permits_are_inert.1 before rule 10 permit later answered).2 (by decide)
  exact ⟨by decide, inert.1 rule 20 true, inert.2.1⟩

end Resilience.Breaker
