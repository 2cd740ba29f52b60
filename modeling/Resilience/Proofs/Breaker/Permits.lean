import Mathlib.Logic.ExistsUnique
import Resilience.Proofs.Breaker.Usage

/-!
Permits and their breaker agree: in every run a breaker knows exactly whether a probe is on its
way, and only the permits of its generation count.
-/

namespace Resilience.Breaker

namespace Usage

/-- Whether the live permit of a number is a probe of the current generation. -/
def Probes (usage : Usage) (number : Nat) : Prop :=
  ∃ permit, usage.permits.get? number = some permit ∧
    permit.probe = true ∧ permit.generation = usage.breaker.generation

/-- What the fields of a breaker and its live permits tell of each other. -/
structure Coherent (usage : Usage) : Prop where
  issued : ∀ number permit, usage.permits.get? number = some permit → number < usage.issued
  old : ∀ number permit, usage.permits.get? number = some permit →
    permit.generation ≤ usage.breaker.generation
  current : ∀ number permit, usage.permits.get? number = some permit →
    permit.generation = usage.breaker.generation →
      usage.breaker.state = if permit.probe then .halfOpen else .closed
  probing : usage.breaker.probing = true ↔ ∃ number, usage.Probes number
  single : ∀ first second, usage.Probes first → usage.Probes second → first = second
  window : usage.breaker.state ≠ .closed → usage.breaker.window = []
  successes : usage.breaker.state ≠ .halfOpen → usage.breaker.successes = 0
  successes_lt : usage.breaker.successes < 2 ^ 32 - 1

theorem spend_get? {usage : Usage} {number other : Nat} {breaker : Breaker} {permit : Permit} :
    (usage.spend number breaker).permits.get? other = some permit ↔
      number ≠ other ∧ usage.permits.get? other = some permit := by
  rw [spend, Table.get?_erase]
  split <;> simp_all

namespace Coherent

variable {usage : Usage}

theorem start : Coherent {} where
  issued := by simp
  old := by simp
  current := by simp
  probing := by simp [Probes]
  single := by simp [Probes]
  window := fun _ => rfl
  successes := fun _ => rfl
  successes_lt := by decide

theorem not_probe (coherent : usage.Coherent) {number : Nat} {permit : Permit}
    (live : usage.permits.get? number = some permit)
    (current : permit.generation = usage.breaker.generation)
    (state : usage.breaker.state = .closed) : permit.probe = false := by
  have agrees := coherent.current number permit live current
  cases probe : permit.probe with
  | false => rfl
  | true => simp [probe, state] at agrees

theorem probe (coherent : usage.Coherent) {number : Nat} {permit : Permit}
    (live : usage.permits.get? number = some permit)
    (current : permit.generation = usage.breaker.generation)
    (state : usage.breaker.state = .halfOpen) : permit.probe = true := by
  have agrees := coherent.current number permit live current
  cases probe : permit.probe with
  | false => simp [probe, state] at agrees
  | true => rfl

theorem not_open (coherent : usage.Coherent) {number : Nat} {permit : Permit}
    (live : usage.permits.get? number = some permit)
    (current : permit.generation = usage.breaker.generation) :
    usage.breaker.state ≠ .open := by
  rw [coherent.current number permit live current]
  split <;> simp

theorem renew (coherent : usage.Coherent) (breaker : Breaker)
    (generation : breaker.generation = usage.breaker.generation + 1)
    (probing : breaker.probing = false) (window : breaker.window = [])
    (successes : breaker.successes = 0) : Coherent { usage with breaker } := by
  have stale : ∀ number permit, usage.permits.get? number = some permit →
      permit.generation ≠ breaker.generation := by
    intro number permit live same
    have := coherent.old number permit live
    omega
  have none : ∀ number, ¬Probes { usage with breaker } number := fun number probes => by
    obtain ⟨permit, live, _, same⟩ := probes
    exact stale number permit live same
  exact
    { issued := coherent.issued
      old := fun number permit live => by
        have := coherent.old number permit live
        simp only [generation]
        omega
      current := fun number permit live same => absurd same (stale number permit live)
      probing := by simp [probing, none]
      single := fun first _ probes => absurd probes (none first)
      window := fun _ => window
      successes := fun _ => successes
      successes_lt := by simp [successes] }

/-- A permit that is no probe of the current generation can go without a trace. -/
theorem forget (coherent : usage.Coherent) {number : Nat} (other : ¬usage.Probes number) :
    (usage.spend number usage.breaker).Coherent := by
  have probes : ∀ found, (usage.spend number usage.breaker).Probes found ↔ usage.Probes found := by
    intro found
    constructor
    · rintro ⟨permit, live, rest⟩
      exact ⟨permit, (spend_get?.mp live).2, rest⟩
    · rintro ⟨permit, live, rest⟩
      have differs : number ≠ found := fun same => other (same ▸ ⟨permit, live, rest⟩)
      exact ⟨permit, spend_get?.mpr ⟨differs, live⟩, rest⟩
  exact
    { issued := fun found permit live => coherent.issued found permit (spend_get?.mp live).2
      old := fun found permit live => coherent.old found permit (spend_get?.mp live).2
      current := fun found permit live => coherent.current found permit (spend_get?.mp live).2
      probing := coherent.probing.trans (exists_congr fun found => (probes found).symm)
      single := fun first second one two =>
        coherent.single first second ((probes first).mp one) ((probes second).mp two)
      window := coherent.window
      successes := coherent.successes
      successes_lt := coherent.successes_lt }

theorem giveBack (coherent : usage.Coherent) {number : Nat} (probes : usage.Probes number) :
    (usage.spend number { usage.breaker with probing := false }).Coherent := by
  have none : ∀ found,
      ¬(usage.spend number { usage.breaker with probing := false }).Probes found := by
    rintro found ⟨permit, live, rest⟩
    have ⟨other, live⟩ := spend_get?.mp live
    exact other (coherent.single number found probes ⟨permit, live, rest⟩)
  exact
    { issued := fun found permit live => coherent.issued found permit (spend_get?.mp live).2
      old := fun found permit live => coherent.old found permit (spend_get?.mp live).2
      current := fun found permit live => coherent.current found permit (spend_get?.mp live).2
      probing := iff_of_false Bool.false_ne_true fun ⟨found, known⟩ => none found known
      single := fun first _ one => absurd one (none first)
      window := coherent.window
      successes := coherent.successes
      successes_lt := coherent.successes_lt }

theorem admit_get? {number : Nat} {permit found : Permit} {breaker : Breaker} :
    (usage.issue (.ok permit, breaker)).2.permits.get? number = some found ↔
      usage.issued = number ∧ permit = found ∨
        usage.issued ≠ number ∧ usage.permits.get? number = some found := by
  simp only [issue, Table.get?_set]
  split <;> simp_all

theorem fresh (coherent : usage.Coherent) {number : Nat} {permit : Permit}
    (live : usage.permits.get? number = some permit) : usage.issued ≠ number := by
  have := coherent.issued number permit live
  omega

/-- A permit of the current generation fits in if it belongs to the state and, as a probe, is
the only one. -/
theorem issue (coherent : usage.Coherent) (permit : Permit) {probing : Bool}
    (generation : permit.generation = usage.breaker.generation)
    (state : usage.breaker.state = if permit.probe then .halfOpen else .closed)
    (alone : permit.probe = true → usage.breaker.probing = false)
    (probing_eq : probing = (usage.breaker.probing || permit.probe)) :
    (usage.issue (.ok permit, { usage.breaker with probing })).2.Coherent := by
  have probes : ∀ number,
      (usage.issue (.ok permit, { usage.breaker with probing })).2.Probes number ↔
        usage.issued = number ∧ permit.probe = true ∨ usage.Probes number := by
    intro number
    constructor
    · rintro ⟨found, live, probe, same⟩
      rcases admit_get?.mp live with ⟨rfl, rfl⟩ | ⟨-, live⟩
      · exact .inl ⟨rfl, probe⟩
      · exact .inr ⟨found, live, probe, same⟩
    · rintro (⟨rfl, probe⟩ | ⟨found, live, rest⟩)
      · exact ⟨permit, admit_get?.mpr (.inl ⟨rfl, rfl⟩), probe, generation⟩
      · exact ⟨found, admit_get?.mpr (.inr ⟨coherent.fresh live, live⟩), rest⟩
  have nobody : permit.probe = true → ∀ number, ¬usage.Probes number := fun probe number known => by
    have := coherent.probing.mpr ⟨number, known⟩
    rw [alone probe] at this
    contradiction
  refine ⟨?_, ?_, ?_, ?_, ?_, coherent.window, coherent.successes, coherent.successes_lt⟩
  · intro number found live
    rcases admit_get?.mp live with ⟨rfl, -⟩ | ⟨-, live⟩
    · exact Nat.lt_succ_self _
    · exact Nat.lt_succ_of_lt (coherent.issued number found live)
  · intro number found live
    rcases admit_get?.mp live with ⟨-, rfl⟩ | ⟨-, live⟩
    · exact Nat.le_of_eq generation
    · exact coherent.old number found live
  · intro number found live same
    rcases admit_get?.mp live with ⟨-, rfl⟩ | ⟨-, live⟩
    · exact state
    · exact coherent.current number found live same
  · simp only [probes, exists_or, ← coherent.probing]
    simp [Usage.issue, probing_eq, or_comm]
  · intro first second one two
    rcases (probes first).mp one with ⟨rfl, probe⟩ | one
    · rcases (probes second).mp two with ⟨rfl, -⟩ | two
      · rfl
      · exact absurd two (nobody probe second)
    · rcases (probes second).mp two with ⟨-, probe⟩ | two
      · exact absurd one (nobody probe first)
      · exact coherent.single first second one two

theorem acquire (coherent : usage.Coherent) (rule : BreakerRule) (now : Nat) :
    (usage.after (.acquire rule now)).Coherent := by
  change (usage.issue (usage.breaker.acquire rule now)).2.Coherent
  have acquired := acquisition usage.breaker rule now
  generalize usage.breaker.acquire rule now = result at acquired ⊢
  cases acquired with
  | closed state =>
    exact coherent.issue ⟨usage.breaker.generation, false, none⟩ rfl state
      (fun probe => Bool.noConfusion probe) (Bool.or_false _).symm
  | early state early => exact coherent
  | late state late =>
    -- A new generation that nobody probes yet, and then its first probe.
    have renewed := coherent.renew
      { usage.breaker with
        state := .halfOpen, successes := 0, probing := false
        generation := usage.breaker.generation + 1 }
      rfl rfl (coherent.window (by simp [state])) rfl
    exact renewed.issue ⟨usage.breaker.generation + 1, true, some .halfOpened⟩ rfl rfl
      (fun _ => rfl) (Bool.or_true _).symm
  | busy state probing => exact coherent
  | idle state idle =>
    exact coherent.issue ⟨usage.breaker.generation, true, none⟩ rfl state (fun _ => idle)
      (Bool.or_true _).symm

theorem record (coherent : usage.Coherent) (number : Nat) (rule : BreakerRule) (now : Nat)
    (failed : Bool) : (usage.after (.record number rule now failed)).Coherent := by
  unfold after
  cases live : usage.permits.get? number with
  | none =>
    rw [perform_record_absent live]
    exact coherent
  | some permit =>
    rw [perform_record live]
    have recorded := recording usage.breaker permit rule now failed
    generalize usage.breaker.record permit rule now failed = result at recorded ⊢
    -- After a new generation the permit is as stale as all others.
    have renewed : ∀ breaker : Breaker, breaker.generation = usage.breaker.generation + 1 →
        breaker.probing = false → breaker.window = [] → breaker.successes = 0 →
          (usage.spend number breaker).Coherent := by
      intro breaker generation probing window successes
      apply (coherent.renew breaker generation probing window successes).forget
      rintro ⟨found, found_live, -, same⟩
      have old := coherent.old number found found_live
      simp only at same
      omega
    cases recorded with
    | stale stale =>
      apply coherent.forget
      rintro ⟨found, found_live, -, same⟩
      rw [live, Option.some.injEq] at found_live
      exact stale (found_live ▸ same.symm)
    | kept current state few =>
      have call : permit.probe = false := coherent.not_probe live current.symm state
      have forgotten : (usage.spend number usage.breaker).Coherent := coherent.forget (by
        rintro ⟨found, found_live, probe, -⟩
        rw [live, Option.some.injEq] at found_live
        rw [← found_live, call] at probe
        contradiction)
      simp only [call, Bool.not_false, Bool.and_true]
      exact { forgotten with window := fun other => absurd state other }
    | tripped current state many => exact renewed _ rfl rfl rfl rfl
    | reopened current state failure => exact renewed _ rfl rfl rfl rfl
    | counted current state success below =>
      have probe : permit.probe = true := coherent.probe live current.symm state
      have given := coherent.giveBack ⟨permit, live, probe, current.symm⟩
      simp only [probe, Bool.not_true, Bool.and_false]
      have := rule.successThreshold.toNat_lt
      exact
        { given with
          successes := fun other => absurd state other
          successes_lt := by
            simp only [spend]
            omega }
    | recovered current state success reached =>
      have probe : permit.probe = true := coherent.probe live current.symm state
      simp only [probe, Bool.not_true, Bool.and_false]
      exact renewed _ rfl rfl rfl rfl
    | opened current state => exact absurd state (coherent.not_open live current.symm)

theorem drop (coherent : usage.Coherent) (number : Nat) :
    (usage.after (.drop number)).Coherent := by
  unfold after
  cases live : usage.permits.get? number with
  | none =>
    rw [perform_drop_absent live]
    exact coherent
  | some permit =>
    rw [perform_drop live]
    unfold Breaker.drop
    split
    next probe =>
      rw [Bool.and_eq_true, beq_iff_eq] at probe
      exact coherent.giveBack ⟨permit, live, probe.1, probe.2.symm⟩
    next other =>
      apply coherent.forget
      rintro ⟨found, found_live, probe, same⟩
      rw [live, Option.some.injEq] at found_live
      subst found_live
      simp [probe, same] at other

theorem reset (coherent : usage.Coherent) : (usage.after .reset).Coherent :=
  coherent.renew usage.breaker.reset rfl rfl rfl rfl

theorem after (coherent : usage.Coherent) (step : Step) : (usage.after step).Coherent := by
  cases step with
  | acquire rule now => exact coherent.acquire rule now
  | record number rule now failed => exact coherent.record number rule now failed
  | drop number => exact coherent.drop number
  | reset => exact coherent.reset

theorem run (coherent : usage.Coherent) (steps : List Step) : (usage.run steps).Coherent := by
  induction steps generalizing usage with
  | nil => exact coherent
  | cons step rest inductionHypothesis => exact inductionHypothesis (coherent.after step)

theorem probing_iff (coherent : usage.Coherent) :
    usage.breaker.probing = true ↔ ∃! number, usage.Probes number := by
  rw [coherent.probing]
  constructor
  · rintro ⟨number, probes⟩
    exact ⟨number, probes, fun other also => coherent.single other number also probes⟩
  · rintro ⟨number, probes, -⟩
    exact ⟨number, probes⟩

theorem state_iff (coherent : usage.Coherent) {number : Nat} {permit : Permit}
    (live : usage.permits.get? number = some permit)
    (current : permit.generation = usage.breaker.generation) :
    (permit.probe = false ↔ usage.breaker.state = .closed) ∧
      (permit.probe = true ↔ usage.breaker.state = .halfOpen) := by
  rw [coherent.current number permit live current]
  cases permit.probe <;> simp

end Coherent

/-- The generation counts the transitions and the resets. -/
theorem generation_after (usage : Usage) (step : Step) :
    (usage.after step).breaker.generation =
      usage.breaker.generation + if usage.changes step then 1 else 0 := by
  cases step with
  | acquire rule now =>
    change (usage.issue (usage.breaker.acquire rule now)).2.breaker.generation =
      _ + if (usage.issue (usage.breaker.acquire rule now)).1.transition.isSome then 1 else 0
    have acquired := acquisition usage.breaker rule now
    generalize usage.breaker.acquire rule now = result at acquired ⊢
    cases acquired <;> rfl
  | record number rule now failed =>
    change (usage.perform (.record number rule now failed)).2.breaker.generation =
      _ + if (usage.perform (.record number rule now failed)).1.transition.isSome then 1 else 0
    cases live : usage.permits.get? number with
    | none =>
      rw [perform_record_absent live]
      rfl
    | some permit =>
      rw [perform_record live]
      have recorded := recording usage.breaker permit rule now failed
      generalize usage.breaker.record permit rule now failed = result at recorded ⊢
      cases recorded <;> rfl
  | drop number =>
    change (usage.perform (.drop number)).2.breaker.generation =
      _ + if (usage.perform (.drop number)).1.transition.isSome then 1 else 0
    cases live : usage.permits.get? number with
    | none =>
      rw [perform_drop_absent live]
      rfl
    | some permit =>
      rw [perform_drop live]
      unfold Breaker.drop
      split <;> rfl
  | reset => rfl

theorem generation_run (usage : Usage) (steps : List Step) :
    (usage.run steps).breaker.generation = usage.breaker.generation + usage.changesIn steps := by
  induction steps generalizing usage with
  | nil => rfl
  | cons step rest inductionHypothesis =>
    rw [run_cons, inductionHypothesis, generation_after, changesIn, Nat.add_assoc]

end Usage

/-- In every reachable state of a breaker a probe is marked as on its way exactly when one live
permit of the current generation is a probe, and there is never a second one; no live permit is
newer than the breaker, and one of its generation is a plain call of a closed breaker or a probe
of a half-open one, so that no outcome of the current generation meets an open breaker; samples
are kept only while closed and successes only while half-open, and they stay below the largest
32-bit number. The generation counts the transitions and the resets, and so it stays below
`2 ^ 64` as long as they do. -/
theorem permits_agree (steps : List Step) :
    let usage := Usage.run {} steps
    let breaker := usage.breaker
    ((breaker.probing = true ↔ ∃! number, usage.Probes number) ∧
      ∀ first second, usage.Probes first → usage.Probes second → first = second) ∧
    (∀ number permit, usage.permits.get? number = some permit →
      permit.generation ≤ breaker.generation ∧
        (permit.generation = breaker.generation →
          (permit.probe = false ↔ breaker.state = .closed) ∧
            (permit.probe = true ↔ breaker.state = .halfOpen) ∧ breaker.state ≠ .open)) ∧
    ((breaker.state ≠ .closed → breaker.window = []) ∧
      (breaker.state ≠ .halfOpen → breaker.successes = 0) ∧ breaker.successes < 2 ^ 32 - 1) ∧
    breaker.generation = Usage.changesIn {} steps := by
  intro usage breaker
  have coherent : usage.Coherent := Usage.Coherent.start.run steps
  refine ⟨⟨coherent.probing_iff, coherent.single⟩, fun number permit live => ⟨?_, ?_⟩,
    ⟨coherent.window, coherent.successes, coherent.successes_lt⟩, ?_⟩
  · exact coherent.old number permit live
  · intro current
    have states := coherent.state_iff live current
    exact ⟨states.1, states.2, coherent.not_open live current⟩
  · exact (Usage.generation_run {} steps).trans (Nat.zero_add _)

end Resilience.Breaker
