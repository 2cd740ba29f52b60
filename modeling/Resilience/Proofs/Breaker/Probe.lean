import Mathlib.Logic.Function.Basic
import Resilience.Proofs.Breaker.Usage

/-!
Probes: whom the probe of a breaker belongs to. A breaker that waits for the outcome of a probe has
given the permit for it to somebody who still holds it, so it does not wait for good.
-/

namespace Resilience.Breaker

variable {ι : Type} {breaker after : Breaker} {permits : ι → Option Permit} {id : ι}
  {permit : Permit}

def HasProber (breaker : Breaker) (permits : ι → Option Permit) : Prop :=
  ∃ id permit, permits id = some permit ∧ permit.probe = true ∧
    permit.generation = breaker.generation

/-- How a breaker and the permits that are held go together: a probe that is on its way belongs to a
holder, no permit is of a generation to come, and a half-open breaker has given out probes only. -/
structure Probed (breaker : Breaker) (permits : ι → Option Permit) : Prop where
  held : breaker.probing = true → breaker.HasProber permits
  old : ∀ id permit, permits id = some permit → permit.generation ≤ breaker.generation
  current : ∀ id permit, permits id = some permit → breaker.state = .halfOpen →
    permit.generation = breaker.generation → permit.probe = true

namespace Probed

theorem start (idle : breaker.probing = false) (free : ∀ id, permits id = none) :
    breaker.Probed permits where
  held probing := absurd (idle.symm.trans probing) Bool.false_ne_true
  old id _ held := nomatch (free id).symm.trans held
  current id _ held := nomatch (free id).symm.trans held

theorem idle (probed : breaker.Probed permits) (free : ∀ id, permits id = none) :
    breaker.probing = false := by
  apply Bool.eq_false_iff.mpr
  intro probing
  obtain ⟨id, permit, held, -⟩ := probed.held probing
  rw [free] at held
  cases held

theorem renew (probed : breaker.Probed permits)
    (generation : after.generation = breaker.generation + 1) (idle : after.probing = false) :
    after.Probed permits where
  held probing := absurd (idle.symm.trans probing) Bool.false_ne_true
  old id permit held := by
    have := probed.old id permit held
    omega
  current id permit held _ same := by
    have := probed.old id permit held
    omega

theorem reset (probed : breaker.Probed permits) : breaker.reset.Probed permits :=
  probed.renew rfl rfl

variable [DecidableEq ι]

theorem forget (probed : breaker.Probed permits)
    (generation : after.generation = breaker.generation)
    (state : after.state = .halfOpen → breaker.state = .halfOpen)
    (held : after.probing = true → after.HasProber (Function.update permits id none)) :
    after.Probed (Function.update permits id none) := by
  have before {other : ι} {permit : Permit}
      (holds : Function.update permits id none other = some permit) :
      permits other = some permit := by
    rw [Function.update_apply] at holds
    split at holds
    · cases holds
    · exact holds
  refine ⟨held, fun other permit holds => ?_, fun other permit holds halfOpen same => ?_⟩
  · rw [generation]
    exact probed.old other permit (before holds)
  · exact probed.current other permit (before holds) (state halfOpen) (same.trans generation)

theorem give (probed : breaker.Probed permits) (generation : permit.generation = after.generation)
    (later : breaker.generation < after.generation ∨ after.generation = breaker.generation ∧
      after.state = breaker.state)
    (probe : after.state = .halfOpen → permit.probe = true)
    (held : after.probing = true → after.HasProber (Function.update permits id (some permit))) :
    after.Probed (Function.update permits id (some permit)) := by
  refine ⟨held, fun other given holds => ?_, fun other given holds halfOpen same => ?_⟩
  · rw [Function.update_apply] at holds
    split at holds
    · cases holds
      exact Nat.le_of_eq generation
    · have := probed.old other given holds
      omega
  · rw [Function.update_apply] at holds
    split at holds
    · cases holds
      exact probe halfOpen
    · rcases later with later | ⟨stays, state⟩
      · have := probed.old other given holds
        omega
      · exact probed.current other given holds (state.symm.trans halfOpen) (same.trans stays)

theorem update (probed : breaker.Probed permits) {next : Option Permit}
    (other : ∀ held, permits id = some held → held.probe = true →
      held.generation ≠ breaker.generation) (probing : breaker.probing = true) :
    breaker.HasProber (Function.update permits id next) := by
  obtain ⟨prober, held, holds, probe, generation⟩ := probed.held probing
  have differs : prober ≠ id := by
    rintro rfl
    exact other held holds probe generation
  exact ⟨prober, held, (Function.update_of_ne differs _ _).trans holds, probe, generation⟩

/-- A permit that is given to somebody who has none is that of the probe if one begins. -/
theorem acquire (probed : breaker.Probed permits) (free : permits id = none) (rule : BreakerRule)
    (now : Nat) :
    (breaker.acquire rule now).2.Probed
      (match (breaker.acquire rule now).1 with
        | .ok permit => Function.update permits id (some permit)
        | .error _ => permits) := by
  have acquired := acquisition breaker rule now
  generalize breaker.acquire rule now = result at acquired
  cases acquired with
  | closed state =>
    refine probed.give rfl (.inr ⟨rfl, rfl⟩) (fun halfOpen => nomatch state.symm.trans halfOpen)
      (probed.update fun _ holds => ?_)
    cases free.symm.trans holds
  | early | busy => exact probed
  | late =>
    exact probed.give rfl (.inl (Nat.lt_succ_self _)) (fun _ => rfl)
      fun _ => ⟨id, _, Function.update_self .., rfl, rfl⟩
  | idle =>
    exact probed.give rfl (.inr ⟨rfl, rfl⟩) (fun _ => rfl)
      fun _ => ⟨id, _, Function.update_self .., rfl, rfl⟩

theorem record (probed : breaker.Probed permits) (held : permits id = some permit)
    (rule : BreakerRule) (now : Nat) (failed : Bool) :
    (breaker.record permit rule now failed).2.Probed (Function.update permits id none) := by
  -- A breaker that goes on probing after a current record was not probed with this permit.
  have ordinary {after : Breaker} (generation : after.generation = breaker.generation)
      (state : after.state = breaker.state)
      (goes : after.probing = (breaker.probing && !permit.probe)) :
      after.Probed (Function.update permits id none) := by
    refine probed.forget generation (state ▸ fun same => same) fun probing => ?_
    rw [goes, Bool.and_eq_true, Bool.not_eq_true'] at probing
    rw [HasProber, generation]
    refine probed.update (fun _ holds probe => ?_) probing.1
    cases held.symm.trans holds
    rw [probing.2] at probe
    cases probe
  have renewed {after : Breaker} (generation : after.generation = breaker.generation + 1)
      (idle : after.probing = false) : after.Probed (Function.update permits id none) :=
    (probed.renew generation idle).forget rfl (fun same => same)
      fun probing => absurd (idle.symm.trans probing) Bool.false_ne_true
  have recorded := recording breaker permit rule now failed
  generalize breaker.record permit rule now failed = result at recorded
  cases recorded with
  | stale stale =>
    refine probed.forget rfl (fun same => same) (probed.update fun other holds _ => ?_)
    cases held.symm.trans holds
    exact stale.symm
  | kept | opened | counted => exact ordinary rfl rfl rfl
  | tripped | reopened => exact renewed rfl rfl
  | recovered current state =>
    have probe := probed.current id permit held state current.symm
    exact renewed rfl (by simp only [probe, Bool.not_true, Bool.and_false])

theorem drop (probed : breaker.Probed permits) (held : permits id = some permit) :
    (breaker.drop permit).Probed (Function.update permits id none) := by
  unfold Breaker.drop
  split
  · exact probed.forget rfl (fun same => same) nofun
  next other =>
    refine probed.forget rfl (fun same => same)
      (probed.update fun _ holds probe generation => ?_)
    cases held.symm.trans holds
    exact other (by simp [probe, generation])

end Probed

end Resilience.Breaker
