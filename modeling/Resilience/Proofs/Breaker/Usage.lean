import Resilience.Breaker
import Resilience.Table

/-!
Runs of a breaker. A usage is a breaker with the permits that are alive. Every step names its own
rule and its own moment, so policies may change and clocks may go back between any two steps.
-/

namespace Resilience.Breaker

inductive Acquisition (breaker : Breaker) (rule : BreakerRule) (now : Nat) :
    Except Duration Permit × Breaker → Prop
  | closed (state : breaker.state = .closed) :
      Acquisition breaker rule now (.ok ⟨breaker.generation, false, none⟩, breaker)
  | early (state : breaker.state = .open)
      (early : now - breaker.openedAt < rule.delay.toDuration.millis) :
      Acquisition breaker rule now
        (.error (.ofMillis (rule.delay.toDuration.millis - (now - breaker.openedAt))), breaker)
  | late (state : breaker.state = .open)
      (late : rule.delay.toDuration.millis ≤ now - breaker.openedAt) :
      Acquisition breaker rule now
        (.ok ⟨breaker.generation + 1, true, some .halfOpened⟩,
          { breaker with
            state := .halfOpen, successes := 0, probing := true,
            generation := breaker.generation + 1 })
  | busy (state : breaker.state = .halfOpen) (probing : breaker.probing = true) :
      Acquisition breaker rule now (.error .zero, breaker)
  | idle (state : breaker.state = .halfOpen) (idle : breaker.probing = false) :
      Acquisition breaker rule now
        (.ok ⟨breaker.generation, true, none⟩, { breaker with probing := true })

theorem acquisition (breaker : Breaker) (rule : BreakerRule) (now : Nat) :
    Acquisition breaker rule now (breaker.acquire rule now) := by
  unfold acquire
  split
  next state => exact .closed state
  next state =>
    simp only
    split
    · exact .early state ‹_›
    · exact .late state (Nat.not_lt.mp ‹_›)
  next state =>
    split
    · exact .busy state ‹_›
    · exact .idle state (Bool.not_eq_true _ ▸ ‹_›)

def Trips (rule : BreakerRule) (window : List Bool) : Prop :=
  rule.capacity ≤ window.length ∧ 0 < window.count true ∧
    rule.reachesRatio (window.count true) window.length = true

instance (rule : BreakerRule) (window : List Bool) : Decidable (Trips rule window) :=
  inferInstanceAs (Decidable (_ ∧ _ ∧ _))

inductive Recording (breaker : Breaker) (permit : Permit) (rule : BreakerRule) (now : Nat)
    (failed : Bool) : Option Transition × Breaker → Prop
  | stale (stale : breaker.generation ≠ permit.generation) :
      Recording breaker permit rule now failed (none, breaker)
  | kept (current : breaker.generation = permit.generation) (state : breaker.state = .closed)
      (few : ¬Trips rule (slide rule.capacity breaker.window failed)) :
      Recording breaker permit rule now failed
        (none,
          { breaker with
            window := slide rule.capacity breaker.window failed
            probing := breaker.probing && !permit.probe })
  | tripped (current : breaker.generation = permit.generation) (state : breaker.state = .closed)
      (many : Trips rule (slide rule.capacity breaker.window failed)) :
      Recording breaker permit rule now failed
        (some (.opened ((slide rule.capacity breaker.window failed).count true)
            (slide rule.capacity breaker.window failed).length),
          breaker.trip now)
  | reopened (current : breaker.generation = permit.generation)
      (state : breaker.state = .halfOpen) (failure : failed = true) :
      Recording breaker permit rule now failed (some (.opened 1 1), breaker.trip now)
  | counted (current : breaker.generation = permit.generation)
      (state : breaker.state = .halfOpen) (success : failed = false)
      (below : breaker.successes + 1 < rule.successThreshold.toNat) :
      Recording breaker permit rule now failed
        (none,
          { breaker with
            successes := breaker.successes + 1
            probing := breaker.probing && !permit.probe })
  | recovered (current : breaker.generation = permit.generation)
      (state : breaker.state = .halfOpen) (success : failed = false)
      (reached : rule.successThreshold.toNat ≤ breaker.successes + 1) :
      Recording breaker permit rule now failed
        (some .closed,
          { breaker with
            state := .closed, window := [], successes := 0,
            probing := breaker.probing && !permit.probe,
            generation := breaker.generation + 1 })
  | opened (current : breaker.generation = permit.generation) (state : breaker.state = .open) :
      Recording breaker permit rule now failed
        (none, { breaker with probing := breaker.probing && !permit.probe })

theorem recording (breaker : Breaker) (permit : Permit) (rule : BreakerRule) (now : Nat)
    (failed : Bool) :
    Recording breaker permit rule now failed (breaker.record permit rule now failed) := by
  unfold record
  split
  · exact .stale ‹_›
  next same =>
    have current : breaker.generation = permit.generation := Decidable.not_not.mp same
    simp only
    split
    next state =>
      unfold sample
      simp only
      split
      · exact .tripped current state ‹_›
      · exact .kept current state ‹_›
    next state =>
      unfold probed
      cases failed with
      | true => exact .reopened current state rfl
      | false =>
        simp only [Bool.false_eq_true, ↓reduceIte]
        split
        · exact .counted current state rfl ‹_›
        · exact .recovered current state rfl (Nat.not_lt.mp ‹_›)
    next state => exact .opened current state

/-- Whether a breaker looks the same to all but its probe. -/
structure Undisturbed (before after : Breaker) : Prop where
  state : after.state = before.state
  window : after.window = before.window
  successes : after.successes = before.successes

theorem Undisturbed.refl (breaker : Breaker) : breaker.Undisturbed breaker := ⟨rfl, rfl, rfl⟩

theorem drop_undisturbed (breaker : Breaker) (permit : Permit) :
    breaker.Undisturbed (breaker.drop permit) := by
  unfold drop
  split
  · exact ⟨rfl, rfl, rfl⟩
  · exact .refl breaker

/-- An acquisition changes nothing else than that an open breaker may become half-open. -/
theorem acquire_undisturbed (breaker : Breaker) (rule : BreakerRule) (now : Nat) :
    breaker.Undisturbed (breaker.acquire rule now).2 ∨
      breaker.state = .open ∧ (breaker.acquire rule now).2.state = .halfOpen ∧
        (breaker.acquire rule now).2.window = breaker.window ∧
          (breaker.acquire rule now).2.successes = 0 := by
  have acquired := acquisition breaker rule now
  generalize breaker.acquire rule now = result at acquired
  cases acquired with
  | closed | early | busy => exact .inl (.refl breaker)
  | late state => exact .inr ⟨state, rfl, rfl, rfl⟩
  | idle => exact .inl ⟨rfl, rfl, rfl⟩

/-- A breaker with the permits that are alive, each under the number of its acquisition. -/
structure Usage where
  breaker : Breaker := {}
  permits : Table Nat Permit := {}
  issued : Nat := 0

/-- What can be done with a breaker and its permits. -/
inductive Step where
  | acquire (rule : BreakerRule) (now : Nat)
  | record (number : Nat) (rule : BreakerRule) (now : Nat) (failed : Bool)
  | drop (number : Nat)
  | reset

/-- What a step is answered. -/
inductive Answer where
  | acquired (result : Except Duration Permit)
  | recorded (transition : Option Transition)
  | done
  /-- No permit of this number is alive. -/
  | absent

def Answer.transition : Answer → Option Transition
  | acquired (.ok permit) => permit.transition
  | recorded transition => transition
  | acquired (.error _) | done | absent => none

namespace Usage

def issue (usage : Usage) : Except Duration Permit × Breaker → Answer × Usage
  | (.ok permit, breaker) =>
    (.acquired (.ok permit),
      { breaker, permits := usage.permits.set usage.issued permit, issued := usage.issued + 1 })
  | (.error retryAfter, breaker) => (.acquired (.error retryAfter), { usage with breaker })

/-- Takes a permit away, with the breaker after that. -/
def spend (usage : Usage) (number : Nat) (breaker : Breaker) : Usage :=
  { usage with breaker, permits := usage.permits.erase number }

/-- Takes a step. Recording and dropping use a permit up. -/
def perform (usage : Usage) : Step → Answer × Usage
  | .acquire rule now => usage.issue (usage.breaker.acquire rule now)
  | .record number rule now failed =>
    match usage.permits.get? number with
    | some permit =>
      let recorded := usage.breaker.record permit rule now failed
      (.recorded recorded.1, usage.spend number recorded.2)
    | none => (.absent, usage)
  | .drop number =>
    match usage.permits.get? number with
    | some permit => (.done, usage.spend number (usage.breaker.drop permit))
    | none => (.absent, usage)
  | .reset => (.done, { usage with breaker := usage.breaker.reset })

def answer (usage : Usage) (step : Step) : Answer := (usage.perform step).1

def after (usage : Usage) (step : Step) : Usage := (usage.perform step).2

def run (usage : Usage) (steps : List Step) : Usage := steps.foldl after usage

def answers (usage : Usage) : List Step → List Answer
  | [] => []
  | step :: rest => usage.answer step :: (usage.after step).answers rest

def changes (usage : Usage) : Step → Bool
  | .reset => true
  | step => (usage.answer step).transition.isSome

/-- The number of transitions and resets in a row of steps. -/
def changesIn (usage : Usage) : List Step → Nat
  | [] => 0
  | step :: rest => (if usage.changes step then 1 else 0) + (usage.after step).changesIn rest

variable {usage : Usage}

@[simp] theorem run_nil : usage.run [] = usage := rfl

@[simp] theorem run_cons (step : Step) (rest : List Step) :
    usage.run (step :: rest) = (usage.after step).run rest := rfl

theorem perform_record {number : Nat} {permit : Permit}
    (live : usage.permits.get? number = some permit) (rule : BreakerRule) (now : Nat)
    (failed : Bool) :
    usage.perform (.record number rule now failed) =
      (.recorded (usage.breaker.record permit rule now failed).1,
        usage.spend number (usage.breaker.record permit rule now failed).2) := by
  simp only [perform, live]

theorem perform_drop {number : Nat} {permit : Permit}
    (live : usage.permits.get? number = some permit) :
    usage.perform (.drop number) = (.done, usage.spend number (usage.breaker.drop permit)) := by
  simp only [perform, live]

theorem perform_record_absent {number : Nat} (absent : usage.permits.get? number = none)
    (rule : BreakerRule) (now : Nat) (failed : Bool) :
    usage.perform (.record number rule now failed) = (.absent, usage) := by
  simp only [perform, absent]

theorem perform_drop_absent {number : Nat} (absent : usage.permits.get? number = none) :
    usage.perform (.drop number) = (.absent, usage) := by
  simp only [perform, absent]

end Usage

end Resilience.Breaker
