import Mathlib.Data.List.Induction
import Resilience.Proofs.Breaker.Permits

/-!
The window of a closed breaker against the whole history: what a breaker keeps is always the tail
of the samples that it took since it last closed, and it opens exactly when that tail is full and
has too many failures.
-/

namespace Resilience.Breaker

/-- An outcome that was recorded in the closed state, with the rule it was recorded under. -/
structure Sample where
  rule : BreakerRule
  failed : Bool

/-- How many of the newest samples are still kept: one more with each sample, cut to the capacity
of its rule. -/
def depth (samples : List Sample) : Nat :=
  samples.foldl (fun depth sample => min (depth + 1) sample.rule.capacity) 0

/-- The outcomes of the newest samples, the oldest first. -/
def newest (count : Nat) (samples : List Sample) : List Bool :=
  (samples.map Sample.failed).drop (samples.length - count)

/-- The transition that the last sample of a history causes. -/
def verdict (samples : List Sample) : Option Transition :=
  match samples.getLast? with
  | none => none
  | some last =>
    let capacity := last.rule.capacity
    let failures := (newest capacity samples).count true
    if depth samples = capacity ∧ 0 < failures ∧ last.rule.reachesRatio failures capacity then
      some (.opened failures capacity)
    else none

theorem one_le_capacity (rule : BreakerRule) : 1 ≤ rule.capacity := Nat.le_max_left 1 _

@[simp] theorem depth_append (samples : List Sample) (sample : Sample) :
    depth (samples ++ [sample]) = min (depth samples + 1) sample.rule.capacity := by
  simp [depth, List.foldl_append]

theorem depth_le_length (samples : List Sample) : depth samples ≤ samples.length := by
  induction samples using List.reverseRecOn with
  | nil => exact Nat.le_refl 0
  | append_singleton samples sample inductionHypothesis =>
    rw [depth_append, List.length_append, List.length_singleton]
    omega

theorem length_newest {count : Nat} {samples : List Sample} (few : count ≤ samples.length) :
    (newest count samples).length = count := by
  rw [newest, List.length_drop, List.length_map]
  omega

/-- One more sample: what the window keeps follows the depth of the history. -/
theorem slide_newest (samples : List Sample) (sample : Sample) :
    slide sample.rule.capacity (newest (depth samples) samples) sample.failed =
      newest (depth (samples ++ [sample])) (samples ++ [sample]) := by
  have few := depth_le_length samples
  have positive := one_le_capacity sample.rule
  rw [slide, length_newest few, newest, newest, List.drop_drop, List.map_append,
    List.length_append, depth_append, List.drop_append_of_le_length]
  · congr 2
    simp only [List.length_singleton]
    omega
  · simp only [List.length_singleton, List.length_map]
    omega

theorem length_slide_newest (samples : List Sample) (sample : Sample) :
    (slide sample.rule.capacity (newest (depth samples) samples) sample.failed).length =
      depth (samples ++ [sample]) := by
  rw [slide_newest, length_newest (depth_le_length _)]

/-- A full window is the tail of the history that the rule asks for. -/
theorem slide_newest_of_full {samples : List Sample} {sample : Sample}
    (full : depth (samples ++ [sample]) = sample.rule.capacity) :
    slide sample.rule.capacity (newest (depth samples) samples) sample.failed =
      newest sample.rule.capacity (samples ++ [sample]) := by
  rw [slide_newest, full]

theorem full_iff (samples : List Sample) (sample : Sample) :
    sample.rule.capacity ≤ depth (samples ++ [sample]) ↔
      depth (samples ++ [sample]) = sample.rule.capacity := by
  have := Nat.min_le_right (depth samples + 1) sample.rule.capacity
  rw [depth_append]
  omega

theorem verdict_of_trips {samples : List Sample} {sample : Sample} {window : List Bool}
    (slid : window =
      slide sample.rule.capacity (newest (depth samples) samples) sample.failed)
    (trips : Trips sample.rule window) :
    verdict (samples ++ [sample]) = some (.opened (window.count true) window.length) := by
  obtain ⟨long, some, reached⟩ := trips
  rw [slid, length_slide_newest] at long reached
  have full := (full_iff samples sample).mp long
  rw [slid, slide_newest_of_full full] at some
  rw [slide_newest_of_full full, full] at reached
  rw [slid, length_slide_newest, slide_newest_of_full full, full]
  simp [verdict, List.getLast?_append, full, some, reached]

theorem verdict_of_not_trips {samples : List Sample} {sample : Sample} {window : List Bool}
    (slid : window =
      slide sample.rule.capacity (newest (depth samples) samples) sample.failed)
    (few : ¬Trips sample.rule window) : verdict (samples ++ [sample]) = none := by
  simp only [verdict, List.getLast?_concat]
  rw [if_neg]
  rintro ⟨full, some, reached⟩
  refine few ⟨?_, ?_, ?_⟩
  · apply Nat.le_of_eq
    rw [slid, length_slide_newest, full]
  · rw [slid, slide_newest_of_full full]
    exact some
  · rw [slid, length_slide_newest, slide_newest_of_full full, full]
    exact reached

namespace Usage

/-- The sample that a step hands to a closed breaker. -/
def sample? (usage : Usage) : Step → Option Sample
  | .record number rule _ failed =>
    match usage.permits.get? number with
    | some permit =>
      if permit.generation = usage.breaker.generation ∧ usage.breaker.state = .closed then
        some ⟨rule, failed⟩
      else none
    | none => none
  | .acquire .. | .drop _ | .reset => none

/-- Whether a step closes the breaker, by a reset or by a last probe. -/
def closes (usage : Usage) : Step → Bool
  | .reset => true
  | step => (usage.answer step).transition = some .closed

def remember (usage : Usage) (samples : List Sample) (step : Step) : List Sample :=
  if usage.closes step then [] else samples ++ (usage.sample? step).toList

/-- The samples since the breaker last closed, after a row of steps. -/
def history (usage : Usage) (samples : List Sample) : List Step → List Sample
  | [] => samples
  | step :: rest => (usage.after step).history (usage.remember samples step) rest

/-- The window of a closed breaker is the tail of the history. -/
def Follows (usage : Usage) (samples : List Sample) : Prop :=
  usage.breaker.state = .closed → usage.breaker.window = newest (depth samples) samples

variable {usage : Usage} {samples : List Sample}

theorem sample?_eq_some_iff {step : Step} {sample : Sample} :
    usage.sample? step = some sample ↔
      ∃ number permit now, step = .record number sample.rule now sample.failed ∧
        usage.permits.get? number = some permit ∧
        permit.generation = usage.breaker.generation ∧ usage.breaker.state = .closed := by
  cases step with
  | acquire rule now => simp [sample?]
  | drop number => simp [sample?]
  | reset => simp [sample?]
  | record number rule now failed =>
    constructor
    · intro taken
      cases live : usage.permits.get? number with
      | none => simp [sample?, live] at taken
      | some permit =>
        simp only [sample?, live, Option.ite_none_right_eq_some, Option.some.injEq] at taken
        obtain ⟨current, rfl⟩ := taken
        exact ⟨number, permit, now, rfl, live, current⟩
    · rintro ⟨number, permit, now, same, live, current⟩
      cases same
      simp [sample?, live, current]

/-- What a step that hands in a sample does: it is answered what the history says. -/
theorem perform_sample (follows : usage.Follows samples)
    {step : Step} {sample : Sample} (taken : usage.sample? step = some sample) :
    usage.answer step = .recorded (verdict (samples ++ [sample])) ∧
      (usage.after step).breaker.state =
        (if (verdict (samples ++ [sample])).isSome then .open else .closed) ∧
      ((usage.after step).breaker.state = .closed →
        (usage.after step).breaker.window =
          newest (depth (samples ++ [sample])) (samples ++ [sample])) := by
  obtain ⟨number, permit, now, rfl, live, current, state⟩ := sample?_eq_some_iff.mp taken
  have slid : slide sample.rule.capacity usage.breaker.window sample.failed =
      slide sample.rule.capacity (newest (depth samples) samples) sample.failed := by
    rw [follows state]
  unfold answer after
  rw [perform_record live]
  have recorded := recording usage.breaker permit sample.rule now sample.failed
  generalize usage.breaker.record permit sample.rule now sample.failed = result at recorded ⊢
  cases recorded with
  | stale stale => exact absurd current.symm stale
  | kept _ _ few =>
    rw [verdict_of_not_trips slid few]
    exact ⟨rfl, state, fun _ => slid.trans (slide_newest samples sample)⟩
  | tripped _ _ many =>
    rw [verdict_of_trips slid many]
    exact ⟨rfl, rfl, fun closed => CircuitState.noConfusion closed⟩
  | reopened _ other => simp [state] at other
  | counted _ other => simp [state] at other
  | recovered _ other => simp [state] at other
  | opened _ other => simp [state] at other

theorem closes_record {number : Nat} {permit : Permit}
    (live : usage.permits.get? number = some permit) (rule : BreakerRule) (now : Nat)
    (failed : Bool) :
    usage.closes (.record number rule now failed) =
      decide ((usage.breaker.record permit rule now failed).1 = some .closed) := by
  simp only [closes, answer, perform_record live, Answer.transition]

/-- What a step can do to the window: empty it by a closing, take a sample, or leave it alone,
and then the breaker is closed only if it was before. -/
inductive Effect (usage : Usage) (step : Step) : Prop
  | closing (closes : usage.closes step = true) (window : (usage.after step).breaker.window = [])
  | sampling (sample : Sample) (closes : usage.closes step = false)
      (taken : usage.sample? step = some sample)
  | neutral (closes : usage.closes step = false) (none : usage.sample? step = none)
      (window : (usage.after step).breaker.window = usage.breaker.window)
      (closed : (usage.after step).breaker.state = .closed → usage.breaker.state = .closed)

theorem effect_record (coherent : usage.Coherent) {number : Nat} {permit : Permit}
    (live : usage.permits.get? number = some permit) (rule : BreakerRule) (now : Nat)
    (failed : Bool) : usage.Effect (.record number rule now failed) := by
  have closes := closes_record live rule now failed
  have performed := perform_record live rule now failed
  have recorded := recording usage.breaker permit rule now failed
  have empty : usage.breaker.state = .halfOpen → [] = usage.breaker.window := fun state =>
    (coherent.window (by simp [state])).symm
  generalize usage.breaker.record permit rule now failed = result at recorded performed closes
  cases recorded with
  | stale stale =>
    have none : usage.sample? (.record number rule now failed) = none := by
      simp [sample?, live, Ne.symm stale]
    exact .neutral closes none (by rw [after, performed]; rfl) (by rw [after, performed]; exact id)
  | kept current state few =>
    exact .sampling ⟨rule, failed⟩ closes (by simp [sample?, live, current, state])
  | tripped current state many =>
    exact .sampling ⟨rule, failed⟩ closes (by simp [sample?, live, current, state])
  | reopened current state failure =>
    have none : usage.sample? (.record number rule now failed) = none := by
      simp [sample?, live, state]
    refine .neutral closes none ?_ ?_
    · rw [after, performed]
      exact empty state
    · rw [after, performed]
      intro closed
      exact CircuitState.noConfusion closed
  | counted current state success below =>
    have none : usage.sample? (.record number rule now failed) = none := by
      simp [sample?, live, state]
    exact .neutral closes none (by rw [after, performed]; rfl) (by rw [after, performed]; exact id)
  | recovered current state success reached =>
    exact .closing closes (by rw [after, performed]; rfl)
  | opened current state => exact absurd state (coherent.not_open live current.symm)

theorem effect (coherent : usage.Coherent) (step : Step) : usage.Effect step := by
  cases step with
  | acquire rule now =>
    have acquired := acquisition usage.breaker rule now
    have closes : usage.closes (.acquire rule now) =
        decide ((usage.issue (usage.breaker.acquire rule now)).1.transition = some .closed) := rfl
    have after : usage.after (.acquire rule now) =
        (usage.issue (usage.breaker.acquire rule now)).2 := rfl
    generalize usage.breaker.acquire rule now = result at acquired closes after
    cases acquired with
    | closed state => exact .neutral closes rfl (by rw [after]; rfl) fun _ => state
    | early => exact .neutral closes rfl (by rw [after]; rfl) (by rw [after]; exact id)
    | late =>
      exact .neutral closes rfl (by rw [after]; rfl)
        (by rw [after]; exact fun closed => CircuitState.noConfusion closed)
    | busy => exact .neutral closes rfl (by rw [after]; rfl) (by rw [after]; exact id)
    | idle => exact .neutral closes rfl (by rw [after]; rfl) (by rw [after]; exact id)
  | record number rule now failed =>
    cases live : usage.permits.get? number with
    | none =>
      have performed := perform_record_absent live rule now failed
      refine .neutral ?_ ?_ (by rw [after, performed]) (by rw [after, performed]; exact id)
      · simp [closes, answer, performed, Answer.transition]
      · simp [sample?, live]
    | some permit => exact effect_record coherent live rule now failed
  | drop number =>
    cases live : usage.permits.get? number with
    | none =>
      have performed := perform_drop_absent live
      refine .neutral ?_ rfl (by rw [after, performed]) (by rw [after, performed]; exact id)
      simp [closes, answer, performed, Answer.transition]
    | some permit =>
      have performed := perform_drop live
      refine .neutral ?_ rfl ?_ ?_
      · simp [closes, answer, performed, Answer.transition]
      · rw [after, performed]
        unfold Breaker.drop
        split <;> rfl
      · rw [after, performed]
        unfold Breaker.drop
        split <;> exact id
  | reset => exact .closing rfl rfl

theorem Follows.after (follows : usage.Follows samples) (coherent : usage.Coherent)
    (step : Step) : (usage.after step).Follows (usage.remember samples step) := by
  intro closed
  cases effect coherent step with
  | closing closes window =>
    rw [remember, if_pos closes, window]
    rfl
  | sampling sample closes taken =>
    simp only [remember, closes, taken]
    exact (perform_sample follows taken).2.2 closed
  | neutral closes none window was_closed =>
    simp only [remember, closes, none, Option.toList_none, List.append_nil]
    exact window.trans (follows (was_closed closed))

theorem Follows.run (follows : usage.Follows samples) (coherent : usage.Coherent)
    (steps : List Step) : (usage.run steps).Follows (usage.history samples steps) := by
  induction steps generalizing usage samples with
  | nil => exact follows
  | cons step rest inductionHypothesis =>
    exact inductionHypothesis (follows.after coherent step) (coherent.after step)

end Usage

/-- As long as a breaker is closed its window is the tail, as deep as the thresholds let it grow,
of all samples that it took since it last closed; a sample is answered by what the whole history
says, which is that the breaker opens exactly when the tail that its rule asks for is complete, has
a failure and reaches the ratio; and nothing but samples and closings changes the window. -/
theorem opens_by_history (steps : List Step) :
    let usage := Usage.run {} steps
    let samples := Usage.history {} [] steps
    (usage.breaker.state = .closed → usage.breaker.window = newest (depth samples) samples) ∧
    (∀ step sample, usage.sample? step = some sample →
      usage.answer step = .recorded (verdict (samples ++ [sample])) ∧
        (usage.after step).breaker.state =
          if (verdict (samples ++ [sample])).isSome then .open else .closed) ∧
    ∀ step, usage.sample? step = none → usage.closes step = false →
      (usage.after step).breaker.window = usage.breaker.window := by
  intro usage samples
  have coherent : usage.Coherent := Usage.Coherent.start.run steps
  have follows : usage.Follows samples :=
    Usage.Follows.run (fun _ => rfl) Usage.Coherent.start steps
  refine ⟨follows, fun step sample taken => ?_, fun step none open' => ?_⟩
  · have performed := Usage.perform_sample follows taken
    exact ⟨performed.1, performed.2.1⟩
  · cases Usage.effect coherent step with
    | closing closes => simp [open'] at closes
    | sampling sample _ taken => simp [none] at taken
    | neutral _ _ window => exact window

end Resilience.Breaker
