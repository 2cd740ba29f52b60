import Resilience.Proofs.Breaker.Permits

/-!
Outages and their end. A breaker that opened stays so for its delay and not for longer, and then
as many successful probes as its rule asks for close it again, whoever opened it and under whatever
rules, and whatever became of the probes before.
-/

namespace Resilience.Breaker

/-- A probe: when it is asked for, and when its success is recorded if it is not dropped. -/
structure Trial where
  asked : Nat
  recorded : Option Nat

namespace Trial

def settle (trial : Trial) (rule : BreakerRule) (number : Nat) : Step :=
  match trial.recorded with
  | some now => .record number rule now false
  | none => .drop number

/-- The steps of a row of trials, whose permits have the numbers from the given one on. -/
def steps (rule : BreakerRule) : Nat → List Trial → List Step
  | _, [] => []
  | number, trial :: rest =>
    .acquire rule trial.asked :: trial.settle rule number :: steps rule (number + 1) rest

/-- The number of successes in a row of trials. -/
def successes (trials : List Trial) : Nat := trials.countP fun trial => trial.recorded.isSome

end Trial

/-- Whether a step can come while a breaker is open under a rule: anything but a reset, and
acquisitions only before the delay has passed, by a clock that is not behind the opening. -/
def Step.Early (breaker : Breaker) (rule : BreakerRule) : Step → Prop
  | acquire other now =>
    other = rule ∧ breaker.openedAt ≤ now ∧
      now < breaker.openedAt + rule.delay.toDuration.nanos / 10 ^ 6
  | record .. | drop _ => True
  | reset => False

/-- A delay is counted in whole milliseconds, and none is too long for that. -/
theorem millis_toDuration (amount : Amount) :
    amount.toDuration.millis = amount.toDuration.nanos / 10 ^ 6 := by
  have := amount.nanos_toDuration
  unfold Duration.millis
  omega

/-- What is left of a delay is told to the millisecond. -/
theorem nanos_ofMillis_sub (amount : Amount) (elapsed : Nat) :
    (Duration.ofMillis (amount.toDuration.nanos / 10 ^ 6 - elapsed)).nanos =
      (amount.toDuration.nanos / 10 ^ 6 - elapsed) * 10 ^ 6 := by
  have := amount.nanos_toDuration
  simp only [Duration.ofMillis, Duration.nanos_ofNanos, Duration.maxNanos]
  omega

namespace Usage

variable {usage : Usage} {rule : BreakerRule}

theorem perform_open (state : usage.breaker.state = .open) (rule : BreakerRule) (now : Nat) :
    usage.perform (.acquire rule now) =
      if now - usage.breaker.openedAt < rule.delay.toDuration.nanos / 10 ^ 6 then
        (.acquired (.error (.ofMillis (rule.delay.toDuration.nanos / 10 ^ 6 -
          (now - usage.breaker.openedAt)))), usage)
      else
        usage.issue (.ok ⟨usage.breaker.generation + 1, true, some .halfOpened⟩,
          { usage.breaker with
            state := .halfOpen, successes := 0, probing := true,
            generation := usage.breaker.generation + 1 }) := by
  rw [← millis_toDuration]
  change usage.issue (usage.breaker.acquire rule now) = _
  have acquired := acquisition usage.breaker rule now
  generalize usage.breaker.acquire rule now = result at acquired
  cases acquired with
  | early _ early => exact (if_pos early).symm
  | late _ late => exact (if_neg (Nat.not_lt.mpr late)).symm
  | closed other => simp [state] at other
  | busy other => simp [state] at other
  | idle other => simp [state] at other

theorem perform_halfOpen (state : usage.breaker.state = .halfOpen) (rule : BreakerRule)
    (now : Nat) :
    usage.perform (.acquire rule now) =
      if usage.breaker.probing then (.acquired (.error .zero), usage)
      else
        usage.issue (.ok ⟨usage.breaker.generation, true, none⟩,
          { usage.breaker with probing := true }) := by
  change usage.issue (usage.breaker.acquire rule now) = _
  have acquired := acquisition usage.breaker rule now
  generalize usage.breaker.acquire rule now = result at acquired
  cases acquired with
  | busy _ busy => exact (if_pos busy).symm
  | idle _ idle => exact (if_neg (by simp [idle])).symm
  | closed other => simp [state] at other
  | early other => simp [state] at other
  | late other => simp [state] at other

/-- Nothing but time and a reset ends an outage: an open breaker has no permits of its own that
could be recorded. -/
theorem Coherent.early (coherent : usage.Coherent) (state : usage.breaker.state = .open)
    {step : Step} (early : step.Early usage.breaker rule) :
    (usage.after step).breaker = usage.breaker ∧
      ∀ permit, usage.answer step ≠ .acquired (.ok permit) := by
  unfold Usage.after answer
  have stale {number : Nat} {permit : Permit}
      (live : usage.permits.get? number = some permit) :
      usage.breaker.generation ≠ permit.generation := fun current =>
    coherent.not_open live current.symm state
  cases step with
  | acquire other now =>
    obtain ⟨rfl, past, soon⟩ := early
    rw [perform_open state, if_pos (by omega)]
    exact ⟨rfl, fun permit admitted => by cases admitted⟩
  | record number other now failed =>
    cases live : usage.permits.get? number with
    | none =>
      rw [perform_record_absent live]
      exact ⟨rfl, fun permit admitted => by cases admitted⟩
    | some permit =>
      rw [perform_record live, Breaker.record, if_pos (stale live)]
      exact ⟨rfl, fun permit admitted => by cases admitted⟩
  | drop number =>
    cases live : usage.permits.get? number with
    | none =>
      rw [perform_drop_absent live]
      exact ⟨rfl, fun permit admitted => by cases admitted⟩
    | some permit =>
      rw [perform_drop live]
      exact ⟨by simp [spend, Breaker.drop, stale live], fun permit admitted => by cases admitted⟩
  | reset => cases early

theorem Coherent.early_run (coherent : usage.Coherent) (state : usage.breaker.state = .open)
    {steps : List Step} (early : ∀ step ∈ steps, step.Early usage.breaker rule) :
    (usage.run steps).breaker = usage.breaker ∧
      ∀ answer ∈ usage.answers steps, ∀ permit, answer ≠ .acquired (.ok permit) := by
  induction steps generalizing usage with
  | nil => exact ⟨rfl, by simp [answers]⟩
  | cons step rest inductionHypothesis =>
    obtain ⟨head, tail⟩ := List.forall_mem_cons.mp early
    obtain ⟨same, refused⟩ := coherent.early state head
    obtain ⟨still, none⟩ := inductionHypothesis (coherent.after step) (same ▸ state)
      (same.symm ▸ tail)
    exact ⟨still.trans same, List.forall_mem_cons.mpr ⟨refused, none⟩⟩

/-- Whether a probe can be had at all of some times, after so many successes. -/
inductive Poised (usage : Usage) (rule : BreakerRule) (times : List Nat) : Nat → Prop
  | late (state : usage.breaker.state = .open)
      (late : ∀ time ∈ times,
        usage.breaker.openedAt + rule.delay.toDuration.nanos / 10 ^ 6 ≤ time) :
      Poised usage rule times 0
  | idle (state : usage.breaker.state = .halfOpen) (idle : usage.breaker.probing = false) :
      Poised usage rule times usage.breaker.successes

/-- A breaker that waits for the outcome of the probe of a number, after so many successes. -/
structure Probing (usage : Usage) (number : Nat) (permit : Permit) (successes : Nat) : Prop where
  state : usage.breaker.state = .halfOpen
  counted : usage.breaker.successes = successes
  live : usage.permits.get? number = some permit
  probe : permit.probe = true
  current : usage.breaker.generation = permit.generation

variable {times : List Nat} {successes number : Nat} {permit : Permit}

theorem Poised.ask (poised : usage.Poised rule times successes) {now : Nat}
    (asked : now ∈ times) :
    ∃ permit, usage.answer (.acquire rule now) = .acquired (.ok permit) ∧
      (usage.after (.acquire rule now)).Probing usage.issued permit successes ∧
        (usage.after (.acquire rule now)).issued = usage.issued + 1 := by
  unfold answer after
  cases poised with
  | late state late =>
    have := late now asked
    rw [perform_open state, if_neg (by omega)]
    exact ⟨_, rfl, ⟨rfl, rfl, Coherent.admit_get?.mpr (.inl ⟨rfl, rfl⟩), rfl, rfl⟩, rfl⟩
  | idle state idle =>
    rw [perform_halfOpen state, if_neg (by simp [idle])]
    exact ⟨_, rfl, ⟨state, rfl, Coherent.admit_get?.mpr (.inl ⟨rfl, rfl⟩), rfl, rfl⟩, rfl⟩

namespace Probing

/-- A dropped probe leaves the place to the next. -/
theorem drop (probing : usage.Probing number permit successes) :
    usage.perform (.drop number) =
      (.done, usage.spend number { usage.breaker with probing := false }) := by
  rw [perform_drop probing.live, Breaker.drop, if_pos (by simp [probing.probe, probing.current])]

theorem fail (probing : usage.Probing number permit successes) (now : Nat) :
    usage.perform (.record number rule now true) =
      (.recorded (some (.opened 1 1)), usage.spend number (usage.breaker.trip now)) := by
  rw [perform_record probing.live]
  simp only [Breaker.record, probing.current, probing.state, ne_eq, not_true_eq_false,
    ↓reduceIte, Breaker.probed, Breaker.trip]

/-- A successful probe closes the breaker if it is the last one that the rule asks for. -/
theorem succeed (probing : usage.Probing number permit successes) (now : Nat) :
    usage.perform (.record number rule now false) =
      if successes + 1 < rule.successThreshold.toNat then
        (.recorded none,
          usage.spend number
            { usage.breaker with successes := successes + 1, probing := false })
      else
        (.recorded (some .closed),
          usage.spend number
            { usage.breaker with
              state := .closed, window := [], successes := 0, probing := false,
              generation := usage.breaker.generation + 1 }) := by
  rw [perform_record probing.live]
  simp only [Breaker.record, probing.current, probing.state, ne_eq, not_true_eq_false,
    ↓reduceIte, Breaker.probed, probing.counted, Bool.false_eq_true, probing.probe, Bool.not_true,
    Bool.and_false]
  split <;> rfl

end Probing

theorem Poised.mono {later : List Nat} (poised : usage.Poised rule times successes)
    (fewer : ∀ time ∈ later, time ∈ times) : usage.Poised rule later successes := by
  cases poised with
  | late state late => exact .late state fun time member => late time (fewer time member)
  | idle state idle => exact .idle state idle

/-- A trial that does not close the breaker leaves it ready for the next. -/
theorem Poised.trial {trial : Trial}
    (poised : usage.Poised rule (trial.asked :: times) successes)
    (below : trial.recorded.isSome → successes + 1 < rule.successThreshold.toNat) :
    let reached := usage.run [.acquire rule trial.asked, trial.settle rule usage.issued]
    reached.Poised rule times (successes + if trial.recorded.isSome then 1 else 0) ∧
      reached.issued = usage.issued + 1 := by
  obtain ⟨permit, -, probing, issued⟩ := poised.ask (List.mem_cons_self ..)
  simp only [run_cons, run_nil]
  generalize usage.after (.acquire rule trial.asked) = asked at probing issued
  obtain rfl := probing.counted
  unfold after Trial.settle
  cases recorded : trial.recorded with
  | none =>
    rw [probing.drop]
    exact ⟨.idle probing.state rfl, issued⟩
  | some now =>
    rw [probing.succeed, if_pos (below (by simp [recorded]))]
    exact ⟨.idle probing.state rfl, issued⟩

/-- Any row of trials with too few successes is admitted throughout. -/
theorem Poised.trials {trials : List Trial} {now : Nat}
    (poised : usage.Poised rule (now :: trials.map Trial.asked) successes)
    (below : Trial.successes trials < max 1 (rule.successThreshold.toNat - successes)) :
    (usage.run (Trial.steps rule usage.issued trials)).Poised rule [now]
      (successes + Trial.successes trials) := by
  induction trials generalizing usage successes with
  | nil => exact poised
  | cons trial rest inductionHypothesis =>
    have first : usage.Poised rule (trial.asked :: now :: rest.map Trial.asked) successes :=
      poised.mono fun time member => by
        rw [List.mem_cons, List.mem_cons] at member
        rw [List.map_cons, List.mem_cons, List.mem_cons]
        exact or_left_comm.mp member
    have counted : Trial.successes (trial :: rest) =
        (if trial.recorded.isSome then 1 else 0) + Trial.successes rest :=
      (List.countP_cons ..).trans (Nat.add_comm ..)
    rw [counted] at below ⊢
    obtain ⟨next, issued⟩ := first.trial fun recorded => by
      rw [if_pos recorded] at below
      omega
    have last := inductionHypothesis next (by
      revert below
      split <;> omega)
    rw [issued, Nat.add_assoc] at last
    exact last

end Usage

/-- The outage of a breaker under a rule. In every reachable state, with the delay of the rule
counted in whole milliseconds: while the breaker is open, a caller is refused exactly before the
delay has passed and is told what is left of it; whatever else happens meanwhile, short of a reset,
nobody is admitted before, and whoever comes first after that gets the probe. While it is
half-open, a caller is refused, without a wait, exactly while a probe is on its way.

After an outage, with no successes, or while half-open without a probe, after some successes, let
`needed` be the successes that the rule still asks for. Then after every row of trials with fewer
successes the next caller gets the probe. If it is dropped, the place is free again and the
successes stay; a success closes the breaker, with an empty window, exactly if it is the last of
those needed, and is answered by no transition before; a failure opens it again, and the delay
starts anew. -/
theorem outages_end (steps : List Step) (rule : BreakerRule) :
    let usage := Usage.run {} steps
    let delay := rule.delay.toDuration.nanos / 10 ^ 6
    (usage.breaker.state = .open →
      (∀ now, usage.answer (.acquire rule now) =
        if now - usage.breaker.openedAt < delay then
          .acquired (.error (.ofMillis (delay - (now - usage.breaker.openedAt))))
        else .acquired (.ok ⟨usage.breaker.generation + 1, true, some .halfOpened⟩)) ∧
      (∀ now, (Duration.ofMillis (delay - (now - usage.breaker.openedAt))).nanos =
        (delay - (now - usage.breaker.openedAt)) * 10 ^ 6) ∧
      ∀ meanwhile, (∀ step ∈ meanwhile, step.Early usage.breaker rule) →
        (∀ answer ∈ usage.answers meanwhile, ∀ permit, answer ≠ .acquired (.ok permit)) ∧
          ∀ now, usage.breaker.openedAt + delay ≤ now →
            (usage.run meanwhile).answer (.acquire rule now) =
              .acquired (.ok ⟨usage.breaker.generation + 1, true, some .halfOpened⟩)) ∧
    (usage.breaker.state = .halfOpen →
      ∀ now, usage.answer (.acquire rule now) =
        if usage.breaker.probing then .acquired (.error .zero)
        else .acquired (.ok ⟨usage.breaker.generation, true, none⟩)) ∧
    (usage.breaker.probing = true ↔ ∃ number, usage.Probes number) ∧
    ∀ successes,
      (usage.breaker.state = .open ∧ successes = 0 ∨
        usage.breaker.state = .halfOpen ∧ usage.breaker.successes = successes ∧
          ¬∃ number, usage.Probes number) →
      let needed := max 1 (rule.successThreshold.toNat - successes)
      ∀ trials now,
        (usage.breaker.state = .open →
          ∀ time ∈ now :: trials.map Trial.asked, usage.breaker.openedAt + delay ≤ time) →
        Trial.successes trials < needed →
          let reached := usage.run (Trial.steps rule usage.issued trials)
          let number := reached.issued
          let asked := reached.after (.acquire rule now)
          let dropped := asked.after (.drop number)
          (∃ permit, reached.answer (.acquire rule now) = .acquired (.ok permit) ∧
            permit.probe = true ∧ asked.permits.get? number = some permit) ∧
          (asked.answer (.drop number) = .done ∧
            dropped.breaker.state = .halfOpen ∧ dropped.breaker.probing = false ∧
              dropped.breaker.successes = successes + Trial.successes trials) ∧
          ∀ later,
            let succeeded := asked.after (.record number rule later false)
            let failed := asked.after (.record number rule later true)
            (if Trial.successes trials + 1 < needed then
              asked.answer (.record number rule later false) = .recorded none ∧
                succeeded.breaker.state = .halfOpen ∧ succeeded.breaker.probing = false ∧
                  succeeded.breaker.successes = successes + Trial.successes trials + 1
            else
              asked.answer (.record number rule later false) = .recorded (some .closed) ∧
                succeeded.breaker.state = .closed ∧ succeeded.breaker.window = []) ∧
            asked.answer (.record number rule later true) = .recorded (some (.opened 1 1)) ∧
              failed.breaker = asked.breaker.trip later := by
  intro usage delay
  have coherent : usage.Coherent := Usage.Coherent.start.run steps
  refine ⟨fun state =>
      ⟨fun now => ?_, fun now => nanos_ofMillis_sub _ _, fun meanwhile early => ?_⟩,
    fun state now => ?_, coherent.probing, fun successes start => ?_⟩
  · unfold Usage.answer
    rw [Usage.perform_open state]
    split <;> rfl
  · obtain ⟨same, refused⟩ := coherent.early_run state early
    refine ⟨refused, fun now late => ?_⟩
    have still : (usage.run meanwhile).breaker.state = .open := by rw [same, state]
    unfold Usage.answer
    rw [Usage.perform_open still, same, if_neg (by omega)]
    rfl
  · unfold Usage.answer
    rw [Usage.perform_halfOpen state]
    split <;> rfl
  · intro needed trials now late few reached number asked dropped
    have poised : usage.Poised rule (now :: trials.map Trial.asked) successes := by
      rcases start with ⟨state, rfl⟩ | ⟨state, rfl, free⟩
      · exact .late state (late state)
      · have idle := Bool.eq_false_iff.mpr fun probing => free (coherent.probing.mp probing)
        exact .idle state idle
    obtain ⟨permit, admitted, probing, -⟩ :=
      (poised.trials few).ask (List.mem_singleton_self now)
    have drop : asked.perform (.drop number) = _ := probing.drop
    have succeed (later : Nat) : asked.perform (.record number rule later false) = _ :=
      probing.succeed later
    have fail (later : Nat) : asked.perform (.record number rule later true) = _ :=
      probing.fail later
    refine ⟨⟨permit, admitted, probing.probe, probing.live⟩, ?_, fun later => ?_⟩
    · simp only [dropped, Usage.answer, Usage.after, drop]
      exact ⟨trivial, probing.state, rfl, probing.counted⟩
    · intro succeeded failed
      refine ⟨?_, ?_⟩
      · simp only [succeeded, Usage.answer, Usage.after, succeed]
        by_cases last : Trial.successes trials + 1 < needed
        · rw [if_pos last, if_pos (by omega)]
          exact ⟨rfl, probing.state, rfl, rfl⟩
        · rw [if_neg last, if_neg (by omega)]
          exact ⟨rfl, rfl, rfl⟩
      · simp only [failed, Usage.answer, Usage.after, fail]
        exact ⟨trivial, rfl⟩

/-- A dropped probe and two successful ones end an outage under a rule that asks for two. -/
theorem two_successes_end_an_outage :
    let rule : BreakerRule := ⟨.millis 10, 1, 0.5, 2⟩
    let usage := Usage.run {} [.acquire rule 0, .record 0 rule 0 true]
    let trials : List Trial := [⟨10, none⟩, ⟨11, some 12⟩]
    let reached := usage.run (Trial.steps rule usage.issued trials)
    let asked := reached.after (.acquire rule 13)
    usage.breaker.state = .open ∧ Trial.successes trials = 1 ∧
      asked.answer (.record reached.issued rule 14 false) = .recorded (some .closed) ∧
        (asked.after (.record reached.issued rule 14 false)).breaker.state = .closed := by
  intro rule usage trials reached asked
  have started : usage.breaker.state = .open ∧ usage.breaker.openedAt = 0 := by decide
  have delay : rule.delay.toDuration.nanos / 10 ^ 6 = 10 := by decide
  have late : ∀ time ∈ 13 :: trials.map Trial.asked,
      usage.breaker.openedAt + rule.delay.toDuration.nanos / 10 ^ 6 ≤ time := by
    rw [started.2, delay]
    decide
  obtain ⟨-, -, -, ends⟩ := outages_end [.acquire rule 0, .record 0 rule 0 true] rule
  have ends := ends 0 (.inl ⟨started.1, rfl⟩) trials 13 (fun _ => late) (by decide)
  have closes := (ends.2.2 14).1
  have last : ¬Trial.successes trials + 1 < max 1 (rule.successThreshold.toNat - 0) := by decide
  rw [if_neg last] at closes
  obtain ⟨told, closed, -⟩ := closes
  refine ⟨started.1, by decide, told, ?_⟩
  simp only [asked, reached, usage]
  exact closed

end Resilience.Breaker
