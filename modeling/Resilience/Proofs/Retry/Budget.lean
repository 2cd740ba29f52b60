import Resilience.Policy.Validity
import Resilience.Proofs.Retry.Rounds

/-!
The time that a row of attempts may take. Before each wait the time that passed and the wait are
compared with the limit in whole milliseconds, which is as good as the exact comparison unless the
limit is below a millisecond: then there is none.
-/

namespace Resilience

@[simp] def Request.Untimed : Request → Prop
  | .clock | .pause _ => False
  | _ => True

namespace RetryPolicy

variable {policy : RetryPolicy}

/-- Whether a wait after so many milliseconds ends before a limit, as exact times. -/
def EndsWithin (limit : Duration) (elapsed : Nat) (delay : Duration) : Prop :=
  elapsed * 10 ^ 6 + delay.nanos < limit.nanos

instance (limit : Duration) (elapsed : Nat) (delay : Duration) :
    Decidable (EndsWithin limit elapsed delay) :=
  inferInstanceAs (Decidable (_ < _))

/-- The comparison of whole milliseconds is safe for a limit of at least one. -/
theorem endsWithin_of_not_exceeds {elapsed : Nat} {delay : Duration}
    (limited : Duration.ofMillis 1 ≤ policy.maxDuration.toDuration)
    (admissible : ¬policy.exceeds elapsed delay) :
    EndsWithin policy.maxDuration.toDuration elapsed delay := by
  have least : 10 ^ 6 ≤ policy.maxDuration.toDuration.nanos := limited
  have most : policy.maxDuration.toDuration.nanos ≤ 2 ^ 64 - 1 := by
    rw [Amount.nanos_toDuration]
    exact Nat.min_le_right _ _
  rw [exceeds_iff] at admissible
  simp only [budget, Duration.millis] at admissible
  unfold EndsWithin
  omega

/-- A limit below a millisecond is never exceeded. -/
theorem exceeds_of_short {elapsed : Nat} {delay : Duration}
    (short : policy.maxDuration.toDuration < Duration.ofMillis 1) :
    policy.exceeds elapsed delay = false := by
  have most : policy.maxDuration.toDuration.nanos < 10 ^ 6 := short
  refine Bool.eq_false_iff.mpr fun exceeds => ?_
  have limited := (exceeds_iff.mp exceeds).1
  simp only [budget, Duration.millis] at limited
  omega

end RetryPolicy

namespace Retrier

open RetryPolicy

variable {retrier : Retrier} {attempt : Nat → Plan Outcome}

/-- The watcher of a row of attempts that began at some time: a wait has to end within the limit.
Its state is the time that the clock showed last. -/
def thrift (limit : Duration) (started : Nat) : Monitor Nat where
  allows now
    | .pause delay => EndsWithin limit (now - started) delay
    | _ => True
  next now
    | ⟨.clock, later⟩ => later
    | _ => now

theorem thrift_ignores (limit : Duration) (started now : Nat) :
    (thrift limit started).Ignores now Request.Untimed := by
  intro request untimed
  cases request <;> first | exact ⟨trivial, fun _ => rfl⟩ | exact untimed.elim

/-- The watcher knows the last reading. -/
theorem thrift_after (limit : Duration) (started now : Nat) (history : List Exchange) :
    (readings (⟨.clock, now⟩ :: history)).getLast? =
      some ((thrift limit started).after now history) := by
  induction history generalizing now with
  | nil => rfl
  | cons exchange rest inductionHypothesis =>
    rcases exchange with ⟨request, answer⟩
    cases request with
    | clock => exact inductionHypothesis answer
    | _ => exact inductionHypothesis now

theorem attempts_thrifty
    (limited : Duration.ofMillis 1 ≤ retrier.policy.maxDuration.toDuration)
    (untimed : ∀ number, (attempt number).Uses Request.Untimed) (started remaining retries : Nat)
    (shown : Nat) :
    (thrift retrier.policy.maxDuration.toDuration started).Admits
      (retrier.attempts attempt started remaining retries) shown fun _ _ => True := by
  let monitor := thrift retrier.policy.maxDuration.toDuration started
  have given (attempts elapsed : Nat) (last : Fault) (stop : RetryStop) (shown : Nat) :
      monitor.Admits (retrier.giveUp attempts elapsed last stop) shown fun _ _ => True :=
    ⟨trivial, fun _ => ⟨trivial, fun _ => trivial⟩⟩
  have jittered (delay : Duration) (shown : Nat) :
      monitor.Stays shown (Plan.jittered retrier.jitter delay) :=
    jittered_stays (fun _ => trivial) fun _ _ => rfl
  refine attempts_induction (fun plan _ => ∀ shown, monitor.Admits plan shown fun _ _ => True)
    (fun remaining retries again shown => ?_) remaining retries shown
  unfold attempts
  refine ((untimed _).stays (thrift_ignores _ _ shown)).bind fun outcome => ?_
  split
  next => exact trivial
  next => exact ⟨trivial, fun _ => ⟨trivial, fun _ => trivial⟩⟩
  next =>
    refine ⟨trivial, fun now => ?_⟩
    split
    next => exact given _ _ _ _ _
    next fewer =>
      refine (jittered _ now).bind fun delay => ?_
      split
      next => exact given _ _ _ _ _
      next admissible =>
        refine ⟨trivial, fun _ => ⟨trivial, fun _ => ?_⟩⟩
        refine ⟨endsWithin_of_not_exceeds limited admissible, fun goesOn => ?_⟩
        cases goesOn with
        | false => exact trivial
        | true => exact again fewer rfl now

/-- Whether every wait between attempts begins so early that it ends before a limit, counted from
the first time that the clock showed to the last. -/
def WaitsWithin (retrier : Retrier) (attempt : Nat → Plan Outcome) (limit : Duration) : Prop :=
  ∀ history delay next, (retrier.run attempt).Leads history (.ask (.pause delay) next) →
    ∃ started now, (readings history).head? = some started ∧
      (readings history).getLast? = some now ∧ EndsWithin limit (now - started) delay

/-- A limit of at least a millisecond is never overrun, whatever the attempts and the random changes
of the delays come to and whatever the clock shows. -/
theorem waits_within_limit
    (limited : Duration.ofMillis 1 ≤ retrier.policy.maxDuration.toDuration)
    (untimed : ∀ number, (attempt number).Uses Request.Untimed) :
    retrier.WaitsWithin attempt retrier.policy.maxDuration.toDuration := by
  intro history delay next leads
  rcases Plan.leads_ask leads with ⟨-, other⟩ | ⟨started, rest, rfl, follows⟩
  · cases other
  · have thrifty := (attempts_thrifty limited untimed started _ 0 started).leads follows
    exact ⟨started, _, rfl, thrift_after _ started started rest, thrifty.2.1⟩

/-- A row of attempts with a second for all of them. -/
def hurried : Retrier :=
  ofPolicy "pay" { maxDuration := .millis 1000, delay := .millis 10 }

theorem waits_within_limit_hurried :
    hurried.policy.problem? = none ∧
      Duration.ofMillis 1 ≤ hurried.policy.maxDuration.toDuration ∧
        hurried.WaitsWithin (Plan.attempt · none false) (.ofMillis 1000) :=
  ⟨by decide, by decide,
    waits_within_limit (by decide) fun number => (Plan.uses_ask _ _).mpr ⟨trivial, fun _ => rfl⟩⟩

theorem attempts_wait {fault : Fault} {category : Category} {started remaining retries now : Nat}
    (repeated : retrier.policy.judge (.error fault) = .failed fault category)
    (still : retrier.jitter = .none)
    (admissible :
      retrier.policy.exceeds (now - started) (retrier.backoff.delay (retries + 1)) = false) :
    ∃ line event next,
      (retrier.attempts (Plan.attempt · none false) started (remaining + 1) retries).Leads
        [⟨.attempt (retries + 1) none false, .error fault⟩, ⟨.clock, now⟩, ⟨.log line, ()⟩,
          ⟨.emit event, ()⟩]
        (.ask (.pause (retrier.backoff.delay (retries + 1))) next) := by
  refine ⟨?line, ?event, ?next, ?path⟩
  case path =>
    unfold attempts
    simp only [Plan.attempt, Plan.ask_bind, Plan.done_bind]
    refine .ask ?_
    simp only [repeated, Plan.clock, Plan.ask_bind, Plan.done_bind]
    refine .ask ?_
    simp only [still, Plan.jittered, Plan.done_bind, admissible, Bool.false_eq_true, if_false,
      Plan.log, Plan.emit, Plan.pause, Plan.ask_bind]
    refine .ask ?_
    exact .ask (.refl _)

/-- A row of attempts with half a millisecond for all of them. -/
def breathless : Retrier :=
  ofPolicy "op" { maxRetries := 1, maxDuration := ⟨500, .micros⟩, jitter := .millis 0 }

/-- A limit of half a millisecond is overrun by a wait that begins after ten milliseconds. -/
theorem waits_beyond_limit :
    breathless.policy.problem? = none ∧ breathless.policy.maxDuration.isZero = false ∧
      ¬breathless.WaitsWithin (Plan.attempt · none false)
        breathless.policy.maxDuration.toDuration := by
  refine ⟨by decide, by decide, fun within => ?_⟩
  have unlimited : breathless.policy.exceeds (10 - 0) (breathless.backoff.delay 1) = false :=
    exceeds_of_short (by decide)
  obtain ⟨line, event, next, leads⟩ := attempts_wait
    (rfl : breathless.policy.judge (.error (.inner ⟨"Down", "Down"⟩)) = .failed _ "Down") rfl
    unlimited
  obtain ⟨started, now, first, last, ends⟩ := within _ _ _ (.ask leads)
  cases first
  cases last
  have overrun : ¬EndsWithin breathless.policy.maxDuration.toDuration 10
      (breathless.backoff.delay 1) := by decide
  exact overrun ends

end Retrier

end Resilience
