import Mathlib.Algebra.Group.Pi.Lemmas
import Mathlib.Algebra.Ring.Int.Defs
import Resilience.Proofs.Invocation.Cancellation

/-!
Balance: what an invocation counts it also tells. Each strategy leaves the books as it found them,
whatever it is answered, but for a retry that is told before a pause in which the caller gave up.
-/

namespace Resilience

def Event.counter? : Event → Option Counter
  | retryAttempt .. => some .retries
  | retryAborted .. => some .retriesAborted
  | retryExhausted .. => some .retriesExhausted
  | breakerOpened .. => some .circuitOpened
  | breakerRejected _ => some .circuitRejections
  | bulkheadQueued .. => some .bulkheadQueued
  | bulkheadRejected .. => some .bulkheadRejections
  | timeoutOccurred .. => some .timeouts
  | fallbackApplied .. => some .fallbacksApplied
  | fallbackFailed .. => some .fallbacksFailed
  | requestSuccess _ => some .successes
  | requestFailure _ => some .failures
  | requestCancelled _ => some .cancellations
  | breakerHalfOpen | breakerClosed | bulkheadAcquired .. => none

theorem Event.counter?_ne_invocations (event : Event) : event.counter? ≠ some .invocations := by
  cases event <;> exact nofun

def Exchange.breaksPause : Exchange → Bool
  | ⟨.pause _, false⟩ => true
  | _ => false

def counted (counter : Counter) (amount : Nat) : Counter → Int :=
  Pi.single counter (amount : Int) -
    if counter.isOutcome then Pi.single .invocations (amount : Int) else 0

def told (event : Event) : Counter → Int :=
  match event.counter? with
  | some counter => Pi.single counter 1
  | none => 0

/-- The books of an invocation: how much more was counted than told. A retry that is told and never
made is entered when the pause before it ends. -/
def balance : Monitor (Counter → Int) where
  allows _ _ := True
  next
    | books, ⟨.count counter amount, _⟩ => books + counted counter amount
    | books, ⟨.emit event, _⟩ => books - told event
    | books, ⟨.pause _, false⟩ => books + Pi.single .retries 1
    | books, _ => books

variable {books : Counter → Int} {counter : Counter} {event : Event}

theorem counted_of_inner (inner : counter.isOutcome = false) (amount : Nat) :
    counted counter amount = Pi.single counter (amount : Int) := by
  unfold counted
  rw [inner, if_neg Bool.false_ne_true, sub_zero]

theorem told_of_counter (goes : event.counter? = some counter) :
    told event = Pi.single counter 1 := by
  unfold told
  rw [goes]

theorem sub_told (silent : event.counter? = none) : books - told event = books := by
  unfold told
  rw [silent]
  exact sub_zero books

theorem counted_told (goes : event.counter? = some counter) (inner : counter.isOutcome = false) :
    books + counted counter 1 - told event = books := by
  rw [counted_of_inner inner, told_of_counter goes]
  exact add_sub_cancel_right books _

theorem counted_outcome (goes : event.counter? = some counter)
    (outcome : counter.isOutcome = true) :
    books + counted .invocations 1 + counted counter 1 - told event = books := by
  have begun : counted .invocations 1 = Pi.single .invocations ((1 : Nat) : Int) :=
    counted_of_inner rfl 1
  have ended : counted counter 1 =
      Pi.single counter ((1 : Nat) : Int) - Pi.single .invocations ((1 : Nat) : Int) := by
    unfold counted
    rw [outcome, if_pos rfl]
  rw [begun, ended, told_of_counter goes]
  funext other
  simp

namespace Invocation

variable {operation : OperationId} {policy : Policy}

theorem report_balanced (transition : Option Transition) :
    balance.Stays books (report transition) := by
  rcases transition with _ | transition
  · exact rfl
  · cases transition with
    | opened failures samples =>
      exact ⟨trivial, fun _ => ⟨trivial, fun _ => counted_told rfl rfl⟩⟩
    | halfOpened => exact ⟨trivial, fun _ => sub_told rfl⟩
    | closed => exact ⟨trivial, fun _ => sub_told rfl⟩

theorem throughBreaker_balanced {breaker : BreakerPolicy} {guarded : Plan Outcome}
    (inside : balance.Stays books guarded) :
    balance.Stays books (throughBreaker breaker guarded) := by
  rw [throughBreaker_eq]
  refine ⟨trivial, fun answer => ?_⟩
  cases answer with
  | error retryAfter => exact ⟨trivial, fun _ => ⟨trivial, fun _ => counted_told rfl rfl⟩⟩
  | ok transition =>
    refine (report_balanced transition).bind fun _ => inside.bind fun outcome => ?_
    unfold settle
    cases breaker.sample? outcome with
    | none => exact ⟨trivial, fun _ => rfl⟩
    | some failed => exact ⟨trivial, fun changed => (report_balanced changed).bind fun _ => rfl⟩

theorem sampled_balanced {sampling : Sampling} {guarded : Plan Outcome}
    (inside : balance.Stays books guarded) :
    balance.Stays books (sampled policy sampling guarded) := by
  unfold sampled
  split
  · split
    · exact throughBreaker_balanced inside
    · exact inside
  · exact inside

theorem attempt_balanced (number : Nat) :
    balance.Stays books (attempt operation policy number) := by
  refine sampled_balanced ⟨trivial, fun outcome => ?_⟩
  rcases outcome with fault | text
  · cases fault with
    | timeout elapsed limit =>
      exact ⟨trivial, fun _ => ⟨trivial, fun _ => ⟨trivial, fun _ => counted_told rfl rfl⟩⟩⟩
    | _ => exact rfl
  · exact rfl

def due (report : RetryReport) : Counter → Int :=
  Pi.single .retries (report.retries : Int) +
    (stopCounter? report.stop).elim 0 fun counter => Pi.single counter 1

theorem due_of_unstopped {stop : RetryStop} (silent : stopCounter? stop = none) (retries : Nat) :
    due ⟨retries, stop⟩ = Pi.single .retries (retries : Int) := by
  unfold due
  rw [silent]
  exact add_zero _

theorem due_of_stopped {stop : RetryStop} (counts : stopCounter? stop = some counter)
    (retries : Nat) :
    due ⟨retries, stop⟩ = Pi.single .retries (retries : Int) + Pi.single counter 1 := by
  unfold due
  rw [counts]
  rfl

def Reports (books : Counter → Int) (ended : Outcome × RetryReport)
    (after : Counter → Int) : Prop :=
  after = books - due ended.2

theorem stopCounter?_of_final {retry : RetryPolicy} {outcome : Outcome} {stop : RetryStop}
    (final : retry.judge outcome = .final stop) : stopCounter? stop = none := by
  unfold RetryPolicy.judge at final
  repeat' split at final
  all_goals first | cases final; rfl | cases final

theorem giveUp_balanced (retrier : Retrier) (retries elapsed : Nat) (last : Fault)
    {stop : RetryStop} (exhausts : stopCounter? stop = some .retriesExhausted) :
    balance.Admits (retrier.giveUp (retries + 1) elapsed last stop)
      (books - Pi.single .retries (retries : Int)) (Reports books) := by
  refine ⟨trivial, fun _ => ⟨trivial, fun _ => ?_⟩⟩
  show books - Pi.single .retries (retries : Int) - told (.retryExhausted ..) =
    books - due ⟨retries, stop⟩
  rw [due_of_stopped exhausts, told_of_counter rfl, sub_sub]

/-- Each retry that is made is told once, and so is the end of a row of failures. -/
theorem retried_balanced (retrier : Retrier) {attempt : Nat → Plan Outcome}
    (stays : ∀ (books : Counter → Int) (number : Nat), balance.Stays books (attempt number))
    (started remaining retries : Nat) :
    balance.Admits (retrier.attempts attempt started remaining retries)
      (books - Pi.single .retries (retries : Int)) (Reports books) := by
  refine Retrier.attempts_induction (fun plan retries =>
    balance.Admits plan (books - Pi.single .retries (retries : Int)) (Reports books))
    (fun remaining retries again => ?_) remaining retries
  unfold Retrier.attempts
  refine (stays _ _).bind fun outcome => ?_
  split
  next stop final =>
    show books - Pi.single .retries (retries : Int) = books - due ⟨retries, stop⟩
    rw [due_of_unstopped (stopCounter?_of_final final)]
  next =>
    refine ⟨trivial, fun _ => ⟨trivial, fun _ => ?_⟩⟩
    show books - Pi.single .retries (retries : Int) - told (.retryAborted ..) =
      books - due ⟨retries, .aborted⟩
    rw [due_of_stopped rfl, told_of_counter rfl, sub_sub]
  next =>
    refine ⟨trivial, fun now => ?_⟩
    split
    next => exact giveUp_balanced retrier retries _ _ rfl
    next fewer =>
      refine (Retrier.jittered_stays (fun _ => trivial) fun _ _ => rfl).bind fun delay => ?_
      split
      next => exact giveUp_balanced retrier retries _ _ rfl
      next =>
        refine ⟨trivial, fun _ => ⟨trivial, fun _ => ⟨trivial, fun passed => ?_⟩⟩⟩
        cases passed with
        | false =>
          show books - Pi.single .retries (retries : Int) - told (.retryAttempt ..) +
            Pi.single .retries 1 = books - due ⟨retries, .cancelled⟩
          rw [told_of_counter rfl, due_of_unstopped rfl, sub_add_cancel]
        | true =>
          show balance.Admits (retrier.attempts attempt started fewer (retries + 1))
            (books - Pi.single .retries (retries : Int) - told (.retryAttempt ..))
            (Reports books)
          have made : Pi.single .retries ((retries + 1 : Nat) : Int) =
              (Pi.single .retries (retries : Int) + Pi.single .retries 1 : Counter → Int) := by
            rw [Nat.cast_succ, Pi.single_add]
          rw [told_of_counter rfl, sub_sub, ← made]
          exact again fewer rfl

theorem closing_balanced (outcome : Outcome) (report : RetryReport) :
    balance.Admits (closing outcome report) (books - due report) fun _ after => after = books := by
  rcases report with ⟨retries, stop⟩
  refine ⟨trivial, fun _ => ?_⟩
  show balance.Admits _ (books - due ⟨retries, stop⟩ + counted .retries retries) _
  rw [counted_of_inner rfl]
  cases counts : stopCounter? stop with
  | none =>
    rw [due_of_unstopped counts, sub_add_cancel]
    exact rfl
  | some counter =>
    have inner : counter.isOutcome = false := by
      cases stop <;> cases counts <;> rfl
    refine ⟨trivial, fun _ => ?_⟩
    show books - due ⟨retries, stop⟩ + Pi.single .retries (retries : Int) + counted counter 1 =
      books
    rw [due_of_stopped counts, counted_of_inner inner, add_assoc]
    exact sub_add_cancel books _

theorem attempts_balanced : balance.Stays books (attempts operation policy) := by
  refine attempts_admits ?_ (attempt_balanced 1) (fun _ _ => rfl) fun made => ?_
  · rintro request ⟨name, rfl⟩
    exact ⟨trivial, fun _ => rfl⟩
  · refine (Monitor.admits_bind _ _).mpr ⟨trivial, fun started => ?_⟩
    have none : books - Pi.single .retries ((0 : Nat) : Int) = books := by
      rw [Nat.cast_zero, Pi.single_zero, sub_zero]
    have attempted : balance.Admits (made.attempts (attempt operation policy) started
        made.policy.maxRetries.toNat 0) (books - Pi.single .retries ((0 : Nat) : Int))
        (Reports books) :=
      retried_balanced made (fun _ => attempt_balanced) started _ 0
    rw [none] at attempted
    refine attempted.mono fun ended after reports => ?_
    rw [show after = _ from reports]
    exact closing_balanced ended.1 ended.2

theorem recovered_balanced (outcome : Outcome) :
    balance.Stays books (recovered operation policy outcome) := by
  have answers (name : String) (category : Category) (fault : Fault) :
      balance.Stays books (handled operation name category fault) := by
    refine ⟨trivial, fun answer => ?_⟩
    rcases answer with _ | failure | text
    · exact ⟨trivial, fun _ => rfl⟩
    · exact ⟨trivial, fun _ => ⟨trivial, fun _ => ⟨trivial, fun _ => counted_told rfl rfl⟩⟩⟩
    · exact ⟨trivial, fun _ => ⟨trivial, fun _ => ⟨trivial, fun _ => counted_told rfl rfl⟩⟩⟩
  unfold recovered
  split
  · exact rfl
  · split
    · split
      · exact answers _ _ _
      · exact rfl
    · exact rfl

theorem enter_balanced (operation : OperationId) (bulkhead : BulkheadPolicy) :
    balance.Stays books (enter operation bulkhead) := by
  have acquired : balance.Stays books enter.acquired :=
    ⟨trivial, fun _ => ⟨trivial, fun _ => sub_told rfl⟩⟩
  refine ⟨trivial, ?_⟩
  rintro ⟨rebuilt, admission, waiting⟩
  cases admission with
  | admitted =>
    cases rebuilt with
    | false => exact acquired
    | true => exact ⟨trivial, fun _ => acquired⟩
  | queued ticket =>
    have awaited : balance.Stays books (Plan.awaitSlot >>= fun granted =>
        if granted then enter.acquired else pure (.error .cancelled)) := by
      refine ⟨trivial, fun granted => ?_⟩
      cases granted with
      | false => exact rfl
      | true => exact acquired
    have queues : balance.Admits (Plan.awaitSlot >>= fun granted =>
        if granted then enter.acquired else pure (.error .cancelled))
        (books + counted .bulkheadQueued 1 -
          told (.bulkheadQueued waiting bulkhead.queueSize.toNat))
        fun _ after => after = books := by
      rw [counted_told rfl rfl]
      exact awaited
    cases rebuilt with
    | false => exact ⟨trivial, fun _ => ⟨trivial, fun _ => ⟨trivial, fun _ => queues⟩⟩⟩
    | true =>
      exact ⟨trivial, fun _ => ⟨trivial, fun _ => ⟨trivial, fun _ => ⟨trivial, fun _ => queues⟩⟩⟩⟩
  | full inFlight max waiting =>
    cases rebuilt with
    | false =>
      exact ⟨trivial, fun _ => ⟨trivial, fun _ => ⟨trivial, fun _ => counted_told rfl rfl⟩⟩⟩
    | true =>
      exact ⟨trivial, fun _ => ⟨trivial, fun _ => ⟨trivial, fun _ => ⟨trivial, fun _ =>
        counted_told rfl rfl⟩⟩⟩⟩

theorem strategies_balanced : balance.Stays books (strategies operation policy) := by
  have guards : balance.Stays books (guarded operation policy) :=
    sampled_balanced attempts_balanced
  unfold strategies
  split
  next => exact guards.bind recovered_balanced
  next bulkhead _ =>
    refine (enter_balanced operation bulkhead).bind fun entered => ?_
    cases entered with
    | error fault => exact recovered_balanced _
    | ok =>
      refine guards.bind fun outcome => (recovered_balanced outcome).bind fun final => ?_
      exact ⟨trivial, fun _ => rfl⟩

theorem service_balanced (service : Service) (operation : OperationId) :
    balance.Stays books (service.plan operation) := by
  unfold Service.plan
  split
  · exact rfl
  refine ⟨trivial, fun started => ⟨trivial, fun resolved => ?_⟩⟩
  cases resolved with
  | none => exact ⟨trivial, fun _ => rfl⟩
  | some policy =>
    refine ⟨trivial, fun _ => strategies_balanced.bind fun outcome => ?_⟩
    refine ⟨trivial, fun finished => ⟨trivial, fun _ => ⟨trivial, fun _ => ?_⟩⟩⟩
    have outcomes : (outcomeCounter outcome).isOutcome = true ∧ ∀ duration,
        (outcomeEvent duration outcome).counter? = some (outcomeCounter outcome) := by
      rcases outcome with fault | text
      · cases fault <;> exact ⟨rfl, fun _ => rfl⟩
      · exact ⟨rfl, fun _ => rfl⟩
    exact counted_outcome (outcomes.2 _) outcomes.1

end Invocation

/-- Whether an invocation is past all pauses because its caller gave up. -/
def Parting.isLeft : Parting → Bool
  | leaving | counted | told => true
  | unresolved | underway _ | concluding => false

theorem Parting.isLeft_next {state : Parting} (left : state.isLeft = true) (exchange : Exchange) :
    (parting.next state exchange).isLeft = true := by
  cases state with
  | leaving =>
    rcases exchange with ⟨request, answer⟩
    cases request with
    | count counter amount => cases counter <;> rfl
    | _ => rfl
  | counted => rfl
  | told => rfl
  | _ => cases left

theorem breaks_le_one {history : List Exchange} (accepts : parting.Accepts .unresolved history) :
    history.countP Exchange.breaksPause ≤ 1 := by
  refine Nat.le_trans (accepts.invariant
    (fun past state => past.countP Exchange.breaksPause ≤ state.isLeft.toNat) (Nat.le_refl 0)
    fun past state exchange before allowed => ?_) (Bool.toNat_le _)
  rw [List.countP_append, List.countP_singleton]
  by_cases breaks : exchange.breaksPause = true
  · rcases exchange with ⟨request, answer⟩
    cases request with
    | pause delay =>
      cases answer with
      | true => cases breaks
      | false =>
        obtain ⟨single, rfl⟩ := parting_allows_wait allowed rfl
        exact Nat.succ_le_succ before
    | _ => cases breaks
  · rw [if_neg breaks]
    refine Nat.le_trans before ?_
    cases left : state.isLeft with
    | false => exact Nat.zero_le _
    | true => rw [Parting.isLeft_next left]

end Resilience
