import Resilience.Proofs.Invocation.Path

/-!
Cancellations: what an invocation asks for after its caller gave up. It has nothing more to wait
for, hands in no sample and calls no handler, and counts and reports its cancellation.
-/

namespace Resilience

/-- Whether an exchange tells a plan that its caller gave up. -/
def Exchange.givesUp : Exchange → Bool
  | ⟨.awaitSlot, granted⟩ => !granted
  | ⟨.pause _, passed⟩ => !passed
  | ⟨.attempt .., .error .cancelled⟩ => true
  | _ => false

def Counter.isOutcome : Counter → Bool
  | successes | failures | cancellations => true
  | _ => false

def Event.isOutcome : Event → Bool
  | requestSuccess _ | requestFailure _ | requestCancelled _ => true
  | _ => false

def Request.concludes : Request → Bool
  | .count counter _ => counter.isOutcome
  | .emit event => event.isOutcome
  | .handle .. => true
  | _ => false

def Request.Calls : Request → Prop
  | .attempt .. | .handle .. => True
  | _ => False

def conclusions (history : List Exchange) : List Exchange :=
  history.filter fun exchange => exchange.request.concludes

def Policy.samplesInvocations (policy : Policy) : Bool :=
  match policy.breaker with
  | some breaker => breaker.sampling = .invocation
  | none => false

inductive Parting where
  | unresolved
  /-- It may still have to wait. The truth value says whether there is one sample for all attempts,
  which is not handed in yet. -/
  | underway (single : Bool)
  /-- The caller gave up. -/
  | leaving
  /-- The caller gave up, and that was counted. -/
  | counted
  /-- The caller gave up, and that was counted and reported. -/
  | told
  /-- There is nothing left that the caller could give up. -/
  | concluding

namespace Parting

def of (single : Bool) : Outcome → Parting
  | .error .cancelled => leaving
  | _ => underway single

theorem of_uncancelled (single : Bool) {outcome : Outcome} (heard : outcome ≠ .error .cancelled) :
    of single outcome = underway single := by
  unfold of
  split
  · exact absurd rfl heard
  · rfl

end Parting

/-- What an invocation may ask for before and after its caller gave up. -/
def parting : Monitor Parting where
  allows
    | .unresolved, .time | .unresolved, .resolve | .unresolved, .log _ => True
    | .underway _, .resolve => False
    | .underway _, .attempt _ _ heedsCaller => heedsCaller = true
    | .underway _, _ => True
    | .leaving, .count counter amount => counter = .retries ∨ counter = .cancellations ∧ amount = 1
    | .leaving, .dropPermit | .leaving, .leaveBulkhead | .leaving, .time => True
    | .counted, .emit event => ∃ duration, event = .requestCancelled duration
    | .concluding, .attempt .. => False
    | .concluding, request => request.heedsCaller = false
    | _, _ => False
  next
    | .unresolved, ⟨.resolve, some policy⟩ => .underway policy.samplesInvocations
    | .unresolved, ⟨.resolve, none⟩ => .concluding
    | .underway single, ⟨.recordSample .., _⟩ => bif single then .concluding else .underway single
    | .underway single, exchange =>
      bif exchange.givesUp then .leaving
      else bif exchange.request.concludes then .concluding
      else .underway single
    | .leaving, ⟨.count .cancellations _, _⟩ => .counted
    | .counted, _ => .told
    | state, _ => state

theorem conclusions_append (first second : List Exchange) :
    conclusions (first ++ second) = conclusions first ++ conclusions second :=
  List.filter_append ..

theorem conclusions_snoc {exchange : Exchange} (concludes : exchange.request.concludes = false)
    (history : List Exchange) : conclusions (history ++ [exchange]) = conclusions history := by
  rw [conclusions_append]
  unfold conclusions
  rw [List.filter_cons_of_neg (Bool.not_eq_true _ ▸ concludes), List.filter_nil, List.append_nil]

theorem samples_snoc {exchange : Exchange} (unsampled : exchange.sample? = none)
    (history : List Exchange) : samples (history ++ [exchange]) = samples history := by
  rw [samples_append, samples_cons, unsampled]
  exact List.append_nil _

/-- What was recorded as long as an invocation may have to wait: no outcome, and no sample if there
is one for all attempts. -/
def Unrecorded (history : List Exchange) : Parting → Prop
  | .unresolved => conclusions history = [] ∧ samples history = [] ∧ resolved? history = none
  | .underway single => conclusions history = [] ∧ (single = true → samples history = []) ∧
    ∃ policy, resolved? history = some policy ∧ policy.samplesInvocations = single
  | _ => True

theorem resolved?_snoc {past : List Exchange} {policy : Policy}
    (resolved : resolved? past = some policy) (exchange : Exchange) :
    resolved? (past ++ [exchange]) = some policy := by
  rw [resolved?_append, resolved]
  rfl

/-- An exchange that neither concludes nor hands in a sample leaves an invocation unrecorded. -/
theorem Unrecorded.kept {past : List Exchange} {single : Bool} {exchange : Exchange}
    (unrecorded : Unrecorded past (.underway single))
    (concludes : exchange.request.concludes = false) (unsampled : exchange.sample? = none) :
    Unrecorded (past ++ [exchange]) (.underway single) := by
  obtain ⟨unconcluded, unsampledBefore, policy, resolved, samples⟩ := unrecorded
  exact ⟨(conclusions_snoc concludes past).trans unconcluded,
    fun only => (samples_snoc unsampled past).trans (unsampledBefore only),
    policy, resolved?_snoc resolved exchange, samples⟩

theorem Unrecorded.step {past : List Exchange} {state : Parting} {exchange : Exchange}
    (unrecorded : Unrecorded past state) (allowed : parting.allows state exchange.request) :
    Unrecorded (past ++ [exchange]) (parting.next state exchange) := by
  rcases exchange with ⟨request, answer⟩
  cases state with
  | unresolved =>
    obtain ⟨unconcluded, unsampled, unresolved⟩ := unrecorded
    have kept {exchange : Exchange} (concludes : exchange.request.concludes = false)
        (sample : exchange.sample? = none) : conclusions (past ++ [exchange]) = [] ∧
          samples (past ++ [exchange]) = [] :=
      ⟨(conclusions_snoc concludes past).trans unconcluded,
        (samples_snoc sample past).trans unsampled⟩
    have resolves (exchange : Exchange) :
        resolved? (past ++ [exchange]) = resolved? [exchange] := by
      rw [resolved?_append, unresolved]
      rfl
    cases request with
    | time => exact ⟨(kept rfl rfl).1, (kept rfl rfl).2, resolves _⟩
    | log line => exact ⟨(kept rfl rfl).1, (kept rfl rfl).2, resolves _⟩
    | resolve =>
      cases answer with
      | none => exact trivial
      | some policy => exact ⟨(kept rfl rfl).1, fun _ => (kept rfl rfl).2, policy, resolves _, rfl⟩
    | _ => exact allowed.elim
  | underway single =>
    have kept {exchange : Exchange} (concludes : exchange.request.concludes = false)
        (unsampled : exchange.sample? = none) := unrecorded.kept concludes unsampled
    -- An exchange is the caller's, or concludes, or leaves the invocation as it stands.
    cases request with
    | resolve => exact allowed.elim
    | recordSample rule failed =>
      cases single with
      | true => exact trivial
      | false =>
        obtain ⟨unconcluded, -, policy, resolved, samples⟩ := unrecorded
        exact ⟨(conclusions_snoc rfl past).trans unconcluded, nofun,
          policy, resolved?_snoc resolved _, samples⟩
    | awaitSlot =>
      cases answer with
      | false => exact trivial
      | true => exact kept rfl rfl
    | pause delay =>
      cases answer with
      | false => exact trivial
      | true => exact kept rfl rfl
    | attempt number limit heedsCaller =>
      rcases answer with fault | text
      · cases fault with
        | cancelled => exact trivial
        | _ => exact kept rfl rfl
      · exact kept rfl rfl
    | count counter amount => cases counter <;> first | exact trivial | exact kept rfl rfl
    | emit event => cases event <;> first | exact trivial | exact kept rfl rfl
    | handle => exact trivial
    | _ => exact kept rfl rfl
  | concluding => cases request <;> exact trivial
  | told => exact allowed.elim
  | counted => exact trivial
  | leaving =>
    cases request with
    | count counter amount => cases counter <;> exact trivial
    | _ => exact trivial

theorem unrecorded {history : List Exchange} (accepts : parting.Accepts .unresolved history) :
    Unrecorded history (parting.after .unresolved history) :=
  accepts.invariant Unrecorded ⟨rfl, rfl, rfl⟩ fun _ _ _ => Unrecorded.step

/-- The record of a cancelled invocation: one count and one event. -/
def farewell (duration : Duration) : List Exchange :=
  [⟨.count .cancellations 1, ()⟩, ⟨.emit (.requestCancelled duration), ()⟩]

def Recorded (history : List Exchange) : Parting → Prop
  | .leaving => conclusions history = []
  | .counted => conclusions history = [⟨.count .cancellations 1, ()⟩]
  | .told => ∃ duration, conclusions history = farewell duration
  | _ => False

theorem Recorded.step {past : List Exchange} {state : Parting} {exchange : Exchange}
    (recorded : Recorded past state) (allowed : parting.allows state exchange.request) :
    Recorded (past ++ [exchange]) (parting.next state exchange) := by
  rcases exchange with ⟨request, answer⟩
  cases state with
  | leaving =>
    have kept {exchange : Exchange} (concludes : exchange.request.concludes = false) :
        conclusions (past ++ [exchange]) = [] :=
      (conclusions_snoc concludes past).trans recorded
    cases request with
    | count counter amount =>
      rcases allowed with rfl | ⟨rfl, rfl⟩
      · exact kept rfl
      · refine (conclusions_append past _).trans ?_
        rw [show conclusions past = [] from recorded]
        rfl
    | dropPermit => exact kept rfl
    | leaveBulkhead => exact kept rfl
    | time => exact kept rfl
    | _ => exact allowed.elim
  | counted =>
    cases request with
    | emit event =>
      obtain ⟨duration, rfl⟩ := allowed
      refine ⟨duration, (conclusions_append past _).trans ?_⟩
      rw [show conclusions past = _ from recorded]
      rfl
    | _ => exact allowed.elim
  | told => exact allowed.elim
  | _ => exact recorded.elim

theorem recorded {history : List Exchange} (accepts : parting.Accepts .leaving history) :
    Recorded history (parting.after .leaving history) :=
  accepts.invariant Recorded rfl fun _ _ _ => Recorded.step

theorem Recorded.begins {history : List Exchange} {state : Parting}
    (recorded : Recorded history state) :
    ∃ duration, conclusions history <+: farewell duration := by
  cases state with
  | leaving =>
    refine ⟨.ofMillis 0, ?_⟩
    rw [show conclusions history = [] from recorded]
    exact List.nil_prefix
  | counted =>
    refine ⟨.ofMillis 0, ?_⟩
    rw [show conclusions history = _ from recorded]
    exact ⟨_, rfl⟩
  | told =>
    obtain ⟨duration, same⟩ := recorded
    exact ⟨duration, same ▸ List.prefix_rfl⟩
  | _ => exact recorded.elim

/-- What may be asked for once the caller gave up. -/
theorem parting_allows_left {state : Parting} {past : List Exchange} {request : Request}
    (recorded : Recorded past state) (allowed : parting.allows state request) :
    request = .dropPermit ∨ request.OffBreaker ∧ ¬request.Calls := by
  cases state with
  | leaving =>
    cases request with
    | dropPermit => exact .inl rfl
    | count => exact .inr ⟨trivial, not_false⟩
    | leaveBulkhead => exact .inr ⟨trivial, not_false⟩
    | time => exact .inr ⟨trivial, not_false⟩
    | _ => exact allowed.elim
  | counted =>
    cases request with
    | emit => exact .inr ⟨trivial, not_false⟩
    | _ => exact allowed.elim
  | told => exact allowed.elim
  | _ => exact recorded.elim

theorem parting_allows_wait {state : Parting} {request : Request}
    (allowed : parting.allows state request) (heeds : request.heedsCaller = true) :
    ∃ single, state = .underway single := by
  cases state with
  | underway single => exact ⟨single, rfl⟩
  | concluding =>
    cases request with
    | attempt => exact allowed.elim
    | _ => cases heeds.symm.trans allowed
  | _ => cases request <;> first | exact allowed.elim | cases heeds

theorem parting_next_gaveUp {exchange : Exchange} (gaveUp : exchange.givesUp = true)
    (single : Bool) : parting.next (.underway single) exchange = .leaving := by
  rcases exchange with ⟨request, answer⟩
  cases request with
  | awaitSlot =>
    cases answer with
    | false => rfl
    | true => cases gaveUp
  | pause delay =>
    cases answer with
    | false => rfl
    | true => cases gaveUp
  | attempt number limit heedsCaller =>
    rcases answer with fault | text
    · cases fault <;> first | rfl | cases gaveUp
    · cases gaveUp
  | _ => cases gaveUp

theorem parting_allows_attempt {state : Parting} {number : Nat} {limit : Option Duration}
    {heedsCaller : Bool} (allowed : parting.allows state (.attempt number limit heedsCaller)) :
    heedsCaller = true := by
  cases state with
  | underway => exact allowed
  | _ => exact allowed.elim

namespace Invocation

variable {operation : OperationId} {policy : Policy} {single : Bool}

/-- Whether a plan that starts on its way ends where its outcome leaves it. -/
def Departs (single : Bool) (plan : Plan Outcome) : Prop :=
  parting.Admits plan (.underway single) fun outcome state => state = .of single outcome

theorem call_departs (number : Nat) : Departs single (call operation policy number) := by
  refine ⟨rfl, fun outcome => ?_⟩
  rcases outcome with fault | text
  · cases fault with
    | timeout elapsed limit =>
      exact ⟨trivial, fun _ => ⟨trivial, fun _ => ⟨trivial, fun _ => rfl⟩⟩⟩
    | _ => exact rfl
  · exact rfl

theorem report_underway (transition : Option Transition) :
    parting.Stays (.underway single) (report transition) := by
  rcases transition with _ | transition
  · exact rfl
  · cases transition with
    | opened failures samples => exact ⟨trivial, fun _ => ⟨trivial, fun _ => rfl⟩⟩
    | halfOpened => exact ⟨trivial, fun _ => rfl⟩
    | closed => exact ⟨trivial, fun _ => rfl⟩

theorem report_concluding (transition : Option Transition) :
    parting.Stays .concluding (report transition) := by
  rcases transition with _ | transition
  · exact rfl
  · cases transition with
    | opened failures samples => exact ⟨rfl, fun _ => ⟨rfl, fun _ => rfl⟩⟩
    | halfOpened => exact ⟨rfl, fun _ => rfl⟩
    | closed => exact ⟨rfl, fun _ => rfl⟩

/-- A breaker hands in no sample of who gave up, and gives its permit back. -/
theorem throughBreaker_parting {breaker : BreakerPolicy} {guarded : Plan Outcome}
    (inside : Departs single guarded) :
    parting.Admits (throughBreaker breaker guarded) (.underway single) fun outcome state =>
      state = .of single outcome ∨ single = true ∧ state = .concluding := by
  rw [throughBreaker_eq]
  refine ⟨trivial, fun answer => ?_⟩
  cases answer with
  | error retryAfter => exact ⟨trivial, fun _ => ⟨trivial, fun _ => .inl rfl⟩⟩
  | ok transition =>
    refine (report_underway transition).bind fun _ => (Monitor.admits_bind _ _).mpr ?_
    refine inside.mono fun outcome state same => ?_
    subst same
    unfold settle
    by_cases heard : outcome = .error .cancelled
    · subst heard
      exact ⟨trivial, fun _ => .inl rfl⟩
    · cases sample : breaker.sample? outcome with
      | none =>
        rw [Parting.of_uncancelled single heard]
        exact ⟨trivial, fun _ => .inl (Parting.of_uncancelled single heard).symm⟩
      | some failed =>
        rw [Parting.of_uncancelled single heard]
        refine ⟨trivial, fun changed => ?_⟩
        cases single with
        | false =>
          exact (report_underway changed).bind fun _ =>
            .inl (Parting.of_uncancelled false heard).symm
        | true => exact (report_concluding changed).bind fun _ => .inr ⟨rfl, rfl⟩

theorem samplesInvocations_of_found {breaker : BreakerPolicy}
    (found : policy.breaker = some breaker) (sampling : breaker.sampling = .attempt) :
    policy.samplesInvocations = false := by
  unfold Policy.samplesInvocations
  rw [found]
  simp [sampling]

theorem attempt_departs (number : Nat) :
    Departs policy.samplesInvocations (attempt operation policy number) := by
  unfold attempt sampled
  split
  next breaker found =>
    split
    next sampling =>
      rw [samplesInvocations_of_found found sampling]
      refine (throughBreaker_parting (call_departs number)).mono fun outcome state ends => ?_
      rcases ends with same | ⟨never, -⟩
      · exact same
      · cases never
    next => exact call_departs number
  next => exact call_departs number

/-- Where attempts with retries leave an invocation, and what they report of who gave up. -/
def Retries (single : Bool) (ended : Outcome × RetryReport) (state : Parting) : Prop :=
  state = .of single ended.1 ∧ (ended.1 = .error .cancelled → ended.2.stop = .cancelled)

theorem Retries.of_uncancelled {ended : Outcome × RetryReport}
    (heard : ended.1 ≠ .error .cancelled) : Retries single ended (.underway single) :=
  ⟨(Parting.of_uncancelled single heard).symm, fun gaveUp => absurd gaveUp heard⟩

theorem giveUp_parting (retrier : Retrier) (attempts elapsed : Nat) (last : Fault)
    (stop : RetryStop) :
    parting.Admits (retrier.giveUp attempts elapsed last stop) (.underway single)
      (Retries single) := by
  have heard : (.error (.exhausted attempts last) : Outcome) ≠ .error .cancelled := by
    cases last <;> exact nofun
  exact ⟨trivial, fun _ => ⟨trivial, fun _ => .of_uncancelled heard⟩⟩

theorem retried_parting (retrier : Retrier) {attempt : Nat → Plan Outcome}
    (departs : ∀ number, Departs single (attempt number)) (started remaining retries : Nat) :
    parting.Admits (retrier.attempts attempt started remaining retries) (.underway single)
      (Retries single) := by
  refine Retrier.attempts_induction
    (fun plan _ => parting.Admits plan (.underway single) (Retries single))
    (fun remaining retries again => ?_) remaining retries
  unfold Retrier.attempts
  refine (Monitor.admits_bind _ _).mpr ((departs _).mono fun outcome state same => ?_)
  subst same
  by_cases heard : outcome = .error .cancelled
  · subst heard
    exact ⟨rfl, fun _ => rfl⟩
  rw [Parting.of_uncancelled single heard]
  split
  next => exact .of_uncancelled heard
  next => exact ⟨trivial, fun _ => ⟨trivial, fun _ => .of_uncancelled heard⟩⟩
  next =>
    refine ⟨trivial, fun now => ?_⟩
    split
    next => exact giveUp_parting retrier _ _ _ _
    next fewer =>
      refine (Retrier.jittered_stays (fun _ => trivial) fun _ _ => rfl).bind fun delay => ?_
      split
      next => exact giveUp_parting retrier _ _ _ _
      next =>
        refine ⟨trivial, fun _ => ⟨trivial, fun _ => ⟨trivial, fun passed => ?_⟩⟩⟩
        cases passed with
        | false => exact ⟨rfl, fun _ => rfl⟩
        | true => exact again fewer rfl

theorem closing_parting {outcome : Outcome} {report : RetryReport}
    (reports : outcome = .error .cancelled → report.stop = .cancelled) :
    parting.Admits (closing outcome report) (.of single outcome) fun final state =>
      state = .of single final := by
  by_cases heard : outcome = .error .cancelled
  · subst heard
    refine ⟨.inl rfl, fun _ => ?_⟩
    rw [reports rfl]
    exact rfl
  · rw [Parting.of_uncancelled single heard]
    refine ⟨trivial, fun _ => ?_⟩
    rcases report with ⟨retries, stop⟩
    have goesOn := (Parting.of_uncancelled single heard).symm
    cases stop <;> first | exact goesOn | exact ⟨trivial, fun _ => goesOn⟩

theorem attempts_departs :
    Departs policy.samplesInvocations (attempts operation policy) := by
  refine attempts_admits ?_ (attempt_departs 1) (fun fault heard => ?_) fun made => ?_
  · rintro request ⟨name, rfl⟩
    exact ⟨trivial, fun _ => rfl⟩
  · refine (Parting.of_uncancelled _ fun same => ?_).symm
    cases same
    exact heard rfl
  · refine (Monitor.admits_bind _ _).mpr ⟨trivial, fun started => ?_⟩
    refine (retried_parting made attempt_departs started _ 0).mono fun ended state tells => ?_
    obtain ⟨rfl, reports⟩ := tells
    exact closing_parting reports

inductive Parts (single : Bool) : Outcome → Parting → Prop
  | gaveUp : Parts single (.error .cancelled) .leaving
  | underway {outcome : Outcome} : Parts single outcome (.underway single)
  | concluding {outcome : Outcome} : Parts single outcome .concluding

theorem Parts.of (single : Bool) (outcome : Outcome) :
    Parts single outcome (.of single outcome) := by
  by_cases heard : outcome = .error .cancelled
  · subst heard
    exact .gaveUp
  · rw [Parting.of_uncancelled single heard]
    exact .underway

theorem guarded_parting :
    parting.Admits (guarded operation policy) (.underway policy.samplesInvocations)
      (Parts policy.samplesInvocations) := by
  have bare : parting.Admits (attempts operation policy) (.underway policy.samplesInvocations)
      (Parts policy.samplesInvocations) := by
    refine attempts_departs.mono fun outcome state same => ?_
    subst same
    exact .of _ outcome
  unfold guarded sampled
  split
  next breaker found =>
    split
    next =>
      refine (throughBreaker_parting attempts_departs).mono fun outcome state ends => ?_
      rcases ends with rfl | ⟨-, rfl⟩
      · exact .of _ outcome
      · exact .concluding
    next => exact bare
  next => exact bare

theorem handled_parting (name : String) (category : Category) (fault : Fault) :
    parting.Stays .concluding (handled operation name category fault) := by
  refine ⟨rfl, fun answer => ?_⟩
  rcases answer with _ | failure | text
  · exact ⟨rfl, fun _ => rfl⟩
  · exact ⟨rfl, fun _ => ⟨rfl, fun _ => ⟨rfl, fun _ => rfl⟩⟩⟩
  · exact ⟨rfl, fun _ => ⟨rfl, fun _ => ⟨rfl, fun _ => rfl⟩⟩⟩

/-- No fallback answers a caller who gave up. -/
theorem recovered_parting {outcome : Outcome} {state : Parting}
    (parts : Parts single outcome state) :
    parting.Admits (recovered operation policy outcome) state (Parts single) := by
  unfold recovered
  split
  next => exact parts
  next fault =>
    split
    next fallback category _ categorized =>
      have answered : parting.Stays .concluding
          (handled operation fallback.handler category fault) := handled_parting _ _ _
      split
      next =>
        cases parts with
        | gaveUp => cases categorized
        | underway =>
          refine ⟨trivial, fun answer => (answered.2 answer).mono fun final state same => ?_⟩
          cases same
          exact .concluding
        | concluding =>
          refine answered.mono fun final state same => ?_
          cases same
          exact .concluding
      next => exact parts
    next => exact parts

def Enters (single : Bool) (entered : Except Fault Unit) (state : Parting) : Prop :=
  match entered with
  | .ok () => state = .underway single
  | .error fault => state = .of single (.error fault)

theorem enter_parting (operation : OperationId) (bulkhead : BulkheadPolicy) :
    parting.Admits (enter operation bulkhead) (.underway single) (Enters single) := by
  have acquired : parting.Admits enter.acquired (.underway single) (Enters single) :=
    ⟨trivial, fun _ => ⟨trivial, fun _ => rfl⟩⟩
  refine ⟨trivial, ?_⟩
  rintro ⟨rebuilt, admission, waiting⟩
  cases admission with
  | admitted =>
    cases rebuilt with
    | false => exact acquired
    | true => exact ⟨trivial, fun _ => acquired⟩
  | queued ticket =>
    have awaited : parting.Admits (Plan.awaitSlot >>= fun granted =>
        if granted then enter.acquired else pure (.error .cancelled)) (.underway single)
          (Enters single) := by
      refine ⟨trivial, fun granted => ?_⟩
      cases granted with
      | false => exact rfl
      | true => exact acquired
    cases rebuilt with
    | false => exact ⟨trivial, fun _ => ⟨trivial, fun _ => ⟨trivial, fun _ => awaited⟩⟩⟩
    | true =>
      exact ⟨trivial, fun _ => ⟨trivial, fun _ => ⟨trivial, fun _ => ⟨trivial, fun _ => awaited⟩⟩⟩⟩
  | full inFlight max waiting =>
    cases rebuilt with
    | false => exact ⟨trivial, fun _ => ⟨trivial, fun _ => ⟨trivial, fun _ => rfl⟩⟩⟩
    | true =>
      exact ⟨trivial, fun _ => ⟨trivial, fun _ => ⟨trivial, fun _ => ⟨trivial, fun _ => rfl⟩⟩⟩⟩

theorem strategies_parting :
    parting.Admits (strategies operation policy) (.underway policy.samplesInvocations)
      (Parts policy.samplesInvocations) := by
  have through : parting.Admits (guarded operation policy >>= recovered operation policy)
      (.underway policy.samplesInvocations) (Parts policy.samplesInvocations) :=
    (Monitor.admits_bind _ _).mpr (guarded_parting.mono fun _ _ => recovered_parting)
  unfold strategies
  split
  next => exact through
  next bulkhead _ =>
    refine (Monitor.admits_bind _ _).mpr ((enter_parting operation bulkhead).mono ?_)
    rintro (fault | ⟨⟩) state enters
    · cases show state = .of policy.samplesInvocations (.error fault) from enters
      exact recovered_parting (.of _ _)
    · cases show state = .underway policy.samplesInvocations from enters
      refine (Monitor.admits_bind _ _).mpr (guarded_parting.mono fun outcome state parts => ?_)
      refine (Monitor.admits_bind _ _).mpr ((recovered_parting parts).mono ?_)
      intro final state parts
      cases parts with
      | gaveUp => exact ⟨trivial, fun _ => .gaveUp⟩
      | underway => exact ⟨trivial, fun _ => .underway⟩
      | concluding => exact ⟨rfl, fun _ => .concluding⟩

/-- An invocation of a caller who gave up ends as cancelled. -/
theorem service_parting (service : Service) (operation : OperationId) :
    parting.Admits (service.plan operation) .unresolved fun outcome state =>
      state = .unresolved ∨ state = .concluding ∨ state = .told ∧ outcome = .error .cancelled := by
  unfold Service.plan
  split
  · exact .inl rfl
  refine ⟨trivial, fun started => ⟨trivial, fun resolved => ?_⟩⟩
  cases resolved with
  | none => exact ⟨rfl, fun _ => .inr (.inl rfl)⟩
  | some policy =>
    refine ⟨trivial, fun _ => (Monitor.admits_bind (strategies operation policy) _).mpr ?_⟩
    refine strategies_parting.mono fun outcome state parts => ?_
    cases parts with
    | gaveUp => exact ⟨trivial, fun _ => ⟨.inr ⟨rfl, rfl⟩, fun _ => ⟨⟨_, rfl⟩, fun _ =>
        .inr (.inr ⟨rfl, rfl⟩)⟩⟩⟩
    | underway =>
      rcases outcome with fault | text
      · cases fault <;>
          exact ⟨trivial, fun _ => ⟨trivial, fun _ => ⟨rfl, fun _ => .inr (.inl rfl)⟩⟩⟩
      · exact ⟨trivial, fun _ => ⟨trivial, fun _ => ⟨rfl, fun _ => .inr (.inl rfl)⟩⟩⟩
    | concluding =>
      exact ⟨rfl, fun _ => ⟨rfl, fun _ => ⟨rfl, fun _ => .inr (.inl rfl)⟩⟩⟩

end Invocation

end Resilience
