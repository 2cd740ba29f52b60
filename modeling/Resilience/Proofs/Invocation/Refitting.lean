import Resilience.Proofs.Invocation.Story

/-!
Invocations under policies that differ in their fallbacks only. Both ask for the same until the
guarded outcome is there; from then on each recovers it by its own fallback, and asks for nothing
that a later invocation could notice but for giving its slot back.
-/

namespace Resilience

/-- Whether two policies are the same but for their fallbacks. -/
def Policy.Refitted (policy twin : Policy) : Prop := ∃ fallback, twin = { policy with fallback }

/-- Whether an event tells of the answer to an invocation: of a fallback or of the outcome. -/
def Event.isClosing : Event → Bool
  | fallbackApplied .. | fallbackFailed .. | requestSuccess _ | requestFailure _
  | requestCancelled _ => true
  | _ => false

def Counter.isClosing : Counter → Bool
  | successes | failures | cancellations | fallbacksApplied | fallbacksFailed => true
  | _ => false

/-- Whether a request belongs to what an invocation does before its fallback, once the policy is
known. -/
def Request.Guarding : Request → Prop
  | .resolve | .handle .. => False
  | .emit event => event.isClosing = false
  | _ => True

/-- Whether a request belongs to what a fallback handler's answer, or its absence, leads to. -/
def Request.Settling : Request → Prop
  | .time | .log _ | .leaveBulkhead => True
  | .count counter _ => counter.isClosing = true
  | .emit event => event.isClosing = true
  | _ => False

/-- Whether a request asks a fallback handler or follows its answer. -/
def Request.Closing : Request → Prop
  | .handle .. => True
  | request => request.Settling

def Request.Sealing : Request → Prop
  | .time | .leaveBulkhead => True
  | .count counter _ => counter.isClosing = true
  | .emit event => ∃ duration outcome, event = Invocation.outcomeEvent duration outcome
  | _ => False

def Mark.isRecovery : Mark → Bool
  | handled .. | told (.fallbackApplied ..) | told (.fallbackFailed ..) => true
  | entered .. | tried .. | told _ => false

def recoveries (history : List Exchange) : List Mark := (marks history).filter Mark.isRecovery

theorem recoveries_append (first second : List Exchange) :
    recoveries (first ++ second) = recoveries first ++ recoveries second := by
  unfold recoveries
  rw [marks_append, List.filter_append]

theorem recoveries_eq_nil {history : List Exchange}
    (unseen : ∀ exchange ∈ history, ∀ mark, exchange.mark? = some mark → mark.isRecovery = false) :
    recoveries history = [] := by
  refine List.filter_eq_nil_iff.mpr fun mark member => ?_
  obtain ⟨exchange, made, shown⟩ := List.mem_filterMap.mp member
  rw [unseen exchange made mark shown]
  exact Bool.false_ne_true

namespace Request

variable {request : Request}

theorem Guarding.unseen (guarding : request.Guarding) (answer : request.Answer) (mark : Mark)
    (shown : Exchange.mark? ⟨request, answer⟩ = some mark) : mark.isRecovery = false := by
  cases request with
  | emit event =>
    cases shown
    cases event <;> first | rfl | cases guarding
  | handle => exact guarding.elim
  | enterBulkhead | attempt =>
    cases shown
    rfl
  | _ => cases shown

theorem Sealing.unseen (sealing : request.Sealing) (answer : request.Answer) (mark : Mark)
    (shown : Exchange.mark? ⟨request, answer⟩ = some mark) : mark.isRecovery = false := by
  cases request with
  | emit event =>
    cases shown
    obtain ⟨duration, outcome, rfl⟩ := sealing
    rcases outcome with fault | text
    · cases fault <;> rfl
    · rfl
  | handle => exact sealing.elim
  | enterBulkhead | attempt => exact sealing.elim
  | _ => cases shown

theorem Sealing.settling (sealing : request.Sealing) : request.Settling := by
  cases request with
  | emit event =>
    obtain ⟨duration, outcome, rfl⟩ := sealing
    rcases outcome with fault | text
    · cases fault <;> rfl
    · rfl
  | time | leaveBulkhead => exact trivial
  | count => exact sealing
  | _ => exact sealing.elim

theorem Settling.closing (settling : request.Settling) : request.Closing := by
  cases request <;> first | exact settling | exact trivial

theorem Closing.possible (closing : request.Closing) (answer : request.Answer) :
    Exchange.Possible ⟨request, answer⟩ := by
  cases request <;> first | exact trivial | exact closing.elim

theorem Closing.offBreaker (closing : request.Closing) : request.OffBreaker := by
  cases request <;> first | exact trivial | exact closing.elim

end Request

namespace Invocation

variable {operation : OperationId} {policy twin : Policy}

theorem report_guarding (transition : Option Transition) :
    (report transition).Uses Request.Guarding := by
  cases transition with
  | none => exact rfl
  | some transition =>
    cases transition with
    | opened failures samples => exact ⟨trivial, fun _ => ⟨rfl, fun _ => rfl⟩⟩
    | halfOpened => exact ⟨rfl, fun _ => rfl⟩
    | closed => exact ⟨rfl, fun _ => rfl⟩

theorem sampled_guarding {sampling : Sampling} {inside : Plan Outcome}
    (guarding : inside.Uses Request.Guarding) :
    (sampled policy sampling inside).Uses Request.Guarding := by
  have through (breaker : BreakerPolicy) :
      (throughBreaker breaker inside).Uses Request.Guarding := by
    rw [throughBreaker_eq]
    refine ⟨trivial, fun answer => ?_⟩
    cases answer with
    | error retryAfter => exact ⟨trivial, fun _ => ⟨rfl, fun _ => rfl⟩⟩
    | ok transition =>
      refine (report_guarding transition).bind fun _ => guarding.bind fun outcome => ?_
      unfold settle
      cases breaker.sample? outcome with
      | none => exact ⟨trivial, fun _ => rfl⟩
      | some failed =>
        exact ⟨trivial, fun changed => (report_guarding changed).bind fun _ => rfl⟩
  unfold sampled
  split
  next breaker _ =>
    split
    · exact through breaker
    · exact guarding
  next => exact guarding

theorem attempt_guarding (number : Nat) :
    (attempt operation policy number).Uses Request.Guarding := by
  refine sampled_guarding ⟨trivial, fun outcome => ?_⟩
  rcases outcome with fault | text
  · cases fault with
    | timeout elapsed limit =>
      exact ⟨trivial, fun _ => ⟨trivial, fun _ => ⟨rfl, fun _ => rfl⟩⟩⟩
    | _ => exact rfl
  · exact rfl

theorem retried_guarding (retrier : Retrier) {attempt : Nat → Plan Outcome}
    (guarding : ∀ number, (attempt number).Uses Request.Guarding)
    (started remaining retries : Nat) :
    (retrier.attempts attempt started remaining retries).Uses Request.Guarding := by
  have gives (attempts elapsed : Nat) (last : Fault) (stop : RetryStop) :
      (retrier.giveUp attempts elapsed last stop).Uses Request.Guarding :=
    ⟨trivial, fun _ => ⟨rfl, fun _ => rfl⟩⟩
  refine Retrier.attempts_induction (fun plan _ => plan.Uses Request.Guarding)
    (fun remaining retries again => ?_) remaining retries
  unfold Retrier.attempts
  refine (guarding _).bind fun outcome => ?_
  split
  next => exact rfl
  next => exact ⟨trivial, fun _ => ⟨rfl, fun _ => rfl⟩⟩
  next =>
    refine ⟨trivial, fun now => ?_⟩
    split
    next => exact gives _ _ _ _
    next fewer =>
      have jittered : (Plan.jittered retrier.jitter
          (retrier.backoff.delay (retries + 1))).Uses Request.Guarding :=
        Retrier.jittered_stays (fun _ => trivial) fun _ _ => rfl
      refine jittered.bind fun delay => ?_
      split
      next => exact gives _ _ _ _
      next =>
        refine ⟨trivial, fun _ => ⟨rfl, fun _ => ⟨trivial, fun goesOn => ?_⟩⟩⟩
        cases goesOn with
        | false => exact rfl
        | true => exact again fewer rfl

theorem guarded_guarding (operation : OperationId) (policy : Policy) :
    (guarded operation policy).Uses Request.Guarding := by
  refine sampled_guarding (attempts_admits ?_ (attempt_guarding 1) (fun _ _ => rfl) fun made => ?_)
  · rintro request ⟨name, rfl⟩
    exact ⟨trivial, fun _ => rfl⟩
  · have retries : (made.run (attempt operation policy)).Uses Request.Guarding :=
      ⟨trivial, fun started => retried_guarding made attempt_guarding started _ 0⟩
    refine retries.bind fun ended => ?_
    refine ⟨trivial, fun _ => ?_⟩
    cases stopCounter? ended.2.stop with
    | none => exact rfl
    | some counter => exact ⟨trivial, fun _ => rfl⟩

theorem enter_guarding (operation : OperationId) (bulkhead : BulkheadPolicy) :
    (enter operation bulkhead).Uses Request.Guarding := by
  have acquired : enter.acquired.Uses Request.Guarding := ⟨trivial, fun _ => ⟨rfl, fun _ => rfl⟩⟩
  refine ⟨trivial, ?_⟩
  rintro ⟨rebuilt, admission, waiting⟩
  -- Whether the bulkhead was rebuilt is told to the log only.
  have logged {line : LogLine} {rest : Plan (Except Fault Unit)}
      (guarding : rest.Uses Request.Guarding) :
      (if rebuilt then Plan.log line >>= fun _ => rest else rest).Uses Request.Guarding := by
    cases rebuilt with
    | false => exact guarding
    | true => exact ⟨trivial, fun _ => guarding⟩
  cases admission with
  | admitted => exact logged acquired
  | queued ticket =>
    refine logged ⟨trivial, fun _ => ⟨trivial, fun _ => ⟨rfl, fun _ => ⟨trivial, ?_⟩⟩⟩⟩
    intro granted
    cases granted with
    | false => exact rfl
    | true => exact acquired
  | full inFlight max waiting =>
    exact logged ⟨trivial, fun _ => ⟨trivial, fun _ => ⟨rfl, fun _ => rfl⟩⟩⟩

theorem guarded_refitted (refitted : policy.Refitted twin) :
    guarded operation twin = guarded operation policy := by
  obtain ⟨fallback, rfl⟩ := refitted
  rfl

/-- Whether what follows a fallback ends with the outcome that it is given, and does nothing but
seal the invocation. -/
def Seals (closing : Outcome → Plan Outcome) : Prop :=
  ∀ outcome, (Monitor.only Request.Sealing).Admits (closing outcome) () fun result _ =>
    result = outcome

theorem Seals.leave {closing : Outcome → Plan Outcome} (seals : Seals closing) :
    Seals fun outcome => .ask .leaveBulkhead fun _ => closing outcome :=
  fun outcome => ⟨trivial, fun _ => seals outcome⟩

theorem Seals.report (started : Nat) : Seals fun outcome => .ask .time fun finished =>
    .ask (.count (outcomeCounter outcome) 1) fun _ =>
      .ask (.emit (outcomeEvent (.ofMillis (finished - started)) outcome)) fun _ =>
        .done outcome := by
  intro outcome
  have counts : (outcomeCounter outcome).isClosing = true := by
    rcases outcome with fault | text
    · cases fault <;> rfl
    · rfl
  exact ⟨trivial, fun finished => ⟨counts, fun _ => ⟨⟨_, _, rfl⟩, fun _ => rfl⟩⟩⟩

theorem Seals.uses {closing : Outcome → Plan Outcome} (seals : Seals closing) (outcome : Outcome) :
    (closing outcome).Uses Request.Sealing :=
  (seals outcome).mono fun _ _ _ => rfl

theorem Seals.returns {closing : Outcome → Plan Outcome} (seals : Seals closing)
    {outcome result : Outcome} {history : List Exchange}
    (returns : (closing outcome).Returns history result) :
    result = outcome ∧ recoveries history = [] := by
  refine ⟨((seals outcome).leads returns).2, recoveries_eq_nil fun exchange member => ?_⟩
  exact ((seals.uses outcome).mem returns exchange member).unseen exchange.answer

theorem recovered_cases (operation : OperationId) (policy : Policy) (outcome : Outcome) :
    recovered operation policy outcome = .done outcome ∨
      ∃ name fault next, recovered operation policy outcome = .ask (.handle name fault) next ∧
        ∀ answer, (next answer).Uses Request.Settling := by
  have answers (name : String) (category : Category) (fault : Fault) :
      ∃ next, handled operation name category fault = .ask (.handle name fault) next ∧
        ∀ answer, (next answer).Uses Request.Settling := by
    refine ⟨_, rfl, fun answer => ?_⟩
    rcases answer with _ | failure | text
    · exact ⟨trivial, fun _ => rfl⟩
    · exact ⟨rfl, fun _ => ⟨trivial, fun _ => ⟨rfl, fun _ => rfl⟩⟩⟩
    · exact ⟨rfl, fun _ => ⟨trivial, fun _ => ⟨rfl, fun _ => rfl⟩⟩⟩
  unfold recovered
  split
  · exact .inl rfl
  · split
    · split
      · exact .inr ⟨_, _, answers _ _ _⟩
      · exact .inl rfl
    · exact .inl rfl

theorem recovered_closing (operation : OperationId) (policy : Policy) (outcome : Outcome) :
    (recovered operation policy outcome).Uses Request.Closing := by
  rcases recovered_cases operation policy outcome with kept | ⟨name, fault, next, asks, settles⟩
  · rw [kept]
    exact rfl
  · rw [asks]
    exact ⟨trivial, fun answer => (settles answer).mono fun _ => Request.Settling.closing⟩

def answering (operation : OperationId) (policy : Policy) (outcome : Outcome)
    (closing : Outcome → Plan Outcome) : Plan Outcome :=
  recovered operation policy outcome >>= closing

theorem answering_cases (operation : OperationId) (policy : Policy) (outcome : Outcome)
    {closing : Outcome → Plan Outcome} (seals : Seals closing) :
    (answering operation policy outcome closing).Uses Request.Settling ∨
      ∃ name fault next,
        answering operation policy outcome closing = .ask (.handle name fault) next ∧
          ∀ answer, (next answer).Uses Request.Settling := by
  have closes (outcome : Outcome) : (closing outcome).Uses Request.Settling :=
    (seals.uses outcome).mono fun _ => Request.Sealing.settling
  unfold answering
  rcases recovered_cases operation policy outcome with kept | ⟨name, fault, next, asks, settles⟩
  · rw [kept]
    exact .inl (closes outcome)
  · rw [asks]
    exact .inr ⟨name, fault, _, rfl, fun answer => (settles answer).bind closes⟩

theorem answering_closing (operation : OperationId) (policy : Policy) (outcome : Outcome)
    {closing : Outcome → Plan Outcome} (seals : Seals closing) :
    (answering operation policy outcome closing).Uses Request.Closing := by
  rcases answering_cases operation policy outcome seals with settles | ⟨_, _, _, asks, settles⟩
  · exact settles.mono fun _ => Request.Settling.closing
  · rw [asks]
    exact ⟨trivial, fun answer => (settles answer).mono fun _ => Request.Settling.closing⟩

theorem Recovered.recoveries_eq {outcome final : Outcome} {shown : List Mark}
    (recovered : Recovered operation policy outcome shown final) :
    shown.filter Mark.isRecovery = shown := by
  cases recovered <;> rfl

theorem answering_returns {outcome result : Outcome} {closing : Outcome → Plan Outcome}
    (seals : Seals closing) {history : List Exchange}
    (returns : (answering operation policy outcome closing).Returns history result) :
    Recovered operation policy outcome (recoveries history) result := by
  obtain ⟨first, second, final, rfl, recovers, closes⟩ := Plan.returns_bind.mp returns
  obtain ⟨rfl, nothing⟩ := seals.returns closes
  have possible : ∀ exchange ∈ first, exchange.Possible := fun exchange member =>
    ((recovered_closing operation policy outcome).mem recovers exchange member).possible _
  have told := recovered_tells outcome first result recovers possible
  rw [recoveries_append, nothing, List.append_nil]
  show Recovered operation policy outcome ((marks first).filter Mark.isRecovery) result
  rw [told.recoveries_eq]
  exact told

/-- Whether the plans of two invocations ask for the same until each recovers, in its own way, the
outcome that both have. The policies are those that they have found so far. -/
inductive Parallel (operation : OperationId) :
    Option Policy → Option Policy → Plan Outcome → Plan Outcome → Prop
  | done (outcome : Outcome) : Parallel operation none none (.done outcome) (.done outcome)
  | ask {found found' : Option Policy} {request : Request}
      {next next' : request.Answer → Plan Outcome} (guarding : request.Guarding)
      (after : ∀ answer, Parallel operation found found' (next answer) (next' answer)) :
      Parallel operation found found' (.ask request next) (.ask request next')
  | resolve {next next' : Option Policy → Plan Outcome}
      (after : ∀ found found', Option.Rel Policy.Refitted found found' →
        Parallel operation found found' (next found) (next' found')) :
      Parallel operation none none (.ask .resolve next) (.ask .resolve next')
  | part {policy twin : Policy} {closing : Outcome → Plan Outcome}
      (refitted : policy.Refitted twin) (seals : Seals closing) (outcome : Outcome) :
      Parallel operation (some policy) (some twin) (answering operation policy outcome closing)
        (answering operation twin outcome closing)

theorem Parallel.bind {found found' : Option Policy} {α : Type} {plan : Plan α}
    {next next' : α → Plan Outcome} (guarding : plan.Uses Request.Guarding)
    (after : ∀ value, Parallel operation found found' (next value) (next' value)) :
    Parallel operation found found' (plan >>= next) (plan >>= next') := by
  induction plan with
  | done value => exact after value
  | ask request continuation inductionHypothesis =>
    obtain ⟨asked, rest⟩ := guarding
    exact .ask asked fun answer => inductionHypothesis answer (rest answer)

theorem strategies_parallel (refitted : policy.Refitted twin) {closing : Outcome → Plan Outcome}
    (seals : Seals closing) :
    Parallel operation (some policy) (some twin) (strategies operation policy >>= closing)
      (strategies operation twin >>= closing) := by
  have guards : guarded operation twin = guarded operation policy := guarded_refitted refitted
  have declared : twin.bulkhead = policy.bulkhead := by
    obtain ⟨fallback, rfl⟩ := refitted
    rfl
  unfold strategies
  rw [guards, declared]
  cases policy.bulkhead with
  | none =>
    simp only [Plan.bind_assoc]
    exact .bind (guarded_guarding operation policy) (.part refitted seals)
  | some bulkhead =>
    simp only [Plan.bind_assoc]
    refine .bind (enter_guarding operation bulkhead) fun entered => ?_
    cases entered with
    | error fault => exact .part refitted seals (.error fault)
    | ok =>
      simp only [Plan.bind_assoc]
      exact .bind (guarded_guarding operation policy) (.part refitted seals.leave)

theorem service_parallel (service : Service) (operation : OperationId) :
    Parallel operation none none (service.plan operation) (service.plan operation) := by
  unfold Service.plan
  split
  · exact .done _
  refine .ask trivial fun started => .resolve fun found found' related => ?_
  cases related with
  | none => exact .ask trivial fun _ => .done _
  | some refitted => exact .ask trivial fun _ => strategies_parallel refitted (.report started)

/-- Whether two invocations with the same plan have come to these points, having found these
policies, without any fallback so far. -/
structure Paced (plan : Plan Outcome) (found found' : Option Policy)
    (past past' : List Exchange) (rest rest' : Plan Outcome) : Prop where
  leads : plan.Leads past rest
  leads' : plan.Leads past' rest'
  found : resolved? past = found
  found' : resolved? past' = found'
  unrecovered : recoveries past = []
  unrecovered' : recoveries past' = []

namespace Paced

variable {plan rest rest' : Plan Outcome} {found found' : Option Policy}
  {past past' : List Exchange}

theorem start (plan : Plan Outcome) : Paced plan none none [] [] plan plan :=
  ⟨.refl plan, .refl plan, rfl, rfl, rfl, rfl⟩

theorem ask {request : Request} {next next' : request.Answer → Plan Outcome}
    (paced : Paced plan found found' past past' (.ask request next) (.ask request next'))
    (guarding : request.Guarding) (answer : request.Answer) :
    Paced plan found found' (past ++ [⟨request, answer⟩]) (past' ++ [⟨request, answer⟩])
      (next answer) (next' answer) := by
  have looksUp : resolved? [⟨request, answer⟩] = none := by
    cases request <;> first | rfl | exact guarding.elim
  have shows : recoveries [⟨request, answer⟩] = [] :=
    recoveries_eq_nil (List.forall_mem_singleton.mpr (guarding.unseen answer))
  refine ⟨paced.leads.snoc answer, paced.leads'.snoc answer, ?_, ?_, ?_, ?_⟩
  · rw [resolved?_append, looksUp, Option.or_none, paced.found]
  · rw [resolved?_append, looksUp, Option.or_none, paced.found']
  · rw [recoveries_append, shows, paced.unrecovered]
    rfl
  · rw [recoveries_append, shows, paced.unrecovered']
    rfl

theorem resolve {next next' : Option Policy → Plan Outcome}
    (paced : Paced plan none none past past' (.ask .resolve next) (.ask .resolve next'))
    (answer answer' : Option Policy) :
    Paced plan answer answer' (past ++ [⟨.resolve, answer⟩]) (past' ++ [⟨.resolve, answer'⟩])
      (next answer) (next' answer') := by
  have looksUp (answer : Option Policy) : resolved? [⟨.resolve, answer⟩] = answer := by
    cases answer <;> rfl
  refine ⟨paced.leads.snoc answer, paced.leads'.snoc answer', ?_, ?_, ?_, ?_⟩
  · rw [resolved?_append, looksUp, paced.found, Option.none_or]
  · rw [resolved?_append, looksUp, paced.found', Option.none_or]
  · rw [recoveries_append, paced.unrecovered]
    rfl
  · rw [recoveries_append, paced.unrecovered']
    rfl

end Paced

inductive Alongside (operation : OperationId) (plan : Plan Outcome) :
    List Exchange → List Exchange → Prop
  | level {found found' : Option Policy} {past past' : List Exchange} {rest rest' : Plan Outcome}
      (paced : Paced plan found found' past past' rest rest')
      (parallel : Parallel operation found found' rest rest') :
      Alongside operation plan past past'
  | parted {policy twin : Policy} {past past' : List Exchange} {outcome : Outcome}
      {closing : Outcome → Plan Outcome} (refitted : policy.Refitted twin) (seals : Seals closing)
      (paced : Paced plan (some policy) (some twin) past past'
        (answering operation policy outcome closing) (answering operation twin outcome closing))
      (more more' : List Exchange) : Alongside operation plan (past ++ more) (past' ++ more')

/-- How the results of two invocations go together: they are the same where there is no policy, and
else each is what the fallback of its policy makes of the outcome that both had before. -/
inductive Reconciled (operation : OperationId) (history history' : List Exchange)
    (result result' : Outcome) : Prop
  | unregistered (unfound : resolved? history = none) (unfound' : resolved? history' = none)
      (unrecovered : recoveries history = []) (unrecovered' : recoveries history' = [])
      (same : result' = result) : Reconciled operation history history' result result'
  | recovered {policy twin : Policy} {outcome : Outcome} (found : resolved? history = some policy)
      (found' : resolved? history' = some twin) (refitted : policy.Refitted twin)
      (recovered : Recovered operation policy outcome (recoveries history) result)
      (recovered' : Recovered operation twin outcome (recoveries history') result') :
      Reconciled operation history history' result result'

theorem Paced.reconciled {plan : Plan Outcome} {past past' more more' : List Exchange}
    {outcome result result' : Outcome} {closing : Outcome → Plan Outcome}
    (paced : Paced plan (some policy) (some twin) past past'
      (answering operation policy outcome closing) (answering operation twin outcome closing))
    (refitted : policy.Refitted twin) (seals : Seals closing)
    (returns : plan.Returns (past ++ more) result)
    (returns' : plan.Returns (past' ++ more') result') :
    Reconciled operation (past ++ more) (past' ++ more') result result' := by
  have looksUp (first second : List Exchange) {policy : Policy}
      (found : resolved? first = some policy) : resolved? (first ++ second) = some policy := by
    rw [resolved?_append, found]
    rfl
  have tells (first second : List Exchange) (unrecovered : recoveries first = []) :
      recoveries second = recoveries (first ++ second) := by
    rw [recoveries_append, unrecovered]
    rfl
  have recovers := answering_returns seals (paced.leads.cancel returns)
  have recovers' := answering_returns seals (paced.leads'.cancel returns')
  rw [tells past more paced.unrecovered] at recovers
  rw [tells past' more' paced.unrecovered'] at recovers'
  exact .recovered (looksUp past more paced.found) (looksUp past' more' paced.found') refitted
    recovers recovers'

/-- The results of two invocations that went alongside each other go together. -/
theorem Alongside.reconciled {plan : Plan Outcome} {history history' : List Exchange}
    {result result' : Outcome} (alongside : Alongside operation plan history history')
    (returns : plan.Returns history result) (returns' : plan.Returns history' result') :
    Reconciled operation history history' result result' := by
  cases alongside with
  | parted refitted seals paced more more' => exact paced.reconciled refitted seals returns returns'
  | level paced parallel =>
    have ended := paced.leads.unique returns
    have ended' := paced.leads'.unique returns'
    cases parallel with
    | done outcome =>
      cases ended
      cases ended'
      exact .unregistered paced.found paced.found' paced.unrecovered paced.unrecovered' rfl
    | ask => cases ended
    | resolve => cases ended
    | part refitted seals outcome =>
      rw [← List.append_nil history] at returns ⊢
      rw [← List.append_nil history'] at returns' ⊢
      exact paced.reconciled refitted seals returns returns'

end Invocation

end Resilience
