import Resilience.Proofs.Invocation.Attempts

/-!
Paths of invocations. Around what is guarded an invocation asks neither for the breaker nor for an
attempt, so each of its paths is a quiet one, one through what is guarded, and a quiet one again.
-/

namespace Resilience

/-- Whether a path is quiet but for a part of it that goes through a plan. -/
inductive Around {α β : Type} (inner : Plan α) : List Exchange → Plan β → Prop
  | outside {history : List Exchange} {rest : Plan β} (quiet : Quiet history) :
      Around inner history rest
  | inside {before part : List Exchange} {left : Plan α} {rest : Plan β} (quiet : Quiet before)
      (leads : inner.Leads part left) (underway : left.Unended) (unended : rest.Unended) :
      Around inner (before ++ part) rest
  | beyond {before part after : List Exchange} {value : α} {rest : Plan β}
      (quiet : Quiet before) (returns : inner.Returns part value) (quietAfter : Quiet after)
      (closing : rest.Uses Request.Quiet) : Around inner (before ++ part ++ after) rest

theorem Around.lead {α β : Type} {inner : Plan α} {first second : List Exchange} {rest : Plan β}
    (lead : Quiet first) (around : Around inner second rest) :
    Around inner (first ++ second) rest := by
  cases around with
  | outside quiet => exact .outside (.append lead quiet)
  | inside quiet through underway unended =>
    rw [← List.append_assoc]
    exact .inside (.append lead quiet) through underway unended
  | beyond quiet through after closing =>
    rw [← List.append_assoc, ← List.append_assoc]
    exact .beyond (.append lead quiet) through after closing

theorem Around.accepts {α β σ : Type} {monitor : Monitor σ} {state : σ} {inner : Plan α}
    {history : List Exchange} {rest : Plan β} (around : Around inner history rest)
    (ignores : monitor.Ignores state Request.Quiet) (stays : monitor.Stays state inner) :
    monitor.Accepts state history ∧ (¬rest.Unended → monitor.after state history = state) := by
  cases around with
  | outside quiet =>
    obtain ⟨accepts, same⟩ := ignores.accepts quiet
    exact ⟨accepts, fun _ => same⟩
  | inside quiet through _ unended =>
    obtain ⟨accepts, same⟩ := ignores.accepts quiet
    refine ⟨accepts.append ?_, fun ended => absurd unended ended⟩
    rw [same]
    exact (Monitor.Admits.leads stays through).1
  | @beyond before part after _ _ quiet through quietAfter _ =>
    obtain ⟨accepts, same⟩ := ignores.accepts quiet
    obtain ⟨inside, back⟩ := Monitor.Admits.leads stays through
    obtain ⟨accepts', same'⟩ := ignores.accepts quietAfter
    have back : monitor.after state part = state := back
    have middle : monitor.after state (before ++ part) = state := by
      rw [Monitor.after_append, same, back]
    refine ⟨(accepts.append (same.symm ▸ inside)).append (middle.symm ▸ accepts'), ?_⟩
    intro _
    rw [Monitor.after_append, middle, same']

/-- Whether a plan asks, around another one, only for what is quiet. -/
def Plan.Surrounds {α β : Type} (plan : Plan β) (inner : Plan α) : Prop :=
  ∀ history rest, plan.Leads history rest → Around inner history rest

namespace Plan.Surrounds

variable {α β γ : Type} {inner : Plan α} {plan : Plan β} {next : β → Plan γ}

theorem refl (inner : Plan α) : inner.Surrounds inner := by
  intro history rest leads
  cases rest with
  | done value =>
    rw [← List.append_nil history]
    exact .beyond Quiet.nil leads Quiet.nil rfl
  | ask request next => exact .inside Quiet.nil leads trivial trivial

theorem of_quiet (quiet : plan.Uses Request.Quiet) : plan.Surrounds inner :=
  fun _ _ leads => .outside (quiet.mem leads)

theorem quiet_bind (quiet : plan.Uses Request.Quiet)
    (surrounds : ∀ value, (next value).Surrounds inner) : (plan >>= next).Surrounds inner := by
  intro history rest leads
  rcases leads_bind leads with ⟨left, before, -, -⟩ | ⟨first, second, value, rfl, before, follows⟩
  · exact .outside (quiet.mem before)
  · exact .lead (quiet.mem before) (surrounds value second rest follows)

theorem bind_quiet (surrounds : plan.Surrounds inner)
    (quietAfter : ∀ value, (next value).Uses Request.Quiet) : (plan >>= next).Surrounds inner := by
  intro history rest leads
  rcases leads_bind leads with
    ⟨left, before, unended, rfl⟩ | ⟨first, second, value, rfl, before, follows⟩
  · cases surrounds history left before with
    | outside quiet => exact .outside quiet
    | inside quiet through underway _ =>
      exact .inside quiet through underway (unended.bind next)
    | beyond quiet through after closing =>
      exact .beyond quiet through after (closing.bind quietAfter)
  · have tail := (quietAfter value).mem follows
    cases surrounds first (done value) before with
    | outside quiet => exact .outside (.append quiet tail)
    | inside _ _ _ unended => exact unended.elim
    | beyond quiet through after _ =>
      rw [List.append_assoc]
      exact .beyond quiet through (.append after tail) ((quietAfter value).rest follows)

end Plan.Surrounds

namespace Invocation

variable {operation : OperationId} {policy : Policy}

theorem enter_quiet (operation : OperationId) (policy : BulkheadPolicy) :
    (enter operation policy).Uses Request.Quiet := by
  have acquired : enter.acquired.Uses Request.Quiet := by
    simp [enter.acquired, Plan.bulkheadLoad, Plan.emit]
  simp only [enter, Plan.enterBulkhead, Plan.log, Plan.count, Plan.emit, Plan.awaitSlot,
    Plan.ask_bind, Plan.done_bind, Plan.uses_ask]
  refine ⟨trivial, ?_⟩
  rintro ⟨rebuilt, admission, waiting⟩
  cases admission <;> cases rebuilt <;> simp [acquired]

theorem handled_calm (name : String) (category : Category) (fault : Fault) :
    (handled operation name category fault).Uses Request.Calm := by
  apply Plan.Uses.asks trivial
  intro answer
  rcases answer with _ | failure | text
  · exact .asks trivial fun _ => rfl
  · exact .asks trivial fun _ => .asks trivial fun _ => .asks trivial fun _ => rfl
  · exact .asks trivial fun _ => .asks trivial fun _ => .asks trivial fun _ => rfl

theorem recovered_calm (outcome : Outcome) :
    (recovered operation policy outcome).Uses Request.Calm := by
  unfold recovered
  split
  · trivial
  · split
    · split
      · exact handled_calm _ _ _
      · trivial
    · trivial

theorem recovered_quiet (outcome : Outcome) :
    (recovered operation policy outcome).Uses Request.Quiet :=
  (recovered_calm outcome).mono fun _ => Request.quiet_of_calm

theorem report_calm (transition : Option Transition) :
    (report transition).Uses Request.Calm := by
  rcases transition with _ | transition
  · trivial
  · cases transition <;> simp [report, Plan.count, Plan.emit]

theorem report_quiet (transition : Option Transition) :
    (report transition).Uses Request.Quiet :=
  (report_calm transition).mono fun _ => Request.quiet_of_calm

inductive Passage (policy : BreakerPolicy) (guarded : Plan Outcome) :
    List Exchange → Plan Outcome → Prop
  | start : Passage policy guarded [] (throughBreaker policy guarded)
  | rejected {retryAfter : Duration} {tail : List Exchange} {rest : Plan Outcome}
      (quiet : Quiet tail)
      (ends : ∀ value, rest = .done value → value = .error (.circuitOpen retryAfter)) :
      Passage policy guarded
        (⟨.acquirePermit policy.toBreakerRule, .error retryAfter⟩ :: tail) rest
  | inside {transition : Option Transition} {lead part : List Exchange}
      {left rest : Plan Outcome} (quiet : Quiet lead) (leads : guarded.Leads part left)
      (unended : rest.Unended) :
      Passage policy guarded
        (⟨.acquirePermit policy.toBreakerRule, .ok transition⟩ :: (lead ++ part)) rest
  | recorded {transition changed : Option Transition} {lead part tail : List Exchange}
      {outcome : Outcome} {failed : Bool} {rest : Plan Outcome} (quiet : Quiet lead)
      (returns : guarded.Returns part outcome) (sample : policy.sample? outcome = some failed)
      (after : Quiet tail) (ends : ∀ value, rest = .done value → value = outcome) :
      Passage policy guarded
        (⟨.acquirePermit policy.toBreakerRule, .ok transition⟩ :: (lead ++ part ++
          ⟨.recordSample policy.toBreakerRule failed, changed⟩ :: tail)) rest
  | dropped {transition : Option Transition} {lead part : List Exchange} {outcome : Outcome}
      {rest : Plan Outcome} (quiet : Quiet lead) (returns : guarded.Returns part outcome)
      (sample : policy.sample? outcome = none)
      (ends : ∀ value, rest = .done value → value = outcome) :
      Passage policy guarded
        (⟨.acquirePermit policy.toBreakerRule, .ok transition⟩ ::
          (lead ++ part ++ [⟨.dropPermit, ()⟩])) rest

/-- What follows the outcome of what a breaker guards. -/
def settle (policy : BreakerPolicy) (outcome : Outcome) : Plan Outcome :=
  match policy.sample? outcome with
  | some failed =>
    .ask (.recordSample policy.toBreakerRule failed) fun changed =>
      report changed >>= fun _ => .done outcome
  | none => .ask .dropPermit fun _ => .done outcome

def refuse (retryAfter : Duration) : Plan Outcome :=
  .ask (.count .circuitRejections 1) fun _ => .ask (.emit (.breakerRejected retryAfter)) fun _ =>
    .done (.error (.circuitOpen retryAfter))

theorem throughBreaker_eq (policy : BreakerPolicy) (guarded : Plan Outcome) :
    throughBreaker policy guarded = .ask (.acquirePermit policy.toBreakerRule) fun
      | .error retryAfter => refuse retryAfter
      | .ok transition =>
        report transition >>= fun _ => guarded >>= fun outcome => settle policy outcome := by
  refine congrArg (Plan.ask _) (funext ?_)
  intro answer
  cases answer with
  | error retryAfter => rfl
  | ok transition =>
    refine congrArg (report transition >>= ·) (funext ?_)
    intro _
    refine congrArg (guarded >>= ·) (funext ?_)
    intro outcome
    unfold settle
    cases policy.sample? outcome <;> rfl

theorem passage {policy : BreakerPolicy} {guarded : Plan Outcome} {history : List Exchange}
    {rest : Plan Outcome} (leads : (throughBreaker policy guarded).Leads history rest) :
    Passage policy guarded history rest := by
  rw [throughBreaker_eq] at leads
  rcases Plan.leads_ask leads with ⟨rfl, rfl⟩ | ⟨answer, tail, rfl, follows⟩
  · exact throughBreaker_eq policy guarded ▸ .start
  cases answer with
  | error retryAfter =>
    have quiet : (refuse retryAfter).Uses Request.Quiet := by simp [refuse]
    refine .rejected (quiet.mem follows) ?_
    rintro value rfl
    obtain ⟨_, _, -, counted⟩ := Plan.returns_ask.mp follows
    obtain ⟨_, _, -, emitted⟩ := Plan.returns_ask.mp counted
    exact (Plan.returns_done.mp emitted).2.symm
  | ok transition =>
    rcases Plan.leads_bind follows with
      ⟨left, before, unended, rfl⟩ | ⟨lead, tail, _, rfl, before, reached⟩
    · rw [← List.append_nil tail]
      exact .inside ((report_quiet transition).mem before) (.refl guarded) (unended.bind _)
    have quiet := (report_quiet transition).mem before
    rcases Plan.leads_bind reached with
      ⟨left, through, unended, rfl⟩ | ⟨part, tail, outcome, rfl, through, settled⟩
    · exact .inside quiet through (unended.bind (settle policy))
    unfold settle at settled
    cases sample : policy.sample? outcome with
    | none =>
      rw [sample] at settled
      rcases Plan.leads_ask settled with ⟨rfl, rfl⟩ | ⟨⟨⟩, tail, rfl, ended⟩
      · rw [List.append_nil]
        exact .inside quiet through trivial
      · obtain ⟨rfl, rfl⟩ := Plan.leads_done ended
        rw [← List.append_assoc]
        refine .dropped quiet through sample ?_
        rintro value same
        cases same
        rfl
    | some failed =>
      rw [sample] at settled
      rcases Plan.leads_ask settled with ⟨rfl, rfl⟩ | ⟨changed, tail, rfl, ended⟩
      · rw [List.append_nil]
        exact .inside quiet through trivial
      · have told : (report changed >>= fun _ => .done outcome).Uses Request.Quiet :=
          (report_quiet changed).bind fun _ => rfl
        rw [← List.append_assoc]
        refine .recorded quiet through sample (told.mem ended) ?_
        rintro value rfl
        obtain ⟨_, _, _, -, -, same⟩ := Plan.returns_bind.mp ended
        exact (Plan.returns_done.mp same).2.symm

theorem strategies_surrounds :
    (strategies operation policy).Surrounds (guarded operation policy) := by
  have through : (guarded operation policy >>= recovered operation policy).Surrounds
      (guarded operation policy) :=
    (Plan.Surrounds.refl _).bind_quiet recovered_quiet
  unfold strategies
  split
  next => exact through
  next bulkhead _ =>
    refine .quiet_bind (enter_quiet operation bulkhead) ?_
    intro entered
    cases entered with
    | error fault => exact .of_quiet (recovered_quiet (.error fault))
    | ok =>
      have leaves (outcome : Outcome) :
          (recovered operation policy outcome >>= fun outcome =>
            Plan.leaveBulkhead >>= fun _ => pure outcome).Uses Request.Quiet :=
        (recovered_quiet outcome).bind fun _ => .asks trivial fun _ => rfl
      exact (Plan.Surrounds.refl _).bind_quiet leaves

/-- A path of an invocation is quiet, or it goes through what its policy guards and is quiet around
that. -/
theorem plan_around {history : List Exchange} {rest : Plan Outcome}
    (leads : (plan operation).Leads history rest) :
    Quiet history ∨ ∃ policy, resolved? history = some policy ∧
      Around (guarded operation policy) history rest := by
  rcases Plan.leads_ask leads with ⟨rfl, -⟩ | ⟨started, tail, rfl, resolves⟩
  · exact .inl Quiet.nil
  have timed : Quiet [⟨.time, started⟩] := quiet_singleton trivial
  rcases Plan.leads_ask resolves with ⟨rfl, -⟩ | ⟨resolved, tail, rfl, follows⟩
  · exact .inl timed
  have found : Quiet [⟨.resolve, resolved⟩] := quiet_singleton trivial
  cases resolved with
  | none =>
    have logged : (Plan.log ⟨.debug, "faultline::pipeline", "invocation of unregistered operation",
        [("operation", Text.quoted operation)]⟩ >>= fun _ =>
          (pure (.error (.unknownOperation operation)) : Plan Outcome)).Uses Request.Quiet :=
      .asks trivial fun _ => rfl
    exact .inl (.append timed (.append found (logged.mem follows)))
  | some policy =>
    have concluded (outcome : Outcome) : (Plan.time >>= fun finished =>
        Plan.count (outcomeCounter outcome) 1 >>= fun _ =>
          Plan.emit (outcomeEvent (.ofMillis (finished - started)) outcome) >>= fun _ =>
            (pure outcome : Plan Outcome)).Uses Request.Quiet :=
      .asks trivial fun _ => .asks trivial fun _ => .asks trivial fun _ => rfl
    have counted : (Plan.count .invocations 1).Uses Request.Quiet := ⟨trivial, fun _ => rfl⟩
    have surrounds : (Plan.count .invocations 1 >>= fun _ =>
        strategies operation policy >>= _).Surrounds (guarded operation policy) :=
      .quiet_bind counted fun _ => strategies_surrounds.bind_quiet concluded
    refine .inr ⟨policy, rfl, ?_⟩
    exact .lead timed (.lead found (surrounds tail rest follows))

theorem service_around {service : Service} {history : List Exchange} {rest : Plan Outcome}
    (leads : (service.plan operation).Leads history rest) :
    Quiet history ∨ ∃ policy, resolved? history = some policy ∧
      Around (guarded operation policy) history rest := by
  unfold Service.plan at leads
  split at leads
  · exact .inl ((Plan.leads_done leads).1 ▸ Quiet.nil)
  · exact plan_around leads

end Invocation

end Resilience
