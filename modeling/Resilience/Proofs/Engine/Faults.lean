import Resilience.Proofs.Engine.Calls
import Resilience.Proofs.Engine.Onward

/-!
Faults: whatever an invocation returns, its numbers and its causes are those of what happened to it.
-/

namespace Resilience

open Move Mark Invocation

section Looks

variable {α : Type} {actor : Actor} {first point : Point α} {mine : List (Move α)}

theorem Thread.answered (thread : Thread actor first mine point) {exchange : Exchange}
    (member : exchange ∈ history mine) :
    ∃ engine after task permit wait, actor.Holds engine task permit ∧
      engine.answer actor.id task exchange.request wait = (.now exchange.answer, after) ∧
        ⟨actor.id, engine, .answered exchange wait, after⟩ ∈ mine := by
  induction thread with
  | refl => cases member
  | look _ look inductionHypothesis =>
    have earlier (before : exchange ∈ history _) := inductionHypothesis before
    rw [history_append] at member
    rcases List.mem_append.mp member with before | last
    · obtain ⟨engine, after, task, permit, wait, holds, answers, member⟩ := earlier before
      exact ⟨engine, after, task, permit, wait, holds, answers, List.mem_append_left _ member⟩
    · cases look with
      | @answered engine after task request next wait answer permit later holds answers =>
        cases Option.mem_toList.mp last
        exact ⟨engine, after, task, permit, wait, holds, answers,
          List.mem_append_right _ (.head _)⟩
      | waited => cases last

/-- Whatever a task asks for is answered by the end of its thread, except for what it asks for
there. -/
theorem Thread.asked (thread : Thread actor first mine point) :
    ∀ move ∈ mine, ∀ request wait, (∃ answer, move.deed = .answered ⟨request, answer⟩ wait) ∨
      move.deed = .waited request wait ∨ move.deed = .crashed request wait →
        (∃ exchange ∈ history mine, exchange.request = request) ∨
          ∃ next, point.plan = .ask request next := by
  induction thread with
  | refl => exact none_mem_nil
  | @look mine move point after _ look inductionHypothesis =>
    have answered (exchange : Exchange) (told : move.exchange? = some exchange) :
        exchange ∈ history (mine ++ [move]) := by
      rw [history_append, told]
      exact List.mem_append_right _ (.head _)
    refine forall_append (fun other member request wait asks => ?_) fun request wait asks => ?_
    · rcases inductionHypothesis other member request wait asks with
        ⟨exchange, before, same⟩ | ⟨next, same⟩
      · refine .inl ⟨exchange, ?_, same⟩
        rw [history_append]
        exact List.mem_append_left _ before
      · cases look with
        | @answered _ _ _ request _ _ answer =>
          cases same
          exact .inl ⟨_, answered ⟨request, answer⟩ rfl, rfl⟩
        | waited => exact .inr ⟨next, same⟩
    · cases look with
      | @answered _ _ _ request next _ answer =>
        refine .inl ⟨_, answered ⟨request, answer⟩ rfl, ?_⟩
        obtain ⟨_, same⟩ | same | same := asks <;> cases same
        rfl
      | @waited _ _ _ request next =>
        obtain ⟨_, same⟩ | same | same := asks <;> cases same
        exact .inr ⟨next, rfl⟩

end Looks

namespace Invoked

variable {id : TaskId} {operation : OperationId} {input : String} {service : Service}
  {body : Nat → Behaviour Failure} {mine looks rest : List (Move Outcome)}
  {point : Point Outcome}

theorem answered (invoked : Invoked ⟨id, operation, false⟩ service input mine looks rest point)
    {exchange : Exchange} (member : exchange ∈ history mine) :
    ∃ engine after task wait, task.operation = operation ∧
      engine.answer id task exchange.request wait = (.now exchange.answer, after) ∧
        ⟨id, engine, .answered exchange wait, after⟩ ∈ mine := by
  rw [invoked.history_eq] at member
  obtain ⟨engine, after, task, permit, wait, holds, answers, member⟩ :=
    invoked.thread.answered member
  refine ⟨engine, after, task, wait, holds.operation, answers, ?_⟩
  rw [invoked.path]
  exact List.mem_append_left rest member

theorem resolves (invoked : Invoked ⟨id, operation, false⟩ service input mine looks rest point)
    {found : Option Policy} (member : ⟨.resolve, found⟩ ∈ history mine) :
    ∃ move ∈ mine, (∃ wait, move.deed = .answered ⟨.resolve, found⟩ wait) ∧
      found = move.before.registry.resolve? operation := by
  obtain ⟨engine, after, task, wait, rfl, answers, member⟩ := invoked.answered member
  refine ⟨_, member, ⟨wait, rfl⟩, ?_⟩
  have replies : Reply.given (engine.resolve task.operation) = (.now found, after) := answers
  cases replies
  exact engine.resolve_fst task.operation

/-- Whoever is turned away asked the bulkhead of an engine. -/
theorem enters (invoked : Invoked ⟨id, operation, false⟩ service input mine looks rest point)
    {policy : BulkheadPolicy} {admission : Admission}
    (entered : .entered policy admission ∈ marks (history mine)) :
    ∃ move ∈ mine, ∃ task, (move.before.enterBulkhead id task policy).1.admission = admission := by
  obtain ⟨⟨request, answer⟩, member, told⟩ := List.mem_filterMap.mp entered
  cases request with
  | enterBulkhead asked =>
    cases told
    obtain ⟨engine, after, task, wait, -, answers, member⟩ := invoked.answered member
    refine ⟨_, member, task, ?_⟩
    have replies : Reply.given (engine.enterBulkhead id task policy) = (.now answer, after) :=
      answers
    cases replies
    rfl
  | _ => cases told

theorem fails (invoked : Invoked ⟨id, operation, false⟩ (.ofBody (fun _ => none) body) input mine
      looks rest point)
    {number : Nat} {failure : Failure}
    (tried : (number, .error (.inner failure)) ∈ tries (marks (history mine))) :
    (body number).result = .error failure := by
  obtain ⟨mark, shown, tried⟩ := List.mem_filterMap.mp tried
  obtain ⟨⟨request, answer⟩, member, told⟩ := List.mem_filterMap.mp shown
  cases request with
  | attempt other limit heedsCaller =>
    cases told
    cases tried
    have genuine := invoked.genuine _ member
    generalize ended : (Except.error (Fault.inner failure) : Outcome) = outcome at genuine
    cases genuine with
    | responded =>
      have same : (body number).result.mapError Fault.inner = .error (.inner failure) := ended.symm
      cases result : (body number).result with
      | ok text => rw [result] at same; cases same
      | error other => rw [result] at same; cases same; rfl
    | unready unready => cases unready
    | givenUp => cases ended
    | late => cases ended
  | _ => cases told <;> cases tried

/-- The answer of a fallback handler is one of a handler that was registered. -/
theorem handles (invoked : Invoked ⟨id, operation, false⟩ service input mine looks rest point)
    {name : String} {fault : Fault} {result : Except Failure String}
    (handled : .handled name fault (some result) ∈ marks (history mine)) :
    Handled input mine name fault result := by
  obtain ⟨⟨request, answer⟩, member, told⟩ := List.mem_filterMap.mp handled
  cases request with
  | handle =>
    cases told
    exact invoked.genuine _ member
  | _ => cases told

theorem calls_eq_nil {actor : Actor} (invoked : Invoked actor service input mine looks rest point)
    {move : Move Outcome} {outcome : Outcome} (member : move ∈ mine)
    (returned : move.result? = some outcome) (untried : tries (marks (history mine)) = []) :
    calls mine = [] := by
  have heard : Heard (tries (marks (history mine))) := by
    rw [untried]
    exact List.forall_mem_nil _
  rw [invoked.calls_eq member returned heard, untried]
  rfl

end Invoked

/-- Whether the numbers and the causes in the fault of an invocation are those of its policy and of
what happened to it. -/
def Fault.WellFormed (operation : OperationId) (policy : Policy) (input : String)
    (body : Nat → Behaviour Failure) (mine : List (Move Outcome)) : Fault → Prop
  | .inner failure =>
    (∃ number, (calls mine).getLast? = some number ∧ (body number).result = .error failure) ∨
      ∃ name fault, Handled input mine name fault (.error failure)
  | .timeout _ limit =>
    ∃ timeout, policy.timeout = some timeout ∧ limit = timeout.duration.toDuration
  | .circuitOpen retryAfter =>
    ∃ breaker, policy.breaker = some breaker ∧ retryAfter ≤ breaker.delay.toDuration ∧
      (breaker.sampling = .invocation → calls mine = [])
  | .retryExhausted attempts last =>
    ∃ retry category, policy.retry = some retry ∧ attempts = (calls mine).length ∧ 1 ≤ attempts ∧
      attempts ≤ retry.maxRetries.toNat + 1 ∧ Repeats retry last category
  | .bulkheadFull inFlight max waiting =>
    ∃ bulkhead, policy.bulkhead = some bulkhead ∧ inFlight = bulkhead.maxConcurrent.toNat ∧
      max = bulkhead.maxConcurrent.toNat ∧ waiting = bulkhead.queueSize.toNat ∧ calls mine = []
  | .misconfigured other reason =>
    other = operation ∧
      ((∃ retry name, policy.retry = some retry ∧ retry.backoff = .custom name ∧
          reason = "backoff strategy '" ++ name ++ "' is not registered" ∧ calls mine = []) ∨
        ∃ fallback, policy.fallback = some fallback ∧
          reason = "fallback handler '" ++ fallback.handler ++
            "' is not registered for this operation's types")
  | .unknownOperation _ => False
  | .cancelled => True

section WellFormed

variable {id : TaskId} {operation : OperationId} {input : String} {policy : Policy}
  {body : Nat → Behaviour Failure} {mine looks rest : List (Move Outcome)} {point : Point Outcome}
  {move : Move Outcome} {outcome : Outcome} {fault : Fault}

theorem Invocation.Fails.wellFormed (fails : Fails policy 1 (tries (marks (history mine))) fault)
    (invoked : Invoked ⟨id, operation, false⟩ (.ofBody (fun _ => none) body) input mine looks rest
      point)
    (member : move ∈ mine) (returned : move.result? = some outcome) :
    fault.WellFormed operation policy input body mine := by
  cases fails with
  | cancelled => exact trivial
  | @inner failure last lasts heard =>
    refine .inl ⟨last, ?_, invoked.fails (List.mem_of_getLast? lasts)⟩
    rw [invoked.calls_eq member returned heard, List.getLast?_map, lasts]
    rfl
  | timeout declared bound => exact ⟨_, declared, bound⟩
  | refused declared samples within =>
    refine ⟨_, declared, within, fun other => ?_⟩
    rw [samples] at other
    cases other
  | exhausted declared count tried within repeats heard =>
    refine ⟨_, _, declared, ?_, tried, within, repeats⟩
    rw [invoked.calls_eq member returned heard, List.length_map]
    omega

theorem Invocation.Origin.wellFormed (origin : Origin operation policy (marks (history mine)) fault)
    (invoked : Invoked ⟨id, operation, false⟩ (.ofBody (fun _ => none) body) input mine looks rest
      point)
    (member : move ∈ mine) (returned : move.result? = some outcome)
    (full : ∀ bulkhead inFlight max waiting, policy.bulkhead = some bulkhead →
      .entered bulkhead (.full inFlight max waiting) ∈ marks (history mine) →
        inFlight = bulkhead.maxConcurrent.toNat ∧ max = bulkhead.maxConcurrent.toNat ∧
          waiting = bulkhead.queueSize.toNat) :
    fault.WellFormed operation policy input body mine := by
  cases origin with
  | attempts fails => exact fails.wellFormed invoked member returned
  | refused declared samples within untried =>
    exact ⟨_, declared, within, fun _ => invoked.calls_eq_nil member returned untried⟩
  | unmade declared named untried =>
    exact ⟨rfl, .inl ⟨_, _, declared, named, rfl, invoked.calls_eq_nil member returned untried⟩⟩
  | full declared entered untried =>
    obtain ⟨inFlight, max, waiting⟩ := full _ _ _ _ declared entered
    exact ⟨_, declared, inFlight, max, waiting, invoked.calls_eq_nil member returned untried⟩
  | handler handled => exact .inr ⟨_, _, invoked.handles handled⟩
  | missing declared => exact ⟨rfl, .inr ⟨_, declared, rfl⟩⟩

end WellFormed

namespace Onward

variable {first stage : Stage Outcome} {past moves : List (Move Outcome)} {move : Move Outcome}

/-- Whoever is turned away finds all slots taken and the queue full. -/
theorem full (onward : Onward first moves stage) (course : Course past first)
    (member : move ∈ moves) {id : TaskId} {task : Task Outcome} {policy : BulkheadPolicy}
    {inFlight max waiting : Nat}
    (rejected : (move.before.enterBulkhead id task policy).1.admission =
      .full inFlight max waiting) :
    inFlight = policy.slots ∧ max = policy.slots ∧ waiting = policy.queueSize.toNat := by
  obtain ⟨earlier, middle, next, reached, step, -⟩ := onward.reached member
  have same := step.before move (.head _)
  rw [same] at rejected
  exact (reached.course course).attended.custody.full rejected

/-- Who asks for nothing but idle requests leaves every operation as it is all the time. -/
theorem unmoved (onward : Onward first moves stage) (course : Course past first) {id : TaskId}
    (silent : history (own id past) = [])
    (idle : ∀ exchange ∈ history (own id moves), exchange.request.Idle)
    (asks : ∀ move ∈ own id moves, ∀ request wait,
      (∃ answer, move.deed = .answered ⟨request, answer⟩ wait) ∨ move.deed = .waited request wait ∨
        move.deed = .crashed request wait → request.Idle) :
    ∀ move ∈ own id moves, move.before.Unmoved move.after := by
  intro move mine
  obtain ⟨member, same⟩ := List.mem_filter.mp mine
  obtain rfl : move.id = id := by simpa using same
  obtain ⟨earlier, middle, next, reached, step, ⟨later, path⟩⟩ := onward.reached member
  refine (reached.course course).attended.unmoved step (fun exchange before => idle exchange ?_)
    (asks move mine)
  rw [own_append, history_concat, silent, List.nil_append] at before
  rw [← path, List.append_assoc, own_append, history_concat]
  exact List.mem_append_left _ before

end Onward

/-- All that an invocation without a policy asks for is idle, and none of it shows. -/
theorem idle_of_unresolved {history : List Exchange} {started : Nat} {line : LogLine}
    (path : history = [⟨.time, started⟩, ⟨.resolve, none⟩, ⟨.log line, ()⟩]) :
    (∀ exchange ∈ history, exchange.request.Idle) ∧ ⟨.resolve, none⟩ ∈ history ∧
      marks history = [] := by
  subst path
  refine ⟨?_, .tail _ (.head _), rfl⟩
  simp [Request.Idle]

namespace Engine

/-- However invocations and changes of policies interleave: a returned invocation looked its policy
up in the registry as it was then. Without one, it fails as unknown and leaves every operation
alone, and with one, its faults are well-formed. -/
theorem faults_well_formed (engine : Engine Outcome) {past moves : List (Move Outcome)}
    {middle : Engine Outcome} {stage : Stage Outcome}
    (before : Onward ⟨engine.blank, none⟩ past ⟨middle, none⟩) (operation : OperationId)
    (input : String) (body : Nat → Behaviour Failure) (linked cancelled : Bool)
    (onward : Onward ⟨(middle.spawn (invocation operation input (.ofBody (fun _ => none) body)
      linked cancelled)).2, none⟩ moves stage)
    {outcome : Outcome}
    (returned : ∃ move ∈ own middle.nextTask moves, move.result? = some outcome) :
    let mine := own middle.nextTask moves
    (∃ move ∈ mine, (∃ wait, move.deed = .answered ⟨.resolve, resolved? (history mine)⟩ wait) ∧
        resolved? (history mine) = move.before.registry.resolve? operation) ∧
      (∀ policy fault, resolved? (history mine) = some policy → outcome = .error fault →
        fault.WellFormed operation policy input body mine) ∧
      (resolved? (history mine) = none →
        outcome = .error (.unknownOperation operation) ∧ occurrences mine = [] ∧
          calls mine = [] ∧ ∀ move ∈ mine, move.before.Unmoved move.after) := by
  intro mine
  have sound := (before.invoke operation input (.ofBody (fun _ => none) body) linked
    cancelled).sound Registry.sound_empty
  have course : Course past ⟨middle, none⟩ := before.course (.start { engine with registry := {} })
  have silent : history (own middle.nextTask past) = [] :=
    (course.attended.fresh middle.nextTask (Nat.le_refl _)).2
  have invoking := course.invoke operation input (.ofBody (fun _ => none) body) linked cancelled
  obtain ⟨looks, rest, point, invoked⟩ :=
    middle.invoked operation input (.ofBody (fun _ => none) body) linked cancelled onward.run
  obtain ⟨last, ends, finished⟩ := returned
  obtain ⟨done, returns⟩ := invoked.returns ends finished
  have told := (service_returns returns).resolve_right nofun
  have told := plan_tells told fun exchange member => (invoked.genuine exchange member).possible
  cases resolved : resolved? (history mine) with
  | some policy =>
    rw [resolved] at told
    obtain ⟨looked, member, answered, found⟩ := invoked.resolves (resolve_mem resolved)
    refine ⟨⟨looked, member, answered, found⟩, ?_, nofun⟩
    rintro _ fault ⟨⟩ rfl
    refine told.origin.wellFormed invoked ends finished
      fun bulkhead inFlight max waiting declared entered => ?_
    rw [← (onward.resolved_valid sound resolved).slots_eq declared]
    obtain ⟨asked, member, task, rejected⟩ := invoked.enters entered
    exact onward.full invoking (List.mem_of_mem_filter member) rejected
  | none =>
    rw [resolved] at told
    obtain ⟨⟨started, line, path⟩, unknown⟩ := told
    obtain ⟨idle, looked, untold⟩ := idle_of_unresolved path
    refine ⟨invoked.resolves looked, fun _ _ found => ?_, fun _ => ⟨unknown, ?_, ?_, ?_⟩⟩
    · cases found
    · rw [invoked.occurrences_eq ends finished, untold]
      rfl
    · exact invoked.calls_eq_nil ends finished (by rw [untold]; rfl)
    · refine onward.unmoved invoking silent idle fun move member request wait asks => ?_
      rw [invoked.path] at member
      rcases List.mem_append.mp member with early | late
      · rcases invoked.thread.asked move early request wait asks with
          ⟨exchange, member, rfl⟩ | ⟨next, asking⟩
        · rw [← invoked.history_eq] at member
          exact idle exchange member
        · cases done.symm.trans asking
      · rcases invoked.idle ends finished move late with same | ⟨_, same⟩ <;>
          simp [same] at asks

/-- A call that is repeated once and fails twice was made twice. -/
theorem faults_well_formed_repeated :
    let policy : Policy := { retry := some { maxRetries := 1, jitter := .millis 0 } }
    let middle := (blank {}).register "pay" policy |>.2
    let mine := own middle.nextTask (middle.movesOf "pay" failing)
    Fault.WellFormed "pay" policy "" (fun _ => .immediate (.error ⟨"Other", "no"⟩)) mine
      (.retryExhausted 2 (.inner ⟨"Other", "no"⟩)) := by
  intro policy middle mine
  have ended : mine.any fun move =>
      move.result? = some (.error (.retryExhausted 2 (.inner ⟨"Other", "no"⟩))) := by
    decide +kernel
  obtain ⟨move, member, finished⟩ := List.any_eq_true.mp ended
  have known := faults_well_formed {} (.step .refl (.change _ (.register "pay" policy)) rfl) "pay"
    "" (fun _ => .immediate (.error ⟨"Other", "no"⟩)) true false
    (Onward.refl.further (run_starting middle rfl) (by decide +kernel))
    ⟨move, member, of_decide_eq_true finished⟩
  exact known.2.1 policy _ rfl rfl

end Engine

end Resilience
