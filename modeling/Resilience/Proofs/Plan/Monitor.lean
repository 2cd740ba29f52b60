import Resilience.Proofs.Plan.Path

/-!
Monitors: what may be asked after what was asked and answered before. Whether a plan keeps to a
monitor is decided plan by plan, over all answers, and then holds along every path.
-/

namespace Resilience

/-- A watcher of exchanges: the requests that it allows in each of its states, and the state after
each exchange. -/
structure Monitor (σ : Type) where
  allows : σ → Request → Prop
  next : σ → Exchange → σ

namespace Monitor

variable {σ α β : Type} (monitor : Monitor σ)

def after (state : σ) (history : List Exchange) : σ := history.foldl monitor.next state

/-- Whether each exchange of a row is allowed after those before it. -/
def Accepts : σ → List Exchange → Prop
  | _, [] => True
  | state, exchange :: rest =>
    monitor.allows state exchange.request ∧ Accepts (monitor.next state exchange) rest

/-- Whether a plan asks, from a state on, only what is allowed, and ends as stated. -/
def Admits : Plan α → σ → (α → σ → Prop) → Prop
  | .done value, state, ends => ends value state
  | .ask request next, state, ends =>
    monitor.allows state request ∧
      ∀ answer, Admits (next answer) (monitor.next state ⟨request, answer⟩) ends

/-- Whether a plan that starts in a state ends in the same one. -/
def Stays (state : σ) (plan : Plan α) : Prop :=
  monitor.Admits plan state fun _ after => after = state

def Ignores (state : σ) (kind : Request → Prop) : Prop :=
  ∀ request, kind request →
    monitor.allows state request ∧ ∀ answer, monitor.next state ⟨request, answer⟩ = state

def only (kind : Request → Prop) : Monitor Unit where
  allows _ := kind
  next state _ := state

variable {monitor} {state : σ} {ends : α → σ → Prop}

@[simp] theorem after_cons (exchange : Exchange) (rest : List Exchange) :
    monitor.after state (exchange :: rest) =
      monitor.after (monitor.next state exchange) rest :=
  rfl

theorem after_append (first second : List Exchange) :
    monitor.after state (first ++ second) = monitor.after (monitor.after state first) second :=
  List.foldl_append

theorem Accepts.append {first second : List Exchange} (before : monitor.Accepts state first)
    (later : monitor.Accepts (monitor.after state first) second) :
    monitor.Accepts state (first ++ second) := by
  induction first generalizing state with
  | nil => exact later
  | cons exchange rest inductionHypothesis => exact ⟨before.1, inductionHypothesis before.2 later⟩

theorem Accepts.before {first second : List Exchange}
    (accepts : monitor.Accepts state (first ++ second)) : monitor.Accepts state first := by
  induction first generalizing state with
  | nil => exact trivial
  | cons exchange rest inductionHypothesis => exact ⟨accepts.1, inductionHypothesis accepts.2⟩

theorem Accepts.later {first second : List Exchange}
    (accepts : monitor.Accepts state (first ++ second)) :
    monitor.Accepts (monitor.after state first) second := by
  induction first generalizing state with
  | nil => exact accepts
  | cons exchange rest inductionHypothesis => exact inductionHypothesis accepts.2

theorem Accepts.last {history : List Exchange} {exchange : Exchange}
    (accepts : monitor.Accepts state (history ++ [exchange])) :
    monitor.allows (monitor.after state history) exchange.request := by
  induction history generalizing state with
  | nil => exact accepts.1
  | cons first rest inductionHypothesis => exact inductionHypothesis accepts.2

theorem Accepts.invariant {history : List Exchange} (accepts : monitor.Accepts state history)
    (holds : List Exchange → σ → Prop) (start : holds [] state)
    (step : ∀ past state exchange, holds past state → monitor.allows state exchange.request →
      holds (past ++ [exchange]) (monitor.next state exchange)) :
    holds history (monitor.after state history) := by
  have goesOn (past : List Exchange) (so : holds past state) :
      holds (past ++ history) (monitor.after state history) := by
    clear start
    induction history generalizing state past with
    | nil => exact (List.append_nil past).symm ▸ so
    | cons exchange rest inductionHypothesis =>
      rw [List.append_cons]
      exact inductionHypothesis accepts.2 _ (step past state exchange so accepts.1)
  exact goesOn [] start

theorem Ignores.mono {kind narrower : Request → Prop} (ignores : monitor.Ignores state kind)
    (narrows : ∀ request, narrower request → kind request) : monitor.Ignores state narrower :=
  fun request asked => ignores request (narrows request asked)

theorem Ignores.accepts {kind : Request → Prop} (ignores : monitor.Ignores state kind)
    {history : List Exchange} (all : ∀ exchange ∈ history, kind exchange.request) :
    monitor.Accepts state history ∧ monitor.after state history = state := by
  induction history with
  | nil => exact ⟨trivial, rfl⟩
  | cons exchange rest inductionHypothesis =>
    obtain ⟨allowed, same⟩ := ignores exchange.request (all exchange (.head _))
    obtain ⟨accepts, stays⟩ := inductionHypothesis fun other later => all other (.tail _ later)
    have unchanged : monitor.next state exchange = state := same exchange.answer
    refine ⟨⟨allowed, ?_⟩, ?_⟩
    · rw [unchanged]
      exact accepts
    · rw [after_cons, unchanged]
      exact stays

theorem admits_bind (plan : Plan α) (next : α → Plan β) {ends : β → σ → Prop} :
    monitor.Admits (plan >>= next) state ends ↔
      monitor.Admits plan state fun value state => monitor.Admits (next value) state ends := by
  induction plan generalizing state with
  | done value => exact Iff.rfl
  | ask request continuation inductionHypothesis =>
    exact and_congr Iff.rfl (forall_congr' fun answer => inductionHypothesis answer)

theorem Admits.mono {plan : Plan α} {wider : α → σ → Prop}
    (admits : monitor.Admits plan state ends)
    (implies : ∀ value state, ends value state → wider value state) :
    monitor.Admits plan state wider := by
  induction plan generalizing state with
  | done value => exact implies value state admits
  | ask request next inductionHypothesis =>
    exact ⟨admits.1, fun answer => inductionHypothesis answer (admits.2 answer)⟩

theorem Admits.leads {plan rest : Plan α} {history : List Exchange}
    (admits : monitor.Admits plan state ends) (leads : plan.Leads history rest) :
    monitor.Accepts state history ∧ monitor.Admits rest (monitor.after state history) ends := by
  induction leads generalizing state with
  | refl => exact ⟨trivial, admits⟩
  | ask _ inductionHypothesis =>
    obtain ⟨allowed, answered⟩ := admits
    obtain ⟨accepts, remains⟩ := inductionHypothesis (answered _)
    exact ⟨⟨allowed, accepts⟩, remains⟩

theorem Stays.bind {plan : Plan α} {next : α → Plan β} {ends : β → σ → Prop}
    (stays : monitor.Stays state plan)
    (admits : ∀ value, monitor.Admits (next value) state ends) :
    monitor.Admits (plan >>= next) state ends := by
  refine (admits_bind plan next).mpr (stays.mono ?_)
  intro value after same
  rw [same]
  exact admits value

theorem Admits.of_only {kind : Request → Prop} {plan : Plan α} {ends : α → Unit → Prop}
    (admits : (only kind).Admits plan () ends) (ignores : monitor.Ignores state kind) :
    monitor.Admits plan state fun value after => ends value () ∧ after = state := by
  induction plan with
  | done value => exact ⟨admits, rfl⟩
  | ask request next inductionHypothesis =>
    obtain ⟨asked, answered⟩ := admits
    obtain ⟨allowed, same⟩ := ignores request asked
    refine ⟨allowed, ?_⟩
    intro answer
    rw [same answer]
    exact inductionHypothesis answer (answered answer)

theorem mem_of_accepts_only {kind : Request → Prop} {history : List Exchange}
    (accepts : (only kind).Accepts () history) :
    ∀ exchange ∈ history, kind exchange.request := by
  induction history with
  | nil => exact fun exchange none => absurd none List.not_mem_nil
  | cons head tail inductionHypothesis =>
    intro exchange member
    rcases List.mem_cons.mp member with rfl | later
    · exact accepts.1
    · exact inductionHypothesis accepts.2 exchange later

end Monitor

namespace Plan

variable {α β : Type} {kind : Request → Prop}

/-- Whether a plan asks only for things of a kind. -/
def Uses (kind : Request → Prop) (plan : Plan α) : Prop := (Monitor.only kind).Stays () plan

@[simp] theorem uses_done (value : α) : (done value).Uses kind := rfl

@[simp] theorem uses_ask (request : Request) (next : request.Answer → Plan α) :
    (ask request next).Uses kind ↔ kind request ∧ ∀ answer, (next answer).Uses kind :=
  Iff.rfl

theorem Uses.bind {plan : Plan α} {next : α → Plan β} (uses : plan.Uses kind)
    (after : ∀ value, (next value).Uses kind) : (plan >>= next).Uses kind :=
  Monitor.Stays.bind uses after

theorem Uses.asks {request : Request} {next : request.Answer → Plan α} (asked : kind request)
    (after : ∀ answer, (next answer).Uses kind) : (ask request done >>= next).Uses kind :=
  ⟨asked, after⟩

theorem Uses.mem {plan rest : Plan α} {history : List Exchange} (uses : plan.Uses kind)
    (leads : plan.Leads history rest) : ∀ exchange ∈ history, kind exchange.request :=
  Monitor.mem_of_accepts_only (Monitor.Admits.leads uses leads).1

theorem Uses.rest {plan rest : Plan α} {history : List Exchange} (uses : plan.Uses kind)
    (leads : plan.Leads history rest) : rest.Uses kind :=
  (Monitor.Admits.leads uses leads).2

theorem Uses.mono {wider : Request → Prop} {plan : Plan α} (uses : plan.Uses kind)
    (widens : ∀ request, kind request → wider request) : plan.Uses wider :=
  Monitor.Admits.mono
    (Monitor.Admits.of_only uses fun request asked => ⟨widens request asked, fun _ => rfl⟩)
    fun _ _ ends => ends.2

theorem Uses.stays {σ : Type} {monitor : Monitor σ} {state : σ} {plan : Plan α}
    (uses : plan.Uses kind) (ignores : monitor.Ignores state kind) :
    monitor.Stays state plan :=
  (Monitor.Admits.of_only uses ignores).mono fun _ _ ends => ends.2

end Plan

end Resilience
