import Resilience.Proofs.Engine.Calls
import Resilience.Proofs.Engine.Cancellation
import Resilience.Proofs.Invocation.Numbering

/-!
Trials: how the attempts of an invocation follow each other in a run. Each begins once at most,
after those before it are over, and whatever begins is answered, crashes, is ended from outside or
is still on its way.
-/

namespace Resilience

open Move

variable {α : Type}

theorem numbers_append (history more : List Exchange) :
    numbers (history ++ more) = numbers history ++ numbers more :=
  List.filterMap_append

section Requests

variable {actor : Actor} {first point next : Point α} {stage : Stage α} {mine : List (Move α)}
  {move : Move α} {request : Request}

theorem Look.asks (look : Look actor point move next) (asks : move.deed.request? = some request) :
    ∃ following, point.plan = .ask request following := by
  cases look with
  | answered | waited =>
    cases asks
    exact ⟨_, rfl⟩

theorem Ending.asks (ending : Ending actor point move)
    (asks : move.deed.request? = some request) :
    ∃ following, point.plan = .ask request following := by
  cases ending with
  | crashed =>
    cases asks
    exact ⟨_, rfl⟩
  | finished | aborted => cases asks

theorem Thread.split (thread : Thread actor first mine point) {earlier later : List (Move α)}
    (path : mine = earlier ++ move :: later) :
    ∃ middle next, Thread actor first earlier middle ∧ Look actor middle move next := by
  induction thread generalizing later with
  | refl => cases List.append_ne_nil_of_right_ne_nil earlier (List.cons_ne_nil move later) path.symm
  | @look looks last middle next thread look inductionHypothesis =>
    rcases List.eq_nil_or_concat later with rfl | ⟨others, other, rfl⟩
    · obtain ⟨rfl, rfl⟩ := List.append_singleton_inj.mp path
      exact ⟨middle, next, thread, look⟩
    · rw [List.concat_eq_append, ← List.cons_append, ← List.append_assoc] at path
      exact inductionHypothesis (List.append_singleton_inj.mp path).1

/-- Whatever a task looks at is what its plan asks for after the answers that it was given. -/
theorem Follows.asks (follows : Follows actor first stage mine) {earlier later : List (Move α)}
    (path : mine = earlier ++ move :: later) (asks : move.deed.request? = some request) :
    ∃ following, first.plan.Leads (history earlier) (.ask request following) := by
  have looked {looks tail : List (Move α)} {point : Point α}
      (thread : Thread actor first looks point) (path : looks = earlier ++ move :: tail) :
      ∃ following, first.plan.Leads (history earlier) (.ask request following) := by
    obtain ⟨middle, next, before, look⟩ := thread.split path
    obtain ⟨following, same⟩ := look.asks asks
    exact ⟨following, same ▸ before.leads⟩
  cases follows with
  | stands thread => exact looked thread path
  | @ends looks rest point thread ended =>
    have closing {skipped : List (Move α)} (before : earlier = looks ++ skipped)
        (left : rest = skipped ++ move :: later) :
        ∃ following, first.plan.Leads (history earlier) (.ask request following) := by
      have endings := ended.mem
      rw [left] at endings
      obtain ⟨gone, last⟩ := List.forall_mem_append.mp endings
      obtain ⟨following, same⟩ := (last move (.head _)).asks asks
      refine ⟨following, ?_⟩
      rw [before, history_of_endings gone, ← same]
      exact thread.leads
    rcases List.append_eq_append_iff.mp path with ⟨skipped, before, left⟩ | ⟨tail, before, left⟩
    · exact closing before left
    · cases tail with
      | nil =>
        rw [List.append_nil] at before
        have path : earlier = looks ++ [] := (before.symm.trans (List.append_nil looks).symm)
        exact closing path left.symm
      | cons head tail =>
        cases left
        exact looked thread before

end Requests

section Begun

variable {actor : Actor} {first point : Point α} {mine : List (Move α)} {move : Move α}

theorem Point.mem_begun {number : Nat} (begun : number ∈ point.begun) :
    ∃ limit heeds next, point.plan = .ask (.attempt number limit heeds) next ∧
      point.wait.isCall = true := by
  rcases point with ⟨plan, wait, permit⟩
  cases plan with
  | done => cases begun
  | ask request next =>
    cases request with
    | attempt other limit heeds =>
      have begun : number ∈ if wait.isCall then [other] else [] := begun
      split at begun
      next calls =>
        cases List.mem_singleton.mp begun
        exact ⟨limit, heeds, next, rfl, calls⟩
      next => cases begun
    | _ => cases begun

def Request.ordinal : Request → List Nat
  | .attempt number .. => [number]
  | _ => []

def Plan.ordinal : Plan α → List Nat
  | .ask request _ => request.ordinal
  | .done _ => []

theorem numbers_single (request : Request) (answer : request.Answer) :
    numbers [⟨request, answer⟩] = request.ordinal := by
  cases request <;> rfl

/-- An attempt begins once, before it is looked at or then, or it does not begin at all. -/
theorem begun_sublist (engine : Engine α) (task : Task α) (request : Request) (wait : Wait) :
    (request.begun wait ++ (engine.starts? task request wait).toList).Sublist
      request.ordinal := by
  cases request with
  | attempt number limit heeds =>
    rw [Engine.starts?_attempt]
    simp only [Request.begun]
    cases wait.isCall with
    | true => exact .refl _
    | false =>
      split
      next impossible => cases impossible
      next =>
        split
        · exact List.nil_sublist _
        · exact .refl _
  | _ => exact List.nil_sublist _

theorem Point.begun_sublist (point : Point α) : point.begun.Sublist point.plan.ordinal := by
  rcases point with ⟨plan, wait, permit⟩
  cases plan with
  | done => exact List.nil_sublist _
  | ask request next =>
    cases request with
    | attempt number limit heeds =>
      show (if wait.isCall then [number] else []).Sublist [number]
      split
      · exact .refl _
      · exact List.nil_sublist _
    | _ => exact List.nil_sublist _

/-- The calls of a task are some of its attempts, each once, and the one that it has started ahead;
an attempt that was given up may have made none. -/
theorem Thread.calls_sublist (thread : Thread actor first mine point) (begins : first.begun = []) :
    (calls mine).Sublist (numbers (history mine) ++ point.begun) := by
  induction thread with
  | refl =>
    rw [begins]
    exact .refl _
  | @look mine move point after _ look inductionHypothesis =>
    rw [calls_append]
    have extended := inductionHypothesis.append (.refl move.call?.toList)
    rw [List.append_assoc] at extended
    cases look with
    | @answered engine after task request next wait answer permit later holds =>
      have unbegun : Point.begun ⟨next answer, .unbegun, later⟩ = [] := Point.begun_of_unbegun rfl
      rw [unbegun, List.append_nil, history_append]
      rw [call?_of_found holds.found (.inl ⟨answer, rfl⟩)] at extended ⊢
      rw [numbers_append]
      change (calls mine ++ _).Sublist (numbers (history mine) ++ numbers [⟨request, answer⟩])
      rw [numbers_single]
      exact extended.trans ((List.Sublist.refl _).append (begun_sublist engine task request wait))
    | waited holds waits =>
      rw [history_append_of_silent rfl]
      rw [call?_of_found holds.found (.inr (.inl rfl))] at extended ⊢
      exact extended.trans ((List.Sublist.refl _).append
        (Engine.begun_of_later waits ▸ List.Sublist.refl _))

/-- What ends a task is looked at like any other request. -/
theorem Ended.calls_sublist {rest : List (Move α)} (ended : Ended actor point rest) :
    (point.begun ++ calls rest).Sublist point.plan.ordinal := by
  induction ended with
  | @ended move ending =>
    have single : calls [move] = move.call?.toList := calls_append [] move
    rw [single]
    cases ending with
    | @crashed engine after final task request next wait permit holds =>
      rw [call?_of_found holds.found (.inr (.inr rfl))]
      exact begun_sublist engine task request wait
    | finished =>
      rw [call?_eq_none (.inr ⟨_, rfl⟩)]
      exact List.nil_sublist _
    | aborted =>
      rw [call?_eq_none (.inl rfl), Option.toList_none, List.append_nil]
      exact point.begun_sublist
  | forgotten _ inductionHypothesis =>
    rw [calls_append, call?_eq_none (.inl rfl), Option.toList_none, List.append_nil]
    exact inductionHypothesis

/-- How an attempt that has begun without an answer may be left: it crashed, or its task was ended
from outside. -/
theorem Ended.left {rest : List (Move α)} (ended : Ended actor point rest) {number : Nat}
    (called : number ∈ point.begun ++ calls rest) : ∃ move ∈ rest, move.deed = .aborted ∨
      ∃ limit heeds wait, move.deed = .crashed (.attempt number limit heeds) wait := by
  have asked := ended.calls_sublist.subset called
  induction ended with
  | @ended move ending =>
    refine ⟨move, .head _, ?_⟩
    cases ending with
    | @crashed engine after final task request next wait =>
      cases request with
      | attempt other limit heeds =>
        cases List.mem_singleton.mp asked
        exact .inr ⟨limit, heeds, wait, rfl⟩
      | _ => cases asked
    | finished => cases asked
    | aborted => exact .inl rfl
  | @forgotten rest engine final => exact ⟨_, List.mem_append_right rest (.head _), .inl rfl⟩

end Begun

namespace Invocation

variable {service : Service} {operation : OperationId}

theorem numbers_ordinal {history : List Exchange} {plan : Plan Outcome}
    (leads : (service.plan operation).Leads history plan) :
    ∃ count, numbers history ++ plan.ordinal = List.range' 1 count := by
  have numbered : numbers history = List.range' 1 (numbers history).length :=
    trials_numbers ((service_trials service operation).leads leads).1
  have still : numbers history ++ [] = List.range' 1 (numbers history).length :=
    (List.append_nil _).trans numbered
  cases plan with
  | done => exact ⟨_, still⟩
  | ask request next =>
    cases request with
    | attempt number limit heeds =>
      obtain ⟨same, -⟩ := next_attempt leads
      refine ⟨(numbers history).length + 1, ?_⟩
      show numbers history ++ [number] = _
      rw [List.range'_concat, ← numbered, same]
      simp [Nat.add_comm]
    | _ => exact ⟨_, still⟩

variable {id : TaskId} {stage : Stage Outcome} {mine : List (Move Outcome)}

/-- The attempts of an invocation begin in the order of their numbers, each once at most. -/
theorem calls_increase
    (follows : Follows ⟨id, operation, false⟩ ⟨service.plan operation, .unbegun, none⟩ stage mine) :
    (calls mine).Pairwise (· < ·) := by
  suffices ordered : ∃ count, (calls mine).Sublist (List.range' 1 count) by
    obtain ⟨count, sublist⟩ := ordered
    exact List.Pairwise.sublist sublist List.pairwise_lt_range'
  cases follows with
  | @stands _ point thread =>
    obtain ⟨count, same⟩ := numbers_ordinal thread.leads
    refine ⟨count, same ▸ (thread.calls_sublist (Point.begun_of_unbegun rfl)).trans ?_⟩
    exact (List.Sublist.refl _).append point.begun_sublist
  | @ends looks rest point thread ended =>
    obtain ⟨count, same⟩ := numbers_ordinal thread.leads
    have path : calls (looks ++ rest) = calls looks ++ calls rest := List.filterMap_append
    have looked := (thread.calls_sublist (Point.begun_of_unbegun rfl)).append
      (List.Sublist.refl (calls rest))
    rw [List.append_assoc] at looked
    exact ⟨count, same ▸ path ▸ looked.trans ((List.Sublist.refl _).append ended.calls_sublist)⟩

/-- The attempts of an invocation come to their outcomes in the order of their numbers, each to one
at most. -/
theorem numbers_increase
    (follows : Follows ⟨id, operation, false⟩ ⟨service.plan operation, .unbegun, none⟩ stage mine) :
    (numbers (history mine)).Pairwise (· < ·) := by
  have ordered {past : List Exchange} {plan : Plan Outcome}
      (leads : (service.plan operation).Leads past plan) : (numbers past).Pairwise (· < ·) := by
    obtain ⟨count, same⟩ := numbers_ordinal leads
    exact List.Pairwise.sublist (same ▸ List.sublist_append_left _ _) List.pairwise_lt_range'
  cases follows with
  | stands thread => exact ordered thread.leads
  | @ends looks rest point thread ended =>
    rw [history_of_endings ended.mem]
    exact ordered thread.leads

/-- Whatever attempt begins is answered, crashes, is ended from outside, or is on its way still. -/
theorem calls_come_to_something
    (follows : Follows ⟨id, operation, false⟩ ⟨service.plan operation, .unbegun, none⟩ stage mine)
    {number : Nat} (called : number ∈ calls mine) :
    number ∈ numbers (history mine) ∨
      (∃ move ∈ mine, move.deed = .aborted ∨
        ∃ limit heeds wait, move.deed = .crashed (.attempt number limit heeds) wait) ∨
      ∃ point, Stands ⟨id, operation, false⟩ point stage ∧
        (service.plan operation).Leads (history mine) point.plan ∧ number ∈ point.begun := by
  cases follows with
  | @stands _ point thread stands =>
    have sublist := thread.calls_sublist (Point.begun_of_unbegun rfl)
    rcases List.mem_append.mp (sublist.subset called) with answered | begun
    · exact .inl answered
    · exact .inr (.inr ⟨point, stands, thread.leads, begun⟩)
  | @ends looks rest point thread ended =>
    have path : calls (looks ++ rest) = calls looks ++ calls rest := List.filterMap_append
    have sublist := (thread.calls_sublist (Point.begun_of_unbegun rfl)).append
      (List.Sublist.refl (calls rest))
    rw [← path, List.append_assoc] at sublist
    rcases List.mem_append.mp (sublist.subset called) with answered | left
    · rw [history_of_endings ended.mem]
      exact .inl answered
    · obtain ⟨move, member, deed⟩ := ended.left left
      exact .inr (.inl ⟨move, List.mem_append_right looks member, deed⟩)

end Invocation

end Resilience
