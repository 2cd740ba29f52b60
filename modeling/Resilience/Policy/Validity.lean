import Resilience.Policy.Basic

/-!
Which policies are sound. Each check names the first field that is wrong and what is wrong
with it.
-/

namespace Resilience

def RetryPolicy.problem? (policy : RetryPolicy) : Option (String × FieldProblem) :=
  if !policy.maxDuration.isZero && policy.maxDuration.toDuration ≤ policy.delay.toDuration then
    some ("maxDuration", .notAboveDelay)
  else
    match policy.backoff with
    | .exponential factor _ => if factor = 0 then some ("factor", .belowOne) else none
    | .custom name =>
      if Text.trimmed name.toList = [] then some ("backoff", .namelessBackoff) else none
    | _ => none

def TimeoutPolicy.problem? (policy : TimeoutPolicy) : Option (String × FieldProblem) :=
  if policy.duration.toDuration.nanos = 0 then some ("value", .zero) else none

def BreakerPolicy.problem? (policy : BreakerPolicy) : Option (String × FieldProblem) :=
  if policy.volume = 0 then some ("requestVolumeThreshold", .belowOne)
  else if ¬(0 ≤ policy.failureRatio ∧ policy.failureRatio ≤ 1) then
    some ("failureRatio", .outsideUnitInterval)
  else if policy.successThreshold = 0 then some ("successThreshold", .belowOne)
  else none

def BulkheadPolicy.problem? (policy : BulkheadPolicy) : Option (String × FieldProblem) :=
  if policy.maxConcurrent = 0 then some ("value", .belowOne) else none

def FallbackPolicy.problem? (policy : FallbackPolicy) : Option (String × FieldProblem) :=
  if Text.trimmed policy.handler.toList = [] then some ("fallbackMethod", .empty) else none

namespace Policy

def problemOf? (policy : Policy) : PolicyKind → Option (String × FieldProblem)
  | .retry => policy.retry.bind RetryPolicy.problem?
  | .timeout => policy.timeout.bind TimeoutPolicy.problem?
  | .breaker => policy.breaker.bind BreakerPolicy.problem?
  | .bulkhead => policy.bulkhead.bind BulkheadPolicy.problem?
  | .fallback => policy.fallback.bind FallbackPolicy.problem?

def error? (policy : Policy) : Option PolicyError :=
  PolicyKind.all.findSome? fun kind =>
    (policy.problemOf? kind).map fun (field, problem) => .invalidField kind field problem

def Valid (policy : Policy) : Prop := ∀ kind, policy.problemOf? kind = none

instance (policy : Policy) : Decidable policy.Valid :=
  decidable_of_iff (∀ kind ∈ PolicyKind.all, policy.problemOf? kind = none)
    ⟨fun h kind => h kind kind.mem_all, fun h kind _ => h kind⟩

theorem error?_eq_none_iff {policy : Policy} : policy.error? = none ↔ policy.Valid := by
  simp only [error?, List.findSome?_eq_none_iff, Option.map_eq_none_iff, Valid]
  exact ⟨fun h kind => h kind kind.mem_all, fun h kind _ => h kind⟩

end Policy

end Resilience
