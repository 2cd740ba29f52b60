import Resilience.Document
import Resilience.Policy.Basic

/-!
Policies as documents.
-/

namespace Resilience

open Document

namespace TimeUnit

def documentName : TimeUnit → String
  | nanos => "Nanos"
  | micros => "Micros"
  | millis => "Millis"
  | seconds => "Seconds"
  | minutes => "Minutes"
  | hours => "Hours"
  | halfDays => "HalfDays"
  | days => "Days"

def ofDocument? (document : Document) : Option TimeUnit := do
  let name ← document.choice?
  all.find? fun unit => unit.documentName = name

end TimeUnit

namespace Amount

def toDocument (amount : Amount) : Document :=
  .record [("value", .ofNat amount.value.toNat), ("unit", .text amount.unit.documentName)]

def ofDocument? (document : Document) : Option Amount := do
  match ← document.allParts? ["value", "unit"] with
  | [value, unit] => return ⟨← value.uint64?, ← TimeUnit.ofDocument? unit⟩
  | _ => none

end Amount

namespace CategorySet

def toDocument (set : CategorySet) : Document :=
  .record [("any", .truth set.any), ("members", .list (set.members.map .text))]

def ofDocument? (document : Document) : Option CategorySet := do
  match ← document.allParts? ["any", "members"] with
  | [any, members] =>
    let any ← any.truth?
    let names ← members.texts?
    return ⟨any, (of names).members, (of names).ascending⟩
  | _ => none

end CategorySet

namespace PolicyKind

def ofDocument? (document : Document) : Option PolicyKind := do
  let name ← document.choice?
  all.find? fun kind => kind.name = name

end PolicyKind

namespace BackoffPolicy

def toDocument : BackoffPolicy → Document
  | none => .text "None"
  | exponential factor maxDelay =>
    .record [("Exponential",
      .record [("factor", .ofNat factor.toNat), ("max_delay", maxDelay.toDocument)])]
  | fibonacci maxDelay => .record [("Fibonacci", .record [("max_delay", maxDelay.toDocument)])]
  | custom name => .record [("Custom", .record [("name", .text name)])]

def variantParts? (names : List String) : Option Document → Option (List Document)
  | some (.record fields) => (Document.record fields).allParts? names
  | _ => Option.none

def ofDocument? (document : Document) : Option BackoffPolicy := do
  match ← document.variant? with
  | ("None", Option.none) | ("None", some .null) => return none
  | ("Exponential", content) =>
    match ← variantParts? ["factor", "max_delay"] content with
    | [factor, maxDelay] => return exponential (← factor.uint32?) (← Amount.ofDocument? maxDelay)
    | _ => Option.none
  | ("Fibonacci", content) =>
    match ← variantParts? ["max_delay"] content with
    | [maxDelay] => return fibonacci (← Amount.ofDocument? maxDelay)
    | _ => Option.none
  | ("Custom", content) =>
    match ← variantParts? ["name"] content with
    | [name] => return custom (← name.text?)
    | _ => Option.none
  | _ => Option.none

end BackoffPolicy

namespace RetryPolicy

def toDocument (policy : RetryPolicy) : Document :=
  .record [("max_retries", .ofNat policy.maxRetries.toNat), ("delay", policy.delay.toDocument),
    ("max_duration", policy.maxDuration.toDocument), ("jitter", policy.jitter.toDocument),
    ("retry_on", policy.retryOn.toDocument), ("abort_on", policy.abortOn.toDocument),
    ("backoff", policy.backoff.toDocument)]

def ofDocument? (document : Document) : Option RetryPolicy := do
  match ← document.allParts?
      ["max_retries", "delay", "max_duration", "jitter", "retry_on", "abort_on", "backoff"] with
  | [maxRetries, delay, maxDuration, jitter, retryOn, abortOn, backoff] =>
    return ⟨← maxRetries.uint32?, ← Amount.ofDocument? delay, ← Amount.ofDocument? maxDuration,
      ← Amount.ofDocument? jitter, ← CategorySet.ofDocument? retryOn,
      ← CategorySet.ofDocument? abortOn, ← BackoffPolicy.ofDocument? backoff⟩
  | _ => none

end RetryPolicy

namespace TimeoutPolicy

def toDocument (policy : TimeoutPolicy) : Document :=
  .record [("duration", policy.duration.toDocument)]

def ofDocument? (document : Document) : Option TimeoutPolicy := do
  match ← document.allParts? ["duration"] with
  | [duration] => return ⟨← Amount.ofDocument? duration⟩
  | _ => none

end TimeoutPolicy

namespace Sampling

def documentName : Sampling → String
  | invocation => "PerInvocation"
  | attempt => "PerAttempt"

def ofDocument? (document : Document) : Option Sampling := do
  let name ← document.choice?
  [invocation, attempt].find? fun sampling => sampling.documentName = name

end Sampling

namespace BreakerPolicy

def toDocument (policy : BreakerPolicy) : Document :=
  .record [("delay", policy.delay.toDocument),
    ("request_volume_threshold", .ofNat policy.volume.toNat),
    ("failure_ratio", .float policy.failureRatio),
    ("success_threshold", .ofNat policy.successThreshold.toNat),
    ("fail_on", policy.failOn.toDocument), ("skip_on", policy.skipOn.toDocument),
    ("sampling", .text policy.sampling.documentName)]

def ofDocument? (document : Document) : Option BreakerPolicy := do
  match ← document.allParts?
      ["delay", "request_volume_threshold", "failure_ratio", "success_threshold", "fail_on",
        "skip_on", "sampling"] with
  | [delay, volume, failureRatio, successThreshold, failOn, skipOn, sampling] =>
    return ⟨⟨← Amount.ofDocument? delay, ← volume.uint32?, ← failureRatio.float?,
      ← successThreshold.uint32?⟩, ← CategorySet.ofDocument? failOn,
      ← CategorySet.ofDocument? skipOn, ← Sampling.ofDocument? sampling⟩
  | _ => none

end BreakerPolicy

namespace BulkheadPolicy

def toDocument (policy : BulkheadPolicy) : Document :=
  .record [("max_concurrent", .ofNat policy.maxConcurrent.toNat),
    ("waiting_queue_size", .ofNat policy.queueSize.toNat)]

def ofDocument? (document : Document) : Option BulkheadPolicy := do
  match ← document.allParts? ["max_concurrent", "waiting_queue_size"] with
  | [maxConcurrent, queueSize] => return ⟨← maxConcurrent.uint32?, ← queueSize.uint32?⟩
  | _ => none

end BulkheadPolicy

namespace FallbackPolicy

def toDocument (policy : FallbackPolicy) : Document :=
  .record [("handler", .text policy.handler), ("apply_on", policy.applyOn.toDocument),
    ("skip_on", policy.skipOn.toDocument)]

def ofDocument? (document : Document) : Option FallbackPolicy := do
  match ← document.allParts? ["handler", "apply_on", "skip_on"] with
  | [handler, applyOn, skipOn] =>
    return ⟨← handler.text?, ← CategorySet.ofDocument? applyOn, ← CategorySet.ofDocument? skipOn⟩
  | _ => none

end FallbackPolicy

namespace Policy

def toDocument (policy : Policy) : Document :=
  let part {Part : Type} (write : Part → Document) : Option Part → Document
    | some part => write part
    | none => .null
  .record [("retry", part RetryPolicy.toDocument policy.retry),
    ("timeout", part TimeoutPolicy.toDocument policy.timeout),
    ("circuit_breaker", part BreakerPolicy.toDocument policy.breaker),
    ("bulkhead", part BulkheadPolicy.toDocument policy.bulkhead),
    ("fallback", part FallbackPolicy.toDocument policy.fallback)]

def optionalPart? {Part : Type} (read : Document → Option Part) :
    Option Document → Option (Option Part)
  | none | some .null => some none
  | some document => (read document).map some

def ofDocument? (document : Document) : Option Policy := do
  match ← document.parts? ["retry", "timeout", "circuit_breaker", "bulkhead", "fallback"] with
  | [retry, timeout, breaker, bulkhead, fallback] =>
    return ⟨← optionalPart? RetryPolicy.ofDocument? retry,
      ← optionalPart? TimeoutPolicy.ofDocument? timeout,
      ← optionalPart? BreakerPolicy.ofDocument? breaker,
      ← optionalPart? BulkheadPolicy.ofDocument? bulkhead,
      ← optionalPart? FallbackPolicy.ofDocument? fallback⟩
  | _ => none

end Policy

end Resilience
