import Resilience.Policy.Basic
import Resilience.Number.Decimal

/-!
The fields of the strategies as texts: what each field of a policy shows, and how a text changes
it.
-/

namespace Resilience

def readField {α : Type} (read : String → Except Number.ReadError α) (text : String) :
    Except FieldProblem α :=
  let trimmed := Text.trim text
  (read trimmed).mapError (.unread trimmed)

def readUnit (text : String) : Except FieldProblem TimeUnit :=
  match TimeUnit.ofText? text with
  | some unit => .ok unit
  | none => .error (.unknownUnit (TimeUnit.unknownMessage text))

inductive RetryField where
  | maxRetries | delay | delayUnit | maxDuration | durationUnit | jitter | jitterUnit
  | retryOn | abortOn | backoff | factor | maxDelay | maxDelayUnit
  deriving DecidableEq, Repr

inductive TimeoutField where
  | value | unit
  deriving DecidableEq, Repr

inductive BreakerField where
  | delay | delayUnit | volume | failureRatio | successThreshold | failOn | skipOn | sampling
  deriving DecidableEq, Repr

inductive BulkheadField where
  | maxConcurrent | queueSize
  deriving DecidableEq, Repr

inductive FallbackField where
  | handler | applyOn | skipOn
  deriving DecidableEq, Repr

namespace RetryField

def all : List RetryField :=
  [maxRetries, delay, delayUnit, maxDuration, durationUnit, jitter, jitterUnit, retryOn, abortOn,
    backoff, factor, maxDelay, maxDelayUnit]

def name : RetryField → String
  | maxRetries => "maxRetries"
  | delay => "delay"
  | delayUnit => "delayUnit"
  | maxDuration => "maxDuration"
  | durationUnit => "durationUnit"
  | jitter => "jitter"
  | jitterUnit => "jitterDelayUnit"
  | retryOn => "retryOn"
  | abortOn => "abortOn"
  | backoff => "backoff"
  | factor => "factor"
  | maxDelay => "maxDelay"
  | maxDelayUnit => "maxDelayUnit"

end RetryField

namespace TimeoutField

def all : List TimeoutField := [value, unit]

def name : TimeoutField → String
  | value => "value"
  | unit => "unit"

end TimeoutField

namespace BreakerField

def all : List BreakerField :=
  [delay, delayUnit, volume, failureRatio, successThreshold, failOn, skipOn, sampling]

def name : BreakerField → String
  | delay => "delay"
  | delayUnit => "delayUnit"
  | volume => "requestVolumeThreshold"
  | failureRatio => "failureRatio"
  | successThreshold => "successThreshold"
  | failOn => "failOn"
  | skipOn => "skipOn"
  | sampling => "sampling"

end BreakerField

namespace BulkheadField

def all : List BulkheadField := [maxConcurrent, queueSize]

def name : BulkheadField → String
  | maxConcurrent => "value"
  | queueSize => "waitingTaskQueue"

end BulkheadField

namespace FallbackField

def all : List FallbackField := [handler, applyOn, skipOn]

def name : FallbackField → String
  | handler => "fallbackMethod"
  | applyOn => "applyOn"
  | skipOn => "skipOn"

end FallbackField

namespace BackoffPolicy

/-- Reads the name of a backoff; a named strategy follows the word `custom` and a colon. -/
def ofText (text : String) : Except FieldProblem BackoffPolicy :=
  let trimmed := Text.trimmed text.toList
  let word := trimmed.map Char.toLower
  if word = "none".toList ∨ word = "constant".toList then .ok none
  else if word = "exponential".toList then .ok defaultExponential
  else if word = "fibonacci".toList then .ok defaultFibonacci
  else
    match (Text.rest? "custom:".toList trimmed).map Text.trimmed with
    | some (first :: rest) => .ok (custom (.ofList (first :: rest)))
    | _ => .error (.unknownBackoff (.ofList trimmed))

/-- Takes the backoff that a text names. Naming the kind that is there already keeps its factor
and largest delay. -/
def renamed (current named : BackoffPolicy) : BackoffPolicy :=
  match named with
  | custom _ => named
  | _ => if current.sameKind named then current else named

end BackoffPolicy

namespace Sampling

def label : Sampling → String
  | invocation => "invocation"
  | attempt => "attempt"

def ofText (text : String) : Except FieldProblem Sampling :=
  let word := (Text.trimmed text.toList).map Char.toLower
  if word = "invocation".toList then .ok invocation
  else if word = "attempt".toList then .ok attempt
  else .error .unknownSampling

end Sampling

def naturalText (n : Nat) : String := toString n

namespace RetryPolicy

/-- What a field shows. A field that the backoff does not have shows nothing. -/
def fieldText? (policy : RetryPolicy) : RetryField → Option String
  | .maxRetries => naturalText policy.maxRetries.toNat
  | .delay => naturalText policy.delay.value.toNat
  | .delayUnit => policy.delay.unit.name
  | .maxDuration => naturalText policy.maxDuration.value.toNat
  | .durationUnit => policy.maxDuration.unit.name
  | .jitter => naturalText policy.jitter.value.toNat
  | .jitterUnit => policy.jitter.unit.name
  | .retryOn => policy.retryOn.text
  | .abortOn => policy.abortOn.text
  | .backoff => policy.backoff.label
  | .factor =>
    match policy.backoff with
    | .exponential factor _ => some (naturalText factor.toNat)
    | _ => none
  | .maxDelay =>
    match policy.backoff with
    | .exponential _ maxDelay | .fibonacci maxDelay => some (naturalText maxDelay.value.toNat)
    | _ => none
  | .maxDelayUnit =>
    match policy.backoff with
    | .exponential _ maxDelay | .fibonacci maxDelay => some maxDelay.unit.name
    | _ => none

def set (policy : RetryPolicy) (field : RetryField) (text : String) :
    Except FieldProblem RetryPolicy :=
  match field with
  | .maxRetries => do
    let value ← readField Number.readUInt32 text
    return { policy with maxRetries := value }
  | .delay => do
    let value ← readField Number.readUInt64 text
    return { policy with delay := ⟨value, policy.delay.unit⟩ }
  | .delayUnit => do
    let unit ← readUnit text
    return { policy with delay := ⟨policy.delay.value, unit⟩ }
  | .maxDuration => do
    let value ← readField Number.readUInt64 text
    return { policy with maxDuration := ⟨value, policy.maxDuration.unit⟩ }
  | .durationUnit => do
    let unit ← readUnit text
    return { policy with maxDuration := ⟨policy.maxDuration.value, unit⟩ }
  | .jitter => do
    let value ← readField Number.readUInt64 text
    return { policy with jitter := ⟨value, policy.jitter.unit⟩ }
  | .jitterUnit => do
    let unit ← readUnit text
    return { policy with jitter := ⟨policy.jitter.value, unit⟩ }
  | .retryOn => return { policy with retryOn := .ofText text }
  | .abortOn => return { policy with abortOn := .ofText text }
  | .backoff => do
    let named ← BackoffPolicy.ofText text
    return { policy with backoff := policy.backoff.renamed named }
  | .factor =>
    match policy.backoff with
    | .exponential _ maxDelay => do
      let factor ← readField Number.readUInt32 text
      return { policy with backoff := .exponential factor maxDelay }
    | _ => .error .needsExponential
  | .maxDelay =>
    match policy.backoff with
    | .exponential factor maxDelay => do
      let value ← readField Number.readUInt64 text
      return { policy with backoff := .exponential factor ⟨value, maxDelay.unit⟩ }
    | .fibonacci maxDelay => do
      let value ← readField Number.readUInt64 text
      return { policy with backoff := .fibonacci ⟨value, maxDelay.unit⟩ }
    | _ => .error .needsGrowth
  | .maxDelayUnit =>
    match policy.backoff with
    | .exponential factor maxDelay => do
      let unit ← readUnit text
      return { policy with backoff := .exponential factor ⟨maxDelay.value, unit⟩ }
    | .fibonacci maxDelay => do
      let unit ← readUnit text
      return { policy with backoff := .fibonacci ⟨maxDelay.value, unit⟩ }
    | _ => .error .needsGrowth

end RetryPolicy

namespace TimeoutPolicy

def fieldText? (policy : TimeoutPolicy) : TimeoutField → Option String
  | .value => naturalText policy.duration.value.toNat
  | .unit => policy.duration.unit.name

def set (policy : TimeoutPolicy) (field : TimeoutField) (text : String) :
    Except FieldProblem TimeoutPolicy :=
  match field with
  | .value => do
    let value ← readField Number.readUInt64 text
    return ⟨⟨value, policy.duration.unit⟩⟩
  | .unit => do
    let unit ← readUnit text
    return ⟨⟨policy.duration.value, unit⟩⟩

end TimeoutPolicy

namespace BreakerPolicy

def fieldText? (policy : BreakerPolicy) : BreakerField → Option String
  | .delay => naturalText policy.delay.value.toNat
  | .delayUnit => policy.delay.unit.name
  | .volume => naturalText policy.volume.toNat
  | .failureRatio => Number.Layout.plain.text policy.failureRatio
  | .successThreshold => naturalText policy.successThreshold.toNat
  | .failOn => policy.failOn.text
  | .skipOn => policy.skipOn.text
  | .sampling => policy.sampling.label

def set (policy : BreakerPolicy) (field : BreakerField) (text : String) :
    Except FieldProblem BreakerPolicy :=
  match field with
  | .delay => do
    let value ← readField Number.readUInt64 text
    return { policy with delay := ⟨value, policy.delay.unit⟩ }
  | .delayUnit => do
    let unit ← readUnit text
    return { policy with delay := ⟨policy.delay.value, unit⟩ }
  | .volume => do
    let value ← readField Number.readUInt32 text
    return { policy with volume := value }
  | .failureRatio => do
    let value ← readField Number.readFloat text
    return { policy with failureRatio := value }
  | .successThreshold => do
    let value ← readField Number.readUInt32 text
    return { policy with successThreshold := value }
  | .failOn => return { policy with failOn := .ofText text }
  | .skipOn => return { policy with skipOn := .ofText text }
  | .sampling => do
    let sampling ← Sampling.ofText text
    return { policy with sampling }

end BreakerPolicy

namespace BulkheadPolicy

def fieldText? (policy : BulkheadPolicy) : BulkheadField → Option String
  | .maxConcurrent => naturalText policy.maxConcurrent.toNat
  | .queueSize => naturalText policy.queueSize.toNat

def set (policy : BulkheadPolicy) (field : BulkheadField) (text : String) :
    Except FieldProblem BulkheadPolicy :=
  match field with
  | .maxConcurrent => do
    let value ← readField Number.readUInt32 text
    return { policy with maxConcurrent := value }
  | .queueSize => do
    let value ← readField Number.readUInt32 text
    return { policy with queueSize := value }

end BulkheadPolicy

namespace FallbackPolicy

def fieldText? (policy : FallbackPolicy) : FallbackField → Option String
  | .handler => policy.handler
  | .applyOn => policy.applyOn.text
  | .skipOn => policy.skipOn.text

def set (policy : FallbackPolicy) (field : FallbackField) (text : String) :
    Except FieldProblem FallbackPolicy :=
  match field with
  | .handler => return { policy with handler := Text.trim text }
  | .applyOn => return { policy with applyOn := .ofText text }
  | .skipOn => return { policy with skipOn := .ofText text }

end FallbackPolicy

def shownFields {Field : Type} (fields : List Field) (name : Field → String)
    (fieldText? : Field → Option String) : List (String × String) :=
  fields.filterMap fun field => (fieldText? field).map fun text => (name field, text)

def setNamed {Field Part : Type} (kind : PolicyKind) (fields : List Field)
    (name : Field → String) (set : Part → Field → String → Except FieldProblem Part) (part : Part)
    (field text : String) : Except PolicyError Part :=
  match fields.find? fun candidate => name candidate = field with
  | some found => (set part found text).mapError (.invalidField kind field)
  | none => .error (.unknownField kind field)

namespace RetryPolicy

def parameters (policy : RetryPolicy) : List (String × String) :=
  shownFields RetryField.all RetryField.name policy.fieldText?

def setField (policy : RetryPolicy) (field text : String) : Except PolicyError RetryPolicy :=
  setNamed .retry RetryField.all RetryField.name set policy field text

end RetryPolicy

namespace TimeoutPolicy

def parameters (policy : TimeoutPolicy) : List (String × String) :=
  shownFields TimeoutField.all TimeoutField.name policy.fieldText?

def setField (policy : TimeoutPolicy) (field text : String) : Except PolicyError TimeoutPolicy :=
  setNamed .timeout TimeoutField.all TimeoutField.name set policy field text

end TimeoutPolicy

namespace BreakerPolicy

def parameters (policy : BreakerPolicy) : List (String × String) :=
  shownFields BreakerField.all BreakerField.name policy.fieldText?

def setField (policy : BreakerPolicy) (field text : String) : Except PolicyError BreakerPolicy :=
  setNamed .breaker BreakerField.all BreakerField.name set policy field text

end BreakerPolicy

namespace BulkheadPolicy

def parameters (policy : BulkheadPolicy) : List (String × String) :=
  shownFields BulkheadField.all BulkheadField.name policy.fieldText?

def setField (policy : BulkheadPolicy) (field text : String) :
    Except PolicyError BulkheadPolicy :=
  setNamed .bulkhead BulkheadField.all BulkheadField.name set policy field text

end BulkheadPolicy

namespace FallbackPolicy

def parameters (policy : FallbackPolicy) : List (String × String) :=
  shownFields FallbackField.all FallbackField.name policy.fieldText?

def setField (policy : FallbackPolicy) (field text : String) :
    Except PolicyError FallbackPolicy :=
  setNamed .fallback FallbackField.all FallbackField.name set policy field text

end FallbackPolicy

namespace Policy

/-- The parameters of the strategy of one kind, by name; none if the policy has no such
strategy. -/
def parameters (policy : Policy) : PolicyKind → List (String × String)
  | .retry => (policy.retry.map RetryPolicy.parameters).getD []
  | .timeout => (policy.timeout.map TimeoutPolicy.parameters).getD []
  | .breaker => (policy.breaker.map BreakerPolicy.parameters).getD []
  | .bulkhead => (policy.bulkhead.map BulkheadPolicy.parameters).getD []
  | .fallback => (policy.fallback.map FallbackPolicy.parameters).getD []

def rendered (policy : Policy) : List (PolicyKind × List (String × String)) :=
  policy.strategies.map fun kind => (kind, policy.parameters kind)

def setPart (policy : Policy) (kind : PolicyKind) (field text : String) :
    Except PolicyError Policy :=
  match kind with
  | .retry =>
    match policy.retry with
    | some part => (part.setField field text).map fun part => { policy with retry := some part }
    | none => .ok policy
  | .timeout =>
    match policy.timeout with
    | some part => (part.setField field text).map fun part => { policy with timeout := some part }
    | none => .ok policy
  | .breaker =>
    match policy.breaker with
    | some part => (part.setField field text).map fun part => { policy with breaker := some part }
    | none => .ok policy
  | .bulkhead =>
    match policy.bulkhead with
    | some part => (part.setField field text).map fun part => { policy with bulkhead := some part }
    | none => .ok policy
  | .fallback =>
    match policy.fallback with
    | some part => (part.setField field text).map fun part => { policy with fallback := some part }
    | none => .ok policy

/-- Applies a text to a field of a declared strategy. The field `enabled` takes the strategy away
when the text is false. -/
def applyField (policy : Policy) (operation : OperationId) (kind : PolicyKind)
    (field text : String) : Except PolicyError Policy :=
  if !policy.declares kind then .error (.notDeclared operation kind)
  else if field = "enabled" then
    match readField Number.readTruth text with
    | .ok enabled => .ok (if enabled then policy else policy.remove kind)
    | .error problem => .error (.invalidField kind "enabled" problem)
  else policy.setPart kind field text

end Policy

end Resilience
