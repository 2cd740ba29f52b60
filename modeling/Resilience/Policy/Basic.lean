import Resilience.Category
import Resilience.Policy.Kind
import Resilience.Time.Amount

/-!
Policies: which strategies guard an operation, and with which parameters.
-/

namespace Resilience

inductive BackoffPolicy where
  /-- The same delay before every retry. -/
  | none
  /-- The delay times a power of the factor, up to a largest delay. -/
  | exponential (factor : UInt32) (maxDelay : Amount)
  /-- The delay times one, two, three, five, eight and so on, up to a largest delay. -/
  | fibonacci (maxDelay : Amount)
  /-- A strategy that is registered under a name. -/
  | custom (name : String)
  deriving DecidableEq

namespace BackoffPolicy

def defaultExponential : BackoffPolicy := exponential 2 (.minutes 1)

def defaultFibonacci : BackoffPolicy := fibonacci (.minutes 1)

def label : BackoffPolicy → String
  | none => "none"
  | exponential .. => "exponential"
  | fibonacci .. => "fibonacci"
  | custom name => "custom:" ++ name

def sameKind : BackoffPolicy → BackoffPolicy → Bool
  | none, none => true
  | exponential .., exponential .. => true
  | fibonacci .., fibonacci .. => true
  | custom _, custom _ => true
  | _, _ => false

end BackoffPolicy

structure RetryPolicy where
  /-- How many attempts may follow the first. -/
  maxRetries : UInt32 := 3
  delay : Amount := .millis 0
  /-- The time that all attempts and delays may take; zero sets no limit. -/
  maxDuration : Amount := .millis 180000
  /-- The largest random change of a delay. -/
  jitter : Amount := .millis 200
  retryOn : CategorySet := .all
  /-- The failures that are never repeated. -/
  abortOn : CategorySet := .none
  backoff : BackoffPolicy := .none
  deriving DecidableEq

structure TimeoutPolicy where
  duration : Amount := .millis 1000
  deriving DecidableEq

inductive Sampling where
  /-- One sample for an invocation with all its retries. -/
  | invocation
  /-- One sample for each attempt. -/
  | attempt
  deriving DecidableEq, Repr

structure BreakerRule where
  /-- How long the breaker stays open before it probes. -/
  delay : Amount := .millis 5000
  /-- The number of samples in the window. -/
  volume : UInt32 := 20
  /-- The share of failures in a full window from which the breaker opens. -/
  failureRatio : Float := 0.5
  /-- The successful probes that close the breaker. -/
  successThreshold : UInt32 := 1
  deriving BEq

structure BreakerPolicy extends BreakerRule where
  failOn : CategorySet := .all
  /-- The failures that do not count as such. -/
  skipOn : CategorySet := .none
  sampling : Sampling := .invocation
  deriving BEq

structure BulkheadPolicy where
  maxConcurrent : UInt32 := 10
  queueSize : UInt32 := 10
  deriving DecidableEq

structure FallbackPolicy where
  /-- The name under which the handler is registered. -/
  handler : String
  /-- The failures that are handled; the empty set stands for all. -/
  applyOn : CategorySet := .all
  skipOn : CategorySet := .none
  deriving DecidableEq

structure Policy where
  retry : Option RetryPolicy := none
  timeout : Option TimeoutPolicy := none
  breaker : Option BreakerPolicy := none
  bulkhead : Option BulkheadPolicy := none
  fallback : Option FallbackPolicy := none
  deriving BEq

namespace Policy

def declares (policy : Policy) : PolicyKind → Bool
  | .retry => policy.retry.isSome
  | .timeout => policy.timeout.isSome
  | .breaker => policy.breaker.isSome
  | .bulkhead => policy.bulkhead.isSome
  | .fallback => policy.fallback.isSome

def strategies (policy : Policy) : List PolicyKind := PolicyKind.all.filter policy.declares

def remove (policy : Policy) : PolicyKind → Policy
  | .retry => { policy with retry := none }
  | .timeout => { policy with timeout := none }
  | .breaker => { policy with breaker := none }
  | .bulkhead => { policy with bulkhead := none }
  | .fallback => { policy with fallback := none }

end Policy

end Resilience
