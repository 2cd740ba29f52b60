import Resilience.Policy.Basic

/-!
Backoffs: how long to wait before each retry. The multipliers are counted in 128 bits and stop at
the largest count; no delay is longer than a day.
-/

namespace Resilience

abbrev Strategy := Nat → Duration

namespace Strategy

/-- A delay that grows by the same step with every attempt, for attempts that 32 bits count. -/
def linear (step : Duration) : Strategy := fun attempt =>
  .ofNanos (step.nanos * min attempt (2 ^ 32 - 1))

/-- Listed delays; the last serves all later attempts. -/
def listed (delays : List Duration) : Strategy := fun attempt =>
  delays.getD attempt (delays.getLast?.getD .zero)

end Strategy

inductive BackoffError where
  | maxNotSupported
  | maxMustBePositive
  | maxLessThanBase (base max : Duration)
  | factorNotSupported
  | factorMustBePositive
  deriving DecidableEq, Repr

def BackoffError.name : BackoffError → String
  | maxNotSupported => "MaxNotSupported"
  | maxMustBePositive => "MaxMustBePositive"
  | maxLessThanBase .. => "MaxLessThanBase"
  | factorNotSupported => "FactorNotSupported"
  | factorMustBePositive => "FactorMustBePositive"

def BackoffError.message : BackoffError → String
  | maxNotSupported => "with_max is only valid for exponential or fibonacci backoff"
  | maxMustBePositive => "max must be greater than zero"
  | maxLessThanBase base max => "max (" ++ max.text ++ ") must be >= base (" ++ base.text ++ ")"
  | factorNotSupported => "with_factor is only valid for exponential backoff"
  | factorMustBePositive => "factor must be at least 1"

inductive Backoff where
  | constant (delay : Duration)
  | exponential (base : Duration) (factor : UInt32) (max : Option Duration)
  | fibonacci (base : Duration) (max : Option Duration)
  | custom (strategy : Strategy)

namespace Backoff

def cap : Nat := 2 ^ 128 - 1

/-- A power, at most the cap. From two on every base is above the cap at the 128th power, so
higher exponents change nothing. -/
def cappedPower (base exponent : Nat) : Nat := min (base.pow (min exponent 128)) cap

/-- Two neighbours in the row one, two, three, five, eight and so on, each at most the cap. -/
def cappedFibonacci : Nat → Nat × Nat
  | 0 => (1, 2)
  | n + 1 =>
    let (current, next) := cappedFibonacci n
    (next, min (current + next) cap)

/-- A multiple of a base, at most a given delay and at most a day, of which 64 bits count the
nanoseconds. -/
def scaled (base : Duration) (multiplier : Nat) (max : Option Duration) : Duration :=
  let nanos := min (min (base.nanos * multiplier) cap) Duration.day.nanos
  let delay := Duration.ofNanos (UInt64.ofNat nanos).toNat
  match max with
  | some max => min (min delay max) .day
  | none => min delay .day

/-- The delay after a failed attempt; attempts are numbered from one. -/
def delay (backoff : Backoff) (attempt : Nat) : Duration :=
  if attempt = 0 then .zero
  else
    match backoff with
    | constant delay => min delay .day
    | exponential base factor max =>
      scaled base (cappedPower factor.toNat (min (attempt - 1) (2 ^ 32 - 1))) max
    | fibonacci base max => scaled base (cappedFibonacci (min attempt 256 - 1)).1 max
    | custom strategy => min (strategy attempt) .day

/-- The backoff that a policy describes. A named one needs the strategy of that name. -/
def ofPolicy? (policy : RetryPolicy) (strategy : Option Strategy) : Option Backoff :=
  let base := policy.delay.toDuration
  match policy.backoff with
  | .none => some (constant base)
  | .exponential factor maxDelay => some (exponential base factor (some maxDelay.toDuration))
  | .fibonacci maxDelay => some (fibonacci base (some maxDelay.toDuration))
  | .custom _ => strategy.map custom

def withFactor (backoff : Backoff) (factor : UInt32) : Except BackoffError Backoff :=
  if factor = 0 then .error .factorMustBePositive
  else
    match backoff with
    | exponential base _ max => .ok (exponential base factor max)
    | _ => .error .factorNotSupported

def withMax (backoff : Backoff) (max : Duration) : Except BackoffError Backoff :=
  if max.nanos = 0 then .error .maxMustBePositive
  else
    match backoff with
    | exponential base factor _ =>
      if max < base then .error (.maxLessThanBase base max)
      else .ok (exponential base factor (some max))
    | fibonacci base _ =>
      if max < base then .error (.maxLessThanBase base max) else .ok (fibonacci base (some max))
    | _ => .error .maxNotSupported

end Backoff

end Resilience
