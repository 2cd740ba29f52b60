import Resilience.Time.Duration

/-!
Time units, and amounts of time written as a value and a unit.
-/

namespace Resilience

inductive TimeUnit where
  | nanos | micros | millis | seconds | minutes | hours | halfDays | days
  deriving DecidableEq, Repr

namespace TimeUnit

def length : TimeUnit → Nat
  | nanos => 1
  | micros => 10 ^ 3
  | millis => 10 ^ 6
  | seconds => 10 ^ 9
  | minutes => 60 * 10 ^ 9
  | hours => 3600 * 10 ^ 9
  | halfDays => 12 * 3600 * 10 ^ 9
  | days => 24 * 3600 * 10 ^ 9

def all : List TimeUnit := [nanos, micros, millis, seconds, minutes, hours, halfDays, days]

def name : TimeUnit → String
  | nanos => "NANOS"
  | micros => "MICROS"
  | millis => "MILLIS"
  | seconds => "SECONDS"
  | minutes => "MINUTES"
  | hours => "HOURS"
  | halfDays => "HALF_DAYS"
  | days => "DAYS"

def abbreviation? : TimeUnit → Option String
  | nanos => some "NS"
  | micros => some "US"
  | millis => some "MS"
  | seconds => some "S"
  | minutes => some "MIN"
  | hours => some "H"
  | halfDays => none
  | days => some "D"

/-- Reads a unit: its name or short form in any case, with blanks around it. -/
def ofText? (text : String) : Option TimeUnit :=
  let word := String.ofList ((Text.trimmed text.toList).map Char.toUpper)
  all.find? fun unit => unit.name = word ∨ unit.abbreviation? = some word

def unknownMessage (text : String) : String :=
  "unknown time unit '" ++ Text.trim text ++ "'"

theorem length_pos (unit : TimeUnit) : 0 < unit.length := by
  cases unit <;> decide

@[simp] theorem ofText?_name (unit : TimeUnit) : ofText? unit.name = some unit := by
  cases unit <;> decide

end TimeUnit

structure Amount where
  value : UInt64
  unit : TimeUnit
  deriving DecidableEq, Repr

namespace Amount

def millis (value : UInt64) : Amount := ⟨value, .millis⟩

def minutes (value : UInt64) : Amount := ⟨value, .minutes⟩

/-- The duration of an amount, at most the nanoseconds that 64 bits hold. -/
def toDuration (amount : Amount) : Duration :=
  .ofNanos (min (amount.value.toNat * amount.unit.length) (2 ^ 64 - 1))

def isZero (amount : Amount) : Bool := amount.value = 0

/-- The amount of a duration: in milliseconds if it is a whole number of them, else in
nanoseconds; a value that does not fit becomes the largest one. -/
def ofDuration (d : Duration) : Amount :=
  if d.nanos % 10 ^ 6 = 0 then ⟨.ofNat (min (d.nanos / 10 ^ 6) (2 ^ 64 - 1)), .millis⟩
  else ⟨.ofNat (min d.nanos (2 ^ 64 - 1)), .nanos⟩

def text (amount : Amount) : String :=
  toString amount.value.toNat ++ " " ++ amount.unit.name

theorem nanos_toDuration (amount : Amount) :
    amount.toDuration.nanos = min (amount.value.toNat * amount.unit.length) (2 ^ 64 - 1) := by
  simp only [toDuration, Duration.nanos_ofNanos, Duration.maxNanos]
  omega

end Amount

end Resilience
