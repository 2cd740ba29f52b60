import Resilience.Time.Duration

/-!
A clock that moves only when it is told to.
-/

namespace Resilience

structure ManualClock where
  now : Nat := 0
  deriving DecidableEq, Repr

namespace ManualClock

/-- Moves a clock on by the whole milliseconds of a duration, as far as 64 bits count. -/
def advance (clock : ManualClock) (by_ : Duration) : ManualClock :=
  ⟨min (clock.now + by_.millis) (2 ^ 64 - 1)⟩

def setMillis (_ : ManualClock) (millis : Nat) : ManualClock := ⟨millis⟩

end ManualClock

end Resilience
