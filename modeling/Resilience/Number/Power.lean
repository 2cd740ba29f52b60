/-!
Powers of numbers. The bounds of counters and durations are powers, and a power is the one of the
core library even where a theory of monoids is at hand.
-/

attribute [default_instance 20000] instPowNat
