import Resilience.Time.Duration

/-!
Jitter: random changes of a delay. The offset is drawn evenly from a range by scaling random
words, so that it takes one or two draws. Nanoseconds are counted in 128 bits.
-/

namespace Resilience

/-- An endless row of random words, with the number of words used so far. -/
structure WordSource where
  word : Nat → UInt64
  used : Nat := 0

namespace WordSource

def cycling (words : List UInt64) : WordSource :=
  ⟨fun index => words.getD (index % words.length) 0, 0⟩

/-- Draws 128 random bits: two words, the low one first. -/
def draw (source : WordSource) : Nat × WordSource :=
  ((source.word source.used).toNat + 2 ^ 64 * (source.word (source.used + 1)).toNat,
    { source with used := source.used + 2 })

/-- Draws a number from zero up to `greatest`, which has to lie below 2 ^ 128. The product of the
first draw and the size of the range is the number with a fraction of 128 bits; only a fraction
near one needs the second draw. -/
def drawUpTo (source : WordSource) (greatest : Nat) : Nat × WordSource :=
  let range := greatest + 1
  let (first, source) := source.draw
  let product := first * range
  let number := product / 2 ^ 128
  let fraction := product % 2 ^ 128
  if 2 ^ 128 - range < fraction then
    let (second, source) := source.draw
    let carry := if 2 ^ 128 ≤ fraction + second * range / 2 ^ 128 then 1 else 0
    (number + carry, source)
  else (number, source)

end WordSource

inductive Jitter where
  | none
  /-- By up to a bound, down or up. -/
  | bounded (bound : Duration)
  deriving DecidableEq, Repr

namespace Jitter

/-- The jitter of a bound; a bound of zero is none. -/
def ofBound (bound : Duration) : Jitter := if bound.nanos = 0 then none else bounded bound

/-- The largest count of nanoseconds. Sums and products stop there, and differences at zero. -/
def cap : Nat := 2 ^ 128 - 1

/-- The duration of a count of nanoseconds, split into whole seconds and the rest; the longest one
if 64 bits do not hold the seconds. -/
def ofCount (nanos : Nat) : Duration :=
  if fits : nanos / 10 ^ 9 < 2 ^ 64 then ⟨nanos / 10 ^ 9 * 10 ^ 9 + nanos % 10 ^ 9, by omega⟩
  else .longest

/-- Changes a delay: an offset from twice the bound is added and the bound taken off. -/
def apply (jitter : Jitter) (delay : Duration) (source : WordSource) : Duration × WordSource :=
  match jitter with
  | none => (delay, source)
  | bounded bound =>
    if bound.nanos = 0 then (delay, source)
    else
      let (offset, source) := source.drawUpTo (min (bound.nanos * 2) cap)
      (ofCount (min (delay.nanos + offset) cap - bound.nanos), source)

end Jitter

end Resilience
