import MetricRelay.Binary64.Basic

namespace MetricRelay

/-- The greatest duration there is, a count of seconds of 64 bits and all but a billionth of another one. -/
def maxDuration : Nat := (UInt64.size - 1) * 1000000000 + 999999999

/-- Bounds of the duration in nanoseconds, and the factor by which a random draw may fall below the computed duration. A
factor of one or less, or one that is not a number, leaves nothing to draw. -/
structure Backoff where
  least : Nat
  greatest : Nat
  factor : Binary64 := .ofNat 1
deriving Repr

namespace Backoff

def power (count : Nat) : Nat := min (Nat.pow 2 (min count 32)) (UInt32.size - 1)

def doubled (b : Backoff) (count : Nat) : Nat := min (b.least * power count) maxDuration

def clamp (b : Backoff) (duration : Nat) : Nat := max b.least (min b.greatest duration)

def isJittered (b : Backoff) : Bool := (Binary64.ofNat 1).lt b.factor

/-- The duration to wait after `count` errors. `draw` is the random choice at or below a duration. -/
def duration (b : Backoff) (draw : Nat → Nat) (count : Nat) : Nat :=
  if count = 0 then b.least
  else b.clamp (if b.isJittered then draw (b.doubled count) else b.doubled count)

end Backoff
end MetricRelay
