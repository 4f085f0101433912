import Switchyard.Span

/-!
# Capped doubling

The delay before another attempt doubles from attempt to attempt and never exceeds a maximum.  It
is computed in words that stop at their largest value instead of wrapping around.  A random part
of less than a tenth may be added.
-/

namespace Switchyard.Retry

def largest : UInt64 := 0xffffffffffffffff

/-- Two to the power of `n`, or the largest word. -/
def powTwo (n : Nat) : UInt64 := if n < 64 then UInt64.ofNat (Nat.pow 2 n) else largest

/-- The product, or the largest word. -/
def mulCapped (a b : UInt64) : UInt64 :=
  if a.toNat * b.toNat < UInt64.size then a * b else largest

/-- The milliseconds to wait after the given number of failed attempts. -/
def backoff (attempt : UInt32) (base max : UInt64) : UInt64 :=
  if attempt = 0 then 0
  else
    let delay := mulCapped base (powTwo (attempt.toNat - 1))
    if delay ≤ max then delay else max

/-- The number of choices for the milliseconds that are added to a delay. -/
def jitterRange (delay : Span) : Nat := delay.millis / 10

/-- The delay with a random part; `draw` stands for the random number. -/
def withJitter (draw : Nat) (delay : Span) : Span :=
  if jitterRange delay = 0 then delay else delay.addMillis (draw % jitterRange delay)

end Switchyard.Retry
