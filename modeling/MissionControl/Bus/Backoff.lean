import MissionControl.Time.Duration

/-!
# Retry delays

A connection that fails is tried again after a delay that grows with each attempt. Attempt
1 (and anything below it) waits the initial delay, even a negative one. Later attempts wait
nothing when the initial delay is not positive; otherwise they wait `initial · multiplier^(n-1)`,
where a multiplier below 1 counts as 1, capped at the maximum when the maximum is positive,
halved when jitter is on, and truncated toward zero to whole nanoseconds; a delay beyond the
range of 64-bit nanoseconds, or not a number at all, comes out as the least 64-bit integer.

The power is computed the way the delay computation has always computed it: the base is split
into a mantissa in `[1/2, 1)` and a binary exponent, and the mantissa is raised by repeated
squaring with the exponent kept apart, so results agree to the last bit with that computation
rather than with a correctly rounded power.
-/

namespace MissionControl

/-- How the delay between connection attempts grows. -/
structure Backoff where
  initial : Duration
  multiplier : Float
  max : Duration
  jitter : Bool
  deriving Inhabited

namespace Backoff

/-- A quarter second, doubling up to five seconds, with jitter. -/
def default : Backoff := ⟨⟨250000000⟩, 2.0, ⟨5000000000⟩, true⟩

/-- Raises `a · 2^ae`, kept apart as mantissa and exponent, by the bits of `i`, squaring the
base `x · 2^xe` at each step and renormalising its mantissa into `[1/2, 1)`. -/
def powLoop (i : Nat) (a : Float) (ae : Int) (x : Float) (xe : Int) : Float × Int :=
  if _h : i = 0 then (a, ae)
  else if xe < -4096 || 4096 < xe then (a, ae + xe)
  else
    let (a, ae) := if i % 2 == 1 then (a * x, ae + xe) else (a, ae)
    let x2 := x * x
    let (x2, xe2) := if x2 < 0.5 then (x2 + x2, 2 * xe - 1) else (x2, 2 * xe)
    powLoop (i / 2) a ae x2 xe2
termination_by i
decreasing_by exact Nat.div_lt_self (Nat.pos_of_ne_zero _h) (by decide)

/-- `x^n` for a natural exponent, by the mantissa-and-exponent squaring above. -/
def power (x : Float) (n : Nat) : Float :=
  if n = 0 || x == 1.0 then 1.0
  else if n = 1 then x
  else if x.isNaN then x
  else if x == 0.0 then 0.0
  else if x.isInf then x
  else
    let (m, e) := x.frExp
    let (a, ae) := powLoop n 1.0 0 m e
    a.scaleB ae

/-- The least 64-bit signed integer, which stands for every double that has no 64-bit value. -/
def int64Min : Int := -9223372036854775808

/-- A double truncated toward zero to a 64-bit signed integer. A double outside the range of
such integers, and not-a-number, give the least of them, as the processor's conversion does. -/
def truncate (x : Float) : Int :=
  if x.isNaN || x ≥ 9223372036854775808.0 || x < -9223372036854775808.0 then int64Min
  else if x < 0.0 then -((-x).toUInt64.toNat : Int) else (x.toUInt64.toNat : Int)

/-- The delay before attempt `attempt` (counted from 1). -/
def delay (cfg : Backoff) (attempt : Int) : Duration :=
  if attempt ≤ 1 then cfg.initial
  else if cfg.initial.nanos ≤ 0 then ⟨0⟩
  else
    let mult := if cfg.multiplier < 1.0 then 1.0 else cfg.multiplier
    let d := Float.ofInt cfg.initial.nanos * power mult (attempt - 1).toNat
    let d := if cfg.max.nanos > 0 && d > Float.ofInt cfg.max.nanos then Float.ofInt cfg.max.nanos
      else d
    let d := if cfg.jitter then d * 0.5 else d
    ⟨truncate d⟩

/-- The delay before attempt `attempt` when jitter scales it by a factor drawn at random from
`[1/2, 3/2)`: on the mean that is the delay without jitter. -/
def typicalDelay (cfg : Backoff) (attempt : Int) : Duration :=
  delay { cfg with jitter := false } attempt

/-- The time spent waiting after each of the first `attempts` attempts, on the mean; a delay
that is not positive waits nothing. -/
def typicalWait (cfg : Backoff) (attempts : Nat) : Duration :=
  ⟨(((List.range attempts).map fun (k : Nat) => (cfg.typicalDelay (k + 1 : Nat)).nanos.toNat).foldr (· + ·) 0 : Nat)⟩

end Backoff

end MissionControl
