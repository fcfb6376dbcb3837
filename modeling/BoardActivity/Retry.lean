import BoardActivity.Binary64.Basic

/-!
# Retry policies

How often a failed task is tried again, and how long it waits: exponential backoff with a cap and
jitter, in double-precision seconds. The jitter is drawn from outside as one of `2 ^ 52` equally
spaced points of the unit interval; the draw in the middle leaves the delay as it is.

A policy whose numbers make no delay has none (`delay?` is `none`): the delay is negative or too
long for a span, or there is no interval to draw the jitter from.
-/

namespace BoardActivity

structure RetryPolicy where
  maxAttempts : Nat
  initialInterval : Span
  maxInterval : Span
  coefficient : Binary64
  jitter : Binary64
deriving Repr, DecidableEq

/-- A random number: `point / 2 ^ 52` in the unit interval. -/
structure Draw where
  point : Nat
  point_lt : point < pow2 52
deriving Repr, DecidableEq

namespace Draw

/-- The draw that adds no jitter. -/
def middle : Draw := ⟨pow2 51, by decide⟩

/-- The draw as a number from zero to one. -/
def unit (d : Draw) : Binary64 := Binary64.round false d.point (pow2 52)

end Draw

namespace RetryPolicy

/-- Five attempts, one second doubling up to five minutes, a tenth of jitter. -/
def exponential : RetryPolicy :=
  ⟨5, .ofSeconds 1, .ofSeconds 300, .ofNat 2, .ofDecimal false 1 (-1)⟩

/-- A single attempt. -/
def noRetry : RetryPolicy := ⟨1, .zero, .zero, .one, .zero⟩

def fixed (interval : Span) (maxAttempts : Nat) : RetryPolicy :=
  ⟨maxAttempts, interval, interval, .one, .zero⟩

def withMaxAttempts (p : RetryPolicy) (n : Nat) : RetryPolicy := { p with maxAttempts := max n 1 }

def withInitialInterval (p : RetryPolicy) (d : Span) : RetryPolicy :=
  { p with initialInterval := d }

def withMaxInterval (p : RetryPolicy) (d : Span) : RetryPolicy := { p with maxInterval := d }

/-- A coefficient below one counts as one. -/
def withCoefficient (p : RetryPolicy) (x : Binary64) : RetryPolicy :=
  { p with coefficient := x.max .one }

/-- A jitter outside the unit interval counts as its nearer end. -/
def withJitter (p : RetryPolicy) (x : Binary64) : RetryPolicy :=
  { p with jitter := x.clamp .zero .one }

/-- The power of the coefficient for an attempt: two less than the attempt, as a signed 32-bit
word. -/
def exponent (attempt : Nat) : Int := ((attempt : Int) - 2).bmod (pow2 32)

/-- The delay in seconds before jitter: the initial interval times a power, up to the cap. -/
def cappedSeconds (p : RetryPolicy) (attempt : Nat) : Binary64 :=
  (p.initialInterval.toSeconds.mul (p.coefficient.pow (exponent attempt))).min
    p.maxInterval.toSeconds

/-- A number of the interval from `-spread` to `spread`, which must not be empty or unbounded. -/
def jitterOffset? (spread : Binary64) (draw : Draw) : Option Binary64 :=
  let low := spread.neg
  match spread.add spread with
  | .finite s m e =>
    if low.less spread then some ((draw.unit.mul (.finite s m e)).add low) else none
  | _ => none

def delaySeconds? (p : RetryPolicy) (attempt : Nat) (draw : Draw) : Option Binary64 :=
  let capped := p.cappedSeconds attempt
  if Binary64.zero.less p.jitter && Binary64.zero.less capped then
    (jitterOffset? (capped.mul p.jitter) draw).map fun offset => (capped.add offset).max .zero
  else some capped

/-- The delay before an attempt, counted from one; the first attempt runs at once. -/
def delay? (p : RetryPolicy) (attempt : Nat) (draw : Draw) : Option Span :=
  if attempt ≤ 1 then some .zero else (p.delaySeconds? attempt draw).bind Binary64.toSpan?

/-- Another attempt is allowed after this one failed. -/
def hasAttemptsRemaining (p : RetryPolicy) (attempt : Nat) : Bool := attempt < p.maxAttempts

end RetryPolicy

end BoardActivity
