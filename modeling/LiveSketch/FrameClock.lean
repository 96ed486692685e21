import LiveSketch.Number.Binary

/-!
# The frame clock

Fixed-rate pacing: when the next frame is due, and how many frames a second have been drawn.

## Main definitions

* `FrameClock` — the rate, the last tick, and the time carried over to the next frame.
* `FrameClock.tick` — tell the clock the time; it says whether a frame is due.
* `FrameClock.deadline`, `FrameClock.averageRate` — when to wake up, and the measured rate.

## Implementation notes

Times are whole nanoseconds after some fixed instant. The rate is a single-precision number of
frames per second, at least one; the duration of a frame is its reciprocal, rounded to
single precision and then to whole nanoseconds. For rates above about two thousand million that
duration is zero, and then there is no due frame to compute.
-/

namespace LiveSketch

/-- Pacing state. -/
structure FrameClock where
  rate : Binary
  lastTick : Nat
  /-- Time since the last due frame's place on the grid. -/
  accumulator : Nat
  /-- Lengths of the latest intervals, oldest first. -/
  intervals : List Nat
deriving Inhabited

namespace FrameClock

/-- Why the clock can stop the program. -/
inductive Abort where
  | remainderByZero
deriving DecidableEq, Inhabited

/-- The text the program stops with. -/
def Abort.message : Abort → String
  | remainderByZero => "attempt to calculate the remainder with a divisor of zero"

/-- How many intervals the measured rate is taken over. -/
def maxIntervals : Nat := 90

/-- Nanoseconds in a second. -/
def nanosPerSecond : Nat := 1000000000

/-- The number one. -/
def one : Binary := BinaryFormat.single.ofInt 1

/-- The rate that is used when `rate` is asked for: at least one frame per second. -/
def effectiveRate : Binary → Binary
  | .nan => one
  | .infinite negative => if negative then one else .infinite false
  | .finite negative m q =>
    let (n, d) := BinaryFormat.magnitude m q
    if negative ∨ n < d then one else .finite false m q

/-- A clock started at the instant `now`. -/
def start (rate : Binary) (now : Nat) : FrameClock where
  rate := effectiveRate rate
  lastTick := now
  accumulator := 0
  intervals := []

/-- The duration of a frame at a rate, in nanoseconds. -/
def durationAt (rate : Binary) : Nat :=
  match BinaryFormat.single.divMagnitudes one rate with
  | .finite _ m q =>
    let (n, d) := BinaryFormat.magnitude m q
    divNearestEven (n * nanosPerSecond) d
  | _ => 0

/-- The duration of a frame, in nanoseconds. -/
def frameDuration (c : FrameClock) : Nat := durationAt c.rate

/-- When the next frame is due. -/
def deadline (c : FrameClock) : Nat := c.lastTick + (c.frameDuration - c.accumulator)

/-- A duration in seconds, in single precision: whole seconds plus the fraction. -/
def seconds (nanos : Nat) : Binary :=
  let whole := BinaryFormat.single.ofInt (nanos / nanosPerSecond : Nat)
  let rest := BinaryFormat.single.ofInt (nanos % nanosPerSecond : Nat)
  BinaryFormat.single.addMagnitudes whole
    (BinaryFormat.single.divMagnitudes rest (BinaryFormat.single.ofInt nanosPerSecond))

/-- Frames per second over the recorded intervals; zero when there are none. -/
def averageRate (c : FrameClock) : Binary :=
  let average := c.intervals.foldl (· + ·) 0 / c.intervals.length
  if average = 0 then BinaryFormat.single.ofInt 0
  else BinaryFormat.single.divMagnitudes one (seconds average)

/-- Records an interval, forgetting the oldest when there are too many. -/
def recordInterval (intervals : List Nat) (elapsed : Nat) : List Nat :=
  let all := intervals ++ [elapsed]
  all.drop (all.length - maxIntervals)

/-- Tells the clock the time. Returns whether at least one frame interval has passed. Missed frames
are dropped rather than replayed, since every frame runs script code. -/
def tick (c : FrameClock) (now : Nat) : Except Abort (FrameClock × Bool) :=
  let elapsed := now - c.lastTick
  let waited := { c with lastTick := now, accumulator := c.accumulator + elapsed }
  if waited.accumulator < c.frameDuration then .ok (waited, false)
  else if c.frameDuration = 0 then .error .remainderByZero
  else
    .ok ({ waited with
      accumulator := waited.accumulator % c.frameDuration
      intervals := recordInterval c.intervals elapsed }, true)

end FrameClock

end LiveSketch
