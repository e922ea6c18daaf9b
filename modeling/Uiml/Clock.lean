import Uiml.Number.Single

/-!
# Frame clocks

A clock hands out the length of every frame. A fixed clock gives the same step each time; a wall
clock gives the time that has passed, taken into bounds so that a stall cannot skip an animation.
Times are whole nanoseconds.
-/

namespace Uiml

/-- A span of time in nanoseconds. -/
structure Span where
  nanos : Nat
  deriving DecidableEq, Repr, Inhabited

namespace Span

def nanosPerSecond : Nat := 1000000000

/-- The span in seconds: the whole seconds plus the share of the rest, each rounded. -/
def toSingle (s : Span) : Float32 :=
  Single.ofNat (s.nanos / nanosPerSecond) +
    Single.ofNat (s.nanos % nanosPerSecond) / Single.ofNat nanosPerSecond

/-- The span in seconds, in double precision. -/
def toDouble (s : Span) : Float :=
  Double.ofNat (s.nanos / nanosPerSecond) +
    Double.ofNat (s.nanos % nanosPerSecond) / Double.ofNat nanosPerSecond

/-- A number of units of which there are `perUnit` nanoseconds each, with decimals as far as there
are any. -/
def inUnits (s : Span) (perUnit : Nat) (unit : String) : String :=
  let rest := s.nanos % perUnit
  let width := (Nat.toDigits 10 perUnit).length - 1
  let digits := Nat.toDigits 10 rest
  let padded := List.replicate (width - digits.length) '0' ++ digits
  let fraction := (padded.reverse.dropWhile (· = '0')).reverse
  toString (s.nanos / perUnit) ++
    (if rest = 0 then "" else "." ++ String.ofList fraction) ++ unit

/-- How messages show a span: in the largest unit of which it has at least one. -/
def describe (s : Span) : String :=
  if nanosPerSecond ≤ s.nanos then s.inUnits nanosPerSecond "s"
  else if 1000000 ≤ s.nanos then s.inUnits 1000000 "ms"
  else if 1000 ≤ s.nanos then s.inUnits 1000 "µs"
  else s.inUnits 1 "ns"

/-- The whole number of nanoseconds nearest to a number of seconds; none for a negative or
non-finite number. -/
def ofSeconds (seconds : Float) : Span :=
  match Double.value seconds with
  | .finite false significand exponent =>
    let (num, den) := scaleByPower significand exponent
    ⟨roundDiv (num * nanosPerSecond) den⟩
  | _ => ⟨0⟩

end Span

/-- What a clock tells about a frame. -/
structure Frame where
  /-- The number of frames before it. -/
  index : Nat
  /-- Its length in seconds. -/
  dt : Float32
  /-- The seconds of all frames so far, its own included. -/
  elapsed : Float
  deriving DecidableEq, Inhabited

/-- A clock that counts frames whose lengths are taken into bounds. -/
structure FrameClock where
  shortest : Span
  longest : Span
  index : Nat := 0
  elapsed : Float := 0
  deriving Inhabited

namespace FrameClock

/-- The clock of which every frame has the given length. -/
def fixed (step : Span) : FrameClock := { shortest := step, longest := step }

/-- The clock of a wall: frames last between a tenth of a millisecond and a quarter of a second. -/
def wall : FrameClock := { shortest := ⟨100000⟩, longest := ⟨250000000⟩ }

/-- The clock that gives a number of frames per second, which has to be more than none. -/
def ofRate? (rate : Nat) : Option FrameClock :=
  if rate = 0 then none else some (fixed (.ofSeconds (1 / Double.ofNat rate)))

/-- The frame that ends when `passed` has gone by since the one before. -/
def tick (clock : FrameClock) (passed : Span) : Frame × FrameClock :=
  let step : Span := ⟨max clock.shortest.nanos (min passed.nanos clock.longest.nanos)⟩
  let elapsed := clock.elapsed + step.toDouble
  (⟨clock.index, step.toSingle, elapsed⟩,
    { clock with index := (clock.index + 1) % 0x10000000000000000, elapsed })

/-- The first frames of a clock, if the same time passes before each. -/
def frames (clock : FrameClock) (passed : Span) : Nat → List Frame
  | 0 => []
  | count + 1 =>
    let (frame, clock) := clock.tick passed
    frame :: clock.frames passed count

end FrameClock

end Uiml
