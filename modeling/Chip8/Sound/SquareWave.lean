import Chip8.Failure
import Chip8.Time.Duration

/-!
# The square wave

The tone of the sound timer: the first half of every period at the amplitude and the rest at its negative. The
phase is the number of samples since the period began, and goes on from one piece of the wave to the next.
-/

namespace Chip8

structure SquareWave where
  /-- Periods in a second. -/
  frequency : Int
  /-- Samples in a second. -/
  sampleRate : Int
  amplitude : Int
  /-- Samples since the period began. -/
  phase : Nat
  deriving DecidableEq, Repr

namespace SquareWave

/-- Samples in a second, as a window plays them. -/
def standardRate : Int := 48000

def standardFrequency : Int := 440

/-- The largest sample. -/
def fullScale : Nat := 32767

/-- A wave of the given loudness, a fraction of full scale, at the start of a period. -/
def ofVolume {τ : Type} [Duration τ] (frequency sampleRate : Int) (volume : τ) : Except Failure SquareWave := do
  let amplitude ← Duration.truncate (Duration.ofNat fullScale * volume)
  return ⟨frequency, sampleRate, amplitude, 0⟩

/-- The wave that a window plays: a quarter of full scale. -/
def standard : SquareWave := ⟨standardFrequency, standardRate, fullScale / 4, 0⟩

/-- Samples in a period: the whole quotient of the two rates, and one at the least. -/
def period (w : SquareWave) : Nat :=
  (max 1 (Int.fdiv w.sampleRate w.frequency)).toNat

/-- The sample at the phase. -/
def level (w : SquareWave) : Int :=
  if w.phase < w.period / 2 then w.amplitude else -w.amplitude

/-- The wave one sample on. -/
def next (w : SquareWave) : SquareWave :=
  { w with phase := (w.phase + 1) % w.period }

/-- A number of samples put in front of those in `done`, latest first, and the wave after them. -/
def samplesOnto (done : List Int) : Nat → SquareWave → List Int × SquareWave
  | 0, w => (done, w)
  | n + 1, w => samplesOnto (w.level :: done) n w.next

/-- The next samples in order, and the wave after them. A frequency of zero has no period. -/
def samples (count : Int) (w : SquareWave) : Except Failure (List Int × SquareWave) :=
  if w.frequency = 0 then .error .divisionByZero
  else
    let (latest, w) := samplesOnto [] count.toNat w
    .ok (latest.reverse, w)

/-- Whether a sample fits into sixteen bits. -/
def fits (sample : Int) : Bool :=
  -32768 ≤ sample && sample ≤ 32767

/-- A sample as two bytes, the lower one first, in two's complement. -/
def encode (sample : Int) : List UInt8 :=
  [UInt8.ofNat (sample % 256).toNat, UInt8.ofNat (sample / 256 % 256).toNat]

/-- The start of a period. -/
def rewind (w : SquareWave) : SquareWave :=
  { w with phase := 0 }

/-- The samples of one frame, and the wave after them. A silent frame has none and rewinds the wave. -/
def frameSamples (active : Bool) (framesPerSecond : Int) (w : SquareWave) :
    Except Failure (List Int × SquareWave) :=
  if !active then .ok ([], w.rewind)
  else if framesPerSecond = 0 then .error .divisionByZero
  else w.samples (Int.fdiv w.sampleRate framesPerSecond)

/-- The bytes of one frame and the wave after it. Where a sample does not fit there are no bytes, but the wave
has gone on all the same. -/
def frame (active : Bool) (framesPerSecond : Int) (w : SquareWave) : Except Failure (List UInt8) × SquareWave :=
  match w.frameSamples active framesPerSecond with
  | .error e => (.error e, w)
  | .ok (samples, w) =>
    if samples.all fits then (.ok (samples.flatMap encode), w) else (.error .sampleOutOfRange, w)

end SquareWave

end Chip8
