import Chip8.Failure
import Chip8.Time.Duration

/-!
# The timers' clock

The timers count down once in every period. Elapsed time that does not fill a period is carried over to the
next time.
-/

namespace Chip8

structure Timers (τ : Type) where
  /-- The milliseconds between two ticks. -/
  period : τ
  /-- Elapsed milliseconds that no tick has used up. -/
  carried : τ
  deriving DecidableEq

namespace Timers

variable {τ : Type} [Duration τ]

/-- Timers that tick `hz` times a second, with nothing carried over. -/
def ofRate (hz : τ) : Timers τ := ⟨Duration.ofNat 1000 / hz, Duration.ofNat 0⟩

/-- Timers of a rate that must not be zero. -/
def ofRate? (hz : τ) : Except Failure (Timers τ) :=
  if Duration.isZero hz then .error .divisionByZero else .ok (ofRate hz)

/-- Periods taken off a length of time while it holds one, at most `fuel` of them: their number, added to
`ticks`, and what is left. -/
def takePeriods (period : τ) : Nat → Nat → τ → Nat × τ
  | 0, ticks, left => (ticks, left)
  | fuel + 1, ticks, left =>
    if period ≤ left then takePeriods period fuel (ticks + 1) (left - period) else (ticks, left)

/-- The number of ticks that some elapsed time brings. Time does not run backwards. -/
def advance (t : Timers τ) (elapsed : τ) : Except Failure (Nat × Timers τ) :=
  if elapsed < Duration.ofNat 0 then .error .negativeElapsed
  else
    let total := t.carried + elapsed
    let (ticks, carried) := takePeriods t.period (Duration.stepsWithin total t.period) 0 total
    .ok (ticks, { t with carried })

def reset (t : Timers τ) : Timers τ :=
  { t with carried := Duration.ofNat 0 }

end Timers

end Chip8
