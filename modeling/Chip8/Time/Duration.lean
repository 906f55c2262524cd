import Chip8.Failure

/-!
# Lengths of time

Times are numbers with addition, subtraction, multiplication, division and order. Programs run on `Float`;
`Rat` gives the same definitions exact arithmetic. From an endless time, or one so long that a length taken off is lost
in rounding, a length could be taken off forever: on doubles `roomFor` ends that, where a loop without a bound would go
on.
-/

namespace Chip8

/-- Numbers that can measure time. -/
class Duration (τ : Type) extends Add τ, Sub τ, Mul τ, Div τ, LT τ, LE τ where
  ofNat : Nat → τ
  decidableLT : DecidableLT τ
  decidableLE : DecidableLE τ
  /-- The whole part, towards zero, if there is one. -/
  truncate : τ → Except Failure Int
  /-- At least the number of times that the second length can be taken off the first one. -/
  stepsWithin : τ → τ → Nat

attribute [reducible, instance] Duration.decidableLT Duration.decidableLE

namespace Duration

variable {τ : Type} [Duration τ]

/-- Neither below nor above zero. -/
def isZero (t : τ) : Bool :=
  !decide (t < ofNat 0) && !decide (ofNat 0 < t)

/-- The size of a finite double's whole part, read off its exponent and fraction. -/
def wholeSize (exponent fraction : Nat) : Nat :=
  if exponent ≥ 1075 then fraction <<< (exponent - 1075) else fraction >>> (1075 - exponent)

/-- The whole part of a double, towards zero. What is infinite or no number has none. -/
def wholePart (f : Float) : Except Failure Int :=
  let bits := f.toBits.toNat
  let exponent := (bits >>> 52) % 2048
  if f.isNaN then .error .undefinedNumber
  else if exponent = 2047 then .error .numberTooLarge
  else
    let size : Nat := wholeSize exponent ((1 <<< 52) + bits % (1 <<< 52))
    .ok (if bits >>> 63 = 0 then size else -size)

/-- Twice the quotient of two doubles leaves room for rounding; it also ends what a loop would go on with forever, as
from an endless time. -/
def roomFor (t step : Float) : Nat :=
  match wholePart (t / step) with
  | .ok quotient => 2 * quotient.toNat + 2
  | .error _ => 2

instance : Duration Float where
  ofNat := Float.ofNat
  decidableLT := inferInstance
  decidableLE := inferInstance
  truncate := wholePart
  stepsWithin := roomFor

instance : Duration Rat where
  ofNat n := (n : Rat)
  decidableLT := inferInstance
  decidableLE := inferInstance
  truncate t := .ok (t.num.tdiv t.den)
  stepsWithin t step := (t / step).floor.toNat + 1

end Duration

end Chip8
