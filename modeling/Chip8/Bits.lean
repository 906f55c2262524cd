/-!
# Bitwise operations on integers

Integers as two's complement numbers of unlimited width: a negative integer has ones in all places beyond its
own. `complement` turns every bit around, and the three binary operations act on each place by itself.
-/

namespace Chip8.Bits

/-- Every bit turned around. -/
def complement (a : Int) : Int :=
  -a - 1

/-- The places where both have a one. -/
def both : Int → Int → Int
  | .ofNat m, .ofNat n => ((m &&& n : Nat) : Int)
  | .ofNat m, .negSucc n => ((m ^^^ (m &&& n) : Nat) : Int)
  | .negSucc m, .ofNat n => ((n ^^^ (n &&& m) : Nat) : Int)
  | .negSucc m, .negSucc n => .negSucc (m ||| n)

/-- The places where at least one has a one. -/
def either (a b : Int) : Int :=
  complement (both (complement a) (complement b))

/-- The places where exactly one has a one. -/
def differ : Int → Int → Int
  | .ofNat m, .ofNat n => ((m ^^^ n : Nat) : Int)
  | .ofNat m, .negSucc n => .negSucc (m ^^^ n)
  | .negSucc m, .ofNat n => .negSucc (m ^^^ n)
  | .negSucc m, .negSucc n => ((m ^^^ n : Nat) : Int)

/-- Whether place `i` holds a one. -/
def bit (a : Int) (i : Nat) : Bool :=
  (a >>> i) % 2 = 1

/-- Whether an integer fits into a signed word of so many bits. -/
def fitsWord (bits : Nat) (a : Int) : Bool :=
  -((1 <<< (bits - 1) : Nat) : Int) ≤ a && a < ((1 <<< (bits - 1) : Nat) : Int)

theorem both_ofNat (m n : Nat) : both m n = ((m &&& n : Nat) : Int) := rfl

theorem differ_ofNat (m n : Nat) : differ m n = ((m ^^^ n : Nat) : Int) := rfl

theorem complement_ofNat (m : Nat) : complement m = Int.negSucc m := by
  rw [complement, Int.negSucc_eq]
  omega

theorem either_ofNat (m n : Nat) : either m n = ((m ||| n : Nat) : Int) := by
  rw [either, complement_ofNat, complement_ofNat, both, complement, Int.negSucc_eq]
  omega

end Chip8.Bits
