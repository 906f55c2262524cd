/-!
# Hexadecimal text

Upper-case digits, base sixteen. `fixed` writes a number in an exact count of digits, `padded` writes any
integer with at least a given width, where the sign stands first and counts as a column.
-/

namespace Chip8.Hex

/-- The character of one digit; only the value modulo sixteen counts. -/
def digit (n : Nat) : Char :=
  match n % 16 with
  | 0 => '0' | 1 => '1' | 2 => '2' | 3 => '3'
  | 4 => '4' | 5 => '5' | 6 => '6' | 7 => '7'
  | 8 => '8' | 9 => '9' | 10 => 'A' | 11 => 'B'
  | 12 => 'C' | 13 => 'D' | 14 => 'E' | _ => 'F'

/-- The last `width` digits of a number, leading zeros included. -/
def fixed : Nat → Nat → List Char
  | 0, _ => []
  | width + 1, n => fixed width (n / 16) ++ [digit n]

/-- All digits of a number; zero is one digit. -/
def digits (n : Nat) : List Char :=
  if n < 16 then [digit n] else digits (n / 16) ++ [digit n]
termination_by n

/-- An integer in at least `width` columns: a minus sign first where there is one, then zeros,
then the digits of the magnitude. -/
def padded (width : Nat) (i : Int) : List Char :=
  let body := digits i.natAbs
  let sign := if i < 0 then ['-'] else []
  sign ++ List.replicate (width - sign.length - body.length) '0' ++ body

/-- An integer in as few columns as it needs. -/
def text (i : Int) : String :=
  String.ofList (padded 0 i)

/-- An integer in at least three columns, the width of a memory address. -/
def address (i : Int) : String :=
  String.ofList (padded 3 i)

theorem length_fixed (width n : Nat) : (fixed width n).length = width := by
  induction width generalizing n with
  | zero => rfl
  | succ width ih => simp [fixed, ih]

end Chip8.Hex
