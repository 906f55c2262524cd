import Chip8.Text.Blank
import Chip8.Text.DecimalDigit

/-!
# Numerals

A numeral is an optional sign, in base sixteen an optional mark `0x` or `0X` with an optional underscore after
it, and one or more digits with single underscores allowed between them. Digits of all scripts count, and blanks
around the whole are passed over.
-/

namespace Chip8.Text.Numeral

/-- The value of a digit or letter as a digit. -/
def digitValue (c : Char) : Nat :=
  if '0' ≤ c ∧ c ≤ '9' then c.toNat - 48
  else if 'a' ≤ c ∧ c ≤ 'z' then c.toNat - 87
  else if 'A' ≤ c ∧ c ≤ 'Z' then c.toNat - 55
  else 36

/-- One or more digits with single underscores between them, read on from a value. -/
def digits? (base : Nat) (value : Nat) : List Char → Option Nat
  | [] => none
  | c :: rest =>
    if digitValue c < base then
      let value := value * base + digitValue c
      match rest with
      | [] => some value
      | '_' :: rest => digits? base value rest
      | rest => digits? base value rest
    else none

/-- The digits behind the mark of base sixteen, or all of them if there is no mark. -/
def unmarked : List Char → List Char
  | '0' :: 'x' :: '_' :: rest | '0' :: 'X' :: '_' :: rest | '0' :: 'x' :: rest | '0' :: 'X' :: rest => rest
  | digits => digits

/-- Numerals in a base that is no power of two may not have more digits than this. -/
def decimalLimit : Nat := 4300

/-- Whether a numeral's length is allowed. -/
def shortEnough (base : Nat) (digits : List Char) : Bool :=
  base = 16 || digits.countP (· ≠ '_') ≤ decimalLimit

/-- The value of a numeral without its sign. -/
def magnitude? (base : Nat) (text : List Char) : Option Nat :=
  let digits := if base = 16 then unmarked text else text
  if shortEnough base digits then digits? base 0 digits else none

/-- The value of a numeral with its sign. -/
def signed? (base : Nat) : List Char → Option Int
  | '-' :: rest => (magnitude? base rest).map fun value => -(value : Int)
  | '+' :: rest => (magnitude? base rest).map fun value => (value : Int)
  | rest => (magnitude? base rest).map fun value => (value : Int)

/-- The value of a numeral, in a base up to thirty-six. The information separators are no part of the blanks
that are passed over. -/
def read? (base : Nat) (text : List Char) : Option Int :=
  signed? base ((trim (fun c => isBlank c && !isSeparator c) text).map commonDigit)

end Chip8.Text.Numeral
