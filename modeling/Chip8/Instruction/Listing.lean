import Chip8.Instruction.Assembly

/-!
# Listings

The listing of a program has a line for every two bytes, and one more for a byte left over. Lines are made as
data (`Listing.entries`) and written out by `Listing.Entry.text`.
-/

namespace Chip8.Listing

/-- One line: where it stands, and the word or the single byte there. -/
inductive Entry where
  | word (address : Int) (high low : UInt8)
  | byte (address : Int) (value : UInt8)
  deriving DecidableEq, Repr

/-- The lines of a program whose first byte stands at `start`. -/
def entries (start : Int) : List UInt8 → List Entry
  | high :: low :: rest => .word start high low :: entries (start + 2) rest
  | [value] => [.byte start value]
  | [] => []

/-- A line as text. The address stands in three columns, the bytes as they are in memory, then the meaning. -/
def Entry.text : Entry → String
  | .word address high low =>
    "  $" ++ Hex.address address ++ ": " ++
      String.ofList (Hex.fixed 2 high.toNat ++ Hex.fixed 2 low.toNat) ++ "  " ++ (Word.ofBytes high low).assembly
  | .byte address value =>
    let digits := String.ofList (Hex.fixed 2 value.toNat)
    "  $" ++ Hex.address address ++ ": " ++ digits ++ "    .byte 0x" ++ digits

/-- The first `count` words of a program, or for a negative count all but that many words at its end. -/
def cut (count : Int) (program : List UInt8) : List UInt8 :=
  program.take (if count < 0 then program.length + 2 * count else 2 * count).toNat

/-- The listing of a program, line by line. -/
def lines (start : Int) (program : List UInt8) : List String :=
  (entries start program).map Entry.text

end Chip8.Listing
