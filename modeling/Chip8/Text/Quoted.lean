import Chip8.Text.Hex
import Chip8.Text.Printable

/-!
# Quoted text

A text between quotes, with escapes for what would not be readable. The quote is the single one, unless the text
holds single quotes and no double ones.
-/

namespace Chip8.Text.Quoted

/-- The quote that a text is put into. -/
def quoteFor (text : List Char) : Char :=
  if text.contains '\'' && !text.contains '"' then '"' else '\''

def lowerHex (width n : Nat) : List Char :=
  (Hex.fixed width n).map Char.toLower

/-- One character between quotes. -/
def encodeChar (quote c : Char) : List Char :=
  if c = quote ∨ c = '\\' then ['\\', c]
  else if c = '\n' then ['\\', 'n']
  else if c = '\r' then ['\\', 'r']
  else if c = '\t' then ['\\', 't']
  else if isPrintable c then [c]
  else if c.toNat < 0x100 then '\\' :: 'x' :: lowerHex 2 c.toNat
  else if c.toNat < 0x10000 then '\\' :: 'u' :: lowerHex 4 c.toNat
  else '\\' :: 'U' :: lowerHex 8 c.toNat

def encode (text : String) : String :=
  let quote := quoteFor text.toList
  String.ofList (quote :: text.toList.flatMap (encodeChar quote) ++ [quote])

end Chip8.Text.Quoted
