import Chip8.Keypad
import Chip8.Text.Numeral

/-!
# Lists of keys

Keys are listed as numerals in base sixteen, parted by commas. The empty text lists no keys. The first part that
names no key decides what is wrong with the list.
-/

namespace Chip8.KeyList

/-- What is wrong with a list of keys. -/
inductive Mistake where
  /-- A part is no numeral. -/
  | notANumeral
  /-- A part is a numeral, but there is no such key. -/
  | noSuchKey (part : String)
  deriving DecidableEq, Repr

def Mistake.message : Mistake → String
  | .notANumeral => "invalid numeral"
  | .noSuchKey part => "Keypad code out of range: " ++ part

/-- The key that one part names. -/
def readPart (part : List Char) : Except Mistake Key :=
  match Text.Numeral.read? 16 (Text.trim Text.isBlank part) with
  | none => .error .notANumeral
  | some value =>
    match Key.ofInt? value with
    | some key => .ok key
    | none => .error (.noSuchKey (String.ofList part))

/-- The keys that all parts name, in order. -/
def readParts : List (List Char) → Except Mistake (List Key)
  | [] => .ok []
  | part :: rest => do
    let key ← readPart part
    let keys ← readParts rest
    return key :: keys

/-- The keys that a text lists. -/
def read (text : String) : Except Mistake (List Key) :=
  if text = "" then .ok [] else readParts (text.toList.splitOn ',')

end Chip8.KeyList
