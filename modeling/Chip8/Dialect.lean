/-!
# Dialects

Interpreters disagree on two points: which register a shift reads, and which bit of a sprite row stands left.
A dialect has a setting for each. Settings are chosen by name; a name that is none of the two is refused.
-/

namespace Chip8

/-- A value for each point on which interpreters disagree. -/
structure Dialect (α : Type) where
  /-- A shift reads its second register. -/
  shiftUsesVy : α
  /-- The lowest bit of a sprite row is its leftmost pixel. -/
  spriteLsbLeft : α
  deriving DecidableEq, Repr

namespace Dialect

variable {α β : Type}

/-- The names of the settings, in their order. -/
def names : List String := ["shift_uses_vy", "sprite_lsb_left"]

/-- The settings by name, in their order. -/
def settings (d : Dialect α) : List (String × α) :=
  names.zip [d.shiftUsesVy, d.spriteLsbLeft]

def map (f : α → β) (d : Dialect α) : Dialect β :=
  ⟨f d.shiftUsesVy, f d.spriteLsbLeft⟩

/-- Today's convention: shifts read their first register and the highest bit stands left. -/
def modern : Dialect Bool := ⟨false, false⟩

/-- The names that are no setting, sorted, each once. -/
def unknownNames (given : List (String × α)) : List String :=
  (((given.map Prod.fst).filter (· ∉ names)).eraseDups).mergeSort (· ≤ ·)

/-- The value given last under a name, or else the one that stands. -/
def choose (given : List (String × α)) (name : String) (standing : α) : α :=
  ((given.reverse.find? (·.1 = name)).map Prod.snd).getD standing

/-- A dialect with some settings replaced; the unknown names among them, if there are any. -/
def override (d : Dialect α) (given : List (String × α)) : Except (List String) (Dialect α) :=
  match unknownNames given with
  | [] => .ok ⟨choose given "shift_uses_vy" d.shiftUsesVy, choose given "sprite_lsb_left" d.spriteLsbLeft⟩
  | unknown => .error unknown

def unknownMessage (names : List String) : String :=
  "Unknown quirk(s): " ++ String.intercalate ", " names

end Dialect

inductive Setting where
  | absent
  | flag (value : Bool)
  | number (isZero : Bool)
  | text (value : String)
  | collection (isEmpty : Bool)
  deriving DecidableEq, Repr

namespace Setting

/-- Whether a value turns its setting on: zero, the empty text, the empty collection and no value at all
do not. -/
def isOn : Setting → Bool
  | .absent => false
  | .flag value => value
  | .number isZero => !isZero
  | .text value => value ≠ ""
  | .collection isEmpty => !isEmpty

end Setting

end Chip8
