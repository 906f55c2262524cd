import Chip8.Residue

/-!
# The keypad

Sixteen keys, and the presses that nobody has asked for yet, oldest first. Only a key that goes down counts as a
press, and at most sixteen presses are kept, the oldest giving way.
-/

namespace Chip8

abbrev Key := Fin 16

/-- The key of a number, if there is one. -/
def Key.ofInt? (code : Int) : Option Key :=
  if h : 0 ≤ code ∧ code < 16 then some ⟨code.toNat, by omega⟩ else none

structure Keypad where
  /-- Which keys are held down. -/
  down : Vector Bool 16
  /-- The codes under which keys were pressed, oldest first. -/
  pending : List Int
  deriving DecidableEq

namespace Keypad

def capacity : Nat := 16

def idle : Keypad := ⟨Vector.replicate 16 false, []⟩

/-- The last elements of a list, as many as are kept. -/
def newest (presses : List Int) : List Int :=
  presses.drop (presses.length - capacity)

/-- Whether a code names a key that is down; a code past the keypad never does. -/
def isDown (k : Keypad) (code : Int) : Bool :=
  (Key.ofInt? code).any (k.down[·])

/-- A key goes down under some code. It counts as a press only if it was up. -/
def press (k : Keypad) (key : Key) (code : Int) : Keypad :=
  if k.down[key] then k else ⟨k.down.set key true, newest (k.pending ++ [code])⟩

def release (k : Keypad) (key : Key) : Keypad :=
  { k with down := k.down.set key false }

def discard (k : Keypad) : Keypad :=
  { k with pending := [] }

/-- The oldest press kept, taken out. -/
def poll (k : Keypad) : Option Int × Keypad :=
  match k.pending with
  | [] => (none, k)
  | code :: rest => (some code, { k with pending := rest })

theorem length_newest (presses : List Int) : (newest presses).length ≤ capacity := by
  simp only [newest, List.length_drop]
  omega

theorem newest_of_length_le {presses : List Int} (h : presses.length ≤ capacity) : newest presses = presses := by
  simp [newest, Nat.sub_eq_zero_of_le h]

end Keypad

end Chip8
