import Chip8.Instruction.Basic
import Mathlib.Tactic

/-!
# The documented patterns

A pattern gives the family of a word and says what the other three nibbles hold. `Pattern.documented` lists the
patterns of the thirty-four instructions in the order of their words. Main statement: a word is an instruction
exactly if it fits one of them (`decode_eq_none_iff`).
-/

namespace Chip8

/-- What the last three nibbles of a pattern hold: operands, and digits that are given. -/
inductive Layout where
  | nnn
  | xkk
  | xyn
  | xy (n : Nat)
  | x (kk : Nat)
  | given (nnn : Nat)
  deriving DecidableEq, Repr

structure Pattern where
  family : Nat
  layout : Layout
  deriving DecidableEq, Repr

namespace Pattern

def fits (p : Pattern) (w : Word) : Bool :=
  w.family.val = p.family &&
    match p.layout with
    | .nnn | .xkk | .xyn => true
    | .xy n => w.n.val = n
    | .x kk => w.kk.val = kk
    | .given nnn => w.nnn.val = nnn

def documented : List Pattern :=
  [⟨0x0, .given 0x0E0⟩, ⟨0x0, .given 0x0EE⟩, ⟨0x1, .nnn⟩, ⟨0x2, .nnn⟩, ⟨0x3, .xkk⟩, ⟨0x4, .xkk⟩, ⟨0x5, .xy 0x0⟩,
    ⟨0x6, .xkk⟩, ⟨0x7, .xkk⟩, ⟨0x8, .xy 0x0⟩, ⟨0x8, .xy 0x1⟩, ⟨0x8, .xy 0x2⟩, ⟨0x8, .xy 0x3⟩, ⟨0x8, .xy 0x4⟩,
    ⟨0x8, .xy 0x5⟩, ⟨0x8, .xy 0x6⟩, ⟨0x8, .xy 0x7⟩, ⟨0x8, .xy 0xE⟩, ⟨0x9, .xy 0x0⟩, ⟨0xA, .nnn⟩, ⟨0xB, .nnn⟩,
    ⟨0xC, .xkk⟩, ⟨0xD, .xyn⟩, ⟨0xE, .x 0x9E⟩, ⟨0xE, .x 0xA1⟩, ⟨0xF, .x 0x07⟩, ⟨0xF, .x 0x0A⟩, ⟨0xF, .x 0x15⟩,
    ⟨0xF, .x 0x18⟩, ⟨0xF, .x 0x1E⟩, ⟨0xF, .x 0x29⟩, ⟨0xF, .x 0x33⟩, ⟨0xF, .x 0x55⟩, ⟨0xF, .x 0x65⟩]

example : documented.length = 34 ∧ documented.Nodup := by decide

end Pattern

namespace Instruction

def pattern : Instruction → Pattern
  | .clearScreen => ⟨0x0, .given 0x0E0⟩
  | .returnFromCall => ⟨0x0, .given 0x0EE⟩
  | .jump _ => ⟨0x1, .nnn⟩
  | .call _ => ⟨0x2, .nnn⟩
  | .skip (.equalsConstant ..) => ⟨0x3, .xkk⟩
  | .skip (.differsFromConstant ..) => ⟨0x4, .xkk⟩
  | .skip (.equalsRegister ..) => ⟨0x5, .xy 0x0⟩
  | .setConstant .. => ⟨0x6, .xkk⟩
  | .addConstant .. => ⟨0x7, .xkk⟩
  | .combine how .. => ⟨0x8, .xy how.nibble⟩
  | .skip (.differsFromRegister ..) => ⟨0x9, .xy 0x0⟩
  | .setIndex _ => ⟨0xA, .nnn⟩
  | .jumpFromFirst _ => ⟨0xB, .nnn⟩
  | .random .. => ⟨0xC, .xkk⟩
  | .draw .. => ⟨0xD, .xyn⟩
  | .skip (.keyDown _) => ⟨0xE, .x 0x9E⟩
  | .skip (.keyUp _) => ⟨0xE, .x 0xA1⟩
  | .readDelay _ => ⟨0xF, .x 0x07⟩
  | .awaitKey _ => ⟨0xF, .x 0x0A⟩
  | .setDelay _ => ⟨0xF, .x 0x15⟩
  | .setSound _ => ⟨0xF, .x 0x18⟩
  | .addIndex _ => ⟨0xF, .x 0x1E⟩
  | .pointAtGlyph _ => ⟨0xF, .x 0x29⟩
  | .storeDigits _ => ⟨0xF, .x 0x33⟩
  | .storeRegisters _ => ⟨0xF, .x 0x55⟩
  | .loadRegisters _ => ⟨0xF, .x 0x65⟩

lemma pattern_mem_documented (i : Instruction) : i.pattern ∈ Pattern.documented := by
  cases i with
  | skip condition => cases condition <;> simp [pattern, Pattern.documented]
  | combine how x y => cases how <;> simp [pattern, Pattern.documented, Combination.nibble]
  | _ => simp [pattern, Pattern.documented]

lemma pattern_fits_encode (i : Instruction) : i.pattern.fits i.encode := by
  cases i with
  | skip condition => cases condition <;> simp [pattern, Pattern.fits, encode]
  | combine how x y => cases how <;> simp [pattern, Pattern.fits, encode, Combination.nibble]
  | clearScreen => rfl
  | returnFromCall => rfl
  | _ => simp [pattern, Pattern.fits, encode]

/-- A word that fits a documented pattern is an instruction. -/
lemma isSome_decode_of_fits {p : Pattern} {w : Word} (hp : p ∈ Pattern.documented) (hfits : p.fits w) :
    (decode w).isSome := by
  have hwhole : w.val = w.family.val * 4096 + w.nnn.val := by
    simp only [Word.family, Word.nnn]
    omega
  unfold Pattern.documented at hp
  fin_cases hp <;> simp_all [Pattern.fits, decode, ofLastByte?, Combination.ofNibble?]

/-- A word is no instruction exactly if it fits none of the documented patterns. -/
theorem decode_eq_none_iff (w : Word) : decode w = none ↔ ∀ p ∈ Pattern.documented, ¬p.fits w := by
  constructor
  · intro hnone p hp hfits
    have hsome := isSome_decode_of_fits hp hfits
    rw [hnone] at hsome
    cases hsome
  · intro hfree
    cases hdecode : decode w with
    | none => rfl
    | some i =>
      have hfits := i.pattern_fits_encode
      rw [encode_of_decode hdecode] at hfits
      exact absurd hfits (hfree _ i.pattern_mem_documented)

end Instruction

end Chip8
