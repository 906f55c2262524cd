import Chip8.Failure
import Chip8.Machine.Font

/-!
# Memory

4096 bytes. The font stands at the beginning and programs from `programStart` on. Main statement: after a
sequence of bytes is written, its places hold it and all other places are as before (`getElem_write`).
-/

namespace Chip8

abbrev Memory := Vector UInt8 4096

def memorySize : Nat := 4096

/-- The address of a program's first byte. -/
def programStart : Nat := 0x200

namespace Memory

/-- Bytes written one after the other from an address on; what would lie past the end is left out. -/
def write (memory : Memory) (start : Nat) : List UInt8 → Memory
  | [] => memory
  | byte :: rest => write (memory.setIfInBounds start byte) (start + 1) rest

/-- The bytes from one address up to another, as far as memory reaches. -/
def read (memory : Memory) (start length : Nat) : List UInt8 :=
  (memory.toArray.extract start (start + length)).toList

/-- Zeros with the font at the beginning. -/
def fresh : Memory := write (Vector.replicate 4096 0) 0 font

/-- After bytes are written their places hold them, and every other place is as before. -/
theorem getElem_write (memory : Memory) (start : Nat) (bytes : List UInt8) (i : Nat) (hi : i < 4096) :
    (memory.write start bytes)[i] = if start ≤ i then bytes[i - start]?.getD memory[i] else memory[i] := by
  induction bytes generalizing memory start with
  | nil => simp [write]
  | cons byte rest ih =>
    rw [write, ih]
    by_cases heq : start = i
    · subst heq
      rw [if_neg (by omega), if_pos (Nat.le_refl _)]
      simp
    · rw [Vector.getElem_setIfInBounds_ne _ heq]
      by_cases hle : start ≤ i
      · have hsub : i - start = (i - (start + 1)) + 1 := by omega
        rw [if_pos (by omega), if_pos hle, hsub, List.getElem?_cons_succ]
      · rw [if_neg (by omega), if_neg hle]

end Memory

end Chip8
