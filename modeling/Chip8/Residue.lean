/-!
# Residues and positions

`residue` takes an integer around a cycle of `n` places, `slot?` reads an integer as a position in a row of `n`
places counted from either end. Main statements: the value of a residue is the integer modulo `n`, and residues
agree exactly when the integers are congruent.
-/

namespace Chip8

/-- The place reached by counting `i` steps around a cycle of `n` places, backwards for a negative `i`. -/
def residue (n : Nat) (pos : 0 < n) (i : Int) : Fin n :=
  ⟨(i % n).toNat, by
    have := Int.emod_nonneg i (show (n : Int) ≠ 0 by omega)
    have := Int.emod_lt_of_pos i (show (0 : Int) < n by omega)
    omega⟩

/-- The place that `i` names in a row of `n`: from the front if it is not negative, from the back if it is. -/
def slot? (n : Nat) (i : Int) : Option (Fin n) :=
  if h : 0 ≤ i ∧ i < n then some ⟨i.toNat, by omega⟩
  else if h : -(n : Int) ≤ i ∧ i < 0 then some ⟨(i + n).toNat, by omega⟩
  else none

theorem val_residue (n : Nat) (pos : 0 < n) (i : Int) : ((residue n pos i).val : Int) = i % n := by
  have := Int.emod_nonneg i (show (n : Int) ≠ 0 by omega)
  simp only [residue]
  omega

theorem residue_eq_iff (n : Nat) (pos : 0 < n) (i j : Int) :
    residue n pos i = residue n pos j ↔ i % n = j % n := by
  rw [Fin.ext_iff, ← val_residue n pos, ← val_residue n pos]
  omega

theorem residue_val {n : Nat} (pos : 0 < n) (k : Fin n) : residue n pos k.val = k := by
  apply Fin.ext
  have h := val_residue n pos k.val
  rw [Int.emod_eq_of_lt (by omega) (by have := k.isLt; omega)] at h
  omega

theorem slot?_val {n : Nat} (k : Fin n) : slot? n (k : Nat) = some k := by
  have hk := k.isLt
  simp only [slot?]
  rw [dif_pos (by omega)]
  congr 1

end Chip8
