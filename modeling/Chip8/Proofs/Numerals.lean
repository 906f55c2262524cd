import Chip8.Text.Hex
import Chip8.Text.Numeral
import Mathlib.Tactic

/-!
# Numerals read back

Digits in base sixteen that are written in a fixed width are read as the number that they stand for. Main statement:
`digits?_fixed`.
-/

namespace Chip8

open Text.Numeral (digitValue digits?)

namespace Text.Numeral

lemma digits?_of_not_lt {base value : Nat} {c : Char} {rest : List Char} (hc : ¬digitValue c < base) :
    digits? base value (c :: rest) = none := by
  rw [digits?, if_neg hc]

/-- A row of digits without underscores is read from left to right. -/
lemma digits?_of_plain {base : Nat} (hbase : base ≤ 36) {digits : List Char} (hsome : digits ≠ [])
    (hplain : ∀ c ∈ digits, digitValue c < base) (value : Nat) :
    digits? base value digits = some (digits.foldl (fun value c => value * base + digitValue c) value) := by
  induction digits generalizing value with
  | nil => exact absurd rfl hsome
  | cons c rest ih =>
    have hc : digitValue c < base := hplain c List.mem_cons_self
    have hrest : ∀ d ∈ rest, digitValue d < base := fun d hd => hplain d (List.mem_cons_of_mem _ hd)
    rw [digits?, List.foldl_cons]
    simp only [hc, if_true]
    split
    · rfl
    · next later =>
      have hunderscore : digitValue '_' = 36 := rfl
      have := hrest '_' List.mem_cons_self
      omega
    · next hnil _ => exact ih hnil hrest _

end Text.Numeral

namespace Hex

lemma digitValue_digit (n : Nat) : digitValue (digit n) = n % 16 := by
  have hdigit : ∀ k : Fin 16, digitValue (digit k.val) = k.val := by decide
  have hsame : digit n = digit (n % 16) := by rw [digit, digit, Nat.mod_mod]
  rw [hsame]
  exact hdigit ⟨n % 16, Nat.mod_lt n (by omega)⟩

lemma digitValue_digit_lt (n : Nat) : digitValue (digit n) < 16 := by
  rw [digitValue_digit]
  exact Nat.mod_lt n (by omega)

lemma digitValue_lt_of_mem_fixed {width n : Nat} {c : Char} (hc : c ∈ fixed width n) : digitValue c < 16 := by
  induction width generalizing n with
  | zero => cases hc
  | succ width ih =>
    rw [fixed, List.mem_append, List.mem_singleton] at hc
    rcases hc with hfront | rfl
    · exact ih hfront
    · exact digitValue_digit_lt n

lemma digitValue_lt_of_mem_digits (n : Nat) {c : Char} (hc : c ∈ digits n) : digitValue c < 16 := by
  induction n using digits.induct with
  | case1 n hsmall =>
    rw [digits, if_pos hsmall, List.mem_singleton] at hc
    rw [hc]
    exact digitValue_digit_lt n
  | case2 n hlarge ih =>
    rw [digits, if_neg hlarge, List.mem_append, List.mem_singleton] at hc
    rcases hc with hfront | rfl
    · exact ih hfront
    · exact digitValue_digit_lt n

lemma fixed_add (front width n : Nat) :
    fixed (front + width) n = fixed front (n / 16 ^ width) ++ fixed width n := by
  induction width generalizing n with
  | zero => rw [Nat.pow_zero, Nat.div_one, fixed, List.append_nil, Nat.add_zero]
  | succ width ih =>
    rw [← Nat.add_assoc, fixed, ih, Nat.div_div_eq_div_mul, ← Nat.pow_succ', fixed, List.append_assoc]

lemma fixed_mod (width n : Nat) : fixed width (n % 16 ^ width) = fixed width n := by
  induction width generalizing n with
  | zero => rfl
  | succ width ih =>
    have hdigit : digit (n % (16 * 16 ^ width)) = digit n := by rw [digit, digit, Nat.mod_mul_right_mod]
    rw [Nat.pow_succ', fixed, fixed, Nat.mod_mul_right_div_self, ih, hdigit]

lemma foldl_fixed (width n : Nat) :
    (fixed width n).foldl (fun value c => value * 16 + digitValue c) 0 = n % 16 ^ width := by
  induction width generalizing n with
  | zero => rw [Nat.pow_zero, Nat.mod_one]; rfl
  | succ width ih =>
    rw [fixed, List.foldl_append, ih, List.foldl_cons, List.foldl_nil, digitValue_digit, Nat.pow_succ,
      Nat.mul_comm (16 ^ width), Nat.mod_mul]
    omega

/-- The last digits of a number are read as the number, as far as they go. -/
theorem digits?_fixed (width n : Nat) : digits? 16 0 (fixed (width + 1) n) = some (n % 16 ^ (width + 1)) := by
  have hsome : fixed (width + 1) n ≠ [] := by
    intro hnone
    have hlength := length_fixed (width + 1) n
    rw [hnone] at hlength
    cases hlength
  rw [Text.Numeral.digits?_of_plain (by omega) hsome (fun c => digitValue_lt_of_mem_fixed), foldl_fixed]

end Hex

end Chip8
