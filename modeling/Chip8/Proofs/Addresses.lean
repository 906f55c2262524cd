import Chip8.Failure
import Chip8.Proofs.Spellings

/-!
# Addresses, words and faults in print

Lines name addresses and words by digits in base sixteen. `Hex.Shows` says that the reader of numerals finds a number in
such a text; it does so for every address (`Hex.shows_address`) and for every word (`Word.shows_text`). `Fault.Shown`
describes the text of a fault by what can be read in it (`Fault.shown_text`).
-/

namespace Chip8

open Text.Numeral (Row Spelling digitValue digits? signed? digits?_of_plain digits?_eq_some_iff signed?_eq_some_iff)

namespace Hex

/-- A text is read as a number in base sixteen. -/
def Shows (text : String) (i : Int) : Prop := signed? 16 text.toList = some i

lemma foldl_digits (n : Nat) : (digits n).foldl (fun value c => value * 16 + digitValue c) 0 = n := by
  induction n using digits.induct with
  | case1 n hsmall =>
    rw [digits, if_pos hsmall, List.foldl_cons, List.foldl_nil, digitValue_digit, Nat.mod_eq_of_lt hsmall]
    omega
  | case2 n hlarge ih =>
    rw [digits, if_neg hlarge, List.foldl_append, ih, List.foldl_cons, List.foldl_nil, digitValue_digit]
    omega

lemma digits_ne_nil (n : Nat) : digits n ≠ [] := by
  rw [digits]
  split
  · exact List.cons_ne_nil _ _
  · exact List.append_ne_nil_of_right_ne_nil _ (List.cons_ne_nil _ _)

/-- Zeros in front do not count. -/
lemma digits?_zeros_digits (zeros n : Nat) : digits? 16 0 (List.replicate zeros '0' ++ digits n) = some n := by
  have hzeros : (List.replicate zeros '0').foldl (fun value c => value * 16 + digitValue c) 0 = 0 := by
    induction zeros with
    | zero => rfl
    | succ zeros ih => exact ih
  have hsmall : ∀ c ∈ List.replicate zeros '0' ++ digits n, digitValue c < 16 := by
    refine List.forall_mem_append.2 ⟨fun c hc => ?_, fun c => digitValue_lt_of_mem_digits n⟩
    rw [List.eq_of_mem_replicate hc]
    decide
  rw [digits?_of_plain (by omega) (List.append_ne_nil_of_right_ne_nil _ (digits_ne_nil n)) hsmall, List.foldl_append,
    hzeros, foldl_digits]

/-- Integers are read back in whatever width they are written. -/
theorem signed?_padded (width : Nat) (i : Int) : signed? 16 (padded width i) = some i := by
  unfold padded
  dsimp only
  generalize width - _ - _ = zeros
  obtain ⟨r, htext, hvalue⟩ := (digits?_eq_some_iff _).1 (digits?_zeros_digits zeros i.natAbs)
  rw [List.append_assoc, ← htext, signed?_eq_some_iff]
  by_cases hneg : i < 0
  · refine ⟨⟨some .minus, none, r⟩, by simp [Spelling.text, Text.Numeral.Sign.char, hneg], ?_⟩
    rw [Spelling.value, if_pos rfl, hvalue]
    omega
  · refine ⟨⟨none, none, r⟩, by simp [Spelling.text, hneg], ?_⟩
    rw [Spelling.value, if_neg (by simp), hvalue]
    omega

lemma shows_address (i : Int) : Shows (address i) i := by
  rw [Shows, address, String.toList_ofList]
  exact signed?_padded 3 i

lemma shows_text (i : Int) : Shows (text i) i := by
  rw [Shows, text, String.toList_ofList]
  exact signed?_padded 0 i

end Hex

lemma Word.shows_text (w : Word) : Hex.Shows w.text w.val := by
  obtain ⟨r, htext, hvalue⟩ := (digits?_eq_some_iff _).1 (Hex.digits?_fixed 3 w.val)
  have hall : w.val < 16 ^ (3 + 1) := w.isLt
  rw [Nat.mod_eq_of_lt hall] at hvalue
  rw [Hex.Shows, Word.text, String.toList_ofList, ← htext]
  exact signed?_eq_some_iff.2 ⟨⟨none, some ⟨false, false⟩, r⟩, rfl, congrArg Nat.cast hvalue⟩

namespace Fault

/-- The families of faults by the names that they have in print. -/
def families : List (String × FaultKind) :=
  [("AddressFault", .address), ("StackOverflow", .stackOverflow), ("StackUnderflow", .stackUnderflow),
    ("UnknownOpcode", .unknownOpcode)]

/-- A text shows a fault: its address, then its word if one is known, and why the instruction could not complete. -/
inductive Shown (f : Fault) : String → Prop
  | unfetched {place : String} (hword : f.word = none) (hplace : Hex.Shows place f.address) :
    f.Shown ("$" ++ place ++ ": " ++ f.cause.message)
  | fetched {w : Word} {place digits : String} (hword : f.word = some w) (hplace : Hex.Shows place f.address)
    (hdigits : Hex.Shows digits w.val) : f.Shown ("$" ++ place ++ " [" ++ digits ++ "]: " ++ f.cause.message)

variable (f : Fault)

lemma mem_families : (f.kind.name, f.kind) ∈ families := by
  rw [kind]
  cases f.cause <;> simp [families, FaultCause.kind, FaultKind.name]

lemma shown_text : f.Shown f.text := by
  cases hword : f.word with
  | none =>
    rw [text_of_unfetched hword]
    exact .unfetched hword (Hex.shows_address f.address)
  | some w =>
    rw [text_of_fetched hword]
    exact .fetched hword (Hex.shows_address f.address) w.shows_text

end Fault

end Chip8
