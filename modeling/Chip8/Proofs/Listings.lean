import Chip8.Instruction.Listing
import Chip8.Proofs.Loading
import Chip8.Proofs.Numerals

/-!
# What listings show

A listing has a line for every two bytes and one for a byte left over, and shows every byte of a program:
`Listing.bytesOf` reads the bytes of a line back from its digits, wherever the program starts, so no two programs have
the same listing. The words that it shows are those that a machine fetches after the program was copied into its memory,
with the same assembly text. Main statement: `listing_lossless`.
-/

namespace Chip8

open Text.Numeral (digits?)

namespace Hex

lemma colon_not_mem_padded (width : Nat) (i : Int) : ':' ∉ padded width i := by
  intro hmem
  rw [padded, List.mem_append, List.mem_append] at hmem
  rcases hmem with (hsign | hzero) | hbody
  · split at hsign
    · simp at hsign
    · cases hsign
  · exact absurd (List.eq_of_mem_replicate hzero) (by decide)
  · exact absurd (digitValue_lt_of_mem_digits _ hbody) (by decide)

lemma fixed_ofBytes (high low : UInt8) :
    fixed 4 (Word.ofBytes high low).val = fixed 2 high.toNat ++ fixed 2 low.toNat := by
  have hlow := low.toNat_lt
  have hvalue : (Word.ofBytes high low).val = high.toNat * 256 + low.toNat := rfl
  have hfront : (Word.ofBytes high low).val / 16 ^ 2 = high.toNat := by omega
  have hback : (Word.ofBytes high low).val % 16 ^ 2 = low.toNat := by omega
  rw [fixed_add 2 2, hfront, ← fixed_mod 2 (Word.ofBytes high low).val, hback]

end Hex

namespace Listing

/-- The digits of a row of bytes. -/
def column (bytes : List UInt8) : List Char :=
  bytes.flatMap fun byte => Hex.fixed 2 byte.toNat

/-- The bytes that pairs of digits stand for, up to the first pair that is none. -/
def readColumn : List Char → List UInt8
  | high :: low :: rest =>
    match digits? 16 0 [high, low] with
    | some value => UInt8.ofNat value :: readColumn rest
    | none => []
  | _ => []

/-- The bytes that a line shows: their digits stand behind the colon and a blank. -/
def bytesOf (line : String) : List UInt8 :=
  readColumn ((line.toList.dropWhile (· ≠ ':')).drop 2)

lemma readColumn_column (bytes : List UInt8) (rest : List Char) :
    readColumn (column bytes ++ ' ' :: rest) = bytes := by
  induction bytes with
  | nil =>
    cases rest with
    | nil => rfl
    | cons c rest =>
      -- the column ends at the blank, which is no digit
      have hblank : digits? 16 0 [' ', c] = none := Text.Numeral.digits?_of_not_lt (by decide)
      change readColumn (' ' :: c :: rest) = []
      rw [readColumn, hblank]
  | cons byte bytes ih =>
    have hread : digits? 16 0 (Hex.fixed 2 byte.toNat) = some (byte.toNat % 256) := Hex.digits?_fixed 1 byte.toNat
    change readColumn (Hex.digit (byte.toNat / 16) :: Hex.digit byte.toNat :: (column bytes ++ ' ' :: rest)) = _
    have hpair : [Hex.digit (byte.toNat / 16), Hex.digit byte.toNat] = Hex.fixed 2 byte.toNat := rfl
    rw [readColumn, hpair, hread]
    have hbyte : UInt8.ofNat (byte.toNat % 256) = byte := by
      rw [Nat.mod_eq_of_lt byte.toNat_lt, UInt8.ofNat_toNat]
    exact congrArg₂ List.cons hbyte ih

namespace Entry

def address : Entry → Int
  | .word address _ _ => address
  | .byte address _ => address

def bytes : Entry → List UInt8
  | .word _ high low => [high, low]
  | .byte _ value => [value]

/-- What stands behind the bytes and two blanks. -/
def meaning : Entry → String
  | .word _ high low => (Word.ofBytes high low).assembly
  | .byte _ value => "  .byte 0x" ++ String.ofList (Hex.fixed 2 value.toNat)

lemma text_eq (e : Entry) :
    e.text = "  $" ++ Hex.address e.address ++ ": " ++ String.ofList (column e.bytes) ++ "  " ++ e.meaning := by
  cases e with
  | word address high low =>
    have hcolumn : column [high, low] = Hex.fixed 2 high.toNat ++ Hex.fixed 2 low.toNat := by simp [column]
    rw [bytes, hcolumn]
    rfl
  | byte address value =>
    have hcolumn : column [value] = Hex.fixed 2 value.toNat := by simp [column]
    have hblanks : "    .byte 0x" = "  " ++ "  .byte 0x" := by decide
    rw [bytes, hcolumn, text, hblanks, meaning]
    simp only [String.append_assoc]
    rfl

lemma bytesOf_text (e : Entry) : bytesOf e.text = e.bytes := by
  -- the first colon is the one behind the address
  have hbefore : ∀ c ∈ ' ' :: ' ' :: '$' :: Hex.padded 3 e.address, decide (c ≠ ':') = true := by
    intro c hc
    have hne : c ≠ ':' := by
      rintro rfl
      simp only [List.mem_cons] at hc
      rcases hc with hc | hc | hc | hc
      · cases hc
      · cases hc
      · cases hc
      · exact Hex.colon_not_mem_padded 3 _ hc
    exact decide_eq_true hne
  have htext : e.text.toList = (' ' :: ' ' :: '$' :: Hex.padded 3 e.address) ++
      ':' :: ' ' :: (column e.bytes ++ ' ' :: ' ' :: e.meaning.toList) := by
    rw [text_eq]
    simp [Hex.address]
  rw [bytesOf, htext, List.dropWhile_append_of_pos hbefore]
  exact readColumn_column e.bytes (' ' :: e.meaning.toList)

end Entry

lemma length_entries (start : Int) (program : List UInt8) :
    (entries start program).length = (program.length + 1) / 2 := by
  induction start, program using entries.induct with
  | case1 start high low rest ih =>
    rw [entries, List.length_cons, ih, List.length_cons, List.length_cons]
    omega
  | case2 start value => simp only [entries, List.length_singleton]
  | case3 start => rfl

lemma flatMap_bytes (start : Int) (program : List UInt8) : (entries start program).flatMap Entry.bytes = program := by
  induction start, program using entries.induct with
  | case1 start high low rest ih =>
    rw [entries, List.flatMap_cons, ih]
    rfl
  | case2 start value => rfl
  | case3 start => rfl

lemma exists_entry (start : Int) (program : List UInt8) {i : Nat} (hi : i < (program.length + 1) / 2) :
    ∃ e, (entries start program)[i]? = some e ∧ e.address = start + 2 * i ∧
      e.bytes = (program.drop (2 * i)).take 2 := by
  induction start, program using entries.induct generalizing i with
  | case1 start high low rest ih =>
    rw [List.length_cons, List.length_cons] at hi
    cases i with
    | zero => exact ⟨.word start high low, rfl, by simp [Entry.address], rfl⟩
    | succ i =>
      obtain ⟨e, he, haddress, hbytes⟩ := ih (i := i) (by omega)
      refine ⟨e, he, ?_, ?_⟩
      · rw [haddress]
        push_cast
        omega
      · rw [hbytes, Nat.mul_succ]
        rfl
  | case2 start value =>
    obtain rfl : i = 0 := by
      rw [List.length_singleton] at hi
      omega
    exact ⟨.byte start value, rfl, by simp [Entry.address], rfl⟩
  | case3 start => exact absurd hi (by simp)

lemma take_two_drop {program : List UInt8} {k : Nat} (hk : k + 1 < program.length) :
    (program.drop k).take 2 = [program[k], program[k + 1]] := by
  rw [List.drop_eq_getElem_cons (by omega), List.drop_eq_getElem_cons hk]
  rfl

/-- A line that has two bytes to show is the line of their word. -/
lemma getElem?_lines (start : Int) {program : List UInt8} {i : Nat} (hi : 2 * i + 1 < program.length) :
    (lines start program)[i]? =
      some (Entry.word (start + 2 * i) program[2 * i] program[2 * i + 1]).text := by
  obtain ⟨e, he, haddress, hbytes⟩ := exists_entry start program (i := i) (by omega)
  rw [take_two_drop hi] at hbytes
  cases e with
  | word address high low =>
    obtain ⟨hhigh, hlow⟩ : high = program[2 * i] ∧ low = program[2 * i + 1] := by simpa [Entry.bytes] using hbytes
    rw [lines, List.getElem?_map, he, ← haddress, ← hhigh, ← hlow]
    rfl
  | byte address value => simp [Entry.bytes] at hbytes

lemma flatMap_bytesOf (start : Int) (program : List UInt8) : (lines start program).flatMap bytesOf = program := by
  rw [lines, List.flatMap_map]
  simp only [Entry.bytesOf_text]
  exact flatMap_bytes start program

end Listing

/-- A machine that a program was copied into fetches its bytes two by two. -/
lemma fetch_installed {m : Machine} {before : Memory} {program : List UInt8} {k : Nat}
    (hmemory : m.memory = before.write programStart program) (hcounter : m.counter = programStart + k)
    (hfit : program.length ≤ 3584) (hk : k + 1 < program.length) :
    Action.fetch m = .ok (Word.ofBytes program[k] program[k + 1]) { m with counter := programStart + k + 2 } := by
  have hstart : (programStart : Int) = 512 := rfl
  have hhigh : m.memory.get (Machine.cell m.counter) = program[k] := by
    rw [hmemory, hcounter]
    exact Machine.get_write_at before programStart (by omega) (by omega) (by omega)
  have hlow : m.memory.get (Machine.cell (m.counter + 1)) = program[k + 1] := by
    rw [hmemory, hcounter, Int.add_assoc]
    exact Machine.get_write_at before programStart (by omega) hk (by omega)
  rw [Action.fetch_run (by omega), Machine.word?, if_pos (by omega), hhigh, hlow, hcounter]

/-- The lines of a listing show their addresses and bytes, so that the program can be read back, and the words that a
machine fetches from it. -/
theorem listing_lossless (start : Int) (program : List UInt8) :
    ((Listing.lines start program).length = (program.length + 1) / 2 ∧
      (∀ i < (program.length + 1) / 2, ∃ meaning,
        (Listing.lines start program)[i]? =
          some ("  $" ++ Hex.address (start + 2 * i) ++ ": " ++
            String.ofList (Listing.column ((program.drop (2 * i)).take 2)) ++ "  " ++ meaning)) ∧
      (Listing.lines start program).flatMap Listing.bytesOf = program ∧
      ∀ other, Listing.lines start other = Listing.lines start program → other = program) ∧
    (program.length ≤ 3584 → ∀ m : Machine, ∃ loaded, Action.installProgram program m = .ok () loaded ∧
      ∀ k, k % 2 = 0 → k + 1 < program.length → ∃ word,
        Action.fetch { loaded with counter := programStart + k } =
          .ok word { loaded with counter := programStart + k + 2 } ∧
        (Listing.lines programStart program)[k / 2]? =
          some ("  $" ++ Hex.address (programStart + k) ++ ": " ++ String.ofList (Hex.fixed 4 word.val) ++ "  " ++
            word.assembly)) := by
  refine ⟨⟨?_, ?_, Listing.flatMap_bytesOf start program, ?_⟩, ?_⟩
  · rw [Listing.lines, List.length_map, Listing.length_entries]
  · intro i hi
    obtain ⟨e, he, haddress, hbytes⟩ := Listing.exists_entry start program hi
    refine ⟨e.meaning, ?_⟩
    rw [Listing.lines, List.getElem?_map, he, ← haddress, ← hbytes, ← Listing.Entry.text_eq]
    rfl
  · intro other hsame
    rw [← Listing.flatMap_bytesOf start other, hsame, Listing.flatMap_bytesOf]
  · intro hfit m
    have hinstall := (Action.installProgram_run program m).trans (if_neg (Nat.not_lt.2 hfit))
    refine ⟨_, hinstall, fun k heven hk => ⟨_, fetch_installed rfl rfl hfit hk, ?_⟩⟩
    obtain ⟨i, rfl⟩ : ∃ i, k = 2 * i := ⟨k / 2, by omega⟩
    have haddress : ((2 * i : Nat) : Int) = 2 * i := Nat.cast_mul 2 i
    rw [Nat.mul_div_cancel_left i (by omega), Listing.getElem?_lines programStart hk, Hex.fixed_ofBytes, haddress,
      Listing.Entry.text]

/-- Seven bytes: a constant, a call, a word that is no instruction, and a byte left over. -/
theorem listing_lossless_seven :
    let program : List UInt8 := [0x60, 0x05, 0x22, 0x10, 0xFF, 0xFF, 0xAB]
    (∀ other, Listing.lines 0x200 other = Listing.lines 0x200 program → other = program) ∧
    (∃ meaning, (Listing.lines 0x200 program)[3]? = some ("  $206: AB  " ++ meaning)) ∧
    ∃ loaded word, Action.installProgram program Machine.fresh = .ok () loaded ∧
      Action.fetch { loaded with counter := 0x202 } = .ok word { loaded with counter := 0x204 } ∧
      (Listing.lines 0x200 program)[1]? =
        some ("  $202: " ++ String.ofList (Hex.fixed 4 word.val) ++ "  " ++ word.assembly) := by
  intro program
  obtain ⟨⟨-, hlines, -, hinjective⟩, hfetch⟩ := listing_lossless 0x200 program
  obtain ⟨meaning, hlast⟩ := hlines 3 (by decide)
  obtain ⟨loaded, hinstall, hwords⟩ := hfetch (by decide) Machine.fresh
  obtain ⟨word, hword, hline⟩ := hwords 2 rfl (by decide)
  have hbyte : "  $" ++ Hex.address (0x200 + 2 * (3 : Nat)) ++ ": " ++
      String.ofList (Listing.column ((program.drop (2 * 3)).take 2)) ++ "  " = "  $206: AB  " := by decide +kernel
  have hplace : "  $" ++ Hex.address (programStart + (2 : Nat)) ++ ": " = "  $202: " := by decide +kernel
  rw [hbyte] at hlast
  rw [hplace] at hline
  exact ⟨hinjective, ⟨meaning, hlast⟩, loaded, word, hinstall, hword, hline⟩

end Chip8
