import Chip8.Keypad.KeyList
import Chip8.Proofs.Spellings
import Mathlib.Data.List.TakeWhile

/-!
# What a list of keys says

A list of keys is read part by part, and a part names a key if it spells the key's number between blanks, in digits of
any script. The empty text lists no keys. Main statement: `key_list_read`, with the exact condition for each way in
which a list can be wrong, and with the lists written in any of the ways that keys can be written.
-/

namespace Chip8

namespace Text

variable {drop : Char → Bool} {front core back text : List Char}

/-- A text is cut into what is trimmed off at the front, what is kept, and what is trimmed off at the back. -/
lemma exists_trim (drop : Char → Bool) (text : List Char) :
    ∃ front back, text = front ++ trim drop text ++ back ∧ (∀ c ∈ front, drop c) ∧ ∀ c ∈ back, drop c := by
  have hfront := List.takeWhile_append_dropWhile (p := drop) (l := text)
  have hback := List.takeWhile_append_dropWhile (p := drop) (l := (text.dropWhile drop).reverse)
  refine ⟨text.takeWhile drop, ((text.dropWhile drop).reverse.takeWhile drop).reverse, ?_, ?_, ?_⟩
  · have hrest : trim drop text ++ ((text.dropWhile drop).reverse.takeWhile drop).reverse = text.dropWhile drop := by
      rw [trim, ← List.reverse_append, hback, List.reverse_reverse]
    rw [List.append_assoc, hrest, hfront]
  · exact fun c hc => List.mem_takeWhile_imp hc
  · exact fun c hc => List.mem_takeWhile_imp (List.mem_reverse.1 hc)

lemma dropWhile_of_none (hcore : ∀ c ∈ core, drop c = false) : core.dropWhile drop = core := by
  cases core with
  | nil => rfl
  | cons c rest => simp [hcore c List.mem_cons_self]

lemma trim_append (hfront : ∀ c ∈ front, drop c) (hback : ∀ c ∈ back, drop c) (hcore : ∀ c ∈ core, drop c = false) :
    trim drop (front ++ core ++ back) = core := by
  have hbehind : ∀ c ∈ back.reverse, drop c := fun c hc => hback c (List.mem_reverse.1 hc)
  have hreverse : ∀ c ∈ core.reverse, drop c = false := fun c hc => hcore c (List.mem_reverse.1 hc)
  by_cases hnone : core = []
  · subst hnone
    have hall : ∀ c ∈ front ++ back, drop c := by simpa [or_imp, forall_and] using ⟨hfront, hback⟩
    have hempty : (front ++ back).dropWhile drop = [] := List.dropWhile_eq_nil_iff.2 hall
    rw [trim, List.append_nil, hempty]
    rfl
  · have hstays : (core ++ back).dropWhile drop = core ++ back := by
      cases core with
      | nil => exact absurd rfl hnone
      | cons c rest => simp [hcore c List.mem_cons_self]
    rw [trim, List.append_assoc, List.dropWhile_append_of_pos hfront, hstays, List.reverse_append,
      List.dropWhile_append_of_pos hbehind, dropWhile_of_none hreverse, List.reverse_reverse]

/-- No blank is a digit. -/
lemma commonDigit_of_isBlank {c : Char} (hc : isBlank c) : commonDigit c = c := by
  have hapart : blankRanges.all (fun range => zeros.all fun first =>
      decide (first + 9 < range.1 ∨ range.2 < first)) = true := by decide
  obtain ⟨range, hrange, hinside⟩ := List.any_eq_true.1 hc
  have hnone : decimalDigit? c = none := by
    rw [decimalDigit?, Option.map_eq_none_iff, List.find?_eq_none]
    intro first hfirst
    have haway := List.all_eq_true.1 (List.all_eq_true.1 hapart range hrange) first hfirst
    simp only [decide_eq_true_eq, Bool.and_eq_true] at haway hinside ⊢
    omega
  rw [commonDigit, hnone]

namespace Numeral

/-- The characters that numerals in base sixteen are spelled with. -/
def letters : List Char := "+-_xX0123456789ABCDEFabcdef".toList

lemma char_mem_letters (d : Digit) : d.char ∈ letters := by
  have hall : ∀ (value : Fin 16) (capital : Bool), Digit.char ⟨value, capital⟩ ∈ letters := by decide
  exact hall d.value d.capital

lemma mark_mem_letters (mark : Mark) {c : Char} (hc : c ∈ mark.text) : c ∈ letters := by
  have hall : ∀ capital underscore : Bool, (Mark.text ⟨capital, underscore⟩).all (letters.contains ·) := by decide
  simpa using List.all_eq_true.1 (hall mark.capital mark.underscore) c hc

lemma mem_letters {s : Spelling} {c : Char} (hc : c ∈ s.text) : c ∈ letters := by
  obtain ⟨sign, mark, r⟩ := s
  simp only [Spelling.text, List.mem_append] at hc
  rcases hc with (hsign | hmark) | hrow
  · cases sign with
    | none => cases hsign
    | some sign =>
      rw [Option.map_some, Option.toList_some, List.mem_singleton] at hsign
      rw [hsign]
      cases sign <;> decide
  · cases mark with
    | none => cases hmark
    | some mark => exact mark_mem_letters mark hmark
  · rcases Row.mem_text hrow with rfl | ⟨d, rfl⟩
    · decide
    · exact char_mem_letters d

/-- They are no blanks and no commas, and digits of no other script. -/
lemma plain_of_mem_letters {c : Char} (hc : c ∈ letters) : isBlank c = false ∧ c ≠ ',' ∧ commonDigit c = c := by
  have hall : letters.all (fun c => !isBlank c && c != ',' && commonDigit c == c) = true := by decide +kernel
  have hplain := List.all_eq_true.1 hall c hc
  simp only [Bool.and_eq_true, Bool.not_eq_true', bne_iff_ne, beq_iff_eq] at hplain
  exact ⟨hplain.1.1, hplain.1.2, hplain.2⟩

end Numeral

end Text

namespace KeyList

open Text Text.Numeral

/-- A part of a list spells a number: between blanks stands a numeral in base sixteen, in digits of any script. -/
def Spells (part : List Char) (value : Int) : Prop :=
  ∃ (front core back : List Char) (s : Spelling), part = front ++ core ++ back ∧
    (∀ c ∈ front, isBlank c) ∧ (∀ c ∈ back, isBlank c) ∧ core.map commonDigit = s.text ∧ s.value = value

/-- What is wrong with a part that names no key. -/
inductive Wrong (part : List Char) : Mistake → Prop
  | unspelled (h : ∀ value, ¬Spells part value) : Wrong part .notANumeral
  | outside {value : Int} (h : Spells part value) (hrange : value < 0 ∨ 15 < value) :
    Wrong part (.noSuchKey (String.ofList part))

variable {part core : List Char} {value : Int} {s : Spelling}

lemma plain_of_spelled (hcore : core.map commonDigit = s.text) {c : Char} (hc : c ∈ core) :
    isBlank c = false ∧ c ≠ ',' := by
  have hletter : commonDigit c ∈ letters := by
    apply mem_letters (s := s)
    rw [← hcore]
    exact List.mem_map_of_mem hc
  have hplain := plain_of_mem_letters hletter
  constructor
  · by_contra hblank
    rw [commonDigit_of_isBlank (by simpa using hblank)] at hplain
    exact hblank hplain.1
  · rintro rfl
    have hcomma : commonDigit ',' = ',' := by decide
    exact hplain.2.1 hcomma

lemma read?_eq_some_iff : read? 16 (trim isBlank part) = some value ↔ Spells part value := by
  constructor
  · intro h
    obtain ⟨s, htext, hvalue⟩ := signed?_eq_some_iff.1 h
    obtain ⟨front, back, hpart, hfront, hback⟩ := exists_trim isBlank part
    obtain ⟨front', back', hcore, hfront', hback'⟩ :=
      exists_trim (fun c => isBlank c && !isSeparator c) (trim isBlank part)
    rw [hcore] at hpart
    refine ⟨front ++ front', _, back' ++ back, s, by simpa using hpart, ?_, ?_, htext.symm, hvalue⟩
    · intro c hc
      rcases List.mem_append.1 hc with hc | hc
      · exact hfront c hc
      · exact (Bool.and_eq_true_iff.1 (hfront' c hc)).1
    · intro c hc
      rcases List.mem_append.1 hc with hc | hc
      · exact (Bool.and_eq_true_iff.1 (hback' c hc)).1
      · exact hback c hc
  · rintro ⟨front, core, back, s, rfl, hfront, hback, hcore, hvalue⟩
    have hplain : ∀ c ∈ core, isBlank c = false := fun c hc => (plain_of_spelled hcore hc).1
    have hnarrow : ∀ c ∈ core, (isBlank c && !isSeparator c) = false := by
      intro c hc
      rw [hplain c hc, Bool.false_and]
    have houter : trim isBlank (front ++ core ++ back) = core := trim_append hfront hback hplain
    have hinner : trim (fun c => isBlank c && !isSeparator c) ([] ++ core ++ []) = core :=
      trim_append (by simp) (by simp) hnarrow
    rw [List.nil_append, List.append_nil] at hinner
    rw [houter, read?, hinner, hcore]
    exact signed?_eq_some_iff.2 ⟨s, rfl, hvalue⟩

lemma ofInt?_eq_some_iff {key : Key} : Key.ofInt? value = some key ↔ value = (key.val : Int) := by
  have hkey := key.isLt
  rw [Key.ofInt?]
  split
  · rw [Option.some_inj, Fin.ext_iff]
    change value.toNat = key.val ↔ value = (key.val : Int)
    omega
  · simp only [reduceCtorEq, false_iff]
    omega

lemma ofInt?_eq_none_iff : Key.ofInt? value = none ↔ value < 0 ∨ 15 < value := by
  rw [Key.ofInt?]
  split
  · simp only [reduceCtorEq, false_iff]
    omega
  · simp only [true_iff]
    omega

theorem readPart_eq_ok_iff {key : Key} : readPart part = .ok key ↔ Spells part (key.val : Int) := by
  rw [← read?_eq_some_iff, readPart]
  cases hread : read? 16 (trim isBlank part) with
  | none => simp
  | some value =>
    rw [Option.some_inj, ← ofInt?_eq_some_iff]
    cases hkey : Key.ofInt? value <;> simp [hkey]

theorem readPart_eq_error_iff {mistake : Mistake} : readPart part = .error mistake ↔ Wrong part mistake := by
  constructor
  · intro h
    rw [readPart] at h
    cases hread : read? 16 (trim isBlank part) with
    | none =>
      simp only [hread, Except.error.injEq] at h
      subst h
      apply Wrong.unspelled
      intro value hspells
      rw [read?_eq_some_iff.2 hspells] at hread
      cases hread
    | some value =>
      have hspells := read?_eq_some_iff.1 hread
      cases hkey : Key.ofInt? value with
      | none =>
        simp only [hread, hkey, Except.error.injEq] at h
        subst h
        exact .outside hspells (ofInt?_eq_none_iff.1 hkey)
      | some key => simp [hread, hkey] at h
  · rintro (hnone | ⟨hspells, hrange⟩)
    · have hread : read? 16 (trim isBlank part) = none := by
        rw [Option.eq_none_iff_forall_ne_some]
        intro value hread
        exact hnone value (read?_eq_some_iff.1 hread)
      rw [readPart, hread]
    · rw [readPart, read?_eq_some_iff.2 hspells]
      simp only [ofInt?_eq_none_iff.2 hrange]

lemma readParts_of_error {mistake : Mistake} (hpart : readPart part = .error mistake) (rest : List (List Char)) :
    readParts (part :: rest) = .error mistake := by
  rw [readParts, hpart]
  rfl

lemma readParts_of_ok {key : Key} (hpart : readPart part = .ok key) (rest : List (List Char)) :
    readParts (part :: rest) = (readParts rest).map (key :: ·) := by
  rw [readParts, hpart]
  cases readParts rest <;> rfl

theorem readParts_eq_ok_iff {parts : List (List Char)} {keys : List Key} :
    readParts parts = .ok keys ↔ List.Forall₂ (fun part key => Spells part (key.val : Int)) parts keys := by
  constructor
  · intro h
    induction parts generalizing keys with
    | nil =>
      cases h
      exact .nil
    | cons part rest ih =>
      cases hpart : readPart part with
      | error mistake =>
        rw [readParts_of_error hpart] at h
        cases h
      | ok key =>
        rw [readParts_of_ok hpart] at h
        cases hrest : readParts rest with
        | error mistake =>
          rw [hrest] at h
          cases h
        | ok later =>
          rw [hrest] at h
          cases h
          exact .cons (readPart_eq_ok_iff.1 hpart) (ih hrest)
  · intro h
    induction h with
    | nil => rfl
    | cons hpart hrest ih =>
      rw [readParts_of_ok (readPart_eq_ok_iff.2 hpart), ih]
      rfl

/-- The first part that names no key decides what is wrong with the list. -/
theorem readParts_eq_error_iff {parts : List (List Char)} {mistake : Mistake} :
    readParts parts = .error mistake ↔ ∃ before part after, parts = before ++ part :: after ∧
      (∀ earlier ∈ before, ∃ key : Key, Spells earlier (key.val : Int)) ∧ Wrong part mistake := by
  constructor
  · intro h
    induction parts with
    | nil => cases h
    | cons first rest ih =>
      cases hfirst : readPart first with
      | error other =>
        rw [readParts_of_error hfirst] at h
        cases h
        exact ⟨[], first, rest, rfl, by simp, readPart_eq_error_iff.1 hfirst⟩
      | ok key =>
        have hrest : readParts rest = .error mistake := by
          rw [readParts_of_ok hfirst] at h
          cases hrest : readParts rest <;> rw [hrest] at h <;> cases h
          rfl
        obtain ⟨before, part, after, rfl, hbefore, hwrong⟩ := ih hrest
        refine ⟨first :: before, part, after, rfl, ?_, hwrong⟩
        rintro earlier (_ | ⟨_, hearlier⟩)
        · exact ⟨key, readPart_eq_ok_iff.1 hfirst⟩
        · exact hbefore earlier hearlier
  · rintro ⟨before, part, after, rfl, hbefore, hwrong⟩
    induction before with
    | nil => exact readParts_of_error (readPart_eq_error_iff.2 hwrong) after
    | cons earlier before ih =>
      obtain ⟨key, hkey⟩ := hbefore earlier List.mem_cons_self
      have hrest := ih fun p hp => hbefore p (List.mem_cons_of_mem _ hp)
      rw [List.cons_append, readParts_of_ok (readPart_eq_ok_iff.2 hkey), hrest]
      rfl

lemma not_spells_nil : ¬Spells [] value := by
  have hnone : read? 16 (trim isBlank []) = none := by decide
  rw [← read?_eq_some_iff, hnone]
  simp

lemma comma_not_mem (hspells : Spells part value) : ',' ∉ part := by
  obtain ⟨front, core, back, s, rfl, hfront, hback, hcore, -⟩ := hspells
  have hcomma : ¬isBlank ',' := by decide
  intro hmem
  simp only [List.mem_append] at hmem
  rcases hmem with (hmem | hmem) | hmem
  · exact hcomma (hfront _ hmem)
  · exact (plain_of_spelled hcore hmem).2 rfl
  · exact hcomma (hback _ hmem)

lemma read_of_ne {text : String} (hsome : text ≠ "") : read text = readParts (text.toList.splitOn ',') := by
  rw [read, if_neg hsome]

/-- Parts that spell keys are read back when they are written one after another with commas between them. -/
lemma read_intercalate {parts : List (List Char)} {keys : List Key} (hsome : parts ≠ [])
    (hparts : List.Forall₂ (fun part key => Spells part (key.val : Int)) parts keys) :
    read (String.ofList ([','].intercalate parts)) = .ok keys := by
  have hfree : ∀ part ∈ parts, ',' ∉ part := by
    clear hsome
    induction hparts with
    | nil => simp
    | cons hpart _ ih => simpa using ⟨comma_not_mem hpart, ih⟩
  have hsplit : ([','].intercalate parts).splitOn ',' = parts := List.splitOn_intercalate ',' hfree hsome
  have htext : String.ofList ([','].intercalate parts) ≠ "" := by
    intro hempty
    have hnil : [','].intercalate parts = [] := by simpa using congrArg String.toList hempty
    rw [hnil] at hsplit
    -- the empty text is one part, which spells nothing
    rw [← hsplit] at hparts
    cases hparts with
    | cons hpart _ => exact not_spells_nil hpart
  rw [read_of_ne htext, String.toList_ofList, hsplit]
  exact readParts_eq_ok_iff.2 hparts

/-- A way of writing a key: between blanks, with the mark of base sixteen or without, with some zeros in front. -/
structure Writing where
  front : List Char
  mark : Option Mark
  zeros : Nat
  capital : Bool
  back : List Char
  blank : ∀ c ∈ front ++ back, isBlank c

def Writing.text (w : Writing) (key : Key) : List Char :=
  w.front ++ ((w.mark.map Mark.text).getD [] ++ List.replicate w.zeros '0' ++ [Digit.char ⟨key, w.capital⟩]) ++ w.back

/-- A digit behind zeros. -/
def padded (d : Digit) : Nat → Row
  | 0 => .last d
  | zeros + 1 => .followed ⟨0, true⟩ false (padded d zeros)

lemma text_padded (d : Digit) (zeros : Nat) : (padded d zeros).text = List.replicate zeros '0' ++ [d.char] := by
  induction zeros with
  | zero => rfl
  | succ zeros ih =>
    change '0' :: (padded d zeros).text = _
    rw [ih, List.replicate_succ, List.cons_append]

lemma value_padded (d : Digit) (zeros : Nat) : (padded d zeros).value = d.value.val := by
  rw [Row.value_eq_foldl]
  induction zeros with
  | zero =>
    change 0 * 16 + d.value.val = d.value.val
    omega
  | succ zeros ih =>
    have hdigits : (padded d (zeros + 1)).digits = 0 :: (padded d zeros).digits := rfl
    rw [hdigits, List.foldl_cons]
    exact ih

lemma spells_text (w : Writing) (key : Key) : Spells (w.text key) (key.val : Int) := by
  have hs : ((w.mark.map Mark.text).getD [] ++ List.replicate w.zeros '0' ++ [Digit.char ⟨key, w.capital⟩]) =
      (Spelling.mk none w.mark (padded ⟨key, w.capital⟩ w.zeros)).text := by
    simp [Spelling.text, text_padded]
  refine ⟨w.front, _, w.back, ⟨none, w.mark, padded ⟨key, w.capital⟩ w.zeros⟩, rfl, ?_, ?_, ?_, ?_⟩
  · exact fun c hc => w.blank c (List.mem_append_left _ hc)
  · exact fun c hc => w.blank c (List.mem_append_right _ hc)
  · rw [hs]
    conv_rhs => rw [← List.map_id (Spelling.text _)]
    exact List.map_congr_left fun c hc => (plain_of_mem_letters (mem_letters hc)).2.2
  · simp [Spelling.value, value_padded]

/-- A text lists keys exactly if each of its parts spells one, and otherwise its first part that does not decides what
is wrong. -/
theorem key_list_read (text : String) :
    (text = "" → read text = .ok []) ∧
    (text ≠ "" →
      (∀ keys, read text = .ok keys ↔
        List.Forall₂ (fun part key => Spells part (key.val : Int)) (text.toList.splitOn ',') keys) ∧
      ∀ mistake, read text = .error mistake ↔
        ∃ before part after, text.toList.splitOn ',' = before ++ part :: after ∧
          (∀ earlier ∈ before, ∃ key : Key, Spells earlier (key.val : Int)) ∧ Wrong part mistake) ∧
    ∀ written : List (Writing × Key), written ≠ [] →
      read (String.ofList ([','].intercalate (written.map fun w => w.1.text w.2))) = .ok (written.map Prod.snd) := by
  refine ⟨?_, ?_, ?_⟩
  · rintro rfl
    rfl
  · intro hsome
    rw [read_of_ne hsome]
    exact ⟨fun keys => readParts_eq_ok_iff, fun mistake => readParts_eq_error_iff⟩
  · intro written hsome
    apply read_intercalate
    · simpa using hsome
    · rw [List.forall₂_map_left_iff, List.forall₂_map_right_iff, List.forall₂_same]
      exact fun w _ => spells_text w.1 w.2

/-- The second of three parts is a numeral for no key, and nobody looks at the third. Two keys are read back. -/
theorem key_list_read_past_the_last_key :
    " 5,0b1,zz" ≠ "" ∧ read " 5,0b1,zz" = .error (.noSuchKey "0b1") ∧ read " 0X_00a\t,F" = .ok [10, 15] := by
  have hsome : " 5,0b1,zz" ≠ "" := by decide
  have hfirst : Spells " 5".toList ((5 : Key).val : Int) := read?_eq_some_iff.1 (by decide)
  have hsecond : Spells "0b1".toList 177 := read?_eq_some_iff.1 (by decide)
  have hwrong : Wrong "0b1".toList (.noSuchKey "0b1") := .outside hsecond (.inr (by decide))
  have hblank : ∀ c ∈ [' '] ++ ['\t'], isBlank c := List.all_eq_true.1 (by decide)
  let written : List (Writing × Key) :=
    [(⟨[' '], some ⟨true, true⟩, 2, false, ['\t'], hblank⟩, 10), (⟨[], none, 0, true, [], by simp⟩, 15)]
  refine ⟨hsome, ?_, (key_list_read "").2.2 written (by simp [written])⟩
  apply (((key_list_read " 5,0b1,zz").2.1 hsome).2 _).2
  exact ⟨[" 5".toList], _, ["zz".toList], by decide, by simpa using ⟨5, hfirst⟩, hwrong⟩

end KeyList

end Chip8
