import Chip8.Proofs.Numerals
import Mathlib.Data.Nat.Digits.Defs

/-!
# How numerals are spelled

A numeral in base sixteen is a sign, a mark and a row of digits, of which only the row is needed. Main statement: the
reader of numerals accepts exactly what can be spelled so, and reads it as what the row stands for
(`signed?_eq_some_iff`).
-/

namespace Chip8.Text.Numeral

inductive Sign where
  | plus
  | minus
  deriving DecidableEq

/-- The mark of base sixteen, with an underscore behind it or without. -/
structure Mark where
  capital : Bool
  underscore : Bool

structure Digit where
  value : Fin 16
  capital : Bool

/-- One or more digits, with an underscore or none between each of them and the next. -/
inductive Row where
  | last (d : Digit)
  | followed (d : Digit) (underscore : Bool) (rest : Row)

/-- A numeral in base sixteen. -/
structure Spelling where
  sign : Option Sign
  mark : Option Mark
  row : Row

def Sign.char : Sign → Char
  | .plus => '+'
  | .minus => '-'

def Mark.text (m : Mark) : List Char :=
  '0' :: (if m.capital then 'X' else 'x') :: (if m.underscore then ['_'] else [])

def Digit.char (d : Digit) : Char :=
  if d.capital then Hex.digit d.value.val else (Hex.digit d.value.val).toLower

namespace Row

def text : Row → List Char
  | last d => [d.char]
  | followed d underscore rest => d.char :: (if underscore then '_' :: rest.text else rest.text)

def digits : Row → List Nat
  | last d => [d.value.val]
  | followed d _ rest => d.value.val :: rest.digits

/-- What the digits stand for, the last one as the lowest. -/
def value (r : Row) : Nat := Nat.ofDigits 16 r.digits.reverse

end Row

namespace Spelling

def text (s : Spelling) : List Char :=
  (s.sign.map Sign.char).toList ++ (s.mark.map Mark.text).getD [] ++ s.row.text

def value (s : Spelling) : Int :=
  if s.sign = some .minus then -(s.row.value : Int) else s.row.value

end Spelling

section Rows

variable (value n : Nat) {c : Char} {text : List Char}

lemma digitValue_char (d : Digit) : digitValue d.char = d.value.val := by
  have hall : ∀ (value : Fin 16) (capital : Bool), digitValue (Digit.char ⟨value, capital⟩) = value.val := by decide
  exact hall d.value d.capital

lemma digitValue_char_lt (d : Digit) : digitValue d.char < 16 := by
  rw [digitValue_char]
  exact d.value.isLt

/-- The characters that count as digits are the ones that digits are written with. -/
lemma exists_digit (hc : digitValue c < 16) : ∃ d : Digit, d.char = c := by
  have hcode : ∀ n : Fin 103, 48 ≤ n.val ∧ n.val ≤ 57 ∨ 65 ≤ n.val ∧ n.val ≤ 70 ∨ 97 ≤ n.val →
      ∃ (value : Fin 16) (capital : Bool), Digit.char ⟨value, capital⟩ = Char.ofNat n.val := by decide
  have hrange : c.toNat < 103 ∧ (48 ≤ c.toNat ∧ c.toNat ≤ 57 ∨ 65 ≤ c.toNat ∧ c.toNat ≤ 70 ∨ 97 ≤ c.toNat) := by
    have hle (a b : Char) : a ≤ b ↔ a.toNat ≤ b.toNat := Iff.rfl
    simp only [digitValue, hle, Char.reduceToNat] at hc
    split_ifs at hc <;> omega
  obtain ⟨value, capital, hchar⟩ := hcode ⟨c.toNat, hrange.1⟩ hrange.2
  exact ⟨⟨value, capital⟩, hchar.trans (Char.ofNat_toNat c)⟩

lemma digits?_single {base : Nat} (hc : digitValue c < base) :
    digits? base value [c] = some (value * base + digitValue c) := by
  rw [digits?]
  simp [hc]

lemma digits?_underscore {base : Nat} (hc : digitValue c < base) :
    digits? base value (c :: '_' :: text) = digits? base (value * base + digitValue c) text := by
  rw [digits?]
  simp [hc]

lemma digits?_next {base : Nat} (hc : digitValue c < base) {next : Char} (hnext : next ≠ '_') :
    digits? base value (c :: next :: text) = digits? base (value * base + digitValue c) (next :: text) := by
  rw [digits?]
  simp [hc, hnext]

lemma char_ne_underscore (d : Digit) : d.char ≠ '_' := by
  intro heq
  have hvalue := digitValue_char_lt d
  rw [heq] at hvalue
  revert hvalue
  decide

lemma Row.text_eq_cons (r : Row) : ∃ (d : Digit) (rest : List Char), r.text = d.char :: rest := by
  cases r with
  | last d => exact ⟨d, [], rfl⟩
  | followed d underscore rest => exact ⟨d, _, rfl⟩

lemma Row.mem_text {r : Row} (hc : c ∈ r.text) : c = '_' ∨ ∃ d : Digit, c = d.char := by
  induction r with
  | last d => exact .inr ⟨d, by simpa [Row.text] using hc⟩
  | followed d underscore rest ih =>
    have hcases : c = d.char ∨ c = '_' ∨ c ∈ rest.text := by
      cases underscore <;> simp [Row.text] at hc <;> tauto
    rcases hcases with rfl | rfl | hrest
    · exact .inr ⟨d, rfl⟩
    · exact .inl rfl
    · exact ih hrest

lemma Row.value_eq_foldl (r : Row) : r.value = r.digits.foldl (fun value digit => value * 16 + digit) 0 := by
  rw [Row.value, Nat.ofDigits_eq_foldr, List.foldr_reverse]
  congr 1
  funext value digit
  simp
  ring

lemma digits?_text (r : Row) :
    digits? 16 value r.text = some (r.digits.foldl (fun value digit => value * 16 + digit) value) := by
  induction r generalizing value with
  | last d => simp [Row.text, Row.digits, digits?_single value (digitValue_char_lt d), digitValue_char]
  | followed d underscore rest ih =>
    have hd := digitValue_char_lt d
    cases underscore with
    | true => simp [Row.text, Row.digits, digits?_underscore value hd, digitValue_char, ih]
    | false =>
      obtain ⟨next, later, hnext⟩ := rest.text_eq_cons
      rw [hnext] at ih
      simp [Row.text, Row.digits, hnext, digits?_next value hd (char_ne_underscore next), digitValue_char, ih]

lemma exists_row (h : digits? 16 value text = some n) : ∃ r : Row, r.text = text := by
  fun_induction digits? 16 value text with
  | case1 => cases h
  | case2 value c hc =>
    obtain ⟨d, rfl⟩ := exists_digit hc
    exact ⟨.last d, rfl⟩
  | case3 value c hc _ rest ih =>
    obtain ⟨d, rfl⟩ := exists_digit hc
    obtain ⟨r, rfl⟩ := ih h
    exact ⟨.followed d true r, rfl⟩
  | case4 value c hc _ rest _ _ ih =>
    obtain ⟨d, rfl⟩ := exists_digit hc
    obtain ⟨r, rfl⟩ := ih h
    exact ⟨.followed d false r, rfl⟩
  | case5 => cases h

theorem digits?_eq_some_iff : digits? 16 0 text = some n ↔ ∃ r : Row, r.text = text ∧ r.value = n := by
  constructor
  · intro h
    obtain ⟨r, rfl⟩ := exists_row 0 n h
    rw [digits?_text, Option.some_inj, ← r.value_eq_foldl] at h
    exact ⟨r, rfl, h⟩
  · rintro ⟨r, rfl, rfl⟩
    rw [digits?_text, r.value_eq_foldl]

end Rows

section Marks

variable {text : List Char}

lemma unmarked_of_no_mark (hsmall : ∀ rest, text ≠ '0' :: 'x' :: rest) (hcapital : ∀ rest, text ≠ '0' :: 'X' :: rest) :
    unmarked text = text := by
  unfold unmarked
  split <;> simp_all

/-- Behind its mark, or without one, a row of digits stands as it is. -/
lemma unmarked_mark (mark : Option Mark) (r : Row) : unmarked ((mark.map Mark.text).getD [] ++ r.text) = r.text := by
  cases mark with
  | none =>
    have hplain {c : Char} (hc : c ∈ r.text) : c ≠ 'x' ∧ c ≠ 'X' := by
      rcases Row.mem_text hc with rfl | ⟨d, rfl⟩
      · decide
      · have hvalue := digitValue_char_lt d
        constructor <;> intro heq <;> rw [heq] at hvalue <;> revert hvalue <;> decide
    change unmarked r.text = r.text
    apply unmarked_of_no_mark
    · intro rest heq
      exact (hplain (c := 'x') (by simp [heq])).1 rfl
    · intro rest heq
      exact (hplain (c := 'X') (by simp [heq])).2 rfl
  | some mark =>
    obtain ⟨capital, underscore⟩ := mark
    obtain ⟨next, later, hnext⟩ := r.text_eq_cons
    have hunderscore := char_ne_underscore next
    cases underscore with
    | true => cases capital <;> rfl
    | false => cases capital <;> simp [Mark.text, unmarked, hnext, hunderscore]

lemma exists_mark (text : List Char) : ∃ mark : Option Mark, (mark.map Mark.text).getD [] ++ unmarked text = text := by
  unfold unmarked
  split
  · exact ⟨some ⟨false, true⟩, rfl⟩
  · exact ⟨some ⟨true, true⟩, rfl⟩
  · exact ⟨some ⟨false, false⟩, rfl⟩
  · exact ⟨some ⟨true, false⟩, rfl⟩
  · exact ⟨none, rfl⟩

lemma magnitude?_eq_some_iff {n : Nat} : magnitude? 16 text = some n ↔
    ∃ (mark : Option Mark) (r : Row), (mark.map Mark.text).getD [] ++ r.text = text ∧ r.value = n := by
  have hmagnitude : magnitude? 16 text = digits? 16 0 (unmarked text) := rfl
  rw [hmagnitude, digits?_eq_some_iff]
  constructor
  · rintro ⟨r, htext, hvalue⟩
    obtain ⟨mark, hmark⟩ := exists_mark text
    exact ⟨mark, r, by rw [htext, hmark], hvalue⟩
  · rintro ⟨mark, r, rfl, hvalue⟩
    exact ⟨r, (unmarked_mark mark r).symm, hvalue⟩

lemma signed?_sign (sign : Option Sign) {body : List Char}
    (hbody : sign = none → body.head? ≠ some '-' ∧ body.head? ≠ some '+') :
    signed? 16 ((sign.map Sign.char).toList ++ body) =
      (magnitude? 16 body).map fun n : Nat => if sign = some .minus then -(n : Int) else (n : Int) := by
  cases hmagnitude : magnitude? 16 body with
  | none =>
    cases sign with
    | some sign => cases sign <;> simp [Sign.char, signed?, hmagnitude]
    | none =>
      unfold signed?
      split <;> simp_all
  | some n =>
    cases sign with
    | some sign => cases sign <;> simp [Sign.char, signed?, hmagnitude]
    | none =>
      unfold signed?
      split <;> simp_all

lemma exists_sign (text : List Char) : ∃ (sign : Option Sign) (body : List Char),
    (sign.map Sign.char).toList ++ body = text ∧ (sign = none → body.head? ≠ some '-' ∧ body.head? ≠ some '+') := by
  by_cases hminus : text.head? = some '-'
  · obtain ⟨body, rfl⟩ := List.head?_eq_some_iff.1 hminus
    exact ⟨some .minus, body, rfl, by simp⟩
  by_cases hplus : text.head? = some '+'
  · obtain ⟨body, rfl⟩ := List.head?_eq_some_iff.1 hplus
    exact ⟨some .plus, body, rfl, by simp⟩
  exact ⟨none, text, rfl, fun _ => ⟨hminus, hplus⟩⟩

lemma head?_mark_row (mark : Option Mark) (r : Row) :
    ∃ d : Digit, ((mark.map Mark.text).getD [] ++ r.text).head? = some d.char := by
  cases mark with
  | some mark => exact ⟨⟨0, true⟩, rfl⟩
  | none =>
    obtain ⟨d, rest, hrow⟩ := r.text_eq_cons
    exact ⟨d, by simp [hrow]⟩

/-- The numerals in base sixteen are what can be spelled, and they are read as what they stand for. -/
theorem signed?_eq_some_iff {value : Int} :
    signed? 16 text = some value ↔ ∃ s : Spelling, s.text = text ∧ s.value = value := by
  constructor
  · intro h
    obtain ⟨sign, body, rfl, hbody⟩ := exists_sign text
    rw [signed?_sign sign hbody] at h
    obtain ⟨n, hn, hvalue⟩ := Option.map_eq_some_iff.1 h
    obtain ⟨mark, r, rfl, rfl⟩ := magnitude?_eq_some_iff.1 hn
    exact ⟨⟨sign, mark, r⟩, by rw [Spelling.text, List.append_assoc], hvalue⟩
  · rintro ⟨⟨sign, mark, r⟩, rfl, rfl⟩
    obtain ⟨d, hhead⟩ := head?_mark_row mark r
    have hdigit := digitValue_char_lt d
    have hunsigned (c : Char) (hc : ¬digitValue c < 16) : ((mark.map Mark.text).getD [] ++ r.text).head? ≠ some c := by
      rw [hhead, Ne, Option.some_inj]
      rintro rfl
      exact hc hdigit
    have hbody : sign = none → _ ∧ _ := fun _ => ⟨hunsigned '-' (by decide), hunsigned '+' (by decide)⟩
    rw [Spelling.text, List.append_assoc, signed?_sign sign hbody, magnitude?_eq_some_iff.2 ⟨mark, r, rfl, rfl⟩]
    rfl

end Marks

end Chip8.Text.Numeral
