import Chip8.Instruction.Assembly
import Chip8.Proofs.Numerals
import Chip8.Proofs.Patterns

/-!
# Reading assembly text

Assembly text is read back: an operand from its characters, an instruction from its operation and operands. Only the
second register of a shift is lost. A word with a name other than that of unknown words fits a documented pattern, which
its mnemonic names, and consists of the pattern and of those operands that the pattern has places for. An integer is
read as an instruction through its last sixteen bits. Main statement: `assembly_identifies_word`.
-/

namespace Chip8

open Text.Numeral (digitValue digits?)

namespace Operand

/-- The operand that a text stands for. -/
def read? : List Char → Option Operand
  | ['I'] => some .index
  | ['[', 'I', ']'] => some .atIndex
  | ['D', 'T'] => some .delay
  | ['S', 'T'] => some .sound
  | ['K'] => some .key
  | ['F'] => some .glyph
  | ['B'] => some .digits
  | ['V', x] => (digits? 16 0 [x]).map fun value => .register (Fin.ofNat 16 value)
  | ['0', 'x', high, low] => (digits? 16 0 [high, low]).map fun value => .constant (Fin.ofNat 256 value)
  | '0' :: 'x' :: target => (digits? 16 0 target).map fun value => .address (Fin.ofNat 4096 value)
  | decimal => (digits? 10 0 decimal).map fun value => .height (Fin.ofNat 16 value)

lemma ofNat_mod {n : Nat} [NeZero n] (k : Fin n) : Fin.ofNat n (k.val % n) = k := by
  apply Fin.ext
  rw [Fin.val_ofNat, Nat.mod_mod, Nat.mod_eq_of_lt k.isLt]

lemma read?_text (o : Operand) : read? o.text = some o := by
  cases o with
  | register x =>
    change (digits? 16 0 (Hex.fixed 1 x)).map _ = _
    rw [Hex.digits?_fixed, Option.map_some]
    exact congrArg (some ∘ Operand.register) (ofNat_mod x)
  | constant kk =>
    change (digits? 16 0 (Hex.fixed 2 kk)).map _ = _
    rw [Hex.digits?_fixed, Option.map_some]
    exact congrArg (some ∘ Operand.constant) (ofNat_mod kk)
  | address target =>
    change (digits? 16 0 (Hex.fixed 3 target)).map _ = _
    rw [Hex.digits?_fixed, Option.map_some]
    exact congrArg (some ∘ Operand.address) (ofNat_mod target)
  | height n =>
    revert n
    decide
  | _ => rfl

lemma text_injective : Function.Injective Operand.text := by
  intro o p h
  have hread : read? o.text = read? p.text := by rw [h]
  rw [read?_text, read?_text] at hread
  exact Option.some.inj hread

lemma separator_not_mem_fixed {c : Char} (hc : c = ' ' ∨ c = ',') (width n : Nat) : c ∉ Hex.fixed width n := by
  intro hmem
  have hdigit := Hex.digitValue_lt_of_mem_fixed hmem
  rcases hc with rfl | rfl
  · exact absurd hdigit (by decide)
  · exact absurd hdigit (by decide)

lemma separator_not_mem_text {c : Char} (hc : c = ' ' ∨ c = ',') (o : Operand) : c ∉ o.text := by
  have hmark (mark : Char) (hmark : mark ≠ ' ' ∧ mark ≠ ',') {rest : List Char} (hrest : c ∉ rest) :
      c ∉ mark :: rest := by
    rw [List.mem_cons, not_or]
    refine ⟨?_, hrest⟩
    rcases hc with rfl | rfl
    · exact hmark.1.symm
    · exact hmark.2.symm
  have hfixed := separator_not_mem_fixed hc
  cases o with
  | register x => exact hmark 'V' (by decide) (hfixed 1 x)
  | constant kk => exact hmark '0' (by decide) (hmark 'x' (by decide) (hfixed 2 kk))
  | address target => exact hmark '0' (by decide) (hmark 'x' (by decide) (hfixed 3 target))
  | height n =>
    rcases hc with rfl | rfl
    · revert n
      decide
    · revert n
      decide
  | _ =>
    rcases hc with rfl | rfl
    · decide
    · decide

end Operand

namespace Assembly

/-- What stands behind the operation. -/
def tail : List Operand → List Char
  | [] => []
  | operands => ' ' :: List.intercalate [',', ' '] (operands.map Operand.text)

lemma toList_text (a : Assembly) : a.text.toList = a.operation.toList ++ tail a.operands := by
  obtain ⟨operation, operands⟩ := a
  cases operands with
  | nil => exact (List.append_nil _).symm
  | cons o rest =>
    change (operation ++ " " ++ String.ofList _).toList = _
    simp only [String.toList_append, String.toList_ofList, List.append_assoc]
    rfl

lemma filter_text (o : Operand) : o.text.filter (· ≠ ' ') = o.text := by
  apply List.filter_eq_self.2
  intro c hc
  have hne : c ≠ ' ' := fun h => o.separator_not_mem_text (.inl rfl) (h ▸ hc)
  exact decide_eq_true hne

/-- Without its blanks a list of operands is parted by commas alone. -/
lemma filter_intercalate (operands : List Operand) :
    (List.intercalate [',', ' '] (operands.map Operand.text)).filter (· ≠ ' ') =
      List.intercalate [','] (operands.map Operand.text) := by
  induction operands with
  | nil => rfl
  | cons o rest ih =>
    cases rest with
    | nil => simpa [List.intercalate] using filter_text o
    | cons p rest =>
      simp only [List.map_cons] at ih ⊢
      rw [List.intercalate_cons_cons, List.intercalate_cons_cons, List.filter_append, List.filter_append, filter_text,
        ih]
      rfl

/-- The operands behind an operation are read by dropping the blanks and parting at the commas. -/
lemma splitOn_tail {operands : List Operand} (hsome : operands ≠ []) :
    ((tail operands).filter (· ≠ ' ')).splitOn ',' = operands.map Operand.text := by
  have hcomma : ∀ text ∈ operands.map Operand.text, ',' ∉ text := by
    intro text htext
    obtain ⟨o, -, rfl⟩ := List.mem_map.1 htext
    exact o.separator_not_mem_text (.inr rfl)
  cases operands with
  | nil => exact absurd rfl hsome
  | cons o rest =>
    have hblank : (tail (o :: rest)).filter (· ≠ ' ') = _ := filter_intercalate (o :: rest)
    rw [hblank]
    -- no operand has a comma of its own
    exact List.splitOn_intercalate ',' hcomma (by simp)

lemma tail_injective : Function.Injective tail := by
  intro operands operands' h
  cases operands with
  | nil =>
    cases operands' with
    | nil => rfl
    | cons p rest => cases h
  | cons o rest =>
    cases operands' with
    | nil => cases h
    | cons p rest' =>
      apply List.map_injective_iff.2 Operand.text_injective
      rw [← splitOn_tail (List.cons_ne_nil o rest), h, splitOn_tail (List.cons_ne_nil p rest')]

lemma span_text {a : Assembly} (ha : ' ' ∉ a.operation.toList) :
    a.text.toList.takeWhile (· ≠ ' ') = a.operation.toList ∧ a.text.toList.dropWhile (· ≠ ' ') = tail a.operands := by
  have hletters : ∀ c ∈ a.operation.toList, decide (c ≠ ' ') = true :=
    fun c hc => decide_eq_true fun h => ha (h ▸ hc)
  have htail : (tail a.operands).takeWhile (· ≠ ' ') = [] ∧
      (tail a.operands).dropWhile (· ≠ ' ') = tail a.operands := by
    cases a.operands with
    | nil => exact ⟨rfl, rfl⟩
    | cons o rest => exact ⟨rfl, rfl⟩
  rw [toList_text, List.takeWhile_append_of_pos hletters, List.dropWhile_append_of_pos hletters, htail.1, htail.2,
    List.append_nil]
  exact ⟨rfl, rfl⟩

/-- An operation and its operands can be told from their text if the operation has no blank in it. -/
lemma eq_of_text_eq {a b : Assembly} (ha : ' ' ∉ a.operation.toList) (hb : ' ' ∉ b.operation.toList)
    (h : a.text = b.text) : a = b := by
  have hfirst := span_text ha
  have hsecond := span_text hb
  rw [h] at hfirst
  have hoperation : a.operation = b.operation := String.toList_inj.1 (hfirst.1.symm.trans hsecond.1)
  have hoperands : a.operands = b.operands := tail_injective (hfirst.2.symm.trans hsecond.2)
  cases a
  cases b
  simp_all

def operations : List String :=
  ["CLS", "RET", "JP", "CALL", "SE", "SNE", "SKP", "SKNP", "LD", "ADD", "OR", "AND", "XOR", "SUB", "SHR", "SUBN",
    "SHL", "RND", "DRW"]

lemma operation_mem_operations (i : Instruction) : (ofInstruction i).operation ∈ operations := by
  cases i with
  | skip condition => cases condition <;> simp [ofInstruction, ofCondition, operations]
  | combine how x y => cases how <;> simp [ofInstruction, ofCombination, operations]
  | _ => simp [ofInstruction, operations]

lemma operation_plain (i : Instruction) :
    ' ' ∉ (ofInstruction i).operation.toList ∧ (ofInstruction i).operation.toList ≠ ".word".toList := by
  have hall : ∀ operation ∈ operations, ' ' ∉ operation.toList ∧ operation.toList ≠ ".word".toList := by decide
  exact hall _ (operation_mem_operations i)

/-- The instruction that an operation and its operands stand for. Nothing is said of the second register of a shift; it
is taken to be the first one again. -/
def instruction? (a : Assembly) : Option Instruction :=
  match a.operands with
  | [] => [("CLS", Instruction.clearScreen), ("RET", .returnFromCall)].lookup a.operation
  | [.address target] => [("JP", Instruction.jump target), ("CALL", .call target)].lookup a.operation
  | [.register x] =>
    [("SKP", Instruction.skip (.keyDown x)), ("SKNP", .skip (.keyUp x)), ("SHR", .combine .shiftRight x x),
      ("SHL", .combine .shiftLeft x x)].lookup a.operation
  | [.register x, .constant kk] =>
    [("SE", Instruction.skip (.equalsConstant x kk)), ("SNE", .skip (.differsFromConstant x kk)),
      ("LD", .setConstant x kk), ("ADD", .addConstant x kk), ("RND", .random x kk)].lookup a.operation
  | [.register x, .register y] =>
    [("SE", Instruction.skip (.equalsRegister x y)), ("SNE", .skip (.differsFromRegister x y)),
      ("LD", .combine .copy x y), ("OR", .combine .bitOr x y), ("AND", .combine .bitAnd x y),
      ("XOR", .combine .bitXor x y), ("ADD", .combine .add x y), ("SUB", .combine .subtract x y),
      ("SUBN", .combine .subtractFrom x y)].lookup a.operation
  | [.register _, .address base] => some (.jumpFromFirst base)
  | [.register x, .register y, .height height] => some (.draw x y height)
  | [.index, .address target] => some (.setIndex target)
  | [.index, .register x] => some (.addIndex x)
  | [.register x, .delay] => some (.readDelay x)
  | [.register x, .key] => some (.awaitKey x)
  | [.register x, .atIndex] => some (.loadRegisters x)
  | [.delay, .register x] => some (.setDelay x)
  | [.sound, .register x] => some (.setSound x)
  | [.glyph, .register x] => some (.pointAtGlyph x)
  | [.digits, .register x] => some (.storeDigits x)
  | [.atIndex, .register x] => some (.storeRegisters x)
  | _ => none

end Assembly

def Combination.isShift : Combination → Bool
  | .shiftRight | .shiftLeft => true
  | _ => false

/-- An instruction as far as its assembly text tells it. -/
def Instruction.shown : Instruction → Instruction
  | .combine how x y => .combine how x (if how.isShift then x else y)
  | i => i

/-- Every instruction is read back from its assembly, but for the second register of a shift. -/
lemma Assembly.instruction?_ofInstruction (i : Instruction) : (ofInstruction i).instruction? = some i.shown := by
  cases i with
  | skip condition => cases condition <;> rfl
  | combine how x y => cases how <;> rfl
  | _ => rfl

namespace Instruction

lemma shown_cases (i : Instruction) :
    i.shown = i ∨ ∃ how x y, how.isShift = true ∧ i = .combine how x y ∧ i.shown = .combine how x x := by
  cases i with
  | combine how x y =>
    cases hshift : how.isShift with
    | false =>
      left
      rw [shown, hshift]
      rfl
    | true =>
      right
      refine ⟨how, x, y, hshift, rfl, ?_⟩
      rw [shown, hshift]
      rfl
  | _ => exact .inl rfl

/-- Two instructions are shifts of one kind and of one first register. -/
def SameShift (i j : Instruction) : Prop :=
  ∃ how x y z, how.isShift = true ∧ i = .combine how x y ∧ j = .combine how x z

lemma shown_eq_iff {i j : Instruction} : i.shown = j.shown ↔ i = j ∨ SameShift i j := by
  constructor
  · intro h
    rcases i.shown_cases with hi | ⟨how, x, y, hshift, rfl, hi⟩
    · rcases j.shown_cases with hj | ⟨how, x, y, hshift, rfl, hj⟩
      · exact .inl (hi.symm.trans (h.trans hj))
      · exact .inr ⟨how, x, x, y, hshift, hi.symm.trans (h.trans hj), rfl⟩
    · rcases j.shown_cases with hj | ⟨how', x', y', hshift', rfl, hj⟩
      · exact .inr ⟨how, x, y, x, hshift, rfl, hj.symm.trans (h.symm.trans hi)⟩
      · have hsame : Instruction.combine how x x = .combine how' x' x' := hi.symm.trans (h.trans hj)
        cases hsame
        exact .inr ⟨how, x, y, y', hshift, rfl, rfl⟩
  · rintro (rfl | ⟨how, x, y, z, hshift, rfl, rfl⟩)
    · rfl
    · simp only [shown, hshift, if_true]

lemma text_eq_iff {i j : Instruction} :
    (Assembly.ofInstruction i).text = (Assembly.ofInstruction j).text ↔ i = j ∨ SameShift i j := by
  rw [← shown_eq_iff]
  constructor
  · intro h
    have hsame := Assembly.eq_of_text_eq (Assembly.operation_plain i).1 (Assembly.operation_plain j).1 h
    have hread := Assembly.instruction?_ofInstruction i
    rw [hsame, Assembly.instruction?_ofInstruction j] at hread
    exact (Option.some.inj hread).symm
  · intro h
    have hshown (k : Instruction) : Assembly.ofInstruction k.shown = Assembly.ofInstruction k := by
      cases k with
      | combine how x y => cases how <;> rfl
      | _ => rfl
    rw [← hshown i, h, hshown j]

lemma mnemonic_shift_iff {i : Instruction} :
    i.mnemonic ∈ ["SHR", "SHL"] ↔ ∃ how x y, how.isShift = true ∧ i = .combine how x y := by
  constructor
  · intro h
    cases i with
    | skip condition => cases condition <;> simp [mnemonic] at h
    | combine how x y => cases how <;> simp_all [mnemonic, Combination.isShift]
    | _ => simp [mnemonic] at h
  · rintro ⟨how, x, y, hshift, rfl⟩
    cases how <;> simp_all [mnemonic, Combination.isShift]

end Instruction

/-- Operands of a word, some of which may be missing. -/
structure Operands where
  x : Option Register
  y : Option Register
  n : Option (Fin 16)
  kk : Option Constant
  nnn : Option Address

/-- The operands of a word that a layout has places for. -/
def Layout.operands (w : Word) : Layout → Operands
  | .nnn => ⟨none, none, none, none, some w.nnn⟩
  | .xkk => ⟨some w.x, none, none, some w.kk, none⟩
  | .xyn => ⟨some w.x, some w.y, some w.n, none, none⟩
  | .xy _ => ⟨some w.x, some w.y, none, none, none⟩
  | .x _ => ⟨some w.x, none, none, none, none⟩
  | .given _ => ⟨none, none, none, none, none⟩

namespace Pattern

/-- The mnemonics of the documented patterns, in their order. -/
def mnemonics : List String :=
  ["CLS", "RET", "JP", "CALL", "SE", "SNE", "SE_REG", "LD", "ADD", "LD_REG", "OR", "AND", "XOR", "ADD_REG", "SUB",
    "SHR", "SUBN", "SHL", "SNE_REG", "LD_I", "JP_V0", "RND", "DRW", "SKP", "SKNP", "LD_VX_DT", "LD_VX_K", "LD_DT",
    "LD_ST", "ADD_I", "LD_F", "LD_B", "LD_MEM", "LD_REGS"]

def ofMnemonic? (mnemonic : String) : Option Pattern :=
  (mnemonics.zip documented).lookup mnemonic

/-- The word of a pattern with given operands, if none is missing. -/
def word? (p : Pattern) (operands : Operands) : Option Word :=
  match p.layout with
  | .nnn => operands.nnn.map (.ofAddress p.family)
  | .xkk => do return .ofConstant p.family (← operands.x) (← operands.kk)
  | .xyn => do return .ofNibbles p.family (← operands.x) (← operands.y) (← operands.n)
  | .xy n => do return .ofNibbles p.family (← operands.x) (← operands.y) n
  | .x kk => operands.x.map (.ofConstant p.family · kk)
  | .given nnn => some (.ofAddress p.family (Fin.ofNat 4096 nnn))

lemma word?_operands {p : Pattern} {w : Word} (hfits : p.fits w) : p.word? (p.layout.operands w) = some w := by
  obtain ⟨family, layout⟩ := p
  obtain ⟨hfamily, hlayout⟩ := Bool.and_eq_true_iff.1 hfits
  obtain rfl : w.family.val = family := of_decide_eq_true hfamily
  cases layout with
  | nnn => exact congrArg some w.ofAddress_fields
  | xkk => exact congrArg some w.ofConstant_fields
  | xyn => exact congrArg some w.ofNibbles_fields
  | xy n =>
    obtain rfl : w.n.val = n := of_decide_eq_true hlayout
    exact congrArg some w.ofNibbles_fields
  | x kk =>
    obtain rfl : w.kk.val = kk := of_decide_eq_true hlayout
    exact congrArg some w.ofConstant_fields
  | given nnn =>
    obtain rfl : w.nnn.val = nnn := of_decide_eq_true hlayout
    have hnnn : Fin.ofNat 4096 w.nnn.val = w.nnn := Fin.ofNat_val_eq_self _
    change some (Word.ofAddress _ (Fin.ofNat 4096 w.nnn.val)) = _
    rw [hnnn, w.ofAddress_fields]

lemma ofMnemonic?_mnemonic (i : Instruction) : ofMnemonic? i.mnemonic = some i.pattern := by
  cases i with
  | skip condition => cases condition <;> rfl
  | combine how x y => cases how <;> rfl
  | _ => rfl

end Pattern

lemma Combination.ofNibble?_nibble (how : Combination) : ofNibble? how.nibble = some how := by
  cases how <;> rfl

namespace Word

variable {v w : Word} {i j : Instruction}

lemma name_of_decode (hdecode : Instruction.decode w = some i) : w.name = i.mnemonic := by
  rw [name, hdecode]

lemma assembly_of_decode (hdecode : Instruction.decode w = some i) :
    w.assembly = (Assembly.ofInstruction i).text := by
  rw [assembly, hdecode]

lemma assembly_of_unknown (hdecode : Instruction.decode w = none) : w.assembly = ".word " ++ w.text := by
  rw [assembly, hdecode]

lemma exists_decode_of_name (hname : w.name ≠ "UNKNOWN") : ∃ i, Instruction.decode w = some i := by
  cases hdecode : Instruction.decode w with
  | none =>
    rw [name, hdecode] at hname
    exact absurd rfl hname
  | some i => exact ⟨i, rfl⟩

lemma x_of_decode {how : Combination} {x y : Register} (hdecode : Instruction.decode w = some (.combine how x y)) :
    w.x = x := by
  rw [← Instruction.encode_of_decode hdecode, Instruction.encode, x_ofNibbles]

lemma text_inj (h : v.text = w.text) : v = w := by
  have hfixed : Hex.fixed 4 v.val = Hex.fixed 4 w.val := by
    have hlist := congrArg String.toList h
    rw [text, text, String.toList_ofList, String.toList_ofList] at hlist
    exact List.tail_eq_of_cons_eq (List.tail_eq_of_cons_eq hlist)
  have hnumber := Hex.foldl_fixed 4 v.val
  rw [hfixed, Hex.foldl_fixed] at hnumber
  apply Fin.ext
  omega

/-- Data is not written like an instruction. -/
lemma text_ne_data (i : Instruction) (data : String) : (Assembly.ofInstruction i).text ≠ ".word " ++ data := by
  intro h
  have hfirst := (Assembly.span_text (Assembly.operation_plain i).1).1
  rw [h, String.toList_append] at hfirst
  exact (Assembly.operation_plain i).2 hfirst.symm

lemma assembly_eq_iff :
    v.assembly = w.assembly ↔ v = w ∨
      ∃ i j, Instruction.decode v = some i ∧ Instruction.decode w = some j ∧ Instruction.SameShift i j := by
  constructor
  · intro h
    cases hv : Instruction.decode v with
    | none =>
      rw [assembly_of_unknown hv] at h
      cases hw : Instruction.decode w with
      | none =>
        rw [assembly_of_unknown hw, ← String.toList_inj, String.toList_append, String.toList_append] at h
        exact .inl (text_inj (String.toList_inj.1 (List.append_cancel_left h)))
      | some j =>
        rw [assembly_of_decode hw] at h
        exact absurd h.symm (text_ne_data j _)
    | some i =>
      rw [assembly_of_decode hv] at h
      cases hw : Instruction.decode w with
      | none =>
        rw [assembly_of_unknown hw] at h
        exact absurd h (text_ne_data i _)
      | some j =>
        rw [assembly_of_decode hw] at h
        rcases Instruction.text_eq_iff.1 h with rfl | hshift
        · exact .inl ((Instruction.encode_of_decode hv).symm.trans (Instruction.encode_of_decode hw))
        · exact .inr ⟨i, j, rfl, rfl, hshift⟩
  · rintro (rfl | ⟨i, j, hv, hw, hshift⟩)
    · rfl
    · rw [assembly_of_decode hv, assembly_of_decode hw]
      exact Instruction.text_eq_iff.2 (.inr hshift)

lemma sameShift_iff :
    (∃ i j, Instruction.decode v = some i ∧ Instruction.decode w = some j ∧ Instruction.SameShift i j) ↔
      ∃ shift ∈ ["SHR", "SHL"], v.name = shift ∧ w.name = shift ∧ v.x = w.x := by
  constructor
  · rintro ⟨_, _, hv, hw, how, x, y, z, hshift, rfl, rfl⟩
    refine ⟨v.name, ?_, rfl, ?_, (x_of_decode hv).trans (x_of_decode hw).symm⟩
    · rw [name_of_decode hv]
      exact Instruction.mnemonic_shift_iff.2 ⟨how, x, y, hshift, rfl⟩
    · rw [name_of_decode hv, name_of_decode hw]
      cases how <;> rfl
  · rintro ⟨shift, hmem, hv, hw, hx⟩
    have hknown : shift ≠ "UNKNOWN" := by
      rintro rfl
      exact absurd hmem (by decide)
    obtain ⟨i, hi⟩ := exists_decode_of_name (hv.trans_ne hknown)
    obtain ⟨j, hj⟩ := exists_decode_of_name (hw.trans_ne hknown)
    rw [name_of_decode hi] at hv
    rw [name_of_decode hj] at hw
    obtain ⟨how, x, y, hshift, rfl⟩ := Instruction.mnemonic_shift_iff.1 (hv ▸ hmem)
    obtain ⟨how', x', z, -, rfl⟩ := Instruction.mnemonic_shift_iff.1 (hw ▸ hmem)
    obtain rfl : x = x' := (x_of_decode hi).symm.trans (hx.trans (x_of_decode hj))
    -- equal mnemonics name one pattern, and its last nibble the kind of shift
    have hpattern := Pattern.ofMnemonic?_mnemonic (.combine how x y)
    rw [hv, ← hw, Pattern.ofMnemonic?_mnemonic] at hpattern
    have hnibble : how'.nibble = how.nibble := by simpa [Instruction.pattern] using hpattern
    have hhow := how.ofNibble?_nibble
    rw [← hnibble, Combination.ofNibble?_nibble] at hhow
    cases hhow
    exact ⟨_, _, hi, hj, how, x, y, z, hshift, rfl, rfl⟩

end Word

/-- Two integers have the same assembly text exactly if their last sixteen bits are the same, or both are shifts of one
kind with the same first register. -/
theorem assembly_identifies_word (a b : Int) :
    ((Word.ofInt a).assembly = (Word.ofInt b).assembly ↔ a % 65536 = b % 65536 ∨
      ∃ shift ∈ ["SHR", "SHL"], (Word.ofInt a).name = shift ∧ (Word.ofInt b).name = shift ∧
        (Word.ofInt a).x = (Word.ofInt b).x) ∧
    (Word.ofInt a = Word.ofInt b ↔ a % 65536 = b % 65536) ∧
    ((Word.ofInt a).val : Int) = a % 65536 ∧
    ((Word.ofInt a).name ≠ "UNKNOWN" → ∃ p ∈ Pattern.documented, Pattern.ofMnemonic? (Word.ofInt a).name = some p ∧
      p.fits (Word.ofInt a) ∧ p.word? (p.layout.operands (Word.ofInt a)) = some (Word.ofInt a)) := by
  have hequal : Word.ofInt a = Word.ofInt b ↔ a % 65536 = b % 65536 := residue_eq_iff _ _ a b
  refine ⟨?_, hequal, val_residue _ _ a, fun hname => ?_⟩
  · rw [Word.assembly_eq_iff, Word.sameShift_iff, hequal]
  · obtain ⟨i, hi⟩ := Word.exists_decode_of_name hname
    have hfits := i.pattern_fits_encode
    rw [Instruction.encode_of_decode hi] at hfits
    refine ⟨i.pattern, i.pattern_mem_documented, ?_, hfits, Pattern.word?_operands hfits⟩
    rw [Word.name_of_decode hi, Pattern.ofMnemonic?_mnemonic]

/-- Two shifts that differ in their second register are written alike, and a word is rebuilt from a negative integer. -/
theorem assembly_identifies_word_shifts :
    (Word.ofInt 0x8126).assembly = (Word.ofInt 0x8136).assembly ∧ (-0x2ED1 : Int) % 65536 = 0xD12F ∧
      ∃ p ∈ Pattern.documented, p.word? ⟨some 1, some 2, some 15, none, none⟩ = some (Word.ofInt (-0x2ED1)) := by
  obtain ⟨p, hmem, hname, -, hword⟩ := (assembly_identifies_word (-0x2ED1) 0).2.2.2 (by decide)
  cases hname
  exact ⟨(assembly_identifies_word 0x8126 0x8136).1.2 (.inr ⟨"SHR", by decide, rfl, rfl, rfl⟩), by decide, _, hmem,
    hword⟩

end Chip8
