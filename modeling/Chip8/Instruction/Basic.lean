import Chip8.Instruction.Word

/-!
# Instructions

The thirty-four instructions, six of which skip on a condition and nine of which combine two registers, and the
words that stand for them. Main statements: every instruction is read back from its word (`decode_encode`), and a
word that can be read is the word of what was read (`encode_of_decode`), so no two words share an instruction.
-/

namespace Chip8

inductive Condition where
  | equalsConstant (x : Register) (kk : Constant)
  | differsFromConstant (x : Register) (kk : Constant)
  | equalsRegister (x y : Register)
  | differsFromRegister (x y : Register)
  | keyDown (x : Register)
  | keyUp (x : Register)
  deriving DecidableEq, Repr

/-- How a register takes in another one. -/
inductive Combination where
  | copy
  | bitOr
  | bitAnd
  | bitXor
  | add
  | subtract
  | shiftRight
  | subtractFrom
  | shiftLeft
  deriving DecidableEq, Repr

inductive Instruction where
  | clearScreen
  | returnFromCall
  | jump (target : Address)
  | call (target : Address)
  | skip (condition : Condition)
  | setConstant (x : Register) (kk : Constant)
  | addConstant (x : Register) (kk : Constant)
  | combine (how : Combination) (x y : Register)
  | setIndex (target : Address)
  | jumpFromFirst (base : Address)
  | random (x : Register) (mask : Constant)
  | draw (x y : Register) (height : Fin 16)
  | readDelay (x : Register)
  | awaitKey (x : Register)
  | setDelay (x : Register)
  | setSound (x : Register)
  | addIndex (x : Register)
  | pointAtGlyph (x : Register)
  | storeDigits (x : Register)
  | storeRegisters (last : Register)
  | loadRegisters (last : Register)
  deriving DecidableEq, Repr

namespace Combination

/-- The combination that a word's last nibble names. -/
def ofNibble? : Nat → Option Combination
  | 0x0 => some .copy
  | 0x1 => some .bitOr
  | 0x2 => some .bitAnd
  | 0x3 => some .bitXor
  | 0x4 => some .add
  | 0x5 => some .subtract
  | 0x6 => some .shiftRight
  | 0x7 => some .subtractFrom
  | 0xE => some .shiftLeft
  | _ => none

/-- The last nibble of a combination's words. -/
def nibble : Combination → Nat
  | .copy => 0x0
  | .bitOr => 0x1
  | .bitAnd => 0x2
  | .bitXor => 0x3
  | .add => 0x4
  | .subtract => 0x5
  | .shiftRight => 0x6
  | .subtractFrom => 0x7
  | .shiftLeft => 0xE

/-- The nibble that names a combination is its own. -/
theorem nibble_of_ofNibble? {n : Nat} {how : Combination} (h : ofNibble? n = some how) :
    how.nibble = n := by
  unfold ofNibble? at h
  split at h <;> cases h <;> rfl

end Combination

namespace Instruction

/-- The key and miscellaneous instructions are told apart by the last byte. -/
def ofLastByte? (x : Register) : Nat → Nat → Option Instruction
  | 0xE, 0x9E => some (.skip (.keyDown x))
  | 0xE, 0xA1 => some (.skip (.keyUp x))
  | 0xF, 0x07 => some (.readDelay x)
  | 0xF, 0x0A => some (.awaitKey x)
  | 0xF, 0x15 => some (.setDelay x)
  | 0xF, 0x18 => some (.setSound x)
  | 0xF, 0x1E => some (.addIndex x)
  | 0xF, 0x29 => some (.pointAtGlyph x)
  | 0xF, 0x33 => some (.storeDigits x)
  | 0xF, 0x55 => some (.storeRegisters x)
  | 0xF, 0x65 => some (.loadRegisters x)
  | _, _ => none

/-- The instruction a word stands for, if any. A comparison of two registers needs a last nibble of zero, and
of family zero only two whole words are instructions. -/
def decode (w : Word) : Option Instruction :=
  match w.family.val with
  | 0x0 =>
    if w.val = 0x00E0 then some .clearScreen
    else if w.val = 0x00EE then some .returnFromCall
    else none
  | 0x1 => some (.jump w.nnn)
  | 0x2 => some (.call w.nnn)
  | 0x3 => some (.skip (.equalsConstant w.x w.kk))
  | 0x4 => some (.skip (.differsFromConstant w.x w.kk))
  | 0x5 => if w.n.val = 0 then some (.skip (.equalsRegister w.x w.y)) else none
  | 0x6 => some (.setConstant w.x w.kk)
  | 0x7 => some (.addConstant w.x w.kk)
  | 0x8 => (Combination.ofNibble? w.n).map fun how => .combine how w.x w.y
  | 0x9 => if w.n.val = 0 then some (.skip (.differsFromRegister w.x w.y)) else none
  | 0xA => some (.setIndex w.nnn)
  | 0xB => some (.jumpFromFirst w.nnn)
  | 0xC => some (.random w.x w.kk)
  | 0xD => some (.draw w.x w.y w.n)
  | family => ofLastByte? w.x family w.kk

def encode : Instruction → Word
  | .clearScreen => .ofBytes 0x00 0xE0
  | .returnFromCall => .ofBytes 0x00 0xEE
  | .jump target => .ofAddress 0x1 target
  | .call target => .ofAddress 0x2 target
  | .skip (.equalsConstant x kk) => .ofConstant 0x3 x kk
  | .skip (.differsFromConstant x kk) => .ofConstant 0x4 x kk
  | .skip (.equalsRegister x y) => .ofNibbles 0x5 x y 0
  | .setConstant x kk => .ofConstant 0x6 x kk
  | .addConstant x kk => .ofConstant 0x7 x kk
  | .combine how x y => .ofNibbles 0x8 x y how.nibble
  | .skip (.differsFromRegister x y) => .ofNibbles 0x9 x y 0
  | .setIndex target => .ofAddress 0xA target
  | .jumpFromFirst base => .ofAddress 0xB base
  | .random x mask => .ofConstant 0xC x mask
  | .draw x y height => .ofNibbles 0xD x y height
  | .skip (.keyDown x) => .ofConstant 0xE x 0x9E
  | .skip (.keyUp x) => .ofConstant 0xE x 0xA1
  | .readDelay x => .ofConstant 0xF x 0x07
  | .awaitKey x => .ofConstant 0xF x 0x0A
  | .setDelay x => .ofConstant 0xF x 0x15
  | .setSound x => .ofConstant 0xF x 0x18
  | .addIndex x => .ofConstant 0xF x 0x1E
  | .pointAtGlyph x => .ofConstant 0xF x 0x29
  | .storeDigits x => .ofConstant 0xF x 0x33
  | .storeRegisters last => .ofConstant 0xF last 0x55
  | .loadRegisters last => .ofConstant 0xF last 0x65

/-- Every instruction is read back from its word. -/
theorem decode_encode (i : Instruction) : decode i.encode = some i := by
  have constant (kk : Constant) : kk.val % 256 = kk.val := Nat.mod_eq_of_lt kk.isLt
  have height (n : Fin 16) : n.val % 16 = n.val := Nat.mod_eq_of_lt n.isLt
  cases i with
  | skip condition =>
    cases condition <;> simp [encode, decode, ofLastByte?, Fin.ext_iff, constant]
  | combine how x y => cases how <;> simp [encode, decode, Combination.ofNibble?, Combination.nibble]
  | clearScreen => rfl
  | returnFromCall => rfl
  | _ => simp [encode, decode, ofLastByte?, Fin.ext_iff, constant, height]

theorem encode_of_ofLastByte? {x : Register} {family kk : Nat} {i : Instruction}
    (h : ofLastByte? x family kk = some i) : i.encode = .ofConstant family x kk := by
  unfold ofLastByte? at h
  split at h <;> cases h <;> rfl

/-- A word that can be read is the word of what was read. -/
theorem encode_of_decode {w : Word} {i : Instruction} (h : decode w = some i) : i.encode = w := by
  have ofAddress {f : Nat} (hf : w.family.val = f) : Word.ofAddress f w.nnn = w := by
    rw [← hf, Word.ofAddress_fields]
  have ofConstant {f : Nat} (hf : w.family.val = f) : Word.ofConstant f w.x w.kk = w := by
    rw [← hf, Word.ofConstant_fields]
  have ofNibbles {f n : Nat} (hf : w.family.val = f) (hn : w.n.val = n) : Word.ofNibbles f w.x w.y n = w := by
    rw [← hf, ← hn, Word.ofNibbles_fields]
  unfold decode at h
  split at h
  case h_1 hf =>
    split at h
    · cases h; apply Fin.ext; symm; assumption
    · split at h
      · cases h; apply Fin.ext; symm; assumption
      · cases h
  case h_6 hf | h_10 hf =>
    split at h
    · cases h; exact ofNibbles hf (by assumption)
    · cases h
  case h_9 hf =>
    obtain ⟨how, hhow, rfl⟩ := Option.map_eq_some_iff.1 h
    exact ofNibbles hf (Combination.nibble_of_ofNibble? hhow).symm
  case h_14 hf => cases h; exact ofNibbles hf rfl
  case h_15 => rw [encode_of_ofLastByte? h]; exact ofConstant rfl
  case h_2 hf | h_3 hf | h_11 hf | h_12 hf => cases h; exact ofAddress hf
  all_goals
    cases h
    exact ofConstant (by assumption)

/-- A word stands for an instruction exactly if it is that instruction's word. -/
theorem decode_eq_some_iff {w : Word} {i : Instruction} : decode w = some i ↔ i.encode = w :=
  ⟨encode_of_decode, fun h => h ▸ decode_encode i⟩

def mnemonic : Instruction → String
  | .clearScreen => "CLS"
  | .returnFromCall => "RET"
  | .jump _ => "JP"
  | .call _ => "CALL"
  | .skip (.equalsConstant ..) => "SE"
  | .skip (.differsFromConstant ..) => "SNE"
  | .skip (.equalsRegister ..) => "SE_REG"
  | .skip (.differsFromRegister ..) => "SNE_REG"
  | .skip (.keyDown _) => "SKP"
  | .skip (.keyUp _) => "SKNP"
  | .setConstant .. => "LD"
  | .addConstant .. => "ADD"
  | .combine .copy .. => "LD_REG"
  | .combine .bitOr .. => "OR"
  | .combine .bitAnd .. => "AND"
  | .combine .bitXor .. => "XOR"
  | .combine .add .. => "ADD_REG"
  | .combine .subtract .. => "SUB"
  | .combine .shiftRight .. => "SHR"
  | .combine .subtractFrom .. => "SUBN"
  | .combine .shiftLeft .. => "SHL"
  | .setIndex _ => "LD_I"
  | .jumpFromFirst _ => "JP_V0"
  | .random .. => "RND"
  | .draw .. => "DRW"
  | .readDelay _ => "LD_VX_DT"
  | .awaitKey _ => "LD_VX_K"
  | .setDelay _ => "LD_DT"
  | .setSound _ => "LD_ST"
  | .addIndex _ => "ADD_I"
  | .pointAtGlyph _ => "LD_F"
  | .storeDigits _ => "LD_B"
  | .storeRegisters _ => "LD_MEM"
  | .loadRegisters _ => "LD_REGS"

def mnemonics : List String :=
  ["ADD", "ADD_I", "ADD_REG", "AND", "CALL", "CLS", "DRW", "JP", "JP_V0", "LD", "LD_B", "LD_DT", "LD_F", "LD_I",
    "LD_MEM", "LD_REG", "LD_REGS", "LD_ST", "LD_VX_DT", "LD_VX_K", "OR", "RET", "RND", "SE", "SE_REG", "SHL",
    "SHR", "SKNP", "SKP", "SNE", "SNE_REG", "SUB", "SUBN", "XOR"]

/-- The list of mnemonics leaves out no instruction. -/
theorem mnemonic_mem_mnemonics (i : Instruction) : i.mnemonic ∈ mnemonics := by
  cases i with
  | skip condition => cases condition <;> simp [mnemonic, mnemonics]
  | combine how x y => cases how <;> simp [mnemonic, mnemonics]
  | _ => simp [mnemonic, mnemonics]

end Instruction

/-- The name under which a word is listed: its mnemonic, or a fixed name for a word that is no instruction. -/
def Word.name (w : Word) : String :=
  match Instruction.decode w with
  | some i => i.mnemonic
  | none => "UNKNOWN"

end Chip8
