import Chip8.Instruction.Basic

/-!
# Assembly text

An instruction is written as an operation followed by its operands, which commas part. A word that is no
instruction is written as data. The second register of a shift is not written.
-/

namespace Chip8

inductive Operand where
  | register (x : Register)
  | constant (kk : Constant)
  | address (target : Address)
  | height (n : Fin 16)
  | index
  | atIndex
  | delay
  | sound
  | key
  | glyph
  | digits
  deriving DecidableEq, Repr

namespace Operand

/-- Constants have two digits and addresses three, in base sixteen; the height of a sprite is decimal. -/
def text : Operand → List Char
  | .register x => ['V', Hex.digit x]
  | .constant kk => '0' :: 'x' :: Hex.fixed 2 kk
  | .address target => '0' :: 'x' :: Hex.fixed 3 target
  | .height n => Nat.toDigits 10 n
  | .index => ['I']
  | .atIndex => ['[', 'I', ']']
  | .delay => ['D', 'T']
  | .sound => ['S', 'T']
  | .key => ['K']
  | .glyph => ['F']
  | .digits => ['B']

end Operand

structure Assembly where
  operation : String
  operands : List Operand
  deriving DecidableEq, Repr

namespace Assembly

/-- The operation, a blank if operands follow, and the operands parted by a comma and a blank. -/
def text (a : Assembly) : String :=
  match a.operands with
  | [] => a.operation
  | operands => a.operation ++ " " ++ String.ofList (List.intercalate [',', ' '] (operands.map Operand.text))

/-- How a combination is written: a shift names its first register only. -/
def ofCombination (x y : Register) : Combination → Assembly
  | .copy => ⟨"LD", [.register x, .register y]⟩
  | .bitOr => ⟨"OR", [.register x, .register y]⟩
  | .bitAnd => ⟨"AND", [.register x, .register y]⟩
  | .bitXor => ⟨"XOR", [.register x, .register y]⟩
  | .add => ⟨"ADD", [.register x, .register y]⟩
  | .subtract => ⟨"SUB", [.register x, .register y]⟩
  | .shiftRight => ⟨"SHR", [.register x]⟩
  | .subtractFrom => ⟨"SUBN", [.register x, .register y]⟩
  | .shiftLeft => ⟨"SHL", [.register x]⟩

def ofCondition : Condition → Assembly
  | .equalsConstant x kk => ⟨"SE", [.register x, .constant kk]⟩
  | .differsFromConstant x kk => ⟨"SNE", [.register x, .constant kk]⟩
  | .equalsRegister x y => ⟨"SE", [.register x, .register y]⟩
  | .differsFromRegister x y => ⟨"SNE", [.register x, .register y]⟩
  | .keyDown x => ⟨"SKP", [.register x]⟩
  | .keyUp x => ⟨"SKNP", [.register x]⟩

def ofInstruction : Instruction → Assembly
  | .clearScreen => ⟨"CLS", []⟩
  | .returnFromCall => ⟨"RET", []⟩
  | .jump target => ⟨"JP", [.address target]⟩
  | .call target => ⟨"CALL", [.address target]⟩
  | .skip condition => ofCondition condition
  | .setConstant x kk => ⟨"LD", [.register x, .constant kk]⟩
  | .addConstant x kk => ⟨"ADD", [.register x, .constant kk]⟩
  | .combine how x y => ofCombination x y how
  | .setIndex target => ⟨"LD", [.index, .address target]⟩
  | .jumpFromFirst base => ⟨"JP", [.register firstRegister, .address base]⟩
  | .random x mask => ⟨"RND", [.register x, .constant mask]⟩
  | .draw x y height => ⟨"DRW", [.register x, .register y, .height height]⟩
  | .readDelay x => ⟨"LD", [.register x, .delay]⟩
  | .awaitKey x => ⟨"LD", [.register x, .key]⟩
  | .setDelay x => ⟨"LD", [.delay, .register x]⟩
  | .setSound x => ⟨"LD", [.sound, .register x]⟩
  | .addIndex x => ⟨"ADD", [.index, .register x]⟩
  | .pointAtGlyph x => ⟨"LD", [.glyph, .register x]⟩
  | .storeDigits x => ⟨"LD", [.digits, .register x]⟩
  | .storeRegisters last => ⟨"LD", [.atIndex, .register last]⟩
  | .loadRegisters last => ⟨"LD", [.register last, .atIndex]⟩

end Assembly

/-- The assembly text of a word, or the word as data if it is no instruction. -/
def Word.assembly (w : Word) : String :=
  match Instruction.decode w with
  | some i => (Assembly.ofInstruction i).text
  | none => ".word " ++ w.text

end Chip8
