import Chip8.Machine.Action

/-!
# Execution

What every instruction does, and one step of the machine: fetch, report, execute. Where an instruction sets a
flag, the flag is written last, so it wins if VF is the destination too.
-/

namespace Chip8

namespace Combination

/-- The value of two registers combined, and the flag if there is one. `shiftSecond` says that a shift reads its
second register. -/
def result (how : Combination) (shiftSecond : Bool) (a b : Int) : Int × Option Int :=
  let source := if shiftSecond then b else a
  match how with
  | .copy => (b, none)
  | .bitOr => (Bits.either a b, none)
  | .bitAnd => (Bits.both a b, none)
  | .bitXor => (Bits.differ a b, none)
  | .add => ((a + b) % 256, some (if a + b > 255 then 1 else 0))
  | .subtract => ((a - b) % 256, some (if a ≥ b then 1 else 0))
  | .shiftRight => (source / 2, some (source % 2))
  | .subtractFrom => ((b - a) % 256, some (if b ≥ a then 1 else 0))
  | .shiftLeft => (source * 2 % 256, some (source / 128 % 2))

end Combination

/-- The bit order of a dialect's sprites. -/
def Dialect.bitOrder (d : Dialect Bool) : BitOrder :=
  if d.spriteLsbLeft then .lowestLeft else .highestLeft

namespace Action

def holds : Condition → Action Bool
  | .equalsConstant x kk => return (← register x) = kk.val
  | .differsFromConstant x kk => return (← register x) ≠ kk.val
  | .equalsRegister x y => return (← register x) = (← register y)
  | .differsFromRegister x y => return (← register x) ≠ (← register y)
  | .keyDown x => return (← get).keypad.isDown (← register x)
  | .keyUp x => return !(← get).keypad.isDown (← register x)

def combine (around : Surroundings) (how : Combination) (x y : Register) : Action Unit := do
  let (value, flag) := how.result around.dialect.shiftUsesVy (← register x) (← register y)
  setRegister x value
  match flag with
  | none => pure ()
  | some flag => setRegister flagRegister flag

/-- The sprite at the index register drawn at the place that two registers name; VF says whether a lit pixel
was turned off. -/
def drawSprite (around : Surroundings) (x y : Register) (height : Fin 16) : Action Unit := do
  let start := (← get).index
  checkRange start height.val
  let rows := ((← get).memory.read start.toNat height.val).map fun byte => (byte.toNat : Int)
  let hit ← draw around.dialect.bitOrder (← register x) (← register y) rows
  setRegister flagRegister (if hit then 1 else 0)

/-- The decimal digits of a register stored at the index register: hundreds, tens, units. -/
def storeDigits (x : Register) : Action Unit := do
  let start := (← get).index
  checkRange start 3
  let value ← register x
  store start (value / 100)
  store (start + 1) (value / 10 % 10)
  store (start + 2) (value % 10)

def registersUpTo (last : Register) : List Register :=
  (List.finRange 16).filter (· ≤ last)

/-- The registers up to `last` stored at the index register, which keeps its value. -/
def storeRegisters (last : Register) : Action Unit := do
  let start := (← get).index
  checkRange start (last.val + 1)
  (registersUpTo last).forM fun i => do store (start + i.val) (← register i)

/-- The registers up to `last` loaded from the index register, which keeps its value. -/
def loadRegisters (last : Register) : Action Unit := do
  let start := (← get).index
  checkRange start (last.val + 1)
  (registersUpTo last).forM fun i => do setRegister i (← load (start + i.val))

/-- The machine halts until a key is pressed that was not pressed before. -/
def awaitKey (x : Register) : Action Unit := do
  discardPresses
  modify fun m => { m with awaiting := some (x.val : Int) }
  report (.awaitingKey x)

/-- One instruction, with the counter already past it. -/
def execute (around : Surroundings) : Instruction → Action Unit
  | .clearScreen => clearScreen
  | .returnFromCall => do
    let address ← popReturn
    modify fun m => { m with counter := address }
  | .jump target => jump target.val
  | .call target => do
    pushReturn (← get).counter
    jump target.val
  | .skip condition => do
    if ← holds condition then
      skip
  | .setConstant x kk => setRegister x kk.val
  | .addConstant x kk => do setRegister x (((← register x) + kk.val) % 256)
  | .combine how x y => combine around how x y
  | .setIndex target => modify fun m => { m with index := target.val }
  | .jumpFromFirst base => do jump (base.val + (← register firstRegister))
  | .random x mask => do
    let byte ← randomByte around
    setRegister x ((byte.toNat &&& mask.val : Nat) : Int)
  | .draw x y height => drawSprite around x y height
  | .readDelay x => do setRegister x (← get).delay
  | .awaitKey x => awaitKey x
  | .setDelay x => do
    let value ← register x
    modify fun m => { m with delay := value }
  | .setSound x => do
    let value ← register x
    modify fun m => { m with sound := value }
  | .addIndex x => do
    let target := (← get).index + (← register x)
    checkRange target 0
    modify fun m => { m with index := target }
  | .pointAtGlyph x => do
    let digit ← register x
    modify fun m => { m with index := digit * glyphSize }
  | .storeDigits x => storeDigits x
  | .storeRegisters last => storeRegisters last
  | .loadRegisters last => loadRegisters last

/-- A word executed as an instruction. A word that is none is a fault that names it. -/
def executeWord (around : Surroundings) (word : Word) : Action Unit := do
  match Instruction.decode word with
  | some i => execute around i
  | none => throw (.fault ⟨.notAnInstruction, (← get).counter, some word⟩)

/-- A press goes into the register that awaits it, and the halt ends. Without such a register there is no number to
find it by. -/
def endHalt (code : Int) : Action Unit := do
  match (← get).awaiting with
  | some register =>
    let x ← slot 16 register
    setRegister x (code % 16)
    modify fun m => { m with awaiting := none }
    report (.keyStored code register)
  | none => throw .missingNumber

/-- A halted machine looks for a press. -/
def resumeOnKey : Action Unit := do
  match ← pollKey with
  | some code => endHalt code
  | none => pure ()

/-- One step: a halted machine looks for a press, any other executes the instruction at the counter and answers
it. -/
def step (around : Surroundings) : Action (Option Instruction) := do
  if (← get).awaiting.isSome then
    resumeOnKey
    return none
  else
    let address := (← get).counter
    let word ← fetch
    report (.fetched address word)
    blaming address word (executeWord around word)
    modify fun m => { m with executed := m.executed + 1 }
    return Instruction.decode word

end Action

end Chip8
