import Chip8.Machine.Basic

/-!
# Actions

The elementary things done to a machine: memory and registers read and written, the stack, the counter, the
screen, the keypad and the timers. An action may stop with a failure and then leaves the machine as it stood.
-/

namespace Chip8

/-- Something done to a machine. -/
abbrev Action := EStateM Failure Machine

namespace Action

variable {α : Type}

/-- A fault at the present address. -/
def fault (cause : FaultCause) : Action α := do
  throw (.fault ⟨cause, (← get).counter, none⟩)

/-- Faults inside an action are blamed on the given instruction. -/
def blaming (address : Int) (word : Word) (act : Action α) : Action α := fun m =>
  match act m with
  | .error (.fault f) m => .error (.fault { f with address, word := some word }) m
  | result => result

def report (r : Report) : Action Unit :=
  modify fun m => if m.tracing then { m with reports := r :: m.reports } else m

/-- The place that an integer names, which has to exist. -/
def slot (n : Nat) (i : Int) : Action (Fin n) :=
  match slot? n i with
  | some k => pure k
  | none => throw .noSuchSlot

def register (x : Register) : Action Int := do
  return (← get).registers.get x

def setRegister (x : Register) (value : Int) : Action Unit :=
  modify fun m => { m with registers := m.registers.set x value }

/-- A value stored in memory, which has to be a byte. -/
def store (address value : Int) : Action Unit := do
  let cell ← slot 4096 address
  if 0 ≤ value ∧ value ≤ 255 then
    modify fun m => { m with memory := m.memory.set cell (UInt8.ofNat value.toNat) }
  else
    throw .notAByte

def load (address : Int) : Action Int := do
  let cell ← slot 4096 address
  return ((← get).memory[cell].toNat : Int)

def checkRange (start length : Int) : Action Unit := do
  if start < 0 ∨ start + length > 4096 then
    fault (.rangeOutside start length)

/-- The word at the counter, which moves past it. -/
def fetch : Action Word := do
  let address := (← get).counter
  if address + 2 > 4096 then
    fault .fetchOutside
  else
    let high ← slot 4096 address
    let low ← slot 4096 (address + 1)
    modify fun m => { m with counter := address + 2 }
    let memory := (← get).memory
    return Word.ofBytes memory[high] memory[low]

def pushReturn (address : Int) : Action Unit := do
  if (← get).depth = 16 then
    fault .stackFull
  else
    let top ← slot 16 (← get).depth
    modify fun m => { m with stack := m.stack.set top address, depth := m.depth + 1 }

/-- The return address on top of the stack, taken off. The slot keeps its value. -/
def popReturn : Action Int := do
  if (← get).depth = 0 then
    fault .stackEmpty
  else
    modify fun m => { m with depth := m.depth - 1 }
    let top ← slot 16 (← get).depth
    return (← get).stack[top]

/-- The counter moved to an address, which has to lie in memory. -/
def jump (target : Int) : Action Unit := do
  if 0 ≤ target ∧ target < 4096 then
    modify fun m => { m with counter := target }
  else
    fault (.jumpOutside target)

/-- The counter moved past the next instruction, unless that leaves memory. -/
def skip : Action Unit := do
  if (← get).counter + 2 ≥ 4096 then
    fault .skipOutside
  else
    modify fun m => { m with counter := m.counter + 2 }

def randomByte (around : Surroundings) : Action UInt8 := do
  let position := (← get).drawn
  modify fun m => { m with drawn := position + 1 }
  return around.random position

def clearScreen : Action Unit :=
  modify fun m => { m with screen := Screen.blank, dirty := true }

/-- A sprite drawn, and whether it turned a lit pixel off. -/
def draw (order : BitOrder) (x y : Int) (rows : List Int) : Action Bool := do
  let (hit, screen) := (← get).screen.draw order x y rows
  modify fun m => { m with screen, dirty := true }
  return hit

/-- A key goes down under a code that may count from the end. -/
def pressKey (code : Int) : Action Unit := do
  let key ← slot 16 code
  let held := (← get).keypad.down[key]
  modify fun m => { m with keypad := m.keypad.press key code }
  if !held then
    report (.keyPressed code)

def releaseKey (code : Int) : Action Unit := do
  let key ← slot 16 code
  modify fun m => { m with keypad := m.keypad.release key }

/-- Exactly the keys with the given codes are down; codes that name no key are passed over. -/
def setKeys (codes : List Int) : Action Unit :=
  (List.finRange 16).forM fun key =>
    if (key.val : Int) ∈ codes then pressKey key.val else releaseKey key.val

/-- The oldest press kept, taken out. -/
def pollKey : Action (Option Int) := do
  let (press, keypad) := (← get).keypad.poll
  modify fun m => { m with keypad }
  return press

def discardPresses : Action Unit :=
  modify fun m => { m with keypad := m.keypad.discard }

def tick : Action Unit := do
  modify fun m => { m with delay := if m.delay > 0 then m.delay - 1 else m.delay }
  if (← get).sound > 0 then
    modify fun m => { m with sound := m.sound - 1 }
    if (← get).sound = 0 then
      report .soundExpired

/-- A program copied into memory at its start, which has to fit. -/
def installProgram (program : List UInt8) : Action Unit := do
  if program.length > programLimit then
    throw (.programTooLarge program.length)
  else
    modify fun m => { m with memory := m.memory.write programStart program }

end Action

end Chip8
