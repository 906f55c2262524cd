import Chip8.Console.Basic
import Chip8.Screen.Picture

/-!
# Sessions

A session is a sequence of commands to a console, as a debugger gives them. Every command has a reply or fails,
and the session goes on from the state in which the command left the console.
-/

namespace Chip8

/-- A field of the machine that a debugger may write. -/
inductive Field where
  | index
  | counter
  | depth
  | delay
  | sound
  deriving DecidableEq, Repr

inductive Command (τ : Type) where
  | load (program : List UInt8)
  /-- Copy a program into memory, and no more. -/
  | install (program : List UInt8)
  | reset
  | resetState
  | resetPanel
  | resetTimers
  | step (elapsed : τ)
  | stepMachine
  /-- Run a frame; the usual length and number of instructions stand for what is not given. -/
  | frame (elapsed : Option τ) (instructions : Option Int)
  | execute (word : Word)
  | resumeOnKey
  | update (elapsed : τ)
  | tick
  | soundActive
  | awaitingKey
  | snapshot
  | fetch
  | pushReturn (address : Int)
  | popReturn
  | jump (target : Int)
  | skip
  | checkRange (start length : Int)
  | readMemory (start length : Nat)
  | writeMemory (start : Nat) (bytes : List UInt8)
  | setRegister (register value : Int)
  | setRegisters (values : Vector Int 16)
  | setStack (values : Vector Int 16)
  | setAwaiting (register : Option Int)
  | setField (field : Field) (value : Int)
  | setTracing (value : Bool)
  | draw (x y : Int) (rows : List Int)
  | clear
  | pixel (x y : Int)
  | litCount
  | press (code : Int)
  | release (code : Int)
  | setKeys (codes : List Int)
  | discard
  | isDown (code : Int)
  | poll
  | markClean
  | picture (foreground background : Ink) (side : Int)

inductive Reply (τ : Type) where
  | nothing
  | flag (value : Bool)
  | number (value : Int)
  | mnemonic (name : String)
  | bytes (bytes : List UInt8)
  | state (console : Console τ)
  | picture (picture : Picture)

namespace Machine

def setField (m : Machine) (value : Int) : Field → Machine
  | .index => { m with index := value }
  | .counter => { m with counter := value }
  | .depth => { m with depth := value }
  | .delay => { m with delay := value }
  | .sound => { m with sound := value }

end Machine

namespace Session

variable {τ : Type} [Duration τ]

open Console (onMachine)

def stepped : Option Instruction → Reply τ
  | some i => .mnemonic i.mnemonic
  | none => .nothing

/-- The machine changed without a reply. -/
def change (f : Machine → Machine) : Console.Action τ (Reply τ) := do
  onMachine (modify f)
  return .nothing

/-- Something done to the machine that answers nothing. -/
def silently (act : Action Unit) : Console.Action τ (Reply τ) := do
  onMachine act
  return .nothing

def perform (around : Surroundings) : Command τ → Console.Action τ (Reply τ)
  | .load program => do Console.load program; return .nothing
  | .install program => silently (.installProgram program)
  | .reset => do Console.reset; return .nothing
  | .resetState => change Machine.resetState
  | .resetPanel => change Machine.resetPanel
  | .resetTimers => do modify fun c => { c with timers := c.timers.reset }; return .nothing
  | .step elapsed => return stepped (← Console.step around elapsed)
  | .stepMachine => return stepped (← onMachine (.step around))
  | .frame elapsed instructions => do
    let _ ← Console.frame around (elapsed.getD Console.frameLength) (instructions.getD Console.instructionsPerFrame)
    return .number (← get).machine.screen.litCount
  | .execute word => silently (.executeWord around word)
  | .resumeOnKey => silently .resumeOnKey
  | .update elapsed => return .number (← Console.update elapsed)
  | .tick => silently .tick
  | .soundActive => return .flag (← get).soundActive
  | .awaitingKey => return .flag (← get).machine.awaiting.isSome
  | .snapshot => return .state (← get)
  | .fetch => return .number (← onMachine .fetch).val
  | .pushReturn address => silently (.pushReturn address)
  | .popReturn => return .number (← onMachine .popReturn)
  | .jump target => silently (.jump target)
  | .skip => silently .skip
  | .checkRange start length => silently (.checkRange start length)
  | .readMemory start length => return .bytes ((← get).machine.memory.read start length)
  | .writeMemory start bytes => change fun m => { m with memory := m.memory.write start bytes }
  | .setRegister register value => silently do
    let x ← Action.slot 16 register
    Action.setRegister x value
  | .setRegisters values => change fun m => { m with registers := values }
  | .setStack values => change fun m => { m with stack := values }
  | .setAwaiting register => change fun m => { m with awaiting := register }
  | .setField field value => change fun m => m.setField value field
  | .setTracing value => change fun m => { m with tracing := value }
  | .draw x y rows => return .flag (← onMachine (.draw around.dialect.bitOrder x y rows))
  | .clear => silently .clearScreen
  | .pixel x y => return .number (if (← get).machine.screen.pixel x y then 1 else 0)
  | .litCount => return .number (← get).machine.screen.litCount
  | .press code => silently (.pressKey code)
  | .release code => silently (.releaseKey code)
  | .setKeys codes => silently (.setKeys codes)
  | .discard => silently .discardPresses
  | .isDown code => return .flag ((← get).machine.keypad.isDown code)
  | .poll => do
    match ← onMachine .pollKey with
    | some code => return .number code
    | none => return .nothing
  | .markClean => change fun m => { m with dirty := false }
  | .picture foreground background side => do
    match (← get).machine.screen.picture? foreground background side with
    | .ok picture => return .picture picture
    | .error e => throw e

/-- What came of a command: a reply or a failure. -/
abbrev Outcome (τ : Type) := Except Failure (Reply τ)

/-- A command carried out on a console, whatever comes of it. -/
def answer (around : Surroundings) (command : Command τ) (c : Console τ) : Outcome τ × Console τ :=
  match perform around command c with
  | .ok reply c => (.ok reply, c)
  | .error e c => (.error e, c)

/-- A whole session: what came of every command, and the console at the end. -/
def run (around : Surroundings) : List (Command τ) → Console τ → List (Outcome τ) × Console τ
  | [], c => ([], c)
  | command :: rest, c =>
    let (outcome, c) := answer around command c
    let (outcomes, c) := run around rest c
    (outcome :: outcomes, c)

end Session

end Chip8
