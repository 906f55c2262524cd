import Chip8.Machine.Execution
import Chip8.Time.Timers

/-!
# The console

A machine with its timers' clock, the program it was given and a count of frames. Resetting brings the program
back. A frame is one advance of the clock and a number of steps.
-/

namespace Chip8

/-- A program that fits into memory. -/
@[ext] structure Program where
  bytes : List UInt8
  fits : bytes.length ≤ programLimit
  deriving DecidableEq

def Program.empty : Program := ⟨[], Nat.zero_le _⟩

structure Console (τ : Type) where
  machine : Machine
  timers : Timers τ
  /-- The program loaded last, which a reset installs again. -/
  program : Program
  frames : Nat
  deriving DecidableEq

namespace Console

variable {τ : Type} [Duration τ] {α : Type}

/-- Something done to a console. -/
abbrev Action (τ : Type) := EStateM Failure (Console τ)

def timerRate : Nat := 60

def instructionsPerFrame : Nat := 10

def framesPerSecond : Nat := 60

/-- A rate that is given and not zero, or else the usual one. -/
def usualUnlessGiven (hz : Option τ) : τ :=
  match hz.filter (!Duration.isZero ·) with
  | some rate => rate
  | none => Duration.ofNat timerRate

/-- A console without a program. The timers tick at the given rate, or at the usual one if there is none or it
is zero. -/
def fresh (hz : Option τ) : Console τ where
  machine := Machine.fresh
  timers := .ofRate (usualUnlessGiven hz)
  program := .empty
  frames := 0

/-- Something done to the console's machine. -/
def onMachine (act : Chip8.Action α) : Action τ α := fun ⟨machine, timers, program, frames⟩ =>
  match act machine with
  | .ok a machine => .ok a ⟨machine, timers, program, frames⟩
  | .error e machine => .error e ⟨machine, timers, program, frames⟩

/-- Power on: everything but the program, the random source and the trace as in a fresh console. -/
def reset : Action τ Unit := do
  onMachine (modify Machine.resetState)
  onMachine (.installProgram (← get).program.bytes)
  modify fun c =>
    { c with
      machine := { c.machine.resetPanel with executed := 0 }
      timers := c.timers.reset
      frames := 0 }
  onMachine (.report .resetComplete)

/-- A program taken in, which has to fit, and the console reset. -/
def load (program : List UInt8) : Action τ Unit := do
  if fits : program.length ≤ programLimit then
    modify fun c => { c with program := ⟨program, fits⟩ }
    reset
  else
    throw (.programTooLarge program.length)

def loadFile (path : String) (program : List UInt8) : Action τ Unit := do
  load program
  onMachine (.report (.programLoaded path program.length))

def times (act : Action τ Unit) : Nat → Action τ Unit
  | 0 => pure ()
  | n + 1 => do act; times act n

/-- The timers count down for the elapsed milliseconds; the number of ticks. -/
def update (elapsed : τ) : Action τ Nat := do
  match (← get).timers.advance elapsed with
  | .error e => throw e
  | .ok (ticks, timers) =>
    modify fun c => { c with timers }
    times (onMachine .tick) ticks
    return ticks

/-- The clock advanced, then one step of the machine. -/
def step (around : Surroundings) (elapsed : τ) : Action τ (Option Instruction) := do
  let _ ← update elapsed
  onMachine (.step around)

/-- The milliseconds of a frame. -/
def frameLength : τ := Duration.ofNat 1000 / Duration.ofNat framesPerSecond

/-- One frame: the clock advanced once, then the given number of steps. The number of ticks it brought. -/
def frame (around : Surroundings) (elapsed : τ) (instructions : Int) : Action τ Nat := do
  let ticks ← update elapsed
  times (do let _ ← step around (Duration.ofNat 0)) instructions.toNat
  modify fun c => { c with frames := c.frames + 1 }
  return ticks

def soundActive (c : Console τ) : Bool := c.machine.sound > 0

/-- The lines reported since the last time, and the console without them. -/
def takeReports (c : Console τ) : List String × Console τ :=
  (c.machine.reports.reverse.map Report.line, { c with machine := { c.machine with reports := [] } })

end Console

end Chip8
