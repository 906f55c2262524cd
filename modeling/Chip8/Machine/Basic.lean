import Chip8.Dialect
import Chip8.Keypad
import Chip8.Machine.Memory
import Chip8.Machine.Trace
import Chip8.Screen.Basic

/-!
# The machine

The state of one machine. Registers, counters and stack slots hold integers of any size, because a debugger may
write any; `Machine.WellFormed` says what the machine itself keeps to.
-/

namespace Chip8

structure Machine where
  memory : Memory
  registers : Vector Int 16
  /-- The address register. -/
  index : Int
  /-- The address of the next instruction. -/
  counter : Int
  /-- How many return addresses are on the stack. -/
  depth : Int
  stack : Vector Int 16
  delay : Int
  sound : Int
  /-- The register that a key press is awaited for, if the machine is halted on one. -/
  awaiting : Option Int
  screen : Screen
  /-- Whether the screen was drawn on since the flag was last cleared. -/
  dirty : Bool
  keypad : Keypad
  /-- How many random bytes were taken. -/
  drawn : Nat
  executed : Nat
  tracing : Bool
  /-- The reports so far, latest first. -/
  reports : List Report
  deriving DecidableEq

/-- What a machine is given from outside: its dialect and its random bytes. -/
structure Surroundings where
  dialect : Dialect Bool
  random : Nat → UInt8

namespace Machine

/-- A machine without a program. -/
def fresh : Machine where
  memory := Memory.fresh
  registers := Vector.replicate 16 0
  index := 0
  counter := programStart
  depth := 0
  stack := Vector.replicate 16 0
  delay := 0
  sound := 0
  awaiting := none
  screen := Screen.blank
  dirty := true
  keypad := Keypad.idle
  drawn := 0
  executed := 0
  tracing := false
  reports := []

/-- Memory, registers, stack, counters and timers as in a fresh machine. -/
def resetState (m : Machine) : Machine :=
  { m with
    memory := Memory.fresh
    registers := Vector.replicate 16 0
    index := 0
    counter := programStart
    depth := 0
    stack := Vector.replicate 16 0
    delay := 0
    sound := 0
    awaiting := none }

def resetPanel (m : Machine) : Machine :=
  { m with
    screen := Screen.blank
    dirty := true
    keypad := Keypad.idle }

/-- What holds of every machine that only its own operations have touched. -/
structure WellFormed (m : Machine) : Prop where
  registers : ∀ x : Register, 0 ≤ m.registers.get x ∧ m.registers.get x ≤ 255
  index : 0 ≤ m.index ∧ m.index ≤ 4096
  counter : 0 ≤ m.counter ∧ m.counter ≤ 4096
  depth : 0 ≤ m.depth ∧ m.depth ≤ 16
  stack : ∀ i : Fin 16, 0 ≤ m.stack.get i ∧ m.stack.get i ≤ 4096
  delay : 0 ≤ m.delay ∧ m.delay ≤ 255
  sound : 0 ≤ m.sound ∧ m.sound ≤ 255
  awaiting : ∀ x ∈ m.awaiting, 0 ≤ x ∧ x < 16
  pending : m.keypad.pending.length ≤ 16

end Machine

end Chip8
