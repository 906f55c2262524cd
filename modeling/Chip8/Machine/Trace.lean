import Chip8.Instruction.Assembly

/-!
# Traces

What a machine reports about its work while tracing is on, as data and as lines of text.
-/

namespace Chip8

/-- One report. -/
inductive Report where
  /-- A word was fetched from an address. -/
  | fetched (address : Int) (word : Word)
  /-- The machine halted until a key is pressed, which is to go into a register. -/
  | awaitingKey (x : Register)
  /-- A press ended the halt. -/
  | keyStored (code register : Int)
  /-- A key that was up went down. -/
  | keyPressed (code : Int)
  /-- The sound timer came down to zero. -/
  | soundExpired
  /-- The machine was reset and stands at the start of its program. -/
  | resetComplete
  /-- A program was read from a file. -/
  | programLoaded (path : String) (size : Nat)
  deriving DecidableEq, Repr

namespace Report

def line : Report → String
  | .fetched address word => s!"CPU: {Hex.address address}  {word.text}  {word.assembly}"
  | .awaitingKey x => s!"CPU: Waiting for key press into V{Hex.text x.val}"
  | .keyStored code register => s!"CPU: Key {Hex.text code} stored in V{Hex.text register}, resuming"
  | .keyPressed code => s!"KEYPAD: Key {Hex.text code} pressed"
  | .soundExpired => "TIMERS: Sound timer expired"
  | .resetComplete => "CHIP8: Reset complete, PC=0x200"
  | .programLoaded path size => s!"CHIP8: Program '{path}' loaded ({size} bytes)"

theorem line_fetched (address : Int) (word : Word) :
    line (.fetched address word) = "CPU: " ++ Hex.address address ++ "  " ++ word.text ++ "  " ++ word.assembly := rfl

end Report

end Chip8
