import Chip8.Window.Frame
import Chip8.Window.Opening

/-!
# A whole play

A program is loaded, the window opened and frames are played. However the play ends, the window is closed.
-/

namespace Chip8.Window.Play

variable {τ σ : Type} [Duration τ] {α : Type}

/-- Something done, and the play finished whatever comes of it. -/
def finishing (s : Host τ σ) (act : Action τ σ α) : Action τ σ α := fun p =>
  match act p with
  | .ok a p =>
    match finish s p with
    | .ok _ p => .ok a p
    | .error e p => .error e p
  | .error e p =>
    match finish s p with
    | .ok _ p => .error e p
    | .error e p => .error e p

/-- A fault told to the user; any other stop goes on. -/
def tellingFaults (act : Action τ σ Bool) : Action τ σ Bool := fun p =>
  match act p with
  | .error (.failed (.fault f)) p => (do print s!"Execution halted: {f.kind.name} {f.text}"; return false) p
  | result => result

/-- What the user is told before the first frame. -/
def greeting : List String :=
  ["Starting emulator...", "Controls:", "  0-9, A-F: Keypad", "  F5: Reset", "  F12: Take screenshot",
    "  Escape: Quit"]

/-- A loaded program played, and whether that went well. -/
def play (s : Host τ σ) (events : List (List Event)) : Action τ σ Bool := do
  if ← start s then
    modify fun p => { p with running := true }
    match (← get).holdings.audio with
    | some device => call (.pauseAudio device 0)
    | none => pure ()
    greeting.forM print
    let time ← now s
    finishing s (tellingFaults do frames s time events; return true)
  else
    finish s
    return false

/-- A program loaded from a file, or the reason why not. -/
def load (name : String) : Action τ σ (Option String) := do
  let p ← get
  match p.disk.read name with
  | .error e => return some (e.text name)
  | .ok program =>
    match Console.loadFile name program p.console with
    | .ok _ console =>
      set { p with console }
      printReports
      return none
    | .error e console =>
      set { p with console }
      return some e.message

/-- A program loaded and played, and whether that went well. -/
def run (s : Host τ σ) (name : String) (events : List (List Event)) : Action τ σ Bool := do
  match ← load name with
  | some reason =>
    print s!"Failed to load program '{name}': {reason}"
    return false
  | none => play s events

/-- A play before anything has happened. -/
def fresh (tracing : Bool) (clock : σ) (disk : Disk) : Play τ σ :=
  let console : Console τ := Console.fresh none
  { console := { console with machine := { console.machine with tracing } }
    wave := SquareWave.standard
    running := false
    clock
    disk
    holdings := .nothing
    bindings := []
    journal := [] }

end Chip8.Window.Play
