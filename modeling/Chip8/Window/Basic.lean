import Chip8.Settings
import Chip8.Sound.SquareWave
import Chip8.Window.Platform

/-!
# A play in a window

The state of a play and the elementary things done in it. Everything that happens is written into a journal, with
the console as it stood then.
-/

namespace Chip8.Window

inductive Happening (τ : Type) where
  | called (call : Call τ)
  | printed (text : String)
  | handled (event : Event)
  | readClock (time : τ)
  /-- The console completed a frame that began at some time, and the timers ticked so many times. -/
  | framed (begun : τ) (ticks : Nat)
  deriving DecidableEq, Repr

/-- Something that happened, and the console right after it. -/
structure Moment (τ : Type) where
  happening : Happening τ
  console : Console τ
  deriving DecidableEq

/-- What was had from the window system and not yet given back. -/
structure Holdings where
  window : Bool
  renderer : Bool
  texture : Bool
  audio : Option Nat
  deriving DecidableEq, Repr

def Holdings.nothing : Holdings := ⟨false, false, false, none⟩

structure Play (τ σ : Type) where
  console : Console τ
  wave : SquareWave
  running : Bool
  clock : σ
  disk : Disk
  holdings : Holdings
  /-- The keys by the codes that the window system gives them, the one bound last in front. -/
  bindings : List (Int × Key)
  /-- What happened, latest first. -/
  journal : List (Moment τ)

/-- Why a play does not go on. -/
inductive Stop where
  | interrupted
  | failed (failure : Failure)
  deriving DecidableEq, Repr

variable {τ σ : Type} [Duration τ] {α : Type}

abbrev Action (τ σ : Type) := EStateM Stop (Play τ σ)

/-- What a play is given from outside: a dialect, a random source, a window system and a picture library. -/
structure Host (τ σ : Type) where
  around : Surroundings
  platform : Platform τ σ

namespace Play

/-- Something written into the journal. -/
def note (happening : Happening τ) : Action τ σ Unit :=
  modify fun p => { p with journal := ⟨happening, p.console⟩ :: p.journal }

def print (text : String) : Action τ σ Unit := note (.printed text)

def call (c : Call τ) : Action τ σ Unit := note (.called c)

/-- The lines that the console has reported, printed. -/
def printReports : Action τ σ Unit := do
  let (lines, console) := (← get).console.takeReports
  modify fun p => { p with console }
  lines.forM print

def onConsole (act : Console.Action τ α) : Action τ σ α := do
  let p ← get
  match act p.console with
  | .ok a console =>
    set { p with console }
    printReports
    return a
  | .error e console =>
    set { p with console }
    printReports
    throw (.failed e)

def now (s : Host τ σ) : Action τ σ τ := do
  let (time, clock) := s.platform.clock.read (← get).clock
  modify fun p => { p with clock }
  note (.readClock time)
  return time

/-- A value, or the end of the play where there is none. -/
def demand (value : Except Failure α) : Action τ σ α :=
  match value with
  | .ok a => pure a
  | .error e => throw (.failed e)

def saveScreenshot (s : Host τ σ) (name : String) : Action τ σ Unit := do
  let p ← get
  let picture := (p.console.machine.screen.picture Settings.foreground Settings.background).enlarge
    Settings.windowScale
  match s.platform.save p.disk name picture with
  | .ok disk =>
    modify fun p => { p with disk }
    print s!"Screenshot saved as: {name}"
  | .error e =>
    match e.toldAs name with
    | .ok reason => print s!"Error taking screenshot: {reason}"
    | .error e => throw (.failed e)

end Play

end Chip8.Window
