import Chip8.CommandLine.Arguments
import Chip8.CommandLine.Finish
import Chip8.Keypad.KeyList
import Chip8.Settings
import Chip8.Storage.PictureFile

/-!
# Playing a program without a window

The command loads a program, holds some keys down, plays a number of frames, saves a picture of the screen if
asked to, and prints a summary. A fault ends the play early and gives status one, as does a picture that cannot be
saved.
-/

namespace Chip8.CommandLine.PlayHeadless

def specs : List OptionSpec :=
  [⟨"--frames", true⟩, ⟨"--ipf", true⟩, ⟨"--keys", true⟩, ⟨"--screenshot", true⟩, ⟨"--legacy-shift", false⟩,
    ⟨"--lsb-left", false⟩, ⟨"--debug", false⟩]

/-- What the options of the command come to. A number that an option left out is none. -/
structure Options where
  frames : Option Int
  instructionsPerFrame : Option Int
  keys : List Key
  screenshot : Option String
  dialect : Dialect Bool
  tracing : Bool
  deriving DecidableEq, Repr

structure Request extends Options where
  program : String
  deriving DecidableEq, Repr

namespace Options

def usual : Options where
  frames := some 60
  instructionsPerFrame := some Console.instructionsPerFrame
  keys := []
  screenshot := none
  dialect := Dialect.modern
  tracing := false

def heldKeys (given : Given) : Except Refusal (List Key) :=
  match KeyList.read (given.value.getD "") with
  | .ok keys => .ok keys
  | .error _ => .error .misuse

/-- Options with one more; of a repeated option the last one counts, but each has to be sound. -/
def take (options : Options) (given : Given) : Except Refusal Options :=
  match given.name with
  | "--frames" => return { options with frames := ← integer given }
  | "--ipf" => return { options with instructionsPerFrame := ← integer given }
  | "--keys" => return { options with keys := ← heldKeys given }
  | "--screenshot" => .ok { options with screenshot := given.value }
  | "--legacy-shift" => .ok { options with dialect := { options.dialect with shiftUsesVy := true } }
  | "--lsb-left" => .ok { options with dialect := { options.dialect with spriteLsbLeft := true } }
  | "--debug" => .ok { options with tracing := true }
  | _ => .error .misuse

end Options

def request (arguments : List String) : Except Refusal Request := do
  let (program, options) ← parse specs Options.take Options.usual arguments
  return { options with program }

variable {τ : Type} [Duration τ]

/-- The console before the program is loaded. -/
def start (request : Request) : Console τ :=
  let console : Console τ := Console.fresh none
  { console with machine := { console.machine with tracing := request.tracing } }

/-- One frame of the usual length. A number of instructions that was left out is missed once the clock has
advanced. -/
def frame (around : Surroundings) (request : Request) : Console.Action τ Unit :=
  match request.instructionsPerFrame with
  | some instructions => do let _ ← Console.frame around Console.frameLength instructions
  | none => do
    let _ ← Console.update (Console.frameLength : τ)
    throw .missingNumber

/-- The keys held down and the frames played. -/
def play (around : Surroundings) (request : Request) : Console.Action τ Unit := do
  Console.onMachine (.setKeys (request.keys.map fun key => (key.val : Int)))
  match request.frames with
  | some frames => Console.times (frame around request) frames.toNat
  | none => throw .missingNumber

def halted (f : Fault) : String := s!"Execution halted: {f.kind.name} {f.text}"

theorem halted_eq (f : Fault) : halted f = "Execution halted: " ++ f.kind.name ++ " " ++ f.text := rfl

def truth (value : Bool) : String := if value then "True" else "False"

def summary (elapsed : String) (c : Console τ) : String :=
  s!"Headless run complete: frames={c.frames}, instructions={c.machine.executed}, " ++
    s!"PC=0x{Hex.address c.machine.counter}, waiting_for_key={truth c.machine.awaiting.isSome}, " ++
    s!"lit_pixels={c.machine.screen.litCount}, elapsed={elapsed}"

omit [Duration τ] in
theorem summary_eq (elapsed : String) (c : Console τ) :
    summary elapsed c =
      "Headless run complete: frames=" ++ toString c.frames ++ ", instructions=" ++ toString c.machine.executed ++
        ", " ++ ("PC=0x" ++ Hex.address c.machine.counter ++ ", waiting_for_key=" ++
        (if c.machine.awaiting.isSome then "True" else "False") ++ ", ") ++
        ("lit_pixels=" ++ toString c.machine.screen.litCount ++ ", elapsed=" ++ elapsed) := rfl

def screenshot (c : Console τ) : Picture :=
  (c.machine.screen.picture Settings.foreground Settings.background).enlarge Settings.windowScale

/-- The name that a picture is to be saved under, if it is not empty. -/
def screenshotName (request : Request) : Option String :=
  request.screenshot.filter (· ≠ "")

structure Played (τ : Type) where
  request : Request
  /-- What was printed until then. -/
  printed : List String
  status : Nat
  console : Console τ

/-- A request's program loaded and played, or the end of the command where it comes to none. -/
def attempt (random : Nat → UInt8) (request : Request) (disk : Disk) : Except Finish (Played τ) :=
  let refused (reason : String) : Finish :=
    ⟨.ok 1, [s!"Failed to load program: {request.program}: {reason}"], disk⟩
  if request.program.toList.contains '\x00' then .error (.silent (.error .zeroInName) disk)
  else match disk.read request.program with
    | .error e => .error (refused (e.text request.program))
    | .ok program =>
      match Console.loadFile request.program program (start request : Console τ) with
      | .error e _ => .error (refused e.message)
      | .ok _ c =>
        match play ⟨request.dialect, random⟩ request c with
        | .ok _ c => .ok ⟨request, c.takeReports.1, 0, c⟩
        | .error (.fault f) c => .ok ⟨request, c.takeReports.1 ++ [halted f], 1, c⟩
        | .error e c => .error ⟨.error e, c.takeReports.1, disk⟩

/-- What follows a play: the picture, if one is asked for, and the summary. The time it took is given as text. -/
def conclude (elapsed : String) (played : Played τ) (disk : Disk) (save : PictureFile.Saving := PictureFile.save) :
    Finish :=
  let last := summary elapsed played.console
  match screenshotName played.request with
  | none => ⟨.ok played.status, played.printed ++ [last], disk⟩
  | some name =>
    match save disk name (screenshot played.console) with
    | .ok disk => ⟨.ok played.status, played.printed ++ [s!"Screenshot saved as: {name}", last], disk⟩
    | .error e =>
      match e.toldAs name with
      | .ok reason => ⟨.ok 1, played.printed ++ [s!"Error taking screenshot: {reason}", last], disk⟩
      | .error e => ⟨.error e, played.printed, disk⟩

/-- The request of a command line played, or the end of the command where it comes to none. -/
def playRequested (τ : Type) [Duration τ] (random : Nat → UInt8) (arguments : List String) (disk : Disk) :
    Except Finish (Played τ) :=
  match request arguments with
  | .error .help => .error (.silent (.ok 0) disk)
  | .error .misuse => .error (.silent (.ok Finish.misuseStatus) disk)
  | .ok request => attempt random request disk

def run (τ : Type) [Duration τ] (random : Nat → UInt8) (elapsed : String) (arguments : List String) (disk : Disk)
    (save : PictureFile.Saving := PictureFile.save) : Finish :=
  match playRequested τ random arguments disk with
  | .error finish => finish
  | .ok played => conclude elapsed played disk save

end Chip8.CommandLine.PlayHeadless
