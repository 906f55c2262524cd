import Chip8.CommandLine.Arguments
import Chip8.CommandLine.Finish
import Chip8.Instruction.Listing
import Chip8.Machine.Memory

/-!
# Listing a program from the command line

The command reads a program file and prints its listing, or with `--count` that of its first words only.
-/

namespace Chip8.CommandLine.ListProgram

def specs : List OptionSpec := [⟨"--count", true⟩]

/-- How much of a program is listed. -/
inductive Extent where
  | whole
  /-- So many words; below zero, all but so many. -/
  | words (count : Int)
  /-- A number of words that was not said. -/
  | unsaid
  deriving DecidableEq, Repr

structure Request where
  program : String
  extent : Extent
  deriving DecidableEq, Repr

/-- An extent as an option gives it; of a repeated option the last one counts, but each has to be sound. -/
def Extent.take (_ : Extent) (given : Given) : Except Refusal Extent := do
  match ← integer given with
  | some count => return .words count
  | none => return .unsaid

def request (arguments : List String) : Except Refusal Request := do
  let (program, extent) ← parse specs Extent.take .whole arguments
  return ⟨program, extent⟩

/-- The lines printed for a program. -/
def lines (count : Option Int) (program : List UInt8) : List String :=
  Listing.lines programStart (match count with
    | some count => Listing.cut count program
    | none => program)

/-- The end of a command that has read its program. -/
def listed (extent : Extent) (program : List UInt8) (disk : Disk) : Finish :=
  match extent with
  | .whole => ⟨.ok 0, lines none program, disk⟩
  | .words count => ⟨.ok 0, lines (some count) program, disk⟩
  | .unsaid => .silent (.error .missingNumber) disk

def run (arguments : List String) (disk : Disk) : Finish :=
  match request arguments with
  | .error .help => .silent (.ok 0) disk
  | .error .misuse => .silent (.ok Finish.misuseStatus) disk
  | .ok request =>
    if request.program.toList.contains '\x00' then .silent (.error .zeroInName) disk
    else match disk.read request.program with
      | .error e => ⟨.ok 1, [s!"Cannot read {request.program}: {e.text request.program}"], disk⟩
      | .ok program => listed request.extent program disk

end Chip8.CommandLine.ListProgram
