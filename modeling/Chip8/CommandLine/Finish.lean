import Chip8.Failure
import Chip8.Storage.Disk

/-!
# How a command ends

A command leaves behind what it printed, the files as they are then, and a status: zero for success. A failure
that the command does not handle stands in place of the status.
-/

namespace Chip8.CommandLine

structure Finish where
  status : Except Failure Nat
  /-- What was printed, each text followed by a line end. -/
  printed : List String
  disk : Disk

namespace Finish

/-- The status of a command line that does not fit its command. -/
def misuseStatus : Nat := 2

/-- An end without anything printed. -/
def silent (status : Except Failure Nat) (disk : Disk) : Finish := ⟨status, [], disk⟩

end Finish

end Chip8.CommandLine
