import Chip8.CommandLine.ListProgram
import Chip8.CommandLine.PlayHeadless
import Chip8.Storage.Png

/-!
# The command line

Two commands: `list` prints the listing of a program, `play` plays one without a window. Files are looked at before
the command and pictures are written after it; in between nothing depends on the outside.
-/

namespace Chip8.CommandLine

/-- A path from the root as text. -/
def pathText (path : List String) : String :=
  "/" ++ String.intercalate "/" path

/-- The beginnings of a path, shortest first, where the parts that stand for a folder already entered or left
are resolved. -/
def beginnings (here : List String) (name : String) : List (List String) :=
  let start := if name.startsWith "/" then [] else here
  let paths := (Disk.parts name).foldl (fun paths part =>
    let path := (paths.head?).getD start
    if part = "" ∨ part = "." then paths
    else if part = ".." then path.dropLast :: paths
    else (path ++ [part]) :: paths) []
  paths.reverse

/-- What stands at a path, added to the files and folders known so far. -/
def look (disk : Disk) (path : List String) : IO Disk := do
  let place := (← IO.currentDir) / pathText path
  if ← place.isDir then
    return { disk with folders := path :: disk.folders }
  else if ← place.pathExists then
    return { disk with files := (path, (← IO.FS.readBinFile place).toList) :: disk.files }
  else
    return disk

/-- The files and folders that some names lead through. -/
def survey (names : List String) : IO Disk := do
  let here := (Disk.parts (← IO.currentDir).toString).filter (· ≠ "")
  (names.flatMap (beginnings here)).foldlM look ⟨here, [], [], []⟩

/-- What a command left behind made real: its lines printed and its pictures written. -/
def settle (finish : Finish) : IO UInt32 := do
  for text in finish.printed do
    IO.println text
  for (path, picture) in finish.disk.pictures do
    IO.FS.writeBinFile (pathText path) (Png.encode picture)
  match finish.status with
  | .ok status => return UInt32.ofNat status
  | .error e =>
    IO.eprintln e.message
    return 1

/-- Random bytes that depend on a seed only. -/
def randomBytes (seed : Nat) (position : Nat) : UInt8 :=
  UInt8.ofNat (randNat (mkStdGen (seed + position)) 0 255).1

/-- A time in seconds with three decimals. -/
def secondsText (milliseconds : Nat) : String :=
  let fraction := toString (milliseconds % 1000)
  s!"{milliseconds / 1000}." ++ String.ofList (List.replicate (3 - fraction.length) '0') ++ fraction ++ "s"

/-- Plays a program and measures how long that took. -/
def playMeasured (arguments : List String) : IO UInt32 := do
  let names := match PlayHeadless.request arguments with
    | .ok request => request.program :: request.screenshot.toList
    | .error _ => []
  let disk ← survey names
  let seed ← IO.rand 0 1000000000
  let begun ← IO.monoMsNow
  match PlayHeadless.playRequested Float (randomBytes seed) arguments disk with
  | .error finish => settle finish
  | .ok played =>
    let ended ← IO.monoMsNow
    settle (PlayHeadless.conclude (secondsText (ended - begun)) played disk)

/-- Lists a program. -/
def list (arguments : List String) : IO UInt32 := do
  let names := match ListProgram.request arguments with
    | .ok request => [request.program]
    | .error _ => []
  settle (ListProgram.run arguments (← survey names))

end Chip8.CommandLine

def main (arguments : List String) : IO UInt32 :=
  match arguments with
  | "list" :: rest => Chip8.CommandLine.list rest
  | "play" :: rest => Chip8.CommandLine.playMeasured rest
  | _ => do
    IO.eprintln "usage: list <program> [--count N] | play <program> [options]"
    return Chip8.CommandLine.Finish.misuseStatus.toUInt32
