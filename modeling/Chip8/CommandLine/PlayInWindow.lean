import Chip8.CommandLine.Finish
import Chip8.Window.Run

/-!
# Playing a program in a window from the command line

The command takes the name of a program file, and `--debug` anywhere to trace the play.
-/

namespace Chip8.CommandLine.PlayInWindow

open Chip8.Window (Event Call Moment Play Platform)

variable {τ σ : Type} [Duration τ]

/-- How the command ended, and all that happened before, earliest first. -/
structure Ending (τ : Type) where
  finish : Finish
  journal : List (Moment τ)

def printed (journal : List (Moment τ)) : List String :=
  journal.filterMap fun moment =>
    match moment.happening with
    | .printed text => some text
    | _ => none

def calls (journal : List (Moment τ)) : List (Call τ) :=
  journal.filterMap fun moment =>
    match moment.happening with
    | .called call => some call
    | _ => none

/-- An end at which nothing had happened but that some lines were printed. -/
def Ending.early (status : Nat) (printed : List String) (disk : Disk) : Ending τ :=
  ⟨⟨.ok status, printed, disk⟩, []⟩

def usage : List String :=
  ["Usage: python main.py [--debug] <program_file>", "Example: python main.py pong.ch8"]

/-- A program played after the settings were described. -/
def play (platform : Platform τ σ) (random : Nat → UInt8) (clock : σ) (events : List (List Event)) (tracing : Bool)
    (name : String) (disk : Disk) : Ending τ :=
  let described := Settings.describe Dialect.modern
  let ending (status : Except Failure Nat) (last : List String) (p : Play τ σ) : Ending τ :=
    ⟨⟨status, described ++ printed p.journal.reverse ++ last, p.disk⟩, p.journal.reverse⟩
  match Play.run ⟨⟨Dialect.modern, random⟩, platform⟩ name events (Play.fresh tracing clock disk) with
  | .ok success p => ending (.ok (if success then 0 else 1)) [] p
  | .error .interrupted p => ending (.ok 0) ["\nEmulator stopped by user"] p
  | .error (.failed e) p => ending (.error e) [] p

def run (platform : Platform τ σ) (random : Nat → UInt8) (clock : σ) (events : List (List Event))
    (arguments : List String) (disk : Disk) : Ending τ :=
  match arguments.erase "--debug" with
  | [name] =>
    if disk.exists? name && !name.toList.contains '\x00' then
      play platform random clock events (arguments.contains "--debug") name disk
    else .early 1 [s!"Program file not found: {name}"] disk
  | _ => .early 1 usage disk

end Chip8.CommandLine.PlayInWindow
