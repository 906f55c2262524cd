import Chip8.Console.Basic
import Chip8.Screen.Picture

/-!
# Settings

What the program shows by default: the colours and size of its window, the names of the keys, and the
description of all settings that it prints.
-/

namespace Chip8.Settings

/-- The side of a screen pixel in the window. -/
def windowScale : Nat := 16

/-- The colour of lit pixels. -/
def foreground : Colour := .white

/-- The colour of unlit pixels. -/
def background : Colour := .black

/-- The names of the keys, in the order of their numbers. -/
def keyNames : List String :=
  ["0", "1", "2", "3", "4", "5", "6", "7", "8", "9", "A", "B", "C", "D", "E", "F"]

/-- The names of a dialect's settings that are on. -/
def enabled (d : Dialect Bool) : List String :=
  (d.settings.filter Prod.snd).map Prod.fst

/-- The description of the settings, line by line. -/
def describe (d : Dialect Bool) : List String :=
  let chosen := match enabled d with
    | [] => "none"
    | names => String.intercalate ", " names
  ["CHIP-8 configuration:",
    "  Quirks: " ++ chosen,
    s!"  Timing: {Console.timerRate} Hz timers, {Console.instructionsPerFrame} instructions/frame, " ++
      s!"{Console.framesPerSecond} fps",
    s!"  Display: scale x{windowScale}"]

end Chip8.Settings
