import Chip8.Bits
import Chip8.Failure
import Chip8.Screen.Basic

/-!
# Pictures of the screen

A picture is a rectangle of colours, row by row from the top. The picture of the screen gives lit pixels the
foreground colour and the others the background colour, and repeats every pixel in both directions. Inks are
colours as they are asked for, in integers; an ink that no pixel shows needs no colour. What colour an ink gives and
how a picture is resized is up to a picture library (`Painter`).
-/

namespace Chip8

/-- A colour by its three parts. -/
structure Colour where
  red : UInt8
  green : UInt8
  blue : UInt8
  deriving DecidableEq, Repr

namespace Colour

/-- A part of a colour; what is below zero or above 255 becomes the nearer end. -/
def part (i : Int) : UInt8 := UInt8.ofNat (min i.toNat 255)

def white : Colour := ⟨255, 255, 255⟩

def black : Colour := ⟨0, 0, 0⟩

end Colour

/-- A colour as it is asked for. -/
structure Ink where
  red : Int
  green : Int
  blue : Int
  deriving DecidableEq, Repr

namespace Ink

def white : Ink := ⟨255, 255, 255⟩

def black : Ink := ⟨0, 0, 0⟩

/-- The colour of an ink in the usual picture library. Red may be any integer of sixty-four bits, green and blue of
thirty-two. -/
def colour (ink : Ink) : Except Failure Colour :=
  if Bits.fitsWord 64 ink.red && Bits.fitsWord 32 ink.green && Bits.fitsWord 32 ink.blue then
    .ok ⟨Colour.part ink.red, Colour.part ink.green, Colour.part ink.blue⟩
  else
    .error .numberTooLarge

end Ink

/-- The colours of a picture, row by row from the top. -/
structure Picture where
  rows : List (List Colour)
  deriving DecidableEq, Repr

namespace Picture

def height (p : Picture) : Nat := p.rows.length

/-- The length of the rows. -/
def width (p : Picture) : Nat := (p.rows.head?.map List.length).getD 0

/-- Every element repeated. -/
def stretch {α : Type} (scale : Nat) (l : List α) : List α :=
  l.flatMap (List.replicate scale)

/-- Every pixel repeated in both directions. -/
def enlarge (scale : Nat) (p : Picture) : Picture :=
  ⟨stretch scale (p.rows.map (stretch scale))⟩

/-- The colour at a column and a row, if the picture reaches that far. -/
def get? (p : Picture) (column row : Nat) : Option Colour :=
  p.rows[row]?.bind (·[column]?)

end Picture

namespace Screen

/-- The pixels of one row from the left. -/
def row (s : Screen) (y : Fin 32) : List Bool :=
  (List.finRange 64).map fun x => s.get ⟨x, y⟩

/-- The colour of a lit or an unlit pixel. -/
def paint (foreground background : Colour) (lit : Bool) : Colour :=
  if lit then foreground else background

/-- The screen at its own size. -/
def picture (foreground background : Colour) (s : Screen) : Picture :=
  ⟨(List.finRange 32).map fun y => (s.row y).map (paint foreground background)⟩

end Screen

/-- What a picture library is asked for while a picture is drawn. -/
structure Painter where
  /-- The colour that an ink gives. -/
  colour : Ink → Except Failure Colour
  /-- A picture of the screen made larger by a factor. -/
  resize : Picture → Int → Except Failure Picture

namespace Painter

/-- The most pixels that there is room for. -/
def mostPixels : Nat := 1 <<< 45

/-- A picture of the screen with every pixel repeated, as long as there is room. -/
def resized (p : Picture) (side : Int) : Except Failure Picture :=
  if !Bits.fitsWord 32 (64 * side) then .error .numberTooLarge
  else if side < 1 then .error .emptyPicture
  else if (64 * side.toNat) * (32 * side.toNat) > mostPixels then .error .pictureTooLarge
  else .ok (p.enlarge side.toNat)

/-- The picture library that the program runs with. -/
def usual : Painter := ⟨Ink.colour, resized⟩

end Painter

namespace Screen

/-- The screen in two inks, with every pixel drawn as a square of the given side. The foreground is needed where
a pixel is lit, and the size is changed only where it has to be. -/
def pictureBy (painter : Painter) (foreground background : Ink) (side : Int) (s : Screen) : Except Failure Picture := do
  let background ← painter.colour background
  let foreground ← if s.litCount = 0 then pure background else painter.colour foreground
  if side = 1 then return s.picture foreground background
  else painter.resize (s.picture foreground background) side

def picture? (foreground background : Ink) (side : Int) (s : Screen) : Except Failure Picture :=
  s.pictureBy .usual foreground background side

end Screen

end Chip8
