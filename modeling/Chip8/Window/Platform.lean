import Chip8.Storage.PictureFile
import Chip8.Time.Duration

/-!
# The window system

The calls that a program makes to the window system, and what the window system gives back: which of its
facilities can be had, the codes of named keys, the events between frames, and a clock. Beside it stands the picture
library, which saves pictures of the window.
-/

namespace Chip8.Window

/-- What happens at the window between two frames. -/
inductive Event where
  | close
  | keyDown (keycode : Int)
  | keyUp (keycode : Int)
  /-- An event of another kind. -/
  | other
  /-- The user stops the program from outside. -/
  | interrupt
  deriving DecidableEq, Repr

/-- What has to be had from the window system before a program can be shown. -/
inductive Facility where
  | system
  | window
  | renderer
  | texture
  | audio
  deriving DecidableEq, Repr

/-- A clock with a state: it can be read, and it can be waited on. -/
structure Clock (τ σ : Type) where
  read : σ → τ × σ
  sleep : τ → σ → σ

/-- A clock that every reading moves on by the next of a round of ticks. -/
structure Ticking (τ : Type) where
  now : τ
  /-- The ticks still to come in this round. -/
  ahead : List τ
  /-- The ticks of a whole round. -/
  round : List τ

namespace Ticking

variable {τ : Type} [Duration τ]

/-- The present time, and the clock moved on. -/
def read (t : Ticking τ) : τ × Ticking τ :=
  match t.ahead, t.round with
  | tick :: ahead, _ => (t.now, { t with now := t.now + tick, ahead })
  | [], tick :: ahead => (t.now, { t with now := t.now + tick, ahead })
  | [], [] => (t.now, t)

/-- The clock after some time has passed. -/
def sleep (time : τ) (t : Ticking τ) : Ticking τ :=
  { t with now := t.now + time }

/-- Ticking clocks as clocks. -/
def clock : Clock τ (Ticking τ) := ⟨read, sleep⟩

end Ticking

/-- What the window system and the picture library give back. -/
structure Platform (τ σ : Type) where
  works : Facility → Bool
  /-- What the window system says about the latest call that failed. -/
  complaint : String
  /-- The code of a named key, if the name is known. -/
  keycode : String → Option Int
  clock : Clock τ σ
  /-- The number of the sound device. Zero stands for none. -/
  audioDevice : Nat := 2
  save : PictureFile.Saving := PictureFile.save

/-- The sound device, if it can be had. -/
def Platform.audio? {τ σ : Type} (p : Platform τ σ) : Option Nat :=
  if p.works .audio && p.audioDevice != 0 then some p.audioDevice else none

/-- One call to the window system. Calls that make something say whether it was made, or which one. -/
inductive Call (τ : Type) where
  | start (flags : Nat) (made : Bool)
  | createWindow (title : String) (x y width height flags : Nat) (made : Bool)
  | createRenderer (index : Int) (flags : Nat) (made : Bool)
  | createTexture (format access width height : Nat) (made : Bool)
  | openAudio (sampleRate : Int) (format channels samples : Nat) (device : Option Nat)
  | pauseAudio (device pause : Nat)
  | updateTexture (pitch : Nat) (pixels : List UInt8)
  | setDrawColour (red green blue alpha : Nat)
  | clear
  | copyTexture
  | present
  | queueAudio (device : Nat) (samples : List UInt8)
  | closeAudio (device : Nat)
  | destroyTexture
  | destroyRenderer
  | destroyWindow
  | stop
  | sleep (seconds : τ)
  deriving DecidableEq, Repr

namespace Code

/-! The numbers by which the window system knows things. -/

def video : Nat := 0x20
def audio : Nat := 0x10
def events : Nat := 0x4000
def centred : Nat := 0x2FFF0000
def shown : Nat := 4
def accelerated : Nat := 2
def synchronised : Nat := 4
def redGreenBlueAlpha : Nat := 376840196
def streaming : Nat := 1
def signedSixteenBits : Nat := 0x8010
def escape : Int := 27
def f5 : Int := 1073741886
def f12 : Int := 1073741893

end Code

end Chip8.Window
