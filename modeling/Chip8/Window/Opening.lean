import Chip8.Window.Basic

/-!
# Opening and closing a window

What a play needs is had from the window system one thing after the other, and given back in the opposite order.
Only the sound device can be done without.
-/

namespace Chip8.Window.Play

variable {τ σ : Type} [Duration τ] {α : Type}

/-- The window's size in pixels. -/
def windowWidth : Nat := 64 * Settings.windowScale

def windowHeight : Nat := 32 * Settings.windowScale

/-- How many samples the sound device takes at a time. -/
def audioBuffer : Nat := 1024

/-- A failed call, told to the user. -/
def complain (s : Host τ σ) (what : String) : Action τ σ Bool := do
  print (what ++ " failed: " ++ s.platform.complaint)
  return false

/-- The keys bound to the codes of their names; a key whose name has no code is told to the user. -/
def bindKeys (s : Host τ σ) : Action τ σ Unit :=
  (Settings.keyNames.zip (List.finRange 16)).forM fun (name, key) =>
    match s.platform.keycode name with
    | some code => modify fun p => { p with bindings := (code, key) :: p.bindings }
    | none => print s!"Unknown key name '{name}' for keypad {Hex.text key.val}"

/-- The sound device, without which the play goes on in silence. -/
def openAudio (s : Host τ σ) : Action τ σ Unit := do
  let device := s.platform.audio?
  call (.openAudio SquareWave.standardRate Code.signedSixteenBits 1 audioBuffer device)
  if device.isSome then
    modify fun p => { p with holdings := { p.holdings with audio := device } }
  else
    let _ ← complain s "Audio device creation"

/-- The texture and what comes after it. -/
def openTexture (s : Host τ σ) : Action τ σ Bool := do
  let made := s.platform.works .texture
  call (.createTexture Code.redGreenBlueAlpha Code.streaming 64 32 made)
  if !made then
    complain s "Texture creation"
  else
    modify fun p => { p with holdings := { p.holdings with texture := true } }
    openAudio s
    bindKeys s
    print "SDL2 initialized successfully"
    return true

/-- The renderer and what comes after it. -/
def openRenderer (s : Host τ σ) : Action τ σ Bool := do
  let made := s.platform.works .renderer
  call (.createRenderer (-1) (Code.accelerated + Code.synchronised) made)
  if !made then
    complain s "Renderer creation"
  else
    modify fun p => { p with holdings := { p.holdings with renderer := true } }
    openTexture s

/-- The window and what comes after it. -/
def openWindow (s : Host τ σ) : Action τ σ Bool := do
  let made := s.platform.works .window
  call (.createWindow "CHIP-8" Code.centred Code.centred windowWidth windowHeight Code.shown made)
  if !made then
    complain s "Window creation"
  else
    modify fun p => { p with holdings := { p.holdings with window := true } }
    openRenderer s

/-- Everything had from the window system, one after the other, as far as it can be had. -/
def start (s : Host τ σ) : Action τ σ Bool := do
  let made := s.platform.works .system
  call (.start (Code.video + Code.audio + Code.events) made)
  if !made then
    complain s "SDL2 initialization"
  else
    openWindow s

/-- A last picture saved, and everything that is held given back: the sound device, then the texture before the
renderer and the renderer before the window. -/
def finish (s : Host τ σ) : Action τ σ Unit := do
  let held := (← get).holdings
  if held.renderer && held.window then
    saveScreenshot s "exit_screenshot.png"
  match held.audio with
  | some device => call (.closeAudio device)
  | none => pure ()
  if held.texture then
    call .destroyTexture
  if held.renderer then
    call .destroyRenderer
  if held.window then
    call .destroyWindow
  modify fun p => { p with holdings := .nothing }
  call .stop

end Chip8.Window.Play
