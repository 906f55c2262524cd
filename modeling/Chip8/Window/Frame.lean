import Chip8.Window.Basic

/-!
# The frames of a play

In each frame the events since the last one are handled, the console runs a frame, the screen is uploaded if it
changed, the window is painted, the tone is queued, and the rest of the frame's time is slept away.
-/

namespace Chip8.Window.Play

variable {τ σ : Type} [Duration τ] {α : Type}

/-! ## Events -/

def keyDown (s : Host τ σ) (keycode : Int) : Action τ σ Unit := do
  if keycode = Code.escape then
    modify fun p => { p with running := false }
  else if keycode = Code.f5 then
    onConsole Console.reset
    print "Reset CHIP-8"
  else if keycode = Code.f12 then
    let seconds ← demand (Duration.truncate (← now s))
    saveScreenshot s s!"screenshot_{seconds}.png"
  else
    match (← get).bindings.lookup keycode with
    | some key => onConsole (Console.onMachine (.pressKey key.val))
    | none => pure ()

def keyUp (keycode : Int) : Action τ σ Unit := do
  match (← get).bindings.lookup keycode with
  | some key => onConsole (Console.onMachine (.releaseKey key.val))
  | none => pure ()

def handle (s : Host τ σ) (event : Event) : Action τ σ Unit := do
  match event with
  | .close => modify fun p => { p with running := false }
  | .keyDown keycode => keyDown s keycode
  | .keyUp keycode => keyUp keycode
  | .other => pure ()
  | .interrupt => throw .interrupted
  note (.handled event)

/-! ## Frames -/

/-- The bytes of the screen as the window system takes them: four for every pixel, the last one full. -/
def pixelBytes (screen : Screen) : List UInt8 :=
  screen.pixels.toList.flatMap fun lit =>
    let colour := Screen.paint Settings.foreground Settings.background lit
    [colour.red, colour.green, colour.blue, 255]

/-- The screen uploaded, if it changed since the last time. -/
def upload : Action τ σ Unit := do
  if (← get).console.machine.dirty then
    call (.updateTexture (64 * 4) (pixelBytes (← get).console.machine.screen))
    onConsole (Console.onMachine (modify fun m => { m with dirty := false }))

def paint : Action τ σ Unit := do
  call (.setDrawColour 0 0 0 255)
  call .clear
  call .copyTexture
  call .present

/-- The tone of one frame queued, if there is a sound device and a tone. -/
def queueTone : Action τ σ Unit := do
  let p ← get
  match p.holdings.audio with
  | none => pure ()
  | some device =>
    let (samples, wave) := p.wave.frame p.console.soundActive Console.framesPerSecond
    modify fun p => { p with wave }
    match samples with
    | .error e => throw (.failed e)
    | .ok [] => pure ()
    | .ok samples => call (.queueAudio device samples)

def frameTime : τ := Duration.ofNat 1 / Duration.ofNat Console.framesPerSecond

/-- The shortest time that is worth sleeping. -/
def shortestSleep : τ := Duration.ofNat 1 / Duration.ofNat 1000

/-- The rest of a frame's time slept away. -/
def pace (s : Host τ σ) (frameStart : τ) : Action τ σ Unit := do
  let duration := (← now s) - frameStart
  if duration < frameTime then
    let rest : τ := frameTime - duration
    if shortestSleep < rest then
      modify fun p => { p with clock := s.platform.clock.sleep rest p.clock }
      call (.sleep rest)

/-- One frame with the events that came before it; the time at which it began. -/
def frame (s : Host τ σ) (lastTime : τ) (events : List Event) : Action τ σ τ := do
  let frameStart ← now s
  events.forM (handle s)
  let elapsed := (frameStart - lastTime) * Duration.ofNat 1000
  let ticks ← onConsole (Console.frame s.around elapsed Console.instructionsPerFrame)
  note (.framed frameStart ticks)
  upload
  paint
  queueTone
  pace s frameStart
  return frameStart

/-- Frames while the play is running. When there are no more events the window is closed. -/
def frames (s : Host τ σ) (lastTime : τ) : List (List Event) → Action τ σ Unit
  | [] => do
    if (← get).running then
      let _ ← frame s lastTime [.close]
  | events :: rest => do
    if (← get).running then
      let time ← frame s lastTime events
      frames s time rest

end Chip8.Window.Play
