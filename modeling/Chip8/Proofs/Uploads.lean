import Chip8.Proofs.Footprint
import Chip8.Proofs.Playing

/-!
# The picture in the window

The window shows what was uploaded last. The machine's flag for a screen that was drawn on is honest about that: while
it is off, the upload shows the screen (`Machine.Honest`). Instructions, resets, keys and time keep it honest, and an
upload makes it so again. The bytes are four for every pixel, row by row: those of its colour, and 255. Main statement:
`window_never_stale`, for every time of a play, that is, whatever the console has gone on to do since something was last
noted.
-/

namespace Chip8

open Window (Happening Moment Play Event Host Platform)
open Window.Play (pixelBytes)

/-- The bytes of a row of pixels and the bytes of the screen. -/
def Screen.encoded (screen : Screen) : Nat × List UInt8 := (64 * 4, pixelBytes screen)

namespace Machine

/-- The screen is what was uploaded last, or the machine says that it was drawn on. -/
def Honest (upload : Option (Nat × List UInt8)) (m : Machine) : Prop :=
  m.dirty = false → upload = some m.screen.encoded

variable {upload : Option (Nat × List UInt8)} {around : Surroundings} {m : Machine}

lemma honest_apart (upload : Option (Nat × List UInt8)) : Apart (Honest upload) := fun _ _ _ _ _ _ _ h => h

lemma Honest.effect (h : m.Honest upload) (i : Instruction) : (m.effect around i).Honest upload := by
  cases i with
  | clearScreen => exact nofun
  | draw x y height => exact nofun
  | skip condition =>
    rw [effect_skip]
    exact h
  | loadRegisters last =>
    rw [Machine.effect]
    exact h
  | _ => exact h

lemma honest_step (around : Surroundings) :
    Keeps (fun m => m.WellFormed ∧ m.Honest upload) (Action.step around) := by
  intro m h
  refine ⟨step_keeps_wellFormed around m h.1, ?_⟩
  have hstep := step_stepped around h.1
  generalize Action.step around m = result at hstep
  cases hstep with
  | waited _ => exact (honest_apart upload).resumed h.2
  | ranOut _ _ => exact h.2
  | stopped _ _ _ => exact h.2
  | @executed word i _ _ _ _ =>
    have hfetched : (m.fetched word).Honest upload := h.2
    exact hfetched.effect i

end Machine

section Consoles

variable {τ : Type} {upload : Option (Nat × List UInt8)} {around : Surroundings}

def Console.Honest (upload : Option (Nat × List UInt8)) (c : Console τ) : Prop :=
  c.machine.WellFormed ∧ c.machine.Honest upload

/-- Whether a command makes the console anew. -/
def Command.renews : Command τ → Bool
  | .load _ | .reset => true
  | _ => false

variable [Duration τ]

lemma Console.honest_renewed (c : Console τ) : c.renewed.Honest upload := ⟨c.wellFormed_renewed, nofun⟩

lemma honest_load (program : List UInt8) :
    Keeps (Console.Honest upload) (Console.load program : Console.Action τ Unit) := by
  intro c hc
  obtain hfit | hlarge := le_or_gt program.length programLimit
  · rw [load_of_fits hfit]
    exact Console.honest_renewed _
  · rw [load_of_large hlarge]
    exact hc

lemma honest_loadFile (path : String) (program : List UInt8) :
    Keeps (Console.Honest upload) (Console.loadFile path program : Console.Action τ Unit) := by
  refine keeps_bind (honest_load program) fun _ c hc => ?_
  rw [onMachine_of_ok (Action.report_run _)]
  exact ⟨{ hc.1 with }, hc.2⟩

lemma honest_frame (around : Surroundings) (elapsed : τ) (instructions : Int) :
    Keeps (Console.Honest upload) (Console.frame around elapsed instructions) :=
  keeps_frame (Machine.honest_apart upload).keptAside.ticked (Machine.honest_step around) elapsed instructions

lemma honest_perform (around : Surroundings) {command : Command τ} (hcommand : command.plays ∨ command.renews) :
    Keeps (Console.Honest upload) (Session.perform around command) := by
  obtain hplays | hrenews := hcommand
  · exact keeps_plays (Machine.honest_apart upload).keptAside (Machine.honest_step around) hplays
  · cases command with
    | load program => exact keeps_bind (honest_load program) fun _ => keeps_pure _
    | reset =>
      intro c hc
      rw [Session.perform, bind_of_ok c.reset_run]
      exact c.honest_renewed
    | _ => cases hrenews

end Consoles

namespace Window

variable {τ σ α : Type}

def Happening.upload? : Happening τ → Option (Nat × List UInt8)
  | .called (.updateTexture pitch pixels) => some (pitch, pixels)
  | _ => none

/-- What was uploaded last. The journal begins with the latest moment. -/
def latestUpload (journal : List (Moment τ)) : Option (Nat × List UInt8) :=
  journal.findSome? fun moment => moment.happening.upload?

/-- A moment of a play at which nothing stale is shown. -/
structure Moment.Shows (earlier : List (Moment τ)) (moment : Moment τ) : Prop where
  honest : moment.console.Honest (latestUpload (moment :: earlier))
  copied : moment.happening = .called .copyTexture → latestUpload earlier = some moment.console.machine.screen.encoded

/-- A console after a journal in which nothing stale was shown, the latest moment first. -/
structure UpToDate (console : Console τ) (journal : List (Moment τ)) : Prop where
  honest : console.Honest (latestUpload journal)
  moments : ∀ moment earlier, moment :: earlier <:+ journal → moment.Shows earlier

namespace UpToDate

variable {console : Console τ} {journal : List (Moment τ)}

lemma cons (h : UpToDate console journal) {happening : Happening τ}
    (hupload : ∀ pixels ∈ happening.upload?, pixels = console.machine.screen.encoded)
    (hcopy : happening = .called .copyTexture → console.machine.dirty = false) :
    UpToDate console (⟨happening, console⟩ :: journal) := by
  have hlatest : console.Honest (latestUpload (⟨happening, console⟩ :: journal)) := by
    refine ⟨h.honest.1, fun hclean => ?_⟩
    rw [latestUpload, List.findSome?_cons]
    cases hpixels : happening.upload? with
    | none => exact h.honest.2 hclean
    | some pixels => exact congrArg some (hupload pixels hpixels)
  refine ⟨hlatest, fun moment earlier hsuffix => ?_⟩
  -- Every older moment ends the old journal as well.
  obtain heq | holder := List.suffix_cons_iff.1 hsuffix
  · cases heq
    exact ⟨hlatest, fun hcalled => h.honest.2 (hcopy hcalled)⟩
  · exact h.moments moment earlier holder

end UpToDate

namespace Play

/-- Nothing stale was shown in a play so far, and its console is honest. -/
def Current (p : Play τ σ) : Prop := UpToDate p.console p.journal

/-- The same, and the window has the screen as it is. -/
def Clean (p : Play τ σ) : Prop := p.Current ∧ p.console.machine.dirty = false

lemma Current.withConsole {p : Play τ σ} (h : p.Current) {console : Console τ}
    (hconsole : console.Honest (latestUpload p.journal)) : (p.withConsole console).Current := ⟨hconsole, h.moments⟩

lemma current_unmoved : Unmoved (Current : Play τ σ → Prop) where
  printed _ _ h := h.cons nofun nofun
  taken _ h := h.withConsole ⟨{ h.honest.1 with }, h.honest.2⟩
  stored _ _ h := h
  timed _ _ h := h.cons nofun nofun
  moved _ _ _ _ h := h
  queued _ _ _ _ h := h.cons nofun nofun
  slept _ _ h := h.cons nofun nofun
  called _ call hplain h := by
    cases call with
    | updateTexture pitch pixels => cases hplain
    | copyTexture => cases hplain
    | _ => exact h.cons nofun nofun
  equipped _ _ _ _ h := h

lemma clean_untold : Untold (Clean : Play τ σ → Prop) where
  printed p text h := ⟨current_unmoved.printed p text h.1, h.2⟩
  taken p h := ⟨current_unmoved.taken p h.1, h.2⟩
  stored _ _ h := h

lemma current_onConsole {act : Console.Action τ α} (hact : ∀ upload, Keeps (Console.Honest upload) act) :
    Keeps Current (onConsole act : Action τ σ α) :=
  current_unmoved.onConsole fun _ h => h.withConsole (hact _ _ h.honest)

variable [Duration τ] (s : Host τ σ)

lemma current_handle (event : Event) : Keeps Current (handle s event) := by
  have haside {upload : Option (Nat × List UInt8)} := (Machine.honest_apart upload).keptAside
  apply current_unmoved.handle
  · exact fun p key h => h.withConsole (keeps_onMachine (keeps_pressKey haside.pressed _) p.console h.honest)
  · exact fun p key h => h.withConsole (keeps_onMachine (keeps_releaseKey haside.released _) p.console h.honest)
  · exact fun p h => h.withConsole p.console.honest_renewed
  · exact fun _ h => h
  · exact fun _ _ h => h.cons nofun nofun

omit [Duration τ] in
lemma upload_cleans : Leads Current Clean (upload : Action τ σ Unit) := by
  intro p h
  unfold upload
  rw [get_bind]
  split
  · -- Once the upload is noted, the console is honest even with its flag taken down.
    let uploaded : Play τ σ := p.noted (.called (.updateTexture (64 * 4) (pixelBytes p.console.machine.screen)))
    have huploaded : uploaded.Current := h.cons (by rintro _ ⟨rfl⟩; rfl) nofun
    have hmark : Leads (· = uploaded) Clean
        (onConsole (Console.onMachine (modify fun m => { m with dirty := false })) : Action τ σ Unit) := by
      refine clean_untold.onConsole ?_
      rintro _ rfl
      exact ⟨huploaded.withConsole ⟨{ h.honest.1 with }, fun _ => rfl⟩, rfl⟩
    exact hmark uploaded rfl
  · rename_i hclean
    exact ⟨h, Bool.eq_false_of_not_eq_true hclean⟩

omit [Duration τ] in
lemma clean_paint : Keeps Clean (paint : Action τ σ Unit) := by
  have hcall {c : Call τ} (hupload : (Happening.called c).upload? = none) :
      Keeps Clean (call c : Action τ σ Unit) :=
    fun p h => ⟨h.1.cons (by simp [hupload]) fun _ => h.2, h.2⟩
  refine keeps_bind (hcall rfl) fun _ => keeps_bind (hcall rfl) fun _ => ?_
  exact keeps_bind (hcall rfl) fun _ => hcall rfl

lemma current_frame (lastTime : τ) (events : List Event) : Keeps Current (frame s lastTime events) := by
  have hrest (frameStart : τ) : Keeps Current (do queueTone; pace s frameStart; return frameStart : Action τ σ τ) :=
    keeps_bind current_unmoved.queueTone fun _ => keeps_bind (current_unmoved.pace s frameStart) fun _ => keeps_pure _
  refine keeps_bind (current_unmoved.now s) fun frameStart => ?_
  refine keeps_bind (keeps_forM events (current_handle s)) fun _ => ?_
  refine keeps_bind (current_onConsole fun upload => honest_frame _ _ _) fun ticks => ?_
  refine keeps_bind (fun _ h => h.cons nofun nofun) fun _ => leads_bind upload_cleans (fun p h => h.1) fun _ => ?_
  exact leads_bind clean_paint (fun p h => h.1) fun _ p h => hrest frameStart p h.1

lemma current_run (name : String) (events : List (List Event)) : Keeps Current (run s name events) := by
  refine current_unmoved.run s (fun p program h => h.withConsole ?_) (current_frame s) events
  exact honest_loadFile name program p.console h.honest

end Play

/-- The console as it stood when a journal ended that began with the given one. -/
def standing (start : Console τ) (journal : List (Moment τ)) : Console τ :=
  (journal.getLast?.map Moment.console).getD start

namespace UpToDate

variable {start console : Console τ} {journal before after : List (Moment τ)}

lemma moment (h : UpToDate console journal.reverse) {moment : Moment τ}
    (hjournal : journal = before ++ moment :: after) : moment.Shows before.reverse := by
  apply h.moments
  rw [hjournal, List.reverse_append, List.reverse_cons, List.append_assoc]
  exact List.suffix_append _ _

lemma standing (h : UpToDate console journal.reverse) (hstart : start.Honest none)
    (hjournal : journal = before ++ after) : (Window.standing start before).Honest (latestUpload before.reverse) := by
  obtain rfl | ⟨earlier, moment, rfl⟩ := before.eq_nil_or_concat
  · exact hstart
  · rw [List.concat_eq_append, List.append_assoc] at hjournal
    have hshows := h.moment hjournal
    rw [Window.standing, List.concat_eq_append, List.getLast?_concat, List.reverse_append]
    exact hshows.honest

end UpToDate

end Window

lemma take_drop_flatMap {α β : Type} {f : α → List β} {k : Nat} (hf : ∀ a, (f a).length = k) {l : List α} {i : Nat}
    (hi : i < l.length) : ((l.flatMap f).drop (k * i)).take k = f l[i] := by
  induction l generalizing i with
  | nil => cases hi
  | cons a l ih =>
    rw [List.flatMap_cons]
    cases i with
    | zero => exact List.take_left' (hf a)
    | succ i =>
      rw [Nat.mul_succ, Nat.add_comm, ← List.drop_drop, List.drop_left' (hf a)]
      exact ih _

lemma pixelBytes_cells (screen : Screen) :
    (pixelBytes screen).length = 2048 * 4 ∧ ∀ cell : Cell,
      ((pixelBytes screen).drop (4 * cell.number)).take 4 =
        (let colour := Screen.paint Settings.foreground Settings.background (screen.get cell)
         [colour.red, colour.green, colour.blue, 255]) := by
  constructor
  · unfold pixelBytes
    rw [List.length_flatMap]
    simp only [List.length_cons, List.length_nil, List.map_const', List.sum_replicate, Vector.length_toList]
    rfl
  · intro cell
    have hcell : cell.number.val < screen.pixels.toList.length := by simp
    rw [pixelBytes, take_drop_flatMap (k := 4) (fun _ => rfl) hcell, Vector.getElem_toList]
    rfl

section Runs

variable {τ σ : Type} [Duration τ]

/-- What a console can become by commands that run it, move its keys, let time pass, or load or reset it. -/
def Console.Onward (around : Surroundings) (c d : Console τ) : Prop :=
  ∃ commands : List (Command τ), (∀ command ∈ commands, command.plays ∨ command.renews) ∧
    (Session.run around commands c).2 = d

lemma Console.Honest.onward {upload : Option (Nat × List UInt8)} {around : Surroundings} {c d : Console τ}
    (hc : c.Honest upload) (honward : c.Onward around d) : d.Honest upload := by
  obtain ⟨commands, hcommands, rfl⟩ := honward
  exact keeps_run (fun command hmem => honest_perform around (hcommands command hmem)) hc

/-- Whenever the texture is copied into the window, it was last given the bytes of the screen as it is then, and the
flag is off only while that is so. -/
theorem window_never_stale (platform : Window.Platform τ σ) (random : Nat → UInt8) (clock : σ)
    (events : List (List Event)) (arguments : List String) (disk : Disk) :
    let around : Surroundings := ⟨Dialect.modern, random⟩
    let start : Play τ σ := Play.fresh (arguments.contains "--debug") clock disk
    let journal := (CommandLine.PlayInWindow.run platform random clock events arguments disk).journal
    (∀ before console after, journal = before ++ ⟨.called .copyTexture, console⟩ :: after →
      Window.latestUpload before.reverse = some (64 * 4, pixelBytes console.machine.screen)) ∧
    (∀ before after, journal = before ++ after →
      ∀ console, (Window.standing start.console before).Onward around console → console.machine.dirty = false →
        Window.latestUpload before.reverse = some (64 * 4, pixelBytes console.machine.screen)) ∧
    ∀ screen, (pixelBytes screen).length = 2048 * 4 ∧ ∀ cell : Cell,
      ((pixelBytes screen).drop (4 * cell.number)).take 4 =
        (let colour := Screen.paint Settings.foreground Settings.background (screen.get cell)
         [colour.red, colour.green, colour.blue, 255]) := by
  intro around start journal
  have hstart {upload : Option (Nat × List UInt8)} : start.console.Honest upload :=
    ⟨{ Machine.fresh_wellFormed with }, nofun⟩
  obtain ⟨console, hcurrent⟩ : ∃ console, Window.UpToDate console journal.reverse := by
    have hfresh : start.Current := ⟨hstart, by simp [start, Play.fresh]⟩
    obtain hnone | ⟨name, hrun⟩ : journal = [] ∨ ∃ name, journal = _ :=
      Play.journal_run platform random clock events arguments disk
    · exact ⟨start.console, by rw [hnone]; exact hfresh⟩
    · have hafter := Play.current_run ⟨around, platform⟩ name events start hfresh
      exact ⟨_, by rw [hrun, List.reverse_reverse]; exact hafter⟩
  refine ⟨?_, ?_, pixelBytes_cells⟩
  · intro before console after hjournal
    exact (hcurrent.moment hjournal).copied rfl
  · intro before after hjournal console honward hclean
    exact ((hcurrent.standing hstart hjournal).onward honward).2 hclean

end Runs

end Chip8
