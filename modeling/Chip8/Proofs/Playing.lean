import Chip8.CommandLine.PlayInWindow
import Chip8.Proofs.Reset

/-!
# What plays keep

A play is put together from things noted in its journal, things done to its console, and changes of what else it holds.
A property that only the console and the painting of the window can touch is kept by all that comes before the first
frame and after the last one. Main statements: `ends_frames` for any number of frames, and `leads_play` for a play
from the opening of the window to its end, however it ends.
-/

namespace Chip8

/-- A frame of the wave changes nothing but its phase. -/
lemma SquareWave.rewind_frame (active : Bool) (framesPerSecond : Int) (w : SquareWave) :
    (w.frame active framesPerSecond).2.rewind = w.rewind := by
  have hsamples (done : List Int) (n : Nat) (w : SquareWave) : (samplesOnto done n w).2.rewind = w.rewind := by
    induction n generalizing done w with
    | zero => rfl
    | succ n ih => exact ih _ w.next
  unfold frame
  split
  · rfl
  · rename_i bytes next hframe
    have hnext : next.rewind = w.rewind := by
      unfold frameSamples samples at hframe
      split at hframe
      · cases hframe
        rfl
      · split at hframe
        · cases hframe
        · split at hframe
          · cases hframe
          · cases hframe
            exact hsamples _ _ _
    split
    · exact hnext
    · exact hnext

namespace Window

/-- Whether an event lets the frame that it came before be the last one. -/
def Event.closes (event : Event) : Bool := event = .close ∨ event = .keyDown Code.escape

/-- Whether a happening is a line told to the user. -/
def Happening.prints {τ : Type} : Happening τ → Bool
  | .printed _ => true
  | _ => false

/-- What happened last, apart from lines told to the user. -/
def lastDeed {τ : Type} (journal : List (Moment τ)) : Option (Moment τ) :=
  journal.reverse.find? fun moment => !moment.happening.prints

/-- Every moment of a journal stands in a relation to what was before it and what came after it. -/
def Throughout {τ : Type} (R : List (Moment τ) → Moment τ → List (Moment τ) → Prop) (journal : List (Moment τ)) :
    Prop :=
  ∀ before moment after, journal = before ++ moment :: after → R before moment after

lemma throughout_concat {τ : Type} {R : List (Moment τ) → Moment τ → List (Moment τ) → Prop} {journal : List (Moment τ)}
    {last : Moment τ} :
    Throughout R (journal ++ [last]) ↔
      Throughout (fun before moment after => R before moment (after ++ [last])) journal ∧ R journal last [] := by
  constructor
  · refine fun h => ⟨fun before moment after hsplit => h before moment (after ++ [last]) ?_, h journal last [] rfl⟩
    rw [hsplit, List.append_assoc]
    rfl
  · rintro ⟨hearlier, hlast⟩ before moment after hsplit
    obtain rfl | ⟨rest, latest, hafter⟩ := after.eq_nil_or_concat
    · obtain ⟨rfl, heq⟩ := List.append_inj' hsplit rfl
      cases heq
      exact hlast
    · rw [List.concat_eq_append] at hafter
      subst hafter
      rw [← List.cons_append, ← List.append_assoc] at hsplit
      obtain ⟨hrest, heq⟩ := List.append_inj' hsplit rfl
      cases heq
      exact hearlier before moment rest hrest

/-- Whether a call puts something into the window. -/
def Call.paints {τ : Type} : Call τ → Bool
  | .updateTexture .. | .setDrawColour .. | .clear | .copyTexture | .present => true
  | _ => false

namespace Play

variable {τ σ α : Type} {P Q : Play τ σ → Prop}

def noted (happening : Happening τ) (p : Play τ σ) : Play τ σ :=
  { p with journal := ⟨happening, p.console⟩ :: p.journal }

def withConsole (p : Play τ σ) (console : Console τ) : Play τ σ := { p with console }

lemma journal_noted (p : Play τ σ) (happening : Happening τ) :
    (p.noted happening).journal.reverse = p.journal.reverse ++ [⟨happening, p.console⟩] := List.reverse_cons

/-- What was noted last is no line, and shows the console as it is. -/
def Poised (p : Play τ σ) : Prop :=
  ∃ happening earlier, p.journal = ⟨happening, p.console⟩ :: earlier ∧ happening.prints = false

lemma poised_noted (p : Play τ σ) {happening : Happening τ} (hdeed : happening.prints = false) :
    (p.noted happening).Poised := ⟨happening, p.journal, rfl, hdeed⟩

lemma lastDeed_noted (p : Play τ σ) (happening : Happening τ) :
    lastDeed (p.noted happening).journal.reverse =
      if happening.prints then lastDeed p.journal.reverse else some ⟨happening, p.console⟩ := by
  rw [lastDeed, lastDeed, List.reverse_reverse, List.reverse_reverse, noted, List.find?_cons]
  cases happening.prints <;> rfl

lemma Poised.lastDeed {p : Play τ σ} (h : p.Poised) :
    ∃ happening, lastDeed p.journal.reverse = some ⟨happening, p.console⟩ := by
  obtain ⟨happening, earlier, hjournal, hdeed⟩ := h
  refine ⟨happening, ?_⟩
  rw [Window.lastDeed, List.reverse_reverse, hjournal, List.find?_cons_of_pos (by simp [hdeed])]

lemma printReports_run (p : Play τ σ) :
    printReports p = p.console.takeReports.1.forM print (p.withConsole p.console.takeReports.2) := rfl

lemma onConsole_of_ok {act : Console.Action τ α} {p : Play τ σ} {a : α} {c : Console τ}
    (hact : act p.console = .ok a c) :
    onConsole act p = (printReports >>= fun _ => pure a : Action τ σ α) (p.withConsole c) := by
  unfold onConsole
  rw [get_bind, hact]
  rfl

lemma onConsole_of_error {act : Console.Action τ α} {p : Play τ σ} {e : Failure} {c : Console τ}
    (hact : act p.console = .error e c) :
    onConsole act p = (printReports >>= fun _ => throw (.failed e) : Action τ σ α) (p.withConsole c) := by
  unfold onConsole
  rw [get_bind, hact]
  rfl

/-- What an event does, before it is noted as handled. -/
def react [Duration τ] (s : Host τ σ) (event : Event) : Action τ σ Unit :=
  match event with
  | .close => modify fun p => { p with running := false }
  | .keyDown keycode => keyDown s keycode
  | .keyUp keycode => keyUp keycode
  | .other => pure ()
  | .interrupt => throw .interrupted

lemma handle_eq [Duration τ] (s : Host τ σ) (event : Event) :
    handle s event = react s event >>= fun _ => note (.handled event) := by
  cases event <;> rfl

lemma keeps_demand (value : Except Failure α) : Keeps Q (demand value : Action τ σ α) := by
  cases value with
  | ok a => exact keeps_pure a
  | error e => exact keeps_throw _

/-- A property of plays that the telling of things to the user leaves alone. -/
structure Untold (Q : Play τ σ → Prop) : Prop where
  printed : ∀ p text, Q p → Q (p.noted (.printed text))
  taken : ∀ p, Q p → Q (p.withConsole p.console.takeReports.2)
  stored : ∀ p disk, Q p → Q { p with disk }

namespace Untold

variable (h : Untold Q)

include h

lemma print (text : String) : Keeps Q (Play.print text) := fun p => h.printed p text

lemma printReports : Keeps Q Play.printReports := by
  intro p hp
  rw [printReports_run]
  exact keeps_forM _ h.print _ (h.taken p hp)

lemma onConsole {act : Console.Action τ α} (hact : ∀ p, P p → Q (p.withConsole (ending (act p.console)))) :
    Leads P Q (Play.onConsole act) := by
  intro p hp
  have hafter := hact p hp
  cases hrun : act p.console with
  | ok a c =>
    rw [hrun] at hafter
    rw [onConsole_of_ok hrun]
    exact keeps_bind h.printReports (fun _ => keeps_pure a) _ hafter
  | error e c =>
    rw [hrun] at hafter
    rw [onConsole_of_error hrun]
    exact keeps_bind h.printReports (fun _ => keeps_throw _) _ hafter

/-- The screen goes up to the texture, and the console's flag for it comes down. -/
lemma upload (hcalled : ∀ p pixels, Q p → Q (p.noted (.called (.updateTexture (64 * 4) pixels))))
    (hmark : ∀ p, Q p →
      Q (p.withConsole (ending (Console.onMachine (modify fun m => { m with dirty := false }) p.console)))) :
    Keeps Q (Play.upload : Action τ σ Unit) := by
  refine keeps_bind keeps_get fun p => ?_
  split
  · exact keeps_bind keeps_get fun _ => keeps_bind (fun p => hcalled p _) fun _ => h.onConsole hmark
  · exact keeps_pure _

lemma saveScreenshot (s : Host τ σ) (name : String) : Keeps Q (Play.saveScreenshot s name) := by
  refine keeps_bind keeps_get fun p => ?_
  dsimp only
  split
  · exact keeps_bind (keeps_modify fun p => h.stored p _) fun _ => h.print _
  · split
    · exact h.print _
    · exact keeps_throw _

lemma complain (s : Host τ σ) (what : String) : Keeps Q (Play.complain s what) :=
  keeps_bind (h.print _) fun _ => keeps_pure _

lemma bindKeys (s : Host τ σ) (hbound : ∀ p bindings, Q p → Q { p with bindings }) : Keeps Q (Play.bindKeys s) := by
  refine keeps_forM _ ?_
  rintro ⟨name, key⟩
  dsimp only
  split
  · exact keeps_modify fun p => hbound p _
  · exact h.print _

lemma tellingFaults {act : Action τ σ Bool} (hact : Leads P Q act) : Leads P Q (Play.tellingFaults act) := by
  intro p hp
  have hafter := hact p hp
  unfold Play.tellingFaults
  split
  · rename_i f q hrun
    rw [hrun] at hafter
    exact keeps_bind (h.print _) (fun _ => keeps_pure false) q hafter
  · exact hafter

lemma load [Duration τ] {name : String}
    (hload : ∀ p program, Q p → Q (p.withConsole (ending (Console.loadFile name program p.console)))) :
    Keeps Q (Play.load name : Action τ σ (Option String)) := by
  intro p hp
  unfold Play.load
  rw [get_bind]
  cases p.disk.read name with
  | error e => exact hp
  | ok program =>
    have hafter := hload p program hp
    dsimp only
    cases hrun : Console.loadFile name program p.console with
    | ok _ c =>
      rw [hrun] at hafter
      exact keeps_bind h.printReports (fun _ => keeps_pure none) _ hafter
    | error e c =>
      rw [hrun] at hafter
      exact hafter

end Untold

/-- A property of plays that a frame can touch only by what it does to the console and by painting the window. The tone
goes on from one frame to the next, so its phase is free. -/
structure Undisturbed (Q : Play τ σ → Prop) : Prop extends Untold Q where
  timed : ∀ p time, Q p → Q (p.noted (.readClock time))
  moved : ∀ p wave clock, wave.rewind = p.wave.rewind → Q p → Q { p with wave, clock }
  queued : ∀ p device samples, p.holdings.audio = some device → Q p →
    Q (p.noted (.called (.queueAudio device samples)))
  slept : ∀ p time, Q p → Q (p.noted (.called (.sleep time)))

/-- A property of plays that what is asked of the window system before the first frame and after the last one leaves
alone. -/
structure Unswayed (Q : Play τ σ → Prop) : Prop extends Untold Q where
  called : ∀ p call, call.paints = false → Q p → Q (p.noted (.called call))
  equipped : ∀ p running holdings bindings, Q p → Q { p with running, holdings, bindings }

/-- A property of plays that only the console and the painting of the window can touch. -/
structure Unmoved (Q : Play τ σ → Prop) : Prop extends Undisturbed Q, Unswayed Q

lemma leads_finishing {s : Host τ σ} {act : Action τ σ α} {M : Play τ σ → Prop} (hact : Leads P M act)
    (hfinish : Leads M Q (finish s)) : Leads P Q (finishing s act) := by
  intro p hp
  have hafter := hact p hp
  unfold finishing
  cases hrun : act p with
  | ok a q | error e q =>
    rw [hrun] at hafter
    have hend := hfinish q hafter
    dsimp only
    cases hlast : finish s q with
    | ok _ r | error _ r =>
      rw [hlast] at hend
      exact hend

section Frames

variable [Duration τ] (s : Host τ σ) {p : Play τ σ}

lemma frames_of_stopped (last : τ) (events : List (List Event)) (hstopped : p.running = false) :
    frames s last events p = .ok () p := by
  cases events <;>
  · unfold frames
    rw [get_bind, if_neg (by simp [hstopped])]
    rfl

lemma frames_nil (last : τ) (hrunning : p.running = true) :
    frames s last [] p = (frame s last [.close] >>= fun _ => pure () : Action τ σ Unit) p := by
  rw [frames, get_bind, if_pos hrunning]

lemma frames_cons (last : τ) (events : List Event) (rest : List (List Event)) (hrunning : p.running = true) :
    frames s last (events :: rest) p = (frame s last events >>= fun time => frames s time rest) p := by
  rw [frames, get_bind, if_pos hrunning]

variable {s} {R : Play τ σ → Prop} {Q : τ → Play τ σ → Prop} {events : List (List Event)}

/-- Frames in a row lead on from the time of one to the time of the next. By induction on the lists of events; after
them the window is closed. -/
theorem ends_frames (hframe : ∀ last, ∀ list ∈ events ++ [[.close]], Ends (Q last) (frame s last list) Q R) (last : τ) :
    Ends (Q last) (frames s last events) (fun _ p => ∃ time, Q time p) R := by
  induction events generalizing last with
  | nil =>
    have honce : Ends (Q last) (frame s last [.close] >>= fun _ => pure ()) (fun _ p => ∃ time, Q time p) R :=
      ends_bind (hframe last _ List.mem_cons_self) fun time => ends_pure fun _ h => ⟨time, h⟩
    refine ⟨fun p hp => ?_⟩
    cases hrunning : p.running with
    | false =>
      rw [frames_of_stopped s last [] hrunning]
      exact ⟨last, hp⟩
    | true =>
      rw [frames_nil s last hrunning]
      exact honce.run p hp
  | cons first rest ih =>
    have hrest (time : τ) : Ends (Q time) (frames s time rest) (fun _ p => ∃ time, Q time p) R :=
      ih (fun last list hmem => hframe last list (List.mem_cons_of_mem _ hmem)) time
    refine ⟨fun p hp => ?_⟩
    cases hrunning : p.running with
    | false =>
      rw [frames_of_stopped s last (first :: rest) hrunning]
      exact ⟨last, hp⟩
    | true =>
      rw [frames_cons s last first rest hrunning]
      exact (ends_bind (hframe last first List.mem_cons_self) hrest).run p hp

end Frames

/-- Frames keep what each of them keeps. -/
theorem keeps_frames [Duration τ] {s : Host τ σ} (hframe : ∀ lastTime events, Keeps Q (frame s lastTime events))
    (lastTime : τ) (events : List (List Event)) : Keeps Q (frames s lastTime events) :=
  (ends_frames (fun last list _ => (hframe last list).ends) lastTime).leads (fun _ _ ⟨_, h⟩ => h) fun _ h => h

/-- The play set going: the sound is let on, and the user is greeted. -/
def greet : Action τ σ Unit := do
  modify fun p => { p with running := true }
  match (← get).holdings.audio with
  | some device => call (.pauseAudio device 0)
  | none => pure ()
  greeting.forM print

lemma play_eq [Duration τ] (s : Host τ σ) (events : List (List Event)) :
    play s events = start s >>= fun started =>
      if started then do
        greet
        let time ← now s
        finishing s (tellingFaults do frames s time events; return true)
      else do
        finish s
        return false := by
  funext p
  unfold play greet
  cases hstart : start s p with
  | error e q => rw [bind_of_error hstart, bind_of_error hstart]
  | ok started q =>
    rw [bind_of_ok hstart, bind_of_ok hstart]
    cases started with
    | false => rfl
    | true =>
      rw [if_pos rfl, if_pos rfl, bind_assoc, modify_bind, get_bind, modify_bind, bind_assoc, get_bind]
      cases q.holdings.audio with
      | none => rfl
      | some device => rfl

lemma keeps_queueTone (hmoved : ∀ p wave clock, wave.rewind = p.wave.rewind → Q p → Q { p with wave, clock })
    (hqueued : ∀ p device samples, p.holdings.audio = some device → Q p →
      Q (p.noted (.called (.queueAudio device samples)))) : Keeps Q (queueTone : Action τ σ Unit) := by
  intro p hp
  unfold queueTone
  rw [get_bind]
  cases haudio : p.holdings.audio with
  | none => exact hp
  | some device =>
    have hwave := SquareWave.rewind_frame p.console.soundActive Console.framesPerSecond p.wave
    dsimp only
    generalize p.wave.frame p.console.soundActive Console.framesPerSecond = result at hwave ⊢
    obtain ⟨samples, wave⟩ := result
    have hnext : Q { p with wave } := hmoved p wave p.clock hwave hp
    dsimp only
    rw [modify_bind]
    split
    · exact hnext
    · exact hnext
    · exact hqueued _ device _ haudio hnext

namespace Undisturbed

variable (h : Undisturbed Q) (s : Host τ σ)

include h

lemma now : Keeps Q (Play.now s) :=
  fun p hp => h.timed _ _ (h.moved p _ _ rfl hp)

/-- The clock read, after which the console is as it was. -/
lemma ends_now {R : Play τ σ → Prop} : Ends Q (Play.now s) (fun _ p => Q p ∧ p.Poised) R :=
  ⟨fun p hp => ⟨h.timed _ _ (h.moved p _ _ rfl hp), poised_noted _ rfl⟩⟩

lemma queueTone : Keeps Q (Play.queueTone : Action τ σ Unit) := keeps_queueTone h.moved h.queued

lemma pace [Duration τ] (frameStart : τ) : Keeps Q (Play.pace s frameStart) := by
  refine keeps_bind (h.now s) fun time => ?_
  dsimp only
  split
  · split
    · exact keeps_bind (keeps_modify fun p => h.moved p _ _ rfl) fun _ p => h.slept p _
    · exact keeps_pure _
  · exact keeps_pure _

section Events

variable [Duration τ]
  (hpress : ∀ p (key : Key), Q p → Q (p.withConsole (ending (Console.onMachine (.pressKey key.val) p.console))))
  (hrelease : ∀ p (key : Key), Q p → Q (p.withConsole (ending (Console.onMachine (.releaseKey key.val) p.console))))

include hpress hrelease

/-- What keys keep, and resets where there are any, is kept by all events, as long as only those stop the play that
may. -/
lemma react {event : Event} (hreset : event = .keyDown Code.f5 → ∀ p, Q p → Q (p.withConsole p.console.renewed))
    (hstop : event.closes → ∀ p, Q p → Q { p with running := false }) : Keeps Q (Play.react s event) := by
  cases event with
  | close => exact keeps_modify (hstop rfl)
  | keyDown keycode =>
    rw [Play.react, Play.keyDown]
    split
    · rename_i hescape
      exact keeps_modify (hstop (by rw [hescape]; rfl))
    · split
      · rename_i hf5
        refine keeps_bind (h.onConsole fun p hp => ?_) fun _ => h.print _
        rw [p.console.reset_run]
        exact hreset (by rw [hf5]) p hp
      · split
        · refine keeps_bind (h.now s) fun time => ?_
          exact keeps_bind (keeps_demand _) fun _ => h.saveScreenshot s _
        · refine keeps_bind keeps_get fun p => ?_
          split
          · exact h.onConsole fun p => hpress p _
          · exact keeps_pure _
  | keyUp keycode =>
    refine keeps_bind keeps_get fun p => ?_
    split
    · exact h.onConsole fun p => hrelease p _
    · exact keeps_pure _
  | other => exact keeps_pure _
  | interrupt => exact keeps_throw _

lemma handle (hreset : ∀ p, Q p → Q (p.withConsole p.console.renewed))
    (hstop : ∀ p, Q p → Q { p with running := false }) (hhandled : ∀ p event, Q p → Q (p.noted (.handled event)))
    (event : Event) : Keeps Q (Play.handle s event) := by
  rw [handle_eq]
  exact keeps_bind (h.react s hpress hrelease (fun _ => hreset) fun _ => hstop) fun _ p => hhandled p event

end Events

end Undisturbed

namespace Unswayed

variable (h : Unswayed Q) (s : Host τ σ)

include h

lemma call {c : Call τ} (hplain : c.paints = false) : Keeps Q (Play.call c : Action τ σ Unit) :=
  fun p => h.called p c hplain

/-- Something asked of the window system, and told to the user if it is refused. -/
lemma opening {c : Call τ} (hplain : c.paints = false) (refused : Bool) (what : String) (f : Holdings → Holdings)
    {next : Action τ σ Bool} (hnext : Keeps Q next) :
    Keeps Q (do
      Play.call c
      if refused then
        Play.complain s what
      else
        modify fun p => { p with holdings := f p.holdings }
        next : Action τ σ Bool) := by
  refine keeps_bind (h.call hplain) fun _ => ?_
  split
  · exact h.complain s what
  · exact keeps_bind (keeps_modify fun p => h.equipped p _ _ _) fun _ => hnext

lemma openAudio : Keeps Q (Play.openAudio s) := by
  refine keeps_bind (h.call rfl) fun _ => ?_
  split
  · exact keeps_modify fun p => h.equipped p _ _ _
  · exact keeps_bind (h.complain s _) fun _ => keeps_pure _

lemma start : Keeps Q (Play.start s) := by
  have htexture : Keeps Q (openTexture s) := by
    unfold openTexture
    refine h.opening s (by rfl) _ _ (fun held => { held with texture := true }) ?_
    refine keeps_bind (h.openAudio s) fun _ => keeps_bind (h.bindKeys s fun p => h.equipped p _ _) fun _ => ?_
    exact keeps_bind (h.print _) fun _ => keeps_pure _
  have hrenderer : Keeps Q (openRenderer s) := by
    unfold openRenderer
    exact h.opening s (by rfl) _ _ (fun held => { held with renderer := true }) htexture
  have hwindow : Keeps Q (openWindow s) := by
    unfold openWindow
    exact h.opening s (by rfl) _ _ (fun held => { held with window := true }) hrenderer
  refine keeps_bind (h.call rfl) fun _ => ?_
  split
  · exact h.complain s _
  · exact hwindow

lemma finish : Keeps Q (Play.finish s) := by
  have hgiveBack (held : Holdings) : Keeps Q (do
      if held.texture then
        Play.call .destroyTexture
      if held.renderer then
        Play.call .destroyRenderer
      if held.window then
        Play.call .destroyWindow
      modify fun p => { p with holdings := .nothing }
      Play.call .stop : Action τ σ Unit) := by
    refine keeps_ite_bind (h.call rfl) fun _ => keeps_ite_bind (h.call rfl) fun _ => ?_
    refine keeps_ite_bind (h.call rfl) fun _ => keeps_bind (keeps_modify fun p => h.equipped p _ _ _) fun _ => ?_
    exact h.call rfl
  refine keeps_bind keeps_get fun p => keeps_ite_bind (h.saveScreenshot s _) fun _ => ?_
  dsimp only
  cases p.holdings.audio with
  | none => exact hgiveBack p.holdings
  | some device => exact keeps_bind (h.call rfl) fun _ => hgiveBack p.holdings

lemma greet : Keeps Q (Play.greet : Action τ σ Unit) := by
  refine keeps_bind (keeps_modify fun p => h.equipped p _ _ _) fun _ => keeps_bind keeps_get fun p => ?_
  cases p.holdings.audio with
  | none => exact keeps_forM _ h.print
  | some device => exact keeps_bind (h.call rfl) fun _ => keeps_forM _ h.print

end Unswayed

section Runs

variable [Duration τ] {s : Host τ σ} {events : List (List Event)} {G T : Play τ σ → Prop}

/-- A play from the opening of the window to its end, part by part. The last property is what is left however the play
ends, and the others lead to it. -/
theorem leads_play {M : Bool → Play τ σ → Prop} {Q : τ → Play τ σ → Prop} (hstart : Ends P (start s) M T)
    (hrefused : ∀ p, M false p → T p) (hgreet : Ends (M true) greet (fun _ => G) T) (hnow : Ends G (now s) Q T)
    (hframe : ∀ last, ∀ list ∈ events ++ [[.close]], Ends (Q last) (frame s last list) Q T)
    (hpast : ∀ last p, Q last p → T p) (hT : Unswayed T) : Leads P T (play s events) := by
  have hframes (time : τ) : Leads (Q time) T (finishing s (tellingFaults do frames s time events; return true)) := by
    refine leads_finishing (hT.tellingFaults ?_) (hT.finish s)
    have hall : Ends (Q time) (do frames s time events; return true : Action τ σ Bool) (fun _ => T) T :=
      ends_bind (ends_frames hframe time) fun _ => ends_pure fun p ⟨last, h⟩ => hpast last p h
    exact hall.leads (fun _ _ h => h) fun _ h => h
  have hend {act : Action τ σ Bool} {N : Play τ σ → Prop} (hact : Leads N T act) : Ends N act (fun _ => T) T :=
    hact.ends fun _ h => h
  rw [play_eq]
  refine (ends_bind hstart fun started => ?_).leads (fun _ _ h => h) fun _ h => h
  cases started with
  | true => exact ends_bind hgreet fun _ => ends_bind hnow fun time => hend (hframes time)
  | false => exact hend (leads_bind (fun p h => hT.finish s p (hrefused p h)) (fun _ h => h) fun _ => keeps_pure _)

theorem leads_run {name : String} (hload : Keeps P (load name : Action τ σ (Option String)))
    (hplay : Leads P T (play s events)) (hpast : ∀ p, P p → T p) (hT : Untold T) :
    Leads P T (run s name events) := by
  refine (ends_bind (Leads.ends hload hpast) fun reason => ?_).leads (fun _ _ h => h) fun _ h => h
  cases reason with
  | none => exact hplay.ends fun _ h => h
  | some reason =>
    have htold : Keeps T (do print s!"Failed to load program '{name}': {reason}"; return false : Action τ σ Bool) :=
      keeps_bind (hT.print _) fun _ => keeps_pure _
    exact Leads.ends (fun p h => htold p (hpast p h)) fun _ h => h

end Runs

namespace Unmoved

variable (h : Unmoved Q) (s : Host τ σ)

include h

/-- A play keeps what its frames keep. -/
theorem play [Duration τ] (hframe : ∀ lastTime events, Keeps Q (frame s lastTime events)) (events : List (List Event)) :
    Keeps Q (Play.play s events) :=
  leads_play (h.start s).ends (fun _ h => h) h.greet.ends (h.now s).ends (fun last list _ => (hframe last list).ends)
    (fun _ _ h => h) h.toUnswayed

/-- A run keeps what loading and the frames keep. -/
theorem run [Duration τ] {name : String}
    (hload : ∀ p program, Q p → Q (p.withConsole (ending (Console.loadFile name program p.console))))
    (hframe : ∀ lastTime events, Keeps Q (frame s lastTime events)) (events : List (List Event)) :
    Keeps Q (Play.run s name events) :=
  leads_run (h.load hload) (h.play s hframe events) (fun _ h => h) h.toUntold

end Unmoved

/-- The journal of the command is that of a run, or nothing happened. -/
lemma journal_run [Duration τ] (platform : Platform τ σ) (random : Nat → UInt8) (clock : σ) (events : List (List Event))
    (arguments : List String) (disk : Disk) :
    (CommandLine.PlayInWindow.run platform random clock events arguments disk).journal = [] ∨
      ∃ name, (CommandLine.PlayInWindow.run platform random clock events arguments disk).journal =
        (ending (run ⟨⟨Dialect.modern, random⟩, platform⟩ name events
          (fresh (arguments.contains "--debug") clock disk))).journal.reverse := by
  unfold CommandLine.PlayInWindow.run
  split
  · rename_i name _
    split
    · refine .inr ⟨name, ?_⟩
      unfold CommandLine.PlayInWindow.play
      let s : Host τ σ := ⟨⟨Dialect.modern, random⟩, platform⟩
      cases run s name events (fresh (arguments.contains "--debug") clock disk) with
      | ok success p => rfl
      | error stop p =>
        cases stop with
        | interrupted | failed _ => rfl
    · exact .inl rfl
  · exact .inl rfl

end Play

end Window

end Chip8
