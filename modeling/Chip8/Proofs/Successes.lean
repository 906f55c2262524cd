import Chip8.Proofs.Failures
import Chip8.Proofs.Playing

/-!
# What always comes to its end

Most of what a play does comes to its end from every state. Pictures are saved under names that end in `.png`, so that
whatever keeps one from being saved is told to the user; the samples of the standard wave fit into sixteen bits. Main
statements: `opens_start`, `succeeds_finish` and `load_accepted` for what comes before the first frame and after the
last one.
-/

namespace Chip8

section States

variable {ε σ α β : Type} {P Q : σ → Prop} {act : EStateM ε σ α}

/-- An action comes to its end from every state. -/
def Succeeds (act : EStateM ε σ α) : Prop := ∀ s, ∃ a t, act s = .ok a t

lemma succeeds_pure (a : α) : Succeeds (pure a : EStateM ε σ α) := fun s => ⟨a, s, rfl⟩

lemma succeeds_modify (f : σ → σ) : Succeeds (modify f : EStateM ε σ PUnit) := fun s => ⟨⟨⟩, f s, rfl⟩

lemma succeeds_get_bind {next : σ → EStateM ε σ β} (hnext : ∀ s, ∃ b t, next s s = .ok b t) :
    Succeeds (get >>= next) := hnext

lemma succeeds_bind {next : α → EStateM ε σ β} (hact : Succeeds act) (hnext : ∀ a, Succeeds (next a)) :
    Succeeds (act >>= next) := by
  intro s
  obtain ⟨a, t, hrun⟩ := hact s
  rw [bind_of_ok hrun]
  exact hnext a t

lemma succeeds_forM (l : List α) {each : α → EStateM ε σ PUnit} (heach : ∀ a, Succeeds (each a)) :
    Succeeds (l.forM each) := by
  induction l with
  | nil => exact succeeds_pure _
  | cons a l ih => exact succeeds_bind (heach a) fun _ => ih

lemma succeeds_ite_bind {c : Prop} [Decidable c] {act : EStateM ε σ PUnit} {next : PUnit → EStateM ε σ β}
    (hact : Succeeds act) (hnext : ∀ u, Succeeds (next u)) : Succeeds (if c then act >>= next else next ⟨⟩) := by
  split
  · exact succeeds_bind hact hnext
  · exact hnext _

lemma Succeeds.unit {act : EStateM ε σ Unit} (h : Succeeds act) (s : σ) : ∃ t, act s = .ok () t := by
  obtain ⟨⟨⟩, t, hrun⟩ := h s
  exact ⟨t, hrun⟩

lemma Leads.of_ok {s t : σ} {a : α} (h : Leads P Q act) (hs : P s) (hrun : act s = .ok a t) : Q t := by
  have hafter := h s hs
  rwa [hrun] at hafter

lemma Leads.of_error {s t : σ} {e : ε} (h : Leads P Q act) (hs : P s) (hrun : act s = .error e t) : Q t := by
  have hafter := h s hs
  rwa [hrun] at hafter

lemma leads_bind_of_succeeds {M : σ → Prop} {next : α → EStateM ε σ β} (hact : Succeeds act) (hfirst : Leads P M act)
    (hnext : ∀ a, Leads M Q (next a)) : Leads P Q (act >>= next) := by
  intro s hs
  obtain ⟨a, t, hrun⟩ := hact s
  rw [bind_of_ok hrun]
  exact hnext a t (hfirst.of_ok hs hrun)

/-- What an action that comes to its end leads to. -/
lemma Succeeds.leads (h : Succeeds act) (hact : Leads P Q act) {s : σ} (hs : P s) : ∃ a t, act s = .ok a t ∧ Q t := by
  obtain ⟨a, t, hrun⟩ := h s
  exact ⟨a, t, hrun, hact.of_ok hs hrun⟩

lemma Succeeds.ends {R : σ → Prop} (h : Succeeds act) (hact : Leads P Q act) : Ends P act (fun _ => Q) R := by
  refine ⟨fun s hs => ?_⟩
  obtain ⟨a, t, hrun, ht⟩ := h.leads hact hs
  rw [hrun]
  exact ht

end States

/-! ## Pictures -/

namespace PictureFile

variable {stem : String}

lemma extension_png (hstem : stem.toList ≠ []) (hplain : ∀ c ∈ stem.toList, IsPlainLetter c) :
    extension (stem ++ ".png") = ".png" := by
  have hletters : (stem ++ ".png").toList = stem.toList ++ ['.', 'p', 'n', 'g'] := String.toList_append
  have hpart : lastPart (stem ++ ".png") = stem.toList ++ ['.', 'p', 'n', 'g'] := by
    have hslash : '/' ∉ stem.toList ++ ['.', 'p', 'n', 'g'] := by
      rw [List.mem_append, not_or]
      exact ⟨fun hmem => (hplain _ hmem).1 rfl, by decide⟩
    rw [lastPart, hletters, List.splitOn_eq_singleton hslash]
    rfl
  have hfirst : (stem.toList ++ ['.', 'p', 'n', 'g']).dropWhile (· = '.') = stem.toList ++ ['.', 'p', 'n', 'g'] := by
    obtain ⟨c, rest, hcons⟩ := List.exists_cons_of_ne_nil hstem
    have hc : c ≠ '.' := (hplain c (by rw [hcons]; exact List.mem_cons_self)).2.1
    rw [hcons, List.cons_append, List.dropWhile_cons_of_neg (by simpa using hc)]
  have hpieces : (stem.toList ++ ['.', 'p', 'n', 'g']).splitOn '.' = [stem.toList, ['p', 'n', 'g']] := by
    have hfree : ∀ piece ∈ [stem.toList, ['p', 'n', 'g']], '.' ∉ piece :=
      List.forall_mem_cons.2 ⟨fun hmem => (hplain _ hmem).2.1 rfl, List.forall_mem_singleton.2 (by decide)⟩
    exact List.splitOn_intercalate '.' hfree (List.cons_ne_nil _ _)
  have hending : (stemAndEnding (stem ++ ".png")).2 = ['.', 'p', 'n', 'g'] := by
    unfold stemAndEnding
    dsimp only
    rw [hpart, hfirst, hpieces]
    rfl
  rw [extension, hending]
  decide +kernel

/-- The usual library saves a picture under such a name, unless the file cannot be opened. -/
lemma save_knowsPng : Saving.KnowsPng save := by
  intro stem d picture hstem hplain
  have hknown : treatment? ".png" = some .written := by rfl
  have hzero : ¬(stem ++ ".png").toList.contains '\x00' := by
    rw [List.contains_iff_mem, String.toList_append, List.mem_append, not_or]
    exact ⟨fun hmem => (hplain _ hmem).2.2 rfl, by decide⟩
  unfold save
  dsimp only
  rw [extension_png hstem hplain, hknown]
  dsimp only
  rw [if_neg hzero]
  unfold write
  cases d.savePicture (stem ++ ".png") picture with
  | ok d' => exact .inl ⟨d', rfl⟩
  | error e => exact .inr ⟨.file e, e.text _, rfl, rfl⟩

lemma isPlainLetter_nat (n : Nat) : ∀ c ∈ (toString n).toList, IsPlainLetter c := by
  intro c hc
  have hdigit : c.isDigit := Nat.isDigit_of_mem_toDigits (b := 10) (by omega) (by omega) (by simpa using hc)
  refine ⟨?_, ?_, ?_⟩ <;>
  · rintro rfl
    revert hdigit
    decide

lemma isPlainLetter_int (n : Int) : ∀ c ∈ (toString n).toList, IsPlainLetter c := by
  cases n with
  | ofNat n => exact isPlainLetter_nat n
  | negSucc n =>
    have hletters : (toString (Int.negSucc n)).toList = '-' :: (toString (n + 1)).toList := String.toList_append
    rw [hletters]
    refine List.forall_mem_cons.2 ⟨?_, isPlainLetter_nat (n + 1)⟩
    unfold IsPlainLetter
    decide

end PictureFile

/-! ## The wave -/

namespace SquareWave

lemma fits_samplesOnto {done : List Int} {w : SquareWave} (hloud : fits w.amplitude ∧ fits (-w.amplitude))
    (hdone : ∀ sample ∈ done, fits sample) (n : Nat) : ∀ sample ∈ (samplesOnto done n w).1, fits sample := by
  induction n generalizing done w with
  | zero => exact hdone
  | succ n ih =>
    refine ih (w := w.next) hloud (List.forall_mem_cons.2 ⟨?_, hdone⟩)
    unfold level
    split
    · exact hloud.1
    · exact hloud.2

/-- A wave that has a period, and whose samples fit, never fails. -/
lemma frame_of_loud {w : SquareWave} (hperiod : w.frequency ≠ 0) (hloud : fits w.amplitude ∧ fits (-w.amplitude))
    {framesPerSecond : Int} (hframes : framesPerSecond ≠ 0) (active : Bool) :
    ∃ bytes, (w.frame active framesPerSecond).1 = .ok bytes := by
  cases active with
  | false => exact ⟨[], rfl⟩
  | true =>
    have hfits := fits_samplesOnto hloud (List.forall_mem_nil _) (Int.fdiv w.sampleRate framesPerSecond).toNat
    unfold frame frameSamples samples
    rw [if_neg (by decide), if_neg hframes, if_neg hperiod]
    dsimp only
    rw [List.all_reverse, if_pos (List.all_eq_true.2 hfits)]
    exact ⟨_, rfl⟩

lemma frame_of_rewind {w : SquareWave} (hw : w.rewind = standard) (active : Bool) :
    ∃ bytes, (w.frame active Console.framesPerSecond).1 = .ok bytes := by
  have hfrequency : w.rewind.frequency = standard.frequency := congrArg frequency hw
  have hamplitude : w.rewind.amplitude = standard.amplitude := congrArg amplitude hw
  refine frame_of_loud (fun hzero => ?_) ?_ (by decide) active
  · exact absurd (hfrequency.symm.trans hzero) (by decide)
  · change fits w.rewind.amplitude ∧ fits (-w.rewind.amplitude)
    rw [hamplitude]
    decide

end SquareWave

namespace Window

variable {τ σ α : Type}

/-- Everything can be had that a program needs to be shown. Only sound may be missing. -/
def Platform.Suffices (platform : Platform τ σ) : Prop :=
  ∀ facility, facility ≠ .audio → platform.works facility

lemma Platform.suffices_iff (platform : Platform τ σ) :
    platform.Suffices ↔ platform.works .system ∧ platform.works .window ∧ platform.works .renderer ∧
      platform.works .texture := by
  constructor
  · exact fun h => ⟨h _ nofun, h _ nofun, h _ nofun, h _ nofun⟩
  · rintro ⟨hsystem, hwindow, hrenderer, htexture⟩ facility haudio
    cases facility with
    | system => exact hsystem
    | window => exact hwindow
    | renderer => exact hrenderer
    | texture => exact htexture
    | audio => exact absurd rfl haudio

namespace Play

lemma succeeds_note (happening : Happening τ) : Succeeds (note happening : Action τ σ Unit) := succeeds_modify _

lemma succeeds_print (text : String) : Succeeds (print text : Action τ σ Unit) := succeeds_note _

lemma succeeds_call (c : Call τ) : Succeeds (call c : Action τ σ Unit) := succeeds_note _

lemma succeeds_printReports : Succeeds (printReports : Action τ σ Unit) := by
  intro p
  rw [printReports_run]
  exact succeeds_forM _ succeeds_print _

lemma onConsole_run {act : Console.Action τ α} {p : Play τ σ} {a : α} {c : Console τ} (hact : act p.console = .ok a c) :
    ∃ q, onConsole act p = .ok a q := by
  obtain ⟨_, q, hreports⟩ := succeeds_printReports (p.withConsole c)
  rw [onConsole_of_ok hact, bind_of_ok hreports]
  exact ⟨q, rfl⟩

lemma onConsole_run_error {act : Console.Action τ α} {p : Play τ σ} {e : Failure} {c : Console τ}
    (hact : act p.console = .error e c) : ∃ q, onConsole act p = .error (.failed e) q := by
  obtain ⟨_, q, hreports⟩ := succeeds_printReports (p.withConsole c)
  rw [onConsole_of_error hact, bind_of_ok hreports]
  exact ⟨q, rfl⟩

/-- Something done to the console, where what holds afterwards may depend on the result. -/
lemma ends_onConsole {P R : Play τ σ → Prop} {Q : α → Play τ σ → Prop} (hQ : ∀ a, Untold (Q a)) (hR : Untold R)
    {act : Console.Action τ α} (hok : ∀ p a c, P p → act p.console = .ok a c → Q a (p.withConsole c))
    (herror : ∀ p e c, P p → act p.console = .error e c → R (p.withConsole c)) : Ends P (onConsole act) Q R := by
  refine ⟨fun p hp => ?_⟩
  cases hrun : act p.console with
  | ok a c =>
    have hprint : Ends (Q a) printReports (fun _ => Q a) R := succeeds_printReports.ends (hQ a).printReports
    rw [onConsole_of_ok hrun]
    exact (ends_bind hprint fun _ => ends_pure fun _ hq => hq).run _ (hok p a c hp hrun)
  | error e c =>
    rw [onConsole_of_error hrun]
    exact (ends_bind hR.printReports.ends fun _ => ends_throw fun _ hq => hq).run _ (herror p e c hp hrun)

lemma succeeds_onConsole {act : Console.Action τ α} (hact : Succeeds act) :
    Succeeds (onConsole act : Action τ σ α) := by
  intro p
  obtain ⟨a, c, hrun⟩ := hact p.console
  exact ⟨a, onConsole_run hrun⟩

lemma succeeds_onMachine {act : Chip8.Action α} (hact : Succeeds act) :
    Succeeds (onConsole (Console.onMachine act) : Action τ σ α) := by
  refine succeeds_onConsole fun c => ?_
  obtain ⟨a, m, hrun⟩ := hact c.machine
  exact ⟨a, _, onMachine_of_ok hrun⟩

lemma succeeds_now (s : Host τ σ) : Succeeds (now s) :=
  succeeds_get_bind fun _ => ⟨_, _, rfl⟩

/-- A picture saved, or refused and the user told; where nobody is told, the play is left as it was. -/
lemma ends_saveScreenshot {P Q R : Play τ σ → Prop} (hQ : Untold Q) (hsaved : ∀ p, P p → Q p)
    (hunsaved : ∀ p, P p → R p) (s : Host τ σ) (name : String) : Ends P (saveScreenshot s name) (fun _ => Q) R := by
  have hprint (text : String) : Leads P Q (print text : Action τ σ Unit) := fun p hp => hQ.print text p (hsaved p hp)
  refine ends_bind (Leads.ends (keeps_get (P := P)) hunsaved) fun p => ?_
  dsimp only
  split
  · refine (succeeds_bind (succeeds_modify _) fun _ => succeeds_print _).ends ?_
    exact fun p hp => keeps_bind (keeps_modify fun p => hQ.stored p _) (fun _ => hQ.print _) p (hsaved p hp)
  · split
    · exact (succeeds_print _).ends (hprint _)
    · exact ends_throw hunsaved

section Pictures

variable {s : Host τ σ} (hsave : s.platform.save.KnowsPng)

include hsave

/-- The user is told of every reason for which such a picture is not saved. -/
lemma succeeds_saveScreenshot (stem : String) (hstem : stem.toList ≠ [])
    (hplain : ∀ c ∈ stem.toList, PictureFile.IsPlainLetter c) : Succeeds (saveScreenshot s (stem ++ ".png")) := by
  refine succeeds_get_bind fun p => ?_
  obtain ⟨d, hsaved⟩ | ⟨e, reason, hunsaved, htold⟩ := hsave stem p.disk
    ((p.console.machine.screen.picture Settings.foreground Settings.background).enlarge Settings.windowScale) hstem
    hplain
  · rw [hsaved]
    exact ⟨(), _, rfl⟩
  · rw [hunsaved]
    dsimp only
    rw [htold]
    exact ⟨(), _, rfl⟩

lemma succeeds_saveNamed (seconds : Int) : Succeeds (saveScreenshot s s!"screenshot_{seconds}.png") := by
  have hletters : ("screenshot_" ++ toString seconds).toList = "screenshot_".toList ++ (toString seconds).toList :=
    String.toList_append
  have hplain : ∀ c ∈ "screenshot_".toList, PictureFile.IsPlainLetter c := by
    simp [PictureFile.IsPlainLetter]
  refine succeeds_saveScreenshot hsave ("screenshot_" ++ toString seconds) ?_ ?_
  · rw [hletters]
    exact List.append_ne_nil_of_left_ne_nil (by decide) _
  · rw [hletters]
    exact List.forall_mem_append.2 ⟨hplain, PictureFile.isPlainLetter_int seconds⟩

lemma succeeds_saveLast : Succeeds (saveScreenshot s "exit_screenshot.png") := by
  refine succeeds_saveScreenshot hsave "exit_screenshot" (by decide) ?_
  simp [PictureFile.IsPlainLetter]

end Pictures

/-! ## Frames -/

lemma succeeds_upload : Succeeds (upload : Action τ σ Unit) := by
  refine succeeds_get_bind fun p => ?_
  split
  · refine succeeds_get_bind (fun p => ?_) p
    exact succeeds_bind (succeeds_call _) (fun _ => succeeds_onMachine (succeeds_modify _)) p
  · exact ⟨_, _, rfl⟩

lemma queueTone_run {p : Play τ σ} (hwave : p.wave.rewind = SquareWave.standard) :
    ∃ q, (queueTone : Action τ σ Unit) p = .ok () q := by
  unfold queueTone
  rw [get_bind]
  cases p.holdings.audio with
  | none => exact ⟨p, rfl⟩
  | some device =>
    obtain ⟨bytes, hframe⟩ := SquareWave.frame_of_rewind hwave p.console.soundActive
    dsimp only
    generalize p.wave.frame p.console.soundActive Console.framesPerSecond = result at hframe ⊢
    obtain ⟨samples, wave⟩ := result
    cases hframe
    cases bytes with
    | nil => exact ⟨_, rfl⟩
    | cons byte bytes => exact ⟨_, rfl⟩

lemma succeeds_pace [Duration τ] (s : Host τ σ) (frameStart : τ) : Succeeds (pace s frameStart) := by
  refine succeeds_bind (succeeds_now s) fun time => ?_
  dsimp only
  split
  · split
    · exact succeeds_bind (succeeds_modify _) fun _ => succeeds_call _
    · exact succeeds_pure _
  · exact succeeds_pure _

/-! ## Before the first frame and after the last one -/

lemma succeeds_complain (s : Host τ σ) (what : String) : Succeeds (complain s what) :=
  succeeds_bind (succeeds_print _) fun _ => succeeds_pure _

lemma succeeds_bindKeys (s : Host τ σ) : Succeeds (bindKeys s) := by
  refine succeeds_forM _ ?_
  rintro ⟨name, key⟩
  dsimp only
  split
  · exact succeeds_modify _
  · exact succeeds_print _

lemma succeeds_openAudio (s : Host τ σ) : Succeeds (openAudio s) := by
  refine succeeds_bind (succeeds_call _) fun _ => ?_
  split
  · exact succeeds_modify _
  · exact succeeds_bind (succeeds_complain s _) fun _ => succeeds_pure _

lemma succeeds_greet : Succeeds (greet : Action τ σ Unit) := by
  refine succeeds_bind (succeeds_modify _) fun _ => succeeds_get_bind fun p => ?_
  cases p.holdings.audio with
  | none => exact succeeds_forM _ succeeds_print p
  | some device => exact succeeds_bind (succeeds_call _) (fun _ => succeeds_forM _ succeeds_print) p

/-- What is held but the sound device is given back, and the window system is left. -/
def giveBack (held : Holdings) : Action τ σ Unit := do
  if held.texture then
    call .destroyTexture
  if held.renderer then
    call .destroyRenderer
  if held.window then
    call .destroyWindow
  modify fun p => { p with holdings := .nothing }
  call .stop

lemma succeeds_giveBack (held : Holdings) : Succeeds (giveBack held : Action τ σ Unit) := by
  refine succeeds_ite_bind (succeeds_call _) fun _ => succeeds_ite_bind (succeeds_call _) fun _ => ?_
  refine succeeds_ite_bind (succeeds_call _) fun _ => succeeds_bind (succeeds_modify _) fun _ => ?_
  exact succeeds_call _

lemma succeeds_finish {s : Host τ σ} (hsave : s.platform.save.KnowsPng) : Succeeds (finish s) := by
  refine succeeds_get_bind fun p => succeeds_ite_bind (succeeds_saveLast hsave) (fun _ => ?_) p
  cases p.holdings.audio with
  | none => exact succeeds_giveBack p.holdings
  | some device => exact succeeds_bind (succeeds_call _) fun _ => succeeds_giveBack p.holdings

/-- From plays that hold the texture or do not, an action ends and says whether the texture is held then, which it is
under some condition. -/
def Opens (held : Bool) (condition : Prop) (act : Action τ σ Bool) : Prop :=
  ∀ p, p.holdings.texture = held → ∃ q, act p = .ok q.holdings.texture q ∧ (q.holdings.texture = true ↔ condition)

/-- Something asked of the window system, and then the rest. -/
lemma opens_asking (s : Host τ σ) (c : Call τ) (made : Bool) (what : String) {held : Bool} {condition : Prop}
    {next : Action τ σ Bool} (hnext : Opens held condition next) (f : Holdings → Holdings)
    (hf : ∀ before, before.texture = false → (f before).texture = held) :
    Opens false (made = true ∧ condition) (do
      call c
      if !made then
        complain s what
      else
        modify fun p => { p with holdings := f p.holdings }
        next : Action τ σ Bool) := by
  intro p hp
  cases made with
  | false =>
    refine ⟨(p.noted (.called c)).noted (.printed (what ++ " failed: " ++ s.platform.complaint)), ?_, ?_⟩
    · exact congrArg (EStateM.Result.ok · _) hp.symm
    · have hnot : ¬p.holdings.texture = true := by simp [hp]
      exact iff_of_false hnot nofun
  | true =>
    obtain ⟨q, hrun, htexture⟩ := hnext { p.noted (.called c) with holdings := f p.holdings } (hf _ hp)
    exact ⟨q, hrun, htexture.trans (by simp)⟩

/-- Whether the texture is held says whether everything was had that is needed. -/
lemma opens_start (s : Host τ σ) : Opens false s.platform.Suffices (start s) := by
  let Textured (p : Play τ σ) : Prop := p.holdings.texture = true
  have huntold : Untold Textured := ⟨fun _ _ h => h, fun _ h => h, fun _ _ h => h⟩
  have haudio : Keeps Textured (openAudio s) := by
    refine keeps_bind (fun _ h => h) fun _ => ?_
    split
    · exact keeps_modify fun _ h => h
    · exact keeps_bind (huntold.complain s _) fun _ => keeps_pure _
  have hlast : Opens true True (do
      openAudio s
      bindKeys s
      print "SDL2 initialized successfully"
      return true : Action τ σ Bool) := by
    intro p hp
    obtain ⟨_, q, hrun, hq⟩ := (succeeds_openAudio s).leads haudio hp
    obtain ⟨_, r, hrun', hr⟩ := (succeeds_bindKeys s).leads (huntold.bindKeys s fun _ _ h => h) hq
    have hheld : r.holdings.texture = true := hr
    refine ⟨r.noted (.printed "SDL2 initialized successfully"), ?_, iff_of_true hr trivial⟩
    rw [bind_of_ok hrun, bind_of_ok hrun']
    exact congrArg (EStateM.Result.ok · _) hheld.symm
  have htexture : Opens false (s.platform.works .texture = true ∧ True) (openTexture s) :=
    opens_asking s _ _ _ hlast (fun held => { held with texture := true }) fun _ _ => rfl
  have hrenderer : Opens false (s.platform.works .renderer = true ∧ s.platform.works .texture = true ∧ True)
      (openRenderer s) :=
    opens_asking s _ _ _ htexture (fun held => { held with renderer := true }) fun _ h => h
  have hwindow : Opens false _ (openWindow s) :=
    opens_asking s _ _ _ hrenderer (fun held => { held with window := true }) fun _ h => h
  have hsystem : Opens false _ (start s) := opens_asking s _ _ _ hwindow id fun _ h => h
  rw [and_true] at hsystem
  rwa [s.platform.suffices_iff]

section Loading

variable [Duration τ] {name : String} {p : Play τ σ} {program : List UInt8}

lemma load_accepted (hread : p.disk.read name = .ok program) (hfit : program.length ≤ programLimit) :
    ∃ q, (load name : Action τ σ (Option String)) p = .ok none q := by
  have hload : Console.load program p.console = _ := load_of_fits hfit _
  obtain ⟨console, hfile⟩ : ∃ console, Console.loadFile name program p.console = .ok () console := by
    rw [Console.loadFile, bind_of_ok hload, onMachine_of_ok (Action.report_run _)]
    exact ⟨_, rfl⟩
  obtain ⟨_, q, hreports⟩ := succeeds_printReports (p.withConsole console)
  refine ⟨q, ?_⟩
  unfold load
  rw [get_bind, hread]
  dsimp only
  rw [hfile]
  exact bind_of_ok hreports

end Loading

end Play

end Window

end Chip8
