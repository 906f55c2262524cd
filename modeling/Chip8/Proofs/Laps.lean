import Chip8.Proofs.Successes
import Chip8.Proofs.Walks

/-!
# Frame after frame

A play in a window goes through its lists of events, one for each frame. `Lap` says what one frame is given its events,
`Course` what a number of frames in a row are, and how they came to an end: the window was closed, the user interrupted
the play, or a frame failed. Both speak of the part of the journal that was written meanwhile. Main statements:
`lap_frame` for one frame, `course_frames` for all of them.
-/

namespace Chip8.Window

variable {τ σ α : Type}

/-! ## Parts of journals -/

/-- Whether a happening marks how far a frame has come: an event handled, the console's frame done, the window shown. -/
def Happening.marks : Happening τ → Bool
  | .handled _ | .framed .. | .called .present => true
  | _ => false

/-- The marks in a part of a journal, earliest first. -/
def marks (journal : List (Moment τ)) : List (Happening τ) :=
  (journal.map (·.happening)).filter (·.marks)

/-- The times that were read from the clock. -/
def readings (journal : List (Moment τ)) : List τ :=
  journal.filterMap fun moment =>
    match moment.happening with
    | .readClock time => some time
    | _ => none

/-- The events that have been handled. -/
def heard (journal : List (Moment τ)) : List Event :=
  journal.filterMap fun moment =>
    match moment.happening with
    | .handled event => some event
    | _ => none

lemma marks_append (journal later : List (Moment τ)) : marks (journal ++ later) = marks journal ++ marks later := by
  rw [marks, List.map_append, List.filter_append]
  rfl

lemma readings_append (journal later : List (Moment τ)) :
    readings (journal ++ later) = readings journal ++ readings later := List.filterMap_append

lemma readings_readClock (journal : List (Moment τ)) (time : τ) (console : Console τ) :
    readings (journal ++ [⟨.readClock time, console⟩]) = readings journal ++ [time] := readings_append _ _

lemma readings_concat (journal : List (Moment τ)) {happening : Happening τ}
    (hother : ∀ time, happening ≠ .readClock time) (console : Console τ) :
    readings (journal ++ [⟨happening, console⟩]) = readings journal := by
  rw [readings_append]
  cases happening with
  | readClock time => exact absurd rfl (hother time)
  | _ => exact List.append_nil _

lemma heard_append (journal later : List (Moment τ)) : heard (journal ++ later) = heard journal ++ heard later :=
  List.filterMap_append

lemma heard_handled (journal : List (Moment τ)) (event : Event) (console : Console τ) :
    heard (journal ++ [⟨.handled event, console⟩]) = heard journal ++ [event] := heard_append _ _

lemma heard_concat (journal : List (Moment τ)) {happening : Happening τ} (hother : ∀ event, happening ≠ .handled event)
    (console : Console τ) : heard (journal ++ [⟨happening, console⟩]) = heard journal := by
  rw [heard_append]
  cases happening with
  | handled event => exact absurd rfl (hother event)
  | _ => exact List.append_nil _

/-- The part of a journal that a frame wrote from its first reading of the clock until some events were handled. -/
structure Opening (start : τ) (handled : List Event) (console : Console τ) (part : List (Moment τ)) : Prop where
  begun : part.head?.map (·.happening) = some (.readClock start)
  marks : marks part = handled.map .handled
  uninterrupted : .interrupt ∉ handled
  /-- The console as the last of these events left it. -/
  standing : part.getLast?.map (·.console) = some console
  wellFormed : console.machine.WellFormed

/-- One frame with the events that came before it. It comes to its end, and then its time is the last time for the next
frame, or the play stops in it with a console. -/
inductive Lap [Duration τ] (around : Surroundings) (last : τ) (events : List Event) :
    List (Moment τ) → Except (Stop × Console τ) τ → Prop
  /-- After all events the console ran a frame, and the window was shown once. -/
  | completed {start : τ} {console after : Console τ} {ticks : Nat} {opening rest : List (Moment τ)}
      (hopening : Opening start events console opening)
      (hframe : Console.frame around ((start - last) * Duration.ofNat 1000) Console.instructionsPerFrame console =
        .ok ticks after)
      (hrest : marks rest = [.framed start ticks, .called .present]) :
      Lap around last events (opening ++ rest) (.ok start)
  /-- After all events the console's frame failed, and the window was not shown. -/
  | failed {start : τ} {console after : Console τ} {e : Failure} {opening rest : List (Moment τ)}
      (hopening : Opening start events console opening)
      (hframe : Console.frame around ((start - last) * Duration.ofNat 1000) Console.instructionsPerFrame console =
        .error e after)
      (hrest : marks rest = []) : Lap around last events (opening ++ rest) (.error (.failed e, after))
  /-- The events before an interrupt were handled. -/
  | interrupted {start : τ} {before later : List Event} {console : Console τ} {opening : List (Moment τ)}
      (hevents : events = before ++ .interrupt :: later) (hopening : Opening start before console opening) :
      Lap around last events opening (.error (.interrupted, console))
  /-- The user wanted a picture saved, but the time that was read to name it after has no whole part. -/
  | unnamed {start time : τ} {before later : List Event} {console : Console τ} {e : Failure}
      {opening : List (Moment τ)} (hevents : events = before ++ .keyDown Code.f12 :: later)
      (hopening : Opening start before console opening) (htime : time ∈ readings opening)
      (htruncate : Duration.truncate time = .error e) :
      Lap around last events opening (.error (.failed e, console))

/-- Frames in a row, each with its list of events, until one of the lists closes the window or the play stops in a
frame. -/
inductive Course [Duration τ] (around : Surroundings) :
    τ → List (List Event) → List (List (Moment τ)) → Option (Stop × Console τ) → Prop
  | closed {last start : τ} {events : List Event} {rest : List (List Event)} {part : List (Moment τ)}
      (hlap : Lap around last events part (.ok start)) (hcloses : events.any Event.closes) :
      Course around last (events :: rest) [part] none
  | stopped {last : τ} {events : List Event} {rest : List (List Event)} {part : List (Moment τ)}
      {stop : Stop × Console τ} (hlap : Lap around last events part (.error stop)) :
      Course around last (events :: rest) [part] (some stop)
  | next {last start : τ} {events : List Event} {rest : List (List Event)} {part : List (Moment τ)}
      {parts : List (List (Moment τ))} {conclusion : Option (Stop × Console τ)}
      (hlap : Lap around last events part (.ok start)) (hopen : ¬events.any Event.closes)
      (hrest : Course around start rest parts conclusion) :
      Course around last (events :: rest) (part :: parts) conclusion

namespace Play

/-! ## Plays as they write -/

/-- A play whose machine and wave are in order. -/
structure Ready (p : Play τ σ) : Prop where
  wellFormed : p.console.machine.WellFormed
  tuned : p.wave.rewind = SquareWave.standard

/-- The same, and the play has written such marks since its journal was the given one. -/
structure Gone (base : List (Moment τ)) (written : List (Happening τ)) (p : Play τ σ) : Prop extends Ready p where
  part : ∃ part, p.journal = part.reverse ++ base ∧ marks part = written

variable {base : List (Moment τ)} {written : List (Happening τ)} {p : Play τ σ}

lemma Ready.gone (h : Ready p) : Gone p.journal [] p := ⟨h, [], rfl, rfl⟩

namespace Gone

lemma noted (h : Gone base written p) (happening : Happening τ) :
    Gone base (written ++ [happening].filter (·.marks)) (p.noted happening) := by
  obtain ⟨part, hjournal, hmarks⟩ := h.part
  refine ⟨{ h.toReady with }, part ++ [⟨happening, p.console⟩], ?_, ?_⟩
  · rw [Play.noted, hjournal, List.reverse_append]
    rfl
  · rw [marks_append, hmarks]
    rfl

lemma unmarked (h : Gone base written p) {happening : Happening τ} (hunmarked : happening.marks = false) :
    Gone base written (p.noted happening) := by
  have hnoted := h.noted happening
  rwa [List.filter_cons_of_neg (by simp [hunmarked]), List.filter_nil, List.append_nil] at hnoted

lemma withConsole (h : Gone base written p) {console : Console τ} (hconsole : console.machine.WellFormed) :
    Gone base written (p.withConsole console) := ⟨⟨hconsole, h.tuned⟩, h.part⟩

end Gone

lemma gone_unmoved : Unmoved (Gone base written : Play τ σ → Prop) where
  printed _ _ h := h.unmarked rfl
  taken _ h := h.withConsole { h.wellFormed with }
  stored _ _ h := ⟨{ h.toReady with }, h.part⟩
  timed _ _ h := h.unmarked rfl
  moved _ _ _ hwave h := ⟨⟨h.wellFormed, hwave.trans h.tuned⟩, h.part⟩
  queued _ _ _ _ h := h.unmarked rfl
  slept _ _ h := h.unmarked rfl
  called _ call hplain h := by
    cases call with
    | present => cases hplain
    | _ => exact h.unmarked rfl
  equipped _ _ _ _ h := ⟨{ h.toReady with }, h.part⟩

/-- The same, and the play is running or not. -/
def GoneAs (running : Bool) (base : List (Moment τ)) (written : List (Happening τ)) (p : Play τ σ) : Prop :=
  Gone base written p ∧ p.running = running

variable {running : Bool}

lemma goneAs_undisturbed : Undisturbed (GoneAs running base written : Play τ σ → Prop) where
  printed p text h := ⟨gone_unmoved.printed p text h.1, h.2⟩
  taken p h := ⟨gone_unmoved.taken p h.1, h.2⟩
  stored p disk h := ⟨gone_unmoved.stored p disk h.1, h.2⟩
  timed p time h := ⟨gone_unmoved.timed p time h.1, h.2⟩
  moved p wave clock hwave h := ⟨gone_unmoved.moved p wave clock hwave h.1, h.2⟩
  queued p device samples haudio h := ⟨gone_unmoved.queued p device samples haudio h.1, h.2⟩
  slept p time h := ⟨gone_unmoved.slept p time h.1, h.2⟩

/-- A play in a frame of which some events have been handled. -/
structure Stands (base : List (Moment τ)) (handled : List Event) (p : Play τ σ) : Prop where
  gone : Gone base (handled.map .handled) p
  standing : p.journal.head?.map (·.console) = some p.console
  uninterrupted : .interrupt ∉ handled

/-- What such a play has written since the clock was read is the opening of its frame. -/
lemma Stands.opening {start : τ} {console : Console τ} {earlier : List (Moment τ)} {handled : List Event}
    (h : Stands (⟨.readClock start, console⟩ :: earlier) handled p) :
    ∃ part, Opening start handled p.console part ∧ p.journal = part.reverse ++ earlier ∧
      part.getLast? = p.journal.head? := by
  obtain ⟨rest, hjournal, hmarks⟩ := h.gone.part
  let part : List (Moment τ) := ⟨.readClock start, console⟩ :: rest
  have hwritten : p.journal = part.reverse ++ earlier := by
    rw [hjournal, List.reverse_cons, List.append_assoc]
    rfl
  have hlast : part.getLast? = p.journal.head? := by
    rw [hwritten, List.head?_append_of_ne_nil _ (by simp [part]), List.head?_reverse]
  refine ⟨part, ⟨rfl, hmarks, h.uninterrupted, ?_, h.gone.wellFormed⟩, hwritten, hlast⟩
  rw [hlast]
  exact h.standing

variable [Duration τ] (s : Host τ σ)

/-! ## Events -/

lemma closes_iff {event : Event} : event.closes ↔ event = .close ∨ event = .keyDown Code.escape := by
  rw [Event.closes, decide_eq_true_iff]

lemma goneAs_react (event : Event) :
    Leads (GoneAs running base written) (GoneAs (running && !event.closes) base written) (react s event) := by
  have haside := Machine.wellFormed_keptAside
  cases hcloses : event.closes with
  | true =>
    rw [Bool.not_true, Bool.and_false]
    obtain rfl | rfl := closes_iff.1 hcloses
    · exact fun p h => ⟨gone_unmoved.equipped p _ _ _ h.1, rfl⟩
    · exact fun p h => ⟨gone_unmoved.equipped p _ _ _ h.1, rfl⟩
  | false =>
    rw [Bool.not_false, Bool.and_true]
    apply goneAs_undisturbed.react s
    · exact fun p key h =>
        ⟨h.1.withConsole (keeps_onMachine (keeps_pressKey haside.pressed _) p.console h.1.wellFormed), h.2⟩
    · exact fun p key h =>
        ⟨h.1.withConsole (keeps_onMachine (keeps_releaseKey haside.released _) p.console h.1.wellFormed), h.2⟩
    · exact fun _ p h => ⟨h.1.withConsole p.console.wellFormed_renewed, h.2⟩
    · intro hstop
      rw [hcloses] at hstop
      cases hstop

omit [Duration τ] in
/-- What is done for a bound key only. -/
lemma succeeds_bound (keycode : Int) {act : Key → Chip8.Action Unit} (hact : ∀ key, Succeeds (act key)) :
    Succeeds (do
      match (← get).bindings.lookup keycode with
      | some key => onConsole (Console.onMachine (act key))
      | none => pure () : Action τ σ Unit) := by
  refine succeeds_get_bind fun p => ?_
  cases p.bindings.lookup keycode with
  | none => exact ⟨(), p, rfl⟩
  | some key => exact succeeds_onMachine (hact key) p

lemma succeeds_press (key : Key) : Succeeds (Action.pressKey key.val) := by
  intro m
  rw [Action.pressKey_run, slot?_val]
  exact ⟨_, _, rfl⟩

lemma succeeds_release (key : Key) : Succeeds (Action.releaseKey key.val) := by
  intro m
  rw [Action.releaseKey_run, slot?_val]
  exact ⟨_, _, rfl⟩

lemma succeeds_resetKey : Succeeds (do onConsole Console.reset; print "Reset CHIP-8" : Action τ σ Unit) :=
  succeeds_bind (succeeds_onConsole fun c => ⟨(), _, c.reset_run⟩) fun _ => succeeds_print _

/-- A picture is named after the time, if that has a whole part. -/
lemma pictureKey_run (hsave : s.platform.save.KnowsPng) (p : Play τ σ) :
    let act : Action τ σ Unit := do
      let seconds ← demand (Duration.truncate (← now s))
      saveScreenshot s s!"screenshot_{seconds}.png"
    (∃ q, act p = .ok () q) ∨
      ∃ time e q, now s p = .ok time q ∧ Duration.truncate time = .error e ∧ act p = .error (.failed e) q := by
  intro act
  obtain ⟨time, q, hnow⟩ := succeeds_now s p
  have hact : act p =
      (demand (Duration.truncate time) >>= fun seconds => saveScreenshot s s!"screenshot_{seconds}.png") q :=
    bind_of_ok hnow
  cases htime : Duration.truncate time with
  | ok seconds =>
    have hvalue : (demand (.ok seconds) : Action τ σ Int) q = .ok seconds q := rfl
    left
    rw [hact, htime, bind_of_ok hvalue]
    exact (succeeds_saveNamed hsave seconds).unit q
  | error e =>
    right
    refine ⟨time, e, q, hnow, htime, ?_⟩
    rw [hact, htime]
    rfl

/-- An event is handled, unless it is an interrupt or a wish for a picture that cannot be named. -/
lemma react_run (hsave : s.platform.save.KnowsPng) (event : Event) (p : Play τ σ) :
    (∃ q, react s event p = .ok () q) ∨ (event = .interrupt ∧ react s event p = .error .interrupted p) ∨
      ∃ time e q, event = .keyDown Code.f12 ∧ now s p = .ok time q ∧ Duration.truncate time = .error e ∧
        react s event p = .error (.failed e) q := by
  cases event with
  | close => exact .inl ⟨_, rfl⟩
  | keyUp keycode => exact .inl ((succeeds_bound keycode succeeds_release).unit p)
  | other => exact .inl ⟨p, rfl⟩
  | interrupt => exact .inr (.inl ⟨rfl, rfl⟩)
  | keyDown keycode =>
    rw [react, keyDown]
    split
    · exact .inl ⟨_, rfl⟩
    · split
      · exact .inl (succeeds_resetKey.unit p)
      · split
        · rename_i hkey
          obtain hsaved | ⟨time, e, q, hnow, htime, hfail⟩ := pictureKey_run s hsave p
          · exact .inl hsaved
          · exact .inr (.inr ⟨time, e, q, by rw [hkey], hnow, htime, hfail⟩)
        · exact .inl ((succeeds_bound keycode succeeds_press).unit p)

/-- How the events of a frame were handled, where some had been handled before: all of them, or those before an
interrupt or before a wish for a picture that cannot be named. -/
inductive Handling (base : List (Moment τ)) (handled : List Event) (running : Bool) :
    List Event → EStateM.Result Stop (Play τ σ) PUnit → Prop
  | through {events : List Event} {q : Play τ σ} (hstands : Stands base (handled ++ events) q)
      (hrunning : q.running = (running && !events.any Event.closes)) : Handling base handled running events (.ok ⟨⟩ q)
  | interrupted {before later : List Event} {q : Play τ σ} (hstands : Stands base (handled ++ before) q) :
      Handling base handled running (before ++ .interrupt :: later) (.error .interrupted q)
  | unnamed {before later : List Event} {q : Play τ σ} {time : τ} {e : Failure}
      (hstands : Stands base (handled ++ before) q)
      (hread : q.journal.head?.map (·.happening) = some (.readClock time))
      (htruncate : Duration.truncate time = .error e) :
      Handling base handled running (before ++ .keyDown Code.f12 :: later) (.error (.failed e) q)

lemma Handling.cons {event : Event} {events handled : List Event} {result : EStateM.Result Stop (Play τ σ) PUnit}
    (h : Handling base (handled ++ [event]) (running && !event.closes) events result) :
    Handling base handled running (event :: events) result := by
  cases h with
  | through hstands hrunning =>
    rw [List.append_assoc] at hstands
    refine .through hstands ?_
    rw [hrunning, List.any_cons, Bool.not_or, Bool.and_assoc]
  | @interrupted before later q hstands =>
    rw [List.append_assoc] at hstands
    rw [← List.cons_append]
    exact .interrupted hstands
  | @unnamed before later q time e hstands hread htruncate =>
    rw [List.append_assoc] at hstands
    rw [← List.cons_append]
    exact .unnamed hstands hread htruncate

/-- By induction on the events that are left. -/
lemma handling_events (hsave : s.platform.save.KnowsPng) (events : List Event) {handled : List Event} {p : Play τ σ}
    (hp : Stands base handled p) (hrunning : p.running = running) :
    Handling base handled running events (events.forM (handle s) p) := by
  induction events generalizing handled running p with
  | nil => exact .through (by rwa [List.append_nil]) (by rw [hrunning]; exact (Bool.and_true _).symm)
  | cons event events ih =>
    have hevents : (event :: events).forM (handle s) = handle s event >>= fun _ => events.forM (handle s) := rfl
    rw [hevents]
    obtain ⟨q, hreact⟩ | ⟨rfl, hreact⟩ | ⟨time, e, q, rfl, hnow, htruncate, hreact⟩ := react_run s hsave event p
    · obtain ⟨hgone, hstill⟩ := (goneAs_react s event).of_ok ⟨hp.gone, hrunning⟩ hreact
      have hplain : event ≠ .interrupt := by
        rintro rfl
        cases hreact
      have hnoted : Stands base (handled ++ [event]) (q.noted (.handled event)) := by
        refine ⟨?_, rfl, ?_⟩
        · rw [List.map_append]
          exact hgone.noted (.handled event)
        · rw [List.mem_append, List.mem_singleton, not_or]
          exact ⟨hp.uninterrupted, hplain.symm⟩
      have hhandle : handle s event p = .ok () (q.noted (.handled event)) := by
        rw [handle_eq, bind_of_ok hreact]
        rfl
      rw [bind_of_ok hhandle]
      exact (ih hnoted hstill).cons
    · have hhandle : handle s .interrupt p = .error .interrupted p := rfl
      rw [bind_of_error hhandle]
      rw [← List.nil_append (_ :: events)]
      exact .interrupted (by rwa [List.append_nil])
    · have hgone := (gone_unmoved.now s).of_ok hp.gone hnow
      have hhandle : handle s (.keyDown Code.f12) p = .error (.failed e) q := by rw [handle_eq, bind_of_error hreact]
      rw [bind_of_error hhandle]
      cases hnow
      rw [← List.nil_append (_ :: events)]
      refine .unnamed ?_ rfl htruncate
      rw [List.append_nil]
      exact ⟨hgone, rfl, hp.uninterrupted⟩

/-! ## Frames -/

omit [Duration τ] in
lemma goneAs_upload : Keeps (GoneAs running base written) (upload : Action τ σ Unit) :=
  goneAs_undisturbed.upload (fun _ _ h => ⟨h.1.unmarked rfl, h.2⟩) fun _ h =>
    ⟨h.1.withConsole { h.1.wellFormed with }, h.2⟩

lemma keeps_consoleFrame (elapsed : τ) : Keeps (GoneAs running base written : Play τ σ → Prop)
    (onConsole (Console.frame s.around elapsed Console.instructionsPerFrame)) := by
  refine goneAs_undisturbed.onConsole fun p h => ⟨h.1.withConsole ?_, h.2⟩
  exact keeps_frame Machine.wellFormed_keptAside.ticked (Machine.step_keeps_wellFormed s.around) elapsed _ p.console
    h.1.wellFormed

/-- What a frame does after the console's frame: the window is shown, and the rest of the frame's time is waited for. -/
def showing (start : τ) (ticks : Nat) : Action τ σ τ := do
  note (.framed start ticks)
  upload
  paint
  queueTone
  pace s start
  return start

lemma showing_run (start : τ) (ticks : Nat) (hp : GoneAs running base [] p) :
    ∃ q, showing s start ticks p = .ok start q ∧
      GoneAs running base [.framed start ticks, .called .present] q := by
  have hnoted : GoneAs running base [.framed start ticks] (p.noted (.framed start ticks)) :=
    ⟨hp.1.noted (.framed start ticks), hp.2⟩
  obtain ⟨_, q₁, hupload, hq₁⟩ := succeeds_upload.leads goneAs_upload hnoted
  let painted : Play τ σ := ((q₁.noted (.called (.setDrawColour 0 0 0 255))).noted (.called .clear)).noted
    (.called .copyTexture)
  have hpainted : Gone base [.framed start ticks] painted := ((hq₁.1.unmarked rfl).unmarked rfl).unmarked rfl
  have hshown : GoneAs running base [.framed start ticks, .called .present] (painted.noted (.called .present)) :=
    ⟨hpainted.noted (.called .present), hq₁.2⟩
  have hpaint : (paint : Action τ σ Unit) q₁ = .ok () (painted.noted (.called .present)) := rfl
  obtain ⟨q₂, htone⟩ := queueTone_run hshown.1.tuned
  have hq₂ := goneAs_undisturbed.queueTone.of_ok hshown htone
  obtain ⟨_, q₃, hpace, hq₃⟩ := (succeeds_pace s start).leads (goneAs_undisturbed.pace s start) hq₂
  have hfirst : note (.framed start ticks) p = .ok () (p.noted (.framed start ticks)) := rfl
  refine ⟨q₃, ?_, hq₃⟩
  unfold showing
  rw [bind_of_ok hfirst, bind_of_ok hupload, bind_of_ok hpaint, bind_of_ok htone, bind_of_ok hpace]
  rfl

omit [Duration τ] in
/-- Nothing but the console's frame and its tracing touches the console. -/
lemma agreeing_unmoved (console : Console τ) :
    Unmoved (fun p : Play τ σ => p.console.takeReports.2 = console.takeReports.2) where
  printed _ _ h := h
  taken _ h := h
  stored _ _ h := h
  timed _ _ h := h
  moved _ _ _ _ h := h
  queued _ _ _ _ h := h
  slept _ _ h := h
  called _ _ _ h := h
  equipped _ _ _ _ h := h

/-- The console runs a frame, and the window is shown unless it fails. -/
lemma playing_run (start elapsed : τ) (hp : Ready p) :
    let run := Console.frame s.around elapsed Console.instructionsPerFrame p.console
    let act : Action τ σ τ :=
      onConsole (Console.frame s.around elapsed Console.instructionsPerFrame) >>= showing s start
    (∃ ticks after part q, run = .ok ticks after ∧ act p = .ok start q ∧ q.journal = part.reverse ++ p.journal ∧
      marks part = [.framed start ticks, .called .present] ∧ Ready q ∧ q.running = p.running) ∨
    ∃ e after part q, run = .error e after ∧ act p = .error (.failed e) q ∧ q.journal = part.reverse ++ p.journal ∧
      marks part = [] ∧ q.console.takeReports.2 = after.takeReports.2 := by
  intro run act
  have hbegin : GoneAs p.running p.journal [] p := ⟨hp.gone, rfl⟩
  have hkeep : Keeps (GoneAs p.running p.journal []) _ := keeps_consoleFrame s elapsed
  cases hframe : Console.frame s.around elapsed Console.instructionsPerFrame p.console with
  | ok ticks after =>
    obtain ⟨q, hplayed⟩ := onConsole_run hframe
    obtain ⟨r, hshow, hr, hrunning⟩ := showing_run s start ticks (hkeep.of_ok hbegin hplayed)
    obtain ⟨part, hpart, hmarks⟩ := hr.part
    exact .inl ⟨ticks, after, part, r, hframe, (bind_of_ok hplayed).trans hshow, hpart, hmarks, hr.toReady, hrunning⟩
  | error e after =>
    obtain ⟨q, hplayed⟩ := onConsole_run_error hframe
    obtain ⟨part, hpart, hmarks⟩ := (hkeep.of_error hbegin hplayed).1.part
    have hagree : Leads (· = p) (fun q : Play τ σ => q.console.takeReports.2 = after.takeReports.2)
        (onConsole (Console.frame s.around elapsed Console.instructionsPerFrame)) := by
      refine (agreeing_unmoved after).onConsole ?_
      rintro _ rfl
      rw [hframe]
      rfl
    exact .inr ⟨e, after, part, q, hframe, bind_of_error hplayed, hpart, hmarks, hagree.of_error rfl hplayed⟩

/-- A frame of a play that is in order is a lap, and if it comes to its end, the play is in order again. -/
theorem lap_frame (hsave : s.platform.save.KnowsPng) (last : τ) (events : List Event) (hp : Ready p) :
    (∃ part start q, Lap s.around last events part (.ok start) ∧ frame s last events p = .ok start q ∧
      q.journal = part.reverse ++ p.journal ∧ Ready q ∧ q.running = (p.running && !events.any Event.closes)) ∨
    ∃ part stop console q, Lap s.around last events part (.error (stop, console)) ∧
      frame s last events p = .error stop q ∧ q.journal = part.reverse ++ p.journal ∧
      q.console.takeReports.2 = console.takeReports.2 := by
  obtain ⟨start, p₁, hnow⟩ := succeeds_now s p
  have hp₁ : Ready p₁ := ((gone_unmoved.now s).of_ok hp.gone hnow).toReady
  obtain ⟨hjournal, hstanding, hrunning⟩ : p₁.journal = ⟨.readClock start, p.console⟩ :: p.journal ∧
      p₁.console = p.console ∧ p₁.running = p.running := by
    cases hnow
    exact ⟨rfl, rfl, rfl⟩
  have hstands : Stands (⟨.readClock start, p.console⟩ :: p.journal) [] p₁ :=
    ⟨⟨hp₁, [], hjournal, rfl⟩, by rw [hjournal, hstanding]; rfl, List.not_mem_nil⟩
  have hevents := handling_events s hsave events hstands hrunning
  unfold frame
  rw [bind_of_ok hnow]
  generalize hrun : events.forM (handle s) p₁ = result at hevents
  cases hevents with
  | @through _ p₂ hopened hkept =>
    obtain ⟨opening, hopening, hwritten, -⟩ := hopened.opening
    have hjoined (rest : List (Moment τ)) : rest.reverse ++ p₂.journal = (opening ++ rest).reverse ++ p.journal := by
      rw [hwritten, List.reverse_append, List.append_assoc]
    rw [bind_of_ok hrun]
    obtain ⟨ticks, after, rest, q, hframe, hplayed, hrest, hmarks, hready, hrunning'⟩ |
      ⟨e, after, rest, q, hframe, hplayed, hrest, hmarks, hagree⟩ :=
        playing_run s start ((start - last) * Duration.ofNat 1000) hopened.gone.toReady
    · refine .inl ⟨opening ++ rest, start, q, .completed hopening hframe hmarks, hplayed, ?_, hready, ?_⟩
      · exact hrest.trans (hjoined rest)
      · exact hrunning'.trans hkept
    · refine .inr ⟨opening ++ rest, _, after, q, .failed hopening hframe hmarks, hplayed, ?_, hagree⟩
      exact hrest.trans (hjoined rest)
  | @interrupted before later q hstopped =>
    obtain ⟨opening, hopening, hwritten, -⟩ := hstopped.opening
    exact .inr ⟨opening, _, _, q, .interrupted rfl hopening, bind_of_error hrun, hwritten, rfl⟩
  | @unnamed before later q time e hstopped hread htruncate =>
    obtain ⟨opening, hopening, hwritten, hlatest⟩ := hstopped.opening
    have htime : time ∈ readings opening := by
      obtain ⟨moment, hhead, htime⟩ := Option.map_eq_some_iff.1 hread
      rw [← hlatest] at hhead
      exact List.mem_filterMap.2 ⟨moment, List.mem_of_getLast? hhead, by rw [htime]⟩
    exact .inr ⟨opening, _, _, q, .unnamed rfl hopening htime htruncate, bind_of_error hrun, hwritten, rfl⟩

/-- The frames of a running play that is in order are a course. By induction on the lists of events; after them the
window is closed. -/
theorem course_frames (hsave : s.platform.save.KnowsPng) (last : τ) (events : List (List Event)) (hp : Ready p)
    (hrunning : p.running = true) :
    (∃ parts q, Course s.around last (events ++ [[.close]]) parts none ∧ frames s last events p = .ok () q ∧
      q.journal = parts.flatten.reverse ++ p.journal) ∨
    ∃ parts stop console q, Course s.around last (events ++ [[.close]]) parts (some (stop, console)) ∧
      frames s last events p = .error stop q ∧ q.journal = parts.flatten.reverse ++ p.journal ∧
      q.console.takeReports.2 = console.takeReports.2 := by
  induction events generalizing last p with
  | nil =>
    rw [frames_nil s last hrunning]
    obtain ⟨part, start, q, hlap, hframe, hjournal, -⟩ | ⟨part, stop, console, q, hlap, hframe, hjournal, hagree⟩ :=
      lap_frame s hsave last [.close] hp
    · refine .inl ⟨[part], q, .closed hlap rfl, bind_of_ok hframe, ?_⟩
      rw [hjournal, List.flatten_singleton]
    · refine .inr ⟨[part], stop, console, q, .stopped hlap, bind_of_error hframe, ?_, hagree⟩
      rw [hjournal, List.flatten_singleton]
  | cons events rest ih =>
    rw [frames_cons s last events rest hrunning]
    obtain ⟨part, start, q, hlap, hframe, hjournal, hready, hkept⟩ |
      ⟨part, stop, console, q, hlap, hframe, hjournal, hagree⟩ := lap_frame s hsave last events hp
    · rw [hrunning, Bool.true_and] at hkept
      rw [bind_of_ok hframe]
      by_cases hcloses : events.any Event.closes
      · refine .inl ⟨[part], q, .closed hlap hcloses, frames_of_stopped s start rest (by simp [hkept, hcloses]), ?_⟩
        rw [hjournal, List.flatten_singleton]
      · have hwritten (parts : List (List (Moment τ))) :
            parts.flatten.reverse ++ q.journal = (part :: parts).flatten.reverse ++ p.journal := by
          rw [hjournal, List.flatten_cons, List.reverse_append, List.append_assoc]
        obtain ⟨parts, r, hcourse, hrun, hend⟩ | ⟨parts, stop, console, r, hcourse, hrun, hend, hagree⟩ :=
          ih start hready (by simp [hkept, hcloses])
        · exact .inl ⟨part :: parts, r, .next hlap hcloses hcourse, hrun, hend.trans (hwritten parts)⟩
        · exact .inr ⟨part :: parts, stop, console, r, .next hlap hcloses hcourse, hrun, hend.trans (hwritten parts),
            hagree⟩
    · refine .inr ⟨[part], stop, console, q, .stopped hlap, bind_of_error hframe, ?_, hagree⟩
      rw [hjournal, List.flatten_singleton]

end Play

end Chip8.Window
