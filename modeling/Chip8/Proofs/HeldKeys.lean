import Chip8.Proofs.Footprint
import Chip8.Proofs.KeyQueue
import Chip8.Proofs.Laps

/-!
# Keys at the window

The keypad of a play follows the events at the window: a key is down if the last event for its code since the last reset
is that it goes down. Lines told to the user while an event is being handled already show what it does, and however far
the console goes on from there by itself, the keys stay as they are. Each event, compared with what happened last before
it, changes the presses that nobody has asked for yet only as it may: a reset takes all of them away, a key that goes
down while it is held adds none, and events of other codes and kinds change nothing.

Main statement: `keypad_follows_events`, for all window systems that give the keys' names sixteen codes of their own.
-/

namespace Chip8

open Window (Event Happening Moment Play Host Platform Throughout lastDeed)

/-! ## One event -/

/-- Whether the key of some code is down after some events: since the last reset, the last event for the code is that
the key goes down. -/
def Window.heldDown (code : Int) (events : List Event) : Bool :=
  (events.reverse.takeWhile (· ≠ .keyDown Window.Code.f5)).find?
    (fun event => event = .keyDown code ∨ event = .keyUp code) = some (.keyDown code)

lemma Window.heldDown_concat (code : Int) (events : List Event) (event : Event) :
    heldDown code (events ++ [event]) =
      if event = .keyDown Window.Code.f5 then false
      else if event = .keyDown code then true
      else if event = .keyUp code then false
      else heldDown code events := by
  unfold heldDown
  rw [List.reverse_concat]
  by_cases hreset : event = .keyDown Window.Code.f5
  · rw [if_pos hreset, List.takeWhile_cons_of_neg (by simp [hreset])]
    rfl
  · rw [if_neg hreset, List.takeWhile_cons_of_pos (by simpa using hreset)]
    by_cases hdown : event = .keyDown code
    · rw [if_pos hdown, List.find?_cons_of_pos (by simp [hdown]), hdown]
      simp
    · rw [if_neg hdown]
      by_cases hup : event = .keyUp code
      · rw [if_pos hup, List.find?_cons_of_pos (by simp [hup]), hup]
        simp
      · rw [if_neg hup, List.find?_cons_of_neg (by simp [hdown, hup])]

namespace Keypad

/-- What an event makes of a keypad whose keys have the given codes. -/
inductive Heeds (code : Key → Int) : Event → Keypad → Keypad → Prop
  | reset {old : Keypad} : Heeds code (.keyDown Window.Code.f5) old .idle
  | pressed {old : Keypad} (key : Key) : Heeds code (.keyDown (code key)) old (old.press key key.val)
  | released {old : Keypad} (key : Key) : Heeds code (.keyUp (code key)) old (old.release key)
  | ignored {old : Keypad} {event : Event} (hreset : event ≠ .keyDown Window.Code.f5)
    (hunbound : ∀ key, event ≠ .keyDown (code key) ∧ event ≠ .keyUp (code key)) : Heeds code event old old

/-- What an event does to the presses that nobody has asked for yet, and when it does nothing at all. -/
structure Answers (code : Key → Int) (event : Event) (old new : Keypad) : Prop where
  reset : event = .keyDown Window.Code.f5 → new = .idle
  counted : ∀ key, event = .keyDown (code key) → old.down.get key = false →
    new.pending = newest (old.pending ++ [(key.val : Int)])
  repeated : ∀ key, event = .keyDown (code key) → old.down.get key = true → new = old
  released : ∀ key, event = .keyUp (code key) → new.pending = old.pending
  unbound : event ≠ .keyDown Window.Code.f5 → (∀ key, event ≠ .keyDown (code key) ∧ event ≠ .keyUp (code key)) →
    new = old

/-- Each key is down if it is held down after the events. -/
def Follows (code : Key → Int) (events : List Event) (k : Keypad) : Prop :=
  ∀ key, k.down.get key = Window.heldDown (code key) events

variable {code : Key → Int} {event : Event} {events : List Event} {old new : Keypad}

lemma follows_idle (code : Key → Int) : idle.Follows code [] := by
  intro key
  simp [idle, Window.heldDown, Vector.get]

namespace Heeds

variable (hdistinct : Function.Injective code) (hfree : ∀ key, code key ≠ Window.Code.f5)

include hdistinct hfree

/-- A key that follows the events so far follows one more. -/
lemma follows (h : Heeds code event old new) (hold : old.Follows code events) :
    new.Follows code (events ++ [event]) := by
  intro key
  rw [Window.heldDown_concat]
  cases h with
  | reset =>
    rw [if_pos rfl]
    simp [idle, Vector.get]
  | pressed pressed =>
    rw [if_neg (by simpa using hfree pressed), down_press, get_put]
    by_cases hkey : pressed = key
    · rw [if_pos hkey, if_pos (by rw [hkey])]
    · rw [if_neg hkey, if_neg (by simpa using fun hcode => hkey (hdistinct hcode)), if_neg (by simp)]
      exact hold key
  | released released =>
    rw [if_neg (by simp), if_neg (by simp)]
    refine (get_put old.down released key false).trans ?_
    by_cases hkey : released = key
    · rw [if_pos hkey, if_pos (by rw [hkey])]
    · rw [if_neg hkey, if_neg (by simpa using fun hcode => hkey (hdistinct hcode))]
      exact hold key
  | ignored hreset hunbound =>
    rw [if_neg hreset, if_neg (hunbound key).1, if_neg (hunbound key).2]
    exact hold key

lemma answers (h : Heeds code event old new) : Answers code event old new := by
  cases h with
  | reset =>
    refine ⟨fun _ => rfl, fun key hkey => ?_, fun key hkey => ?_, nofun, fun hreset => absurd rfl hreset⟩
    · exact absurd (Event.keyDown.inj hkey).symm (hfree key)
    · exact absurd (Event.keyDown.inj hkey).symm (hfree key)
  | pressed pressed =>
    refine ⟨fun hreset => ?_, fun key hkey hup => ?_, fun key hkey hdown => ?_, nofun, fun _ hunbound => ?_⟩
    · exact absurd (Event.keyDown.inj hreset) (hfree pressed)
    · obtain rfl := hdistinct (Event.keyDown.inj hkey)
      have hnew : ¬old.down[pressed] = true := fun hheld => Bool.false_ne_true (hup.symm.trans hheld)
      rw [press, if_neg hnew]
    · obtain rfl := hdistinct (Event.keyDown.inj hkey)
      exact if_pos hdown
    · exact absurd rfl (hunbound pressed).1
  | released released =>
    exact ⟨nofun, nofun, nofun, fun _ _ => rfl, fun _ hunbound => absurd rfl (hunbound released).2⟩
  | ignored hreset hunbound =>
    exact ⟨fun h => absurd h hreset, fun key hkey => absurd hkey (hunbound key).1, fun _ _ _ => rfl, fun _ _ => rfl,
      fun _ _ => rfl⟩

end Heeds

end Keypad

/-- Steps leave the keys as they are. -/
lemma Machine.keys_step (around : Surroundings) (down : Vector Bool 16) :
    Keeps (fun m => m.WellFormed ∧ m.keypad.down = down) (Action.step around) := by
  intro m h
  refine ⟨step_keeps_wellFormed around m h.1, ?_⟩
  have hstep := step_stepped around h.1
  generalize Action.step around m = result at hstep
  cases hstep with
  | waited _ =>
    change m.resumed.keypad.down = down
    unfold Machine.resumed
    split <;> exact h.2
  | ranOut _ _ => exact h.2
  | stopped _ _ _ => exact h.2
  | executed _ hword hdecode _ => exact (footprint_effect around h.1 hword hdecode).down.trans h.2

lemma Console.keys_frame {τ : Type} [Duration τ] (around : Surroundings) (down : Vector Bool 16) (elapsed : τ)
    (instructions : Int) :
    Keeps (fun c : Console τ => c.machine.WellFormed ∧ c.machine.keypad.down = down)
      (Console.frame around elapsed instructions) :=
  keeps_frame (fun _ h => ⟨h.1.ticked, h.2⟩) (Machine.keys_step around down) elapsed instructions

namespace Window

variable {τ σ : Type}

/-! ## The events of a journal -/

/-- The event that is being handled as something happens. Lines told to the user belong to what comes next. -/
def Happening.underway (upcoming : Option Event) : Happening τ → Option Event
  | .handled event => some event
  | .printed _ => upcoming
  | _ => none

/-- The event that is being handled at the first of some moments. -/
def underway (upcoming : Option Event) (moments : List (Moment τ)) : Option Event :=
  moments.foldr (fun moment upcoming => moment.happening.underway upcoming) upcoming

lemma underway_concat (upcoming : Option Event) (moment last : Moment τ) (after : List (Moment τ)) :
    underway upcoming (moment :: (after ++ [last])) = underway (last.happening.underway upcoming) (moment :: after) :=
  List.foldr_append (l := moment :: after)

/-- A moment at which the keypad follows the events handled before and the one that is being handled. Once that is
done, it has answered it. -/
structure Moment.Follows (code : Key → Int) (before : List (Moment τ)) (event? : Option Event) (moment : Moment τ) :
    Prop where
  wellFormed : moment.console.machine.WellFormed
  keypad : moment.console.machine.keypad.Follows code (heard before ++ event?.toList)
  answers : ∀ event, moment.happening = .handled event → ∃ prior, lastDeed before = some prior ∧
    Keypad.Answers code event prior.console.machine.keypad moment.console.machine.keypad

namespace Play

/-- A play in which the keypad has followed the events so far, and the upcoming one if it is being handled. -/
structure Heeding (code : Key → Int) (upcoming : Option Event) (p : Play τ σ) : Prop where
  wellFormed : p.console.machine.WellFormed
  keypad : p.console.machine.keypad.Follows code (heard p.journal.reverse ++ upcoming.toList)
  past : Throughout (fun before moment after => moment.Follows code before (underway upcoming (moment :: after)))
    p.journal.reverse

/-- A play in which an event has changed the keypad as it should, and has not yet been noted. -/
structure Answering (code : Key → Int) (event : Event) (p : Play τ σ) : Prop extends Heeding code (some event) p where
  answers : ∃ prior, lastDeed p.journal.reverse = some prior ∧
    Keypad.Answers code event prior.console.machine.keypad p.console.machine.keypad

/-- The window's codes lead to the keys that they were given to. -/
def Bound (code : Key → Int) (p : Play τ σ) : Prop :=
  ∀ keycode key, p.bindings.lookup keycode = some key ↔ code key = keycode

variable {code : Key → Int} {upcoming : Option Event} {event : Event} {p : Play τ σ} {console : Console τ}

namespace Heeding

/-- Anything noted but that an event was handled; in the middle of an event, only lines. -/
lemma noted (h : Heeding code upcoming p) {happening : Happening τ} (hother : ∀ event, happening ≠ .handled event)
    (hline : happening.underway upcoming = upcoming) : Heeding code upcoming (p.noted happening) where
  wellFormed := h.wellFormed
  keypad := by
    rw [journal_noted, heard_concat _ hother]
    exact h.keypad
  past := by
    rw [journal_noted, throughout_concat]
    constructor
    · intro before moment after hsplit
      rw [underway_concat, hline]
      exact h.past before moment after hsplit
    · refine ⟨h.wellFormed, ?_, fun event hhandled => absurd hhandled (hother event)⟩
      change Keypad.Follows code (_ ++ (happening.underway upcoming).toList) _
      rw [hline]
      exact h.keypad

lemma withConsole (h : Heeding code upcoming p) (hconsole : console.machine.WellFormed)
    (hdown : console.machine.keypad.down = p.console.machine.keypad.down) :
    Heeding code upcoming (p.withConsole console) where
  wellFormed := hconsole
  keypad key := (congrArg (·.get key) hdown).trans (h.keypad key)
  past := h.past

/-- What an event does to the keypad of a play that is ready for it. -/
lemma answering (h : Heeding code none p) (hpoised : p.Poised) (hdistinct : Function.Injective code)
    (hfree : ∀ key, code key ≠ Code.f5) (hconsole : console.machine.WellFormed)
    (hheeds : Keypad.Heeds code event p.console.machine.keypad console.machine.keypad) :
    Answering code event (p.withConsole console) where
  wellFormed := hconsole
  keypad := by
    have hfollows := h.keypad
    rw [Option.toList_none, List.append_nil] at hfollows
    exact hheeds.follows hdistinct hfree hfollows
  past := by
    -- what was noted last is no line, so the event that is now being handled is not underway at any earlier moment
    obtain ⟨happening, earlier, hjournal, hdeed⟩ := hpoised
    have hpast := h.past
    have hsame : happening.underway (some event) = happening.underway none := by
      cases happening with
      | printed text => cases hdeed
      | _ => rfl
    change Throughout _ p.journal.reverse
    rw [hjournal, List.reverse_cons, throughout_concat] at hpast ⊢
    refine ⟨fun before moment after hsplit => ?_, ?_⟩
    · have hfollows := hpast.1 before moment after hsplit
      dsimp only at hfollows ⊢
      rw [underway_concat] at hfollows ⊢
      rwa [hsame]
    · have hlast := hpast.2
      change Moment.Follows code _ (happening.underway none) _ at hlast
      change Moment.Follows code _ (happening.underway (some event)) _
      rwa [hsame]
  answers := by
    obtain ⟨happening, hlast⟩ := hpoised.lastDeed
    exact ⟨_, hlast, hheeds.answers hdistinct hfree⟩

end Heeding

lemma Answering.noted (h : Answering code event p) : Heeding code none (p.noted (.handled event)) where
  wellFormed := h.wellFormed
  keypad := by
    rw [journal_noted, heard_handled, Option.toList_none, List.append_nil]
    exact h.keypad
  past := by
    rw [journal_noted, throughout_concat]
    constructor
    · intro before moment after hsplit
      rw [underway_concat]
      exact h.past before moment after hsplit
    · refine ⟨h.wellFormed, h.keypad, ?_⟩
      rintro _ ⟨rfl⟩
      exact h.answers

/-- Nothing but events and loading touches the keys. -/
lemma heeding_unmoved : Unmoved (Heeding code none : Play τ σ → Prop) where
  printed _ _ h := h.noted nofun rfl
  taken _ h := h.withConsole { h.wellFormed with } rfl
  stored _ _ h := ⟨h.wellFormed, h.keypad, h.past⟩
  timed _ _ h := h.noted nofun rfl
  moved _ _ _ _ h := ⟨h.wellFormed, h.keypad, h.past⟩
  queued _ _ _ _ h := h.noted nofun rfl
  slept _ _ h := h.noted nofun rfl
  called _ _ _ h := h.noted nofun rfl
  equipped _ _ _ _ h := ⟨h.wellFormed, h.keypad, h.past⟩

/-- A play between events whose keys have their codes. -/
def Attentive (code : Key → Int) (p : Play τ σ) : Prop := Heeding code none p ∧ p.Bound code

lemma attentive_undisturbed : Undisturbed (Attentive code : Play τ σ → Prop) where
  printed p text h := ⟨heeding_unmoved.printed p text h.1, h.2⟩
  taken p h := ⟨heeding_unmoved.taken p h.1, h.2⟩
  stored p disk h := ⟨heeding_unmoved.stored p disk h.1, h.2⟩
  timed p time h := ⟨heeding_unmoved.timed p time h.1, h.2⟩
  moved p wave clock hwave h := ⟨heeding_unmoved.moved p wave clock hwave h.1, h.2⟩
  queued p device samples haudio h := ⟨heeding_unmoved.queued p device samples haudio h.1, h.2⟩
  slept p time h := ⟨heeding_unmoved.slept p time h.1, h.2⟩

/-- The same, and the play is ready for an event. -/
def Expecting (code : Key → Int) (p : Play τ σ) : Prop := Attentive code p ∧ p.Poised

/-- A play in the middle of an event, once it has changed the keypad. -/
def Replying (code : Key → Int) (event : Event) (p : Play τ σ) : Prop := Answering code event p ∧ p.Bound code

lemma replying_untold : Untold (Replying code event : Play τ σ → Prop) where
  printed p text h := by
    obtain ⟨prior, hlast, hanswers⟩ := h.1.answers
    refine ⟨⟨h.1.toHeeding.noted nofun rfl, prior, ?_, hanswers⟩, h.2⟩
    rw [lastDeed_noted]
    exact hlast
  taken _ h := ⟨⟨h.1.toHeeding.withConsole { h.1.wellFormed with } rfl, h.1.answers⟩, h.2⟩
  stored _ _ h := ⟨⟨⟨h.1.wellFormed, h.1.keypad, h.1.past⟩, h.1.answers⟩, h.2⟩

section Events

variable (hdistinct : Function.Injective code)
  (hfree : ∀ key, code key ≠ Code.escape ∧ code key ≠ Code.f5 ∧ code key ≠ Code.f12)

include hdistinct hfree

/-- Something done to the console of a play that is ready for an event. -/
lemma replying_onConsole {act : Console.Action τ Unit} (hp : Expecting code p)
    (hact : (ending (act p.console)).machine.WellFormed ∧
      Keypad.Heeds code event p.console.machine.keypad (ending (act p.console)).machine.keypad) :
    Replying code event (ending (onConsole act p)) := by
  refine replying_untold.onConsole (P := (· = p)) ?_ p rfl
  rintro _ rfl
  exact ⟨hp.1.1.answering hp.2 hdistinct (fun key => (hfree key).2.1) hact.1 hact.2, hp.1.2⟩

/-- An event that does nothing to the keypad. -/
lemma replying_ignored (hp : Expecting code p)
    (hreset : event ≠ .keyDown Code.f5) (hunbound : ∀ key, event ≠ .keyDown (code key) ∧ event ≠ .keyUp (code key)) :
    Replying code event p := by
  have hsame : Answering code event (p.withConsole p.console) :=
    hp.1.1.answering hp.2 hdistinct (fun key => (hfree key).2.1) hp.1.1.wellFormed (.ignored hreset hunbound)
  exact ⟨hsame, hp.1.2⟩

/-- A bound key goes down. -/
lemma replying_press (keycode : Int) (hreset : keycode ≠ Code.f5) :
    Leads (Expecting code) (Replying code (.keyDown keycode)) (do
      match (← get).bindings.lookup keycode with
      | some key => onConsole (Console.onMachine (.pressKey key.val))
      | none => pure () : Action τ σ Unit) := by
  intro p hp
  rw [get_bind]
  cases hlookup : p.bindings.lookup keycode with
  | some key =>
    obtain rfl := (hp.1.2 keycode key).1 hlookup
    refine replying_onConsole hdistinct hfree hp ?_
    rw [ending_onMachine, Action.pressKey_run, slot?_val]
    exact ⟨Machine.wellFormed_keptAside.pressed _ _ _ hp.1.1.wellFormed, .pressed key⟩
  | none =>
    refine replying_ignored hdistinct hfree hp (by simpa using hreset) fun key => ⟨?_, nofun⟩
    rintro ⟨rfl⟩
    rw [(hp.1.2 (code key) key).2 rfl] at hlookup
    cases hlookup

/-- A bound key goes up. -/
lemma replying_release (keycode : Int) :
    Leads (Expecting code) (Replying code (.keyUp keycode)) (do
      match (← get).bindings.lookup keycode with
      | some key => onConsole (Console.onMachine (.releaseKey key.val))
      | none => pure () : Action τ σ Unit) := by
  intro p hp
  rw [get_bind]
  cases hlookup : p.bindings.lookup keycode with
  | some key =>
    obtain rfl := (hp.1.2 keycode key).1 hlookup
    refine replying_onConsole hdistinct hfree hp ?_
    rw [ending_onMachine, Action.releaseKey_run, slot?_val]
    exact ⟨Machine.wellFormed_keptAside.released _ _ hp.1.1.wellFormed, .released key⟩
  | none =>
    refine replying_ignored hdistinct hfree hp nofun fun key => ⟨nofun, ?_⟩
    rintro ⟨rfl⟩
    rw [(hp.1.2 (code key) key).2 rfl] at hlookup
    cases hlookup

variable [Duration τ] (s : Host τ σ)

lemma replying_reset : Leads (Expecting code) (Replying code (.keyDown Code.f5))
    (do onConsole Console.reset; print "Reset CHIP-8" : Action τ σ Unit) := by
  refine leads_bind (fun p hp => ?_) (fun _ h => h) fun _ => replying_untold.print _
  refine replying_onConsole hdistinct hfree hp ?_
  have hidle : p.console.renewed.machine.keypad = .idle := rfl
  rw [p.console.reset_run]
  refine ⟨p.console.wellFormed_renewed, ?_⟩
  rw [ending, hidle]
  exact .reset

/-- An event changes the keypad as it should, unless it stops the play and changes nothing. -/
lemma expecting_react (event : Event) :
    Ends (Expecting code) (react s event) (fun _ => Replying code event) (Heeding code none) := by
  have hignored (event : Event) (hreset : event ≠ .keyDown Code.f5)
      (hunbound : ∀ key, event ≠ .keyDown (code key) ∧ event ≠ .keyUp (code key)) (p : Play τ σ)
      (hp : Expecting code p) : Replying code event p :=
    replying_ignored hdistinct hfree hp hreset hunbound
  have hplain (keycode : Int) (hreset : keycode ≠ Code.f5) (hunbound : ∀ key, code key ≠ keycode) (p : Play τ σ)
      (hp : Expecting code p) : Replying code (.keyDown keycode) p :=
    hignored (.keyDown keycode) (by simpa using hreset)
      (fun key => ⟨fun hkey => hunbound key (Event.keyDown.inj hkey).symm, by simp⟩) p hp
  have hpicture (name : String) : Ends (Expecting code) (saveScreenshot s name)
      (fun _ => Replying code (.keyDown Code.f12)) (Heeding code none) :=
    ends_saveScreenshot replying_untold (hplain Code.f12 (by decide) fun key => (hfree key).2.2) (fun _ hp => hp.1.1) s
      name
  have hstopped (p : Play τ σ) (hp : Expecting code p) :
      Expecting code { p with running := false } :=
    ⟨⟨heeding_unmoved.equipped p _ _ _ hp.1.1, hp.1.2⟩, hp.2⟩
  have hnow : Ends (Expecting code) (now s) (fun _ => Expecting code)
      (Heeding code none) := (attentive_undisturbed.ends_now s).of_before fun _ hp => hp.1
  cases event with
  | close => exact ends_modify fun p hp => hignored .close (by simp) (by simp) _ (hstopped p hp)
  | keyDown keycode =>
    rw [react, keyDown]
    split
    · rename_i hescape
      rw [hescape]
      exact ends_modify fun p hp => hplain Code.escape (by decide) (fun key => (hfree key).1) _ (hstopped p hp)
    · split
      · rename_i hf5
        rw [hf5]
        exact succeeds_resetKey.ends (replying_reset hdistinct hfree)
      · rename_i hother
        split
        · rename_i hf12
          rw [hf12]
          refine ends_bind hnow fun time => ?_
          refine ends_bind (Leads.ends (keeps_demand _) fun _ hp => hp.1.1) fun seconds => ?_
          exact hpicture _
        · exact (succeeds_bound keycode succeeds_press).ends (replying_press hdistinct hfree keycode hother)
  | keyUp keycode => exact (succeeds_bound keycode succeeds_release).ends (replying_release hdistinct hfree keycode)
  | other => exact ends_pure (hignored .other (by simp) (by simp))
  | interrupt => exact ends_throw fun p hp => hp.1.1

lemma expecting_handle (event : Event) :
    Ends (Expecting code) (handle s event) (fun _ => Expecting code)
      (Heeding code none) := by
  rw [handle_eq]
  refine ends_bind (expecting_react hdistinct hfree s event) fun _ => ends_modify fun p hp => ?_
  exact ⟨⟨hp.1.noted, hp.2⟩, poised_noted p rfl⟩

lemma attentive_frame (lastTime : τ) (events : List Event) :
    Ends (Attentive code) (frame s lastTime events) (fun _ => Attentive code) (Heeding code none) := by
  have hcall {c : Call τ} : Keeps (Attentive code) (call c : Action τ σ Unit) :=
    fun p h => ⟨h.1.noted nofun rfl, h.2⟩
  have hframe (elapsed : τ) (instructions : Int) :
      Keeps (Attentive code) (onConsole (Console.frame s.around elapsed instructions) : Action τ σ Nat) := by
    refine attentive_undisturbed.onConsole fun p h => ?_
    obtain ⟨hwell, hdown⟩ := Console.keys_frame s.around _ elapsed instructions p.console ⟨h.1.wellFormed, rfl⟩
    exact ⟨h.1.withConsole hwell hdown, h.2⟩
  have hupload : Keeps (Attentive code) (upload : Action τ σ Unit) :=
    attentive_undisturbed.upload (fun p pixels => hcall p) fun p h =>
      ⟨h.1.withConsole { h.1.wellFormed with } rfl, h.2⟩
  have hpaint : Keeps (Attentive code) (paint : Action τ σ Unit) :=
    keeps_bind hcall fun _ => keeps_bind hcall fun _ => keeps_bind hcall fun _ => hcall
  have hshow (start : τ) (ticks : Nat) : Keeps (Attentive code) (showing s start ticks) := by
    refine keeps_bind (fun p h => ⟨h.1.noted nofun rfl, h.2⟩) fun _ => keeps_bind hupload fun _ => ?_
    refine keeps_bind hpaint fun _ => keeps_bind attentive_undisturbed.queueTone fun _ => ?_
    exact keeps_bind (attentive_undisturbed.pace s start) fun _ => keeps_pure _
  refine ends_bind (attentive_undisturbed.ends_now s) fun start => ?_
  refine ends_bind (ends_forM fun event _ => expecting_handle hdistinct hfree s event) fun _ => ?_
  refine Leads.ends ?_ fun _ h => h.1
  exact fun p hp => keeps_bind (hframe _ _) (fun ticks => hshow start ticks) p hp.1

end Events

/-! ## The bindings of the keys -/

lemma lookup_codes (hdistinct : Function.Injective code) (keys : List Key) (keycode : Int) (key : Key) :
    (keys.map fun key => (code key, key)).lookup keycode = some key ↔ key ∈ keys ∧ code key = keycode := by
  induction keys with
  | nil => simp
  | cons first rest ih =>
    rw [List.map_cons, List.lookup_cons, List.mem_cons]
    by_cases hfirst : keycode = code first
    · simp only [hfirst, beq_self_eq_true, Option.some.injEq]
      constructor
      · rintro rfl
        exact ⟨.inl rfl, rfl⟩
      · exact fun h => (hdistinct h.2).symm
    · rw [beq_false_of_ne hfirst]
      refine ih.trans ⟨fun h => ⟨.inr h.1, h.2⟩, ?_⟩
      rintro ⟨rfl | hmem, hcode⟩
      · exact absurd hcode.symm hfirst
      · exact ⟨hmem, hcode⟩

lemma bindings_forM {bind : String × Key → Action τ σ PUnit} {pairs : List (String × Key)}
    (hbind : ∀ pair ∈ pairs, ∀ p, bind pair p = .ok ⟨⟩ { p with bindings := (code pair.2, pair.2) :: p.bindings })
    (p : Play τ σ) :
    pairs.forM bind p =
      .ok ⟨⟩ { p with bindings := ((pairs.map Prod.snd).map fun key => (code key, key)).reverse ++ p.bindings } := by
  induction pairs generalizing p with
  | nil => rfl
  | cons pair pairs ih =>
    have hfirst := hbind pair List.mem_cons_self p
    have hrest := ih fun pair hmem => hbind pair (List.mem_cons_of_mem _ hmem)
    have hpairs : (pair :: pairs).forM bind = bind pair >>= fun _ => pairs.forM bind := rfl
    rw [hpairs, bind_of_ok hfirst, hrest, List.map_cons, List.map_cons, List.reverse_cons, List.append_assoc]
    rfl

/-- A play before its keys are bound. -/
def Unbound (code : Key → Int) (p : Play τ σ) : Prop := Heeding code none p ∧ p.bindings = []

/-- A play that has its keys bound if the window could be opened. -/
def Started (code : Key → Int) (started : Bool) (p : Play τ σ) : Prop :=
  Heeding code none p ∧ (started = true → p.Bound code)

lemma unbound_untold : Untold (Unbound code : Play τ σ → Prop) where
  printed p text h := ⟨heeding_unmoved.printed p text h.1, h.2⟩
  taken p h := ⟨heeding_unmoved.taken p h.1, h.2⟩
  stored p disk h := ⟨heeding_unmoved.stored p disk h.1, h.2⟩

section Opening

variable (s : Host τ σ)

lemma unbound_called (c : Call τ) (h : Unbound code p) : Unbound code (p.noted (.called c)) :=
  ⟨h.1.noted nofun rfl, h.2⟩

lemma unbound_held (holdings : Holdings) (h : Unbound code p) : Unbound code { p with holdings } :=
  ⟨heeding_unmoved.equipped p _ _ _ h.1, h.2⟩

/-- Something asked of the window system, and then the rest. -/
lemma unbound_asking (c : Call τ) (refused : Bool) (what : String) (f : Holdings → Holdings) {next : Action τ σ Bool}
    (hnext : Ends (Unbound code) next (Started code) (Heeding code none)) :
    Ends (Unbound code) (do
      call c
      if refused then
        complain s what
      else
        modify fun p => { p with holdings := f p.holdings }
        next : Action τ σ Bool) (Started code) (Heeding code none) := by
  refine ends_bind (ends_modify fun p h => unbound_called c h) fun _ => ?_
  split
  · refine ends_bind (Leads.ends (unbound_untold.print _) fun _ h => h.1) fun _ => ?_
    exact ends_pure fun p h => ⟨h.1, nofun⟩
  · exact ends_bind (ends_modify fun p h => unbound_held _ h) fun _ => hnext

variable (hdistinct : Function.Injective code)
  (hcodes : ∀ name key, (name, key) ∈ Settings.keyNames.zip (List.finRange 16) →
    s.platform.keycode name = some (code key))

include hdistinct hcodes

lemma bound_bindKeys : Leads (Unbound code) (Attentive code) (bindKeys s) := by
  intro p h
  have hkeys : (Settings.keyNames.zip (List.finRange 16)).map Prod.snd = List.finRange 16 := by decide
  have hrun : bindKeys s p = .ok ⟨⟩
      { p with bindings := ((List.finRange 16).map fun key => (code key, key)).reverse ++ p.bindings } := by
    rw [← hkeys]
    refine bindings_forM ?_ p
    rintro ⟨name, key⟩ hmem p
    dsimp only
    rw [hcodes name key hmem]
    rfl
  rw [hrun, h.2, List.append_nil, ← List.map_reverse]
  refine ⟨heeding_unmoved.equipped p _ _ _ h.1, fun keycode key => ?_⟩
  rw [ending, lookup_codes hdistinct]
  exact ⟨And.right, fun hcode => ⟨by simp, hcode⟩⟩

/-- Once the window is open the keys have their codes. -/
lemma unbound_start : Ends (Unbound code) (start s) (Started code) (Heeding code none) := by
  have haudio : Keeps (Unbound code) (openAudio s) := by
    refine keeps_bind (fun p h => unbound_called _ h) fun _ => ?_
    split
    · exact keeps_modify fun p h => unbound_held _ h
    · exact keeps_bind (unbound_untold.complain s _) fun _ => keeps_pure _
  have hpast {α : Type} {act : Action τ σ α} {N : Play τ σ → Prop} (hact : Leads N (Attentive code) act) :
      Ends N act (fun _ => Attentive code) (Heeding code none) := hact.ends fun _ h => h.1
  have htexture : Ends (Unbound code) (openTexture s) (Started code) (Heeding code none) := by
    unfold openTexture
    refine unbound_asking s _ _ _ (fun held => { held with texture := true }) ?_
    refine ends_bind (Leads.ends haudio fun _ h => h.1) fun _ => ?_
    refine ends_bind (hpast (bound_bindKeys s hdistinct hcodes)) fun _ => ?_
    refine ends_bind (hpast (attentive_undisturbed.print _)) fun _ => ?_
    exact ends_pure fun p h => ⟨h.1, fun _ => h.2⟩
  have hrenderer : Ends (Unbound code) (openRenderer s) (Started code) (Heeding code none) :=
    unbound_asking s _ _ _ (fun held => { held with renderer := true }) htexture
  have hwindow : Ends (Unbound code) (openWindow s) (Started code) (Heeding code none) :=
    unbound_asking s _ _ _ (fun held => { held with window := true }) hrenderer
  exact unbound_asking s _ _ _ id hwindow

end Opening

lemma attentive_greet : Keeps (Attentive code) (greet : Action τ σ Unit) := by
  have hgreeting : Keeps (Attentive code) (greeting.forM print : Action τ σ Unit) :=
    keeps_forM _ attentive_undisturbed.print
  have hcall {c : Call τ} : Keeps (Attentive code) (call c : Action τ σ Unit) :=
    fun p h => ⟨h.1.noted nofun rfl, h.2⟩
  refine keeps_bind (keeps_modify fun p h => ⟨heeding_unmoved.equipped p _ _ _ h.1, h.2⟩) fun _ => ?_
  refine keeps_bind keeps_get fun p => ?_
  cases p.holdings.audio with
  | none => exact hgreeting
  | some device => exact keeps_bind hcall fun _ => hgreeting

/-- A play in which no event has been handled yet. -/
def Unheard (code : Key → Int) (p : Play τ σ) : Prop := Unbound code p ∧ heard p.journal.reverse = []

lemma unheard_untold : Untold (Unheard code : Play τ σ → Prop) where
  printed p text h := by
    have hline : ∀ event, (.printed text : Happening τ) ≠ .handled event := nofun
    refine ⟨unbound_untold.printed p text h.1, ?_⟩
    rw [journal_noted, heard_concat _ hline]
    exact h.2
  taken p h := ⟨unbound_untold.taken p h.1, h.2⟩
  stored p disk h := ⟨unbound_untold.stored p disk h.1, h.2⟩

variable [Duration τ]

lemma unheard_load (name : String) : Keeps (Unheard code) (load name : Action τ σ (Option String)) := by
  refine unheard_untold.load fun p program h => ?_
  have hload : Keeps (fun c : Console τ => c.machine.WellFormed ∧ c.machine.keypad.Follows code [])
      (Console.loadFile name program) := by
    refine keeps_bind (fun c hc => ?_) fun _ c hc => ?_
    · obtain hfit | hlarge := le_or_gt program.length programLimit
      · rw [load_of_fits hfit]
        exact ⟨Console.wellFormed_renewed _, Keypad.follows_idle code⟩
      · rw [load_of_large hlarge]
        exact hc
    · rw [onMachine_of_ok (Action.report_run _)]
      exact ⟨{ hc.1 with }, hc.2⟩
  have hbefore := h.1.1.keypad
  rw [h.2] at hbefore
  obtain ⟨hwell, hkeypad⟩ := hload p.console ⟨h.1.1.wellFormed, hbefore⟩
  refine ⟨⟨⟨hwell, ?_, h.1.1.past⟩, h.1.2⟩, h.2⟩
  change Keypad.Follows code (heard p.journal.reverse ++ _) _
  rw [h.2]
  exact hkeypad

/-- However a run ends, the keypad has followed the events. -/
lemma leads_unheard_run (s : Host τ σ) (hdistinct : Function.Injective code)
    (hfree : ∀ key, code key ≠ Code.escape ∧ code key ≠ Code.f5 ∧ code key ≠ Code.f12)
    (hcodes : ∀ name key, (name, key) ∈ Settings.keyNames.zip (List.finRange 16) →
      s.platform.keycode name = some (code key)) (name : String) (events : List (List Event)) :
    Leads (Unheard code) (Heeding code none) (run s name events) := by
  have hpast {α : Type} {act : Action τ σ α} (hact : Keeps (Attentive code) act) :
      Ends (Attentive code) act (fun _ => Attentive code) (Heeding code none) :=
    Leads.ends hact fun _ h => h.1
  have hplay : Leads (Unbound code) (Heeding code none) (play s events) :=
    leads_play (unbound_start s hdistinct hcodes) (fun _ h => h.1)
      ((hpast attentive_greet).of_before fun _ h => ⟨h.1, h.2 rfl⟩) (hpast (attentive_undisturbed.now s))
      (fun last list _ => attentive_frame hdistinct hfree s last list) (fun _ _ h => h.1) heeding_unmoved.toUnswayed
  exact leads_run (unheard_load name) (fun p h => hplay p h.1) (fun _ h => h.1.1) heeding_unmoved.toUntold

end Play

end Window

namespace CommandLine.PlayInWindow

open Window (heard heldDown underway)

variable {τ σ : Type} [Duration τ]

/-- At every moment of a play a key is down exactly if the events so far hold it down, and each event changes the
pending presses only as it may. -/
theorem keypad_follows_events (platform : Platform τ σ) (random : Nat → UInt8) (clock : σ) (events : List (List Event))
    (arguments : List String) (disk : Disk) {code : Key → Int} (hdistinct : Function.Injective code)
    (hfree : ∀ key, code key ≠ Window.Code.escape ∧ code key ≠ Window.Code.f5 ∧ code key ≠ Window.Code.f12)
    (hcodes : ∀ name key, (name, key) ∈ Settings.keyNames.zip (List.finRange 16) →
      platform.keycode name = some (code key)) :
    let journal := (run platform random clock events arguments disk).journal
    (∀ before moment after, journal = before ++ moment :: after → ∀ key,
      let held := heldDown (code key) (heard before ++ (underway none (moment :: after)).toList)
      moment.console.machine.keypad.down.get key = held ∧
      ∀ elapsed instructions, (ending (Console.frame ⟨Dialect.modern, random⟩ elapsed instructions
        moment.console)).machine.keypad.down.get key = held) ∧
    ∀ before event console after, journal = before ++ ⟨.handled event, console⟩ :: after →
      ∃ prior, lastDeed before = some prior ∧
        Keypad.Answers code event prior.console.machine.keypad console.machine.keypad := by
  intro journal
  have hpast : Throughout (fun before moment after => moment.Follows code before (underway none (moment :: after)))
      journal := by
    obtain hnone | ⟨name, hrun⟩ : journal = [] ∨ ∃ name, journal = _ :=
      Play.journal_run platform random clock events arguments disk
    · rw [hnone]
      intro before moment after hsplit
      simp at hsplit
    · let start : Play τ σ := Play.fresh (arguments.contains "--debug") clock disk
      have hstart : Play.Unheard code start := by
        refine ⟨⟨⟨{ Machine.fresh_wellFormed with }, Keypad.follows_idle code, ?_⟩, rfl⟩, rfl⟩
        intro before moment after hsplit
        simp [start, Play.fresh] at hsplit
      rw [hrun]
      exact (Play.leads_unheard_run ⟨⟨Dialect.modern, random⟩, platform⟩ hdistinct hfree hcodes name events start
        hstart).past
  refine ⟨fun before moment after hsplit key => ?_, fun before event console after hsplit => ?_⟩
  · have hfollows := hpast before moment after hsplit
    refine ⟨hfollows.keypad key, fun elapsed instructions => ?_⟩
    have hkept := Console.keys_frame ⟨Dialect.modern, random⟩ _ elapsed instructions moment.console
      ⟨hfollows.wellFormed, rfl⟩
    exact (congrArg (·.get key) hkept.2).trans (hfollows.keypad key)
  · exact (hpast before _ after hsplit).answers event rfl

/-- The keys' codes are those of their letters. When the user is told of a reset, a key that was held is already up. -/
theorem keypad_follows_events_reset :
    let platform : Platform Rat (Window.Ticking Rat) :=
      { works := fun _ => true, complaint := "",
        keycode := fun name => name.toList.head?.map fun letter => (letter.toNat : Int), clock := Window.Ticking.clock }
    let disk : Disk := ⟨[], [(["prog.ch8"], [0x12, 0x00])], [], []⟩
    let code (key : Key) : Int := if key.val < 10 then 48 + key.val else 55 + key.val
    let events : List (List Event) := [[.keyDown 49, .keyUp 50, .keyDown Window.Code.f5, .interrupt]]
    let journal := (run platform (fun _ => 9) ⟨1000, [], [1 / 128]⟩ events ["prog.ch8"] disk).journal
    Function.Injective code ∧
    (∀ key, code key ≠ Window.Code.escape ∧ code key ≠ Window.Code.f5 ∧ code key ≠ Window.Code.f12) ∧
    (∀ name key, (name, key) ∈ Settings.keyNames.zip (List.finRange 16) → platform.keycode name = some (code key)) ∧
    ∃ before moment after, journal = before ++ moment :: after ∧ moment.happening = .printed "Reset CHIP-8" ∧
      heard before = [.keyDown 49, .keyUp 50] ∧ moment.console.machine.keypad.down.get 1 = false := by
  intro platform disk code events journal
  have hdistinct : Function.Injective code := by
    unfold Function.Injective
    decide
  have hfree : ∀ key, code key ≠ Window.Code.escape ∧ code key ≠ Window.Code.f5 ∧ code key ≠ Window.Code.f12 := by
    decide
  have hnames : ∀ pair ∈ Settings.keyNames.zip (List.finRange 16), platform.keycode pair.1 = some (code pair.2) := by
    decide +kernel
  have hcodes (name : String) (key : Key) (hmem : (name, key) ∈ Settings.keyNames.zip (List.finRange 16)) :
      platform.keycode name = some (code key) := hnames (name, key) hmem
  have hfollows := (keypad_follows_events platform (fun _ => 9) ⟨1000, [], [1 / 128]⟩ events ["prog.ch8"] disk hdistinct
    hfree hcodes).1
  obtain ⟨hearly, hline, hreset⟩ : heard (journal.take 17) = [.keyDown 49, .keyUp 50] ∧
      (journal.drop 17).head?.map (·.happening) = some (.printed "Reset CHIP-8") ∧
      underway none (journal.drop 17) = some (.keyDown Window.Code.f5) := by decide +kernel
  have hsplit := (List.take_append_drop 17 journal).symm
  cases hlate : journal.drop 17 with
  | nil =>
    rw [hlate] at hline
    cases hline
  | cons moment after =>
    rw [hlate] at hline hreset hsplit
    have hkey := (hfollows _ moment after hsplit 1).1
    rw [hearly, hreset] at hkey
    exact ⟨hdistinct, hfree, hcodes, _, moment, after, hsplit, Option.some_inj.1 hline, hearly, hkey⟩

end CommandLine.PlayInWindow

end Chip8
