import Chip8.Proofs.Frames
import Chip8.Proofs.Laps

/-!
# Ticks at the window

Each frame of a play gives the console's timers the time since the frame before began, before its first step, and no
time before each of the steps. So the times telescope: as long as nothing resets the console, what the timers still
carry and the ticks so far make up the time from the first reading of the clock to the beginning of the latest frame
(`Punctual`), whatever was read and slept in between. A frame begins at the second time that is read since the window
was last shown. Main statement: `window_ticks_follow_clock`.
-/

namespace Chip8

/-! ## The console's frame -/

lemma Action.steps_of_le {around : Surroundings} {m t : Machine} {i n : Nat} (hi : i ≤ n)
    (hrun : steps around n m = .ok () t) : ∃ u, steps around i m = .ok () u := by
  obtain ⟨k, rfl⟩ := Nat.exists_eq_add_of_le hi
  cases hfirst : steps around i m with
  | ok _ u => exact ⟨u, rfl⟩
  | error e u =>
    rw [steps_add, bind_of_error hfirst] at hrun
    cases hrun

namespace Console

variable {around : Surroundings} {elapsed : Rat} {instructions ticks : Nat} {c finished : Console Rat}

/-- A frame in which the clock is advanced by the elapsed time before the first step, and brings the ticks then. Before
each of the steps it is advanced by no time, and brings none. -/
structure TicksOnce (around : Surroundings) (elapsed : Rat) (instructions : Nat) (c : Console Rat) (ticks : Nat)
    (finished : Console Rat) : Prop where
  frame : frame around elapsed instructions c = .ok ticks finished
  advance : ∃ d, update elapsed c = .ok ticks d ∧ ∀ i < instructions, ∃ m,
    Action.steps around i d.machine = .ok () m ∧ update 0 { d with machine := m } = .ok 0 { d with machine := m }

lemma nonneg_of_frame (hframe : frame around elapsed instructions c = .ok ticks finished) : 0 ≤ elapsed := by
  by_contra hback
  rw [frame_of_neg (not_le.1 hback)] at hframe
  cases hframe

lemma ticksOnce_of_frame (hc : c.timers.Settled) (hframe : frame around elapsed instructions c = .ok ticks finished) :
    TicksOnce around elapsed instructions c ticks finished ∧ ticks = c.timers.ticksIn elapsed ∧
      finished.timers = c.timers.after elapsed := by
  have h0 := nonneg_of_frame hframe
  cases hsteps : Action.steps around instructions (c.after elapsed).machine with
  | error e m =>
    rw [frame_of_steps_error hc h0 hsteps] at hframe
    cases hframe
  | ok _ m =>
    have hrun := hframe
    rw [frame_of_steps hc h0 hsteps] at hrun
    cases hrun
    refine ⟨⟨hframe, c.after elapsed, update_of_settled hc h0, fun i hi => ?_⟩, rfl, rfl⟩
    obtain ⟨t, ht⟩ := Action.steps_of_le hi.le hsteps
    exact ⟨t, ht, update_zero (c := { c.after elapsed with machine := t }) (hc.after h0)⟩

lemma timers_onMachine {τ α : Type} (act : Chip8.Action α) (c : Console τ) :
    (ending (onMachine act c)).timers = c.timers := by
  cases hrun : act c.machine with
  | ok a m =>
    rw [onMachine_of_ok hrun]
    rfl
  | error e m =>
    rw [onMachine_of_error hrun]
    rfl

end Console

namespace Window

open Console (TicksOnce)

variable {τ : Type}

/-! ## What a journal says about time -/

/-- The ticks that a happening brought. -/
def Happening.ticks : Happening τ → Nat
  | .framed _ ticks => ticks
  | _ => 0

def ticksOf (journal : List (Moment τ)) : Nat :=
  (journal.map (·.happening.ticks)).sum

/-- Whether a happening shows the window. -/
def Happening.shows : Happening τ → Bool
  | .called .present => true
  | _ => false

/-- The part of a journal after the window was last shown. -/
def sinceShown (journal : List (Moment τ)) : List (Moment τ) :=
  (journal.reverse.takeWhile fun moment => !moment.happening.shows).reverse

section Concat

variable (journal : List (Moment τ)) (happening : Happening τ) (console : Console τ)

lemma ticksOf_concat : ticksOf (journal ++ [⟨happening, console⟩]) = ticksOf journal + happening.ticks := by
  rw [ticksOf, List.map_append, List.sum_append]
  rfl

lemma sinceShown_concat : sinceShown (journal ++ [⟨happening, console⟩]) =
    if happening.shows then [] else sinceShown journal ++ [⟨happening, console⟩] := by
  rw [sinceShown, List.reverse_concat, List.takeWhile_cons]
  cases happening.shows with
  | true => rfl
  | false => exact List.reverse_cons

lemma readings_sinceShown (hnone : readings journal = []) : readings (sinceShown journal) = [] := by
  have hsub : (sinceShown journal).Sublist journal := by
    have hreverse := (List.takeWhile_sublist (l := journal.reverse) fun moment => !moment.happening.shows).reverse
    rwa [List.reverse_reverse] at hreverse
  have hreadings : (readings (sinceShown journal)).Sublist (readings journal) := hsub.filterMap _
  rw [hnone] at hreadings
  exact List.sublist_nil.1 hreadings

end Concat

/-- A frame completed on time: it began at the second time that was read since the window was last shown, and its
ticks make the ticks so far the whole periods since the first time that was read. -/
structure Timely (around : Surroundings) (before : List (Moment Rat)) (begun : Rat) (ticks : Nat)
    (console : Console Rat) : Prop where
  start : (readings (sinceShown before))[1]? = some begun
  total : ∃ first, (readings before).head? = some first ∧
    ((ticksOf before + ticks : Nat) : Int) = ⌊1000 * (begun - first) / (1000 / 60)⌋
  ticked : ∃ prior elapsed finished, lastDeed before = some prior ∧
    TicksOnce around elapsed Console.instructionsPerFrame prior.console ticks finished ∧
    console.takeReports.2 = finished.takeReports.2

/-- Every frame that was completed before there was any reset was completed on time. -/
def AllTimely (around : Surroundings) (journal : List (Moment Rat)) : Prop :=
  Throughout (fun before moment _ => ∀ begun ticks, moment.happening = .framed begun ticks →
    .keyDown Code.f5 ∉ heard before → Timely around before begun ticks moment.console) journal

variable {around : Surroundings} {journal : List (Moment Rat)}

lemma AllTimely.concat (h : AllTimely around journal) {happening : Happening Rat} {console : Console Rat}
    (hlast : ∀ begun ticks, happening = .framed begun ticks → .keyDown Code.f5 ∉ heard journal →
      Timely around journal begun ticks console) : AllTimely around (journal ++ [⟨happening, console⟩]) :=
  throughout_concat.2 ⟨h, hlast⟩

namespace Play

variable {σ : Type} {p : Play Rat σ} {first last begun : Rat} {unnoted ticks : Nat} {console : Console Rat}
  {happening : Happening Rat} {P N : List Rat → Prop} {Q : Play Rat σ → Prop}

/-! ## Time accounted for -/

/-- The ticks and what the timers carry are the time from the first reading of the clock to the beginning of the latest
frame. Some of the ticks may not yet be noted. -/
structure Punctual (last : Rat) (unnoted : Nat) (p : Play Rat σ) : Prop where
  period : p.console.timers.period = 1000 / 60
  settled : p.console.timers.Settled
  balance : ∃ first, (readings p.journal.reverse).head? = some first ∧
    p.console.timers.carried + (ticksOf p.journal.reverse + unnoted : Nat) * (1000 / 60) = 1000 * (last - first)

namespace Punctual

/-- Less than a period is carried, so the ticks are the whole periods. -/
lemma total (h : Punctual last unnoted p) : ∃ first, (readings p.journal.reverse).head? = some first ∧
    ((ticksOf p.journal.reverse + unnoted : Nat) : Int) = ⌊1000 * (last - first) / (1000 / 60)⌋ := by
  obtain ⟨first, hfirst, hbalance⟩ := h.balance
  have hcarried := h.settled.carried
  have hless := h.settled.less
  have hpos : (0 : Rat) < 1000 / 60 := by norm_num
  rw [h.period] at hless
  refine ⟨first, hfirst, (Int.floor_eq_iff.2 ?_).symm⟩
  rw [Int.cast_natCast, le_div_iff₀ hpos, div_lt_iff₀ hpos]
  constructor
  · linarith
  · linarith

/-- Ticks that were not yet noted are noted, or there are none. -/
lemma noted (h : Punctual last (happening.ticks + unnoted) p) : Punctual last unnoted (p.noted happening) where
  period := h.period
  settled := h.settled
  balance := by
    obtain ⟨first, hfirst, hbalance⟩ := h.balance
    refine ⟨first, ?_, ?_⟩
    · rw [journal_noted, readings_append, List.head?_append, hfirst]
      rfl
    · rw [journal_noted, ticksOf_concat, Nat.add_assoc]
      exact hbalance

lemma withConsole (h : Punctual last unnoted p) (htimers : console.timers = p.console.timers) :
    Punctual last unnoted (p.withConsole console) where
  period := htimers ▸ h.period
  settled := htimers ▸ h.settled
  balance := htimers ▸ h.balance

/-- The console's frame takes up the time since the frame before. -/
lemma framed (h : Punctual last 0 p) {finished : Console Rat} (h0 : 0 ≤ (begun - last) * 1000)
    (hticks : ticks = p.console.timers.ticksIn ((begun - last) * 1000))
    (htimers : finished.timers = p.console.timers.after ((begun - last) * 1000)) :
    Punctual begun ticks (p.withConsole finished) := by
  obtain ⟨first, hfirst, hbalance⟩ := h.balance
  refine ⟨?_, ?_, first, hfirst, ?_⟩
  · change finished.timers.period = _
    rw [htimers]
    exact h.period
  · change finished.timers.Settled
    rw [htimers]
    exact h.settled.after h0
  · have hcarried : finished.timers.carried =
        p.console.timers.carried + (begun - last) * 1000 - ticks * (1000 / 60) := by
      rw [htimers, ← h.period, hticks]
      rfl
    change finished.timers.carried + (ticksOf p.journal.reverse + ticks : Nat) * (1000 / 60) = 1000 * (begun - first)
    rw [hcarried]
    push_cast at hbalance ⊢
    linarith

end Punctual

/-- The times read since the window was last shown. -/
def lap (p : Play Rat σ) : List Rat := readings (sinceShown p.journal.reverse)

lemma lap_noted (hread : ∀ time, happening ≠ .readClock time) (hshown : happening.shows = false) :
    (p.noted happening).lap = p.lap := by
  rw [lap, journal_noted, sinceShown_concat, hshown, if_neg Bool.false_ne_true, readings_concat _ hread]
  rfl

lemma lap_readClock (time : Rat) : (p.noted (.readClock time)).lap = p.lap ++ [time] := by
  have hshown : (.readClock time : Happening Rat).shows = false := rfl
  rw [lap, journal_noted, sinceShown_concat, hshown, if_neg Bool.false_ne_true, readings_readClock]
  rfl

lemma lap_present : (p.noted (.called .present)).lap = [] := by
  rw [lap, journal_noted, sinceShown_concat]
  rfl

/-- A punctual play, and what the times are that were read since the window was last shown. -/
def At (last : Rat) (P : List Rat → Prop) (p : Play Rat σ) : Prop := Punctual last 0 p ∧ P p.lap

/-- A play in which the console's frame is done and not yet noted. -/
structure Done (around : Surroundings) (begun : Rat) (ticks : Nat) (p : Play Rat σ) : Prop
    extends Punctual begun ticks p where
  start : p.lap[1]? = some begun
  ticked : ∃ prior elapsed finished, lastDeed p.journal.reverse = some prior ∧
    TicksOnce around elapsed Console.instructionsPerFrame prior.console ticks finished ∧
    p.console.takeReports.2 = finished.takeReports.2

namespace At

lemma noted (h : At last P p) (hticks : happening.ticks = 0) (hread : ∀ time, happening ≠ .readClock time)
    (hshown : happening.shows = false) : At last P (p.noted happening) := by
  refine ⟨Punctual.noted (by rw [hticks]; exact h.1), ?_⟩
  rw [lap_noted hread hshown]
  exact h.2

lemma readClock (h : At last P p) {time : Rat} (hread : ∀ times, P times → N (times ++ [time])) :
    At last N (p.noted (.readClock time)) := by
  refine ⟨Punctual.noted h.1, ?_⟩
  rw [lap_readClock]
  exact hread _ h.2

lemma withConsole (h : At last P p) (htimers : console.timers = p.console.timers) : At last P (p.withConsole console) :=
  ⟨h.1.withConsole htimers, h.2⟩

lemma moved (h : At last P p) (wave : SquareWave) (clock : σ) : At last P { p with wave, clock } :=
  ⟨⟨h.1.period, h.1.settled, h.1.balance⟩, h.2⟩

end At

lemma at_untold : Untold (At last P : Play Rat σ → Prop) where
  printed _ _ h := h.noted rfl nofun rfl
  taken _ h := h.withConsole rfl
  stored _ _ h := ⟨⟨h.1.period, h.1.settled, h.1.balance⟩, h.2⟩

/-- Once a frame has begun, the clock may be read again. -/
lemma at_undisturbed : Undisturbed (At last (·[1]? = some begun) : Play Rat σ → Prop) where
  toUntold := at_untold
  timed p time h := h.readClock fun times hbegun => by
    obtain ⟨hlong, -⟩ := List.getElem?_eq_some_iff.1 hbegun
    rwa [List.getElem?_append_left hlong]
  moved _ _ _ _ h := h.moved _ _
  queued _ _ _ _ h := h.noted rfl nofun rfl
  slept _ _ h := h.noted rfl nofun rfl

lemma done_untold : Untold (Done around begun ticks : Play Rat σ → Prop) where
  printed p text h := by
    obtain ⟨prior, elapsed, finished, hprior, hticks⟩ := h.ticked
    have hread : ∀ time, (.printed text : Happening Rat) ≠ .readClock time := nofun
    have hbefore : Punctual begun ((.printed text : Happening Rat).ticks + ticks) p :=
      (Nat.zero_add ticks).symm ▸ h.toPunctual
    refine ⟨hbefore.noted, ?_, prior, elapsed, finished, ?_, hticks⟩
    · rw [lap_noted hread rfl]
      exact h.start
    · rw [lastDeed_noted]
      exact hprior
  taken _ h := ⟨h.toPunctual.withConsole rfl, h.start, h.ticked⟩
  stored _ _ h := ⟨⟨h.period, h.settled, h.balance⟩, h.start, h.ticked⟩

/-! ## Until there is a reset -/

/-- No reset has been handled. -/
def Unreset (p : Play Rat σ) : Prop := .keyDown Code.f5 ∉ heard p.journal.reverse

lemma Unreset.of_noted (h : (p.noted happening).Unreset) : p.Unreset := by
  rw [Unreset, journal_noted, heard_append, List.mem_append, not_or] at h
  exact h.1

/-- A play in which every frame so far was on time. -/
def InTime (around : Surroundings) (p : Play Rat σ) : Prop := AllTimely around p.journal.reverse

lemma InTime.noted (h : InTime around p) (hother : ∀ begun ticks, happening ≠ .framed begun ticks) :
    InTime around (p.noted happening) := by
  rw [InTime, journal_noted]
  exact AllTimely.concat h fun begun ticks hframed => absurd hframed (hother begun ticks)

/-- A play in which every frame so far was on time, and which has a property as long as there was no reset. -/
structure UntilReset (around : Surroundings) (Q : Play Rat σ → Prop) (p : Play Rat σ) : Prop where
  past : InTime around p
  present : p.Unreset → Q p

lemma inTime_unmoved : Unmoved (InTime around : Play Rat σ → Prop) where
  printed _ _ h := h.noted nofun
  taken _ h := h
  stored _ _ h := h
  timed _ _ h := h.noted nofun
  moved _ _ _ _ h := h
  queued _ _ _ _ h := h.noted nofun
  slept _ _ h := h.noted nofun
  called _ _ _ h := h.noted nofun
  equipped _ _ _ _ h := h

namespace UntilReset

variable {q : Play Rat σ} {R : Play Rat σ → Prop} (h : UntilReset around Q p)

include h

lemma noted (hother : ∀ begun ticks, happening ≠ .framed begun ticks) (hnoted : Q p → R (p.noted happening)) :
    UntilReset around R (p.noted happening) :=
  ⟨h.past.noted hother, fun hunreset => hnoted (h.present hunreset.of_noted)⟩

/-- Something done that is not written into the journal. -/
lemma unwritten (hjournal : q.journal = p.journal) (hdone : Q p → R q) : UntilReset around R q := by
  constructor
  · rw [InTime, hjournal]
    exact h.past
  · intro hunreset
    rw [Unreset, hjournal] at hunreset
    exact hdone (h.present hunreset)

end UntilReset

lemma Untold.untilReset (h : Untold Q) : Untold (UntilReset around Q) where
  printed p text hp := hp.noted nofun (h.printed p text)
  taken p hp := hp.unwritten rfl (h.taken p)
  stored p disk hp := hp.unwritten rfl (h.stored p disk)

lemma Undisturbed.untilReset (h : Undisturbed Q) : Undisturbed (UntilReset around Q) where
  toUntold := h.toUntold.untilReset
  timed p time hp := hp.noted nofun (h.timed p time)
  moved p wave clock hwave hp := hp.unwritten rfl (h.moved p wave clock hwave)
  queued p device samples haudio hp := hp.noted nofun (h.queued p device samples haudio)
  slept p time hp := hp.noted nofun (h.slept p time)

/-! ## Frames -/

/-- A punctual play as long as there was no reset, and the times read since the window was last shown. -/
def Counted (around : Surroundings) (last : Rat) (P : List Rat → Prop) : Play Rat σ → Prop :=
  UntilReset around (At last P)

/-- A play between two frames. -/
def Between (around : Surroundings) (last : Rat) : Play Rat σ → Prop := Counted around last (·.length = 1)

/-- A frame has begun, and the console is as it was when something was noted last. -/
def Standing (around : Surroundings) (last begun : Rat) (p : Play Rat σ) : Prop :=
  Counted around last (·[1]? = some begun) p ∧ p.Poised

namespace Counted

variable (h : Counted around last P p)

include h

lemma called {c : Call Rat} (hshown : (.called c : Happening Rat).shows = false) :
    Counted around last P (p.noted (.called c)) :=
  h.noted nofun fun hat => hat.noted rfl nofun hshown

lemma withConsole (htimers : console.timers = p.console.timers) : Counted around last P (p.withConsole console) :=
  h.unwritten rfl fun hat => hat.withConsole htimers

lemma moved (wave : SquareWave) (clock : σ) : Counted around last P { p with wave, clock } :=
  h.unwritten rfl fun hat => hat.moved wave clock

end Counted

lemma counted_upload : Keeps (Counted around last P) (upload : Action Rat σ Unit) :=
  at_untold.untilReset.upload (fun _ _ h => Counted.called h rfl) fun _ h =>
    Counted.withConsole h (Console.timers_onMachine _ _)

lemma counted_paint :
    Leads (Counted around last fun _ => True) (Counted around last (· = [])) (paint : Action Rat σ Unit) :=
  fun _ h => (((h.called rfl).called rfl).called rfl).noted nofun fun hat => ⟨Punctual.noted hat.1, lap_present⟩

lemma counted_queueTone : Keeps (Counted around last P) (queueTone : Action Rat σ Unit) :=
  keeps_queueTone (fun _ wave clock _ h => h.moved wave clock) fun _ _ _ _ h => h.called rfl

section Host

variable (s : Host Rat σ)

/-- The clock read: one more time is known, and the console is as it was. -/
lemma counted_now {N : Rat → List Rat → Prop} (hread : ∀ times time, P times → N time (times ++ [time]))
    {R : Play Rat σ → Prop} :
    Ends (Counted around last P) (now s) (fun time p => Counted around last (N time) p ∧ p.Poised) R := by
  refine ⟨fun p h => ⟨?_, poised_noted _ rfl⟩⟩
  exact (h.moved p.wave _).noted nofun fun hat => hat.readClock fun times => hread times _

lemma counted_pace : Leads (Counted around last (· = [])) (Between around last) (pace s begun) := by
  have hread : Leads (Counted around last (· = [])) (Between around last) (now s) := by
    have hone (times : List Rat) (time : Rat) (hnone : times = []) : (times ++ [time]).length = 1 := by
      rw [hnone]
      rfl
    exact (counted_now (N := fun _ times => times.length = 1) s hone).leads (fun _ _ h => h.1) fun _ h => h
  refine leads_bind hread (fun _ h => h) fun time => ?_
  dsimp only
  split
  · split
    · exact keeps_bind (keeps_modify fun p h => h.moved _ _) fun _ p h => h.called rfl
    · exact keeps_pure _
  · exact keeps_pure _

/-- Events leave time alone, unless they are resets. -/
lemma standing_handle (event : Event) :
    Ends (Standing around last begun) (handle s event) (fun _ => Standing around last begun) (InTime around) := by
  rw [handle_eq]
  by_cases hreset : event = .keyDown Code.f5
  · -- The reset takes what was carried, but once it is noted nothing more is claimed than that the past was on time.
    have hreact : Ends (InTime around) (react s event) (fun _ => InTime around) (InTime around) :=
      (inTime_unmoved.react s (fun _ _ h => h) (fun _ _ h => h) (fun _ _ h => h) fun _ _ h => h).ends
    refine ends_bind (hreact.of_before fun _ h => h.1.past) fun _ => ends_modify fun p h => ⟨⟨h.noted nofun, ?_⟩, ?_⟩
    · intro hunreset
      refine absurd ?_ hunreset
      rw [hreset]
      change _ ∈ heard (p.noted (.handled (.keyDown Code.f5))).journal.reverse
      rw [journal_noted, heard_handled]
      exact List.mem_concat_self
    · exact poised_noted p rfl
  · have hreact : Keeps (Counted around last (·[1]? = some begun)) (react s event) := by
      apply at_undisturbed.untilReset.react s
      · exact fun p key h => Counted.withConsole h (Console.timers_onMachine _ _)
      · exact fun p key h => Counted.withConsole h (Console.timers_onMachine _ _)
      · exact fun h => absurd h hreset
      · exact fun _ p h => h.unwritten rfl fun hat => ⟨⟨hat.1.period, hat.1.settled, hat.1.balance⟩, hat.2⟩
    have hends : Ends (Standing around last begun) (react s event) (fun _ => Counted around last (·[1]? = some begun))
        (InTime around) := Leads.ends (fun p h => hreact p h.1) fun _ h => h.past
    refine ends_bind hends fun _ => ends_modify fun p h => ?_
    exact ⟨h.noted nofun fun hat => hat.noted rfl nofun rfl, poised_noted p rfl⟩

/-- The console's frame takes up the time since the frame before. -/
lemma standing_consoleFrame (last begun : Rat) : Ends (Standing s.around last begun)
    (onConsole (Console.frame s.around ((begun - last) * Duration.ofNat 1000) Console.instructionsPerFrame) :
      Action Rat σ Nat)
    (fun ticks => UntilReset s.around (Done s.around begun ticks)) (InTime s.around) := by
  apply ends_onConsole (fun _ => done_untold.untilReset) inTime_unmoved.toUntold
  · intro p ticks finished ⟨hp, hpoised⟩ hframe
    refine hp.unwritten rfl fun ⟨hpunctual, hstart⟩ => ?_
    obtain ⟨honce, hticks, htimers⟩ := Console.ticksOnce_of_frame hpunctual.settled hframe
    obtain ⟨happening, hlast⟩ := hpoised.lastDeed
    exact ⟨hpunctual.framed (Console.nonneg_of_frame hframe) hticks htimers, hstart, _, _, finished, hlast, honce, rfl⟩
  · exact fun p e c h _ => h.1.past

/-- Once its ticks are noted, nothing of the frame's time is left to be accounted for. -/
lemma UntilReset.framed (h : UntilReset around (Done around begun ticks) p) :
    Counted around begun (fun _ => True) (p.noted (.framed begun ticks)) := by
  refine ⟨?_, fun hunreset => ⟨(h.present hunreset.of_noted).toPunctual.noted, trivial⟩⟩
  rw [InTime, journal_noted]
  refine AllTimely.concat h.past ?_
  rintro _ _ ⟨rfl, rfl⟩ hunreset
  have hdone := h.present hunreset
  exact ⟨hdone.start, hdone.toPunctual.total, hdone.ticked⟩

/-- The window is shown, and the clock is read once until the frame is over. -/
lemma counted_showing (begun : Rat) (ticks : Nat) :
    Ends (UntilReset around (Done around begun ticks)) (showing s begun ticks) (Between around) (InTime around) := by
  have hpast {α : Type} {act : Action Rat σ α} {P N : List Rat → Prop}
      (hact : Leads (Counted around begun P) (Counted around begun N) act) :
      Ends (Counted around begun P) act (fun _ => Counted around begun N) (InTime around) :=
    hact.ends fun _ h => h.past
  refine ends_bind (Q := fun _ => Counted around begun fun _ => True) (ends_modify fun p h => h.framed) fun _ => ?_
  refine ends_bind (hpast counted_upload) fun _ => ends_bind (hpast counted_paint) fun _ => ?_
  refine ends_bind (hpast counted_queueTone) fun _ => ends_bind (hpast (counted_pace s)) fun _ => ?_
  exact ends_pure fun _ h => h

lemma counted_frame (last : Rat) (events : List Event) :
    Ends (Between s.around last) (frame s last events) (Between s.around) (InTime s.around) := by
  have hsecond (times : List Rat) (time : Rat) (hone : times.length = 1) : (times ++ [time])[1]? = some time := by
    rw [← hone]
    exact List.getElem?_concat_length
  refine ends_bind (counted_now (N := fun time times => times[1]? = some time) s hsecond) fun begun => ?_
  have hevents : Ends (Standing s.around last begun) (events.forM (handle s)) (fun _ => Standing s.around last begun)
      (InTime s.around) := ends_forM fun event _ => standing_handle s event
  refine ends_bind hevents fun _ => ?_
  exact ends_bind (standing_consoleFrame s last begun) (counted_showing s begun)

end Host

/-! ## Before the first frame -/

/-- A play in which no time has been read or accounted for. -/
structure Unbegun (around : Surroundings) (p : Play Rat σ) : Prop where
  timers : p.console.timers = ⟨1000 / 60, 0⟩
  unread : readings p.journal.reverse = []
  unticked : ticksOf p.journal.reverse = 0
  past : InTime around p

namespace Unbegun

lemma noted (h : Unbegun around p) (hread : ∀ time, happening ≠ .readClock time)
    (hframed : ∀ begun ticks, happening ≠ .framed begun ticks) : Unbegun around (p.noted happening) where
  timers := h.timers
  unread := by
    rw [journal_noted, readings_concat _ hread]
    exact h.unread
  unticked := by
    rw [journal_noted, ticksOf_concat, h.unticked]
    cases happening with
    | framed begun ticks => exact absurd rfl (hframed begun ticks)
    | _ => rfl
  past := h.past.noted hframed

/-- The first time that is read is the one from which time is accounted for. -/
lemma readClock (h : Unbegun around p) (time : Rat) : Between around time (p.noted (.readClock time)) := by
  have hreadings : readings (p.noted (.readClock time)).journal.reverse = [time] := by
    rw [journal_noted, readings_readClock, h.unread]
    rfl
  refine ⟨h.past.noted nofun, fun _ => ⟨⟨?_, ?_, time, ?_, ?_⟩, ?_⟩⟩
  · exact congrArg (·.period) h.timers
  · change p.console.timers.Settled
    rw [h.timers]
    exact ⟨by norm_num, le_rfl, by norm_num⟩
  · rw [hreadings]
    rfl
  · rw [journal_noted, ticksOf_concat, h.unticked]
    change p.console.timers.carried + _ = _
    rw [h.timers]
    norm_num [Happening.ticks]
  · have hlap : p.lap = [] := readings_sinceShown _ h.unread
    rw [lap_readClock, hlap]
    rfl

end Unbegun

lemma unbegun_unswayed : Unswayed (Unbegun around : Play Rat σ → Prop) where
  printed _ _ h := h.noted nofun nofun
  taken _ h := ⟨h.timers, h.unread, h.unticked, h.past⟩
  stored _ _ h := ⟨h.timers, h.unread, h.unticked, h.past⟩
  called _ _ _ h := h.noted nofun nofun
  equipped _ _ _ _ h := ⟨h.timers, h.unread, h.unticked, h.past⟩

lemma unbegun_load (name : String) : Keeps (Unbegun around) (load name : Action Rat σ (Option String)) := by
  refine unbegun_unswayed.load fun p program h => ⟨?_, h.unread, h.unticked, h.past⟩
  have hload : Keeps (fun c : Console Rat => c.timers = ⟨1000 / 60, 0⟩) (Console.loadFile name program) := by
    refine keeps_bind (fun c hc => ?_) fun _ c hc => (Console.timers_onMachine _ c).trans hc
    obtain hfit | hlarge := le_or_gt program.length programLimit
    · have hreset : ({ c with program := ⟨program, hfit⟩ } : Console Rat).renewed.timers = c.timers.reset := rfl
      rw [load_of_fits hfit, ending, hreset, hc]
      rfl
    · rw [load_of_large hlarge]
      exact hc
  exact hload p.console h.timers

/-- However a run ends, every frame that was completed before there was any reset was on time. -/
lemma leads_unbegun_run (s : Host Rat σ) (name : String) (events : List (List Event)) :
    Leads (Unbegun s.around) (InTime s.around) (run s name events) := by
  have hpast (p : Play Rat σ) (h : Unbegun s.around p) : InTime s.around p := h.past
  have hbefore {α : Type} {act : Action Rat σ α} (hact : Keeps (Unbegun s.around) act) :
      Ends (Unbegun s.around) act (fun _ => Unbegun s.around) (InTime s.around) :=
    Leads.ends hact hpast
  have hnow : Ends (Unbegun s.around) (now s) (Between s.around) (InTime s.around) := by
    refine ⟨fun p h => ?_⟩
    have hmoved : Unbegun s.around { p with clock := (s.platform.clock.read p.clock).2 } :=
      ⟨h.timers, h.unread, h.unticked, h.past⟩
    exact hmoved.readClock _
  have hplay : Leads (Unbegun s.around) (InTime s.around) (play s events) :=
    leads_play (hbefore (unbegun_unswayed.start s)) hpast (hbefore unbegun_unswayed.greet) hnow
      (fun last list _ => counted_frame s last list) (fun _ _ h => h.past) inTime_unmoved.toUnswayed
  exact leads_run (unbegun_load name) hplay hpast inTime_unmoved.toUntold

end Play

end Window

namespace CommandLine.PlayInWindow

open Window (Event Play Platform heard readings ticksOf sinceShown lastDeed)

/-- When a frame is complete and no reset was handled, the ticks so far are the whole periods from the first time that
was read to the beginning of this frame. -/
theorem window_ticks_follow_clock {σ : Type} (platform : Platform Rat σ) (random : Nat → UInt8) (clock : σ)
    (events : List (List Event)) (arguments : List String) (disk : Disk) :
    let journal := (run platform random clock events arguments disk).journal
    ∀ before begun ticks console after, journal = before ++ ⟨.framed begun ticks, console⟩ :: after →
      .keyDown Window.Code.f5 ∉ heard before →
      (readings (sinceShown before))[1]? = some begun ∧
      (∃ first, (readings before).head? = some first ∧
        ((ticksOf before + ticks : Nat) : Int) = ⌊1000 * (begun - first) / (1000 / 60)⌋) ∧
      ∃ prior elapsed finished, lastDeed before = some prior ∧
        Console.TicksOnce ⟨Dialect.modern, random⟩ elapsed Console.instructionsPerFrame prior.console ticks finished ∧
        console.takeReports.2 = finished.takeReports.2 := by
  intro journal before begun ticks console after hsplit hunreset
  have htimely : Window.AllTimely ⟨Dialect.modern, random⟩ journal := by
    obtain hnone | ⟨name, hrun⟩ : journal = [] ∨ ∃ name, journal = _ :=
      Play.journal_run platform random clock events arguments disk
    · rw [hnone] at hsplit
      simp at hsplit
    · let start : Play Rat σ := Play.fresh (arguments.contains "--debug") clock disk
      have hstart : Play.Unbegun ⟨Dialect.modern, random⟩ start := by
        have htimers : (Console.fresh none : Console Rat).timers = ⟨1000 / 60, 0⟩ := by decide +kernel
        refine ⟨htimers, rfl, rfl, ?_⟩
        intro before moment after hsplit
        simp [start, Play.fresh] at hsplit
      rw [hrun]
      exact Play.leads_unbegun_run ⟨⟨Dialect.modern, random⟩, platform⟩ name events start hstart
  obtain ⟨hstart, htotal, hticked⟩ := htimely before _ after hsplit begun ticks rfl hunreset
  exact ⟨hstart, htotal, hticked⟩

/-- A picture is saved in the first of three frames. None of them takes a whole number of periods, and counted for
themselves they would have brought three ticks. -/
theorem window_ticks_follow_clock_screenshot :
    let platform : Platform Rat (Window.Ticking Rat) :=
      { works := fun _ => true, complaint := "", keycode := fun _ => none, clock := Window.Ticking.clock }
    let disk : Disk := ⟨[], [(["prog.ch8"], [0x12, 0x00])], [], []⟩
    let events : List (List Event) := [[.keyDown Window.Code.f12], []]
    let journal := (run platform (fun _ => 9) ⟨1000, [], [1 / 64]⟩ events ["prog.ch8"] disk).journal
    ∃ before begun ticks console after, journal = before ++ ⟨.framed begun ticks, console⟩ :: after ∧
      .keyDown Window.Code.f5 ∉ heard before ∧ begun = 1000 + 91 / 960 ∧ ticksOf before + ticks = 5 ∧
      ((ticksOf before + ticks : Nat) : Int) = ⌊1000 * (begun - 1000) / (1000 / 60)⌋ := by
  intro platform disk events journal
  obtain ⟨hheard, hfirst, hticks, hframed⟩ : heard (journal.take 51) = [.keyDown Window.Code.f12, .close] ∧
      (readings (journal.take 51)).head? = some 1000 ∧ ticksOf (journal.take 51) = 3 ∧
      (journal.drop 51).head?.map (·.happening) = some (.framed (1000 + 91 / 960) 2) := by decide +kernel
  have hunreset : .keyDown Window.Code.f5 ∉ heard (journal.take 51) := by
    rw [hheard]
    decide
  have hsplit := (List.take_append_drop 51 journal).symm
  cases hlate : journal.drop 51 with
  | nil =>
    rw [hlate] at hframed
    cases hframed
  | cons moment after =>
    obtain ⟨happening, console⟩ := moment
    rw [hlate] at hframed hsplit
    obtain rfl : happening = _ := Option.some_inj.1 hframed
    obtain ⟨-, ⟨first, hread, htotal⟩, -⟩ := window_ticks_follow_clock platform (fun _ => 9) ⟨1000, [], [1 / 64]⟩ events
      ["prog.ch8"] disk _ _ _ console after hsplit hunreset
    obtain rfl : first = 1000 := Option.some_inj.1 (hread.symm.trans hfirst)
    exact ⟨_, _, _, console, after, hsplit, hunreset, rfl, by rw [hticks], htotal⟩

end CommandLine.PlayInWindow

end Chip8
