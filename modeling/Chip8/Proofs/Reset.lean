import Chip8.Proofs.Coupling

/-!
# Resetting

A reset leaves nothing of what went before but the program, the place among the random bytes and the trace, also after
programs that were refused, instructions that faulted and fields that were written from outside. From then on the
console and a new one cannot be told apart by any commands if the same random bytes come up. Main statement:
`reset_leaves_no_residue`. It also says that loading a program has the same outcome on every console with the same
timers.
-/

namespace Chip8

/-- Machines that differ at most in their trace and in their place among the random bytes: both have taken equally
many since they stood at the given places. -/
structure Machine.Twin (start start' : Nat) (m m' : Machine) : Prop where
  same : m = { m' with drawn := m.drawn, tracing := m.tracing, reports := m.reports }
  taken : ∃ n, m.drawn = start + n ∧ m'.drawn = start' + n

namespace Machine

variable {start start' : Nat} {around around' : Surroundings}

/-- Twins stay twins as long as the same random bytes come up for both. -/
lemma twin_couples (hdialect : around.dialect = around'.dialect)
    (hrandom : ∀ n, around.random (start + n) = around'.random (start' + n)) :
    Couples (Twin start start') around around' where
  dialect := hdialect
  core {m m'} h := by
    rw [h.same]
    rfl
  delay {m m'} h := by rw [h.same]
  sound {m m'} h := by rw [h.same]
  random {m m'} h := by
    obtain ⟨n, hn, hn'⟩ := h.taken
    rw [hn, hn', hrandom]
  adopt {m m'} h k := by
    have hdelay : m.delay = m'.delay := by rw [h.same]
    have hsound : m.sound = m'.sound := by rw [h.same]
    exact ⟨by simp only [Machine.adopt, hdelay, hsound], h.taken⟩
  setDelay {m m'} h value := ⟨by rw [h.same], h.taken⟩
  setSound {m m'} h value := ⟨by rw [h.same], h.taken⟩
  advance {m m'} h := by
    obtain ⟨n, hn, hn'⟩ := h.taken
    have hnext : m.drawn + 1 = start + (n + 1) := by omega
    have hnext' : m'.drawn + 1 = start' + (n + 1) := by omega
    exact ⟨by rw [h.same], n + 1, hnext, hnext'⟩
  setTracing {m m'} h value := ⟨by rw [h.same], h.taken⟩
  reported {m m'} h r := ⟨by rw [h.same]; rfl, h.taken⟩

end Machine

section Consoles

variable {τ : Type}

/-- The program that a command makes the console remember, if it does. -/
def Command.accepted? : Command τ → Option (List UInt8)
  | .load program => if program.length ≤ programLimit then some program else none
  | _ => none

/-- The program of the last load that was accepted, or none of its bytes. -/
def Session.lastLoaded (history : List (Command τ)) : List UInt8 :=
  ((history.filterMap Command.accepted?).getLast?).getD []

lemma accepted?_eq_some {command : Command τ} {program : List UInt8}
    (haccepted : command.accepted? = some program) : command = .load program ∧ program.length ≤ programLimit := by
  cases command with
  | load image =>
    simp only [Command.accepted?, Option.ite_none_right_eq_some, Option.some.injEq] at haccepted
    obtain ⟨hfit, rfl⟩ := haccepted
    exact ⟨rfl, hfit⟩
  | _ => cases haccepted

lemma length_lastLoaded (history : List (Command τ)) : (Session.lastLoaded history).length ≤ programLimit := by
  unfold Session.lastLoaded
  cases hlast : (history.filterMap Command.accepted?).getLast? with
  | none => exact Nat.zero_le _
  | some program =>
    obtain ⟨command, -, haccepted⟩ := List.mem_filterMap.1 (List.mem_of_getLast? hlast)
    exact (accepted?_eq_some haccepted).2

def Console.Remembers (program : List UInt8) (period : τ) (c : Console τ) : Prop :=
  c.program.bytes = program ∧ c.timers.period = period

variable {program : List UInt8} {period : τ} {around : Surroundings} {α : Type}

variable [Duration τ]

namespace Console

/-- What a reset makes of a console depends on its program and the period of its timers. -/
lemma renewed_joined {c d : Console τ} (hprogram : c.program = d.program)
    (hperiod : c.timers.period = d.timers.period) :
    Joined (Machine.Twin c.machine.drawn d.machine.drawn) c.renewed d.renewed := by
  refine ⟨⟨?_, 0, rfl, rfl⟩, ?_, hprogram, rfl⟩
  · simp only [renewed, Machine.reported, Machine.resetState, Machine.resetPanel, hprogram]
  · simp only [renewed, Timers.reset, hperiod]

end Console

lemma period_of_advance {t next : Timers τ} {elapsed : τ} {ticks : Nat}
    (h : t.advance elapsed = .ok (ticks, next)) : next.period = t.period := by
  unfold Timers.advance at h
  split at h
  · cases h
  · cases h
    rfl

/-- A property of a console that does not look at its machine and that its clock keeps. -/
structure Beside (Q : Console τ → Prop) : Prop where
  machine : ∀ c machine, Q c → Q { c with machine }
  advanced : ∀ c elapsed ticks timers, c.timers.advance elapsed = .ok (ticks, timers) → Q c → Q { c with timers }
  rewound : ∀ c, Q c → Q { c with timers := c.timers.reset }
  counted : ∀ c frames, Q c → Q { c with frames }

namespace Beside

variable {Q : Console τ → Prop} (h : Beside Q)

include h

lemma onMachine (act : Action α) : Keeps Q (Console.onMachine act) := by
  intro c hc
  cases hrun : act c.machine with
  | ok a m =>
    rw [onMachine_of_ok hrun]
    exact h.machine c m hc
  | error e m =>
    rw [onMachine_of_error hrun]
    exact h.machine c m hc

lemma silently (act : Action Unit) : Keeps Q (Session.silently act) :=
  keeps_bind (h.onMachine act) fun _ => keeps_pure _

lemma change (f : Machine → Machine) : Keeps Q (Session.change f) :=
  keeps_bind (h.onMachine _) fun _ => keeps_pure _

lemma update (elapsed : τ) : Keeps Q (Console.update elapsed) := by
  intro c hc
  rw [Console.update, get_bind]
  cases hadvance : c.timers.advance elapsed with
  | error e => exact hc
  | ok result =>
    obtain ⟨ticks, timers⟩ := result
    have hticked : Keeps Q (Console.times (Console.onMachine .tick) ticks >>= fun _ => pure ticks) :=
      keeps_bind (keeps_times (h.onMachine _) _) fun _ => keeps_pure _
    exact hticked { c with timers } (h.advanced c elapsed ticks timers hadvance hc)

lemma step (elapsed : τ) : Keeps Q (Console.step around elapsed) :=
  keeps_bind (h.update elapsed) fun _ => h.onMachine _

lemma frame (elapsed : τ) (instructions : Int) : Keeps Q (Console.frame around elapsed instructions) := by
  apply keeps_bind (h.update elapsed)
  intro ticks
  apply keeps_bind (keeps_times (keeps_bind (h.step _) fun _ => keeps_pure _) _)
  intro _
  exact keeps_bind (keeps_modify fun c hc => h.counted c _ hc) fun _ => keeps_pure _

lemma renewed {c : Console τ} (hc : Q c) : Q c.renewed :=
  h.counted _ 0 (h.rewound _ (h.machine c _ hc))

/-- No command that leaves the console its program makes a difference. -/
lemma perform (around : Surroundings) {command : Command τ} (hold : command.accepted? = none) :
    Keeps Q (Session.perform around command) := by
  cases command with
  | load image =>
    intro c hc
    have hlarge : image.length > programLimit := by
      by_contra hfit
      rw [Command.accepted?, if_pos (by omega)] at hold
      cases hold
    rw [Session.perform, bind_of_error (load_of_large hlarge c)]
    exact hc
  | reset =>
    intro c hc
    rw [Session.perform, bind_of_ok c.reset_run]
    exact h.renewed hc
  | resetTimers => exact keeps_bind (keeps_modify fun c hc => h.rewound c hc) fun _ => keeps_pure _
  | step elapsed => exact keeps_bind (h.step elapsed) fun _ => keeps_pure _
  | frame elapsed instructions =>
    exact keeps_bind (h.frame _ _) fun _ => keeps_bind keeps_get fun _ => keeps_pure _
  | update elapsed => exact keeps_bind (h.update elapsed) fun _ => keeps_pure _
  | stepMachine | fetch | popReturn => exact keeps_bind (h.onMachine _) fun _ => keeps_pure _
  | draw x y rows => exact keeps_bind (h.onMachine _) fun _ => keeps_pure _
  | poll =>
    apply keeps_bind (h.onMachine _)
    intro press
    cases press with
    | none => exact keeps_pure _
    | some code => exact keeps_pure _
  | soundActive | awaitingKey | snapshot | litCount => exact keeps_bind keeps_get fun _ => keeps_pure _
  | readMemory _ _ | pixel _ _ | isDown _ => exact keeps_bind keeps_get fun _ => keeps_pure _
  | picture foreground background side =>
    refine keeps_bind keeps_get fun c => ?_
    split
    · exact keeps_pure _
    · exact keeps_throw _
  | resetState | resetPanel | markClean => exact h.change _
  | writeMemory _ _ | setRegisters _ | setStack _ | setAwaiting _ | setField _ _ | setTracing _ => exact h.change _
  | _ => exact h.silently _

end Beside

lemma remembers_beside : Beside (Console.Remembers program period) where
  machine _ _ hc := hc
  advanced _ _ _ _ hadvance hc := ⟨hc.1, (period_of_advance hadvance).trans hc.2⟩
  rewound _ hc := hc
  counted _ _ hc := hc

/-- Only an accepted load changes the program remembered, and nothing changes the period. -/
lemma remembers_perform (around : Surroundings) (command : Command τ) :
    Leads (Console.Remembers program period) (Console.Remembers (command.accepted?.getD program) period)
      (Session.perform around command) := by
  cases haccepted : command.accepted? with
  | none => exact remembers_beside.perform around haccepted
  | some image =>
    obtain ⟨rfl, hfit⟩ := accepted?_eq_some haccepted
    intro c hc
    rw [Session.perform, bind_of_ok (load_of_fits hfit c)]
    exact ⟨rfl, hc.2⟩

lemma remembers_run (commands : List (Command τ)) {c : Console τ} (hc : c.Remembers program period) :
    ((Session.run around commands c).2).Remembers
      (((commands.filterMap Command.accepted?).getLast?).getD program) period := by
  induction commands generalizing c program with
  | nil => exact hc
  | cons command rest ih =>
    have hnext := remembers_perform around command c hc
    rw [← answer_eq_ending] at hnext
    have hrest := ih hnext
    cases haccepted : command.accepted? with
    | none =>
      rw [haccepted] at hrest
      rw [List.filterMap_cons_none haccepted]
      exact hrest
    | some image =>
      rw [haccepted] at hrest
      rw [List.filterMap_cons_some haccepted, List.getLast?_cons]
      exact hrest

/-- After any session, a console that is reset is a new one with the last program that was accepted, but for its place
among the random bytes and its trace. -/
theorem reset_leaves_no_residue (around : Surroundings) (rate : Option τ) (history : List (Command τ)) :
    let c := (Session.run around history (Console.fresh rate)).2
    let Twins : Console τ → Console τ → Prop := Joined (Machine.Twin c.machine.drawn 0)
    (∃ renewed new, Console.reset c = .ok () renewed ∧
      Console.load (Session.lastLoaded history) (Console.fresh rate) = .ok () new ∧
      Twins renewed new ∧
      ∀ (around' : Surroundings) (later : List (Command τ)), around'.dialect = around.dialect →
        (∀ n, around'.random n = around.random (c.machine.drawn + n)) →
        List.Forall₂ (SameOutcome Twins) (Session.run around later renewed).1 (Session.run around' later new).1 ∧
        Twins (Session.run around later renewed).2 (Session.run around' later new).2) ∧
    ∀ (any : Console τ) (program : List UInt8), any.timers.period = (Console.fresh rate).timers.period →
      (program.length ≤ 3584 → ∃ loaded new, Console.load program any = .ok () loaded ∧
        Console.load program (Console.fresh rate) = .ok () new ∧
        Joined (Machine.Twin any.machine.drawn 0) loaded new) ∧
      (3584 < program.length → Console.load program any = .error (.programTooLarge program.length) any ∧
        Console.load program (Console.fresh rate) = .error (.programTooLarge program.length) (Console.fresh rate)) := by
  intro c Twins
  constructor
  · have hc : c.Remembers (Session.lastLoaded history) (Console.fresh rate).timers.period :=
      remembers_run history ⟨rfl, rfl⟩
    let last : Program := ⟨Session.lastLoaded history, length_lastLoaded history⟩
    let blank : Console τ := { Console.fresh rate with program := last }
    have hjoined : Twins c.renewed blank.renewed := Console.renewed_joined (d := blank) (Program.ext hc.1) hc.2
    refine ⟨_, _, c.reset_run, load_of_fits (length_lastLoaded history) _, hjoined, ?_⟩
    intro around' later hdialect hrandom
    have hbytes (n : Nat) : around.random (c.machine.drawn + n) = around'.random (0 + n) := by
      rw [Nat.zero_add, hrandom]
    exact coupled_run (Machine.twin_couples hdialect.symm hbytes) later hjoined
  · intro any program hperiod
    refine ⟨fun hfit => ?_, fun hlarge => ⟨load_of_large hlarge any, load_of_large hlarge _⟩⟩
    let loaded : Console τ := { any with program := ⟨program, hfit⟩ }
    let new : Console τ := { Console.fresh rate with program := ⟨program, hfit⟩ }
    exact ⟨_, _, load_of_fits hfit any, load_of_fits hfit _,
      Console.renewed_joined (c := loaded) (d := new) rfl hperiod⟩

/-- A console that has drawn one byte is reset and draws the next one, which is the first for a new console. -/
theorem reset_leaves_no_residue_drawing :
    let around : Surroundings := ⟨Dialect.modern, fun n => UInt8.ofNat n⟩
    let around' : Surroundings := ⟨Dialect.modern, fun n => UInt8.ofNat (1 + n)⟩
    let history : List (Command Rat) :=
      [.load [0xC1, 0xFF], .execute 0xC1FF, .install [0, 0], .setField .counter 77, .execute 0, .press 3]
    let c := (Session.run around history (Console.fresh (some 60))).2
    let Twins : Console Rat → Console Rat → Prop := Joined (Machine.Twin c.machine.drawn 0)
    let later : List (Command Rat) := [.stepMachine, .stepMachine, .snapshot]
    c.machine.drawn = 1 ∧
    (∃ renewed new, Console.reset c = .ok () renewed ∧
      Console.load [0xC1, 0xFF] (Console.fresh (some 60)) = .ok () new ∧
      List.Forall₂ (SameOutcome Twins) (Session.run around later renewed).1 (Session.run around' later new).1) ∧
    ∃ loaded new, Console.load [0x00, 0xE0] c = .ok () loaded ∧
      Console.load [0x00, 0xE0] (Console.fresh (some 60)) = .ok () new ∧ Twins loaded new := by
  intro around around' history c Twins later
  have hdrawn : c.machine.drawn = 1 := by decide +kernel
  have hrandom (n : Nat) : around'.random n = around.random (c.machine.drawn + n) := by
    rw [hdrawn]
  obtain ⟨⟨renewed, new, hreset, hload, _, hlater⟩, hany⟩ := reset_leaves_no_residue around (some (60 : Rat)) history
  have hperiod : c.timers.period = (Console.fresh (some (60 : Rat))).timers.period := by decide +kernel
  have hshort : [(0x00 : UInt8), 0xE0].length ≤ 3584 := by decide
  exact ⟨hdrawn, ⟨renewed, new, hreset, hload, (hlater around' later rfl hrandom).1⟩, (hany c _ hperiod).1 hshort⟩

end Consoles

end Chip8
