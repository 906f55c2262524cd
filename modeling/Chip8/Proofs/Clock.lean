import Chip8.Proofs.Starts

/-!
# Time and the program

The timers run beside the program. It can read one of them with one instruction, and the other one not at all.

Main statement: `timers_stay_apart`. Two consoles that differ at most in their timers and clocks are given the same
steps, frames and keys, but different times to let pass, and commands for the clock anywhere in between. As long as no
step reads the delay timer, all outcomes are the same, and the consoles after each of them differ in no more than
before. If the consoles differ in the sound timer alone, no command but the one that asks for it can tell them apart.
-/

namespace Chip8

namespace Machine

/-- Machines that differ at most in their timers, and in what they report about the end of a sound. -/
structure SameButTimers (m m' : Machine) : Prop where
  same : m = { m' with delay := m.delay, sound := m.sound, reports := m.reports }
  reports : m.reports.filter (· ≠ .soundExpired) = m'.reports.filter (· ≠ .soundExpired)

def SameButSound (m m' : Machine) : Prop := m.SameButTimers m' ∧ m.delay = m'.delay

variable {around : Surroundings} {m m' : Machine}

namespace SameButTimers

lemma symm (h : m.SameButTimers m') : m'.SameButTimers m := by
  refine ⟨?_, h.reports.symm⟩
  rw [h.same]

lemma core (h : m.SameButTimers m') : m.core = m'.core := by
  rw [h.same]
  rfl

lemma drawn (h : m.SameButTimers m') : m.drawn = m'.drawn := by rw [h.same]

lemma tracing (h : m.SameButTimers m') : m.tracing = m'.tracing := by rw [h.same]

lemma ticked (h : m.SameButTimers m') : m.ticked.SameButTimers m' := by
  constructor
  · rw [h.same]
    rfl
  · rw [← h.reports, Machine.ticked]
    by_cases hlast : m.sound = 1 ∧ m.tracing = true
    · rw [if_pos hlast]
      rfl
    · rw [if_neg hlast]

/-- Each machine may have ticked as often as it likes. -/
lemma iterate_ticked (h : m.SameButTimers m') (n n' : Nat) :
    (Machine.ticked^[n] m).SameButTimers (Machine.ticked^[n'] m') := by
  have hleft (n : Nat) {m m' : Machine} (h : m.SameButTimers m') : (Machine.ticked^[n] m).SameButTimers m' := by
    induction n generalizing m with
    | zero => exact h
    | succ n ih => exact ih h.ticked
  exact hleft n (hleft n' h.symm).symm

lemma reported (h : m.SameButTimers m') (r : Report) : (m.reported r).SameButTimers (m'.reported r) := by
  constructor
  · rw [h.same]
    rfl
  · have htracing := h.tracing
    simp only [Machine.reported, htracing]
    split
    · rw [List.filter_cons, List.filter_cons, h.reports]
    · exact h.reports

end SameButTimers

lemma sameButTimers_carries (around : Surroundings) : Carries SameButTimers around around where
  core h := h.core
  random h := by rw [h.drawn]
  adopt h k := ⟨by simp only [adopt, h.drawn, h.tracing], h.reports⟩
  setDelay h value := ⟨by rw [h.same], h.reports⟩
  setSound h value := ⟨by rw [h.same], h.reports⟩
  advance h := ⟨by rw [h.same], h.reports⟩
  setTracing h value := ⟨by rw [h.same], h.reports⟩
  reported h r := h.reported r

lemma sameButSound_attuned (around : Surroundings) : Attuned SameButSound around around where
  core h := h.1.core
  random h := by rw [h.1.drawn]
  adopt h k := ⟨(sameButTimers_carries around).adopt h.1 k, h.2⟩
  setDelay h value := ⟨(sameButTimers_carries around).setDelay h.1 value, rfl⟩
  setSound h value := ⟨(sameButTimers_carries around).setSound h.1 value, h.2⟩
  advance h := ⟨(sameButTimers_carries around).advance h.1, h.2⟩
  setTracing h value := ⟨(sameButTimers_carries around).setTracing h.1 value, h.2⟩
  reported h r := ⟨h.1.reported r, h.2⟩
  dialect := rfl
  delay h := h.2
  tick m m' h := by
    rw [Action.tick_run, Action.tick_run]
    refine .ok rfl ⟨h.1.iterate_ticked 1 1, ?_⟩
    simp only [ticked, h.2]

/-- Only the instruction that reads the delay timer can tell how much time has passed. -/
lemma SameButTimers.step (h : m.SameButTimers m') (hblind : ∀ x, ¬m.Completes around (.readDelay x)) :
    Alike SameButTimers Eq (Action.step around m) (Action.step around m') := by
  have hcarries := sameButTimers_carries around
  apply hcarries.step_at h
  intro word i hrun hfetch hdecode k hk
  have hother (x : Register) : i ≠ .readDelay x := by
    rintro rfl
    exact hblind x (completes_of_execute hrun hfetch hdecode rfl)
  exact hcarries.execute_of_dialect rfl hother _ k hk

end Machine

section Consoles

variable {τ : Type}

/-- Consoles with machines that differ at most in their timers. Nothing is said about their clocks. -/
structure Console.SameButClock (c c' : Console τ) : Prop where
  machine : c.machine.SameButTimers c'.machine
  program : c.program = c'.program
  frames : c.frames = c'.frames

lemma Console.SameButClock.symm {c c' : Console τ} (h : c.SameButClock c') : c'.SameButClock c :=
  ⟨h.machine.symm, h.program.symm, h.frames.symm⟩

lemma sameButClock_over : Over (Console.SameButClock : Console τ → Console τ → Prop) Machine.SameButTimers where
  machine h := h.machine
  replace h hm := ⟨hm, h.program, h.frames⟩

lemma times_tick_run (n : Nat) (c : Console τ) :
    Console.times (Console.onMachine Action.tick) n c = .ok () { c with machine := Machine.ticked^[n] c.machine } := by
  induction n generalizing c with
  | zero => rfl
  | succ n ih => rw [Console.times, bind_of_ok (onMachine_of_ok Action.tick_run), ih, Function.iterate_succ_apply]

variable [Duration τ]

lemma update_run (elapsed : τ) (c : Console τ) :
    Console.update elapsed c =
      match c.timers.advance elapsed with
      | .error e => .error e c
      | .ok (ticks, timers) => .ok ticks { c with timers, machine := Machine.ticked^[ticks] c.machine } := by
  rw [Console.update, get_bind]
  cases c.timers.advance elapsed with
  | error e => rfl
  | ok result =>
    dsimp only
    rw [modify_bind, bind_of_ok (times_tick_run _ _)]
    rfl

/-- If time runs backwards, a frame is refused before its first step. -/
lemma frame_of_backwards (around : Surroundings) {elapsed : τ} (hback : elapsed < Duration.ofNat 0) (instructions : Int)
    (c : Console τ) : Console.frame around elapsed instructions c = .error .negativeElapsed c := by
  have hupdate : Console.update elapsed c = .error .negativeElapsed c := by
    rw [update_run, Timers.advance, if_pos hback]
  rw [Console.frame, bind_of_error hupdate]

/-- Whatever the clocks say, time passes for both consoles or is refused by both. -/
lemma coupled_update_any {elapsed elapsed' : τ}
    (hsign : elapsed < Duration.ofNat 0 ↔ elapsed' < Duration.ofNat 0) :
    Coupled Console.SameButClock (fun _ _ => True) (Console.update elapsed) (Console.update elapsed') := by
  intro c c' h
  rw [update_run, update_run, Timers.advance, Timers.advance]
  by_cases hneg : elapsed < Duration.ofNat 0
  · rw [if_pos hneg, if_pos (hsign.1 hneg)]
    exact .error _ h
  · rw [if_neg hneg, if_neg (fun hneg' => hneg (hsign.2 hneg'))]
    exact .ok trivial ⟨h.machine.iterate_ticked _ _, h.program, h.frames⟩

lemma sameButClock_guarded (around : Surroundings) :
    Guarded (Console.SameButClock : Console τ → Console τ → Prop) Machine.SameButTimers
      (fun m => ∀ x, ¬m.Completes around (.readDelay x)) around around where
  toOver := sameButClock_over
  step h hblind := h.step hblind
  screen h := by rw [h.same]
  idle := coupled_update_any Iff.rfl
  counted h := ⟨h.machine, h.program, congrArg (· + 1) h.frames⟩

/-- The outcome of every command of a kind, and the console after it. -/
def Session.milestones (kind : Command τ → Bool) (around : Surroundings) :
    List (Command τ) → Console τ → List (Outcome τ × Console τ)
  | [], _ => []
  | command :: rest, c =>
    let after := answer around command c
    if kind command then after :: milestones kind around rest after.2 else milestones kind around rest after.2

/-- The same command, but for the time that passes before its steps. -/
inductive Retimed : Command τ → Command τ → Prop
  | step {elapsed elapsed' : τ} (h : ¬elapsed < Duration.ofNat 0) (h' : ¬elapsed' < Duration.ofNat 0) :
    Retimed (.step elapsed) (.step elapsed')
  | stepMachine : Retimed .stepMachine .stepMachine
  | frame {elapsed elapsed' : Option τ} (instructions : Option Int)
    (h : ¬elapsed.getD Console.frameLength < Duration.ofNat 0)
    (h' : ¬elapsed'.getD Console.frameLength < Duration.ofNat 0) :
    Retimed (.frame elapsed instructions) (.frame elapsed' instructions)
  | aside {command : Command τ} (haside : command.isAside) (hclock : command.isClock = false) :
    Retimed command command

variable {around : Surroundings} {kind : Command τ → Bool} {command : Command τ} {rest : List (Command τ)}
  {c c' : Console τ}

lemma milestones_of_kind (hkind : kind command = true) :
    Session.milestones kind around (command :: rest) c =
      Session.answer around command c ::
        Session.milestones kind around rest (Session.answer around command c).2 := by
  rw [Session.milestones, if_pos hkind]

lemma milestones_of_other (hkind : kind command = false) :
    Session.milestones kind around (command :: rest) c =
      Session.milestones kind around rest (Session.answer around command c).2 := by
  rw [Session.milestones, hkind]
  rfl

lemma milestones_append_of_other (around : Surroundings) {skipped : List (Command τ)}
    (hskipped : ∀ command ∈ skipped, kind command = false) (rest : List (Command τ)) (c : Console τ) :
    Session.milestones kind around (skipped ++ rest) c =
      Session.milestones kind around rest (Session.run around skipped c).2 := by
  induction skipped generalizing c with
  | nil => rfl
  | cons command skipped ih =>
    rw [List.cons_append, milestones_of_other (hskipped command List.mem_cons_self)]
    exact ih (fun x hx => hskipped x (List.mem_cons_of_mem _ hx)) _

/-- Commands that let the clock run may be given to one console alone. -/
lemma keeps_clock (around : Surroundings) (hclock : command.isClock) (c' : Console τ) :
    Keeps (fun c => c.SameButClock c') (Session.perform around command) := by
  cases command with
  | update elapsed =>
    have hupdate : Keeps (fun c => c.SameButClock c') (Console.update elapsed) := by
      intro c h
      rw [update_run]
      cases c.timers.advance elapsed with
      | error e => exact h
      | ok result => exact ⟨h.machine.iterate_ticked result.1 0, h.program, h.frames⟩
    exact keeps_bind hupdate fun _ => keeps_pure _
  | tick =>
    have htick : Keeps (fun c => c.SameButClock c') (Console.onMachine Action.tick) := by
      intro c h
      rw [onMachine_of_ok Action.tick_run]
      exact ⟨h.machine.ticked, h.program, h.frames⟩
    exact keeps_bind htick fun _ => keeps_pure _
  | soundActive => exact keeps_bind keeps_get fun _ => keeps_pure _
  | _ => cases hclock

lemma sameButClock_clocks (around : Surroundings) {commands : List (Command τ)}
    (hclock : ∀ command ∈ commands, command.isClock) (h : c.SameButClock c') :
    c.SameButClock (Session.run around commands c').2 := by
  have hkeeps (command : Command τ) (hmem : command ∈ commands) := keeps_clock around (hclock command hmem) c
  exact (keeps_run hkeeps h.symm).symm

/-- One command each, with whatever times, has the same outcome unless it reads the delay timer. -/
lemma Retimed.answer {command command' : Command τ} (hretimed : Retimed command command') (h : c.SameButClock c')
    (hblind : ∀ m ∈ Session.startsOf around command c, ∀ x, ¬m.Completes around (.readDelay x)) :
    (Session.answer around command c).1 = (Session.answer around command' c').1 ∧
      (Session.answer around command c).2.SameButClock (Session.answer around command' c').2 := by
  have hguarded : Guarded (Console.SameButClock : Console τ → Console τ → Prop) _ _ around around :=
    sameButClock_guarded around
  apply answer_alike (fun _ _ => congrArg _) (fun _ => rfl)
  cases hretimed with
  | step h0 h0' => exact (hguarded.perform_at (.step (coupled_update_any (iff_of_false h0 h0'))) h hblind).1
  | stepMachine => exact (hguarded.perform_at .stepMachine h hblind).1
  | frame instructions h0 h0' =>
    exact (hguarded.perform_at (.frame _ (coupled_update_any (iff_of_false h0 h0'))) h hblind).1
  | aside haside hclock =>
    exact sameButClock_over.aside (Machine.sameButTimers_carries around) haside hclock c c' h

/-- By induction on the commands of the first console; those for its clock alone are passed over, and those for the
clock of the second one are taken in before the command that corresponds. -/
lemma retimed_run {commands commands' : List (Command τ)}
    (hretimed : List.Forall₂ Retimed (commands.filter (!·.isClock)) (commands'.filter (!·.isClock)))
    (h : c.SameButClock c')
    (hblind : ∀ m ∈ Session.starts around commands c, ∀ x, ¬m.Completes around (.readDelay x)) :
    List.Forall₂ (fun after after' => after.1 = after'.1 ∧ after.2.SameButClock after'.2)
        (Session.milestones (!·.isClock) around commands c) (Session.milestones (!·.isClock) around commands' c') ∧
      (Session.run around commands c).2.SameButClock (Session.run around commands' c').2 := by
  induction commands generalizing c c' commands' with
  | nil =>
    have hnone : commands'.filter (!·.isClock) = [] := List.forall₂_nil_left_iff.1 hretimed
    have hclock : ∀ command ∈ commands', command.isClock := by simpa using hnone
    have hskipped : ∀ command ∈ commands', (!command.isClock) = false := by simpa using hclock
    have hmilestones := milestones_append_of_other around hskipped [] c'
    rw [List.append_nil] at hmilestones
    rw [hmilestones]
    exact ⟨.nil, sameButClock_clocks around hclock h⟩
  | cons command rest ih =>
    have hrest : ∀ m ∈ Session.starts around rest (Session.answer around command c).2,
        ∀ x, ¬m.Completes around (.readDelay x) := fun m hm => hblind m (starts_mem_starts hm)
    cases hclock : command.isClock with
    | true =>
      have hnext : (Session.answer around command c).2.SameButClock c' := by
        rw [answer_eq_ending]
        exact keeps_clock around hclock c' c h
      rw [List.filter_cons_of_neg (by simp [hclock])] at hretimed
      rw [milestones_of_other (by simp [hclock]), run_cons]
      exact ih hretimed hnext hrest
    | false =>
      rw [List.filter_cons_of_pos (by simp [hclock])] at hretimed
      obtain ⟨command', others, hhead, htail, hothers⟩ := List.forall₂_cons_left_iff.1 hretimed
      obtain ⟨skipped, rest', rfl, hskipped, hkind, rfl⟩ := List.filter_eq_cons_iff.1 hothers
      have hclocks : ∀ command ∈ skipped, command.isClock := by simpa using hskipped
      have hbefore := sameButClock_clocks around hclocks h
      have hanswer := hhead.answer hbefore fun m hm => hblind m (startsOf_mem_starts hm)
      obtain ⟨hmilestones, hend⟩ := ih htail hanswer.2 hrest
      rw [milestones_of_kind (by simp [hclock]), milestones_append_of_other around (by simpa using hclocks),
        milestones_of_kind hkind, run_append, run_cons, run_cons]
      exact ⟨.cons hanswer hmilestones, hend⟩

lemma sound_run (h : Joined Machine.SameButSound c c') (commands : List (Command τ)) :
    List.Forall₂ (fun after after' => SameOutcome (Joined Machine.SameButSound) after.1 after'.1 ∧
        Joined Machine.SameButSound after.2 after'.2)
        (Session.milestones (!·.asksSound) around commands c) (Session.milestones (!·.asksSound) around commands c') ∧
      Joined Machine.SameButSound (Session.run around commands c).2 (Session.run around commands c').2 := by
  induction commands generalizing c c' with
  | nil => exact ⟨.nil, h⟩
  | cons command rest ih =>
    rw [run_cons, run_cons]
    cases hasks : command.asksSound with
    | true =>
      have hsilent (d : Console τ) : (Session.answer around command d).2 = d := by
        cases command with
        | soundActive => rfl
        | _ => cases hasks
      rw [milestones_of_other (by simp [hasks]), milestones_of_other (by simp [hasks]), hsilent, hsilent]
      exact ih h
    | false =>
      have halike := (Machine.sameButSound_attuned around).perform hasks c c' h
      have hanswer := answer_alike (fun _ _ => SameOutcome.reply) SameOutcome.failure halike
      obtain ⟨hmilestones, hend⟩ := ih hanswer.2
      rw [milestones_of_kind (by simp [hasks]), milestones_of_kind (by simp [hasks])]
      exact ⟨.cons hanswer hmilestones, hend⟩

/-- Consoles that differ at most in their timers and clocks run alike, whatever time passes, as long as no step reads
the delay timer; no step reads the sound timer. -/
theorem timers_stay_apart (around : Surroundings) (c c' : Console τ) :
    (c.SameButClock c' → ∀ commands commands' : List (Command τ),
      List.Forall₂ Retimed (commands.filter (!·.isClock)) (commands'.filter (!·.isClock)) →
      (∀ m ∈ Session.starts around commands c, ∀ x, ¬m.Completes around (.readDelay x)) →
      List.Forall₂ (fun after after' => after.1 = after'.1 ∧ after.2.SameButClock after'.2)
          (Session.milestones (!·.isClock) around commands c) (Session.milestones (!·.isClock) around commands' c') ∧
        (Session.run around commands c).2.SameButClock (Session.run around commands' c').2) ∧
    (Joined Machine.SameButSound c c' → ∀ commands : List (Command τ),
      List.Forall₂ (fun after after' => SameOutcome (Joined Machine.SameButSound) after.1 after'.1 ∧
          Joined Machine.SameButSound after.2 after'.2)
          (Session.milestones (!·.asksSound) around commands c)
          (Session.milestones (!·.asksSound) around commands c') ∧
        Joined Machine.SameButSound (Session.run around commands c).2 (Session.run around commands c').2) :=
  ⟨fun h _ _ hretimed hblind => retimed_run hretimed h hblind, fun h commands => sound_run h commands⟩

/-- One console lets the clock run while its key is awaited, the other one does not; both store the key. -/
theorem timers_stay_apart_key :
    let around : Surroundings := ⟨Dialect.modern, fun _ => 0⟩
    let program : List UInt8 := [0xF3, 0x0A, 0xF3, 0x15]
    let m : Machine := { Machine.fresh with memory := Memory.write (Vector.replicate 4096 0) 0x200 program }
    let c : Console Rat := { Console.fresh none with machine := m }
    let c' : Console Rat := { c with machine := { m with delay := 9, sound := 2 }, timers := ⟨5, 1⟩ }
    let d : Console Rat := { c with machine := { m with sound := 2 } }
    let commands : List (Command Rat) := [.step 0, .press 7, .stepMachine, .frame none (some 1)]
    let commands' : List (Command Rat) :=
      [.tick, .step 17, .update 100, .press 7, .soundActive, .stepMachine, .frame (some 3) (some 1), .tick]
    (Session.run around commands c).2.machine.delay = 7 ∧ (Session.run around commands' c').2.machine.delay = 6 ∧
      (Session.run around commands c).2.SameButClock (Session.run around commands' c').2 ∧
      Joined Machine.SameButSound (Session.run around commands c).2 (Session.run around commands d).2 := by
  intro around program m c c' d commands commands'
  have hc : c.SameButClock c' := ⟨⟨rfl, rfl⟩, rfl, rfl⟩
  have hd : Joined Machine.SameButSound c d := ⟨⟨⟨rfl, rfl⟩, rfl⟩, rfl, rfl, rfl⟩
  have hretimed : List.Forall₂ Retimed (commands.filter (!·.isClock)) (commands'.filter (!·.isClock)) := by
    have hstep : Retimed (.step (0 : Rat)) (.step 17) := .step (by decide +kernel) (by decide +kernel)
    have hpress : Retimed (.press 7 : Command Rat) (.press 7) := .aside rfl rfl
    have hframe : Retimed (.frame none (some 1) : Command Rat) (.frame (some 3) (some 1)) :=
      .frame _ (by decide +kernel) (by decide +kernel)
    exact .cons hstep (.cons hpress (.cons .stepMachine (.cons hframe .nil)))
  have hblind : ∀ m ∈ Session.starts around commands c, ∀ x, ¬m.Completes around (.readDelay x) := by decide +kernel
  have hdelay : (Session.run around commands c).2.machine.delay = 7 := by decide +kernel
  have hdelay' : (Session.run around commands' c').2.machine.delay = 6 := by decide +kernel
  exact ⟨hdelay, hdelay', ((timers_stay_apart around c c').1 hc commands commands' hretimed hblind).2,
    ((timers_stay_apart around c d).2 hd commands).2⟩

end Consoles

end Chip8
