import Chip8.Proofs.Faults
import Chip8.Proofs.Reset
import Chip8.Proofs.Ticks

/-!
# Frames

Before every step of a frame the clock is advanced by no time at all. In exact arithmetic that brings no tick, because a
console never carries a whole period over (`settled_run`).

Main statement: `frame_is_update_then_steps`, which takes a frame apart into one advance of the clock and plain steps of
the machine. If a step fails, its failure ends the frame with the machine as the failed step left it, which at most has
fetched a word, and the frame is not counted. A frame may therefore be cut in two if no time passes for the second part.
Time that runs backwards is refused and changes nothing.
-/

namespace Chip8

namespace Action

/-- A number of steps in a row, until one of them fails. -/
def steps (around : Surroundings) : Nat → Action Unit
  | 0 => pure ()
  | n + 1 => do let _ ← step around; steps around n

variable {around : Surroundings} {m t u : Machine}

lemma steps_succ (around : Surroundings) (n : Nat) :
    steps around (n + 1) = step around >>= fun _ => steps around n := rfl

lemma steps_add (around : Surroundings) (a b : Nat) :
    steps around (a + b) = steps around a >>= fun _ => steps around b := by
  induction a with
  | zero =>
    rw [Nat.zero_add]
    rfl
  | succ a ih => rw [Nat.succ_add, steps_succ, steps_succ, ih, bind_assoc]

lemma steps_of_error {i n : Nat} (hi : i < n) (hrun : steps around i m = .ok () t) {e : Failure}
    (herror : step around t = .error e u) : steps around n m = .error e u := by
  obtain ⟨k, rfl⟩ : ∃ k, n = i + (k + 1) := ⟨n - i - 1, by omega⟩
  rw [steps_add, bind_of_ok hrun, steps_succ, bind_of_error herror]

end Action

lemma onMachine_bind {τ α β : Type} (act : Action α) (next : α → Action β) :
    (Console.onMachine (act >>= next) : Console.Action τ β) =
      Console.onMachine act >>= fun a => Console.onMachine (next a) := by
  funext c
  cases hrun : act c.machine with
  | ok a m =>
    have hfirst : Console.onMachine act c = .ok a { c with machine := m } := onMachine_of_ok hrun
    rw [bind_of_ok hfirst]
    simp only [Console.onMachine, bind_of_ok hrun]
  | error e m =>
    have hfirst : Console.onMachine act c = .error e { c with machine := m } := onMachine_of_error hrun
    have hboth : Console.onMachine (act >>= next) c = .error e { c with machine := m } :=
      onMachine_of_error (bind_of_error hrun)
    rw [bind_of_error hfirst, hboth]

section Reachable

variable {around : Surroundings} {c : Console Rat}

lemma settled_fresh {rate : Option Rat} (hrate : ∀ hz ∈ rate, 0 ≤ hz) :
    (Console.fresh rate : Console Rat).timers.Settled := by
  have hpositive : 0 < Console.usualUnlessGiven rate := by
    unfold Console.usualUnlessGiven
    split
    · rename_i hz hgiven
      obtain ⟨hmem, hkept⟩ := Option.filter_eq_some_iff.1 hgiven
      have hnonzero : hz ≠ 0 := by
        rintro rfl
        revert hkept
        decide +kernel
      exact lt_of_le_of_ne (hrate hz hmem) hnonzero.symm
    · decide +kernel
  have hperiod : 0 < 1000 / Console.usualUnlessGiven rate := div_pos (by norm_num) hpositive
  exact ⟨hperiod, le_rfl, hperiod⟩

lemma settled_beside : Beside fun c : Console Rat => c.timers.Settled where
  machine _ _ hc := hc
  advanced c elapsed ticks timers hadvance hc := by
    by_cases h0 : 0 ≤ elapsed
    · rw [hc.advance_run h0] at hadvance
      cases hadvance
      exact hc.after h0
    · have hback : elapsed < Duration.ofNat 0 := not_le.1 h0
      rw [Timers.advance, if_pos hback] at hadvance
      cases hadvance
  rewound _ hc := ⟨hc.period, le_rfl, hc.period⟩
  counted _ _ hc := hc

lemma settled_perform (around : Surroundings) (command : Command Rat) :
    Keeps (fun c : Console Rat => c.timers.Settled) (Session.perform around command) := by
  cases haccepted : command.accepted? with
  | none => exact settled_beside.perform around haccepted
  | some program =>
    obtain ⟨rfl, hfit⟩ := accepted?_eq_some haccepted
    intro c hc
    have hloaded : ({ c with program := ⟨program, hfit⟩ } : Console Rat).timers.Settled := hc
    rw [Session.perform, bind_of_ok (load_of_fits hfit c)]
    exact settled_beside.renewed hloaded

/-- Whatever a console has been through, its timers carry less than a period. -/
lemma settled_run (around : Surroundings) {rate : Option Rat} (hrate : ∀ hz ∈ rate, 0 ≤ hz)
    (commands : List (Command Rat)) : (Session.run around commands (Console.fresh rate)).2.timers.Settled :=
  keeps_run (fun command _ => settled_perform around command) (settled_fresh hrate)

end Reachable

namespace Console

variable {around : Surroundings} {c : Console Rat}

/-- Letting no time pass changes nothing. -/
lemma update_zero (hc : c.timers.Settled) : update 0 c = .ok 0 c := by
  rw [update_of_settled hc le_rfl, after_zero hc, hc.ticksIn_zero]

lemma step_zero (hc : c.timers.Settled) : step around (Duration.ofNat 0) c = onMachine (.step around) c := by
  have hidle : update (Duration.ofNat 0) c = .ok 0 c := update_zero hc
  rw [step, bind_of_ok hidle]

lemma times_step_zero (hc : c.timers.Settled) (n : Nat) :
    times (do let _ ← step around (Duration.ofNat 0)) n c = onMachine (Action.steps around n) c := by
  induction n generalizing c with
  | zero => rfl
  | succ n ih =>
    rw [times_step_succ, Action.steps_succ, onMachine_bind]
    cases hrun : Action.step around c.machine with
    | ok i m =>
      have hfirst : onMachine (.step around) c = .ok i { c with machine := m } := onMachine_of_ok hrun
      rw [bind_of_ok hfirst, bind_of_ok ((step_zero hc).trans hfirst)]
      -- A step leaves the timers alone, so they are settled for the steps to come.
      exact ih (c := { c with machine := m }) hc
    | error e m =>
      have hfirst : onMachine (.step around) c = .error e { c with machine := m } := onMachine_of_error hrun
      rw [bind_of_error hfirst, bind_of_error ((step_zero hc).trans hfirst)]

/-- A frame is counted once its steps are done. -/
lemma frame_run (hc : c.timers.Settled) {elapsed : Rat} (h0 : 0 ≤ elapsed) (instructions : Int) :
    frame around elapsed instructions c =
      (do onMachine (Action.steps around instructions.toNat)
          modify fun c => { c with frames := c.frames + 1 }
          return c.timers.ticksIn elapsed : Action Rat Nat) (c.after elapsed) := by
  have hsteps : times (do let _ ← step around (Duration.ofNat 0)) instructions.toNat (c.after elapsed) = _ :=
    times_step_zero (hc.after h0) instructions.toNat
  rw [frame, bind_of_ok (update_of_settled hc h0)]
  cases hrun : onMachine (Action.steps around instructions.toNat) (c.after elapsed) with
  | ok _ d => rw [bind_of_ok hrun, bind_of_ok (hsteps.trans hrun)]
  | error e d => rw [bind_of_error hrun, bind_of_error (hsteps.trans hrun)]

lemma frame_of_steps (hc : c.timers.Settled) {elapsed : Rat} (h0 : 0 ≤ elapsed) {instructions : Int} {m : Machine}
    (hrun : Action.steps around instructions.toNat (c.after elapsed).machine = .ok () m) :
    frame around elapsed instructions c =
      .ok (c.timers.ticksIn elapsed) { c.after elapsed with machine := m, frames := c.frames + 1 } := by
  rw [frame_run hc h0, bind_of_ok (onMachine_of_ok hrun)]
  rfl

lemma frame_of_steps_error (hc : c.timers.Settled) {elapsed : Rat} (h0 : 0 ≤ elapsed) {instructions : Int} {e : Failure}
    {m : Machine} (hrun : Action.steps around instructions.toNat (c.after elapsed).machine = .error e m) :
    frame around elapsed instructions c = .error e { c.after elapsed with machine := m } := by
  rw [frame_run hc h0, bind_of_error (onMachine_of_error hrun)]

lemma frame_of_neg {elapsed : Rat} (hback : elapsed < 0) (instructions : Int) :
    frame around elapsed instructions c = .error .negativeElapsed c := frame_of_backwards around hback instructions c

/-- Consoles that differ at most in how many frames they have counted. -/
def SameButFrames {τ : Type} (c d : Console τ) : Prop := c = { d with frames := c.frames }

/-- A frame may be cut in two between any of its steps, if no more time passes for the second part. -/
lemma frame_add (hc : c.timers.Settled) {elapsed : Rat} (h0 : 0 ≤ elapsed) (a b : Nat) :
    Alike SameButFrames Eq (frame around elapsed (a + b) c)
      ((do let ticks ← frame around elapsed a
           let _ ← frame around 0 b
           return ticks : Action Rat Nat) c) := by
  have hsteps : Action.steps around ((a + b : Int)).toNat (c.after elapsed).machine =
      (Action.steps around a >>= fun _ => Action.steps around b) (c.after elapsed).machine := by
    rw [← Action.steps_add]
    rfl
  cases hfirst : Action.steps around a (c.after elapsed).machine with
  | error e m =>
    rw [bind_of_error hfirst] at hsteps
    have hframe : frame around elapsed a c = _ := frame_of_steps_error hc h0 hfirst
    rw [frame_of_steps_error hc h0 hsteps, bind_of_error hframe]
    exact .error e rfl
  | ok _ m =>
    rw [bind_of_ok hfirst] at hsteps
    have hframe : frame around elapsed a c = _ := frame_of_steps hc h0 hfirst
    let d : Console Rat := { c.after elapsed with machine := m, frames := c.frames + 1 }
    have hd : d.timers.Settled := hc.after h0
    -- The second part starts here, and its advance of the clock does nothing.
    have hidle : d.after 0 = d := after_zero hd
    rw [bind_of_ok hframe]
    cases hsecond : Action.steps around b m with
    | error e m' =>
      rw [hsecond] at hsteps
      have hlater : frame around 0 b d = .error e { d.after 0 with machine := m' } :=
        frame_of_steps_error hd le_rfl (by rw [hidle]; exact hsecond)
      rw [frame_of_steps_error hc h0 hsteps, bind_of_error hlater, hidle]
      exact .error e rfl
    | ok _ m' =>
      rw [hsecond] at hsteps
      have hlater : frame around 0 b d = .ok _ { d.after 0 with machine := m', frames := d.frames + 1 } :=
        frame_of_steps hd le_rfl (by rw [hidle]; exact hsecond)
      rw [frame_of_steps hc h0 hsteps, bind_of_ok hlater, hidle]
      exact .ok rfl rfl

end Console

namespace Machine

lemma keeps_steps {P : Machine → Prop} {around : Surroundings} (hstep : Keeps P (Action.step around)) (n : Nat) :
    Keeps P (Action.steps around n) := by
  induction n with
  | zero => exact keeps_pure _
  | succ n ih => exact keeps_bind hstep fun _ => ih

lemma fetched_of_step_error {around : Surroundings} {m m' : Machine} (hm : m.WellFormed) {e : Failure}
    (herror : Action.step around m = .error e m') : m' = m ∨ ∃ word, m.word? = some word ∧ m' = m.fetched word := by
  have hstep := step_stepped around hm
  rw [herror] at hstep
  cases hstep with
  | ranOut _ _ => exact .inl rfl
  | stopped _ hword _ => exact .inr ⟨_, hword, rfl⟩

end Machine

/-- A frame of a console with any past is one advance of its clock, that many steps of its machine, and one more frame
counted. -/
theorem frame_is_update_then_steps (around : Surroundings) {rate : Option Rat} (hrate : ∀ hz ∈ rate, 0 ≤ hz)
    (commands : List (Command Rat)) (hclean : ∀ command ∈ commands, command.writesField = false) (elapsed : Rat) :
    let c := (Session.run around commands (Console.fresh rate)).2
    (0 ≤ elapsed → ∃ ticks d, Console.update elapsed c = .ok ticks d ∧ d.frames = c.frames ∧
      (∀ n : Int,
        Console.frame around elapsed n c =
          (do Console.onMachine (Action.steps around n.toNat)
              modify fun c => { c with frames := c.frames + 1 }
              return ticks : Console.Action Rat Nat) d ∧
        ∀ i < n.toNat, ∀ m, Action.steps around i d.machine = .ok () m →
          Console.update 0 { d with machine := m } = .ok 0 { d with machine := m } ∧
          ∀ e m', Action.step around m = .error e m' →
            Console.frame around elapsed n c = .error e { d with machine := m' } ∧
            (m' = m ∨ ∃ word, m.word? = some word ∧ m' = m.fetched word)) ∧
      ∀ a b : Nat, Alike Console.SameButFrames Eq (Console.frame around elapsed (a + b) c)
        ((do let ticks ← Console.frame around elapsed a
             let _ ← Console.frame around 0 b
             return ticks : Console.Action Rat Nat) c)) ∧
    (elapsed < 0 → ∀ n, Console.frame around elapsed n c = .error .negativeElapsed c) := by
  intro c
  have hc : c.timers.Settled := settled_run around hrate commands
  have hwell : c.machine.WellFormed :=
    keeps_run (fun command hmem => perform_keeps_wellFormed around command (hclean command hmem))
      Machine.fresh_wellFormed
  refine ⟨fun h0 => ?_, fun hback n => Console.frame_of_neg hback n⟩
  have hupdate := Console.update_of_settled hc h0
  have hafter : (c.after elapsed).machine.WellFormed := by
    have hticked := keeps_update (fun m (hm : m.WellFormed) => hm.ticked) elapsed c hwell
    rwa [hupdate] at hticked
  refine ⟨_, _, hupdate, rfl, fun n => ⟨Console.frame_run hc h0 n, ?_⟩, Console.frame_add hc h0⟩
  intro i hi m hrun
  have hm : m.WellFormed := by
    have hsteps := Machine.keeps_steps (Machine.step_keeps_wellFormed around) i _ hafter
    rwa [hrun] at hsteps
  refine ⟨Console.update_zero (c := { c.after elapsed with machine := m }) (hc.after h0), fun e m' herror => ?_⟩
  exact ⟨Console.frame_of_steps_error hc h0 (Action.steps_of_error hi hrun herror),
    Machine.fetched_of_step_error hm herror⟩

/-- Two skips and a call out of the font, and then a word that is no instruction. -/
theorem frame_is_update_then_steps_font :
    let around : Surroundings := ⟨Dialect.modern, fun _ => 0⟩
    let commands : List (Command Rat) := [.jump 1, .update 5]
    let c := (Session.run around commands (Console.fresh none)).2
    (∃ ticks d m e m', Console.update 30 c = .ok ticks d ∧ Action.steps around 3 d.machine = .ok () m ∧
      m.counter = 0x60 ∧ Action.step around m = .error e m' ∧
      Console.frame around 30 5 c = .error e { d with machine := m' }) ∧
    Alike Console.SameButFrames Eq (Console.frame around 30 ((2 : Nat) + (1 : Nat)) c)
      ((do let ticks ← Console.frame around 30 (2 : Nat)
           let _ ← Console.frame around 0 (1 : Nat)
           return ticks : Console.Action Rat Nat) c) ∧
    Console.frame around (-1) 5 c = .error .negativeElapsed c := by
  intro around commands c
  have hrate : ∀ hz ∈ (none : Option Rat), 0 ≤ hz := by simp
  have hclean : ∀ command ∈ commands, command.writesField = false := by decide
  obtain ⟨hforward, -⟩ := frame_is_update_then_steps around hrate commands hclean 30
  obtain ⟨-, hback⟩ := frame_is_update_then_steps around hrate commands hclean (-1)
  obtain ⟨ticks, d, hupdate, -, hframe, hcut⟩ := hforward (by norm_num)
  have hsteps : whenOk (Action.steps around 3 (ending (Console.update 30 c)).machine) (fun m => [m.counter]) =
      [0x60] := by decide +kernel
  have hfault : whenOk (Action.step around (ending (Action.steps around 3 (ending (Console.update 30 c)).machine)))
      (fun m => [m.counter]) = [] := by decide +kernel
  rw [hupdate] at hsteps hfault
  change whenOk (Action.steps around 3 d.machine) _ = _ at hsteps
  change whenOk (Action.step around (ending (Action.steps around 3 d.machine))) _ = _ at hfault
  cases hrun : Action.steps around 3 d.machine with
  | error e m =>
    rw [hrun] at hsteps
    cases hsteps
  | ok _ m =>
    rw [hrun] at hsteps hfault
    change whenOk (Action.step around m) _ = _ at hfault
    cases herror : Action.step around m with
    | ok i next =>
      rw [herror] at hfault
      cases hfault
    | error e m' =>
      have hcounter : m.counter = 0x60 := List.head_eq_of_cons_eq hsteps
      have hstop := ((hframe 5).2 3 (by decide) m hrun).2 e m' herror
      exact ⟨⟨ticks, d, m, e, m', hupdate, hrun, hcounter, herror, hstop.1⟩, hcut 2 1, hback (by norm_num) 5⟩

end Chip8
