import Chip8.Proofs.Failures
import Chip8.Proofs.Footprint

/-!
# Steps in a row

Frames let a machine take many steps, until one of them faults. `Walked` says from which machines the steps started and
how they ended: all of them went through, or the last one faulted. Main statements: `walked_frame` for one frame and
`playthrough_frames` for a number of frames in a row.
-/

namespace Chip8

/-- A step from this machine comes to its end. -/
def Machine.Proceeds (around : Surroundings) (m : Machine) : Prop :=
  ∃ i next, Action.step around m = .ok i next

/-- Every step executes an instruction or looks for a press. -/
lemma Machine.Proceeds.completed_or_awaiting {around : Surroundings} {m : Machine} (hm : m.WellFormed)
    (h : m.Proceeds around) : (m.completed? around).isSome = !m.awaiting.isSome := by
  obtain ⟨i, next, hrun⟩ := h
  have hstep := Machine.step_stepped around hm
  rw [Machine.completed?]
  rw [hrun] at hstep ⊢
  cases hstep with
  | waited hwait => rw [hwait]; rfl
  | executed hidle _ _ _ => rw [hidle]; rfl

/-- A fault names the address and the word of the instruction that the step was to execute. -/
lemma Machine.blamed_of_step_error {around : Surroundings} {m m' : Machine} {f : Fault} (hm : m.WellFormed)
    (herror : Action.step around m = .error (.fault f) m') : f.address = m.counter ∧ f.word = m.word? := by
  have hstep := Machine.step_stepped around hm
  rw [herror] at hstep
  cases hstep with
  | ranOut _ hword => exact ⟨rfl, hword.symm⟩
  | stopped _ hword _ => exact ⟨rfl, hword.symm⟩

section Walks

variable {τ α β : Type}

/-- The machines that steps started from one after the other, and how that ended: `n` steps went through, or one of
them faulted and ended the walk. -/
inductive Walked (around : Surroundings) (n : Nat) : List Machine → EStateM.Result Failure (Console τ) α → Prop
  | through {starts : List Machine} {a : α} {c : Console τ} (hlength : starts.length = n)
    (hgone : ∀ m ∈ starts, m.WellFormed ∧ m.Proceeds around) : Walked around n starts (.ok a c)
  | halted {earlier : List Machine} {last : Machine} {f : Fault} {c : Console τ} (hlength : earlier.length < n)
    (hgone : ∀ m ∈ earlier, m.WellFormed ∧ m.Proceeds around) (hlast : last.WellFormed)
    (hfault : Action.step around last = .error (.fault f) c.machine) :
    Walked around n (earlier ++ [last]) (.error (.fault f) c)

variable {around : Surroundings} {n k : Nat} {c : Console τ}

namespace Walked

lemma bind {act : Console.Action τ α} {next : α → Console.Action τ β} {starts : List Machine}
    {later : Console τ → List Machine} (hact : Walked around n starts (act c))
    (hnext : ∀ a d, act c = .ok a d → Walked around k (later d) (next a d)) :
    Walked around (n + k) (starts ++ whenOk (act c) later) ((act >>= next) c) := by
  generalize hrun : act c = result at hact
  cases hact with
  | @through _ a d hlength hgone =>
    have hrest := hnext a d hrun
    rw [bind_of_ok hrun, whenOk]
    generalize next a d = result, later d = starts' at hrest
    cases hrest with
    | through hlength' hgone' =>
      refine .through ?_ (List.forall_mem_append.2 ⟨hgone, hgone'⟩)
      rw [List.length_append, hlength, hlength']
    | halted hlength' hgone' hlast hfault =>
      rw [← List.append_assoc]
      refine .halted ?_ (List.forall_mem_append.2 ⟨hgone, hgone'⟩) hlast hfault
      rw [List.length_append]
      omega
  | halted hlength hgone hlast hfault =>
    rw [bind_of_error hrun, whenOk, List.append_nil]
    exact .halted (by omega) hgone hlast hfault

/-- What comes after the steps and takes none itself. -/
lemma map {act : Console.Action τ α} {next : α → Console.Action τ β} {starts : List Machine}
    (hact : Walked around n starts (act c)) (hnext : ∀ a d, ∃ b d', next a d = .ok b d') :
    Walked around n starts ((act >>= next) c) := by
  generalize hrun : act c = result at hact
  cases hact with
  | @through _ a d hlength hgone =>
    obtain ⟨b, d', hok⟩ := hnext a d
    rw [bind_of_ok hrun, hok]
    exact .through hlength hgone
  | halted hlength hgone hlast hfault =>
    rw [bind_of_error hrun]
    exact .halted hlength hgone hlast hfault

end Walked

lemma walked_onMachine (hc : c.machine.WellFormed) :
    Walked around 1 [c.machine] (Console.onMachine (Action.step around) c) := by
  cases hrun : Action.step around c.machine with
  | ok i m =>
    rw [onMachine_of_ok hrun]
    exact .through rfl (List.forall_mem_singleton.2 ⟨hc, i, m, hrun⟩)
  | error e m =>
    obtain ⟨f, rfl, -⟩ := Machine.fault_of_step_error hc hrun
    rw [onMachine_of_error hrun]
    rw [← List.nil_append [c.machine]]
    exact .halted Nat.one_pos (List.forall_mem_nil _) hc hrun

end Walks

section Consoles

variable {τ : Type} [Duration τ] {around : Surroundings} {c : Console τ}

/-- After the clock has been advanced, steps go on from there. -/
lemma walked_update {α : Type} {n : Nat} {elapsed : τ} (hforward : ¬elapsed < Duration.ofNat 0)
    (hc : c.machine.WellFormed) {later : Console τ → List Machine} {next : Nat → Console.Action τ α}
    (hnext : ∀ ticks d, d.machine.WellFormed → Walked around n (later d) (next ticks d)) :
    Walked around n (whenOk (Console.update elapsed c) later) ((Console.update elapsed >>= next) c) := by
  obtain ⟨ticks, d, hupdate⟩ := update_of_forward hforward c
  have hd := keeps_update Machine.wellFormed_keptAside.ticked elapsed c hc
  rw [hupdate] at hd
  rw [bind_of_ok hupdate, hupdate]
  exact hnext ticks d hd

variable (hstill : ¬(Duration.ofNat 0 : τ) < Duration.ofNat 0)

include hstill

lemma walked_step (hc : c.machine.WellFormed) :
    Walked around 1 (c.start (Duration.ofNat 0)) (Console.step around (Duration.ofNat 0) c) :=
  walked_update hstill hc fun _ _ hd => walked_onMachine hd

/-- By induction on the number of steps. -/
lemma walked_steps (n : Nat) (hc : c.machine.WellFormed) :
    Walked around n (c.starts around n)
      (Console.times (do let _ ← Console.step around (Duration.ofNat 0 : τ)) n c) := by
  induction n generalizing c with
  | zero => exact .through rfl (List.forall_mem_nil _)
  | succ n ih =>
    rw [Console.times_step_succ, Console.starts, Nat.add_comm]
    refine (walked_step hstill hc).bind fun _ d hrun => ih ?_
    have hd := keeps_step Machine.wellFormed_keptAside.ticked (Machine.step_keeps_wellFormed around)
      (Duration.ofNat 0 : τ) c hc
    rwa [hrun] at hd

/-- A frame is so many steps, or fewer and a fault. -/
theorem walked_frame (around : Surroundings) {elapsed : τ} (hforward : ¬elapsed < Duration.ofNat 0) (instructions : Int)
    (hc : c.machine.WellFormed) :
    Walked around instructions.toNat (whenOk (Console.update elapsed c) (Console.starts around instructions.toNat))
      (Console.frame around elapsed instructions c) := by
  refine walked_update hforward hc fun _ _ hd => ?_
  exact (walked_steps hstill _ hd).map fun _ _ => ⟨_, _, rfl⟩

omit hstill in
/-- Steps and the clock leave the count of frames alone; a frame that comes to its end is counted. -/
lemma frames_of_frame (around : Surroundings) (elapsed : τ) (instructions : Int) (c : Console τ) :
    match Console.frame around elapsed instructions c with
    | .ok _ d => d.frames = c.frames + 1
    | .error _ d => d.frames = c.frames := by
  have hmachine {α : Type} (act : Action α) :
      Keeps (fun d : Console τ => d.frames = c.frames) (Console.onMachine act) := by
    intro d hd
    cases hrun : act d.machine with
    | ok a m => rwa [onMachine_of_ok hrun]
    | error e m => rwa [onMachine_of_error hrun]
  have hupdate (elapsed : τ) : Keeps (fun d : Console τ => d.frames = c.frames) (Console.update elapsed) := by
    intro d hd
    rw [update_run]
    cases d.timers.advance elapsed with
    | error e => exact hd
    | ok result => exact hd
  have hsteps (n : Nat) : Keeps (fun d : Console τ => d.frames = c.frames)
      (Console.times (do let _ ← Console.step around (Duration.ofNat 0 : τ)) n) :=
    keeps_times (keeps_bind (keeps_bind (hupdate _) fun _ => hmachine _) fun _ => keeps_pure _) n
  unfold Console.frame
  have hfirst := hupdate elapsed c rfl
  cases hrun : Console.update elapsed c with
  | error e d =>
    rw [hrun] at hfirst
    rw [bind_of_error hrun]
    exact hfirst
  | ok ticks d =>
    rw [hrun] at hfirst
    rw [bind_of_ok hrun]
    have hlast := hsteps instructions.toNat d hfirst
    cases hrun' : Console.times (do let _ ← Console.step around (Duration.ofNat 0 : τ)) instructions.toNat d with
    | error e d' =>
      rw [hrun'] at hlast
      rw [bind_of_error hrun']
      exact hlast
    | ok _ d' =>
      rw [hrun'] at hlast
      rw [bind_of_ok hrun', modify_bind]
      exact congrArg (· + 1) hlast

omit hstill in
lemma answer_frame (elapsed : Option τ) (instructions : Option Int) {ticks : Nat} {d : Console τ}
    (hrun : Console.frame around (elapsed.getD Console.frameLength)
      (instructions.getD Console.instructionsPerFrame) c = .ok ticks d) :
    (Session.answer around (.frame elapsed instructions) c).2 = d := by
  rw [answer_eq_ending, Session.perform, bind_of_ok hrun]
  rfl

omit hstill in
lemma answer_frame_error (elapsed : Option τ) (instructions : Option Int) {e : Failure} {d : Console τ}
    (hrun : Console.frame around (elapsed.getD Console.frameLength)
      (instructions.getD Console.instructionsPerFrame) c = .error e d) :
    (Session.answer around (.frame elapsed instructions) c).2 = d := by
  rw [answer_eq_ending, Session.perform, bind_of_error hrun]
  rfl

/-- Frames of so many steps each that were played from a number of them: all were completed, or a step of the one after
the last completed faulted. The fault is blamed on the instruction of that step. -/
inductive Playthrough (around : Surroundings) (frames size : Nat) : Nat → List Machine → Machine → Option Fault → Prop
  | complete {steps : List Machine} {m : Machine} (hlength : steps.length = frames * size)
    (hgone : ∀ m ∈ steps, m.Proceeds around) : Playthrough around frames size frames steps m none
  | halted {completed : Nat} {earlier : List Machine} {last m : Machine} {f : Fault} (hless : completed < frames)
    (hfrom : completed * size ≤ earlier.length) (hto : earlier.length < (completed + 1) * size)
    (hgone : ∀ m ∈ earlier, m.Proceeds around) (hfault : Action.step around last = .error (.fault f) m)
    (haddress : f.address = last.counter) (hword : f.word = last.word?) :
    Playthrough around frames size completed (earlier ++ [last]) m (some f)

omit [Duration τ] hstill in
/-- A complete frame before the others. -/
lemma Playthrough.cons {frames size completed : Nat} {starts steps : List Machine} {m : Machine} {fault : Option Fault}
    (hlength : starts.length = size) (hgone : ∀ m ∈ starts, m.Proceeds around)
    (h : Playthrough around frames size completed steps m fault) :
    Playthrough around (frames + 1) size (completed + 1) (starts ++ steps) m fault := by
  cases h with
  | complete hrest hothers =>
    refine .complete ?_ (List.forall_mem_append.2 ⟨hgone, hothers⟩)
    rw [List.length_append, hlength, hrest, Nat.succ_mul, Nat.add_comm]
  | @halted _ earlier last _ f hless hfrom hto hothers hfault haddress hword =>
    have htotal : (starts ++ earlier).length = size + earlier.length := by rw [List.length_append, hlength]
    rw [Nat.succ_mul] at hto
    rw [← List.append_assoc]
    refine .halted (by omega) ?_ ?_ (List.forall_mem_append.2 ⟨hgone, hothers⟩) hfault haddress hword
    · rw [htotal, Nat.succ_mul]
      omega
    · rw [htotal, Nat.succ_mul, Nat.succ_mul]
      omega

/-- Frames in a row are the commands of a session, as many as were begun. By induction on the number of frames. -/
theorem playthrough_frames (around : Surroundings) (hforward : ¬(Console.frameLength : τ) < Duration.ofNat 0)
    (instructions : Int) (frames : Nat) (hc : c.machine.WellFormed) :
    ∃ completed steps fault d, Playthrough around frames instructions.toNat completed steps d.machine fault ∧
      Console.times (do let _ ← Console.frame around (Console.frameLength : τ) instructions) frames c =
        fault.elim (.ok () d) (fun f => .error (.fault f) d) ∧
      d.frames = c.frames + completed ∧ (∀ m ∈ steps, m.WellFormed) ∧
      let commands : List (Command τ) :=
        List.replicate (completed + fault.toList.length) (.frame none (some instructions))
      Session.starts around commands c = steps ∧ (Session.run around commands c).2 = d := by
  induction frames generalizing c with
  | zero =>
    have hcomplete : Playthrough around 0 instructions.toNat 0 [] c.machine none :=
      .complete (by simp) (List.forall_mem_nil _)
    exact ⟨0, [], none, c, hcomplete, rfl, rfl, List.forall_mem_nil _, rfl, rfl⟩
  | succ frames ih =>
    have hfirst := walked_frame hstill around hforward instructions hc
    have hcount := frames_of_frame around (Console.frameLength : τ) instructions c
    have hkeep := keeps_frame Machine.wellFormed_keptAside.ticked (Machine.step_keeps_wellFormed around)
      (Console.frameLength : τ) instructions c hc
    have hstarts (rest : List (Command τ)) : Session.starts around (.frame none (some instructions) :: rest) c =
        whenOk (Console.update (Console.frameLength : τ) c) (Console.starts around instructions.toNat) ++
          Session.starts around rest (Session.answer around (.frame none (some instructions)) c).2 := rfl
    generalize hrun : Console.frame around (Console.frameLength : τ) instructions c = result at hfirst hcount hkeep
    generalize whenOk (Console.update (Console.frameLength : τ) c) (Console.starts around instructions.toNat) = starts
      at hfirst hstarts
    cases hfirst with
    | @halted earlier last f d hlength hgone hlast hfault =>
      have hafter := answer_frame_error none (some instructions) hrun
      obtain ⟨haddress, hword⟩ := Machine.blamed_of_step_error hlast hfault
      have hplay : Playthrough around (frames + 1) instructions.toNat 0 (earlier ++ [last]) d.machine (some f) :=
        .halted (by omega) (by omega) (by omega) (fun m hm => (hgone m hm).2) hfault haddress hword
      refine ⟨0, _, some f, d, hplay, bind_of_error (bind_of_error hrun), hcount, ?_, ?_, ?_⟩
      · exact List.forall_mem_append.2 ⟨fun m hm => (hgone m hm).1, List.forall_mem_singleton.2 hlast⟩
      · exact (hstarts []).trans (List.append_nil _)
      · exact hafter
    | @through _ ticks d hlength hgone =>
      have hafter := answer_frame none (some instructions) hrun
      obtain ⟨completed, steps, fault, d', hplay, htimes, hframes, hwell, hsteps, hend⟩ := ih (c := d) hkeep
      rw [hafter] at hstarts
      have hcommands : completed + 1 + fault.toList.length = completed + fault.toList.length + 1 := by omega
      refine ⟨completed + 1, starts ++ steps, fault, d', ?_, ?_, ?_, ?_, ?_⟩
      · exact hplay.cons hlength fun m hm => (hgone m hm).2
      · rw [← htimes]
        exact bind_of_ok (bind_of_ok hrun)
      · rw [hframes, hcount]
        omega
      · exact List.forall_mem_append.2 ⟨fun m hm => (hgone m hm).1, hwell⟩
      · rw [hcommands, List.replicate_succ]
        refine ⟨?_, ?_⟩
        · rw [hstarts, hsteps]
        · rw [run_cons, hafter]
          exact hend

end Consoles

end Chip8
