import Chip8.Proofs.Addresses
import Chip8.Proofs.Headless
import Chip8.Proofs.Walks

/-!
# What the summary of a play says

A play without a window is a session: the keys are held down, then frames are played one after the other until a step
faults. What is printed at its end is told from the steps of that session (`headless_summary_is_true`).

A program that is too large is only refused, and the status is one. Otherwise frames are played, with so many steps
each, until all are complete or a step faults; a negative number stands for none. The summary gives the complete frames
and the steps that executed an instruction, and describes the machine after the last step (`TellsPlay`). If a step
faulted, one line before the summary names the family of the fault, the address and the word of the instruction at which
the step started (`TellsFault`), and the status is one. If none did, there is no such line, the status is zero, and all
steps were taken: each executed an instruction or looked for a key press.
-/

namespace Chip8.CommandLine.PlayHeadless

section Plays

variable {τ : Type} [Duration τ] {around : Surroundings} {r : Request} {program : List UInt8} {c : Console τ}

lemma loadFile_of_fits (r : Request) (hfit : program.length ≤ programLimit) :
    ∃ loaded : Console τ, Console.loadFile r.program program (start r) = .ok () loaded ∧ loaded.machine.WellFormed ∧
      loaded.machine.executed = 0 ∧ loaded.frames = 0 := by
  obtain ⟨loaded, hload, hwell⟩ : ∃ loaded : Console τ, _ := exists_loaded r hfit
  refine ⟨loaded, hload, hwell, ?_⟩
  have hfirst : Console.load program (start r : Console τ) = _ := load_of_fits hfit _
  rw [Console.loadFile, bind_of_ok hfirst, onMachine_of_ok (Action.report_run _)] at hload
  cases hload
  exact ⟨rfl, rfl⟩

omit [Duration τ] in
lemma frames_of_onMachine {α : Type} {act : Action α} {a : α} {d : Console τ}
    (hrun : Console.onMachine act c = .ok a d) : d.frames = c.frames := by
  cases hact : act c.machine with
  | ok a m =>
    rw [onMachine_of_ok hact] at hrun
    cases hrun
    rfl
  | error e m =>
    rw [onMachine_of_error hact] at hrun
    cases hrun

/-- The session that plays a request: the keys, and then so many frames. -/
def session (τ : Type) (r : Request) (instructions : Int) (frames : Nat) : List (Command τ) :=
  .setKeys (r.keys.map fun key => (key.val : Int)) :: List.replicate frames (.frame none (some instructions))

omit [Duration τ] in
lemma session_plays (r : Request) (instructions : Int) (frames : Nat) :
    ∀ command ∈ session τ r instructions frames, command.plays := by
  refine List.forall_mem_cons.2 ⟨rfl, fun command hmem => ?_⟩
  rw [List.eq_of_mem_replicate hmem]
  rfl

/-- A request that gives both numbers is played as its session, until a step faults. -/
lemma play_run (around : Surroundings) (hforward : ¬(Console.frameLength : τ) < Duration.ofNat 0)
    (hstill : ¬(Duration.ofNat 0 : τ) < Duration.ofNat 0) {frames instructions : Int} (hframes : r.frames = some frames)
    (hinstructions : r.instructionsPerFrame = some instructions) (hc : c.machine.WellFormed) :
    ∃ completed steps fault d, Playthrough around frames.toNat instructions.toNat completed steps d.machine fault ∧
      play around r c = fault.elim (.ok () d) (fun f => .error (.fault f) d) ∧
      d.frames = c.frames + completed ∧ (∀ m ∈ steps, m.WellFormed) ∧
      let commands := session τ r instructions (completed + fault.toList.length)
      Session.starts around commands c = steps ∧ (Session.run around commands c).2 = d := by
  obtain ⟨held, hheld, hwell⟩ := exists_held (r.keys.map fun key => (key.val : Int)) hc
  have hcount : held.frames = c.frames := frames_of_onMachine hheld
  have hframe : frame around r = (do let _ ← Console.frame around (Console.frameLength : τ) instructions) := by
    unfold frame
    rw [hinstructions]
  have hkeys : (Session.answer around (.setKeys (r.keys.map fun key => (key.val : Int))) c).2 = held := by
    rw [answer_eq_ending, Session.perform, Session.silently, bind_of_ok hheld]
    rfl
  obtain ⟨completed, steps, fault, d, hplay, htimes, hcounted, hsteps, hstarts, hend⟩ :=
    playthrough_frames hstill around hforward instructions frames.toNat hwell
  refine ⟨completed, steps, fault, d, hplay, ?_, hcounted.trans (congrArg (· + completed) hcount), hsteps, ?_, ?_⟩
  · unfold play
    rw [bind_of_ok hheld, hframes, hframe]
    exact htimes
  · have hfirst : Session.starts around (session τ r instructions (completed + fault.toList.length)) c = [] ++ _ := rfl
    rw [hfirst, hkeys]
    exact hstarts
  · rw [session, run_cons, hkeys]
    exact hend

/-- Steps that go through either execute an instruction or look for a press. -/
lemma length_completed_add_awaiting {steps : List Machine}
    (hsteps : ∀ m ∈ steps, m.WellFormed ∧ m.Proceeds around) :
    (steps.filterMap (·.completed? around)).length + steps.countP (·.awaiting.isSome) = steps.length := by
  have hcompleted :
      steps.countP (fun m => (m.completed? around).isSome) = steps.countP (fun m => !m.awaiting.isSome) := by
    refine List.countP_congr fun m hm => ?_
    rw [(hsteps m hm).2.completed_or_awaiting (hsteps m hm).1]
  have hall := List.length_eq_countP_add_countP (l := steps) (·.awaiting.isSome)
  simp only [Bool.not_eq_true, Bool.decide_eq_false] at hall
  rw [List.length_filterMap_eq_countP, hcompleted, Nat.add_comm, hall]

end Plays

/-- A line that tells of the fault which halted a play. -/
def TellsFault (f : Fault) (line : String) : Prop :=
  ∃ family text, (family, f.kind) ∈ Fault.families ∧ f.Shown text ∧
    line = "Execution halted: " ++ family ++ " " ++ text

/-- A line that tells of the complete frames and the executed instructions of a play, and of its last machine. -/
def TellsPlay (completed executed : Nat) (m : Machine) (elapsed line : String) : Prop :=
  ∃ place, Hex.Shows place m.counter ∧
    line = "Headless run complete: frames=" ++ toString completed ++ ", instructions=" ++ toString executed ++
      ", " ++ ("PC=0x" ++ place ++ ", waiting_for_key=" ++ (if m.awaiting.isSome then "True" else "False") ++ ", ") ++
      ("lit_pixels=" ++ toString m.screen.litCount ++ ", elapsed=" ++ elapsed)

lemma TellsFault.starts {f : Fault} {line : String} (h : TellsFault f line) : Starts ['E'] line := by
  obtain ⟨family, text, -, -, rfl⟩ := h
  exact .append (.append (.append ⟨'E', by decide, by decide⟩ _) _) _

lemma tellsFault_halted (f : Fault) : TellsFault f (halted f) :=
  ⟨_, _, f.mem_families, f.shown_text, halted_eq f⟩

lemma tellsPlay_summary {τ : Type} (elapsed : String) (c : Console τ) :
    TellsPlay c.frames c.machine.executed c.machine elapsed (summary elapsed c) :=
  ⟨_, Hex.shows_address _, summary_eq elapsed c⟩

/-- A request that gives both numbers and asks for no picture is played as its session, and the lines printed at the end
tell the truth about that session's steps. -/
theorem headless_summary_is_true (random : Nat → UInt8) (elapsed : String) (save : PictureFile.Saving)
    {arguments : List String} {disk : Disk} {r : Request} {program : List UInt8} {frames instructions : Int}
    (hrequest : request arguments = .ok r) (hframes : r.frames = some frames)
    (hinstructions : r.instructionsPerFrame = some instructions) (hunasked : screenshotName r = none)
    (hname : '\x00' ∉ r.program.toList) (hread : disk.read r.program = .ok program) :
    let around : Surroundings := ⟨r.dialect, random⟩
    let finish := run Float random elapsed arguments disk save
    (3584 < program.length → finish = ⟨.ok 1, [s!"Failed to load program: {r.program}: " ++
      s!"Program is {program.length} bytes, at most {(3584 : Nat)} fit in memory"], disk⟩) ∧
    (program.length ≤ 3584 → ∃ loaded c completed steps fault,
      Console.loadFile r.program program (start r : Console Float) = .ok () loaded ∧
      (let commands := session Float r instructions (completed + fault.toList.length)
       Session.starts around commands loaded = steps ∧ (Session.run around commands loaded).2 = c) ∧
      Playthrough around frames.toNat instructions.toNat completed steps c.machine fault ∧
      c.frames = completed ∧ c.machine.executed = (steps.filterMap (·.completed? around)).length ∧
      (fault = none → c.machine.executed + steps.countP (·.awaiting.isSome) = frames.toNat * instructions.toNat) ∧
      finish = ⟨.ok fault.toList.length, c.takeReports.1 ++ fault.toList.map halted ++ [summary elapsed c], disk⟩ ∧
      (∀ f ∈ fault, TellsFault f (halted f)) ∧ (fault = none → ∀ f, ∀ line ∈ finish.printed, ¬TellsFault f line) ∧
      TellsPlay completed (steps.filterMap (·.completed? around)).length c.machine elapsed (summary elapsed c)) := by
  intro around finish
  have hplain : ¬r.program.toList.contains '\x00' := by simpa using hname
  refine ⟨fun hlarge => ?_, fun hfit => ?_⟩
  · have hlimit : program.length > programLimit := hlarge
    have hload : Console.loadFile r.program program (start r : Console Float) =
        .error (.programTooLarge program.length) (start r) := bind_of_error (load_of_large hlimit _)
    simp only [finish, run, playRequested, hrequest, attempt, if_neg hplain, hread, hload]
    rfl
  · obtain ⟨loaded, hload, hwell, hexecuted, hnew⟩ : ∃ loaded : Console Float, _ := loadFile_of_fits r hfit
    obtain ⟨completed, steps, fault, c, hplaythrough, hplay, hcounted, hsteps, hstarts, hend⟩ :=
      play_run around (by decide) (by decide) hframes hinstructions hwell
    have hcount : c.machine.executed = (steps.filterMap (·.completed? around)).length := by
      let commands : List (Command Float) := session Float r instructions (completed + fault.toList.length)
      have hrun : (Session.run around commands _).2.machine.executed = _ := executed_run hwell (session_plays r _ _)
      rw [hend, hstarts, hexecuted, Nat.zero_add] at hrun
      exact hrun
    have hframe : c.frames = completed := by rw [hcounted, hnew, Nat.zero_add]
    have htells := tellsPlay_summary elapsed c
    rw [hframe, hcount] at htells
    have hfinish : finish =
        ⟨.ok fault.toList.length, c.takeReports.1 ++ fault.toList.map halted ++ [summary elapsed c], disk⟩ := by
      cases fault with
      | none =>
        have hrun : finish = _ := run_of_ok random elapsed save hrequest hplain hread hload hplay
        rw [hrun, conclude, hunasked]
        exact congrArg (Finish.mk _ · _) (congrArg (· ++ _) (List.append_nil _).symm)
      | some f =>
        have hrun : finish = _ := run_of_fault random elapsed save hrequest hplain hread hload hplay
        rw [hrun, conclude, hunasked]
        rfl
    refine ⟨loaded, c, completed, steps, fault, hload, ⟨hstarts, hend⟩, hplaythrough, hframe, hcount, ?_, hfinish,
      fun f _ => tellsFault_halted f, ?_, htells⟩
    · rintro rfl
      cases hplaythrough with
      | complete hlength hgone =>
        rw [hcount, ← hlength]
        exact length_completed_add_awaiting fun m hm => ⟨hsteps m hm, hgone m hm⟩
    · rintro rfl f line hline htold
      rw [hfinish] at hline
      obtain hreport | hlast := List.mem_append.1 hline
      · rw [Option.toList_none, List.map_nil, List.append_nil] at hreport
        obtain ⟨r, -, rfl⟩ := List.mem_map.1 hreport
        exact (Starts.line r).not_of_disjoint (by simp) htold.starts
      · rw [List.mem_singleton.1 hlast] at htold
        exact (Starts.of_isSummary (isSummary_summary elapsed c)).not_of_disjoint (by simp) htold.starts

/-- One play skips a jump because a key is held down, and stops at a return; in the other one the machine halts for a
key, and no press comes. -/
theorem headless_summary_is_true_of_keys :
    let disk (program : List UInt8) : Disk := ⟨["work"], [(["work", "prog.ch8"], program)], [], []⟩
    let arguments := ["prog.ch8", "--frames", "2", "--ipf", "3", "--keys", "5"]
    let around : Surroundings := ⟨Dialect.modern, fun _ => 9⟩
    let returning : List UInt8 := [0xF0, 0x29, 0xD0, 0x05, 0x61, 0x05, 0xE1, 0x9E, 0x12, 0x08, 0x00, 0xEE]
    let halting : List UInt8 := [0xF0, 0x29, 0xD0, 0x05, 0xF1, 0x0A]
    let fault := "Execution halted: StackUnderflow $20A [0x00EE]: Cannot return from outside a subroutine"
    let stopped := "Headless run complete: frames=1, instructions=4, PC=0x20C, waiting_for_key=False, " ++
      "lit_pixels=14, elapsed=T"
    let waited := "Headless run complete: frames=2, instructions=3, PC=0x206, waiting_for_key=True, " ++
      "lit_pixels=14, elapsed=T"
    (∃ r, request arguments = .ok r ∧ r.frames = some 2 ∧ r.instructionsPerFrame = some 3 ∧ screenshotName r = none ∧
      '\x00' ∉ r.program.toList ∧ (disk returning).read r.program = .ok returning ∧
      (disk halting).read r.program = .ok halting) ∧
    run Float (fun _ => 9) "T" arguments (disk returning) = ⟨.ok 1, [fault, stopped], disk returning⟩ ∧
    run Float (fun _ => 9) "T" arguments (disk halting) = ⟨.ok 0, [waited], disk halting⟩ ∧
    (∃ completed steps f, ∃ m : Machine, Playthrough around 2 3 completed steps m (some f) ∧ TellsFault f fault ∧
      TellsPlay completed (steps.filterMap (·.completed? around)).length m "T" stopped) ∧
    ∃ completed steps, ∃ m : Machine, Playthrough around 2 3 completed steps m none ∧
      TellsPlay completed (steps.filterMap (·.completed? around)).length m "T" waited ∧
      (steps.filterMap (·.completed? around)).length + steps.countP (·.awaiting.isSome) = 6 := by
  intro disk arguments around returning halting fault stopped waited
  let r : Request :=
    { frames := some 2, instructionsPerFrame := some 3, keys := [5], screenshot := none, dialect := Dialect.modern,
      tracing := false, program := "prog.ch8" }
  have hrequest : request arguments = .ok r := by rfl
  have hname : '\x00' ∉ r.program.toList := by decide
  have hreturning : (disk returning).read r.program = .ok returning := by decide +kernel
  have hhalting : (disk halting).read r.program = .ok halting := by decide +kernel
  refine ⟨⟨r, hrequest, rfl, rfl, rfl, hname, hreturning, hhalting⟩, ?_⟩
  obtain ⟨_, c, completed, steps, found, -, -, hplay, -, -, -, hfinish, hfault, -, htells⟩ :=
    (headless_summary_is_true (fun _ => 9) "T" PictureFile.save hrequest rfl rfl rfl hname hreturning).2 (by decide)
  obtain ⟨_, c', completed', steps', found', -, -, hplay', -, hcount', hall', hfinish', -, -, htells'⟩ :=
    (headless_summary_is_true (fun _ => 9) "T" PictureFile.save hrequest rfl rfl rfl hname hhalting).2 (by decide)
  obtain ⟨hstatus, hprinted⟩ : (run Float (fun _ => 9) "T" arguments (disk returning)).status.toOption = some 1 ∧
      (run Float (fun _ => 9) "T" arguments (disk returning)).printed = [fault, stopped] := by decide +kernel
  obtain ⟨hstatus', hprinted'⟩ : (run Float (fun _ => 9) "T" arguments (disk halting)).status.toOption = some 0 ∧
      (run Float (fun _ => 9) "T" arguments (disk halting)).printed = [waited] := by decide +kernel
  clear_value fault stopped waited
  rw [hfinish] at hstatus hprinted ⊢
  rw [hfinish'] at hstatus' hprinted' ⊢
  cases found with
  | none => cases hstatus
  | some f =>
    cases found' with
    | some f' => cases hstatus'
    | none =>
      refine ⟨congrArg (Finish.mk _ · _) hprinted, congrArg (Finish.mk _ · _) hprinted', ?_, ?_⟩
      · have hends : (c.takeReports.1 ++ [halted f]) ++ [summary "T" c] = [fault] ++ [stopped] := hprinted
        obtain ⟨hearlier, hlast⟩ := List.append_inj' hends rfl
        have hbegin : c.takeReports.1 ++ [halted f] = [] ++ [fault] := hearlier
        obtain ⟨-, hfirst⟩ := List.append_inj' hbegin rfl
        have hline : TellsFault f (halted f) := hfault f rfl
        rw [(List.cons.inj hfirst).1] at hline
        rw [(List.cons.inj hlast).1] at htells
        exact ⟨completed, steps, f, c.machine, hplay, hline, htells⟩
      · have hends : (c'.takeReports.1 ++ []) ++ [summary "T" c'] = [] ++ [waited] := hprinted'
        obtain ⟨-, hlast⟩ := List.append_inj' hends rfl
        have hsteps := hall' rfl
        rw [(List.cons.inj hlast).1] at htells'
        rw [hcount'] at hsteps
        exact ⟨completed', steps', c'.machine, hplay', htells', hsteps⟩

end Chip8.CommandLine.PlayHeadless
