import Chip8.CommandLine.PlayHeadless
import Chip8.Proofs.Failures
import Chip8.Proofs.Reset

/-!
# How a play without a window ends

A request that leaves out no number it needs is played to the end or to a fault. Then the summary is printed as the last
text, and the status is zero or one, unless a picture is asked for and cannot be saved for a reason that the command
does not tell, as with a name whose ending stands for no format. A picture that cannot be written is told to the user
and gives status one. How pictures are saved is up to a picture library. Main statement: `headless_run_ends`.
-/

namespace Chip8.CommandLine.PlayHeadless

def IsSummary (text : String) : Prop := "Headless run complete".toList <+: text.toList

/-- A text begins with one of some letters. -/
def Starts (letters : List Char) (text : String) : Prop := ∃ c ∈ text.toList.head?, c ∈ letters

namespace Starts

variable {letters : List Char} {text : String}

lemma append (h : Starts letters text) (more : String) : Starts letters (text ++ more) := by
  obtain ⟨c, hhead, hc⟩ := h
  refine ⟨c, ?_, hc⟩
  rw [String.toList_append, List.head?_append, Option.mem_def.1 hhead]
  rfl

lemma not_of_disjoint {others : List Char} (h : Starts letters text) (hdisjoint : ∀ c ∈ letters, c ∉ others) :
    ¬Starts others text := by
  rintro ⟨c', hhead', hc'⟩
  obtain ⟨c, hhead, hc⟩ := h
  have hsame : c = c' := Option.some.inj (hhead.symm.trans hhead')
  exact hdisjoint c hc (hsame ▸ hc')

lemma of_isSummary (h : IsSummary text) : Starts ['H'] text := by
  obtain ⟨rest, htext⟩ := h
  exact ⟨'H', by rw [← htext]; rfl, List.mem_cons_self⟩

lemma not_isSummary (h : Starts letters text) (hletters : ∀ c ∈ letters, c ∉ ['H']) : ¬IsSummary text :=
  fun hsummary => h.not_of_disjoint hletters (of_isSummary hsummary)

lemma line (r : Report) : Starts ['C', 'K', 'T'] r.line := by
  cases r with
  | soundExpired => exact ⟨'T', by decide, by decide⟩
  | resetComplete => exact ⟨'C', by decide, by decide⟩
  | keyPressed code => exact append (append ⟨'K', by decide, by decide⟩ _) _
  | awaitingKey x => exact append ⟨'C', by decide, by decide⟩ _
  | keyStored code register => exact append (append (append (append ⟨'C', by decide, by decide⟩ _) _) _) _
  | programLoaded path size => exact append (append (append (append ⟨'C', by decide, by decide⟩ _) _) _) _
  | fetched address word => exact append (append (append (append (append ⟨'C', by decide, by decide⟩ _) _) _) _) _

end Starts

lemma isSummary_summary {τ : Type} (elapsed : String) (c : Console τ) : IsSummary (summary elapsed c) := by
  have happend {text more : String} (h : IsSummary text) : IsSummary (text ++ more) := by
    unfold IsSummary at *
    rw [String.toList_append]
    exact h.trans (List.prefix_append _ _)
  have hbegin : IsSummary "Headless run complete: frames=" := by
    unfold IsSummary
    decide
  exact happend (happend (happend (happend (happend (happend hbegin)))))

/-- Whether a number was left out that the play needs. -/
def Request.LacksNumber (r : Request) : Prop :=
  r.frames = none ∨ r.instructionsPerFrame = none ∧ ∃ n ∈ r.frames, 0 < n

section Plays

variable {τ : Type} [Duration τ] {around : Surroundings} {r : Request} {program : List UInt8} {c : Console τ}

lemma exists_loaded (r : Request) (hfit : program.length ≤ programLimit) :
    ∃ c : Console τ, Console.loadFile r.program program (start r) = .ok () c ∧ c.machine.WellFormed := by
  have hload : Console.load program (start r : Console τ) = _ := load_of_fits hfit _
  have hwell := keeps_load program (start r : Console τ) { Machine.fresh_wellFormed with }
  rw [hload] at hwell
  unfold Console.loadFile
  rw [bind_of_ok hload, onMachine_of_ok (Action.report_run _)]
  exact ⟨_, rfl, { hwell with }⟩

omit [Duration τ] in
lemma exists_held (codes : List Int) (hc : c.machine.WellFormed) :
    ∃ d, Console.onMachine (.setKeys codes) c = .ok () d ∧ d.machine.WellFormed := by
  have haside := Machine.wellFormed_keptAside
  have hkeep := keeps_setKeys haside.pressed haside.released codes c.machine hc
  have hnever := setKeys_failsOnly (E := fun _ => False) haside codes c.machine
  cases hrun : Action.setKeys codes c.machine with
  | ok _ m =>
    rw [hrun] at hkeep
    exact ⟨_, onMachine_of_ok hrun, hkeep⟩
  | error e m => exact absurd hrun (hnever e m hc)

variable (hforward : ¬(Console.frameLength : τ) < Duration.ofNat 0)

include hforward

lemma play_of_lacks (hlacks : r.LacksNumber) (hc : c.machine.WellFormed) :
    ∃ d, play around r c = .error .missingNumber d := by
  obtain ⟨held, hheld, -⟩ := exists_held (r.keys.map fun key => (key.val : Int)) hc
  unfold play
  rw [bind_of_ok hheld]
  obtain hframes | ⟨hinstructions, n, hframes, hpos⟩ := hlacks
  · rw [hframes]
    exact ⟨held, rfl⟩
  · obtain ⟨k, hk⟩ : ∃ k, n.toNat = k + 1 := ⟨n.toNat - 1, by omega⟩
    obtain ⟨ticks, d, hupdate⟩ := update_of_forward hforward held
    -- The first frame already misses it, once the clock has advanced.
    have hfirst : frame around r held = .error .missingNumber d := by
      unfold frame
      rw [hinstructions]
      exact bind_of_ok hupdate
    have htimes : Console.times (frame around r) n.toNat held = .error .missingNumber d := by
      rw [hk]
      exact bind_of_error hfirst
    rw [Option.mem_def.1 hframes]
    exact ⟨d, htimes⟩

lemma play_failsOnly (hstill : ¬(Duration.ofNat 0 : τ) < Duration.ofNat 0) (hgiven : ¬r.LacksNumber) :
    FailsOnly (fun c : Console τ => c.machine.WellFormed) Failure.IsFault (play around r) := by
  have haside := Machine.wellFormed_keptAside
  refine failsOnly_bind (keeps_onMachine (keeps_setKeys haside.pressed haside.released _))
    (onMachine_failsOnly (setKeys_failsOnly haside _)) fun _ => ?_
  cases hframes : r.frames with
  | none => exact absurd (.inl hframes) hgiven
  | some n =>
    dsimp only
    cases hinstructions : r.instructionsPerFrame with
    | none =>
      -- No frame is asked for, so nothing misses the number of instructions.
      have hzero : n.toNat = 0 := by
        by_contra hsome
        exact hgiven (.inr ⟨hinstructions, n, hframes, by omega⟩)
      rw [hzero]
      exact failsOnly_pure _
    | some instructions =>
      have hstep := Machine.step_keeps_wellFormed around
      have hkeep : Keeps (fun c : Console τ => c.machine.WellFormed) (frame around r) := by
        unfold frame
        rw [hinstructions]
        exact keeps_bind (keeps_frame haside.ticked hstep _ _) fun _ => keeps_pure _
      refine times_failsOnly hkeep ?_ _
      unfold frame
      rw [hinstructions]
      exact failsOnly_bind (keeps_frame haside.ticked hstep _ _) (frame_failsOnly around hforward hstill _) fun _ =>
        failsOnly_pure _

end Plays

/-! ## The end -/

/-- The command stopped with a failure that it does not handle, and told nothing of how far the play came. -/
structure Broken (finish : Finish) (e : Failure) : Prop where
  status : finish.status = .error e
  printed : ∀ text ∈ finish.printed, ¬IsSummary text

/-- The command came to its end with a status. The last text printed, and no other, is the summary; some texts were told
right before it. -/
structure Concluded (finish : Finish) (status : Nat) (told : List String) (last : String) : Prop where
  status : finish.status = .ok status
  summary : IsSummary last
  printed : ∃ before, finish.printed = before ++ told ++ [last] ∧ ∀ text ∈ before ++ told, ¬IsSummary text

/-- The end of a command that played a request up to a console, with a status for the play. -/
structure Ended {τ : Type} (save : PictureFile.Saving) (r : Request) (disk : Disk) (elapsed : String) (c : Console τ)
    (status : Nat) (finish : Finish) : Prop where
  unasked : screenshotName r = none → Concluded finish status [] (summary elapsed c)
  saved name after : screenshotName r = some name → save disk name (screenshot c) = .ok after →
    Concluded finish status [s!"Screenshot saved as: {name}"] (summary elapsed c)
  /-- A failure that the user is told of. -/
  told name e reason : screenshotName r = some name → save disk name (screenshot c) = .error e →
    e.toldAs name = .ok reason → Concluded finish 1 [s!"Error taking screenshot: {reason}"] (summary elapsed c)
  /-- A failure that nobody expects. -/
  untold name e failure : screenshotName r = some name → save disk name (screenshot c) = .error e →
    e.toldAs name = .error failure → Broken finish failure

section Endings

variable {τ : Type} {c : Console τ} {played : Played τ}

lemma not_isSummary_reports (c : Console τ) : ∀ text ∈ c.takeReports.1, ¬IsSummary text := by
  intro text htext
  obtain ⟨r, -, rfl⟩ := List.mem_map.1 htext
  exact (Starts.line r).not_isSummary (by simp)

lemma not_isSummary_halted (f : Fault) : ¬IsSummary (halted f) := by
  have hother : Starts ['E'] (halted f) := .append (.append (.append ⟨'E', by decide, by decide⟩ _) _) _
  exact hother.not_isSummary (by simp)

variable (hquiet : ∀ text ∈ played.printed, ¬IsSummary text) (elapsed : String) {disk : Disk}
  (save : PictureFile.Saving)

include hquiet

lemma concluded {status : Nat} {told : List String} (htold : ∀ text ∈ told, Starts ['S', 'E'] text) :
    Concluded ⟨.ok status, played.printed ++ (told ++ [summary elapsed played.console]), disk⟩ status told
      (summary elapsed played.console) := by
  refine ⟨rfl, isSummary_summary _ _, played.printed, (List.append_assoc ..).symm, fun text htext => ?_⟩
  obtain hprinted | hlast := List.mem_append.1 htext
  · exact hquiet text hprinted
  · exact (htold text hlast).not_isSummary (by simp)

lemma conclude_ended :
    Ended save played.request disk elapsed played.console played.status (conclude elapsed played disk save) where
  unasked hname := by
    unfold conclude
    rw [hname]
    exact concluded hquiet elapsed (List.forall_mem_nil _)
  saved name after hname hsaved := by
    have hother : Starts ['S', 'E'] s!"Screenshot saved as: {name}" := .append ⟨'S', by decide, by decide⟩ _
    simp only [conclude, hname, hsaved]
    exact concluded hquiet elapsed (List.forall_mem_singleton.2 hother)
  told name e reason hname hsaved htold := by
    have hother : Starts ['S', 'E'] s!"Error taking screenshot: {reason}" := .append ⟨'E', by decide, by decide⟩ _
    simp only [conclude, hname, hsaved, htold]
    exact concluded hquiet elapsed (List.forall_mem_singleton.2 hother)
  untold name e failure hname hsaved huntold := by
    simp only [conclude, hname, hsaved, huntold]
    exact ⟨rfl, hquiet⟩

end Endings

/-- A name whose ending names no format is refused, whatever the picture. -/
lemma save_of_unknown {name : String} (hunknown : PictureFile.treatment? (PictureFile.extension name) = none)
    (disk : Disk) (picture : Picture) :
    PictureFile.save disk name picture = .error (.failure (.unknownExtension (PictureFile.extension name))) := by
  unfold PictureFile.save
  dsimp only
  rw [hunknown]

section Commands

variable {τ : Type} [Duration τ] {arguments : List String} {disk : Disk} {r : Request} {program : List UInt8}
  {loaded c : Console τ} (random : Nat → UInt8) (elapsed : String) (save : PictureFile.Saving)
  (hrequest : request arguments = .ok r) (hname : ¬r.program.toList.contains '\x00')
  (hread : disk.read r.program = .ok program) (hload : Console.loadFile r.program program (start r) = .ok () loaded)

include hrequest hname hread hload

lemma run_of_ok (hplay : play ⟨r.dialect, random⟩ r loaded = .ok () c) :
    run τ random elapsed arguments disk save = conclude elapsed ⟨r, c.takeReports.1, 0, c⟩ disk save := by
  simp only [run, playRequested, hrequest, attempt, if_neg hname, hread, hload, hplay]

lemma run_of_fault {f : Fault} (hplay : play ⟨r.dialect, random⟩ r loaded = .error (.fault f) c) :
    run τ random elapsed arguments disk save =
      conclude elapsed ⟨r, c.takeReports.1 ++ [halted f], 1, c⟩ disk save := by
  simp only [run, playRequested, hrequest, attempt, if_neg hname, hread, hload, hplay]

lemma run_of_missing (hplay : play ⟨r.dialect, random⟩ r loaded = .error .missingNumber c) :
    run τ random elapsed arguments disk save = ⟨.error .missingNumber, c.takeReports.1, disk⟩ := by
  simp only [run, playRequested, hrequest, attempt, if_neg hname, hread, hload, hplay]

end Commands

/-- A program that can be loaded is played, and the command ends with its summary, unless a number is missing or a
picture cannot be saved and nobody is told. -/
theorem headless_run_ends (random : Nat → UInt8) (elapsed : String) (save : PictureFile.Saving)
    {arguments : List String} {disk : Disk} {r : Request} {program : List UInt8}
    (hrequest : request arguments = .ok r) (hname : '\x00' ∉ r.program.toList)
    (hread : disk.read r.program = .ok program) (hfit : program.length ≤ 3584) :
    let finish := run Float random elapsed arguments disk save
    (r.LacksNumber → Broken finish .missingNumber) ∧
    (¬r.LacksNumber → ∃ c : Console Float, ∃ status ≤ 1, Ended save r disk elapsed c status finish) := by
  intro finish
  have hforward : ¬(Console.frameLength : Float) < Duration.ofNat 0 := by decide
  have hstill : ¬(Duration.ofNat 0 : Float) < Duration.ofNat 0 := by decide
  obtain ⟨loaded, hload, hwell⟩ : ∃ c : Console Float, _ := exists_loaded r hfit
  have hplain : ¬r.program.toList.contains '\x00' := by simpa using hname
  refine ⟨fun hlacks => ?_, fun hgiven => ?_⟩
  · obtain ⟨c, hplay⟩ : ∃ c, play ⟨r.dialect, random⟩ r loaded = _ := play_of_lacks hforward hlacks hwell
    have hrun : finish = _ := run_of_missing random elapsed save hrequest hplain hread hload hplay
    rw [hrun]
    exact ⟨rfl, not_isSummary_reports c⟩
  · cases hplay : play ⟨r.dialect, random⟩ r loaded with
    | ok _ c =>
      have hrun : finish = _ := run_of_ok random elapsed save hrequest hplain hread hload hplay
      have hquiet : ∀ text ∈ (⟨r, c.takeReports.1, 0, c⟩ : Played Float).printed, ¬IsSummary text :=
        not_isSummary_reports c
      rw [hrun]
      exact ⟨c, 0, by omega, conclude_ended hquiet elapsed save⟩
    | error e c =>
      obtain ⟨f, rfl⟩ := play_failsOnly hforward hstill hgiven loaded e c hwell hplay
      have hrun : finish = _ := run_of_fault random elapsed save hrequest hplain hread hload hplay
      have hquiet : ∀ text ∈ (⟨r, c.takeReports.1 ++ [halted f], 1, c⟩ : Played Float).printed, ¬IsSummary text :=
        List.forall_mem_append.2 ⟨not_isSummary_reports c, List.forall_mem_singleton.2 (not_isSummary_halted f)⟩
      rw [hrun]
      exact ⟨c, 1, by omega, conclude_ended hquiet elapsed save⟩

/-- A picture is to be saved under a name whose ending is that of no picture format. -/
theorem headless_run_ends_unsaved :
    let disk : Disk := ⟨["work"], [(["work", "prog.ch8"], [0xF0, 0x29, 0xD0, 0x05, 0x12, 0x04])], [], []⟩
    let arguments := ["prog.ch8", "--frames", "1", "--screenshot", "out.mp4"]
    let finish := run Float (fun _ => 9) "T" arguments disk
    (∃ r program, request arguments = .ok r ∧ '\x00' ∉ r.program.toList ∧ disk.read r.program = .ok program ∧
      program.length ≤ 3584 ∧ ¬r.LacksNumber) ∧
    Broken finish (.unknownExtension ".mp4") := by
  intro disk arguments finish
  let r : Request :=
    { frames := some 1, instructionsPerFrame := some 10, keys := [], screenshot := some "out.mp4",
      dialect := Dialect.modern, tracing := false, program := "prog.ch8" }
  have hrequest : request arguments = .ok r := by rfl
  have hname : '\x00' ∉ r.program.toList := by decide
  have hread : disk.read r.program = .ok [0xF0, 0x29, 0xD0, 0x05, 0x12, 0x04] := by decide +kernel
  have hgiven : ¬r.LacksNumber := by
    rintro (hnone | ⟨hnone, -⟩)
    · cases hnone
    · cases hnone
  have hfit : [(0xF0 : UInt8), 0x29, 0xD0, 0x05, 0x12, 0x04].length ≤ 3584 := by decide
  obtain ⟨c, status, -, hended⟩ :=
    (headless_run_ends (fun _ => 9) "T" PictureFile.save hrequest hname hread hfit).2 hgiven
  have hending : PictureFile.extension "out.mp4" = ".mp4" := by decide +kernel
  have hunknown : PictureFile.treatment? (PictureFile.extension "out.mp4") = none := by
    rw [hending]
    decide +kernel
  have hsave := save_of_unknown hunknown disk (screenshot c)
  rw [hending] at hsave
  exact ⟨⟨r, _, hrequest, hname, hread, hfit, hgiven⟩, hended.untold _ _ _ rfl hsave rfl⟩

end Chip8.CommandLine.PlayHeadless
