import Chip8.Proofs.Laps

/-!
# How a play in a window ends

A loaded program is played in frames as soon as the window is open. The play goes well if the window is closed, or if
the user interrupts it; it fails at the first fault, of which the user is told. A time before an earlier one, so that
negative time elapses in a frame, is the one other thing that ends it, beside a time without a whole part that a picture
is to be named after. The library that saves the pictures is taken to know names that end in `.png`.

Main statements: `window_run_ends` for all clocks, and `window_course_decides_status` for those that do not run
backwards and give times with a whole part. There a program that cannot be loaded gives status one, and the window
system is asked for nothing. If one can be loaded and the window can be opened, the frames are a course through the
lists of events, with one more list that closes the window. The status is zero if the course was closed after a complete
frame or interrupted, and one if a step faulted, even in the frame that was to close the window. Nothing else can
happen.
-/

namespace Chip8.Window

variable {τ σ α : Type}

/-! ## What stops a course -/

/-- Why a play stops in a frame, and the console then: the user interrupts it, a step faults, or one of the times that
were read is before an earlier one or has no whole part. -/
inductive Cause [Duration τ] (around : Surroundings) (times : List τ) : Stop × Console τ → Prop
  | interrupted {console : Console τ} : Cause around times (.interrupted, console)
  | fault {f : Fault} {m : Machine} {console : Console τ} (hm : m.WellFormed)
      (hstep : Action.step around m = .error (.fault f) console.machine) :
      Cause around times (.failed (.fault f), console)
  | backwards {t t' : τ} {console : Console τ} (hread : [t, t'].Sublist times)
      (hback : (t' - t) * Duration.ofNat 1000 < Duration.ofNat 0) :
      Cause around times (.failed .negativeElapsed, console)
  | unnamed {time : τ} {e : Failure} {console : Console τ} (hread : time ∈ times)
      (htruncate : Duration.truncate time = .error e) : Cause around times (.failed e, console)

section Courses

variable [Duration τ] {around : Surroundings} {times : List τ} {stop : Stop × Console τ}

lemma Cause.mono {more : List τ} (h : Cause around times stop) (hmore : times.Sublist more) :
    Cause around more stop := by
  cases h with
  | interrupted => exact .interrupted
  | fault hm hstep => exact .fault hm hstep
  | backwards hread hback => exact .backwards (hread.trans hmore) hback
  | unnamed hread htruncate => exact .unnamed (hmore.mem hread) htruncate

omit [Duration τ] in
lemma Opening.start_mem {start : τ} {handled : List Event} {console : Console τ} {part : List (Moment τ)}
    (h : Opening start handled console part) : start ∈ readings part := by
  obtain ⟨moment, hhead, hread⟩ := Option.map_eq_some_iff.1 h.begun
  exact List.mem_filterMap.2 ⟨moment, List.mem_of_head? hhead, by rw [hread]⟩

variable {last start : τ} {events : List Event} {part : List (Moment τ)}

lemma Lap.start_mem (h : Lap around last events part (.ok start)) : start ∈ readings part := by
  cases h with
  | completed hopening _ _ =>
    rw [readings_append]
    exact List.mem_append_left _ hopening.start_mem

variable (hstill : ¬(Duration.ofNat 0 : τ) < Duration.ofNat 0)

include hstill

lemma Lap.cause (h : Lap around last events part (.error stop)) : Cause around (last :: readings part) stop := by
  cases h with
  | interrupted _ _ => exact .interrupted
  | unnamed _ _ htime htruncate => exact .unnamed (List.mem_cons_of_mem _ htime) htruncate
  | @failed start console after e opening rest hopening hframe _ =>
    by_cases hback : (start - last) * Duration.ofNat 1000 < Duration.ofNat 0
    · rw [frame_of_backwards around hback] at hframe
      cases hframe
      refine .backwards (List.Sublist.cons_cons _ (List.singleton_sublist.2 ?_)) hback
      rw [readings_append]
      exact List.mem_append_left _ hopening.start_mem
    · have hwalked := walked_frame hstill around hback Console.instructionsPerFrame hopening.wellFormed
      rw [hframe] at hwalked
      generalize whenOk _ _ = steps at hwalked
      cases hwalked with
      | halted _ _ hlast hfault => exact .fault hlast hfault

/-- By induction on the course. -/
lemma Course.cause {rest : List (List Event)} {parts : List (List (Moment τ))}
    (h : Course around last rest parts (some stop)) : Cause around (last :: readings parts.flatten) stop := by
  generalize hconclusion : some stop = conclusion at h
  induction h with
  | closed _ _ => cases hconclusion
  | stopped hlap =>
    cases hconclusion
    rw [List.flatten_singleton]
    exact hlap.cause hstill
  | next hlap _ _ ih =>
    refine (ih hconclusion).mono ?_
    rw [List.flatten_cons, readings_append]
    exact ((List.singleton_sublist.2 hlap.start_mem).append (List.Sublist.refl _)).cons _

end Courses

/-! ## Whole plays -/

/-- What is written after the frames of a play: the fault, if that was what stopped it, comes first, and the console is
left as it is. -/
structure Closing (conclusion : Option (Stop × Console τ)) (closing : List (Moment τ)) : Prop where
  quiet : marks closing = []
  told : ∀ f console, conclusion = some (.failed (.fault f), console) →
    closing.head?.map (·.happening) = some (.printed s!"Execution halted: {f.kind.name} {f.text}")
  kept : ∀ stop console, conclusion = some (stop, console) →
    ∀ moment ∈ closing, moment.console.takeReports.2 = console.takeReports.2

/-- The journal of a play: what was written before the first frame, in the frames, and after the last one. -/
inductive Played [Duration τ] (around : Surroundings) (events : List (List Event)) :
    List (Moment τ) → Option (Stop × Console τ) → Prop
  | intro {opening closing : List (Moment τ)} {parts : List (List (Moment τ))} {last : τ}
      {conclusion : Option (Stop × Console τ)} (hquiet : marks opening = [])
      (hbegun : opening.getLast?.map (·.happening) = some (.readClock last))
      (hcourse : Course around last (events ++ [[.close]]) parts conclusion) (hclosing : Closing conclusion closing) :
      Played around events (opening ++ parts.flatten ++ closing) conclusion

lemma Played.cause [Duration τ] {around : Surroundings} {events : List (List Event)} {journal : List (Moment τ)}
    {stop : Stop × Console τ} (hstill : ¬(Duration.ofNat 0 : τ) < Duration.ofNat 0)
    (h : Played around events journal (some stop)) : Cause around (readings journal) stop := by
  generalize hconclusion : some stop = conclusion at h
  cases h with
  | @intro opening closing parts last _ _ hbegun hcourse _ =>
    cases hconclusion
    obtain ⟨moment, hlast, hread⟩ := Option.map_eq_some_iff.1 hbegun
    have hmem : last ∈ readings opening :=
      List.mem_filterMap.2 ⟨moment, List.mem_of_getLast? hlast, by rw [hread]⟩
    refine (hcourse.cause hstill).mono ?_
    rw [readings_append, readings_append]
    exact ((List.singleton_sublist.2 hmem).append (List.Sublist.refl _)).trans (List.sublist_append_left _ _)

/-- The user is told of the fault that stopped a play. -/
lemma Played.told [Duration τ] {around : Surroundings} {events : List (List Event)} {journal : List (Moment τ)}
    {f : Fault} {console : Console τ} (h : Played around events journal (some (.failed (.fault f), console))) :
    s!"Execution halted: {f.kind.name} {f.text}" ∈ CommandLine.PlayInWindow.printed journal := by
  generalize hconclusion : some (Stop.failed (.fault f), console) = conclusion at h
  cases h with
  | intro _ _ _ hclosing =>
    obtain ⟨moment, hhead, htold⟩ := Option.map_eq_some_iff.1 (hclosing.told f console hconclusion.symm)
    refine List.mem_filterMap.2 ⟨moment, List.mem_append_right _ (List.mem_of_head? hhead), ?_⟩
    rw [htold]

/-- How a play ends whose frames came to such a conclusion. -/
def verdict : Option (Stop × Console τ) → Except Stop Bool
  | none => .ok true
  | some (.failed (.fault _), _) => .ok false
  | some (stop, _) => .error stop

lemma verdict_of_error {stop : Stop} {console : Console τ} (hstop : ∀ f, stop ≠ .failed (.fault f)) :
    verdict (some (stop, console)) = .error stop := by
  unfold verdict
  split
  · rename_i heq
    cases heq
  · rename_i f _ heq
    cases heq
    exact absurd rfl (hstop f)
  · rename_i heq
    cases heq
    rfl

/-- The exit status of a play that ended so. -/
def exitStatus : Except Stop Bool → Except Failure Nat
  | .ok success => .ok (if success then 0 else 1)
  | .error .interrupted => .ok 0
  | .error (.failed e) => .error e

namespace Play

/-- How an action ended, without the state. -/
def outcome {ε σ : Type} : EStateM.Result ε σ α → Except ε α
  | .ok a _ => .ok a
  | .error e _ => .error e

/-- A play that has written nothing that counts since its journal was the given one, and has left its console alone. -/
structure Quiet (base : List (Moment τ)) (console : Console τ) (p : Play τ σ) : Prop where
  agreeing : p.console.takeReports.2 = console.takeReports.2
  part : ∃ part, p.journal = part.reverse ++ base ∧ marks part = [] ∧
    ∀ moment ∈ part, moment.console.takeReports.2 = console.takeReports.2

variable {base : List (Moment τ)} {console : Console τ} {p q : Play τ σ}

lemma Quiet.noted (h : Quiet base console p) {happening : Happening τ} (hunmarked : happening.marks = false) :
    Quiet base console (p.noted happening) := by
  obtain ⟨part, hjournal, hmarks, hagree⟩ := h.part
  refine ⟨h.agreeing, part ++ [⟨happening, p.console⟩], ?_, ?_, ?_⟩
  · rw [Play.noted, hjournal, List.reverse_append]
    rfl
  · rw [marks_append, hmarks, marks, List.map_singleton, List.filter_cons_of_neg (by simp [hunmarked])]
    rfl
  · exact List.forall_mem_append.2 ⟨hagree, List.forall_mem_singleton.2 h.agreeing⟩

lemma quiet_unmoved : Unmoved (Quiet base console : Play τ σ → Prop) where
  printed _ _ h := h.noted rfl
  taken _ h := ⟨h.agreeing, h.part⟩
  stored _ _ h := ⟨h.agreeing, h.part⟩
  timed _ _ h := h.noted rfl
  moved _ _ _ _ h := ⟨h.agreeing, h.part⟩
  queued _ _ _ _ h := h.noted rfl
  slept _ _ h := h.noted rfl
  called _ call hplain h := by
    cases call with
    | present => cases hplain
    | _ => exact h.noted rfl
  equipped _ _ _ _ h := ⟨h.agreeing, h.part⟩

variable {s : Host τ σ}

lemma finish_run (hsave : s.platform.save.KnowsPng) (hagree : p.console.takeReports.2 = console.takeReports.2) :
    ∃ q closing, finish s p = .ok () q ∧ q.journal = closing.reverse ++ p.journal ∧
      marks closing = [] ∧ ∀ moment ∈ closing, moment.console.takeReports.2 = console.takeReports.2 := by
  have hbegin : Quiet p.journal console p := ⟨hagree, [], rfl, rfl, List.forall_mem_nil _⟩
  obtain ⟨⟨⟩, q, hrun, hquiet⟩ := (succeeds_finish hsave).leads (quiet_unmoved.finish s) hbegin
  obtain ⟨closing, hjournal, hmarks, hkept⟩ := hquiet.part
  exact ⟨q, closing, hrun, hjournal, hmarks, hkept⟩

lemma finishing_of_ok {act : Action τ σ α} {a : α} {r : Play τ σ} (hact : act p = .ok a q)
    (hfinish : finish s q = .ok () r) : finishing s act p = .ok a r := by
  rw [finishing, hact]
  dsimp only
  rw [hfinish]

lemma finishing_of_error {act : Action τ σ α} {stop : Stop} {r : Play τ σ} (hact : act p = .error stop q)
    (hfinish : finish s q = .ok () r) : finishing s act p = .error stop r := by
  rw [finishing, hact]
  dsimp only
  rw [hfinish]

lemma tellingFaults_of_ok {act : Action τ σ Bool} {a : Bool} (hact : act p = .ok a q) :
    tellingFaults act p = .ok a q := by
  rw [tellingFaults, hact]

lemma tellingFaults_of_fault {act : Action τ σ Bool} {f : Fault} (hact : act p = .error (.failed (.fault f)) q) :
    tellingFaults act p = .ok false (q.noted (.printed s!"Execution halted: {f.kind.name} {f.text}")) := by
  rw [tellingFaults, hact]
  rfl

lemma tellingFaults_of_error {act : Action τ σ Bool} {stop : Stop} (hstop : ∀ f, stop ≠ .failed (.fault f))
    (hact : act p = .error stop q) : tellingFaults act p = .error stop q := by
  rw [tellingFaults, hact]
  split
  · rename_i f r heq
    cases heq
    exact absurd rfl (hstop f)
  · rfl

/-- The end of a play whose window was closed. -/
lemma finishing_closed (hsave : s.platform.save.KnowsPng) {act : Action τ σ Bool} (hact : act p = .ok true q) :
    let result := finishing s (tellingFaults act) p
    ∃ closing, Closing none closing ∧ outcome result = verdict (none : Option (Stop × Console τ)) ∧
      (ending result).journal = closing.reverse ++ q.journal := by
  intro result
  have hsame : q.console.takeReports.2 = q.console.takeReports.2 := rfl
  obtain ⟨r, closing, hfinish, hend, hmarks, -⟩ := finish_run hsave hsame
  have hrun : result = .ok true r := finishing_of_ok (tellingFaults_of_ok hact) hfinish
  refine ⟨closing, ⟨hmarks, ?_, ?_⟩, ?_, ?_⟩
  · rintro _ _ ⟨⟩
  · rintro _ _ ⟨⟩
  · rw [hrun]
    rfl
  · rw [hrun]
    exact hend

/-- The end of a play that was stopped in a frame: the user is told of a fault, and any other stop goes on. -/
lemma finishing_stopped (hsave : s.platform.save.KnowsPng) {act : Action τ σ Bool} {stop : Stop}
    (hact : act p = .error stop q) (hagree : q.console.takeReports.2 = console.takeReports.2) :
    let result := finishing s (tellingFaults act) p
    ∃ closing, Closing (some (stop, console)) closing ∧ outcome result = verdict (some (stop, console)) ∧
      (ending result).journal = closing.reverse ++ q.journal := by
  intro result
  by_cases hfault : ∃ f, stop = .failed (.fault f)
  · obtain ⟨f, rfl⟩ := hfault
    let told : Happening τ := .printed s!"Execution halted: {f.kind.name} {f.text}"
    have hagree' : (q.noted told).console.takeReports.2 = console.takeReports.2 := hagree
    obtain ⟨r, closing, hfinish, hend, hmarks, hkept⟩ := finish_run hsave hagree'
    have hrun : result = .ok false r := finishing_of_ok (tellingFaults_of_fault hact) hfinish
    refine ⟨⟨told, q.console⟩ :: closing, ⟨hmarks, ?_, ?_⟩, ?_, ?_⟩
    · rintro _ _ ⟨⟩
      rfl
    · rintro _ _ ⟨⟩
      exact List.forall_mem_cons.2 ⟨hagree, hkept⟩
    · rw [hrun]
      rfl
    · rw [hrun, List.reverse_cons, List.append_assoc]
      exact hend
  · have hother : ∀ f, stop ≠ .failed (.fault f) := fun f heq => hfault ⟨f, heq⟩
    obtain ⟨r, closing, hfinish, hend, hmarks, hkept⟩ := finish_run hsave hagree
    have hrun : result = .error stop r := finishing_of_error (tellingFaults_of_error hother hact) hfinish
    refine ⟨closing, ⟨hmarks, ?_, ?_⟩, ?_, ?_⟩
    · rintro f _ ⟨⟩
      exact absurd rfl (hother f)
    · rintro _ _ ⟨⟩
      exact hkept
    · rw [hrun, verdict_of_error hother]
      rfl
    · rw [hrun]
      exact hend

variable [Duration τ] (s : Host τ σ)

/-- However the frames of a play conclude, the play is finished. -/
lemma finishing_frames (hsave : s.platform.save.KnowsPng) (last : τ) (events : List (List Event)) (hp : Ready p)
    (hrunning : p.running = true) :
    let result := finishing s (tellingFaults do frames s last events; return true) p
    ∃ parts conclusion closing, Course s.around last (events ++ [[.close]]) parts conclusion ∧
      Closing conclusion closing ∧ outcome result = verdict conclusion ∧
      (ending result).journal = closing.reverse ++ (parts.flatten.reverse ++ p.journal) := by
  intro result
  obtain ⟨parts, q, hcourse, hframes, hjournal⟩ | ⟨parts, stop, console, q, hcourse, hframes, hjournal, hagree⟩ :=
    course_frames s hsave last events hp hrunning
  · have hplayed : (do frames s last events; return true : Action τ σ Bool) p = .ok true q := by
      rw [bind_of_ok hframes]
      rfl
    obtain ⟨closing, hclosing, hresult, hend⟩ := finishing_closed hsave hplayed
    exact ⟨parts, none, closing, hcourse, hclosing, hresult, by rw [← hjournal]; exact hend⟩
  · have hplayed : (do frames s last events; return true : Action τ σ Bool) p = .error stop q := bind_of_error hframes
    obtain ⟨closing, hclosing, hresult, hend⟩ := finishing_stopped hsave hplayed hagree
    exact ⟨parts, some (stop, console), closing, hcourse, hclosing, hresult, by rw [← hjournal]; exact hend⟩

/-- A play whose machine and wave are in order, whose window is not open yet, and that has written nothing that
counts. -/
def Unopened (p : Play τ σ) : Prop := Gone [] [] p ∧ p.holdings = .nothing

omit [Duration τ] in
lemma unopened_untold : Untold (Unopened : Play τ σ → Prop) where
  printed p text h := ⟨gone_unmoved.printed p text h.1, h.2⟩
  taken p h := ⟨gone_unmoved.taken p h.1, h.2⟩
  stored p disk h := ⟨gone_unmoved.stored p disk h.1, h.2⟩

lemma unopened_fresh (tracing : Bool) (clock : σ) (disk : Disk) : Unopened (fresh tracing clock disk : Play τ σ) :=
  ⟨⟨⟨{ Machine.fresh_wellFormed with }, rfl⟩, [], rfl, rfl⟩, rfl⟩

lemma unopened_load (name : String) : Keeps Unopened (load name : Action τ σ (Option String)) := by
  refine unopened_untold.load fun p program h => ⟨h.1.withConsole ?_, h.2⟩
  refine keeps_bind (keeps_load program) (fun _ c hc => ?_) p.console h.1.wellFormed
  rw [onMachine_of_ok (Action.report_run _)]
  exact { hc with }

omit [Duration τ] in
lemma goneAs_greet {written : List (Happening τ)} :
    Leads (Gone base written) (GoneAs true base written) (greet : Action τ σ Unit) := by
  have hgreeting : Keeps (GoneAs true base written) (greeting.forM print : Action τ σ Unit) :=
    keeps_forM _ goneAs_undisturbed.print
  intro p hp
  have hset : GoneAs true base written { p with running := true } := ⟨gone_unmoved.equipped p _ _ _ hp, rfl⟩
  unfold greet
  rw [modify_bind, get_bind]
  cases p.holdings.audio with
  | none => exact hgreeting _ hset
  | some device => exact hgreeting _ ⟨hset.1.unmarked rfl, rfl⟩

/-- A play whose window cannot be opened. -/
lemma play_unopened (hsave : s.platform.save.KnowsPng) (hp : Unopened p) (hsuffices : ¬s.platform.Suffices)
    (events : List (List Event)) :
    ∃ q, play s events p = .ok false q := by
  obtain ⟨q, hstart, htexture⟩ := opens_start s p (by rw [hp.2]; rfl)
  have hunheld : q.holdings.texture = false := by simpa using mt htexture.1 hsuffices
  obtain ⟨r, hfinish⟩ := (succeeds_finish hsave).unit q
  rw [play_eq, bind_of_ok hstart, hunheld, if_neg (by decide), bind_of_ok hfinish]
  exact ⟨r, rfl⟩

/-- A play whose window can be opened is played in frames. -/
lemma play_played (hsave : s.platform.save.KnowsPng) (hp : Unopened p) (hsuffices : s.platform.Suffices)
    (events : List (List Event)) :
    ∃ conclusion, Played s.around events (ending (play s events p)).journal.reverse conclusion ∧
      outcome (play s events p) = verdict conclusion := by
  obtain ⟨p₁, hstart, htexture⟩ := opens_start s p (by rw [hp.2]; rfl)
  have hp₁ := (gone_unmoved.start s).of_ok hp.1 hstart
  obtain ⟨_, p₂, hgreet, hp₂⟩ := succeeds_greet.leads goneAs_greet hp₁
  obtain ⟨time, p₃, hnow, hp₃⟩ := (succeeds_now s).leads (goneAs_undisturbed.now s) hp₂
  have hbegun : p₃.journal.head?.map (·.happening) = some (.readClock time) := by
    cases hnow
    rfl
  obtain ⟨parts, conclusion, closing, hcourse, hclosing, hresult, hjournal⟩ :=
    finishing_frames s hsave time events hp₃.1.toReady hp₃.2
  obtain ⟨opening, hopening, hquiet⟩ := hp₃.1.part
  rw [List.append_nil] at hopening
  rw [play_eq, bind_of_ok hstart, htexture.2 hsuffices, if_pos rfl, bind_of_ok hgreet, bind_of_ok hnow]
  refine ⟨conclusion, ?_, hresult⟩
  have hwhole :
      opening ++ parts.flatten ++ closing = (closing.reverse ++ (parts.flatten.reverse ++ p₃.journal)).reverse := by
    rw [hopening]
    simp only [List.reverse_append, List.reverse_reverse]
  rw [hjournal, ← hwhole]
  refine .intro hquiet ?_ hcourse hclosing
  rwa [hopening, List.head?_reverse] at hbegun

variable {name : String}

/-- A program that can be loaded is played as soon as the window is open. -/
lemma run_played (hsave : s.platform.save.KnowsPng) {program : List UInt8} (hp : Unopened p)
    (hread : p.disk.read name = .ok program) (hfit : program.length ≤ programLimit) (events : List (List Event)) :
    (¬s.platform.Suffices → ∃ q, run s name events p = .ok false q) ∧
      (s.platform.Suffices → ∃ conclusion,
        Played s.around events (ending (run s name events p)).journal.reverse conclusion ∧
        outcome (run s name events p) = verdict conclusion) := by
  obtain ⟨q, hload⟩ := load_accepted hread hfit
  have hq := (unopened_load name).of_ok hp hload
  have hrun : run s name events p = play s events q := by rw [run, bind_of_ok hload]
  rw [hrun]
  exact ⟨fun hsuffices => play_unopened s hsave hq hsuffices events,
    fun hsuffices => play_played s hsave hq hsuffices events⟩

end Play

end Chip8.Window

namespace Chip8.CommandLine.PlayInWindow

open Chip8.Window (Event Platform Play Played Cause verdict exitStatus readings)

variable {τ σ : Type} [Duration τ] {arguments : List String} {disk : Disk} {name : String} {program : List UInt8}

/-- The command ends as the run of the program does. -/
lemma run_named (platform : Platform τ σ) (random : Nat → UInt8) (clock : σ) (events : List (List Event))
    (harguments : arguments.erase "--debug" = [name]) (hname : '\x00' ∉ name.toList) (hexists : disk.exists? name) :
    let result := Play.run ⟨⟨Dialect.modern, random⟩, platform⟩ name events
      (Play.fresh (arguments.contains "--debug") clock disk)
    let finished := run platform random clock events arguments disk
    finished.finish.status = exitStatus (Play.outcome result) ∧ finished.journal = (ending result).journal.reverse ∧
      ∀ text ∈ printed finished.journal, text ∈ finished.finish.printed := by
  intro result finished
  have hfound : (disk.exists? name && !name.toList.contains '\x00') = true := by simp [hexists, hname]
  have hplay : finished = play platform random clock events (arguments.contains "--debug") name disk := by
    simp only [finished, run, harguments, hfound, if_true]
  have hprinted {described last : List String} {journal : List (Window.Moment τ)} :
      ∀ text ∈ printed journal, text ∈ described ++ printed journal ++ last :=
    fun text htext => List.mem_append_left _ (List.mem_append_right _ htext)
  have hresult : Play.run ⟨⟨Dialect.modern, random⟩, platform⟩ name events
      (Play.fresh (arguments.contains "--debug") clock disk) = result := rfl
  rw [hplay]
  unfold play
  rw [hresult]
  cases result with
  | ok success p => exact ⟨rfl, rfl, hprinted⟩
  | error stop p =>
    cases stop with
    | interrupted => exact ⟨rfl, rfl, hprinted⟩
    | failed e => exact ⟨rfl, rfl, hprinted⟩

lemma exists_of_read (hread : disk.read name = .ok program) : disk.exists? name := by
  rw [Disk.exists?, hread]

/-- A loaded program is played if the window can be opened. -/
lemma run_concluded {platform : Platform τ σ} (hsave : platform.save.KnowsPng) (random : Nat → UInt8) (clock : σ)
    (events : List (List Event)) (harguments : arguments.erase "--debug" = [name]) (hname : '\x00' ∉ name.toList)
    (hread : disk.read name = .ok program) (hfit : program.length ≤ programLimit) :
    let finished := run platform random clock events arguments disk
    (¬platform.Suffices → finished.finish.status = .ok 1) ∧
      (platform.Suffices → ∃ conclusion, Played ⟨Dialect.modern, random⟩ events finished.journal conclusion ∧
        finished.finish.status = exitStatus (verdict conclusion)) := by
  intro finished
  obtain ⟨hstatus, hjournal, -⟩ := run_named platform random clock events harguments hname (exists_of_read hread)
  obtain ⟨hclosed, hopen⟩ := Play.run_played ⟨⟨Dialect.modern, random⟩, platform⟩ hsave
    (Play.unopened_fresh (arguments.contains "--debug") clock disk) hread hfit events
  refine ⟨fun hsuffices => ?_, fun hsuffices => ?_⟩
  · obtain ⟨q, hrun⟩ := hclosed hsuffices
    rw [hrun] at hstatus
    exact hstatus
  · obtain ⟨conclusion, hplayed, hresult⟩ := hopen hsuffices
    rw [← hjournal] at hplayed
    rw [hresult] at hstatus
    exact ⟨conclusion, hplayed, hstatus⟩

/-- Whatever the clock, the play of a loaded program ends with status zero or one, unless a time that was read is before
an earlier one or has no whole part. -/
theorem window_run_ends (hstill : ¬(Duration.ofNat 0 : τ) < Duration.ofNat 0) (platform : Platform τ σ)
    (hsave : platform.save.KnowsPng) (random : Nat → UInt8) (clock : σ) (events : List (List Event))
    (harguments : arguments.erase "--debug" = [name]) (hname : '\x00' ∉ name.toList)
    (hread : disk.read name = .ok program) (hfit : program.length ≤ 3584) :
    let finished := run platform random clock events arguments disk
    let times := readings finished.journal
    finished.finish.status = .ok 0 ∨ finished.finish.status = .ok 1 ∨
      (finished.finish.status = .error .negativeElapsed ∧
        ∃ t t', [t, t'].Sublist times ∧ (t' - t) * Duration.ofNat 1000 < Duration.ofNat 0) ∨
      ∃ e, finished.finish.status = .error e ∧ ∃ time ∈ times, Duration.truncate time = .error e := by
  intro finished times
  obtain ⟨hclosed, hopen⟩ := run_concluded hsave random clock events harguments hname hread hfit
  by_cases hsuffices : platform.Suffices
  · obtain ⟨conclusion, hplayed, hstatus⟩ := hopen hsuffices
    cases conclusion with
    | none => exact .inl hstatus
    | some stop =>
      cases hplayed.cause hstill with
      | interrupted => exact .inl hstatus
      | fault _ _ => exact .inr (.inl hstatus)
      | backwards hread hback => exact .inr (.inr (.inl ⟨hstatus, _, _, hread, hback⟩))
      | @unnamed time e _ hread htruncate =>
        cases e with
        | fault f => exact .inr (.inl hstatus)
        | _ => exact .inr (.inr (.inr ⟨_, hstatus, time, hread, htruncate⟩))
  · exact .inr (.inl (hclosed hsuffices))

/-- A clock that goes back by a second before the first frame. -/
theorem window_run_ends_backwards :
    let platform : Platform Rat (Window.Ticking Rat) :=
      { works := fun _ => true, complaint := "", keycode := fun _ => some 1, clock := Window.Ticking.clock }
    let disk : Disk := ⟨["work"], [(["work", "prog.ch8"], [0xF0, 0x29, 0xD0, 0x05, 0x12, 0x04])], [], []⟩
    let finished := run platform (fun _ => 9) ⟨1000, [], [-1, 1 / 50]⟩ [[.close]] ["prog.ch8"] disk
    disk.read "prog.ch8" = .ok [0xF0, 0x29, 0xD0, 0x05, 0x12, 0x04] ∧
      finished.finish.status = .error .negativeElapsed ∧
      ∃ t t', [t, t'].Sublist (readings finished.journal) ∧ (t' - t) * 1000 < 0 := by
  intro platform disk finished
  have hread : disk.read "prog.ch8" = .ok [0xF0, 0x29, 0xD0, 0x05, 0x12, 0x04] := by decide +kernel
  have harguments : ["prog.ch8"].erase "--debug" = ["prog.ch8"] := rfl
  have hstatus : finished.finish.status = .error .negativeElapsed := by decide +kernel
  have hsave : platform.save.KnowsPng := by
    dsimp only [platform]
    exact PictureFile.save_knowsPng
  refine ⟨hread, hstatus, ?_⟩
  obtain hzero | hone | ⟨-, hback⟩ | ⟨e, -, time, -, htruncate⟩ :=
    window_run_ends (by decide) platform hsave (fun _ => 9) ⟨1000, [], [-1, 1 / 50]⟩ [[.close]]
      harguments (by decide) hread (by decide)
  · exact absurd (hstatus.symm.trans hzero) nofun
  · exact absurd (hstatus.symm.trans hone) nofun
  · exact hback
  · cases htruncate

end Chip8.CommandLine.PlayInWindow
