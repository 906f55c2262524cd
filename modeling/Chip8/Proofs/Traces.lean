import Chip8.Proofs.Addresses
import Chip8.Proofs.Clock
import Chip8.Proofs.Turns

/-!
# Traced sessions

Tracing changes nothing but the trace, and the trace tells what the machine did. A session here is a list of operations:
commands, and programs read from files. `Session.turns` lists the turns that the machine takes in a session, one after
the other; the trace grows by what they tell.

Main statement: `trace_tells_session`. Consoles that differ at most in tracing and in their traces are given the same
operations: the outcomes are the same, faults and all, and the consoles differ in no more than before. As long as
tracing is not switched on the way, a console that traces has a line for every word that a step fetches, with its
address, also if it turns out to be a fault, a line for every halt and for every end of a halt, and a line for every
tick that takes the sound timer from one to zero. What stands in these lines is described by `Report.Shown`.
-/

namespace Chip8

namespace Machine

/-- Machines that differ at most in whether they trace, and in what they have reported. -/
def SameButTrace (m m' : Machine) : Prop := m = { m' with tracing := m.tracing, reports := m.reports }

lemma sameButTrace_couples (around : Surroundings) : Couples SameButTrace around around where
  dialect := rfl
  core h := by rw [h]; rfl
  delay h := by rw [h]
  sound h := by rw [h]
  random h := by rw [h]
  adopt h k := by rw [h]; rfl
  setDelay h value := by rw [h]; rfl
  setSound h value := by rw [h]; rfl
  advance h := by rw [h]; rfl
  setTracing h value := by rw [h]; rfl
  reported h r := by rw [h]; rfl

end Machine

namespace Report

/-- A line shows a report about the work of a machine: what happened, and the numbers of it. -/
inductive Shown : Report → String → Prop
  | fetched {address : Int} {word : Word} {place digits : String} (hplace : Hex.Shows place address)
    (hdigits : Hex.Shows digits word.val) :
    Shown (.fetched address word) ("CPU: " ++ place ++ "  " ++ digits ++ "  " ++ word.assembly)
  | awaitingKey {x : Register} {digit : String} (hdigit : Hex.Shows digit x.val) :
    Shown (.awaitingKey x) ("CPU: Waiting for key press into V" ++ digit)
  | keyStored {code register : Int} {key digit : String} (hkey : Hex.Shows key code)
    (hdigit : Hex.Shows digit register) :
    Shown (.keyStored code register) ("CPU: Key " ++ key ++ " stored in V" ++ digit ++ ", resuming")
  | soundExpired : Shown .soundExpired "TIMERS: Sound timer expired"

lemma shown_line {r : Report} (hr : r.kind?.isSome) : r.Shown r.line := by
  cases r with
  | fetched address word =>
    rw [line_fetched]
    exact .fetched (Hex.shows_address address) word.shows_text
  | awaitingKey x => exact .awaitingKey (Hex.shows_text x.val)
  | keyStored code register => exact .keyStored (Hex.shows_text code) (Hex.shows_text register)
  | soundExpired => exact .soundExpired
  | _ => cases hr

end Report

section Operations

variable {τ : Type}

/-- What a session is made of. -/
inductive Operation (τ : Type) where
  | given (command : Command τ)
  /-- A program that was read from a file is taken in. -/
  | loadFile (path : String) (program : List UInt8)

variable [Duration τ]

/-- An operation carried out on a console, whatever comes of it. -/
def Operation.answer (around : Surroundings) : Operation τ → Console τ → Session.Outcome τ × Console τ
  | .given command, c => Session.answer around command c
  | .loadFile path program, c =>
    match Console.loadFile path program c with
    | .ok _ c => (.ok .nothing, c)
    | .error e c => (.error e, c)

/-- What came of every operation, and the console at the end. -/
def Operation.run (around : Surroundings) : List (Operation τ) → Console τ → List (Session.Outcome τ) × Console τ
  | [], c => ([], c)
  | operation :: rest, c =>
    let (outcome, c) := operation.answer around c
    let (outcomes, c) := run around rest c
    (outcome :: outcomes, c)

variable {R : Machine → Machine → Prop} {around around' : Surroundings}

lemma Operation.run_cons (operation : Operation τ) (rest : List (Operation τ)) (c : Console τ) :
    Operation.run around (operation :: rest) c =
      ((operation.answer around c).1 :: (Operation.run around rest (operation.answer around c).2).1,
        (Operation.run around rest (operation.answer around c).2).2) := rfl

lemma Operation.answer_coupled (h : Couples R around around') (operation : Operation τ) {c c' : Console τ}
    (hc : Joined R c c') :
    SameOutcome (Joined R) (operation.answer around c).1 (operation.answer around' c').1 ∧
      Joined R (operation.answer around c).2 (operation.answer around' c').2 := by
  cases operation with
  | given command =>
    exact answer_alike (fun _ _ => SameOutcome.reply) SameOutcome.failure (coupled_perform h command c c' hc)
  | loadFile path program =>
    have hload : Coupled (Joined R) Eq (Console.loadFile path program : Console.Action τ Unit)
        (Console.loadFile path program) :=
      coupled_bind (coupled_load h.carries program) fun _ _ _ => coupled_onMachine (h.carries.report _)
    have halike := hload c c' hc
    rw [Operation.answer, Operation.answer]
    generalize Console.loadFile path program c = result at halike
    generalize Console.loadFile path program c' = result' at halike
    cases halike with
    | ok hvalue hstate => exact ⟨.reply (.equal _), hstate⟩
    | error e hstate => exact ⟨.failure e, hstate⟩

/-- By induction on the operations. -/
lemma Operation.run_coupled (h : Couples R around around') (operations : List (Operation τ)) {c c' : Console τ}
    (hc : Joined R c c') :
    List.Forall₂ (SameOutcome (Joined R))
        (Operation.run around operations c).1 (Operation.run around' operations c').1 ∧
      Joined R (Operation.run around operations c).2 (Operation.run around' operations c').2 := by
  induction operations generalizing c c' with
  | nil => exact ⟨.nil, hc⟩
  | cons operation rest ih =>
    have hfirst := operation.answer_coupled h hc
    have hrest := ih hfirst.2
    exact ⟨.cons hfirst.1 hrest.1, hrest.2⟩

end Operations

section Turns

variable {τ : Type}

/-- The turns of a number of ticks in a row. -/
def Machine.tickTurns : Nat → Machine → List Turn
  | 0, _ => []
  | n + 1, m => .tick m :: tickTurns n m.ticked

variable [Duration τ]

namespace Console

/-- The turns that some elapsed time brings. -/
def updateTurns (elapsed : τ) (c : Console τ) : List Turn :=
  match c.timers.advance elapsed with
  | .ok (ticks, _) => c.machine.tickTurns ticks
  | .error _ => []

/-- The turns of a step, once the clock is advanced. -/
def stepTurns (elapsed : τ) (c : Console τ) : List Turn :=
  c.updateTurns elapsed ++ whenOk (update elapsed c) fun c => [.step c.machine]

/-- The turns of a number of steps in a row, until one of them fails. -/
def stepsTurns (around : Surroundings) : Nat → Console τ → List Turn
  | 0, _ => []
  | n + 1, c => c.stepTurns (Duration.ofNat 0) ++ whenOk (step around (Duration.ofNat 0) c) (stepsTurns around n)

end Console

namespace Session

def turnsOf (around : Surroundings) : Command τ → Console τ → List Turn
  | .step elapsed, c => c.stepTurns elapsed
  | .stepMachine, c => [.step c.machine]
  | .frame elapsed instructions, c =>
    c.updateTurns (elapsed.getD Console.frameLength) ++
      whenOk (Console.update (elapsed.getD Console.frameLength) c)
        (Console.stepsTurns around (instructions.getD Console.instructionsPerFrame).toNat)
  | .execute word, c => [.execute word c.machine]
  | .resumeOnKey, c => [.resume c.machine]
  | .update elapsed, c => c.updateTurns elapsed
  | .tick, c => [.tick c.machine]
  | _, _ => []

end Session

def Operation.turnsOf (around : Surroundings) : Operation τ → Console τ → List Turn
  | .given command, c => Session.turnsOf around command c
  | .loadFile _ _, _ => []

/-- The turns that the machine takes in a session, one after the other. -/
def Session.turns (around : Surroundings) : List (Operation τ) → Console τ → List Turn
  | [], _ => []
  | operation :: rest, c => operation.turnsOf around c ++ turns around rest (operation.answer around c).2

def Command.takesTurns : Command τ → Bool
  | .step _ | .stepMachine | .frame _ _ | .execute _ | .resumeOnKey | .update _ | .tick => true
  | _ => false

/-- A console has gone on to another one, and its trace has grown by what some turns tell. -/
def Console.Gained (around : Surroundings) (c : Console τ) (turns : List Turn) (d : Console τ) : Prop :=
  c.machine.Gained (turns.flatMap (Turn.told around)) d.machine

namespace Console.Gained

variable {around : Surroundings} {c d e : Console τ} {turns later : List Turn} {α β : Type}

omit [Duration τ] in
lemma refl (around : Surroundings) (c : Console τ) : c.Gained around [] c := Machine.gained_of_status rfl

omit [Duration τ] in
lemma trans (h : c.Gained around turns d) (hlater : d.Gained around later e) : c.Gained around (turns ++ later) e := by
  have hboth := Machine.Gained.trans h hlater
  rwa [← List.flatMap_append] at hboth

omit [Duration τ] in
lemma onMachine {act : Chip8.Action α} {turn : Turn} (hbefore : turn.before = c.machine)
    (hafter : turn.after around = ending (act c.machine)) :
    c.Gained around [turn] (ending (Console.onMachine act c)) := by
  have hgained := turn.gained_after around
  rw [hbefore, hafter] at hgained
  rw [Gained, ending_onMachine, List.flatMap_singleton]
  exact hgained

lemma iterate_ticked (around : Surroundings) (n : Nat) (m : Machine) :
    m.Gained ((m.tickTurns n).flatMap (Turn.told around)) (Machine.ticked^[n] m) := by
  induction n generalizing m with
  | zero => exact Machine.gained_of_status rfl
  | succ n ih =>
    have hfirst := Turn.gained_tick around m
    rw [Turn.after, Action.tick_run] at hfirst
    rw [Function.iterate_succ_apply, Machine.tickTurns, List.flatMap_cons]
    exact hfirst.trans (ih m.ticked)

lemma update (around : Surroundings) (elapsed : τ) (c : Console τ) :
    c.Gained around (c.updateTurns elapsed) (ending (Console.update elapsed c)) := by
  rw [update_run, Console.updateTurns]
  cases c.timers.advance elapsed with
  | error e => exact refl around c
  | ok result => exact iterate_ticked around result.1 c.machine

lemma step (around : Surroundings) (elapsed : τ) (c : Console τ) :
    c.Gained around (c.stepTurns elapsed) (ending (Console.step around elapsed c)) :=
  added_bind trans (update around elapsed c) fun _ _ _ => onMachine rfl rfl

lemma steps (around : Surroundings) (n : Nat) (c : Console τ) :
    c.Gained around (c.stepsTurns around n)
      (ending (Console.times (do let _ ← Console.step around (Duration.ofNat 0 : τ)) n c)) := by
  induction n generalizing c with
  | zero => exact refl around c
  | succ n ih =>
    rw [Console.times_step_succ]
    exact added_bind trans (step around (Duration.ofNat 0) c) fun _ d _ => ih d

/-- Every command that makes the machine work. -/
lemma perform (around : Surroundings) {command : Command τ} (htakes : command.takesTurns) (c : Console τ) :
    c.Gained around (Session.turnsOf around command c) (ending (Session.perform around command c)) := by
  have hreply {α : Type} {act : Console.Action τ α} {turns : List Turn} (hact : c.Gained around turns (ending (act c)))
      (reply : α → Reply τ) : c.Gained around turns (ending ((act >>= fun a => pure (reply a)) c)) :=
    added_map hact fun _ _ hd => hd
  cases command with
  | step elapsed => exact hreply (step around elapsed c) _
  | stepMachine => exact hreply (onMachine rfl rfl) _
  | frame elapsed instructions =>
    have hframe : c.Gained around _ (ending (Console.frame around (elapsed.getD Console.frameLength)
        (instructions.getD Console.instructionsPerFrame) c)) :=
      added_bind trans (update around _ c) fun _ d _ => added_map (steps around _ d) fun _ _ he => he
    exact added_map hframe fun _ _ hd => hd
  | execute word => exact hreply (onMachine rfl rfl) _
  | resumeOnKey => exact hreply (onMachine rfl rfl) _
  | update elapsed => exact hreply (update around elapsed c) _
  | tick => exact hreply (onMachine rfl rfl) _
  | _ => cases htakes

end Console.Gained

/-- A property of the trace that reports about anything but the work of the machine do not touch. -/
structure Heedless (P : Machine → Prop) : Prop where
  trace : ∀ m m' : Machine, m'.tracing = m.tracing → m'.reports = m.reports → P m → P m'
  reported : ∀ m (r : Report), r.kind? = none → P m → P (m.reported r)

namespace Heedless

variable {P : Machine → Prop} (h : Heedless P)

include h

lemma aloof : Machine.Aloof P := fun m m' hsame => h.trace m m' (congrArg (·.2.1) hsame) (congrArg (·.2.2) hsame)

lemma onReport {r : Report} (hkind : r.kind? = none) : Keeps P (Action.report r) := by
  intro m hm
  rw [Action.report_run]
  exact h.reported m r hkind hm

lemma pressed (m : Machine) (key : Key) (code : Int) (hm : P m) : P (m.pressed key code) := by
  have hmoved : P { m with keypad := m.keypad.press key code } := h.trace m _ rfl rfl hm
  cases hup : m.keypad.down.get key with
  | false =>
    refine h.trace _ (m.pressed key code) ?_ ?_ (h.reported _ (.keyPressed code) rfl hmoved)
    · rfl
    · simp only [Machine.pressed, Machine.reported, hup, true_and]
  | true =>
    refine h.trace _ (m.pressed key code) ?_ ?_ hmoved
    · rfl
    · simp [Machine.pressed, hup]

lemma released (m : Machine) (key : Key) (hm : P m) : P (m.released key) := h.trace m _ rfl rfl hm

omit [Duration τ] in
lemma change {f : Machine → Machine} (htracing : ∀ m, (f m).tracing = m.tracing)
    (hreports : ∀ m, (f m).reports = m.reports) : Keeps (fun c : Console τ => P c.machine) (Session.change f) :=
  keeps_change fun m hm => h.trace m _ (htracing m) (hreports m) hm

lemma reset : Keeps (fun c : Console τ => P c.machine) Console.reset := by
  intro c hc
  rw [c.reset_run]
  refine h.reported _ _ rfl (h.trace c.machine _ ?_ ?_ hc)
  · simp only [Machine.resetState, Machine.resetPanel]
  · simp only [Machine.resetState, Machine.resetPanel]

lemma load (program : List UInt8) : Keeps (fun c : Console τ => P c.machine) (Console.load program) := by
  unfold Console.load
  split
  · exact keeps_bind (keeps_modify fun _ hc => hc) fun _ => h.reset
  · exact keeps_throw _

lemma loadFile (path : String) (program : List UInt8) :
    Keeps (fun c : Console τ => P c.machine) (Console.loadFile path program) :=
  keeps_bind (h.load program) fun _ => keeps_onMachine (h.onReport rfl)

/-- Every command that neither makes the machine work nor switches tracing. -/
lemma perform (around : Surroundings) {command : Command τ} (htakes : command.takesTurns = false)
    (hsteady : ∀ value, command ≠ .setTracing value) :
    Keeps (fun c : Console τ => P c.machine) (Session.perform around command) := by
  have hP := h.aloof
  cases command with
  | load program => exact keeps_bind (h.load program) fun _ => keeps_pure _
  | install program =>
    refine keeps_silently ?_
    unfold Action.installProgram
    split
    · exact keeps_throw _
    · exact hP.change fun _ => rfl
  | reset => exact keeps_bind h.reset fun _ => keeps_pure _
  | resetTimers => exact keeps_bind (keeps_modify fun _ hc => hc) fun _ => keeps_pure _
  | soundActive | awaitingKey | snapshot | readMemory _ _ | pixel _ _ | litCount | isDown _ =>
    exact keeps_bind keeps_get fun _ => keeps_pure _
  | fetch => exact keeps_bind (keeps_onMachine hP.fetch) fun _ => keeps_pure _
  | pushReturn address => exact keeps_silently (hP.pushReturn address)
  | popReturn => exact keeps_bind (keeps_onMachine hP.popReturn) fun _ => keeps_pure _
  | jump target => exact keeps_silently (hP.jump target)
  | skip => exact keeps_silently hP.skip
  | checkRange start length => exact keeps_silently (Action.keeps_checkRange start length)
  | setRegister register value =>
    exact keeps_silently (keeps_bind (Action.keeps_slot _ _) fun x => hP.setRegister x value)
  | setField field value =>
    refine h.change (fun m => ?_) fun m => ?_
    · cases field <;> rfl
    · cases field <;> rfl
  | resetState => exact h.change (fun _ => by rw [Machine.resetState]) fun _ => by rw [Machine.resetState]
  | resetPanel | writeMemory _ _ | setRegisters _ | setStack _ | setAwaiting _ | markClean =>
    exact h.change (fun _ => rfl) fun _ => rfl
  | setTracing value => exact absurd rfl (hsteady value)
  | draw x y rows => exact keeps_bind (keeps_onMachine (hP.draw _ x y rows)) fun _ => keeps_pure _
  | clear =>
    have hclear : Keeps P Action.clearScreen := hP.change fun _ => rfl
    exact keeps_silently hclear
  | press code => exact keeps_silently (keeps_pressKey h.pressed code)
  | release code => exact keeps_silently (keeps_releaseKey h.released code)
  | setKeys codes => exact keeps_silently (keeps_setKeys h.pressed h.released codes)
  | discard =>
    have hdiscard : Keeps P Action.discardPresses := hP.change fun _ => rfl
    exact keeps_silently hdiscard
  | poll =>
    have hpoll : Keeps P Action.pollKey := fun m hm => h.trace m _ rfl rfl hm
    refine keeps_bind (keeps_onMachine hpoll) fun press => ?_
    cases press with
    | none => exact keeps_pure _
    | some code => exact keeps_pure _
  | picture foreground background side =>
    refine keeps_bind keeps_get fun c => ?_
    split
    · exact keeps_pure _
    · exact keeps_throw _
  | _ => cases htakes

end Heedless

lemma turnsOf_eq_nil {around : Surroundings} {command : Command τ} (htakes : command.takesTurns = false)
    (c : Console τ) : Session.turnsOf around command c = [] := by
  cases command with
  | step | stepMachine | frame | execute | resumeOnKey | update | tick => cases htakes
  | _ => rfl

/-- Reports of other kinds than those that are kept do not count. -/
lemma heedless_filter {tracing : Bool} {keep : Report → Bool}
    (hkeep : tracing = true → ∀ r, keep r = true → r.kind?.isSome) (reports : List Report) :
    Heedless fun m => m.tracing = tracing ∧ m.reports.filter keep = reports where
  trace m m' htracing hreports hm := ⟨htracing.trans hm.1, by rw [hreports, hm.2]⟩
  reported m r hkind hm := by
    refine ⟨hm.1, ?_⟩
    rw [Machine.reported]
    by_cases htracing : m.tracing = true
    · have hdropped : ¬keep r = true := fun hkept => by
        have hsome := hkeep (hm.1 ▸ htracing) r hkept
        rw [hkind] at hsome
        cases hsome
      rw [if_pos htracing, List.filter_cons_of_neg hdropped]
      exact hm.2
    · rw [if_neg htracing]
      exact hm.2

namespace Machine

/-- As far as reports of some kinds are concerned, a trace has grown by some reports, if tracing was on. -/
def GainedOf (keep : Report → Bool) (m : Machine) (reports : List Report) (m' : Machine) : Prop :=
  m'.tracing = m.tracing ∧
    m'.reports.filter keep = (if m.tracing then (reports.filter keep).reverse else []) ++ m.reports.filter keep

variable {keep : Report → Bool} {m m' m'' : Machine} {xs ys : List Report}

lemma Gained.only (h : m.Gained xs m') : m.GainedOf keep xs m' := by
  refine ⟨h.1, ?_⟩
  rw [h.2, List.filter_append]
  split
  · rw [List.filter_reverse]
  · rfl

lemma GainedOf.trans (h : m.GainedOf keep xs m') (hlater : m'.GainedOf keep ys m'') :
    m.GainedOf keep (xs ++ ys) m'' := by
  refine ⟨hlater.1.trans h.1, ?_⟩
  rw [hlater.2, h.1, h.2]
  split
  · rw [List.filter_append, List.reverse_append, List.append_assoc]
  · rfl

/-- The lines that a machine has reported, of some kinds. -/
def linesOf (keep : Report → Bool) (m : Machine) : List String := (m.reports.reverse.filter keep).map Report.line

lemma GainedOf.linesOf (h : m.GainedOf keep xs m') (htracing : m.tracing = true) :
    m'.linesOf keep = m.linesOf keep ++ (xs.filter keep).map Report.line := by
  have hreports : (m'.reports.reverse.filter keep) = m.reports.reverse.filter keep ++ xs.filter keep := by
    rw [List.filter_reverse, h.2, if_pos htracing, List.reverse_append, List.reverse_reverse, List.filter_reverse]
  rw [Machine.linesOf, hreports, List.map_append]
  rfl

end Machine

section Sessions

variable {around : Surroundings} {keep : Report → Bool} {c : Console τ}

lemma Operation.gainedOf_answer {operation : Operation τ} (hsteady : ∀ value, operation ≠ .given (.setTracing value))
    (hkeep : c.machine.tracing = true → ∀ r, keep r = true → r.kind?.isSome) :
    c.machine.GainedOf keep ((operation.turnsOf around c).flatMap (Turn.told around))
      (operation.answer around c).2.machine := by
  have hheedless := heedless_filter hkeep (c.machine.reports.filter keep)
  have hquiet {m : Machine}
      (hm : m.tracing = c.machine.tracing ∧ m.reports.filter keep = c.machine.reports.filter keep) :
      c.machine.GainedOf keep [] m := ⟨hm.1, by rw [hm.2, List.filter_nil, List.reverse_nil, ite_self]; rfl⟩
  cases operation with
  | given command =>
    rw [Operation.turnsOf, Operation.answer, answer_eq_ending]
    cases htakes : command.takesTurns with
    | true => exact (Console.Gained.perform around htakes c).only
    | false =>
      have hother (value : Bool) : command ≠ .setTracing value :=
        fun heq => hsteady value (congrArg Operation.given heq)
      rw [turnsOf_eq_nil htakes]
      exact hquiet (hheedless.perform around htakes hother c ⟨rfl, rfl⟩)
  | loadFile path program =>
    have hloaded := hheedless.loadFile path program c ⟨rfl, rfl⟩
    rw [Operation.turnsOf, Operation.answer]
    cases hrun : Console.loadFile path program c with
    | ok a d =>
      rw [hrun] at hloaded
      exact hquiet hloaded
    | error e d =>
      rw [hrun] at hloaded
      exact hquiet hloaded

/-- By induction on the operations: tracing stays as it is, so that each of them adds to the trace what its turns
tell. -/
lemma Operation.gainedOf_run {operations : List (Operation τ)}
    (hsteady : ∀ value, Operation.given (.setTracing value) ∉ operations)
    (hkeep : c.machine.tracing = true → ∀ r, keep r = true → r.kind?.isSome) :
    c.machine.GainedOf keep ((Session.turns around operations c).flatMap (Turn.told around))
      (Operation.run around operations c).2.machine := by
  induction operations generalizing c with
  | nil => exact (Machine.gained_of_status rfl).only
  | cons operation rest ih =>
    have hfirst : c.machine.GainedOf keep _ (operation.answer around c).2.machine :=
      gainedOf_answer (fun value heq => hsteady value (heq ▸ List.mem_cons_self)) hkeep
    have hrest := ih (c := (operation.answer around c).2)
      (fun value hmem => hsteady value (List.mem_cons_of_mem _ hmem)) fun htracing => hkeep (hfirst.1 ▸ htracing)
    rw [Session.turns, List.flatMap_append, Operation.run_cons]
    exact hfirst.trans hrest

end Sessions

/-- Consoles that differ at most in tracing and in their traces answer the same operations alike. What a console that
traces reports is what its turns tell. -/
theorem trace_tells_session (around : Surroundings) (operations : List (Operation τ)) (c : Console τ) :
    (∀ c' : Console τ, Joined Machine.SameButTrace c c' →
      List.Forall₂ (SameOutcome (Joined Machine.SameButTrace)) (Operation.run around operations c).1
          (Operation.run around operations c').1 ∧
        Joined Machine.SameButTrace (Operation.run around operations c).2 (Operation.run around operations c').2) ∧
    ((∀ value, Operation.given (.setTracing value) ∉ operations) →
      let m := (Operation.run around operations c).2.machine
      let turns := Session.turns around operations c
      (c.machine.tracing = false → m.reports = c.machine.reports) ∧
      (c.machine.tracing = true →
        m.linesOf (fun r => r.kind?.isSome) =
            c.machine.linesOf (fun r => r.kind?.isSome) ++ (turns.flatMap (Turn.told around)).map Report.line ∧
          (∀ kind, m.linesOf (fun r => r.kind? = some kind) =
            c.machine.linesOf (fun r => r.kind? = some kind) ++
              (turns.filterMap (Turn.report? around kind)).map Report.line) ∧
          ∀ turn ∈ turns, ∀ r ∈ turn.told around, r.Shown r.line)) := by
  refine ⟨fun c' hc => Operation.run_coupled (Machine.sameButTrace_couples around) operations hc, ?_⟩
  intro hsteady m turns
  refine ⟨fun htracing => ?_, fun htracing => ⟨?_, fun kind => ?_,
    fun _ _ _ hr => Report.shown_line (Turn.kind?_of_mem_told hr)⟩⟩
  · have hgained : c.machine.GainedOf (fun _ => true) _ m :=
      Operation.gainedOf_run hsteady fun htrue => absurd htrue (by simp [htracing])
    have hreports := hgained.2
    simpa [htracing] using hreports
  · have hgained : c.machine.GainedOf (fun r => r.kind?.isSome) _ m := Operation.gainedOf_run hsteady fun _ _ hr => hr
    have hall : (turns.flatMap (Turn.told around)).filter (fun r => r.kind?.isSome) =
        turns.flatMap (Turn.told around) := by
      refine List.filter_eq_self.2 fun r hr => ?_
      obtain ⟨turn, -, htold⟩ := List.mem_flatMap.1 hr
      exact Turn.kind?_of_mem_told htold
    rw [hgained.linesOf htracing, hall]
  · have hkeep : c.machine.tracing = true → ∀ r : Report, decide (r.kind? = some kind) = true → r.kind?.isSome :=
      fun _ r hr => by rw [of_decide_eq_true hr]; rfl
    have hgained : c.machine.GainedOf (fun r => r.kind? = some kind) _ m := Operation.gainedOf_run hsteady hkeep
    rw [hgained.linesOf htracing, Turn.filter_flatMap_told]

/-- A sound expires, a key is awaited and pressed, a return finds no address, the counter stands too far behind, and an
instruction is executed by itself. -/
theorem trace_tells_session_key :
    let around : Surroundings := ⟨Dialect.modern, fun _ => 0⟩
    let program : List UInt8 := [0x60, 0x01, 0xF0, 0x18, 0xF3, 0x0A, 0x00, 0xEE]
    let m : Machine :=
      { Machine.fresh with memory := Memory.write (Vector.replicate 4096 0) 0x200 program, tracing := true }
    let c : Console Rat := { Console.fresh none with machine := m }
    let silent : Console Rat := { c with machine := { m with tracing := false } }
    let operations : List (Operation Rat) :=
      [.given .stepMachine, .given (.step 0), .given (.update 17), .given .stepMachine, .given (.press 7),
        .given (.frame (some 0) (some 2)), .given (.setField .counter 4095), .given .stepMachine,
        .given (.execute 0xF20A)]
    (Operation.run around operations c).2.machine.linesOf (fun r => r.kind?.isSome) =
        ["CPU: 200  0x6001  LD V0, 0x01", "CPU: 202  0xF018  LD ST, V0", "TIMERS: Sound timer expired",
          "CPU: 204  0xF30A  LD V3, K", "CPU: Waiting for key press into V3", "CPU: Key 7 stored in V3, resuming",
          "CPU: 206  0x00EE  RET", "CPU: Waiting for key press into V2"] ∧
      (Operation.run around operations silent).2.machine.reports = [] ∧
      Joined Machine.SameButTrace (Operation.run around operations c).2 (Operation.run around operations silent).2 := by
  intro around program m c silent operations
  have hsteady : ∀ value, Operation.given (.setTracing value) ∉ operations := by simp [operations]
  have hsame : Joined Machine.SameButTrace c silent := ⟨rfl, rfl, rfl, rfl⟩
  have htold : ((Session.turns around operations c).flatMap (Turn.told around)).map Report.line =
      ["CPU: 200  0x6001  LD V0, 0x01", "CPU: 202  0xF018  LD ST, V0", "TIMERS: Sound timer expired",
        "CPU: 204  0xF30A  LD V3, K", "CPU: Waiting for key press into V3", "CPU: Key 7 stored in V3, resuming",
        "CPU: 206  0x00EE  RET", "CPU: Waiting for key press into V2"] := by decide +kernel
  obtain ⟨htwo, htrace⟩ := trace_tells_session around operations c
  obtain ⟨-, hsilent⟩ := trace_tells_session around operations silent
  refine ⟨?_, (hsilent hsteady).1 rfl, (htwo silent hsame).2⟩
  rw [((htrace hsteady).2 rfl).1, htold]
  rfl

end Turns

end Chip8
