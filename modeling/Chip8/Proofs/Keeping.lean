import Chip8.Console.Session
import Chip8.Proofs.Effects

/-!
# Properties that actions keep

A property of the state is kept by an action if it holds after the action whenever it held before, however the
action ends. What is kept by the parts of an action is kept by the whole, and what is kept by every command is
kept by a session (`keeps_run`).
-/

namespace Chip8

section States

variable {ε σ α β : Type} {P Q M : σ → Prop}

/-- The state in which something has ended, well or badly. -/
def ending : EStateM.Result ε σ α → σ
  | .ok _ s => s
  | .error _ s => s

/-- However an action ends, the second property holds after it if the first one held before it. -/
def Leads (P Q : σ → Prop) (act : EStateM ε σ α) : Prop :=
  ∀ s, P s → Q (ending (act s))

/-- However an action ends, a property that held before it holds after it. -/
def Keeps (P : σ → Prop) (act : EStateM ε σ α) : Prop :=
  Leads P P act

lemma keeps_pure (a : α) : Keeps P (pure a : EStateM ε σ α) := fun _ h => h

lemma keeps_throw (e : ε) : Keeps P (throw e : EStateM ε σ α) := fun _ h => h

lemma keeps_get : Keeps P (get : EStateM ε σ σ) := fun _ h => h

lemma keeps_modify {f : σ → σ} (hf : ∀ s, P s → P (f s)) : Keeps P (modify f : EStateM ε σ PUnit) := hf

lemma leads_bind {act : EStateM ε σ α} {next : α → EStateM ε σ β} (hact : Leads P M act) (hfail : ∀ s, M s → Q s)
    (hnext : ∀ a, Leads M Q (next a)) : Leads P Q (act >>= next) := by
  intro s hs
  have hmiddle := hact s hs
  cases hrun : act s with
  | ok a t =>
    rw [hrun] at hmiddle
    rw [bind_of_ok hrun]
    exact hnext a t hmiddle
  | error e t =>
    rw [hrun] at hmiddle
    rw [bind_of_error hrun]
    exact hfail t hmiddle

lemma keeps_bind {act : EStateM ε σ α} {next : α → EStateM ε σ β} (hact : Keeps P act)
    (hnext : ∀ a, Keeps P (next a)) : Keeps P (act >>= next) :=
  leads_bind hact (fun _ h => h) hnext

lemma leads_map {act : EStateM ε σ α} (f : α → β) (hact : Leads P Q act) :
    Leads P Q (act >>= fun a => pure (f a)) := by
  intro s hs
  have hafter := hact s hs
  cases hrun : act s with
  | ok a t =>
    rw [hrun] at hafter
    rw [bind_of_ok hrun]
    exact hafter
  | error e t =>
    rw [hrun] at hafter
    rw [bind_of_error hrun]
    exact hafter

/-- Something done only under a condition, before the rest. -/
lemma keeps_ite_bind {c : Prop} [Decidable c] {act : EStateM ε σ PUnit} {next : PUnit → EStateM ε σ β}
    (hact : Keeps P act) (hnext : ∀ u, Keeps P (next u)) : Keeps P (if c then act >>= next else next ⟨⟩) := by
  split
  · exact keeps_bind hact hnext
  · exact hnext _

lemma keeps_forM (l : List α) {act : α → EStateM ε σ PUnit} (hact : ∀ a, Keeps P (act a)) :
    Keeps P (l.forM act) := by
  induction l with
  | nil => exact keeps_pure _
  | cons a l ih => exact keeps_bind (hact a) fun _ => ih

/-- From a state with the first property an action comes to its end in one with the second, or fails in one with the
third. -/
structure Ends (P : σ → Prop) (act : EStateM ε σ α) (Q : α → σ → Prop) (R : σ → Prop) : Prop where
  run : ∀ s, P s → match act s with
    | .ok a t => Q a t
    | .error _ t => R t

section Endings

variable {R : σ → Prop} {Q : α → σ → Prop} {act : EStateM ε σ α}

lemma Leads.ends (h : Leads P M act) (hfail : ∀ s, M s → R s) : Ends P act (fun _ => M) R := by
  refine ⟨fun s hs => ?_⟩
  have hafter := h s hs
  cases hrun : act s with
  | ok a t =>
    rw [hrun] at hafter
    exact hafter
  | error e t =>
    rw [hrun] at hafter
    exact hfail t hafter

lemma Keeps.ends (h : Keeps P act) : Ends P act (fun _ => P) P := Leads.ends h fun _ h => h

lemma Ends.leads (h : Ends P act Q R) (hend : ∀ a s, Q a s → M s) (hfail : ∀ s, R s → M s) : Leads P M act := by
  intro s hs
  have hafter := h.run s hs
  cases hrun : act s with
  | ok a t =>
    rw [hrun] at hafter
    exact hend a t hafter
  | error e t =>
    rw [hrun] at hafter
    exact hfail t hafter

lemma Ends.of_before {N : σ → Prop} (h : Ends P act Q R) (hbefore : ∀ s, N s → P s) : Ends N act Q R :=
  ⟨fun s hs => h.run s (hbefore s hs)⟩

lemma ends_pure {a : α} (h : ∀ s, P s → Q a s) : Ends P (pure a : EStateM ε σ α) Q R := ⟨h⟩

lemma ends_throw {e : ε} (h : ∀ s, P s → R s) : Ends P (throw e : EStateM ε σ α) Q R := ⟨h⟩

lemma ends_modify {f : σ → σ} {N : σ → Prop} (h : ∀ s, P s → N (f s)) :
    Ends P (modify f : EStateM ε σ PUnit) (fun _ => N) R := ⟨h⟩

lemma ends_bind {next : α → EStateM ε σ β} {O : β → σ → Prop} (hact : Ends P act Q R)
    (hnext : ∀ a, Ends (Q a) (next a) O R) : Ends P (act >>= next) O R := by
  refine ⟨fun s hs => ?_⟩
  have hafter := hact.run s hs
  cases hrun : act s with
  | ok a t =>
    rw [hrun] at hafter
    rw [bind_of_ok hrun]
    exact (hnext a).run t hafter
  | error e t =>
    rw [hrun] at hafter
    rw [bind_of_error hrun]
    exact hafter

/-- What each round keeps, all of them keep. -/
lemma ends_forM {l : List β} {act : β → EStateM ε σ PUnit} (hact : ∀ b ∈ l, Ends P (act b) (fun _ => P) R) :
    Ends P (l.forM act) (fun _ => P) R := by
  induction l with
  | nil => exact ends_pure fun _ h => h
  | cons b l ih =>
    exact ends_bind (hact b List.mem_cons_self) fun _ => ih fun x hx => hact x (List.mem_cons_of_mem _ hx)

end Endings

end States

namespace Machine

def ticked (m : Machine) : Machine :=
  { m with
    delay := if m.delay > 0 then m.delay - 1 else m.delay
    sound := if m.sound > 0 then m.sound - 1 else m.sound
    reports := if m.sound = 1 ∧ m.tracing then .soundExpired :: m.reports else m.reports }

def pressed (m : Machine) (key : Key) (code : Int) : Machine :=
  { m with
    keypad := m.keypad.press key code
    reports := if m.keypad.down.get key = false ∧ m.tracing then .keyPressed code :: m.reports else m.reports }

def released (m : Machine) (key : Key) : Machine :=
  { m with keypad := m.keypad.release key }

end Machine

namespace Action

variable {m : Machine}

lemma tick_run : tick m = .ok () m.ticked := by
  unfold tick Machine.ticked
  rw [modify_bind, get_bind]
  by_cases hsound : m.sound > 0
  · have hlast : m.sound - 1 = 0 ↔ m.sound = 1 := by omega
    rw [if_pos hsound, if_pos hsound, modify_bind, get_bind]
    by_cases hone : m.sound = 1
    · rw [if_pos (hlast.2 hone), report_run]
      simp only [Machine.reported, hone, true_and]
    · have hquiet : ¬(m.sound = 1 ∧ m.tracing = true) := fun h => hone h.1
      rw [if_neg (fun h => hone (hlast.1 h)), if_neg hquiet]
      rfl
  · have hquiet : ¬(m.sound = 1 ∧ m.tracing = true) := by omega
    rw [if_neg hsound, if_neg hsound, if_neg hquiet]
    rfl

lemma pressKey_run (code : Int) :
    pressKey code m =
      match slot? 16 code with
      | some key => .ok () (m.pressed key code)
      | none => .error .noSuchSlot m := by
  unfold pressKey
  cases hslot : slot? 16 code with
  | none => rw [bind_of_error (slot_of_none hslot)]
  | some key =>
    rw [bind_of_ok (slot_of_some hslot), get_bind, modify_bind]
    dsimp only [Machine.pressed]
    have hget : m.keypad.down[key] = m.keypad.down.get key := rfl
    rw [hget]
    by_cases hheld : m.keypad.down.get key = true
    · have hquiet : ¬(m.keypad.down.get key = false ∧ m.tracing = true) := by simp [hheld]
      rw [if_neg (by simp [hheld]), if_neg hquiet]
      rfl
    · have hup : m.keypad.down.get key = false := by simpa using hheld
      rw [if_pos (by simp [hup]), report_run]
      simp only [Machine.reported, hup, true_and]

lemma releaseKey_run (code : Int) :
    releaseKey code m =
      match slot? 16 code with
      | some key => .ok () (m.released key)
      | none => .error .noSuchSlot m := by
  unfold releaseKey
  cases hslot : slot? 16 code with
  | none => rw [bind_of_error (slot_of_none hslot)]
  | some key =>
    rw [bind_of_ok (slot_of_some hslot)]
    rfl

end Action

section Machines

variable {P : Machine → Prop}

lemma keeps_tick (htick : ∀ m, P m → P m.ticked) : Keeps P Action.tick := by
  intro m hm
  rw [Action.tick_run]
  exact htick m hm

lemma keeps_pressKey (hpress : ∀ m key code, P m → P (m.pressed key code)) (code : Int) :
    Keeps P (Action.pressKey code) := by
  intro m hm
  rw [Action.pressKey_run]
  cases slot? 16 code with
  | none => exact hm
  | some key => exact hpress m key code hm

lemma keeps_releaseKey (hrelease : ∀ m key, P m → P (m.released key)) (code : Int) :
    Keeps P (Action.releaseKey code) := by
  intro m hm
  rw [Action.releaseKey_run]
  cases slot? 16 code with
  | none => exact hm
  | some key => exact hrelease m key hm

lemma keeps_setKeys (hpress : ∀ m key code, P m → P (m.pressed key code))
    (hrelease : ∀ m key, P m → P (m.released key)) (codes : List Int) : Keeps P (Action.setKeys codes) := by
  apply keeps_forM
  intro key
  split
  · exact keeps_pressKey hpress _
  · exact keeps_releaseKey hrelease _

end Machines

section Consoles

variable {τ α : Type} {P Q : Machine → Prop}

lemma onMachine_of_ok {act : Action α} {c : Console τ} {a : α} {m : Machine} (h : act c.machine = .ok a m) :
    Console.onMachine act c = .ok a { c with machine := m } := by
  simp only [Console.onMachine, h]

lemma onMachine_of_error {act : Action α} {c : Console τ} {e : Failure} {m : Machine}
    (h : act c.machine = .error e m) : Console.onMachine act c = .error e { c with machine := m } := by
  simp only [Console.onMachine, h]

lemma ending_onMachine (act : Action α) (c : Console τ) :
    (ending (Console.onMachine act c)).machine = ending (act c.machine) := by
  cases hrun : act c.machine with
  | ok a m =>
    rw [onMachine_of_ok hrun]
    rfl
  | error e m =>
    rw [onMachine_of_error hrun]
    rfl

lemma leads_onMachine {act : Action α} (hact : Leads P Q act) :
    Leads (fun c : Console τ => P c.machine) (fun c => Q c.machine) (Console.onMachine act) := by
  intro c hc
  have hafter := hact c.machine hc
  rw [← ending_onMachine] at hafter
  exact hafter

lemma keeps_onMachine {act : Action α} (hact : Keeps P act) :
    Keeps (fun c : Console τ => P c.machine) (Console.onMachine act) :=
  leads_onMachine hact

lemma keeps_times {Q : Console τ → Prop} {act : Console.Action τ Unit} (hact : Keeps Q act) (n : Nat) :
    Keeps Q (Console.times act n) := by
  induction n with
  | zero => exact keeps_pure _
  | succ n ih => exact keeps_bind hact fun _ => ih

lemma keeps_silently {act : Action Unit} (hact : Keeps P act) :
    Keeps (fun c : Console τ => P c.machine) (Session.silently act) :=
  keeps_bind (keeps_onMachine hact) fun _ => keeps_pure _

lemma keeps_change {f : Machine → Machine} (hf : ∀ m, P m → P (f m)) :
    Keeps (fun c : Console τ => P c.machine) (Session.change f) :=
  keeps_bind (keeps_onMachine (keeps_modify hf)) fun _ => keeps_pure _

variable [Duration τ]

namespace Console

/-- A console that has been reset. -/
def renewed (c : Console τ) : Console τ :=
  { c with
    machine := { c.machine.resetState.resetPanel with
      memory := Memory.fresh.write programStart c.program.bytes
      executed := 0 }.reported .resetComplete
    timers := c.timers.reset
    frames := 0 }

/-- The program that a console remembers always fits. -/
lemma reset_run (c : Console τ) : reset c = .ok () c.renewed := by
  have hcleared : onMachine (modify Machine.resetState) c = .ok ⟨⟩ { c with machine := c.machine.resetState } :=
    onMachine_of_ok rfl
  have hinstalled (d : Console τ) : onMachine (.installProgram d.program.bytes) d = .ok () { d with
      machine := { d.machine with memory := d.machine.memory.write programStart d.program.bytes } } :=
    onMachine_of_ok ((Action.installProgram_run _ _).trans (if_neg (Nat.not_lt.2 d.program.fits)))
  rw [reset, bind_of_ok hcleared, get_bind, bind_of_ok (hinstalled _), modify_bind]
  refine (onMachine_of_ok (Action.report_run _)).trans ?_
  simp only [renewed, Machine.resetState, Machine.resetPanel]

end Console

section Loads

variable {program : List UInt8}

lemma load_of_fits (hfit : program.length ≤ programLimit) (c : Console τ) :
    Console.load program c = .ok () { c with program := ⟨program, hfit⟩ }.renewed := by
  rw [Console.load, dif_pos hfit, modify_bind, Console.reset_run]

lemma load_of_large (hlarge : programLimit < program.length) (c : Console τ) :
    Console.load program c = .error (.programTooLarge program.length) c := by
  rw [Console.load, dif_neg (Nat.not_le.2 hlarge)]
  rfl

end Loads

lemma keeps_update (htick : ∀ m, P m → P m.ticked) (elapsed : τ) :
    Keeps (fun c : Console τ => P c.machine) (Console.update elapsed) := by
  unfold Console.update
  refine keeps_bind keeps_get fun c => ?_
  split
  · exact keeps_throw _
  · refine keeps_bind (keeps_modify fun _ h => h) fun _ => ?_
    refine keeps_bind (keeps_times (keeps_onMachine (keeps_tick htick)) _) fun _ => ?_
    exact keeps_pure _

lemma keeps_step (htick : ∀ m, P m → P m.ticked) {around : Surroundings} (hstep : Keeps P (Action.step around))
    (elapsed : τ) : Keeps (fun c : Console τ => P c.machine) (Console.step around elapsed) :=
  keeps_bind (keeps_update htick elapsed) fun _ => keeps_onMachine hstep

lemma keeps_frame (htick : ∀ m, P m → P m.ticked) {around : Surroundings} (hstep : Keeps P (Action.step around))
    (elapsed : τ) (instructions : Int) :
    Keeps (fun c : Console τ => P c.machine) (Console.frame around elapsed instructions) := by
  refine keeps_bind (keeps_update htick elapsed) fun ticks => ?_
  refine keeps_bind (keeps_times (keeps_bind (keeps_step htick hstep _) fun _ => keeps_pure _) _) fun _ => ?_
  exact keeps_bind (keeps_modify fun _ h => h) fun _ => keeps_pure _

lemma answer_eq_ending (around : Surroundings) (command : Command τ) (c : Console τ) :
    (Session.answer around command c).2 = ending (Session.perform around command c) := by
  unfold Session.answer
  cases Session.perform around command c with
  | ok reply d => rfl
  | error e d => rfl

lemma run_cons {around : Surroundings} (command : Command τ) (rest : List (Command τ)) (c : Console τ) :
    Session.run around (command :: rest) c =
      ((Session.answer around command c).1 :: (Session.run around rest (Session.answer around command c).2).1,
        (Session.run around rest (Session.answer around command c).2).2) := rfl

lemma run_append {around : Surroundings} (commands rest : List (Command τ)) (c : Console τ) :
    Session.run around (commands ++ rest) c =
      ((Session.run around commands c).1 ++ (Session.run around rest (Session.run around commands c).2).1,
        (Session.run around rest (Session.run around commands c).2).2) := by
  induction commands generalizing c with
  | nil => rfl
  | cons command commands ih =>
    rw [List.cons_append, run_cons, run_cons, ih]
    rfl

lemma length_outcomes {around : Surroundings} (commands : List (Command τ)) (c : Console τ) :
    (Session.run around commands c).1.length = commands.length := by
  induction commands generalizing c with
  | nil => rfl
  | cons command rest ih => exact congrArg (· + 1) (ih _)

/-- A session keeps what each of its commands keeps. -/
theorem keeps_run {Q : Console τ → Prop} {around : Surroundings} {commands : List (Command τ)}
    (hkeep : ∀ command ∈ commands, Keeps Q (Session.perform around command)) {c : Console τ} (hc : Q c) :
    Q (Session.run around commands c).2 := by
  induction commands generalizing c with
  | nil => exact hc
  | cons command rest ih =>
    have hnext : Q (Session.answer around command c).2 := by
      rw [answer_eq_ending]
      exact hkeep command List.mem_cons_self c hc
    exact ih (fun x hx => hkeep x (List.mem_cons_of_mem _ hx)) hnext

/-- Whether a command only awaits or moves keys, or lets time pass. -/
def Command.isAside : Command τ → Bool
  | .resumeOnKey | .update _ | .tick | .press _ | .release _ | .setKeys _ | .discard | .poll | .isDown _
  | .soundActive | .awaitingKey => true
  | _ => false

/-- A property of the machine that keys and time do not touch. -/
structure KeptAside (P : Machine → Prop) : Prop where
  resumed : Keeps P Action.resumeOnKey
  ticked : ∀ m, P m → P m.ticked
  pressed : ∀ m key code, P m → P (m.pressed key code)
  released : ∀ m key, P m → P (m.released key)
  discarded : ∀ m, P m → P { m with keypad := m.keypad.discard }
  polled : ∀ m, P m → P { m with keypad := m.keypad.poll.2 }

lemma KeptAside.perform (h : KeptAside P) (around : Surroundings) {command : Command τ}
    (haside : command.isAside) : Keeps (fun c : Console τ => P c.machine) (Session.perform around command) := by
  cases command with
  | resumeOnKey => exact keeps_silently h.resumed
  | update elapsed => exact keeps_bind (keeps_update h.ticked elapsed) fun _ => keeps_pure _
  | tick => exact keeps_silently (keeps_tick h.ticked)
  | press code => exact keeps_silently (keeps_pressKey h.pressed code)
  | release code => exact keeps_silently (keeps_releaseKey h.released code)
  | setKeys codes => exact keeps_silently (keeps_setKeys h.pressed h.released codes)
  | discard => exact keeps_silently (keeps_modify h.discarded)
  | poll =>
    have hpoll : Keeps P Action.pollKey := h.polled
    refine keeps_bind (keeps_onMachine hpoll) fun press => ?_
    cases press with
    | none => exact keeps_pure _
    | some code => exact keeps_pure _
  | isDown code => exact keeps_bind keeps_get fun _ => keeps_pure _
  | soundActive | awaitingKey => exact keeps_bind keeps_get fun _ => keeps_pure _
  | _ => cases haside

end Consoles

end Chip8
