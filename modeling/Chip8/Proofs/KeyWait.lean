import Chip8.Proofs.Invariant

/-!
# Waiting for a key

A machine that halts until a key is pressed forgets the presses before, so only a key that goes down afterwards ends the
halt, and a key that was down when the machine halted has to be released first. As long as no key that was up went down,
steps change nothing. The first step after one did stores the code of the oldest of the last sixteen such presses in the
awaited register.

Main statement: `key_wait_protocol`, for all sequences of key events, timer updates and steps.
-/

namespace Chip8

lemma put_get {α : Type} {n : Nat} (v : Vector α n) (i : Fin n) : put v i (v.get i) = v :=
  Vector.set_getElem_self i.isLt

namespace Keypad

/-- The code of a press, if it finds its key up. -/
def strike? (down : Vector Bool 16) (code : Int) : Option Int :=
  ((slot? 16 code).filter fun key => !down.get key).map fun _ => code

/-- The keys with the one that a code names put down or up. -/
def moved (down : Vector Bool 16) (code : Int) (held : Bool) : Vector Bool 16 :=
  ((slot? 16 code).map fun key => put down key held).getD down

variable {down : Vector Bool 16} {code : Int} {key : Key}

lemma strike?_of_up (hkey : slot? 16 code = some key) (hup : down.get key = false) : strike? down code = some code := by
  rw [strike?, hkey, Option.filter_some_pos (by rw [hup]; rfl)]
  rfl

lemma strike?_of_down (hkey : slot? 16 code = some key) (hdown : down.get key = true) : strike? down code = none := by
  rw [strike?, hkey, Option.filter_some_neg (by rw [hdown]; decide)]
  rfl

lemma strike?_of_no_key (hkey : slot? 16 code = none) : strike? down code = none := by
  rw [strike?, hkey]
  rfl

lemma eq_of_strike? {struck : Int} (h : strike? down code = some struck) : struck = code := by
  obtain ⟨key, -, hcode⟩ := Option.map_eq_some_iff.1 h
  exact hcode.symm

lemma moved_of_key (hkey : slot? 16 code = some key) (held : Bool) : moved down code held = put down key held := by
  rw [moved, hkey]
  rfl

lemma moved_of_no_key (hkey : slot? 16 code = none) (held : Bool) : moved down code held = down := by
  rw [moved, hkey]
  rfl

lemma newest_newest_append (presses later : List Int) :
    newest (newest presses ++ later) = newest (presses ++ later) := by
  by_cases hroom : presses.length ≤ capacity
  · rw [newest_of_length_le hroom]
  · -- of more than sixteen presses as many give way as are added
    have hcapacity : capacity = 16 := rfl
    have hkept : (newest presses ++ later).length - capacity = later.length := by
      rw [List.length_append, newest, List.length_drop]
      omega
    have hmore : (presses ++ later).length - capacity = presses.length - capacity + later.length := by
      rw [List.length_append]
      omega
    have hdrop : (presses ++ later).drop (presses.length - capacity) = newest presses ++ later :=
      List.drop_append_of_le_length (by omega)
    calc newest (newest presses ++ later)
        = (newest presses ++ later).drop later.length := by rw [newest, hkept]
      _ = newest (presses ++ later) := by rw [← hdrop, List.drop_drop, newest, hmore]

lemma press_newest (hkey : slot? 16 code = some key) (presses : List Int) :
    Keypad.press ⟨down, newest presses⟩ key code =
      ⟨moved down code true, newest (presses ++ (strike? down code).toList)⟩ := by
  rw [moved_of_key hkey, Keypad.press]
  cases hdown : down.get key with
  | true =>
    have hstays : put down key true = down := by rw [← hdown, put_get]
    rw [strike?_of_down hkey hdown, hstays, Option.toList_none, List.append_nil]
    exact if_pos hdown
  | false =>
    have hup : ¬down.get key = true := by rw [hdown]; decide
    rw [strike?_of_up hkey hdown]
    refine (if_neg hup).trans ?_
    change Keypad.mk (put down key true) (newest (newest presses ++ [code])) = _
    rw [newest_newest_append]
    rfl

lemma head?_newest (presses : List Int) : (newest presses).head? = presses[presses.length - 16]? := by
  rw [newest, List.head?_drop]
  rfl

end Keypad

section Strikes

variable {τ : Type}

/-- Whether a command moves a key, lets time pass, or lets the machine take a step. -/
def Command.isEvent : Command τ → Bool
  | .press _ | .release _ | .update _ | .tick | .stepMachine => true
  | _ => false

def Command.isStep : Command τ → Bool
  | .stepMachine => true
  | _ => false

def Command.strike? (down : Vector Bool 16) : Command τ → Option Int
  | .press code => Keypad.strike? down code
  | _ => none

def Command.keysAfter (down : Vector Bool 16) : Command τ → Vector Bool 16
  | .press code => Keypad.moved down code true
  | .release code => Keypad.moved down code false
  | _ => down

/-- The codes of all presses that find their key up, if the given keys are down at first. -/
def Session.strikes (down : Vector Bool 16) : List (Command τ) → List Int
  | [] => []
  | command :: rest => (command.strike? down).toList ++ strikes (command.keysAfter down) rest

variable {down : Vector Bool 16} {code : Int} {key : Key}

lemma get_moved_down (hdown : down.get key = true) (code : Int) : (Keypad.moved down code true).get key = true := by
  cases hslot : slot? 16 code with
  | none => rwa [Keypad.moved_of_no_key hslot]
  | some other =>
    rw [Keypad.moved_of_key hslot, get_put]
    split
    · rfl
    · exact hdown

lemma key_of_get_moved_up (hdown : down.get key = true) (hup : (Keypad.moved down code false).get key ≠ true) :
    slot? 16 code = some key := by
  cases hslot : slot? 16 code with
  | none =>
    rw [Keypad.moved_of_no_key hslot] at hup
    exact absurd hdown hup
  | some other =>
    rw [Keypad.moved_of_key hslot, get_put] at hup
    split at hup
    · subst other
      rfl
    · exact absurd hdown hup

/-- A key that is down at first is struck only after it was released. -/
lemma release_of_mem_strikes {commands : List (Command τ)} (hcode : code ∈ Session.strikes down commands)
    (hkey : slot? 16 code = some key) (hdown : down.get key = true) :
    ∃ released, Command.release released ∈ commands ∧ slot? 16 released = some key := by
  induction commands generalizing down with
  | nil => cases hcode
  | cons command rest ih =>
    rw [Session.strikes, List.mem_append, Option.mem_toList] at hcode
    rcases hcode with hnow | hlater
    · cases command with
      | press pressed =>
        have hstrike : Keypad.strike? down pressed = some code := hnow
        have hsame := Keypad.eq_of_strike? hstrike
        subst hsame
        rw [Keypad.strike?_of_down hkey hdown] at hstrike
        cases hstrike
      | _ => cases hnow
    · by_cases hstill : (command.keysAfter down).get key = true
      · obtain ⟨released, hmem, hslot⟩ := ih hlater hstill
        exact ⟨released, List.mem_cons_of_mem _ hmem, hslot⟩
      · cases command with
        | press pressed => exact absurd (get_moved_down hdown pressed) hstill
        | release released => exact ⟨released, List.mem_cons_self, key_of_get_moved_up hdown hstill⟩
        | _ => exact absurd hdown hstill

end Strikes

namespace Machine

/-- A machine that has waited since it stood as `start`, while the given presses were made. -/
structure Waiting (start : Machine) (struck : List Int) (down : Vector Bool 16) (m : Machine) : Prop where
  wellFormed : m.WellFormed
  same : m = { start with keypad := m.keypad, delay := m.delay, sound := m.sound, reports := m.reports }
  keypad : m.keypad = ⟨down, Keypad.newest struck⟩

variable {around : Surroundings} {start m : Machine} {struck : List Int} {down : Vector Bool 16}

namespace Waiting

lemma ticked (h : start.Waiting struck down m) : start.Waiting struck down m.ticked :=
  ⟨h.wellFormed.ticked, by rw [h.same]; rfl, h.keypad⟩

lemma quiet (h : start.Waiting struck down m) : start.Waiting (struck ++ (none : Option Int).toList) down m := by
  rw [Option.toList_none, List.append_nil]
  exact h

lemma released (h : start.Waiting struck down m) (code : Int) :
    start.Waiting struck (Keypad.moved down code false) (ending (Action.releaseKey code m)) := by
  rw [Action.releaseKey_run]
  cases hslot : slot? 16 code with
  | none =>
    rw [Keypad.moved_of_no_key hslot]
    exact h
  | some key =>
    have hkeypad : (m.released key).keypad = ⟨put down key false, Keypad.newest struck⟩ := by
      change m.keypad.release key = _
      rw [h.keypad]
      rfl
    rw [Keypad.moved_of_key hslot]
    exact ⟨wellFormed_keptAside.released m key h.wellFormed, by rw [h.same]; rfl, hkeypad⟩

lemma pressed (h : start.Waiting struck down m) (code : Int) :
    start.Waiting (struck ++ (Keypad.strike? down code).toList) (Keypad.moved down code true)
      (ending (Action.pressKey code m)) := by
  rw [Action.pressKey_run]
  cases hslot : slot? 16 code with
  | none =>
    rw [Keypad.moved_of_no_key hslot, Keypad.strike?_of_no_key hslot]
    exact h.quiet
  | some key =>
    have hwell := wellFormed_keptAside.pressed m key code h.wellFormed
    have hsame : m.pressed key code = { start with
        keypad := (m.pressed key code).keypad
        delay := (m.pressed key code).delay
        sound := (m.pressed key code).sound
        reports := (m.pressed key code).reports } := by
      rw [h.same]
      rfl
    have hkeypad : (m.pressed key code).keypad =
        ⟨Keypad.moved down code true, Keypad.newest (struck ++ (Keypad.strike? down code).toList)⟩ := by
      change m.keypad.press key code = _
      rw [h.keypad, Keypad.press_newest hslot]
    exact ⟨hwell, hsame, hkeypad⟩

end Waiting

/-- Without a press kept, a halted machine stays as it is. -/
lemma resumed_of_no_press (hpending : m.keypad.pending = []) : m.resumed = m := by
  rw [resumed, hpending]

lemma resumed_of_press {code register : Int} (hpending : m.keypad.pending.head? = some code)
    (hwait : m.awaiting = some register) :
    m.resumed = { m with
      keypad := { m.keypad with pending := m.keypad.pending.tail }
      registers := put m.registers (residue 16 sixteen_pos register) (code % 16)
      awaiting := none }.reported (.keyStored code register) := by
  obtain ⟨rest, hrest⟩ := List.head?_eq_some_iff.1 hpending
  rw [resumed, hrest, hwait]
  rfl

end Machine

section Sessions

variable {τ : Type} [Duration τ] {around : Surroundings} {start m : Machine} {struck : List Int}
  {down : Vector Bool 16}

/-- An event adds the press that it makes, if it strikes a key. A step adds nothing as long as no press was made. -/
lemma leads_event (around : Surroundings) (hwait : start.awaiting.isSome) {command : Command τ}
    (hevent : command.isEvent) (hquiet : command.isStep → struck = []) :
    Leads (fun c : Console τ => start.Waiting struck down c.machine)
      (fun c => start.Waiting (struck ++ (command.strike? down).toList) (command.keysAfter down) c.machine)
      (Session.perform around command) := by
  cases command with
  | press code =>
    have hpress : Leads (start.Waiting struck down) _ (Action.pressKey code) := fun _ hm => hm.pressed code
    exact leads_map _ (leads_onMachine hpress)
  | release code =>
    have hrelease : Leads (start.Waiting struck down) _ (Action.releaseKey code) := fun _ hm => (hm.released code).quiet
    exact leads_map _ (leads_onMachine hrelease)
  | update elapsed => exact leads_map _ fun c hc => (keeps_update (fun _ hm => hm.ticked) elapsed c hc).quiet
  | tick => exact fun c hc => (keeps_silently (keeps_tick fun _ hm => hm.ticked) c hc).quiet
  | stepMachine =>
    refine leads_map _ (leads_onMachine fun m hm => ?_)
    have hstill : m.awaiting.isSome := by
      rw [hm.same]
      exact hwait
    have hpending : m.keypad.pending = [] := by
      rw [hm.keypad, hquiet rfl]
      rfl
    rw [Machine.step_of_waiting hm.wellFormed hstill, Machine.resumed_of_no_press hpending]
    exact hm.quiet
  | _ => cases hevent

lemma Machine.Waiting.run (hwait : start.awaiting.isSome) {c : Console τ} (h : start.Waiting struck down c.machine)
    {commands : List (Command τ)} (hevent : ∀ command ∈ commands, command.isEvent)
    (hquiet : ∀ n < commands.length, (commands[n]?).any Command.isStep →
      struck ++ Session.strikes down (commands.take n) = []) :
    ∃ down', start.Waiting (struck ++ Session.strikes down commands) down'
      (Session.run around commands c).2.machine := by
  induction commands generalizing c struck down with
  | nil =>
    rw [Session.strikes, List.append_nil]
    exact ⟨down, h⟩
  | cons command rest ih =>
    have hnow : command.isStep → struck = [] := by
      intro hstep
      have hnone := hquiet 0 (Nat.zero_lt_succ _) hstep
      rwa [List.take_zero, Session.strikes, List.append_nil] at hnone
    have hnext := leads_event around hwait (hevent command List.mem_cons_self) hnow c h
    rw [← answer_eq_ending] at hnext
    have hlater : ∀ n < rest.length, (rest[n]?).any Command.isStep →
        struck ++ (command.strike? down).toList ++ Session.strikes (command.keysAfter down) (rest.take n) = [] := by
      intro n hn hstep
      have hnone := hquiet (n + 1) (Nat.succ_lt_succ hn) hstep
      rwa [List.take_succ_cons, Session.strikes, ← List.append_assoc] at hnone
    rw [Session.strikes, ← List.append_assoc]
    exact ih hnext (fun command hmem => hevent command (List.mem_cons_of_mem _ hmem)) hlater

/-- What an instruction that awaits a key leaves behind. -/
lemma Machine.waiting_of_awaitKey {m next : Machine} {x : Register} (hm : m.WellFormed)
    (hawait : Action.step around m = .ok (some (.awaitKey x)) next) :
    next.awaiting = some (x.val : Int) ∧ next.Waiting [] m.keypad.down next := by
  have hnext := step_keeps_wellFormed around m hm
  have hstep := step_stepped around hm
  rw [hawait] at hstep hnext
  cases hstep with
  | executed _ _ _ _ => exact ⟨rfl, hnext, rfl, rfl⟩

/-- A halted machine changes nothing but its keys, timers and trace until a key that was up goes down; the next step
stores the oldest such press and ends the halt. -/
theorem key_wait_protocol {c : Console τ} {x : Register} (hm : m.WellFormed)
    (hawait : Action.step around m = .ok (some (.awaitKey x)) c.machine) (commands : List (Command τ))
    (hevent : ∀ command ∈ commands, command.isEvent)
    (hquiet : ∀ n < commands.length, (commands[n]?).any Command.isStep →
      Session.strikes m.keypad.down (commands.take n) = []) :
    let struck := Session.strikes m.keypad.down commands
    let after := (Session.run around commands c).2.machine
    c.machine.keypad = ⟨m.keypad.down, []⟩ ∧
    after.awaiting = some (x.val : Int) ∧
    after = { c.machine with
      keypad := after.keypad, delay := after.delay, sound := after.sound, reports := after.reports } ∧
    ((struck = [] ∧ Action.step around after = .ok none after) ∨
      ∃ code, struck[struck.length - 16]? = some code ∧ Action.step around after = .ok none
        ({ after with
          keypad := { after.keypad with pending := after.keypad.pending.tail }
          registers := put after.registers x (code % 16)
          awaiting := none }.reported (.keyStored code x.val))) ∧
    ∀ code ∈ struck, ∀ key, slot? 16 code = some key → m.keypad.down.get key = true →
      ∃ released, Command.release released ∈ commands ∧ slot? 16 released = some key := by
  intro struck after
  obtain ⟨hregister, hstart⟩ := Machine.waiting_of_awaitKey hm hawait
  have hwait : c.machine.awaiting.isSome := by
    rw [hregister]
    rfl
  obtain ⟨down, hwaiting⟩ : ∃ down, c.machine.Waiting struck down after := hstart.run hwait hevent hquiet
  have hstill : after.awaiting = some (x.val : Int) := by
    rw [hwaiting.same]
    exact hregister
  have hhalted : after.awaiting.isSome := by
    rw [hstill]
    rfl
  have hkept : after.keypad.pending = Keypad.newest struck := by rw [hwaiting.keypad]
  have hstep : Action.step around after = _ := Machine.step_of_waiting hwaiting.wellFormed hhalted
  refine ⟨hstart.keypad, hstill, hwaiting.same, ?_, fun code hcode key => release_of_mem_strikes hcode⟩
  cases holdest : struck[struck.length - 16]? with
  | none =>
    have hnone : struck = [] := by
      rw [List.getElem?_eq_none_iff] at holdest
      apply List.eq_nil_of_length_eq_zero
      omega
    have hpending : after.keypad.pending = [] := by
      rw [hkept, hnone]
      rfl
    rw [Machine.resumed_of_no_press hpending] at hstep
    exact .inl ⟨hnone, hstep⟩
  | some code =>
    have hpending : after.keypad.pending.head? = some code := by rw [hkept, Keypad.head?_newest, holdest]
    have hslot : residue 16 sixteen_pos (x.val : Int) = x := residue_val sixteen_pos x
    rw [Machine.resumed_of_press hpending hstill, hslot] at hstep
    exact .inr ⟨code, rfl, hstep⟩

/-- A key held since before the halt is no use, but another one is; its code counts from the end. -/
theorem key_wait_protocol_held :
    let around : Surroundings := ⟨Dialect.modern, fun _ => 0⟩
    let m : Machine := { Machine.fresh with
      memory := Memory.write (Vector.replicate 4096 0) 0x200 [0xF3, 0x0A]
      keypad := ⟨put (Vector.replicate 16 false) 5 true, [5]⟩ }
    let c : Console Rat :=
      { Console.fresh none with machine := ((m.fetched 0xF30A).effect around (.awaitKey 3)).counted }
    let commands : List (Command Rat) := [.stepMachine, .press 5, .tick, .stepMachine, .press (-1), .press 5, .press 2]
    let after := (Session.run around commands c).2.machine
    m.WellFormed ∧ Session.strikes m.keypad.down commands = [-1, 2] ∧
      ∃ next, Action.step around after = .ok none next ∧ next.registers = put after.registers 3 15 := by
  intro around m c commands after
  have hone : m.keypad.pending.length ≤ 16 := by decide
  have hm : m.WellFormed := { Machine.fresh_wellFormed.set_memory m.memory with pending := hone }
  have hword : m.word? = some 0xF30A := by decide +kernel
  have hawait : Action.step around m = .ok (some (.awaitKey 3)) c.machine :=
    Machine.step_of_free hm rfl hword rfl rfl
  have hevent : ∀ command ∈ commands, command.isEvent := by simp [commands, Command.isEvent]
  have hquiet : ∀ n < commands.length, (commands[n]?).any Command.isStep →
      Session.strikes m.keypad.down (commands.take n) = [] := by decide +kernel
  have hstruck : Session.strikes m.keypad.down commands = [-1, 2] := by decide +kernel
  obtain ⟨_, _, _, hstep, _⟩ := key_wait_protocol hm hawait commands hevent hquiet
  rw [hstruck] at hstep
  rcases hstep with ⟨hnone, _⟩ | ⟨code, holdest, hstep⟩
  · cases hnone
  · have hcode : -1 = code := Option.some.inj holdest
    subst hcode
    have hfifteen : (-1 : Int) % 16 = 15 := by decide
    rw [hfifteen] at hstep
    exact ⟨hm, hstruck, _, hstep, rfl⟩

end Sessions

end Chip8
