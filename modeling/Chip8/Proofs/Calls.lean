import Chip8.Proofs.Invariant

/-!
# Calls and returns

A call stores where it came from on top of the stack. While nothing returns from it, pushes and pops happen above
that place, so the return that matches it goes back behind it. Main statement: `call_return_match`, for sessions in
which the console runs and nobody resets it or writes to it.
-/

namespace Chip8

namespace Machine

/-- What can become of the stack: nothing, an address pushed on it, or one popped from it to go on from. -/
inductive StackMove (m m' : Machine) : Prop
  | kept (hstack : m'.stack = m.stack) (hdepth : m'.depth = m.depth)
  | pushed (address : Int) (hstack : m'.stack = put m.stack (stackSlot m.depth) address)
    (hdepth : m'.depth = m.depth + 1)
  | popped (hstack : m'.stack = m.stack) (hdepth : m'.depth = m.depth - 1)
    (hcounter : m'.counter = m.stack.get (stackSlot (m.depth - 1)))

/-- A machine inside of a call that another one was about to make. -/
structure Inside (m inner : Machine) : Prop where
  wellFormed : inner.WellFormed
  deeper : m.depth < inner.depth
  source : inner.stack.get (stackSlot m.depth) = m.counter + 2
  below : ∀ i : Fin 16, i.val < m.depth → inner.stack.get i = m.stack.get i

structure Back (m after : Machine) : Prop where
  depth : after.depth = m.depth
  counter : after.counter = m.counter + 2
  below : ∀ i : Fin 16, i.val < m.depth → after.stack.get i = m.stack.get i

variable {around : Surroundings} {m inner next : Machine}

lemma get_put_of_lt (hdepth : 0 ≤ inner.depth ∧ inner.depth < 16) (address : Int) {i : Fin 16}
    (hi : i.val < inner.depth) :
    (put inner.stack (stackSlot inner.depth) address).get i = inner.stack.get i := by
  have hslot : ((stackSlot inner.depth).val : Int) = inner.depth := residue_of_lt (by omega) hdepth.1 hdepth.2
  rw [get_put, if_neg]
  intro heq
  rw [heq] at hslot
  omega

/-- From inside of a call a move of the stack leads back or stays inside. -/
lemma Inside.move (hm : m.WellFormed) (hinside : m.Inside inner) (hmove : inner.StackMove next)
    (hnext : next.WellFormed) : m.Inside next ∨ m.Back next := by
  have hdepth := hm.depth
  have hinner := hinside.wellFormed.depth
  have hafter := hnext.depth
  have hdeeper := hinside.deeper
  have hslot : ((stackSlot m.depth).val : Int) = m.depth := residue_of_lt (by omega) hdepth.1 (by omega)
  cases hmove with
  | kept hstack hsame =>
    left
    refine ⟨hnext, by omega, ?_, ?_⟩
    · rw [hstack, hinside.source]
    · rw [hstack]
      exact hinside.below
  | pushed address hstack hmore =>
    left
    have hroom : 0 ≤ inner.depth ∧ inner.depth < 16 := by omega
    refine ⟨hnext, by omega, ?_, ?_⟩
    · rw [hstack, get_put_of_lt hroom address (by omega), hinside.source]
    · intro i hi
      rw [hstack, get_put_of_lt hroom address (by omega), hinside.below i hi]
  | popped hstack hless hcounter =>
    -- what is popped was pushed by this call, or by one inside of it
    by_cases hlast : inner.depth - 1 = m.depth
    · right
      refine ⟨by omega, ?_, ?_⟩
      · rw [hcounter, hlast, hinside.source]
      · rw [hstack]
        exact hinside.below
    · left
      refine ⟨hnext, by omega, ?_, ?_⟩
      · rw [hstack, hinside.source]
      · rw [hstack]
        exact hinside.below

lemma stackMove_effect (around : Surroundings) (m : Machine) (i : Instruction) : m.StackMove (m.effect around i) := by
  cases i with
  | call target => exact .pushed m.counter rfl rfl
  | returnFromCall => exact .popped rfl rfl rfl
  | skip condition =>
    rw [effect]
    split
    · exact .kept rfl rfl
    · exact .kept rfl rfl
  | loadRegisters last =>
    rw [effect]
    exact .kept rfl rfl
  | _ => exact .kept rfl rfl

lemma stack_apart (stack : Vector Int 16) (depth : Int) : Apart fun m => m.stack = stack ∧ m.depth = depth :=
  fun _ _ _ _ _ _ _ h => h

lemma stack_resumed (m : Machine) : m.resumed.stack = m.stack ∧ m.resumed.depth = m.depth :=
  (stack_apart m.stack m.depth).resumed ⟨rfl, rfl⟩

/-- However a step ends, it has made a move of the stack. -/
theorem stackMove_step (around : Surroundings) (hm : m.WellFormed) :
    m.StackMove (ending (Action.step around m)) := by
  have hstep := step_stepped around hm
  generalize Action.step around m = result at hstep ⊢
  cases hstep with
  | waited _ => exact .kept m.stack_resumed.1 m.stack_resumed.2
  | ranOut _ _ => exact .kept rfl rfl
  | stopped _ _ _ => exact .kept rfl rfl
  | @executed word i _ _ _ _ =>
    have hmove := stackMove_effect around (m.fetched word) i
    generalize (m.fetched word).effect around i = next at hmove ⊢
    cases hmove with
    | kept hstack hdepth => exact .kept hstack hdepth
    | pushed address hstack hdepth => exact .pushed address hstack hdepth
    | popped hstack hdepth hcounter => exact .popped hstack hdepth hcounter

lemma inside_of_call (hm : m.WellFormed) {target : Address}
    (hcall : Action.step around m = .ok (some (.call target)) next) : m.Inside next := by
  have hdepth := hm.depth
  have hnext := step_keeps_wellFormed around m hm
  have hstep := step_stepped around hm
  rw [hcall] at hstep hnext
  cases hstep with
  | @executed word _ _ _ _ hfree =>
    have hroom : m.depth ≠ 16 := by
      intro hfull
      simp [obstacle, fetched, reported, hfull] at hfree
    refine ⟨hnext, ?_, ?_, ?_⟩
    · change m.depth < m.depth + 1
      omega
    · change (put m.stack (stackSlot m.depth) (m.counter + 2)).get (stackSlot m.depth) = m.counter + 2
      rw [get_put, if_pos rfl]
    · intro i hi
      exact get_put_of_lt ⟨hdepth.1, by omega⟩ _ hi

lemma inside_keptAside : KeptAside m.Inside where
  resumed inner hinside := by
    rw [ending_resumeOnKey hinside.wellFormed]
    obtain ⟨hstack, hdepth⟩ := inner.stack_resumed
    refine ⟨hinside.wellFormed.resumed, ?_, ?_, ?_⟩
    · rw [hdepth]
      exact hinside.deeper
    · rw [hstack]
      exact hinside.source
    · intro i hi
      rw [hstack]
      exact hinside.below i hi
  ticked inner h := ⟨h.wellFormed.ticked, h.deeper, h.source, h.below⟩
  pressed inner key code h := ⟨wellFormed_keptAside.pressed _ _ _ h.wellFormed, h.deeper, h.source, h.below⟩
  released inner key h := ⟨wellFormed_keptAside.released _ _ h.wellFormed, h.deeper, h.source, h.below⟩
  discarded inner h := ⟨wellFormed_keptAside.discarded _ h.wellFormed, h.deeper, h.source, h.below⟩
  polled inner h := ⟨wellFormed_keptAside.polled _ h.wellFormed, h.deeper, h.source, h.below⟩

end Machine

section Sessions

variable {τ : Type} {around : Surroundings} {m : Machine}

/-- Whether a command lets the machine run, moves keys, or lets time pass. -/
def Command.continues : Command τ → Bool
  | .step _ | .stepMachine => true
  | command => command.isAside

variable [Duration τ]

lemma leads_perform (around : Surroundings) (hm : m.WellFormed) {command : Command τ} (hrun : command.continues) :
    Leads (fun c : Console τ => m.Inside c.machine) (fun c => m.Inside c.machine ∨ m.Back c.machine)
      (Session.perform around command) := by
  have hstep : Leads m.Inside (fun next => m.Inside next ∨ m.Back next) (Action.step around) := by
    intro inner hinside
    have hmove := Machine.stackMove_step around hinside.wellFormed
    have hnext := Machine.step_keeps_wellFormed around inner hinside.wellFormed
    exact hinside.move hm hmove hnext
  have haside (h : command.isAside) :
      Keeps (fun c : Console τ => m.Inside c.machine) (Session.perform around command) :=
    Machine.inside_keptAside.perform around h
  cases command with
  | step elapsed =>
    have hupdate : Keeps (fun c : Console τ => m.Inside c.machine) (Console.update elapsed) :=
      keeps_update Machine.inside_keptAside.ticked elapsed
    exact leads_map _ (leads_bind hupdate (fun _ h => .inl h) fun _ => leads_onMachine hstep)
  | stepMachine => exact leads_map _ (leads_onMachine hstep)
  | _ =>
    intro c hinside
    exact .inl (haside hrun c hinside)

/-- As long as nothing returns from it, a session stays inside of a call. -/
lemma Machine.Inside.run (hm : m.WellFormed) {c : Console τ} (hinside : m.Inside c.machine)
    {commands : List (Command τ)} (hrun : ∀ command ∈ commands, command.continues)
    (hdeep : ∀ n ≤ commands.length, m.depth < (Session.run around (commands.take n) c).2.machine.depth) :
    m.Inside (Session.run around commands c).2.machine := by
  induction commands generalizing c with
  | nil => exact hinside
  | cons command rest ih =>
    have hfirst : command.continues := hrun command List.mem_cons_self
    have hrest : ∀ command ∈ rest, command.continues := fun x hx => hrun x (List.mem_cons_of_mem _ hx)
    have hnext : m.Inside (Session.answer around command c).2.machine := by
      have hcase := leads_perform around hm hfirst c hinside
      rw [← answer_eq_ending] at hcase
      rcases hcase with hstays | hback
      · exact hstays
      · -- the stack is still deeper after the first command, so it cannot have led back
        have hdeeper := hdeep 1 (by simp)
        have hdepth : (Session.answer around command c).2.machine.depth = m.depth := hback.depth
        change m.depth < (Session.answer around command c).2.machine.depth at hdeeper
        omega
    exact ih hnext hrest fun n hn => hdeep (n + 1) (by simpa using hn)

/-- A call is matched by the return that brings the stack back to where it was. -/
theorem call_return_match {c : Console τ} {target : Address} (hm : m.WellFormed)
    (hcall : Action.step around m = .ok (some (.call target)) c.machine) (commands : List (Command τ))
    (last : Command τ) (hrun : ∀ command ∈ commands ++ [last], command.continues)
    (hdeep : ∀ n ≤ commands.length, m.depth < (Session.run around (commands.take n) c).2.machine.depth)
    (hback : (Session.run around (commands ++ [last]) c).2.machine.depth = m.depth) :
    let after := (Session.run around (commands ++ [last]) c).2.machine
    after.counter = m.counter + 2 ∧ ∀ i : Fin 16, i.val < m.depth → after.stack.get i = m.stack.get i := by
  intro after
  have hinside := Machine.inside_of_call hm hcall
  have hlast : last.continues := hrun last (by simp)
  have hbefore : ∀ command ∈ commands, command.continues := fun x hx => hrun x (by simp [hx])
  have hdone := hinside.run hm hbefore hdeep
  have hafter : after = (Session.answer around last (Session.run around commands c).2).2.machine := by
    change (Session.run around (commands ++ [last]) c).2.machine = _
    rw [run_append]
    rfl
  have hcase := leads_perform around hm hlast _ hdone
  rw [← answer_eq_ending] at hcase
  rcases hcase with hstays | hreturned
  · rw [← hafter] at hstays
    have hdeeper := hstays.deeper
    change after.depth = m.depth at hback
    omega
  · rw [← hafter] at hreturned
    exact ⟨hreturned.counter, hreturned.below⟩

/-- A call whose subroutine calls another one, with a key and a tick in between. -/
theorem call_return_match_nested :
    let around : Surroundings := ⟨Dialect.modern, fun _ => 0⟩
    let program : List UInt8 := [0x22, 0x04, 0x00, 0x00, 0x22, 0x08, 0x00, 0xEE, 0x00, 0xEE]
    let m : Machine := { Machine.fresh with memory := Memory.write (Vector.replicate 4096 0) 0x200 program }
    let c : Console Rat :=
      { Console.fresh none with machine := ((m.fetched 0x2204).effect around (.call 0x204)).counted }
    let commands : List (Command Rat) := [.stepMachine, .press 3, .tick, .stepMachine]
    (Session.run around (commands ++ [.stepMachine]) c).2.machine.counter = 0x202 := by
  intro around program m c commands
  have hm : m.WellFormed := Machine.fresh_wellFormed.set_memory _
  have hword : m.word? = some 0x2204 := by decide +kernel
  have hcall : Action.step around m = .ok (some (.call 0x204)) c.machine :=
    Machine.step_of_free hm rfl hword rfl rfl
  have hdeep : ∀ n ≤ commands.length, m.depth < (Session.run around (commands.take n) c).2.machine.depth := by
    decide +kernel
  have hback : (Session.run around (commands ++ [.stepMachine]) c).2.machine.depth = m.depth := by decide +kernel
  have hrun : ∀ command ∈ commands ++ [.stepMachine], command.continues := by
    simp [commands, Command.continues, Command.isAside]
  exact (call_return_match hm hcall commands .stepMachine hrun hdeep hback).1

end Sessions

end Chip8
