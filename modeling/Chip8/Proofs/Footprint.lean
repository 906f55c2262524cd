import Chip8.Proofs.Invariant
import Chip8.Proofs.Reset
import Chip8.Proofs.Starts

/-!
# Footprints

What each instruction may change, said for every part of the machine, and where the counter goes, in one of five ways.
Memory changes only by the two instructions that store, so a program that executes neither of them runs the words that
were loaded. Main statement: `step_footprint`.
-/

namespace Chip8

/-- Whether the flag register is written besides the first operand. -/
def Combination.setsFlag : Combination → Bool
  | .copy | .bitOr | .bitAnd | .bitXor => false
  | _ => true

namespace Instruction

/-- How many bytes are stored from the index register on. -/
def storedBytes : Instruction → Nat
  | .storeDigits _ => 3
  | .storeRegisters last => last.val + 1
  | _ => 0

def writesRegister (z : Register) : Instruction → Bool
  | .setConstant x _ | .addConstant x _ | .random x _ | .readDelay x => z = x
  | .combine how x _ => z = x || (how.setsFlag && z = flagRegister)
  | .draw .. => z = flagRegister
  | .loadRegisters last => z ≤ last
  | _ => false

def setsIndex : Instruction → Bool
  | .setIndex _ | .addIndex _ | .pointAtGlyph _ => true
  | _ => false

def setsDelay : Instruction → Bool
  | .setDelay _ => true
  | _ => false

def setsSound : Instruction → Bool
  | .setSound _ => true
  | _ => false

def drawsOnScreen : Instruction → Bool
  | .clearScreen | .draw .. => true
  | _ => false

def awaitsKey : Instruction → Bool
  | .awaitKey _ => true
  | _ => false

def randomBytes : Instruction → Nat
  | .random .. => 1
  | _ => 0

end Instruction

namespace Machine

def stackAfter (m : Machine) : Instruction → Vector Int 16
  | .call _ => put m.stack (stackSlot m.depth) (m.counter + 2)
  | _ => m.stack

def depthAfter (m : Machine) : Instruction → Int
  | .call _ => m.depth + 1
  | .returnFromCall => m.depth - 1
  | _ => m.depth

/-- The address of the next instruction. -/
def counterAfter (m : Machine) : Instruction → Int
  | .jump target | .call target => target.val
  | .jumpFromFirst base => base.val + m.registers.get firstRegister
  | .returnFromCall => m.stack.get (stackSlot (m.depth - 1))
  | .skip condition => if m.meets condition then m.counter + 4 else m.counter + 2
  | _ => m.counter + 2

/-- All that a machine has done that went on to `next` by executing an instruction. -/
structure Footprint (m : Machine) (i : Instruction) (next : Machine) : Prop where
  fetched : ∃ word, m.word? = some word ∧ Instruction.decode word = some i
  memory (a : Fin 4096) : (a.val : Int) < m.index ∨ m.index + i.storedBytes ≤ a.val →
    next.memory.get a = m.memory.get a
  registers (z : Register) : i.writesRegister z = false → next.registers.get z = m.registers.get z
  index : i.setsIndex = false → next.index = m.index
  stack : next.stack = m.stackAfter i
  depth : next.depth = m.depthAfter i
  delay : i.setsDelay = false → next.delay = m.delay
  sound : i.setsSound = false → next.sound = m.sound
  screen : i.drawsOnScreen = false → next.screen = m.screen ∧ next.dirty = m.dirty
  down : next.keypad.down = m.keypad.down
  pending : next.keypad.pending = if i.awaitsKey then [] else m.keypad.pending
  drawn : next.drawn = m.drawn + i.randomBytes
  awaiting : i.awaitsKey = false → next.awaiting = m.awaiting
  executed : next.executed = m.executed + 1
  counter : next.counter = m.counterAfter i
  tracing : next.tracing = m.tracing

section Effects

variable {around : Surroundings} {m : Machine} {i : Instruction}

lemma get_write_outside (memory : Memory) {start : Nat} {bytes : List UInt8} {a : Fin 4096}
    (houtside : a.val < start ∨ start + bytes.length ≤ a.val) : (memory.write start bytes).get a = memory.get a := by
  change (memory.write start bytes)[a.val] = memory[a.val]
  rw [Memory.getElem_write]
  by_cases hle : start ≤ a.val
  · have hpast : bytes.length ≤ a.val - start := by omega
    rw [if_pos hle, List.getElem?_eq_none hpast, Option.getD_none]
  · rw [if_neg hle]

lemma get_write_at (memory : Memory) (start : Int) {bytes : List UInt8} {k : Nat} (h0 : 0 ≤ start)
    (hk : k < bytes.length) (hfit : start + bytes.length ≤ 4096) :
    (memory.write start.toNat bytes).get (cell (start + k)) = bytes[k] := by
  have hcell : ((cell (start + k)).val : Int) = start + k := residue_of_lt _ (by omega) (by omega)
  have hplace : (cell (start + k)).val - start.toNat = k := by omega
  change (memory.write start.toNat bytes)[(cell (start + k)).val] = _
  rw [Memory.getElem_write, if_pos (by omega), hplace, List.getElem?_eq_getElem hk, Option.getD_some]

lemma effect_skip (condition : Condition) :
    m.effect around (.skip condition) =
      { m with counter := if m.meets condition then m.counter + 2 else m.counter } := by
  rw [effect]
  split <;> rfl

lemma memory_effect (around : Surroundings) (hm : m.WellFormed) {a : Fin 4096}
    (houtside : (a.val : Int) < m.index ∨ m.index + i.storedBytes ≤ a.val) :
    (m.effect around i).memory.get a = m.memory.get a := by
  have hindex := hm.index
  cases i with
  | storeDigits x =>
    apply get_write_outside
    simp only [Instruction.storedBytes, digits, List.length_cons, List.length_nil] at houtside ⊢
    omega
  | storeRegisters last =>
    apply get_write_outside
    rw [length_firstBytes (by omega)]
    simp only [Instruction.storedBytes] at houtside
    omega
  | skip condition => rw [effect_skip]
  | loadRegisters last => rw [effect]
  | _ => rfl

lemma get_combined_of_ne {how : Combination} {x y z : Register}
    (hkept : (Instruction.combine how x y).writesRegister z = false) :
    (m.combined around how x y).get z = m.registers.get z := by
  have hne : z ≠ x ∧ (how.setsFlag = true → z ≠ flagRegister) := by simpa [Instruction.writesRegister] using hkept
  have hflag (value flag : Int) (hsets : how.setsFlag = true) :
      (put (put m.registers x value) flagRegister flag).get z = m.registers.get z := by
    rw [get_put, if_neg (hne.2 hsets).symm, get_put, if_neg hne.1.symm]
  have hplain (value : Int) : (put m.registers x value).get z = m.registers.get z := by
    rw [get_put, if_neg hne.1.symm]
  cases how with
  | copy | bitOr | bitAnd | bitXor => exact hplain _
  | add | subtract | shiftRight | subtractFrom | shiftLeft => exact hflag _ _ rfl

lemma registers_effect (around : Surroundings) {z : Register} (hkept : i.writesRegister z = false) :
    (m.effect around i).registers.get z = m.registers.get z := by
  have hput (x : Register) (value : Int) (hne : decide (z = x) = false) :
      (put m.registers x value).get z = m.registers.get z := by
    rw [get_put, if_neg (Ne.symm (of_decide_eq_false hne))]
  cases i with
  | setConstant x _ | addConstant x _ | random x _ | readDelay x => exact hput x _ hkept
  | draw x y height => exact hput flagRegister _ hkept
  | combine how x y => exact get_combined_of_ne hkept
  | loadRegisters last =>
    have hpast : ¬z.val < last.val + 1 := by
      have hlast : ¬z.val ≤ last.val := of_decide_eq_false hkept
      omega
    rw [effect]
    change (Vector.ofFn _)[z.val] = _
    rw [Vector.getElem_ofFn]
    exact if_neg hpast
  | skip condition => rw [effect_skip]
  | _ => rfl

/-- The parts of a machine that an instruction touches only if it is of the right kind. -/
lemma effect_eq (around : Surroundings) (m : Machine) (i : Instruction) :
    m.effect around i =
      { m.effect around i with
        index := if i.setsIndex then (m.effect around i).index else m.index
        delay := if i.setsDelay then (m.effect around i).delay else m.delay
        sound := if i.setsSound then (m.effect around i).sound else m.sound
        awaiting := if i.awaitsKey then (m.effect around i).awaiting else m.awaiting
        screen := if i.drawsOnScreen then (m.effect around i).screen else m.screen
        dirty := if i.drawsOnScreen then (m.effect around i).dirty else m.dirty
        keypad := ⟨m.keypad.down, if i.awaitsKey then [] else m.keypad.pending⟩
        drawn := m.drawn + i.randomBytes
        executed := m.executed
        tracing := m.tracing } := by
  cases i with
  | skip condition =>
    rw [effect_skip]
    rfl
  | loadRegisters last =>
    rw [effect]
    rfl
  | _ => rfl

lemma stack_effect (around : Surroundings) (m : Machine) (word : Word) (i : Instruction) :
    ((m.fetched word).effect around i).stack = m.stackAfter i ∧
      ((m.fetched word).effect around i).depth = m.depthAfter i ∧
      ((m.fetched word).effect around i).counter = m.counterAfter i := by
  cases i with
  | skip condition =>
    rw [effect_skip]
    refine ⟨rfl, rfl, ?_⟩
    change (if m.meets condition then m.counter + 2 + 2 else m.counter + 2) = _
    rw [Int.add_assoc]
    rfl
  | loadRegisters last =>
    rw [effect]
    exact ⟨rfl, rfl, rfl⟩
  | _ => exact ⟨rfl, rfl, rfl⟩

/-- An instruction that completes leaves its footprint. -/
lemma footprint_effect (around : Surroundings) (hm : m.WellFormed) {word : Word} (hword : m.word? = some word)
    (hdecode : Instruction.decode word = some i) :
    m.Footprint i ((m.fetched word).effect around i).counted := by
  have hmemory {a : Fin 4096} := memory_effect around (i := i) (a := a) (hm.fetched hword)
  have hregisters {z : Register} := registers_effect around (m := m.fetched word) (i := i) (z := z)
  obtain ⟨hstack, hdepth, hcounter⟩ := stack_effect around m word i
  have heq := effect_eq around (m.fetched word) i
  generalize (m.fetched word).effect around i = next at *
  exact
    { fetched := ⟨word, hword, hdecode⟩
      memory := fun a => hmemory
      registers := fun z => hregisters
      index := fun hkept => by rw [heq, hkept]; rfl
      stack := hstack
      depth := hdepth
      delay := fun hkept => by rw [heq, hkept]; rfl
      sound := fun hkept => by rw [heq, hkept]; rfl
      screen := fun hkept => by rw [heq, hkept]; exact ⟨rfl, rfl⟩
      down := by rw [heq]; rfl
      pending := by rw [heq]; rfl
      drawn := by rw [heq]; rfl
      awaiting := fun hkept => by rw [heq, hkept]; rfl
      executed := by rw [heq]; rfl
      counter := hcounter
      tracing := by rw [heq]; rfl }

end Effects

lemma memory_eq_of_footprint {m next : Machine} {i : Instruction} (h : m.Footprint i next)
    (hnone : i.storedBytes = 0) : next.memory = m.memory := by
  apply Vector.ext
  intro a ha
  have houtside : (a : Int) < m.index ∨ m.index + (i.storedBytes : Int) ≤ a := by omega
  exact h.memory ⟨a, ha⟩ houtside

variable {image : Memory} {around : Surroundings} {m : Machine}

lemma memory_apart (image : Memory) : Apart fun m => m.memory = image := fun _ _ _ _ _ _ _ h => h

lemma executed_apart (n : Nat) : Apart fun m => m.executed = n := fun _ _ _ _ _ _ _ h => h

/-- A machine in range whose memory is the given one. -/
def Holds (image : Memory) (m : Machine) : Prop := m.WellFormed ∧ m.memory = image

lemma holds_keptAside : KeptAside (Holds image) := (memory_apart image).keptAside

/-- A step that stores nothing leaves the memory as it is. -/
lemma holds_step (h : m.Holds image) (hquiet : ∀ i, m.Completes around i → i.storedBytes = 0) :
    (ending (Action.step around m)).Holds image := by
  refine ⟨step_keeps_wellFormed around m h.1, ?_⟩
  have hstep := step_stepped around h.1
  generalize hrun : Action.step around m = result at hstep
  cases hstep with
  | waited _ => exact (memory_apart image).resumed h.2
  | ranOut _ _ => exact h.2
  | stopped _ _ _ => exact h.2
  | executed _ hword hdecode _ =>
    have hprint := footprint_effect around h.1 hword hdecode
    exact (memory_eq_of_footprint hprint (hquiet _ ⟨_, hrun⟩)).trans h.2

/-- The number of instructions executed grows with each step that completes one, and with no other. -/
lemma tally_executed (around : Surroundings) :
    Tally WellFormed executed (fun n m => n + (m.completed? around).toList.length) around where
  ticked m hm := ⟨hm.ticked, rfl⟩
  stepped m hm := by
    refine ⟨step_keeps_wellFormed around m hm, ?_⟩
    have hstep := step_stepped around hm
    unfold completed?
    generalize Action.step around m = result at hstep
    cases hstep with
    | waited _ => exact (executed_apart m.executed).resumed rfl
    | ranOut _ _ => rfl
    | stopped _ _ _ => rfl
    | executed _ hword hdecode _ => exact (footprint_effect around hm hword hdecode).executed

end Machine

section Sessions

variable {τ : Type} [Duration τ]

/-- Memory after a program was loaded. -/
def Memory.loaded (program : List UInt8) : Memory := Memory.fresh.write programStart program

/-- A reset brings every field into its range, whatever was in it before. -/
lemma Machine.wellFormed_resetPanel_resetState (m : Machine) : m.resetState.resetPanel.WellFormed where
  registers x := by simp [resetState, resetPanel, Vector.get]
  index := by simp [resetState, resetPanel]
  counter := by simp [resetState, resetPanel, programStart]
  depth := by simp [resetState, resetPanel]
  stack i := by simp [resetState, resetPanel, Vector.get]
  delay := by simp [resetState, resetPanel]
  sound := by simp [resetState, resetPanel]
  awaiting x hx := by cases hx
  pending := by simp [resetPanel, Keypad.idle]

lemma Console.wellFormed_renewed (c : Console τ) : c.renewed.machine.WellFormed := by
  have hreset := c.machine.wellFormed_resetPanel_resetState
  unfold Console.renewed
  generalize c.machine.resetState.resetPanel = m at hreset ⊢
  exact { hreset with }

/-- A console that is only played on counts the instructions that the steps complete. -/
theorem executed_run {around : Surroundings} {c : Console τ} (hc : c.machine.WellFormed) {commands : List (Command τ)}
    (hplays : ∀ command ∈ commands, command.plays) :
    (Session.run around commands c).2.machine.executed =
      c.machine.executed + ((Session.starts around commands c).filterMap (·.completed? around)).length := by
  have hfold (n : Nat) (starts : List Machine) :
      starts.foldl (fun n m => n + (m.completed? around).toList.length) n =
        n + (starts.filterMap (·.completed? around)).length := by
    induction starts generalizing n with
    | nil => rfl
    | cons m starts ih =>
      rw [List.foldl_cons, ih]
      cases hcompleted : m.completed? around with
      | none => rw [List.filterMap_cons_none hcompleted]; rfl
      | some i =>
        rw [List.filterMap_cons_some hcompleted, List.length_cons, Option.toList_some, List.length_singleton,
          Nat.add_assoc, Nat.add_comm 1]
  have hcommands (command : Command τ) (hmem : command ∈ commands) :=
    (plays_cases (hplays command hmem)).imp_right fun hstill => And.intro hstill.1 fun a =>
      (Machine.executed_apart a).keptAside.perform around hstill.2
  rw [(tally_run (Machine.tally_executed around) hcommands hc).2, hfold]

lemma holds_loaded {any c : Console τ} {program : List UInt8} (hload : Console.load program any = .ok () c) :
    c.machine.Holds (Memory.loaded program) := by
  obtain hfit | hlarge := le_or_gt program.length programLimit
  · rw [load_of_fits hfit] at hload
    cases hload
    exact ⟨Console.wellFormed_renewed _, rfl⟩
  · rw [load_of_large hlarge] at hload
    cases hload

/-- A step that executes an instruction changes what the instruction is for. After a load, sessions in which no step
stores fetch the words that were loaded. -/
theorem step_footprint (around : Surroundings) :
    (∀ (m next : Machine) (i : Instruction), m.WellFormed → Action.step around m = .ok (some i) next →
      m.Footprint i next) ∧
    ∀ (any c : Console τ) (program : List UInt8) (commands : List (Command τ)),
      Console.load program any = .ok () c → (∀ command ∈ commands, command.plays) →
      (∀ m ∈ Session.starts around commands c, ∀ x,
        ¬m.Completes around (.storeDigits x) ∧ ¬m.Completes around (.storeRegisters x)) →
      ∀ m ∈ Session.starts around commands c, ∀ word next, Action.fetch m = .ok word next →
        word = Word.ofBytes ((Memory.loaded program).get (Machine.cell m.counter))
          ((Memory.loaded program).get (Machine.cell (m.counter + 1))) := by
  constructor
  · intro m next i hm hrun
    have hstep := Machine.step_stepped around hm
    rw [hrun] at hstep
    cases hstep with
    | executed _ hword hdecode _ => exact Machine.footprint_effect around hm hword hdecode
  · intro any c program commands hload hplays hstill
    have haside : KeptAside (Machine.Holds (Memory.loaded program)) := Machine.holds_keptAside
    have hholds : ∀ m ∈ Session.starts around commands c, m.Holds (Memory.loaded program) := by
      refine guarded_starts haside.ticked (fun m hm hquiet => Machine.holds_step hm hquiet) ?_ (holds_loaded hload) ?_
      · intro command hmem
        exact (plays_cases (hplays command hmem)).imp_right (And.imp_right (haside.perform around))
      · intro m hm i hcompletes
        cases i with
        | storeDigits x => exact absurd hcompletes (hstill m hm x).1
        | storeRegisters last => exact absurd hcompletes (hstill m hm last).2
        | _ => rfl
    intro m hm word next hfetch
    obtain ⟨hwell, hmemory⟩ : m.WellFormed ∧ m.memory = Memory.loaded program := hholds m hm
    rw [Action.fetch_run hwell.counter.1, Machine.word?] at hfetch
    split at hfetch
    · rename_i hword
      split at hword
      · cases hfetch
        cases hword
        rw [hmemory]
      · cases hword
    · cases hfetch

theorem step_footprint_clear :
    let around : Surroundings := ⟨Dialect.modern, fun _ => 7⟩
    ∃ (c : Console Rat) (next : Machine) (word : Word) (after : Machine), c.machine.WellFormed ∧
      Action.step around c.machine = .ok (some .clearScreen) next ∧
      c.machine.Footprint .clearScreen next ∧ Console.load [0x00, 0xE0] (Console.fresh (some 60)) = .ok () c ∧
      c.machine ∈ Session.starts around [.stepMachine, .press 3] c ∧ Action.fetch c.machine = .ok word after ∧
      word = Word.ofBytes ((Memory.loaded [0x00, 0xE0]).get (Machine.cell c.machine.counter))
        ((Memory.loaded [0x00, 0xE0]).get (Machine.cell (c.machine.counter + 1))) := by
  intro around
  have hfit : [(0x00 : UInt8), 0xE0].length ≤ programLimit := by decide
  let c : Console Rat := { Console.fresh (some 60) with program := ⟨[0x00, 0xE0], hfit⟩ }.renewed
  have hm : c.machine.WellFormed := Console.wellFormed_renewed _
  have hload : Console.load [0x00, 0xE0] (Console.fresh (some (60 : Rat))) = .ok () c := load_of_fits hfit _
  have hfirst : c.machine.memory.get (Machine.cell c.machine.counter) = 0x00 := by
    change (Memory.fresh.write 512 [0x00, 0xE0])[512] = 0x00
    rw [Memory.getElem_write]
    rfl
  have hsecond : c.machine.memory.get (Machine.cell (c.machine.counter + 1)) = 0xE0 := by
    change (Memory.fresh.write 512 [0x00, 0xE0])[513] = 0xE0
    rw [Memory.getElem_write]
    rfl
  have hword : c.machine.word? = some 0x00E0 := by
    rw [Machine.word?, hfirst, hsecond]
    rfl
  have hfetch : Action.fetch c.machine = .ok 0x00E0 { c.machine with counter := c.machine.counter + 2 } := by
    rw [Action.fetch_run hm.counter.1, hword]
  have hstep : Action.step around c.machine =
      .ok (some .clearScreen) ((c.machine.fetched 0x00E0).effect around .clearScreen).counted :=
    Machine.step_of_free hm rfl hword rfl rfl
  obtain ⟨hprint, hrun⟩ := @step_footprint Rat _ around
  have hplays : ∀ command ∈ ([.stepMachine, .press 3] : List (Command Rat)), command.plays := by
    simp [Command.plays, Command.takesSteps, Command.isAside]
  have hstarts : Session.starts around [.stepMachine, .press 3] c = [c.machine] := rfl
  have hstill : ∀ m ∈ Session.starts around [.stepMachine, .press 3] c, ∀ x,
      ¬m.Completes around (.storeDigits x) ∧ ¬m.Completes around (.storeRegisters x) := by
    rw [hstarts]
    simp [Machine.Completes, hstep]
  have hmem : c.machine ∈ Session.starts around [.stepMachine, .press 3] c := List.mem_singleton_self _
  exact ⟨c, _, _, _, hm, hstep, hprint _ _ _ hm hstep, hload, hmem, hfetch,
    hrun _ c _ _ hload hplays hstill _ hmem _ _ hfetch⟩

end Sessions

end Chip8
