import Chip8.Proofs.Actions

/-!
# What instructions do

The instructions once more, without the machinery of actions: `Machine.obstacle` says why an instruction cannot
complete on a machine whose counter is past it, `Machine.effect` is the machine after it has completed. Main
statements: executing an instruction is one or the other (`execute_run`), and a step of the machine ends in one of
the four ways of `Machine.Stepped` (`step_stepped`).
-/

namespace Chip8

namespace Machine

def meets (m : Machine) : Condition → Bool
  | .equalsConstant x kk => m.registers.get x = kk.val
  | .differsFromConstant x kk => m.registers.get x ≠ kk.val
  | .equalsRegister x y => m.registers.get x = m.registers.get y
  | .differsFromRegister x y => m.registers.get x ≠ m.registers.get y
  | .keyDown x => m.keypad.isDown (m.registers.get x)
  | .keyUp x => !m.keypad.isDown (m.registers.get x)

/-- Why an instruction cannot complete, if it cannot. The counter is past the instruction. -/
def obstacle (m : Machine) : Instruction → Option FaultCause
  | .returnFromCall => if m.depth = 0 then some .stackEmpty else none
  | .call _ => if m.depth = 16 then some .stackFull else none
  | .skip condition => if m.meets condition ∧ m.counter + 2 ≥ 4096 then some .skipOutside else none
  | .jumpFromFirst base =>
    if base.val + m.registers.get firstRegister ≥ 4096 then
      some (.jumpOutside (base.val + m.registers.get firstRegister))
    else none
  | .draw _ _ height => overrun m.index height.val
  | .addIndex x => overrun (m.index + m.registers.get x) 0
  | .storeDigits _ => overrun m.index 3
  | .storeRegisters last | .loadRegisters last => overrun m.index (last.val + 1)
  | _ => none

/-- The decimal digits of a value from the hundreds down. -/
def digits (value : Int) : List UInt8 :=
  [UInt8.ofNat (value / 100).toNat, UInt8.ofNat (value / 10 % 10).toNat, UInt8.ofNat (value % 10).toNat]

/-- The registers after one of them was combined with another one. -/
def combined (around : Surroundings) (m : Machine) (how : Combination) (x y : Register) : Vector Int 16 :=
  match how.result around.dialect.shiftUsesVy (m.registers.get x) (m.registers.get y) with
  | (value, none) => put m.registers x value
  | (value, some flag) => put (put m.registers x value) flagRegister flag

/-- The rows of a sprite that stands at the index register. -/
def sprite (m : Machine) (height : Fin 16) : List Int :=
  (m.memory.read m.index.toNat height.val).map fun byte => (byte.toNat : Int)

/-- The screen with a sprite drawn where two registers say, and whether a lit pixel was turned off. -/
def drawing (around : Surroundings) (m : Machine) (x y : Register) (height : Fin 16) : Bool × Screen :=
  m.screen.draw around.dialect.bitOrder (m.registers.get x) (m.registers.get y) (m.sprite height)

/-- The machine after an instruction has completed. The counter is past the instruction before. -/
def effect (around : Surroundings) (m : Machine) : Instruction → Machine
  | .clearScreen => { m with screen := .blank, dirty := true }
  | .returnFromCall => { m with counter := m.stack.get (stackSlot (m.depth - 1)), depth := m.depth - 1 }
  | .jump target => { m with counter := target.val }
  | .call target =>
    { m with
      stack := put m.stack (stackSlot m.depth) m.counter
      depth := m.depth + 1
      counter := target.val }
  | .skip condition => if m.meets condition then { m with counter := m.counter + 2 } else m
  | .setConstant x kk => { m with registers := put m.registers x kk.val }
  | .addConstant x kk => { m with registers := put m.registers x ((m.registers.get x + kk.val) % 256) }
  | .combine how x y => { m with registers := m.combined around how x y }
  | .setIndex target => { m with index := target.val }
  | .jumpFromFirst base => { m with counter := base.val + m.registers.get firstRegister }
  | .random x mask =>
    { m with
      registers := put m.registers x (((around.random m.drawn).toNat &&& mask.val : Nat) : Int)
      drawn := m.drawn + 1 }
  | .draw x y height =>
    { m with
      screen := (m.drawing around x y height).2
      dirty := true
      registers := put m.registers flagRegister (if (m.drawing around x y height).1 then 1 else 0) }
  | .readDelay x => { m with registers := put m.registers x m.delay }
  | .awaitKey x =>
    { m with keypad := m.keypad.discard, awaiting := some (x.val : Int) }.reported (.awaitingKey x)
  | .setDelay x => { m with delay := m.registers.get x }
  | .setSound x => { m with sound := m.registers.get x }
  | .addIndex x => { m with index := m.index + m.registers.get x }
  | .pointAtGlyph x => { m with index := m.registers.get x * glyphSize }
  | .storeDigits x => { m with memory := m.memory.write m.index.toNat (digits (m.registers.get x)) }
  | .storeRegisters last => { m with memory := m.memory.write m.index.toNat (m.firstBytes (last.val + 1)) }
  | .loadRegisters last => { m with registers := m.withLoaded m.index (last.val + 1) }

/-- Why a word cannot be executed, if it cannot. The counter is past the word. -/
def hindrance (m : Machine) (word : Word) : Option FaultCause :=
  match Instruction.decode word with
  | some i => m.obstacle i
  | none => some .notAnInstruction

def fetched (m : Machine) (word : Word) : Machine :=
  { m with counter := m.counter + 2 }.reported (.fetched m.counter word)

def counted (m : Machine) : Machine :=
  { m with executed := m.executed + 1 }

/-- The machine with the oldest press taken out, and stored if a register awaits one. -/
def resumed (m : Machine) : Machine :=
  match m.keypad.pending, m.awaiting with
  | [], _ => m
  | _ :: rest, none => { m with keypad := { m.keypad with pending := rest } }
  | code :: rest, some register =>
    { m with
      keypad := { m.keypad with pending := rest }
      registers := put m.registers (residue 16 sixteen_pos register) (code % 16)
      awaiting := none }.reported (.keyStored code register)

/-- A property of a machine apart from its keys and registers, its timers, its halt and its trace. -/
def Apart (Q : Machine → Prop) : Prop :=
  ∀ (m : Machine) registers keypad delay sound awaiting reports, Q m →
    Q { m with registers, keypad, delay, sound, awaiting, reports }

lemma Apart.resumed {Q : Machine → Prop} (hQ : Apart Q) {m : Machine} (h : Q m) : Q m.resumed := by
  unfold Machine.resumed
  split
  · exact h
  · exact hQ m _ _ _ _ _ _ h
  · exact hQ m _ _ _ _ _ _ h

/-- The ways in which a step can end: a halted machine has looked for a press, no word could be fetched, the word
fetched could not be executed, or an instruction has completed. -/
inductive Stepped (around : Surroundings) (m : Machine) :
    EStateM.Result Failure Machine (Option Instruction) → Prop
  | waited (hwait : m.awaiting.isSome) : Stepped around m (.ok none m.resumed)
  | ranOut (hrun : m.awaiting = none) (hword : m.word? = none) :
    Stepped around m (.error (.fault ⟨.fetchOutside, m.counter, none⟩) m)
  | stopped {word : Word} {cause : FaultCause} (hrun : m.awaiting = none) (hword : m.word? = some word)
    (hcause : (m.fetched word).hindrance word = some cause) :
    Stepped around m (.error (.fault ⟨cause, m.counter, some word⟩) (m.fetched word))
  | executed {word : Word} {i : Instruction} (hrun : m.awaiting = none) (hword : m.word? = some word)
    (hdecode : Instruction.decode word = some i) (hfree : (m.fetched word).obstacle i = none) :
    Stepped around m (.ok (some i) ((m.fetched word).effect around i).counted)

/-- How an instruction ends: a fault that changes nothing if there is an obstacle, the machine after it if not. -/
def outcome (m : Machine) (obstacle : Option FaultCause) (after : Machine) : EStateM.Result Failure Machine Unit :=
  match obstacle with
  | some cause => .error (.fault ⟨cause, m.counter, none⟩) m
  | none => .ok () after

end Machine

namespace Action

variable {around : Surroundings} {m m' : Machine}

lemma holds_run (c : Condition) : holds c m = .ok (m.meets c) m := by
  cases c <;> rfl

lemma skip_run : skip m =
    if m.counter + 2 ≥ 4096 then .error (.fault ⟨.skipOutside, m.counter, none⟩) m
    else .ok () { m with counter := m.counter + 2 } := by
  unfold skip
  rw [get_bind]
  split
  · rfl
  · rfl

lemma combine_run (how : Combination) (x y : Register) :
    combine around how x y m = .ok () { m with registers := m.combined around how x y } := by
  cases how <;> rfl

lemma checkRange_bind {start length : Int} (h0 : 0 ≤ start) {act : Action Unit} {after : Machine}
    (hact : start + length ≤ 4096 → act m = .ok () after) :
    (checkRange start length >>= fun _ => act) m = m.outcome (Machine.overrun start length) after := by
  by_cases hr : start + length > 4096
  · have hcause : Machine.overrun start length = some (.rangeOutside start length) := if_pos hr
    rw [bind_of_error (by rw [checkRange_run h0, hcause]), hcause]
    rfl
  · have hcause : Machine.overrun start length = none := if_neg hr
    rw [bind_of_ok (checkRange_ok h0 (by omega)), hact (by omega), hcause]
    rfl

lemma call_run (hm : m.WellFormed) (target : Address) :
    execute around (.call target) m = m.outcome (m.obstacle (.call target)) (m.effect around (.call target)) := by
  have hpush := pushReturn_run m.counter hm.depth.1 hm.depth.2
  change (pushReturn m.counter >>= fun _ => jump target.val) m = _
  by_cases hfull : m.depth = 16
  · rw [if_pos hfull] at hpush
    rw [bind_of_error hpush, Machine.obstacle, if_pos hfull]
    rfl
  · rw [if_neg hfull] at hpush
    rw [bind_of_ok hpush, jump_run (by omega), if_pos (by omega), Machine.obstacle, if_neg hfull]
    rfl

lemma returnFromCall_run (hm : m.WellFormed) :
    execute around .returnFromCall m =
      m.outcome (m.obstacle .returnFromCall) (m.effect around .returnFromCall) := by
  have hpop := popReturn_run hm.depth.1 hm.depth.2
  change (popReturn >>= fun address => modify fun m => { m with counter := address }) m = _
  by_cases hempty : m.depth = 0
  · rw [if_pos hempty] at hpop
    rw [bind_of_error hpop, Machine.obstacle, if_pos hempty]
    rfl
  · rw [if_neg hempty] at hpop
    rw [bind_of_ok hpop, Machine.obstacle, if_neg hempty]
    rfl

lemma skipIf_run (condition : Condition) :
    execute around (.skip condition) m =
      m.outcome (m.obstacle (.skip condition)) (m.effect around (.skip condition)) := by
  change (holds condition >>= fun met => if met = true then skip else pure ()) m = _
  rw [bind_of_ok (holds_run condition), Machine.obstacle, Machine.effect]
  by_cases hmet : m.meets condition = true
  · rw [if_pos hmet, if_pos hmet, skip_run]
    by_cases hend : m.counter + 2 ≥ 4096
    · rw [if_pos hend, if_pos ⟨hmet, hend⟩]
      rfl
    · rw [if_neg hend, if_neg (fun h => hend h.2)]
      rfl
  · rw [if_neg hmet, if_neg hmet, if_neg (fun h => hmet h.1)]
    rfl

lemma jumpFromFirst_run (hm : m.WellFormed) (base : Address) :
    execute around (.jumpFromFirst base) m =
      m.outcome (m.obstacle (.jumpFromFirst base)) (m.effect around (.jumpFromFirst base)) := by
  have hfirst := hm.registers firstRegister
  change jump (base.val + m.registers.get firstRegister) m = _
  rw [jump_run (by omega), Machine.obstacle]
  by_cases hend : base.val + m.registers.get firstRegister < 4096
  · rw [if_pos hend, if_neg (by omega)]
    rfl
  · rw [if_neg hend, if_pos (by omega)]
    rfl

lemma addIndex_run (hm : m.WellFormed) (x : Register) :
    execute around (.addIndex x) m = m.outcome (m.obstacle (.addIndex x)) (m.effect around (.addIndex x)) := by
  have hx := hm.registers x
  have hi := hm.index
  apply checkRange_bind (by omega)
  intro _
  rfl

lemma draw_run (hm : m.WellFormed) (x y : Register) (height : Fin 16) :
    execute around (.draw x y height) m =
      m.outcome (m.obstacle (.draw x y height)) (m.effect around (.draw x y height)) := by
  apply checkRange_bind hm.index.1
  intro _
  rfl

lemma storeDigits_run (hm : m.WellFormed) (x : Register) :
    execute around (.storeDigits x) m =
      m.outcome (m.obstacle (.storeDigits x)) (m.effect around (.storeDigits x)) := by
  have hx := hm.registers x
  have hi := hm.index
  apply checkRange_bind hi.1
  intro hfit
  have hsecond : (m.index + 1).toNat = m.index.toNat + 1 := by omega
  have hthird : (m.index + 2).toNat = m.index.toNat + 1 + 1 := by omega
  change (store m.index (m.registers.get x / 100) >>= fun _ => store (m.index + 1) (m.registers.get x / 10 % 10) >>=
    fun _ => store (m.index + 2) (m.registers.get x % 10)) m = _
  rw [bind_of_ok (store_run hi.1 (by omega) (by omega)), bind_of_ok (store_run (by omega) (by omega) (by omega)),
    store_run (by omega) (by omega) (by omega), hsecond, hthird]
  rfl

lemma storeRegisters_run (hm : m.WellFormed) (last : Register) :
    execute around (.storeRegisters last) m =
      m.outcome (m.obstacle (.storeRegisters last)) (m.effect around (.storeRegisters last)) := by
  apply checkRange_bind hm.index.1
  intro hfit
  rw [registersUpTo_eq_take]
  exact storeFirst_run hm.registers hm.index.1 (last.val + 1) (by omega) (by push_cast; omega)

lemma loadRegisters_run (hm : m.WellFormed) (last : Register) :
    execute around (.loadRegisters last) m =
      m.outcome (m.obstacle (.loadRegisters last)) (m.effect around (.loadRegisters last)) := by
  apply checkRange_bind hm.index.1
  intro hfit
  rw [registersUpTo_eq_take]
  exact loadFirst_run hm.index.1 (last.val + 1) (by omega) (by push_cast; omega)

/-- An instruction that meets an obstacle is a fault that changes nothing; any other has its effect. -/
theorem execute_run (hm : m.WellFormed) (i : Instruction) :
    execute around i m = m.outcome (m.obstacle i) (m.effect around i) := by
  cases i with
  | returnFromCall => exact returnFromCall_run hm
  | jump target => exact (jump_run (by omega)).trans (if_pos (by omega))
  | call target => exact call_run hm target
  | skip condition => exact skipIf_run condition
  | combine how x y => exact combine_run how x y
  | jumpFromFirst base => exact jumpFromFirst_run hm base
  | draw x y height => exact draw_run hm x y height
  | addIndex x => exact addIndex_run hm x
  | storeDigits x => exact storeDigits_run hm x
  | storeRegisters last => exact storeRegisters_run hm last
  | loadRegisters last => exact loadRegisters_run hm last
  | awaitKey x => exact report_run _
  | _ => rfl

lemma executeWord_of_decode (hm : m.WellFormed) {word : Word} {i : Instruction}
    (hdecode : Instruction.decode word = some i) :
    executeWord around word m = m.outcome (m.obstacle i) (m.effect around i) := by
  rw [executeWord, hdecode]
  exact execute_run hm i

lemma executeWord_of_unknown {word : Word} (hdecode : Instruction.decode word = none) :
    executeWord around word m = .error (.fault ⟨.notAnInstruction, m.counter, some word⟩) m := by
  rw [executeWord, hdecode]
  rfl

lemma blaming_of_ok {address : Int} {word : Word} {act : Action Unit} (h : act m = .ok () m') :
    blaming address word act m = .ok () m' := by
  rw [blaming, h]

lemma blaming_of_fault {address : Int} {word : Word} {act : Action Unit} {f : Fault}
    (h : act m = .error (.fault f) m') :
    blaming address word act m = .error (.fault ⟨f.cause, address, some word⟩) m' := by
  rw [blaming, h]

lemma resumeOnKey_run (hm : m.WellFormed) : resumeOnKey m =
    if m.awaiting = none ∧ m.keypad.pending ≠ [] then .error .missingNumber m.resumed else .ok () m.resumed := by
  have hpoll : pollKey m = .ok m.keypad.poll.1 { m with keypad := m.keypad.poll.2 } := rfl
  rw [resumeOnKey, bind_of_ok hpoll]
  unfold Keypad.poll Machine.resumed
  cases hpending : m.keypad.pending with
  | nil =>
    rw [if_neg (fun h => h.2 rfl)]
    rfl
  | cons code rest =>
    dsimp only
    rw [endHalt, get_bind]
    cases hwait : m.awaiting with
    | none =>
      rw [if_pos ⟨rfl, List.cons_ne_nil _ _⟩]
      rfl
    | some register =>
      have hregister := hm.awaiting register hwait
      dsimp only
      rw [bind_of_ok (slot_run (n := 16) (by omega) hregister.1 hregister.2), if_neg (by simp)]
      exact report_run _

end Action

namespace Machine

lemma word?_eq_none_iff {m : Machine} (h0 : 0 ≤ m.counter) : m.word? = none ↔ 4095 ≤ m.counter := by
  unfold word?
  split
  · simp only [reduceCtorEq, false_iff]
    omega
  · simp only [true_iff]
    omega

lemma counter_of_word? {m : Machine} {word : Word} (hword : m.word? = some word) :
    0 ≤ m.counter ∧ m.counter < 4095 := by
  unfold word? at hword
  split at hword
  · assumption
  · cases hword

lemma WellFormed.fetched {m : Machine} (hm : m.WellFormed) {word : Word} (hword : m.word? = some word) :
    (m.fetched word).WellFormed := by
  have hcounter := counter_of_word? hword
  have hrange : 0 ≤ m.counter + 2 ∧ m.counter + 2 ≤ 4096 := by omega
  exact { hm with counter := hrange }

section Steps

variable {around : Surroundings} {m : Machine} {word : Word}

lemma step_of_waiting (hm : m.WellFormed) (hwait : m.awaiting.isSome) :
    Action.step around m = .ok none m.resumed := by
  unfold Action.step
  have hresume : Action.resumeOnKey m = .ok () m.resumed := by
    rw [Action.resumeOnKey_run hm, if_neg]
    rintro ⟨hnone, -⟩
    simp [hnone] at hwait
  rw [get_bind, if_pos hwait, bind_of_ok hresume]
  rfl

lemma step_of_fetch_error (hrun : m.awaiting = none) {e : Failure} {next : Machine}
    (hfetch : Action.fetch m = .error e next) : Action.step around m = .error e next := by
  unfold Action.step
  rw [get_bind, if_neg (by simp [hrun]), get_bind, bind_of_error hfetch]

lemma step_of_fetch (hrun : m.awaiting = none)
    (hfetch : Action.fetch m = .ok word { m with counter := m.counter + 2 }) :
    Action.step around m =
      (Action.blaming m.counter word (Action.executeWord around word) >>= fun _ =>
        modify counted >>= fun _ => pure (Instruction.decode word)) (m.fetched word) := by
  have hreport : Action.report (.fetched m.counter word) { m with counter := m.counter + 2 } =
      .ok () (m.fetched word) := Action.report_run _
  unfold Action.step
  rw [get_bind, if_neg (by simp [hrun]), get_bind, bind_of_ok hfetch, bind_of_ok hreport]
  rfl

lemma step_of_no_word (hm : m.WellFormed) (hrun : m.awaiting = none) (hword : m.word? = none) :
    Action.step around m = .error (.fault ⟨.fetchOutside, m.counter, none⟩) m := by
  have hfetch := Action.fetch_run hm.counter.1
  rw [hword] at hfetch
  exact step_of_fetch_error hrun hfetch

lemma step_of_word (hm : m.WellFormed) (hrun : m.awaiting = none) (hword : m.word? = some word) :
    Action.step around m =
      (Action.blaming m.counter word (Action.executeWord around word) >>= fun _ =>
        modify counted >>= fun _ => pure (Instruction.decode word)) (m.fetched word) := by
  have hfetch := Action.fetch_run hm.counter.1
  rw [hword] at hfetch
  exact step_of_fetch hrun hfetch

lemma step_of_hindrance (hm : m.WellFormed) (hrun : m.awaiting = none) (hword : m.word? = some word)
    {cause : FaultCause} (hcause : (m.fetched word).hindrance word = some cause) :
    Action.step around m = .error (.fault ⟨cause, m.counter, some word⟩) (m.fetched word) := by
  rw [step_of_word hm hrun hword]
  unfold hindrance at hcause
  cases hdecode : Instruction.decode word with
  | none =>
    rw [hdecode] at hcause
    cases hcause
    exact bind_of_error (Action.blaming_of_fault (Action.executeWord_of_unknown hdecode))
  | some i =>
    rw [hdecode] at hcause
    have hexecute : Action.executeWord around word (m.fetched word) = _ :=
      Action.executeWord_of_decode (hm.fetched hword) hdecode
    have hobstacle : (m.fetched word).obstacle i = some cause := hcause
    rw [hobstacle] at hexecute
    exact bind_of_error (Action.blaming_of_fault hexecute)

lemma step_of_free (hm : m.WellFormed) (hrun : m.awaiting = none) (hword : m.word? = some word) {i : Instruction}
    (hdecode : Instruction.decode word = some i) (hfree : (m.fetched word).obstacle i = none) :
    Action.step around m = .ok (some i) ((m.fetched word).effect around i).counted := by
  have hexecute : Action.executeWord around word (m.fetched word) = _ :=
    Action.executeWord_of_decode (hm.fetched hword) hdecode
  rw [hfree] at hexecute
  rw [step_of_word hm hrun hword, bind_of_ok (Action.blaming_of_ok hexecute), modify_bind, hdecode]
  rfl

/-- Every step of a machine whose fields are in range ends in one of four ways. -/
theorem step_stepped (around : Surroundings) (hm : m.WellFormed) : Stepped around m (Action.step around m) := by
  cases hwait : m.awaiting with
  | some x =>
    have hsome : m.awaiting.isSome := by rw [hwait]; rfl
    rw [step_of_waiting hm hsome]
    exact .waited hsome
  | none =>
    cases hword : m.word? with
    | none =>
      rw [step_of_no_word hm hwait hword]
      exact .ranOut hwait hword
    | some word =>
      cases hcause : (m.fetched word).hindrance word with
      | some cause =>
        rw [step_of_hindrance hm hwait hword hcause]
        exact .stopped hwait hword hcause
      | none =>
        cases hdecode : Instruction.decode word with
        | none =>
          rw [hindrance, hdecode] at hcause
          cases hcause
        | some i =>
          rw [hindrance, hdecode] at hcause
          rw [step_of_free hm hwait hword hdecode hcause]
          exact .executed hwait hword hdecode hcause

end Steps

end Machine

end Chip8
