import Chip8.Proofs.Keeping

/-!
# The invariant of the machine

Every instruction, every step and every command that is not a write from outside keeps the fields of the machine in
range. The sizes of memory, of the registers, the stack and the screen, the range of a byte and of a pixel are part of
the types. Main statements: `step_keeps_wellFormed` for one step, `session_wellFormed` for whole sessions, after which a
step stops with nothing but a fault of one of four kinds.
-/

namespace Chip8

/-- A value that a register may hold. -/
def IsByte (value : Int) : Prop := 0 ≤ value ∧ value ≤ 255

namespace Combination

lemma isByte_bits {a b : Int} (ha : IsByte a) (hb : IsByte b) :
    IsByte (Bits.either a b) ∧ IsByte (Bits.both a b) ∧ IsByte (Bits.differ a b) := by
  obtain ⟨m, rfl⟩ := Int.eq_ofNat_of_zero_le ha.1
  obtain ⟨n, rfl⟩ := Int.eq_ofNat_of_zero_le hb.1
  have hm : m < 2 ^ 8 := by have := ha.2; omega
  have hn : n < 2 ^ 8 := by have := hb.2; omega
  have hor := Nat.or_lt_two_pow hm hn
  have hand := Nat.and_lt_two_pow m hn
  have hxor := Nat.xor_lt_two_pow hm hn
  rw [Bits.either_ofNat, Bits.both_ofNat, Bits.differ_ofNat]
  simp only [IsByte]
  omega

/-- Two bytes combined give a byte and a flag that is a byte too. -/
lemma isByte_result (how : Combination) (shiftSecond : Bool) {a b : Int} (ha : IsByte a) (hb : IsByte b) :
    IsByte (how.result shiftSecond a b).1 ∧ ∀ flag ∈ (how.result shiftSecond a b).2, IsByte flag := by
  have hbits := isByte_bits ha hb
  have hsource : IsByte (if shiftSecond then b else a) := by
    split
    · exact hb
    · exact ha
  have hflag (p : Prop) [Decidable p] : IsByte (if p then 1 else 0) := by
    split <;> simp [IsByte]
  cases how with
  | copy => exact ⟨hb, by simp [result]⟩
  | bitOr => exact ⟨hbits.1, by simp [result]⟩
  | bitAnd => exact ⟨hbits.2.1, by simp [result]⟩
  | bitXor => exact ⟨hbits.2.2, by simp [result]⟩
  | add | subtract | subtractFrom =>
    refine ⟨by simp only [result, IsByte]; omega, ?_⟩
    rintro flag ⟨rfl⟩
    exact hflag _
  | shiftRight | shiftLeft =>
    simp only [result, IsByte] at hsource ⊢
    refine ⟨by omega, ?_⟩
    rintro flag ⟨rfl⟩
    omega

end Combination

namespace Machine

variable {around : Surroundings} {m : Machine}

lemma fresh_wellFormed : fresh.WellFormed where
  registers x := by simp [fresh, Vector.get]
  index := by decide
  counter := by decide
  depth := by decide
  stack i := by simp [fresh, Vector.get]
  delay := by decide
  sound := by decide
  awaiting x hx := by cases hx
  pending := by decide

lemma isByte_put {registers : Vector Int 16} (hbytes : ∀ z, IsByte (registers.get z)) (x : Register) {value : Int}
    (hvalue : IsByte value) (y : Register) : IsByte ((put registers x value).get y) := by
  rw [get_put]
  split
  · exact hvalue
  · exact hbytes y

lemma isByte_combined (around : Surroundings) (hbytes : ∀ z, IsByte (m.registers.get z)) (how : Combination)
    (x y z : Register) : IsByte ((m.combined around how x y).get z) := by
  have hresult := how.isByte_result around.dialect.shiftUsesVy (hbytes x) (hbytes y)
  unfold combined
  split
  · rename_i value hcase
    rw [hcase] at hresult
    exact isByte_put hbytes x hresult.1 z
  · rename_i value flag hcase
    rw [hcase] at hresult
    rw [get_put]
    split
    · exact hresult.2 flag rfl
    · exact isByte_put hbytes x hresult.1 z

namespace WellFormed

lemma set_register (hm : m.WellFormed) (x : Register) {value : Int} (hvalue : IsByte value) (y : Register) :
    IsByte ((put m.registers x value).get y) := isByte_put hm.registers x hvalue y

lemma withLoaded (hm : m.WellFormed) (start : Int) (n : Nat) (x : Register) :
    IsByte ((m.withLoaded start n).get x) := by
  change IsByte (Vector.ofFn _)[x.val]
  rw [Vector.getElem_ofFn]
  split
  · have hbyte := (m.memory.get (cell (start + x.val))).toNat_lt
    simp only [IsByte]
    omega
  · exact hm.registers x

lemma length_pending_press (hm : m.WellFormed) (key : Key) (code : Int) :
    (m.keypad.press key code).pending.length ≤ 16 := by
  unfold Keypad.press
  split
  · exact hm.pending
  · exact Keypad.length_newest _

lemma set_stack (hm : m.WellFormed) (slot i : Fin 16) :
    0 ≤ (put m.stack slot m.counter).get i ∧ (put m.stack slot m.counter).get i ≤ 4096 := by
  rw [get_put]
  split
  · exact hm.counter
  · exact hm.stack i

lemma set_memory (hm : m.WellFormed) (memory : Memory) : { m with memory := memory }.WellFormed :=
  { hm with }

/-- An instruction that meets no obstacle keeps every field in range. -/
theorem effect (hm : m.WellFormed) {i : Instruction} (hfree : m.obstacle i = none) :
    (m.effect around i).WellFormed := by
  have hcounter := hm.counter
  have hdepth := hm.depth
  have hindex := hm.index
  cases i with
  | clearScreen => exact { hm with }
  | returnFromCall =>
    have hbusy : m.depth ≠ 0 := by
      intro hempty
      simp [obstacle, hempty] at hfree
    have hrange : 0 ≤ m.depth - 1 ∧ m.depth - 1 ≤ 16 := by omega
    exact { hm with counter := hm.stack _, depth := hrange }
  | jump target =>
    have htarget : 0 ≤ (target.val : Int) ∧ (target.val : Int) ≤ 4096 := by omega
    exact { hm with counter := htarget }
  | call target =>
    have hroom : m.depth ≠ 16 := by
      intro hfull
      simp [obstacle, hfull] at hfree
    have hrange : 0 ≤ m.depth + 1 ∧ m.depth + 1 ≤ 16 := by omega
    have htarget : 0 ≤ (target.val : Int) ∧ (target.val : Int) ≤ 4096 := by omega
    exact { hm with counter := htarget, depth := hrange, stack := hm.set_stack _ }
  | skip condition =>
    by_cases hmet : m.meets condition = true
    · have hroom : m.counter + 2 < 4096 := by
        by_contra hend
        have hfault : m.meets condition = true ∧ m.counter + 2 ≥ 4096 := ⟨hmet, by omega⟩
        simp [obstacle, hfault] at hfree
      have hrange : 0 ≤ m.counter + 2 ∧ m.counter + 2 ≤ 4096 := by omega
      rw [Machine.effect, if_pos hmet]
      exact { hm with counter := hrange }
    · rw [Machine.effect, if_neg hmet]
      exact hm
  | setConstant x kk =>
    have hbyte : IsByte kk.val := by simp only [IsByte]; omega
    exact { hm with registers := hm.set_register x hbyte }
  | addConstant x kk =>
    have hbyte : IsByte ((m.registers.get x + kk.val) % 256) := by simp only [IsByte]; omega
    exact { hm with registers := hm.set_register x hbyte }
  | combine how x y => exact { hm with registers := isByte_combined around hm.registers how x y }
  | setIndex target =>
    have htarget : 0 ≤ (target.val : Int) ∧ (target.val : Int) ≤ 4096 := by omega
    exact { hm with index := htarget }
  | jumpFromFirst base =>
    have hfirst := hm.registers firstRegister
    have htarget : base.val + m.registers.get firstRegister < 4096 := by
      by_contra hend
      simp [obstacle, hend] at hfree
    have hrange : 0 ≤ base.val + m.registers.get firstRegister ∧ base.val + m.registers.get firstRegister ≤ 4096 := by
      omega
    exact { hm with counter := hrange }
  | random x mask =>
    have hand : (around.random m.drawn).toNat &&& mask.val ≤ mask.val := Nat.and_le_right
    have hbyte : IsByte (((around.random m.drawn).toNat &&& mask.val : Nat) : Int) := by
      simp only [IsByte]
      omega
    exact { hm with registers := hm.set_register x hbyte }
  | draw x y height =>
    have hbyte : IsByte (if (m.drawing around x y height).1 then 1 else 0) := by
      split <;> simp [IsByte]
    exact { hm with registers := hm.set_register flagRegister hbyte }
  | readDelay x => exact { hm with registers := hm.set_register x hm.delay }
  | awaitKey x =>
    have hawait : ∀ y ∈ some (x.val : Int), 0 ≤ y ∧ y < 16 := by
      rintro y ⟨rfl⟩
      omega
    exact { hm with awaiting := hawait, pending := Nat.zero_le _ }
  | setDelay x => exact { hm with delay := hm.registers x }
  | setSound x => exact { hm with sound := hm.registers x }
  | addIndex x =>
    have hx := hm.registers x
    have hfit := overrun_eq_none_iff.1 hfree
    have hrange : 0 ≤ m.index + m.registers.get x ∧ m.index + m.registers.get x ≤ 4096 := by omega
    exact { hm with index := hrange }
  | pointAtGlyph x =>
    have hx := hm.registers x
    have hrange : 0 ≤ m.registers.get x * glyphSize ∧ m.registers.get x * glyphSize ≤ 4096 := by
      simp only [glyphSize]
      omega
    exact { hm with index := hrange }
  | storeDigits x | storeRegisters x => exact hm.set_memory _
  | loadRegisters last =>
    rw [Machine.effect]
    exact { hm with registers := hm.withLoaded _ _ }

lemma resumed (hm : m.WellFormed) : m.resumed.WellFormed := by
  have hpending := hm.pending
  unfold Machine.resumed
  split
  · exact hm
  · rename_i press rest hkeys hwait
    rw [hkeys, List.length_cons] at hpending
    have hrest : rest.length ≤ 16 := by omega
    exact { hm with pending := hrest }
  · rename_i code rest register hkeys hwait
    rw [hkeys, List.length_cons] at hpending
    have hrest : rest.length ≤ 16 := by omega
    have hbyte : IsByte (code % 16) := by simp only [IsByte]; omega
    have hawait : ∀ x ∈ (none : Option Int), 0 ≤ x ∧ x < 16 := by
      rintro x ⟨⟩
    exact { hm with registers := hm.set_register _ hbyte, awaiting := hawait, pending := hrest }

lemma resetState (hm : m.WellFormed) : m.resetState.WellFormed := by
  rw [Machine.resetState]
  exact { fresh_wellFormed with pending := hm.pending }

lemma resetPanel (hm : m.WellFormed) : m.resetPanel.WellFormed := by
  rw [Machine.resetPanel]
  exact { hm with pending := Nat.zero_le _ }

lemma ticked (hm : m.WellFormed) : m.ticked.WellFormed := by
  have hdelay := hm.delay
  have hsound := hm.sound
  have hless {timer : Int} (htimer : 0 ≤ timer ∧ timer ≤ 255) :
      0 ≤ (if timer > 0 then timer - 1 else timer) ∧ (if timer > 0 then timer - 1 else timer) ≤ 255 := by
    split
    · omega
    · omega
  exact { hm with delay := hless hdelay, sound := hless hsound }

end WellFormed

lemma ending_resumeOnKey (hm : m.WellFormed) : ending (Action.resumeOnKey m) = m.resumed := by
  rw [Action.resumeOnKey_run hm]
  split
  · rfl
  · rfl

lemma wellFormed_keptAside : KeptAside WellFormed where
  resumed m hm := by
    rw [ending_resumeOnKey hm]
    exact hm.resumed
  ticked m hm := hm.ticked
  pressed m key code hm := { hm with pending := hm.length_pending_press key code }
  released m key hm := { hm with }
  discarded m hm := { hm with pending := Nat.zero_le _ }
  polled m hm := by
    have hpending := hm.pending
    have hpoll : m.keypad.poll.2.pending.length ≤ 16 := by
      unfold Keypad.poll
      split
      · exact hpending
      · rename_i code rest hkeys
        rw [hkeys, List.length_cons] at hpending
        change rest.length ≤ 16
        omega
    exact { hm with pending := hpoll }

/-- Keys and time have no part in what is apart from them. -/
lemma Apart.keptAside {Q : Machine → Prop} (hQ : Apart Q) : KeptAside fun m => m.WellFormed ∧ Q m where
  resumed m h := by
    rw [ending_resumeOnKey h.1]
    exact ⟨h.1.resumed, hQ.resumed h.2⟩
  ticked m h := ⟨h.1.ticked, hQ m _ _ _ _ _ _ h.2⟩
  pressed m _ _ h := ⟨wellFormed_keptAside.pressed _ _ _ h.1, hQ m _ _ _ _ _ _ h.2⟩
  released m _ h := ⟨wellFormed_keptAside.released _ _ h.1, hQ m _ _ _ _ _ _ h.2⟩
  discarded m h := ⟨wellFormed_keptAside.discarded _ h.1, hQ m _ _ _ _ _ _ h.2⟩
  polled m h := ⟨wellFormed_keptAside.polled _ h.1, hQ m _ _ _ _ _ _ h.2⟩

/-- However a step ends, the fields are in range after it. -/
theorem step_keeps_wellFormed (around : Surroundings) : Keeps WellFormed (Action.step around) := by
  intro m hm
  have hstep := step_stepped around hm
  generalize Action.step around m = result at hstep ⊢
  cases hstep with
  | waited _ => exact hm.resumed
  | ranOut _ _ => exact hm
  | stopped _ hword _ => exact hm.fetched hword
  | @executed word i _ hword _ hfree =>
    have hnext : ((m.fetched word).effect around i).WellFormed := (hm.fetched hword).effect hfree
    exact { hnext with }

lemma kind_mem_of_cause (cause : FaultCause) :
    cause.kind ∈ [FaultKind.address, .stackOverflow, .stackUnderflow, .unknownOpcode] := by
  cases cause <;> simp [FaultCause.kind]

lemma fault_of_step_error (hm : m.WellFormed) {e : Failure} {m' : Machine}
    (herror : Action.step around m = .error e m') :
    ∃ f, e = .fault f ∧ f.kind ∈ [FaultKind.address, .stackOverflow, .stackUnderflow, .unknownOpcode] := by
  have hstep := step_stepped around hm
  rw [herror] at hstep
  cases hstep with
  | ranOut _ _ => exact ⟨_, rfl, kind_mem_of_cause _⟩
  | stopped _ _ _ => exact ⟨_, rfl, kind_mem_of_cause _⟩

lemma execute_keeps_wellFormed (around : Surroundings) (word : Word) :
    Keeps WellFormed (Action.executeWord around word) := by
  intro m hm
  cases hdecode : Instruction.decode word with
  | none =>
    rw [Action.executeWord_of_unknown hdecode]
    exact hm
  | some i =>
    rw [Action.executeWord_of_decode hm hdecode]
    cases hfree : m.obstacle i with
    | none => exact hm.effect hfree
    | some cause => exact hm

lemma fetch_keeps_wellFormed : Keeps WellFormed Action.fetch := by
  intro m hm
  rw [Action.fetch_run hm.counter.1]
  cases hword : m.word? with
  | none => exact hm
  | some word =>
    have hcounter := counter_of_word? hword
    have hrange : 0 ≤ m.counter + 2 ∧ m.counter + 2 ≤ 4096 := by omega
    exact { hm with counter := hrange }

lemma popReturn_keeps_wellFormed : Keeps WellFormed Action.popReturn := by
  intro m hm
  have hdepth := hm.depth
  rw [Action.popReturn_run hdepth.1 hdepth.2]
  split
  · exact hm
  · have hrange : 0 ≤ m.depth - 1 ∧ m.depth - 1 ≤ 16 := by omega
    exact { hm with depth := hrange }

lemma jump_keeps_wellFormed (target : Int) : Keeps WellFormed (Action.jump target) := by
  intro m hm
  unfold Action.jump
  split
  · have hrange : 0 ≤ target ∧ target ≤ 4096 := by omega
    exact { hm with counter := hrange }
  · exact hm

lemma skip_keeps_wellFormed : Keeps WellFormed Action.skip := by
  intro m hm
  have hcounter := hm.counter
  rw [Action.skip_run]
  split
  · exact hm
  · have hrange : 0 ≤ m.counter + 2 ∧ m.counter + 2 ≤ 4096 := by omega
    exact { hm with counter := hrange }

end Machine

section Sessions

variable {τ : Type} [Duration τ]

/-- Whether a command writes a field of the machine from outside. -/
def Command.writesField : Command τ → Bool
  | .pushReturn _ | .setRegister .. | .setRegisters _ | .setStack _ | .setAwaiting _ | .setField .. => true
  | _ => false

lemma keeps_reset : Keeps (fun c : Console τ => c.machine.WellFormed) Console.reset := by
  intro c hc
  have hfresh := hc.resetState.resetPanel
  rw [c.reset_run, ending, Console.renewed]
  generalize c.machine.resetState.resetPanel = m at hfresh
  exact { hfresh with }

lemma keeps_load (program : List UInt8) :
    Keeps (fun c : Console τ => c.machine.WellFormed) (Console.load program) := by
  unfold Console.load
  split
  · exact keeps_bind (keeps_modify fun c hc => hc) fun _ => keeps_reset
  · exact keeps_throw _

lemma perform_keeps_wellFormed (around : Surroundings) (command : Command τ) (hclean : command.writesField = false) :
    Keeps (fun c : Console τ => c.machine.WellFormed) (Session.perform around command) := by
  have haside := Machine.wellFormed_keptAside
  have hstep := Machine.step_keeps_wellFormed around
  cases command with
  | load program => exact keeps_bind (keeps_load program) fun _ => keeps_pure _
  | install program =>
    refine keeps_silently ?_
    unfold Action.installProgram
    split
    · exact keeps_throw _
    · exact keeps_modify fun m hm => { hm with }
  | reset => exact keeps_bind keeps_reset fun _ => keeps_pure _
  | resetState => exact keeps_change fun m hm => hm.resetState
  | resetPanel => exact keeps_change fun m hm => hm.resetPanel
  | resetTimers => exact keeps_bind (keeps_modify fun c hc => hc) fun _ => keeps_pure _
  | step elapsed => exact keeps_bind (keeps_step haside.ticked hstep elapsed) fun _ => keeps_pure _
  | stepMachine => exact keeps_bind (keeps_onMachine hstep) fun _ => keeps_pure _
  | frame elapsed instructions =>
    exact keeps_bind (keeps_frame haside.ticked hstep _ _) fun _ => keeps_bind keeps_get fun _ => keeps_pure _
  | execute word => exact keeps_silently (Machine.execute_keeps_wellFormed around word)
  | resumeOnKey => exact haside.perform around rfl
  | update _ | tick => exact haside.perform around rfl
  | press _ | release _ | setKeys _ | discard | poll => exact haside.perform around rfl
  | soundActive | awaitingKey | snapshot | readMemory _ _ | pixel _ _ | litCount | isDown _ =>
    exact keeps_bind keeps_get fun _ => keeps_pure _
  | fetch => exact keeps_bind (keeps_onMachine Machine.fetch_keeps_wellFormed) fun _ => keeps_pure _
  | popReturn => exact keeps_bind (keeps_onMachine Machine.popReturn_keeps_wellFormed) fun _ => keeps_pure _
  | jump target => exact keeps_silently (Machine.jump_keeps_wellFormed target)
  | skip => exact keeps_silently Machine.skip_keeps_wellFormed
  | checkRange start length =>
    refine keeps_silently ?_
    unfold Action.checkRange
    split
    · exact fun _ hm => hm
    · exact keeps_pure _
  | writeMemory start bytes => exact keeps_change fun m hm => { hm with }
  | setTracing value => exact keeps_change fun m hm => { hm with }
  | draw x y rows => exact keeps_bind (keeps_onMachine fun m hm => { hm with }) fun _ => keeps_pure _
  | clear => exact keeps_silently (keeps_modify fun m hm => { hm with })
  | markClean => exact keeps_change fun m hm => { hm with }
  | picture foreground background side =>
    refine keeps_bind keeps_get fun c => ?_
    split
    · exact keeps_pure _
    · exact keeps_throw _
  | _ => simp [Command.writesField] at hclean

/-- Whatever commands a console was given since it was built, but for writes from outside, its machine is well formed,
and a step of it stops with faults only. -/
theorem session_wellFormed (around : Surroundings) (rate : Option τ) (commands : List (Command τ))
    (hclean : ∀ command ∈ commands, command.writesField = false) :
    let m := (Session.run around commands (Console.fresh rate)).2.machine
    m.WellFormed ∧ ∀ e m', Action.step around m = .error e m' →
      ∃ f, e = .fault f ∧ f.kind ∈ [FaultKind.address, .stackOverflow, .stackUnderflow, .unknownOpcode] := by
  intro m
  have hm : m.WellFormed :=
    keeps_run (fun command hmem => perform_keeps_wellFormed around command (hclean command hmem))
      Machine.fresh_wellFormed
  refine ⟨hm, ?_⟩
  intro e m' herror
  exact Machine.fault_of_step_error hm herror

theorem session_wellFormed_refusals :
    let commands : List (Command Rat) :=
      [.load [0x00, 0xEE], .press (-1), .press 16, .step 1, .frame none (some 3), .load (List.replicate 3585 0)]
    let m := (Session.run ⟨Dialect.modern, fun _ => 7⟩ commands (Console.fresh (some 60))).2.machine
    (∀ command ∈ commands, command.writesField = false) ∧ m.WellFormed ∧
      ∀ e m', Action.step ⟨Dialect.modern, fun _ => 7⟩ m = .error e m' →
        ∃ f, e = .fault f ∧ f.kind ∈ [FaultKind.address, .stackOverflow, .stackUnderflow, .unknownOpcode] := by
  intro commands m
  have hclean : ∀ command ∈ commands, command.writesField = false := by
    simp only [commands, List.forall_mem_cons, Command.writesField, true_and]
    exact List.forall_mem_nil _
  exact ⟨hclean, session_wellFormed _ _ commands hclean⟩

end Sessions

end Chip8
