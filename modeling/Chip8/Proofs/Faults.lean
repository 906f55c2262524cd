import Chip8.Proofs.Invariant
import Chip8.Proofs.Patterns

/-!
# Faults

What a step that stops leaves behind, and when it stops.

Main statements: `step_error_frame`, by which a step leaves the machine as it was if no word could be fetched, and
otherwise moves the counter past the word and reports the fetch; `step_faults_iff`, which describes word by word the
states in which a step faults. A machine that awaits a key never does. Any other faults at the fetch if its counter is
at the last byte or past it, and else by its word: if it fits no pattern, if it returns from an empty stack or calls on
a full one, and if it reaches outside of memory.
-/

namespace Chip8

namespace Machine

variable {around : Surroundings} {m m' : Machine}

/-- A step that stops changes nothing but the counter and the trace, and its fault names the address and, if one was
fetched, the word. -/
theorem step_error_frame {e : Failure} (hm : m.WellFormed) (herror : Action.step around m = .error e m') :
    (4095 ≤ m.counter ∧ (∃ cause, e = .fault ⟨cause, m.counter, none⟩) ∧ m' = m) ∨
    (m.counter < 4095 ∧ ∃ cause word, m.word? = some word ∧ e = .fault ⟨cause, m.counter, some word⟩ ∧
      m' = { m with
        counter := m.counter + 2
        reports := if m.tracing then .fetched m.counter word :: m.reports else m.reports }) := by
  have hstep := step_stepped around hm
  rw [herror] at hstep
  cases hstep with
  | ranOut _ hword =>
    left
    exact ⟨(word?_eq_none_iff hm.counter.1).1 hword, ⟨_, rfl⟩, rfl⟩
  | @stopped word cause _ hword _ =>
    right
    exact ⟨(counter_of_word? hword).2, cause, word, hword, rfl, rfl⟩

theorem step_error_frame_zeros :
    let m : Machine := { fresh with memory := Vector.replicate 4096 0 }
    m.WellFormed ∧ ∃ e m', Action.step ⟨Dialect.modern, fun _ => 0⟩ m = .error e m' ∧
      ∃ cause word, m.word? = some word ∧ e = .fault ⟨cause, 0x200, some word⟩ ∧ m'.counter = 0x202 ∧
        m'.registers = m.registers := by
  intro m
  have hm : m.WellFormed := fresh_wellFormed.set_memory _
  have hword : m.word? = some 0 := by simp [m, word?, fresh, programStart, Vector.get, Word.ofBytes]
  have hcause : (m.fetched 0).hindrance 0 = some .notAnInstruction := rfl
  have herror : Action.step ⟨Dialect.modern, fun _ => 0⟩ m = _ := step_of_hindrance hm rfl hword hcause
  obtain ⟨hend, _⟩ | ⟨_, cause, word, hfetch, hfault, hnext⟩ := step_error_frame hm herror
  · have hroom : m.counter < 4095 := by decide
    omega
  · refine ⟨hm, _, _, herror, cause, word, hfetch, hfault, ?_, ?_⟩
    · rw [hnext]
      rfl
    · rw [hnext]

def Faults (around : Surroundings) (m : Machine) (kind : FaultKind) : Prop :=
  ∃ f m', Action.step around m = .error (.fault f) m' ∧ f.kind = kind

/-- A word skips the next instruction. -/
def Skips (m : Machine) (w : Word) : Prop :=
  (Pattern.fits ⟨0x3, .xkk⟩ w ∧ m.registers.get w.x = w.kk.val) ∨
  (Pattern.fits ⟨0x4, .xkk⟩ w ∧ m.registers.get w.x ≠ w.kk.val) ∨
  (Pattern.fits ⟨0x5, .xy 0x0⟩ w ∧ m.registers.get w.x = m.registers.get w.y) ∨
  (Pattern.fits ⟨0x9, .xy 0x0⟩ w ∧ m.registers.get w.x ≠ m.registers.get w.y) ∨
  (Pattern.fits ⟨0xE, .x 0x9E⟩ w ∧ m.keypad.isDown (m.registers.get w.x)) ∨
  (Pattern.fits ⟨0xE, .x 0xA1⟩ w ∧ ¬m.keypad.isDown (m.registers.get w.x))

/-- A word at the counter, when executed, needs an address outside of memory. -/
def Overreaches (m : Machine) (w : Word) : Prop :=
  (m.Skips w ∧ 4092 ≤ m.counter) ∨
  (Pattern.fits ⟨0xB, .nnn⟩ w ∧ 4096 ≤ w.nnn.val + m.registers.get firstRegister) ∨
  (Pattern.fits ⟨0xF, .x 0x1E⟩ w ∧ 4096 < m.index + m.registers.get w.x) ∨
  (Pattern.fits ⟨0xF, .x 0x33⟩ w ∧ 4096 < m.index + 3) ∨
  ((Pattern.fits ⟨0xF, .x 0x55⟩ w ∨ Pattern.fits ⟨0xF, .x 0x65⟩ w) ∧ 4096 < m.index + w.x.val + 1) ∨
  (Pattern.fits ⟨0xD, .xyn⟩ w ∧ 4096 < m.index + w.n.val)

/-- An instruction cannot complete, for a reason of the given kind. The counter is past the instruction. -/
def Hinders (m : Machine) (i : Instruction) (kind : FaultKind) : Prop :=
  ∃ cause, m.obstacle i = some cause ∧ cause.kind = kind

/-- Once a word is fetched, a fault comes from a word that is no instruction or from an instruction. -/
lemma faults_iff (hm : m.WellFormed) (hrun : m.awaiting = none) {w : Word} (hword : m.word? = some w)
    (kind : FaultKind) :
    m.Faults around kind ↔ (Instruction.decode w = none ∧ kind = .unknownOpcode) ∨
      ∃ i, Instruction.decode w = some i ∧ (m.fetched w).Hinders i kind := by
  constructor
  · rintro ⟨f, m', herror, hkind⟩
    have hstep := step_stepped around hm
    rw [herror] at hstep
    cases hstep with
    | ranOut _ hnone =>
      rw [hword] at hnone
      cases hnone
    | @stopped word cause _ hword' hcause =>
      rw [hword] at hword'
      cases hword'
      unfold hindrance at hcause
      cases hdecode : Instruction.decode w with
      | none =>
        rw [hdecode] at hcause
        cases hcause
        exact .inl ⟨rfl, hkind.symm⟩
      | some i =>
        rw [hdecode] at hcause
        exact .inr ⟨i, rfl, cause, hcause, hkind⟩
  · rintro (⟨hdecode, rfl⟩ | ⟨i, hdecode, cause, hcause, hkind⟩)
    · have hnone : (m.fetched w).hindrance w = some .notAnInstruction := by rw [hindrance, hdecode]
      exact ⟨_, _, step_of_hindrance hm hrun hword hnone, rfl⟩
    · have hsome : (m.fetched w).hindrance w = some cause := by rw [hindrance, hdecode, ← hcause]
      exact ⟨_, _, step_of_hindrance hm hrun hword hsome, hkind⟩

/-- The fetch faults exactly at the last byte of memory and past it. -/
lemma fetch_faults_iff (hm : m.WellFormed) (hrun : m.awaiting = none) :
    Action.step around m = .error (.fault ⟨.fetchOutside, m.counter, none⟩) m ↔ 4095 ≤ m.counter := by
  constructor
  · intro herror
    have hstep := step_stepped around hm
    rw [herror] at hstep
    cases hstep with
    | ranOut _ hword => exact (word?_eq_none_iff hm.counter.1).1 hword
  · intro hend
    exact step_of_no_word hm hrun ((word?_eq_none_iff hm.counter.1).2 hend)

section Kinds

variable {i : Instruction}

lemma hinders_stackUnderflow : m.Hinders i .stackUnderflow ↔ i = .returnFromCall ∧ m.depth = 0 := by
  unfold Hinders
  cases i <;> simp [obstacle, overrun, FaultCause.kind]

lemma hinders_stackOverflow : m.Hinders i .stackOverflow ↔ (∃ target, i = .call target) ∧ m.depth = 16 := by
  unfold Hinders
  cases i <;> simp [obstacle, overrun, FaultCause.kind]

lemma not_hinders_unknownOpcode : ¬m.Hinders i .unknownOpcode := by
  unfold Hinders
  cases i <;> simp [obstacle, overrun, FaultCause.kind]

lemma meets_fetched (w : Word) (condition : Condition) : (m.fetched w).meets condition = m.meets condition := by
  cases condition <;> rfl

lemma not_overreaches_of_family_lt {w : Word} (hw : w.family.val < 3) : ¬m.Overreaches w := by
  have hne {family : Nat} (hfamily : 3 ≤ family) : w.family.val ≠ family := by omega
  simp [Overreaches, Skips, Pattern.fits, hne]

lemma hinders_address : (m.fetched i.encode).Hinders i .address ↔ m.Overreaches i.encode := by
  have hkk (kk : Constant) : kk.val % 256 = kk.val := Nat.mod_eq_of_lt kk.isLt
  have hheight (n : Fin 16) : n.val % 16 = n.val := Nat.mod_eq_of_lt n.isLt
  have hend : 4096 ≤ m.counter + 2 + 2 ↔ 4092 ≤ m.counter := by omega
  unfold Hinders
  cases i with
  | clearScreen =>
    have hnot : ¬m.Overreaches (Instruction.encode .clearScreen) := not_overreaches_of_family_lt (by decide)
    simp [hnot, obstacle]
  | returnFromCall =>
    have hnot : ¬m.Overreaches (Instruction.encode .returnFromCall) := not_overreaches_of_family_lt (by decide)
    simp [hnot, obstacle, FaultCause.kind]
  | call target =>
    have hnot : ¬m.Overreaches (Instruction.encode (.call target)) :=
      not_overreaches_of_family_lt (by simp [Instruction.encode])
    simp [hnot, obstacle, FaultCause.kind]
  | skip condition =>
    simp only [obstacle, meets_fetched]
    cases condition <;>
      simp [hend, hkk, fetched, reported, FaultCause.kind, meets, Overreaches, Skips, Pattern.fits,
        Instruction.encode]
  | combine how x y => simp [obstacle, Overreaches, Skips, Pattern.fits, Instruction.encode]
  | _ =>
    simp [hkk, hheight, obstacle, overrun, fetched, reported, FaultCause.kind, Overreaches, Skips, Pattern.fits,
      Instruction.encode, add_assoc]

end Kinds

lemma decode_eq_returnFromCall_iff {w : Word} : Instruction.decode w = some .returnFromCall ↔ w.val = 0x00EE := by
  rw [Instruction.decode_eq_some_iff, eq_comm, Fin.ext_iff]
  rfl

lemma exists_decode_eq_call_iff {w : Word} :
    (∃ target, Instruction.decode w = some (.call target)) ↔ Pattern.fits ⟨0x2, .nnn⟩ w := by
  constructor
  · rintro ⟨target, hdecode⟩
    rw [← Instruction.encode_of_decode hdecode]
    exact (Instruction.call target).pattern_fits_encode
  · intro hfits
    have hfamily : w.family.val = 2 := by simpa [Pattern.fits] using hfits
    exact ⟨w.nnn, by simp [Instruction.decode, hfamily]⟩

section Words

variable {w : Word}

lemma faults_unknownOpcode_iff (hm : m.WellFormed) (hrun : m.awaiting = none) (hword : m.word? = some w) :
    m.Faults around .unknownOpcode ↔ ∀ p ∈ Pattern.documented, ¬p.fits w := by
  rw [faults_iff hm hrun hword, ← Instruction.decode_eq_none_iff]
  simp [not_hinders_unknownOpcode]

lemma faults_stackUnderflow_iff (hm : m.WellFormed) (hrun : m.awaiting = none) (hword : m.word? = some w) :
    m.Faults around .stackUnderflow ↔ w.val = 0x00EE ∧ m.depth = 0 := by
  rw [faults_iff hm hrun hword, ← decode_eq_returnFromCall_iff]
  simp [hinders_stackUnderflow, fetched, reported]

lemma faults_stackOverflow_iff (hm : m.WellFormed) (hrun : m.awaiting = none) (hword : m.word? = some w) :
    m.Faults around .stackOverflow ↔ Pattern.fits ⟨0x2, .nnn⟩ w ∧ m.depth = 16 := by
  rw [faults_iff hm hrun hword, ← exists_decode_eq_call_iff]
  simp [hinders_stackOverflow, fetched, reported]

lemma faults_address_iff (hm : m.WellFormed) (hrun : m.awaiting = none) (hword : m.word? = some w) :
    m.Faults around .address ↔ m.Overreaches w := by
  rw [faults_iff hm hrun hword]
  cases hdecode : Instruction.decode w with
  | none =>
    have hfree {p : Pattern} (hp : p ∈ Pattern.documented) : p.fits w = false := by
      simpa using (Instruction.decode_eq_none_iff w).1 hdecode p hp
    simp (disch := decide) [Overreaches, Skips, hfree]
  | some i =>
    have hcode := Instruction.encode_of_decode hdecode
    subst hcode
    simp [hinders_address]

end Words

/-- A step faults exactly if no key is awaited and the fetch or the word at the counter gives a reason, for each kind of
fault; otherwise it completes. -/
theorem step_faults_iff (around : Surroundings) (hm : m.WellFormed) :
    (m.awaiting.isSome → ∃ m', Action.step around m = .ok none m') ∧
    (m.awaiting = none →
      (Action.step around m = .error (.fault ⟨.fetchOutside, m.counter, none⟩) m ↔ 4095 ≤ m.counter) ∧
      (m.counter < 4095 → ∃ w, m.word? = some w ∧
        (m.Faults around .unknownOpcode ↔ ∀ p ∈ Pattern.documented, ¬p.fits w) ∧
        (m.Faults around .stackUnderflow ↔ w.val = 0x00EE ∧ m.depth = 0) ∧
        (m.Faults around .stackOverflow ↔ Pattern.fits ⟨0x2, .nnn⟩ w ∧ m.depth = 16) ∧
        (m.Faults around .address ↔ m.Overreaches w) ∧
        ((∀ kind ∈ [.address, .stackOverflow, .stackUnderflow, .unknownOpcode], ¬m.Faults around kind) →
          ∃ i m', Action.step around m = .ok (some i) m'))) := by
  refine ⟨fun hwait => ⟨_, step_of_waiting hm hwait⟩, fun hrun => ⟨fetch_faults_iff hm hrun, fun hroom => ?_⟩⟩
  cases hword : m.word? with
  | none =>
    have hend := (word?_eq_none_iff hm.counter.1).1 hword
    omega
  | some w =>
    refine ⟨w, rfl, faults_unknownOpcode_iff hm hrun hword, faults_stackUnderflow_iff hm hrun hword,
      faults_stackOverflow_iff hm hrun hword, faults_address_iff hm hrun hword, fun hfree => ?_⟩
    cases herror : Action.step around m with
    | error e m' =>
      obtain ⟨f, rfl, hkind⟩ := fault_of_step_error hm herror
      exact absurd ⟨f, m', herror, rfl⟩ (hfree _ hkind)
    | ok result m' =>
      have hstep := step_stepped around hm
      rw [herror] at hstep
      cases hstep with
      | waited hwait =>
        rw [hrun] at hwait
        cases hwait
      | executed _ _ _ _ => exact ⟨_, _, rfl⟩

theorem step_faults_iff_end :
    let m : Machine := { fresh with counter := 4096 }
    m.WellFormed ∧ Action.step ⟨Dialect.modern, fun _ => 0⟩ m = .error (.fault ⟨.fetchOutside, 4096, none⟩) m := by
  intro m
  have hm : m.WellFormed := { fresh_wellFormed with counter := ⟨by decide, by decide⟩ }
  exact ⟨hm, ((step_faults_iff _ hm).2 rfl).1.2 (by decide)⟩

end Machine

end Chip8
