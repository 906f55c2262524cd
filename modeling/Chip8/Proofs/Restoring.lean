import Chip8.Proofs.Footprint

/-!
# Saving and restoring registers

Registers that are stored can be loaded again as long as nothing is written over their bytes. `Spares` says what may
happen in between: any instructions that succeed and write elsewhere, keys and time. The store leaves all other bytes as
they were, and the load all other registers, memory and the index. The digits of a register, stored and loaded so, are
its decimal digits. Main statement: `registers_restored`.
-/

namespace Chip8

/-- What comes from outside between two instructions of a machine. -/
inductive FromOutside : Action Unit → Prop
  | tick : FromOutside .tick
  | press (code : Int) : FromOutside (.pressKey code)
  | release (code : Int) : FromOutside (.releaseKey code)

lemma KeptAside.fromOutside {P : Machine → Prop} (h : KeptAside P) {act : Action Unit} (hact : FromOutside act) :
    Keeps P act := by
  cases hact with
  | tick => exact keeps_tick h.ticked
  | press code => exact keeps_pressKey h.pressed code
  | release code => exact keeps_releaseKey h.released code

namespace Machine

/-- Whether an instruction writes a byte of a stretch of memory. -/
def WritesIn (m : Machine) (i : Instruction) (start : Int) (length : Nat) : Prop :=
  ∃ a : Int, (start ≤ a ∧ a < start + length) ∧ m.index ≤ a ∧ a < m.index + i.storedBytes

/-- A machine goes on to another one by instructions that succeed, each by itself or in a step, and by what comes from
outside. No instruction writes a byte of a stretch of memory. -/
inductive Spares (around : Surroundings) (start : Int) (length : Nat) : Machine → Machine → Prop
  | done (m : Machine) : Spares around start length m m
  | executed {m next last : Machine} {i : Instruction} (hrun : Action.execute around i m = .ok () next)
    (hspared : ¬m.WritesIn i start length) (hrest : Spares around start length next last) :
    Spares around start length m last
  | stepped {m next last : Machine} {result : Option Instruction} (hrun : Action.step around m = .ok result next)
    (hspared : ∀ i ∈ result, ¬m.WritesIn i start length) (hrest : Spares around start length next last) :
    Spares around start length m last
  | outside {m next last : Machine} {act : Action Unit} (hact : FromOutside act) (hrun : act m = .ok () next)
    (hrest : Spares around start length next last) : Spares around start length m last

/-- An instruction succeeds and establishes a property, executed by itself or in a step that fetches it. -/
structure Achieves (around : Surroundings) (m : Machine) (i : Instruction) (Q : Machine → Prop) : Prop where
  executed : ∃ next, Action.execute around i m = .ok () next ∧ Q next
  stepped : ∀ word, m.awaiting = none → m.word? = some word → Instruction.decode word = some i →
    ∃ next, Action.step around m = .ok (some i) next ∧ Q next

/-- A machine in range that holds given bytes in a stretch of memory. -/
def HoldsAt (image : Memory) (start : Int) (length : Nat) (m : Machine) : Prop :=
  m.WellFormed ∧ ∀ a : Fin 4096, start ≤ a.val → a.val < start + length → m.memory.get a = image.get a

variable {around : Surroundings} {image : Memory} {start : Int} {length : Nat} {m next : Machine} {i : Instruction}

lemma bytes_apart (image : Memory) (start : Int) (length : Nat) :
    Apart fun m => ∀ a : Fin 4096, start ≤ a.val → a.val < start + length → m.memory.get a = image.get a :=
  fun _ _ _ _ _ _ _ h => h

lemma outside_of_not_writesIn (hspared : ¬m.WritesIn i start length) {a : Fin 4096} (hstart : start ≤ a.val)
    (hend : a.val < start + length) : (a.val : Int) < m.index ∨ m.index + i.storedBytes ≤ a.val := by
  by_contra hinside
  exact hspared ⟨a.val, ⟨hstart, hend⟩, by omega, by omega⟩

lemma execute_eq_ok (hm : m.WellFormed) (hrun : Action.execute around i m = .ok () next) :
    m.obstacle i = none ∧ next = m.effect around i := by
  rw [Action.execute_run hm] at hrun
  cases hfree : m.obstacle i with
  | some cause =>
    rw [hfree] at hrun
    cases hrun
  | none =>
    rw [hfree] at hrun
    cases hrun
    exact ⟨rfl, rfl⟩

namespace HoldsAt

lemma execute (h : m.HoldsAt image start length) (hrun : Action.execute around i m = .ok () next)
    (hspared : ¬m.WritesIn i start length) : next.HoldsAt image start length := by
  obtain ⟨hfree, rfl⟩ := execute_eq_ok h.1 hrun
  refine ⟨h.1.effect hfree, fun a hstart hend => ?_⟩
  rw [memory_effect around h.1 (outside_of_not_writesIn hspared hstart hend), h.2 a hstart hend]

lemma step (h : m.HoldsAt image start length) {result : Option Instruction}
    (hrun : Action.step around m = .ok result next) (hspared : ∀ i ∈ result, ¬m.WritesIn i start length) :
    next.HoldsAt image start length := by
  have hnext := step_keeps_wellFormed around m h.1
  have hstep := step_stepped around h.1
  rw [hrun] at hnext hstep
  refine ⟨hnext, ?_⟩
  cases hstep with
  | waited _ => exact (bytes_apart image start length).resumed h.2
  | executed _ hword hdecode _ =>
    intro a hstart hend
    have hprint := footprint_effect around h.1 hword hdecode
    rw [hprint.memory a (outside_of_not_writesIn (hspared _ rfl) hstart hend), h.2 a hstart hend]

end HoldsAt

lemma Spares.holdsAt {last : Machine} (hspares : Spares around start length m last)
    (hm : m.HoldsAt image start length) : last.HoldsAt image start length := by
  induction hspares with
  | done m => exact hm
  | executed hrun hspared _ ih => exact ih (hm.execute hrun hspared)
  | stepped hrun hspared _ ih => exact ih (hm.step hrun hspared)
  | @outside m next _ act hact hrun _ ih =>
    have hkept := (bytes_apart image start length).keptAside.fromOutside hact m hm
    rw [hrun] at hkept
    exact ih hkept

/-- Where the counter stands does not matter to what an instruction makes of memory, registers and index. -/
lemma stores_fetched (around : Surroundings) (m : Machine) (word : Word) (i : Instruction) :
    ((m.fetched word).effect around i).memory = (m.effect around i).memory ∧
      ((m.fetched word).effect around i).registers = (m.effect around i).registers ∧
      ((m.fetched word).effect around i).index = (m.effect around i).index := by
  cases i with
  | skip condition =>
    rw [effect_skip, effect_skip]
    exact ⟨rfl, rfl, rfl⟩
  | loadRegisters last =>
    rw [effect, effect]
    exact ⟨rfl, rfl, rfl⟩
  | _ => exact ⟨rfl, rfl, rfl⟩

/-- An instruction that meets no obstacle achieves what its effect on memory, registers and index implies. -/
lemma achieves_of_free (hm : m.WellFormed) (hfree : m.obstacle i = none)
    (hfetched : ∀ word, (m.fetched word).obstacle i = none) {Q : Machine → Prop}
    (hQ : ∀ next : Machine, next.WellFormed → next.memory = (m.effect around i).memory →
      next.registers = (m.effect around i).registers → next.index = (m.effect around i).index → Q next) :
    m.Achieves around i Q where
  executed := by
    refine ⟨m.effect around i, ?_, hQ _ (hm.effect hfree) rfl rfl rfl⟩
    rw [Action.execute_run hm, hfree]
    rfl
  stepped word hrun hword hdecode := by
    have hsame := stores_fetched around m word i
    have hnext : ((m.fetched word).effect around i).WellFormed := (hm.fetched hword).effect (hfetched word)
    exact ⟨_, step_of_free hm hrun hword hdecode (hfetched word),
      hQ _ { hnext with } hsame.1 hsame.2.1 hsame.2.2⟩

lemma Achieves.imp {Q R : Machine → Prop} (h : m.Achieves around i Q) (hQ : ∀ next, Q next → R next) :
    m.Achieves around i R where
  executed := by
    obtain ⟨next, hrun, hnext⟩ := h.executed
    exact ⟨next, hrun, hQ next hnext⟩
  stepped word hrun hword hdecode := by
    obtain ⟨next, hstep, hnext⟩ := h.stepped word hrun hword hdecode
    exact ⟨next, hstep, hQ next hnext⟩

/-- The registers up to `last` have come to hold given values, and nothing else has changed of registers, memory and
index. -/
structure Loads (m : Machine) (last : Register) (values : Register → Int) (loaded : Machine) : Prop where
  first : ∀ z ≤ last, loaded.registers.get z = values z
  others : ∀ z, last < z → loaded.registers.get z = m.registers.get z
  memory : loaded.memory = m.memory
  index : loaded.index = m.index

lemma achieves_load (around : Surroundings) (hm : m.WellFormed) {last : Register}
    (hfit : m.index + (last.val + 1) ≤ 4096) :
    m.Achieves around (.loadRegisters last)
      (m.Loads last fun z => ((m.memory.get (cell (m.index + z.val))).toNat : Int)) := by
  have hfree : m.obstacle (.loadRegisters last) = none := overrun_eq_none_iff.2 hfit
  refine achieves_of_free hm hfree (fun _ => hfree) fun next _ hmemory hregisters hindex => ?_
  rw [effect] at hmemory hregisters hindex
  have hget (z : Register) : next.registers.get z =
      if z.val < last.val + 1 then ((m.memory.get (cell (m.index + z.val))).toNat : Int) else m.registers.get z := by
    rw [hregisters]
    exact Vector.getElem_ofFn _
  exact
    { first := fun z hz => (hget z).trans (if_pos (Nat.lt_succ_of_le hz))
      others := fun z hz => (hget z).trans (if_neg (Nat.not_lt.2 hz))
      memory := hmemory
      index := hindex }

/-- Bytes that were written at the index and then spared are what a load at the same index finds. -/
lemma achieves_load_written {stored later : Machine} {bytes : List UInt8} (h0 : 0 ≤ m.index)
    (hstored : stored.WellFormed) (hwritten : stored.memory = m.memory.write m.index.toNat bytes)
    (hfit : m.index + bytes.length ≤ 4096) (hspares : Spares around m.index bytes.length stored later)
    (hindex : later.index = m.index) {last : Register} (hlast : last.val < bytes.length) :
    later.Achieves around (.loadRegisters last) (later.Loads last fun z => ((bytes.getD z.val 0).toNat : Int)) := by
  have hlater : later.HoldsAt stored.memory m.index bytes.length :=
    hspares.holdsAt ⟨hstored, fun _ _ _ => rfl⟩
  refine (achieves_load around hlater.1 (by omega)).imp fun loaded hloads => { hloads with first := fun z hz => ?_ }
  have hz : z.val < bytes.length := Nat.lt_of_le_of_lt hz hlast
  have hcell : ((cell (m.index + z.val)).val : Int) = m.index + z.val := residue_of_lt _ (by omega) (by omega)
  rw [hloads.first z ‹_›, hindex, hlater.2 _ (by omega) (by omega), hwritten, get_write_at _ _ h0 hz hfit,
    List.getD_eq_getElem?_getD, List.getElem?_eq_getElem hz, Option.getD_some]

lemma getD_firstBytes (hm : m.WellFormed) {n : Nat} {z : Register} (hz : z.val < n) :
    (((m.firstBytes n).getD z.val 0).toNat : Int) = m.registers.get z := by
  have hbyte := hm.registers z
  have hregister : (List.finRange 16)[z.val]? = some z := by
    rw [List.getElem?_eq_getElem (by simp), List.getElem_finRange]
    rfl
  have hget : (m.firstBytes n)[z.val]? = some (UInt8.ofNat (m.registers.get z).toNat) := by
    rw [firstBytes, List.getElem?_map, List.getElem?_take_of_lt hz, hregister, Option.map_some]
  rw [List.getD_eq_getElem?_getD, hget, Option.getD_some, UInt8.toNat_ofNat']
  omega

lemma digits_decimal {value : Int} (hvalue : IsByte value) :
    (∀ k, (((digits value).getD k 0).toNat : Int) ≤ 9) ∧
      100 * (((digits value).getD 0 0).toNat : Int) + 10 * (((digits value).getD 1 0).toNat : Int) +
        (((digits value).getD 2 0).toNat : Int) = value := by
  obtain ⟨h0, h255⟩ := hvalue
  have hhundreds : ((digits value).getD 0 0).toNat = (value / 100).toNat % 256 := UInt8.toNat_ofNat'
  have htens : ((digits value).getD 1 0).toNat = (value / 10 % 10).toNat % 256 := UInt8.toNat_ofNat'
  have hunits : ((digits value).getD 2 0).toNat = (value % 10).toNat % 256 := UInt8.toNat_ofNat'
  refine ⟨fun k => ?_, by omega⟩
  match k with
  | 0 | 1 | 2 => omega
  | k + 3 => exact Int.zero_le_ofNat 9

end Machine

/-- Registers stored from `V0` on and loaded again at the same index are the old ones, as far as they are loaded, if
nothing in between writes over their bytes. -/
theorem registers_restored (around : Surroundings) (m : Machine) (hm : m.WellFormed) :
    (∀ last : Register, m.index + (last.val + 1) ≤ 4096 →
      m.Achieves around (.storeRegisters last) fun stored =>
        stored.index = m.index ∧
        (∀ a : Fin 4096, (a.val : Int) < m.index ∨ m.index + last.val < a.val →
          stored.memory.get a = m.memory.get a) ∧
        ∀ later, Machine.Spares around m.index (last.val + 1) stored later → later.index = m.index →
          ∀ upTo ≤ last, later.Achieves around (.loadRegisters upTo) (later.Loads upTo m.registers.get)) ∧
    ∀ x : Register, m.index + 3 ≤ 4096 →
      m.Achieves around (.storeDigits x) fun stored =>
        stored.index = m.index ∧
        ∀ later, Machine.Spares around m.index 3 stored later → later.index = m.index →
          later.Achieves around (.loadRegisters 2) fun loaded =>
            (∀ z ≤ 2, 0 ≤ loaded.registers.get z ∧ loaded.registers.get z ≤ 9) ∧
            100 * loaded.registers.get 0 + 10 * loaded.registers.get 1 + loaded.registers.get 2 =
              m.registers.get x := by
  have hindex := hm.index
  constructor
  · intro last hfit
    have hlength : (m.firstBytes (last.val + 1)).length = last.val + 1 := Machine.length_firstBytes (by omega)
    have hfree : m.obstacle (.storeRegisters last) = none := Machine.overrun_eq_none_iff.2 hfit
    refine Machine.achieves_of_free hm hfree (fun _ => hfree) fun stored hstored hmemory _ hsame => ?_
    have hwritten : stored.memory = m.memory.write m.index.toNat (m.firstBytes (last.val + 1)) := hmemory
    refine ⟨hsame, fun a hout => ?_, fun later hspares hback upTo hupTo => ?_⟩
    · rw [hwritten, Machine.get_write_outside]
      omega
    · rw [← hlength] at hspares
      refine (Machine.achieves_load_written hindex.1 hstored hwritten (by omega) hspares hback
        (by rw [hlength]; exact Nat.lt_succ_of_le hupTo)).imp fun loaded hloads => ?_
      exact { hloads with
        first := fun z hz => (hloads.first z hz).trans
          (Machine.getD_firstBytes hm (Nat.lt_succ_of_le (hz.trans hupTo))) }
  · intro x hfit
    have hx := hm.registers x
    have hfree : m.obstacle (.storeDigits x) = none := Machine.overrun_eq_none_iff.2 hfit
    refine Machine.achieves_of_free hm hfree (fun _ => hfree) fun stored hstored hmemory _ hsame => ?_
    have hwritten : stored.memory = m.memory.write m.index.toNat (Machine.digits (m.registers.get x)) := hmemory
    refine ⟨hsame, fun later hspares hback => ?_⟩
    obtain ⟨hdecimal, hsum⟩ := Machine.digits_decimal hx
    have hlast : (2 : Register).val < (Machine.digits (m.registers.get x)).length := Nat.lt_succ_self 2
    refine (Machine.achieves_load_written hindex.1 hstored hwritten hfit hspares hback hlast).imp
      fun loaded hloads => ⟨fun z hz => ?_, ?_⟩
    · rw [hloads.first z hz]
      exact ⟨Int.natCast_nonneg _, hdecimal z.val⟩
    · rw [hloads.first 0 (by decide), hloads.first 1 (by decide), hloads.first 2 (by decide)]
      exact hsum

/-- Two registers stored near the end of memory, one of them overwritten before they are loaded, and the digits of one
in the last three bytes. -/
theorem registers_restored_overwritten :
    let around : Surroundings := ⟨Dialect.modern, fun _ => 7⟩
    let m : Machine :=
      { Machine.fresh with index := 4093, registers := put (put (Vector.replicate 16 0) 0 17) 1 255 }
    (∃ stored loaded, Action.execute around (.storeRegisters 1) m = .ok () stored ∧
      Action.execute around (.loadRegisters 1) { stored.ticked with registers := put stored.registers 0 99 } =
        .ok () loaded ∧ loaded.registers.get 0 = 17 ∧ loaded.registers.get 1 = 255) ∧
    ∃ stored loaded, Action.execute around (.storeDigits 1) m = .ok () stored ∧
      Action.execute around (.loadRegisters 2) stored = .ok () loaded ∧
      100 * loaded.registers.get 0 + 10 * loaded.registers.get 1 + loaded.registers.get 2 = 255 := by
  intro around m
  have hm : m.WellFormed := { Machine.fresh_wellFormed with registers := by decide, index := by decide }
  obtain ⟨hregisters, hdigits⟩ := registers_restored around m hm
  constructor
  · obtain ⟨stored, hstored, hindex, -, hlater⟩ := (hregisters 1 (by decide)).executed
    have hspared (i : Instruction) (hnone : i.storedBytes = 0) (m' : Machine) : ¬m'.WritesIn i m.index 2 := by
      rintro ⟨a, -, h0, h1⟩
      omega
    have hspares :
        Machine.Spares around m.index 2 stored { stored.ticked with registers := put stored.registers 0 99 } :=
      .outside .tick Action.tick_run
        (.executed (i := .setConstant 0 99) rfl (hspared _ rfl _) (.done _))
    obtain ⟨loaded, hloaded, hloads⟩ := (hlater _ hspares hindex 1 (by decide)).executed
    exact ⟨stored, loaded, hstored, hloaded, hloads.first 0 (by decide), hloads.first 1 (by decide)⟩
  · obtain ⟨stored, hstored, hindex, hlater⟩ := (hdigits 1 (by decide)).executed
    obtain ⟨loaded, hloaded, -, hsum⟩ := (hlater stored (.done stored) hindex).executed
    exact ⟨stored, loaded, hstored, hloaded, hsum⟩

end Chip8
