import Chip8.Machine.Execution
import Mathlib.Tactic

/-!
# What the elementary actions do

An action on a machine whose fields are in range either completes with a machine that is written down here, or
stops with a fault and the machine as it was. Main statements: the equations `fetch_run`, `pushReturn_run`,
`popReturn_run`, `storeFirst_run` and `loadFirst_run`, from which the effect of every instruction is put together.
-/

namespace Chip8

section States

variable {ε σ α β : Type} {s t : σ}

lemma bind_of_ok {act : EStateM ε σ α} {next : α → EStateM ε σ β} {a : α} (h : act s = .ok a t) :
    (act >>= next) s = next a t := by
  change EStateM.bind act next s = _
  rw [EStateM.bind, h]

lemma bind_of_error {act : EStateM ε σ α} {next : α → EStateM ε σ β} {e : ε}
    (h : act s = .error e t) : (act >>= next) s = .error e t := by
  change EStateM.bind act next s = _
  rw [EStateM.bind, h]

lemma get_bind (next : σ → EStateM ε σ β) : (get >>= next) s = next s s := rfl

lemma modify_bind (f : σ → σ) (next : Unit → EStateM ε σ β) :
    ((modify f : EStateM ε σ Unit) >>= next) s = next () (f s) := rfl

end States

lemma sixteen_pos : 0 < 16 := by omega

lemma memorySize_pos : 0 < 4096 := by omega

lemma residue_of_lt {n : Nat} (pos : 0 < n) {i : Int} (h0 : 0 ≤ i) (hn : i < n) :
    ((residue n pos i).val : Int) = i := by
  rw [val_residue, Int.emod_eq_of_lt h0 hn]

/-- An integer that lies in a row names the place at its own distance from the front. -/
lemma slot?_eq_residue {n : Nat} (pos : 0 < n) {i : Int} (h0 : 0 ≤ i) (hn : i < n) :
    slot? n i = some (residue n pos i) := by
  have hval := residue_of_lt pos h0 hn
  rw [slot?, dif_pos ⟨h0, hn⟩]
  congr 1
  apply Fin.ext
  change i.toNat = _
  omega

/-- A row with one place replaced. -/
def put {α : Type} {n : Nat} (v : Vector α n) (i : Fin n) (a : α) : Vector α n := v.set i a i.isLt

lemma get_put {α : Type} {n : Nat} (v : Vector α n) (i j : Fin n) (a : α) :
    (put v i a).get j = if i = j then a else v.get j := by
  change (v.set i a)[j.val] = if i = j then a else v[j.val]
  rw [Vector.getElem_set]
  simp only [Fin.ext_iff]

namespace Memory

lemma write_append (memory : Memory) (start : Nat) (xs ys : List UInt8) :
    memory.write start (xs ++ ys) = (memory.write start xs).write (start + xs.length) ys := by
  induction xs generalizing memory start with
  | nil => rfl
  | cons x xs ih =>
    have hnext : start + (x :: xs).length = start + 1 + xs.length := by
      simp only [List.length_cons]
      omega
    rw [List.cons_append, write, write, ih, hnext]

lemma put_eq_write (memory : Memory) (i : Fin 4096) (byte : UInt8) :
    put memory i byte = memory.write i.val [byte] := by
  apply Vector.ext
  intro j hj
  rw [getElem_write, put, Vector.getElem_set]
  by_cases hij : i.val = j
  · simp [hij]
  · by_cases hle : i.val ≤ j
    · have hpos : j - i.val = (j - i.val - 1) + 1 := by omega
      rw [if_neg hij, if_pos hle, hpos]
      rfl
    · rw [if_neg hij, if_neg hle]

end Memory

namespace Machine

def reported (m : Machine) (r : Report) : Machine :=
  { m with reports := if m.tracing then r :: m.reports else m.reports }

/-- The stack slot that stands above a number of return addresses. -/
def stackSlot (depth : Int) : Fin 16 := residue 16 sixteen_pos depth

def cell (address : Int) : Fin 4096 := residue 4096 memorySize_pos address

/-- The word at the counter, if both of its bytes lie in memory. -/
def word? (m : Machine) : Option Word :=
  if 0 ≤ m.counter ∧ m.counter < 4095 then
    some (Word.ofBytes (m.memory.get (cell m.counter)) (m.memory.get (cell (m.counter + 1))))
  else none

/-- Why a stretch of memory cannot be used, if it reaches past the end. -/
def overrun (start length : Int) : Option FaultCause :=
  if start + length > 4096 then some (.rangeOutside start length) else none

lemma overrun_eq_none_iff {start length : Int} : overrun start length = none ↔ start + length ≤ 4096 := by
  unfold overrun
  split
  · simp only [reduceCtorEq, false_iff]
    omega
  · simp only [true_iff]
    omega

lemma take_finRange_succ {n : Nat} (hn : n < 16) :
    (List.finRange 16).take (n + 1) = (List.finRange 16).take n ++ [⟨n, hn⟩] := by
  rw [List.take_succ_eq_append_getElem (by simpa using hn), List.getElem_finRange]
  rfl

/-- The first registers as bytes. -/
def firstBytes (m : Machine) (n : Nat) : List UInt8 :=
  ((List.finRange 16).take n).map fun i => UInt8.ofNat (m.registers.get i).toNat

lemma length_firstBytes {m : Machine} {n : Nat} (hn : n ≤ 16) : (m.firstBytes n).length = n := by
  simp only [firstBytes, List.length_map, List.length_take, List.length_finRange]
  omega

lemma firstBytes_succ {m : Machine} {n : Nat} (hn : n < 16) :
    m.firstBytes (n + 1) = m.firstBytes n ++ [UInt8.ofNat (m.registers.get ⟨n, hn⟩).toNat] := by
  rw [firstBytes, take_finRange_succ hn, List.map_append]
  rfl

/-- The registers with the first ones loaded from an address on. -/
def withLoaded (m : Machine) (start : Int) (n : Nat) : Vector Int 16 :=
  Vector.ofFn fun i =>
    if i.val < n then ((m.memory.get (cell (start + i.val))).toNat : Int) else m.registers.get i

lemma withLoaded_zero (m : Machine) (start : Int) : m.withLoaded start 0 = m.registers := by
  apply Vector.ext
  intro i hi
  rw [withLoaded, Vector.getElem_ofFn]
  rfl

lemma withLoaded_succ {m : Machine} {start : Int} {n : Nat} (hn : n < 16) :
    m.withLoaded start (n + 1) =
      (m.withLoaded start n).set n ((m.memory.get (cell (start + n))).toNat : Int) := by
  apply Vector.ext
  intro i hi
  rw [Vector.getElem_set, withLoaded, withLoaded, Vector.getElem_ofFn, Vector.getElem_ofFn]
  by_cases hin : n = i
  · subst hin
    rw [if_pos rfl, if_pos (Nat.lt_succ_self n)]
  · have hlt : i < n + 1 ↔ i < n := by omega
    rw [if_neg hin]
    simp only [hlt]

end Machine

namespace Action

variable {m : Machine}

lemma report_run (r : Report) : report r m = .ok () (m.reported r) := by
  change EStateM.Result.ok () (if m.tracing then { m with reports := r :: m.reports } else m) = _
  unfold Machine.reported
  split
  · rfl
  · rfl

lemma slot_of_some {n : Nat} {i : Int} {k : Fin n} (hslot : slot? n i = some k) : slot n i m = .ok k m := by
  rw [slot, hslot]
  rfl

lemma slot_of_none {n : Nat} {i : Int} (hslot : slot? n i = none) : slot n i m = .error .noSuchSlot m := by
  rw [slot, hslot]
  rfl

lemma slot_run {n : Nat} (pos : 0 < n) {i : Int} (h0 : 0 ≤ i) (hn : i < n) :
    slot n i m = .ok (residue n pos i) m :=
  slot_of_some (slot?_eq_residue pos h0 hn)

lemma checkRange_run {start length : Int} (h0 : 0 ≤ start) :
    checkRange start length m =
      match Machine.overrun start length with
      | some cause => .error (.fault ⟨cause, m.counter, none⟩) m
      | none => .ok () m := by
  unfold checkRange Machine.overrun
  by_cases hr : start + length > 4096
  · rw [if_pos (Or.inr hr), if_pos hr]
    rfl
  · rw [if_neg (by omega), if_neg hr]
    rfl

lemma checkRange_ok {start length : Int} (h0 : 0 ≤ start) (hfit : start + length ≤ 4096) :
    checkRange start length m = .ok () m := by
  rw [checkRange_run h0, Machine.overrun, if_neg (by omega)]

/-- A fetch reads the word at the counter and moves past it, or changes nothing. -/
lemma fetch_run (h0 : 0 ≤ m.counter) :
    fetch m =
      match m.word? with
      | some word => .ok word { m with counter := m.counter + 2 }
      | none => .error (.fault ⟨.fetchOutside, m.counter, none⟩) m := by
  unfold fetch Machine.word?
  rw [get_bind]
  by_cases hp : m.counter < 4095
  · rw [if_neg (by omega), if_pos ⟨h0, hp⟩, bind_of_ok (slot_run (by omega) h0 (by omega)),
      bind_of_ok (slot_run (by omega) (by omega) (by omega))]
    rfl
  · rw [if_pos (by omega), if_neg (fun h => hp h.2)]
    rfl

/-- A fetch that succeeds moves past the word and does nothing else. -/
lemma eq_of_fetch {word : Word} {next : Machine} (hfetch : fetch m = .ok word next) :
    next = { m with counter := m.counter + 2 } := by
  unfold fetch at hfetch
  rw [get_bind] at hfetch
  split at hfetch
  · cases hfetch
  · cases hhigh : slot? 4096 m.counter with
    | none =>
      rw [bind_of_error (slot_of_none hhigh)] at hfetch
      cases hfetch
    | some high =>
      rw [bind_of_ok (slot_of_some hhigh)] at hfetch
      cases hlow : slot? 4096 (m.counter + 1) with
      | none =>
        rw [bind_of_error (slot_of_none hlow)] at hfetch
        cases hfetch
      | some low =>
        rw [bind_of_ok (slot_of_some hlow)] at hfetch
        cases hfetch
        rfl

lemma jump_run {target : Int} (h0 : 0 ≤ target) :
    jump target m =
      if target < 4096 then .ok () { m with counter := target }
      else .error (.fault ⟨.jumpOutside target, m.counter, none⟩) m := by
  unfold jump
  by_cases ht : target < 4096
  · rw [if_pos ⟨h0, ht⟩, if_pos ht]
    rfl
  · rw [if_neg (by omega), if_neg ht]
    rfl

lemma pushReturn_run (address : Int) (h0 : 0 ≤ m.depth) (h16 : m.depth ≤ 16) :
    pushReturn address m =
      if m.depth = 16 then .error (.fault ⟨.stackFull, m.counter, none⟩) m
      else .ok () { m with
        stack := put m.stack (Machine.stackSlot m.depth) address
        depth := m.depth + 1 } := by
  unfold pushReturn
  rw [get_bind]
  by_cases hfull : m.depth = 16
  · rw [if_pos hfull, if_pos hfull]
    rfl
  · rw [if_neg hfull, if_neg hfull, get_bind, bind_of_ok (slot_run (by omega) h0 (by omega))]
    rfl

lemma popReturn_run (h0 : 0 ≤ m.depth) (h16 : m.depth ≤ 16) :
    popReturn m =
      if m.depth = 0 then .error (.fault ⟨.stackEmpty, m.counter, none⟩) m
      else .ok (m.stack.get (Machine.stackSlot (m.depth - 1))) { m with depth := m.depth - 1 } := by
  unfold popReturn
  rw [get_bind]
  by_cases hempty : m.depth = 0
  · rw [if_pos hempty, if_pos hempty]
    rfl
  · let below : Machine := { m with depth := m.depth - 1 }
    have hslot : slot 16 (m.depth - 1) below = .ok (Machine.stackSlot (m.depth - 1)) below :=
      slot_run (by omega) (by omega) (by omega)
    rw [if_neg hempty, if_neg hempty]
    change (slot 16 (m.depth - 1) >>= fun top => get >>= fun s => pure s.stack[top]) below = _
    rw [bind_of_ok hslot]
    rfl

lemma store_run {address value : Int} (h0 : 0 ≤ address) (ha : address < 4096)
    (hv : 0 ≤ value ∧ value ≤ 255) :
    store address value m =
      .ok () { m with memory := m.memory.write address.toNat [UInt8.ofNat value.toNat] } := by
  have hcell := residue_of_lt (n := 4096) (by omega) h0 ha
  have haddress : address.toNat = (residue 4096 (by omega) address).val := by omega
  rw [store, bind_of_ok (slot_run (n := 4096) (by omega) h0 ha), if_pos hv, haddress, ← Memory.put_eq_write]
  rfl

lemma load_run {address : Int} (h0 : 0 ≤ address) (ha : address < 4096) :
    load address m = .ok ((m.memory.get (Machine.cell address)).toNat : Int) m := by
  rw [load, bind_of_ok (slot_run (n := 4096) (by omega) h0 ha)]
  rfl

lemma registersUpTo_eq_take (last : Register) :
    registersUpTo last = (List.finRange 16).take (last.val + 1) := by
  revert last
  decide

lemma forM_first_succ (act : Register → Action Unit) {n : Nat} (hn : n < 16) :
    ((List.finRange 16).take (n + 1)).forM act =
      ((List.finRange 16).take n).forM act >>= fun _ => act ⟨n, hn⟩ := by
  rw [Machine.take_finRange_succ hn, List.forM_eq_forM, List.forM_append]
  simp only [List.forM_cons, List.forM_nil, bind_pure_unit]

/-- Storing the first registers one after the other writes their bytes in a row. -/
lemma storeFirst_run (hbyte : ∀ x : Register, 0 ≤ m.registers.get x ∧ m.registers.get x ≤ 255) {start : Int}
    (h0 : 0 ≤ start) (n : Nat) (hn : n ≤ 16) (hfit : start + n ≤ 4096) :
    (((List.finRange 16).take n).forM fun i => do store (start + i.val) (← register i)) m =
      .ok () { m with memory := m.memory.write start.toNat (m.firstBytes n) } := by
  induction n with
  | zero => rfl
  | succ n ih =>
    have hstart : 0 ≤ start + (n : Int) := by omega
    have hend : start + (n : Int) < 4096 := by omega
    have hplace : (start + n).toNat = start.toNat + (m.firstBytes n).length := by
      rw [Machine.length_firstBytes (by omega)]
      omega
    rw [forM_first_succ _ (by omega), bind_of_ok (ih (by omega) (by omega)), Machine.firstBytes_succ (by omega),
      Memory.write_append, ← hplace]
    exact store_run hstart hend (hbyte _)

/-- Loading the first registers one after the other leaves the others as they were. -/
lemma loadFirst_run {start : Int} (h0 : 0 ≤ start) (n : Nat) (hn : n ≤ 16) (hfit : start + n ≤ 4096) :
    (((List.finRange 16).take n).forM fun i => do setRegister i (← load (start + i.val))) m =
      .ok () { m with registers := m.withLoaded start n } := by
  induction n with
  | zero =>
    rw [Machine.withLoaded_zero]
    rfl
  | succ n ih =>
    have hstart : 0 ≤ start + (n : Int) := by omega
    have hend : start + (n : Int) < 4096 := by omega
    rw [forM_first_succ _ (by omega), bind_of_ok (ih (by omega) (by omega)), bind_of_ok (load_run hstart hend),
      Machine.withLoaded_succ (by omega)]
    rfl

lemma installProgram_run (program : List UInt8) (m : Machine) :
    installProgram program m =
      if program.length > programLimit then .error (.programTooLarge program.length) m
      else .ok () { m with memory := m.memory.write programStart program } := by
  unfold installProgram
  split
  · rfl
  · rfl

end Action

end Chip8
