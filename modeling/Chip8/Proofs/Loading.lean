import Chip8.Proofs.Footprint

/-!
# Loading programs

A program that does not fit changes nothing, also not the program that a reset brings back. One that fits leaves a
memory that is known byte by byte, whatever stood in it before, if it is loaded: the font, the program at its place and
zeros everywhere else. If it is only installed, its bytes replace those in its place. Main statement:
`load_all_or_nothing`.
-/

namespace Chip8

namespace Memory

/-- Bytes that are written stand between those in front of them and those behind them. -/
lemma toList_write (memory : Memory) {start : Nat} {bytes : List UInt8} (hfit : start + bytes.length ≤ 4096) :
    (memory.write start bytes).toList =
      memory.toList.take start ++ bytes ++ memory.toList.drop (start + bytes.length) := by
  induction bytes generalizing memory start with
  | nil => simp [write]
  | cons byte rest ih =>
    rw [List.length_cons] at hfit
    have hset : (memory.setIfInBounds start byte).toList =
        memory.toList.take start ++ [byte] ++ memory.toList.drop (start + 1) := by
      rw [Vector.toList_setIfInBounds, List.set_eq_take_append_cons_drop, Vector.length_toList, if_pos (by omega),
        List.append_assoc, List.singleton_append]
    have hlength : (memory.toList.take start ++ [byte]).length = start + 1 := by
      simp only [List.length_append, List.length_take, Vector.length_toList, List.length_singleton]
      omega
    have hbehind : start + 1 + rest.length = start + (byte :: rest).length := by
      rw [List.length_cons]
      omega
    rw [write, ih _ (by omega), hset, List.take_left' hlength, ← List.drop_drop, List.drop_left' hlength,
      List.drop_drop, hbehind, List.append_assoc (memory.toList.take start), List.singleton_append]

lemma toList_fresh : Memory.fresh.toList = font ++ List.replicate 4016 0 := by
  have hfont : font.length = 80 := rfl
  rw [fresh, toList_write _ (by rw [hfont]; omega), Vector.toList_replicate, List.take_zero, List.nil_append, hfont,
    List.drop_replicate]

/-- The memory after a load: the font, then zeros up to the program, and zeros behind it. -/
lemma toList_loaded {program : List UInt8} (hfit : program.length ≤ programLimit) :
    (loaded program).toList =
      font ++ List.replicate 432 0 ++ program ++ List.replicate (3584 - program.length) 0 := by
  have hlimit : program.length ≤ 3584 := hfit
  have hfont : font.length = 80 := rfl
  have hrest : 4016 - (512 + program.length - 80) = 3584 - program.length := by omega
  rw [loaded, toList_write _ (by unfold programStart; omega), toList_fresh, programStart, List.take_append,
    List.drop_append, hfont, List.take_of_length_le (by omega), List.drop_eq_nil_of_le (by omega), List.nil_append,
    List.take_replicate, List.drop_replicate, hrest]
  rfl

end Memory

section Consoles

variable {τ : Type}

lemma Console.install_run (program : List UInt8) (c : Console τ) :
    Console.onMachine (.installProgram program) c =
      if program.length > programLimit then .error (.programTooLarge program.length) c
      else .ok () { c with machine := { c.machine with memory := c.machine.memory.write programStart program } } := by
  have hinstall := Action.installProgram_run program c.machine
  split at hinstall
  · next hlarge => rw [onMachine_of_error hinstall, if_pos hlarge]
  · next hfit => rw [onMachine_of_ok hinstall, if_neg hfit]

/-- What is refused for its size, and changes nothing then, fails in no other way. -/
lemma refused_iff {α : Type} {c d : Console τ} {program : List UInt8} {e : Failure}
    {result : EStateM.Result Failure (Console τ) α}
    (hrefused : 3584 < program.length → result = .error (.programTooLarge program.length) c)
    (haccepted : program.length ≤ 3584 → ∃ a after, result = .ok a after) :
    result = .error e d ↔ 3584 < program.length ∧ e = .programTooLarge program.length ∧ d = c := by
  obtain hfit | hlarge := le_or_gt program.length 3584
  · obtain ⟨a, after, hresult⟩ := haccepted hfit
    rw [hresult]
    simp only [reduceCtorEq, false_iff, not_and]
    exact fun hlarge => absurd hlarge (Nat.not_lt.2 hfit)
  · rw [hrefused hlarge]
    simp only [EStateM.Result.error.injEq, hlarge, true_and, eq_comm]

variable [Duration τ]

/-- A program is refused exactly if it has more than 3584 bytes, and then nothing has changed; any other is remembered
and stands in memory byte by byte. -/
theorem load_all_or_nothing (c : Console τ) (program : List UInt8) :
    ((∀ e d, Console.load program c = .error e d ↔
        3584 < program.length ∧ e = .programTooLarge program.length ∧ d = c) ∧
      (program.length ≤ 3584 → ∃ loaded, Console.load program c = .ok () loaded ∧ loaded.program.bytes = program ∧
        loaded.machine.memory.toList.length = 4096 ∧
        loaded.machine.memory.toList =
          font ++ List.replicate 432 0 ++ program ++ List.replicate (3584 - program.length) 0)) ∧
    (∀ e d, Console.onMachine (.installProgram program) c = .error e d ↔
        3584 < program.length ∧ e = .programTooLarge program.length ∧ d = c) ∧
      (program.length ≤ 3584 → ∃ memory : Memory,
        Console.onMachine (.installProgram program) c = .ok () { c with machine := { c.machine with memory } } ∧
        memory.toList =
          c.machine.memory.toList.take 0x200 ++ program ++ c.machine.memory.toList.drop (0x200 + program.length)) := by
  have hinstall := Console.install_run program c
  refine ⟨⟨fun e d => refused_iff (load_of_large · c) fun hfit => ⟨_, _, load_of_fits hfit c⟩, fun hfit => ?_⟩,
    fun e d => refused_iff (hinstall.trans <| if_pos ·) fun hfit => ⟨_, _, hinstall.trans (if_neg (Nat.not_lt.2 hfit))⟩,
    fun hfit => ?_⟩
  · refine ⟨_, load_of_fits hfit c, rfl, Vector.length_toList, ?_⟩
    exact Memory.toList_loaded hfit
  · have hspace : 0x200 + program.length ≤ 4096 := by omega
    refine ⟨_, hinstall.trans (if_neg (Nat.not_lt.2 hfit)), ?_⟩
    exact Memory.toList_write _ hspace

/-- A program that is one byte too long, one that fills memory to its end, and a short one after it. -/
theorem load_all_or_nothing_full :
    let full : List UInt8 := List.replicate 3584 0xAA
    ∃ c loaded again : Console Rat, c.program.bytes = [0x12, 0x00] ∧
      Console.load (0xAA :: full) c = .error (.programTooLarge 3585) c ∧ Console.load full c = .ok () loaded ∧
      Console.load [0x00, 0xE0] loaded = .ok () again ∧
      again.machine.memory.toList = font ++ List.replicate 432 0 ++ [0x00, 0xE0] ++ List.replicate 3582 0 := by
  intro full
  have hfit : [(0x12 : UInt8), 0x00].length ≤ programLimit := by decide
  let c : Console Rat := { Console.fresh none with program := ⟨[0x12, 0x00], hfit⟩ }
  have hfull : full.length = 3584 := List.length_replicate
  have hlarge : (0xAA :: full).length = 3585 := by rw [List.length_cons, hfull]
  have hrefused := ((load_all_or_nothing c (0xAA :: full)).1.1 (.programTooLarge 3585) c).2
    ⟨by omega, by rw [hlarge], rfl⟩
  obtain ⟨loaded, hloaded, -⟩ := (load_all_or_nothing c full).1.2 (by omega)
  obtain ⟨again, hagain, -, -, hmemory⟩ := (load_all_or_nothing loaded [0x00, 0xE0]).1.2 (by decide)
  exact ⟨c, loaded, again, rfl, hrefused, hloaded, hagain, hmemory⟩

end Consoles

end Chip8
