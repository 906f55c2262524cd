import Chip8.Proofs.Dialects
import Chip8.Proofs.Drawing
import Chip8.Proofs.Invariant

/-!
# Sprites in memory

A draw instruction end to end: the bytes at the index register are placed where two registers say, each of their bits
turns one pixel around, and the flag and the number of lit pixels follow from how many pixels are turned off. The place
is read before the flag is written, also if it is given by the flag register. No other register changes, and neither
does memory or the index register. Main statement: `draw_instruction_exact`.
-/

namespace Chip8

namespace Cell

def numbered : Fin 2048 ≃ Cell where
  toFun := ofNumber
  invFun := number
  left_inv := number_ofNumber
  right_inv := ofNumber_number

instance : Fintype Cell := Fintype.ofEquiv (Fin 2048) numbered

end Cell

namespace Sprite

/-- How many of the eight bits of a row are set. -/
def ones (row : Int) : Nat := (Finset.univ.filter fun k : Fin 8 => Bits.bit row k.val = true).card

variable (order : BitOrder) (x y : Int)

/-- In either order a row covers one cell for every bit that is set. -/
lemma length_rowCells (row : Int) : (rowCells order x y row).length = ones row := by
  have hcard : (rowCells order x y row).length = (Finset.univ.filter fun b : Fin 8 => lit order row b = true).card := by
    rw [card_filter_fin, rowCells, List.length_map, List.countP_eq_length_filter]
    simp only [Bool.decide_eq_true]
  rw [hcard, ones]
  cases order with
  | lowestLeft => rfl
  | highestLeft =>
    apply Finset.card_equiv Fin.revPerm
    intro b
    have hrev : (Fin.revPerm b).val = 7 - b.val := by
      rw [Fin.revPerm_apply, Fin.val_rev]
      omega
    rw [Finset.mem_filter_univ, Finset.mem_filter_univ, lit, hrev]

lemma length_cells (rows : List Int) : (cells order x y rows).length = (rows.map ones).sum := by
  induction rows generalizing y with
  | nil => rfl
  | cons row rows ih => rw [cells, List.length_append, length_rowCells, ih, List.map_cons, List.sum_cons]

/-- Every bit that is set hits some pixel. -/
lemma sum_hits (rows : List Int) : ∑ p : Cell, hits order x y rows p = (rows.map ones).sum := by
  have hcard := Multiset.sum_count_eq_card (m := (cells order x y rows : Multiset Cell)) fun p _ => Finset.mem_univ p
  simp only [Multiset.coe_count, Multiset.coe_card, count_cells] at hcard
  rw [hcard, length_cells]

end Sprite

namespace Screen

/-- How many pixels are lit in the first and not in the second of two screens. -/
def erased (before after : Screen) : Nat :=
  (Finset.univ.filter fun p : Cell => before.get p = true ∧ after.get p = false).card

lemma erased_pos_iff (before after : Screen) :
    0 < before.erased after ↔ ∃ p, before.get p = true ∧ after.get p = false := by
  rw [erased, Finset.card_pos, Finset.filter_nonempty_iff]
  simp

lemma get_numbered (s : Screen) (i : Fin 2048) : s.get (Cell.numbered i) = s.pixels.get i :=
  congrArg s.pixels.get (Cell.number_ofNumber i)

lemma litCount_eq_card (s : Screen) : s.litCount = (Finset.univ.filter fun p : Cell => s.get p = true).card := by
  have hpixels : s.pixels.toList = (List.finRange 2048).map fun i => s.get (Cell.numbered i) := by
    apply List.ext_getElem
    · rw [Vector.length_toList, List.length_map, List.length_finRange]
    · intro i hi hi'
      rw [List.getElem_map, List.getElem_finRange, Vector.getElem_toList, get_numbered]
      rfl
  have hequiv : (Finset.univ.filter fun p : Cell => s.get p = true).card =
      (Finset.univ.filter fun i : Fin 2048 => s.get (Cell.numbered i) = true).card :=
    (Finset.card_equiv Cell.numbered (by simp)).symm
  rw [hequiv, card_filter_fin, litCount, hpixels, List.count, List.countP_map]
  apply List.countP_congr
  intro i _
  simp

variable (order : BitOrder) (x y : Int) (rows : List Int) (s : Screen)

/-- As long as a sprite does not meet itself, each of its bits lights a pixel or turns one off. -/
lemma litCount_draw (hrows : rows.length ≤ 32) :
    (s.draw order x y rows).2.litCount + 2 * s.erased (s.draw order x y rows).2 =
      s.litCount + (rows.map Sprite.ones).sum := by
  have hpixel (p : Cell) :
      (if (s.draw order x y rows).2.get p = true then 1 else 0) +
          2 * (if s.get p = true ∧ (s.draw order x y rows).2.get p = false then 1 else 0) =
        (if s.get p = true then 1 else 0) + Sprite.hits order x y rows p := by
    have honce := Sprite.hits_le_one order x y rows p hrows
    rw [get_draw]
    obtain hnone | hone : Sprite.hits order x y rows p = 0 ∨ Sprite.hits order x y rows p = 1 := by omega
    · rw [hnone]
      cases s.get p <;> rfl
    · rw [hone]
      cases s.get p <;> rfl
  rw [litCount_eq_card, litCount_eq_card, erased, ← Sprite.sum_hits order x y rows]
  simp only [Finset.card_filter, Finset.mul_sum, ← Finset.sum_add_distrib]
  exact Finset.sum_congr rfl fun p _ => hpixel p

end Screen

namespace Machine

/-- A byte at or after the index register, as the row of a sprite. -/
def spriteRow (m : Machine) (i : Nat) : Int := ((m.memory.get (cell (m.index + i))).toNat : Int)

/-- A bit that is set in one of the first `height` bytes at the index register is placed on `p`, if the top left corner
is where the two registers say. -/
def Covers (around : Surroundings) (m : Machine) (x y : Register) (height : Fin 16) (p : Cell) : Prop :=
  ∃ (i : Fin height.val) (b : Fin 8), Sprite.lit around.dialect.bitOrder (m.spriteRow i.val) b = true ∧
    (m.registers.get x + b.val) % 64 = p.column.val ∧ (m.registers.get y + i.val) % 32 = p.row.val

instance {around : Surroundings} {m : Machine} {x y : Register} {height : Fin 16} {p : Cell} :
    Decidable (m.Covers around x y height p) :=
  inferInstanceAs (Decidable (∃ _ : Fin height.val, ∃ _ : Fin 8, _))

/-- What drawing changes, executed by itself or in a step, is the screen and the flag register. -/
structure Draws (around : Surroundings) (m : Machine) (x y : Register) (height : Fin 16) (screen : Screen)
    (registers : Vector Int 16) : Prop where
  executed : Action.execute around (.draw x y height) m =
    .ok () { m with screen := screen, dirty := true, registers := registers }
  stepped : ∀ word, m.awaiting = none → m.word? = some word → Instruction.decode word = some (.draw x y height) →
    Action.step around m = .ok (some (.draw x y height))
      { (m.fetched word).counted with screen := screen, dirty := true, registers := registers }
  pixels : ∀ p, screen.get p = (m.screen.get p ^^ decide (m.Covers around x y height p))
  lit : screen.litCount + 2 * m.screen.erased screen =
    m.screen.litCount + ∑ i : Fin height.val, Sprite.ones (m.spriteRow i.val)
  flag : registers.get flagRegister = if 0 < m.screen.erased screen then 1 else 0
  others : ∀ z, z ≠ flagRegister → registers.get z = m.registers.get z

variable {around : Surroundings} {m : Machine} {x y : Register} {height : Fin 16}

lemma sprite_eq_ofFn (hindex : 0 ≤ m.index) (hfit : m.index + height.val ≤ 4096) :
    m.sprite height = List.ofFn fun i : Fin height.val => m.spriteRow i.val := by
  have hextract : m.index.toNat + height.val ≤ 4096 := by omega
  apply List.ext_getElem
  · simp only [sprite, Memory.read, List.length_map, Array.length_toList, Array.size_extract, Vector.size_toArray,
      List.length_ofFn]
    omega
  · intro i hi hi'
    rw [List.length_ofFn] at hi'
    have hcell : cell (m.index + i) = ⟨m.index.toNat + i, by omega⟩ := by
      apply Fin.ext
      have hval := val_residue 4096 memorySize_pos (m.index + i)
      rw [cell]
      simp only
      omega
    simp only [sprite, Memory.read, List.getElem_map, Array.getElem_toList, Array.getElem_extract, List.getElem_ofFn,
      spriteRow, hcell]
    rfl

lemma covers_iff (hrows : m.sprite height = List.ofFn fun i : Fin height.val => m.spriteRow i.val) (p : Cell) :
    m.Covers around x y height p ↔
      1 ≤ Sprite.hits around.dialect.bitOrder (m.registers.get x) (m.registers.get y) (m.sprite height) p := by
  rw [Sprite.hits_pos_iff, hrows]
  constructor
  · rintro ⟨i, b, hlit, hplace⟩
    refine ⟨i.cast List.length_ofFn.symm, b, ?_, hplace⟩
    rw [List.get_ofFn]
    exact hlit
  · rintro ⟨i, b, hlit, hplace⟩
    rw [List.get_ofFn] at hlit
    exact ⟨i.cast List.length_ofFn, b, hlit, hplace⟩

end Machine

/-- In either bit order, a draw instruction whose bytes lie in memory completes and turns around exactly the pixels that
its set bits are placed on. -/
theorem draw_instruction_exact (around : Surroundings) {m : Machine} (hm : m.WellFormed) (x y : Register)
    {height : Fin 16} (hfit : m.index + height.val ≤ 4096) :
    ∃ screen registers, m.Draws around x y height screen registers := by
  have hindex := hm.index.1
  have hrows := Machine.sprite_eq_ofFn hindex hfit
  have hheight : (m.sprite height).length ≤ 32 := by
    rw [hrows, List.length_ofFn]
    omega
  have hinside : ¬(m.index < 0 ∨ m.index + height.val > 4096) := by omega
  refine ⟨(m.drawing around x y height).2, (m.effect around (.draw x y height)).registers, ?_, ?_, ?_, ?_, ?_, ?_⟩
  · exact (Action.drawSprite_run around x y height).trans (if_neg hinside)
  · intro word hrun hword hdecode
    have hfetch := Action.fetch_run (Machine.counter_of_word? hword).1
    rw [hword] at hfetch
    exact Machine.step_of_execute hrun hfetch hdecode
      ((Action.drawSprite_run around x y height).trans (if_neg hinside))
  · intro p
    have honce := Sprite.hits_le_one around.dialect.bitOrder (m.registers.get x) (m.registers.get y) _ p hheight
    have hodd : m.Covers around x y height p ↔ Sprite.hits around.dialect.bitOrder (m.registers.get x)
        (m.registers.get y) (m.sprite height) p % 2 = 1 := by
      rw [Machine.covers_iff hrows]
      omega
    rw [decide_eq_decide.2 hodd]
    exact Screen.get_draw around.dialect.bitOrder (m.registers.get x) (m.registers.get y) (m.sprite height) m.screen p
  · have hlit := Screen.litCount_draw around.dialect.bitOrder (m.registers.get x) (m.registers.get y) (m.sprite height)
      m.screen hheight
    have hsum : ((m.sprite height).map Sprite.ones).sum = ∑ i : Fin height.val, Sprite.ones (m.spriteRow i.val) := by
      rw [hrows, List.map_ofFn, List.sum_ofFn]
      rfl
    rw [hsum] at hlit
    exact hlit
  · have hhit := Screen.hit_draw_iff_erases around.dialect.bitOrder (m.registers.get x) (m.registers.get y)
      (m.sprite height) m.screen hheight
    rw [← Screen.erased_pos_iff] at hhit
    refine (get_put _ _ _ _).trans ((if_pos rfl).trans ?_)
    exact if_congr hhit rfl rfl
  · intro z hz
    exact (get_put _ _ _ _).trans (if_neg hz.symm)

/-- The flag register names both coordinates: the glyph is drawn over the corner, and the flag is set after that. -/
theorem draw_instruction_exact_corner :
    let around : Surroundings := ⟨Dialect.modern, fun _ => 0⟩
    let corner : Cell := ⟨62, 30⟩
    let m : Machine :=
      { Machine.fresh with
        registers := put (Vector.replicate 16 0) flagRegister 62
        screen := Screen.blank.toggle corner }
    m.WellFormed ∧ m.index + (5 : Fin 16).val ≤ 4096 ∧ ∃ screen registers,
      m.Draws around flagRegister flagRegister 5 screen registers ∧ registers.get flagRegister = 1 := by
  intro around corner m
  have hplace : IsByte 62 := ⟨by decide, by decide⟩
  have hm : m.WellFormed :=
    { Machine.fresh_wellFormed with registers := Machine.fresh_wellFormed.set_register flagRegister hplace }
  have hfit : m.index + (5 : Fin 16).val ≤ 4096 := by decide
  obtain ⟨screen, registers, hdraws⟩ := draw_instruction_exact around hm flagRegister flagRegister hfit
  have hlit : m.screen.get corner = true := by
    rw [Screen.get_toggle, if_pos rfl, Screen.get_blank]
    rfl
  have hcovers : m.Covers around flagRegister flagRegister 5 corner := by decide +kernel
  have hoff : screen.get corner = false := by
    rw [hdraws.pixels, hlit, decide_eq_true hcovers]
    rfl
  have herased := (Screen.erased_pos_iff m.screen screen).2 ⟨corner, hlit, hoff⟩
  exact ⟨hm, hfit, screen, registers, hdraws, hdraws.flag.trans (if_pos herased)⟩

end Chip8
