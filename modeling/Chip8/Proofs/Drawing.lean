import Chip8.Proofs.Actions

/-!
# Drawing on the torus

A sprite turns a pixel around once for every lit bit that lands on it, so all that counts is how often each pixel is
hit.

Main statements: `draw_turns_hit_pixels` gives the pixels after a draw, which always completes, and the collision that
it reports: some pixel is hit twice, or is hit and was lit before. A sprite of at most thirty-two rows hits no pixel
twice, so it collides exactly if it turns a lit pixel off. By `draws_commute_and_cancel` draws can be made in any order,
and a second one, at a place that wraps to the same one, undoes the first; if the sprite has a bit, exactly one of the
two collides, and on a blank screen that is the second.
-/

namespace Chip8

lemma residue_eq_iff_emod {n : Nat} (pos : 0 < n) (i : Int) (k : Fin n) : residue n pos i = k ↔ i % n = k.val := by
  rw [Fin.ext_iff, ← val_residue n pos]
  omega

lemma card_filter_fin {n : Nat} (P : Fin n → Prop) [DecidablePred P] :
    (Finset.univ.filter P).card = (List.finRange n).countP P := by
  rw [List.countP_eq_length_filter, Fin.univ_def]
  rfl

lemma Cell.wrap_eq_iff (x y : Int) (p : Cell) : wrap x y = p ↔ x % 64 = p.column.val ∧ y % 32 = p.row.val := by
  obtain ⟨column, row⟩ := p
  rw [wrap, Cell.mk.injEq, residue_eq_iff_emod, residue_eq_iff_emod]
  rfl

namespace Screen

variable (s : Screen) (cells : List Cell)

lemma foldl_toggle (hit : Bool) :
    cells.foldl (fun (hit, s) c => (hit || s.get c, s.toggle c)) (hit, s) =
      (hit || (s.toggleAll cells).1, (s.toggleAll cells).2) := by
  induction cells generalizing hit s with
  | nil => simp [toggleAll]
  | cons c cells ih => rw [toggleAll, List.foldl_cons, List.foldl_cons, ih, ih, Bool.false_or, Bool.or_assoc]

lemma toggleAll_cons (c : Cell) :
    s.toggleAll (c :: cells) = (s.get c || ((s.toggle c).toggleAll cells).1, ((s.toggle c).toggleAll cells).2) := by
  rw [toggleAll, List.foldl_cons, foldl_toggle, Bool.false_or]

lemma get_toggleAll (p : Cell) :
    (s.toggleAll cells).2.get p = (s.get p ^^ decide (cells.count p % 2 = 1)) := by
  induction cells generalizing s with
  | nil => simp [toggleAll]
  | cons c cells ih =>
    rw [toggleAll_cons, ih, get_toggle]
    by_cases hc : c = p
    · subst hc
      have hflip : decide ((c :: cells).count c % 2 = 1) = !decide (cells.count c % 2 = 1) := by
        rw [List.count_cons_self, ← decide_not, decide_eq_decide]
        omega
      rw [if_pos rfl, hflip, Bool.not_xor, Bool.xor_not]
    · rw [if_neg hc, List.count_cons_of_ne hc]

/-- A lit cell is turned off exactly if some cell is turned twice, or is lit before and turned at all. -/
lemma hit_toggleAll :
    (s.toggleAll cells).1 = true ↔ ∃ p, 2 ≤ cells.count p ∨ (1 ≤ cells.count p ∧ s.get p = true) := by
  induction cells generalizing s with
  | nil => simp [toggleAll]
  | cons c cells ih =>
    have hself : (c :: cells).count c = cells.count c + 1 := List.count_cons_self
    have hturned : (s.toggle c).get c = !s.get c := by rw [get_toggle, if_pos rfl]
    have hother {p : Cell} (hne : c ≠ p) :
        (s.toggle c).get p = s.get p ∧ (c :: cells).count p = cells.count p :=
      ⟨by rw [get_toggle, if_neg hne], List.count_cons_of_ne hne⟩
    rw [toggleAll_cons, Bool.or_eq_true, ih]
    constructor
    · rintro (hlit | ⟨p, hp⟩)
      · exact ⟨c, .inr ⟨by omega, hlit⟩⟩
      · by_cases hc : c = p
        · subst hc
          exact ⟨c, .inl (by omega)⟩
        · rw [(hother hc).1] at hp
          exact ⟨p, by rwa [(hother hc).2]⟩
    · rintro ⟨p, hp⟩
      by_cases hc : c = p
      · subst hc
        cases hlit : s.get c with
        | true => exact .inl rfl
        | false =>
          -- an unlit cell is lit by its first turn, so a second one has to follow
          have hagain : 1 ≤ cells.count c := by
            rcases hp with htwice | ⟨_, hlit'⟩
            · omega
            · rw [hlit] at hlit'
              cases hlit'
          exact .inr ⟨c, .inr ⟨hagain, by rw [hturned, hlit]; rfl⟩⟩
      · rw [(hother hc).2] at hp
        exact .inr ⟨p, by rwa [(hother hc).1]⟩

end Screen

namespace Sprite

/-- How often a sprite with its top left corner at `x`, `y` hits a pixel. The bit in row `i` and column `b`, if it
is lit, lands in column `x + b` and row `y + i` of the torus. -/
def hits (order : BitOrder) (x y : Int) (rows : List Int) (p : Cell) : Nat :=
  (Finset.univ.filter fun place : Fin rows.length × Fin 8 =>
    lit order (rows.get place.1) place.2 = true ∧
      (x + place.2.val) % 64 = p.column.val ∧ (y + place.1.val) % 32 = p.row.val).card

/-- Among the eight bits of some row there is a one. -/
def HasBit (rows : List Int) : Prop := ∃ row ∈ rows, ∃ k : Fin 8, Bits.bit row k.val = true

variable (order : BitOrder) (x y : Int) (rows : List Int) (p : Cell)

lemma count_rowCells (row : Int) :
    (rowCells order x y row).count p =
      ∑ b : Fin 8, if lit order row b = true ∧ (x + b.val) % 64 = p.column.val ∧ y % 32 = p.row.val then 1 else 0 := by
  rw [Finset.sum_boole, card_filter_fin, rowCells, List.count, List.countP_map, List.countP_filter]
  apply List.countP_congr
  intro b _
  simp [Cell.wrap_eq_iff, and_comm]

lemma hits_eq_sum :
    hits order x y rows p = ∑ i : Fin rows.length, (rowCells order x (y + i.val) (rows.get i)).count p := by
  rw [hits, Finset.card_filter, Fintype.sum_prod_type]
  simp only [count_rowCells]

lemma hits_cons (row : Int) :
    hits order x y (row :: rows) p = (rowCells order x y row).count p + hits order x (y + 1) rows p := by
  have hbelow (i : Fin rows.length) : y + (i.succ.val : Int) = y + 1 + i.val := by
    rw [Fin.val_succ]
    push_cast
    ring
  rw [hits_eq_sum, hits_eq_sum]
  refine (Fin.sum_univ_succ _).trans ?_
  congr 1
  · simp
  · apply Finset.sum_congr rfl
    intro i _
    rw [hbelow]
    rfl

lemma count_cells : (cells order x y rows).count p = hits order x y rows p := by
  induction rows generalizing y with
  | nil => simp [cells, hits]
  | cons row rows ih => rw [cells, List.count_append, ih, hits_cons]

/-- A sprite that is no taller than the screen does not meet itself. -/
lemma hits_le_one (hrows : rows.length ≤ 32) : hits order x y rows p ≤ 1 := by
  rw [hits, Finset.card_le_one]
  rintro ⟨i, b⟩ hplace ⟨i', b'⟩ hplace'
  simp only [Finset.mem_filter, Finset.mem_univ, true_and] at hplace hplace'
  have hi := i.isLt
  have hi' := i'.isLt
  have hcolumn : b.val = b'.val := by omega
  have hrow : i.val = i'.val := by omega
  rw [Prod.mk.injEq]
  exact ⟨Fin.ext hrow, Fin.ext hcolumn⟩

lemma hits_pos_iff :
    1 ≤ hits order x y rows p ↔ ∃ (i : Fin rows.length) (b : Fin 8),
      lit order (rows.get i) b = true ∧ (x + b.val) % 64 = p.column.val ∧ (y + i.val) % 32 = p.row.val := by
  rw [hits, Nat.one_le_iff_ne_zero, Finset.card_ne_zero]
  constructor
  · rintro ⟨⟨i, b⟩, hplace⟩
    exact ⟨i, b, (Finset.mem_filter.1 hplace).2⟩
  · rintro ⟨i, b, hplace⟩
    exact ⟨(i, b), Finset.mem_filter.2 ⟨Finset.mem_univ _, hplace⟩⟩

lemma exists_lit_iff (row : Int) : (∃ b, lit order row b = true) ↔ ∃ k : Fin 8, Bits.bit row k.val = true := by
  cases order with
  | lowestLeft => rfl
  | highestLeft =>
    constructor
    · rintro ⟨b, hb⟩
      exact ⟨b.rev, by simpa [lit, Fin.val_rev] using hb⟩
    · rintro ⟨k, hk⟩
      refine ⟨k.rev, ?_⟩
      have hback : 7 - k.rev.val = k.val := by
        rw [Fin.val_rev]
        omega
      rw [lit, hback]
      exact hk

lemma exists_hits_iff : (∃ p, 1 ≤ hits order x y rows p) ↔ HasBit rows := by
  constructor
  · rintro ⟨p, hp⟩
    obtain ⟨i, b, hlit, -⟩ := (hits_pos_iff order x y rows p).1 hp
    exact ⟨rows.get i, List.get_mem rows i, (exists_lit_iff order _).1 ⟨b, hlit⟩⟩
  · rintro ⟨row, hrow, hbit⟩
    obtain ⟨i, rfl⟩ := List.get_of_mem hrow
    obtain ⟨b, hlit⟩ := (exists_lit_iff order _).2 hbit
    have hlands := (Cell.wrap_eq_iff (x + b.val) (y + i.val) _).1 rfl
    exact ⟨_, (hits_pos_iff order x y rows _).2 ⟨i, b, hlit, hlands⟩⟩

/-- Where a sprite hits depends on its place only up to the size of the screen. -/
lemma hits_congr {x x' y y' : Int} (hx : x % 64 = x' % 64) (hy : y % 32 = y' % 32) :
    hits order x y rows p = hits order x' y' rows p := by
  have hcolumn (b : Fin 8) : (x + b.val) % 64 = (x' + b.val) % 64 := by omega
  have hrow (i : Fin rows.length) : (y + i.val) % 32 = (y' + i.val) % 32 := by omega
  simp only [hits, hcolumn, hrow]

end Sprite

namespace Screen

variable (order : BitOrder) (x y : Int) (rows : List Int) (s : Screen)

lemma get_draw (p : Cell) :
    (s.draw order x y rows).2.get p = (s.get p ^^ decide (Sprite.hits order x y rows p % 2 = 1)) := by
  rw [draw, get_toggleAll, Sprite.count_cells]

lemma hit_draw :
    (s.draw order x y rows).1 = true ↔
      ∃ p, 2 ≤ Sprite.hits order x y rows p ∨ (1 ≤ Sprite.hits order x y rows p ∧ s.get p = true) := by
  rw [draw, hit_toggleAll]
  simp only [Sprite.count_cells]

/-- As long as a sprite does not meet itself, it collides exactly with the lit pixels that it hits. -/
lemma hit_draw_of_length_le (hrows : rows.length ≤ 32) :
    (s.draw order x y rows).1 = true ↔ ∃ p, 1 ≤ Sprite.hits order x y rows p ∧ s.get p = true := by
  rw [hit_draw]
  constructor
  · rintro ⟨p, htwice | hp⟩
    · have honce := Sprite.hits_le_one order x y rows p hrows
      omega
    · exact ⟨p, hp⟩
  · rintro ⟨p, hp⟩
    exact ⟨p, .inr hp⟩

/-- As long as a sprite does not meet itself, it collides exactly if it turns a lit pixel off. -/
lemma hit_draw_iff_erases (hrows : rows.length ≤ 32) :
    (s.draw order x y rows).1 = true ↔ ∃ p, s.get p = true ∧ (s.draw order x y rows).2.get p = false := by
  rw [hit_draw_of_length_le order x y rows s hrows]
  constructor
  · rintro ⟨p, hp, hlit⟩
    have hone : Sprite.hits order x y rows p = 1 := by
      have := Sprite.hits_le_one order x y rows p hrows
      omega
    refine ⟨p, hlit, ?_⟩
    rw [get_draw, hlit, hone]
    rfl
  · rintro ⟨p, hlit, hoff⟩
    rw [get_draw, hlit] at hoff
    have hodd : Sprite.hits order x y rows p % 2 = 1 := by simpa using hoff
    exact ⟨p, by omega, hlit⟩

end Screen

namespace Action

lemma draw_eq (order : BitOrder) (x y : Int) (rows : List Int) (m : Machine) :
    draw order x y rows m =
      .ok (m.screen.draw order x y rows).1 { m with screen := (m.screen.draw order x y rows).2, dirty := true } := rfl

end Action

/-- Drawing completes and changes nothing but the screen and its mark. Every pixel is turned around as often as it is
hit, and a collision is told from the hits. -/
theorem draw_turns_hit_pixels (order : BitOrder) (x y : Int) (rows : List Int) (m : Machine) :
    ∃ hit after, Action.draw order x y rows m = .ok hit { m with screen := after, dirty := true } ∧
      (∀ p, after.get p = (m.screen.get p ^^ decide (Sprite.hits order x y rows p % 2 = 1))) ∧
      (hit = true ↔
        ∃ p, 2 ≤ Sprite.hits order x y rows p ∨ (1 ≤ Sprite.hits order x y rows p ∧ m.screen.get p = true)) ∧
      (rows.length ≤ 32 →
        (∀ p, Sprite.hits order x y rows p ≤ 1) ∧
        (hit = true ↔ ∃ p, m.screen.get p = true ∧ after.get p = false)) := by
  have hpixel := Screen.get_draw order x y rows m.screen
  refine ⟨_, _, Action.draw_eq order x y rows m, hpixel, Screen.hit_draw order x y rows m.screen, ?_⟩
  intro hrows
  have honce (p : Cell) := Sprite.hits_le_one order x y rows p hrows
  exact ⟨honce, Screen.hit_draw_iff_erases order x y rows m.screen hrows⟩

theorem draw_turns_hit_pixels_corner :
    let rows : List Int := [0x80, -1]
    rows.length ≤ 32 ∧ ∃ after, Action.draw .highestLeft 63 (-1) rows Machine.fresh =
      .ok false { Machine.fresh with screen := after, dirty := true } := by
  intro rows
  have hrows : rows.length ≤ 32 := by decide
  obtain ⟨hit, after, hdraw, _, _, hshort⟩ := draw_turns_hit_pixels .highestLeft 63 (-1) rows Machine.fresh
  have hblank : hit = false := by
    rw [Bool.eq_false_iff, Ne, (hshort hrows).2]
    rintro ⟨p, hlit, _⟩
    cases (Screen.get_blank p).symm.trans hlit
  rw [hblank] at hdraw
  exact ⟨hrows, after, hdraw⟩

/-- A sprite and the place of its top left corner. -/
structure Stamp where
  x : Int
  y : Int
  rows : List Int

def Stamp.hits (order : BitOrder) (stamp : Stamp) (p : Cell) : Nat := Sprite.hits order stamp.x stamp.y stamp.rows p

def Screen.stampAll (order : BitOrder) (s : Screen) (stamps : List Stamp) : Screen :=
  stamps.foldl (fun s stamp => (s.draw order stamp.x stamp.y stamp.rows).2) s

def Action.drawAll (order : BitOrder) (stamps : List Stamp) : Action Unit :=
  stamps.forM fun stamp => do let _ ← draw order stamp.x stamp.y stamp.rows

section Stamps

variable (order : BitOrder)

lemma odd_add (a b : Nat) : decide ((a + b) % 2 = 1) = (decide (a % 2 = 1) ^^ decide (b % 2 = 1)) := by
  rcases Nat.mod_two_eq_zero_or_one a with ha | ha <;> rcases Nat.mod_two_eq_zero_or_one b with hb | hb <;>
    simp [Nat.add_mod, ha, hb]

namespace Screen

variable (s : Screen)

lemma get_stampAll (stamps : List Stamp) (p : Cell) :
    (s.stampAll order stamps).get p = (s.get p ^^ decide ((stamps.map (·.hits order p)).sum % 2 = 1)) := by
  induction stamps generalizing s with
  | nil => simp [stampAll]
  | cons stamp stamps ih =>
    rw [stampAll, List.foldl_cons]
    refine (ih _).trans ?_
    rw [get_draw, List.map_cons, List.sum_cons, odd_add, Bool.xor_assoc]
    rfl

/-- The pixels depend on how often each one is hit in total, whatever the order of the draws. -/
lemma stampAll_perm {stamps stamps' : List Stamp} (hperm : stamps.Perm stamps') :
    s.stampAll order stamps = s.stampAll order stamps' := by
  apply ext_get
  intro p
  have hsum := (hperm.map (·.hits order p)).sum_eq
  rw [get_stampAll, get_stampAll, hsum]

variable {x x' y y' : Int} (rows : List Int)

lemma draw_draw (hx : x % 64 = x' % 64) (hy : y % 32 = y' % 32) :
    ((s.draw order x y rows).2.draw order x' y' rows).2 = s := by
  apply ext_get
  intro p
  rw [get_draw, get_draw, Sprite.hits_congr order rows p hx hy, Bool.xor_assoc, Bool.xor_self, Bool.xor_false]

/-- A second draw collides with the pixels that the first one lit. -/
lemma hit_draw_draw (hx : x % 64 = x' % 64) (hy : y % 32 = y' % 32) (hrows : rows.length ≤ 32) :
    ((s.draw order x y rows).2.draw order x' y' rows).1 = true ↔
      ∃ p, 1 ≤ Sprite.hits order x y rows p ∧ s.get p = false := by
  rw [hit_draw_of_length_le order x' y' rows _ hrows]
  apply exists_congr
  intro p
  rw [← Sprite.hits_congr order rows p hx hy, get_draw]
  apply and_congr_right
  intro hp
  have honce := Sprite.hits_le_one order x y rows p hrows
  have hone : Sprite.hits order x y rows p = 1 := by omega
  rw [hone]
  cases s.get p <;> simp

lemma hit_either_iff (hx : x % 64 = x' % 64) (hy : y % 32 = y' % 32) (hrows : rows.length ≤ 32) :
    ((s.draw order x y rows).1 = true ∨ ((s.draw order x y rows).2.draw order x' y' rows).1 = true) ↔
      Sprite.HasBit rows := by
  rw [hit_draw_of_length_le order x y rows s hrows, hit_draw_draw order s rows hx hy hrows,
    ← Sprite.exists_hits_iff order x y rows]
  constructor
  · rintro (⟨p, hp, _⟩ | ⟨p, hp, _⟩)
    · exact ⟨p, hp⟩
    · exact ⟨p, hp⟩
  · rintro ⟨p, hp⟩
    cases hlit : s.get p with
    | true => exact .inl ⟨p, hp, hlit⟩
    | false => exact .inr ⟨p, hp, hlit⟩

lemma hit_blank_eq_false (hrows : rows.length ≤ 32) : (blank.draw order x y rows).1 = false := by
  rw [Bool.eq_false_iff, Ne, hit_draw_of_length_le order x y rows blank hrows]
  rintro ⟨p, _, hlit⟩
  rw [get_blank] at hlit
  cases hlit

end Screen

lemma Action.drawAll_run (stamps : List Stamp) (m : Machine) :
    drawAll order stamps m =
      .ok () { m with screen := m.screen.stampAll order stamps, dirty := m.dirty || !stamps.isEmpty } := by
  induction stamps generalizing m with
  | nil =>
    rw [List.isEmpty_nil, Bool.not_true, Bool.or_false]
    rfl
  | cons stamp stamps ih =>
    let next : Machine :=
      { m with screen := (m.screen.draw order stamp.x stamp.y stamp.rows).2, dirty := true }
    have hfirst : drawAll order (stamp :: stamps) m = drawAll order stamps next := rfl
    rw [hfirst, ih next, List.isEmpty_cons, Bool.not_false, Bool.or_true]
    rfl

/-- Draws lead to the same machine in every order, and a sprite drawn a second time brings the screen back. -/
theorem draws_commute_and_cancel (m : Machine) :
    (∀ stamps stamps' : List Stamp, stamps.Perm stamps' → ∃ after,
      Action.drawAll order stamps m = .ok () after ∧ Action.drawAll order stamps' m = .ok () after) ∧
    (∀ (x x' y y' : Int) (rows : List Int), x % 64 = x' % 64 → y % 32 = y' % 32 → ∃ first second between after,
      Action.draw order x y rows m = .ok first between ∧
      Action.draw order x' y' rows between = .ok second after ∧
      after.screen = m.screen ∧
      (rows.length ≤ 32 →
        ((first = true ∨ second = true) ↔ Sprite.HasBit rows) ∧
        (m.screen = Screen.blank → first = false ∧ (second = true ↔ Sprite.HasBit rows)))) := by
  constructor
  · intro stamps stamps' hperm
    have hempty : stamps.isEmpty = stamps'.isEmpty := by
      rw [Bool.eq_iff_iff, List.isEmpty_iff_length_eq_zero, List.isEmpty_iff_length_eq_zero, hperm.length_eq]
    refine ⟨_, Action.drawAll_run order stamps m, ?_⟩
    rw [Action.drawAll_run, hempty, Screen.stampAll_perm order m.screen hperm]
  · intro x x' y y' rows hx hy
    refine ⟨_, _, _, _, Action.draw_eq order x y rows m, Action.draw_eq order x' y' rows _,
      Screen.draw_draw order m.screen rows hx hy, ?_⟩
    intro hrows
    have heither := Screen.hit_either_iff order m.screen rows hx hy hrows
    refine ⟨heither, ?_⟩
    intro hblank
    have hfirst : (m.screen.draw order x y rows).1 = false := by
      rw [hblank]
      exact Screen.hit_blank_eq_false order rows hrows
    refine ⟨hfirst, ?_⟩
    rw [hfirst] at heither
    simpa using heither

end Stamps

theorem draws_commute_and_cancel_wrapped :
    let rows : List Int := [0x3C, 0x81]
    let stamps : List Stamp := [⟨60, -1, rows⟩, ⟨0, 5, [-1]⟩, ⟨-4, 31, rows⟩]
    stamps.Perm stamps.reverse ∧ (60 : Int) % 64 = -4 % 64 ∧ (-1 : Int) % 32 = 31 % 32 ∧ rows.length ≤ 32 ∧
      (∃ after, Action.drawAll .lowestLeft stamps Machine.fresh = .ok () after ∧
        Action.drawAll .lowestLeft stamps.reverse Machine.fresh = .ok () after) ∧
      ∃ between after, Action.draw .lowestLeft 60 (-1) rows Machine.fresh = .ok false between ∧
        Action.draw .lowestLeft (-4) 31 rows between = .ok true after ∧ after.screen = Machine.fresh.screen := by
  intro rows stamps
  have hperm : stamps.Perm stamps.reverse := (List.reverse_perm stamps).symm
  have hx : (60 : Int) % 64 = -4 % 64 := by decide
  have hy : (-1 : Int) % 32 = 31 % 32 := by decide
  have hrows : rows.length ≤ 32 := by decide
  obtain ⟨hcommute, hcancel⟩ := draws_commute_and_cancel .lowestLeft Machine.fresh
  obtain ⟨first, second, between, after, hfirst, hsecond, hback, hcollide⟩ := hcancel 60 (-4) (-1) 31 rows hx hy
  obtain ⟨hnone, hbit⟩ := (hcollide hrows).2 rfl
  have hlit : Sprite.HasBit rows := ⟨0x3C, List.mem_cons_self, 2, by decide⟩
  rw [hnone] at hfirst
  rw [hbit.2 hlit] at hsecond
  exact ⟨hperm, hx, hy, hrows, hcommute stamps _ hperm, between, after, hfirst, hsecond, hback⟩

end Chip8
