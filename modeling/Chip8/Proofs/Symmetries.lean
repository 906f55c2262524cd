import Chip8.Proofs.Dialects
import Chip8.Proofs.Drawing

/-!
# Symmetries of drawing

The torus looks the same from every cell: a sprite drawn further on, on a screen that is shifted as far, gives the
shifted picture and the same collision. So turns around the whole torus change nothing. The two bit orders are mirror
images of each other. Main statement: `draw_symmetries`.
-/

namespace Chip8

namespace Cell

/-- The cell that lies `a` columns to the right and `b` rows down, around the edges. -/
def moved (a b : Int) (c : Cell) : Cell := wrap (c.column.val + a) (c.row.val + b)

variable (a b x y : Int) (c d : Cell)

lemma wrap_eq_wrap_iff {x x' y y' : Int} : wrap x y = wrap x' y' ↔ x % 64 = x' % 64 ∧ y % 32 = y' % 32 := by
  simp only [wrap, Cell.mk.injEq, residue_eq_iff]
  rfl

lemma wrap_val : wrap c.column.val c.row.val = c := by
  simp only [wrap, residue_val]

@[simp] lemma moved_wrap : (wrap x y).moved a b = wrap (x + a) (y + b) := by
  have hwrap := (wrap_eq_iff x y _).1 rfl
  rw [moved, wrap_eq_wrap_iff, ← hwrap.1, ← hwrap.2]
  omega

@[simp] lemma moved_moved (a' b' : Int) : (c.moved a b).moved a' b' = c.moved (a + a') (b + b') := by
  change (wrap _ _).moved a' b' = wrap _ _
  rw [moved_wrap, add_assoc, add_assoc]

lemma moved_back : (c.moved a b).moved (-a) (-b) = c := by
  rw [moved_moved, add_neg_cancel, add_neg_cancel, moved, add_zero, add_zero, wrap_val]

lemma moved_eq_iff : c.moved a b = d ↔ c = d.moved (-a) (-b) := by
  constructor
  · rintro rfl
    rw [moved_back]
  · rintro rfl
    simpa using moved_back (-a) (-b) d

end Cell

namespace Screen

/-- A screen shifted to the right by `a` columns and down by `b` rows, around the edges. -/
def shifted (a b : Int) (s : Screen) : Screen :=
  ⟨Vector.ofFn fun i => s.get ((Cell.ofNumber i).moved (-a) (-b))⟩

variable (a b x y : Int) (s : Screen) (c : Cell)

@[simp] lemma get_shifted : (s.shifted a b).get c = s.get (c.moved (-a) (-b)) := by
  simp [shifted, get]

lemma get_shifted_moved : (s.shifted a b).get (c.moved a b) = s.get c := by
  rw [get_shifted, Cell.moved_back]

/-- What stood at some place stands `a` columns and `b` rows further on. -/
theorem pixel_shifted : (s.shifted a b).pixel (x + a) (y + b) = s.pixel x y := by
  rw [pixel, pixel, ← Cell.moved_wrap, get_shifted_moved]

/-- Only the remainders of a shift by the size of the screen count. -/
lemma shifted_congr {a a' b b' : Int} (ha : a % 64 = a' % 64) (hb : b % 32 = b' % 32) :
    s.shifted a b = s.shifted a' b' := by
  apply ext_get
  intro c
  have hsame : c.moved (-a) (-b) = c.moved (-a') (-b') := Cell.wrap_eq_wrap_iff.2 ⟨by omega, by omega⟩
  rw [get_shifted, get_shifted, hsame]

lemma shifted_zero : s.shifted 0 0 = s := by
  apply ext_get
  intro c
  simp [Cell.moved, Cell.wrap_val]

lemma toggle_shifted : (s.shifted a b).toggle (c.moved a b) = (s.toggle c).shifted a b := by
  apply ext_get
  intro d
  simp only [get_toggle, get_shifted, Cell.moved_eq_iff]

/-- Turning cells around one after the other goes along with a shift, with the same lit cells on the way. -/
lemma toggleAll_shifted (cells : List Cell) :
    (s.shifted a b).toggleAll (cells.map (Cell.moved a b)) =
      ((s.toggleAll cells).1, (s.toggleAll cells).2.shifted a b) := by
  induction cells generalizing s with
  | nil => rfl
  | cons c cells ih => simp only [List.map_cons, toggleAll_cons, get_shifted_moved, toggle_shifted, ih]

end Screen

namespace Sprite

variable (order : BitOrder) (x y a b : Int)

lemma rowCells_moved (row : Int) :
    rowCells order (x + a) (y + b) row = (rowCells order x y row).map (Cell.moved a b) := by
  simp only [rowCells, List.map_map, Function.comp_def, Cell.moved_wrap, add_right_comm]

lemma cells_moved (rows : List Int) :
    cells order (x + a) (y + b) rows = (cells order x y rows).map (Cell.moved a b) := by
  induction rows generalizing y with
  | nil => rfl
  | cons row rows ih => rw [cells, cells, List.map_append, rowCells_moved, add_right_comm, ih]

end Sprite

namespace Screen

variable (order : BitOrder) (x y a b : Int) (rows : List Int) (s : Screen)

lemma draw_shifted : (s.shifted a b).draw order (x + a) (y + b) rows =
    ((s.draw order x y rows).1, (s.draw order x y rows).2.shifted a b) := by
  rw [draw, Sprite.cells_moved, toggleAll_shifted, draw]

/-- Whole turns around the torus make no difference. -/
lemma draw_turned (k l : Int) : s.draw order (x + 64 * k) (y + 32 * l) rows = s.draw order x y rows := by
  have hturned (t : Screen) : t.shifted (64 * k) (32 * l) = t := by
    have hzero : t.shifted (64 * k) (32 * l) = t.shifted 0 0 := t.shifted_congr (by omega) (by omega)
    rw [hzero, shifted_zero]
  have hdraw := draw_shifted order x y (64 * k) (32 * l) rows s
  rwa [hturned, hturned] at hdraw

end Screen

/-- Drawing goes along with shifts of the screen, and with the lowest bit on the left, a sprite is drawn as its mirror
image with the highest bit there. -/
theorem draw_symmetries (order : BitOrder) (x y a b : Int) (rows : List Int) (m : Machine) : ∃ hit after,
    Action.draw order x y rows m = .ok hit { m with screen := after, dirty := true } ∧
    Action.draw order (x + a) (y + b) rows { m with screen := m.screen.shifted (a % 64) (b % 32) } =
      .ok hit { m with screen := after.shifted (a % 64) (b % 32), dirty := true } ∧
    (∀ k l : Int, Action.draw order (x + 64 * k) (y + 32 * l) rows m = Action.draw order x y rows m) ∧
    (∀ rows', List.Forall₂ Sprite.Mirrors rows rows' →
      Action.draw .lowestLeft x y rows m = Action.draw .highestLeft x y rows' m) ∧
    List.Forall₂ Sprite.Mirrors rows (rows.map Sprite.mirrored) := by
  refine ⟨_, _, Action.draw_eq order x y rows m, ?_, ?_, ?_, ?_⟩
  · have hshift (t : Screen) : t.shifted (a % 64) (b % 32) = t.shifted a b :=
      t.shifted_congr (by omega) (by omega)
    rw [Action.draw_eq, hshift, hshift, Screen.draw_shifted]
  · intro k l
    rw [Action.draw_eq, Action.draw_eq, Screen.draw_turned]
  · intro rows' hmirrors
    rw [Action.draw_eq, Action.draw_eq, Screen.draw, Screen.draw, Sprite.cells_of_mirrors x y hmirrors]
  · rw [List.forall₂_map_right_iff, List.forall₂_same]
    exact fun row _ => Sprite.mirrors_mirrored row

/-- Only the lowest eight bits have to be mirrored. -/
theorem draw_symmetries_high_bits :
    let rows : List Int := [0x2C, -1, 0x180]
    let rows' : List Int := [0x34, 0xFF, -0xFF]
    List.Forall₂ Sprite.Mirrors rows rows' ∧
      Action.draw .lowestLeft 61 (-2) rows Machine.fresh = Action.draw .highestLeft 61 (-2) rows' Machine.fresh := by
  intro rows rows'
  have hmirrors : List.Forall₂ Sprite.Mirrors rows rows' := by decide
  obtain ⟨_, _, _, _, _, hdraw, _⟩ := draw_symmetries .lowestLeft 61 (-2) 0 0 rows Machine.fresh
  exact ⟨hmirrors, hdraw rows' hmirrors⟩

end Chip8
