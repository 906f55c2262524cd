import Chip8.Residue
import Chip8.Bits

/-!
# The screen and drawing on it

The screen has thirty-two rows of sixty-four pixels and wraps around at both edges. A sprite is a list of rows,
of which the lowest eight bits count; it covers the cells of `Sprite.cells`, and drawing it turns each covered
cell around, once for every time it is covered.
-/

namespace Chip8

structure Cell where
  column : Fin 64
  row : Fin 32
  deriving DecidableEq, Repr

namespace Cell

/-- The cell at integer coordinates, which wrap around. -/
def wrap (x y : Int) : Cell := ⟨residue 64 (by omega) x, residue 32 (by omega) y⟩

/-- Cells are numbered row by row from the top left. -/
def number (c : Cell) : Fin 2048 := ⟨c.row.val * 64 + c.column.val, by omega⟩

def ofNumber (i : Fin 2048) : Cell := ⟨⟨i.val % 64, by omega⟩, ⟨i.val / 64, by omega⟩⟩

@[simp] theorem ofNumber_number (c : Cell) : ofNumber c.number = c := by
  obtain ⟨⟨column, hcolumn⟩, ⟨row, hrow⟩⟩ := c
  simp only [ofNumber, number, Cell.mk.injEq, Fin.mk.injEq]
  omega

@[simp] theorem number_ofNumber (i : Fin 2048) : (ofNumber i).number = i := by
  apply Fin.ext
  simp only [ofNumber, number]
  omega

theorem number_inj {c d : Cell} : c.number = d.number ↔ c = d :=
  ⟨fun h => by rw [← ofNumber_number c, h, ofNumber_number], fun h => h ▸ rfl⟩

end Cell

/-- The pixels of the screen, by cell number. -/
structure Screen where
  pixels : Vector Bool 2048
  deriving DecidableEq

/-- Which bit of a sprite row is the leftmost pixel. -/
inductive BitOrder where
  | highestLeft
  | lowestLeft
  deriving DecidableEq, Repr

namespace Sprite

/-- Whether a sprite row lights its column `column`, counted from the left. -/
def lit (order : BitOrder) (row : Int) (column : Fin 8) : Bool :=
  match order with
  | .highestLeft => Bits.bit row (7 - column.val)
  | .lowestLeft => Bits.bit row column.val

/-- The cells that one row covers, from the left. -/
def rowCells (order : BitOrder) (x y row : Int) : List Cell :=
  ((List.finRange 8).filter (lit order row)).map fun column => Cell.wrap (x + column.val) y

/-- The cells that a sprite with its top left corner at `x`, `y` covers, row by row from the top. -/
def cells (order : BitOrder) (x y : Int) : List Int → List Cell
  | [] => []
  | row :: rows => rowCells order x y row ++ cells order x (y + 1) rows

end Sprite

namespace Screen

def blank : Screen := ⟨Vector.replicate 2048 false⟩

def get (s : Screen) (c : Cell) : Bool := s.pixels[c.number]

def toggle (s : Screen) (c : Cell) : Screen := ⟨s.pixels.set c.number (!s.pixels[c.number])⟩

/-- The pixel at integer coordinates, which wrap around. -/
def pixel (s : Screen) (x y : Int) : Bool := s.get (Cell.wrap x y)

def litCount (s : Screen) : Nat := s.pixels.toList.count true

/-- Cells turned around one after the other, and whether one of them was lit when its turn came. -/
def toggleAll (s : Screen) (cells : List Cell) : Bool × Screen :=
  cells.foldl (fun (hit, s) c => (hit || s.get c, s.toggle c)) (false, s)

/-- A sprite drawn with its top left corner at `x`, `y`, and whether it turned a lit pixel off. -/
def draw (order : BitOrder) (x y : Int) (rows : List Int) (s : Screen) : Bool × Screen :=
  s.toggleAll (Sprite.cells order x y rows)

theorem get_toggle (s : Screen) (c d : Cell) : (s.toggle c).get d = if c = d then !s.get d else s.get d := by
  simp only [get, toggle]
  by_cases h : c = d
  · subst h; simp
  · have hn : c.number.val ≠ d.number.val := fun e => h (Cell.number_inj.1 (Fin.ext e))
    simp [Vector.getElem_set_ne, hn, h]

@[simp] theorem get_blank (c : Cell) : blank.get c = false := by
  simp [get, blank]

/-- Screens are the same if they agree on every cell. -/
theorem ext_get {s t : Screen} (h : ∀ c, s.get c = t.get c) : s = t := by
  obtain ⟨s⟩ := s
  obtain ⟨t⟩ := t
  congr 1
  apply Vector.ext
  intro i hi
  have := h (Cell.ofNumber ⟨i, hi⟩)
  simpa [get] using this

end Screen

end Chip8
