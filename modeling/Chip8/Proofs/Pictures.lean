import Chip8.Proofs.Drawing
import Chip8.Window.Frame

/-!
# The screen in a picture and in the window

A picture of the screen and the bytes for the window are made by different ways: the picture row by row, in its two
colours, and then resized; the bytes in one row for all pixels. Both show the same (`picture_shows_screen`), whatever
library draws the picture, if it knows colours and repeats pixels as it should; the usual one does so up to the sides
that there is room for. At its own size a picture is not resized.
-/

namespace Chip8

open Window.Play (pixelBytes)

lemma getElem?_flatMap {α β : Type} {f : α → List β} {k : Nat} (hf : ∀ a, (f a).length = k) (hk : 0 < k)
    (l : List α) (i : Nat) : (l.flatMap f)[i]? = l[i / k]?.bind fun a => (f a)[i % k]? := by
  induction l generalizing i with
  | nil => rfl
  | cons a l ih =>
    rw [List.flatMap_cons]
    obtain hi | hi := Nat.lt_or_ge i k
    · rw [List.getElem?_append_left (by rw [hf]; exact hi), Nat.div_eq_of_lt hi, Nat.mod_eq_of_lt hi]
      rfl
    · rw [List.getElem?_append_right (by rw [hf]; exact hi), hf, ih, Nat.div_eq_sub_div hk hi, Nat.mod_eq_sub_mod hi]
      rfl

namespace Colour

/-- A colour as an ink. -/
def ink (c : Colour) : Ink := ⟨c.red.toNat, c.green.toNat, c.blue.toNat⟩

/-- A colour as the window takes it. -/
def bytes (c : Colour) : List UInt8 := [c.red, c.green, c.blue, 255]

lemma part_toNat (value : UInt8) : part value.toNat = value := by
  have hvalue := value.toNat_lt
  rw [part, Int.toNat_natCast, Nat.min_eq_left (by omega), UInt8.ofNat_toNat]

lemma fitsWord_toNat (value : UInt8) : Bits.fitsWord 64 value.toNat = true ∧ Bits.fitsWord 32 value.toNat = true := by
  have hvalue := value.toNat_lt
  have hlarge : (1 <<< (64 - 1) : Nat) = 2 ^ 63 := by decide
  have hsmall : (1 <<< (32 - 1) : Nat) = 2 ^ 31 := by decide
  simp only [Bits.fitsWord, hlarge, hsmall, Bool.and_eq_true, decide_eq_true_eq]
  omega

lemma colour_ink (c : Colour) : c.ink.colour = .ok c := by
  have hfits : (Bits.fitsWord 64 c.ink.red && Bits.fitsWord 32 c.ink.green && Bits.fitsWord 32 c.ink.blue) = true := by
    simp only [ink, (fitsWord_toNat _).1, (fitsWord_toNat _).2, Bool.and_self]
  rw [Ink.colour, if_pos hfits]
  simp only [ink, part_toNat]

end Colour

namespace Picture

variable {α : Type} {n : Nat}

lemma length_stretch (l : List α) : (stretch n l).length = n * l.length := by
  simp [stretch, List.length_flatMap, Nat.mul_comm]

lemma getElem?_stretch (hn : 0 < n) (l : List α) (i : Nat) : (stretch n l)[i]? = l[i / n]? := by
  have hcopy (a : α) : (List.replicate n a)[i % n]? = some a := by
    rw [List.getElem?_replicate, if_pos (Nat.mod_lt i hn)]
  rw [stretch, getElem?_flatMap (fun a => List.length_replicate) hn]
  simp only [hcopy, Option.bind_fun_some]

lemma get?_enlarge (hn : 0 < n) (p : Picture) (column row : Nat) :
    (p.enlarge n).get? column row = p.get? (column / n) (row / n) := by
  rw [get?, enlarge, getElem?_stretch hn, List.getElem?_map, get?]
  cases p.rows[row / n]? with
  | none => rfl
  | some pixels => exact getElem?_stretch hn pixels column

lemma stretch_one (l : List α) : stretch 1 l = l := by
  exact List.flatMap_singleton' l

lemma enlarge_one (p : Picture) : p.enlarge 1 = p := by
  have hrows : p.rows.map (stretch 1) = p.rows :=
    (List.map_congr_left fun row _ => stretch_one row).trans (List.map_id' _)
  rw [enlarge, stretch_one, hrows]

/-- The pixels in row order as the window takes them. -/
def bytes (p : Picture) : List UInt8 := p.rows.flatten.flatMap Colour.bytes

/-- A picture of a screen in two colours, with every pixel of it drawn as a square of the given side. -/
structure Shows (p : Picture) (side : Nat) (foreground background : Colour) (s : Screen) : Prop where
  width : p.width = 64 * side
  height : p.height = 32 * side
  length_row : ∀ row ∈ p.rows, row.length = 64 * side
  pixel : ∀ column < 64 * side, ∀ row < 32 * side,
    p.get? column row = some (if s.pixel (column / side : Nat) (row / side : Nat) then foreground else background)

end Picture

namespace Screen

variable (foreground background : Colour) (s : Screen)

/-- The bytes of the screen as the window system takes them, in any two colours. -/
def textureBytes (foreground background : Colour) (s : Screen) : List UInt8 :=
  s.pixels.toList.flatMap fun lit => (paint foreground background lit).bytes

lemma pixel_ofNat {x y : Nat} (hx : x < 64) (hy : y < 32) : s.pixel x y = s.get ⟨⟨x, hx⟩, ⟨y, hy⟩⟩ := by
  rw [pixel, (Cell.wrap_eq_iff x y ⟨⟨x, hx⟩, ⟨y, hy⟩⟩).2 ⟨by simp; omega, by simp; omega⟩]

lemma getElem?_row (y : Fin 32) {x : Nat} (hx : x < 64) : (s.row y)[x]? = some (s.get ⟨⟨x, hx⟩, y⟩) := by
  simp [row, hx]

lemma get?_picture {x y : Nat} (hx : x < 64) (hy : y < 32) :
    (s.picture foreground background).get? x y = some (paint foreground background (s.pixel x y)) := by
  have hrow : (s.picture foreground background).rows[y]? =
      some ((s.row ⟨y, hy⟩).map (paint foreground background)) := by
    simp [picture, hy]
  rw [Picture.get?, hrow, Option.bind_some, List.getElem?_map, getElem?_row s ⟨y, hy⟩ hx, pixel_ofNat s hx hy]
  rfl

lemma flatten_picture :
    (s.picture foreground background).rows.flatten = s.pixels.toList.map (paint foreground background) := by
  have hlength (y : Fin 32) : ((s.row y).map (paint foreground background)).length = 64 := by simp [row]
  apply List.ext_getElem?
  intro i
  rw [picture, ← List.flatMap_def, getElem?_flatMap hlength (by omega), List.getElem?_map]
  by_cases hi : i < 2048
  · have hy : (List.finRange 32)[i / 64]? = some ⟨i / 64, by omega⟩ := by
      rw [List.getElem?_eq_getElem (by simp; omega)]
      simp
    have hcell : s.get (Cell.ofNumber ⟨i, hi⟩) = s.pixels[i] := by simp [get]
    have hpixel : s.pixels.toList[i]? = some s.pixels[i] := by simp [hi]
    rw [hy, Option.bind_some, List.getElem?_map, getElem?_row s _ (Nat.mod_lt i (by omega)), hpixel, ← hcell]
    rfl
  · have hrows : (List.finRange 32)[i / 64]? = none := List.getElem?_eq_none (by simp; omega)
    rw [hrows, List.getElem?_eq_none (by simp; omega)]
    rfl

/-- At its own size, the picture has the bytes that the window takes. -/
lemma bytes_picture : (s.picture foreground background).bytes = s.textureBytes foreground background := by
  rw [Picture.bytes, flatten_picture, List.flatMap_map]
  rfl

lemma pixelBytes_eq : pixelBytes s = s.textureBytes Settings.foreground Settings.background := rfl

/-- The picture is drawn as it should be at its own size, and any enlargement of it as well. -/
lemma shows_enlarge {side : Nat} (hside : 0 < side) :
    ((s.picture foreground background).enlarge side).Shows side foreground background s := by
  have hrows : (s.picture foreground background).rows.length = 32 := by simp [picture]
  have hheight : ((s.picture foreground background).enlarge side).height = 32 * side := by
    rw [Picture.height, Picture.enlarge, Picture.length_stretch, List.length_map, hrows, Nat.mul_comm]
  have hlength : ∀ row ∈ ((s.picture foreground background).enlarge side).rows, row.length = 64 * side := by
    intro row hrow
    obtain ⟨copied, hcopied, hmem⟩ := List.mem_flatMap.1 hrow
    obtain ⟨pixels, hpixels, rfl⟩ := List.mem_map.1 hcopied
    obtain ⟨y, -, rfl⟩ := List.mem_map.1 hpixels
    rw [List.eq_of_mem_replicate hmem, Picture.length_stretch, Nat.mul_comm]
    simp [Screen.row]
  have hwidth : ((s.picture foreground background).enlarge side).width = 64 * side := by
    obtain ⟨row, rest, heq⟩ := List.exists_cons_of_length_pos
      (l := ((s.picture foreground background).enlarge side).rows) (by rw [← Picture.height, hheight]; omega)
    rw [Picture.width, heq]
    exact hlength row (by rw [heq]; exact List.mem_cons_self)
  refine ⟨hwidth, hheight, hlength, fun column hcolumn row hrow => ?_⟩
  rw [Picture.get?_enlarge hside, get?_picture]
  · rfl
  · exact Nat.div_lt_of_lt_mul (by rwa [Nat.mul_comm])
  · exact Nat.div_lt_of_lt_mul (by rwa [Nat.mul_comm])

end Screen

/-! ## Picture libraries -/

namespace Painter

/-- A colour of three bytes is taken as it is. -/
def KnowsColours (painter : Painter) : Prop := ∀ c : Colour, painter.colour c.ink = .ok c

/-- Resizing by a factor repeats every pixel. -/
def Repeats (painter : Painter) (side : Nat) : Prop := ∀ p : Picture, painter.resize p side = .ok (p.enlarge side)

lemma usual_colour : usual.colour = Ink.colour := rfl

lemma usual_resize : usual.resize = resized := rfl

lemma usual_knowsColours : usual.KnowsColours := by
  intro c
  rw [usual_colour, Colour.colour_ink]

/-- There is room for sides up to 131072. -/
lemma usual_repeats {side : Nat} (hside : 1 ≤ side) (hroom : side ≤ 2 ^ 17) : usual.Repeats side := by
  intro p
  have hsmall : (1 <<< (32 - 1) : Nat) = 2 ^ 31 := by decide
  have hfits : Bits.fitsWord 32 (64 * side) = true := by
    simp only [Bits.fitsWord, hsmall, Bool.and_eq_true, decide_eq_true_eq]
    omega
  have hpixels : (64 * side) * (32 * side) ≤ mostPixels := by
    calc (64 * side) * (32 * side) ≤ (64 * 2 ^ 17) * (32 * 2 ^ 17) := by gcongr
      _ = mostPixels := by decide
  have hpositive : ¬(side : Int) < 1 := by omega
  rw [usual_resize, resized, hfits, if_neg (by decide), if_neg hpositive, Int.toNat_natCast,
    if_neg (Nat.not_lt.2 hpixels)]

end Painter

namespace Screen

variable (foreground background : Colour) (s : Screen)

/-- An unlit screen does not show the foreground. -/
lemma picture_of_litCount_eq_zero (hunlit : s.litCount = 0) :
    s.picture background background = s.picture foreground background := by
  have hget (c : Cell) : s.get c = false := by
    refine Bool.eq_false_of_not_eq_true fun hlit => List.count_eq_zero.1 hunlit ?_
    rw [← hlit, get]
    exact Vector.mem_toList_iff.2 (Vector.getElem_mem _)
  simp only [picture, row, List.map_map, Function.comp_def, hget]
  rfl

section Painters

variable {painter : Painter} (hcolours : painter.KnowsColours)

include hcolours

lemma pictureBy_ink (side : Int) :
    s.pictureBy painter foreground.ink background.ink side =
      if side = 1 then .ok (s.picture foreground background)
      else painter.resize (s.picture foreground background) side := by
  rw [pictureBy, hcolours, hcolours]
  by_cases hunlit : s.litCount = 0
  · rw [← picture_of_litCount_eq_zero foreground background s hunlit]
    exact if_pos hunlit
  · exact if_neg hunlit

lemma pictureBy_of_repeats {side : Nat} (hresize : painter.Repeats side) :
    s.pictureBy painter foreground.ink background.ink side = .ok ((s.picture foreground background).enlarge side) := by
  rw [pictureBy_ink foreground background s hcolours]
  by_cases hone : side = 1
  · rw [hone, Picture.enlarge_one]
    exact if_pos Nat.cast_one
  · have hother : (side : Int) ≠ 1 := by omega
    rw [if_neg hother, hresize]

end Painters

/-- A picture shows the screen in its two colours at every side, and at its own size it has the bytes that the window
takes for the same colours. -/
theorem picture_shows_screen (s : Screen) (foreground background : Colour) :
    (∀ (painter : Painter) (side : Nat), 1 ≤ side → painter.KnowsColours → painter.Repeats side →
      ∃ p, s.pictureBy painter foreground.ink background.ink side = .ok p ∧ p.Shows side foreground background s) ∧
    (∀ painter : Painter, painter.KnowsColours → ∃ p,
      s.pictureBy painter foreground.ink background.ink 1 = .ok p ∧ p.Shows 1 foreground background s ∧
        p.bytes = s.textureBytes foreground background) ∧
    (∀ side : Nat, 1 ≤ side → side ≤ 2 ^ 17 → ∃ p,
      s.picture? foreground.ink background.ink side = .ok p ∧ p.Shows side foreground background s) ∧
    pixelBytes s = s.textureBytes Settings.foreground Settings.background := by
  refine ⟨?_, ?_, ?_, rfl⟩
  · intro painter side hside hcolours hresize
    exact ⟨_, pictureBy_of_repeats foreground background s hcolours hresize,
      shows_enlarge foreground background s hside⟩
  · intro painter hcolours
    have hshows := shows_enlarge foreground background s Nat.one_pos
    rw [Picture.enlarge_one] at hshows
    exact ⟨_, pictureBy_ink foreground background s hcolours 1, hshows, bytes_picture foreground background s⟩
  · intro side hside hroom
    have hdrawn := pictureBy_of_repeats foreground background s Painter.usual_knowsColours
      (Painter.usual_repeats hside hroom)
    exact ⟨_, hdrawn, shows_enlarge foreground background s hside⟩

/-- One lit pixel, the second from the left at the top, drawn three times as large. -/
theorem picture_shows_screen_threefold :
    let s := Screen.blank.toggle ⟨1, 0⟩
    let foreground : Colour := ⟨10, 20, 30⟩
    let background : Colour := ⟨1, 2, 3⟩
    (∃ p, s.pictureBy .usual foreground.ink background.ink 3 = .ok p ∧ p.width = 192 ∧ p.height = 96 ∧
      p.get? 2 2 = some background ∧ p.get? 3 2 = some foreground ∧ p.get? 6 2 = some background) ∧
    ∃ p, s.picture? foreground.ink background.ink 3 = .ok p ∧ p.get? 5 0 = some foreground := by
  intro s foreground background
  obtain ⟨hgiven, -, hrunning, -⟩ := picture_shows_screen s foreground background
  obtain ⟨hunlit, hlit, hnext⟩ : s.pixel 0 0 = false ∧ s.pixel 1 0 = true ∧ s.pixel 2 0 = false := by decide +kernel
  obtain ⟨p, hp, hshows⟩ := hgiven .usual 3 (by decide) Painter.usual_knowsColours
    (Painter.usual_repeats (by decide) (by decide))
  obtain ⟨q, hq, hdrawn⟩ := hrunning 3 (by decide) (by decide)
  refine ⟨⟨p, hp, hshows.width, hshows.height, ?_, ?_, ?_⟩, q, hq, ?_⟩
  · rw [hshows.pixel 2 (by decide) 2 (by decide)]
    exact congrArg some (if_neg (ne_true_of_eq_false hunlit))
  · rw [hshows.pixel 3 (by decide) 2 (by decide)]
    exact congrArg some (if_pos hlit)
  · rw [hshows.pixel 6 (by decide) 2 (by decide)]
    exact congrArg some (if_neg (ne_true_of_eq_false hnext))
  · rw [hdrawn.pixel 5 (by decide) 0 (by decide)]
    exact congrArg some (if_pos hlit)

end Screen

end Chip8
