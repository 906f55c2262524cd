import Chip8.Residue
import Chip8.Text.Hex

/-!
# Instruction words

A word has sixteen bits. Its fields are read by division: the leading nibble is the family, the other three are
`x`, `y` and `n`, the last two together `kk`, the last three together `nnn`.
-/

namespace Chip8

abbrev Register := Fin 16

abbrev Constant := Fin 256

abbrev Address := Fin 4096

def firstRegister : Register := ⟨0, by omega⟩

/-- The register VF, which takes the flags. -/
def flagRegister : Register := Fin.last 15

abbrev Word := Fin 65536

namespace Word

/-- The last sixteen bits of an integer. -/
def ofInt (i : Int) : Word := residue 65536 (by omega) i

/-- The word that two bytes make, the first one leading. -/
def ofBytes (high low : UInt8) : Word :=
  ⟨high.toNat * 256 + low.toNat, by have := high.toNat_lt; have := low.toNat_lt; omega⟩

def high (w : Word) : UInt8 := UInt8.ofNat (w.val / 256)

def low (w : Word) : UInt8 := UInt8.ofNat (w.val % 256)

/-- The leading nibble. -/
def family (w : Word) : Fin 16 := ⟨w.val / 4096, by omega⟩

def x (w : Word) : Register := ⟨w.val / 256 % 16, by omega⟩

def y (w : Word) : Register := ⟨w.val / 16 % 16, by omega⟩

def n (w : Word) : Fin 16 := ⟨w.val % 16, by omega⟩

def kk (w : Word) : Constant := ⟨w.val % 256, by omega⟩

def nnn (w : Word) : Address := ⟨w.val % 4096, by omega⟩

/-- The word with a given leading nibble and last three nibbles. -/
def ofAddress (family : Nat) (nnn : Address) : Word :=
  ⟨family % 16 * 4096 + nnn.val, by omega⟩

/-- The word with a given leading nibble, register and last byte. -/
def ofConstant (family : Nat) (x : Register) (kk : Nat) : Word :=
  ⟨family % 16 * 4096 + x.val * 256 + kk % 256, by omega⟩

/-- The word with the four given nibbles. -/
def ofNibbles (family : Nat) (x y : Register) (n : Nat) : Word :=
  ⟨family % 16 * 4096 + x.val * 256 + y.val * 16 + n % 16, by omega⟩

/-- A word as text: the mark of base sixteen and four digits. -/
def text (w : Word) : String :=
  String.ofList ('0' :: 'x' :: Hex.fixed 4 w.val)

section Fields

variable (family n kk : Nat) (x y : Register) (nnn : Address)

@[simp] theorem family_ofAddress : (ofAddress family nnn).family.val = family % 16 := by
  simp only [Word.family, ofAddress]; omega

@[simp] theorem nnn_ofAddress : (ofAddress family nnn).nnn = nnn := by
  apply Fin.ext; simp only [Word.nnn, ofAddress]; omega

@[simp] theorem family_ofConstant : (ofConstant family x kk).family.val = family % 16 := by
  simp only [Word.family, ofConstant]; omega

@[simp] theorem x_ofConstant : (ofConstant family x kk).x = x := by
  apply Fin.ext; simp only [Word.x, ofConstant]; omega

@[simp] theorem kk_ofConstant : (ofConstant family x kk).kk.val = kk % 256 := by
  simp only [Word.kk, ofConstant]; omega

@[simp] theorem family_ofNibbles : (ofNibbles family x y n).family.val = family % 16 := by
  simp only [Word.family, ofNibbles]; omega

@[simp] theorem x_ofNibbles : (ofNibbles family x y n).x = x := by
  apply Fin.ext; simp only [Word.x, ofNibbles]; omega

@[simp] theorem y_ofNibbles : (ofNibbles family x y n).y = y := by
  apply Fin.ext; simp only [Word.y, ofNibbles]; omega

@[simp] theorem n_ofNibbles : (ofNibbles family x y n).n.val = n % 16 := by
  simp only [Word.n, ofNibbles]; omega

end Fields

/-- A word is made of its leading nibble and its last three nibbles. -/
theorem ofAddress_fields (w : Word) : ofAddress w.family w.nnn = w := by
  apply Fin.ext; simp only [Word.family, Word.nnn, ofAddress]; omega

/-- A word is made of its leading nibble, its register and its last byte. -/
theorem ofConstant_fields (w : Word) : ofConstant w.family w.x w.kk = w := by
  apply Fin.ext; simp only [Word.family, Word.x, Word.kk, ofConstant]; omega

/-- A word is made of its four nibbles. -/
theorem ofNibbles_fields (w : Word) : ofNibbles w.family w.x w.y w.n = w := by
  apply Fin.ext; simp only [Word.family, Word.x, Word.y, Word.n, ofNibbles]; omega

/-- Both bytes of a word can be read off it. -/
theorem ofBytes_high_low (w : Word) : ofBytes w.high w.low = w := by
  apply Fin.ext
  simp only [ofBytes, high, low, UInt8.toNat_ofNat']
  omega

end Word

end Chip8
