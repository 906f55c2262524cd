import Chip8.Screen.Picture

/-!
# Portable network graphics

A picture as the bytes of a picture file: a signature and three chunks, of which the second holds the rows,
stored without compression. Every chunk ends in a cyclic redundancy check, and the stored data in two running
sums.
-/

namespace Chip8.Png

/-- A number in four bytes, the highest one first. -/
def fourBytes (n : Nat) : ByteArray :=
  ⟨#[UInt8.ofNat (n / 16777216), UInt8.ofNat (n / 65536), UInt8.ofNat (n / 256), UInt8.ofNat n]⟩

/-- A number in two bytes, the lowest one first. -/
def twoBytes (n : Nat) : ByteArray :=
  ⟨#[UInt8.ofNat n, UInt8.ofNat (n / 256)]⟩

def checkBit (sum : UInt32) : UInt32 :=
  if sum % 2 = 1 then (sum >>> 1) ^^^ 0xEDB88320 else sum >>> 1

def checkByte (sum : UInt32) (byte : UInt8) : UInt32 :=
  Nat.repeat checkBit 8 (sum ^^^ byte.toUInt32)

/-- The cyclic redundancy check of some bytes. -/
def check (bytes : ByteArray) : Nat :=
  (bytes.foldl checkByte 0xFFFFFFFF ^^^ 0xFFFFFFFF).toNat

/-- A chunk: its length, its name, its data and its check. -/
def chunk (name : String) (data : ByteArray) : ByteArray :=
  let body := name.toUTF8 ++ data
  fourBytes data.size ++ body ++ fourBytes (check body)

/-- Both running sums of some bytes, the second one in the higher half. -/
def runningSums (bytes : ByteArray) : Nat :=
  let (first, second) := bytes.foldl (fun (first, second) byte =>
    let first := (first + byte.toNat) % 65521
    (first, (second + first) % 65521)) (1, 0)
  second * 65536 + first

/-- The most bytes that a stored block holds. -/
def blockSize : Nat := 65535

/-- Bytes from a place on in stored blocks, put behind those in `done`. -/
def storeFrom (bytes : ByteArray) (start : Nat) (done : ByteArray) : ByteArray :=
  let stop := min (start + blockSize) bytes.size
  let last := stop = bytes.size
  let block := bytes.extract start stop
  let done := done.push (if last then 1 else 0) ++ twoBytes block.size ++ twoBytes (65535 - block.size) ++ block
  if start + blockSize < bytes.size then storeFrom bytes (start + blockSize) done else done
termination_by bytes.size - start
decreasing_by simp only [blockSize] at *; omega

/-- Bytes stored without compression. -/
def store (bytes : ByteArray) : ByteArray :=
  storeFrom bytes 0 ⟨#[0x78, 0x01]⟩ ++ fourBytes (runningSums bytes)

/-- One row of a picture, with a mark that it is stored as it is. -/
def rowBytes (row : List Colour) : List UInt8 :=
  0 :: row.flatMap fun c => [c.red, c.green, c.blue]

def encode (p : Picture) : ByteArray :=
  let header := fourBytes p.width ++ fourBytes p.height ++ ⟨#[8, 2, 0, 0, 0]⟩
  let rows := p.rows.foldl (fun bytes row => (rowBytes row).foldl ByteArray.push bytes) ByteArray.empty
  ⟨#[0x89, 0x50, 0x4E, 0x47, 0x0D, 0x0A, 0x1A, 0x0A]⟩ ++ chunk "IHDR" header ++ chunk "IDAT" (store rows) ++
    chunk "IEND" ByteArray.empty

end Chip8.Png
