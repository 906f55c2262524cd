import Chip8.Failure
import Chip8.Storage.Disk
import Chip8.Text.LowerCase

/-!
# Picture files

Pictures are saved by a picture library (`Saving`). The usual one gives a file the format that the ending of its name
says. A name whose ending names no format, or one that can only be read, is refused before a file is opened; some
formats refuse a coloured picture after that.
-/

namespace Chip8.PictureFile

/-- Why a picture was not saved. -/
inductive SaveError where
  /-- The file could not be opened. -/
  | file (error : FileError)
  /-- The format does not take the picture. -/
  | refused (reason : String)
  /-- There is nothing to save it as. -/
  | failure (failure : Failure)
  deriving DecidableEq, Repr

/-- What the user is told of a picture that was not saved, where the program goes on. -/
def SaveError.toldAs (name : String) : SaveError → Except Failure String
  | .file e => .ok (e.text name)
  | .refused reason => .ok reason
  | .failure e => .error e

/-- How a picture library saves a picture under a name. -/
abbrev Saving := Disk → String → Picture → Except SaveError Disk

/-- A character that neither divides a path nor a name, and may stand in both. -/
def IsPlainLetter (c : Char) : Prop := c ≠ '/' ∧ c ≠ '.' ∧ c ≠ '\x00'

/-- Under a plain name that ends in `.png` a picture is saved, or the user is told why it is not. -/
def Saving.KnowsPng (save : Saving) : Prop :=
  ∀ (stem : String) (d : Disk) (picture : Picture), stem.toList ≠ [] → (∀ c ∈ stem.toList, IsPlainLetter c) →
    (∃ d', save d (stem ++ ".png") picture = .ok d') ∨
      ∃ e reason, save d (stem ++ ".png") picture = .error e ∧ e.toldAs (stem ++ ".png") = .ok reason

/-! ## The usual picture library -/

/-- What becomes of a coloured picture in a format. -/
inductive Treatment where
  | written
  /-- The format can only be read. -/
  | readOnly
  /-- The format takes no coloured pictures, and the user is told so. -/
  | refused (reason : String)
  /-- The format takes no coloured pictures, and nobody expects that. -/
  | unsupported (format : String)
  /-- The format writes the file's name into the file, which has to be plain. -/
  | named
  deriving DecidableEq, Repr

/-- The formats by the endings that name them. -/
def formats : List (List String × Treatment) :=
  [([".png", ".apng", ".bmp", ".dib", ".gif", ".jfif", ".jpe", ".jpg", ".jpeg", ".mpo", ".webp", ".avif", ".avifs"],
      .written),
    ([".pbm", ".pgm", ".ppm", ".pnm", ".pfm", ".pcx", ".dds", ".ps", ".eps", ".pdf", ".icns", ".ico", ".qoi"],
      .written),
    ([".jp2", ".j2k", ".jpc", ".jpf", ".jpx", ".j2c", ".tif", ".tiff"], .written),
    ([".bw", ".rgb", ".rgba", ".sgi", ".tga", ".icb", ".vda", ".vst"], .written),
    ([".im"], .named),
    ([".cur", ".dcx", ".fit", ".fits", ".fli", ".flc", ".ftc", ".ftu", ".gbr", ".iim", ".mpg", ".mpeg"], .readOnly),
    ([".pcd", ".pxr", ".psd", ".ras", ".xpm"], .readOnly),
    ([".blp"], .unsupported "BLP"),
    ([".xbm"], .refused "cannot write mode RGB as XBM"),
    ([".msp"], .refused "cannot write mode RGB as MSP"),
    ([".palm"], .refused "cannot write mode RGB as Palm"),
    ([".bufr"], .refused "BUFR save handler not installed"),
    ([".grib"], .refused "GRIB save handler not installed"),
    ([".h5", ".hdf"], .refused "HDF5 save handler not installed"),
    ([".wmf", ".emf"], .refused "WMF save handler not installed")]

/-- What becomes of a coloured picture under an ending, if the ending names a format. -/
def treatment? (ending : String) : Option Treatment :=
  (formats.find? fun (endings, _) => ending ∈ endings).map Prod.snd

/-- The last part of a path. -/
def lastPart (name : String) : List Char :=
  ((name.toList.splitOn '/').getLast?).getD []

/-- The last part of a path cut in two before its last dot. Dots at its beginning do not count. -/
def stemAndEnding (name : String) : List Char × List Char :=
  let part := lastPart name
  let dots := part.takeWhile (· = '.')
  let pieces := (part.dropWhile (· = '.')).splitOn '.'
  if pieces.length ≤ 1 then (part, [])
  else (dots ++ ['.'].intercalate pieces.dropLast, '.' :: (pieces.getLast?).getD [])

/-- The ending of a file name in small letters. -/
def extension (name : String) : String :=
  String.ofList (Text.lower (stemAndEnding name).2)

/-- How long the line that holds a file's name may be. -/
def nameLine : Nat := 92

/-- Whether a file's name, shortened to its line, holds ASCII only. -/
def isPlain (name : String) : Bool :=
  let (stem, ending) := stemAndEnding name
  (stem.take (nameLine - ending.length) ++ ending).all (·.toNat < 0x80)

/-- A picture saved in a file whose name has been found to name a format. -/
def write (d : Disk) (name : String) (treatment : Treatment) (picture : Picture) : Except SaveError Disk :=
  match d.savePicture name picture, treatment with
  | .error e, _ => .error (.file e)
  | .ok _, .refused reason => .error (.refused reason)
  | .ok _, .unsupported format => .error (.failure (.colourInFormat format))
  | .ok d, .named => if isPlain name then .ok d else .error (.failure .nameNotPlain)
  | .ok d, _ => .ok d

def save : Saving := fun d name picture =>
  let ending := extension name
  match treatment? ending with
  | none => .error (.failure (.unknownExtension ending))
  | some .readOnly => .error (.failure (.readOnlyFormat ending))
  | some treatment =>
    if name.toList.contains '\x00' then .error (.failure .zeroInName) else write d name treatment picture

end Chip8.PictureFile
