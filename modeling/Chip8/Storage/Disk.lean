import Chip8.Screen.Picture
import Chip8.Text.Quoted

/-!
# Files

The part of a file system that a program sees. Files and folders are known by the parts of their paths from the
root; a name is a path whose parts slashes divide, and starts from the root or from the working folder.
-/

namespace Chip8

/-- Why a file could not be opened. -/
inductive FileError where
  | notFound
  | notAFolder
  | isFolder
  | nameTooLong
  deriving DecidableEq, Repr

namespace FileError

def code : FileError → Nat
  | .notFound => 2
  | .notAFolder => 20
  | .isFolder => 21
  | .nameTooLong => 36

def reason : FileError → String
  | .notFound => "No such file or directory"
  | .notAFolder => "Not a directory"
  | .isFolder => "Is a directory"
  | .nameTooLong => "File name too long"

/-- The error with its number and the name it is about. -/
def text (e : FileError) (name : String) : String :=
  s!"[Errno {e.code}] {e.reason}: {Text.Quoted.encode name}"

end FileError

structure Disk where
  /-- The working folder. -/
  here : List String
  /-- Files, the one written last in front. -/
  files : List (List String × List UInt8)
  folders : List (List String)
  /-- Saved pictures, the one saved last in front. -/
  pictures : List (List String × Picture)
  deriving DecidableEq

namespace Disk

/-- The parts of a path. -/
def parts (name : String) : List String :=
  (name.toList.splitOn '/').map String.ofList

/-- What a path leads to. -/
inductive Entry where
  | file (content : List UInt8)
  | folder
  | nothing
  deriving DecidableEq, Repr

/-- What stands at a path. The working folder and those around it are always there. -/
def entryAt (d : Disk) (path : List String) : Entry :=
  if path.isPrefixOf d.here ∨ path ∈ d.folders then .folder
  else match d.files.lookup path with
    | some content => .file content
    | none => if (d.pictures.lookup path).isSome then .file [] else .nothing

/-- The most bytes that one part of a path may have. -/
def longestPart : Nat := 255

/-- The most bytes that a path may have. -/
def longestPath : Nat := 4095

/-- One part of a path followed from a folder, to another folder. -/
def enter (d : Disk) (folder : List String) (part : String) : Except FileError (List String) :=
  if part = "" ∨ part = "." then .ok folder
  else if part = ".." then .ok folder.dropLast
  else if part.utf8ByteSize > longestPart then .error .nameTooLong
  else match d.entryAt (folder ++ [part]) with
    | .folder => .ok (folder ++ [part])
    | .file _ => .error .notAFolder
    | .nothing => .error .notFound

/-- Parts of a path followed one after the other. -/
def follow (d : Disk) (folder : List String) : List String → Except FileError (List String)
  | [] => .ok folder
  | part :: rest => do d.follow (← d.enter folder part) rest

/-- The folder that a path starts from. -/
def origin (d : Disk) (name : String) : List String :=
  if name.startsWith "/" then [] else d.here

/-- The folder that a path leads through, and the last part, which may name anything in it. -/
def resolve (d : Disk) (name : String) : Except FileError (List String × String) :=
  if name = "" then .error .notFound
  else if name.utf8ByteSize > longestPath then .error .nameTooLong
  else do
    let folder ← d.follow (d.origin name) (parts name).dropLast
    let last := (parts name).getLast?.getD ""
    if last.utf8ByteSize > longestPart then .error .nameTooLong else .ok (folder, last)

/-- Whether the last part of a path can only be a folder. -/
def namesFolder (last : String) : Bool :=
  last = "" || last = "." || last = ".."

/-- The content of a file. -/
def read (d : Disk) (name : String) : Except FileError (List UInt8) := do
  let (folder, last) ← d.resolve name
  if namesFolder last then .error .isFolder
  else match d.entryAt (folder ++ [last]) with
    | .file content => .ok content
    | .folder => .error .isFolder
    | .nothing => .error .notFound

/-- Whether a path leads to a file or folder. -/
def exists? (d : Disk) (name : String) : Bool :=
  match d.read name with
  | .ok _ | .error .isFolder => true
  | .error _ => false

/-- A picture saved under a name. What stood there before is replaced. -/
def savePicture (d : Disk) (name : String) (picture : Picture) : Except FileError Disk := do
  let (folder, last) ← d.resolve name
  if namesFolder last then .error .isFolder
  else
    let path := folder ++ [last]
    match d.entryAt path with
    | .folder => .error .isFolder
    | _ => .ok { d with
        files := d.files.filter (·.1 ≠ path)
        pictures := (path, picture) :: d.pictures.filter (·.1 ≠ path) }

/-- One part of a path followed from a folder, to a folder that is made if need be. -/
def enterMade (d : Disk) (folder : List String) (part : String) : Disk × List String :=
  if part = "" ∨ part = "." then (d, folder)
  else if part = ".." then (d, folder.dropLast)
  else ({ d with folders := (folder ++ [part]) :: d.folders }, folder ++ [part])

/-- A folder made under a name, with all the folders that its path leads through. -/
def makeFolder (d : Disk) (name : String) : Disk :=
  ((parts name).foldl (fun (d, folder) part => d.enterMade folder part) (d, d.origin name)).1

end Disk

end Chip8
