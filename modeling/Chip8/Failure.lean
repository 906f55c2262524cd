import Chip8.Instruction.Word

/-!
# Faults and failures

A fault is an instruction that could not complete: a cause, the address it is blamed on, and the instruction
word where one is known. A failure is anything that an operation of this library can stop with. Causes are data;
their wording is in `FaultCause.message` and `Failure.message`.
-/

namespace Chip8

/-- Why an instruction could not complete. -/
inductive FaultCause where
  | fetchOutside
  | skipOutside
  | jumpOutside (target : Int)
  | rangeOutside (start length : Int)
  | stackFull
  | stackEmpty
  | notAnInstruction
  deriving DecidableEq, Repr

/-- The families of faults, with one over all of them. -/
inductive FaultKind where
  | any
  | address
  | stackOverflow
  | stackUnderflow
  | unknownOpcode
  deriving DecidableEq, Repr

namespace FaultKind

def name : FaultKind → String
  | .any => "Chip8Fault"
  | .address => "AddressFault"
  | .stackOverflow => "StackOverflow"
  | .stackUnderflow => "StackUnderflow"
  | .unknownOpcode => "UnknownOpcode"

/-- The family's own name, then the names of the families that contain it, the widest last. -/
def lineage : FaultKind → List String
  | .any => [FaultKind.any.name, "Chip8Error"]
  | kind => [kind.name, FaultKind.any.name, "Chip8Error"]

end FaultKind

namespace FaultCause

def kind : FaultCause → FaultKind
  | .fetchOutside | .skipOutside | .jumpOutside _ | .rangeOutside .. => .address
  | .stackFull => .stackOverflow
  | .stackEmpty => .stackUnderflow
  | .notAnInstruction => .unknownOpcode

def message : FaultCause → String
  | .fetchOutside => "Instruction fetch past end of memory"
  | .skipOutside => "Skip past end of memory"
  | .jumpOutside target => s!"Jump target 0x{Hex.text target} outside memory"
  | .rangeOutside start length => s!"I range 0x{Hex.text start}+{length} outside memory"
  | .stackFull => "Stack overflow. Too many subroutine calls"
  | .stackEmpty => "Cannot return from outside a subroutine"
  | .notAnInstruction => "Invalid instruction"

end FaultCause

structure Fault where
  cause : FaultCause
  address : Int
  /-- The instruction word, where it is known. -/
  word : Option Word
  deriving DecidableEq, Repr

namespace Fault

/-- A fault's line: the address, the word in brackets if there is one, and the message. -/
def line (address : Int) (word : Option Word) (message : String) : String :=
  match word with
  | none => s!"${Hex.address address}: {message}"
  | some w => s!"${Hex.address address} [{w.text}]: {message}"

def kind (f : Fault) : FaultKind := f.cause.kind

def text (f : Fault) : String := line f.address f.word f.cause.message

theorem text_of_unfetched {f : Fault} (hword : f.word = none) :
    f.text = "$" ++ Hex.address f.address ++ ": " ++ f.cause.message := by
  rw [text, hword]
  rfl

theorem text_of_fetched {f : Fault} {w : Word} (hword : f.word = some w) :
    f.text = "$" ++ Hex.address f.address ++ " [" ++ w.text ++ "]: " ++ f.cause.message := by
  rw [text, hword]
  rfl

end Fault

def programLimit : Nat := 3584

/-- What an operation can stop with. -/
inductive Failure where
  | fault (fault : Fault)
  | programTooLarge (size : Nat)
  | negativeElapsed
  /-- A register, stack slot, memory cell or key that does not exist. -/
  | noSuchSlot
  | notAByte
  | divisionByZero
  | sampleOutOfRange
  /-- A number without an end where a whole number is needed, or a whole number beyond the range of its use. -/
  | numberTooLarge
  /-- The result of an undefined calculation where a whole number is needed. -/
  | undefinedNumber
  | missingNumber
  | emptyPicture
  | pictureTooLarge
  /-- A file name whose ending names no picture format. -/
  | unknownExtension (extension : String)
  /-- A file name whose ending names a picture format that can only be read. -/
  | readOnlyFormat (extension : String)
  | colourInFormat (format : String)
  /-- A file name that a picture file cannot hold. -/
  | nameNotPlain
  | zeroInName
  deriving DecidableEq, Repr

def programTooLargeMessage (size limit : Int) : String :=
  s!"Program is {size} bytes, at most {limit} fit in memory"

namespace Failure

def message : Failure → String
  | .fault f => f.text
  | .programTooLarge size => programTooLargeMessage size programLimit
  | .negativeElapsed => "Elapsed time cannot be negative"
  | .noSuchSlot => "index out of range"
  | .notAByte => "byte must be in range(0, 256)"
  | .divisionByZero => "division by zero"
  | .sampleOutOfRange => "sample out of range"
  | .numberTooLarge => "number too large"
  | .undefinedNumber => "cannot convert float NaN to integer"
  | .missingNumber => "a number is missing"
  | .emptyPicture => "height and width must be > 0"
  | .pictureTooLarge => "image has wrong mode"
  | .unknownExtension extension => s!"unknown file extension: {extension}"
  | .readOnlyFormat extension => s!"format cannot be written: {extension}"
  | .colourInFormat format => s!"Unsupported {format} image mode"
  | .nameNotPlain => "file name outside ASCII"
  | .zeroInName => "embedded null byte"

end Failure

end Chip8
