import Chip8.Text.Numeral

/-!
# Command lines

The arguments of a command are one operand and options in any order, taken from left to right. Long options may be
cut short as long as one option is meant, and take their value after an equals sign or from the next argument; a
value of `--` behind an equals sign stands for no value. What looks like a negative number or holds a blank is no
option, unless it begins like the short one, and after a lone `--` nothing is.
-/

namespace Chip8.CommandLine

structure OptionSpec where
  name : String
  takesValue : Bool
  deriving DecidableEq, Repr

/-- An option as it is given. One that takes a value may be given without any. -/
structure Given where
  name : String
  value : Option String
  deriving DecidableEq, Repr

/-- One argument by its role. -/
inductive Role where
  | operand (text : String)
  | option (spec : OptionSpec) (value : Option String)
  | separator
  deriving DecidableEq, Repr

/-- Why a command line is not carried out. -/
inductive Refusal where
  | help
  | misuse
  deriving DecidableEq, Repr

def helpOption : OptionSpec := ⟨"--help", false⟩

/-- One or more decimal digits of any script. -/
def isDigits (text : List Char) : Bool :=
  !text.isEmpty && text.all fun c => (Text.decimalDigit? c).isSome

/-- Whether a text is a minus sign, digits, and perhaps a point with digits after it. A line end may follow. -/
def looksNegative (text : String) : Bool :=
  match text.toList with
  | '-' :: rest =>
    let rest := if rest.getLast? = some '\n' then rest.dropLast else rest
    match rest.splitOn '.' with
    | [whole] => isDigits whole
    | [whole, fraction] => (whole.isEmpty || isDigits whole) && isDigits fraction
    | _ => false
  | _ => false

/-- The part of a text before the first equals sign, and the part behind it if there is one. -/
def splitValue (text : String) : String × Option String :=
  let chars := text.toList
  match chars.dropWhile (· ≠ '=') with
  | [] => (text, none)
  | _ :: value => (String.ofList (chars.takeWhile (· ≠ '=')), some (String.ofList value))

/-- The options that a name may stand for: the option of that name, or else all whose names begin with it. -/
def candidates (specs : List OptionSpec) (name : String) : List OptionSpec :=
  match specs.filter (·.name = name) with
  | [] => specs.filter fun spec => name.toList.isPrefixOf spec.name.toList
  | exactly => exactly

/-- The role of an argument that begins with the short form of the help option. Only more of the same letter may
follow in it. -/
def helpRole (rest : List Char) : Role :=
  let letters := match rest with
    | '=' :: letters => letters
    | letters => letters
  if rest = [] || (letters ≠ [] && letters.all (· = 'h')) then .option helpOption none
  else .option helpOption (some (String.ofList letters))

/-- The role of an argument that stands before any `--`. -/
def classify (specs : List OptionSpec) (argument : String) : Except Refusal Role :=
  match argument.toList with
  | '-' :: 'h' :: rest => .ok (helpRole rest)
  | '-' :: '-' :: _ =>
    let (name, value) := splitValue argument
    match candidates (helpOption :: specs) name with
    | [spec] => .ok (.option spec value)
    | [] => unknown
    | _ => .error .misuse
  | '-' :: _ :: _ => unknown
  | _ => .ok (.operand argument)
where
  /-- An argument with a minus sign in front that names no option. -/
  unknown : Except Refusal Role :=
    if looksNegative argument || argument.toList.contains ' ' then .ok (.operand argument) else .error .misuse

/-- The roles of all arguments. The first `--` makes all later ones operands. -/
def roles (specs : List OptionSpec) : List String → Except Refusal (List Role)
  | [] => .ok []
  | argument :: rest =>
    if argument = "--" then .ok (.separator :: rest.map .operand)
    else do
      let role ← classify specs argument
      let others ← roles specs rest
      return role :: others

/-- A value behind an equals sign; `--` is none. -/
def attached (value : String) : Option String :=
  if value = "--" then none else some value

variable {σ : Type}

/-- The operand of a command line and what its options come to, taken in by `take` one after the other. A value
that an option still lacks comes from the next argument, which has to be an operand; `--` may stand right before or
right after the command's own operand. -/
def assemble (take : σ → Given → Except Refusal σ) (operand : Option String) (taken : σ) :
    List Role → Except Refusal (String × σ)
  | [] =>
    match operand with
    | some text => .ok (text, taken)
    | none => .error .misuse
  | .option spec value :: rest =>
    if spec = helpOption then .error (if value.isSome then .misuse else .help)
    else
      match spec.takesValue, value, rest with
      | true, some value, rest => do assemble take operand (← take taken ⟨spec.name, attached value⟩) rest
      | true, none, .operand value :: rest => do assemble take operand (← take taken ⟨spec.name, some value⟩) rest
      | false, none, rest => do assemble take operand (← take taken ⟨spec.name, none⟩) rest
      | _, _, _ => .error .misuse
  | .operand text :: .separator :: rest =>
    if operand.isSome then .error .misuse else assemble take (some text) taken rest
  | .operand text :: rest =>
    if operand.isSome then .error .misuse else assemble take (some text) taken rest
  | .separator :: .operand text :: rest =>
    if operand.isSome then .error .misuse else assemble take (some text) taken rest
  | .separator :: _ => .error .misuse

/-- The operand of a command line and what its options come to, from a beginning without any. -/
def parse (specs : List OptionSpec) (take : σ → Given → Except Refusal σ) (beginning : σ)
    (arguments : List String) : Except Refusal (String × σ) := do
  assemble take none beginning (← roles specs arguments)

/-- The value of an integer option, if it is given with one. -/
def integer (given : Given) : Except Refusal (Option Int) :=
  match given.value with
  | none => .ok none
  | some text =>
    match Text.Numeral.read? 10 text.toList with
    | some value => .ok (some value)
    | none => .error .misuse

end Chip8.CommandLine
