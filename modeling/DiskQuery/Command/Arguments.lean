import DiskQuery.Text.ControlSequence

/-!
# Arguments of the command

The command line is a list of disks with three options among them: `--json`,
`--timeout` with a number of seconds, and the requests for help and for the
version, which end the reading at once.

The arguments are read from left to right.  `--timeout` may stand apart from
its value, so the option stays open until the next argument that is not itself
an option gives it one; it is closed, and its value checked, before anything
else is taken in.  An argument that is no option of the command is refused
right away, even while an option is open.
-/

namespace DiskQuery.Command

/-- What the command is asked to do. -/
structure Options where
  disks : List String
  /-- Seconds to wait for each disk. -/
  timeout : Nat
  json : Bool
deriving DecidableEq, Repr

/-- Why a text is no number of seconds. -/
inductive NumberDefect where
  | empty
  | invalidDigit
  | tooLarge
deriving DecidableEq, Repr

/-- The wording of a defect. -/
def NumberDefect.message : NumberDefect → String
  | .empty => "cannot parse integer from empty string"
  | .invalidDigit => "invalid digit found in string"
  | .tooLarge => "number too large to fit in target type"

/-- Why a command line is refused. -/
inductive Misuse where
  /-- No option of that spelling. -/
  | unexpectedArgument (argument : String)
  /-- A value for an option that takes none. -/
  | unexpectedValue (value option : String)
  /-- `--timeout` without a value. -/
  | missingValue
  /-- An option for the second time. -/
  | repeated (option : String)
  /-- `--timeout` with a value that is no number of seconds. -/
  | invalidTimeout (value : String) (defect : NumberDefect)
  /-- No disk. -/
  | noDisks
deriving DecidableEq, Repr

/-- The form of `--timeout` in a message. -/
def timeoutForm : String :=
  "--timeout <TIMEOUT>"

/-- The wording of a misuse.  It goes to a terminal, so what it quotes of the
command line is without commands to one. -/
def Misuse.message : Misuse → String
  | unexpectedArgument argument =>
      let shown := Text.ControlSequence.strip argument
      s!"error: unexpected argument '{shown}' found"
  | unexpectedValue value option =>
      let shown := Text.ControlSequence.strip value
      s!"error: unexpected value '{shown}' for '{option}' found; no more were expected"
  | missingValue => s!"error: a value is required for '{timeoutForm}' but none was supplied"
  | repeated option => s!"error: the argument '{option}' cannot be used multiple times"
  | invalidTimeout value defect =>
      let shown := Text.ControlSequence.strip value
      s!"error: invalid value '{shown}' for '{timeoutForm}': {defect.message}"
  | noDisks => "error: the following required arguments were not provided:"

/-- Why the reading ends before the last argument. -/
inductive Stop where
  | help
  | version
  | misuse (misuse : Misuse)
deriving DecidableEq, Repr

/-! ## Flags -/

/-- The options that take no value. -/
inductive Flag where
  | json
  | help
  | version
deriving DecidableEq, Repr

/-- The name of a flag. -/
def Flag.name : Flag → String
  | .json => "json"
  | .help => "help"
  | .version => "version"

/-- The flag of a name. -/
def Flag.ofName? (name : String) : Option Flag :=
  [Flag.json, .help, .version].find? fun flag => flag.name == name

/-- The flag of a letter. -/
def Flag.ofLetter? (letter : Char) : Option Flag :=
  if letter = 'h' then some .help else if letter = 'V' then some .version else none

/-! ## Numbers -/

/-- The first number that is no unsigned 64-bit number. -/
abbrev numberBound : Nat := 18446744073709551616

/-- The number that digits go on with, after `value`. -/
def digits (value : Nat) : List Char → Except NumberDefect Nat
  | [] => .ok value
  | c :: rest =>
      if c.isDigit then
        let next := value * 10 + (c.toNat - '0'.toNat)
        if next < numberBound then digits next rest else .error .tooLarge
      else
        .error .invalidDigit

/-- The unsigned 64-bit number of a text: decimal digits, after a plus sign if
there is one. -/
def number (text : String) : Except NumberDefect Nat :=
  match text.toList with
  | [] => .error .empty
  | ['+'] => .error .invalidDigit
  | '+' :: rest => digits 0 rest
  | cs => digits 0 cs

/-! ## Shapes -/

/-- What an argument looks like. -/
inductive Shape where
  /-- The mark after which every argument is a disk. -/
  | mark
  /-- An option by its name, with what follows an equals sign. -/
  | long (name : String) (value : Option String)
  /-- One-letter options. -/
  | short (letters : List Char)
  | plain
deriving DecidableEq, Repr

/-- The shape of an argument.  A lone hyphen is no option. -/
def Shape.of (argument : String) : Shape :=
  match argument.toList with
  | ['-', '-'] => mark
  | '-' :: '-' :: rest =>
      let value := match rest.dropWhile (· ≠ '=') with
        | [] => none
        | _ :: value => some (String.ofList value)
      long (String.ofList (rest.takeWhile (· ≠ '='))) value
  | '-' :: c :: rest => short (c :: rest)
  | _ => plain

/-! ## Reading -/

/-- How far `--timeout` is. -/
inductive Open where
  /-- It is not waiting for anything. -/
  | none
  /-- It waits for its value. -/
  | empty
  /-- It has its value, which is not checked yet. -/
  | filled (value : String)
deriving DecidableEq, Repr

/-- What has been read so far. -/
structure Reading where
  disks : List String := []
  timeout : Option Nat := Option.none
  json : Bool := false
  opened : Open := .none
deriving DecidableEq, Repr

namespace Reading

/-- Refuses the command line. -/
def refuse {α : Type} (misuse : Misuse) : Except Stop α :=
  .error (.misuse misuse)

/-- Takes the value of `--timeout` in. -/
def setTimeout (reading : Reading) (value : String) : Except Stop Reading :=
  if reading.timeout.isSome then refuse (.repeated timeoutForm)
  else
    match number value with
    | .ok seconds => .ok { reading with timeout := some seconds }
    | .error defect => refuse (.invalidTimeout value defect)

/-- Closes `--timeout`. -/
def close (reading : Reading) : Except Stop Reading :=
  match reading.opened with
  | .none => .ok reading
  | .empty => refuse .missingValue
  | .filled value => ({ reading with opened := .none } : Reading).setTimeout value

/-- Takes disks in. -/
def addDisks (reading : Reading) (disks : List String) : Except Stop Reading := do
  let reading ← reading.close
  pure { reading with disks := reading.disks ++ disks }

/-- Takes a flag in, once `--timeout` is closed.  All but `--json` end the
reading. -/
def setFlag (reading : Reading) (flag : Flag) : Except Stop Reading := do
  let reading ← reading.close
  match flag with
  | .json =>
      if reading.json then refuse (.repeated "--json")
      else pure { reading with json := true }
  | .help => .error .help
  | .version => .error .version

/-- Opens `--timeout`, or takes it in with its value. -/
def openTimeout (reading : Reading) (value : Option String) : Except Stop Reading := do
  let reading ← reading.close
  match value with
  | some value => reading.setTimeout value
  | none => pure { reading with opened := .empty }

/-- Takes an option in that has a name. -/
def long (reading : Reading) (name : String) (value : Option String) :
    Except Stop Reading :=
  if name = "timeout" then
    reading.openTimeout value
  else
    match Flag.ofName? name, value with
    | some flag, none => reading.setFlag flag
    | some _, some value => refuse (.unexpectedValue value ("--" ++ name))
    | none, _ => refuse (.unexpectedArgument ("--" ++ name))

/-- Takes an argument of one-letter options in.  Each flag that has a letter
ends the reading, so only the first letter counts. -/
def short (reading : Reading) : List Char → Except Stop Reading
  | [] => .ok reading
  | letter :: _ =>
      match Flag.ofLetter? letter with
      | some flag => reading.setFlag flag
      | none => refuse (.unexpectedArgument (String.ofList ['-', letter]))

/-- Takes an argument in that is no option: the value of an open `--timeout`,
or a disk. -/
def plain (reading : Reading) (argument : String) : Except Stop Reading :=
  match reading.opened with
  | .empty => .ok { reading with opened := .filled argument }
  | _ => reading.addDisks [argument]

/-- Reads the arguments that are left. -/
def readAll (reading : Reading) : List String → Except Stop Reading
  | [] => reading.close
  | argument :: rest =>
      match Shape.of argument with
      | .mark => reading.addDisks rest
      | .long name value => do (← reading.long name value).readAll rest
      | .short letters => do (← reading.short letters).readAll rest
      | .plain => do (← reading.plain argument).readAll rest

end Reading

/-- The seconds to wait for a disk if the command line does not say. -/
def defaultTimeout : Nat := 10

/-- The options that a command line gives, or why the command has nothing to
do. -/
def Options.ofArguments (arguments : List String) : Except Stop Options := do
  let reading ← Reading.readAll {} arguments
  if reading.disks.isEmpty then Reading.refuse .noDisks
  else pure ⟨reading.disks, reading.timeout.getD defaultTimeout, reading.json⟩

end DiskQuery.Command
