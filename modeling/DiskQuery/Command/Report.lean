import DiskQuery.Command.Arguments
import DiskQuery.Command.Record
import DiskQuery.QueryError

/-!
# Reports of the command

The command asks for one disk after another, and stops at the first that it
cannot go on with.  Rows are printed for the disks before that one; a JSON
array is printed for all disks or not at all.

`ask` is any way to ask for a disk, in any monad, so what is asked and in
which order can be seen by choosing the monad.
-/

namespace DiskQuery.Command

variable {m : Type → Type} [Monad m]

/-- Why the command cannot go on. -/
inductive Failure where
  /-- The query for a disk has no answer. -/
  | query (disk : String) (error : QueryError)
  /-- The service is out of reach. -/
  | unavailable
deriving DecidableEq, Repr

namespace Failure

/-- A failure in one line, without its causes. -/
def title : Failure → String
  | query disk _ => s!"Failed to query {disk}"
  | unavailable => "Disk Arbitration is not available"

/-- The causes of a failure, the nearest first. -/
def causes : Failure → List String
  | query _ error => error.message :: error.cause?.toList
  | unavailable => []

/-- A text whose lines after the first stand after `indent`. -/
def hanging (indent text : String) : String :=
  String.ofList (text.toList.flatMap fun c => if c = '\n' then c :: indent.toList else [c])

/-- The list of causes, numbered if there is more than one. -/
def causeLines : List String → List String
  | [] => []
  | [cause] => ["    " ++ hanging "    " cause]
  | causes =>
      causes.zipIdx.map fun (cause, index) =>
        s!"    {index}: " ++ hanging "       " cause

/-- A failure as the command reports it. -/
def report (failure : Failure) : String :=
  let causes := match causeLines failure.causes with
    | [] => ""
    | lines => "\n\nCaused by:\n" ++ String.intercalate "\n" lines
  "Error: " ++ failure.title ++ causes ++ "\n"

end Failure

/-- What the command leaves behind. -/
structure Output where
  exit : Nat
  stdout : String := ""
  stderr : String := ""
deriving DecidableEq, Repr

/-- Asks for disks up to the first that the command cannot go on with, and
gives what it keeps of the records before it.  A record that it keeps nothing
of is one of a service out of reach. -/
def collect {β : Type} (ask : String → m (Except QueryError Lookup))
    (keep : Record → Option β) : List String → m (List β × Option Failure)
  | [] => pure ([], none)
  | disk :: rest => do
      match ← ask disk with
      | .error error => pure ([], some (.query disk error))
      | .ok lookup =>
          match keep ⟨disk, lookup⟩ with
          | none => pure ([], some .unavailable)
          | some kept => do
              let (others, failure) ← collect ask keep rest
              pure (kept :: others, failure)

/-- The output in rows: those before a failure are printed all the same. -/
def Output.ofRows (rows : List String) : Option Failure → Output
  | none => ⟨0, String.join rows, ""⟩
  | some failure => ⟨1, String.join rows, failure.report⟩

/-- The output in JSON: nothing is printed before a failure. -/
def Output.ofRecords (records : List Record) : Option Failure → Output
  | none => ⟨0, jsonArray records, ""⟩
  | some failure => ⟨1, "", failure.report⟩

/-- Does what the options say.  `ask` is given the seconds to wait. -/
def Options.run (ask : Nat → String → m (Except QueryError Lookup)) (options : Options) :
    m Output := do
  if options.json then
    let (records, failure) ← collect (ask options.timeout) some options.disks
    pure (.ofRecords records failure)
  else
    let (rows, failure) ← collect (ask options.timeout) Record.row? options.disks
    pure (.ofRows rows failure)

/-! ## The command -/

/-- The help text. -/
def helpText : String :=
  "Resolve removable flag, vendor and model of block devices through macOS Disk Arbitration

Usage: bb-disk-attributes [OPTIONS] <DISKS>...

Arguments:
  <DISKS>...  BSD names of the disks to query (e.g. `disk0`, `disk2s1`)

Options:
      --timeout <TIMEOUT>  Seconds to wait for Disk Arbitration before giving up on a" ++
  " disk [default: 10]
      --json               Print results as JSON
  -h, --help               Print help
  -V, --version            Print version
"

/-- The version text. -/
def versionText : String :=
  "bb-disk-attributes 0.1.0\n"

/-- The output of a command line that asks for no disk. -/
def Stop.output : Stop → Output
  | .help => ⟨0, helpText, ""⟩
  | .version => ⟨0, versionText, ""⟩
  | .misuse reason => ⟨2, "", reason.message ++ "\n"⟩

/-- The command. -/
def run (ask : Nat → String → m (Except QueryError Lookup)) (arguments : List String) :
    m Output :=
  match Options.ofArguments arguments with
  | .error stop => pure stop.output
  | .ok options => options.run ask

end DiskQuery.Command
