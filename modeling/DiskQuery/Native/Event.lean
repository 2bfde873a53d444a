import DiskQuery.DeviceName
import DiskQuery.Duration

/-!
# Events

What a client and the thread that waits for it report about their work.
-/

namespace DiskQuery

/-- How much an event matters. -/
inductive Level where
  | trace
  | debug
  | warn
deriving DecidableEq, Repr

/-- The word for a level. -/
def Level.word : Level → String
  | .trace => "TRACE"
  | .debug => "DEBUG"
  | .warn => "WARN"

/-- A report, over references of type `ρ`. -/
inductive Event (ρ : Type) where
  /-- A guard took over `reference`. -/
  | acquired (reference : ρ)
  /-- A guard is about to give `reference` back. -/
  | releasing (reference : ρ)
  /-- The service is out of reach. -/
  | sessionUnavailable
  /-- No disk has that name. -/
  | noSuchDisk (name : DeviceName)
  /-- The disk has no description now. -/
  | noDescription
  /-- A query read every attribute of the disk. -/
  | resolved (name : DeviceName)
  /-- The worker that asked for `name` was given up after `limit`. -/
  | abandoned (name : String) (limit : Duration)
deriving DecidableEq, Repr

namespace Event

variable {ρ : Type}

/-- The level of an event. -/
def level : Event ρ → Level
  | acquired _ => .trace
  | releasing _ => .trace
  | sessionUnavailable => .debug
  | noSuchDisk _ => .debug
  | noDescription => .debug
  | resolved _ => .debug
  | abandoned _ _ => .warn

/-- The wording of an event, with `field r` after the words about a reference
`r`. -/
def message (field : ρ → String) : Event ρ → String
  | acquired r => "Acquired native reference" ++ field r
  | releasing r => "Releasing native reference" ++ field r
  | sessionUnavailable => "Disk Arbitration session unavailable"
  | noSuchDisk name => s!"No such disk bsd_name={name.quoted}"
  | noDescription => "Disk has no description"
  | resolved name => s!"Resolved disk attributes bsd_name={name.quoted}"
  | abandoned name limit =>
      s!"Disk query timed out, abandoning worker name={name} timeout={limit.text}"

/-- An event as one line. -/
def line (field : ρ → String) (event : Event ρ) : String :=
  event.level.word ++ " " ++ event.message field

/-- The field that shows a numbered reference. -/
def numbered (reference : Nat) : String :=
  s!" raw={reference}"

/-- No field, for references that have no number. -/
def unnumbered (_ : ρ) : String :=
  ""

end Event

end DiskQuery
