import DiskQuery.Key
import DiskQuery.Text.Utf8
import DiskQuery.Text.Utf16

/-!
# Worlds

What an in-memory service knows and how it misbehaves.  A world never changes;
the references that the service hands out are in the store.
-/

namespace DiskQuery.Store

/-- A value of a description. -/
inductive Value where
  | boolean (truth : Bool)
  | text (content : String)
  /-- A text whose copy writes these bytes as they are, with no zero byte
  after them. -/
  | raw (bytes : List UInt8)
  /-- A value that is neither a boolean nor a text. -/
  | number
deriving DecidableEq, Repr

namespace Value

/-- The truth of a boolean. -/
def truth? : Value → Option Bool
  | boolean truth => some truth
  | _ => none

/-- The bytes of a text. -/
def bytes? : Value → Option (List UInt8)
  | text content => some (Text.Utf8.encode content.toList)
  | raw bytes => some bytes
  | _ => none

/-- The length of a text: its UTF-16 units, or its bytes if it is raw. -/
def length? : Value → Option Nat
  | text content => some (Text.Utf16.encode content.toList).length
  | raw bytes => some bytes.length
  | _ => none

/-- Whether a copy writes a zero byte after the bytes. -/
def isTerminated : Value → Bool
  | text _ => true
  | _ => false

end Value

/-- A disk of a world.  An absent description is one that the service cannot
give now. -/
structure Entry where
  name : String
  description : Option (List (Key × Value))
deriving DecidableEq, Repr

/-- What a service knows, and its faults. -/
structure World where
  disks : List Entry := []
  /-- No session can be had. -/
  unavailable : Bool := false
  /-- Every copy fails. -/
  copyFails : Bool := false
  /-- A copy fills the rest of the buffer instead of ending the text. -/
  copyUnterminated : Bool := false
  /-- Every text is too long to size. -/
  negativeMaxSize : Bool := false
deriving DecidableEq, Repr

namespace World

/-- The disk of a name.  A later disk hides the earlier ones of its name. -/
def disk? (world : World) (name : String) : Option Entry :=
  world.disks.reverse.find? fun entry => entry.name == name

/-- The description of the disk of a name, absent if there is no such disk or
no description. -/
def description? (world : World) (name : String) : Option (List (Key × Value)) :=
  (world.disk? name).bind Entry.description

end World

end DiskQuery.Store
