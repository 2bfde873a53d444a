import DiskQuery.Native.Fault
import DiskQuery.Text.Utf16
import DiskQuery.Text.Utf8

/-!
# Framework worlds

What the operating system's own Disk Arbitration service knows.  Device names
are bytes, and texts are UTF-16 code units in which a surrogate may stand
alone.
-/

namespace DiskQuery.Framework

/-- A key of a description that the framework has a constant for, and that is
asked for here. -/
inductive Constant where
  | mediaRemovable
  | deviceVendor
  | deviceModel
deriving DecidableEq, Repr

/-- The text of a constant. -/
def Constant.text : Constant → String
  | .mediaRemovable => "DAMediaRemovable"
  | .deviceVendor => "DADeviceVendor"
  | .deviceModel => "DADeviceModel"

/-- A value of a description. -/
inductive Value where
  | boolean (truth : Bool)
  | text (units : List UInt16)
  /-- A value that is neither a boolean nor a text. -/
  | number
deriving DecidableEq, Repr

/-- The entries of a description.  An entry without a constant stands under some
other key, which no query asks for. -/
abbrev Entries := List (Option Constant × Value)

/-- A disk.  An absent description is one that the service cannot give now. -/
structure Device where
  name : List UInt8
  description : Option Entries
deriving DecidableEq, Repr

/-- What the service knows. -/
structure World where
  devices : List Device := []
  /-- No session can be had. -/
  unavailable : Bool := false
  /-- The creation of a session never ends. -/
  hangs : Bool := false
deriving DecidableEq, Repr

/-- The disk of a name.  A later disk hides the earlier ones of its name. -/
def World.device? (world : World) (name : List UInt8) : Option Device :=
  world.devices.reverse.find? fun device => device.name == name

/-- The value of a key.  A later entry hides the earlier ones of its key. -/
def valueOf? (entries : Entries) (constant : Constant) : Option Value :=
  entries.reverse.lookup (some constant)

/-- The UTF-8 bytes of code units and a zero byte after them, absent if a
surrogate is unpaired. -/
def cString? (units : List UInt16) : Option (List UInt8) :=
  (Text.Utf16.decode units).map fun text => Text.Utf8.encode text ++ [0]

end DiskQuery.Framework
