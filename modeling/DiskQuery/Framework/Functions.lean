import DiskQuery.Framework.World
import DiskQuery.Native.Service
import DiskQuery.Table

/-!
# Framework functions

The functions of the operating system's frameworks.  They are not part of the
program: what stands here is what is assumed of them, and all that is.  The
service that calls them is in `Framework/Service`.

Sessions, disks and dictionaries are counted objects; a value is named by its
dictionary and its key, and is good for as long as the dictionary.  A function
trusts the references that it is given: one that stands for nothing of its kind
breaks it off.

The framework keeps the list of the functions that were called.
-/

namespace DiskQuery.Framework

/-- What a native reference stands for. -/
inductive Reference where
  /-- A counted object. -/
  | object (id : Nat)
  /-- The value of a key in a dictionary. -/
  | value (dictionary : Nat) (constant : Constant)
deriving DecidableEq, Repr

/-- A counted object. -/
inductive Object where
  | session
  | disk (device : Device)
  | dictionary (entries : Entries)
deriving DecidableEq, Repr

/-- The kind of an object. -/
def Object.kind : Object → Kind
  | .session => .session
  | .disk _ => .disk
  | .dictionary _ => .dictionary

/-- A call of a framework function, with the arguments that can be seen. -/
inductive NativeCall where
  | sessionCreate
  | diskCreate
  | copyDescription
  | getValue (constant : Constant)
  | getBoolean
  | getLength
  | getMaximumSize (length : Int)
  | getCString (bufferSize : Nat)
  | release (kind : Kind)
deriving DecidableEq, Repr

/-- A call as one line.  `0x8000100` is the framework's number for UTF-8. -/
def NativeCall.line : NativeCall → String
  | sessionCreate => "DASessionCreate default"
  | diskCreate => "DADiskCreateFromBSDName default"
  | copyDescription => "DADiskCopyDescription"
  | getValue constant => s!"CFDictionaryGetValue {constant.text}"
  | getBoolean => "CFBooleanGetValue"
  | getLength => "CFStringGetLength"
  | getMaximumSize length => s!"CFStringGetMaximumSizeForEncoding {length} 0x8000100"
  | getCString bufferSize => s!"CFStringGetCString {bufferSize} 0x8000100"
  | release kind => s!"CFRelease {kind.word}"

end Framework

/-- The objects of the framework, and the functions that were called. -/
structure Framework where
  /-- The last object that was created. -/
  next : Nat := 0
  /-- The objects that are alive. -/
  objects : Table Nat Framework.Object := {}
  calls : List Framework.NativeCall := []
deriving Repr

namespace Framework

/-! ## References -/

/-- The object of a reference. -/
def object? (framework : Framework) : Reference → Option Object
  | .object id => framework.objects.find? id
  | .value _ _ => none

/-- The number of a reference, for a fault. -/
def Reference.number : Reference → Nat
  | object id => id
  | value dictionary _ => dictionary

/-- The value of a reference. -/
def value? (framework : Framework) : Reference → Option Value
  | .object _ => none
  | .value dictionary constant =>
      match framework.objects.find? dictionary with
      | some (.dictionary entries) => valueOf? entries constant
      | _ => none

/-- The fault of a reference to nothing. -/
def stale {α : Type} (framework : Framework) (reference : Reference) :
    Except Fault α × Framework :=
  (.error (.usedAfterRelease reference.number), framework)

/-- The framework after one more function call. -/
def called (framework : Framework) (call : NativeCall) : Framework :=
  { framework with calls := framework.calls ++ [call] }

/-- A new counted object. -/
def create (framework : Framework) (object : Object) : Option Reference × Framework :=
  (some (.object (framework.next + 1)),
    { framework with
      next := framework.next + 1
      objects := framework.objects.insert (framework.next + 1) object })

/-- The number of objects that are alive. -/
def live (framework : Framework) : Nat :=
  framework.objects.size

/-! ## Objects -/

/-- A session with the default allocator, absent if none can be had. -/
def sessionCreate (world : World) (framework : Framework) :
    Except Fault (Option Reference) × Framework :=
  let framework := framework.called .sessionCreate
  if world.unavailable then (.ok none, framework)
  else
    let (reference, framework) := framework.create .session
    (.ok reference, framework)

/-- The disk of a name, absent if there is none. -/
def diskCreate (world : World) (framework : Framework) (session : Reference)
    (name : List UInt8) : Except Fault (Option Reference) × Framework :=
  match framework.object? session with
  | some .session =>
      let framework := framework.called .diskCreate
      match world.device? name with
      | some device =>
          let (reference, framework) := framework.create (.disk device)
          (.ok reference, framework)
      | none => (.ok none, framework)
  | _ => framework.stale session

/-- A dictionary of the description of a disk, absent if it has none now. -/
def diskCopyDescription (framework : Framework) (disk : Reference) :
    Except Fault (Option Reference) × Framework :=
  match framework.object? disk with
  | some (.disk device) =>
      let framework := framework.called .copyDescription
      match device.description with
      | some entries =>
          let (reference, framework) := framework.create (.dictionary entries)
          (.ok reference, framework)
      | none => (.ok none, framework)
  | _ => framework.stale disk

/-- The value of a key, absent if the dictionary does not hold the key.  The
value belongs to the dictionary. -/
def dictionaryGetValue (framework : Framework) (dictionary : Reference) (constant : Constant) :
    Except Fault (Option Reference) × Framework :=
  match dictionary, framework.object? dictionary with
  | .object id, some (.dictionary entries) =>
      (.ok ((valueOf? entries constant).map fun _ => .value id constant),
        framework.called (.getValue constant))
  | _, _ => framework.stale dictionary

/-- A counted object is given back.  Here nobody else holds it, so it goes. -/
def release (framework : Framework) (reference : Reference) : Except Fault Unit × Framework :=
  match reference, framework.object? reference with
  | .object id, some object =>
      let framework := framework.called (.release object.kind)
      (.ok (), { framework with objects := framework.objects.erase id })
  | _, _ => framework.stale reference

/-! ## Values

These functions change no object.  Each gives its result and the call of it. -/

/-- The truth of a boolean. -/
def booleanGetValue (truth : Bool) : Bool × NativeCall :=
  (truth, .getBoolean)

/-- The number of code units of a text. -/
def stringGetLength (units : List UInt16) : Int × NativeCall :=
  (units.length, .getLength)

/-- The most UTF-8 bytes that `length` units take, or -1 if that is no signed
64-bit number. -/
def maximumSize (length : Int) : Int :=
  let size := length * 3
  if -signedBound ≤ size ∧ size < signedBound then size else -1

/-- The room for a text of so many units, without a zero byte. -/
def stringGetMaximumSize (length : Int) : Int × NativeCall :=
  (maximumSize length, .getMaximumSize length)

/-- A copy of code units and a zero byte into a buffer.  It fails if the units
are no text or do not fit, and leaves the buffer as it is. -/
def copyUnits (units : List UInt16) (buffer : List UInt8) : Bool × List UInt8 :=
  match cString? units with
  | none => (false, buffer)
  | some bytes =>
      if bytes.length ≤ buffer.length then
        (true, bytes ++ buffer.drop bytes.length)
      else
        (false, buffer)

/-- A copy of a text as a C string. -/
def stringGetCString (units : List UInt16) (buffer : List UInt8) :
    (Bool × List UInt8) × NativeCall :=
  (copyUnits units buffer, .getCString buffer.length)

end Framework

end DiskQuery
