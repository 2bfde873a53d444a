import DiskQuery.Framework.Functions

/-!
# The framework service

The operating system's service, as a service for clients.  Each call of a client
comes to one framework function at most.  What is not left to the functions is
which constant stands for a key, and the test of a value's type before the value
is read.  That test is no function call that can be seen, so a call that finds a
value of another type stops before any.
-/

namespace DiskQuery.Framework

/-- The constant for a key. -/
def keyString : Key → Constant
  | .mediaRemovable => .mediaRemovable
  | .deviceVendor => .deviceVendor
  | .deviceModel => .deviceModel

/-- Different keys have different constants. -/
theorem keyString_inj {a b : Key} (h : keyString a = keyString b) : a = b := by
  cases a <;> cases b <;> first | rfl | cases h

/-- Every constant stands for a key. -/
theorem exists_keyString (constant : Constant) : ∃ key, keyString key = constant := by
  cases constant with
  | mediaRemovable => exact ⟨.mediaRemovable, rfl⟩
  | deviceVendor => exact ⟨.deviceVendor, rfl⟩
  | deviceModel => exact ⟨.deviceModel, rfl⟩

/-- The truth of a value, if it is a boolean. -/
def Value.boolean? : Value → Option Bool
  | .boolean truth => some truth
  | _ => none

/-- The code units of a value, if it is a text. -/
def Value.units? : Value → Option (List UInt16)
  | .text units => some units
  | _ => none

/-- A call on a value.  `answer` may call framework functions. -/
def onValue {α : Type} (framework : Framework) (reference : Reference)
    (answer : Value → α × List NativeCall) : Except Fault α × Framework :=
  match framework.value? reference with
  | none => framework.stale reference
  | some value =>
      let result := answer value
      (.ok result.1, result.2.foldl called framework)

/-- The truth of a boolean, absent for any other value. -/
def readBoolean (value : Value) : Option Bool × List NativeCall :=
  match value.boolean? with
  | some truth =>
      let (truth, call) := booleanGetValue truth
      (some truth, [call])
  | none => (none, [])

/-- The length of a text, absent for any other value. -/
def readLength (value : Value) : Option Int × List NativeCall :=
  match value.units? with
  | some units =>
      let (length, call) := stringGetLength units
      (some length, [call])
  | none => (none, [])

/-- The copy of a text, refused for any other value. -/
def copyInto (buffer : List UInt8) (value : Value) : (Bool × List UInt8) × List NativeCall :=
  match value.units? with
  | some units =>
      let (copy, call) := stringGetCString units buffer
      (copy, [call])
  | none => ((false, buffer), [])

/-- The answer of the framework to a call. -/
def answer (world : World) :
    (call : Call Reference) → Framework → Except Fault call.Answer × Framework
  | .createSession, framework => framework.sessionCreate world
  | .createDisk session name, framework => framework.diskCreate world session name.bytes
  | .copyDescription disk, framework => framework.diskCopyDescription disk
  | .value dictionary key, framework => framework.dictionaryGetValue dictionary (keyString key)
  | .boolean value, framework => framework.onValue value readBoolean
  | .textLength value, framework => framework.onValue value readLength
  | .maxSize length, framework =>
      let (size, call) := stringGetMaximumSize length
      (.ok size, framework.called call)
  | .copyText value buffer, framework => framework.onValue value (copyInto buffer)
  | .release reference, framework => framework.release reference

/-- The operating system's service over a world. -/
def World.service (world : World) : Service Reference Framework :=
  ⟨Framework.answer world⟩

end DiskQuery.Framework
