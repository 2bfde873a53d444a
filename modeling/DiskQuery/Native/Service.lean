import DiskQuery.DeviceName
import DiskQuery.Key
import DiskQuery.Native.Fault

/-!
# Native services

The calls that a client makes, and the services that answer them.  A service
is any function from a call and a state to an answer and a state: nothing here
says that it keeps its promises.

Sessions, disks and dictionaries are counted references: the client owns one
that a call handed out, and gives it back by `release`.  A value belongs to the
dictionary that it was read from, and is never released.
-/

namespace DiskQuery

/-- The least number that is no signed 64-bit number any more. -/
abbrev signedBound : Int := 9223372036854775808

/-- A native call, over references of type `ρ`. -/
inductive Call (ρ : Type) where
  /-- A new session, absent if the service is out of reach. -/
  | createSession
  /-- The disk of that name, absent if there is none. -/
  | createDisk (session : ρ) (name : DeviceName)
  /-- The description of a disk, absent if it has none now. -/
  | copyDescription (disk : ρ)
  /-- The value of a key, absent if the dictionary does not hold the key. -/
  | value (dictionary : ρ) (key : Key)
  /-- The truth of a boolean value, absent for any other value. -/
  | boolean (value : ρ)
  /-- The length of a text value in UTF-16 units, absent for any other value. -/
  | textLength (value : ρ)
  /-- The most UTF-8 bytes that so many units take, negative if out of range. -/
  | maxSize (length : Int)
  /-- Copies a text value and a zero byte into a buffer. -/
  | copyText (value : ρ) (buffer : List UInt8)
  /-- Gives a counted reference back. -/
  | release (reference : ρ)
deriving Repr

namespace Call

/-- The type of answers to a call.  A copy answers whether it wrote the text,
and the buffer after it. -/
abbrev Answer {ρ : Type} : Call ρ → Type
  | createSession => Option ρ
  | createDisk _ _ => Option ρ
  | copyDescription _ => Option ρ
  | value _ _ => Option ρ
  | boolean _ => Option Bool
  | textLength _ => Option Int
  | maxSize _ => Int
  | copyText _ _ => Bool × List UInt8
  | release _ => Unit

end Call

/-- A service with states of type `σ`.  Every call has an answer or a fault,
and may change the state. -/
structure Service (ρ σ : Type) where
  answer : (call : Call ρ) → σ → Except Fault call.Answer × σ

end DiskQuery
