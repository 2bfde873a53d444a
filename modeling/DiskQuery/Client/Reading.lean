import DiskQuery.Client.Handle
import DiskQuery.QueryError

/-!
# Reading a description

A boolean is read by one call.  A text is read in two passes: the first asks
for its length and sizes a buffer for the worst case, the second copies it.
The buffer starts out as zeros and is one byte longer than the text can be, so
a well-behaved copy always leaves a zero byte after the text.
-/

namespace DiskQuery

open Client

variable {ρ : Type}

/-- The text that a copy left in a buffer: the bytes before the first zero
byte, which have to be UTF-8. -/
def textInBuffer (key : Key) (buffer : List UInt8) : Except QueryError String :=
  if 0 ∈ buffer then
    match Text.Utf8.decode (buffer.takeWhile (· ≠ 0)) with
    | .ok text => .ok (String.ofList text)
    | .error defect => .error (.invalidUtf8 key defect)
  else
    .error (.stringConversion key)

/-- The size of the buffer for a text that takes at most `maxSize` bytes: one
more, for the zero byte.  A negative size is none. -/
def bufferSize? (maxSize : Int) : Option Nat :=
  if maxSize < 0 then none else some (maxSize.toNat + 1)

namespace Description

/-- The boolean of a key, absent if the description does not hold the key. -/
def boolean (description : Description ρ) (key : Key) :
    Client ρ (Except QueryError (Option Bool)) := do
  let some value ← perform (.value description.guard.reference key) | pure (.ok none)
  let some truth ← perform (.boolean value) | pure (.error (.unexpectedType key "boolean"))
  pure (.ok (some truth))

/-- The text of a key, absent if the description does not hold the key. -/
def text (description : Description ρ) (key : Key) :
    Client ρ (Except QueryError (Option String)) := do
  let some value ← perform (.value description.guard.reference key) | pure (.ok none)
  let some length ← perform (.textLength value) | pure (.error (.unexpectedType key "string"))
  let some size := bufferSize? (← perform (.maxSize length))
    | pure (.error (.stringConversion key))
  match ← perform (.copyText value (List.replicate size 0)) with
  | (true, buffer) => pure ((textInBuffer key buffer).map some)
  | (false, _) => pure (.error (.stringConversion key))

end Description

end DiskQuery
