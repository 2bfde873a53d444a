import DiskQuery.Text.Combining
import DiskQuery.Text.Hex
import DiskQuery.Text.Unprintable
import DiskQuery.Text.Utf8

/-!
# Quoted bytes

One line of text that shows any bytes, in double quotes.  Bytes that are UTF-8
show as their characters, and the rest as `\xNN`.

* Tab, carriage return, line feed, both quotes and the backslash are escaped
  by a backslash; the other ASCII control characters show as `\xNN`.
* A character above ASCII shows as itself, unless it is unprintable or would
  attach to the character before it; those show their code point.
-/

namespace DiskQuery.Text.Quoted

/-- The ASCII characters with an escape of their own, by code. -/
def named : List (Nat × Char) :=
  [(0x09, 't'), (0x0A, 'n'), (0x0D, 'r'), (0x22, '"'), (0x27, Char.ofNat 0x27), (0x5C, '\\')]

/-- A byte by its two hexadecimal digits. -/
def byte (b : UInt8) : List Char :=
  ['\\', 'x'] ++ hex 2 b.toNat

/-- A character by its code point. -/
def codePoint (c : Char) : List Char :=
  ['\\', 'u', Char.ofNat 0x7B] ++ hex 1 c.toNat ++ [Char.ofNat 0x7D]

/-- The form of one character between the quotes. -/
def character (c : Char) : List Char :=
  match named.lookup c.toNat with
  | some letter => ['\\', letter]
  | none =>
      if c.toNat < 0x20 ∨ c.toNat = 0x7F then byte (UInt8.ofNat c.toNat)
      else if c.toNat < 0x7F then [c]
      else if isCombining c || isUnprintable c then codePoint c
      else [c]

/-- The form of one piece between the quotes. -/
def segment : Utf8.Segment → List Char
  | .scalar c => character c
  | .illFormed bytes => bytes.flatMap byte
  | .truncated bytes => bytes.flatMap byte

/-- The quoted form of any bytes. -/
def ofBytes (bytes : List UInt8) : String :=
  String.ofList (['"'] ++ (Utf8.segments bytes).flatMap segment ++ ['"'])

end DiskQuery.Text.Quoted
