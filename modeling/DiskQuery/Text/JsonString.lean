import DiskQuery.Text.Hex

/-!
# JSON strings

A text as a JSON string: both quotes, and escapes for the quote, the backslash
and the control characters below the space.  All other characters stand for
themselves.
-/

namespace DiskQuery.Text.JsonString

/-- The characters with a short escape, by code, and the letter of each. -/
def named : List (Nat × Char) :=
  [(0x08, 'b'), (0x09, 't'), (0x0A, 'n'), (0x0C, 'f'), (0x0D, 'r'), (0x22, '"'), (0x5C, '\\')]

/-- The form of one character between the quotes. -/
def character (c : Char) : List Char :=
  match named.lookup c.toNat with
  | some letter => ['\\', letter]
  | none => if c.toNat < 0x20 then ['\\', 'u'] ++ hex 4 c.toNat else [c]

/-- A text as a JSON string. -/
def encode (text : List Char) : List Char :=
  ['"'] ++ text.flatMap character ++ ['"']

end DiskQuery.Text.JsonString
