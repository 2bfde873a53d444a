/-!
# UTF-8

A text is a list of characters, and `encode` writes its UTF-8 bytes.  Bytes
that come from a device may be no text at all, so `segments` reads any byte
list: it cuts the list into encoded characters and ill-formed pieces.  The
other readers are views of that one pass.

* `decode` accepts the bytes that hold encoded characters only, and reports
  the first ill-formed piece otherwise.
* `decodeLossy` writes one replacement character for each ill-formed piece.

An ill-formed piece is as long as the bytes could still have been the start of
an encoded character, and at least one byte.
-/

namespace DiskQuery.Text.Utf8

/-- The UTF-8 bytes of a text. -/
def encode (text : List Char) : List UInt8 :=
  text.flatMap String.utf8EncodeChar

/-! ## One encoded character -/

/-- What the first byte of an encoding of two or more bytes fixes: its
payload bits, the range of the second byte, and the number of bytes after the
second. -/
structure Lead where
  payload : Nat
  low : UInt8
  high : UInt8
  more : Nat
deriving DecidableEq, Repr

/-- The first bytes of encodings of two or more bytes.  The ranges of the
second byte leave out overlong forms, surrogates, and everything above
U+10FFFF. -/
def lead? (b : UInt8) : Option Lead :=
  if 0xC2 ≤ b ∧ b ≤ 0xDF then some ⟨b.toNat - 0xC0, 0x80, 0xBF, 0⟩
  else if b = 0xE0 then some ⟨0x0, 0xA0, 0xBF, 1⟩
  else if b = 0xED then some ⟨0xD, 0x80, 0x9F, 1⟩
  else if 0xE1 ≤ b ∧ b ≤ 0xEF then some ⟨b.toNat - 0xE0, 0x80, 0xBF, 1⟩
  else if b = 0xF0 then some ⟨0x0, 0x90, 0xBF, 2⟩
  else if 0xF1 ≤ b ∧ b ≤ 0xF3 then some ⟨b.toNat - 0xF0, 0x80, 0xBF, 2⟩
  else if b = 0xF4 then some ⟨0x4, 0x80, 0x8F, 2⟩
  else none

/-- What a byte and the bytes after it begin with. -/
inductive Front where
  /-- The encoding of `c`, which takes `more` bytes after the first. -/
  | scalar (c : Char) (more : Nat)
  /-- An ill-formed piece of `length` bytes, whatever bytes follow. -/
  | illFormed (length : Nat)
  /-- The start of an encoding that the bytes end inside of. -/
  | truncated
deriving DecidableEq, Repr

/-- Reads the last bytes of an encoding.  `bits` holds the payload so far and
`seen` counts the bytes accepted after the first. -/
def trail (bits seen : Nat) : Nat → List UInt8 → Front
  | 0, _ => .scalar (Char.ofNat bits) seen
  | _ + 1, [] => .truncated
  | n + 1, b :: rest =>
      if 0x80 ≤ b ∧ b ≤ 0xBF then
        trail (bits * 64 + (b.toNat - 0x80)) (seen + 1) n rest
      else
        .illFormed (seen + 1)

/-- What the byte `b` and the bytes after it begin with. -/
def front (b : UInt8) (rest : List UInt8) : Front :=
  if b < 0x80 then
    .scalar (Char.ofNat b.toNat) 0
  else
    match lead? b, rest with
    | none, _ => .illFormed 1
    | some _, [] => .truncated
    | some lead, c :: rest =>
        if lead.low ≤ c ∧ c ≤ lead.high then
          trail (lead.payload * 64 + (c.toNat - 0x80)) 1 lead.more rest
        else
          .illFormed 1

/-! ## Any bytes -/

/-- A piece of a byte list. -/
inductive Segment where
  /-- One encoded character. -/
  | scalar (c : Char)
  /-- Bytes that no bytes after them can turn into an encoding. -/
  | illFormed (bytes : List UInt8)
  /-- The proper start of an encoding, at the end of the list. -/
  | truncated (bytes : List UInt8)
deriving DecidableEq, Repr

/-- The pieces of a byte list whose first `skip` bytes are spoken for. -/
def segmentsAfter : Nat → List UInt8 → List Segment
  | _, [] => []
  | skip + 1, _ :: rest => segmentsAfter skip rest
  | 0, b :: rest =>
      match front b rest with
      | .scalar c more => .scalar c :: segmentsAfter more rest
      | .illFormed length =>
          .illFormed ((b :: rest).take length) :: segmentsAfter (length - 1) rest
      | .truncated => [.truncated (b :: rest)]

/-- The pieces of a byte list, in order. -/
def segments (bytes : List UInt8) : List Segment :=
  segmentsAfter 0 bytes

/-! ## Text -/

/-- Where and how a byte list stops being UTF-8: the length of its longest
valid beginning, and the length of the ill-formed piece after it, absent if
the list ends inside an encoding. -/
structure Defect where
  validUpTo : Nat
  errorLength : Option Nat
deriving DecidableEq, Repr

/-- The wording of a defect. -/
def Defect.message (defect : Defect) : String :=
  match defect.errorLength with
  | some length =>
      s!"invalid utf-8 sequence of {length} bytes from index {defect.validUpTo}"
  | none => s!"incomplete utf-8 byte sequence from index {defect.validUpTo}"

/-- The text that pieces make, or the defect of the first piece that is no
character.  `position` is the number of bytes before the pieces. -/
def assemble (position : Nat) : List Segment → Except Defect (List Char)
  | [] => .ok []
  | .scalar c :: rest =>
      (assemble (position + (String.utf8EncodeChar c).length) rest).map (c :: ·)
  | .illFormed bytes :: _ => .error ⟨position, some bytes.length⟩
  | .truncated _ :: _ => .error ⟨position, none⟩

/-- The text whose UTF-8 bytes these are, or where they stop being UTF-8. -/
def decode (bytes : List UInt8) : Except Defect (List Char) :=
  assemble 0 (segments bytes)

/-- The character that stands for a piece: U+FFFD for an ill-formed one. -/
def Segment.toChar : Segment → Char
  | .scalar c => c
  | .illFormed _ => Char.ofNat 0xFFFD
  | .truncated _ => Char.ofNat 0xFFFD

/-- The text of any bytes, with one U+FFFD for each ill-formed piece. -/
def decodeLossy (bytes : List UInt8) : List Char :=
  (segments bytes).map Segment.toChar

end DiskQuery.Text.Utf8
