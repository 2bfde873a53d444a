/-!
# UTF-16

The code units of a text, and the text of code units.  Units are well formed
when every high surrogate stands right before a low one and every low
surrogate right after a high one; `decode` accepts exactly those.
-/

namespace DiskQuery.Text.Utf16

/-- The code units of one character: two for a character above U+FFFF. -/
def encodeChar (c : Char) : List UInt16 :=
  if c.toNat < 0x10000 then
    [UInt16.ofNat c.toNat]
  else
    [UInt16.ofNat (0xD800 + (c.toNat - 0x10000) / 0x400),
      UInt16.ofNat (0xDC00 + (c.toNat - 0x10000) % 0x400)]

/-- The code units of a text. -/
def encode (text : List Char) : List UInt16 :=
  text.flatMap encodeChar

/-- A unit that opens a pair. -/
def isHigh (u : UInt16) : Bool :=
  decide (0xD800 ≤ u) && decide (u ≤ 0xDBFF)

/-- A unit that closes a pair. -/
def isLow (u : UInt16) : Bool :=
  decide (0xDC00 ≤ u) && decide (u ≤ 0xDFFF)

/-- The character of a pair. -/
def ofPair (high low : UInt16) : Char :=
  Char.ofNat (0x10000 + (high.toNat - 0xD800) * 0x400 + (low.toNat - 0xDC00))

/-- The text of code units, absent if a surrogate is unpaired. -/
def decode : List UInt16 → Option (List Char)
  | [] => some []
  | [u] => if isHigh u || isLow u then none else some [Char.ofNat u.toNat]
  | u :: v :: rest =>
      if isHigh u then
        if isLow v then (decode rest).map (ofPair u v :: ·) else none
      else if isLow u then
        none
      else
        (decode (v :: rest)).map (Char.ofNat u.toNat :: ·)

end DiskQuery.Text.Utf16
