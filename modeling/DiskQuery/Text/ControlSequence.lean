/-!
# Control sequences

What is left of a text once it is shown without commands to the terminal: the
control characters, and the control sequences, which the escape character
starts.

* The white space among the control characters is always shown.  Inside a
  sequence it also suspends the sequence, and the text is shown as if there
  were none.  A suspended sequence goes on at the next control character, and
  is given up at a character above ASCII.
* The escape character starts a sequence, and CANCEL and SUBSTITUTE end one,
  wherever they stand.
* Nothing else in a sequence is shown.

`strip` is what is shown of a text that starts outside of sequences.
-/

namespace DiskQuery.Text.ControlSequence

/-! ## Characters -/

/-- The control characters that are white space: tab, line feed, form feed and
carriage return. -/
def isSpacing (c : Char) : Bool :=
  [0x09, 0x0A, 0x0C, 0x0D].contains c.toNat

/-- Outside of sequences, everything but the other ASCII control characters is
shown. -/
def isPlain (c : Char) : Bool :=
  isSpacing c || (decide (0x20 ≤ c.toNat) && decide (c.toNat ≠ 0x7F))

/-- CANCEL and SUBSTITUTE end any sequence. -/
def isCancel (c : Char) : Bool :=
  [0x18, 0x1A].contains c.toNat

/-- The character that starts a sequence. -/
def isEscape (c : Char) : Bool :=
  decide (c.toNat = 0x1B)

/-- The byte that ends a string argument.  It also does so as a part of the
UTF-8 form of a character. -/
def stringTerminator : UInt8 := 0x9C

/-! ## Sequences -/

/-- How far a sequence is. -/
inductive Sequence where
  /-- Right after the escape character. -/
  | escape
  /-- In the intermediate characters of a short sequence. -/
  | intermediate
  /-- In the parameters of a control function. -/
  | parameters
  /-- In a command to the operating system. -/
  | command
  /-- Right after the introducer of a device control string. -/
  | device
  /-- In the parameters of a device control string. -/
  | deviceParameters
  /-- In the intermediate characters of a device control string. -/
  | deviceIntermediate
  /-- In a string argument. -/
  | string
deriving DecidableEq, Repr

namespace Sequence

/-- Whether white space is shown inside of the sequence. -/
def showsSpacing : Sequence → Bool
  | escape | intermediate | parameters => true
  | command | device | deviceParameters | deviceIntermediate | string => false

/-- The sequence after a graphic ASCII character or a space, given by its code;
none if that character ends it. -/
def afterGraphic (sequence : Sequence) (code : Nat) : Option Sequence :=
  match sequence with
  | escape =>
      if code < 0x30 then some intermediate
      else if code = '['.toNat then some parameters
      else if code = ']'.toNat then some command
      else if code = 'P'.toNat then some device
      else if code = 'X'.toNat ∨ code = '^'.toNat ∨ code = '_'.toNat then some string
      else none
  | intermediate => if code < 0x30 then some intermediate else none
  | parameters => if code < 0x40 then some parameters else none
  | device =>
      if code < 0x30 then some deviceIntermediate
      else if code < 0x40 then some deviceParameters
      else some string
  | deviceParameters =>
      if code < 0x30 then some deviceIntermediate
      else if code < 0x3C then some deviceParameters
      else some string
  | deviceIntermediate => if code < 0x30 then some deviceIntermediate else some string
  | command => some command
  | string => some string

/-- The sequence after a character that is not shown; none if that character
ends it. -/
def after (sequence : Sequence) (c : Char) : Option Sequence :=
  if sequence = command then
    if c.toNat = 0x07 then none else some command
  else if sequence = string then
    if (String.utf8EncodeChar c).contains stringTerminator then none else some string
  else if c.toNat < 0x20 ∨ 0x7F ≤ c.toNat then some sequence
  else sequence.afterGraphic c.toNat

end Sequence

/-! ## Showing a text -/

/-- Where a character stands. -/
inductive Place where
  | outside
  | inside (sequence : Sequence)
  /-- After white space in a sequence, which goes on later. -/
  | suspended (sequence : Sequence)
deriving DecidableEq, Repr

namespace Place

/-- The place in a sequence, or outside if there is none. -/
def ofSequence? : Option Sequence → Place
  | some sequence => inside sequence
  | none => outside

/-- Whether a character at this place is shown. -/
def shows (place : Place) (c : Char) : Bool :=
  match place with
  | outside | suspended _ => isPlain c
  | inside sequence => sequence.showsSpacing && isSpacing c

/-- The place after a character that is shown. -/
def afterShown (place : Place) (c : Char) : Place :=
  match place with
  | outside => outside
  | inside sequence => suspended sequence
  | suspended sequence => if 0x80 ≤ c.toNat then outside else suspended sequence

/-- The place after a character that is not shown. -/
def afterHidden (place : Place) (c : Char) : Place :=
  if isEscape c then inside .escape
  else if isCancel c then outside
  else
    match place with
    | outside => outside
    | inside sequence | suspended sequence => ofSequence? (sequence.after c)

end Place

/-- What is shown of the characters that follow a place. -/
def stripFrom (place : Place) : List Char → List Char
  | [] => []
  | c :: rest =>
      if place.shows c then c :: stripFrom (place.afterShown c) rest
      else stripFrom (place.afterHidden c) rest

/-- What is shown of a text. -/
def strip (text : String) : String :=
  String.ofList (stripFrom .outside text.toList)

end DiskQuery.Text.ControlSequence
