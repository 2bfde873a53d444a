/-!
# Hexadecimal digits

Lower-case hexadecimal text of a number, padded with zeros to a width.
-/

namespace DiskQuery.Text

/-- The digits of `n` in base sixteen, at least `width` of them. -/
def hex (width n : Nat) : List Char :=
  let digits := Nat.toDigits 16 n
  List.replicate (width - digits.length) '0' ++ digits

end DiskQuery.Text
