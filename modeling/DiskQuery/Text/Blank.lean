/-!
# Blank characters

The characters with the Unicode property White_Space, and the text without the
blank characters at its end.
-/

namespace DiskQuery.Text

/-- The Unicode property White_Space. -/
def isBlank (c : Char) : Bool :=
  let n := c.toNat
  decide (0x09 ≤ n ∧ n ≤ 0x0D) || decide (0x2000 ≤ n ∧ n ≤ 0x200A) ||
    [0x20, 0x85, 0xA0, 0x1680, 0x2028, 0x2029, 0x202F, 0x205F, 0x3000].contains n

/-- The text up to its last character that is not blank. -/
def trimEnd (text : List Char) : List Char :=
  (text.reverse.dropWhile isBlank).reverse

/-- Nothing blank is left at the end. -/
theorem isBlank_of_getLast?_trimEnd {text : List Char} {c : Char}
    (h : (trimEnd text).getLast? = some c) : isBlank c = false := by
  rw [trimEnd, List.getLast?_reverse] at h
  cases hd : text.reverse.dropWhile isBlank with
  | nil => simp [hd] at h
  | cons d rest =>
      have := List.head?_dropWhile_not isBlank text.reverse
      simp_all

end DiskQuery.Text
