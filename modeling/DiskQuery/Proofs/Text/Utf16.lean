import DiskQuery.Proofs.Text.Utf8
import DiskQuery.Text.Utf16

/-!
# Encoding and decoding UTF-16

The decoder reads exactly what the encoder writes.  A character up to U+FFFF is
one unit that is no surrogate, because no character is one; any other character
is a pair of a high and a low surrogate, and the pair gives its code point.

There are three groups.

* Both directions.  `decode_eq_some_iff` says that units decode to a text if and
  only if they are its encoding.
* Unpaired surrogates.  `HasUnpaired` looks at one unit and its two neighbours,
  and `decode_eq_none_iff` says that the decoder refuses just the units in which
  that finds something.
* Zero units.  Only the zero character has one.
-/

namespace DiskQuery.Text.Utf16

/-! ## Units -/

theorem toNat_ofNat_of_lt {n : Nat} (h : n < 0x10000) : (UInt16.ofNat n).toNat = n := by
  rw [UInt16.toNat_ofNat']
  exact Nat.mod_eq_of_lt h

theorem isHigh_iff {u : UInt16} : isHigh u = true ↔ 0xD800 ≤ u.toNat ∧ u.toNat ≤ 0xDBFF := by
  simp only [isHigh, Bool.and_eq_true, decide_eq_true_eq, UInt16.le_iff_toNat_le,
    UInt16.reduceToNat]

theorem isLow_iff {u : UInt16} : isLow u = true ↔ 0xDC00 ≤ u.toNat ∧ u.toNat ≤ 0xDFFF := by
  simp only [isLow, Bool.and_eq_true, decide_eq_true_eq, UInt16.le_iff_toNat_le,
    UInt16.reduceToNat]

/-! ## Characters -/

/-- A unit that is no surrogate is a character of its own. -/
theorem decode_cons_of_single {u : UInt16} (hhigh : isHigh u = false) (hlow : isLow u = false)
    (rest : List UInt16) :
    decode (u :: rest) = (decode rest).map (Char.ofNat u.toNat :: ·) := by
  cases rest with
  | nil => simp [decode, hhigh, hlow]
  | cons v rest => simp [decode, hhigh, hlow]

/-- A high surrogate and a low one after it are one character. -/
theorem decode_cons_of_pair {u v : UInt16} (hhigh : isHigh u = true) (hlow : isLow v = true)
    (rest : List UInt16) :
    decode (u :: v :: rest) = (decode rest).map (ofPair u v :: ·) := by
  rw [decode, if_pos hhigh, if_pos hlow]

/-- An encoded character is read back, whatever comes after it. -/
theorem decode_encodeChar_append (c : Char) (rest : List UInt16) :
    decode (encodeChar c ++ rest) = (decode rest).map (c :: ·) := by
  have hvalid := Utf8.toNat_range c
  have hchar : Char.ofNat c.toNat = c := Char.ofNat_toNat c
  unfold encodeChar
  by_cases hsingle : c.toNat < 0x10000
  · have hunit := toNat_ofNat_of_lt hsingle
    have hhigh : isHigh (UInt16.ofNat c.toNat) = false := by
      rw [← Bool.not_eq_true, isHigh_iff, hunit]
      omega
    have hlow : isLow (UInt16.ofNat c.toNat) = false := by
      rw [← Bool.not_eq_true, isLow_iff, hunit]
      omega
    rw [if_pos hsingle, List.singleton_append, decode_cons_of_single hhigh hlow, hunit, hchar]
  · have hfirst : (UInt16.ofNat (0xD800 + (c.toNat - 0x10000) / 0x400)).toNat =
        0xD800 + (c.toNat - 0x10000) / 0x400 := toNat_ofNat_of_lt (by omega)
    have hsecond : (UInt16.ofNat (0xDC00 + (c.toNat - 0x10000) % 0x400)).toNat =
        0xDC00 + (c.toNat - 0x10000) % 0x400 := toNat_ofNat_of_lt (by omega)
    have hpair : 0x10000 + (0xD800 + (c.toNat - 0x10000) / 0x400 - 0xD800) * 0x400 +
        (0xDC00 + (c.toNat - 0x10000) % 0x400 - 0xDC00) = c.toNat := by omega
    rw [if_neg hsingle]
    show decode (_ :: _ :: rest) = _
    rw [decode_cons_of_pair (isHigh_iff.2 (by omega)) (isLow_iff.2 (by omega)), ofPair, hfirst,
      hsecond, hpair, hchar]

/-! ## Texts -/

/-- An encoded text is read back. -/
theorem decode_encode (text : List Char) : decode (encode text) = some text := by
  induction text with
  | nil => rfl
  | cons c text ih =>
    show decode (encodeChar c ++ encode text) = _
    rw [decode_encodeChar_append, ih]
    rfl

/-! ## Reading units -/

/-- A unit that is no surrogate is the encoding of its character. -/
theorem encodeChar_ofNat_toNat {u : UInt16} (hhigh : isHigh u = false) (hlow : isLow u = false) :
    encodeChar (Char.ofNat u.toNat) = [u] := by
  have hlt := u.toNat_lt
  have hrange : u.toNat < 0xD800 ∨ 0xDFFF < u.toNat ∧ u.toNat < 0x110000 := by
    rw [← Bool.not_eq_true, isHigh_iff] at hhigh
    rw [← Bool.not_eq_true, isLow_iff] at hlow
    omega
  have hchar := Utf8.toNat_ofNat_of_range hrange
  rw [encodeChar, hchar, if_pos (by omega), UInt16.ofNat_toNat]

/-- A high surrogate and a low one are the encoding of their character. -/
theorem encodeChar_ofPair {u v : UInt16} (hhigh : isHigh u = true) (hlow : isLow v = true) :
    encodeChar (ofPair u v) = [u, v] := by
  obtain ⟨hu, hu'⟩ := isHigh_iff.1 hhigh
  obtain ⟨hv, hv'⟩ := isLow_iff.1 hlow
  have hchar : (ofPair u v).toNat =
      0x10000 + (u.toNat - 0xD800) * 0x400 + (v.toNat - 0xDC00) :=
    Utf8.toNat_ofNat_of_range (by omega)
  have hfirst : 0xD800 + ((ofPair u v).toNat - 0x10000) / 0x400 = u.toNat := by omega
  have hsecond : 0xDC00 + ((ofPair u v).toNat - 0x10000) % 0x400 = v.toNat := by omega
  rw [encodeChar, if_neg (by omega), hfirst, hsecond, UInt16.ofNat_toNat, UInt16.ofNat_toNat]

theorem encode_cons (c : Char) (text : List Char) :
    encode (c :: text) = encodeChar c ++ encode text := rfl

/-- Units that decode to a text are its encoding. -/
theorem encode_of_decode {units : List UInt16} {text : List Char} (h : decode units = some text) :
    encode text = units := by
  -- a unit that stands for a character of its own, at the end or not
  have hsingle : ∀ {u : UInt16} {rest : List UInt16} {text : List Char},
      isHigh u = false → isLow u = false →
      (∀ {text}, decode rest = some text → encode text = rest) →
      decode (u :: rest) = some text → encode text = u :: rest := by
    intro u rest text hhigh hlow ih h
    rw [decode_cons_of_single hhigh hlow] at h
    obtain ⟨tail, htail, rfl⟩ := Option.map_eq_some_iff.1 h
    rw [encode_cons, encodeChar_ofNat_toNat hhigh hlow, ih htail]
    rfl
  induction units using decode.induct generalizing text with
  | case1 =>
    cases h
    rfl
  | case2 u hsurrogate => simp [decode, hsurrogate] at h
  | case3 u hplain =>
    rw [Bool.not_eq_true, Bool.or_eq_false_iff] at hplain
    refine hsingle hplain.1 hplain.2 (fun hnil => ?_) h
    cases hnil
    rfl
  | case4 u v rest hhigh hlow ih =>
    rw [decode_cons_of_pair hhigh hlow] at h
    obtain ⟨tail, htail, rfl⟩ := Option.map_eq_some_iff.1 h
    rw [encode_cons, encodeChar_ofPair hhigh hlow, ih htail]
    rfl
  | case5 u v rest hhigh hlow => simp [decode, hhigh, hlow] at h
  | case6 u v rest hhigh hlow => simp [decode, hhigh, hlow] at h
  | case7 u v rest hhigh hlow ih =>
    exact hsingle (Bool.eq_false_iff.2 hhigh) (Bool.eq_false_iff.2 hlow) (fun h => ih h) h

/-- Units decode to a text if and only if they are its encoding. -/
theorem decode_eq_some_iff {units : List UInt16} {text : List Char} :
    decode units = some text ↔ encode text = units := by
  constructor
  · exact encode_of_decode
  · rintro rfl
    exact decode_encode text

/-! ## Unpaired surrogates -/

/-- A surrogate that makes no pair with the unit before it or after it. -/
def IsUnpaired (previous : Option UInt16) (u : UInt16) (next : Option UInt16) : Prop :=
  isHigh u = true ∧ (∀ v ∈ next, isLow v = false) ∨
    isLow u = true ∧ ∀ v ∈ previous, isHigh v = false

/-- An unpaired surrogate stands somewhere among the units. -/
def HasUnpaired (units : List UInt16) : Prop :=
  ∃ before u after, units = before ++ u :: after ∧
    IsUnpaired before.getLast? u after.head?

theorem isHigh_eq_false_of_isLow {u : UInt16} (h : isLow u = true) : isHigh u = false := by
  rw [← Bool.not_eq_true, isHigh_iff]
  have hlow := isLow_iff.1 h
  omega

/-- Units that end in no high surrogate make no pair with what comes after
them. -/
theorem HasUnpaired.append {first rest : List UInt16} (h : HasUnpaired rest)
    (hlast : ∀ u ∈ first.getLast?, isHigh u = false) : HasUnpaired (first ++ rest) := by
  obtain ⟨before, u, after, rfl, hunpaired⟩ := h
  refine ⟨first ++ before, u, after, (List.append_assoc _ _ _).symm, ?_⟩
  refine hunpaired.imp_right fun ⟨hlow, hprevious⟩ => ⟨hlow, fun v hv => ?_⟩
  rw [List.getLast?_append] at hv
  cases hbefore : before.getLast? with
  | none =>
    rw [hbefore, Option.none_or] at hv
    exact hlast v hv
  | some w =>
    rw [hbefore, Option.some_or] at hv
    exact hprevious v (hbefore.trans hv)

/-- A surrogate that is unpaired after some units is so after the later ones. -/
theorem IsUnpaired.of_cons {b u : UInt16} {before : List UInt16} {next : Option UInt16}
    (h : IsUnpaired (b :: before).getLast? u next) : IsUnpaired before.getLast? u next := by
  cases before with
  | nil => exact h.imp_right fun hlow => ⟨hlow.1, nofun⟩
  | cons c before => exact h

theorem HasUnpaired.of_single {u : UInt16} {rest : List UInt16} (h : HasUnpaired (u :: rest))
    (hhigh : isHigh u = false) (hlow : isLow u = false) : HasUnpaired rest := by
  obtain ⟨before, v, after, hunits, hunpaired⟩ := h
  cases before with
  | nil =>
    cases hunits
    rcases hunpaired with ⟨hhigh', -⟩ | ⟨hlow', -⟩
    · simp [hhigh] at hhigh'
    · simp [hlow] at hlow'
  | cons b before =>
    cases hunits
    exact ⟨before, v, after, rfl, hunpaired.of_cons⟩

theorem HasUnpaired.of_pair {u v : UInt16} {rest : List UInt16}
    (h : HasUnpaired (u :: v :: rest)) (hhigh : isHigh u = true) (hlow : isLow v = true) :
    HasUnpaired rest := by
  obtain ⟨before, w, after, hunits, hunpaired⟩ := h
  rcases before with _ | ⟨b, _ | ⟨c, before⟩⟩
  · cases hunits
    rcases hunpaired with ⟨-, hnext⟩ | ⟨hlow', -⟩
    · simp [hlow] at hnext
    · simp [isHigh_eq_false_of_isLow hlow'] at hhigh
  · cases hunits
    rcases hunpaired with ⟨hhigh', -⟩ | ⟨-, hprevious⟩
    · simp [isHigh_eq_false_of_isLow hlow] at hhigh'
    · simp [hhigh] at hprevious
  · cases hunits
    exact ⟨before, w, after, rfl, hunpaired.of_cons.of_cons⟩

/-- Units are no text if and only if a surrogate among them is unpaired. -/
theorem decode_eq_none_iff (units : List UInt16) : decode units = none ↔ HasUnpaired units := by
  induction units using decode.induct with
  | case1 =>
    refine ⟨nofun, ?_⟩
    rintro ⟨before, u, after, hunits, -⟩
    simp at hunits
  | case2 u hsurrogate =>
    refine ⟨fun _ => ⟨[], u, [], rfl, ?_⟩, fun _ => by simp [decode, hsurrogate]⟩
    rw [Bool.or_eq_true] at hsurrogate
    exact hsurrogate.imp (⟨·, nofun⟩) (⟨·, nofun⟩)
  | case3 u hplain =>
    refine ⟨fun h => by simp [decode, hplain] at h, fun h => ?_⟩
    rw [Bool.not_eq_true, Bool.or_eq_false_iff] at hplain
    obtain ⟨before, v, after, hunits, -⟩ := h.of_single hplain.1 hplain.2
    simp at hunits
  | case4 u v rest hhigh hlow ih =>
    rw [decode_cons_of_pair hhigh hlow, Option.map_eq_none_iff, ih]
    refine ⟨fun h => ?_, fun h => h.of_pair hhigh hlow⟩
    show HasUnpaired ([u, v] ++ rest)
    refine h.append ?_
    rintro w ⟨⟩
    exact isHigh_eq_false_of_isLow hlow
  | case5 u v rest hhigh hlow =>
    refine ⟨fun _ => ⟨[], u, v :: rest, rfl, .inl ⟨hhigh, ?_⟩⟩, fun _ => ?_⟩
    · rintro w ⟨⟩
      exact Bool.eq_false_iff.2 hlow
    · simp [decode, hhigh, hlow]
  | case6 u v rest hhigh hlow =>
    refine ⟨fun _ => ⟨[], u, v :: rest, rfl, .inr ⟨hlow, nofun⟩⟩, fun _ => ?_⟩
    simp [decode, hhigh, hlow]
  | case7 u v rest hhigh hlow ih =>
    have hhigh := Bool.eq_false_iff.2 hhigh
    have hlow := Bool.eq_false_iff.2 hlow
    rw [decode_cons_of_single hhigh hlow, Option.map_eq_none_iff, ih]
    refine ⟨fun h => ?_, fun h => h.of_single hhigh hlow⟩
    show HasUnpaired ([u] ++ v :: rest)
    refine h.append ?_
    rintro w ⟨⟩
    exact hhigh

/-! ## Zero units -/

theorem encodeChar_zero : encodeChar '\x00' = [0] := rfl

theorem zero_notMem_encodeChar {c : Char} (h : c ≠ '\x00') : 0 ∉ encodeChar c := by
  have hpos := Utf8.toNat_pos h
  have hvalid := Utf8.toNat_range c
  have hunit : ∀ n, 0 < n → n < 0x10000 → (0 : UInt16) ≠ UInt16.ofNat n := by
    intro n hn hlt heq
    have hnat := congrArg UInt16.toNat heq
    rw [toNat_ofNat_of_lt hlt] at hnat
    change 0 = n at hnat
    omega
  unfold encodeChar
  split
  · rw [List.mem_singleton]
    exact hunit _ hpos (by omega)
  · simp only [List.mem_cons, List.not_mem_nil, or_false, not_or]
    exact ⟨hunit _ (by omega) (by omega), hunit _ (by omega) (by omega)⟩

/-- The units before the first zero unit are those of the characters before the
first zero character. -/
theorem takeWhile_encode (text : List Char) :
    (encode text).takeWhile (· ≠ 0) = encode (text.takeWhile (· ≠ '\x00')) :=
  Utf8.takeWhile_flatMap encodeChar_zero (fun _ => zero_notMem_encodeChar) text

end DiskQuery.Text.Utf16
