import DiskQuery.Text.Utf8
import Mathlib.Tactic.SplitIfs

/-!
# Encoding and decoding UTF-8

The decoder reads exactly what the encoder writes: `decode_eq_ok_iff` says
that a byte list decodes to a text if and only if it is the encoding of that
text.

There are four groups.

* First bytes.  `lead?_two`, `lead?_three` and `lead?_four` give the row of
  the table for each length, with its bounds as numbers.
* One character.  `front_encodeChar` reads an encoded character back, and
  `encodeChar_of_front` says that a character that was read is encoded there.
* Whole texts.  `segmentsAfter_eq_drop` drops the bytes that are spoken for, and
  the two directions of `decode_eq_ok_iff` follow by induction on the text and
  on the length of the bytes.
* Zero bytes.  Only the zero character has one, so cutting the bytes at their
  first zero byte cuts the text at its first zero character.
-/

namespace DiskQuery.Text.Utf8

/-! ## First bytes -/

/-- The first byte of a two-byte encoding. -/
theorem lead?_two {b : UInt8} (hlow : 0xC2 ≤ b.toNat) (hhigh : b.toNat ≤ 0xDF) :
    lead? b = some ⟨b.toNat - 0xC0, 0x80, 0xBF, 0⟩ := by
  have hrange : 0xC2 ≤ b ∧ b ≤ 0xDF := by
    simp only [UInt8.le_iff_toNat_le]
    exact ⟨hlow, hhigh⟩
  rw [lead?, if_pos hrange]

/-- The first byte of a three-byte encoding. -/
theorem lead?_three {b : UInt8} (hlow : 0xE0 ≤ b.toNat) (hhigh : b.toNat ≤ 0xEF) :
    lead? b = some ⟨b.toNat - 0xE0, if b.toNat = 0xE0 then 0xA0 else 0x80,
      if b.toNat = 0xED then 0x9F else 0xBF, 1⟩ := by
  simp only [lead?, UInt8.le_iff_toNat_le, ← UInt8.toNat_inj]
  simp only [UInt8.reduceToNat]
  split_ifs <;> first | omega | simp_all

/-- The first byte of a four-byte encoding. -/
theorem lead?_four {b : UInt8} (hlow : 0xF0 ≤ b.toNat) (hhigh : b.toNat ≤ 0xF4) :
    lead? b = some ⟨b.toNat - 0xF0, if b.toNat = 0xF0 then 0x90 else 0x80,
      if b.toNat = 0xF4 then 0x8F else 0xBF, 2⟩ := by
  simp only [lead?, UInt8.le_iff_toNat_le, ← UInt8.toNat_inj]
  simp only [UInt8.reduceToNat]
  split_ifs <;> first | omega | simp_all

/-- A first byte is in one of the three ranges. -/
theorem range_of_lead? {b : UInt8} {lead : Lead} (h : lead? b = some lead) :
    (0xC2 ≤ b.toNat ∧ b.toNat ≤ 0xDF) ∨ (0xE0 ≤ b.toNat ∧ b.toNat ≤ 0xEF) ∨
      (0xF0 ≤ b.toNat ∧ b.toNat ≤ 0xF4) := by
  simp only [lead?, UInt8.le_iff_toNat_le, ← UInt8.toNat_inj] at h
  simp only [UInt8.reduceToNat] at h
  split_ifs at h <;> omega

/-! ## The bytes of a character -/

/-- The code point of a character is no surrogate and not above U+10FFFF. -/
theorem toNat_range (c : Char) :
    c.toNat < 0xD800 ∨ 0xDFFF < c.toNat ∧ c.toNat < 0x110000 :=
  c.valid

theorem encodeChar_one {c : Char} (h : c.toNat ≤ 0x7F) :
    String.utf8EncodeChar c = [UInt8.ofNat c.toNat] :=
  if_pos h

theorem encodeChar_two {c : Char} (hlow : 0x7F < c.toNat) (hhigh : c.toNat ≤ 0x7FF) :
    String.utf8EncodeChar c =
      [UInt8.ofNat (c.toNat / 64 + 0xC0), UInt8.ofNat (c.toNat % 64 + 0x80)] := by
  have hfirst : c.toNat / 64 % 0x20 = c.toNat / 64 := by omega
  change (if c.toNat ≤ 0x7F then _ else if c.toNat ≤ 0x7FF then
    [UInt8.ofNat (c.toNat / 64 % 0x20 + 0xC0), _] else _) = _
  rw [if_neg (by omega), if_pos hhigh, hfirst]
  rfl

theorem encodeChar_three {c : Char} (hlow : 0x7FF < c.toNat) (hhigh : c.toNat ≤ 0xFFFF) :
    String.utf8EncodeChar c =
      [UInt8.ofNat (c.toNat / 4096 + 0xE0), UInt8.ofNat (c.toNat / 64 % 64 + 0x80),
        UInt8.ofNat (c.toNat % 64 + 0x80)] := by
  have hfirst : c.toNat / 4096 % 0x10 = c.toNat / 4096 := by omega
  change (if c.toNat ≤ 0x7F then _ else if c.toNat ≤ 0x7FF then _ else if c.toNat ≤ 0xFFFF then
    [UInt8.ofNat (c.toNat / 4096 % 0x10 + 0xE0), _, _] else _) = _
  rw [if_neg (by omega), if_neg (by omega), if_pos hhigh, hfirst]
  rfl

theorem encodeChar_four {c : Char} (hlow : 0xFFFF < c.toNat) :
    String.utf8EncodeChar c =
      [UInt8.ofNat (c.toNat / 262144 + 0xF0), UInt8.ofNat (c.toNat / 4096 % 64 + 0x80),
        UInt8.ofNat (c.toNat / 64 % 64 + 0x80), UInt8.ofNat (c.toNat % 64 + 0x80)] := by
  have hvalid := toNat_range c
  have hfirst : c.toNat / 262144 % 0x08 = c.toNat / 262144 := by omega
  change (if c.toNat ≤ 0x7F then _ else if c.toNat ≤ 0x7FF then _ else if c.toNat ≤ 0xFFFF then
    _ else [UInt8.ofNat (c.toNat / 262144 % 0x08 + 0xF0), _, _, _]) = _
  rw [if_neg (by omega), if_neg (by omega), if_neg (by omega), hfirst]
  rfl

/-! ## One character -/

theorem front_of_lead {b c : UInt8} {lead : Lead} (rest : List UInt8)
    (h : lead? b = some lead) (hlow : lead.low.toNat ≤ c.toNat)
    (hhigh : c.toNat ≤ lead.high.toNat) :
    front b (c :: rest) =
      trail (lead.payload * 64 + (c.toNat - 0x80)) 1 lead.more rest := by
  have hb : ¬b < 0x80 := by
    have hfirst := range_of_lead? h
    intro hlt
    have : b.toNat < 0x80 := hlt
    omega
  have hrange : lead.low ≤ c ∧ c ≤ lead.high := by
    simp only [UInt8.le_iff_toNat_le]
    exact ⟨hlow, hhigh⟩
  unfold front
  rw [if_neg hb]
  simp only [h]
  rw [if_pos hrange]

theorem trail_cons {b : UInt8} (bits seen more : Nat) (rest : List UInt8)
    (hlow : 0x80 ≤ b.toNat) (hhigh : b.toNat ≤ 0xBF) :
    trail bits seen (more + 1) (b :: rest) =
      trail (bits * 64 + (b.toNat - 0x80)) (seen + 1) more rest := by
  have hrange : 0x80 ≤ b ∧ b ≤ 0xBF := by
    simp only [UInt8.le_iff_toNat_le]
    exact ⟨hlow, hhigh⟩
  rw [trail, if_pos hrange]

theorem toNat_ofNat_of_lt {n : Nat} (h : n < 256) : (UInt8.ofNat n).toNat = n := by
  rw [UInt8.toNat_ofNat', Nat.mod_eq_of_lt h]

theorem front_one {n : Nat} (h : n ≤ 0x7F) (rest : List UInt8) :
    front (UInt8.ofNat n) rest = .scalar (Char.ofNat n) 0 := by
  have hb : (UInt8.ofNat n).toNat = n := toNat_ofNat_of_lt (by omega)
  have hlt : UInt8.ofNat n < 0x80 := by
    rw [UInt8.lt_iff_toNat_lt, hb]
    exact Nat.lt_succ_of_le h
  unfold front
  rw [if_pos hlt, hb]

theorem front_two {n : Nat} (hlow : 0x7F < n) (hhigh : n ≤ 0x7FF) (rest : List UInt8) :
    front (UInt8.ofNat (n / 64 + 0xC0)) (UInt8.ofNat (n % 64 + 0x80) :: rest) =
      .scalar (Char.ofNat n) 1 := by
  have hb : (UInt8.ofNat (n / 64 + 0xC0)).toNat = n / 64 + 0xC0 := toNat_ofNat_of_lt (by omega)
  have hc : (UInt8.ofNat (n % 64 + 0x80)).toNat = n % 64 + 0x80 := toNat_ofNat_of_lt (by omega)
  have hbits : (n / 64 + 0xC0 - 0xC0) * 64 + (n % 64 + 0x80 - 0x80) = n := by omega
  rw [front_of_lead _ (lead?_two (by omega) (by omega)), trail, hb, hc, hbits]
  · rw [hc]
    exact Nat.le_add_left _ _
  · rw [hc]
    change n % 64 + 0x80 ≤ 0xBF
    omega

/-- The second byte of three is bounded by the code points that are written
in fewer bytes, and by the surrogates. -/
theorem front_three {n : Nat} (hlow : 0x7FF < n) (hhigh : n ≤ 0xFFFF)
    (hsurrogate : n < 0xD800 ∨ 0xDFFF < n) (rest : List UInt8) :
    front (UInt8.ofNat (n / 4096 + 0xE0))
        (UInt8.ofNat (n / 64 % 64 + 0x80) :: UInt8.ofNat (n % 64 + 0x80) :: rest) =
      .scalar (Char.ofNat n) 2 := by
  have hb : (UInt8.ofNat (n / 4096 + 0xE0)).toNat = n / 4096 + 0xE0 :=
    toNat_ofNat_of_lt (by omega)
  have hc : (UInt8.ofNat (n / 64 % 64 + 0x80)).toNat = n / 64 % 64 + 0x80 :=
    toNat_ofNat_of_lt (by omega)
  have hd : (UInt8.ofNat (n % 64 + 0x80)).toNat = n % 64 + 0x80 := toNat_ofNat_of_lt (by omega)
  have hbits : ((n / 4096 + 0xE0 - 0xE0) * 64 + (n / 64 % 64 + 0x80 - 0x80)) * 64 +
      (n % 64 + 0x80 - 0x80) = n := by omega
  rw [front_of_lead _ (lead?_three (by omega) (by omega)),
    trail_cons _ _ _ _ (by omega) (by omega), trail, hb, hc, hd, hbits]
  · rw [hb, hc]
    dsimp only
    split
    · change 0xA0 ≤ _
      omega
    · exact Nat.le_add_left _ _
  · rw [hb, hc]
    dsimp only
    split
    · change _ ≤ 0x9F
      omega
    · change _ ≤ 0xBF
      omega

/-- The second byte of four is bounded by the code points that are written in
fewer bytes, and by the last code point. -/
theorem front_four {n : Nat} (hlow : 0xFFFF < n) (hhigh : n < 0x110000) (rest : List UInt8) :
    front (UInt8.ofNat (n / 262144 + 0xF0))
        (UInt8.ofNat (n / 4096 % 64 + 0x80) :: UInt8.ofNat (n / 64 % 64 + 0x80) ::
          UInt8.ofNat (n % 64 + 0x80) :: rest) =
      .scalar (Char.ofNat n) 3 := by
  have hb : (UInt8.ofNat (n / 262144 + 0xF0)).toNat = n / 262144 + 0xF0 :=
    toNat_ofNat_of_lt (by omega)
  have hc : (UInt8.ofNat (n / 4096 % 64 + 0x80)).toNat = n / 4096 % 64 + 0x80 :=
    toNat_ofNat_of_lt (by omega)
  have hd : (UInt8.ofNat (n / 64 % 64 + 0x80)).toNat = n / 64 % 64 + 0x80 :=
    toNat_ofNat_of_lt (by omega)
  have he : (UInt8.ofNat (n % 64 + 0x80)).toNat = n % 64 + 0x80 := toNat_ofNat_of_lt (by omega)
  have hbits : (((n / 262144 + 0xF0 - 0xF0) * 64 + (n / 4096 % 64 + 0x80 - 0x80)) * 64 +
      (n / 64 % 64 + 0x80 - 0x80)) * 64 + (n % 64 + 0x80 - 0x80) = n := by omega
  rw [front_of_lead _ (lead?_four (by omega) (by omega)),
    trail_cons _ _ _ _ (by omega) (by omega), trail_cons _ _ _ _ (by omega) (by omega), trail,
    hb, hc, hd, he, hbits]
  · rw [hb, hc]
    dsimp only
    split
    · change 0x90 ≤ _
      omega
    · exact Nat.le_add_left _ _
  · rw [hb, hc]
    dsimp only
    split
    · change _ ≤ 0x8F
      omega
    · change _ ≤ 0xBF
      omega

/-- An encoded character is read back, whatever comes after it. -/
theorem front_encodeChar (c : Char) (rest : List UInt8) :
    ∃ b tail, String.utf8EncodeChar c = b :: tail ∧
      front b (tail ++ rest) = .scalar c tail.length := by
  have hvalid := toNat_range c
  have hchar : Char.ofNat c.toNat = c := Char.ofNat_toNat c
  by_cases hone : c.toNat ≤ 0x7F
  · refine ⟨_, _, encodeChar_one hone, ?_⟩
    rw [front_one hone, hchar]
    rfl
  by_cases htwo : c.toNat ≤ 0x7FF
  · refine ⟨_, _, encodeChar_two (by omega) htwo, ?_⟩
    rw [List.cons_append, front_two (by omega) htwo, hchar]
    rfl
  by_cases hthree : c.toNat ≤ 0xFFFF
  · refine ⟨_, _, encodeChar_three (by omega) hthree, ?_⟩
    rw [List.cons_append, List.cons_append, front_three (by omega) hthree (by omega), hchar]
    rfl
  · refine ⟨_, _, encodeChar_four (by omega), ?_⟩
    rw [List.cons_append, List.cons_append, List.cons_append, front_four (by omega) (by omega),
      hchar]
    rfl

/-! ## Reading a character -/

theorem toNat_ofNat_of_range {n : Nat} (h : n < 0xD800 ∨ 0xDFFF < n ∧ n < 0x110000) :
    (Char.ofNat n).toNat = n := by
  rw [Char.ofNat, dif_pos h]
  rfl

theorem ofNat_eq_of_toNat_eq {b : UInt8} {n : Nat} (h : n = b.toNat) : UInt8.ofNat n = b := by
  rw [h, UInt8.ofNat_toNat]

/-- One byte of the rest of an encoding. -/
theorem exists_of_trail {bits seen more length : Nat} {rest : List UInt8} {c : Char}
    (h : trail bits seen (more + 1) rest = .scalar c length) :
    ∃ b after, rest = b :: after ∧ 0x80 ≤ b.toNat ∧ b.toNat ≤ 0xBF ∧
      trail (bits * 64 + (b.toNat - 0x80)) (seen + 1) more after = .scalar c length := by
  cases rest with
  | nil => simp [trail] at h
  | cons b after =>
    rw [trail] at h
    split at h
    · rename_i hrange
      exact ⟨b, after, rfl, hrange.1, hrange.2, h⟩
    · simp at h

/-- The first two bytes of an encoding of two or more bytes. -/
theorem exists_of_front {b : UInt8} {rest : List UInt8} {c : Char} {length : Nat}
    (hb : 0x80 ≤ b.toNat) (h : front b rest = .scalar c length) :
    ∃ lead d after, lead? b = some lead ∧ rest = d :: after ∧
      lead.low.toNat ≤ d.toNat ∧ d.toNat ≤ lead.high.toNat ∧
      trail (lead.payload * 64 + (d.toNat - 0x80)) 1 lead.more after = .scalar c length := by
  have hlt : ¬b < 0x80 := fun hlt => absurd (show b.toNat < 0x80 from hlt) (by omega)
  unfold front at h
  rw [if_neg hlt] at h
  split at h
  · simp at h
  · simp at h
  · rename_i lead d after hlead
    split at h
    · rename_i hrange
      exact ⟨lead, d, after, hlead, rfl, hrange.1, hrange.2, h⟩
    · simp at h

/-- What a first byte says about the bytes after it. -/
theorem lead_cases {b : UInt8} {lead : Lead} (h : lead? b = some lead) :
    0x80 ≤ lead.low.toNat ∧ lead.high.toNat ≤ 0xBF ∧
      (lead.more = 0 ∧ 0xC2 ≤ b.toNat ∧ b.toNat ≤ 0xDF ∧ lead.payload = b.toNat - 0xC0 ∨
        lead.more = 1 ∧ 0xE0 ≤ b.toNat ∧ b.toNat ≤ 0xEF ∧ lead.payload = b.toNat - 0xE0 ∧
          (b.toNat = 0xE0 → lead.low.toNat = 0xA0) ∧ (b.toNat = 0xED → lead.high.toNat = 0x9F) ∨
        lead.more = 2 ∧ 0xF0 ≤ b.toNat ∧ b.toNat ≤ 0xF4 ∧ lead.payload = b.toNat - 0xF0 ∧
          (b.toNat = 0xF0 → lead.low.toNat = 0x90) ∧
          (b.toNat = 0xF4 → lead.high.toNat = 0x8F)) := by
  rcases range_of_lead? h with hb | hb | hb
  · obtain rfl : _ = lead := Option.some.inj ((lead?_two hb.1 hb.2).symm.trans h)
    exact ⟨Nat.le_refl _, Nat.le_refl _, .inl ⟨rfl, hb.1, hb.2, rfl⟩⟩
  · obtain rfl : _ = lead := Option.some.inj ((lead?_three hb.1 hb.2).symm.trans h)
    refine ⟨?_, ?_, .inr (.inl ⟨rfl, hb.1, hb.2, rfl, fun he => ?_, fun he => ?_⟩)⟩
    · dsimp only
      split <;> decide
    · dsimp only
      split <;> decide
    · simp [he]
    · simp [he]
  · obtain rfl : _ = lead := Option.some.inj ((lead?_four hb.1 hb.2).symm.trans h)
    refine ⟨?_, ?_, .inr (.inr ⟨rfl, hb.1, hb.2, rfl, fun he => ?_, fun he => ?_⟩)⟩
    · dsimp only
      split <;> decide
    · dsimp only
      split <;> decide
    · simp [he]
    · simp [he]

/-- A character that was read is encoded where it was read. -/
theorem encodeChar_of_front {b : UInt8} {rest : List UInt8} {c : Char} {length : Nat}
    (h : front b rest = .scalar c length) :
    ∃ tail after, rest = tail ++ after ∧ tail.length = length ∧
      String.utf8EncodeChar c = b :: tail := by
  by_cases hone : b.toNat < 0x80
  · unfold front at h
    rw [if_pos (show b < 0x80 from hone)] at h
    injection h with hchar hlength
    have hc : c.toNat = b.toNat := by rw [← hchar, toNat_ofNat_of_range (by omega)]
    refine ⟨[], rest, rfl, hlength, ?_⟩
    rw [encodeChar_one (by omega), hc, UInt8.ofNat_toNat]
  obtain ⟨lead, d, after, hlead, rfl, hlow, hhigh, htrail⟩ := exists_of_front (by omega) h
  obtain ⟨_, _, ⟨hmore, hb⟩ | ⟨hmore, hb⟩ | ⟨hmore, hb⟩⟩ := lead_cases hlead
  · rw [hmore, trail] at htrail
    injection htrail with hchar hlength
    have hc := congrArg Char.toNat hchar
    rw [toNat_ofNat_of_range (by omega)] at hc
    refine ⟨[d], after, rfl, hlength, ?_⟩
    rw [encodeChar_two (by omega) (by omega), ofNat_eq_of_toNat_eq (b := b) (by omega),
      ofNat_eq_of_toNat_eq (b := d) (by omega)]
  · rw [hmore] at htrail
    obtain ⟨e, after, rfl, helow, hehigh, htrail⟩ := exists_of_trail htrail
    rw [trail] at htrail
    injection htrail with hchar hlength
    have hc := congrArg Char.toNat hchar
    rw [toNat_ofNat_of_range (by omega)] at hc
    refine ⟨[d, e], after, rfl, hlength, ?_⟩
    rw [encodeChar_three (by omega) (by omega), ofNat_eq_of_toNat_eq (b := b) (by omega),
      ofNat_eq_of_toNat_eq (b := d) (by omega), ofNat_eq_of_toNat_eq (b := e) (by omega)]
  · rw [hmore] at htrail
    obtain ⟨e, after, rfl, helow, hehigh, htrail⟩ := exists_of_trail htrail
    obtain ⟨f, after, rfl, hflow, hfhigh, htrail⟩ := exists_of_trail htrail
    rw [trail] at htrail
    injection htrail with hchar hlength
    have hc := congrArg Char.toNat hchar
    rw [toNat_ofNat_of_range (by omega)] at hc
    refine ⟨[d, e, f], after, rfl, hlength, ?_⟩
    rw [encodeChar_four (by omega), ofNat_eq_of_toNat_eq (b := b) (by omega),
      ofNat_eq_of_toNat_eq (b := d) (by omega), ofNat_eq_of_toNat_eq (b := e) (by omega),
      ofNat_eq_of_toNat_eq (b := f) (by omega)]

/-! ## Whole texts -/

/-- The bytes that are spoken for are passed over. -/
theorem segmentsAfter_eq_drop (skip : Nat) (bytes : List UInt8) :
    segmentsAfter skip bytes = segments (bytes.drop skip) := by
  rw [segments]
  induction skip generalizing bytes with
  | zero => rfl
  | succ skip ih =>
    cases bytes with
    | nil => rfl
    | cons b rest =>
      rw [segmentsAfter, ih]
      rfl

/-- The first piece of bytes that begin with an encoded character. -/
theorem segments_encodeChar_append (c : Char) (rest : List UInt8) :
    segments (String.utf8EncodeChar c ++ rest) = .scalar c :: segments rest := by
  obtain ⟨b, tail, hencode, hfront⟩ := front_encodeChar c rest
  rw [hencode, List.cons_append, segments, segmentsAfter, hfront]
  simp only [segmentsAfter_eq_drop, List.drop_left]

theorem encode_cons (c : Char) (text : List Char) :
    encode (c :: text) = String.utf8EncodeChar c ++ encode text := rfl

/-- An encoded text is read back. -/
theorem decode_encode (text : List Char) : decode (encode text) = .ok text := by
  have hassemble : ∀ position, assemble position (segments (encode text)) = .ok text := by
    induction text with
    | nil => exact fun position => rfl
    | cons c text ih =>
      intro position
      rw [encode_cons, segments_encodeChar_append, assemble, ih]
      rfl
  exact hassemble 0

/-- Bytes that make a text are its encoding.  The induction is on the length,
since a piece takes several bytes away at once. -/
theorem encode_of_assemble {position : Nat} {bytes : List UInt8} {text : List Char}
    (h : assemble position (segments bytes) = .ok text) : encode text = bytes := by
  induction hn : bytes.length using Nat.strongRecOn generalizing position bytes text with
  | ind n ih =>
    cases bytes with
    | nil =>
      cases h
      rfl
    | cons b rest =>
      rw [segments, segmentsAfter] at h
      split at h
      · rename_i c more hfront
        obtain ⟨tail, after, rfl, rfl, hencode⟩ := encodeChar_of_front hfront
        rw [segmentsAfter_eq_drop, List.drop_left, assemble] at h
        cases hrest : assemble (position + (String.utf8EncodeChar c).length) (segments after) with
        | error defect =>
          rw [hrest] at h
          cases h
        | ok text =>
          rw [hrest] at h
          cases h
          have hlt : after.length < n := by
            rw [← hn, List.length_cons, List.length_append]
            omega
          rw [encode_cons, hencode, ih after.length hlt hrest rfl]
          rfl
      · cases h
      · cases h

/-- Bytes decode to a text if and only if they are its encoding. -/
theorem decode_eq_ok_iff {bytes : List UInt8} {text : List Char} :
    decode bytes = .ok text ↔ encode text = bytes := by
  constructor
  · exact encode_of_assemble
  · rintro rfl
    exact decode_encode text

/-! ## Zero bytes -/

theorem encodeChar_zero : String.utf8EncodeChar '\x00' = [0] := rfl

theorem toNat_pos {c : Char} (h : c ≠ '\x00') : 0 < c.toNat := by
  refine Nat.pos_of_ne_zero fun hzero => h ?_
  rw [← Char.ofNat_toNat c, hzero]

theorem zero_notMem_encodeChar {c : Char} (h : c ≠ '\x00') : 0 ∉ String.utf8EncodeChar c := by
  have hpos := toNat_pos h
  have hvalid := toNat_range c
  have hbyte : ∀ n, 0 < n → n < 256 → (0 : UInt8) ≠ UInt8.ofNat n := by
    intro n hn hlt heq
    have := congrArg UInt8.toNat heq
    rw [toNat_ofNat_of_lt hlt] at this
    change 0 = n at this
    omega
  have hcases : c.toNat ≤ 0x7F ∨ (0x7F < c.toNat ∧ c.toNat ≤ 0x7FF) ∨
      (0x7FF < c.toNat ∧ c.toNat ≤ 0xFFFF) ∨ 0xFFFF < c.toNat := by omega
  rcases hcases with hone | ⟨hlow, hhigh⟩ | ⟨hlow, hhigh⟩ | hlow
  · rw [encodeChar_one hone, List.mem_singleton]
    exact hbyte _ hpos (by omega)
  · rw [encodeChar_two hlow hhigh]
    simp only [List.mem_cons, List.not_mem_nil, or_false, not_or]
    exact ⟨hbyte _ (by omega) (by omega), hbyte _ (by omega) (by omega)⟩
  · rw [encodeChar_three hlow hhigh]
    simp only [List.mem_cons, List.not_mem_nil, or_false, not_or]
    exact ⟨hbyte _ (by omega) (by omega), hbyte _ (by omega) (by omega),
      hbyte _ (by omega) (by omega)⟩
  · rw [encodeChar_four hlow]
    simp only [List.mem_cons, List.not_mem_nil, or_false, not_or]
    exact ⟨hbyte _ (by omega) (by omega), hbyte _ (by omega) (by omega),
      hbyte _ (by omega) (by omega), hbyte _ (by omega) (by omega)⟩

theorem zero_mem_encode {text : List Char} : 0 ∈ encode text ↔ '\x00' ∈ text := by
  induction text with
  | nil => simp [encode]
  | cons c text ih =>
    rw [encode_cons, List.mem_append, List.mem_cons, ih]
    by_cases hc : c = '\x00'
    · simp [hc, encodeChar_zero]
    · simp [zero_notMem_encodeChar hc, Ne.symm hc]

/-- Where only the zero character has a zero in its encoding, what comes before
the first zero is the encoding of what comes before the first zero character. -/
theorem takeWhile_flatMap {β : Type} [DecidableEq β] {encodeChar : Char → List β} {zero : β}
    (hzero : encodeChar '\x00' = [zero]) (hother : ∀ c ≠ '\x00', zero ∉ encodeChar c)
    (text : List Char) :
    (text.flatMap encodeChar).takeWhile (· ≠ zero) =
      (text.takeWhile (· ≠ '\x00')).flatMap encodeChar := by
  induction text with
  | nil => rfl
  | cons c text ih =>
    rw [List.flatMap_cons]
    by_cases hc : c = '\x00'
    · rw [List.takeWhile_cons_of_neg (by simp [hc]), hc, hzero, List.singleton_append,
        List.takeWhile_cons_of_neg (by simp)]
      rfl
    · have hkeep : ∀ b ∈ encodeChar c, decide (b ≠ zero) = true := by
        intro b hmem
        refine decide_eq_true ?_
        rintro rfl
        exact hother c hc hmem
      rw [List.takeWhile_append_of_pos hkeep, ih, List.takeWhile_cons_of_pos (by simp [hc]),
        List.flatMap_cons]

theorem takeWhile_encode (text : List Char) :
    (encode text).takeWhile (· ≠ 0) = encode (text.takeWhile (· ≠ '\x00')) :=
  takeWhile_flatMap encodeChar_zero (fun _ => zero_notMem_encodeChar) text

theorem encode_injective {first second : List Char} (h : encode first = encode second) :
    first = second := by
  have hfirst := decode_encode first
  rw [h, decode_encode] at hfirst
  cases hfirst
  rfl

end DiskQuery.Text.Utf8
