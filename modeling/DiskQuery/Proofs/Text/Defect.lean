import DiskQuery.Proofs.Text.Utf8

/-!
# Where bytes stop being UTF-8

Bytes that are no text have a defect.  `Locates` says which one without a
decoder, in terms of the bytes that are texts: the position is the end of the
longest valid beginning, and the length is that of the longest piece after it
that more bytes could still have made valid, and at least one byte.  The length
is absent if that piece goes to the end of the bytes.

There are four groups.

* Valid bytes.  `Valid`, `Extensible` and `Locates`, and what a valid beginning
  does to the bytes after it (`valid_append_iff`).
* Pieces.  `FrontCase` lists what bytes can begin with.  A piece that the bytes
  end inside of can be completed (`exists_valid_of_truncated`), and an ill-formed
  piece is the longest that could be (`beginsIllFormed_of_front`).
* The first defect.  `exists_of_assemble_eq_error` cuts the bytes where the
  decoder stops.
* The result.  `decode_eq_error_iff` says that the decoder reports exactly the
  defect that `Locates` describes.
-/

namespace DiskQuery.Text.Utf8

/-! ## Valid bytes -/

/-- The bytes are the UTF-8 of a text. -/
def Valid (bytes : List UInt8) : Prop :=
  ∃ text, encode text = bytes

/-- Some bytes after these make them valid. -/
def Extensible (bytes : List UInt8) : Prop :=
  ∃ more, Valid (bytes ++ more)

/-- The ill-formed piece that bytes begin with has this length: it is the
longest beginning that more bytes could make valid, and at least one byte. -/
structure BeginsIllFormed (bytes : List UInt8) (length : Nat) : Prop where
  pos : 1 ≤ length
  le_three : length ≤ 3
  le_length : length ≤ bytes.length
  extensible : length = 1 ∨ Extensible (bytes.take length)
  longest : ∀ other, length < other → other ≤ bytes.length → ¬Extensible (bytes.take other)

/-- The bytes stop being UTF-8 at a defect. -/
structure Locates (bytes : List UInt8) (defect : Defect) : Prop where
  lt_length : defect.validUpTo < bytes.length
  valid : Valid (bytes.take defect.validUpTo)
  longest : ∀ length ≤ bytes.length, Valid (bytes.take length) → length ≤ defect.validUpTo
  /-- The length is absent for the proper start of valid bytes. -/
  truncated_iff : defect.errorLength = none ↔
    ∃ more, more ≠ [] ∧ Valid (bytes.drop defect.validUpTo ++ more)
  illFormed : ∀ length, defect.errorLength = some length →
    BeginsIllFormed (bytes.drop defect.validUpTo) length

/-- After an encoded text, the other bytes are read. -/
theorem assemble_encode_append (text : List Char) (bytes : List UInt8) (position : Nat) :
    assemble position (segments (encode text ++ bytes)) =
      (assemble (position + (encode text).length) (segments bytes)).map (text ++ ·) := by
  induction text generalizing position with
  | nil =>
    cases hbytes : assemble position (segments bytes) <;> simp [encode, hbytes, Except.map]
  | cons c text ih =>
    rw [encode_cons, List.append_assoc, segments_encodeChar_append, assemble, ih,
      List.length_append, ← Nat.add_assoc]
    cases assemble _ (segments bytes) <;> rfl

/-- A valid beginning leaves it to the rest whether bytes are valid. -/
theorem valid_append_iff {start bytes : List UInt8} (h : Valid start) :
    Valid (start ++ bytes) ↔ Valid bytes := by
  obtain ⟨text, rfl⟩ := h
  constructor
  · rintro ⟨whole, hwhole⟩
    have hdecode : assemble 0 (segments (encode text ++ bytes)) = .ok whole :=
      decode_eq_ok_iff.2 hwhole
    rw [assemble_encode_append] at hdecode
    cases hrest : assemble (0 + (encode text).length) (segments bytes) with
    | error defect =>
      rw [hrest] at hdecode
      cases hdecode
    | ok rest => exact ⟨rest, encode_of_assemble hrest⟩
  · rintro ⟨rest, rfl⟩
    exact ⟨text ++ rest, List.flatMap_append⟩

/-- Valid bytes begin with a character, whatever comes after them. -/
theorem exists_scalar_of_valid {b : UInt8} {rest : List UInt8} (h : Valid (b :: rest))
    (after : List UInt8) : ∃ c more, front b (rest ++ after) = .scalar c more := by
  obtain ⟨text, htext⟩ := h
  cases text with
  | nil => cases htext
  | cons c text =>
    obtain ⟨first, tail, hencode, hfront⟩ := front_encodeChar c (encode text ++ after)
    rw [encode_cons, hencode, List.cons_append] at htext
    cases htext
    rw [← List.append_assoc] at hfront
    exact ⟨c, tail.length, hfront⟩

/-! ## Pieces -/

/-- Enough bytes of 0x80 complete an encoding. -/
theorem trail_replicate (bits seen more : Nat) :
    ∃ c, trail bits seen more (List.replicate more 0x80) = .scalar c (seen + more) := by
  induction more generalizing bits seen with
  | zero => exact ⟨_, rfl⟩
  | succ more ih =>
    obtain ⟨c, hc⟩ := ih (bits * 64 + ((0x80 : UInt8).toNat - 0x80)) (seen + 1)
    refine ⟨c, ?_⟩
    rw [List.replicate_succ, trail_cons _ _ _ _ (by decide) (by decide), hc]
    congr 1
    omega

/-- What ends inside an encoding is completed by the least of the bytes that
may follow. -/
theorem exists_scalar_of_trail {bits seen more : Nat} {rest : List UInt8}
    (h : trail bits seen more rest = .truncated) :
    ∃ missing c, rest.length + (missing + 1) = more ∧
      trail bits seen more (rest ++ List.replicate (missing + 1) 0x80) =
        .scalar c (seen + more) := by
  induction more generalizing bits seen rest with
  | zero => cases h
  | succ more ih =>
    cases rest with
    | nil =>
      obtain ⟨c, hc⟩ := trail_replicate bits seen (more + 1)
      exact ⟨more, c, Nat.zero_add _, hc⟩
    | cons b rest =>
      rw [trail] at h
      split at h
      · rename_i hrange
        obtain ⟨missing, c, hlength, hc⟩ := ih h
        refine ⟨missing, c, ?_, ?_⟩
        · rw [List.length_cons]
          omega
        · rw [List.cons_append, trail, if_pos hrange, hc]
          congr 1
          omega
      · cases h

/-- Some byte may follow a first byte. -/
theorem low_le_high {b : UInt8} {lead : Lead} (h : lead? b = some lead) :
    lead.low ≤ lead.high := by
  rcases range_of_lead? h with hb | hb | hb
  · obtain rfl : _ = lead := Option.some.inj ((lead?_two hb.1 hb.2).symm.trans h)
    dsimp only
    decide
  · obtain rfl : _ = lead := Option.some.inj ((lead?_three hb.1 hb.2).symm.trans h)
    dsimp only
    split_ifs
    · omega
    all_goals decide
  · obtain rfl : _ = lead := Option.some.inj ((lead?_four hb.1 hb.2).symm.trans h)
    dsimp only
    split_ifs
    · omega
    all_goals decide

/-- What a byte and the bytes after it can begin with. -/
inductive FrontCase (b : UInt8) : List UInt8 → Prop where
  /-- The byte is a character of its own. -/
  | alone (rest : List UInt8) (hfront : ∀ other, front b other = .scalar (Char.ofNat b.toNat) 0) :
      FrontCase b rest
  /-- No encoding begins with the byte. -/
  | noLead (rest : List UInt8) (hfront : ∀ other, front b other = .illFormed 1) : FrontCase b rest
  /-- The bytes end after it. -/
  | ended {lead : Lead} (hlead : lead? b = some lead) (hfront : front b [] = .truncated) :
      FrontCase b []
  /-- The second byte cannot follow it. -/
  | misplaced {d : UInt8} (rest : List UInt8)
      (hfront : ∀ other, front b (d :: other) = .illFormed 1) : FrontCase b (d :: rest)
  /-- The second byte can follow it. -/
  | followed {lead : Lead} {d : UInt8} (rest : List UInt8) (hlead : lead? b = some lead)
      (hfront : ∀ other, front b (d :: other) =
        trail (lead.payload * 64 + (d.toNat - 0x80)) 1 lead.more other) : FrontCase b (d :: rest)

theorem frontCase (b : UInt8) (rest : List UInt8) : FrontCase b rest := by
  by_cases hb : b < 0x80
  · refine .alone rest fun other => ?_
    unfold front
    exact if_pos hb
  cases hlead : lead? b with
  | none =>
    refine .noLead rest fun other => ?_
    unfold front
    rw [if_neg hb]
    simp only [hlead]
  | some lead =>
    cases rest with
    | nil =>
      refine .ended hlead ?_
      unfold front
      rw [if_neg hb]
      simp only [hlead]
    | cons d rest =>
      by_cases hrange : lead.low ≤ d ∧ d ≤ lead.high
      · exact .followed rest hlead fun other => front_of_lead other hlead hrange.1 hrange.2
      · refine .misplaced rest fun other => ?_
        unfold front
        rw [if_neg hb]
        simp only [hlead]
        exact if_neg hrange

/-- What ends inside an encoding can be completed. -/
theorem exists_scalar_of_truncated {b : UInt8} {rest : List UInt8}
    (h : front b rest = .truncated) :
    ∃ more c, more ≠ [] ∧ front b (rest ++ more) = .scalar c (rest ++ more).length := by
  cases frontCase b rest with
  | alone _ hfront =>
    rw [hfront] at h
    cases h
  | noLead _ hfront =>
    rw [hfront] at h
    cases h
  | @ended lead hlead =>
    obtain ⟨c, hc⟩ := trail_replicate (lead.payload * 64 + (lead.low.toNat - 0x80)) 1 lead.more
    refine ⟨lead.low :: List.replicate lead.more 0x80, c, List.cons_ne_nil _ _, ?_⟩
    rw [List.nil_append, front_of_lead _ hlead (Nat.le_refl _) (low_le_high hlead), hc,
      List.length_cons, List.length_replicate, Nat.add_comm]
  | misplaced rest hfront =>
    rw [hfront] at h
    cases h
  | followed rest hlead hfront =>
    rw [hfront] at h
    obtain ⟨missing, c, hlength, hc⟩ := exists_scalar_of_trail h
    refine ⟨List.replicate (missing + 1) 0x80, c, List.cons_ne_nil _ _, ?_⟩
    rw [List.cons_append, hfront, hc, List.length_cons, List.length_append,
      List.length_replicate, hlength, Nat.add_comm]

/-- An ill-formed rest of an encoding ends inside it before its last byte, and
is ill-formed whatever bytes follow. -/
theorem exists_of_trail_eq_illFormed {bits seen more length : Nat} {rest : List UInt8}
    (h : trail bits seen more rest = .illFormed length) :
    ∃ good, length = seen + good + 1 ∧ good < more ∧ good < rest.length ∧
      trail bits seen more (rest.take good) = .truncated ∧
      ∀ other, rest.take (good + 1) <+: other → trail bits seen more other = .illFormed length := by
  induction more generalizing bits seen rest with
  | zero => cases h
  | succ more ih =>
    cases rest with
    | nil => cases h
    | cons b rest =>
      rw [trail] at h
      split at h
      · rename_i hrange
        obtain ⟨good, hlength, hmore, hrest, hpiece, hlocal⟩ := ih h
        refine ⟨good + 1, by omega, by omega, Nat.succ_lt_succ hrest, ?_, ?_⟩
        · rw [List.take_succ_cons, trail, if_pos hrange, hpiece]
        · rintro other ⟨after, rfl⟩
          rw [List.take_succ_cons, List.cons_append, trail, if_pos hrange]
          exact hlocal _ (List.prefix_append _ _)
      · rename_i hrange
        cases h
        refine ⟨0, rfl, Nat.succ_pos _, Nat.succ_pos _, rfl, ?_⟩
        rintro other ⟨after, rfl⟩
        rw [List.take_succ_cons, List.cons_append, trail, if_neg hrange]

/-- An ill-formed piece ends inside an encoding before its last byte, and is
ill-formed whatever bytes follow. -/
theorem exists_of_front_eq_illFormed {b : UInt8} {rest : List UInt8} {length : Nat}
    (h : front b rest = .illFormed length) :
    ∃ good, length = good + 1 ∧ good ≤ 2 ∧ good ≤ rest.length ∧
      (good = 0 ∨ front b (rest.take good) = .truncated) ∧
      ∀ other, rest.take length <+: other → front b other = .illFormed length := by
  cases frontCase b rest with
  | alone _ hfront =>
    rw [hfront] at h
    cases h
  | noLead _ hfront =>
    rw [hfront] at h
    cases h
    exact ⟨0, rfl, Nat.zero_le _, Nat.zero_le _, .inl rfl, fun other _ => hfront other⟩
  | ended hlead hfront =>
    rw [hfront] at h
    cases h
  | misplaced rest hfront =>
    rw [hfront] at h
    cases h
    refine ⟨0, rfl, Nat.zero_le _, Nat.zero_le _, .inl rfl, ?_⟩
    rintro other ⟨after, rfl⟩
    exact hfront _
  | @followed lead d rest hlead hfront =>
    rw [hfront] at h
    obtain ⟨good, hlength, hmore, hrest, hpiece, hlocal⟩ := exists_of_trail_eq_illFormed h
    have hlast : lead.more ≤ 2 := by
      obtain ⟨-, -, ⟨hmore, -⟩ | ⟨hmore, -⟩ | ⟨hmore, -⟩⟩ := lead_cases hlead <;> omega
    obtain rfl : length = good + 1 + 1 := by omega
    refine ⟨good + 1, rfl, by omega, Nat.succ_le_succ (Nat.le_of_lt hrest), .inr ?_, ?_⟩
    · rw [List.take_succ_cons, hfront, hpiece]
    · rintro other ⟨after, rfl⟩
      rw [List.take_succ_cons, List.cons_append, hfront]
      exact hlocal _ (List.prefix_append _ _)

/-- Bytes that begin with a piece that could be completed are extensible. -/
theorem exists_valid_of_truncated {b : UInt8} {rest : List UInt8}
    (h : front b rest = .truncated) : ∃ more, more ≠ [] ∧ Valid (b :: rest ++ more) := by
  obtain ⟨more, c, hmore, hfront⟩ := exists_scalar_of_truncated h
  obtain ⟨tail, after, hrest, hlength, hencode⟩ := encodeChar_of_front hfront
  have hafter : after = [] := by
    have hsum : (rest ++ more).length = tail.length + after.length := by
      rw [hrest, List.length_append]
    exact List.eq_nil_of_length_eq_zero (by omega)
  rw [hafter, List.append_nil] at hrest
  refine ⟨more, hmore, [c], ?_⟩
  rw [encode_cons, hencode, ← hrest]
  exact List.append_nil _

/-- Bytes that begin with an ill-formed piece are not extensible. -/
theorem not_extensible_of_illFormed {b : UInt8} {rest : List UInt8} {length : Nat}
    (h : ∀ more, front b (rest ++ more) = .illFormed length) : ¬Extensible (b :: rest) := by
  rintro ⟨more, hvalid⟩
  obtain ⟨c, after, hfront⟩ := exists_scalar_of_valid hvalid []
  rw [List.append_nil] at hfront
  cases (h more).symm.trans hfront

/-- The decoder finds the ill-formed piece that bytes begin with. -/
theorem beginsIllFormed_of_front {b : UInt8} {rest : List UInt8} {length : Nat}
    (h : front b rest = .illFormed length) :
    BeginsIllFormed (b :: rest) length ∧ ¬Extensible (b :: rest) := by
  obtain ⟨good, rfl, htwo, hrest, hpiece, hlocal⟩ := exists_of_front_eq_illFormed h
  refine ⟨⟨Nat.succ_pos _, Nat.succ_le_succ htwo, Nat.succ_le_succ hrest, ?_, ?_⟩, ?_⟩
  · rcases hpiece with rfl | hpiece
    · exact .inl rfl
    · obtain ⟨more, -, hvalid⟩ := exists_valid_of_truncated hpiece
      exact .inr ⟨more, hvalid⟩
  · intro other hlt hle
    obtain ⟨more, rfl⟩ := Nat.exists_eq_add_of_lt hlt
    refine not_extensible_of_illFormed fun after => hlocal _ ?_
    refine .trans ?_ (List.prefix_append _ _)
    exact List.take_prefix_take_left (Nat.le_add_right _ _)
  · exact not_extensible_of_illFormed fun more =>
      hlocal _ ((List.take_prefix _ _).trans (List.prefix_append _ _))

/-! ## The first defect -/

/-- The decoder stops after a text, at what begins with no character. -/
theorem exists_of_assemble_eq_error {position : Nat} {bytes : List UInt8} {defect : Defect}
    (h : assemble position (segments bytes) = .error defect) :
    ∃ text b rest, bytes = encode text ++ b :: rest ∧
      defect.validUpTo = position + (encode text).length ∧
      (front b rest = .truncated ∧ defect.errorLength = none ∨
        ∃ length, front b rest = .illFormed length ∧
          defect.errorLength = some ((b :: rest).take length).length) := by
  induction hn : bytes.length using Nat.strongRecOn generalizing position bytes with
  | ind n ih =>
    cases bytes with
    | nil => cases h
    | cons b rest =>
      rw [segments, segmentsAfter] at h
      split at h
      · rename_i c more hfront
        obtain ⟨tail, after, rfl, rfl, hencode⟩ := encodeChar_of_front hfront
        rw [segmentsAfter_eq_drop, List.drop_left, assemble] at h
        cases hrest : assemble (position + (String.utf8EncodeChar c).length) (segments after) with
        | ok text =>
          rw [hrest] at h
          cases h
        | error other =>
          rw [hrest] at h
          cases h
          have hlt : after.length < n := by
            rw [← hn, List.length_cons, List.length_append]
            omega
          obtain ⟨text, b', rest', rfl, hposition, hpiece⟩ := ih after.length hlt hrest rfl
          refine ⟨c :: text, b', rest', ?_, ?_, hpiece⟩
          · rw [encode_cons, hencode, List.append_assoc]
            rfl
          · rw [hposition, encode_cons, List.length_append, Nat.add_assoc]
      · rename_i length hfront
        cases h
        exact ⟨[], b, rest, rfl, rfl, .inr ⟨length, hfront, rfl⟩⟩
      · rename_i hfront
        cases h
        exact ⟨[], b, rest, rfl, rfl, .inl ⟨hfront, rfl⟩⟩

/-! ## The result -/

/-- What the decoder reports is a defect of the bytes. -/
theorem locates_of_decode {bytes : List UInt8} {defect : Defect}
    (h : decode bytes = .error defect) : Locates bytes defect := by
  obtain ⟨text, b, rest, rfl, hposition, hpiece⟩ := exists_of_assemble_eq_error h
  obtain ⟨position, errorLength⟩ := defect
  obtain rfl : position = (encode text).length := hposition.trans (Nat.zero_add _)
  have hvalid : Valid (encode text) := ⟨text, rfl⟩
  have hrest : (encode text ++ b :: rest).drop (encode text).length = b :: rest := List.drop_left
  have hnone : ∀ c more, front b rest ≠ .scalar c more := by
    intro c more hfront
    rcases hpiece with ⟨hpiece, -⟩ | ⟨length, hpiece, -⟩
    · cases hpiece.symm.trans hfront
    · cases hpiece.symm.trans hfront
  refine ⟨?_, ?_, ?_, ?_, ?_⟩
  · rw [List.length_append, List.length_cons]
    omega
  · rwa [List.take_left]
  · intro length hle htaken
    refine Nat.le_of_not_lt fun hlt => ?_
    obtain ⟨more, rfl⟩ := Nat.exists_eq_add_of_lt hlt
    rw [Nat.add_assoc, List.take_length_add_append, valid_append_iff hvalid] at htaken
    obtain ⟨c, after, hfront⟩ := exists_scalar_of_valid htaken (rest.drop more)
    rw [List.take_append_drop] at hfront
    exact hnone c after hfront
  · rw [hrest]
    rcases hpiece with ⟨hpiece, rfl⟩ | ⟨length, hpiece, rfl⟩
    · exact ⟨fun _ => exists_valid_of_truncated hpiece, fun _ => rfl⟩
    · refine ⟨nofun, ?_⟩
      rintro ⟨more, -, hmore⟩
      exact absurd ⟨more, hmore⟩ (beginsIllFormed_of_front hpiece).2
  · intro length hlength
    rw [hrest]
    rcases hpiece with ⟨-, rfl⟩ | ⟨other, hpiece, rfl⟩
    · cases hlength
    · obtain ⟨hbegins, -⟩ := beginsIllFormed_of_front hpiece
      cases hlength
      rwa [List.length_take, Nat.min_eq_left hbegins.le_length]

theorem BeginsIllFormed.le {bytes : List UInt8} {length other : Nat}
    (h : BeginsIllFormed bytes length) (hother : BeginsIllFormed bytes other) : other ≤ length := by
  refine Nat.le_of_not_lt fun hlt => ?_
  have hpos := h.pos
  rcases hother.extensible with hone | hextensible
  · omega
  · exact h.longest other hlt hother.le_length hextensible

/-- Bytes have one defect at most. -/
theorem Locates.unique {bytes : List UInt8} {first second : Defect} (hfirst : Locates bytes first)
    (hsecond : Locates bytes second) : first = second := by
  obtain ⟨position, errorLength⟩ := first
  obtain ⟨other, otherLength⟩ := second
  obtain rfl : position = other :=
    Nat.le_antisymm (hsecond.longest position (Nat.le_of_lt hfirst.lt_length) hfirst.valid)
      (hfirst.longest other (Nat.le_of_lt hsecond.lt_length) hsecond.valid)
  congr 1
  have hiff : errorLength = none ↔ otherLength = none :=
    hfirst.truncated_iff.trans hsecond.truncated_iff.symm
  cases errorLength with
  | none => exact (hiff.1 rfl).symm
  | some length =>
    cases otherLength with
    | none => cases hiff.2 rfl
    | some otherLength =>
      have hlength := hfirst.illFormed length rfl
      have hother := hsecond.illFormed otherLength rfl
      rw [Nat.le_antisymm (hother.le hlength) (hlength.le hother)]

/-- Bytes that have a defect are no text. -/
theorem Locates.not_valid {bytes : List UInt8} {defect : Defect} (h : Locates bytes defect) :
    ¬Valid bytes := by
  intro hvalid
  have hlt := h.lt_length
  have hle := h.longest bytes.length (Nat.le_refl _) (by rwa [List.take_length])
  omega

/-- The decoder reports a defect if and only if the bytes have it. -/
theorem decode_eq_error_iff {bytes : List UInt8} {defect : Defect} :
    decode bytes = .error defect ↔ Locates bytes defect := by
  refine ⟨locates_of_decode, fun h => ?_⟩
  cases hdecode : decode bytes with
  | error other => rw [h.unique (locates_of_decode hdecode)]
  | ok text => exact absurd ⟨text, decode_eq_ok_iff.1 hdecode⟩ h.not_valid

/-- The second byte cannot follow 0xE0, so the piece is one byte; after 0xE2 0x82
the bytes end inside the encoding of U+20AC. -/
example : decode [0x41, 0xE0, 0x80] = .error ⟨1, some 1⟩ ∧
    decode [0x41, 0xE2, 0x82] = .error ⟨1, none⟩ :=
  ⟨rfl, rfl⟩

end DiskQuery.Text.Utf8
