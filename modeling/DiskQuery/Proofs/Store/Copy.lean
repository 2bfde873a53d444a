import DiskQuery.Client.Reading
import DiskQuery.Proofs.Text.Utf8
import DiskQuery.Store.Basic
import Mathlib.Data.List.TakeWhile

/-!
# Copied texts

A client sizes a buffer of zeros for the worst case, lets the store copy a
value into it, and reads the bytes before the first zero byte.

There are three groups.

* Sizes.  A text takes at most three bytes for each UTF-16 unit
  (`length_encode_le`), so the buffer has room for every text that has a size.
* Buffers.  A copy leaves the bytes of the value and one repeated byte after
  them (`copyText_replicate`), and `textInBuffer_append` reads them back.
* Values.  `World.textOf` says what a value reads as, without a buffer, and
  `textInBuffer_copyText` says that the two passes read just that.
-/

namespace DiskQuery.Store

open Text

/-! ## Sizes -/

theorem length_encodeChar_le (c : Char) :
    (String.utf8EncodeChar c).length ≤ 3 * (Utf16.encodeChar c).length := by
  have hcases : c.toNat ≤ 0x7F ∨ (0x7F < c.toNat ∧ c.toNat ≤ 0x7FF) ∨
      (0x7FF < c.toNat ∧ c.toNat ≤ 0xFFFF) ∨ 0xFFFF < c.toNat := by omega
  rcases hcases with hone | ⟨hlow, hhigh⟩ | ⟨hlow, hhigh⟩ | hlow
  · rw [Utf8.encodeChar_one hone, Utf16.encodeChar, if_pos (by omega)]
    simp
  · rw [Utf8.encodeChar_two hlow hhigh, Utf16.encodeChar, if_pos (by omega)]
    simp
  · rw [Utf8.encodeChar_three hlow hhigh, Utf16.encodeChar, if_pos (by omega)]
    simp
  · rw [Utf8.encodeChar_four hlow, Utf16.encodeChar, if_neg (by omega)]
    simp

/-- A text takes at most three bytes for each of its units. -/
theorem length_encode_le (text : List Char) :
    (Utf8.encode text).length ≤ 3 * (Utf16.encode text).length := by
  induction text with
  | nil => exact Nat.le_refl _
  | cons c text ih =>
    have hfirst := length_encodeChar_le c
    have hunits : Utf16.encode (c :: text) = Utf16.encodeChar c ++ Utf16.encode text := rfl
    rw [Utf8.encode_cons, hunits, List.length_append, List.length_append]
    omega

theorem length_bytes_le {value : Value} {bytes : List UInt8} {length : Nat}
    (hbytes : value.bytes? = some bytes) (hlength : value.length? = some length) :
    bytes.length ≤ 3 * length := by
  cases value with
  | text content =>
    cases hbytes
    cases hlength
    exact length_encode_le content.toList
  | raw content =>
    cases hbytes
    cases hlength
    omega
  | boolean | number => cases hbytes

/-- Three bytes for each of so many units are a signed number. -/
theorem inRange_of_units {length : Nat} (hunits : 3 * (length : Int) < signedBound) :
    -signedBound ≤ (length : Int) * 3 ∧ (length : Int) * 3 < signedBound := by
  simp only [signedBound] at hunits ⊢
  omega

/-- The size of the buffer for a value of so many units. -/
theorem bufferSize?_maxSize (world : World) (length : Nat) :
    bufferSize? (maxSize world (Int.ofNat length)) =
      if world.negativeMaxSize ∨ signedBound ≤ 3 * (length : Int) then none
      else some (3 * length + 1) := by
  have hpos : (0 : Int) ≤ (length : Int) * 3 := by omega
  unfold bufferSize? maxSize
  rw [Int.ofNat_eq_natCast]
  by_cases hnegative : world.negativeMaxSize
  · simp [hnegative]
  by_cases hbound : signedBound ≤ 3 * (length : Int)
  · have hrange : ¬(-signedBound ≤ (length : Int) * 3 ∧ (length : Int) * 3 < signedBound) := by
      omega
    simp only [hnegative, hbound, hrange, if_false, or_true, if_true]
    decide
  · have hrange := inRange_of_units (Int.not_le.1 hbound)
    have hsize : ((length : Int) * 3).toNat = 3 * length := by omega
    simp only [hnegative, hbound, hrange, and_self, if_true, or_self, if_false,
      Int.not_lt.2 hpos, hsize, Bool.false_eq_true]

/-! ## Buffers -/

/-- The byte that fills what a copy leaves of a buffer. -/
def World.filler (world : World) : UInt8 :=
  if world.copyUnterminated then 65 else 0

/-- A copy leaves the bytes of the value, and then the filler. -/
theorem copyText_replicate {world : World} {value : Value} {bytes : List UInt8} {size : Nat}
    (hbytes : value.bytes? = some bytes) (hcopies : world.copyFails = false)
    (hfits : bytes.length < size) :
    copyText world value (List.replicate size 0) =
      (true, bytes ++ List.replicate (size - bytes.length) world.filler) := by
  have hroom : ¬(world.copyFails = true ∨ size < bytes.length + 1) := by
    rw [hcopies]
    rintro (hfails | hshort)
    · cases hfails
    · omega
  have hzero : List.replicate (size - bytes.length) (0 : UInt8) =
      0 :: List.replicate (size - bytes.length - 1) 0 := by
    rw [← List.replicate_succ]
    congr 1
    omega
  unfold copyText World.filler
  simp only [hbytes, List.length_replicate, if_neg hroom, List.drop_replicate]
  cases world.copyUnterminated with
  | true => rfl
  | false =>
    cases value.isTerminated with
    | true => simp [hzero]
    | false => rfl

/-- The text that bytes hold, for an entry of `key`. -/
def decoded (key : Key) (bytes : List UInt8) : Except QueryError String :=
  match Utf8.decode bytes with
  | .ok text => .ok (String.ofList text)
  | .error defect => .error (.invalidUtf8 key defect)

theorem decoded_encode (key : Key) (text : List Char) :
    decoded key (Utf8.encode text) = .ok (String.ofList text) := by
  rw [decoded, Utf8.decode_encode]

theorem ne_zero_of_notMem {bytes : List UInt8} (h : 0 ∉ bytes) :
    ∀ b ∈ bytes, decide (b ≠ 0) = true := by
  intro b hmem
  refine decide_eq_true ?_
  rintro rfl
  exact h hmem

theorem takeWhile_append_zero {before : List UInt8} (h : 0 ∉ before) (after : List UInt8) :
    (before ++ 0 :: after).takeWhile (· ≠ 0) = before := by
  rw [List.takeWhile_append_of_pos (ne_zero_of_notMem h),
    List.takeWhile_cons_of_neg (by simp), List.append_nil]

theorem textInBuffer_append_zero {before : List UInt8} (h : 0 ∉ before) (key : Key)
    (after : List UInt8) : textInBuffer key (before ++ 0 :: after) = decoded key before := by
  have hmem : 0 ∈ before ++ 0 :: after := List.mem_append_right _ List.mem_cons_self
  unfold textInBuffer decoded
  rewrite [if_pos hmem, takeWhile_append_zero h]
  cases Utf8.decode before <;> rfl

/-- A buffer holds the text up to the first zero byte, and no text without
one. -/
theorem textInBuffer_append (key : Key) (bytes : List UInt8) (filler : UInt8) {rest : Nat}
    (hrest : 0 < rest) :
    textInBuffer key (bytes ++ List.replicate rest filler) =
      if filler ≠ 0 ∧ 0 ∉ bytes then .error (.stringConversion key)
      else decoded key (bytes.takeWhile (· ≠ 0)) := by
  by_cases hzero : 0 ∈ bytes
  · obtain ⟨before, after, rfl, hbefore⟩ := List.eq_append_cons_of_mem hzero
    rw [if_neg (fun h => h.2 hzero), takeWhile_append_zero hbefore, List.append_assoc,
      List.cons_append, textInBuffer_append_zero hbefore]
  · by_cases hfiller : filler = 0
    · obtain ⟨rest, rfl⟩ := Nat.exists_eq_succ_of_ne_zero (Nat.ne_of_gt hrest)
      rw [if_neg (fun h => h.1 hfiller), hfiller, List.replicate_succ,
        textInBuffer_append_zero hzero, List.takeWhile_eq_self_iff.2 (ne_zero_of_notMem hzero)]
    · have hmem : 0 ∉ bytes ++ List.replicate rest filler := by
        rw [List.mem_append, List.mem_replicate]
        rintro (hleft | ⟨_, hright⟩)
        · exact hzero hleft
        · exact hfiller hright.symm
      rw [if_pos ⟨hfiller, hzero⟩, textInBuffer, if_neg hmem]

/-- The buffer of a copied text is read up to the first zero of the text. -/
theorem textInBuffer_encode (key : Key) (text : List Char) (filler : UInt8) {rest : Nat}
    (hrest : 0 < rest) :
    textInBuffer key (Utf8.encode text ++ List.replicate rest filler) =
      if filler ≠ 0 ∧ '\x00' ∉ text then .error (.stringConversion key)
      else .ok (String.ofList (text.takeWhile (· ≠ '\x00'))) := by
  rw [textInBuffer_append key _ filler hrest, Utf8.takeWhile_encode, decoded_encode]
  simp only [Utf8.zero_mem_encode]

/-! ## Values -/

/-- Whether the text of an entry is not handed over: it has no size, its copy
fails, or nothing ends it. -/
def World.withholds (world : World) (length : Nat) (hasZero : Bool) : Bool :=
  world.negativeMaxSize || decide (signedBound ≤ 3 * (length : Int)) || world.copyFails ||
    (world.copyUnterminated && !hasZero)

/-- The boolean that an entry of `key` holds. -/
def truthOf (key : Key) : Value → Except QueryError Bool
  | .boolean truth => .ok truth
  | _ => .error (.unexpectedType key "boolean")

/-- The text that an entry of `key` holds, up to the first zero. -/
def World.textOf (world : World) (key : Key) : Value → Except QueryError String
  | .text content =>
      if world.withholds (Utf16.encode content.toList).length (content.toList.contains '\x00') then
        .error (.stringConversion key)
      else
        .ok (String.ofList (content.toList.takeWhile (· ≠ '\x00')))
  | .raw bytes =>
      if world.withholds bytes.length (bytes.contains 0) then .error (.stringConversion key)
      else decoded key (bytes.takeWhile (· ≠ 0))
  | _ => .error (.unexpectedType key "string")

theorem textOf_of_bytes {world : World} {value : Value} {bytes : List UInt8} {length : Nat}
    (hbytes : value.bytes? = some bytes) (hlength : value.length? = some length) (key : Key) :
    world.textOf key value =
      if world.withholds length (bytes.contains 0) then .error (.stringConversion key)
      else decoded key (bytes.takeWhile (· ≠ 0)) := by
  cases value with
  | text content =>
    cases hbytes
    cases hlength
    have hzero : (Utf8.encode content.toList).contains 0 = content.toList.contains '\x00' := by
      rw [Bool.eq_iff_iff, List.contains_iff_mem, List.contains_iff_mem]
      exact Utf8.zero_mem_encode
    rw [hzero, Utf8.takeWhile_encode, decoded_encode]
    rfl
  | raw content =>
    cases hbytes
    cases hlength
    rfl
  | boolean | number => cases hbytes

theorem filler_ne_zero (world : World) : world.filler ≠ 0 ↔ world.copyUnterminated = true := by
  unfold World.filler
  cases world.copyUnterminated <;> decide

/-- The two passes over a value, its size and its copy, read the text that it
holds. -/
theorem textInBuffer_copyText (world : World) {value : Value} {length : Nat}
    (hlength : value.length? = some length) (key : Key) :
    (match bufferSize? (maxSize world (Int.ofNat length)) with
      | none => .error (.stringConversion key)
      | some size =>
        match copyText world value (List.replicate size 0) with
        | (true, buffer) => textInBuffer key buffer
        | (false, _) => .error (.stringConversion key)) =
      world.textOf key value := by
  obtain ⟨bytes, hbytes⟩ : ∃ bytes, value.bytes? = some bytes := by
    cases value with
    | text | raw => exact ⟨_, rfl⟩
    | boolean | number => cases hlength
  rw [textOf_of_bytes hbytes hlength, bufferSize?_maxSize, World.withholds]
  by_cases hsize : world.negativeMaxSize = true ∨ signedBound ≤ 3 * (length : Int)
  · have hwithheld :
        (world.negativeMaxSize || decide (signedBound ≤ 3 * (length : Int))) = true := by
      simpa using hsize
    rw [if_pos hsize, hwithheld]
    rfl
  · have hhanded :
        (world.negativeMaxSize || decide (signedBound ≤ 3 * (length : Int))) = false := by
      simpa using hsize
    rw [if_neg hsize, hhanded, Bool.false_or]
    by_cases hcopies : world.copyFails = true
    · rw [hcopies]
      simp [copyText, hbytes, hcopies]
    · have hcopies : world.copyFails = false := by simpa using hcopies
      have hle := length_bytes_le hbytes hlength
      have hfits : bytes.length < 3 * length + 1 := by omega
      simp only [copyText_replicate hbytes hcopies hfits]
      rw [textInBuffer_append key bytes _ (by omega), hcopies]
      simp only [filler_ne_zero, Bool.false_or, Bool.and_eq_true, Bool.not_eq_true',
        List.contains_eq_mem, decide_eq_false_iff_not]

end DiskQuery.Store
