import DiskQuery.Proofs.Client.Reading
import DiskQuery.Proofs.Store.Copy

/-!
# Sizes of buffers

A text of `n` units gets a buffer of `3 * n + 1` bytes, or none at all.  The
size is a product, a test of its sign and a sum, each of them in words of 64
bits, and `n` is any signed word that a service may answer.

There are three groups.

* Words.  `maxSizeWord` and `roomWord?` do the sizing in words that wrap, and
  `toNat_roomWord?` says that they come to the numbers of the client.
* Numbers.  `Unsizable` is what is refused.  `bufferSize?_of_unsizable` and
  `bufferSize?_of_sizable` are the two ways that a sizing ends, and
  `copyText_of_length` says that every text of the length has room.
* The result.  `Sized` is what a reading does with a length, and `sized_text`
  says that it does so over every service that sizes as the store does.
-/

namespace DiskQuery.Store

open Client

variable {ρ σ : Type} {world : World} {length : Int64}

/-! ## Words -/

/-- Three bytes for each of `length` units, or -1 if the product wraps. -/
def maxSizeWord (world : World) (length : Int64) : Int64 :=
  if world.negativeMaxSize then -1
  else if (length * 3).toInt = length.toInt * 3 then length * 3
  else -1

/-- A byte more than `size`, as an unsigned word.  A negative size has none. -/
def roomWord? (size : Int64) : Option UInt64 :=
  if size < 0 then none else some (size.toUInt64 + 1)

theorem toInt_mul_three (length : Int64) :
    (length * 3).toInt = length.toInt * 3 ↔
      -signedBound ≤ length.toInt * 3 ∧ length.toInt * 3 < signedBound := by
  have hproduct : (length * 3).toInt = (length.toInt * 3).bmod (2 ^ 64) := Int64.toInt_mul length 3
  constructor
  · intro hexact
    have hlow := (length * 3).le_toInt
    have hhigh := (length * 3).toInt_lt
    simp only [signedBound]
    omega
  · rintro ⟨hlow, hhigh⟩
    simp only [signedBound] at hlow hhigh
    rw [hproduct, Int.bmod_eq_of_le (by omega) (by omega)]

/-- The product in words is that of numbers. -/
theorem toInt_maxSizeWord (world : World) (length : Int64) :
    (maxSizeWord world length).toInt = maxSize world length.toInt := by
  unfold maxSizeWord maxSize
  cases world.negativeMaxSize with
  | true => rfl
  | false =>
    simp only [Bool.false_eq_true, if_false, ← toInt_mul_three]
    split
    · assumption
    · rfl

theorem toNat_toUInt64 {word : Int64} (h : 0 ≤ word.toInt) :
    (word.toUInt64.toNat : Int) = word.toInt := by
  have hword : word.toInt = word.toBitVec.toInt := rfl
  rw [hword, BitVec.toInt_eq_toNat_cond] at h ⊢
  rw [← Int64.toNat_toBitVec]
  split at h <;> omega

/-- The sum in words is that of numbers: a signed word has room for one more. -/
theorem toNat_roomWord? (size : Int64) :
    (roomWord? size).map UInt64.toNat = bufferSize? size.toInt := by
  unfold roomWord? bufferSize?
  have hsign : size < 0 ↔ size.toInt < 0 := Int64.lt_iff_toInt_lt
  simp only [hsign]
  split
  · rfl
  · have hsize := toNat_toUInt64 (Int.not_lt.1 ‹¬size.toInt < 0›)
    have hhigh := size.toInt_lt
    rw [Option.map_some, UInt64.toNat_add]
    congr 1
    change (size.toUInt64.toNat + 1) % 2 ^ 64 = size.toInt.toNat + 1
    omega

/-! ## Numbers -/

/-- What is refused: a negative length, or one of which three times is no signed
number, or every length. -/
def Unsizable (world : World) (length : Int64) : Prop :=
  world.negativeMaxSize = true ∨ length.toInt < 0 ∨ signedBound ≤ 3 * length.toInt

theorem bufferSize?_of_unsizable (h : Unsizable world length) :
    bufferSize? (maxSize world length.toInt) = none := by
  refine if_pos ?_
  unfold maxSize
  rcases h with hnegative | hlength | hbound
  · rw [if_pos hnegative]
    decide
  · dsimp only
    split_ifs <;> omega
  · dsimp only
    split_ifs <;> omega

/-- A size is three times the length and one, and no more than a buffer may
have: three times something is not the greatest signed number. -/
theorem bufferSize?_of_sizable (h : ¬Unsizable world length) :
    ∃ size : Nat, bufferSize? (maxSize world length.toInt) = some size ∧
      (size : Int) = 3 * length.toInt + 1 ∧ 1 ≤ size ∧ (size : Int) < signedBound := by
  simp only [Unsizable, not_or, Bool.not_eq_true, Int.not_lt, Int.not_le] at h
  obtain ⟨hnegative, hlength, hbound⟩ := h
  have hsize : maxSize world length.toInt = length.toInt * 3 := by
    unfold maxSize
    rw [hnegative]
    simp only [signedBound] at hbound ⊢
    rw [if_neg (by simp), if_pos (by omega)]
  refine ⟨(length.toInt * 3).toNat + 1, ?_, ?_, ?_, ?_⟩
  · rw [hsize]
    exact if_neg (by omega)
  · omega
  · omega
  · simp only [signedBound] at hbound ⊢
    omega

/-- A text of a length that has a size has room, and its copy fails only where
every copy does. -/
theorem copyText_of_length {size : Nat} (hsize : (size : Int) = 3 * length.toInt + 1)
    {text : Value} {bytes : List UInt8} (hbytes : text.bytes? = some bytes)
    (hlength : text.length?.map Int.ofNat = some length.toInt) :
    bytes.length + 1 ≤ size ∧
      (copyText world text (List.replicate size 0)).1 = !world.copyFails := by
  obtain ⟨units, hunits, hcast⟩ := Option.map_eq_some_iff.1 hlength
  have hle := length_bytes_le hbytes hunits
  have hroom : bytes.length + 1 ≤ size := by
    have hnat : (units : Int) = length.toInt := hcast
    omega
  refine ⟨hroom, ?_⟩
  cases hcopies : world.copyFails with
  | true => simp [copyText, hbytes, hcopies]
  | false => rw [copyText_replicate hbytes hcopies hroom, Bool.not_false]

/-! ## The result -/

/-- The calls of a reading up to the size of the text. -/
def measuring (dictionary : ρ) (key : Key) (value : ρ) (length size : Int) :
    List (Exchange ρ) :=
  [⟨.value dictionary key, .ok (some value)⟩, ⟨.textLength value, .ok (some length)⟩,
    ⟨.maxSize length, .ok size⟩]

/-- A reading asks for a copy into zeros if there is a size, and for nothing more
if there is none. -/
theorem run_text_measured {description : Description ρ} {key : Key} {service : Service ρ σ}
    {state afterValue afterLength afterSize : σ} {value : ρ} {length size : Int}
    (hvalue : service.answer (.value description.guard.reference key) state =
      (.ok (some value), afterValue))
    (hlength : service.answer (.textLength value) afterValue = (.ok (some length), afterLength))
    (hmaxSize : service.answer (.maxSize length) afterLength = (.ok size, afterSize)) :
    let run := (description.text key).run service state
    match bufferSize? size with
    | none => run.outcome = .ok (.error (.stringConversion key)) ∧
        run.exchanges = measuring description.guard.reference key value length size
    | some room => ∃ answer, run.exchanges =
        measuring description.guard.reference key value length size ++
          [⟨.copyText value (List.replicate room 0), answer⟩] := by
  rw [Description.text, run_perform_of_ok _ hvalue]
  dsimp only
  rw [run_perform_of_ok _ hlength]
  dsimp only
  rw [run_perform_of_ok _ hmaxSize]
  cases bufferSize? size with
  | none => exact ⟨rfl, rfl⟩
  | some room =>
    dsimp only
    rw [perform_bind, run]
    rcases service.answer (.copyText value (List.replicate room 0)) afterSize with
      ⟨fault | ⟨_ | _, buffer⟩, last⟩ <;> exact ⟨_, rfl⟩

/-- What a reading does with the length of a text, which is any signed word. -/
structure Sized (world : World) (dictionary : ρ) (key : Key) (value : ρ) (length : Int64)
    (run : Run ρ σ (Except QueryError (Option String))) : Prop where
  /-- In words nothing wraps. -/
  words : (roomWord? (maxSizeWord world length)).map UInt64.toNat =
    bufferSize? (maxSize world length.toInt)
  refused : Unsizable world length → run.outcome = .ok (.error (.stringConversion key)) ∧
    run.exchanges = measuring dictionary key value length.toInt (maxSize world length.toInt)
  requested : ¬Unsizable world length → ∃ size : Nat,
    bufferSize? (maxSize world length.toInt) = some size ∧
    (size : Int) = 3 * length.toInt + 1 ∧ 1 ≤ size ∧ (size : Int) ≤ signedBound - 1 ∧
    (∃ answer, run.exchanges =
      measuring dictionary key value length.toInt (maxSize world length.toInt) ++
        [⟨.copyText value (List.replicate size 0), answer⟩]) ∧
    /- Every text of this length has room, with its zero byte. -/
    ∀ (text : Value) (bytes : List UInt8), text.bytes? = some bytes →
      text.length?.map Int.ofNat = some length.toInt →
      (UInt64.ofNat bytes.length + 1).toNat = bytes.length + 1 ∧ bytes.length + 1 ≤ size ∧
        (copyText world text (List.replicate size 0)).1 = !world.copyFails

/-- A length has an exact size or none, over every service that sizes as the
store does. -/
theorem sized_text {description : Description ρ} {key : Key} {service : Service ρ σ}
    {state afterValue afterLength afterSize : σ} {value : ρ}
    (hvalue : service.answer (.value description.guard.reference key) state =
      (.ok (some value), afterValue))
    (hlength : service.answer (.textLength value) afterValue =
      (.ok (some length.toInt), afterLength))
    (hmaxSize : service.answer (.maxSize length.toInt) afterLength =
      (.ok (maxSize world length.toInt), afterSize)) :
    Sized world description.guard.reference key value length
      ((description.text key).run service state) := by
  have hrun := run_text_measured hvalue hlength hmaxSize
  refine ⟨?_, fun hrefused => ?_, fun hsizable => ?_⟩
  · rw [toNat_roomWord?, toInt_maxSizeWord]
  · rw [bufferSize?_of_unsizable hrefused] at hrun
    exact hrun
  · obtain ⟨size, hroom, hexact, hpos, hbound⟩ := bufferSize?_of_sizable hsizable
    rw [hroom] at hrun
    refine ⟨size, hroom, hexact, hpos, Int.le_sub_one_of_lt hbound, hrun, ?_⟩
    intro text bytes hbytes hunits
    obtain ⟨hfits, hcopied⟩ := copyText_of_length hexact hbytes hunits
    refine ⟨?_, hfits, hcopied⟩
    simp only [signedBound] at hbound
    rw [UInt64.toNat_add, UInt64.toNat_ofNat']
    change (bytes.length % 2 ^ 64 + 1) % 2 ^ 64 = bytes.length + 1
    omega

/-- A service with one text, of any length, that it does not hand over. -/
def onlyText (world : World) (length : Int64) : Service Nat Unit where
  answer
    | .value _ _, state => (.ok (some 1), state)
    | .textLength _, state => (.ok (some length.toInt), state)
    | .maxSize units, state => (.ok (maxSize world units), state)
    | .copyText _ buffer, state => (.ok (false, buffer), state)
    | _, state => (.error .callAborted, state)

/-- The greatest length that has a size fills the greatest buffer to the last
byte, and the next length has none. -/
theorem sized_text_of_greatest :
    let greatest : Int64 := 3074457345618258602
    let run := fun length : Int64 =>
      (Description.text ⟨⟨0⟩⟩ .deviceVendor).run (onlyText {} length) ()
    (Sized {} 0 .deviceVendor 1 greatest (run greatest) ∧
      bufferSize? (maxSize {} greatest.toInt) = some 9223372036854775807) ∧
    (run (greatest + 1)).outcome = .ok (.error (.stringConversion .deviceVendor)) ∧
    (run (-1)).outcome = .ok (.error (.stringConversion .deviceVendor)) := by
  intro greatest run
  let description : Description Nat := ⟨⟨0⟩⟩
  have hsized : ∀ length : Int64, Sized {} description.guard.reference .deviceVendor 1 length
      ((description.text .deviceVendor).run (onlyText {} length) ()) :=
    fun length => sized_text rfl rfl rfl
  refine ⟨⟨hsized greatest, by decide⟩, ?_, ?_⟩
  · exact ((hsized _).refused (.inr (.inr (by decide)))).1
  · exact ((hsized _).refused (.inr (.inl (by decide)))).1

end DiskQuery.Store
