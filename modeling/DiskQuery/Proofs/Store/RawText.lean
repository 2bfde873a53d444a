import DiskQuery.Proofs.Store.RoundTrip
import DiskQuery.Proofs.Text.Defect

/-!
# Raw texts

A raw text is any bytes: they need not be UTF-8, and the copy ends them with no
zero byte of its own.  What comes back depends on the faults of the world and on
the bytes before the first zero byte, and on nothing else.

There are two groups.

* One reading.  `textOf_raw` says when nothing comes back, and `decoded` what
  comes back otherwise.
* The result.  `RawReading` is what comes back under each fault, and
  `text_of_raw` says that it does for every live dictionary of a disk with those
  bytes, and that bytes after a zero byte change nothing.
-/

namespace DiskQuery.Store

open Client Text

/-! ## One reading -/

theorem decoded_eq_ok_iff {key : Key} {bytes : List UInt8} {text : String} :
    decoded key bytes = .ok text ↔ Utf8.encode text.toList = bytes := by
  rw [← Utf8.decode_eq_ok_iff, decoded]
  cases Utf8.decode bytes with
  | error defect =>
    constructor
    · intro hdecoded
      cases hdecoded
    · intro hdecode
      cases hdecode
  | ok chars =>
    dsimp only
    rw [Except.ok.injEq, Except.ok.injEq, String.ext_iff, String.toList_ofList]

/-- Bytes that are no text come back as their defect. -/
theorem exists_of_not_valid {bytes : List UInt8} (h : ¬Utf8.Valid bytes) (key : Key) :
    ∃ defect, Utf8.Locates bytes defect ∧ decoded key bytes = .error (.invalidUtf8 key defect) := by
  rw [decoded]
  cases hdecode : Utf8.decode bytes with
  | ok text => exact absurd ⟨text, Utf8.decode_eq_ok_iff.1 hdecode⟩ h
  | error defect => exact ⟨defect, Utf8.decode_eq_error_iff.1 hdecode, rfl⟩

/-- Nothing ends the bytes in the buffer: the copy does not, and none of them
is zero. -/
def World.Unended (world : World) (bytes : List UInt8) : Prop :=
  world.copyUnterminated = true ∧ 0 ∉ bytes

instance (world : World) (bytes : List UInt8) : Decidable (world.Unended bytes) :=
  inferInstanceAs (Decidable (_ ∧ _))

/-- What raw bytes that have a size read as. -/
theorem textOf_raw (world : World) (key : Key) {bytes : List UInt8}
    (hunits : 3 * (bytes.length : Int) < signedBound) :
    world.textOf key (.raw bytes) =
      if world.negativeMaxSize = true ∨ world.copyFails = true ∨ world.Unended bytes then
        .error (.stringConversion key)
      else decoded key (bytes.takeWhile (· ≠ 0)) := by
  have hsized : ¬signedBound ≤ 3 * (bytes.length : Int) := Int.not_le.2 hunits
  refine if_congr ?_ rfl rfl
  simp [World.withholds, World.Unended, hsized, or_assoc]

/-- Bytes after a zero byte do not stand before the first one. -/
theorem takeWhile_append_zero_cons (start rest : List UInt8) :
    (start ++ 0 :: rest).takeWhile (· ≠ 0) = start.takeWhile (· ≠ 0) := by
  induction start with
  | nil => rfl
  | cons b start ih =>
    rw [List.cons_append, List.takeWhile_cons, List.takeWhile_cons, ih]

/-- What raw bytes with a zero byte read as. -/
theorem textOf_raw_of_zero (world : World) (key : Key) {start rest : List UInt8}
    (hunits : 3 * ((start ++ 0 :: rest).length : Int) < signedBound) :
    world.textOf key (.raw (start ++ 0 :: rest)) =
      if world.negativeMaxSize = true ∨ world.copyFails = true then
        .error (.stringConversion key)
      else decoded key (start.takeWhile (· ≠ 0)) := by
  have hended : ¬world.Unended (start ++ 0 :: rest) :=
    fun hunended => hunended.2 (List.mem_append_right _ List.mem_cons_self)
  rw [textOf_raw world key hunits, takeWhile_append_zero_cons]
  refine if_congr ?_ rfl rfl
  rw [iff_false_intro hended, or_false]

/-! ## The result -/

/-- The store has a live dictionary of a disk whose last entry of `key` is these
raw bytes, and three times as many bytes are a signed number. -/
structure HoldsRaw (world : World) (store : Store) (description : Description Nat) (key : Key)
    (bytes : List UInt8) : Prop where
  reachable : Reachable world store
  live : ∃ name entries, store.owned.find? description.guard.reference = some (.dictionary name) ∧
    world.description? name = some entries ∧ lastValue? entries key = some (.raw bytes)
  sized : 3 * (bytes.length : Int) < signedBound

/-- What comes back of raw bytes that are sized and copied. -/
structure CopiedRaw (world : World) (description : Description Nat) (key : Key)
    (bytes : List UInt8) (run : Run Nat Store (Except QueryError (Option String))) : Prop where
  /-- A buffer of three bytes for each byte and one more takes the bytes. -/
  copied : ∃ value buffer, run.exchanges = copying description.guard.reference key value
    bytes.length (3 * bytes.length) (true, buffer) ∧ bytes <+: buffer
  /-- Nothing comes back if and only if nothing ends the bytes. -/
  unended_iff : run.outcome = .ok (.error (.stringConversion key)) ↔ world.Unended bytes
  /-- Otherwise a text comes back if and only if its UTF-8 is what stands before
  the first zero byte. -/
  read_iff : ¬world.Unended bytes → ∀ text, run.outcome = .ok (.ok (some text)) ↔
    Utf8.encode text.toList = bytes.takeWhile (· ≠ 0)
  /-- If that is no UTF-8, its defect comes back. -/
  illFormed : ¬world.Unended bytes → ¬Utf8.Valid (bytes.takeWhile (· ≠ 0)) →
    ∃ defect, Utf8.Locates (bytes.takeWhile (· ≠ 0)) defect ∧
      run.outcome = .ok (.error (.invalidUtf8 key defect))

/-- What comes back of raw bytes, fault by fault. -/
structure RawReading (world : World) (store : Store) (description : Description Nat) (key : Key)
    (bytes : List UInt8) (run : Run Nat Store (Except QueryError (Option String))) : Prop where
  /-- Nothing comes back where no text has a size or no copy succeeds. -/
  withheld : world.negativeMaxSize = true ∨ world.copyFails = true →
    run.outcome = .ok (.error (.stringConversion key))
  copied : world.negativeMaxSize = false → world.copyFails = false →
    CopiedRaw world description key bytes run
  /-- The store stays as it is. -/
  state : run.state = store

namespace HoldsRaw

variable {world : World} {store : Store} {description : Description Nat} {key : Key}
  {bytes : List UInt8}

theorem exists_shows (h : HoldsRaw world store description key bytes) :
    ∃ entries, Shows store description.guard.reference entries ∧
      lastValue? entries key = some (.raw bytes) := by
  obtain ⟨history, hhistory⟩ := h.reachable
  obtain ⟨name, entries, hlive, hentries, hlast⟩ := h.live
  obtain ⟨others, hothers, hshows⟩ := hhistory.represents.dictionary_shows _ _ hlive
  obtain rfl : entries = others := Option.some.inj (hentries.symm.trans hothers)
  exact ⟨entries, hshows, hlast⟩

theorem observes (h : HoldsRaw world store description key bytes) :
    Observes world store (description.text key)
      ((world.textOf key (.raw bytes)).map some) := by
  obtain ⟨entries, hshows, hlast⟩ := h.exists_shows
  have htext := hshows.text world key
  rw [hlast] at htext
  exact htext

theorem copiedRaw (h : HoldsRaw world store description key bytes)
    (hsized : world.negativeMaxSize = false) (hcopies : world.copyFails = false) :
    CopiedRaw world description key bytes ((description.text key).run world.service store) := by
  have houtcome := h.observes.outcome
  rw [textOf_raw world key h.sized, hsized, hcopies] at houtcome
  simp only [Bool.false_eq_true, false_or] at houtcome
  constructor
  · obtain ⟨entries, hshows, hlast⟩ := h.exists_shows
    obtain ⟨-, -, value, hexchanges⟩ :=
      run_text_of_shows hshows hlast rfl rfl hcopies hsized h.sized
    exact ⟨value, _, hexchanges, List.prefix_append _ _⟩
  · rw [houtcome]
    constructor
    · intro hrefused
      by_contra hended
      rw [if_neg hended, decoded] at hrefused
      split at hrefused <;> cases hrefused
    · intro hunended
      rw [if_pos hunended]
      rfl
  · intro hended text
    rw [houtcome, if_neg hended, ← decoded_eq_ok_iff]
    cases decoded key (bytes.takeWhile (· ≠ 0)) <;> simp [Except.map]
  · intro hended hvalid
    obtain ⟨defect, hlocates, hdecoded⟩ := exists_of_not_valid hvalid key
    refine ⟨defect, hlocates, ?_⟩
    rw [houtcome, if_neg hended, hdecoded]
    rfl

end HoldsRaw

/-- Raw bytes of a described disk are read through every live dictionary of the
disk as the faults of the world have it.  Bytes after a zero byte do not count,
whatever else the worlds and their stores are. -/
theorem text_of_raw {world : World} {store : Store} {description : Description Nat} {key : Key}
    {bytes : List UInt8} (h : HoldsRaw world store description key bytes) :
    RawReading world store description key bytes
        ((description.text key).run world.service store) ∧
      ∀ (start rest other : List UInt8) (disks : List Entry) (last : Store)
        (another : Description Nat),
        bytes = start ++ 0 :: rest →
        HoldsRaw { world with disks := disks } last another key (start ++ 0 :: other) →
        ((another.text key).run (World.service { world with disks := disks }) last).outcome =
          ((description.text key).run world.service store).outcome := by
  refine ⟨⟨fun hfault => ?_, h.copiedRaw, h.observes.state⟩, ?_⟩
  · have hwithheld : world.negativeMaxSize = true ∨ world.copyFails = true ∨
        world.Unended bytes := or_assoc.1 (.inl hfault)
    rw [h.observes.outcome, textOf_raw world key h.sized, if_pos hwithheld]
    rfl
  · rintro start rest other disks last another rfl hother
    rw [h.observes.outcome, hother.observes.outcome, textOf_raw_of_zero world key h.sized,
      textOf_raw_of_zero _ key hother.sized]

/-- The disk `d` with raw bytes for its vendor, where a copy ends no text. -/
def rawVendor (bytes : List UInt8) : World where
  disks := [⟨"d", some [(.deviceVendor, .raw bytes)]⟩]
  copyUnterminated := true

/-- A zero byte ends the bytes inside an encoding, through the dictionary 3; the
byte 0xFF after it is as good as none. -/
theorem text_of_raw_of_truncated :
    let made (bytes : List UInt8) := (serve (rawVendor bytes)
      [.createSession, .createDisk 1 ⟨[100], by decide⟩, .copyDescription 2] {}).2
    let run (bytes : List UInt8) :=
      (Description.text ⟨⟨3⟩⟩ .deviceVendor).run (rawVendor bytes).service (made bytes)
    let bytes : List UInt8 := [0x41, 0xE2, 0x82, 0, 0xFF]
    HoldsRaw (rawVendor bytes) (made bytes) ⟨⟨3⟩⟩ .deviceVendor bytes ∧
      RawReading (rawVendor bytes) (made bytes) ⟨⟨3⟩⟩ .deviceVendor bytes (run bytes) ∧
      (run bytes).outcome = .ok (.error (.invalidUtf8 .deviceVendor ⟨1, none⟩)) ∧
      (run [0x41, 0xE2, 0x82, 0]).outcome = (run bytes).outcome := by
  intro made run bytes
  have hholds : ∀ bytes : List UInt8, 3 * (bytes.length : Int) < signedBound →
      HoldsRaw (rawVendor bytes) (made bytes) ⟨⟨3⟩⟩ .deviceVendor bytes := by
    intro bytes hunits
    exact ⟨⟨_, History.start.serve _⟩, ⟨"d", _, rfl, rfl, rfl⟩, hunits⟩
  have hlocates : Utf8.Locates (bytes.takeWhile (· ≠ 0)) ⟨1, none⟩ :=
    Utf8.decode_eq_error_iff.1 rfl
  obtain ⟨hreading, hother⟩ := text_of_raw (hholds bytes (by decide))
  obtain ⟨defect, hdefect, houtcome⟩ :=
    (hreading.copied rfl rfl).illFormed (by decide) hlocates.not_valid
  refine ⟨hholds bytes (by decide), hreading, ?_, ?_⟩
  · rw [houtcome, hdefect.unique hlocates]
  · exact hother [0x41, 0xE2, 0x82] [0xFF] [] _ _ _ rfl (hholds _ (by decide))

end DiskQuery.Store
