import DiskQuery.Proofs.Client.Reading
import DiskQuery.Proofs.Store.Representation

/-!
# Texts that come back

A text of a world is sized, copied and decoded, and comes back as it is up to
its first zero.  This is the promise that the two passes are there to keep, and
it depends on three facts about the encodings: three bytes for each unit are
enough, only a zero is written as a zero byte, and what stands before it is a
text.

There are two groups.

* The copy.  `maxSize_eq` is the size that the store gives for a text, and
  `run_text_of_shows` the run of a reading that copies it.
* The result.  `RoundTrip` is what comes back, and `roundTrip_text` says that it
  does for every live dictionary of a disk with that text.
-/

namespace DiskQuery.Store

open Client Text

/-! ## The copy -/

theorem maxSize_eq {world : World} {length : Nat} (hsized : world.negativeMaxSize = false)
    (hunits : 3 * (length : Int) < signedBound) :
    maxSize world (Int.ofNat length) = 3 * (length : Int) := by
  rw [maxSize, hsized, Int.ofNat_eq_natCast]
  simp only [Bool.false_eq_true, if_false, if_pos (inRange_of_units hunits)]
  omega

/-- A reading copies a text of the dictionary into a buffer with room for it,
and leaves the store as it is. -/
theorem run_text_of_shows {world : World} {store : Store} {description : Description Nat}
    {entries : List (Key × Value)} {key : Key} {text : Value} {bytes : List UInt8} {length : Nat}
    (h : Shows store description.guard.reference entries)
    (hlast : lastValue? entries key = some text) (hbytes : text.bytes? = some bytes)
    (hlength : text.length? = some length) (hcopies : world.copyFails = false)
    (hsized : world.negativeMaxSize = false) (hunits : 3 * (length : Int) < signedBound) :
    let buffer := bytes ++ List.replicate (3 * length + 1 - bytes.length) world.filler
    let run := (description.text key).run world.service store
    run.outcome = .ok ((textInBuffer key buffer).map some) ∧ run.state = store ∧
      ∃ value, run.exchanges =
        copying description.guard.reference key value length (3 * length) (true, buffer) := by
  intro buffer run
  obtain ⟨name, hlive⟩ := h.live
  obtain ⟨value, hentry, hvalue⟩ := h.present key _ hlast
  have hread := readsAs_expectValue world store value
  rw [expectValue_of_find? hlive hvalue] at hread
  have hfound : world.service.answer (.value description.guard.reference key) store =
      (.ok (some value), store) := by
    exact (answer_value world hlive key).trans (by rw [hentry])
  have hmeasured : answer world (.textLength value) store =
      (.ok (some (length : Int)), store) := by
    rw [hread.textLength, Except.map, hlength]
    rfl
  have hmaxSize : answer world (.maxSize length) store = (.ok (3 * (length : Int)), store) := by
    rw [answer, reading, ← maxSize_eq hsized hunits]
    rfl
  have hfits : bytes.length < 3 * length + 1 := Nat.lt_succ_of_le (length_bytes_le hbytes hlength)
  have hcopy := hread.copyText (List.replicate (3 * length + 1) 0)
  rw [Except.map, copyText_replicate hbytes hcopies hfits] at hcopy
  obtain ⟨houtcome, hstate, hexchanges⟩ := run_text hfound hmeasured hmaxSize (by omega) hcopy
  exact ⟨houtcome, hstate, value, hexchanges⟩

/-! ## The result -/

/-- What comes back of the text `content` under `key`. -/
structure RoundTrip (world : World) (store : Store) (description : Description Nat) (key : Key)
    (content : String)
    (run : Run Nat Store (Except QueryError (Option String))) : Prop where
  /-- The text takes at most three bytes for each of its units. -/
  fits : (Utf8.encode content.toList).length ≤ 3 * (Utf16.encode content.toList).length
  /-- The text is copied, into a buffer of one byte more. -/
  copied : ∃ value buffer, run.exchanges = copying description.guard.reference key value
    (Utf16.encode content.toList).length (3 * (Utf16.encode content.toList).length) (true, buffer)
  /-- What comes back is the text up to its first zero, if a zero ends it. -/
  ended : world.copyUnterminated = false ∨ '\x00' ∈ content.toList →
    run.outcome = .ok (.ok (some (String.ofList (content.toList.takeWhile (· ≠ '\x00')))))
  /-- Nothing comes back if no zero ends the text. -/
  unended : world.copyUnterminated = true → '\x00' ∉ content.toList →
    run.outcome = .ok (.error (.stringConversion key))
  /-- The whole text comes back if and only if it has no zero. -/
  whole : world.copyUnterminated = false →
    (run.outcome = .ok (.ok (some content)) ↔ '\x00' ∉ content.toList)
  /-- What was copied is UTF-8. -/
  wellFormed : ∀ other defect, run.outcome ≠ .ok (.error (.invalidUtf8 other defect))
  /-- The store stays as it is. -/
  state : run.state = store

theorem takeWhile_ne_zero_eq_self {text : List Char} :
    text.takeWhile (· ≠ '\x00') = text ↔ '\x00' ∉ text := by
  rw [List.takeWhile_eq_self_iff]
  constructor
  · intro h hmem
    simpa using h _ hmem
  · intro h c hmem
    refine decide_eq_true ?_
    rintro rfl
    exact h hmem

/-- A text of a described disk comes back through every live dictionary of the
disk. -/
theorem roundTrip_text {world : World} {store : Store} (h : Reachable world store)
    {description : Description Nat} {name : String}
    (hlive : store.owned.find? description.guard.reference = some (.dictionary name))
    {entries : List (Key × Value)} (hentries : world.description? name = some entries)
    {key : Key} {content : String} (hlast : lastValue? entries key = some (.text content))
    (hcopies : world.copyFails = false) (hsized : world.negativeMaxSize = false)
    (hunits : 3 * ((Utf16.encode content.toList).length : Int) < signedBound) :
    RoundTrip world store description key content
      ((description.text key).run world.service store) := by
  obtain ⟨history, hhistory⟩ := h
  obtain ⟨others, hothers, hshows⟩ := hhistory.represents.dictionary_shows _ _ hlive
  obtain rfl : entries = others := Option.some.inj (hentries.symm.trans hothers)
  have hfits := length_encode_le content.toList
  obtain ⟨houtcome, hstate, value, hexchanges⟩ :=
    run_text_of_shows hshows hlast rfl rfl hcopies hsized hunits
  rw [textInBuffer_encode key content.toList world.filler (by omega)] at houtcome
  simp only [filler_ne_zero] at houtcome
  have hended : world.copyUnterminated = false ∨ '\x00' ∈ content.toList →
      ((description.text key).run world.service store).outcome =
        .ok (.ok (some (String.ofList (content.toList.takeWhile (· ≠ '\x00'))))) := by
    intro hended
    rw [houtcome, if_neg]
    · rfl
    · rintro ⟨hunterminated, hzero⟩
      rcases hended with hterminated | hmem
      · rw [hterminated] at hunterminated
        cases hunterminated
      · exact hzero hmem
  refine ⟨hfits, ⟨value, _, hexchanges⟩, hended, ?_, ?_, ?_, hstate⟩
  · intro hunterminated hzero
    rw [houtcome, if_pos ⟨hunterminated, hzero⟩]
    rfl
  · intro hterminated
    rw [hended (.inl hterminated), ← takeWhile_ne_zero_eq_self]
    simp [String.ext_iff]
  · intro other defect
    rw [houtcome]
    split <;> simp [Except.map]

/-- A text with a pair of units and a zero comes back up to the zero, through the
dictionary 3. -/
theorem roundTrip_text_of_pair :
    let content := "💾\x00x"
    let world : World := { disks := [⟨"d", some [(.deviceVendor, .text content)]⟩] }
    let store :=
      (serve world [.createSession, .createDisk 1 ⟨[100], by decide⟩, .copyDescription 2] {}).2
    let run := (Description.text ⟨⟨3⟩⟩ .deviceVendor).run world.service store
    Reachable world store ∧ RoundTrip world store ⟨⟨3⟩⟩ .deviceVendor content run ∧
      run.outcome = .ok (.ok (some "💾")) := by
  intro content world store run
  have hreachable : Reachable world store :=
    ⟨_, History.start.serve [.createSession, .createDisk 1 ⟨[100], by decide⟩,
      .copyDescription 2]⟩
  have hlive : store.owned.find? 3 = some (.dictionary "d") := by decide
  have hunits : 3 * ((Utf16.encode content.toList).length : Int) < signedBound := by decide
  have hentries : world.description? "d" = some [(.deviceVendor, .text content)] := by decide
  have hreturned : RoundTrip world store ⟨⟨3⟩⟩ .deviceVendor content run :=
    roundTrip_text hreachable hlive hentries rfl rfl rfl hunits
  have htext : String.ofList (content.toList.takeWhile (· ≠ '\x00')) = "💾" := by decide
  refine ⟨hreachable, hreturned, ?_⟩
  rw [hreturned.ended (.inl rfl), htext]

end DiskQuery.Store
