import DiskQuery.Framework.Service
import DiskQuery.Proofs.Client.Reading
import DiskQuery.Proofs.Store.Copy
import DiskQuery.Proofs.Text.Utf16

/-!
# Texts of the framework

The framework keeps a text as code units, which need not be a text at all.  A
reading of them goes wrong in one way only: an unpaired surrogate somewhere
makes the copy fail, also one after a zero unit that would end the text.  All
other units come back, up to the first zero unit.

There are two groups.

* The copy.  `cString?_length_le` says that the buffer has room for every text
  that the units are, and `copyUnits_replicate` what is copied into it.
* The result.  `Extraction` is what comes back of units, and `extraction_text`
  says that it does in every state of the framework.
-/

namespace DiskQuery.Framework

open Client Text

/-! ## The copy -/

theorem maximumSize_eq {length : Nat} (hunits : 3 * (length : Int) < signedBound) :
    maximumSize length = 3 * (length : Int) := by
  rw [maximumSize, if_pos (Store.inRange_of_units hunits)]
  omega

/-- The bytes of units and the zero byte after them fit the buffer. -/
theorem cString?_length_le {units : List UInt16} {bytes : List UInt8}
    (h : cString? units = some bytes) : bytes.length ≤ 3 * units.length + 1 := by
  obtain ⟨text, htext, rfl⟩ := Option.map_eq_some_iff.1 h
  have hle := Store.length_encode_le text
  rw [Utf16.decode_eq_some_iff.1 htext] at hle
  rw [List.length_append, List.length_singleton]
  omega

/-- A copy of a text into a buffer with room for it leaves the text and zeros
after it. -/
theorem copyUnits_replicate {units : List UInt16} {text : List Char}
    (h : Utf16.decode units = some text) :
    copyUnits units (List.replicate (3 * units.length + 1) 0) =
      (true, Utf8.encode text ++
        List.replicate (3 * units.length + 1 - (Utf8.encode text).length) 0) := by
  have hbytes : cString? units = some (Utf8.encode text ++ [0]) := by
    rw [cString?, h, Option.map_some]
  have hle := cString?_length_le hbytes
  have hroom : (Utf8.encode text ++ [0]).length ≤
      (List.replicate (3 * units.length + 1) (0 : UInt8)).length := by
    rwa [List.length_replicate]
  have hzero : 3 * units.length + 1 - (Utf8.encode text).length =
      3 * units.length + 1 - (Utf8.encode text ++ [0]).length + 1 := by
    rw [List.length_append, List.length_singleton] at hle ⊢
    omega
  unfold copyUnits
  simp only [hbytes, if_pos hroom, List.drop_replicate]
  rw [hzero, List.replicate_succ, List.append_assoc, List.singleton_append]

/-- Units that are no text are not copied. -/
theorem copyUnits_of_decode_eq_none {units : List UInt16} (h : Utf16.decode units = none)
    (buffer : List UInt8) : copyUnits units buffer = (false, buffer) := by
  rw [copyUnits, cString?, h, Option.map_none]

/-! ## The result -/

/-- What comes back of the code units `units` under `key`. -/
structure Extraction (dictionary : Reference) (key : Key) (units : List UInt16)
    (run : Run Reference Framework (Except QueryError (Option String))) : Prop where
  /-- Nothing comes back if and only if a surrogate is unpaired, wherever it
  stands. -/
  refused_iff : run.outcome = .ok (.error (.stringConversion key)) ↔ Utf16.HasUnpaired units
  /-- All other units come back up to the first zero unit. -/
  read : ¬Utf16.HasUnpaired units → ∃ text, Utf16.decode (units.takeWhile (· ≠ 0)) = some text ∧
    run.outcome = .ok (.ok (some (String.ofList text)))
  /-- The bytes of a text and a zero byte fit the buffer. -/
  fits : ∀ bytes, cString? units = some bytes → bytes.length ≤ 3 * units.length + 1
  /-- The size of the buffer is a signed number. -/
  sized : 3 * (units.length : Int) + 1 < signedBound
  /-- A copy is tried, fails only for an unpaired surrogate, and leaves a zero
  byte in the buffer. -/
  copied : ∃ value copied buffer,
    run.exchanges =
      copying dictionary key value units.length (3 * units.length) (copied, buffer) ∧
      (copied = true ↔ ¬Utf16.HasUnpaired units) ∧ 0 ∈ buffer
  /-- What was copied is UTF-8. -/
  wellFormed : ∀ other defect, run.outcome ≠ .ok (.error (.invalidUtf8 other defect))

/-- A value of a live dictionary is read whatever functions were called
before. -/
theorem onValue_of_find? {α : Type} {framework : Framework} {id : Nat} {entries : Entries}
    {constant : Constant} {value : Value}
    (hlive : framework.objects.find? id = some (.dictionary entries))
    (hvalue : valueOf? entries constant = some value) (answer : Value → α × List NativeCall) :
    framework.onValue (.value id constant) answer =
      (.ok (answer value).1, (answer value).2.foldl called framework) := by
  simp only [onValue, value?, hlive, hvalue]

/-- A reading of units copies them, and goes by what the copy left. -/
theorem run_text_of_units (world : World) {framework : Framework} {id : Nat} {entries : Entries}
    {key : Key} {units : List UInt16}
    (hlive : framework.objects.find? id = some (.dictionary entries))
    (hvalue : valueOf? entries (keyString key) = some (.text units))
    (hunits : 3 * (units.length : Int) < signedBound) {copied : Bool} {buffer : List UInt8}
    (hcopy : copyUnits units (List.replicate (3 * units.length + 1) 0) = (copied, buffer)) :
    let run := (Description.text ⟨⟨.object id⟩⟩ key).run world.service framework
    run.outcome = .ok (if copied then (textInBuffer key buffer).map some
        else .error (.stringConversion key)) ∧
      run.exchanges = copying (.object id) key (.value id (keyString key)) units.length
        (3 * units.length) (copied, buffer) := by
  let description : Description Reference := ⟨⟨.object id⟩⟩
  let value : Reference := .value id (keyString key)
  let found := framework.called (.getValue (keyString key))
  let measured := found.called .getLength
  let sized := measured.called (.getMaximumSize units.length)
  have hfound : world.service.answer (.value description.guard.reference key) framework =
      (.ok (some value), found) := by
    change Framework.answer world (.value (.object id) key) framework = _
    simp only [Framework.answer, dictionaryGetValue, object?, hlive, hvalue]
    rfl
  have hmeasured : world.service.answer (.textLength value) found =
      (.ok (some (units.length : Int)), measured) := by
    have hlive : found.objects.find? id = some (.dictionary entries) := hlive
    exact onValue_of_find? hlive hvalue _
  have hsized : world.service.answer (.maxSize units.length) measured =
      (.ok (3 * (units.length : Int)), sized) := by
    change (Except.ok (maximumSize units.length), sized) = _
    rw [maximumSize_eq hunits]
  have hcopied : world.service.answer
      (.copyText value (List.replicate ((3 * (units.length : Int)).toNat + 1) 0)) sized =
        (.ok (copied, buffer), sized.called (.getCString (3 * units.length + 1))) := by
    have hlive : sized.objects.find? id = some (.dictionary entries) := hlive
    refine (onValue_of_find? hlive hvalue _).trans ?_
    have hroom : (3 * (units.length : Int)).toNat = 3 * units.length := by omega
    rw [hroom]
    simp only [copyInto, Value.units?, stringGetCString, hcopy, List.length_replicate,
      List.foldl_cons, List.foldl_nil]
  obtain ⟨houtcome, _, hexchanges⟩ := run_text hfound hmeasured hsized (by omega) hcopied
  exact ⟨houtcome, hexchanges⟩

/-- Units that a live dictionary holds come back, unless a surrogate among them
is unpaired. -/
theorem extraction_text (world : World) {framework : Framework} {id : Nat} {entries : Entries}
    {key : Key} {units : List UInt16}
    (hlive : framework.objects.find? id = some (.dictionary entries))
    (hvalue : valueOf? entries (keyString key) = some (.text units))
    (hunits : 3 * (units.length : Int) < signedBound) :
    Extraction (.object id) key units
      ((Description.text ⟨⟨.object id⟩⟩ key).run world.service framework) := by
  have hsized : 3 * (units.length : Int) + 1 < signedBound := by
    simp only [signedBound] at hunits ⊢
    omega
  cases hdecode : Utf16.decode units with
  | none =>
    have hunpaired := (Utf16.decode_eq_none_iff units).1 hdecode
    obtain ⟨houtcome, hexchanges⟩ := run_text_of_units world hlive hvalue hunits
      (copyUnits_of_decode_eq_none hdecode _)
    rw [if_neg Bool.false_ne_true] at houtcome
    refine ⟨?_, ?_, fun _ => cString?_length_le, hsized, ?_, ?_⟩
    · exact ⟨fun _ => hunpaired, fun _ => houtcome⟩
    · exact fun hpaired => absurd hunpaired hpaired
    · refine ⟨_, _, _, hexchanges, ?_, ?_⟩
      · exact ⟨nofun, fun hpaired => absurd hunpaired hpaired⟩
      · exact List.mem_replicate.2 ⟨Nat.succ_ne_zero _, rfl⟩
    · intro other defect
      rw [houtcome]
      simp
  | some text =>
    have hpaired : ¬Utf16.HasUnpaired units := by
      rw [← Utf16.decode_eq_none_iff, hdecode]
      exact Option.some_ne_none text
    obtain ⟨houtcome, hexchanges⟩ := run_text_of_units world hlive hvalue hunits
      (copyUnits_replicate hdecode)
    have hencode := Utf16.decode_eq_some_iff.1 hdecode
    have hfits := Store.length_encode_le text
    rw [hencode] at hfits
    rw [if_pos rfl, Store.textInBuffer_encode key text 0 (by omega), if_neg (by simp)] at houtcome
    refine ⟨?_, ?_, fun _ => cString?_length_le, hsized, ?_, ?_⟩
    · rw [houtcome]
      exact ⟨nofun, fun hunpaired => absurd hunpaired hpaired⟩
    · refine fun _ => ⟨text.takeWhile (· ≠ '\x00'), ?_, houtcome⟩
      rw [← hencode, Utf16.takeWhile_encode, Utf16.decode_encode]
    · refine ⟨_, _, _, hexchanges, ⟨fun _ => hpaired, fun _ => rfl⟩, ?_⟩
      refine List.mem_append_right _ (List.mem_replicate.2 ⟨?_, rfl⟩)
      omega
    · intro other defect
      rw [houtcome]
      simp [Except.map]

/-- A surrogate after a zero unit is enough for nothing to come back. -/
theorem extraction_text_of_surrogate :
    let units : List UInt16 := [0x41, 0, 0xD800]
    let framework := (create {} (.dictionary [(some (keyString .deviceModel), .text units)])).2
    let run := (Description.text ⟨⟨.object 1⟩⟩ .deviceModel).run (World.service {}) framework
    Extraction (.object 1) .deviceModel units run ∧
      run.outcome = .ok (.error (.stringConversion .deviceModel)) := by
  intro units framework run
  have hlive : framework.objects.find? 1 =
      some (.dictionary [(some (keyString .deviceModel), .text units)]) := rfl
  have hunits : 3 * (units.length : Int) < signedBound := by decide
  have hunpaired : Utf16.HasUnpaired units :=
    ⟨[0x41, 0], 0xD800, [], rfl, .inl ⟨by decide, nofun⟩⟩
  have hextraction : Extraction (.object 1) .deviceModel units run :=
    extraction_text {} hlive rfl hunits
  exact ⟨hextraction, hextraction.refused_iff.2 hunpaired⟩

end DiskQuery.Framework
