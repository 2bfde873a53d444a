import DiskQuery.Proofs.Command.Collect
import DiskQuery.Proofs.Command.Record

/-!
# The two outputs of a command

A command prints rows or a JSON array.  Rows are printed up to the first disk
that the command cannot go on after.  The array is printed for all disks or not
at all, and it records a service out of reach, which ends the rows.

There are three groups.

* Texts.  `Record.text` is the row of a record and `Failure.wording` the report of
  a failure, each as it is read.
* Modes.  `RowMode` and `JsonMode` say what the command does for any answers,
  and `rowMode` and `jsonMode` that it does so.
* Comparison.  `modes_compared` is about two command lines that ask for the same
  disks, one for rows and one for JSON.
-/

namespace DiskQuery.Command

open Text

/-! ## Texts -/

namespace Record

/-- The row of a record after its disk. -/
def tail (record : Record) : String :=
  match record.lookup with
  | .described attributes =>
      "removable: " ++ yesNo attributes.removable ++ "\tvendor: " ++ attributes.vendor.getD "-" ++
        "\tmodel: " ++ attributes.model.getD "-"
  | .notFound => "not found"
  | .unavailable => ""

/-- The row of a record without its newline. -/
def text (record : Record) : String :=
  record.disk ++ "\t" ++ record.tail

/-- A record has its row, unless the service was out of reach. -/
theorem row?_eq {record : Record} (h : record.lookup ≠ .unavailable) :
    record.row? = some (record.text ++ "\n") := by
  obtain ⟨disk, lookup⟩ := record
  unfold row? text tail
  cases lookup with
  | described attributes =>
    simp only [String.append_assoc]
    rfl
  | notFound =>
    simp only [String.append_assoc]
    rfl
  | unavailable => exact absurd rfl h

/-- The rows of records, each with its newline. -/
def rows (records : List Record) : List String :=
  records.map fun record => record.text ++ "\n"

end Record

namespace Failure

/-- The causes of a query without an answer, as they are reported.  They are
numbered if there are two, and the lines of one after its first hang. -/
def causeWording (error : QueryError) : List String :=
  match error.cause? with
  | none => ["    " ++ hanging "    " error.message]
  | some cause =>
      ["    0: " ++ hanging "       " error.message, "    1: " ++ hanging "       " cause]

/-- The report of a failure. -/
def wording : Failure → String
  | query disk error =>
      "Error: Failed to query " ++ disk ++ "\n\nCaused by:\n" ++
        String.intercalate "\n" (causeWording error) ++ "\n"
  | unavailable => "Error: Disk Arbitration is not available\n"

theorem causeLines_causes (disk : String) (error : QueryError) :
    causeLines (query disk error).causes = causeWording error := by
  show causeLines (error.message :: error.cause?.toList) = causeWording error
  unfold causeWording
  cases error.cause? with
  | none => rfl
  | some cause => rfl

/-- A failure is reported as it is worded. -/
theorem report_eq_wording (failure : Failure) : failure.report = failure.wording := by
  cases failure with
  | unavailable => rfl
  | query disk error =>
    have htitle : "Error: " ++ (query disk error).title = "Error: Failed to query " ++ disk := by
      show "Error: " ++ ("Failed to query " ++ disk) = _
      rw [← String.append_assoc]
      rfl
    obtain ⟨line, more, hlines⟩ : ∃ line more, causeWording error = line :: more := by
      unfold causeWording
      split <;> exact ⟨_, _, rfl⟩
    unfold report wording
    rw [htitle, causeLines_causes]
    simp only [hlines, String.append_assoc]

end Failure

/-! ## Modes -/

/-- The first `count` answers are no errors. -/
def AllAnswered (answers : Nat → Except QueryError Lookup) (count : Nat) : Prop :=
  ∀ i < count, ∃ lookup, answers i = .ok lookup

/-- The first `count` answers are no errors, and the service was within reach for
each. -/
def AllReached (answers : Nat → Except QueryError Lookup) (count : Nat) : Prop :=
  ∀ i < count, ∃ lookup, answers i = .ok lookup ∧ lookup ≠ .unavailable

/-- An answer that ends the rows, and how the command fails then. -/
inductive EndsRows (disk : String) : Except QueryError Lookup → Failure → Prop where
  | error (error : QueryError) : EndsRows disk (.error error) (.query disk error)
  | unavailable : EndsRows disk (.ok .unavailable) .unavailable

section Modes

variable (answers : Nat → Except QueryError Lookup) (disks : List String) (timeout : Nat)

/-- What the command does without `--json`, and what it asked then. -/
inductive RowMode : Output × List (Nat × String) → Prop where
  /-- The row of every disk is printed. -/
  | complete {records : List Record} (hreached : AllReached answers disks.length)
      (hanswered : Answered answers disks records) :
      RowMode (⟨0, String.join (Record.rows records), ""⟩, disks.map fun disk => (timeout, disk))
  /-- The rows before the first answer that ends them are printed. -/
  | broken {i : Nat} {failure : Failure} {records : List Record} (hi : i < disks.length)
      (hreached : AllReached answers i) (hends : EndsRows disks[i] (answers i) failure)
      (hanswered : Answered answers (disks.take i) records) :
      RowMode (⟨1, String.join (Record.rows records), failure.wording⟩,
        (disks.take (i + 1)).map fun disk => (timeout, disk))

/-- What the command does with `--json`, and what it asked then. -/
inductive JsonMode : Output × List (Nat × String) → Prop where
  /-- The output is an array of the records of all disks, and they can be read
  again. -/
  | complete {records : List Record} (hall : AllAnswered answers disks.length)
      (hanswered : Answered answers disks records)
      (hwritten : ∀ value, Json.Written value (jsonArray records) ↔
        value = .array (records.map Record.toJson))
      (hread : (records.map Record.toJson).mapM Record.ofJson? = some records) :
      JsonMode (⟨0, jsonArray records, ""⟩, disks.map fun disk => (timeout, disk))
  /-- Nothing is printed but the report of the first error, with its disk. -/
  | broken {i : Nat} {error : QueryError} (hi : i < disks.length)
      (hall : AllAnswered answers i) (herror : answers i = .error error) :
      JsonMode (⟨1, "", (Failure.query disks[i] error).wording⟩,
        (disks.take (i + 1)).map fun disk => (timeout, disk))

end Modes

theorem EndsRows.stops {disk : String} {answer : Except QueryError Lookup} {failure : Failure}
    (h : EndsRows disk answer failure) : Stops Record.row? disk answer failure := by
  cases h with
  | error error => exact .error error
  | unavailable => exact .dropped rfl

theorem exists_endsRows (disk : String) {answer : Except QueryError Lookup}
    (h : ¬∃ lookup, answer = .ok lookup ∧ lookup ≠ .unavailable) :
    ∃ failure, EndsRows disk answer failure := by
  cases answer with
  | error error => exact ⟨_, .error error⟩
  | ok lookup =>
    cases lookup with
    | unavailable => exact ⟨_, .unavailable⟩
    | described | notFound => exact absurd ⟨_, rfl, nofun⟩ h

theorem EndsRows.not_reached {disk : String} {answer : Except QueryError Lookup} {failure : Failure}
    (h : EndsRows disk answer failure) :
    ¬∃ lookup, answer = .ok lookup ∧ lookup ≠ .unavailable := by
  rintro ⟨lookup, rfl, hreached⟩
  cases h
  exact hreached rfl

section Runs

variable {answers : Nat → Except QueryError Lookup} {arguments disks : List String}
  {timeout count : Nat}

theorem AllReached.allAnswered (h : AllReached answers count) : AllAnswered answers count := by
  intro i hi
  obtain ⟨lookup, hanswer, _⟩ := h i hi
  exact ⟨lookup, hanswer⟩

/-- The records of answers have rows, if the service was within reach. -/
theorem exists_rows (hcount : count ≤ disks.length) (h : AllReached answers count) :
    ∃ records, Answered answers (disks.take count) records ∧
      records.map Record.row? = (Record.rows records).map some := by
  obtain ⟨records, hanswered⟩ := exists_records hcount h.allAnswered
  have hlength : records.length = count := by
    rw [← List.length_map Record.disk, hanswered.disks, List.length_take, Nat.min_eq_left hcount]
  refine ⟨records, hanswered, ?_⟩
  unfold Record.rows
  rw [List.map_map]
  refine List.map_congr_left fun record hmem => Record.row?_eq ?_
  obtain ⟨i, hi, rfl⟩ := List.getElem_of_mem hmem
  obtain ⟨lookup, hlookup, hreached⟩ := h i (hlength ▸ hi)
  rw [hanswered.answers i hi] at hlookup
  cases hlookup
  exact hreached

theorem rowMode (answers : Nat → Except QueryError Lookup)
    (h : Options.ofArguments arguments = .ok ⟨disks, timeout, false⟩) :
    RowMode answers disks timeout (transcript answers arguments) := by
  rcases first_or_all _ disks.length with hreached | ⟨i, hi, hends, hreached⟩
  · obtain ⟨records, hanswered, hrows⟩ := exists_rows (Nat.le_refl disks.length) hreached
    rw [List.take_length] at hanswered
    rw [transcript_rows h, collecting_all hanswered hrows]
    exact .complete hreached hanswered
  · obtain ⟨failure, hends⟩ := exists_endsRows disks[i] hends
    obtain ⟨records, hanswered, hrows⟩ := exists_rows (Nat.le_of_lt hi) hreached
    rw [transcript_rows h, collecting_stop hi hanswered hrows hends.stops]
    simp only [Output.ofRows, Failure.report_eq_wording]
    exact .broken hi hreached hends hanswered

theorem jsonMode (answers : Nat → Except QueryError Lookup)
    (h : Options.ofArguments arguments = .ok ⟨disks, timeout, true⟩) :
    JsonMode answers disks timeout (transcript answers arguments) := by
  have hkept : ∀ records : List Record, records.map some = records.map some := fun _ => rfl
  rcases first_or_all _ disks.length with hall | ⟨i, hi, hnone, hall⟩
  · obtain ⟨records, hanswered⟩ := exists_records (Nat.le_refl disks.length) hall
    rw [List.take_length] at hanswered
    rw [transcript_records h, collecting_all hanswered (hkept records)]
    exact .complete hall hanswered (written_jsonArray_iff records) (mapM_ofJson? records)
  · obtain ⟨records, hanswered⟩ := exists_records (Nat.le_of_lt hi) hall
    cases herror : answers i with
    | ok lookup => exact absurd ⟨lookup, herror⟩ hnone
    | error error =>
      have hstops : Stops (some : Record → Option Record) disks[i] (answers i)
          (.query disks[i] error) := by
        rw [herror]
        exact .error error
      rw [transcript_records h, collecting_stop hi hanswered (hkept records) hstops]
      simp only [Output.ofRecords, Failure.report_eq_wording]
      exact .broken hi hall herror

end Runs

/-! ## Comparison -/

section Comparison

variable {answers : Nat → Except QueryError Lookup} {disks : List String} {timeout : Nat}
  {result : Output × List (Nat × String)}

theorem RowMode.exit_eq_zero_iff (h : RowMode answers disks timeout result) :
    result.1.exit = 0 ↔ AllReached answers disks.length := by
  cases h with
  | complete hreached => exact iff_of_true rfl hreached
  | broken hi _ hends =>
    exact iff_of_false Nat.one_ne_zero fun hall => hends.not_reached (hall _ hi)

theorem JsonMode.exit_eq_zero_iff (h : JsonMode answers disks timeout result) :
    result.1.exit = 0 ↔ AllAnswered answers disks.length := by
  cases h with
  | complete hall => exact iff_of_true rfl hall
  | broken hi _ herror =>
    refine iff_of_false Nat.one_ne_zero fun hall => ?_
    obtain ⟨lookup, hanswer⟩ := hall _ hi
    rw [herror] at hanswer
    cases hanswer

/-- The first error ends the rows, if the service was within reach before. -/
theorem RowMode.failed_at (h : RowMode answers disks timeout result) {i : Nat} {error : QueryError}
    (hi : i < disks.length) (hreached : AllReached answers i) (herror : answers i = .error error) :
    result.1.exit = 1 ∧ result.1.stderr = (Failure.query disks[i] error).wording := by
  have hends : EndsRows disks[i] (answers i) (.query disks[i] error) := by
    rw [herror]
    exact .error error
  cases h with
  | complete hall => exact absurd (hall i hi) hends.not_reached
  | @broken j failure _ hj hbefore hother =>
    rcases Nat.lt_trichotomy i j with hlt | rfl | hlt
    · exact absurd (hbefore i hlt) hends.not_reached
    · rw [herror] at hother
      cases hother
      exact ⟨rfl, rfl⟩
    · exact absurd (hreached j hlt) hother.not_reached

theorem JsonMode.failed_at (h : JsonMode answers disks timeout result) {i : Nat}
    {error : QueryError} (hi : i < disks.length) (hall : AllAnswered answers i)
    (herror : answers i = .error error) :
    result.1.exit = 1 ∧ result.1.stderr = (Failure.query disks[i] error).wording := by
  have hnone : ∀ {k : Nat} {e : QueryError}, answers k = .error e →
      ¬∃ lookup, answers k = .ok lookup := by
    rintro k e hanswer ⟨lookup, hok⟩
    rw [hanswer] at hok
    cases hok
  cases h with
  | complete hevery => exact absurd (hevery i hi) (hnone herror)
  | @broken j other hj hbefore hother =>
    rcases Nat.lt_trichotomy i j with hlt | rfl | hlt
    · exact absurd (hbefore i hlt) (hnone herror)
    · rw [herror] at hother
      cases hother
      exact ⟨rfl, rfl⟩
    · exact absurd (hall j hlt) (hnone hother)

end Comparison

/-- How the outputs of the two modes compare, for the same answers. -/
structure ModesAgree (answers : Nat → Except QueryError Lookup) (count : Nat)
    (rows json : Output) : Prop where
  success : rows.exit = 0 → json.exit = 0
  /-- Only a service out of reach keeps rows from answers that JSON has an array
  for. -/
  converse : json.exit = 0 → (rows.exit = 0 ↔ ∀ i < count, answers i ≠ .ok .unavailable)
  /-- The first error fails both modes alike, if the service was within reach
  before. -/
  failure : ∀ i < count, ∀ error, AllReached answers i → answers i = .error error →
    rows.exit = 1 ∧ json.exit = 1 ∧ rows.stderr = json.stderr

theorem modesAgree {answers : Nat → Except QueryError Lookup} {disks : List String} {timeout : Nat}
    {rows json : Output × List (Nat × String)} (hrows : RowMode answers disks timeout rows)
    (hjson : JsonMode answers disks timeout json) :
    ModesAgree answers disks.length rows.1 json.1 where
  success hexit := hjson.exit_eq_zero_iff.2 (hrows.exit_eq_zero_iff.1 hexit).allAnswered
  converse hexit := by
    have hall := hjson.exit_eq_zero_iff.1 hexit
    rw [hrows.exit_eq_zero_iff]
    constructor
    · intro hreached i hi hunavailable
      obtain ⟨lookup, hanswer, hne⟩ := hreached i hi
      rw [hunavailable] at hanswer
      cases hanswer
      exact hne rfl
    · intro havailable i hi
      obtain ⟨lookup, hanswer⟩ := hall i hi
      refine ⟨lookup, hanswer, ?_⟩
      rintro rfl
      exact havailable i hi hanswer
  failure i hi error hreached herror := by
    obtain ⟨hexit, hstderr⟩ := hrows.failed_at hi hreached herror
    obtain ⟨hexit', hstderr'⟩ := hjson.failed_at hi hreached.allAnswered herror
    exact ⟨hexit, hexit', hstderr.trans hstderr'.symm⟩

/-- Two command lines ask for the same disks, one for rows and one for JSON, and
get the same answers.  What each of them does follows from the answers alone, and
so does how they compare.  On a host the answers are what it finds for each
disk. -/
theorem modes_compared {rows json disks : List String} {timeout : Nat}
    (answers : Nat → Except QueryError Lookup)
    (hrows : Options.ofArguments rows = .ok ⟨disks, timeout, false⟩)
    (hjson : Options.ofArguments json = .ok ⟨disks, timeout, true⟩) :
    RowMode answers disks timeout (transcript answers rows) ∧
      JsonMode answers disks timeout (transcript answers json) ∧
      ModesAgree answers disks.length (transcript answers rows).1 (transcript answers json).1 ∧
      ∀ host : Worker.Host,
        (∀ (i : Nat) (hi : i < disks.length), answers i = hostAnswer host timeout disks[i]) →
        onHost host rows = (transcript answers rows).1 ∧
          onHost host json = (transcript answers json).1 := by
  have hrowMode := rowMode answers hrows
  have hjsonMode := jsonMode answers hjson
  refine ⟨hrowMode, hjsonMode, modesAgree hrowMode hjsonMode, fun host hanswers => ?_⟩
  exact ⟨onHost_eq_transcript hrows hanswers, onHost_eq_transcript hjson hanswers⟩

/-- A service out of reach for the third disk ends the rows and is recorded in
the array.  The first disk reports a vendor and no model. -/
theorem modes_compared_of_unavailable :
    let answers : Nat → Except QueryError Lookup := fun i =>
      if i = 0 then .ok (.described { removable := some true, vendor := some "ACME" })
      else if i = 1 then .ok .notFound
      else .ok .unavailable
    let rows : List String := ["--", "disk0", "disk1", "disk0"]
    let json : List String := "--json" :: rows
    Options.ofArguments rows = .ok ⟨["disk0", "disk1", "disk0"], 10, false⟩ ∧
      Options.ofArguments json = .ok ⟨["disk0", "disk1", "disk0"], 10, true⟩ ∧
      RowMode answers ["disk0", "disk1", "disk0"] 10 (transcript answers rows) ∧
      ModesAgree answers 3 (transcript answers rows).1 (transcript answers json).1 ∧
      transcript answers rows =
        (⟨1, "disk0\tremovable: yes\tvendor: ACME\tmodel: -\ndisk1\tnot found\n",
            "Error: Disk Arbitration is not available\n"⟩,
          [(10, "disk0"), (10, "disk1"), (10, "disk0")]) ∧
      (transcript answers json).1.exit = 0 := by
  intro answers rows json
  obtain ⟨hrows, hjson⟩ : Options.ofArguments rows = .ok ⟨["disk0", "disk1", "disk0"], 10, false⟩ ∧
      Options.ofArguments json = .ok ⟨["disk0", "disk1", "disk0"], 10, true⟩ :=
    ofArguments_mark (by decide)
  obtain ⟨hrowMode, _, hagree, _⟩ := modes_compared answers hrows hjson
  exact ⟨hrows, hjson, hrowMode, hagree, by decide, by decide⟩

end DiskQuery.Command
