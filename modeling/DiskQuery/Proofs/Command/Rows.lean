import DiskQuery.Proofs.Command.Modes

/-!
# The rows of a command

The command prints one row for each disk, but it prints what a device reports as
it is.  A newline in it begins a row, and a tab a field, that no disk asked for.

There are three groups.

* Splitting.  Facts about `List.splitOn`: how many parts there are, and what the
  first one begins with.
* Records.  The row of a record has the newlines that the device reports and no
  other, and likewise the tabs beside its own.
* Outputs.  `RowsOf` says how rows and records belong together, for anything that
  devices report.
-/

namespace DiskQuery.Command

/-! ## Splitting -/

section Splitting

variable {α : Type} [DecidableEq α]

theorem splitOn_append_cons (a : α) (first rest : List α) :
    (first ++ a :: rest).splitOn a = first.splitOn a ++ rest.splitOn a :=
  List.splitOnP_append_cons first rest (beq_self_eq_true a)

/-- A list has one part more than the places where it is split. -/
theorem length_splitOn (a : α) (list : List α) : (list.splitOn a).length = list.count a + 1 := by
  induction list with
  | nil => rfl
  | cons b rest ih =>
    unfold List.splitOn at ih ⊢
    rw [List.splitOnP_cons_eq_if_modifyHead, List.count_cons]
    split
    · rw [List.length_cons, ih]
    · rw [List.length_modifyHead, ih, Nat.add_zero]

/-- What stands before the first place belongs to the first part. -/
theorem splitOn_append_of_notMem {a : α} {first : List α} (hfirst : a ∉ first) (rest : List α) :
    (first ++ rest).splitOn a = (rest.splitOn a).modifyHead (first ++ ·) := by
  induction first with
  | nil => exact (congrFun List.modifyHead_id _).symm
  | cons b more ih =>
    rw [List.mem_cons, not_or] at hfirst
    have hmore := ih hfirst.2
    unfold List.splitOn at hmore ⊢
    rw [List.cons_append, List.splitOnP_cons_eq_if_modifyHead, hmore,
      if_neg (by simpa using Ne.symm hfirst.1), List.modifyHead_modifyHead]
    rfl

end Splitting

/-! ## Records -/

/-- The rows of an output.  Each ends with a newline. -/
def lines (text : String) : List (List Char) :=
  (text.toList.splitOn '\n').dropLast

/-- The fields of a row. -/
def fields (row : List Char) : List (List Char) :=
  row.splitOn '\t'

namespace Record

/-- What the device reports about itself in words. -/
def reported (record : Record) : List Char :=
  match record.lookup with
  | .described attributes =>
      attributes.vendor.toList.flatMap String.toList ++
        attributes.model.toList.flatMap String.toList
  | _ => []

/-- The fields that a row is meant to have. -/
def columns (record : Record) : Nat :=
  match record.lookup with
  | .described _ => 4
  | _ => 2

/-- The hyphen for an absent text is no text that is reported. -/
theorem count_getD {c : Char} (hc : c ≠ '-') (text : Option String) :
    (text.getD "-").toList.count c = (text.toList.flatMap String.toList).count c := by
  cases text with
  | none =>
    have hnone : c ∉ "-".toList := by
      rw [show "-".toList = ['-'] from rfl, List.mem_singleton]
      exact hc
    exact List.count_eq_zero_of_not_mem hnone
  | some text => rw [Option.getD_some, Option.toList_some, List.flatMap_singleton]

/-- The newlines and the tabs of a row after its disk are those that the device
reports, and a tab before each further column. -/
theorem count_tail {c : Char} (hc : c = '\n' ∨ c = '\t') (record : Record) :
    record.tail.toList.count c =
      (record.columns - 2) * ['\t'].count c + record.reported.count c := by
  have hyphen : c ≠ '-' := by
    rcases hc with rfl | rfl <;> decide
  have hflag : ∀ flag, (yesNo flag).toList.count c = 0 := by
    rintro (_ | _ | _) <;> rcases hc with rfl | rfl <;> decide
  have hwords : "removable: ".toList.count c = 0 ∧ "not found".toList.count c = 0 ∧
      "\tvendor: ".toList.count c = ['\t'].count c ∧
      "\tmodel: ".toList.count c = ['\t'].count c := by
    rcases hc with rfl | rfl <;> decide
  obtain ⟨hremovable, hnotFound, hvendor, hmodel⟩ := hwords
  obtain ⟨disk, lookup⟩ := record
  unfold tail reported columns
  cases lookup with
  | described attributes =>
    simp only [String.toList_append, List.count_append, hflag, hremovable, hvendor, hmodel,
      count_getD hyphen]
    omega
  | notFound =>
    simp only [hnotFound, List.count_nil]
    omega
  | unavailable =>
    show 0 = (2 - 2) * ['\t'].count c + 0
    omega

/-- The newlines of a row are those that the device reports. -/
theorem count_newline {record : Record} (hdisk : '\n' ∉ record.disk.toList) :
    record.text.toList.count '\n' = record.reported.count '\n' := by
  have hseparator : "\t".toList.count '\n' = 0 := by decide
  have hcolumn : ['\t'].count '\n' = 0 := by decide
  unfold text
  rw [String.toList_append, String.toList_append, List.count_append, List.count_append,
    List.count_eq_zero_of_not_mem hdisk, hseparator, count_tail (.inl rfl), hcolumn]
  omega

/-- The tabs of a row are those that the device reports, and one before each
column but the first. -/
theorem count_tab {record : Record} (hdisk : '\t' ∉ record.disk.toList) :
    record.text.toList.count '\t' + 1 = record.columns + record.reported.count '\t' := by
  have hseparator : "\t".toList.count '\t' = 1 := by decide
  have hcolumn : ['\t'].count '\t' = 1 := by decide
  have hcolumns : 2 ≤ record.columns := by
    unfold columns
    cases record.lookup with
    | described => exact Nat.le_add_left 2 2
    | notFound | unavailable => exact Nat.le_refl 2
  unfold text
  rw [String.toList_append, String.toList_append, List.count_append, List.count_append,
    List.count_eq_zero_of_not_mem hdisk, hseparator, count_tail (.inr rfl), hcolumn]
  omega

/-- The rows that a record is printed as. -/
def block (record : Record) : List (List Char) :=
  record.text.toList.splitOn '\n'

theorem length_block {record : Record} (hdisk : '\n' ∉ record.disk.toList) :
    record.block.length = record.reported.count '\n' + 1 := by
  unfold block
  rw [length_splitOn, count_newline hdisk]

/-- The first of them begins with the disk. -/
theorem exists_block {record : Record} (hdisk : '\n' ∉ record.disk.toList) :
    ∃ rest more, record.block = (record.disk.toList ++ '\t' :: rest) :: more := by
  have hfirst : '\n' ∉ record.disk.toList ++ "\t".toList := by
    rw [List.mem_append, not_or]
    exact ⟨hdisk, by decide⟩
  unfold block text
  rw [String.toList_append, String.toList_append, splitOn_append_of_notMem hfirst]
  cases hsplit : record.tail.toList.splitOn '\n' with
  | nil => exact absurd hsplit (List.splitOnP_ne_nil _ _)
  | cons rest more =>
    refine ⟨rest, more, ?_⟩
    rw [List.modifyHead_cons, List.append_assoc]
    rfl

end Record

/-! ## Outputs -/

/-- The rows of the records, one record after another. -/
theorem lines_join (records : List Record) :
    lines (String.join (Record.rows records)) = records.flatMap Record.block := by
  have hsplit : (records.flatMap fun record => (record.text ++ "\n").toList).splitOn '\n' =
      records.flatMap Record.block ++ [[]] := by
    induction records with
    | nil => rfl
    | cons record rest ih =>
      rw [List.flatMap_cons, String.toList_append, List.append_assoc]
      show (record.text.toList ++ '\n' ::
        rest.flatMap fun record => (record.text ++ "\n").toList).splitOn '\n' = _
      rw [splitOn_append_cons, ih, List.flatMap_cons, List.append_assoc]
      rfl
  unfold lines Record.rows
  rw [String.toList_join, List.flatMap_map, hsplit, List.dropLast_concat]

/-- How the rows of an output belong to records. -/
structure RowsOf (records : List Record) (rows : List (List Char)) : Prop where
  /-- A record has a row, and one more for each newline that its device reports. -/
  length : rows.length = records.length + (records.flatMap Record.reported).count '\n'
  /-- The rows of a record stand together, and begin with its disk.  With the
  newlines between them they are its text, in which the vendor and the model stand
  as they are. -/
  blocks : ∃ blocks : List (List (List Char)), rows = blocks.flatten ∧
    List.Forall₂ (fun block record => ∃ rest more,
      block = (record.disk.toList ++ '\t' :: rest) :: more ∧
        more.length = record.reported.count '\n' ∧
        ['\n'].intercalate block = record.text.toList) blocks records
  /-- Without such newlines there is one row for each record.  It has its columns,
  and a field more for each tab that the device reports. -/
  single : (∀ record ∈ records, '\n' ∉ record.reported) →
    List.Forall₂ (fun row record => (∃ rest, row = record.disk.toList ++ '\t' :: rest) ∧
      (fields row).length = record.columns + record.reported.count '\t') rows records

theorem rowsOf_block {records : List Record}
    (hplain : ∀ record ∈ records, '\t' ∉ record.disk.toList ∧ '\n' ∉ record.disk.toList) :
    RowsOf records (records.flatMap Record.block) where
  length := by
    induction records with
    | nil => rfl
    | cons record rest ih =>
      rw [List.forall_mem_cons] at hplain
      rw [List.flatMap_cons, List.length_append, Record.length_block hplain.1.2, ih hplain.2,
        List.length_cons, List.flatMap_cons, List.count_append]
      omega
  blocks := by
    refine ⟨records.map Record.block, List.flatMap_def, ?_⟩
    refine List.forall₂_map_left_iff.2 (List.forall₂_same.2 fun record hmem => ?_)
    obtain ⟨rest, more, hblock⟩ := Record.exists_block (hplain record hmem).2
    have hlength := Record.length_block (hplain record hmem).2
    have hmore : more.length = record.reported.count '\n' := by
      rw [hblock, List.length_cons] at hlength
      omega
    exact ⟨rest, more, hblock, hmore, List.intercalate_splitOn '\n'⟩
  single hreported := by
    have hrows : records.flatMap Record.block = records.map fun record => record.text.toList := by
      rw [List.map_eq_flatMap, List.flatMap_def, List.flatMap_def]
      refine congrArg List.flatten (List.map_congr_left fun record hmem => ?_)
      refine List.splitOn_eq_singleton (List.count_eq_zero.1 ?_)
      rw [Record.count_newline (hplain record hmem).2]
      exact List.count_eq_zero_of_not_mem (hreported record hmem)
    rw [hrows]
    refine List.forall₂_map_left_iff.2 (List.forall₂_same.2 fun record hmem => ?_)
    refine ⟨⟨record.tail.toList, ?_⟩, ?_⟩
    · rw [Record.text, String.toList_append, String.toList_append, List.append_assoc]
      rfl
    · rw [fields, length_splitOn]
      exact Record.count_tab (hplain record hmem).1

/-- The rows for answers that are no errors, whatever the devices report. -/
theorem rows_of_answers {answers : Nat → Except QueryError Lookup} {arguments disks : List String}
    {timeout : Nat} (harguments : Options.ofArguments arguments = .ok ⟨disks, timeout, false⟩)
    (hreached : AllReached answers disks.length)
    (hplain : ∀ disk ∈ disks, '\t' ∉ disk.toList ∧ '\n' ∉ disk.toList) :
    ∃ (records : List Record) (stdout : String), Answered answers disks records ∧
      transcript answers arguments = (⟨0, stdout, ""⟩, disks.map fun disk => (timeout, disk)) ∧
      RowsOf records (lines stdout) := by
  obtain ⟨records, hanswered, hrows⟩ := exists_rows (Nat.le_refl disks.length) hreached
  rw [List.take_length] at hanswered
  have hrecords : ∀ record ∈ records, '\t' ∉ record.disk.toList ∧ '\n' ∉ record.disk.toList := by
    intro record hmem
    refine hplain record.disk ?_
    rw [← hanswered.disks]
    exact List.mem_map_of_mem hmem
  refine ⟨records, String.join (Record.rows records), hanswered, ?_, ?_⟩
  · rw [transcript_rows harguments, collecting_all hanswered hrows]
    rfl
  · rw [lines_join]
    exact rowsOf_block hrecords

/-- A tab in what the first of two devices reports is a field more. -/
theorem rows_of_answers_of_tab :
    let answers : Nat → Except QueryError Lookup := fun i =>
      if i = 0 then .ok (.described { vendor := some "A\tB" }) else .ok .notFound
    let arguments : List String := ["disk0", "disk1"]
    Options.ofArguments arguments = .ok ⟨arguments, 10, false⟩ ∧ AllReached answers 2 ∧
      (∀ disk ∈ arguments, '\t' ∉ disk.toList ∧ '\n' ∉ disk.toList) ∧
      (∃ (records : List Record) (stdout : String), Answered answers arguments records ∧
        transcript answers arguments = (⟨0, stdout, ""⟩, [(10, "disk0"), (10, "disk1")]) ∧
        RowsOf records (lines stdout)) ∧
      (lines (transcript answers arguments).1.stdout).map (fun row => (fields row).length) =
        [5, 2] := by
  intro answers arguments
  have harguments : Options.ofArguments arguments = .ok ⟨arguments, 10, false⟩ := by decide
  have hreached : AllReached answers 2 := by
    intro i _
    by_cases hi : i = 0
    · exact ⟨_, if_pos hi, nofun⟩
    · exact ⟨_, if_neg hi, nofun⟩
  have hplain : ∀ disk ∈ arguments, '\t' ∉ disk.toList ∧ '\n' ∉ disk.toList := by decide
  exact ⟨harguments, hreached, hplain, rows_of_answers harguments hreached hplain, by decide⟩

/-- A newline that a device reports forges a row. -/
theorem rows_forged :
    let host : Worker.Host :=
      { world := { disks := [⟨"d", some [(.deviceVendor, .text "A\nB")]⟩] } }
    hostAnswer host 10 "d" = .ok (.described { vendor := some "A\nB" }) ∧
      onHost host ["d"] = ⟨0, "d\tremovable: -\tvendor: A\nB\tmodel: -\n", ""⟩ ∧
      (lines (onHost host ["d"]).stdout).length ≠ ["d"].length := by
  decide

end DiskQuery.Command
