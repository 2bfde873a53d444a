import DiskQuery.Command.Host
import Mathlib.Data.List.Basic

/-!
# The disks that a command asks for

The command asks for one disk after another until it cannot go on.  It asks for
no disk behind the one that stopped it, and what it kept is what it kept of the
disks before that one.

There are three groups.

* Asking.  `asking` answers the command and writes down what it is asked.
  `collecting_append` passes over the disks that the command goes on after, and
  `collecting_all` and `collecting_stop` are the two ways to end.
* Records.  `exists_records` finds the records of answers, and `first_or_all` the
  first answer that is no record.
* Command lines.  `transcript` is a run of the command on a list of answers.
  `onHost_eq_transcript` says that the command on a host is such a run.
-/

namespace DiskQuery.Command

/-! ## Asking -/

/-- Answers the asks one after another by `answers`, and writes down what was
asked: the seconds to wait, and the disk. -/
def asking (answers : Nat → Except QueryError Lookup) (seconds : Nat) (disk : String) :
    StateM (List (Nat × String)) (Except QueryError Lookup) :=
  modifyGet fun asked => (answers asked.length, asked ++ [(seconds, disk)])

/-- What is kept of the disks, and the failure, if there is one.  `asked` was asked
before. -/
def collecting {β : Type} (keep : Record → Option β) (answers : Nat → Except QueryError Lookup)
    (seconds : Nat) (disks : List String) (asked : List (Nat × String)) :
    (List β × Option Failure) × List (Nat × String) :=
  ((collect (asking answers seconds) keep disks).run asked).run

/-- The command cannot go on after an answer, and fails so. -/
inductive Stops {β : Type} (keep : Record → Option β) (disk : String) :
    Except QueryError Lookup → Failure → Prop where
  | error (error : QueryError) : Stops keep disk (.error error) (.query disk error)
  | dropped {lookup : Lookup} (hdropped : keep ⟨disk, lookup⟩ = none) :
      Stops keep disk (.ok lookup) .unavailable

/-- The records are the answers for the disks. -/
structure Answered (answers : Nat → Except QueryError Lookup) (disks : List String)
    (records : List Record) : Prop where
  disks : records.map Record.disk = disks
  answers : ∀ (i : Nat) (h : i < records.length), answers i = .ok records[i].lookup

section Asking

variable {β : Type} {keep : Record → Option β} {answers : Nat → Except QueryError Lookup}
  {seconds : Nat} {disk : String} {rest disks : List String} {asked : List (Nat × String)}

theorem length_concat_add (asked : List (Nat × String)) (ask : Nat × String) (i : Nat) :
    (asked ++ [ask]).length + i = asked.length + (i + 1) := by
  rw [List.length_append, List.length_singleton, Nat.add_assoc, Nat.add_comm 1 i]

/-- The command goes on after a record that it keeps something of. -/
theorem collecting_cons {lookup : Lookup} {kept : β} (hanswer : answers asked.length = .ok lookup)
    (hkept : keep ⟨disk, lookup⟩ = some kept) :
    collecting keep answers seconds (disk :: rest) asked =
      let ended := collecting keep answers seconds rest (asked ++ [(seconds, disk)])
      ((kept :: ended.1.1, ended.1.2), ended.2) := by
  simp [collecting, collect, asking, hanswer, hkept]

/-- The command asks for no disk after the one that stops it. -/
theorem collecting_stops {failure : Failure}
    (hstops : Stops keep disk (answers asked.length) failure) :
    collecting keep answers seconds (disk :: rest) asked =
      (([], some failure), asked ++ [(seconds, disk)]) := by
  generalize hanswer : answers asked.length = answer at hstops
  cases hstops with
  | error error => simp [collecting, collect, asking, hanswer]
  | dropped hdropped => simp [collecting, collect, asking, hanswer, hdropped]

/-- The command passes over the disks whose records it keeps something of. -/
theorem collecting_append {records : List Record} {kept : List β}
    (hkept : records.map keep = kept.map some)
    (hanswers : ∀ (i : Nat) (h : i < records.length),
      answers (asked.length + i) = .ok records[i].lookup) :
    collecting keep answers seconds (records.map Record.disk ++ rest) asked =
      let ended := collecting keep answers seconds rest
        (asked ++ records.map fun record => (seconds, record.disk))
      ((kept ++ ended.1.1, ended.1.2), ended.2) := by
  induction records generalizing kept asked with
  | nil =>
    cases List.map_eq_nil_iff.1 hkept.symm
    rw [List.map_nil, List.map_nil, List.append_nil]
    rfl
  | cons record records ih =>
    cases kept with
    | nil => cases hkept
    | cons first kept =>
      rw [List.map_cons, List.map_cons, List.cons_eq_cons] at hkept
      have hfirst : answers asked.length = .ok record.lookup := hanswers 0 (Nat.zero_lt_succ _)
      have hothers : ∀ (i : Nat) (h : i < records.length),
          answers ((asked ++ [(seconds, record.disk)]).length + i) = .ok records[i].lookup := by
        intro i h
        rw [length_concat_add]
        exact hanswers (i + 1) (Nat.succ_lt_succ h)
      rw [List.map_cons, List.cons_append, collecting_cons hfirst hkept.1, ih hkept.2 hothers,
        List.map_cons, List.append_assoc]
      rfl

/-- The same for the first disks. -/
theorem collecting_answered (seconds : Nat) {records : List Record} {kept : List β}
    (h : Answered answers disks records) (hkept : records.map keep = kept.map some)
    (rest : List String) :
    collecting keep answers seconds (disks ++ rest) [] =
      let ended := collecting keep answers seconds rest (disks.map fun disk => (seconds, disk))
      ((kept ++ ended.1.1, ended.1.2), ended.2) := by
  obtain ⟨rfl, hanswers⟩ := h
  have hfirst : ∀ (i : Nat) (h : i < records.length),
      answers (([] : List (Nat × String)).length + i) = .ok records[i].lookup := by
    intro i hi
    rw [List.length_nil, Nat.zero_add]
    exact hanswers i hi
  rw [collecting_append hkept hfirst, List.nil_append, List.map_map]
  rfl

/-- Something is kept of the record of every disk. -/
theorem collecting_all {records : List Record} {kept : List β}
    (h : Answered answers disks records) (hkept : records.map keep = kept.map some) :
    collecting keep answers seconds disks [] =
      ((kept, none), disks.map fun disk => (seconds, disk)) := by
  have hall : collecting keep answers seconds (disks ++ []) [] =
      ((kept ++ [], none), disks.map fun disk => (seconds, disk)) :=
    collecting_answered seconds h hkept []
  rwa [List.append_nil, List.append_nil] at hall

/-- A disk stops the command after disks that it keeps something of. -/
theorem collecting_stop {records : List Record} {kept : List β} {failure : Failure} {i : Nat}
    (hi : i < disks.length) (h : Answered answers (disks.take i) records)
    (hkept : records.map keep = kept.map some) (hstops : Stops keep disks[i] (answers i) failure) :
    collecting keep answers seconds disks [] =
      ((kept, some failure), (disks.take (i + 1)).map fun disk => (seconds, disk)) := by
  have hlast : Stops keep disks[i]
      (answers ((disks.take i).map fun disk => (seconds, disk)).length) failure := by
    rw [List.length_map, List.length_take, Nat.min_eq_left (Nat.le_of_lt hi)]
    exact hstops
  have hanswered := collecting_answered seconds h hkept (disks[i] :: disks.drop (i + 1))
  rw [collecting_stops hlast, ← List.drop_eq_getElem_cons hi, List.take_append_drop] at hanswered
  rw [hanswered, List.take_succ_eq_append_getElem hi, List.map_append]
  show ((kept ++ [], some failure),
    ((disks.take i).map fun disk => (seconds, disk)) ++ [(seconds, disks[i])]) = _
  rw [List.append_nil]
  rfl

/-- An ask that needs no state comes to what its answers come to one after
another. -/
theorem collect_eq_collecting (keep : Record → Option β) (seconds : Nat)
    (ask : String → Except QueryError Lookup)
    (hanswers : ∀ (i : Nat) (h : i < disks.length), answers (asked.length + i) = ask disks[i]) :
    Id.run (collect (fun disk => pure (ask disk)) keep disks) =
      (collecting keep answers seconds disks asked).1 := by
  induction disks generalizing asked with
  | nil => rfl
  | cons disk rest ih =>
    have hfirst : answers asked.length = ask disk := hanswers 0 (Nat.zero_lt_succ _)
    have hothers : ∀ (i : Nat) (h : i < rest.length),
        answers ((asked ++ [(seconds, disk)]).length + i) = ask rest[i] := by
      intro i h
      rw [length_concat_add]
      exact hanswers (i + 1) (Nat.succ_lt_succ h)
    have hrest := ih hothers
    cases hask : ask disk with
    | error error =>
      have hstops : Stops keep disk (answers asked.length) (.query disk error) := by
        rw [hfirst, hask]
        exact .error error
      rw [collecting_stops hstops]
      simp [collect, hask]
    | ok lookup =>
      cases hkept : keep ⟨disk, lookup⟩ with
      | none =>
        have hstops : Stops keep disk (answers asked.length) .unavailable := by
          rw [hfirst, hask]
          exact .dropped hkept
        rw [collecting_stops hstops]
        simp [collect, hask, hkept]
      | some kept =>
        rw [collecting_cons (hfirst.trans hask) hkept]
        simp [collect, hask, hkept, hrest]

end Asking

/-! ## Records -/

/-- Answers before the first that is none are records. -/
theorem exists_records {answers : Nat → Except QueryError Lookup} {disks : List String}
    {count : Nat} (hcount : count ≤ disks.length)
    (h : ∀ i < count, ∃ lookup, answers i = .ok lookup) :
    ∃ records, Answered answers (disks.take count) records := by
  induction count with
  | zero => exact ⟨[], rfl, fun i hi => absurd hi (Nat.not_lt_zero i)⟩
  | succ count ih =>
    obtain ⟨records, hdisks, hanswers⟩ :=
      ih (Nat.le_of_succ_le hcount) fun i hi => h i (Nat.lt_succ_of_lt hi)
    obtain ⟨lookup, hlookup⟩ := h count (Nat.lt_succ_self count)
    have hlength : records.length = count := by
      rw [← List.length_map Record.disk, hdisks, List.length_take, Nat.min_eq_left (by omega)]
    refine ⟨records ++ [⟨disks[count], lookup⟩], ?_, fun i hi => ?_⟩
    · rw [List.map_append, hdisks, List.take_succ_eq_append_getElem hcount]
      rfl
    · rw [List.length_append, List.length_singleton] at hi
      rcases Nat.lt_or_ge i records.length with hbefore | hlast
      · rw [List.getElem_append_left hbefore]
        exact hanswers i hbefore
      · obtain rfl : i = count := by omega
        rw [List.getElem_append_right hlast, List.getElem_singleton]
        exact hlookup

/-- Either all of the first have the property, or there is a first one without. -/
theorem first_or_all (p : Nat → Prop) (count : Nat) :
    (∀ i < count, p i) ∨ ∃ i < count, ¬p i ∧ ∀ j < i, p j := by
  induction count with
  | zero => exact .inl fun i hi => absurd hi (Nat.not_lt_zero i)
  | succ count ih =>
    rcases ih with hall | ⟨i, hi, hfirst⟩
    · by_cases hlast : p count
      · refine .inl fun i hi => ?_
        rcases Nat.lt_succ_iff_lt_or_eq.1 hi with hbefore | rfl
        · exact hall i hbefore
        · exact hlast
      · exact .inr ⟨count, Nat.lt_succ_self count, hlast, hall⟩
    · exact .inr ⟨i, Nat.lt_succ_of_lt hi, hfirst⟩

/-! ## Command lines -/

/-- What the command leaves behind and what it asked, if the asks are answered
one after another by `answers`. -/
def transcript (answers : Nat → Except QueryError Lookup) (arguments : List String) :
    Output × List (Nat × String) :=
  ((run (asking answers) arguments).run []).run

/-- What a host finds for a disk within so many seconds. -/
def hostAnswer (host : Worker.Host) (seconds : Nat) (disk : String) :
    Except QueryError Lookup :=
  (host.queryWithin (.ofText disk) (.ofSeconds seconds)).result

/-- Every list of disks has a command line, also disks that look like options. -/
theorem ofArguments_mark {disks : List String} (hne : disks ≠ []) :
    Options.ofArguments ("--" :: disks) = .ok ⟨disks, defaultTimeout, false⟩ ∧
      Options.ofArguments ("--json" :: "--" :: disks) = .ok ⟨disks, defaultTimeout, true⟩ := by
  cases disks with
  | nil => exact absurd rfl hne
  | cons disk rest => exact ⟨rfl, rfl⟩

section Transcript

variable {answers : Nat → Except QueryError Lookup} {arguments disks : List String} {timeout : Nat}

/-- The transcript of a command line that asks for rows. -/
theorem transcript_rows (h : Options.ofArguments arguments = .ok ⟨disks, timeout, false⟩) :
    transcript answers arguments =
      let ended := collecting Record.row? answers timeout disks []
      (.ofRows ended.1.1 ended.1.2, ended.2) := by
  unfold transcript run
  rw [h]
  rfl

/-- The transcript of a command line that asks for JSON. -/
theorem transcript_records (h : Options.ofArguments arguments = .ok ⟨disks, timeout, true⟩) :
    transcript answers arguments =
      let ended := collecting some answers timeout disks []
      (.ofRecords ended.1.1 ended.1.2, ended.2) := by
  unfold transcript run
  rw [h]
  rfl

/-- The command on a host is answered by what the host finds for each disk. -/
theorem onHost_eq_transcript {host : Worker.Host} {json : Bool}
    (h : Options.ofArguments arguments = .ok ⟨disks, timeout, json⟩)
    (hanswers : ∀ (i : Nat) (hi : i < disks.length),
      answers i = hostAnswer host timeout disks[i]) :
    onHost host arguments = (transcript answers arguments).1 := by
  have hfirst : ∀ (i : Nat) (hi : i < disks.length),
      answers (([] : List (Nat × String)).length + i) = hostAnswer host timeout disks[i] := by
    intro i hi
    rw [List.length_nil, Nat.zero_add]
    exact hanswers i hi
  unfold onHost
  cases json with
  | false =>
    have hcollect := collect_eq_collecting Record.row? timeout _ hfirst
    rw [transcript_rows h, run, h]
    exact congrArg (fun ended => Output.ofRows ended.1 ended.2) hcollect
  | true =>
    have hcollect := collect_eq_collecting some timeout _ hfirst
    rw [transcript_records h, run, h]
    exact congrArg (fun ended => Output.ofRecords ended.1 ended.2) hcollect

end Transcript

end DiskQuery.Command
