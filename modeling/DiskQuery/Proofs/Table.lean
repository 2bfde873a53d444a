import DiskQuery.Table

/-!
# Fresh keys

A table that gains an entry under a fresh key and loses it again is the table
of before, entry by entry.  The lemmas say when that is so, which entries each
operation keeps, and that a key has one entry.
-/

namespace DiskQuery.Table

variable {κ ν : Type}

theorem mem_keys_of_mem {table : Table κ ν} {entry : κ × ν} (h : entry ∈ table.entries) :
    entry.1 ∈ table.keys :=
  List.mem_map_of_mem h

theorem mem_filter {table : Table κ ν} {keep : κ → ν → Bool} {entry : κ × ν} :
    entry ∈ (table.filter keep).entries ↔ entry ∈ table.entries ∧ keep entry.1 entry.2 = true :=
  List.mem_filter

theorem keys_filter_sublist (table : Table κ ν) (keep : κ → ν → Bool) :
    (table.filter keep).keys.Sublist table.keys :=
  List.filter_sublist.map Prod.fst

/-- A filter that keeps every entry keeps the table. -/
theorem filter_eq_self {table : Table κ ν} {keep : κ → ν → Bool}
    (h : ∀ entry ∈ table.entries, keep entry.1 entry.2 = true) : table.filter keep = table := by
  rw [filter, List.filter_eq_self.2 h]

variable [DecidableEq κ]

theorem mem_of_find? {table : Table κ ν} {key : κ} {value : ν}
    (h : table.find? key = some value) : (key, value) ∈ table.entries := by
  obtain ⟨entries⟩ := table
  rw [find?] at h
  induction entries with
  | nil => simp at h
  | cons entry rest ih =>
    obtain ⟨k, v⟩ := entry
    rw [List.lookup_cons] at h
    by_cases hkey : key = k
    · subst hkey
      have hv : v = value := by simpa using h
      rw [hv]
      exact List.mem_cons_self
    · rw [beq_false_of_ne hkey] at h
      exact List.mem_cons_of_mem _ (ih h)

theorem mem_keys_of_find? {table : Table κ ν} {key : κ} {value : ν}
    (h : table.find? key = some value) : key ∈ table.keys :=
  mem_keys_of_mem (mem_of_find? h)

/-- A key that is not among the keys is not found. -/
theorem find?_of_notMem {table : Table κ ν} {key : κ} (h : key ∉ table.keys) :
    table.find? key = none := by
  cases hfind : table.find? key with
  | none => rfl
  | some value => exact absurd (mem_keys_of_find? hfind) h

/-- An entry that is found and kept is found again. -/
theorem find?_filter_of_keep {table : Table κ ν} {keep : κ → ν → Bool} {key : κ} {value : ν}
    (h : table.find? key = some value) (hkeep : keep key value = true) :
    (table.filter keep).find? key = some value := by
  obtain ⟨entries⟩ := table
  simp only [find?, filter] at h ⊢
  induction entries with
  | nil => cases h
  | cons entry rest ih =>
    obtain ⟨k, v⟩ := entry
    rw [List.lookup_cons] at h
    by_cases hkey : key = k
    · subst hkey
      have hv : v = value := by simpa using h
      subst hv
      rw [List.filter_cons_of_pos (by simp [hkeep]), List.lookup_cons_self]
    · rw [beq_false_of_ne hkey] at h
      cases hother : keep k v with
      | true =>
        rw [List.filter_cons_of_pos (by simp [hother]), List.lookup_cons, beq_false_of_ne hkey]
        exact ih h
      | false =>
        rw [List.filter_cons_of_neg (by simp [hother])]
        exact ih h

/-- Where a key has one entry, a filter keeps that entry or none. -/
theorem find?_filter {table : Table κ ν} (h : table.keys.Nodup) (keep : κ → ν → Bool) (key : κ) :
    (table.filter keep).find? key = (table.find? key).filter (keep key) := by
  obtain ⟨entries⟩ := table
  induction entries with
  | nil => rfl
  | cons entry rest ih =>
    obtain ⟨k, v⟩ := entry
    obtain ⟨hfresh, hrest⟩ : k ∉ (⟨rest⟩ : Table κ ν).keys ∧ (⟨rest⟩ : Table κ ν).keys.Nodup :=
      List.nodup_cons.1 h
    have hother := ih hrest
    have hgone : ((⟨rest⟩ : Table κ ν).filter keep).find? k = none :=
      find?_of_notMem fun hmem => hfresh ((keys_filter_sublist _ _).subset hmem)
    unfold find? filter at hother hgone ⊢
    by_cases hkey : key = k
    · subst hkey
      rw [List.lookup_cons_self]
      cases hkeep : keep key v with
      | true =>
        rw [List.filter_cons_of_pos (by simp [hkeep]), List.lookup_cons_self]
        exact (if_pos hkeep).symm
      | false =>
        rw [List.filter_cons_of_neg (by simp [hkeep]), hgone]
        exact (if_neg (by simp [hkeep])).symm
    · have hne : (key == k) = false := beq_false_of_ne hkey
      rw [List.lookup_cons, hne]
      cases hkeep : keep k v with
      | true =>
        rw [List.filter_cons_of_pos (by simp [hkeep]), List.lookup_cons, hne]
        exact hother
      | false =>
        rw [List.filter_cons_of_neg (by simp [hkeep])]
        exact hother

/-- Where no key is found there is no entry. -/
theorem size_eq_zero {table : Table κ ν} (h : ∀ key, table.find? key = none) :
    table.size = 0 := by
  obtain ⟨entries⟩ := table
  cases entries with
  | nil => rfl
  | cons entry rest =>
    have hfirst := h entry.1
    rw [find?, List.lookup_cons_self] at hfirst
    cases hfirst

/-! ## Erasing -/

theorem erase_of_notMem {table : Table κ ν} {key : κ} (h : key ∉ table.keys) :
    table.erase key = table := by
  refine filter_eq_self fun entry hmem => decide_eq_true ?_
  rintro rfl
  exact h (mem_keys_of_mem hmem)

theorem notMem_keys_erase (table : Table κ ν) (key : κ) : key ∉ (table.erase key).keys := by
  intro hmem
  obtain ⟨entry, hentry, hkey⟩ := List.mem_map.1 hmem
  have hkeep := (mem_filter.1 hentry).2
  exact of_decide_eq_true hkeep hkey

theorem nodup_keys_erase {table : Table κ ν} (h : table.keys.Nodup) (key : κ) :
    (table.erase key).keys.Nodup :=
  (keys_filter_sublist table _).nodup h

/-- Erasing a key that is there takes its entry away and no other. -/
theorem perm_erase {table : Table κ ν} {key : κ} {value : ν} (h : table.keys.Nodup)
    (hfind : table.find? key = some value) :
    table.entries.Perm ((key, value) :: (table.erase key).entries) := by
  obtain ⟨entries⟩ := table
  induction entries with
  | nil => cases hfind
  | cons entry rest ih =>
    obtain ⟨k, v⟩ := entry
    obtain ⟨hfresh, hrest⟩ : k ∉ (⟨rest⟩ : Table κ ν).keys ∧ (⟨rest⟩ : Table κ ν).keys.Nodup :=
      List.nodup_cons.1 h
    rw [find?, List.lookup_cons] at hfind
    by_cases hkey : key = k
    · subst hkey
      rw [beq_self_eq_true] at hfind
      cases hfind
      have hsame : rest.filter (fun entry => decide (entry.1 ≠ key)) = rest :=
        congrArg entries (erase_of_notMem hfresh)
      unfold erase filter
      rw [List.filter_cons_of_neg (by simp), hsame]
    · rw [beq_false_of_ne hkey] at hfind
      have hperm := ih hrest hfind
      unfold erase filter at hperm ⊢
      rw [List.filter_cons_of_pos (by simp [Ne.symm hkey])]
      exact (hperm.cons _).trans (.swap _ _ _)

/-- Erasing a key that is there takes one entry away. -/
theorem size_erase {table : Table κ ν} {key : κ} {value : ν} (h : table.keys.Nodup)
    (hfind : table.find? key = some value) : (table.erase key).size + 1 = table.size :=
  (perm_erase h hfind).length_eq.symm

/-! ## Inserting -/

/-- Inserting under a fresh key adds an entry in front. -/
theorem entries_insert_of_notMem {table : Table κ ν} {key : κ} (h : key ∉ table.keys)
    (value : ν) : (table.insert key value).entries = (key, value) :: table.entries := by
  rw [insert, erase_of_notMem h]

theorem find?_insert (table : Table κ ν) (key : κ) (value : ν) (other : κ) :
    (table.insert key value).find? other =
      if other = key then some value else table.find? other := by
  split
  · subst other
    exact find?_insert_self table key value
  · exact find?_insert_of_ne table value ‹_›

theorem mem_insert {table : Table κ ν} {key : κ} {value : ν} {entry : κ × ν}
    (h : entry ∈ (table.insert key value).entries) :
    entry = (key, value) ∨ entry ∈ table.entries := by
  rcases List.mem_cons.1 h with h | h
  · exact .inl h
  · exact .inr (mem_filter.1 h).1

theorem mem_keys_insert {table : Table κ ν} {key other : κ} {value : ν}
    (h : other ∈ (table.insert key value).keys) : other = key ∨ other ∈ table.keys := by
  obtain ⟨entry, hentry, rfl⟩ := List.mem_map.1 h
  rcases mem_insert hentry with rfl | hmem
  · exact .inl rfl
  · exact .inr (mem_keys_of_mem hmem)

theorem nodup_keys_insert {table : Table κ ν} (h : table.keys.Nodup) (key : κ) (value : ν) :
    (table.insert key value).keys.Nodup :=
  List.nodup_cons.2 ⟨notMem_keys_erase table key, nodup_keys_erase h key⟩

/-- A filter that drops an inserted entry, and the old one that it took the
place of, is the filter of the table before. -/
theorem filter_insert_of_dropped {table : Table κ ν} {keep : κ → ν → Bool} {key : κ} {value : ν}
    (hnew : keep key value = false)
    (hold : ∀ entry ∈ table.entries, entry.1 = key → keep entry.1 entry.2 = false) :
    (table.insert key value).filter keep = table.filter keep := by
  have hkept : ∀ entry ∈ table.entries,
      (keep entry.1 entry.2 && decide (entry.1 ≠ key)) = keep entry.1 entry.2 := by
    intro entry hmem
    by_cases hkey : entry.1 = key
    · rw [hold entry hmem hkey, Bool.false_and]
    · rw [decide_eq_true hkey, Bool.and_true]
  unfold insert erase filter
  rw [List.filter_cons_of_neg (by simp [hnew]), List.filter_filter, List.filter_congr hkept]

/-- Erasing a fresh key that was inserted gives the table of before. -/
theorem erase_insert_of_notMem {table : Table κ ν} {key : κ} (h : key ∉ table.keys)
    (value : ν) : (table.insert key value).erase key = table := by
  have herase := congrArg entries (erase_of_notMem h)
  obtain ⟨entries⟩ := table
  rw [erase, filter, entries_insert_of_notMem h]
  simp only [erase, filter] at herase
  simp only [List.filter_cons, ne_eq, not_true_eq_false, decide_false, Bool.false_eq_true,
    if_false]
  rw [herase]

end DiskQuery.Table
