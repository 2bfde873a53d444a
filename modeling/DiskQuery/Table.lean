/-!
# Tables

A finite map as a list of its entries.  A key has one entry: `insert` takes
an old entry of the key away.  Order carries no meaning, but it is kept, so a
table from which a fresh entry is erased again is the very table of before.

The lemmas say what each operation does to `find?`.
-/

namespace DiskQuery

/-- A finite map. -/
structure Table (κ ν : Type) where
  entries : List (κ × ν) := []
deriving DecidableEq, Repr

namespace Table

variable {κ ν : Type}

/-- The number of entries. -/
def size (table : Table κ ν) : Nat :=
  table.entries.length

/-- The keys, in order. -/
def keys (table : Table κ ν) : List κ :=
  table.entries.map Prod.fst

/-- Keeps the entries that satisfy `keep`. -/
def filter (table : Table κ ν) (keep : κ → ν → Bool) : Table κ ν :=
  ⟨table.entries.filter fun entry => keep entry.1 entry.2⟩

variable [DecidableEq κ]

/-- The value of a key. -/
def find? (table : Table κ ν) (key : κ) : Option ν :=
  table.entries.lookup key

/-- Takes the entry of a key away. -/
def erase (table : Table κ ν) (key : κ) : Table κ ν :=
  table.filter fun k _ => decide (k ≠ key)

/-- Gives a key its value, in place of any other. -/
def insert (table : Table κ ν) (key : κ) (value : ν) : Table κ ν :=
  ⟨(key, value) :: (table.erase key).entries⟩

/-- Only the keys decide what a filter by keys leaves of a look-up. -/
theorem find?_filter_key (table : Table κ ν) (keep : κ → Bool) (key : κ) :
    (table.filter fun k _ => keep k).find? key =
      if keep key then table.find? key else none := by
  obtain ⟨entries⟩ := table
  simp only [find?, filter]
  induction entries with
  | nil => simp
  | cons entry rest ih =>
      obtain ⟨k, v⟩ := entry
      by_cases hkey : key = k
      · subst hkey
        cases hkeep : keep key
        · simpa [hkeep] using ih
        · simp [hkeep]
      · have hne : (key == k) = false := beq_false_of_ne hkey
        cases hkeep : keep k
        · rw [List.filter_cons_of_neg (by simp [hkeep]), List.lookup_cons, hne]
          exact ih
        · rw [List.filter_cons_of_pos (by simp [hkeep]), List.lookup_cons,
            List.lookup_cons, hne]
          exact ih

@[simp] theorem find?_erase_self (table : Table κ ν) (key : κ) :
    (table.erase key).find? key = none := by
  simp [erase, find?_filter_key]

theorem find?_erase_of_ne (table : Table κ ν) {key other : κ} (h : other ≠ key) :
    (table.erase key).find? other = table.find? other := by
  simp [erase, find?_filter_key, h]

@[simp] theorem find?_insert_self (table : Table κ ν) (key : κ) (value : ν) :
    (table.insert key value).find? key = some value := by
  simp [insert, find?]

theorem find?_insert_of_ne (table : Table κ ν) {key other : κ} (value : ν)
    (h : other ≠ key) : (table.insert key value).find? other = table.find? other := by
  rw [← find?_erase_of_ne table h]
  simp only [insert, find?, List.lookup_cons, beq_false_of_ne h]

end Table

end DiskQuery
