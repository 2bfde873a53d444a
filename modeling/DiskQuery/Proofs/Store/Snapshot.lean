import DiskQuery.Proofs.Store.Finality

/-!
# Dictionaries are snapshots

A new dictionary takes a reference for itself and one for each entry of the
description, in order.  It shows the description as it is until it is given back,
whatever else becomes of the store.

There are four groups.

* Last places.  Of several entries of one key a look-up finds the last one
  (`LastAt`).
* Records.  `Records` ties the tables of a store to the places of the entries, and
  `filled_describe` follows the loop that makes a dictionary.
* Time.  `Records.later` keeps it while the dictionary is alive, and
  `find?_owned_serve` keeps the dictionary alive.
* The result.  `Pictures` is how a dictionary answers for a list of entries, and
  `snapshot_copyDescription` says that it does so until its release.
-/

namespace DiskQuery.Store

/-! ## Last places -/

/-- The last place of a key. -/
def LastAt (keys : List Key) (key : Key) (place : Nat) : Prop :=
  keys[place]? = some key ∧ ∀ later > place, keys[later]? ≠ some key

theorem LastAt.unique {keys : List Key} {key : Key} {first second : Nat}
    (hfirst : LastAt keys key first) (hsecond : LastAt keys key second) : first = second := by
  rcases Nat.lt_trichotomy first second with hlt | heq | hlt
  · exact absurd hsecond.1 (hfirst.2 second hlt)
  · exact heq
  · exact absurd hfirst.1 (hsecond.2 first hlt)

theorem LastAt.lt_length {keys : List Key} {key : Key} {place : Nat} (h : LastAt keys key place) :
    place < keys.length :=
  (List.getElem?_eq_some_iff.1 h.1).1

/-- One more key is the last of its kind, and leaves the others where they
are. -/
theorem lastAt_concat {keys : List Key} {new key : Key} {place : Nat} :
    LastAt (keys ++ [new]) key place ↔
      if new = key then place = keys.length else LastAt keys key place := by
  have hlast : (keys ++ [new])[keys.length]? = some new := List.getElem?_concat_length
  have hbefore : ∀ {i : Nat}, i < keys.length → (keys ++ [new])[i]? = keys[i]? :=
    fun h => List.getElem?_append_left h
  have hbeyond : ∀ {i : Nat}, keys.length < i → (keys ++ [new])[i]? = none := by
    intro i hi
    rw [List.getElem?_eq_none_iff, List.length_append, List.length_singleton]
    omega
  by_cases hnew : new = key
  · subst hnew
    rw [if_pos rfl]
    constructor
    · intro h
      exact h.unique ⟨hlast, fun later hlater => by simp [hbeyond hlater]⟩
    · rintro rfl
      exact ⟨hlast, fun later hlater => by simp [hbeyond hlater]⟩
  · rw [if_neg hnew]
    have hsame : ∀ i : Nat, (keys ++ [new])[i]? = some key ↔ keys[i]? = some key := by
      intro i
      rcases Nat.lt_trichotomy i keys.length with hlt | rfl | hlt
      · rw [hbefore hlt]
      · simp [hnew]
      · simp [hbeyond hlt, List.getElem?_eq_none (Nat.le_of_lt hlt)]
    simp only [LastAt, hsame, ne_eq]

theorem exists_lastAt {keys : List Key} {key : Key} (h : key ∈ keys) :
    ∃ place, LastAt keys key place := by
  induction keys using List.reverseRecOn with
  | nil => cases h
  | append_singleton keys new ih =>
    by_cases hnew : new = key
    · exact ⟨keys.length, lastAt_concat.2 (by rw [if_pos hnew])⟩
    · have hmem : key ∈ keys := by simpa [Ne.symm hnew] using h
      obtain ⟨place, hplace⟩ := ih hmem
      exact ⟨place, lastAt_concat.2 (by rwa [if_neg hnew])⟩

/-! ## Records -/

/-- The tables hold the entries of a dictionary, each value under the number of its
place. -/
structure Records (store : Store) (dictionary : Nat) (entries : List (Key × Value)) : Prop where
  live : ∃ name, store.owned.find? dictionary = some (.dictionary name)
  absent : ∀ key, key ∉ entries.map Prod.fst → store.entries.find? (dictionary, key) = none
  present : ∀ key place, LastAt (entries.map Prod.fst) key place →
    store.entries.find? (dictionary, key) = some (dictionary + 1 + place)
  value : ∀ place entry, entries[place]? = some entry →
    store.values.find? (dictionary + 1 + place) = some ⟨dictionary, entry.2⟩

namespace Records

variable {store : Store} {dictionary : Nat} {entries : List (Key × Value)}

theorem find?_entries_eq_none_iff (h : Records store dictionary entries) {key : Key} :
    store.entries.find? (dictionary, key) = none ↔ key ∉ entries.map Prod.fst := by
  refine ⟨fun hnone hmem => ?_, h.absent key⟩
  obtain ⟨place, hlast⟩ := exists_lastAt hmem
  rw [h.present key place hlast] at hnone
  cases hnone

theorem find?_entries_eq_some_iff (h : Records store dictionary entries) {key : Key}
    {place : Nat} :
    store.entries.find? (dictionary, key) = some (dictionary + 1 + place) ↔
      LastAt (entries.map Prod.fst) key place := by
  refine ⟨fun hsome => ?_, h.present key place⟩
  have hmem : key ∈ entries.map Prod.fst := by
    by_contra hnotMem
    rw [h.absent key hnotMem] at hsome
    cases hsome
  obtain ⟨other, hlast⟩ := exists_lastAt hmem
  rw [h.present key other hlast] at hsome
  have hsame : other = place := by
    have := Option.some.inj hsome
    omega
  rwa [hsame] at hlast

end Records

/-- The dictionary was made last, and has no other values. -/
structure Filled (store : Store) (dictionary : Nat) (entries : List (Key × Value)) : Prop
    extends Records store dictionary entries where
  next_eq : store.next = dictionary + entries.length
  only : ∀ reference stored, store.values.find? reference = some stored →
    stored.dictionary = dictionary → ∃ place < entries.length, reference = dictionary + 1 + place

/-- A dictionary without entries yet is filled with none. -/
theorem filled_create {store : Store} (h : Sound store) (name : String) :
    Filled (store.create (.dictionary name)) (store.next + 1) [] where
  live := ⟨name, Table.find?_insert_self _ _ _⟩
  absent key _ := by
    obtain ⟨-, -, hentries⟩ := h.find?_of_next_lt (Nat.lt_succ_self _)
    exact hentries key
  present key place hlast := by
    have := hlast.lt_length
    cases this
  value place entry hentry := by cases hentry
  next_eq := rfl
  only reference stored hfind hdictionary := by
    obtain ⟨other, hlive⟩ := h.value_dictionary _ (Table.mem_of_find? hfind)
    have hle := h.le_of_find? hlive
    dsimp only at hle
    omega

/-- One more entry has the next number. -/
theorem Filled.addEntry {store : Store} {dictionary : Nat} {entries : List (Key × Value)}
    (h : Filled store dictionary entries) (entry : Key × Value) :
    Filled (store.addEntry dictionary entry) dictionary (entries ++ [entry]) where
  live := h.live
  absent key hnotMem := by
    rw [List.map_append, List.mem_append, not_or] at hnotMem
    have hother : (dictionary, key) ≠ (dictionary, entry.1) := by simpa using hnotMem.2
    exact (Table.find?_insert_of_ne _ _ hother).trans (h.absent key hnotMem.1)
  present key place hlast := by
    have hnext := h.next_eq
    rw [List.map_append, List.map_singleton, lastAt_concat, List.length_map] at hlast
    split at hlast
    · subst hlast
      subst key
      have hnumber : dictionary + 1 + entries.length = store.next + 1 := by omega
      rw [hnumber]
      exact Table.find?_insert_self _ _ _
    · have hother : (dictionary, key) ≠ (dictionary, entry.1) := by simpa using Ne.symm ‹_›
      exact (Table.find?_insert_of_ne _ _ hother).trans (h.present key place hlast)
  value place other hother := by
    have hnext := h.next_eq
    rw [List.getElem?_append] at hother
    split at hother
    · have hold : dictionary + 1 + place ≠ store.next + 1 := by omega
      exact (Table.find?_insert_of_ne _ _ hold).trans (h.value place other hother)
    · rw [List.getElem?_singleton] at hother
      split at hother
      · cases hother
        have hnumber : dictionary + 1 + place = store.next + 1 := by omega
        rw [hnumber]
        exact Table.find?_insert_self _ _ _
      · cases hother
  next_eq := by
    have hnext := h.next_eq
    rw [List.length_append, List.length_singleton]
    change store.next + 1 = _
    omega
  only reference stored hfind hdictionary := by
    have hnext := h.next_eq
    rw [Store.addEntry, Table.find?_insert] at hfind
    rw [List.length_append, List.length_singleton]
    split at hfind
    · exact ⟨entries.length, by omega, by omega⟩
    · obtain ⟨place, hplace, hreference⟩ := h.only reference stored hfind hdictionary
      exact ⟨place, by omega, hreference⟩

theorem Filled.foldl_addEntry {store : Store} {dictionary : Nat} {entries : List (Key × Value)}
    (h : Filled store dictionary entries) (more : List (Key × Value)) :
    Filled (more.foldl (Store.addEntry dictionary) store) dictionary (entries ++ more) := by
  induction more generalizing store entries with
  | nil => rwa [List.append_nil]
  | cons entry rest ih =>
    have hrest := ih (h.addEntry entry)
    rwa [List.append_assoc, List.singleton_append] at hrest

theorem filled_describe {store : Store} (h : Sound store) (name : String)
    (entries : List (Key × Value)) :
    Filled (store.describe name entries) (store.next + 1) entries :=
  (filled_create h name).foldl_addEntry entries

/-! ## Time -/

/-- What a live dictionary records stays. -/
theorem Records.later {store last : Store} {dictionary : Nat} {entries : List (Key × Value)}
    (h : Records store dictionary entries) (hsound : Sound store) (hlater : Later store last)
    (hlive : last.owned.find? dictionary ≠ none) : Records last dictionary entries := by
  obtain ⟨name, hname⟩ := h.live
  have hle := hsound.le_of_find? hname
  constructor
  · exact ⟨name, (hlater.owned_eq hlive hle).trans hname⟩
  · intro key hnotMem
    exact (hlater.entries_eq hlive hle key).trans (h.absent key hnotMem)
  · intro key place hlast
    exact (hlater.entries_eq hlive hle key).trans (h.present key place hlast)
  · intro place entry hentry
    exact hlater.values_eq hlive hsound (h.value place entry hentry)

/-- A reference that no call gives back stays as it is. -/
theorem find?_owned_serve (world : World) {store : Store} (h : Numbered store) {reference : Nat}
    (hle : reference ≤ store.next) {calls : List (Call Nat)}
    (hkept : .release reference ∉ calls) :
    (serve world calls store).2.owned.find? reference = store.owned.find? reference := by
  induction calls generalizing store with
  | nil => rfl
  | cons call calls ih =>
    obtain ⟨hcall, hcalls⟩ := not_or.1 (mt List.mem_cons.2 hkept)
    have hstep := transition_answer world store call
    have hlater := (Later.transition h hstep).next_le
    have hrest := ih (h.transition hstep) (Nat.le_trans hle hlater) hcalls
    refine hrest.trans (hstep.find?_owned_eq hle fun hreleased => hcall ?_)
    cases call with
    | release other =>
      cases hreleased
      rfl
    | createSession | createDisk | copyDescription | value | boolean | textLength | maxSize
    | copyText => cases hreleased

/-! ## The result -/

/-- How a dictionary answers for a list of entries: a look-up finds the last entry
of its key, and each value reads as its entry, whether a look-up finds it or
not. -/
structure Pictures (world : World) (store : Store) (dictionary : Nat)
    (entries : List (Key × Value)) : Prop where
  found_iff : ∀ key place,
    answer world (.value dictionary key) store = (.ok (some (dictionary + 1 + place)), store) ↔
      LastAt (entries.map Prod.fst) key place
  missing_iff : ∀ key, answer world (.value dictionary key) store = (.ok none, store) ↔
    key ∉ entries.map Prod.fst
  reads : ∀ place entry, entries[place]? = some entry →
    ReadsAs world store (dictionary + 1 + place) (.ok entry.2)

theorem Records.pictures {store : Store} {dictionary : Nat} {entries : List (Key × Value)}
    (h : Records store dictionary entries) (world : World) :
    Pictures world store dictionary entries := by
  obtain ⟨name, hlive⟩ := h.live
  have hvalue : ∀ key answered, answer world (.value dictionary key) store =
      (.ok answered, store) ↔ store.entries.find? (dictionary, key) = answered := by
    intro key answered
    rw [answer_value world hlive, Prod.mk.injEq, Except.ok.injEq, and_iff_left rfl]
  constructor
  · intro key place
    rw [hvalue, h.find?_entries_eq_some_iff]
  · intro key
    rw [hvalue, h.find?_entries_eq_none_iff]
  · intro place entry hentry
    have hread := readsAs_expectValue world store (dictionary + 1 + place)
    rwa [expectValue_of_find? hlive (h.value place entry hentry)] at hread

/-- What a description of a live disk is, after the calls `history` that led to
`store`. -/
structure Snapshot (world : World) (history : List (Exchange Nat)) (store : Store) (disk : Nat)
    (entries : List (Key × Value)) : Prop where
  handed : (answer world (.copyDescription disk) store).1 = .ok (some (store.next + 1))
  /-- The reference is a new one, and so are those of its values. -/
  fresh : ∀ reference > store.next, ¬store.Stands reference ∧
    ∀ exchange ∈ history, exchange.handed? ≠ some reference
  next_eq : (answer world (.copyDescription disk) store).2.next =
    store.next + (1 + entries.length)
  values_iff : ∀ reference value,
    (answer world (.copyDescription disk) store).2.values.find? reference =
        some ⟨store.next + 1, value⟩ ↔
      ∃ place key, entries[place]? = some (key, value) ∧
        reference = store.next + 1 + 1 + place
  lasting : ∀ calls, .release (store.next + 1) ∉ calls →
    Pictures world (serve world calls (answer world (.copyDescription disk) store).2).2
      (store.next + 1) entries

/-- A description that is asked for after any calls is a snapshot. -/
theorem snapshot_copyDescription {world : World} {calls : List (Call Nat)} {disk : Nat}
    {name : String} {entries : List (Key × Value)}
    (hdisk : (serve world calls {}).2.owned.find? disk = some (.disk name))
    (hentries : world.description? name = some entries) :
    Snapshot world (serve world calls {}).1 (serve world calls {}).2 disk entries := by
  have hstore := represents_serve world calls
  have hhanded : ∀ exchange ∈ (serve world calls {}).1, ∀ old, exchange.handed? = some old →
      old ≤ (serve world calls {}).2.next :=
    fun exchange hmem old hold => le_of_mem_serve .empty hmem hold
  generalize (serve world calls {}).1 = history at *
  generalize (serve world calls {}).2 = store at *
  have hanswer := answer_copyDescription hdisk hentries
  have hfilled := filled_describe hstore.toSound name entries
  have hmade : Numbered (store.describe name entries) := hstore.toNumbered.describe name entries
  constructor
  · rw [hanswer]
  · intro reference hnew
    refine ⟨fun hstands => ?_, fun exchange hmem hold => ?_⟩
    · have := hstore.toSound.le_of_stands hstands
      omega
    · have := hhanded exchange hmem reference hold
      omega
  · rw [hanswer, hfilled.next_eq]
    omega
  · intro reference value
    rw [hanswer]
    constructor
    · intro hfind
      obtain ⟨place, hplace, rfl⟩ := hfilled.only reference _ hfind rfl
      have hentry : entries[place]? = some entries[place] := List.getElem?_eq_getElem hplace
      have hvalue := hfilled.value place _ hentry
      rw [hfind] at hvalue
      cases hvalue
      exact ⟨place, _, hentry, rfl⟩
    · rintro ⟨place, key, hentry, rfl⟩
      exact hfilled.value place (key, value) hentry
  · intro more hkept
    rw [hanswer]
    obtain ⟨owner, hlive⟩ := hfilled.live
    have hle := hmade.toSound.le_of_find? hlive
    have hlater := Later.serve world hmade more
    have halive := find?_owned_serve world hmade hle hkept
    refine (hfilled.toRecords.later hmade.toSound hlater ?_).pictures world
    rw [halive, hlive]
    exact Option.some_ne_none _

/-- Two entries of one key, at the places 0 and 2: the look-up finds the second, and
the first reads as itself, after the disk and the session are gone. -/
theorem snapshot_of_repeated_key :
    let entries := [(Key.mediaRemovable, Value.boolean true), (.deviceVendor, .text "A"),
      (.mediaRemovable, .boolean false)]
    let world : World := { disks := [⟨"d", some entries⟩] }
    let store := (serve world [.createSession, .createDisk 1 ⟨[100], by decide⟩] {}).2
    let last := (serve world [.release 2, .release 1, .release 1]
      (answer world (.copyDescription 2) store).2).2
    store.owned.find? 2 = some (.disk "d") ∧ world.description? "d" = some entries ∧
      (answer world (.copyDescription 2) store).1 = .ok (some 3) ∧
      answer world (.value 3 .mediaRemovable) last = (.ok (some 6), last) ∧
      answer world (.boolean 4) last = (.ok (some true), last) := by
  intro entries world store last
  have hdisk : store.owned.find? 2 = some (.disk "d") := by decide +kernel
  have hentries : world.description? "d" = some entries := rfl
  have hnext : store.next = 2 := by decide +kernel
  have hkept : .release (store.next + 1) ∉ [Call.release 2, .release 1, .release 1] := by
    simp [hnext]
  have hsnapshot := snapshot_copyDescription hdisk hentries
  have hpictures := hsnapshot.lasting _ hkept
  have hhanded := hsnapshot.handed
  rw [hnext] at hpictures hhanded
  refine ⟨hdisk, hentries, hhanded, ?_, ?_⟩
  · refine (hpictures.found_iff .mediaRemovable 2).2 ⟨rfl, fun later hlater => ?_⟩
    rw [List.getElem?_eq_none (by exact hlater)]
    exact (Option.some_ne_none _).symm
  · exact (hpictures.reads 0 _ rfl).boolean

end DiskQuery.Store
