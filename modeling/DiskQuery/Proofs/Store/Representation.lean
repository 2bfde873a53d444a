import DiskQuery.Proofs.Client.Brackets
import DiskQuery.Proofs.Store.Description

/-!
# What a store represents

The tables and the counters of a store are kept by nine calls that may be made
in any order, with any references.  Whatever the calls were, the tables fit
together, and they hold nothing that the world does not.

There are six groups.

* Calls in a row.  `serve` makes any calls one after another, those that break
  off included.
* Look-ups.  What each operation on a store does to a look-up.
* Numbers.  `Numbered` says that owned references and values share one counter,
  and no number.
* Time.  `Later` says what calls leave of the references that were handed out
  before them: each is as it was, or gone for good.  Every fact about a later
  store comes from it.
* Kinds.  What was created is what is alive and what was given back
  (`History.perm_kinds`).
* The world.  `Represents` ties disks and dictionaries to the world, and
  `wellKept_serve` is what follows for every store that calls led to.
-/

namespace DiskQuery.Store

/-- The kinds of the owned references that are alive. -/
def liveKinds (store : Store) : List Kind :=
  store.owned.entries.map fun entry => entry.2.kind

/-! ## Calls in a row -/

/-- Makes calls one after another, whatever their answers are. -/
def serve (world : World) : List (Call Nat) → Store → List (Exchange Nat) × Store
  | [], store => ([], store)
  | call :: calls, store =>
      let served := serve world calls (answer world call store).2
      (⟨call, (answer world call store).1⟩ :: served.1, served.2)

theorem History.serve {world : World} {history : List (Exchange Nat)} {store : Store}
    (h : History world history store) (calls : List (Call Nat)) :
    History world (history ++ (serve world calls store).1) (serve world calls store).2 := by
  induction calls generalizing history store with
  | nil =>
    rw [Store.serve, List.append_nil]
    exact h
  | cons call calls ih =>
    have hcalls := ih (h.call call)
    rw [List.append_assoc] at hcalls
    exact hcalls

/-! ## Look-ups -/

section LookUps

/-- Adding entries to a dictionary leaves old values and the entries of other
dictionaries alone. -/
theorem find?_foldl_addEntry (store : Store) (dictionary : Nat) (entries : List (Key × Value)) :
    (∀ reference ≤ store.next,
      (entries.foldl (addEntry dictionary) store).values.find? reference =
        store.values.find? reference) ∧
    ∀ other ≠ dictionary, ∀ key,
      (entries.foldl (addEntry dictionary) store).entries.find? (other, key) =
        store.entries.find? (other, key) := by
  induction entries generalizing store with
  | nil => exact ⟨fun _ _ => rfl, fun _ _ _ => rfl⟩
  | cons entry rest ih =>
    obtain ⟨hvalues, hentries⟩ := ih (store.addEntry dictionary entry)
    rw [List.foldl_cons]
    constructor
    · intro reference hle
      rw [hvalues reference (Nat.le_succ_of_le hle)]
      exact Table.find?_insert_of_ne _ _ (by omega)
    · intro other hother key
      rw [hentries other hother key]
      exact Table.find?_insert_of_ne _ _ (by simp [hother])

variable {store : Store} {reference : Nat} {object : Object}

/-- Only dictionaries have values. -/
theorem Sound.owner_ne (h : Sound store) (hlive : store.owned.find? reference = some object)
    (hkind : object.kind ≠ .dictionary) {value : Nat} {stored : Stored}
    (hvalue : store.values.find? value = some stored) : stored.dictionary ≠ reference := by
  rintro rfl
  obtain ⟨name, hname⟩ := h.value_dictionary _ (Table.mem_of_find? hvalue)
  rw [hlive] at hname
  cases hname
  exact hkind rfl

/-- Entries go with their dictionary, and with nothing else. -/
theorem Sound.find?_entries_remove (h : Sound store)
    (hlive : store.owned.find? reference = some object) (dictionary : Nat) (key : Key) :
    (store.remove reference object.kind).entries.find? (dictionary, key) =
      if dictionary = reference then none else store.entries.find? (dictionary, key) := by
  by_cases hkind : object.kind = .dictionary
  · rw [hkind, remove_entries_dictionary]
    have hfilter := store.entries.find?_filter_key (fun key => decide (key.1 ≠ reference))
      (dictionary, key)
    by_cases hother : dictionary = reference
    · simpa [hother] using hfilter
    · simpa [hother] using hfilter
  · rw [remove_entries_of_ne _ _ hkind]
    split
    · subst dictionary
      cases hfind : store.entries.find? (reference, key) with
      | none => rfl
      | some value =>
        obtain ⟨stored, hvalue, howner⟩ := h.entry_value _ (Table.mem_of_find? hfind)
        exact absurd howner (h.owner_ne hlive hkind hvalue)
    · rfl

/-- So do values. -/
theorem Sound.find?_values_remove (h : Sound store) (hnodup : store.values.keys.Nodup)
    (hlive : store.owned.find? reference = some object) (value : Nat) :
    (store.remove reference object.kind).values.find? value =
      (store.values.find? value).filter fun stored => decide (stored.dictionary ≠ reference) := by
  by_cases hkind : object.kind = .dictionary
  · rw [hkind, remove_values_dictionary, Table.find?_filter hnodup]
  · rw [remove_values_of_ne _ _ hkind]
    cases hfind : store.values.find? value with
    | none => rfl
    | some stored => exact (if_pos (decide_eq_true (h.owner_ne hlive hkind hfind))).symm

end LookUps

/-! ## Numbers -/

/-- Owned references and values are numbers from one counter. -/
structure Numbered (store : Store) : Prop extends Sound store where
  owned_pos : ∀ reference ∈ store.owned.keys, 0 < reference
  values_pos : ∀ reference ∈ store.values.keys, 0 < reference
  apart : ∀ reference ∈ store.owned.keys, reference ∉ store.values.keys
  values_nodup : store.values.keys.Nodup
  entries_nodup : store.entries.keys.Nodup
  /-- No two entries share a value. -/
  entry_inj : ∀ first second reference, store.entries.find? first = some reference →
    store.entries.find? second = some reference → first = second

namespace Numbered

variable {store : Store}

theorem empty : Numbered {} where
  toSound := .empty
  owned_pos _ h := by cases h
  values_pos _ h := by cases h
  apart _ h := by cases h
  values_nodup := List.nodup_nil
  entries_nodup := List.nodup_nil
  entry_inj _ _ _ h := by cases h

theorem create (h : Numbered store) (object : Object) : Numbered (store.create object) where
  toSound := h.toSound.create object
  owned_pos reference hmem := by
    rcases Table.mem_keys_insert hmem with rfl | hmem
    · exact Nat.succ_pos _
    · exact h.owned_pos reference hmem
  values_pos := h.values_pos
  apart reference hmem hvalue := by
    rcases Table.mem_keys_insert hmem with rfl | hmem
    · have := h.values_le _ hvalue
      omega
    · exact h.apart reference hmem hvalue
  values_nodup := h.values_nodup
  entries_nodup := h.entries_nodup
  entry_inj := h.entry_inj

/-- The value of an entry is not above the last number. -/
theorem entry_le (h : Numbered store) {place : Nat × Key} {reference : Nat}
    (hfind : store.entries.find? place = some reference) : reference ≤ store.next := by
  obtain ⟨stored, hvalue, -⟩ := h.entry_value _ (Table.mem_of_find? hfind)
  exact h.values_le _ (Table.mem_keys_of_find? hvalue)

theorem addEntry (h : Numbered store) {dictionary : Nat} {name : String}
    (hlive : store.owned.find? dictionary = some (.dictionary name)) (entry : Key × Value) :
    Numbered (store.addEntry dictionary entry) where
  toSound := h.toSound.addEntry hlive entry
  owned_pos := h.owned_pos
  values_pos reference hmem := by
    rcases Table.mem_keys_insert hmem with rfl | hmem
    · exact Nat.succ_pos _
    · exact h.values_pos reference hmem
  apart reference hmem hvalue := by
    rcases Table.mem_keys_insert hvalue with rfl | hvalue
    · have := h.owned_le _ hmem
      omega
    · exact h.apart reference hmem hvalue
  values_nodup := Table.nodup_keys_insert h.values_nodup _ _
  entries_nodup := Table.nodup_keys_insert h.entries_nodup _ _
  entry_inj first second reference hfirst hsecond := by
    -- the new entry has the only number above the old ones
    have hcases : ∀ place, (store.addEntry dictionary entry).entries.find? place = some reference →
        place = (dictionary, entry.1) ∧ reference = store.next + 1 ∨
          store.entries.find? place = some reference ∧ reference ≤ store.next := by
      intro place hfind
      by_cases hnew : place = (dictionary, entry.1)
      · subst hnew
        rw [Store.addEntry, Table.find?_insert_self] at hfind
        exact .inl ⟨rfl, (Option.some.inj hfind).symm⟩
      · rw [Store.addEntry, Table.find?_insert_of_ne _ _ hnew] at hfind
        exact .inr ⟨hfind, h.entry_le hfind⟩
    rcases hcases first hfirst with ⟨hfirst, hnew⟩ | ⟨hfirst, hold⟩
    · rcases hcases second hsecond with ⟨hsecond, -⟩ | ⟨-, hold⟩
      · rw [hfirst, hsecond]
      · omega
    · rcases hcases second hsecond with ⟨-, hnew⟩ | ⟨hsecond, -⟩
      · omega
      · exact h.entry_inj first second reference hfirst hsecond

theorem foldl_addEntry (h : Numbered store) {dictionary : Nat} {name : String}
    (hlive : store.owned.find? dictionary = some (.dictionary name))
    (entries : List (Key × Value)) :
    Numbered (entries.foldl (Store.addEntry dictionary) store) := by
  induction entries generalizing store with
  | nil => exact h
  | cons entry rest ih => exact ih (h.addEntry hlive entry) hlive

theorem describe (h : Numbered store) (name : String) (entries : List (Key × Value)) :
    Numbered (store.describe name entries) :=
  (h.create _).foldl_addEntry (Table.find?_insert_self _ _ _) entries

theorem remove (h : Numbered store) {reference : Nat} {object : Object}
    (hlive : store.owned.find? reference = some object) :
    Numbered (store.remove reference object.kind) := by
  have howned : (store.remove reference object.kind).owned.keys.Sublist store.owned.keys := by
    rw [remove_owned]
    exact Table.keys_filter_sublist _ _
  have hvalues : (store.remove reference object.kind).values.keys.Sublist store.values.keys := by
    by_cases hkind : object.kind = .dictionary
    · rw [hkind]
      exact Table.keys_filter_sublist _ _
    · rw [remove_values_of_ne _ _ hkind]
  have hentries : (store.remove reference object.kind).entries.keys.Sublist
      store.entries.keys := by
    by_cases hkind : object.kind = .dictionary
    · rw [hkind]
      exact Table.keys_filter_sublist _ _
    · rw [remove_entries_of_ne _ _ hkind]
  have hfind : ∀ {place : Nat × Key} {value : Nat},
      (store.remove reference object.kind).entries.find? place = some value →
        store.entries.find? place = some value := by
    intro place value hsome
    rw [h.find?_entries_remove hlive place.1 place.2] at hsome
    split at hsome
    · cases hsome
    · exact hsome
  exact
    { toSound := h.toSound.remove hlive
      owned_pos := fun other hmem => h.owned_pos other (howned.subset hmem)
      values_pos := fun other hmem => h.values_pos other (hvalues.subset hmem)
      apart := fun other hmem hvalue =>
        h.apart other (howned.subset hmem) (hvalues.subset hvalue)
      values_nodup := hvalues.nodup h.values_nodup
      entries_nodup := hentries.nodup h.entries_nodup
      entry_inj := fun first second value hfirst hsecond =>
        h.entry_inj first second value (hfind hfirst) (hfind hsecond) }

theorem transition {world : World} {exchange : Exchange Nat} {next : Store} (h : Numbered store)
    (hstep : Transition world store exchange next) : Numbered next := by
  cases hstep with
  | keep => exact h
  | session => exact h.create _
  | disk => exact h.create _
  | dictionary => exact h.describe _ _
  | release hlive => exact h.remove hlive

end Numbered

/-! ## Time -/

/-- What calls leave of the references of a store: by the time of `last`, each
one is as it was or gone.  References that were handed out since do not
matter. -/
structure Later (store last : Store) : Prop where
  next_le : store.next ≤ last.next
  owned : ∀ reference ≤ store.next,
    last.owned.find? reference = store.owned.find? reference ∨
      last.owned.find? reference = none
  /-- A value goes with its dictionary only. -/
  values : ∀ reference ≤ store.next,
    last.values.find? reference = store.values.find? reference ∨
      last.values.find? reference = none ∧
        ∀ stored, store.values.find? reference = some stored →
          last.owned.find? stored.dictionary = none
  /-- So does an entry. -/
  entries : ∀ dictionary ≤ store.next, ∀ key,
    last.entries.find? (dictionary, key) = store.entries.find? (dictionary, key) ∨
      last.entries.find? (dictionary, key) = none ∧ last.owned.find? dictionary = none

namespace Later

variable {store middle last : Store}

theorem refl (store : Store) : Later store store where
  next_le := Nat.le_refl _
  owned _ _ := .inl rfl
  values _ _ := .inl rfl
  entries _ _ _ := .inl rfl

/-- What was not alive is not alive later. -/
theorem find?_eq_none (h : Later store last) {reference : Nat} (hle : reference ≤ store.next)
    (hnone : store.owned.find? reference = none) : last.owned.find? reference = none := by
  rcases h.owned reference hle with hsame | hgone
  · rw [hsame]
    exact hnone
  · exact hgone

theorem trans (hsound : Sound store) (hfirst : Later store middle)
    (hsecond : Later middle last) : Later store last where
  next_le := Nat.le_trans hfirst.next_le hsecond.next_le
  owned reference hle := by
    have hmiddle : reference ≤ middle.next := Nat.le_trans hle hfirst.next_le
    rcases hfirst.owned reference hle with hsame | hgone
    · rw [← hsame]
      exact hsecond.owned reference hmiddle
    · exact .inr (hsecond.find?_eq_none hmiddle hgone)
  values reference hle := by
    have hmiddle : reference ≤ middle.next := Nat.le_trans hle hfirst.next_le
    rcases hfirst.values reference hle with hsame | ⟨hgone, howner⟩
    · rw [← hsame]
      exact hsecond.values reference hmiddle
    · refine .inr ⟨?_, fun stored hstored => ?_⟩
      · rcases hsecond.values reference hmiddle with hsame | ⟨hlast, -⟩
        · rw [hsame]
          exact hgone
        · exact hlast
      · obtain ⟨name, hlive⟩ := hsound.value_dictionary _ (Table.mem_of_find? hstored)
        have hle := Nat.le_trans (hsound.le_of_find? hlive) hfirst.next_le
        exact hsecond.find?_eq_none hle (howner stored hstored)
  entries dictionary hle key := by
    have hmiddle : dictionary ≤ middle.next := Nat.le_trans hle hfirst.next_le
    rcases hfirst.entries dictionary hle key with hsame | ⟨hgone, howner⟩
    · rw [← hsame]
      exact hsecond.entries dictionary hmiddle key
    · refine .inr ⟨?_, hsecond.find?_eq_none hmiddle howner⟩
      rcases hsecond.entries dictionary hmiddle key with hsame | ⟨hlast, -⟩
      · rw [hsame]
        exact hgone
      · exact hlast

theorem create (store : Store) (object : Object) : Later store (store.create object) where
  next_le := Nat.le_succ _
  owned reference hle := by
    rw [find?_owned_create, if_neg (by omega)]
    exact .inl rfl
  values _ _ := .inl rfl
  entries _ _ _ := .inl rfl

theorem describe (store : Store) (name : String) (entries : List (Key × Value)) :
    Later store (store.describe name entries) := by
  obtain ⟨hnext, -⟩ :=
    foldl_addEntry_counters (store.next + 1) (store.create (.dictionary name)) entries
  obtain ⟨hvalues, hentries⟩ :=
    (store.create (.dictionary name)).find?_foldl_addEntry (store.next + 1) entries
  constructor
  · unfold Store.describe
    rw [hnext]
    show store.next ≤ store.next + 1 + entries.length
    omega
  · intro reference hle
    rw [find?_owned_describe, if_neg (by omega)]
    exact .inl rfl
  · intro reference hle
    exact .inl (hvalues reference (Nat.le_succ_of_le hle))
  · intro dictionary hle key
    exact .inl (hentries dictionary (by omega) key)

theorem remove (h : Numbered store) {reference : Nat} {object : Object}
    (hlive : store.owned.find? reference = some object) :
    Later store (store.remove reference object.kind) where
  next_le := by rw [remove_next]
  owned other _ := by
    rw [find?_owned_remove]
    split
    · exact .inr rfl
    · exact .inl rfl
  values value _ := by
    rw [h.find?_values_remove h.values_nodup hlive]
    cases hfind : store.values.find? value with
    | none => exact .inl rfl
    | some stored =>
      by_cases howner : stored.dictionary = reference
      · refine .inr ⟨if_neg (by simp [howner]), fun other hother => ?_⟩
        cases hother
        rw [find?_owned_remove, if_pos howner]
      · exact .inl (if_pos (by simp [howner]))
  entries dictionary _ key := by
    rw [h.find?_entries_remove hlive, find?_owned_remove]
    split
    · exact .inr ⟨rfl, rfl⟩
    · exact .inl rfl

theorem transition {world : World} {exchange : Exchange Nat} {next : Store} (h : Numbered store)
    (hstep : Transition world store exchange next) : Later store next := by
  cases hstep with
  | keep => exact .refl store
  | session => exact .create store _
  | disk => exact .create store _
  | dictionary => exact .describe store _ _
  | release hlive => exact .remove h hlive

theorem serve (world : World) (h : Numbered store) (calls : List (Call Nat)) :
    Later store (serve world calls store).2 := by
  induction calls generalizing store with
  | nil => exact .refl store
  | cons call calls ih =>
    have hstep := transition_answer world store call
    exact (transition h hstep).trans h.toSound (ih (h.transition hstep))

/-! ### What a live dictionary keeps -/

section Kept

variable {dictionary : Nat} (h : Later store last) (hlive : last.owned.find? dictionary ≠ none)

include h hlive

theorem owned_eq (hle : dictionary ≤ store.next) :
    last.owned.find? dictionary = store.owned.find? dictionary := by
  rcases h.owned dictionary hle with hsame | hgone
  · exact hsame
  · exact absurd hgone hlive

theorem entries_eq (hle : dictionary ≤ store.next) (key : Key) :
    last.entries.find? (dictionary, key) = store.entries.find? (dictionary, key) := by
  rcases h.entries dictionary hle key with hsame | ⟨-, hgone⟩
  · exact hsame
  · exact absurd hgone hlive

theorem values_eq (hsound : Sound store) {reference : Nat} {value : Value}
    (hvalue : store.values.find? reference = some ⟨dictionary, value⟩) :
    last.values.find? reference = some ⟨dictionary, value⟩ := by
  have hbound := hsound.values_le _ (Table.mem_keys_of_find? hvalue)
  rcases h.values reference hbound with hsame | ⟨-, hgone⟩
  · exact hsame.trans hvalue
  · exact absurd (hgone _ hvalue) hlive

end Kept

/-- A live dictionary shows what it always showed. -/
theorem shows (h : Later store last) {dictionary : Nat} {entries : List (Key × Value)}
    (hsound : Sound store) (hshows : Shows store dictionary entries)
    (hlive : last.owned.find? dictionary ≠ none) : Shows last dictionary entries := by
  obtain ⟨name, hname⟩ := hshows.live
  have hle := hsound.le_of_find? hname
  constructor
  · exact ⟨name, (h.owned_eq hlive hle).trans hname⟩
  · intro key hlast
    exact (h.entries_eq hlive hle key).trans (hshows.absent key hlast)
  · intro key value hlast
    obtain ⟨reference, hentry, hvalue⟩ := hshows.present key value hlast
    exact ⟨reference, (h.entries_eq hlive hle key).trans hentry, h.values_eq hlive hsound hvalue⟩

end Later

/-! ## Kinds -/

theorem liveKinds_create {store : Store} (h : Sound store) (object : Object) :
    (store.create object).liveKinds = object.kind :: store.liveKinds := by
  unfold liveKinds create
  rw [Table.entries_insert_of_notMem h.next_notMem_owned, List.map_cons]

theorem perm_liveKinds_remove {store : Store} {reference : Nat} {object : Object}
    (h : Sound store) (hlive : store.owned.find? reference = some object) :
    store.liveKinds.Perm (object.kind :: (store.remove reference object.kind).liveKinds) := by
  unfold liveKinds
  rw [remove_owned]
  exact (Table.perm_erase h.owned_nodup hlive).map fun entry => entry.2.kind

/-- A call creates what becomes alive, and gives back what does not stay
alive. -/
theorem Transition.perm_kinds {world : World} {store next : Store} {exchange : Exchange Nat}
    (hsound : Sound store) (hstep : Transition world store exchange next) :
    (store.liveKinds ++ store.released ++ exchange.created?.toList).Perm
      (next.liveKinds ++ next.released) := by
  have hcreate : ∀ object : Object,
      (store.liveKinds ++ store.released ++ [object.kind]).Perm
        ((store.create object).liveKinds ++ store.released) := by
    intro object
    rw [liveKinds_create hsound]
    exact List.perm_append_singleton _ _
  cases hstep with
  | keep hacquired =>
    unfold Exchange.created?
    rw [hacquired, Option.bind_none, Option.toList_none, List.append_nil]
  | session => exact hcreate .session
  | disk => exact hcreate (.disk _)
  | @dictionary disk name entries =>
    obtain ⟨-, howned, -, hreleased⟩ :=
      foldl_addEntry_counters (store.next + 1) (store.create (.dictionary name)) entries
    have hkinds := hcreate (.dictionary name)
    unfold describe liveKinds at *
    rw [howned, hreleased]
    exact hkinds
  | @release reference object hlive =>
    rw [remove_released, ← List.append_assoc]
    show (store.liveKinds ++ store.released ++ []).Perm _
    rw [List.append_nil]
    refine ((perm_liveKinds_remove hsound hlive).append_right _).trans ?_
    exact (List.perm_append_singleton _ _).symm

/-- What was created is what is alive and what was given back. -/
theorem History.perm_kinds {world : World} {history : List (Exchange Nat)} {store : Store}
    (h : History world history store) :
    (history.filterMap Exchange.created?).Perm (store.liveKinds ++ store.released) := by
  induction h with
  | start => exact .refl _
  | @call history store call hbefore ih =>
    have hstep := (transition_answer world store call).perm_kinds hbefore.sound
    refine .trans ?_ hstep
    rw [List.filterMap_append]
    refine ih.append (.of_eq ?_)
    rw [List.filterMap_cons]
    cases Exchange.created? ⟨call, (answer world call store).1⟩ <;> rfl

/-! ## The world -/

/-- A store of a world: its objects and values are those of the world. -/
structure Represents (world : World) (store : Store) : Prop extends Numbered store where
  /-- A live disk is a disk of the world. -/
  disk_known : ∀ reference name, store.owned.find? reference = some (.disk name) →
    (world.disk? name).isSome
  /-- A live dictionary shows the description of its disk. -/
  dictionary_shows : ∀ reference name, store.owned.find? reference = some (.dictionary name) →
    ∃ entries, world.description? name = some entries ∧ Shows store reference entries

/-- What a call found in the world when it made an object. -/
def Object.Found (world : World) (store next : Store) : Object → Prop
  | .session => world.unavailable = false
  | .disk name => (world.disk? name).isSome
  | .dictionary name =>
      ∃ entries, world.description? name = some entries ∧ next = store.describe name entries

/-- An object was alive before a call, or the call made it. -/
theorem Transition.owned_cases {world : World} {store next : Store} {exchange : Exchange Nat}
    (hstep : Transition world store exchange next) {reference : Nat} {object : Object}
    (hfind : next.owned.find? reference = some object) :
    store.owned.find? reference = some object ∨
      reference = store.next + 1 ∧ object.Found world store next := by
  cases hstep with
  | keep => exact .inl hfind
  | session havailable =>
    rw [find?_owned_create] at hfind
    split at hfind
    · cases hfind
      exact .inr ⟨‹_›, havailable⟩
    · exact .inl hfind
  | disk _ _ hdisk =>
    rw [find?_owned_create] at hfind
    split at hfind
    · cases hfind
      exact .inr ⟨‹_›, hdisk⟩
    · exact .inl hfind
  | dictionary _ hentries =>
    rw [find?_owned_describe] at hfind
    split at hfind
    · cases hfind
      exact .inr ⟨‹_›, _, hentries, rfl⟩
    · exact .inl hfind
  | release =>
    rw [find?_owned_remove] at hfind
    split at hfind
    · cases hfind
    · exact .inl hfind

theorem mem_of_lastValue? {entries : List (Key × Value)} {key : Key} {value : Value}
    (h : lastValue? entries key = some value) : (key, value) ∈ entries := by
  obtain ⟨entry, hfind, rfl⟩ := Option.map_eq_some_iff.1 h
  obtain rfl : entry.1 = key := by simpa using List.find?_some hfind
  exact List.mem_reverse.1 (List.mem_of_find?_eq_some hfind)

namespace Represents

variable {world : World} {store next : Store}

theorem empty (world : World) : Represents world {} where
  toNumbered := .empty
  disk_known _ _ h := by cases h
  dictionary_shows _ _ h := by cases h

/-- The value of an entry is that of its key, and the last one of it. -/
theorem entry (h : Represents world store) {dictionary reference : Nat} {key : Key}
    (hfind : store.entries.find? (dictionary, key) = some reference) :
    ∃ name entries value, store.owned.find? dictionary = some (.dictionary name) ∧
      world.description? name = some entries ∧ lastValue? entries key = some value ∧
      store.values.find? reference = some ⟨dictionary, value⟩ := by
  obtain ⟨stored, hvalue, howner⟩ := h.entry_value _ (Table.mem_of_find? hfind)
  obtain ⟨name, hlive⟩ := h.value_dictionary _ (Table.mem_of_find? hvalue)
  rw [howner] at hlive
  obtain ⟨entries, hentries, hshows⟩ := h.dictionary_shows _ _ hlive
  cases hlast : lastValue? entries key with
  | none =>
    rw [hshows.absent key hlast] at hfind
    cases hfind
  | some value =>
    obtain ⟨other, hother, hshown⟩ := hshows.present key value hlast
    rw [hfind] at hother
    cases hother
    exact ⟨name, entries, value, hlive, hentries, hlast, hshown⟩

/-- What calls make of a store of the world is one too. -/
theorem transition {exchange : Exchange Nat} (h : Represents world store)
    (hstep : Transition world store exchange next) : Represents world next := by
  refine ⟨h.toNumbered.transition hstep, fun reference name hfind => ?_,
    fun reference name hfind => ?_⟩
  · rcases hstep.owned_cases hfind with hold | ⟨-, hfound⟩
    · exact h.disk_known reference name hold
    · exact hfound
  · rcases hstep.owned_cases hfind with hold | ⟨rfl, entries, hentries, rfl⟩
    · obtain ⟨entries, hentries, hshows⟩ := h.dictionary_shows reference name hold
      have hlater := Later.transition h.toNumbered hstep
      exact ⟨entries, hentries, hlater.shows h.toSound hshows (by simp [hfind])⟩
    · exact ⟨entries, hentries, shows_describe h.toSound name entries⟩

/-- The dictionary of a value needs no check. -/
theorem expectValue_eq (h : Represents world store) (reference : Nat) :
    store.expectValue reference =
      match store.values.find? reference with
      | some stored => .ok stored.value
      | none => .error (.unknownValue reference) := by
  cases hvalue : store.values.find? reference with
  | none => rw [expectValue, hvalue]
  | some stored =>
    obtain ⟨name, hlive⟩ := h.value_dictionary _ (Table.mem_of_find? hvalue)
    exact expectValue_of_find? hlive hvalue

end Represents

theorem History.represents {world : World} {history : List (Exchange Nat)} {store : Store}
    (h : History world history store) : Represents world store := by
  induction h with
  | start => exact .empty world
  | call call _ ih => exact ih.transition (transition_answer world _ call)

theorem represents_serve (world : World) (calls : List (Call Nat)) :
    Represents world (serve world calls {}).2 :=
  (History.start.serve calls).represents

/-- A look-up that hands a value out found its entry. -/
theorem find?_of_answer_value {world : World} {store : Store} {dictionary reference : Nat}
    {key : Key} (h : (answer world (.value dictionary key) store).1 = .ok (some reference)) :
    store.entries.find? (dictionary, key) = some reference := by
  rw [answer, reading] at h
  cases hcheck : store.expectDictionary dictionary with
  | error fault =>
    rw [hcheck] at h
    cases h
  | ok =>
    rw [hcheck] at h
    exact Except.ok.inj h

/-- The three reads of a value give what was found, or its fault. -/
structure ReadsAs (world : World) (store : Store) (reference : Nat)
    (found : Except Fault Value) : Prop where
  boolean : answer world (.boolean reference) store = (found.map Value.truth?, store)
  textLength : answer world (.textLength reference) store =
    (found.map fun value => value.length?.map Int.ofNat, store)
  copyText : ∀ buffer, answer world (.copyText reference buffer) store =
    (found.map fun value => copyText world value buffer, store)

theorem readsAs_expectValue (world : World) (store : Store) (reference : Nat) :
    ReadsAs world store reference (store.expectValue reference) :=
  ⟨rfl, rfl, fun _ => rfl⟩

/-- A value is read for as long as its dictionary is alive, and refused from
then on. -/
theorem Represents.readsAs {world : World} {store last : Store} {dictionary reference : Nat}
    {value : Value} (h : Represents world store) (hlast : Represents world last)
    (hlater : Later store last)
    (hvalue : store.values.find? reference = some ⟨dictionary, value⟩) :
    ReadsAs world last reference
      (if last.isLive dictionary then .ok value else .error (.unknownValue reference)) := by
  have hread := readsAs_expectValue world last reference
  rw [hlast.expectValue_eq] at hread
  have hbound := h.values_le _ (Table.mem_keys_of_find? hvalue)
  rcases hlater.values reference hbound with hsame | ⟨hgone, howner⟩
  · rw [hvalue] at hsame
    obtain ⟨name, hlive⟩ := hlast.value_dictionary _ (Table.mem_of_find? hsame)
    have halive : last.isLive dictionary = true := by
      rw [isLive, hlive]
      rfl
    rw [hsame] at hread
    rw [if_pos halive]
    exact hread
  · have hdead : last.isLive dictionary = false := by
      rw [isLive, howner _ hvalue]
      rfl
    rw [hgone] at hread
    rw [hdead]
    exact hread

/-- What holds of a store and of the calls that led to it. -/
structure WellKept (world : World) (history : List (Exchange Nat)) (store : Store) : Prop where
  represents : Represents world store
  /-- A created reference is alive or was given back, kind by kind. -/
  kinds : ∀ kind, (history.filterMap Exchange.created?).count kind =
    store.liveKinds.count kind + store.released.count kind
  /-- An entry leads to a value of its dictionary, and to one that the world has
  under its key. -/
  entry : ∀ dictionary key reference, store.entries.find? (dictionary, key) = some reference →
    ∃ name entries value, store.owned.find? dictionary = some (.dictionary name) ∧
      world.description? name = some entries ∧ (key, value) ∈ entries ∧
      store.values.find? reference = some ⟨dictionary, value⟩
  /-- Only a missing value is refused, never a value for its dictionary. -/
  borrowed : ∀ reference, store.expectValue reference =
    match store.values.find? reference with
    | some stored => .ok stored.value
    | none => .error (.unknownValue reference)
  /-- What a look-up handed out can be read until its dictionary is given back,
  whatever is called in between. -/
  lasting : ∀ dictionary key reference,
    (answer world (.value dictionary key) store).1 = .ok (some reference) →
    ∃ value, store.values.find? reference = some ⟨dictionary, value⟩ ∧
      ∀ calls, let last := (serve world calls store).2
        ReadsAs world last reference
          (if last.isLive dictionary then .ok value else .error (.unknownValue reference))

/-- Any calls, with any references and in any order, leave a store that is well
kept. -/
theorem wellKept_serve (world : World) (calls : List (Call Nat)) :
    WellKept world (serve world calls {}).1 (serve world calls {}).2 := by
  have hstart : History world [] {} := .start
  have hhistory := hstart.serve calls
  rw [List.nil_append] at hhistory
  generalize serve world calls {} = served at hhistory
  obtain ⟨history, store⟩ := served
  have hrepresents := hhistory.represents
  constructor
  · exact hrepresents
  · intro kind
    rw [hhistory.perm_kinds.count_eq, List.count_append]
  · intro dictionary key reference hfind
    obtain ⟨name, entries, value, hlive, hentries, hlast, hvalue⟩ := hrepresents.entry hfind
    exact ⟨name, entries, value, hlive, hentries, mem_of_lastValue? hlast, hvalue⟩
  · exact hrepresents.expectValue_eq
  · intro dictionary key reference hanswer
    have hfind := find?_of_answer_value hanswer
    obtain ⟨-, -, value, -, -, -, hvalue⟩ := hrepresents.entry hfind
    refine ⟨value, hvalue, fun calls => ?_⟩
    exact hrepresents.readsAs (hhistory.serve calls).represents
      (Later.serve world hrepresents.toNumbered calls) hvalue

/-- Value 4 belongs to dictionary 3, which outlives its disk and its session. -/
example :
    let world : World := { disks := [⟨"disk1", some [(.mediaRemovable, .boolean true)]⟩] }
    let made := (serve world [.createSession, .createDisk 1 (.ofText "disk1"), .copyDescription 2,
      .release 2, .release 1, .release 1] {}).2
    made.expectValue 4 = .ok (.boolean true) ∧
      (serve world [.release 3, .value 3 .mediaRemovable] made).2.expectValue 4 =
        .error (.unknownValue 4) := by
  decide +kernel

end DiskQuery.Store
