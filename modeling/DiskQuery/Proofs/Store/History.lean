import DiskQuery.Proofs.Client.Trace
import DiskQuery.Proofs.Table
import DiskQuery.Store.Basic

/-!
# What a store has been through

The reference store is only ever changed by calls.  A history is the list of
the calls that led to a store, with their answers, and a store is reachable
if it has one.

There are three groups.

* One call.  `Transition` lists what a call can do to a store: it creates an
  object, takes one away, or leaves the store as it is.  Every later fact
  about calls is a case analysis on it.
* Histories.  The run of any client adds its calls to the history
  (`History.run`).
* The invariant of the reachable stores.  `Sound` counts the references and
  bounds them by the last number given out, so the next number is fresh, and
  it ties the values and the entries to a live dictionary.
-/

namespace DiskQuery.Store

open Client

/-! ## One call -/

/-- The store after it gave a description of a disk, with its entries, under
the next references. -/
def describe (store : Store) (name : String) (entries : List (Key × Value)) : Store :=
  entries.foldl (addEntry (store.next + 1)) (store.create (.dictionary name))

/-- What a call can do to a store. -/
inductive Transition (world : World) (store : Store) : Exchange Nat → Store → Prop where
  | keep {exchange : Exchange Nat} (hacquired : exchange.acquired? = none)
      (hreleased : exchange.released?.isSome → exchange.BrokeOff) :
      Transition world store exchange store
  | session (havailable : world.unavailable = false) :
      Transition world store ⟨.createSession, .ok (some (store.next + 1))⟩
        (store.create .session)
  | disk {session : Nat} {name : DeviceName} {text : String}
      (hsession : store.owned.find? session = some .session) (htext : name.text = .ok text)
      (hdisk : (world.disk? text).isSome) :
      Transition world store ⟨.createDisk session name, .ok (some (store.next + 1))⟩
        (store.create (.disk text))
  | dictionary {disk : Nat} {name : String} {entries : List (Key × Value)}
      (hdisk : store.owned.find? disk = some (.disk name))
      (hentries : world.description? name = some entries) :
      Transition world store ⟨.copyDescription disk, .ok (some (store.next + 1))⟩
        (store.describe name entries)
  | release {reference : Nat} {object : Object}
      (hlive : store.owned.find? reference = some object) :
      Transition world store ⟨.release reference, .ok ()⟩
        (store.remove reference object.kind)

theorem expectSession_ok {store : Store} {reference : Nat} {u : Unit}
    (h : store.expectSession reference = .ok u) : store.owned.find? reference = some .session := by
  unfold expectSession at h
  split at h
  · assumption
  · cases h

theorem expectDisk_ok {store : Store} {reference : Nat} {name : String}
    (h : store.expectDisk reference = .ok name) :
    store.owned.find? reference = some (.disk name) := by
  unfold expectDisk at h
  split at h
  · cases h
    assumption
  · cases h

theorem expectOwned_ok {store : Store} {reference : Nat} {kind : Kind}
    (h : store.expectOwned reference = .ok kind) :
    ∃ object, store.owned.find? reference = some object ∧ object.kind = kind := by
  unfold expectOwned at h
  split at h
  · cases h
    exact ⟨_, ‹_›, rfl⟩
  · cases h

theorem answer_release (world : World) {store : Store} {reference : Nat} {object : Object}
    (hlive : store.owned.find? reference = some object) :
    answer world (.release reference) store = (.ok (), store.remove reference object.kind) := by
  have howned : store.expectOwned reference = .ok object.kind := by
    rw [expectOwned, hlive]
  rw [answer, howned]
  rfl

theorem answer_copyDescription {world : World} {store : Store} {disk : Nat} {name : String}
    {entries : List (Key × Value)} (hdisk : store.owned.find? disk = some (.disk name))
    (hentries : world.description? name = some entries) :
    answer world (.copyDescription disk) store =
      (.ok (some (store.next + 1)), store.describe name entries) := by
  have hexpect : store.expectDisk disk = .ok name := by
    rw [expectDisk, hdisk]
  rw [answer, hexpect]
  simp only [writing, copyDescription, hentries]
  rfl

/-- Every call is a transition. -/
theorem transition_answer (world : World) (store : Store) (call : Call Nat) :
    Transition world store ⟨call, (answer world call store).1⟩ (answer world call store).2 := by
  cases call with
  | createSession =>
    simp only [answer, writing, createSession]
    split
    · exact .keep rfl fun h => by cases h
    · exact .session (by simp_all)
  | createDisk session name =>
    simp only [answer, writing, createDisk]
    cases hsession : store.expectSession session with
    | error fault => exact .keep rfl fun h => by cases h
    | ok =>
      cases htext : name.text with
      | error defect => exact .keep rfl fun h => by cases h
      | ok text =>
        by_cases hdisk : (world.disk? text).isSome
        · simp only [hdisk, if_true]
          exact .disk (expectSession_ok hsession) htext hdisk
        · simp only [hdisk]
          exact .keep rfl fun h => by cases h
  | copyDescription disk =>
    simp only [answer, writing, copyDescription]
    cases hdisk : store.expectDisk disk with
    | error fault => exact .keep rfl fun h => by cases h
    | ok name =>
      cases hentries : world.description? name with
      | none =>
        simp only [hentries]
        exact .keep rfl fun h => by cases h
      | some entries =>
        simp only [hentries]
        exact .dictionary (expectDisk_ok hdisk) hentries
  | release reference =>
    simp only [answer, writing]
    cases howned : store.expectOwned reference with
    | error fault => exact .keep rfl fun _ => ⟨fault, rfl⟩
    | ok kind =>
      obtain ⟨object, hlive, rfl⟩ := expectOwned_ok howned
      exact .release hlive
  | value | boolean | textLength | maxSize | copyText =>
    exact .keep rfl fun h => by cases h

/-- A call that hands nothing out and takes nothing back changes nothing. -/
theorem Transition.eq_self {world : World} {store next : Store} {exchange : Exchange Nat}
    (h : Transition world store exchange next) (hacquired : exchange.acquired? = none)
    (hreleased : exchange.released? = none) : next = store := by
  cases h with
  | keep => rfl
  | session | disk | dictionary => cases hacquired
  | release => cases hreleased

/-! ### What a creation and a release change -/

/-- The entries of a dictionary take numbers, and leave the owned references as
they are. -/
theorem foldl_addEntry_counters (dictionary : Nat) (store : Store)
    (entries : List (Key × Value)) :
    (entries.foldl (addEntry dictionary) store).next = store.next + entries.length ∧
      (entries.foldl (addEntry dictionary) store).owned = store.owned ∧
      (entries.foldl (addEntry dictionary) store).created = store.created ∧
      (entries.foldl (addEntry dictionary) store).released = store.released := by
  induction entries generalizing store with
  | nil => exact ⟨rfl, rfl, rfl, rfl⟩
  | cons entry rest ih =>
    obtain ⟨hnext, howned, hcreated, hreleased⟩ := ih (store.addEntry dictionary entry)
    refine ⟨?_, howned, hcreated, hreleased⟩
    rw [List.foldl_cons, hnext, List.length_cons]
    change store.next + 1 + rest.length = _
    omega

@[simp] theorem create_next (store : Store) (object : Object) :
    (store.create object).next = store.next + 1 := rfl

@[simp] theorem create_created (store : Store) (object : Object) :
    (store.create object).created = store.created + 1 := rfl

/-- A new object is the only new one. -/
theorem find?_owned_create (store : Store) (object : Object) (reference : Nat) :
    (store.create object).owned.find? reference =
      if reference = store.next + 1 then some object else store.owned.find? reference := by
  unfold create
  split
  · subst reference
    exact Table.find?_insert_self _ _ _
  · exact Table.find?_insert_of_ne _ _ ‹_›

theorem find?_owned_describe (store : Store) (name : String) (entries : List (Key × Value))
    (reference : Nat) :
    (store.describe name entries).owned.find? reference =
      if reference = store.next + 1 then some (.dictionary name)
      else store.owned.find? reference := by
  obtain ⟨-, howned, -⟩ :=
    foldl_addEntry_counters (store.next + 1) (store.create (.dictionary name)) entries
  rw [describe, howned, find?_owned_create]

section Remove

variable (store : Store) (reference : Nat) (kind : Kind)

@[simp] theorem remove_owned :
    (store.remove reference kind).owned = store.owned.erase reference := by
  cases kind <;> rfl

theorem find?_owned_remove (other : Nat) :
    (store.remove reference kind).owned.find? other =
      if other = reference then none else store.owned.find? other := by
  rw [remove_owned]
  split
  · subst other
    exact Table.find?_erase_self _ _
  · exact Table.find?_erase_of_ne _ ‹_›

@[simp] theorem remove_next : (store.remove reference kind).next = store.next := by
  cases kind <;> rfl

@[simp] theorem remove_created : (store.remove reference kind).created = store.created := by
  cases kind <;> rfl

@[simp] theorem remove_released :
    (store.remove reference kind).released = store.released ++ [kind] := by
  cases kind <;> rfl

theorem remove_values_dictionary : (store.remove reference .dictionary).values =
    store.values.filter fun _ stored => decide (stored.dictionary ≠ reference) := rfl

theorem remove_entries_dictionary : (store.remove reference .dictionary).entries =
    store.entries.filter fun key _ => decide (key.1 ≠ reference) := rfl

variable {kind}

theorem remove_values_of_ne (h : kind ≠ .dictionary) :
    (store.remove reference kind).values = store.values := by
  cases kind <;> first | rfl | exact absurd rfl h

theorem remove_entries_of_ne (h : kind ≠ .dictionary) :
    (store.remove reference kind).entries = store.entries := by
  cases kind <;> first | rfl | exact absurd rfl h

end Remove

/-- A call leaves the owned references that it does not give back. -/
theorem Transition.find?_owned_eq {world : World} {store next : Store}
    {exchange : Exchange Nat} {r : Nat} (hstep : Transition world store exchange next)
    (hr : r ≤ store.next) (hkept : exchange.released? ≠ some r) :
    next.owned.find? r = store.owned.find? r := by
  cases hstep with
  | keep => rfl
  | session | disk => rw [find?_owned_create, if_neg (by omega)]
  | dictionary => rw [find?_owned_describe, if_neg (by omega)]
  | release => rw [find?_owned_remove, if_neg fun hsame => hkept (congrArg some hsame.symm)]

/-! ## Histories -/

/-- The calls that led from the empty store to a store, with their answers. -/
inductive History (world : World) : List (Exchange Nat) → Store → Prop where
  | start : History world [] {}
  | call {history : List (Exchange Nat)} {store : Store} (call : Call Nat)
      (hbefore : History world history store) :
      History world (history ++ [⟨call, (answer world call store).1⟩])
        (answer world call store).2

/-- A store that calls led to. -/
def Reachable (world : World) (store : Store) : Prop :=
  ∃ history, History world history store

/-- The calls of a client come after those that were made before it. -/
theorem History.run {world : World} {α : Type} {history : List (Exchange Nat)} {store : Store}
    (h : History world history store) (client : Client Nat α) :
    History world (history ++ (client.run world.service store).exchanges)
      (client.run world.service store).state := by
  induction client generalizing history store with
  | done outcome =>
    rw [run_done, exchanges_nil, List.append_nil]
    exact h
  | report event next ih => exact ih h
  | ask call resume ih =>
    have hcall := ih (answer world call store).1 (h.call call)
    rw [List.append_assoc] at hcall
    exact hcall

theorem Reachable.run {world : World} {α : Type} {store : Store} (h : Reachable world store)
    (client : Client Nat α) : Reachable world (client.run world.service store).state := by
  obtain ⟨history, hhistory⟩ := h
  exact ⟨_, hhistory.run client⟩

/-! ## The invariant of the reachable stores -/

/-- What holds of every store that calls led to. -/
structure Sound (store : Store) : Prop where
  /-- A created reference is alive or was given back. -/
  counted : store.created = store.owned.size + store.released.length
  owned_nodup : store.owned.keys.Nodup
  owned_le : ∀ reference ∈ store.owned.keys, reference ≤ store.next
  values_le : ∀ reference ∈ store.values.keys, reference ≤ store.next
  /-- A value belongs to a live dictionary. -/
  value_dictionary : ∀ entry ∈ store.values.entries,
    ∃ name, store.owned.find? entry.2.dictionary = some (.dictionary name)
  /-- An entry of a dictionary names a value of that dictionary. -/
  entry_value : ∀ entry ∈ store.entries.entries,
    ∃ stored, store.values.find? entry.2 = some stored ∧ stored.dictionary = entry.1.1

namespace Sound

variable {store : Store}

theorem empty : Sound {} where
  counted := rfl
  owned_nodup := List.nodup_nil
  owned_le _ h := by cases h
  values_le _ h := by cases h
  value_dictionary _ h := by cases h
  entry_value _ h := by cases h

/-- The next reference is not alive. -/
theorem next_notMem_owned (h : Sound store) : store.next + 1 ∉ store.owned.keys := by
  intro hmem
  have := h.owned_le _ hmem
  omega

theorem le_of_find? (h : Sound store) {reference : Nat} {object : Object}
    (hlive : store.owned.find? reference = some object) : reference ≤ store.next :=
  h.owned_le _ (Table.mem_keys_of_find? hlive)

/-- A new object leaves the others where they are. -/
theorem find?_create (h : Sound store) {reference : Nat} {object : Object} (new : Object)
    (hlive : store.owned.find? reference = some object) :
    (store.create new).owned.find? reference = some object := by
  have hle := h.le_of_find? hlive
  rw [create, Table.find?_insert_of_ne _ _ (by omega)]
  exact hlive

theorem create (h : Sound store) (object : Object) : Sound (store.create object) where
  counted := by
    have hfresh := Table.entries_insert_of_notMem h.next_notMem_owned object
    have hcounted := h.counted
    simp only [Store.create, Table.size, hfresh, List.length_cons] at hcounted ⊢
    omega
  owned_nodup := Table.nodup_keys_insert h.owned_nodup _ _
  owned_le reference hmem := by
    change reference ≤ store.next + 1
    rcases Table.mem_keys_insert hmem with rfl | hmem
    · exact Nat.le_refl _
    · exact Nat.le_succ_of_le (h.owned_le _ hmem)
  values_le reference hmem := Nat.le_succ_of_le (h.values_le reference hmem)
  value_dictionary entry hmem := by
    obtain ⟨name, hlive⟩ := h.value_dictionary entry hmem
    exact ⟨name, h.find?_create object hlive⟩
  entry_value := h.entry_value

/-- An entry of a live dictionary is as good as the entries before it. -/
theorem addEntry (h : Sound store) {dictionary : Nat} {name : String}
    (hlive : store.owned.find? dictionary = some (.dictionary name)) (entry : Key × Value) :
    Sound (store.addEntry dictionary entry) where
  counted := h.counted
  owned_nodup := h.owned_nodup
  owned_le reference hmem := Nat.le_succ_of_le (h.owned_le reference hmem)
  values_le reference hmem := by
    change reference ≤ store.next + 1
    rcases Table.mem_keys_insert hmem with rfl | hmem
    · exact Nat.le_refl _
    · exact Nat.le_succ_of_le (h.values_le _ hmem)
  value_dictionary other hmem := by
    rcases Table.mem_insert hmem with rfl | hmem
    · exact ⟨name, hlive⟩
    · exact h.value_dictionary other hmem
  entry_value other hmem := by
    rcases Table.mem_insert hmem with rfl | hmem
    · exact ⟨⟨dictionary, entry.2⟩, Table.find?_insert_self _ _ _, rfl⟩
    · obtain ⟨stored, hfind, hdictionary⟩ := h.entry_value other hmem
      have hle := h.values_le _ (Table.mem_keys_of_find? hfind)
      refine ⟨stored, ?_, hdictionary⟩
      change (store.values.insert _ _).find? _ = _
      rw [Table.find?_insert_of_ne _ _ (by omega)]
      exact hfind

theorem foldl_addEntry (h : Sound store) {dictionary : Nat} {name : String}
    (hlive : store.owned.find? dictionary = some (.dictionary name))
    (entries : List (Key × Value)) :
    Sound (entries.foldl (Store.addEntry dictionary) store) := by
  induction entries generalizing store with
  | nil => exact h
  | cons entry rest ih => exact ih (h.addEntry hlive entry) hlive

theorem describe (h : Sound store) (name : String) (entries : List (Key × Value)) :
    Sound (store.describe name entries) :=
  (h.create _).foldl_addEntry (Table.find?_insert_self _ _ _) entries

/-- The values and entries of a dictionary go with it, and nothing else
does. -/
theorem remove (h : Sound store) {reference : Nat} {object : Object}
    (hlive : store.owned.find? reference = some object) :
    Sound (store.remove reference object.kind) where
  counted := by
    have hsize := Table.size_erase h.owned_nodup hlive
    have hcounted := h.counted
    rw [remove_created, remove_owned, remove_released, List.length_append, List.length_singleton]
    omega
  owned_nodup := by
    rw [remove_owned]
    exact Table.nodup_keys_erase h.owned_nodup _
  owned_le other hmem := by
    rw [remove_owned] at hmem
    rw [remove_next]
    exact h.owned_le other ((Table.keys_filter_sublist _ _).subset hmem)
  values_le other hmem := by
    rw [remove_next]
    refine h.values_le other ?_
    cases hkind : object.kind with
    | dictionary =>
      rw [hkind] at hmem
      exact (Table.keys_filter_sublist _ _).subset hmem
    | session | disk => rwa [hkind] at hmem
  value_dictionary entry hmem := by
    have hother : entry ∈ store.values.entries ∧ entry.2.dictionary ≠ reference := by
      cases hkind : object.kind with
      | dictionary =>
        rw [hkind] at hmem
        have hkept := Table.mem_filter.1 hmem
        exact ⟨hkept.1, of_decide_eq_true hkept.2⟩
      | session | disk =>
        rw [hkind] at hmem
        refine ⟨hmem, ?_⟩
        rintro rfl
        obtain ⟨name, hdictionary⟩ := h.value_dictionary entry hmem
        rw [hlive] at hdictionary
        cases hdictionary
        cases hkind
    obtain ⟨name, hdictionary⟩ := h.value_dictionary entry hother.1
    refine ⟨name, ?_⟩
    rw [remove_owned, Table.find?_erase_of_ne _ hother.2]
    exact hdictionary
  entry_value entry hmem := by
    cases hkind : object.kind with
    | dictionary =>
      rw [hkind] at hmem
      obtain ⟨hbefore, hkept⟩ := Table.mem_filter.1 hmem
      obtain ⟨stored, hfind, hdictionary⟩ := h.entry_value entry hbefore
      refine ⟨stored, Table.find?_filter_of_keep hfind ?_, hdictionary⟩
      rwa [hdictionary]
    | session | disk =>
      rw [hkind] at hmem
      exact h.entry_value entry hmem

theorem transition {world : World} {exchange : Exchange Nat} {next : Store} (h : Sound store)
    (hstep : Transition world store exchange next) : Sound next := by
  cases hstep with
  | keep => exact h
  | session => exact h.create _
  | disk => exact h.create _
  | dictionary => exact h.describe _ _
  | release hlive => exact h.remove hlive

end Sound

/-- Every store with a history is sound. -/
theorem History.sound {world : World} {history : List (Exchange Nat)} {store : Store}
    (h : History world history store) : Sound store := by
  induction h with
  | start => exact .empty
  | call call _ ih => exact ih.transition (transition_answer world _ call)

/-- The reference was handed out once and is not alive any more. -/
def Gone (store : Store) (reference : Nat) : Prop :=
  reference ≤ store.next ∧ store.owned.find? reference = none

theorem Gone.create {store : Store} {reference : Nat} (h : Gone store reference)
    (object : Object) : Gone (store.create object) reference := by
  obtain ⟨hle, hfind⟩ := h
  refine ⟨Nat.le_succ_of_le hle, ?_⟩
  rw [find?_owned_create, if_neg (by omega)]
  exact hfind

/-- No call brings a reference back that is gone. -/
theorem Gone.transition {world : World} {store next : Store} {exchange : Exchange Nat}
    {reference : Nat} (h : Gone store reference) (hstep : Transition world store exchange next) :
    Gone next reference := by
  cases hstep with
  | keep => exact h
  | session => exact h.create _
  | disk => exact h.create _
  | @dictionary disk name entries hdisk hentries =>
    obtain ⟨hnext, -⟩ :=
      foldl_addEntry_counters (store.next + 1) (store.create (.dictionary name)) entries
    obtain ⟨hle, hfind⟩ := h
    have hafter : (store.describe name entries).next = store.next + 1 + entries.length := hnext
    refine ⟨by omega, ?_⟩
    rw [find?_owned_describe, if_neg (by omega)]
    exact hfind
  | @release other object hlive =>
    obtain ⟨hle, hfind⟩ := h
    refine ⟨by rwa [remove_next], ?_⟩
    rw [find?_owned_remove, hfind, ite_self]

theorem gone_of_release {world : World} {store next : Store} {reference : Nat}
    (hsound : Sound store) (hstep : Transition world store ⟨.release reference, .ok ()⟩ next) :
    Gone next reference := by
  cases hstep with
  | keep hacquired hreleased =>
    obtain ⟨fault, hfault⟩ := hreleased rfl
    cases hfault
  | @release _ object hlive =>
    unfold Gone
    rw [remove_next, remove_owned]
    exact ⟨hsound.le_of_find? hlive, Table.find?_erase_self _ _⟩

/-- What was given back is gone. -/
theorem History.gone {world : World} {history : List (Exchange Nat)} {store : Store}
    (h : History world history store) {reference : Nat}
    (hmem : ⟨.release reference, .ok ()⟩ ∈ history) : Gone store reference := by
  induction h with
  | start => cases hmem
  | @call history store call hbefore ih =>
    have hstep := transition_answer world store call
    rw [List.mem_append, List.mem_singleton] at hmem
    rcases hmem with hmem | hmem
    · exact (ih hmem).transition hstep
    · rw [← hmem] at hstep
      exact gone_of_release hbefore.sound hstep

theorem Reachable.sound {world : World} {store : Store} (h : Reachable world store) :
    Sound store := by
  obtain ⟨history, hhistory⟩ := h
  exact hhistory.sound

end DiskQuery.Store
