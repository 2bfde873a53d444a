import DiskQuery.Proofs.Client.Trace
import DiskQuery.Proofs.Store.Copy
import DiskQuery.Proofs.Store.History
import Mathlib.Data.List.DropRight

/-!
# Reading a description from a store

A dictionary answers for the entries that it was made from.  Reading it changes
nothing in the store, whatever the entries are.

There are three groups.

* Entries.  Of several entries of one key the last one counts (`lastValue?`).
  `Shows` says that the tables of a store answer for a list of entries, and
  `shows_describe` that a new dictionary does.
* Readings.  `Observes` is a client that ends with a result and leaves the
  store as it is.  It is closed under `bind` and `andThen`.
* Attributes.  `World.attributesOf` says what entries read as, and
  `Shows.lookup` that a query answers with just that.
-/

namespace DiskQuery.Store

open Client

/-! ## Entries -/

/-- The value of the last entry of a key. -/
def lastValue? (entries : List (Key × Value)) (key : Key) : Option Value :=
  (entries.reverse.find? fun entry => entry.1 == key).map Prod.snd

theorem lastValue?_append (entries : List (Key × Value)) (entry : Key × Value) (key : Key) :
    lastValue? (entries ++ [entry]) key =
      if entry.1 = key then some entry.2 else lastValue? entries key := by
  unfold lastValue?
  rw [List.reverse_append, List.reverse_singleton, List.singleton_append, List.find?_cons]
  by_cases hkey : entry.1 = key
  · simp [hkey]
  · rw [beq_false_of_ne hkey, if_neg hkey]

theorem lastValue?_eq_none {entries : List (Key × Value)} {key : Key} :
    lastValue? entries key = none ↔ key ∉ entries.map Prod.fst := by
  unfold lastValue?
  rw [Option.map_eq_none_iff, List.find?_eq_none]
  constructor
  · intro hnone hmem
    obtain ⟨entry, hentry, hkey⟩ := List.mem_map.1 hmem
    exact hnone entry (List.mem_reverse.2 hentry) (beq_iff_eq.2 hkey)
  · intro hnone entry hentry hkey
    exact hnone (List.mem_map.2 ⟨entry, List.mem_reverse.1 hentry, beq_iff_eq.1 hkey⟩)

/-- Every choice of a value for some keys is that of a list of entries. -/
theorem exists_lastValue? (found : Key → Option Value) :
    ∃ entries, ∀ key, lastValue? entries key = found key := by
  refine ⟨[.mediaRemovable, .deviceVendor, .deviceModel].filterMap
    fun key => (found key).map (key, ·), ?_⟩
  intro key
  cases hremovable : found .mediaRemovable <;> cases hvendor : found .deviceVendor <;>
    cases hmodel : found .deviceModel <;> cases key <;> simp_all [lastValue?]

/-- The tables answer for the entries of a dictionary. -/
structure Shows (store : Store) (dictionary : Nat) (entries : List (Key × Value)) : Prop where
  live : ∃ name, store.owned.find? dictionary = some (.dictionary name)
  absent : ∀ key, lastValue? entries key = none → store.entries.find? (dictionary, key) = none
  present : ∀ key value, lastValue? entries key = some value →
    ∃ reference, store.entries.find? (dictionary, key) = some reference ∧
      store.values.find? reference = some ⟨dictionary, value⟩

/-- A dictionary that has an entry is not above the last number. -/
theorem Sound.dictionary_le {store : Store} (h : Sound store) {entry : (Nat × Key) × Nat}
    (hmem : entry ∈ store.entries.entries) : entry.1.1 ≤ store.next := by
  obtain ⟨stored, hfind, hdictionary⟩ := h.entry_value entry hmem
  obtain ⟨name, hlive⟩ := h.value_dictionary _ (Table.mem_of_find? hfind)
  rw [← hdictionary]
  exact h.le_of_find? hlive

/-- Nothing stands at a number that was not given out. -/
theorem Sound.find?_of_next_lt {store : Store} (h : Sound store) {r : Nat} (hr : store.next < r) :
    store.owned.find? r = none ∧ store.values.find? r = none ∧
      ∀ key, store.entries.find? (r, key) = none := by
  refine ⟨Table.find?_of_notMem fun hmem => ?_, Table.find?_of_notMem fun hmem => ?_,
    fun key => ?_⟩
  · have := h.owned_le r hmem
    omega
  · have := h.values_le r hmem
    omega
  · cases hfind : store.entries.find? (r, key) with
    | none => rfl
    | some reference =>
      have hle : r ≤ store.next := h.dictionary_le (Table.mem_of_find? hfind)
      omega

/-- A dictionary without entries yet shows none. -/
theorem shows_create {store : Store} (h : Sound store) (name : String) :
    Shows (store.create (.dictionary name)) (store.next + 1) [] where
  live := ⟨name, Table.find?_insert_self _ _ _⟩
  absent key _ := by
    obtain ⟨-, -, hentries⟩ := h.find?_of_next_lt (Nat.lt_succ_self _)
    exact hentries key
  present key value hlast := by cases hlast

theorem Shows.addEntry {store : Store} {dictionary : Nat} {entries : List (Key × Value)}
    (h : Shows store dictionary entries) (hsound : Sound store) (entry : Key × Value) :
    Shows (store.addEntry dictionary entry) dictionary (entries ++ [entry]) where
  live := h.live
  absent key hlast := by
    rw [lastValue?_append] at hlast
    by_cases hkey : entry.1 = key
    · rw [if_pos hkey] at hlast
      cases hlast
    · rw [if_neg hkey] at hlast
      have hne : (dictionary, key) ≠ (dictionary, entry.1) := by simpa using Ne.symm hkey
      unfold Store.addEntry
      rw [Table.find?_insert_of_ne _ _ hne]
      exact h.absent key hlast
  present key value hlast := by
    rw [lastValue?_append] at hlast
    by_cases hkey : entry.1 = key
    · rw [if_pos hkey] at hlast
      cases hlast
      subst hkey
      exact ⟨store.next + 1, Table.find?_insert_self _ _ _, Table.find?_insert_self _ _ _⟩
    · rw [if_neg hkey] at hlast
      obtain ⟨reference, hentry, hvalue⟩ := h.present key value hlast
      have hne : (dictionary, key) ≠ (dictionary, entry.1) := by simpa using Ne.symm hkey
      have hle := hsound.values_le _ (Table.mem_keys_of_find? hvalue)
      refine ⟨reference, ?_, ?_⟩
      · unfold Store.addEntry
        rw [Table.find?_insert_of_ne _ _ hne]
        exact hentry
      · unfold Store.addEntry
        rw [Table.find?_insert_of_ne _ _ (by omega)]
        exact hvalue

theorem Shows.foldl_addEntry {store : Store} {dictionary : Nat} {entries : List (Key × Value)}
    (h : Shows store dictionary entries) (hsound : Sound store) (more : List (Key × Value)) :
    Shows (more.foldl (Store.addEntry dictionary) store) dictionary (entries ++ more) := by
  induction more generalizing store entries with
  | nil => rwa [List.append_nil]
  | cons entry rest ih =>
    obtain ⟨name, hlive⟩ := h.live
    have hrest := ih (h.addEntry hsound entry) (hsound.addEntry hlive entry)
    rwa [List.append_assoc, List.singleton_append] at hrest

/-- A new dictionary shows the entries that it was made from. -/
theorem shows_describe {store : Store} (h : Sound store) (name : String)
    (entries : List (Key × Value)) :
    Shows (store.describe name entries) (store.next + 1) entries :=
  (shows_create h name).foldl_addEntry (h.create _) entries

/-- A live dictionary shows entries, whatever was done to the store since it was
made. -/
theorem exists_shows {store : Store} {dictionary : Nat} {name : String} (h : Sound store)
    (hlive : store.owned.find? dictionary = some (.dictionary name)) :
    ∃ entries, Shows store dictionary entries := by
  have hfound : ∀ key, ∃ found : Option Value,
      (found = none → store.entries.find? (dictionary, key) = none) ∧
      ∀ value, found = some value → ∃ reference,
        store.entries.find? (dictionary, key) = some reference ∧
          store.values.find? reference = some ⟨dictionary, value⟩ := by
    intro key
    cases hentry : store.entries.find? (dictionary, key) with
    | none => exact ⟨none, fun _ => rfl, fun value hvalue => by cases hvalue⟩
    | some reference =>
      obtain ⟨⟨owner, value⟩, hvalue, howner⟩ := h.entry_value _ (Table.mem_of_find? hentry)
      cases howner
      refine ⟨some value, nofun, ?_⟩
      intro other hother
      cases hother
      exact ⟨reference, rfl, hvalue⟩
  choose found habsent hpresent using hfound
  obtain ⟨entries, hlast⟩ := exists_lastValue? found
  refine ⟨entries, ⟨name, hlive⟩, ?_, ?_⟩
  · intro key hnone
    exact habsent key ((hlast key).symm.trans hnone)
  · intro key value hsome
    exact hpresent key value ((hlast key).symm.trans hsome)

/-! ## Readings -/

/-- The client ends with a result and leaves the store as it is. -/
structure Observes {α : Type} (world : World) (store : Store) (client : Client Nat α)
    (result : α) : Prop where
  outcome : (client.run world.service store).outcome = .ok result
  state : (client.run world.service store).state = store

section Observes

variable {α β ε : Type} {world : World} {store : Store}

theorem observes_pure (result : α) : Observes world store (pure result) result :=
  ⟨rfl, rfl⟩

theorem observes_log (event : Event Nat) : Observes world store (log event) () :=
  ⟨rfl, rfl⟩

theorem observes_perform {call : Call Nat} {a : call.Answer}
    (h : answer world call store = (.ok a, store)) : Observes world store (perform call) a := by
  have hrun : (perform call).run world.service store =
      ⟨(answer world call store).1, (answer world call store).2,
        [.asked call (answer world call store).1]⟩ := rfl
  constructor
  · rw [hrun, h]
  · rw [hrun, h]

theorem Observes.bind {client : Client Nat α} {next : α → Client Nat β} {a : α} {b : β}
    (hclient : Observes world store client a) (hnext : Observes world store (next a) b) :
    Observes world store (client >>= next) b := by
  have hrun := run_bind_of_ok next hclient.outcome
  rw [hclient.state] at hrun
  constructor
  · rw [hrun]
    exact hnext.outcome
  · rw [hrun]
    exact hnext.state

theorem Observes.andThen {client : Client Nat (Except ε α)}
    {next : α → Client Nat (Except ε β)} {result : Except ε α} {after : α → Except ε β}
    (hclient : Observes world store client result)
    (hnext : ∀ a, Observes world store (next a) (after a)) :
    Observes world store (client.andThen next) (result >>= after) := by
  refine hclient.bind ?_
  cases result with
  | ok a => exact hnext a
  | error error => exact observes_pure _

end Observes

/-! ### Calls on a dictionary -/

theorem answer_value {store : Store} {dictionary : Nat} {name : String} (world : World)
    (hlive : store.owned.find? dictionary = some (.dictionary name)) (key : Key) :
    answer world (.value dictionary key) store =
      (.ok (store.entries.find? (dictionary, key)), store) := by
  have hdictionary : store.expectDictionary dictionary = .ok () := by
    rw [expectDictionary, hlive]
  rw [answer, reading, hdictionary]
  rfl

theorem expectValue_of_find? {store : Store} {reference dictionary : Nat} {name : String}
    {value : Value} (hlive : store.owned.find? dictionary = some (.dictionary name))
    (hvalue : store.values.find? reference = some ⟨dictionary, value⟩) :
    store.expectValue reference = .ok value := by
  have hdictionary : store.expectDictionary dictionary = .ok () := by
    rw [expectDictionary, hlive]
  simp only [expectValue, hvalue, hdictionary]
  rfl

/-! ## Attributes -/

namespace Shows

variable {store : Store} {description : Description Nat} {entries : List (Key × Value)}

/-- A boolean is read from the last entry of its key. -/
theorem boolean (h : Shows store description.guard.reference entries) (world : World)
    (key : Key) :
    Observes world store (description.boolean key)
      ((lastValue? entries key).mapM (truthOf key)) := by
  obtain ⟨name, hlive⟩ := h.live
  unfold Description.boolean
  refine (observes_perform (answer_value world hlive key)).bind ?_
  cases hlast : lastValue? entries key with
  | none =>
    rw [h.absent key hlast]
    exact observes_pure _
  | some value =>
    obtain ⟨reference, hentry, hvalue⟩ := h.present key value hlast
    have hexpect := expectValue_of_find? hlive hvalue
    have htruth : answer world (.boolean reference) store = (.ok value.truth?, store) := by
      rw [answer, reading, hexpect]
      rfl
    rw [hentry]
    refine (observes_perform htruth).bind ?_
    cases value <;> exact observes_pure _

/-- A text is read from the last entry of its key. -/
theorem text (h : Shows store description.guard.reference entries) (world : World)
    (key : Key) :
    Observes world store (description.text key)
      ((lastValue? entries key).mapM (world.textOf key)) := by
  obtain ⟨name, hlive⟩ := h.live
  unfold Description.text
  refine (observes_perform (answer_value world hlive key)).bind ?_
  cases hlast : lastValue? entries key with
  | none =>
    rw [h.absent key hlast]
    exact observes_pure _
  | some value =>
    obtain ⟨reference, hentry, hvalue⟩ := h.present key value hlast
    have hexpect := expectValue_of_find? hlive hvalue
    rw [hentry]
    have hlength : answer world (.textLength reference) store =
        (.ok (value.length?.map Int.ofNat), store) := by
      rw [answer, reading, hexpect]
      rfl
    refine (observes_perform hlength).bind ?_
    cases hunits : value.length? with
    | none =>
      cases value with
      | text | raw => cases hunits
      | boolean | number => exact observes_pure _
    | some length =>
      have hmaxSize : answer world (.maxSize (Int.ofNat length)) store =
          (.ok (maxSize world (Int.ofNat length)), store) := rfl
      have hread := textInBuffer_copyText world hunits key
      have htext : (some value).mapM (world.textOf key) = some <$> world.textOf key value := rfl
      refine (observes_perform hmaxSize).bind ?_
      rw [htext, ← hread]
      rcases bufferSize? (maxSize world (Int.ofNat length)) with _ | size
      · exact observes_pure _
      · simp only
        have hcopy : answer world (.copyText reference (List.replicate size 0)) store =
            (.ok (copyText world value (List.replicate size 0)), store) := by
          rw [answer, reading, hexpect]
          rfl
        refine (observes_perform hcopy).bind ?_
        rcases copyText world value (List.replicate size 0) with ⟨_ | _, buffer⟩
        · exact observes_pure _
        · exact observes_pure _

end Shows

/-- The text without its final blank characters. -/
def withoutFinalBlanks (text : String) : String :=
  String.ofList (text.toList.rdropWhile Text.isBlank)

/-- The attributes that entries hold.  The first error ends the reading. -/
def World.attributesOf (world : World) (entries : List (Key × Value)) :
    Except QueryError Attributes := do
  let removable ← (lastValue? entries .mediaRemovable).mapM (truthOf .mediaRemovable)
  let vendor ← (lastValue? entries .deviceVendor).mapM (world.textOf .deviceVendor)
  let model ← (lastValue? entries .deviceModel).mapM (world.textOf .deviceModel)
  pure ⟨removable, vendor.map withoutFinalBlanks, model.map withoutFinalBlanks⟩

/-- The answer of a query that reached a description. -/
theorem Shows.lookup {store : Store} {description : Description Nat}
    {entries : List (Key × Value)} (h : Shows store description.guard.reference entries)
    (world : World) (name : DeviceName) :
    Observes world store (description.lookup name)
      ((world.attributesOf entries).map .described) := by
  have hattributes : Observes world store description.attributes (world.attributesOf entries) := by
    rw [attributes_eq]
    refine (h.boolean world _).andThen fun removable => ?_
    refine (h.text world _).andThen fun vendor => ?_
    refine (h.text world _).andThen fun model => ?_
    exact observes_pure _
  have hanswer : (world.attributesOf entries).map Lookup.described =
      world.attributesOf entries >>= fun attributes => .ok (.described attributes) := by
    cases world.attributesOf entries <;> rfl
  rw [hanswer]
  unfold Description.lookup
  refine hattributes.andThen fun attributes => ?_
  exact (observes_log _).bind (observes_pure _)

end DiskQuery.Store
