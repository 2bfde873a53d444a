import DiskQuery.Proofs.Store.Description

/-!
# Giving everything back

A client that owns what it creates leaves in the tables of a store what it
found there, whoever else has references in them.  Only the counters show that
it ran.

There are two groups.

* Restored stores.  `Restored` compares a store with an earlier one.  Giving a
  new object back restores the store of before, whatever restored the store in
  between (`Restored.create`, `Restored.describe`).
* Clients.  `Leaves` is a client that ends with a result and restores the
  store, and `leaves_owning` is its rule for a reference that is owned while a
  body runs.
-/

namespace DiskQuery.Store

open Client

/-! ## Restored stores -/

/-- The tables of `last` are those of `store`, and `kinds` were created and
given back in between. -/
structure Restored (store : Store) (kinds : List Kind) (last : Store) : Prop where
  owned : last.owned = store.owned
  values : last.values = store.values
  entries : last.entries = store.entries
  created : last.created = store.created + kinds.length
  released : last.released = store.released ++ kinds

/-! ### The entries of a dictionary -/

/-- Without what belongs to a dictionary, the tables are those of before its
entries were added. -/
theorem foldl_addEntry_foreign {store : Store} {dictionary : Nat} {name : String}
    (h : Sound store) (hlive : store.owned.find? dictionary = some (.dictionary name))
    (entries : List (Key × Value)) :
    (entries.foldl (addEntry dictionary) store).values.filter
        (fun _ stored => decide (stored.dictionary ≠ dictionary)) =
      store.values.filter (fun _ stored => decide (stored.dictionary ≠ dictionary)) ∧
    (entries.foldl (addEntry dictionary) store).entries.filter
        (fun key _ => decide (key.1 ≠ dictionary)) =
      store.entries.filter (fun key _ => decide (key.1 ≠ dictionary)) := by
  induction entries generalizing store with
  | nil => exact ⟨rfl, rfl⟩
  | cons entry rest ih =>
    obtain ⟨hvalues, hentries⟩ := ih (h.addEntry hlive entry) hlive
    rw [List.foldl_cons, hvalues, hentries]
    constructor
    · refine Table.filter_insert_of_dropped (by simp) ?_
      intro old hmem hkey
      have hle := h.values_le old.1 (Table.mem_keys_of_mem hmem)
      omega
    · refine Table.filter_insert_of_dropped (by simp) ?_
      intro old _ hkey
      rw [hkey]
      simp

namespace Restored

variable {store middle last : Store} {kinds more : List Kind}

theorem refl (store : Store) : Restored store [] store where
  owned := rfl
  values := rfl
  entries := rfl
  created := rfl
  released := (List.append_nil _).symm

theorem trans (hfirst : Restored store kinds middle) (hsecond : Restored middle more last) :
    Restored store (kinds ++ more) last where
  owned := hsecond.owned.trans hfirst.owned
  values := hsecond.values.trans hfirst.values
  entries := hsecond.entries.trans hfirst.entries
  created := by
    rw [hsecond.created, hfirst.created, List.length_append]
    omega
  released := by rw [hsecond.released, hfirst.released, List.append_assoc]

/-- A restored store has as many objects alive as before. -/
theorem live (h : Restored store kinds last) : last.live = store.live := by
  unfold Store.live
  rw [h.owned]

/-- Giving a new session or disk back restores the store. -/
theorem create {object : Object} (hsound : Sound store) (hkind : object.kind ≠ .dictionary)
    (h : Restored (store.create object) kinds last) :
    Restored store (kinds ++ [object.kind]) (last.remove (store.next + 1) object.kind) where
  owned := by
    rw [remove_owned, h.owned]
    exact Table.erase_insert_of_notMem hsound.next_notMem_owned object
  values := by
    rw [remove_values_of_ne _ _ hkind, h.values]
    rfl
  entries := by
    rw [remove_entries_of_ne _ _ hkind, h.entries]
    rfl
  created := by
    rw [remove_created, h.created, create_created, List.length_append, List.length_singleton]
    omega
  released := by
    rw [remove_released, h.released, List.append_assoc]
    rfl

/-- Giving a new dictionary back takes its values and entries away, and no
others. -/
theorem describe {name : String} {entries : List (Key × Value)} (hsound : Sound store)
    (h : Restored (store.describe name entries) kinds last) :
    Restored store (kinds ++ [.dictionary]) (last.remove (store.next + 1) .dictionary) := by
  obtain ⟨_, howned, hcreated, hreleased⟩ :=
    foldl_addEntry_counters (store.next + 1) (store.create (.dictionary name)) entries
  have hlive : (store.create (.dictionary name)).owned.find? (store.next + 1) =
      some (.dictionary name) := Table.find?_insert_self _ _ _
  obtain ⟨hvalues, hentries⟩ := foldl_addEntry_foreign (hsound.create _) hlive entries
  constructor
  · rw [remove_owned, h.owned, Store.describe, howned]
    exact Table.erase_insert_of_notMem hsound.next_notMem_owned _
  · rw [remove_values_dictionary, h.values, Store.describe, hvalues]
    refine Table.filter_eq_self fun entry hmem => decide_eq_true ?_
    obtain ⟨owner, howner⟩ := hsound.value_dictionary entry hmem
    have hle := hsound.le_of_find? howner
    omega
  · rw [remove_entries_dictionary, h.entries, Store.describe, hentries]
    refine Table.filter_eq_self fun entry hmem => decide_eq_true ?_
    have hle := hsound.dictionary_le hmem
    omega
  · rw [remove_created, h.created, Store.describe, hcreated, create_created,
      List.length_append, List.length_singleton]
    omega
  · rw [remove_released, h.released, Store.describe, hreleased, List.append_assoc]
    rfl

end Restored

/-! ## Clients -/

/-- The client ends with a result, and has given back all that it created. -/
structure Leaves {α : Type} (world : World) (store : Store) (client : Client Nat α)
    (result : α) (kinds : List Kind) : Prop where
  outcome : (client.run world.service store).outcome = .ok result
  restored : Restored store kinds (client.run world.service store).state

section Leaves

variable {α γ : Type} {world : World} {store middle : Store}

theorem Observes.leaves {client : Client Nat α} {result : α}
    (h : Observes world store client result) : Leaves world store client result [] where
  outcome := h.outcome
  restored := by
    rw [h.state]
    exact .refl store

/-- A creation that finds nothing leaves the store as it is. -/
theorem leaves_owning_absent {create : Client Nat (Option γ)} {owner : γ → Guard Nat}
    {absent : Client Nat α} {within : γ → Client Nat α} {result : α}
    (hcreate : Observes world store create none)
    (habsent : Observes world store absent result) :
    Leaves world store (Guard.owning create owner absent within) result [] := by
  unfold Guard.owning
  exact (hcreate.bind habsent).leaves

/-- A reference that is owned while a body runs is given back after it, after
whatever the body created. -/
theorem leaves_owning {create : Client Nat (Option γ)} (owner : γ → Guard Nat)
    {absent : Client Nat α} {within : γ → Client Nat α} {result : α} {held : γ}
    (object : Object) {kinds : List Kind}
    (houtcome : (create.run world.service store).outcome = .ok (some held))
    (hstate : (create.run world.service store).state = middle)
    (hlive : middle.owned.find? (owner held).reference = some object)
    (hbody : Leaves world middle (within held) result kinds)
    (hback : ∀ {last}, Restored middle kinds last →
      Restored store (kinds ++ [object.kind])
        (last.remove (owner held).reference object.kind)) :
    Leaves world store (Guard.owning create owner absent within) result
      (kinds ++ [object.kind]) := by
  have hrestored := hbody.restored
  rw [← hrestored.owned] at hlive
  have hrelease := answer_release world hlive
  have hrun : (Guard.owning create owner absent within).run world.service store =
      (create.run world.service store).followedBy
        (((owner held).holding (within held)).run world.service middle) := by
    unfold Guard.owning
    rw [run_bind_of_ok _ houtcome, hstate]
  have hholding := run_holding world.service (owner held) (within held) middle
  have hanswer : world.service.answer = answer world := rfl
  simp only [hanswer, hrelease, hbody.outcome] at hholding
  constructor
  · rw [hrun, hholding]
    rfl
  · rw [hrun, hholding]
    exact hback hrestored

end Leaves

/-! ### Creations -/

section Creations

variable {γ : Type} {world : World} {store next : Store} {call : Call Nat} {answered : call.Answer}
  {owner : γ → Guard Nat} {client : Client Nat (Option γ)}

/-- A creating call that finds nothing. -/
theorem observes_of_acquires (hacquires : Acquires call owner client)
    (hanswer : world.service.answer call store = (.ok answered, store))
    (hnone : (⟨call, .ok answered⟩ : Exchange Nat).acquired? = none) :
    Observes world store client none := by
  obtain ⟨_, hstate, hacquired, hfault⟩ := hacquires world.service store
  rw [hanswer] at hstate hacquired hfault
  refine ⟨?_, hstate⟩
  rw [hnone] at hacquired
  rcases houtcome : (client.run world.service store).outcome with fault | _ | held
  · cases hfault fault houtcome
  · rfl
  · rw [houtcome] at hacquired
    cases hacquired

/-- A creating call that hands something out. -/
theorem created_of_acquires {reference : Nat} (hacquires : Acquires call owner client)
    (hanswer : world.service.answer call store = (.ok answered, next))
    (hsome : (⟨call, .ok answered⟩ : Exchange Nat).acquired? = some reference) :
    ∃ held, (owner held).reference = reference ∧
      (client.run world.service store).outcome = .ok (some held) ∧
      (client.run world.service store).state = next := by
  obtain ⟨_, hstate, hacquired, _⟩ := hacquires world.service store
  rw [hanswer] at hstate hacquired
  rw [hsome] at hacquired
  rcases houtcome : (client.run world.service store).outcome with fault | _ | held
  · rw [houtcome] at hacquired
    cases hacquired
  · rw [houtcome] at hacquired
    cases hacquired
  · rw [houtcome] at hacquired
    cases hacquired
    exact ⟨held, rfl, rfl, hstate⟩

end Creations

end DiskQuery.Store
