import DiskQuery.Proofs.Store.Steps

/-!
# Calls that come to nothing

A call breaks off if the reference that it is given does not stand for what the
call needs, and for no other reason.  It may also find nothing, or copy nothing.
In all of these the store stays as it was, and the buffer too.

There are four groups.

* References.  `Call.argument?` is the reference of a call and the role that it
  has there, and `Serves` says that the reference is fit for it.
* Refusals.  `Decides` says that a check depends on that alone, and `Hinges` that
  an answer does.
* Counters.  A call takes at most a number for each entry of a description and one
  more (`counters_serve_le`).
* The result.  `Atomic` and `AtomicCopy` are about one call, and `atomic_serve`
  says that they hold after any calls, of every call.
-/

namespace DiskQuery.Store

/-! ## References -/

/-- What a call needs a reference for. -/
inductive Role where
  /-- A live object of one kind. -/
  | object (kind : Kind)
  /-- A live object, of any kind. -/
  | anyObject
  /-- A live value. -/
  | value
deriving DecidableEq, Repr

end Store

/-- The reference that a call is given, and its role there. -/
def Call.argument? {ρ : Type} : Call ρ → Option (ρ × Store.Role)
  | .createSession => none
  | .createDisk reference _ => some (reference, .object .session)
  | .copyDescription reference => some (reference, .object .disk)
  | .value reference _ => some (reference, .object .dictionary)
  | .boolean reference => some (reference, .value)
  | .textLength reference => some (reference, .value)
  | .maxSize _ => none
  | .copyText reference _ => some (reference, .value)
  | .release reference => some (reference, .anyObject)

/-- Whether a call came to nothing: it broke off, found nothing or copied
nothing. -/
def Exchange.Failed {ρ : Type} : Exchange ρ → Prop
  | ⟨_, .error _⟩ => True
  | ⟨.createSession, .ok reference⟩ => reference = none
  | ⟨.createDisk _ _, .ok reference⟩ => reference = none
  | ⟨.copyDescription _, .ok reference⟩ => reference = none
  | ⟨.value _ _, .ok reference⟩ => reference = none
  | ⟨.boolean _, .ok truth⟩ => truth = none
  | ⟨.textLength _, .ok length⟩ => length = none
  | ⟨.maxSize _, .ok _⟩ => False
  | ⟨.copyText _ _, .ok copied⟩ => copied.1 = false
  | ⟨.release _, .ok _⟩ => False

namespace Store

/-- A reference stands for what a role needs. -/
def Serves (store : Store) (reference : Nat) : Role → Prop
  | .object kind => ∃ object, store.owned.find? reference = some object ∧ object.kind = kind
  | .anyObject => store.isLive reference = true
  | .value => ∃ stored, store.values.find? reference = some stored

/-- The fault of a reference that does not. -/
def refusal (store : Store) (reference : Nat) : Role → Fault
  | .object kind => store.misuse reference kind
  | .anyObject => .releasedTwice reference
  | .value => .unknownValue reference

/-! ## Refusals -/

/-- A check finds something where a reference serves, and refuses it where it
does not. -/
structure Decides {α : Type} (store : Store) (reference : Nat) (role : Role)
    (found : Except Fault α) : Prop where
  accepts : store.Serves reference role → ∃ a, found = .ok a
  refuses : ¬store.Serves reference role → found = .error (store.refusal reference role)

section Checks

variable (store : Store) (reference : Nat)

theorem decides_expectSession :
    Decides store reference (.object .session) (store.expectSession reference) := by
  unfold expectSession
  constructor
  · rintro ⟨object, hlive, hkind⟩
    cases object <;> cases hkind
    exact ⟨(), by rw [hlive]⟩
  · intro hrefused
    split
    · exact absurd ⟨_, ‹_›, rfl⟩ hrefused
    · rfl

theorem decides_expectDisk :
    Decides store reference (.object .disk) (store.expectDisk reference) := by
  unfold expectDisk
  constructor
  · rintro ⟨object, hlive, hkind⟩
    cases object <;> cases hkind
    exact ⟨_, by rw [hlive]⟩
  · intro hrefused
    split
    · exact absurd ⟨_, ‹_›, rfl⟩ hrefused
    · rfl

theorem decides_expectDictionary :
    Decides store reference (.object .dictionary) (store.expectDictionary reference) := by
  unfold expectDictionary
  constructor
  · rintro ⟨object, hlive, hkind⟩
    cases object <;> cases hkind
    exact ⟨(), by rw [hlive]⟩
  · intro hrefused
    split
    · exact absurd ⟨_, ‹_›, rfl⟩ hrefused
    · rfl

theorem decides_expectOwned :
    Decides store reference .anyObject (store.expectOwned reference) := by
  unfold expectOwned
  constructor
  · intro hlive
    obtain ⟨object, hfind⟩ := Option.isSome_iff_exists.1 hlive
    exact ⟨object.kind, by rw [hfind]⟩
  · intro hrefused
    split
    · rename_i object hfind
      exact absurd (by rw [Serves, isLive, hfind, Option.isSome_some]) hrefused
    · rfl

end Checks

/-- The dictionary of a value is alive, so the value is all that is checked. -/
theorem Represents.decides_expectValue {world : World} {store : Store}
    (h : Represents world store) (reference : Nat) :
    Decides store reference .value (store.expectValue reference) := by
  rw [h.expectValue_eq]
  constructor
  · rintro ⟨stored, hvalue⟩
    exact ⟨stored.value, by rw [hvalue]⟩
  · intro hrefused
    split
    · exact absurd ⟨_, ‹_›⟩ hrefused
    · rfl

/-- An answer is a result where a reference serves, and where it does not it is
the refusal, with the store as it was. -/
structure Hinges {α : Type} (store : Store) (reference : Nat) (role : Role)
    (answer : Except Fault α × Store) : Prop where
  accepts : store.Serves reference role → ∃ a, answer.1 = .ok a
  refuses : ¬store.Serves reference role → answer = (.error (store.refusal reference role), store)

namespace Decides

variable {α β : Type} {store : Store} {reference : Nat} {role : Role} {found : Except Fault α}

theorem writing (h : Decides store reference role found) (change : α → Store → β × Store) :
    Hinges store reference role (store.writing found change) where
  accepts hserves := by
    obtain ⟨a, ha⟩ := h.accepts hserves
    rw [ha]
    exact ⟨_, rfl⟩
  refuses hrefused := by
    rw [h.refuses hrefused]
    rfl

theorem reading (h : Decides store reference role found) (answer : α → β) :
    Hinges store reference role (store.reading found answer) where
  accepts hserves := by
    obtain ⟨a, ha⟩ := h.accepts hserves
    rw [ha]
    exact ⟨_, rfl⟩
  refuses hrefused := by
    rw [h.refuses hrefused]
    rfl

end Decides

/-- Every call that is given a reference hinges on it. -/
theorem Represents.hinges_answer {world : World} {store : Store} (h : Represents world store)
    {call : Call Nat} {reference : Nat} {role : Role}
    (hargument : call.argument? = some (reference, role)) :
    Hinges store reference role (answer world call store) := by
  cases call with
  | createSession | maxSize => cases hargument
  | createDisk session name =>
    cases hargument
    exact (decides_expectSession store reference).writing _
  | copyDescription disk =>
    cases hargument
    exact (decides_expectDisk store reference).writing _
  | value dictionary key =>
    cases hargument
    exact (decides_expectDictionary store reference).reading _
  | boolean value | textLength value | copyText value buffer =>
    cases hargument
    exact (h.decides_expectValue reference).reading _
  | release other =>
    cases hargument
    exact (decides_expectOwned store reference).writing fun kind store =>
      ((), store.remove reference kind)

/-- A call without a reference never breaks off. -/
theorem exists_of_argument_eq_none (world : World) (store : Store) {call : Call Nat}
    (hargument : call.argument? = none) : ∃ a, (answer world call store).1 = .ok a := by
  cases call with
  | createSession | maxSize => exact ⟨_, rfl⟩
  | createDisk | copyDescription | value | boolean | textLength | copyText | release =>
    cases hargument

/-- A call breaks off where its reference does not serve, and only there. -/
theorem Represents.brokeOff_iff {world : World} {store : Store} (h : Represents world store)
    (call : Call Nat) :
    (∃ fault, (answer world call store).1 = .error fault) ↔
      ∃ reference role, call.argument? = some (reference, role) ∧
        ¬store.Serves reference role := by
  constructor
  · rintro ⟨fault, hfault⟩
    cases hargument : call.argument? with
    | none =>
      obtain ⟨a, ha⟩ := exists_of_argument_eq_none world store hargument
      rw [ha] at hfault
      cases hfault
    | some argument =>
      obtain ⟨reference, role⟩ := argument
      refine ⟨reference, role, rfl, fun hserves => ?_⟩
      obtain ⟨a, ha⟩ := (h.hinges_answer hargument).accepts hserves
      rw [ha] at hfault
      cases hfault
  · rintro ⟨reference, role, hargument, hrefused⟩
    rw [(h.hinges_answer hargument).refuses hrefused]
    exact ⟨_, rfl⟩

/-- A call that comes to nothing changes nothing. -/
theorem Transition.eq_self_of_failed {world : World} {store next : Store}
    {exchange : Exchange Nat} (hstep : Transition world store exchange next)
    (hfailed : exchange.Failed) : next = store := by
  cases hstep with
  | keep => rfl
  | session | disk | dictionary => cases hfailed
  | release => exact hfailed.elim

/-- A copy that fails leaves the buffer as it is. -/
theorem copyText_eq_self {world : World} {value : Value} {buffer : List UInt8}
    (hfailed : (copyText world value buffer).1 = false) :
    (copyText world value buffer).2 = buffer := by
  unfold copyText at hfailed ⊢
  cases hbytes : value.bytes? with
  | none => rfl
  | some bytes =>
    simp only [hbytes] at hfailed ⊢
    split at hfailed
    · rw [if_pos ‹_›]
    · cases hfailed

/-! ## Counters -/

/-- A description has at most `longest` entries, whatever the disk. -/
def World.Within (world : World) (longest : Nat) : Prop :=
  ∀ disk ∈ world.disks, ∀ entries, disk.description = some entries → entries.length ≤ longest

theorem World.Within.length_le {world : World} {longest : Nat} (h : world.Within longest)
    {name : String} {entries : List (Key × Value)}
    (hentries : world.description? name = some entries) : entries.length ≤ longest := by
  obtain ⟨disk, hdisk, hdescription⟩ := Option.bind_eq_some_iff.1 hentries
  exact h disk (List.mem_reverse.1 (List.mem_of_find?_eq_some hdisk)) entries hdescription

/-- A call takes a number for what it creates, and one for each entry. -/
theorem Transition.next_le {world : World} {store next : Store} {exchange : Exchange Nat}
    {longest : Nat} (hwithin : world.Within longest)
    (hstep : Transition world store exchange next) :
    next.next ≤ store.next + (longest + 1) ∧
      next.created + store.next ≤ next.next + store.created := by
  cases hstep with
  | keep => omega
  | session | disk =>
    rw [create_created, create_next]
    omega
  | @dictionary disk name entries hdisk hentries =>
    obtain ⟨hnext, -, hcreated, -⟩ :=
      foldl_addEntry_counters (store.next + 1) (store.create (.dictionary name)) entries
    have hlength := hwithin.length_le hentries
    rw [describe, hnext, hcreated, create_created, create_next]
    omega
  | release =>
    rw [remove_next, remove_created]
    omega

/-- So the counters stay below the number of calls, each with the longest
description. -/
theorem counters_serve_le {world : World} {longest : Nat} (hwithin : world.Within longest)
    (calls : List (Call Nat)) (store : Store) :
    (serve world calls store).2.next ≤ store.next + calls.length * (longest + 1) ∧
      (serve world calls store).2.created + store.next ≤
        (serve world calls store).2.next + store.created := by
  induction calls generalizing store with
  | nil => exact ⟨by simp [serve], by rw [serve, Nat.add_comm]⟩
  | cons call calls ih =>
    have hfirst := (transition_answer world store call).next_le hwithin
    have hrest := ih (answer world call store).2
    rw [serve, List.length_cons, Nat.succ_mul]
    dsimp only
    omega

/-! ## The result -/

/-- What a call is when it comes to nothing. -/
structure Atomic (world : World) (store : Store) (call : Call Nat) : Prop where
  /-- What follows is about the steps of a call, of which a fault undoes none. -/
  stepwise : (calling world call).on store = answer world call store
  kept : (⟨call, (answer world call store).1⟩ : Exchange Nat).Failed →
    (answer world call store).2 = store
  brokeOff_iff : (∃ fault, (answer world call store).1 = .error fault) ↔
    ∃ reference role, call.argument? = some (reference, role) ∧ ¬store.Serves reference role

/-- What a copy is when it comes to nothing: the buffer is written in place. -/
structure AtomicCopy (world : World) (store : Store) (reference : Nat) (buffer : List UInt8) :
    Prop where
  inPlace : (copyInto world store reference).on buffer =
    match (answer world (.copyText reference buffer) store).1 with
    | .ok (written, after) => (.ok written, after)
    | .error fault => (.error fault, buffer)
  kept : ((copyInto world store reference).on buffer).1 ≠ .ok true →
    ((copyInto world store reference).on buffer).2 = buffer
  brokeOff_iff : (∃ fault, ((copyInto world store reference).on buffer).1 = .error fault) ↔
    ¬store.Serves reference .value

theorem Represents.atomic {world : World} {store : Store} (h : Represents world store)
    (call : Call Nat) : Atomic world store call where
  stepwise := calling_on world call store
  kept := (transition_answer world store call).eq_self_of_failed
  brokeOff_iff := h.brokeOff_iff call

theorem Represents.atomicCopy {world : World} {store : Store} (h : Represents world store)
    {reference : Nat} (hfits : store.FitsMemory reference) (buffer : List UInt8) :
    AtomicCopy world store reference buffer := by
  have hinPlace := copyInto_on world hfits buffer
  have hdecides := h.decides_expectValue reference
  by_cases hserves : store.Serves reference .value
  · obtain ⟨value, hvalue⟩ := hdecides.accepts hserves
    have hon : (copyInto world store reference).on buffer =
        (.ok (copyText world value buffer).1, (copyText world value buffer).2) := by
      rw [hinPlace, answer, reading, hvalue]
      rfl
    refine ⟨hinPlace, fun hfailed => ?_, ?_⟩
    · rw [hon] at hfailed ⊢
      exact copyText_eq_self (by simpa using hfailed)
    · rw [hon]
      refine iff_of_false ?_ (not_not_intro hserves)
      rintro ⟨fault, hfault⟩
      cases hfault
  · have hon : (copyInto world store reference).on buffer =
        (.error (.unknownValue reference), buffer) := by
      rw [hinPlace, answer, reading, hdecides.refuses hserves]
      rfl
    refine ⟨hinPlace, fun _ => ?_, ?_⟩
    · rw [hon]
    · rw [hon]
      exact iff_of_true ⟨_, rfl⟩ hserves

/-- After any calls, every call that comes to nothing leaves the store and the
buffer as they were, and breaks off for its reference alone.  The counters stay
within what so many calls take. -/
theorem atomic_serve (world : World) (calls : List (Call Nat)) :
    let store := (serve world calls {}).2
    (∀ call, Atomic world store call) ∧
      (∀ reference buffer, store.FitsMemory reference → AtomicCopy world store reference buffer) ∧
      ∀ longest, world.Within longest →
        store.created ≤ store.next ∧ store.next ≤ calls.length * (longest + 1) := by
  have hrepresents := represents_serve world calls
  refine ⟨hrepresents.atomic, fun _ buffer hfits => hrepresents.atomicCopy hfits buffer, ?_⟩
  intro longest hwithin
  obtain ⟨hnext, hcreated⟩ := counters_serve_le hwithin calls {}
  exact ⟨hcreated, by rwa [Nat.zero_add] at hnext⟩

/-- The disk `d` with a text of one byte for its vendor. -/
def shortVendor : World where
  disks := [⟨"d", some [(.deviceVendor, .text "A")]⟩]

/-- The value 4 of the dictionary 3 does not go into a buffer of one byte, and the
disk 2 is no value. -/
theorem atomic_serve_of_short_buffer :
    let store := (serve shortVendor
      [.createSession, .createDisk 1 ⟨[100], by decide⟩, .copyDescription 2] {}).2
    (store.FitsMemory 4 ∧ AtomicCopy shortVendor store 4 [7] ∧
      (copyInto shortVendor store 4).on [7] = (.ok false, [7])) ∧
    (¬store.Serves 2 .value ∧
      ∃ fault, (answer shortVendor (.boolean 2) store).1 = .error fault) ∧
    shortVendor.Within 1 ∧ store.next ≤ 6 := by
  intro store
  have hvalue : store.expectValue 4 = .ok (.text "A") := rfl
  have hfits : store.FitsMemory 4 := by
    intro value bytes hfound hbytes
    rw [hvalue] at hfound
    cases hfound
    cases hbytes
    decide
  have hrefused : ¬store.Serves 2 .value := by
    rintro ⟨stored, hfind⟩
    cases hfind
  have hwithin : shortVendor.Within 1 := by
    intro disk hdisk entries hentries
    cases List.mem_singleton.1 hdisk
    cases hentries
    exact Nat.le_refl 1
  obtain ⟨hcall, hcopy, hcounters⟩ := atomic_serve shortVendor
    [.createSession, .createDisk 1 ⟨[100], by decide⟩, .copyDescription 2]
  refine ⟨⟨hfits, hcopy 4 [7] hfits, rfl⟩, ⟨hrefused, ?_⟩, hwithin, (hcounters 1 hwithin).2⟩
  exact (hcall (.boolean 2)).brokeOff_iff.2 ⟨2, .value, rfl, hrefused⟩

end DiskQuery.Store
