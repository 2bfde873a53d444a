import DiskQuery.Proofs.Client.Alike
import DiskQuery.Proofs.Store.Representation
import Mathlib.Logic.Function.Basic

/-!
# Parts of a store

Clients that share a store each have a part of it: the references that were
handed out to them, and what belongs to those.  A part is just what the client
would have in a store of its own.  Only the numbers differ, because one counter
serves all.

There are four groups.

* Mirrors.  `Mirrors` says that a part of one store is all of another, up to
  the pairs of their references.
* Changes.  What both stores do alike keeps the mirror, and pairs what is new
  (`Extends`).  What happens elsewhere in the shared store keeps it too
  (`Mirrors.later`).
* One call.  Alike calls in the part and in the other store have alike answers
  (`Mirrors.answer`).
* Many parts.  `Apart` cuts a store into parts, and `simulates_apart` says that
  a call in one part leaves it cut.
-/

namespace DiskQuery.Store

variable {pairs more : Nat → Nat → Prop} {store middle last solo next : Store}

/-! ## Mirrors -/

/-- Values that are the same but for their dictionary. -/
def StoredAlike (pairs : Nat → Nat → Prop) (first second : Stored) : Prop :=
  pairs first.dictionary second.dictionary ∧ first.value = second.value

/-- The references on the left of the pairs are a part of the store that is
just what the store `solo` has. -/
structure Mirrors (pairs : Nat → Nat → Prop) (store solo : Store) : Prop where
  numbered : Numbered store
  numbered_solo : Numbered solo
  unique : Relator.BiUnique pairs
  bounded : ∀ r t, pairs r t → r ≤ store.next ∧ t ≤ solo.next
  owned : ∀ r t, pairs r t → store.owned.find? r = solo.owned.find? t
  values : ∀ r t, pairs r t →
    Option.Rel (StoredAlike pairs) (store.values.find? r) (solo.values.find? t)
  entries : ∀ r t, pairs r t → ∀ key,
    Option.Rel pairs (store.entries.find? (r, key)) (solo.entries.find? (t, key))
  /-- All that is alive in `solo` is paired. -/
  owned_paired : ∀ t object, solo.owned.find? t = some object → ∃ r, pairs r t
  values_paired : ∀ t stored, solo.values.find? t = some stored → ∃ r, pairs r t

theorem Mirrors.empty : Mirrors (fun _ _ => False) {} {} where
  numbered := .empty
  numbered_solo := .empty
  unique := ⟨fun _ _ _ h => h.elim, fun _ _ _ h => h.elim⟩
  bounded _ _ h := h.elim
  owned _ _ h := h.elim
  values _ _ h := h.elim
  entries _ _ h := h.elim
  owned_paired _ _ h := by cases h
  values_paired _ _ h := by cases h

/-- The pairs grew with a store: every new pair is one of a new reference, and
every new reference is paired. -/
structure Extends (pairs more : Nat → Nat → Prop) (store last : Store) : Prop where
  le : pairs ≤ more
  fresh : ∀ r t, more r t → pairs r t ∨ store.next < r
  filled : ∀ r, store.next < r → r ≤ last.next → ∃ t, more r t

theorem Extends.refl_of_next_le (pairs : Nat → Nat → Prop) (h : last.next ≤ store.next) :
    Extends pairs pairs store last where
  le := le_rfl
  fresh _ _ := .inl
  filled r hlow hhigh := by omega

theorem Extends.trans {wider : Nat → Nat → Prop} (hfirst : Extends pairs more store middle)
    (hsecond : Extends more wider middle last) (hle : store.next ≤ middle.next) :
    Extends pairs wider store last where
  le := hfirst.le.trans hsecond.le
  fresh r t hpair := by
    rcases hsecond.fresh r t hpair with hold | hnew
    · exact hfirst.fresh r t hold
    · exact .inr (by omega)
  filled r hlow hhigh := by
    by_cases hmiddle : r ≤ middle.next
    · obtain ⟨t, hpair⟩ := hfirst.filled r hlow hmiddle
      exact ⟨t, hsecond.le _ _ hpair⟩
    · exact hsecond.filled r (by omega) hhigh

/-- The next reference is paired. -/
theorem extends_with (pairs : Nat → Nat → Prop) (t : Nat) (h : last.next = store.next + 1) :
    Extends pairs (With pairs (store.next + 1) t) store last where
  le := le_with pairs _ t
  fresh r t' hpair := by
    rcases hpair with hold | ⟨rfl, -⟩
    · exact .inl hold
    · exact .inr (Nat.lt_succ_self _)
  filled r hlow hhigh := ⟨t, .inr ⟨by omega, rfl⟩⟩

/-! ## Changes -/

theorem storedAlike_mono (hle : pairs ≤ more) : StoredAlike pairs ≤ StoredAlike more :=
  fun _ _ h => ⟨hle _ _ h.1, h.2⟩

namespace Mirrors

theorem unique_with (h : Mirrors pairs store solo) :
    Relator.BiUnique (With pairs (store.next + 1) (solo.next + 1)) := by
  refine biUnique_with h.unique (fun t hpair => ?_) fun r hpair => ?_
  · have := (h.bounded _ t hpair).1
    omega
  · have := (h.bounded r _ hpair).2
    omega

/-- A pair that was there before is none of the next references. -/
theorem old_or_next (h : Mirrors pairs store solo) {r t : Nat}
    (hpair : With pairs (store.next + 1) (solo.next + 1) r t) :
    pairs r t ∧ r ≠ store.next + 1 ∧ t ≠ solo.next + 1 ∨
      r = store.next + 1 ∧ t = solo.next + 1 := by
  rcases hpair with hold | hnew
  · obtain ⟨hr, ht⟩ := h.bounded r t hold
    exact .inl ⟨hold, by omega, by omega⟩
  · exact .inr hnew

theorem le_of_with (h : Mirrors pairs store solo) {r t : Nat}
    (hpair : With pairs (store.next + 1) (solo.next + 1) r t) :
    r ≤ store.next + 1 ∧ t ≤ solo.next + 1 := by
  rcases hpair with hold | ⟨rfl, rfl⟩
  · obtain ⟨hr, ht⟩ := h.bounded r t hold
    exact ⟨by omega, by omega⟩
  · exact ⟨le_rfl, le_rfl⟩

/-- Both stores give the next reference to the same object. -/
theorem create (h : Mirrors pairs store solo) (object : Object) :
    Mirrors (With pairs (store.next + 1) (solo.next + 1)) (store.create object)
      (solo.create object) := by
  have hle := le_with pairs (store.next + 1) (solo.next + 1)
  obtain ⟨-, hvalues, hentries⟩ := h.numbered.find?_of_next_lt (Nat.lt_succ_self _)
  obtain ⟨-, hvalues', hentries'⟩ := h.numbered_solo.find?_of_next_lt (Nat.lt_succ_self _)
  constructor
  case numbered => exact h.numbered.create object
  case numbered_solo => exact h.numbered_solo.create object
  case unique => exact h.unique_with
  case bounded => exact fun _ _ => h.le_of_with
  case owned =>
    intro r t hpair
    rw [find?_owned_create, find?_owned_create]
    rcases h.old_or_next hpair with ⟨hold, hr, ht⟩ | ⟨rfl, rfl⟩
    · rw [if_neg hr, if_neg ht]
      exact h.owned r t hold
    · rw [if_pos rfl, if_pos rfl]
  case values =>
    intro r t hpair
    show Option.Rel _ (store.values.find? r) (solo.values.find? t)
    rcases hpair with hold | ⟨rfl, rfl⟩
    · exact optionRel_mono (storedAlike_mono hle) (h.values r t hold)
    · rw [hvalues, hvalues']
      exact .none
  case entries =>
    intro r t hpair key
    show Option.Rel _ (store.entries.find? (r, key)) (solo.entries.find? (t, key))
    rcases hpair with hold | ⟨rfl, rfl⟩
    · exact optionRel_mono hle (h.entries r t hold key)
    · rw [hentries, hentries']
      exact .none
  case owned_paired =>
    intro t found hfind
    rw [find?_owned_create] at hfind
    by_cases ht : t = solo.next + 1
    · exact ⟨_, .inr ⟨rfl, ht⟩⟩
    · rw [if_neg ht] at hfind
      obtain ⟨r, hpair⟩ := h.owned_paired t found hfind
      exact ⟨r, .inl hpair⟩
  case values_paired =>
    intro t stored hfind
    obtain ⟨r, hpair⟩ := h.values_paired t stored hfind
    exact ⟨r, .inl hpair⟩

/-- Both stores give the next reference to the same entry of paired
dictionaries. -/
theorem addEntry (h : Mirrors pairs store solo) {d d' : Nat} {name : String} (hpair : pairs d d')
    (hlive : store.owned.find? d = some (.dictionary name)) (entry : Key × Value) :
    Mirrors (With pairs (store.next + 1) (solo.next + 1)) (store.addEntry d entry)
      (solo.addEntry d' entry) := by
  have hle := le_with pairs (store.next + 1) (solo.next + 1)
  have hlive' : solo.owned.find? d' = some (.dictionary name) := h.owned d d' hpair ▸ hlive
  obtain ⟨howned, -, hentries⟩ := h.numbered.find?_of_next_lt (Nat.lt_succ_self _)
  obtain ⟨howned', -, hentries'⟩ := h.numbered_solo.find?_of_next_lt (Nat.lt_succ_self _)
  constructor
  case numbered => exact h.numbered.addEntry hlive entry
  case numbered_solo => exact h.numbered_solo.addEntry hlive' entry
  case unique => exact h.unique_with
  case bounded => exact fun _ _ => h.le_of_with
  case owned =>
    intro r t hpair
    show store.owned.find? r = solo.owned.find? t
    rcases hpair with hold | ⟨rfl, rfl⟩
    · exact h.owned r t hold
    · rw [howned, howned']
  case values =>
    intro r t hnew
    unfold Store.addEntry
    rw [Table.find?_insert, Table.find?_insert]
    rcases h.old_or_next hnew with ⟨hold, hr, ht⟩ | ⟨rfl, rfl⟩
    · rw [if_neg hr, if_neg ht]
      exact optionRel_mono (storedAlike_mono hle) (h.values r t hold)
    · rw [if_pos rfl, if_pos rfl]
      exact .some ⟨hle _ _ hpair, rfl⟩
  case entries =>
    intro r t hnew key
    have hsame : (r, key) = (d, entry.1) ↔ (t, key) = (d', entry.1) := by
      rw [Prod.mk.injEq, Prod.mk.injEq]
      refine and_congr_left fun _ => ⟨?_, ?_⟩
      · rintro rfl
        exact h.unique_with.2 hnew (hle _ _ hpair)
      · rintro rfl
        exact h.unique_with.1 hnew (hle _ _ hpair)
    unfold Store.addEntry
    rw [Table.find?_insert, Table.find?_insert]
    by_cases hentry : (r, key) = (d, entry.1)
    · rw [if_pos hentry, if_pos (hsame.1 hentry)]
      exact .some (.inr ⟨rfl, rfl⟩)
    · rw [if_neg hentry, if_neg fun h => hentry (hsame.2 h)]
      rcases hnew with hold | ⟨rfl, rfl⟩
      · exact optionRel_mono hle (h.entries r t hold key)
      · rw [hentries, hentries']
        exact .none
  case owned_paired =>
    intro t object hfind
    obtain ⟨r, hpair⟩ := h.owned_paired t object hfind
    exact ⟨r, .inl hpair⟩
  case values_paired =>
    intro t stored hfind
    unfold Store.addEntry at hfind
    rw [Table.find?_insert] at hfind
    by_cases ht : t = solo.next + 1
    · exact ⟨_, .inr ⟨rfl, ht⟩⟩
    · rw [if_neg ht] at hfind
      obtain ⟨r, hpair⟩ := h.values_paired t stored hfind
      exact ⟨r, .inl hpair⟩

theorem foldl_addEntry (h : Mirrors pairs store solo) {d d' : Nat} {name : String}
    (hpair : pairs d d') (hlive : store.owned.find? d = some (.dictionary name))
    (entries : List (Key × Value)) :
    ∃ more, Extends pairs more store (entries.foldl (Store.addEntry d) store) ∧
      Mirrors more (entries.foldl (Store.addEntry d) store)
        (entries.foldl (Store.addEntry d') solo) := by
  induction entries generalizing pairs store solo with
  | nil => exact ⟨pairs, .refl_of_next_le pairs le_rfl, h⟩
  | cons entry rest ih =>
    obtain ⟨more, hextends, hrest⟩ := ih (h.addEntry hpair hlive entry) (.inl hpair) hlive
    refine ⟨more, ?_, hrest⟩
    exact (extends_with pairs _ rfl).trans hextends (Nat.le_succ _)

/-- Both stores hand out the same description. -/
theorem describe (h : Mirrors pairs store solo) (name : String) (entries : List (Key × Value)) :
    ∃ more, Extends pairs more store (store.describe name entries) ∧
      more (store.next + 1) (solo.next + 1) ∧
      Mirrors more (store.describe name entries) (solo.describe name entries) := by
  have hnew : With pairs (store.next + 1) (solo.next + 1) (store.next + 1) (solo.next + 1) :=
    .inr ⟨rfl, rfl⟩
  obtain ⟨more, hextends, hmirrors⟩ := (h.create (.dictionary name)).foldl_addEntry hnew
    (Table.find?_insert_self _ _ _) entries
  refine ⟨more, ?_, hextends.le _ _ hnew, hmirrors⟩
  exact (extends_with pairs _ rfl).trans hextends (Nat.le_succ _)

/-- Both stores take back what paired references stand for. -/
theorem remove (h : Mirrors pairs store solo) {d d' : Nat} {object : Object} (hpair : pairs d d')
    (hlive : store.owned.find? d = some object) :
    Mirrors pairs (store.remove d object.kind) (solo.remove d' object.kind) := by
  have hlive' : solo.owned.find? d' = some object := h.owned d d' hpair ▸ hlive
  have hsame : ∀ {r t}, pairs r t → (r = d ↔ t = d') := by
    intro r t hother
    constructor
    · rintro rfl
      exact h.unique.2 hother hpair
    · rintro rfl
      exact h.unique.1 hother hpair
  constructor
  case numbered => exact h.numbered.remove hlive
  case numbered_solo => exact h.numbered_solo.remove hlive'
  case unique => exact h.unique
  case bounded =>
    intro r t hother
    rw [remove_next, remove_next]
    exact h.bounded r t hother
  case owned =>
    intro r t hother
    simp only [find?_owned_remove, hsame hother, h.owned r t hother]
  case values =>
    intro r t hother
    rw [h.numbered.find?_values_remove h.numbered.values_nodup hlive,
      h.numbered_solo.find?_values_remove h.numbered_solo.values_nodup hlive']
    have hrel := h.values r t hother
    generalize store.values.find? r = found at hrel ⊢
    generalize solo.values.find? t = found' at hrel ⊢
    cases hrel with
    | none => exact .none
    | @some stored stored' halike =>
      have howner := hsame halike.1
      rw [Option.filter_some, Option.filter_some]
      by_cases hd : stored.dictionary = d
      · rw [if_neg (by simpa using hd), if_neg (by simpa using howner.1 hd)]
        exact .none
      · have hd' : stored'.dictionary ≠ d' := fun hd' => hd (howner.2 hd')
        rw [if_pos (decide_eq_true hd), if_pos (decide_eq_true hd')]
        exact .some halike
  case entries =>
    intro r t hother key
    rw [h.numbered.find?_entries_remove hlive, h.numbered_solo.find?_entries_remove hlive']
    by_cases hr : r = d
    · rw [if_pos hr, if_pos ((hsame hother).1 hr)]
      exact .none
    · rw [if_neg hr, if_neg fun ht => hr ((hsame hother).2 ht)]
      exact h.entries r t hother key
  case owned_paired =>
    intro t found hfind
    rw [find?_owned_remove] at hfind
    split at hfind
    · cases hfind
    · exact h.owned_paired t found hfind
  case values_paired =>
    intro t stored hfind
    rw [h.numbered_solo.find?_values_remove h.numbered_solo.values_nodup hlive',
      Option.filter_eq_some_iff] at hfind
    exact h.values_paired t stored hfind.1

/-- What happens elsewhere in the shared store leaves a part as it is, if it
leaves the owned references of the part. -/
theorem later (h : Mirrors pairs store solo) (hlater : Later store last) (hlast : Numbered last)
    (howned : ∀ r t, pairs r t → last.owned.find? r = store.owned.find? r) :
    Mirrors pairs last solo where
  numbered := hlast
  numbered_solo := h.numbered_solo
  unique := h.unique
  bounded r t hpair := by
    obtain ⟨hr, ht⟩ := h.bounded r t hpair
    exact ⟨hr.trans hlater.next_le, ht⟩
  owned r t hpair := (howned r t hpair).trans (h.owned r t hpair)
  values r t hpair := by
    have hrel := h.values r t hpair
    rcases hlater.values r (h.bounded r t hpair).1 with hsame | ⟨hgone, howner⟩
    · rwa [hsame]
    · cases hfind : store.values.find? r with
      | none => rwa [hgone, ← hfind]
      | some stored =>
        -- the dictionary is in the part, so the value did not go
        obtain ⟨name, hlive⟩ := h.numbered.value_dictionary _ (Table.mem_of_find? hfind)
        rw [hfind] at hrel
        generalize solo.values.find? t = found at hrel
        cases hrel with
        | some halike =>
          have hdead := howner stored hfind
          rw [howned _ _ halike.1, hlive] at hdead
          cases hdead
  entries r t hpair key := by
    have hrel := h.entries r t hpair key
    rcases hlater.entries r (h.bounded r t hpair).1 key with hsame | ⟨hgone, hdead⟩
    · rwa [hsame]
    · cases hfind : store.entries.find? (r, key) with
      | none => rwa [hgone, ← hfind]
      | some reference =>
        obtain ⟨stored, hstored, rfl⟩ := h.numbered.entry_value _ (Table.mem_of_find? hfind)
        obtain ⟨name, hlive⟩ := h.numbered.value_dictionary _ (Table.mem_of_find? hstored)
        rw [howned _ _ hpair, hlive] at hdead
        cases hdead
  owned_paired := h.owned_paired
  values_paired := h.values_paired

end Mirrors

/-! ## One call -/

/-- Both stores answer alike, and the part of the one is still all of the
other. -/
def Follows {α β : Type} (pairs : Nat → Nat → Prop) (post : (Nat → Nat → Prop) → α → β → Prop)
    (store : Store) (first : Except Fault α × Store) (second : Except Fault β × Store) : Prop :=
  ∃ more, Extends pairs more store first.2 ∧ Mirrors more first.2 second.2 ∧
    OutcomesAlike (post more) first.1 second.1

section Follows

variable {α β γ δ : Type} {post : (Nat → Nat → Prop) → α → β → Prop} {known : γ → δ → Prop}
  {check : Except Fault γ} {check' : Except Fault δ}

/-- A call that reads. -/
theorem follows_reading (h : Mirrors pairs store solo) (hcheck : OutcomesAlike known check check')
    {answer : γ → α} {answer' : δ → β}
    (hanswer : ∀ a b, known a b → post pairs (answer a) (answer' b)) :
    Follows pairs post store (store.reading check answer) (solo.reading check' answer') := by
  refine ⟨pairs, .refl_of_next_le pairs le_rfl, h, ?_⟩
  cases hcheck with
  | ok hknown => exact .ok (hanswer _ _ hknown)
  | fault first second => exact .fault first second

/-- A call that changes the store. -/
theorem follows_writing (h : Mirrors pairs store solo) (hcheck : OutcomesAlike known check check')
    {change : γ → Store → α × Store} {change' : δ → Store → β × Store}
    (hchange : ∀ a b, known a b → ∃ more, Extends pairs more store (change a store).2 ∧
      Mirrors more (change a store).2 (change' b solo).2 ∧
      post more (change a store).1 (change' b solo).1) :
    Follows pairs post store (store.writing check change) (solo.writing check' change') := by
  cases hcheck with
  | ok hknown =>
    obtain ⟨more, hextends, hmirrors, hpost⟩ := hchange _ _ hknown
    exact ⟨more, hextends, hmirrors, .ok hpost⟩
  | fault first second => exact ⟨pairs, .refl_of_next_le pairs le_rfl, h, .fault first second⟩

end Follows

namespace Mirrors

section Checks

variable {r t : Nat} (h : Mirrors pairs store solo) (hpair : pairs r t)

include h hpair

theorem expectSession : OutcomesAlike Eq (store.expectSession r) (solo.expectSession t) := by
  unfold Store.expectSession
  rw [h.owned r t hpair]
  rcases solo.owned.find? t with _ | _ | _ | _
  case some.session => exact .ok rfl
  all_goals exact .fault _ _

theorem expectDisk : OutcomesAlike Eq (store.expectDisk r) (solo.expectDisk t) := by
  unfold Store.expectDisk
  rw [h.owned r t hpair]
  rcases solo.owned.find? t with _ | _ | name | _
  case some.disk => exact .ok rfl
  all_goals exact .fault _ _

theorem expectDictionary :
    OutcomesAlike Eq (store.expectDictionary r) (solo.expectDictionary t) := by
  unfold Store.expectDictionary
  rw [h.owned r t hpair]
  rcases solo.owned.find? t with _ | _ | _ | _
  case some.dictionary => exact .ok rfl
  all_goals exact .fault _ _

theorem expectValue : OutcomesAlike Eq (store.expectValue r) (solo.expectValue t) := by
  have hrel := h.values r t hpair
  unfold Store.expectValue
  generalize store.values.find? r = found at hrel ⊢
  generalize solo.values.find? t = found' at hrel ⊢
  cases hrel with
  | none => exact .fault _ _
  | @some stored stored' halike =>
    obtain ⟨hdictionary, hvalue⟩ := halike
    have hcheck := h.expectDictionary hdictionary
    simp only [hvalue]
    generalize store.expectDictionary stored.dictionary = check at hcheck ⊢
    generalize solo.expectDictionary stored'.dictionary = check' at hcheck ⊢
    cases hcheck with
    | ok _ => exact .ok rfl
    | fault _ _ => exact .fault _ _

theorem expectOwned :
    OutcomesAlike (fun kind kind' => kind = kind' ∧
        ∃ object, store.owned.find? r = some object ∧ object.kind = kind)
      (store.expectOwned r) (solo.expectOwned t) := by
  unfold Store.expectOwned
  rw [h.owned r t hpair]
  cases solo.owned.find? t with
  | none => exact .fault _ _
  | some object => exact .ok ⟨rfl, object, rfl, rfl⟩

end Checks

/-- What both stores hand out is paired. -/
def HandsOut (pairs : Nat → Nat → Prop) (store solo : Store)
    (create : Store → Option Nat × Store) : Prop :=
  ∃ more, Extends pairs more store (create store).2 ∧
    Mirrors more (create store).2 (create solo).2 ∧
      Option.Rel more (create store).1 (create solo).1

theorem handsOut_none (h : Mirrors pairs store solo) :
    HandsOut pairs store solo fun store => (none, store) :=
  ⟨pairs, .refl_of_next_le pairs le_rfl, h, .none⟩

theorem handsOut_create (h : Mirrors pairs store solo) (object : Object) :
    HandsOut pairs store solo fun store => (some (store.next + 1), store.create object) :=
  ⟨_, extends_with pairs (solo.next + 1) rfl, h.create object, .some (.inr ⟨rfl, rfl⟩)⟩

theorem handsOut_createSession (h : Mirrors pairs store solo) (world : World) :
    HandsOut pairs store solo (createSession world) := by
  by_cases havailable : world.unavailable
  · have hnone : createSession world = fun store => (none, store) :=
      funext fun store => if_pos havailable
    rw [hnone]
    exact h.handsOut_none
  · have hsome : createSession world =
        fun store => (some (store.next + 1), store.create .session) :=
      funext fun store => if_neg havailable
    rw [hsome]
    exact h.handsOut_create .session

theorem handsOut_createDisk (h : Mirrors pairs store solo) (world : World) (name : DeviceName) :
    HandsOut pairs store solo (createDisk world name) := by
  unfold createDisk
  cases name.text with
  | error defect => exact h.handsOut_none
  | ok text =>
    by_cases hdisk : (world.disk? text).isSome
    · simp only [hdisk, if_true]
      exact h.handsOut_create (.disk text)
    · simp only [hdisk, if_false, Bool.false_eq_true]
      exact h.handsOut_none

theorem handsOut_copyDescription (h : Mirrors pairs store solo) (world : World) (name : String) :
    HandsOut pairs store solo (copyDescription world name) := by
  unfold copyDescription
  cases world.description? name with
  | none => exact h.handsOut_none
  | some entries =>
    obtain ⟨more, hextends, hnew, hmirrors⟩ := h.describe name entries
    exact ⟨more, hextends, hmirrors, .some hnew⟩

end Mirrors

/-- Alike calls in the part and in the other store have alike answers. -/
theorem Mirrors.answer (h : Mirrors pairs store solo) (world : World) {call other : Call Nat}
    (hcall : call.Alike pairs other) :
    Follows pairs (fun more => AnswersAlike more call other) store
      (Store.answer world call store) (Store.answer world other solo) := by
  cases hcall with
  | createSession =>
    have hcheck : OutcomesAlike Eq (.ok ()) (.ok ()) := .ok rfl
    exact follows_writing h hcheck fun _ _ _ => h.handsOut_createSession world
  | createDisk hpair name =>
    exact follows_writing h (h.expectSession hpair) fun _ _ _ => h.handsOut_createDisk world name
  | copyDescription hpair =>
    refine follows_writing h (h.expectDisk hpair) ?_
    rintro name _ rfl
    exact h.handsOut_copyDescription world name
  | value hpair key =>
    exact follows_reading h (h.expectDictionary hpair) fun _ _ _ => h.entries _ _ hpair key
  | boolean hpair =>
    refine follows_reading h (h.expectValue hpair) ?_
    rintro value _ rfl
    rfl
  | textLength hpair =>
    refine follows_reading h (h.expectValue hpair) ?_
    rintro value _ rfl
    rfl
  | maxSize length =>
    have hcheck : OutcomesAlike Eq (.ok ()) (.ok ()) := .ok rfl
    exact follows_reading h hcheck fun _ _ _ => rfl
  | copyText hpair buffer =>
    refine follows_reading h (h.expectValue hpair) ?_
    rintro value _ rfl
    rfl
  | @release r _ hpair =>
    refine follows_writing h (h.expectOwned hpair) ?_
    rintro kind _ ⟨rfl, object, hlive, rfl⟩
    have hnext : (store.remove r object.kind).next ≤ store.next :=
      (remove_next store r object.kind).le
    exact ⟨pairs, .refl_of_next_le pairs hnext, h.remove hpair hlive, rfl⟩

/-! ## Many parts -/

/-- The store is cut into parts, and each is what its client has in a store of
its own. -/
structure Apart {ι : Type} (pairs : ι → Nat → Nat → Prop) (store : Store) (solos : ι → Store) :
    Prop where
  numbered : Numbered store
  mirrors : ∀ i, Mirrors (pairs i) store (solos i)
  /-- No reference is in two parts. -/
  disjoint : ∀ i j r t t', pairs i r t → pairs j r t' → i = j
  /-- Every live reference is in a part. -/
  owned_covered : ∀ r object, store.owned.find? r = some object → ∃ i t, pairs i r t
  values_covered : ∀ r stored, store.values.find? r = some stored → ∃ i t, pairs i r t

namespace Apart

open Client

variable {ι : Type} {all : ι → Nat → Nat → Prop} {solos : ι → Store}

theorem empty : Apart (fun (_ : ι) _ _ => False) {} fun _ => {} where
  numbered := .empty
  mirrors _ := .empty
  disjoint _ _ _ _ _ h := h.elim
  owned_covered _ _ h := by cases h
  values_covered _ _ h := by cases h

variable [DecidableEq ι]

section Update

variable {i : ι}

theorem le_update (hle : all i ≤ more) (j : ι) : all j ≤ Function.update all i more j := by
  by_cases hj : j = i
  · subst hj
    rwa [Function.update_self]
  · rw [Function.update_of_ne hj]

/-- A pair was there before, or it is a new one of part `i`. -/
theorem old_or_new (hextends : Extends (all i) more store last) {j : ι} {r t : Nat}
    (hpair : Function.update all i more j r t) : all j r t ∨ j = i ∧ store.next < r := by
  by_cases hj : j = i
  · subst hj
    rw [Function.update_self] at hpair
    exact (hextends.fresh r t hpair).imp_right (⟨rfl, ·⟩)
  · rw [Function.update_of_ne hj] at hpair
    exact .inl hpair

end Update

/-- A call in one part leaves the store cut into parts. -/
theorem answer (h : Apart all store solos) (world : World) (i : ι) {call other : Call Nat}
    (hcall : call.Alike (all i) other) :
    ∃ more, all i ≤ more ∧
      Apart (Function.update all i more) (Store.answer world call store).2
        (Function.update solos i (Store.answer world other (solos i)).2) ∧
      Exchange.Alike more ⟨call, (Store.answer world call store).1⟩
        ⟨other, (Store.answer world other (solos i)).1⟩ := by
  obtain ⟨more, hextends, hmirrors, hanswer⟩ := (h.mirrors i).answer world hcall
  have hstep := transition_answer world store call
  have hlater := Later.transition h.numbered hstep
  have hlast := h.numbered.transition hstep
  have hle := le_update hextends.le
  have hnew : ∀ r ≤ (Store.answer world call store).2.next, ¬r ≤ store.next →
      ∃ j t, Function.update all i more j r t := by
    intro r hhigh hlow
    obtain ⟨t, hpair⟩ := hextends.filled r (Nat.lt_of_not_le hlow) hhigh
    exact ⟨i, t, by rwa [Function.update_self]⟩
  refine ⟨more, hextends.le, ⟨hlast, ?mirrors, ?disjoint, ?owned, ?values⟩,
    hcall.mono hextends.le, hanswer⟩
  case mirrors =>
    intro j
    by_cases hj : j = i
    · subst hj
      rw [Function.update_self, Function.update_self]
      exact hmirrors
    · rw [Function.update_of_ne hj, Function.update_of_ne hj]
      refine (h.mirrors j).later hlater hlast fun r t hpair => ?_
      refine hstep.find?_owned_eq ((h.mirrors j).bounded r t hpair).1 fun hreleased => ?_
      obtain ⟨t', hpair'⟩ := hcall.exists_pair hreleased
      exact hj (h.disjoint j i r t t' hpair hpair')
  case disjoint =>
    intro j k r t t' hpair hpair'
    rcases old_or_new hextends hpair with hj | ⟨hj, hr⟩ <;>
      rcases old_or_new hextends hpair' with hk | ⟨hk, hr'⟩
    · exact h.disjoint j k r t t' hj hk
    · have := ((h.mirrors j).bounded r t hj).1
      omega
    · have := ((h.mirrors k).bounded r t' hk).1
      omega
    · exact hj.trans hk.symm
  case owned =>
    intro r object hfind
    by_cases hr : r ≤ store.next
    · rcases hlater.owned r hr with hsame | hgone
      · obtain ⟨j, t, hpair⟩ := h.owned_covered r object (hsame ▸ hfind)
        exact ⟨j, t, hle j r t hpair⟩
      · rw [hfind] at hgone
        cases hgone
    · exact hnew r (hlast.le_of_find? hfind) hr
  case values =>
    intro r stored hfind
    by_cases hr : r ≤ store.next
    · rcases hlater.values r hr with hsame | ⟨hgone, -⟩
      · obtain ⟨j, t, hpair⟩ := h.values_covered r stored (hsame ▸ hfind)
        exact ⟨j, t, hle j r t hpair⟩
      · rw [hfind] at hgone
        cases hgone
    · exact hnew r (hlast.values_le r (Table.mem_keys_of_find? hfind)) hr

end Apart

/-- A client in one part of a store has the answers that it would have in a
store of its own. -/
theorem simulates_apart {ι : Type} [DecidableEq ι] (world : World) (all : ι → Nat → Nat → Prop)
    (solos : ι → Store) (i : ι) :
    Simulates world.service world.service fun pairs store solo =>
      Apart (Function.update all i pairs) store (Function.update solos i solo) := by
  intro pairs store solo call other h hcall
  have hcall : call.Alike (Function.update all i pairs i) other := by
    rwa [Function.update_self]
  obtain ⟨more, hle, hapart, hexchange⟩ := h.answer world i hcall
  rw [Function.update_self] at hle
  rw [Function.update_idem, Function.update_idem, Function.update_self] at hapart
  rw [Function.update_self] at hexchange
  exact ⟨more, hle, hapart, hexchange⟩

end DiskQuery.Store
