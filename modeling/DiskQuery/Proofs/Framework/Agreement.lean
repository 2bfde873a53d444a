import DiskQuery.Proofs.Client.Alike
import DiskQuery.Proofs.Framework.Shared
import DiskQuery.Proofs.Store.Representation

/-!
# The framework and the store agree

Over a shared world, no client can tell the framework from the reference store.
The two keep different things: a store has a number for every value of a
dictionary from the start, the framework names a value by its dictionary and its
key when it is looked up.

There are three groups.

* Coupled states.  `Coupled` says which references stand for the same thing in
  both services.  References stay paired when what they stand for is gone.
* One call.  Calls on paired references end alike and leave coupled states, or
  break off in both services (`simulates`).
* Queries.  `queries` asks for names one after another, and `agree_queries` says
  that it goes the same way over both services.
-/

namespace DiskQuery.Shared

open Client
open Framework (exists_keyString keyString keyString_inj)

/-! ## Coupled states -/

/-- Objects that stand for the same thing. -/
inductive Matches (world : World) : Store.Object → Framework.Object → Prop where
  | session : Matches world .session .session
  | disk {name : String} {disk : Disk} (hdisk : world.disk? name = some disk) :
      Matches world (.disk name) (.disk disk.framework)
  | dictionary {name : String} {disk : Disk} {entries : Entries}
      (hdisk : world.disk? name = some disk) (hentries : disk.description = some entries) :
      Matches world (.dictionary name) (.dictionary entries.framework)

variable {world : World} {pairs : Nat → Framework.Reference → Prop} {store next : Store}
  {framework next' : Framework}

/-- Paired references stand for the same thing. -/
structure Linked (world : World) (pairs : Nat → Framework.Reference → Prop) (store : Store)
    (framework : Framework) : Prop where
  represents : Store.Represents world.store store
  unique : Relator.BiUnique pairs
  /-- Paired objects are both alive and match, or both gone. -/
  object : ∀ r id, pairs r (.object id) → r ≤ store.next ∧ id ≤ framework.next ∧
    store.values.find? r = none ∧
    Option.Rel (Matches world) (store.owned.find? r) (framework.objects.find? id)
  /-- A value is that of its key in a paired dictionary, or gone with it. -/
  value : ∀ r id key, pairs r (.value id (keyString key)) → r ≤ store.next ∧
    store.owned.find? r = none ∧ ∃ d, pairs d (.object id) ∧
      (store.entries.find? (d, key) = some r ∨
        store.owned.find? d = none ∧ store.values.find? r = none)

/-- The services are in states that no client can tell apart. -/
structure Coupled (world : World) (pairs : Nat → Framework.Reference → Prop) (store : Store)
    (framework : Framework) : Prop extends Linked world pairs store framework where
  /-- Every object of the framework is paired. -/
  covered : ∀ id object, framework.objects.find? id = some object → ∃ r, pairs r (.object id)

namespace Linked

/-- Paired references stay linked while time goes on, if those to objects do.
Values need no care: both services lose them with their dictionary. -/
theorem later (h : Linked world pairs store framework)
    (hnext : Store.Represents world.store next) (hlater : Store.Later store next)
    (hle : framework.next ≤ next'.next)
    (hobjects : ∀ r id, pairs r (.object id) →
      Option.Rel (Matches world) (next.owned.find? r) (next'.objects.find? id)) :
    Linked world pairs next next' where
  represents := hnext
  unique := h.unique
  object r id hpair := by
    obtain ⟨hr, hid, hvalue, -⟩ := h.object r id hpair
    refine ⟨Nat.le_trans hr hlater.next_le, Nat.le_trans hid hle, ?_, hobjects r id hpair⟩
    rcases hlater.values r hr with hsame | ⟨hgone, -⟩
    · rw [hsame]
      exact hvalue
    · exact hgone
  value r id key hpair := by
    obtain ⟨hr, howned, d, hdictionary, hcases⟩ := h.value r id key hpair
    obtain ⟨hd, -⟩ := h.object d id hdictionary
    refine ⟨Nat.le_trans hr hlater.next_le, hlater.find?_eq_none hr howned, d, hdictionary, ?_⟩
    rcases hcases with hentry | ⟨hdead, hvalue⟩
    · obtain ⟨-, -, value, -, -, -, hstored⟩ := h.represents.entry hentry
      rcases hlater.entries d hd key with hsame | ⟨-, hdead⟩
      · exact .inl (hsame.trans hentry)
      · -- the dictionary is gone, so a value that is still there would have no owner
        refine .inr ⟨hdead, ?_⟩
        cases hfind : next.values.find? r with
        | none => rfl
        | some stored =>
          rcases hlater.values r hr with hsame | ⟨hgone, -⟩
          · rw [hfind, hstored] at hsame
            cases hsame
            obtain ⟨name, hlive⟩ := hnext.value_dictionary _ (Table.mem_of_find? hfind)
            rw [hdead] at hlive
            cases hlive
          · rw [hfind] at hgone
            cases hgone
    · refine .inr ⟨hlater.find?_eq_none hd hdead, ?_⟩
      rcases hlater.values r hr with hsame | ⟨hgone, -⟩
      · rw [hsame]
        exact hvalue
      · exact hgone

/-- Paired references to objects are both alive and match, or both stand for
nothing. -/
theorem find? (h : Linked world pairs store framework) {r : Nat} {t : Framework.Reference}
    (hpair : pairs r t) :
    store.owned.find? r = none ∧ framework.object? t = none ∨
      ∃ object object', store.owned.find? r = some object ∧
        framework.object? t = some object' ∧ Matches world object object' := by
  cases t with
  | object id =>
    obtain ⟨-, -, -, hrel⟩ := h.object r id hpair
    show _ ∧ framework.objects.find? id = none ∨
      ∃ _ _, _ ∧ framework.objects.find? id = some _ ∧ _
    generalize store.owned.find? r = found at hrel ⊢
    generalize framework.objects.find? id = found' at hrel ⊢
    cases hrel with
    | none => exact .inl ⟨rfl, rfl⟩
    | some hmatches => exact .inr ⟨_, _, rfl, rfl, hmatches⟩
  | value id constant =>
    obtain ⟨key, rfl⟩ := exists_keyString constant
    obtain ⟨-, howned, -⟩ := h.value r id key hpair
    exact .inl ⟨howned, rfl⟩

/-- A live dictionary answers for the entries that its pair has. -/
theorem dictionary (h : Linked world pairs store framework) {d id : Nat} {name : String}
    (hpair : pairs d (.object id)) (hlive : store.owned.find? d = some (.dictionary name)) :
    ∃ entries : Entries, framework.objects.find? id = some (.dictionary entries.framework) ∧
      ∀ key, entries.value? key = none ∧ store.entries.find? (d, key) = none ∨
        ∃ value r, entries.value? key = some value ∧
          store.entries.find? (d, key) = some r ∧
          store.values.find? r = some ⟨d, value.store⟩ := by
  obtain ⟨shown, hdescription, hshows⟩ := h.represents.dictionary_shows d name hlive
  rcases h.find? hpair with ⟨hdead, -⟩ | ⟨object, object', hobject, hobject', hmatches⟩
  · rw [hlive] at hdead
    cases hdead
  · rw [hlive] at hobject
    cases hobject
    cases hmatches with
    | @dictionary _ disk entries hdisk hentries =>
      rw [World.description?_store, hdisk, Option.bind_some, hentries] at hdescription
      cases hdescription
      refine ⟨entries, hobject', fun key => ?_⟩
      have hlast := entries.lastValue?_store key
      cases hvalue : entries.value? key with
      | none =>
        rw [hvalue] at hlast
        exact .inl ⟨rfl, hshows.absent key hlast⟩
      | some value =>
        rw [hvalue] at hlast
        obtain ⟨r, hentry, hstored⟩ := hshows.present key value.store hlast
        exact .inr ⟨value, r, rfl, hentry, hstored⟩

/-- Paired references to values give the same value, or none. -/
theorem value? (h : Linked world pairs store framework) {r : Nat} {t : Framework.Reference}
    (hpair : pairs r t) :
    store.expectValue r = .error (.unknownValue r) ∧ framework.value? t = none ∨
      ∃ value : Value, store.expectValue r = .ok value.store ∧
        framework.value? t = some value.framework := by
  rw [h.represents.expectValue_eq]
  cases t with
  | object id =>
    obtain ⟨-, -, hvalue, -⟩ := h.object r id hpair
    rw [hvalue]
    exact .inl ⟨rfl, rfl⟩
  | value id constant =>
    obtain ⟨key, rfl⟩ := exists_keyString constant
    obtain ⟨-, -, d, hdictionary, hcases⟩ := h.value r id key hpair
    unfold Framework.value?
    rcases hcases with hentry | ⟨hdead, hvalue⟩
    · obtain ⟨name, -, -, hlive, -⟩ := h.represents.entry hentry
      obtain ⟨entries, hobject, hkeys⟩ := h.dictionary hdictionary hlive
      rcases hkeys key with ⟨-, hnone⟩ | ⟨value, other, hvalue, hother, hstored⟩
      · rw [hentry] at hnone
        cases hnone
      · rw [hentry] at hother
        cases hother
        refine .inr ⟨value, ?_, ?_⟩
        · rw [hstored]
        · simp only [hobject, Entries.valueOf?_framework, hvalue]
          rfl
    · rcases h.find? hdictionary with ⟨-, hgone⟩ | ⟨object, -, hlive, -⟩
      · have hgone : framework.objects.find? id = none := hgone
        refine .inl ⟨?_, ?_⟩
        · rw [hvalue]
        · simp only [hgone]
      · rw [hdead] at hlive
        cases hlive

end Linked

namespace Coupled

theorem empty (world : World) : Coupled world (fun _ _ => False) {} {} where
  represents := .empty world.store
  unique := ⟨fun _ _ _ h => h.elim, fun _ _ _ h => h.elim⟩
  object _ _ h := h.elim
  value _ _ _ h := h.elim
  covered _ _ h := by cases h

/-- The framework is coupled whatever it called. -/
theorem called (h : Coupled world pairs store framework) (call : Framework.NativeCall) :
    Coupled world pairs store (framework.called call) :=
  ⟨⟨h.represents, h.unique, h.object, h.value⟩, h.covered⟩

theorem foldl_called (h : Coupled world pairs store framework)
    (calls : List Framework.NativeCall) :
    Coupled world pairs store (calls.foldl Framework.called framework) := by
  induction calls generalizing framework with
  | nil => exact h
  | cons call calls ih => exact ih (h.called call)

/-- New objects that match are paired. -/
theorem create (h : Coupled world pairs store framework) {object : Store.Object}
    {object' : Framework.Object} (hmatches : Matches world object object')
    (hnext : Store.Represents world.store next) (hlater : Store.Later store next)
    (howned : ∀ r, next.owned.find? r =
      if r = store.next + 1 then some object else store.owned.find? r) :
    Coupled world (With pairs (store.next + 1) (.object (framework.next + 1))) next
      (framework.create object').2 := by
  have hnew : next.owned.find? (store.next + 1) = some object := by rw [howned, if_pos rfl]
  have hnew' : (framework.create object').2.objects.find? (framework.next + 1) = some object' :=
    Table.find?_insert_self _ _ _
  have hold' : ∀ id ≠ framework.next + 1,
      (framework.create object').2.objects.find? id = framework.objects.find? id :=
    fun id hid => Table.find?_insert_of_ne _ _ hid
  have hlinked : Linked world pairs next (framework.create object').2 := by
    refine h.later hnext hlater (Nat.le_succ _) fun r id hpair => ?_
    obtain ⟨hr, hid, -, hrel⟩ := h.object r id hpair
    rw [howned, if_neg (by omega), hold' id (by omega)]
    exact hrel
  have hfresh : ∀ t, ¬pairs (store.next + 1) t := by
    intro t hpair
    cases t with
    | object id =>
      have := (h.object _ _ hpair).1
      omega
    | value id constant =>
      obtain ⟨key, rfl⟩ := exists_keyString constant
      have := (h.value _ _ _ hpair).1
      omega
  have hfresh' : ∀ r, ¬pairs r (.object (framework.next + 1)) := by
    intro r hpair
    have := (h.object _ _ hpair).2.1
    omega
  refine ⟨⟨hnext, ?_, ?_, ?_⟩, ?_⟩
  · exact biUnique_with h.unique (fun t hpair => absurd hpair (hfresh t))
      fun r hpair => absurd hpair (hfresh' r)
  · rintro r id (hpair | ⟨rfl, hid⟩)
    · exact hlinked.object r id hpair
    · cases hid
      refine ⟨hnext.le_of_find? hnew, Nat.le_refl _, ?_, ?_⟩
      · exact Table.find?_of_notMem (hnext.apart _ (Table.mem_keys_of_find? hnew))
      · rw [hnew, hnew']
        exact .some hmatches
  · rintro r id key (hpair | ⟨-, hid⟩)
    · obtain ⟨hr, howner, d, hdictionary, hcases⟩ := hlinked.value r id key hpair
      exact ⟨hr, howner, d, .inl hdictionary, hcases⟩
    · cases hid
  · intro id found hfound
    by_cases hid : id = framework.next + 1
    · exact ⟨_, .inr ⟨rfl, by rw [hid]⟩⟩
    · rw [hold' id hid] at hfound
      obtain ⟨r, hpair⟩ := h.covered id found hfound
      exact ⟨r, .inl hpair⟩

/-- A value that was looked up is paired. -/
theorem lookUp (h : Coupled world pairs store framework) {d id r : Nat} {key : Key}
    (hpair : pairs d (.object id)) (hentry : store.entries.find? (d, key) = some r) :
    Coupled world (With pairs r (.value id (keyString key))) store framework := by
  obtain ⟨name, entries, value, hlive, -, -, hstored⟩ := h.represents.entry hentry
  have hvalue := Table.mem_keys_of_find? hstored
  have howned : store.owned.find? r = none :=
    Table.find?_of_notMem fun hmem => h.represents.apart r hmem hvalue
  refine ⟨⟨h.represents, ?_, ?_, ?_⟩, ?_⟩
  · -- a value that was looked up before has the pair that it has now
    refine biUnique_with h.unique (fun t hother => ?_) fun r' hother => ?_
    · cases t with
      | object id' =>
        rw [(h.object r id' hother).2.2.1] at hstored
        cases hstored
      | value id' constant =>
        obtain ⟨key', rfl⟩ := exists_keyString constant
        obtain ⟨-, -, d', hdictionary, hcases⟩ := h.value r id' key' hother
        rcases hcases with hentry' | ⟨-, hgone⟩
        · cases h.represents.entry_inj _ _ _ hentry hentry'
          cases h.unique.2 hpair hdictionary
          rfl
        · rw [hgone] at hstored
          cases hstored
    · obtain ⟨-, -, d', hdictionary, hcases⟩ := h.value r' id key hother
      obtain rfl : d' = d := h.unique.1 hdictionary hpair
      rcases hcases with hentry' | ⟨hdead, -⟩
      · exact Option.some.inj (hentry'.symm.trans hentry)
      · rw [hdead] at hlive
        cases hlive
  · rintro r' id' (hother | ⟨-, hid⟩)
    · exact h.object r' id' hother
    · cases hid
  · rintro r' id' key' (hother | ⟨rfl, hid⟩)
    · obtain ⟨hr, howner, d', hdictionary, hcases⟩ := h.value r' id' key' hother
      exact ⟨hr, howner, d', .inl hdictionary, hcases⟩
    · obtain ⟨rfl, hkey⟩ := Framework.Reference.value.inj hid
      obtain rfl := keyString_inj hkey
      exact ⟨h.represents.values_le _ hvalue, howned, d, .inl hpair, .inl hentry⟩
  · intro id' found hfound
    obtain ⟨r', hother⟩ := h.covered id' found hfound
    exact ⟨r', .inl hother⟩

/-- What is given back is gone in both services. -/
theorem release (h : Coupled world pairs store framework) {r id : Nat} {object : Store.Object}
    (hpair : pairs r (.object id)) (hlive : store.owned.find? r = some object) :
    Coupled world pairs (store.remove r object.kind)
      { framework with objects := framework.objects.erase id } := by
  have hnext := h.represents.transition (.release hlive)
  refine ⟨h.later hnext (.remove h.represents.toNumbered hlive) (Nat.le_refl _) ?_, ?_⟩
  · intro r' id' hother
    rw [Store.find?_owned_remove]
    show Option.Rel _ _ ((framework.objects.erase id).find? id')
    by_cases hr : r' = r
    · subst hr
      have hid : id' = id := by
        have hsame := h.unique.2 hother hpair
        cases hsame
        rfl
      rw [if_pos rfl, hid, Table.find?_erase_self]
      exact .none
    · have hid : id' ≠ id := by
        rintro rfl
        exact hr (h.unique.1 hother hpair)
      rw [if_neg hr, Table.find?_erase_of_ne _ hid]
      exact (h.object r' id' hother).2.2.2
  · intro id' found hfound
    have hfound : (framework.objects.erase id).find? id' = some found := hfound
    by_cases hid : id' = id
    · rw [hid, Table.find?_erase_self] at hfound
      cases hfound
    · rw [Table.find?_erase_of_ne _ hid] at hfound
      exact h.covered id' found hfound

end Coupled

/-! ## One call -/

/-- The services answer two calls alike, and stay coupled. -/
def Steps (world : World) (pairs : Nat → Framework.Reference → Prop) (store : Store)
    (framework : Framework) (call : Call Nat) (other : Call Framework.Reference) : Prop :=
  ∃ more, pairs ≤ more ∧
    Coupled world more (world.store.service.answer call store).2
      (world.framework.service.answer other framework).2 ∧
    Exchange.Alike more ⟨call, (world.store.service.answer call store).1⟩
      ⟨other, (world.framework.service.answer other framework).1⟩

section Steps

variable {call : Call Nat} {other : Call Framework.Reference}

theorem steps_of_answers {a : Except Fault call.Answer} {b : Except Fault other.Answer}
    {more : Nat → Framework.Reference → Prop}
    (hstore : Store.answer world.store call store = (a, next))
    (hframework : Framework.answer world.framework other framework = (b, next'))
    (hle : pairs ≤ more) (hcoupled : Coupled world more next next')
    (hcall : call.Alike pairs other) (hanswer : OutcomesAlike (AnswersAlike more call other) a b) :
    Steps world pairs store framework call other := by
  refine ⟨more, hle, ?_, hcall.mono hle, ?_⟩
  · show Coupled world more (Store.answer world.store call store).2
      (Framework.answer world.framework other framework).2
    rw [hstore, hframework]
    exact hcoupled
  · show OutcomesAlike _ (Store.answer world.store call store).1
      (Framework.answer world.framework other framework).1
    rw [hstore, hframework]
    exact hanswer

/-- A call that both services refuse. -/
theorem steps_of_faults (h : Coupled world pairs store framework) {fault : Fault}
    (t : Framework.Reference)
    (hstore : Store.answer world.store call store = (.error fault, store))
    (hframework : Framework.answer world.framework other framework = framework.stale t)
    (hcall : call.Alike pairs other) : Steps world pairs store framework call other :=
  steps_of_answers hstore hframework le_rfl h hcall (.fault fault _)

end Steps

namespace Coupled

variable {r : Nat} {t : Framework.Reference}

theorem steps_createSession (h : Coupled world pairs store framework) :
    Steps world pairs store framework .createSession .createSession := by
  cases havailable : world.unavailable with
  | true =>
    have hunavailable : world.store.unavailable = true := havailable
    have hunavailable' : world.framework.unavailable = true := havailable
    have hstore : Store.answer world.store .createSession store = (.ok none, store) := by
      simp only [Store.answer, Store.writing, Store.createSession, hunavailable, if_true]
    have hframework : Framework.answer world.framework .createSession framework =
        (.ok none, framework.called .sessionCreate) := by
      simp only [Framework.answer, Framework.sessionCreate, hunavailable', if_true]
    exact steps_of_answers hstore hframework le_rfl (h.called _) .createSession (.ok .none)
  | false =>
    have hunavailable : world.store.unavailable = false := havailable
    have hunavailable' : world.framework.unavailable = false := havailable
    have hstore : Store.answer world.store .createSession store =
        (.ok (some (store.next + 1)), store.create .session) := by
      simp only [Store.answer, Store.writing, Store.createSession, hunavailable,
        Bool.false_eq_true, if_false]
    have hframework : Framework.answer world.framework .createSession framework =
        (.ok (some (.object (framework.next + 1))),
          ((framework.called .sessionCreate).create .session).2) := by
      simp only [Framework.answer, Framework.sessionCreate, hunavailable',
        Bool.false_eq_true, if_false]
      rfl
    have hstep : Store.Transition world.store store _ _ := .session hunavailable
    have hcoupled := (h.called .sessionCreate).create .session (h.represents.transition hstep)
      (.create store _) (Store.find?_owned_create store _)
    exact steps_of_answers hstore hframework (le_with _ _ _) hcoupled .createSession
      (.ok (.some (.inr ⟨rfl, rfl⟩)))

theorem steps_createDisk (h : Coupled world pairs store framework) (hpair : pairs r t)
    (name : DeviceName) :
    Steps world pairs store framework (.createDisk r name) (.createDisk t name) := by
  have hcall : Call.Alike pairs (.createDisk r name) (.createDisk t name) :=
    .createDisk hpair name
  rcases h.find? hpair with ⟨hnone, hnone'⟩ | ⟨object, object', hlive, hlive', hmatches⟩
  · exact steps_of_faults h t (by simp only [Store.answer, Store.expectSession, hnone]; rfl)
      (by simp only [Framework.answer, Framework.diskCreate, hnone']) hcall
  cases hmatches with
  | disk | dictionary =>
    exact steps_of_faults h t (by simp only [Store.answer, Store.expectSession, hlive]; rfl)
      (by simp only [Framework.answer, Framework.diskCreate, hlive']) hcall
  | session =>
    have habsent : Store.createDisk world.store name store = (none, store) →
        world.framework.device? name.bytes = none →
        Steps world pairs store framework (.createDisk r name) (.createDisk t name) := by
      intro hstore hframework
      refine steps_of_answers ?_ ?_ le_rfl (h.called .diskCreate) hcall (.ok .none)
      · simp only [Store.answer, Store.expectSession, hlive, Store.writing, hstore]
      · simp only [Framework.answer, Framework.diskCreate, hlive', hframework]
    cases htext : name.text with
    | error defect =>
      refine habsent ?_ (world.device?_of_defect htext)
      simp only [Store.createDisk, htext]
    | ok text =>
      have hdevice := world.device?_of_text htext
      have hentry := world.disk?_store text
      cases hdisk : world.disk? text with
      | none =>
        rw [hdisk] at hdevice hentry
        refine habsent ?_ hdevice
        simp only [Store.createDisk, htext, hentry]
        rfl
      | some disk =>
        rw [hdisk] at hdevice hentry
        have hstep : Store.Transition world.store store _ _ :=
          .disk hlive htext (by rw [hentry]; rfl)
        have hcoupled := (h.called .diskCreate).create (.disk hdisk)
          (h.represents.transition hstep) (.create store _) (Store.find?_owned_create store _)
        refine steps_of_answers ?_ ?_ (le_with _ _ _) hcoupled hcall (.ok (.some (.inr ⟨rfl, rfl⟩)))
        · simp only [Store.answer, Store.expectSession, hlive, Store.writing, Store.createDisk,
            htext, hentry]
          rfl
        · simp only [Framework.answer, Framework.diskCreate, hlive', hdevice]
          rfl

theorem steps_copyDescription (h : Coupled world pairs store framework) (hpair : pairs r t) :
    Steps world pairs store framework (.copyDescription r) (.copyDescription t) := by
  have hcall : Call.Alike pairs (.copyDescription r) (.copyDescription t) :=
    .copyDescription hpair
  rcases h.find? hpair with ⟨hnone, hnone'⟩ | ⟨object, object', hlive, hlive', hmatches⟩
  · exact steps_of_faults h t (by simp only [Store.answer, Store.expectDisk, hnone]; rfl)
      (by simp only [Framework.answer, Framework.diskCopyDescription, hnone']) hcall
  cases hmatches with
  | session | dictionary =>
    exact steps_of_faults h t (by simp only [Store.answer, Store.expectDisk, hlive]; rfl)
      (by simp only [Framework.answer, Framework.diskCopyDescription, hlive']) hcall
  | @disk name disk hdisk =>
    have hdescription := world.description?_store name
    rw [hdisk, Option.bind_some] at hdescription
    cases hentries : disk.description with
    | none =>
      rw [hentries] at hdescription
      refine steps_of_answers ?_ ?_ le_rfl (h.called .copyDescription) hcall (.ok .none)
      · simp only [Store.answer, Store.expectDisk, hlive, Store.writing, Store.copyDescription,
          hdescription]
        rfl
      · simp only [Framework.answer, Framework.diskCopyDescription, hlive', Disk.framework,
          hentries]
        rfl
    | some entries =>
      rw [hentries] at hdescription
      have hstep : Store.Transition world.store store _ _ := .dictionary hlive hdescription
      have hcoupled := (h.called .copyDescription).create (.dictionary hdisk hentries)
        (h.represents.transition hstep) (.describe store _ _)
        (Store.find?_owned_describe store _ _)
      refine steps_of_answers ?_ ?_ (le_with _ _ _) hcoupled hcall (.ok (.some (.inr ⟨rfl, rfl⟩)))
      · simp only [Store.answer, Store.expectDisk, hlive, Store.writing, Store.copyDescription,
          hdescription]
        rfl
      · simp only [Framework.answer, Framework.diskCopyDescription, hlive', Disk.framework,
          hentries]
        rfl

theorem steps_value (h : Coupled world pairs store framework) (hpair : pairs r t) (key : Key) :
    Steps world pairs store framework (.value r key) (.value t key) := by
  have hcall : Call.Alike pairs (.value r key) (.value t key) := .value hpair key
  rcases h.find? hpair with ⟨hnone, hnone'⟩ | ⟨object, object', hlive, hlive', hmatches⟩
  · exact steps_of_faults h t (by simp only [Store.answer, Store.expectDictionary, hnone]; rfl)
      (by simp only [Framework.answer, Framework.dictionaryGetValue, hnone']) hcall
  cases hmatches with
  | session | disk =>
    exact steps_of_faults h t (by simp only [Store.answer, Store.expectDictionary, hlive]; rfl)
      (by simp only [Framework.answer, Framework.dictionaryGetValue, hlive']) hcall
  | dictionary =>
    cases t with
    | value => cases hlive'
    | object id =>
      have hvalue := Store.answer_value world.store hlive key
      obtain ⟨entries, hobject, hkeys⟩ := h.dictionary hpair hlive
      have hlookUp : Framework.answer world.framework (.value (.object id) key) framework =
          (.ok ((entries.value? key).map fun _ => .value id (keyString key)),
            framework.called (.getValue (keyString key))) := by
        have hobject' : framework.object? (.object id) = some (.dictionary entries.framework) :=
          hobject
        simp only [Framework.answer, Framework.dictionaryGetValue, hobject',
          Entries.valueOf?_framework, Option.map_map]
        rfl
      rcases hkeys key with ⟨hnone, hentry⟩ | ⟨value, reference, hsome, hentry, -⟩
      · rw [hentry] at hvalue
        rw [hnone] at hlookUp
        exact steps_of_answers hvalue hlookUp le_rfl (h.called _) hcall (.ok .none)
      · rw [hentry] at hvalue
        rw [hsome] at hlookUp
        exact steps_of_answers hvalue hlookUp (le_with _ _ _)
          ((h.called (.getValue (keyString key))).lookUp hpair hentry) hcall
          (.ok (.some (.inr ⟨rfl, rfl⟩)))

theorem steps_release (h : Coupled world pairs store framework) (hpair : pairs r t) :
    Steps world pairs store framework (.release r) (.release t) := by
  have hcall : Call.Alike pairs (.release r) (.release t) := .release hpair
  rcases h.find? hpair with ⟨hnone, hnone'⟩ | ⟨object, object', hlive, hlive', hmatches⟩
  · exact steps_of_faults h t (by simp only [Store.answer, Store.expectOwned, hnone]; rfl)
      (by simp only [Framework.answer, Framework.release, hnone']) hcall
  · cases t with
    | value => cases hlive'
    | object id =>
      have hframework : Framework.answer world.framework (.release (.object id)) framework =
          (.ok (), { framework.called (.release object'.kind) with
            objects := framework.objects.erase id }) := by
        simp only [Framework.answer, Framework.release, hlive']
        rfl
      exact steps_of_answers (Store.answer_release world.store hlive) hframework le_rfl
        ((h.called (.release object'.kind)).release hpair hlive) hcall (.ok rfl)

/-- A read of a value goes alike if it does for every value that both services
can keep. -/
theorem steps_read (h : Coupled world pairs store framework) (hpair : pairs r t)
    {call : Call Nat} {other : Call Framework.Reference} (hcall : call.Alike pairs other)
    {first : Store.Value → call.Answer}
    {second : Framework.Value → other.Answer × List Framework.NativeCall}
    (hstore : Store.answer world.store call store = store.reading (store.expectValue r) first)
    (hframework : Framework.answer world.framework other framework = framework.onValue t second)
    (hsame : ∀ value : Value,
      AnswersAlike pairs call other (first value.store) (second value.framework).1) :
    Steps world pairs store framework call other := by
  rcases h.value? hpair with ⟨hfault, hnone⟩ | ⟨value, hvalue, hvalue'⟩
  · rw [hfault] at hstore
    rw [Framework.onValue, hnone] at hframework
    exact steps_of_faults h t hstore hframework hcall
  · rw [hvalue] at hstore
    rw [Framework.onValue, hvalue'] at hframework
    exact steps_of_answers hstore hframework le_rfl (h.foldl_called _) hcall (.ok (hsame value))

end Coupled

/-- The framework answers as a store does. -/
theorem simulates (world : World) :
    Simulates world.store.service world.framework.service (Coupled world) := by
  intro pairs store framework call other h hcall
  cases hcall with
  | createSession => exact h.steps_createSession
  | createDisk hpair name => exact h.steps_createDisk hpair name
  | copyDescription hpair => exact h.steps_copyDescription hpair
  | value hpair key => exact h.steps_value hpair key
  | boolean hpair =>
    exact h.steps_read hpair (.boolean hpair) rfl rfl fun value => by cases value <;> rfl
  | textLength hpair =>
    exact h.steps_read hpair (.textLength hpair) rfl rfl fun value => by cases value <;> rfl
  | maxSize length =>
    exact ⟨pairs, le_rfl, h.called _, .maxSize length, .ok (world.maxSize_eq_maximumSize length)⟩
  | copyText hpair buffer =>
    refine h.steps_read hpair (.copyText hpair buffer) rfl rfl fun value => ?_
    cases value with
    | text content => exact world.copyText_eq_copyUnits content buffer
    | boolean | number => rfl
  | release hpair => exact h.steps_release hpair

/-! ## Queries -/

/-- Queries names one after another, each in the state that the last one left. -/
def queries {ρ σ : Type} (service : Service ρ σ) :
    List DeviceName → σ → List (Run ρ σ (Except QueryError Lookup))
  | [], _ => []
  | name :: names, state =>
      let run := (query name).run service state
      run :: queries service names run.state

/-- Runs of a query over the two services that cannot be told apart. -/
structure Agree (run : Run Nat Store (Except QueryError Lookup))
    (run' : Run Framework.Reference Framework (Except QueryError Lookup)) : Prop where
  /-- Both end with one answer, or with one error. -/
  outcome : ∃ answer, run.outcome = .ok answer ∧ run'.outcome = .ok answer
  /-- Both make the same calls and get the same answers, up to a one-to-one
  renaming of references. -/
  exchanges : ∃ pairs, Relator.BiUnique pairs ∧
    List.Forall₂ (Exchange.Alike pairs) run.exchanges run'.exchanges
  /-- Creations, look-ups and releases are of the same kinds and keys, in the
  same order, and buffers are of the same sizes. -/
  footprint : footprint [] run.exchanges = footprint [] run'.exchanges
  log : run.events.map (Event.line Event.unnumbered) =
    run'.events.map (Event.line Event.unnumbered)
  /-- Neither leaves an object alive. -/
  live : run.state.live = 0 ∧ run'.state.live = 0

namespace Coupled

/-- Where the store has nothing alive, the framework has nothing alive. -/
theorem live_eq_zero (h : Coupled world pairs store framework) (hlive : store.live = 0) :
    framework.live = 0 := by
  have hempty : store.owned = ⟨[]⟩ := congrArg Table.mk (List.length_eq_zero_iff.1 hlive)
  refine Table.size_eq_zero fun id => ?_
  cases hfound : framework.objects.find? id with
  | none => rfl
  | some object =>
    obtain ⟨r, hpair⟩ := h.covered id object hfound
    obtain ⟨-, -, -, hrel⟩ := h.object r id hpair
    rw [hempty, hfound] at hrel
    cases hrel

/-- A query over coupled services that have nothing alive. -/
theorem agree_query (h : Coupled world pairs store framework) (hlive : store.live = 0)
    (name : DeviceName) :
    Agree ((query name).run world.store.service store)
        ((query name).run world.framework.service framework) ∧
      ∃ more, Coupled world more ((query name).run world.store.service store).state
        ((query name).run world.framework.service framework).state := by
  obtain ⟨more, -, houtcome, hstate, hactions⟩ := (simulates world).run (alike_query pairs name) h
  obtain ⟨hanswer, hrestored⟩ := Store.leaves_query world.store h.represents.toSound name
  have hstill := hrestored.live.trans hlive
  have hexchanges := forall₂_exchanges hactions
  rw [hanswer] at houtcome
  refine ⟨⟨?_, ?_, ?_, ?_, ?_⟩, more, hstate⟩
  · generalize ((query name).run world.framework.service framework).outcome = ending at houtcome ⊢
    cases houtcome with
    | ok hsame => exact ⟨_, hanswer, congrArg _ hsame.symm⟩
  · exact ⟨more, hstate.unique, hexchanges⟩
  · exact footprint_eq hstate.unique hexchanges .nil
  · exact map_line_eq hactions
  · exact ⟨hstill, hstate.live_eq_zero hstill⟩

end Coupled

/-- Over any world that both services can express, any queries go the same way
over the framework and over a store. -/
theorem agree_queries (world : World) (names : List DeviceName) :
    List.Forall₂ Agree (queries world.store.service names {})
      (queries world.framework.service names {}) := by
  have hcoupled : ∀ {pairs store framework}, Coupled world pairs store framework →
      store.live = 0 → List.Forall₂ Agree (queries world.store.service names store)
        (queries world.framework.service names framework) := by
    intro pairs store framework h hlive
    induction names generalizing pairs store framework with
    | nil => exact .nil
    | cons name names ih =>
      obtain ⟨hagree, more, hnext⟩ := h.agree_query hlive name
      exact .cons hagree (ih hnext hagree.live.1)
  exact hcoupled (.empty world) rfl

/-- A vendor beyond U+FFFF, behind an earlier disk of the same name. -/
example :
    let world : World := ⟨[⟨"disk1", none⟩, ⟨"disk1", some [(.deviceVendor, .text "𝄞 ")]⟩], false⟩
    (queries world.framework.service [.ofText "disk1"] {}).map Run.outcome =
      [.ok (.ok (.described ⟨none, some "𝄞", none⟩))] := by
  decide +kernel

end DiskQuery.Shared
