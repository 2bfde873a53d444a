import DiskQuery.Proofs.Client.Brackets
import DiskQuery.Proofs.Store.Description
import DiskQuery.Script.Handle
import Mathlib.Data.List.Nodup

/-!
# Handles and the references they own

A ledger says that a list of handles owns all that is alive in a store, each
handle one reference.  Clients that own what they create keep it.

There are four groups.

* Lending.  `Lent` reads off a history which session lent a reference, and
  `LendersLast` says that a session is given back after all that it lent.
* Ledgers.  `Ledger` is the invariant, with one lemma for each thing that a
  call can do: nothing (`Ledger.keep`), a creation (`Ledger.extend`), a release
  (`Ledger.release`).
* Clients.  `Creates` and `Keeps` lift the ledger to whole runs, and
  `keeps_owning` is their rule for a reference that is owned while a body runs.
* Queries.  A query keeps the ledger, and so does one that breaks off.
-/

namespace DiskQuery.Script

open Client Store

/-! ## Lending -/

namespace Handle

/-- The reference that a handle owns. -/
def reference (handle : Handle) : Nat :=
  handle.owner.reference

/-- The kind of what a handle owns.  A bare guard owns a session. -/
def kind : Handle → Kind
  | .guard _ => .session
  | .session _ => .session
  | .disk _ _ => .disk
  | .description _ _ => .dictionary

theorem kind_ne_session {handle : Handle} {lender : Nat} (h : handle.lender? = some lender) :
    handle.kind ≠ .session := by
  cases handle with
  | guard | session => cases h
  | disk | description =>
    intro hkind
    cases hkind

end Handle

/-- The session lent the reference: of a disk that was created through it, or
of the description of such a disk. -/
inductive Lent : List (Exchange Nat) → Nat → Nat → Prop where
  | disk {history : List (Exchange Nat)} {session reference : Nat} {name : DeviceName} :
      Lent (history ++ [⟨.createDisk session name, .ok (some reference)⟩]) session reference
  | description {history : List (Exchange Nat)} {session disk reference : Nat}
      (hdisk : Lent history session disk) :
      Lent (history ++ [⟨.copyDescription disk, .ok (some reference)⟩]) session reference
  | later {history : List (Exchange Nat)} {session reference : Nat} {exchange : Exchange Nat}
      (hbefore : Lent history session reference) :
      Lent (history ++ [exchange]) session reference

/-- The reference was given back. -/
def GivenBack (history : List (Exchange Nat)) (reference : Nat) : Prop :=
  ∃ exchange ∈ history, exchange.released? = some reference

/-- Before a session is given back, all that it lent was given back. -/
def LendersLast (history : List (Exchange Nat)) : Prop :=
  ∀ session reference, Lent history session reference → ∀ before answer after,
    history = before ++ ⟨.release session, answer⟩ :: after → GivenBack before reference

theorem GivenBack.later {history : List (Exchange Nat)} {reference : Nat}
    (h : GivenBack history reference) (exchange : Exchange Nat) :
    GivenBack (history ++ [exchange]) reference := by
  obtain ⟨release, hmem, hreleased⟩ := h
  exact ⟨release, List.mem_append_left _ hmem, hreleased⟩

/-- What the last call lent, or what was lent before. -/
theorem Lent.last_or_before {history : List (Exchange Nat)} {exchange : Exchange Nat}
    {session reference : Nat} (h : Lent (history ++ [exchange]) session reference) :
    Lent history session reference ∨
      (∃ name, exchange = ⟨.createDisk session name, .ok (some reference)⟩) ∨
      ∃ disk, Lent history session disk ∧
        exchange = ⟨.copyDescription disk, .ok (some reference)⟩ := by
  generalize hlist : history ++ [exchange] = list at h
  cases h with
  | disk =>
    obtain ⟨_, hlast⟩ := List.append_inj' hlist rfl
    exact .inr (.inl ⟨_, List.singleton_inj.1 hlast⟩)
  | description hdisk =>
    obtain ⟨rfl, hlast⟩ := List.append_inj' hlist rfl
    exact .inr (.inr ⟨_, hdisk, List.singleton_inj.1 hlast⟩)
  | later hbefore =>
    obtain ⟨rfl, _⟩ := List.append_inj' hlist rfl
    exact .inl hbefore

/-- A call that hands nothing out lends nothing. -/
theorem Lent.before_of_acquired? {history : List (Exchange Nat)} {exchange : Exchange Nat}
    {session reference : Nat} (h : Lent (history ++ [exchange]) session reference)
    (hacquired : exchange.acquired? = none) : Lent history session reference := by
  rcases h.last_or_before with hbefore | ⟨name, rfl⟩ | ⟨disk, _, rfl⟩
  · exact hbefore
  · cases hacquired
  · cases hacquired

/-- One more call keeps the order, if it lends through no session that was
given back, and gives no session back before what it lent. -/
theorem LendersLast.concat {history : List (Exchange Nat)} {exchange : Exchange Nat}
    (h : LendersLast history)
    (hlends : ∀ session reference, Lent (history ++ [exchange]) session reference →
      Lent history session reference ∨ ¬GivenBack history session)
    (hreleases : ∀ session reference, exchange.released? = some session →
      Lent history session reference → GivenBack history reference) :
    LendersLast (history ++ [exchange]) := by
  intro session reference hlent before answer after hsplit
  rcases List.eq_nil_or_concat after with rfl | ⟨init, last, rfl⟩
  · obtain ⟨rfl, hlast⟩ := List.append_inj' hsplit rfl
    have hexchange := List.singleton_inj.1 hlast
    rw [hexchange] at hlent hreleases
    exact hreleases session reference rfl (hlent.before_of_acquired? rfl)
  · rw [List.concat_eq_append, ← List.cons_append, ← List.append_assoc] at hsplit
    obtain ⟨hhistory, _⟩ := List.append_inj' hsplit rfl
    rcases hlends session reference hlent with hbefore | hkept
    · exact h session reference hbefore before answer init hhistory
    · refine absurd ⟨⟨.release session, answer⟩, ?_, rfl⟩ hkept
      rw [hhistory]
      exact List.mem_append_right _ List.mem_cons_self

/-! ## Ledgers -/

/-- The handles own all that is alive in a store, and the calls that led there
went well. -/
structure Ledger (world : World) (handles : List Handle) (history : List (Exchange Nat))
    (store : Store) : Prop where
  reached : History world history store
  /-- No check of the store has failed. -/
  answered : ∀ exchange ∈ history, ¬exchange.BrokeOff
  distinct : (handles.map Handle.reference).Nodup
  live : ∀ handle ∈ handles,
    ∃ object, store.owned.find? handle.reference = some object ∧ object.kind = handle.kind
  held : ∀ reference object, store.owned.find? reference = some object →
    reference ∈ handles.map Handle.reference
  lender_held : ∀ handle ∈ handles, ∀ session, handle.lender? = some session →
    .session ⟨⟨session⟩⟩ ∈ handles
  /-- What a session lent was given back, or its handle knows the session. -/
  lent : ∀ session reference, Lent history session reference → GivenBack history reference ∨
    ∃ handle ∈ handles, handle.reference = reference ∧ handle.lender? = some session
  ordered : LendersLast history

theorem ledger_empty (world : World) : Ledger world [] [] {} where
  reached := .start
  answered exchange hmem := by cases hmem
  distinct := List.nodup_nil
  live handle hmem := by cases hmem
  held reference object hfind := by cases hfind
  lender_held handle hmem := by cases hmem
  lent session reference hlent := by
    generalize hlist : ([] : List (Exchange Nat)) = list at hlent
    cases hlent <;> simp at hlist
  ordered session reference hlent before answer after hsplit := by simp at hsplit

theorem forall_mem_concat {history : List (Exchange Nat)} {exchange : Exchange Nat}
    {p : Exchange Nat → Prop} (h : ∀ e ∈ history, p e) (hlast : p exchange) :
    ∀ e ∈ history ++ [exchange], p e := by
  intro e hmem
  rcases List.mem_append.1 hmem with hmem | hmem
  · exact h e hmem
  · rwa [List.mem_singleton.1 hmem]

namespace Ledger

variable {world : World} {handles : List Handle} {history : List (Exchange Nat)}
  {store next : Store} {exchange : Exchange Nat}

/-- The order of the handles carries no meaning. -/
theorem perm {others : List Handle} (h : Ledger world handles history store)
    (hperm : handles.Perm others) : Ledger world others history store where
  reached := h.reached
  answered := h.answered
  distinct := (hperm.map _).nodup_iff.1 h.distinct
  live handle hmem := h.live handle (hperm.mem_iff.2 hmem)
  held reference object hfind := (hperm.map _).mem_iff.1 (h.held reference object hfind)
  lender_held handle hmem session hlender :=
    hperm.mem_iff.1 (h.lender_held handle (hperm.mem_iff.2 hmem) session hlender)
  lent session reference hlent := by
    rcases h.lent session reference hlent with hback | ⟨handle, hmem, howns⟩
    · exact .inl hback
    · exact .inr ⟨handle, hperm.mem_iff.1 hmem, howns⟩
  ordered := h.ordered

/-- What was given back is not alive. -/
theorem gone {reference : Nat} (h : Ledger world handles history store)
    (hback : GivenBack history reference) : Gone store reference := by
  obtain ⟨⟨call, answer⟩, hmem, hreleased⟩ := hback
  have hanswered := h.answered _ hmem
  cases call with
  | release other =>
    cases hreleased
    cases answer with
    | error fault => exact absurd ⟨fault, rfl⟩ hanswered
    | ok u => exact h.reached.gone hmem
  | createSession | createDisk | copyDescription =>
    rcases answer with fault | _ | reference <;> cases hreleased
  | value | boolean | textLength | maxSize | copyText => cases hreleased

theorem session_live {session : Session Nat} (h : Ledger world handles history store)
    (hmem : .session session ∈ handles) :
    store.owned.find? session.guard.reference = some .session := by
  obtain ⟨object, hfind, hkind⟩ := h.live _ hmem
  cases object with
  | session => exact hfind
  | disk | dictionary => cases hkind

theorem disk_live {disk : Disk Nat} {lender : Nat} (h : Ledger world handles history store)
    (hmem : .disk disk lender ∈ handles) :
    ∃ name, store.owned.find? disk.guard.reference = some (.disk name) := by
  obtain ⟨object, hfind, hkind⟩ := h.live _ hmem
  cases object with
  | disk name => exact ⟨name, hfind⟩
  | session | dictionary => cases hkind

theorem description_live {description : Description Nat} {lender : Nat}
    (h : Ledger world handles history store) (hmem : .description description lender ∈ handles) :
    ∃ name, store.owned.find? description.guard.reference = some (.dictionary name) := by
  obtain ⟨object, hfind, hkind⟩ := h.live _ hmem
  cases object with
  | dictionary name => exact ⟨name, hfind⟩
  | session | disk => cases hkind

theorem lender_live {handle : Handle} {session : Nat} (h : Ledger world handles history store)
    (hmem : handle ∈ handles) (hlender : handle.lender? = some session) :
    store.owned.find? session = some .session :=
  h.session_live (h.lender_held handle hmem session hlender)

/-- No handle is its own lender: a session has none. -/
theorem lender_ne_self {handle : Handle} (h : Ledger world handles history store)
    (hmem : handle ∈ handles) : handle.lender? ≠ some handle.reference := by
  intro hlender
  obtain ⟨object, hfind, hkind⟩ := h.live handle hmem
  rw [show store.owned.find? handle.reference = some .session from
    h.lender_live hmem hlender] at hfind
  cases hfind
  exact Handle.kind_ne_session hlender hkind.symm

/-- A held reference is held by one handle. -/
theorem eq_of_reference_eq {first second : Handle} (h : Ledger world handles history store)
    (hfirst : first ∈ handles) (hsecond : second ∈ handles)
    (heq : first.reference = second.reference) : first = second :=
  List.inj_on_of_nodup_map h.distinct hfirst hsecond heq

/-- A call that hands nothing out and takes nothing back. -/
theorem keep (h : Ledger world handles history store)
    (hhistory : History world (history ++ [exchange]) store) (hanswered : ¬exchange.BrokeOff)
    (hacquired : exchange.acquired? = none) (hreleased : exchange.released? = none) :
    Ledger world handles (history ++ [exchange]) store where
  reached := hhistory
  answered := forall_mem_concat h.answered hanswered
  distinct := h.distinct
  live := h.live
  held := h.held
  lender_held := h.lender_held
  lent session reference hlent := by
    rcases h.lent session reference (hlent.before_of_acquired? hacquired) with hback | hheld
    · exact .inl (hback.later exchange)
    · exact .inr hheld
  ordered := by
    refine h.ordered.concat ?_ ?_
    · intro session reference hlent
      exact .inl (hlent.before_of_acquired? hacquired)
    · intro session reference hsession
      rw [hreleased] at hsession
      cases hsession

/-- A call that hands out a new object, to a handle that knows who lent it. -/
theorem extend {handle : Handle} {object : Object} (h : Ledger world handles history store)
    (hhistory : History world (history ++ [exchange]) next) (hanswered : ¬exchange.BrokeOff)
    (hreleased : exchange.released? = none)
    (howned : next.owned = store.owned.insert (store.next + 1) object)
    (hreference : handle.reference = store.next + 1) (hkind : object.kind = handle.kind)
    (hlender : ∀ session, handle.lender? = some session → .session ⟨⟨session⟩⟩ ∈ handles)
    (hlent : ∀ session reference, Lent (history ++ [exchange]) session reference →
      Lent history session reference ∨
        (handle.reference = reference ∧ handle.lender? = some session)) :
    Ledger world (handle :: handles) (history ++ [exchange]) next := by
  have hsound := h.reached.sound
  have hkept : ∀ {reference object}, store.owned.find? reference = some object →
      next.owned.find? reference = some object := by
    intro reference object hfind
    have hle := hsound.le_of_find? hfind
    rw [howned, Table.find?_insert_of_ne _ _ (by omega)]
    exact hfind
  have hfresh : handle.reference ∉ handles.map Handle.reference := by
    intro hmem
    obtain ⟨other, hother, hsame⟩ := List.mem_map.1 hmem
    obtain ⟨object, hfind, _⟩ := h.live other hother
    have hle := hsound.le_of_find? hfind
    omega
  refine ⟨hhistory, forall_mem_concat h.answered hanswered, ?distinct, ?live, ?held,
    ?lender, ?lent, ?ordered⟩
  case distinct =>
    exact List.nodup_cons.2 ⟨hfresh, h.distinct⟩
  case live =>
    rw [List.forall_mem_cons]
    constructor
    · refine ⟨object, ?_, hkind⟩
      rw [howned, hreference, Table.find?_insert_self]
    · intro other hother
      obtain ⟨object, hfind, hkind⟩ := h.live other hother
      exact ⟨object, hkept hfind, hkind⟩
  case held =>
    intro reference found hfind
    rw [List.map_cons, List.mem_cons]
    by_cases hnew : reference = store.next + 1
    · exact .inl (hnew.trans hreference.symm)
    · rw [howned, Table.find?_insert_of_ne _ _ hnew] at hfind
      exact .inr (h.held reference found hfind)
  case lender =>
    rw [List.forall_mem_cons]
    constructor
    · intro session hsession
      exact List.mem_cons_of_mem _ (hlender session hsession)
    · intro other hother session hsession
      exact List.mem_cons_of_mem _ (h.lender_held other hother session hsession)
  case lent =>
    intro session reference hlast
    rcases hlent session reference hlast with hbefore | hnew
    · rcases h.lent session reference hbefore with hback | ⟨other, hother, howns⟩
      · exact .inl (hback.later exchange)
      · exact .inr ⟨other, List.mem_cons_of_mem _ hother, howns⟩
    · exact .inr ⟨handle, List.mem_cons_self, hnew⟩
  case ordered =>
    refine h.ordered.concat ?_ ?_
    · intro session reference hlast
      rcases hlent session reference hlast with hbefore | ⟨_, hsession⟩
      · exact .inl hbefore
      · refine .inr fun hback => ?_
        have hlive := h.session_live (hlender session hsession)
        rw [(h.gone hback).2] at hlive
        cases hlive
    · intro session reference hsession
      rw [hreleased] at hsession
      cases hsession

/-- A release of a handle that has lent to no other. -/
theorem release {handle : Handle} (h : Ledger world (handle :: handles) history store)
    (hunlent : ∀ other ∈ handles, other.lender? ≠ some handle.reference) :
    Ledger world handles
      (history ++ [⟨.release handle.reference, (answer world (.release handle.reference) store).1⟩])
      (answer world (.release handle.reference) store).2 := by
  obtain ⟨object, hlive, hkind⟩ := h.live handle List.mem_cons_self
  have hhistory := h.reached.call (.release handle.reference)
  have hanswer := answer_release world hlive
  obtain ⟨hfresh, hdistinct⟩ := List.nodup_cons.1 h.distinct
  have hnone : ∀ other ∈ handle :: handles, other.lender? ≠ some handle.reference := by
    rw [List.forall_mem_cons]
    exact ⟨h.lender_ne_self List.mem_cons_self, hunlent⟩
  rw [hanswer] at hhistory ⊢
  refine ⟨hhistory, ?answered, hdistinct, ?live, ?held, ?lender, ?lent, ?ordered⟩
  case answered =>
    refine forall_mem_concat h.answered ?_
    exact not_brokeOff_ok _
  case live =>
    intro other hother
    obtain ⟨found, hfind, hsame⟩ := h.live other (List.mem_cons_of_mem _ hother)
    have hne : other.reference ≠ handle.reference := by
      intro heq
      rw [← heq] at hfresh
      exact hfresh (List.mem_map_of_mem hother)
    refine ⟨found, ?_, hsame⟩
    rw [remove_owned, Table.find?_erase_of_ne _ hne]
    exact hfind
  case held =>
    intro reference found hfind
    rw [remove_owned] at hfind
    by_cases hreleased : reference = handle.reference
    · rw [hreleased, Table.find?_erase_self] at hfind
      cases hfind
    · rw [Table.find?_erase_of_ne _ hreleased] at hfind
      exact (List.mem_cons.1 (h.held reference found hfind)).resolve_left hreleased
  case lender =>
    intro other hother session hsession
    have hheld := h.lender_held other (List.mem_cons_of_mem _ hother) session hsession
    rcases List.mem_cons.1 hheld with hsame | hrest
    · rw [← hsame] at hunlent
      exact absurd hsession (hunlent other hother)
    · exact hrest
  case lent =>
    intro session reference hlast
    have hbefore := hlast.before_of_acquired? rfl
    rcases h.lent session reference hbefore with hback | ⟨other, hmem, howns⟩
    · exact .inl (hback.later _)
    · rcases List.mem_cons.1 hmem with rfl | hother
      · refine .inl ⟨_, List.mem_append_right _ (List.mem_singleton_self _), ?_⟩
        exact congrArg some howns.1
      · exact .inr ⟨other, hother, howns⟩
  case ordered =>
    refine h.ordered.concat ?_ ?_
    · intro session reference hlast
      exact .inl (hlast.before_of_acquired? rfl)
    · intro session reference hsession hlent
      have hsame : handle.reference = session := Option.some.inj hsession
      rcases h.lent session reference hlent with hback | ⟨other, hmem, _, hlender⟩
      · exact hback
      · rw [← hsame] at hlender
        exact absurd hlender (hnone other hmem)

end Ledger

/-! ## Clients -/

/-- A client creates a handle, if it creates anything, and no held handle was
lent by the new one. -/
def Creates {γ : Type} (world : World) (handles : List Handle) (client : Client Nat (Option γ))
    (handle : γ → Handle) : Prop :=
  ∀ {history : List (Exchange Nat)} {store : Store}, Ledger world handles history store →
    match (client.run world.service store).outcome with
    | .ok (some held) =>
        Ledger world (handle held :: handles)
          (history ++ (client.run world.service store).exchanges)
          (client.run world.service store).state ∧
        ∀ other ∈ handles, other.lender? ≠ some (handle held).reference
    | _ =>
        Ledger world handles (history ++ (client.run world.service store).exchanges)
          (client.run world.service store).state

/-- A client ends with the handles that it began with. -/
def Keeps {α : Type} (world : World) (handles : List Handle) (client : Client Nat α) : Prop :=
  ∀ {history : List (Exchange Nat)} {store : Store}, Ledger world handles history store →
    Ledger world handles (history ++ (client.run world.service store).exchanges)
      (client.run world.service store).state

/-- What a creating call is asked of, and the handle of what it hands out. -/
inductive Obtains (handles : List Handle) : Call Nat → (Nat → Handle) → Prop where
  | guard : Obtains handles .createSession fun reference => .guard ⟨reference⟩
  | session : Obtains handles .createSession fun reference => .session ⟨⟨reference⟩⟩
  | disk {session : Session Nat} {name : DeviceName} (hsession : .session session ∈ handles) :
      Obtains handles (.createDisk session.guard.reference name)
        fun reference => .disk ⟨⟨reference⟩⟩ session.guard.reference
  | description {disk : Disk Nat} {lender : Nat} (hdisk : .disk disk lender ∈ handles) :
      Obtains handles (.copyDescription disk.guard.reference)
        fun reference => .description ⟨⟨reference⟩⟩ lender

section Obtains

variable {world : World} {handles : List Handle} {history : List (Exchange Nat)}
  {store next : Store} {call : Call Nat} {make : Nat → Handle}

/-- A creating call that is asked of a held handle passes its check. -/
theorem Obtains.answered (hobtains : Obtains handles call make)
    (h : Ledger world handles history store) :
    ¬(⟨call, (answer world call store).1⟩ : Exchange Nat).BrokeOff := by
  rintro ⟨fault, hfault⟩
  cases hobtains with
  | guard | session => cases hfault
  | disk hsession =>
    rw [answer, expectSession, h.session_live hsession] at hfault
    cases hfault
  | description hdisk =>
    obtain ⟨name, hlive⟩ := h.disk_live hdisk
    rw [answer, expectDisk, hlive] at hfault
    cases hfault

/-- The handle of what a creating call handed out. -/
theorem Obtains.extend {answer : Except Fault call.Answer} {reference : Nat}
    (hobtains : Obtains handles call make) (h : Ledger world handles history store)
    (hhistory : History world (history ++ [⟨call, answer⟩]) next)
    (hstep : Transition world store ⟨call, answer⟩ next)
    (hacquired : (⟨call, answer⟩ : Exchange Nat).acquired? = some reference) :
    reference = store.next + 1 ∧
      Ledger world (make reference :: handles) (history ++ [⟨call, answer⟩]) next := by
  cases hobtains with
  | guard | session =>
    cases hstep with
    | keep hnone => rw [hnone] at hacquired; cases hacquired
    | session =>
      cases hacquired
      refine ⟨rfl, h.extend hhistory (not_brokeOff_ok _) rfl rfl rfl rfl ?_ ?_⟩
      · intro session hsession
        cases hsession
      · intro session reference hlast
        rcases hlast.last_or_before with hbefore | ⟨_, hcall⟩ | ⟨_, _, hcall⟩
        · exact .inl hbefore
        · cases hcall
        · cases hcall
  | @disk session name hsession =>
    cases hstep with
    | keep hnone => rw [hnone] at hacquired; cases hacquired
    | disk =>
      cases hacquired
      refine ⟨rfl, h.extend hhistory (not_brokeOff_ok _) rfl rfl rfl rfl ?_ ?_⟩
      · intro lender hlender
        cases hlender
        exact hsession
      · intro lender reference hlast
        rcases hlast.last_or_before with hbefore | ⟨_, hcall⟩ | ⟨_, _, hcall⟩
        · exact .inl hbefore
        · cases hcall
          exact .inr ⟨rfl, rfl⟩
        · cases hcall
  | @description disk lender hdisk =>
    cases hstep with
    | keep hnone => rw [hnone] at hacquired; cases hacquired
    | @dictionary _ name entries =>
      cases hacquired
      obtain ⟨_, howned, _⟩ :=
        foldl_addEntry_counters (store.next + 1) (store.create (.dictionary name)) entries
      refine ⟨rfl, h.extend hhistory (not_brokeOff_ok _) rfl howned rfl rfl ?_ ?_⟩
      · intro session hsession
        cases hsession
        exact h.lender_held _ hdisk lender rfl
      · intro session reference hlast
        rcases hlast.last_or_before with hbefore | ⟨_, hcall⟩ | ⟨lent, hlent, hcall⟩
        · exact .inl hbefore
        · cases hcall
        · -- The disk is alive, so its handle still knows the session that lent it.
          cases hcall
          obtain ⟨_, hlive⟩ := h.disk_live hdisk
          rcases h.lent session _ hlent with hback | ⟨other, hother, hsame, hlender⟩
          · rw [(h.gone hback).2] at hlive
            cases hlive
          · rw [h.eq_of_reference_eq hother hdisk hsame] at hlender
            exact .inr ⟨rfl, hlender⟩

/-- A lender is alive, so a new number lends nothing. -/
theorem Ledger.lender_ne_next (h : Ledger world handles history store) :
    ∀ other ∈ handles, other.lender? ≠ some (store.next + 1) := by
  intro other hother hlender
  have hlive := h.lender_live hother hlender
  have hle := h.reached.sound.le_of_find? hlive
  omega

/-- A client that makes one creating call creates a handle. -/
theorem creates_of_acquires {γ : Type} {owner : γ → Guard Nat} {client : Client Nat (Option γ)}
    (hacquires : Acquires call owner client) (hobtains : Obtains handles call make) :
    Creates world handles client fun held => make (owner held).reference := by
  intro history store h
  obtain ⟨hexchanges, hstate, hacquired, _⟩ := hacquires world.service store
  have hanswered := hobtains.answered h
  have hhistory := h.reached.call call
  have hstep := transition_answer world store call
  have hkeep : (⟨call, (answer world call store).1⟩ : Exchange Nat).acquired? = none →
      Ledger world handles (history ++ [⟨call, (answer world call store).1⟩])
        (answer world call store).2 := by
    intro hnone
    have hreleased : (⟨call, (answer world call store).1⟩ : Exchange Nat).released? = none := by
      cases hobtains <;> rfl
    have hsame := hstep.eq_self hnone hreleased
    rw [hsame] at hhistory ⊢
    exact h.keep hhistory hanswered hnone hreleased
  rw [hexchanges, hstate]
  revert hacquired
  rcases (client.run world.service store).outcome with fault | _ | held
  · exact hkeep
  · exact hkeep
  · intro hacquired
    obtain ⟨hnew, hledger⟩ := hobtains.extend h hhistory hstep hacquired
    have hreference : (make (owner held).reference).reference = store.next + 1 := by
      rw [← hnew]
      cases hobtains <;> rfl
    refine ⟨hledger, ?_⟩
    rw [hreference]
    exact h.lender_ne_next

end Obtains

section Keeps

variable {world : World} {handles : List Handle} {α γ : Type}

theorem creates_connect : Creates world handles Session.connect .session :=
  creates_of_acquires acquires_connect .session

theorem creates_adoptNew :
    Creates world handles (do Guard.adopt (← perform .createSession)) .guard :=
  creates_of_acquires acquires_adoptNew .guard

theorem creates_resolve {session : Session Nat} (hmem : .session session ∈ handles)
    (name : DeviceName) :
    Creates world handles (session.resolve name) fun disk => .disk disk session.guard.reference :=
  creates_of_acquires (acquires_resolve session name) (.disk hmem)

theorem creates_describe {disk : Disk Nat} {lender : Nat} (hmem : .disk disk lender ∈ handles) :
    Creates world handles disk.describe fun description => .description description lender :=
  creates_of_acquires (acquires_describe disk) (.description hmem)

theorem keeps_done (outcome : Except Fault α) : Keeps world handles (done outcome) := by
  intro history store h
  rw [run_done, exchanges_nil, List.append_nil]
  exact h

/-- A client that reads keeps the ledger, if every call was answered.  The
induction is on the client: no call changes the store. -/
theorem Ledger.reads {client : Client Nat α} {dictionary : Nat} {history : List (Exchange Nat)}
    {store : Store} (h : Ledger world handles history store)
    (hreads : ∀ exchange ∈ (client.run world.service store).exchanges, IsRead dictionary exchange)
    (hanswered : ∀ exchange ∈ (client.run world.service store).exchanges, ¬exchange.BrokeOff) :
    Ledger world handles (history ++ (client.run world.service store).exchanges)
      (client.run world.service store).state := by
  induction client generalizing history store with
  | done outcome => exact keeps_done outcome h
  | report event rest ih => exact ih h hreads hanswered
  | ask call resume ih =>
    rw [exchanges_ask, List.forall_mem_cons] at hreads hanswered
    have hhistory := h.reached.call call
    have hstep := transition_answer world store call
    obtain ⟨hacquired, hreleased, _⟩ := hreads.1
    have hledger : Ledger world handles (history ++ [⟨call, (answer world call store).1⟩])
        (answer world call store).2 := by
      rw [hstep.eq_self hacquired hreleased] at hhistory ⊢
      exact h.keep hhistory hanswered.1 hacquired hreleased
    have hrest := ih _ hledger hreads.2 hanswered.2
    rw [List.append_assoc] at hrest
    exact hrest

/-- A straight client that reads keeps the ledger, if it ends with a result. -/
theorem keeps_reading {client : Client Nat α} {dictionary : Nat} (hstraight : client.Straight)
    (hreads : ∀ store, ∀ exchange ∈ (client.run world.service store).exchanges,
      IsRead dictionary exchange)
    (hends : ∀ {history : List (Exchange Nat)} {store : Store},
      Ledger world handles history store → ∃ result, Observes world store client result) :
    Keeps world handles client := by
  intro history store h
  obtain ⟨result, hobserves⟩ := hends h
  exact h.reads (hreads store) (hstraight.not_brokeOff hobserves.outcome)

/-- A reference that is created and owned while a body runs is given back. -/
theorem keeps_owning {create : Client Nat (Option γ)} {owner : γ → Guard Nat}
    {handle : γ → Handle} {absent : Client Nat α} {within : γ → Client Nat α}
    (hcreate : Creates world handles create handle)
    (howner : ∀ held, (handle held).owner = owner held)
    (habsent : Keeps world handles absent)
    (hwithin : ∀ held, Keeps world (handle held :: handles) (within held)) :
    Keeps world handles (Guard.owning create owner absent within) := by
  intro history store h
  have hcreated := hcreate h
  unfold Guard.owning
  cases houtcome : (create.run world.service store).outcome with
  | error fault =>
    rw [houtcome] at hcreated
    rw [exchanges_bind_of_error _ houtcome, run_bind_of_error _ houtcome]
    exact hcreated
  | ok created =>
    rw [houtcome] at hcreated
    rw [exchanges_bind_of_ok _ houtcome, run_bind_of_ok _ houtcome, ← List.append_assoc]
    cases created with
    | none => exact habsent hcreated
    | some held =>
      obtain ⟨hledger, hunlent⟩ := hcreated
      have hreference : (handle held).reference = (owner held).reference :=
        congrArg Guard.reference (howner held)
      have hreleased := (hwithin held hledger).release hunlent
      rw [hreference, List.append_assoc] at hreleased
      rw [exchanges_holding, run_holding]
      exact hreleased

/-! ## Queries -/

section Readings

variable {description : Description Nat} {lender : Nat}
  (hmem : .description description lender ∈ handles)

include hmem

/-- A held description shows entries. -/
theorem Ledger.exists_shows {history : List (Exchange Nat)} {store : Store}
    (h : Ledger world handles history store) :
    ∃ entries, Shows store description.guard.reference entries := by
  obtain ⟨name, hlive⟩ := h.description_live hmem
  exact Store.exists_shows h.reached.sound hlive

theorem keeps_boolean (key : Key) : Keeps world handles (description.boolean key) := by
  refine keeps_reading (straight_boolean description key)
    (fun store => (keyReads_boolean description key world.service store).isRead) fun h => ?_
  obtain ⟨entries, hshows⟩ := h.exists_shows hmem
  exact ⟨_, hshows.boolean world key⟩

theorem keeps_text (key : Key) : Keeps world handles (description.text key) := by
  refine keeps_reading (straight_text description key)
    (fun store => (keyReads_text description key world.service store).isRead) fun h => ?_
  obtain ⟨entries, hshows⟩ := h.exists_shows hmem
  exact ⟨_, hshows.text world key⟩

theorem keeps_lookup (name : DeviceName) : Keeps world handles (description.lookup name) := by
  refine keeps_reading (straight_lookup name description)
    (fun store => (readsDescription_lookup name description world.service store).1.isRead)
    fun h => ?_
  obtain ⟨entries, hshows⟩ := h.exists_shows hmem
  exact ⟨_, hshows.lookup world name⟩

end Readings

theorem keeps_query (name : DeviceName) : Keeps world handles (query name) := by
  rw [query_eq]
  refine keeps_owning creates_connect (fun _ => rfl) (keeps_done _) fun session => ?_
  refine keeps_owning (creates_resolve List.mem_cons_self name) (fun _ => rfl) (keeps_done _)
    fun disk => ?_
  refine keeps_owning (creates_describe List.mem_cons_self) (fun _ => rfl) (keeps_done _)
    fun description => ?_
  exact keeps_lookup List.mem_cons_self name

theorem keeps_brokenQuery (name : DeviceName) : Keeps world handles (brokenQuery name) := by
  rw [brokenQuery_eq]
  refine keeps_owning creates_connect (fun _ => rfl) (keeps_done _) fun session => ?_
  refine keeps_owning (creates_resolve List.mem_cons_self name) (fun _ => rfl) (keeps_done _)
    fun disk => ?_
  refine keeps_owning (creates_describe List.mem_cons_self) (fun _ => rfl) (keeps_done _)
    fun description => ?_
  exact keeps_done _

end Keeps

end DiskQuery.Script
