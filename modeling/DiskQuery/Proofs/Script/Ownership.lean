import DiskQuery.Proofs.Script.Ledger
import DiskQuery.Script.Report

/-!
# Ownership in scripts

A script that names no references by their numbers owns what it creates.  The
handles that it holds and the live references of its store are the same, after
every step, and no check of the store ever fails.

There are three groups.

* Slots.  A slot holds one handle, so giving it up takes one handle away.
* Steps.  `Kept` is the invariant of a script under way: its slots are
  distinct, and its handles are a ledger.  Every guarded step keeps it.
* Scripts.  `kept_run` iterates the step, and `guarded_script` says what the
  ledger means for whoever runs one.
-/

namespace DiskQuery.Script

open Client Store

/-! ## Slots -/

namespace Held

theorem notMem_of_find?_eq_none {held : Held} {slot : Slot} (h : held.find? slot = none) :
    slot ∉ held.map Prod.fst := by
  intro hmem
  obtain ⟨entry, hentry, rfl⟩ := List.mem_map.1 hmem
  have hne := List.lookup_eq_none_iff.1 h entry hentry
  simp at hne

theorem map_without_sublist (held : Held) (slot : Slot) :
    ((held.without slot).map Prod.fst).Sublist (held.map Prod.fst) :=
  List.filter_sublist.map Prod.fst

theorem nodup_concat {held : Held} {into : Slot} (hslots : (held.map Prod.fst).Nodup)
    (hvacant : into ∉ held.map Prod.fst) (handle : Handle) :
    ((held ++ [(into, handle)]).map Prod.fst).Nodup := by
  rw [List.map_append, List.map_singleton]
  exact (List.perm_append_singleton _ _).nodup_iff.2 (List.nodup_cons.2 ⟨hvacant, hslots⟩)

/-- Giving a slot up takes its handle away and no other. -/
theorem perm_without {held : Held} {slot : Slot} {handle : Handle}
    (hslots : (held.map Prod.fst).Nodup) (h : held.find? slot = some handle) :
    held.Perm ((slot, handle) :: held.without slot) :=
  Table.perm_erase (show (⟨held⟩ : Table Slot Handle).keys.Nodup from hslots) h

end Held

/-! ## Steps -/

/-- A step that names no reference by its number: it uses held handles, queries,
and creations whose result it holds. -/
def Step.Guarded : Step → Prop
  | .adopt _ _ => False
  | .createDisk _ _ => False
  | .call _ => False
  | _ => True

/-- The calls of a step, with their answers. -/
def Outcome.exchanges (outcome : Outcome) : List (Exchange Nat) :=
  outcome.actions.filterMap Client.Action.exchange?

/-- The calls of a list of steps, with their answers. -/
def State.exchanges (world : World) (state : State) : List Step → List (Exchange Nat)
  | [] => []
  | step :: rest =>
      (state.step world step).exchanges ++ (state.step world step).state.exchanges world rest

/-- The slots of a script are distinct, and its handles own what is alive. -/
structure Kept (world : World) (history : List (Exchange Nat)) (state : State) : Prop where
  slots : (state.held.map Prod.fst).Nodup
  ledger : Ledger world (state.held.map Prod.snd) history state.store

namespace Kept

variable {world : World} {history : List (Exchange Nat)} {state : State} {α : Type}

theorem empty (world : World) : Kept world [] {} where
  slots := List.nodup_nil
  ledger := ledger_empty world

/-- A step that makes no call and holds the same. -/
theorem idle (h : Kept world history state) (reply : Reply) :
    Kept world (history ++ (⟨reply, state, []⟩ : Outcome).exchanges) state := by
  have hnone : (⟨reply, state, []⟩ : Outcome).exchanges = [] := rfl
  rw [hnone, List.append_nil]
  exact h

/-- A new handle in a vacant slot. -/
theorem hold {held : Held} {store : Store} {into : Slot} {handle : Handle}
    (hslots : (held.map Prod.fst).Nodup) (hvacant : into ∉ held.map Prod.fst)
    (hledger : Ledger world (handle :: held.map Prod.snd) history store) :
    Kept world history ⟨store, held ++ [(into, handle)]⟩ where
  slots := Held.nodup_concat hslots hvacant handle
  ledger := by
    refine hledger.perm ?_
    rw [List.map_append, List.map_singleton]
    exact (List.perm_append_singleton _ _).symm

/-- The handles other than the one in a slot. -/
theorem perm_handles (h : Kept world history state) {slot : Slot} {handle : Handle}
    (hfind : state.held.find? slot = some handle) :
    (state.held.map Prod.snd).Perm (handle :: (state.held.without slot).map Prod.snd) :=
  (Held.perm_without h.slots hfind).map Prod.snd

/-- A handle that does not lend is no lender of any other. -/
theorem lender_ne (h : Kept world history state) {slot : Slot} {handle : Handle}
    (hfind : state.held.find? slot = some handle) (hlending : state.held.isLending handle = false) :
    ∀ other ∈ state.held.map Prod.snd, other.lender? ≠ some handle.reference := by
  intro other hother hlender
  have hmem : handle ∈ state.held.map Prod.snd :=
    (h.perm_handles hfind).mem_iff.2 List.mem_cons_self
  have hsession := h.ledger.lender_held other hother _ hlender
  have hsame : handle = .session ⟨⟨handle.reference⟩⟩ :=
    h.ledger.eq_of_reference_eq hmem hsession rfl
  obtain ⟨entry, hentry, rfl⟩ := List.mem_map.1 hother
  rw [hsame, Held.isLending, List.any_eq_false] at hlending
  refine hlending entry hentry ?_
  rw [hlender]
  exact beq_self_eq_true _

theorem running_of_ok {client : Client Nat α} {a : α} (finish : α → State → Reply × State)
    (h : (client.run world.service state.store).outcome = .ok a) :
    state.running world client finish =
      ⟨(finish a { state with store := (client.run world.service state.store).state }).1,
        (finish a { state with store := (client.run world.service state.store).state }).2,
        (client.run world.service state.store).actions⟩ := by
  unfold State.running
  simp only [h]

theorem running_of_error {client : Client Nat α} {fault : Fault}
    (finish : α → State → Reply × State)
    (h : (client.run world.service state.store).outcome = .error fault) :
    state.running world client finish =
      ⟨.fault fault, { state with store := (client.run world.service state.store).state },
        (client.run world.service state.store).actions⟩ := by
  unfold State.running
  simp only [h]

theorem asking (h : Kept world history state) {client : Client Nat α}
    (hkeeps : Keeps world (state.held.map Prod.snd) client) (reply : α → Reply) :
    Kept world (history ++ (state.asking world client reply).exchanges)
      (state.asking world client reply).state := by
  have hledger := hkeeps h.ledger
  unfold State.asking
  cases houtcome : (client.run world.service state.store).outcome with
  | ok a =>
    rw [running_of_ok _ houtcome]
    exact ⟨h.slots, hledger⟩
  | error fault =>
    rw [running_of_error _ houtcome]
    exact ⟨h.slots, hledger⟩

theorem creating (h : Kept world history state) {γ : Type} {client : Client Nat (Option γ)}
    {handle : γ → Handle} {into : Slot}
    (hcreates : Creates world (state.held.map Prod.snd) client handle)
    (hvacant : into ∉ state.held.map Prod.fst) :
    Kept world (history ++ (state.creating world client into handle).exchanges)
      (state.creating world client into handle).state := by
  have hledger := hcreates h.ledger
  unfold State.creating
  cases houtcome : (client.run world.service state.store).outcome with
  | error fault =>
    rw [houtcome] at hledger
    rw [running_of_error _ houtcome]
    exact ⟨h.slots, hledger⟩
  | ok created =>
    rw [houtcome] at hledger
    rw [running_of_ok _ houtcome]
    cases created with
    | none => exact ⟨h.slots, hledger⟩
    | some held => exact hold h.slots hvacant hledger.1

theorem releasing (h : Kept world history state) {on : Slot} {handle : Handle}
    (hfind : state.held.find? on = some handle) (hlending : state.held.isLending handle = false) :
    Kept world (history ++ (state.releasing world on handle).exchanges)
      (state.releasing world on handle).state := by
  have hslots := (state.held.map_without_sublist on).nodup h.slots
  have hperm := h.perm_handles hfind
  have hledger := (h.ledger.perm hperm).release fun other hother =>
    h.lender_ne hfind hlending other (hperm.mem_iff.2 (List.mem_cons_of_mem _ hother))
  unfold State.releasing State.asking
  cases houtcome : (handle.owner.release.run world.service (state.lose on).store).outcome with
  | ok u =>
    rw [running_of_ok _ houtcome]
    exact ⟨hslots, hledger⟩
  | error fault =>
    rw [running_of_error _ houtcome]
    exact ⟨hslots, hledger⟩

theorem move (h : Kept world history state) {on into : Slot} {handle : Handle}
    (hfind : state.held.find? on = some handle) (hvacant : into ∉ state.held.map Prod.fst) :
    Kept world history ((state.lose on).hold into handle) := by
  have hsublist := state.held.map_without_sublist on
  exact hold (hsublist.nodup h.slots) (fun hmem => hvacant (hsublist.subset hmem))
    (h.ledger.perm (h.perm_handles hfind))

end Kept

/-! ### Checks of a plan -/

section Checks

variable {state : State} {slot : Slot}

theorem vacant_eq_ok {u : Unit} (h : state.vacant slot = .ok u) :
    slot ∉ state.held.map Prod.fst := by
  unfold State.vacant at h
  cases hfind : state.held.find? slot with
  | none => exact Held.notMem_of_find?_eq_none hfind
  | some handle =>
    rw [hfind] at h
    cases h

theorem handle_eq_ok {handle : Handle} (h : state.handle slot = .ok handle) :
    state.held.find? slot = some handle := by
  unfold State.handle at h
  cases hfind : state.held.find? slot with
  | none =>
    rw [hfind] at h
    cases h
  | some found =>
    rw [hfind] at h
    cases h
    rfl

theorem mem_of_handle_eq_ok {handle : Handle} (h : state.handle slot = .ok handle) :
    handle ∈ state.held.map Prod.snd :=
  List.mem_map_of_mem (Table.mem_of_find?
    (show (⟨state.held⟩ : Table Slot Handle).find? slot = some handle from handle_eq_ok h))

theorem session_eq_ok {session : Session Nat} (h : state.session slot = .ok session) :
    .session session ∈ state.held.map Prod.snd := by
  obtain ⟨handle, hhandle, hkind⟩ := exists_of_bind_eq_ok h
  cases handle with
  | session found =>
    cases hkind
    exact mem_of_handle_eq_ok hhandle
  | guard | disk | description => cases hkind

theorem disk_eq_ok {disk : Disk Nat} {lender : Nat} (h : state.disk slot = .ok (disk, lender)) :
    .disk disk lender ∈ state.held.map Prod.snd := by
  obtain ⟨handle, hhandle, hkind⟩ := exists_of_bind_eq_ok h
  cases handle with
  | disk found lender =>
    cases hkind
    exact mem_of_handle_eq_ok hhandle
  | guard | session | description => cases hkind

theorem description_eq_ok {description : Description Nat}
    (h : state.description slot = .ok description) :
    ∃ lender, .description description lender ∈ state.held.map Prod.snd := by
  obtain ⟨handle, hhandle, hkind⟩ := exists_of_bind_eq_ok h
  cases handle with
  | description found lender =>
    cases hkind
    exact ⟨lender, mem_of_handle_eq_ok hhandle⟩
  | guard | session | disk => cases hkind

theorem unlent_eq_ok {handle : Handle} {u : Unit} (h : state.unlent handle = .ok u) :
    state.held.isLending handle = false := by
  unfold State.unlent at h
  cases hlending : state.held.isLending handle with
  | false => rfl
  | true =>
    rw [hlending] at h
    cases h

end Checks

/-- A guarded step keeps the ledger, one case for each step. -/
theorem Kept.plan {world : World} {history : List (Exchange Nat)} {state : State}
    (h : Kept world history state) {step : Step} (hguarded : step.Guarded) {outcome : Outcome}
    (hplan : state.plan world step = .ok outcome) :
    Kept world (history ++ outcome.exchanges) outcome.state := by
  cases step with
  | connect into =>
    obtain ⟨_, hvacant, hplan⟩ := exists_of_bind_eq_ok hplan
    cases hplan
    exact h.creating creates_connect (vacant_eq_ok hvacant)
  | resolve on bytes into =>
    obtain ⟨_, hvacant, hplan⟩ := exists_of_bind_eq_ok hplan
    obtain ⟨name, _, hplan⟩ := exists_of_bind_eq_ok hplan
    obtain ⟨session, hsession, hplan⟩ := exists_of_bind_eq_ok hplan
    cases hplan
    exact h.creating (creates_resolve (session_eq_ok hsession) name) (vacant_eq_ok hvacant)
  | describe on into =>
    obtain ⟨_, hvacant, hplan⟩ := exists_of_bind_eq_ok hplan
    obtain ⟨⟨disk, lender⟩, hdisk, hplan⟩ := exists_of_bind_eq_ok hplan
    cases hplan
    exact h.creating (creates_describe (disk_eq_ok hdisk)) (vacant_eq_ok hvacant)
  | boolean on key =>
    obtain ⟨description, hdescription, hplan⟩ := exists_of_bind_eq_ok hplan
    obtain ⟨lender, hmem⟩ := description_eq_ok hdescription
    cases hplan
    exact h.asking (keeps_boolean hmem key) _
  | text on key =>
    obtain ⟨description, hdescription, hplan⟩ := exists_of_bind_eq_ok hplan
    obtain ⟨lender, hmem⟩ := description_eq_ok hdescription
    cases hplan
    exact h.asking (keeps_text hmem key) _
  | adoptNew into =>
    obtain ⟨_, hvacant, hplan⟩ := exists_of_bind_eq_ok hplan
    cases hplan
    exact h.creating creates_adoptNew (vacant_eq_ok hvacant)
  | reference on =>
    obtain ⟨handle, _, hplan⟩ := exists_of_bind_eq_ok hplan
    cases hvisible : handle.visibleReference? with
    | none =>
      rw [hvisible] at hplan
      cases hplan
    | some reference =>
      rw [hvisible] at hplan
      cases hplan
      exact h.idle _
  | form on =>
    obtain ⟨handle, _, hplan⟩ := exists_of_bind_eq_ok hplan
    cases hplan
    exact h.idle _
  | move on into =>
    obtain ⟨handle, hhandle, hplan⟩ := exists_of_bind_eq_ok hplan
    obtain ⟨_, hvacant, hplan⟩ := exists_of_bind_eq_ok hplan
    obtain ⟨_, _, hplan⟩ := exists_of_bind_eq_ok hplan
    cases hplan
    exact (h.move (handle_eq_ok hhandle) (vacant_eq_ok hvacant)).idle _
  | drop on =>
    obtain ⟨handle, hhandle, hplan⟩ := exists_of_bind_eq_ok hplan
    obtain ⟨_, hunlent, hplan⟩ := exists_of_bind_eq_ok hplan
    cases hplan
    exact h.releasing (handle_eq_ok hhandle) (unlent_eq_ok hunlent)
  | query bytes =>
    obtain ⟨name, _, hplan⟩ := exists_of_bind_eq_ok hplan
    cases hplan
    exact h.asking (keeps_query name) _
  | brokenQuery bytes =>
    obtain ⟨name, _, hplan⟩ := exists_of_bind_eq_ok hplan
    cases hplan
    exact h.asking (keeps_brokenQuery name) _
  | isLive reference =>
    cases hplan
    exact h.idle _
  | adopt | createDisk | call => exact absurd hguarded id

theorem Kept.step {world : World} {history : List (Exchange Nat)} {state : State}
    (h : Kept world history state) {step : Step} (hguarded : step.Guarded) :
    Kept world (history ++ (state.step world step).exchanges) (state.step world step).state := by
  unfold State.step
  cases hplan : state.plan world step with
  | ok outcome => exact h.plan hguarded hplan
  | error reply => exact h.idle reply

/-! ## Scripts -/

/-- A list of guarded steps keeps the ledger. -/
theorem kept_run {world : World} {steps : List Step} (hguarded : ∀ step ∈ steps, step.Guarded)
    {history : List (Exchange Nat)} {state : State} (h : Kept world history state) :
    Kept world (history ++ state.exchanges world steps) (state.run world steps).2 := by
  induction steps generalizing history state with
  | nil =>
    unfold State.exchanges
    rw [List.append_nil]
    exact h
  | cons step rest ih =>
    rw [List.forall_mem_cons] at hguarded
    have hrest := ih hguarded.2 (h.step hguarded.1)
    rw [List.append_assoc] at hrest
    exact hrest

/-- The held handles and the live references are the same. -/
structure Owns (state : State) : Prop where
  /-- No two handles own one reference. -/
  distinct : (state.held.map fun entry => entry.2.reference).Nodup
  /-- A reference is alive if and only if a handle owns it. -/
  live_iff : ∀ reference, state.store.isLive reference = true ↔
    ∃ entry ∈ state.held, entry.2.reference = reference
  /-- A handle owns an object of its kind. -/
  kinds : ∀ entry ∈ state.held,
    (state.store.owned.find? entry.2.reference).map Object.kind = some entry.2.kind

theorem Kept.owns {world : World} {history : List (Exchange Nat)} {state : State}
    (h : Kept world history state) : Owns state where
  distinct := by
    have hdistinct := h.ledger.distinct
    rwa [List.map_map] at hdistinct
  live_iff reference := by
    unfold Store.isLive
    constructor
    · intro hlive
      obtain ⟨object, hfind⟩ := Option.isSome_iff_exists.1 hlive
      have hheld := h.ledger.held reference object hfind
      rw [List.map_map] at hheld
      exact List.mem_map.1 hheld
    · rintro ⟨entry, hentry, rfl⟩
      obtain ⟨object, hfind, _⟩ := h.ledger.live entry.2 (List.mem_map_of_mem hentry)
      rw [hfind]
      rfl
  kinds entry hentry := by
    obtain ⟨object, hfind, hkind⟩ := h.ledger.live entry.2 (List.mem_map_of_mem hentry)
    rw [hfind, Option.map_some, hkind]

/-- Without a handle nothing is alive, and all that was created was given
back. -/
theorem Kept.balanced {world : World} {history : List (Exchange Nat)} {state : State}
    (h : Kept world history state) (hheld : state.held = []) :
    state.store.live = 0 ∧ state.store.created = state.store.released.length := by
  have hlive : state.store.live = 0 := by
    refine Table.size_eq_zero fun reference => ?_
    cases hfind : state.store.owned.find? reference with
    | none => rfl
    | some object =>
      have hmem := h.ledger.held reference object hfind
      rw [hheld] at hmem
      cases hmem
  have hcounted := h.ledger.reached.sound.counted
  unfold Store.live at hlive
  refine ⟨hlive, ?_⟩
  omega

/-- A guarded script fails no check, holds after every step just what is alive,
leaves nothing behind when it holds nothing, and gives each session back after
all that was obtained through it. -/
theorem guarded_script (world : World) {steps : List Step}
    (hguarded : ∀ step ∈ steps, step.Guarded) :
    (∀ exchange ∈ ({} : State).exchanges world steps, ¬exchange.BrokeOff) ∧
    (∀ count, Owns (({} : State).run world (steps.take count)).2) ∧
    ((({} : State).run world steps).2.held = [] →
      (({} : State).run world steps).2.store.live = 0 ∧
      (({} : State).run world steps).2.store.created =
        (({} : State).run world steps).2.store.released.length) ∧
    LendersLast (({} : State).exchanges world steps) := by
  have hkept := kept_run hguarded (.empty world)
  refine ⟨hkept.ledger.answered, ?_, hkept.balanced, hkept.ledger.ordered⟩
  intro count
  have hprefix : ∀ step ∈ steps.take count, step.Guarded :=
    fun step hmem => hguarded step (List.mem_of_mem_take hmem)
  exact (kept_run hprefix (.empty world)).owns

/-- A description that outlives its disk, beside a query and a query that breaks
off.  Nine references are created and given back. -/
theorem guarded_script_of_description :
    let world : World := { disks := [⟨"d", some [(.mediaRemovable, .boolean true)]⟩] }
    let steps : List Step :=
      [.connect "session", .resolve "session" [100] "disk", .describe "disk" "description",
        .drop "disk", .query [100], .drop "session", .boolean "description" .mediaRemovable,
        .brokenQuery [100], .drop "description", .drop "session"]
    (∀ step ∈ steps, step.Guarded) ∧ (({} : State).run world steps).2.held = [] ∧
      (({} : State).run world steps).2.store.live = 0 ∧
      (({} : State).run world steps).2.store.created = 9 := by
  intro world steps
  have hguarded : ∀ step ∈ steps, step.Guarded := by
    simp [steps, Step.Guarded]
  have hheld : (({} : State).run world steps).2.held = [] := by decide
  have hcreated : (({} : State).run world steps).2.store.created = 9 := by decide
  obtain ⟨_, _, hbalanced, _⟩ := guarded_script world hguarded
  exact ⟨hguarded, hheld, (hbalanced hheld).1, hcreated⟩

end DiskQuery.Script
