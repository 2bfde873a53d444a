import DiskQuery.Proofs.Client.Narration
import DiskQuery.Proofs.Script.Ownership

/-!
# The journal of a script

The events of a script tell which references its guards hold: those that were
acquired and not released since.  That is so for every script, also for one that
names references by their numbers, guards one of them twice, or has a release
fail its check.

There are three groups.

* Books.  `Carries` follows the references that guards hold along a list of
  events, and `Accounts` is what a reader of the list learns from that.
* Steps.  `Booked` is what a step keeps, with one lemma for each thing that a
  step can do.  Every step keeps it.
* Scripts.  `carries_run` iterates the step, `carries_exit` gives back what is
  held at the end, and `accounts_script` is the result.
-/

namespace DiskQuery

open Client Store

/-! ## Books -/

section Books

variable {ρ : Type} {held others mid after : List ρ} {log more : List (Event ρ)}

/-- The references that guards hold, before and after the events.  Their order
carries no meaning. -/
inductive Carries : List ρ → List (Event ρ) → List ρ → Prop where
  | nil {held after : List ρ} (hperm : held.Perm after) : Carries held [] after
  | acquired {held after : List ρ} {log : List (Event ρ)} {reference : ρ}
      (hrest : Carries (reference :: held) log after) :
      Carries held (.acquired reference :: log) after
  | releasing {held others after : List ρ} {log : List (Event ρ)} {reference : ρ}
      (hperm : held.Perm (reference :: others)) (hrest : Carries others log after) :
      Carries held (.releasing reference :: log) after
  | note {held after : List ρ} {log : List (Event ρ)} {event : Event ρ}
      (hacquired : event.acquired? = none) (hreleasing : event.releasing? = none)
      (hrest : Carries held log after) : Carries held (event :: log) after

namespace Carries

theorem refl (held : List ρ) : Carries held [] held :=
  .nil (List.Perm.refl held)

theorem perm_left (h : Carries held log after) (hperm : others.Perm held) :
    Carries others log after := by
  induction h generalizing others with
  | nil hafter => exact .nil (hperm.trans hafter)
  | acquired _ ih => exact .acquired (ih (hperm.cons _))
  | releasing hheld hrest _ => exact .releasing (hperm.trans hheld) hrest
  | note hacquired hreleasing _ ih => exact .note hacquired hreleasing (ih hperm)

theorem append (h : Carries held log mid) (hmore : Carries mid more after) :
    Carries held (log ++ more) after := by
  induction h with
  | nil hperm => exact hmore.perm_left hperm
  | acquired _ ih => exact .acquired (ih hmore)
  | releasing hperm _ ih => exact .releasing hperm (ih hmore)
  | note hacquired hreleasing _ ih => exact .note hacquired hreleasing (ih hmore)

/-- What was held and was acquired is what was released and is held. -/
theorem balanced (h : Carries held log after) :
    (log.filterMap Event.acquired? ++ held).Perm (log.filterMap Event.releasing? ++ after) := by
  induction h with
  | nil hperm => exact hperm
  | acquired _ ih => exact List.perm_middle.symm.trans ih
  | releasing hperm _ ih => exact ((hperm.append_left _).trans List.perm_middle).trans (ih.cons _)
  | note hacquired hreleasing _ ih =>
    rw [List.filterMap_cons_none hacquired, List.filterMap_cons_none hreleasing]
    exact ih

/-- Before a release the reference is held. -/
theorem exists_of_split {before rest : List (Event ρ)} {reference : ρ}
    (h : Carries held (before ++ .releasing reference :: rest) after) :
    ∃ others, Carries held before (reference :: others) := by
  generalize hsplit : before ++ .releasing reference :: rest = log at h
  induction h generalizing before with
  | nil _ => simp at hsplit
  | acquired _ ih =>
    rcases List.append_eq_cons_iff.1 hsplit with ⟨_, hhead⟩ | ⟨init, rfl, hinit⟩
    · cases hhead
    · obtain ⟨others, hbefore⟩ := ih hinit.symm
      exact ⟨others, .acquired hbefore⟩
  | releasing hperm hrest ih =>
    rcases List.append_eq_cons_iff.1 hsplit with ⟨rfl, hhead⟩ | ⟨init, rfl, hinit⟩
    · cases hhead
      exact ⟨_, .nil hperm⟩
    · obtain ⟨others, hbefore⟩ := ih hinit.symm
      exact ⟨others, .releasing hperm hbefore⟩
  | note hacquired hreleasing _ ih =>
    rcases List.append_eq_cons_iff.1 hsplit with ⟨_, hhead⟩ | ⟨init, rfl, hinit⟩
    · cases hhead
      cases hreleasing
    · obtain ⟨others, hbefore⟩ := ih hinit.symm
      exact ⟨others, .note hacquired hreleasing hbefore⟩

end Carries

/-- Events that are nested leave the references as they were. -/
theorem Nested.carries (h : Nested log) (held : List ρ) : Carries held log held := by
  induction h generalizing held with
  | nil => exact .refl held
  | note hacquired hreleasing _ ih => exact .note hacquired hreleasing (ih held)
  | guarded _ _ hinner hrest =>
    exact .acquired ((hinner _).append (.releasing (List.Perm.refl _) (hrest held)))

/-- The events account for the references that guards hold. -/
structure Accounts [DecidableEq ρ] (log : List (Event ρ)) (held : List ρ) : Prop where
  /-- A reference was acquired as often as it was released and is held. -/
  balanced : (log.filterMap Event.acquired?).Perm (log.filterMap Event.releasing? ++ held)
  /-- Each release has an earlier acquisition that no other release takes. -/
  matched : ∀ before reference rest, log = before ++ .releasing reference :: rest →
    (before.filterMap Event.releasing?).count reference <
      (before.filterMap Event.acquired?).count reference

theorem Carries.accounts [DecidableEq ρ] (h : Carries [] log held) : Accounts log held where
  balanced := by
    have hbalanced := h.balanced
    rwa [List.append_nil] at hbalanced
  matched before reference rest hsplit := by
    rw [hsplit] at h
    obtain ⟨others, hbefore⟩ := h.exists_of_split
    have hcount := hbefore.balanced.count_eq reference
    rw [List.append_nil, List.count_append, List.count_cons_self] at hcount
    omega

end Books

namespace Script

/-! ## Steps -/

/-- The references that handles own. -/
def Held.references (held : Held) : List Nat :=
  held.map fun entry => entry.2.reference

/-- A bare call. -/
def Step.Bare : Step → Prop
  | .createDisk _ _ => True
  | .call _ => True
  | _ => False

/-- The events of a list of steps. -/
def State.log (world : World) (state : State) (steps : List Step) : List (Event Nat) :=
  (state.run world steps).1.flatMap Report.events

/-- The events of giving `count` handles back. -/
def State.exitLog (world : World) (count : Nat) (state : State) : List (Event Nat) :=
  (state.exit world count).flatMap fun given => given.2.events

/-- A step keeps the slots distinct, and its events tell what it did to the
references that are held. -/
structure Booked (state : State) (outcome : Outcome) : Prop where
  slots : (outcome.state.held.map Prod.fst).Nodup
  carries : Carries state.held.references outcome.events outcome.state.held.references

section Steps

variable {world : World} {state : State} {α : Type}

theorem events_running (world : World) (state : State) (client : Client Nat α)
    (finish : α → State → Reply × State) :
    (state.running world client finish).events =
      (client.run world.service state.store).events := by
  simp only [State.running]
  split <;> rfl

theorem held_asking (world : World) (state : State) (client : Client Nat α) (reply : α → Reply) :
    (state.asking world client reply).state.held = state.held := by
  simp only [State.asking, State.running]
  split <;> rfl

/-- A release that fails its check gives its handle up as well. -/
theorem held_releasing (world : World) (state : State) (slot : Slot) (handle : Handle) :
    (state.releasing world slot handle).state.held = state.held.without slot :=
  held_asking world (state.lose slot) _ _

theorem events_releasing (world : World) (state : State) (slot : Slot) (handle : Handle) :
    (state.releasing world slot handle).events = [.releasing handle.reference] :=
  events_running world (state.lose slot) _ _

theorem references_hold (state : State) (slot : Slot) (handle : Handle) :
    (state.hold slot handle).held.references = state.held.references ++ [handle.reference] :=
  List.map_append

/-- A step that reports nothing and holds the same. -/
theorem booked_idle (hslots : (state.held.map Prod.fst).Nodup) (reply : Reply) :
    Booked state ⟨reply, state, []⟩ where
  slots := hslots
  carries := .refl _

/-- A client that gives back what it takes over. -/
theorem booked_asking (hslots : (state.held.map Prod.fst).Nodup) {client : Client Nat α}
    (hnested : Nested (client.run world.service state.store).events) (reply : α → Reply) :
    Booked state (state.asking world client reply) where
  slots := by
    rw [held_asking]
    exact hslots
  carries := by
    rw [held_asking, State.asking, events_running]
    exact hnested.carries _

theorem booked_silent (hslots : (state.held.map Prod.fst).Nodup) {client : Client Nat α}
    (hsilent : client.Silent) (reply : α → Reply) :
    Booked state (state.asking world client reply) := by
  refine booked_asking hslots ?_ reply
  rw [hsilent.events_eq_nil]
  exact .nil

/-- A client that may create a handle. -/
theorem booked_creating (hslots : (state.held.map Prod.fst).Nodup) {absent : List (Event Nat)}
    {owner : α → Guard Nat} {client : Client Nat (Option α)} {handle : α → Handle} {into : Slot}
    (hannounces : Announces absent owner client) (habsent : Nested absent)
    (howner : ∀ a, (handle a).owner = owner a) (hvacant : into ∉ state.held.map Prod.fst) :
    Booked state (state.creating world client into handle) := by
  have hevents := hannounces world.service state.store
  unfold State.creating
  cases houtcome : (client.run world.service state.store).outcome with
  | error fault =>
    rw [houtcome] at hevents
    rw [Kept.running_of_error _ houtcome]
    refine ⟨hslots, ?_⟩
    show Carries _ (client.run world.service state.store).events _
    rw [hevents]
    exact .refl _
  | ok created =>
    rw [houtcome] at hevents
    rw [Kept.running_of_ok _ houtcome]
    cases created with
    | none =>
      refine ⟨hslots, ?_⟩
      show Carries _ (client.run world.service state.store).events _
      rw [hevents]
      exact habsent.carries _
    | some a =>
      refine ⟨Held.nodup_concat hslots hvacant _, ?_⟩
      show Carries _ (client.run world.service state.store).events _
      rw [hevents, references_hold, Handle.reference, howner]
      exact .acquired (.nil (List.perm_append_singleton _ _).symm)

/-- A handle that is given back, also if its release fails its check. -/
theorem booked_releasing (hslots : (state.held.map Prod.fst).Nodup) {on : Slot} {handle : Handle}
    (hfind : state.held.find? on = some handle) :
    Booked state (state.releasing world on handle) where
  slots := by
    rw [held_releasing]
    exact (state.held.map_without_sublist on).nodup hslots
  carries := by
    rw [held_releasing, events_releasing]
    exact .releasing ((Held.perm_without hslots hfind).map _) (.refl _)

theorem booked_move (hslots : (state.held.map Prod.fst).Nodup) {on into : Slot} {handle : Handle}
    (hfind : state.held.find? on = some handle) (hvacant : into ∉ state.held.map Prod.fst)
    (reply : Reply) : Booked state ⟨reply, (state.lose on).hold into handle, []⟩ where
  slots := by
    have hsublist := state.held.map_without_sublist on
    exact Held.nodup_concat (hsublist.nodup hslots) (fun hmem => hvacant (hsublist.subset hmem)) _
  carries := by
    refine .nil (((Held.perm_without hslots hfind).map _).trans ?_)
    rw [references_hold]
    exact (List.perm_append_singleton _ _).symm

/-- Every step that is planned is booked, one case for each step. -/
theorem booked_plan (hslots : (state.held.map Prod.fst).Nodup) {step : Step} {outcome : Outcome}
    (hplan : state.plan world step = .ok outcome) : Booked state outcome := by
  cases step with
  | connect into =>
    obtain ⟨_, hvacant, hplan⟩ := exists_of_bind_eq_ok hplan
    cases hplan
    exact booked_creating hslots announces_connect (.note rfl rfl .nil) (fun _ => rfl)
      (vacant_eq_ok hvacant)
  | resolve on bytes into =>
    obtain ⟨_, hvacant, hplan⟩ := exists_of_bind_eq_ok hplan
    obtain ⟨name, _, hplan⟩ := exists_of_bind_eq_ok hplan
    obtain ⟨session, _, hplan⟩ := exists_of_bind_eq_ok hplan
    cases hplan
    exact booked_creating hslots (announces_resolve session name) (.note rfl rfl .nil)
      (fun _ => rfl) (vacant_eq_ok hvacant)
  | describe on into =>
    obtain ⟨_, hvacant, hplan⟩ := exists_of_bind_eq_ok hplan
    obtain ⟨⟨disk, lender⟩, _, hplan⟩ := exists_of_bind_eq_ok hplan
    cases hplan
    exact booked_creating hslots (announces_describe disk) (.note rfl rfl .nil) (fun _ => rfl)
      (vacant_eq_ok hvacant)
  | boolean on key =>
    obtain ⟨description, _, hplan⟩ := exists_of_bind_eq_ok hplan
    cases hplan
    exact booked_silent hslots (silent_boolean description key) _
  | text on key =>
    obtain ⟨description, _, hplan⟩ := exists_of_bind_eq_ok hplan
    cases hplan
    exact booked_silent hslots (silent_text description key) _
  | adopt reference into =>
    obtain ⟨_, hvacant, hplan⟩ := exists_of_bind_eq_ok hplan
    cases hplan
    exact booked_creating hslots (announces_adopt reference) .nil (fun _ => rfl)
      (vacant_eq_ok hvacant)
  | adoptNew into =>
    obtain ⟨_, hvacant, hplan⟩ := exists_of_bind_eq_ok hplan
    cases hplan
    exact booked_creating hslots announces_adoptNew .nil (fun _ => rfl) (vacant_eq_ok hvacant)
  | reference on =>
    obtain ⟨handle, _, hplan⟩ := exists_of_bind_eq_ok hplan
    cases hvisible : handle.visibleReference? with
    | none =>
      rw [hvisible] at hplan
      cases hplan
    | some reference =>
      rw [hvisible] at hplan
      cases hplan
      exact booked_idle hslots _
  | form on =>
    obtain ⟨handle, _, hplan⟩ := exists_of_bind_eq_ok hplan
    cases hplan
    exact booked_idle hslots _
  | move on into =>
    obtain ⟨handle, hhandle, hplan⟩ := exists_of_bind_eq_ok hplan
    obtain ⟨_, hvacant, hplan⟩ := exists_of_bind_eq_ok hplan
    obtain ⟨_, _, hplan⟩ := exists_of_bind_eq_ok hplan
    cases hplan
    exact booked_move hslots (handle_eq_ok hhandle) (vacant_eq_ok hvacant) _
  | drop on =>
    obtain ⟨handle, hhandle, hplan⟩ := exists_of_bind_eq_ok hplan
    obtain ⟨_, _, hplan⟩ := exists_of_bind_eq_ok hplan
    cases hplan
    exact booked_releasing hslots (handle_eq_ok hhandle)
  | query bytes =>
    obtain ⟨name, _, hplan⟩ := exists_of_bind_eq_ok hplan
    cases hplan
    exact booked_asking hslots (narrates_query name _ _).nested _
  | brokenQuery bytes =>
    obtain ⟨name, _, hplan⟩ := exists_of_bind_eq_ok hplan
    cases hplan
    exact booked_asking hslots (nested_brokenQuery name _ _) _
  | createDisk session bytes =>
    obtain ⟨name, _, hplan⟩ := exists_of_bind_eq_ok hplan
    cases hplan
    exact booked_silent hslots (silent_perform _) _
  | call call =>
    cases hplan
    exact booked_silent hslots (silent_perform _) _
  | isLive reference =>
    cases hplan
    exact booked_idle hslots _

theorem booked_step (hslots : (state.held.map Prod.fst).Nodup) (step : Step) :
    Booked state (state.step world step) := by
  unfold State.step
  cases hplan : state.plan world step with
  | ok outcome => exact booked_plan hslots hplan
  | error reply => exact booked_idle hslots reply

/-- A bare call reports nothing: no guard takes part in it. -/
theorem events_of_bare (world : World) (state : State) {step : Step} (hbare : step.Bare) :
    (state.step world step).events = [] := by
  have hperform : ∀ call : Call Nat,
      (state.asking world (perform call) (.ofAnswer call)).events = [] := by
    intro call
    rw [State.asking, events_running]
    exact (silent_perform call).events_eq_nil _ _
  unfold State.step
  cases hplan : state.plan world step with
  | error reply => rfl
  | ok outcome =>
    cases step with
    | createDisk session bytes =>
      obtain ⟨name, _, hplan⟩ := exists_of_bind_eq_ok hplan
      cases hplan
      exact hperform _
    | call call =>
      cases hplan
      exact hperform call
    | _ => exact hbare.elim

end Steps

/-! ## Scripts -/

section Scripts

theorem carries_run (world : World) {state : State} (hslots : (state.held.map Prod.fst).Nodup)
    (steps : List Step) :
    ((state.run world steps).2.held.map Prod.fst).Nodup ∧
      Carries state.held.references (state.log world steps)
        (state.run world steps).2.held.references := by
  induction steps generalizing state with
  | nil => exact ⟨hslots, .refl _⟩
  | cons step rest ih =>
    have hstep : Booked state (state.step world step) := booked_step hslots step
    obtain ⟨hlast, hrest⟩ := ih hstep.slots
    exact ⟨hlast, hstep.carries.append hrest⟩

variable {world : World}

/-- Giving the last handle up leaves the others. -/
theorem without_concat {init : Held} {slot : Slot} {handle : Handle}
    (hslots : ((init ++ [(slot, handle)]).map Prod.fst).Nodup) :
    Held.without (init ++ [(slot, handle)]) slot = init := by
  rw [List.map_append, List.map_singleton, List.nodup_append] at hslots
  have hinit : Held.without init slot = init := by
    refine List.filter_eq_self.2 fun entry hmem => ?_
    have hne := hslots.2.2 entry.1 (List.mem_map_of_mem hmem) slot List.mem_cons_self
    exact decide_eq_true hne
  have hlast : Held.without [(slot, handle)] slot = [] :=
    List.filter_eq_nil_iff.2 fun entry hmem => by simp [List.mem_singleton.1 hmem]
  show List.filter _ (init ++ [(slot, handle)]) = init
  rw [List.filter_append]
  exact (congrArg₂ _ hinit hlast).trans (List.append_nil init)

theorem exitLog_of_nil {state : State} (hheld : state.held = []) (count : Nat) :
    state.exitLog world (count + 1) = [] := by
  unfold State.exitLog State.exit State.exitStep
  rw [hheld]
  rfl

theorem exitLog_of_concat {state : State} {init : Held} {slot : Slot} {handle : Handle}
    (hheld : state.held = init ++ [(slot, handle)]) (count : Nat) :
    state.exitLog world (count + 1) = .releasing handle.reference ::
      (state.releasing world slot handle).state.exitLog world count := by
  unfold State.exitLog
  rw [State.exit, State.exitStep, hheld, List.getLast?_concat]
  show (Report.of state (state.releasing world slot handle)).events ++ _ = _
  rw [show (Report.of state (state.releasing world slot handle)).events = _ from
    events_releasing world state slot handle]
  rfl

/-- The handles are given back from the last one on. -/
theorem carries_exit (count : Nat) {state : State} (hslots : (state.held.map Prod.fst).Nodup) :
    Carries state.held.references (state.exitLog world count)
      (Held.references (state.held.take (state.held.length - count))) := by
  induction count generalizing state with
  | zero =>
    rw [Nat.sub_zero, List.take_length]
    exact .refl _
  | succ count ih =>
    rcases List.eq_nil_or_concat state.held with hheld | ⟨init, ⟨slot, handle⟩, hheld⟩
    · rw [exitLog_of_nil hheld, hheld, List.take_nil]
      exact .refl _
    · rw [List.concat_eq_append] at hheld
      rw [hheld] at hslots
      have hleft : (state.releasing world slot handle).state.held = init := by
        rw [held_releasing, hheld]
        exact without_concat hslots
      have hinit : ((state.releasing world slot handle).state.held.map Prod.fst).Nodup := by
        rw [hleft]
        exact (List.sublist_append_left init _).map Prod.fst |>.nodup hslots
      have hrest := ih hinit
      have htake : (init ++ [(slot, handle)]).take
          ((init ++ [(slot, handle)]).length - (count + 1)) = init.take (init.length - count) := by
        rw [List.length_append, List.length_singleton, Nat.add_sub_add_right]
        exact List.take_append_of_le_length (Nat.sub_le _ _)
      rw [hleft] at hrest
      rw [exitLog_of_concat hheld, hheld, htake]
      refine .releasing ?_ hrest
      show (List.map _ (init ++ [(slot, handle)])).Perm _
      rw [List.map_append, List.map_singleton]
      exact List.perm_append_singleton _ _

/-- A script's events account for the references that its guards hold, after
every step and while they are given back at the end, whatever the steps are.
Bare calls add no event.  The events of a query are brackets around one word on
what it came to, if it came to an answer. -/
theorem accounts_script (world : World) (steps : List Step) :
    let last := (({} : State).run world steps).2
    let log := fun count => ({} : State).log world steps ++ last.exitLog world count
    (∀ count, Accounts (({} : State).log world (steps.take count))
      (({} : State).run world (steps.take count)).2.held.references) ∧
    (∀ count, Accounts (log count)
      (Held.references (last.held.take (last.held.length - count)))) ∧
    ((log last.held.length).filterMap Event.acquired?).Perm
      ((log last.held.length).filterMap Event.releasing?) ∧
    (∀ (state : State) (step : Step), step.Bare → (state.step world step).events = []) ∧
    (∀ {ρ σ : Type} (service : Service ρ σ) (name : DeviceName) (state : σ),
      Narrates name ((query name).run service state).events
        ((query name).run service state).outcome ∧
      Nested ((brokenQuery name).run service state).events) := by
  intro last log
  have hempty : ((({} : State).held).map Prod.fst).Nodup := List.nodup_nil
  have hexit : ∀ count, Accounts (log count)
      (Held.references (last.held.take (last.held.length - count))) := by
    intro count
    obtain ⟨hslots, hcarries⟩ := carries_run world hempty steps
    exact (hcarries.append (carries_exit count hslots)).accounts
  refine ⟨fun count => ?_, hexit, ?_, fun state step => events_of_bare world state, ?_⟩
  · exact (carries_run world hempty (steps.take count)).2.accounts
  · have hbalanced := (hexit last.held.length).balanced
    rw [Nat.sub_self, List.take_zero] at hbalanced
    exact hbalanced.trans (.of_eq (List.append_nil _))
  · intro ρ σ service name state
    exact ⟨narrates_query name service state, nested_brokenQuery name service state⟩

/-- One session under two guards.  The second release fails its check, and both
are in the journal. -/
example :
    let steps : List Step :=
      [.connect "first", .adopt (some 1) "second", .drop "first", .drop "second"]
    ((({} : State).run {} steps).1.map Report.reply).getLast? =
        some (.fault (.releasedTwice 1)) ∧
      ({} : State).log {} steps = [.acquired 1, .acquired 1, .releasing 1, .releasing 1] := by
  decide

end Scripts

end Script

end DiskQuery
