import DiskQuery.Proofs.Client.Errors
import DiskQuery.Proofs.Script.Ownership
import DiskQuery.Proofs.Store.Mirror

/-!
# Scripts that share a store

Scripts that share one store cannot tell.  Each of them names only the handles
that it holds, so it works in its own part of the store, and the others change
nothing there but the numbers of what it gets next.

There are four groups.

* Handles.  `HeldAlike` compares what two scripts hold, slot by slot.
* Steps.  `Private` steps name no reference and show none.  They are checked
  alike and end alike over stores that answer alike (`agrees_step`).
* Sites.  `Site` is a store with the handles of all the scripts on it, and
  `Site.run` a run of moves of the scripts in any order.
* The assembly.  `Split` is the invariant that the moves keep, and
  `undisturbed` says what each script sees of the others: nothing.
-/

namespace DiskQuery.Script

open Client Store

/-! ## Handles -/

/-- Handles that are the same but for their references. -/
inductive Handle.Alike (pairs : Nat → Nat → Prop) : Handle → Handle → Prop where
  | guard {owner owner' : Guard Nat} (h : pairs owner.reference owner'.reference) :
      Alike pairs (.guard owner) (.guard owner')
  | session {session session' : Session Nat}
      (h : pairs session.guard.reference session'.guard.reference) :
      Alike pairs (.session session) (.session session')
  | disk {disk disk' : Disk Nat} {lender lender' : Nat}
      (h : pairs disk.guard.reference disk'.guard.reference) (hlender : pairs lender lender') :
      Alike pairs (.disk disk lender) (.disk disk' lender')
  | description {description description' : Description Nat} {lender lender' : Nat}
      (h : pairs description.guard.reference description'.guard.reference)
      (hlender : pairs lender lender') :
      Alike pairs (.description description lender) (.description description' lender')

/-- Handles that are the same but for their references, in the same slots. -/
def HeldAlike (pairs : Nat → Nat → Prop) : Held → Held → Prop :=
  List.Forall₂ fun first second => first.1 = second.1 ∧ first.2.Alike pairs second.2

namespace Handle.Alike

variable {pairs more : Nat → Nat → Prop} {handle handle' : Handle}

theorem mono (hle : pairs ≤ more) (h : handle.Alike pairs handle') :
    handle.Alike more handle' := by
  cases h with
  | guard h => exact .guard (hle _ _ h)
  | session h => exact .session (hle _ _ h)
  | disk h hlender => exact .disk (hle _ _ h) (hle _ _ hlender)
  | description h hlender => exact .description (hle _ _ h) (hle _ _ hlender)

theorem owner (h : handle.Alike pairs handle') :
    pairs handle.owner.reference handle'.owner.reference := by
  cases h <;> assumption

theorem lender? (h : handle.Alike pairs handle') :
    Option.Rel pairs handle.lender? handle'.lender? := by
  cases h with
  | guard | session => exact .none
  | disk _ hlender | description _ hlender => exact .some hlender

end Handle.Alike

/-- One of two paired references is there if and only if the other is. -/
theorem beq_some_eq {pairs : Nat → Nat → Prop} (hunique : Relator.BiUnique pairs)
    {found found' : Option Nat} (hfound : Option.Rel pairs found found') {r t : Nat}
    (hpair : pairs r t) : (found == some r) = (found' == some t) := by
  cases hfound with
  | none => rfl
  | some hother =>
    rw [Bool.eq_iff_iff, beq_iff_eq, beq_iff_eq, Option.some.injEq, Option.some.injEq]
    constructor
    · rintro rfl
      exact hunique.2 hother hpair
    · rintro rfl
      exact hunique.1 hother hpair

namespace HeldAlike

variable {pairs more : Nat → Nat → Prop} {held held' : Held}

theorem mono (hle : pairs ≤ more) (h : HeldAlike pairs held held') :
    HeldAlike more held held' :=
  h.imp fun _ _ hentry => ⟨hentry.1, hentry.2.mono hle⟩

theorem find? (h : HeldAlike pairs held held') (slot : Slot) :
    Option.Rel (Handle.Alike pairs) (held.find? slot) (held'.find? slot) := by
  unfold Held.find?
  induction h with
  | nil => exact .none
  | @cons first second _ _ hentry _ ih =>
    rw [List.lookup_cons, List.lookup_cons, hentry.1]
    cases slot == second.1 with
    | true => exact .some hentry.2
    | false => exact ih

theorem without (h : HeldAlike pairs held held') (slot : Slot) :
    HeldAlike pairs (held.without slot) (held'.without slot) := by
  refine List.rel_filter (fun first second hentry => ?_) h
  show decide (first.1 ≠ slot) = true ↔ decide (second.1 ≠ slot) = true
  rw [hentry.1]

theorem concat (h : HeldAlike pairs held held') (slot : Slot) {handle handle' : Handle}
    (hhandle : handle.Alike pairs handle') :
    HeldAlike pairs (held ++ [(slot, handle)]) (held' ++ [(slot, handle')]) :=
  List.rel_append h (.cons ⟨rfl, hhandle⟩ .nil)

/-- Paired sessions lend to handles in the same slots. -/
theorem isLending_eq (h : HeldAlike pairs held held') (hunique : Relator.BiUnique pairs)
    {handle handle' : Handle} (hhandle : handle.Alike pairs handle') :
    held.isLending handle = held'.isLending handle' := by
  cases hhandle with
  | guard | disk | description => rfl
  | @session session session' hsession =>
    show List.any _ _ = List.any _ _
    induction h with
    | nil => rfl
    | @cons first second _ _ hentry _ ih =>
      rw [List.any_cons, List.any_cons, ih, beq_some_eq hunique hentry.2.lender? hsession]

end HeldAlike

/-! ## Steps -/

/-- A step that names no reference by its number and shows none. -/
def Step.Private : Step → Prop
  | .connect _ => True
  | .resolve _ _ _ => True
  | .describe _ _ => True
  | .boolean _ _ => True
  | .text _ _ => True
  | .adoptNew _ => True
  | .move _ _ => True
  | .drop _ => True
  | .query _ => True
  | _ => False

theorem Step.Private.guarded {step : Step} (h : step.Private) : step.Guarded := by
  cases step <;> trivial

/-- Checks that pass with related results, or refuse for the same reason. -/
inductive ChecksAlike {α β : Type} (post : α → β → Prop) : Except Reply α → Except Reply β → Prop
    where
  | ok {a : α} {b : β} (h : post a b) : ChecksAlike post (.ok a) (.ok b)
  | refused (reply : Reply) : ChecksAlike post (.error reply) (.error reply)

theorem checksAlike_self {α : Type} (check : Except Reply α) : ChecksAlike Eq check check := by
  cases check with
  | ok a => exact .ok rfl
  | error reply => exact .refused reply

theorem ChecksAlike.bind {α β γ δ : Type} {post : α → β → Prop} {after : γ → δ → Prop}
    {check : Except Reply α} {check' : Except Reply β} {next : α → Except Reply γ}
    {next' : β → Except Reply δ} (h : ChecksAlike post check check')
    (hnext : ∀ a b, post a b → ChecksAlike after (next a) (next' b)) :
    ChecksAlike after (check >>= next) (check' >>= next') := by
  cases h with
  | ok hpost => exact hnext _ _ hpost
  | refused reply => exact .refused reply

/-- Scripts that hold handles alike over coupled stores. -/
structure StatesAlike (coupled : (Nat → Nat → Prop) → Store → Store → Prop)
    (pairs : Nat → Nat → Prop) (state state' : State) : Prop where
  store : coupled pairs state.store state'.store
  held : HeldAlike pairs state.held state'.held

/-- Steps that answer the same, unless a check of the store failed, and leave
states alike. -/
structure Agrees (coupled : (Nat → Nat → Prop) → Store → Store → Prop) (pairs : Nat → Nat → Prop)
    (outcome outcome' : Outcome) : Prop where
  reply : (∀ exchange ∈ outcome'.exchanges, ¬exchange.BrokeOff) → outcome.reply = outcome'.reply
  state : ∃ more, pairs ≤ more ∧ StatesAlike coupled more outcome.state outcome'.state

section Steps

variable {world : World} {coupled : (Nat → Nat → Prop) → Store → Store → Prop}
  {pairs : Nat → Nat → Prop} {state state' : State}

/-! ### Checks -/

section Checks

variable (h : StatesAlike coupled pairs state state')

include h

theorem checksAlike_handle (slot : Slot) :
    ChecksAlike (Handle.Alike pairs) (state.handle slot) (state'.handle slot) := by
  have hfind := h.held.find? slot
  unfold State.handle
  generalize state.held.find? slot = found at hfind ⊢
  generalize state'.held.find? slot = found' at hfind ⊢
  cases hfind with
  | none => exact .refused _
  | some hhandle => exact .ok hhandle

theorem checksAlike_vacant (slot : Slot) :
    ChecksAlike Eq (state.vacant slot) (state'.vacant slot) := by
  have hfind := isSome_eq_of_optionRel (h.held.find? slot)
  unfold State.vacant
  rw [hfind]
  exact checksAlike_self _

theorem checksAlike_session (slot : Slot) :
    ChecksAlike (fun session session' => pairs session.guard.reference session'.guard.reference)
      (state.session slot) (state'.session slot) := by
  refine (checksAlike_handle h slot).bind fun handle handle' hhandle => ?_
  cases hhandle with
  | session hpair => exact .ok hpair
  | guard | disk | description => exact .refused _

theorem checksAlike_disk (slot : Slot) :
    ChecksAlike (fun found found' => pairs found.1.guard.reference found'.1.guard.reference ∧
        pairs found.2 found'.2)
      (state.disk slot) (state'.disk slot) := by
  refine (checksAlike_handle h slot).bind fun handle handle' hhandle => ?_
  cases hhandle with
  | disk hpair hlender => exact .ok ⟨hpair, hlender⟩
  | guard | session | description => exact .refused _

theorem checksAlike_description (slot : Slot) :
    ChecksAlike
      (fun description description' =>
        pairs description.guard.reference description'.guard.reference)
      (state.description slot) (state'.description slot) := by
  refine (checksAlike_handle h slot).bind fun handle handle' hhandle => ?_
  cases hhandle with
  | description hpair _ => exact .ok hpair
  | guard | session | disk => exact .refused _

theorem checksAlike_unlent (hunique : Relator.BiUnique pairs) {handle handle' : Handle}
    (hhandle : handle.Alike pairs handle') :
    ChecksAlike Eq (state.unlent handle) (state'.unlent handle') := by
  unfold State.unlent
  rw [h.held.isLending_eq hunique hhandle]
  exact checksAlike_self _

end Checks

/-! ### Effects -/

variable (hsimulates : Simulates world.service world.service coupled)

include hsimulates

theorem agrees_running {α β : Type} {post : (Nat → Nat → Prop) → α → β → Prop}
    {client : Client Nat α} {client' : Client Nat β} {finish : α → State → Reply × State}
    {finish' : β → State → Reply × State} (h : StatesAlike coupled pairs state state')
    (hclient : Client.Alike post pairs client client') (hsteady : client'.Steady)
    (hfinish : ∀ more, pairs ≤ more → ∀ a b, post more a b → ∀ last last',
      StatesAlike coupled more last last' → (finish a last).1 = (finish' b last').1 ∧
        StatesAlike coupled more (finish a last).2 (finish' b last').2) :
    Agrees coupled pairs (state.running world client finish)
      (state'.running world client' finish') := by
  obtain ⟨more, hle, houtcome, hstore, -⟩ := hsimulates.run hclient h.store
  have hlast : StatesAlike coupled more
      { state with store := (client.run world.service state.store).state }
      { state' with store := (client'.run world.service state'.store).state } :=
    ⟨hstore, h.held.mono hle⟩
  cases hresult : (client.run world.service state.store).outcome with
  | error fault =>
    rw [hresult] at houtcome
    cases hresult' : (client'.run world.service state'.store).outcome with
    | ok b =>
      rw [hresult'] at houtcome
      cases houtcome
    | error fault' =>
      rw [Kept.running_of_error _ hresult, Kept.running_of_error _ hresult']
      refine ⟨fun hanswered => ?_, more, hle, hlast⟩
      obtain ⟨b, hok⟩ := hsteady.exists_ok hanswered
      rw [hresult'] at hok
      cases hok
  | ok a =>
    rw [hresult] at houtcome
    cases hresult' : (client'.run world.service state'.store).outcome with
    | error fault' =>
      rw [hresult'] at houtcome
      cases houtcome
    | ok b =>
      rw [hresult'] at houtcome
      cases houtcome with
      | ok hpost =>
        obtain ⟨hreply, hstate⟩ := hfinish more hle a b hpost _ _ hlast
        rw [Kept.running_of_ok _ hresult, Kept.running_of_ok _ hresult']
        exact ⟨fun _ => hreply, more, hle, hstate⟩

/-- A client that only answers. -/
theorem agrees_asking {α : Type} {client client' : Client Nat α}
    (h : StatesAlike coupled pairs state state')
    (hclient : Client.Alike Same pairs client client') (hsteady : client'.Steady)
    (reply : α → Reply) :
    Agrees coupled pairs (state.asking world client reply) (state'.asking world client' reply) := by
  refine agrees_running hsimulates h hclient hsteady fun more hle a b hsame last last' hlast => ?_
  obtain rfl : a = b := hsame
  exact ⟨rfl, hlast⟩

/-- A client that may create a handle. -/
theorem agrees_creating {α : Type} {owner : α → Guard Nat} {client client' : Client Nat (Option α)}
    {handle handle' : α → Handle} (h : StatesAlike coupled pairs state state')
    (hclient : Client.Alike (OwnersAlike owner owner) pairs client client')
    (hsteady : client'.Steady) (into : Slot)
    (hhandle : ∀ more, pairs ≤ more → ∀ a b, more (owner a).reference (owner b).reference →
      (handle a).Alike more (handle' b)) :
    Agrees coupled pairs (state.creating world client into handle)
      (state'.creating world client' into handle') := by
  refine agrees_running hsimulates h hclient hsteady fun more hle a b howners last last' hlast => ?_
  cases howners with
  | none => exact ⟨rfl, hlast⟩
  | some hpair => exact ⟨rfl, hlast.store, hlast.held.concat into (hhandle more hle _ _ hpair)⟩

/-- A handle that is given back. -/
theorem agrees_releasing {handle handle' : Handle} (h : StatesAlike coupled pairs state state')
    (hhandle : handle.Alike pairs handle') (slot : Slot) :
    Agrees coupled pairs (state.releasing world slot handle)
      (state'.releasing world slot handle') := by
  have hlost : StatesAlike coupled pairs (state.lose slot) (state'.lose slot) :=
    ⟨h.store, h.held.without slot⟩
  exact agrees_asking hsimulates hlost (alike_release hhandle.owner) (Guard.steady_release _) _

/-- A private step agrees with itself, one case for each step. -/
theorem checksAlike_plan (hunique : Relator.BiUnique pairs)
    (h : StatesAlike coupled pairs state state') {step : Step} (hprivate : step.Private) :
    ChecksAlike (Agrees coupled pairs) (state.plan world step) (state'.plan world step) := by
  cases step with
  | connect into =>
    refine (checksAlike_vacant h into).bind fun _ _ _ => ?_
    exact .ok (agrees_creating hsimulates h (alike_connect pairs) steady_connect into
      fun _ _ _ _ hpair => .session hpair)
  | resolve on bytes into =>
    refine (checksAlike_vacant h into).bind fun _ _ _ => ?_
    refine (checksAlike_self (State.name bytes)).bind ?_
    rintro name _ rfl
    refine (checksAlike_session h on).bind fun session session' hsession => ?_
    exact .ok (agrees_creating hsimulates h (alike_resolve hsession name)
      (steady_resolve session' name) into fun _ hle _ _ hpair => .disk hpair (hle _ _ hsession))
  | describe on into =>
    refine (checksAlike_vacant h into).bind fun _ _ _ => ?_
    refine (checksAlike_disk h on).bind ?_
    rintro ⟨disk, lender⟩ ⟨disk', lender'⟩ ⟨hdisk, hlender⟩
    exact .ok (agrees_creating hsimulates h (alike_describe hdisk) (steady_describe disk') into
      fun _ hle _ _ hpair => .description hpair (hle _ _ hlender))
  | boolean on key =>
    refine (checksAlike_description h on).bind fun description description' hpair => ?_
    exact .ok (agrees_asking hsimulates h (alike_boolean hpair key)
      (steady_boolean description' key) _)
  | text on key =>
    refine (checksAlike_description h on).bind fun description description' hpair => ?_
    exact .ok (agrees_asking hsimulates h (alike_text hpair key) (steady_text description' key) _)
  | adoptNew into =>
    refine (checksAlike_vacant h into).bind fun _ _ _ => ?_
    exact .ok (agrees_creating hsimulates h (alike_adoptNew pairs)
      ((steady_perform _).bind Guard.steady_adopt) into fun _ _ _ _ hpair => .guard hpair)
  | move on into =>
    refine (checksAlike_handle h on).bind fun handle handle' hhandle => ?_
    refine (checksAlike_vacant h into).bind fun _ _ _ => ?_
    refine (checksAlike_unlent h hunique hhandle).bind fun _ _ _ => ?_
    exact .ok ⟨fun _ => rfl, pairs, le_rfl, h.store, (h.held.without on).concat into hhandle⟩
  | drop on =>
    refine (checksAlike_handle h on).bind fun handle handle' hhandle => ?_
    refine (checksAlike_unlent h hunique hhandle).bind fun _ _ _ => ?_
    exact .ok (agrees_releasing hsimulates h hhandle on)
  | query bytes =>
    refine (checksAlike_self (State.name bytes)).bind ?_
    rintro name _ rfl
    exact .ok (agrees_asking hsimulates h (alike_query pairs name) (steady_query name) _)
  | adopt | reference | form | brokenQuery | createDisk | call | isLive => exact absurd hprivate id

theorem agrees_step (hunique : Relator.BiUnique pairs)
    (h : StatesAlike coupled pairs state state') {step : Step} (hprivate : step.Private) :
    Agrees coupled pairs (state.step world step) (state'.step world step) := by
  have hplan := checksAlike_plan hsimulates hunique h hprivate
  unfold State.step
  generalize state.plan world step = planned at hplan ⊢
  generalize state'.plan world step = planned' at hplan ⊢
  cases hplan with
  | ok hagrees => exact hagrees
  | refused reply => exact ⟨fun _ => rfl, pairs, le_rfl, h⟩

end Steps

/-! ## Sites -/

/-- Scripts on one store, each with the handles that it holds. -/
structure Site (ι : Type) where
  store : Store := {}
  held : ι → Held := fun _ => []

section Sharing

variable {ι : Type} [DecidableEq ι] {world : World}

/-- What script `i` has among what all scripts have, in order. -/
def ofScript {α : Type} (i : ι) (moves : List (ι × α)) : List α :=
  moves.filterMap fun move => if move.1 = i then some move.2 else none

namespace Site

/-- What script `i` sees of the site. -/
def state (site : Site ι) (i : ι) : State :=
  ⟨site.store, site.held i⟩

/-- The reply to a step of script `i`, and the site after it. -/
def step (world : World) (site : Site ι) (i : ι) (step : Step) : Reply × Site ι :=
  let outcome := (site.state i).step world step
  (outcome.reply, ⟨outcome.state.store, Function.update site.held i outcome.state.held⟩)

/-- The replies to the steps of the scripts, in the order they are taken, and
the site after them. -/
def run (world : World) (site : Site ι) : List (ι × Step) → List (ι × Reply) × Site ι
  | [] => ([], site)
  | (i, step) :: rest =>
      let (reply, after) := site.step world i step
      let (replies, last) := after.run world rest
      ((i, reply) :: replies, last)

end Site

theorem ofScript_cons_self {α : Type} (i : ι) (a : α) (rest : List (ι × α)) :
    ofScript i ((i, a) :: rest) = a :: ofScript i rest :=
  List.filterMap_cons_some (if_pos rfl)

theorem ofScript_cons_of_ne {α : Type} {i j : ι} (hne : j ≠ i) (a : α) (rest : List (ι × α)) :
    ofScript i ((j, a) :: rest) = ofScript i rest :=
  List.filterMap_cons_none (if_neg hne)

/-! ## The assembly -/

/-- The site is cut into parts.  Each script holds and has in its part what it
holds and has in a store of its own, up to the pairs of references. -/
structure Split (pairs : ι → Nat → Nat → Prop) (site : Site ι) (solos : ι → State) : Prop where
  apart : Apart pairs site.store fun i => (solos i).store
  held : ∀ i, HeldAlike (pairs i) (site.held i) (solos i).held

variable {pairs : ι → Nat → Nat → Prop} {site : Site ι} {solos : ι → State}

/-- A step of script `i` is answered as in a store of its own, and the others
keep their parts. -/
theorem Split.step (h : Split pairs site solos) {i : ι} {history : List (Exchange Nat)}
    (hkept : Kept world history (solos i)) {step : Step} (hprivate : step.Private) :
    (site.step world i step).1 = ((solos i).step world step).reply ∧
      ∃ more, Split more (site.step world i step).2
        (Function.update solos i ((solos i).step world step).state) := by
  have hstart : StatesAlike
      (fun part store solo => Apart (Function.update pairs i part) store
        (Function.update (fun j => (solos j).store) i solo))
      (pairs i) (site.state i) (solos i) := by
    refine ⟨?_, h.held i⟩
    rw [Function.update_eq_self, Function.update_eq_self]
    exact h.apart
  have hagrees := agrees_step (simulates_apart world pairs (fun j => (solos j).store) i)
    (h.apart.mirrors i).unique hstart hprivate
  -- alone the step fails no check, so both replies are the same
  have hanswered := (hkept.step hprivate.guarded).ledger.answered
  obtain ⟨part, hle, hapart, hheld⟩ := hagrees.state
  refine ⟨hagrees.reply fun exchange hmem => hanswered exchange (List.mem_append_right _ hmem),
    Function.update pairs i part, ?apart, ?held⟩
  case apart =>
    have hstores : (fun j => (Function.update solos i ((solos i).step world step).state j).store) =
        Function.update (fun j => (solos j).store) i ((solos i).step world step).state.store :=
      Function.comp_update State.store solos i _
    rw [hstores]
    exact hapart
  case held =>
    intro j
    show HeldAlike _ (Function.update site.held i _ j) _
    by_cases hj : j = i
    · subst hj
      rw [Function.update_self, Function.update_self, Function.update_self]
      exact hheld
    · rw [Function.update_of_ne hj, Function.update_of_ne hj, Function.update_of_ne hj]
      exact h.held j

/-- Only the script that takes a step goes on, alone as on the site. -/
theorem run_ofScript_cons (world : World) (solos : ι → State) (i : ι) (step : Step)
    (rest : List (ι × Step)) (j : ι) :
    ((solos j).run world (ofScript j ((i, step) :: rest))).2 =
      ((Function.update solos i ((solos i).step world step).state j).run world
        (ofScript j rest)).2 := by
  by_cases hj : j = i
  · subst hj
    rw [Function.update_self, ofScript_cons_self]
    rfl
  · rw [Function.update_of_ne hj, ofScript_cons_of_ne (Ne.symm hj)]

/-- A run of all scripts keeps the parts, and each script is answered as in a
store of its own. -/
theorem split_run {moves : List (ι × Step)} (hprivate : ∀ move ∈ moves, move.2.Private)
    (h : Split pairs site solos) (hkept : ∀ i, ∃ history, Kept world history (solos i)) :
    (∀ i, ofScript i (site.run world moves).1 =
      ((solos i).run world (ofScript i moves)).1.map Report.reply) ∧
    ∃ more, Split more (site.run world moves).2
      fun i => ((solos i).run world (ofScript i moves)).2 := by
  induction moves generalizing pairs site solos with
  | nil => exact ⟨fun _ => rfl, pairs, h⟩
  | cons move rest ih =>
    obtain ⟨i, step⟩ := move
    rw [List.forall_mem_cons] at hprivate
    obtain ⟨history, hi⟩ := hkept i
    obtain ⟨hreply, more, hsplit⟩ := h.step hi hprivate.1
    have hothers : ∀ j, ∃ history, Kept world history
        (Function.update solos i ((solos i).step world step).state j) := by
      intro j
      by_cases hj : j = i
      · subst hj
        rw [Function.update_self]
        exact ⟨_, hi.step hprivate.1.guarded⟩
      · rw [Function.update_of_ne hj]
        exact hkept j
    obtain ⟨hreplies, last, hlast⟩ := ih hprivate.2 hsplit hothers
    refine ⟨fun j => ?replies, last, ?split⟩
    case replies =>
      show ofScript j ((i, (site.step world i step).1) ::
        ((site.step world i step).2.run world rest).1) = _
      have hrest := hreplies j
      by_cases hj : j = i
      · subst hj
        rw [Function.update_self] at hrest
        rw [ofScript_cons_self, ofScript_cons_self, hrest, hreply]
        rfl
      · rw [Function.update_of_ne hj] at hrest
        rw [ofScript_cons_of_ne (Ne.symm hj), ofScript_cons_of_ne (Ne.symm hj), hrest]
    case split =>
      rw [funext (run_ofScript_cons world solos i step rest)]
      exact hlast

/-- Scripts that share a store are answered as if each were alone with one, in
whatever order they take their steps.  At every point of the run the store is
cut into parts, and each part is what its script has alone.

A script that picks its next step by the replies before it is covered as well:
it is answered the same, so it picks the same steps alone. -/
theorem undisturbed (world : World) {moves : List (ι × Step)}
    (hprivate : ∀ move ∈ moves, move.2.Private) :
    (∀ i, ofScript i (({} : Site ι).run world moves).1 =
      (({} : State).run world (ofScript i moves)).1.map Report.reply) ∧
    ∀ count, ∃ pairs, Split pairs (({} : Site ι).run world (moves.take count)).2
      fun i => (({} : State).run world (ofScript i (moves.take count))).2 := by
  have hsplit : Split (fun (_ : ι) _ _ => False) {} fun _ => {} := ⟨.empty, fun _ => .nil⟩
  have hkept : ∀ i : ι, ∃ history, Kept world history {} := fun _ => ⟨[], .empty world⟩
  refine ⟨(split_run hprivate hsplit hkept).1, fun count => ?_⟩
  have hfirst : ∀ move ∈ moves.take count, move.2.Private :=
    fun move hmem => hprivate move (List.mem_of_mem_take hmem)
  exact (split_run hfirst hsplit hkept).2

/-- Two scripts describe the same disk.  What the first gives back takes nothing
from the second, which reads on. -/
theorem undisturbed_of_same_disk :
    let world : World := { disks := [⟨"d", some [(.mediaRemovable, .boolean true)]⟩] }
    let moves : List (Bool × Step) :=
      [(true, .connect "session"), (false, .connect "session"),
        (true, .resolve "session" [100] "disk"), (false, .resolve "session" [100] "disk"),
        (true, .describe "disk" "description"), (false, .describe "disk" "description"),
        (true, .drop "description"), (false, .boolean "description" .mediaRemovable),
        (true, .query [100]), (false, .drop "session")]
    (∀ move ∈ moves, move.2.Private) ∧
      ofScript false (({} : Site Bool).run world moves).1 =
        [.truth true, .truth true, .truth true, .truth true, .refused .borrowed] ∧
      ∃ pairs, Split pairs (({} : Site Bool).run world (moves.take 7)).2
        fun i => (({} : State).run world (ofScript i (moves.take 7))).2 := by
  intro world moves
  have hprivate : ∀ move ∈ moves, move.2.Private := by
    simp [moves, Step.Private]
  obtain ⟨hreplies, hsplit⟩ := undisturbed world hprivate
  refine ⟨hprivate, (hreplies false).trans ?_, hsplit 7⟩
  decide +kernel

end Sharing

end DiskQuery.Script
