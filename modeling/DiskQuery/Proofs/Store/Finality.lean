import DiskQuery.Proofs.Store.Failure

/-!
# Releases are final

One counter numbers every reference, and nothing is ever put back under an old
number.  So a reference that was given back is refused from then on, and no later
one is mistaken for it.

There are three groups.

* Calls in a row.  `serve_append` cuts a run in two.
* New references.  `lt_of_mem_serve` says that what a call creates is above
  everything that was there before.
* The result.  `ReleasedForGood` is what a release means for all that follows, and
  `oneWay_serve` says that a run goes one way only.
-/

namespace DiskQuery

/-- The reference that a call handed out, if it did: a counted one or a value. -/
def Exchange.handed? {ρ : Type} : Exchange ρ → Option ρ
  | ⟨.value _ _, .ok reference⟩ => reference
  | exchange => exchange.acquired?

namespace Store

/-! ## Calls in a row -/

theorem serve_append (world : World) (first second : List (Call Nat)) (store : Store) :
    serve world (first ++ second) store =
      ((serve world first store).1 ++ (serve world second (serve world first store).2).1,
        (serve world second (serve world first store).2).2) := by
  induction first generalizing store with
  | nil => rfl
  | cons call first ih =>
    rw [List.cons_append, serve, ih]
    rfl

/-- Of two stores in a run, the second is later than the first. -/
theorem later_serve_of_prefix (world : World) {first calls : List (Call Nat)}
    (h : first <+: calls) : Later (serve world first {}).2 (serve world calls {}).2 := by
  obtain ⟨second, rfl⟩ := h
  rw [serve_append]
  exact Later.serve world (represents_serve world first).toNumbered second

/-! ## New references -/

/-- Something stands under a reference: an object or a value. -/
def Stands (store : Store) (reference : Nat) : Prop :=
  store.owned.find? reference ≠ none ∨ store.values.find? reference ≠ none

theorem Sound.le_of_stands {store : Store} (h : Sound store) {reference : Nat}
    (hstands : store.Stands reference) : reference ≤ store.next := by
  rcases hstands with hobject | hvalue
  · obtain ⟨object, hfind⟩ := Option.ne_none_iff_exists'.1 hobject
    exact h.le_of_find? hfind
  · obtain ⟨stored, hfind⟩ := Option.ne_none_iff_exists'.1 hvalue
    exact h.values_le _ (Table.mem_keys_of_find? hfind)

/-- What a call creates has the next number. -/
theorem Transition.eq_of_acquired {world : World} {store next : Store} {exchange : Exchange Nat}
    (hstep : Transition world store exchange next) {new : Nat}
    (hnew : exchange.acquired? = some new) : new = store.next + 1 := by
  cases hstep with
  | keep hacquired =>
    rw [hacquired] at hnew
    cases hnew
  | session | disk | dictionary => exact (Option.some.inj hnew).symm
  | release => cases hnew

/-- What a call creates stands from then on. -/
theorem Transition.stands_of_acquired {world : World} {store next : Store}
    {exchange : Exchange Nat} (hstep : Transition world store exchange next) {new : Nat}
    (hnew : exchange.acquired? = some new) : next.Stands new := by
  refine .inl ?_
  obtain rfl := hstep.eq_of_acquired hnew
  cases hstep with
  | keep hacquired =>
    rw [hacquired] at hnew
    cases hnew
  | session | disk => simp [find?_owned_create]
  | dictionary => simp [find?_owned_describe]
  | release => cases hnew

/-- What a call hands out stands after it. -/
theorem stands_of_handed {world : World} {store : Store} (h : Sound store) {call : Call Nat}
    {old : Nat}
    (hold : (⟨call, (answer world call store).1⟩ : Exchange Nat).handed? = some old) :
    (answer world call store).2.Stands old := by
  by_cases hacquired : (⟨call, (answer world call store).1⟩ : Exchange Nat).acquired? = some old
  · exact (transition_answer world store call).stands_of_acquired hacquired
  · cases call with
    | value dictionary key =>
      have hanswer : (answer world (.value dictionary key) store).1 = .ok (some old) := by
        generalize (answer world (.value dictionary key) store).1 = answered at hold
        cases answered with
        | error fault => cases hold
        | ok reference => exact congrArg Except.ok hold
      obtain ⟨stored, hvalue, -⟩ :=
        h.entry_value _ (Table.mem_of_find? (find?_of_answer_value hanswer))
      refine .inr ?_
      rw [answer, reading, hvalue]
      exact Option.some_ne_none stored
    | createSession | createDisk | copyDescription | boolean | textLength | maxSize | copyText
    | release => exact absurd hold hacquired

/-- What a run creates is above all that was handed out before it. -/
theorem lt_of_mem_serve {world : World} {store : Store} (h : Numbered store)
    {calls : List (Call Nat)} {exchange : Exchange Nat} {new : Nat}
    (hmem : exchange ∈ (serve world calls store).1) (hnew : exchange.acquired? = some new) :
    store.next < new := by
  induction calls generalizing store with
  | nil => cases hmem
  | cons call calls ih =>
    have hstep := transition_answer world store call
    rcases List.mem_cons.1 hmem with rfl | hmem
    · have := hstep.eq_of_acquired hnew
      omega
    · have hlater := (Later.transition h hstep).next_le
      have := ih (h.transition hstep) hmem
      omega

/-- What a run hands out is not above the last number. -/
theorem le_of_mem_serve {world : World} {store : Store} (h : Numbered store)
    {calls : List (Call Nat)} {exchange : Exchange Nat} {old : Nat}
    (hmem : exchange ∈ (serve world calls store).1) (hold : exchange.handed? = some old) :
    old ≤ (serve world calls store).2.next := by
  induction calls generalizing store with
  | nil => cases hmem
  | cons call calls ih =>
    have hnext := h.transition (transition_answer world store call)
    rcases List.mem_cons.1 hmem with rfl | hmem
    · have hle := hnext.le_of_stands (stands_of_handed h.toSound hold)
      exact Nat.le_trans hle (Later.serve world hnext calls).next_le
    · exact ih hnext hmem

/-- Every creation is above what was handed out earlier in the run. -/
theorem pairwise_serve (world : World) {store : Store} (h : Numbered store)
    (calls : List (Call Nat)) :
    (serve world calls store).1.Pairwise fun earlier later =>
      ∀ old new, earlier.handed? = some old → later.acquired? = some new → old < new := by
  induction calls generalizing store with
  | nil => exact .nil
  | cons call calls ih =>
    have hnext := h.transition (transition_answer world store call)
    refine .cons (fun later hmem old new hold hnew => ?_) (ih hnext)
    have hle := hnext.le_of_stands (stands_of_handed h.toSound hold)
    have hlt := lt_of_mem_serve hnext hmem hnew
    omega

/-! ## The result -/

/-- What is so at `last`, at the end of any run in which `reference` was given
back after the calls `before`. -/
structure ReleasedForGood (world : World) (before : List (Call Nat)) (reference : Nat)
    (last : Store) : Prop where
  dead : last.isLive reference = false
  release : answer world (.release reference) last = (.error (.releasedTwice reference), last)
  use : ∀ call kind, call.argument? = some (reference, .object kind) →
    answer world call last = (.error (.usedAfterRelease reference), last)
  /-- What belonged to it at any time is refused as well. -/
  values : ∀ earlier value stored, earlier <+: before →
    (serve world earlier {}).2.values.find? value = some stored → stored.dictionary = reference →
    ∀ call, call.argument? = some (value, .value) →
      answer world call last = (.error (.unknownValue value), last)

/-- A run never comes back to a reference. -/
structure OneWay (world : World) (calls : List (Call Nat)) : Prop where
  /-- A creation is above what was handed out before it. -/
  increasing : (serve world calls {}).1.Pairwise fun earlier later =>
    ∀ old new, earlier.handed? = some old → later.acquired? = some new → old < new
  /-- It is also above the values that no call has handed out yet. -/
  fresh : ∀ before after, before ++ after = calls →
    ∀ old, (serve world before {}).2.Stands old →
      ∀ exchange ∈ (serve world after (serve world before {}).2).1,
        ∀ new, exchange.acquired? = some new → old < new
  final : ∀ before reference after, before ++ .release reference :: after = calls →
    (answer world (.release reference) (serve world before {}).2).1 = .ok () →
    ReleasedForGood world before reference (serve world calls {}).2

theorem releasedForGood_serve (world : World) {before : List (Call Nat)} {reference : Nat}
    (after : List (Call Nat))
    (hreleased : (answer world (.release reference) (serve world before {}).2).1 = .ok ()) :
    ReleasedForGood world before reference
      (serve world (before ++ .release reference :: after) {}).2 := by
  have hbefore := represents_serve world before
  have hlast := represents_serve world (before ++ .release reference :: after)
  have hprefix : before ++ [.release reference] <+: before ++ .release reference :: after :=
    ⟨after, by simp⟩
  have hlater := later_serve_of_prefix world hprefix
  have hearlier : ∀ earlier, earlier <+: before →
      Later (serve world earlier {}).2 (serve world (before ++ .release reference :: after) {}).2 :=
    fun earlier h => later_serve_of_prefix world (h.trans (List.prefix_append _ _))
  generalize (serve world (before ++ .release reference :: after) {}).2 = last at *
  have hdead : last.owned.find? reference = none := by
    have hstep := transition_answer world (serve world before {}).2 (.release reference)
    rw [hreleased] at hstep
    obtain ⟨hle, hnone⟩ := gone_of_release hbefore.toSound hstep
    rw [serve_append] at hlater
    exact hlater.find?_eq_none hle hnone
  have hnotLive : ¬last.Serves reference .anyObject := by
    rw [Serves, isLive, hdead]
    exact Bool.false_ne_true
  refine ⟨Bool.not_eq_true _ ▸ hnotLive, ?_, ?_, ?_⟩
  · have hargument : (Call.release reference).argument? = some (reference, .anyObject) := rfl
    exact (hlast.hinges_answer hargument).refuses hnotLive
  · intro call kind hargument
    have hrefused : ¬last.Serves reference (.object kind) := by
      rintro ⟨object, hlive, -⟩
      rw [hdead] at hlive
      cases hlive
    rw [(hlast.hinges_answer hargument).refuses hrefused, refusal, misuse, hdead]
  · rintro earlier value stored hbetween hvalue rfl call hargument
    have hbound := (represents_serve world earlier).values_le _ (Table.mem_keys_of_find? hvalue)
    have hgone : last.values.find? value = none := by
      rcases (hearlier earlier hbetween).values value hbound with hsame | ⟨hnone, -⟩
      · -- the value would still need its dictionary
        rw [hvalue] at hsame
        obtain ⟨name, hlive⟩ := hlast.value_dictionary _ (Table.mem_of_find? hsame)
        rw [hdead] at hlive
        cases hlive
      · exact hnone
    have hrefused : ¬last.Serves value .value := by
      rintro ⟨other, hfind⟩
      rw [hgone] at hfind
      cases hfind
    exact (hlast.hinges_answer hargument).refuses hrefused

/-- In any run references go up, and a release is for good. -/
theorem oneWay_serve (world : World) (calls : List (Call Nat)) : OneWay world calls where
  increasing := pairwise_serve world .empty calls
  fresh before after _ old hstands exchange hmem new hnew := by
    have hbefore := represents_serve world before
    have hle := hbefore.toSound.le_of_stands hstands
    have hlt := lt_of_mem_serve hbefore.toNumbered hmem hnew
    omega
  final before reference after hcalls hreleased := by
    subst hcalls
    exact releasedForGood_serve world after hreleased

/-- The dictionary 3 is given back, with its value 4.  A second description of the
disk has the value 6 and does not bring the first one back. -/
theorem oneWay_serve_of_second_description :
    let world : World := { disks := [⟨"d", some [(.mediaRemovable, .boolean true)]⟩] }
    let before := [Call.createSession, .createDisk 1 ⟨[100], by decide⟩, .copyDescription 2]
    let last := (serve world (before ++ .release 3 :: [.copyDescription 2]) {}).2
    (answer world (.release 3) (serve world before {}).2).1 = .ok () ∧
      ReleasedForGood world before 3 last ∧
      answer world (.release 3) last = (.error (.releasedTwice 3), last) ∧
      answer world (.boolean 4) last = (.error (.unknownValue 4), last) ∧
      answer world (.boolean 6) last = (.ok (some true), last) := by
  intro world before last
  have hreleased : (answer world (.release 3) (serve world before {}).2).1 = .ok () := rfl
  have hgood : ReleasedForGood world before 3 last :=
    (oneWay_serve world _).final before 3 [.copyDescription 2] rfl hreleased
  have hvalue : (serve world before {}).2.values.find? 4 = some ⟨3, .boolean true⟩ := rfl
  exact ⟨hreleased, hgood, hgood.release,
    hgood.values before 4 _ List.prefix_rfl hvalue rfl (.boolean 4) rfl, rfl⟩

end Store

end DiskQuery
