import DiskQuery.Proofs.Store.Restore

/-!
# Queries of a store

What a query answers is a matter of the world alone, and so is what it leaves
behind: counters, and nothing in the tables.

There are three groups.

* The reference.  `World.lookup` goes through the disks and the entries of a
  world, without references, buffers or tables.
* One query.  `leaves_query` holds a query against the reference, from the
  reading of a description outwards, and `query_eq_lookup` is what it says of
  the reachable stores.
* Many queries.  They leave no more behind than one (`queries_leave_no_trace`).
-/

namespace DiskQuery.Store

open Client

/-! ## The reference -/

namespace World

/-- The disk of exactly these bytes.  A later disk hides the earlier ones of
its name. -/
def named? (world : World) (name : DeviceName) : Option Entry :=
  world.disks.reverse.find? fun entry => Text.Utf8.encode entry.name.toList == name.bytes

/-- What a disk with that description, or without one, reports. -/
def described (world : World) :
    Option (List (Key × Value)) → Except QueryError Lookup
  | some entries => (world.attributesOf entries).map .described
  | none => .ok (.described {})

/-- The answer to a query of a name. -/
def lookup (world : World) (name : DeviceName) : Except QueryError Lookup :=
  if world.unavailable then .ok .unavailable
  else match world.named? name with
    | some entry => world.described entry.description
    | none => .ok .notFound

/-- How many references a query of a name acquires. -/
def depth (world : World) (name : DeviceName) : Nat :=
  if world.unavailable then 0
  else match world.named? name with
    | some entry => if entry.description.isSome then 3 else 2
    | none => 1

theorem depth_le (world : World) (name : DeviceName) : world.depth name ≤ 3 := by
  unfold depth
  split_ifs
  · omega
  · split
    · split_ifs <;> omega
    · omega

theorem length_drop_depth (world : World) (name : DeviceName) :
    ([Kind.dictionary, .disk, .session].drop (3 - world.depth name)).length =
      world.depth name := by
  have hle := world.depth_le name
  rw [List.length_drop]
  simp only [List.length_cons, List.length_nil]
  omega

end World

/-- Whether the attribute that is read from a key is there. -/
def reports (attributes : Attributes) : Key → Bool
  | .mediaRemovable => attributes.removable.isSome
  | .deviceVendor => attributes.vendor.isSome
  | .deviceModel => attributes.model.isSome

theorem isSome_of_mapM_eq_ok {ε α β : Type} {found : Option α} {f : α → Except ε β}
    {result : Option β} (h : found.mapM f = .ok result) : result.isSome = found.isSome := by
  cases found with
  | none =>
    cases h
    rfl
  | some a =>
    change some <$> f a = .ok result at h
    cases hread : f a with
    | error e =>
      rw [hread] at h
      cases h
    | ok b =>
      rw [hread] at h
      cases h
      rfl

/-- An attribute is there if and only if the description has an entry of its
key. -/
theorem reports_iff {world : World} {entries : List (Key × Value)} {attributes : Attributes}
    (h : world.attributesOf entries = .ok attributes) (key : Key) :
    reports attributes key = true ↔ key ∈ entries.map Prod.fst := by
  have hlast : (lastValue? entries key).isSome = true ↔ key ∈ entries.map Prod.fst := by
    rw [← not_iff_not, ← lastValue?_eq_none, Option.not_isSome_iff_eq_none]
  obtain ⟨removable, hremovable, h⟩ := exists_of_bind_eq_ok h
  obtain ⟨vendor, hvendor, h⟩ := exists_of_bind_eq_ok h
  obtain ⟨model, hmodel, h⟩ := exists_of_bind_eq_ok h
  cases h
  rw [← hlast]
  cases key with
  | mediaRemovable => rw [reports, isSome_of_mapM_eq_ok hremovable]
  | deviceVendor => rw [reports, Option.isSome_map, isSome_of_mapM_eq_ok hvendor]
  | deviceModel => rw [reports, Option.isSome_map, isSome_of_mapM_eq_ok hmodel]

/-- The bytes of a name that is a text are the UTF-8 of that text only. -/
theorem encode_beq_of_text {name : DeviceName} {text : String} (h : name.text = .ok text)
    (other : String) : (Text.Utf8.encode other.toList == name.bytes) = (other == text) := by
  have hdecode : Text.Utf8.encode text.toList = name.bytes := by
    unfold DeviceName.text at h
    cases hbytes : Text.Utf8.decode name.bytes with
    | error defect =>
      rw [hbytes] at h
      cases h
    | ok chars =>
      rw [hbytes] at h
      cases h
      rw [String.toList_ofList]
      exact Text.Utf8.decode_eq_ok_iff.1 hbytes
  rw [Bool.eq_iff_iff, beq_iff_eq, beq_iff_eq, ← hdecode]
  constructor
  · intro hencode
    exact String.toList_inj.1 (Text.Utf8.encode_injective hencode)
  · rintro rfl
    rfl

/-- The bytes of a name that is no text are the UTF-8 of none. -/
theorem encode_beq_of_defect {name : DeviceName} {defect : Text.Utf8.Defect}
    (h : name.text = .error defect) (other : String) :
    (Text.Utf8.encode other.toList == name.bytes) = false := by
  refine beq_false_of_ne fun hencode => ?_
  rw [DeviceName.text, Text.Utf8.decode_eq_ok_iff.2 hencode] at h
  cases h

/-- Bytes name a disk if they are the UTF-8 of its name. -/
theorem named?_of_text {world : World} {name : DeviceName} {text : String}
    (h : name.text = .ok text) : world.named? name = world.disk? text := by
  unfold World.named? World.disk?
  simp only [encode_beq_of_text h]

/-- Bytes that are no UTF-8 name no disk. -/
theorem named?_of_defect {world : World} {name : DeviceName} {defect : Text.Utf8.Defect}
    (h : name.text = .error defect) : world.named? name = none := by
  unfold World.named?
  simp only [encode_beq_of_defect h]
  exact List.find?_eq_none.2 fun _ _ => Bool.false_ne_true

/-! ## One query -/

/-- The part of a query that owns a description. -/
theorem leaves_description (world : World) {store : Store} (disk : Disk Nat) {text : String}
    (hsound : Sound store) (hdisk : store.owned.find? disk.guard.reference = some (.disk text))
    (name : DeviceName) :
    Leaves world store
      (Guard.owning disk.describe Description.guard (pure (.ok (.described {})))
        (Description.lookup name))
      (world.described (world.description? text))
      (if (world.description? text).isSome then [.dictionary] else []) := by
  cases hentries : world.description? text with
  | none =>
    have hexpect : store.expectDisk disk.guard.reference = .ok text := by
      rw [expectDisk, hdisk]
    have hanswer : answer world (.copyDescription disk.guard.reference) store =
        (.ok none, store) := by
      rw [answer, hexpect]
      simp only [writing, copyDescription, hentries]
    exact leaves_owning_absent (observes_of_acquires (acquires_describe disk) hanswer rfl)
      (observes_pure _)
  | some entries =>
    obtain ⟨description, hreference, houtcome, hstate⟩ :=
      created_of_acquires (acquires_describe disk) (answer_copyDescription hdisk hentries) rfl
    have hshows := shows_describe hsound text entries
    rw [← hreference] at hshows
    obtain ⟨owner, hlive⟩ := hshows.live
    refine leaves_owning Description.guard (.dictionary owner) houtcome hstate hlive
      (hshows.lookup world name).leaves fun hback => ?_
    rw [hreference]
    exact hback.describe hsound

/-- The part of a query that owns a disk. -/
theorem leaves_disk (world : World) {store : Store} (session : Session Nat)
    (hsound : Sound store) (hsession : store.owned.find? session.guard.reference = some .session)
    (name : DeviceName) :
    Leaves world store
      (Guard.owning (session.resolve name) Disk.guard (pure (.ok .notFound)) fun disk =>
        Guard.owning disk.describe Description.guard (pure (.ok (.described {})))
          (Description.lookup name))
      (match world.named? name with
        | some entry => world.described entry.description
        | none => .ok .notFound)
      (match world.named? name with
        | some entry => (if entry.description.isSome then [.dictionary] else []) ++ [.disk]
        | none => []) := by
  have hexpect : store.expectSession session.guard.reference = .ok () := by
    rw [expectSession, hsession]
  have habsent : answer world (.createDisk session.guard.reference name) store =
      (.ok none, store) → Observes world store (session.resolve name) none :=
    fun hanswer => observes_of_acquires (acquires_resolve session name) hanswer rfl
  cases htext : name.text with
  | error defect =>
    rw [named?_of_defect htext]
    refine leaves_owning_absent (habsent ?_) (observes_pure _)
    rw [answer, hexpect]
    simp only [writing, createDisk, htext]
  | ok text =>
    rw [named?_of_text htext]
    cases hdisk : world.disk? text with
    | none =>
      refine leaves_owning_absent (habsent ?_) (observes_pure _)
      rw [answer, hexpect]
      simp only [writing, createDisk, htext, hdisk]
      rfl
    | some entry =>
      have hanswer : answer world (.createDisk session.guard.reference name) store =
          (.ok (some (store.next + 1)), store.create (.disk text)) := by
        rw [answer, hexpect]
        simp only [writing, createDisk, htext, hdisk]
        rfl
      have hdescription : world.description? text = entry.description := by
        rw [World.description?, hdisk]
        rfl
      obtain ⟨disk, hreference, houtcome, hstate⟩ :=
        created_of_acquires (acquires_resolve session name) hanswer rfl
      have hlive : (store.create (.disk text)).owned.find? disk.guard.reference =
          some (.disk text) := by
        rw [hreference]
        exact Table.find?_insert_self _ _ _
      have hinner := leaves_description world disk (hsound.create _) hlive name
      rw [hdescription] at hinner
      refine leaves_owning Disk.guard (.disk text) houtcome hstate hlive hinner fun hback => ?_
      rw [hreference]
      exact hback.create hsound Kind.noConfusion

/-- What a query of a name answers, and what it creates and gives back. -/
theorem leaves_query {store : Store} (world : World) (h : Sound store) (name : DeviceName) :
    Leaves world store (query name) (world.lookup name)
      ([Kind.dictionary, .disk, .session].drop (3 - world.depth name)) := by
  rw [query_eq]
  unfold World.lookup World.depth
  cases havailable : world.unavailable with
  | true =>
    have hanswer : answer world .createSession store = (.ok none, store) := by
      simp only [answer, writing, createSession, havailable]
      rfl
    exact leaves_owning_absent (observes_of_acquires acquires_connect hanswer rfl)
      (observes_pure _)
  | false =>
    have hanswer : answer world .createSession store =
        (.ok (some (store.next + 1)), store.create .session) := by
      simp only [answer, writing, createSession, havailable]
      rfl
    obtain ⟨session, hreference, houtcome, hstate⟩ :=
      created_of_acquires acquires_connect hanswer rfl
    have hlive : (store.create .session).owned.find? session.guard.reference =
        some .session := by
      rw [hreference]
      exact Table.find?_insert_self _ _ _
    have hinner := leaves_disk world session (h.create _) hlive name
    have hkinds : [Kind.dictionary, .disk, .session].drop
        (3 - match world.named? name with
          | some entry => if entry.description.isSome then 3 else 2
          | none => 1) =
        (match world.named? name with
          | some entry => (if entry.description.isSome then [.dictionary] else []) ++ [.disk]
          | none => []) ++ [.session] := by
      rcases world.named? name with _ | ⟨_, _ | entries⟩ <;> rfl
    simp only [Bool.false_eq_true, if_false]
    rw [hkinds]
    refine leaves_owning Session.guard .session houtcome hstate hlive hinner fun hback => ?_
    rw [hreference]
    exact hback.create h Kind.noConfusion

/-- A described answer is the reading of the description. -/
theorem attributesOf_of_lookup {world : World} {name : DeviceName} {entry : Entry}
    {entries : List (Key × Value)} {attributes : Attributes}
    (hentry : world.named? name = some entry) (hentries : entry.description = some entries)
    (h : world.lookup name = .ok (.described attributes)) :
    world.attributesOf entries = .ok attributes := by
  unfold World.lookup at h
  split at h
  · cases h
  · rw [hentry] at h
    simp only [hentries, World.described] at h
    cases hread : world.attributesOf entries with
    | error error =>
      rw [hread] at h
      cases h
    | ok read =>
      rw [hread] at h
      cases h
      rfl

/-- A query of a store that calls led to answers what the reference says, and
reports an attribute if and only if the description has an entry of its key. -/
theorem query_eq_lookup (world : World) {store : Store} (h : Reachable world store)
    (name : DeviceName) :
    ((query name).run world.service store).outcome = .ok (world.lookup name) ∧
      ∀ entry ∈ world.named? name, ∀ entries ∈ entry.description, ∀ attributes,
        ((query name).run world.service store).outcome = .ok (.ok (.described attributes)) →
          ∀ key, reports attributes key = true ↔ key ∈ entries.map Prod.fst := by
  have houtcome := (leaves_query world h.sound name).outcome
  refine ⟨houtcome, ?_⟩
  intro entry hentry entries hentries attributes hdescribed
  rw [houtcome] at hdescribed
  exact reports_iff (attributesOf_of_lookup hentry hentries (Except.ok.inj hdescribed))

/-- A world with an undescribed `disk1`, hidden by a later one that has two
vendors. -/
def repeating : World where
  disks :=
    [⟨"disk1", none⟩,
      ⟨"disk1", some [(.deviceVendor, .number), (.mediaRemovable, .boolean true),
        (.deviceVendor, .text "SanDisk ")]⟩]

/-- The name of the disks of `repeating`. -/
def disk1 : DeviceName :=
  ⟨[100, 105, 115, 107, 49], by decide⟩

/-- Over a store with a live session, a query reads the last disk and the last
vendor. -/
theorem query_of_repeating :
    Reachable repeating (answer repeating .createSession {}).2 ∧
      ((query disk1).run repeating.service (answer repeating .createSession {}).2).outcome =
        .ok (.ok (.described ⟨some true, some "SanDisk", none⟩)) := by
  have hreachable : Reachable repeating (answer repeating .createSession {}).2 :=
    ⟨_, History.start.call .createSession⟩
  refine ⟨hreachable, ?_⟩
  rw [(query_eq_lookup repeating hreachable disk1).1]
  rfl

/-! ## Many queries -/

theorem Leaves.bind {α β : Type} {world : World} {store : Store} {client : Client Nat α}
    {next : α → Client Nat β} {a : α} {b : β} {kinds more : List Kind}
    (hclient : Leaves world store client a kinds)
    (hnext : Leaves world (client.run world.service store).state (next a) b more) :
    Leaves world store (client >>= next) b (kinds ++ more) := by
  have hrun := run_bind_of_ok next hclient.outcome
  constructor
  · rw [hrun]
    exact hnext.outcome
  · rw [hrun]
    exact hclient.restored.trans hnext.restored

/-- What queries of many names answer, and what they create and give back. -/
theorem leaves_queries (world : World) (names : List DeviceName) {store : Store}
    (h : Reachable world store) :
    Leaves world store (names.mapM query) (names.map world.lookup)
      (names.flatMap fun name =>
        [Kind.dictionary, .disk, .session].drop (3 - world.depth name)) := by
  induction names generalizing store with
  | nil => exact (observes_pure _).leaves
  | cons name names ih =>
    rw [List.mapM_cons, List.map_cons, List.flatMap_cons]
    refine (leaves_query world h.sound name).bind ?_
    rw [← List.append_nil (names.flatMap _)]
    exact (ih (h.run (query name))).bind (observes_pure _).leaves

/-- A query answers as over an empty store, leaves the tables as they are, and
has given back what it created.  So do any queries in any order. -/
theorem queries_leave_no_trace (world : World) {store : Store} (h : Reachable world store) :
    (∀ name : DeviceName,
      let run := (query name).run world.service store
      (∃ answer, run.outcome = .ok answer ∧
        ((query name).run world.service {}).outcome = .ok answer) ∧
      Restored store ([Kind.dictionary, .disk, .session].drop (3 - world.depth name)) run.state ∧
      run.state.created = store.created + world.depth name) ∧
    ∀ names : List DeviceName,
      let run := (names.mapM query).run world.service store
      run.outcome = names.mapM (fun name => ((query name).run world.service {}).outcome) ∧
      run.state.owned = store.owned ∧ run.state.values = store.values ∧
      run.state.entries = store.entries ∧ run.state.live = store.live := by
  have hfresh : ∀ name, ((query name).run world.service {}).outcome = .ok (world.lookup name) :=
    fun name => (leaves_query world Sound.empty name).outcome
  constructor
  · intro name run
    obtain ⟨houtcome, hrestored⟩ := leaves_query world h.sound name
    refine ⟨⟨world.lookup name, houtcome, hfresh name⟩, hrestored, ?_⟩
    rw [hrestored.created, World.length_drop_depth]
  · intro names run
    obtain ⟨houtcome, hrestored⟩ := leaves_queries world names h
    refine ⟨?_, hrestored.owned, hrestored.values, hrestored.entries, hrestored.live⟩
    have hanswers : names.mapM (fun name => (pure (world.lookup name) :
        Except Fault (Except QueryError Lookup))) = pure (names.map world.lookup) := List.mapM_pure
    simp only [hfresh]
    exact houtcome.trans hanswers.symm

/-- Beside a live session and disk, two queries leave two live references. -/
theorem queries_beside_disk :
    let store := (answer repeating (.createDisk 1 disk1) (answer repeating .createSession {}).2).2
    Reachable repeating store ∧ store.live = 2 ∧
      (([disk1, disk1].mapM query).run repeating.service store).state.live = 2 := by
  intro store
  have hreachable : Reachable repeating store :=
    ⟨_, (History.start.call .createSession).call (.createDisk 1 disk1)⟩
  have hlive : store.live = 2 := rfl
  refine ⟨hreachable, hlive, ?_⟩
  have hqueries := (queries_leave_no_trace repeating hreachable).2 [disk1, disk1]
  exact hqueries.2.2.2.2.trans hlive

end DiskQuery.Store
