import DiskQuery.Proofs.Client.Trace

/-!
# What a query reports

A guard reports the reference that it takes over and, before it gives it back,
the reference again.  Whatever the service answers, the reports of a query are
brackets, one inside the other, around one word on what the query came to.

There are four groups.

* Events of runs.  `events_attempt` is the composition law, as
  `exchanges_attempt` is for calls.
* Silent clients.  `Silent` says that a client reports nothing.  Every reading of
  a description is silent.
* Guards.  `Announces` says what a client reports that creates a guard, and
  `owningEvents` what is reported while one is owned.  `Nested` is the shape that
  comes of it.
* The word on a query.  `Narrates` is about one run, and `narrates_query` says
  that it holds over every service.
-/

namespace DiskQuery

open Client

variable {ρ σ α β γ : Type}

namespace Event

/-- The reference that a guard took over, if the event is about that. -/
def acquired? : Event ρ → Option ρ
  | acquired reference => some reference
  | _ => none

/-- The reference that a guard is about to give back, if the event is about
that. -/
def releasing? : Event ρ → Option ρ
  | releasing reference => some reference
  | _ => none

end Event

/-! ## Events of runs -/

namespace Client

/-- The events of a client that goes on after another are the events of both. -/
theorem events_attempt (service : Service ρ σ) (client : Client ρ α)
    (next : Except Fault α → Client ρ β) (state : σ) :
    ((client.attempt next).run service state).events =
      (client.run service state).events ++
        ((next (client.run service state).outcome).run service
          (client.run service state).state).events := by
  rw [run_attempt]
  simp only [Run.events, Run.followedBy, List.filterMap_append]

/-- After a result, the events of the next client follow. -/
theorem events_bind_of_ok {service : Service ρ σ} {client : Client ρ α} {state : σ} {a : α}
    (next : α → Client ρ β) (h : (client.run service state).outcome = .ok a) :
    ((client >>= next).run service state).events =
      (client.run service state).events ++
        ((next a).run service (client.run service state).state).events := by
  change ((client.attempt _).run service state).events = _
  rw [events_attempt, h]

/-- After a fault, no events follow. -/
theorem events_bind_of_error {service : Service ρ σ} {client : Client ρ α} {state : σ}
    {fault : Fault} (next : α → Client ρ β)
    (h : (client.run service state).outcome = .error fault) :
    ((client >>= next).run service state).events = (client.run service state).events := by
  change ((client.attempt _).run service state).events = _
  rw [events_attempt, h]
  exact List.append_nil _

/-! ## Silent clients -/

/-- The client reports nothing. -/
def Silent : Client ρ α → Prop
  | done _ => True
  | report _ _ => False
  | ask _ resume => ∀ answer, (resume answer).Silent

theorem Silent.attempt {client : Client ρ α} {next : Except Fault α → Client ρ β}
    (hclient : client.Silent) (hnext : ∀ outcome, (next outcome).Silent) :
    (client.attempt next).Silent := by
  induction client with
  | done outcome => exact hnext outcome
  | report event rest ih => exact hclient.elim
  | ask call resume ih => exact fun answer => ih answer (hclient answer)

theorem Silent.bind {client : Client ρ α} {next : α → Client ρ β} (hclient : client.Silent)
    (hnext : ∀ a, (next a).Silent) : (client >>= next).Silent := by
  refine hclient.attempt fun outcome => ?_
  cases outcome with
  | ok a => exact hnext a
  | error fault => trivial

theorem silent_perform (call : Call ρ) : (perform call).Silent :=
  fun _ => trivial

theorem Silent.andThen {ε : Type} {client : Client ρ (Except ε α)}
    {next : α → Client ρ (Except ε β)} (hclient : client.Silent) (hnext : ∀ a, (next a).Silent) :
    (client.andThen next).Silent := by
  refine hclient.bind fun result => ?_
  cases result with
  | ok a => exact hnext a
  | error error => trivial

theorem Silent.events_eq_nil {client : Client ρ α} (h : client.Silent) (service : Service ρ σ)
    (state : σ) : (client.run service state).events = [] := by
  induction client generalizing state with
  | done outcome => rfl
  | report event rest ih => exact h.elim
  | ask call resume ih => exact ih _ (h _) _

end Client

theorem silent_boolean (description : Description ρ) (key : Key) :
    (description.boolean key).Silent := by
  refine (silent_perform _).bind fun value => ?_
  rcases value with _ | value
  · trivial
  refine (silent_perform _).bind fun truth => ?_
  cases truth <;> trivial

theorem silent_text (description : Description ρ) (key : Key) :
    (description.text key).Silent := by
  refine (silent_perform _).bind fun value => ?_
  rcases value with _ | value
  · trivial
  refine (silent_perform _).bind fun length => ?_
  rcases length with _ | length
  · trivial
  refine (silent_perform _).bind fun maxSize => ?_
  rcases bufferSize? maxSize with _ | size
  · trivial
  refine (silent_perform _).bind fun copied => ?_
  rcases copied with ⟨_ | _, buffer⟩ <;> trivial

theorem silent_attributes (description : Description ρ) : description.attributes.Silent := by
  rw [attributes_eq]
  refine (silent_boolean description _).andThen fun removable => ?_
  refine (silent_text description _).andThen fun vendor => ?_
  refine (silent_text description _).andThen fun model => ?_
  trivial

/-! ## Guards -/

/-- A creating client reports the reference of its guard, or `absent` if there is
none to guard, or nothing if it breaks off. -/
def Announces (absent : List (Event ρ)) (owner : γ → Guard ρ) (client : Client ρ (Option γ)) :
    Prop :=
  ∀ {σ : Type} (service : Service ρ σ) (state : σ), (client.run service state).events =
    match (client.run service state).outcome with
    | .ok (some held) => [.acquired (owner held).reference]
    | .ok none => absent
    | .error _ => []

theorem announces_adopt (reference : Option ρ) : Announces [] id (Guard.adopt reference) := by
  intro σ service state
  cases reference <;> rfl

theorem announces_adoptNew :
    Announces (ρ := ρ) [] id (do Guard.adopt (← perform .createSession)) := by
  intro σ service state
  rw [perform_bind, run]
  rcases service.answer .createSession state with ⟨fault | _ | reference, next⟩ <;> rfl

theorem announces_connect :
    Announces (ρ := ρ) [.sessionUnavailable] Session.guard Session.connect := by
  intro σ service state
  rw [Session.connect, perform_bind, run]
  rcases service.answer .createSession state with ⟨fault | _ | reference, next⟩ <;> rfl

theorem announces_resolve (session : Session ρ) (name : DeviceName) :
    Announces [.noSuchDisk name] Disk.guard (session.resolve name) := by
  intro σ service state
  rw [Session.resolve, perform_bind, run]
  rcases service.answer (.createDisk session.guard.reference name) state with
    ⟨fault | _ | reference, next⟩ <;> rfl

theorem announces_describe (disk : Disk ρ) :
    Announces [.noDescription] Description.guard disk.describe := by
  intro σ service state
  rw [Disk.describe, perform_bind, run]
  rcases service.answer (.copyDescription disk.guard.reference) state with
    ⟨fault | _ | reference, next⟩ <;> rfl

/-- The events of a body, and the reference after them. -/
theorem events_holding (service : Service ρ σ) (guard : Guard ρ) (body : Client ρ α) (state : σ) :
    ((guard.holding body).run service state).events =
      (body.run service state).events ++ [.releasing guard.reference] := by
  rw [run_holding]
  simp only [Run.events, List.filterMap_append]
  rfl

/-- A body whose guard is given back ends with its own result, if with any. -/
theorem outcome_of_holding {service : Service ρ σ} (guard : Guard ρ) (body : Client ρ α)
    {state : σ} {a : α} (h : ((guard.holding body).run service state).outcome = .ok a) :
    (body.run service state).outcome = .ok a := by
  rw [run_holding] at h
  obtain ⟨result, hresult, hreleased⟩ := exists_of_bind_eq_ok h
  obtain ⟨_, _, hpure⟩ := exists_of_bind_eq_ok hreleased
  cases hpure
  exact hresult

/-- What is reported where a reference is created and owned: nothing, or that
there is none, or the reference before and after the body. -/
inductive OwningEvents (absent : List (Event ρ)) (owner : γ → Guard ρ) (otherwise : Client ρ α)
    (within : γ → Client ρ α) (service : Service ρ σ) (run : Run ρ σ α) : Prop where
  | broken (fault : Fault) (houtcome : run.outcome = .error fault) (hevents : run.events = [])
  | unowned (state : σ) (houtcome : run.outcome = (otherwise.run service state).outcome)
      (hevents : run.events = absent ++ (otherwise.run service state).events)
  | owned (held : γ) (state : σ)
      (houtcome : ∀ a, run.outcome = .ok a → ((within held).run service state).outcome = .ok a)
      (hevents : run.events = .acquired (owner held).reference ::
        (((within held).run service state).events ++ [.releasing (owner held).reference]))

theorem owningEvents {absent : List (Event ρ)} {owner : γ → Guard ρ}
    {create : Client ρ (Option γ)} {otherwise : Client ρ α} {within : γ → Client ρ α}
    (hcreate : Announces absent owner create) (service : Service ρ σ) (state : σ) :
    OwningEvents absent owner otherwise within service
      ((Guard.owning create owner otherwise within).run service state) := by
  have hannounced := hcreate service state
  unfold Guard.owning
  cases houtcome : (create.run service state).outcome with
  | error fault =>
    rw [houtcome] at hannounced
    refine .broken fault ?_ ?_
    · rw [run_bind_of_error _ houtcome]
    · rw [events_bind_of_error _ houtcome, hannounced]
  | ok created =>
    rw [houtcome] at hannounced
    cases created with
    | none =>
      refine .unowned (create.run service state).state ?_ ?_
      · rw [run_bind_of_ok _ houtcome]
        rfl
      · rw [events_bind_of_ok _ houtcome, hannounced]
    | some held =>
      refine .owned held (create.run service state).state ?_ ?_
      · rw [run_bind_of_ok _ houtcome]
        exact fun a => outcome_of_holding (owner held) (within held)
      · rw [events_bind_of_ok _ houtcome, hannounced]
        exact congrArg _ (events_holding service (owner held) (within held) _)

/-! ### Brackets -/

/-- Events in which every reference that a guard took over is given back, the last
one first, and none else. -/
inductive Nested : List (Event ρ) → Prop where
  | nil : Nested []
  | note {event : Event ρ} {rest : List (Event ρ)} (hacquired : event.acquired? = none)
      (hreleasing : event.releasing? = none) (hrest : Nested rest) : Nested (event :: rest)
  | guarded {reference : ρ} {inner rest : List (Event ρ)} (hinner : Nested inner)
      (hrest : Nested rest) :
      Nested (.acquired reference :: (inner ++ .releasing reference :: rest))

theorem Nested.append {first second : List (Event ρ)} (hfirst : Nested first)
    (hsecond : Nested second) : Nested (first ++ second) := by
  induction hfirst with
  | nil => exact hsecond
  | note hacquired hreleasing _ ih => exact .note hacquired hreleasing ih
  | guarded hinner _ _ ih =>
    rw [List.cons_append, List.append_assoc, List.cons_append]
    exact .guarded hinner ih

theorem nested_owning {absent : List (Event ρ)} {owner : γ → Guard ρ}
    {create : Client ρ (Option γ)} {otherwise : Client ρ α} {within : γ → Client ρ α}
    {service : Service ρ σ} (hcreate : Announces absent owner create) (habsent : Nested absent)
    (hotherwise : ∀ state, Nested (otherwise.run service state).events)
    (hwithin : ∀ held state, Nested ((within held).run service state).events) (state : σ) :
    Nested ((Guard.owning create owner otherwise within).run service state).events := by
  cases owningEvents hcreate service state with
  | broken _ _ hevents =>
    rw [hevents]
    exact .nil
  | unowned last _ hevents =>
    rw [hevents]
    exact habsent.append (hotherwise last)
  | owned held last _ hevents =>
    rw [hevents]
    exact .guarded (hwithin held last) .nil

/-! ## The word on a query -/

/-- The event that tells what a query of `name` came to. -/
inductive Says (name : DeviceName) : Lookup → Event ρ → Prop where
  | unavailable : Says name .unavailable .sessionUnavailable
  | notFound : Says name .notFound (.noSuchDisk name)
  | undescribed : Says name (.described {}) .noDescription
  | described (attributes : Attributes) : Says name (.described attributes) (.resolved name)

/-- One event of the debug level tells the answer, before any reference is given
back. -/
def SaysOnce (name : DeviceName) (lookup : Lookup) (events : List (Event ρ)) : Prop :=
  ∃ before note after, events = before ++ note :: after ∧
    note.level = .debug ∧ Says name lookup note ∧
    (∀ event ∈ before, event.level ≠ .debug ∧ event.releasing? = none) ∧
    ∀ event ∈ after, event.level ≠ .debug

/-- The events of a query of `name` that ended so. -/
structure Narrates (name : DeviceName) (events : List (Event ρ))
    (outcome : Except Fault (Except QueryError Lookup)) : Prop where
  nested : Nested events
  answered : ∀ lookup, outcome = .ok (.ok lookup) → SaysOnce name lookup events
  failed : ∀ error, outcome = .ok (.error error) → ∀ event ∈ events, event.level ≠ .debug

theorem Says.level {name : DeviceName} {lookup : Lookup} {note : Event ρ}
    (h : Says name lookup note) : note.level = .debug := by
  cases h <;> rfl

theorem Says.nested {name : DeviceName} {lookup : Lookup} {note : Event ρ}
    (h : Says name lookup note) : Nested [note] := by
  cases h <;> exact .note rfl rfl .nil

theorem Says.once {name : DeviceName} {lookup : Lookup} {note : Event ρ}
    (h : Says name lookup note) : SaysOnce name lookup [note] :=
  ⟨[], note, [], rfl, h.level, h, by simp, by simp⟩

/-- A bracket around the events keeps the one word in its place. -/
theorem SaysOnce.guarded {name : DeviceName} {lookup : Lookup} {events : List (Event ρ)}
    (h : SaysOnce name lookup events) (reference : ρ) :
    SaysOnce name lookup (.acquired reference :: (events ++ [.releasing reference])) := by
  obtain ⟨before, note, after, rfl, hlevel, hword, hbefore, hafter⟩ := h
  refine ⟨.acquired reference :: before, note, after ++ [.releasing reference], by simp, hlevel,
    hword, ?_, ?_⟩
  · rw [List.forall_mem_cons]
    exact ⟨⟨nofun, rfl⟩, hbefore⟩
  · intro event hmem
    rcases List.mem_append.1 hmem with hmem | hmem
    · exact hafter event hmem
    · rw [List.mem_singleton.1 hmem]
      nofun

theorem narrates_of_fault {name : DeviceName} {fault : Fault} :
    Narrates (ρ := ρ) name [] (.error fault) where
  nested := .nil
  answered lookup h := by cases h
  failed error h := by cases h

/-- Every run of the client narrates a query of `name`. -/
def Client.Narrated (name : DeviceName) (client : Client ρ (Except QueryError Lookup)) : Prop :=
  ∀ {σ : Type} (service : Service ρ σ) (state : σ),
    Narrates name (client.run service state).events (client.run service state).outcome

theorem narrated_owning {name : DeviceName} {lookup : Lookup} {note : Event ρ}
    {owner : γ → Guard ρ} {create : Client ρ (Option γ)}
    {within : γ → Client ρ (Except QueryError Lookup)} (hcreate : Announces [note] owner create)
    (hnote : Says name lookup note) (hwithin : ∀ held, (within held).Narrated name) :
    (Guard.owning create owner (pure (.ok lookup)) within).Narrated name := by
  intro σ service state
  have hsilent : ∀ last, Nested
      ((pure (.ok lookup) : Client ρ (Except QueryError Lookup)).run service last).events :=
    fun _ => .nil
  have hnested := nested_owning hcreate hnote.nested hsilent
    (fun held last => (hwithin held service last).nested) state
  refine ⟨hnested, ?_, ?_⟩
  · intro answer hanswer
    cases owningEvents hcreate service state with
    | broken _ houtcome _ =>
      rw [houtcome] at hanswer
      cases hanswer
    | unowned last houtcome hevents =>
      rw [houtcome] at hanswer
      cases hanswer
      rw [hevents]
      exact hnote.once
    | owned held last houtcome hevents =>
      rw [hevents]
      exact ((hwithin held service last).answered answer (houtcome _ hanswer)).guarded _
  · intro error herror
    cases owningEvents hcreate service state with
    | broken _ houtcome _ =>
      rw [houtcome] at herror
      cases herror
    | unowned last houtcome hevents =>
      rw [houtcome] at herror
      cases herror
    | owned held last houtcome hevents =>
      have hinner := (hwithin held service last).failed error (houtcome _ herror)
      rw [hevents, List.forall_mem_cons]
      refine ⟨nofun, fun event hmem => ?_⟩
      rcases List.mem_append.1 hmem with hmem | hmem
      · exact hinner event hmem
      · rw [List.mem_singleton.1 hmem]
        nofun

/-- The reading of a description is silent up to its own word. -/
theorem narrated_lookup (name : DeviceName) (description : Description ρ) :
    (description.lookup name).Narrated name := by
  intro σ service state
  have hsilent := (silent_attributes description).events_eq_nil service state
  unfold Description.lookup Client.andThen
  cases houtcome : (description.attributes.run service state).outcome with
  | error fault =>
    rw [events_bind_of_error _ houtcome, run_bind_of_error _ houtcome, hsilent]
    exact narrates_of_fault
  | ok result =>
    rw [events_bind_of_ok _ houtcome, run_bind_of_ok _ houtcome, hsilent]
    cases result with
    | error error =>
      refine ⟨.nil, fun lookup h => ?_, fun _ _ event hmem => ?_⟩
      · cases h
      · cases hmem
    | ok attributes =>
      have hword : Says (ρ := ρ) name (.described attributes) (.resolved name) := .described _
      refine ⟨hword.nested, fun lookup h => ?_, fun error h => ?_⟩
      · cases h
        exact hword.once
      · cases h

theorem narrates_query (name : DeviceName) (service : Service ρ σ) (state : σ) :
    Narrates name ((query name).run service state).events
      ((query name).run service state).outcome := by
  rw [query_eq]
  refine narrated_owning announces_connect .unavailable (fun session => ?_) service state
  refine narrated_owning (announces_resolve session name) .notFound fun disk => ?_
  refine narrated_owning (announces_describe disk) .undescribed fun description => ?_
  exact narrated_lookup name description

/-- A query that breaks off gives back what it took over. -/
theorem nested_brokenQuery (name : DeviceName) (service : Service ρ σ) (state : σ) :
    Nested ((brokenQuery name).run service state).events := by
  have habort : ∀ last, Nested ((abort .queryAborted : Client ρ Unit).run service last).events :=
    fun _ => .nil
  rw [brokenQuery_eq]
  refine nested_owning announces_connect (.note rfl rfl .nil) habort (fun session state => ?_) state
  refine nested_owning (announces_resolve session name) (.note rfl rfl .nil) habort
    (fun disk state => ?_) state
  refine nested_owning (announces_describe disk) (.note rfl rfl .nil) habort
    (fun description state => ?_) state
  exact habort state

end DiskQuery
