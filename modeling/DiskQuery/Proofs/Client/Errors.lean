import DiskQuery.Proofs.Client.Trace

/-!
# The errors of a query

A query ends with an error only if an entry of the description broke the
promise of its key.  The error names the key.  It breaks off only if one of its
calls does.  This holds over every service, because it is a matter of the client
alone.

There are three groups.

* Results.  `Yields` bounds the results that a client can end with, whatever
  the answers to its calls are.
* Errors.  `Blames` is a result whose error, if it is one, names one of some
  keys, and `yields_query` says that the result of a query is.
* Faults.  A client that is `Steady` has no faults but those of its calls, and
  so are all the clients that a handle or a query stands for.
-/

namespace DiskQuery

variable {ρ σ α β : Type}

/-! ## Results -/

namespace Client

/-- Every result that the client may end with is allowed. -/
def Yields (allowed : α → Prop) : Client ρ α → Prop
  | done (.ok a) => allowed a
  | done (.error _) => True
  | report _ next => next.Yields allowed
  | ask _ resume => ∀ answer, (resume answer).Yields allowed

variable {allowed : α → Prop} {after : β → Prop}

theorem yields_true (client : Client ρ α) : client.Yields fun _ => True := by
  induction client with
  | done outcome => cases outcome <;> trivial
  | report event rest ih => exact ih
  | ask call resume ih => exact ih

theorem Yields.attempt {client : Client ρ α} {next : Except Fault α → Client ρ β}
    (hclient : client.Yields allowed) (hok : ∀ a, allowed a → (next (.ok a)).Yields after)
    (herror : ∀ fault, (next (.error fault)).Yields after) :
    (client.attempt next).Yields after := by
  induction client with
  | done outcome =>
    cases outcome with
    | ok a => exact hok a hclient
    | error fault => exact herror fault
  | report event rest ih => exact ih hclient
  | ask call resume ih => exact fun answer => ih answer (hclient answer)

theorem Yields.bind {client : Client ρ α} {next : α → Client ρ β}
    (hclient : client.Yields allowed) (hnext : ∀ a, allowed a → (next a).Yields after) :
    (client >>= next).Yields after :=
  hclient.attempt hnext fun _ => trivial

/-- A run ends with an allowed result, if it ends with one. -/
theorem Yields.of_outcome {client : Client ρ α} (h : client.Yields allowed)
    {service : Service ρ σ} {state : σ} {a : α}
    (houtcome : (client.run service state).outcome = .ok a) : allowed a := by
  induction client generalizing state with
  | done outcome =>
    cases houtcome
    exact h
  | report event rest ih => exact ih h houtcome
  | ask call resume ih => exact ih _ (h _) houtcome

end Client

open Client

theorem Guard.yields_holding {allowed : α → Prop} {body : Client ρ α}
    (hbody : body.Yields allowed) (guard : Guard ρ) : (guard.holding body).Yields allowed := by
  apply hbody.attempt
  · intro a ha answer
    cases answer with
    | ok u => exact ha
    | error fault => trivial
  · intro fault answer
    cases answer <;> trivial

theorem Guard.yields_owning {γ : Type} {allowed : α → Prop} {create : Client ρ (Option γ)}
    {owner : γ → Guard ρ} {absent : Client ρ α} {within : γ → Client ρ α}
    (habsent : absent.Yields allowed) (hwithin : ∀ held, (within held).Yields allowed) :
    (Guard.owning create owner absent within).Yields allowed := by
  refine (yields_true create).bind fun created _ => ?_
  cases created with
  | none => exact habsent
  | some held => exact Guard.yields_holding (hwithin held) _

/-! ## Errors -/

/-- The key whose entry an error is about, if it is about one. -/
def QueryError.key? : QueryError → Option Key
  | unexpectedType key _ => some key
  | stringConversion key => some key
  | invalidUtf8 key _ => some key
  | _ => none

/-- An error among results names one of the keys. -/
def Blames (keys : List Key) (result : Except QueryError α) : Prop :=
  ∀ error, result = .error error → ∃ key ∈ keys, error.key? = some key

theorem blames_ok (keys : List Key) (a : α) : Blames keys (.ok a : Except QueryError α) := by
  intro error herror
  cases herror

theorem blames_error {keys : List Key} {key : Key} {error : QueryError} (hmem : key ∈ keys)
    (hkey : error.key? = some key) : Blames keys (.error error : Except QueryError α) := by
  intro other hother
  cases hother
  exact ⟨key, hmem, hkey⟩

theorem blames_textInBuffer {keys : List Key} {key : Key} (hmem : key ∈ keys)
    (buffer : List UInt8) : Blames keys ((textInBuffer key buffer).map some) := by
  unfold textInBuffer
  split
  · split
    · exact blames_ok keys _
    · exact blames_error hmem rfl
  · exact blames_error hmem rfl

theorem yields_boolean {keys : List Key} {key : Key} (hmem : key ∈ keys)
    (description : Description ρ) : (description.boolean key).Yields (Blames keys) := by
  refine (yields_true _).bind fun value _ => ?_
  cases value with
  | none => exact blames_ok keys none
  | some value =>
    refine (yields_true _).bind fun truth _ => ?_
    cases truth with
    | none => exact blames_error hmem rfl
    | some truth => exact blames_ok keys (some truth)

theorem yields_text {keys : List Key} {key : Key} (hmem : key ∈ keys)
    (description : Description ρ) : (description.text key).Yields (Blames keys) := by
  refine (yields_true _).bind fun value _ => ?_
  cases value with
  | none => exact blames_ok keys none
  | some value =>
    refine (yields_true _).bind fun length _ => ?_
    cases length with
    | none => exact blames_error hmem rfl
    | some length =>
      refine (yields_true _).bind fun maxSize _ => ?_
      cases bufferSize? maxSize with
      | none => exact blames_error hmem rfl
      | some size =>
        refine (yields_true _).bind fun copied _ => ?_
        rcases copied with ⟨_ | _, buffer⟩
        · exact blames_error hmem rfl
        · exact blames_textInBuffer hmem buffer

theorem Client.Yields.andThen {keys : List Key} {client : Client ρ (Except QueryError α)}
    {next : α → Client ρ (Except QueryError β)} (hclient : client.Yields (Blames keys))
    (hnext : ∀ a, (next a).Yields (Blames keys)) :
    (client.andThen next).Yields (Blames keys) := by
  refine hclient.bind fun result hresult => ?_
  cases result with
  | ok a => exact hnext a
  | error error =>
    obtain ⟨key, hmem, hkey⟩ := hresult error rfl
    exact blames_error hmem hkey

theorem yields_lookup (name : DeviceName) (description : Description ρ) :
    (description.lookup name).Yields
      (Blames [.mediaRemovable, .deviceVendor, .deviceModel]) := by
  unfold Description.lookup
  rw [attributes_eq]
  refine Yields.andThen ?_ fun attributes => blames_ok _ _
  refine (yields_boolean (by decide) description).andThen fun removable => ?_
  refine (yields_text (by decide) description).andThen fun vendor => ?_
  refine (yields_text (by decide) description).andThen fun model => ?_
  exact blames_ok _ _

/-- An error of a query names the key of an entry. -/
theorem yields_query (name : DeviceName) :
    (query (ρ := ρ) name).Yields (Blames [.mediaRemovable, .deviceVendor, .deviceModel]) := by
  rw [query_eq]
  refine Guard.yields_owning (blames_ok _ _) fun session => ?_
  refine Guard.yields_owning (blames_ok _ _) fun disk => ?_
  exact Guard.yields_owning (blames_ok _ _) (yields_lookup name)

/-! ## Faults -/

namespace Client

/-- The client breaks off only if one of its calls does. -/
def Steady : Client ρ α → Prop
  | done outcome => ∃ a, outcome = .ok a
  | report _ next => next.Steady
  | ask _ resume => ∀ a, (resume (.ok a)).Steady

theorem steady_pure (a : α) : (pure a : Client ρ α).Steady :=
  ⟨a, rfl⟩

theorem steady_perform (call : Call ρ) : (perform call).Steady :=
  fun a => ⟨a, rfl⟩

theorem Steady.attempt {client : Client ρ α} {next : Except Fault α → Client ρ β}
    (hclient : client.Steady) (hnext : ∀ a, (next (.ok a)).Steady) :
    (client.attempt next).Steady := by
  induction client with
  | done outcome =>
    obtain ⟨a, rfl⟩ := hclient
    exact hnext a
  | report event rest ih => exact ih hclient
  | ask call resume ih => exact fun a => ih (.ok a) (hclient a)

theorem Steady.bind {client : Client ρ α} {next : α → Client ρ β} (hclient : client.Steady)
    (hnext : ∀ a, (next a).Steady) : (client >>= next).Steady :=
  hclient.attempt hnext

/-- A steady client whose calls have all been answered ends with a result. -/
theorem Steady.exists_ok {client : Client ρ α} (h : client.Steady) {service : Service ρ σ}
    {state : σ}
    (hanswered : ∀ exchange ∈ (client.run service state).exchanges, ¬exchange.BrokeOff) :
    ∃ a, (client.run service state).outcome = .ok a := by
  induction client generalizing state with
  | done outcome => exact h
  | report event rest ih => exact ih h hanswered
  | ask call resume ih =>
    rw [exchanges_ask, List.forall_mem_cons] at hanswered
    cases hanswer : (service.answer call state).1 with
    | error fault => exact absurd ⟨fault, hanswer⟩ hanswered.1
    | ok a =>
      have hrest := ih (.ok a) (h a) (hanswer ▸ hanswered.2)
      rw [← hanswer] at hrest
      exact hrest

end Client

section Steady

variable {γ : Type}

theorem Guard.steady_adopt (reference : Option ρ) : (Guard.adopt reference).Steady := by
  cases reference <;> exact ⟨_, rfl⟩

theorem Guard.steady_release (guard : Guard ρ) : guard.release.Steady :=
  fun u => ⟨u, rfl⟩

theorem Guard.steady_holding {body : Client ρ α} (hbody : body.Steady) (guard : Guard ρ) :
    (guard.holding body).Steady :=
  hbody.attempt fun a => guard.steady_release.attempt fun _ => ⟨a, rfl⟩

theorem Guard.steady_owning {create : Client ρ (Option γ)} {owner : γ → Guard ρ}
    {absent : Client ρ α} {within : γ → Client ρ α} (hcreate : create.Steady)
    (habsent : absent.Steady) (hwithin : ∀ held, (within held).Steady) :
    (Guard.owning create owner absent within).Steady := by
  refine hcreate.bind fun created => ?_
  cases created with
  | none => exact habsent
  | some held => exact Guard.steady_holding (hwithin held) _

theorem steady_connect : (Session.connect (ρ := ρ)).Steady := by
  refine (steady_perform _).bind fun reference => (Guard.steady_adopt reference).bind ?_
  rintro (_ | guard) <;> exact ⟨_, rfl⟩

theorem steady_resolve (session : Session ρ) (name : DeviceName) :
    (session.resolve name).Steady := by
  refine (steady_perform _).bind fun reference => (Guard.steady_adopt reference).bind ?_
  rintro (_ | guard) <;> exact ⟨_, rfl⟩

theorem steady_describe (disk : Disk ρ) : disk.describe.Steady := by
  refine (steady_perform _).bind fun reference => (Guard.steady_adopt reference).bind ?_
  rintro (_ | guard) <;> exact ⟨_, rfl⟩

theorem steady_boolean (description : Description ρ) (key : Key) :
    (description.boolean key).Steady := by
  refine (steady_perform _).bind fun value => ?_
  rcases value with _ | value
  · exact steady_pure _
  refine (steady_perform _).bind fun truth => ?_
  cases truth <;> exact steady_pure _

theorem steady_text (description : Description ρ) (key : Key) :
    (description.text key).Steady := by
  refine (steady_perform _).bind fun value => ?_
  rcases value with _ | value
  · exact steady_pure _
  refine (steady_perform _).bind fun length => ?_
  rcases length with _ | length
  · exact steady_pure _
  refine (steady_perform _).bind fun maxSize => ?_
  rcases bufferSize? maxSize with _ | size
  · exact steady_pure _
  refine (steady_perform _).bind fun copied => ?_
  rcases copied with ⟨_ | _, buffer⟩ <;> exact steady_pure _

theorem Client.Steady.andThen {ε : Type} {client : Client ρ (Except ε α)}
    {next : α → Client ρ (Except ε β)} (hclient : client.Steady)
    (hnext : ∀ a, (next a).Steady) : (client.andThen next).Steady := by
  refine hclient.bind fun result => ?_
  cases result with
  | ok a => exact hnext a
  | error error => exact steady_pure _

theorem steady_lookup (name : DeviceName) (description : Description ρ) :
    (description.lookup name).Steady := by
  unfold Description.lookup
  rw [attributes_eq]
  refine Steady.andThen ?_ fun attributes => ⟨_, rfl⟩
  refine (steady_boolean description _).andThen fun removable => ?_
  refine (steady_text description _).andThen fun vendor => ?_
  refine (steady_text description _).andThen fun model => ?_
  exact steady_pure _

theorem steady_query (name : DeviceName) : (query (ρ := ρ) name).Steady := by
  rw [query_eq]
  refine Guard.steady_owning steady_connect (steady_pure _) fun session => ?_
  refine Guard.steady_owning (steady_resolve session name) (steady_pure _) fun disk => ?_
  exact Guard.steady_owning (steady_describe disk) (steady_pure _) (steady_lookup name)

end Steady

end DiskQuery
