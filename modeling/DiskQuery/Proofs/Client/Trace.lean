import DiskQuery.Client.Query
import DiskQuery.Client.Run

/-!
# The native calls of a run

A proof about what a client does to a service reads the calls off a run, each
with its answer.  This module says how those calls are made up.

There are four groups.

* The calls of a run.  `Exchange` is a call with its answer, and
  `exchanges_attempt` is the composition law that every later fact about
  calls comes from.
* Clients that keep to a rule.  `Asks` bounds the calls that a client makes,
  and `Straight` says that nothing follows a call that breaks off.
* Creating clients.  `Acquires` describes the clients that create a reference,
  each by one call.
* The shape of a query.  `Guard.owning` creates a reference and owns it while
  a body runs.  A query is three of them, one inside the other, around the
  reading of a description (`query_eq`).
-/

namespace DiskQuery

variable {ρ σ α β γ : Type}

theorem exists_of_bind_eq_ok {ε α β : Type} {x : Except ε α} {f : α → Except ε β} {b : β}
    (h : x >>= f = .ok b) : ∃ a, x = .ok a ∧ f a = .ok b := by
  cases x with
  | error e => cases h
  | ok a => exact ⟨a, rfl, h⟩

/-! ## The calls of a run -/

/-- The kind of the counted references that a call hands out. -/
def Call.creates? : Call ρ → Option Kind
  | .createSession => some .session
  | .createDisk _ _ => some .disk
  | .copyDescription _ => some .dictionary
  | _ => none

/-- A native call and its answer. -/
structure Exchange (ρ : Type) where
  call : Call ρ
  answer : Except Fault call.Answer

namespace Exchange

/-- The counted reference that the service handed out, if it did. -/
def acquired? : Exchange ρ → Option ρ
  | ⟨.createSession, .ok reference⟩ => reference
  | ⟨.createDisk _ _, .ok reference⟩ => reference
  | ⟨.copyDescription _, .ok reference⟩ => reference
  | _ => none

/-- The kind of the counted reference that the service handed out, if it did. -/
def created? (exchange : Exchange ρ) : Option Kind :=
  exchange.acquired?.bind fun _ => exchange.call.creates?

/-- The reference that was given back, if one was. -/
def released? : Exchange ρ → Option ρ
  | ⟨.release reference, _⟩ => some reference
  | _ => none

/-- Whether the call broke off. -/
def BrokeOff (exchange : Exchange ρ) : Prop :=
  ∃ fault, exchange.answer = .error fault

end Exchange

theorem not_brokeOff_ok {call : Call ρ} (a : call.Answer) :
    ¬(⟨call, .ok a⟩ : Exchange ρ).BrokeOff := by
  rintro ⟨fault, hfault⟩
  cases hfault

namespace Client

/-- The call of an action with its answer, if it is one. -/
def Action.exchange? : Action ρ → Option (Exchange ρ)
  | .reported _ => none
  | .asked call answer => some ⟨call, answer⟩

/-- The calls of a run with their answers. -/
def Run.exchanges (run : Run ρ σ α) : List (Exchange ρ) :=
  run.actions.filterMap Action.exchange?

@[simp] theorem exchanges_nil (outcome : Except Fault α) (state : σ) :
    (⟨outcome, state, []⟩ : Run ρ σ α).exchanges = [] := rfl

@[simp] theorem exchanges_ask (service : Service ρ σ) (call : Call ρ)
    (resume : Except Fault call.Answer → Client ρ α) (state : σ) :
    ((ask call resume).run service state).exchanges =
      ⟨call, (service.answer call state).1⟩ ::
        ((resume (service.answer call state).1).run service
          (service.answer call state).2).exchanges := rfl

/-- The calls of a client that goes on after another are the calls of both. -/
theorem exchanges_attempt (service : Service ρ σ) (client : Client ρ α)
    (next : Except Fault α → Client ρ β) (state : σ) :
    ((client.attempt next).run service state).exchanges =
      (client.run service state).exchanges ++
        ((next (client.run service state).outcome).run service
          (client.run service state).state).exchanges := by
  rw [run_attempt]
  simp only [Run.exchanges, Run.followedBy, List.filterMap_append]

/-- After a result, the calls of the next client follow. -/
theorem exchanges_bind_of_ok {service : Service ρ σ} {client : Client ρ α} {state : σ} {a : α}
    (next : α → Client ρ β) (h : (client.run service state).outcome = .ok a) :
    ((client >>= next).run service state).exchanges =
      (client.run service state).exchanges ++
        ((next a).run service (client.run service state).state).exchanges := by
  change ((client.attempt _).run service state).exchanges = _
  rw [exchanges_attempt, h]

/-- After a fault, no calls follow. -/
theorem exchanges_bind_of_error {service : Service ρ σ} {client : Client ρ α} {state : σ}
    {fault : Fault} (next : α → Client ρ β)
    (h : (client.run service state).outcome = .error fault) :
    ((client >>= next).run service state).exchanges =
      (client.run service state).exchanges := by
  change ((client.attempt _).run service state).exchanges = _
  rw [exchanges_attempt, h]
  exact List.append_nil _

/-- A next client that makes no calls adds none. -/
theorem exchanges_bind_of_silent {service : Service ρ σ} {next : α → Client ρ β}
    (hsilent : ∀ a state, ((next a).run service state).exchanges = []) (client : Client ρ α)
    (state : σ) :
    ((client >>= next).run service state).exchanges =
      (client.run service state).exchanges := by
  cases houtcome : (client.run service state).outcome with
  | error fault => exact exchanges_bind_of_error next houtcome
  | ok a => rw [exchanges_bind_of_ok next houtcome, hsilent, List.append_nil]

theorem bind_done (client : Client ρ α) : (client.bind fun a => done (.ok a)) = client := by
  induction client with
  | done outcome => cases outcome <;> rfl
  | report event rest ih => exact congrArg (report event) ih
  | ask call resume ih => exact congrArg (ask call) (funext ih)

theorem bind_bind (client : Client ρ α) (first : α → Client ρ β) (second : β → Client ρ γ) :
    (client.bind first).bind second = client.bind fun a => (first a).bind second := by
  unfold bind
  rw [attempt_attempt]
  congr 1
  funext outcome
  cases outcome <;> rfl

instance : LawfulMonad (Client ρ) :=
  .mk' _ bind_done (fun _ _ => rfl) bind_bind

/-- A call, and what goes on with its answer. -/
theorem perform_bind (call : Call ρ) (next : call.Answer → Client ρ β) :
    (perform call >>= next) = ask call fun
      | .ok a => next a
      | .error fault => done (.error fault) := by
  change ask call _ = _
  congr 1
  funext answer
  cases answer <;> rfl

/-! ## Clients that keep to a rule -/

/-- Every call that the client may make is allowed. -/
def Asks (allowed : Call ρ → Prop) : Client ρ α → Prop
  | done _ => True
  | report _ next => next.Asks allowed
  | ask call resume => allowed call ∧ ∀ answer, (resume answer).Asks allowed

/-- The client ends as soon as a call breaks off. -/
def Straight : Client ρ α → Prop
  | done _ => True
  | report _ next => next.Straight
  | ask _ resume =>
      (∀ fault, resume (.error fault) = done (.error fault)) ∧
        ∀ a, (resume (.ok a)).Straight

theorem Asks.attempt {allowed : Call ρ → Prop} {client : Client ρ α}
    {next : Except Fault α → Client ρ β} (hclient : client.Asks allowed)
    (hnext : ∀ outcome, (next outcome).Asks allowed) :
    (client.attempt next).Asks allowed := by
  induction client with
  | done outcome => exact hnext outcome
  | report event rest ih => exact ih hclient
  | ask call resume ih => exact ⟨hclient.1, fun answer => ih answer (hclient.2 answer)⟩

theorem Asks.bind {allowed : Call ρ → Prop} {client : Client ρ α} {next : α → Client ρ β}
    (hclient : client.Asks allowed) (hnext : ∀ a, (next a).Asks allowed) :
    (client >>= next).Asks allowed := by
  refine hclient.attempt fun outcome => ?_
  cases outcome with
  | ok a => exact hnext a
  | error fault => trivial

theorem asks_perform {allowed : Call ρ → Prop} {call : Call ρ} (h : allowed call) :
    (perform call).Asks allowed :=
  ⟨h, fun _ => trivial⟩

/-- A run makes allowed calls only. -/
theorem Asks.of_mem_exchanges {allowed : Call ρ → Prop} {client : Client ρ α}
    (h : client.Asks allowed) (service : Service ρ σ) (state : σ) :
    ∀ exchange ∈ (client.run service state).exchanges, allowed exchange.call := by
  induction client generalizing state with
  | done outcome =>
    intro exchange hmem
    simp at hmem
  | report event rest ih => exact ih h state
  | ask call resume ih =>
    intro exchange hmem
    rw [exchanges_ask, List.mem_cons] at hmem
    rcases hmem with rfl | hmem
    · exact h.1
    · exact ih _ (h.2 _) _ exchange hmem

theorem Straight.bind {client : Client ρ α} {next : α → Client ρ β}
    (hclient : client.Straight) (hnext : ∀ a, (next a).Straight) :
    (client >>= next).Straight := by
  induction client with
  | done outcome =>
    cases outcome with
    | ok a => exact hnext a
    | error fault => trivial
  | report event rest ih => exact ih hclient
  | ask call resume ih =>
    refine ⟨fun fault => ?_, fun a => ih (.ok a) (hclient.2 a)⟩
    change (resume (.error fault)).bind next = _
    rw [hclient.1 fault]
    rfl

theorem straight_perform (call : Call ρ) : (perform call).Straight :=
  ⟨fun _ => rfl, fun _ => trivial⟩

/-- In a run of a straight client only the last call may break off. -/
theorem Straight.pairwise_exchanges {client : Client ρ α} (h : client.Straight)
    (service : Service ρ σ) (state : σ) :
    (client.run service state).exchanges.Pairwise fun exchange _ => ¬exchange.BrokeOff := by
  induction client generalizing state with
  | done outcome => simp
  | report event rest ih => exact ih h state
  | ask call resume ih =>
    rw [exchanges_ask, List.pairwise_cons]
    refine ⟨?_, ?_⟩
    · rintro later hlater ⟨fault, hfault⟩
      rw [show (service.answer call state).1 = .error fault from hfault, h.1 fault] at hlater
      simp at hlater
    · cases hanswer : (service.answer call state).1 with
      | ok a => exact ih _ (h.2 a) _
      | error fault =>
        rw [h.1 fault]
        simp

/-- A straight client that ends with a result had an answer to every call. -/
theorem Straight.not_brokeOff {client : Client ρ α} {service : Service ρ σ} {state : σ} {a : α}
    (h : client.Straight) (houtcome : (client.run service state).outcome = .ok a) :
    ∀ exchange ∈ (client.run service state).exchanges, ¬exchange.BrokeOff := by
  induction client generalizing state with
  | done outcome =>
    intro exchange hmem
    simp at hmem
  | report event rest ih => exact ih h houtcome
  | ask call resume ih =>
    have hrest : ((resume (service.answer call state).1).run service
        (service.answer call state).2).outcome = .ok a := houtcome
    rw [exchanges_ask, List.forall_mem_cons]
    cases hanswer : (service.answer call state).1 with
    | error fault =>
      rw [hanswer, h.1 fault] at hrest
      cases hrest
    | ok answer =>
      rw [hanswer] at hrest
      exact ⟨not_brokeOff_ok answer, ih _ (h.2 answer) hrest⟩

end Client

open Client

/-! ## Creating clients -/

/-- The client makes one call, `call`, and its result is what the call handed
out.  It breaks off only if the call does. -/
def Acquires (call : Call ρ) (owner : γ → Guard ρ) (client : Client ρ (Option γ)) : Prop :=
  ∀ {σ : Type} (service : Service ρ σ) (state : σ),
    (client.run service state).exchanges = [⟨call, (service.answer call state).1⟩] ∧
      (client.run service state).state = (service.answer call state).2 ∧
      (⟨call, (service.answer call state).1⟩ : Exchange ρ).acquired? =
        (match (client.run service state).outcome with
        | .ok (some held) => some (owner held).reference
        | _ => none) ∧
      ∀ fault, (client.run service state).outcome = .error fault →
        (service.answer call state).1 = .error fault

theorem acquires_connect : Acquires (ρ := ρ) .createSession Session.guard Session.connect := by
  intro σ service state
  rw [Session.connect, perform_bind, run]
  rcases service.answer .createSession state with ⟨fault | _ | reference, next⟩ <;>
    exact ⟨rfl, rfl, rfl, fun _ h => by cases h <;> rfl⟩

theorem acquires_adoptNew :
    Acquires (ρ := ρ) .createSession id (do Guard.adopt (← perform .createSession)) := by
  intro σ service state
  rw [perform_bind, run]
  rcases service.answer .createSession state with ⟨fault | _ | reference, next⟩ <;>
    exact ⟨rfl, rfl, rfl, fun _ h => by cases h <;> rfl⟩

theorem acquires_resolve (session : Session ρ) (name : DeviceName) :
    Acquires (.createDisk session.guard.reference name) Disk.guard (session.resolve name) := by
  intro σ service state
  rw [Session.resolve, perform_bind, run]
  rcases service.answer (.createDisk session.guard.reference name) state with
    ⟨fault | _ | reference, next⟩ <;> exact ⟨rfl, rfl, rfl, fun _ h => by cases h <;> rfl⟩

theorem acquires_describe (disk : Disk ρ) :
    Acquires (.copyDescription disk.guard.reference) Description.guard disk.describe := by
  intro σ service state
  rw [Disk.describe, perform_bind, run]
  rcases service.answer (.copyDescription disk.guard.reference) state with
    ⟨fault | _ | reference, next⟩ <;> exact ⟨rfl, rfl, rfl, fun _ h => by cases h <;> rfl⟩

/-! ## The shape of a query -/

/-- Goes on from a result that is no error. -/
def Client.andThen {ε : Type} (client : Client ρ (Except ε α))
    (next : α → Client ρ (Except ε β)) : Client ρ (Except ε β) := do
  match ← client with
  | .ok a => next a
  | .error error => pure (.error error)

/-- Creates a reference and owns it while a body runs. -/
def Guard.owning (create : Client ρ (Option γ)) (owner : γ → Guard ρ)
    (absent : Client ρ α) (within : γ → Client ρ α) : Client ρ α := do
  match ← create with
  | some held => (owner held).holding (within held)
  | none => absent

/-- The answer of a query that reached a description. -/
def Description.lookup (name : DeviceName) (description : Description ρ) :
    Client ρ (Except QueryError Lookup) :=
  description.attributes.andThen fun attributes => do
    log (.resolved name)
    pure (.ok (.described attributes))

/-- A next client that makes no calls adds none, with errors too. -/
theorem Client.exchanges_andThen_of_silent {ε : Type} {service : Service ρ σ}
    {next : α → Client ρ (Except ε β)}
    (hsilent : ∀ a state, ((next a).run service state).exchanges = [])
    (client : Client ρ (Except ε α)) (state : σ) :
    ((client.andThen next).run service state).exchanges =
      (client.run service state).exchanges := by
  refine exchanges_bind_of_silent (fun result state => ?_) client state
  cases result with
  | ok a => exact hsilent a state
  | error error => rfl

theorem andThen_eq {ε : Type} {client : Client ρ (Except ε α)}
    {next : Except ε α → Client ρ (Except ε β)} {after : α → Client ρ (Except ε β)}
    (herror : ∀ error, next (.error error) = pure (.error error))
    (hok : ∀ a, next (.ok a) = after a) : client >>= next = client.andThen after := by
  unfold Client.andThen
  congr 1
  funext result
  cases result with
  | ok a => exact hok a
  | error error => exact herror error

theorem owning_eq {create : Client ρ (Option γ)} {owner : γ → Guard ρ} {absent : Client ρ α}
    {within : γ → Client ρ α} {next : Option γ → Client ρ α} (hnone : next none = absent)
    (hsome : ∀ held, next (some held) = (owner held).holding (within held)) :
    create >>= next = Guard.owning create owner absent within := by
  unfold Guard.owning
  congr 1
  funext created
  cases created with
  | none => exact hnone
  | some held => exact hsome held

theorem attributes_eq (description : Description ρ) :
    description.attributes =
      (description.boolean .mediaRemovable).andThen fun removable =>
        (description.text .deviceVendor).andThen fun vendor =>
          (description.text .deviceModel).andThen fun model =>
            pure (.ok ⟨removable, vendor.map trimmed, model.map trimmed⟩) := by
  refine andThen_eq (fun _ => rfl) fun removable => ?_
  refine andThen_eq (fun _ => rfl) fun vendor => ?_
  refine andThen_eq (fun _ => rfl) fun model => ?_
  rfl

/-- A query owns a session, then a disk, then a description. -/
theorem query_eq (name : DeviceName) :
    query (ρ := ρ) name =
      Guard.owning Session.connect Session.guard (pure (.ok .unavailable)) fun session =>
        Guard.owning (session.resolve name) Disk.guard (pure (.ok .notFound)) fun disk =>
          Guard.owning disk.describe Description.guard (pure (.ok (.described {})))
            (Description.lookup name) := by
  refine owning_eq rfl fun session => congrArg session.guard.holding ?_
  refine owning_eq rfl fun disk => congrArg disk.guard.holding ?_
  refine owning_eq rfl fun description => congrArg description.guard.holding ?_
  exact andThen_eq (fun _ => rfl) fun _ => rfl

theorem brokenQuery_eq (name : DeviceName) :
    brokenQuery (ρ := ρ) name =
      Guard.owning Session.connect Session.guard (abort .queryAborted) fun session =>
        Guard.owning (session.resolve name) Disk.guard (abort .queryAborted) fun disk =>
          Guard.owning disk.describe Description.guard (abort .queryAborted) fun _ =>
            abort .queryAborted := by
  refine owning_eq rfl fun session => congrArg session.guard.holding ?_
  refine owning_eq rfl fun disk => congrArg disk.guard.holding ?_
  exact owning_eq rfl fun description => rfl

/-- The run of a body whose guard gives its reference back. -/
theorem run_holding (service : Service ρ σ) (guard : Guard ρ) (body : Client ρ α) (state : σ) :
    (guard.holding body).run service state =
      let inner := body.run service state
      let released := service.answer (.release guard.reference) inner.state
      ⟨do
          let result ← inner.outcome
          released.1
          pure result,
        released.2,
        inner.actions ++ [.reported (.releasing guard.reference),
          .asked (.release guard.reference) released.1]⟩ := by
  rw [Guard.holding, run_attempt]
  rfl

/-- The calls of a body, and the release after them. -/
theorem exchanges_holding (service : Service ρ σ) (guard : Guard ρ) (body : Client ρ α)
    (state : σ) :
    ((guard.holding body).run service state).exchanges =
      (body.run service state).exchanges ++ [⟨.release guard.reference,
        (service.answer (.release guard.reference) (body.run service state).state).1⟩] := by
  rw [run_holding]
  simp only [Run.exchanges, List.filterMap_append]
  rfl

end DiskQuery
