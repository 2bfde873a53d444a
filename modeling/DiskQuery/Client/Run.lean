import DiskQuery.Client.Basic

/-!
# Running clients

A client runs over a service to its end (`run`), or one event or call at a
time (`step`).  Both record what the client does.

`run_attempt` and its relatives say that a run is made of the runs of its
parts: the second part starts in the state that the first one left.
-/

namespace DiskQuery

namespace Client

variable {ρ σ α β : Type}

/-! ## Records -/

/-- What a client does, in order: events, and calls with their answers. -/
inductive Action (ρ : Type) where
  | reported (event : Event ρ)
  | asked (call : Call ρ) (answer : Except Fault call.Answer)

/-- The event of an action, if it is one. -/
def Action.event? : Action ρ → Option (Event ρ)
  | .reported event => some event
  | .asked _ _ => none

/-- A finished run: how the client ended, the state it left the service in,
and what it did. -/
structure Run (ρ σ α : Type) where
  outcome : Except Fault α
  state : σ
  actions : List (Action ρ)

/-- The events of a run. -/
def Run.events (run : Run ρ σ α) : List (Event ρ) :=
  run.actions.filterMap Action.event?

/-- The same run, with one action before it. -/
def Run.after (action : Action ρ) (run : Run ρ σ α) : Run ρ σ α :=
  { run with actions := action :: run.actions }

/-! ## Runs -/

/-- Runs a client over a service. -/
def run (service : Service ρ σ) : Client ρ α → σ → Run ρ σ α
  | done outcome, state => ⟨outcome, state, []⟩
  | report event next, state => (next.run service state).after (.reported event)
  | ask call resume, state =>
      let (answer, state) := service.answer call state
      ((resume answer).run service state).after (.asked call answer)

/-- One event or one call of a client, absent if it has ended. -/
def step (service : Service ρ σ) : Client ρ α → σ → Option (Action ρ × Client ρ α × σ)
  | done _, _ => none
  | report event next, state => some (.reported event, next, state)
  | ask call resume, state =>
      let (answer, state) := service.answer call state
      some (.asked call answer, resume answer, state)

/-! ## Runs of parts -/

/-- Runs of two parts as one: the end of the second, and what both did. -/
def Run.followedBy (first : Run ρ σ α) (second : Run ρ σ β) : Run ρ σ β :=
  { second with actions := first.actions ++ second.actions }

@[simp] theorem run_done (service : Service ρ σ) (outcome : Except Fault α) (state : σ) :
    (done outcome).run service state = ⟨outcome, state, []⟩ := rfl

/-- A client that goes on after another runs where the other one ended. -/
theorem run_attempt (service : Service ρ σ) (client : Client ρ α)
    (next : Except Fault α → Client ρ β) (state : σ) :
    (client.attempt next).run service state =
      (client.run service state).followedBy
        ((next (client.run service state).outcome).run service
          (client.run service state).state) := by
  induction client generalizing state with
  | done outcome => rfl
  | report event rest ih => simp only [attempt_report, run, ih]; rfl
  | ask call resume ih => simp only [attempt_ask, run, ih]; rfl

/-- After a result, the next client runs. -/
theorem run_bind_of_ok {service : Service ρ σ} {client : Client ρ α} {state : σ} {a : α}
    (next : α → Client ρ β) (h : (client.run service state).outcome = .ok a) :
    (client >>= next).run service state =
      (client.run service state).followedBy
        ((next a).run service (client.run service state).state) := by
  change (client.attempt _).run service state = _
  rw [run_attempt, h]

/-- After a fault, nothing runs. -/
theorem run_bind_of_error {service : Service ρ σ} {client : Client ρ α} {state : σ}
    {fault : Fault} (next : α → Client ρ β)
    (h : (client.run service state).outcome = .error fault) :
    (client >>= next).run service state =
      ⟨.error fault, (client.run service state).state, (client.run service state).actions⟩ := by
  change (client.attempt _).run service state = _
  rw [run_attempt, h]
  simp [Run.followedBy]

end Client

end DiskQuery
