import DiskQuery.Native.Event
import DiskQuery.Native.Service

/-!
# Clients

A client is a tree: it reports events and makes native calls, and what it does
after a call depends on the answer.  Every branch ends with a result or a
fault.  The tree says nothing about the service, so one client runs over all
of them.

A fault of a call is handed to the client like an answer, because a client
that owns references has work to do before it ends.  `attempt` is the one
operation that sees faults; `bind` passes them on.
-/

namespace DiskQuery

/-- A client with results of type `α`. -/
inductive Client (ρ α : Type) where
  /-- The end. -/
  | done (outcome : Except Fault α)
  /-- Reports an event. -/
  | report (event : Event ρ) (next : Client ρ α)
  /-- Makes a call and goes on with its answer. -/
  | ask (call : Call ρ) (resume : Except Fault call.Answer → Client ρ α)

namespace Client

variable {ρ α β γ : Type}

/-- Goes on from the end of a client, fault or not. -/
def attempt : Client ρ α → (Except Fault α → Client ρ β) → Client ρ β
  | done outcome, next => next outcome
  | report event rest, next => report event (rest.attempt next)
  | ask call resume, next => ask call fun answer => (resume answer).attempt next

/-- Goes on from the result of a client.  A fault ends both. -/
def bind (client : Client ρ α) (next : α → Client ρ β) : Client ρ β :=
  client.attempt fun
    | .ok a => next a
    | .error fault => done (.error fault)

instance : Monad (Client ρ) where
  pure a := done (.ok a)
  bind := bind

/-- One call. -/
def perform (call : Call ρ) : Client ρ call.Answer :=
  ask call done

/-- One event. -/
def log (event : Event ρ) : Client ρ Unit :=
  report event (done (.ok ()))

/-- Breaks off. -/
def abort (fault : Fault) : Client ρ α :=
  done (.error fault)

@[simp] theorem attempt_report (event : Event ρ) (rest : Client ρ α)
    (next : Except Fault α → Client ρ β) :
    (report event rest).attempt next = report event (rest.attempt next) := rfl

@[simp] theorem attempt_ask (call : Call ρ) (resume : Except Fault call.Answer → Client ρ α)
    (next : Except Fault α → Client ρ β) :
    (ask call resume).attempt next = ask call fun answer => (resume answer).attempt next := rfl

/-- Going on twice is going on once. -/
theorem attempt_attempt (client : Client ρ α) (first : Except Fault α → Client ρ β)
    (second : Except Fault β → Client ρ γ) :
    (client.attempt first).attempt second =
      client.attempt fun outcome => (first outcome).attempt second := by
  induction client with
  | done outcome => rfl
  | report event rest ih => simp [ih]
  | ask call resume ih => simp [ih]

end Client

end DiskQuery
