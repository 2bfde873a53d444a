import DiskQuery.Client.Query
import DiskQuery.Client.Run
import DiskQuery.Lookup
import DiskQuery.QueryError
import DiskQuery.Worker.Exchange

/-!
# Detached queries

A call that has a job done on a worker, with a caller that waits for it up to a
limit.  The system may refuse to start a worker.  Then nothing of the job is
done, and the caller is told so at once.  If there is a worker, the three
verdicts of the exchange become the result of the caller: what the job returned,
or an error of the waiting itself.

`detached` has any job done.  `queryDetached` is a query as such a job, and every
query with a limit is a use of it.
-/

namespace DiskQuery.Worker

variable {ρ σ τ α : Type}

/-! ## Jobs -/

/-- How a job ends, if it does. -/
inductive Ending (α : Type) where
  | returned (result : α)
  | broken
  /-- It never ends. -/
  | stuck
deriving DecidableEq, Repr

/-- The job that ends that way in one step. -/
def Job.ofEnding : Job (Ending α) α
  | .returned result => (.returned result, .returned result)
  | .broken => (.broken, .broken)
  | .stuck => (.stuck, .working)

/-- A client at work: what is left of it, the state of its service, and what it
has done. -/
structure Ongoing (ρ σ α : Type) where
  client : Client ρ α
  state : σ
  actions : List (Client.Action ρ) := []

/-- The client at its start. -/
def Ongoing.start (client : Client ρ α) (state : σ) : Ongoing ρ σ α :=
  { client := client, state := state }

/-- The job that carries a client out over a service, an event or a call at a
time. -/
def Job.ofClient (service : Service ρ σ) : Job (Ongoing ρ σ α) α
  | ongoing =>
      match ongoing.client with
      | .done (.ok result) => (ongoing, .returned result)
      | .done (.error _) => (ongoing, .broken)
      | client =>
          match client.step service ongoing.state with
          | some (action, rest, state) =>
              (⟨rest, state, ongoing.actions ++ [action]⟩, .working)
          | none => (ongoing, .working)

/-! ## Results -/

/-- What the waiting thread has at the end: its result, and the events it
reported itself. -/
structure Waited (ρ : Type) where
  result : Except QueryError Lookup
  events : List (Event ρ) := []

/-- The result of a caller with that verdict. -/
def Waited.ofVerdict (name : DeviceName) (limit : Duration) :
    Verdict (Except QueryError Lookup) → Waited ρ
  | .received result => ⟨result, []⟩
  | .disconnected => ⟨.error .workerLost, []⟩
  | .timedOut =>
      ⟨.error (.timeout name.lossyText limit), [.abandoned name.lossyText limit]⟩

/-- The result of a caller that no worker was started for. -/
def Waited.refused (reason : String) : Waited ρ :=
  ⟨.error (.spawn reason), []⟩

/-- What a caller has, once it has gone away. -/
def Exchange.waited (name : DeviceName) (limit : Duration)
    (exchange : Exchange τ (Except QueryError Lookup)) : Option (Waited ρ) :=
  exchange.verdict.map (.ofVerdict name limit)

/-! ## Calls -/

/-- How the start of a worker goes. -/
inductive Start where
  /-- The system starts no worker. -/
  | refused (reason : String)
  /-- It starts one, and these are the moves that follow. -/
  | started (moves : List Move)
deriving DecidableEq, Repr

/-- The start of a worker that gets as far as a run takes it before the deadline,
or nowhere if it hangs.  After the last action of the run the job ends, the
result is sent, and the worker is gone. -/
def Start.unhindered (hangs : Bool) (run : Client.Run ρ σ α) : Start :=
  .started (List.replicate (if hangs then 0 else run.actions.length + 3) .work)

/-- A call that has a job done on a worker. -/
inductive Detached (τ α : Type) where
  /-- There is no worker, and the job was dropped as it was. -/
  | refused (job : τ) (reason : String)
  | started (exchange : Exchange τ α)

/-- Has a job done on a worker. -/
def detached (step : Job τ α) (job : τ) : Start → Detached τ α
  | .refused reason => .refused job reason
  | .started moves => .started ((Exchange.start job).run step moves)

namespace Detached

/-- The state of the job. -/
def job : Detached τ α → τ
  | .refused job _ => job
  | .started exchange => exchange.job

/-- What the caller has, absent while it waits.  Nobody waits without a
worker. -/
def waited (name : DeviceName) (limit : Duration) :
    Detached τ (Except QueryError Lookup) → Option (Waited ρ)
  | .refused _ reason => some (.refused reason)
  | .started exchange => exchange.waited name limit

/-- What the caller has after a look at the deadline. -/
def settle (name : DeviceName) (limit : Duration) :
    Detached τ (Except QueryError Lookup) → Waited ρ
  | .refused _ reason => .refused reason
  | .started exchange =>
      .ofVerdict name limit (exchange.expire.look.verdict.get (Exchange.isSome_verdict_look rfl))

end Detached

/-- A query on a worker.  The worker carries out the very query of the calling
thread, for the same name. -/
def queryDetached (service : Service ρ σ) (state : σ) (name : DeviceName) (start : Start) :
    Detached (Ongoing ρ σ (Except QueryError Lookup)) (Except QueryError Lookup) :=
  detached (Job.ofClient service) (.start (query name) state) start

end DiskQuery.Worker
