import DiskQuery.Client.Query
import DiskQuery.Client.Run
import DiskQuery.Framework.Service
import DiskQuery.Worker.Detached

/-!
# Queries over the framework

A query on the calling thread shows the functions it called, the objects it
left alive, and its events.  A query on a worker shows nothing of that: the
calling thread only waits.
-/

namespace DiskQuery.Framework

/-- What the calling thread shows of a query. -/
structure Report where
  outcome : Except Fault (Except QueryError Lookup)
  calls : List NativeCall := []
  /-- The number of objects left alive. -/
  live : Nat := 0
  events : List (Event Reference) := []

namespace World

/-- A query over the framework of a world. -/
def run (world : World) (name : DeviceName) (framework : Framework) :
    Client.Run Reference Framework (Except QueryError Lookup) :=
  (query name).run world.service framework

/-- A query on the calling thread, and the framework after it. -/
def query (world : World) (name : DeviceName) (framework : Framework) :
    Report × Framework :=
  let run := world.run name framework
  let calls := run.state.calls.drop framework.calls.length
  (⟨run.outcome, calls, run.state.live, run.events⟩, run.state)

/-- A query on a worker, with a limit on the waiting. -/
def queryWithin (world : World) (name : DeviceName) (limit : Duration) : Report :=
  let start : Worker.Start := .unhindered world.hangs (world.run name {})
  let waited := (Worker.queryDetached world.service {} name start).settle name limit
  { outcome := .ok waited.result, events := waited.events }

end World

end DiskQuery.Framework
