import DiskQuery.Store.Basic
import DiskQuery.Worker.Detached

/-!
# Hosts

A host is a world whose service may also break off or never answer: a look-up
of one of the names in `abortsOn` breaks off, and on a host that hangs no
session is ever opened.  Every query opens a session first, so on such a host
no query ends.  The system of a host may also start no worker.
-/

namespace DiskQuery.Worker

/-- A world with calls that break off or never end. -/
structure Host where
  world : Store.World
  hangs : Bool := false
  /-- The device names whose look-up breaks off. -/
  abortsOn : List (List UInt8) := []
  /-- Why no worker is started, absent if one is. -/
  refusal : Option String := none

namespace Host

/-- The service of a host.  A look-up that breaks off leaves the store as it
is. -/
def service (host : Host) : Service Nat Store where
  answer
    | .createDisk session name, store =>
        if name.bytes ∈ host.abortsOn then (.error .callAborted, store)
        else host.world.service.answer (.createDisk session name) store
    | call, store => host.world.service.answer call store

/-- A query on the calling thread of a host that answers. -/
def run (host : Host) (name : DeviceName) :
    Client.Run Nat Store (Except QueryError Lookup) :=
  (query name).run host.service {}

/-- How the start of a worker for a query goes. -/
def start (host : Host) (name : DeviceName) : Start :=
  match host.refusal with
  | some reason => .refused reason
  | none => .unhindered host.hangs (host.run name)

/-- A query on a worker, with a limit on the waiting. -/
def queryWithin (host : Host) (name : DeviceName) (limit : Duration) : Waited Nat :=
  (queryDetached host.service {} name (host.start name)).settle name limit

end Host

end DiskQuery.Worker
