import DiskQuery.Command.Report
import DiskQuery.Worker.Host

/-!
# The command on a host

The command asks for each disk by a query on a worker, and waits for it as
long as its options say.
-/

namespace DiskQuery.Command

/-- The output of the command on a host. -/
def onHost (host : Worker.Host) (arguments : List String) : Output :=
  Id.run <| run (fun seconds disk =>
    pure (host.queryWithin (.ofText disk) (.ofSeconds seconds)).result) arguments

end DiskQuery.Command
