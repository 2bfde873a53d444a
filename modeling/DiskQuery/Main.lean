import DiskQuery.Command.Host

/-!
# The program

The command over a host on which no session can be had.
-/

namespace DiskQuery

/-- Prints what a command leaves behind. -/
def Command.Output.print (output : Command.Output) : IO UInt32 := do
  let stdout ← IO.getStdout
  let stderr ← IO.getStderr
  stdout.putStr output.stdout
  stdout.flush
  stderr.putStr output.stderr
  pure output.exit.toUInt32

end DiskQuery

def main (arguments : List String) : IO UInt32 :=
  (DiskQuery.Command.onHost { world := { unavailable := true } } arguments).print
