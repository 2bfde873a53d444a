/-!
# Faults

A fault ends a client at once: it is the answer of a native call that was
asked for something it must not be asked for, or that broke off.
-/

namespace DiskQuery

/-- The kinds of counted native references. -/
inductive Kind where
  | session
  | disk
  | dictionary
deriving DecidableEq, Repr

/-- The word for a kind. -/
def Kind.word : Kind → String
  | .session => "Session"
  | .disk => "Disk"
  | .dictionary => "Dictionary"

/-- Why a client broke off. -/
inductive Fault where
  /-- A call was given a reference that is not alive. -/
  | usedAfterRelease (reference : Nat)
  /-- A call was given a live reference of another kind. -/
  | wrongKind (reference : Nat) (actual expected : Kind)
  /-- A release was given a reference that is not alive. -/
  | releasedTwice (reference : Nat)
  /-- A read was given a reference to no value. -/
  | unknownValue (reference : Nat)
  /-- A native call broke off by itself. -/
  | callAborted
  /-- The client broke off by itself. -/
  | queryAborted
deriving DecidableEq, Repr

/-- The wording of a fault. -/
def Fault.message : Fault → String
  | usedAfterRelease r => s!"reference {r} used after release"
  | wrongKind r actual expected =>
      s!"reference {r} is a {actual.word}, expected {expected.word}"
  | releasedTwice r => s!"reference {r} released twice or never created"
  | unknownValue r => s!"unknown value reference {r}"
  | callAborted => "native call aborted"
  | queryAborted => "query aborted"

end DiskQuery
