/-!
# What a query answers

The attributes of a disk, and the three answers of a query that met nothing
wrong.
-/

namespace DiskQuery

/-- What a disk reports about itself.  An absent attribute is one that the
disk does not report. -/
structure Attributes where
  removable : Option Bool := none
  vendor : Option String := none
  model : Option String := none
deriving DecidableEq, Repr

/-- The answer of a query. -/
inductive Lookup where
  /-- The disk is there; it may report nothing. -/
  | described (attributes : Attributes)
  /-- No disk has that name. -/
  | notFound
  /-- The service was out of reach, so no disk was looked up. -/
  | unavailable
deriving DecidableEq, Repr

/-- The attributes of an answer: none at all for a missing disk, and absent
only if the service was out of reach. -/
def Lookup.toAttributes : Lookup → Option Attributes
  | .described attributes => some attributes
  | .notFound => some {}
  | .unavailable => none

/-- The word for an answer. -/
def Lookup.status : Lookup → String
  | .described _ => "described"
  | .notFound => "not_found"
  | .unavailable => "unavailable"

end DiskQuery
