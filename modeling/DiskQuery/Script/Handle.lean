import DiskQuery.Client.Handle

/-!
# Held handles

The handles that a script holds, each in a slot of its own name.  A disk or a
description knows the session that lent it: as long as one of them is held,
the session may neither be given back nor move to another slot.
-/

namespace DiskQuery.Script

/-- The name of a slot. -/
abbrev Slot := String

/-- A handle over numbered references.  `lender` is the reference of the
session that a disk or a description came through. -/
inductive Handle where
  | guard (guard : Guard Nat)
  | session (session : Session Nat)
  | disk (disk : Disk Nat) (lender : Nat)
  | description (description : Description Nat) (lender : Nat)
deriving DecidableEq, Repr

namespace Handle

/-- The guard of a handle. -/
def owner : Handle → Guard Nat
  | .guard owner => owner
  | .session handle => handle.guard
  | .disk handle _ => handle.guard
  | .description handle _ => handle.guard

/-- The session that lent a handle. -/
def lender? : Handle → Option Nat
  | .disk _ lender => some lender
  | .description _ lender => some lender
  | _ => none

/-- The reference of a handle that lets it be seen.  A description does
not. -/
def visibleReference? : Handle → Option Nat
  | .description _ _ => none
  | handle => some handle.owner.reference

/-- A guard as text. -/
def guardForm (guard : Guard Nat) : String :=
  s!"Owned({guard.reference})"

/-- A handle as text: a guard, or the word for the handle and the guard
inside. -/
def form : Handle → String
  | .guard owner => guardForm owner
  | .session handle => wrapped "Session" handle.guard
  | .disk handle _ => wrapped "Disk" handle.guard
  | .description handle _ => wrapped "Description" handle.guard
where
  /-- A guard inside a handle of that word. -/
  wrapped (word : String) (guard : Guard Nat) : String :=
    word ++ " \x7b inner: " ++ guardForm guard ++ " \x7d"

end Handle

/-- The handles of a script, in the order they were acquired. -/
abbrev Held := List (Slot × Handle)

namespace Held

/-- The handle in a slot. -/
def find? (held : Held) (slot : Slot) : Option Handle :=
  List.lookup slot held

/-- The handles without the one in a slot. -/
def without (held : Held) (slot : Slot) : Held :=
  held.filter fun entry => entry.1 ≠ slot

/-- Whether a handle lends to one that is held.  Only a session lends. -/
def isLending (held : Held) : Handle → Bool
  | .session session =>
      held.any fun entry => entry.2.lender? == some session.guard.reference
  | _ => false

end Held

end DiskQuery.Script
