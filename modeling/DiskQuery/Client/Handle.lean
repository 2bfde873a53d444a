import DiskQuery.Client.Basic

/-!
# Handles

A guard owns one counted reference.  It comes from a call that handed the
reference out, so there is never an absent one to give back.  Sessions, disks
and descriptions are guards under the name of what they own.

`Guard.holding` is the rule of ownership: whatever way the body ends, the
guard gives its reference back once, after the body and before anything else.
-/

namespace DiskQuery

/-- The owner of one counted reference. -/
structure Guard (ρ : Type) where
  reference : ρ
deriving DecidableEq, Repr

/-- A session with the service. -/
structure Session (ρ : Type) where
  guard : Guard ρ
deriving DecidableEq, Repr

/-- A disk, for as long as the session it came from. -/
structure Disk (ρ : Type) where
  guard : Guard ρ
deriving DecidableEq, Repr

/-- The description of a disk.  It stays good without the disk. -/
structure Description (ρ : Type) where
  guard : Guard ρ
deriving DecidableEq, Repr

open Client

variable {ρ α : Type}

namespace Guard

/-- Takes over what a call handed out. -/
def adopt : Option ρ → Client ρ (Option (Guard ρ))
  | none => pure none
  | some reference => do
      log (.acquired reference)
      pure (some ⟨reference⟩)

/-- Gives the reference back. -/
def release (guard : Guard ρ) : Client ρ Unit := do
  log (.releasing guard.reference)
  perform (.release guard.reference)

/-- Runs a body and gives the reference back, also after a fault.  A fault of
the body wins over one of the release. -/
def holding (guard : Guard ρ) (body : Client ρ α) : Client ρ α :=
  body.attempt fun outcome =>
    guard.release.attempt fun released =>
      done do
        let result ← outcome
        released
        pure result

end Guard

namespace Session

/-- A new session, absent if the service is out of reach. -/
def connect : Client ρ (Option (Session ρ)) := do
  match ← Guard.adopt (← perform .createSession) with
  | some guard => pure (some ⟨guard⟩)
  | none =>
      log .sessionUnavailable
      pure none

/-- The disk of that name, absent if there is none now.  The service gets the
name as it is. -/
def resolve (session : Session ρ) (name : DeviceName) : Client ρ (Option (Disk ρ)) := do
  match ← Guard.adopt (← perform (.createDisk session.guard.reference name)) with
  | some guard => pure (some ⟨guard⟩)
  | none =>
      log (.noSuchDisk name)
      pure none

end Session

/-- The description of a disk, absent if it has none now. -/
def Disk.describe (disk : Disk ρ) : Client ρ (Option (Description ρ)) := do
  match ← Guard.adopt (← perform (.copyDescription disk.guard.reference)) with
  | some guard => pure (some ⟨guard⟩)
  | none =>
      log .noDescription
      pure none

end DiskQuery
