import DiskQuery.Client.Reading
import DiskQuery.Lookup
import DiskQuery.Text.Blank

/-!
# Queries

A query connects, resolves the disk, copies its description, reads three
attributes and gives everything back, the last reference first.
-/

namespace DiskQuery

open Client

variable {ρ : Type}

/-- A text without the blank characters at its end. -/
def trimmed (text : String) : String :=
  String.ofList (Text.trimEnd text.toList)

/-- The attributes of a description: the removable flag, the vendor and the
model, read in this order.  The first error ends the reading. -/
def Description.attributes (description : Description ρ) :
    Client ρ (Except QueryError Attributes) :=
  ExceptT.run do
    let removable ← ExceptT.mk (description.boolean .mediaRemovable)
    let vendor ← ExceptT.mk (description.text .deviceVendor)
    let model ← ExceptT.mk (description.text .deviceModel)
    pure ⟨removable, vendor.map trimmed, model.map trimmed⟩

/-- Looks a disk up and reads its attributes. -/
def query (name : DeviceName) : Client ρ (Except QueryError Lookup) := do
  let some session ← Session.connect | pure (.ok .unavailable)
  session.guard.holding do
    let some disk ← session.resolve name | pure (.ok .notFound)
    disk.guard.holding do
      let some description ← disk.describe | pure (.ok (.described {}))
      description.guard.holding do
        match ← description.attributes with
        | .error error => pure (.error error)
        | .ok attributes =>
            log (.resolved name)
            pure (.ok (.described attributes))

/-- Goes as far as a query can get before it reads, and breaks off there. -/
def brokenQuery (name : DeviceName) : Client ρ Unit := do
  let some session ← Session.connect | abort .queryAborted
  session.guard.holding do
    let some disk ← session.resolve name | abort .queryAborted
    disk.guard.holding do
      let some description ← disk.describe | abort .queryAborted
      description.guard.holding (abort .queryAborted)

end DiskQuery
