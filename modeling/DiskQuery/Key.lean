/-!
# Description keys

The entries of a disk description that a query reads.
-/

namespace DiskQuery

/-- A key of a disk description. -/
inductive Key where
  /-- A boolean: the medium can be taken out of the running system. -/
  | mediaRemovable
  /-- A text: the vendor that the device reports. -/
  | deviceVendor
  /-- A text: the model that the device reports. -/
  | deviceModel
deriving DecidableEq, Repr

/-- The name of a key in a disk description. -/
def Key.nativeName : Key → String
  | .mediaRemovable => "DAMediaRemovable"
  | .deviceVendor => "DADeviceVendor"
  | .deviceModel => "DADeviceModel"

end DiskQuery
