import DiskQuery.Text.Quoted

/-!
# Device names

The name of a disk, such as `disk2s1`, as the service takes it: bytes without
a zero byte, because a zero byte ends the name.
-/

namespace DiskQuery

/-- The bytes of a device name. -/
structure DeviceName where
  bytes : List UInt8
  zero_notMem : 0 ∉ bytes
deriving DecidableEq, Repr

/-- Bytes that are no device name: the first zero byte stands at `position`. -/
structure ZeroByte where
  position : Nat
deriving DecidableEq, Repr

/-- The wording of a zero byte inside a name. -/
def ZeroByte.message (zero : ZeroByte) : String :=
  s!"nul byte found in provided data at position: {zero.position}"

namespace DeviceName

/-- The bytes as a device name, or the place of their first zero byte. -/
def ofBytes (bytes : List UInt8) : Except ZeroByte DeviceName :=
  if h : 0 ∈ bytes then .error ⟨bytes.idxOf 0⟩ else .ok ⟨bytes, h⟩

/-- The name that a text gives: its UTF-8 bytes, up to the first zero byte. -/
def ofText (text : String) : DeviceName :=
  ⟨(Text.Utf8.encode text.toList).takeWhile (· ≠ 0), fun h => by
    simpa using List.all_eq_true.1 List.all_takeWhile 0 h⟩

/-- The name as a text, or where its bytes stop being UTF-8. -/
def text (name : DeviceName) : Except Text.Utf8.Defect String :=
  (Text.Utf8.decode name.bytes).map String.ofList

/-- The name as a text in every case, ill-formed bytes replaced. -/
def lossyText (name : DeviceName) : String :=
  String.ofList (Text.Utf8.decodeLossy name.bytes)

/-- The name as one line of text in double quotes. -/
def quoted (name : DeviceName) : String :=
  Text.Quoted.ofBytes name.bytes

end DeviceName

end DiskQuery
