/-!
# Disk geometry

The size and the sector sizes of an open disk, asked of the kernel by control
requests on its file descriptor.  The requests are made one after another, and
the first that fails ends the question.
-/

namespace DiskQuery.Geometry

/-- A control request that reads one number.  All of them are in group `d`. -/
inductive Request where
  | blockSize
  | blockCount
  | physicalBlockSize
deriving DecidableEq, Repr

/-- The number of a request in its group. -/
def Request.number : Request → Nat
  | .blockSize => 24
  | .blockCount => 25
  | .physicalBlockSize => 77

/-- The first number that is no unsigned 64-bit number. -/
abbrev sizeBound : Nat := 18446744073709551616

/-- The size of the answer to a request, in bytes. -/
def Request.width : Request → Nat
  | .blockSize => 4
  | .blockCount => 8
  | .physicalBlockSize => 4

/-- A request on a file descriptor. -/
structure Ioctl where
  descriptor : Int
  request : Request
deriving DecidableEq, Repr

/-- Why a question about a disk has no answer. -/
inductive Failure where
  /-- The kernel refused a request, with that error number. -/
  | refused (code : Int)
  /-- The size of the disk is no unsigned 64-bit number. -/
  | sizeOverflow
deriving DecidableEq, Repr

/-- The wording of a failure.  The kernel gives a number and no words. -/
def Failure.message? : Failure → Option String
  | .refused _ => none
  | .sizeOverflow => some "Device size overflows u64"

/-- What the kernel does with each request: a number, or an error number. -/
abbrev Kernel := Ioctl → Except Int Nat

/-- The kernel that answers from a table of descriptors and request numbers.
A later entry hides the earlier ones.  A request that is not in the table is
not one of the device's: error 25. -/
def Kernel.ofTable (table : List ((Int × Nat) × Except Int Nat)) : Kernel := fun ioctl =>
  (table.reverse.lookup (ioctl.descriptor, ioctl.request.number)).getD (.error 25)

/-- A question: the requests made, and the answer. -/
abbrev Question (α : Type) := ExceptT Failure (StateM (List Ioctl)) α

/-- Makes one request.  The answer has the width of the request: higher bits of
the kernel's number are lost. -/
def read (kernel : Kernel) (descriptor : Int) (request : Request) : Question Nat := do
  let ioctl : Ioctl := ⟨descriptor, request⟩
  modify (· ++ [ioctl])
  match kernel ioctl with
  | .ok value => pure (value % (1 <<< (8 * request.width)))
  | .error code => throw (.refused code)

/-- The logical and the physical sector size of a disk, in bytes. -/
structure SectorSize where
  logical : Nat
  physical : Nat
deriving DecidableEq, Repr

/-- The size of a disk in bytes. -/
def deviceSize (kernel : Kernel) (descriptor : Int) : Question Nat := do
  let blockSize ← read kernel descriptor .blockSize
  let blockCount ← read kernel descriptor .blockCount
  if blockSize * blockCount < sizeBound then
    pure (blockSize * blockCount)
  else
    throw .sizeOverflow

/-- The sector sizes of a disk. -/
def deviceSectorSize (kernel : Kernel) (descriptor : Int) : Question SectorSize := do
  let logical ← read kernel descriptor .blockSize
  let physical ← read kernel descriptor .physicalBlockSize
  pure ⟨logical, physical⟩

/-- Makes the system read the partition table again.  The service watches the
disk by itself, so there is nothing to ask for. -/
def rereadPartitionTable : Question Unit :=
  pure ()

/-- The answer of a question, and the requests it made. -/
def ask {α : Type} (question : Question α) : Except Failure α × List Ioctl :=
  StateT.run (ExceptT.run question) []

end DiskQuery.Geometry
