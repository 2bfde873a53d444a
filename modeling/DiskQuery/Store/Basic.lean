import DiskQuery.Native.Service
import DiskQuery.Store.World
import DiskQuery.Table

/-!
# The reference store

An in-memory service.  References are numbers from one counter, which starts
at 1 and never goes back, so no reference is handed out twice.  The store keeps
the owned references with what they stand for, the values of every dictionary
that is alive, and the history that `created` and `released` sum up.

Every call first checks its reference.  A check that fails is a fault and
leaves the store as it is.
-/

namespace DiskQuery.Store

/-- What an owned reference stands for.  Disks and dictionaries know the name
of their disk. -/
inductive Object where
  | session
  | disk (name : String)
  | dictionary (name : String)
deriving DecidableEq, Repr

/-- The kind of an object. -/
def Object.kind : Object → Kind
  | .session => .session
  | .disk _ => .disk
  | .dictionary _ => .dictionary

/-- A value of a dictionary. -/
structure Stored where
  dictionary : Nat
  value : Value
deriving DecidableEq, Repr

end Store

/-- The references of an in-memory service. -/
structure Store where
  /-- The last number given out. -/
  next : Nat := 0
  /-- The owned references that are alive. -/
  owned : Table Nat Store.Object := {}
  /-- The value references that are alive. -/
  values : Table Nat Store.Stored := {}
  /-- The value reference of each dictionary and key. -/
  entries : Table (Nat × Key) Nat := {}
  /-- How many owned references were created. -/
  created : Nat := 0
  /-- The kinds of the owned references that were given back, in order. -/
  released : List Kind := []
deriving DecidableEq, Repr

namespace Store

/-! ## Checks -/

/-- The fault of a reference that does not stand for an object of `expected`
kind. -/
def misuse (store : Store) (reference : Nat) (expected : Kind) : Fault :=
  match store.owned.find? reference with
  | some object => .wrongKind reference object.kind expected
  | none => .usedAfterRelease reference

/-- Checks that a reference is a live session. -/
def expectSession (store : Store) (reference : Nat) : Except Fault Unit :=
  match store.owned.find? reference with
  | some .session => .ok ()
  | _ => .error (store.misuse reference .session)

/-- The name of the disk that a reference stands for. -/
def expectDisk (store : Store) (reference : Nat) : Except Fault String :=
  match store.owned.find? reference with
  | some (.disk name) => .ok name
  | _ => .error (store.misuse reference .disk)

/-- Checks that a reference is a live dictionary. -/
def expectDictionary (store : Store) (reference : Nat) : Except Fault Unit :=
  match store.owned.find? reference with
  | some (.dictionary _) => .ok ()
  | _ => .error (store.misuse reference .dictionary)

/-- The value that a reference stands for.  Its dictionary has to be alive. -/
def expectValue (store : Store) (reference : Nat) : Except Fault Value :=
  match store.values.find? reference with
  | some stored => do
      store.expectDictionary stored.dictionary
      pure stored.value
  | none => .error (.unknownValue reference)

/-- The kind of the owned reference that a release is given. -/
def expectOwned (store : Store) (reference : Nat) : Except Fault Kind :=
  match store.owned.find? reference with
  | some object => .ok object.kind
  | none => .error (.releasedTwice reference)

/-! ## Creation and release -/

/-- The store after it gave a new owned reference to an object. -/
def create (store : Store) (object : Object) : Store :=
  { store with
    next := store.next + 1
    owned := store.owned.insert (store.next + 1) object
    created := store.created + 1 }

/-- The store after it gave the next reference to an entry of a dictionary. -/
def addEntry (dictionary : Nat) (store : Store) (entry : Key × Value) : Store :=
  { store with
    next := store.next + 1
    values := store.values.insert (store.next + 1) ⟨dictionary, entry.2⟩
    entries := store.entries.insert (dictionary, entry.1) (store.next + 1) }

/-- A new session. -/
def createSession (world : World) (store : Store) : Option Nat × Store :=
  if world.unavailable then (none, store)
  else (some (store.next + 1), store.create .session)

/-- A new disk, absent if no disk has that name. -/
def createDisk (world : World) (name : DeviceName) (store : Store) : Option Nat × Store :=
  match name.text with
  | .ok text =>
      if (world.disk? text).isSome then (some (store.next + 1), store.create (.disk text))
      else (none, store)
  | .error _ => (none, store)

/-- A new dictionary with the entries of a disk's description, each under a
reference of its own, absent if the disk has no description. -/
def copyDescription (world : World) (name : String) (store : Store) : Option Nat × Store :=
  match world.description? name with
  | some entries =>
      let dictionary := store.next + 1
      (some dictionary,
        entries.foldl (addEntry dictionary) (store.create (.dictionary name)))
  | none => (none, store)

/-- The store after an object was given back.  The values of a dictionary go
with it. -/
def remove (store : Store) (reference : Nat) (kind : Kind) : Store :=
  let store :=
    { store with
      owned := store.owned.erase reference
      released := store.released ++ [kind] }
  match kind with
  | .dictionary =>
      { store with
        values := store.values.filter fun _ stored => decide (stored.dictionary ≠ reference)
        entries := store.entries.filter fun key _ => decide (key.1 ≠ reference) }
  | _ => store

/-! ## Texts -/

/-- The most UTF-8 bytes that `length` units take, or -1 if that is no signed
64-bit number. -/
def maxSize (world : World) (length : Int) : Int :=
  let size := length * 3
  if world.negativeMaxSize then -1
  else if -signedBound ≤ size ∧ size < signedBound then size
  else -1

/-- A copy of a value into a buffer.  A copy that fails leaves the buffer as it
is. -/
def copyText (world : World) (value : Value) (buffer : List UInt8) : Bool × List UInt8 :=
  match value.bytes? with
  | none => (false, buffer)
  | some bytes =>
      if world.copyFails ∨ buffer.length < bytes.length + 1 then
        (false, buffer)
      else
        let rest := buffer.drop bytes.length
        let tail :=
          if world.copyUnterminated then List.replicate rest.length 65
          else if value.isTerminated then 0 :: rest.drop 1
          else rest
        (true, bytes ++ tail)

/-! ## The service -/

/-- A call that reads the store, after its check. -/
def reading {α β : Type} (store : Store) (check : Except Fault α) (answer : α → β) :
    Except Fault β × Store :=
  (check.map answer, store)

/-- A call that changes the store, after its check. -/
def writing {α β : Type} (store : Store) (check : Except Fault α)
    (change : α → Store → β × Store) : Except Fault β × Store :=
  match check with
  | .ok a =>
      let result := change a store
      (.ok result.1, result.2)
  | .error fault => (.error fault, store)

/-- The answer of the store to a call. -/
def answer (world : World) : (call : Call Nat) → Store → Except Fault call.Answer × Store
  | .createSession, store =>
      store.writing (.ok ()) fun () => createSession world
  | .createDisk session name, store =>
      store.writing (store.expectSession session) fun () => createDisk world name
  | .copyDescription disk, store =>
      store.writing (store.expectDisk disk) (copyDescription world)
  | .value dictionary key, store =>
      store.reading (store.expectDictionary dictionary) fun () =>
        store.entries.find? (dictionary, key)
  | .boolean value, store =>
      store.reading (store.expectValue value) Value.truth?
  | .textLength value, store =>
      store.reading (store.expectValue value) fun value => value.length?.map Int.ofNat
  | .maxSize length, store =>
      store.reading (.ok ()) fun () => maxSize world length
  | .copyText value buffer, store =>
      store.reading (store.expectValue value) fun value => copyText world value buffer
  | .release reference, store =>
      store.writing (store.expectOwned reference) fun kind store =>
        ((), store.remove reference kind)

/-- Whether an owned reference is alive. -/
def isLive (store : Store) (reference : Nat) : Bool :=
  (store.owned.find? reference).isSome

/-- The number of owned references that are alive. -/
def live (store : Store) : Nat :=
  store.owned.size

end Store

/-- The in-memory service of a world. -/
def Store.World.service (world : Store.World) : Service Nat Store :=
  ⟨Store.answer world⟩

end DiskQuery
