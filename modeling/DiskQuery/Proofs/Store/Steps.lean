import DiskQuery.Proofs.Store.Representation

/-!
# Calls one step at a time

`answer` gives the store after a call at once.  Here each call is a sequence of
checks and changes, and a fault in the middle keeps the changes before it.  The
same for a copy, which writes a buffer that is not its own.

There are three groups.

* Work.  `Work` is a computation on a state that a fault does not undo.
* Calls.  `calling` makes a call by single changes of the store, and
  `calling_on` says that they come to its answer.
* Copies.  `copyInto` writes a buffer in place, with every bound checked and every
  sum of sizes, and `copyInto_on` says that it comes to the answer of a copy.
-/

namespace DiskQuery.Store

/-! ## Work -/

/-- Work on a state.  A fault keeps what was done before it. -/
abbrev Work (σ α : Type) :=
  ExceptT Fault (StateM σ) α

namespace Work

variable {σ α β : Type}

/-- The outcome of work that begins in a state, and the state after it. -/
def on (work : Work σ α) (state : σ) : Except Fault α × σ :=
  work.run.run state

/-- Goes on with what was found, or breaks off. -/
def check : Except Fault α → Work σ α
  | .ok a => pure a
  | .error fault => throw fault

@[simp] theorem on_pure (a : α) (state : σ) : (pure a : Work σ α).on state = (.ok a, state) := rfl

@[simp] theorem on_get (state : σ) : (get : Work σ σ).on state = (.ok state, state) := rfl

@[simp] theorem on_set (next state : σ) : (set next : Work σ Unit).on state = (.ok (), next) := rfl

@[simp] theorem on_modify (change : σ → σ) (state : σ) :
    (modify change : Work σ Unit).on state = (.ok (), change state) := rfl

@[simp] theorem on_check (found : Except Fault α) (state : σ) :
    (check found).on state = (found, state) := by
  cases found <;> rfl

theorem on_bind (work : Work σ α) (next : α → Work σ β) (state : σ) :
    (work >>= next).on state =
      match work.on state with
      | (.ok a, after) => (next a).on after
      | (.error fault, after) => (.error fault, after) := by
  unfold on
  rw [ExceptT.run_bind, StateT.run_bind]
  rcases work.run.run state with ⟨fault | a, after⟩ <;> rfl

end Work

/-! ## Calls -/

namespace Work

/-- The next number. -/
def takeNumber : Work Store Nat := do
  modify fun store => { store with next := store.next + 1 }
  return (← get).next

/-- A new owned reference. -/
def own (object : Object) : Work Store Nat := do
  let reference ← takeNumber
  modify fun store => { store with owned := store.owned.insert reference object }
  modify fun store => { store with created := store.created + 1 }
  return reference

/-- Gives every entry of a dictionary a reference, in order. -/
def fill (dictionary : Nat) : List (Key × Value) → Work Store Unit
  | [] => pure ()
  | (key, value) :: entries => do
      let reference ← takeNumber
      modify fun store => { store with values := store.values.insert reference ⟨dictionary, value⟩ }
      modify fun store => { store with entries := store.entries.insert (dictionary, key) reference }
      fill dictionary entries

/-- Takes an owned reference away, and what belongs to it. -/
def disown (reference : Nat) : Work Store Unit := do
  match (← get).owned.find? reference with
  | none => throw (.releasedTwice reference)
  | some object =>
      modify fun store => { store with owned := store.owned.erase reference }
      if object.kind = .dictionary then
        modify fun store => { store with
          values := store.values.filter fun _ stored => decide (stored.dictionary ≠ reference) }
        modify fun store => { store with
          entries := store.entries.filter fun key _ => decide (key.1 ≠ reference) }
      modify fun store => { store with released := store.released ++ [object.kind] }

end Work

/-- A call, by single checks and changes. -/
def calling (world : World) : (call : Call Nat) → Work Store call.Answer
  | .createSession => do
      if world.unavailable then return none
      return some (← Work.own .session)
  | .createDisk session name => do
      Work.check ((← get).expectSession session)
      match name.text with
      | .ok text =>
          if (world.disk? text).isSome then return some (← Work.own (.disk text))
          return none
      | .error _ => return none
  | .copyDescription disk => do
      let name ← Work.check ((← get).expectDisk disk)
      match world.description? name with
      | some entries => do
          let dictionary ← Work.own (.dictionary name)
          Work.fill dictionary entries
          return some dictionary
      | none => return none
  | .value dictionary key => do
      Work.check ((← get).expectDictionary dictionary)
      return (← get).entries.find? (dictionary, key)
  | .boolean value => do
      return (← Work.check ((← get).expectValue value)).truth?
  | .textLength value => do
      return (← Work.check ((← get).expectValue value)).length?.map Int.ofNat
  | .maxSize length => return maxSize world length
  | .copyText value buffer => do
      return copyText world (← Work.check ((← get).expectValue value)) buffer
  | .release reference => Work.disown reference

open Work in
theorem on_own (object : Object) (store : Store) :
    (own object).on store = (.ok (store.next + 1), store.create object) := by
  simp only [own, takeNumber, on_bind, on_modify, on_get, on_pure]
  rfl

open Work in
theorem on_fill (dictionary : Nat) (entries : List (Key × Value)) (store : Store) :
    (fill dictionary entries).on store = (.ok (), entries.foldl (addEntry dictionary) store) := by
  induction entries generalizing store with
  | nil => rfl
  | cons entry entries ih =>
    simp only [fill, takeNumber, on_bind, on_modify, on_get, on_pure, ih]
    rfl

open Work in
theorem on_disown (reference : Nat) (store : Store) (world : World) :
    (disown reference).on store = answer world (.release reference) store := by
  simp only [disown, answer, writing, expectOwned, on_bind, on_get]
  cases hfind : store.owned.find? reference with
  | none => rfl
  | some object =>
    cases hkind : object.kind <;> simp [on_bind, remove, hkind]

open Work in
/-- Step by step, a call comes to its answer. -/
theorem calling_on (world : World) (call : Call Nat) (store : Store) :
    (calling world call).on store = answer world call store := by
  cases call with
  | createSession =>
    simp only [calling, answer, writing, createSession]
    split
    · rfl
    · simp only [on_bind, on_own, on_pure]
  | createDisk session name =>
    simp only [calling, answer, writing, createDisk, on_bind, on_get, on_check]
    cases store.expectSession session with
    | error fault => rfl
    | ok =>
      cases name.text with
      | error defect => rfl
      | ok text =>
        dsimp only
        split
        · simp only [on_bind, on_own, on_pure]
        · rfl
  | copyDescription disk =>
    simp only [calling, answer, writing, copyDescription, on_bind, on_get, on_check]
    cases store.expectDisk disk with
    | error fault => rfl
    | ok name =>
      dsimp only
      cases world.description? name with
      | none => rfl
      | some entries => simp only [on_bind, on_own, on_fill, on_pure]
  | release reference => exact on_disown reference store world
  | value dictionary key =>
    simp only [calling, answer, reading, on_bind, on_get, on_check]
    cases store.expectDictionary dictionary <;> rfl
  | boolean value | textLength value | copyText value buffer =>
    simp only [calling, answer, reading, on_bind, on_get, on_check]
    cases store.expectValue value <;> rfl
  | maxSize length => rfl

/-! ## Copies -/

namespace Work

/-- A sum of sizes, which has to be an unsigned 64-bit number. -/
def addSizes (first second : Nat) : Work (List UInt8) Nat :=
  if first + second < UInt64.size then pure (first + second)
  else throw .callAborted

/-- Writes bytes over those of a buffer from `start` on, and breaks off if they
reach beyond its end. -/
def overwrite (start : Nat) (bytes : List UInt8) : Work (List UInt8) Unit := do
  let buffer ← get
  if start + bytes.length ≤ buffer.length then
    set (buffer.take start ++ bytes ++ buffer.drop (start + bytes.length))
  else throw .callAborted

/-- Writes one byte over all of a buffer from `start` on, and breaks off if that
is beyond its end. -/
def overwriteAll (start : Nat) (byte : UInt8) : Work (List UInt8) Unit := do
  let buffer ← get
  if start ≤ buffer.length then
    set (buffer.take start ++ List.replicate (buffer.length - start) byte)
  else throw .callAborted

end Work

/-- Writes the bytes of a value, and what follows them. -/
def writeInto (world : World) (value : Value) (bytes : List UInt8) : Work (List UInt8) Bool := do
  Work.overwrite 0 bytes
  if world.copyUnterminated then
    Work.overwriteAll bytes.length 65
  else if value.isTerminated then
    Work.overwrite bytes.length [0]
  return true

/-- A copy of the value that a reference stands for, in place.  The state is the
buffer. -/
def copyInto (world : World) (store : Store) (reference : Nat) : Work (List UInt8) Bool := do
  let value ← Work.check (store.expectValue reference)
  match value.bytes? with
  | none => return false
  | some bytes =>
      if world.copyFails then return false
      let needed ← Work.addSizes bytes.length 1
      if (← get).length < needed then return false
      writeInto world value bytes

/-- The text that a reference stands for, if any, is held in memory: its length
is a signed 64-bit number. -/
def FitsMemory (store : Store) (reference : Nat) : Prop :=
  ∀ value bytes, store.expectValue reference = .ok value → value.bytes? = some bytes →
    (bytes.length : Int) < signedBound

section CopyInto

open Work

variable {bytes buffer : List UInt8}

theorem on_addSizes_one (h : (bytes.length : Int) < signedBound) (buffer : List UInt8) :
    (addSizes bytes.length 1).on buffer = (.ok (bytes.length + 1), buffer) := by
  have hsum : bytes.length + 1 < UInt64.size := by
    simp only [signedBound, UInt64.size] at h ⊢
    omega
  rw [addSizes, if_pos hsum, on_pure]

theorem on_overwrite {start : Nat} (h : start + bytes.length ≤ buffer.length) :
    (overwrite start bytes).on buffer =
      (.ok (), buffer.take start ++ bytes ++ buffer.drop (start + bytes.length)) := by
  simp only [overwrite, on_bind, on_get, if_pos h, on_set]

theorem on_overwriteAll {start : Nat} (h : start ≤ buffer.length) (byte : UInt8) :
    (overwriteAll start byte).on buffer =
      (.ok (), buffer.take start ++ List.replicate (buffer.length - start) byte) := by
  simp only [overwriteAll, on_bind, on_get, if_pos h, on_set]

/-- A buffer with room for one byte more takes all that is written. -/
theorem writeInto_on (world : World) (value : Value) (hroom : bytes.length < buffer.length) :
    (writeInto world value bytes).on buffer =
      (.ok true, bytes ++
        if world.copyUnterminated then List.replicate (buffer.drop bytes.length).length 65
        else if value.isTerminated then 0 :: (buffer.drop bytes.length).drop 1
        else buffer.drop bytes.length) := by
  have hfirst : 0 + bytes.length ≤ buffer.length := by omega
  -- the buffer keeps its length, so there is room for what follows the bytes
  have hlength : (bytes ++ buffer.drop bytes.length).length = buffer.length := by
    rw [List.length_append, List.length_drop]
    omega
  have hall : bytes.length ≤ (bytes ++ buffer.drop bytes.length).length := by omega
  have hlast : bytes.length + [(0 : UInt8)].length ≤
      (bytes ++ buffer.drop bytes.length).length := by
    rw [hlength, List.length_singleton]
    omega
  simp only [writeInto, on_bind, on_overwrite hfirst, List.take_zero, List.nil_append,
    Nat.zero_add]
  cases world.copyUnterminated with
  | true =>
    simp only [if_true, on_bind, on_overwriteAll hall, List.take_left', hlength, on_pure,
      List.length_drop]
  | false =>
    cases value.isTerminated with
    | true =>
      simp only [if_true, Bool.false_eq_true, if_false, on_bind, on_overwrite hlast, on_pure,
        List.take_left', List.drop_length_add_append, List.length_singleton, List.append_assoc,
        List.singleton_append]
    | false => simp only [Bool.false_eq_true, if_false, on_pure]

/-- In place, a copy comes to its answer, and a fault leaves the buffer as it
was. -/
theorem copyInto_on (world : World) {store : Store} {reference : Nat}
    (hfits : store.FitsMemory reference) (buffer : List UInt8) :
    (copyInto world store reference).on buffer =
      match (answer world (.copyText reference buffer) store).1 with
      | .ok (written, after) => (.ok written, after)
      | .error fault => (.error fault, buffer) := by
  simp only [copyInto, answer, reading, on_bind, on_check]
  cases hvalue : store.expectValue reference with
  | error fault => rfl
  | ok value =>
    dsimp only [Except.map]
    unfold copyText
    cases hbytes : value.bytes? with
    | none => rfl
    | some bytes =>
      dsimp only
      cases hcopies : world.copyFails with
      | true => simp
      | false =>
        have hsum := on_addSizes_one (hfits value bytes hvalue hbytes) buffer
        simp only [Bool.false_eq_true, if_false, false_or, on_bind, hsum, on_get]
        by_cases hroom : buffer.length < bytes.length + 1
        · simp only [if_pos hroom, on_pure]
        · rw [if_neg hroom, if_neg hroom, writeInto_on world value (by omega)]

end CopyInto

end DiskQuery.Store
