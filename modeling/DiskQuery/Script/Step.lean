import DiskQuery.Client.Query
import DiskQuery.Client.Run
import DiskQuery.Script.Handle
import DiskQuery.Store.Basic

/-!
# Steps of a script

A script drives one store through named handles, whole queries and bare calls.
A step is first planned: its slots and its name are checked, and a step that
fails a check is refused and does nothing.  A step that was planned runs a
client, and its reply says how that ended.
-/

namespace DiskQuery.Script

/-- One step of a script.  `into` is the slot of a new handle, `on` the slot of
the handle to use. -/
inductive Step where
  | connect (into : Slot)
  | resolve (on : Slot) (name : List UInt8) (into : Slot)
  | describe (on into : Slot)
  | boolean (on : Slot) (key : Key)
  | text (on : Slot) (key : Key)
  /-- Guards a reference that the script names, whatever it stands for. -/
  | adopt (reference : Option Nat) (into : Slot)
  /-- Guards the reference of a new session. -/
  | adoptNew (into : Slot)
  /-- The reference of a handle. -/
  | reference (on : Slot)
  /-- The text of a handle. -/
  | form (on : Slot)
  | move (on into : Slot)
  | drop (on : Slot)
  | query (name : List UInt8)
  /-- A query that breaks off before it reads. -/
  | brokenQuery (name : List UInt8)
  /-- A bare call for a disk. -/
  | createDisk (session : Nat) (name : List UInt8)
  /-- A bare call. -/
  | call (call : Call Nat)
  /-- Whether an owned reference is alive. -/
  | isLive (reference : Nat)
deriving Repr

/-- Why a step is not planned. -/
inductive Refusal where
  /-- The slot for the new handle holds one. -/
  | slotTaken
  /-- The slot to use holds no handle. -/
  | noSuchSlot
  /-- The slot to use holds a handle of another kind. -/
  | wrongSlot
  /-- The session has lent to a handle that is still held. -/
  | borrowed
deriving DecidableEq, Repr

/-- What a step answers. -/
inductive Reply where
  | refused (refusal : Refusal)
  /-- The bytes are no device name. -/
  | zeroByte (zero : ZeroByte)
  /-- The step broke off. -/
  | fault (fault : Fault)
  | error (error : QueryError)
  | lookup (lookup : Lookup)
  /-- There is nothing to say, or nothing there. -/
  | nothing
  | truth (truth : Bool)
  | number (number : Int)
  | text (text : String)
  /-- A copy, and the buffer after it. -/
  | copied (succeeded : Bool) (buffer : List UInt8)
deriving DecidableEq, Repr

namespace Reply

/-- The reply to a reading that may find nothing. -/
def ofOption {α : Type} (reply : α → Reply) : Option α → Reply
  | some a => reply a
  | none => nothing

/-- The reply to a reading that may fail. -/
def ofExcept {α : Type} (reply : α → Reply) : Except QueryError α → Reply
  | .ok a => reply a
  | .error e => error e

/-- The reply to a bare call. -/
def ofAnswer : (call : Call Nat) → call.Answer → Reply
  | .createSession, reference => ofOption (fun r => number (Int.ofNat r)) reference
  | .createDisk _ _, reference => ofOption (fun r => number (Int.ofNat r)) reference
  | .copyDescription _, reference => ofOption (fun r => number (Int.ofNat r)) reference
  | .value _ _, reference => ofOption (fun r => number (Int.ofNat r)) reference
  | .boolean _, found => ofOption truth found
  | .textLength _, length => ofOption number length
  | .maxSize _, size => number size
  | .copyText _ _, result => copied result.1 result.2
  | .release _, () => nothing

end Reply

/-- A script under way: the store, and the handles held over it. -/
structure State where
  store : Store := {}
  held : Held := []
deriving Repr

/-- How a step ended: its reply, the state after it, and what it did. -/
structure Outcome where
  reply : Reply
  state : State
  actions : List (Client.Action Nat) := []

/-- The events of a step. -/
def Outcome.events (outcome : Outcome) : List (Event Nat) :=
  outcome.actions.filterMap Client.Action.event?

namespace State

/-! ## Checks -/

/-- Refuses a slot that holds a handle. -/
def vacant (state : State) (slot : Slot) : Except Reply Unit :=
  if (state.held.find? slot).isSome then .error (.refused .slotTaken) else .ok ()

/-- The handle in a slot. -/
def handle (state : State) (slot : Slot) : Except Reply Handle :=
  match state.held.find? slot with
  | some handle => .ok handle
  | none => .error (.refused .noSuchSlot)

/-- The session in a slot. -/
def session (state : State) (slot : Slot) : Except Reply (Session Nat) := do
  match ← state.handle slot with
  | .session session => pure session
  | _ => .error (.refused .wrongSlot)

/-- The disk in a slot, with the session that lent it. -/
def disk (state : State) (slot : Slot) : Except Reply (Disk Nat × Nat) := do
  match ← state.handle slot with
  | .disk disk lender => pure (disk, lender)
  | _ => .error (.refused .wrongSlot)

/-- The description in a slot. -/
def description (state : State) (slot : Slot) : Except Reply (Description Nat) := do
  match ← state.handle slot with
  | .description description _ => pure description
  | _ => .error (.refused .wrongSlot)

/-- Refuses a handle that lends to another. -/
def unlent (state : State) (handle : Handle) : Except Reply Unit :=
  if state.held.isLending handle then .error (.refused .borrowed) else .ok ()

/-- The bytes as a device name. -/
def name (bytes : List UInt8) : Except Reply DeviceName :=
  (DeviceName.ofBytes bytes).mapError .zeroByte

/-! ## Effects -/

/-- The state with one more handle, the last acquired. -/
def hold (state : State) (slot : Slot) (handle : Handle) : State :=
  { state with held := state.held ++ [(slot, handle)] }

/-- The state without the handle in a slot. -/
def lose (state : State) (slot : Slot) : State :=
  { state with held := state.held.without slot }

/-- Runs a client.  `finish` turns its result into a reply and may change what
is held; a fault changes nothing that is held. -/
def running {α : Type} (state : State) (world : Store.World) (client : Client Nat α)
    (finish : α → State → Reply × State) : Outcome :=
  let run := client.run world.service state.store
  let after := { state with store := run.state }
  match run.outcome with
  | .ok a =>
      let finished := finish a after
      ⟨finished.1, finished.2, run.actions⟩
  | .error fault => ⟨.fault fault, after, run.actions⟩

/-- Runs a client that only answers. -/
def asking {α : Type} (state : State) (world : Store.World) (client : Client Nat α)
    (reply : α → Reply) : Outcome :=
  state.running world client fun a state => (reply a, state)

/-- Runs a client that may create a handle, and holds what it created. -/
def creating {α : Type} (state : State) (world : Store.World)
    (client : Client Nat (Option α)) (into : Slot) (handle : α → Handle) : Outcome :=
  state.running world client fun
    | some a, state => (.truth true, state.hold into (handle a))
    | none, state => (.truth false, state)

/-- Gives a handle back.  Its slot is empty afterwards, also after a fault. -/
def releasing (state : State) (world : Store.World) (slot : Slot) (handle : Handle) :
    Outcome :=
  (state.lose slot).asking world handle.owner.release fun () => .nothing

/-! ## Steps -/

/-- The outcome of a step, or why it is refused. -/
def plan (world : Store.World) (state : State) : Step → Except Reply Outcome
  | .connect into => do
      state.vacant into
      pure (state.creating world Session.connect into .session)
  | .resolve on bytes into => do
      state.vacant into
      let name ← State.name bytes
      let session ← state.session on
      pure (state.creating world (session.resolve name) into
        fun disk => .disk disk session.guard.reference)
  | .describe on into => do
      state.vacant into
      let (disk, lender) ← state.disk on
      pure (state.creating world disk.describe into
        fun description => .description description lender)
  | .boolean on key => do
      let description ← state.description on
      pure (state.asking world (description.boolean key)
        (.ofExcept (.ofOption .truth)))
  | .text on key => do
      let description ← state.description on
      pure (state.asking world (description.text key)
        (.ofExcept (.ofOption .text)))
  | .adopt reference into => do
      state.vacant into
      pure (state.creating world (Guard.adopt reference) into .guard)
  | .adoptNew into => do
      state.vacant into
      let client : Client Nat (Option (Guard Nat)) := do
        Guard.adopt (← Client.perform .createSession)
      pure (state.creating world client into .guard)
  | .reference on => do
      match (← state.handle on).visibleReference? with
      | some reference => pure ⟨.number (Int.ofNat reference), state, []⟩
      | none => .error (.refused .wrongSlot)
  | .form on => do
      pure ⟨.text (← state.handle on).form, state, []⟩
  | .move on into => do
      let handle ← state.handle on
      state.vacant into
      state.unlent handle
      pure ⟨.truth true, (state.lose on).hold into handle, []⟩
  | .drop on => do
      let handle ← state.handle on
      state.unlent handle
      pure (state.releasing world on handle)
  | .query bytes => do
      let name ← State.name bytes
      pure (state.asking world (DiskQuery.query name) (.ofExcept .lookup))
  | .brokenQuery bytes => do
      let name ← State.name bytes
      pure (state.asking world (DiskQuery.brokenQuery name) fun () => .nothing)
  | .createDisk session bytes => do
      let name ← State.name bytes
      let call := Call.createDisk session name
      pure (state.asking world (Client.perform call) (.ofAnswer call))
  | .call call =>
      pure (state.asking world (Client.perform call) (.ofAnswer call))
  | .isLive reference =>
      pure ⟨.truth (state.store.isLive reference), state, []⟩

/-- The outcome of a step.  A step that is refused changes nothing. -/
def step (world : Store.World) (state : State) (step : Step) : Outcome :=
  match state.plan world step with
  | .ok outcome => outcome
  | .error reply => ⟨reply, state, []⟩

/-- Gives the handle acquired last back, absent if none is held. -/
def exitStep (world : Store.World) (state : State) : Option (Slot × Outcome) :=
  state.held.getLast?.map fun (slot, handle) =>
    (slot, state.releasing world slot handle)

end State

end DiskQuery.Script
