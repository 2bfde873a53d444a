import DiskQuery.Script.Step

/-!
# Reports of a script

What a script shows after each step: the reply, the counters of the store, the
kinds given back during the step, and its events.  At its end a script gives
every handle back that it still holds, the last acquired first, and reports
each.
-/

namespace DiskQuery.Script

/-- What a script shows after a step. -/
structure Report where
  reply : Reply
  /-- How many owned references the store has created. -/
  created : Nat
  /-- How many of them are alive. -/
  live : Nat
  /-- The kinds given back during the step, in order. -/
  released : List Kind
  events : List (Event Nat)
deriving Repr

/-- The report of a step that began in state `before`. -/
def Report.of (before : State) (outcome : Outcome) : Report where
  reply := outcome.reply
  created := outcome.state.store.created
  live := outcome.state.store.live
  released := outcome.state.store.released.drop before.store.released.length
  events := outcome.events

namespace State

/-- The reports of a list of steps, and the state after them. -/
def run (world : Store.World) (state : State) : List Step → List Report × State
  | [] => ([], state)
  | step :: rest =>
      let outcome := state.step world step
      let (reports, last) := outcome.state.run world rest
      (Report.of state outcome :: reports, last)

/-- Gives `count` handles back, the last acquired first, with the slot and the
report of each. -/
def exit (world : Store.World) : Nat → State → List (Slot × Report)
  | 0, _ => []
  | count + 1, state =>
      match state.exitStep world with
      | some (slot, outcome) =>
          (slot, Report.of state outcome) :: outcome.state.exit world count
      | none => []

/-- Gives every handle back. -/
def exitAll (world : Store.World) (state : State) : List (Slot × Report) :=
  state.exit world state.held.length

end State

end DiskQuery.Script
