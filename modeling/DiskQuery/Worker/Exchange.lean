/-!
# Exchanges

A caller lets a worker do a job and waits for the result until a deadline.
The worker hands the result over through a channel that holds one message, and
then lets go of its end of the channel.  A caller that has waited long enough
goes away; the worker is not told, and works on.

An `Exchange` is the state of both and of the channel between them.  The three
moves of `Move` may come in any order, so a list of moves is one interleaving
of worker, clock and caller, and `Exchange.run` covers them all.  Whenever the
caller looks, a message in the channel counts for more than a worker that is
gone, and that for more than the deadline.
-/

namespace DiskQuery.Worker

variable {τ α : Type}

/-- What one step of a job says: the job goes on, it returned a result, or it
broke off. -/
inductive Signal (α : Type) where
  | working
  | returned (result : α)
  | broken
deriving DecidableEq, Repr

/-- A job, a step at a time, with states of type `τ`. -/
abbrev Job (τ α : Type) := τ → τ × Signal α

/-- How far the worker is. -/
inductive Phase (α : Type) where
  /-- It does the job. -/
  | running
  /-- The job returned, and the worker is about to send the result. -/
  | sending (result : α)
  /-- The result is in the channel, or was dropped because nobody waits. -/
  | sent
  /-- The worker has ended and let go of the channel. -/
  | gone
deriving DecidableEq, Repr

/-- Why a caller stopped waiting. -/
inductive Verdict (α : Type) where
  | received (result : α)
  | disconnected
  | timedOut
deriving DecidableEq, Repr

/-- Worker, channel, clock and caller. -/
structure Exchange (τ α : Type) where
  /-- The state of the job. -/
  job : τ
  phase : Phase α := .running
  /-- The message in the channel. -/
  channel : Option α := none
  /-- The deadline has passed. -/
  expired : Bool := false
  /-- Why the caller stopped waiting, absent while it waits. -/
  verdict : Option (Verdict α) := none
deriving DecidableEq, Repr

/-- Who moves next. -/
inductive Move where
  /-- The worker goes one step on. -/
  | work
  /-- The deadline passes. -/
  | expire
  /-- The caller looks whether it can stop waiting. -/
  | look
deriving DecidableEq, Repr

namespace Exchange

/-- The worker and the caller at the start. -/
def start (job : τ) : Exchange τ α :=
  { job := job }

/-- One step of the worker.  Nothing that it does depends on the deadline, and
only where the result goes depends on the caller: to the channel if it is
free, and nowhere if nobody waits any more. -/
def work (step : Job τ α) (exchange : Exchange τ α) : Exchange τ α :=
  match exchange.phase with
  | .running =>
      let (job, signal) := step exchange.job
      let phase : Phase α :=
        match signal with
        | .working => .running
        | .returned result => .sending result
        | .broken => .gone
      { exchange with job := job, phase := phase }
  | .sending result =>
      match exchange.verdict, exchange.channel with
      | some _, _ => { exchange with phase := .sent }
      | none, none => { exchange with channel := some result, phase := .sent }
      | none, some _ => exchange
  | .sent => { exchange with phase := .gone }
  | .gone => exchange

/-- What a caller sees that looks now.  It sees nothing yet if there is no
message, the worker still holds the channel, and there is time left. -/
def sight (exchange : Exchange τ α) : Option (Verdict α) :=
  match exchange.channel, exchange.phase, exchange.expired with
  | some result, _, _ => some (.received result)
  | none, .gone, _ => some .disconnected
  | none, _, true => some .timedOut
  | none, _, false => none

/-- After the deadline there is always something to see. -/
theorem isSome_sight {exchange : Exchange τ α} (h : exchange.expired = true) :
    exchange.sight.isSome = true := by
  unfold sight
  split
  · rfl
  · rfl
  · rfl
  · exact absurd (h.symm.trans ‹exchange.expired = false›) Bool.noConfusion

/-- The caller looks, and goes away with what is in the channel if it can stop
waiting. -/
def look (exchange : Exchange τ α) : Exchange τ α :=
  match exchange.verdict, exchange.sight with
  | none, some verdict => { exchange with verdict := some verdict, channel := none }
  | _, _ => exchange

/-- The deadline passes. -/
def expire (exchange : Exchange τ α) : Exchange τ α :=
  { exchange with expired := true }

/-- No caller that looks after the deadline waits on. -/
theorem isSome_verdict_look {exchange : Exchange τ α} (h : exchange.expired = true) :
    exchange.look.verdict.isSome = true := by
  unfold look
  split
  · rfl
  · next hnone =>
    cases hverdict : exchange.verdict with
    | some verdict => rfl
    | none =>
      obtain ⟨verdict, hsight⟩ := Option.isSome_iff_exists.1 (isSome_sight h)
      exact (hnone verdict hverdict hsight).elim

/-- One move. -/
def move (step : Job τ α) (exchange : Exchange τ α) : Move → Exchange τ α
  | .work => exchange.work step
  | .expire => exchange.expire
  | .look => exchange.look

/-- A list of moves, the first one first. -/
def run (step : Job τ α) (exchange : Exchange τ α) (moves : List Move) : Exchange τ α :=
  moves.foldl (move step) exchange

end Exchange

end DiskQuery.Worker
