import DiskQuery.Worker.Detached
import Mathlib.Logic.Function.Iterate

/-!
# Exchanges in every order of moves

A worker does a job, a caller waits for its result, and the deadline passes at
some time.  The moves of the three may come in any order, and the job may be
any job: nothing is assumed about how long it takes or how it ends.

There are four groups.

* Jobs.  `Job.Ends` says how a job ends, and a job ends in one way at most.
* The course of an exchange.  `Course` lists what an exchange can look like,
  by how far the worker is.  Every move keeps to the list (`Course.move`), so
  each later fact is a case analysis on it.
* The worker.  `advance` is a step of a worker that nobody waits for.  A worker
  in an exchange takes just that step (`Course.worker_work`), so neither the
  caller nor the clock holds it up.
* The caller.  A caller that has gone away has what it saw when it last looked
  (`exists_look_of_verdict`), and `exchange_safe` says what that can be.
-/

namespace DiskQuery.Worker

variable {τ α : Type}

/-! ## Jobs -/

/-- A job goes on for some steps, and then ends with that signal. -/
inductive Job.Ends (step : Job τ α) : τ → Signal α → Prop where
  | now {job : τ} {signal : Signal α} (hsignal : (step job).2 = signal)
      (hends : signal ≠ .working) : Ends step job signal
  | later {job : τ} {signal : Signal α} (hworking : (step job).2 = .working)
      (hrest : Ends step (step job).1 signal) : Ends step job signal

/-- A job ends in one way at most. -/
theorem Job.Ends.unique {step : Job τ α} {job : τ} {first second : Signal α}
    (hfirst : step.Ends job first) (hsecond : step.Ends job second) : first = second := by
  induction hfirst with
  | now hsignal hends =>
    cases hsecond with
    | now hother => exact hsignal.symm.trans hother
    | later hworking => exact absurd (hsignal.symm.trans hworking) hends
  | later hworking _ ih =>
    cases hsecond with
    | now hother hends => exact absurd (hother.symm.trans hworking) hends
    | later _ hrest => exact ih hrest

/-! ## The course of an exchange -/

/-- A caller that has received nothing: it waits, or its time was up. -/
def Unserved (verdict : Option (Verdict α)) : Prop :=
  verdict = none ∨ verdict = some .timedOut

/-- A worker whose result has left it. -/
def Phase.HasSent (phase : Phase α) : Prop :=
  phase = .sent ∨ phase = .gone

/-- What an exchange over the job `first` can look like. -/
inductive Course (step : Job τ α) (first : τ) : Exchange τ α → Prop where
  /-- The job is under way, and will end as `first` does. -/
  | running {job : τ} {expired : Bool} {verdict : Option (Verdict α)}
      (hjob : ∀ signal, step.Ends job signal → step.Ends first signal)
      (hverdict : Unserved verdict) : Course step first ⟨job, .running, none, expired, verdict⟩
  /-- The worker holds the result. -/
  | sending {job : τ} {result : α} {expired : Bool} {verdict : Option (Verdict α)}
      (hends : step.Ends first (.returned result)) (hverdict : Unserved verdict) :
      Course step first ⟨job, .sending result, none, expired, verdict⟩
  /-- The result is in the channel. -/
  | posted {job : τ} {phase : Phase α} {result : α} {expired : Bool}
      (hends : step.Ends first (.returned result)) (hphase : phase.HasSent) :
      Course step first ⟨job, phase, some result, expired, none⟩
  /-- The caller went away with the result. -/
  | received {job : τ} {phase : Phase α} {result : α} {expired : Bool}
      (hends : step.Ends first (.returned result)) (hphase : phase.HasSent) :
      Course step first ⟨job, phase, none, expired, some (.received result)⟩
  /-- The caller went away before there was a result. -/
  | dropped {job : τ} {phase : Phase α} {result : α} {expired : Bool}
      (hends : step.Ends first (.returned result)) (hphase : phase.HasSent) :
      Course step first ⟨job, phase, none, expired, some .timedOut⟩
  /-- The job broke off. -/
  | broken {job : τ} {expired : Bool} {verdict : Option (Verdict α)}
      (hends : step.Ends first .broken)
      (hverdict : Unserved verdict ∨ verdict = some .disconnected) :
      Course step first ⟨job, .gone, none, expired, verdict⟩

namespace Course

variable {step : Job τ α} {first : τ} {exchange : Exchange τ α}

theorem start (step : Job τ α) (first : τ) : Course step first (.start first) :=
  .running (fun _ hends => hends) (.inl rfl)

theorem work (h : Course step first exchange) : Course step first (exchange.work step) := by
  cases h with
  | @running job expired verdict hjob hverdict =>
    have hnow : ∀ signal, (step job).2 = signal → signal ≠ .working → step.Ends first signal :=
      fun signal hsignal hends => hjob signal (.now hsignal hends)
    rcases hstep : step job with ⟨next, _ | result | _⟩
    · have hworking : (step job).2 = .working := congrArg Prod.snd hstep
      simp only [Exchange.work, hstep]
      refine .running (fun signal hrest => hjob signal ?_) hverdict
      refine .later hworking ?_
      rwa [hstep]
    · simp only [Exchange.work, hstep]
      exact .sending (hnow _ (congrArg Prod.snd hstep) nofun) hverdict
    · simp only [Exchange.work, hstep]
      exact .broken (hnow _ (congrArg Prod.snd hstep) nofun) (.inl hverdict)
  | sending hends hverdict =>
    rcases hverdict with rfl | rfl
    · exact .posted hends (.inl rfl)
    · exact .dropped hends (.inl rfl)
  | posted hends hphase =>
    rcases hphase with rfl | rfl <;> exact .posted hends (.inr rfl)
  | received hends hphase =>
    rcases hphase with rfl | rfl <;> exact .received hends (.inr rfl)
  | dropped hends hphase =>
    rcases hphase with rfl | rfl <;> exact .dropped hends (.inr rfl)
  | broken hends hverdict => exact .broken hends hverdict

theorem expire (h : Course step first exchange) :
    Course step first exchange.expire := by
  cases h with
  | running hjob hverdict => exact .running hjob hverdict
  | sending hends hverdict => exact .sending hends hverdict
  | posted hends hphase => exact .posted hends hphase
  | received hends hphase => exact .received hends hphase
  | dropped hends hphase => exact .dropped hends hphase
  | broken hends hverdict => exact .broken hends hverdict

theorem look (h : Course step first exchange) : Course step first exchange.look := by
  cases h with
  | @running job expired verdict hjob hverdict =>
    rcases hverdict with rfl | rfl
    · cases expired with
      | true => exact .running hjob (.inr rfl)
      | false => exact .running hjob (.inl rfl)
    · exact .running hjob (.inr rfl)
  | @sending job result expired verdict hends hverdict =>
    rcases hverdict with rfl | rfl
    · cases expired with
      | true => exact .sending hends (.inr rfl)
      | false => exact .sending hends (.inl rfl)
    · exact .sending hends (.inr rfl)
  | posted hends hphase => exact .received hends hphase
  | received hends hphase => exact .received hends hphase
  | dropped hends hphase => exact .dropped hends hphase
  | broken hends hverdict =>
    rcases hverdict with (rfl | rfl) | rfl
    · exact .broken hends (.inr rfl)
    · exact .broken hends (.inl (.inr rfl))
    · exact .broken hends (.inr rfl)

/-- Every move keeps to the course. -/
theorem move (h : Course step first exchange) (m : Move) :
    Course step first (exchange.move step m) := by
  cases m with
  | work => exact h.work
  | expire => exact h.expire
  | look => exact h.look

theorem run (h : Course step first exchange) (moves : List Move) :
    Course step first (exchange.run step moves) := by
  induction moves generalizing exchange with
  | nil => exact h
  | cons m moves ih => exact ih (h.move m)

end Course

/-! ## The worker -/

/-- How far a worker is: the state of its job, and its phase. -/
def Exchange.worker (exchange : Exchange τ α) : τ × Phase α :=
  (exchange.job, exchange.phase)

/-- One step of a worker that nobody waits for. -/
def advance (step : Job τ α) : τ × Phase α → τ × Phase α
  | (job, .running) =>
      match step job with
      | (next, .working) => (next, .running)
      | (next, .returned result) => (next, .sending result)
      | (next, .broken) => (next, .gone)
  | (job, .sending _) => (job, .sent)
  | (job, .sent) => (job, .gone)
  | (job, .gone) => (job, .gone)

section Worker

variable {step : Job τ α} {first : τ} {exchange : Exchange τ α}

/-- The caller is no hindrance: a send finds the channel free, or nobody at its
other end. -/
theorem Course.worker_work (h : Course step first exchange) :
    (exchange.work step).worker = advance step exchange.worker := by
  cases h with
  | @running job expired verdict hjob hverdict =>
    rcases hstep : step job with ⟨next, _ | result | _⟩ <;>
      simp only [Exchange.work, Exchange.worker, advance, hstep]
  | sending hends hverdict =>
    rcases hverdict with rfl | rfl <;> rfl
  | posted hends hphase | received hends hphase | dropped hends hphase =>
    rcases hphase with rfl | rfl <;> rfl
  | broken => rfl

/-- Nobody but the worker moves the worker. -/
theorem worker_move_of_ne (exchange : Exchange τ α) {m : Move} (h : m ≠ .work) :
    (exchange.move step m).worker = exchange.worker := by
  cases m with
  | work => exact absurd rfl h
  | expire => rfl
  | look =>
    show exchange.look.worker = exchange.worker
    unfold Exchange.look
    split <;> rfl

/-- A worker is where its own steps alone would have brought it. -/
theorem Course.worker_run (h : Course step first exchange) (moves : List Move) :
    (exchange.run step moves).worker = (advance step)^[moves.count .work] exchange.worker := by
  induction moves generalizing exchange with
  | nil => rfl
  | cons m moves ih =>
    have hrest := ih (h.move m)
    by_cases hwork : m = .work
    · subst hwork
      rw [List.count_cons_self, Function.iterate_succ_apply, ← h.worker_work]
      exact hrest
    · rw [List.count_cons_of_ne hwork, ← worker_move_of_ne exchange hwork]
      exact hrest

theorem iterate_advance_gone (step : Job τ α) (job : τ) (n : Nat) :
    (advance step)^[n] (job, .gone) = (job, .gone) :=
  Function.iterate_fixed rfl n

/-- A worker whose job ends is gone after some steps, and stays so. -/
theorem exists_iterate_advance_gone {job : τ} {signal : Signal α} (h : step.Ends job signal) :
    ∃ n, ∀ m, n ≤ m → ((advance step)^[m] (job, .running)).2 = .gone := by
  induction h with
  | @now job signal hsignal hends =>
    refine ⟨3, fun m hm => ?_⟩
    obtain ⟨m, rfl⟩ := Nat.exists_eq_add_of_le' hm
    have hthree : (advance step)^[3] (job, .running) = ((step job).1, .gone) := by
      rcases hstep : step job with ⟨next, _ | result | _⟩
      · rw [hstep] at hsignal
        exact absurd hsignal.symm hends
      · simp only [Function.iterate_succ_apply, Function.iterate_zero_apply, advance, hstep]
      · simp only [Function.iterate_succ_apply, Function.iterate_zero_apply, advance, hstep]
    rw [Function.iterate_add_apply, hthree, iterate_advance_gone]
  | @later job signal hworking _ ih =>
    obtain ⟨n, hn⟩ := ih
    refine ⟨n + 1, fun m hm => ?_⟩
    obtain ⟨m, rfl⟩ := Nat.exists_eq_add_of_le' hm
    have hone : advance step (job, .running) = ((step job).1, .running) := by
      rcases hstep : step job with ⟨next, _ | result | _⟩
      · simp only [advance, hstep]
      · rw [hstep] at hworking
        cases hworking
      · rw [hstep] at hworking
        cases hworking
    rw [← Nat.add_assoc, Function.iterate_succ_apply, hone]
    exact hn (m + n) (Nat.le_add_left n m)

end Worker

/-! ## The caller -/

section Caller

variable {step : Job τ α}

theorem work_verdict (step : Job τ α) (exchange : Exchange τ α) :
    (exchange.work step).verdict = exchange.verdict := by
  unfold Exchange.work
  split
  · rfl
  · split <;> rfl
  · rfl
  · rfl

theorem work_expired (step : Job τ α) (exchange : Exchange τ α) :
    (exchange.work step).expired = exchange.expired := by
  unfold Exchange.work
  split
  · rfl
  · split <;> rfl
  · rfl
  · rfl

theorem look_expired (exchange : Exchange τ α) : exchange.look.expired = exchange.expired := by
  unfold Exchange.look
  split <;> rfl

/-- A look sends a waiting caller away, if it sees anything. -/
theorem look_verdict {exchange : Exchange τ α} (h : exchange.verdict = none) :
    exchange.look.verdict = exchange.sight := by
  unfold Exchange.look
  rw [h]
  cases exchange.sight with
  | none => exact h
  | some seen => rfl

/-- A caller that has gone away does not come back. -/
theorem verdict_run {exchange : Exchange τ α} {verdict : Verdict α}
    (h : exchange.verdict = some verdict) (moves : List Move) :
    (exchange.run step moves).verdict = some verdict := by
  induction moves generalizing exchange with
  | nil => exact h
  | cons m moves ih =>
    apply ih
    cases m with
    | work => exact (work_verdict step exchange).trans h
    | expire => exact h
    | look =>
      show exchange.look.verdict = some verdict
      unfold Exchange.look
      rw [h]
      exact h

/-- Only a look sends a waiting caller away. -/
theorem verdict_move {exchange : Exchange τ α} {m : Move} {verdict : Verdict α}
    (hwaits : exchange.verdict = none) (h : (exchange.move step m).verdict = some verdict) :
    m = .look ∧ exchange.sight = some verdict := by
  cases m with
  | work =>
    have hkept : none = some verdict :=
      hwaits.symm.trans ((work_verdict step exchange).symm.trans h)
    cases hkept
  | expire =>
    have hkept : none = some verdict := hwaits.symm.trans h
    cases hkept
  | look => exact ⟨rfl, (look_verdict hwaits).symm.trans h⟩

/-- What a caller has is what it saw when it last looked. -/
theorem exists_look_of_verdict {exchange : Exchange τ α} {moves : List Move}
    {verdict : Verdict α} (hwaits : exchange.verdict = none)
    (h : (exchange.run step moves).verdict = some verdict) :
    ∃ before after, moves = before ++ .look :: after ∧
      (exchange.run step before).verdict = none ∧
      (exchange.run step before).sight = some verdict := by
  induction moves generalizing exchange with
  | nil =>
    have hnone : none = some verdict := hwaits.symm.trans h
    cases hnone
  | cons m moves ih =>
    cases hnext : (exchange.move step m).verdict with
    | none =>
      obtain ⟨before, after, rfl, hbefore, hsight⟩ := ih hnext h
      exact ⟨m :: before, after, rfl, hbefore, hsight⟩
    | some seen =>
      have hsame : some seen = some verdict := (verdict_run hnext moves).symm.trans h
      rw [hsame] at hnext
      obtain ⟨rfl, hsight⟩ := verdict_move hwaits hnext
      exact ⟨[], moves, rfl, hwaits, hsight⟩

/-- The deadline has passed if and only if that was one of the moves. -/
theorem expired_run (exchange : Exchange τ α) (moves : List Move) :
    (exchange.run step moves).expired = true ↔ exchange.expired = true ∨ .expire ∈ moves := by
  induction moves generalizing exchange with
  | nil => simp [Exchange.run]
  | cons m moves ih =>
    have hrest := ih (exchange.move step m)
    show ((exchange.move step m).run step moves).expired = true ↔ _
    rw [hrest]
    cases m with
    | work => simp [Exchange.move, work_expired]
    | expire => simp [Exchange.move, Exchange.expire]
    | look => simp [Exchange.move, look_expired]

/-- Time is up for a caller that sees no message. -/
theorem sight_eq_timedOut {exchange : Exchange τ α} (h : exchange.sight = some .timedOut) :
    exchange.channel = none ∧ exchange.expired = true := by
  unfold Exchange.sight at h
  split at h
  · cases h
  · cases h
  · exact ⟨‹_›, ‹_›⟩
  · cases h

end Caller

/-! ### What a caller can be told -/

variable {ρ : Type}

/-- What a caller may be told after these moves, and on what grounds. -/
inductive Grounds (step : Job τ (Except QueryError Lookup)) (job : τ) (name : DeviceName)
    (limit : Duration) (moves : List Move) : Waited ρ → Prop where
  /-- The result of the job, error or not. -/
  | result {result : Except QueryError Lookup} (hends : step.Ends job (.returned result)) :
      Grounds step job name limit moves ⟨result, []⟩
  /-- The worker ended without a result, because the job broke off. -/
  | lost (hends : step.Ends job .broken)
      (hnone : ∀ result, ¬step.Ends job (.returned result)) :
      Grounds step job name limit moves ⟨.error .workerLost, []⟩
  /-- The deadline had passed at the last look, and there was no message. -/
  | late {before after : List Move} (hlook : moves = before ++ .look :: after)
      (hwaits : ((Exchange.start job).run step before).verdict = none)
      (hexpired : .expire ∈ before)
      (hempty : ((Exchange.start job).run step before).channel = none) :
      Grounds step job name limit moves
        ⟨.error (.timeout name.lossyText limit), [.abandoned name.lossyText limit]⟩

/-- What holds of an exchange after any moves. -/
structure Safe (ρ : Type) (step : Job τ (Except QueryError Lookup)) (job : τ)
    (name : DeviceName) (limit : Duration) (moves : List Move) : Prop where
  /-- Whatever the caller is told has its grounds. -/
  grounds : ∀ waited : Waited ρ,
    ((Exchange.start job).run step moves).waited name limit = some waited →
      Grounds step job name limit moves waited
  /-- What the caller was told stands. -/
  final : ∀ waited : Waited ρ,
    ((Exchange.start job).run step moves).waited name limit = some waited → ∀ more,
      ((Exchange.start job).run step (moves ++ more)).waited name limit = some waited
  /-- A result that was sent is what a waiting caller gets, also from a worker
  that is gone, and after the deadline. -/
  delivered : ∀ result, step.Ends job (.returned result) →
    ((Exchange.start job).run step moves).phase.HasSent →
    ((Exchange.start job).run step moves).verdict = none →
      ((Exchange.start job).run step (moves ++ [.look])).waited name limit =
        some (⟨result, []⟩ : Waited ρ)
  /-- After the deadline no caller waits on. -/
  prompt : .expire ∈ moves →
    (((Exchange.start job).run step (moves ++ [.look])).waited name limit
      : Option (Waited ρ)).isSome = true
  /-- A send never blocks, whether somebody waits or not. -/
  unblocked : ∀ result, ((Exchange.start job).run step moves).phase = .sending result →
    ((Exchange.start job).run step (moves ++ [.work])).phase = .sent
  /-- The worker is where its own steps alone would have brought it. -/
  undisturbed : ((Exchange.start job).run step moves).worker =
    (advance step)^[moves.count .work] (job, .running)
  /-- The worker is gone some steps after its job has ended, whether anybody
  waits or not. -/
  leaves : ∀ signal, step.Ends job signal → ∃ n, ∀ more, n ≤ more.count .work →
    ((Exchange.start job).run step (moves ++ more)).phase = .gone

section Safe

variable {step : Job τ (Except QueryError Lookup)} {job : τ}

theorem run_append (step : Job τ α) (exchange : Exchange τ α) (moves more : List Move) :
    exchange.run step (moves ++ more) = (exchange.run step moves).run step more :=
  List.foldl_append

/-- A result that was received is the one that the job ends with. -/
theorem Course.ends_of_received {step : Job τ α} {job : τ} {exchange : Exchange τ α} {result : α}
    (h : Course step job exchange) (hverdict : exchange.verdict = some (.received result)) :
    step.Ends job (.returned result) := by
  cases h with
  | running _ hunserved | sending _ hunserved =>
    rcases hunserved with rfl | rfl <;> cases hverdict
  | posted | dropped => cases hverdict
  | received hends =>
    cases hverdict
    exact hends
  | broken _ hgone => rcases hgone with (rfl | rfl) | rfl <;> cases hverdict

/-- A worker is found gone without a message only if the job broke off. -/
theorem Course.ends_of_disconnected {step : Job τ α} {job : τ} {exchange : Exchange τ α}
    (h : Course step job exchange) (hverdict : exchange.verdict = some .disconnected) :
    step.Ends job .broken := by
  cases h with
  | running _ hunserved | sending _ hunserved =>
    rcases hunserved with rfl | rfl <;> cases hverdict
  | posted | received | dropped => cases hverdict
  | broken hends => exact hends

/-- A waiting caller that looks after a result was sent sees that result. -/
theorem Course.sight_of_hasSent {step : Job τ α} {job : τ} {exchange : Exchange τ α} {result : α}
    (h : Course step job exchange) (hends : step.Ends job (.returned result))
    (hsent : exchange.phase.HasSent) (hwaits : exchange.verdict = none) :
    exchange.sight = some (.received result) := by
  cases h with
  | running | sending =>
    rcases hsent with hsent | hsent <;> cases hsent
  | posted hother hphase =>
    cases hother.unique hends
    rfl
  | received => cases hwaits
  | dropped => cases hwaits
  | broken hbroken =>
    cases hbroken.unique hends

/-- A caller that looks after a job broke off finds the worker gone. -/
theorem Course.sight_of_broken {step : Job τ α} {job : τ} {exchange : Exchange τ α}
    (h : Course step job exchange) (hends : step.Ends job .broken)
    (hgone : exchange.phase = .gone) : exchange.sight = some .disconnected := by
  cases h with
  | running | sending => cases hgone
  | posted hother | received hother | dropped hother => cases hother.unique hends
  | broken => rfl

/-- An exchange is safe, whatever its job does and in whatever order worker,
clock and caller move. -/
theorem exchange_safe (step : Job τ (Except QueryError Lookup)) (job : τ) (name : DeviceName)
    (limit : Duration) (moves : List Move) : Safe ρ step job name limit moves := by
  have hcourse := (Course.start step job).run moves
  have hlook : ((Exchange.start job).run step moves).verdict = none →
      ((Exchange.start job).run step (moves ++ [.look])).verdict =
        ((Exchange.start job).run step moves).sight := by
    intro hwaits
    rw [run_append]
    exact look_verdict hwaits
  constructor
  case grounds =>
    intro waited hwaited
    obtain ⟨verdict, hverdict, rfl⟩ := Option.map_eq_some_iff.1 hwaited
    cases verdict with
    | received result => exact .result (hcourse.ends_of_received hverdict)
    | disconnected =>
      have hbroken := hcourse.ends_of_disconnected hverdict
      apply Grounds.lost hbroken
      intro result hreturned
      cases hbroken.unique hreturned
    | timedOut =>
      obtain ⟨before, after, hsplit, hwaits, hsight⟩ := exists_look_of_verdict rfl hverdict
      obtain ⟨hempty, hexpired⟩ := sight_eq_timedOut hsight
      rw [expired_run] at hexpired
      exact .late hsplit hwaits (hexpired.resolve_left nofun) hempty
  case final =>
    intro waited hwaited more
    obtain ⟨verdict, hverdict, rfl⟩ := Option.map_eq_some_iff.1 hwaited
    rw [run_append, Exchange.waited, verdict_run hverdict more]
    rfl
  case delivered =>
    intro result hends hsent hwaits
    rw [Exchange.waited, hlook hwaits, hcourse.sight_of_hasSent hends hsent hwaits]
    rfl
  case prompt =>
    intro hexpire
    rw [Exchange.waited, Option.isSome_map]
    cases hverdict : ((Exchange.start job).run step moves).verdict with
    | some verdict =>
      rw [run_append, verdict_run hverdict]
      rfl
    | none =>
      rw [hlook hverdict]
      apply Exchange.isSome_sight
      rw [expired_run]
      exact .inr hexpire
  case unblocked =>
    intro result hphase
    have hwork : ((Exchange.start job).run step (moves ++ [.work])).worker =
        advance step ((Exchange.start job).run step moves).worker := by
      rw [run_append]
      exact hcourse.worker_work
    rw [Exchange.worker, Exchange.worker, hphase] at hwork
    exact congrArg Prod.snd hwork
  case undisturbed => exact (Course.start step job).worker_run moves
  case leaves =>
    intro signal hends
    obtain ⟨n, hn⟩ := exists_iterate_advance_gone hends
    refine ⟨n, fun more hmore => ?_⟩
    have hworker := (Course.start step job).worker_run (moves ++ more)
    have hgone := hn ((moves ++ more).count .work) (by rw [List.count_append]; omega)
    exact (congrArg Prod.snd hworker).trans hgone

/-- A result counts that was sent after the deadline, if the caller has not
looked since. -/
example (result : Except QueryError Lookup) :
    ((Exchange.start (Ending.returned result)).run Job.ofEnding
      [.expire, .work, .work, .work, .look]).verdict = some (.received result) := rfl

end Safe

end DiskQuery.Worker
