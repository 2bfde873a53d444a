import DiskQuery.Proofs.Client.Brackets
import DiskQuery.Proofs.Client.Errors
import DiskQuery.Proofs.Worker.Exchange
import Mathlib.Data.List.Infix

/-!
# Queries on a worker

A worker that carries a query out does to the service what the query does on
the calling thread, call by call.  Whether anybody still waits for it makes no
difference.  Nothing is assumed about the service.

There are three groups.

* Clients as jobs.  `Ongoing.ending` is the run that a client under way will
  have made when it ends.  A step of the job changes nothing about it, so what
  the worker has done is always the beginning of that run, and all of it once
  the job has ended (`Resembles.iterate`).
* Verdicts.  A caller that waited long enough has what the run ended with
  (`ofVerdict_of_ne_timedOut`), and a worker that has ended is all that it takes
  (`settle_of_gone`).
* Queries.  `worksAlike_query` puts the two together with the release discipline
  of a query, and with the calls that no worker was started for.
-/

namespace DiskQuery.Worker

open Client

variable {ρ σ α : Type}

/-! ## Clients as jobs -/

/-- The calls that a client under way has made, with their answers. -/
def Ongoing.exchanges (ongoing : Ongoing ρ σ α) : List (DiskQuery.Exchange ρ) :=
  ongoing.actions.filterMap Action.exchange?

/-- The run that a client under way will have made when it ends. -/
def Ongoing.ending (service : Service ρ σ) (ongoing : Ongoing ρ σ α) : Run ρ σ α :=
  let rest := ongoing.client.run service ongoing.state
  { rest with actions := ongoing.actions ++ rest.actions }

/-- What a job says that ends with this outcome. -/
def Signal.ofOutcome : Except Fault α → Signal α
  | .ok result => .returned result
  | .error _ => .broken

theorem Signal.ofOutcome_ne_working (outcome : Except Fault α) :
    Signal.ofOutcome outcome ≠ .working := by
  cases outcome <;> exact nofun

section Jobs

variable {service : Service ρ σ}

theorem ofClient_done (service : Service ρ σ) (outcome : Except Fault α) (state : σ)
    (actions : List (Action ρ)) :
    Job.ofClient service ⟨.done outcome, state, actions⟩ =
      (⟨.done outcome, state, actions⟩, .ofOutcome outcome) := by
  cases outcome <;> rfl

/-- A job that goes on has not come to the end of its client. -/
theorem signal_ofClient (service : Service ρ σ) (ongoing : Ongoing ρ σ α) :
    (Job.ofClient service ongoing).2 = .working ∨
      ongoing.client = .done (ongoing.ending service).outcome ∧
        Job.ofClient service ongoing = (ongoing, .ofOutcome (ongoing.ending service).outcome) := by
  obtain ⟨client, state, actions⟩ := ongoing
  cases client with
  | done outcome => exact .inr ⟨rfl, ofClient_done service outcome state actions⟩
  | report event rest => exact .inl rfl
  | ask call resume => exact .inl rfl

/-- A step of the job is part of the run. -/
theorem ending_ofClient (service : Service ρ σ) (ongoing : Ongoing ρ σ α) :
    ((Job.ofClient service ongoing).1).ending service = ongoing.ending service := by
  obtain ⟨client, state, actions⟩ := ongoing
  cases client with
  | done outcome => rw [ofClient_done]
  | report event rest =>
    simp [Job.ofClient, Client.step, Ongoing.ending, Client.run, Run.after]
  | ask call resume =>
    simp [Job.ofClient, Client.step, Ongoing.ending, Client.run, Run.after]

/-- Every client ends as a job, in the way that its run does. -/
theorem ends_ofClient (service : Service ρ σ) (client : Client ρ α) (state : σ)
    (actions : List (Action ρ)) :
    (Job.ofClient service).Ends ⟨client, state, actions⟩
      (.ofOutcome (client.run service state).outcome) := by
  induction client generalizing state actions with
  | done outcome =>
    have hsignal := congrArg Prod.snd (ofClient_done service outcome state actions)
    exact .now hsignal (Signal.ofOutcome_ne_working outcome)
  | report event rest ih => exact .later rfl (ih state _)
  | ask call resume ih => exact .later rfl (ih _ _ _)

/-- A worker that runs takes a step of its job. -/
theorem advance_job {τ : Type} (step : Job τ α) (job : τ) :
    (advance step (job, .running)).1 = (step job).1 := by
  rw [advance]
  rcases step job with ⟨next, _ | _ | _⟩ <;> rfl

theorem advance_phase_of_working {τ : Type} {step : Job τ α} {job : τ}
    (h : (step job).2 = .working) : (advance step (job, .running)).2 = .running := by
  rw [advance]
  rcases hstep : step job with ⟨next, signal⟩
  obtain rfl : signal = .working := by rw [← h, hstep]
  rfl

/-- The worker has begun the run, and finished it unless it still runs. -/
structure Resembles (service : Service ρ σ) (run : Run ρ σ α)
    (worker : Ongoing ρ σ α × Phase α) : Prop where
  ending : worker.1.ending service = run
  finished : worker.2 = .running ∨ worker.1.client = .done run.outcome

namespace Resembles

variable {run : Run ρ σ α} {worker : Ongoing ρ σ α × Phase α}

theorem start (service : Service ρ σ) (client : Client ρ α) (state : σ) :
    Resembles service (client.run service state) (.start client state, .running) :=
  ⟨rfl, .inl rfl⟩

theorem advance (h : Resembles service run worker) :
    Resembles service run (advance (Job.ofClient service) worker) := by
  obtain ⟨ongoing, phase⟩ := worker
  obtain ⟨hending, hfinished⟩ := h
  cases phase with
  | running =>
    constructor
    case ending =>
      rw [advance_job]
      exact (ending_ofClient service ongoing).trans hending
    case finished =>
      rcases signal_ofClient service ongoing with hworking | ⟨hclient, hjob⟩
      · exact .inl (advance_phase_of_working hworking)
      · refine .inr ?_
        rw [advance_job, hjob, hclient, hending]
  | sending | sent | gone =>
    have hclient := hfinished.resolve_left nofun
    exact ⟨hending, .inr hclient⟩

theorem iterate (h : Resembles service run worker) (n : Nat) :
    Resembles service run ((Worker.advance (Job.ofClient service))^[n] worker) := by
  induction n generalizing worker with
  | zero => exact h
  | succ n ih =>
    rw [Function.iterate_succ_apply]
    exact ih h.advance

/-- What the worker has done is the beginning of the run. -/
theorem actions_isPrefix (h : Resembles service run worker) : worker.1.actions <+: run.actions := by
  rw [← h.ending]
  exact List.prefix_append _ _

/-- A worker that does not run any more has done all of the run. -/
theorem eq_run (h : Resembles service run worker) (hphase : worker.2 ≠ .running) :
    worker.1.actions = run.actions ∧ worker.1.state = run.state := by
  obtain ⟨⟨client, state, actions⟩, phase⟩ := worker
  have hclient : client = .done run.outcome := h.finished.resolve_left hphase
  subst hclient
  have hending := h.ending
  constructor
  · have hactions := congrArg Run.actions hending
    rw [← hactions]
    exact (List.append_nil _).symm
  · exact congrArg Run.state hending

end Resembles

/-- The worker of an exchange over a client does what the run does. -/
theorem resembles_run (service : Service ρ σ) (client : Client ρ α) (state : σ)
    (moves : List Move) :
    Resembles service (client.run service state)
      ((Exchange.start (Ongoing.start client state)).run (Job.ofClient service) moves).worker := by
  have hworker := (Course.start (Job.ofClient service) (.start client state)).worker_run moves
  rw [hworker]
  exact (Resembles.start service client state).iterate _

end Jobs

/-! ## Verdicts -/

/-- A client that was handed to a worker, after some moves. -/
def handedOver (service : Service ρ σ) (client : Client ρ α) (state : σ) (moves : List Move) :
    Exchange (Ongoing ρ σ α) α :=
  (Exchange.start (.start client state)).run (Job.ofClient service) moves

/-- What a run gives a caller that waits for as long as it takes. -/
def resultOf : Except Fault (Except QueryError Lookup) → Except QueryError Lookup
  | .ok result => result
  | .error _ => .error .workerLost

section Verdicts

variable {service : Service ρ σ} {client : Client ρ (Except QueryError Lookup)} {state : σ}

/-- A verdict other than the deadline tells how the run ends. -/
theorem ofVerdict_of_ne_timedOut {moves : List Move} {verdict : Verdict (Except QueryError Lookup)}
    (hverdict : (handedOver service client state moves).verdict = some verdict)
    (htime : verdict ≠ .timedOut) (name : DeviceName) (limit : Duration) :
    (.ofVerdict name limit verdict : Waited ρ) =
      ⟨resultOf (client.run service state).outcome, []⟩ := by
  have hcourse := (Course.start (Job.ofClient service) (.start client state)).run moves
  have hends := ends_ofClient service client state []
  cases verdict with
  | received result =>
    have hsignal := hends.unique (hcourse.ends_of_received hverdict)
    rcases houtcome : (client.run service state).outcome with fault | other
    · rw [houtcome] at hsignal
      cases hsignal
    · rw [houtcome] at hsignal
      cases hsignal
      rfl
  | disconnected =>
    have hsignal := hends.unique (hcourse.ends_of_disconnected hverdict)
    rcases houtcome : (client.run service state).outcome with fault | other
    · rfl
    · rw [houtcome] at hsignal
      cases hsignal
  | timedOut => exact absurd rfl htime

/-- Whatever the moves so far, the worker ends some steps later. -/
theorem exists_gone (service : Service ρ σ) (client : Client ρ α) (state : σ) :
    ∃ n, ∀ moves, n ≤ moves.count .work →
      (handedOver service client state moves).phase = .gone := by
  obtain ⟨n, hn⟩ := exists_iterate_advance_gone (ends_ofClient service client state [])
  refine ⟨n, fun moves hmoves => ?_⟩
  have hworker := (Course.start (Job.ofClient service) (.start client state)).worker_run moves
  exact (congrArg Prod.snd hworker).trans (hn _ hmoves)

/-- A caller that looks once more at the deadline has what it sees then, if it
still waits. -/
theorem settle_of_sight {τ : Type} {exchange : Exchange τ (Except QueryError Lookup)}
    {verdict : Verdict (Except QueryError Lookup)} (hwaits : exchange.verdict = none)
    (hsight : exchange.expire.sight = some verdict) (name : DeviceName) (limit : Duration) :
    (Detached.started exchange).settle name limit = (.ofVerdict name limit verdict : Waited ρ) := by
  have hexpired : exchange.expire.verdict = none := hwaits
  have hverdict : exchange.expire.look.verdict = some verdict :=
    (look_verdict hexpired).trans hsight
  exact congrArg (Waited.ofVerdict name limit) (Option.get_of_eq_some _ hverdict)

/-- A caller that still waits when the worker has ended is told how the run
ended. -/
theorem settle_of_gone {moves : List Move}
    (hgone : (handedOver service client state moves).phase = .gone)
    (hwaits : (handedOver service client state moves).verdict = none) (name : DeviceName)
    (limit : Duration) :
    (Detached.started (handedOver service client state moves)).settle name limit =
      (⟨resultOf (client.run service state).outcome, []⟩ : Waited ρ) := by
  have hcourse := ((Course.start (Job.ofClient service) (.start client state)).run moves).expire
  have hends := ends_ofClient service client state []
  rcases houtcome : (client.run service state).outcome with fault | result
  · rw [houtcome] at hends
    exact settle_of_sight hwaits (hcourse.sight_of_broken hends hgone) name limit
  · rw [houtcome] at hends
    exact settle_of_sight hwaits (hcourse.sight_of_hasSent hends (.inr hgone) hwaits) name limit

end Verdicts

/-! ## Queries -/

namespace Detached

/-- How far the worker is, if there is one. -/
def worker? : Detached τ α → Option (τ × Phase α)
  | .refused _ _ => none
  | .started exchange => some exchange.worker

/-- There was a worker, and it has ended. -/
def HasEnded (call : Detached τ α) : Prop :=
  ∃ job, call.worker? = some (job, .gone)

theorem hasEnded_started {exchange : Exchange τ α} :
    (started exchange).HasEnded ↔ exchange.phase = .gone := by
  constructor
  · rintro ⟨job, hworker⟩
    exact congrArg Prod.snd (Option.some.inj hworker)
  · intro hphase
    exact ⟨exchange.job, congrArg some (Prod.ext rfl hphase)⟩

end Detached

/-- A query on a worker after some moves, against the same query on the calling
thread. -/
structure WorksAlike (service : Service ρ σ) (state : σ) (name : DeviceName) (limit : Duration)
    (moves : List Move) : Prop where
  /-- The worker has made the first calls of the query, with the same
  answers. -/
  begun : (queryDetached service state name (.started moves)).job.exchanges <+:
    ((query name).run service state).exchanges
  /-- A worker that has ended has made them all, and has given back once
  whatever it was handed, also if nobody waits any more. -/
  completed : (queryDetached service state name (.started moves)).HasEnded →
    (queryDetached service state name (.started moves)).job.exchanges =
        ((query name).run service state).exchanges ∧
      (queryDetached service state name (.started moves)).job.state =
        ((query name).run service state).state ∧
      WellBracketed name (queryDetached service state name (.started moves)).job.exchanges
  /-- How far the worker is depends on nothing but its own steps. -/
  undisturbed : (queryDetached service state name (.started moves)).worker? =
    some ((advance (Job.ofClient service))^[moves.count .work]
      (.start (query name) state, .running))
  /-- The worker ends, if it is given the time. -/
  ends : ∃ n, ∀ more, n ≤ more.count .work →
    (queryDetached service state name (.started (moves ++ more))).HasEnded
  /-- The calling thread makes no call. -/
  silent : ∀ m ≠ .work, (queryDetached service state name (.started (moves ++ [m]))).job =
    (queryDetached service state name (.started moves)).job
  /-- A caller that is not told that its time was up has the result of the
  query, and has lost the worker just where the query breaks off. -/
  told : ∀ waited : Waited ρ,
    (queryDetached service state name (.started moves)).waited name limit = some waited →
      waited.result ≠ .error (.timeout name.lossyText limit) →
        waited = ⟨resultOf ((query name).run service state).outcome, []⟩ ∧
        (waited.result = .error .workerLost ↔
          ∃ fault, ((query name).run service state).outcome = .error fault)
  /-- No such caller is told that there was no worker. -/
  worked : ∀ (waited : Waited ρ) (reason : String),
    (queryDetached service state name (.started moves)).waited name limit = some waited →
      waited.result ≠ .error (.spawn reason)
  /-- To settle the call is to look once more at the deadline. -/
  settled : (queryDetached service state name (.started (moves ++ [.expire, .look]))).waited
      name limit =
    some ((queryDetached service state name (.started moves)).settle name limit : Waited ρ)
  /-- A caller that still waits when the worker has ended is told how the query
  ended. -/
  served : (queryDetached service state name (.started moves)).HasEnded →
    (queryDetached service state name (.started moves)).waited name limit =
      (none : Option (Waited ρ)) →
    (queryDetached service state name (.started moves)).settle name limit =
      (⟨resultOf ((query name).run service state).outcome, []⟩ : Waited ρ)

/-- A query ends with no error but one of a key. -/
theorem outcome_ne_of_key? (service : Service ρ σ) (state : σ) (name : DeviceName)
    {error : QueryError} (hkey : error.key? = none) :
    ((query name).run service state).outcome ≠ .ok (.error error) := by
  intro houtcome
  obtain ⟨key, _, hsome⟩ := (yields_query name).of_outcome houtcome error rfl
  rw [hkey] at hsome
  cases hsome

/-- A query loses no worker by itself. -/
theorem resultOf_eq_workerLost_iff (service : Service ρ σ) (state : σ) (name : DeviceName) :
    resultOf ((query name).run service state).outcome = .error .workerLost ↔
      ∃ fault, ((query name).run service state).outcome = .error fault := by
  rcases houtcome : ((query name).run service state).outcome with fault | result
  · exact ⟨fun _ => ⟨fault, rfl⟩, fun _ => rfl⟩
  · constructor
    · rintro rfl
      exact absurd houtcome (outcome_ne_of_key? service state name rfl)
    · rintro ⟨fault, hfault⟩
      cases hfault

/-- A query does not end because a worker was not started. -/
theorem resultOf_ne_spawn (service : Service ρ σ) (state : σ) (name : DeviceName)
    (reason : String) :
    resultOf ((query name).run service state).outcome ≠ .error (.spawn reason) := by
  rcases houtcome : ((query name).run service state).outcome with fault | result
  · exact nofun
  · rintro rfl
    exact outcome_ne_of_key? service state name rfl houtcome

/-- A query on a worker does what the query does, whatever the order of moves and
however long the caller waits.  Only a worker that was started has moves to put
in an order.  Where none is started nothing of the query is done, and the caller
is told the reason. -/
theorem worksAlike_query (service : Service ρ σ) (state : σ) (name : DeviceName)
    (limit : Duration) :
    (∀ moves, WorksAlike service state name limit moves) ∧
      ∀ reason, (queryDetached service state name (.refused reason)).job.exchanges = [] ∧
        (queryDetached service state name (.refused reason)).job.state = state ∧
        (queryDetached service state name (.refused reason)).waited name limit =
          some (⟨.error (.spawn reason), []⟩ : Waited ρ) := by
  refine ⟨fun moves => ?_, fun reason => ⟨rfl, rfl, rfl⟩⟩
  have hresembles := resembles_run service (query name) state moves
  have hgone : (queryDetached service state name (.started moves)).HasEnded →
      (handedOver service (query name) state moves).phase = .gone :=
    Detached.hasEnded_started.1
  constructor
  case begun => exact hresembles.actions_isPrefix.filterMap _
  case completed =>
    intro hended
    have hrunning : (handedOver service (query name) state moves).phase ≠ .running := by
      rw [hgone hended]
      exact nofun
    obtain ⟨hactions, hstate⟩ := hresembles.eq_run hrunning
    have hexchanges : (handedOver service (query name) state moves).job.exchanges =
        ((query name).run service state).exchanges := congrArg (List.filterMap _) hactions
    refine ⟨hexchanges, hstate, ?_⟩
    show WellBracketed name (handedOver service (query name) state moves).job.exchanges
    rw [hexchanges]
    exact wellBracketed_of_queryTrace (queryTrace_query name service state)
  case undisturbed =>
    exact congrArg some
      ((Course.start (Job.ofClient service) (.start (query name) state)).worker_run moves)
  case ends =>
    obtain ⟨n, hn⟩ := exists_gone service (query name) state
    refine ⟨n, fun more hmore => ?_⟩
    have hcount : n ≤ (moves ++ more).count .work := by
      rw [List.count_append]
      omega
    exact Detached.hasEnded_started.2 (hn (moves ++ more) hcount)
  case silent =>
    intro m hm
    show (handedOver service (query name) state (moves ++ [m])).job =
      (handedOver service (query name) state moves).job
    unfold handedOver
    rw [run_append]
    exact congrArg Prod.fst (worker_move_of_ne _ hm)
  case told =>
    intro waited hwaited hintime
    obtain ⟨verdict, hverdict, rfl⟩ := Option.map_eq_some_iff.1 hwaited
    have htime : verdict ≠ .timedOut := by
      rintro rfl
      exact hintime rfl
    rw [ofVerdict_of_ne_timedOut hverdict htime]
    exact ⟨rfl, resultOf_eq_workerLost_iff service state name⟩
  case worked =>
    intro waited reason hwaited
    obtain ⟨verdict, hverdict, rfl⟩ := Option.map_eq_some_iff.1 hwaited
    by_cases htime : verdict = .timedOut
    · subst htime
      exact nofun
    · rw [ofVerdict_of_ne_timedOut hverdict htime]
      exact resultOf_ne_spawn service state name reason
  case settled =>
    show (handedOver service (query name) state (moves ++ [.expire, .look])).waited name limit = _
    unfold handedOver Exchange.waited
    rw [run_append]
    exact congrArg _ (Option.some_get _).symm
  case served =>
    intro hended hwaits
    exact settle_of_gone (hgone hended) (Option.map_eq_none_iff.1 hwaits) name limit

end DiskQuery.Worker
