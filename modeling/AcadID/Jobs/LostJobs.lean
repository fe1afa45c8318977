/-
**Jobs that are lost, under workers that may stop between any two steps.**

A claimed job is `RUNNING`; only the worker that executes it, or a dead-letter retry that read it
while it had failed, can write it again.

* `Tended` — the invariant: jobs are in queues that are polled, and a running one is held by a worker
  or by a retry in flight.
* `notLost_iff` — **no job is ever lost exactly when no worker that stops, and no retry that is given
  up, is the last to hold a running job**.
* `notLost_fails` — a worker that crashes once it has claimed a job.
-/

import AcadID.Jobs.Fleet
import Mathlib.Data.Fintype.EquivFin

namespace AcadID

open Lib

namespace JobWorker

variable {π ε ω : Type}

/-! ### Jobs that are not lost -/

/-- A job that is over. -/
def hasEnded (status : BackgroundJobStatus) : Bool :=
  [.succeeded, .failed, .cancelled].contains status

/-- A worker that is alive executes the job. -/
def Held (p : Fleet π) (id : Uuid) : Prop :=
  ∃ w job, (p.workers w).job? = some job ∧ job.uuid = id

/-- A dead-letter retry of the job is in flight. -/
def Retried (p : Fleet π) (id : Uuid) : Prop :=
  ∃ existing ∈ p.retries, existing.uuid = id

/-- Some operation of the system puts the job back among those that wait. -/
def Returnable (rt : Runtime) (pr : Processing π ε ω) (p : Fleet π) (id : Uuid) : Prop :=
  ∃ e row, (p.step rt pr e).jobs.find? id = some row ∧ isWaiting row.status = true

/-- **No job is lost**: each is over, waits in a queue that is polled, is executed by a worker that is
alive, or can be put back among those that wait. -/
def NotLost (rt : Runtime) (pr : Processing π ε ω) (p : Fleet π) : Prop :=
  ∀ row ∈ p.jobs.rows, hasEnded row.status = true ∨
    (isWaiting row.status = true ∧ workerQueues.contains row.queue = true) ∨
    (row.status = .running ∧ Held p row.uuid) ∨ Returnable rt pr p row.uuid

/-- **Something other than what the step ends holds each running job**: a worker that it does not
stop, or a retry that it does not give up. -/
def LeavesHeld (p : Fleet π) (e : FleetEvent ε ω) : Prop :=
  ∀ row ∈ p.jobs.rows, row.status = .running →
    (∃ w job, stops p e ≠ some w ∧ (p.workers w).job? = some job ∧ job.uuid = row.uuid) ∨
      ∃ k existing, drops p e ≠ some k ∧ p.retries[k]? = some existing ∧ existing.uuid = row.uuid

/-- The invariant: jobs are in queues that are polled, and a running one is held. -/
def Tended (p : Fleet π) : Prop :=
  ∀ row ∈ p.jobs.rows, workerQueues.contains row.queue = true ∧
    (row.status = .running → Held p row.uuid ∨ Retried p row.uuid)

/-! ### Who holds a job after a step -/

/-- A worker that goes on with its job still holds it, and so do the others. -/
theorem held_set {p : Fleet π} {w : ℕ} {job : BackgroundJob} {work : Work π} {s : Store} {id : Uuid}
    (holds : (p.workers w).job? = some job) (keeps : work.job? = some job ∨ job.uuid ≠ id)
    (held : Held p id) : Held (p.set w work s) id := by
  obtain ⟨w', job', here, rfl⟩ := held
  by_cases same : w' = w
  · subst same
    obtain rfl := Option.some.inj (holds.symm.trans here)
    rcases keeps with keeps | other
    · refine ⟨w', job, ?_, rfl⟩
      show (Function.update p.workers w' work w').job? = some job
      rw [Function.update_self]
      exact keeps
    · exact absurd rfl other
  · refine ⟨w', job', ?_, rfl⟩
    show (Function.update p.workers w work w').job? = some job'
    rw [Function.update_of_ne same]
    exact here

/-- The worker that claims a job holds it; the others hold theirs. -/
theorem held_claim {p : Fleet π} {w : ℕ} {row : BackgroundJob} {state : π} {s : Store} {id : Uuid}
    (idle : p.workers w = .idle) (held : Held p id ∨ row.uuid = id) :
    Held (p.set w (.processing (claimed row) state) s) id := by
  rcases held with ⟨w', job, here, rfl⟩ | rfl
  · have other : w' ≠ w := by
      rintro rfl
      rw [idle] at here
      exact absurd here (by simp [Work.job?])
    refine ⟨w', job, ?_, rfl⟩
    show (Function.update p.workers w _ w').job? = some job
    rw [Function.update_of_ne other]
    exact here
  · refine ⟨w, claimed row, ?_, rfl⟩
    show (Function.update p.workers w _ w).job? = some (claimed row)
    rw [Function.update_self]
    rfl

/-- An error does not leave a job running. -/
theorem failedOrRetrying_status (env : EndEnv) (job : BackgroundJob) (error : ServiceError)
    (row : BackgroundJob) :
    (failedOrRetrying env job error row).queue = row.queue ∧
      (failedOrRetrying env job error row).status ≠ .running := by
  unfold failedOrRetrying
  split <;> exact ⟨rfl, by simp⟩

/-- **A step keeps the invariant**, if it leaves running jobs held. -/
theorem tended_move {p p' : Fleet π} {e : FleetEvent ε ω} (tended : Tended p)
    (leaves : LeavesHeld p e) (move : FleetMove p e p') : Tended p' := by
  cases move with
  | still s jobs =>
    intro row inside
    exact tended row (by rw [← jobs]; exact inside)
  | enqueued job s jobs =>
    intro row inside
    have rows := (Table.insert_eq_some.mp jobs).2
    rcases List.mem_append.mp (rows ▸ inside) with before | new
    · exact tended row before
    · rw [List.mem_singleton.mp new]
      exact ⟨job.queue, fun running => absurd (job.status.symm.trans running) (by simp)⟩
  | claimed w row state s idle found waits queue jobs =>
    intro r inside
    have here : r ∈ (p.jobs.update row.uuid claimed fun _ => rfl).rows := jobs ▸ inside
    rcases Table.mem_update.mp here with ⟨old, there, same, rfl⟩ | ⟨there, other⟩
    · refine ⟨(tended old there).1, fun _ => .inl (held_claim idle (.inr ?_))⟩
      exact same.symm
    · obtain ⟨polled, held⟩ := tended r there
      exact ⟨polled, fun running => (held running).imp (fun h => held_claim idle (.inl h)) id⟩
  | turned w job work s holds keeps jobs =>
    intro row inside
    obtain ⟨polled, held⟩ := tended row (by rw [← jobs]; exact inside)
    exact ⟨polled, fun running => (held running).imp (held_set holds (.inl keeps)) id⟩
  | completed w job result work s holds next jobs =>
    intro r inside
    have here : r ∈ (p.jobs.update job.uuid (succeeded result) fun _ => rfl).rows := jobs ▸ inside
    rcases Table.mem_update.mp here with ⟨old, there, same, rfl⟩ | ⟨there, other⟩
    · exact ⟨(tended old there).1, fun running => absurd running (by simp [succeeded])⟩
    · obtain ⟨polled, held⟩ := tended r there
      exact ⟨polled, fun running => (held running).imp (held_set holds (.inr (Ne.symm other))) id⟩
  | failed w env job error work s holds next jobs =>
    intro r inside
    have here : r ∈ (p.jobs.update job.uuid (failedOrRetrying env job error)
      (failedOrRetrying_uuid env job error)).rows := jobs ▸ inside
    rcases Table.mem_update.mp here with ⟨old, there, same, rfl⟩ | ⟨there, other⟩
    · obtain ⟨queue, stopped⟩ := failedOrRetrying_status env job error old
      exact ⟨by rw [queue]; exact (tended old there).1, fun running => absurd running stopped⟩
    · obtain ⟨polled, held⟩ := tended r there
      exact ⟨polled, fun running => (held running).imp (held_set holds (.inr (Ne.symm other))) id⟩
  | stopped w stops =>
    intro row inside
    refine ⟨(tended row inside).1, fun running => ?_⟩
    rcases leaves row inside running with ⟨w', job, other, holds, same⟩ |
      ⟨k, existing, -, inFlight, same⟩
    · refine .inl ⟨w', job, ?_, same⟩
      show (Function.update p.workers w _ w').job? = some job
      rw [Function.update_of_ne fun same => other (by rw [same]; exact stops)]
      exact holds
    · exact .inr ⟨existing, List.mem_of_getElem? inFlight, same⟩
  | checked existing found failed =>
    intro row inside
    obtain ⟨polled, held⟩ := tended row inside
    refine ⟨polled, fun running => (held running).imp id ?_⟩
    rintro ⟨other, there, same⟩
    exact ⟨other, List.mem_append_left _ there, same⟩
  | revived k now eventUuid existing s is inFlight jobs =>
    intro r inside
    have here : r ∈ (p.jobs.update existing.uuid (revived now existing) fun _ => rfl).rows :=
      jobs ▸ inside
    rcases Table.mem_update.mp here with ⟨old, there, same, rfl⟩ | ⟨there, other⟩
    · exact ⟨(tended old there).1, fun running => absurd running (by simp [revived])⟩
    · obtain ⟨polled, held⟩ := tended r there
      refine ⟨polled, fun running => (held running).imp id ?_⟩
      rintro ⟨waiting, there', same⟩
      obtain ⟨i, at_i⟩ := List.mem_iff_getElem?.mp there'
      refine ⟨waiting, List.mem_eraseIdx_iff_getElem?.mpr ⟨i, fun here => ?_, at_i⟩, same⟩
      rw [here, inFlight] at at_i
      exact other (by rw [← same, ← Option.some.inj at_i])
  | dropped k drops =>
    intro row inside
    refine ⟨(tended row inside).1, fun running => ?_⟩
    rcases leaves row inside running with ⟨w, job, -, holds, same⟩ |
      ⟨i, existing, other, inFlight, same⟩
    · exact .inl ⟨w, job, holds, same⟩
    · refine .inr ⟨existing, List.mem_eraseIdx_iff_getElem?.mpr ⟨i, fun is => ?_, inFlight⟩, same⟩
      exact other (by rw [is]; exact drops)

/-! ### A running job that nothing holds -/

/-- **Nothing writes a running job that nothing holds.** -/
theorem find?_of_unheld {p p' : Fleet π} {e : FleetEvent ε ω} {row : BackgroundJob}
    (found : p.jobs.find? row.uuid = some row) (running : row.status = .running)
    (unheld : ¬ Held p row.uuid) (unretried : ¬ Retried p row.uuid) (move : FleetMove p e p') :
    p'.jobs.find? row.uuid = some row := by
  have untouched : ∀ {id : Uuid} {f : BackgroundJob → BackgroundJob}
      {keeps : ∀ j, (f j).uuid = j.uuid}, id ≠ row.uuid →
      (p.jobs.update id f keeps).find? row.uuid = some row := by
    intro id f keeps other
    rw [Table.find?_update, if_neg other]
    exact found
  cases move with
  | still s jobs => exact (congrArg (Table.find? · row.uuid) jobs).trans found
  | enqueued job s jobs =>
    refine (Table.find?_insert jobs row.uuid).trans ?_
    rw [if_neg, found]
    exact fun same => (Table.insert_eq_some.mp jobs).1 row (Table.find?_mem found) same.symm
  | claimed w old state s idle found' waits queue jobs =>
    refine (congrArg (Table.find? · row.uuid) jobs).trans (untouched fun same => ?_)
    rw [same, found] at found'
    rw [← Option.some.inj found', running] at waits
    exact absurd waits (by decide)
  | turned w job work s holds keeps jobs =>
    exact (congrArg (Table.find? · row.uuid) jobs).trans found
  | completed w job result work s holds next jobs =>
    refine (congrArg (Table.find? · row.uuid) jobs).trans (untouched fun same => ?_)
    exact unheld ⟨w, job, holds, same⟩
  | failed w env job error work s holds next jobs =>
    refine (congrArg (Table.find? · row.uuid) jobs).trans (untouched fun same => ?_)
    exact unheld ⟨w, job, holds, same⟩
  | stopped w stops => exact found
  | checked existing found' failed => exact found
  | revived k now eventUuid existing s is inFlight jobs =>
    refine (congrArg (Table.find? · row.uuid) jobs).trans (untouched fun same => ?_)
    exact unretried ⟨existing, List.mem_of_getElem? inFlight, same⟩
  | dropped k drops => exact found

/-- A running job that nothing holds is lost. -/
theorem lost_of_unheld {rt : Runtime} {pr : Processing π ε ω} {p : Fleet π} {row : BackgroundJob}
    (inside : row ∈ p.jobs.rows) (running : row.status = .running)
    (unheld : ¬ Held p row.uuid) (unretried : ¬ Retried p row.uuid) : ¬ NotLost rt pr p := by
  intro kept
  have found := Table.find?_eq_some.mpr ⟨inside, rfl⟩
  rcases kept row inside with ended | ⟨waits, -⟩ | ⟨-, held⟩ | ⟨e, row', found', waits⟩
  · rw [running] at ended
    exact absurd ended (by decide)
  · rw [running] at waits
    exact absurd waits (by decide)
  · exact unheld held
  · have still := find?_of_unheld found running unheld unretried (step_move rt pr p e)
    rw [found'] at still
    obtain rfl := Option.some.inj still
    rw [running] at waits
    exact absurd waits (by decide)

/-- What a step that stops a worker does. -/
theorem step_of_stops {rt : Runtime} {pr : Processing π ε ω} {p : Fleet π} {e : FleetEvent ε ω}
    {w : ℕ} (stop : stops p e = some w) : p.step rt pr e = p.set w .stopped p.store := by
  cases e with
  | crash w' =>
    obtain rfl := Option.some.inj stop
    rfl
  | fail w' env fate =>
    simp only [stops] at stop
    split at stop
    · rename_i job error holds
      split at stop
      · rename_i cannot
        obtain rfl := Option.some.inj stop
        show p.fail rt w' env fate = _
        unfold Fleet.fail
        rw [holds]
        rcases cannot with rfl | cannot
        · rfl
        · have throws : ∃ e, failOrRetryJob rt env job error p.store = .error e := by
            cases went : failOrRetryJob rt env job error p.store with
            | error e => exact ⟨e, rfl⟩
            | ok pair =>
              have can := canEnd_iff.mpr ⟨pair.2, went⟩
              exact absurd (show canEnd job.uuid env.eventUuid p.store = true from can)
                (by simp [cannot])
          obtain ⟨e, threw⟩ := throws
          cases fate <;> simp only [threw]
      · exact absurd stop (by simp)
    · exact absurd stop (by simp)
  | _ => exact (Option.some_ne_none w stop.symm).elim

/-- What a step that gives up a retry does. -/
theorem step_of_drops {rt : Runtime} {pr : Processing π ε ω} {p : Fleet π} {e : FleetEvent ε ω}
    {k : ℕ} (drop : drops p e = some k) :
    p.step rt pr e = { p with retries := p.retries.eraseIdx k } := by
  cases e with
  | retryAbort k' =>
    obtain rfl := Option.some.inj drop
    rfl
  | retryCommit k' now eventUuid =>
    simp only [drops] at drop
    split at drop
    · rename_i existing inFlight
      split at drop
      · exact absurd drop (by simp)
      · rename_i cannot
        obtain rfl := Option.some.inj drop
        show p.retryCommit k' now eventUuid = _
        unfold Fleet.retryCommit
        rw [inFlight]
        cases went : retryDeadLetterCommit now eventUuid existing p.store with
        | error e => simp only [went]
        | ok pair =>
          exact absurd (show canEnd existing.uuid eventUuid p.store = true from
            canEnd_iff.mpr ⟨pair.2, went⟩) cannot
    · exact absurd drop (by simp)
  | _ => exact (Option.some_ne_none k drop.symm).elim

/-- **A step that does not leave a running job held** loses it. -/
theorem lost_of_not_leaves {rt : Runtime} {pr : Processing π ε ω} {p : Fleet π}
    {e : FleetEvent ε ω} (tended : Tended p) (leaves : ¬ LeavesHeld p e) :
    ¬ NotLost rt pr (p.step rt pr e) := by
  unfold LeavesHeld at leaves
  push Not at leaves
  obtain ⟨row, inside, running, workers, retries⟩ := leaves
  rcases (tended row inside).2 running with ⟨w, job, holds, same⟩ | ⟨existing, there, same⟩
  · have stop : stops p e = some w := by
      by_contra other
      exact workers w job other holds same
    rw [step_of_stops stop]
    refine lost_of_unheld inside running ?_ ?_
    · rintro ⟨w', job', holds', same'⟩
      have holds'' : (Function.update p.workers w .stopped w').job? = some job' := holds'
      by_cases is : w' = w
      · rw [is, Function.update_self] at holds''
        exact absurd holds'' (by simp [Work.job?])
      · rw [Function.update_of_ne is] at holds''
        exact workers w' job' (by rw [stop]; exact fun h => is (Option.some.inj h).symm) holds'' same'
    · rintro ⟨existing, there, same'⟩
      obtain ⟨k, at_k⟩ := List.mem_iff_getElem?.mp there
      refine retries k existing ?_ at_k same'
      have none : drops p e = none := by
        cases e <;> first | rfl | exact (Option.some_ne_none w stop.symm).elim
      rw [none]
      exact fun h => absurd h (by simp)
  · obtain ⟨k, at_k⟩ := List.mem_iff_getElem?.mp there
    have drop : drops p e = some k := by
      by_contra other
      exact retries k existing other at_k same
    rw [step_of_drops drop]
    refine lost_of_unheld inside running ?_ ?_
    · rintro ⟨w, job, holds, same'⟩
      refine workers w job ?_ holds same'
      have none : stops p e = none := by
        cases e <;> first | rfl | exact (Option.some_ne_none k drop.symm).elim
      rw [none]
      exact fun h => absurd h (by simp)
    · rintro ⟨other, there', same'⟩
      obtain ⟨i, away, at_i⟩ := List.mem_eraseIdx_iff_getElem?.mp there'
      exact retries i other (by rw [drop]; exact fun h => away (Option.some.inj h).symm) at_i same'

/-! ### Jobs that are held -/

/-- There is always a free id. -/
theorem exists_free (s : Store) : ∃ eventUuid, s.domainEvents.find? eventUuid = none := by
  have : Infinite String := Infinite.of_injective _ (Text.padStart_injective 0)
  obtain ⟨eventUuid, free⟩ :=
    Infinite.exists_notMem_finset (s.domainEvents.rows.map (·.uuid)).toFinset
  refine ⟨eventUuid, Table.find?_eq_none.mpr fun event inside same => free ?_⟩
  exact List.mem_toFinset.mpr (same ▸ List.mem_map_of_mem inside)

/-- **A retry in flight** can put its job back among those that wait. -/
theorem returnable_of_retried (rt : Runtime) (pr : Processing π ε ω) {p : Fleet π}
    {row : BackgroundJob} (inside : row ∈ p.jobs.rows) (retried : Retried p row.uuid) :
    Returnable rt pr p row.uuid := by
  obtain ⟨existing, there, same⟩ := retried
  obtain ⟨k, at_k⟩ := List.mem_iff_getElem?.mp there
  obtain ⟨eventUuid, free⟩ := exists_free p.store
  have found : p.store.backgroundJobs.find? existing.uuid = some row :=
    Table.find?_eq_some.mpr ⟨inside, same.symm⟩
  have can : canEnd existing.uuid eventUuid p.store = true := by
    unfold canEnd
    rw [found, free]
    rfl
  obtain ⟨t, ended⟩ : ∃ t, retryDeadLetterCommit 0 eventUuid existing p.store = .ok ((), t) :=
    canEnd_iff.mp can
  refine ⟨.retryCommit k 0 eventUuid, revived 0 existing row, ?_, rfl⟩
  have step : p.step rt pr (.retryCommit k 0 eventUuid) = { p with
      store := t
      retries := p.retries.eraseIdx k } := by
    show p.retryCommit k 0 eventUuid = _
    unfold Fleet.retryCommit
    simp only [at_k, ended]
  rw [step]
  have updated := Table.find?_update p.store.backgroundJobs existing.uuid (revived 0 existing)
    (fun _ => rfl) row.uuid
  rw [if_pos same, ← same, found, Option.map_some] at updated
  rw [← same]
  exact (congrArg (Table.find? · existing.uuid) (jobs_of_endAttempt ended)).trans updated

/-- Tended jobs are not lost. -/
theorem notLost_of_tended (rt : Runtime) (pr : Processing π ε ω) {p : Fleet π}
    (tended : Tended p) : NotLost rt pr p := by
  intro row inside
  obtain ⟨queue, held⟩ := tended row inside
  cases is : row.status with
  | queued => exact .inr (.inl ⟨rfl, queue⟩)
  | retrying => exact .inr (.inl ⟨rfl, queue⟩)
  | succeeded => exact .inl rfl
  | failed => exact .inl rfl
  | cancelled => exact .inl rfl
  | running =>
    rcases held is with held | retried
    · exact .inr (.inr (.inl ⟨rfl, held⟩))
    · exact .inr (.inr (.inr (returnable_of_retried rt pr inside retried)))

/-! ### Runs -/

/-- **No job is lost in any state of a run exactly when every step leaves running jobs held**:
whatever the workers do with their jobs, and whatever happens beside them. -/
theorem notLost_iff (rt : Runtime) (pr : Processing π ε ω) (start : Store)
    (empty : start.backgroundJobs.rows = []) (events : List (FleetEvent ε ω)) :
    Throughout (Fleet.step rt pr) (NotLost rt pr) (Fleet.start start) events ↔
      Along (Fleet.step rt pr) LeavesHeld (Fleet.start start) events := by
  have begins : Tended (Fleet.start start : Fleet π) := by
    intro row inside
    exact absurd (show row ∈ start.backgroundJobs.rows from inside) (by simp [empty])
  exact throughout_iff_of_exact
    (fun p e (tended : Tended p) leaves => tended_move tended leaves (step_move rt pr p e))
    (fun p tended => notLost_of_tended rt pr tended)
    (fun p e tended leaves => lost_of_not_leaves tended leaves) begins events

/-! ### A worker that crashes -/

/-- `processDeferredIntegration`, beside which nothing happens. -/
def deferred : Processing Unit Unit Unit where
  start _ := ()
  turn job _ _ s := (.inr (.ok (.obj
    [("mode", .str "deferred_adapter"), ("type", .str job.type.name),
      ("message", .str ("Durable worker runtime is ready; " ++
        "this integration-specific processor is intentionally deferred."))])), s)
  outside _ s := s
  turn_jobs _ _ _ _ := rfl
  outside_jobs _ _ := rfl

/-- A document to be generated. -/
def document : NewJob where
  job := Queue.newJob
    { now := 0
      jobUuid := "70000000-0000-4000-8000-000000000001"
      eventUuid := "80000000-0000-4000-8000-000000000001"
      recordUuid := "90000000-0000-4000-8000-000000000001" }
    { type := .pdfGeneration
      queue := none
      institutionId := none
      createdById := none
      relatedEntityType := none
      relatedEntityId := none
      priority := none
      maxAttempts := none
      runAfter := none
      payload := .obj []
      eventType := none
      eventPayload := none
      idempotencyKey := none
      idempotencyScope := none
      idempotencyTtlHours := none }
  status := rfl
  attempts := rfl
  allowed := by decide
  queue := by decide

/-- The event that announces it. -/
def announced : DomainEvent where
  uuid := "80000000-0000-4000-8000-000000000001"
  type := "pdf_generation.queued"
  aggregateType := "BackgroundJob"
  aggregateId := document.job.uuid
  institutionId := none
  jobId := some document.job.uuid
  payload := .obj []

/-- The first worker claims the document and crashes. -/
def crashed : List (FleetEvent Unit Unit) :=
  [.enqueue document announced, .claim 0 0 [], .crash 0]

/-- No job is lost in a run of this crash exactly when the crash leaves one held. -/
theorem notLost_crashed :
    Throughout (Fleet.step .plain deferred) (NotLost .plain deferred) (Fleet.start .empty) crashed ↔
      Along (Fleet.step .plain deferred) LeavesHeld (Fleet.start .empty) crashed :=
  notLost_iff .plain deferred .empty rfl crashed

/-- **A job can be lost**: its worker crashes, and nothing looks for it any more. -/
theorem notLost_fails :
    ¬ ∀ (rt : Runtime) (start : Store) (events : List (FleetEvent Unit Unit)),
      start.backgroundJobs.rows = [] →
        Throughout (Fleet.step rt deferred) (NotLost rt deferred) (Fleet.start start) events := by
  intro all
  have last := throughout_iff_prefixes.mp (all .plain .empty crashed rfl) crashed []
    (List.append_nil _).symm
  have inside : claimed document.job ∈
      (runs (Fleet.step .plain deferred) (Fleet.start .empty) crashed).jobs.rows :=
    List.mem_singleton.mpr rfl
  refine lost_of_unheld inside rfl ?_ ?_ last
  · rintro ⟨w, job, holds, -⟩
    by_cases first : w = 0
    · subst first
      exact (Option.some_ne_none job holds.symm).elim
    · have idle : (Function.update (Function.update (fun _ => Work.idle) 0
          (Work.processing (claimed document.job) ())) 0 Work.stopped w).job? = some job := holds
      rw [Function.update_of_ne first, Function.update_of_ne first] at idle
      exact absurd idle (by simp [Work.job?])
  · rintro ⟨existing, there, -⟩
    exact absurd (show existing ∈ [] from there) List.not_mem_nil

end JobWorker

end AcadID
