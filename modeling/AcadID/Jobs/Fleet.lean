/-
**Any number of workers over one queue.**

* `Processing` — what the workers do with the jobs they hold, and the rest of the system beside them:
  steps on the store, none of which writes a job; `Processing.beside` adds one type of jobs.
* `Fleet.step` — jobs enqueued, claimed, processed, completed and failed, workers that stop between
  any two steps, and dead-letter retries whose check comes before their transaction. A transaction
  may fail, or be committed with its answer lost.
* `FleetMove` and `step_move` — **what a step may do**: the one inversion lemma of the machine.
-/

import AcadID.Jobs.Worker
import AcadID.Lib.Run
import Mathlib.Logic.Function.Basic

namespace AcadID

open Lib

namespace JobWorker

/-! ### The machine -/

/-- What the workers do with the jobs they hold (`turn`), and the rest of the system (`outside`). -/
structure Processing (π ε ω : Type) where
  start : BackgroundJob → π
  turn : BackgroundJob → π → ε → Store → (π ⊕ Except ServiceError Json) × Store
  outside : ω → Store → Store
  turn_jobs : ∀ job state e s, (turn job state e s).2.backgroundJobs = s.backgroundJobs
  outside_jobs : ∀ o s, (outside o s).backgroundJobs = s.backgroundJobs

/-- The processing of one type of jobs, from its first state, beside that of all others. -/
def Processing.beside {σ κ π ε ω : Type} (pr : Processing π ε ω) (type : BackgroundJobType)
    (first : σ)
    (turn : BackgroundJob → σ → κ → Store → (σ ⊕ Except ServiceError Json) × Store)
    (keeps : ∀ job state e s, (turn job state e s).2.backgroundJobs = s.backgroundJobs) :
    Processing (σ ⊕ π) (κ ⊕ ε) ω where
  start job := if job.type = type then .inl first else .inr (pr.start job)
  turn job state e s :=
    match state, e with
    | .inl state, .inl e => ((turn job state e s).1.map .inl id, (turn job state e s).2)
    | .inr state, .inr e => ((pr.turn job state e s).1.map .inr id, (pr.turn job state e s).2)
    | state, _ => (.inl state, s)
  outside := pr.outside
  turn_jobs job state e s := by
    split
    · exact keeps job _ _ s
    · exact pr.turn_jobs job _ _ s
    · rfl
  outside_jobs := pr.outside_jobs

/-- How far a worker has come: it is to claim a job, to process the one it holds, to complete it, to
fail it, or it has stopped. -/
inductive Work (π : Type) where
  | idle
  | processing (job : BackgroundJob) (state : π)
  | completing (job : BackgroundJob) (result : Json)
  | failing (job : BackgroundJob) (error : ServiceError)
  | stopped

/-- The job that a worker executes. -/
def Work.job? {π : Type} : Work π → Option BackgroundJob
  | .processing job _ | .completing job _ | .failing job _ => some job
  | .idle | .stopped => none

/-- How a worker goes on once its processing has taken a turn. -/
def Work.next {π : Type} (job : BackgroundJob) : π ⊕ Except ServiceError Json → Work π
  | .inl state => .processing job state
  | .inr (.ok result) => .completing job result
  | .inr (.error error) => .failing job error

@[simp] theorem Work.job?_next {π : Type} (job : BackgroundJob)
    (turned : π ⊕ Except ServiceError Json) : (Work.next job turned).job? = some job := by
  rcases turned with state | result | error <;> rfl

/-- How a transaction fares; `lost` is one that is committed, with its answer lost. -/
inductive Fate where
  | done
  | failed
  | lost
  deriving DecidableEq

/-- A job as the system enqueues it. -/
structure NewJob where
  job : BackgroundJob
  status : job.status = .queued
  attempts : job.attempts = 0
  allowed : 0 < job.maxAttempts
  queue : workerQueues.contains job.queue = true

/-- The store, the workers, and what the checks of the dead-letter retries in flight have read. -/
structure Fleet (π : Type) where
  store : Store
  workers : ℕ → Work π
  retries : List BackgroundJob

/-- What happens next. -/
inductive FleetEvent (ε ω : Type) where
  | enqueue (job : NewJob) (event : DomainEvent)
  /-- A claim, past the rows that other transactions have locked. -/
  | claim (w : ℕ) (now : Time) (locked : List Uuid)
  | process (w : ℕ) (e : ε)
  | complete (w : ℕ) (env : EndEnv) (fate : Fate)
  | fail (w : ℕ) (env : EndEnv) (fate : Fate)
  | crash (w : ℕ)
  /-- The check of a dead-letter retry. -/
  | retryCheck (id : Uuid)
  /-- The transaction of the `k`-th dead-letter retry in flight. -/
  | retryCommit (k : ℕ) (now : Time) (eventUuid : Uuid)
  | retryAbort (k : ℕ)
  | outside (o : ω)

namespace Fleet

variable {π ε ω : Type}

def jobs (p : Fleet π) : Table BackgroundJob.uuid :=
  p.store.backgroundJobs

/-- A worker moved on, over the store it leaves. -/
def set (p : Fleet π) (w : ℕ) (work : Work π) (s : Store) : Fleet π :=
  { p with
    store := s
    workers := Function.update p.workers w work }

variable (rt : Runtime) (pr : Processing π ε ω)

def enqueue (p : Fleet π) (job : NewJob) (event : DomainEvent) : Fleet π :=
  match Queue.insertJob job.job event p.store with
  | .ok (_, t) => { p with store := t }
  | .error _ => p

def claim (p : Fleet π) (w : ℕ) (now : Time) (locked : List Uuid) : Fleet π :=
  match p.workers w with
  | .idle =>
    match claimNextJob now locked p.store with
    | some (job, t) => p.set w (.processing job (pr.start job)) t
    | none => p
  | _ => p

def process (p : Fleet π) (w : ℕ) (e : ε) : Fleet π :=
  match p.workers w with
  | .processing job state =>
    match pr.turn job state e p.store with
    | (.inl state', t) => p.set w (.processing job state') t
    | (.inr (.ok result), t) => p.set w (.completing job result) t
    | (.inr (.error error), t) => p.set w (.failing job error) t
  | _ => p

theorem workers_set (p : Fleet π) (w : ℕ) (work : Work π) (s : Store) (w' : ℕ) :
    (p.set w work s).workers w' = if w' = w then work else p.workers w' := by
  by_cases same : w' = w
  · subst same
    rw [if_pos rfl]
    exact Function.update_self _ _ _
  · rw [if_neg same]
    exact Function.update_of_ne same _ _

/-- A turn of a worker that processes a job. -/
theorem process_eq {pr : Processing π ε ω} {p : Fleet π} {w : ℕ} {job : BackgroundJob} {state : π}
    (holds : p.workers w = .processing job state) (e : ε) :
    p.process pr w e = p.set w (Work.next job (pr.turn job state e p.store).1)
      (pr.turn job state e p.store).2 := by
  unfold process
  simp only [holds]
  generalize pr.turn job state e p.store = turned
  rcases turned with ⟨state' | result | error, t⟩ <;> rfl

theorem process_of_not_processing {pr : Processing π ε ω} {p : Fleet π} {w : ℕ} {e : ε}
    (none : ∀ job state, p.workers w ≠ .processing job state) : p.process pr w e = p := by
  unfold process
  split
  · rename_i job state holds
    exact absurd holds (none job state)
  · rfl

/-- A completion that fails is an error of the attempt. -/
def complete (p : Fleet π) (w : ℕ) (env : EndEnv) (fate : Fate) : Fleet π :=
  match p.workers w with
  | .completing job result =>
    match fate, completeJob rt env job result p.store with
    | .failed, _ => p.set w (.failing job .database) p.store
    | _, .error e => p.set w (.failing job e) p.store
    | .done, .ok (_, t) => p.set w .idle t
    | .lost, .ok (_, t) => p.set w (.failing job .database) t
  | _ => p

/-- A failure that cannot be written ends the loop of the worker. -/
def fail (p : Fleet π) (w : ℕ) (env : EndEnv) (fate : Fate) : Fleet π :=
  match p.workers w with
  | .failing job error =>
    match fate, failOrRetryJob rt env job error p.store with
    | .failed, _ => p.set w .stopped p.store
    | _, .error _ => p.set w .stopped p.store
    | .done, .ok (_, t) => p.set w .idle t
    | .lost, .ok (_, t) => p.set w .stopped t
  | _ => p

def retryCheck (p : Fleet π) (id : Uuid) : Fleet π :=
  match retryDeadLetterCheck id p.store with
  | .ok existing => { p with retries := p.retries ++ [existing] }
  | .error _ => p

def retryCommit (p : Fleet π) (k : ℕ) (now : Time) (eventUuid : Uuid) : Fleet π :=
  match p.retries[k]? with
  | none => p
  | some existing =>
    match retryDeadLetterCommit now eventUuid existing p.store with
    | .ok (_, t) => { p with
        store := t
        retries := p.retries.eraseIdx k }
    | .error _ => { p with retries := p.retries.eraseIdx k }

def step (p : Fleet π) (e : FleetEvent ε ω) : Fleet π :=
  match e with
  | .enqueue job event => p.enqueue job event
  | .claim w now locked => p.claim pr w now locked
  | .process w e => p.process pr w e
  | .complete w env fate => p.complete rt w env fate
  | .fail w env fate => p.fail rt w env fate
  | .crash w => p.set w .stopped p.store
  | .retryCheck id => p.retryCheck id
  | .retryCommit k now eventUuid => p.retryCommit k now eventUuid
  | .retryAbort k => { p with retries := p.retries.eraseIdx k }
  | .outside o => { p with store := pr.outside o p.store }

/-- Workers before their first job. -/
def start (s : Store) : Fleet π where
  store := s
  workers _ := .idle
  retries := []

end Fleet

/-! ### What a step may do -/

section Moves

variable {π ε ω : Type}

/-- The worker that a step stops, its job left as it is: it crashes, or the transaction that would
have written its failure does not go through. -/
def stops (p : Fleet π) : FleetEvent ε ω → Option ℕ
  | .crash w => some w
  | .fail w env fate =>
    match p.workers w with
    | .failing job _ =>
      if fate = .failed ∨ canEnd job.uuid env.eventUuid p.store = false then some w else none
    | _ => none
  | _ => none

/-- The retry that a step gives up: it is abandoned, or its transaction does not go through. -/
def drops (p : Fleet π) : FleetEvent ε ω → Option ℕ
  | .retryAbort k => some k
  | .retryCommit k _ eventUuid =>
    match p.retries[k]? with
    | some existing => if canEnd existing.uuid eventUuid p.store then none else some k
    | none => none
  | _ => none

/-- **What a step may do** to the jobs, the workers and the retries in flight. -/
inductive FleetMove (p : Fleet π) (e : FleetEvent ε ω) : Fleet π → Prop where
  /-- Nothing happens to any of them. -/
  | still (s : Store) (jobs : s.backgroundJobs = p.jobs) : FleetMove p e { p with store := s }
  | enqueued (job : NewJob) (s : Store) (jobs : p.jobs.insert job.job = some s.backgroundJobs) :
      FleetMove p e { p with store := s }
  | claimed (w : ℕ) (row : BackgroundJob) (state : π) (s : Store) (idle : p.workers w = .idle)
      (found : p.jobs.find? row.uuid = some row) (waits : isWaiting row.status = true)
      (queue : workerQueues.contains row.queue = true)
      (jobs : s.backgroundJobs = p.jobs.update row.uuid claimed fun _ => rfl) :
      FleetMove p e (p.set w (.processing (claimed row) state) s)
  /-- A worker goes on with its job. -/
  | turned (w : ℕ) (job : BackgroundJob) (work : Work π) (s : Store)
      (holds : (p.workers w).job? = some job) (keeps : work.job? = some job)
      (jobs : s.backgroundJobs = p.jobs) : FleetMove p e (p.set w work s)
  | completed (w : ℕ) (job : BackgroundJob) (result : Json) (work : Work π) (s : Store)
      (holds : (p.workers w).job? = some job)
      (next : work = .idle ∨ work = .failing job .database)
      (jobs : s.backgroundJobs = p.jobs.update job.uuid (succeeded result) fun _ => rfl) :
      FleetMove p e (p.set w work s)
  | failed (w : ℕ) (env : EndEnv) (job : BackgroundJob) (error : ServiceError) (work : Work π)
      (s : Store) (holds : (p.workers w).job? = some job) (next : work = .idle ∨ work = .stopped)
      (jobs : s.backgroundJobs = p.jobs.update job.uuid (failedOrRetrying env job error)
        (failedOrRetrying_uuid env job error)) : FleetMove p e (p.set w work s)
  | stopped (w : ℕ) (stops : stops p e = some w) : FleetMove p e (p.set w .stopped p.store)
  | checked (existing : BackgroundJob) (found : p.jobs.find? existing.uuid = some existing)
      (failed : existing.status = .failed) :
      FleetMove p e { p with retries := p.retries ++ [existing] }
  | revived (k : ℕ) (now : Time) (eventUuid : Uuid) (existing : BackgroundJob) (s : Store)
      (is : e = .retryCommit k now eventUuid) (inFlight : p.retries[k]? = some existing)
      (jobs : s.backgroundJobs = p.jobs.update existing.uuid (revived now existing) fun _ => rfl) :
      FleetMove p e { p with
        store := s
        retries := p.retries.eraseIdx k }
  | dropped (k : ℕ) (drops : drops p e = some k) :
      FleetMove p e { p with retries := p.retries.eraseIdx k }

/-- The end of an attempt, written. -/
theorem jobs_of_endAttempt {id : Uuid} {f : BackgroundJob → BackgroundJob}
    {keeps : ∀ j, (f j).uuid = j.uuid}
    {deliver : Table WebhookDelivery.uuid → Table WebhookDelivery.uuid} {event : DomainEvent}
    {s t : Store} {u : Unit} (ended : endAttempt id f keeps deliver event s = .ok (u, t)) :
    t.backgroundJobs = s.backgroundJobs.update id f keeps := by
  obtain ⟨row, events, -, -, rfl⟩ := endAttempt_eq_ok.mp ended
  rfl

theorem canEnd_of_error {id : Uuid} {f : BackgroundJob → BackgroundJob}
    {keeps : ∀ j, (f j).uuid = j.uuid}
    {deliver : Table WebhookDelivery.uuid → Table WebhookDelivery.uuid} {event : DomainEvent}
    {s : Store} {e : ServiceError} (threw : endAttempt id f keeps deliver event s = .error e) :
    canEnd id event.uuid s = false := by
  refine Bool.eq_false_iff.mpr fun can => ?_
  obtain ⟨t, ended⟩ := (@canEnd_iff id f keeps deliver event s).mp can
  exact absurd (threw.symm.trans ended) (by simp)

variable {rt : Runtime} {pr : Processing π ε ω} {p : Fleet π}

/-- A step that does nothing. -/
theorem FleetMove.refl (e : FleetEvent ε ω) : FleetMove p e p :=
  .still p.store rfl

theorem claim_move (w : ℕ) (now : Time) (locked : List Uuid) :
    FleetMove p (.claim w now locked : FleetEvent ε ω) (p.claim pr w now locked) := by
  unfold Fleet.claim
  split
  · rename_i idle
    split
    · rename_i job t claims
      obtain ⟨row, found, waits, queue, -, rfl, rfl⟩ := claimNextJob_eq_some claims
      exact .claimed w row _ _ idle found waits queue rfl
    · exact .refl _
  · exact .refl _

theorem process_move (w : ℕ) (e : ε) :
    FleetMove p (.process w e : FleetEvent ε ω) (p.process pr w e) := by
  cases holds : p.workers w with
  | processing job state =>
    rw [Fleet.process_eq holds]
    exact .turned w job _ _ (by rw [holds]; rfl) (Work.job?_next job _)
      (pr.turn_jobs job state e p.store)
  | idle | completing | failing | stopped =>
    rw [Fleet.process_of_not_processing fun job state => by rw [holds]; simp]
    exact .refl _

theorem complete_move (w : ℕ) (env : EndEnv) (fate : Fate) :
    FleetMove p (.complete w env fate : FleetEvent ε ω) (p.complete rt w env fate) := by
  unfold Fleet.complete
  split
  · rename_i job result holds
    have holds' : (p.workers w).job? = some job := by rw [holds]; rfl
    split
    · exact .turned w job _ _ holds' rfl rfl
    · exact .turned w job _ _ holds' rfl rfl
    · rename_i t ended
      exact .completed w job result _ t holds' (.inl rfl) (jobs_of_endAttempt ended)
    · rename_i t ended
      exact .completed w job result _ t holds' (.inr rfl) (jobs_of_endAttempt ended)
  · exact .refl _

theorem fail_move (w : ℕ) (env : EndEnv) (fate : Fate) :
    FleetMove p (.fail w env fate : FleetEvent ε ω) (p.fail rt w env fate) := by
  unfold Fleet.fail
  split
  · rename_i job error holds
    have holds' : (p.workers w).job? = some job := by rw [holds]; rfl
    split
    · refine .stopped w ?_
      unfold stops
      simp only [holds, true_or, if_true]
    · rename_i e threw
      refine .stopped w ?_
      unfold stops
      have cannot : canEnd job.uuid env.eventUuid p.store = false := canEnd_of_error threw
      simp only [holds, cannot, or_true, if_true]
    · rename_i t ended
      exact .failed w env job error _ t holds' (.inl rfl) (jobs_of_endAttempt ended)
    · rename_i t ended
      exact .failed w env job error _ t holds' (.inr rfl) (jobs_of_endAttempt ended)
  · exact .refl _

theorem retryCommit_move (k : ℕ) (now : Time) (eventUuid : Uuid) :
    FleetMove p (.retryCommit k now eventUuid : FleetEvent ε ω)
      (p.retryCommit k now eventUuid) := by
  unfold Fleet.retryCommit
  split
  · exact .refl _
  · rename_i existing inFlight
    split
    · rename_i t ended
      exact .revived k now eventUuid existing t rfl inFlight (jobs_of_endAttempt ended)
    · rename_i e threw
      refine .dropped k ?_
      unfold drops
      have cannot : canEnd existing.uuid eventUuid p.store = false := canEnd_of_error threw
      simp only [inFlight, cannot, Bool.false_eq_true, if_false]

/-- **The inversion lemma**: every step is one of the moves. -/
theorem step_move (rt : Runtime) (pr : Processing π ε ω) (p : Fleet π) (e : FleetEvent ε ω) :
    FleetMove p e (p.step rt pr e) := by
  cases e with
  | enqueue job event =>
    show FleetMove p _ (p.enqueue job event)
    unfold Fleet.enqueue
    split
    · rename_i response t inserted
      obtain ⟨-, jobs, events, jobIn, -, rfl⟩ := Queue.insertJob_eq_ok.mp inserted
      exact .enqueued job _ jobIn
    · exact .refl _
  | claim w now locked => exact claim_move w now locked
  | process w e => exact process_move w e
  | complete w env fate => exact complete_move w env fate
  | fail w env fate => exact fail_move w env fate
  | crash w => exact .stopped w rfl
  | retryCheck id =>
    show FleetMove p _ (p.retryCheck id)
    unfold Fleet.retryCheck
    split
    · rename_i existing checked
      obtain ⟨found, failed⟩ := retryDeadLetterCheck_eq_ok.mp checked
      refine .checked existing ?_ failed
      rw [← Table.find?_key found] at found
      exact found
    · exact .refl _
  | retryCommit k now eventUuid => exact retryCommit_move k now eventUuid
  | retryAbort k => exact .dropped k rfl
  | outside o => exact .still _ (pr.outside_jobs o p.store)

end Moves

end JobWorker

end AcadID
