/-
**One worker for each job, and no more attempts than it has.**

* `Sole` — a job is executed by one worker at most; `Bounded` — its attempts stay within its maximum.
* `AttemptsInv` — a job that is executed is running, or its completion is committed with the answer
  lost; so it is neither claimed nor read by a dead-letter retry.
* `attempts_of_unclaimed` — **both hold in every state of a run in which no dead-letter retry writes a
  job that was claimed after its check read it**.
* `attempts_fails` — two retries of one job, the second written after a worker has claimed it.
-/

import AcadID.Jobs.LostJobs

namespace AcadID

open Lib

namespace JobWorker

variable {π ε ω : Type}

/-! ### The property -/

/-- Each job is executed by one worker at most. -/
def Sole (p : Fleet π) : Prop :=
  ∀ w w' job job', (p.workers w).job? = some job → (p.workers w').job? = some job' →
    job.uuid = job'.uuid → w = w'

/-- No job has had more attempts than it may have. -/
def Bounded (p : Fleet π) : Prop :=
  ∀ row ∈ p.jobs.rows, row.attempts ≤ row.maxAttempts

/-- **A dead-letter retry that writes a job** finds it as often claimed as its check read it. -/
def Unclaimed (p : Fleet π) (e : FleetEvent ε ω) : Prop :=
  ∀ k now eventUuid existing row, e = .retryCommit k now eventUuid →
    p.retries[k]? = some existing → p.jobs.find? existing.uuid = some row →
      row.attempts = existing.attempts

/-! ### The invariant -/

/-- What is known of a job that a worker executes. -/
def Executed (p : Fleet π) (job : BackgroundJob) : Prop :=
  ∃ row, p.jobs.find? job.uuid = some row ∧ row.attempts = job.attempts ∧
    row.maxAttempts = job.maxAttempts ∧ (row.status = .running ∨ row.status = .succeeded)

/-- What is known of a job that a retry in flight has read: unless it was claimed since, it has
failed, or waits for another retry. -/
def ReadFailed (p : Fleet π) (existing : BackgroundJob) : Prop :=
  ∃ row, p.jobs.find? existing.uuid = some row ∧ existing.attempts ≤ row.attempts ∧
    (row.attempts = existing.attempts → row.status = .failed ∨ row.status = .retrying)

structure AttemptsInv (p : Fleet π) : Prop where
  bounded : ∀ row ∈ p.jobs.rows, row.attempts ≤ row.maxAttempts ∧
    (isWaiting row.status = true → row.attempts < row.maxAttempts)
  executed : ∀ w job, (p.workers w).job? = some job → Executed p job
  sole : Sole p
  retries : ∀ existing ∈ p.retries, ReadFailed p existing

/-! ### Who executes a job after a step -/

/-- Whoever executes a job after a step that moved one worker on. -/
theorem holds_set {p : Fleet π} {w w' : ℕ} {work : Work π} {s : Store} {job : BackgroundJob}
    (holds : ((p.set w work s).workers w').job? = some job) :
    w' = w ∧ work.job? = some job ∨ w' ≠ w ∧ (p.workers w').job? = some job := by
  rw [Fleet.workers_set] at holds
  by_cases same : w' = w
  · rw [if_pos same] at holds
    exact .inl ⟨same, holds⟩
  · rw [if_neg same] at holds
    exact .inr ⟨same, holds⟩

/-- A worker that goes on with its job, or lets it go, leaves each job to one worker. -/
theorem sole_set {p : Fleet π} {w : ℕ} {job : BackgroundJob} {work : Work π} {s : Store}
    (sole : Sole p) (holds : (p.workers w).job? = some job)
    (next : ∀ job', work.job? = some job' → job' = job) : Sole (p.set w work s) := by
  intro a b job₁ job₂ first second same
  rcases holds_set first with ⟨rfl, isFirst⟩ | ⟨-, firstHeld⟩
  · rcases holds_set second with ⟨rfl, -⟩ | ⟨-, secondHeld⟩
    · rfl
    · exact sole a b job job₂ holds secondHeld (by rw [← next job₁ isFirst]; exact same)
  · rcases holds_set second with ⟨rfl, isSecond⟩ | ⟨-, secondHeld⟩
    · exact sole a b job₁ job firstHeld holds (by rw [← next job₂ isSecond]; exact same)
    · exact sole a b job₁ job₂ firstHeld secondHeld same

/-- A step that writes no job leaves what is known of it. -/
theorem Executed.of_jobs {p p' : Fleet π} {job : BackgroundJob} (known : Executed p job)
    (jobs : p'.jobs = p.jobs) : Executed p' job := by
  unfold Executed
  rw [jobs]
  exact known

theorem ReadFailed.of_jobs {p p' : Fleet π} {existing : BackgroundJob}
    (known : ReadFailed p existing) (jobs : p'.jobs = p.jobs) : ReadFailed p' existing := by
  unfold ReadFailed
  rw [jobs]
  exact known

/-- **The invariant after a step that writes no job**, from what is known of the workers. -/
theorem attemptsInv_of_jobs {p p' : Fleet π} (inv : AttemptsInv p) (jobs : p'.jobs = p.jobs)
    (executes : ∀ w job, (p'.workers w).job? = some job →
      ∃ w, (p.workers w).job? = some job) (sole : Sole p')
    (retries : ∀ existing ∈ p'.retries, ReadFailed p existing) : AttemptsInv p' := by
  refine ⟨fun row inside => inv.bounded row (by rw [← jobs]; exact inside), fun w job holds => ?_,
    sole, fun existing inside => (retries existing inside).of_jobs jobs⟩
  obtain ⟨w', held⟩ := executes w job holds
  exact (inv.executed w' job held).of_jobs jobs

/-! ### Steps -/

section Updates

variable {p p' : Fleet π} {id : Uuid} {f : BackgroundJob → BackgroundJob}
  {keeps : ∀ j, (f j).uuid = j.uuid}

/-- What is known of another job than the one written. -/
theorem Executed.of_other {job : BackgroundJob} (known : Executed p job)
    (jobs : p'.jobs = p.jobs.update id f keeps) (other : id ≠ job.uuid) : Executed p' job := by
  obtain ⟨row, found, rest⟩ := known
  refine ⟨row, ?_, rest⟩
  rw [jobs, Table.find?_update, if_neg other]
  exact found

theorem ReadFailed.of_other {existing : BackgroundJob} (known : ReadFailed p existing)
    (jobs : p'.jobs = p.jobs.update id f keeps) (other : id ≠ existing.uuid) :
    ReadFailed p' existing := by
  obtain ⟨row, found, rest⟩ := known
  refine ⟨row, ?_, rest⟩
  rw [jobs, Table.find?_update, if_neg other]
  exact found

/-- The row written. -/
theorem find?_written {row : BackgroundJob} (jobs : p'.jobs = p.jobs.update id f keeps)
    (found : p.jobs.find? id = some row) : p'.jobs.find? id = some (f row) := by
  rw [jobs, Table.find?_update, if_pos rfl, found]
  rfl

end Updates

/-- A retry in flight knows a job that is executed as claimed since. -/
theorem lt_of_executed {p : Fleet π} {existing row : BackgroundJob}
    (known : ReadFailed p existing) (found : p.jobs.find? existing.uuid = some row)
    (executed : row.status = .running ∨ row.status = .succeeded) :
    existing.attempts < row.attempts := by
  obtain ⟨row', found', most, idle⟩ := known
  obtain rfl := Option.some.inj (found.symm.trans found')
  refine Nat.lt_of_le_of_ne most fun same => ?_
  rcases idle same.symm with failed | retrying
  · rw [failed] at executed
    exact absurd executed (by simp)
  · rw [retrying] at executed
    exact absurd executed (by simp)

/-- A waiting job is claimed: no worker executed it, and it has an attempt left. -/
theorem attemptsInv_claimed {p : Fleet π} {w : ℕ} {row : BackgroundJob} {state : π} {s : Store}
    (inv : AttemptsInv p) (found : p.jobs.find? row.uuid = some row)
    (waits : isWaiting row.status = true)
    (jobs : s.backgroundJobs = p.jobs.update row.uuid claimed fun _ => rfl) :
    AttemptsInv (p.set w (.processing (claimed row) state) s) := by
  have free : ∀ w' job, (p.workers w').job? = some job → job.uuid ≠ row.uuid := by
    intro w' job holds same
    obtain ⟨row', found', -, -, status⟩ := inv.executed w' job holds
    rw [same, found] at found'
    obtain rfl := Option.some.inj found'
    rcases status with running | succeeded
    · rw [running] at waits
      exact absurd waits (by decide)
    · rw [succeeded] at waits
      exact absurd waits (by decide)
  refine ⟨fun r inside => ?_, fun w' job holds => ?_, fun a b job₁ job₂ first second same => ?_,
    fun existing inside => ?_⟩
  · have here : r ∈ (p.jobs.update row.uuid claimed fun _ => rfl).rows := jobs ▸ inside
    rcases Table.mem_update.mp here with ⟨old, there, same, rfl⟩ | ⟨there, -⟩
    · obtain rfl := Table.eq_of_key_eq there (Table.find?_mem found) same
      have left := (inv.bounded old there).2 waits
      exact ⟨left, fun waits => absurd waits (by simp [claimed, isWaiting])⟩
    · exact inv.bounded r there
  · rcases holds_set holds with ⟨-, isNew⟩ | ⟨-, before⟩
    · obtain rfl := Option.some.inj isNew
      exact ⟨claimed row, find?_written jobs found, rfl, rfl, .inl rfl⟩
    · exact (inv.executed w' job before).of_other jobs (free w' job before).symm
  · rcases holds_set first with ⟨rfl, isFirst⟩ | ⟨-, firstHeld⟩
    · rcases holds_set second with ⟨rfl, -⟩ | ⟨-, secondHeld⟩
      · rfl
      · obtain rfl := Option.some.inj isFirst
        exact absurd same.symm (free b job₂ secondHeld)
    · rcases holds_set second with ⟨rfl, isSecond⟩ | ⟨-, secondHeld⟩
      · obtain rfl := Option.some.inj isSecond
        exact absurd same (free a job₁ firstHeld)
      · exact inv.sole a b job₁ job₂ firstHeld secondHeld same
  · have known := inv.retries existing inside
    by_cases same : row.uuid = existing.uuid
    · obtain ⟨row', found', most, -⟩ := known
      rw [← same, found] at found'
      obtain rfl := Option.some.inj found'
      refine ⟨claimed row, ?_, Nat.le_succ_of_le most, fun is => ?_⟩
      · rw [← same]
        exact find?_written jobs found
      · exact absurd (show row.attempts + 1 = existing.attempts from is) (by omega)
    · exact known.of_other jobs same

/-- **An attempt ends**: its job, which only its worker executed, is written. -/
theorem attemptsInv_ended {p : Fleet π} {w : ℕ} {job : BackgroundJob} {work : Work π} {s : Store}
    {f : BackgroundJob → BackgroundJob} {keeps : ∀ j, (f j).uuid = j.uuid} (inv : AttemptsInv p)
    (holds : (p.workers w).job? = some job)
    (next : ∀ job', work.job? = some job' → job' = job)
    (jobs : s.backgroundJobs = p.jobs.update job.uuid f keeps)
    (attempts : ∀ row, (f row).attempts = row.attempts ∧ (f row).maxAttempts = row.maxAttempts)
    (waits : ∀ row, isWaiting (f row).status = true → job.attempts < job.maxAttempts)
    (succeeds : ∀ row job', work.job? = some job' → (f row).status = .succeeded) :
    AttemptsInv (p.set w work s) := by
  obtain ⟨row, found, sameAttempts, sameMax, status⟩ := inv.executed w job holds
  refine ⟨fun r inside => ?_, fun w' job' holds' => ?_, sole_set inv.sole holds next,
    fun existing inside => ?_⟩
  · have here : r ∈ (p.jobs.update job.uuid f keeps).rows := jobs ▸ inside
    rcases Table.mem_update.mp here with ⟨old, there, same, rfl⟩ | ⟨there, -⟩
    · obtain ⟨kept, keptMax⟩ := attempts old
      have bound := (inv.bounded old there).1
      obtain rfl := Table.eq_of_key_eq there (Table.find?_mem found)
        (same.trans (Table.find?_key found).symm)
      refine ⟨by omega, fun isWaiting => ?_⟩
      have left := waits old isWaiting
      omega
    · exact inv.bounded r there
  · rcases holds_set holds' with ⟨-, isHere⟩ | ⟨other, before⟩
    · obtain rfl := next job' isHere
      obtain ⟨kept, keptMax⟩ := attempts row
      exact ⟨f row, find?_written jobs found, kept.trans sameAttempts, keptMax.trans sameMax,
        .inr (succeeds row job' isHere)⟩
    · exact (inv.executed w' job' before).of_other jobs fun same =>
        other (inv.sole w' w job' job before holds same.symm)
  · have known := inv.retries existing inside
    by_cases same : job.uuid = existing.uuid
    · have later := lt_of_executed known (by rw [← same]; exact found) status
      obtain ⟨kept, -⟩ := attempts row
      refine ⟨f row, ?_, by omega, fun is => by omega⟩
      rw [← same]
      exact find?_written jobs found
    · exact known.of_other jobs same

theorem failedOrRetrying_attempts (env : EndEnv) (job : BackgroundJob) (error : ServiceError)
    (row : BackgroundJob) :
    (failedOrRetrying env job error row).attempts = row.attempts ∧
      (failedOrRetrying env job error row).maxAttempts = row.maxAttempts := by
  unfold failedOrRetrying
  split <;> exact ⟨rfl, rfl⟩

/-- A job is retried only while it has an attempt left. -/
theorem lt_of_retrying {env : EndEnv} {job : BackgroundJob} {error : ServiceError}
    {row : BackgroundJob} (waits : isWaiting (failedOrRetrying env job error row).status = true) :
    job.attempts < job.maxAttempts := by
  unfold failedOrRetrying at waits
  split at waits
  · rename_i retries
    unfold shouldRetry at retries
    split at retries
    · exact absurd retries (by simp)
    · exact of_decide_eq_true retries
  · exact absurd waits (by simp [isWaiting])

/-- **A dead-letter retry** of a job that was not claimed since gives it one more attempt. -/
theorem attemptsInv_revived {p : Fleet π} {k : ℕ} {now : Time} {existing : BackgroundJob}
    {s : Store} (inv : AttemptsInv p) (inFlight : p.retries[k]? = some existing)
    (unclaimed : ∀ row, p.jobs.find? existing.uuid = some row → row.attempts = existing.attempts)
    (jobs : s.backgroundJobs = p.jobs.update existing.uuid (revived now existing) fun _ => rfl) :
    AttemptsInv { p with
      store := s
      retries := p.retries.eraseIdx k } := by
  have inside := List.mem_of_getElem? inFlight
  obtain ⟨row, found, -, idle⟩ := inv.retries existing inside
  have same := unclaimed row found
  have free : ∀ w job, (p.workers w).job? = some job → existing.uuid ≠ job.uuid := by
    intro w job holds is
    obtain ⟨row', found', -, -, executed⟩ := inv.executed w job holds
    rw [← is, found] at found'
    obtain rfl := Option.some.inj found'
    have later := lt_of_executed (inv.retries existing inside) found executed
    omega
  refine ⟨fun r inside => ?_, fun w job holds => ?_, inv.sole, fun other there => ?_⟩
  · have here : r ∈ (p.jobs.update existing.uuid (revived now existing) fun _ => rfl).rows :=
      jobs ▸ inside
    rcases Table.mem_update.mp here with ⟨old, there, is, rfl⟩ | ⟨there, -⟩
    · obtain rfl := Table.eq_of_key_eq there (Table.find?_mem found)
        (is.trans (Table.find?_key found).symm)
      have room : old.attempts < (revived now existing old).maxAttempts := by
        show old.attempts < max (max existing.maxAttempts (existing.attempts + 1)) _
        rw [same]
        exact lt_max_of_lt_left (lt_max_of_lt_right (Nat.lt_succ_self _))
      exact ⟨Nat.le_of_lt room, fun _ => room⟩
    · exact inv.bounded r there
  · exact (inv.executed w job holds).of_other jobs (free w job holds)
  · have known := inv.retries other (List.mem_of_mem_eraseIdx there)
    by_cases is : existing.uuid = other.uuid
    · obtain ⟨row', found', most, -⟩ := known
      rw [← is, found] at found'
      obtain rfl := Option.some.inj found'
      refine ⟨revived now existing row, ?_, most, fun _ => .inr rfl⟩
      rw [← is]
      exact find?_written jobs found
    · exact known.of_other jobs is

/-- **A step keeps the invariant**, if a dead-letter retry writes no job that was claimed since. -/
theorem attemptsInv_step {rt : Runtime} {pr : Processing π ε ω} {p : Fleet π}
    {e : FleetEvent ε ω} (inv : AttemptsInv p) (unclaimed : Unclaimed p e) :
    AttemptsInv (p.step rt pr e) := by
  have move := step_move rt pr p e
  revert move
  generalize p.step rt pr e = p'
  intro move
  cases move with
  | still s jobs =>
    exact attemptsInv_of_jobs inv jobs (fun w job holds => ⟨w, holds⟩) inv.sole inv.retries
  | enqueued job s jobs =>
    obtain ⟨free, rows⟩ := Table.insert_eq_some.mp jobs
    have kept : ∀ {id row}, p.jobs.find? id = some row →
        s.backgroundJobs.find? id = some row := by
      intro id row found
      rw [Table.find?_insert jobs, if_neg, found]
      exact fun same => free row (Table.find?_mem found) ((Table.find?_key found).trans same.symm)
    refine ⟨fun row inside => ?_, fun w job holds => ?_, inv.sole, fun existing inside => ?_⟩
    · rcases List.mem_append.mp (rows ▸ inside) with before | new
      · exact inv.bounded row before
      · rw [List.mem_singleton.mp new, job.attempts]
        exact ⟨Nat.zero_le _, fun _ => job.allowed⟩
    · obtain ⟨row, found, rest⟩ := inv.executed w job holds
      exact ⟨row, kept found, rest⟩
    · obtain ⟨row, found, rest⟩ := inv.retries existing inside
      exact ⟨row, kept found, rest⟩
  | claimed w row state s idle found waits queue jobs =>
    exact attemptsInv_claimed inv found waits jobs
  | turned w job work s holds keeps jobs =>
    refine attemptsInv_of_jobs inv jobs (fun w' job' holds' => ?_) ?_ inv.retries
    · rcases holds_set holds' with ⟨-, isHere⟩ | ⟨-, before⟩
      · exact ⟨w, by rw [holds, ← keeps, isHere]⟩
      · exact ⟨w', before⟩
    · exact sole_set inv.sole holds fun job' isHere => by
        rw [keeps] at isHere
        exact (Option.some.inj isHere).symm
  | completed w job result work s holds next jobs =>
    refine attemptsInv_ended inv holds (fun job' isHere => ?_) jobs (fun _ => ⟨rfl, rfl⟩)
      (fun _ waits => absurd waits (by simp [succeeded, isWaiting])) fun _ _ _ => rfl
    rcases next with rfl | rfl
    · exact absurd isHere (by simp [Work.job?])
    · exact (Option.some.inj isHere).symm
  | failed w env job error work s holds next jobs =>
    have none : ∀ job', work.job? ≠ some job' := by
      rcases next with rfl | rfl <;> exact fun job' isHere => absurd isHere (by simp [Work.job?])
    exact attemptsInv_ended inv holds (fun job' isHere => absurd isHere (none job')) jobs
      (failedOrRetrying_attempts env job error) (fun _ waits => lt_of_retrying waits)
      fun _ job' isHere => absurd isHere (none job')
  | stopped w stops =>
    refine attemptsInv_of_jobs inv rfl (fun w' job holds => ?_) ?_ inv.retries
    · rcases holds_set holds with ⟨-, isHere⟩ | ⟨-, before⟩
      · exact absurd isHere (by simp [Work.job?])
      · exact ⟨w', before⟩
    · intro a b job₁ job₂ first second same
      rcases holds_set first with ⟨-, isHere⟩ | ⟨-, firstHeld⟩
      · exact absurd isHere (by simp [Work.job?])
      · rcases holds_set second with ⟨-, isHere⟩ | ⟨-, secondHeld⟩
        · exact absurd isHere (by simp [Work.job?])
        · exact inv.sole a b job₁ job₂ firstHeld secondHeld same
  | checked existing found failed =>
    refine attemptsInv_of_jobs inv rfl (fun w job holds => ⟨w, holds⟩) inv.sole fun other there => ?_
    rcases List.mem_append.mp there with before | new
    · exact inv.retries other before
    · rw [List.mem_singleton.mp new]
      exact ⟨existing, found, le_refl _, fun _ => .inl failed⟩
  | revived k now eventUuid existing s is inFlight jobs =>
    exact attemptsInv_revived inv inFlight
      (fun row found => unclaimed k now eventUuid existing row is inFlight found) jobs
  | dropped k drops =>
    exact attemptsInv_of_jobs inv rfl (fun w job holds => ⟨w, holds⟩) inv.sole
      fun existing there => inv.retries existing (List.mem_of_mem_eraseIdx there)

/-- Nobody executes a job before the first is enqueued. -/
theorem attemptsInv_start {start : Store} (empty : start.backgroundJobs.rows = []) :
    AttemptsInv (Fleet.start start : Fleet π) := by
  refine ⟨fun row inside => ?_, fun w job holds => ?_, fun w w' job job' holds => ?_,
    fun existing inside => ?_⟩
  · exact absurd (show row ∈ start.backgroundJobs.rows from inside) (by simp [empty])
  · exact (Option.some_ne_none job holds.symm).elim
  · exact (Option.some_ne_none job holds.symm).elim
  · exact absurd (show existing ∈ [] from inside) List.not_mem_nil

/-- **Each job is executed by one worker at most, and has no more attempts than it may have**, in
every state of a run from a store without jobs in which no dead-letter retry writes a job that was
claimed after its check read it. -/
theorem attempts_of_unclaimed (rt : Runtime) (pr : Processing π ε ω) (start : Store)
    (empty : start.backgroundJobs.rows = []) (events : List (FleetEvent ε ω))
    (unclaimed : Along (Fleet.step rt pr) Unclaimed (Fleet.start start) events) :
    Throughout (Fleet.step rt pr) (fun p => Sole p ∧ Bounded p) (Fleet.start start) events := by
  refine Throughout.mono (fun p inv => ?_) (throughout_of_guarded
    (fun p e inv fresh => attemptsInv_step inv fresh) (attemptsInv_start empty) unclaimed)
  exact ⟨AttemptsInv.sole inv, fun row inside => (AttemptsInv.bounded inv row inside).1⟩

/-! ### Two retries of one job -/

/-- `processBulkStudentUpload` of a file that the parser refuses. -/
def refused : Processing Unit Unit Unit :=
  { deferred with
    turn := fun _ _ _ s =>
      (.inr (.error (.nonRetryable "Bulk upload file is missing institutionId.")), s)
    turn_jobs := fun _ _ _ _ => rfl }

/-- An upload, enqueued. -/
def upload : NewJob where
  job := { document.job with
    type := .bulkStudentUpload
    queue := Queue.queueByJobType .bulkStudentUpload
    maxAttempts := Queue.maxAttemptsFor .bulkStudentUpload }
  status := rfl
  attempts := rfl
  allowed := by decide
  queue := by decide

/-- The upload is claimed, and fails for good. -/
def failedOnce : List (FleetEvent Unit Unit) :=
  [.enqueue upload announced, .claim 0 0 [], .process 0 (),
    .fail 0 ⟨"80000000-0000-4000-8000-000000000002", 0⟩ .done]

/-- A retry, and a worker that claims the upload. -/
def retriedOnce : List (FleetEvent Unit Unit) :=
  failedOnce ++ [.retryCheck upload.job.uuid,
    .retryCommit 0 0 "80000000-0000-4000-8000-000000000003", .claim 1 0 []]

/-- Two retries, the second written after a worker has claimed the upload, and another that claims
it then. -/
def retriedTwice : List (FleetEvent Unit Unit) :=
  failedOnce ++ [.retryCheck upload.job.uuid, .retryCheck upload.job.uuid,
    .retryCommit 0 0 "80000000-0000-4000-8000-000000000003", .claim 1 0 [],
    .retryCommit 0 0 "80000000-0000-4000-8000-000000000004", .claim 2 0 []]

/-- The decidable form of the condition. -/
def unclaimed (p : Fleet π) (e : FleetEvent ε ω) : Bool :=
  match e with
  | .retryCommit k _ _ => (p.retries[k]?).all fun existing =>
    (p.jobs.find? existing.uuid).all (·.attempts == existing.attempts)
  | _ => true

theorem unclaimed_of_decided {p : Fleet π} {e : FleetEvent ε ω}
    (decided : unclaimed p e = true) : Unclaimed p e := by
  rintro k now eventUuid existing row rfl inFlight found
  unfold unclaimed at decided
  simpa [inFlight, found] using decided

/-- An upload retried once. -/
theorem attempts_retriedOnce :
    Throughout (Fleet.step .plain refused) (fun p => Sole p ∧ Bounded p) (Fleet.start .empty)
      retriedOnce := by
  refine attempts_of_unclaimed .plain refused .empty rfl retriedOnce ?_
  refine Along.mono (fun p e decided => unclaimed_of_decided decided)
    (show Along _ (fun p e => unclaimed p e = true) _ _ from ?_)
  decide

/-- **A job can be executed by two workers at once**: two retries read it failed, and the second is
written while a worker executes it again. -/
theorem attempts_fails :
    ¬ ∀ (rt : Runtime) (start : Store) (events : List (FleetEvent Unit Unit)),
      start.backgroundJobs.rows = [] →
        Throughout (Fleet.step rt refused) (fun p => Sole p ∧ Bounded p) (Fleet.start start)
          events := by
  intro all
  have last := throughout_iff_prefixes.mp (all .plain .empty retriedTwice rfl) retriedTwice []
    (List.append_nil _).symm
  exact absurd (last.1 1 2 _ _ rfl rfl rfl) (by decide)

end JobWorker

end AcadID
