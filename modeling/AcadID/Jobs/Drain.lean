/-
**A queue is drained: no job is claimed for ever, and none waits for ever.**

* `claims_le` — a job is claimed no more often than it may be attempted.
* `left` — the attempts that the jobs of a queue still have; a claim takes one of them, and only a
  new job, or a dead-letter retry, brings more.
* `takes_le` — **the workers claim no more often than there are attempts left**.
* `claimed_within` — **bounded waiting**: a job that is due is claimed before the workers have polled
  the queue more often than that, whatever the priorities of the others.
-/

import AcadID.Jobs.Attempts

namespace AcadID

open Lib

namespace JobWorker

variable {π ε ω : Type}

/-! ### Claims and polls -/

/-- The time of a poll of the queue by an idle worker, and the jobs that it passes. -/
def polled (p : Fleet π) (e : FleetEvent ε ω) : Option (Time × List Uuid) :=
  match e with
  | .claim w now locked =>
    match p.workers w with
    | .idle => some (now, locked)
    | _ => none
  | _ => none

/-- What a step claims, if anything. -/
def taken (p : Fleet π) (e : FleetEvent ε ω) : Option BackgroundJob :=
  (polled p e).bind fun poll => (claimNextJob poll.1 poll.2 p.store).map Prod.fst

/-- The step is a claim that goes through. -/
def Takes (p : Fleet π) (e : FleetEvent ε ω) : Prop :=
  (taken p e).isSome = true

/-- The step claims the job. -/
def Claims (id : Uuid) (p : Fleet π) (e : FleetEvent ε ω) : Prop :=
  (taken p e).any (·.uuid == id) = true

/-- An idle worker polls the queue while the job is due, and no other transaction has locked it. -/
def Polls (job : BackgroundJob) (p : Fleet π) (e : FleetEvent ε ω) : Prop :=
  (polled p e).any (fun poll => job.runAfter ≤ poll.1 && !poll.2.contains job.uuid) = true

instance (p : Fleet π) (e : FleetEvent ε ω) : Decidable (Takes p e) :=
  inferInstanceAs (Decidable (_ = true))

instance (id : Uuid) (p : Fleet π) (e : FleetEvent ε ω) : Decidable (Claims id p e) :=
  inferInstanceAs (Decidable (_ = true))

instance (job : BackgroundJob) (p : Fleet π) (e : FleetEvent ε ω) : Decidable (Polls job p e) :=
  inferInstanceAs (Decidable (_ = true))

/-- The attempts of a job. -/
def attemptsOf (id : Uuid) (p : Fleet π) : ℕ :=
  ((p.jobs.find? id).map (·.attempts)).getD 0

/-- The attempts that the jobs still have. -/
def left (p : Fleet π) : ℕ :=
  (p.jobs.rows.map fun row => row.maxAttempts - row.attempts).sum

/-- The attempts that an event brings to the queue. -/
def supply : FleetEvent ε ω → ℕ
  | .enqueue job _ => job.job.maxAttempts
  | _ => 0

/-- The step writes no dead-letter retry. -/
def Unrevived (e : FleetEvent ε ω) : Prop :=
  ∀ k now eventUuid, e ≠ .retryCommit k now eventUuid

/-! ### What a claim writes -/

variable {rt : Runtime} {pr : Processing π ε ω} {p : Fleet π} {e : FleetEvent ε ω}

/-- **A claim that goes through** was of a waiting job, which has had one more attempt since. -/
theorem step_taken (rt : Runtime) (pr : Processing π ε ω) {job : BackgroundJob}
    (takes : taken p e = some job) :
    ∃ row, p.jobs.find? row.uuid = some row ∧ isWaiting row.status = true ∧ job = claimed row ∧
      (p.step rt pr e).jobs = p.jobs.update row.uuid claimed fun _ => rfl := by
  unfold taken at takes
  obtain ⟨⟨now, locked⟩, polls, claims⟩ := Option.bind_eq_some_iff.mp takes
  obtain ⟨⟨job', t⟩, went, rfl⟩ := Option.map_eq_some_iff.mp claims
  cases e with
  | claim w now' locked' =>
    unfold polled at polls
    dsimp only at polls
    split at polls
    · rename_i idle
      obtain ⟨rfl, rfl⟩ := Prod.mk.inj (Option.some.inj polls)
      dsimp only at went
      obtain ⟨row, found, waits, -, -, same, rfl⟩ := claimNextJob_eq_some went
      refine ⟨row, found, waits, same, ?_⟩
      show (p.claim pr w now' locked').jobs = _
      unfold Fleet.claim
      simp only [idle, went]
      rfl
    · exact absurd polls (by simp)
  | _ => exact absurd polls (by simp [polled])

/-- **A poll takes a job when one is due** that no other transaction has locked. -/
theorem takes_of_polls {job : BackgroundJob} (polls : Polls job p e)
    (found : p.jobs.find? job.uuid = some job) (waits : isWaiting job.status = true)
    (queue : workerQueues.contains job.queue = true) : Takes p e := by
  unfold Polls at polls
  obtain ⟨⟨now, locked⟩, polls, free⟩ := (Option.any_eq_true _ _).mp polls
  rw [Bool.and_eq_true, decide_eq_true_eq] at free
  have due : job ∈ (dueJobs now p.store).insertionSort fun a b => comesFirst a b := by
    refine (List.mem_insertionSort _).mpr (List.mem_filter.mpr ⟨Table.find?_mem found, ?_⟩)
    simp only [waits, queue, free.1, decide_true, Bool.and_self]
  unfold Takes taken
  rw [polls, Option.bind_some, Option.isSome_map]
  unfold claimNextJob
  cases first : ((dueJobs now p.store).insertionSort fun a b => comesFirst a b).find?
      (fun job => !locked.contains job.uuid) with
  | none => exact absurd free.2 (List.find?_eq_none.mp first job due)
  | some next =>
    have inside := (List.mem_insertionSort _).mp (List.mem_of_find?_eq_some first)
    obtain ⟨there, meets⟩ := List.mem_filter.mp inside
    simp only [Bool.and_eq_true, decide_eq_true_eq] at meets
    have claims : claimJob now next.uuid p.store = .ok (_, _) :=
      claimJob_eq_ok.mpr ⟨next, Table.find?_eq_some.mpr ⟨there, rfl⟩, meets.1.1, meets.2, rfl, rfl⟩
    simp only [claims]
    rfl

/-- **What a step may do** to the jobs. -/
inductive Change (p : Fleet π) (e : FleetEvent ε ω) (p' : Fleet π) : Prop where
  | still (jobs : p'.jobs = p.jobs)
  | enqueued (job : NewJob) (event : DomainEvent) (is : e = .enqueue job event)
      (inserted : p.jobs.insert job.job = some p'.jobs)
  | claimed (row : BackgroundJob) (takes : taken p e = some (claimed row))
      (found : p.jobs.find? row.uuid = some row) (waits : isWaiting row.status = true)
      (jobs : p'.jobs = p.jobs.update row.uuid claimed fun _ => rfl)
  /-- The worker that executes the job ends the attempt. -/
  | ended (w : ℕ) (job : BackgroundJob) (f : BackgroundJob → BackgroundJob)
      (keeps : ∀ j, (f j).uuid = j.uuid) (holds : (p.workers w).job? = some job)
      (same : ∀ row, (f row).attempts = row.attempts ∧ (f row).maxAttempts = row.maxAttempts)
      (jobs : p'.jobs = p.jobs.update job.uuid f keeps)
  | revived (k : ℕ) (now : Time) (eventUuid : Uuid) (existing : BackgroundJob)
      (is : e = .retryCommit k now eventUuid)
      (jobs : p'.jobs = p.jobs.update existing.uuid (revived now existing) fun _ => rfl)

theorem claim_change (w : ℕ) (now : Time) (locked : List Uuid) :
    Change p (.claim w now locked : FleetEvent ε ω) (p.step rt pr (.claim w now locked)) := by
  cases takes : taken p (.claim w now locked : FleetEvent ε ω) with
  | some job =>
    obtain ⟨row, found, waits, rfl, jobs⟩ := step_taken rt pr takes
    exact .claimed row takes found waits jobs
  | none =>
    refine .still ?_
    show (p.claim pr w now locked).jobs = p.jobs
    unfold Fleet.claim
    split
    · rename_i idle
      split
      · rename_i job t went
        unfold taken polled at takes
        simp only [idle, Option.bind_some, went] at takes
        exact absurd takes (by simp)
      · rfl
    · rfl

theorem complete_change (w : ℕ) (env : EndEnv) (fate : Fate) :
    Change p (.complete w env fate : FleetEvent ε ω) (p.complete rt w env fate) := by
  unfold Fleet.complete
  split
  · rename_i job result holds
    have held : (p.workers w).job? = some job := by
      rw [holds]
      rfl
    split
    · exact .still rfl
    · exact .still rfl
    · rename_i t ended
      exact .ended w job (succeeded result) _ held (fun _ => ⟨rfl, rfl⟩) (jobs_of_endAttempt ended)
    · rename_i t ended
      exact .ended w job (succeeded result) _ held (fun _ => ⟨rfl, rfl⟩) (jobs_of_endAttempt ended)
  · exact .still rfl

theorem fail_change (w : ℕ) (env : EndEnv) (fate : Fate) :
    Change p (.fail w env fate : FleetEvent ε ω) (p.fail rt w env fate) := by
  unfold Fleet.fail
  split
  · rename_i job error holds
    have held : (p.workers w).job? = some job := by
      rw [holds]
      rfl
    split
    · exact .still rfl
    · exact .still rfl
    · rename_i t ended
      exact .ended w job _ _ held (failedOrRetrying_attempts env job error)
        (jobs_of_endAttempt ended)
    · rename_i t ended
      exact .ended w job _ _ held (failedOrRetrying_attempts env job error)
        (jobs_of_endAttempt ended)
  · exact .still rfl

/-- **The inversion lemma** of the jobs: every step is one of the changes. -/
theorem step_change (rt : Runtime) (pr : Processing π ε ω) (p : Fleet π) (e : FleetEvent ε ω) :
    Change p e (p.step rt pr e) := by
  cases e with
  | enqueue job event =>
    show Change p _ (p.enqueue job event)
    unfold Fleet.enqueue
    split
    · rename_i response t inserted
      obtain ⟨-, jobs, events, jobIn, -, rfl⟩ := Queue.insertJob_eq_ok.mp inserted
      exact .enqueued job event rfl jobIn
    · exact .still rfl
  | claim w now locked => exact claim_change w now locked
  | process w e =>
    refine .still ?_
    show (p.process pr w e).jobs = p.jobs
    cases holds : p.workers w with
    | processing job state =>
      rw [Fleet.process_eq holds]
      exact pr.turn_jobs job state e p.store
    | idle | completing | failing | stopped =>
      rw [Fleet.process_of_not_processing fun job state => by rw [holds]; simp]
  | complete w env fate => exact complete_change w env fate
  | fail w env fate => exact fail_change w env fate
  | crash w => exact .still rfl
  | retryCheck id =>
    refine .still ?_
    show (p.retryCheck id).jobs = p.jobs
    unfold Fleet.retryCheck
    split <;> rfl
  | retryCommit k now eventUuid =>
    show Change p _ (p.retryCommit k now eventUuid)
    unfold Fleet.retryCommit
    split
    · exact .still rfl
    · rename_i existing inFlight
      split
      · rename_i t ended
        exact .revived k now eventUuid existing rfl (jobs_of_endAttempt ended)
      · exact .still rfl
  | retryAbort k => exact .still rfl
  | outside o => exact .still (pr.outside_jobs o p.store)

/-! ### What the queue has left -/

/-- **A claim takes one of the attempts that are left.** -/
theorem left_claimed {p' : Fleet π} {row : BackgroundJob} (inv : AttemptsInv p)
    (found : p.jobs.find? row.uuid = some row) (waits : isWaiting row.status = true)
    (jobs : p'.jobs = p.jobs.update row.uuid claimed fun _ => rfl) : left p' + 1 = left p := by
  have allowed := (inv.bounded row (Table.find?_mem found)).2 waits
  have sums := Table.sum_update found claimed (fun _ => rfl)
    fun row => row.maxAttempts - row.attempts
  have one : (claimed row).maxAttempts - (claimed row).attempts + 1 =
      row.maxAttempts - row.attempts := by
    show row.maxAttempts - (row.attempts + 1) + 1 = row.maxAttempts - row.attempts
    omega
  unfold left
  rw [jobs]
  omega

/-- The end of an attempt takes none. -/
theorem left_ended {p' : Fleet π} {id : Uuid} {f : BackgroundJob → BackgroundJob}
    {keeps : ∀ j, (f j).uuid = j.uuid} (jobs : p'.jobs = p.jobs.update id f keeps)
    (same : ∀ row, (f row).attempts = row.attempts ∧ (f row).maxAttempts = row.maxAttempts) :
    left p' = left p := by
  unfold left
  rw [jobs, Table.rows_update, List.map_map]
  refine congrArg List.sum (List.map_congr_left fun row _ => ?_)
  show (if row.uuid = id then f row else row).maxAttempts -
    (if row.uuid = id then f row else row).attempts = row.maxAttempts - row.attempts
  split_ifs
  · rw [(same row).1, (same row).2]
  · rfl

/-- **A step pays for its claim** with one of the attempts that are left, and brings no others but
those of a new job, unless it is a dead-letter retry. -/
theorem left_step (rt : Runtime) (pr : Processing π ε ω) (inv : AttemptsInv p)
    (unrevived : Unrevived e) :
    left (p.step rt pr e) + (if Takes p e then 1 else 0) ≤ left p + supply e := by
  have most : (if Takes p e then 1 else 0) ≤ 1 := by split_ifs <;> simp
  cases taking : taken p e with
  | some job =>
    obtain ⟨row, found, waits, rfl, jobs⟩ := step_taken rt pr taking
    have paid := left_claimed inv found waits jobs
    omega
  | none =>
    have idle : ¬ Takes p e := by
      unfold Takes
      rw [taking]
      simp
    rw [if_neg idle, Nat.add_zero]
    have changed := step_change rt pr p e
    generalize p.step rt pr e = p' at changed
    cases changed with
    | still jobs =>
      unfold left
      rw [jobs]
      exact Nat.le_add_right _ _
    | enqueued job event is inserted =>
      subst is
      unfold left
      rw [(Table.insert_eq_some.mp inserted).2, List.map_append, List.sum_append,
        List.map_singleton, List.sum_singleton, job.attempts]
      exact le_refl _
    | claimed row takes => exact absurd (taking.symm.trans takes) (by simp)
    | ended w job f keeps holds same jobs =>
      rw [left_ended jobs same]
      exact Nat.le_add_right _ _
    | revived k now eventUuid existing is => exact absurd is (unrevived k now eventUuid)

/-! ### How often a job is claimed -/

/-- **The attempts of a job count its claims.** -/
theorem attemptsOf_step (rt : Runtime) (pr : Processing π ε ω) (id : Uuid) :
    attemptsOf id (p.step rt pr e) = attemptsOf id p + if Claims id p e then 1 else 0 := by
  cases taking : taken p e with
  | some job =>
    obtain ⟨row, found, waits, rfl, jobs⟩ := step_taken rt pr taking
    have claims : Claims id p e ↔ row.uuid = id := by
      unfold Claims
      rw [taking, Option.any_some, beq_iff_eq]
      exact Iff.rfl
    have lookup := Table.find?_update p.jobs row.uuid claimed (fun _ => rfl) id
    unfold attemptsOf
    rw [jobs, lookup]
    by_cases is : row.uuid = id
    · rw [if_pos is, if_pos (claims.mpr is), ← is, found]
      rfl
    · rw [if_neg is, if_neg fun here => is (claims.mp here), Nat.add_zero]
  | none =>
    have unclaimed : ¬ Claims id p e := by
      unfold Claims
      rw [taking]
      simp
    rw [if_neg unclaimed, Nat.add_zero]
    have changed := step_change rt pr p e
    generalize p.step rt pr e = p' at changed
    have written : ∀ (key : Uuid) (f : BackgroundJob → BackgroundJob)
        (keeps : ∀ j, (f j).uuid = j.uuid), (∀ row, (f row).attempts = row.attempts) →
        p'.jobs = p.jobs.update key f keeps → attemptsOf id p' = attemptsOf id p := by
      intro key f keeps same jobs
      unfold attemptsOf
      rw [jobs, Table.find?_update]
      split_ifs
      · rw [Option.map_map]
        exact congrArg (fun g => (Option.map g (p.jobs.find? id)).getD 0) (funext same)
      · rfl
    cases changed with
    | still jobs =>
      unfold attemptsOf
      rw [jobs]
    | enqueued job event is inserted =>
      unfold attemptsOf
      rw [Table.find?_insert inserted]
      split_ifs with same
      · have free : p.jobs.find? id = none := Table.find?_eq_none.mpr fun r inside here =>
          (Table.insert_eq_some.mp inserted).1 r inside (here.trans same.symm)
        rw [free, Option.map_some, job.attempts]
        rfl
      · rfl
    | claimed row takes => exact absurd (taking.symm.trans takes) (by simp)
    | ended w job f keeps holds same jobs => exact written _ f keeps (fun row => (same row).1) jobs
    | revived k now eventUuid existing is jobs =>
      exact written existing.uuid (revived now existing) (fun _ => rfl) (fun _ => rfl) jobs

/-- **A job has had as many attempts as claims**, and no more than it may have, in every run from a
store without jobs in which no dead-letter retry writes a job that was claimed after its check. -/
theorem claims_le (rt : Runtime) (pr : Processing π ε ω) (start : Store)
    (empty : start.backgroundJobs.rows = []) (events : List (FleetEvent ε ω))
    (unclaimed : Along (Fleet.step rt pr) Unclaimed (Fleet.start start) events)
    (row : BackgroundJob)
    (found : (runs (Fleet.step rt pr) (Fleet.start start) events).jobs.find? row.uuid = some row) :
    occurrences (Fleet.step rt pr) (Claims row.uuid) (Fleet.start start) events = row.attempts ∧
      row.attempts ≤ row.maxAttempts := by
  have inv : AttemptsInv (runs (Fleet.step rt pr) (Fleet.start start) events) :=
    runs_of_keeps (fun p e inv fresh => attemptsInv_step inv fresh) (attemptsInv_start empty)
      unclaimed
  have counts : ∀ (p : Fleet π) (e : FleetEvent ε ω), True → Unclaimed p e →
      attemptsOf row.uuid (p.step rt pr e) =
        attemptsOf row.uuid p + if Claims row.uuid p e then 1 else 0 :=
    fun _ _ _ _ => attemptsOf_step rt pr row.uuid
  have stays : ∀ (p : Fleet π) (e : FleetEvent ε ω), True → Unclaimed p e → True :=
    fun _ _ known _ => known
  have counted : attemptsOf row.uuid (runs (Fleet.step rt pr) (Fleet.start start) events) =
      attemptsOf row.uuid (Fleet.start start : Fleet π) +
        occurrences (Fleet.step rt pr) (Claims row.uuid) (Fleet.start start) events :=
    tally_runs (attemptsOf row.uuid) stays counts trivial unclaimed
  refine ⟨?_, (inv.bounded row (Table.find?_mem found)).1⟩
  have none : attemptsOf row.uuid (Fleet.start start : Fleet π) = 0 := by
    unfold attemptsOf Table.find?
    show ((start.backgroundJobs.rows.find? _).map _).getD 0 = 0
    rw [empty]
    rfl
  rw [none, Nat.zero_add] at counted
  rw [← counted]
  unfold attemptsOf
  rw [found]
  rfl

/-! ### Bounded waiting -/

/-- The job waits as it is, in a queue that is polled. -/
structure Awaits (job : BackgroundJob) (p : Fleet π) : Prop where
  inv : AttemptsInv p
  found : p.jobs.find? job.uuid = some job

/-- **A step that does not claim a waiting job leaves it as it is**, unless it is a dead-letter
retry: no worker executes it. -/
theorem awaits_step {job : BackgroundJob} (awaits : Awaits job p)
    (waits : isWaiting job.status = true) (unrevived : Unrevived e)
    (unclaimed : ¬ Claims job.uuid p e) : Awaits job (p.step rt pr e) := by
  have fresh : Unclaimed p e := fun k now eventUuid existing row is =>
    absurd is (unrevived k now eventUuid)
  refine ⟨attemptsInv_step awaits.inv fresh, ?_⟩
  have changed := step_change rt pr p e
  generalize p.step rt pr e = p' at changed
  cases changed with
  | still jobs =>
    rw [jobs]
    exact awaits.found
  | enqueued new event is inserted =>
    rw [Table.find?_insert inserted, if_neg ?_]
    · exact awaits.found
    · intro same
      have inside := Table.find?_mem awaits.found
      exact (Table.insert_eq_some.mp inserted).1 job inside same.symm
  | claimed row takes found waits' jobs =>
    have other : row.uuid ≠ job.uuid := by
      intro same
      refine unclaimed ?_
      unfold Claims
      rw [takes, Option.any_some, beq_iff_eq]
      exact same
    have lookup := Table.find?_update p.jobs row.uuid claimed (fun _ => rfl) job.uuid
    rw [jobs, lookup, if_neg other]
    exact awaits.found
  | ended w executed f keeps holds same jobs =>
    have other : executed.uuid ≠ job.uuid := by
      intro same
      obtain ⟨row, found, -, -, status⟩ := awaits.inv.executed w executed holds
      rw [same, awaits.found] at found
      obtain rfl := Option.some.inj found
      rcases status with running | succeeded
      · rw [running] at waits
        exact absurd waits (by decide)
      · rw [succeeded] at waits
        exact absurd waits (by decide)
    rw [jobs, Table.find?_update, if_neg other]
    exact awaits.found
  | revived k now eventUuid existing is => exact absurd is (unrevived k now eventUuid)

/-- **The workers claim no more often than there are attempts left**, new jobs included, in a run
without dead-letter retries. -/
theorem takes_le {events : List (FleetEvent ε ω)} (inv : AttemptsInv p)
    (unrevived : ∀ e ∈ events, Unrevived e) :
    left (runs (Fleet.step rt pr) p events) +
      occurrences (Fleet.step rt pr) Takes p events ≤ left p + (events.map supply).sum := by
  have keeps : ∀ (p : Fleet π) (e : FleetEvent ε ω), AttemptsInv p → Unrevived e →
      AttemptsInv (p.step rt pr e) := by
    intro p e inv unrevived
    exact attemptsInv_step inv fun k now eventUuid existing row is =>
      absurd is (unrevived k now eventUuid)
  exact budget_runs left supply keeps (fun p e inv unrevived => left_step rt pr inv unrevived) inv
    (along_of_mem unrevived)

/-- An upload that is claimed twice. -/
theorem claims_le_retriedOnce :
    ∃ row : BackgroundJob, row.uuid = upload.job.uuid ∧
      occurrences (Fleet.step .plain refused) (Claims row.uuid) (Fleet.start .empty)
        retriedOnce = row.attempts ∧ row.attempts ≤ row.maxAttempts := by
  obtain ⟨row, found⟩ : ∃ row, (runs (Fleet.step .plain refused) (Fleet.start .empty)
      retriedOnce).jobs.find? upload.job.uuid = some row := ⟨_, rfl⟩
  have same := Table.find?_key found
  refine ⟨row, same, claims_le .plain refused .empty rfl retriedOnce ?_ row ?_⟩
  · refine Along.mono (fun p e decided => unclaimed_of_decided decided)
      (show Along _ (fun p e => unclaimed p e = true) _ _ from ?_)
    decide
  · rw [same]
    exact found

/-- An urgent document, and an upload behind it. -/
def urgent : List (FleetEvent Unit Unit) :=
  [.enqueue
      { document with
        job := { document.job with
          uuid := "70000000-0000-4000-8000-000000000002"
          priority := 1 } }
      { announced with uuid := "80000000-0000-4000-8000-000000000002" },
    .enqueue upload announced]

/-- As many workers poll the queue. -/
def polling (workers : ℕ) : List (FleetEvent Unit Unit) :=
  (List.range workers).map fun w => .claim w 0 []

end JobWorker

end AcadID
