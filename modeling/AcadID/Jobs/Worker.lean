/-
**The worker: jobs claimed, completed, failed and retried.**

* `systemAuth` — the actor a job is processed as: whoever created it, as a super admin.
* `claimNextJob`, `completeJob` and `failOrRetryJob` — what the worker writes on a job; a failed job
  is retried until its attempts are used up, unless its error is a `NonRetryableJobError`.
* `retryDeadLetterJob` — an administrator gives a failed job one more attempt; its check comes before
  its transaction.
-/

import AcadID.Platform.Queue

namespace AcadID

open Lib

namespace JobWorker

/-! ### Whom a job acts for -/

/-- What a job keeps of the actor that has asked for it. -/
def requestedBy (auth : AuthTokenPayload) : Json :=
  Json.fields
    [("kind", some (.str (auth.kind.getD .user).name)), ("sub", auth.actorId.map .str),
      ("role", some (.str auth.role.name)), ("institutionUserId", auth.institutionUserId.map .str),
      ("apiKeyId", auth.apiKeyId.map .str), ("clientId", auth.clientId.map .str),
      ("productCode", auth.productCode.map .str)]

/-- The actor that a job of nobody is processed as. -/
def workerSub : String :=
  "acadid-worker"

def systemAuth (job : BackgroundJob) : AuthTokenPayload where
  sub := job.createdById.getD workerSub
  email := "worker@acadid.internal"
  fullName := "AcadID Background Worker"
  role := .acadidSuperAdmin
  kind := some .user
  learnerId := none
  institutionId := none
  institutionUuid := none
  institutionUserId := none
  assignedScopes := none
  apiKeyId := none
  clientId := none
  productCode := none

/-! ### The life of a job -/

/-- A job that waits for a worker. -/
def isWaiting (status : BackgroundJobStatus) : Bool :=
  [.queued, .retrying].contains status

def claimed (job : BackgroundJob) : BackgroundJob :=
  { job with
    status := .running
    attempts := job.attempts + 1
    error := none }

/-- The claim of one job, when it is its turn. -/
def claimJob (now : Time) (id : Uuid) (s : Store) : Except ServiceError (BackgroundJob × Store) := do
  let job ← orThrow (s.backgroundJobs.find? id) .recordNotFound
  require (isWaiting job.status && job.runAfter ≤ now) .recordNotFound
  let (job, backgroundJobs) ← updateRow s.backgroundJobs id claimed fun _ => rfl
  return (job, { s with backgroundJobs := backgroundJobs })

def workerQueues : List String :=
  ["ingestion.bulk", "results.validation", "credentials.generation", "documents.pdf",
    "notifications.delivery", "payments.paystack", "record-requests.deadlines",
    "webhooks.delivery", "notifications.push", "live-results.callbacks", "exam-body.ingest",
    "platform.maintenance"]

/-- The jobs that a worker may claim. -/
def dueJobs (now : Time) (s : Store) : List BackgroundJob :=
  s.backgroundJobs.rows.filter fun job =>
    isWaiting job.status && workerQueues.contains job.queue && job.runAfter ≤ now

/-- `ORDER BY "priority" DESC, "runAfter" ASC`; among equals the one created first. -/
def comesFirst (a b : BackgroundJob) : Bool :=
  b.priority < a.priority || (b.priority == a.priority && a.runAfter ≤ b.runAfter)

/-- The claim of the next job, past those that other transactions have locked. -/
def claimNextJob (now : Time) (locked : List Uuid) (s : Store) : Option (BackgroundJob × Store) :=
  match ((dueJobs now s).insertionSort fun a b => comesFirst a b).find?
    (fun job => !locked.contains job.uuid) with
  | some job => (claimJob now job.uuid s).toOption
  | none => none

/-- What the runtime and the database give the end of an attempt. -/
structure EndEnv where
  eventUuid : Uuid
  nextRunAfter : Time

/-- The event that an attempt ends with. -/
def jobEvent (rt : Runtime) (env : EndEnv) (job : BackgroundJob) (ending : String)
    (details : List (String × Json)) : DomainEvent where
  uuid := env.eventUuid
  type := rt.toLowerCase job.type.name ++ ending
  aggregateType := "BackgroundJob"
  aggregateId := job.uuid
  institutionId := job.institutionId
  jobId := some job.uuid
  payload := .obj ([("jobId", .str job.uuid), ("type", .str job.type.name)] ++ details)

/-- A job updated, its webhook deliveries, and the event of it, in one transaction. -/
def endAttempt (id : Uuid) (f : BackgroundJob → BackgroundJob) (keeps : ∀ j, (f j).uuid = j.uuid)
    (deliver : Table WebhookDelivery.uuid → Table WebhookDelivery.uuid) (event : DomainEvent)
    (s : Store) : Except ServiceError (Unit × Store) := do
  let (_, backgroundJobs) ← updateRow s.backgroundJobs id f keeps
  let domainEvents ← insertUnique s.domainEvents event
  return ((), { s with
    backgroundJobs := backgroundJobs
    webhookDeliveries := deliver s.webhookDeliveries
    domainEvents := domainEvents })

def succeeded (result : Json) (job : BackgroundJob) : BackgroundJob :=
  { job with
    status := .succeeded
    result := some result }

def completeJob (rt : Runtime) (env : EndEnv) (job : BackgroundJob) (result : Json) (s : Store) :
    Except ServiceError (Unit × Store) :=
  endAttempt job.uuid (succeeded result) (fun _ => rfl) id
    (jobEvent rt env job ".succeeded" [("result", result)]) s

/-- `RetryPolicyService.shouldRetry` -/
def shouldRetry (job : BackgroundJob) (error : ServiceError) : Bool :=
  match error with
  | .nonRetryable _ => false
  | _ => job.attempts < job.maxAttempts

/-- What an error leaves on the job that was claimed as `job`. -/
def failedOrRetrying (env : EndEnv) (job : BackgroundJob) (error : ServiceError)
    (row : BackgroundJob) : BackgroundJob :=
  if shouldRetry job error then
    { row with
      status := .retrying
      error := some error.message
      runAfter := env.nextRunAfter }
  else
    { row with
      status := .failed
      error := some error.message }

theorem failedOrRetrying_uuid (env : EndEnv) (job : BackgroundJob) (error : ServiceError)
    (row : BackgroundJob) : (failedOrRetrying env job error row).uuid = row.uuid := by
  unfold failedOrRetrying
  split <;> rfl

/-- A delivery that a worker may still send. -/
def isPending (status : WebhookDeliveryStatus) : Bool :=
  [.pending, .retrying].contains status

/-- What an error leaves on the webhook deliveries of a job. -/
def failedDeliveries (job : BackgroundJob) (error : ServiceError)
    (deliveries : Table WebhookDelivery.uuid) : Table WebhookDelivery.uuid :=
  if job.type = .webhookDelivery then
    deliveries.updateMany
      (fun delivery => delivery.jobId == some job.uuid && isPending delivery.status)
      (fun delivery => { delivery with
        status := if shouldRetry job error then .retrying else .failed
        lastError := some error.message })
      fun _ => rfl
  else deliveries

def failOrRetryJob (rt : Runtime) (env : EndEnv) (job : BackgroundJob) (error : ServiceError)
    (s : Store) : Except ServiceError (Unit × Store) :=
  let retrying := shouldRetry job error
  endAttempt job.uuid (failedOrRetrying env job error) (failedOrRetrying_uuid env job error)
    (failedDeliveries job error)
    (jobEvent rt env job (if retrying then ".retrying" else ".failed")
      [("error", .str error.message), ("retrying", .bool retrying)]) s

/-- What `retryDeadLetterJob` writes on a failed job. -/
def revived (now : Time) (existing row : BackgroundJob) : BackgroundJob :=
  { row with
    status := .retrying
    error := none
    runAfter := now
    maxAttempts := max (max existing.maxAttempts (existing.attempts + 1))
      (Queue.maxAttemptsFor existing.type) }

/-- What it writes on the webhook deliveries of the job. -/
def revivedDeliveries (existing : BackgroundJob) (deliveries : Table WebhookDelivery.uuid) :
    Table WebhookDelivery.uuid :=
  if existing.type = .webhookDelivery then
    deliveries.updateMany
      (fun delivery => delivery.jobId == some existing.uuid && delivery.status == .failed)
      (fun delivery => { delivery with
        status := .retrying
        lastError := none })
      fun _ => rfl
  else deliveries

def retryDeadLetterCheck (id : Uuid) (s : Store) : Except ServiceError BackgroundJob := do
  let existing ← orThrow (s.backgroundJobs.find? id) (.badRequest "Dead-letter job not found.")
  require (existing.status == .failed)
    (.badRequest "Only failed dead-letter jobs can be retried.")
  return existing

def retryDeadLetterCommit (now : Time) (eventUuid : Uuid) (existing : BackgroundJob) (s : Store) :
    Except ServiceError (Unit × Store) :=
  endAttempt existing.uuid (revived now existing) (fun _ => rfl) (revivedDeliveries existing)
    { uuid := eventUuid
      type := "background_job.dead_letter_retry_queued"
      aggregateType := "BackgroundJob"
      aggregateId := existing.uuid
      institutionId := existing.institutionId
      jobId := some existing.uuid
      payload := .obj
        [("jobId", .str existing.uuid), ("type", .str existing.type.name),
          ("queue", .str existing.queue), ("previousAttempts", .num existing.attempts),
          ("maxAttempts", .num (revived now existing existing).maxAttempts)] } s

def retryDeadLetterJob (now : Time) (eventUuid : Uuid) (id : Uuid) (s : Store) :
    Except ServiceError (Unit × Store) := do
  let existing ← retryDeadLetterCheck id s
  retryDeadLetterCommit now eventUuid existing s

/-! ### What the worker writes -/

/-- **A claimed job** was waiting, and is claimed; nothing else changes. -/
theorem claimJob_eq_ok {now : Time} {id : Uuid} {s t : Store} {job : BackgroundJob} :
    claimJob now id s = .ok (job, t) ↔ ∃ row, s.backgroundJobs.find? id = some row ∧
      isWaiting row.status = true ∧ row.runAfter ≤ now ∧ job = claimed row ∧
        t = { s with backgroundJobs := s.backgroundJobs.update id claimed fun _ => rfl } := by
  unfold claimJob
  constructor
  · intro went
    obtain ⟨row, found, rest⟩ := bind_eq_ok.mp went
    obtain ⟨_, meets, rest⟩ := bind_eq_ok.mp rest
    obtain ⟨⟨job', jobs⟩, updated, same⟩ := bind_eq_ok.mp rest
    rw [pure_eq_ok] at same
    obtain ⟨rfl, rfl⟩ := Prod.mk.inj same
    rw [require_eq_ok, Bool.and_eq_true, decide_eq_true_eq] at meets
    rw [orThrow_eq_ok] at found
    obtain ⟨row', found', rfl, rfl⟩ := updateRow_eq_ok.mp updated
    obtain rfl := Option.some.inj (found.symm.trans found')
    exact ⟨row, found, meets.1, meets.2, rfl, rfl⟩
  · rintro ⟨row, found, waits, due, rfl, rfl⟩
    refine bind_eq_ok.mpr ⟨row, orThrow_eq_ok.mpr found, ?_⟩
    refine bind_eq_ok.mpr ⟨(), require_eq_ok.mpr (by simp [waits, due]), ?_⟩
    exact bind_eq_ok.mpr ⟨_, updateRow_eq_ok.mpr ⟨row, found, rfl, rfl⟩, rfl⟩

/-- **A worker that claims a job** finds it waiting, in a queue of its own, and due. -/
theorem claimNextJob_eq_some {now : Time} {locked : List Uuid} {s t : Store} {job : BackgroundJob}
    (claims : claimNextJob now locked s = some (job, t)) :
    ∃ row, s.backgroundJobs.find? row.uuid = some row ∧ isWaiting row.status = true ∧
      workerQueues.contains row.queue = true ∧ row.runAfter ≤ now ∧ job = claimed row ∧
        t = { s with
          backgroundJobs := s.backgroundJobs.update row.uuid claimed fun _ => rfl } := by
  unfold claimNextJob at claims
  split at claims
  · rename_i row found
    have inside := (List.mem_insertionSort _).mp (List.mem_of_find?_eq_some found)
    obtain ⟨there, meets⟩ := List.mem_filter.mp inside
    rw [Bool.and_eq_true, Bool.and_eq_true, decide_eq_true_eq] at meets
    cases went : claimJob now row.uuid s with
    | error e =>
      rw [went] at claims
      exact absurd claims (by simp [Except.toOption])
    | ok pair =>
      rw [went] at claims
      obtain rfl := Option.some.inj claims
      obtain ⟨row', found', -, -, rfl, rfl⟩ := claimJob_eq_ok.mp went
      obtain rfl := Option.some.inj ((Table.find?_eq_some.mpr ⟨there, rfl⟩).symm.trans found')
      exact ⟨row, found', meets.1.1, meets.1.2, meets.2, rfl, rfl⟩
  · exact absurd claims (by simp)

/-- **An attempt that ends** writes its job, its deliveries and one event. -/
theorem endAttempt_eq_ok {id : Uuid} {f : BackgroundJob → BackgroundJob}
    {keeps : ∀ j, (f j).uuid = j.uuid}
    {deliver : Table WebhookDelivery.uuid → Table WebhookDelivery.uuid} {event : DomainEvent}
    {s t : Store} {u : Unit} :
    endAttempt id f keeps deliver event s = .ok (u, t) ↔
      ∃ row events, s.backgroundJobs.find? id = some row ∧
        s.domainEvents.insert event = some events ∧
        t = { s with
          backgroundJobs := s.backgroundJobs.update id f keeps
          webhookDeliveries := deliver s.webhookDeliveries
          domainEvents := events } := by
  unfold endAttempt
  constructor
  · intro ended
    obtain ⟨⟨job, jobs⟩, updated, rest⟩ := bind_eq_ok.mp ended
    obtain ⟨events, inserted, same⟩ := bind_eq_ok.mp rest
    obtain ⟨row, found, rfl, rfl⟩ := updateRow_eq_ok.mp updated
    rw [pure_eq_ok] at same
    exact ⟨row, events, found, orThrow_eq_ok.mp inserted, (Prod.mk.inj same).2.symm⟩
  · rintro ⟨row, events, found, inserted, rfl⟩
    refine bind_eq_ok.mpr ⟨_, updateRow_eq_ok.mpr ⟨row, found, rfl, rfl⟩, ?_⟩
    exact bind_eq_ok.mpr ⟨events, orThrow_eq_ok.mpr inserted, rfl⟩

/-- Whether the end of an attempt can be written: its job is there, and the id of its event free. -/
def canEnd (id eventUuid : Uuid) (s : Store) : Bool :=
  (s.backgroundJobs.find? id).isSome && (s.domainEvents.find? eventUuid).isNone

/-- The end of an attempt is written exactly when it can be. -/
theorem canEnd_iff {id : Uuid} {f : BackgroundJob → BackgroundJob}
    {keeps : ∀ j, (f j).uuid = j.uuid}
    {deliver : Table WebhookDelivery.uuid → Table WebhookDelivery.uuid} {event : DomainEvent}
    {s : Store} : canEnd id event.uuid s = true ↔
      ∃ t, endAttempt id f keeps deliver event s = .ok ((), t) := by
  unfold canEnd
  rw [Bool.and_eq_true, Option.isSome_iff_exists, Option.isNone_iff_eq_none]
  constructor
  · rintro ⟨⟨row, found⟩, free⟩
    obtain ⟨events, inserted⟩ := Table.insert_of_fresh (r := event) (Table.find?_eq_none.mp free)
    exact ⟨_, endAttempt_eq_ok.mpr ⟨row, events, found, inserted, rfl⟩⟩
  · rintro ⟨t, ended⟩
    obtain ⟨row, events, found, inserted, -⟩ := endAttempt_eq_ok.mp ended
    exact ⟨⟨row, found⟩, Table.find?_eq_none.mpr (Table.insert_eq_some.mp inserted).1⟩

/-- **A dead-letter retry** has read a job that had failed. -/
theorem retryDeadLetterCheck_eq_ok {id : Uuid} {s : Store} {existing : BackgroundJob} :
    retryDeadLetterCheck id s = .ok existing ↔
      s.backgroundJobs.find? id = some existing ∧ existing.status = .failed := by
  unfold retryDeadLetterCheck
  constructor
  · intro checked
    obtain ⟨job, found, rest⟩ := bind_eq_ok.mp checked
    obtain ⟨_, failed, same⟩ := bind_eq_ok.mp rest
    rw [pure_eq_ok] at same
    obtain rfl := same
    exact ⟨orThrow_eq_ok.mp found, beq_iff_eq.mp (require_eq_ok.mp failed)⟩
  · rintro ⟨found, failed⟩
    refine bind_eq_ok.mpr ⟨existing, orThrow_eq_ok.mpr found, bind_eq_ok.mpr ⟨(), ?_, rfl⟩⟩
    exact require_eq_ok.mpr (beq_iff_eq.mpr failed)

end JobWorker

end AcadID
