/-
**The queue of background jobs.**

* `queueByJobType` and `maxAttemptsFor` — what a type of job comes with.
* `createJob` — a job and the event that announces it, in one transaction.
* `enqueueJob` — `createJob` under `execute`, where the input names a key or its type is one of
  those that derive a key from their content.
-/

import AcadID.Platform.Idempotency

namespace AcadID

open Lib

namespace Queue

def queueByJobType : BackgroundJobType → String
  | .bulkStudentUpload => "ingestion.bulk"
  | .resultBatchValidation => "results.validation"
  | .credentialGeneration => "credentials.generation"
  | .pdfGeneration => "documents.pdf"
  | .smsEmailDelivery => "notifications.delivery"
  | .paystackPaymentConfirmation => "payments.paystack"
  | .recordRequestDeadline => "record-requests.deadlines"
  | .webhookDelivery => "webhooks.delivery"
  | .pushNotification => "notifications.push"
  | .liveResultsCallback => "live-results.callbacks"
  | .examBodyIngest => "exam-body.ingest"
  | .rateLimitBucketCleanup => "platform.maintenance"
  | .idempotencyRecordCleanup => "platform.maintenance"

/-- `RetryPolicyService.maxAttemptsFor` -/
def maxAttemptsFor : BackgroundJobType → ℕ
  | .bulkStudentUpload | .resultBatchValidation => 3
  | .credentialGeneration | .pdfGeneration | .smsEmailDelivery | .pushNotification => 5
  | .paystackPaymentConfirmation => 10
  | .recordRequestDeadline => 4
  | .webhookDelivery | .liveResultsCallback | .examBodyIngest => 8
  | .rateLimitBucketCleanup | .idempotencyRecordCleanup => 2

structure EnqueueJobInput where
  type : BackgroundJobType
  queue : Option String
  institutionId : Option Uuid
  createdById : Option Uuid
  relatedEntityType : Option String
  relatedEntityId : Option String
  priority : Option ℤ
  maxAttempts : Option ℕ
  runAfter : Option Time
  payload : Json
  eventType : Option String
  eventPayload : Option Json
  idempotencyKey : Option String
  idempotencyScope : Option String
  idempotencyTtlHours : Option ℚ

/-- What the runtime and the database give a call. -/
structure JobEnv where
  now : Time
  jobUuid : Uuid
  eventUuid : Uuid
  recordUuid : Uuid

/-! ### A job and its event -/

def newJob (env : JobEnv) (input : EnqueueJobInput) : BackgroundJob where
  uuid := env.jobUuid
  type := input.type
  queue := input.queue.getD (queueByJobType input.type)
  status := .queued
  institutionId := input.institutionId
  createdById := input.createdById
  relatedEntityType := input.relatedEntityType
  relatedEntityId := input.relatedEntityId
  priority := input.priority.getD 0
  attempts := 0
  maxAttempts := input.maxAttempts.getD (maxAttemptsFor input.type)
  runAfter := input.runAfter.getD env.now
  payload := input.payload
  result := none
  error := none

/-- `input.eventType ?? ...`, which also names the operation of the idempotency record. -/
def eventTypeOf (rt : Runtime) (input : EnqueueJobInput) : String :=
  input.eventType.getD (rt.toLowerCase input.type.name ++ ".queued")

def newEvent (rt : Runtime) (env : JobEnv) (input : EnqueueJobInput) : DomainEvent where
  uuid := env.eventUuid
  type := eventTypeOf rt input
  aggregateType := "BackgroundJob"
  aggregateId := env.jobUuid
  institutionId := input.institutionId
  jobId := some env.jobUuid
  payload := input.eventPayload.getD (.obj
    [("jobId", .str env.jobUuid), ("type", .str input.type.name),
      ("queue", .str (newJob env input).queue), ("status", .str (newJob env input).status.name)])

def toJobAcceptedResponse (job : BackgroundJob) (event : DomainEvent) : Json :=
  .obj
    [("id", .str job.uuid), ("jobId", .str job.uuid), ("type", .str job.type.name),
      ("queue", .str job.queue), ("status", .str job.status.name), ("eventId", .str event.uuid),
      ("pollingUrl", .str ("/jobs/" ++ job.uuid))]

/-- The job and its event, inserted together. -/
def insertJob (job : BackgroundJob) (event : DomainEvent) (s : Store) :
    Except ServiceError (Json × Store) := do
  let backgroundJobs ← insertUnique s.backgroundJobs job
  let domainEvents ← insertUnique s.domainEvents event
  return (toJobAcceptedResponse job event,
    { s with
      backgroundJobs := backgroundJobs
      domainEvents := domainEvents })

def createJob (rt : Runtime) (env : JobEnv) (input : EnqueueJobInput) : Db Json :=
  Db.transaction (insertJob (newJob env input) (newEvent rt env input))

/-! ### Jobs that are enqueued once -/

/-- What the fingerprint of a job, and the key derived from it, are taken of. -/
def jobRequest (input : EnqueueJobInput) : Json :=
  .obj
    [("type", .str input.type.name), ("institutionId", Json.ofOption input.institutionId),
      ("relatedEntityType", Json.ofOption input.relatedEntityType),
      ("relatedEntityId", Json.ofOption input.relatedEntityId), ("payload", input.payload)]

def protectedTypes : List BackgroundJobType :=
  [.bulkStudentUpload, .resultBatchValidation, .credentialGeneration, .pdfGeneration,
    .paystackPaymentConfirmation]

def autoIdempotencyKey (rt : Runtime) (input : EnqueueJobInput) : Option String :=
  if protectedTypes.contains input.type then
    some ("auto:" ++ Idempotency.requestHash rt (jobRequest input))
  else none

/-- The `jobId` of a response. -/
def responseJobId (response : Json) : Option Uuid :=
  match response.get? "jobId" with
  | some (.str jobId) => some jobId
  | _ => none

def idempotencyInput (rt : Runtime) (input : EnqueueJobInput) (key : String) :
    Idempotency.IdempotencyInput where
  scope := input.idempotencyScope.getD ("job:" ++ input.type.name)
  key := key
  operation := eventTypeOf rt input
  request := jobRequest input
  auth := none
  institutionId := input.institutionId
  ttlHours := input.idempotencyTtlHours

def enqueueJob (rt : Runtime) (env : JobEnv) (input : EnqueueJobInput) : Db Json :=
  -- An empty key is falsy, like one that is not there.
  match (input.idempotencyKey <|> autoIdempotencyKey rt input).filter (· ≠ "") with
  | some key =>
    Idempotency.execute rt (Idempotency.Stored.json responseJobId) ⟨env.now, env.recordUuid⟩
      (idempotencyInput rt input key) (createJob rt env input)
  | none => createJob rt env input

/-- An input that names a key is enqueued under it. -/
theorem enqueueJob_keyed {rt : Runtime} {env : JobEnv} {input : EnqueueJobInput} {key : String}
    (named : input.idempotencyKey = some key) (nonempty : key ≠ "") :
    enqueueJob rt env input =
      Idempotency.execute rt (Idempotency.Stored.json responseJobId) ⟨env.now, env.recordUuid⟩
        (idempotencyInput rt input key) (createJob rt env input) := by
  have kept : (input.idempotencyKey <|> autoIdempotencyKey rt input).filter (· ≠ "") =
      some key := by
    rw [named]
    show (some key).filter (· ≠ "") = some key
    simp [nonempty]
  unfold enqueueJob
  rw [kept]

/-! ### What a created job is -/

/-- **A job that is created** is one more row, and so is its event; both ids were free. -/
theorem insertJob_eq_ok {job : BackgroundJob} {event : DomainEvent} {s t : Store}
    {response : Json} :
    insertJob job event s = .ok (response, t) ↔
      response = toJobAcceptedResponse job event ∧
        ∃ jobs events, s.backgroundJobs.insert job = some jobs ∧
          s.domainEvents.insert event = some events ∧
          t = { s with
            backgroundJobs := jobs
            domainEvents := events } := by
  unfold insertJob insertUnique
  constructor
  · intro inserted
    obtain ⟨jobs, jobIn, rest⟩ := bind_eq_ok.mp inserted
    obtain ⟨events, eventIn, same⟩ := bind_eq_ok.mp rest
    obtain ⟨rfl, rfl⟩ := Prod.mk.inj (pure_eq_ok.mp same)
    exact ⟨rfl, jobs, events, orThrow_eq_ok.mp jobIn, orThrow_eq_ok.mp eventIn, rfl⟩
  · rintro ⟨rfl, jobs, events, jobIn, eventIn, rfl⟩
    refine bind_eq_ok.mpr ⟨jobs, orThrow_eq_ok.mpr jobIn, ?_⟩
    exact bind_eq_ok.mpr ⟨events, orThrow_eq_ok.mpr eventIn, rfl⟩

/-- **A job under a free id**, its event under another, can be inserted. -/
theorem insertJob_of_free {rt : Runtime} {env : JobEnv} {input : EnqueueJobInput} {s : Store}
    (jobFree : ∀ r ∈ s.backgroundJobs.rows, r.uuid ≠ env.jobUuid)
    (eventFree : ∀ r ∈ s.domainEvents.rows, r.uuid ≠ env.eventUuid) :
    ∃ jobs events, jobs.rows = s.backgroundJobs.rows ++ [newJob env input] ∧
      ∀ records, insertJob (newJob env input) (newEvent rt env input)
          { s with idempotencyRecords := records } =
        .ok (toJobAcceptedResponse (newJob env input) (newEvent rt env input),
          { s with
            idempotencyRecords := records
            backgroundJobs := jobs
            domainEvents := events }) := by
  obtain ⟨jobs, jobIn⟩ := @Table.insert_of_fresh _ _ _ _ s.backgroundJobs (newJob env input) jobFree
  obtain ⟨events, eventIn⟩ :=
    @Table.insert_of_fresh _ _ _ _ s.domainEvents (newEvent rt env input) eventFree
  refine ⟨jobs, events, (Table.insert_eq_some.mp jobIn).2, fun records => ?_⟩
  exact insertJob_eq_ok.mpr ⟨rfl, jobs, events, jobIn, eventIn, rfl⟩

/-- Such a job is created. -/
theorem createJob_of_free {rt : Runtime} {env : JobEnv} {input : EnqueueJobInput} {s : Store}
    (jobFree : ∀ r ∈ s.backgroundJobs.rows, r.uuid ≠ env.jobUuid)
    (eventFree : ∀ r ∈ s.domainEvents.rows, r.uuid ≠ env.eventUuid) :
    ∃ jobs events, jobs.rows = s.backgroundJobs.rows ++ [newJob env input] ∧
      ∀ records, createJob rt env input [] { s with idempotencyRecords := records } =
        ⟨.ok (toJobAcceptedResponse (newJob env input) (newEvent rt env input)), [],
          { s with
            idempotencyRecords := records
            backgroundJobs := jobs
            domainEvents := events }⟩ := by
  obtain ⟨jobs, events, rows, inserts⟩ := @insertJob_of_free rt env input s jobFree eventFree
  refine ⟨jobs, events, rows, fun records => ?_⟩
  unfold createJob Db.transaction
  exact Async.transaction_ok rfl (inserts records)

/-- The key under which a job is enqueued, if any; an empty one is falsy, like one that is not
there. -/
def enqueueKey (rt : Runtime) (input : EnqueueJobInput) : Option String :=
  (input.idempotencyKey <|> autoIdempotencyKey rt input).filter (· ≠ "")

/-- The key of a job, if it has one, is well formed and was never used. -/
def IsNew (rt : Runtime) (input : EnqueueJobInput) (s : Store) : Prop :=
  ∀ key, enqueueKey rt input = some key → ∃ normalised, Idempotency.normaliseKey key = .ok normalised ∧
    Idempotency.findKey (idempotencyInput rt input key).scope (rt.sha256 normalised)
      s.idempotencyRecords = none

theorem enqueueJob_some {rt : Runtime} {env : JobEnv} {input : EnqueueJobInput} {key : String}
    (named : enqueueKey rt input = some key) :
    enqueueJob rt env input =
      Idempotency.execute rt (Idempotency.Stored.json responseJobId) ⟨env.now, env.recordUuid⟩
        (idempotencyInput rt input key) (createJob rt env input) := by
  unfold enqueueJob
  unfold enqueueKey at named
  rw [named]

theorem enqueueJob_none {rt : Runtime} {env : JobEnv} {input : EnqueueJobInput}
    (unnamed : enqueueKey rt input = none) :
    enqueueJob rt env input = createJob rt env input := by
  unfold enqueueJob
  unfold enqueueKey at unnamed
  rw [unnamed]

/-- **A new job is enqueued**, under free ids; nothing but the queue and the records of keys
changes. -/
theorem enqueueJob_of_new {rt : Runtime} {env : JobEnv} {input : EnqueueJobInput} {s : Store}
    (jobFree : ∀ r ∈ s.backgroundJobs.rows, r.uuid ≠ env.jobUuid)
    (eventFree : ∀ r ∈ s.domainEvents.rows, r.uuid ≠ env.eventUuid)
    (recordFree : ∀ r ∈ s.idempotencyRecords.rows, r.uuid ≠ env.recordUuid)
    (isNew : IsNew rt input s) :
    ∃ records jobs events, jobs.find? env.jobUuid = some (newJob env input) ∧
      enqueueJob rt env input [] s =
        ⟨.ok (toJobAcceptedResponse (newJob env input) (newEvent rt env input)), [],
          { s with
            idempotencyRecords := records
            backgroundJobs := jobs
            domainEvents := events }⟩ := by
  obtain ⟨jobs, events, rows, creates⟩ := @createJob_of_free rt env input s jobFree eventFree
  have found : jobs.find? env.jobUuid = some (newJob env input) := by
    refine Table.find?_eq_some.mpr ⟨?_, rfl⟩
    rw [rows]
    exact List.mem_append_right _ (List.mem_singleton_self _)
  cases named : enqueueKey rt input with
  | none =>
    refine ⟨s.idempotencyRecords, jobs, events, found, ?_⟩
    rw [enqueueJob_none named]
    exact creates s.idempotencyRecords
  | some key =>
    obtain ⟨normalised, valid, absent⟩ := isNew key named
    obtain ⟨records, executed, -⟩ := @Idempotency.execute_first _ rt
      (Idempotency.Stored.json responseJobId) ⟨env.now, env.recordUuid⟩
      (idempotencyInput rt input key) (createJob rt env input) normalised valid s
      { s with
        backgroundJobs := jobs
        domainEvents := events } _ absent recordFree creates
    refine ⟨records, jobs, events, found, ?_⟩
    rw [enqueueJob_some named]
    exact executed

/-- A job that is not new is not enqueued. -/
theorem enqueueJob_of_not_new {rt : Runtime} {env : JobEnv} {input : EnqueueJobInput} {s : Store}
    (old : ¬ IsNew rt input s) : (enqueueJob rt env input [] s).store = s := by
  unfold IsNew at old
  push Not at old
  obtain ⟨key, named, used⟩ := old
  rw [enqueueJob_some named]
  cases valid : Idempotency.normaliseKey (idempotencyInput rt input key).key with
  | error e => rw [Idempotency.execute_invalid valid]
  | ok normalised =>
    obtain ⟨existing, found⟩ := Option.ne_none_iff_exists'.mp (used normalised valid)
    rw [Idempotency.execute_answered valid found []]

theorem responseJobId_accepted (job : BackgroundJob) (event : DomainEvent) :
    responseJobId (toJobAcceptedResponse job event) = some job.uuid := rfl

end Queue

end AcadID
