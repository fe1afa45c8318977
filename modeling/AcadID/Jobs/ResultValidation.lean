/-
**A result batch queued for the worker, against the same batch ingested at once.**

* `queueResultBatchValidation` checks the authority and the scope of the actor and enqueues a job
  whose payload is the parsed body; `processResultBatchValidation` is the worker's `ingestResults` of
  that payload, under `systemAuth`.
* `readsBack_input` — what a body is parsed to is read back from the payload.
* `directly_iff` and `queued_iff` — **the exact conditions** under which a path creates a batch.
* `validate_agrees_iff` — **the two paths agree exactly when** `AgreeWhen`: an API key names the worker as the
  creator, and a human actor passes the scope check with the first row as its target exactly when
  without one, and has no institution user id if so.
* `agree_fails` — a sheet of an API key.
-/

import AcadID.Gateway.AssignedScopes
import AcadID.Jobs.Worker

namespace AcadID

open Lib

namespace ResultValidation

open Ingestion Grading JobWorker

/-! ### What the payload of a job says of a body -/

def rowJson (row : ResultRow) : Json :=
  Json.fields
    [("studentNumber", some (.str row.studentNumber)),
      ("periodType", some (.str row.periodType.name)), ("periodLabel", some (.str row.periodLabel)),
      ("subjectCode", some (.str row.subjectCode)), ("subjectName", some (.str row.subjectName)),
      ("caScore", row.caScore.map .num), ("examScore", row.examScore.map .num),
      ("totalScore", some (.num row.totalScore)), ("grade", row.grade.map .str),
      ("creditUnits", row.creditUnits.map .num)]

/-- `toJson` of a parsed body. -/
def inputJson (input : IngestResultBatchInput) : Json :=
  Json.fields
    [("institutionId", some (.str input.institutionId)), ("createdById", input.createdById.map .str),
      ("title", some (.str input.title)), ("academicSessionId", input.academicSessionId.map .str),
      ("structureScopeId", input.structureScopeId.map .str),
      ("gradingRuleSetId", input.gradingRuleSetId.map .str),
      ("uploadMode", some (.str input.uploadMode.name)), ("batchLabel", input.batchLabel.map .str),
      ("rows", some (.arr (input.rows.map rowJson)))]

section RoundTrip

open Schema

/-- **A row** is read back from what is written of it. -/
theorem readsBack_row : ReadsBack resultRowSchema fun row => some (rowJson row) := by
  have text := fun checks => readsBack_string checks
  have texts := fun checks => readsBack_optional (readsBack_string checks)
  have score := fun checks => readsBack_number checks
  have scores := fun checks => readsBack_optional (readsBack_number checks)
  have period : ReadsBack (enum [("TERM", PeriodType.term), ("SEMESTER", .semester)])
      fun a => some (.str a.name) := readsBack_enum (by decide)
  refine readsBack_object fun v row read => ?_
  obtain ⟨_, creditUnits, read9, last, rfl⟩ := Checked.seq_eq_valid.mp read
  obtain ⟨_, grade, read8, ninth, rfl⟩ := Checked.seq_eq_valid.mp read9
  obtain ⟨_, totalScore, read7, eighth, rfl⟩ := Checked.seq_eq_valid.mp read8
  obtain ⟨_, examScore, read6, seventh, rfl⟩ := Checked.seq_eq_valid.mp read7
  obtain ⟨_, caScore, read5, sixth, rfl⟩ := Checked.seq_eq_valid.mp read6
  obtain ⟨_, subjectName, read4, fifth, rfl⟩ := Checked.seq_eq_valid.mp read5
  obtain ⟨_, subjectCode, read3, fourth, rfl⟩ := Checked.seq_eq_valid.mp read4
  obtain ⟨_, periodLabel, read2, third, rfl⟩ := Checked.seq_eq_valid.mp read3
  obtain ⟨_, periodType, read1, second, rfl⟩ := Checked.seq_eq_valid.mp read2
  obtain ⟨studentNumber, first, rfl⟩ := Checked.map_eq_valid.mp read1
  refine Checked.seq_eq_valid.mpr ⟨_, creditUnits, ?_, field_back (scores _) last ?_, rfl⟩
  refine Checked.seq_eq_valid.mpr ⟨_, grade, ?_, field_back (texts _) ninth ?_, rfl⟩
  refine Checked.seq_eq_valid.mpr ⟨_, totalScore, ?_, field_back (score _) eighth ?_, rfl⟩
  refine Checked.seq_eq_valid.mpr ⟨_, examScore, ?_, field_back (scores _) seventh ?_, rfl⟩
  refine Checked.seq_eq_valid.mpr ⟨_, caScore, ?_, field_back (scores _) sixth ?_, rfl⟩
  refine Checked.seq_eq_valid.mpr ⟨_, subjectName, ?_, field_back (text _) fifth ?_, rfl⟩
  refine Checked.seq_eq_valid.mpr ⟨_, subjectCode, ?_, field_back (text _) fourth ?_, rfl⟩
  refine Checked.seq_eq_valid.mpr ⟨_, periodLabel, ?_, field_back (text _) third ?_, rfl⟩
  refine Checked.seq_eq_valid.mpr ⟨_, periodType, ?_, field_back period second ?_, rfl⟩
  exact Checked.map_eq_valid.mpr ⟨studentNumber, field_back (text _) first (by
    simp [Json.get?_fields_cons, Json.get?_fields_nil]), rfl⟩
  all_goals simp [Json.get?_fields_cons, Json.get?_fields_nil]

/-- **A body** is read back from what is written of it. -/
theorem readsBack_input (rt : Runtime) :
    ReadsBack (ingestResultBatchSchema rt) fun input => some (inputJson input) := by
  have text := fun checks => readsBack_string checks
  have texts := fun checks => readsBack_optional (readsBack_string checks)
  have mode : ReadsBack (withDefault .masterSheet (enum
      [("SUBJECT_BY_SUBJECT", ResultUploadMode.subjectBySubject), ("MASTER_SHEET", .masterSheet),
        ("COURSE_BASED", .courseBased), ("MANUAL_ENTRY", .manualEntry)]))
      fun a => some (.str a.name) := readsBack_withDefault (readsBack_enum (by decide)) (by decide)
  have listed := readsBack_array readsBack_row (lengths_items 1 1000)
  unfold ingestResultBatchSchema inputJson
  refine readsBack_object fun v input read => ?_
  obtain ⟨_, rows, read8, last, rfl⟩ := Checked.seq_eq_valid.mp read
  obtain ⟨_, batchLabel, read7, eighth, rfl⟩ := Checked.seq_eq_valid.mp read8
  obtain ⟨_, uploadMode, read6, seventh, rfl⟩ := Checked.seq_eq_valid.mp read7
  obtain ⟨_, gradingRuleSetId, read5, sixth, rfl⟩ := Checked.seq_eq_valid.mp read6
  obtain ⟨_, structureScopeId, read4, fifth, rfl⟩ := Checked.seq_eq_valid.mp read5
  obtain ⟨_, academicSessionId, read3, fourth, rfl⟩ := Checked.seq_eq_valid.mp read4
  obtain ⟨_, title, read2, third, rfl⟩ := Checked.seq_eq_valid.mp read3
  obtain ⟨_, createdById, read1, second, rfl⟩ := Checked.seq_eq_valid.mp read2
  obtain ⟨institutionId, first, rfl⟩ := Checked.map_eq_valid.mp read1
  refine Checked.seq_eq_valid.mpr ⟨_, rows, ?_, field_back listed last ?_, rfl⟩
  refine Checked.seq_eq_valid.mpr ⟨_, batchLabel, ?_, field_back (texts _) eighth ?_, rfl⟩
  refine Checked.seq_eq_valid.mpr ⟨_, uploadMode, ?_, field_back mode seventh ?_, rfl⟩
  refine Checked.seq_eq_valid.mpr ⟨_, gradingRuleSetId, ?_, field_back (texts _) sixth ?_, rfl⟩
  refine Checked.seq_eq_valid.mpr ⟨_, structureScopeId, ?_, field_back (texts _) fifth ?_, rfl⟩
  refine Checked.seq_eq_valid.mpr ⟨_, academicSessionId, ?_, field_back (texts _) fourth ?_, rfl⟩
  refine Checked.seq_eq_valid.mpr ⟨_, title, ?_, field_back (text _) third ?_, rfl⟩
  refine Checked.seq_eq_valid.mpr ⟨_, createdById, ?_, field_back (texts _) second ?_, rfl⟩
  exact Checked.map_eq_valid.mpr ⟨institutionId, field_back (text _) first (by
    simp [Json.get?_fields_cons, Json.get?_fields_nil]), rfl⟩
  all_goals simp [Json.get?_fields_cons, Json.get?_fields_nil]

end RoundTrip

/-! ### The queued call, and its job -/

/-- What the runtime and the database give a queued call. -/
structure QueueEnv where
  pick : ℕ
  checkedAt : Time
  job : Queue.JobEnv

structure QueuePlan where
  auth : AuthTokenPayload
  input : IngestResultBatchInput
  authority : Authority.InstitutionAuthority

def queueCheck (rt : Runtime) (env : QueueEnv) (auth : AuthTokenPayload) (body : Json) (s : Store) :
    Except ServiceError QueuePlan := do
  let input ← parseBody (ingestResultBatchSchema rt) body
  let authority ← Authority.assertInstitutionCan input.institutionId "ingest_results" auth
    env.checkedAt env.pick s
  assertBatchScopeBelongsToInstitution authority.institutionUuid input.academicSessionId
    input.structureScopeId s
  Authority.assertActorAssignedScope rt auth authority.institutionUuid input.structureScopeId [] s
  return { auth := auth, input := input, authority := authority }

def jobInput (plan : QueuePlan) (idempotencyKey : Option String) : Queue.EnqueueJobInput where
  type := .resultBatchValidation
  queue := none
  institutionId := some plan.authority.institutionUuid
  createdById := plan.auth.actorId
  relatedEntityType := some "ResultBatchDraft"
  relatedEntityId := none
  priority := none
  maxAttempts := none
  runAfter := none
  payload := .obj
    [("request", inputJson plan.input), ("requestedBy", requestedBy plan.auth),
      ("authorityGrantId", .str plan.authority.authorityGrantId)]
  eventType := some "result_batch.validation_queued"
  eventPayload := some (.obj
    [("institutionId", .str plan.authority.institutionId),
      ("academicSessionId", Json.ofOption plan.input.academicSessionId),
      ("structureScopeId", Json.ofOption plan.input.structureScopeId),
      ("rowCount", .num plan.input.rows.length)])
  idempotencyKey := idempotencyKey
  idempotencyScope := some "gateway:ingest:results_async"
  idempotencyTtlHours := none

def queueResultBatchValidation (rt : Runtime) (env : QueueEnv) (auth : AuthTokenPayload)
    (body : Json) (idempotencyKey : Option String) : Db Json := do
  let plan ← Db.read (queueCheck rt env auth body)
  let job ← Queue.enqueueJob rt env.job (jobInput plan idempotencyKey)
  return .obj
    [("accepted", .bool true), ("door", .str "ingestion"),
      ("operation", .str "result-batch-validation"), ("processing", .str "QUEUED"),
      ("institutionId", .str plan.authority.institutionId),
      ("rowCount", .num plan.input.rows.length), ("job", job)]

/-- The checks and the transaction of `ingestResults`, nothing failing in between. -/
def ingestResults (rt : Runtime) (env : IngestEnv) (auth : AuthTokenPayload) (body : Json)
    (s : Store) : Except ServiceError (ResultBatch × Store) := do
  let plan ← ingestCheck rt env auth body s
  ingestCommit plan s

def processResultBatchValidation (rt : Runtime) (env : IngestEnv) (job : BackgroundJob) (s : Store) :
    Except ServiceError (ResultBatch × Store) :=
  ingestResults rt env (systemAuth job) ((job.payload.get? "request").getD .null) s

/-! ### The two paths -/

/-- The ids and the time that a path gives its batch. -/
structure BatchIds where
  committedAt : Time
  batchUuid : Uuid
  recordUuid : ℕ → Uuid

/-- What the runtime and the database give the two paths: the same row to the same lookup, and the
same time to the two requests. -/
structure PathsEnv where
  pick : ℕ
  askedAt : Time
  direct : BatchIds
  job : Queue.JobEnv
  claimedAt : Time
  workedAt : Time
  worker : BatchIds

namespace PathsEnv

def directEnv (env : PathsEnv) : IngestEnv where
  pick := env.pick
  checkedAt := env.askedAt
  committedAt := env.direct.committedAt
  batchUuid := env.direct.batchUuid
  recordUuid := env.direct.recordUuid

def queueEnv (env : PathsEnv) : QueueEnv where
  pick := env.pick
  checkedAt := env.askedAt
  job := env.job

def workerEnv (env : PathsEnv) : IngestEnv where
  pick := env.pick
  checkedAt := env.workedAt
  committedAt := env.worker.committedAt
  batchUuid := env.worker.batchUuid
  recordUuid := env.worker.recordUuid

end PathsEnv

/-- The body queued, its job claimed and processed, in a store that nothing else writes. -/
def throughQueue (rt : Runtime) (env : PathsEnv) (auth : AuthTokenPayload) (body : Json)
    (idempotencyKey : Option String) (s : Store) : Except ServiceError (ResultBatch × Store) := do
  let ended := queueResultBatchValidation rt env.queueEnv auth body idempotencyKey [] s
  let _ ← ended.result
  let (job, s) ← claimJob env.claimedAt env.job.jobUuid ended.store
  processResultBatchValidation rt env.workerEnv job s

/-- A batch but for its id. -/
def anonymous (batch : ResultBatch) : ResultBatch :=
  { batch with uuid := "" }

/-- A record but for its ids and its time. -/
def anonymousRecord (record : AcademicRecord) : AcademicRecord :=
  { record with
    uuid := ""
    resultBatchId := none
    createdAt := 0 }

/-- The records that a batch has added. -/
def added (before after : Store) : List AcademicRecord :=
  after.academicRecords.rows.drop before.academicRecords.rows.length

/-- **The two paths agree**: both create a batch or neither does, and the batches and their records
are the same apart from ids and times. -/
structure Agree (rt : Runtime) (env : PathsEnv) (auth : AuthTokenPayload) (body : Json)
    (idempotencyKey : Option String) (s : Store) : Prop where
  alike : (∃ made, throughQueue rt env auth body idempotencyKey s = .ok made) ↔
    ∃ made, ingestResults rt env.directEnv auth body s = .ok made
  same : ∀ batch t batch' t', ingestResults rt env.directEnv auth body s = .ok (batch, t) →
    throughQueue rt env auth body idempotencyKey s = .ok (batch', t') →
      anonymous batch' = anonymous batch ∧
        (added s t').map anonymousRecord = (added s t).map anonymousRecord

/-- New ids, and a job that is due when it is claimed. -/
structure Fresh (env : PathsEnv) (s : Store) : Prop where
  direct : ∀ count, FreshFor env.directEnv count s
  worker : ∀ count, FreshFor env.workerEnv count s
  job : ∀ r ∈ s.backgroundJobs.rows, r.uuid ≠ env.job.jobUuid
  event : ∀ r ∈ s.domainEvents.rows, r.uuid ≠ env.job.eventUuid
  record : ∀ r ∈ s.idempotencyRecords.rows, r.uuid ≠ env.job.recordUuid
  due : env.job.now ≤ env.claimedAt

/-- What both paths ask of the body and the actor. -/
structure Shared (rt : Runtime) (env : PathsEnv) (auth : AuthTokenPayload) (body : Json) (s : Store)
    (input : IngestResultBatchInput) (authority : Authority.InstitutionAuthority)
    (rule : ResolvedGradingRule) (grading : Graded) : Prop where
  parsed : ingestResultBatchSchema rt (some body) = .valid input
  allowed : Authority.assertInstitutionCan input.institutionId "ingest_results" auth env.askedAt
    env.pick s = .ok authority
  gradable : Gradable rt authority.institutionUuid input s rule grading

/-- The actor passes the scope check against a target. -/
def Scoped (rt : Runtime) (auth : AuthTokenPayload) (institutionId : Uuid)
    (input : IngestResultBatchInput) (target : Authority.ScopeTarget) (s : Store) : Prop :=
  Authority.assertActorAssignedScope rt auth institutionId input.structureScopeId target s = .ok ()

/-- The job is new, and the institution still allowed to ingest results when it is processed. -/
structure Later (rt : Runtime) (env : PathsEnv) (auth : AuthTokenPayload)
    (input : IngestResultBatchInput) (authority : Authority.InstitutionAuthority)
    (idempotencyKey : Option String) (s : Store) : Prop where
  isNew : Queue.IsNew rt (jobInput ⟨auth, input, authority⟩ idempotencyKey) s
  allowed : ∃ granted, Authority.assertInstitutionCan input.institutionId "ingest_results"
    (systemAuth (Queue.newJob env.job (jobInput ⟨auth, input, authority⟩ idempotencyKey)))
      env.workedAt env.pick s = .ok granted

/-! ### When an ingestion goes through -/

/-- The institution that an authority is about does not depend on who asks for it, nor when. -/
theorem institution_of_allowed {ref permission : String} {actor actor' : AuthTokenPayload}
    {now now' : Time} {pick : ℕ} {s : Store} {a a' : Authority.InstitutionAuthority}
    (first : Authority.assertInstitutionCan ref permission actor now pick s = .ok a)
    (second : Authority.assertInstitutionCan ref permission actor' now' pick s = .ok a') :
    a'.institutionUuid = a.institutionUuid := by
  obtain ⟨institution, found, rest⟩ := bind_eq_ok.mp first
  obtain ⟨institution', found', rest'⟩ := bind_eq_ok.mp second
  obtain rfl : institution = institution' := by
    rw [orThrow_eq_ok] at found found'
    exact Option.some.inj (found.symm.trans found')
  obtain ⟨-, -, rest⟩ := bind_eq_ok.mp rest
  obtain ⟨-, -, rest⟩ := bind_eq_ok.mp rest
  obtain ⟨_, -, same⟩ := bind_eq_ok.mp rest
  obtain ⟨-, -, rest'⟩ := bind_eq_ok.mp rest'
  obtain ⟨-, -, rest'⟩ := bind_eq_ok.mp rest'
  obtain ⟨_, -, same'⟩ := bind_eq_ok.mp rest'
  rw [pure_eq_ok] at same same'
  rw [← same, ← same']

/-- An actor with an authority may operate its institution. -/
theorem operates_of_allowed {ref permission : String} {actor : AuthTokenPayload} {now : Time}
    {pick : ℕ} {s : Store} {a : Authority.InstitutionAuthority}
    (allowed : Authority.assertInstitutionCan ref permission actor now pick s = .ok a) :
    Authority.assertActorCanOperateInstitution actor a.institutionUuid s = .ok () := by
  obtain ⟨institution, -, rest⟩ := bind_eq_ok.mp allowed
  obtain ⟨-, -, rest⟩ := bind_eq_ok.mp rest
  obtain ⟨⟨⟩, operates, rest⟩ := bind_eq_ok.mp rest
  obtain ⟨grant, -, same⟩ := bind_eq_ok.mp rest
  rw [pure_eq_ok] at same
  rw [← same]
  exact operates

/-- An API key passes every scope check of an institution that it may operate, and so does a super
admin. -/
theorem scoped_of_unlimited {rt : Runtime} {auth : AuthTokenPayload} {institutionId : Uuid}
    {input : IngestResultBatchInput} {target : Authority.ScopeTarget} {s : Store}
    (unlimited : auth.role = .acadidSuperAdmin ∨ auth.isApiKey = true)
    (operates : Authority.assertActorCanOperateInstitution auth institutionId s = .ok ()) :
    Scoped rt auth institutionId input target s := by
  unfold Scoped Authority.assertActorAssignedScope
  refine bind_eq_ok.mpr ⟨(), operates, ?_⟩
  rw [if_pos]
  · rfl
  · rcases unlimited with admin | apiKey
    · exact .inl admin
    · exact .inr (.inr apiKey)

/-- **An ingestion under new ids** goes through exactly when its checks do. -/
theorem ingestResults_eq_ok {rt : Runtime} {env : IngestEnv} {auth : AuthTokenPayload} {body : Json}
    {s : Store} : (∃ made, ingestResults rt env auth body s = .ok made) ↔
      ∃ plan made, ingestCheck rt env auth body s = .ok plan ∧ ingestCommit plan s = .ok made := by
  unfold ingestResults
  constructor
  · rintro ⟨made, went⟩
    obtain ⟨plan, checked, committed⟩ := bind_eq_ok.mp went
    exact ⟨plan, made, checked, committed⟩
  · rintro ⟨plan, made, checked, committed⟩
    exact ⟨made, bind_eq_ok.mpr ⟨plan, checked, committed⟩⟩

/-- A plan whose checks have passed is committed under new ids. -/
theorem committed_of_checked {rt : Runtime} {env : IngestEnv} {auth : AuthTokenPayload} {body : Json}
    {s : Store} {plan : IngestPlan} (checked : ingestCheck rt env auth body s = .ok plan)
    (fresh : ∀ count, FreshFor env count s) : ∃ made, ingestCommit plan s = .ok made := by
  obtain ⟨input, authority, rule, grading, -, -, gradable, -, -, rfl⟩ := ingestCheck_eq_ok.mp checked
  have enrolled : ∀ g ∈ grading.rows,
      ((enrolmentByStudentNumber s authority.institutionUuid g.row.studentNumber).map
        (·.uuid)).isSome := by
    intro g inside
    have row : g.row ∈ input.rows := by
      rw [← gradeRows_rows gradable.graded]
      exact List.mem_map_of_mem inside
    rw [Option.isSome_map]
    exact gradable.enrolled g.row row
  obtain ⟨batch, t, committed⟩ := @ingestCommit_of_fresh
    (planOf env auth input authority rule grading s) s enrolled (fresh _)
  exact ⟨(batch, t), committed⟩

/-! ### When the queue lets a body through -/

theorem queueCheck_eq_ok {rt : Runtime} {env : QueueEnv} {auth : AuthTokenPayload} {body : Json}
    {s : Store} {plan : QueuePlan} : queueCheck rt env auth body s = .ok plan ↔
      ∃ input authority, ingestResultBatchSchema rt (some body) = .valid input ∧
        Authority.assertInstitutionCan input.institutionId "ingest_results" auth env.checkedAt
          env.pick s = .ok authority ∧
        assertBatchScopeBelongsToInstitution authority.institutionUuid input.academicSessionId
          input.structureScopeId s = .ok () ∧
        Scoped rt auth authority.institutionUuid input [] s ∧ plan = ⟨auth, input, authority⟩ := by
  unfold queueCheck
  constructor
  · intro checked
    obtain ⟨input, parsed, rest⟩ := bind_eq_ok.mp checked
    obtain ⟨authority, allowed, rest⟩ := bind_eq_ok.mp rest
    obtain ⟨⟨⟩, scope, rest⟩ := bind_eq_ok.mp rest
    obtain ⟨⟨⟩, assigned, same⟩ := bind_eq_ok.mp rest
    rw [pure_eq_ok] at same
    exact ⟨input, authority, parseBody_eq_ok.mp parsed, allowed, scope, assigned, same.symm⟩
  · rintro ⟨input, authority, parsed, allowed, scope, assigned, rfl⟩
    refine bind_eq_ok.mpr ⟨input, parseBody_eq_ok.mpr parsed, ?_⟩
    refine bind_eq_ok.mpr ⟨authority, allowed, ?_⟩
    exact bind_eq_ok.mpr ⟨(), scope, bind_eq_ok.mpr ⟨(), assigned, rfl⟩⟩

/-- The job that a queued body is processed as. -/
def workerJob (env : PathsEnv) (plan : QueuePlan) (idempotencyKey : Option String) :
    BackgroundJob :=
  claimed (Queue.newJob env.job (jobInput plan idempotencyKey))

/-- A store after its queue and its records of keys have changed. -/
def requeued (s : Store) (records : Table IdempotencyRecord.uuid)
    (jobs : Table BackgroundJob.uuid) (events : Table DomainEvent.uuid) : Store :=
  { s with
    idempotencyRecords := records
    backgroundJobs := jobs
    domainEvents := events }

/-- A body whose checks pass, and whose job is new, is queued and processed. -/
theorem throughQueue_of_new {rt : Runtime} {env : PathsEnv} {auth : AuthTokenPayload} {body : Json}
    {idempotencyKey : Option String} {s : Store} {plan : QueuePlan} (fresh : Fresh env s)
    (checked : queueCheck rt env.queueEnv auth body s = .ok plan)
    (isNew : Queue.IsNew rt (jobInput plan idempotencyKey) s) :
    ∃ records jobs events, throughQueue rt env auth body idempotencyKey s =
      ingestResults rt env.workerEnv (systemAuth (workerJob env plan idempotencyKey))
        (inputJson plan.input) (requeued s records jobs events) := by
  obtain ⟨records, jobs, events, found, enqueued⟩ :=
    Queue.enqueueJob_of_new fresh.job fresh.event fresh.record isNew
  have read : (Db.read (queueCheck rt env.queueEnv auth body)) [] s = ⟨.ok plan, [], s⟩ :=
    Async.query_ok rfl checked
  have went : ∃ response, queueResultBatchValidation rt env.queueEnv auth body idempotencyKey [] s =
      ⟨.ok response, [], requeued s records jobs events⟩ := by
    unfold queueResultBatchValidation
    rw [Async.bind_of_ok read, show env.queueEnv.job = env.job from rfl,
      Async.bind_of_ok enqueued]
    exact ⟨_, rfl⟩
  obtain ⟨response, queued⟩ := went
  have claims : claimJob env.claimedAt env.job.jobUuid (requeued s records jobs events) =
      .ok (workerJob env plan idempotencyKey,
        requeued s records (jobs.update env.job.jobUuid claimed fun _ => rfl) events) :=
    claimJob_eq_ok.mpr ⟨Queue.newJob env.job (jobInput plan idempotencyKey), found, rfl, fresh.due,
      rfl, rfl⟩
  refine ⟨records, jobs.update env.job.jobUuid claimed fun _ => rfl, events, ?_⟩
  unfold throughQueue
  simp only [queued]
  show (claimJob env.claimedAt env.job.jobUuid (requeued s records jobs events) >>= fun made =>
    processResultBatchValidation rt env.workerEnv made.1 made.2) = _
  rw [claims]
  rfl

/-- A body that goes through the queue has passed its checks, and its job was new. -/
theorem new_of_throughQueue {rt : Runtime} {env : PathsEnv} {auth : AuthTokenPayload} {body : Json}
    {idempotencyKey : Option String} {s : Store} {made : ResultBatch × Store} (fresh : Fresh env s)
    (went : throughQueue rt env auth body idempotencyKey s = .ok made) :
    ∃ plan, queueCheck rt env.queueEnv auth body s = .ok plan ∧
      Queue.IsNew rt (jobInput plan idempotencyKey) s := by
  cases checked : queueCheck rt env.queueEnv auth body s with
  | error e =>
    have read : (Db.read (queueCheck rt env.queueEnv auth body)) [] s = ⟨.error e, [], s⟩ :=
      Async.query_error rfl checked
    have queued : queueResultBatchValidation rt env.queueEnv auth body idempotencyKey [] s =
        ⟨.error e, [], s⟩ := by
      unfold queueResultBatchValidation
      rw [Async.bind_of_error read]
    unfold throughQueue at went
    simp only [queued] at went
    exact absurd went (by simp [bind, Except.bind])
  | ok plan =>
    refine ⟨plan, rfl, ?_⟩
    by_contra old
    have read : (Db.read (queueCheck rt env.queueEnv auth body)) [] s = ⟨.ok plan, [], s⟩ :=
      Async.query_ok rfl checked
    have store : (queueResultBatchValidation rt env.queueEnv auth body idempotencyKey [] s).store =
        s := by
      unfold queueResultBatchValidation
      rw [Async.bind_of_ok read, Async.bind_apply]
      have kept := @Queue.enqueueJob_of_not_new rt env.job _ s old
      split
      · exact kept
      · exact kept
    obtain ⟨response, -, rest⟩ := bind_eq_ok.mp went
    obtain ⟨⟨job, t⟩, claims, -⟩ := bind_eq_ok.mp rest
    rw [store] at claims
    obtain ⟨row, found, -⟩ := claimJob_eq_ok.mp claims
    exact fresh.job row (Table.find?_mem found) (Table.find?_key found)

/-- The worker's plan for a body: that of a super admin, whoever has queued it. -/
theorem workerCheck_eq_ok {rt : Runtime} {env : IngestEnv} {job : BackgroundJob}
    {input : IngestResultBatchInput} {v : Option Json} {s : Store} {records : Table _}
    {jobs : Table _} {events : Table _} {plan : IngestPlan}
    (parsed : ingestResultBatchSchema rt v = .valid input) :
    ingestCheck rt env (systemAuth job) (inputJson input) (requeued s records jobs events) =
        .ok plan ↔ ∃ authority rule grading,
      Authority.assertInstitutionCan input.institutionId "ingest_results" (systemAuth job)
        env.checkedAt env.pick s = .ok authority ∧
      Gradable rt authority.institutionUuid input s rule grading ∧
      input.createdById = some (systemAuth job).sub ∧
      plan = planOf env (systemAuth job) input authority rule grading s := by
  rw [ingestCheck_eq_ok]
  constructor
  · rintro ⟨input', authority, rule, grading, read, allowed, gradable, -, creator, rfl⟩
    obtain rfl : input = input' := by
      have back := readsBack_input rt v input parsed
      rw [read] at back
      exact (Checked.valid.inj back).symm
    refine ⟨authority, rule, grading, allowed, ⟨gradable.scope, gradable.enrolled,
      gradable.resolved, gradable.graded⟩, ?_, rfl⟩
    rcases creator with apiKey | same
    · exact absurd apiKey (by simp [systemAuth, AuthTokenPayload.isApiKey])
    · exact same
  · rintro ⟨authority, rule, grading, allowed, gradable, creator, rfl⟩
    refine ⟨input, authority, rule, grading, readsBack_input rt v input parsed, allowed,
      ⟨gradable.scope, gradable.enrolled, gradable.resolved, gradable.graded⟩, ?_, .inr creator,
      rfl⟩
    exact scoped_of_unlimited (.inl rfl) (operates_of_allowed allowed)

/-! ### The exact conditions -/

section Conditions

variable {rt : Runtime} {env : PathsEnv} {auth : AuthTokenPayload} {body : Json}
  {idempotencyKey : Option String} {s : Store}

/-- **A body ingested at once** is accepted exactly when its rows can be graded, and the actor may
upload its first row, as the creator it names unless the actor is an API key. -/
theorem directly_iff (fresh : Fresh env s) :
    (∃ made, ingestResults rt env.directEnv auth body s = .ok made) ↔
      ∃ input authority rule grading, Shared rt env auth body s input authority rule grading ∧
        Scoped rt auth authority.institutionUuid input (uploadTarget input) s ∧
        (auth.isApiKey = true ∨ input.createdById = some auth.sub) := by
  rw [ingestResults_eq_ok]
  constructor
  · rintro ⟨plan, -, checked, -⟩
    obtain ⟨input, authority, rule, grading, parsed, allowed, gradable, assigned, creator, -⟩ :=
      ingestCheck_eq_ok.mp checked
    exact ⟨input, authority, rule, grading, ⟨parsed, allowed, gradable⟩, assigned, creator⟩
  · rintro ⟨input, authority, rule, grading, shared, assigned, creator⟩
    have checked : ingestCheck rt env.directEnv auth body s =
        .ok (planOf env.directEnv auth input authority rule grading s) :=
      ingestCheck_eq_ok.mpr ⟨input, authority, rule, grading, shared.parsed, shared.allowed,
        shared.gradable, assigned, creator, rfl⟩
    obtain ⟨made, committed⟩ := committed_of_checked checked fresh.direct
    exact ⟨_, made, checked, committed⟩

/-- **A queued body** becomes a batch exactly when its rows can be graded, the actor passes the scope
check without a target, the job is new and still allowed when it is processed, and the body names
as its creator whom the worker acts for. -/
theorem queued_iff (fresh : Fresh env s) :
    (∃ made, throughQueue rt env auth body idempotencyKey s = .ok made) ↔
      ∃ input authority rule grading, Shared rt env auth body s input authority rule grading ∧
        Scoped rt auth authority.institutionUuid input [] s ∧
        Later rt env auth input authority idempotencyKey s ∧
        input.createdById = some (auth.actorId.getD workerSub) := by
  constructor
  · rintro ⟨made, went⟩
    obtain ⟨plan, checked, isNew⟩ := new_of_throughQueue fresh went
    obtain ⟨records, jobs, events, same⟩ := throughQueue_of_new fresh checked isNew
    obtain ⟨input, authority, parsed, allowed, scope, assigned, rfl⟩ := queueCheck_eq_ok.mp checked
    rw [same] at went
    obtain ⟨plan, -, worked, -⟩ := ingestResults_eq_ok.mp ⟨made, went⟩
    obtain ⟨granted, rule, grading, later, gradable, creator, -⟩ :=
      (workerCheck_eq_ok parsed).mp worked
    rw [institution_of_allowed allowed later] at gradable
    exact ⟨input, authority, rule, grading, ⟨parsed, allowed, gradable⟩, assigned,
      ⟨isNew, granted, later⟩, creator⟩
  · rintro ⟨input, authority, rule, grading, shared, assigned, later, creator⟩
    obtain ⟨granted, allowed⟩ := later.allowed
    have checked : queueCheck rt env.queueEnv auth body s = .ok ⟨auth, input, authority⟩ :=
      queueCheck_eq_ok.mpr ⟨input, authority, shared.parsed, shared.allowed,
        shared.gradable.scope, assigned, rfl⟩
    obtain ⟨records, jobs, events, same⟩ := throughQueue_of_new fresh checked later.isNew
    have gradable := shared.gradable
    rw [← institution_of_allowed shared.allowed allowed] at gradable
    have worked := (@workerCheck_eq_ok rt env.workerEnv _ input (some body) s records jobs events _
      shared.parsed).mpr ⟨granted, rule, grading, allowed, gradable, creator, rfl⟩
    have fresh' : ∀ count, FreshFor env.workerEnv count (requeued s records jobs events) :=
      fun count => ⟨(fresh.worker count).batch, (fresh.worker count).records,
        (fresh.worker count).distinct⟩
    obtain ⟨made, committed⟩ := committed_of_checked worked fresh'
    rw [same]
    exact ingestResults_eq_ok.mpr ⟨_, made, worked, committed⟩

/-- What both paths ask names one input, one authority and one grading. -/
theorem Shared.unique {input input' : IngestResultBatchInput}
    {authority authority' : Authority.InstitutionAuthority} {rule rule' : ResolvedGradingRule}
    {grading grading' : Graded} (first : Shared rt env auth body s input authority rule grading)
    (second : Shared rt env auth body s input' authority' rule' grading') :
    input' = input ∧ authority' = authority ∧ rule' = rule ∧ grading' = grading := by
  obtain rfl : input' = input := Checked.valid.inj (second.parsed.symm.trans first.parsed)
  obtain rfl : authority' = authority := Except.ok.inj (second.allowed.symm.trans first.allowed)
  obtain rfl : rule' = rule :=
    Except.ok.inj (second.gradable.resolved.symm.trans first.gradable.resolved)
  exact ⟨rfl, rfl, rfl, Except.ok.inj (second.gradable.graded.symm.trans first.gradable.graded)⟩

/-! ### The rows of the two paths -/

/-- **What an ingestion creates**: the batch of its plan, and the records of its rows. -/
theorem made_spec {env : IngestEnv} {batch : ResultBatch} {t : Store}
    (went : ingestResults rt env auth body s = .ok (batch, t)) :
    ∃ plan, ingestCheck rt env auth body s = .ok plan ∧ batch = newBatch plan ∧
      plan.grading.rows.zipIdx.mapM (fun graded => newRecord plan graded.1 graded.2) =
        .ok (added s t) := by
  obtain ⟨plan, checked, committed⟩ := bind_eq_ok.mp went
  obtain ⟨new, mapped, rows⟩ := ingestCommit_records committed
  refine ⟨plan, checked, (ingestCommit_spec committed).1, ?_⟩
  rw [mapped, added, rows, List.drop_left]

/-- Two fallible maps whose results are alike under `k`, item by item, have results alike under
it. -/
theorem map_eq_of_mapM_alike {α β γ : Type} {f g : α → Except ServiceError β} {k : β → γ}
    (alike : ∀ a, (f a).map k = (g a).map k) {as : List α} {bs cs : List β}
    (first : as.mapM f = .ok bs) (second : as.mapM g = .ok cs) : bs.map k = cs.map k := by
  have reads : ∀ a b, f a = .ok b → some (k b) = ((g a).map k).toOption := by
    intro a b went
    rw [← alike a, went]
    rfl
  have reads' : ∀ a b, g a = .ok b → some (k b) = ((g a).map k).toOption := by
    intro a b went
    rw [went]
    rfl
  have same := (map_eq_of_mapM_ok reads first).trans (map_eq_of_mapM_ok reads' second).symm
  refine List.map_injective_iff.mpr (Option.some_injective γ) ?_
  rw [List.map_map, List.map_map]
  exact same

/-- A record, but for its ids and its time, is what its row and its plan make it. -/
theorem anonymous_newRecord (env env' : IngestEnv) (auth auth' : AuthTokenPayload)
    (input : IngestResultBatchInput) {authority authority' : Authority.InstitutionAuthority}
    (institution : authority'.institutionUuid = authority.institutionUuid)
    (rule : ResolvedGradingRule) (grading : Graded) (s : Store) (graded : GradedRow × ℕ) :
    (newRecord (planOf env' auth' input authority' rule grading s) graded.1 graded.2).map
        anonymousRecord =
      (newRecord (planOf env auth input authority rule grading s) graded.1 graded.2).map
        anonymousRecord := by
  unfold newRecord planOf
  dsimp only
  rw [institution]
  cases (enrolmentByStudentNumber s authority.institutionUuid graded.1.row.studentNumber).map
    (·.uuid) with
  | none => rfl
  | some id => rfl

/-- **The two paths create the same rows**, apart from ids and times, exactly when the direct one
names no institution user in its batch. -/
theorem same_iff {batch batch' : ResultBatch} {t t' : Store}
    (fresh : Fresh env s) (went : ingestResults rt env.directEnv auth body s = .ok (batch, t))
    (queued : throughQueue rt env auth body idempotencyKey s = .ok (batch', t')) :
    (anonymous batch' = anonymous batch ∧
      (added s t').map anonymousRecord = (added s t).map anonymousRecord) ↔
        auth.isApiKey = true ∨ auth.institutionUserId = none := by
  obtain ⟨plan, checked, rfl, records⟩ := made_spec went
  obtain ⟨input, authority, rule, grading, parsed, allowed, gradable, -, -, rfl⟩ :=
    ingestCheck_eq_ok.mp checked
  obtain ⟨queuePlan, queueChecked, isNew⟩ := new_of_throughQueue fresh queued
  obtain ⟨jobRecords, jobs, events, same⟩ := throughQueue_of_new fresh queueChecked isNew
  obtain ⟨input', authority', parsed', allowed', -, -, rfl⟩ := queueCheck_eq_ok.mp queueChecked
  obtain rfl : input = input' := Checked.valid.inj (parsed.symm.trans parsed')
  rw [same] at queued
  obtain ⟨plan', checked', rfl, records'⟩ := made_spec queued
  obtain ⟨granted, rule', grading', allowed'', gradable', creator, rfl⟩ :=
    (workerCheck_eq_ok parsed).mp checked'
  have institution := institution_of_allowed allowed allowed''
  rw [institution] at gradable'
  have shared : Shared rt env auth body s input authority rule grading :=
    ⟨parsed, allowed, gradable⟩
  obtain ⟨-, -, rfl, rfl⟩ := shared.unique ⟨parsed, allowed, gradable'⟩
  have sameRecords : (added s t').map anonymousRecord = (added s t).map anonymousRecord :=
    map_eq_of_mapM_alike (fun graded => anonymous_newRecord env.directEnv env.workerEnv auth _ input
      institution rule' grading' s graded) records' records
  have createdBy : (none : Option Uuid) =
      (if auth.isApiKey then none else auth.institutionUserId) ↔
        auth.isApiKey = true ∨ auth.institutionUserId = none := by
    cases auth.isApiKey with
    | true => simp
    | false => simp [eq_comm]
  rw [← createdBy]
  constructor
  · rintro ⟨sameBatch, -⟩
    exact congrArg (·.createdByInstitutionUserId) sameBatch
  · intro sameUser
    refine ⟨?_, sameRecords⟩
    unfold anonymous newBatch planOf
    dsimp only
    rw [← sameUser, institution, creator]
    rfl

/-- **When the two paths agree.** An API key names the worker as the creator, and its job is new and
still allowed. A human actor who names itself passes the scope check with the first row as its
target exactly when it passes it without one and the job is new and still allowed; and it has no
institution user id if so. -/
def AgreeWhen (rt : Runtime) (env : PathsEnv) (auth : AuthTokenPayload) (body : Json)
    (idempotencyKey : Option String) (s : Store) : Prop :=
  ∀ input authority rule grading, Shared rt env auth body s input authority rule grading →
    (auth.isApiKey = true → input.createdById = some workerSub ∧
      Later rt env auth input authority idempotencyKey s) ∧
    (auth.isApiKey = false → input.createdById = some auth.sub →
      (Scoped rt auth authority.institutionUuid input (uploadTarget input) s ↔
        Scoped rt auth authority.institutionUuid input [] s ∧
          Later rt env auth input authority idempotencyKey s) ∧
      (Scoped rt auth authority.institutionUuid input (uploadTarget input) s →
        auth.institutionUserId = none))

theorem actorId_of_human (human : auth.isApiKey = false) : auth.actorId = some auth.sub := by
  unfold AuthTokenPayload.actorId
  rw [human]
  rfl

theorem actorId_of_apiKey (apiKey : auth.isApiKey = true) : auth.actorId = none := by
  unfold AuthTokenPayload.actorId
  rw [apiKey]
  rfl

/-- Under what both paths ask, they agree on whether a batch is created only if the condition holds
of it. -/
theorem alike_iff (fresh : Fresh env s) {input : IngestResultBatchInput}
    {authority : Authority.InstitutionAuthority} {rule : ResolvedGradingRule} {grading : Graded}
    (shared : Shared rt env auth body s input authority rule grading) :
    ((∃ made, throughQueue rt env auth body idempotencyKey s = .ok made) ↔
      Scoped rt auth authority.institutionUuid input [] s ∧
        Later rt env auth input authority idempotencyKey s ∧
        input.createdById = some (auth.actorId.getD workerSub)) ∧
    ((∃ made, ingestResults rt env.directEnv auth body s = .ok made) ↔
      Scoped rt auth authority.institutionUuid input (uploadTarget input) s ∧
        (auth.isApiKey = true ∨ input.createdById = some auth.sub)) := by
  refine ⟨⟨fun went => ?_, fun meets => ?_⟩, ⟨fun went => ?_, fun meets => ?_⟩⟩
  · obtain ⟨input', authority', rule', grading', shared', meets⟩ := (queued_iff fresh).mp went
    obtain ⟨rfl, rfl, -, -⟩ := shared.unique shared'
    exact meets
  · exact (queued_iff fresh).mpr ⟨input, authority, rule, grading, shared, meets⟩
  · obtain ⟨input', authority', rule', grading', shared', meets⟩ := (directly_iff fresh).mp went
    obtain ⟨rfl, rfl, -, -⟩ := shared.unique shared'
    exact meets
  · exact (directly_iff fresh).mpr ⟨input, authority, rule, grading, shared, meets⟩

/-- **The two paths agree exactly under that condition**, with new ids and a job that is due when it
is claimed. -/
theorem validate_agrees_iff (fresh : Fresh env s) :
    Agree rt env auth body idempotencyKey s ↔ AgreeWhen rt env auth body idempotencyKey s := by
  constructor
  · intro agree input authority rule grading shared
    obtain ⟨queued, directly⟩ := @alike_iff _ _ _ _ idempotencyKey _ fresh _ _ _ _ shared
    refine ⟨fun apiKey => ?_, fun human names => ⟨⟨fun assigned => ?_, fun meets => ?_⟩, ?_⟩⟩
    · have assigned : Scoped rt auth authority.institutionUuid input (uploadTarget input) s :=
        scoped_of_unlimited (.inr apiKey) (operates_of_allowed shared.allowed)
      obtain ⟨-, later, creator⟩ :=
        queued.mp (agree.alike.mpr (directly.mpr ⟨assigned, .inl apiKey⟩))
      rw [actorId_of_apiKey apiKey] at creator
      exact ⟨creator, later⟩
    · obtain ⟨unaimed, later, -⟩ :=
        queued.mp (agree.alike.mpr (directly.mpr ⟨assigned, .inr names⟩))
      exact ⟨unaimed, later⟩
    · refine (directly.mp (agree.alike.mp (queued.mpr ⟨meets.1, meets.2, ?_⟩))).1
      rw [actorId_of_human human]
      exact names
    · intro assigned
      have made := directly.mpr ⟨assigned, .inr names⟩
      obtain ⟨⟨batch', t'⟩, through⟩ := agree.alike.mpr made
      obtain ⟨⟨batch, t⟩, went⟩ := made
      refine ((same_iff fresh went through).mp (agree.same _ _ _ _ went through)).resolve_left ?_
      rw [human]
      simp
  · intro agrees
    refine ⟨⟨fun through => ?_, fun went => ?_⟩, fun batch t batch' t' went through => ?_⟩
    · obtain ⟨input, authority, rule, grading, shared, unaimed, later, creator⟩ :=
        (queued_iff fresh).mp through
      refine (directly_iff fresh).mpr ⟨input, authority, rule, grading, shared, ?_⟩
      cases is : auth.isApiKey with
      | true =>
        exact ⟨scoped_of_unlimited (.inr is) (operates_of_allowed shared.allowed), .inl rfl⟩
      | false =>
        rw [actorId_of_human is] at creator
        obtain ⟨scopes, -⟩ := (agrees input authority rule grading shared).2 is creator
        exact ⟨scopes.mpr ⟨unaimed, later⟩, .inr creator⟩
    · obtain ⟨input, authority, rule, grading, shared, assigned, creator⟩ :=
        (directly_iff fresh).mp went
      refine (queued_iff fresh).mpr ⟨input, authority, rule, grading, shared, ?_⟩
      cases is : auth.isApiKey with
      | true =>
        obtain ⟨names, later⟩ := (agrees input authority rule grading shared).1 is
        rw [actorId_of_apiKey is]
        exact ⟨scoped_of_unlimited (.inr is) (operates_of_allowed shared.allowed), later, names⟩
      | false =>
        have names := creator.resolve_left (by rw [is]; simp)
        obtain ⟨scopes, -⟩ := (agrees input authority rule grading shared).2 is names
        rw [actorId_of_human is]
        exact ⟨(scopes.mp assigned).1, (scopes.mp assigned).2, names⟩
    · refine (same_iff fresh went through).mpr ?_
      obtain ⟨input, authority, rule, grading, shared, assigned, creator⟩ :=
        (directly_iff fresh).mp ⟨_, went⟩
      cases is : auth.isApiKey with
      | true => exact .inl rfl
      | false =>
        have names := creator.resolve_left (by rw [is]; simp)
        exact .inr (((agrees input authority rule grading shared).2 is names).2 assigned)

end Conditions

/-! ### A sheet of an API key -/

theorem exists_ok {ε α : Type} {x : Except ε α} (passes : x.toOption.isSome = true) :
    ∃ a, x = .ok a := by
  cases x with
  | error e => exact absurd passes (by simp [Except.toOption])
  | ok a => exact ⟨a, rfl⟩

/-- An API key of the school. -/
def uploadKey : AuthTokenPayload where
  sub := "b0000000-0000-4000-8000-000000000001"
  email := "key@acadid.test"
  fullName := "Upload key"
  role := .readOnly
  kind := some .apiKey
  learnerId := none
  institutionId := some "ACD-0001"
  institutionUuid := some "10000000-0000-4000-8000-000000000001"
  institutionUserId := none
  assignedScopes := none
  apiKeyId := some "b0000000-0000-4000-8000-000000000001"
  clientId := some "client-1"
  productCode := some "SCHOOL"

/-- A sheet of one result, which names no creator. -/
def keySheet : Json :=
  .obj [("institutionId", .str "ACD-0001"), ("title", .str "First term"),
    ("rows", .arr [.obj [("studentNumber", .str "S-1"), ("periodType", .str "TERM"),
      ("periodLabel", .str "First term"), ("subjectCode", .str "MTH"),
      ("subjectName", .str "Mathematics"), ("totalScore", .num 75)]])]

def keyPaths : PathsEnv where
  pick := 0
  askedAt := 1
  direct := ⟨2, "60000000-0000-4000-8000-000000000001", Text.padStart 12⟩
  job := ⟨1, "80000000-0000-4000-8000-000000000001", "80000000-0000-4000-8000-000000000002",
    "80000000-0000-4000-8000-000000000003"⟩
  claimedAt := 3
  workedAt := 3
  worker := ⟨4, "60000000-0000-4000-8000-000000000002", Text.padStart 12⟩

/-- The ids of the two paths are new in the school. -/
theorem fresh_keyPaths : Fresh keyPaths BatchHistory.school where
  direct _ := ⟨by decide, fun _ _ r inside => absurd (show r ∈ [] from inside) List.not_mem_nil,
    fun _ _ _ _ same => Text.padStart_injective 12 same⟩
  worker _ := ⟨by decide, fun _ _ r inside => absurd (show r ∈ [] from inside) List.not_mem_nil,
    fun _ _ _ _ same => Text.padStart_injective 12 same⟩
  job := by decide
  event := by decide
  record := by decide
  due := by decide

/-- The two paths of the sheet. -/
theorem validate_agrees_iff_keySheet :
    Agree .plain keyPaths uploadKey keySheet none BatchHistory.school ↔
      AgreeWhen .plain keyPaths uploadKey keySheet none BatchHistory.school :=
  validate_agrees_iff fresh_keyPaths

theorem keySheet_accepted : (ingestResults .plain keyPaths.directEnv uploadKey keySheet
    BatchHistory.school).toOption.isSome = true := by decide

/-- The creator that a body is parsed to name. -/
def creatorOf : Checked IngestResultBatchInput → Option Uuid
  | .valid input => input.createdById
  | .issues _ => none

/-- The sheet is not made a batch by the queue: it does not name the worker. -/
theorem keySheet_refused :
    ¬ ∃ made, throughQueue .plain keyPaths uploadKey keySheet none BatchHistory.school =
      .ok made := by
  intro through
  obtain ⟨input, authority, rule, grading, shared, -, -, names⟩ :=
    (queued_iff fresh_keyPaths).mp through
  have nobody : creatorOf (ingestResultBatchSchema .plain (some keySheet)) = none := by
    decide
  rw [shared.parsed] at nobody
  exact absurd (nobody.symm.trans names) (by simp)

/-- **The two paths can disagree**: the sheet of an API key is ingested at once, and refused by the
worker, which acts for nobody that the sheet could name. -/
theorem agree_fails :
    ¬ ∀ (rt : Runtime) (env : PathsEnv) (auth : AuthTokenPayload) (body : Json)
        (idempotencyKey : Option String) (s : Store), Fresh env s →
      Agree rt env auth body idempotencyKey s := by
  intro all
  have agree := all .plain keyPaths uploadKey keySheet none BatchHistory.school fresh_keyPaths
  exact keySheet_refused (agree.alike.mpr (exists_ok keySheet_accepted))

end ResultValidation

end AcadID