/-
**The workflow of a result batch: transition, publication, rejection.**

Each operation is a check, a transaction and a log entry; `batchMethods` is the four operations on
result batches, the ingestion among them, as one method.

* `transitionCommit` and `rejectCommit` write a status without looking at the one they find;
  `publishCheck` alone demands `APPROVED`.
* `publishCommit_spec` — **what a publication writes**: the batch and its records published, one
  credential for each record the check read, and standings; nothing else.
* `publishCheck_spec` — **what the check of a publication has seen**: the batch approved, and its
  records, in order.
-/

import AcadID.Gateway.Ingestion
import AcadID.Lib.Method

namespace AcadID

open Lib

/-- The statuses that `transitionBatch` moves a batch to. -/
inductive BatchTransition where
  | submitted
  | reviewed
  | approved
  deriving DecidableEq, Repr

def BatchTransition.status : BatchTransition → AcademicRecordStatus
  | .submitted => .submitted
  | .reviewed => .reviewed
  | .approved => .approved

namespace Governance

open Ingestion

/-! ### Transition and rejection -/

/-- The check that `transitionBatch` and `rejectBatch` share. -/
def batchOperatorCheck (auth : AuthTokenPayload) (batchId : Uuid) (s : Store) :
    Except ServiceError Unit := do
  let existingBatch ← orThrow (s.resultBatches.find? batchId)
    (.badRequest "Result batch not found.")
  Authority.assertActorCanOperateInstitution auth existingBatch.institutionId s

def transitionData (status : BatchTransition) (timestamp : Time) (batch : ResultBatch) :
    ResultBatch :=
  match status with
  | .submitted => { batch with status := .submitted, submittedAt := some timestamp }
  | .reviewed => { batch with status := .reviewed, reviewedAt := some timestamp }
  | .approved => { batch with status := .approved, approvedAt := some timestamp }

theorem transitionData_uuid (status : BatchTransition) (timestamp : Time) (batch : ResultBatch) :
    (transitionData status timestamp batch).uuid = batch.uuid := by
  cases status <;> rfl

def transitionCommit (now : Time) (batchId : Uuid) (status : BatchTransition) (s : Store) :
    Except ServiceError (ResultBatch × Store) := do
  let (batch, resultBatches) ← updateRow s.resultBatches batchId (transitionData status now)
    (transitionData_uuid status now)
  return (batch, { s with resultBatches := resultBatches })

def rejectedBatch (batch : ResultBatch) : ResultBatch :=
  { batch with status := .draft, rejectionCount := batch.rejectionCount + 1 }

def rejectCommit (batchId : Uuid) (s : Store) : Except ServiceError (ResultBatch × Store) := do
  let (batch, resultBatches) ← updateRow s.resultBatches batchId rejectedBatch fun _ => rfl
  return (batch, { s with resultBatches := resultBatches })

/-- The log entry of an operation on a batch. -/
def batchAudit (auth : AuthTokenPayload) (action : String) (batchId institutionId : Uuid)
    (reason : Option String) : AuditEvent where
  actorType := inferActorType none auth.actorId
  actorId := auth.actorId
  actorRole := auth.actorRole
  action := action
  targetType := "ResultBatch"
  targetId := some batchId
  institutionId := some institutionId
  outcome := "SUCCESS"
  reason := reason
  metadata := Json.fields [("apiKeyId", auth.apiKeyId.map .str)]

/-- `` `result_batch.${status.toLowerCase()}` `` -/
def transitionAction : BatchTransition → String
  | .submitted => "result_batch.submitted"
  | .reviewed => "result_batch.reviewed"
  | .approved => "result_batch.approved"

/-! ### Publication -/

/-- What the runtime and the database give a publication. -/
structure PublishEnv where
  pick : ℕ
  checkedAt : Time
  committedAt : Time
  credentialRef : ℕ → String
  credentialUuid : ℕ → Uuid

structure SignedCredential where
  credentialRef : String
  record : AcademicRecord
  learnerId : Uuid
  vcPayload : Json
  signature : String

/-- What the check of a publication has read and signed. -/
structure PublishPlan where
  env : PublishEnv
  auth : AuthTokenPayload
  batch : ResultBatch
  records : List (AcademicRecord × Enrolment)
  signedCredentials : List SignedCredential

/-- The records of a batch. -/
def academicRecords (s : Store) (batchId : Uuid) : List AcademicRecord :=
  s.academicRecords.rows.filter fun record => record.resultBatchId == some batchId

def recordPayload (env : PublishEnv) (institution : Institution) (record : AcademicRecord)
    (enrolment : Enrolment) (credentialRef : String) : Json :=
  .obj
    [("@context", .arr [.str "https://www.w3.org/ns/credentials/v2"]),
      ("id", .str ("urn:uuid:" ++ credentialRef)),
      ("type", .arr [.str "VerifiableCredential", .str "AcadIDAcademicRecordCredential"]),
      ("issuer", .str institution.institutionId),
      ("validFrom", .str (Text.toISOString env.checkedAt)),
      ("credentialSubject", Json.fields
        [("learnerId", some (.str enrolment.learnerId)),
          ("academicRecordId", some (.str record.uuid)),
          ("periodLabel", some (.str record.periodLabel)),
          ("subjectCode", some (.str record.subjectCode)),
          ("subjectName", some (.str record.subjectName)),
          ("totalScore", some (.num record.totalScore)),
          ("grade", some (.str record.grade)),
          ("gradePoint", record.gradePoint.map .num),
          ("creditUnits", record.creditUnits.map .num),
          ("qualityPoints", record.qualityPoints.map .num),
          ("gradingRuleSetId", some (Json.ofOption record.gradingRuleSetId))])]

def signRecord (rt : Runtime) (env : PublishEnv) (institution : Institution)
    (read : (AcademicRecord × Enrolment) × ℕ) : SignedCredential :=
  let credentialRef := env.credentialRef read.2
  let signed := sign rt env.checkedAt
    (recordPayload env institution read.1.1 read.1.2 credentialRef)
  { credentialRef := credentialRef
    record := read.1.1
    learnerId := read.1.2.learnerId
    vcPayload := signed.stored
    signature := signed.signature }

/-- A record with its enrolment, which the schema requires. -/
def withEnrolment (s : Store) (record : AcademicRecord) :
    Except ServiceError (AcademicRecord × Enrolment) := do
  let enrolment ← orThrow (s.enrolments.find? record.enrolmentId) .database
  return (record, enrolment)

def publishCheck (rt : Runtime) (env : PublishEnv) (auth : AuthTokenPayload) (batchId : Uuid)
    (s : Store) : Except ServiceError PublishPlan := do
  let batch ← orThrow (s.resultBatches.find? batchId) (.badRequest "Result batch not found.")
  let institution ← orThrow (s.institutions.find? batch.institutionId) .database
  let records ← (academicRecords s batchId).mapM (withEnrolment s)
  let _ ← Authority.assertInstitutionCan batch.institutionId "publish_credentials" auth
    env.checkedAt env.pick s
  require (batch.status == .approved) (.badRequest "Only approved batches can be published.")
  return {
    env := env
    auth := auth
    batch := batch
    records := records
    signedCredentials := records.zipIdx.map (signRecord rt env institution) }

def publishedBatch (publishedAt : Time) (batch : ResultBatch) : ResultBatch :=
  { batch with status := .published, publishedAt := some publishedAt }

def publishedRecord (publishedAt : Time) (record : AcademicRecord) : AcademicRecord :=
  { record with status := .published, publishedAt := some publishedAt }

/-- The credential of a signed record. -/
def recordCredential (plan : PublishPlan) (signed : SignedCredential × ℕ) : Credential where
  uuid := plan.env.credentialUuid signed.2
  credentialRef := signed.1.credentialRef
  learnerId := signed.1.learnerId
  institutionId := plan.batch.institutionId
  academicRecordId := some signed.1.record.uuid
  recordRequestId := none
  type := .resultSlip
  scope := .obj [("academicRecordId", .str signed.1.record.uuid)]
  vcPayload := signed.1.vcPayload
  signature := some signed.1.signature
  status := .active
  issuedAt := plan.env.committedAt
  revokedAt := none
  revocationReason := none

/-- Credentials created one after the other. -/
def createCredentials (s : Store) (credentials : List Credential) : Except ServiceError Store :=
  credentials.foldlM createCredential s

def publishCommit (plan : PublishPlan) (s : Store) : Except ServiceError (ResultBatch × Store) := do
  let publishedAt := plan.env.committedAt
  let (updatedBatch, resultBatches) ← updateRow s.resultBatches plan.batch.uuid
    (publishedBatch publishedAt) fun _ => rfl
  let academicRecords := s.academicRecords.updateMany
    (fun record => record.resultBatchId == some plan.batch.uuid) (publishedRecord publishedAt)
    fun _ => rfl
  let s ← createCredentials
    { s with resultBatches := resultBatches, academicRecords := academicRecords }
    (plan.signedCredentials.zipIdx.map (recordCredential plan))
  let enrolmentIds := (plan.records.map fun read => read.1.enrolmentId).eraseDups
  return (updatedBatch, Standing.recomputeAll publishedAt s enrolmentIds)

/-! ### The four operations as one method -/

/-- A call of an operation on result batches. -/
inductive BatchCall where
  | ingestResults (env : IngestEnv) (auth : AuthTokenPayload) (body : Json)
  | transitionBatch (now : Time) (auth : AuthTokenPayload) (batchId : Uuid)
    (status : BatchTransition)
  | publishBatch (env : PublishEnv) (auth : AuthTokenPayload) (batchId : Uuid)
  | rejectBatch (auth : AuthTokenPayload) (batchId : Uuid) (reason : String)

/-- A call whose checks have passed. -/
inductive BatchPlan where
  | ingest (plan : IngestPlan)
  | transition (now : Time) (auth : AuthTokenPayload) (batchId : Uuid) (status : BatchTransition)
  | publish (plan : PublishPlan)
  | reject (auth : AuthTokenPayload) (batchId : Uuid) (reason : String)

/-- What an operation returns: the batch it wrote, or the answer to an upload. -/
inductive BatchResponse where
  | batch (batch : ResultBatch)
  | ingested (batch : ResultBatch) (response : Json)

def BatchResponse.row : BatchResponse → ResultBatch
  | .batch row => row
  | .ingested row _ => row

def batchCheck (rt : Runtime) (call : BatchCall) (s : Store) : Except ServiceError BatchPlan :=
  match call with
  | .ingestResults env auth body => do
    let plan ← ingestCheck rt env auth body s
    return .ingest plan
  | .transitionBatch now auth batchId status => do
    batchOperatorCheck auth batchId s
    return .transition now auth batchId status
  | .publishBatch env auth batchId => do
    let plan ← publishCheck rt env auth batchId s
    return .publish plan
  | .rejectBatch auth batchId reason => do
    batchOperatorCheck auth batchId s
    return .reject auth batchId reason

def batchCommit (plan : BatchPlan) (s : Store) : Except ServiceError (BatchResponse × Store) :=
  match plan with
  | .ingest plan => do
    let (batch, s) ← ingestCommit plan s
    return (.ingested batch (ingestResponse plan batch), s)
  | .transition now _ batchId status => do
    let (batch, s) ← transitionCommit now batchId status s
    return (.batch batch, s)
  | .publish plan => do
    let (batch, s) ← publishCommit plan s
    return (.batch batch, s)
  | .reject _ batchId _ => do
    let (batch, s) ← rejectCommit batchId s
    return (.batch batch, s)

def batchLog (plan : BatchPlan) (res : BatchResponse) (s : Store) : Store :=
  match plan with
  | .ingest plan => s.audit (ingestAudit plan res.row)
  | .transition _ auth batchId status =>
    s.audit (batchAudit auth (transitionAction status) batchId res.row.institutionId none)
  | .publish plan =>
    s.audit (batchAudit plan.auth "result_batch.publish" plan.batch.uuid plan.batch.institutionId
      none)
  | .reject auth batchId reason =>
    s.audit (batchAudit auth "result_batch.reject" batchId res.row.institutionId (some reason))

def batchMethods (rt : Runtime) :
    Method Store ServiceError BatchCall BatchPlan BatchResponse where
  check := batchCheck rt
  commit := batchCommit
  log := batchLog

/-! ### What the transactions write -/

theorem transitionCommit_spec {now : Time} {batchId : Uuid} {status : BatchTransition}
    {s t : Store} {batch : ResultBatch}
    (committed : transitionCommit now batchId status s = .ok (batch, t)) :
    ∃ old, s.resultBatches.find? batchId = some old ∧
      t = { s with
        resultBatches := s.resultBatches.update batchId (transitionData status now)
          (transitionData_uuid status now) } := by
  unfold transitionCommit at committed
  obtain ⟨⟨updated, batches⟩, written, same⟩ := bind_eq_ok.mp committed
  obtain ⟨old, found, -, rfl⟩ := updateRow_eq_ok.mp written
  rw [pure_eq_ok] at same
  exact ⟨old, found, (Prod.mk.inj same).2.symm⟩

theorem rejectCommit_spec {batchId : Uuid} {s t : Store} {batch : ResultBatch}
    (committed : rejectCommit batchId s = .ok (batch, t)) :
    ∃ old, s.resultBatches.find? batchId = some old ∧
      t = { s with
        resultBatches := s.resultBatches.update batchId rejectedBatch fun _ => rfl } := by
  unfold rejectCommit at committed
  obtain ⟨⟨updated, batches⟩, written, same⟩ := bind_eq_ok.mp committed
  obtain ⟨old, found, -, rfl⟩ := updateRow_eq_ok.mp written
  rw [pure_eq_ok] at same
  exact ⟨old, found, (Prod.mk.inj same).2.symm⟩

theorem createCredentials_spec {s t : Store} {credentials : List Credential}
    (created : createCredentials s credentials = .ok t) :
    ∃ table, table.rows = s.credentials.rows ++ credentials ∧
      t = { s with credentials := table } := by
  unfold createCredentials at created
  induction credentials generalizing s with
  | nil =>
    rw [List.foldlM_nil, pure_eq_ok] at created
    exact ⟨s.credentials, (List.append_nil _).symm, created.symm⟩
  | cons c rest ih =>
    rw [List.foldlM_cons, bind_eq_ok] at created
    obtain ⟨s', first, others⟩ := created
    obtain ⟨one, rows, -, rfl⟩ := createCredential_spec first
    obtain ⟨table, all, rfl⟩ := ih others
    refine ⟨table, ?_, rfl⟩
    rw [all, rows, List.append_assoc]
    rfl

/-- **What a publication writes**: the batch and its records published, the credentials of the
records that its check read, and standings. -/
theorem publishCommit_spec {plan : PublishPlan} {s t : Store} {batch : ResultBatch}
    (committed : publishCommit plan s = .ok (batch, t)) :
    ∃ old credentials standings, s.resultBatches.find? plan.batch.uuid = some old ∧
      credentials.rows =
        s.credentials.rows ++ plan.signedCredentials.zipIdx.map (recordCredential plan) ∧
      t = { s with
        resultBatches := s.resultBatches.update plan.batch.uuid
          (publishedBatch plan.env.committedAt) fun _ => rfl
        academicRecords := s.academicRecords.updateMany
          (fun record => record.resultBatchId == some plan.batch.uuid)
          (publishedRecord plan.env.committedAt) fun _ => rfl
        credentials := credentials
        academicStandings := standings } := by
  unfold publishCommit at committed
  obtain ⟨⟨updated, batches⟩, written, rest⟩ := bind_eq_ok.mp committed
  obtain ⟨old, found, -, rfl⟩ := updateRow_eq_ok.mp written
  obtain ⟨s', created, same⟩ := bind_eq_ok.mp rest
  obtain ⟨credentials, rows, rfl⟩ := createCredentials_spec created
  rw [pure_eq_ok] at same
  obtain ⟨standings, recomputed⟩ := Standing.recomputeAll_frame plan.env.committedAt
    { s with
      resultBatches := s.resultBatches.update plan.batch.uuid
        (publishedBatch plan.env.committedAt) fun _ => rfl
      academicRecords := s.academicRecords.updateMany
        (fun record => record.resultBatchId == some plan.batch.uuid)
        (publishedRecord plan.env.committedAt) fun _ => rfl
      credentials := credentials }
    ((plan.records.map fun read => read.1.enrolmentId).eraseDups)
  refine ⟨old, credentials, standings, found, rows, ?_⟩
  rw [← (Prod.mk.inj same).2]
  exact recomputed

/-- **What the check of a publication has seen**: the batch approved, and a signed credential for
each of its records, in order. -/
theorem publishCheck_spec {rt : Runtime} {env : PublishEnv} {auth : AuthTokenPayload}
    {batchId : Uuid} {s : Store} {plan : PublishPlan}
    (checked : publishCheck rt env auth batchId s = .ok plan) :
    s.resultBatches.find? batchId = some plan.batch ∧ plan.batch.uuid = batchId ∧
      plan.batch.status = .approved ∧
      plan.signedCredentials.map (·.record) = academicRecords s batchId := by
  unfold publishCheck at checked
  obtain ⟨batch, found, rest⟩ := bind_eq_ok.mp checked
  obtain ⟨institution, -, rest⟩ := bind_eq_ok.mp rest
  obtain ⟨records, read, rest⟩ := bind_eq_ok.mp rest
  obtain ⟨-, -, rest⟩ := bind_eq_ok.mp rest
  obtain ⟨_, approved, same⟩ := bind_eq_ok.mp rest
  rw [pure_eq_ok] at same
  rw [orThrow_eq_ok] at found
  rw [require_eq_ok] at approved
  have recordsRead : records.map Prod.fst = academicRecords s batchId := by
    refine map_of_mapM_ok (fun record pair paired => ?_) read
    obtain ⟨enrolment, -, same⟩ := bind_eq_ok.mp paired
    rw [pure_eq_ok] at same
    rw [← same]
  rw [← same]
  refine ⟨found, Table.find?_key found, by simpa using approved, ?_⟩
  show (records.zipIdx.map (signRecord rt env institution)).map (·.record) = _
  rw [← recordsRead, List.map_map]
  calc records.zipIdx.map ((·.record) ∘ signRecord rt env institution)
      = (records.zipIdx.map Prod.fst).map Prod.fst := by
        rw [List.map_map]
        rfl
    _ = records.map Prod.fst := by rw [List.zipIdx_map_fst]

end Governance

end AcadID
