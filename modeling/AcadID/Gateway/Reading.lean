/-
**What an actor can list and read: the queries of the gateway and of the job queue.**

* The views are what a query joins to a row: `RecordRequestView`, `TransferRequestView`,
  `BatchView` and `JobView`.
* `listRecordRequests`, `listTransferRequests`, `listBatches`, `readBatch`,
  `listAcademicSessions`, `listAcademicStructures`, `listGradingRuleSets` and `readJob` are the
  queries; `query` runs any of them.
* Rows stand in the order of their creation, so that the newest come last.
-/

import AcadID.Gateway.Institutions
import AcadID.Gateway.RecordRequests

namespace AcadID.Reading

open Lib Authority Institutions

/-- What the database gives a query. -/
structure ReadEnv where
  pick : ℕ
  /-- The order in which the database puts texts. -/
  collate : String → String → Bool

/-! ### Views -/

structure UserSummary where
  uuid : Uuid
  fullName : String
  email : String

structure MemberSummary where
  uuid : Uuid
  role : UserRole
  user : Option UserSummary

structure CredentialSummary where
  uuid : Uuid
  credentialRef : String
  type : CredentialType
  status : CredentialStatus
  issuedAt : Time

structure EnrolmentSummary where
  uuid : Uuid
  studentNumber : String
  level : String
  programme : String
  status : EnrolmentStatus

structure SessionSummary where
  uuid : Uuid
  sessionLabel : String
  periodType : PeriodType
  periodLabel : String
  status : AcademicSessionStatus

structure StructureSummary where
  uuid : Uuid
  type : AcademicStructureType
  name : String
  code : Option String

structure RolloverSummary where
  uuid : Uuid
  decision : RolloverDecision
  status : RolloverStatus
  approvedAt : Option Time
  disputeId : Option Uuid
  disputedAt : Option Time

structure DisputeSummary where
  uuid : Uuid
  title : String
  status : DisputeStatus
  priority : DisputePriority
  resolvedAt : Option Time

/-- A row and what `recordRequestInclude` joins to it. -/
structure RecordRequestView where
  request : RecordRequest
  learner : Option Learner
  institution : Option Institution
  fulfilledCredential : Option CredentialSummary
  assignedTo : Option User

/-- A row and what `transferRequestInclude` joins to it. -/
structure TransferRequestView where
  transfer : TransferRequest
  learner : Option Learner
  fromInstitution : Option Institution
  toInstitution : Option Institution
  fromEnrolment : Option EnrolmentSummary
  fromSession : Option SessionSummary
  fromStructure : Option StructureSummary
  requestedBy : Option MemberSummary
  reviewedBy : Option MemberSummary
  rolloverRecord : Option RolloverSummary
  dispute : Option DisputeSummary

structure BatchView where
  batch : ResultBatch
  academicRecords : List AcademicRecord

/-- A job with its latest events and notifications, each by its id and type. -/
structure JobView where
  job : BackgroundJob
  events : List (Uuid × String)
  notifications : List (Uuid × String)

def userSummary (s : Store) (id : Uuid) : Option UserSummary :=
  (s.users.find? id).map fun user => ⟨user.uuid, user.fullName, user.email⟩

def memberSummary (s : Store) (id : Uuid) : Option MemberSummary :=
  (s.institutionUsers.find? id).map fun member =>
    ⟨member.uuid, member.role, userSummary s member.userId⟩

def viewRecordRequest (s : Store) (request : RecordRequest) : RecordRequestView where
  request := request
  learner := request.learnerId.bind s.learners.find?
  institution := request.institutionId.bind s.institutions.find?
  fulfilledCredential := (request.fulfilledCredentialId.bind s.credentials.find?).map fun row =>
    ⟨row.uuid, row.credentialRef, row.type, row.status, row.issuedAt⟩
  assignedTo := request.assignedToId.bind s.users.find?

def viewTransferRequest (s : Store) (transfer : TransferRequest) : TransferRequestView where
  transfer := transfer
  learner := s.learners.find? transfer.learnerId
  fromInstitution := s.institutions.find? transfer.fromInstitutionId
  toInstitution := transfer.toInstitutionId.bind s.institutions.find?
  fromEnrolment := (transfer.fromEnrolmentId.bind s.enrolments.find?).map fun row =>
    ⟨row.uuid, row.studentNumber, row.level, row.programme, row.status⟩
  fromSession := (transfer.fromSessionId.bind s.academicSessions.find?).map fun row =>
    ⟨row.uuid, row.sessionLabel, row.periodType, row.periodLabel, row.status⟩
  fromStructure := (transfer.fromStructureId.bind s.academicStructures.find?).map fun row =>
    ⟨row.uuid, row.type, row.name, row.code⟩
  requestedBy := transfer.requestedById.bind (memberSummary s)
  reviewedBy := transfer.reviewedById.bind (memberSummary s)
  rolloverRecord := (transfer.rolloverRecordId.bind s.rolloverRecords.find?).map fun row =>
    ⟨row.uuid, row.decision, row.status, row.approvedAt, row.disputeId, row.disputedAt⟩
  dispute := (transfer.disputeId.bind s.disputes.find?).map fun row =>
    ⟨row.uuid, row.title, row.status, row.priority, row.resolvedAt⟩

def viewBatch (s : Store) (batch : ResultBatch) : BatchView where
  batch := batch
  academicRecords := s.academicRecords.rows.filter fun record =>
    record.resultBatchId == some batch.uuid

def viewJob (s : Store) (job : BackgroundJob) : JobView where
  job := job
  events := ((s.domainEvents.rows.filter fun event => event.jobId == some job.uuid).reverse.take
    10).map fun event => (event.uuid, event.type)
  notifications := ((s.notifications.rows.filter fun sent =>
    sent.jobId == some job.uuid).reverse.take 10).map fun sent => (sent.uuid, sent.type)

/-! ### Filters -/

/-- A query parameter that is there and not empty. -/
def given (parameter : Option String) : Option String :=
  parameter.filter (· ≠ "")

/-- The enumeration value a parameter names; the database refuses any other text. -/
def enumFilter {α : Type} (values : List (String × α)) (parameter : Option String) :
    Except ServiceError (Option α) :=
  match given parameter with
  | none => .ok none
  | some text =>
    match values.find? fun named => named.1 = text with
    | some named => .ok (some named.2)
    | none => .error .database

/-- `{ institutionId: { in: institutionIds } }`, or no condition. -/
def inScope (scope : Option (List Uuid)) (institutionId : Option Uuid) : Bool :=
  match scope with
  | none => true
  | some ids => institutionId.any ids.contains

def transferRequestStatuses : List (String × TransferRequestStatus) :=
  [.requested, .inReview, .approved, .rejected, .cancelled, .completed, .disputed].map
    fun status => (status.name, status)

def academicStructureTypes : List (String × AcademicStructureType) :=
  [.level, .classRoom, .arm, .stream, .subject, .faculty, .department, .programme, .course].map
    fun type => (type.name, type)

/-! ### The queries -/

def listRecordRequests (auth : AuthTokenPayload) (status : Option String) (s : Store) :
    Except ServiceError (List RecordRequestView) := do
  let scope := institutionIdsForActor auth s
  let status ← enumFilter RecordRequests.recordRequestStatuses status
  let rows := s.recordRequests.rows.filter fun row =>
    inScope scope row.institutionId && status.all (row.status == ·)
  return (rows.reverse.take 200).map (viewRecordRequest s)

structure TransferFilters where
  status : Option String
  direction : Option String
  institutionId : Option String

/-- The condition on the two institutions of a transfer. -/
def inDirection (direction : Option String) (actorInstitutionId : Option Uuid)
    (row : TransferRequest) : Bool :=
  match actorInstitutionId with
  | none => true
  | some id =>
    if direction.all (· = "ALL") then
      row.fromInstitutionId == id || row.toInstitutionId == some id
    else if direction = some "INCOMING" then row.toInstitutionId == some id
    else row.fromInstitutionId == id

def listTransferRequests (env : ReadEnv) (auth : AuthTokenPayload) (filters : TransferFilters)
    (s : Store) : Except ServiceError (List TransferRequestView) := do
  let isSuperAdmin := auth.role == .acadidSuperAdmin
  let institution ← match given filters.institutionId with
    | some ref => if isSuperAdmin then findInstitution ref env.pick s else .ok none
    | none => .ok none
  let actorInstitutionId :=
    if isSuperAdmin then institution.map (·.uuid) else given auth.institutionUuid
  require (isSuperAdmin || actorInstitutionId.isSome)
    (.forbidden "Institution-scoped session is required to list transfer requests.")
  let status ← enumFilter transferRequestStatuses filters.status
  let rows := s.transferRequests.rows.filter fun row =>
    inDirection filters.direction actorInstitutionId row && status.all (row.status == ·)
  return (rows.reverse.take 200).map (viewTransferRequest s)

def listBatches (auth : AuthTokenPayload) (s : Store) : List ResultBatch :=
  (s.resultBatches.rows.filter fun row =>
    inScope (institutionIdsForActor auth s) (some row.institutionId)).reverse

def readBatch (auth : AuthTokenPayload) (id : Uuid) (s : Store) : Except ServiceError BatchView := do
  let batch ← orThrow (s.resultBatches.find? id) (.badRequest "Result batch not found.")
  assertActorCanOperateInstitution auth batch.institutionId s
  return viewBatch s batch

/-- The institutions whose academic setup is listed. -/
def academicSetupWhere (env : ReadEnv) (auth : AuthTokenPayload) (institutionRef : Option String)
    (s : Store) : Except ServiceError (Option (List Uuid)) :=
  match given institutionRef with
  | some ref => do
    let institution ← resolveReadableInstitution auth ref env.pick s
    return some [institution.uuid]
  | none => .ok (institutionIdsForActor auth s)

/-- The current sessions first, and the newest first among them. -/
def sessionLe (a b : AcademicSession) : Bool :=
  a.isCurrent || !b.isCurrent

def listAcademicSessions (env : ReadEnv) (auth : AuthTokenPayload)
    (institutionRef : Option String) (s : Store) : Except ServiceError (List AcademicSession) := do
  let scope ← academicSetupWhere env auth institutionRef s
  let rows := s.academicSessions.rows.filter fun row => inScope scope (some row.institutionId)
  return (rows.reverse.insertionSort fun a b => sessionLe a b).take 200

structure StructureFilters where
  institutionId : Option String
  parentId : Option String
  type : Option String

/-- By parent, roots last; then by type, in the order of its declaration; then by name. -/
def structureLe (env : ReadEnv) (a b : AcademicStructure) : Bool :=
  match a.parentId, b.parentId with
  | some p, some q => p < q || p == q && within
  | some _, none => true
  | none, some _ => false
  | none, none => within
where
  within : Bool :=
    a.type.ctorIdx < b.type.ctorIdx || a.type == b.type && env.collate a.name b.name

def listAcademicStructures (env : ReadEnv) (auth : AuthTokenPayload) (filters : StructureFilters)
    (s : Store) : Except ServiceError (List AcademicStructure) := do
  let scope ← academicSetupWhere env auth filters.institutionId s
  let type ← enumFilter academicStructureTypes filters.type
  let rows := s.academicStructures.rows.filter fun row =>
    inScope scope (some row.institutionId) &&
      ((given filters.parentId).all (row.parentId == some ·) && type.all (row.type == ·))
  return (rows.insertionSort fun a b => structureLe env a b).take 500

/-- By status, in the order of its declaration; then the last updated first. -/
def ruleSetLe (a b : GradingRuleSet) : Bool :=
  a.status.ctorIdx < b.status.ctorIdx || a.status == b.status && b.updatedAt ≤ a.updatedAt

def listGradingRuleSets (env : ReadEnv) (auth : AuthTokenPayload)
    (institutionRef : Option String) (s : Store) : Except ServiceError (List GradingRuleSet) := do
  let scope ← academicSetupWhere env auth institutionRef s
  let rows := s.gradingRuleSets.rows.filter fun row => inScope scope (some row.institutionId)
  return (rows.insertionSort fun a b => ruleSetLe a b).take 100

def assertCanReadJob (auth : AuthTokenPayload) (job : BackgroundJob) (s : Store) :
    Except ServiceError Unit :=
  if auth.role = .acadidSuperAdmin then .ok ()
  else
    match given job.institutionId with
    | some institutionId => assertActorCanOperateInstitution auth institutionId s
    | none =>
      require (!auth.isApiKey && job.createdById == some auth.sub)
        (.forbidden "You do not have access to this job.")

def readJob (auth : AuthTokenPayload) (id : Uuid) (s : Store) : Except ServiceError JobView := do
  let job ← orThrow (s.backgroundJobs.find? id) (.badRequest "Job not found.")
  assertCanReadJob auth job s
  return viewJob s job

/-! ### Any of them -/

inductive ReadCall where
  | listRecordRequests (status : Option String)
  | listTransferRequests (filters : TransferFilters)
  | listBatches
  | readBatch (id : Uuid)
  | listAcademicSessions (institutionRef : Option String)
  | listAcademicStructures (filters : StructureFilters)
  | listGradingRuleSets (institutionRef : Option String)
  | readJob (id : Uuid)

inductive ReadResult where
  | recordRequests (rows : List RecordRequestView)
  | transferRequests (rows : List TransferRequestView)
  | batches (rows : List ResultBatch)
  | batch (view : BatchView)
  | academicSessions (rows : List AcademicSession)
  | academicStructures (rows : List AcademicStructure)
  | gradingRuleSets (rows : List GradingRuleSet)
  | job (view : JobView)

def query (env : ReadEnv) (auth : AuthTokenPayload) (call : ReadCall) (s : Store) :
    Except ServiceError ReadResult :=
  match call with
  | .listRecordRequests status => (listRecordRequests auth status s).map .recordRequests
  | .listTransferRequests filters =>
    (listTransferRequests env auth filters s).map .transferRequests
  | .listBatches => .ok (.batches (listBatches auth s))
  | .readBatch id => (readBatch auth id s).map .batch
  | .listAcademicSessions ref => (listAcademicSessions env auth ref s).map .academicSessions
  | .listAcademicStructures filters =>
    (listAcademicStructures env auth filters s).map .academicStructures
  | .listGradingRuleSets ref => (listGradingRuleSets env auth ref s).map .gradingRuleSets
  | .readJob id => (readJob auth id s).map .job

end AcadID.Reading
