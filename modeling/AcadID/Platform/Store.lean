/-
**The database: the rows of the schema, its tables, and its programs.**

* The enumerations and rows follow the schema's own, with the columns that the modelled services
  read or write; `Store` is one table of each.
* A table is keyed by its `uuid`; the schema's other unique constraints are checked where a row is
  created, as `createCredential` does.
* `Db` — a program over the store whose every call may fail; `Db.read` and `Db.transaction` are
  its calls.
-/

import AcadID.Lib.Table
import AcadID.Platform.Runtime

namespace AcadID

open Lib

/-! ### Enumerations -/

inductive LearnerIdentityStatus where
  | verified
  | unverified
  | pendingReview
  deriving DecidableEq, Repr

def LearnerIdentityStatus.name : LearnerIdentityStatus → String
  | .verified => "VERIFIED"
  | .unverified => "UNVERIFIED"
  | .pendingReview => "PENDING_REVIEW"

inductive InstitutionStatus where
  | active
  | suspended
  deriving DecidableEq, Repr

def InstitutionStatus.name : InstitutionStatus → String
  | .active => "ACTIVE"
  | .suspended => "SUSPENDED"

inductive AuthorityGrantStatus where
  | active
  | suspended
  | terminated
  deriving DecidableEq, Repr

inductive InstitutionUserStatus where
  | invited
  | active
  | suspended
  | disabled
  deriving DecidableEq, Repr

inductive EnrolmentStatus where
  | active
  | pendingRollover
  | promoted
  | repeated
  | transferredOut
  | withdrawn
  | graduated
  | suspended
  | sealed
  | closed
  deriving DecidableEq, Repr

inductive ExitType where
  | graduate
  | transfer
  | withdraw
  deriving DecidableEq, Repr

inductive AcademicSessionStatus where
  | draft
  | active
  | closed
  | sealed
  deriving DecidableEq, Repr

def AcademicSessionStatus.name : AcademicSessionStatus → String
  | .draft => "DRAFT"
  | .active => "ACTIVE"
  | .closed => "CLOSED"
  | .sealed => "SEALED"

inductive SealedSessionReopenStatus where
  | requested
  | approved
  | rejected
  | cancelled
  deriving DecidableEq, Repr

inductive RolloverDecision where
  | promoted
  | repeated
  | transferredOut
  | withdrawn
  | graduated
  | suspended
  | sealed
  deriving DecidableEq, Repr

def RolloverDecision.name : RolloverDecision → String
  | .promoted => "PROMOTED"
  | .repeated => "REPEATED"
  | .transferredOut => "TRANSFERRED_OUT"
  | .withdrawn => "WITHDRAWN"
  | .graduated => "GRADUATED"
  | .suspended => "SUSPENDED"
  | .sealed => "SEALED"

inductive RolloverStatus where
  | pendingRollover
  | approved
  | cancelled
  deriving DecidableEq, Repr

inductive TransferRequestStatus where
  | requested
  | inReview
  | approved
  | rejected
  | cancelled
  | completed
  | disputed
  deriving DecidableEq, Repr

def TransferRequestStatus.name : TransferRequestStatus → String
  | .requested => "REQUESTED"
  | .inReview => "IN_REVIEW"
  | .approved => "APPROVED"
  | .rejected => "REJECTED"
  | .cancelled => "CANCELLED"
  | .completed => "COMPLETED"
  | .disputed => "DISPUTED"

inductive DisputePriority where
  | low
  | normal
  | high
  | critical
  deriving DecidableEq, Repr

def DisputePriority.name : DisputePriority → String
  | .low => "LOW"
  | .normal => "NORMAL"
  | .high => "HIGH"
  | .critical => "CRITICAL"

inductive DisputeStatus where
  | open
  | resolved
  | escalated
  deriving DecidableEq, Repr

inductive AcademicStructureStatus where
  | active
  | archived
  deriving DecidableEq, Repr

def AcademicStructureStatus.name : AcademicStructureStatus → String
  | .active => "ACTIVE"
  | .archived => "ARCHIVED"

inductive AcademicStructureType where
  | level
  | classRoom
  | arm
  | stream
  | subject
  | faculty
  | department
  | programme
  | course
  deriving DecidableEq, Repr

def AcademicStructureType.name : AcademicStructureType → String
  | .level => "LEVEL"
  | .classRoom => "CLASS"
  | .arm => "ARM"
  | .stream => "STREAM"
  | .subject => "SUBJECT"
  | .faculty => "FACULTY"
  | .department => "DEPARTMENT"
  | .programme => "PROGRAMME"
  | .course => "COURSE"

inductive PeriodType where
  | term
  | semester
  deriving DecidableEq, Repr

def PeriodType.name : PeriodType → String
  | .term => "TERM"
  | .semester => "SEMESTER"

inductive ResultUploadMode where
  | subjectBySubject
  | masterSheet
  | courseBased
  | manualEntry
  deriving DecidableEq, Repr

def ResultUploadMode.name : ResultUploadMode → String
  | .subjectBySubject => "SUBJECT_BY_SUBJECT"
  | .masterSheet => "MASTER_SHEET"
  | .courseBased => "COURSE_BASED"
  | .manualEntry => "MANUAL_ENTRY"

inductive GradingRuleEngine where
  | primarySecondary
  | tertiaryGpa
  deriving DecidableEq, Repr

def GradingRuleEngine.name : GradingRuleEngine → String
  | .primarySecondary => "PRIMARY_SECONDARY"
  | .tertiaryGpa => "TERTIARY_GPA"

inductive GradingRuleStatus where
  | draft
  | active
  | archived
  deriving DecidableEq, Repr

def GradingRuleStatus.name : GradingRuleStatus → String
  | .draft => "DRAFT"
  | .active => "ACTIVE"
  | .archived => "ARCHIVED"

inductive AcademicRecordStatus where
  | draft
  | submitted
  | reviewed
  | approved
  | published
  | rejected
  | sealed
  | amended
  deriving DecidableEq, Repr

def AcademicRecordStatus.name : AcademicRecordStatus → String
  | .draft => "DRAFT"
  | .submitted => "SUBMITTED"
  | .reviewed => "REVIEWED"
  | .approved => "APPROVED"
  | .published => "PUBLISHED"
  | .rejected => "REJECTED"
  | .sealed => "SEALED"
  | .amended => "AMENDED"

inductive CredentialType where
  | transcript
  | resultSlip
  | certificate
  deriving DecidableEq, Repr

def CredentialType.name : CredentialType → String
  | .transcript => "TRANSCRIPT"
  | .resultSlip => "RESULT_SLIP"
  | .certificate => "CERTIFICATE"

inductive CredentialStatus where
  | active
  | suspended
  | revoked
  | superseded
  | expired
  deriving DecidableEq, Repr

def CredentialStatus.name : CredentialStatus → String
  | .active => "ACTIVE"
  | .suspended => "SUSPENDED"
  | .revoked => "REVOKED"
  | .superseded => "SUPERSEDED"
  | .expired => "EXPIRED"

inductive AccessGrantScope where
  | full
  | gpa
  | semester
  | subject
  deriving DecidableEq, Repr

def AccessGrantScope.name : AccessGrantScope → String
  | .full => "FULL"
  | .gpa => "GPA"
  | .semester => "SEMESTER"
  | .subject => "SUBJECT"

inductive VerificationOutcome where
  | confirmed
  | denied
  | discrepancy
  | revoked
  deriving DecidableEq, Repr

inductive RecordRequestStatus where
  | submitted
  | awaitingPayment
  | assigned
  | institutionReview
  | needsMoreInformation
  | approved
  | rejected
  | fulfilled
  | disputed
  | escalated
  | cancelled
  deriving DecidableEq, Repr

def RecordRequestStatus.name : RecordRequestStatus → String
  | .submitted => "SUBMITTED"
  | .awaitingPayment => "AWAITING_PAYMENT"
  | .assigned => "ASSIGNED"
  | .institutionReview => "INSTITUTION_REVIEW"
  | .needsMoreInformation => "NEEDS_MORE_INFORMATION"
  | .approved => "APPROVED"
  | .rejected => "REJECTED"
  | .fulfilled => "FULFILLED"
  | .disputed => "DISPUTED"
  | .escalated => "ESCALATED"
  | .cancelled => "CANCELLED"

inductive RecordRequestPaymentStatus where
  | notRequired
  | pending
  | paid
  | waived
  | refunded
  deriving DecidableEq, Repr

def RecordRequestPaymentStatus.name : RecordRequestPaymentStatus → String
  | .notRequired => "NOT_REQUIRED"
  | .pending => "PENDING"
  | .paid => "PAID"
  | .waived => "WAIVED"
  | .refunded => "REFUNDED"

inductive RecordRequestEscrowStatus where
  | none
  | held
  | released
  | refundPending
  | refunded
  deriving DecidableEq, Repr

def RecordRequestEscrowStatus.name : RecordRequestEscrowStatus → String
  | .none => "NONE"
  | .held => "HELD"
  | .released => "RELEASED"
  | .refundPending => "REFUND_PENDING"
  | .refunded => "REFUNDED"

inductive RevenueCategory where
  | verificationFee
  | credentialExportFee
  | institutionSubscription
  deriving DecidableEq, Repr

inductive RevenueEntryStatus where
  | pending
  | billable
  | invoiced
  | paid
  | waived
  | failed
  deriving DecidableEq, Repr

inductive InvitationLeadStatus where
  | new
  | contacted
  | invited
  | converted
  | dismissed
  deriving DecidableEq, Repr

def InvitationLeadStatus.name : InvitationLeadStatus → String
  | .new => "NEW"
  | .contacted => "CONTACTED"
  | .invited => "INVITED"
  | .converted => "CONVERTED"
  | .dismissed => "DISMISSED"

inductive IdempotencyRecordStatus where
  | inProgress
  | succeeded
  | failed
  deriving DecidableEq, Repr

inductive BackgroundJobType where
  | bulkStudentUpload
  | resultBatchValidation
  | credentialGeneration
  | pdfGeneration
  | smsEmailDelivery
  | paystackPaymentConfirmation
  | recordRequestDeadline
  | webhookDelivery
  | pushNotification
  | liveResultsCallback
  | examBodyIngest
  | rateLimitBucketCleanup
  | idempotencyRecordCleanup
  deriving DecidableEq, Repr

def BackgroundJobType.name : BackgroundJobType → String
  | .bulkStudentUpload => "BULK_STUDENT_UPLOAD"
  | .resultBatchValidation => "RESULT_BATCH_VALIDATION"
  | .credentialGeneration => "CREDENTIAL_GENERATION"
  | .pdfGeneration => "PDF_GENERATION"
  | .smsEmailDelivery => "SMS_EMAIL_DELIVERY"
  | .paystackPaymentConfirmation => "PAYSTACK_PAYMENT_CONFIRMATION"
  | .recordRequestDeadline => "RECORD_REQUEST_DEADLINE"
  | .webhookDelivery => "WEBHOOK_DELIVERY"
  | .pushNotification => "PUSH_NOTIFICATION"
  | .liveResultsCallback => "LIVE_RESULTS_CALLBACK"
  | .examBodyIngest => "EXAM_BODY_INGEST"
  | .rateLimitBucketCleanup => "RATE_LIMIT_BUCKET_CLEANUP"
  | .idempotencyRecordCleanup => "IDEMPOTENCY_RECORD_CLEANUP"

inductive BackgroundJobStatus where
  | queued
  | running
  | retrying
  | succeeded
  | failed
  | cancelled
  deriving DecidableEq, Repr

def BackgroundJobStatus.name : BackgroundJobStatus → String
  | .queued => "QUEUED"
  | .running => "RUNNING"
  | .retrying => "RETRYING"
  | .succeeded => "SUCCEEDED"
  | .failed => "FAILED"
  | .cancelled => "CANCELLED"

inductive WebhookDeliveryStatus where
  | pending
  | delivered
  | retrying
  | failed
  | cancelled
  deriving DecidableEq, Repr

inductive WebhookEndpointStatus where
  | active
  | suspended
  | disabled
  deriving DecidableEq, Repr

inductive InstitutionApplicationStatus where
  | pending
  | approved
  | rejected
  deriving DecidableEq, Repr

inductive DeveloperAccessRequestStatus where
  | pending
  | approved
  | rejected
  | suspended
  deriving DecidableEq, Repr

def DeveloperAccessRequestStatus.name : DeveloperAccessRequestStatus → String
  | .pending => "PENDING"
  | .approved => "APPROVED"
  | .rejected => "REJECTED"
  | .suspended => "SUSPENDED"

inductive ApiKeyOwnerType where
  | product
  | institution
  deriving DecidableEq, Repr

def ApiKeyOwnerType.name : ApiKeyOwnerType → String
  | .product => "PRODUCT"
  | .institution => "INSTITUTION"

inductive ApiKeyEnvironment where
  | sandbox
  | production
  deriving DecidableEq, Repr

def ApiKeyEnvironment.name : ApiKeyEnvironment → String
  | .sandbox => "SANDBOX"
  | .production => "PRODUCTION"

inductive ApiKeyStatus where
  | active
  | revoked
  | expired
  deriving DecidableEq, Repr

/-! ### Rows -/

structure Institution where
  uuid : Uuid
  institutionId : String
  officialName : String
  status : InstitutionStatus

structure AuthorityGrant where
  uuid : Uuid
  institutionId : Uuid
  effectiveFrom : Time
  expiresAt : Option Time
  permissions : Json
  status : AuthorityGrantStatus

structure InstitutionUser where
  uuid : Uuid
  userId : Uuid
  institutionId : Uuid
  role : UserRole
  status : InstitutionUserStatus
  assignedScopes : Json
  permissions : List String := []
  inviteTokenHash : Option String := none
  inviteExpiresAt : Option Time := none
  lastLoginAt : Option Time := none

structure User where
  uuid : Uuid
  email : String
  passwordHash : String
  fullName : String
  role : UserRole
  phone : Option String := none
  learnerId : Option Uuid := none
  mfaEnabled : Bool := false
  totpSecretEncrypted : Option String := none

structure MfaRecoveryCode where
  uuid : Uuid
  userId : Uuid
  codeHash : String
  usedAt : Option Time

structure InstitutionApplication where
  uuid : Uuid
  officialName : String
  type : String
  institutionCategory : String
  contactPersonName : String
  contactEmail : String
  status : InstitutionApplicationStatus
  reviewFeedback : Option String
  reviewedById : Option Uuid
  reviewedAt : Option Time
  approvedInstitutionId : Option Uuid

structure DeveloperAccessRequest where
  uuid : Uuid
  institutionId : Uuid
  status : DeveloperAccessRequestStatus
  reviewFeedback : Option String
  reviewedById : Option Uuid
  reviewedAt : Option Time
  approvedAt : Option Time
  suspendedAt : Option Time

structure ApiKey where
  uuid : Uuid
  ownerType : ApiKeyOwnerType
  institutionId : Option Uuid
  productCode : Option String
  productName : Option String
  clientId : String
  clientSecretHash : String
  label : String
  scopes : List String
  environment : ApiKeyEnvironment
  status : ApiKeyStatus
  rateLimitPerMinute : ℤ
  expiresAt : Option Time
  lastUsedAt : Option Time
  revokedAt : Option Time
  revokedReason : Option String
  createdById : Option Uuid

structure PlatformSetting where
  key : String
  value : Json

structure RateLimitBucket where
  scope : String
  bucketKeyHash : String
  windowStart : Time
  windowSeconds : ℤ
  count : ℤ
  limit : ℤ

/-- `@@unique([scope, bucketKeyHash, windowStart])` -/
def RateLimitBucket.key (bucket : RateLimitBucket) : String × String × Time :=
  (bucket.scope, bucket.bucketKeyHash, bucket.windowStart)

structure Learner where
  uuid : Uuid
  ain : String
  fullName : String
  dateOfBirth : Time
  phone : Option String
  identityStatus : LearnerIdentityStatus

structure Enrolment where
  uuid : Uuid
  learnerId : Uuid
  institutionId : Uuid
  academicSessionId : Option Uuid
  structureScopeId : Option Uuid
  studentNumber : String
  level : String
  programme : String
  entryDate : Time
  exitDate : Option Time
  exitType : Option ExitType
  status : EnrolmentStatus
  deriving DecidableEq

structure AcademicSession where
  uuid : Uuid
  institutionId : Uuid
  sessionLabel : String
  periodType : PeriodType
  periodLabel : String
  startDate : Option Time
  endDate : Option Time
  status : AcademicSessionStatus
  isCurrent : Bool
  createdById : Option Uuid

structure SealedSessionReopenRequest where
  uuid : Uuid
  institutionId : Uuid
  sessionId : Uuid
  requestedById : Option Uuid
  reviewedById : Option Uuid
  status : SealedSessionReopenStatus
  requestedStatus : AcademicSessionStatus
  reason : String
  reviewReason : Option String
  dueAt : Option Time
  reviewedAt : Option Time

structure AcademicStructure where
  uuid : Uuid
  institutionId : Uuid
  parentId : Option Uuid
  type : AcademicStructureType
  name : String
  code : Option String
  creditUnits : Option ℤ
  metadata : Option Json
  status : AcademicStructureStatus
  createdById : Option Uuid

structure GradingRuleSet where
  uuid : Uuid
  institutionId : Uuid
  name : String
  engine : GradingRuleEngine
  status : GradingRuleStatus
  scale : Json
  passMark : Option ℚ
  maxScore : ℚ
  gradePointMax : Option ℚ
  effectiveFrom : Option Time
  effectiveTo : Option Time
  createdById : Option Uuid
  updatedAt : Time

structure ResultBatch where
  uuid : Uuid
  institutionId : Uuid
  academicSessionId : Option Uuid
  structureScopeId : Option Uuid
  gradingRuleSetId : Option Uuid
  uploadMode : ResultUploadMode
  title : String
  batchLabel : Option String
  status : AcademicRecordStatus
  rejectionCount : ℕ
  createdById : Uuid
  createdByInstitutionUserId : Option Uuid
  recordCount : ℕ
  validationSummary : Json
  submittedAt : Option Time
  reviewedAt : Option Time
  approvedAt : Option Time
  publishedAt : Option Time

structure AcademicRecord where
  uuid : Uuid
  enrolmentId : Uuid
  resultBatchId : Option Uuid
  academicSessionId : Option Uuid
  structureScopeId : Option Uuid
  gradingRuleSetId : Option Uuid
  periodType : PeriodType
  periodLabel : String
  subjectCode : String
  subjectName : String
  caScore : Option ℚ
  examScore : Option ℚ
  totalScore : ℚ
  grade : String
  gradePoint : Option ℚ
  creditUnits : Option ℚ
  qualityPoints : Option ℚ
  status : AcademicRecordStatus
  publishedAt : Option Time
  supersedesId : Option Uuid
  createdAt : Time

structure Credential where
  uuid : Uuid
  credentialRef : String
  learnerId : Uuid
  institutionId : Uuid
  academicRecordId : Option Uuid
  recordRequestId : Option Uuid
  type : CredentialType
  scope : Json
  vcPayload : Json
  signature : Option String
  status : CredentialStatus
  issuedAt : Time
  revokedAt : Option Time
  revocationReason : Option String

structure AccessGrant where
  uuid : Uuid
  learnerId : Uuid
  credentialId : Uuid
  tokenHash : String
  scope : AccessGrantScope
  recipientLabel : String
  expiresAt : Option Time
  revokedAt : Option Time
  maxViews : Option ℤ
  viewCount : ℤ

structure VerificationEvent where
  uuid : Uuid
  credentialId : Uuid
  accessGrantId : Option Uuid
  verifierType : String
  verifierName : Option String
  verifierEmailEncrypted : Option String
  ipAddressHash : Option String
  outcome : VerificationOutcome
  scopeViewed : Json

structure AcademicStanding where
  enrolmentId : Uuid
  learnerId : Uuid
  institutionId : Uuid
  latestAcademicSessionId : Option Uuid
  latestPeriodLabel : Option String
  attemptedCreditUnits : ℚ
  earnedCreditUnits : ℚ
  qualityPoints : ℚ
  cgpa : Option ℚ
  gradePointMax : ℚ
  classification : Option String
  classificationSystem : String
  includedRecordCount : ℕ
  periodCount : ℕ
  computedAt : Time

structure RecordRequest where
  uuid : Uuid
  requestId : String
  learnerId : Option Uuid
  institutionId : Option Uuid
  institutionNameSubmitted : String
  educationLevel : String
  yearsAttendedFrom : Option ℤ
  yearsAttendedTo : Option ℤ
  studentNumber : Option String
  departmentOrClass : Option String
  recordTypesRequested : List String
  proofDocumentUrls : List String
  status : RecordRequestStatus
  paymentStatus : RecordRequestPaymentStatus
  escrowStatus : RecordRequestEscrowStatus
  paymentReference : Option String
  paymentProvider : Option String
  amountMinor : Option ℤ
  currency : String
  paymentHeldAt : Option Time
  paymentReleasedAt : Option Time
  refundRequestedAt : Option Time
  assignedToId : Option Uuid
  fulfilledCredentialId : Option Uuid
  requesterName : Option String
  requesterEmail : Option String
  rejectionReason : Option String
  escalationReason : Option String
  resolutionNote : Option String
  notes : Json
  submittedAt : Time
  assignedAt : Option Time
  fulfilledAt : Option Time
  rejectedAt : Option Time
  escalatedAt : Option Time

structure RolloverRecord where
  uuid : Uuid
  institutionId : Uuid
  learnerId : Uuid
  enrolmentId : Option Uuid
  fromSessionId : Uuid
  toSessionId : Option Uuid
  fromStructureId : Option Uuid
  toStructureId : Option Uuid
  decision : RolloverDecision
  status : RolloverStatus
  reason : Option String
  createdById : Option Uuid
  approvedById : Option Uuid
  disputeId : Option Uuid
  approvedAt : Option Time
  disputedAt : Option Time
  disputeResolutionNote : Option String

structure TransferRequest where
  uuid : Uuid
  transferId : String
  learnerId : Uuid
  fromInstitutionId : Uuid
  toInstitutionId : Option Uuid
  fromEnrolmentId : Option Uuid
  fromSessionId : Option Uuid
  fromStructureId : Option Uuid
  toInstitutionNameSubmitted : Option String
  toInstitutionContactEmail : Option String
  reason : Option String
  status : TransferRequestStatus
  requestedById : Option Uuid
  reviewedById : Option Uuid
  rolloverRecordId : Option Uuid
  disputeId : Option Uuid
  requestedAt : Time
  reviewedAt : Option Time
  completedAt : Option Time
  rejectedAt : Option Time
  cancelledAt : Option Time
  notes : Json

structure Dispute where
  uuid : Uuid
  title : String
  description : String
  category : String
  priority : DisputePriority
  status : DisputeStatus
  institutionId : Option Uuid
  learnerId : Option Uuid
  reporterName : Option String
  reporterEmail : Option String
  resolvedAt : Option Time
  resolutionNote : Option String
  escalatedAt : Option Time := none

structure RevenueLedgerEntry where
  uuid : Uuid
  category : RevenueCategory
  status : RevenueEntryStatus
  amountMinor : ℤ
  currency : String
  institutionId : Option Uuid
  credentialId : Option Uuid
  verificationEventId : Option Uuid
  sourceType : String
  sourceId : Option String
  description : String
  paidAt : Option Time
  metadata : Json

structure InvitationLead where
  uuid : Uuid
  institutionName : String
  institutionNameKey : String
  educationLevel : Option String
  demandCount : ℤ
  requesterCount : ℤ
  latestRecordRequestId : Option Uuid
  latestRecordRequestCode : Option String
  recordRequestIds : List Uuid
  status : InvitationLeadStatus
  lastRequestedAt : Time
  metadata : Option Json

structure IdempotencyRecord where
  uuid : Uuid
  scope : String
  keyHash : String
  requestHash : String
  operation : String
  status : IdempotencyRecordStatus
  actorType : Option ActorKind
  actorUserId : Option Uuid
  clientId : Option String
  institutionId : Option Uuid
  jobId : Option Uuid
  response : Option Json
  error : Option String
  expiresAt : Time

structure BackgroundJob where
  uuid : Uuid
  type : BackgroundJobType
  queue : String
  status : BackgroundJobStatus
  institutionId : Option Uuid
  createdById : Option Uuid
  relatedEntityType : Option String
  relatedEntityId : Option String
  priority : ℤ
  attempts : ℕ
  maxAttempts : ℕ
  runAfter : Time
  payload : Json
  result : Option Json
  error : Option String

structure WebhookEndpoint where
  uuid : Uuid
  secretEncrypted : String
  status : WebhookEndpointStatus

structure WebhookDelivery where
  uuid : Uuid
  jobId : Option Uuid
  institutionId : Option Uuid
  webhookEndpointId : Option Uuid
  targetUrl : String
  eventType : String
  payload : Json
  status : WebhookDeliveryStatus
  attempts : ℕ
  lastStatusCode : Option ℕ
  lastError : Option String

inductive NotificationChannel where
  | push
  | email
  | sms
  | webhook
  deriving DecidableEq, Repr

def NotificationChannel.name : NotificationChannel → String
  | .push => "PUSH"
  | .email => "EMAIL"
  | .sms => "SMS"
  | .webhook => "WEBHOOK"

inductive NotificationStatus where
  | pending
  | sent
  | failed
  | cancelled
  deriving DecidableEq, Repr

def NotificationStatus.name : NotificationStatus → String
  | .pending => "PENDING"
  | .sent => "SENT"
  | .failed => "FAILED"
  | .cancelled => "CANCELLED"

structure Notification where
  uuid : Uuid
  jobId : Option Uuid
  institutionId : Option Uuid
  learnerId : Option Uuid
  userId : Option Uuid
  channel : NotificationChannel
  type : String
  title : String
  body : String
  payload : Json
  status : NotificationStatus
  error : Option String

structure DomainEvent where
  uuid : Uuid
  type : String
  aggregateType : String
  aggregateId : Uuid
  institutionId : Option Uuid
  jobId : Option Uuid
  payload : Json

structure AuditEvent where
  actorType : String
  actorId : Option Uuid
  actorRole : Option UserRole
  action : String
  targetType : String
  targetId : Option String
  institutionId : Option Uuid
  outcome : String
  reason : Option String
  metadata : Json

/-! ### The store -/

structure Store where
  institutions : Table Institution.uuid
  authorityGrants : Table AuthorityGrant.uuid
  users : Table User.uuid
  institutionUsers : Table InstitutionUser.uuid
  mfaRecoveryCodes : Table MfaRecoveryCode.uuid
  institutionApplications : Table InstitutionApplication.uuid
  developerAccessRequests : Table DeveloperAccessRequest.uuid
  apiKeys : Table ApiKey.uuid
  platformSettings : Table PlatformSetting.key
  rateLimitBuckets : Table RateLimitBucket.key
  learners : Table Learner.uuid
  enrolments : Table Enrolment.uuid
  academicSessions : Table AcademicSession.uuid
  sealedSessionReopenRequests : Table SealedSessionReopenRequest.uuid
  academicStructures : Table AcademicStructure.uuid
  gradingRuleSets : Table GradingRuleSet.uuid
  resultBatches : Table ResultBatch.uuid
  academicRecords : Table AcademicRecord.uuid
  credentials : Table Credential.uuid
  accessGrants : Table AccessGrant.uuid
  verificationEvents : Table VerificationEvent.uuid
  academicStandings : Table AcademicStanding.enrolmentId
  recordRequests : Table RecordRequest.uuid
  rolloverRecords : Table RolloverRecord.uuid
  transferRequests : Table TransferRequest.uuid
  disputes : Table Dispute.uuid
  revenueLedger : Table RevenueLedgerEntry.uuid
  invitationLeads : Table InvitationLead.uuid
  idempotencyRecords : Table IdempotencyRecord.uuid
  backgroundJobs : Table BackgroundJob.uuid
  domainEvents : Table DomainEvent.uuid
  webhookEndpoints : Table WebhookEndpoint.uuid
  webhookDeliveries : Table WebhookDelivery.uuid
  notifications : Table Notification.uuid
  auditEvents : List AuditEvent

/-- A store without rows. -/
def Store.empty : Store where
  institutions := .empty
  authorityGrants := .empty
  users := .empty
  institutionUsers := .empty
  mfaRecoveryCodes := .empty
  institutionApplications := .empty
  developerAccessRequests := .empty
  apiKeys := .empty
  platformSettings := .empty
  rateLimitBuckets := .empty
  learners := .empty
  enrolments := .empty
  academicSessions := .empty
  sealedSessionReopenRequests := .empty
  academicStructures := .empty
  gradingRuleSets := .empty
  resultBatches := .empty
  academicRecords := .empty
  credentials := .empty
  accessGrants := .empty
  verificationEvents := .empty
  academicStandings := .empty
  recordRequests := .empty
  rolloverRecords := .empty
  transferRequests := .empty
  disputes := .empty
  revenueLedger := .empty
  invitationLeads := .empty
  idempotencyRecords := .empty
  backgroundJobs := .empty
  domainEvents := .empty
  webhookEndpoints := .empty
  webhookDeliveries := .empty
  notifications := .empty
  auditEvents := []

/-- `AuditService.write`: one more event. -/
def Store.audit (s : Store) (event : AuditEvent) : Store :=
  { s with auditEvents := s.auditEvents ++ [event] }

/-- The actor type that `AuditService.write` infers when it is given none. -/
def inferActorType (clientId actorId : Option String) : String :=
  if clientId.isSome then "API_KEY" else if actorId.isSome then "USER" else "SYSTEM"

/-- The row inserted, or the unique violation of its key. -/
def insertUnique {ρ κ : Type} {key : ρ → κ} [DecidableEq κ] (t : Table key) (r : ρ) :
    Except ServiceError (Table key) :=
  orThrow (t.insert r) .uniqueViolation

/-- The row updated, or the failure of an update that finds no row. -/
def updateRow {ρ κ : Type} {key : ρ → κ} [DecidableEq κ] (t : Table key) (k : κ) (f : ρ → ρ)
    (keeps : ∀ r, key (f r) = key r) : Except ServiceError (ρ × Table key) := do
  let r ← orThrow (t.find? k) .recordNotFound
  return (f r, t.update k f keeps)

theorem updateRow_eq_ok {ρ κ : Type} {key : ρ → κ} [DecidableEq κ] {t u : Table key} {k : κ}
    {f : ρ → ρ} {keeps : ∀ r, key (f r) = key r} {r' : ρ} :
    updateRow t k f keeps = .ok (r', u) ↔
      ∃ r, t.find? k = some r ∧ r' = f r ∧ u = t.update k f keeps := by
  unfold updateRow
  rw [bind_eq_ok]
  constructor
  · rintro ⟨r, found, same⟩
    rw [pure_eq_ok] at same
    obtain ⟨rfl, rfl⟩ := Prod.mk.inj same
    exact ⟨r, orThrow_eq_ok.mp found, rfl, rfl⟩
  · rintro ⟨r, found, rfl, rfl⟩
    exact ⟨r, orThrow_eq_ok.mpr found, rfl⟩

/-- A credential whose `credentialRef` is not taken. -/
def createCredential (s : Store) (c : Credential) : Except ServiceError Store := do
  require (s.credentials.rows.all fun other => other.credentialRef ≠ c.credentialRef)
    .uniqueViolation
  let credentials ← insertUnique s.credentials c
  return { s with credentials := credentials }

/-- A ledger entry. -/
def createLedgerEntry (s : Store) (entry : RevenueLedgerEntry) : Except ServiceError Store := do
  let revenueLedger ← insertUnique s.revenueLedger entry
  return { s with revenueLedger := revenueLedger }

/-- **A created credential** is the only change: one more row. -/
theorem createCredential_spec {s t : Store} {c : Credential}
    (created : createCredential s c = .ok t) :
    ∃ credentials, credentials.rows = s.credentials.rows ++ [c] ∧
      (∀ other ∈ s.credentials.rows, other.uuid ≠ c.uuid) ∧
      t = { s with credentials := credentials } := by
  unfold createCredential at created
  obtain ⟨-, -, rest⟩ := bind_eq_ok.mp created
  obtain ⟨credentials, inserted, same⟩ := bind_eq_ok.mp rest
  rw [pure_eq_ok] at same
  obtain ⟨free, rows⟩ := Table.insert_eq_some.mp (orThrow_eq_ok.mp inserted)
  exact ⟨credentials, rows, free, same.symm⟩

/-- **A created ledger entry** is the only change: one more row. -/
theorem createLedgerEntry_spec {s t : Store} {entry : RevenueLedgerEntry}
    (created : createLedgerEntry s entry = .ok t) :
    ∃ ledger, ledger.rows = s.revenueLedger.rows ++ [entry] ∧
      t = { s with revenueLedger := ledger } := by
  unfold createLedgerEntry at created
  obtain ⟨ledger, inserted, same⟩ := bind_eq_ok.mp created
  rw [pure_eq_ok] at same
  exact ⟨ledger, (Table.insert_eq_some.mp (orThrow_eq_ok.mp inserted)).2, same.symm⟩

theorem createLedgerEntry_of_fresh {s : Store} (entry : RevenueLedgerEntry)
    (fresh : ∀ other ∈ s.revenueLedger.rows, other.uuid ≠ entry.uuid) :
    ∃ t, createLedgerEntry s entry = .ok t := by
  obtain ⟨ledger, inserted⟩ := Table.insert_of_fresh fresh
  exact ⟨_, bind_eq_ok.mpr ⟨ledger, orThrow_eq_ok.mpr inserted, rfl⟩⟩

/-! ### Programs over the store -/

/-- A program over the database. -/
abbrev Db (α : Type) : Type := Async Store ServiceError α

namespace Db

variable {α : Type}

/-- Reads, and the checks of what they return. -/
def read (f : Store → Except ServiceError α) : Db α :=
  Async.query .database f

/-- A transaction. -/
def transaction (f : Store → Except ServiceError (α × Store)) : Db α :=
  Async.transaction .database f

/-- A write to the audit log. -/
def audit (event : AuditEvent) : Db Unit :=
  Async.write .database fun s => s.audit event

/-- A read that goes through, without checks of what it returns. -/
theorem read_done {script : List Outcome} (goes : (Async.next script).1 = .done) (f : Store → α)
    (s : Store) :
    (read fun s => .ok (f s)) script s = ⟨.ok (f s), (Async.next script).2, s⟩ :=
  Async.query_ok goes rfl

theorem read_failed {script : List Outcome} (fails : (Async.next script).1 = .failed)
    (f : Store → Except ServiceError α) (s : Store) :
    read f script s = ⟨.error .database, (Async.next script).2, s⟩ :=
  Async.query_failed fails

theorem transaction_failed {script : List Outcome} (fails : (Async.next script).1 = .failed)
    (f : Store → Except ServiceError (α × Store)) (s : Store) :
    transaction f script s = ⟨.error .database, (Async.next script).2, s⟩ :=
  Async.transaction_failed fails

theorem transaction_done {script : List Outcome} (goes : (Async.next script).1 = .done)
    {f : Store → Except ServiceError (α × Store)} {s t : Store} {a : α}
    (commits : f s = .ok (a, t)) : transaction f script s = ⟨.ok a, (Async.next script).2, t⟩ :=
  Async.transaction_ok goes commits

theorem transaction_refused {script : List Outcome} (goes : (Async.next script).1 = .done)
    {f : Store → Except ServiceError (α × Store)} {s : Store} {e : ServiceError}
    (refuses : f s = .error e) : transaction f script s = ⟨.error e, (Async.next script).2, s⟩ :=
  Async.transaction_error goes refuses

theorem audit_done {script : List Outcome} (goes : (Async.next script).1 = .done)
    (event : AuditEvent) (s : Store) :
    audit event script s = ⟨.ok (), (Async.next script).2, s.audit event⟩ :=
  transaction_done (f := fun s => .ok ((), s.audit event)) goes rfl

theorem audit_failed {script : List Outcome} (fails : (Async.next script).1 = .failed)
    (event : AuditEvent) (s : Store) :
    audit event script s = ⟨.error .database, (Async.next script).2, s⟩ :=
  transaction_failed fails (fun s => .ok ((), s.audit event)) s

/-- A transaction that a program begins with. -/
theorem transaction_bind {β : Type} (f : Store → Except ServiceError (α × Store))
    (g : α → Db β) (script : List Outcome) (s : Store) :
    (transaction f >>= g) script s =
      match (Async.next script).1 with
      | .failed => ⟨.error .database, (Async.next script).2, s⟩
      | .done =>
        match f s with
        | .ok (a, t) => g a (Async.next script).2 t
        | .error e => ⟨.error e, (Async.next script).2, s⟩ := by
  rw [Async.bind_apply]
  cases outcome : (Async.next script).1 with
  | failed => rw [transaction_failed outcome]
  | done =>
    cases committed : f s with
    | error e => rw [transaction_refused outcome committed]
    | ok pair => rw [transaction_done outcome committed]

/-- A read that a program begins with. -/
theorem read_bind {β : Type} (f : Store → Except ServiceError α) (g : α → Db β)
    (script : List Outcome) (s : Store) :
    (read f >>= g) script s =
      match (Async.next script).1 with
      | .failed => ⟨.error .database, (Async.next script).2, s⟩
      | .done =>
        match f s with
        | .ok a => g a (Async.next script).2 s
        | .error e => ⟨.error e, (Async.next script).2, s⟩ := by
  rw [Async.bind_apply]
  cases outcome : (Async.next script).1 with
  | failed => rw [read_failed outcome]
  | done =>
    cases answered : f s with
    | error e => rw [read, Async.query_error outcome answered]
    | ok a => rw [read, Async.query_ok outcome answered]

/-- A log entry that a program begins with. -/
theorem audit_bind {β : Type} (event : AuditEvent) (g : Unit → Db β) (script : List Outcome)
    (s : Store) :
    (audit event >>= g) script s =
      match (Async.next script).1 with
      | .failed => ⟨.error .database, (Async.next script).2, s⟩
      | .done => g () (Async.next script).2 (s.audit event) := by
  rw [Async.bind_apply]
  cases outcome : (Async.next script).1 with
  | failed => rw [audit_failed outcome]
  | done => rw [audit_done outcome]

theorem bind_bind {β γ : Type} (x : Db α) (f : α → Db β) (g : β → Db γ) (script : List Outcome)
    (s : Store) : ((x >>= f) >>= g) script s = (x >>= fun a => f a >>= g) script s := by
  rw [Async.bind_apply, Async.bind_apply, Async.bind_apply]
  cases (x script s).result <;> rfl

/-- A write to the audit log, whatever fails. -/
theorem ensures_audit {event : AuditEvent} {s : Store} {Q : Except ServiceError Unit → Store → Prop}
    (failed : Q (.error .database) s) (logged : Q (.ok ()) (s.audit event)) :
    (audit event).Ensures s Q := by
  refine Async.ensures_transaction failed (fun e refused => absurd refused (by simp)) ?_
  intro a t wrote
  obtain ⟨-, rfl⟩ := Prod.mk.inj (Except.ok.inj wrote)
  exact logged

end Db

end AcadID
