/-
**Transfer requests and rollover disputes.**

Two state machines over the status of a transfer request: its review, and the disputes about the
rollover record that an approval links to it.

* `createTransferRequest` — a request for an active enrolment; one write.
* `reviewTransferRequest` — rejected, cancelled, or approved; an approval ends the enrolment, writes
  a rollover record and completes the request, in one transaction. Closed requests are refused by
  the status that the check read.
* `createRolloverDispute` and `resolveRolloverDispute` — the dispute of a rollover record, which the
  request linked to that record follows.
-/

import AcadID.Gateway.RecordRequests
import AcadID.Gateway.Rollover

namespace AcadID

open Lib

namespace Transfers

open Rollovers

/-! ### Bodies -/

structure CreateTransferInput where
  institutionId : String
  enrolmentId : Uuid
  toInstitutionId : Option Uuid
  toInstitutionNameSubmitted : Option String
  toInstitutionContactEmail : Option String
  reason : Option String

open Schema in
def createTransferRequestSchema (rt : Runtime) : Schema CreateTransferInput :=
  let uuid := string [formatted rt.isUuid]
  fun body => Checked.refine
    (fun input => input.toInstitutionId.isSome || input.toInstitutionNameSubmitted.isSome)
    ["toInstitutionId"]
    (object (fun v =>
      CreateTransferInput.mk
        <$> field v "institutionId" (string [minLength 1])
        <*> field v "enrolmentId" uuid
        <*> field v "toInstitutionId" (optional uuid)
        <*> field v "toInstitutionNameSubmitted" (optional (string [minLength 2, maxLength 180]))
        <*> field v "toInstitutionContactEmail"
          (optional (string [formatted rt.isEmail, maxLength 254]))
        <*> field v "reason" (optional (string [minLength 10, maxLength 2000]))) body)

inductive TransferDecision where
  | approve
  | reject
  | cancel
  deriving DecidableEq, Repr

def TransferDecision.name : TransferDecision → String
  | .approve => "APPROVE"
  | .reject => "REJECT"
  | .cancel => "CANCEL"

structure ReviewTransferInput where
  decision : TransferDecision
  note : Option String

open Schema in
def reviewTransferRequestSchema : Schema ReviewTransferInput :=
  object fun v =>
    ReviewTransferInput.mk
      <$> field v "decision" (enum
        [("APPROVE", TransferDecision.approve), ("REJECT", .reject), ("CANCEL", .cancel)])
      <*> field v "note" (optional (string [maxLength 2000]))

structure RolloverDisputeInput where
  title : Option String
  reason : String
  priority : DisputePriority
  reporterName : Option String
  reporterEmail : Option String

def disputePriorities : List (String × DisputePriority) :=
  [("LOW", .low), ("NORMAL", .normal), ("HIGH", .high), ("CRITICAL", .critical)]

open Schema in
def createRolloverDisputeSchema (rt : Runtime) : Schema RolloverDisputeInput :=
  object fun v =>
    RolloverDisputeInput.mk
      <$> field v "title" (optional (string [minLength 3, maxLength 180]))
      <*> field v "reason" (string [minLength 10, maxLength 2000])
      <*> field v "priority" (withDefault .normal (enum disputePriorities))
      <*> field v "reporterName" (optional (string [minLength 2, maxLength 120]))
      <*> field v "reporterEmail" (optional (string [formatted rt.isEmail, maxLength 254]))

open Schema in
/-- `resolveRolloverDisputeSchema`, of one field: the resolution note. -/
def resolveRolloverDisputeSchema : Schema String :=
  object fun v => field v "resolutionNote" (string [minLength 10, maxLength 2000])

/-! ### Creation -/

/-- What the runtime and the database give a new request. -/
structure TransferEnv where
  pick : ℕ
  now : Time
  randomUuid : String
  transferUuid : Uuid

structure CreateTransferPlan where
  env : TransferEnv
  auth : AuthTokenPayload
  input : CreateTransferInput
  institution : Institution
  enrolment : Enrolment
  learner : Learner
  targetInstitution : Option Institution

def createTransferCheck (rt : Runtime) (env : TransferEnv) (auth : AuthTokenPayload) (body : Json)
    (s : Store) : Except ServiceError CreateTransferPlan := do
  let input ← parseBody (createTransferRequestSchema rt) body
  let institution ← Institutions.resolveHumanInstitution humanOnly auth input.institutionId env.pick s
  let enrolment ← orThrow
    ((s.enrolments.find? input.enrolmentId).filter fun enrolment =>
      enrolment.institutionId == institution.uuid && enrolment.status == .active)
    (.badRequest "Active source enrolment not found for this institution.")
  let learner ← orThrow (s.learners.find? enrolment.learnerId) .database
  let targetInstitution := input.toInstitutionId.bind s.institutions.find?
  require (input.toInstitutionId.isNone || targetInstitution.any (·.status == .active))
    (.badRequest "Target institution must be active.")
  require (!targetInstitution.any (·.uuid == institution.uuid)) (.badRequest
    "Transfer target institution must be different from the source institution.")
  return {
    env := env
    auth := auth
    input := input
    institution := institution
    enrolment := enrolment
    learner := learner
    targetInstitution := targetInstitution }

/-- `TRF-${year}-${...}`, with ten characters of a random id. -/
def nextTransferRequestId (rt : Runtime) (env : TransferEnv) : String :=
  let digits := env.randomUuid.toList.filter (· != '-')
  "TRF-" ++ toString (Text.utcFullYear env.now) ++ "-" ++
    rt.toUpperCase (String.ofList (digits.take 10))

/-- A timeline note after those there. -/
def appendTimelineNote (existing note : Json) : Json :=
  RecordRequests.appendRecordRequestNote existing note

def timelineNote (now : Time) (auth : AuthTokenPayload) (status : String) (note : Option String) :
    Json :=
  RecordRequests.noteBy now auth status note []

def newTransfer (rt : Runtime) (plan : CreateTransferPlan) : TransferRequest where
  uuid := plan.env.transferUuid
  transferId := nextTransferRequestId rt plan.env
  learnerId := plan.enrolment.learnerId
  fromInstitutionId := plan.institution.uuid
  toInstitutionId := plan.targetInstitution.map (·.uuid)
  fromEnrolmentId := some plan.enrolment.uuid
  fromSessionId := plan.enrolment.academicSessionId
  fromStructureId := plan.enrolment.structureScopeId
  toInstitutionNameSubmitted := plan.input.toInstitutionNameSubmitted.or
    (plan.targetInstitution.map (·.officialName))
  toInstitutionContactEmail := plan.input.toInstitutionContactEmail
  reason := plan.input.reason
  status := .requested
  requestedById := plan.auth.institutionUserId
  reviewedById := none
  rolloverRecordId := none
  disputeId := none
  requestedAt := plan.env.now
  reviewedAt := none
  completedAt := none
  rejectedAt := none
  cancelledAt := none
  notes := .arr [timelineNote plan.env.now plan.auth "REQUESTED"
    (some (plan.input.reason.getD "Transfer request opened."))]

def createTransferCommit (rt : Runtime) (plan : CreateTransferPlan) (s : Store) :
    Except ServiceError (TransferRequest × Store) := do
  let transfer := newTransfer rt plan
  require (s.transferRequests.rows.all fun other => other.transferId != transfer.transferId)
    .uniqueViolation
  let transferRequests ← insertUnique s.transferRequests transfer
  return (transfer, { s with transferRequests := transferRequests })

/-- The log entry of an operation of this module. -/
def transferAudit (auth : AuthTokenPayload) (action targetType : String)
    (targetId institutionId : Uuid) (reason : Option String)
    (metadata : List (String × Option Json)) : AuditEvent where
  actorType := inferActorType none (some auth.sub)
  actorId := some auth.sub
  actorRole := some auth.role
  action := action
  targetType := targetType
  targetId := some targetId
  institutionId := some institutionId
  outcome := "SUCCESS"
  reason := reason
  metadata := Json.fields metadata

def createTransferAudit (plan : CreateTransferPlan) (transfer : TransferRequest) : AuditEvent :=
  transferAudit plan.auth "transfer_request.create" "TransferRequest" transfer.uuid
    plan.institution.uuid none
    [("transferId", some (.str transfer.transferId)),
      ("learnerId", some (.str plan.enrolment.learnerId)),
      ("learnerAin", some (.str plan.learner.ain)),
      ("toInstitutionId", plan.targetInstitution.map fun target => .str target.institutionId),
      ("toInstitutionNameSubmitted", some (Json.ofOption transfer.toInstitutionNameSubmitted))]

/-! ### Review -/

structure ReviewTransferEnv where
  now : Time
  rolloverUuid : Uuid

structure ReviewTransferPlan where
  env : ReviewTransferEnv
  auth : AuthTokenPayload
  input : ReviewTransferInput
  existing : TransferRequest

/-- `["REJECTED", "CANCELLED", "COMPLETED"].includes(status)` -/
def isClosed (status : TransferRequestStatus) : Bool :=
  [.rejected, .cancelled, .completed].contains status

def reviewTransferCheck (env : ReviewTransferEnv) (auth : AuthTokenPayload) (id : Uuid)
    (body : Json) (s : Store) : Except ServiceError ReviewTransferPlan := do
  let input ← parseBody reviewTransferRequestSchema body
  let existing ← orThrow (s.transferRequests.find? id) (.badRequest "Transfer request not found.")
  Authority.assertActorCanOperateInstitution auth existing.fromInstitutionId s
  require (!isClosed existing.status)
    (.badRequest "Closed transfer requests cannot be reviewed again.")
  return { env := env, auth := auth, input := input, existing := existing }

namespace ReviewTransferPlan

variable (plan : ReviewTransferPlan)

def notes : Json :=
  appendTimelineNote plan.existing.notes
    (timelineNote plan.env.now plan.auth plan.input.decision.name plan.input.note)

/-- What a rejection or a cancellation writes. -/
def closed (status : TransferRequestStatus) (transfer : TransferRequest) : TransferRequest :=
  { transfer with
    status := status
    notes := plan.notes
    reviewedById := plan.auth.institutionUserId <|> transfer.reviewedById
    reviewedAt := some plan.env.now
    rejectedAt := if status = .rejected then some plan.env.now else transfer.rejectedAt
    cancelledAt := if status = .cancelled then some plan.env.now else transfer.cancelledAt }

/-- What an approval writes on the request. -/
def completed (transfer : TransferRequest) : TransferRequest :=
  { transfer with
    status := .completed
    rolloverRecordId := some plan.env.rolloverUuid
    reviewedById := plan.auth.institutionUserId <|> transfer.reviewedById
    reviewedAt := some plan.env.now
    completedAt := some plan.env.now
    notes := plan.notes }

/-- What an approval writes on the enrolment. -/
def transferredOut (enrolment : Enrolment) : Enrolment :=
  { enrolment with
    status := .transferredOut
    exitDate := some plan.env.now
    exitType := some .transfer }

def rollover (enrolment : Enrolment) (fromSessionId : Uuid) : RolloverRecord where
  uuid := plan.env.rolloverUuid
  institutionId := plan.existing.fromInstitutionId
  learnerId := plan.existing.learnerId
  enrolmentId := some enrolment.uuid
  fromSessionId := fromSessionId
  toSessionId := none
  fromStructureId := plan.existing.fromStructureId.or enrolment.structureScopeId
  toStructureId := none
  decision := .transferredOut
  status := .approved
  reason := plan.input.note.or plan.existing.reason
  createdById := plan.existing.requestedById.or plan.auth.institutionUserId
  approvedById := plan.auth.institutionUserId
  disputeId := none
  approvedAt := some plan.env.now
  disputedAt := none
  disputeResolutionNote := none

end ReviewTransferPlan

/-- A transfer request updated; no two have one rollover record, or one dispute. -/
def updateTransfer (s : Store) (id : Uuid) (f : TransferRequest → TransferRequest)
    (keeps : ∀ r, (f r).uuid = r.uuid) : Except ServiceError (TransferRequest × Store) := do
  let (transfer, transferRequests) ← updateRow s.transferRequests id f keeps
  require (s.transferRequests.rows.all fun other => other.uuid == id ||
    (transfer.rolloverRecordId.all fun linked => other.rolloverRecordId != some linked) &&
      transfer.disputeId.all fun linked => other.disputeId != some linked) .uniqueViolation
  return (transfer, { s with transferRequests := transferRequests })

/-- The source enrolment of a request, still active. -/
def sourceEnrolment (existing : TransferRequest) (s : Store) : Option Enrolment :=
  (existing.fromEnrolmentId.bind s.enrolments.find?).filter fun enrolment =>
    enrolment.institutionId == existing.fromInstitutionId && enrolment.status == .active

/-- The transaction of an approval. -/
def approveTransfer (plan : ReviewTransferPlan) (s : Store) :
    Except ServiceError (TransferRequest × Store) := do
  let enrolment ← orThrow (sourceEnrolment plan.existing s)
    (.badRequest "Active source enrolment is no longer available for transfer.")
  let s ← updateEnrolment s enrolment.uuid plan.transferredOut fun _ => rfl
  -- The column is not nullable: without a session the record cannot be written.
  let fromSessionId ← orThrow (plan.existing.fromSessionId.or enrolment.academicSessionId) .database
  let s ← createRolloverRecord s (plan.rollover enrolment fromSessionId)
  updateTransfer s plan.existing.uuid plan.completed fun _ => rfl

def reviewTransferCommit (plan : ReviewTransferPlan) (s : Store) :
    Except ServiceError (TransferRequest × Store) :=
  match plan.input.decision with
  | .reject => updateTransfer s plan.existing.uuid (plan.closed .rejected) fun _ => rfl
  | .cancel => updateTransfer s plan.existing.uuid (plan.closed .cancelled) fun _ => rfl
  | .approve => approveTransfer plan s

def reviewTransferAudit (plan : ReviewTransferPlan) : AuditEvent :=
  let transferId := ("transferId", some (.str plan.existing.transferId))
  let audit := fun action metadata =>
    transferAudit plan.auth action "TransferRequest" plan.existing.uuid
      plan.existing.fromInstitutionId plan.input.note metadata
  match plan.input.decision with
  | .reject => audit "transfer_request.reject" [transferId]
  | .cancel => audit "transfer_request.cancel" [transferId]
  | .approve => audit "transfer_request.complete"
      [transferId, ("rolloverId", some (.str plan.env.rolloverUuid)),
        ("learnerId", some (.str plan.existing.learnerId))]

/-- A call of `reviewTransferRequest`. -/
structure ReviewTransferCall where
  env : ReviewTransferEnv
  auth : AuthTokenPayload
  id : Uuid
  body : Json

def reviewTransferRequest :
    Method Store ServiceError ReviewTransferCall ReviewTransferPlan TransferRequest where
  check c s := reviewTransferCheck c.env c.auth c.id c.body s
  commit := reviewTransferCommit
  log plan _ s := s.audit (reviewTransferAudit plan)

/-! ### Disputes -/

/-- The request linked to a rollover record. -/
def linkedTransfer (s : Store) (rolloverId : Uuid) : Option TransferRequest :=
  s.transferRequests.rows.find? fun transfer => transfer.rolloverRecordId == some rolloverId

structure DisputeEnv where
  now : Time
  disputeUuid : Uuid

structure DisputePlan where
  env : DisputeEnv
  auth : AuthTokenPayload
  input : RolloverDisputeInput
  rollover : RolloverRecord
  learner : Learner
  transferRequest : Option TransferRequest

def createDisputeCheck (rt : Runtime) (env : DisputeEnv) (auth : AuthTokenPayload)
    (rolloverId : Uuid) (body : Json) (s : Store) : Except ServiceError DisputePlan := do
  let input ← parseBody (createRolloverDisputeSchema rt) body
  let rollover ← orThrow (s.rolloverRecords.find? rolloverId)
    (.badRequest "Rollover record not found.")
  let learner ← orThrow (s.learners.find? rollover.learnerId) .database
  Authority.assertActorCanOperateInstitution auth rollover.institutionId s
  require rollover.disputeId.isNone
    (.badRequest "Rollover record already has an open dispute link.")
  return {
    env := env
    auth := auth
    input := input
    rollover := rollover
    learner := learner
    transferRequest := linkedTransfer s rollover.uuid }

def DisputePlan.dispute (plan : DisputePlan) : Dispute where
  uuid := plan.env.disputeUuid
  title := plan.input.title.getD ("Rollover dispute: " ++ plan.rollover.decision.name)
  description := plan.input.reason
  category := "ROLLOVER"
  priority := plan.input.priority
  status := .open
  institutionId := some plan.rollover.institutionId
  learnerId := some plan.rollover.learnerId
  reporterName := plan.input.reporterName
  reporterEmail := plan.input.reporterEmail
  resolvedAt := none
  resolutionNote := none

/-- What a dispute writes on the request that the check has read. -/
def DisputePlan.disputed (plan : DisputePlan) (snapshot transfer : TransferRequest) :
    TransferRequest :=
  { transfer with
    status := .disputed
    disputeId := some plan.env.disputeUuid
    notes := appendTimelineNote snapshot.notes
      (timelineNote plan.env.now plan.auth "DISPUTED" (some plan.input.reason)) }

/-- The rollover record updated; no two have one dispute. -/
def updateRollover (s : Store) (id : Uuid) (f : RolloverRecord → RolloverRecord)
    (keeps : ∀ r, (f r).uuid = r.uuid) : Except ServiceError Store := do
  let (rollover, rolloverRecords) ← updateRow s.rolloverRecords id f keeps
  require (s.rolloverRecords.rows.all fun other => other.uuid == id ||
    rollover.disputeId.all fun linked => other.disputeId != some linked) .uniqueViolation
  return { s with rolloverRecords := rolloverRecords }

/-- The linked request updated, if the check has read one. -/
def followTransfer (snapshot : Option TransferRequest)
    (f : TransferRequest → TransferRequest → TransferRequest)
    (keeps : ∀ t r, (f t r).uuid = r.uuid) (s : Store) : Except ServiceError Store :=
  match snapshot with
  | some transfer => do
    let (_, s) ← updateTransfer s transfer.uuid (f transfer) (keeps transfer)
    return s
  | none => .ok s

def createDisputeCommit (plan : DisputePlan) (s : Store) :
    Except ServiceError (Dispute × Store) := do
  let disputes ← insertUnique s.disputes plan.dispute
  let s := { s with disputes := disputes }
  let s ← updateRollover s plan.rollover.uuid
    (fun rollover => { rollover with
      disputeId := some plan.env.disputeUuid
      disputedAt := some plan.env.now }) fun _ => rfl
  let s ← followTransfer plan.transferRequest plan.disputed (fun _ _ => rfl) s
  return (plan.dispute, s)

def createDisputeAudit (plan : DisputePlan) : AuditEvent :=
  transferAudit plan.auth "rollover.dispute.create" "RolloverRecord" plan.rollover.uuid
    plan.rollover.institutionId (some plan.input.reason)
    [("disputeId", some (.str plan.env.disputeUuid)),
      ("decision", some (.str plan.rollover.decision.name)),
      ("learnerAin", some (.str plan.learner.ain)),
      ("transferId", plan.transferRequest.map fun transfer => .str transfer.transferId)]

structure ResolvePlan where
  now : Time
  auth : AuthTokenPayload
  resolutionNote : String
  rollover : RolloverRecord
  disputeId : Uuid
  transferRequest : Option TransferRequest

def resolveDisputeCheck (now : Time) (auth : AuthTokenPayload) (rolloverId : Uuid) (body : Json)
    (s : Store) : Except ServiceError ResolvePlan := do
  let resolutionNote ← parseBody resolveRolloverDisputeSchema body
  let rollover ← orThrow (s.rolloverRecords.find? rolloverId)
    (.badRequest "Rollover record not found.")
  Authority.assertActorCanOperateInstitution auth rollover.institutionId s
  let dispute ← orThrow (rollover.disputeId.bind s.disputes.find?)
    (.badRequest "Rollover record does not have a dispute to resolve.")
  return {
    now := now
    auth := auth
    resolutionNote := resolutionNote
    rollover := rollover
    disputeId := dispute.uuid
    transferRequest := linkedTransfer s rollover.uuid }

/-- What a resolution writes on the request that the check has read: it is completed again if it
was disputed then, and has the status it had then if not. -/
def ResolvePlan.resolved (plan : ResolvePlan) (snapshot transfer : TransferRequest) :
    TransferRequest :=
  { transfer with
    status := if snapshot.status = .disputed then .completed else snapshot.status
    notes := appendTimelineNote snapshot.notes
      (timelineNote plan.now plan.auth "RESOLVED" (some plan.resolutionNote)) }

def resolveDisputeCommit (plan : ResolvePlan) (s : Store) :
    Except ServiceError (Dispute × Store) := do
  let (dispute, disputes) ← updateRow s.disputes plan.disputeId
    (fun dispute => { dispute with
      status := .resolved
      resolvedAt := some plan.now
      resolutionNote := some plan.resolutionNote }) fun _ => rfl
  let s := { s with disputes := disputes }
  let s ← updateRollover s plan.rollover.uuid
    (fun rollover => { rollover with disputeResolutionNote := some plan.resolutionNote })
    fun _ => rfl
  let s ← followTransfer plan.transferRequest plan.resolved (fun _ _ => rfl) s
  return (dispute, s)

def resolveDisputeAudit (plan : ResolvePlan) : AuditEvent :=
  transferAudit plan.auth "rollover.dispute.resolve" "RolloverRecord" plan.rollover.uuid
    plan.rollover.institutionId (some plan.resolutionNote)
    [("disputeId", some (.str plan.disputeId)),
      ("transferId", plan.transferRequest.map fun transfer => .str transfer.transferId)]

/-! ### The four operations -/

/-- A call of an operation on transfer requests and disputes. -/
inductive TransferCall where
  | create (env : TransferEnv) (auth : AuthTokenPayload) (body : Json)
  | review (call : ReviewTransferCall)
  | dispute (env : DisputeEnv) (auth : AuthTokenPayload) (rolloverId : Uuid) (body : Json)
  | resolve (now : Time) (auth : AuthTokenPayload) (rolloverId : Uuid) (body : Json)

/-- A call whose checks have passed. -/
inductive TransferPlan where
  | create (plan : CreateTransferPlan)
  | review (plan : ReviewTransferPlan)
  | dispute (plan : DisputePlan)
  | resolve (plan : ResolvePlan)

/-- The row that an operation answers with. -/
inductive TransferResponse where
  | transfer (row : TransferRequest)
  | dispute (row : Dispute)

def transferCheck (rt : Runtime) (call : TransferCall) (s : Store) :
    Except ServiceError TransferPlan :=
  match call with
  | .create env auth body => (createTransferCheck rt env auth body s).map .create
  | .review call => (reviewTransferRequest.check call s).map .review
  | .dispute env auth rolloverId body =>
    (createDisputeCheck rt env auth rolloverId body s).map .dispute
  | .resolve now auth rolloverId body =>
    (resolveDisputeCheck now auth rolloverId body s).map .resolve

def transferCommit (rt : Runtime) (plan : TransferPlan) (s : Store) :
    Except ServiceError (TransferResponse × Store) :=
  match plan with
  | .create plan => (createTransferCommit rt plan s).map fun written => (.transfer written.1, written.2)
  | .review plan =>
    (reviewTransferRequest.commit plan s).map fun written => (.transfer written.1, written.2)
  | .dispute plan => (createDisputeCommit plan s).map fun written => (.dispute written.1, written.2)
  | .resolve plan => (resolveDisputeCommit plan s).map fun written => (.dispute written.1, written.2)

def transferLog (plan : TransferPlan) (res : TransferResponse) (s : Store) : Store :=
  match plan, res with
  | .create plan, .transfer row => s.audit (createTransferAudit plan row)
  | .review plan, .transfer row => reviewTransferRequest.log plan row s
  | .dispute plan, _ => s.audit (createDisputeAudit plan)
  | .resolve plan, _ => s.audit (resolveDisputeAudit plan)
  | _, _ => s

/-- The four operations as one method. -/
def transferMethods (rt : Runtime) :
    Method Store ServiceError TransferCall TransferPlan TransferResponse where
  check := transferCheck rt
  commit := transferCommit rt
  log := transferLog

/-! ### What the transactions write -/

/-- **An updated request** is the only change. -/
theorem updateTransfer_spec {s t : Store} {id : Uuid} {f : TransferRequest → TransferRequest}
    {keeps : ∀ r, (f r).uuid = r.uuid} {transfer : TransferRequest}
    (updated : updateTransfer s id f keeps = .ok (transfer, t)) :
    (∃ old, s.transferRequests.find? id = some old ∧ transfer = f old) ∧
      t = { s with transferRequests := s.transferRequests.update id f keeps } := by
  unfold updateTransfer at updated
  obtain ⟨⟨row, table⟩, written, rest⟩ := bind_eq_ok.mp updated
  obtain ⟨_, -, same⟩ := bind_eq_ok.mp rest
  rw [pure_eq_ok] at same
  obtain ⟨rfl, rfl⟩ := Prod.mk.inj same
  obtain ⟨old, found, rfl, rfl⟩ := updateRow_eq_ok.mp written
  exact ⟨⟨old, found, rfl⟩, rfl⟩

theorem sourceEnrolment_spec {existing : TransferRequest} {s : Store} {enrolment : Enrolment}
    (source : sourceEnrolment existing s = some enrolment) :
    existing.fromEnrolmentId = some enrolment.uuid ∧
      s.enrolments.find? enrolment.uuid = some enrolment ∧ enrolment.status = .active := by
  obtain ⟨found, meets⟩ := Option.filter_eq_some_iff.mp source
  obtain ⟨id, from_, found⟩ := Option.bind_eq_some_iff.mp found
  obtain rfl := Table.find?_key found
  rw [Bool.and_eq_true, beq_iff_eq, beq_iff_eq] at meets
  exact ⟨from_, found, meets.2⟩

/-- **What an approval writes**: the source enrolment, still active, is moved; a rollover record of
it is created, under an id that was free, and linked to the request. -/
theorem approveTransfer_spec {plan : ReviewTransferPlan} {s t : Store} {transfer : TransferRequest}
    (approved : approveTransfer plan s = .ok (transfer, t)) :
    ∃ enrolment fromSessionId rollovers, sourceEnrolment plan.existing s = some enrolment ∧
      plan.existing.fromSessionId.or enrolment.academicSessionId = some fromSessionId ∧
      s.rolloverRecords.insert (plan.rollover enrolment fromSessionId) = some rollovers ∧
      (s.transferRequests.find? plan.existing.uuid).isSome ∧
      t = { s with
        enrolments := s.enrolments.update enrolment.uuid plan.transferredOut fun _ => rfl
        rolloverRecords := rollovers
        transferRequests := s.transferRequests.update plan.existing.uuid plan.completed
          fun _ => rfl } := by
  unfold approveTransfer at approved
  obtain ⟨enrolment, source, rest⟩ := bind_eq_ok.mp approved
  obtain ⟨s₁, moved, rest⟩ := bind_eq_ok.mp rest
  obtain ⟨fromSessionId, ofSession, rest⟩ := bind_eq_ok.mp rest
  obtain ⟨s₂, recorded, rest⟩ := bind_eq_ok.mp rest
  obtain ⟨old, found, -, rfl⟩ := updateEnrolment_eq_ok.mp moved
  obtain ⟨-, -, rollovers, grown, rfl⟩ := createRolloverRecord_eq_ok.mp recorded
  obtain ⟨⟨request, present, -⟩, rfl⟩ := updateTransfer_spec rest
  refine ⟨enrolment, fromSessionId, rollovers, orThrow_eq_ok.mp source, orThrow_eq_ok.mp ofSession,
    grown, ?_, rfl⟩
  rw [show s.transferRequests.find? plan.existing.uuid = some request from present]
  rfl

/-- **What a review writes**: an approval, or the request closed and nothing else. -/
theorem reviewTransferCommit_spec {plan : ReviewTransferPlan} {s t : Store}
    {transfer : TransferRequest} (reviewed : reviewTransferCommit plan s = .ok (transfer, t)) :
    (plan.input.decision = .approve ∧ approveTransfer plan s = .ok (transfer, t)) ∨
      (plan.input.decision ≠ .approve ∧ ∃ status, (status = .rejected ∨ status = .cancelled) ∧
        (s.transferRequests.find? plan.existing.uuid).isSome ∧
        t = { s with
          transferRequests := s.transferRequests.update plan.existing.uuid (plan.closed status)
            fun _ => rfl }) := by
  have close : ∀ status, updateTransfer s plan.existing.uuid (plan.closed status) (fun _ => rfl) =
      .ok (transfer, t) → (s.transferRequests.find? plan.existing.uuid).isSome ∧
        t = { s with
          transferRequests := s.transferRequests.update plan.existing.uuid (plan.closed status)
            fun _ => rfl } := by
    intro status closed
    obtain ⟨⟨old, found, -⟩, is⟩ := updateTransfer_spec closed
    rw [found]
    exact ⟨rfl, is⟩
  unfold reviewTransferCommit at reviewed
  cases decision : plan.input.decision with
  | approve =>
    rw [decision] at reviewed
    exact .inl ⟨rfl, reviewed⟩
  | reject =>
    rw [decision] at reviewed
    exact .inr ⟨by simp, .rejected, .inl rfl, close _ reviewed⟩
  | cancel =>
    rw [decision] at reviewed
    exact .inr ⟨by simp, .cancelled, .inr rfl, close _ reviewed⟩

theorem createTransferCommit_spec {rt : Runtime} {plan : CreateTransferPlan} {s t : Store}
    {transfer : TransferRequest} (created : createTransferCommit rt plan s = .ok (transfer, t)) :
    ∃ transfers, s.transferRequests.insert (newTransfer rt plan) = some transfers ∧
      t = { s with transferRequests := transfers } := by
  unfold createTransferCommit at created
  obtain ⟨_, -, rest⟩ := bind_eq_ok.mp created
  obtain ⟨transfers, inserted, same⟩ := bind_eq_ok.mp rest
  rw [pure_eq_ok] at same
  exact ⟨transfers, orThrow_eq_ok.mp inserted, (Prod.mk.inj same).2.symm⟩

/-- The requests once one is updated, or none. -/
def followed (snapshot : Option TransferRequest)
    (f : TransferRequest → TransferRequest → TransferRequest)
    (keeps : ∀ t r, (f t r).uuid = r.uuid) (transfers : Table TransferRequest.uuid) :
    Table TransferRequest.uuid :=
  match snapshot with
  | some transfer => transfers.update transfer.uuid (f transfer) (keeps transfer)
  | none => transfers

theorem followTransfer_spec {snapshot : Option TransferRequest}
    {f : TransferRequest → TransferRequest → TransferRequest}
    {keeps : ∀ t r, (f t r).uuid = r.uuid} {s t : Store}
    (follows : followTransfer snapshot f keeps s = .ok t) :
    t = { s with transferRequests := followed snapshot f keeps s.transferRequests } := by
  cases snapshot with
  | none => exact (Except.ok.inj follows).symm
  | some transfer =>
    obtain ⟨⟨row, u⟩, updated, same⟩ := bind_eq_ok.mp follows
    rw [pure_eq_ok] at same
    subst same
    exact (updateTransfer_spec updated).2

theorem updateRollover_spec {s t : Store} {id : Uuid} {f : RolloverRecord → RolloverRecord}
    {keeps : ∀ r, (f r).uuid = r.uuid} (updated : updateRollover s id f keeps = .ok t) :
    t = { s with rolloverRecords := s.rolloverRecords.update id f keeps } := by
  unfold updateRollover at updated
  obtain ⟨⟨row, table⟩, written, rest⟩ := bind_eq_ok.mp updated
  obtain ⟨_, -, same⟩ := bind_eq_ok.mp rest
  rw [pure_eq_ok] at same
  obtain ⟨old, found, -, rfl⟩ := updateRow_eq_ok.mp written
  exact same.symm

/-- **What a dispute writes**: itself, and the request that it follows; enrolments stay. -/
theorem createDisputeCommit_spec {plan : DisputePlan} {s t : Store} {dispute : Dispute}
    (created : createDisputeCommit plan s = .ok (dispute, t)) :
    t.enrolments = s.enrolments ∧ t.transferRequests =
        followed plan.transferRequest plan.disputed (fun _ _ => rfl) s.transferRequests ∧
      s.disputes.insert plan.dispute = some t.disputes := by
  unfold createDisputeCommit at created
  obtain ⟨disputes, inserted, rest⟩ := bind_eq_ok.mp created
  obtain ⟨s₁, updated, rest⟩ := bind_eq_ok.mp rest
  obtain ⟨s₂, follows, same⟩ := bind_eq_ok.mp rest
  rw [pure_eq_ok] at same
  obtain ⟨-, rfl⟩ := Prod.mk.inj same
  obtain rfl := updateRollover_spec updated
  obtain rfl := followTransfer_spec follows
  exact ⟨rfl, rfl, orThrow_eq_ok.mp inserted⟩

/-- **What a resolution writes**: the dispute, resolved, and the request that it follows; enrolments
stay. -/
theorem resolveDisputeCommit_spec {plan : ResolvePlan} {s t : Store} {dispute : Dispute}
    (resolved : resolveDisputeCommit plan s = .ok (dispute, t)) :
    t.enrolments = s.enrolments ∧ t.transferRequests =
        followed plan.transferRequest plan.resolved (fun _ _ => rfl) s.transferRequests ∧
      ∃ f keeps, (∀ row : Dispute, (f row).status = .resolved) ∧
        t.disputes = s.disputes.update plan.disputeId f keeps := by
  unfold resolveDisputeCommit at resolved
  obtain ⟨⟨row, disputes⟩, written, rest⟩ := bind_eq_ok.mp resolved
  obtain ⟨s₁, updated, rest⟩ := bind_eq_ok.mp rest
  obtain ⟨s₂, follows, same⟩ := bind_eq_ok.mp rest
  rw [pure_eq_ok] at same
  obtain ⟨-, rfl⟩ := Prod.mk.inj same
  obtain ⟨old, -, -, rfl⟩ := updateRow_eq_ok.mp written
  obtain rfl := updateRollover_spec updated
  obtain rfl := followTransfer_spec follows
  refine ⟨rfl, rfl, fun dispute => { dispute with
    status := .resolved
    resolvedAt := some plan.now
    resolutionNote := some plan.resolutionNote }, fun _ => rfl, fun _ => rfl, rfl⟩

/-- A linked request is one whose link the check has read. -/
theorem linkedTransfer_spec {s : Store} {rolloverId : Uuid} {transfer : TransferRequest}
    (linked : linkedTransfer s rolloverId = some transfer) :
    transfer ∈ s.transferRequests.rows ∧ transfer.rolloverRecordId = some rolloverId :=
  ⟨List.mem_of_find?_eq_some linked, by simpa using List.find?_some linked⟩

end Transfers

end AcadID
