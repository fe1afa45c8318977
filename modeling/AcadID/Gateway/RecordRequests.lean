/-
**Record requests under governance: review, payment, refund, fulfilment.**

Each operation reads the request and checks it, writes in one transaction, and leaves a log entry.
What a transaction writes is computed from the row that the check has read, the snapshot, and
written over the row that is there when the transaction runs.

* `reviewed`, `confirmed`, `refunded` and `fulfilled` — the row an operation writes.
* `reviewCheck`, `confirmCheck`, `refundCheck` and `fulfillCheck` — the checks; the `_spec` lemma of
  each says what it has seen of its snapshot.
-/

import AcadID.Platform.Authority

namespace AcadID

open Lib

namespace RecordRequests

/-! ### Bodies -/

structure ReviewInput where
  status : RecordRequestStatus
  note : Option String
  assignedToId : Option Uuid
  rejectionReason : Option String
  escalationReason : Option String
  resolutionNote : Option String

def recordRequestStatuses : List (String × RecordRequestStatus) :=
  [("SUBMITTED", .submitted), ("AWAITING_PAYMENT", .awaitingPayment), ("ASSIGNED", .assigned),
    ("INSTITUTION_REVIEW", .institutionReview),
    ("NEEDS_MORE_INFORMATION", .needsMoreInformation), ("APPROVED", .approved),
    ("REJECTED", .rejected), ("FULFILLED", .fulfilled), ("DISPUTED", .disputed),
    ("ESCALATED", .escalated), ("CANCELLED", .cancelled)]

open Schema in
def reviewRecordRequestSchema (rt : Runtime) : Schema ReviewInput :=
  object fun v =>
    ReviewInput.mk
      <$> field v "status" (enum recordRequestStatuses)
      <*> field v "note" (optional (string [maxLength 2000]))
      <*> field v "assignedToId" (optional (string [formatted rt.isUuid]))
      <*> field v "rejectionReason" (optional (string [maxLength 1000]))
      <*> field v "escalationReason" (optional (string [maxLength 1000]))
      <*> field v "resolutionNote" (optional (string [maxLength 2000]))

structure ConfirmInput where
  paymentReference : String
  amountMinor : Option ℤ
  currency : String
  paymentProvider : String
  paidAt : Option String
  note : Option String

/-- The largest amount a body may name. -/
def maxAmountMinor : ℚ :=
  100000000

open Schema in
def confirmRecordRequestPaymentSchema (rt : Runtime) : Schema ConfirmInput :=
  object fun v =>
    ConfirmInput.mk
      <$> field v "paymentReference" (string [minLength 3, maxLength 160])
      <*> field v "amountMinor" (optional (integer [positive, atMost maxAmountMinor]))
      <*> field v "currency" (withDefault "NGN" (string [exactLength 3]))
      <*> field v "paymentProvider" (withDefault "PAYSTACK" (string [minLength 2, maxLength 60]))
      <*> field v "paidAt" (optional (string [formatted rt.isDatetime]))
      <*> field v "note" (optional (string [maxLength 1000]))

inductive RefundAction where
  | request
  | confirm
  deriving DecidableEq, Repr

structure RefundInput where
  action : RefundAction
  reason : String
  amountMinor : Option ℤ
  refundReference : Option String
  paymentProvider : Option String
  refundedAt : Option String
  note : Option String

open Schema in
def refundRecordRequestPaymentSchema (rt : Runtime) : Schema RefundInput :=
  object fun v =>
    RefundInput.mk
      <$> field v "action" (withDefault .request (enum
        [("REQUEST", RefundAction.request), ("CONFIRM", .confirm)]))
      <*> field v "reason" (string [minLength 3, maxLength 1000])
      <*> field v "amountMinor" (optional (integer [positive, atMost maxAmountMinor]))
      <*> field v "refundReference" (optional (string [minLength 3, maxLength 160]))
      <*> field v "paymentProvider" (optional (string [minLength 2, maxLength 60]))
      <*> field v "refundedAt" (optional (string [formatted rt.isDatetime]))
      <*> field v "note" (optional (string [maxLength 1000]))

structure FulfillInput where
  credentialType : CredentialType
  note : Option String
  releasePayment : Bool

open Schema in
def fulfillRecordRequestSchema : Schema FulfillInput :=
  object fun v =>
    FulfillInput.mk
      <$> field v "credentialType" (withDefault .transcript (enum
        [("TRANSCRIPT", CredentialType.transcript), ("RESULT_SLIP", .resultSlip),
          ("CERTIFICATE", .certificate)]))
      <*> field v "note" (optional (string [maxLength 2000]))
      <*> field v "releasePayment" (withDefault true boolean)

/-! ### What the operations share -/

/-- What the runtime and the database give a call. -/
structure RequestEnv where
  pick : ℕ
  now : Time
  committedAt : Time
  credentialRef : String
  credentialUuid : Uuid
  ledgerUuid : Uuid

/-- `["REJECTED", "CANCELLED", "FULFILLED"].includes(status)` -/
def isClosed (status : RecordRequestStatus) : Bool :=
  [.rejected, .cancelled, .fulfilled].contains status

def appendRecordRequestNote (existing note : Json) : Json :=
  match existing with
  | .arr notes => .arr (notes ++ [note])
  | _ => .arr [note]

def assertRecordRequestReviewer (auth : AuthTokenPayload) (request : RecordRequest) (s : Store) :
    Except ServiceError Unit :=
  match request.institutionId with
  | some institutionId => Authority.assertActorCanOperateInstitution auth institutionId s
  | none =>
    require (auth.role == .acadidSuperAdmin)
      (.forbidden "Only founder operations can review unassigned record requests.")

/-- The request of a call and the right of its actor to work on it. -/
def readRequest (auth : AuthTokenPayload) (id : Uuid) (s : Store) :
    Except ServiceError RecordRequest := do
  let existing ← orThrow (s.recordRequests.find? id) (.badRequest "Record request not found.")
  assertRecordRequestReviewer auth existing s
  return existing

/-- The credential that a request is fulfilled by. -/
def fulfilledCredential (request : RecordRequest) (s : Store) : Option Credential :=
  request.fulfilledCredentialId.bind s.credentials.find?

/-- A date that a body names, or the clock. -/
def dateOr (rt : Runtime) (text : Option String) (now : Time) : Except ServiceError Time :=
  match text with
  | none => .ok now
  | some text => orThrow (rt.parseDate text) .rangeError

/-- The request updated. -/
def updateRequest (id : Uuid) (f : RecordRequest → RecordRequest)
    (keeps : ∀ request, (f request).uuid = request.uuid) (s : Store) :
    Except ServiceError (RecordRequest × Store) := do
  let (request, recordRequests) ← updateRow s.recordRequests id f keeps
  return (request, { s with recordRequests := recordRequests })

/-- The log entry of an operation on a request. -/
def requestAudit (auth : AuthTokenPayload) (action : String) (targetId : Uuid)
    (institutionId : Option Uuid) (metadata : List (String × Option Json)) : AuditEvent where
  actorType := inferActorType none auth.actorId
  actorId := auth.actorId
  actorRole := auth.actorRole
  action := action
  targetType := "RecordRequest"
  targetId := some targetId
  institutionId := institutionId
  outcome := "SUCCESS"
  reason := none
  metadata := Json.fields (metadata ++ [("apiKeyId", auth.apiKeyId.map .str)])

/-- The entry of a note that every operation makes. -/
def noteBy (at_ : Time) (auth : AuthTokenPayload) (status : String) (note : Option String)
    (more : List (String × Option Json)) : Json :=
  Json.fields
    ([("at", some (.str (Text.toISOString at_))), ("by", some (.str auth.sub)),
      ("role", some (.str auth.role.name)), ("status", some (.str status)),
      ("note", note.map .str)] ++ more)

/-! ### Review -/

structure ReviewPlan where
  now : Time
  auth : AuthTokenPayload
  existing : RecordRequest
  input : ReviewInput

def reviewCheck (rt : Runtime) (env : RequestEnv) (auth : AuthTokenPayload) (id : Uuid)
    (body : Json) (s : Store) : Except ServiceError ReviewPlan := do
  let input ← parseBody (reviewRecordRequestSchema rt) body
  let existing ← readRequest auth id s
  require (input.status != .fulfilled) (.badRequest
    "Use the record request fulfillment endpoint to publish a credential and release payment.")
  return { now := env.now, auth := auth, existing := existing, input := input }

/-- A field that is absent from the data of an update stays as it is. -/
def reviewed (plan : ReviewPlan) (row : RecordRequest) : RecordRequest :=
  { row with
    status := plan.input.status
    notes := appendRecordRequestNote plan.existing.notes
      (noteBy plan.now plan.auth plan.input.status.name plan.input.note [])
    assignedToId := plan.input.assignedToId <|> row.assignedToId
    assignedAt := if plan.input.assignedToId.isSome then some plan.now else row.assignedAt
    rejectionReason :=
      if plan.input.status = .rejected then
        plan.input.rejectionReason <|> plan.input.note <|> row.rejectionReason
      else plan.existing.rejectionReason
    rejectedAt := if plan.input.status = .rejected then some plan.now else row.rejectedAt
    escalationReason :=
      if plan.input.status = .escalated then
        plan.input.escalationReason <|> plan.input.note <|> row.escalationReason
      else plan.existing.escalationReason
    escalatedAt := if plan.input.status = .escalated then some plan.now else row.escalatedAt }

def reviewCommit (plan : ReviewPlan) (s : Store) : Except ServiceError (RecordRequest × Store) :=
  updateRequest plan.existing.uuid (reviewed plan) (fun _ => rfl) s

def reviewAudit (plan : ReviewPlan) (request : RecordRequest) : AuditEvent :=
  requestAudit plan.auth "record_request.review" request.uuid request.institutionId
    [("requestId", some (.str request.requestId)), ("status", some (.str plan.input.status.name))]

/-! ### Confirmation of a payment -/

structure ConfirmPlan where
  auth : AuthTokenPayload
  existing : RecordRequest
  input : ConfirmInput
  expectedAmount : ℤ
  paidAt : Time

def confirmCheck (rt : Runtime) (env : RequestEnv) (auth : AuthTokenPayload) (id : Uuid)
    (body : Json) (s : Store) : Except ServiceError ConfirmPlan := do
  let input ← parseBody (confirmRecordRequestPaymentSchema rt) body
  let existing ← readRequest auth id s
  require (!isClosed existing.status)
    (.badRequest "Payment cannot be confirmed for a closed record request.")
  let expectedAmount ← orThrow ((existing.amountMinor <|> input.amountMinor).filter (0 < ·))
    (.badRequest "Record request does not have a payable amount.")
  require (input.amountMinor.all (expectedAmount ≤ ·))
    (.badRequest "Confirmed payment amount is below the required record request amount.")
  let paidAt ← dateOr rt input.paidAt env.now
  return {
    auth := auth
    existing := existing
    input := input
    expectedAmount := expectedAmount
    paidAt := paidAt }

/-- `existing.status === "AWAITING_PAYMENT" ? "SUBMITTED" : existing.status` -/
def statusOncePaid (status : RecordRequestStatus) : RecordRequestStatus :=
  if status = .awaitingPayment then .submitted else status

def confirmed (plan : ConfirmPlan) (row : RecordRequest) : RecordRequest :=
  { row with
    status := statusOncePaid plan.existing.status
    paymentStatus := .paid
    escrowStatus := .held
    paymentReference := some plan.input.paymentReference
    paymentProvider := some plan.input.paymentProvider
    amountMinor := some plan.expectedAmount
    currency := plan.input.currency
    paymentHeldAt := some plan.paidAt
    notes := appendRecordRequestNote plan.existing.notes
      (noteBy plan.paidAt plan.auth plan.existing.status.name
        (plan.input.note <|> some "Payment confirmed and held in escrow.")
        [("paymentReference", some (.str plan.input.paymentReference))]) }

def confirmCommit (plan : ConfirmPlan) (s : Store) :
    Except ServiceError (RecordRequest × Store) :=
  updateRequest plan.existing.uuid (confirmed plan) (fun _ => rfl) s

def confirmAudit (plan : ConfirmPlan) (request : RecordRequest) : AuditEvent :=
  requestAudit plan.auth "record_request.payment_confirmed" request.uuid request.institutionId
    [("requestId", some (.str request.requestId)),
      ("amountMinor", request.amountMinor.map fun amount => .num amount),
      ("currency", some (.str request.currency)),
      ("paymentProvider", request.paymentProvider.map .str),
      ("escrowStatus", some (.str request.escrowStatus.name))]

/-! ### Refund -/

structure RefundPlan where
  env : RequestEnv
  auth : AuthTokenPayload
  existing : RecordRequest
  input : RefundInput
  refundAmount : ℤ
  now : Time

def refundCheck (rt : Runtime) (env : RequestEnv) (auth : AuthTokenPayload) (id : Uuid)
    (body : Json) (s : Store) : Except ServiceError RefundPlan := do
  let input ← parseBody (refundRecordRequestPaymentSchema rt) body
  let existing ← readRequest auth id s
  require
    (!((fulfilledCredential existing s).isSome || existing.status == .fulfilled ||
      existing.escrowStatus == .released))
    (.badRequest "Fulfilled or released record requests require manual finance review before refund.")
  require (existing.paymentStatus == .paid)
    (.badRequest "Only paid record requests can be refunded.")
  require (input.action != .request || existing.escrowStatus == .held)
    (.badRequest "Only paid record requests held in escrow can enter refund review.")
  require (input.action != .confirm || [.held, .refundPending].contains existing.escrowStatus)
    (.badRequest
      "Only paid record requests held or pending refund can be confirmed as refunded.")
  let refundAmount ← orThrow ((input.amountMinor <|> existing.amountMinor).filter (0 < ·))
    (.badRequest "Refund amount is required.")
  -- An amount of zero is falsy, so it bounds nothing.
  require (existing.amountMinor.all fun paid => paid == 0 || refundAmount ≤ paid)
    (.badRequest "Refund amount cannot exceed the paid record request amount.")
  require (input.action != .confirm || input.refundReference.isSome)
    (.badRequest "Refund reference is required when confirming a refund.")
  let now ← dateOr rt input.refundedAt env.now
  return {
    env := env
    auth := auth
    existing := existing
    input := input
    refundAmount := refundAmount
    now := now }

/-- `parsed.data.action === "CONFIRM"` -/
def RefundPlan.confirms (plan : RefundPlan) : Bool :=
  plan.input.action == .confirm

def refunded (plan : RefundPlan) (row : RecordRequest) : RecordRequest :=
  { row with
    status :=
      if plan.confirms && !([.rejected, .cancelled].contains plan.existing.status) then .cancelled
      else plan.existing.status
    paymentStatus := if plan.confirms then .refunded else plan.existing.paymentStatus
    escrowStatus := if plan.confirms then .refunded else .refundPending
    refundRequestedAt := plan.existing.refundRequestedAt <|> some plan.now
    paymentProvider := plan.input.paymentProvider <|> plan.existing.paymentProvider
    rejectionReason :=
      plan.existing.rejectionReason <|>
        (if plan.confirms then some plan.input.reason else row.rejectionReason)
    resolutionNote := if plan.confirms then some plan.input.reason else plan.existing.resolutionNote
    notes := appendRecordRequestNote plan.existing.notes
      (noteBy plan.now plan.auth (if plan.confirms then "REFUNDED" else "REFUND_PENDING")
        (plan.input.note <|> some plan.input.reason)
        [("reason", some (.str plan.input.reason)), ("amountMinor", some (.num plan.refundAmount)),
          ("refundReference", plan.input.refundReference.map .str)]) }

def refundEntry (plan : RefundPlan) : RevenueLedgerEntry where
  uuid := plan.env.ledgerUuid
  category := .credentialExportFee
  status := .paid
  amountMinor := -plan.refundAmount
  currency := plan.existing.currency
  institutionId := plan.existing.institutionId
  credentialId := none
  verificationEventId := none
  sourceType := "RecordRequestRefund"
  sourceId := some plan.existing.uuid
  description := "Record request payment refunded before credential fulfillment"
  paidAt := some plan.now
  metadata := Json.fields
    [("requestId", some (.str plan.existing.requestId)),
      ("paymentReference", some (Json.ofOption plan.existing.paymentReference)),
      ("refundReference", plan.input.refundReference.map .str),
      ("paymentProvider",
        some (Json.ofOption (plan.input.paymentProvider <|> plan.existing.paymentProvider))),
      ("reason", some (.str plan.input.reason))]

def refundCommit (plan : RefundPlan) (s : Store) : Except ServiceError (RecordRequest × Store) := do
  let (request, s) ← updateRequest plan.existing.uuid (refunded plan) (fun _ => rfl) s
  if plan.confirms then
    let s ← createLedgerEntry s (refundEntry plan)
    return (request, s)
  else return (request, s)

def refundAudit (plan : RefundPlan) (request : RecordRequest) : AuditEvent :=
  requestAudit plan.auth
    (if plan.confirms then "record_request.payment_refunded"
      else "record_request.refund_requested")
    request.uuid request.institutionId
    [("requestId", some (.str request.requestId)), ("amountMinor", some (.num plan.refundAmount)),
      ("currency", some (.str request.currency)),
      ("paymentProvider",
        some (Json.ofOption (plan.input.paymentProvider <|> plan.existing.paymentProvider))),
      ("paymentReference", some (Json.ofOption plan.existing.paymentReference)),
      ("refundReference", plan.input.refundReference.map .str),
      ("escrowStatus", some (.str request.escrowStatus.name)),
      ("paymentStatus", some (.str request.paymentStatus.name))]

/-! ### Fulfilment -/

structure FulfillPlan where
  env : RequestEnv
  auth : AuthTokenPayload
  request : RecordRequest
  input : FulfillInput
  learnerId : Uuid
  institutionId : Uuid
  vcPayload : Json
  signature : String

/-- `shouldReleasePayment` -/
def FulfillPlan.releases (plan : FulfillPlan) : Bool :=
  plan.input.releasePayment && plan.request.paymentStatus == .paid

def historicalPayload (env : RequestEnv) (request : RecordRequest) (learner : Learner)
    (institution : Institution) : Json :=
  .obj
    [("@context", .arr [.str "https://www.w3.org/ns/credentials/v2"]),
      ("id", .str ("urn:uuid:" ++ env.credentialRef)),
      ("type", .arr [.str "VerifiableCredential", .str "AcadIDHistoricalRecordCredential"]),
      ("issuer", .str institution.institutionId),
      ("validFrom", .str (Text.toISOString env.now)),
      ("credentialSubject", .obj
        [("learnerId", .str learner.uuid), ("ain", .str learner.ain),
          ("recordRequestId", .str request.uuid), ("requestId", .str request.requestId),
          ("institutionName", .str institution.officialName),
          ("institutionId", .str institution.institutionId),
          ("educationLevel", .str request.educationLevel),
          ("yearsAttendedFrom", (request.yearsAttendedFrom.map fun y => .num y).getD .null),
          ("yearsAttendedTo", (request.yearsAttendedTo.map fun y => .num y).getD .null),
          ("studentNumber", Json.ofOption request.studentNumber),
          ("departmentOrClass", Json.ofOption request.departmentOrClass),
          ("recordTypesRequested", .arr (request.recordTypesRequested.map .str))])]

def fulfillCheck (rt : Runtime) (env : RequestEnv) (auth : AuthTokenPayload) (id : Uuid)
    (body : Json) (s : Store) : Except ServiceError FulfillPlan := do
  let input ← parseBody fulfillRecordRequestSchema body
  let request ← readRequest auth id s
  let learner ← orThrow (request.learnerId.bind s.learners.find?)
    (.badRequest "Record request must be linked to a learner before fulfillment.")
  let institution ← orThrow (request.institutionId.bind s.institutions.find?)
    (.badRequest "Record request must be assigned to an active institution before fulfillment.")
  require (fulfilledCredential request s).isNone
    (.badRequest "Record request has already been fulfilled.")
  require
    (request.amountMinor.all (· ≤ 0) ||
      [.paid, .waived, .notRequired].contains request.paymentStatus)
    (.badRequest
      "Record request payment must be paid, waived, or not required before fulfillment.")
  require (request.paymentStatus != .paid || request.escrowStatus == .held)
    (.badRequest "Paid record request funds must be held in escrow before fulfillment.")
  let signed := sign rt env.now (historicalPayload env request learner institution)
  return {
    env := env
    auth := auth
    request := request
    input := input
    learnerId := learner.uuid
    institutionId := institution.uuid
    vcPayload := signed.stored
    signature := signed.signature }

def historicalCredential (plan : FulfillPlan) : Credential where
  uuid := plan.env.credentialUuid
  credentialRef := plan.env.credentialRef
  learnerId := plan.learnerId
  institutionId := plan.institutionId
  academicRecordId := none
  recordRequestId := some plan.request.uuid
  type := plan.input.credentialType
  scope := .obj
    [("recordRequestId", .str plan.request.uuid), ("requestId", .str plan.request.requestId),
      ("recordTypesRequested", .arr (plan.request.recordTypesRequested.map .str))]
  vcPayload := plan.vcPayload
  signature := some plan.signature
  status := .active
  issuedAt := plan.env.committedAt
  revokedAt := none
  revocationReason := none

def fulfilled (plan : FulfillPlan) (row : RecordRequest) : RecordRequest :=
  { row with
    status := .fulfilled
    fulfilledAt := some plan.env.now
    fulfilledCredentialId := some plan.env.credentialUuid
    resolutionNote := plan.input.note <|> plan.request.resolutionNote
    escrowStatus := if plan.releases then .released else plan.request.escrowStatus
    paymentReleasedAt :=
      if plan.releases then some plan.env.now else plan.request.paymentReleasedAt
    notes := appendRecordRequestNote plan.request.notes
      (noteBy plan.env.now plan.auth "FULFILLED"
        (plan.input.note <|>
          some "Record request fulfilled and credential published to learner passport.")
        [("credentialRef", some (.str plan.env.credentialRef))]) }

def releaseEntry (plan : FulfillPlan) (amountMinor : ℤ) : RevenueLedgerEntry where
  uuid := plan.env.ledgerUuid
  category := .credentialExportFee
  status := .paid
  amountMinor := amountMinor
  currency := plan.request.currency
  institutionId := plan.request.institutionId
  credentialId := some plan.env.credentialUuid
  verificationEventId := none
  sourceType := "RecordRequest"
  sourceId := some plan.request.uuid
  description := "Record request payment released after credential publication"
  paidAt := some plan.env.now
  metadata := .obj
    [("requestId", .str plan.request.requestId),
      ("paymentReference", Json.ofOption plan.request.paymentReference),
      ("paymentProvider", Json.ofOption plan.request.paymentProvider)]

/-- The amount that a fulfilment releases, if any. -/
def FulfillPlan.released (plan : FulfillPlan) : Option ℤ :=
  if plan.releases then plan.request.amountMinor.filter (0 < ·) else none

def fulfillCommit (plan : FulfillPlan) (s : Store) :
    Except ServiceError ((RecordRequest × Credential) × Store) := do
  let credential := historicalCredential plan
  let s ← createCredential s credential
  let (request, s) ← updateRequest plan.request.uuid (fulfilled plan) (fun _ => rfl) s
  match plan.released with
  | some amountMinor => do
    let s ← createLedgerEntry s (releaseEntry plan amountMinor)
    return ((request, credential), s)
  | none => return ((request, credential), s)

def fulfillAudit (plan : FulfillPlan) (request : RecordRequest) : AuditEvent :=
  requestAudit plan.auth "record_request.fulfill" plan.request.uuid plan.request.institutionId
    [("requestId", some (.str plan.request.requestId)),
      ("credentialRef", some (.str plan.env.credentialRef)),
      ("credentialType", some (.str plan.input.credentialType.name)),
      ("paymentStatus", some (.str request.paymentStatus.name)),
      ("escrowStatus", some (.str request.escrowStatus.name)),
      ("paymentReleased", some (.bool plan.releases))]

/-! ### What the checks have seen -/

theorem readRequest_eq_ok {auth : AuthTokenPayload} {id : Uuid} {s : Store}
    {existing : RecordRequest} :
    readRequest auth id s = .ok existing ↔
      s.recordRequests.find? id = some existing ∧
        assertRecordRequestReviewer auth existing s = .ok () := by
  unfold readRequest
  rw [bind_eq_ok]
  constructor
  · rintro ⟨found, read, rest⟩
    obtain ⟨_, allowed, same⟩ := bind_eq_ok.mp rest
    rw [pure_eq_ok] at same
    subst same
    exact ⟨orThrow_eq_ok.mp read, allowed⟩
  · rintro ⟨found, allowed⟩
    refine ⟨existing, orThrow_eq_ok.mpr found, ?_⟩
    rw [bind_eq_ok]
    exact ⟨(), allowed, rfl⟩

theorem reviewCheck_spec {rt : Runtime} {env : RequestEnv} {auth : AuthTokenPayload} {id : Uuid}
    {body : Json} {s : Store} {plan : ReviewPlan}
    (checked : reviewCheck rt env auth id body s = .ok plan) :
    s.recordRequests.find? id = some plan.existing ∧ plan.input.status ≠ .fulfilled := by
  unfold reviewCheck at checked
  obtain ⟨input, -, rest⟩ := bind_eq_ok.mp checked
  obtain ⟨existing, read, rest⟩ := bind_eq_ok.mp rest
  obtain ⟨_, other, same⟩ := bind_eq_ok.mp rest
  rw [pure_eq_ok] at same
  subst same
  exact ⟨(readRequest_eq_ok.mp read).1, by simpa using require_eq_ok.mp other⟩

/-- **A confirmation passes its checks** exactly when the body parses, the request is there, open
and the actor's to review, and the amount covers what is expected. -/
theorem confirmCheck_eq_ok {rt : Runtime} {env : RequestEnv} {auth : AuthTokenPayload} {id : Uuid}
    {body : Json} {s : Store} {plan : ConfirmPlan} :
    confirmCheck rt env auth id body s = .ok plan ↔
      ∃ input existing expectedAmount paidAt,
        parseBody (confirmRecordRequestPaymentSchema rt) body = .ok input ∧
        readRequest auth id s = .ok existing ∧ isClosed existing.status = false ∧
        (existing.amountMinor <|> input.amountMinor).filter (0 < ·) = some expectedAmount ∧
        input.amountMinor.all (expectedAmount ≤ ·) = true ∧
        dateOr rt input.paidAt env.now = .ok paidAt ∧
        plan = ⟨auth, existing, input, expectedAmount, paidAt⟩ := by
  unfold confirmCheck
  constructor
  · intro checked
    obtain ⟨input, parsed, rest⟩ := bind_eq_ok.mp checked
    obtain ⟨existing, read, rest⟩ := bind_eq_ok.mp rest
    obtain ⟨_, open_, rest⟩ := bind_eq_ok.mp rest
    obtain ⟨expectedAmount, expected, rest⟩ := bind_eq_ok.mp rest
    obtain ⟨_, covered, rest⟩ := bind_eq_ok.mp rest
    obtain ⟨paidAt, dated, same⟩ := bind_eq_ok.mp rest
    rw [pure_eq_ok] at same
    exact ⟨input, existing, expectedAmount, paidAt, parsed, read,
      by simpa using require_eq_ok.mp open_, orThrow_eq_ok.mp expected, require_eq_ok.mp covered,
      dated, same.symm⟩
  · rintro ⟨input, existing, expectedAmount, paidAt, parsed, read, open_, expected, covered, dated,
      rfl⟩
    refine bind_eq_ok.mpr ⟨input, parsed, bind_eq_ok.mpr ⟨existing, read, ?_⟩⟩
    refine bind_eq_ok.mpr ⟨(), require_eq_ok.mpr (by simp [open_]), ?_⟩
    refine bind_eq_ok.mpr ⟨expectedAmount, orThrow_eq_ok.mpr expected, ?_⟩
    refine bind_eq_ok.mpr ⟨(), require_eq_ok.mpr covered, ?_⟩
    exact bind_eq_ok.mpr ⟨paidAt, dated, rfl⟩

/-- An expected amount is positive, and that of the request where it has one. -/
theorem expected_spec {known offered : Option ℤ} {expected : ℤ}
    (found : (known <|> offered).filter (0 < ·) = some expected) :
    0 < expected ∧ ∀ amount, known = some amount → expected = amount := by
  obtain ⟨chosen, positive⟩ := Option.filter_eq_some_iff.mp found
  refine ⟨by simpa using positive, fun amount is => ?_⟩
  rw [is] at chosen
  exact (Option.some.inj chosen).symm

theorem confirmCheck_spec {rt : Runtime} {env : RequestEnv} {auth : AuthTokenPayload} {id : Uuid}
    {body : Json} {s : Store} {plan : ConfirmPlan}
    (checked : confirmCheck rt env auth id body s = .ok plan) :
    s.recordRequests.find? id = some plan.existing ∧ isClosed plan.existing.status = false := by
  obtain ⟨input, existing, expectedAmount, paidAt, -, read, open_, -, -, -, rfl⟩ :=
    confirmCheck_eq_ok.mp checked
  exact ⟨(readRequest_eq_ok.mp read).1, open_⟩

/-- **What the check of a refund has seen**: a paid request, its funds held, not fulfilled. -/
theorem refundCheck_spec {rt : Runtime} {env : RequestEnv} {auth : AuthTokenPayload} {id : Uuid}
    {body : Json} {s : Store} {plan : RefundPlan}
    (checked : refundCheck rt env auth id body s = .ok plan) :
    s.recordRequests.find? id = some plan.existing ∧
      fulfilledCredential plan.existing s = none ∧ plan.existing.status ≠ .fulfilled ∧
      plan.existing.paymentStatus = .paid ∧
      (plan.existing.escrowStatus = .held ∨ plan.existing.escrowStatus = .refundPending) := by
  unfold refundCheck at checked
  obtain ⟨input, -, rest⟩ := bind_eq_ok.mp checked
  obtain ⟨existing, read, rest⟩ := bind_eq_ok.mp rest
  obtain ⟨_, unreleased, rest⟩ := bind_eq_ok.mp rest
  obtain ⟨_, paid, rest⟩ := bind_eq_ok.mp rest
  obtain ⟨_, requested, rest⟩ := bind_eq_ok.mp rest
  obtain ⟨_, pending, rest⟩ := bind_eq_ok.mp rest
  obtain ⟨refundAmount, -, rest⟩ := bind_eq_ok.mp rest
  obtain ⟨-, -, rest⟩ := bind_eq_ok.mp rest
  obtain ⟨-, -, rest⟩ := bind_eq_ok.mp rest
  obtain ⟨now, -, same⟩ := bind_eq_ok.mp rest
  rw [pure_eq_ok] at same
  subst same
  rw [require_eq_ok] at unreleased paid requested pending
  simp only [Bool.not_eq_true', Bool.or_eq_false_iff, beq_eq_false_iff_ne, ne_eq,
    Option.isSome_eq_false_iff, Option.isNone_iff_eq_none] at unreleased
  refine ⟨(readRequest_eq_ok.mp read).1, unreleased.1.1, unreleased.1.2, by simpa using paid, ?_⟩
  cases action : input.action with
  | request =>
    left
    simpa [action] using requested
  | confirm => simpa [action] using pending

theorem refundCheck_input {rt : Runtime} {env : RequestEnv} {auth : AuthTokenPayload} {id : Uuid}
    {body : Json} {s : Store} {plan : RefundPlan}
    (checked : refundCheck rt env auth id body s = .ok plan) :
    parseBody (refundRecordRequestPaymentSchema rt) body = .ok plan.input := by
  unfold refundCheck at checked
  obtain ⟨input, parsed, rest⟩ := bind_eq_ok.mp checked
  obtain ⟨existing, -, rest⟩ := bind_eq_ok.mp rest
  obtain ⟨-, -, rest⟩ := bind_eq_ok.mp rest
  obtain ⟨-, -, rest⟩ := bind_eq_ok.mp rest
  obtain ⟨-, -, rest⟩ := bind_eq_ok.mp rest
  obtain ⟨-, -, rest⟩ := bind_eq_ok.mp rest
  obtain ⟨refundAmount, -, rest⟩ := bind_eq_ok.mp rest
  obtain ⟨-, -, rest⟩ := bind_eq_ok.mp rest
  obtain ⟨-, -, rest⟩ := bind_eq_ok.mp rest
  obtain ⟨now, -, same⟩ := bind_eq_ok.mp rest
  rw [pure_eq_ok] at same
  subst same
  exact parsed

/-- The amount of a refund is positive, and no more than was paid. -/
theorem refundCheck_amount {rt : Runtime} {env : RequestEnv} {auth : AuthTokenPayload} {id : Uuid}
    {body : Json} {s : Store} {plan : RefundPlan}
    (checked : refundCheck rt env auth id body s = .ok plan) :
    0 < plan.refundAmount ∧ ∀ amount, plan.existing.amountMinor = some amount → amount ≠ 0 →
      plan.refundAmount ≤ amount := by
  unfold refundCheck at checked
  obtain ⟨input, -, rest⟩ := bind_eq_ok.mp checked
  obtain ⟨existing, -, rest⟩ := bind_eq_ok.mp rest
  obtain ⟨-, -, rest⟩ := bind_eq_ok.mp rest
  obtain ⟨-, -, rest⟩ := bind_eq_ok.mp rest
  obtain ⟨-, -, rest⟩ := bind_eq_ok.mp rest
  obtain ⟨-, -, rest⟩ := bind_eq_ok.mp rest
  obtain ⟨refundAmount, chosen, rest⟩ := bind_eq_ok.mp rest
  obtain ⟨_, bounded, rest⟩ := bind_eq_ok.mp rest
  obtain ⟨-, -, rest⟩ := bind_eq_ok.mp rest
  obtain ⟨now, -, same⟩ := bind_eq_ok.mp rest
  rw [pure_eq_ok] at same
  subst same
  rw [require_eq_ok] at bounded
  refine ⟨by simpa using (Option.filter_eq_some_iff.mp (orThrow_eq_ok.mp chosen)).2, ?_⟩
  intro amount is positive
  have is : existing.amountMinor = some amount := is
  simpa [is, positive] using bounded

/-- **What the check of a fulfilment has seen**: a request not fulfilled, whose payment, if it was
paid, is held. -/
theorem fulfillCheck_spec {rt : Runtime} {env : RequestEnv} {auth : AuthTokenPayload} {id : Uuid}
    {body : Json} {s : Store} {plan : FulfillPlan}
    (checked : fulfillCheck rt env auth id body s = .ok plan) :
    s.recordRequests.find? id = some plan.request ∧
      fulfilledCredential plan.request s = none ∧
      (plan.request.paymentStatus = .paid → plan.request.escrowStatus = .held) := by
  unfold fulfillCheck at checked
  obtain ⟨input, -, rest⟩ := bind_eq_ok.mp checked
  obtain ⟨request, read, rest⟩ := bind_eq_ok.mp rest
  obtain ⟨learner, -, rest⟩ := bind_eq_ok.mp rest
  obtain ⟨institution, -, rest⟩ := bind_eq_ok.mp rest
  obtain ⟨_, unfulfilled, rest⟩ := bind_eq_ok.mp rest
  obtain ⟨-, -, rest⟩ := bind_eq_ok.mp rest
  obtain ⟨_, held, same⟩ := bind_eq_ok.mp rest
  rw [pure_eq_ok] at same
  subst same
  rw [require_eq_ok] at unfulfilled held
  refine ⟨(readRequest_eq_ok.mp read).1, by simpa using unfulfilled, fun paid => ?_⟩
  have paid : request.paymentStatus = .paid := paid
  simpa [paid] using held

/-- A request with a positive amount is fulfilled once it is paid, waived, or free. -/
theorem fulfillCheck_payment {rt : Runtime} {env : RequestEnv} {auth : AuthTokenPayload} {id : Uuid}
    {body : Json} {s : Store} {plan : FulfillPlan}
    (checked : fulfillCheck rt env auth id body s = .ok plan) (amount : ℤ)
    (is : plan.request.amountMinor = some amount) (positive : 0 < amount) :
    plan.request.paymentStatus = .paid ∨ plan.request.paymentStatus = .waived ∨
      plan.request.paymentStatus = .notRequired := by
  unfold fulfillCheck at checked
  obtain ⟨input, -, rest⟩ := bind_eq_ok.mp checked
  obtain ⟨request, -, rest⟩ := bind_eq_ok.mp rest
  obtain ⟨learner, -, rest⟩ := bind_eq_ok.mp rest
  obtain ⟨institution, -, rest⟩ := bind_eq_ok.mp rest
  obtain ⟨-, -, rest⟩ := bind_eq_ok.mp rest
  obtain ⟨_, payment, rest⟩ := bind_eq_ok.mp rest
  obtain ⟨-, -, same⟩ := bind_eq_ok.mp rest
  rw [pure_eq_ok] at same
  subst same
  have is : request.amountMinor = some amount := is
  rw [require_eq_ok, is] at payment
  simpa [not_le.mpr positive] using payment

theorem paid_of_releases {p : FulfillPlan} (here : p.releases = true) :
    p.request.paymentStatus = .paid := by
  unfold FulfillPlan.releases at here
  simpa using (Bool.and_eq_true_iff.mp here).2

/-! ### What the transactions write -/

theorem updateRequest_eq_ok {id : Uuid} {f : RecordRequest → RecordRequest}
    {keeps : ∀ request, (f request).uuid = request.uuid} {s t : Store} {request : RecordRequest} :
    updateRequest id f keeps s = .ok (request, t) ↔
      ∃ row, s.recordRequests.find? id = some row ∧ request = f row ∧
        t = { s with recordRequests := s.recordRequests.update id f keeps } := by
  unfold updateRequest
  rw [bind_eq_ok]
  constructor
  · rintro ⟨⟨updated, requests⟩, written, same⟩
    obtain ⟨row, found, rfl, rfl⟩ := updateRow_eq_ok.mp written
    rw [pure_eq_ok] at same
    obtain ⟨rfl, rfl⟩ := Prod.mk.inj same
    exact ⟨row, found, rfl, rfl⟩
  · rintro ⟨row, found, rfl, rfl⟩
    exact ⟨_, updateRow_eq_ok.mpr ⟨row, found, rfl, rfl⟩, rfl⟩

/-- **What a refund writes**: the request and, once confirmed, a ledger entry. -/
theorem refundCommit_spec {plan : RefundPlan} {s t : Store} {request : RecordRequest}
    (committed : refundCommit plan s = .ok (request, t)) :
    ∃ row ledger, s.recordRequests.find? plan.existing.uuid = some row ∧
      request = refunded plan row ∧
      ledger.rows = s.revenueLedger.rows ++
        (if plan.confirms then [refundEntry plan] else []) ∧
      t = { s with
        recordRequests := s.recordRequests.update plan.existing.uuid (refunded plan) fun _ => rfl
        revenueLedger := ledger } := by
  unfold refundCommit at committed
  obtain ⟨⟨updated, s'⟩, written, rest⟩ := bind_eq_ok.mp committed
  obtain ⟨row, found, rfl, rfl⟩ := updateRequest_eq_ok.mp written
  simp only at rest
  by_cases confirms : plan.confirms
  · rw [if_pos confirms] at rest
    obtain ⟨s', created, same⟩ := bind_eq_ok.mp rest
    obtain ⟨ledger, rows, rfl⟩ := createLedgerEntry_spec created
    rw [pure_eq_ok] at same
    obtain ⟨rfl, rfl⟩ := Prod.mk.inj same
    exact ⟨row, ledger, found, rfl, by rw [if_pos confirms]; exact rows, rfl⟩
  · rw [if_neg confirms, pure_eq_ok] at rest
    obtain ⟨rfl, rfl⟩ := Prod.mk.inj rest
    exact ⟨row, s.revenueLedger, found, rfl, by rw [if_neg confirms, List.append_nil], rfl⟩

/-- **What a fulfilment writes**: a credential under a free id, the request and, for a release, a
ledger entry. -/
theorem fulfillCommit_spec {plan : FulfillPlan} {s t : Store}
    {written : RecordRequest × Credential} (committed : fulfillCommit plan s = .ok (written, t)) :
    ∃ row credentials ledger, s.recordRequests.find? plan.request.uuid = some row ∧
      written = (fulfilled plan row, historicalCredential plan) ∧
      credentials.rows = s.credentials.rows ++ [historicalCredential plan] ∧
      (∀ other ∈ s.credentials.rows, other.uuid ≠ plan.env.credentialUuid) ∧
      ledger.rows = s.revenueLedger.rows ++ (plan.released.map (releaseEntry plan)).toList ∧
      t = { s with
        credentials := credentials
        recordRequests := s.recordRequests.update plan.request.uuid (fulfilled plan) fun _ => rfl
        revenueLedger := ledger } := by
  unfold fulfillCommit at committed
  obtain ⟨s', created, rest⟩ := bind_eq_ok.mp committed
  obtain ⟨credentials, rows, free, rfl⟩ := createCredential_spec created
  obtain ⟨⟨updated, s'⟩, update, rest⟩ := bind_eq_ok.mp rest
  obtain ⟨row, found, rfl, rfl⟩ := updateRequest_eq_ok.mp update
  cases released : plan.released with
  | some amountMinor =>
    simp only [released] at rest
    obtain ⟨s', entered, same⟩ := bind_eq_ok.mp rest
    obtain ⟨ledger, entries, rfl⟩ := createLedgerEntry_spec entered
    rw [pure_eq_ok] at same
    obtain ⟨rfl, rfl⟩ := Prod.mk.inj same
    exact ⟨row, credentials, ledger, found, rfl, rows, free, entries, rfl⟩
  | none =>
    simp only [released, pure_eq_ok] at rest
    obtain ⟨rfl, rfl⟩ := Prod.mk.inj rest
    exact ⟨row, credentials, s.revenueLedger, found, rfl, rows, free,
      (List.append_nil _).symm, rfl⟩

end RecordRequests

end AcadID
