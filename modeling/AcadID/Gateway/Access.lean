/-
**Learners ask for records.**

* `createRecordRequestSchema` — the body of a request.
* `firstFree` — a code that no request has, of the six that are drawn.
* `createInvitationLead` — an institution that is not registered becomes a lead, or one more demand
  on the lead that its name already has.
* `createRecordRequestRecord` — the handler: the request, its log entry, and the lead; each of them
  is a write of its own. `createRecordRequest` — the service, under the client's idempotency key if
  there is one.
-/

import AcadID.Gateway.Disclosure
import AcadID.Platform.Idempotency

namespace AcadID

open Lib

namespace Access

open Disclosure (requireLearner)

/-! ### Bodies -/

structure CreateRecordRequestInput where
  learnerId : Option Uuid
  institutionId : Option Uuid
  institutionNameSubmitted : String
  educationLevel : String
  yearsAttendedFrom : Option ℤ
  yearsAttendedTo : Option ℤ
  studentNumber : Option String
  departmentOrClass : Option String
  recordTypesRequested : List String
  proofDocumentUrls : List String
  requesterName : Option String
  requesterEmail : Option String

/-- The years are in order, where both are there. -/
def yearsInOrder (input : CreateRecordRequestInput) : Bool :=
  match input.yearsAttendedFrom, input.yearsAttendedTo with
  | some first, some last => first ≤ last
  | _, _ => true

open Schema in
def createRecordRequestSchema (rt : Runtime) : Schema CreateRecordRequestInput :=
  let year := optional (integer [atLeast 1900, atMost 2100])
  object fun v =>
    (CreateRecordRequestInput.mk
      <$> field v "learnerId" (optional (string [formatted rt.isUuid]))
      <*> field v "institutionId" (optional (string [formatted rt.isUuid]))
      <*> field v "institutionNameSubmitted" (string [minLength 2, maxLength 180])
      <*> field v "educationLevel" (string [minLength 2, maxLength 80])
      <*> field v "yearsAttendedFrom" year
      <*> field v "yearsAttendedTo" year
      <*> field v "studentNumber" (optional (string [minLength 1, maxLength 80]))
      <*> field v "departmentOrClass" (optional (string [minLength 1, maxLength 120]))
      <*> field v "recordTypesRequested"
        (array (string [minLength 2, maxLength 80]) [minItems 1, maxItems 12])
      <*> field v "proofDocumentUrls"
        (withDefault [] (array (string [minLength 3, maxLength 500]) [maxItems 20]))
      <*> field v "requesterName" (optional (string [minLength 2, maxLength 120]))
      <*> field v "requesterEmail"
        (optional (string [formatted rt.isEmail, maxLength 254]))).refine
      yearsInOrder ["yearsAttendedTo"]

/-! ### The request -/

/-- What the runtime and the database give a call. -/
structure AccessEnv where
  now : Time
  codedAt : Time
  createdAt : Time
  requestedAt : Time
  /-- `randomBytes(4).toString("hex").toUpperCase()`, at each attempt. -/
  suffix : ℕ → String
  requestUuid : Uuid
  leadUuid : Uuid
  recordUuid : Uuid

/-- The fee of a request; none unless the environment names a positive one. -/
def recordRequestFeeMinor (rt : Runtime) : ℤ :=
  let named := (rt.env "ACADID_RECORD_REQUEST_FEE_MINOR").filter (· ≠ "")
  ((named.bind rt.parseInt).filter (0 < ·)).getD 0

/-- The learner and the body of a request, before any call to the database. -/
def acceptBody (rt : Runtime) (auth : AuthTokenPayload) (body : Json) :
    Except ServiceError (Uuid × CreateRecordRequestInput) := do
  let learnerId ← requireLearner auth
  let input ← parseBody (createRecordRequestSchema rt) body
  require (input.learnerId.all (· == learnerId))
    (.badRequest "Record request learnerId must match the authenticated learner.")
  return (learnerId, input)

/-- `REQ-${year}-${suffix}` -/
def recordRequestCode (env : AccessEnv) (attempt : ℕ) : String :=
  "REQ-" ++ toString (Text.utcFullYear env.codedAt) ++ "-" ++ env.suffix attempt

def hasCode (code : String) (s : Store) : Bool :=
  s.recordRequests.rows.any fun request => request.requestId = code

/-- The first of the codes that no request has. -/
def firstFree : List String → Db String
  | [] => throw (.badRequest "Could not allocate a record request ID.")
  | code :: codes => do
    let taken ← Db.read fun s => .ok (hasCode code s)
    if taken then firstFree codes else return code

/-- The codes of six attempts. -/
def recordRequestCodes (env : AccessEnv) : List String :=
  (List.range 6).map (recordRequestCode env)

def newRequest (rt : Runtime) (env : AccessEnv) (auth : AuthTokenPayload) (learnerId : Uuid)
    (input : CreateRecordRequestInput) (requestId : String) : RecordRequest where
  uuid := env.requestUuid
  requestId := requestId
  learnerId := some learnerId
  institutionId := input.institutionId
  institutionNameSubmitted := input.institutionNameSubmitted
  educationLevel := input.educationLevel
  yearsAttendedFrom := input.yearsAttendedFrom
  yearsAttendedTo := input.yearsAttendedTo
  studentNumber := input.studentNumber
  departmentOrClass := input.departmentOrClass
  recordTypesRequested := input.recordTypesRequested
  proofDocumentUrls := input.proofDocumentUrls
  status := if 0 < recordRequestFeeMinor rt then .awaitingPayment else .submitted
  paymentStatus := if 0 < recordRequestFeeMinor rt then .pending else .notRequired
  escrowStatus := .none
  paymentReference := none
  paymentProvider := none
  amountMinor := if 0 < recordRequestFeeMinor rt then some (recordRequestFeeMinor rt) else none
  currency := "NGN"
  paymentHeldAt := none
  paymentReleasedAt := none
  refundRequestedAt := none
  assignedToId := none
  fulfilledCredentialId := none
  requesterName := some (input.requesterName.getD auth.fullName)
  requesterEmail := some (input.requesterEmail.getD auth.email)
  rejectionReason := none
  escalationReason := none
  resolutionNote := none
  notes := .arr []
  submittedAt := env.createdAt
  assignedAt := none
  fulfilledAt := none
  rejectedAt := none
  escalatedAt := none

/-- A request under a free id and code, of a learner and an institution that are there; with the
institution, which the call includes. -/
def insertRequest (request : RecordRequest) (s : Store) :
    Except ServiceError (Option Institution × Store) := do
  require (!hasCode request.requestId s) .uniqueViolation
  require (request.learnerId.all fun id => (s.learners.find? id).isSome) .database
  require (request.institutionId.all fun id => (s.institutions.find? id).isSome) .database
  let recordRequests ← insertUnique s.recordRequests request
  return (request.institutionId.bind s.institutions.find?,
    { s with recordRequests := recordRequests })

def accessAudit (auth : AuthTokenPayload) (action targetType : String) (targetId : Uuid)
    (institutionId : Option Uuid) (metadata : Json) : AuditEvent where
  actorType := inferActorType none (some auth.sub)
  actorId := some auth.sub
  actorRole := some auth.role
  action := action
  targetType := targetType
  targetId := some targetId
  institutionId := institutionId
  outcome := "SUCCESS"
  reason := none
  metadata := metadata

def requestAudit (auth : AuthTokenPayload) (request : RecordRequest) : AuditEvent :=
  accessAudit auth "record_request.create" "RecordRequest" request.uuid request.institutionId
    (.obj
      [("requestId", .str request.requestId),
        ("recordTypesRequested", .arr (request.recordTypesRequested.map .str))])

/-! ### The lead -/

/-- `[a-z0-9]` -/
def isLeadChar (c : Char) : Bool :=
  c.isDigit || ('a' ≤ c && c ≤ 'z')

/-- Every run of other characters as one hyphen. -/
def hyphenated : List Char → List Char
  | [] => []
  | c :: cs =>
    if isLeadChar c then c :: hyphenated cs
    else
      match hyphenated cs with
      | '-' :: rest => '-' :: rest
      | rest => '-' :: rest

/-- Hyphens at either end taken away. -/
def unhyphened (cs : List Char) : List Char :=
  ((cs.dropWhile (· == '-')).reverse.dropWhile (· == '-')).reverse

def invitationLeadKey (rt : Runtime) (name : String) : String :=
  let normalized := Text.slice 120 (String.ofList
    (unhyphened (hyphenated (rt.toLowerCase (Text.trim name)).toList)))
  if normalized ≠ "" then normalized else Text.slice 32 (rt.sha256 name)

def findLead (institutionNameKey : String) (s : Store) : Option InvitationLead :=
  s.invitationLeads.rows.find? fun lead => lead.institutionNameKey = institutionNameKey

/-- What a request says about a lead. -/
structure LeadInput where
  now : Time
  leadUuid : Uuid
  institutionName : String
  institutionNameKey : String
  educationLevel : String
  requesterCountIncrement : ℤ
  requestUuid : Uuid
  requestId : String
  metadata : Json

def leadInput (rt : Runtime) (env : AccessEnv) (auth : AuthTokenPayload)
    (input : CreateRecordRequestInput) (request : RecordRequest) : LeadInput where
  now := env.requestedAt
  leadUuid := env.leadUuid
  institutionName := Text.trim input.institutionNameSubmitted
  institutionNameKey := invitationLeadKey rt (Text.trim input.institutionNameSubmitted)
  educationLevel := input.educationLevel
  requesterCountIncrement :=
    if (input.requesterEmail.getD "" ≠ "") ∨ auth.email ≠ "" then 1 else 0
  requestUuid := request.uuid
  requestId := request.requestId
  metadata := .obj
    [("source", .str "record_request"), ("latestEducationLevel", .str input.educationLevel),
      ("latestRequesterEmail", .str (input.requesterEmail.getD auth.email))]

/-- One more demand on a lead, with the columns that are computed from what was read of it. -/
def demanded (input : LeadInput) (existing row : InvitationLead) : InvitationLead :=
  { row with
    demandCount := row.demandCount + 1
    requesterCount := row.requesterCount + input.requesterCountIncrement
    latestRecordRequestId := some input.requestUuid
    latestRecordRequestCode := some input.requestId
    recordRequestIds := (existing.recordRequestIds ++ [input.requestUuid]).eraseDups
    educationLevel := some input.educationLevel
    lastRequestedAt := input.now
    status := if existing.status = .dismissed then .new else existing.status
    metadata := some input.metadata }

def newLead (input : LeadInput) : InvitationLead where
  uuid := input.leadUuid
  institutionName := input.institutionName
  institutionNameKey := input.institutionNameKey
  educationLevel := some input.educationLevel
  demandCount := 1
  requesterCount := input.requesterCountIncrement
  latestRecordRequestId := some input.requestUuid
  latestRecordRequestCode := some input.requestId
  recordRequestIds := [input.requestUuid]
  status := .new
  lastRequestedAt := input.now
  metadata := some input.metadata

/-- The lead updated, or created under a free id and key. -/
def saveLead (input : LeadInput) (existing : Option InvitationLead) (s : Store) :
    Except ServiceError (InvitationLead × Store) :=
  match existing with
  | some existing => do
    let (lead, invitationLeads) ← updateRow s.invitationLeads existing.uuid
      (demanded input existing) fun _ => rfl
    return (lead, { s with invitationLeads := invitationLeads })
  | none => do
    require (findLead input.institutionNameKey s).isNone .uniqueViolation
    let invitationLeads ← insertUnique s.invitationLeads (newLead input)
    return (newLead input, { s with invitationLeads := invitationLeads })

def leadAudit (auth : AuthTokenPayload) (input : LeadInput) (existing : Option InvitationLead)
    (lead : InvitationLead) : AuditEvent :=
  accessAudit auth
    (if existing.isSome then "invitation_lead.update" else "invitation_lead.create")
    "InvitationLead" lead.uuid none
    (.obj
      [("institutionName", .str input.institutionName), ("requestId", .str input.requestId),
        ("demandCount", .num lead.demandCount)])

def createInvitationLead (auth : AuthTokenPayload) (input : LeadInput) : Db InvitationLead := do
  let existing ← Db.read fun s => .ok (findLead input.institutionNameKey s)
  let lead ← Db.transaction (saveLead input existing)
  Db.audit (leadAudit auth input existing lead)
  return lead

/-- A request that names an institution has no lead. -/
def createInvitationLeadForUnregisteredInstitution (rt : Runtime) (env : AccessEnv)
    (auth : AuthTokenPayload) (input : CreateRecordRequestInput) (request : RecordRequest) :
    Db (Option InvitationLead) :=
  if input.institutionId.isSome || request.institutionId.isSome then return none
  else some <$> createInvitationLead auth (leadInput rt env auth input request)

/-! ### The response -/

def timeJson (time : Option Time) : Json :=
  Json.ofOption (time.map Text.toISOString)

def integerJson (value : Option ℤ) : Json :=
  (value.map fun z => Json.num z).getD .null

def institutionJson (institution : Institution) : Json :=
  .obj
    [("uuid", .str institution.uuid), ("institutionId", .str institution.institutionId),
      ("officialName", .str institution.officialName), ("status", .str institution.status.name)]

/-- The row of a new request and what the call includes of others; it has no credential. -/
def requestJson (request : RecordRequest) (institution : Option Institution) : Json :=
  .obj
    [("uuid", .str request.uuid), ("requestId", .str request.requestId),
      ("learnerId", Json.ofOption request.learnerId),
      ("institutionId", Json.ofOption request.institutionId),
      ("institutionNameSubmitted", .str request.institutionNameSubmitted),
      ("educationLevel", .str request.educationLevel),
      ("yearsAttendedFrom", integerJson request.yearsAttendedFrom),
      ("yearsAttendedTo", integerJson request.yearsAttendedTo),
      ("studentNumber", Json.ofOption request.studentNumber),
      ("departmentOrClass", Json.ofOption request.departmentOrClass),
      ("recordTypesRequested", .arr (request.recordTypesRequested.map .str)),
      ("proofDocumentUrls", .arr (request.proofDocumentUrls.map .str)),
      ("status", .str request.status.name), ("paymentStatus", .str request.paymentStatus.name),
      ("escrowStatus", .str request.escrowStatus.name),
      ("paymentReference", Json.ofOption request.paymentReference),
      ("paymentProvider", Json.ofOption request.paymentProvider),
      ("amountMinor", integerJson request.amountMinor), ("currency", .str request.currency),
      ("paymentHeldAt", timeJson request.paymentHeldAt),
      ("paymentReleasedAt", timeJson request.paymentReleasedAt),
      ("refundRequestedAt", timeJson request.refundRequestedAt),
      ("assignedToId", Json.ofOption request.assignedToId),
      ("fulfilledCredentialId", Json.ofOption request.fulfilledCredentialId),
      ("requesterName", Json.ofOption request.requesterName),
      ("requesterEmail", Json.ofOption request.requesterEmail),
      ("rejectionReason", Json.ofOption request.rejectionReason),
      ("escalationReason", Json.ofOption request.escalationReason),
      ("resolutionNote", Json.ofOption request.resolutionNote), ("notes", request.notes),
      ("submittedAt", .str (Text.toISOString request.submittedAt)),
      ("assignedAt", timeJson request.assignedAt), ("fulfilledAt", timeJson request.fulfilledAt),
      ("rejectedAt", timeJson request.rejectedAt),
      ("escalatedAt", timeJson request.escalatedAt),
      ("institution", (institution.map institutionJson).getD .null),
      ("fulfilledCredential", .null)]

def leadJson (lead : InvitationLead) : Json :=
  .obj
    [("uuid", .str lead.uuid), ("institutionName", .str lead.institutionName),
      ("institutionNameKey", .str lead.institutionNameKey),
      ("educationLevel", Json.ofOption lead.educationLevel),
      ("demandCount", .num lead.demandCount), ("requesterCount", .num lead.requesterCount),
      ("latestRecordRequestId", Json.ofOption lead.latestRecordRequestId),
      ("latestRecordRequestCode", Json.ofOption lead.latestRecordRequestCode),
      ("recordRequestIds", .arr (lead.recordRequestIds.map .str)),
      ("status", .str lead.status.name),
      ("lastRequestedAt", .str (Text.toISOString lead.lastRequestedAt)),
      ("metadata", lead.metadata.getD .null)]

def responseJson (request : RecordRequest) (institution : Option Institution)
    (lead : Option InvitationLead) : Json :=
  .obj
    [("accepted", .bool true), ("request", requestJson request institution),
      ("invitationLead", (lead.map leadJson).getD .null)]

/-! ### The service -/

/-- What follows a body that is accepted. -/
def createAccepted (rt : Runtime) (env : AccessEnv) (auth : AuthTokenPayload) (learnerId : Uuid)
    (input : CreateRecordRequestInput) : Db Json := do
  let requestId ← firstFree (recordRequestCodes env)
  let request := newRequest rt env auth learnerId input requestId
  let institution ← Db.transaction (insertRequest request)
  Db.audit (requestAudit auth request)
  let invitationLead ←
    createInvitationLeadForUnregisteredInstitution rt env auth input request
  return responseJson request institution invitationLead

def createRecordRequestRecord (rt : Runtime) (env : AccessEnv) (auth : AuthTokenPayload)
    (body : Json) : Db Json := do
  let (learnerId, input) ← Async.ofExcept (acceptBody rt auth body)
  createAccepted rt env auth learnerId input

def accessInput (auth : AuthTokenPayload) (body : Json) (key : String) :
    Idempotency.IdempotencyInput where
  scope := "access:record_request"
  key := key
  operation := "record_request.create"
  request := body
  auth := some auth
  institutionId := none
  ttlHours := some 72

def createRecordRequest (rt : Runtime) (env : AccessEnv) (auth : AuthTokenPayload) (body : Json)
    (idempotencyKey : Option String) : Db Json :=
  match idempotencyKey.filter (· ≠ "") with
  | some key =>
    Idempotency.execute rt (Idempotency.Stored.json fun _ => none) ⟨env.now, env.recordUuid⟩
      (accessInput auth body key) (createRecordRequestRecord rt env auth body)
  | none => createRecordRequestRecord rt env auth body

/-- A request that comes with a key goes through `execute`. -/
theorem createRecordRequest_keyed {rt : Runtime} {env : AccessEnv} {auth : AuthTokenPayload}
    {body : Json} {key : String} (nonempty : key ≠ "") :
    createRecordRequest rt env auth body (some key) =
      Idempotency.execute rt (Idempotency.Stored.json fun _ => none) ⟨env.now, env.recordUuid⟩
        (accessInput auth body key) (createRecordRequestRecord rt env auth body) := by
  unfold createRecordRequest
  rw [show (some key).filter (· ≠ "") = some key by simp [nonempty]]

/-- A request comes with a key or without. -/
theorem createRecordRequest_cases (rt : Runtime) (env : AccessEnv) (auth : AuthTokenPayload)
    (body : Json) (idempotencyKey : Option String) :
    createRecordRequest rt env auth body idempotencyKey =
        createRecordRequestRecord rt env auth body ∨
      ∃ key, idempotencyKey.filter (· ≠ "") = some key ∧
        createRecordRequest rt env auth body idempotencyKey =
          Idempotency.execute rt (Idempotency.Stored.json fun _ => none) ⟨env.now, env.recordUuid⟩
            (accessInput auth body key) (createRecordRequestRecord rt env auth body) := by
  unfold createRecordRequest
  split
  · exact .inr ⟨_, ‹_›, rfl⟩
  · exact .inl rfl

/-! ### What a call leaves -/

/-- The first of the codes that no request has, and how many are looked up until it is found. -/
def freeCode : List String → Store → Option (String × ℕ)
  | [], _ => none
  | code :: codes, s =>
    if hasCode code s then (freeCode codes s).map fun found => (found.1, found.2 + 1)
    else some (code, 1)

/-- Only the requests are looked at. -/
theorem freeCode_congr {s t : Store} (same : s.recordRequests = t.recordRequests)
    (codes : List String) : freeCode codes s = freeCode codes t := by
  induction codes with
  | nil => rfl
  | cons first codes ih =>
    unfold freeCode hasCode
    rw [same, ih]

theorem mem_of_freeCode {codes : List String} {s : Store} {code : String} {n : ℕ}
    (free : freeCode codes s = some (code, n)) : code ∈ codes := by
  induction codes generalizing n with
  | nil => exact absurd free (by simp [freeCode])
  | cons first codes ih =>
    unfold freeCode at free
    by_cases taken : hasCode first s
    · rw [if_pos taken, Option.map_eq_some_iff] at free
      obtain ⟨⟨code', m⟩, found, same⟩ := free
      obtain ⟨rfl, -⟩ := Prod.mk.inj same
      exact List.mem_cons_of_mem _ (ih found)
    · rw [if_neg taken] at free
      obtain ⟨rfl, -⟩ := Prod.mk.inj (Option.some.inj free)
      exact List.mem_cons_self

theorem hasCode_of_freeCode {codes : List String} {s : Store} {code : String} {n : ℕ}
    (free : freeCode codes s = some (code, n)) : hasCode code s = false := by
  induction codes generalizing n with
  | nil => exact absurd free (by simp [freeCode])
  | cons first codes ih =>
    unfold freeCode at free
    by_cases taken : hasCode first s
    · rw [if_pos taken, Option.map_eq_some_iff] at free
      obtain ⟨⟨code', m⟩, found, same⟩ := free
      obtain ⟨rfl, -⟩ := Prod.mk.inj same
      exact ih found
    · rw [if_neg taken] at free
      obtain ⟨rfl, -⟩ := Prod.mk.inj (Option.some.inj free)
      simpa using taken

/-- A code is found only if it is free, and the store stays. -/
theorem firstFree_ensures (codes : List String) (s : Store) :
    (firstFree codes).Ensures s fun r t =>
      t = s ∧ ∀ code, r = .ok code → ∃ n, freeCode codes s = some (code, n) := by
  induction codes with
  | nil => exact Async.ensures_throw ⟨rfl, fun code same => absurd same (by simp)⟩
  | cons first codes ih =>
    refine Async.ensures_bind (Async.ensures_query ⟨rfl, fun code same => absurd same (by simp)⟩ ?_)
    show (if hasCode first s then firstFree codes else pure first : Db String).Ensures s _
    unfold freeCode
    by_cases taken : hasCode first s
    · rw [if_pos taken, if_pos taken]
      refine ih.mono fun r t after => ⟨after.1, fun code same => ?_⟩
      obtain ⟨n, found⟩ := after.2 code same
      exact ⟨n + 1, by rw [found]; rfl⟩
    · rw [if_neg taken, if_neg taken]
      refine Async.ensures_pure ⟨rfl, fun code same => ⟨1, ?_⟩⟩
      rw [Except.ok.inj same]

/-- **An inserted request** is one more row, of a learner and an institution that are there. -/
theorem insertRequest_eq_ok {request : RecordRequest} {s t : Store}
    {institution : Option Institution} :
    insertRequest request s = .ok (institution, t) ↔
      hasCode request.requestId s = false ∧
      (request.learnerId.all fun id => (s.learners.find? id).isSome) = true ∧
      (request.institutionId.all fun id => (s.institutions.find? id).isSome) = true ∧
      institution = request.institutionId.bind s.institutions.find? ∧
      ∃ requests, s.recordRequests.insert request = some requests ∧
        t = { s with recordRequests := requests } := by
  unfold insertRequest insertUnique
  constructor
  · intro inserted
    obtain ⟨_, free, inserted⟩ := bind_eq_ok.mp inserted
    obtain ⟨_, learner, inserted⟩ := bind_eq_ok.mp inserted
    obtain ⟨_, school, inserted⟩ := bind_eq_ok.mp inserted
    obtain ⟨requests, grown, same⟩ := bind_eq_ok.mp inserted
    obtain ⟨rfl, rfl⟩ := Prod.mk.inj (pure_eq_ok.mp same)
    rw [require_eq_ok, Bool.not_eq_true'] at free
    exact ⟨free, require_eq_ok.mp learner, require_eq_ok.mp school, rfl, requests,
      orThrow_eq_ok.mp grown, rfl⟩
  · rintro ⟨free, learner, school, rfl, requests, grown, rfl⟩
    refine bind_eq_ok.mpr ⟨(), require_eq_ok.mpr (by rw [free]; rfl), ?_⟩
    refine bind_eq_ok.mpr ⟨(), require_eq_ok.mpr learner, ?_⟩
    refine bind_eq_ok.mpr ⟨(), require_eq_ok.mpr school, ?_⟩
    exact bind_eq_ok.mpr ⟨requests, orThrow_eq_ok.mpr grown, rfl⟩

/-- What a call may do to the requests and the credentials: one more request, as it is created. -/
def Adds (rt : Runtime) (env : AccessEnv) (auth : AuthTokenPayload) (s t : Store) : Prop :=
  t.credentials = s.credentials ∧
    (t.recordRequests = s.recordRequests ∨
      ∃ learnerId input code, s.recordRequests.insert
        (newRequest rt env auth learnerId input code) = some t.recordRequests)

theorem demanded_uuid (input : LeadInput) (e row : InvitationLead) :
    (demanded input e row).uuid = row.uuid := rfl

/-- A lead that is there is updated, whatever was read of it. -/
theorem saveLead_found {input : LeadInput} {e row : InvitationLead} {s : Store}
    (there : s.invitationLeads.find? e.uuid = some row) :
    saveLead input (some e) s = .ok (demanded input e row,
      { s with invitationLeads :=
          s.invitationLeads.update e.uuid (demanded input e) (demanded_uuid input e) }) :=
  bind_eq_ok.mpr ⟨_, updateRow_eq_ok.mpr ⟨row, there, rfl, rfl⟩, rfl⟩

/-- A lead that is not there is created. -/
theorem saveLead_absent {input : LeadInput} {s : Store}
    (absent : findLead input.institutionNameKey s = none) :
    saveLead input none s = (insertUnique s.invitationLeads (newLead input)).map fun leads =>
      (newLead input, { s with invitationLeads := leads }) := by
  unfold saveLead
  rw [absent]
  show (insertUnique s.invitationLeads (newLead input) >>= _) = _
  cases insertUnique s.invitationLeads (newLead input) with
  | ok leads => rfl
  | error e => rfl

/-- The lead and the log leave requests and credentials as they are. -/
theorem createInvitationLead_ensures (auth : AuthTokenPayload) (input : LeadInput) (s : Store) :
    (createInvitationLead auth input).Ensures s fun _ t =>
      t.recordRequests = s.recordRequests ∧ t.credentials = s.credentials := by
  unfold createInvitationLead
  refine Async.ensures_bind (Async.ensures_query ⟨rfl, rfl⟩ ?_)
  refine Async.ensures_bind (Async.ensures_transaction ⟨rfl, rfl⟩ (fun e _ => ⟨rfl, rfl⟩) ?_)
  intro lead t saved
  have kept : t.recordRequests = s.recordRequests ∧ t.credentials = s.credentials := by
    unfold saveLead at saved
    split at saved
    · obtain ⟨⟨row, leads⟩, -, same⟩ := bind_eq_ok.mp saved
      obtain ⟨-, rfl⟩ := Prod.mk.inj (pure_eq_ok.mp same)
      exact ⟨rfl, rfl⟩
    · obtain ⟨_, -, rest⟩ := bind_eq_ok.mp saved
      obtain ⟨leads, -, same⟩ := bind_eq_ok.mp rest
      obtain ⟨-, rfl⟩ := Prod.mk.inj (pure_eq_ok.mp same)
      exact ⟨rfl, rfl⟩
  exact Async.ensures_bind (Db.ensures_audit kept (Async.ensures_pure kept))

theorem leads_ensures (rt : Runtime) (env : AccessEnv) (auth : AuthTokenPayload)
    (input : CreateRecordRequestInput) (request : RecordRequest) (s : Store) :
    (createInvitationLeadForUnregisteredInstitution rt env auth input request).Ensures s fun _ t =>
      t.recordRequests = s.recordRequests ∧ t.credentials = s.credentials := by
  unfold createInvitationLeadForUnregisteredInstitution
  by_cases registered : input.institutionId.isSome || request.institutionId.isSome
  · rw [if_pos registered]
    exact Async.ensures_pure ⟨rfl, rfl⟩
  · rw [if_neg registered]
    show (createInvitationLead auth _ >>= fun lead => pure (some lead) : Db _).Ensures s _
    refine Async.ensures_bind ((createInvitationLead_ensures auth _ s).mono fun r t after => ?_)
    cases r with
    | error e => exact after
    | ok lead => exact Async.ensures_pure after

/-- **The handler of a record request** adds a request, or none. -/
theorem createRecordRequestRecord_ensures (rt : Runtime) (env : AccessEnv)
    (auth : AuthTokenPayload) (body : Json) (s : Store) :
    (createRecordRequestRecord rt env auth body).Ensures s fun _ t => Adds rt env auth s t := by
  have none_ : Adds rt env auth s s := ⟨rfl, .inl rfl⟩
  unfold createRecordRequestRecord
  cases acceptBody rt auth body with
  | error e => exact Async.ensures_bind (Async.ensures_throw none_)
  | ok both =>
    obtain ⟨learnerId, input⟩ := both
    refine Async.ensures_bind (Async.ensures_pure ?_)
    refine Async.ensures_bind ((firstFree_ensures _ _).mono fun r t after => ?_)
    obtain ⟨rfl, -⟩ := after
    cases r with
    | error e => exact none_
    | ok code =>
      refine Async.ensures_bind (Async.ensures_transaction none_ (fun e _ => none_) ?_)
      intro institution u inserted
      obtain ⟨-, -, -, -, requests, grown, rfl⟩ := insertRequest_eq_ok.mp inserted
      have added : Adds rt env auth t { t with recordRequests := requests } :=
        ⟨rfl, .inr ⟨learnerId, input, code, grown⟩⟩
      refine Async.ensures_bind (Db.ensures_audit added ?_)
      refine Async.ensures_bind ((leads_ensures rt env auth input _ _).mono fun r w after => ?_)
      have kept : Adds rt env auth t w := by
        refine ⟨after.2, .inr ⟨learnerId, input, code, ?_⟩⟩
        rw [after.1]
        exact grown
      cases r with
      | error e => exact kept
      | ok lead => exact Async.ensures_pure kept

/-- **A call** adds a request, or none. -/
theorem createRecordRequest_ensures (rt : Runtime) (env : AccessEnv) (auth : AuthTokenPayload)
    (body : Json) (key : Option String) (s : Store) :
    (createRecordRequest rt env auth body key).Ensures s fun _ t => Adds rt env auth s t := by
  unfold createRecordRequest
  split
  · refine Idempotency.execute_ensures (fun _ _ added => added) ⟨rfl, .inl rfl⟩ fun r => ?_
    exact createRecordRequestRecord_ensures rt env auth body _
  · exact createRecordRequestRecord_ensures rt env auth body s

end Access

end AcadID
