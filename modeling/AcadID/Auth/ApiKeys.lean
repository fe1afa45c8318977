/-
**API keys, developer access, and the tokens that keys are exchanged for.**

* `createApiKey` asks for approved developer access of the institution; `regenerateApiKey` makes a
  key active again whatever its institution has.
* `keyMethods` — the operations on keys and on developer access requests, and `issueApiToken`, as one
  method.
* `keyCommit_spec` — **what each operation writes**: one key, every active key, or one request.
-/

import AcadID.Auth.Login

namespace AcadID

open Lib

namespace ApiKeys

/-! ### Inputs -/

/-- What a key is created with. -/
structure ApiKeyInput where
  label : String
  scopes : List String
  environment : ApiKeyEnvironment
  rateLimitPerMinute : ℤ
  expiresAt : Option Time

def allowedApiKeyScopes : List String :=
  ["institution:apply", "ingest:write", "govern:write", "access:read", "verify:read",
    "identity:write", "webhook:manage", "*"]

/-- A field of a body that is a string. -/
def stringField (body : Json) (name : String) : Option String :=
  match body.get? name with
  | some (.str value) => some value
  | _ => none

def parseApiKeyInput (rt : Runtime) (body : Json) : Except ServiceError ApiKeyInput := do
  let label := Text.trim ((stringField body "label").getD "")
  require (2 ≤ Text.utf16Length label) (.badRequest "API key label is required.")
  let scopes :=
    match body.get? "scopes" with
    | some (.arr items) => items.filterMap fun
      | .str scope => some scope
      | _ => none
    | _ => []
  require (!scopes.isEmpty && scopes.all allowedApiKeyScopes.contains)
    (.badRequest "API key scopes are invalid.")
  let environment :=
    if stringField body "environment" = some "PRODUCTION" then .production else .sandbox
  let rateLimitPerMinute : ℤ :=
    match body.get? "rateLimitPerMinute" with
    | some (.num q) => if q.isInt then q.num else 100
    | _ => 100
  require (decide (1 ≤ rateLimitPerMinute ∧ rateLimitPerMinute ≤ 10000))
    (.badRequest "API key rate limit must be between 1 and 10000 requests per minute.")
  let expiresAt ← ((stringField body "expiresAt").filter (· ≠ "")).mapM fun text =>
    orThrow (rt.parseDate text) (.badRequest "API key expiry must be a valid date.")
  return {
    label := label
    scopes := scopes
    environment := environment
    rateLimitPerMinute := rateLimitPerMinute
    expiresAt := expiresAt }

def allowedProducts : List String :=
  ["INSTITUTION_PORTAL", "STUDENT_APP", "EMPLOYER_VERIFICATION_PORTAL", "EXAM_BODY_API"]

/-- The code and the name of the product, with what every key is created with. -/
def parseProductApiKeyInput (rt : Runtime) (body : Json) :
    Except ServiceError (String × String × ApiKeyInput) := do
  let parsed ← parseApiKeyInput rt body
  let productCode := rt.toUpperCase (Text.trim ((stringField body "productCode").getD ""))
  let productName := Text.trim ((stringField body "productName").getD "")
  require (allowedProducts.contains productCode)
    (.badRequest ("Product code must be one of INSTITUTION_PORTAL, STUDENT_APP, " ++
      "EMPLOYER_VERIFICATION_PORTAL, or EXAM_BODY_API."))
  require (2 ≤ Text.utf16Length productName) (.badRequest "Product name is required.")
  return (productCode, productName, parsed)

/-- The decisions on a developer access request. -/
inductive AccessDecision where
  | approved
  | rejected
  | suspended
  deriving DecidableEq, Repr

def AccessDecision.status : AccessDecision → DeveloperAccessRequestStatus
  | .approved => .approved
  | .rejected => .rejected
  | .suspended => .suspended

open Schema in
def reviewDeveloperAccessRequestSchema : Schema (Option String) :=
  object fun v => field v "feedback" (optional (string [maxLength 1000]))

/-- The credentials that an API client presents. -/
structure ClientCredentials where
  clientId : Option String
  clientSecret : Option String

/-- What the runtime and the database give a call. -/
structure KeyEnv where
  now : Time
  issuedAt : Time
  uuid : Uuid
  clientRandom : String
  secretRandom : String
  salt : String

inductive KeyCall where
  | createApiKey (env : KeyEnv) (auth : AuthTokenPayload) (institutionId : Uuid) (body : Json)
  | createProductApiKey (env : KeyEnv) (auth : AuthTokenPayload) (body : Json)
  | revokeApiKey (env : KeyEnv) (auth : AuthTokenPayload) (id : Uuid) (reason : Option String)
  | regenerateApiKey (env : KeyEnv) (auth : AuthTokenPayload) (id : Uuid)
  | emergencyLockdown (env : KeyEnv) (auth : AuthTokenPayload) (reason : Option String)
  | reviewDeveloperAccessRequest (env : KeyEnv) (auth : AuthTokenPayload) (id : Uuid)
    (decision : AccessDecision) (feedback : Option Json)
  | issueApiToken (env : KeyEnv) (input : ClientCredentials)

/-- A call whose checks have passed, with the rows they have read. -/
inductive KeyPlan where
  | create (env : KeyEnv) (auth : AuthTokenPayload) (institution : Institution) (input : ApiKeyInput)
  | createProduct (env : KeyEnv) (auth : AuthTokenPayload) (productCode productName : String)
    (input : ApiKeyInput)
  | revoke (env : KeyEnv) (auth : AuthTokenPayload) (id : Uuid) (reason : Option String)
  | regenerate (env : KeyEnv) (auth : AuthTokenPayload) (existing : ApiKey)
  | lockdown (env : KeyEnv) (auth : AuthTokenPayload) (reason : String)
  | review (env : KeyEnv) (auth : AuthTokenPayload) (existing : DeveloperAccessRequest)
    (institution : Institution) (decision : AccessDecision) (feedback : Option String)
  | issue (env : KeyEnv) (apiKey : ApiKey) (institution : Option Institution)

/-- What a call answers with. -/
inductive KeyResponse where
  /-- A key; with the secret, which is shown once, where it is a new one. -/
  | apiKey (row : ApiKey) (clientSecret : Option String)
  | lockdown (revokedApiKeys : ℕ)
  | request (row : DeveloperAccessRequest)
  | token (accessToken : String) (expiresIn : ℤ) (row : ApiKey) (institution : Option Institution)

/-! ### The checks -/

/-- The institution has approved developer access. -/
def hasApprovedAccess (s : Store) (institutionId : Uuid) : Bool :=
  s.developerAccessRequests.rows.any fun request =>
    request.institutionId == institutionId && request.status == .approved

/-- The institution of a key, if it has one. -/
def institutionOf (s : Store) (apiKey : ApiKey) : Option Institution :=
  apiKey.institutionId.bind s.institutions.find?

/-- A key that its client may exchange for a token. -/
def isExchangeable (rt : Runtime) (now : Time) (clientSecret : String) (s : Store)
    (apiKey : ApiKey) : Bool :=
  PasswordService.verify rt clientSecret apiKey.clientSecretHash && apiKey.status == .active &&
    (apiKey.ownerType != .institution ||
      (institutionOf s apiKey).any (·.status == .active)) &&
    apiKey.expiresAt.all (now < ·)

def keyCheck (rt : Runtime) (call : KeyCall) (s : Store) : Except ServiceError KeyPlan :=
  match call with
  | .createApiKey env auth institutionId body => do
    let input ← parseApiKeyInput rt body
    let institution ← orThrow (s.institutions.find? institutionId)
      (.badRequest "Institution not found.")
    require (hasApprovedAccess s institution.uuid)
      (.badRequest ("Institution needs approved developer access before Live Results API keys " ++
        "can be created."))
    return .create env auth institution input
  | .createProductApiKey env auth body => do
    let (productCode, productName, input) ← parseProductApiKeyInput rt body
    return .createProduct env auth productCode productName input
  | .revokeApiKey env auth id reason => .ok (.revoke env auth id reason)
  | .regenerateApiKey env auth id => do
    let existing ← orThrow (s.apiKeys.find? id) (.badRequest "API key not found.")
    return .regenerate env auth existing
  | .emergencyLockdown env auth reason =>
    .ok (.lockdown env auth (((reason.map Text.trim).filter (· ≠ "")).getD
      "Emergency lockdown triggered from Founder Console."))
  | .reviewDeveloperAccessRequest env auth id decision feedback => do
    let feedback ← parseBody reviewDeveloperAccessRequestSchema
      (Json.fields [("feedback", feedback)])
    let existing ← orThrow (s.developerAccessRequests.find? id)
      (.badRequest "Developer access request not found.")
    let institution ← orThrow (s.institutions.find? existing.institutionId) .database
    require (decision == .suspended || existing.status == .pending)
      (.badRequest "Only pending developer access requests can be approved or rejected.")
    require (decision != .suspended || existing.status == .approved)
      (.badRequest "Only approved developer access requests can be suspended.")
    return .review env auth existing institution decision feedback
  | .issueApiToken env input => do
    let clientId ← orThrow (input.clientId.filter (· ≠ ""))
      (.unauthorized "client_id and client_secret are required.")
    let clientSecret ← orThrow (input.clientSecret.filter (· ≠ ""))
      (.unauthorized "client_id and client_secret are required.")
    let apiKey ← orThrow
      ((s.apiKeys.rows.find? (·.clientId == clientId)).filter
        (isExchangeable rt env.now clientSecret s))
      (.unauthorized "Invalid API credentials.")
    return .issue env apiKey (institutionOf s apiKey)

/-! ### The transactions -/

def createClientId (environment : ApiKeyEnvironment) (random : String) : String :=
  (match environment with
    | .production => "ak_live"
    | .sandbox => "ak_sandbox") ++ "_" ++ random

def createClientSecret (environment : ApiKeyEnvironment) (random : String) : String :=
  (match environment with
    | .production => "sk_live"
    | .sandbox => "sk_sandbox") ++ "_" ++ random

/-- A new key, of an institution or of a product. -/
def newApiKey (rt : Runtime) (env : KeyEnv) (auth : AuthTokenPayload) (ownerType : ApiKeyOwnerType)
    (institutionId : Option Uuid) (product : Option (String × String)) (input : ApiKeyInput) :
    ApiKey where
  uuid := env.uuid
  ownerType := ownerType
  institutionId := institutionId
  productCode := product.map (·.1)
  productName := product.map (·.2)
  clientId := createClientId input.environment env.clientRandom
  clientSecretHash := PasswordService.hash rt env.salt
    (createClientSecret input.environment env.secretRandom)
  label := input.label
  scopes := input.scopes
  environment := input.environment
  status := .active
  rateLimitPerMinute := input.rateLimitPerMinute
  expiresAt := input.expiresAt
  lastUsedAt := none
  revokedAt := none
  revokedReason := none
  createdById := some auth.sub

/-- One more key; no other one has its client id. -/
def insertApiKey (apiKey : ApiKey) (s : Store) : Except ServiceError Store := do
  require (s.apiKeys.rows.all (·.clientId != apiKey.clientId)) .uniqueViolation
  let apiKeys ← insertUnique s.apiKeys apiKey
  return { s with apiKeys := apiKeys }

def revokedKey (now : Time) (reason : String) (apiKey : ApiKey) : ApiKey :=
  { apiKey with
    status := .revoked
    revokedAt := some now
    revokedReason := some reason }

/-- A key with another secret: it is active, whatever it was. -/
def regeneratedKey (rt : Runtime) (env : KeyEnv) (environment : ApiKeyEnvironment)
    (apiKey : ApiKey) : ApiKey :=
  { apiKey with
    clientId := createClientId environment env.clientRandom
    clientSecretHash := PasswordService.hash rt env.salt
      (createClientSecret environment env.secretRandom)
    status := .active
    revokedAt := none
    revokedReason := none }

def usedKey (now : Time) (apiKey : ApiKey) : ApiKey :=
  { apiKey with lastUsedAt := some now }

def reviewedAccess (env : KeyEnv) (auth : AuthTokenPayload) (existing : DeveloperAccessRequest)
    (decision : AccessDecision) (feedback : Option String) (request : DeveloperAccessRequest) :
    DeveloperAccessRequest :=
  { request with
    status := decision.status
    reviewFeedback := (feedback.map Text.trim).filter (· ≠ "")
    reviewedById := some auth.sub
    reviewedAt := some env.now
    approvedAt := if decision = .approved then some env.now else existing.approvedAt
    suspendedAt := if decision = .suspended then some env.now else none }

theorem reviewedAccess_uuid (env : KeyEnv) (auth : AuthTokenPayload)
    (existing : DeveloperAccessRequest) (decision : AccessDecision) (feedback : Option String)
    (request : DeveloperAccessRequest) :
    (reviewedAccess env auth existing decision feedback request).uuid = request.uuid := rfl

/-- The payload of an API client's token. -/
def clientPayload (apiKey : ApiKey) (institution : Option Institution) :
    List (String × Option Json) :=
  [("sub", some (.str apiKey.uuid)),
    ("email", some (.str (apiKey.clientId ++ "@api-key.acadid.local"))),
    ("fullName", some (.str apiKey.label)), ("role", some (.str UserRole.registrar.name)),
    ("kind", some (.str "API_KEY")),
    ("institutionId", institution.map fun row => .str row.institutionId),
    ("institutionUuid", institution.map fun row => .str row.uuid),
    ("apiKeyId", some (.str apiKey.uuid)), ("clientId", some (.str apiKey.clientId)),
    ("apiKeyOwnerType", some (.str apiKey.ownerType.name)),
    ("productCode", apiKey.productCode.map .str), ("productName", apiKey.productName.map .str),
    ("scopes", some (.arr (apiKey.scopes.map .str))),
    ("environment", some (.str apiKey.environment.name)),
    ("rateLimitPerMinute", some (.num apiKey.rateLimitPerMinute))]

/-- `TokenService.signApiClient`'s time to live, in seconds. -/
def clientTtlSeconds (apiKey : ApiKey) : ℤ :=
  match apiKey.environment with
  | .production => TokenService.productionApiTokenTtlSeconds
  | .sandbox => TokenService.sandboxApiTokenTtlSeconds

/-- `TokenService.signApiClient` -/
def signApiClient (rt : Runtime) (now : Time) (apiKey : ApiKey) (institution : Option Institution) :
    String :=
  TokenService.sign rt now (clientPayload apiKey institution) (clientTtlSeconds apiKey)

def keyCommit (rt : Runtime) (plan : KeyPlan) (s : Store) : Except ServiceError (KeyResponse × Store) :=
  match plan with
  | .create env auth institution input => do
    let apiKey := newApiKey rt env auth .institution (some institution.uuid) none input
    let s ← insertApiKey apiKey s
    return (.apiKey apiKey (some (createClientSecret input.environment env.secretRandom)), s)
  | .createProduct env auth productCode productName input => do
    let apiKey := newApiKey rt env auth .product none (some (productCode, productName)) input
    let s ← insertApiKey apiKey s
    return (.apiKey apiKey (some (createClientSecret input.environment env.secretRandom)), s)
  | .revoke env _ id reason => do
    let (apiKey, apiKeys) ← updateRow s.apiKeys id
      (revokedKey env.now (reason.getD "Revoked by founder.")) fun _ => rfl
    return (.apiKey apiKey none, { s with apiKeys := apiKeys })
  | .regenerate env _ existing => do
    let clientId := createClientId existing.environment env.clientRandom
    require (s.apiKeys.rows.all fun other =>
      other.uuid == existing.uuid || other.clientId != clientId) .uniqueViolation
    let (apiKey, apiKeys) ← updateRow s.apiKeys existing.uuid
      (regeneratedKey rt env existing.environment) fun _ => rfl
    return (.apiKey apiKey (some (createClientSecret existing.environment env.secretRandom)),
      { s with apiKeys := apiKeys })
  | .lockdown env _ reason =>
    .ok (.lockdown (s.apiKeys.rows.filter (·.status == .active)).length,
      { s with
        apiKeys := s.apiKeys.updateMany (·.status == .active) (revokedKey env.now reason)
          fun _ => rfl })
  | .review env auth existing _ decision feedback => do
    let (request, developerAccessRequests) ← updateRow s.developerAccessRequests existing.uuid
      (reviewedAccess env auth existing decision feedback)
      (reviewedAccess_uuid env auth existing decision feedback)
    return (.request request, { s with developerAccessRequests := developerAccessRequests })
  | .issue env apiKey institution => do
    let (_, apiKeys) ← updateRow s.apiKeys apiKey.uuid (usedKey env.now) fun _ => rfl
    return (.token (signApiClient rt env.issuedAt apiKey institution) (clientTtlSeconds apiKey)
        apiKey institution, { s with apiKeys := apiKeys })

/-! ### The log -/

/-- The log entry of an operation on keys or on developer access. -/
def keyAudit (auth : AuthTokenPayload) (action targetType targetId : String)
    (institutionId : Option Uuid) (reason : Option String) (metadata : Json) : AuditEvent where
  actorType := inferActorType none (some auth.sub)
  actorId := some auth.sub
  actorRole := some auth.role
  action := action
  targetType := targetType
  targetId := some targetId
  institutionId := institutionId
  outcome := "SUCCESS"
  reason := reason
  metadata := metadata

/-- What the log says of a new key. -/
def createdMetadata (apiKey : ApiKey) : Json :=
  Json.fields
    [("clientId", some (.str apiKey.clientId)), ("productCode", apiKey.productCode.map .str),
      ("productName", apiKey.productName.map .str), ("label", some (.str apiKey.label)),
      ("scopes", some (.arr (apiKey.scopes.map .str))),
      ("environment", some (.str apiKey.environment.name)),
      ("rateLimitPerMinute", some (.num apiKey.rateLimitPerMinute))]

def regeneratedMetadata (existing apiKey : ApiKey) : Json :=
  .obj
    [("clientId", .str apiKey.clientId), ("ownerType", .str existing.ownerType.name),
      ("productCode", Json.ofOption existing.productCode),
      ("productName", Json.ofOption existing.productName), ("label", .str existing.label),
      ("environment", .str existing.environment.name)]

def accessAction : AccessDecision → String
  | .approved => "developer_access_request.approved"
  | .rejected => "developer_access_request.rejected"
  | .suspended => "developer_access_request.suspended"

def keyLog (plan : KeyPlan) (res : KeyResponse) (s : Store) : Store :=
  match plan, res with
  | .create _ auth institution _, .apiKey row _ =>
    s.audit (keyAudit auth "api_key.create" "ApiKey" row.uuid (some institution.uuid) none
      (createdMetadata row))
  | .createProduct _ auth _ _ _, .apiKey row _ =>
    s.audit (keyAudit auth "api_key.product.create" "ApiKey" row.uuid none none (createdMetadata row))
  | .revoke _ auth _ reason, .apiKey row _ =>
    s.audit (keyAudit auth "api_key.revoke" "ApiKey" row.uuid row.institutionId reason .null)
  | .regenerate _ auth existing, .apiKey row _ =>
    s.audit (keyAudit auth
      (match existing.ownerType with
        | .product => "api_key.product.regenerate"
        | .institution => "api_key.regenerate")
      "ApiKey" row.uuid row.institutionId none (regeneratedMetadata existing row))
  | .lockdown _ auth reason, .lockdown revokedApiKeys =>
    s.audit (keyAudit auth "founder.emergency_lockdown" "Platform" "api-gateway" none (some reason)
      (.obj [("revokedApiKeys", .num revokedApiKeys)]))
  | .review _ auth existing institution decision feedback, .request _ =>
    s.audit (keyAudit auth (accessAction decision) "DeveloperAccessRequest" existing.uuid
      (some existing.institutionId) feedback
      (.obj
        [("institutionId", .str institution.institutionId),
          ("previousStatus", .str existing.status.name),
          ("nextStatus", .str decision.status.name)]))
  | _, _ => s

/-- The operations on keys and on developer access as one method; an issued token leaves no log
entry. -/
def keyMethods (rt : Runtime) : Method Store ServiceError KeyCall KeyPlan KeyResponse where
  check := keyCheck rt
  commit := keyCommit rt
  log := keyLog

/-! ### What the transactions write -/

theorem insertApiKey_spec {apiKey : ApiKey} {s t : Store} (inserted : insertApiKey apiKey s = .ok t) :
    ∃ apiKeys, s.apiKeys.insert apiKey = some apiKeys ∧ t = { s with apiKeys := apiKeys } := by
  obtain ⟨_, -, rest⟩ := bind_eq_ok.mp inserted
  obtain ⟨apiKeys, new, same⟩ := bind_eq_ok.mp rest
  exact ⟨apiKeys, orThrow_eq_ok.mp new, (pure_eq_ok.mp same).symm⟩

/-- The key that a plan changes in place, and how. -/
def changes (rt : Runtime) : KeyPlan → Option (Uuid × (ApiKey → ApiKey))
  | .revoke env _ id reason => some (id, revokedKey env.now (reason.getD "Revoked by founder."))
  | .regenerate env _ existing =>
    some (existing.uuid, regeneratedKey rt env existing.environment)
  | .issue env apiKey _ => some (apiKey.uuid, usedKey env.now)
  | _ => none

/-- The key that a plan creates. -/
def creates (rt : Runtime) : KeyPlan → Option ApiKey
  | .create env auth institution input =>
    some (newApiKey rt env auth .institution (some institution.uuid) none input)
  | .createProduct env auth productCode productName input =>
    some (newApiKey rt env auth .product none (some (productCode, productName)) input)
  | _ => none

/-- **What each operation writes**: a new key, a key in place, every active key, or a request. -/
theorem keyCommit_spec {rt : Runtime} {plan : KeyPlan} {s t : Store} {res : KeyResponse}
    (written : keyCommit rt plan s = .ok (res, t)) :
    (∃ apiKey apiKeys, creates rt plan = some apiKey ∧ s.apiKeys.insert apiKey = some apiKeys ∧
        t = { s with apiKeys := apiKeys }) ∨
      (∃ id f, ∃ keeps : ∀ k : ApiKey, (f k).uuid = k.uuid, changes rt plan = some (id, f) ∧
        (∃ old, s.apiKeys.find? id = some old) ∧
          t = { s with apiKeys := s.apiKeys.update id f keeps }) ∨
      (∃ env auth reason, plan = .lockdown env auth reason ∧
        t = { s with
          apiKeys := s.apiKeys.updateMany (·.status == .active) (revokedKey env.now reason)
            fun _ => rfl }) ∨
      ∃ env auth existing institution decision feedback,
        plan = .review env auth existing institution decision feedback ∧
          (∃ old, s.developerAccessRequests.find? existing.uuid = some old) ∧
          t = { s with
            developerAccessRequests := s.developerAccessRequests.update existing.uuid
              (reviewedAccess env auth existing decision feedback)
              (reviewedAccess_uuid env auth existing decision feedback) } := by
  cases plan with
  | create env auth institution input =>
    obtain ⟨u, inserted, same⟩ := bind_eq_ok.mp written
    obtain ⟨-, rfl⟩ := Prod.mk.inj (pure_eq_ok.mp same)
    obtain ⟨apiKeys, new, rfl⟩ := insertApiKey_spec inserted
    exact .inl ⟨_, apiKeys, rfl, new, rfl⟩
  | createProduct env auth productCode productName input =>
    obtain ⟨u, inserted, same⟩ := bind_eq_ok.mp written
    obtain ⟨-, rfl⟩ := Prod.mk.inj (pure_eq_ok.mp same)
    obtain ⟨apiKeys, new, rfl⟩ := insertApiKey_spec inserted
    exact .inl ⟨_, apiKeys, rfl, new, rfl⟩
  | revoke env auth id reason =>
    obtain ⟨⟨row, apiKeys⟩, wrote, same⟩ := bind_eq_ok.mp written
    obtain ⟨-, rfl⟩ := Prod.mk.inj (pure_eq_ok.mp same)
    obtain ⟨old, found, -, rfl⟩ := updateRow_eq_ok.mp wrote
    exact .inr (.inl ⟨id, revokedKey env.now (reason.getD "Revoked by founder."), fun _ => rfl, rfl,
      ⟨old, found⟩, rfl⟩)
  | regenerate env auth existing =>
    obtain ⟨_, -, rest⟩ := bind_eq_ok.mp written
    obtain ⟨⟨row, apiKeys⟩, wrote, same⟩ := bind_eq_ok.mp rest
    obtain ⟨-, rfl⟩ := Prod.mk.inj (pure_eq_ok.mp same)
    obtain ⟨old, found, -, rfl⟩ := updateRow_eq_ok.mp wrote
    exact .inr (.inl ⟨existing.uuid, regeneratedKey rt env existing.environment, fun _ => rfl, rfl,
      ⟨old, found⟩, rfl⟩)
  | lockdown env auth reason =>
    obtain ⟨-, rfl⟩ := Prod.mk.inj (Except.ok.inj written)
    exact .inr (.inr (.inl ⟨env, auth, reason, rfl, rfl⟩))
  | review env auth existing institution decision feedback =>
    obtain ⟨⟨row, requests⟩, wrote, same⟩ := bind_eq_ok.mp written
    obtain ⟨-, rfl⟩ := Prod.mk.inj (pure_eq_ok.mp same)
    obtain ⟨old, found, -, rfl⟩ := updateRow_eq_ok.mp wrote
    exact .inr (.inr (.inr ⟨env, auth, existing, institution, decision, feedback, rfl,
      ⟨old, found⟩, rfl⟩))
  | issue env apiKey institution =>
    obtain ⟨⟨row, apiKeys⟩, wrote, same⟩ := bind_eq_ok.mp written
    obtain ⟨-, rfl⟩ := Prod.mk.inj (pure_eq_ok.mp same)
    obtain ⟨old, found, -, rfl⟩ := updateRow_eq_ok.mp wrote
    exact .inr (.inl ⟨apiKey.uuid, usedKey env.now, fun _ => rfl, rfl, ⟨old, found⟩, rfl⟩)

/-- Log entries leave keys and requests as they are. -/
theorem keyLog_frame (plan : KeyPlan) (res : KeyResponse) (s : Store) :
    (keyLog plan res s).apiKeys = s.apiKeys ∧
      (keyLog plan res s).developerAccessRequests = s.developerAccessRequests := by
  cases plan <;> cases res <;> exact ⟨rfl, rfl⟩

end ApiKeys

end AcadID
