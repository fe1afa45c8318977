/-
**Verification: share links, credential references and identity numbers.**

Each of the three reads a credential or a learner, writes a verification event with the outcome it
records, and answers with an outcome that it decides in an expression of its own.

* `verifyToken`, `verifyReference` and `lookupAin` — the programs; `bulkVerify` runs the last two
  over lists of identifiers.
* `cryptographicStatus` — whether a stored signature verifies against the stored payload.
-/

import AcadID.Platform.Authority
import AcadID.Platform.Signing

namespace AcadID

open Lib

namespace Verification

structure VerificationContext where
  ipAddress : Option String
  verifierName : Option String
  verifierEmail : Option String

/-- What the runtime and the database give a verification. -/
structure VerifyEnv where
  now : Time
  eventUuid : Uuid
  ledgerUuid : Uuid
  /-- AES-256-GCM of a text under the configured key, with a nonce drawn for it. -/
  encrypt : String → String

/-- What a verification is answered with: its outcome, and the other fields. -/
structure VerificationResult where
  outcome : VerificationOutcome
  fields : List (String × Json)
  deriving DecidableEq

/-! ### Helpers -/

def normalizeIdentifier (value : String) : String :=
  Text.slice 120 (Text.trim value)

def hashOptional (rt : Runtime) (value : Option String) : Option String :=
  ((value.map Text.trim).filter (· ≠ "")).map rt.sha256

def encryptOptional (rt : Runtime) (env : VerifyEnv) (value : Option String) : Option String :=
  ((value.map fun text => rt.toLowerCase (Text.trim text)).filter (· ≠ "")).map env.encrypt

def verificationFeeMinor (rt : Runtime) : ℤ :=
  match (rt.env "ACADID_VERIFICATION_FEE_MINOR").filter (· ≠ "") with
  | none => 0
  | some raw => ((rt.parseInt raw).filter (0 < ·)).getD 0

def unsignedPayload : Json → Json
  | .obj fs => .obj (fs.filter fun f => f.1 ≠ "proof")
  | payload => payload

inductive CryptographicStatus where
  | valid
  | invalid
  deriving DecidableEq, Repr

def CryptographicStatus.name : CryptographicStatus → String
  | .valid => "VALID"
  | .invalid => "INVALID"

/-- Whether the signature of a credential verifies against its payload. -/
def cryptographicStatus (rt : Runtime) (vcPayload : Json) (signature : Option String) :
    CryptographicStatus :=
  match signature.filter (· ≠ "") with
  | some jws => if verify rt (unsignedPayload vcPayload) jws then .valid else .invalid
  | none => .invalid

def publicReferenceCredential (credential : Credential) (institution : Institution) : Json :=
  .obj
    [("credentialRef", .str credential.credentialRef), ("status", .str credential.status.name),
      ("issuedAt", .str (Text.toISOString credential.issuedAt)),
      ("revokedAt", Json.ofOption (credential.revokedAt.map Text.toISOString)),
      ("revocationReason", Json.ofOption credential.revocationReason),
      ("signature", Json.ofOption credential.signature), ("vcPayload", credential.vcPayload),
      ("institution", .obj
        [("institutionId", .str institution.institutionId),
          ("officialName", .str institution.officialName)])]

def deniedReason (now : Time) (accessGrant : AccessGrant) : Option String :=
  if accessGrant.revokedAt.isSome then some "Verification link has been revoked."
  else if accessGrant.expiresAt.any (· ≤ now) then some "Verification link has expired."
  else if accessGrant.maxViews.any (· ≤ accessGrant.viewCount) then
    some "Verification link view limit has been reached."
  else none

def scopeCredential (scope : AccessGrantScope) (credential : Credential) (learner : Learner)
    (institution : Institution) : Json :=
  let base :=
    [("credentialRef", .str credential.credentialRef), ("type", .str credential.type.name),
      ("status", .str credential.status.name),
      ("issuedAt", .str (Text.toISOString credential.issuedAt)),
      ("institution", .obj
        [("institutionId", .str institution.institutionId),
          ("officialName", .str institution.officialName)]),
      ("learner", .obj [("ain", .str learner.ain), ("fullName", .str learner.fullName)])]
  if scope = .full then .obj (base ++ [("vcPayload", credential.vcPayload)])
  else .obj (base ++ [("scope", .str scope.name), ("credentialSummary", credential.scope)])

/-! ### What a verification writes -/

def newEvent (rt : Runtime) (env : VerifyEnv) (context : VerificationContext)
    (credentialId : Uuid) (accessGrantId : Option Uuid) (verifierType : String)
    (verifierName : Option String) (outcome : VerificationOutcome) (scopeViewed : Json) :
    VerificationEvent where
  uuid := env.eventUuid
  credentialId := credentialId
  accessGrantId := accessGrantId
  verifierType := verifierType
  verifierName := verifierName
  verifierEmailEncrypted := encryptOptional rt env context.verifierEmail
  ipAddressHash := hashOptional rt context.ipAddress
  outcome := outcome
  scopeViewed := scopeViewed

def createEvent (event : VerificationEvent) (s : Store) : Except ServiceError Store := do
  let verificationEvents ← insertUnique s.verificationEvents event
  return { s with verificationEvents := verificationEvents }

def recordVerificationRevenue (rt : Runtime) (env : VerifyEnv) (credentialId : Uuid)
    (institutionId : Uuid) (description : String) (s : Store) : Except ServiceError Store :=
  let amountMinor := verificationFeeMinor rt
  if amountMinor ≤ 0 then .ok s
  else
    createLedgerEntry s
      { uuid := env.ledgerUuid
        category := .verificationFee
        status := .billable
        amountMinor := amountMinor
        currency := "NGN"
        institutionId := some institutionId
        credentialId := some credentialId
        verificationEventId := some env.eventUuid
        sourceType := "VerificationEvent"
        sourceId := some env.eventUuid
        description := description
        paidAt := none
        metadata := .obj [("configuredBy", .str "ACADID_VERIFICATION_FEE_MINOR")] }

/-- One event, and an answer. -/
def recorded (event : VerificationEvent) (result : VerificationResult) (s : Store) :
    Except ServiceError (VerificationResult × Store) := do
  let s ← createEvent event s
  return (result, s)

/-! ### Share links -/

/-- What a share link leads to. -/
inductive TokenPlan where
  | notFound
  | denied (accessGrant : AccessGrant) (reason : String)
  | inactive (accessGrant : AccessGrant) (credential : Credential)
  | confirmed (accessGrant : AccessGrant) (credential : Credential) (scopeViewed : Json)

def accessGrantByToken (rt : Runtime) (token : String) (s : Store) : Option AccessGrant :=
  s.accessGrants.rows.find? fun accessGrant => accessGrant.tokenHash == rt.sha256 token

def tokenCheck (rt : Runtime) (env : VerifyEnv) (token : String) (s : Store) :
    Except ServiceError TokenPlan :=
  match accessGrantByToken rt token s with
  | none => .ok .notFound
  | some accessGrant => do
    let credential ← orThrow (s.credentials.find? accessGrant.credentialId) .database
    let learner ← orThrow (s.learners.find? credential.learnerId) .database
    let institution ← orThrow (s.institutions.find? credential.institutionId) .database
    match deniedReason env.now accessGrant with
    | some reason => return .denied accessGrant reason
    | none =>
      if credential.status ≠ .active then return .inactive accessGrant credential
      else
        return .confirmed accessGrant credential
          (scopeCredential accessGrant.scope credential learner institution)

/-- `viewCount: { increment: 1 }` -/
def viewed (accessGrant : AccessGrant) : AccessGrant :=
  { accessGrant with viewCount := accessGrant.viewCount + 1 }

@[simp] theorem viewed_uuid (accessGrant : AccessGrant) :
    (viewed accessGrant).uuid = accessGrant.uuid := rfl

/-- The counting transaction of a disclosure. -/
def disclose (rt : Runtime) (env : VerifyEnv) (context : VerificationContext)
    (accessGrant : AccessGrant) (credential : Credential) (scopeViewed : Json) (s : Store) :
    Except ServiceError (VerificationResult × Store) := do
  let (_, accessGrants) ← updateRow s.accessGrants accessGrant.uuid viewed viewed_uuid
  let s ← createEvent
    (newEvent rt env context credential.uuid (some accessGrant.uuid) "SHARE_LINK"
      (context.verifierName <|> some accessGrant.recipientLabel) .confirmed scopeViewed)
    { s with accessGrants := accessGrants }
  let s ← recordVerificationRevenue rt env credential.uuid credential.institutionId
    "Share-link credential verification fee" s
  return (⟨.confirmed, [("credential", scopeViewed)]⟩, s)

def tokenCommit (rt : Runtime) (env : VerifyEnv) (context : VerificationContext)
    (plan : TokenPlan) (s : Store) : Except ServiceError (VerificationResult × Store) :=
  match plan with
  | .notFound => .ok (⟨.denied, [("reason", .str "Verification link not found.")]⟩, s)
  | .denied accessGrant reason =>
    recorded
      (newEvent rt env context accessGrant.credentialId (some accessGrant.uuid) "SHARE_LINK"
        context.verifierName .denied (.obj []))
      ⟨.denied, [("reason", .str reason)]⟩ s
  | .inactive accessGrant credential =>
    recorded
      (newEvent rt env context credential.uuid (some accessGrant.uuid) "SHARE_LINK"
        context.verifierName .revoked (.obj []))
      ⟨if credential.status = .revoked then .revoked else .denied,
        [("reason", .str credential.status.name)]⟩ s
  | .confirmed accessGrant credential scopeViewed =>
    disclose rt env context accessGrant credential scopeViewed s

def verifyToken (rt : Runtime) (env : VerifyEnv) (token : String)
    (context : VerificationContext) : Db VerificationResult := do
  match ← Db.read (tokenCheck rt env token) with
  | .notFound => return ⟨.denied, [("reason", .str "Verification link not found.")]⟩
  | plan => Db.transaction (tokenCommit rt env context plan)

/-! ### Credential references -/

/-- A credential with its institution, which the schema requires. -/
def readReference (refnum : String) (s : Store) :
    Except ServiceError (Option (Credential × Institution)) :=
  match s.credentials.rows.find? fun credential => credential.credentialRef == refnum with
  | none => .ok none
  | some credential => do
    let institution ← orThrow (s.institutions.find? credential.institutionId) .database
    return some (credential, institution)

def verifyReference (rt : Runtime) (env : VerifyEnv) (refnum : String)
    (context : VerificationContext) : Db VerificationResult := do
  match ← Db.read (readReference refnum) with
  | none => return ⟨.denied, [("reason", .str "Credential reference not found.")]⟩
  | some (credential, institution) =>
    let shown := ("credential", publicReferenceCredential credential institution)
    if credential.status = .revoked then
      Db.transaction (recorded
        (newEvent rt env context credential.uuid none "CREDENTIAL_REFERENCE" context.verifierName
          .revoked (.obj [("credentialRef", .str credential.credentialRef)]))
        ⟨.revoked, [shown]⟩)
    else
      let status := cryptographicStatus rt credential.vcPayload credential.signature
      let result : VerificationResult :=
        ⟨.confirmed, [("cryptographicStatus", .str status.name), shown]⟩
      let event := newEvent rt env context credential.uuid none "CREDENTIAL_REFERENCE"
        context.verifierName (if status = .valid then .confirmed else .discrepancy)
        (.obj [("credentialRef", .str credential.credentialRef),
          ("cryptographicStatus", .str status.name)])
      let _ ← Db.transaction (recorded event result)
      if status = .valid then
        Db.transaction fun s => do
          let s ← recordVerificationRevenue rt env credential.uuid institution.uuid
            "Credential reference verification fee" s
          return (result, s)
      else return result

/-! ### Identity numbers -/

def learnerByAin (ain : String) (s : Store) : Option Learner :=
  s.learners.rows.find? fun learner => learner.ain == ain

/-- The latest ten credentials of a learner. -/
def latestCredentials (s : Store) (learner : Learner) : List Credential :=
  ((s.credentials.rows.filter fun credential =>
    credential.learnerId == learner.uuid).insertionSort fun a b => b.issuedAt ≤ a.issuedAt).take 10

def activeCredentialCount (ain : String) (s : Store) : ℕ :=
  s.credentials.rows.countP fun credential =>
    (s.learners.find? credential.learnerId).any (·.ain == ain) && credential.status == .active

def visibleCredential (s : Store) (credential : Credential) : Except ServiceError Json := do
  let institution ← orThrow (s.institutions.find? credential.institutionId) .database
  return .obj
    [("credentialRef", .str credential.credentialRef), ("type", .str credential.type.name),
      ("status", .str credential.status.name),
      ("issuedAt", .str (Text.toISOString credential.issuedAt)),
      ("institution", .obj
        [("institutionId", .str institution.institutionId),
          ("officialName", .str institution.officialName)])]

/-- A learner with its latest credentials, and what is shown of them. -/
structure LearnerRead where
  learner : Learner
  credentials : List Credential
  visibleCredentials : List Json

def readLearner (ain : String) (s : Store) : Except ServiceError (Option LearnerRead) :=
  match learnerByAin ain s with
  | none => .ok none
  | some learner => do
    let credentials := latestCredentials s learner
    let visibleCredentials ← credentials.mapM (visibleCredential s)
    return some ⟨learner, credentials, visibleCredentials⟩

/-- The credential that the event of a lookup is filed under. -/
def eventCredential (credentials : List Credential) : Option Credential :=
  credentials.find? (·.status == .active) <|> credentials.head?

def lookupAin (rt : Runtime) (env : VerifyEnv) (ain : String) (context : VerificationContext) :
    Db VerificationResult := do
  let normalizedAin := normalizeIdentifier ain
  if normalizedAin = "" then throw (.badRequest "AIN is required.")
  let read ← Db.read (readLearner normalizedAin)
  let count ← Db.read fun s => .ok (activeCredentialCount normalizedAin s)
  match read with
  | none => return ⟨.denied, [("reason", .str "AIN not found.")]⟩
  | some ⟨learner, credentials, visibleCredentials⟩ =>
    let scopeViewed : Json := .obj
      [("ain", .str learner.ain), ("activeCredentialCount", .num count),
        ("credentialRefs", .arr (credentials.map fun credential => .str credential.credentialRef))]
    let result : VerificationResult := ⟨.confirmed,
      [("learner", .obj [("ain", .str learner.ain), ("fullName", .str learner.fullName),
          ("identityStatus", .str learner.identityStatus.name)]),
        ("credentialSummary", .obj [("activeCredentialCount", .num count),
          ("returnedCredentialCount", .num visibleCredentials.length),
          ("credentials", .arr visibleCredentials)])]⟩
    match eventCredential credentials with
    | some credential =>
      Db.transaction (recorded
        (newEvent rt env context credential.uuid none "AIN_LOOKUP" context.verifierName
          (if 0 < count then .confirmed else .denied) scopeViewed)
        result)
    | none => return result

/-! ### Many at once -/

/-- A verification by one identifier. -/
inductive VerificationCall where
  | token (token : String)
  | reference (refnum : String)
  | ain (ain : String)
  deriving DecidableEq, Repr

def verifyOne (rt : Runtime) (env : VerifyEnv) (context : VerificationContext)
    (call : VerificationCall) : Db VerificationResult :=
  match call with
  | .token token => verifyToken rt env token context
  | .reference refnum => verifyReference rt env refnum context
  | .ain ain => lookupAin rt env ain context

/-- Verifications one after the other, each with what the runtime gives it. -/
def verifyAll (rt : Runtime) (context : VerificationContext) :
    List (VerifyEnv × VerificationCall) → Db (List VerificationResult)
  | [] => return []
  | (env, call) :: rest => do
    let result ← verifyOne rt env context call
    let results ← verifyAll rt context rest
    return result :: results

def normalizeList (rt : Runtime) (value : Option Json) (limit : ℕ) : List String :=
  let values := match value with
    | some (.arr vs) => vs
    | none | some .null => []
    | some v => [v]
  let add := fun (unique : List String) (item : Json) =>
    let normalized := normalizeIdentifier (jsString rt item)
    -- The loop stops at the first identifier over the limit.
    if limit < unique.length ∨ normalized = "" ∨ normalized ∈ unique then unique
    else unique ++ [normalized]
  values.foldl add []

/-- `??` -/
def coalesce (values : List (Option Json)) : Option Json :=
  (values.find? fun value => value.any (· ≠ .null)).join

/-- The references and the identity numbers of a bulk verification. -/
def bulkIdentifiers (rt : Runtime) (body : Json) : List String × List String :=
  (normalizeList rt
      (coalesce [body.get? "credentialRefs", body.get? "references", body.get? "refnums"]) 50,
    normalizeList rt (coalesce [body.get? "ains", body.get? "ain"]) 50)

structure BulkResult where
  total : ℕ
  confirmed : ℕ
  revoked : ℕ
  denied : ℕ
  credentials : List (String × VerificationResult)
  learnerLookups : List (String × VerificationResult)

def countOutcome (results : List VerificationResult) (outcome : VerificationOutcome) : ℕ :=
  results.countP (·.outcome == outcome)

def bulkCalls (envs : ℕ → VerifyEnv) (credentialRefs ains : List String) :
    List (VerifyEnv × VerificationCall) :=
  ((credentialRefs.map VerificationCall.reference) ++ ains.map VerificationCall.ain).zipIdx.map
    fun item => (envs item.2, item.1)

def bulkVerify (rt : Runtime) (envs : ℕ → VerifyEnv) (body : Json)
    (context : VerificationContext) : Db BulkResult := do
  let (credentialRefs, ains) := bulkIdentifiers rt body
  let total := credentialRefs.length + ains.length
  if total = 0 then
    throw (.badRequest "Provide at least one credentialRefs or ains value.")
  if 50 < total then
    throw (.badRequest "Bulk verification accepts a maximum of 50 identifiers per request.")
  let flatResults ← verifyAll rt context (bulkCalls envs credentialRefs ains)
  return {
    total := total
    confirmed := countOutcome flatResults .confirmed
    revoked := countOutcome flatResults .revoked
    denied := countOutcome flatResults .denied
    credentials := credentialRefs.zip flatResults
    learnerLookups := ains.zip (flatResults.drop credentialRefs.length) }

/-! ### What the checks of a share link have seen -/

/-- What a plan has seen of the link, the credential and the time. -/
def TokenPlan.saw (plan : TokenPlan) (rt : Runtime) (env : VerifyEnv) (token : String)
    (s : Store) : Prop :=
  match plan with
  | .notFound => accessGrantByToken rt token s = none
  | .denied accessGrant reason => accessGrantByToken rt token s = some accessGrant ∧
      deniedReason env.now accessGrant = some reason
  | .inactive accessGrant credential => accessGrantByToken rt token s = some accessGrant ∧
      s.credentials.find? accessGrant.credentialId = some credential ∧
      deniedReason env.now accessGrant = none ∧ credential.status ≠ .active
  | .confirmed accessGrant credential _ => accessGrantByToken rt token s = some accessGrant ∧
      s.credentials.find? accessGrant.credentialId = some credential ∧
      deniedReason env.now accessGrant = none ∧ credential.status = .active

theorem tokenCheck_saw {rt : Runtime} {env : VerifyEnv} {token : String} {s : Store}
    {plan : TokenPlan} (checked : tokenCheck rt env token s = .ok plan) :
    plan.saw rt env token s := by
  unfold tokenCheck at checked
  cases found : accessGrantByToken rt token s with
  | none =>
    rw [found] at checked
    obtain rfl := Except.ok.inj checked
    exact found
  | some accessGrant =>
    rw [found] at checked
    obtain ⟨credential, held, rest⟩ := bind_eq_ok.mp checked
    obtain ⟨learner, -, rest⟩ := bind_eq_ok.mp rest
    obtain ⟨institution, -, rest⟩ := bind_eq_ok.mp rest
    rw [orThrow_eq_ok] at held
    cases denied : deniedReason env.now accessGrant with
    | some reason =>
      simp only [denied] at rest
      rw [pure_eq_ok] at rest
      subst rest
      exact ⟨found, denied⟩
    | none =>
      simp only [denied] at rest
      by_cases active : credential.status = .active
      · rw [if_neg (by simpa using active), pure_eq_ok] at rest
        subst rest
        exact ⟨found, held, denied, active⟩
      · rw [if_pos active, pure_eq_ok] at rest
        subst rest
        exact ⟨found, held, denied, active⟩

/-! ### What the writes leave -/

theorem createEvent_spec {event : VerificationEvent} {s t : Store}
    (created : createEvent event s = .ok t) :
    ∃ events, events.rows = s.verificationEvents.rows ++ [event] ∧
      t = { s with verificationEvents := events } := by
  unfold createEvent at created
  obtain ⟨events, inserted, same⟩ := bind_eq_ok.mp created
  rw [pure_eq_ok] at same
  exact ⟨events, (Table.insert_eq_some.mp (orThrow_eq_ok.mp inserted)).2, same.symm⟩

theorem recordVerificationRevenue_spec {rt : Runtime} {env : VerifyEnv} {credentialId : Uuid}
    {institutionId : Uuid} {description : String} {s t : Store}
    (billed : recordVerificationRevenue rt env credentialId institutionId description s = .ok t) :
    ∃ ledger, t = { s with revenueLedger := ledger } := by
  unfold recordVerificationRevenue at billed
  dsimp only at billed
  split_ifs at billed
  · exact ⟨s.revenueLedger, (Except.ok.inj billed).symm⟩
  · obtain ⟨ledger, -, same⟩ := createLedgerEntry_spec billed
    exact ⟨ledger, same⟩

theorem recorded_spec {event : VerificationEvent} {result answer : VerificationResult} {s t : Store}
    (written : recorded event result s = .ok (answer, t)) :
    answer = result ∧ ∃ events, events.rows = s.verificationEvents.rows ++ [event] ∧
      t = { s with verificationEvents := events } := by
  unfold recorded at written
  obtain ⟨s', created, same⟩ := bind_eq_ok.mp written
  rw [pure_eq_ok] at same
  obtain ⟨rfl, rfl⟩ := Prod.mk.inj same
  exact ⟨rfl, createEvent_spec created⟩

/-- **What a disclosure writes**: one more view, one more confirmed event, and perhaps a fee. -/
theorem disclose_spec {rt : Runtime} {env : VerifyEnv} {context : VerificationContext}
    {accessGrant : AccessGrant} {credential : Credential} {scopeViewed : Json}
    {result : VerificationResult} {s t : Store}
    (disclosed : disclose rt env context accessGrant credential scopeViewed s = .ok (result, t)) :
    result = ⟨.confirmed, [("credential", scopeViewed)]⟩ ∧
      ∃ row events ledger, s.accessGrants.find? accessGrant.uuid = some row ∧
        events.rows = s.verificationEvents.rows ++
          [newEvent rt env context credential.uuid (some accessGrant.uuid) "SHARE_LINK"
            (context.verifierName <|> some accessGrant.recipientLabel) .confirmed scopeViewed] ∧
        t = { s with
          accessGrants := s.accessGrants.update accessGrant.uuid viewed viewed_uuid
          verificationEvents := events
          revenueLedger := ledger } := by
  unfold disclose at disclosed
  obtain ⟨⟨updated, grants⟩, counted, rest⟩ := bind_eq_ok.mp disclosed
  obtain ⟨row, found, -, rfl⟩ := updateRow_eq_ok.mp counted
  obtain ⟨s', created, rest⟩ := bind_eq_ok.mp rest
  obtain ⟨events, rows, rfl⟩ := createEvent_spec created
  obtain ⟨s'', billed, same⟩ := bind_eq_ok.mp rest
  obtain ⟨ledger, rfl⟩ := recordVerificationRevenue_spec billed
  rw [pure_eq_ok] at same
  obtain ⟨rfl, rfl⟩ := Prod.mk.inj same
  exact ⟨rfl, row, events, ledger, found, rows, rfl⟩

end Verification

end AcadID
