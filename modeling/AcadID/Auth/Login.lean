/-
**Login, one call to the database a step.**

A login reads the user, checks the password and, where the account asks for it, an authenticator
code; failing that, a recovery code, which `consumeRecoveryCode` looks up, compares and marks as used
in steps of their own. Then it records the login and answers with a token.

* `Progress` — where a login is: each case is about to make one call to the database.
* `login` — the steps as a machine; `matched`, `proceed` and `answer` are what happens in between.
* `step_cases` — **what a step changes**: a recovery code, a membership, the log, or nothing.
-/

import AcadID.Auth.Secrets
import AcadID.Lib.Process
import AcadID.Platform.Store

namespace AcadID

open Lib

namespace Login

/-! ### What a login is given, and what it answers -/

structure LoginInput where
  email : String
  password : String
  totpCode : Option String
  recoveryCode : Option String

/-- What the runtime and the database give a login. -/
structure LoginEnv where
  now : Time
  pick : ℕ
  usedAt : Time
  loginAt : Time
  issuedAt : Time
  sessionId : Uuid

/-- A user with the memberships that login looks at, the oldest first. -/
structure LoginUser where
  user : User
  institutions : List (InstitutionUser × Institution)

inductive MfaMethod where
  | none
  | totp
  | recoveryCode (code : Uuid)
  deriving DecidableEq, Repr

def MfaMethod.name : MfaMethod → String
  | .none => "NONE"
  | .totp => "TOTP"
  | .recoveryCode _ => "RECOVERY_CODE"

structure LoginResponse where
  accessToken : String
  user : User
  effectiveRole : UserRole
  permissions : List String
  membership : Option (InstitutionUser × Institution)

/-- What a login goes on with: its input, its user and, once known, how the second factor was met
and in which institution it works. -/
structure Session where
  env : LoginEnv
  input : LoginInput
  found : LoginUser
  method : MfaMethod
  membership : Option (InstitutionUser × Institution)

/-- Where a login is; each case but the last two is about to make a call to the database. -/
inductive Progress where
  | reading (env : LoginEnv) (input : LoginInput)
  | candidates (session : Session) (normalized : String)
  | consuming (session : Session) (code : Uuid)
  | consumed (session : Session) (code : Uuid)
  | recording (session : Session) (member : InstitutionUser × Institution)
  | logging (session : Session)
  | succeeded (method : MfaMethod) (response : LoginResponse)
  | failed (e : ServiceError)

structure LoginCall where
  env : LoginEnv
  input : LoginInput

/-! ### Between the calls -/

def defaultPermissionsForRole : UserRole → List String
  | .acadidSuperAdmin => ["*"]
  | .registrar => ["staff:manage", "academic_setup:read", "academic_setup:write", "ingest:write",
      "govern:write", "govern:review", "govern:publish", "records:amend", "developer_tools:manage",
      "record_requests:approve"]
  | .examOfficer => ["academic_setup:read", "students:read", "results:read", "govern:write",
      "govern:review", "record_requests:verify"]
  | .dataEntryOfficer => ["students:write", "ingest:write", "results:draft", "govern:submit",
      "record_requests:upload"]
  | .departmentalOfficer => ["academic_setup:read", "students:read", "results:read", "ingest:write",
      "results:draft", "govern:review", "record_requests:verify"]
  | .readOnly => ["academic_setup:read", "students:read", "results:read", "credentials:read",
      "reports:read"]
  | .student => ["access:read"]
  | _ => []

/-- `[^A-Z0-9]`, negated. -/
def isCodeChar (c : Char) : Bool :=
  ('A' ≤ c && c ≤ 'Z') || c.isDigit

def normalizeRecoveryCode (rt : Runtime) (code : Option String) : String :=
  (code.map fun text =>
    String.ofList ((rt.toUpperCase (Text.trim text)).toList.filter isCodeChar)).getD ""

/-- The user of an e-mail address, with the memberships that are active, invited or suspended. -/
def findUser (rt : Runtime) (email : String) (s : Store) :
    Except ServiceError (Option LoginUser) := do
  let normalizedEmail := rt.toLowerCase (Text.trim email)
  match s.users.rows.find? (·.email == normalizedEmail) with
  | none => return none
  | some user =>
    let memberships := s.institutionUsers.rows.filter fun member =>
      member.userId == user.uuid && [.active, .invited, .suspended].contains member.status
    let institutions ← memberships.mapM fun member => do
      let institution ← orThrow (s.institutions.find? member.institutionId) .database
      return (member, institution)
    return some { user := user, institutions := institutions }

def LoginUser.membership (found : LoginUser) : Option (InstitutionUser × Institution) :=
  found.institutions.find? fun candidate =>
    candidate.1.status == .active && candidate.2.status == .active

def LoginUser.invited (found : LoginUser) : Bool :=
  found.institutions.any fun candidate => candidate.1.status == .invited

/-- What follows once the second factor is met: the login is recorded in its workspace. -/
def proceed (session : Session) : Progress :=
  match session.found.membership with
  | some member => .recording { session with membership := some member } member
  | none =>
    if session.found.user.role = .acadidSuperAdmin then .logging { session with membership := none }
    else if session.found.invited then
      .failed (.unauthorized "Invitation has not been accepted yet.")
    else .failed (.unauthorized "No active institution workspace is available for this user.")

/-- What follows once the user is read: the password, and the authenticator code where the account
asks for one. -/
def secondFactor (rt : Runtime) (env : LoginEnv) (input : LoginInput) (found : LoginUser) :
    Progress :=
  let session : Session :=
    { env := env, input := input, found := found, method := .none, membership := none }
  if !found.user.mfaEnabled then proceed session
  else
    match found.user.totpSecretEncrypted.filter (· ≠ "") with
    | none => .failed (.unauthorized "Authenticator code is required.")
    | some encrypted =>
      let verifiedTotp : Except ServiceError Bool :=
        match input.totpCode.filter (· ≠ "") with
        | none => .ok false
        | some code => do
          let secret ← TotpService.decryptSecret rt encrypted
          TotpService.verifyCode rt env.now secret code
      match verifiedTotp with
      | .error e => .failed e
      | .ok true => proceed { session with method := .totp }
      | .ok false =>
        let normalized := normalizeRecoveryCode rt input.recoveryCode
        if normalized = "" then .failed (.unauthorized "Invalid authenticator code.")
        else .candidates session normalized

/-- The unused recovery codes of a user, at most twenty of them, in the order the database has. -/
def candidates (s : Store) (userId : Uuid) (pick : ℕ) : List MfaRecoveryCode :=
  ((s.mfaRecoveryCodes.rows.filter fun code =>
    code.userId == userId && code.usedAt.isNone).rotate pick).take 20

/-- The candidate that the code presented is one of. -/
def matched (rt : Runtime) (normalized : String) (found : List MfaRecoveryCode) :
    Option MfaRecoveryCode :=
  found.find? fun candidate => PasswordService.verify rt normalized candidate.codeHash

def Session.effectiveRole (session : Session) : UserRole :=
  (session.membership.map (·.1.role)).getD session.found.user.role

def Session.permissions (session : Session) : List String :=
  match session.membership with
  | some (member, _) =>
    if member.permissions.isEmpty then defaultPermissionsForRole session.effectiveRole
    else member.permissions
  | none => defaultPermissionsForRole session.effectiveRole

/-- `normaliseAssignedScopes` of what a membership has, if there is one. -/
def Session.assignedScopes (session : Session) : Json :=
  match session.membership with
  | some (member, _) =>
    match member.assignedScopes with
    | .arr scopes => .arr scopes
    | _ => .arr []
  | none => .arr []

def accessToken (rt : Runtime) (session : Session) : String :=
  let user := session.found.user
  TokenService.sign rt session.env.issuedAt
    [("sub", some (.str user.uuid)), ("email", some (.str user.email)),
      ("role", some (.str session.effectiveRole.name)), ("fullName", some (.str user.fullName)),
      ("learnerId", user.learnerId.map .str),
      ("institutionUuid", session.membership.map fun member => .str member.2.uuid),
      ("institutionId", session.membership.map fun member => .str member.2.institutionId),
      ("institutionName", session.membership.map fun member => .str member.2.officialName),
      ("institutionUserId", session.membership.map fun member => .str member.1.uuid),
      ("permissions", some (.arr (session.permissions.map .str))),
      ("assignedScopes", some session.assignedScopes),
      ("sessionId", some (.str session.env.sessionId))]
    TokenService.defaultTokenTtlSeconds

/-- The answer of a login. -/
def answer (rt : Runtime) (session : Session) : Progress :=
  .succeeded session.method
    { accessToken := accessToken rt session
      user := session.found.user
      effectiveRole := session.effectiveRole
      permissions := session.permissions
      membership := session.membership }

/-- The log entry of a recovery code. -/
def consumeAudit (session : Session) : AuditEvent where
  actorType := inferActorType none (some session.found.user.uuid)
  actorId := some session.found.user.uuid
  actorRole := some .acadidSuperAdmin
  action := "founder_mfa.recovery_code.consume"
  targetType := "User"
  targetId := some session.found.user.uuid
  institutionId := none
  outcome := "SUCCESS"
  reason := none
  metadata := .null

/-- The log entry of a login. -/
def loginAudit (session : Session) : AuditEvent where
  actorType := inferActorType none (some session.found.user.uuid)
  actorId := some session.found.user.uuid
  actorRole := some session.effectiveRole
  action := "auth.login"
  targetType := "User"
  targetId := some session.found.user.uuid
  institutionId := session.membership.map (·.2.uuid)
  outcome := "SUCCESS"
  reason := none
  metadata := .obj [("mfaMethod", .str session.method.name)]

/-! ### The steps -/

/-- The conditional update of `consumeRecoveryCode`: a code that is used already stays as it is. -/
def markUsed (code : Uuid) (usedAt : Time) (s : Store) : Store :=
  { s with
    mfaRecoveryCodes := s.mfaRecoveryCodes.updateMany
      (fun row => row.uuid == code && row.usedAt.isNone)
      (fun row => { row with usedAt := some usedAt }) fun _ => rfl }

def recordLogin (id : Uuid) (loginAt : Time) (s : Store) : Except ServiceError Store := do
  let (_, institutionUsers) ← updateRow s.institutionUsers id
    (fun member => { member with lastLoginAt := some loginAt }) fun _ => rfl
  return { s with institutionUsers := institutionUsers }

/-- One call of a login to the database, when it goes through. -/
def loginStep (rt : Runtime) (progress : Progress) (s : Store) : Progress × Store :=
  match progress with
  | .reading env input =>
    match findUser rt input.email s with
    | .error e => (.failed e, s)
    | .ok none => (.failed (.unauthorized "Invalid email or password."), s)
    | .ok (some found) =>
      if PasswordService.verify rt input.password found.user.passwordHash then
        (secondFactor rt env input found, s)
      else (.failed (.unauthorized "Invalid email or password."), s)
  | .candidates session normalized =>
    match matched rt normalized (candidates s session.found.user.uuid session.env.pick) with
    | none => (.failed (.unauthorized "Invalid authenticator code."), s)
    | some code => (.consuming session code.uuid, s)
  | .consuming session code => (.consumed session code, markUsed code session.env.usedAt s)
  | .consumed session code =>
    (proceed { session with method := .recoveryCode code }, s.audit (consumeAudit session))
  | .recording session member =>
    match recordLogin member.1.uuid session.env.loginAt s with
    | .error e => (.failed e, s)
    | .ok t => (.logging session, t)
  | .logging session => (answer rt session, s.audit (loginAudit session))
  | .succeeded method response => (.succeeded method response, s)
  | .failed e => (.failed e, s)

/-- A login that has ended makes no further call. -/
def Progress.ended : Progress → Bool
  | .succeeded .. | .failed _ => true
  | _ => false

def login (rt : Runtime) : Machine Store LoginCall Progress where
  start call := .reading call.env call.input
  step outcome progress s :=
    match outcome with
    | .done => loginStep rt progress s
    | .failed => if progress.ended then (progress, s) else (.failed .database, s)

end Login

end AcadID
