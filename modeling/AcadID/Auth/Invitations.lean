/-
**Invitations: to an institution's staff, and to the registrar of a new one.**

Three operations write to the accounts of users: `inviteInstitutionUser`, `acceptInstitutionInvite`
and `approveInstitutionApplication`. Each checks, writes in one transaction and leaves a log entry;
`inviteMethods` is the three as one method.

* `upsertUser` and `upsertMembership` — a row of a unique key updated, or created.
* `inviteCommit_spec`, `acceptCommit_spec` and `approveCommit_spec` — **what each writes to the
  accounts**.
-/

import AcadID.Auth.Login

namespace AcadID

open Lib

namespace Invitations

/-! ### Inputs -/

structure InviteInput where
  institutionId : Option String
  email : Option String
  fullName : Option String
  phone : Option String
  role : Option String
  permissions : Option (List String)
  assignedScopes : Option Json

structure AcceptInput where
  token : Option String
  password : Option String
  fullName : Option String
  phone : Option String

/-- What the runtime and the database give an invitation: the clock, the ids of new rows, the token,
and the salt and the random bytes of the password that a new account starts with. -/
structure InviteEnv where
  now : Time
  inviteToken : String
  institutionUuid : Uuid
  userUuid : Uuid
  membershipUuid : Uuid
  salt : String
  randomPassword : String

/-- What the runtime gives an acceptance. -/
structure AcceptEnv where
  now : Time
  salt : String

/-- An invitation whose checks have passed. -/
structure Invitee where
  email : String
  fullName : String
  phone : Option String
  role : UserRole
  permissions : List String
  assignedScopes : Json
  institution : Institution

inductive InviteCall where
  | inviteInstitutionUser (env : InviteEnv) (auth : AuthTokenPayload) (input : InviteInput)
  | acceptInstitutionInvite (env : AcceptEnv) (input : AcceptInput)
  | approveInstitutionApplication (env : InviteEnv) (auth : AuthTokenPayload) (id : Uuid)

/-- A call whose checks have passed, with the rows they have read. -/
inductive InvitePlan where
  | invite (env : InviteEnv) (auth : AuthTokenPayload) (invitee : Invitee)
  | accept (env : AcceptEnv) (input : AcceptInput) (password : String) (membership : InstitutionUser)
    (user : User)
  | approve (env : InviteEnv) (auth : AuthTokenPayload) (application : InstitutionApplication)

/-- What a call answers with: the membership, its user and its institution, and the token of an
invitation. -/
structure InviteResponse where
  membership : InstitutionUser
  user : User
  institution : Institution
  inviteToken : Option String

/-! ### The checks -/

/-- A text that is there and not blank, trimmed. -/
def trimmed (text : Option String) : Option String :=
  (text.map Text.trim).filter (· ≠ "")

def institutionRoles : List (String × UserRole) :=
  [("REGISTRAR", .registrar), ("EXAM_OFFICER", .examOfficer),
    ("DATA_ENTRY_OFFICER", .dataEntryOfficer), ("DEPARTMENTAL_OFFICER", .departmentalOfficer),
    ("READ_ONLY", .readOnly)]

def parseInstitutionRole (rt : Runtime) (role : Option String) : Except ServiceError UserRole :=
  orThrow (role.bind fun text => institutionRoles.lookup (rt.toUpperCase (Text.trim text)))
    (.badRequest
      "Role must be REGISTRAR, EXAM_OFFICER, DATA_ENTRY_OFFICER, DEPARTMENTAL_OFFICER, or READ_ONLY.")

def resolveInviteInstitution (auth : AuthTokenPayload) (requestedInstitutionId : Option String)
    (s : Store) : Except ServiceError Uuid :=
  if auth.role = .acadidSuperAdmin then do
    let value ← orThrow (trimmed requestedInstitutionId)
      (.badRequest "institutionId is required for founder-created staff invitations.")
    let institution ← orThrow
      (if isUuidV15 value then s.institutions.find? value
        else s.institutions.rows.find? (·.institutionId == value))
      (.badRequest "Institution not found.")
    return institution.uuid
  else do
    let institutionUuid ← orThrow (auth.institutionUuid.filter (· ≠ ""))
      (.forbidden "Institution-scoped session is required.")
    require ((requestedInstitutionId.filter (· ≠ "")).all fun requested =>
        requested == institutionUuid || auth.institutionId == some requested)
      (.forbidden "Cannot invite staff into another institution workspace.")
    return institutionUuid

def inviteCheck (rt : Runtime) (auth : AuthTokenPayload) (input : InviteInput) (s : Store) :
    Except ServiceError Invitee := do
  require (!auth.isApiKey)
    (.forbidden "Human session is required to invite institution staff.")
  let role ← parseInstitutionRole rt input.role
  let institutionUuid ← resolveInviteInstitution auth input.institutionId s
  require (auth.role == .acadidSuperAdmin || auth.role == .registrar)
    (.forbidden "Only founders and registrars can invite institution users.")
  require (!(auth.role == .registrar && role == .registrar))
    (.forbidden "Registrar-to-registrar invitation requires founder approval.")
  let email ← orThrow ((input.email.map fun text => rt.toLowerCase (Text.trim text)).filter (· ≠ ""))
    (.badRequest "Invitee full name and email are required.")
  let fullName ← orThrow (trimmed input.fullName)
    (.badRequest "Invitee full name and email are required.")
  let institution ← orThrow ((s.institutions.find? institutionUuid).filter (·.status == .active))
    (.badRequest "Active institution workspace not found.")
  return {
    email := email
    fullName := fullName
    phone := trimmed input.phone
    role := role
    permissions :=
      match input.permissions with
      | some (p :: permissions) => p :: permissions
      | _ => Login.defaultPermissionsForRole role
    assignedScopes :=
      match input.assignedScopes with
      | some (.arr scopes) => .arr scopes
      | _ => .arr []
    institution := institution }

/-- The membership of an invitation, with its user and its institution. -/
def acceptCheck (rt : Runtime) (env : AcceptEnv) (input : AcceptInput) (s : Store) :
    Except ServiceError (String × InstitutionUser × User) := do
  let password := input.password.getD ""
  let token ← orThrow (trimmed input.token)
    (.badRequest "Invite token and a password of at least 8 characters are required.")
  require (8 ≤ Text.utf16Length password)
    (.badRequest "Invite token and a password of at least 8 characters are required.")
  let membership ← orThrow
    ((s.institutionUsers.rows.find? (·.inviteTokenHash == some (rt.sha256 token))).filter
      fun membership => membership.status == .invited &&
        membership.inviteExpiresAt.any (env.now ≤ ·))
    (.badRequest "Institution invitation is invalid or expired.")
  let user ← orThrow (s.users.find? membership.userId) .database
  let institution ← orThrow (s.institutions.find? membership.institutionId) .database
  require (institution.status == .active) (.badRequest "Institution workspace is not active.")
  return (password, membership, user)

def approveCheck (id : Uuid) (s : Store) : Except ServiceError InstitutionApplication := do
  let application ← orThrow (s.institutionApplications.find? id)
    (.badRequest "Institution application not found.")
  require (application.status == .pending)
    (.badRequest "Only pending institution applications can be approved.")
  return application

def inviteChecks (rt : Runtime) (call : InviteCall) (s : Store) : Except ServiceError InvitePlan :=
  match call with
  | .inviteInstitutionUser env auth input => do
    let invitee ← inviteCheck rt auth input s
    return .invite env auth invitee
  | .acceptInstitutionInvite env input => do
    let (password, membership, user) ← acceptCheck rt env input s
    return .accept env input password membership user
  | .approveInstitutionApplication env auth id => do
    let application ← approveCheck id s
    return .approve env auth application

/-! ### The transactions -/

/-- `tx.user.upsert`: the account of an e-mail address updated, or created. -/
def upsertUser (email : String) (update : User → User) (keeps : ∀ u, (update u).uuid = u.uuid)
    (create : User) (s : Store) : Except ServiceError (User × Store) :=
  match s.users.rows.find? (·.email == email) with
  | some user => .ok (update user, { s with users := s.users.update user.uuid update keeps })
  | none => do
    let users ← insertUnique s.users create
    return (create, { s with users := users })

/-- `tx.institutionUser.upsert`: the membership of a user in an institution, in a role, updated or
created; no other one has its invite token. -/
def upsertMembership (create : InstitutionUser) (update : InstitutionUser → InstitutionUser)
    (keeps : ∀ m, (update m).uuid = m.uuid) (s : Store) :
    Except ServiceError (InstitutionUser × Store) :=
  let existing := s.institutionUsers.rows.find? fun member => member.userId == create.userId &&
    member.institutionId == create.institutionId && member.role == create.role
  let uuid := (existing.map (·.uuid)).getD create.uuid
  do
    require (s.institutionUsers.rows.all fun member =>
      member.uuid == uuid || member.inviteTokenHash != create.inviteTokenHash) .uniqueViolation
    match existing with
    | some member =>
      return (update member,
        { s with institutionUsers := s.institutionUsers.update member.uuid update keeps })
    | none =>
      let institutionUsers ← insertUnique s.institutionUsers create
      return (create, { s with institutionUsers := institutionUsers })

/-- Seven days. -/
def inviteExpiresAt (now : Time) : Time :=
  now + 7 * 24 * 60 * 60 * 1000

/-- The account that an invitation creates, with a password that nobody knows. -/
def newUser (rt : Runtime) (env : InviteEnv) (email fullName : String) (phone : Option String)
    (role : UserRole) : User where
  uuid := env.userUuid
  email := email
  passwordHash := PasswordService.hash rt env.salt env.randomPassword
  fullName := fullName
  role := role
  phone := phone

/-- What an invitation makes of an account that is there. -/
def invitedUser (invitee : Invitee) (user : User) : User :=
  { user with
    fullName := invitee.fullName
    phone := invitee.phone.or user.phone }

theorem invitedUser_uuid (invitee : Invitee) (user : User) :
    (invitedUser invitee user).uuid = user.uuid := rfl

/-- The membership that an invitation creates. -/
def newMembership (rt : Runtime) (env : InviteEnv) (userId institutionId : Uuid) (role : UserRole)
    (permissions : List String) (assignedScopes : Json) : InstitutionUser where
  uuid := env.membershipUuid
  userId := userId
  institutionId := institutionId
  role := role
  status := .invited
  assignedScopes := assignedScopes
  permissions := permissions
  inviteTokenHash := some (rt.sha256 env.inviteToken)
  inviteExpiresAt := some (inviteExpiresAt env.now)

/-- A membership invited again; the approval of an application leaves its scopes. -/
def invitedAgain (rt : Runtime) (env : InviteEnv) (permissions : List String)
    (assignedScopes : Option Json) (member : InstitutionUser) : InstitutionUser :=
  { member with
    status := .invited
    permissions := permissions
    assignedScopes := assignedScopes.getD member.assignedScopes
    inviteTokenHash := some (rt.sha256 env.inviteToken)
    inviteExpiresAt := some (inviteExpiresAt env.now) }

def inviteCommit (rt : Runtime) (env : InviteEnv) (invitee : Invitee) (s : Store) :
    Except ServiceError (InviteResponse × Store) := do
  let (user, s) ← upsertUser invitee.email (invitedUser invitee) (invitedUser_uuid invitee)
    (newUser rt env invitee.email invitee.fullName invitee.phone invitee.role) s
  let (membership, s) ← upsertMembership
    (newMembership rt env user.uuid invitee.institution.uuid invitee.role invitee.permissions
      invitee.assignedScopes)
    (invitedAgain rt env invitee.permissions (some invitee.assignedScopes)) (fun _ => rfl) s
  return (⟨membership, user, invitee.institution, some env.inviteToken⟩, s)

/-- What an acceptance makes of the account. -/
def acceptedUser (rt : Runtime) (env : AcceptEnv) (input : AcceptInput) (password : String)
    (read user : User) : User :=
  { user with
    passwordHash := PasswordService.hash rt env.salt password
    fullName := (trimmed input.fullName).getD read.fullName
    phone := (trimmed input.phone).or user.phone }

theorem acceptedUser_uuid (rt : Runtime) (env : AcceptEnv) (input : AcceptInput) (password : String)
    (read user : User) : (acceptedUser rt env input password read user).uuid = user.uuid := rfl

def acceptedMembership (member : InstitutionUser) : InstitutionUser :=
  { member with
    status := .active
    inviteTokenHash := none }

def acceptCommit (rt : Runtime) (env : AcceptEnv) (input : AcceptInput) (password : String)
    (membership : InstitutionUser) (read : User) (s : Store) :
    Except ServiceError (InviteResponse × Store) := do
  let (user, users) ← updateRow s.users membership.userId (acceptedUser rt env input password read)
    (acceptedUser_uuid rt env input password read)
  let (member, institutionUsers) ← updateRow s.institutionUsers membership.uuid acceptedMembership
    fun _ => rfl
  let institution ← orThrow (s.institutions.find? member.institutionId) .database
  return (⟨member, user, institution, none⟩,
    { s with
      users := users
      institutionUsers := institutionUsers })

/-- `AINi-` and the number of institutions, in five digits. -/
def nextInstitutionDisplayId (s : Store) : String :=
  "AINi-" ++ Text.padStart 5 (s.institutions.rows.length + 1)

/-- `AdminService.defaultPermissionsForRole(REGISTRAR)` -/
def registrarPermissions : List String :=
  ["staff:manage", "ingest:write", "govern:review", "govern:publish", "records:amend",
    "developer_tools:manage", "record_requests:approve"]

def approvedApplication (env : InviteEnv) (auth : AuthTokenPayload)
    (application : InstitutionApplication) : InstitutionApplication :=
  { application with
    status := .approved
    reviewedById := some auth.sub
    reviewedAt := some env.now
    approvedInstitutionId := some env.institutionUuid }

/-- What the approval of an application makes of an account that is there. -/
def registrarUser (fullName : String) (user : User) : User :=
  { user with
    fullName := fullName
    role := .registrar }

theorem registrarUser_uuid (fullName : String) (user : User) :
    (registrarUser fullName user).uuid = user.uuid := rfl

/-- The contact of an application, as its account has them. -/
def contactEmail (rt : Runtime) (application : InstitutionApplication) : String :=
  rt.toLowerCase (Text.trim application.contactEmail)

def approveCommit (rt : Runtime) (env : InviteEnv) (auth : AuthTokenPayload)
    (application : InstitutionApplication) (s : Store) :
    Except ServiceError (InviteResponse × Store) := do
  let createdInstitution : Institution :=
    { uuid := env.institutionUuid
      institutionId := nextInstitutionDisplayId s
      officialName := application.officialName
      status := .active }
  require (s.institutions.rows.all (·.institutionId != createdInstitution.institutionId))
    .uniqueViolation
  let institutions ← insertUnique s.institutions createdInstitution
  let (_, institutionApplications) ← updateRow s.institutionApplications application.uuid
    (approvedApplication env auth) fun _ => rfl
  let fullName := Text.trim application.contactPersonName
  let (user, s) ← upsertUser (contactEmail rt application) (registrarUser fullName)
    (registrarUser_uuid fullName)
    (newUser rt env (contactEmail rt application) fullName none .registrar)
    { s with
      institutions := institutions
      institutionApplications := institutionApplications }
  let (membership, s) ← upsertMembership
    (newMembership rt env user.uuid createdInstitution.uuid .registrar registrarPermissions (.arr []))
    (invitedAgain rt env registrarPermissions none) (fun _ => rfl) s
  return (⟨membership, user, createdInstitution, some env.inviteToken⟩, s)

def inviteCommits (rt : Runtime) (plan : InvitePlan) (s : Store) :
    Except ServiceError (InviteResponse × Store) :=
  match plan with
  | .invite env _ invitee => inviteCommit rt env invitee s
  | .accept env input password membership user =>
    acceptCommit rt env input password membership user s
  | .approve env auth application => approveCommit rt env auth application s

/-! ### The log -/

def supportedInstitutionCategories : List String :=
  ["NURSERY", "PRIMARY", "SECONDARY", "NURSERY_PRIMARY", "PRIMARY_SECONDARY",
    "NURSERY_PRIMARY_SECONDARY", "FEDERAL_UNIVERSITY", "STATE_UNIVERSITY", "PRIVATE_UNIVERSITY",
    "POLYTECHNIC", "COLLEGE_OF_EDUCATION", "EXAM_BODY", "OTHER_ACCREDITED"]

def legacyInstitutionCategoryMap : List (String × String) :=
  [("SECONDARY_JSS", "SECONDARY"), ("SECONDARY_SSS", "SECONDARY"),
    ("COMBINED_SCHOOL", "NURSERY_PRIMARY_SECONDARY"), ("UNIVERSITY", "OTHER_ACCREDITED")]

def normalizeInstitutionCategory (value : String) : String :=
  if supportedInstitutionCategories.contains value then value
  else (legacyInstitutionCategoryMap.lookup value).getD "OTHER_ACCREDITED"

def institutionCategoryToBroadType (category : String) : String :=
  let normalized := normalizeInstitutionCategory category
  if normalized = "EXAM_BODY" then "EXAM_BODY"
  else if ["FEDERAL_UNIVERSITY", "STATE_UNIVERSITY", "PRIVATE_UNIVERSITY", "POLYTECHNIC",
    "COLLEGE_OF_EDUCATION"].contains normalized then "TERTIARY"
  else if ["SECONDARY", "PRIMARY_SECONDARY", "NURSERY_PRIMARY_SECONDARY"].contains normalized then
    "SECONDARY"
  else "PRIMARY"

/-- The codes of `institutionAcademicTemplates`. -/
def academicTemplateCodes : List (String × String) :=
  [("NURSERY", "BASIC_TERM_CLASS_SUBJECT"), ("PRIMARY", "BASIC_TERM_CLASS_SUBJECT"),
    ("SECONDARY", "SECONDARY_TERM_CLASS_SUBJECT"), ("NURSERY_PRIMARY", "BASIC_TERM_CLASS_SUBJECT"),
    ("PRIMARY_SECONDARY", "BASIC_SECONDARY_COMBINED_TERM_CLASS_SUBJECT"),
    ("NURSERY_PRIMARY_SECONDARY", "FULL_BASIC_SECONDARY_TERM_CLASS_SUBJECT"),
    ("FEDERAL_UNIVERSITY", "UNIVERSITY_SEMESTER_COURSE_CREDIT"),
    ("STATE_UNIVERSITY", "UNIVERSITY_SEMESTER_COURSE_CREDIT"),
    ("PRIVATE_UNIVERSITY", "UNIVERSITY_SEMESTER_COURSE_CREDIT"),
    ("POLYTECHNIC", "POLYTECHNIC_SEMESTER_ND_HND_COURSE"),
    ("COLLEGE_OF_EDUCATION", "COLLEGE_SEMESTER_NCE_COURSE"),
    ("EXAM_BODY", "EXAM_BODY_SERIES_PAPER"), ("OTHER_ACCREDITED", "CUSTOM_ACADEMIC_STRUCTURE")]

def inviteAudit (auth : AuthTokenPayload) (invitee : Invitee) (res : InviteResponse) :
    AuditEvent where
  actorType := inferActorType none (some auth.sub)
  actorId := some auth.sub
  actorRole := some auth.role
  action := "institution_user.invite"
  targetType := "InstitutionUser"
  targetId := some res.membership.uuid
  institutionId := some invitee.institution.uuid
  outcome := "SUCCESS"
  reason := none
  metadata := .obj
    [("invitedEmail", .str invitee.email), ("role", .str invitee.role.name),
      ("permissions", .arr (invitee.permissions.map .str)),
      ("assignedScopes", invitee.assignedScopes)]

def acceptAudit (membership : InstitutionUser) : AuditEvent where
  actorType := inferActorType none (some membership.userId)
  actorId := some membership.userId
  actorRole := some membership.role
  action := "institution_user.invite.accept"
  targetType := "InstitutionUser"
  targetId := some membership.uuid
  institutionId := some membership.institutionId
  outcome := "SUCCESS"
  reason := none
  metadata := .null

def approveAudit (auth : AuthTokenPayload) (application : InstitutionApplication)
    (res : InviteResponse) : AuditEvent where
  actorType := inferActorType none (some auth.sub)
  actorId := some auth.sub
  actorRole := some auth.role
  action := "institution_application.approve"
  targetType := "InstitutionApplication"
  targetId := some application.uuid
  institutionId := some res.institution.uuid
  outcome := "SUCCESS"
  reason := none
  metadata :=
    let category := normalizeInstitutionCategory
      (if application.institutionCategory = "" then application.type
        else application.institutionCategory)
    .obj
      [("institutionId", .str res.institution.institutionId),
        ("applicationType", .str application.type),
        ("broadType", .str (institutionCategoryToBroadType category)),
        ("institutionCategory", .str category),
        ("academicTemplateCode", .str ((academicTemplateCodes.lookup category).getD "")),
        ("registrarInviteId", .str res.membership.uuid)]

def inviteLog (plan : InvitePlan) (res : InviteResponse) (s : Store) : Store :=
  match plan with
  | .invite _ auth invitee => s.audit (inviteAudit auth invitee res)
  | .accept _ _ _ membership _ => s.audit (acceptAudit membership)
  | .approve _ auth application => s.audit (approveAudit auth application res)

/-- The three operations as one method. -/
def inviteMethods (rt : Runtime) : Method Store ServiceError InviteCall InvitePlan InviteResponse where
  check := inviteChecks rt
  commit := inviteCommits rt
  log := inviteLog

/-! ### What the transactions write to the accounts -/

/-- **An upsert of an account** updates the one of the e-mail address, or creates it. -/
theorem upsertUser_spec {email : String} {update : User → User}
    {keeps : ∀ u, (update u).uuid = u.uuid} {create user : User} {s t : Store}
    (written : upsertUser email update keeps create s = .ok (user, t)) :
    (∃ old, s.users.rows.find? (·.email == email) = some old ∧
        t = { s with users := s.users.update old.uuid update keeps }) ∨
      s.users.rows.find? (·.email == email) = none ∧
        ∃ users, s.users.insert create = some users ∧ t = { s with users := users } := by
  unfold upsertUser at written
  split at written
  · rename_i old found
    obtain ⟨-, rfl⟩ := Prod.mk.inj (Except.ok.inj written)
    exact .inl ⟨old, found, rfl⟩
  · rename_i absent
    obtain ⟨users, inserted, same⟩ := bind_eq_ok.mp written
    obtain ⟨-, rfl⟩ := Prod.mk.inj (pure_eq_ok.mp same)
    exact .inr ⟨absent, users, orThrow_eq_ok.mp inserted, rfl⟩

/-- An upsert of a membership leaves the accounts as they are. -/
theorem upsertMembership_users {create member : InstitutionUser}
    {update : InstitutionUser → InstitutionUser} {keeps : ∀ m, (update m).uuid = m.uuid}
    {s t : Store} (written : upsertMembership create update keeps s = .ok (member, t)) :
    t.users = s.users := by
  obtain ⟨_, -, rest⟩ := bind_eq_ok.mp written
  split at rest
  · obtain ⟨-, rfl⟩ := Prod.mk.inj (pure_eq_ok.mp rest)
    rfl
  · obtain ⟨members, -, same⟩ := bind_eq_ok.mp rest
    obtain ⟨-, rfl⟩ := Prod.mk.inj (pure_eq_ok.mp same)
    rfl

/-- The accounts once one of an e-mail address is updated or created. -/
def Upserted (email : String) (update : User → User) (keeps : ∀ u, (update u).uuid = u.uuid)
    (create : User) (s t : Store) : Prop :=
  (∃ old, s.users.rows.find? (·.email == email) = some old ∧
      t.users = s.users.update old.uuid update keeps) ∨
    s.users.rows.find? (·.email == email) = none ∧ s.users.insert create = some t.users

theorem inviteCommit_spec {rt : Runtime} {env : InviteEnv} {invitee : Invitee} {s t : Store}
    {res : InviteResponse} (written : inviteCommit rt env invitee s = .ok (res, t)) :
    Upserted invitee.email (invitedUser invitee) (invitedUser_uuid invitee)
      (newUser rt env invitee.email invitee.fullName invitee.phone invitee.role) s t := by
  obtain ⟨⟨user, u⟩, upserted, rest⟩ := bind_eq_ok.mp written
  obtain ⟨⟨member, v⟩, joined, same⟩ := bind_eq_ok.mp rest
  obtain ⟨-, rfl⟩ := Prod.mk.inj (pure_eq_ok.mp same)
  unfold Upserted
  rw [upsertMembership_users joined]
  rcases upsertUser_spec upserted with ⟨old, found, rfl⟩ | ⟨absent, users, inserted, rfl⟩
  · exact .inl ⟨old, found, rfl⟩
  · exact .inr ⟨absent, inserted⟩

theorem approveCommit_spec {rt : Runtime} {env : InviteEnv} {auth : AuthTokenPayload}
    {application : InstitutionApplication} {s t : Store} {res : InviteResponse}
    (written : approveCommit rt env auth application s = .ok (res, t)) :
    Upserted (contactEmail rt application) (registrarUser (Text.trim application.contactPersonName))
      (registrarUser_uuid _)
      (newUser rt env (contactEmail rt application) (Text.trim application.contactPersonName) none
        .registrar) s t := by
  obtain ⟨_, -, rest⟩ := bind_eq_ok.mp written
  obtain ⟨institutions, -, rest⟩ := bind_eq_ok.mp rest
  obtain ⟨⟨_, applications⟩, -, rest⟩ := bind_eq_ok.mp rest
  obtain ⟨⟨user, u⟩, upserted, rest⟩ := bind_eq_ok.mp rest
  obtain ⟨⟨member, v⟩, joined, same⟩ := bind_eq_ok.mp rest
  obtain ⟨-, rfl⟩ := Prod.mk.inj (pure_eq_ok.mp same)
  unfold Upserted
  rw [upsertMembership_users joined]
  rcases upsertUser_spec upserted with ⟨old, found, rfl⟩ | ⟨absent, users, inserted, rfl⟩
  · exact .inl ⟨old, found, rfl⟩
  · exact .inr ⟨absent, inserted⟩

theorem acceptCommit_spec {rt : Runtime} {env : AcceptEnv} {input : AcceptInput} {password : String}
    {membership : InstitutionUser} {read : User} {s t : Store} {res : InviteResponse}
    (written : acceptCommit rt env input password membership read s = .ok (res, t)) :
    t.users = s.users.update membership.userId (acceptedUser rt env input password read)
      (acceptedUser_uuid rt env input password read) := by
  obtain ⟨⟨user, users⟩, wrote, rest⟩ := bind_eq_ok.mp written
  obtain ⟨⟨member, members⟩, -, rest⟩ := bind_eq_ok.mp rest
  obtain ⟨institution, -, same⟩ := bind_eq_ok.mp rest
  obtain ⟨-, rfl⟩ := Prod.mk.inj (pure_eq_ok.mp same)
  obtain ⟨before, -, -, rfl⟩ := updateRow_eq_ok.mp wrote
  rfl

/-- Log entries leave the accounts as they are. -/
theorem inviteLog_users (plan : InvitePlan) (res : InviteResponse) (s : Store) :
    (inviteLog plan res s).users = s.users := by
  cases plan <;> rfl

end Invitations

end AcadID
