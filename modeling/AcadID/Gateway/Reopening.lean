/-
**Reopening a sealed session.**

The escalation of a sealed session, a request of its institution and a review by a super admin,
beside academic setup over any lookup of institutions.

* `statusAfter` and `status_commit` — the status a transaction leaves a session in. Updates write
  it without a look at the one they find; a review approves a request that was open when it was
  read.
* `reopened_iff` — **in a run, sealed sessions change to another status only by a super admin
  approving an open request exactly if no update names another status for a session that is sealed,
  and no review approves a request after another one**.
* `reopened_fails` — a sealed session that an update makes active.
-/

import AcadID.Gateway.AcademicSetup
import AcadID.Gateway.BatchHistory
import AcadID.Gateway.Visibility
import AcadID.Lib.Run

namespace AcadID

open Lib

namespace Reopening

open AcademicSetup

/-! ### Bodies -/

/-- The statuses that a sealed session may be reopened to. -/
inductive ReopenStatus where
  | active
  | closed
  deriving DecidableEq, Repr

def ReopenStatus.status : ReopenStatus → AcademicSessionStatus
  | .active => .active
  | .closed => .closed

def reopenStatuses : List (String × ReopenStatus) :=
  [("ACTIVE", .active), ("CLOSED", .closed)]

structure RequestReopenInput where
  reason : String
  requestedStatus : ReopenStatus

open Schema in
def requestSealedSessionReopenSchema : Schema RequestReopenInput :=
  object fun v =>
    RequestReopenInput.mk
      <$> field v "reason" (string [minLength 10, maxLength 2000])
      <*> field v "requestedStatus" (withDefault .active (enum reopenStatuses))

inductive ReopenDecision where
  | approve
  | reject
  deriving DecidableEq, Repr

structure ReviewReopenInput where
  decision : ReopenDecision
  reason : String
  newStatus : ReopenStatus

open Schema in
def reviewSealedSessionReopenSchema : Schema ReviewReopenInput :=
  object fun v =>
    ReviewReopenInput.mk
      <$> field v "decision" (enum [("APPROVE", .approve), ("REJECT", .reject)])
      <*> field v "reason" (string [minLength 10, maxLength 2000])
      <*> field v "newStatus" (withDefault .active (enum reopenStatuses))

/-! ### The operations -/

/-- What the runtime and the database give a call; of several open requests the latest is one. -/
structure ReopenEnv where
  pick : ℕ
  now : Time
  uuid : Uuid

/-- A call of the escalation. -/
inductive ReopenCall where
  | requestSealedSessionReopen (env : ReopenEnv) (auth : AuthTokenPayload) (sessionId : Uuid)
    (body : Json)
  | reviewSealedSessionReopen (env : ReopenEnv) (auth : AuthTokenPayload) (sessionId : Uuid)
    (body : Json)

/-- A call whose checks have passed, with the rows it has read. -/
inductive ReopenPlan where
  | known (request : SealedSessionReopenRequest) (session : AcademicSession)
  | request (env : ReopenEnv) (auth : AuthTokenPayload) (input : RequestReopenInput)
    (session : AcademicSession)
  | review (env : ReopenEnv) (auth : AuthTokenPayload) (input : ReviewReopenInput)
    (session : AcademicSession) (existingRequest : SealedSessionReopenRequest)

/-- The request that a call answers with, and the session as it is then. -/
structure ReopenResponse where
  request : SealedSessionReopenRequest
  session : AcademicSession

/-- A session of an active institution. -/
def activeInstitutionSession (sessionId : Uuid) (s : Store) : Except ServiceError AcademicSession := do
  let session ← orThrow (s.academicSessions.find? sessionId)
    (.badRequest "Active institution academic session not found.")
  let institution ← orThrow (s.institutions.find? session.institutionId) .database
  require (institution.status == .active)
    (.badRequest "Active institution academic session not found.")
  return session

/-- The open request of a session. -/
def openRequest (sessionId : Uuid) (pick : ℕ) (s : Store) : Option SealedSessionReopenRequest :=
  findFirst s.sealedSessionReopenRequests.rows
    (fun request => request.sessionId == sessionId && request.status == .requested) pick

def reopenCheck (call : ReopenCall) (s : Store) : Except ServiceError ReopenPlan :=
  match call with
  | .requestSealedSessionReopen env auth sessionId body => do
    let input ← parseBody requestSealedSessionReopenSchema body
    require (!auth.isApiKey)
      (.forbidden "Human institution session is required for sealed-session escalation.")
    let session ← activeInstitutionSession sessionId s
    Authority.assertActorCanOperateInstitution auth session.institutionId s
    require (session.status == .sealed)
      (.badRequest "Only sealed academic sessions require reopen escalation.")
    match openRequest session.uuid env.pick s with
    | some existingRequest => return .known existingRequest session
    | none => return .request env auth input session
  | .reviewSealedSessionReopen env auth sessionId body => do
    let input ← parseBody reviewSealedSessionReopenSchema body
    require (auth.role == .acadidSuperAdmin)
      (.forbidden "Only Founder Admin can review sealed-session reopen requests.")
    let session ← activeInstitutionSession sessionId s
    require (session.status == .sealed)
      (.badRequest "Only sealed academic sessions can be reviewed for reopen.")
    let existingRequest ← orThrow (openRequest session.uuid env.pick s)
      (.badRequest "No open sealed-session reopen request found for this session.")
    return .review env auth input session existingRequest

/-- `Date.now() + 72 * 60 * 60 * 1000` -/
def dueAt (now : Time) : Time :=
  now + 72 * 60 * 60 * 1000

def newRequest (env : ReopenEnv) (auth : AuthTokenPayload) (input : RequestReopenInput)
    (session : AcademicSession) : SealedSessionReopenRequest where
  uuid := env.uuid
  institutionId := session.institutionId
  sessionId := session.uuid
  requestedById := auth.institutionUserId
  reviewedById := none
  status := .requested
  requestedStatus := input.requestedStatus.status
  reason := input.reason
  reviewReason := none
  dueAt := some (dueAt env.now)
  reviewedAt := none

/-- A request once it is reviewed. -/
def reviewedRequest (env : ReopenEnv) (auth : AuthTokenPayload) (input : ReviewReopenInput)
    (request : SealedSessionReopenRequest) : SealedSessionReopenRequest :=
  { request with
    status := match input.decision with
      | .approve => .approved
      | .reject => .rejected
    reviewedById := some auth.sub
    reviewReason := some input.reason
    reviewedAt := some env.now }

theorem reviewedRequest_uuid (env : ReopenEnv) (auth : AuthTokenPayload) (input : ReviewReopenInput)
    (request : SealedSessionReopenRequest) :
    (reviewedRequest env auth input request).uuid = request.uuid := rfl

/-- The session once it is reviewed: another status, or as it was read. -/
def reviewSession (input : ReviewReopenInput) (session : AcademicSession) (s : Store) :
    Except ServiceError (AcademicSession × Table AcademicSession.uuid) :=
  match input.decision with
  | .approve =>
    updateRow s.academicSessions session.uuid
      (fun session => { session with status := input.newStatus.status }) fun _ => rfl
  | .reject => .ok (session, s.academicSessions)

def reopenCommit (plan : ReopenPlan) (s : Store) : Except ServiceError (ReopenResponse × Store) :=
  match plan with
  | .known request session => .ok (⟨request, session⟩, s)
  | .request env auth input session => do
    let request := newRequest env auth input session
    let requests ← insertUnique s.sealedSessionReopenRequests request
    return (⟨request, session⟩, { s with sealedSessionReopenRequests := requests })
  | .review env auth input session existingRequest => do
    let (session, sessions) ← reviewSession input session s
    let (request, requests) ← updateRow s.sealedSessionReopenRequests existingRequest.uuid
      (reviewedRequest env auth input) (reviewedRequest_uuid env auth input)
    return (⟨request, session⟩, { s with
      academicSessions := sessions
      sealedSessionReopenRequests := requests })

/-- The log entry of an escalation. -/
def reopenAudit (auth : AuthTokenPayload) (action : String) (reason : String)
    (request : SealedSessionReopenRequest) (session : AcademicSession)
    (statuses : List (String × Json)) : AuditEvent where
  actorType := inferActorType none (some auth.sub)
  actorId := some auth.sub
  actorRole := some auth.role
  action := action
  targetType := "SealedSessionReopenRequest"
  targetId := some request.uuid
  institutionId := some session.institutionId
  outcome := "SUCCESS"
  reason := some reason
  metadata := .obj (statuses ++
    [("sessionLabel", .str session.sessionLabel), ("periodType", .str session.periodType.name),
      ("periodLabel", .str session.periodLabel)])

def SealedSessionReopenStatus.name : SealedSessionReopenStatus → String
  | .requested => "REQUESTED"
  | .approved => "APPROVED"
  | .rejected => "REJECTED"
  | .cancelled => "CANCELLED"

def reopenLog (plan : ReopenPlan) (res : ReopenResponse) (s : Store) : Store :=
  match plan with
  | .known _ _ => s
  | .request _ auth input session =>
    s.audit (reopenAudit auth "academic_session.reopen_requested" input.reason res.request session
      [("requestedStatus", .str input.requestedStatus.status.name)])
  | .review _ auth input session _ =>
    s.audit (reopenAudit auth
      (match input.decision with
        | .approve => "academic_session.reopen_approved"
        | .reject => "academic_session.reopen_rejected")
      input.reason res.request session
      [("requestStatus", .str (SealedSessionReopenStatus.name res.request.status)),
        ("previousStatus", .str session.status.name), ("newStatus", .str res.session.status.name)])

/-- The escalation as one method. -/
def reopenMethods : Method Store ServiceError ReopenCall ReopenPlan ReopenResponse where
  check := reopenCheck
  commit := reopenCommit
  log := reopenLog

abbrev SessionCall := SetupCall ⊕ ReopenCall

abbrev SessionPlan := SetupPlan ⊕ ReopenPlan

abbrev SessionResponse := SetupResponse ⊕ ReopenResponse

abbrev SessionPool := Pool Store SessionPlan SessionResponse

/-- Academic setup and the escalation. -/
def sessionMethods (lookup : Institutions.Lookup) (rt : Runtime) :
    Method Store ServiceError SessionCall SessionPlan SessionResponse :=
  (setupMethodsThrough lookup rt).sum reopenMethods

/-! ### How sealed sessions should change -/

/-- The session is there, sealed. -/
def IsSealed (s : Store) (id : Uuid) : Prop :=
  ∃ session, s.academicSessions.find? id = some session ∧ session.status = .sealed

/-- A super admin approves the open request of the session. -/
def ApprovesOpen (plan : SessionPlan) (id : Uuid) (s : Store) : Prop :=
  ∃ env auth input session existingRequest,
    plan = .inr (.review env auth input session existingRequest) ∧
      auth.role = .acadidSuperAdmin ∧ input.decision = .approve ∧
      ∃ request, s.sealedSessionReopenRequests.find? existingRequest.uuid = some request ∧
        request.sessionId = id ∧ request.status = .requested

/-- **A sealed session changes to another status only by a super admin who approves an open reopen
request for it.** -/
def ReopensByRequest (lookup : Institutions.Lookup) (rt : Runtime) (p : SessionPool)
    (e : Turn SessionCall) : Prop :=
  ∀ id, IsSealed p.store id → ¬ IsSealed ((sessionMethods lookup rt).turn p e).store id →
    ∃ plan res t, (sessionMethods lookup rt).committing p e = some (plan, res, t) ∧
      ApprovesOpen plan id p.store

/-- **No update that goes through names another status for a session that is sealed, and no review
approves a request that was reviewed before.** -/
def KeepsSealed (lookup : Institutions.Lookup) (rt : Runtime) (p : SessionPool)
    (e : Turn SessionCall) : Prop :=
  ∀ plan res t, (sessionMethods lookup rt).committing p e = some (plan, res, t) →
    match plan with
    | .inl (.updateSession _ input existing) => IsSealed p.store existing.uuid →
      input.status.all (· == .sealed) = true
    | .inr (.review _ _ input session existingRequest) => IsSealed p.store session.uuid →
      input.decision = .approve →
        ∀ request, p.store.sealedSessionReopenRequests.find? existingRequest.uuid = some request →
          request.status = .requested
    | _ => True

/-! ### What the transactions write -/

theorem isSealed_congr {s t : Store} (same : t.academicSessions = s.academicSessions) {id : Uuid} :
    IsSealed t id ↔ IsSealed s id := by
  unfold IsSealed
  rw [same]

/-- **What the escalation writes**: a request; or the reviewed request, and the session where it is
approved. -/
theorem reopenCommit_cases {plan : ReopenPlan} {s t : Store} {res : ReopenResponse}
    (written : reopenCommit plan s = .ok (res, t)) :
    (t = s ∧ ∃ request session, plan = .known request session) ∨
      (∃ env auth input session requests, plan = .request env auth input session ∧
        s.sealedSessionReopenRequests.insert (newRequest env auth input session) = some requests ∧
        t = { s with sealedSessionReopenRequests := requests }) ∨
      ∃ env auth input session existingRequest, ∃ sessions : Table AcademicSession.uuid,
        plan = .review env auth input session existingRequest ∧
        (∀ id, sessions.find? id = if input.decision = .approve ∧ session.uuid = id then
          (s.academicSessions.find? id).map fun row => { row with status := input.newStatus.status }
          else s.academicSessions.find? id) ∧
        t = { s with
          academicSessions := sessions
          sealedSessionReopenRequests := s.sealedSessionReopenRequests.update existingRequest.uuid
            (reviewedRequest env auth input) (reviewedRequest_uuid env auth input) } := by
  cases plan with
  | known request session =>
    obtain ⟨-, rfl⟩ := Prod.mk.inj (Except.ok.inj written)
    exact .inl ⟨rfl, request, session, rfl⟩
  | request env auth input session =>
    obtain ⟨requests, inserted, same⟩ := bind_eq_ok.mp written
    obtain ⟨-, rfl⟩ := Prod.mk.inj (Except.ok.inj same)
    exact .inr (.inl ⟨env, auth, input, session, requests, rfl, orThrow_eq_ok.mp inserted, rfl⟩)
  | review env auth input session existingRequest =>
    obtain ⟨⟨reviewed, sessions⟩, first, rest⟩ := bind_eq_ok.mp written
    obtain ⟨⟨request, requests⟩, second, same⟩ := bind_eq_ok.mp rest
    obtain ⟨-, rfl⟩ := Prod.mk.inj (Except.ok.inj same)
    obtain ⟨before, -, -, rfl⟩ := updateRow_eq_ok.mp second
    refine .inr (.inr ⟨env, auth, input, session, existingRequest, sessions, rfl, fun id => ?_, rfl⟩)
    unfold reviewSession at first
    cases decision : input.decision with
    | approve =>
      rw [decision] at first
      obtain ⟨old, -, -, rfl⟩ := updateRow_eq_ok.mp first
      rw [Table.find?_update]
      by_cases here : session.uuid = id
      · subst here
        rw [if_pos rfl, if_pos ⟨rfl, rfl⟩]
      · rw [if_neg here, if_neg fun both => here both.2]
    | reject =>
      rw [decision] at first
      obtain ⟨-, rfl⟩ := Prod.mk.inj (Except.ok.inj first)
      rw [if_neg (by simp)]

/-- A request stays, one of its session. -/
theorem request_commit {plan : ReopenPlan} {s t : Store} {res : ReopenResponse}
    (written : reopenCommit plan s = .ok (res, t)) {id : Uuid} {request : SealedSessionReopenRequest}
    (found : s.sealedSessionReopenRequests.find? id = some request) :
    ∃ request', t.sealedSessionReopenRequests.find? id = some request' ∧
      request'.sessionId = request.sessionId := by
  rcases reopenCommit_cases written with ⟨rfl, -⟩ | ⟨env, auth, input, session, requests, -,
    inserted, rfl⟩ | ⟨env, auth, input, session, existingRequest, sessions, -, -, rfl⟩
  · exact ⟨request, found, rfl⟩
  · refine ⟨request, ?_, rfl⟩
    show requests.find? id = some request
    rw [Table.find?_insert inserted, if_neg ?_]
    · exact found
    · rw [← Table.find?_key found]
      exact Ne.symm ((Table.insert_eq_some.mp inserted).1 request (Table.find?_mem found))
  · show ∃ request', (s.sealedSessionReopenRequests.update existingRequest.uuid
      (reviewedRequest env auth input) (reviewedRequest_uuid env auth input)).find? id = some request' ∧ _
    rw [Table.find?_update]
    by_cases here : existingRequest.uuid = id
    · subst here
      rw [if_pos rfl, found]
      exact ⟨_, rfl, rfl⟩
    · rw [if_neg here]
      exact ⟨request, found, rfl⟩

theorem status_ne_sealed (status : ReopenStatus) : status.status ≠ .sealed := by
  cases status <;> simp [ReopenStatus.status]

/-! ### What plans in flight have read -/

/-- A review is a super admin's, of a request of the session. -/
def PlanReads (plan : SessionPlan) (s : Store) : Prop :=
  match plan with
  | .inr (.review _ auth _ session existingRequest) => auth.role = .acadidSuperAdmin ∧
    ∃ request, s.sealedSessionReopenRequests.find? existingRequest.uuid = some request ∧
      request.sessionId = session.uuid
  | _ => True

theorem planReads_of_check {lookup : Institutions.Lookup} {rt : Runtime} {c : SessionCall}
    {s : Store} {plan : SessionPlan} (checked : (sessionMethods lookup rt).check c s = .ok plan) :
    PlanReads plan s := by
  rcases Method.sum_check checked with ⟨d, p, rfl, -⟩ | ⟨d, p, rfl, escalated⟩
  · trivial
  · cases d with
    | requestSealedSessionReopen env auth sessionId body =>
      obtain ⟨input, -, rest⟩ := bind_eq_ok.mp escalated
      obtain ⟨_, -, rest⟩ := bind_eq_ok.mp rest
      obtain ⟨session, -, rest⟩ := bind_eq_ok.mp rest
      obtain ⟨_, -, rest⟩ := bind_eq_ok.mp rest
      obtain ⟨_, -, rest⟩ := bind_eq_ok.mp rest
      cases known : openRequest session.uuid env.pick s with
      | some existingRequest =>
        rw [known] at rest
        obtain rfl := Except.ok.inj rest
        trivial
      | none =>
        rw [known] at rest
        obtain rfl := Except.ok.inj rest
        trivial
    | reviewSealedSessionReopen env auth sessionId body =>
      obtain ⟨input, -, rest⟩ := bind_eq_ok.mp escalated
      obtain ⟨_, role, rest⟩ := bind_eq_ok.mp rest
      obtain ⟨session, -, rest⟩ := bind_eq_ok.mp rest
      obtain ⟨_, -, rest⟩ := bind_eq_ok.mp rest
      obtain ⟨existingRequest, read, same⟩ := bind_eq_ok.mp rest
      obtain rfl := Except.ok.inj same
      obtain ⟨inside, is⟩ := findFirst_eq_some (orThrow_eq_ok.mp read)
      refine ⟨by simpa using require_eq_ok.mp role, existingRequest,
        Table.find?_eq_some.mpr ⟨inside, rfl⟩, ?_⟩
      exact beq_iff_eq.mp (Bool.and_eq_true_iff.mp is).1

theorem PlanReads.mono {plan : SessionPlan} {s t : Store} (reads : PlanReads plan s)
    (stays : ∀ id request, s.sealedSessionReopenRequests.find? id = some request →
      ∃ request', t.sealedSessionReopenRequests.find? id = some request' ∧
        request'.sessionId = request.sessionId) : PlanReads plan t := by
  cases plan with
  | inl plan => trivial
  | inr plan =>
    cases plan with
    | review env auth input session existingRequest =>
      obtain ⟨role, request, found, ofSession⟩ := reads
      obtain ⟨request', there, same⟩ := stays _ _ found
      exact ⟨role, request', there, same.trans ofSession⟩
    | known | request => trivial

section Runs

variable {lookup : Institutions.Lookup} {rt : Runtime}

/-- Log entries leave sessions and requests as they are. -/
theorem session_log (plan : SessionPlan) (res : SessionResponse) (s : Store) :
    ((sessionMethods lookup rt).log plan res s).academicSessions = s.academicSessions ∧
      ((sessionMethods lookup rt).log plan res s).sealedSessionReopenRequests =
        s.sealedSessionReopenRequests := by
  cases plan with
  | inl plan =>
    cases res with
    | inl res =>
      show (setupLog plan res s).academicSessions = _ ∧ _
      rcases setupLog_spec plan res s with same | ⟨event, same⟩
      · rw [same]
        exact ⟨rfl, by rw [show (sessionMethods lookup rt).log (.inl plan) (.inl res) s = s from same]⟩
      · rw [same]
        exact ⟨rfl, by rw [show (sessionMethods lookup rt).log (.inl plan) (.inl res) s =
          s.audit event from same]; rfl⟩
    | inr res => exact ⟨rfl, rfl⟩
  | inr plan =>
    cases res with
    | inl res => exact ⟨rfl, rfl⟩
    | inr res => cases plan <;> exact ⟨rfl, rfl⟩

/-- A transaction keeps what the plans in flight have read. -/
theorem planReads_commit {plan : SessionPlan} {res : SessionResponse} {s t : Store}
    (written : (sessionMethods lookup rt).commit plan s = .ok (res, t)) {other : SessionPlan}
    (reads : PlanReads other s) : PlanReads other t := by
  refine reads.mono fun id request found => ?_
  rcases Method.sum_commit written with ⟨p, r, rfl, setup⟩ | ⟨p, r, rfl, escalated⟩
  · obtain ⟨sessions, structures, ruleSets, rfl⟩ := setupCommit_spec setup
    exact ⟨request, found, rfl⟩
  · exact request_commit escalated found

theorem turn_reads {p : SessionPool} {e : Turn SessionCall}
    (flight : Method.Flight (fun _ => True) PlanReads p) :
    Method.Flight (fun _ => True) PlanReads ((sessionMethods lookup rt).turn p e) := by
  refine Method.turn_flight (fun c s plan _ checked => planReads_of_check checked) ?_ flight ?_
  · intro plan res s _
    refine ⟨trivial, fun other reads => reads.mono fun id request found => ⟨request, ?_, rfl⟩⟩
    rw [(session_log plan res s).2]
    exact found
  · intro plan res t goes
    exact ⟨trivial, fun other reads => planReads_commit (Method.committing_spec goes).2 reads⟩

/-- A turn that lets no transaction through leaves the sessions. -/
theorem isSealed_of_not_committing {p : SessionPool} {e : Turn SessionCall} {id : Uuid}
    (stays : (sessionMethods lookup rt).committing p e = none) (is : IsSealed p.store id) :
    IsSealed ((sessionMethods lookup rt).turn p e).store id := by
  rcases Method.turn_of_not_committing stays with ⟨same, -⟩ | ⟨plan, res, same, -⟩
  · rw [same]
    exact is
  · rw [same]
    exact (isSealed_congr (session_log plan res p.store).1).mpr is

/-! ### One turn -/

/-- A sealed session that a turn changes is approved by a super admin, if the turn keeps to it. -/
theorem reopens_of_keeps {p : SessionPool} {e : Turn SessionCall}
    (flight : Method.Flight (fun _ => True) PlanReads p) (keeps : KeepsSealed lookup rt p e) :
    ReopensByRequest lookup rt p e := by
  intro id is opened
  cases goes : (sessionMethods lookup rt).committing p e with
  | none => exact absurd (isSealed_of_not_committing goes is) opened
  | some went =>
    obtain ⟨plan, res, t⟩ := went
    obtain ⟨inFlight, written⟩ := Method.committing_spec goes
    rw [(Method.turn_of_committing goes).1] at opened
    have kept := keeps plan res t goes
    have reads := flight.inFlight plan inFlight
    obtain ⟨session, found, status⟩ := is
    rcases Method.sum_commit written with ⟨setupPlan, r, rfl, setup⟩ | ⟨plan, r, rfl, escalated⟩
    · obtain ⟨session', there, -, after⟩ := session_commit setup found
      refine absurd ⟨session', there, after.trans ?_⟩ opened
      cases setupPlan with
      | updateSession auth input existing =>
        rw [statusAfter_update]
        by_cases here : existing.uuid = session.uuid
        · rw [if_pos here]
          have named := kept ⟨session, by rw [here, Table.find?_key found]; exact found, status⟩
          cases asked : input.status with
          | none => exact status
          | some other =>
            rw [asked] at named
            exact beq_iff_eq.mp named
        · rw [if_neg here]
          exact status
      | createSession | createStructure | updateStructure | createRuleSet | updateRuleSet =>
        exact status
    · rcases reopenCommit_cases escalated with ⟨rfl, -⟩ | ⟨env, auth, input, session, requests, -,
        -, rfl⟩ | ⟨env, auth, input, read, existingRequest, sessions, rfl, after, rfl⟩
      · exact absurd ⟨session, found, status⟩ opened
      · exact absurd ⟨_, found, status⟩ opened
      · by_cases approved : input.decision = .approve ∧ read.uuid = id
        · obtain ⟨approve, here⟩ := approved
          obtain ⟨role, request, there, ofSession⟩ := reads
          refine ⟨_, res, _, rfl, env, auth, input, read, existingRequest, rfl, role, approve,
            request, there, ofSession.trans here, ?_⟩
          exact kept ⟨session, by rw [here]; exact found, status⟩ approve request there
        · refine absurd ⟨session, ?_, status⟩ opened
          show sessions.find? id = some session
          rw [after, if_neg approved]
          exact found

/-- A turn under which sealed sessions change only so keeps to it. -/
theorem keeps_of_reopens {p : SessionPool} {e : Turn SessionCall}
    (reopens : ReopensByRequest lookup rt p e) : KeepsSealed lookup rt p e := by
  intro plan res t goes
  obtain ⟨-, written⟩ := Method.committing_spec goes
  have stored := (Method.turn_of_committing goes).1
  cases plan with
  | inl plan =>
    cases plan with
    | updateSession auth input existing =>
      intro is
      cases asked : input.status with
      | none => rfl
      | some other =>
        rw [Option.all_some, beq_iff_eq]
        by_contra differs
        obtain ⟨session, found, status⟩ := is
        have setup : setupCommit rt (.updateSession auth input existing) p.store =
            .ok (res.elim id fun _ => .session existing, t) := by
          obtain ⟨⟨r, u⟩, first, same⟩ := map_eq_ok.mp written
          obtain ⟨rfl, rfl⟩ := Prod.mk.inj same
          exact first
        obtain ⟨session', there, -, after⟩ := session_commit setup found
        have opened : ¬ IsSealed ((sessionMethods lookup rt).turn p e).store existing.uuid := by
          rw [stored]
          rintro ⟨row, here, sealed'⟩
          rw [there] at here
          obtain rfl := Option.some.inj here
          refine differs ?_
          rw [← sealed', after]
          rw [statusAfter_update, if_pos (Table.find?_key found).symm, asked]
          rfl
        obtain ⟨plan', res', t', goes', env, auth', input', session₂, request, is, -⟩ :=
          reopens existing.uuid ⟨session, found, status⟩ opened
        rw [goes] at goes'
        obtain ⟨rfl, -⟩ := Prod.mk.inj (Option.some.inj goes')
        exact absurd is (by simp)
    | createSession | createStructure | updateStructure | createRuleSet | updateRuleSet => trivial
  | inr plan =>
    cases plan with
    | review env auth input session existingRequest =>
      intro is approve request there
      have escalated : reopenCommit (.review env auth input session existingRequest) p.store =
          .ok (res.elim (fun _ => ⟨existingRequest, session⟩) id, t) := by
        obtain ⟨⟨r, u⟩, first, same⟩ := map_eq_ok.mp written
        obtain ⟨rfl, rfl⟩ := Prod.mk.inj same
        exact first
      have opened : ¬ IsSealed ((sessionMethods lookup rt).turn p e).store session.uuid := by
        rw [stored]
        rintro ⟨row, here, sealed'⟩
        rcases reopenCommit_cases escalated with ⟨-, _, _, other⟩ | ⟨_, _, _, _, _, other, -⟩ |
          ⟨_, _, _, _, _, sessions, same, after, rfl⟩
        · exact absurd other (by simp)
        · exact absurd other (by simp)
        · obtain ⟨rfl, rfl, rfl, rfl, rfl⟩ := ReopenPlan.review.inj same
          rw [show (_ : Table AcademicSession.uuid).find? session.uuid = _ from after session.uuid,
            if_pos ⟨approve, rfl⟩] at here
          obtain ⟨old, -, rfl⟩ := Option.map_eq_some_iff.mp here
          exact status_ne_sealed _ sealed'
      obtain ⟨plan', res', t', goes', env', auth', input', session', request', same, -, -,
        open_, found, -, status⟩ := reopens session.uuid is opened
      rw [goes] at goes'
      obtain ⟨rfl, -⟩ := Prod.mk.inj (Option.some.inj goes')
      obtain ⟨rfl, rfl, rfl, rfl, rfl⟩ := ReopenPlan.review.inj (Sum.inr.inj same)
      rw [there] at found
      obtain rfl := Option.some.inj found
      exact status
    | known | request => trivial

/-- **Sealed sessions change, in a run, only by a super admin approving an open request exactly if
no update that goes through names another status for a session that is sealed, and no review
approves a request that was reviewed before**; whatever institutions the lookup returns. -/
theorem reopened_iff (lookup : Institutions.Lookup) (rt : Runtime) (start : Store)
    (events : List (Turn SessionCall)) :
    Along (sessionMethods lookup rt).turn (ReopensByRequest lookup rt) ⟨start, []⟩ events ↔
      Along (sessionMethods lookup rt).turn (KeepsSealed lookup rt) ⟨start, []⟩ events := by
  have begins : Method.Flight (fun _ => True) PlanReads (⟨start, []⟩ : SessionPool) :=
    ⟨trivial, fun plan inside => absurd inside (by simp)⟩
  exact along_iff_of_exact (fun p e flight _ => turn_reads flight)
    (fun p e flight => ⟨keeps_of_reopens, reopens_of_keeps flight⟩) begins events

end Runs

/-! ### A sealed term -/

def termId : Uuid := "90000000-0000-4000-8000-000000000001"

/-- A lookup that finds the school, whatever the reference. -/
def schoolLookup : Institutions.Lookup :=
  fun _ _ s => .ok (s.institutions.find? Visibility.schoolId)

/-- The school with a sealed term. -/
def sealedSchool : Store :=
  { Visibility.staffed .active with
    academicSessions :=
      { rows :=
          [{ uuid := termId
             institutionId := Visibility.schoolId
             sessionLabel := "2024/2025"
             periodType := .term
             periodLabel := "Third Term"
             startDate := none
             endDate := none
             status := .sealed
             isCurrent := false
             createdById := none }]
        nodup := List.nodup_singleton _ } }

/-- The registrar asks for the term to be reopened, and the founder approves. -/
def escalated : List (Turn SessionCall) :=
  [.begin (.inr (.requestSealedSessionReopen ⟨0, 1, "b0000000-0000-4000-8000-000000000001"⟩
      Visibility.registrar termId (.obj [("reason", .str "One result is wrong.")]))),
    .advance 0 .done,
    .begin (.inr (.reviewSealedSessionReopen ⟨0, 2, ""⟩ BatchHistory.founder termId
      (.obj [("decision", .str "APPROVE"), ("reason", .str "One result is wrong.")]))),
    .advance 1 .done]

/-- The registrar updates the term instead. -/
def updated : List (Turn SessionCall) :=
  [.begin (.inl (.updateAcademicSession ⟨0, 1, ""⟩ Visibility.registrar termId
      (.obj [("status", .str "ACTIVE")]))),
    .advance 0 .done]

/-- The condition as a check, without a look at whether the session is sealed. -/
def keepsStatus (p : SessionPool) (e : Turn SessionCall) : Bool :=
  match (sessionMethods schoolLookup .plain).committing p e with
  | some (.inl (.updateSession _ input _), _) => input.status.all (· == .sealed)
  | some (.inr (.review _ _ _ _ existingRequest), _) =>
    (p.store.sealedSessionReopenRequests.find? existingRequest.uuid).all (·.status == .requested)
  | _ => true

theorem keepsSealed_of_status {p : SessionPool} {e : Turn SessionCall}
    (keeps : keepsStatus p e = true) : KeepsSealed schoolLookup .plain p e := by
  intro plan res t goes
  unfold keepsStatus at keeps
  rw [goes] at keeps
  cases plan with
  | inl plan =>
    cases plan with
    | updateSession auth input existing => exact fun _ => keeps
    | createSession | createStructure | updateStructure | createRuleSet | updateRuleSet => trivial
  | inr plan =>
    cases plan with
    | review env auth input session existingRequest =>
      intro _ _ request found
      simpa [found] using keeps
    | known | request => trivial

/-- The term is reopened by the founder. -/
theorem escalated_reopens :
    Along (sessionMethods schoolLookup .plain).turn (ReopensByRequest schoolLookup .plain)
      ⟨sealedSchool, []⟩ escalated := by
  refine (reopened_iff schoolLookup .plain sealedSchool escalated).mpr ?_
  refine Along.mono (fun p e keeps => keepsSealed_of_status keeps)
    (show Along _ (fun p e => keepsStatus p e = true) _ _ from ?_)
  decide

theorem isSealed_iff {s : Store} {id : Uuid} :
    IsSealed s id ↔ (s.academicSessions.find? id).map (·.status) = some .sealed :=
  Option.map_eq_some_iff.symm

/-- **A sealed session need not be reopened by request**: a registrar's update makes it active. -/
theorem reopened_fails :
    ¬ ∀ (lookup : Institutions.Lookup) (rt : Runtime) (start : Store)
      (events : List (Turn SessionCall)),
        Along (sessionMethods lookup rt).turn (ReopensByRequest lookup rt) ⟨start, []⟩ events := by
  intro all
  obtain ⟨-, reopens, -⟩ := all schoolLookup .plain sealedSchool updated
  have before : IsSealed sealedSchool termId := isSealed_iff.mpr (by decide)
  have after : ¬ IsSealed (runs (sessionMethods schoolLookup .plain).turn
      ⟨sealedSchool, []⟩ updated).store termId := by
    rw [isSealed_iff]
    decide
  obtain ⟨plan, res, t, goes, env, auth, input, session, request, same, -⟩ :=
    reopens termId before after
  have setup : (((sessionMethods schoolLookup .plain).committing
      (runs (sessionMethods schoolLookup .plain).turn ⟨sealedSchool, []⟩ (updated.take 1))
      (.advance 0 .done)).map fun went => went.1.isLeft) = some true := by
    decide
  rw [show (sessionMethods schoolLookup .plain).committing
    (runs (sessionMethods schoolLookup .plain).turn ⟨sealedSchool, []⟩ (updated.take 1))
    (.advance 0 .done) = _ from goes, same] at setup
  exact absurd setup (by simp)

end Reopening

end AcadID
