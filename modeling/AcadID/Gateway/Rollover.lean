/-
**Rollover: the enrolments of a session, each with a decision.**

* `confirmRolloverSchema` — the body; `rolloverCheck` resolves the institution, the sessions and the
  structures, and reads the active enrolments the decisions name, before the transaction.
* `confirmRows` — the transaction: for each decision the enrolment moved to its new status, an
  approved rollover record and, where the student goes on, a new active enrolment.
* `updateEnrolment` and `createEnrolment` keep `@@unique([institutionId, studentNumber, status])`;
  `Constraints` is what the schema asks of the tables together.
* `confirmDecision_spec` — **what one decision writes**; `rolloverCheck_spec` — **what the checks
  have seen**.
-/

import AcadID.Gateway.Institutions
import AcadID.Lib.Method

namespace AcadID

open Lib

namespace Rollovers

/-! ### The body -/

structure RolloverDecisionInput where
  enrolmentId : Uuid
  decision : RolloverDecision
  toSessionId : Option Uuid
  toStructureId : Option Uuid
  reason : Option String

structure ConfirmRolloverInput where
  institutionId : String
  fromSessionId : Uuid
  toSessionId : Option Uuid
  fromStructureId : Option Uuid
  toStructureId : Option Uuid
  decisions : List RolloverDecisionInput

def rolloverDecisions : List (String × RolloverDecision) :=
  [("PROMOTED", .promoted), ("REPEATED", .repeated), ("TRANSFERRED_OUT", .transferredOut),
    ("WITHDRAWN", .withdrawn), ("GRADUATED", .graduated), ("SUSPENDED", .suspended),
    ("SEALED", .sealed)]

open Schema in
def confirmRolloverDecisionSchema (rt : Runtime) : Schema RolloverDecisionInput :=
  let uuid := string [formatted rt.isUuid]
  object fun v =>
    RolloverDecisionInput.mk
      <$> field v "enrolmentId" uuid
      <*> field v "decision" (enum rolloverDecisions)
      <*> field v "toSessionId" (optional uuid)
      <*> field v "toStructureId" (optional uuid)
      <*> field v "reason" (optional (string [maxLength 1000]))

open Schema in
def confirmRolloverSchema (rt : Runtime) : Schema ConfirmRolloverInput :=
  let uuid := string [formatted rt.isUuid]
  object fun v =>
    ConfirmRolloverInput.mk
      <$> field v "institutionId" (string [minLength 1])
      <*> field v "fromSessionId" uuid
      <*> field v "toSessionId" (optional uuid)
      <*> field v "fromStructureId" (optional uuid)
      <*> field v "toStructureId" (optional uuid)
      <*> field v "decisions"
        (array (confirmRolloverDecisionSchema rt) [minItems 1, maxItems 500])

/-! ### The checks -/

/-- A session of the institution that is not sealed. -/
def isOpenSession (s : Store) (institutionId id : Uuid) : Bool :=
  (s.academicSessions.find? id).any fun session =>
    session.institutionId == institutionId && session.status != .sealed

/-- An active structure of the institution. -/
def isActiveStructure (s : Store) (institutionId id : Uuid) : Bool :=
  (s.academicStructures.find? id).any fun structureRow =>
    structureRow.institutionId == institutionId && structureRow.status == .active

def assertRolloverScope (institutionId fromSessionId : Uuid)
    (toSessionId fromStructureId toStructureId : Option Uuid) (s : Store) :
    Except ServiceError Unit := do
  require (isOpenSession s institutionId fromSessionId)
    (.badRequest "Source academic session must belong to the institution and must not be sealed.")
  require (toSessionId.all (isOpenSession s institutionId))
    (.badRequest "Target academic session must belong to the institution and must not be sealed.")
  require (fromStructureId.all (isActiveStructure s institutionId))
    (.badRequest "Source academic structure must be active and belong to the institution.")
  require (toStructureId.all (isActiveStructure s institutionId))
    (.badRequest "Target academic structure must be active and belong to the institution.")

/-- Whether the student goes on to a new enrolment. -/
def goesOn : RolloverDecision → Bool
  | .promoted | .repeated => true
  | _ => false

def assertDecisionTarget (institutionId : Uuid) (decision : RolloverDecision)
    (toSessionId toStructureId : Option Uuid) (s : Store) : Except ServiceError Unit :=
  if goesOn decision then do
    let target ← orThrow toSessionId
      (.badRequest (decision.name ++ " rollover decisions require a target academic session."))
    assertRolloverScope institutionId target (some target) none toStructureId s
  else .ok ()

/-- What the runtime and the database give a rollover. -/
structure RolloverEnv where
  pick : ℕ
  now : Time
  rolloverUuid : ℕ → Uuid
  enrolmentUuid : ℕ → Uuid

/-- What the checks have resolved. -/
structure RolloverPlan where
  env : RolloverEnv
  auth : AuthTokenPayload
  input : ConfirmRolloverInput
  institution : Institution
  enrolments : List Enrolment

def ConfirmRolloverInput.enrolmentIds (input : ConfirmRolloverInput) : List Uuid :=
  input.decisions.map (·.enrolmentId)

/-- The active enrolments of the source session that the decisions name. -/
def eligibleEnrolments (s : Store) (institutionId : Uuid) (input : ConfirmRolloverInput) :
    List Enrolment :=
  s.enrolments.rows.filter fun enrolment =>
    input.enrolmentIds.contains enrolment.uuid && enrolment.institutionId == institutionId &&
      enrolment.academicSessionId == some input.fromSessionId && enrolment.status == .active &&
        input.fromStructureId.all fun id => enrolment.structureScopeId == some id

/-- The enrolments among those named that have a rollover record of the source session, pending or
approved. -/
def duplicateIds (s : Store) (input : ConfirmRolloverInput) : List Uuid :=
  (s.rolloverRecords.rows.filter fun record =>
    record.enrolmentId.any input.enrolmentIds.contains &&
      record.fromSessionId == input.fromSessionId &&
        [RolloverStatus.pendingRollover, .approved].contains record.status).filterMap (·.enrolmentId)

/-- The message with which `GovernanceService` refuses API keys. -/
def humanOnly : String :=
  "Human institution session is required for governance actions."

def rolloverCheck (rt : Runtime) (env : RolloverEnv) (auth : AuthTokenPayload) (body : Json)
    (s : Store) : Except ServiceError RolloverPlan := do
  let input ← parseBody (confirmRolloverSchema rt) body
  let institution ← Institutions.resolveHumanInstitution humanOnly auth input.institutionId env.pick s
  assertRolloverScope institution.uuid input.fromSessionId input.toSessionId input.fromStructureId
    input.toStructureId s
  let enrolments := eligibleEnrolments s institution.uuid input
  let missing := input.enrolmentIds.filter fun id => !enrolments.any (·.uuid == id)
  require missing.isEmpty
    (.badRequestWith "Some rollover decisions reference inactive or out-of-scope enrolments."
      [("missing", .arr (missing.map .str))])
  require (duplicateIds s input).isEmpty
    (.badRequestWith "Some enrolments already have pending or approved rollover records."
      [("duplicateIds", .arr ((duplicateIds s input).map .str))])
  input.decisions.forM fun decision =>
    assertDecisionTarget institution.uuid decision.decision
      (decision.toSessionId.or input.toSessionId) (decision.toStructureId.or input.toStructureId) s
  return {
    env := env
    auth := auth
    input := input
    institution := institution
    enrolments := enrolments }

/-! ### Enrolments and rollover records -/

/-- `@@unique([institutionId, studentNumber, status])` -/
def enrolmentKey (enrolment : Enrolment) : Uuid × String × EnrolmentStatus :=
  (enrolment.institutionId, enrolment.studentNumber, enrolment.status)

/-- The schema's constraints on enrolments and rollover records that no table carries itself. -/
structure Constraints (s : Store) : Prop where
  keys : ∀ e ∈ s.enrolments.rows, ∀ e' ∈ s.enrolments.rows, enrolmentKey e = enrolmentKey e' →
    e.uuid = e'.uuid
  sessions : ∀ e ∈ s.enrolments.rows, ∀ id, e.academicSessionId = some id →
    (s.academicSessions.find? id).isSome
  structures : ∀ e ∈ s.enrolments.rows, ∀ id, e.structureScopeId = some id →
    (s.academicStructures.find? id).isSome
  records : ∀ r ∈ s.rolloverRecords.rows, ∀ id, r.enrolmentId = some id →
    (s.enrolments.find? id).isSome

/-- The status of an enrolment, if it is there. -/
def statusOf (s : Store) (id : Uuid) : Option EnrolmentStatus :=
  (s.enrolments.find? id).map (·.status)

/-- An enrolment updated, unless another one has the key it would get. -/
def updateEnrolment (s : Store) (id : Uuid) (f : Enrolment → Enrolment)
    (keeps : ∀ e, (f e).uuid = e.uuid) : Except ServiceError Store := do
  let enrolment ← orThrow (s.enrolments.find? id) .recordNotFound
  require (s.enrolments.rows.all fun other =>
    other.uuid == id || enrolmentKey other != enrolmentKey (f enrolment)) .uniqueViolation
  return { s with enrolments := s.enrolments.update id f keeps }

/-- One more enrolment, of a session and a structure that exist. -/
def createEnrolment (s : Store) (enrolment : Enrolment) : Except ServiceError Store := do
  require (enrolment.academicSessionId.all fun id => (s.academicSessions.find? id).isSome) .database
  require (enrolment.structureScopeId.all fun id => (s.academicStructures.find? id).isSome) .database
  require (s.enrolments.rows.all fun other => enrolmentKey other != enrolmentKey enrolment)
    .uniqueViolation
  let enrolments ← insertUnique s.enrolments enrolment
  return { s with enrolments := enrolments }

/-- One more rollover record, of sessions and structures that exist. -/
def createRolloverRecord (s : Store) (rollover : RolloverRecord) : Except ServiceError Store := do
  require ((s.academicSessions.find? rollover.fromSessionId).isSome &&
    rollover.toSessionId.all fun id => (s.academicSessions.find? id).isSome) .database
  require ((rollover.fromStructureId.all fun id => (s.academicStructures.find? id).isSome) &&
    rollover.toStructureId.all fun id => (s.academicStructures.find? id).isSome) .database
  let rolloverRecords ← insertUnique s.rolloverRecords rollover
  return { s with rolloverRecords := rolloverRecords }

/-! ### The transaction -/

def enrolmentStatusForDecision : RolloverDecision → EnrolmentStatus
  | .promoted => .promoted
  | .repeated => .repeated
  | .transferredOut => .transferredOut
  | .withdrawn => .withdrawn
  | .graduated => .graduated
  | .suspended => .suspended
  | .sealed => .sealed

def terminalDecision : RolloverDecision → Bool
  | .transferredOut | .withdrawn | .graduated => true
  | _ => false

def exitTypeForDecision : RolloverDecision → Option ExitType
  | .transferredOut => some .transfer
  | .withdrawn => some .withdraw
  | .graduated => some .graduate
  | _ => none

/-- The enrolment that a decision ends. -/
def decided (decision : RolloverDecision) (now : Time) (enrolment : Enrolment) : Enrolment :=
  { enrolment with
    status := enrolmentStatusForDecision decision
    exitDate := if terminalDecision decision then some now else enrolment.exitDate
    exitType := (exitTypeForDecision decision).or enrolment.exitType }

def levelForTargetStructure (s : Store) (structureId : Option Uuid) (fallbackLevel : String) :
    String :=
  ((structureId.bind s.academicStructures.find?).map (·.name)).getD fallbackLevel

namespace RolloverPlan

def enrolmentById (plan : RolloverPlan) (id : Uuid) : Option Enrolment :=
  plan.enrolments.find? (·.uuid == id)

def toSessionId (plan : RolloverPlan) (decision : RolloverDecisionInput) : Option Uuid :=
  decision.toSessionId.or plan.input.toSessionId

def toStructureId (plan : RolloverPlan) (decision : RolloverDecisionInput)
    (enrolment : Enrolment) : Option Uuid :=
  (decision.toStructureId.or plan.input.toStructureId).or
    (if decision.decision = .repeated then enrolment.structureScopeId else none)

end RolloverPlan

def newRollover (plan : RolloverPlan) (decision : RolloverDecisionInput) (enrolment : Enrolment)
    (index : ℕ) : RolloverRecord where
  uuid := plan.env.rolloverUuid index
  institutionId := plan.institution.uuid
  learnerId := enrolment.learnerId
  enrolmentId := some enrolment.uuid
  fromSessionId := plan.input.fromSessionId
  toSessionId := plan.toSessionId decision
  fromStructureId := enrolment.structureScopeId
  toStructureId := plan.toStructureId decision enrolment
  decision := decision.decision
  status := .approved
  reason := decision.reason
  createdById := plan.auth.institutionUserId
  approvedById := plan.auth.institutionUserId
  disputeId := none
  approvedAt := some plan.env.now
  disputedAt := none
  disputeResolutionNote := none

def nextEnrolment (plan : RolloverPlan) (decision : RolloverDecisionInput) (enrolment : Enrolment)
    (index : ℕ) (s : Store) : Enrolment where
  uuid := plan.env.enrolmentUuid index
  learnerId := enrolment.learnerId
  institutionId := plan.institution.uuid
  academicSessionId := plan.toSessionId decision
  structureScopeId := plan.toStructureId decision enrolment
  studentNumber := enrolment.studentNumber
  level := levelForTargetStructure s (plan.toStructureId decision enrolment) enrolment.level
  programme := enrolment.programme
  entryDate := plan.env.now
  exitDate := none
  exitType := none
  status := .active

/-- One decision, as the call answers with it. -/
structure ConfirmedRollover where
  rolloverId : Uuid
  enrolmentId : Uuid
  learnerId : Uuid
  decision : RolloverDecision
  status : RolloverStatus
  newEnrolmentId : Option Uuid

def confirmDecision (plan : RolloverPlan) (index : ℕ) (decision : RolloverDecisionInput)
    (s : Store) : Except ServiceError (ConfirmedRollover × Store) := do
  let enrolment ← orThrow (plan.enrolmentById decision.enrolmentId)
    (.badRequest "Rollover decision references an unknown enrolment.")
  let s ← updateEnrolment s enrolment.uuid (decided decision.decision plan.env.now) fun _ => rfl
  let rollover := newRollover plan decision enrolment index
  let s ← createRolloverRecord s rollover
  let row := fun newEnrolmentId =>
    { rolloverId := rollover.uuid
      enrolmentId := enrolment.uuid
      learnerId := enrolment.learnerId
      decision := decision.decision
      status := rollover.status
      newEnrolmentId := newEnrolmentId : ConfirmedRollover }
  if goesOn decision.decision then
    let next := nextEnrolment plan decision enrolment index s
    let s ← createEnrolment s next
    return (row (some next.uuid), s)
  else return (row none, s)

/-- The decisions one after the other, each under a number of its own. -/
def confirmRows (plan : RolloverPlan) :
    ℕ → List RolloverDecisionInput → Store → Except ServiceError (List ConfirmedRollover × Store)
  | _, [], s => .ok ([], s)
  | index, decision :: decisions, s => do
    let (row, s) ← confirmDecision plan index decision s
    let (rows, s) ← confirmRows plan (index + 1) decisions s
    return (row :: rows, s)

/-- How many of the rows have each decision, in the order they come up. -/
def countDecisions (rows : List ConfirmedRollover) : List (String × ℕ) :=
  rows.foldl (fun counts row =>
    let name := row.decision.name
    if counts.any (·.1 == name) then
      counts.map fun entry => if entry.1 == name then (name, entry.2 + 1) else entry
    else counts ++ [(name, 1)]) []

def rolloverAudit (plan : RolloverPlan) (confirmed : List ConfirmedRollover) : AuditEvent where
  actorType := inferActorType none (some plan.auth.sub)
  actorId := some plan.auth.sub
  actorRole := some plan.auth.role
  action := "rollover.confirm"
  targetType := "AcademicSession"
  targetId := some plan.input.fromSessionId
  institutionId := some plan.institution.uuid
  outcome := "SUCCESS"
  reason := none
  metadata := .obj
    [("confirmedCount", .num confirmed.length),
      ("decisions", .obj ((countDecisions confirmed).map fun entry => (entry.1, .num entry.2)))]

/-- A call of `confirmRollover`. -/
structure RolloverCall where
  env : RolloverEnv
  auth : AuthTokenPayload
  body : Json

def confirmRollover (rt : Runtime) :
    Method Store ServiceError RolloverCall RolloverPlan (List ConfirmedRollover) where
  check c s := rolloverCheck rt c.env c.auth c.body s
  commit plan s := confirmRows plan 0 plan.input.decisions s
  log plan confirmed s := s.audit (rolloverAudit plan confirmed)

/-! ### What the transaction writes -/

/-- **An enrolment is updated** when it is there and no other has the key it would get. -/
theorem updateEnrolment_eq_ok {s t : Store} {id : Uuid} {f : Enrolment → Enrolment}
    {keeps : ∀ e, (f e).uuid = e.uuid} :
    updateEnrolment s id f keeps = .ok t ↔ ∃ enrolment, s.enrolments.find? id = some enrolment ∧
      (∀ other ∈ s.enrolments.rows, other.uuid ≠ id → enrolmentKey other ≠ enrolmentKey (f enrolment))
        ∧ t = { s with enrolments := s.enrolments.update id f keeps } := by
  unfold updateEnrolment
  constructor
  · intro updated
    obtain ⟨enrolment, found, rest⟩ := bind_eq_ok.mp updated
    obtain ⟨_, free, same⟩ := bind_eq_ok.mp rest
    rw [pure_eq_ok] at same
    rw [require_eq_ok, List.all_eq_true] at free
    refine ⟨enrolment, orThrow_eq_ok.mp found, fun other inside differs => ?_, same.symm⟩
    have either := free other inside
    rw [Bool.or_eq_true, beq_iff_eq, bne_iff_ne] at either
    exact either.resolve_left differs
  · rintro ⟨enrolment, found, free, rfl⟩
    refine bind_eq_ok.mpr ⟨enrolment, orThrow_eq_ok.mpr found, ?_⟩
    refine bind_eq_ok.mpr ⟨(), require_eq_ok.mpr (List.all_eq_true.mpr fun other inside => ?_), rfl⟩
    rw [Bool.or_eq_true, beq_iff_eq, bne_iff_ne]
    by_cases is : other.uuid = id
    · exact .inl is
    · exact .inr (free other inside is)

/-- **A created enrolment** is of a session and a structure that exist, and has a key and an id of
its own. -/
theorem createEnrolment_eq_ok {s t : Store} {enrolment : Enrolment} :
    createEnrolment s enrolment = .ok t ↔
      (∀ id, enrolment.academicSessionId = some id → (s.academicSessions.find? id).isSome) ∧
      (∀ id, enrolment.structureScopeId = some id → (s.academicStructures.find? id).isSome) ∧
      (∀ other ∈ s.enrolments.rows, enrolmentKey other ≠ enrolmentKey enrolment) ∧
      ∃ enrolments, s.enrolments.insert enrolment = some enrolments ∧
        t = { s with enrolments := enrolments } := by
  unfold createEnrolment
  simp only [bind_eq_ok, require_eq_ok, pure_eq_ok, orThrow_eq_ok, insertUnique,
    Option.all_eq_true, List.all_eq_true, bne_iff_ne]
  constructor
  · rintro ⟨_, ofSession, _, ofStructure, _, free, enrolments, inserted, rfl⟩
    exact ⟨ofSession, ofStructure, free, enrolments, inserted, rfl⟩
  · rintro ⟨ofSession, ofStructure, free, enrolments, inserted, rfl⟩
    exact ⟨(), ofSession, (), ofStructure, (), free, enrolments, inserted, rfl⟩

/-- **A created rollover record** is of sessions and structures that exist, and has an id of its
own. -/
theorem createRolloverRecord_eq_ok {s t : Store} {rollover : RolloverRecord} :
    createRolloverRecord s rollover = .ok t ↔
      ((s.academicSessions.find? rollover.fromSessionId).isSome ∧
        ∀ id, rollover.toSessionId = some id → (s.academicSessions.find? id).isSome) ∧
      ((∀ id, rollover.fromStructureId = some id → (s.academicStructures.find? id).isSome) ∧
        ∀ id, rollover.toStructureId = some id → (s.academicStructures.find? id).isSome) ∧
      ∃ rollovers, s.rolloverRecords.insert rollover = some rollovers ∧
        t = { s with rolloverRecords := rollovers } := by
  unfold createRolloverRecord
  simp only [bind_eq_ok, require_eq_ok, pure_eq_ok, orThrow_eq_ok, insertUnique,
    Bool.and_eq_true, Option.all_eq_true]
  constructor
  · rintro ⟨_, sessions, _, structures, rollovers, inserted, rfl⟩
    exact ⟨sessions, structures, rollovers, inserted, rfl⟩
  · rintro ⟨sessions, structures, rollovers, inserted, rfl⟩
    exact ⟨(), sessions, (), structures, rollovers, inserted, rfl⟩

/-- The enrolments once a decision is written: the enrolment decided and, where the student goes on,
the next one. -/
def Continues (plan : RolloverPlan) (decision : RolloverDecisionInput) (enrolment : Enrolment)
    (index : ℕ) (s : Store) (enrolments : Table Enrolment.uuid) : Prop :=
  let moved := s.enrolments.update enrolment.uuid (decided decision.decision plan.env.now)
    fun _ => rfl
  if goesOn decision.decision then
    moved.insert (nextEnrolment plan decision enrolment index s) = some enrolments
  else enrolments = moved

/-- **What one decision writes**: the enrolment that the check has read is moved, and a rollover
record of it created; nothing but enrolments and rollover records changes. -/
theorem confirmDecision_spec {plan : RolloverPlan} {index : ℕ} {decision : RolloverDecisionInput}
    {s t : Store} {row : ConfirmedRollover}
    (confirmed : confirmDecision plan index decision s = .ok (row, t)) :
    ∃ enrolment enrolments rollovers,
      plan.enrolmentById decision.enrolmentId = some enrolment ∧
      (∃ old, s.enrolments.find? enrolment.uuid = some old ∧
        ∀ other ∈ s.enrolments.rows, other.uuid ≠ enrolment.uuid →
          enrolmentKey other ≠ enrolmentKey (decided decision.decision plan.env.now old)) ∧
      s.rolloverRecords.insert (newRollover plan decision enrolment index) = some rollovers ∧
      Continues plan decision enrolment index s enrolments ∧
      t = { s with enrolments := enrolments, rolloverRecords := rollovers } := by
  unfold confirmDecision at confirmed
  obtain ⟨enrolment, read, rest⟩ := bind_eq_ok.mp confirmed
  obtain ⟨s₁, updated, rest⟩ := bind_eq_ok.mp rest
  obtain ⟨s₂, recorded, rest⟩ := bind_eq_ok.mp rest
  obtain ⟨old, found, free, rfl⟩ := updateEnrolment_eq_ok.mp updated
  obtain ⟨-, -, rollovers, grown, rfl⟩ := createRolloverRecord_eq_ok.mp recorded
  by_cases on : goesOn decision.decision
  · rw [if_pos on] at rest
    obtain ⟨s₃, created, same⟩ := bind_eq_ok.mp rest
    rw [pure_eq_ok] at same
    obtain ⟨-, rfl⟩ := Prod.mk.inj same
    obtain ⟨-, -, -, enrolments, inserted, rfl⟩ := createEnrolment_eq_ok.mp created
    refine ⟨enrolment, enrolments, rollovers, orThrow_eq_ok.mp read, ⟨old, found, free⟩, grown, ?_, rfl⟩
    unfold Continues
    rw [if_pos on]
    exact inserted
  · rw [if_neg on, pure_eq_ok] at rest
    obtain ⟨-, rfl⟩ := Prod.mk.inj rest
    refine ⟨enrolment, _, rollovers, orThrow_eq_ok.mp read, ⟨old, found, free⟩, grown, ?_, rfl⟩
    unfold Continues
    rw [if_neg on]

/-- The rows of a transaction, one decision after the other. -/
theorem confirmRows_cons {plan : RolloverPlan} {index : ℕ} {decision : RolloverDecisionInput}
    {decisions : List RolloverDecisionInput} {s t : Store} {rows : List ConfirmedRollover} :
    confirmRows plan index (decision :: decisions) s = .ok (rows, t) ↔
      ∃ row rest u, confirmDecision plan index decision s = .ok (row, u) ∧
        confirmRows plan (index + 1) decisions u = .ok (rest, t) ∧ rows = row :: rest := by
  rw [confirmRows]
  constructor
  · intro confirmed
    obtain ⟨⟨row, u⟩, first, others⟩ := bind_eq_ok.mp confirmed
    obtain ⟨⟨rest, t'⟩, later, same⟩ := bind_eq_ok.mp others
    rw [pure_eq_ok] at same
    obtain ⟨rfl, rfl⟩ := Prod.mk.inj same
    exact ⟨row, rest, u, first, later, rfl⟩
  · rintro ⟨row, rest, u, first, later, rfl⟩
    exact bind_eq_ok.mpr ⟨(row, u), first, bind_eq_ok.mpr ⟨(rest, t), later, rfl⟩⟩

/-! ### What the checks have seen -/

theorem resolveHumanInstitution_spec {refusal : String} {auth : AuthTokenPayload}
    {institutionRef : String} {pick : ℕ} {s : Store} {institution : Institution}
    (resolved : Institutions.resolveHumanInstitution refusal auth institutionRef pick s =
      .ok institution) :
    Institutions.resolveReadableInstitution auth institutionRef pick s = .ok institution := by
  obtain ⟨_, -, rest⟩ := bind_eq_ok.mp resolved
  exact rest

/-- The plan of a rollover, and what its checks have read of the store. -/
structure Planned (plan : RolloverPlan) (s : Store) : Prop where
  scope : assertRolloverScope plan.institution.uuid plan.input.fromSessionId plan.input.toSessionId
    plan.input.fromStructureId plan.input.toStructureId s = .ok ()
  enrolments : plan.enrolments = eligibleEnrolments s plan.institution.uuid plan.input
  named : ∀ id ∈ plan.input.enrolmentIds, ∃ e ∈ plan.enrolments, e.uuid = id
  unrolled : duplicateIds s plan.input = []
  targets : ∀ d ∈ plan.input.decisions, assertDecisionTarget plan.institution.uuid d.decision
    (plan.toSessionId d) (d.toStructureId.or plan.input.toStructureId) s = .ok ()

/-- **What the checks of a rollover have seen.** -/
theorem rolloverCheck_spec {rt : Runtime} {env : RolloverEnv} {auth : AuthTokenPayload}
    {body : Json} {s : Store} {plan : RolloverPlan}
    (checked : rolloverCheck rt env auth body s = .ok plan) :
    confirmRolloverSchema rt (some body) = .valid plan.input ∧ plan.env = env ∧ Planned plan s := by
  unfold rolloverCheck at checked
  obtain ⟨input, parsed, rest⟩ := bind_eq_ok.mp checked
  obtain ⟨institution, -, rest⟩ := bind_eq_ok.mp rest
  obtain ⟨⟨⟩, scope, rest⟩ := bind_eq_ok.mp rest
  obtain ⟨⟨⟩, named, rest⟩ := bind_eq_ok.mp rest
  obtain ⟨⟨⟩, unrolled, rest⟩ := bind_eq_ok.mp rest
  obtain ⟨⟨⟩, targets, same⟩ := bind_eq_ok.mp rest
  rw [pure_eq_ok] at same
  subst same
  refine ⟨parseBody_eq_ok.mp parsed, rfl, scope, rfl, fun id inside => ?_, ?_, ?_⟩
  · rw [require_eq_ok, List.isEmpty_iff, List.filter_eq_nil_iff] at named
    have present := named id inside
    rw [Bool.not_eq_true, Bool.not_eq_false', List.any_eq_true] at present
    obtain ⟨e, eligible, is⟩ := present
    exact ⟨e, eligible, by simpa using is⟩
  · rw [require_eq_ok, List.isEmpty_iff] at unrolled
    exact unrolled
  · exact forM_eq_ok.mp targets

theorem mem_eligible {s : Store} {institutionId : Uuid} {input : ConfirmRolloverInput}
    {e : Enrolment} (eligible : e ∈ eligibleEnrolments s institutionId input) :
    e ∈ s.enrolments.rows ∧ e.institutionId = institutionId ∧
      e.academicSessionId = some input.fromSessionId ∧ e.status = .active := by
  obtain ⟨inside, meets⟩ := List.mem_filter.mp eligible
  simp only [Bool.and_eq_true, beq_iff_eq] at meets
  exact ⟨inside, meets.1.1.1.2, meets.1.1.2, meets.1.2⟩

/-- A decided enrolment of a plan is the one the decision names. -/
theorem enrolmentById_spec {plan : RolloverPlan} {id : Uuid} {e : Enrolment}
    (read : plan.enrolmentById id = some e) : e ∈ plan.enrolments ∧ e.uuid = id := by
  unfold RolloverPlan.enrolmentById at read
  exact ⟨List.mem_of_find?_eq_some read, by simpa using List.find?_some read⟩

end Rollovers

end AcadID
