/-
**The ingestion of a student register.**

* `ingestStudentRegisterSchema` — the body; `studentsCheck` resolves the authority of the actor.
* `ingestRow` — one row of the register: a student number with an active enrolment is left alone;
  otherwise the learner is found by name and date of birth, or created, and enrolled.
* `ingestRows_spec` — **what an ingestion adds**: learners, and active enrolments of the institution
  that are in no session.
-/

import AcadID.Gateway.Rollover

namespace AcadID

open Lib

namespace Students

open Rollovers

/-! ### The body -/

structure StudentRegisterRow where
  fullName : String
  dateOfBirth : String
  studentNumber : String
  level : String
  programme : String
  phone : Option String

structure IngestStudentRegisterInput where
  institutionId : String
  entryDate : Option String
  rows : List StudentRegisterRow

open Schema in
def studentRegisterRowSchema (rt : Runtime) : Schema StudentRegisterRow :=
  object fun v =>
    StudentRegisterRow.mk
      <$> field v "fullName" (string [minLength 2])
      <*> field v "dateOfBirth" (string [formatted rt.isDate])
      <*> field v "studentNumber" (string [minLength 1])
      <*> field v "level" (string [minLength 1])
      <*> field v "programme" (string [minLength 1])
      <*> field v "phone" (optional (string []))

open Schema in
def ingestStudentRegisterSchema (rt : Runtime) : Schema IngestStudentRegisterInput :=
  object fun v =>
    IngestStudentRegisterInput.mk
      <$> field v "institutionId" (string [minLength 1])
      <*> field v "entryDate" (optional (string [formatted rt.isDate]))
      <*> field v "rows" (array (studentRegisterRowSchema rt) [minItems 1, maxItems 500])

/-! ### The check -/

/-- What the runtime and the database give an ingestion. -/
structure StudentsEnv where
  pick : ℕ
  rowPick : ℕ → ℕ
  checkedAt : Time
  enteredAt : Time
  learnerUuid : ℕ → Uuid
  enrolmentUuid : ℕ → Uuid

structure StudentsPlan where
  env : StudentsEnv
  auth : AuthTokenPayload
  input : IngestStudentRegisterInput
  authority : Authority.InstitutionAuthority
  /-- `None` is an invalid date. -/
  entryDate : Option Time

def studentsCheck (rt : Runtime) (env : StudentsEnv) (auth : AuthTokenPayload) (body : Json)
    (s : Store) : Except ServiceError StudentsPlan := do
  let input ← parseBody (ingestStudentRegisterSchema rt) body
  let authority ← Authority.assertInstitutionCan input.institutionId "ingest_students" auth
    env.checkedAt env.pick s
  let today := String.ofList ((Text.toISOString env.enteredAt).toList.take 10)
  return {
    env := env
    auth := auth
    input := input
    authority := authority
    entryDate := rt.parseDate (input.entryDate.getD today) }

/-! ### The transaction -/

/-- `AIN-${country}-${year}-${sequence}`, with at least seven digits. The country of every call is
`NG`, which `trim` and `toUpperCase` leave as it is. -/
def formatAin (countryCode : String) (firstEnrollmentYear : ℤ) (sequence : ℕ) : String :=
  "AIN-" ++ countryCode ++ "-" ++ toString firstEnrollmentYear ++ "-" ++ Text.padStart 7 sequence

/-- What became of a row. -/
inductive RowStatus where
  | alreadyEnrolled
  | enrolled
  deriving DecidableEq, Repr

def RowStatus.name : RowStatus → String
  | .alreadyEnrolled => "already_enrolled"
  | .enrolled => "enrolled"

structure RegisteredRow where
  studentNumber : String
  ain : String
  status : RowStatus

/-- The counters of the transaction. -/
structure Register where
  learnerSequence : ℕ
  createdLearners : ℕ
  linkedLearners : ℕ
  createdEnrolments : ℕ
  existingEnrolments : ℕ
  rows : List RegisteredRow

/-- One more learner, with an `ain` that no other has. -/
def createLearner (s : Store) (learner : Learner) : Except ServiceError Store := do
  require (s.learners.rows.all fun other => other.ain != learner.ain) .uniqueViolation
  let learners ← insertUnique s.learners learner
  return { s with learners := learners }

def newLearner (plan : StudentsPlan) (entryDate : Time) (index sequence : ℕ)
    (row : StudentRegisterRow) (dateOfBirth : Time) : Learner where
  uuid := plan.env.learnerUuid index
  ain := formatAin "NG" (Text.utcFullYear entryDate) sequence
  fullName := row.fullName
  dateOfBirth := dateOfBirth
  phone := row.phone
  identityStatus := .unverified

def newEnrolment (plan : StudentsPlan) (entryDate : Time) (index : ℕ) (row : StudentRegisterRow)
    (learner : Learner) : Enrolment where
  uuid := plan.env.enrolmentUuid index
  learnerId := learner.uuid
  institutionId := plan.authority.institutionUuid
  academicSessionId := none
  structureScopeId := none
  studentNumber := row.studentNumber
  level := row.level
  programme := row.programme
  entryDate := entryDate
  exitDate := none
  exitType := none
  status := .active

/-- The learner of a row, found or created, and the register and the store after that. -/
def learnerFor (plan : StudentsPlan) (entryDate : Time) (index : ℕ) (row : StudentRegisterRow)
    (dateOfBirth : Time) (register : Register) (s : Store) :
    Except ServiceError (Learner × Register × Store) :=
  match findFirst s.learners.rows
    (fun learner => learner.fullName == row.fullName && learner.dateOfBirth == dateOfBirth)
    (plan.env.rowPick index) with
  | some learner =>
    .ok (learner, { register with linkedLearners := register.linkedLearners + 1 }, s)
  | none => do
    let sequence := register.learnerSequence + 1
    let learner := newLearner plan entryDate index sequence row dateOfBirth
    let s ← createLearner s learner
    return (learner,
      { register with
        learnerSequence := sequence
        createdLearners := register.createdLearners + 1 }, s)

def ingestRow (rt : Runtime) (plan : StudentsPlan) (index : ℕ) (row : StudentRegisterRow)
    (register : Register) (s : Store) : Except ServiceError (Register × Store) :=
  match findFirst s.enrolments.rows
    (fun enrolment => enrolment.institutionId == plan.authority.institutionUuid &&
      enrolment.studentNumber == row.studentNumber && enrolment.status == .active)
    (plan.env.rowPick index) with
  | some existing => do
    let learner ← orThrow (s.learners.find? existing.learnerId) .database
    return ({ register with
      existingEnrolments := register.existingEnrolments + 1
      rows := register.rows ++ [⟨row.studentNumber, learner.ain, .alreadyEnrolled⟩] }, s)
  | none => do
    -- An invalid date is refused by the database: of the birth by the lookup, of the entry by the
    -- new enrolment, which undoes the learner.
    let dateOfBirth ← orThrow (rt.parseDate row.dateOfBirth) .database
    let entryDate ← orThrow plan.entryDate .database
    let (learner, register, s) ← learnerFor plan entryDate index row dateOfBirth register s
    let s ← createEnrolment s (newEnrolment plan entryDate index row learner)
    return ({ register with
      createdEnrolments := register.createdEnrolments + 1
      rows := register.rows ++ [⟨row.studentNumber, learner.ain, .enrolled⟩] }, s)

/-- The rows one after the other, each under a number of its own. -/
def ingestRows (rt : Runtime) (plan : StudentsPlan) :
    ℕ → List StudentRegisterRow → Register → Store → Except ServiceError (Register × Store)
  | _, [], register, s => .ok (register, s)
  | index, row :: rows, register, s => do
    let (register, s) ← ingestRow rt plan index row register s
    ingestRows rt plan (index + 1) rows register s

/-- The register before the first row. -/
def emptyRegister (s : Store) : Register where
  learnerSequence := s.learners.rows.length
  createdLearners := 0
  linkedLearners := 0
  createdEnrolments := 0
  existingEnrolments := 0
  rows := []

def studentsAudit (plan : StudentsPlan) (register : Register) : AuditEvent where
  actorType := inferActorType none plan.auth.actorId
  actorId := plan.auth.actorId
  actorRole := plan.auth.actorRole
  action := "ingest.students"
  targetType := "Institution"
  targetId := some plan.authority.institutionUuid
  institutionId := some plan.authority.institutionUuid
  outcome := "SUCCESS"
  reason := none
  metadata := Json.fields
    [("apiKeyId", plan.auth.apiKeyId.map .str),
      ("authorityGrantId", some (.str plan.authority.authorityGrantId)),
      ("createdLearners", some (.num register.createdLearners)),
      ("linkedLearners", some (.num register.linkedLearners)),
      ("createdEnrolments", some (.num register.createdEnrolments)),
      ("existingEnrolments", some (.num register.existingEnrolments))]

/-- A call of `ingestStudents`. -/
structure StudentsCall where
  env : StudentsEnv
  auth : AuthTokenPayload
  body : Json

def ingestStudents (rt : Runtime) :
    Method Store ServiceError StudentsCall StudentsPlan Register where
  check c s := studentsCheck rt c.env c.auth c.body s
  commit plan s := ingestRows rt plan 0 plan.input.rows (emptyRegister s) s
  log plan register s := s.audit (studentsAudit plan register)

/-! ### What an ingestion adds -/

/-- More enrolments of the institution, none of them in a session. -/
structure Enrols (plan : StudentsPlan) (s t : Store) : Prop where
  enrolments : ∃ new, t.enrolments.rows = s.enrolments.rows ++ new ∧
    ∀ e ∈ new, e.institutionId = plan.authority.institutionUuid ∧ e.status = .active ∧
      e.academicSessionId = none
  frame : ∃ learners enrolments, t = { s with learners := learners, enrolments := enrolments }

theorem Enrols.refl (plan : StudentsPlan) (s : Store) : Enrols plan s s :=
  ⟨⟨[], (List.append_nil _).symm, by simp⟩, s.learners, s.enrolments, rfl⟩

theorem Enrols.trans {plan : StudentsPlan} {s t u : Store} (first : Enrols plan s t)
    (second : Enrols plan t u) : Enrols plan s u := by
  obtain ⟨⟨new, rows, each⟩, learners, enrolments, rfl⟩ := first
  obtain ⟨⟨new', rows', each'⟩, learners', enrolments', rfl⟩ := second
  refine ⟨⟨new ++ new', ?_, fun e inside => ?_⟩, learners', enrolments', rfl⟩
  · rw [rows', rows, List.append_assoc]
  · exact (List.mem_append.mp inside).elim (each e) (each' e)

/-- **A created learner** has an `ain` that no other has; it is the only change. -/
theorem createLearner_eq_ok {s t : Store} {learner : Learner} :
    createLearner s learner = .ok t ↔ (∀ other ∈ s.learners.rows, other.ain ≠ learner.ain) ∧
      ∃ learners, s.learners.insert learner = some learners ∧
        t = { s with learners := learners } := by
  unfold createLearner
  constructor
  · intro created
    obtain ⟨_, free, rest⟩ := bind_eq_ok.mp created
    obtain ⟨learners, inserted, same⟩ := bind_eq_ok.mp rest
    rw [require_eq_ok, List.all_eq_true] at free
    rw [pure_eq_ok] at same
    refine ⟨fun other inside => bne_iff_ne.mp (free other inside), learners, ?_, same.symm⟩
    exact orThrow_eq_ok.mp inserted
  · rintro ⟨free, learners, inserted, rfl⟩
    refine bind_eq_ok.mpr ⟨(), require_eq_ok.mpr (List.all_eq_true.mpr fun other inside => ?_), ?_⟩
    · exact bne_iff_ne.mpr (free other inside)
    · exact bind_eq_ok.mpr ⟨learners, orThrow_eq_ok.mpr inserted, rfl⟩

theorem learnerFor_spec {plan : StudentsPlan} {entryDate : Time} {index : ℕ}
    {row : StudentRegisterRow} {dateOfBirth : Time} {register register' : Register} {s t : Store}
    {learner : Learner}
    (found : learnerFor plan entryDate index row dateOfBirth register s =
      .ok (learner, register', t)) : ∃ learners, t = { s with learners := learners } := by
  unfold learnerFor at found
  split at found
  · obtain ⟨-, same⟩ := Prod.mk.inj (Except.ok.inj found)
    obtain ⟨-, rfl⟩ := Prod.mk.inj same
    exact ⟨s.learners, rfl⟩
  · obtain ⟨u, created, same⟩ := bind_eq_ok.mp found
    rw [pure_eq_ok] at same
    obtain ⟨-, same⟩ := Prod.mk.inj same
    obtain ⟨-, rfl⟩ := Prod.mk.inj same
    obtain ⟨-, learners, -, rfl⟩ := createLearner_eq_ok.mp created
    exact ⟨learners, rfl⟩

theorem ingestRow_spec {rt : Runtime} {plan : StudentsPlan} {index : ℕ} {row : StudentRegisterRow}
    {register register' : Register} {s t : Store}
    (ingested : ingestRow rt plan index row register s = .ok (register', t)) : Enrols plan s t := by
  unfold ingestRow at ingested
  split at ingested
  · obtain ⟨learner, -, same⟩ := bind_eq_ok.mp ingested
    rw [pure_eq_ok] at same
    obtain ⟨-, rfl⟩ := Prod.mk.inj same
    exact .refl plan s
  · obtain ⟨dateOfBirth, -, rest⟩ := bind_eq_ok.mp ingested
    obtain ⟨entryDate, -, rest⟩ := bind_eq_ok.mp rest
    obtain ⟨⟨learner, register₁, s₁⟩, found, rest⟩ := bind_eq_ok.mp rest
    obtain ⟨s₂, created, same⟩ := bind_eq_ok.mp rest
    rw [pure_eq_ok] at same
    obtain ⟨-, rfl⟩ := Prod.mk.inj same
    obtain ⟨learners, rfl⟩ := learnerFor_spec found
    obtain ⟨-, -, -, enrolments, inserted, rfl⟩ := createEnrolment_eq_ok.mp created
    refine ⟨⟨[newEnrolment plan entryDate index row learner],
      (Table.insert_eq_some.mp inserted).2, fun e inside => ?_⟩, learners, enrolments, rfl⟩
    rw [List.mem_singleton.mp inside]
    exact ⟨rfl, rfl, rfl⟩

/-- **What an ingestion adds.** -/
theorem ingestRows_spec {rt : Runtime} {plan : StudentsPlan} {index : ℕ}
    {rows : List StudentRegisterRow} {register register' : Register} {s t : Store}
    (ingested : ingestRows rt plan index rows register s = .ok (register', t)) :
    Enrols plan s t := by
  induction rows generalizing index register s with
  | nil =>
    obtain ⟨-, rfl⟩ := Prod.mk.inj (Except.ok.inj ingested)
    exact .refl plan s
  | cons row rows ih =>
    obtain ⟨⟨register₁, s₁⟩, first, rest⟩ := bind_eq_ok.mp ingested
    exact (ingestRow_spec first).trans (ih rest)

end Students

end AcadID
