/-
**The ingestion of a result batch.**

* `ingestResultBatchSchema` — the body of an upload.
* `ingestResults` is a method of three parts: `ingestCheck` resolves the authority of the actor,
  the scope, the students and the grading rule, and grades the rows; `ingestCommit` creates the
  batch in `DRAFT` with its records; `ingestAudit` is its log entry.
* `ingestCheck_eq_ok` — **what the checks ask** of the body, the actor and the store.
* `ingestCommit_spec` — **what an ingestion adds**: one new draft batch that was never published,
  and draft records of that batch alone. `ingestCommit_of_fresh` — under new ids it goes through.
-/

import AcadID.Gateway.Grading
import AcadID.Platform.Authority

namespace AcadID

open Lib

namespace Ingestion

open Grading

/-! ### The body -/

structure IngestResultBatchInput where
  institutionId : String
  createdById : Option Uuid
  title : String
  academicSessionId : Option Uuid
  structureScopeId : Option Uuid
  gradingRuleSetId : Option Uuid
  uploadMode : ResultUploadMode
  batchLabel : Option String
  rows : List ResultRow

open Schema in
def resultRowSchema : Schema ResultRow :=
  object fun v =>
    ResultRow.mk
      <$> field v "studentNumber" (string [minLength 1])
      <*> field v "periodType" (enum [("TERM", PeriodType.term), ("SEMESTER", .semester)])
      <*> field v "periodLabel" (string [minLength 1])
      <*> field v "subjectCode" (string [minLength 1])
      <*> field v "subjectName" (string [minLength 1])
      <*> field v "caScore" (optional (number [atLeast 0]))
      <*> field v "examScore" (optional (number [atLeast 0]))
      <*> field v "totalScore" (number [atLeast 0])
      <*> field v "grade" (optional (string [minLength 1]))
      <*> field v "creditUnits" (optional (number [atLeast 0, atMost 60]))

open Schema in
def ingestResultBatchSchema (rt : Runtime) : Schema IngestResultBatchInput :=
  let uuid := string [formatted rt.isUuid]
  object fun v =>
    IngestResultBatchInput.mk
      <$> field v "institutionId" (string [minLength 1])
      <*> field v "createdById" (optional uuid)
      <*> field v "title" (string [minLength 2])
      <*> field v "academicSessionId" (optional uuid)
      <*> field v "structureScopeId" (optional uuid)
      <*> field v "gradingRuleSetId" (optional uuid)
      <*> field v "uploadMode" (withDefault .masterSheet (enum
        [("SUBJECT_BY_SUBJECT", ResultUploadMode.subjectBySubject), ("MASTER_SHEET", .masterSheet),
          ("COURSE_BASED", .courseBased), ("MANUAL_ENTRY", .manualEntry)]))
      <*> field v "batchLabel" (optional (string [minLength 2, maxLength 160]))
      <*> field v "rows" (array resultRowSchema [minItems 1, maxItems 1000])

/-! ### The checks -/

def assertBatchScopeBelongsToInstitution (institutionId : Uuid)
    (academicSessionId structureScopeId : Option Uuid) (s : Store) : Except ServiceError Unit := do
  require
    (academicSessionId.all fun id => (s.academicSessions.find? id).any fun session =>
      session.institutionId == institutionId && session.status != .sealed)
    (.badRequest "Academic session must belong to the institution and must not be sealed.")
  require
    (structureScopeId.all fun id => (s.academicStructures.find? id).any fun structureScope =>
      structureScope.institutionId == institutionId && structureScope.status == .active)
    (.badRequest "Academic structure scope must be active and belong to the institution.")

/-- The active enrolment of a student number; of several, the last one read. -/
def enrolmentByStudentNumber (s : Store) (institutionId : Uuid) (studentNumber : String) :
    Option Enrolment :=
  (s.enrolments.rows.filter fun enrolment =>
    enrolment.institutionId == institutionId && enrolment.studentNumber == studentNumber &&
      enrolment.status == .active).getLast?

/-- What the runtime and the database give a call: readings of the clock, new ids, and the row that
a lookup without an order returns. -/
structure IngestEnv where
  pick : ℕ
  checkedAt : Time
  committedAt : Time
  batchUuid : Uuid
  recordUuid : ℕ → Uuid

/-- What the checks have resolved. -/
structure IngestPlan where
  env : IngestEnv
  auth : AuthTokenPayload
  input : IngestResultBatchInput
  authority : Authority.InstitutionAuthority
  createdById : Uuid
  gradingRule : ResolvedGradingRule
  grading : Graded
  enrolmentOf : String → Option Uuid

def ingestCheck (rt : Runtime) (env : IngestEnv) (auth : AuthTokenPayload) (body : Json)
    (s : Store) : Except ServiceError IngestPlan := do
  let input ← parseBody (ingestResultBatchSchema rt) body
  let authority ← Authority.assertInstitutionCan input.institutionId "ingest_results" auth
    env.checkedAt env.pick s
  assertBatchScopeBelongsToInstitution authority.institutionUuid input.academicSessionId
    input.structureScopeId s
  let first := input.rows.head?
  Authority.assertActorAssignedScope rt auth authority.institutionUuid input.structureScopeId
    [("upload_mode", some input.uploadMode.name), ("period_type", first.map (·.periodType.name)),
      ("period_label", first.map (·.periodLabel)), ("subject", first.map (·.subjectName)),
      ("subject_code", first.map (·.subjectCode))] s
  require (auth.isApiKey || input.createdById == some auth.sub)
    (.badRequest "Result batch creator must match the authenticated user.")
  let enrolmentOf := fun studentNumber =>
    (enrolmentByStudentNumber s authority.institutionUuid studentNumber).map (·.uuid)
  let studentNumbers := (input.rows.map (·.studentNumber)).eraseDups
  let missingStudents := studentNumbers.filter fun n => (enrolmentOf n).isNone
  require missingStudents.isEmpty
    (.badRequestWith "Some result rows reference students without active enrolments."
      [("missingStudents", .arr (missingStudents.map .str))])
  let gradingRule ← resolveGradingRule authority.institutionUuid input.uploadMode
    input.gradingRuleSetId s
  let grading ← gradeRows rt input.rows gradingRule
  return {
    env := env
    auth := auth
    input := input
    authority := authority
    createdById := input.createdById.getD auth.sub
    gradingRule := gradingRule
    grading := grading
    enrolmentOf := enrolmentOf }

/-! ### The transaction -/

def newBatch (plan : IngestPlan) : ResultBatch where
  uuid := plan.env.batchUuid
  institutionId := plan.authority.institutionUuid
  academicSessionId := plan.input.academicSessionId
  structureScopeId := plan.input.structureScopeId
  gradingRuleSetId := plan.gradingRule.uuid
  uploadMode := plan.input.uploadMode
  title := plan.input.title
  batchLabel := plan.input.batchLabel
  status := .draft
  rejectionCount := 0
  createdById := plan.createdById
  createdByInstitutionUserId :=
    if plan.auth.isApiKey then none else plan.auth.institutionUserId
  recordCount := plan.input.rows.length
  validationSummary := .obj
    [("acceptedRows", .num plan.input.rows.length), ("rejectedRows", .num 0),
      ("warnings", .arr plan.grading.warnings), ("grading", plan.grading.summary)]
  submittedAt := none
  reviewedAt := none
  approvedAt := none
  publishedAt := none

/-- The record of one graded row. -/
def newRecord (plan : IngestPlan) (graded : GradedRow) (index : ℕ) :
    Except ServiceError AcademicRecord := do
  let enrolmentId ← orThrow (plan.enrolmentOf graded.row.studentNumber)
    (.badRequest "Result row references an unknown enrolment.")
  return {
    uuid := plan.env.recordUuid index
    enrolmentId := enrolmentId
    resultBatchId := some plan.env.batchUuid
    academicSessionId := plan.input.academicSessionId
    structureScopeId := plan.input.structureScopeId
    gradingRuleSetId := plan.gradingRule.uuid
    periodType := graded.row.periodType
    periodLabel := graded.row.periodLabel
    subjectCode := graded.row.subjectCode
    subjectName := graded.row.subjectName
    caScore := graded.row.caScore
    examScore := graded.row.examScore
    totalScore := graded.row.totalScore
    grade := graded.grade
    gradePoint := graded.gradePoint
    creditUnits := graded.creditUnits
    qualityPoints := graded.qualityPoints
    status := .draft
    publishedAt := none
    supersedesId := none
    createdAt := plan.env.committedAt }

/-- Rows inserted one after the other; the first whose key is taken undoes them all. -/
def insertAll {ρ κ : Type} {key : ρ → κ} [DecidableEq κ] (t : Table key) (rows : List ρ) :
    Except ServiceError (Table key) :=
  rows.foldlM insertUnique t

def ingestCommit (plan : IngestPlan) (s : Store) : Except ServiceError (ResultBatch × Store) := do
  let batch := newBatch plan
  let resultBatches ← insertUnique s.resultBatches batch
  let records ← plan.grading.rows.zipIdx.mapM fun graded => newRecord plan graded.1 graded.2
  let academicRecords ← insertAll s.academicRecords records
  return (batch, { s with resultBatches := resultBatches, academicRecords := academicRecords })

def ingestAudit (plan : IngestPlan) (batch : ResultBatch) : AuditEvent where
  actorType := inferActorType none (if plan.auth.isApiKey then none else some plan.createdById)
  actorId := if plan.auth.isApiKey then none else some plan.createdById
  actorRole := plan.auth.actorRole
  action := "ingest.results"
  targetType := "ResultBatch"
  targetId := some batch.uuid
  institutionId := some plan.authority.institutionUuid
  outcome := "SUCCESS"
  reason := none
  metadata := Json.fields
    [("apiKeyId", plan.auth.apiKeyId.map .str),
      ("authorityGrantId", some (.str plan.authority.authorityGrantId)),
      ("rowCount", some (.num plan.input.rows.length)),
      ("academicSessionId", plan.input.academicSessionId.map .str),
      ("structureScopeId", plan.input.structureScopeId.map .str),
      ("uploadMode", some (.str plan.input.uploadMode.name)),
      ("gradingRuleSetId", plan.gradingRule.uuid.map .str),
      ("gradingRuleSource", some (.str plan.gradingRule.source.name)),
      ("gpa", some (ofRat? plan.grading.gpa))]

/-- What the upload is answered with. -/
def ingestResponse (plan : IngestPlan) (batch : ResultBatch) : Json :=
  .obj
    [("accepted", .bool true), ("institutionId", .str plan.authority.institutionId),
      ("batchId", .str batch.uuid), ("status", .str batch.status.name),
      ("academicSessionId", Json.ofOption batch.academicSessionId),
      ("structureScopeId", Json.ofOption batch.structureScopeId),
      ("uploadMode", .str batch.uploadMode.name),
      ("gradingRuleSetId", Json.ofOption batch.gradingRuleSetId),
      ("gradingSummary", plan.grading.summary), ("rowCount", .num plan.input.rows.length)]

/-! ### What an ingestion adds -/

theorem mem_of_insertAll {ρ κ : Type} {key : ρ → κ} [DecidableEq κ] {t u : Table key}
    {rows : List ρ} (inserted : insertAll t rows = .ok u) : u.rows = t.rows ++ rows := by
  unfold insertAll at inserted
  induction rows generalizing t with
  | nil =>
    rw [List.foldlM_nil, pure_eq_ok] at inserted
    rw [inserted, List.append_nil]
  | cons r rows ih =>
    rw [List.foldlM_cons, bind_eq_ok] at inserted
    obtain ⟨first, here, rest⟩ := inserted
    rw [ih rest, (Table.insert_eq_some.mp (orThrow_eq_ok.mp here)).2, List.append_assoc]
    rfl

theorem newRecord_spec {plan : IngestPlan} {graded : GradedRow} {index : ℕ}
    {record : AcademicRecord} (created : newRecord plan graded index = .ok record) :
    record.resultBatchId = some plan.env.batchUuid ∧ record.status = .draft ∧
      record.supersedesId = none := by
  unfold newRecord at created
  obtain ⟨enrolmentId, -, same⟩ := bind_eq_ok.mp created
  rw [pure_eq_ok] at same
  rw [← same]
  exact ⟨rfl, rfl, rfl⟩

/-- **What an ingestion adds**: the new batch, under an id that was free, and records of that batch
alone; nothing else of the store changes. -/
theorem ingestCommit_spec {plan : IngestPlan} {s t : Store} {batch : ResultBatch}
    (committed : ingestCommit plan s = .ok (batch, t)) :
    batch = newBatch plan ∧ (∀ b ∈ s.resultBatches.rows, b.uuid ≠ plan.env.batchUuid) ∧
      ∃ batches records, batches.rows = s.resultBatches.rows ++ [newBatch plan] ∧
        (∃ new, records.rows = s.academicRecords.rows ++ new ∧
          ∀ r ∈ new, r.resultBatchId = some plan.env.batchUuid ∧ r.status = .draft ∧
            r.supersedesId = none) ∧
        t = { s with resultBatches := batches, academicRecords := records } := by
  unfold ingestCommit at committed
  obtain ⟨batches, inserted, rest⟩ := bind_eq_ok.mp committed
  obtain ⟨new, mapped, rest⟩ := bind_eq_ok.mp rest
  obtain ⟨records, all, same⟩ := bind_eq_ok.mp rest
  rw [pure_eq_ok] at same
  obtain ⟨rfl, rfl⟩ := Prod.mk.inj same
  obtain ⟨free, rows⟩ := Table.insert_eq_some.mp (orThrow_eq_ok.mp inserted)
  refine ⟨rfl, free, batches, records, rows, ⟨new, mem_of_insertAll all, ?_⟩, rfl⟩
  intro r inside
  obtain ⟨graded, -, created⟩ := mem_of_mapM_ok mapped r inside
  exact newRecord_spec created

/-- The records an ingestion adds are those of its graded rows. -/
theorem ingestCommit_records {plan : IngestPlan} {s t : Store} {batch : ResultBatch}
    (committed : ingestCommit plan s = .ok (batch, t)) :
    ∃ new, plan.grading.rows.zipIdx.mapM (fun graded => newRecord plan graded.1 graded.2) =
        .ok new ∧ t.academicRecords.rows = s.academicRecords.rows ++ new := by
  unfold ingestCommit at committed
  obtain ⟨batches, -, rest⟩ := bind_eq_ok.mp committed
  obtain ⟨new, mapped, rest⟩ := bind_eq_ok.mp rest
  obtain ⟨records, all, same⟩ := bind_eq_ok.mp rest
  rw [pure_eq_ok] at same
  obtain ⟨-, rfl⟩ := Prod.mk.inj same
  exact ⟨new, mapped, mem_of_insertAll all⟩

/-- The grading of a plan whose checks have passed. -/
theorem ingestCheck_graded {rt : Runtime} {env : IngestEnv} {auth : AuthTokenPayload} {body : Json}
    {s : Store} {plan : IngestPlan} (checked : ingestCheck rt env auth body s = .ok plan) :
    gradeRows rt plan.input.rows plan.gradingRule = .ok plan.grading ∧
      resolveGradingRule plan.authority.institutionUuid plan.input.uploadMode
        plan.input.gradingRuleSetId s = .ok plan.gradingRule := by
  unfold ingestCheck at checked
  obtain ⟨input, -, rest⟩ := bind_eq_ok.mp checked
  obtain ⟨authority, -, rest⟩ := bind_eq_ok.mp rest
  obtain ⟨_, -, rest⟩ := bind_eq_ok.mp rest
  obtain ⟨_, -, rest⟩ := bind_eq_ok.mp rest
  obtain ⟨_, -, rest⟩ := bind_eq_ok.mp rest
  obtain ⟨_, -, rest⟩ := bind_eq_ok.mp rest
  obtain ⟨gradingRule, resolved, rest⟩ := bind_eq_ok.mp rest
  obtain ⟨grading, graded, same⟩ := bind_eq_ok.mp rest
  rw [pure_eq_ok] at same
  rw [← same]
  exact ⟨graded, resolved⟩

/-! ### When an ingestion goes through -/

/-- What a batch asks of its rows and of the store, whoever uploads it. -/
structure Gradable (rt : Runtime) (institutionUuid : Uuid) (input : IngestResultBatchInput)
    (s : Store) (rule : ResolvedGradingRule) (grading : Graded) : Prop where
  scope : assertBatchScopeBelongsToInstitution institutionUuid input.academicSessionId
    input.structureScopeId s = .ok ()
  enrolled : ∀ row ∈ input.rows,
    (enrolmentByStudentNumber s institutionUuid row.studentNumber).isSome
  resolved : resolveGradingRule institutionUuid input.uploadMode input.gradingRuleSetId s = .ok rule
  graded : gradeRows rt input.rows rule = .ok grading

/-- The target that an upload is checked against: that of its first row. -/
def uploadTarget (input : IngestResultBatchInput) : Authority.ScopeTarget :=
  let first := input.rows.head?
  [("upload_mode", some input.uploadMode.name), ("period_type", first.map (·.periodType.name)),
    ("period_label", first.map (·.periodLabel)), ("subject", first.map (·.subjectName)),
    ("subject_code", first.map (·.subjectCode))]

/-- The plan of checks that have passed. -/
def planOf (env : IngestEnv) (auth : AuthTokenPayload) (input : IngestResultBatchInput)
    (authority : Authority.InstitutionAuthority) (rule : ResolvedGradingRule) (grading : Graded)
    (s : Store) : IngestPlan where
  env := env
  auth := auth
  input := input
  authority := authority
  createdById := input.createdById.getD auth.sub
  gradingRule := rule
  grading := grading
  enrolmentOf := fun studentNumber =>
    (enrolmentByStudentNumber s authority.institutionUuid studentNumber).map (·.uuid)

/-- No student number is missing exactly when every row has an active enrolment. -/
theorem missing_isEmpty {rows : List ResultRow} {enrolmentOf : String → Option Enrolment} :
    ((rows.map (·.studentNumber)).eraseDups.filter fun n =>
        ((enrolmentOf n).map (·.uuid)).isNone).isEmpty = true ↔
      ∀ row ∈ rows, (enrolmentOf row.studentNumber).isSome := by
  rw [List.isEmpty_iff, List.filter_eq_nil_iff]
  simp only [List.mem_eraseDups, List.mem_map, forall_exists_index, and_imp,
    forall_apply_eq_imp_iff₂, Option.isNone_map, Bool.not_eq_true, Option.isNone_eq_false_iff]

/-- **What the checks of an ingestion ask.** -/
theorem ingestCheck_eq_ok {rt : Runtime} {env : IngestEnv} {auth : AuthTokenPayload} {body : Json}
    {s : Store} {plan : IngestPlan} :
    ingestCheck rt env auth body s = .ok plan ↔ ∃ input authority rule grading,
      ingestResultBatchSchema rt (some body) = .valid input ∧
      Authority.assertInstitutionCan input.institutionId "ingest_results" auth env.checkedAt
        env.pick s = .ok authority ∧
      Gradable rt authority.institutionUuid input s rule grading ∧
      Authority.assertActorAssignedScope rt auth authority.institutionUuid input.structureScopeId
        (uploadTarget input) s = .ok () ∧
      (auth.isApiKey = true ∨ input.createdById = some auth.sub) ∧
      plan = planOf env auth input authority rule grading s := by
  unfold ingestCheck
  constructor
  · intro checked
    obtain ⟨input, parsed, rest⟩ := bind_eq_ok.mp checked
    obtain ⟨authority, allowed, rest⟩ := bind_eq_ok.mp rest
    obtain ⟨⟨⟩, scope, rest⟩ := bind_eq_ok.mp rest
    obtain ⟨⟨⟩, assigned, rest⟩ := bind_eq_ok.mp rest
    obtain ⟨⟨⟩, creator, rest⟩ := bind_eq_ok.mp rest
    obtain ⟨⟨⟩, missing, rest⟩ := bind_eq_ok.mp rest
    obtain ⟨rule, resolved, rest⟩ := bind_eq_ok.mp rest
    obtain ⟨grading, graded, same⟩ := bind_eq_ok.mp rest
    rw [pure_eq_ok] at same
    rw [require_eq_ok, Bool.or_eq_true, beq_iff_eq] at creator
    exact ⟨input, authority, rule, grading, parseBody_eq_ok.mp parsed, allowed,
      ⟨scope, missing_isEmpty.mp (require_eq_ok.mp missing), resolved, graded⟩, assigned, creator,
      same.symm⟩
  · rintro ⟨input, authority, rule, grading, parsed, allowed, gradable, assigned, creator, rfl⟩
    refine bind_eq_ok.mpr ⟨input, parseBody_eq_ok.mpr parsed, ?_⟩
    refine bind_eq_ok.mpr ⟨authority, allowed, ?_⟩
    refine bind_eq_ok.mpr ⟨(), gradable.scope, ?_⟩
    refine bind_eq_ok.mpr ⟨(), assigned, ?_⟩
    refine bind_eq_ok.mpr ⟨(), require_eq_ok.mpr ?_, ?_⟩
    · rw [Bool.or_eq_true, beq_iff_eq]
      exact creator
    refine bind_eq_ok.mpr ⟨(), require_eq_ok.mpr (missing_isEmpty.mpr gradable.enrolled), ?_⟩
    exact bind_eq_ok.mpr ⟨rule, gradable.resolved, bind_eq_ok.mpr ⟨grading, gradable.graded, rfl⟩⟩

/-- Rows under new and different keys can be inserted. -/
theorem insertAll_of_fresh {ρ κ : Type} {key : ρ → κ} [DecidableEq κ] {t : Table key}
    {rows : List ρ} (fresh : ∀ r ∈ rows, ∀ other ∈ t.rows, key other ≠ key r)
    (distinct : (rows.map key).Nodup) : ∃ u, insertAll t rows = .ok u := by
  induction rows generalizing t with
  | nil => exact ⟨t, rfl⟩
  | cons r rows ih =>
    rw [List.map_cons, List.nodup_cons] at distinct
    obtain ⟨u, inserted⟩ := Table.insert_of_fresh (fresh r (List.mem_cons_self ..))
    have later : ∀ r' ∈ rows, ∀ other ∈ u.rows, key other ≠ key r' := by
      intro r' inside other there
      rw [(Table.insert_eq_some.mp inserted).2, List.mem_append, List.mem_singleton] at there
      rcases there with old | rfl
      · exact fresh r' (List.mem_cons_of_mem _ inside) other old
      · exact fun same => distinct.1 (same ▸ List.mem_map_of_mem inside)
    obtain ⟨w, others⟩ := ih later distinct.2
    exact ⟨w, bind_eq_ok.mpr ⟨u, orThrow_eq_ok.mpr inserted, others⟩⟩

/-- The ids that an ingestion of `count` rows draws are new and different. -/
structure FreshFor (env : IngestEnv) (count : ℕ) (s : Store) : Prop where
  batch : ∀ b ∈ s.resultBatches.rows, b.uuid ≠ env.batchUuid
  records : ∀ i < count, ∀ r ∈ s.academicRecords.rows, r.uuid ≠ env.recordUuid i
  distinct : ∀ i < count, ∀ j < count, env.recordUuid i = env.recordUuid j → i = j

/-- **An ingestion of rows whose students are enrolled goes through** under new ids. -/
theorem ingestCommit_of_fresh {plan : IngestPlan} {s : Store}
    (enrolled : ∀ g ∈ plan.grading.rows, (plan.enrolmentOf g.row.studentNumber).isSome)
    (fresh : FreshFor plan.env plan.grading.rows.length s) :
    ∃ batch t, ingestCommit plan s = .ok (batch, t) := by
  have created : ∀ g ∈ plan.grading.rows.zipIdx, ∃ r, newRecord plan g.1 g.2 = .ok r := by
    intro g inside
    obtain ⟨id, has⟩ := Option.isSome_iff_exists.mp
      (enrolled g.1 (List.fst_mem_of_mem_zipIdx inside))
    exact ⟨_, bind_eq_ok.mpr ⟨id, orThrow_eq_ok.mpr has, rfl⟩⟩
  obtain ⟨records, mapped⟩ := exists_mapM_eq_ok.mpr created
  have ids : records.map (·.uuid) = (List.range plan.grading.rows.length).map plan.env.recordUuid := by
    have reads : ∀ (g : GradedRow × ℕ) r, newRecord plan g.1 g.2 = .ok r →
        r.uuid = plan.env.recordUuid g.2 := by
      intro g r made
      obtain ⟨_, -, same⟩ := bind_eq_ok.mp made
      rw [pure_eq_ok] at same
      rw [← same]
    rw [map_eq_of_mapM_ok (g := fun r : AcademicRecord => r.uuid) reads mapped,
      List.range_eq_range', ← List.zipIdx_map_snd, List.map_map]
    rfl
  obtain ⟨batches, batchIn⟩ := @Table.insert_of_fresh _ _ _ _ s.resultBatches (newBatch plan)
    fresh.batch
  have apart : ∀ r ∈ records, ∀ other ∈ s.academicRecords.rows, other.uuid ≠ r.uuid := by
    intro r inside other there
    have listed := List.mem_map_of_mem (f := (·.uuid)) inside
    rw [ids, List.mem_map] at listed
    obtain ⟨i, small, same⟩ := listed
    rw [← same]
    exact fresh.records i (List.mem_range.mp small) other there
  have distinct : (records.map (·.uuid)).Nodup := by
    rw [ids]
    refine List.Nodup.map_on (fun i small j small' same => ?_) List.nodup_range
    exact fresh.distinct i (List.mem_range.mp small) j (List.mem_range.mp small') same
  obtain ⟨table, all⟩ := insertAll_of_fresh apart distinct
  refine ⟨newBatch plan,
    { s with
      resultBatches := batches
      academicRecords := table }, bind_eq_ok.mpr ⟨batches, orThrow_eq_ok.mpr batchIn, ?_⟩⟩
  exact bind_eq_ok.mpr ⟨records, mapped, bind_eq_ok.mpr ⟨table, all, rfl⟩⟩

end Ingestion

end AcadID
