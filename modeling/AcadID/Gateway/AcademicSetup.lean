/-
**Academic setup: sessions, structures and grading rules.**

Each of the six operations reads and checks, writes in one transaction, and leaves a log entry;
`setupMethods` is the six as one method.

* The updates look their institution up under its uuid where a display id is expected, so that they
  find it only if its display id is that uuid.
* `setupCommit_spec` — **what setup writes**: sessions, structures and rule sets, nothing else.
-/

import AcadID.Gateway.Grading
import AcadID.Gateway.Institutions
import AcadID.Lib.Method

namespace AcadID

open Lib

namespace AcademicSetup

/-! ### Bodies -/

def academicSessionStatuses : List (String × AcademicSessionStatus) :=
  [("DRAFT", .draft), ("ACTIVE", .active), ("CLOSED", .closed), ("SEALED", .sealed)]

def periodTypes : List (String × PeriodType) :=
  [("TERM", .term), ("SEMESTER", .semester)]

def academicStructureTypes : List (String × AcademicStructureType) :=
  [("LEVEL", .level), ("CLASS", .classRoom), ("ARM", .arm), ("STREAM", .stream),
    ("SUBJECT", .subject), ("FACULTY", .faculty), ("DEPARTMENT", .department),
    ("PROGRAMME", .programme), ("COURSE", .course)]

def academicStructureStatuses : List (String × AcademicStructureStatus) :=
  [("ACTIVE", .active), ("ARCHIVED", .archived)]

def gradingRuleEngines : List (String × GradingRuleEngine) :=
  [("PRIMARY_SECONDARY", .primarySecondary), ("TERTIARY_GPA", .tertiaryGpa)]

def gradingRuleStatuses : List (String × GradingRuleStatus) :=
  [("DRAFT", .draft), ("ACTIVE", .active), ("ARCHIVED", .archived)]

/-- `from <= to` of two texts, where both are there. -/
def inOrder (from_ to_ : Option String) : Bool :=
  from_.all fun a => to_.all fun b => codeUnitLe a b

structure CreateSessionInput where
  institutionId : String
  sessionLabel : String
  periodType : PeriodType
  periodLabel : String
  startDate : Option String
  endDate : Option String
  status : AcademicSessionStatus
  isCurrent : Bool

open Schema in
def createAcademicSessionSchema (rt : Runtime) : Schema CreateSessionInput :=
  let date := optional (string [formatted rt.isDate])
  fun body => Checked.refine (fun input => inOrder input.startDate input.endDate) ["endDate"]
    (object (fun v =>
      CreateSessionInput.mk
        <$> field v "institutionId" (string [minLength 1])
        <*> field v "sessionLabel" (string [minLength 3, maxLength 40])
        <*> field v "periodType" (enum periodTypes)
        <*> field v "periodLabel" (string [minLength 3, maxLength 80])
        <*> field v "startDate" date
        <*> field v "endDate" date
        <*> field v "status" (withDefault .draft (enum academicSessionStatuses))
        <*> field v "isCurrent" (withDefault false boolean)) body)

/-- The fields of an update; an outer `none` leaves the column as it is, an inner one clears it. -/
structure UpdateSessionInput where
  sessionLabel : Option String
  periodType : Option PeriodType
  periodLabel : Option String
  startDate : Option (Option String)
  endDate : Option (Option String)
  status : Option AcademicSessionStatus
  isCurrent : Option Bool

open Schema in
def updateAcademicSessionSchema (rt : Runtime) : Schema UpdateSessionInput :=
  let date := optional (nullable (string [formatted rt.isDate]))
  fun body =>
    Checked.refine (fun input => inOrder input.startDate.join input.endDate.join) ["endDate"]
      (object (fun v =>
        UpdateSessionInput.mk
          <$> field v "sessionLabel" (optional (string [minLength 3, maxLength 40]))
          <*> field v "periodType" (optional (enum periodTypes))
          <*> field v "periodLabel" (optional (string [minLength 3, maxLength 80]))
          <*> field v "startDate" date
          <*> field v "endDate" date
          <*> field v "status" (optional (enum academicSessionStatuses))
          <*> field v "isCurrent" (optional boolean)) body)

structure CreateStructureInput where
  institutionId : String
  parentId : Option Uuid
  type : AcademicStructureType
  name : String
  code : Option String
  creditUnits : Option ℤ
  metadata : Option Json
  status : AcademicStructureStatus

open Schema in
def createAcademicStructureSchema (rt : Runtime) : Schema CreateStructureInput :=
  object fun v =>
    CreateStructureInput.mk
      <$> field v "institutionId" (string [minLength 1])
      <*> field v "parentId" (optional (string [formatted rt.isUuid]))
      <*> field v "type" (enum academicStructureTypes)
      <*> field v "name" (string [minLength 1, maxLength 160])
      <*> field v "code" (optional (string [minLength 1, maxLength 80]))
      <*> field v "creditUnits" (optional (integer [atLeast 0, atMost 60]))
      <*> field v "metadata" (optional record)
      <*> field v "status" (withDefault .active (enum academicStructureStatuses))

structure UpdateStructureInput where
  parentId : Option (Option Uuid)
  type : Option AcademicStructureType
  name : Option String
  code : Option (Option String)
  creditUnits : Option (Option ℤ)
  metadata : Option (Option Json)
  status : Option AcademicStructureStatus

open Schema in
def updateAcademicStructureSchema (rt : Runtime) : Schema UpdateStructureInput :=
  object fun v =>
    UpdateStructureInput.mk
      <$> field v "parentId" (optional (nullable (string [formatted rt.isUuid])))
      <*> field v "type" (optional (enum academicStructureTypes))
      <*> field v "name" (optional (string [minLength 1, maxLength 160]))
      <*> field v "code" (optional (nullable (string [minLength 1, maxLength 80])))
      <*> field v "creditUnits" (optional (nullable (integer [atLeast 0, atMost 60])))
      <*> field v "metadata" (optional (nullable record))
      <*> field v "status" (optional (enum academicStructureStatuses))

structure ScaleBandInput where
  minScore : ℚ
  maxScore : Option ℚ
  grade : String
  remark : Option String
  gradePoint : Option ℚ
  pass : Option Bool

open Schema in
def gradingScaleBandSchema : Schema ScaleBandInput :=
  fun body => Checked.refine (fun band => band.maxScore.all (band.minScore ≤ ·)) ["maxScore"]
    (object (fun v =>
      ScaleBandInput.mk
        <$> field v "minScore" (number [atLeast 0])
        <*> field v "maxScore" (optional (number [atLeast 0]))
        <*> field v "grade" (string [minLength 1, maxLength 20])
        <*> field v "remark" (optional (string [minLength 1, maxLength 120]))
        <*> field v "gradePoint" (optional (number [atLeast 0, atMost 20]))
        <*> field v "pass" (optional boolean)) body)

structure CreateRuleSetInput where
  institutionId : String
  name : String
  engine : GradingRuleEngine
  status : GradingRuleStatus
  scale : List ScaleBandInput
  passMark : Option ℚ
  maxScore : ℚ
  gradePointMax : Option ℚ
  effectiveFrom : Option String
  effectiveTo : Option String

open Schema in
def createGradingRuleSetSchema (rt : Runtime) : Schema CreateRuleSetInput :=
  let date := optional (string [formatted rt.isDate])
  fun body =>
    Checked.refine (fun input => inOrder input.effectiveFrom input.effectiveTo) ["effectiveTo"]
      (object (fun v =>
        CreateRuleSetInput.mk
          <$> field v "institutionId" (string [minLength 1])
          <*> field v "name" (string [minLength 2, maxLength 160])
          <*> field v "engine" (enum gradingRuleEngines)
          <*> field v "status" (withDefault .active (enum gradingRuleStatuses))
          <*> field v "scale" (array gradingScaleBandSchema [minItems 1, maxItems 30])
          <*> field v "passMark" (optional (number [atLeast 0]))
          <*> field v "maxScore" (withDefault 100 (number [positive, atMost 1000]))
          <*> field v "gradePointMax" (optional (number [positive, atMost 20]))
          <*> field v "effectiveFrom" date
          <*> field v "effectiveTo" date) body)

structure UpdateRuleSetInput where
  name : Option String
  engine : Option GradingRuleEngine
  status : Option GradingRuleStatus
  scale : Option (List ScaleBandInput)
  passMark : Option (Option ℚ)
  maxScore : Option ℚ
  gradePointMax : Option (Option ℚ)
  effectiveFrom : Option (Option String)
  effectiveTo : Option (Option String)

open Schema in
def updateGradingRuleSetSchema (rt : Runtime) : Schema UpdateRuleSetInput :=
  let date := optional (nullable (string [formatted rt.isDate]))
  fun body =>
    Checked.refine (fun input => inOrder input.effectiveFrom.join input.effectiveTo.join)
      ["effectiveTo"]
      (object (fun v =>
        UpdateRuleSetInput.mk
          <$> field v "name" (optional (string [minLength 2, maxLength 160]))
          <*> field v "engine" (optional (enum gradingRuleEngines))
          <*> field v "status" (optional (enum gradingRuleStatuses))
          <*> field v "scale" (optional (array gradingScaleBandSchema [minItems 1, maxItems 30]))
          <*> field v "passMark" (optional (nullable (number [atLeast 0])))
          <*> field v "maxScore" (optional (number [positive, atMost 1000]))
          <*> field v "gradePointMax" (optional (nullable (number [positive, atMost 20])))
          <*> field v "effectiveFrom" date
          <*> field v "effectiveTo" date) body)

/-! ### The operations -/

/-- What the runtime and the database give a call. -/
structure SetupEnv where
  pick : ℕ
  now : Time
  uuid : Uuid

/-- The message with which `IngestionService` refuses API keys. -/
def humanOnly : String :=
  "Human institution session is required for academic setup."

def assertParentStructure (institutionId : Uuid) (parentId : Option Uuid) (s : Store) :
    Except ServiceError Unit :=
  require (parentId.all fun id => (s.academicStructures.find? id).any fun parent =>
      parent.institutionId == institutionId)
    (.badRequest "Parent academic structure must belong to the same institution.")

/-- `new Date(text)` for a text that is there; the database refuses an invalid date. -/
def dateOf (rt : Runtime) (text : Option String) : Except ServiceError (Option Time) :=
  text.mapM fun t => orThrow (rt.parseDate t) .database

/-- The date of an update: as it is, cleared, or another. -/
def patchDate (rt : Runtime) (change : Option (Option String)) (old : Option Time) :
    Except ServiceError (Option Time) :=
  match change with
  | none => .ok old
  | some text => dateOf rt text

/-- `@@unique([institutionId, sessionLabel, periodType, periodLabel])` -/
def sessionKey (session : AcademicSession) : Uuid × String × PeriodType × String :=
  (session.institutionId, session.sessionLabel, session.periodType, session.periodLabel)

/-- Every other session of the institution is current no more. -/
def clearCurrent (institutionId : Uuid) (keep : Option Uuid) (s : Store) : Store :=
  { s with
    academicSessions := s.academicSessions.updateMany
      (fun session => session.institutionId == institutionId && session.isCurrent &&
        keep != some session.uuid)
      (fun session => { session with isCurrent := false }) fun _ => rfl }

/-- `normalizeScale` of bands that have passed their schema: every one with a `maxScore`, the
highest first. -/
def normalizedScale (scale : List ScaleBandInput) (maxScore : ℚ) : Json :=
  .arr ((scale.insertionSort fun a b => b.minScore ≤ a.minScore).map fun band => Json.fields
    [("minScore", some (.num band.minScore)),
      ("maxScore", some (.num (band.maxScore.getD maxScore))), ("grade", some (.str band.grade)),
      ("remark", band.remark.map .str), ("gradePoint", band.gradePoint.map .num),
      ("pass", band.pass.map .bool)])

/-- A call of academic setup. -/
inductive SetupCall where
  | createAcademicSession (env : SetupEnv) (auth : AuthTokenPayload) (body : Json)
  | updateAcademicSession (env : SetupEnv) (auth : AuthTokenPayload) (id : Uuid) (body : Json)
  | createAcademicStructure (env : SetupEnv) (auth : AuthTokenPayload) (body : Json)
  | updateAcademicStructure (env : SetupEnv) (auth : AuthTokenPayload) (id : Uuid) (body : Json)
  | createGradingRuleSet (env : SetupEnv) (auth : AuthTokenPayload) (body : Json)
  | updateGradingRuleSet (env : SetupEnv) (auth : AuthTokenPayload) (id : Uuid) (body : Json)

/-- A call whose checks have passed, with the row they have read. -/
inductive SetupPlan where
  | createSession (env : SetupEnv) (auth : AuthTokenPayload) (input : CreateSessionInput)
    (institution : Institution)
  | updateSession (auth : AuthTokenPayload) (input : UpdateSessionInput)
    (existing : AcademicSession)
  | createStructure (env : SetupEnv) (auth : AuthTokenPayload) (input : CreateStructureInput)
    (institution : Institution)
  | updateStructure (auth : AuthTokenPayload) (input : UpdateStructureInput)
    (existing : AcademicStructure)
  | createRuleSet (env : SetupEnv) (auth : AuthTokenPayload) (input : CreateRuleSetInput)
    (institution : Institution)
  | updateRuleSet (env : SetupEnv) (auth : AuthTokenPayload) (input : UpdateRuleSetInput)
    (existing : GradingRuleSet)

/-- The row that a call has written. -/
inductive SetupResponse where
  | session (row : AcademicSession)
  | structureRow (row : AcademicStructure)
  | ruleSet (row : GradingRuleSet)

/-- The checks of a call, over a lookup of institutions. -/
def setupCheckThrough (lookup : Institutions.Lookup) (rt : Runtime) (call : SetupCall) (s : Store) :
    Except ServiceError SetupPlan :=
  match call with
  | .createAcademicSession env auth body => do
    let input ← parseBody (createAcademicSessionSchema rt) body
    let institution ←
      Institutions.resolveHumanThrough lookup humanOnly auth input.institutionId env.pick s
    return .createSession env auth input institution
  | .updateAcademicSession env auth id body => do
    let input ← parseBody (updateAcademicSessionSchema rt) body
    let existing ← orThrow (s.academicSessions.find? id) (.badRequest "Academic session not found.")
    let _ ←
      Institutions.resolveHumanThrough lookup humanOnly auth existing.institutionId env.pick s
    return .updateSession auth input existing
  | .createAcademicStructure env auth body => do
    let input ← parseBody (createAcademicStructureSchema rt) body
    let institution ←
      Institutions.resolveHumanThrough lookup humanOnly auth input.institutionId env.pick s
    assertParentStructure institution.uuid input.parentId s
    return .createStructure env auth input institution
  | .updateAcademicStructure env auth id body => do
    let input ← parseBody (updateAcademicStructureSchema rt) body
    let existing ← orThrow (s.academicStructures.find? id)
      (.badRequest "Academic structure not found.")
    let _ ←
      Institutions.resolveHumanThrough lookup humanOnly auth existing.institutionId env.pick s
    require (input.parentId.join != some id)
      (.badRequest "Academic structure cannot be its own parent.")
    assertParentStructure existing.institutionId input.parentId.join s
    return .updateStructure auth input existing
  | .createGradingRuleSet env auth body => do
    let input ← parseBody (createGradingRuleSetSchema rt) body
    let institution ←
      Institutions.resolveHumanThrough lookup humanOnly auth input.institutionId env.pick s
    return .createRuleSet env auth input institution
  | .updateGradingRuleSet env auth id body => do
    let input ← parseBody (updateGradingRuleSetSchema rt) body
    let existing ← orThrow (s.gradingRuleSets.find? id) (.badRequest "Grading rule set not found.")
    let _ ←
      Institutions.resolveHumanThrough lookup humanOnly auth existing.institutionId env.pick s
    return .updateRuleSet env auth input existing

def setupCheck (rt : Runtime) (call : SetupCall) (s : Store) : Except ServiceError SetupPlan :=
  setupCheckThrough Institutions.findInstitution rt call s

def createSessionCommit (rt : Runtime) (env : SetupEnv) (auth : AuthTokenPayload)
    (input : CreateSessionInput) (institutionId : Uuid) (s : Store) :
    Except ServiceError (AcademicSession × Store) := do
  let s := if input.isCurrent then clearCurrent institutionId none s else s
  let startDate ← dateOf rt input.startDate
  let endDate ← dateOf rt input.endDate
  let session : AcademicSession :=
    { uuid := env.uuid
      institutionId := institutionId
      sessionLabel := Text.trim input.sessionLabel
      periodType := input.periodType
      periodLabel := Text.trim input.periodLabel
      startDate := startDate
      endDate := endDate
      status := input.status
      isCurrent := input.isCurrent
      createdById := auth.institutionUserId }
  require (s.academicSessions.rows.all fun other => sessionKey other != sessionKey session)
    .uniqueViolation
  let academicSessions ← insertUnique s.academicSessions session
  return (session, { s with academicSessions := academicSessions })

def updateSessionCommit (rt : Runtime) (input : UpdateSessionInput) (existing : AcademicSession)
    (s : Store) : Except ServiceError (AcademicSession × Store) := do
  let s := if input.isCurrent = some true then
    clearCurrent existing.institutionId (some existing.uuid) s else s
  let old ← orThrow (s.academicSessions.find? existing.uuid) .recordNotFound
  let startDate ← patchDate rt input.startDate old.startDate
  let endDate ← patchDate rt input.endDate old.endDate
  let (session, academicSessions) ← updateRow s.academicSessions existing.uuid
    (fun session => { session with
      sessionLabel := (input.sessionLabel.map Text.trim).getD session.sessionLabel
      periodType := input.periodType.getD session.periodType
      periodLabel := (input.periodLabel.map Text.trim).getD session.periodLabel
      startDate := startDate
      endDate := endDate
      status := input.status.getD session.status
      isCurrent := input.isCurrent.getD session.isCurrent }) fun _ => rfl
  require (s.academicSessions.rows.all fun other =>
    other.uuid == existing.uuid || sessionKey other != sessionKey session) .uniqueViolation
  return (session, { s with academicSessions := academicSessions })

def createStructureCommit (env : SetupEnv) (auth : AuthTokenPayload) (input : CreateStructureInput)
    (institutionId : Uuid) (s : Store) : Except ServiceError (AcademicStructure × Store) := do
  let row : AcademicStructure :=
    { uuid := env.uuid
      institutionId := institutionId
      parentId := input.parentId
      type := input.type
      name := Text.trim input.name
      code := input.code.map Text.trim
      creditUnits := input.creditUnits
      metadata := input.metadata
      status := input.status
      createdById := auth.institutionUserId }
  let academicStructures ← insertUnique s.academicStructures row
  return (row, { s with academicStructures := academicStructures })

def updateStructureCommit (input : UpdateStructureInput) (existing : AcademicStructure)
    (s : Store) : Except ServiceError (AcademicStructure × Store) := do
  let (row, academicStructures) ← updateRow s.academicStructures existing.uuid
    (fun row => { row with
      parentId := input.parentId.getD row.parentId
      type := input.type.getD row.type
      name := (input.name.map Text.trim).getD row.name
      code := (input.code.map fun code => code.map Text.trim).getD row.code
      creditUnits := input.creditUnits.getD row.creditUnits
      metadata := (input.metadata.map fun metadata => some (metadata.getD .null)).getD row.metadata
      status := input.status.getD row.status }) fun _ => rfl
  return (row, { s with academicStructures := academicStructures })

def createRuleSetCommit (rt : Runtime) (env : SetupEnv) (auth : AuthTokenPayload)
    (input : CreateRuleSetInput) (institutionId : Uuid) (s : Store) :
    Except ServiceError (GradingRuleSet × Store) := do
  let effectiveFrom ← dateOf rt input.effectiveFrom
  let effectiveTo ← dateOf rt input.effectiveTo
  let ruleSet : GradingRuleSet :=
    { uuid := env.uuid
      institutionId := institutionId
      name := Text.trim input.name
      engine := input.engine
      status := input.status
      scale := normalizedScale input.scale input.maxScore
      passMark := input.passMark
      maxScore := input.maxScore
      gradePointMax := input.gradePointMax
      effectiveFrom := effectiveFrom
      effectiveTo := effectiveTo
      createdById := auth.institutionUserId
      updatedAt := env.now }
  let gradingRuleSets ← insertUnique s.gradingRuleSets ruleSet
  return (ruleSet, { s with gradingRuleSets := gradingRuleSets })

def updateRuleSetCommit (rt : Runtime) (env : SetupEnv) (input : UpdateRuleSetInput)
    (existing : GradingRuleSet) (s : Store) : Except ServiceError (GradingRuleSet × Store) := do
  let old ← orThrow (s.gradingRuleSets.find? existing.uuid) .recordNotFound
  let effectiveFrom ← patchDate rt input.effectiveFrom old.effectiveFrom
  let effectiveTo ← patchDate rt input.effectiveTo old.effectiveTo
  let nextMaxScore := input.maxScore.getD existing.maxScore
  let (ruleSet, gradingRuleSets) ← updateRow s.gradingRuleSets existing.uuid
    (fun ruleSet => { ruleSet with
      name := (input.name.map Text.trim).getD ruleSet.name
      engine := input.engine.getD ruleSet.engine
      status := input.status.getD ruleSet.status
      scale := (input.scale.map fun scale => normalizedScale scale nextMaxScore).getD ruleSet.scale
      passMark := input.passMark.getD ruleSet.passMark
      maxScore := input.maxScore.getD ruleSet.maxScore
      gradePointMax := input.gradePointMax.getD ruleSet.gradePointMax
      effectiveFrom := effectiveFrom
      effectiveTo := effectiveTo
      updatedAt := env.now }) fun _ => rfl
  return (ruleSet, { s with gradingRuleSets := gradingRuleSets })

def setupCommit (rt : Runtime) (plan : SetupPlan) (s : Store) :
    Except ServiceError (SetupResponse × Store) :=
  match plan with
  | .createSession env auth input institution =>
    (createSessionCommit rt env auth input institution.uuid s).map fun w => (.session w.1, w.2)
  | .updateSession _ input existing =>
    (updateSessionCommit rt input existing s).map fun w => (.session w.1, w.2)
  | .createStructure env auth input institution =>
    (createStructureCommit env auth input institution.uuid s).map fun w => (.structureRow w.1, w.2)
  | .updateStructure _ input existing =>
    (updateStructureCommit input existing s).map fun w => (.structureRow w.1, w.2)
  | .createRuleSet env auth input institution =>
    (createRuleSetCommit rt env auth input institution.uuid s).map fun w => (.ruleSet w.1, w.2)
  | .updateRuleSet env _ input existing =>
    (updateRuleSetCommit rt env input existing s).map fun w => (.ruleSet w.1, w.2)

/-- The log entry of academic setup. -/
def setupAudit (auth : AuthTokenPayload) (action targetType : String) (targetId institutionId : Uuid)
    (metadata : List (String × Json)) : AuditEvent where
  actorType := inferActorType none (some auth.sub)
  actorId := some auth.sub
  actorRole := some auth.role
  action := action
  targetType := targetType
  targetId := some targetId
  institutionId := some institutionId
  outcome := "SUCCESS"
  reason := none
  metadata := .obj metadata

def setupLog (plan : SetupPlan) (res : SetupResponse) (s : Store) : Store :=
  match plan, res with
  | .createSession _ auth _ _, .session row =>
    s.audit (setupAudit auth "academic_session.create" "AcademicSession" row.uuid row.institutionId
      [("sessionLabel", .str row.sessionLabel), ("periodType", .str row.periodType.name),
        ("periodLabel", .str row.periodLabel), ("status", .str row.status.name),
        ("isCurrent", .bool row.isCurrent)])
  | .updateSession auth _ _, .session row =>
    s.audit (setupAudit auth "academic_session.update" "AcademicSession" row.uuid row.institutionId
      [("status", .str row.status.name), ("isCurrent", .bool row.isCurrent)])
  | .createStructure _ auth _ _, .structureRow row =>
    s.audit (setupAudit auth "academic_structure.create" "AcademicStructure" row.uuid
      row.institutionId
      [("type", .str row.type.name), ("name", .str row.name),
        ("parentId", Json.ofOption row.parentId)])
  | .updateStructure auth _ _, .structureRow row =>
    s.audit (setupAudit auth "academic_structure.update" "AcademicStructure" row.uuid
      row.institutionId
      [("type", .str row.type.name), ("status", .str row.status.name),
        ("parentId", Json.ofOption row.parentId)])
  | .createRuleSet _ auth input _, .ruleSet row =>
    s.audit (setupAudit auth "grading_rule_set.create" "GradingRuleSet" row.uuid row.institutionId
      [("name", .str row.name), ("engine", .str row.engine.name), ("status", .str row.status.name),
        ("scaleBands", .num input.scale.length)])
  | .updateRuleSet _ auth _ _, .ruleSet row =>
    s.audit (setupAudit auth "grading_rule_set.update" "GradingRuleSet" row.uuid row.institutionId
      [("engine", .str row.engine.name), ("status", .str row.status.name)])
  | _, _ => s

/-- The six operations as one method, over a lookup of institutions. -/
def setupMethodsThrough (lookup : Institutions.Lookup) (rt : Runtime) :
    Method Store ServiceError SetupCall SetupPlan SetupResponse where
  check := setupCheckThrough lookup rt
  commit := setupCommit rt
  log := setupLog

/-- The six operations as one method. -/
def setupMethods (rt : Runtime) :
    Method Store ServiceError SetupCall SetupPlan SetupResponse where
  check := setupCheck rt
  commit := setupCommit rt
  log := setupLog

/-! ### What setup writes -/

/-- Other sessions, structures and rule sets; every other table as it was. -/
def SetsUp (s t : Store) : Prop :=
  ∃ academicSessions academicStructures gradingRuleSets, t = { s with
    academicSessions := academicSessions
    academicStructures := academicStructures
    gradingRuleSets := gradingRuleSets }

theorem setsUp_sessions (s : Store) (sessions : Table AcademicSession.uuid) :
    SetsUp s { s with academicSessions := sessions } :=
  ⟨sessions, s.academicStructures, s.gradingRuleSets, rfl⟩

theorem setsUp_structures (s : Store) (structures : Table AcademicStructure.uuid) :
    SetsUp s { s with academicStructures := structures } :=
  ⟨s.academicSessions, structures, s.gradingRuleSets, rfl⟩

theorem setsUp_ruleSets (s : Store) (ruleSets : Table GradingRuleSet.uuid) :
    SetsUp s { s with gradingRuleSets := ruleSets } :=
  ⟨s.academicSessions, s.academicStructures, ruleSets, rfl⟩

/-- The sessions once those of an institution are cleared, where the session written is current. -/
def clearedFor (current : Bool) (institutionId : Uuid) (keep : Option Uuid) (s : Store) : Store :=
  if current then clearCurrent institutionId keep s else s

theorem clearedFor_eq (current : Bool) (institutionId : Uuid) (keep : Option Uuid) (s : Store) :
    ∃ sessions, clearedFor current institutionId keep s = { s with academicSessions := sessions } := by
  cases current with
  | false => exact ⟨s.academicSessions, rfl⟩
  | true => exact ⟨_, rfl⟩

/-- **What a new session is**, and where it goes. -/
theorem createSessionCommit_spec {rt : Runtime} {env : SetupEnv} {auth : AuthTokenPayload}
    {input : CreateSessionInput} {institutionId : Uuid} {s t : Store} {row : AcademicSession}
    (created : createSessionCommit rt env auth input institutionId s = .ok (row, t)) :
    (row.uuid = env.uuid ∧ row.institutionId = institutionId ∧ row.status = input.status ∧
      row.isCurrent = input.isCurrent) ∧
      ∃ sessions, (clearedFor input.isCurrent institutionId none s).academicSessions.insert row =
        some sessions ∧ t = { s with academicSessions := sessions } := by
  unfold createSessionCommit at created
  obtain ⟨startDate, -, rest⟩ := bind_eq_ok.mp created
  obtain ⟨endDate, -, rest⟩ := bind_eq_ok.mp rest
  obtain ⟨_, -, rest⟩ := bind_eq_ok.mp rest
  obtain ⟨sessions, inserted, same⟩ := bind_eq_ok.mp rest
  rw [pure_eq_ok] at same
  obtain ⟨rfl, rfl⟩ := Prod.mk.inj same
  refine ⟨⟨rfl, rfl, rfl, rfl⟩, sessions, orThrow_eq_ok.mp inserted, ?_⟩
  obtain ⟨others, cleared⟩ := clearedFor_eq input.isCurrent institutionId none s
  unfold clearedFor at cleared
  rw [cleared]

/-- **What an update makes of a session**: it changes the row in place. -/
theorem updateSessionCommit_spec {rt : Runtime} {input : UpdateSessionInput}
    {existing : AcademicSession} {s t : Store} {row : AcademicSession}
    (updated : updateSessionCommit rt input existing s = .ok (row, t)) :
    ∃ old f, ∃ keeps : ∀ r : AcademicSession, (f r).uuid = r.uuid,
      (∀ r, (f r).institutionId = r.institutionId ∧ (f r).status = input.status.getD r.status ∧
        (f r).isCurrent = input.isCurrent.getD r.isCurrent) ∧
      (clearedFor (input.isCurrent == some true) existing.institutionId (some existing.uuid)
        s).academicSessions.find? existing.uuid = some old ∧ row = f old ∧
      t = { s with academicSessions :=
        (clearedFor (input.isCurrent == some true) existing.institutionId (some existing.uuid)
          s).academicSessions.update existing.uuid f keeps } := by
  unfold updateSessionCommit at updated
  obtain ⟨old, -, rest⟩ := bind_eq_ok.mp updated
  obtain ⟨startDate, -, rest⟩ := bind_eq_ok.mp rest
  obtain ⟨endDate, -, rest⟩ := bind_eq_ok.mp rest
  obtain ⟨⟨session, sessions⟩, wrote, rest⟩ := bind_eq_ok.mp rest
  obtain ⟨_, -, same⟩ := bind_eq_ok.mp rest
  rw [pure_eq_ok] at same
  obtain ⟨rfl, rfl⟩ := Prod.mk.inj same
  obtain ⟨before, found, rfl, rfl⟩ := updateRow_eq_ok.mp wrote
  have cleared : (if input.isCurrent = some true then
      clearCurrent existing.institutionId (some existing.uuid) s else s) =
      clearedFor (input.isCurrent == some true) existing.institutionId (some existing.uuid) s := by
    unfold clearedFor
    simp only [beq_iff_eq]
  rw [cleared] at found ⊢
  obtain ⟨others, same⟩ := clearedFor_eq (input.isCurrent == some true) existing.institutionId
    (some existing.uuid) s
  rw [same] at found ⊢
  refine ⟨before, _, _, ?_, found, rfl, rfl⟩
  exact fun r => ⟨rfl, rfl, rfl⟩

/-- **The dates of a new session** are those its body names. -/
theorem createSessionCommit_dates {rt : Runtime} {env : SetupEnv} {auth : AuthTokenPayload}
    {input : CreateSessionInput} {institutionId : Uuid} {s t : Store} {row : AcademicSession}
    (created : createSessionCommit rt env auth input institutionId s = .ok (row, t)) :
    dateOf rt input.startDate = .ok row.startDate ∧ dateOf rt input.endDate = .ok row.endDate := by
  unfold createSessionCommit at created
  obtain ⟨startDate, starts, rest⟩ := bind_eq_ok.mp created
  obtain ⟨endDate, ends, rest⟩ := bind_eq_ok.mp rest
  obtain ⟨_, -, rest⟩ := bind_eq_ok.mp rest
  obtain ⟨sessions, -, same⟩ := bind_eq_ok.mp rest
  rw [pure_eq_ok] at same
  obtain ⟨rfl, -⟩ := Prod.mk.inj same
  exact ⟨starts, ends⟩

/-- **The dates of an updated session** are those it had, as far as the body does not change them. -/
theorem updateSessionCommit_dates {rt : Runtime} {input : UpdateSessionInput}
    {existing : AcademicSession} {s t : Store} {row : AcademicSession}
    (updated : updateSessionCommit rt input existing s = .ok (row, t)) :
    ∃ old, (clearedFor (input.isCurrent == some true) existing.institutionId (some existing.uuid)
        s).academicSessions.find? existing.uuid = some old ∧
      patchDate rt input.startDate old.startDate = .ok row.startDate ∧
      patchDate rt input.endDate old.endDate = .ok row.endDate := by
  unfold updateSessionCommit at updated
  obtain ⟨old, found, rest⟩ := bind_eq_ok.mp updated
  obtain ⟨startDate, starts, rest⟩ := bind_eq_ok.mp rest
  obtain ⟨endDate, ends, rest⟩ := bind_eq_ok.mp rest
  obtain ⟨⟨session, sessions⟩, wrote, rest⟩ := bind_eq_ok.mp rest
  obtain ⟨_, -, same⟩ := bind_eq_ok.mp rest
  rw [pure_eq_ok] at same
  obtain ⟨rfl, -⟩ := Prod.mk.inj same
  obtain ⟨before, -, rfl, -⟩ := updateRow_eq_ok.mp wrote
  refine ⟨old, ?_, starts, ends⟩
  rw [← orThrow_eq_ok.mp found]
  unfold clearedFor
  simp only [beq_iff_eq]

/-- **What a new structure is**, and where it goes. -/
theorem createStructureCommit_spec {env : SetupEnv} {auth : AuthTokenPayload}
    {input : CreateStructureInput} {institutionId : Uuid} {s t : Store} {row : AcademicStructure}
    (created : createStructureCommit env auth input institutionId s = .ok (row, t)) :
    (row.uuid = env.uuid ∧ row.institutionId = institutionId ∧ row.parentId = input.parentId) ∧
      ∃ structures, s.academicStructures.insert row = some structures ∧
        t = { s with academicStructures := structures } := by
  obtain ⟨structures, inserted, same⟩ := bind_eq_ok.mp created
  rw [pure_eq_ok] at same
  obtain ⟨rfl, rfl⟩ := Prod.mk.inj same
  exact ⟨⟨rfl, rfl, rfl⟩, structures, orThrow_eq_ok.mp inserted, rfl⟩

/-- **What an update makes of a structure**: it changes the row in place. -/
theorem updateStructureCommit_spec {input : UpdateStructureInput} {existing : AcademicStructure}
    {s t : Store} {row : AcademicStructure}
    (updated : updateStructureCommit input existing s = .ok (row, t)) :
    ∃ old f, ∃ keeps : ∀ r : AcademicStructure, (f r).uuid = r.uuid,
      (∀ r, (f r).institutionId = r.institutionId ∧
        (f r).parentId = input.parentId.getD r.parentId) ∧
      s.academicStructures.find? existing.uuid = some old ∧
      t = { s with
        academicStructures := s.academicStructures.update existing.uuid f keeps } := by
  obtain ⟨⟨_, structures⟩, wrote, same⟩ := bind_eq_ok.mp updated
  rw [pure_eq_ok] at same
  obtain ⟨-, rfl⟩ := Prod.mk.inj same
  obtain ⟨before, found, rfl, rfl⟩ := updateRow_eq_ok.mp wrote
  refine ⟨before, _, _, ?_, found, rfl⟩
  exact fun r => ⟨rfl, rfl⟩

/-- **What a new rule set is**, and where it goes. -/
theorem createRuleSetCommit_row {rt : Runtime} {env : SetupEnv} {auth : AuthTokenPayload}
    {input : CreateRuleSetInput} {institutionId : Uuid} {s t : Store} {row : GradingRuleSet}
    (created : createRuleSetCommit rt env auth input institutionId s = .ok (row, t)) :
    (row.scale = normalizedScale input.scale input.maxScore ∧ row.maxScore = input.maxScore ∧
      dateOf rt input.effectiveFrom = .ok row.effectiveFrom ∧
      dateOf rt input.effectiveTo = .ok row.effectiveTo) ∧
      ∃ ruleSets, s.gradingRuleSets.insert row = some ruleSets ∧
        t = { s with gradingRuleSets := ruleSets } := by
  obtain ⟨effectiveFrom, starts, rest⟩ := bind_eq_ok.mp created
  obtain ⟨effectiveTo, ends, rest⟩ := bind_eq_ok.mp rest
  obtain ⟨ruleSets, inserted, same⟩ := bind_eq_ok.mp rest
  rw [pure_eq_ok] at same
  obtain ⟨rfl, rfl⟩ := Prod.mk.inj same
  exact ⟨⟨rfl, rfl, starts, ends⟩, ruleSets, orThrow_eq_ok.mp inserted, rfl⟩

/-- **What an update makes of a rule set**: it changes the row in place. -/
theorem updateRuleSetCommit_row {rt : Runtime} {env : SetupEnv} {input : UpdateRuleSetInput}
    {existing : GradingRuleSet} {s t : Store} {row : GradingRuleSet}
    (updated : updateRuleSetCommit rt env input existing s = .ok (row, t)) :
    ∃ old f, ∃ keeps : ∀ r : GradingRuleSet, (f r).uuid = r.uuid,
      s.gradingRuleSets.find? existing.uuid = some old ∧
      (row.scale = (input.scale.map fun scale =>
          normalizedScale scale (input.maxScore.getD existing.maxScore)).getD old.scale ∧
        row.maxScore = input.maxScore.getD old.maxScore ∧
        patchDate rt input.effectiveFrom old.effectiveFrom = .ok row.effectiveFrom ∧
        patchDate rt input.effectiveTo old.effectiveTo = .ok row.effectiveTo) ∧ row = f old ∧
      t = { s with gradingRuleSets := s.gradingRuleSets.update existing.uuid f keeps } := by
  obtain ⟨old, found, rest⟩ := bind_eq_ok.mp updated
  obtain ⟨effectiveFrom, starts, rest⟩ := bind_eq_ok.mp rest
  obtain ⟨effectiveTo, ends, rest⟩ := bind_eq_ok.mp rest
  obtain ⟨⟨_, ruleSets⟩, wrote, same⟩ := bind_eq_ok.mp rest
  rw [pure_eq_ok] at same
  obtain ⟨rfl, rfl⟩ := Prod.mk.inj same
  obtain ⟨before, there, rfl, rfl⟩ := updateRow_eq_ok.mp wrote
  have here := orThrow_eq_ok.mp found
  rw [there] at here
  obtain rfl := Option.some.inj here
  exact ⟨before, _, _, there, ⟨rfl, rfl, starts, ends⟩, rfl, rfl⟩

theorem createRuleSetCommit_spec {rt : Runtime} {env : SetupEnv} {auth : AuthTokenPayload}
    {input : CreateRuleSetInput} {institutionId : Uuid} {s t : Store} {row : GradingRuleSet}
    (created : createRuleSetCommit rt env auth input institutionId s = .ok (row, t)) :
    ∃ ruleSets, t = { s with gradingRuleSets := ruleSets } := by
  obtain ⟨-, ruleSets, -, rfl⟩ := createRuleSetCommit_row created
  exact ⟨ruleSets, rfl⟩

theorem updateRuleSetCommit_spec {rt : Runtime} {env : SetupEnv} {input : UpdateRuleSetInput}
    {existing : GradingRuleSet} {s t : Store} {row : GradingRuleSet}
    (updated : updateRuleSetCommit rt env input existing s = .ok (row, t)) :
    ∃ ruleSets, t = { s with gradingRuleSets := ruleSets } := by
  obtain ⟨old, f, keeps, -, -, -, rfl⟩ := updateRuleSetCommit_row updated
  exact ⟨s.gradingRuleSets.update existing.uuid f keeps, rfl⟩

/-- **What setup writes**: sessions, structures and rule sets, nothing else. -/
theorem setupCommit_spec {rt : Runtime} {plan : SetupPlan} {s t : Store} {res : SetupResponse}
    (written : setupCommit rt plan s = .ok (res, t)) : SetsUp s t := by
  cases plan with
  | createSession env auth input institution =>
    obtain ⟨⟨row, u⟩, created, same⟩ := map_eq_ok.mp written
    obtain ⟨-, rfl⟩ := Prod.mk.inj same
    obtain ⟨-, sessions, -, rfl⟩ := createSessionCommit_spec created
    exact setsUp_sessions s sessions
  | updateSession auth input existing =>
    obtain ⟨⟨row, u⟩, updated, same⟩ := map_eq_ok.mp written
    obtain ⟨-, rfl⟩ := Prod.mk.inj same
    obtain ⟨old, f, keeps, -, -, -, rfl⟩ := updateSessionCommit_spec updated
    exact setsUp_sessions s _
  | createStructure env auth input institution =>
    obtain ⟨⟨row, u⟩, created, same⟩ := map_eq_ok.mp written
    obtain ⟨-, rfl⟩ := Prod.mk.inj same
    obtain ⟨-, structures, -, rfl⟩ := createStructureCommit_spec created
    exact setsUp_structures s structures
  | updateStructure auth input existing =>
    obtain ⟨⟨row, u⟩, updated, same⟩ := map_eq_ok.mp written
    obtain ⟨-, rfl⟩ := Prod.mk.inj same
    obtain ⟨old, f, keeps, -, -, rfl⟩ := updateStructureCommit_spec updated
    exact setsUp_structures s _
  | createRuleSet env auth input institution =>
    obtain ⟨⟨row, u⟩, created, same⟩ := map_eq_ok.mp written
    obtain ⟨-, rfl⟩ := Prod.mk.inj same
    obtain ⟨ruleSets, rfl⟩ := createRuleSetCommit_spec created
    exact setsUp_ruleSets s ruleSets
  | updateRuleSet env auth input existing =>
    obtain ⟨⟨row, u⟩, updated, same⟩ := map_eq_ok.mp written
    obtain ⟨-, rfl⟩ := Prod.mk.inj same
    obtain ⟨ruleSets, rfl⟩ := updateRuleSetCommit_spec updated
    exact setsUp_ruleSets s ruleSets

/-- Clearing leaves the institution and the status of a session. -/
theorem find?_clearedFor {current : Bool} {institutionId : Uuid} {keep : Option Uuid} {s : Store}
    {id : Uuid} {session : AcademicSession} (found : s.academicSessions.find? id = some session) :
    ∃ cleared, (clearedFor current institutionId keep s).academicSessions.find? id = some cleared ∧
      cleared.institutionId = session.institutionId ∧ cleared.status = session.status := by
  cases current with
  | false => exact ⟨session, found, rfl, rfl⟩
  | true =>
    show ∃ cleared, (clearCurrent institutionId keep s).academicSessions.find? id = some cleared ∧ _
    simp only [clearCurrent, Table.find?_updateMany, found, Option.map_some]
    refine ⟨_, rfl, ?_, ?_⟩
    · split <;> rfl
    · split <;> rfl

theorem find?_clearedFor_none {current : Bool} {institutionId : Uuid} {keep : Option Uuid} {s : Store}
    {id : Uuid} (absent : s.academicSessions.find? id = none) :
    (clearedFor current institutionId keep s).academicSessions.find? id = none := by
  cases current with
  | false => exact absent
  | true =>
    show (clearCurrent institutionId keep s).academicSessions.find? id = none
    simp only [clearCurrent, Table.find?_updateMany, absent, Option.map_none]

/-- The status that a transaction leaves a session in. -/
def statusAfter (plan : SetupPlan) (session : AcademicSession) : AcademicSessionStatus :=
  match plan with
  | .updateSession _ input existing =>
    if existing.uuid = session.uuid then input.status.getD session.status else session.status
  | _ => session.status

theorem statusAfter_update {auth : AuthTokenPayload} {input : UpdateSessionInput}
    {existing session : AcademicSession} :
    statusAfter (.updateSession auth input existing) session =
      if existing.uuid = session.uuid then input.status.getD session.status else session.status :=
  rfl

/-- **What a transaction leaves of a session**: its institution, and its status unless an update
names another. -/
theorem session_commit {rt : Runtime} {plan : SetupPlan} {s t : Store} {res : SetupResponse}
    (written : setupCommit rt plan s = .ok (res, t)) {id : Uuid} {session : AcademicSession}
    (found : s.academicSessions.find? id = some session) :
    ∃ session', t.academicSessions.find? id = some session' ∧
      session'.institutionId = session.institutionId ∧
      session'.status = statusAfter plan session := by
  cases plan with
  | createSession env auth input institution =>
    obtain ⟨⟨row, u⟩, created, same⟩ := map_eq_ok.mp written
    obtain ⟨-, rfl⟩ := Prod.mk.inj same
    obtain ⟨-, sessions, inserted, rfl⟩ := createSessionCommit_spec created
    obtain ⟨cleared, there, owner, status⟩ := @find?_clearedFor input.isCurrent institution.uuid
      none s id session found
    refine ⟨cleared, ?_, owner, status⟩
    show sessions.find? id = some cleared
    rw [Table.find?_insert inserted, if_neg ?_]
    · exact there
    · rw [← Table.find?_key there]
      exact Ne.symm ((Table.insert_eq_some.mp inserted).1 cleared (Table.find?_mem there))
  | updateSession auth input existing =>
    obtain ⟨⟨row, u⟩, updated, same⟩ := map_eq_ok.mp written
    obtain ⟨-, rfl⟩ := Prod.mk.inj same
    obtain ⟨old, f, keeps, made, -, -, rfl⟩ := updateSessionCommit_spec updated
    obtain ⟨cleared, there, owner, status⟩ := @find?_clearedFor (input.isCurrent == some true)
      existing.institutionId (some existing.uuid) s id session found
    show ∃ session', (Table.update _ existing.uuid f keeps).find? id = some session' ∧ _
    rw [Table.find?_update]
    rw [statusAfter_update, Table.find?_key found]
    by_cases here : existing.uuid = id
    · subst here
      rw [if_pos rfl, if_pos rfl, there]
      exact ⟨f cleared, rfl, (made cleared).1.trans owner, by rw [(made cleared).2.1, status]⟩
    · rw [if_neg here, if_neg here]
      exact ⟨cleared, there, owner, status⟩
  | createStructure env auth input institution =>
    obtain ⟨⟨row, u⟩, created, same⟩ := map_eq_ok.mp written
    obtain ⟨-, rfl⟩ := Prod.mk.inj same
    obtain ⟨-, structures, -, rfl⟩ := createStructureCommit_spec created
    exact ⟨session, found, rfl, rfl⟩
  | updateStructure auth input existing =>
    obtain ⟨⟨row, u⟩, updated, same⟩ := map_eq_ok.mp written
    obtain ⟨-, rfl⟩ := Prod.mk.inj same
    obtain ⟨old, f, keeps, -, -, rfl⟩ := updateStructureCommit_spec updated
    exact ⟨session, found, rfl, rfl⟩
  | createRuleSet env auth input institution =>
    obtain ⟨⟨row, u⟩, created, same⟩ := map_eq_ok.mp written
    obtain ⟨-, rfl⟩ := Prod.mk.inj same
    obtain ⟨ruleSets, rfl⟩ := createRuleSetCommit_spec created
    exact ⟨session, found, rfl, rfl⟩
  | updateRuleSet env auth input existing =>
    obtain ⟨⟨row, u⟩, updated, same⟩ := map_eq_ok.mp written
    obtain ⟨-, rfl⟩ := Prod.mk.inj same
    obtain ⟨ruleSets, rfl⟩ := updateRuleSetCommit_spec updated
    exact ⟨session, found, rfl, rfl⟩

/-- A plan holds what its schema made of a body, and an update the row it has found. -/
def Reads (rt : Runtime) (s : Store) : SetupPlan → Prop
  | .createSession _ _ input _ =>
    ∃ body, parseBody (createAcademicSessionSchema rt) body = .ok input
  | .updateSession _ input existing =>
    (∃ body, parseBody (updateAcademicSessionSchema rt) body = .ok input) ∧
      s.academicSessions.find? existing.uuid = some existing
  | .createStructure _ _ input _ =>
    ∃ body, parseBody (createAcademicStructureSchema rt) body = .ok input
  | .updateStructure _ input existing =>
    (∃ body, parseBody (updateAcademicStructureSchema rt) body = .ok input) ∧
      s.academicStructures.find? existing.uuid = some existing
  | .createRuleSet _ _ input _ =>
    ∃ body, parseBody (createGradingRuleSetSchema rt) body = .ok input
  | .updateRuleSet _ _ input existing =>
    (∃ body, parseBody (updateGradingRuleSetSchema rt) body = .ok input) ∧
      s.gradingRuleSets.find? existing.uuid = some existing

/-- **What a check has read.** -/
theorem reads_of_check {lookup : Institutions.Lookup} {rt : Runtime} {call : SetupCall} {s : Store}
    {plan : SetupPlan} (checked : setupCheckThrough lookup rt call s = .ok plan) :
    Reads rt s plan := by
  cases call with
  | createAcademicSession env auth body =>
    obtain ⟨input, parsed, rest⟩ := bind_eq_ok.mp checked
    obtain ⟨institution, -, same⟩ := bind_eq_ok.mp rest
    obtain rfl := Except.ok.inj same
    exact ⟨body, parsed⟩
  | updateAcademicSession env auth id body =>
    obtain ⟨input, parsed, rest⟩ := bind_eq_ok.mp checked
    obtain ⟨session, found, rest⟩ := bind_eq_ok.mp rest
    obtain ⟨institution, -, same⟩ := bind_eq_ok.mp rest
    obtain rfl := Except.ok.inj same
    have there := orThrow_eq_ok.mp found
    exact ⟨⟨body, parsed⟩, by rw [Table.find?_key there]; exact there⟩
  | createAcademicStructure env auth body =>
    obtain ⟨input, parsed, rest⟩ := bind_eq_ok.mp checked
    obtain ⟨institution, -, rest⟩ := bind_eq_ok.mp rest
    obtain ⟨_, -, same⟩ := bind_eq_ok.mp rest
    obtain rfl := Except.ok.inj same
    exact ⟨body, parsed⟩
  | updateAcademicStructure env auth id body =>
    obtain ⟨input, parsed, rest⟩ := bind_eq_ok.mp checked
    obtain ⟨row, found, rest⟩ := bind_eq_ok.mp rest
    obtain ⟨institution, -, rest⟩ := bind_eq_ok.mp rest
    obtain ⟨_, -, rest⟩ := bind_eq_ok.mp rest
    obtain ⟨_, -, same⟩ := bind_eq_ok.mp rest
    obtain rfl := Except.ok.inj same
    have there := orThrow_eq_ok.mp found
    exact ⟨⟨body, parsed⟩, by rw [Table.find?_key there]; exact there⟩
  | createGradingRuleSet env auth body =>
    obtain ⟨input, parsed, rest⟩ := bind_eq_ok.mp checked
    obtain ⟨institution, -, same⟩ := bind_eq_ok.mp rest
    obtain rfl := Except.ok.inj same
    exact ⟨body, parsed⟩
  | updateGradingRuleSet env auth id body =>
    obtain ⟨input, parsed, rest⟩ := bind_eq_ok.mp checked
    obtain ⟨row, found, rest⟩ := bind_eq_ok.mp rest
    obtain ⟨institution, -, same⟩ := bind_eq_ok.mp rest
    obtain rfl := Except.ok.inj same
    have there := orThrow_eq_ok.mp found
    exact ⟨⟨body, parsed⟩, by rw [Table.find?_key there]; exact there⟩

/-- The session that a checked update is about is there, as it was read. -/
theorem existing_of_check {lookup : Institutions.Lookup} {rt : Runtime} {call : SetupCall} {s : Store}
    {auth : AuthTokenPayload} {input : UpdateSessionInput} {existing : AcademicSession}
    (checked : setupCheckThrough lookup rt call s = .ok (.updateSession auth input existing)) :
    s.academicSessions.find? existing.uuid = some existing :=
  (reads_of_check checked).2

/-- The log entry is all that a call leaves besides. -/
theorem setupLog_spec (plan : SetupPlan) (res : SetupResponse) (s : Store) :
    setupLog plan res s = s ∨ ∃ event, setupLog plan res s = s.audit event := by
  cases plan <;> cases res <;> first | exact .inl rfl | exact .inr ⟨_, rfl⟩

end AcademicSetup

end AcadID
