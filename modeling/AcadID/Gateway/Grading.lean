/-
**Grading: the rule that applies, the band a score falls in, and the graded rows.**

* `normalizeScale` and `findBand` — the bands of a stored scale, the highest first, and the first
  that holds a score.
* `resolveGradingRule` — the rule set named by the upload, else the institution's active one for
  the upload mode, else the built-in `defaultGradingRule`.
* `gradeRows` — the grade, grade point and quality points of every row, with the totals and the
  warnings of the batch.
-/

import AcadID.Gateway.Standing

namespace AcadID

open Lib

namespace Grading

structure GradingScaleBand where
  minScore : ℚ
  maxScore : Option ℚ
  grade : String
  gradePoint : Option ℚ
  pass : Option Bool
  deriving DecidableEq

inductive RuleSource where
  | configured
  | defaultFallback
  deriving DecidableEq, Repr

def RuleSource.name : RuleSource → String
  | .configured => "CONFIGURED"
  | .defaultFallback => "DEFAULT_FALLBACK"

structure ResolvedGradingRule where
  uuid : Option Uuid
  name : String
  engine : GradingRuleEngine
  source : RuleSource
  scale : List GradingScaleBand
  passMark : Option ℚ
  maxScore : ℚ
  gradePointMax : Option ℚ

/-- One row of a result upload. -/
structure ResultRow where
  studentNumber : String
  periodType : PeriodType
  periodLabel : String
  subjectCode : String
  subjectName : String
  caScore : Option ℚ
  examScore : Option ℚ
  totalScore : ℚ
  grade : Option String
  creditUnits : Option ℚ

structure GradedRow where
  row : ResultRow
  grade : String
  gradePoint : Option ℚ
  creditUnits : Option ℚ
  qualityPoints : Option ℚ

/-! ### Scales -/

def number? : Option Json → Option ℚ
  | some (.num q) => some q
  | _ => none

/-- One band of a stored scale. -/
def normalizeBand (maxScore : ℚ) (band : Json) : Except ServiceError GradingScaleBand :=
  match band with
  | .obj _ =>
    match band.get? "minScore", band.get? "grade" with
    | some (.num minScore), some (.str grade) =>
      .ok
        { minScore := minScore
          maxScore := some ((number? (band.get? "maxScore")).getD maxScore)
          grade := grade
          gradePoint := number? (band.get? "gradePoint")
          pass := match band.get? "pass" with
            | some (.bool pass) => some pass
            | _ => none }
    | _, _ => .error (.badRequest "Each grading scale band requires minScore and grade.")
  | .arr _ => .error (.badRequest "Each grading scale band requires minScore and grade.")
  | _ => .error (.badRequest "Each grading scale band must be an object.")

def normalizeScale (scale : Json) (maxScore : ℚ) : Except ServiceError (List GradingScaleBand) :=
  match scale with
  | .arr bands => do
    let normalized ← bands.mapM (normalizeBand maxScore)
    return normalized.insertionSort fun a b => b.minScore ≤ a.minScore
  | _ => .error (.badRequest "Grading scale must be an array of bands.")

def findBand (totalScore : ℚ) (scale : List GradingScaleBand) : Option GradingScaleBand :=
  scale.find? fun band => band.minScore ≤ totalScore && band.maxScore.all (totalScore ≤ ·)

def defaultGradingRule (engine : GradingRuleEngine) : ResolvedGradingRule :=
  let tertiary := engine == .tertiaryGpa
  let band (minScore maxScore : ℚ) (grade : String) (point : ℚ) (pass : Bool) : GradingScaleBand :=
    { minScore := minScore
      maxScore := some maxScore
      grade := grade
      gradePoint := if tertiary then some point else none
      pass := some pass }
  { uuid := none
    name := if tertiary then "AcadID MVP 5-point GPA fallback"
      else "AcadID MVP primary/secondary fallback"
    engine := engine
    source := .defaultFallback
    scale :=
      [band 70 100 "A" 5 true, band 60 (6999 / 100) "B" 4 true, band 50 (5999 / 100) "C" 3 true,
        band 45 (4999 / 100) "D" 2 true, band 40 (4499 / 100) "E" 1 true,
        band 0 (3999 / 100) "F" 0 false]
    passMark := some 40
    maxScore := 100
    gradePointMax := if tertiary then some 5 else none }

/-! ### The rule of a batch -/

/-- A stored rule set as the rule of a batch. -/
def configuredRule (ruleSet : GradingRuleSet) : Except ServiceError ResolvedGradingRule := do
  let scale ← normalizeScale ruleSet.scale ruleSet.maxScore
  return {
    uuid := some ruleSet.uuid
    name := ruleSet.name
    engine := ruleSet.engine
    source := .configured
    scale := scale
    passMark := ruleSet.passMark
    maxScore := ruleSet.maxScore
    gradePointMax := ruleSet.gradePointMax }

/-- The latest date in force first, a rule set without one before all others; then the latest
update. -/
def inForceFirst (a b : GradingRuleSet) : Bool :=
  match a.effectiveFrom, b.effectiveFrom with
  | none, none => b.updatedAt ≤ a.updatedAt
  | none, some _ => true
  | some _, none => false
  | some x, some y => y < x || (x == y && b.updatedAt ≤ a.updatedAt)

def expectedEngine (uploadMode : ResultUploadMode) : GradingRuleEngine :=
  if uploadMode = .courseBased then .tertiaryGpa else .primarySecondary

def resolveGradingRule (institutionId : Uuid) (uploadMode : ResultUploadMode)
    (gradingRuleSetId : Option Uuid) (s : Store) : Except ServiceError ResolvedGradingRule :=
  match gradingRuleSetId with
  | some id =>
    match s.gradingRuleSets.find? id with
    | some ruleSet =>
      if ruleSet.institutionId ≠ institutionId ∨ ruleSet.status = .archived then
        .error (.badRequest "Active grading rule set must belong to the institution.")
      else configuredRule ruleSet
    | none => .error (.badRequest "Active grading rule set must belong to the institution.")
  | none =>
    let active := (s.gradingRuleSets.rows.filter fun ruleSet =>
      ruleSet.institutionId == institutionId && ruleSet.engine == expectedEngine uploadMode &&
        ruleSet.status == .active).insertionSort fun a b => inForceFirst a b
    match active with
    | ruleSet :: _ => configuredRule ruleSet
    | [] => .ok (defaultGradingRule (expectedEngine uploadMode))

/-- A rule with the id of a rule set is that rule set, and has its engine. -/
theorem configuredRule_spec {ruleSet : GradingRuleSet} {rule : ResolvedGradingRule}
    (resolved : configuredRule ruleSet = .ok rule) :
    rule.uuid = some ruleSet.uuid ∧ rule.engine = ruleSet.engine := by
  unfold configuredRule at resolved
  obtain ⟨scale, -, same⟩ := bind_eq_ok.mp resolved
  rw [pure_eq_ok] at same
  rw [← same]
  exact ⟨rfl, rfl⟩

/-- **A resolved rule with an id** is a stored rule set with its engine. -/
theorem resolveGradingRule_spec {institutionId : Uuid} {uploadMode : ResultUploadMode}
    {gradingRuleSetId : Option Uuid} {s : Store} {rule : ResolvedGradingRule}
    (resolved : resolveGradingRule institutionId uploadMode gradingRuleSetId s = .ok rule) {id : Uuid}
    (configured : rule.uuid = some id) :
    ∃ ruleSet, s.gradingRuleSets.find? id = some ruleSet ∧ ruleSet.engine = rule.engine := by
  have stored : ∀ ruleSet ∈ s.gradingRuleSets.rows, configuredRule ruleSet = .ok rule →
      ∃ ruleSet, s.gradingRuleSets.find? id = some ruleSet ∧ ruleSet.engine = rule.engine := by
    intro ruleSet inside is
    obtain ⟨uuid, engine⟩ := configuredRule_spec is
    rw [configured] at uuid
    exact ⟨ruleSet, Table.find?_eq_some.mpr ⟨inside, (Option.some.inj uuid).symm⟩, engine.symm⟩
  unfold resolveGradingRule at resolved
  cases gradingRuleSetId with
  | some given =>
    cases found : s.gradingRuleSets.find? given with
    | none =>
      simp only [found] at resolved
      exact absurd resolved (by simp)
    | some ruleSet =>
      simp only [found] at resolved
      split at resolved
      · exact absurd resolved (by simp)
      · exact stored ruleSet (Table.find?_mem found) resolved
  | none =>
    dsimp only at resolved
    split at resolved
    · rename_i ruleSet rest first
      have inside : ruleSet ∈ ruleSet :: rest := List.mem_cons_self ..
      rw [← first] at inside
      have kept := (List.perm_insertionSort _ _).mem_iff.mp inside
      exact stored ruleSet (List.mem_of_mem_filter kept) resolved
    · rw [← Except.ok.inj resolved] at configured
      exact absurd configured (by simp [defaultGradingRule])

/-! ### Graded rows -/

/-- One row, graded, or the refusal of a score outside every band. -/
def gradeRow (rule : ResolvedGradingRule) (row : ResultRow) (index : ℕ) :
    Except ServiceError (GradingScaleBand × GradedRow) :=
  match findBand row.totalScore rule.scale with
  | none =>
    .error (.badRequestWith "Result score does not match any configured grading band."
      [("row", .num (index + 1)), ("studentNumber", .str row.studentNumber),
        ("totalScore", .num row.totalScore)])
  | some band =>
    .ok (band,
      { row := row
        grade := band.grade
        gradePoint := band.gradePoint
        creditUnits := row.creditUnits
        qualityPoints := do
          let creditUnits ← row.creditUnits
          let gradePoint ← band.gradePoint
          return Standing.round (creditUnits * gradePoint) 4 })

/-- The warnings of one row. -/
def rowWarnings (rt : Runtime) (rule : ResolvedGradingRule) (band : GradingScaleBand)
    (row : ResultRow) (index : ℕ) : List Json :=
  let above := if rule.maxScore < row.totalScore then
      [Json.obj
        [("row", .num (index + 1)), ("studentNumber", .str row.studentNumber),
          ("code", .str "SCORE_ABOVE_MAX"),
          ("message", .str ("Total score " ++ String.ofList (rt.format.text row.totalScore) ++
            " is above grading max score " ++ String.ofList (rt.format.text rule.maxScore) ++
            "."))]]
    else []
  let overridden := match row.grade with
    | some uploaded =>
      if uploaded ≠ "" ∧
          rt.toUpperCase (Text.trim uploaded) ≠ rt.toUpperCase (Text.trim band.grade) then
        [Json.obj
          [("row", .num (index + 1)), ("studentNumber", .str row.studentNumber),
            ("code", .str "UPLOADED_GRADE_OVERRIDDEN"), ("uploadedGrade", .str uploaded),
            ("computedGrade", .str band.grade)]]
      else []
    | none => []
  above ++ overridden

/-- The totals of a batch as they grow row by row. -/
structure Totals where
  attemptedCreditUnits : ℚ
  earnedCreditUnits : ℚ
  qualityPoints : ℚ
  deriving DecidableEq

def Totals.add (rule : ResolvedGradingRule) (totals : Totals)
    (graded : GradingScaleBand × GradedRow) : Totals :=
  match rule.engine, graded.2.creditUnits, graded.2.gradePoint with
  | .tertiaryGpa, some creditUnits, some _ =>
    { attemptedCreditUnits := totals.attemptedCreditUnits + creditUnits
      qualityPoints := totals.qualityPoints + graded.2.qualityPoints.getD 0
      earnedCreditUnits :=
        if graded.1.pass.getD (decide (rule.passMark.getD 0 ≤ graded.2.row.totalScore)) then
          totals.earnedCreditUnits + creditUnits
        else totals.earnedCreditUnits }
  | _, _, _ => totals

/-- What grading a batch gives. -/
structure Graded where
  rows : List GradedRow
  warnings : List Json
  gpa : Option ℚ
  summary : Json

def ofRat? : Option ℚ → Json
  | some q => .num q
  | none => .null

def gradeRows (rt : Runtime) (rows : List ResultRow) (rule : ResolvedGradingRule) :
    Except ServiceError Graded := do
  let graded ← rows.zipIdx.mapM fun row => gradeRow rule row.1 row.2
  let warnings := (graded.zipIdx.flatMap fun g => rowWarnings rt rule g.1.1 g.1.2.row g.2) ++
    if rule.source = .defaultFallback then
      [Json.obj
        [("code", .str "DEFAULT_GRADING_RULE_USED"),
          ("message", .str ("No active configured grading rule set was found, so AcadID used the " ++
            "MVP fallback scale."))]]
    else []
  let totals := graded.foldl (Totals.add rule) ⟨0, 0, 0⟩
  let gpa := if 0 < totals.attemptedCreditUnits then
      some (Standing.round (totals.qualityPoints / totals.attemptedCreditUnits) 4)
    else none
  return {
    rows := graded.map Prod.snd
    warnings := warnings
    gpa := gpa
    summary := .obj
      [("ruleSetId", Json.ofOption rule.uuid), ("ruleSetName", .str rule.name),
        ("source", .str rule.source.name), ("engine", .str rule.engine.name),
        ("maxScore", .num rule.maxScore), ("gradePointMax", ofRat? rule.gradePointMax),
        ("attemptedCreditUnits", .num totals.attemptedCreditUnits),
        ("earnedCreditUnits", .num totals.earnedCreditUnits),
        ("qualityPoints", .num (Standing.round totals.qualityPoints 4)), ("gpa", ofRat? gpa)] }

/-- The graded rows are the rows, in their order. -/
theorem gradeRows_rows {rt : Runtime} {rows : List ResultRow} {rule : ResolvedGradingRule}
    {grading : Graded} (graded : gradeRows rt rows rule = .ok grading) :
    grading.rows.map (·.row) = rows := by
  unfold gradeRows at graded
  obtain ⟨bands, each, same⟩ := bind_eq_ok.mp graded
  rw [pure_eq_ok] at same
  subst same
  have reads : ∀ (a : ResultRow × ℕ) b, gradeRow rule a.1 a.2 = .ok b → b.2.row = a.1 := by
    intro a b went
    unfold gradeRow at went
    split at went
    · exact absurd went (by simp)
    · rw [← Except.ok.inj went]
  show (bands.map Prod.snd).map (·.row) = rows
  rw [List.map_map]
  have through := map_eq_of_mapM_ok (g := fun b : GradingScaleBand × GradedRow => b.2.row) reads each
  show bands.map (fun b => b.2.row) = rows
  rw [through]
  exact List.zipIdx_map_fst 0 rows

end Grading

end AcadID
