/-
**The academic standing of an enrolment, recomputed from its published records.**

* `rollupRecords` — the published records with a grade point and credit units, the latest first;
  only those graded by a tertiary rule set, when there are any.
* `recomputeAcademicStanding` — the totals, the cumulative grade point average and its class,
  upserted for the enrolment. It writes nothing but the standing
  (`recomputeAcademicStanding_frame`).
-/

import AcadID.Platform.Store

namespace AcadID

open Lib

namespace Standing

/-- `Math.round(value * 10^precision) / 10^precision`. -/
def round (value : ℚ) (precision : ℕ) : ℚ :=
  (value * 10 ^ precision + 1 / 2).floor / 10 ^ precision

/-- A nullable decimal as a number. -/
def decimalToNumber (value : Option ℚ) : ℚ :=
  value.getD 0

/-- The larger of a nonempty list of numbers. -/
def maximum (first : ℚ) (rest : List ℚ) : ℚ :=
  rest.foldl max first

/-- The rule set a record was graded by. -/
def gradingRuleSet (s : Store) (record : AcademicRecord) : Option GradingRuleSet :=
  record.gradingRuleSetId.bind s.gradingRuleSets.find?

/-- Latest publication first, then latest creation; a record without a date of publication comes
before all others. -/
def laterFirst (a b : AcademicRecord) : Bool :=
  match a.publishedAt, b.publishedAt with
  | none, none => b.createdAt ≤ a.createdAt
  | none, some _ => true
  | some _, none => false
  | some x, some y => y < x || (x == y && b.createdAt ≤ a.createdAt)

/-- The records a standing counts, before the tertiary ones are picked out. -/
def countedRecords (s : Store) (enrolmentId : Uuid) : List AcademicRecord :=
  (s.academicRecords.rows.filter fun record =>
    record.enrolmentId == enrolmentId && record.status == .published &&
      record.gradePoint.isSome && record.creditUnits.isSome).insertionSort fun a b => laterFirst a b

def rollupRecords (s : Store) (enrolmentId : Uuid) : List AcademicRecord :=
  let records := countedRecords s enrolmentId
  let tertiary := records.filter fun record =>
    (gradingRuleSet s record).any (·.engine == .tertiaryGpa)
  if tertiary.isEmpty then records else tertiary

def resolveGradePointMax (s : Store) (records : List AcademicRecord) : ℚ :=
  let configured := (records.map fun record =>
    decimalToNumber ((gradingRuleSet s record).bind (·.gradePointMax))).filter (0 < ·)
  match configured with
  | first :: rest => maximum first rest
  | [] =>
    match (records.map fun record => decimalToNumber record.gradePoint).filter (0 < ·) with
    | first :: rest => if maximum first rest ≤ 4 then 4 else 5
    | [] => 5

def classifyCgpa (cgpa gradePointMax : ℚ) : String :=
  let normalized := if 0 < gradePointMax then cgpa / gradePointMax * 5 else cgpa
  if 9 / 2 ≤ normalized then "First Class"
  else if 7 / 2 ≤ normalized then "Second Class Upper"
  else if 12 / 5 ≤ normalized then "Second Class Lower"
  else if 3 / 2 ≤ normalized then "Third Class"
  else if 1 ≤ normalized then "Pass"
  else "Fail"

/-- The standing computed from the records that count. -/
def standingOf (s : Store) (now : Time) (enrolment : Enrolment) : AcademicStanding :=
  let records := rollupRecords s enrolment.uuid
  let attempted := round (records.map fun r => decimalToNumber r.creditUnits).sum 4
  let quality := round (records.map fun r => decimalToNumber r.qualityPoints).sum 4
  let earned := round (records.map fun r =>
    if 0 < decimalToNumber r.gradePoint then decimalToNumber r.creditUnits else 0).sum 4
  let cgpa := if 0 < attempted then some (round (quality / attempted) 4) else none
  let gradePointMax := resolveGradePointMax s records
  { enrolmentId := enrolment.uuid
    learnerId := enrolment.learnerId
    institutionId := enrolment.institutionId
    latestAcademicSessionId := records.head?.bind (·.academicSessionId)
    latestPeriodLabel := records.head?.map (·.periodLabel)
    attemptedCreditUnits := attempted
    earnedCreditUnits := earned
    qualityPoints := quality
    cgpa := cgpa
    gradePointMax := gradePointMax
    classification := cgpa.map fun value => classifyCgpa value gradePointMax
    classificationSystem :=
      if gradePointMax ≤ 4 then "NIGERIAN_TERTIARY_4_POINT" else "NIGERIAN_TERTIARY_5_POINT"
    includedRecordCount := records.length
    periodCount := (records.map fun r =>
      r.academicSessionId.getD "none" ++ ":" ++ r.periodLabel).eraseDups.length
    computedAt := now }

def recomputeAcademicStanding (s : Store) (now : Time) (enrolmentId : Uuid) : Store :=
  match s.enrolments.find? enrolmentId with
  | none => s
  | some enrolment =>
    { s with academicStandings := s.academicStandings.upsert (standingOf s now enrolment) }

/-- **A recomputed standing is all that changes**: the rest of the store can be read off the store
before. -/
theorem recomputeAcademicStanding_frame (s : Store) (now : Time) (enrolmentId : Uuid) :
    ∃ standings, recomputeAcademicStanding s now enrolmentId =
      { s with academicStandings := standings } := by
  unfold recomputeAcademicStanding
  cases s.enrolments.find? enrolmentId with
  | none => exact ⟨s.academicStandings, rfl⟩
  | some enrolment => exact ⟨_, rfl⟩

/-- The standings of several enrolments, one after the other. -/
def recomputeAll (now : Time) (s : Store) (enrolmentIds : List Uuid) : Store :=
  enrolmentIds.foldl (fun s enrolmentId => recomputeAcademicStanding s now enrolmentId) s

theorem recomputeAll_frame (now : Time) (s : Store) (enrolmentIds : List Uuid) :
    ∃ standings, recomputeAll now s enrolmentIds = { s with academicStandings := standings } := by
  induction enrolmentIds generalizing s with
  | nil => exact ⟨s.academicStandings, rfl⟩
  | cons enrolmentId rest ih =>
    obtain ⟨first, recomputed⟩ := recomputeAcademicStanding_frame s now enrolmentId
    obtain ⟨standings, all⟩ := ih (recomputeAcademicStanding s now enrolmentId)
    refine ⟨standings, ?_⟩
    show recomputeAll now (recomputeAcademicStanding s now enrolmentId) rest = _
    rw [all, recomputed]

end Standing

end AcadID
