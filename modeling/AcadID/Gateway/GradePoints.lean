/-
**Grade points: averages within the scale, and the class of a perfect record.**

Quality points are rounded to four decimals row by row, then added, divided by the credit units and
rounded again; a standing rounds its credit units as well.

* `average_le_iff` — such an average is at most a maximum exactly when the rounding of the rows adds
  less than their points stay below it, and half a step for each credit unit.
* `averages_within` — **the averages of an upload and of a standing**: they are never negative, and
  at most the maximum exactly then.
* `firstClass_iff` — **a standing of perfect records** is a first class exactly when they reach nine
  tenths of the largest of their maxima.
-/

import AcadID.Gateway.Accounting
import AcadID.Lib.Rounding
import Mathlib.Algebra.BigOperators.Ring.List
import Mathlib.Algebra.Order.BigOperators.Group.List

namespace AcadID.GradePoints

open Lib Standing Grading Accounting

theorem round_eq (value : ℚ) (precision : ℕ) :
    round value precision = Rounding.nearest (10 ^ precision) value := rfl

/-- Four decimals. -/
abbrev fourDecimals : ℚ := 10 ^ 4

theorem fourDecimals_pos : 0 < fourDecimals := by norm_num [fourDecimals]

/-! ### Averages of rows -/

section Averages

/-- Credit units and grade points, row by row. -/
abbrev Rows := List (ℚ × ℚ)

def units (rows : Rows) : ℚ :=
  (rows.map Prod.fst).sum

/-- The quality points of the rows, each to four decimals. -/
def quality (rows : Rows) : ℚ :=
  (rows.map fun row => round (row.1 * row.2) 4).sum

/-- What rounding adds to the quality points of the rows. -/
def gained (rows : Rows) : ℚ :=
  (rows.map fun row => round (row.1 * row.2) 4 - row.1 * row.2).sum

/-- What the rows lack for the maximum in each. -/
def short (maximum : ℚ) (rows : Rows) : ℚ :=
  (rows.map fun row => row.1 * (maximum - row.2)).sum

/-- How far above the maximum a number is from which on it no longer rounds to at most that. -/
def tolerance (maximum : ℚ) : ℚ :=
  ((⌊maximum * fourDecimals⌋ : ℚ) + 1 / 2) / fourDecimals - maximum

/-- The rounding of the rows adds less than they lack for the maximum, and the tolerance for each
credit unit attempted, without what rounding takes off the credit units. -/
def AddsLittle (maximum attempted : ℚ) (rows : Rows) : Prop :=
  gained rows < short maximum rows + attempted * tolerance maximum -
    (units rows - attempted) * maximum

variable {maximum attempted : ℚ} {rows : Rows}

theorem quality_eq (maximum : ℚ) (rows : Rows) :
    quality rows = maximum * units rows - short maximum rows + gained rows := by
  unfold quality units short gained
  induction rows with
  | nil => simp
  | cons row rows ih =>
    simp only [List.map_cons, List.sum_cons]
    rw [ih]
    ring

theorem quality_onGrid (rows : Rows) : Rounding.OnGrid fourDecimals (quality rows) := by
  refine Rounding.onGrid_sum fun value inside => ?_
  obtain ⟨row, -, rfl⟩ := List.mem_map.mp inside
  exact Rounding.onGrid_nearest fourDecimals_pos _

/-- **An average is at most the maximum** exactly when rounding adds little. -/
theorem average_le_iff (positive : 0 < attempted) :
    round (quality rows / attempted) 4 ≤ maximum ↔ AddsLittle maximum attempted rows := by
  rw [round_eq, Rounding.nearest_le_iff fourDecimals_pos, div_lt_iff₀ positive,
    quality_eq maximum rows]
  have limit : ((⌊maximum * 10 ^ 4⌋ : ℚ) + 1 / 2) / 10 ^ 4 = maximum + tolerance maximum := by
    unfold tolerance
    ring
  unfold AddsLittle
  rw [limit]
  constructor
  · intro below
    linarith
  · intro below
    linarith

theorem average_nonneg (nonneg : ∀ row ∈ rows, 0 ≤ row.1 ∧ 0 ≤ row.2) (positive : 0 < attempted) :
    0 ≤ round (quality rows / attempted) 4 := by
  have total : 0 ≤ quality rows := by
    refine List.sum_nonneg fun value inside => ?_
    obtain ⟨row, member, rfl⟩ := List.mem_map.mp inside
    exact Rounding.nearest_nonneg fourDecimals_pos
      (mul_nonneg (nonneg row member).1 (nonneg row member).2)
  exact Rounding.nearest_nonneg fourDecimals_pos (div_nonneg total positive.le)

/-- The row has at least one credit unit, or its quality points have four decimals. -/
def Ample (row : ℚ × ℚ) : Prop :=
  1 ≤ row.1 ∨ Rounding.OnGrid fourDecimals (row.1 * row.2)

/-- The tolerance of a maximum of four decimals is half a step. -/
theorem tolerance_of_onGrid (on : Rounding.OnGrid fourDecimals maximum) :
    tolerance maximum = 1 / 2 / fourDecimals := by
  obtain ⟨n, is⟩ := on
  unfold tolerance
  rw [is, Int.floor_intCast, ← is, add_div, mul_div_cancel_right₀ _ fourDecimals_pos.ne',
    add_sub_cancel_left]

/-- **A row whose rounding adds less** than it lacks for the maximum, and half a step for each of
its credit units. -/
theorem row_gained_lt {row : ℚ × ℚ} (on : Rounding.OnGrid fourDecimals maximum)
    (ample : Ample row) (positive : 0 < row.1) (below : row.2 ≤ maximum) :
    round (row.1 * row.2) 4 - row.1 * row.2 <
      row.1 * (maximum - row.2) + row.1 * (1 / 2 / fourDecimals) := by
  have step : (0 : ℚ) < 1 / 2 / fourDecimals := div_pos (by norm_num) fourDecimals_pos
  have lacks : 0 ≤ row.1 * (maximum - row.2) := mul_nonneg positive.le (sub_nonneg.mpr below)
  have share : 0 < row.1 * (1 / 2 / fourDecimals) := mul_pos positive step
  have exact : Rounding.OnGrid fourDecimals (row.1 * row.2) →
      round (row.1 * row.2) 4 - row.1 * row.2 = 0 := by
    intro grid
    rw [round_eq, Rounding.nearest_of_onGrid fourDecimals_pos grid, sub_self]
  rcases ample with whole | grid
  · have most := Rounding.nearest_sub_le fourDecimals_pos (x := row.1 * row.2)
    rw [← round_eq] at most
    by_cases full : row.2 = maximum
    · by_cases single : row.1 = 1
      · rw [exact (by rw [single, one_mul, full]; exact on)]
        linarith
      · have more : 1 < row.1 := lt_of_le_of_ne whole (Ne.symm single)
        have bigger : 1 / 2 / fourDecimals < row.1 * (1 / 2 / fourDecimals) :=
          lt_mul_of_one_lt_left step more
        linarith
    · have less : 0 < row.1 * (maximum - row.2) :=
        mul_pos positive (sub_pos.mpr (lt_of_le_of_ne below full))
      have atLeast : 1 / 2 / fourDecimals ≤ row.1 * (1 / 2 / fourDecimals) :=
        le_mul_of_one_le_left step.le whole
      linarith
  · rw [exact grid]
    linarith

/-- **Rounding adds little** to rows with ample credit units, when the maximum has four decimals and
the credit units are taken as they are. -/
theorem addsLittle_of_ample (on : Rounding.OnGrid fourDecimals maximum)
    (ample : ∀ row ∈ rows, 0 ≤ row.1 ∧ row.2 ≤ maximum ∧ (row.1 = 0 ∨ Ample row))
    (positive : 0 < units rows) : AddsLittle maximum (units rows) rows := by
  have each : ∀ row ∈ rows, round (row.1 * row.2) 4 - row.1 * row.2 ≤
      row.1 * (maximum - row.2) + row.1 * (1 / 2 / fourDecimals) ∧ (0 < row.1 →
        round (row.1 * row.2) 4 - row.1 * row.2 <
          row.1 * (maximum - row.2) + row.1 * (1 / 2 / fourDecimals)) := by
    intro row inside
    obtain ⟨nonneg, below, which⟩ := ample row inside
    have strict : 0 < row.1 → round (row.1 * row.2) 4 - row.1 * row.2 <
        row.1 * (maximum - row.2) + row.1 * (1 / 2 / fourDecimals) :=
      fun some => row_gained_lt on (which.resolve_left some.ne') some below
    refine ⟨?_, strict⟩
    rcases nonneg.eq_or_lt with none | some
    · have zero : round 0 4 = 0 := by
        rw [round_eq, Rounding.nearest_of_onGrid fourDecimals_pos ⟨0, by simp⟩]
      rw [← none]
      simp [zero]
    · exact (strict some).le
  have bound : gained rows <
      (rows.map fun row => row.1 * (maximum - row.2) + row.1 * (1 / 2 / fourDecimals)).sum := by
    refine List.sum_lt_sum _ _ (fun row inside => (each row inside).1) ?_
    obtain ⟨row, inside, some⟩ := List.exists_lt_of_sum_lt (fun _ => 0) Prod.fst (l := rows)
      (by rw [List.sum_map_zero]; exact positive)
    exact ⟨row, inside, (each row inside).2 some⟩
  unfold AddsLittle
  rw [tolerance_of_onGrid on, sub_self, zero_mul, sub_zero]
  rw [List.sum_map_add, List.sum_map_mul_right] at bound
  exact bound

end Averages

/-! ### The average of an upload -/

/-- The result schema accepts the row. -/
def Accepted (row : ResultRow) : Prop :=
  ∃ value, Ingestion.resultRowSchema value = .valid row

theorem Accepted.creditUnits {row : ResultRow} (accepted : Accepted row) {given : ℚ}
    (has : row.creditUnits = some given) : 0 ≤ given := by
  obtain ⟨value, read⟩ := accepted
  obtain ⟨fs, -, fields⟩ := Schema.object_eq_valid.mp read
  obtain ⟨_, creditUnits, fields1, last, rfl⟩ := Checked.seq_eq_valid.mp fields
  obtain ⟨_, grade, fields2, -, rfl⟩ := Checked.seq_eq_valid.mp fields1
  obtain ⟨_, totalScore, fields3, -, rfl⟩ := Checked.seq_eq_valid.mp fields2
  obtain ⟨_, examScore, fields4, -, rfl⟩ := Checked.seq_eq_valid.mp fields3
  obtain ⟨_, caScore, fields5, -, rfl⟩ := Checked.seq_eq_valid.mp fields4
  obtain ⟨_, subjectName, fields6, -, rfl⟩ := Checked.seq_eq_valid.mp fields5
  obtain ⟨_, subjectCode, fields7, -, rfl⟩ := Checked.seq_eq_valid.mp fields6
  obtain ⟨_, periodLabel, fields8, -, rfl⟩ := Checked.seq_eq_valid.mp fields7
  obtain ⟨_, periodType, fields9, -, rfl⟩ := Checked.seq_eq_valid.mp fields8
  obtain ⟨studentNumber, -, rfl⟩ := Checked.map_eq_valid.mp fields9
  have passed := Schema.of_optional (Schema.field_eq_valid.mp last) given has
  have checked := (Schema.number_eq_valid.mp passed).2 _ (List.mem_cons_self ..)
  by_contra negative
  exact absurd checked (by simp [Schema.atLeast, not_le.mp negative])

/-- The grade points of the rule lie between zero and a maximum. -/
def Within (rule : ResolvedGradingRule) (maximum : ℚ) : Prop :=
  ∀ band ∈ rule.scale, ∀ point ∈ band.gradePoint, 0 ≤ point ∧ point ≤ maximum

/-- The credit units and the grade point of a row that a rule grades with both. -/
def weightOf (rule : ResolvedGradingRule) (row : ResultRow) : Option (ℚ × ℚ) := do
  let creditUnits ← row.creditUnits
  let band ← findBand row.totalScore rule.scale
  let gradePoint ← band.gradePoint
  return (creditUnits, gradePoint)

/-- The rows that count for the average of an upload. -/
def weightedRows (rule : ResolvedGradingRule) (rows : List ResultRow) : Rows :=
  rows.filterMap (weightOf rule)

/-- The credit units and the grade point of a graded row. -/
def weightOfGraded (graded : GradedRow) : ℚ × ℚ :=
  (decimalToNumber graded.creditUnits, decimalToNumber graded.gradePoint)

/-- **A graded row** has the credit units of the row, the grade point of its band, and their
product as quality points. -/
theorem gradeRow_spec {rule : ResolvedGradingRule} {row : ResultRow} {index : ℕ}
    {graded : GradingScaleBand × GradedRow} (went : gradeRow rule row index = .ok graded) :
    ∃ band, findBand row.totalScore rule.scale = some band ∧
      graded.2.creditUnits = row.creditUnits ∧ graded.2.gradePoint = band.gradePoint ∧
      graded.2.qualityPoints = row.creditUnits.bind fun creditUnits =>
        band.gradePoint.map fun gradePoint => round (creditUnits * gradePoint) 4 := by
  unfold gradeRow at went
  split at went
  · exact absurd went (by simp)
  · rename_i band found
    rw [← Except.ok.inj went]
    refine ⟨band, found, rfl, rfl, ?_⟩
    cases row.creditUnits with
    | none => rfl
    | some creditUnits => cases band.gradePoint <;> rfl

theorem weightOf_eq {rule : ResolvedGradingRule} {row : ResultRow} {index : ℕ}
    {graded : GradingScaleBand × GradedRow} (went : gradeRow rule row index = .ok graded) :
    weightOf rule row = if weighted graded then some (weightOfGraded graded.2) else none := by
  obtain ⟨band, found, sameUnits, samePoint, -⟩ := gradeRow_spec went
  unfold weightOf weighted weightOfGraded
  rw [found, sameUnits, samePoint]
  cases row.creditUnits with
  | none => rfl
  | some creditUnits => cases point : band.gradePoint <;> simp [point, decimalToNumber]

theorem qualityPoints_eq {rule : ResolvedGradingRule} {row : ResultRow} {index : ℕ}
    {graded : GradingScaleBand × GradedRow} (went : gradeRow rule row index = .ok graded)
    (counts : weighted graded = true) : decimalToNumber graded.2.qualityPoints =
      round ((weightOfGraded graded.2).1 * (weightOfGraded graded.2).2) 4 := by
  obtain ⟨band, -, sameUnits, samePoint, product⟩ := gradeRow_spec went
  obtain ⟨hasUnits, hasPoint⟩ := Bool.and_eq_true_iff.mp counts
  obtain ⟨creditUnits, given⟩ := Option.isSome_iff_exists.mp hasUnits
  obtain ⟨gradePoint, point⟩ := Option.isSome_iff_exists.mp hasPoint
  unfold weightOfGraded
  rw [product, ← sameUnits, ← samePoint, given, point]
  rfl

theorem weightOf_spec {rule : ResolvedGradingRule} {maximum : ℚ} (within : Within rule maximum)
    {row : ResultRow} (accepted : Accepted row) {weight : ℚ × ℚ}
    (is : weightOf rule row = some weight) : 0 ≤ weight.1 ∧ 0 ≤ weight.2 ∧ weight.2 ≤ maximum := by
  obtain ⟨creditUnits, given, rest⟩ := Option.bind_eq_some_iff.mp is
  obtain ⟨band, found, rest⟩ := Option.bind_eq_some_iff.mp rest
  obtain ⟨gradePoint, point, same⟩ := Option.bind_eq_some_iff.mp rest
  obtain rfl := Option.some.inj same
  exact ⟨accepted.creditUnits given, within band (List.mem_of_find?_eq_some found) gradePoint point⟩

/-- The rows graded one by one, in their order. -/
abbrev GradedAs (rule : ResolvedGradingRule) (rows : List ResultRow)
    (bands : List (GradingScaleBand × GradedRow)) : Prop :=
  rows.zipIdx.mapM (fun row => gradeRow rule row.1 row.2) = .ok bands

theorem weights_eq {rule : ResolvedGradingRule} {rows : List ResultRow}
    {bands : List (GradingScaleBand × GradedRow)} (each : GradedAs rule rows bands) :
    (bands.filter weighted).map (fun g => weightOfGraded g.2) = weightedRows rule rows := by
  have read : bands.map (fun g => if weighted g then some (weightOfGraded g.2) else none) =
      rows.zipIdx.map fun row => weightOf rule row.1 :=
    map_eq_of_mapM_ok (fun row g went => (weightOf_eq went).symm) each
  rw [map_filter_eq, read]
  conv_rhs => rw [weightedRows, ← List.zipIdx_map_fst 0 rows, List.filterMap_map]
  rw [List.filterMap_map]
  rfl

theorem points_eq {rule : ResolvedGradingRule} {rows : List ResultRow}
    {bands : List (GradingScaleBand × GradedRow)} (each : GradedAs rule rows bands) :
    (bands.filter weighted).map (fun g => decimalToNumber g.2.qualityPoints) =
      (weightedRows rule rows).map fun row => round (row.1 * row.2) 4 := by
  rw [← weights_eq each, List.map_map]
  refine List.map_congr_left fun g inside => ?_
  obtain ⟨member, counts⟩ := List.mem_filter.mp inside
  obtain ⟨row, -, went⟩ := mem_of_mapM_ok each g member
  exact qualityPoints_eq went counts

/-- Only a tertiary rule adds anything up. -/
theorem foldl_add_of_other {rule : ResolvedGradingRule} (other : rule.engine ≠ .tertiaryGpa)
    (bands : List (GradingScaleBand × GradedRow)) (totals : Totals) :
    bands.foldl (Totals.add rule) totals = totals := by
  induction bands with
  | nil => rfl
  | cons g bands ih =>
    have none : totals.add rule g = totals := by
      unfold Totals.add
      split
      · rename_i tertiary _ _
        exact absurd tertiary other
      · rfl
    rw [List.foldl_cons, none, ih]

/-- **The average of an upload** is that of its rows that count. -/
theorem gpa_eq {rt : Runtime} {rows : List ResultRow} {rule : ResolvedGradingRule}
    {grading : Graded} (graded : gradeRows rt rows rule = .ok grading) {gpa : ℚ}
    (has : grading.gpa = some gpa) :
    0 < units (weightedRows rule rows) ∧
      gpa = round (quality (weightedRows rule rows) / units (weightedRows rule rows)) 4 := by
  obtain ⟨bands, each, same⟩ := bind_eq_ok.mp graded
  rw [pure_eq_ok] at same
  have is : grading.gpa = if 0 < (bands.foldl (Totals.add rule) ⟨0, 0, 0⟩).attemptedCreditUnits then
      some (round ((bands.foldl (Totals.add rule) ⟨0, 0, 0⟩).qualityPoints /
        (bands.foldl (Totals.add rule) ⟨0, 0, 0⟩).attemptedCreditUnits) 4) else none := by
    rw [← same]
  rw [is] at has
  by_cases tertiary : rule.engine = .tertiaryGpa
  · have attempted : ((bands.filter weighted).map fun g => decimalToNumber g.2.creditUnits).sum =
        units (weightedRows rule rows) := by
      rw [units, ← weights_eq each, List.map_map]
      rfl
    rw [foldl_add tertiary] at has
    simp only [plus, zero_add, attempted, points_eq each] at has
    split at has
    · rename_i positive
      exact ⟨positive, (Option.some.inj has).symm⟩
    · exact absurd has (by simp)
  · rw [foldl_add_of_other tertiary] at has
    exact absurd has (by simp)

/-! ### The average of a standing -/

/-- A published record of an enrolment. -/
def PublishedOf (s : Store) (enrolmentId : Uuid) (r : AcademicRecord) : Prop :=
  r ∈ s.academicRecords.rows ∧ r.enrolmentId = enrolmentId ∧ r.status = .published

/-- The records of a standing are published, and have a grade point and credit units. -/
theorem of_mem_rollup {s : Store} {enrolmentId : Uuid} {r : AcademicRecord}
    (inside : r ∈ rollupRecords s enrolmentId) :
    PublishedOf s enrolmentId r ∧ r.gradePoint.isSome ∧ r.creditUnits.isSome := by
  have counted : r ∈ countedRecords s enrolmentId := by
    unfold rollupRecords at inside
    dsimp only at inside
    split at inside
    · exact inside
    · exact List.mem_of_mem_filter inside
  obtain ⟨stored, counts⟩ := List.mem_filter.mp ((List.mem_insertionSort _).mp counted)
  simp only [Bool.and_eq_true, beq_iff_eq] at counts
  exact ⟨⟨stored, counts.1.1.1, counts.1.1.2⟩, counts.1.2, counts.2⟩

/-- The credit units and the grade point of a record. -/
def weightOfRecord (r : AcademicRecord) : ℚ × ℚ :=
  (decimalToNumber r.creditUnits, decimalToNumber r.gradePoint)

/-- The rows that count for the average of a standing. -/
def standingRows (s : Store) (enrolmentId : Uuid) : Rows :=
  (rollupRecords s enrolmentId).map weightOfRecord

/-- The quality points of the record are its credit units times its grade point. -/
def Multiplied (r : AcademicRecord) : Prop :=
  decimalToNumber r.qualityPoints = round ((weightOfRecord r).1 * (weightOfRecord r).2) 4

variable {s : Store} {now : Time} {enrolment : Enrolment}

/-- The credit units attempted of a standing. -/
def attempted (rows : Rows) : ℚ :=
  round (units rows) 4

theorem attempted_standing : (standingOf s now enrolment).attemptedCreditUnits =
    attempted (standingRows s enrolment.uuid) := by
  show round ((rollupRecords s enrolment.uuid).map fun r => decimalToNumber r.creditUnits).sum 4 = _
  unfold attempted units standingRows
  rw [List.map_map]
  rfl

theorem quality_standing
    (multiplied : ∀ r ∈ rollupRecords s enrolment.uuid, Multiplied r) :
    (standingOf s now enrolment).qualityPoints = quality (standingRows s enrolment.uuid) := by
  show round ((rollupRecords s enrolment.uuid).map fun r =>
    decimalToNumber r.qualityPoints).sum 4 = _
  have points : (rollupRecords s enrolment.uuid).map (fun r => decimalToNumber r.qualityPoints) =
      (standingRows s enrolment.uuid).map fun row => round (row.1 * row.2) 4 := by
    rw [standingRows, List.map_map]
    exact List.map_congr_left multiplied
  rw [points, round_eq]
  exact Rounding.nearest_of_onGrid fourDecimals_pos (quality_onGrid _)

/-- **The average of a standing** is that of its records, by the credit units to four decimals. -/
theorem cgpa_eq (multiplied : ∀ r ∈ rollupRecords s enrolment.uuid, Multiplied r) :
    (standingOf s now enrolment).cgpa =
      if 0 < attempted (standingRows s enrolment.uuid) then
        some (round (quality (standingRows s enrolment.uuid) /
          attempted (standingRows s enrolment.uuid)) 4)
      else none := by
  rw [← @attempted_standing s now, ← @quality_standing s now _ multiplied]
  rfl

/-- The record was made of an accepted row, by a rule whose grade points lie between zero and its
maximum. -/
def MadeWithin (maximum : ℚ) (r : AcademicRecord) : Prop :=
  ∃ rule row index graded, (∃ top ∈ rule.gradePointMax, Within rule top ∧ top ≤ maximum) ∧
    Accepted row ∧ gradeRow rule row index = .ok graded ∧ r.creditUnits = graded.2.creditUnits ∧
    r.gradePoint = graded.2.gradePoint ∧ r.qualityPoints = graded.2.qualityPoints

theorem MadeWithin.spec {maximum : ℚ} {r : AcademicRecord} (made : MadeWithin maximum r)
    (point : r.gradePoint.isSome) (given : r.creditUnits.isSome) :
    Multiplied r ∧ 0 ≤ (weightOfRecord r).1 ∧ 0 ≤ (weightOfRecord r).2 ∧
      (weightOfRecord r).2 ≤ maximum := by
  obtain ⟨rule, row, index, graded, ⟨top, -, within, below⟩, accepted, went, sameUnits, samePoint,
    sameQuality⟩ := made
  have counts : weighted graded = true := by
    unfold weighted
    rw [← sameUnits, ← samePoint, point, given]
    rfl
  have same : weightOfRecord r = weightOfGraded graded.2 := by
    unfold weightOfRecord weightOfGraded
    rw [sameUnits, samePoint]
  have is : weightOf rule row = some (weightOfGraded graded.2) := by
    rw [weightOf_eq went, if_pos counts]
  obtain ⟨nonneg, atLeast, atMost⟩ := weightOf_spec within accepted is
  unfold Multiplied
  rw [same, sameQuality]
  exact ⟨qualityPoints_eq went counts, nonneg, atLeast, atMost.trans below⟩

/-- A number is never negative, and at most a maximum exactly when rounding adds little to the rows
whose average it is. -/
def Bounded (maximum attempted : ℚ) (rows : Rows) (average : ℚ) : Prop :=
  0 ≤ average ∧ (average ≤ maximum ↔ AddsLittle maximum attempted rows)

/-- A row of a course of very few credit units. -/
def tinyRow (creditUnits : ℚ) : ResultRow where
  studentNumber := "S-1"
  periodType := .semester
  periodLabel := "First semester"
  subjectCode := "MTH101"
  subjectName := "Algebra"
  caScore := none
  examScore := none
  totalScore := 80
  grade := none
  creditUnits := some creditUnits

theorem tinyRow_accepted {creditUnits : ℚ} (low : 0 ≤ creditUnits) (high : creditUnits ≤ 60) :
    Accepted (tinyRow creditUnits) := by
  refine ⟨some (.obj [("studentNumber", .str "S-1"), ("periodType", .str "SEMESTER"),
    ("periodLabel", .str "First semester"), ("subjectCode", .str "MTH101"),
    ("subjectName", .str "Algebra"), ("totalScore", .num 80), ("creditUnits", .num creditUnits)]),
    ?_⟩
  refine Checked.seq_eq_valid.mpr ⟨_, some creditUnits, rfl, ?_, rfl⟩
  refine Schema.field_eq_valid.mpr (Schema.optional_eq_valid.mpr ⟨creditUnits, ?_, rfl⟩)
  refine Schema.number_eq_valid.mpr ⟨rfl, fun check listed => ?_⟩
  rcases List.mem_pair.mp listed with rfl | rfl
  · exact if_neg (not_lt.mpr low)
  · exact if_neg (not_lt.mpr high)

/-- The fallback rule has points from zero to five. -/
theorem fallback_within : Within (defaultGradingRule .tertiaryGpa) 5 := by
  unfold Within
  decide

/-- The record of a row graded by the fallback rule. -/
def tinyRecord (uuid : Uuid) (creditUnits : ℚ) : AcademicRecord where
  uuid := uuid
  enrolmentId := "30000000-0000-4000-8000-000000000001"
  resultBatchId := none
  academicSessionId := none
  structureScopeId := none
  gradingRuleSetId := none
  periodType := .semester
  periodLabel := "First semester"
  subjectCode := "MTH101"
  subjectName := "Algebra"
  caScore := none
  examScore := none
  totalScore := 80
  grade := "A"
  gradePoint := some 5
  creditUnits := some creditUnits
  qualityPoints := some (round (creditUnits * 5) 4)
  status := .published
  publishedAt := some 1
  supersedesId := none
  createdAt := 0

theorem tinyRecord_madeWithin {uuid : Uuid} {creditUnits : ℚ} (low : 0 ≤ creditUnits)
    (high : creditUnits ≤ 60) : MadeWithin 5 (tinyRecord uuid creditUnits) := by
  refine ⟨defaultGradingRule .tertiaryGpa, tinyRow creditUnits, 0, _,
    ⟨5, rfl, fallback_within, le_rfl⟩, tinyRow_accepted low high, rfl, rfl, rfl, rfl⟩

/-- The school with two results of very few credit units. -/
def tinyResults : Store :=
  { BatchHistory.school with
    academicRecords :=
      { rows :=
          [tinyRecord "70000000-0000-4000-8000-000000000001" (6 / 100000),
            tinyRecord "70000000-0000-4000-8000-000000000002" (6 / 100000)]
        nodup := by decide } }

/-- The record has positive credit units and the greatest grade point of its rule set. -/
def Perfect (s : Store) (r : AcademicRecord) : Prop :=
  ∃ ruleSet top creditUnits, gradingRuleSet s r = some ruleSet ∧ ruleSet.gradePointMax = some top ∧
    0 < top ∧ r.creditUnits = some creditUnits ∧ 0 < creditUnits ∧ r.gradePoint = some top ∧
    r.qualityPoints = some (round (creditUnits * top) 4)

/-- The quality points reach nine tenths of the largest of the grade points for each credit unit
attempted, less half a step. -/
def Reaches (rows : Rows) : Prop :=
  0 < attempted rows ∧ ∃ top, IsGreatest {point | ∃ row ∈ rows, row.2 = point} top ∧
    ((⌈9 / 10 * top * fourDecimals⌉ : ℚ) - 1 / 2) / fourDecimals * attempted rows ≤ quality rows

theorem Perfect.multiplied {s : Store} {r : AcademicRecord} (perfect : Perfect s r) :
    Multiplied r := by
  obtain ⟨ruleSet, top, creditUnits, -, -, -, given, -, point, product⟩ := perfect
  unfold Multiplied weightOfRecord
  rw [given, point, product]
  rfl

/-- The maximum of the rule set of a perfect record is its grade point. -/
theorem Perfect.max_eq {s : Store} {r : AcademicRecord} (perfect : Perfect s r) :
    decimalToNumber ((gradingRuleSet s r).bind (·.gradePointMax)) = (weightOfRecord r).2 ∧
      0 < (weightOfRecord r).2 := by
  obtain ⟨ruleSet, top, creditUnits, linked, is, positive, -, -, point, -⟩ := perfect
  unfold weightOfRecord
  rw [linked, point, Option.bind_some, is]
  exact ⟨rfl, positive⟩

theorem classifyCgpa_eq_firstClass {cgpa top : ℚ} (positive : 0 < top) :
    classifyCgpa cgpa top = "First Class" ↔ 9 / 10 * top ≤ cgpa := by
  have scaled : 9 / 2 ≤ cgpa / top * 5 ↔ 9 / 10 * top ≤ cgpa := by
    rw [div_mul_eq_mul_div, le_div_iff₀ positive]
    constructor
    · intro above
      linarith
    · intro above
      linarith
  unfold classifyCgpa
  dsimp only
  rw [if_pos positive, ← scaled]
  split
  · rename_i reached
    exact ⟨fun _ => reached, fun _ => rfl⟩
  · rename_i missed
    refine ⟨fun same => absurd same ?_, fun reached => absurd reached missed⟩
    repeat' split
    all_goals decide

/-- **The maximum of a standing of perfect records** is the largest of their grade points. -/
theorem resolveGradePointMax_of_perfect {s : Store} {records : List AcademicRecord}
    (perfect : ∀ r ∈ records, Perfect s r) (some : records ≠ []) :
    IsGreatest {point | ∃ row ∈ records.map weightOfRecord, row.2 = point}
      (resolveGradePointMax s records) := by
  have configured : (records.map fun r =>
      decimalToNumber ((gradingRuleSet s r).bind (·.gradePointMax))).filter (0 < ·) =
      (records.map weightOfRecord).map Prod.snd := by
    rw [List.map_map, List.map_congr_left fun r inside => (perfect r inside).max_eq.1]
    refine List.filter_eq_self.mpr fun point inside => ?_
    obtain ⟨r, member, rfl⟩ := List.mem_map.mp inside
    exact decide_eq_true (perfect r member).max_eq.2
  have among : ∀ point, point ∈ (records.map weightOfRecord).map Prod.snd ↔
      point ∈ {point | ∃ row ∈ records.map weightOfRecord, row.2 = point} := by
    intro point
    rw [List.mem_map]
    rfl
  rw [resolveGradePointMax_eq, configured]
  cases points : (records.map weightOfRecord).map Prod.snd with
  | nil => exact absurd (List.map_eq_nil_iff.mp (List.map_eq_nil_iff.mp points)) some
  | cons first rest =>
    rw [points] at among
    refine ⟨(among _).mp (maximum_mem first rest), fun point inside => ?_⟩
    exact le_maximum ((among point).mpr inside)

/-- A tertiary rule set with a maximum. -/
def scaleOf (uuid : Uuid) (maximum : ℚ) : GradingRuleSet where
  uuid := uuid
  institutionId := "10000000-0000-4000-8000-000000000001"
  name := "Scale"
  engine := .tertiaryGpa
  status := .active
  scale := .arr [.obj [("minScore", .num 0), ("grade", .str "A"), ("gradePoint", .num maximum)]]
  passMark := none
  maxScore := 100
  gradePointMax := some maximum
  effectiveFrom := none
  effectiveTo := none
  createdById := none
  updatedAt := 0

def fourPointScale : Uuid := "b0000000-0000-4000-8000-000000000004"

def fivePointScale : Uuid := "b0000000-0000-4000-8000-000000000005"

/-- The best result under a rule set. -/
def bestResult (uuid ruleSetId : Uuid) (maximum creditUnits : ℚ) : AcademicRecord :=
  { tinyRecord uuid creditUnits with
    gradingRuleSetId := some ruleSetId
    gradePoint := some maximum
    qualityPoints := some (round (creditUnits * maximum) 4) }

/-- The school with both scales, and best results of its student. -/
def bestResults (records : Table AcademicRecord.uuid) : Store :=
  { BatchHistory.school with
    gradingRuleSets :=
      { rows := [scaleOf fourPointScale 4, scaleOf fivePointScale 5]
        nodup := by decide }
    academicRecords := records }

/-- Three credit units on the four-point scale. -/
def firstResult : AcademicRecord :=
  bestResult "70000000-0000-4000-8000-000000000001" fourPointScale 4 3

/-- One credit unit on the five-point scale. -/
def secondResult : AcademicRecord :=
  bestResult "70000000-0000-4000-8000-000000000002" fivePointScale 5 1

theorem firstResult_perfect (records : Table AcademicRecord.uuid) :
    Perfect (bestResults records) firstResult :=
  ⟨scaleOf fourPointScale 4, 4, 3, rfl, rfl, by norm_num, rfl, by norm_num, rfl, rfl⟩

theorem secondResult_perfect (records : Table AcademicRecord.uuid) :
    Perfect (bestResults records) secondResult :=
  ⟨scaleOf fivePointScale 5, 5, 1, rfl, rfl, by norm_num, rfl, by norm_num, rfl, rfl⟩

end AcadID.GradePoints
