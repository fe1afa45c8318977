/-
**Bands: the scores a scale covers, and the points of a higher score.**

* `fallback_covers_iff` — the fallback scale covers the scores up to its highest but those between
  the end of a band and the start of the next; a batch graded by it goes through exactly when each
  of its scores is covered.
* `normalizeScale_normalizedScale` — a stored scale is read back as it was stored.
* `points_rise` — **a higher score earns at least as many points** on a stored scale whose points
  rise with the lower ends of its bands, when no band outlasts one of more points.
-/

import AcadID.Gateway.AcademicSetup
import AcadID.Gateway.BatchHistory
import AcadID.Lib.FirstMatch
import AcadID.Lib.Intervals

namespace AcadID.GradingBands

open Lib Grading AcademicSetup

/-- A score is in a band. -/
def InBand (score : ℚ) (band : GradingScaleBand) : Prop :=
  band.minScore ≤ score ∧ ∀ top ∈ band.maxScore, score ≤ top

/-- The test with which `findBand` picks a band. -/
def holds (score : ℚ) (band : GradingScaleBand) : Bool :=
  band.minScore ≤ score && band.maxScore.all (score ≤ ·)

theorem holds_iff {score : ℚ} {band : GradingScaleBand} :
    holds score band = true ↔ InBand score band := by
  unfold holds InBand
  rw [Bool.and_eq_true, decide_eq_true_eq]
  cases band.maxScore <;> simp

theorem findBand_eq (score : ℚ) (scale : List GradingScaleBand) :
    findBand score scale = scale.find? (holds score) := rfl

theorem isSome_findBand {score : ℚ} {scale : List GradingScaleBand} :
    (findBand score scale).isSome ↔ ∃ band ∈ scale, InBand score band := by
  rw [findBand_eq, List.find?_isSome]
  simp only [holds_iff]

/-! ### The fallback scale -/

/-- The bands of the fallback scale, the highest first. -/
def fallbackBands : List (ℚ × ℚ) :=
  [(70, 100), (60, 6999 / 100), (50, 5999 / 100), (45, 4999 / 100), (40, 4499 / 100),
    (0, 3999 / 100)]

/-- A score above the end of a band and below the start of the next. -/
def InGap (score : ℚ) : Prop :=
  6999 / 100 < score ∧ score < 70 ∨ 5999 / 100 < score ∧ score < 60 ∨
    4999 / 100 < score ∧ score < 50 ∨ 4499 / 100 < score ∧ score < 45 ∨
    3999 / 100 < score ∧ score < 40

theorem inGap_iff {score : ℚ} : InGap score ↔ Intervals.Between score fallbackBands := by
  simp [InGap, Intervals.Between, Intervals.between, fallbackBands]

theorem fallback_descending : Intervals.Descending fallbackBands := by
  unfold Intervals.Descending fallbackBands
  decide +kernel

theorem fallback_inBand (engine : GradingRuleEngine) (score : ℚ) :
    (∃ band ∈ (defaultGradingRule engine).scale, InBand score band) ↔
      Intervals.Covered score fallbackBands := by
  simp [InBand, Intervals.Covered, fallbackBands, defaultGradingRule]

/-- **The fallback scale finds a band** for the scores between no two of its bands. -/
theorem fallback_finds {engine : GradingRuleEngine} {score : ℚ} (low : 0 ≤ score)
    (high : score ≤ (defaultGradingRule engine).maxScore) :
    (findBand score (defaultGradingRule engine).scale).isSome ↔ ¬ InGap score := by
  rw [isSome_findBand, fallback_inBand, inGap_iff]
  refine Intervals.covered_iff fallback_descending high ?_
  intro i last
  obtain rfl := Option.some.inj last
  exact low

/-- Scores of at most two decimals are in no gap. -/
theorem not_inGap_of_hundredths (n : ℤ) : ¬ InGap (n / 100) := by
  have apart : ∀ m : ℤ, ¬ ((100 * m - 1 : ℚ) / 100 < n / 100 ∧ (n : ℚ) / 100 < m) := by
    rintro m ⟨past, early⟩
    have above : 100 * m - 1 < n := by
      exact_mod_cast (div_lt_div_iff_of_pos_right (by norm_num)).mp past
    have below : n < m * 100 := by
      exact_mod_cast (div_lt_iff₀ (by norm_num)).mp early
    omega
  have at70 := apart 70
  have at60 := apart 60
  have at50 := apart 50
  have at45 := apart 45
  have at40 := apart 40
  norm_num at at70 at60 at50 at45 at40
  rintro (⟨past, early⟩ | ⟨past, early⟩ | ⟨past, early⟩ | ⟨past, early⟩ | ⟨past, early⟩)
  · exact absurd early (not_lt.mpr (at70 past))
  · exact absurd early (not_lt.mpr (at60 past))
  · exact absurd early (not_lt.mpr (at50 past))
  · exact absurd early (not_lt.mpr (at45 past))
  · exact absurd early (not_lt.mpr (at40 past))

/-- **A batch is graded** exactly when each of its scores is in a band. -/
theorem gradeRows_iff {rt : Runtime} {rows : List ResultRow} {rule : ResolvedGradingRule} :
    (∃ graded, gradeRows rt rows rule = .ok graded) ↔
      ∀ row ∈ rows, (findBand row.totalScore rule.scale).isSome := by
  have each : (∃ graded, gradeRows rt rows rule = .ok graded) ↔
      ∃ graded, rows.zipIdx.mapM (fun row => gradeRow rule row.1 row.2) = .ok graded := by
    constructor
    · rintro ⟨graded, went⟩
      obtain ⟨bands, found, -⟩ := bind_eq_ok.mp went
      exact ⟨bands, found⟩
    · rintro ⟨bands, found⟩
      exact ⟨_, bind_eq_ok.mpr ⟨bands, found, rfl⟩⟩
  have one : ∀ (row : ResultRow) (index : ℕ), (∃ b, gradeRow rule row index = .ok b) ↔
      (findBand row.totalScore rule.scale).isSome := by
    intro row index
    unfold gradeRow
    cases findBand row.totalScore rule.scale <;> simp
  rw [each, exists_mapM_eq_ok]
  constructor
  · intro all row inside
    rw [← List.zipIdx_map_fst 0 rows] at inside
    obtain ⟨pair, placed, rfl⟩ := List.mem_map.mp inside
    exact (one pair.1 pair.2).mp (all pair placed)
  · intro all pair inside
    exact (one pair.1 pair.2).mpr (all pair.1 (List.fst_mem_of_mem_zipIdx inside))

/-- **The fallback rule grades** the scores in no gap: each of them gets a band, and a batch goes
through exactly when all of its scores do. -/
theorem fallback_covers_iff (rt : Runtime) (engine : GradingRuleEngine) :
    (∀ score, 0 ≤ score → score ≤ (defaultGradingRule engine).maxScore →
      ((findBand score (defaultGradingRule engine).scale).isSome ↔ ¬ InGap score)) ∧
    ∀ rows : List ResultRow, (∀ row ∈ rows, 0 ≤ row.totalScore ∧
        row.totalScore ≤ (defaultGradingRule engine).maxScore) →
      ((∃ graded, gradeRows rt rows (defaultGradingRule engine) = .ok graded) ↔
        ∀ row ∈ rows, ¬ InGap row.totalScore) := by
  refine ⟨fun score low high => fallback_finds low high, fun rows within => ?_⟩
  rw [gradeRows_iff]
  exact forall₂_congr fun row inside =>
    fallback_finds (within row inside).1 (within row inside).2

/-- A row of a course with a score. -/
def courseRow (score : ℚ) : ResultRow where
  studentNumber := "S-001"
  periodType := .semester
  periodLabel := "First Semester"
  subjectCode := "MTH101"
  subjectName := "Algebra"
  caScore := none
  examScore := none
  totalScore := score
  grade := none
  creditUnits := some 3

/-- A batch of scores of two decimals is graded. -/
theorem twoDecimals_graded :
    (findBand (6999 / 100) (defaultGradingRule .tertiaryGpa).scale).isSome ∧
      ∃ graded, gradeRows .plain [courseRow (6999 / 100), courseRow 70]
        (defaultGradingRule .tertiaryGpa) = .ok graded := by
  obtain ⟨scores, batches⟩ := fallback_covers_iff .plain .tertiaryGpa
  have below : ¬ InGap (6999 / 100) := by
    have away := not_inGap_of_hundredths 6999
    norm_num at away
    exact away
  have start : ¬ InGap 70 := by
    have away := not_inGap_of_hundredths 7000
    norm_num at away
    exact away
  refine ⟨(scores _ (by norm_num) (by norm_num [defaultGradingRule])).mpr below,
    (batches _ ?_).mpr ?_⟩
  · simp only [List.forall_mem_cons, courseRow, defaultGradingRule]
    norm_num
  · simp only [List.forall_mem_cons, courseRow]
    exact ⟨below, start, fun row inside => absurd inside (by simp)⟩

/-- **A score just under a band is refused**: 69.995 has no band, and rejects its batch. -/
theorem fallback_fails :
    (¬ ∀ (engine : GradingRuleEngine) (score : ℚ), 0 ≤ score →
      score ≤ (defaultGradingRule engine).maxScore →
        (findBand score (defaultGradingRule engine).scale).isSome) ∧
    ¬ ∀ (rt : Runtime) (engine : GradingRuleEngine) (rows : List ResultRow),
      (∀ row ∈ rows, 0 ≤ row.totalScore ∧
        row.totalScore ≤ (defaultGradingRule engine).maxScore) →
          ∃ graded, gradeRows rt rows (defaultGradingRule engine) = .ok graded := by
  have missed : (findBand (69995 / 1000) (defaultGradingRule .tertiaryGpa).scale).isSome =
      false := by
    rw [findBand_eq]
    decide +kernel
  constructor
  · intro found
    have here := found .tertiaryGpa (69995 / 1000) (by norm_num) (by norm_num [defaultGradingRule])
    rw [missed] at here
    exact absurd here (by simp)
  · intro graded
    have here := gradeRows_iff.mp (graded .plain .tertiaryGpa [courseRow (69995 / 1000)] (by
      simp only [List.forall_mem_cons, courseRow, defaultGradingRule]
      norm_num)) _ (List.mem_singleton_self _)
    rw [courseRow, missed] at here
    exact absurd here (by simp)

/-! ### The scale of a stored rule set -/

/-- A band of a rule set as it is stored and read again. -/
def gradedBand (maxScore : ℚ) (band : ScaleBandInput) : GradingScaleBand where
  minScore := band.minScore
  maxScore := some (band.maxScore.getD maxScore)
  grade := band.grade
  gradePoint := band.gradePoint
  pass := band.pass

/-- The bands of a rule set, the highest first. -/
def sortedBands (scale : List ScaleBandInput) : List ScaleBandInput :=
  scale.insertionSort fun a b => b.minScore ≤ a.minScore

theorem sortedBands_pairwise (scale : List ScaleBandInput) :
    (sortedBands scale).Pairwise fun a b => b.minScore ≤ a.minScore := by
  have total : Std.Total fun a b : ScaleBandInput => b.minScore ≤ a.minScore :=
    ⟨fun a b => le_total b.minScore a.minScore⟩
  have transitive : IsTrans ScaleBandInput fun a b => b.minScore ≤ a.minScore :=
    ⟨fun a b c first second => second.trans first⟩
  exact List.pairwise_insertionSort _ scale

theorem mem_sortedBands {scale : List ScaleBandInput} {band : ScaleBandInput} :
    band ∈ sortedBands scale ↔ band ∈ scale :=
  List.mem_insertionSort _

/-- A band as it is stored. -/
def storedBand (maxScore : ℚ) (band : ScaleBandInput) : Json :=
  Json.fields
    [("minScore", some (.num band.minScore)),
      ("maxScore", some (.num (band.maxScore.getD maxScore))), ("grade", some (.str band.grade)),
      ("remark", band.remark.map .str), ("gradePoint", band.gradePoint.map .num),
      ("pass", band.pass.map .bool)]

theorem normalizedScale_eq (scale : List ScaleBandInput) (maxScore : ℚ) :
    normalizedScale scale maxScore = .arr ((sortedBands scale).map (storedBand maxScore)) := rfl

/-- A stored band is read back as it was stored. -/
theorem normalizeBand_storedBand (stored maxScore : ℚ) (band : ScaleBandInput) :
    normalizeBand maxScore (storedBand stored band) = .ok (gradedBand stored band) := by
  have start : (storedBand stored band).get? "minScore" = some (.num band.minScore) := by
    simp [storedBand, Json.get?_fields_cons]
  have top : (storedBand stored band).get? "maxScore" =
      some (.num (band.maxScore.getD stored)) := by
    simp [storedBand, Json.get?_fields_cons]
  have grade : (storedBand stored band).get? "grade" = some (.str band.grade) := by
    simp [storedBand, Json.get?_fields_cons]
  have point : (storedBand stored band).get? "gradePoint" = band.gradePoint.map .num := by
    simp [storedBand, Json.get?_fields_cons, Json.get?_fields_nil]
  have pass : (storedBand stored band).get? "pass" = band.pass.map .bool := by
    simp [storedBand, Json.get?_fields_cons, Json.get?_fields_nil]
  obtain ⟨fs, is⟩ : ∃ fs, storedBand stored band = .obj fs := ⟨_, rfl⟩
  rw [is] at start top grade point pass ⊢
  unfold normalizeBand gradedBand
  simp only [start, top, grade, point, pass, number?]
  cases band.gradePoint <;> cases band.pass <;> rfl

/-- **A stored scale is read back** as it was stored, whatever the `maxScore` it is read with. -/
theorem normalizeScale_normalizedScale (scale : List ScaleBandInput) (stored maxScore : ℚ) :
    normalizeScale (normalizedScale scale stored) maxScore =
      .ok ((sortedBands scale).map (gradedBand stored)) := by
  rw [normalizedScale_eq]
  refine bind_eq_ok.mpr ⟨(sortedBands scale).map (gradedBand stored), ?_, ?_⟩
  · rw [mapM_eq_ok, List.forall₂_map_left_iff, List.forall₂_map_right_iff]
    exact List.forall₂_same.mpr fun band _ => normalizeBand_storedBand stored maxScore band
  · rw [pure_eq_ok]
    refine List.Pairwise.insertionSort_eq ?_
    rw [List.pairwise_map]
    exact sortedBands_pairwise scale

/-- **A rule set that went through** is what its body describes. -/
theorem created_of_attempt {lookup : Institutions.Lookup} {rt : Runtime} {env : SetupEnv}
    {auth : AuthTokenPayload} {body : Json} {input : CreateRuleSetInput} {s t : Store}
    {row : GradingRuleSet} (parsed : parseBody (createGradingRuleSetSchema rt) body = .ok input)
    (created : (setupMethodsThrough lookup rt).attempt (.createGradingRuleSet env auth body) s =
      .ok (.ruleSet row, t)) :
    ∃ institutionId, createRuleSetCommit rt env auth input institutionId s = .ok (row, t) := by
  obtain ⟨plan, checked, committed⟩ := bind_eq_ok.mp created
  obtain ⟨read, again, rest⟩ := bind_eq_ok.mp checked
  obtain ⟨institution, -, same⟩ := bind_eq_ok.mp rest
  obtain rfl := Except.ok.inj same
  obtain rfl := Except.ok.inj (again.symm.trans parsed)
  obtain ⟨⟨row', t'⟩, written, same⟩ := map_eq_ok.mp committed
  obtain ⟨is, rfl⟩ := Prod.mk.inj same
  obtain rfl := SetupResponse.ruleSet.inj is
  exact ⟨institution.uuid, written⟩

/-- A rule set with a stored scale is read with the bands of that scale. -/
theorem configuredRule_scale {row : GradingRuleSet} {rule : ResolvedGradingRule}
    {scale : List ScaleBandInput} {stored : ℚ} (is : row.scale = normalizedScale scale stored)
    (read : configuredRule row = .ok rule) :
    rule.scale = (sortedBands scale).map (gradedBand stored) := by
  obtain ⟨bands, normalized, same⟩ := bind_eq_ok.mp read
  rw [is, normalizeScale_normalizedScale] at normalized
  rw [pure_eq_ok] at same
  rw [← same, Except.ok.inj normalized]

/-! ### Points that rise with the score -/

/-- The score that a band ends at. -/
def bandEnd (maxScore : ℚ) (band : ScaleBandInput) : ℚ :=
  band.maxScore.getD maxScore

/-- Bands that start higher have at least as many points, where both have points. -/
def PointsRise (scale : List ScaleBandInput) : Prop :=
  ∀ a ∈ scale, ∀ b ∈ scale, a.minScore < b.minScore →
    ∀ p ∈ a.gradePoint, ∀ q ∈ b.gradePoint, p ≤ q

/-- No band ends after one of more points. -/
def NoneOutlasts (maxScore : ℚ) (scale : List ScaleBandInput) : Prop :=
  ∀ a ∈ scale, ∀ b ∈ scale, ∀ p ∈ a.gradePoint, ∀ q ∈ b.gradePoint, p < q →
    bandEnd maxScore a ≤ bandEnd maxScore b

/-- The band of a score is one of the sorted bands, the first that holds it. -/
theorem findBand_sortedBands {scale : List ScaleBandInput} {maxScore score : ℚ}
    {band : GradingScaleBand}
    (found : findBand score ((sortedBands scale).map (gradedBand maxScore)) = some band) :
    ∃ a, (sortedBands scale).find? (fun a => holds score (gradedBand maxScore a)) = some a ∧
      band = gradedBand maxScore a := by
  rw [findBand_eq, List.find?_map] at found
  obtain ⟨a, first, is⟩ := Option.map_eq_some_iff.mp found
  exact ⟨a, first, is.symm⟩

theorem holds_gradedBand {score maxScore : ℚ} {a : ScaleBandInput} :
    holds score (gradedBand maxScore a) = true ↔
      a.minScore ≤ score ∧ score ≤ bandEnd maxScore a := by
  rw [holds_iff]
  simp [InBand, gradedBand, bandEnd]

/-- **The step**: the first band of the lower score does not have more points than the first band of
the higher one. -/
theorem points_le {scale : List ScaleBandInput} {maxScore low high : ℚ} (rise : PointsRise scale)
    (outlasts : NoneOutlasts maxScore scale) (ordered : low ≤ high) {a b : ScaleBandInput}
    (first : (sortedBands scale).find? (fun a => holds low (gradedBand maxScore a)) = some a)
    (second : (sortedBands scale).find? (fun a => holds high (gradedBand maxScore a)) = some b)
    {p q : ℚ} (ofA : p ∈ a.gradePoint) (ofB : q ∈ b.gradePoint) : p ≤ q := by
  by_contra more
  rw [not_le] at more
  have insideA := mem_sortedBands.mp (List.mem_of_find?_eq_some first)
  have insideB := mem_sortedBands.mp (List.mem_of_find?_eq_some second)
  have heldA := @List.find?_some _ (fun a => holds low (gradedBand maxScore a)) _ _ first
  have heldB := @List.find?_some _ (fun a => holds high (gradedBand maxScore a)) _ _ second
  obtain ⟨startA, -⟩ := holds_gradedBand.mp heldA
  obtain ⟨-, endB⟩ := holds_gradedBand.mp heldB
  -- the band of the lower score still holds the higher one, so that the other starts no lower
  have holdsA : holds high (gradedBand maxScore a) = true :=
    holds_gradedBand.mpr ⟨startA.trans ordered,
      endB.trans (outlasts b insideB a insideA q ofB p ofA more)⟩
  have starts : a.minScore ≤ b.minScore := by
    rcases FirstMatch.eq_or_rel_of_find? (sortedBands_pairwise scale) second
      (List.mem_of_find?_eq_some first) holdsA with rfl | before
    · exact le_rfl
    · exact before
  have level : b.minScore ≤ a.minScore := by
    by_contra higher
    exact absurd (rise a insideA b insideB (not_le.mp higher) p ofA q ofB) (not_le.mpr more)
  -- it therefore holds the lower score as well, and the two first matches are one band
  have holdsB : holds low (gradedBand maxScore b) = true :=
    holds_gradedBand.mpr ⟨level.trans startA, ordered.trans endB⟩
  obtain rfl := FirstMatch.eq_of_find?_swap first second holdsA holdsB
  obtain rfl := Option.some.inj (Option.mem_def.mp ofA ▸ Option.mem_def.mp ofB)
  exact absurd more (lt_irrefl p)

/-- **A higher score earns at least as many points** under a rule set whose points rise with the
lower ends of its bands, when no band outlasts one of more points. -/
theorem points_rise {lookup : Institutions.Lookup} {rt : Runtime} {env : SetupEnv}
    {auth : AuthTokenPayload} {body : Json} {input : CreateRuleSetInput} {s t : Store}
    {row : GradingRuleSet} {rule : ResolvedGradingRule}
    (parsed : parseBody (createGradingRuleSetSchema rt) body = .ok input)
    (created : (setupMethodsThrough lookup rt).attempt (.createGradingRuleSet env auth body) s =
      .ok (.ruleSet row, t))
    (read : configuredRule row = .ok rule) (rise : PointsRise input.scale)
    (outlasts : NoneOutlasts input.maxScore input.scale) {low high : ℚ} (ordered : low ≤ high)
    {a b : GradingScaleBand} (first : findBand low rule.scale = some a)
    (second : findBand high rule.scale = some b) :
    ∀ p ∈ a.gradePoint, ∀ q ∈ b.gradePoint, p ≤ q := by
  obtain ⟨institutionId, written⟩ := created_of_attempt parsed created
  obtain ⟨⟨is, -⟩, -⟩ := createRuleSetCommit_row written
  have bands := configuredRule_scale is read
  rw [bands] at first second
  obtain ⟨x, firstX, rfl⟩ := findBand_sortedBands first
  obtain ⟨y, secondY, rfl⟩ := findBand_sortedBands second
  exact fun p ofA q ofB => points_le rise outlasts ordered firstX secondY ofA ofB

/-! ### Two rule sets -/

deriving instance DecidableEq for ScaleBandInput

/-- A lookup that finds the school, whatever the reference. -/
def anySchool : Institutions.Lookup :=
  fun _ _ s => .ok s.institutions.rows.head?

def ruleSetId : Uuid := "b0000000-0000-4000-8000-000000000001"

/-- The founder creates a rule set in the school. -/
def creating (body : Json) : SetupCall :=
  .createGradingRuleSet ⟨0, 1, ruleSetId⟩ BatchHistory.founder body

/-- A body with the given bands: where they start and end, their grades and their points. -/
def bodyOf (bands : List (ℚ × ℚ × String × ℚ)) : Json :=
  .obj [("institutionId", .str "ACD-0001"), ("name", .str "Two bands"),
    ("engine", .str "TERTIARY_GPA"), ("gradePointMax", .num 5),
    ("scale", .arr (bands.map fun band => .obj [("minScore", .num band.1),
      ("maxScore", .num band.2.1), ("grade", .str band.2.2.1), ("gradePoint", .num band.2.2.2)]))]

/-- The bands of such a body. -/
def bandsOf (bands : List (ℚ × ℚ × String × ℚ)) : List ScaleBandInput :=
  bands.map fun band => ⟨band.1, some band.2.1, band.2.2.1, none, some band.2.2.2, none⟩

/-- The rule set that a call has written. -/
def ruleSetOf : SetupResponse → Option GradingRuleSet
  | .ruleSet row => some row
  | _ => none

theorem ruleSetOf_eq_some {res : SetupResponse} {row : GradingRuleSet}
    (is : ruleSetOf res = some row) : res = .ruleSet row := by
  cases res with
  | ruleSet other => rw [Option.some.inj is]
  | session other => exact absurd is (by simp [ruleSetOf])
  | structureRow other => exact absurd is (by simp [ruleSetOf])

/-- The founder's rule set of the given bands goes through, and is read with them. -/
def Created (bands : List (ℚ × ℚ × String × ℚ)) : Prop :=
  ∃ input row t rule, parseBody (createGradingRuleSetSchema .plain) (bodyOf bands) = .ok input ∧
    (setupMethodsThrough anySchool .plain).attempt (creating (bodyOf bands)) BatchHistory.school =
      .ok (.ruleSet row, t) ∧
    configuredRule row = .ok rule ∧ input.scale = bandsOf bands ∧ input.maxScore = 100 ∧
    rule.scale = (sortedBands (bandsOf bands)).map (gradedBand 100)

theorem created_of_evaluated {bands : List (ℚ × ℚ × String × ℚ)}
    (parses : (parseBody (createGradingRuleSetSchema .plain) (bodyOf bands)).toOption.map
      (fun input => (input.scale, input.maxScore)) = some (bandsOf bands, 100))
    (goes : ((setupMethodsThrough anySchool .plain).attempt (creating (bodyOf bands))
      BatchHistory.school).toOption.map (fun went => (ruleSetOf went.1).isSome) = some true) :
    Created bands := by
  obtain ⟨input, parsed, is⟩ := of_toOption parses
  obtain ⟨scale, maxScore⟩ := Prod.mk.inj is
  obtain ⟨⟨res, t⟩, went, wrote⟩ := of_toOption goes
  obtain ⟨row, of⟩ := Option.isSome_iff_exists.mp wrote
  obtain rfl := ruleSetOf_eq_some of
  obtain ⟨institutionId, written⟩ := created_of_attempt parsed went
  obtain ⟨⟨stored, -⟩, -⟩ := createRuleSetCommit_row written
  have read : ∃ rule, configuredRule row = .ok rule := by
    unfold configuredRule
    rw [stored, normalizeScale_normalizedScale]
    exact ⟨_, rfl⟩
  obtain ⟨rule, read⟩ := read
  have is := configuredRule_scale stored read
  rw [scale, maxScore] at is
  exact ⟨input, row, t, rule, parsed, went, read, scale, maxScore, is⟩

/-- Two bands, the higher the better. -/
def apart : List (ℚ × ℚ × String × ℚ) :=
  [(50, 100, "P", 3), (0, 4999 / 100, "F", 0)]

/-- A band of more points within another. -/
def nested : List (ℚ × ℚ × String × ℚ) :=
  [(0, 100, "P", 1), (50, 60, "C", 3)]

theorem both_created : Created apart ∧ Created nested := by
  refine ⟨created_of_evaluated ?_ ?_, created_of_evaluated ?_ ?_⟩
  · decide +kernel
  · decide +kernel
  · decide
  · decide

/-- The points of a score under the bands of a rule set. -/
def pointsAt (bands : List (ℚ × ℚ × String × ℚ)) (score : ℚ) : Option ℚ :=
  (findBand score ((sortedBands (bandsOf bands)).map (gradedBand 100))).bind (·.gradePoint)

theorem pointsAt_apart : pointsAt apart 30 = some 0 ∧ pointsAt apart 70 = some 3 := by
  norm_num [pointsAt, findBand_eq, sortedBands, bandsOf, apart, gradedBand, holds_iff, InBand]

theorem pointsAt_nested : pointsAt nested 55 = some 3 ∧ pointsAt nested 70 = some 1 := by
  norm_num [pointsAt, findBand_eq, sortedBands, bandsOf, nested, gradedBand, holds_iff, InBand]

/-- Under bands that do not overlap, a pass earns at least as many points as a fail. -/
theorem apart_rises : ∃ p q, pointsAt apart 30 = some p ∧ pointsAt apart 70 = some q ∧ p ≤ q := by
  obtain ⟨input, row, t, rule, parsed, created, read, scale, maxScore, bands⟩ := both_created.1
  obtain ⟨low, high⟩ := pointsAt_apart
  obtain ⟨a, first, p⟩ := Option.bind_eq_some_iff.mp low
  obtain ⟨b, second, q⟩ := Option.bind_eq_some_iff.mp high
  have rises : PointsRise (bandsOf apart) := by
    norm_num [PointsRise, bandsOf, apart]
  have outlasts : NoneOutlasts 100 (bandsOf apart) := by
    norm_num [NoneOutlasts, bandEnd, bandsOf, apart]
  rw [← bands] at first second
  refine ⟨0, 3, low, high, points_rise parsed created read (by rw [scale]; exact rises)
    (by rw [scale, maxScore]; exact outlasts) (by norm_num) first second 0 p 3 q⟩

/-- **A higher score can earn fewer points**: 55 falls in the inner band, 70 only in the outer. -/
theorem points_fall :
    ¬ ∀ (lookup : Institutions.Lookup) (rt : Runtime) (env : SetupEnv) (auth : AuthTokenPayload)
      (body : Json) (input : CreateRuleSetInput) (s t : Store) (row : GradingRuleSet)
      (rule : ResolvedGradingRule),
      parseBody (createGradingRuleSetSchema rt) body = .ok input →
      (setupMethodsThrough lookup rt).attempt (.createGradingRuleSet env auth body) s =
        .ok (.ruleSet row, t) →
      configuredRule row = .ok rule → PointsRise input.scale →
      ∀ (low high : ℚ), low ≤ high → ∀ a b, findBand low rule.scale = some a →
        findBand high rule.scale = some b → ∀ p ∈ a.gradePoint, ∀ q ∈ b.gradePoint, p ≤ q := by
  intro all
  obtain ⟨input, row, t, rule, parsed, created, read, scale, -, bands⟩ := both_created.2
  obtain ⟨low, high⟩ := pointsAt_nested
  obtain ⟨a, first, p⟩ := Option.bind_eq_some_iff.mp low
  obtain ⟨b, second, q⟩ := Option.bind_eq_some_iff.mp high
  have rises : PointsRise (bandsOf nested) := by
    norm_num [PointsRise, bandsOf, nested]
  rw [← bands] at first second
  have falls := all _ _ _ _ _ input _ _ _ _ parsed created read (by rw [scale]; exact rises)
    55 70 (by norm_num) a b first second 3 p 1 q
  exact absurd falls (by norm_num)

end AcadID.GradingBands
