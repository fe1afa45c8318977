/-
**Updates of a rule set against creating it afresh.**

A band without a `maxScore` is stored with the `maxScore` that the rule set has when its scale is
written; an update that names no scale leaves it there.

* `outcome` — what a score is given under a stored rule set; `mergedInput` — the body of an update
  merged over that of the creation.
* `ends_agree_iff` — **two ends of the open bands** give every score the same exactly when no score
  between them falls first in an open band, unless the next band that holds it gives the same.
* `updated_agrees_iff` — **an updated rule set** grades as one created afresh exactly then.
-/

import AcadID.Gateway.GradingBands

namespace AcadID.RuleSetUpdates

open Lib Grading AcademicSetup GradingBands

/-- What a band gives: the grade, its point and whether it is a pass. -/
abbrev Given := String × Option ℚ × Option Bool

def given (band : ScaleBandInput) : Given :=
  (band.grade, band.gradePoint, band.pass)

/-- What a score is given under a stored rule set, or nothing where no band holds it. -/
def outcome (ruleSet : GradingRuleSet) (score : ℚ) : Except ServiceError (Option Given) := do
  let rule ← configuredRule ruleSet
  return (findBand score rule.scale).map fun band => (band.grade, band.gradePoint, band.pass)

/-- The body of an update merged over the body of the creation. -/
def mergedInput (input : CreateRuleSetInput) (change : UpdateRuleSetInput) :
    CreateRuleSetInput where
  institutionId := input.institutionId
  name := change.name.getD input.name
  engine := change.engine.getD input.engine
  status := change.status.getD input.status
  scale := change.scale.getD input.scale
  passMark := change.passMark.getD input.passMark
  maxScore := change.maxScore.getD input.maxScore
  gradePointMax := change.gradePointMax.getD input.gradePointMax
  effectiveFrom := change.effectiveFrom.getD input.effectiveFrom
  effectiveTo := change.effectiveTo.getD input.effectiveTo

/-! ### Two ends of the open bands -/

/-- The band starts at or below the score, and ends at or above it or has no `maxScore`. -/
def reaches (score : ℚ) (band : ScaleBandInput) : Bool :=
  band.minScore ≤ score && band.maxScore.all (score ≤ ·)

/-- The band starts at or below the score, and has a `maxScore` at or above it. -/
def closes (score : ℚ) (band : ScaleBandInput) : Bool :=
  band.minScore ≤ score && band.maxScore.any (score ≤ ·)

/-- The first band that holds a score when the open bands end at `stop`. -/
def bandAt (scale : List ScaleBandInput) (stop score : ℚ) : Option ScaleBandInput :=
  (sortedBands scale).find? fun band => holds score (gradedBand stop band)

/-- No score above the lower and up to the higher end falls first in an open band, unless the first
other band that holds it gives the same. -/
def NoneBetween (scale : List ScaleBandInput) (one other : ℚ) : Prop :=
  ∀ score, min one other < score → score ≤ max one other →
    ∀ band, (sortedBands scale).find? (reaches score) = some band → band.maxScore = none →
      ∃ next, (sortedBands scale).find? (closes score) = some next ∧ given next = given band

theorem closes_imp_reaches (score : ℚ) (band : ScaleBandInput) (held : closes score band = true) :
    reaches score band = true := by
  unfold closes at held
  unfold reaches
  cases top : band.maxScore with
  | none => simp [top] at held
  | some top => simpa [top] using held

/-- Above their end, open bands hold no score. -/
theorem holds_of_above {score stop : ℚ} (above : stop < score) (band : ScaleBandInput) :
    holds score (gradedBand stop band) = closes score band := by
  unfold holds closes gradedBand
  cases band.maxScore with
  | none => simp [not_le.mpr above]
  | some top => rfl

/-- Up to their end, open bands hold every score that they start below. -/
theorem holds_of_within {score stop : ℚ} (within : score ≤ stop) (band : ScaleBandInput) :
    holds score (gradedBand stop band) = reaches score band := by
  unfold holds reaches gradedBand
  cases band.maxScore with
  | none => simp [within]
  | some top => rfl

theorem bandAt_of_above {score stop : ℚ} (above : stop < score) (scale : List ScaleBandInput) :
    bandAt scale stop score = (sortedBands scale).find? (closes score) := by
  unfold bandAt
  rw [funext (holds_of_above above)]

theorem bandAt_of_within {score stop : ℚ} (within : score ≤ stop) (scale : List ScaleBandInput) :
    bandAt scale stop score = (sortedBands scale).find? (reaches score) := by
  unfold bandAt
  rw [funext (holds_of_within within)]

/-- **One score between the ends**: with the open bands and without them it is given the same
exactly when the first band that it falls in has an end, or gives what the next one gives. -/
theorem closes_agree_iff (scale : List ScaleBandInput) (score : ℚ) :
    ((sortedBands scale).find? (closes score)).map given =
        ((sortedBands scale).find? (reaches score)).map given ↔
      ∀ band, (sortedBands scale).find? (reaches score) = some band → band.maxScore = none →
        ∃ next, (sortedBands scale).find? (closes score) = some next ∧
          given next = given band := by
  cases first : (sortedBands scale).find? (reaches score) with
  | none =>
    rw [FirstMatch.find?_none_of_imp (closes_imp_reaches score) first]
    simp
  | some band =>
    cases top : band.maxScore with
    | some stop =>
      have held : closes score band = true := by
        have reached := List.find?_some first
        unfold reaches at reached
        unfold closes
        simpa [top] using reached
      rw [FirstMatch.find?_of_imp (closes_imp_reaches score) first held]
      refine ⟨fun _ other same none_ => ?_, fun _ => rfl⟩
      rw [← Option.some.inj same, top] at none_
      exact absurd none_ (by simp)
    | none =>
      rw [Option.map_some, Option.map_eq_some_iff]
      constructor
      · rintro same other is -
        rw [← Option.some.inj is]
        exact same
      · exact fun next => next band rfl top

/-- **Two ends of the open bands** give every score the same exactly when none falls between. -/
theorem ends_agree_iff (scale : List ScaleBandInput) (one other : ℚ) :
    (∀ score, (bandAt scale one score).map given = (bandAt scale other score).map given) ↔
      NoneBetween scale one other := by
  have step : ∀ low high score : ℚ, low ≤ high →
      ((bandAt scale low score).map given = (bandAt scale high score).map given ↔
        (low < score → score ≤ high →
          ∀ band, (sortedBands scale).find? (reaches score) = some band → band.maxScore = none →
            ∃ next, (sortedBands scale).find? (closes score) = some next ∧
              given next = given band)) := by
    intro low high score ordered
    rcases le_or_gt score low with below | above
    · rw [bandAt_of_within below, bandAt_of_within (below.trans ordered)]
      exact ⟨fun _ past => absurd below (not_le.mpr past), fun _ => rfl⟩
    · rcases le_or_gt score high with within | beyond
      · rw [bandAt_of_above above, bandAt_of_within within, closes_agree_iff]
        exact ⟨fun fits _ _ => fits, fun fits => fits above within⟩
      · rw [bandAt_of_above above, bandAt_of_above beyond]
        exact ⟨fun _ _ reached => absurd reached (not_le.mpr beyond), fun _ => rfl⟩
  unfold NoneBetween
  rcases le_total one other with ordered | ordered
  · rw [min_eq_left ordered, max_eq_right ordered]
    exact forall_congr' fun score => step one other score ordered
  · rw [min_eq_right ordered, max_eq_left ordered]
    exact forall_congr' fun score => eq_comm.trans (step other one score ordered)

/-! ### The stored rule sets -/

/-- **What a score is given** under a rule set with a stored scale. -/
theorem outcome_of_stored {ruleSet : GradingRuleSet} {scale : List ScaleBandInput} {stop : ℚ}
    (stored : ruleSet.scale = normalizedScale scale stop) (score : ℚ) :
    outcome ruleSet score = .ok ((bandAt scale stop score).map given) := by
  have read : ∃ rule, configuredRule ruleSet = .ok rule := by
    unfold configuredRule
    rw [stored, normalizeScale_normalizedScale]
    exact ⟨_, rfl⟩
  obtain ⟨rule, read⟩ := read
  unfold outcome
  rw [read]
  show Except.ok _ = _
  rw [configuredRule_scale stored read, findBand_eq, List.find?_map, Option.map_map]
  rfl

/-- An update that goes through changes the rule set that is there. -/
theorem updated_of_attempt {lookup : Institutions.Lookup} {rt : Runtime} {env : SetupEnv}
    {auth : AuthTokenPayload} {id : Uuid} {body : Json} {change : UpdateRuleSetInput} {s t : Store}
    {row : GradingRuleSet} (parsed : parseBody (updateGradingRuleSetSchema rt) body = .ok change)
    (updated : (setupMethodsThrough lookup rt).attempt (.updateGradingRuleSet env auth id body) s =
      .ok (.ruleSet row, t)) :
    ∃ existing, s.gradingRuleSets.find? id = some existing ∧
      updateRuleSetCommit rt env change existing s = .ok (row, t) := by
  obtain ⟨plan, checked, committed⟩ := bind_eq_ok.mp updated
  obtain ⟨read, again, rest⟩ := bind_eq_ok.mp checked
  obtain ⟨existing, found, rest⟩ := bind_eq_ok.mp rest
  obtain ⟨institution, -, same⟩ := bind_eq_ok.mp rest
  obtain rfl := Except.ok.inj same
  obtain rfl := Except.ok.inj (again.symm.trans parsed)
  obtain ⟨⟨row', t'⟩, written, same⟩ := map_eq_ok.mp committed
  obtain ⟨is, rfl⟩ := Prod.mk.inj same
  obtain rfl := SetupResponse.ruleSet.inj is
  exact ⟨existing, orThrow_eq_ok.mp found, written⟩

/-- The update names a scale, or no score falls between the two ends of the open bands. -/
def KeepsEnds (input : CreateRuleSetInput) (change : UpdateRuleSetInput) : Prop :=
  change.scale = none →
    NoneBetween input.scale input.maxScore (change.maxScore.getD input.maxScore)

/-- **An updated rule set** grades every score as one created afresh from the merged bodies exactly
when the update names a scale or no score falls between the ends of the open bands before and
after. -/
theorem updated_agrees_iff {lookup : Institutions.Lookup} {rt : Runtime}
    {env env' env'' : SetupEnv} {auth auth' auth'' : AuthTokenPayload} {body body' : Json}
    {input : CreateRuleSetInput} {change : UpdateRuleSetInput} {s t u v w x : Store}
    {row updated fresh : GradingRuleSet} {institutionId : Uuid}
    (parsed : parseBody (createGradingRuleSetSchema rt) body = .ok input)
    (created : (setupMethodsThrough lookup rt).attempt (.createGradingRuleSet env auth body) s =
      .ok (.ruleSet row, t))
    (stored : u.gradingRuleSets.find? row.uuid = some row)
    (parsed' : parseBody (updateGradingRuleSetSchema rt) body' = .ok change)
    (updates : (setupMethodsThrough lookup rt).attempt
      (.updateGradingRuleSet env' auth' row.uuid body') u = .ok (.ruleSet updated, v))
    (afresh : createRuleSetCommit rt env'' auth'' (mergedInput input change) institutionId w =
      .ok (fresh, x)) :
    (∀ score, outcome updated score = outcome fresh score) ↔ KeepsEnds input change := by
  obtain ⟨_, written⟩ := created_of_attempt parsed created
  obtain ⟨⟨scale, maxScore, -⟩, -⟩ := createRuleSetCommit_row written
  obtain ⟨⟨freshScale, -⟩, -⟩ := createRuleSetCommit_row afresh
  obtain ⟨existing, found, wrote⟩ := updated_of_attempt parsed' updates
  obtain rfl := Option.some.inj (stored.symm.trans found)
  obtain ⟨old, f, keeps, there, ⟨newScale, -⟩, -⟩ := updateRuleSetCommit_row wrote
  obtain rfl := Option.some.inj (stored.symm.trans there)
  unfold KeepsEnds
  cases named : change.scale with
  | some bands =>
    -- the update has stored the scale with the `maxScore` that the merged body has
    have same : updated.scale = fresh.scale := by
      rw [newScale, freshScale, named, maxScore]
      simp only [mergedInput, named, Option.map_some, Option.getD_some]
    refine ⟨fun _ none_ => absurd none_ (by simp), fun _ score => ?_⟩
    have stop : fresh.scale = normalizedScale bands (change.maxScore.getD input.maxScore) := by
      rw [freshScale]
      simp only [mergedInput, named, Option.getD_some]
    rw [outcome_of_stored stop, outcome_of_stored (same.trans stop)]
  | none =>
    have kept : updated.scale = normalizedScale input.scale input.maxScore := by
      rw [newScale, named, Option.map_none, Option.getD_none, scale]
    have stop : fresh.scale =
        normalizedScale input.scale (change.maxScore.getD input.maxScore) := by
      rw [freshScale]
      simp only [mergedInput, named, Option.getD_none]
    rw [← ends_agree_iff]
    simp only [outcome_of_stored kept, outcome_of_stored stop, Except.ok.injEq, forall_const]

/-! ### A pass without an upper end -/

deriving instance DecidableEq for CreateRuleSetInput

deriving instance DecidableEq for UpdateRuleSetInput

/-- A pass from 50 on, a fail below. -/
def openBody : Json :=
  .obj [("institutionId", .str "ACD-0001"), ("name", .str "Pass or fail"),
    ("engine", .str "PRIMARY_SECONDARY"),
    ("scale", .arr [.obj [("minScore", .num 50), ("grade", .str "P")],
      .obj [("minScore", .num 0), ("maxScore", .num (4999 / 100)), ("grade", .str "F")]])]

def openScale : List ScaleBandInput :=
  [⟨50, none, "P", none, none, none⟩, ⟨0, some (4999 / 100), "F", none, none, none⟩]

def openInput : CreateRuleSetInput where
  institutionId := "ACD-0001"
  name := "Pass or fail"
  engine := .primarySecondary
  status := .active
  scale := openScale
  passMark := none
  maxScore := 100
  gradePointMax := none
  effectiveFrom := none
  effectiveTo := none

theorem openBody_parsed :
    parseBody (createGradingRuleSetSchema .plain) openBody = .ok openInput := by
  obtain ⟨input, parsed, rfl⟩ := of_toOption (f := id) (b := openInput)
    (x := parseBody (createGradingRuleSetSchema .plain) openBody) (by decide +kernel)
  exact parsed

/-- The update of one field of the rule set. -/
def updating (body : Json) : SetupCall :=
  .updateGradingRuleSet ⟨0, 2, ""⟩ BatchHistory.founder ruleSetId body

/-- No field of an update. -/
def noChange : UpdateRuleSetInput where
  name := none
  engine := none
  status := none
  scale := none
  passMark := none
  maxScore := none
  gradePointMax := none
  effectiveFrom := none
  effectiveTo := none

/-- The rule set is created, updated, and created afresh from both bodies. -/
structure Twice (body : Json) (change : UpdateRuleSetInput) (row updated fresh : GradingRuleSet)
    (t v x : Store) : Prop where
  created : (setupMethodsThrough anySchool .plain).attempt (creating openBody) BatchHistory.school =
    .ok (.ruleSet row, t)
  stored : t.gradingRuleSets.find? row.uuid = some row
  parsed : parseBody (updateGradingRuleSetSchema .plain) body = .ok change
  key : row.uuid = ruleSetId
  updates : (setupMethodsThrough anySchool .plain).attempt (updating body) t =
    .ok (.ruleSet updated, v)
  afresh : createRuleSetCommit .plain ⟨0, 3, ruleSetId⟩ BatchHistory.founder
    (mergedInput openInput change) "10000000-0000-4000-8000-000000000001" BatchHistory.school =
      .ok (fresh, x)

theorem twice_of_evaluated {body : Json} {change : UpdateRuleSetInput}
    (parses : (parseBody (updateGradingRuleSetSchema .plain) body).toOption = some change)
    (goes : (((setupMethodsThrough anySchool .plain).attempt (creating openBody)
      BatchHistory.school).toOption.bind fun first =>
        (((setupMethodsThrough anySchool .plain).attempt (updating body) first.2).toOption.bind
          fun second => ruleSetOf second.1).map fun _ => (ruleSetOf first.1).map (·.uuid)) =
      some (some ruleSetId))
    (again : (createRuleSetCommit .plain ⟨0, 3, ruleSetId⟩ BatchHistory.founder
      (mergedInput openInput change) "10000000-0000-4000-8000-000000000001"
        BatchHistory.school).toOption.isSome = true) :
    ∃ row updated fresh t v x, Twice body change row updated fresh t v x := by
  have ok_of : ∀ {α : Type} {x : Except ServiceError α} {a : α},
      x.toOption = some a → x = .ok a := by
    intro α x a is
    obtain ⟨b, went, rfl⟩ := of_toOption (f := id) (x := x) (b := a) (by rw [is]; rfl)
    exact went
  obtain ⟨⟨res, t⟩, created, rest⟩ := Option.bind_eq_some_iff.mp goes
  obtain ⟨updated, second, key⟩ := Option.map_eq_some_iff.mp rest
  obtain ⟨⟨res', v⟩, updates, is'⟩ := Option.bind_eq_some_iff.mp second
  obtain ⟨row, is, uuid⟩ := Option.map_eq_some_iff.mp key
  obtain ⟨⟨fresh, x⟩, afresh⟩ := Option.isSome_iff_exists.mp again
  obtain rfl := ruleSetOf_eq_some is
  obtain rfl := ruleSetOf_eq_some is'
  have went := ok_of created
  obtain ⟨_, written⟩ := created_of_attempt openBody_parsed went
  obtain ⟨-, ruleSets, inserted, rfl⟩ := createRuleSetCommit_row written
  refine ⟨row, updated, fresh, _, v, x, went, ?_, ok_of parses, uuid, ok_of updates, ok_of afresh⟩
  show ruleSets.find? row.uuid = some row
  rw [Table.find?_insert inserted, if_pos rfl]

/-- A renamed rule set grades as before. -/
theorem renamed_agrees : ∃ row updated fresh t v x,
    Twice (.obj [("name", .str "Pass, or fail")]) { noChange with name := some "Pass, or fail" }
      row updated fresh t v x ∧ ∀ score, outcome updated score = outcome fresh score := by
  obtain ⟨row, updated, fresh, t, v, x, twice⟩ := @twice_of_evaluated
    (.obj [("name", .str "Pass, or fail")]) { noChange with name := some "Pass, or fail" }
    (by decide) (by decide +kernel) (by decide)
  refine ⟨row, updated, fresh, t, v, x, twice, ?_⟩
  refine (updated_agrees_iff openBody_parsed twice.created twice.stored twice.parsed
    (by rw [twice.key]; exact twice.updates) twice.afresh).mpr ?_
  intro _ score above within
  exact absurd above (not_lt.mpr (within.trans (by simp [noChange, openInput])))

/-- **A rule set with another `maxScore` does not grade as one created afresh**: 150 of 200 is
refused by the one, and a pass of the other. -/
theorem updated_fails :
    ¬ ∀ (lookup : Institutions.Lookup) (rt : Runtime) (env env' env'' : SetupEnv)
      (auth auth' auth'' : AuthTokenPayload) (body body' : Json) (input : CreateRuleSetInput)
      (change : UpdateRuleSetInput) (s t u v w x : Store) (row updated fresh : GradingRuleSet)
      (institutionId : Uuid),
      parseBody (createGradingRuleSetSchema rt) body = .ok input →
      (setupMethodsThrough lookup rt).attempt (.createGradingRuleSet env auth body) s =
        .ok (.ruleSet row, t) →
      u.gradingRuleSets.find? row.uuid = some row →
      parseBody (updateGradingRuleSetSchema rt) body' = .ok change →
      (setupMethodsThrough lookup rt).attempt
        (.updateGradingRuleSet env' auth' row.uuid body') u = .ok (.ruleSet updated, v) →
      createRuleSetCommit rt env'' auth'' (mergedInput input change) institutionId w =
        .ok (fresh, x) →
      ∀ score, outcome updated score = outcome fresh score := by
  intro all
  obtain ⟨row, updated, fresh, t, v, x, twice⟩ := @twice_of_evaluated
    (.obj [("maxScore", .num 200)]) { noChange with maxScore := some 200 }
    (by decide) (by decide +kernel) (by decide)
  have same := all _ _ _ _ _ _ _ _ _ _ _ _ _ t t v _ x row updated fresh _ openBody_parsed
    twice.created twice.stored twice.parsed (by rw [twice.key]; exact twice.updates)
    twice.afresh 150
  obtain ⟨_, written⟩ := created_of_attempt openBody_parsed twice.created
  obtain ⟨⟨scale, -⟩, -⟩ := createRuleSetCommit_row written
  obtain ⟨⟨freshScale, -⟩, -⟩ := createRuleSetCommit_row twice.afresh
  obtain ⟨existing, found, wrote⟩ := updated_of_attempt twice.parsed twice.updates
  obtain ⟨old, f, keeps, there, ⟨newScale, -⟩, -⟩ := updateRuleSetCommit_row wrote
  have is : old = row := by
    rw [Table.find?_key found, ← twice.key] at there
    exact Option.some.inj (there.symm.trans twice.stored)
  have kept : updated.scale = normalizedScale openScale 100 := newScale.trans (is ▸ scale)
  have stop : fresh.scale = normalizedScale openScale 200 := freshScale
  rw [outcome_of_stored kept, outcome_of_stored stop] at same
  have refused : (bandAt openScale 100 150).map given = none := by decide +kernel
  have passed : (bandAt openScale 200 150).map given = some ("P", none, none) := by decide
  rw [refused, passed] at same
  exact absurd same (by simp)

end AcadID.RuleSetUpdates
