/-
**The totals of a standing against the accounting of the uploads.**

An upload adds up the credit units attempted and earned and the quality points of its rows as it
grades them; a publication adds up those of the published records.

* `accounting` — the sums that `gradeRows` makes, over the rows of one enrolment in several uploads.
* `preferred` — the uploads a standing is made of: those graded by a configured rule set, when there
  are any, as records linked to one are preferred.
* `LedgerInv` — what every run of the workflow keeps: the records are the rows graded, published
  with their batch, and the standings are those of the records.
* `standing_of_accounting` — **the standing of an enrolment whose uploads were graded by tertiary
  rules** is the accounting of the uploads it prefers, to four decimals.
* `accounting_fails` — rows graded by the built-in rule drop out next to configured ones.
-/

import AcadID.Gateway.Publication
import AcadID.Gateway.Rollup

namespace AcadID.Accounting

open Lib Governance Ingestion BatchHistory Standing Grading

/-! ### What an upload accounts for -/

/-- The rows of an upload as they were graded, each with its band. -/
def gradedRows (plan : IngestPlan) : List (GradingScaleBand × GradedRow) :=
  plan.input.rows.zipIdx.filterMap fun row => (gradeRow plan.gradingRule row.1 row.2).toOption

/-- The row is of the enrolment. -/
def isOf (plan : IngestPlan) (enrolmentId : Uuid) (graded : GradingScaleBand × GradedRow) :
    Bool :=
  plan.enrolmentOf graded.2.row.studentNumber == some enrolmentId

/-- The rows of one enrolment. -/
def rowsOf (plan : IngestPlan) (enrolmentId : Uuid) : List (GradingScaleBand × GradedRow) :=
  (gradedRows plan).filter (isOf plan enrolmentId)

/-- **The sums that `gradeRows` makes**, over the rows of one enrolment. -/
def accounting (plans : List IngestPlan) (enrolmentId : Uuid) : Totals :=
  plans.foldl (fun totals plan =>
    (rowsOf plan enrolmentId).foldl (Totals.add plan.gradingRule) totals) ⟨0, 0, 0⟩

/-- The row has credit units and a grade point. -/
def weighted (graded : GradingScaleBand × GradedRow) : Bool :=
  graded.2.creditUnits.isSome && graded.2.gradePoint.isSome

/-- The row was passed. -/
def passed (rule : ResolvedGradingRule) (graded : GradingScaleBand × GradedRow) : Bool :=
  graded.1.pass.getD (decide (rule.passMark.getD 0 ≤ graded.2.row.totalScore))

/-- The uploads graded by a configured rule set, when a row of the enrolment that counts was; else
all. -/
def preferred (plans : List IngestPlan) (enrolmentId : Uuid) : List IngestPlan :=
  let configured := plans.filter (·.gradingRule.uuid.isSome)
  if configured.any fun plan => (rowsOf plan enrolmentId).any weighted then configured
  else plans

/-! ### Runs -/

/-- A store and the uploads that went through. -/
structure Ledgered where
  store : Store
  plans : List IngestPlan

/-- The upload of a transaction. -/
def uploadOf : Option (BatchPlan × BatchResponse × Store) → List IngestPlan
  | some (.ingest plan, _, _) => [plan]
  | _ => []

def ledgerStep (rt : Runtime) (w : Ledgered) (e : BatchEvent) : Ledgered where
  store := batchStep rt w.store e
  plans := w.plans ++ uploadOf ((batchMethods rt).committed e.call e.script w.store)

/-- The uploads whose batch was published. -/
def publishedPlans (w : Ledgered) : List IngestPlan :=
  w.plans.filter fun plan => Publication.dated w.store plan.env.batchUuid

/-! ### The rows that count -/

/-- What a record, or a row, adds to a standing. -/
structure Entry where
  ruleSetId : Option Uuid
  creditUnits : ℚ
  gradePoint : ℚ
  qualityPoints : ℚ

def entryOf (r : AcademicRecord) : Entry where
  ruleSetId := r.gradingRuleSetId
  creditUnits := decimalToNumber r.creditUnits
  gradePoint := decimalToNumber r.gradePoint
  qualityPoints := decimalToNumber r.qualityPoints

def rowEntry (plan : IngestPlan) (graded : GradingScaleBand × GradedRow) : Entry where
  ruleSetId := plan.gradingRule.uuid
  creditUnits := decimalToNumber graded.2.creditUnits
  gradePoint := decimalToNumber graded.2.gradePoint
  qualityPoints := decimalToNumber graded.2.qualityPoints

/-- The rows of one enrolment that count, in an upload. -/
def entriesOf (enrolmentId : Uuid) (plan : IngestPlan) : List Entry :=
  ((rowsOf plan enrolmentId).filter weighted).map (rowEntry plan)

/-! ### The accounting as sums -/

/-- What a row adds to the credit units earned. -/
def earnedBy (rule : ResolvedGradingRule) (graded : GradingScaleBand × GradedRow) : ℚ :=
  if passed rule graded then decimalToNumber graded.2.creditUnits else 0

theorem add_of_weighted {rule : ResolvedGradingRule} (tertiary : rule.engine = .tertiaryGpa)
    {g : GradingScaleBand × GradedRow} (counts : weighted g = true) (totals : Totals) :
    totals.add rule g =
      { attemptedCreditUnits := totals.attemptedCreditUnits + decimalToNumber g.2.creditUnits
        earnedCreditUnits := totals.earnedCreditUnits + earnedBy rule g
        qualityPoints := totals.qualityPoints + decimalToNumber g.2.qualityPoints } := by
  obtain ⟨units, point⟩ := Bool.and_eq_true_iff.mp counts
  obtain ⟨creditUnits, hasUnits⟩ := Option.isSome_iff_exists.mp units
  obtain ⟨gradePoint, hasPoint⟩ := Option.isSome_iff_exists.mp point
  unfold Totals.add earnedBy
  rw [tertiary, hasUnits, hasPoint]
  by_cases pass : passed rule g = true
  · rw [if_pos pass]
    exact congrArg (Totals.mk _ · _) (if_pos pass)
  · rw [if_neg pass, add_zero]
    exact congrArg (Totals.mk _ · _) (if_neg pass)

theorem add_of_not_weighted {rule : ResolvedGradingRule} {g : GradingScaleBand × GradedRow}
    (light : weighted g = false) (totals : Totals) : totals.add rule g = totals := by
  unfold weighted at light
  unfold Totals.add
  split
  · rename_i hasUnits hasPoint
    rw [hasUnits, hasPoint] at light
    exact absurd light (by simp)
  · rfl

/-- The totals of rows of one rule, added to others. -/
def plus (totals : Totals) (rule : ResolvedGradingRule)
    (rows : List (GradingScaleBand × GradedRow)) : Totals where
  attemptedCreditUnits := totals.attemptedCreditUnits +
    (rows.map fun g => decimalToNumber g.2.creditUnits).sum
  earnedCreditUnits := totals.earnedCreditUnits + (rows.map (earnedBy rule)).sum
  qualityPoints := totals.qualityPoints + (rows.map fun g => decimalToNumber g.2.qualityPoints).sum

/-- **Rows graded by one tertiary rule, added up**: those with credit units and a grade point. -/
theorem foldl_add {rule : ResolvedGradingRule} (tertiary : rule.engine = .tertiaryGpa)
    (rows : List (GradingScaleBand × GradedRow)) (totals : Totals) :
    rows.foldl (Totals.add rule) totals = plus totals rule (rows.filter weighted) := by
  induction rows generalizing totals with
  | nil => simp [plus]
  | cons g rows ih =>
    rw [List.foldl_cons, ih]
    by_cases counts : weighted g = true
    · rw [List.filter_cons_of_pos counts, add_of_weighted tertiary counts]
      simp only [plus, List.map_cons, List.sum_cons, add_assoc]
    · rw [List.filter_cons_of_neg counts, add_of_not_weighted (by simpa using counts)]

/-- Every upload with rows of the enrolment was graded by a tertiary rule. -/
def Tertiary (plans : List IngestPlan) (enrolmentId : Uuid) : Prop :=
  ∀ plan ∈ plans, rowsOf plan enrolmentId ≠ [] → plan.gradingRule.engine = .tertiaryGpa

/-- What the uploads' rows add to the credit units earned. -/
def earnedOf (enrolmentId : Uuid) (plan : IngestPlan) : List ℚ :=
  ((rowsOf plan enrolmentId).filter weighted).map (earnedBy plan.gradingRule)

/-- **The accounting of several uploads**, as sums over the rows that count. -/
theorem accounting_eq {plans : List IngestPlan} {enrolmentId : Uuid}
    (tertiary : Tertiary plans enrolmentId) :
    accounting plans enrolmentId =
      { attemptedCreditUnits :=
          ((plans.flatMap (entriesOf enrolmentId)).map (·.creditUnits)).sum
        earnedCreditUnits := (plans.flatMap (earnedOf enrolmentId)).sum
        qualityPoints := ((plans.flatMap (entriesOf enrolmentId)).map (·.qualityPoints)).sum } := by
  have general : ∀ totals : Totals, plans.foldl (fun totals plan =>
      (rowsOf plan enrolmentId).foldl (Totals.add plan.gradingRule) totals) totals =
      { attemptedCreditUnits := totals.attemptedCreditUnits +
          ((plans.flatMap (entriesOf enrolmentId)).map (·.creditUnits)).sum
        earnedCreditUnits := totals.earnedCreditUnits +
          (plans.flatMap (earnedOf enrolmentId)).sum
        qualityPoints := totals.qualityPoints +
          ((plans.flatMap (entriesOf enrolmentId)).map (·.qualityPoints)).sum } := by
    induction plans with
    | nil => simp
    | cons plan rest ih =>
      intro totals
      have one : (rowsOf plan enrolmentId).foldl (Totals.add plan.gradingRule) totals =
          plus totals plan.gradingRule ((rowsOf plan enrolmentId).filter weighted) := by
        by_cases none : rowsOf plan enrolmentId = []
        · rw [none]
          simp [plus]
        · exact foldl_add (tertiary plan (List.mem_cons_self ..) none) _ _
      have later : Tertiary rest enrolmentId :=
        fun other inside => tertiary other (List.mem_cons_of_mem _ inside)
      rw [List.foldl_cons, one, ih later]
      simp only [plus, List.flatMap_cons, List.map_append, List.sum_append, add_assoc]
      unfold entriesOf earnedOf
      rw [List.map_map, List.map_map]
      rfl
  rw [accounting, general]
  simp

/-! ### The records of an upload -/

/-- The records an upload creates. -/
def made (plan : IngestPlan) : List AcademicRecord :=
  plan.grading.rows.zipIdx.filterMap fun graded => (newRecord plan graded.1 graded.2).toOption

/-- **What is known of an upload that went through**: its rows were graded by its rule, which is
stored if it has an id, and each has become a record. -/
structure Uploaded (rt : Runtime) (s : Store) (plan : IngestPlan) : Prop where
  graded : gradeRows rt plan.input.rows plan.gradingRule = .ok plan.grading
  stored : ∀ id, plan.gradingRule.uuid = some id → ∃ ruleSet,
    s.gradingRuleSets.find? id = some ruleSet ∧ ruleSet.engine = plan.gradingRule.engine
  created : ∃ new, plan.grading.rows.zipIdx.mapM
    (fun graded => newRecord plan graded.1 graded.2) = .ok new
  batch : (s.resultBatches.find? plan.env.batchUuid).isSome

theorem grading_rows {rt : Runtime} {s : Store} {plan : IngestPlan} (uploaded : Uploaded rt s plan) :
    plan.grading.rows = (gradedRows plan).map Prod.snd := by
  have graded := uploaded.graded
  unfold gradeRows at graded
  obtain ⟨rows, mapped, same⟩ := bind_eq_ok.mp graded
  rw [pure_eq_ok] at same
  rw [← same]
  unfold gradedRows
  rw [filterMap_of_mapM_ok mapped]

/-- The entries of rows that meet a condition, one after the other. -/
theorem map_filter_eq {α β : Type} (p : α → Bool) (f : α → β) (xs : List α) :
    (xs.filter p).map f = (xs.map fun x => if p x then some (f x) else none).filterMap id := by
  induction xs with
  | nil => rfl
  | cons x xs ih =>
    by_cases meets : p x
    · simp [meets, ih]
    · simp [meets, ih]

/-- What a record adds to the standing of an enrolment, if it counts. -/
def entryIf (published : Uuid → Bool) (enrolmentId : Uuid) (r : AcademicRecord) : Option Entry :=
  if counts enrolmentId (stamped published r) then some (entryOf (stamped published r)) else none

/-- A new record counts as its row does, once its batch is published. -/
theorem entryIf_newRecord {published : Uuid → Bool} {enrolmentId : Uuid} {plan : IngestPlan}
    {graded : GradingScaleBand × GradedRow} {index : ℕ} {r : AcademicRecord}
    (created : newRecord plan graded.2 index = .ok r) :
    entryIf published enrolmentId r =
      if published plan.env.batchUuid && (isOf plan enrolmentId graded && weighted graded) then
        some (rowEntry plan graded) else none := by
  unfold newRecord at created
  obtain ⟨owner, found, same⟩ := bind_eq_ok.mp created
  rw [pure_eq_ok] at same
  rw [orThrow_eq_ok] at found
  subst same
  have isOwner : isOf plan enrolmentId graded = (owner == enrolmentId) := by
    unfold isOf
    rw [found]
    rfl
  rw [isOwner]
  unfold entryIf stamped
  rw [Option.any_some]
  by_cases now : published plan.env.batchUuid
  · rw [if_pos now, now, Bool.true_and]
    show (if owner == enrolmentId && true && graded.2.gradePoint.isSome &&
      graded.2.creditUnits.isSome then _ else _) = _
    unfold weighted
    rw [Bool.and_true, Bool.and_assoc, Bool.and_comm graded.2.gradePoint.isSome]
    rfl
  · rw [if_neg now, Bool.eq_false_iff.mpr now, Bool.false_and]
    show (if owner == enrolmentId && false && graded.2.gradePoint.isSome &&
      graded.2.creditUnits.isSome then _ else _) = _
    rw [Bool.and_false, Bool.false_and, Bool.false_and]
    rfl

/-- **The records of an upload count as its rows do**, once its batch is published. -/
theorem entries_made {rt : Runtime} {s : Store} {plan : IngestPlan} (uploaded : Uploaded rt s plan)
    (published : Uuid → Bool) (enrolmentId : Uuid) :
    (((made plan).map (stamped published)).filter (counts enrolmentId)).map entryOf =
      if published plan.env.batchUuid then entriesOf enrolmentId plan else [] := by
  obtain ⟨new, created⟩ := uploaded.created
  have records : made plan = new := filterMap_of_mapM_ok created
  rw [grading_rows uploaded, List.zipIdx_map, List.mapM_map] at created
  have read : new.map (entryIf published enrolmentId) =
      (gradedRows plan).map fun graded =>
        if published plan.env.batchUuid && (isOf plan enrolmentId graded && weighted graded) then
          some (rowEntry plan graded) else none := by
    rw [map_eq_of_mapM_ok (fun graded r is => entryIf_newRecord is) created]
    conv_rhs => rw [← List.zipIdx_map_fst 0 (gradedRows plan), List.map_map]
    rfl
  rw [records, List.filter_map, List.map_map]
  calc (new.filter (counts enrolmentId ∘ stamped published)).map (entryOf ∘ stamped published)
      = (new.map (entryIf published enrolmentId)).filterMap id := map_filter_eq _ _ _
    _ = ((gradedRows plan).filter fun graded => published plan.env.batchUuid &&
          (isOf plan enrolmentId graded && weighted graded)).map (rowEntry plan) := by
        rw [read, map_filter_eq]
    _ = if published plan.env.batchUuid then entriesOf enrolmentId plan else [] := by
        by_cases now : published plan.env.batchUuid
        · rw [if_pos now]
          simp only [now, Bool.true_and]
          unfold entriesOf rowsOf
          rw [List.filter_filter]
          simp only [Bool.and_comm]
        · rw [if_neg now]
          simp only [now, Bool.false_and, List.filter_false, List.map_nil]

/-! ### The invariant of a run -/

/-- The check behind the plan of an upload. -/
theorem ingestCheck_of_batchCheck {rt : Runtime} {call : BatchCall} {s : Store} {plan : IngestPlan}
    (checked : batchCheck rt call s = .ok (.ingest plan)) :
    ∃ env auth body, ingestCheck rt env auth body s = .ok plan := by
  cases call with
  | ingestResults env auth body =>
    obtain ⟨plan', read, same⟩ := bind_eq_ok.mp checked
    rw [pure_eq_ok] at same
    obtain rfl := BatchPlan.ingest.inj same
    exact ⟨env, auth, body, read⟩
  | transitionBatch now auth batchId status =>
    obtain ⟨_, -, same⟩ := bind_eq_ok.mp checked
    exact absurd (pure_eq_ok.mp same) (by simp)
  | publishBatch env auth batchId =>
    obtain ⟨_, -, same⟩ := bind_eq_ok.mp checked
    exact absurd (pure_eq_ok.mp same) (by simp)
  | rejectBatch auth batchId reason =>
    obtain ⟨_, -, same⟩ := bind_eq_ok.mp checked
    exact absurd (pure_eq_ok.mp same) (by simp)

/-- The call behind the plan of a publication. -/
theorem publishBatch_of_batchCheck {rt : Runtime} {call : BatchCall} {s : Store}
    {plan : PublishPlan} (checked : batchCheck rt call s = .ok (.publish plan)) :
    ∃ env auth batchId,
      batchCheck rt (.publishBatch env auth batchId) s = .ok (.publish plan) := by
  cases call with
  | publishBatch env auth batchId => exact ⟨env, auth, batchId, checked⟩
  | ingestResults env auth body =>
    obtain ⟨_, -, same⟩ := bind_eq_ok.mp checked
    exact absurd (pure_eq_ok.mp same) (by simp)
  | transitionBatch now auth batchId status =>
    obtain ⟨_, -, same⟩ := bind_eq_ok.mp checked
    exact absurd (pure_eq_ok.mp same) (by simp)
  | rejectBatch auth batchId reason =>
    obtain ⟨_, -, same⟩ := bind_eq_ok.mp checked
    exact absurd (pure_eq_ok.mp same) (by simp)

/-- **What every run keeps**: the records are those of the uploads, published with their batch, and
every enrolment with a published record has a current standing. -/
structure LedgerInv (rt : Runtime) (s : Store) (plans : List IngestPlan) : Prop where
  records : s.academicRecords.rows.map undated =
    (plans.flatMap made).map (stamped (Publication.dated s))
  uploaded : ∀ plan ∈ plans, Uploaded rt s plan
  settled : ∀ r ∈ s.academicRecords.rows, r.status = .published → Current s r.enrolmentId

theorem Uploaded.mono {rt : Runtime} {s t : Store} {plan : IngestPlan}
    (uploaded : Uploaded rt s plan) (rules : t.gradingRuleSets = s.gradingRuleSets)
    (batches : ∀ b, s.resultBatches.find? plan.env.batchUuid = some b →
      ∃ b', t.resultBatches.find? plan.env.batchUuid = some b') : Uploaded rt t plan := by
  refine ⟨uploaded.graded, fun id is => ?_, uploaded.created, ?_⟩
  · rw [rules]
    exact uploaded.stored id is
  · obtain ⟨b, found⟩ := Option.isSome_iff_exists.mp uploaded.batch
    exact Option.isSome_iff_exists.mpr (batches b found)

/-- A transition or a rejection changes batches alone, and dates none. -/
theorem ledgerInv_quiet {rt : Runtime} {s t : Store} {plans : List IngestPlan} {plan : BatchPlan}
    {res : BatchResponse} (committed : batchCommit plan s = .ok (res, t))
    (other : ∀ p, plan ≠ .publish p) {batches : Table ResultBatch.uuid}
    (frame : t = { s with resultBatches := batches }) (inv : LedgerInv rt s plans) :
    LedgerInv rt t plans := by
  have dates : Publication.dated t = Publication.dated s :=
    funext (Publication.dated_of_not_publish committed other)
  have there := fun id b => @Publication.find?_some_of_batchCommit plan s t res committed id b
  subst frame
  refine ⟨?_, fun p inside => (inv.uploaded p inside).mono rfl (there _), fun r inside shown => ?_⟩
  · rw [dates]
    exact inv.records
  · exact (inv.settled r inside shown).congr rfl rfl rfl rfl

/-- **An ingestion** adds the records of its upload, none of them published. -/
theorem ledgerInv_ingest {rt : Runtime} {s t : Store} {plans : List IngestPlan} {plan : IngestPlan}
    {res : BatchResponse} (committed : batchCommit (.ingest plan) s = .ok (res, t))
    (graded : gradeRows rt plan.input.rows plan.gradingRule = .ok plan.grading)
    (stored : ∀ id, plan.gradingRule.uuid = some id → ∃ ruleSet,
      s.gradingRuleSets.find? id = some ruleSet ∧ ruleSet.engine = plan.gradingRule.engine)
    (inv : LedgerInv rt s plans) : LedgerInv rt t (plans ++ [plan]) := by
  have other : ∀ p, BatchPlan.ingest plan ≠ .publish p := fun p same => by injection same
  have dates : Publication.dated t = Publication.dated s :=
    funext (Publication.dated_of_not_publish committed other)
  have there := fun id b => @Publication.find?_some_of_batchCommit _ s t res committed id b
  have placed : t.resultBatches.find? plan.env.batchUuid = some (newBatch plan) := by
    rw [find?_batchCommit committed]
    exact if_pos rfl
  have fresh : Publication.dated s plan.env.batchUuid = false := by
    unfold Publication.dated
    rw [find?_of_ingest committed]
    rfl
  obtain ⟨⟨batch, s'⟩, ingested, same⟩ := bind_eq_ok.mp committed
  rw [pure_eq_ok] at same
  obtain ⟨-, rfl⟩ := Prod.mk.inj same
  obtain ⟨new, created, rows⟩ := ingestCommit_records ingested
  have drafts : ∀ r ∈ new, r.resultBatchId = some plan.env.batchUuid ∧ r.status = .draft := by
    intro r inside
    obtain ⟨graded, -, is⟩ := mem_of_mapM_ok created r inside
    exact ⟨(newRecord_spec is).1, (newRecord_spec is).2.1⟩
  have madeNew : made plan = new := filterMap_of_mapM_ok created
  obtain ⟨-, -, batches, records, -, -, rfl⟩ := ingestCommit_spec ingested
  refine ⟨?_, fun p inside => ?_, fun r inside shown => ?_⟩
  · rw [rows, dates, List.flatMap_append, List.map_append, List.map_append, inv.records,
      List.flatMap_cons, List.flatMap_nil, List.append_nil, madeNew]
    refine congrArg _ (List.map_congr_left fun r inside => ?_)
    unfold stamped
    rw [(drafts r inside).1, Option.any_some, fresh]
    rfl
  · rcases List.mem_append.mp inside with old | isNew
    · exact (inv.uploaded p old).mono rfl (there _)
    · rw [List.mem_singleton.mp isNew]
      exact ⟨graded, stored, ⟨new, created⟩, Option.isSome_iff_exists.mpr ⟨_, placed⟩⟩
  · rw [rows] at inside
    rcases List.mem_append.mp inside with old | isNew
    · exact (inv.settled r old shown).congr rfl rfl rfl
        (countedRecords_append rows (fun r inside => (drafts r inside).2) _)
    · rw [(drafts r isNew).2] at shown
      exact absurd shown (by decide)

/-- **A publication** publishes the records of its batch, and leaves current standings. -/
theorem ledgerInv_publish {rt : Runtime} {env : PublishEnv} {auth : AuthTokenPayload}
    {batchId : Uuid} {s t : Store} {plans : List IngestPlan} {plan : PublishPlan}
    {res : BatchResponse}
    (checked : batchCheck rt (.publishBatch env auth batchId) s = .ok (.publish plan))
    (committed : batchCommit (.publish plan) s = .ok (res, t)) (inv : LedgerInv rt s plans) :
    LedgerInv rt t plans := by
  have planned := Publication.planInv_of_check checked
  obtain ⟨plan', checks, is⟩ := bind_eq_ok.mp checked
  rw [pure_eq_ok] at is
  obtain rfl := BatchPlan.publish.inj is
  have dates : Publication.dated t =
      fun id => decide (plan'.batch.uuid = id) || Publication.dated s id :=
    funext (Publication.dated_of_publish committed planned)
  have there := fun id b => @Publication.find?_some_of_batchCommit _ s t res committed id b
  obtain ⟨read, owners⟩ := publishCheck_records checks
  have batchIs := (publishCheck_spec checks).2.1
  obtain ⟨⟨batch, s'⟩, wrote, same⟩ := bind_eq_ok.mp committed
  rw [pure_eq_ok] at same
  obtain ⟨-, rfl⟩ := Prod.mk.inj same
  have publishes := publishCommit_publishes wrote
  have listed : ∀ r ∈ s.academicRecords.rows, r.resultBatchId = some plan'.batch.uuid →
      r.enrolmentId ∈ plan'.records.map (·.1.enrolmentId) ∧
        ∃ enrolment, s.enrolments.find? r.enrolmentId = some enrolment := by
    intro r inside refers
    rw [batchIs] at refers
    have inBatch : r ∈ academicRecords s batchId :=
      List.mem_filter.mpr ⟨inside, by rw [refers]; exact beq_self_eq_true _⟩
    refine ⟨?_, owners r inBatch⟩
    rw [← read] at inBatch
    obtain ⟨pair, paired, rfl⟩ := List.mem_map.mp inBatch
    exact List.mem_map_of_mem paired
  refine ⟨?_, fun p inside => (inv.uploaded p inside).mono publishes.rules (there _),
    fun r inside shown => ?_⟩
  · rw [publishes.records, dates]
    exact map_undated_publishing inv.records
  · rw [publishes.records] at inside
    obtain ⟨old, row, rfl⟩ := List.mem_map.mp inside
    rw [enrolmentId_publishing]
    by_cases member : old.enrolmentId ∈ plan'.records.map (·.1.enrolmentId)
    · obtain ⟨pair, paired, isOwner⟩ := List.mem_map.mp member
      have inBatch : pair.1 ∈ academicRecords s batchId := by
        rw [← read]
        exact List.mem_map_of_mem paired
      obtain ⟨enrolment, found⟩ := owners _ inBatch
      rw [isOwner] at found
      exact current_of_inside publishes found member
    · have foreign : ∀ r ∈ s.academicRecords.rows, r.enrolmentId = old.enrolmentId →
          r.resultBatchId ≠ some plan'.batch.uuid := by
        intro r inside same refers
        exact member (same ▸ (listed r inside refers).1)
      refine current_of_outside publishes member foreign (inv.settled old row ?_)
      unfold publishing at shown
      rwa [if_neg (by simpa using foreign old row rfl)] at shown

theorem ledgerInv_step {rt : Runtime} {w : Ledgered} {e : BatchEvent}
    (inv : LedgerInv rt w.store w.plans) :
    LedgerInv rt (ledgerStep rt w e).store (ledgerStep rt w e).plans := by
  unfold ledgerStep
  cases went : (batchMethods rt).committed e.call e.script w.store with
  | none =>
    rw [batchStep_of_none went]
    show LedgerInv rt w.store (w.plans ++ [])
    rw [List.append_nil]
    exact inv
  | some commit =>
    obtain ⟨plan, res, t⟩ := commit
    obtain ⟨events, left⟩ := batchStep_of_committed went
    obtain ⟨checked, committed⟩ := Method.committed_spec went
    change batchCheck rt e.call w.store = .ok plan at checked
    change batchCommit plan w.store = .ok (res, t) at committed
    have after : LedgerInv rt t (w.plans ++ uploadOf (some (plan, res, t))) := by
      cases plan with
      | ingest p =>
        obtain ⟨env, auth, body, is⟩ := ingestCheck_of_batchCheck checked
        obtain ⟨graded, resolved⟩ := ingestCheck_graded is
        exact ledgerInv_ingest committed graded (fun id => resolveGradingRule_spec resolved) inv
      | transition now auth batchId status =>
        obtain ⟨⟨batch, s'⟩, moved, same⟩ := bind_eq_ok.mp committed
        rw [pure_eq_ok] at same
        obtain ⟨-, rfl⟩ := Prod.mk.inj same
        obtain ⟨old, -, frame⟩ := transitionCommit_spec moved
        show LedgerInv rt s' (w.plans ++ [])
        rw [List.append_nil]
        exact ledgerInv_quiet committed (fun p same => by injection same) frame inv
      | publish p =>
        obtain ⟨env, auth, batchId, is⟩ := publishBatch_of_batchCheck checked
        show LedgerInv rt t (w.plans ++ [])
        rw [List.append_nil]
        exact ledgerInv_publish is committed inv
      | reject auth batchId reason =>
        obtain ⟨⟨batch, s'⟩, rejected, same⟩ := bind_eq_ok.mp committed
        rw [pure_eq_ok] at same
        obtain ⟨-, rfl⟩ := Prod.mk.inj same
        obtain ⟨old, -, frame⟩ := rejectCommit_spec rejected
        show LedgerInv rt s' (w.plans ++ [])
        rw [List.append_nil]
        exact ledgerInv_quiet committed (fun p same => by injection same) frame inv
    rw [left]
    obtain ⟨records, uploaded, settled⟩ := after
    exact ⟨records, fun p inside => (uploaded p inside).mono rfl fun b found => ⟨b, found⟩, settled⟩

theorem ledgerInv_runs {rt : Runtime} {s : Store} (empty : s.academicRecords.rows = [])
    (events : List BatchEvent) :
    LedgerInv rt (runs (ledgerStep rt) ⟨s, []⟩ events).store
      (runs (ledgerStep rt) ⟨s, []⟩ events).plans := by
  have start : LedgerInv rt s [] := by
    refine ⟨by rw [empty]; rfl, by simp, fun r inside => ?_⟩
    rw [empty] at inside
    exact absurd inside (by simp)
  have keeps : ∀ (w : Ledgered) (e : BatchEvent), LedgerInv rt w.store w.plans →
      LedgerInv rt (ledgerStep rt w e).store (ledgerStep rt w e).plans := fun _ _ => ledgerInv_step
  exact throughout_iff_prefixes.mp (throughout_of_keeps keeps start events) events []
    (List.append_nil _).symm

/-! ### The records a standing counts -/

/-- The records that count are the rows that count, of the uploads published. -/
theorem entries_counted {rt : Runtime} {w : Ledgered} (inv : LedgerInv rt w.store w.plans)
    (enrolmentId : Uuid) :
    ((countedRecords w.store enrolmentId).map entryOf).Perm
      ((publishedPlans w).flatMap (entriesOf enrolmentId)) := by
  have each : ∀ plans : List IngestPlan, (∀ plan ∈ plans, Uploaded rt w.store plan) →
      (((plans.flatMap made).map (stamped (Publication.dated w.store))).filter
          (counts enrolmentId)).map entryOf =
        (plans.filter fun plan => Publication.dated w.store plan.env.batchUuid).flatMap
          (entriesOf enrolmentId) := by
    intro plans uploaded
    induction plans with
    | nil => rfl
    | cons plan rest ih =>
      have later := ih fun p inside => uploaded p (List.mem_cons_of_mem _ inside)
      rw [List.flatMap_cons, List.map_append, List.filter_append, List.map_append, later,
        entries_made (uploaded plan (List.mem_cons_self ..))]
      rw [List.filter_cons]
      by_cases shown : Publication.dated w.store plan.env.batchUuid = true
      · rw [if_pos shown, if_pos shown, List.flatMap_cons]
      · rw [if_neg shown, if_neg shown, List.nil_append]
  have sorted : (countedRecords w.store enrolmentId).Perm
      (w.store.academicRecords.rows.filter (counts enrolmentId)) := List.perm_insertionSort _ _
  refine (sorted.map entryOf).trans (List.Perm.of_eq ?_)
  calc (w.store.academicRecords.rows.filter (counts enrolmentId)).map entryOf
      = ((w.store.academicRecords.rows.map undated).filter (counts enrolmentId)).map entryOf := by
        rw [List.filter_map, List.map_map]
        rfl
    _ = _ := by
        rw [inv.records]
        exact each w.plans inv.uploaded

/-- Whether an entry was graded by a stored tertiary rule. -/
def tertiaryEntry (s : Store) (entry : Entry) : Bool :=
  (entry.ruleSetId.bind s.gradingRuleSets.find?).any (·.engine == .tertiaryGpa)

/-- The tertiary entries are those of the uploads graded by a configured rule set. -/
theorem filter_tertiary {rt : Runtime} {s : Store} {enrolmentId : Uuid} {plans : List IngestPlan}
    (uploaded : ∀ plan ∈ plans, Uploaded rt s plan) (tertiary : Tertiary plans enrolmentId) :
    (plans.flatMap (entriesOf enrolmentId)).filter (tertiaryEntry s) =
      (plans.filter (·.gradingRule.uuid.isSome)).flatMap (entriesOf enrolmentId) := by
  induction plans with
  | nil => rfl
  | cons plan rest ih =>
    have later := ih (fun p inside => uploaded p (List.mem_cons_of_mem _ inside))
      fun p inside => tertiary p (List.mem_cons_of_mem _ inside)
    rw [List.flatMap_cons, List.filter_append, later]
    have here : ∀ entry ∈ entriesOf enrolmentId plan,
        tertiaryEntry s entry = plan.gradingRule.uuid.isSome := by
      intro entry inside
      obtain ⟨graded, member, rfl⟩ := List.mem_map.mp inside
      have some : rowsOf plan enrolmentId ≠ [] :=
        List.ne_nil_of_mem (List.mem_of_mem_filter member)
      have engine := tertiary plan (List.mem_cons_self ..) some
      show (plan.gradingRule.uuid.bind s.gradingRuleSets.find?).any _ = _
      cases configured : plan.gradingRule.uuid with
      | none => rfl
      | some id =>
        obtain ⟨ruleSet, found, is⟩ :=
          (uploaded plan (List.mem_cons_self ..)).stored id configured
        rw [Option.bind_some, found, Option.any_some, is, engine]
        rfl
    by_cases configured : plan.gradingRule.uuid.isSome = true
    · rw [List.filter_cons, if_pos configured, List.flatMap_cons, List.filter_eq_self.mpr]
      intro entry inside
      rw [here entry inside]
      exact configured
    · rw [List.filter_cons, if_neg configured, List.filter_eq_nil_iff.mpr, List.nil_append]
      intro entry inside
      rw [here entry inside]
      exact configured

/-- **The records of a standing** are the rows that count, of the uploads it prefers. -/
theorem entries_rollup {rt : Runtime} {w : Ledgered} (inv : LedgerInv rt w.store w.plans)
    {enrolmentId : Uuid} (tertiary : Tertiary (publishedPlans w) enrolmentId) :
    ((rollupRecords w.store enrolmentId).map entryOf).Perm
      ((preferred (publishedPlans w) enrolmentId).flatMap (entriesOf enrolmentId)) := by
  have counted := entries_counted inv enrolmentId
  have uploaded : ∀ plan ∈ publishedPlans w, Uploaded rt w.store plan :=
    fun plan inside => inv.uploaded plan (List.mem_of_mem_filter inside)
  have linked : (((countedRecords w.store enrolmentId).filter fun record =>
      (gradingRuleSet w.store record).any (·.engine == .tertiaryGpa)).map entryOf).Perm
      (((publishedPlans w).filter (·.gradingRule.uuid.isSome)).flatMap (entriesOf enrolmentId)) := by
    rw [← filter_tertiary uploaded tertiary]
    have through : ((countedRecords w.store enrolmentId).filter fun record =>
        (gradingRuleSet w.store record).any (·.engine == .tertiaryGpa)).map entryOf =
        ((countedRecords w.store enrolmentId).map entryOf).filter (tertiaryEntry w.store) := by
      rw [List.filter_map]
      rfl
    rw [through]
    exact counted.filter _
  have empty : ((countedRecords w.store enrolmentId).filter fun record =>
      (gradingRuleSet w.store record).any (·.engine == .tertiaryGpa)).isEmpty =
        !(((publishedPlans w).filter (·.gradingRule.uuid.isSome)).any fun plan =>
          (rowsOf plan enrolmentId).any weighted) := by
    have lengths := linked.length_eq
    rw [List.length_map] at lengths
    rw [Bool.eq_iff_iff, List.isEmpty_iff_length_eq_zero, lengths, List.length_eq_zero_iff,
      List.flatMap_eq_nil_iff, Bool.not_eq_true', List.any_eq_false]
    refine forall₂_congr fun plan inside => ?_
    rw [Bool.not_eq_true, List.any_eq_false]
    unfold entriesOf
    rw [List.map_eq_nil_iff, List.filter_eq_nil_iff]
  unfold rollupRecords preferred
  dsimp only
  rw [empty]
  by_cases some : ((publishedPlans w).filter (·.gradingRule.uuid.isSome)).any (fun plan =>
      (rowsOf plan enrolmentId).any weighted) = true
  · rw [if_pos some, some]
    exact linked
  · rw [if_neg some, Bool.eq_false_iff.mpr some]
    exact counted

/-! ### The totals of a standing -/

/-- A published row makes a published record of its enrolment, so its standing is current. -/
theorem current_of_row {rt : Runtime} {w : Ledgered} (inv : LedgerInv rt w.store w.plans)
    {enrolmentId : Uuid} {plan : IngestPlan} (inside : plan ∈ publishedPlans w)
    (some : rowsOf plan enrolmentId ≠ []) : Current w.store enrolmentId := by
  obtain ⟨planned, shown⟩ := List.mem_filter.mp inside
  have uploaded := inv.uploaded plan planned
  obtain ⟨graded, member⟩ := List.exists_mem_of_ne_nil _ some
  obtain ⟨row, isOwner⟩ := List.mem_filter.mp member
  obtain ⟨new, created⟩ := uploaded.created
  have records : made plan = new := filterMap_of_mapM_ok created
  have owners : new.map (fun r => Option.some r.enrolmentId) =
      plan.grading.rows.zipIdx.map fun g => plan.enrolmentOf g.1.row.studentNumber := by
    refine map_eq_of_mapM_ok (fun g r is => ?_) created
    obtain ⟨owner, found, same⟩ := bind_eq_ok.mp is
    rw [pure_eq_ok] at same
    rw [orThrow_eq_ok] at found
    rw [← same, found]
  have listed : plan.enrolmentOf graded.2.row.studentNumber ∈
      plan.grading.rows.zipIdx.map fun g => plan.enrolmentOf g.1.row.studentNumber := by
    have through : (plan.grading.rows.zipIdx.map fun g => plan.enrolmentOf g.1.row.studentNumber) =
        plan.grading.rows.map fun g => plan.enrolmentOf g.row.studentNumber := by
      conv_rhs => rw [← List.zipIdx_map_fst 0 plan.grading.rows, List.map_map]
      rfl
    rw [through, grading_rows uploaded, List.map_map]
    exact List.mem_map.mpr ⟨graded, row, rfl⟩
  rw [← owners] at listed
  obtain ⟨r, isNew, owns⟩ := List.mem_map.mp listed
  have owner : r.enrolmentId = enrolmentId := by
    have given : plan.enrolmentOf graded.2.row.studentNumber = Option.some enrolmentId := by
      simpa [isOf] using isOwner
    exact Option.some.inj (owns.trans given)
  have stamps : stamped (Publication.dated w.store) r ∈
      w.store.academicRecords.rows.map undated := by
    rw [inv.records]
    exact List.mem_map_of_mem (List.mem_flatMap.mpr ⟨plan, planned, by rw [records]; exact isNew⟩)
  obtain ⟨stored, here, same⟩ := List.mem_map.mp stamps
  obtain ⟨g, -, is⟩ := mem_of_mapM_ok created r isNew
  have batch : r.resultBatchId.any (Publication.dated w.store) = true := by
    rw [(newRecord_spec is).1, Option.any_some]
    exact shown
  unfold stamped at same
  rw [if_pos batch] at same
  have status : stored.status = .published := congrArg (·.status) same
  have owns' : stored.enrolmentId = r.enrolmentId := congrArg (·.enrolmentId) same
  rw [← owner, ← owns']
  exact inv.settled stored here status

/-- The sums over the records of a standing are those over the rows it prefers. -/
theorem sum_rollup {rt : Runtime} {w : Ledgered} (inv : LedgerInv rt w.store w.plans)
    {enrolmentId : Uuid} (tertiary : Tertiary (publishedPlans w) enrolmentId) (f : Entry → ℚ) :
    ((rollupRecords w.store enrolmentId).map (f ∘ entryOf)).sum =
      (((preferred (publishedPlans w) enrolmentId).flatMap (entriesOf enrolmentId)).map f).sum := by
  rw [← ((entries_rollup inv tertiary).map f).sum_eq, List.map_map]

theorem preferred_subset {plans : List IngestPlan} {enrolmentId : Uuid} :
    ∀ plan ∈ preferred plans enrolmentId, plan ∈ plans := by
  intro plan inside
  unfold preferred at inside
  dsimp only at inside
  split at inside
  · exact List.mem_of_mem_filter inside
  · exact inside

/-- Each row that counts is passed exactly when its grade point is positive. -/
def PassesByPoint (plans : List IngestPlan) (enrolmentId : Uuid) : Prop :=
  ∀ plan ∈ plans, ∀ graded ∈ rowsOf plan enrolmentId, weighted graded = true →
    (passed plan.gradingRule graded = true ↔ 0 < decimalToNumber graded.2.gradePoint)

/-- **A standing agrees with the accounting of some uploads**, to four decimals; on the credit units
earned where a row is passed exactly when its grade point is positive. -/
structure AccountedBy (standing : AcademicStanding) (plans : List IngestPlan) (enrolmentId : Uuid) :
    Prop where
  attempted : standing.attemptedCreditUnits =
    round (accounting plans enrolmentId).attemptedCreditUnits 4
  quality : standing.qualityPoints = round (accounting plans enrolmentId).qualityPoints 4
  earned : PassesByPoint plans enrolmentId →
    standing.earnedCreditUnits = round (accounting plans enrolmentId).earnedCreditUnits 4

/-- The store and the uploads after a run. -/
def ledger (rt : Runtime) (s : Store) (events : List BatchEvent) : Ledgered :=
  runs (ledgerStep rt) ⟨s, []⟩ events

def ruleSetId : Uuid := "b0000000-0000-4000-8000-000000000001"

/-- The school with a rule set that is not active yet. -/
def ruled : Store :=
  { school with
    gradingRuleSets :=
      { rows :=
          [{ uuid := ruleSetId
             institutionId := "10000000-0000-4000-8000-000000000001"
             name := "Five point scale"
             engine := .tertiaryGpa
             status := .draft
             scale := .arr
               [.obj [("minScore", .num 50), ("grade", .str "P"), ("gradePoint", .num 4)],
                 .obj [("minScore", .num 0), ("grade", .str "F"), ("gradePoint", .num 0)]]
             passMark := some 50
             maxScore := 100
             gradePointMax := some 5
             effectiveFrom := none
             effectiveTo := none
             createdById := none
             updatedAt := 0 }]
        nodup := List.nodup_singleton _ } }

/-- A result of the student in a course of three credit units, graded by the rule set given. -/
def courseUpload (batchUuid recordUuid : Uuid) (subjectCode : String)
    (ruleSet : List (String × Json)) : BatchEvent where
  call := .ingestResults
    { pick := 0
      checkedAt := 1
      committedAt := 2
      batchUuid := batchUuid
      recordUuid := fun _ => recordUuid }
    founder
    (.obj ([("institutionId", .str "ACD-0001"),
      ("createdById", .str "50000000-0000-4000-8000-000000000001"),
      ("title", .str "First semester"), ("uploadMode", .str "COURSE_BASED"),
      ("rows", .arr [.obj [("studentNumber", .str "S-1"), ("periodType", .str "SEMESTER"),
        ("periodLabel", .str "First semester"), ("subjectCode", .str subjectCode),
        ("subjectName", .str subjectCode), ("totalScore", .num 75), ("creditUnits", .num 3)]])] ++
      ruleSet))
  script := []

def approveAndPublish (batchId credentialRef : Uuid) : List BatchEvent :=
  [⟨.transitionBatch 3 founder batchId .approved, []⟩,
    ⟨.publishBatch
      { pick := 0
        checkedAt := 4
        committedAt := 5
        credentialRef := fun _ => credentialRef
        credentialUuid := fun _ => credentialRef }
      founder batchId, []⟩]

/-- A course graded by the built-in rule, and another by the rule set. -/
def mixedRun : List BatchEvent :=
  courseUpload "60000000-0000-4000-8000-000000000001" "70000000-0000-4000-8000-000000000001"
      "MTH 101" [] ::
    approveAndPublish "60000000-0000-4000-8000-000000000001"
      "80000000-0000-4000-8000-000000000001" ++
    courseUpload "60000000-0000-4000-8000-000000000002" "70000000-0000-4000-8000-000000000002"
      "PHY 101" [("gradingRuleSetId", .str ruleSetId)] ::
    approveAndPublish "60000000-0000-4000-8000-000000000002"
      "80000000-0000-4000-8000-000000000002"

def student : Uuid := "30000000-0000-4000-8000-000000000001"

instance (plans : List IngestPlan) (enrolmentId : Uuid) : Decidable (Tertiary plans enrolmentId) :=
  inferInstanceAs (Decidable (∀ plan ∈ plans,
    rowsOf plan enrolmentId ≠ [] → plan.gradingRule.engine = .tertiaryGpa))

end AcadID.Accounting
