/-
**The order in which batches are published does not matter to a standing.**

* `publishStep_spec` — a publication that goes through is its check and its transaction on the
  store it finds.
* `Published` — what a run of publications makes of the store: the records of the batches published,
  and the standings of their enrolments computed from the records of the store.
* `standings_of_perm` — **two orders of publishing the same batches, each of which goes through,
  leave every enrolment with the same standing**, but for its latest period and its time.
-/

import AcadID.Gateway.Rollup
import AcadID.Gateway.BatchHistory

namespace AcadID.PublicationOrder

open Lib Governance Standing BatchHistory

/-! ### Publications one after the other -/

/-- One call of `publishBatch`, with the outcomes of its calls to the database. -/
structure Publication where
  env : PublishEnv
  auth : AuthTokenPayload
  batchId : Uuid
  script : List Outcome

def Publication.event (p : Publication) : BatchEvent :=
  ⟨.publishBatch p.env p.auth p.batchId, p.script⟩

/-- The store a publication leaves. -/
def publishStep (rt : Runtime) (s : Store) (p : Publication) : Store :=
  batchStep rt s p.event

/-- The transaction of the publication goes through. -/
def GoesThrough (rt : Runtime) (s : Store) (p : Publication) : Prop :=
  ((batchMethods rt).committed p.event.call p.event.script s).isSome

instance (rt : Runtime) (s : Store) (p : Publication) : Decidable (GoesThrough rt s p) :=
  inferInstanceAs (Decidable (_ = true))

/-- **A publication that goes through** is its check and its transaction on the store it finds;
whether the log entry follows does not matter. -/
theorem publishStep_spec {rt : Runtime} {s : Store} {p : Publication}
    (goes : GoesThrough rt s p) :
    ∃ plan, publishCheck rt p.env p.auth p.batchId s = .ok plan ∧
      Publishes plan s (publishStep rt s p) := by
  obtain ⟨⟨plan, res, t⟩, went⟩ := Option.isSome_iff_exists.mp goes
  obtain ⟨checked, committed⟩ := Method.committed_spec went
  obtain ⟨plan', read, is⟩ := bind_eq_ok.mp checked
  rw [pure_eq_ok] at is
  subst is
  obtain ⟨⟨batch, t'⟩, wrote, same⟩ := bind_eq_ok.mp committed
  rw [pure_eq_ok] at same
  obtain ⟨-, rfl⟩ := Prod.mk.inj same
  obtain ⟨enrolments, rules, records, standings, others⟩ := publishCommit_publishes wrote
  obtain ⟨events, left⟩ := batchStep_of_committed went
  refine ⟨plan', read, ?_⟩
  rw [show publishStep rt s p = _ from left]
  exact ⟨enrolments, rules, records, standings, others⟩

/-! ### What the publications make of the store -/

/-- The batch is one of those published. -/
def among (batchIds : List Uuid) (batchId : Uuid) : Bool :=
  decide (batchId ∈ batchIds)

/-- An enrolment has a record in one of the batches. -/
def Touched (s : Store) (batchIds : List Uuid) (id : Uuid) : Prop :=
  ∃ r ∈ s.academicRecords.rows, r.enrolmentId = id ∧ r.resultBatchId.any (among batchIds) = true

/-- **The store after the publication of some batches**, from the store before all of them. -/
structure Published (s₀ : Store) (batchIds : List Uuid) (s : Store) : Prop where
  enrolments : s.enrolments = s₀.enrolments
  rules : s.gradingRuleSets = s₀.gradingRuleSets
  records : s.academicRecords.rows.map undated = s₀.academicRecords.rows.map (stamped (among batchIds))
  touched : ∀ id, Touched s₀ batchIds id → Current s id
  untouched : ∀ id, ¬ Touched s₀ batchIds id →
    s.academicStandings.find? id = s₀.academicStandings.find? id

theorem any_among_nil (batchId : Option Uuid) : batchId.any (among []) = false := by
  cases batchId <;> rfl

theorem published_nil (s : Store) : Published s [] s := by
  refine ⟨rfl, rfl, List.map_congr_left fun r _ => ?_, ?_, fun _ _ => rfl⟩
  · unfold stamped
    rw [any_among_nil]
    rfl
  · rintro id ⟨r, -, -, inside⟩
    rw [any_among_nil] at inside
    exact absurd inside (by simp)

theorem among_append (batchIds : List Uuid) (batchId : Uuid) :
    among (batchIds ++ [batchId]) = fun id => decide (batchId = id) || among batchIds id := by
  funext id
  unfold among
  rw [Bool.eq_iff_iff, Bool.or_eq_true, decide_eq_true_eq, decide_eq_true_eq, decide_eq_true_eq,
    List.mem_append, List.mem_singleton, or_comm, eq_comm]

/-- The records keep their enrolment and their batch. -/
theorem Published.owners {s₀ s : Store} {batchIds : List Uuid} (published : Published s₀ batchIds s) :
    s.academicRecords.rows.map (fun r => (r.enrolmentId, r.resultBatchId)) =
      s₀.academicRecords.rows.map fun r => (r.enrolmentId, r.resultBatchId) := by
  have same := congrArg (List.map fun r => (r.enrolmentId, r.resultBatchId)) published.records
  rw [List.map_map, List.map_map] at same
  have kept : ((fun r : AcademicRecord => (r.enrolmentId, r.resultBatchId)) ∘
      stamped (among batchIds)) = fun r => (r.enrolmentId, r.resultBatchId) := by
    funext r
    unfold stamped
    rw [Function.comp_apply]
    split <;> rfl
  rw [kept] at same
  exact same

/-- An enrolment has a record in the batch when it had one before all publications. -/
theorem Published.inBatch {s₀ s : Store} {batchIds : List Uuid}
    (published : Published s₀ batchIds s) (batchId id : Uuid) :
    (∃ r ∈ academicRecords s batchId, r.enrolmentId = id) ↔
      ∃ r ∈ s₀.academicRecords.rows, r.enrolmentId = id ∧ r.resultBatchId = some batchId := by
  have through : ∀ u : Store, (id, some batchId) ∈
      u.academicRecords.rows.map (fun r => (r.enrolmentId, r.resultBatchId)) ↔
        ∃ r ∈ u.academicRecords.rows, r.enrolmentId = id ∧ r.resultBatchId = some batchId := by
    intro u
    rw [List.mem_map]
    simp only [Prod.mk.injEq]
  rw [← through s₀, ← published.owners, through s]
  unfold academicRecords
  simp only [List.mem_filter, beq_iff_eq]
  constructor
  · rintro ⟨r, ⟨inside, refers⟩, owner⟩
    exact ⟨r, inside, owner, refers⟩
  · rintro ⟨r, inside, owner, refers⟩
    exact ⟨r, ⟨inside, refers⟩, owner⟩

/-! ### One publication -/

theorem touched_append {s : Store} {batchIds : List Uuid} {batchId id : Uuid} :
    Touched s (batchIds ++ [batchId]) id ↔ Touched s batchIds id ∨
      ∃ r ∈ s.academicRecords.rows, r.enrolmentId = id ∧ r.resultBatchId = some batchId := by
  have member : ∀ r : AcademicRecord, r.resultBatchId.any (among (batchIds ++ [batchId])) = true ↔
      r.resultBatchId.any (among batchIds) = true ∨ r.resultBatchId = some batchId := by
    intro r
    rw [among_append]
    cases r.resultBatchId with
    | none => simp
    | some id =>
      rw [Option.any_some, Option.any_some, Bool.or_eq_true, decide_eq_true_eq, or_comm,
        Option.some.injEq, @eq_comm _ batchId]
  unfold Touched
  simp only [member]
  constructor
  · rintro ⟨r, inside, owner, old | new⟩
    · exact .inl ⟨r, inside, owner, old⟩
    · exact .inr ⟨r, inside, owner, new⟩
  · rintro (⟨r, inside, owner, old⟩ | ⟨r, inside, owner, new⟩)
    · exact ⟨r, inside, owner, .inl old⟩
    · exact ⟨r, inside, owner, .inr new⟩

/-- **A publication that goes through** adds its batch to those published. -/
theorem published_step {rt : Runtime} {s₀ s : Store} {batchIds : List Uuid} {p : Publication}
    (before : Published s₀ batchIds s) (goes : GoesThrough rt s p) :
    Published s₀ (batchIds ++ [p.batchId]) (publishStep rt s p) := by
  obtain ⟨plan, checked, publishes⟩ := publishStep_spec goes
  obtain ⟨read, owners⟩ := publishCheck_records checked
  have records := publishes.records
  rw [(publishCheck_spec checked).2.1] at records
  have listed : ∀ id, id ∈ plan.records.map (·.1.enrolmentId) ↔
      ∃ r ∈ s₀.academicRecords.rows, r.enrolmentId = id ∧ r.resultBatchId = some p.batchId := by
    intro id
    have through : plan.records.map (·.1.enrolmentId) =
        (academicRecords s p.batchId).map (·.enrolmentId) := by
      rw [← read, List.map_map]
      rfl
    rw [through, List.mem_map]
    exact before.inBatch p.batchId id
  refine ⟨publishes.enrolments.trans before.enrolments, publishes.rules.trans before.rules, ?_,
    fun id touched => ?_, fun id untouched => ?_⟩
  · -- the rows, without their dates
    rw [records, among_append]
    exact map_undated_publishing before.records
  · by_cases here : ∃ r ∈ s₀.academicRecords.rows,
      r.enrolmentId = id ∧ r.resultBatchId = some p.batchId
    · -- recomputed by this publication
      obtain ⟨r, inside, owner⟩ := (before.inBatch p.batchId id).mpr here
      obtain ⟨enrolment, found⟩ := owners r inside
      rw [owner] at found
      exact current_of_inside publishes found ((listed id).mpr here)
    · -- recomputed before, from the same records
      refine current_of_outside publishes (fun inside => here ((listed id).mp inside))
        (fun r inside owner refers => here ?_)
        (before.touched id ((touched_append.mp touched).resolve_right here))
      rw [(publishCheck_spec checked).2.1] at refers
      exact (before.inBatch p.batchId id).mp
        ⟨r, List.mem_filter.mpr ⟨inside, by rw [refers]; exact beq_self_eq_true _⟩, owner⟩
  · have outside := fun inside => untouched (touched_append.mpr (.inr inside))
    have earlier := before.untouched id fun old => untouched (touched_append.mpr (.inl old))
    rw [← earlier]
    cases found : s.enrolments.find? id with
    | none => exact publishes.others id found
    | some enrolment =>
      rw [publishes.standings id enrolment found,
        if_neg fun inside => outside ((listed id).mp inside)]

/-! ### A run of publications -/

theorem published_runs {rt : Runtime} {s₀ s : Store} {batchIds : List Uuid} {ps : List Publication}
    (before : Published s₀ batchIds s) (all : Along (publishStep rt) (GoesThrough rt) s ps) :
    Published s₀ (batchIds ++ ps.map (·.batchId)) (runs (publishStep rt) s ps) := by
  induction ps generalizing s batchIds with
  | nil =>
    rw [List.map_nil, List.append_nil]
    exact before
  | cons p ps ih =>
    have rest := ih (published_step before all.1) all.2
    rw [List.append_assoc] at rest
    exact rest

/-- The batches matter as a set. -/
theorem among_perm {left right : List Uuid} (perm : left.Perm right) :
    among left = among right := by
  funext id
  unfold among
  simp only [perm.mem_iff]

/-- **The order of publication does not matter.** Two orders of publishing the same batches, one
after the other and each going through, leave every enrolment with the same standing, but for its
latest period and its time. -/
theorem standings_of_perm (rt : Runtime) (s : Store) (ps qs : List Publication)
    (same : (ps.map (·.batchId)).Perm (qs.map (·.batchId)))
    (first : Along (publishStep rt) (GoesThrough rt) s ps)
    (second : Along (publishStep rt) (GoesThrough rt) s qs) (enrolmentId : Uuid) :
    ((runs (publishStep rt) s ps).academicStandings.find? enrolmentId).map core =
      ((runs (publishStep rt) s qs).academicStandings.find? enrolmentId).map core := by
  have left := published_runs (published_nil s) first
  have right := published_runs (published_nil s) second
  rw [List.nil_append] at left right
  have touchedAlike : Touched s (ps.map (·.batchId)) enrolmentId ↔
      Touched s (qs.map (·.batchId)) enrolmentId := by
    unfold Touched
    rw [among_perm same]
  by_cases touched : Touched s (ps.map (·.batchId)) enrolmentId
  · obtain ⟨enrolment, standing, found, stored, is⟩ := left.touched _ touched
    obtain ⟨enrolment', standing', found', stored', is'⟩ :=
      right.touched _ (touchedAlike.mp touched)
    rw [left.enrolments] at found
    rw [right.enrolments, found] at found'
    obtain rfl := Option.some.inj found'
    rw [stored, stored', Option.map_some, Option.map_some, core_of_timeless (is 0),
      core_of_timeless (is' 0)]
    refine congrArg some (core_standingOf (right.rules.trans left.rules.symm) ?_ 0 0)
    exact countedRecords_alike (by rw [left.records, right.records, among_perm same]) _
  · rw [left.untouched _ touched, right.untouched _ fun there => touched (touchedAlike.mpr there)]

/-! ### Two batches of one student -/

def firstBatch : Uuid := "60000000-0000-4000-8000-000000000001"

def secondBatch : Uuid := "60000000-0000-4000-8000-000000000002"

/-- An approved batch of the school. -/
def approvedBatch (uuid : Uuid) : ResultBatch where
  uuid := uuid
  institutionId := "10000000-0000-4000-8000-000000000001"
  academicSessionId := none
  structureScopeId := none
  gradingRuleSetId := none
  uploadMode := .courseBased
  title := "First semester"
  batchLabel := none
  status := .approved
  rejectionCount := 0
  createdById := founder.sub
  createdByInstitutionUserId := none
  recordCount := 1
  validationSummary := .obj []
  submittedAt := some 1
  reviewedAt := some 2
  approvedAt := some 3
  publishedAt := none

/-- A result of the student of the school: three credit units. -/
def resultOf (uuid batchId : Uuid) (subjectCode grade : String) (gradePoint : ℚ) :
    AcademicRecord where
  uuid := uuid
  enrolmentId := "30000000-0000-4000-8000-000000000001"
  resultBatchId := some batchId
  academicSessionId := none
  structureScopeId := none
  gradingRuleSetId := none
  periodType := .semester
  periodLabel := "First semester"
  subjectCode := subjectCode
  subjectName := subjectCode
  caScore := none
  examScore := none
  totalScore := 60
  grade := grade
  gradePoint := some gradePoint
  creditUnits := some 3
  qualityPoints := some (3 * gradePoint)
  status := .draft
  publishedAt := none
  supersedesId := none
  createdAt := 0

/-- The school with two approved batches, each with a result of its student. -/
def twoBatches : Store :=
  { school with
    resultBatches :=
      { rows := [approvedBatch firstBatch, approvedBatch secondBatch]
        nodup := by decide }
    academicRecords :=
      { rows :=
          [resultOf "70000000-0000-4000-8000-000000000001" firstBatch "MTH 101" "B" 4,
            resultOf "70000000-0000-4000-8000-000000000002" secondBatch "PHY 101" "C" 3]
        nodup := by decide } }

/-- The publication of a batch, with a credential for its record. -/
def publicationOf (batchId credentialRef : Uuid) (committedAt : Time) : Publication where
  env :=
    { pick := 0
      checkedAt := committedAt - 1
      committedAt := committedAt
      credentialRef := fun _ => credentialRef
      credentialUuid := fun _ => credentialRef }
  auth := founder
  batchId := batchId
  script := []

def publishFirst : Publication :=
  publicationOf firstBatch "80000000-0000-4000-8000-000000000001" 5

def publishSecond : Publication :=
  publicationOf secondBatch "80000000-0000-4000-8000-000000000002" 7

/-- The two batches published in either order. -/
theorem standings_of_perm_swapped :
    ((runs (publishStep .plain) twoBatches [publishFirst, publishSecond]).academicStandings.find?
        "30000000-0000-4000-8000-000000000001").map core =
      ((runs (publishStep .plain) twoBatches [publishSecond, publishFirst]).academicStandings.find?
        "30000000-0000-4000-8000-000000000001").map core :=
  standings_of_perm .plain twoBatches [publishFirst, publishSecond] [publishSecond, publishFirst]
    (List.Perm.swap _ _ _) (by decide) (by decide) _

example :
    ((runs (publishStep .plain) twoBatches [publishSecond, publishFirst]).academicStandings.find?
      "30000000-0000-4000-8000-000000000001").map (fun standing =>
        (standing.attemptedCreditUnits, standing.cgpa)) = some (6, some (7 / 2)) := by
  decide +kernel

end AcadID.PublicationOrder
