/-
**One published record for each result of a student.**

Any number of calls of the operations on result batches in flight together. A result is what an
enrolment obtained in one subject of one period of one session.

* `Unrepeated` — no two published records that nothing supersedes are of one result, so that no
  standing counts a result twice.
* `single_publish` — **a publication keeps it exactly when the results of its batch are new**:
  different from each other and from those already published.
* `unrepeated_iff` — **it holds throughout a run exactly when every publication that goes through
  publishes new results**: nothing in the workflow looks for a result already there.
* `unrepeated_fails` — a sheet uploaded and published a second time counts twice.
-/

import AcadID.Gateway.Publication
import AcadID.Gateway.Rollup

namespace AcadID.Duplicates

open Lib Governance Ingestion BatchHistory Standing

/-! ### Results -/

/-- The result a record is of. -/
def resultKey (r : AcademicRecord) : Uuid × Option Uuid × String × String :=
  (r.enrolmentId, r.academicSessionId, r.periodLabel, r.subjectCode)

/-- Another record supersedes this one. -/
def superseded (s : Store) (r : AcademicRecord) : Bool :=
  s.academicRecords.rows.any (·.supersedesId == some r.uuid)

/-- A published record that nothing supersedes. -/
def inForce (s : Store) (r : AcademicRecord) : Bool :=
  r.status == .published && !superseded s r

/-- At most one published record of each result is not superseded. -/
def Single (s : Store) : Prop :=
  ∀ r ∈ s.academicRecords.rows, ∀ r' ∈ s.academicRecords.rows,
    inForce s r = true → inForce s r' = true → resultKey r = resultKey r' → r.uuid = r'.uuid

/-- No standing counts a result twice. -/
def CountedOnce (s : Store) : Prop :=
  ∀ id, ((countedRecords s id).map resultKey).Nodup

/-- **Each result is published once, and counted once.** -/
structure Unrepeated (s : Store) : Prop where
  single : Single s
  counted : CountedOnce s

/-- No record supersedes another: none of the operations writes that it does. -/
def Original (s : Store) : Prop :=
  ∀ r ∈ s.academicRecords.rows, r.supersedesId = none

/-- The results of a batch are different from each other and from those already published. -/
def NewResults (s : Store) (batchId : Uuid) : Prop :=
  ∀ r ∈ s.academicRecords.rows, r.resultBatchId = some batchId →
    ∀ r' ∈ s.academicRecords.rows, r'.resultBatchId = some batchId ∨ r'.status = .published →
      resultKey r = resultKey r' → r.uuid = r'.uuid

/-- Every publication that goes through publishes new results. -/
def PublishesNew (rt : Runtime) (p : Publication.BatchPool) (e : Turn BatchCall) : Prop :=
  ∀ plan res t, (batchMethods rt).committing p e = some (.publish plan, res, t) →
    NewResults p.store plan.batch.uuid

instance (s : Store) : Decidable (Single s) :=
  inferInstanceAs (Decidable (∀ r ∈ s.academicRecords.rows, ∀ r' ∈ s.academicRecords.rows,
    inForce s r = true → inForce s r' = true → resultKey r = resultKey r' → r.uuid = r'.uuid))

/-! ### What a commit does -/

theorem inForce_of_original {s : Store} (original : Original s) (r : AcademicRecord) :
    inForce s r = (r.status == .published) := by
  have none : superseded s r = false := by
    refine List.any_eq_false.mpr fun r' inside supersedes => ?_
    rw [original r' inside] at supersedes
    exact absurd supersedes (by simp)
  unfold inForce
  rw [none, Bool.not_false, Bool.and_true]

/-- **What is published once is counted once.** -/
theorem countedOnce_of_single {s : Store} (original : Original s) (single : Single s) :
    CountedOnce s := by
  intro id
  have counted : ∀ r ∈ countedRecords s id, r ∈ s.academicRecords.rows ∧ inForce s r = true := by
    intro r inside
    have kept := (List.perm_insertionSort _ _).mem_iff.mp inside
    obtain ⟨row, counts⟩ := List.mem_filter.mp kept
    rw [inForce_of_original original]
    simp only [Bool.and_eq_true] at counts
    exact ⟨row, counts.1.1.2⟩
  have nodup : (countedRecords s id).Nodup := by
    refine ((List.perm_insertionSort _ _).nodup_iff).mpr ?_
    exact (List.Nodup.of_map _ s.academicRecords.nodup).filter _
  refine nodup.map_on fun r inside r' inside' same => ?_
  obtain ⟨row, live⟩ := counted r inside
  obtain ⟨row', live'⟩ := counted r' inside'
  exact Table.eq_of_key_eq row row' (single r row r' row' live live' same)

/-- A publication changes neither the result of a record nor what it supersedes. -/
theorem publishing_keeps (batchId : Uuid) (publishedAt : Time) (r : AcademicRecord) :
    resultKey (publishing batchId publishedAt r) = resultKey r ∧
      (publishing batchId publishedAt r).uuid = r.uuid ∧
        (publishing batchId publishedAt r).supersedesId = r.supersedesId := by
  unfold publishing
  split <;> exact ⟨rfl, rfl, rfl⟩

theorem status_publishing (batchId : Uuid) (publishedAt : Time) (r : AcademicRecord) :
    (publishing batchId publishedAt r).status = .published ↔
      r.resultBatchId = some batchId ∨ r.status = .published := by
  unfold publishing
  by_cases inside : r.resultBatchId == some batchId
  · rw [if_pos inside]
    exact ⟨fun _ => .inl (by simpa using inside), fun _ => rfl⟩
  · rw [if_neg inside]
    exact ⟨.inr, fun either => either.resolve_left (by simpa using inside)⟩

theorem original_publish {plan : PublishPlan} {s t : Store} (publishes : Publishes plan s t)
    (original : Original s) : Original t := by
  intro r inside
  rw [publishes.records] at inside
  obtain ⟨old, row, rfl⟩ := List.mem_map.mp inside
  rw [(publishing_keeps _ _ old).2.2]
  exact original old row

/-- **A publication keeps each result published once, exactly when those of its batch are new.** -/
theorem single_publish {plan : PublishPlan} {s t : Store} (publishes : Publishes plan s t)
    (original : Original s) (single : Single s) :
    Single t ↔ NewResults s plan.batch.uuid := by
  have after : ∀ r, inForce t (publishing plan.batch.uuid plan.env.committedAt r) = true ↔
      r.resultBatchId = some plan.batch.uuid ∨ r.status = .published := by
    intro r
    rw [inForce_of_original (original_publish publishes original), beq_iff_eq, status_publishing]
  have rows : ∀ r, r ∈ t.academicRecords.rows ↔ ∃ old ∈ s.academicRecords.rows,
      publishing plan.batch.uuid plan.env.committedAt old = r := by
    intro r
    rw [publishes.records, List.mem_map]
  constructor
  · intro one r inside member r' inside' shown same
    have distinct := one _ ((rows _).mpr ⟨r, inside, rfl⟩) _ ((rows _).mpr ⟨r', inside', rfl⟩)
      ((after r).mpr (.inl member)) ((after r').mpr shown)
    rw [(publishing_keeps _ _ r).1, (publishing_keeps _ _ r').1, (publishing_keeps _ _ r).2.1,
      (publishing_keeps _ _ r').2.1] at distinct
    exact distinct same
  · intro new x insideX y insideY liveX liveY same
    obtain ⟨r, inside, rfl⟩ := (rows x).mp insideX
    obtain ⟨r', inside', rfl⟩ := (rows y).mp insideY
    rw [(publishing_keeps _ _ r).1, (publishing_keeps _ _ r').1] at same
    rw [(publishing_keeps _ _ r).2.1, (publishing_keeps _ _ r').2.1]
    rcases (after r).mp liveX with member | old
    · exact new r inside member r' inside' ((after r').mp liveY) same
    · rcases (after r').mp liveY with member' | old'
      · exact (new r' inside' member' r inside (.inr old) same.symm).symm
      · refine single r inside r' inside' ?_ ?_ same
        · rw [inForce_of_original original, old]
          rfl
        · rw [inForce_of_original original, old']
          rfl

/-- **The plans other than a publication** publish nothing: the new records are drafts. -/
theorem drafts_of_other {plan : BatchPlan} {s t : Store} {res : BatchResponse}
    (committed : batchCommit plan s = .ok (res, t)) (other : ∀ p, plan ≠ .publish p) :
    ∃ new, t.academicRecords.rows = s.academicRecords.rows ++ new ∧
      ∀ r ∈ new, r.status = .draft ∧ r.supersedesId = none := by
  cases plan with
  | ingest p =>
    obtain ⟨⟨batch, s'⟩, ingested, same⟩ := bind_eq_ok.mp committed
    rw [pure_eq_ok] at same
    obtain ⟨-, rfl⟩ := Prod.mk.inj same
    obtain ⟨-, -, batches, records, -, ⟨new, rows, origin⟩, rfl⟩ := ingestCommit_spec ingested
    exact ⟨new, rows, fun r inside => (origin r inside).2⟩
  | transition now auth batchId status =>
    obtain ⟨⟨batch, s'⟩, moved, same⟩ := bind_eq_ok.mp committed
    rw [pure_eq_ok] at same
    obtain ⟨-, rfl⟩ := Prod.mk.inj same
    obtain ⟨old, -, rfl⟩ := transitionCommit_spec moved
    exact ⟨[], (List.append_nil _).symm, by simp⟩
  | publish p => exact absurd rfl (other p)
  | reject auth batchId reason =>
    obtain ⟨⟨batch, s'⟩, rejected, same⟩ := bind_eq_ok.mp committed
    rw [pure_eq_ok] at same
    obtain ⟨-, rfl⟩ := Prod.mk.inj same
    obtain ⟨old, -, rfl⟩ := rejectCommit_spec rejected
    exact ⟨[], (List.append_nil _).symm, by simp⟩

/-- The invariant of the store. -/
structure OnceInv (s : Store) : Prop where
  original : Original s
  single : Single s

theorem OnceInv.unrepeated {s : Store} (inv : OnceInv s) : Unrepeated s :=
  ⟨inv.single, countedOnce_of_single inv.original inv.single⟩

theorem onceInv_congr {s t : Store} (records : t.academicRecords = s.academicRecords)
    (inv : OnceInv s) : OnceInv t := by
  refine ⟨fun r inside => inv.original r (records ▸ inside), ?_⟩
  unfold Single inForce superseded
  rw [records]
  exact inv.single

/-- Drafts that supersede nothing keep the invariant. -/
theorem onceInv_append {s t : Store} {new : List AcademicRecord}
    (rows : t.academicRecords.rows = s.academicRecords.rows ++ new)
    (drafts : ∀ r ∈ new, r.status = .draft ∧ r.supersedesId = none) (inv : OnceInv s) :
    OnceInv t := by
  have original : Original t := by
    intro r inside
    rw [rows] at inside
    exact (List.mem_append.mp inside).elim (inv.original r) fun isNew => (drafts r isNew).2
  have old : ∀ r ∈ t.academicRecords.rows, inForce t r = true →
      r ∈ s.academicRecords.rows ∧ inForce s r = true := by
    intro r inside live
    rw [inForce_of_original original, beq_iff_eq] at live
    rw [rows] at inside
    rcases List.mem_append.mp inside with before | isNew
    · rw [inForce_of_original inv.original, beq_iff_eq]
      exact ⟨before, live⟩
    · rw [(drafts r isNew).1] at live
      exact absurd live (by decide)
  refine ⟨original, fun r inside r' inside' live live' same => ?_⟩
  obtain ⟨row, lives⟩ := old r inside live
  obtain ⟨row', lives'⟩ := old r' inside' live'
  exact inv.single r row r' row' lives lives' same

/-! ### Turns -/

/-- What a publication that goes through in a pool does to the store it finds. -/
theorem publishes_of_committing {rt : Runtime} {p : Publication.BatchPool} {e : Turn BatchCall}
    {plan : PublishPlan} {res : BatchResponse} {t : Store}
    (goes : (batchMethods rt).committing p e = some (.publish plan, res, t)) :
    Publishes plan p.store ((batchMethods rt).turn p e).store := by
  obtain ⟨⟨batch, t'⟩, commits, same⟩ := bind_eq_ok.mp (Method.committing_spec goes).2
  rw [pure_eq_ok] at same
  obtain ⟨-, rfl⟩ := Prod.mk.inj same
  rw [(Method.turn_of_committing goes).1]
  exact publishCommit_publishes commits

/-- **One turn** keeps the invariant when a publication in it publishes new results. -/
theorem onceInv_turn {rt : Runtime} {p : Publication.BatchPool} {e : Turn BatchCall}
    (inv : OnceInv p.store) (new : PublishesNew rt p e) :
    OnceInv ((batchMethods rt).turn p e).store := by
  cases goes : (batchMethods rt).committing p e with
  | none =>
    rcases Method.turn_of_not_committing goes with ⟨same, -⟩ | ⟨plan, res, same, -⟩
    · rw [same]
      exact inv
    · rw [same]
      exact onceInv_congr (by cases plan <;> rfl) inv
  | some went =>
    obtain ⟨plan, res, t⟩ := went
    by_cases publication : ∃ p', plan = .publish p'
    · obtain ⟨p', rfl⟩ := publication
      have publishes := publishes_of_committing goes
      exact ⟨original_publish publishes inv.original,
        (single_publish publishes inv.original inv.single).mpr (new p' res t goes)⟩
    · obtain ⟨added, rows, drafts⟩ := drafts_of_other (Method.committing_spec goes).2
        fun p' same => publication ⟨p', same⟩
      rw [(Method.turn_of_committing goes).1]
      exact onceInv_append rows drafts inv

/-- **A publication of a result already there** publishes it twice. -/
theorem not_unrepeated_of_not_new {rt : Runtime} {p : Publication.BatchPool} {e : Turn BatchCall}
    (inv : OnceInv p.store) (repeats : ¬ PublishesNew rt p e) :
    ¬ Unrepeated ((batchMethods rt).turn p e).store := by
  unfold PublishesNew at repeats
  push Not at repeats
  obtain ⟨plan, res, t, goes, again⟩ := repeats
  intro unrepeated
  exact again ((single_publish (publishes_of_committing goes) inv.original inv.single).mp
    unrepeated.single)

/-- **The exact condition.** From a store whose records supersede nothing and are of different
results once published, each result stays published once, and counted once, in every state of a
run exactly when every publication that goes through publishes new results. -/
theorem unrepeated_iff (rt : Runtime) (s : Store) (events : List (Turn BatchCall))
    (original : Original s) (single : Single s) :
    Throughout (batchMethods rt).turn (fun p => Unrepeated p.store) ⟨s, []⟩ events ↔
      Along (batchMethods rt).turn (PublishesNew rt) ⟨s, []⟩ events := by
  have keeps : ∀ p e, OnceInv p.store → PublishesNew rt p e →
      OnceInv ((batchMethods rt).turn p e).store := fun _ _ => onceInv_turn
  have implies : ∀ p : Publication.BatchPool, OnceInv p.store → Unrepeated p.store :=
    fun _ inv => inv.unrepeated
  have escapes : ∀ p e, OnceInv p.store → ¬ PublishesNew rt p e →
      ¬ Unrepeated ((batchMethods rt).turn p e).store := fun _ _ => not_unrepeated_of_not_new
  exact throughout_iff_of_exact keeps implies escapes ⟨original, single⟩ events

/-! ### A sheet uploaded twice -/

instance (s : Store) (batchId : Uuid) : Decidable (NewResults s batchId) :=
  inferInstanceAs (Decidable (∀ r ∈ s.academicRecords.rows, r.resultBatchId = some batchId →
    ∀ r' ∈ s.academicRecords.rows, r'.resultBatchId = some batchId ∨ r'.status = .published →
      resultKey r = resultKey r' → r.uuid = r'.uuid))

instance (rt : Runtime) (p : Publication.BatchPool) (e : Turn BatchCall) :
    Decidable (PublishesNew rt p e) :=
  match goes : (batchMethods rt).committing p e with
  | some (.publish plan, _, _) =>
    decidable_of_iff (NewResults p.store plan.batch.uuid) (by unfold PublishesNew; rw [goes]; simp)
  | none | some (.ingest _, _, _) | some (.transition _ _ _ _, _, _) | some (.reject _ _ _, _, _) =>
    isTrue fun _ _ _ some => by rw [goes] at some; exact absurd some (by simp)

/-- The calls of a run up to the first publication. -/
def firstSheet : List (Turn BatchCall) :=
  Publication.approvalTurns ++ [.begin publish.call, .advance 2 .done]

/-- The sheet of the first upload, under ids of its own. -/
def uploadAgain : BatchCall :=
  .ingestResults
    { pick := 0
      checkedAt := 6
      committedAt := 7
      batchUuid := "60000000-0000-4000-8000-000000000002"
      recordUuid := fun _ => "70000000-0000-4000-8000-000000000002" }
    founder
    (.obj [("institutionId", .str "ACD-0001"),
      ("createdById", .str "50000000-0000-4000-8000-000000000001"),
      ("title", .str "First term"),
      ("rows", .arr [.obj [("studentNumber", .str "S-1"), ("periodType", .str "TERM"),
        ("periodLabel", .str "First term"), ("subjectCode", .str "MTH"),
        ("subjectName", .str "Mathematics"), ("totalScore", .num 75)]])])

/-- The second upload, approved and published as well. -/
def secondSheet : List (Turn BatchCall) :=
  [.begin uploadAgain, .advance 3 .done,
    .begin (.transitionBatch 8 founder "60000000-0000-4000-8000-000000000002" .approved),
    .advance 4 .done,
    .begin (.publishBatch
      { pick := 0
        checkedAt := 9
        committedAt := 10
        credentialRef := fun _ => "80000000-0000-4000-8000-000000000002"
        credentialUuid := fun _ => "90000000-0000-4000-8000-000000000002" }
      founder "60000000-0000-4000-8000-000000000002"),
    .advance 5 .done]

/-- One sheet, uploaded and published once. -/
theorem unrepeated_iff_once :
    Throughout (batchMethods .plain).turn (fun p => Unrepeated p.store) ⟨school, []⟩ firstSheet :=
  (unrepeated_iff .plain school firstSheet (by unfold Original; decide) (by decide)).mpr
    (by decide +kernel)

/-- **A result can be published twice**: nothing looks for the sheet that was published before. -/
theorem unrepeated_fails :
    ¬ ∀ (rt : Runtime) (s : Store) (events : List (Turn BatchCall)), Original s → Single s →
      Throughout (batchMethods rt).turn (fun p => Unrepeated p.store) ⟨s, []⟩ events := by
  intro all
  have twice := all .plain school (firstSheet ++ secondSheet) (by unfold Original; decide)
    (by decide)
  have last := throughout_iff_prefixes.mp twice _ [] (List.append_nil _).symm
  exact absurd last.single (by decide)

end AcadID.Duplicates
