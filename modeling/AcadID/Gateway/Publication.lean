/-
**One result slip for each record of a published batch.**

Any number of calls of the four operations on result batches in flight together: a publication
reads, checks and signs at one moment, and commits at another.

* `SlipsExact` — every record of a batch that was ever published has one result slip, every other
  record none.
* `publish_slips` — **what a publication does to the slips**: one more for each record of the
  batch, and none for any other.
* `slipsExact_iff` — **the property holds throughout a run exactly when no publication goes through
  twice**: every publication that goes through on a batch with records finds the batch without a
  date of publication.
* `slipsExact_fails` — two publications checked before either commits issue two slips.
-/

import AcadID.Gateway.BatchHistory

namespace AcadID.Publication

open Lib Governance Ingestion BatchHistory

/-! ### Pools and what was ever published -/

abbrev BatchPool := Pool Store BatchPlan BatchResponse

/-- The calls in flight, and the batches that were ever in the status `PUBLISHED`. -/
structure Watched where
  pool : BatchPool
  ever : Uuid → Bool

/-- The batch is in the status `PUBLISHED`. -/
def isPublished (s : Store) (id : Uuid) : Bool :=
  (s.resultBatches.find? id).any (·.status == .published)

/-- One turn of the pool, the batches watched. -/
def watchedStep (rt : Runtime) (w : Watched) (e : Turn BatchCall) : Watched where
  pool := (batchMethods rt).turn w.pool e
  ever id := w.ever id || isPublished ((batchMethods rt).turn w.pool e).store id

/-- A result slip of a record. -/
def isSlipOf (recordId : Uuid) (c : Credential) : Bool :=
  c.type == .resultSlip && c.academicRecordId == some recordId

/-- The number of result slips of a record. -/
def slips (s : Store) (recordId : Uuid) : ℕ :=
  s.credentials.rows.countP (isSlipOf recordId)

/-- **One slip for each record of a batch ever published, none for any other.** -/
def SlipsExact (w : Watched) : Prop :=
  ∀ r ∈ w.pool.store.academicRecords.rows,
    slips w.pool.store r.uuid = if r.resultBatchId.any w.ever then 1 else 0

/-- A publication that goes through on a batch with records finds it without a date of
publication. -/
def FirstPublication (rt : Runtime) (w : Watched) (e : Turn BatchCall) : Prop :=
  ∀ p res t, (batchMethods rt).committing w.pool e = some (.publish p, res, t) →
    academicRecords w.pool.store p.batch.uuid = [] ∨
      ∀ b ∈ w.pool.store.resultBatches.rows, b.uuid = p.batch.uuid → b.publishedAt = none

instance (rt : Runtime) (w : Watched) (e : Turn BatchCall) : Decidable (FirstPublication rt w e) :=
  match goes : (batchMethods rt).committing w.pool e with
  | some (.publish p, _, _) =>
    decidable_of_iff (academicRecords w.pool.store p.batch.uuid = [] ∨
        ∀ b ∈ w.pool.store.resultBatches.rows, b.uuid = p.batch.uuid → b.publishedAt = none)
      (by unfold FirstPublication; rw [goes]; simp)
  | none | some (.ingest _, _, _) | some (.transition _ _ _ _, _, _) | some (.reject _ _ _, _, _) =>
    isTrue fun _ _ _ some => by rw [goes] at some; exact absurd some (by simp)

/-! ### The slips after a commit -/

/-- The batch was published at some time. -/
def dated (s : Store) (id : Uuid) : Bool :=
  (s.resultBatches.find? id).any (·.publishedAt.isSome)

/-- The invariant of the store. -/
structure SlipInv (s : Store) : Prop where
  dates : ∀ id b, s.resultBatches.find? id = some b → b.status = .published →
    b.publishedAt.isSome
  counts : ∀ r ∈ s.academicRecords.rows,
    slips s r.uuid = if r.resultBatchId.any (dated s) then 1 else 0
  refer : ∀ c ∈ s.credentials.rows, ∀ id, c.academicRecordId = some id →
    ∃ r ∈ s.academicRecords.rows, r.uuid = id

/-- The invariant of a plan in flight: a publication has signed the records of its batch. -/
def PlanInv (plan : BatchPlan) (s : Store) : Prop :=
  ∀ p, plan = .publish p →
    (∃ b, s.resultBatches.find? p.batch.uuid = some b) ∧
      p.signedCredentials.map (·.record.uuid) =
        (academicRecords s p.batch.uuid).map (·.uuid)

/-- Only the tables of batches, records and credentials matter. -/
theorem slipInv_congr {s t : Store} (batches : t.resultBatches = s.resultBatches)
    (records : t.academicRecords = s.academicRecords) (credentials : t.credentials = s.credentials)
    (inv : SlipInv s) : SlipInv t := by
  refine ⟨by rw [batches]; exact inv.dates, ?_, by rw [records, credentials]; exact inv.refer⟩
  unfold slips dated
  rw [batches, records, credentials]
  exact inv.counts

theorem planInv_congr {plan : BatchPlan} {s t : Store}
    (batches : t.resultBatches = s.resultBatches)
    (records : t.academicRecords = s.academicRecords) (inv : PlanInv plan s) : PlanInv plan t := by
  intro p same
  unfold academicRecords
  rw [batches, records]
  exact inv p same

/-- The credentials of a plan that are slips of a record: one for each time it was signed. -/
theorem countP_recordCredential (plan : PublishPlan) (recordId : Uuid) :
    (plan.signedCredentials.zipIdx.map (recordCredential plan)).countP (isSlipOf recordId) =
      (plan.signedCredentials.map (·.record.uuid)).count recordId := by
  have byRecord : (isSlipOf recordId) ∘ recordCredential plan =
      (fun signed => signed.1.record.uuid == recordId) := by
    funext signed
    show ((CredentialType.resultSlip == .resultSlip) &&
      (some signed.1.record.uuid == some recordId)) = (signed.1.record.uuid == recordId)
    rw [beq_self_eq_true, Bool.true_and]
    rfl
  rw [List.countP_map, byRecord, List.count, List.countP_map]
  calc plan.signedCredentials.zipIdx.countP (fun signed => signed.1.record.uuid == recordId)
      = (plan.signedCredentials.zipIdx.map Prod.fst).countP
          (fun signed => signed.record.uuid == recordId) := by
        rw [List.countP_map]
        rfl
    _ = plan.signedCredentials.countP (fun signed => signed.record.uuid == recordId) := by
        rw [List.zipIdx_map_fst]

/-- The ids of the records of a batch are different, and they are those of the rows that refer to
the batch. -/
theorem count_academicRecords {s : Store} {id : Uuid} {r : AcademicRecord}
    (inside : r ∈ s.academicRecords.rows) :
    ((academicRecords s id).map (·.uuid)).count r.uuid =
      if r.resultBatchId = some id then 1 else 0 := by
  have nodup : ((academicRecords s id).map (·.uuid)).Nodup :=
    s.academicRecords.nodup.sublist (List.filter_sublist.map _)
  by_cases member : r.resultBatchId = some id
  · rw [if_pos member]
    refine List.count_eq_one_of_mem nodup (List.mem_map_of_mem ?_)
    exact List.mem_filter.mpr ⟨inside, by simp [member]⟩
  · rw [if_neg member]
    refine List.count_eq_zero_of_not_mem fun found => ?_
    obtain ⟨other, here, same⟩ := List.mem_map.mp found
    obtain ⟨row, refers⟩ := List.mem_filter.mp here
    rw [Table.eq_of_key_eq row inside same] at refers
    exact member (by simpa using refers)

/-- **What a publication does to the slips**: one more for each record of the batch, and none for
any other. -/
theorem publish_slips {p : PublishPlan} {s t : Store} {batch : ResultBatch}
    (committed : publishCommit p s = .ok (batch, t)) (plans : PlanInv (.publish p) s)
    {r : AcademicRecord} (inside : r ∈ s.academicRecords.rows) :
    slips t r.uuid = slips s r.uuid + if r.resultBatchId = some p.batch.uuid then 1 else 0 := by
  obtain ⟨old, credentials, standings, -, rows, rfl⟩ := publishCommit_spec committed
  show credentials.rows.countP _ = _
  rw [rows, List.countP_append, countP_recordCredential, (plans p rfl).2,
    count_academicRecords inside]
  rfl

/-- A date of publication comes with the status, whatever plan wrote it. -/
theorem dates_after {plan : BatchPlan} {id : Uuid} {before : Option ResultBatch} {b' : ResultBatch}
    (dates : ∀ b, before = some b → b.status = .published → b.publishedAt.isSome)
    (found : after plan id before = some b') (status : b'.status = .published) :
    b'.publishedAt.isSome := by
  cases plan with
  | ingest p =>
    simp only [after] at found
    split at found
    · rw [← Option.some.inj found] at status
      exact absurd status (by simp [newBatch])
    · exact dates b' found status
  | transition now auth batchId next =>
    simp only [after] at found
    split at found
    · obtain ⟨b, -, rfl⟩ := Option.map_eq_some_iff.mp found
      rw [(transitionData_status next now b).1] at status
      cases next <;> exact absurd status (by decide)
    · exact dates b' found status
  | publish p =>
    simp only [after] at found
    split at found
    · obtain ⟨b, -, rfl⟩ := Option.map_eq_some_iff.mp found
      rfl
    · exact dates b' found status
  | reject auth batchId reason =>
    simp only [after] at found
    split at found
    · obtain ⟨b, -, rfl⟩ := Option.map_eq_some_iff.mp found
      exact absurd status (by simp [rejectedBatch])
    · exact dates b' found status

/-- The date of publication of one batch after a plan: set by a publication of it, else kept. -/
theorem any_dated_after {plan : BatchPlan} {id : Uuid} {before : Option ResultBatch}
    (fresh : ∀ p, plan = .ingest p → p.env.batchUuid = id → before = none) :
    (after plan id before).any (·.publishedAt.isSome) =
      (before.any (·.publishedAt.isSome) ||
        ((after plan id before).any (·.publishedAt.isSome) &&
          (after plan id before).any (·.status == .published))) := by
  cases plan with
  | ingest p =>
    simp only [after]
    split
    · rename_i here
      rw [fresh p rfl here]
      rfl
    · cases before.any (·.publishedAt.isSome) <;> simp
  | transition now auth batchId next =>
    simp only [after]
    split
    · cases before with
      | none => rfl
      | some b =>
        have kept : (transitionData next now b).publishedAt = b.publishedAt := by
          cases next <;> rfl
        simp only [Option.map_some, Option.any_some, kept]
        cases b.publishedAt.isSome <;> simp
    · cases before.any (·.publishedAt.isSome) <;> simp
  | publish p =>
    simp only [after]
    split
    · cases before with
      | none => rfl
      | some b => simp [publishedBatch]
    · cases before.any (·.publishedAt.isSome) <;> simp
  | reject auth batchId reason =>
    simp only [after]
    split
    · cases before with
      | none => rfl
      | some b =>
        simp only [Option.map_some, Option.any_some, rejectedBatch]
        cases b.publishedAt.isSome <;> simp
    · cases before.any (·.publishedAt.isSome) <;> simp

/-- **The dates after a commit**: a batch is dated when it was before or is now published. -/
theorem dated_batchCommit {plan : BatchPlan} {s t : Store} {res : BatchResponse}
    (committed : batchCommit plan s = .ok (res, t))
    (dates : ∀ id b, s.resultBatches.find? id = some b → b.status = .published →
      b.publishedAt.isSome) (id : Uuid) :
    dated t id = (dated s id || isPublished t id) := by
  have fresh : ∀ p, plan = .ingest p → p.env.batchUuid = id → s.resultBatches.find? id = none := by
    rintro p rfl rfl
    exact find?_of_ingest committed
  have found := find?_batchCommit committed id
  have shape := any_dated_after fresh
  unfold dated isPublished
  rw [found, shape]
  cases ended : after plan id (s.resultBatches.find? id) with
  | none => simp
  | some b' =>
    have implied := dates_after (dates id) ended
    rw [Option.any_some, Option.any_some]
    cases now : b'.status == .published with
    | false => simp
    | true => simp [implied (by simpa using now)]

/-- The other plans date no batch. -/
theorem dated_of_not_publish {plan : BatchPlan} {s t : Store} {res : BatchResponse}
    (committed : batchCommit plan s = .ok (res, t)) (other : ∀ p, plan ≠ .publish p) (id : Uuid) :
    dated t id = dated s id := by
  have found := find?_batchCommit committed id
  unfold dated
  rw [found]
  cases plan with
  | ingest p =>
    simp only [after]
    split
    · rename_i here
      rw [← here, find?_of_ingest committed]
      rfl
    · rfl
  | transition now auth batchId next =>
    simp only [after]
    split
    · cases s.resultBatches.find? id with
      | none => rfl
      | some b => cases next <;> rfl
    · rfl
  | publish p => exact absurd rfl (other p)
  | reject auth batchId reason =>
    simp only [after]
    split
    · cases s.resultBatches.find? id <;> rfl
    · rfl

/-- A publication dates its batch, and no other. -/
theorem dated_of_publish {p : PublishPlan} {s t : Store} {res : BatchResponse}
    (committed : batchCommit (.publish p) s = .ok (res, t)) (plans : PlanInv (.publish p) s)
    (id : Uuid) : dated t id = (decide (p.batch.uuid = id) || dated s id) := by
  have found := find?_batchCommit committed id
  unfold dated
  rw [found]
  simp only [after]
  by_cases here : p.batch.uuid = id
  · obtain ⟨b, before⟩ := (plans p rfl).1
    rw [if_pos here, ← here, before]
    simp [publishedBatch]
  · rw [if_neg here]
    simp [here]

/-- A batch is not dated when none of its rows is. -/
theorem dated_eq_false {s : Store} {id : Uuid} :
    dated s id = false ↔ ∀ b ∈ s.resultBatches.rows, b.uuid = id → b.publishedAt = none := by
  unfold dated
  constructor
  · intro undated b inside same
    rw [Table.find?_eq_some.mpr ⟨inside, same⟩, Option.any_some] at undated
    simpa using undated
  · intro undated
    cases found : s.resultBatches.find? id with
    | none => rfl
    | some b =>
      rw [Option.any_some, undated b (Table.find?_mem found) (Table.find?_key found)]
      rfl

/-! ### What the other commits leave alone -/

/-- **The plans other than a publication** create no credential, and records only of a batch that
was not there. -/
theorem commit_frame {plan : BatchPlan} {s t : Store} {res : BatchResponse}
    (committed : batchCommit plan s = .ok (res, t)) (other : ∀ p, plan ≠ .publish p) :
    t.credentials = s.credentials ∧
      ∃ new, t.academicRecords.rows = s.academicRecords.rows ++ new ∧
        ∀ r ∈ new, ∃ id, r.resultBatchId = some id ∧ s.resultBatches.find? id = none := by
  cases plan with
  | ingest p =>
    obtain ⟨⟨batch, s'⟩, ingested, same⟩ := bind_eq_ok.mp committed
    rw [pure_eq_ok] at same
    obtain ⟨-, rfl⟩ := Prod.mk.inj same
    obtain ⟨-, free, batches, records, -, ⟨new, rows, origin⟩, rfl⟩ := ingestCommit_spec ingested
    exact ⟨rfl, new, rows, fun r inside =>
      ⟨p.env.batchUuid, (origin r inside).1, Table.find?_eq_none.mpr free⟩⟩
  | transition now auth batchId status =>
    obtain ⟨⟨batch, s'⟩, moved, same⟩ := bind_eq_ok.mp committed
    rw [pure_eq_ok] at same
    obtain ⟨-, rfl⟩ := Prod.mk.inj same
    obtain ⟨old, -, rfl⟩ := transitionCommit_spec moved
    exact ⟨rfl, [], (List.append_nil _).symm, by simp⟩
  | publish p => exact absurd rfl (other p)
  | reject auth batchId reason =>
    obtain ⟨⟨batch, s'⟩, rejected, same⟩ := bind_eq_ok.mp committed
    rw [pure_eq_ok] at same
    obtain ⟨-, rfl⟩ := Prod.mk.inj same
    obtain ⟨old, -, rfl⟩ := rejectCommit_spec rejected
    exact ⟨rfl, [], (List.append_nil _).symm, by simp⟩

/-- A record keeps its id and its batch when it is published. -/
theorem ite_published (publishedAt : Time) (condition : Prop) [Decidable condition]
    (r : AcademicRecord) :
    (if condition then publishedRecord publishedAt r else r).uuid = r.uuid ∧
      (if condition then publishedRecord publishedAt r else r).resultBatchId = r.resultBatchId := by
  split <;> exact ⟨rfl, rfl⟩

/-- The records of a batch that is there, after a commit: the same ids in the same order. -/
theorem academicRecords_batchCommit {plan : BatchPlan} {s t : Store} {res : BatchResponse}
    (committed : batchCommit plan s = .ok (res, t)) {id : Uuid} {b : ResultBatch}
    (found : s.resultBatches.find? id = some b) :
    (academicRecords t id).map (·.uuid) = (academicRecords s id).map (·.uuid) := by
  by_cases publishes : ∃ p, plan = .publish p
  · obtain ⟨p, rfl⟩ := publishes
    obtain ⟨⟨batch, s'⟩, published, same⟩ := bind_eq_ok.mp committed
    rw [pure_eq_ok] at same
    obtain ⟨-, rfl⟩ := Prod.mk.inj same
    obtain ⟨old, credentials, standings, -, -, rfl⟩ := publishCommit_spec published
    unfold academicRecords
    show ((s.academicRecords.rows.map fun r =>
      if r.resultBatchId == some p.batch.uuid then publishedRecord p.env.committedAt r
      else r).filter _).map _ = _
    rw [List.filter_map, List.map_map]
    have sameBatch : ((fun record : AcademicRecord => record.resultBatchId == some id) ∘ fun r =>
        if r.resultBatchId == some p.batch.uuid then publishedRecord p.env.committedAt r else r) =
        fun record => record.resultBatchId == some id := by
      funext r
      rw [Function.comp_apply, (ite_published _ _ r).2]
    rw [sameBatch]
    exact List.map_congr_left fun r _ => (ite_published _ _ r).1
  · obtain ⟨-, new, rows, origin⟩ := commit_frame committed fun p same => publishes ⟨p, same⟩
    unfold academicRecords
    have none : new.filter (fun record => record.resultBatchId == some id) = [] := by
      rw [List.filter_eq_nil_iff]
      intro r inside refers
      obtain ⟨id', is, free⟩ := origin r inside
      rw [is] at refers
      obtain rfl : id' = id := by simpa using refers
      exact absurd (found.symm.trans free) (by simp)
    rw [rows, List.filter_append, none, List.append_nil]

/-- A batch that is there stays there. -/
theorem find?_some_of_batchCommit {plan : BatchPlan} {s t : Store} {res : BatchResponse}
    (committed : batchCommit plan s = .ok (res, t)) {id : Uuid} {b : ResultBatch}
    (found : s.resultBatches.find? id = some b) : ∃ b', t.resultBatches.find? id = some b' := by
  rw [find?_batchCommit committed id, found]
  cases plan with
  | ingest p =>
    simp only [after]
    split <;> exact ⟨_, rfl⟩
  | transition now auth batchId status =>
    simp only [after]
    split <;> exact ⟨_, rfl⟩
  | publish p =>
    simp only [after]
    split <;> exact ⟨_, rfl⟩
  | reject auth batchId reason =>
    simp only [after]
    split <;> exact ⟨_, rfl⟩

/-- A commit keeps the plans of the other calls. -/
theorem planInv_batchCommit {plan other : BatchPlan} {s t : Store} {res : BatchResponse}
    (committed : batchCommit plan s = .ok (res, t)) (inv : PlanInv other s) : PlanInv other t := by
  intro p same
  obtain ⟨⟨b, found⟩, signed⟩ := inv p same
  refine ⟨find?_some_of_batchCommit committed found, ?_⟩
  rw [signed, academicRecords_batchCommit committed found]

/-- A check establishes the invariant of its plan. -/
theorem planInv_of_check {rt : Runtime} {call : BatchCall} {s : Store} {plan : BatchPlan}
    (checked : batchCheck rt call s = .ok plan) : PlanInv plan s := by
  rintro p rfl
  cases call with
  | publishBatch env auth batchId =>
    obtain ⟨p', read, same⟩ := bind_eq_ok.mp checked
    rw [pure_eq_ok] at same
    obtain rfl := BatchPlan.publish.inj same
    obtain ⟨found, uuid, -, signed⟩ := publishCheck_spec read
    rw [uuid]
    refine ⟨⟨_, found⟩, ?_⟩
    rw [← signed, List.map_map]
    rfl
  | ingestResults env auth body =>
    obtain ⟨p', -, same⟩ := bind_eq_ok.mp checked
    exact absurd (pure_eq_ok.mp same) (by simp)
  | transitionBatch now auth batchId status =>
    obtain ⟨p', -, same⟩ := bind_eq_ok.mp checked
    exact absurd (pure_eq_ok.mp same) (by simp)
  | rejectBatch auth batchId reason =>
    obtain ⟨p', -, same⟩ := bind_eq_ok.mp checked
    exact absurd (pure_eq_ok.mp same) (by simp)

/-! ### The step lemma -/

/-- A plan that is no publication of a dated batch with records. -/
def Fresh (plan : BatchPlan) (s : Store) : Prop :=
  ∀ p, plan = .publish p →
    academicRecords s p.batch.uuid = [] ∨ dated s p.batch.uuid = false

/-- No credential refers to a record that is not there. -/
theorem slips_eq_zero {s : Store} {id : Uuid}
    (refer : ∀ c ∈ s.credentials.rows, ∀ id, c.academicRecordId = some id →
      ∃ r ∈ s.academicRecords.rows, r.uuid = id)
    (absent : ∀ r ∈ s.academicRecords.rows, r.uuid ≠ id) : slips s id = 0 := by
  refine List.countP_eq_zero.mpr fun c inside slip => ?_
  obtain ⟨-, refers⟩ := Bool.and_eq_true_iff.mp slip
  obtain ⟨r, here, same⟩ := refer c inside id (by simpa using refers)
  exact absent r here same

/-- The slips are exact after a commit that publishes nothing. -/
theorem slipInv_other {plan : BatchPlan} {s t : Store} {res : BatchResponse}
    (committed : batchCommit plan s = .ok (res, t)) (other : ∀ p, plan ≠ .publish p)
    (inv : SlipInv s) : SlipInv t := by
  obtain ⟨credentials, new, rows, origin⟩ := commit_frame committed other
  have sameDates := dated_of_not_publish committed other
  have sameSlips : ∀ id, slips t id = slips s id := by
    intro id
    unfold slips
    rw [credentials]
  refine ⟨fun id b' found status => ?_, fun r inside => ?_, fun c inside id refers => ?_⟩
  · rw [find?_batchCommit committed id] at found
    exact dates_after (inv.dates id) found status
  · rw [sameSlips, funext sameDates]
    by_cases old : r ∈ s.academicRecords.rows
    · exact inv.counts r old
    · have isNew : r ∈ new := by
        rw [rows] at inside
        exact (List.mem_append.mp inside).resolve_left old
      obtain ⟨id, is, free⟩ := origin r isNew
      have undated : dated s id = false := by
        unfold dated
        rw [free]
        rfl
      rw [is, Option.any_some, undated]
      refine slips_eq_zero inv.refer fun r' here same => old ?_
      have there : r' ∈ t.academicRecords.rows := by
        rw [rows]
        exact List.mem_append_left _ here
      rw [← Table.eq_of_key_eq there inside same]
      exact here
  · rw [credentials] at inside
    obtain ⟨r, here, same⟩ := inv.refer c inside id refers
    exact ⟨r, by rw [rows]; exact List.mem_append_left _ here, same⟩

/-- The records after a publication: those before, some of them with a new status. -/
theorem mem_records_publish {p : PublishPlan} {s t : Store} {batch : ResultBatch}
    (committed : publishCommit p s = .ok (batch, t)) {r' : AcademicRecord}
    (inside : r' ∈ t.academicRecords.rows) :
    ∃ r ∈ s.academicRecords.rows, r'.uuid = r.uuid ∧ r'.resultBatchId = r.resultBatchId := by
  obtain ⟨old, credentials, standings, -, -, rfl⟩ := publishCommit_spec committed
  obtain ⟨r, here, rfl⟩ := List.mem_map.mp inside
  exact ⟨r, here, ite_published _ _ r⟩

theorem mem_records_of_publish {p : PublishPlan} {s t : Store} {batch : ResultBatch}
    (committed : publishCommit p s = .ok (batch, t)) {r : AcademicRecord}
    (inside : r ∈ s.academicRecords.rows) :
    ∃ r' ∈ t.academicRecords.rows, r'.uuid = r.uuid ∧ r'.resultBatchId = r.resultBatchId := by
  obtain ⟨old, credentials, standings, -, -, rfl⟩ := publishCommit_spec committed
  exact ⟨_, List.mem_map_of_mem inside, ite_published _ _ r⟩

/-- Every credential after a publication refers to a record that was there before. -/
theorem refer_publish {p : PublishPlan} {s t : Store} {batch : ResultBatch}
    (committed : publishCommit p s = .ok (batch, t)) (plans : PlanInv (.publish p) s)
    (refer : ∀ c ∈ s.credentials.rows, ∀ id, c.academicRecordId = some id →
      ∃ r ∈ s.academicRecords.rows, r.uuid = id) {c : Credential}
    (inside : c ∈ t.credentials.rows) {id : Uuid} (refers : c.academicRecordId = some id) :
    ∃ r ∈ s.academicRecords.rows, r.uuid = id := by
  obtain ⟨old, credentials, standings, -, rows, rfl⟩ := publishCommit_spec committed
  have everywhere : c ∈ credentials.rows := inside
  rw [rows] at everywhere
  rcases List.mem_append.mp everywhere with before | created
  · exact refer c before id refers
  · obtain ⟨⟨signed, index⟩, here, rfl⟩ := List.mem_map.mp created
    obtain rfl := Option.some.inj refers
    have among : signed.record.uuid ∈ p.signedCredentials.map (·.record.uuid) :=
      List.mem_map_of_mem (List.fst_mem_of_mem_zipIdx here)
    rw [(plans p rfl).2] at among
    obtain ⟨r, member, same⟩ := List.mem_map.mp among
    exact ⟨r, List.mem_of_mem_filter member, same⟩

/-- The slips are exact after the first publication of a batch. -/
theorem slipInv_publish {p : PublishPlan} {s t : Store} {res : BatchResponse}
    (committed : batchCommit (.publish p) s = .ok (res, t)) (plans : PlanInv (.publish p) s)
    (fresh : Fresh (.publish p) s) (inv : SlipInv s) : SlipInv t := by
  have dates := dated_of_publish committed plans
  have found := find?_batchCommit committed
  obtain ⟨⟨batch, t'⟩, published, same⟩ := bind_eq_ok.mp committed
  rw [pure_eq_ok] at same
  obtain ⟨-, rfl⟩ := Prod.mk.inj same
  refine ⟨fun id b' here status => ?_, fun r' inside => ?_, fun c inside id refers => ?_⟩
  · rw [found id] at here
    exact dates_after (inv.dates id) here status
  · obtain ⟨r, here, uuid, batchId⟩ := mem_records_publish published inside
    rw [uuid, batchId, publish_slips published plans here, inv.counts r here, funext dates]
    by_cases member : r.resultBatchId = some p.batch.uuid
    · have undated : dated s p.batch.uuid = false := by
        rcases fresh p rfl with empty | undated
        · have inBatch : r ∈ academicRecords s p.batch.uuid :=
            List.mem_filter.mpr ⟨here, by rw [member, beq_self_eq_true]⟩
          rw [empty] at inBatch
          exact absurd inBatch (by simp)
        · exact undated
      simp [member, undated]
    · cases is : r.resultBatchId with
      | none => simp
      | some id =>
        have differs : p.batch.uuid ≠ id := fun same => member (by rw [is, same])
        simp [Ne.symm differs, differs]
  · obtain ⟨r, here, same⟩ := refer_publish published plans inv.refer inside refers
    obtain ⟨r', there, uuid, -⟩ := mem_records_of_publish published here
    exact ⟨r', there, uuid.trans same⟩

/-- **The step lemma of a commit.** -/
theorem slipInv_batchCommit {plan : BatchPlan} {s t : Store} {res : BatchResponse}
    (committed : batchCommit plan s = .ok (res, t)) (plans : PlanInv plan s)
    (fresh : Fresh plan s) (inv : SlipInv s) : SlipInv t := by
  cases plan with
  | publish p => exact slipInv_publish committed plans fresh inv
  | ingest p => exact slipInv_other committed (by simp) inv
  | transition now auth batchId status => exact slipInv_other committed (by simp) inv
  | reject auth batchId reason => exact slipInv_other committed (by simp) inv

/-! ### Runs of the pool -/

/-- The invariant of a run: exact slips, signed plans, and dates for the batches ever published. -/
structure WatchedInv (w : Watched) : Prop where
  flight : Method.Flight SlipInv PlanInv w.pool
  ever : ∀ id, w.ever id = dated w.pool.store id

theorem batchLog_frame (plan : BatchPlan) (res : BatchResponse) (s : Store) :
    (batchLog plan res s).academicRecords = s.academicRecords ∧
      (batchLog plan res s).credentials = s.credentials := by
  cases plan <;> exact ⟨rfl, rfl⟩

/-- A log entry keeps the invariants. -/
theorem slipInv_batchLog (plan : BatchPlan) (res : BatchResponse) (s : Store) (inv : SlipInv s) :
    SlipInv (batchLog plan res s) ∧
      ∀ other, PlanInv other s → PlanInv other (batchLog plan res s) := by
  obtain ⟨records, credentials⟩ := batchLog_frame plan res s
  have batches := batchLog_resultBatches plan res s
  exact ⟨slipInv_congr batches records credentials inv, fun _ => planInv_congr batches records⟩

/-- **The step lemma of the pool.** A turn whose publication, if any, is a first one keeps exact
slips. -/
theorem flight_turn {rt : Runtime} {p : BatchPool} {e : Turn BatchCall}
    (flight : Method.Flight SlipInv PlanInv p)
    (fresh : ∀ plan res t, (batchMethods rt).committing p e = some (plan, res, t) →
      Fresh plan p.store) :
    Method.Flight SlipInv PlanInv ((batchMethods rt).turn p e) := by
  refine Method.turn_flight (fun c s plan _ checked => planInv_of_check checked)
    slipInv_batchLog flight fun plan res t goes => ?_
  obtain ⟨inFlight, committed⟩ := Method.committing_spec goes
  exact ⟨slipInv_batchCommit committed (flight.inFlight plan inFlight) (fresh plan res t goes)
    flight.store, fun other => planInv_batchCommit committed⟩

/-- The dates after a turn: a batch is dated when it was before or is now published. -/
theorem dated_turn {rt : Runtime} {p : BatchPool} {e : Turn BatchCall} (inv : SlipInv p.store)
    (id : Uuid) :
    dated ((batchMethods rt).turn p e).store id =
      (dated p.store id || isPublished ((batchMethods rt).turn p e).store id) := by
  cases goes : (batchMethods rt).committing p e with
  | some went =>
    obtain ⟨plan, res, t⟩ := went
    rw [(Method.turn_of_committing goes).1]
    exact dated_batchCommit (Method.committing_spec goes).2 inv.dates id
  | none =>
    have batches : ((batchMethods rt).turn p e).store.resultBatches = p.store.resultBatches := by
      rcases Method.turn_of_not_committing goes with ⟨same, -⟩ | ⟨plan, res, same, -⟩
      · rw [same]
      · rw [same]
        exact batchLog_resultBatches plan res p.store
    unfold dated isPublished
    rw [batches]
    cases found : p.store.resultBatches.find? id with
    | none => rfl
    | some b =>
      rw [Option.any_some, Option.any_some]
      cases published : b.status == .published with
      | false => rw [Bool.or_false]
      | true => rw [inv.dates id b found (by simpa using published)]; rfl

theorem fresh_of_first {rt : Runtime} {w : Watched} {e : Turn BatchCall}
    (first : FirstPublication rt w e) {plan : BatchPlan} {res : BatchResponse} {t : Store}
    (goes : (batchMethods rt).committing w.pool e = some (plan, res, t)) :
    Fresh plan w.pool.store := by
  rintro p rfl
  exact (first p res t goes).imp id dated_eq_false.mpr

theorem watchedInv_step {rt : Runtime} {w : Watched} {e : Turn BatchCall} (inv : WatchedInv w)
    (first : FirstPublication rt w e) : WatchedInv (watchedStep rt w e) := by
  refine ⟨flight_turn inv.flight fun plan res t => fresh_of_first first, fun id => ?_⟩
  show (w.ever id || _) = _
  rw [inv.ever id]
  exact (dated_turn inv.flight.store id).symm

theorem slipsExact_of_inv {w : Watched} (inv : WatchedInv w) : SlipsExact w := by
  intro r inside
  rw [inv.flight.store.counts r inside, ← funext inv.ever]

/-- **A second publication issues second slips.** -/
theorem not_slipsExact_of_not_first {rt : Runtime} {w : Watched} {e : Turn BatchCall}
    (inv : WatchedInv w) (second : ¬ FirstPublication rt w e) :
    ¬ SlipsExact (watchedStep rt w e) := by
  unfold FirstPublication at second
  push Not at second
  obtain ⟨p, res, t, goes, records, b, row, same, published⟩ := second
  obtain ⟨inFlight, committed⟩ := Method.committing_spec goes
  have plans := inv.flight.inFlight _ inFlight
  have stored := (Method.turn_of_committing goes).1
  obtain ⟨⟨batch, t'⟩, commits, is⟩ := bind_eq_ok.mp committed
  rw [pure_eq_ok] at is
  obtain ⟨-, rfl⟩ := Prod.mk.inj is
  obtain ⟨r, member⟩ := List.exists_mem_of_ne_nil _ records
  obtain ⟨here, refers⟩ := List.mem_filter.mp member
  have inBatch : r.resultBatchId = some p.batch.uuid := by simpa using refers
  have isDated : dated w.pool.store p.batch.uuid = true := by
    rw [← Bool.not_eq_false, dated_eq_false]
    exact fun undated => published (undated b row same)
  have two : slips t' r.uuid = 2 := by
    rw [publish_slips commits plans here, inv.flight.store.counts r here, if_pos inBatch, inBatch,
      Option.any_some, isDated]
    rfl
  intro exactAfter
  obtain ⟨r', there, uuid, -⟩ := mem_records_of_publish commits here
  have left : (watchedStep rt w e).pool.store = t' := stored
  have count := exactAfter r' (by rw [left]; exact there)
  rw [left, uuid, two] at count
  split at count <;> exact absurd count (by decide)

/-- **The exact condition.** From a store where nothing was published or issued for a record, the
slips are exact in every state of a run exactly when every publication that goes through on a batch
with records is the first one of its batch. -/
theorem slipsExact_iff (rt : Runtime) (s : Store) (events : List (Turn BatchCall))
    (unpublished : ∀ b ∈ s.resultBatches.rows, b.status ≠ .published ∧ b.publishedAt = none)
    (unissued : ∀ c ∈ s.credentials.rows, c.academicRecordId = none) :
    Throughout (watchedStep rt) SlipsExact ⟨⟨s, []⟩, fun _ => false⟩ events ↔
      Along (watchedStep rt) (FirstPublication rt) ⟨⟨s, []⟩, fun _ => false⟩ events := by
  have undated : ∀ id, dated s id = false := fun id =>
    dated_eq_false.mpr fun b inside _ => (unpublished b inside).2
  have refer : ∀ c ∈ s.credentials.rows, ∀ id, c.academicRecordId = some id →
      ∃ r ∈ s.academicRecords.rows, r.uuid = id := by
    intro c inside id refers
    rw [unissued c inside] at refers
    exact absurd refers (by simp)
  have none : ∀ id, slips s id = 0 := by
    intro id
    refine List.countP_eq_zero.mpr fun c inside slip => ?_
    have refers := (Bool.and_eq_true_iff.mp slip).2
    rw [unissued c inside] at refers
    exact absurd refers (by simp)
  have start : WatchedInv ⟨⟨s, []⟩, fun _ => false⟩ := by
    refine ⟨⟨⟨fun id b found status => ?_, fun r inside => ?_, refer⟩, by simp⟩, fun id => ?_⟩
    · exact absurd status (unpublished b (Table.find?_mem found)).1
    · rw [none, funext undated]
      simp
    · exact (undated id).symm
  have keeps : ∀ w e, WatchedInv w → FirstPublication rt w e → WatchedInv (watchedStep rt w e) :=
    fun _ _ => watchedInv_step
  have implies : ∀ w, WatchedInv w → SlipsExact w := fun _ => slipsExact_of_inv
  have escapes : ∀ w e, WatchedInv w → ¬ FirstPublication rt w e →
      ¬ SlipsExact (watchedStep rt w e) := fun _ _ => not_slipsExact_of_not_first
  exact throughout_iff_of_exact keeps implies escapes start events

/-! ### Runs -/

/-- The calls of a run of the workflow, in flight one at a time, up to the approval. -/
def approvalTurns : List (Turn BatchCall) :=
  [.begin upload.call, .advance 0 .done, .advance 0 .done, .begin (move .approved).call,
    .advance 1 .done, .advance 1 .done]

instance (w : Watched) : Decidable (SlipsExact w) :=
  inferInstanceAs (Decidable (∀ r ∈ w.pool.store.academicRecords.rows,
    slips w.pool.store r.uuid = if r.resultBatchId.any w.ever then 1 else 0))

/-- One publication issues one slip for the record of its batch. -/
theorem slipsExact_iff_published :
    Throughout (watchedStep .plain) SlipsExact ⟨⟨school, []⟩, fun _ => false⟩
        (approvalTurns ++ [.begin publish.call, .advance 2 .done, .advance 2 .done]) ∧
      ((runs (watchedStep .plain) ⟨⟨school, []⟩, fun _ => false⟩
        (approvalTurns ++ [.begin publish.call, .advance 2 .done])).pool.store.credentials.rows.map
          (·.academicRecordId)) = [some "70000000-0000-4000-8000-000000000001"] :=
  ⟨(slipsExact_iff .plain school _ (by decide) (by decide)).mpr (by decide +kernel),
    by decide +kernel⟩

/-- A second publication of the batch, with ids of its own. -/
def publishAgain : BatchCall :=
  .publishBatch
    { pick := 0
      checkedAt := 4
      committedAt := 5
      credentialRef := fun _ => "80000000-0000-4000-8000-000000000002"
      credentialUuid := fun _ => "90000000-0000-4000-8000-000000000002" }
    founder batchId

/-- **The slips are not exact in every run**: two publications check the batch before either
commits, and both issue a slip for its record. -/
theorem slipsExact_fails :
    ¬ ∀ (rt : Runtime) (s : Store) (events : List (Turn BatchCall)),
      (∀ b ∈ s.resultBatches.rows, b.status ≠ .published ∧ b.publishedAt = none) →
      (∀ c ∈ s.credentials.rows, c.academicRecordId = none) →
        Throughout (watchedStep rt) SlipsExact ⟨⟨s, []⟩, fun _ => false⟩ events := by
  intro all
  have twice := all .plain school
    (approvalTurns ++ [.begin publish.call, .begin publishAgain, .advance 2 .done,
      .advance 3 .done]) (by decide) (by decide)
  exact absurd twice (by decide +kernel)

end AcadID.Publication
