/-
**What a stored standing depends on.**

* `find?_recomputeAll` — after a recomputation, the standings of the enrolments listed are those
  of the store it ran on; every other one is as it was.
* `core` — a standing without its latest period and its time; `core_standingOf` computes it from
  the records alone, in any order and whatever their dates of publication.
* `publishCommit_publishes` — **what a publication does to records and standings**: the standings
  of the enrolments of its records are recomputed from the store it leaves, every other one is kept.
-/

import AcadID.Gateway.Batches

namespace AcadID

open Lib

namespace Standing

/-! ### Recomputed standings -/

theorem find?_recompute {s : Store} {now : Time} {enrolmentId : Uuid} (id : Uuid) :
    (recomputeAcademicStanding s now enrolmentId).academicStandings.find? id =
      match s.enrolments.find? enrolmentId with
      | none => s.academicStandings.find? id
      | some enrolment =>
        if enrolmentId = id then some (standingOf s now enrolment)
        else s.academicStandings.find? id := by
  unfold recomputeAcademicStanding
  cases found : s.enrolments.find? enrolmentId with
  | none => rfl
  | some enrolment =>
    show (s.academicStandings.upsert (standingOf s now enrolment)).find? id =
      if enrolmentId = id then some (standingOf s now enrolment) else s.academicStandings.find? id
    have keyed : enrolment.uuid = enrolmentId := Table.find?_key found
    rw [Table.find?_upsert, ← keyed]
    rfl

/-- **What recomputing several standings leaves**: those of the enrolments listed, computed from
the records of the store it ran on. -/
theorem find?_recomputeAll {now : Time} {s : Store} {enrolmentIds : List Uuid} (id : Uuid) :
    (recomputeAll now s enrolmentIds).academicStandings.find? id =
      match s.enrolments.find? id with
      | none => s.academicStandings.find? id
      | some enrolment =>
        if id ∈ enrolmentIds then some (standingOf s now enrolment)
        else s.academicStandings.find? id := by
  induction enrolmentIds generalizing s with
  | nil =>
    show s.academicStandings.find? id = _
    cases s.enrolments.find? id <;> simp
  | cons first rest ih =>
    obtain ⟨standings, recomputed⟩ := recomputeAcademicStanding_frame s now first
    have step := @find?_recompute s now first id
    show (recomputeAll now (recomputeAcademicStanding s now first) rest).academicStandings.find? id
      = _
    rw [ih, step, recomputed]
    show (match s.enrolments.find? id with | none => _ | some enrolment => _) = _
    cases found : s.enrolments.find? id with
    | none =>
      have other : ∀ enrolment, s.enrolments.find? first = some enrolment → first ≠ id := by
        rintro enrolment there rfl
        exact absurd (there.symm.trans found) (by simp)
      cases there : s.enrolments.find? first with
      | none => rfl
      | some enrolment => exact if_neg (other enrolment there)
    | some enrolment =>
      show (if id ∈ rest then some (standingOf s now enrolment) else _) =
        if id ∈ first :: rest then some (standingOf s now enrolment)
        else s.academicStandings.find? id
      by_cases later : id ∈ rest
      · rw [if_pos later, if_pos (List.mem_cons_of_mem _ later)]
      · rw [if_neg later]
        by_cases here : id = first
        · rw [← here, found, if_pos (List.mem_cons_self ..)]
          exact if_pos rfl
        · rw [if_neg (by simp [here, later])]
          cases s.enrolments.find? first with
          | none => rfl
          | some other => exact if_neg (Ne.symm here)

/-! ### The part of a standing that forgets the order -/

theorem gradingRuleSet_congr {s t : Store} (rules : t.gradingRuleSets = s.gradingRuleSets) :
    gradingRuleSet t = gradingRuleSet s := by
  funext record
  unfold gradingRuleSet
  rw [rules]

/-- A standing without the time it was computed at. -/
def timeless (standing : AcademicStanding) : AcademicStanding :=
  { standing with computedAt := 0 }

theorem timeless_standingOf (s : Store) (now later : Time) (enrolment : Enrolment) :
    timeless (standingOf s now enrolment) = timeless (standingOf s later enrolment) := rfl

/-- A standing without its latest period and the time it was computed at. -/
def core (standing : AcademicStanding) : AcademicStanding :=
  { standing with latestAcademicSessionId := none, latestPeriodLabel := none, computedAt := 0 }

/-- A record without its date of publication. -/
def undated (record : AcademicRecord) : AcademicRecord :=
  { record with publishedAt := none }

/-- The same records, up to their order and their dates of publication. -/
def Alike (left right : List AcademicRecord) : Prop :=
  (left.map undated).Perm (right.map undated)

/-- What is read off records without their dates is the same. -/
theorem Alike.map {β : Type} {left right : List AcademicRecord} (alike : Alike left right)
    {f : AcademicRecord → β} (blind : ∀ r, f (undated r) = f r) :
    (left.map f).Perm (right.map f) := by
  have through : ∀ records : List AcademicRecord, records.map f = (records.map undated).map f := by
    intro records
    rw [List.map_map]
    exact List.map_congr_left fun r _ => (blind r).symm
  rw [through left, through right]
  exact List.Perm.map f alike

theorem Alike.filter {left right : List AcademicRecord} (alike : Alike left right)
    {p : AcademicRecord → Bool} (blind : ∀ r, p (undated r) = p r) :
    Alike (left.filter p) (right.filter p) := by
  have through : ∀ records : List AcademicRecord,
      (records.filter p).map undated = (records.map undated).filter p := by
    intro records
    rw [List.filter_map]
    exact congrArg _ (List.filter_congr fun r _ => (blind r).symm)
  unfold Alike
  rw [through left, through right]
  exact List.Perm.filter p alike

theorem Alike.length_eq {left right : List AcademicRecord} (alike : Alike left right) :
    left.length = right.length := by
  have same := List.Perm.length_eq alike
  rwa [List.length_map, List.length_map] at same

theorem nodup_eraseDups : ∀ values : List String, values.eraseDups.Nodup
  | [] => List.nodup_nil
  | value :: rest => by
    rw [List.eraseDups_cons]
    refine List.nodup_cons.mpr ⟨fun again => ?_, nodup_eraseDups _⟩
    have kept := List.of_mem_filter (List.mem_eraseDups.mp again)
    exact absurd kept (by simp)
  termination_by values => values.length
  decreasing_by exact Nat.lt_succ_of_le (List.length_filter_le _ _)

/-- The number of different values does not depend on their order. -/
theorem length_eraseDups_perm {left right : List String} (perm : left.Perm right) :
    left.eraseDups.length = right.eraseDups.length := by
  refine List.Perm.length_eq ?_
  refine (List.perm_ext_iff_of_nodup (nodup_eraseDups _) (nodup_eraseDups _)).mpr ?_
  intro value
  rw [List.mem_eraseDups, List.mem_eraseDups]
  exact perm.mem_iff

theorem le_foldl_max (first : ℚ) (rest : List ℚ) : first ≤ rest.foldl max first := by
  induction rest generalizing first with
  | nil => exact le_rfl
  | cons next rest ih => exact le_trans (le_max_left first next) (ih (max first next))

theorem maximum_mem (first : ℚ) (rest : List ℚ) : maximum first rest ∈ first :: rest := by
  unfold maximum
  induction rest generalizing first with
  | nil => exact List.mem_cons_self ..
  | cons next rest ih =>
    have inside := ih (max first next)
    rw [List.foldl_cons]
    rcases List.mem_cons.mp inside with same | later
    · rw [same]
      rcases max_choice first next with left | right
      · rw [left]
        exact List.mem_cons_self ..
      · rw [right]
        exact List.mem_cons_of_mem _ (List.mem_cons_self ..)
    · exact List.mem_cons_of_mem _ (List.mem_cons_of_mem _ later)

theorem le_maximum {first : ℚ} {rest : List ℚ} {value : ℚ} (inside : value ∈ first :: rest) :
    value ≤ maximum first rest := by
  unfold maximum
  induction rest generalizing first with
  | nil => exact le_of_eq (List.mem_singleton.mp inside)
  | cons next rest ih =>
    rcases List.mem_cons.mp inside with rfl | later
    · exact le_foldl_max value (next :: rest)
    · rcases List.mem_cons.mp later with rfl | further
      · exact le_trans (le_max_right first value) (le_foldl_max _ rest)
      · exact ih (List.mem_cons_of_mem _ further)

/-- The larger of a nonempty list does not depend on its order. -/
theorem maximum_perm {a b : ℚ} {as bs : List ℚ} (perm : (a :: as).Perm (b :: bs)) :
    maximum a as = maximum b bs :=
  le_antisymm (le_maximum (perm.mem_iff.mp (maximum_mem a as)))
    (le_maximum (perm.mem_iff.mpr (maximum_mem b bs)))

/-- The largest of a list, if there is any. -/
def maximum? : List ℚ → Option ℚ
  | [] => none
  | first :: rest => some (maximum first rest)

theorem maximum?_perm {left right : List ℚ} (perm : left.Perm right) :
    maximum? left = maximum? right := by
  cases left with
  | nil => rw [List.nil_perm.mp perm]
  | cons a as =>
    cases right with
    | nil => exact absurd perm.eq_nil (by simp)
    | cons b bs => exact congrArg some (maximum_perm perm)

theorem resolveGradePointMax_eq (s : Store) (records : List AcademicRecord) :
    resolveGradePointMax s records =
      (maximum? ((records.map fun record =>
        decimalToNumber ((gradingRuleSet s record).bind (·.gradePointMax))).filter (0 < ·))).getD
        (((maximum? ((records.map fun record =>
          decimalToNumber record.gradePoint).filter (0 < ·))).map fun observed =>
            if observed ≤ 4 then 4 else 5).getD 5) := by
  unfold resolveGradePointMax
  cases (records.map fun record =>
      decimalToNumber ((gradingRuleSet s record).bind (·.gradePointMax))).filter (0 < ·) with
  | cons first rest => rfl
  | nil =>
    cases (records.map fun record => decimalToNumber record.gradePoint).filter (0 < ·) with
    | cons first rest => rfl
    | nil => rfl

theorem resolveGradePointMax_alike {s t : Store} (rules : t.gradingRuleSets = s.gradingRuleSets)
    {left right : List AcademicRecord} (alike : Alike left right) :
    resolveGradePointMax s left = resolveGradePointMax t right := by
  have configured := (alike.map (f := fun record =>
    decimalToNumber ((gradingRuleSet s record).bind (·.gradePointMax))) fun _ => rfl).filter (0 < ·)
  have observed := (alike.map (f := fun record => decimalToNumber record.gradePoint)
    fun _ => rfl).filter (0 < ·)
  rw [resolveGradePointMax_eq, resolveGradePointMax_eq, gradingRuleSet_congr rules, maximum?_perm configured,
    maximum?_perm observed]

/-- The records that count, up to their order and dates, make the records of the standing. -/
theorem rollupRecords_alike {s t : Store} (rules : t.gradingRuleSets = s.gradingRuleSets)
    {id : Uuid} (counted : Alike (countedRecords s id) (countedRecords t id)) :
    Alike (rollupRecords s id) (rollupRecords t id) := by
  have tertiary := counted.filter
    (p := fun record => (gradingRuleSet s record).any (·.engine == .tertiaryGpa)) fun _ => rfl
  unfold rollupRecords
  rw [gradingRuleSet_congr rules]
  have empty : ((countedRecords s id).filter fun record =>
        (gradingRuleSet s record).any (·.engine == .tertiaryGpa)).isEmpty =
      ((countedRecords t id).filter fun record =>
        (gradingRuleSet s record).any (·.engine == .tertiaryGpa)).isEmpty := by
    rw [Bool.eq_iff_iff, List.isEmpty_iff_length_eq_zero, List.isEmpty_iff_length_eq_zero,
      tertiary.length_eq]
  dsimp only
  rw [empty]
  split
  · exact counted
  · exact tertiary

/-- **The core of a standing forgets order and dates**: it is that of any records alike. -/
theorem core_standingOf {s t : Store} (rules : t.gradingRuleSets = s.gradingRuleSets)
    {enrolment : Enrolment}
    (counted : Alike (countedRecords s enrolment.uuid) (countedRecords t enrolment.uuid))
    (now later : Time) :
    core (standingOf s now enrolment) = core (standingOf t later enrolment) := by
  have alike := rollupRecords_alike rules counted
  have attempted := (alike.map (f := fun r => decimalToNumber r.creditUnits) fun _ => rfl).sum_eq
  have quality := (alike.map (f := fun r => decimalToNumber r.qualityPoints) fun _ => rfl).sum_eq
  have earned := (alike.map (f := fun r =>
    if 0 < decimalToNumber r.gradePoint then decimalToNumber r.creditUnits else 0)
      fun _ => rfl).sum_eq
  have periods := length_eraseDups_perm (alike.map (f := fun r =>
    r.academicSessionId.getD "none" ++ ":" ++ r.periodLabel) fun _ => rfl)
  have points := resolveGradePointMax_alike rules alike
  unfold core standingOf
  dsimp only
  rw [attempted, quality, earned, periods, points, alike.length_eq]

/-- A standing does not depend on more than the records that count. -/
theorem standingOf_congr {s t : Store} (rules : t.gradingRuleSets = s.gradingRuleSets)
    {enrolment : Enrolment}
    (counted : countedRecords t enrolment.uuid = countedRecords s enrolment.uuid) (now : Time) :
    standingOf t now enrolment = standingOf s now enrolment := by
  unfold standingOf resolveGradePointMax rollupRecords
  rw [counted, gradingRuleSet_congr rules]

/-- Whether a record counts for an enrolment. -/
def counts (enrolmentId : Uuid) (record : AcademicRecord) : Bool :=
  record.enrolmentId == enrolmentId && record.status == .published &&
    record.gradePoint.isSome && record.creditUnits.isSome

theorem counts_of_foreign {enrolmentId : Uuid} {record : AcademicRecord}
    (foreign : record.enrolmentId ≠ enrolmentId) : counts enrolmentId record = false := by
  unfold counts
  rw [beq_eq_false_iff_ne.mpr foreign]
  rfl

/-- **Only the records of the enrolment itself count.** -/
theorem countedRecords_of_owned {s t : Store} {id : Uuid}
    (owned : t.academicRecords.rows.filter (fun r => r.enrolmentId == id) =
      s.academicRecords.rows.filter fun r => r.enrolmentId == id) :
    countedRecords t id = countedRecords s id := by
  have through : ∀ u : Store, u.academicRecords.rows.filter (counts id) =
      (u.academicRecords.rows.filter fun r => r.enrolmentId == id).filter (counts id) := by
    intro u
    rw [List.filter_filter]
    refine List.filter_congr fun r _ => ?_
    by_cases own : r.enrolmentId = id
    · rw [beq_iff_eq.mpr own, Bool.and_true]
    · rw [counts_of_foreign own, Bool.false_and]
  show (t.academicRecords.rows.filter (counts id)).insertionSort _ =
    (s.academicRecords.rows.filter (counts id)).insertionSort _
  rw [through t, through s, owned]

/-- The records of an enrolment, where those of others were written. -/
theorem filter_owned_map {rows : List AcademicRecord} {id : Uuid}
    {f : AcademicRecord → AcademicRecord} (keeps : ∀ r ∈ rows, r.enrolmentId = id → f r = r)
    (owner : ∀ r, (f r).enrolmentId = r.enrolmentId) :
    (rows.map f).filter (fun r => r.enrolmentId == id) =
      rows.filter fun r => r.enrolmentId == id := by
  rw [List.filter_map]
  have same : (fun r : AcademicRecord => r.enrolmentId == id) ∘ f = fun r => r.enrolmentId == id := by
    funext r
    rw [Function.comp_apply, owner]
  rw [same]
  calc (rows.filter fun r => r.enrolmentId == id).map f
      = (rows.filter fun r => r.enrolmentId == id).map fun r => r := by
        refine List.map_congr_left fun r member => ?_
        obtain ⟨inside, own⟩ := List.mem_filter.mp member
        exact keeps r inside (by simpa using own)
    _ = rows.filter fun r => r.enrolmentId == id := List.map_id' _

/-- **Records written for other enrolments** do not change what counts. -/
theorem countedRecords_map {s t : Store} {id : Uuid} {f : AcademicRecord → AcademicRecord}
    (rows : t.academicRecords.rows = s.academicRecords.rows.map f)
    (keeps : ∀ r ∈ s.academicRecords.rows, r.enrolmentId = id → f r = r)
    (owner : ∀ r, (f r).enrolmentId = r.enrolmentId) :
    countedRecords t id = countedRecords s id := by
  refine countedRecords_of_owned ?_
  rw [rows]
  exact filter_owned_map keeps owner

/-- **New drafts** do not count. -/
theorem countedRecords_append {s t : Store} {new : List AcademicRecord}
    (rows : t.academicRecords.rows = s.academicRecords.rows ++ new)
    (drafts : ∀ r ∈ new, r.status = .draft) (id : Uuid) :
    countedRecords t id = countedRecords s id := by
  have none : new.filter (counts id) = [] := by
    rw [List.filter_eq_nil_iff]
    intro r inside counted
    simp only [counts, drafts r inside, Bool.and_eq_true] at counted
    exact absurd counted.1.1.2 (by decide)
  show (t.academicRecords.rows.filter (counts id)).insertionSort _ =
    (s.academicRecords.rows.filter (counts id)).insertionSort _
  rw [rows, List.filter_append, none, List.append_nil]

/-- Stores with the same records up to their dates count alike. -/
theorem countedRecords_alike {s t : Store}
    (records : s.academicRecords.rows.map undated = t.academicRecords.rows.map undated)
    (id : Uuid) : Alike (countedRecords s id) (countedRecords t id) := by
  have rows : Alike s.academicRecords.rows t.academicRecords.rows := List.Perm.of_eq records
  have same := rows.filter (p := counts id) fun _ => rfl
  have sorted : ∀ u : Store,
      Alike (countedRecords u id) (u.academicRecords.rows.filter (counts id)) :=
    fun u => (List.perm_insertionSort _ _).map undated
  exact (sorted s).trans (same.trans (sorted t).symm)

end Standing

namespace Governance

/-- One record, after the publication of a batch. -/
def publishing (batchId : Uuid) (publishedAt : Time) (record : AcademicRecord) : AcademicRecord :=
  if record.resultBatchId == some batchId then publishedRecord publishedAt record else record

theorem enrolmentId_publishing (batchId : Uuid) (publishedAt : Time) (r : AcademicRecord) :
    (publishing batchId publishedAt r).enrolmentId = r.enrolmentId := by
  unfold publishing
  split <;> rfl

/-- **What a publication does to records and standings**: its records are published, and the
standings of their enrolments recomputed from the store it leaves. -/
structure Publishes (plan : PublishPlan) (s t : Store) : Prop where
  enrolments : t.enrolments = s.enrolments
  rules : t.gradingRuleSets = s.gradingRuleSets
  records : t.academicRecords.rows =
    s.academicRecords.rows.map (publishing plan.batch.uuid plan.env.committedAt)
  standings : ∀ id enrolment, s.enrolments.find? id = some enrolment →
    t.academicStandings.find? id =
      if id ∈ plan.records.map (·.1.enrolmentId) then
        some (Standing.standingOf t plan.env.committedAt enrolment)
      else s.academicStandings.find? id
  others : ∀ id, s.enrolments.find? id = none →
    t.academicStandings.find? id = s.academicStandings.find? id

theorem publishCommit_publishes {plan : PublishPlan} {s t : Store} {batch : ResultBatch}
    (committed : publishCommit plan s = .ok (batch, t)) : Publishes plan s t := by
  unfold publishCommit at committed
  obtain ⟨⟨updated, batches⟩, written, rest⟩ := bind_eq_ok.mp committed
  obtain ⟨s', created, same⟩ := bind_eq_ok.mp rest
  obtain ⟨credentials, -, rfl⟩ := createCredentials_spec created
  rw [pure_eq_ok] at same
  obtain ⟨-, rfl⟩ := Prod.mk.inj same
  obtain ⟨standings, recomputed⟩ := Standing.recomputeAll_frame plan.env.committedAt
    { s with
      resultBatches := batches
      academicRecords := s.academicRecords.updateMany
        (fun record => record.resultBatchId == some plan.batch.uuid)
        (publishedRecord plan.env.committedAt) fun _ => rfl
      credentials := credentials }
    ((plan.records.map fun read => read.1.enrolmentId).eraseDups)
  have stored := @Standing.find?_recomputeAll plan.env.committedAt
    { s with
      resultBatches := batches
      academicRecords := s.academicRecords.updateMany
        (fun record => record.resultBatchId == some plan.batch.uuid)
        (publishedRecord plan.env.committedAt) fun _ => rfl
      credentials := credentials }
    ((plan.records.map fun read => read.1.enrolmentId).eraseDups)
  rw [recomputed] at stored ⊢
  refine ⟨rfl, rfl, rfl, fun id enrolment found => ?_, fun id absent => ?_⟩
  · refine (stored id).trans ?_
    dsimp only
    rw [found]
    simp only [List.mem_eraseDups]
    rfl
  · refine (stored id).trans ?_
    dsimp only
    rw [absent]

/-- The check of a publication reads the records of the batch, and the enrolment of each. -/
theorem publishCheck_records {rt : Runtime} {env : PublishEnv} {auth : AuthTokenPayload}
    {batchId : Uuid} {s : Store} {plan : PublishPlan}
    (checked : publishCheck rt env auth batchId s = .ok plan) :
    plan.records.map Prod.fst = academicRecords s batchId ∧
      ∀ r ∈ academicRecords s batchId, ∃ enrolment,
        s.enrolments.find? r.enrolmentId = some enrolment := by
  unfold publishCheck at checked
  obtain ⟨batch, -, rest⟩ := bind_eq_ok.mp checked
  obtain ⟨institution, -, rest⟩ := bind_eq_ok.mp rest
  obtain ⟨records, read, rest⟩ := bind_eq_ok.mp rest
  obtain ⟨-, -, rest⟩ := bind_eq_ok.mp rest
  obtain ⟨_, -, same⟩ := bind_eq_ok.mp rest
  rw [pure_eq_ok] at same
  rw [← same]
  have recordsRead : records.map Prod.fst = academicRecords s batchId := by
    refine map_of_mapM_ok (fun record pair paired => ?_) read
    obtain ⟨enrolment, -, same⟩ := bind_eq_ok.mp paired
    rw [pure_eq_ok] at same
    rw [← same]
  refine ⟨recordsRead, fun r inside => ?_⟩
  rw [← recordsRead] at inside
  obtain ⟨pair, paired, rfl⟩ := List.mem_map.mp inside
  obtain ⟨record, -, made⟩ := mem_of_mapM_ok read pair paired
  obtain ⟨enrolment, found, same⟩ := bind_eq_ok.mp made
  rw [pure_eq_ok] at same
  rw [orThrow_eq_ok] at found
  exact ⟨enrolment, by rw [← same]; exact found⟩

/-- A record whose batch is marked as published, without its date of publication. -/
def stamped (published : Uuid → Bool) (record : AcademicRecord) : AcademicRecord :=
  Standing.undated (if record.resultBatchId.any published then
    { record with status := .published } else record)

/-- **One more batch published**, as it shows on records without their dates. -/
theorem undated_publishing (published : Uuid → Bool) (batchId : Uuid) (publishedAt : Time)
    {r r' : AcademicRecord} (before : Standing.undated r = stamped published r') :
    Standing.undated (publishing batchId publishedAt r) =
      stamped (fun id => decide (batchId = id) || published id) r' := by
  have batch : r.resultBatchId = r'.resultBatchId := by
    have same := congrArg (·.resultBatchId) before
    refine same.trans ?_
    unfold stamped
    split <;> rfl
  have now : Standing.undated (publishing batchId publishedAt r) =
      if r'.resultBatchId == some batchId then { Standing.undated r with status := .published }
      else Standing.undated r := by
    unfold publishing
    rw [batch]
    split <;> rfl
  rw [now, before]
  unfold stamped
  cases found : r'.resultBatchId with
  | none => rfl
  | some id =>
    by_cases here : batchId = id
    · subst here
      by_cases old : published batchId <;> simp [old, found, Standing.undated]
    · have other : (some id == some batchId) = false := by simpa using Ne.symm here
      rw [other, Option.any_some, Option.any_some, decide_eq_false here, Bool.false_or]
      rfl

/-- The records of a store after one more publication, without their dates. -/
theorem map_undated_publishing {published : Uuid → Bool} {batchId : Uuid} {publishedAt : Time}
    {rows origin : List AcademicRecord}
    (before : rows.map Standing.undated = origin.map (stamped published)) :
    (rows.map (publishing batchId publishedAt)).map Standing.undated =
      origin.map (stamped fun id => decide (batchId = id) || published id) := by
  induction rows generalizing origin with
  | nil => rw [List.map_eq_nil_iff.mp before.symm]; rfl
  | cons r rows ih =>
    cases origin with
    | nil => exact absurd before (by simp)
    | cons r' origin =>
      obtain ⟨first, rest⟩ := List.cons.inj before
      rw [List.map_cons, List.map_cons, List.map_cons, ih rest,
        undated_publishing published batchId publishedAt first]

open Standing in
/-- The standing of an enrolment is that of the records there are now, but for its time. -/
def Current (s : Store) (id : Uuid) : Prop :=
  ∃ enrolment standing, s.enrolments.find? id = some enrolment ∧
    s.academicStandings.find? id = some standing ∧
      ∀ now, timeless standing = timeless (standingOf s now enrolment)

theorem core_of_timeless {left right : AcademicStanding}
    (same : Standing.timeless left = Standing.timeless right) :
    Standing.core left = Standing.core right := by
  show Standing.core (Standing.timeless left) = Standing.core (Standing.timeless right)
  rw [same]

/-- A current standing stays current when the same records count. -/
theorem Current.congr {s t : Store} {id : Uuid} (current : Current s id)
    (enrolments : t.enrolments = s.enrolments) (rules : t.gradingRuleSets = s.gradingRuleSets)
    (standings : t.academicStandings.find? id = s.academicStandings.find? id)
    (counted : Standing.countedRecords t id = Standing.countedRecords s id) : Current t id := by
  obtain ⟨enrolment, standing, found, stored, is⟩ := current
  have owned : enrolment.uuid = id := Table.find?_key found
  refine ⟨enrolment, standing, by rw [enrolments]; exact found, standings.trans stored,
    fun now => ?_⟩
  rw [Standing.standingOf_congr rules (by rw [owned]; exact counted) now]
  exact is now

/-- **An enrolment with a record in the batch** has a current standing after the publication. -/
theorem current_of_inside {plan : PublishPlan} {s t : Store} (publishes : Publishes plan s t)
    {id : Uuid} {enrolment : Enrolment} (found : s.enrolments.find? id = some enrolment)
    (inside : id ∈ plan.records.map (·.1.enrolmentId)) : Current t id := by
  have written := publishes.standings id enrolment found
  rw [if_pos inside] at written
  exact ⟨enrolment, _, by rw [publishes.enrolments]; exact found, written, fun now =>
    Standing.timeless_standingOf t _ now enrolment⟩

/-- **A current standing stays current** when no record of its enrolment is in the batch. -/
theorem current_of_outside {plan : PublishPlan} {s t : Store} (publishes : Publishes plan s t)
    {id : Uuid} (outside : id ∉ plan.records.map (·.1.enrolmentId))
    (foreign : ∀ r ∈ s.academicRecords.rows, r.enrolmentId = id →
      r.resultBatchId ≠ some plan.batch.uuid) (current : Current s id) : Current t id := by
  refine current.congr publishes.enrolments publishes.rules ?_ ?_
  · obtain ⟨enrolment, standing, found, -⟩ := current
    exact (publishes.standings id enrolment found).trans (if_neg outside)
  · refine Standing.countedRecords_map publishes.records (fun r inside owner => if_neg ?_)
      (enrolmentId_publishing _ _)
    exact fun refers => foreign r inside owner (by simpa using refers)

end Governance

end AcadID
