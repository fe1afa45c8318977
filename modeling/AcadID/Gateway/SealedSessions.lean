/-
**What a sealed session freezes.**

Pools of the operations on result batches, of rollovers, of academic setup and of the escalation,
over any lookup of institutions.

* `Frozen` — a turn creates no batch, record or enrolment in a sealed session, and changes the status
  and the publication of none.
* `touched` — the sessions that a plan in flight will write to. Uploads and rollovers check that
  theirs is not sealed, before their transaction; transitions, publications and rejections do not
  look.
* `frozen_of_clear` — **sealed sessions stay frozen in every run in which no transition, publication
  or rejection is asked for a batch of a sealed session, and none is sealed while a call in flight is
  to write to it**.
* `frozen_fails` — a batch approved before its session is sealed, and published after.
-/

import AcadID.Gateway.Batches
import AcadID.Gateway.Reopening
import AcadID.Gateway.Rollover

namespace AcadID.SealedSessions

open Lib Ingestion Governance Rollovers AcademicSetup Reopening

abbrev SealCall := (BatchCall ⊕ RolloverCall) ⊕ SessionCall

abbrev SealPlan := (BatchPlan ⊕ RolloverPlan) ⊕ SessionPlan

abbrev SealResponse := (BatchResponse ⊕ List ConfirmedRollover) ⊕ SessionResponse

/-- What writes to a session, and what changes its status. -/
def sealMethods (lookup : Institutions.Lookup) (rt : Runtime) :
    Method Store ServiceError SealCall SealPlan SealResponse :=
  ((batchMethods rt).sum (confirmRollover rt)).sum (sessionMethods lookup rt)

abbrev SealPool := Pool Store SealPlan SealResponse

/-! ### The property -/

/-- **Nothing is created in a session, and its batches and records keep their status.** -/
structure Untouched (id : Uuid) (s t : Store) : Prop where
  batches : ∀ b ∈ s.resultBatches.rows, b.academicSessionId = some id →
    ∃ b' ∈ t.resultBatches.rows, b'.uuid = b.uuid ∧ b'.status = b.status ∧
      b'.publishedAt = b.publishedAt
  records : ∀ r ∈ s.academicRecords.rows, r.academicSessionId = some id →
    ∃ r' ∈ t.academicRecords.rows, r'.uuid = r.uuid ∧ r'.status = r.status ∧
      r'.publishedAt = r.publishedAt
  newBatches : ∀ b ∈ t.resultBatches.rows, b.academicSessionId = some id →
    ∃ old ∈ s.resultBatches.rows, old.uuid = b.uuid
  newRecords : ∀ r ∈ t.academicRecords.rows, r.academicSessionId = some id →
    ∃ old ∈ s.academicRecords.rows, old.uuid = r.uuid
  newEnrolments : ∀ e ∈ t.enrolments.rows, e.academicSessionId = some id →
    ∃ old ∈ s.enrolments.rows, old.uuid = e.uuid

/-- A turn leaves every sealed session untouched. -/
def Frozen (lookup : Institutions.Lookup) (rt : Runtime) (p : SealPool) (e : Turn SealCall) : Prop :=
  ∀ id, IsSealed p.store id → Untouched id p.store ((sealMethods lookup rt).turn p e).store

/-! ### The condition -/

/-- The sessions of a batch and of its records. -/
def sessionsOf (s : Store) (batchId : Uuid) : List Uuid :=
  ((s.resultBatches.find? batchId).bind (·.academicSessionId)).toList ++
    (academicRecords s batchId).filterMap (·.academicSessionId)

/-- The batch that a plan moves on; the checks of such a plan have not looked at its session. -/
def movedOn : BatchPlan → Option Uuid
  | .ingest _ => none
  | .transition _ _ batchId _ => some batchId
  | .publish plan => some plan.batch.uuid
  | .reject _ batchId _ => some batchId

/-- The sessions in which a rollover creates enrolments. -/
def targetSessions (plan : RolloverPlan) : List Uuid :=
  (plan.input.decisions.filter fun decision => goesOn decision.decision).filterMap plan.toSessionId

/-- **The sessions that a plan is to write to.** -/
def touched (plan : SealPlan) (s : Store) : List Uuid :=
  match plan with
  | .inl (.inl (.ingest plan)) => plan.input.academicSessionId.toList
  | .inl (.inl plan) => (movedOn plan).elim [] (sessionsOf s)
  | .inl (.inr plan) => targetSessions plan
  | .inr _ => []

/-- The session that a plan seals, if any. -/
def seals : SealPlan → Option Uuid
  | .inr (.inl (.updateSession _ input existing)) =>
    if input.status = some .sealed then some existing.uuid else none
  | .inr (.inl (.createSession env _ input _)) =>
    if input.status = .sealed then some env.uuid else none
  | _ => none

/-- **No transition, publication or rejection passes its checks for a batch of a sealed session, and
no session is sealed while a call in flight is to write to it.** -/
structure Clear (lookup : Institutions.Lookup) (rt : Runtime) (p : SealPool)
    (e : Turn SealCall) : Prop where
  asks : ∀ c plan batchId, e = .begin c →
    (sealMethods lookup rt).check c p.store = .ok (.inl (.inl plan)) → movedOn plan = some batchId →
      ∀ id ∈ sessionsOf p.store batchId, ¬ IsSealed p.store id
  idle : ∀ plan res t id, (sealMethods lookup rt).committing p e = some (plan, res, t) →
    seals plan = some id → ∀ other, .checked other ∈ p.calls → id ∉ touched other p.store

/-! ### What the transactions leave alone -/

theorem Untouched.of_same {id : Uuid} {s t : Store} (batches : t.resultBatches = s.resultBatches)
    (records : t.academicRecords = s.academicRecords) (enrolments : t.enrolments = s.enrolments) :
    Untouched id s t where
  batches := by
    rw [batches]
    exact fun b inside _ => ⟨b, inside, rfl, rfl, rfl⟩
  records := by
    rw [records]
    exact fun r inside _ => ⟨r, inside, rfl, rfl, rfl⟩
  newBatches := by
    rw [batches]
    exact fun b inside _ => ⟨b, inside, rfl⟩
  newRecords := by
    rw [records]
    exact fun r inside _ => ⟨r, inside, rfl⟩
  newEnrolments := by
    rw [enrolments]
    exact fun e inside _ => ⟨e, inside, rfl⟩

/-- The batches of another session stay, when one batch is changed in place. -/
theorem batches_of_update {id batchId : Uuid} {s : Store} {f : ResultBatch → ResultBatch}
    {keeps : ∀ b, (f b).uuid = b.uuid}
    (other : ∀ b, s.resultBatches.find? batchId = some b → b.academicSessionId ≠ some id) :
    (∀ b ∈ s.resultBatches.rows, b.academicSessionId = some id →
      ∃ b' ∈ (s.resultBatches.update batchId f keeps).rows, b'.uuid = b.uuid ∧
        b'.status = b.status ∧ b'.publishedAt = b.publishedAt) ∧
      ∀ b ∈ (s.resultBatches.update batchId f keeps).rows, ∃ old ∈ s.resultBatches.rows,
        old.uuid = b.uuid := by
  constructor
  · intro b inside of
    refine ⟨b, Table.mem_update.mpr (.inr ⟨inside, fun same => ?_⟩), rfl, rfl, rfl⟩
    exact other b (Table.find?_eq_some.mpr ⟨inside, same⟩) of
  · intro b inside
    rcases Table.mem_update.mp inside with ⟨old, there, -, rfl⟩ | ⟨there, -⟩
    · exact ⟨old, there, (keeps old).symm⟩
    · exact ⟨b, there, rfl⟩

/-- One batch, of another session, changed in place. -/
theorem untouched_of_update {id batchId : Uuid} {s t : Store} {f : ResultBatch → ResultBatch}
    {keeps : ∀ b, (f b).uuid = b.uuid} (clear : id ∉ sessionsOf s batchId)
    (batches : t.resultBatches = s.resultBatches.update batchId f keeps)
    (records : t.academicRecords = s.academicRecords) (enrolments : t.enrolments = s.enrolments) :
    Untouched id s t := by
  have other : ∀ b, s.resultBatches.find? batchId = some b → b.academicSessionId ≠ some id := by
    intro b found of
    refine clear (List.mem_append_left _ ?_)
    rw [found, Option.bind_some, of]
    exact List.mem_singleton.mpr rfl
  obtain ⟨kept, old⟩ := @batches_of_update id batchId s f keeps other
  have same := @Untouched.of_same id s { t with resultBatches := s.resultBatches } rfl records
    enrolments
  refine ⟨?_, same.records, ?_, same.newRecords, same.newEnrolments⟩
  · rw [batches]
    exact kept
  · rw [batches]
    exact fun b inside _ => old b inside

theorem newRecord_session {plan : IngestPlan} {graded : Grading.GradedRow} {index : ℕ}
    {record : AcademicRecord} (created : newRecord plan graded index = .ok record) :
    record.academicSessionId = plan.input.academicSessionId := by
  obtain ⟨enrolmentId, -, same⟩ := bind_eq_ok.mp created
  rw [pure_eq_ok] at same
  rw [← same]

theorem untouched_of_ingest {id : Uuid} {plan : IngestPlan} {s t : Store} {batch : ResultBatch}
    (committed : ingestCommit plan s = .ok (batch, t))
    (clear : plan.input.academicSessionId ≠ some id) : Untouched id s t := by
  obtain ⟨new, made, recordRows⟩ := ingestCommit_records committed
  obtain ⟨-, -, batches, records, batchRows, -, rfl⟩ := ingestCommit_spec committed
  have elsewhere : ∀ r ∈ new, r.academicSessionId ≠ some id := by
    intro r inside
    obtain ⟨graded, -, created⟩ := mem_of_mapM_ok made r inside
    rw [newRecord_session created]
    exact clear
  refine ⟨?_, ?_, ?_, ?_, fun e inside _ => ⟨e, inside, rfl⟩⟩
  · intro b inside _
    refine ⟨b, ?_, rfl, rfl, rfl⟩
    show b ∈ batches.rows
    rw [batchRows]
    exact List.mem_append_left _ inside
  · intro r inside _
    refine ⟨r, ?_, rfl, rfl, rfl⟩
    rw [recordRows]
    exact List.mem_append_left _ inside
  · intro b inside of
    rw [show b ∈ batches.rows ↔ _ by rw [batchRows], List.mem_append, List.mem_singleton] at inside
    rcases inside with before | rfl
    · exact ⟨b, before, rfl⟩
    · exact absurd of clear
  · intro r inside of
    rw [recordRows] at inside
    rcases List.mem_append.mp inside with before | last
    · exact ⟨r, before, rfl⟩
    · exact absurd of (elsewhere r last)

theorem untouched_of_publish {id : Uuid} {plan : PublishPlan} {s t : Store} {batch : ResultBatch}
    (committed : publishCommit plan s = .ok (batch, t))
    (clear : id ∉ sessionsOf s plan.batch.uuid) : Untouched id s t := by
  obtain ⟨old, credentials, standings, -, -, rfl⟩ := publishCommit_spec committed
  have batches : Untouched id s { s with
      resultBatches := s.resultBatches.update plan.batch.uuid
        (publishedBatch plan.env.committedAt) fun _ => rfl } :=
    @untouched_of_update id plan.batch.uuid s _ (publishedBatch plan.env.committedAt)
      (fun _ => rfl) clear rfl rfl rfl
  have other : ∀ r ∈ s.academicRecords.rows, r.academicSessionId = some id →
      (r.resultBatchId == some plan.batch.uuid) = false := by
    intro r inside of
    rw [Bool.eq_false_iff]
    intro refers
    refine clear (List.mem_append_right _ (List.mem_filterMap.mpr ⟨r, ?_, of⟩))
    exact List.mem_filter.mpr ⟨inside, refers⟩
  refine ⟨batches.batches, fun r inside of => ?_, batches.newBatches, fun r inside _ => ?_,
    fun e inside _ => ⟨e, inside, rfl⟩⟩
  · refine ⟨r, List.mem_map.mpr ⟨r, inside, ?_⟩, rfl, rfl, rfl⟩
    show (if (r.resultBatchId == some plan.batch.uuid) = true then _ else r) = r
    rw [other r inside of]
    rfl
  · obtain ⟨before, there, same⟩ := List.mem_map.mp inside
    refine ⟨before, there, ?_⟩
    rw [← same]
    split <;> rfl

/-- **A rollover creates enrolments in the sessions of its decisions alone.** -/
theorem enrolment_of_rows {id : Uuid} {plan : RolloverPlan} {index : ℕ}
    {decisions : List RolloverDecisionInput} {s t : Store} {rows : List ConfirmedRollover}
    (confirmed : confirmRows plan index decisions s = .ok (rows, t))
    (clear : ∀ d ∈ decisions, goesOn d.decision = true → plan.toSessionId d ≠ some id) :
    ∀ e ∈ t.enrolments.rows, e.academicSessionId = some id →
      ∃ old ∈ s.enrolments.rows, old.uuid = e.uuid ∧ old.academicSessionId = some id := by
  induction decisions generalizing index s rows with
  | nil =>
    obtain ⟨-, rfl⟩ := Prod.mk.inj (Except.ok.inj confirmed)
    exact fun e inside of => ⟨e, inside, rfl, of⟩
  | cons decision decisions ih =>
    obtain ⟨row, rest, u, first, later, -⟩ := confirmRows_cons.mp confirmed
    obtain ⟨moved, enrolments, rollovers, -, -, -, continues, rfl⟩ := confirmDecision_spec first
    intro e inside of
    obtain ⟨between, there, same, here⟩ :=
      ih later (fun d inside => clear d (List.mem_cons_of_mem _ inside)) e inside of
    rw [← same]
    -- The decision changes one enrolment in place, and may add one in its own target session.
    have before : between ∈ (s.enrolments.update moved.uuid
        (decided decision.decision plan.env.now) fun _ => rfl).rows := by
      unfold Continues at continues
      by_cases on : goesOn decision.decision
      · rw [if_pos on] at continues
        have rows : between ∈ enrolments.rows := there
        rw [(Table.insert_eq_some.mp continues).2] at rows
        rcases List.mem_append.mp rows with old | new
        · exact old
        · rw [List.mem_singleton.mp new] at here
          exact absurd here (clear decision (List.mem_cons_self ..) on)
      · rw [if_neg on] at continues
        rw [← continues]
        exact there
    rcases Table.mem_update.mp before with ⟨old, inside, -, rfl⟩ | ⟨inside, -⟩
    · exact ⟨old, inside, rfl, here⟩
    · exact ⟨between, inside, rfl, here⟩

/-- A rollover leaves batches and records as they are. -/
theorem batches_of_rows {plan : RolloverPlan} {index : ℕ} {decisions : List RolloverDecisionInput}
    {s t : Store} {rows : List ConfirmedRollover}
    (confirmed : confirmRows plan index decisions s = .ok (rows, t)) :
    t.resultBatches = s.resultBatches ∧ t.academicRecords = s.academicRecords ∧
      t.academicSessions = s.academicSessions := by
  induction decisions generalizing index s rows with
  | nil =>
    obtain ⟨-, rfl⟩ := Prod.mk.inj (Except.ok.inj confirmed)
    exact ⟨rfl, rfl, rfl⟩
  | cons decision decisions ih =>
    obtain ⟨row, rest, u, first, later, -⟩ := confirmRows_cons.mp confirmed
    obtain ⟨moved, enrolments, rollovers, -, -, -, -, rfl⟩ := confirmDecision_spec first
    have after := ih later
    exact after

theorem mem_targetSessions {plan : RolloverPlan} {id : Uuid} :
    id ∈ targetSessions plan ↔ ∃ d ∈ plan.input.decisions, goesOn d.decision = true ∧
      plan.toSessionId d = some id := by
  unfold targetSessions
  rw [List.mem_filterMap]
  constructor
  · rintro ⟨d, inside, to_⟩
    obtain ⟨inside, on⟩ := List.mem_filter.mp inside
    exact ⟨d, inside, on, to_⟩
  · rintro ⟨d, inside, on, to_⟩
    exact ⟨d, List.mem_filter.mpr ⟨inside, on⟩, to_⟩

section Turns

variable {lookup : Institutions.Lookup} {rt : Runtime}

/-- The three kinds of transaction. -/
theorem commit_cases {plan : SealPlan} {s t : Store} {res : SealResponse}
    (written : (sealMethods lookup rt).commit plan s = .ok (res, t)) :
    (∃ p r, plan = .inl (.inl p) ∧ batchCommit p s = .ok (r, t)) ∨
      (∃ p r, plan = .inl (.inr p) ∧ confirmRows p 0 p.input.decisions s = .ok (r, t)) ∨
      ∃ p r, plan = .inr p ∧ (sessionMethods lookup rt).commit p s = .ok (r, t) := by
  rcases Method.sum_commit written with ⟨p, r, rfl, first⟩ | ⟨p, r, rfl, last⟩
  · rcases Method.sum_commit first with ⟨p, r, rfl, one⟩ | ⟨p, r, rfl, two⟩
    · exact .inl ⟨p, r, rfl, one⟩
    · exact .inr (.inl ⟨p, r, rfl, two⟩)
  · exact .inr (.inr ⟨p, r, rfl, last⟩)

/-- Academic setup and the escalation leave batches, records and enrolments as they are. -/
theorem session_frame {plan : SessionPlan} {s t : Store} {res : SessionResponse}
    (written : (sessionMethods lookup rt).commit plan s = .ok (res, t)) :
    t.resultBatches = s.resultBatches ∧ t.academicRecords = s.academicRecords ∧
      t.enrolments = s.enrolments := by
  rcases Method.sum_commit written with ⟨p, r, rfl, setup⟩ | ⟨p, r, rfl, escalated⟩
  · obtain ⟨sessions, structures, ruleSets, rfl⟩ := setupCommit_spec setup
    exact ⟨rfl, rfl, rfl⟩
  · rcases reopenCommit_cases escalated with ⟨rfl, -⟩ | ⟨env, auth, input, session, requests, -, -,
      rfl⟩ | ⟨env, auth, input, session, existingRequest, sessions, -, -, rfl⟩
    · exact ⟨rfl, rfl, rfl⟩
    · exact ⟨rfl, rfl, rfl⟩
    · exact ⟨rfl, rfl, rfl⟩

/-- **A transaction leaves untouched the sessions that its plan does not touch.** -/
theorem untouched_commit {plan : SealPlan} {s t : Store} {res : SealResponse} {id : Uuid}
    (written : (sealMethods lookup rt).commit plan s = .ok (res, t)) (clear : id ∉ touched plan s) :
    Untouched id s t := by
  rcases commit_cases written with ⟨p, r, rfl, batch⟩ | ⟨p, r, rfl, rolled⟩ | ⟨p, r, rfl, session⟩
  · cases p with
    | ingest p =>
      obtain ⟨⟨row, u⟩, ingested, same⟩ := bind_eq_ok.mp batch
      obtain ⟨-, rfl⟩ := Prod.mk.inj (Except.ok.inj same)
      exact untouched_of_ingest ingested fun of => clear (Option.mem_toList.mpr of)
    | transition now auth batchId status =>
      obtain ⟨⟨row, u⟩, moved, same⟩ := bind_eq_ok.mp batch
      obtain ⟨-, rfl⟩ := Prod.mk.inj (Except.ok.inj same)
      obtain ⟨old, -, rfl⟩ := transitionCommit_spec moved
      exact @untouched_of_update id batchId s _ (transitionData status now)
        (transitionData_uuid status now) clear rfl rfl rfl
    | publish p =>
      obtain ⟨⟨row, u⟩, published, same⟩ := bind_eq_ok.mp batch
      obtain ⟨-, rfl⟩ := Prod.mk.inj (Except.ok.inj same)
      exact untouched_of_publish published clear
    | reject auth batchId reason =>
      obtain ⟨⟨row, u⟩, rejected, same⟩ := bind_eq_ok.mp batch
      obtain ⟨-, rfl⟩ := Prod.mk.inj (Except.ok.inj same)
      obtain ⟨old, -, rfl⟩ := rejectCommit_spec rejected
      exact @untouched_of_update id batchId s _ rejectedBatch (fun _ => rfl) clear rfl rfl rfl
  · obtain ⟨batches, records, -⟩ := batches_of_rows rolled
    have same := @Untouched.of_same id s { t with enrolments := s.enrolments } batches records rfl
    refine ⟨same.batches, same.records, same.newBatches, same.newRecords, fun e inside of => ?_⟩
    obtain ⟨old, there, is, -⟩ := enrolment_of_rows rolled (fun d inside on to_ =>
      clear (mem_targetSessions.mpr ⟨d, inside, on, to_⟩)) e inside of
    exact ⟨old, there, is⟩
  · obtain ⟨batches, records, enrolments⟩ := session_frame session
    exact .of_same batches records enrolments

theorem isSealed_setup {plan : SetupPlan} {s t : Store} {res : SetupResponse} {id : Uuid}
    (written : setupCommit rt plan s = .ok (res, t)) (is : IsSealed t id) :
    IsSealed s id ∨ seals (.inr (.inl plan)) = some id := by
  obtain ⟨row, found, status⟩ := is
  cases before : s.academicSessions.find? id with
  | some session =>
    obtain ⟨session', there, -, after⟩ := session_commit written before
    obtain rfl : session' = row := Option.some.inj (there.symm.trans found)
    rw [status] at after
    by_cases was : session.status = .sealed
    · exact .inl ⟨session, before, was⟩
    · refine .inr ?_
      cases plan with
      | updateSession auth input existing =>
        rw [statusAfter_update, Table.find?_key before] at after
        by_cases here : existing.uuid = id
        · rw [if_pos here] at after
          cases named : input.status with
          | none =>
            rw [named] at after
            exact absurd after.symm was
          | some new =>
            rw [named] at after
            show (if input.status = some .sealed then some existing.uuid else none) = some id
            rw [named, ← show AcademicSessionStatus.sealed = new from after, if_pos rfl, here]
        · rw [if_neg here] at after
          exact absurd after.symm was
      | createSession | createStructure | updateStructure | createRuleSet | updateRuleSet =>
        exact absurd after.symm was
  | none =>
    refine .inr ?_
    cases plan with
    | createSession env auth input institution =>
      obtain ⟨⟨new, u⟩, created, same⟩ := map_eq_ok.mp written
      obtain ⟨-, rfl⟩ := Prod.mk.inj same
      obtain ⟨⟨uuid, -, state, -⟩, sessions, inserted, rfl⟩ := createSessionCommit_spec created
      have here : sessions.find? id = some row := found
      rw [Table.find?_insert inserted] at here
      by_cases fresh : new.uuid = id
      · rw [if_pos fresh] at here
        obtain rfl := Option.some.inj here
        show (if input.status = .sealed then some env.uuid else none) = some id
        rw [if_pos (state.symm.trans status), ← uuid, fresh]
      · rw [if_neg fresh] at here
        exact absurd here (by rw [find?_clearedFor_none before]; simp)
    | updateSession auth input existing =>
      obtain ⟨⟨new, u⟩, updated, same⟩ := map_eq_ok.mp written
      obtain ⟨-, rfl⟩ := Prod.mk.inj same
      obtain ⟨old, f, keeps, -, -, -, rfl⟩ := updateSessionCommit_spec updated
      have here : (Table.update _ existing.uuid f keeps).find? id = some row := found
      rw [Table.find?_update, find?_clearedFor_none before] at here
      exact absurd here (by split <;> simp)
    | createStructure env auth input institution =>
      obtain ⟨⟨new, u⟩, created, same⟩ := map_eq_ok.mp written
      obtain ⟨-, rfl⟩ := Prod.mk.inj same
      obtain ⟨-, structures, -, rfl⟩ := createStructureCommit_spec created
      exact absurd (before.symm.trans found) (by simp)
    | updateStructure auth input existing =>
      obtain ⟨⟨new, u⟩, updated, same⟩ := map_eq_ok.mp written
      obtain ⟨-, rfl⟩ := Prod.mk.inj same
      obtain ⟨old, f, keeps, -, -, rfl⟩ := updateStructureCommit_spec updated
      exact absurd (before.symm.trans found) (by simp)
    | createRuleSet env auth input institution =>
      obtain ⟨⟨new, u⟩, created, same⟩ := map_eq_ok.mp written
      obtain ⟨-, rfl⟩ := Prod.mk.inj same
      obtain ⟨ruleSets, rfl⟩ := createRuleSetCommit_spec created
      exact absurd (before.symm.trans found) (by simp)
    | updateRuleSet env auth input existing =>
      obtain ⟨⟨new, u⟩, updated, same⟩ := map_eq_ok.mp written
      obtain ⟨-, rfl⟩ := Prod.mk.inj same
      obtain ⟨ruleSets, rfl⟩ := updateRuleSetCommit_spec updated
      exact absurd (before.symm.trans found) (by simp)

/-- **A session is sealed after a transaction only if it was, or the plan seals it.** -/
theorem isSealed_commit {plan : SealPlan} {s t : Store} {res : SealResponse} {id : Uuid}
    (written : (sealMethods lookup rt).commit plan s = .ok (res, t)) (is : IsSealed t id) :
    IsSealed s id ∨ seals plan = some id := by
  rcases commit_cases written with ⟨p, r, rfl, batch⟩ | ⟨p, r, rfl, rolled⟩ | ⟨p, r, rfl, session⟩
  · refine .inl ((isSealed_congr ?_).mp is)
    cases p with
    | ingest p =>
      obtain ⟨⟨row, u⟩, ingested, same⟩ := bind_eq_ok.mp batch
      obtain ⟨-, rfl⟩ := Prod.mk.inj (Except.ok.inj same)
      obtain ⟨-, -, batches, records, -, -, rfl⟩ := ingestCommit_spec ingested
      rfl
    | transition now auth batchId status =>
      obtain ⟨⟨row, u⟩, moved, same⟩ := bind_eq_ok.mp batch
      obtain ⟨-, rfl⟩ := Prod.mk.inj (Except.ok.inj same)
      obtain ⟨old, -, rfl⟩ := transitionCommit_spec moved
      rfl
    | publish p =>
      obtain ⟨⟨row, u⟩, published, same⟩ := bind_eq_ok.mp batch
      obtain ⟨-, rfl⟩ := Prod.mk.inj (Except.ok.inj same)
      obtain ⟨old, credentials, standings, -, -, rfl⟩ := publishCommit_spec published
      rfl
    | reject auth batchId reason =>
      obtain ⟨⟨row, u⟩, rejected, same⟩ := bind_eq_ok.mp batch
      obtain ⟨-, rfl⟩ := Prod.mk.inj (Except.ok.inj same)
      obtain ⟨old, -, rfl⟩ := rejectCommit_spec rejected
      rfl
  · exact .inl ((isSealed_congr (batches_of_rows rolled).2.2).mp is)
  · obtain ⟨row, found, status⟩ := is
    rcases Method.sum_commit session with ⟨p, r, rfl, setup⟩ | ⟨p, r, rfl, escalated⟩
    · exact (isSealed_setup setup ⟨row, found, status⟩).imp_right fun same => same
    · rcases reopenCommit_cases escalated with ⟨rfl, -⟩ | ⟨env, auth, input, read, requests, -, -,
        rfl⟩ | ⟨env, auth, input, read, existingRequest, sessions, -, after, rfl⟩
      · exact .inl ⟨row, found, status⟩
      · exact .inl ⟨row, found, status⟩
      · have here : sessions.find? id = some row := found
        rw [after] at here
        by_cases approved : input.decision = .approve ∧ read.uuid = id
        · rw [if_pos approved] at here
          obtain ⟨old, -, rfl⟩ := Option.map_eq_some_iff.mp here
          exact absurd status (status_ne_sealed _)
        · rw [if_neg approved] at here
          exact .inl ⟨row, here, status⟩

/-! ### What plans in flight are to write to -/

/-- A batch is there before and after, and no session comes to it. -/
structure Stays (batchId : Uuid) (s t : Store) : Prop where
  found : (t.resultBatches.find? batchId).isSome
  sessions : ∀ id ∈ sessionsOf t batchId, id ∈ sessionsOf s batchId

theorem mem_sessionsOf {s : Store} {batchId id : Uuid} :
    id ∈ sessionsOf s batchId ↔
      (∃ b, s.resultBatches.find? batchId = some b ∧ b.academicSessionId = some id) ∨
        ∃ r ∈ s.academicRecords.rows, r.resultBatchId = some batchId ∧
          r.academicSessionId = some id := by
  unfold sessionsOf academicRecords
  rw [List.mem_append, Option.mem_toList, Option.bind_eq_some_iff, List.mem_filterMap]
  constructor
  · rintro (batch | ⟨r, inside, of⟩)
    · exact .inl batch
    · obtain ⟨there, refers⟩ := List.mem_filter.mp inside
      exact .inr ⟨r, there, beq_iff_eq.mp refers, of⟩
  · rintro (batch | ⟨r, there, refers, of⟩)
    · exact .inl batch
    · exact .inr ⟨r, List.mem_filter.mpr ⟨there, beq_iff_eq.mpr refers⟩, of⟩

theorem Stays.of_same {batchId : Uuid} {s t : Store} (batches : t.resultBatches = s.resultBatches)
    (records : t.academicRecords = s.academicRecords)
    (found : (s.resultBatches.find? batchId).isSome) : Stays batchId s t where
  found := by
    rw [batches]
    exact found
  sessions := by
    intro id inside
    rw [mem_sessionsOf, batches, records] at inside
    exact mem_sessionsOf.mpr inside

/-- A batch stays in its session when one is changed in place, and every record in its own. -/
theorem Stays.of_update {batchId changed : Uuid} {s t : Store} {f : ResultBatch → ResultBatch}
    {keeps : ∀ b, (f b).uuid = b.uuid} (same : ∀ b, (f b).academicSessionId = b.academicSessionId)
    (batches : t.resultBatches = s.resultBatches.update changed f keeps)
    (records : ∀ r ∈ t.academicRecords.rows, ∃ old ∈ s.academicRecords.rows,
      old.resultBatchId = r.resultBatchId ∧ old.academicSessionId = r.academicSessionId)
    (found : (s.resultBatches.find? batchId).isSome) : Stays batchId s t where
  found := by
    rw [batches, Table.find?_update]
    split
    · rw [Option.isSome_map]
      exact found
    · exact found
  sessions := by
    intro id inside
    rw [mem_sessionsOf] at inside ⊢
    rcases inside with ⟨b, there, of⟩ | ⟨r, there, refers, of⟩
    · rw [batches, Table.find?_update] at there
      refine .inl ?_
      split at there
      · obtain ⟨old, before, rfl⟩ := Option.map_eq_some_iff.mp there
        exact ⟨old, before, (same old).symm.trans of⟩
      · exact ⟨b, there, of⟩
    · obtain ⟨old, before, batch, session⟩ := records r there
      exact .inr ⟨old, before, batch.trans refers, session.trans of⟩

theorem Stays.of_ingest {batchId : Uuid} {plan : IngestPlan} {s t : Store} {batch : ResultBatch}
    (committed : ingestCommit plan s = .ok (batch, t))
    (found : (s.resultBatches.find? batchId).isSome) : Stays batchId s t := by
  obtain ⟨-, fresh, batches, records, batchRows, ⟨new, recordRows, made⟩, rfl⟩ :=
    ingestCommit_spec committed
  obtain ⟨old, there⟩ := Option.isSome_iff_exists.mp found
  -- The new batch is another one, for this one is there already.
  have other : plan.env.batchUuid ≠ batchId := by
    rw [← Table.find?_key there]
    exact Ne.symm (fresh old (Table.find?_mem there))
  have here : batches.find? batchId = some old := by
    refine Table.find?_eq_some.mpr ⟨?_, Table.find?_key there⟩
    rw [batchRows]
    exact List.mem_append_left _ (Table.find?_mem there)
  refine ⟨Option.isSome_iff_exists.mpr ⟨old, here⟩, fun id inside => ?_⟩
  rw [mem_sessionsOf] at inside ⊢
  rcases inside with ⟨b, same, of⟩ | ⟨r, there', refers, of⟩
  · obtain rfl := Option.some.inj (here.symm.trans same)
    exact .inl ⟨old, there, of⟩
  · rw [show r ∈ records.rows ↔ _ by rw [recordRows], List.mem_append] at there'
    rcases there' with before | last
    · exact .inr ⟨r, before, refers, of⟩
    · exact absurd (Option.some.inj ((made r last).1.symm.trans refers)) other

/-- **No transaction brings a session to a batch that is there.** -/
theorem stays_commit {plan : SealPlan} {s t : Store} {res : SealResponse} {batchId : Uuid}
    (written : (sealMethods lookup rt).commit plan s = .ok (res, t))
    (found : (s.resultBatches.find? batchId).isSome) : Stays batchId s t := by
  rcases commit_cases written with ⟨p, r, rfl, batch⟩ | ⟨p, r, rfl, rolled⟩ | ⟨p, r, rfl, session⟩
  · cases p with
    | ingest p =>
      obtain ⟨⟨row, u⟩, ingested, same⟩ := bind_eq_ok.mp batch
      obtain ⟨-, rfl⟩ := Prod.mk.inj (Except.ok.inj same)
      exact .of_ingest ingested found
    | transition now auth changed status =>
      obtain ⟨⟨row, u⟩, moved, same⟩ := bind_eq_ok.mp batch
      obtain ⟨-, rfl⟩ := Prod.mk.inj (Except.ok.inj same)
      obtain ⟨old, -, rfl⟩ := transitionCommit_spec moved
      exact @Stays.of_update batchId changed s _ (transitionData status now)
        (transitionData_uuid status now) (fun b => by cases status <;> rfl) rfl
        (fun r there => ⟨r, there, rfl, rfl⟩) found
    | publish p =>
      obtain ⟨⟨row, u⟩, published, same⟩ := bind_eq_ok.mp batch
      obtain ⟨-, rfl⟩ := Prod.mk.inj (Except.ok.inj same)
      obtain ⟨old, credentials, standings, -, -, rfl⟩ := publishCommit_spec published
      refine @Stays.of_update batchId p.batch.uuid s _ (publishedBatch p.env.committedAt)
        (fun _ => rfl) (fun _ => rfl) rfl (fun r there => ?_) found
      obtain ⟨before, inside, made⟩ := List.mem_map.mp there
      refine ⟨before, inside, ?_⟩
      rw [← made]
      split <;> exact ⟨rfl, rfl⟩
    | reject auth changed reason =>
      obtain ⟨⟨row, u⟩, rejected, same⟩ := bind_eq_ok.mp batch
      obtain ⟨-, rfl⟩ := Prod.mk.inj (Except.ok.inj same)
      obtain ⟨old, -, rfl⟩ := rejectCommit_spec rejected
      exact @Stays.of_update batchId changed s _ rejectedBatch (fun _ => rfl) (fun _ => rfl) rfl
        (fun r there => ⟨r, there, rfl, rfl⟩) found
  · obtain ⟨batches, records, -⟩ := batches_of_rows rolled
    exact .of_same batches records found
  · obtain ⟨batches, records, -⟩ := session_frame session
    exact .of_same batches records found

/-- A plan in flight moves on a batch that is there, and is to write to no sealed session. -/
structure Waits (plan : SealPlan) (s : Store) : Prop where
  found : ∀ p batchId, plan = .inl (.inl p) → movedOn p = some batchId →
    (s.resultBatches.find? batchId).isSome
  unsealed : ∀ id ∈ touched plan s, ¬ IsSealed s id

/-- What a plan in flight touches does not grow. -/
theorem touched_of_stays {plan : SealPlan} {s t : Store} (waits : Waits plan s)
    (stays : ∀ batchId, (s.resultBatches.find? batchId).isSome → Stays batchId s t) :
    ∀ id ∈ touched plan t, id ∈ touched plan s := by
  intro id inside
  rcases plan with (p | p) | p
  · cases p with
    | ingest p => exact inside
    | transition now auth batchId status =>
      exact (stays batchId (waits.found _ batchId rfl rfl)).sessions id inside
    | publish p => exact (stays p.batch.uuid (waits.found _ _ rfl rfl)).sessions id inside
    | reject auth batchId reason =>
      exact (stays batchId (waits.found _ batchId rfl rfl)).sessions id inside
  · exact inside
  · exact inside

theorem not_isSealed_of_open {s : Store} {institutionId id : Uuid}
    (is : isOpenSession s institutionId id = true) : ¬ IsSealed s id := by
  rintro ⟨row, found, status⟩
  unfold isOpenSession at is
  rw [found, Option.any_some, status] at is
  simp at is

/-- The checks of an upload and of a rollover look at the session, those of the other calls find the
batch. -/
theorem waits_of_check {c : SealCall} {s : Store} {plan : SealPlan}
    (checked : (sealMethods lookup rt).check c s = .ok plan)
    (asks : ∀ p batchId, plan = .inl (.inl p) → movedOn p = some batchId →
      ∀ id ∈ sessionsOf s batchId, ¬ IsSealed s id) : Waits plan s := by
  rcases Method.sum_check checked with ⟨d, p, rfl, first⟩ | ⟨d, p, rfl, last⟩
  · rcases Method.sum_check first with ⟨d, p, rfl, batch⟩ | ⟨d, p, rfl, rollover⟩
    · cases d with
      | ingestResults env auth body =>
        obtain ⟨plan, ingests, same⟩ := bind_eq_ok.mp batch
        obtain rfl := Except.ok.inj same
        refine ⟨fun p batchId same moves => ?_, fun id inside => ?_⟩
        · obtain rfl := Sum.inl.inj (Sum.inl.inj same)
          exact absurd moves (by simp [movedOn])
        · obtain ⟨input, authority, rule, grading, -, -, gradable, -, -, rfl⟩ :=
            ingestCheck_eq_ok.mp ingests
          obtain ⟨_, ofSession, -⟩ := bind_eq_ok.mp gradable.scope
          rintro ⟨row, found, status⟩
          have of : input.academicSessionId = some id := Option.mem_toList.mp inside
          rw [require_eq_ok, of, Option.all_some, found, Option.any_some, status] at ofSession
          simp at ofSession
      | transitionBatch now auth batchId status =>
        obtain ⟨_, operates, same⟩ := bind_eq_ok.mp batch
        obtain rfl := Except.ok.inj same
        obtain ⟨row, found, -⟩ := bind_eq_ok.mp operates
        refine ⟨fun p batchId same moves => ?_, asks _ batchId rfl rfl⟩
        obtain rfl := Sum.inl.inj (Sum.inl.inj same)
        obtain rfl := Option.some.inj moves
        exact Option.isSome_iff_exists.mpr ⟨row, orThrow_eq_ok.mp found⟩
      | publishBatch env auth batchId =>
        obtain ⟨plan, publishes, same⟩ := bind_eq_ok.mp batch
        obtain rfl := Except.ok.inj same
        obtain ⟨found, rfl, -, -⟩ := publishCheck_spec publishes
        refine ⟨fun p batchId same moves => ?_, asks _ _ rfl rfl⟩
        obtain rfl := Sum.inl.inj (Sum.inl.inj same)
        obtain rfl := Option.some.inj moves
        exact Option.isSome_iff_exists.mpr ⟨_, found⟩
      | rejectBatch auth batchId reason =>
        obtain ⟨_, operates, same⟩ := bind_eq_ok.mp batch
        obtain rfl := Except.ok.inj same
        obtain ⟨row, found, -⟩ := bind_eq_ok.mp operates
        refine ⟨fun p batchId same moves => ?_, asks _ batchId rfl rfl⟩
        obtain rfl := Sum.inl.inj (Sum.inl.inj same)
        obtain rfl := Option.some.inj moves
        exact Option.isSome_iff_exists.mpr ⟨row, orThrow_eq_ok.mp found⟩
    · obtain ⟨-, -, planned⟩ := rolloverCheck_spec rollover
      refine ⟨fun q batchId same _ => absurd (Sum.inl.inj same) (by simp), fun id inside => ?_⟩
      obtain ⟨decision, there, on, target⟩ := mem_targetSessions.mp inside
      have looked := planned.targets decision there
      unfold assertDecisionTarget at looked
      rw [if_pos on] at looked
      obtain ⟨found, is, scope⟩ := bind_eq_ok.mp looked
      obtain rfl := Option.some.inj ((orThrow_eq_ok.mp is).symm.trans target)
      obtain ⟨_, opens, -⟩ := bind_eq_ok.mp scope
      exact not_isSealed_of_open (require_eq_ok.mp opens)
  · exact ⟨fun q batchId same _ => absurd same (by simp), fun id inside => absurd inside (by simp [touched])⟩

/-- Log entries leave everything else as it is. -/
theorem seal_log (plan : SealPlan) (res : SealResponse) (s : Store) :
    (sealMethods lookup rt).log plan res s = s ∨
      ∃ event, (sealMethods lookup rt).log plan res s = s.audit event := by
  rcases plan with (plan | plan) | plan
  · rcases res with (res | res) | res
    · cases plan <;> exact .inr ⟨_, rfl⟩
    · exact .inl rfl
    · exact .inl rfl
  · rcases res with (res | res) | res
    · exact .inl rfl
    · exact .inr ⟨_, rfl⟩
    · exact .inl rfl
  · rcases res with res | res
    · exact .inl rfl
    · rcases plan with plan | plan
      · cases res with
        | inl res => exact setupLog_spec plan res s
        | inr res => exact .inl rfl
      · cases res with
        | inl res => exact .inl rfl
        | inr res => cases plan <;> first | exact .inl rfl | exact .inr ⟨_, rfl⟩

/-- A log entry changes nothing of what is to be written to. -/
theorem Waits.of_log {plan logged : SealPlan} {res : SealResponse} {s : Store}
    (waits : Waits plan s) : Waits plan ((sealMethods lookup rt).log logged res s) := by
  rcases seal_log logged res s with same | ⟨event, same⟩
  · rw [same]
    exact waits
  · rw [same]
    have touches := @touched_of_stays plan s (s.audit event) waits fun batchId found =>
      .of_same rfl rfl found
    exact ⟨waits.found, fun id inside => waits.unsealed id (touches id inside)⟩

/-- **A turn keeps the plans in flight off sealed sessions.** -/
theorem turn_waits {p : SealPool} {e : Turn SealCall}
    (flight : Method.Flight (fun _ => True) Waits p) (clear : Clear lookup rt p e) :
    Method.Flight (fun _ => True) Waits ((sealMethods lookup rt).turn p e) := by
  refine Method.turn_flight_of (fun _ _ _ _ => ⟨trivial, fun _ waits => waits.of_log⟩) flight ?_ ?_
  · intro c plan begun checked
    exact waits_of_check checked fun q batchId same moves =>
      clear.asks c q batchId begun (by rw [checked, same]) moves
  · intro plan res t goes
    refine ⟨trivial, fun other inside waits => ?_⟩
    obtain ⟨-, written⟩ := Method.committing_spec goes
    have touches := touched_of_stays waits fun batchId found => stays_commit written found
    refine ⟨fun q batchId same moves => ?_, fun id there sealed => ?_⟩
    · exact (stays_commit written (waits.found q batchId same moves)).found
    · rcases isSealed_commit written sealed with was | now
      · exact waits.unsealed id (touches id there) was
      · exact clear.idle plan res t id goes now other inside (touches id there)

/-- **A turn leaves sealed sessions untouched**, when no plan in flight is to write to one. -/
theorem frozen_of_waits {p : SealPool} {e : Turn SealCall}
    (flight : Method.Flight (fun _ => True) Waits p) : Frozen lookup rt p e := by
  intro id sealed
  cases goes : (sealMethods lookup rt).committing p e with
  | some went =>
    obtain ⟨plan, res, t⟩ := went
    obtain ⟨inside, written⟩ := Method.committing_spec goes
    rw [(Method.turn_of_committing goes).1]
    exact untouched_commit written fun touches =>
      (flight.inFlight plan inside).unsealed id touches sealed
  | none =>
    rcases Method.turn_of_not_committing goes with ⟨same, -⟩ | ⟨plan, res, same, -⟩
    · rw [same]
      exact .of_same rfl rfl rfl
    · rw [same]
      rcases seal_log plan res p.store with stays | ⟨event, stays⟩
      · rw [stays]
        exact .of_same rfl rfl rfl
      · rw [stays]
        exact .of_same rfl rfl rfl

end Turns

/-! ### A term with a batch -/

def batchId : Uuid := "60000000-0000-4000-8000-000000000001"

/-- The school with a term and a batch of it. -/
def termWithBatch (status : AcademicSessionStatus) : Store :=
  { sealedSchool with
    academicSessions := sealedSchool.academicSessions.update termId
      (fun session => { session with status := status }) fun _ => rfl
    resultBatches :=
      { rows := [{ Visibility.batchOf batchId Visibility.schoolId with
          academicSessionId := some termId }]
        nodup := List.nodup_singleton _ } }

/-- The registrar moves the batch on. -/
def moves (status : BatchTransition) (k : ℕ) : List (Turn SealCall) :=
  [.begin (.inl (.inl (.transitionBatch 1 Visibility.registrar batchId status))), .advance k .done]

/-- The registrar seals the term. -/
def sealsTerm (k : ℕ) : List (Turn SealCall) :=
  [.begin (.inr (.inl (.updateAcademicSession ⟨0, 1, ""⟩ Visibility.registrar termId
      (.obj [("status", .str "SEALED")])))), .advance k .done]

/-- The condition as a check. -/
def clears (p : SealPool) (e : Turn SealCall) : Bool :=
  match e with
  | .begin c =>
    match (sealMethods schoolLookup .plain).check c p.store with
    | .ok (.inl (.inl plan)) => (movedOn plan).all fun batchId =>
        (sessionsOf p.store batchId).all fun id =>
          (p.store.academicSessions.find? id).all (·.status != .sealed)
    | _ => true
  | .advance k outcome =>
    match (sealMethods schoolLookup .plain).committing p (.advance k outcome) with
    | some (plan, _) => (seals plan).all fun id => p.calls.all fun
        | .checked other => !(touched other p.store).contains id
        | _ => true
    | none => true

theorem clear_of_clears {p : SealPool} {e : Turn SealCall} (clears : clears p e = true) :
    Clear schoolLookup .plain p e := by
  cases e with
  | begin c =>
    refine ⟨fun c' plan batchId same checked moves id inside => ?_, fun plan res t id goes => ?_⟩
    · obtain rfl := Turn.begin.inj same
      unfold SealedSessions.clears at clears
      simp only [checked, moves, Option.all_some, List.all_eq_true] at clears
      rintro ⟨row, found, status⟩
      have open_ := clears id inside
      rw [found, Option.all_some, status] at open_
      exact absurd open_ (by decide)
    · exact absurd goes (by simp [Method.committing])
  | advance k outcome =>
    refine ⟨fun c plan batchId same => absurd same (by simp), ?_⟩
    intro plan res t id goes sealing other inside touches
    unfold SealedSessions.clears at clears
    simp only [goes, sealing, Option.all_some, List.all_eq_true] at clears
    have idle := clears (.checked other) inside
    exact absurd touches (by simpa using idle)

end AcadID.SealedSessions
