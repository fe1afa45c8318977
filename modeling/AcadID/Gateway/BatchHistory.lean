/-
**The history of a result batch: what it passed before it was published.**

A run of the four operations on result batches, one after the other, any call of which may fail at
any point. Beside the store runs a `History`, read off the rows alone: the statuses a batch has had
since it was created or last rejected.

* `WorkflowStep` — what the workflow promises of a step: a batch that is published has passed
  `SUBMITTED`, `REVIEWED` and `APPROVED` in this order, and a published batch stays published.
* `staged_batchStep` — **the invariant of guarded steps**: a batch at a stage has passed every
  stage below it, provided no transition skips a stage or leaves `PUBLISHED`, and no rejection
  takes a published batch.
* `workflow_of_guarded` — every guarded run keeps the promise; `workflow_fails` — an unguarded run
  does not: nothing but `publishBatch` looks at the status it finds.
-/

import AcadID.Gateway.Batches
import AcadID.Lib.Run

namespace AcadID.BatchHistory

open Lib Governance Ingestion

/-! ### Runs and histories -/

/-- A call of one of the four operations, and the outcomes of its calls to the database. -/
structure BatchEvent where
  call : BatchCall
  script : List Outcome

/-- The statuses each batch has had since it was created or last rejected, the first one first. -/
abbrev History := Uuid → List AcademicRecordStatus

/-- A store and the history of its batches. -/
structure Tracked where
  store : Store
  history : History

/-- The history of one batch after a step that found the first row and left the second. -/
def passed (before after : Option ResultBatch) (history : List AcademicRecordStatus) :
    List AcademicRecordStatus :=
  match before, after with
  | _, none => history
  | none, some b => [b.status]
  | some a, some b =>
    if a.rejectionCount < b.rejectionCount then [b.status]
    else if b.status = a.status then history
    else history ++ [b.status]

/-- What the rows of two stores add to the history. -/
def observe (before after : Store) (history : History) : History :=
  fun id => passed (before.resultBatches.find? id) (after.resultBatches.find? id) (history id)

/-- The store a call leaves. -/
def batchStep (rt : Runtime) (s : Store) (e : BatchEvent) : Store :=
  ((batchMethods rt).call .database e.call e.script s).store

/-- One step of a run, with its history. -/
def trackedStep (rt : Runtime) (s : Tracked) (e : BatchEvent) : Tracked where
  store := batchStep rt s.store e
  history := observe s.store (batchStep rt s.store e) s.history

/-- The stages of the workflow before publication. -/
def stages : List AcademicRecordStatus :=
  [.submitted, .reviewed, .approved]

/-- **What the workflow promises of a step.** -/
structure WorkflowStep (rt : Runtime) (s : Tracked) (e : BatchEvent) : Prop where
  passed_stages : ∀ b ∈ (trackedStep rt s e).store.resultBatches.rows, b.status = .published →
    stages.Sublist ((trackedStep rt s e).history b.uuid)
  stays_published : ∀ b ∈ s.store.resultBatches.rows, b.status = .published →
    ∃ b' ∈ (trackedStep rt s e).store.resultBatches.rows, b'.uuid = b.uuid ∧ b'.status = .published

/-- The stage of a status. -/
def rank : AcademicRecordStatus → ℕ
  | .submitted => 1
  | .reviewed => 2
  | .approved | .published => 3
  | _ => 0

/-- A plan that skips no stage and leaves published batches alone. -/
def allowed (plan : BatchPlan) (s : Store) : Prop :=
  match plan with
  | .transition _ _ batchId status =>
    ∀ b ∈ s.resultBatches.rows, b.uuid = batchId →
      b.status ≠ .published ∧ rank status.status ≤ rank b.status + 1
  | .reject _ batchId _ => ∀ b ∈ s.resultBatches.rows, b.uuid = batchId → b.status ≠ .published
  | _ => True

/-- Every transition and rejection that goes through is allowed. -/
def Guarded (rt : Runtime) (s : Tracked) (e : BatchEvent) : Prop :=
  ∀ plan res t, (batchMethods rt).committed e.call e.script s.store = some (plan, res, t) →
    allowed plan s.store

instance (plan : BatchPlan) (s : Store) : Decidable (allowed plan s) :=
  match plan with
  | .transition _ _ batchId status =>
    inferInstanceAs (Decidable (∀ b ∈ s.resultBatches.rows, b.uuid = batchId →
      b.status ≠ .published ∧ rank status.status ≤ rank b.status + 1))
  | .reject _ batchId _ =>
    inferInstanceAs (Decidable (∀ b ∈ s.resultBatches.rows, b.uuid = batchId →
      b.status ≠ .published))
  | .ingest _ | .publish _ => isTrue trivial

instance (rt : Runtime) (s : Tracked) (e : BatchEvent) : Decidable (Guarded rt s e) :=
  match went : (batchMethods rt).committed e.call e.script s.store with
  | none => isTrue fun _ _ _ some => by rw [went] at some; exact absurd some (by simp)
  | some (plan, _, _) =>
    decidable_of_iff (allowed plan s.store) (by unfold Guarded; rw [went]; simp)

/-! ### What a commit does to the batches -/

/-- A log entry leaves the batches alone. -/
@[simp] theorem batchLog_resultBatches (plan : BatchPlan) (res : BatchResponse) (s : Store) :
    (batchLog plan res s).resultBatches = s.resultBatches := by
  cases plan <;> rfl

/-- The batch `id` after the commit of a plan, from the batch before. -/
def after (plan : BatchPlan) (id : Uuid) (before : Option ResultBatch) : Option ResultBatch :=
  match plan with
  | .ingest p => if p.env.batchUuid = id then some (newBatch p) else before
  | .transition now _ batchId status =>
    if batchId = id then before.map (transitionData status now) else before
  | .publish p =>
    if p.batch.uuid = id then before.map (publishedBatch p.env.committedAt) else before
  | .reject _ batchId _ => if batchId = id then before.map rejectedBatch else before

/-- **What a commit does to the batches**: an ingestion adds one under a free id, and every other
plan rewrites one. -/
theorem find?_batchCommit {plan : BatchPlan} {s t : Store} {res : BatchResponse}
    (committed : batchCommit plan s = .ok (res, t)) (id : Uuid) :
    t.resultBatches.find? id = after plan id (s.resultBatches.find? id) := by
  cases plan with
  | ingest p =>
    obtain ⟨⟨batch, s'⟩, ingested, same⟩ := bind_eq_ok.mp committed
    rw [pure_eq_ok] at same
    obtain ⟨-, rfl⟩ := Prod.mk.inj same
    obtain ⟨-, free, batches, records, rows, -, rfl⟩ := ingestCommit_spec ingested
    exact Table.find?_insert (Table.insert_eq_some.mpr ⟨free, rows⟩) id
  | transition now auth batchId status =>
    obtain ⟨⟨batch, s'⟩, moved, same⟩ := bind_eq_ok.mp committed
    rw [pure_eq_ok] at same
    obtain ⟨-, rfl⟩ := Prod.mk.inj same
    obtain ⟨old, -, rfl⟩ := transitionCommit_spec moved
    exact Table.find?_update _ batchId _ (transitionData_uuid status now) id
  | publish p =>
    obtain ⟨⟨batch, s'⟩, published, same⟩ := bind_eq_ok.mp committed
    rw [pure_eq_ok] at same
    obtain ⟨-, rfl⟩ := Prod.mk.inj same
    obtain ⟨old, credentials, standings, -, -, rfl⟩ := publishCommit_spec published
    exact Table.find?_update _ _ (publishedBatch p.env.committedAt) (fun _ => rfl) id
  | reject auth batchId reason =>
    obtain ⟨⟨batch, s'⟩, rejected, same⟩ := bind_eq_ok.mp committed
    rw [pure_eq_ok] at same
    obtain ⟨-, rfl⟩ := Prod.mk.inj same
    obtain ⟨old, -, rfl⟩ := rejectCommit_spec rejected
    exact Table.find?_update _ _ rejectedBatch (fun _ => rfl) id

theorem find?_of_ingest {p : IngestPlan} {s t : Store} {res : BatchResponse}
    (committed : batchCommit (.ingest p) s = .ok (res, t)) :
    s.resultBatches.find? p.env.batchUuid = none := by
  obtain ⟨⟨batch, s'⟩, ingested, -⟩ := bind_eq_ok.mp committed
  exact Table.find?_eq_none.mpr (ingestCommit_spec ingested).2.1

/-- **What a call leaves**: the store its transaction wrote, but for the log. -/
theorem batchStep_of_committed {rt : Runtime} {s t : Store} {e : BatchEvent} {plan : BatchPlan}
    {res : BatchResponse}
    (went : (batchMethods rt).committed e.call e.script s = some (plan, res, t)) :
    ∃ events, batchStep rt s e = { t with auditEvents := events } := by
  have left := @Method.call_store _ _ _ _ _ (batchMethods rt) .database e.call e.script s
  rw [went] at left
  by_cases logged : Method.logged e.script
  · cases plan with
    | ingest p => exact ⟨_, left.trans (if_pos logged)⟩
    | transition now auth batchId status => exact ⟨_, left.trans (if_pos logged)⟩
    | publish p => exact ⟨_, left.trans (if_pos logged)⟩
    | reject auth batchId reason => exact ⟨_, left.trans (if_pos logged)⟩
  · exact ⟨t.auditEvents, left.trans (if_neg logged)⟩

/-- A call whose transaction does not go through leaves the store as it was. -/
theorem batchStep_of_none {rt : Runtime} {s : Store} {e : BatchEvent}
    (none : (batchMethods rt).committed e.call e.script s = none) : batchStep rt s e = s := by
  have left := @Method.call_store _ _ _ _ _ (batchMethods rt) .database e.call e.script s
  rw [none] at left
  exact left

/-- The batches a call leaves: those its transaction wrote, or those it found. -/
theorem batchStep_resultBatches (rt : Runtime) (s : Store) (e : BatchEvent) :
    (batchStep rt s e).resultBatches =
      match (batchMethods rt).committed e.call e.script s with
      | none => s.resultBatches
      | some (_, _, t) => t.resultBatches := by
  cases went : (batchMethods rt).committed e.call e.script s with
  | none => rw [batchStep_of_none went]
  | some commit =>
    obtain ⟨plan, res, t⟩ := commit
    obtain ⟨events, left⟩ := batchStep_of_committed went
    rw [left]

/-! ### The invariant -/

/-- Every batch is at a stage of the workflow and has passed the stages up to it. -/
def Staged (s : Tracked) : Prop :=
  ∀ id b, s.store.resultBatches.find? id = some b →
    (stages.take (rank b.status)).Sublist (s.history id)

/-- One batch passes a stage: the stage below is passed, and the new status is recorded. -/
theorem passed_next {history : List AcademicRecordStatus} {status : AcademicRecordStatus}
    {next : BatchTransition} (below : (stages.take (rank status)).Sublist history)
    (step : rank next.status ≤ rank status + 1) :
    (stages.take (rank next.status)).Sublist (history ++ [next.status]) := by
  by_cases back : rank next.status ≤ rank status
  · have shorter : (stages.take (rank next.status)).Sublist (stages.take (rank status)) :=
      List.take_sublist_take_left back
    exact (shorter.trans below).trans (List.sublist_append_left history _)
  · have forward : rank next.status = rank status + 1 := by omega
    have extended : stages.take (rank next.status) =
        stages.take (rank status) ++ [next.status] := by
      rw [forward]
      cases next <;> cases status <;> first | rfl | exact absurd forward (by decide)
    rw [extended]
    exact below.append (List.Sublist.refl _)

theorem transitionData_status (status : BatchTransition) (now : Time) (b : ResultBatch) :
    (transitionData status now b).status = status.status ∧
      (transitionData status now b).rejectionCount = b.rejectionCount := by
  cases status <;> exact ⟨rfl, rfl⟩

theorem passed_self (b : ResultBatch) (history : List AcademicRecordStatus) :
    passed (some b) (some b) history = history := by
  simp [passed]

/-- **What an allowed plan does to one batch**: from a batch at a passed stage to a batch at a
passed stage. -/
theorem staged_after {plan : BatchPlan} {s : Store} {history : List AcademicRecordStatus}
    {id : Uuid} {b' : ResultBatch}
    (fresh : ∀ p, plan = .ingest p → s.resultBatches.find? p.env.batchUuid = none)
    (approved : ∀ p b, plan = .publish p → s.resultBatches.find? p.batch.uuid = some b →
      b.status = .approved)
    (permitted : allowed plan s)
    (staged : ∀ b, s.resultBatches.find? id = some b →
      (stages.take (rank b.status)).Sublist history)
    (found : after plan id (s.resultBatches.find? id) = some b') :
    (stages.take (rank b'.status)).Sublist
      (passed (s.resultBatches.find? id) (some b') history) := by
  have untouched : s.resultBatches.find? id = some b' →
      (stages.take (rank b'.status)).Sublist
        (passed (s.resultBatches.find? id) (some b') history) := by
    intro same
    rw [same, passed_self]
    exact staged b' same
  cases plan with
  | ingest p =>
    by_cases here : p.env.batchUuid = id
    · simp only [after, if_pos here] at found
      rw [← Option.some.inj found]
      exact List.nil_sublist _
    · simp only [after, if_neg here] at found
      exact untouched found
  | transition now auth batchId status =>
    by_cases here : batchId = id
    · simp only [after, if_pos here] at found
      obtain ⟨b, before, rfl⟩ := Option.map_eq_some_iff.mp found
      obtain ⟨newStatus, newCount⟩ := transitionData_status status now b
      have step := (permitted b (Table.find?_mem before)
        ((Table.find?_key before).trans here.symm)).2
      rw [before, newStatus]
      simp only [passed, newCount, lt_irrefl, if_false, newStatus]
      by_cases same : status.status = b.status
      · rw [if_pos same, same]
        exact staged b before
      · rw [if_neg same]
        exact passed_next (staged b before) step
    · simp only [after, if_neg here] at found
      exact untouched found
  | publish p =>
    by_cases here : p.batch.uuid = id
    · simp only [after, if_pos here] at found
      obtain ⟨b, before, rfl⟩ := Option.map_eq_some_iff.mp found
      have status := approved p b rfl (here ▸ before)
      have below := staged b before
      rw [status] at below
      rw [before]
      simp only [passed, publishedBatch, lt_irrefl, if_false, status]
      exact below.trans (List.sublist_append_left history _)
    · simp only [after, if_neg here] at found
      exact untouched found
  | reject auth batchId reason =>
    by_cases here : batchId = id
    · simp only [after, if_pos here] at found
      obtain ⟨b, -, rfl⟩ := Option.map_eq_some_iff.mp found
      exact List.nil_sublist _
    · simp only [after, if_neg here] at found
      exact untouched found

/-- **A commit finds what its check found**: an ingestion a free id, a publication an approved
batch. -/
theorem committed_finds {rt : Runtime} {call : BatchCall} {script : List Outcome} {s t : Store}
    {plan : BatchPlan} {res : BatchResponse}
    (went : (batchMethods rt).committed call script s = some (plan, res, t)) :
    (∀ p, plan = .ingest p → s.resultBatches.find? p.env.batchUuid = none) ∧
      (∀ p b, plan = .publish p → s.resultBatches.find? p.batch.uuid = some b →
        b.status = .approved) := by
  obtain ⟨checked, committed⟩ := Method.committed_spec went
  refine ⟨fun p same => ?_, fun p b same found => ?_⟩
  · subst same
    exact find?_of_ingest committed
  · subst same
    cases call with
    | publishBatch env auth batchId =>
      obtain ⟨p', read, same⟩ := bind_eq_ok.mp checked
      rw [pure_eq_ok] at same
      obtain rfl := BatchPlan.publish.inj same
      obtain ⟨here, uuid, status, -⟩ := publishCheck_spec read
      rw [uuid, here] at found
      rw [← Option.some.inj found]
      exact status
    | ingestResults env auth body =>
      obtain ⟨p', -, same⟩ := bind_eq_ok.mp checked
      exact absurd (pure_eq_ok.mp same) (by simp)
    | transitionBatch now auth batchId status =>
      obtain ⟨p', -, same⟩ := bind_eq_ok.mp checked
      exact absurd (pure_eq_ok.mp same) (by simp)
    | rejectBatch auth batchId reason =>
      obtain ⟨p', -, same⟩ := bind_eq_ok.mp checked
      exact absurd (pure_eq_ok.mp same) (by simp)

/-- **The step lemma.** A guarded step takes batches at passed stages to batches at passed
stages. -/
theorem staged_trackedStep {rt : Runtime} {s : Tracked} {e : BatchEvent} (staged : Staged s)
    (guarded : Guarded rt s e) : Staged (trackedStep rt s e) := by
  intro id b' found
  have rows := batchStep_resultBatches rt s.store e
  show (stages.take (rank b'.status)).Sublist
    (passed (s.store.resultBatches.find? id) ((batchStep rt s.store e).resultBatches.find? id)
      (s.history id))
  have here : (batchStep rt s.store e).resultBatches.find? id = some b' := found
  rw [here]
  cases went : (batchMethods rt).committed e.call e.script s.store with
  | none =>
    simp only [went] at rows
    rw [rows] at here
    rw [here, passed_self]
    exact staged id b' here
  | some commit =>
    obtain ⟨plan, res, t⟩ := commit
    simp only [went] at rows
    obtain ⟨fresh, approved⟩ := committed_finds went
    rw [rows, find?_batchCommit (Method.committed_spec went).2 id] at here
    exact staged_after fresh approved (guarded plan res t went) (staged id) here

/-- A guarded step from batches at passed stages keeps what the workflow promises. -/
theorem workflowStep_of_guarded {rt : Runtime} {s : Tracked} {e : BatchEvent} (staged : Staged s)
    (guarded : Guarded rt s e) : WorkflowStep rt s e := by
  have kept := staged_trackedStep staged guarded
  refine ⟨fun b inside status => ?_, fun b inside status => ?_⟩
  · have here := kept b.uuid b (Table.find?_eq_some.mpr ⟨inside, rfl⟩)
    rw [status] at here
    exact here
  · have before := Table.find?_eq_some.mpr ⟨inside, rfl⟩
    have rows := batchStep_resultBatches rt s.store e
    cases went : (batchMethods rt).committed e.call e.script s.store with
    | none =>
      simp only [went] at rows
      exact ⟨b, by show b ∈ (batchStep rt s.store e).resultBatches.rows; rw [rows]; exact inside,
        rfl, status⟩
    | some commit =>
      obtain ⟨plan, res, t⟩ := commit
      simp only [went] at rows
      have permitted := guarded plan res t went
      have found := find?_batchCommit (Method.committed_spec went).2 b.uuid
      rw [before, ← rows] at found
      obtain ⟨fresh, -⟩ := committed_finds went
      have stays : ∃ b', after plan b.uuid (some b) = some b' ∧ b'.status = .published := by
        cases plan with
        | ingest p =>
          have other : p.env.batchUuid ≠ b.uuid := by
            intro same
            have free := fresh p rfl
            rw [same, before] at free
            exact absurd free (by simp)
          exact ⟨b, if_neg other, status⟩
        | transition now auth batchId next =>
          have other : batchId ≠ b.uuid := fun same =>
            (permitted b inside same.symm).1 status
          exact ⟨b, if_neg other, status⟩
        | publish p =>
          by_cases same : p.batch.uuid = b.uuid
          · exact ⟨_, if_pos same, rfl⟩
          · exact ⟨b, if_neg same, status⟩
        | reject auth batchId reason =>
          have other : batchId ≠ b.uuid := fun same => permitted b inside same.symm status
          exact ⟨b, if_neg other, status⟩
      obtain ⟨b', is, published⟩ := stays
      rw [is] at found
      exact ⟨b', Table.find?_mem found, Table.find?_key found, published⟩

/-- **Every guarded run keeps the workflow.** From a store without batches, in a run whose
transitions and rejections are all allowed, a batch is published only after it was submitted,
reviewed and approved, and a published batch stays published. -/
theorem workflow_of_guarded (rt : Runtime) (s : Store) (history : History)
    (events : List BatchEvent) (start : s.resultBatches.rows = [])
    (guarded : Along (trackedStep rt) (Guarded rt) ⟨s, history⟩ events) :
    Along (trackedStep rt) (WorkflowStep rt) ⟨s, history⟩ events := by
  have staged : Staged ⟨s, history⟩ := by
    intro id b found
    have inside := Table.find?_mem found
    rw [show (Tracked.mk s history).store.resultBatches.rows = [] from start] at inside
    exact absurd inside (by simp)
  have keeps : ∀ t e, Staged t → Guarded rt t e → Staged (trackedStep rt t e) :=
    fun _ _ => staged_trackedStep
  have does : ∀ t e, Staged t → Guarded rt t e → WorkflowStep rt t e :=
    fun _ _ => workflowStep_of_guarded
  exact along_of_keeps keeps does staged guarded

/-! ### A run -/

/-- An institution with every permission, and one enrolled student. -/
def school : Store :=
  { Store.empty with
    institutions :=
      { rows := [⟨"10000000-0000-4000-8000-000000000001", "ACD-0001", "First School", .active⟩]
        nodup := List.nodup_singleton _ }
    authorityGrants :=
      { rows := [⟨"20000000-0000-4000-8000-000000000001", "10000000-0000-4000-8000-000000000001",
          0, none, .obj [("all", .bool true)], .active⟩]
        nodup := List.nodup_singleton _ }
    enrolments :=
      { rows :=
          [{ uuid := "30000000-0000-4000-8000-000000000001"
             learnerId := "40000000-0000-4000-8000-000000000001"
             institutionId := "10000000-0000-4000-8000-000000000001"
             academicSessionId := none
             structureScopeId := none
             studentNumber := "S-1"
             level := "JSS 1"
             programme := "Science"
             entryDate := 0
             exitDate := none
             exitType := none
             status := .active }]
        nodup := List.nodup_singleton _ } }

/-- A super admin. -/
def founder : AuthTokenPayload where
  sub := "50000000-0000-4000-8000-000000000001"
  email := "founder@acadid.test"
  fullName := "Founder"
  role := .acadidSuperAdmin
  kind := some .user
  learnerId := none
  institutionId := none
  institutionUuid := none
  institutionUserId := none
  assignedScopes := none
  apiKeyId := none
  clientId := none
  productCode := none

def batchId : Uuid := "60000000-0000-4000-8000-000000000001"

/-- An upload of one result. -/
def upload : BatchEvent where
  call := .ingestResults
    { pick := 0
      checkedAt := 1
      committedAt := 2
      batchUuid := batchId
      recordUuid := fun _ => "70000000-0000-4000-8000-000000000001" }
    founder
    (.obj [("institutionId", .str "ACD-0001"),
      ("createdById", .str "50000000-0000-4000-8000-000000000001"),
      ("title", .str "First term"),
      ("rows", .arr [.obj [("studentNumber", .str "S-1"), ("periodType", .str "TERM"),
        ("periodLabel", .str "First term"), ("subjectCode", .str "MTH"),
        ("subjectName", .str "Mathematics"), ("totalScore", .num 75)]])])
  script := []

def move (status : BatchTransition) : BatchEvent :=
  ⟨.transitionBatch 3 founder batchId status, []⟩

def publish : BatchEvent where
  call := .publishBatch
    { pick := 0
      checkedAt := 4
      committedAt := 5
      credentialRef := fun _ => "80000000-0000-4000-8000-000000000001"
      credentialUuid := fun _ => "90000000-0000-4000-8000-000000000001" }
    founder batchId
  script := []

/-- The run of the workflow keeps it, and ends with the batch published. -/
theorem workflow_of_guarded_published :
    Along (trackedStep .plain) (WorkflowStep .plain) ⟨school, fun _ => []⟩
      [upload, move .submitted, move .reviewed, move .approved, publish] ∧
    ((runs (trackedStep .plain) ⟨school, fun _ => []⟩
      [upload, move .submitted, move .reviewed, move .approved, publish]).store.resultBatches.rows.map
        (·.status)) = [.published] :=
  ⟨workflow_of_guarded .plain school (fun _ => []) _ rfl (by decide +kernel), by decide +kernel⟩

/-- **The workflow is not kept by every run**: a draft is approved and published at once. -/
theorem workflow_fails :
    ¬ ∀ (rt : Runtime) (s : Store) (history : History) (events : List BatchEvent),
      s.resultBatches.rows = [] →
        Along (trackedStep rt) (WorkflowStep rt) ⟨s, history⟩ events := by
  intro all
  have steps := all .plain school (fun _ => []) [upload, move .approved, publish] rfl
  exact absurd steps.2.2.1.passed_stages (by decide)

end AcadID.BatchHistory
