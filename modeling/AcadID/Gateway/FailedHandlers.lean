/-
**What a failed request leaves behind.**

`IdempotencyService.execute` runs two handlers: the queue's `createJob`, one transaction, and
`createRecordRequestRecord`, which makes several writes. One `catch` covers the handler and the mark
of its success, and marks the record as failed.

* `TellsFailed` — the record under a key is marked as failed, or a caller with that key is told that
  its request failed.
* `FailsClean` — then nothing of the handler's run is in the store.
* `failsClean_iff` — **exactly when it is so**: unless the first call that fails comes after the
  handler's first write, and the mark of the failure goes through.
-/

import Mathlib.Tactic.IntervalCases
import AcadID.Lib.Straight
import AcadID.Gateway.Access
import AcadID.Platform.Queue

namespace AcadID.FailedHandlers

open Lib Idempotency

/-! ### A request that is told to have failed -/

/-- Nothing but the records of idempotent requests differs. -/
def Untouched (s t : Store) : Prop :=
  t = { s with idempotencyRecords := t.idempotencyRecords }

/-- What a caller is told of a request that failed. -/
def previouslyFailed : ServiceError :=
  .conflict "An idempotent request with this key previously failed. Use a new key after resolving the error."

/-- The record under the key is marked as failed, or a caller who uses the key is told that its
request failed. -/
def TellsFailed (rt : Runtime) (input : IdempotencyInput) (t : Store) : Prop :=
  ∃ key record, normaliseKey input.key = .ok key ∧
    findKey input.scope (rt.sha256 key) t.idempotencyRecords = some record ∧
    (record.status = .failed ∨ ∃ hash, replay hash record = .error previouslyFailed)

theorem replay_inProgress {record : IdempotencyRecord} (running : record.status = .inProgress)
    (unanswered : record.response = none) (hash : String) :
    replay hash record ≠ .error previouslyFailed := by
  unfold replay
  by_cases same : record.requestHash = hash
  · simp [same, require, unanswered, running, previouslyFailed, bind, Except.bind]
  · simp [same, require, previouslyFailed, bind, Except.bind]

theorem replay_answered {record : IdempotencyRecord} {response : Json}
    (answered : record.response = some response) (holds : response.truthy = true)
    (hash : String) : replay hash record ≠ .error previouslyFailed := by
  by_cases same : record.requestHash = hash
  · rw [replay_eq_ok.mpr ⟨same, answered, holds⟩]
    simp
  · unfold replay
    simp [same, require, previouslyFailed, bind, Except.bind]

theorem untouched_refl (s : Store) : Untouched s s := rfl

theorem untouched_recordRequests {s t : Store} (same : Untouched s t) :
    t.recordRequests = s.recordRequests := by
  have here := congrArg Store.recordRequests (Eq.trans same rfl)
  exact here

/-- A write to the records keeps what was so. -/
theorem untouched_records {s t : Store} {records : Records} :
    Untouched s { t with idempotencyRecords := records } ↔ Untouched s t := by
  unfold Untouched
  constructor
  · intro same
    have here := congrArg (fun u : Store => { u with idempotencyRecords := t.idempotencyRecords }) same
    exact here
  · intro same
    exact congrArg (fun u : Store => { u with idempotencyRecords := records }) same

/-! ### Runs of `execute` -/

section Execute

variable {ρ : Type} {rt : Runtime} {stored : Stored ρ} {env : IdempotencyEnv}
  {input : IdempotencyInput} {handler : Db ρ}

/-- When the key of a run has failed, the run left nothing. -/
def FailsClean (rt : Runtime) (stored : Stored ρ) (env : IdempotencyEnv) (input : IdempotencyInput)
    (handler : Db ρ) (s : Store) (script : List Outcome) : Prop :=
  TellsFailed rt input (execute rt stored env input handler script s).store →
    Untouched s (execute rt stored env input handler script s).store

theorem straight_onRecords {step : Records → Except ServiceError Records} {s : Store}
    {records : Records} (steps : step s.idempotencyRecords = .ok records) :
    Async.Straight .database (onRecords step) s [{ s with idempotencyRecords := records }] () := by
  refine Async.straight_transaction ?_
  rw [steps]
  rfl

theorem straight_createRecord {record : IdempotencyRecord} {s : Store} {records : Records}
    (inserted : insertRecord record s.idempotencyRecords = .ok records) :
    Async.Straight .database (createRecord record) s
      [{ s with idempotencyRecords := records }] () := by
  intro script
  unfold createRecord
  rw [Async.tryCatch_apply, straight_onRecords inserted script]
  unfold Async.endsAlong
  cases (Async.next script).1 with
  | done => rfl
  | failed => rfl

/-- **A run under a key without a record** comes to its handler, unless its lookup or the insertion
of its record fails. -/
theorem execute_begun {s : Store} {key : String} (valid : normaliseKey input.key = .ok key)
    {records : Records} (absent : findKey input.scope (rt.sha256 key) s.idempotencyRecords = none)
    (inserted : insertRecord (newRecord env input (rt.sha256 key) (requestHash rt input.request))
      s.idempotencyRecords = .ok records) (script : List Outcome) :
    (∃ i < 2, Async.FirstFailure i script ∧
        (execute rt stored env input handler script s).store = s) ∨
      Async.AllDone 2 script ∧
        execute rt stored env input handler script s =
          runHandler stored (newRecord env input (rt.sha256 key) (requestHash rt input.request)).uuid
            handler (script.drop 2) { s with idempotencyRecords := records } := by
  cases outcome : (Async.next script).1 with
  | failed =>
    left
    rw [Async.next_fst] at outcome
    refine ⟨0, by omega, ⟨outcome, fun j inside => absurd inside (by omega)⟩, ?_⟩
    rw [execute_unread valid (by rw [Async.next_fst]; exact outcome)]
  | done =>
    have unfolds : execute rt stored env input handler script s =
        (createRecord (newRecord env input (rt.sha256 key) (requestHash rt input.request)) >>=
          fun _ => runHandler stored env.recordUuid handler) (script.drop 1) s := by
      rw [execute_read valid outcome, absent, Async.next_snd]
      rfl
    have first : Async.AllDone 1 script := by
      intro j inside
      obtain rfl : j = 0 := by omega
      rw [← Async.next_fst]
      exact outcome
    rw [unfolds]
    rcases Async.straight_cases (straight_createRecord inserted) (script.drop 1) with
      ⟨i, inside, fails, ended⟩ | ⟨done, ended⟩
    · left
      obtain rfl : i = 0 := by simpa using inside
      refine ⟨1, by omega, (Async.firstFailure_drop first).mp fails, ?_⟩
      rw [Async.bind_of_error ended]
      rfl
    · right
      refine ⟨Async.allDone_add first done, ?_⟩
      rw [Async.bind_of_ok ended, List.drop_drop]
      rfl

/-- The handler and the mark of its success, a straight program when the handler is one that leaves
the records alone. -/
theorem straight_saved {s : Store} {records : Records} {record : IdempotencyRecord}
    {before : Records} (inserted : insertRecord record before = .ok records) {after : List Store}
    {response : ρ} (kept : (after.getLastD s).idempotencyRecords = records)
    (straight : Async.Straight .database handler s after response) :
    Async.Straight .database
      (do
        let response ← handler
        onRecords (saveSucceeded record.uuid (stored.toJson response)
          (stored.responseJobId response))
        return response)
      s (after ++ [{ after.getLastD s with
        idempotencyRecords := records.update record.uuid
          (succeeded (stored.toJson response) (stored.responseJobId response)) fun _ => rfl }])
      response := by
  refine Async.straight_bind straight ?_
  refine Async.straight_bind (straight_onRecords ?_) (Async.straight_pure response _)
  rw [kept]
  exact saveSucceeded_inserted inserted _ _

/-- **How a run under a new key ends**: its handler and the mark of its success go through; or the
first failed call ends them, and the record is marked as failed, or stays in progress. -/
theorem runHandler_cases {s : Store} {records before : Records} {record : IdempotencyRecord}
    (inserted : insertRecord record before = .ok records) {after : List Store} {response : ρ}
    (kept : ∀ t ∈ s :: after, t.idempotencyRecords = records)
    (straight : Async.Straight .database handler s after response) (script : List Outcome) :
    (∃ i ≤ after.length, Async.FirstFailure i script ∧
        (Async.outcomeAt script (i + 1) = .done ∧
            (runHandler stored record.uuid handler script s).store =
              { Async.storeAt s after i with
                idempotencyRecords := records.update record.uuid
                  (failed ServiceError.database.message) fun _ => rfl } ∨
          Async.outcomeAt script (i + 1) = .failed ∧
            (runHandler stored record.uuid handler script s).store = Async.storeAt s after i)) ∨
      Async.AllDone (after.length + 1) script ∧
        (runHandler stored record.uuid handler script s).store =
          { Async.storeAt s after after.length with
            idempotencyRecords := records.update record.uuid
              (succeeded (stored.toJson response) (stored.responseJobId response)) fun _ => rfl } := by
  have last : (after.getLastD s).idempotencyRecords = records := by
    rw [← Async.storeAt_length]
    exact kept _ (Async.storeAt_mem s after after.length)
  unfold runHandler
  rw [Async.tryCatch_apply]
  rcases Async.straight_cases (@straight_saved _ stored _ _ _ _ _ inserted _ _ last straight)
    script with
    ⟨i, inside, fails, ended⟩ | ⟨done, ended⟩
  · left
    have within : i ≤ after.length := by
      rw [List.length_append, List.length_singleton] at inside
      omega
    refine ⟨i, within, fails, ?_⟩
    rw [ended, Async.storeAt_append within]
    have steps : saveFailed record.uuid ServiceError.database.message
        (Async.storeAt s after i).idempotencyRecords =
          .ok (records.update record.uuid (failed ServiceError.database.message) fun _ => rfl) := by
      rw [kept _ (Async.storeAt_mem s after i)]
      exact saveFailed_inserted inserted _
    rcases Async.straight_cases (straight_onRecords steps) (script.drop (i + 1)) with
      ⟨j, inside', fails', ended'⟩ | ⟨done', ended'⟩
    · right
      obtain rfl : j = 0 := by simpa using inside'
      refine ⟨by rw [← Nat.add_zero (i + 1), ← Async.outcomeAt_drop]; exact fails'.1, ?_⟩
      show ((onRecords (saveFailed record.uuid ServiceError.database.message) >>= fun _ =>
        throw ServiceError.database : Db ρ) (script.drop (i + 1)) (Async.storeAt s after i)).store = _
      rw [Async.bind_of_error ended']
      rfl
    · left
      have goes := done' 0 (by simp)
      rw [Async.outcomeAt_drop] at goes
      refine ⟨goes, ?_⟩
      show ((onRecords (saveFailed record.uuid ServiceError.database.message) >>= fun _ =>
        throw ServiceError.database : Db ρ) (script.drop (i + 1)) (Async.storeAt s after i)).store = _
      rw [Async.bind_of_ok ended']
      rfl
  · right
    rw [List.length_append, List.length_singleton] at done
    refine ⟨done, ?_⟩
    rw [ended, Async.storeAt_length, Async.storeAt_length, List.getLastD_concat]

/-- The first call to fail is one of the `after` calls that follow the first `before`, and the call
after it, which marks the record as failed, goes through. -/
def SlipsAfter (before after : ℕ) (script : List Outcome) : Prop :=
  ∃ i, before ≤ i ∧ i < before + after ∧ Async.FirstFailure i script ∧
    Async.outcomeAt script (i + 1) = .done

/-- A record that is not marked as failed and answers, or is in progress, tells nobody of a
failure. -/
theorem not_tellsFailed {key : String} {record : IdempotencyRecord} {t : Store}
    (valid : normaliseKey input.key = .ok key)
    (found : findKey input.scope (rt.sha256 key) t.idempotencyRecords = some record)
    (marked : record.status ≠ .failed)
    (answers : ∀ hash, replay hash record ≠ .error previouslyFailed) :
    ¬ TellsFailed rt input t := by
  rintro ⟨key', record', valid', found', told⟩
  obtain rfl : key = key' := Except.ok.inj (valid.symm.trans valid')
  obtain rfl : record = record' := Option.some.inj (found.symm.trans found')
  rcases told with isFailed | ⟨hash, refused⟩
  · exact marked isFailed
  · exact answers hash refused

/-- **A handler that is straight from a first write on** fails clean exactly when its run does not
slip after that write. -/
theorem failsClean_of_straight {s : Store} {key : String} (valid : normaliseKey input.key = .ok key)
    {records : Records} (absent : findKey input.scope (rt.sha256 key) s.idempotencyRecords = none)
    (inserted : insertRecord (newRecord env input (rt.sha256 key) (requestHash rt input.request))
      s.idempotencyRecords = .ok records) {after : List Store} {response : ρ}
    (straight : Async.Straight .database handler { s with idempotencyRecords := records } after
      response)
    (kept : ∀ t ∈ after, t.idempotencyRecords = records)
    (holds : (stored.toJson response).truthy = true) {first : ℕ} (early : first ≤ after.length)
    (touches : ∀ i ≤ after.length,
      Untouched s (Async.storeAt { s with idempotencyRecords := records } after i) ↔ i < first)
    (script : List Outcome) :
    FailsClean rt stored env input handler s script ↔
      ¬ SlipsAfter (first + 2) (after.length + 1 - first) script := by
  unfold FailsClean
  rcases @execute_begun _ _ stored _ _ handler _ _ valid _ absent inserted script with
    ⟨i, inside, fails, ended⟩ | ⟨done, ended⟩
  · rw [ended]
    refine ⟨fun _ => ?_, fun _ _ => untouched_refl s⟩
    rintro ⟨j, late, -, fails', -⟩
    have same := Async.firstFailure_unique fails fails'
    omega
  have slips : SlipsAfter (first + 2) (after.length + 1 - first) script ↔
      ∃ i ≤ after.length, first ≤ i ∧ Async.FirstFailure i (script.drop 2) ∧
        Async.outcomeAt (script.drop 2) (i + 1) = .done := by
    constructor
    · rintro ⟨i, late, inside, fails, marks⟩
      obtain ⟨j, rfl⟩ : ∃ j, i = 2 + j := ⟨i - 2, by omega⟩
      refine ⟨j, by omega, by omega, (Async.firstFailure_drop done).mpr fails, ?_⟩
      rw [Async.outcomeAt_drop]
      exact marks
    · rintro ⟨i, inside, late, fails, marks⟩
      rw [Async.outcomeAt_drop] at marks
      exact ⟨2 + i, by omega, by omega, (Async.firstFailure_drop done).mp fails, marks⟩
  have all : ∀ t ∈ { s with idempotencyRecords := records } :: after,
      t.idempotencyRecords = records := by
    intro t inside
    rcases List.mem_cons.mp inside with rfl | inside
    · rfl
    · exact kept t inside
  rw [ended, slips]
  rcases @runHandler_cases _ stored _ _ _ _ _ inserted _ _ all straight (script.drop 2) with
    ⟨i, inside, fails, ⟨marks, ended⟩ | ⟨unmarked, ended⟩⟩ | ⟨allDone, ended⟩
  · -- The record is marked as failed; what is left is what the handler wrote up to then.
    rw [ended, untouched_records, touches i inside]
    have told : TellsFailed rt input
        { Async.storeAt { s with idempotencyRecords := records } after i with
          idempotencyRecords := records.update
            (newRecord env input (rt.sha256 key) (requestHash rt input.request)).uuid
            (failed ServiceError.database.message) fun _ => rfl } := by
      refine ⟨key, failed ServiceError.database.message
        (newRecord env input (rt.sha256 key) (requestHash rt input.request)), valid, ?_, .inl rfl⟩
      exact findKey_update_inserted inserted (failed ServiceError.database.message) (fun _ => rfl)
        (fun _ => rfl) fun _ => rfl
    refine ⟨fun clean => ?_, fun clean _ => ?_⟩
    · rintro ⟨j, -, late, fails', -⟩
      obtain rfl := Async.firstFailure_unique fails fails'
      have early := clean told
      omega
    · by_contra late
      exact clean ⟨i, inside, by omega, fails, marks⟩
  · rw [ended]
    have untold : ¬ TellsFailed rt input
        (Async.storeAt { s with idempotencyRecords := records } after i) := by
      refine @not_tellsFailed rt input key
        (newRecord env input (rt.sha256 key) (requestHash rt input.request)) _ valid ?_
        (by simp [newRecord]) (replay_inProgress rfl rfl)
      rw [all _ (Async.storeAt_mem _ after i)]
      exact findKey_insert inserted
    refine ⟨fun _ => ?_, fun _ told => absurd told untold⟩
    rintro ⟨j, -, -, fails', marks⟩
    obtain rfl := Async.firstFailure_unique fails fails'
    exact absurd (unmarked.symm.trans marks) (by decide)
  · rw [ended]
    have untold : ¬ TellsFailed rt input
        { Async.storeAt { s with idempotencyRecords := records } after after.length with
          idempotencyRecords := records.update
            (newRecord env input (rt.sha256 key) (requestHash rt input.request)).uuid
            (succeeded (stored.toJson response) (stored.responseJobId response)) fun _ => rfl } := by
      refine not_tellsFailed valid ?_ ?_ (@replay_answered (succeeded (stored.toJson response)
        (stored.responseJobId response) (newRecord env input (rt.sha256 key)
          (requestHash rt input.request))) _ rfl holds)
      · exact findKey_update_inserted inserted
          (succeeded (stored.toJson response) (stored.responseJobId response)) (fun _ => rfl)
          (fun _ => rfl) fun _ => rfl
      · exact fun same => absurd same (by simp [succeeded])
    refine ⟨fun _ => ?_, fun _ told => absurd told untold⟩
    rintro ⟨j, inside, -, fails', -⟩
    exact absurd ((allDone j (by omega)).symm.trans fails'.1) (by decide)

/-- The key of a run is one that `execute` accepts, and has no record. -/
def Unused (rt : Runtime) (input : IdempotencyInput) (s : Store) : Prop :=
  ∃ key, normaliseKey input.key = .ok key ∧
    findKey input.scope (rt.sha256 key) s.idempotencyRecords = none

/-- Without such a key the handler does not run. -/
theorem failsClean_of_used {s : Store} (used : ¬ Unused rt input s) (script : List Outcome) :
    FailsClean rt stored env input handler s script := by
  intro _
  cases valid : normaliseKey input.key with
  | error e =>
    rw [execute_invalid valid]
    exact untouched_refl s
  | ok key =>
    cases found : findKey input.scope (rt.sha256 key) s.idempotencyRecords with
    | none => exact absurd ⟨key, valid, found⟩ used
    | some existing =>
      rw [execute_answered valid found]
      exact untouched_refl s

end Execute

/-! ### The handler of a job -/

open Queue in
/-- **A job** is created in one transaction, the third call; the mark of success is the fourth. -/
theorem createJob_failsClean {rt : Runtime} {env : JobEnv} {input : EnqueueJobInput} {key : String}
    {s : Store} (record : ∀ r ∈ s.idempotencyRecords.rows, r.uuid ≠ env.recordUuid)
    (job : ∀ r ∈ s.backgroundJobs.rows, r.uuid ≠ env.jobUuid)
    (event : ∀ r ∈ s.domainEvents.rows, r.uuid ≠ env.eventUuid) (script : List Outcome) :
    FailsClean rt (Stored.json responseJobId) ⟨env.now, env.recordUuid⟩
        (idempotencyInput rt input key) (createJob rt env input) s script ↔
      ¬ (Unused rt (idempotencyInput rt input key) s ∧ SlipsAfter 3 1 script) := by
  by_cases unused : Unused rt (idempotencyInput rt input key) s
  swap
  · exact ⟨fun _ both => unused both.1, fun _ => failsClean_of_used unused script⟩
  obtain ⟨name, valid, absent⟩ := unused
  obtain ⟨records, inserted⟩ := @insertRecord_of_free (newRecord ⟨env.now, env.recordUuid⟩
    (idempotencyInput rt input key) (rt.sha256 name)
      (requestHash rt (idempotencyInput rt input key).request)) _ absent record
  obtain ⟨jobs, events, rows, inserts⟩ := @insertJob_of_free rt env input s job event
  have added : ¬ Untouched s { s with
      idempotencyRecords := records
      backgroundJobs := jobs
      domainEvents := events } := by
    intro same
    have here : jobs = s.backgroundJobs := congrArg Store.backgroundJobs same
    rw [here] at rows
    simpa using congrArg List.length rows
  have touches : ∀ i ≤ 1, Untouched s (Async.storeAt { s with idempotencyRecords := records }
      [{ s with
        idempotencyRecords := records
        backgroundJobs := jobs
        domainEvents := events }] i) ↔ i < 1 := by
    intro i inside
    rcases Nat.le_one_iff_eq_zero_or_eq_one.mp inside with rfl | rfl
    · exact ⟨fun _ => by omega, fun _ => untouched_records.mpr (untouched_refl s)⟩
    · exact ⟨fun same => absurd same added, fun late => absurd late (by omega)⟩
  have clean : FailsClean rt (Stored.json responseJobId) ⟨env.now, env.recordUuid⟩
      (idempotencyInput rt input key) (createJob rt env input) s script ↔
        ¬ SlipsAfter 3 1 script :=
    failsClean_of_straight valid absent inserted (Async.straight_transaction (inserts records))
      (by simp) rfl (by simp) touches script
  rw [clean]
  exact ⟨fun holds both => holds both.2, fun holds slips => holds ⟨⟨name, valid, absent⟩, slips⟩⟩

/-! ### The handler of a record request -/

section Request

open Access

variable {rt : Runtime} {env : AccessEnv} {auth : AuthTokenPayload} {body : Json}

theorem straight_firstFree {codes : List String} {s : Store} {code : String} {n : ℕ}
    (free : freeCode codes s = some (code, n)) :
    Async.Straight .database (firstFree codes) s (List.replicate n s) code := by
  induction codes generalizing n with
  | nil => exact absurd free (by simp [freeCode])
  | cons first codes ih =>
    have looks : Async.Straight .database (Db.read fun s => .ok (hasCode first s)) s [s]
        (hasCode first s) := Async.straight_query rfl
    unfold freeCode at free
    by_cases taken : hasCode first s
    · rw [if_pos taken, Option.map_eq_some_iff] at free
      obtain ⟨⟨code', m⟩, found, same⟩ := free
      obtain ⟨rfl, rfl⟩ := Prod.mk.inj same
      rw [List.replicate_succ]
      refine Async.straight_bind looks ?_
      rw [taken]
      exact ih found
    · rw [if_neg taken] at free
      obtain ⟨rfl, rfl⟩ := Prod.mk.inj (Option.some.inj free)
      refine Async.straight_bind looks ?_
      rw [Bool.not_eq_true] at taken
      rw [taken]
      exact Async.straight_pure first s

/-- The learner is there, and the institution, if one is named. -/
def Known (learnerId : Uuid) (input : CreateRecordRequestInput) (s : Store) : Prop :=
  (s.learners.find? learnerId).isSome ∧
    ∀ institutionId, input.institutionId = some institutionId →
      (s.institutions.find? institutionId).isSome

/-- The calls that follow the insertion of a request, up to the mark of success. -/
def callsAfter (input : CreateRecordRequestInput) : ℕ :=
  if input.institutionId.isSome then 2 else 5

/-- The request is accepted and can be inserted, and its run slips after that. -/
def RequestSlips (rt : Runtime) (env : AccessEnv) (auth : AuthTokenPayload) (body : Json)
    (s : Store) (script : List Outcome) : Prop :=
  ∃ learnerId input code n, acceptBody rt auth body = .ok (learnerId, input) ∧
    freeCode (recordRequestCodes env) s = some (code, n) ∧ Known learnerId input s ∧
    SlipsAfter (3 + n) (callsAfter input) script

theorem known_iff {learnerId : Uuid} {input : CreateRecordRequestInput} {requestId : String}
    {s : Store} :
    Known learnerId input s ↔
      ((newRequest rt env auth learnerId input requestId).learnerId.all fun id =>
          (s.learners.find? id).isSome) = true ∧
        ((newRequest rt env auth learnerId input requestId).institutionId.all fun id =>
          (s.institutions.find? id).isSome) = true := by
  unfold Known newRequest
  cases input.institutionId <;> simp

/-- A lead under a free id, or one that is there, can be saved. -/
theorem saveLead_of_free {input : LeadInput} {s : Store}
    (free : ∀ lead ∈ s.invitationLeads.rows, lead.uuid ≠ input.leadUuid) :
    ∃ lead leads, ∀ t : Store, t.invitationLeads = s.invitationLeads →
      saveLead input (findLead input.institutionNameKey s) t =
        .ok (lead, { t with invitationLeads := leads }) := by
  cases found : findLead input.institutionNameKey s with
  | none =>
    obtain ⟨leads, grown⟩ := @Table.insert_of_fresh _ _ _ _ s.invitationLeads (newLead input) free
    refine ⟨newLead input, leads, fun t same => ?_⟩
    unfold saveLead insertUnique
    refine bind_eq_ok.mpr ⟨(), require_eq_ok.mpr ?_, ?_⟩
    · unfold findLead at found ⊢
      rw [same, found]
      rfl
    · refine bind_eq_ok.mpr ⟨leads, orThrow_eq_ok.mpr ?_, rfl⟩
      rw [same]
      exact grown
  | some existing =>
    have inside : s.invitationLeads.find? existing.uuid = some existing :=
      Table.find?_eq_some.mpr ⟨List.mem_of_find?_eq_some found, rfl⟩
    refine ⟨demanded input existing existing,
      s.invitationLeads.update existing.uuid (demanded input existing) fun _ => rfl,
      fun t same => ?_⟩
    unfold saveLead
    refine bind_eq_ok.mpr ⟨(_, _), updateRow_eq_ok.mpr ⟨existing, ?_, rfl, rfl⟩, ?_⟩
    · rw [same]
      exact inside
    · rw [same]
      rfl

/-- The ids that a call draws are free. -/
structure Fresh (env : AccessEnv) (s : Store) : Prop where
  record : ∀ r ∈ s.idempotencyRecords.rows, r.uuid ≠ env.recordUuid
  request : ∀ r ∈ s.recordRequests.rows, r.uuid ≠ env.requestUuid
  lead : ∀ r ∈ s.invitationLeads.rows, r.uuid ≠ env.leadUuid

/-- The lead of a request is read, saved and logged. -/
theorem straight_createInvitationLead {input : LeadInput} {s t : Store}
    (free : ∀ lead ∈ s.invitationLeads.rows, lead.uuid ≠ input.leadUuid)
    (same : t.invitationLeads = s.invitationLeads) :
    ∃ lead leads event, Async.Straight .database (createInvitationLead auth input) t
      [t, { t with invitationLeads := leads }, { t with invitationLeads := leads }.audit event]
      lead := by
  obtain ⟨lead, leads, saves⟩ := saveLead_of_free free
  have finds : findLead input.institutionNameKey t = findLead input.institutionNameKey s := by
    unfold findLead
    rw [same]
  refine ⟨lead, leads, leadAudit auth input (findLead input.institutionNameKey s) lead, ?_⟩
  have looks : Async.Straight .database
      (Db.read fun s => .ok (findLead input.institutionNameKey s)) t [t]
      (findLead input.institutionNameKey s) := Async.straight_query (by rw [finds])
  refine Async.straight_bind looks ?_
  refine Async.straight_bind (Async.straight_transaction (saves t same)) ?_
  exact Async.straight_bind (Async.straight_write _ _) (Async.straight_pure lead _)

/-- **What follows an inserted request** is straight: its log entry, and its lead. -/
theorem straight_afterInsert {input : CreateRecordRequestInput} {request : RecordRequest}
    {institution : Option Institution} {s t : Store}
    (free : ∀ lead ∈ s.invitationLeads.rows, lead.uuid ≠ env.leadUuid)
    (same : t.invitationLeads = s.invitationLeads)
    (named : request.institutionId = input.institutionId) :
    ∃ after lead, after.length + 1 = callsAfter input ∧
      Async.Straight .database
        (do
          Db.audit (requestAudit auth request)
          let invitationLead ←
            createInvitationLeadForUnregisteredInstitution rt env auth input request
          return responseJson request institution invitationLead)
        t after (responseJson request institution lead) ∧
      ∀ u ∈ after, u.idempotencyRecords = t.idempotencyRecords ∧
        u.recordRequests = t.recordRequests := by
  have logs : Async.Straight .database (Db.audit (requestAudit auth request)) t
      [t.audit (requestAudit auth request)] () := Async.straight_write _ t
  unfold callsAfter
  by_cases registered : input.institutionId.isSome
  · have skips : createInvitationLeadForUnregisteredInstitution rt env auth input request =
        pure none := by
      unfold createInvitationLeadForUnregisteredInstitution
      rw [registered]
      rfl
    refine ⟨[t.audit (requestAudit auth request)], none, by simp [registered], ?_, ?_⟩
    · refine Async.straight_bind logs ?_
      rw [skips]
      exact Async.straight_bind (Async.straight_pure none _) (Async.straight_pure _ _)
    · intro u inside
      obtain rfl := List.mem_singleton.mp inside
      exact ⟨rfl, rfl⟩
  · have leads : createInvitationLeadForUnregisteredInstitution rt env auth input request =
        some <$> createInvitationLead auth (leadInput rt env auth input request) := by
      unfold createInvitationLeadForUnregisteredInstitution
      rw [named]
      simp [registered]
    obtain ⟨lead, saved, event, saves⟩ := @straight_createInvitationLead auth
      (leadInput rt env auth input request) s (t.audit (requestAudit auth request)) free same
    have rest := Async.straight_bind (f := fun lead => pure (responseJson request institution lead))
      (Async.straight_map some saves)
      (Async.straight_pure (responseJson request institution (some lead)) _)
    rw [List.append_nil, ← leads] at rest
    refine ⟨_, some lead, ?_, Async.straight_bind logs rest, ?_⟩
    · simp [registered]
    · simp only [List.singleton_append, List.mem_cons, List.not_mem_nil, or_false]
      rintro u (rfl | rfl | rfl | rfl) <;> exact ⟨rfl, rfl⟩

/-- **The handler of a request that can be inserted** is straight: the lookups of its code leave the
store, every call after them leaves one request more. -/
theorem straight_createRecordRequestRecord {s : Store} {learnerId : Uuid}
    {input : CreateRecordRequestInput} {code : String} {n : ℕ} (fresh : Fresh env s)
    (accepted : acceptBody rt auth body = .ok (learnerId, input))
    (free : freeCode (recordRequestCodes env) s = some (code, n)) (known : Known learnerId input s) :
    ∃ requests, requests.rows =
        s.recordRequests.rows ++ [newRequest rt env auth learnerId input code] ∧
      ∀ records, ∃ after response, after.length = callsAfter input ∧
        Async.Straight .database (createRecordRequestRecord rt env auth body)
          { s with idempotencyRecords := records }
          (List.replicate n { s with idempotencyRecords := records } ++ after) response ∧
        response.truthy = true ∧
        ∀ u ∈ after, u.idempotencyRecords = records ∧ u.recordRequests = requests := by
  obtain ⟨requests, grown⟩ := @Table.insert_of_fresh _ _ _ _ s.recordRequests
    (newRequest rt env auth learnerId input code) fresh.request
  obtain ⟨learner, school⟩ := (@known_iff rt env auth learnerId input code s).mp known
  have unused : hasCode code s = false := hasCode_of_freeCode free
  refine ⟨requests, (Table.insert_eq_some.mp grown).2, fun records => ?_⟩
  have inserts : insertRequest (newRequest rt env auth learnerId input code)
      { s with idempotencyRecords := records } =
        .ok ((newRequest rt env auth learnerId input code).institutionId.bind s.institutions.find?,
          { s with
            idempotencyRecords := records
            recordRequests := requests }) :=
    insertRequest_eq_ok.mpr ⟨unused, learner, school, rfl, requests, grown, rfl⟩
  obtain ⟨after, lead, length, rest, kept⟩ := @straight_afterInsert rt env auth input
    (newRequest rt env auth learnerId input code)
    ((newRequest rt env auth learnerId input code).institutionId.bind s.institutions.find?) s
    { s with
      idempotencyRecords := records
      recordRequests := requests } fresh.lead rfl rfl
  have probes : freeCode (recordRequestCodes env) { s with idempotencyRecords := records } =
      some (code, n) := by
    rw [← free]
    exact freeCode_congr rfl _
  have last : (List.replicate n { s with idempotencyRecords := records }).getLastD
      { s with idempotencyRecords := records } = { s with idempotencyRecords := records } := by
    rw [← Async.storeAt_length]
    have here := Async.storeAt_replicate { s with idempotencyRecords := records } n [] n
    rw [List.append_nil, Nat.sub_self, Async.storeAt_zero] at here
    rw [List.length_replicate]
    exact here
  refine ⟨{ s with
    idempotencyRecords := records
    recordRequests := requests } :: after,
    responseJson (newRequest rt env auth learnerId input code)
      ((newRequest rt env auth learnerId input code).institutionId.bind s.institutions.find?) lead,
    length, ?_, rfl, ?_⟩
  · unfold createRecordRequestRecord
    rw [accepted]
    show Async.Straight .database (createAccepted rt env auth learnerId input) _ _ _
    refine Async.straight_bind (straight_firstFree probes) ?_
    rw [last]
    exact Async.straight_bind (Async.straight_transaction inserts) rest
  · intro u inside
    rcases List.mem_cons.mp inside with rfl | inside
    · exact ⟨rfl, rfl⟩
    · exact kept u inside

/-- A request that is refused, for which no code is free, or whose learner or institution is not
there, leaves nothing. -/
theorem createRecordRequestRecord_untouched {s : Store}
    (never : ∀ learnerId input code n, acceptBody rt auth body = .ok (learnerId, input) →
      freeCode (recordRequestCodes env) s = some (code, n) → ¬ Known learnerId input s)
    (records : Records) :
    (createRecordRequestRecord rt env auth body).Ensures { s with idempotencyRecords := records }
      fun _ t => Untouched s t := by
  have here : Untouched s { s with idempotencyRecords := records } :=
    untouched_records.mpr (untouched_refl s)
  unfold createRecordRequestRecord
  cases accepted : acceptBody rt auth body with
  | error e => exact Async.ensures_bind (Async.ensures_throw here)
  | ok both =>
    obtain ⟨learnerId, input⟩ := both
    refine Async.ensures_bind (Async.ensures_pure ?_)
    refine Async.ensures_bind ((firstFree_ensures _ _).mono fun r t after => ?_)
    obtain ⟨rfl, finds⟩ := after
    cases r with
    | error e => exact here
    | ok code =>
      obtain ⟨n, free⟩ := finds code rfl
      rw [freeCode_congr rfl] at free
      refine Async.ensures_bind (Async.ensures_transaction here (fun e _ => here) ?_)
      intro institution t inserted
      obtain ⟨-, learner, school, -⟩ := insertRequest_eq_ok.mp inserted
      exact absurd ((@known_iff rt env auth learnerId input code s).mpr ⟨learner, school⟩)
        (never learnerId input code n accepted free)

/-- **A record request** fails clean exactly when its run does not slip after its insertion. -/
theorem createRecordRequestRecord_failsClean {key : String} {s : Store} (fresh : Fresh env s)
    (script : List Outcome) :
    FailsClean rt (Stored.json fun _ => none) ⟨env.now, env.recordUuid⟩ (accessInput auth body key)
        (createRecordRequestRecord rt env auth body) s script ↔
      ¬ (Unused rt (accessInput auth body key) s ∧ RequestSlips rt env auth body s script) := by
  by_cases unused : Unused rt (accessInput auth body key) s
  swap
  · exact ⟨fun _ both => unused both.1, fun _ => failsClean_of_used unused script⟩
  by_cases inserts : ∃ learnerId input code n, acceptBody rt auth body = .ok (learnerId, input) ∧
      freeCode (recordRequestCodes env) s = some (code, n) ∧ Known learnerId input s
  swap
  · have never : ∀ learnerId input code n, acceptBody rt auth body = .ok (learnerId, input) →
        freeCode (recordRequestCodes env) s = some (code, n) → ¬ Known learnerId input s :=
      fun learnerId input code n accepted free known =>
        inserts ⟨learnerId, input, code, n, accepted, free, known⟩
    refine ⟨fun _ both => ?_, fun _ _ => ?_⟩
    · obtain ⟨learnerId, input, code, n, accepted, free, known, -⟩ := both.2
      exact never learnerId input code n accepted free known
    · exact execute_ensures (fun _ _ left => untouched_records.mpr left) (untouched_refl s)
        (createRecordRequestRecord_untouched never) script
  obtain ⟨name, valid, absent⟩ := unused
  obtain ⟨learnerId, input, code, n, accepted, free, known⟩ := inserts
  obtain ⟨records, inserted⟩ := @insertRecord_of_free (newRecord ⟨env.now, env.recordUuid⟩
    (accessInput auth body key) (rt.sha256 name)
      (requestHash rt (accessInput auth body key).request)) _ absent fresh.record
  obtain ⟨requests, rows, runs⟩ :=
    straight_createRecordRequestRecord fresh accepted free known
  obtain ⟨after, response, length, straight, holds, left⟩ := runs records
  have size : (List.replicate n { s with idempotencyRecords := records } ++ after).length =
      n + callsAfter input := by
    rw [List.length_append, List.length_replicate, length]
  have calls : 1 ≤ callsAfter input := by
    unfold callsAfter
    split <;> omega
  have kept : ∀ t ∈ List.replicate n { s with idempotencyRecords := records } ++ after,
      t.idempotencyRecords = records := by
    intro t inside
    rcases List.mem_append.mp inside with early | late
    · rw [List.eq_of_mem_replicate early]
    · exact (left t late).1
  have added : ∀ t ∈ after, ¬ Untouched s t := by
    intro t inside same
    have here := untouched_recordRequests same
    rw [(left t inside).2] at here
    rw [here] at rows
    simpa using congrArg List.length rows
  have touches : ∀ i ≤ (List.replicate n { s with idempotencyRecords := records } ++ after).length,
      Untouched s (Async.storeAt { s with idempotencyRecords := records }
        (List.replicate n { s with idempotencyRecords := records } ++ after) i) ↔ i < n + 1 := by
    intro i inside
    rw [Async.storeAt_replicate]
    by_cases early : i < n + 1
    · rw [show i - n = 0 by omega, Async.storeAt_zero]
      exact ⟨fun _ => early, fun _ => untouched_records.mpr (untouched_refl s)⟩
    · obtain ⟨j, late⟩ : ∃ j, i - n = j + 1 := ⟨i - n - 1, by omega⟩
      refine ⟨fun same => absurd same ?_, fun early' => absurd early' early⟩
      rw [late]
      refine added _ (Async.storeAt_succ_mem _ ?_)
      omega
  have clean : FailsClean rt (Stored.json fun _ => none) ⟨env.now, env.recordUuid⟩
      (accessInput auth body key) (createRecordRequestRecord rt env auth body) s script ↔
        ¬ SlipsAfter (n + 1 + 2) ((List.replicate n { s with idempotencyRecords := records } ++
          after).length + 1 - (n + 1)) script :=
    failsClean_of_straight valid absent inserted straight kept holds (by omega) touches script
  rw [clean, size, show n + callsAfter input + 1 - (n + 1) = callsAfter input by omega,
    show n + 1 + 2 = 3 + n by omega]
  refine ⟨fun holds both => ?_, fun holds slips => ?_⟩
  · obtain ⟨learnerId', input', code', n', accepted', free', -, slips⟩ := both.2
    obtain ⟨rfl, rfl⟩ := Prod.mk.inj (Except.ok.inj (accepted.symm.trans accepted'))
    obtain ⟨rfl, rfl⟩ := Prod.mk.inj (Option.some.inj (free.symm.trans free'))
    exact holds slips
  · exact holds ⟨⟨name, valid, absent⟩, learnerId, input, code, n, accepted, free, known, slips⟩

end Request

/-! ### Both handlers -/

/-- A run of `execute` with one of the handlers that it is used with. -/
inductive HandlerRun where
  | createJob (env : Queue.JobEnv) (input : Queue.EnqueueJobInput) (key : String)
  | createRecordRequest (env : Access.AccessEnv) (auth : AuthTokenPayload) (body : Json)
      (key : String)

/-- What `execute` is asked. -/
def HandlerRun.input (rt : Runtime) : HandlerRun → IdempotencyInput
  | .createJob _ input key => Queue.idempotencyInput rt input key
  | .createRecordRequest _ auth body key => Access.accessInput auth body key

/-- The run, as the queue and the access service call it. -/
def HandlerRun.execute (rt : Runtime) : HandlerRun → Db Json
  | .createJob env input key =>
    Idempotency.execute rt (Stored.json Queue.responseJobId) ⟨env.now, env.recordUuid⟩
      (Queue.idempotencyInput rt input key) (Queue.createJob rt env input)
  | .createRecordRequest env auth body key =>
    Idempotency.execute rt (Stored.json fun _ => none) ⟨env.now, env.recordUuid⟩
      (Access.accessInput auth body key) (Access.createRecordRequestRecord rt env auth body)

/-- The ids that a run draws are free. -/
def HandlerRun.Fresh (s : Store) : HandlerRun → Prop
  | .createJob env _ _ =>
    (∀ r ∈ s.idempotencyRecords.rows, r.uuid ≠ env.recordUuid) ∧
      (∀ r ∈ s.backgroundJobs.rows, r.uuid ≠ env.jobUuid) ∧
      ∀ r ∈ s.domainEvents.rows, r.uuid ≠ env.eventUuid
  | .createRecordRequest env _ _ _ => FailedHandlers.Fresh env s

/-- The handler is run, and writes, and the first call that fails is one of those that follow its
first write up to the mark of success; the call that marks the record as failed goes through. -/
def HandlerRun.Slips (rt : Runtime) (s : Store) (script : List Outcome) (run : HandlerRun) : Prop :=
  Unused rt (run.input rt) s ∧
    match run with
    | .createJob _ _ _ => SlipsAfter 3 1 script
    | .createRecordRequest env auth body _ => RequestSlips rt env auth body s script

/-- **A request that is told to have failed left nothing**, exactly when its run does not slip. -/
theorem failsClean_iff (rt : Runtime) (run : HandlerRun) (s : Store) (fresh : run.Fresh s)
    (script : List Outcome) :
    (TellsFailed rt (run.input rt) (run.execute rt script s).store →
        Untouched s (run.execute rt script s).store) ↔
      ¬ run.Slips rt s script := by
  cases run with
  | createJob env input key =>
    exact createJob_failsClean fresh.1 fresh.2.1 fresh.2.2 script
  | createRecordRequest env auth body key =>
    exact createRecordRequestRecord_failsClean fresh script

/-! ### A job that is left behind -/

def queuedEnv : Queue.JobEnv where
  now := 0
  jobUuid := "job-1"
  eventUuid := "event-1"
  recordUuid := "record-1"

def queuedInput : Queue.EnqueueJobInput where
  type := .pdfGeneration
  queue := none
  institutionId := none
  createdById := none
  relatedEntityType := none
  relatedEntityId := none
  priority := none
  maxAttempts := none
  runAfter := none
  payload := .obj []
  eventType := none
  eventPayload := none
  idempotencyKey := some "credential-1"
  idempotencyScope := none
  idempotencyTtlHours := none

theorem fresh_queuedEnv :
    (HandlerRun.createJob queuedEnv queuedInput "credential-1").Fresh .empty :=
  ⟨fun _ inside => absurd inside (by simp [Store.empty]),
    fun _ inside => absurd inside (by simp [Store.empty]),
    fun _ inside => absurd inside (by simp [Store.empty])⟩

/-- The transaction of the job fails, and the record is marked as failed. -/
theorem failsClean_iff_refused :
    ((TellsFailed .plain ((HandlerRun.createJob queuedEnv queuedInput "credential-1").input .plain)
        ((HandlerRun.createJob queuedEnv queuedInput "credential-1").execute .plain
          [.done, .done, .failed, .done] .empty).store →
      Untouched .empty
        ((HandlerRun.createJob queuedEnv queuedInput "credential-1").execute .plain
          [.done, .done, .failed, .done] .empty).store) ↔
        ¬ (HandlerRun.createJob queuedEnv queuedInput "credential-1").Slips .plain .empty
          [.done, .done, .failed, .done]) ∧
      ¬ (HandlerRun.createJob queuedEnv queuedInput "credential-1").Slips .plain .empty
        [.done, .done, .failed, .done] := by
  refine ⟨failsClean_iff .plain _ .empty fresh_queuedEnv _, ?_⟩
  rintro ⟨-, i, late, early, fails, -⟩
  obtain rfl : i = 3 := by omega
  exact absurd fails.1 (by decide)

/-- **The job is created, the mark of its success fails**, and its caller is told to use a new
key. -/
theorem failsClean_fails :
    ¬ (TellsFailed .plain ((HandlerRun.createJob queuedEnv queuedInput "credential-1").input .plain)
        ((HandlerRun.createJob queuedEnv queuedInput "credential-1").execute .plain
          [.done, .done, .done, .failed, .done] .empty).store →
      Untouched .empty
        ((HandlerRun.createJob queuedEnv queuedInput "credential-1").execute .plain
          [.done, .done, .done, .failed, .done] .empty).store) := by
  intro clean
  obtain ⟨record, job, event⟩ := fresh_queuedEnv
  refine (createJob_failsClean record job event _).mp clean ⟨⟨"credential-1", rfl, rfl⟩, 3, ?_⟩
  refine ⟨by omega, by omega, ⟨rfl, fun j early => ?_⟩, rfl⟩
  interval_cases j <;> rfl

end AcadID.FailedHandlers
