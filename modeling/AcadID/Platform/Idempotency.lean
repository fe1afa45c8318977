/-
**Idempotent requests: one record for each scope and key.**

* `normaliseKey`, `stableText` and `clampHours` — what `execute` computes from its input.
* `findKey`, `replay`, `insertRecord`, `saveSucceeded` and `saveFailed` — the steps that `execute`
  takes on the table of records.
* `execute` — the service: a stored record answers, or a new one is made, the handler runs, and the
  record is marked; one `catch` covers both the handler and the mark of success.
* `KeysDiffer` — no two records have one scope and key; every step keeps it.
-/

import AcadID.Platform.Store

namespace AcadID

open Lib

namespace Idempotency

/-- The records of idempotent requests. -/
abbrev Records : Type :=
  Table IdempotencyRecord.uuid

/-- What a caller asks to be done once. -/
structure IdempotencyInput where
  scope : String
  key : String
  operation : String
  request : Json
  auth : Option AuthTokenPayload
  institutionId : Option Uuid
  ttlHours : Option ℚ

/-- How a response is stored, and read back from its stored copy. -/
structure Stored (ρ : Type) where
  toJson : ρ → Json
  ofStored : Json → ρ
  responseJobId : ρ → Option Uuid

/-- A response that is its own stored copy. -/
def Stored.json (responseJobId : Json → Option Uuid) : Stored Json where
  toJson := id
  ofStored := id
  responseJobId := responseJobId

/-- What the runtime and the database give a call. -/
structure IdempotencyEnv where
  now : Time
  recordUuid : Uuid

/-! ### Keys and hashes -/

/-- `[a-zA-Z0-9._:-]` -/
def isKeyChar (c : Char) : Bool :=
  Text.isAlphanumeric c || ['.', '_', ':', '-'].contains c

def normaliseKey (key : String) : Except ServiceError String := do
  let trimmed := Text.trim key
  require (8 ≤ Text.utf16Length trimmed && Text.utf16Length trimmed ≤ 200)
    (.badRequest "Idempotency key must be between 8 and 200 characters.")
  require (trimmed.toList.all isKeyChar)
    (.badRequest
      "Idempotency key may only contain letters, numbers, dots, underscores, colons, and hyphens.")
  return trimmed

/-- `stableStringify` -/
def stableText (rt : Runtime) (value : Json) : String :=
  String.ofList (value.stableStringify (fun a b => rt.localeLe a b = true) rt.format)

/-- The fingerprint of a request. -/
def requestHash (rt : Runtime) (request : Json) : String :=
  rt.sha256 (stableText rt request)

def clampHours (value : Option ℚ) : ℤ :=
  match value with
  | none => 24
  | some hours => min (24 * 30) (max 1 ⌊hours⌋)

/-! ### The steps on the records -/

/-- `findUnique` by scope and key. -/
def findKey (scope keyHash : String) (records : Records) : Option IdempotencyRecord :=
  records.rows.find? fun record => record.scope = scope ∧ record.keyHash = keyHash

/-- What a record that is there answers. -/
def replay (requestHash : String) (existing : IdempotencyRecord) : Except ServiceError Json := do
  require (existing.requestHash == requestHash)
    (.badRequest "Idempotency key was already used with a different request payload.")
  match existing.response.filter Json.truthy with
  | some response => return response
  | none =>
    if existing.status = .inProgress then
      .error (.conflict "An idempotent request with this key is still processing.")
    else
      .error (.conflict "An idempotent request with this key previously failed. Use a new key after resolving the error.")

def newRecord (env : IdempotencyEnv) (input : IdempotencyInput) (keyHash requestHash : String) :
    IdempotencyRecord where
  uuid := env.recordUuid
  scope := input.scope
  keyHash := keyHash
  requestHash := requestHash
  operation := input.operation
  status := .inProgress
  actorType := input.auth.bind (·.kind)
  actorUserId := input.auth.bind (·.actorId)
  clientId := input.auth.bind (·.clientId)
  institutionId := input.institutionId <|> input.auth.bind (·.institutionUuid)
  jobId := none
  response := none
  error := none
  expiresAt := env.now + clampHours input.ttlHours * 3600000

/-- A record whose scope and key are not taken. -/
def insertRecord (record : IdempotencyRecord) (records : Records) :
    Except ServiceError Records := do
  require (findKey record.scope record.keyHash records).isNone .uniqueViolation
  insertUnique records record

/-- What `createRecord` throws for an error of its insertion. -/
def recordingError : ServiceError → ServiceError
  | .uniqueViolation =>
    .conflict "An idempotent request with this key is already being recorded."
  | e => e

/-- An absent job id leaves the column as it is. -/
def succeeded (response : Json) (jobId : Option Uuid) (record : IdempotencyRecord) :
    IdempotencyRecord :=
  { record with
    status := .succeeded
    response := some response
    jobId := jobId <|> record.jobId
    error := none }

def saveSucceeded (uuid : Uuid) (response : Json) (jobId : Option Uuid) (records : Records) :
    Except ServiceError Records := do
  let (_, records) ← updateRow records uuid (succeeded response jobId) fun _ => rfl
  return records

def failed (message : String) (record : IdempotencyRecord) : IdempotencyRecord :=
  { record with
    status := .failed
    error := some (Text.slice 1000 message) }

def saveFailed (uuid : Uuid) (message : String) (records : Records) :
    Except ServiceError Records := do
  let (_, records) ← updateRow records uuid (failed message) fun _ => rfl
  return records

/-! ### The service -/

/-- A step on the records, as a call to the database. -/
def onRecords (step : Records → Except ServiceError Records) : Db Unit :=
  Db.transaction fun s => do
    let idempotencyRecords ← step s.idempotencyRecords
    return ((), { s with idempotencyRecords := idempotencyRecords })

def createRecord (record : IdempotencyRecord) : Db Unit :=
  tryCatch (onRecords (insertRecord record)) fun error => throw (recordingError error)

/-- The handler and the mark of its success, under one `catch`. -/
def runHandler {ρ : Type} (stored : Stored ρ) (uuid : Uuid) (handler : Db ρ) : Db ρ :=
  tryCatch
    (do
      let response ← handler
      onRecords (saveSucceeded uuid (stored.toJson response) (stored.responseJobId response))
      return response)
    fun error => do
      onRecords (saveFailed uuid error.message)
      throw error

/-- What follows the lookup of a record: the answer of one that is there, or a run of the handler
under a new one. -/
def answerOrRun {ρ : Type} (stored : Stored ρ) (record : IdempotencyRecord) (handler : Db ρ)
    (existing : Option IdempotencyRecord) : Db ρ :=
  match existing with
  | some existing =>
    Async.ofExcept ((replay record.requestHash existing).map stored.ofStored)
  | none => do
    createRecord record
    runHandler stored record.uuid handler

def execute {ρ : Type} (rt : Runtime) (stored : Stored ρ) (env : IdempotencyEnv)
    (input : IdempotencyInput) (handler : Db ρ) : Db ρ := do
  let key ← Async.ofExcept (normaliseKey input.key)
  let keyHash := rt.sha256 key
  let existing ← Db.read fun s => .ok (findKey input.scope keyHash s.idempotencyRecords)
  answerOrRun stored (newRecord env input keyHash (requestHash rt input.request)) handler existing

/-- A key that is not accepted is refused before any call to the database. -/
theorem execute_invalid {ρ : Type} {rt : Runtime} {stored : Stored ρ} {env : IdempotencyEnv}
    {input : IdempotencyInput} {handler : Db ρ} {e : ServiceError}
    (invalid : normaliseKey input.key = .error e) (script : List Outcome) (s : Store) :
    execute rt stored env input handler script s = ⟨.error e, script, s⟩ := by
  unfold execute
  rw [invalid, Async.ofExcept_error, Async.bind_of_error (Async.throw_apply e script s)]

/-- The lookup fails. -/
theorem execute_unread {ρ : Type} {rt : Runtime} {stored : Stored ρ} {env : IdempotencyEnv}
    {input : IdempotencyInput} {handler : Db ρ} {key : String}
    (valid : normaliseKey input.key = .ok key) {script : List Outcome}
    (fails : (Async.next script).1 = .failed) (s : Store) :
    execute rt stored env input handler script s =
      ⟨.error .database, (Async.next script).2, s⟩ := by
  unfold execute
  rw [valid, Async.ofExcept_ok, Async.bind_of_ok (Async.pure_apply key script s)]
  exact Async.bind_of_error (Db.read_failed fails _ s) _

/-- **The lookup goes through**, and what it finds decides. -/
theorem execute_read {ρ : Type} {rt : Runtime} {stored : Stored ρ} {env : IdempotencyEnv}
    {input : IdempotencyInput} {handler : Db ρ} {key : String}
    (valid : normaliseKey input.key = .ok key) {script : List Outcome}
    (goes : (Async.next script).1 = .done) (s : Store) :
    execute rt stored env input handler script s =
      answerOrRun stored (newRecord env input (rt.sha256 key) (requestHash rt input.request)) handler
        (findKey input.scope (rt.sha256 key) s.idempotencyRecords) (Async.next script).2 s := by
  unfold execute
  rw [valid, Async.ofExcept_ok, Async.bind_of_ok (Async.pure_apply key script s)]
  exact Async.bind_of_ok (Db.read_done goes _ s) _

/-! ### What the steps keep -/

/-- The unique constraint: no two records have one scope and key. -/
def KeysDiffer (records : Records) : Prop :=
  ∀ r ∈ records.rows, ∀ r' ∈ records.rows,
    r.scope = r'.scope → r.keyHash = r'.keyHash → r = r'

theorem findKey_eq_none {scope keyHash : String} {records : Records} :
    findKey scope keyHash records = none ↔
      ∀ r ∈ records.rows, ¬ (r.scope = scope ∧ r.keyHash = keyHash) := by
  unfold findKey
  rw [List.find?_eq_none]
  simp

theorem findKey_mem {scope keyHash : String} {records : Records} {record : IdempotencyRecord}
    (found : findKey scope keyHash records = some record) :
    record ∈ records.rows ∧ record.scope = scope ∧ record.keyHash = keyHash :=
  ⟨List.mem_of_find?_eq_some found, by simpa using List.find?_some found⟩

/-- **A lookup by scope and key** finds the record that has them. -/
theorem findKey_eq_some {scope keyHash : String} {records : Records} {record : IdempotencyRecord}
    (differ : KeysDiffer records) :
    findKey scope keyHash records = some record ↔
      record ∈ records.rows ∧ record.scope = scope ∧ record.keyHash = keyHash := by
  refine ⟨findKey_mem, fun ⟨inside, hasScope, hasKey⟩ => ?_⟩
  cases found : findKey scope keyHash records with
  | none => exact absurd ⟨hasScope, hasKey⟩ (findKey_eq_none.mp found record inside)
  | some other =>
    obtain ⟨inside', hasScope', hasKey'⟩ := findKey_mem found
    rw [differ other inside' record inside (hasScope'.trans hasScope.symm)
      (hasKey'.trans hasKey.symm)]

/-- **A replay** goes through only for the same request, and returns what was stored. -/
theorem replay_eq_ok {hash : String} {existing : IdempotencyRecord} {response : Json} :
    replay hash existing = .ok response ↔
      existing.requestHash = hash ∧ existing.response = some response ∧
        response.truthy = true := by
  unfold replay
  rw [bind_eq_ok]
  constructor
  · rintro ⟨_, same, rest⟩
    rw [require_eq_ok, beq_iff_eq] at same
    cases there : existing.response.filter Json.truthy with
    | some stored =>
      rw [there] at rest
      obtain ⟨here, holds⟩ := Option.filter_eq_some_iff.mp there
      obtain rfl : stored = response := pure_eq_ok.mp rest
      exact ⟨same, here, holds⟩
    | none =>
      rw [there] at rest
      by_cases processing : existing.status = .inProgress
      · simp [processing] at rest
      · simp [processing] at rest
  · rintro ⟨same, here, holds⟩
    refine ⟨(), require_eq_ok.mpr (beq_iff_eq.mpr same), ?_⟩
    rw [Option.filter_eq_some_iff.mpr ⟨here, holds⟩]
    rfl

/-- **An inserted record** is one more row, under a free id, scope and key. -/
theorem insertRecord_eq_ok {record : IdempotencyRecord} {records records' : Records} :
    insertRecord record records = .ok records' ↔
      findKey record.scope record.keyHash records = none ∧
        (∀ r ∈ records.rows, r.uuid ≠ record.uuid) ∧
        records'.rows = records.rows ++ [record] := by
  unfold insertRecord insertUnique
  rw [bind_eq_ok]
  constructor
  · rintro ⟨_, free, inserted⟩
    rw [require_eq_ok, Option.isNone_iff_eq_none] at free
    exact ⟨free, Table.insert_eq_some.mp (orThrow_eq_ok.mp inserted)⟩
  · rintro ⟨free, inserted⟩
    refine ⟨(), require_eq_ok.mpr (Option.isNone_iff_eq_none.mpr free), ?_⟩
    exact orThrow_eq_ok.mpr (Table.insert_eq_some.mpr inserted)

theorem saveSucceeded_eq_ok {uuid : Uuid} {response : Json} {jobId : Option Uuid}
    {records records' : Records} :
    saveSucceeded uuid response jobId records = .ok records' ↔
      (∃ record, records.find? uuid = some record) ∧
        records' = records.update uuid (succeeded response jobId) fun _ => rfl := by
  unfold saveSucceeded
  rw [bind_eq_ok]
  constructor
  · rintro ⟨⟨row, updated⟩, saved, same⟩
    obtain ⟨record, found, -, rfl⟩ := updateRow_eq_ok.mp saved
    exact ⟨⟨record, found⟩, (pure_eq_ok.mp same).symm⟩
  · rintro ⟨⟨record, found⟩, rfl⟩
    exact ⟨_, updateRow_eq_ok.mpr ⟨record, found, rfl, rfl⟩, rfl⟩

theorem saveFailed_eq_ok {uuid : Uuid} {message : String} {records records' : Records} :
    saveFailed uuid message records = .ok records' ↔
      (∃ record, records.find? uuid = some record) ∧
        records' = records.update uuid (failed message) fun _ => rfl := by
  unfold saveFailed
  rw [bind_eq_ok]
  constructor
  · rintro ⟨⟨row, updated⟩, saved, same⟩
    obtain ⟨record, found, -, rfl⟩ := updateRow_eq_ok.mp saved
    exact ⟨⟨record, found⟩, (pure_eq_ok.mp same).symm⟩
  · rintro ⟨⟨record, found⟩, rfl⟩
    exact ⟨_, updateRow_eq_ok.mpr ⟨record, found, rfl, rfl⟩, rfl⟩

theorem keysDiffer_insert {record : IdempotencyRecord} {records records' : Records}
    (differ : KeysDiffer records) (inserted : insertRecord record records = .ok records') :
    KeysDiffer records' := by
  obtain ⟨free, -, rows⟩ := insertRecord_eq_ok.mp inserted
  have absent := findKey_eq_none.mp free
  intro r inside r' inside' scope key
  rw [rows] at inside inside'
  rcases List.mem_append.mp inside with old | new
  · rcases List.mem_append.mp inside' with old' | new'
    · exact differ r old r' old' scope key
    · obtain rfl := List.mem_singleton.mp new'
      exact absurd ⟨scope, key⟩ (absent r old)
  · obtain rfl := List.mem_singleton.mp new
    rcases List.mem_append.mp inside' with old' | new'
    · exact absurd ⟨scope.symm, key.symm⟩ (absent r' old')
    · exact (List.mem_singleton.mp new').symm

/-- An update that leaves scopes and keys alone. -/
theorem keysDiffer_update {records : Records} {uuid : Uuid}
    {f : IdempotencyRecord → IdempotencyRecord} {keeps : ∀ r, (f r).uuid = r.uuid}
    (scopes : ∀ r, (f r).scope = r.scope) (keys : ∀ r, (f r).keyHash = r.keyHash)
    (differ : KeysDiffer records) : KeysDiffer (records.update uuid f keeps) := by
  have origin : ∀ r ∈ (records.update uuid f keeps).rows, ∃ old ∈ records.rows,
      r.uuid = old.uuid ∧ r.scope = old.scope ∧ r.keyHash = old.keyHash := by
    intro r inside
    rcases Table.mem_update.mp inside with ⟨old, here, -, rfl⟩ | ⟨here, -⟩
    · exact ⟨old, here, keeps old, scopes old, keys old⟩
    · exact ⟨r, here, rfl, rfl, rfl⟩
  intro r inside r' inside' scope key
  obtain ⟨old, here, uuid, hasScope, hasKey⟩ := origin r inside
  obtain ⟨old', here', uuid', hasScope', hasKey'⟩ := origin r' inside'
  have same : old = old' := differ old here old' here'
    (hasScope.symm.trans (scope.trans hasScope')) (hasKey.symm.trans (key.trans hasKey'))
  exact Table.eq_of_key_eq inside inside' (by rw [uuid, uuid', same])

/-! ### Calls that anything may fail -/

section Ensures

variable {ρ : Type} {rt : Runtime} {stored : Stored ρ} {env : IdempotencyEnv}
  {input : IdempotencyInput} {handler : Db ρ}

/-- A run that finds a record under its key leaves the store as it is. -/
theorem execute_answered {s : Store} {key : String} (valid : normaliseKey input.key = .ok key)
    {existing : IdempotencyRecord}
    (found : findKey input.scope (rt.sha256 key) s.idempotencyRecords = some existing)
    (script : List Outcome) : (execute rt stored env input handler script s).store = s := by
  cases outcome : (Async.next script).1 with
  | failed => rw [execute_unread valid outcome]
  | done =>
    rw [execute_read valid outcome, found]
    unfold answerOrRun
    show (Async.ofExcept ((replay _ existing).map stored.ofStored) _ s).store = s
    cases (replay _ existing).map stored.ofStored with
    | ok response => rfl
    | error e => rfl

/-- A step on the records that goes through leads to what it is known to lead to. -/
theorem onRecords_ensures {Q : Store → Prop} {t : Store} (here : Q t)
    {step : Records → Except ServiceError Records}
    (steps : ∀ records, step t.idempotencyRecords = .ok records →
      Q { t with idempotencyRecords := records }) :
    (onRecords step).Ensures t fun _ u => Q u := by
  unfold onRecords Db.transaction
  refine Async.ensures_transaction here (fun e _ => here) fun a u wrote => ?_
  obtain ⟨records, stepped, same⟩ := bind_eq_ok.mp wrote
  obtain ⟨-, rfl⟩ := Prod.mk.inj (pure_eq_ok.mp same)
  exact steps records stepped

/-- **A run of `execute` that inserts its record** leaves what the handler leaves then, if the marks
of success and failure keep it. -/
theorem execute_ensures_of {P Q : Store → Prop} {s : Store} (here : P s)
    (handled : ∀ key records, insertRecord (newRecord env input (rt.sha256 key)
      (requestHash rt input.request)) s.idempotencyRecords = .ok records →
        handler.Ensures { s with idempotencyRecords := records } fun _ t => Q t)
    (succeeds : ∀ t response jobId, Q t → Q { t with
      idempotencyRecords := t.idempotencyRecords.update env.recordUuid
        (succeeded response jobId) fun _ => rfl })
    (fails : ∀ t message, Q t → Q { t with
      idempotencyRecords := t.idempotencyRecords.update env.recordUuid (failed message)
        fun _ => rfl })
    (weaker : ∀ t, Q t → P t) : (execute rt stored env input handler).Ensures s fun _ t => P t := by
  have refuses : ∀ (e : ServiceError) (u : Store), Q u →
      (do
        onRecords (saveFailed env.recordUuid e.message)
        throw e : Db ρ).Ensures u fun _ w => Q w := by
    intro e u left
    refine Async.ensures_bind ((onRecords_ensures left fun records saved => ?_).mono
      fun r w after => ?_)
    · obtain ⟨-, rfl⟩ := saveFailed_eq_ok.mp saved
      exact fails u _ left
    · cases r with
      | error e' => exact after
      | ok _ => exact Async.ensures_throw after
  have runs : ∀ key records, insertRecord (newRecord env input (rt.sha256 key)
      (requestHash rt input.request)) s.idempotencyRecords = .ok records →
        (runHandler stored env.recordUuid handler).Ensures
          { s with idempotencyRecords := records } fun _ u => Q u := by
    intro key records inserted
    refine Async.ensures_tryCatch (Async.ensures_bind
      ((handled key records inserted).mono fun r u after => ?_))
    cases r with
    | error e => exact refuses e u after
    | ok response =>
      refine Async.ensures_bind ((onRecords_ensures after fun records saved => ?_).mono
        fun r w after => ?_)
      · obtain ⟨-, rfl⟩ := saveSucceeded_eq_ok.mp saved
        exact succeeds u _ _ after
      · cases r with
        | error e => exact refuses e w after
        | ok _ => exact Async.ensures_pure after
  intro script
  cases valid : normaliseKey input.key with
  | error e =>
    rw [execute_invalid valid]
    exact here
  | ok key =>
    cases found : findKey input.scope (rt.sha256 key) s.idempotencyRecords with
    | some existing =>
      rw [execute_answered valid found]
      exact here
    | none =>
      cases outcome : (Async.next script).1 with
      | failed =>
        rw [execute_unread valid outcome]
        exact here
      | done =>
        rw [execute_read valid outcome, found]
        have whole : (createRecord (newRecord env input (rt.sha256 key)
            (requestHash rt input.request)) >>= fun _ =>
              runHandler stored env.recordUuid handler).Ensures s fun _ t => P t := by
          refine Async.ensures_bind (Async.ensures_tryCatch ?_)
          unfold onRecords Db.transaction
          refine Async.ensures_transaction (Async.ensures_throw here)
            (fun e _ => Async.ensures_throw here) fun _ u wrote => ?_
          obtain ⟨records, inserted, same⟩ := bind_eq_ok.mp wrote
          obtain ⟨-, rfl⟩ := Prod.mk.inj (pure_eq_ok.mp same)
          exact (runs key records inserted).mono fun _ w after => weaker w after
        exact whole _

/-- **What a handler leaves, a run of `execute` leaves**, if writes to the records keep it. -/
theorem execute_ensures {Q : Store → Prop}
    (records : ∀ t r, Q t → Q { t with idempotencyRecords := r }) {s : Store} (here : Q s)
    (handled : ∀ r, handler.Ensures { s with idempotencyRecords := r } fun _ t => Q t) :
    (execute rt stored env input handler).Ensures s fun _ t => Q t :=
  execute_ensures_of here (fun _ r _ => handled r) (fun t _ _ left => records t _ left)
    (fun t _ left => records t _ left) fun _ left => left

end Ensures

/-! ### Calls that nothing fails -/

/-- A step on the records that goes through. -/
theorem onRecords_ok {step : Records → Except ServiceError Records} {s : Store} {records : Records}
    (steps : step s.idempotencyRecords = .ok records) (script : List Outcome)
    (goes : (Async.next script).1 = .done) :
    onRecords step script s =
      ⟨.ok (), (Async.next script).2, { s with idempotencyRecords := records }⟩ := by
  unfold onRecords Db.transaction
  refine Async.transaction_ok goes ?_
  rw [steps]
  rfl

/-- **A stored record answers.** -/
theorem execute_found {ρ : Type} {rt : Runtime} {stored : Stored ρ} {env : IdempotencyEnv}
    {input : IdempotencyInput} {handler : Db ρ} {key : String}
    (valid : normaliseKey input.key = .ok key) {s : Store} {existing : IdempotencyRecord}
    (found : findKey input.scope (rt.sha256 key) s.idempotencyRecords = some existing) :
    execute rt stored env input handler [] s =
      ⟨(replay (requestHash rt input.request) existing).map stored.ofStored, [], s⟩ := by
  rw [execute_read valid (Async.next_nil ▸ rfl) s, found]
  unfold answerOrRun
  show Async.ofExcept ((replay (requestHash rt input.request) existing).map stored.ofStored)
    [] s = _
  cases (replay (requestHash rt input.request) existing).map stored.ofStored with
  | ok response => rfl
  | error e => rfl

/-- **A key without a record runs the handler**, and its response is stored. -/
theorem execute_new {ρ : Type} {rt : Runtime} {stored : Stored ρ} {env : IdempotencyEnv}
    {input : IdempotencyInput} {handler : Db ρ} {key : String}
    (valid : normaliseKey input.key = .ok key) {s t : Store} {records records' : Records}
    {response : ρ} (absent : findKey input.scope (rt.sha256 key) s.idempotencyRecords = none)
    (inserted : insertRecord (newRecord env input (rt.sha256 key) (requestHash rt input.request))
      s.idempotencyRecords = .ok records)
    (handled : handler [] { s with idempotencyRecords := records } = ⟨.ok response, [], t⟩)
    (saved : saveSucceeded env.recordUuid (stored.toJson response) (stored.responseJobId response)
      t.idempotencyRecords = .ok records') :
    execute rt stored env input handler [] s =
      ⟨.ok response, [], { t with idempotencyRecords := records' }⟩ := by
  rw [execute_read valid (Async.next_nil ▸ rfl) s, absent]
  have created : createRecord (newRecord env input (rt.sha256 key) (requestHash rt input.request))
      [] s = ⟨.ok (), [], { s with idempotencyRecords := records }⟩ :=
    Async.tryCatch_of_ok (onRecords_ok inserted [] rfl) _
  show (createRecord _ >>= fun _ => runHandler stored env.recordUuid handler) [] s = _
  rw [Async.bind_of_ok created]
  refine Async.tryCatch_of_ok ?_ _
  rw [Async.bind_of_ok handled, Async.bind_of_ok (onRecords_ok saved [] rfl)]
  rfl

/-- A lookup after an update that leaves scopes and keys alone. -/
theorem findKey_update {records : Records} {uuid : Uuid}
    {f : IdempotencyRecord → IdempotencyRecord} {keeps : ∀ r, (f r).uuid = r.uuid}
    (scopes : ∀ r, (f r).scope = r.scope) (keys : ∀ r, (f r).keyHash = r.keyHash)
    (scope keyHash : String) :
    findKey scope keyHash (records.update uuid f keeps) =
      (findKey scope keyHash records).map fun r => if r.uuid = uuid then f r else r := by
  unfold findKey Table.update
  rw [Table.rows_updateMany, List.find?_map]
  have same : ((fun r : IdempotencyRecord => decide (r.scope = scope ∧ r.keyHash = keyHash)) ∘
      fun r => if (decide (r.uuid = uuid)) = true then f r else r) =
        fun r => decide (r.scope = scope ∧ r.keyHash = keyHash) := by
    funext r
    by_cases hit : r.uuid = uuid <;> simp [hit, scopes r, keys r]
  rw [same]
  simp

/-- A lookup after an insertion under the same scope and key. -/
theorem findKey_insert {record : IdempotencyRecord} {records records' : Records}
    (inserted : insertRecord record records = .ok records') :
    findKey record.scope record.keyHash records' = some record := by
  obtain ⟨free, -, rows⟩ := insertRecord_eq_ok.mp inserted
  unfold findKey at free ⊢
  rw [rows, List.find?_append, free]
  simp

/-- A record under a free id, scope and key can be inserted. -/
theorem insertRecord_of_free {record : IdempotencyRecord} {records : Records}
    (absent : findKey record.scope record.keyHash records = none)
    (fresh : ∀ r ∈ records.rows, r.uuid ≠ record.uuid) :
    ∃ records', insertRecord record records = .ok records' := by
  obtain ⟨records', grown⟩ := Table.insert_of_fresh fresh
  exact ⟨records', insertRecord_eq_ok.mpr ⟨absent, Table.insert_eq_some.mp grown⟩⟩

theorem find?_insertRecord {record : IdempotencyRecord} {records records' : Records}
    (inserted : insertRecord record records = .ok records') :
    records'.find? record.uuid = some record := by
  refine Table.find?_eq_some.mpr ⟨?_, rfl⟩
  rw [(insertRecord_eq_ok.mp inserted).2.2]
  exact List.mem_append_right _ (List.mem_singleton_self record)

/-- The lookup of an inserted record, after an update that leaves scopes and keys alone. -/
theorem findKey_update_inserted {record : IdempotencyRecord} {records records' : Records}
    (inserted : insertRecord record records = .ok records')
    (f : IdempotencyRecord → IdempotencyRecord) (keeps : ∀ r, (f r).uuid = r.uuid)
    (scopes : ∀ r, (f r).scope = r.scope) (keys : ∀ r, (f r).keyHash = r.keyHash) :
    findKey record.scope record.keyHash (records'.update record.uuid f keeps) =
      some (f record) := by
  rw [findKey_update scopes keys, findKey_insert inserted, Option.map_some, if_pos rfl]

/-- A handler's answer can be saved in an inserted record. -/
theorem saveSucceeded_inserted {record : IdempotencyRecord} {records records' : Records}
    (inserted : insertRecord record records = .ok records') (response : Json)
    (jobId : Option Uuid) :
    saveSucceeded record.uuid response jobId records' =
      .ok (records'.update record.uuid (succeeded response jobId) fun _ => rfl) :=
  saveSucceeded_eq_ok.mpr ⟨⟨_, find?_insertRecord inserted⟩, rfl⟩

theorem saveFailed_inserted {record : IdempotencyRecord} {records records' : Records}
    (inserted : insertRecord record records = .ok records') (message : String) :
    saveFailed record.uuid message records' =
      .ok (records'.update record.uuid (failed message) fun _ => rfl) :=
  saveFailed_eq_ok.mpr ⟨⟨_, find?_insertRecord inserted⟩, rfl⟩

/-- **A key without a record** runs a handler that leaves the records alone, and from then on its
record holds the response. -/
theorem execute_first {ρ : Type} {rt : Runtime} {stored : Stored ρ} {env : IdempotencyEnv}
    {input : IdempotencyInput} {handler : Db ρ} {key : String}
    (valid : normaliseKey input.key = .ok key) {s t : Store} {response : ρ}
    (absent : findKey input.scope (rt.sha256 key) s.idempotencyRecords = none)
    (fresh : ∀ r ∈ s.idempotencyRecords.rows, r.uuid ≠ env.recordUuid)
    (handled : ∀ records, handler [] { s with idempotencyRecords := records } =
      ⟨.ok response, [], { t with idempotencyRecords := records }⟩) :
    ∃ records, execute rt stored env input handler [] s =
        ⟨.ok response, [], { t with idempotencyRecords := records }⟩ ∧
      findKey input.scope (rt.sha256 key) records =
        some (succeeded (stored.toJson response) (stored.responseJobId response)
          (newRecord env input (rt.sha256 key) (requestHash rt input.request))) := by
  obtain ⟨records, inserted⟩ := @insertRecord_of_free
    (newRecord env input (rt.sha256 key) (requestHash rt input.request)) _ absent fresh
  have executed := execute_new valid absent inserted (handled records)
    (saveSucceeded_inserted inserted (stored.toJson response) (stored.responseJobId response))
  exact ⟨_, executed, findKey_update_inserted inserted
    (succeeded (stored.toJson response) (stored.responseJobId response)) (fun _ => rfl)
    (fun _ => rfl) fun _ => rfl⟩

/-- A lookup after an insertion. -/
theorem findKey_inserted {record : IdempotencyRecord} {a a' : Records}
    (inserted : insertRecord record a = .ok a') (scope h : String) :
    findKey scope h a' =
      if record.scope = scope ∧ record.keyHash = h then some record else findKey scope h a := by
  obtain ⟨free, -, rows⟩ := insertRecord_eq_ok.mp inserted
  unfold findKey at free ⊢
  rw [rows, List.find?_append]
  by_cases is : record.scope = scope ∧ record.keyHash = h
  · rw [if_pos is]
    obtain ⟨rfl, rfl⟩ := is
    rw [free]
    simp
  · rw [if_neg is]
    simp [is]

theorem find?_inserted {record : IdempotencyRecord} {a a' : Records}
    (inserted : insertRecord record a = .ok a') (u : Uuid) :
    a'.find? u = if record.uuid = u then some record else a.find? u := by
  obtain ⟨-, fresh, rows⟩ := insertRecord_eq_ok.mp inserted
  exact Table.find?_insert (Table.insert_eq_some.mpr ⟨fresh, rows⟩) u

/-- An insertion that does not go through violates a constraint. -/
theorem insertRecord_error {record : IdempotencyRecord} {a : Records}
    (taken : ¬ (findKey record.scope record.keyHash a = none ∧ a.find? record.uuid = none)) :
    insertRecord record a = .error .uniqueViolation := by
  cases result : insertRecord record a with
  | ok a' =>
    obtain ⟨free, fresh, -⟩ := insertRecord_eq_ok.mp result
    exact absurd ⟨free, Table.find?_eq_none.mpr fresh⟩ taken
  | error e =>
    unfold insertRecord require insertUnique orThrow at result
    by_cases free : (findKey record.scope record.keyHash a).isNone
    · rw [if_pos free] at result
      cases grown : a.insert record with
      | some a' =>
        rw [grown] at result
        exact absurd result (by simp [bind, Except.bind])
      | none =>
        rw [grown] at result
        exact result.symm
    · rw [if_neg free] at result
      exact result.symm

end Idempotency

end AcadID
