/-
**Requests for records, one call to the database at a time.**

* `handlerStep` — the handler of a request: a code, the request, its log entry, the lead that is
  looked up, the lead that is written, its log entry.
* `machine` — the service: the handler, under the record of an idempotency key if the client has
  sent one.
* `residual_createRecordRequest` — **run alone, the machine is the service** of `Access`.
-/

import AcadID.Gateway.Access
import AcadID.Lib.Process

namespace AcadID.RequestRuns

open Lib Access

/-! ### The handler -/

/-- A body that is accepted, with what the runtime gives its call. -/
structure Draft where
  env : AccessEnv
  auth : AuthTokenPayload
  learnerId : Uuid
  input : CreateRecordRequestInput

namespace Draft

variable (rt : Runtime) (draft : Draft)

def request (requestId : String) : RecordRequest :=
  newRequest rt draft.env draft.auth draft.learnerId draft.input requestId

def lead (requestId : String) : LeadInput :=
  leadInput rt draft.env draft.auth draft.input (draft.request rt requestId)

def response (requestId : String) (institution : Option Institution)
    (lead : Option InvitationLead) : Json :=
  responseJson (draft.request rt requestId) institution lead

end Draft

/-- How far a handler that runs has come. -/
inductive Handling where
  | coding (draft : Draft) (code : String) (codes : List String)
  | storing (draft : Draft) (requestId : String)
  | auditing (draft : Draft) (requestId : String) (institution : Option Institution)
  | finding (draft : Draft) (requestId : String) (institution : Option Institution)
  | saving (draft : Draft) (requestId : String) (institution : Option Institution)
    (existing : Option InvitationLead)
  | logging (draft : Draft) (requestId : String) (institution : Option Institution)
    (existing : Option InvitationLead) (lead : InvitationLead)

/-- A handler that runs, or its end with the request that it has stored. -/
inductive Handled where
  | running (handling : Handling)
  | returned (response : Json) (stored : RecordRequest)
  | threw (error : ServiceError) (stored : Option RecordRequest)

/-- The next of the codes, if there is one. -/
def coding (draft : Draft) : List String → Handled
  | [] => .threw (.badRequest "Could not allocate a record request ID.") none
  | code :: codes => .running (.coding draft code codes)

def handlerStart (rt : Runtime) (env : AccessEnv) (auth : AuthTokenPayload) (body : Json) :
    Handled :=
  match acceptBody rt auth body with
  | .ok (learnerId, input) => coding ⟨env, auth, learnerId, input⟩ (recordRequestCodes env)
  | .error e => .threw e none

/-- The request that a handler has stored. -/
def Handling.stored (rt : Runtime) : Handling → Option RecordRequest
  | .coding .. | .storing .. => none
  | .auditing draft requestId _ | .finding draft requestId _ | .saving draft requestId _ _
  | .logging draft requestId _ _ _ => some (draft.request rt requestId)

/-- One call of a handler to the database, when it goes through. -/
def handlerDone (rt : Runtime) (handling : Handling) (s : Store) : Handled × Store :=
  match handling with
  | .coding draft code codes =>
    (if hasCode code s then coding draft codes else .running (.storing draft code), s)
  | .storing draft requestId =>
    match insertRequest (draft.request rt requestId) s with
    | .ok (institution, t) => (.running (.auditing draft requestId institution), t)
    | .error e => (.threw e none, s)
  | .auditing draft requestId institution =>
    (if draft.input.institutionId.isSome then
        .returned (draft.response rt requestId institution none) (draft.request rt requestId)
      else .running (.finding draft requestId institution),
      s.audit (requestAudit draft.auth (draft.request rt requestId)))
  | .finding draft requestId institution =>
    (.running (.saving draft requestId institution
      (findLead (draft.lead rt requestId).institutionNameKey s)), s)
  | .saving draft requestId institution existing =>
    match saveLead (draft.lead rt requestId) existing s with
    | .ok (lead, t) => (.running (.logging draft requestId institution existing lead), t)
    | .error e => (.threw e (some (draft.request rt requestId)), s)
  | .logging draft requestId institution existing lead =>
    (.returned (draft.response rt requestId institution (some lead)) (draft.request rt requestId),
      s.audit (leadAudit draft.auth (draft.lead rt requestId) existing lead))

/-- One call of a handler to the database. -/
def handlerStep (rt : Runtime) (outcome : Outcome) (handling : Handling) (s : Store) :
    Handled × Store :=
  match outcome with
  | .done => handlerDone rt handling s
  | .failed => (.threw .database (handling.stored rt), s)

/-! ### The service -/

/-- A call of the service. -/
structure RequestCall where
  env : AccessEnv
  auth : AuthTokenPayload
  body : Json
  idempotencyKey : Option String

/-- How far a call has come: the record of its key is looked up, created and marked, around the
handler. -/
inductive Progress where
  | looking (record : IdempotencyRecord) (handled : Handled)
  | creating (record : IdempotencyRecord) (handled : Handled)
  | handling (record : Option Uuid) (handling : Handling)
  | marking (record : Uuid) (response : Json) (stored : RecordRequest)
  | releasing (record : Uuid) (error : ServiceError) (stored : Option RecordRequest)
  | succeeded (response : Json) (stored : Option RecordRequest)
  | failed (error : ServiceError) (stored : Option RecordRequest)

/-- What follows a step of the handler: under a key, its end is marked on the record. -/
def under (record : Option Uuid) (handled : Handled) : Progress :=
  match handled, record with
  | .running handling, record => .handling record handling
  | .returned response stored, none => .succeeded response (some stored)
  | .returned response stored, some uuid => .marking uuid response stored
  | .threw e stored, none => .failed e stored
  | .threw e stored, some uuid => .releasing uuid e stored

/-- The record of a call under a key. -/
def keyRecord (rt : Runtime) (call : RequestCall) (key normal : String) : IdempotencyRecord :=
  Idempotency.newRecord ⟨call.env.now, call.env.recordUuid⟩ (accessInput call.auth call.body key)
    (rt.sha256 normal) (Idempotency.requestHash rt call.body)

def requestStart (rt : Runtime) (call : RequestCall) : Progress :=
  let handled := handlerStart rt call.env call.auth call.body
  match call.idempotencyKey.filter (· ≠ "") with
  | none => under none handled
  | some key =>
    match Idempotency.normaliseKey key with
    | .error e => .failed e none
    | .ok normal => .looking (keyRecord rt call key normal) handled

/-- A step on the records of keys. -/
def onRecords (step : Idempotency.Records → Except ServiceError Idempotency.Records) (s : Store) :
    Except ServiceError Store := do
  let idempotencyRecords ← step s.idempotencyRecords
  return { s with idempotencyRecords := idempotencyRecords }

/-- One call of the service to the database, when it goes through. -/
def requestDone (rt : Runtime) (progress : Progress) (s : Store) : Progress × Store :=
  match progress with
  | .looking record handled =>
    match Idempotency.findKey record.scope record.keyHash s.idempotencyRecords with
    | none => (.creating record handled, s)
    | some existing =>
      match Idempotency.replay record.requestHash existing with
      | .ok response => (.succeeded response none, s)
      | .error e => (.failed e none, s)
  | .creating record handled =>
    match onRecords (Idempotency.insertRecord record) s with
    | .ok t => (under (some record.uuid) handled, t)
    | .error e => (.failed (Idempotency.recordingError e) none, s)
  | .handling record handling =>
    (under record (handlerDone rt handling s).1, (handlerDone rt handling s).2)
  | .marking uuid response stored =>
    match onRecords (Idempotency.saveSucceeded uuid response none) s with
    | .ok t => (.succeeded response (some stored), t)
    | .error e => (.releasing uuid e (some stored), s)
  | .releasing uuid error stored =>
    match onRecords (Idempotency.saveFailed uuid error.message) s with
    | .ok t => (.failed error stored, t)
    | .error e => (.failed e stored, s)
  | .succeeded response stored => (.succeeded response stored, s)
  | .failed e stored => (.failed e stored, s)

/-- What a call of the service becomes when its call to the database fails. -/
def requestFailed (rt : Runtime) : Progress → Progress
  | .looking .. | .creating .. => .failed .database none
  | .handling record handling => under record (.threw .database (handling.stored rt))
  | .marking uuid _ stored => .releasing uuid .database (some stored)
  | .releasing _ _ stored => .failed .database stored
  | .succeeded response stored => .succeeded response stored
  | .failed e stored => .failed e stored

/-- **The service as a machine.** -/
def machine (rt : Runtime) : Machine Store RequestCall Progress where
  start := requestStart rt
  step outcome progress s :=
    match outcome with
    | .done => requestDone rt progress s
    | .failed => (requestFailed rt progress, s)

/-- A call that has ended, and its result. -/
def Progress.ended : Progress → Option (Except ServiceError Json)
  | .succeeded response _ => some (.ok response)
  | .failed e _ => some (.error e)
  | _ => none

/-! ### What is left of a call -/

/-- What a handler still does. -/
def restHandling (rt : Runtime) : Handling → Db Json
  | .coding draft code codes => do
    restStoring draft (← firstFree (code :: codes))
  | .storing draft requestId => restStoring draft requestId
  | .auditing draft requestId institution => restAuditing draft requestId institution
  | .finding draft requestId institution => restFinding draft requestId institution
  | .saving draft requestId institution existing => restSaving draft requestId institution existing
  | .logging draft requestId institution existing lead =>
    restLogging draft requestId institution existing lead
where
  restLogging (draft : Draft) (requestId : String) (institution : Option Institution)
      (existing : Option InvitationLead) (lead : InvitationLead) : Db Json := do
    Db.audit (leadAudit draft.auth (draft.lead rt requestId) existing lead)
    return draft.response rt requestId institution (some lead)
  restSaving (draft : Draft) (requestId : String) (institution : Option Institution)
      (existing : Option InvitationLead) : Db Json := do
    let lead ← Db.transaction (saveLead (draft.lead rt requestId) existing)
    restLogging draft requestId institution existing lead
  restFinding (draft : Draft) (requestId : String) (institution : Option Institution) :
      Db Json := do
    let existing ← Db.read fun s => .ok (findLead (draft.lead rt requestId).institutionNameKey s)
    restSaving draft requestId institution existing
  restAuditing (draft : Draft) (requestId : String) (institution : Option Institution) :
      Db Json := do
    Db.audit (requestAudit draft.auth (draft.request rt requestId))
    if draft.input.institutionId.isSome then
      return draft.response rt requestId institution none
    else restFinding draft requestId institution
  restStoring (draft : Draft) (requestId : String) : Db Json := do
    let institution ← Db.transaction (insertRequest (draft.request rt requestId))
    restAuditing draft requestId institution

def restHandled (rt : Runtime) : Handled → Db Json
  | .running handling => restHandling rt handling
  | .returned response _ => return response
  | .threw e _ => throw e

/-- **One call of a handler**, and what is left after it. -/
theorem restHandling_step (rt : Runtime) (handling : Handling) (script : List Outcome) (s : Store) :
    restHandling rt handling script s =
      restHandled rt (handlerStep rt (Async.next script).1 handling s).1 (Async.next script).2
        (handlerStep rt (Async.next script).1 handling s).2 := by
  cases handling with
  | coding draft code codes =>
    show (((Db.read fun s => .ok (hasCode code s)) >>= fun taken =>
      if taken then firstFree codes else pure code) >>= restHandling.restStoring rt draft)
        script s = _
    rw [Db.bind_bind, Db.read_bind]
    cases (Async.next script).1 with
    | failed => rfl
    | done =>
      dsimp only [handlerStep, handlerDone]
      by_cases taken : hasCode code s = true
      · rw [if_pos taken, if_pos taken]
        cases codes <;> rfl
      · rw [if_neg taken, if_neg taken]
        rfl
  | storing draft requestId =>
    show (Db.transaction (insertRequest (draft.request rt requestId)) >>=
      restHandling.restAuditing rt draft requestId) script s = _
    rw [Db.transaction_bind]
    cases (Async.next script).1 with
    | failed => rfl
    | done =>
      dsimp only [handlerStep, handlerDone]
      cases insertRequest (draft.request rt requestId) s <;> rfl
  | auditing draft requestId institution =>
    show (Db.audit (requestAudit draft.auth (draft.request rt requestId)) >>= fun _ => _)
      script s = _
    rw [Db.audit_bind]
    cases (Async.next script).1 with
    | failed => rfl
    | done =>
      dsimp only [handlerStep, handlerDone]
      by_cases registered : draft.input.institutionId.isSome = true
      · rw [if_pos registered, if_pos registered]
        rfl
      · rw [if_neg registered, if_neg registered]
        rfl
  | finding draft requestId institution =>
    show ((Db.read fun s => .ok (findLead (draft.lead rt requestId).institutionNameKey s)) >>=
      restHandling.restSaving rt draft requestId institution) script s = _
    rw [Db.read_bind]
    cases (Async.next script).1 <;> rfl
  | saving draft requestId institution existing =>
    show (Db.transaction (saveLead (draft.lead rt requestId) existing) >>=
      restHandling.restLogging rt draft requestId institution existing) script s = _
    rw [Db.transaction_bind]
    cases (Async.next script).1 with
    | failed => rfl
    | done =>
      dsimp only [handlerStep, handlerDone]
      cases saveLead (draft.lead rt requestId) existing s <;> rfl
  | logging draft requestId institution existing lead =>
    show (Db.audit (leadAudit draft.auth (draft.lead rt requestId) existing lead) >>= fun _ => _)
      script s = _
    rw [Db.audit_bind]
    cases (Async.next script).1 <;> rfl

/-! ### The machine alone -/

/-- Responses are stored as they are. -/
def stored : Idempotency.Stored Json :=
  Idempotency.Stored.json fun _ => none

def mark (uuid : Uuid) (response : Json) : Db Json := do
  Idempotency.onRecords (Idempotency.saveSucceeded uuid response none)
  return response

def release (uuid : Uuid) (error : ServiceError) : Db Json := do
  Idempotency.onRecords (Idempotency.saveFailed uuid error.message)
  throw error

/-- What a call still does. -/
def rest (rt : Runtime) : Progress → Db Json
  | .looking record handled => do
    let existing ← Db.read fun s =>
      .ok (Idempotency.findKey record.scope record.keyHash s.idempotencyRecords)
    Idempotency.answerOrRun stored record (restHandled rt handled) existing
  | .creating record handled => do
    Idempotency.createRecord record
    Idempotency.runHandler stored record.uuid (restHandled rt handled)
  | .handling none handling => restHandling rt handling
  | .handling (some uuid) handling =>
    Idempotency.runHandler stored uuid (restHandling rt handling)
  | .marking uuid response _ => tryCatch (mark uuid response) (release uuid)
  | .releasing uuid e _ => release uuid e
  | .succeeded response _ => return response
  | .failed e _ => throw e

theorem onRecords_step (step : Idempotency.Records → Except ServiceError Idempotency.Records)
    (s : Store) :
    (do
      let idempotencyRecords ← step s.idempotencyRecords
      return ((), { s with idempotencyRecords := idempotencyRecords }) :
        Except ServiceError (Unit × Store)) = (onRecords step s).map fun t => ((), t) := by
  unfold onRecords
  cases step s.idempotencyRecords <;> rfl

theorem onRecords_bind {β : Type}
    (step : Idempotency.Records → Except ServiceError Idempotency.Records) (g : Unit → Db β)
    (script : List Outcome) (s : Store) :
    (Idempotency.onRecords step >>= g) script s =
      match (Async.next script).1 with
      | .failed => ⟨.error .database, (Async.next script).2, s⟩
      | .done =>
        match onRecords step s with
        | .ok t => g () (Async.next script).2 t
        | .error e => ⟨.error e, (Async.next script).2, s⟩ := by
  unfold Idempotency.onRecords
  rw [Db.transaction_bind]
  cases (Async.next script).1 with
  | failed => rfl
  | done =>
    dsimp only
    rw [onRecords_step]
    cases onRecords step s <;> rfl

theorem onRecords_apply (step : Idempotency.Records → Except ServiceError Idempotency.Records)
    (script : List Outcome) (s : Store) :
    Idempotency.onRecords step script s =
      match (Async.next script).1 with
      | .failed => ⟨.error .database, (Async.next script).2, s⟩
      | .done =>
        match onRecords step s with
        | .ok t => ⟨.ok (), (Async.next script).2, t⟩
        | .error e => ⟨.error e, (Async.next script).2, s⟩ := by
  have bound := onRecords_bind step pure script s
  have same : (Idempotency.onRecords step >>= pure : Db Unit) script s =
      Idempotency.onRecords step script s := by
    rw [Async.bind_apply]
    rcases Idempotency.onRecords step script s with ⟨_ | _, _, _⟩ <;> rfl
  rw [← same, bound]
  rfl

/-- What follows a step of the handler is what the service makes of what is left of it. -/
theorem rest_under_none (rt : Runtime) (handled : Handled) :
    rest rt (under none handled) = restHandled rt handled := by
  cases handled <;> rfl

theorem rest_under_some (rt : Runtime) (uuid : Uuid) (handled : Handled) :
    rest rt (under (some uuid) handled) =
      Idempotency.runHandler stored uuid (restHandled rt handled) := by
  cases handled <;> rfl

/-- A program under the service's `catch` that steps to another one. -/
theorem runHandler_congr {x y : Db Json} {script rest' : List Outcome} {s t : Store}
    (same : x script s = y rest' t) (uuid : Uuid) :
    Idempotency.runHandler stored uuid x script s =
      Idempotency.runHandler stored uuid y rest' t := by
  unfold Idempotency.runHandler
  rw [Async.tryCatch_apply, Async.tryCatch_apply, Async.bind_apply, Async.bind_apply, same]

/-- Steps until a handler ends. -/
def Handling.left : Handling → ℕ
  | .coding _ _ codes => 6 + codes.length
  | .storing .. => 5
  | .auditing .. => 4
  | .finding .. => 3
  | .saving .. => 2
  | .logging .. => 1

def Handled.left : Handled → ℕ
  | .running handling => handling.left
  | _ => 0

/-- Steps until a call ends. -/
def Progress.left : Progress → ℕ
  | .looking _ handled => handled.left + 4
  | .creating _ handled => handled.left + 3
  | .handling _ running => running.left + 2
  | .marking .. => 2
  | .releasing .. => 1
  | .succeeded .. | .failed .. => 0

theorem coding_left (draft : Draft) (codes : List String) :
    (coding draft codes).left ≤ 5 + codes.length := by
  cases codes with
  | nil => simp [coding, Handled.left]
  | cons code codes =>
    simp only [coding, Handled.left, Handling.left, List.length_cons]
    omega

theorem handlerStep_left (rt : Runtime) (outcome : Outcome) (handling : Handling) (s : Store) :
    (handlerStep rt outcome handling s).1.left < handling.left := by
  cases outcome with
  | failed => cases handling <;> simp [handlerStep, Handled.left, Handling.left]
  | done =>
    cases handling with
    | coding draft code codes =>
      dsimp only [handlerStep, handlerDone]
      by_cases taken : hasCode code s = true
      · rw [if_pos taken]
        have := coding_left draft codes
        simp only [Handling.left]
        omega
      · rw [if_neg taken]
        simp only [Handled.left, Handling.left]
        omega
    | storing draft requestId =>
      dsimp only [handlerStep, handlerDone]
      cases insertRequest (draft.request rt requestId) s <;> simp [Handled.left, Handling.left]
    | auditing draft requestId institution =>
      dsimp only [handlerStep, handlerDone]
      split <;> simp [Handled.left, Handling.left]
    | finding draft requestId institution =>
      simp [handlerStep, handlerDone, Handled.left, Handling.left]
    | saving draft requestId institution existing =>
      dsimp only [handlerStep, handlerDone]
      cases saveLead (draft.lead rt requestId) existing s <;> simp [Handled.left, Handling.left]
    | logging draft requestId institution existing lead =>
      simp [handlerStep, handlerDone, Handled.left, Handling.left]

theorem under_left (record : Option Uuid) (handled : Handled) :
    (under record handled).left ≤ handled.left + 2 := by
  cases handled <;> cases record <;> simp [under, Progress.left, Handled.left]

/-- **What is left of a call** at each of its steps. -/
theorem residual_machine (rt : Runtime) :
    (machine rt).Residual Progress.ended (rest rt) Progress.left where
  result x r is script s := by
    cases x <;> simp only [Progress.ended, reduceCtorEq, Option.some.injEq] at is
    · rw [← is]
      rfl
    · rw [← is]
      rfl
  step x open_ script s := by
    cases x with
    | looking record handled =>
      show ((Db.read fun s =>
        .ok (Idempotency.findKey record.scope record.keyHash s.idempotencyRecords)) >>= _)
          script s = _
      rw [Db.read_bind]
      dsimp only [machine]
      cases (Async.next script).1 with
      | failed => rfl
      | done =>
        dsimp only [requestDone]
        cases Idempotency.findKey record.scope record.keyHash s.idempotencyRecords with
        | none => rfl
        | some existing =>
          dsimp only [Idempotency.answerOrRun]
          cases Idempotency.replay record.requestHash existing <;> rfl
    | creating record handled =>
      show (tryCatch (Idempotency.onRecords (Idempotency.insertRecord record)) _ >>= _) script s = _
      rw [Async.bind_apply, Async.tryCatch_apply, onRecords_apply]
      dsimp only [machine]
      cases (Async.next script).1 with
      | failed => rfl
      | done =>
        dsimp only [requestDone]
        cases onRecords (Idempotency.insertRecord record) s with
        | error e => rfl
        | ok t =>
          dsimp only
          rw [rest_under_some]
    | handling record running =>
      have stepped := restHandling_step rt running script s
      have next : ∀ record, rest rt
          (under record (handlerStep rt (Async.next script).1 running s).1) (Async.next script).2
          (handlerStep rt (Async.next script).1 running s).2 =
            rest rt ((machine rt).step (Async.next script).1 (.handling record running) s).1
              (Async.next script).2
              ((machine rt).step (Async.next script).1 (.handling record running) s).2 := by
        intro record
        cases (Async.next script).1 <;> rfl
      rw [← next]
      cases record with
      | none =>
        rw [rest_under_none]
        exact stepped
      | some uuid =>
        rw [rest_under_some]
        exact runHandler_congr stepped uuid
    | marking uuid response stored =>
      show tryCatch (Idempotency.onRecords (Idempotency.saveSucceeded uuid response none) >>=
        fun _ => pure response) (release uuid) script s = _
      rw [Async.tryCatch_apply, onRecords_bind]
      dsimp only [machine]
      cases (Async.next script).1 with
      | failed => rfl
      | done =>
        dsimp only [requestDone]
        cases onRecords (Idempotency.saveSucceeded uuid response none) s <;> rfl
    | releasing uuid e stored =>
      show (Idempotency.onRecords (Idempotency.saveFailed uuid e.message) >>= fun _ => throw e)
        script s = _
      rw [onRecords_bind]
      dsimp only [machine]
      cases (Async.next script).1 with
      | failed => rfl
      | done =>
        dsimp only [requestDone]
        cases onRecords (Idempotency.saveFailed uuid e.message) s <;> rfl
    | succeeded => exact absurd open_ (by simp [Progress.ended])
    | failed => exact absurd open_ (by simp [Progress.ended])
  left x open_ outcome s := by
    cases x with
    | looking record handled =>
      cases outcome with
      | failed => simp [machine, requestFailed, Progress.left]
      | done =>
        dsimp only [machine, requestDone]
        split
        · simp [Progress.left]
        · split <;> simp [Progress.left]
    | creating record handled =>
      cases outcome with
      | failed => simp [machine, requestFailed, Progress.left]
      | done =>
        dsimp only [machine, requestDone]
        split
        · exact Nat.lt_succ_of_le (under_left (some record.uuid) handled)
        · simp [Progress.left]
    | handling record running =>
      have stepped := handlerStep_left rt outcome running s
      have after := under_left record (handlerStep rt outcome running s).1
      have same : ((machine rt).step outcome (.handling record running) s).1 =
          under record (handlerStep rt outcome running s).1 := by
        cases outcome <;> rfl
      rw [same]
      show _ < running.left + 2
      omega
    | marking uuid response stored =>
      cases outcome with
      | failed => simp [machine, requestFailed, Progress.left]
      | done =>
        dsimp only [machine, requestDone]
        split <;> simp [Progress.left]
    | releasing uuid e stored =>
      cases outcome with
      | failed => simp [machine, requestFailed, Progress.left]
      | done =>
        dsimp only [machine, requestDone]
        split <;> simp [Progress.left]
    | succeeded => exact absurd open_ (by simp [Progress.ended])
    | failed => exact absurd open_ (by simp [Progress.ended])

theorem restHandled_coding (rt : Runtime) (draft : Draft) (codes : List String) :
    restHandled rt (coding draft codes) =
      (firstFree codes >>= restHandling.restStoring rt draft) := by
  cases codes <;> rfl

/-- What follows the log entry of a request: the lead, if the institution is not registered. -/
theorem restAuditing_eq (rt : Runtime) (draft : Draft) (requestId : String)
    (institution : Option Institution) :
    (createInvitationLeadForUnregisteredInstitution rt draft.env draft.auth draft.input
        (draft.request rt requestId) >>= fun lead =>
      pure (responseJson (draft.request rt requestId) institution lead) : Db Json) =
      if draft.input.institutionId.isSome then pure (draft.response rt requestId institution none)
      else restHandling.restFinding rt draft requestId institution := by
  unfold createInvitationLeadForUnregisteredInstitution
  have both : (draft.input.institutionId.isSome ||
      (draft.request rt requestId).institutionId.isSome) = draft.input.institutionId.isSome :=
    Bool.or_self _
  rw [both]
  by_cases registered : draft.input.institutionId.isSome = true
  · rw [if_pos registered, if_pos registered]
    rfl
  · rw [if_neg registered, if_neg registered]
    funext script s
    -- The lead is looked up, written and logged, on either side.
    show ((createInvitationLead draft.auth (draft.lead rt requestId) >>= fun lead =>
      pure (some lead)) >>= fun lead => _) script s = _
    rw [Db.bind_bind]
    unfold createInvitationLead restHandling.restFinding
    rw [Db.bind_bind, Db.read_bind, Db.read_bind]
    cases (Async.next script).1 with
    | failed => rfl
    | done =>
      dsimp only
      unfold restHandling.restSaving
      rw [Db.bind_bind, Db.transaction_bind, Db.transaction_bind]
      cases (Async.next (Async.next script).2).1 with
      | failed => rfl
      | done =>
        dsimp only
        cases saveLead (draft.lead rt requestId)
          (findLead (draft.lead rt requestId).institutionNameKey s) s with
        | error e => rfl
        | ok pair =>
          dsimp only
          unfold restHandling.restLogging
          rw [Db.bind_bind, Db.audit_bind, Db.audit_bind]
          cases (Async.next (Async.next (Async.next script).2).2).1 <;> rfl

/-- A handler that begins has the whole of it left. -/
theorem restHandled_start (rt : Runtime) (env : AccessEnv) (auth : AuthTokenPayload) (body : Json) :
    restHandled rt (handlerStart rt env auth body) =
      createRecordRequestRecord rt env auth body := by
  unfold handlerStart createRecordRequestRecord
  cases acceptBody rt auth body with
  | error e => rfl
  | ok both =>
    obtain ⟨learnerId, input⟩ := both
    show restHandled rt (coding ⟨env, auth, learnerId, input⟩ _) = createAccepted _ _ _ _ _
    rw [restHandled_coding]
    unfold createAccepted
    congr 1
    funext requestId
    refine congrArg (Db.transaction (insertRequest _) >>= ·) (funext fun institution => ?_)
    refine congrArg (Db.audit (requestAudit auth _) >>= ·) (funext fun _ => ?_)
    exact (restAuditing_eq rt ⟨env, auth, learnerId, input⟩ requestId institution).symm

/-- A call under a key that begins has all of `execute` left. -/
theorem rest_looking (rt : Runtime) (call : RequestCall) {key normal : String}
    (valid : Idempotency.normaliseKey key = .ok normal) :
    rest rt (.looking (keyRecord rt call key normal)
        (handlerStart rt call.env call.auth call.body)) =
      Idempotency.execute rt stored ⟨call.env.now, call.env.recordUuid⟩
        (accessInput call.auth call.body key)
        (createRecordRequestRecord rt call.env call.auth call.body) := by
  have valid : Idempotency.normaliseKey (accessInput call.auth call.body key).key = .ok normal :=
    valid
  unfold Idempotency.execute
  rw [valid, Async.ofExcept_ok]
  dsimp only [rest]
  rw [restHandled_start]
  rfl

theorem rest_start (rt : Runtime) (call : RequestCall) :
    rest rt (requestStart rt call) =
      createRecordRequest rt call.env call.auth call.body call.idempotencyKey := by
  cases keyed : call.idempotencyKey.filter (· ≠ "") with
  | none =>
    have start : requestStart rt call =
        under none (handlerStart rt call.env call.auth call.body) := by
      unfold requestStart
      rw [keyed]
    have service : createRecordRequest rt call.env call.auth call.body call.idempotencyKey =
        createRecordRequestRecord rt call.env call.auth call.body := by
      unfold createRecordRequest
      rw [keyed]
    rw [start, service, rest_under_none, restHandled_start]
  | some key =>
    have service : createRecordRequest rt call.env call.auth call.body call.idempotencyKey =
        Idempotency.execute rt stored ⟨call.env.now, call.env.recordUuid⟩
          (accessInput call.auth call.body key)
          (createRecordRequestRecord rt call.env call.auth call.body) := by
      unfold createRecordRequest
      rw [keyed]
      rfl
    rw [service]
    cases valid : Idempotency.normaliseKey key with
    | error e =>
      have start : requestStart rt call = .failed e none := by
        unfold requestStart
        rw [keyed]
        dsimp only
        rw [valid]
      have valid : Idempotency.normaliseKey (accessInput call.auth call.body key).key = .error e :=
        valid
      funext script s
      rw [start, Idempotency.execute_invalid valid]
      rfl
    | ok normal =>
      have start : requestStart rt call = .looking (keyRecord rt call key normal)
          (handlerStart rt call.env call.auth call.body) := by
        unfold requestStart
        rw [keyed]
        dsimp only
        rw [valid]
      rw [start, rest_looking rt call valid]

theorem start_left (rt : Runtime) (call : RequestCall) : (requestStart rt call).left < 16 := by
  have handled : (handlerStart rt call.env call.auth call.body).left ≤ 11 := by
    unfold handlerStart
    split
    · refine (coding_left _ _).trans ?_
      rw [recordRequestCodes, List.length_map, List.length_range]
    · exact Nat.zero_le _
  unfold requestStart
  split
  · exact lt_of_le_of_lt (under_left none _) (by omega)
  · split
    · exact Nat.succ_pos _
    · show _ + 4 < 16
      omega

/-- **Run alone, the machine is the service**: it ends with the service's result, and leaves its
store. -/
theorem createRecordRequest_eq_alone (rt : Runtime) (call : RequestCall) (script : List Outcome)
    (s : Store) :
    ∃ r, ((machine rt).alone Progress.ended 16 (requestStart rt call) script s).1.ended = some r ∧
      createRecordRequest rt call.env call.auth call.body call.idempotencyKey script s =
        ⟨r, ((machine rt).alone Progress.ended 16 (requestStart rt call) script s).2.1,
          ((machine rt).alone Progress.ended 16 (requestStart rt call) script s).2.2⟩ := by
  rw [← rest_start]
  exact Machine.run_eq_alone (residual_machine rt) 16 _ (start_left rt call) script s

end AcadID.RequestRuns
