/-
**Record requests of different actors.**

Any number of calls of `createRecordRequest`, by any actors, one after the other, each of their
calls to the database failing or not.

* `responsesTo` — what an actor is answered in a run.
* `Apart` — at each of the actor's calls, the record that its key finds, if any, is the actor's own;
  no earlier call of another actor left the lead that it asks for, or a code or an id that it draws.
* `blind_createRecordRequest` — a call answers the same at stores that differ in what others left.
* `responses_eq_of_apart` — **noninterference**: two runs with the same calls of an actor, apart
  from the others in both, answer the actor the same.
-/

import AcadID.Gateway.Access
import AcadID.Lib.Lockstep

namespace AcadID.Separation

open Lib Idempotency Access

/-! ### Runs -/

/-- Who an access token speaks for, and who a record says it was made by. -/
abbrev Actor : Type :=
  Option Uuid × Option String

def actor (auth : AuthTokenPayload) : Actor :=
  (auth.actorId, auth.clientId)

def maker (record : IdempotencyRecord) : Actor :=
  (record.actorUserId, record.clientId)

structure AccessCall where
  env : AccessEnv
  auth : AuthTokenPayload
  body : Json
  key : Option String
  script : List Outcome

def respond (rt : Runtime) (s : Store) (c : AccessCall) : Ended Store ServiceError Json :=
  createRecordRequest rt c.env c.auth c.body c.key c.script s

def afterCall (rt : Runtime) (s : Store) (c : AccessCall) : Store :=
  (respond rt s c).store

/-- What an actor is answered in a run. -/
def responsesTo (rt : Runtime) (me : Actor) :
    Store → List AccessCall → List (Except ServiceError Json)
  | _, [] => []
  | s, c :: calls =>
    if actor c.auth = me then (respond rt s c).result :: responsesTo rt me (afterCall rt s c) calls
    else responsesTo rt me (afterCall rt s c) calls

/-- The hash that the key of a call is looked up by. -/
def AccessCall.keyHash (rt : Runtime) (c : AccessCall) : Option String := do
  let key ← c.key.filter (· ≠ "")
  let key ← (normaliseKey key).toOption
  return rt.sha256 key

/-- The key of the lead that a call asks for. -/
def AccessCall.leadKey (rt : Runtime) (c : AccessCall) : Option String :=
  match acceptBody rt c.auth c.body with
  | .ok (_, input) =>
    if input.institutionId.isSome then none
    else some (invitationLeadKey rt (Text.trim input.institutionNameSubmitted))
  | .error _ => none

/-- The ids that a call draws. -/
def AccessCall.uuids (c : AccessCall) : List Uuid :=
  [c.env.requestUuid, c.env.leadUuid, c.env.recordUuid]

/-! ### Apart -/

/-- What other actors have left: leads, codes and ids. -/
structure Marks where
  leadKeys : Set String
  codes : Set String
  uuids : Set Uuid

def Marks.none : Marks where
  leadKeys := ∅
  codes := ∅
  uuids := ∅

def Marks.union (M N : Marks) : Marks where
  leadKeys := M.leadKeys ∪ N.leadKeys
  codes := M.codes ∪ N.codes
  uuids := M.uuids ∪ N.uuids

/-- The leads that a call creates or changes, the codes that it takes, and the ids that it draws. -/
def leaves (rt : Runtime) (s : Store) (c : AccessCall) : Marks where
  leadKeys := { k | findLead k (afterCall rt s c) ≠ findLead k s }
  codes := { code | hasCode code (afterCall rt s c) ≠ hasCode code s }
  uuids := { u | u ∈ c.uuids }

/-- Nothing that a call asks for or draws is marked. -/
structure Unmarked (rt : Runtime) (M : Marks) (c : AccessCall) : Prop where
  lead : ∀ k, c.leadKey rt = some k → k ∉ M.leadKeys
  codes : ∀ code ∈ recordRequestCodes c.env, code ∉ M.codes
  uuids : ∀ u ∈ c.uuids, u ∉ M.uuids

/-- The scope of the records of the service. -/
def accessScope : String :=
  "access:record_request"

/-- The record under the key of a call, if there is one, is its own actor's. -/
def OwnKey (rt : Runtime) (s : Store) (c : AccessCall) : Prop :=
  ∀ h, c.keyHash rt = some h → ∀ record,
    findKey accessScope h s.idempotencyRecords = some record → maker record = actor c.auth

/-- **At each call of the actor** the key is its own, and nothing that it asks for or draws was left
by the others. -/
def ApartFrom (rt : Runtime) (me : Actor) : Marks → Store → List AccessCall → Prop
  | _, _, [] => True
  | M, s, c :: calls =>
    if actor c.auth = me then
      OwnKey rt s c ∧ Unmarked rt M c ∧ ApartFrom rt me M (afterCall rt s c) calls
    else ApartFrom rt me (M.union (leaves rt s c)) (afterCall rt s c) calls

def Apart (rt : Runtime) (me : Actor) (s : Store) (calls : List AccessCall) : Prop :=
  ApartFrom rt me .none s calls

/-! ### Stores that one actor cannot tell apart -/

/-- The records are the same under every key but those that another actor holds on the left; and
under the key of the call at hand. -/
structure RecordsAlike (me : Actor) (M : Marks) (own : Option String) (a b : Records) : Prop where
  keys : ∀ h, findKey accessScope h a = findKey accessScope h b ∨
    ∃ r, findKey accessScope h a = some r ∧ maker r ≠ me
  own : ∀ h, own = some h → findKey accessScope h a = findKey accessScope h b
  rows : ∀ u, u ∉ M.uuids → a.find? u = b.find? u

/-- The same codes and ids are taken, but for those that are marked. -/
structure RequestsAlike (M : Marks) (a b : Table RecordRequest.uuid) : Prop where
  codes : ∀ code, code ∉ M.codes →
    (a.rows.any fun request => request.requestId = code) =
      b.rows.any fun request => request.requestId = code
  ids : ∀ u, u ∉ M.uuids → (a.find? u).isSome = (b.find? u).isSome

/-- The leads are the same, but for those that are marked. -/
structure LeadsAlike (M : Marks) (a b : Table InvitationLead.uuid) : Prop where
  keys : ∀ k, k ∉ M.leadKeys →
    (a.rows.find? fun lead => lead.institutionNameKey = k) =
      b.rows.find? fun lead => lead.institutionNameKey = k
  ids : ∀ u, u ∉ M.uuids → (a.find? u).isSome = (b.find? u).isSome

/-- The stores differ, for the actor, only in what is marked or held by others. -/
structure Alike (me : Actor) (M : Marks) (own : Option String) (s t : Store) : Prop where
  institutions : s.institutions = t.institutions
  learners : s.learners = t.learners
  records : RecordsAlike me M own s.idempotencyRecords t.idempotencyRecords
  requests : RequestsAlike M s.recordRequests t.recordRequests
  leads : LeadsAlike M s.invitationLeads t.invitationLeads

theorem alike_refl (me : Actor) (M : Marks) (own : Option String) (s : Store) :
    Alike me M own s s :=
  ⟨rfl, rfl, ⟨fun _ => .inl rfl, fun _ _ => rfl, fun _ _ => rfl⟩,
    ⟨fun _ _ => rfl, fun _ _ => rfl⟩, ⟨fun _ _ => rfl, fun _ _ => rfl⟩⟩

/-- **What a call of another actor leaves** is added to what was there. -/
theorem alike_trans {me : Actor} {M N : Marks} {s s' t : Store} (next : Alike me N none s' s)
    (before : Alike me M none s t) : Alike me (M.union N) none s' t := by
  have out : ∀ u, u ∉ (M.union N).uuids → u ∉ M.uuids ∧ u ∉ N.uuids :=
    fun u outside => ⟨fun inside => outside (.inl inside), fun inside => outside (.inr inside)⟩
  refine ⟨next.institutions.trans before.institutions, next.learners.trans before.learners,
    ⟨fun h => ?_, fun h is => absurd is (by simp), fun u outside => ?_⟩,
    ⟨fun code outside => ?_, fun u outside => ?_⟩, ⟨fun k outside => ?_, fun u outside => ?_⟩⟩
  · rcases next.records.keys h with same | foreign
    · rw [same]
      exact before.records.keys h
    · exact .inr foreign
  · exact (next.records.rows u (out u outside).2).trans (before.records.rows u (out u outside).1)
  · exact (next.requests.codes code fun inside => outside (.inr inside)).trans
      (before.requests.codes code fun inside => outside (.inl inside))
  · exact (next.requests.ids u (out u outside).2).trans (before.requests.ids u (out u outside).1)
  · exact (next.leads.keys k fun inside => outside (.inr inside)).trans
      (before.leads.keys k fun inside => outside (.inl inside))
  · exact (next.leads.ids u (out u outside).2).trans (before.leads.ids u (out u outside).1)

/-! ### What steps on the tables keep -/

section Tables

variable {me : Actor} {M : Marks} {own : Option String}

/-- An update that leaves the columns alone that are looked at. -/
theorem recordsAlike_update {a b : Records} (alike : RecordsAlike me M own a b) (uuid : Uuid)
    {f : IdempotencyRecord → IdempotencyRecord} {keeps : ∀ r, (f r).uuid = r.uuid}
    (scopes : ∀ r, (f r).scope = r.scope) (hashes : ∀ r, (f r).keyHash = r.keyHash)
    (makers : ∀ r, maker (f r) = maker r) :
    RecordsAlike me M own (a.update uuid f keeps) (b.update uuid f keeps) := by
  refine ⟨fun h => ?_, fun h is => ?_, fun u outside => ?_⟩
  · rw [findKey_update scopes hashes, findKey_update scopes hashes]
    rcases alike.keys h with same | ⟨r, found, foreign⟩
    · exact .inl (by rw [same])
    · right
      rw [found]
      by_cases hit : r.uuid = uuid
      · exact ⟨f r, by simp [hit], by rw [makers]; exact foreign⟩
      · exact ⟨r, by simp [hit], foreign⟩
  · rw [findKey_update scopes hashes, findKey_update scopes hashes, alike.own h is]
  · rw [Table.find?_update, Table.find?_update, alike.rows u outside]

/-- **An insertion under the own key** goes alike. -/
theorem recordsAlike_insert {a b : Records} {record : IdempotencyRecord}
    (alike : RecordsAlike me M own a b) (scope : record.scope = accessScope)
    (named : own = some record.keyHash) (unmarked : record.uuid ∉ M.uuids) :
    (∃ a' b', insertRecord record a = .ok a' ∧ insertRecord record b = .ok b' ∧
        RecordsAlike me M own a' b') ∨
      ∃ e, insertRecord record a = .error e ∧ insertRecord record b = .error e := by
  have found : findKey record.scope record.keyHash a = findKey record.scope record.keyHash b := by
    rw [scope]
    exact alike.own record.keyHash named
  have there := alike.rows record.uuid unmarked
  by_cases free : findKey record.scope record.keyHash a = none ∧ a.find? record.uuid = none
  swap
  · refine .inr ⟨.uniqueViolation, insertRecord_error free, insertRecord_error ?_⟩
    rw [← found, ← there]
    exact free
  left
  obtain ⟨a', left⟩ := insertRecord_of_free free.1 (Table.find?_eq_none.mp free.2)
  obtain ⟨b', right⟩ := insertRecord_of_free (found ▸ free.1)
    (Table.find?_eq_none.mp (there ▸ free.2))
  refine ⟨a', b', left, right, fun h => ?_, fun h is => ?_, fun u outside => ?_⟩
  · rw [findKey_inserted left, findKey_inserted right]
    by_cases is : record.scope = accessScope ∧ record.keyHash = h
    · rw [if_pos is, if_pos is]
      exact .inl rfl
    · rw [if_neg is, if_neg is]
      exact alike.keys h
  · rw [findKey_inserted left, findKey_inserted right, alike.own h is]
  · rw [find?_inserted left, find?_inserted right, alike.rows u outside]

/-- An insertion of another actor's record. -/
theorem recordsAlike_foreign {a a' : Records} {record : IdempotencyRecord}
    (inserted : insertRecord record a = .ok a') (foreign : maker record ≠ me)
    (marked : record.uuid ∈ M.uuids) : RecordsAlike me M none a' a := by
  refine ⟨fun h => ?_, fun h is => absurd is (by simp), fun u outside => ?_⟩
  · rw [findKey_inserted inserted]
    by_cases is : record.scope = accessScope ∧ record.keyHash = h
    · rw [if_pos is]
      exact .inr ⟨record, rfl, foreign⟩
    · rw [if_neg is]
      exact .inl rfl
  · rw [find?_inserted inserted, if_neg fun same : record.uuid = u => outside (same ▸ marked)]

/-- **An update of another actor's record.** -/
theorem recordsAlike_updated {a b : Records} (alike : RecordsAlike me M none a b) {uuid : Uuid}
    {r : IdempotencyRecord} (there : a.find? uuid = some r) (foreign : maker r ≠ me)
    (marked : uuid ∈ M.uuids) {f : IdempotencyRecord → IdempotencyRecord}
    (keeps : ∀ r, (f r).uuid = r.uuid) (scopes : ∀ r, (f r).scope = r.scope)
    (hashes : ∀ r, (f r).keyHash = r.keyHash) (makers : ∀ r, maker (f r) = maker r) :
    RecordsAlike me M none (a.update uuid f keeps) b := by
  refine ⟨fun h => ?_, fun h is => absurd is (by simp), fun u outside => ?_⟩
  · rw [findKey_update scopes hashes]
    cases found : findKey accessScope h a with
    | none =>
      rcases alike.keys h with same | ⟨r', found', -⟩
      · exact .inl (by rw [← same, found]; rfl)
      · exact absurd (found.symm.trans found') (by simp)
    | some r' =>
      by_cases hit : r'.uuid = uuid
      · -- The row under this id is the other actor's.
        obtain rfl : r' = r := by
          have here := Table.find?_eq_some.mpr ⟨(findKey_mem found).1, hit⟩
          exact Option.some.inj (here.symm.trans there)
        exact .inr ⟨f r', by simp [hit], by rw [makers]; exact foreign⟩
      · rcases alike.keys h with same | ⟨r'', found', foreign'⟩
        · exact .inl (by rw [← same, found]; simp [hit])
        · obtain rfl := Option.some.inj (found.symm.trans found')
          exact .inr ⟨r', by simp [hit], foreign'⟩
  · rw [Table.find?_update, if_neg fun same : uuid = u => outside (same ▸ marked),
      alike.rows u outside]

theorem hasCode_inserted {request : RecordRequest} {a a' : Table RecordRequest.uuid}
    (inserted : a.insert request = some a') (code : String) :
    (a'.rows.any fun other => other.requestId = code) =
      ((a.rows.any fun other => other.requestId = code) || decide (request.requestId = code)) := by
  rw [(Table.insert_eq_some.mp inserted).2, List.any_append]
  simp

/-- **A request under an unmarked id** is inserted alike. -/
theorem requestsAlike_insert {a b : Table RecordRequest.uuid} {request : RecordRequest}
    (alike : RequestsAlike M a b) (unmarked : request.uuid ∉ M.uuids) :
    (∃ a' b', a.insert request = some a' ∧ b.insert request = some b' ∧ RequestsAlike M a' b') ∨
      a.insert request = none ∧ b.insert request = none := by
  rcases Table.insert_alike (alike.ids request.uuid unmarked) with ⟨a', b', left, right⟩ | neither
  · refine .inl ⟨a', b', left, right, fun code outside => ?_, fun u outside => ?_⟩
    · rw [hasCode_inserted left, hasCode_inserted right, alike.codes code outside]
    · rw [Table.find?_insert_isSome left, Table.find?_insert_isSome right, alike.ids u outside]
  · exact .inr neither

/-- The leads under a key, after an update that leaves keys alone. -/
theorem findLead_update (a : Table InvitationLead.uuid) (uuid : Uuid)
    {f : InvitationLead → InvitationLead} (keeps : ∀ lead, (f lead).uuid = lead.uuid)
    (names : ∀ lead, (f lead).institutionNameKey = lead.institutionNameKey) (k : String) :
    ((a.update uuid f keeps).rows.find? fun lead => lead.institutionNameKey = k) =
      (a.rows.find? fun lead => lead.institutionNameKey = k).map fun lead =>
        if lead.uuid = uuid then f lead else lead := by
  unfold Table.update
  rw [Table.rows_updateMany, List.find?_map]
  have same : ((fun lead : InvitationLead => decide (lead.institutionNameKey = k)) ∘
      fun lead => if (decide (lead.uuid = uuid)) = true then f lead else lead) =
        fun lead => decide (lead.institutionNameKey = k) := by
    funext lead
    by_cases hit : lead.uuid = uuid <;> simp [hit, names lead]
  rw [same]
  simp

theorem findLead_inserted {lead : InvitationLead} {a a' : Table InvitationLead.uuid}
    (inserted : a.insert lead = some a') (k : String) :
    (a'.rows.find? fun other => other.institutionNameKey = k) =
      ((a.rows.find? fun other => other.institutionNameKey = k) <|>
        if lead.institutionNameKey = k then some lead else none) := by
  rw [(Table.insert_eq_some.mp inserted).2, List.find?_append]
  by_cases is : lead.institutionNameKey = k <;> simp [is]

theorem leadsAlike_update {a b : Table InvitationLead.uuid} (alike : LeadsAlike M a b) (uuid : Uuid)
    {f : InvitationLead → InvitationLead} (keeps : ∀ lead, (f lead).uuid = lead.uuid)
    (names : ∀ lead, (f lead).institutionNameKey = lead.institutionNameKey) :
    LeadsAlike M (a.update uuid f keeps) (b.update uuid f keeps) := by
  refine ⟨fun k outside => ?_, fun u outside => ?_⟩
  · rw [findLead_update a uuid keeps names, findLead_update b uuid keeps names,
      alike.keys k outside]
  · rw [Table.find?_update_isSome, Table.find?_update_isSome, alike.ids u outside]

/-- A lead under an unmarked id is inserted alike. -/
theorem leadsAlike_insert {a b : Table InvitationLead.uuid} {lead : InvitationLead}
    (alike : LeadsAlike M a b) (unmarked : lead.uuid ∉ M.uuids) :
    (∃ a' b', a.insert lead = some a' ∧ b.insert lead = some b' ∧ LeadsAlike M a' b') ∨
      a.insert lead = none ∧ b.insert lead = none := by
  rcases Table.insert_alike (alike.ids lead.uuid unmarked) with ⟨a', b', left, right⟩ | neither
  · refine .inl ⟨a', b', left, right, fun k outside => ?_, fun u outside => ?_⟩
    · rw [findLead_inserted left, findLead_inserted right, alike.keys k outside]
    · rw [Table.find?_insert_isSome left, Table.find?_insert_isSome right, alike.ids u outside]
  · exact .inr neither

end Tables

/-! ### A call of the actor -/

section Own

variable {rt : Runtime} {me : Actor} {M : Marks} {own : Option String}

/-- The stores that a call of the actor cannot tell apart. -/
abbrev Blind (me : Actor) (M : Marks) (own : Option String) {α : Type} (x : Db α) : Prop :=
  Async.Respects (Alike me M own) x

theorem blind_audit (event : AuditEvent) : Blind me M own (Db.audit event) := by
  refine Async.lockstep_transaction (fun _ _ alike => alike) fun s t alike => ⟨rfl, ?_⟩
  exact ⟨alike.institutions, alike.learners, alike.records, alike.requests, alike.leads⟩

/-- The codes are drawn alike. -/
theorem blind_firstFree {codes : List String} (unmarked : ∀ code ∈ codes, code ∉ M.codes) :
    Blind me M own (firstFree codes) := by
  induction codes with
  | nil => exact Async.respects_throw _
  | cons code codes ih =>
    refine Async.respects_bind (Async.respects_query fun s t alike => ?_) fun taken => ?_
    · have same := alike.requests.codes code (unmarked code List.mem_cons_self)
      unfold hasCode
      rw [same]
    · cases taken with
      | true => exact ih fun code inside => unmarked code (List.mem_cons_of_mem _ inside)
      | false => exact Async.respects_pure _

/-- A request under an unmarked id and code is inserted alike. -/
theorem blind_insertRequest {request : RecordRequest} (code : request.requestId ∉ M.codes)
    (unmarked : request.uuid ∉ M.uuids) :
    Blind me M own (Db.transaction (insertRequest request)) := by
  refine Async.lockstep_transaction (fun _ _ alike => alike) fun s t alike => ?_
  unfold insertRequest hasCode
  refine agree_bind (by rw [alike.requests.codes _ code]) fun _ _ => ?_
  refine agree_bind (by rw [alike.learners]) fun _ _ => ?_
  refine agree_bind (by rw [alike.institutions]) fun _ _ => ?_
  unfold insertUnique
  rcases requestsAlike_insert alike.requests unmarked with
    ⟨a, b, left, right, after⟩ | ⟨left, right⟩
  · rw [left, right]
    refine ⟨by rw [alike.institutions], ?_⟩
    exact ⟨alike.institutions, alike.learners, alike.records, after, alike.leads⟩
  · rw [left, right]
    rfl

/-- **A lead under an unmarked key** is read, and then saved, alike. -/
theorem blind_createInvitationLead (auth : AuthTokenPayload) {input : LeadInput}
    (key : input.institutionNameKey ∉ M.leadKeys) (unmarked : input.leadUuid ∉ M.uuids) :
    Blind me M own (createInvitationLead auth input) := by
  refine Async.respects_query_bind (fun s t alike => alike.leads.keys _ key) fun existing => ?_
  refine Async.respects_bind ?_ fun lead =>
    Async.respects_bind (blind_audit _) fun _ => Async.respects_pure lead
  refine Async.lockstep_transaction (fun _ _ both => both.1) fun s t both => ?_
  obtain ⟨alike, left, right⟩ := both
  cases existing with
  | some existing =>
    have here : s.invitationLeads.find? existing.uuid = some existing :=
      Table.find?_eq_some.mpr ⟨List.mem_of_find?_eq_some left, rfl⟩
    have there : t.invitationLeads.find? existing.uuid = some existing :=
      Table.find?_eq_some.mpr ⟨List.mem_of_find?_eq_some right, rfl⟩
    rw [saveLead_found here, saveLead_found there]
    refine ⟨rfl, alike.institutions, alike.learners, alike.records, alike.requests, ?_⟩
    exact @leadsAlike_update M _ _ alike.leads existing.uuid (demanded input existing)
      (fun _ => rfl) fun _ => rfl
  | none =>
    rw [saveLead_absent left, saveLead_absent right]
    unfold insertUnique
    rcases @leadsAlike_insert M _ _ (newLead input) alike.leads unmarked with
      ⟨a, b, left, right, after⟩ | ⟨left, right⟩
    · rw [left, right]
      refine ⟨rfl, ?_⟩
      exact ⟨alike.institutions, alike.learners, alike.records, alike.requests, after⟩
    · rw [left, right]
      rfl

theorem leadKey_eq {c : AccessCall} {learnerId : Uuid} {input : CreateRecordRequestInput}
    (accepted : acceptBody rt c.auth c.body = .ok (learnerId, input))
    (unregistered : input.institutionId.isSome = false) :
    c.leadKey rt = some (invitationLeadKey rt (Text.trim input.institutionNameSubmitted)) := by
  unfold AccessCall.leadKey
  rw [accepted]
  dsimp only
  rw [unregistered, if_neg Bool.false_ne_true]

/-- The handler of a call that asks for and draws nothing that is marked. -/
theorem blind_createRecordRequestRecord {c : AccessCall} (unmarked : Unmarked rt M c) :
    Blind me M own (createRecordRequestRecord rt c.env c.auth c.body) := by
  have request : c.env.requestUuid ∉ M.uuids := unmarked.uuids _ (by simp [AccessCall.uuids])
  have lead : c.env.leadUuid ∉ M.uuids := unmarked.uuids _ (by simp [AccessCall.uuids])
  have drawnCode : ∀ s, (firstFree (recordRequestCodes c.env)).Ensures s fun r _ =>
      ∀ code, r = .ok code → code ∉ M.codes := by
    intro s
    refine (firstFree_ensures _ s).mono fun r t after code is => ?_
    obtain ⟨n, free⟩ := after.2 code is
    exact unmarked.codes code (mem_of_freeCode free)
  unfold createRecordRequestRecord
  cases accepted : acceptBody rt c.auth c.body with
  | error e => exact Async.respects_throw e
  | ok both =>
    obtain ⟨learnerId, input⟩ := both
    show Blind me M own (createAccepted rt c.env c.auth learnerId input)
    unfold createAccepted
    refine Async.lockstep_bind (P := fun code => code ∉ M.codes) (blind_firstFree unmarked.codes)
      drawnCode fun code free => ?_
    have inserted : Blind me M own (Db.transaction
        (insertRequest (newRequest rt c.env c.auth learnerId input code))) :=
      @blind_insertRequest me M own (newRequest rt c.env c.auth learnerId input code) free request
    refine Async.respects_bind inserted fun institution => ?_
    have logged : Blind me M own (Db.audit (requestAudit c.auth
        (newRequest rt c.env c.auth learnerId input code))) := blind_audit _
    refine Async.respects_bind logged fun _ => ?_
    refine Async.respects_bind ?_ fun _ => Async.respects_pure _
    unfold createInvitationLeadForUnregisteredInstitution
    by_cases registered : input.institutionId.isSome || (newRequest rt c.env c.auth learnerId input
        code).institutionId.isSome
    · rw [if_pos registered]
      exact Async.respects_pure _
    · rw [if_neg registered]
      refine Async.respects_bind (blind_createInvitationLead c.auth ?_ lead) fun _ =>
        Async.respects_pure _
      have unregistered : input.institutionId.isSome = false := by
        cases named : input.institutionId.isSome with
        | false => rfl
        | true => exact absurd (by rw [named]; rfl) registered
      have key := unmarked.lead _ (leadKey_eq accepted unregistered)
      unfold leadInput
      dsimp only
      exact key

/-- A step on the records that goes alike. -/
theorem blind_onRecords {step : Records → Except ServiceError Records}
    (alike : ∀ a b, RecordsAlike me M own a b →
      (∃ a' b', step a = .ok a' ∧ step b = .ok b' ∧ RecordsAlike me M own a' b') ∨
        ∃ e, step a = .error e ∧ step b = .error e) :
    Blind me M own (onRecords step) := by
  refine Async.lockstep_transaction (fun _ _ related => related) fun s t related => ?_
  rcases alike _ _ related.records with ⟨a, b, left, right, after⟩ | ⟨e, left, right⟩
  · rw [left, right]
    exact ⟨rfl, related.institutions, related.learners, after, related.requests, related.leads⟩
  · rw [left, right]
    rfl

/-- A record under an unmarked id is updated alike. -/
theorem updateRow_alike {a b : Records} (alike : RecordsAlike me M own a b) {uuid : Uuid}
    (unmarked : uuid ∉ M.uuids) {f : IdempotencyRecord → IdempotencyRecord}
    {keeps : ∀ r, (f r).uuid = r.uuid}
    (scopes : ∀ r, (f r).scope = r.scope) (hashes : ∀ r, (f r).keyHash = r.keyHash)
    (makers : ∀ r, maker (f r) = maker r) :
    (∃ r a' b', updateRow a uuid f keeps = .ok (r, a') ∧ updateRow b uuid f keeps = .ok (r, b') ∧
        RecordsAlike me M own a' b') ∨
      ∃ e, updateRow a uuid f keeps = .error e ∧ updateRow b uuid f keeps = .error e := by
  have same := alike.rows uuid unmarked
  unfold updateRow
  cases there : b.find? uuid with
  | none =>
    rw [same, there]
    exact .inr ⟨.recordNotFound, rfl, rfl⟩
  | some record =>
    rw [same, there]
    exact .inl ⟨f record, _, _, rfl, rfl, recordsAlike_update alike uuid scopes hashes makers⟩

theorem blind_saveSucceeded {uuid : Uuid} (unmarked : uuid ∉ M.uuids) (response : Json)
    (jobId : Option Uuid) : Blind me M own (onRecords (saveSucceeded uuid response jobId)) := by
  refine blind_onRecords fun a b alike => ?_
  unfold saveSucceeded
  rcases @updateRow_alike me M own a b alike uuid unmarked (succeeded response jobId)
    (fun _ => rfl) (fun _ => rfl) (fun _ => rfl) (fun _ => rfl) with
    ⟨r, a', b', left, right, after⟩ | ⟨e, left, right⟩
  · exact .inl ⟨a', b', by rw [left]; rfl, by rw [right]; rfl, after⟩
  · exact .inr ⟨e, by rw [left]; rfl, by rw [right]; rfl⟩

theorem blind_saveFailed {uuid : Uuid} (unmarked : uuid ∉ M.uuids) (message : String) :
    Blind me M own (onRecords (saveFailed uuid message)) := by
  refine blind_onRecords fun a b alike => ?_
  unfold saveFailed
  rcases @updateRow_alike me M own a b alike uuid unmarked (failed message) (fun _ => rfl)
    (fun _ => rfl) (fun _ => rfl) (fun _ => rfl) with
    ⟨r, a', b', left, right, after⟩ | ⟨e, left, right⟩
  · exact .inl ⟨a', b', by rw [left]; rfl, by rw [right]; rfl, after⟩
  · exact .inr ⟨e, by rw [left]; rfl, by rw [right]; rfl⟩

/-- **A run of `execute` under the own key**, with a handler that cannot tell the stores apart. -/
theorem blind_execute {ρ : Type} {stored : Stored ρ} {env : IdempotencyEnv}
    {input : IdempotencyInput} {handler : Db ρ} (scope : input.scope = accessScope)
    (named : ∀ key, normaliseKey input.key = .ok key → own = some (rt.sha256 key))
    (unmarked : env.recordUuid ∉ M.uuids) (handled : Blind me M own handler) :
    Blind me M own (execute rt stored env input handler) := by
  unfold execute
  rcases valid : normaliseKey input.key with e | key
  · exact Async.respects_throw e
  have named := named key valid
  show Blind me M own (Db.read (fun s => .ok (findKey input.scope (rt.sha256 key)
    s.idempotencyRecords)) >>= answerOrRun stored
      (newRecord env input (rt.sha256 key) (requestHash rt input.request)) handler)
  refine Async.respects_bind (Async.respects_query fun s t alike => ?_) fun existing => ?_
  · rw [scope, alike.records.own _ named]
  cases existing with
  | some existing => exact Async.respects_ofExcept _
  | none =>
    refine Async.respects_bind (Async.respects_tryCatch (blind_onRecords fun a b alike => ?_)
      fun e => Async.respects_throw _) fun _ => ?_
    · exact @recordsAlike_insert me M own a b (newRecord env input (rt.sha256 key)
        (requestHash rt input.request)) alike scope named unmarked
    · refine Async.respects_tryCatch (Async.respects_bind handled fun response => ?_) fun e => ?_
      · exact Async.respects_bind (blind_saveSucceeded unmarked _ _) fun _ => Async.respects_pure _
      · exact Async.respects_bind (blind_saveFailed unmarked _) fun _ => Async.respects_throw e

theorem keyHash_eq {c : AccessCall} {key name : String} (given : c.key.filter (· ≠ "") = some key)
    (valid : normaliseKey key = .ok name) : c.keyHash rt = some (rt.sha256 name) := by
  unfold AccessCall.keyHash
  rw [given, Option.bind_eq_bind, Option.bind_some, valid]
  rfl

/-- **A call of the actor** cannot tell the stores apart. -/
theorem blind_createRecordRequest {c : AccessCall} (unmarked : Unmarked rt M c) :
    Blind me M (c.keyHash rt) (createRecordRequest rt c.env c.auth c.body c.key) := by
  have handled : Blind me M (c.keyHash rt) (createRecordRequestRecord rt c.env c.auth c.body) :=
    blind_createRecordRequestRecord unmarked
  have record : c.env.recordUuid ∉ M.uuids := unmarked.uuids _ (by simp [AccessCall.uuids])
  rcases createRecordRequest_cases rt c.env c.auth c.body c.key with same | ⟨key, given, same⟩
  · rw [same]
    exact handled
  · rw [same]
    have scope : (accessInput c.auth c.body key).scope = accessScope := rfl
    have named : ∀ name, normaliseKey (accessInput c.auth c.body key).key = .ok name →
        c.keyHash rt = some (rt.sha256 name) := fun name valid => keyHash_eq given valid
    exact blind_execute scope named record handled

end Own

/-! ### A call of another actor -/

section Others

variable {rt : Runtime} {me : Actor} {M : Marks}

/-- What a handler leaves: rows of requests and leads, under marked ids only. -/
structure Handled (M : Marks) (s t : Store) : Prop where
  institutions : t.institutions = s.institutions
  learners : t.learners = s.learners
  records : t.idempotencyRecords = s.idempotencyRecords
  requests : ∀ u, u ∉ M.uuids →
    (t.recordRequests.find? u).isSome = (s.recordRequests.find? u).isSome
  leads : ∀ u, u ∉ M.uuids →
    (t.invitationLeads.find? u).isSome = (s.invitationLeads.find? u).isSome

theorem handled_refl (s : Store) : Handled M s s :=
  ⟨rfl, rfl, rfl, fun _ _ => rfl, fun _ _ => rfl⟩

theorem handled_audit {s t : Store} (event : AuditEvent) (left : Handled M s t) :
    Handled M s (t.audit event) :=
  ⟨left.institutions, left.learners, left.records, left.requests, left.leads⟩

theorem handled_saveLead {input : LeadInput} {existing : Option InvitationLead} {s t u : Store}
    {lead : InvitationLead} (left : Handled M s t) (drawn : input.leadUuid ∈ M.uuids)
    (saved : saveLead input existing t = .ok (lead, u)) : Handled M s u := by
  unfold saveLead at saved
  split at saved
  · rename_i existing
    obtain ⟨⟨row, leads⟩, updated, same⟩ := bind_eq_ok.mp saved
    obtain ⟨-, rfl⟩ := Prod.mk.inj (pure_eq_ok.mp same)
    obtain ⟨r, -, -, rfl⟩ := updateRow_eq_ok.mp updated
    refine ⟨left.institutions, left.learners, left.records, left.requests, fun v outside => ?_⟩
    exact (Table.find?_update_isSome _ _ (demanded input existing) (fun _ => rfl) v).trans
      (left.leads v outside)
  · obtain ⟨_, -, rest⟩ := bind_eq_ok.mp saved
    obtain ⟨leads, grown, same⟩ := bind_eq_ok.mp rest
    obtain ⟨-, rfl⟩ := Prod.mk.inj (pure_eq_ok.mp same)
    refine ⟨left.institutions, left.learners, left.records, left.requests, fun v outside => ?_⟩
    rw [← left.leads v outside, Table.find?_insert_isSome (orThrow_eq_ok.mp grown)]
    have other : ¬ (newLead input).uuid = v := fun is => outside (is ▸ drawn)
    rw [decide_eq_false other, Bool.false_or]

theorem createInvitationLead_handled (auth : AuthTokenPayload) {input : LeadInput} {s t : Store}
    (left : Handled M s t) (drawn : input.leadUuid ∈ M.uuids) :
    (createInvitationLead auth input).Ensures t fun _ u => Handled M s u := by
  unfold createInvitationLead
  refine Async.ensures_bind (Async.ensures_query left ?_)
  refine Async.ensures_bind (Async.ensures_transaction left (fun e _ => left) ?_)
  intro lead u saved
  have after := handled_saveLead left drawn saved
  exact Async.ensures_bind (Db.ensures_audit after (Async.ensures_pure (handled_audit _ after)))

/-- **The handler** writes under the ids that its call draws. -/
theorem createRecordRequestRecord_handled {c : AccessCall}
    (drawn : ∀ u ∈ c.uuids, u ∈ M.uuids) (s : Store) :
    (createRecordRequestRecord rt c.env c.auth c.body).Ensures s fun _ t => Handled M s t := by
  have request : c.env.requestUuid ∈ M.uuids := drawn _ (by simp [AccessCall.uuids])
  have lead : c.env.leadUuid ∈ M.uuids := drawn _ (by simp [AccessCall.uuids])
  have here : Handled M s s := handled_refl s
  unfold createRecordRequestRecord
  cases acceptBody rt c.auth c.body with
  | error e => exact Async.ensures_bind (Async.ensures_throw here)
  | ok both =>
    obtain ⟨learnerId, input⟩ := both
    refine Async.ensures_bind (Async.ensures_pure ?_)
    refine Async.ensures_bind ((firstFree_ensures _ _).mono fun r t after => ?_)
    obtain ⟨rfl, -⟩ := after
    cases r with
    | error e => exact here
    | ok code =>
      refine Async.ensures_bind (Async.ensures_transaction here (fun e _ => here) ?_)
      intro institution u inserted
      obtain ⟨-, -, -, -, requests, grown, rfl⟩ := insertRequest_eq_ok.mp inserted
      have added : Handled M t { t with recordRequests := requests } := by
        refine ⟨rfl, rfl, rfl, fun v outside => ?_, fun _ _ => rfl⟩
        have other : ¬ (newRequest rt c.env c.auth learnerId input code).uuid = v :=
          fun is => outside (is ▸ request)
        rw [Table.find?_insert_isSome grown, decide_eq_false other, Bool.false_or]
      refine Async.ensures_bind (Db.ensures_audit added ?_)
      have logged := handled_audit (requestAudit c.auth
        (newRequest rt c.env c.auth learnerId input code)) added
      refine Async.ensures_bind ?_
      unfold createInvitationLeadForUnregisteredInstitution
      by_cases registered : input.institutionId.isSome || (newRequest rt c.env c.auth learnerId
          input code).institutionId.isSome
      · rw [if_pos registered]
        exact Async.ensures_pure (Async.ensures_pure logged)
      · rw [if_neg registered]
        refine Async.ensures_bind ((createInvitationLead_handled c.auth logged lead).mono
          fun r w after => ?_)
        cases r with
        | error e => exact after
        | ok _ => exact Async.ensures_pure (Async.ensures_pure after)

/-- What a call of another actor leaves: its own record, and rows under marked ids. -/
structure LeftBy (me : Actor) (M : Marks) (s t : Store) : Prop where
  institutions : t.institutions = s.institutions
  learners : t.learners = s.learners
  records : RecordsAlike me M none t.idempotencyRecords s.idempotencyRecords
  requests : ∀ u, u ∉ M.uuids →
    (t.recordRequests.find? u).isSome = (s.recordRequests.find? u).isSome
  leads : ∀ u, u ∉ M.uuids →
    (t.invitationLeads.find? u).isSome = (s.invitationLeads.find? u).isSome

theorem leftBy_of_handled {s t : Store} (left : Handled M s t) : LeftBy me M s t := by
  refine ⟨left.institutions, left.learners, ?_, left.requests, left.leads⟩
  rw [left.records]
  exact (alike_refl me M none s).records

/-- The row under the id of a record is another actor's. -/
def ForeignRow (me : Actor) (uuid : Uuid) (s : Store) : Prop :=
  ∃ r, s.idempotencyRecords.find? uuid = some r ∧ maker r ≠ me

/-- A mark on the record keeps it another actor's. -/
theorem leftBy_update {s t : Store} {uuid : Uuid} (left : LeftBy me M s t)
    (foreign : ForeignRow me uuid t) (marked : uuid ∈ M.uuids)
    (f : IdempotencyRecord → IdempotencyRecord) (keeps : ∀ r, (f r).uuid = r.uuid)
    (scopes : ∀ r, (f r).scope = r.scope) (hashes : ∀ r, (f r).keyHash = r.keyHash)
    (makers : ∀ r, maker (f r) = maker r) :
    LeftBy me M s { t with idempotencyRecords := t.idempotencyRecords.update uuid f keeps } ∧
      ForeignRow me uuid
        { t with idempotencyRecords := t.idempotencyRecords.update uuid f keeps } := by
  obtain ⟨r, there, other⟩ := foreign
  refine ⟨⟨left.institutions, left.learners, ?_, left.requests, left.leads⟩, f r, ?_, ?_⟩
  · exact recordsAlike_updated left.records there other marked keeps scopes hashes makers
  · show (t.idempotencyRecords.update uuid f keeps).find? uuid = some (f r)
    rw [Table.find?_update, if_pos rfl, there]
    rfl
  · rw [makers]
    exact other

/-- **A call of another actor** leaves its own record, and rows under the ids that it draws. -/
theorem createRecordRequest_left {c : AccessCall} (other : actor c.auth ≠ me)
    (drawn : ∀ u ∈ c.uuids, u ∈ M.uuids) (s : Store) :
    (createRecordRequest rt c.env c.auth c.body c.key).Ensures s fun _ t => LeftBy me M s t := by
  have record : c.env.recordUuid ∈ M.uuids := drawn _ (by simp [AccessCall.uuids])
  rcases createRecordRequest_cases rt c.env c.auth c.body c.key with same | ⟨key, given, same⟩
  · rw [same]
    exact (createRecordRequestRecord_handled drawn s).mono fun _ t left => leftBy_of_handled left
  · rw [same]
    refine execute_ensures_of (Q := fun t => LeftBy me M s t ∧ ForeignRow me c.env.recordUuid t)
      (leftBy_of_handled (handled_refl s)) (fun name records inserted => ?_)
      (fun t response jobId left => ?_) (fun t message left => ?_) fun t left => left.1
    · have foreign : maker (newRecord ⟨c.env.now, c.env.recordUuid⟩ (accessInput c.auth c.body key)
          (rt.sha256 name) (requestHash rt (accessInput c.auth c.body key).request)) ≠ me := other
      refine (createRecordRequestRecord_handled drawn _).mono fun _ t left => ⟨?_, ?_⟩
      · refine ⟨left.institutions, left.learners, ?_, left.requests, left.leads⟩
        rw [left.records]
        exact recordsAlike_foreign inserted foreign record
      · refine ⟨_, ?_, foreign⟩
        rw [left.records]
        exact find?_insertRecord inserted
    · exact leftBy_update left.1 left.2 record (succeeded response jobId) (fun _ => rfl)
        (fun _ => rfl) (fun _ => rfl) fun _ => rfl
    · exact leftBy_update left.1 left.2 record (failed message) (fun _ => rfl) (fun _ => rfl)
        (fun _ => rfl) fun _ => rfl

/-- **The stores before and after a call of another actor** are alike but for what it leaves. -/
theorem alike_afterCall {c : AccessCall} (other : actor c.auth ≠ me) (s : Store) :
    Alike me (leaves rt s c) none (afterCall rt s c) s := by
  have left : LeftBy me (leaves rt s c) s (afterCall rt s c) :=
    createRecordRequest_left other (fun u inside => inside) s c.script
  refine ⟨left.institutions, left.learners, left.records, ⟨fun code outside => ?_, left.requests⟩,
    ⟨fun k outside => ?_, left.leads⟩⟩
  · exact not_not.mp outside
  · exact not_not.mp outside

end Others

/-! ### Runs -/

section Runs

variable {rt : Runtime} {me : Actor}

/-- A key that is the actor's own finds the same in both stores. -/
theorem alike_own {M : Marks} {s t : Store} {c : AccessCall} (alike : Alike me M none s t)
    (mine : actor c.auth = me) (own : OwnKey rt s c) : Alike me M (c.keyHash rt) s t := by
  refine ⟨alike.institutions, alike.learners, ⟨alike.records.keys, fun h is => ?_,
    alike.records.rows⟩, alike.requests, alike.leads⟩
  rcases alike.records.keys h with same | ⟨r, found, foreign⟩
  · exact same
  · exact absurd ((own h is r found).trans mine) foreign

theorem alike_forget {M : Marks} {own : Option String} {s t : Store} (alike : Alike me M own s t) :
    Alike me M none s t :=
  ⟨alike.institutions, alike.learners,
    ⟨alike.records.keys, fun _ is => absurd is (by simp), alike.records.rows⟩, alike.requests,
    alike.leads⟩

/-- **A run and the actor's calls alone** answer the actor the same. -/
theorem responsesTo_alone {M : Marks} {s t : Store} {calls : List AccessCall}
    (alike : Alike me M none s t) (apart : ApartFrom rt me M s calls) :
    responsesTo rt me s calls =
      responsesTo rt me t (calls.filter fun c => actor c.auth = me) := by
  induction calls generalizing M s t with
  | nil => rfl
  | cons c calls ih =>
    unfold ApartFrom at apart
    by_cases mine : actor c.auth = me
    · rw [if_pos mine] at apart
      obtain ⟨own, unmarked, apart⟩ := apart
      obtain ⟨results, -, stores⟩ :=
        blind_createRecordRequest unmarked c.script s t (alike_own alike mine own)
      have same : (respond rt s c).result = (respond rt t c).result := results
      have after : Alike me M none (afterCall rt s c) (afterCall rt t c) := alike_forget stores
      rw [List.filter_cons_of_pos (by simpa using mine)]
      unfold responsesTo
      rw [if_pos mine, if_pos mine, same, ih after apart]
    · rw [if_neg mine] at apart
      rw [List.filter_cons_of_neg (by simpa using mine)]
      rw [responsesTo, if_neg mine]
      exact ih (alike_trans (alike_afterCall mine s) alike) apart

end Runs

/-! ### Calls that go through -/

/-- What the first request for an institution that is not registered is answered. -/
def firstAnswer (rt : Runtime) (env : AccessEnv) (auth : AuthTokenPayload) (learnerId : Uuid)
    (input : CreateRecordRequestInput) : Json :=
  let request := newRequest rt env auth learnerId input (recordRequestCode env 0)
  responseJson request none (some (newLead (leadInput rt env auth input request)))

/-- **The first request for an institution** that is not registered. -/
theorem createRecordRequestRecord_first {rt : Runtime} {env : AccessEnv} {auth : AuthTokenPayload}
    {body : Json} {learnerId : Uuid} {input : CreateRecordRequestInput} {s : Store}
    (accepted : acceptBody rt auth body = .ok (learnerId, input))
    (unregistered : input.institutionId = none) (requests : s.recordRequests.rows = [])
    (leads : s.invitationLeads.rows = []) (known : (s.learners.find? learnerId).isSome) :
    ∃ t : Store, ∀ records : Records,
      createRecordRequestRecord rt env auth body [] { s with idempotencyRecords := records } =
        ⟨.ok (firstAnswer rt env auth learnerId input), [],
          { t with idempotencyRecords := records }⟩ := by
  let request := newRequest rt env auth learnerId input (recordRequestCode env 0)
  let lead := leadInput rt env auth input request
  have free : hasCode (recordRequestCode env 0) s = false := by
    unfold hasCode
    rw [requests]
    rfl
  obtain ⟨grown, inserted⟩ := @Table.insert_of_fresh _ _ _ _ s.recordRequests request
    (by rw [requests]; simp)
  obtain ⟨leads', saved⟩ := @Table.insert_of_fresh _ _ _ _ s.invitationLeads (newLead lead)
    (by rw [leads]; simp)
  let left : Store := { s with recordRequests := grown, invitationLeads := leads' }
  refine ⟨(left.audit (requestAudit auth request)).audit (leadAudit auth lead none (newLead lead)),
    fun records => ?_⟩
  have drawn : firstFree (recordRequestCodes env) [] { s with idempotencyRecords := records } =
      ⟨.ok (recordRequestCode env 0), [], { s with idempotencyRecords := records }⟩ := by
    show (Db.read _ >>= _) [] _ = _
    have untaken : hasCode (recordRequestCode env 0) { s with idempotencyRecords := records } =
      false := free
    rw [Async.bind_of_ok (Db.read_done rfl _ _), untaken]
    rfl
  have created : Db.transaction (insertRequest request) []
      { s with idempotencyRecords := records } =
        ⟨.ok none, [], { s with idempotencyRecords := records, recordRequests := grown }⟩ := by
    refine Async.transaction_ok rfl (insertRequest_eq_ok.mpr ?_)
    refine ⟨free, ?_, ?_, ?_, grown, inserted, rfl⟩
    · exact known
    · show (input.institutionId.all _) = true
      rw [unregistered]
      rfl
    · show none = input.institutionId.bind _
      rw [unregistered]
      rfl
  have findsNone : findLead lead.institutionNameKey
      (({ s with idempotencyRecords := records, recordRequests := grown } : Store).audit
        (requestAudit auth request)) = none := by
    show s.invitationLeads.rows.find? _ = none
    rw [leads]
    rfl
  have led : createInvitationLead auth lead [] (({ s with
        idempotencyRecords := records, recordRequests := grown } : Store).audit
          (requestAudit auth request)) =
      ⟨.ok (newLead lead), [], (({ left with idempotencyRecords := records } : Store).audit
        (requestAudit auth request)).audit (leadAudit auth lead none (newLead lead))⟩ := by
    unfold createInvitationLead
    rw [Async.bind_of_ok (Db.read_done rfl _ _), findsNone]
    have wrote : Db.transaction (saveLead lead none) [] (({ s with
        idempotencyRecords := records, recordRequests := grown } : Store).audit
          (requestAudit auth request)) = ⟨.ok (newLead lead), [], ({ left with
            idempotencyRecords := records } : Store).audit (requestAudit auth request)⟩ := by
      refine Async.transaction_ok rfl ?_
      rw [saveLead_absent findsNone]
      show (insertUnique s.invitationLeads (newLead lead)).map _ = _
      unfold insertUnique
      rw [saved]
      rfl
    exact Async.bind_of_ok wrote _
  have both : createInvitationLeadForUnregisteredInstitution rt env auth input request [] (({ s with
        idempotencyRecords := records, recordRequests := grown } : Store).audit
          (requestAudit auth request)) = ⟨.ok (some (newLead lead)), [],
            (({ left with idempotencyRecords := records } : Store).audit
              (requestAudit auth request)).audit (leadAudit auth lead none (newLead lead))⟩ := by
    unfold createInvitationLeadForUnregisteredInstitution
    have unnamed : ¬ (input.institutionId.isSome || request.institutionId.isSome) = true := by
      show ¬ (input.institutionId.isSome || input.institutionId.isSome) = true
      rw [unregistered]
      simp
    rw [if_neg unnamed]
    exact Async.bind_of_ok led _
  unfold createRecordRequestRecord
  rw [accepted, Async.ofExcept_ok, Async.bind_of_ok (Async.pure_apply _ _ _)]
  show createAccepted rt env auth learnerId input [] _ = _
  unfold createAccepted
  rw [Async.bind_of_ok drawn]
  refine (Async.bind_of_ok created _).trans ?_
  exact Async.bind_of_ok both _

/-- **A call under a key without a record**, the first for its institution. -/
theorem respond_first {rt : Runtime} {c : AccessCall} {key name : String} {learnerId : Uuid}
    {input : CreateRecordRequestInput} {s : Store} (given : c.key = some key) (nonempty : key ≠ "")
    (valid : normaliseKey key = .ok name) (script : c.script = [])
    (absent : findKey accessScope (rt.sha256 name) s.idempotencyRecords = none)
    (fresh : ∀ r ∈ s.idempotencyRecords.rows, r.uuid ≠ c.env.recordUuid)
    (accepted : acceptBody rt c.auth c.body = .ok (learnerId, input))
    (unregistered : input.institutionId = none) (requests : s.recordRequests.rows = [])
    (leads : s.invitationLeads.rows = []) (known : (s.learners.find? learnerId).isSome) :
    (respond rt s c).result = .ok (firstAnswer rt c.env c.auth learnerId input) ∧
      ∃ record, findKey accessScope (rt.sha256 name) (afterCall rt s c).idempotencyRecords =
          some record ∧ record.requestHash = requestHash rt c.body ∧
        record.response = some (firstAnswer rt c.env c.auth learnerId input) := by
  obtain ⟨t, handled⟩ := createRecordRequestRecord_first accepted unregistered requests leads known
  obtain ⟨records, executed, found⟩ := @execute_first _ rt (Stored.json fun _ => none)
    ⟨c.env.now, c.env.recordUuid⟩ (accessInput c.auth c.body key) _ name valid s t _ absent fresh
      handled
  have same : respond rt s c =
      ⟨.ok (firstAnswer rt c.env c.auth learnerId input), [],
        { t with idempotencyRecords := records }⟩ := by
    unfold respond
    rw [given, createRecordRequest_keyed nonempty, script]
    exact executed
  unfold afterCall
  rw [same]
  exact ⟨rfl, _, found, rfl, rfl⟩

/-- **A call under a key whose record holds an answer** to the same body is given it. -/
theorem respond_replayed {rt : Runtime} {c : AccessCall} {key name : String} {s : Store}
    (given : c.key = some key) (nonempty : key ≠ "") (valid : normaliseKey key = .ok name)
    (script : c.script = []) {record : IdempotencyRecord} {answer : Json}
    (found : findKey accessScope (rt.sha256 name) s.idempotencyRecords = some record)
    (same : record.requestHash = requestHash rt c.body) (stored : record.response = some answer)
    (holds : answer.truthy = true) : (respond rt s c).result = .ok answer := by
  unfold respond
  rw [given, createRecordRequest_keyed nonempty, script]
  have executed := @execute_found _ rt (Stored.json fun _ => none) ⟨c.env.now, c.env.recordUuid⟩
    (accessInput c.auth c.body key) (createRecordRequestRecord rt c.env c.auth c.body) name valid s
      record found
  have replayed : replay (requestHash rt (accessInput c.auth c.body key).request) record =
      .ok answer := replay_eq_ok.mpr ⟨same, stored, holds⟩
  rw [replayed] at executed
  rw [executed]
  rfl

/-- A call under a key that is not accepted changes nothing. -/
theorem afterCall_invalid {rt : Runtime} {c : AccessCall} {key : String} {e : ServiceError}
    (given : c.key = some key) (nonempty : key ≠ "") (invalid : normaliseKey key = .error e)
    (s : Store) : afterCall rt s c = s := by
  unfold afterCall respond
  rw [given, createRecordRequest_keyed nonempty]
  have refused := @execute_invalid _ rt (Stored.json fun _ => none) ⟨c.env.now, c.env.recordUuid⟩
    (accessInput c.auth c.body key) (createRecordRequestRecord rt c.env c.auth c.body) e invalid
      c.script s
  rw [refused]

theorem responsesTo_singleton {rt : Runtime} {me : Actor} {c : AccessCall}
    (mine : actor c.auth = me) (s : Store) : responsesTo rt me s [c] = [(respond rt s c).result] := by
  unfold responsesTo
  rw [if_pos mine]
  rfl

/-! ### Two learners and one key -/

def learner (name : String) : AuthTokenPayload where
  sub := "user-" ++ name
  email := name ++ "@example.com"
  fullName := name
  role := .student
  kind := none
  learnerId := some ("learner-" ++ name)
  institutionId := none
  institutionUuid := none
  institutionUserId := none
  assignedScopes := none
  apiKeyId := none
  clientId := none
  productCode := none

def requestBody : Json :=
  .obj
    [("institutionNameSubmitted", .str "Old School"), ("educationLevel", .str "Secondary"),
      ("recordTypesRequested", .arr [.str "Transcript"])]

def requestInput : CreateRecordRequestInput where
  learnerId := none
  institutionId := none
  institutionNameSubmitted := "Old School"
  educationLevel := "Secondary"
  yearsAttendedFrom := none
  yearsAttendedTo := none
  studentNumber := none
  departmentOrClass := none
  recordTypesRequested := ["Transcript"]
  proofDocumentUrls := []
  requesterName := none
  requesterEmail := none

theorem acceptBody_requestBody (name : String) :
    acceptBody .plain (learner name) requestBody = .ok ("learner-" ++ name, requestInput) := by
  rfl

def learnerRow (name : String) : Learner where
  uuid := "learner-" ++ name
  ain := "AIN-" ++ name
  fullName := name
  dateOfBirth := 0
  phone := none
  identityStatus := .verified

def bothLearners : Store :=
  { Store.empty with learners := ⟨[learnerRow "ada", learnerRow "ben"], by decide⟩ }

def callOf (name key : String) : AccessCall where
  env :=
    { now := 0, codedAt := 0, createdAt := 0, requestedAt := 0, suffix := fun _ => name,
      requestUuid := "request-" ++ name, leadUuid := "lead-" ++ name,
      recordUuid := "record-" ++ name }
  auth := learner name
  body := requestBody
  key := some key
  script := []

theorem normaliseKey_request : normaliseKey "request-1" = .ok "request-1" := by rfl

theorem actors_differ (key : String) :
    ¬ actor (callOf "ada" key).auth = actor (learner "ben") := by
  show ¬ actor (learner "ada") = actor (learner "ben")
  decide

theorem own_actor (key : String) : actor (callOf "ben" key).auth = actor (learner "ben") := rfl

/-- The first call of a learner. -/
theorem respond_callOf {name : String}
    (known : (bothLearners.learners.find? ("learner-" ++ name)).isSome) :
    (respond .plain bothLearners (callOf name "request-1")).result =
        .ok (firstAnswer .plain (callOf name "request-1").env (learner name) ("learner-" ++ name)
          requestInput) ∧
      ∃ record, findKey accessScope (Runtime.plain.sha256 "request-1")
          (afterCall .plain bothLearners (callOf name "request-1")).idempotencyRecords =
          some record ∧ record.requestHash = requestHash .plain requestBody ∧
        record.response = some (firstAnswer .plain (callOf name "request-1").env (learner name)
          ("learner-" ++ name) requestInput) :=
  respond_first (c := callOf name "request-1") rfl (by decide) normaliseKey_request rfl rfl
    (fun _ inside => absurd inside (by simp [bothLearners, Store.empty, Table.empty]))
    (acceptBody_requestBody name) rfl rfl rfl known

theorem answers_differ {env env' : AccessEnv} {auth auth' : AuthTokenPayload} {a b : Uuid}
    {input : CreateRecordRequestInput} (other : env.requestUuid ≠ env'.requestUuid) :
    firstAnswer .plain env auth a input ≠ firstAnswer .plain env' auth' b input := by
  intro same
  have fields := Json.obj.inj same
  have request := (Prod.mk.inj (List.cons.inj (List.cons.inj fields).2).1).2
  have uuid := (Prod.mk.inj (List.cons.inj (Json.obj.inj request)).1).2
  exact other (Json.str.inj uuid)

/-- Nothing marked but the ids that the other learner draws. -/
theorem apartFrom_ben {M : Marks} (leads : ∀ k, k ∉ M.leadKeys) (codes : ∀ code, code ∉ M.codes)
    (uuids : ∀ u ∈ (callOf "ben" "request-1").uuids, u ∉ M.uuids) :
    ApartFrom .plain (actor (learner "ben")) M bothLearners [callOf "ben" "request-1"] := by
  unfold ApartFrom
  rw [if_pos (own_actor "request-1")]
  refine ⟨fun h _ record found => ?_, ⟨fun k _ => leads k, fun code _ => codes code, uuids⟩, ?_⟩
  · exact absurd (findKey_mem found).1 (by simp [bothLearners, Store.empty, Table.empty])
  · trivial

end AcadID.Separation
