/-
**Invitation leads, with any number of requests for records at once.**

* `Tallied` — a call that has stored its request does not fail, and a lead counts the requests that
  are stored under its key, and lists them.
* `goesThrough` — the calls to the database after a request is stored do not fail, and no other
  call has written the lead between the lookup of a call and its write.
* `tallied_iff` — **the leads are tallied at the end of a run exactly when** every step goes through
  so.
* `tallied_fails` — two requests that look up the same new lead: the second of them is stored, and
  its call fails.
-/

import AcadID.Gateway.RequestRuns
import AcadID.Gateway.Separation
import AcadID.Lib.Run

namespace AcadID.RequestRuns

open Lib Access

/-! ### Requests and their leads -/

/-- The key of the lead that a request is filed under, if it names no registered institution. -/
def leadKeyOf (rt : Runtime) (request : RecordRequest) : Option String :=
  if request.institutionId.isSome then none
  else some (invitationLeadKey rt (Text.trim request.institutionNameSubmitted))

/-- Whether a request has the id and is filed under the key. -/
def names (rt : Runtime) (key : String) (id : Uuid) (request : Option RecordRequest) : Bool :=
  request.any fun request => request.uuid == id && leadKeyOf rt request == some key

/-- Whether the request is stored, and filed under the key. -/
def filed (rt : Runtime) (key : String) (id : Uuid) (s : Store) : Bool :=
  names rt key id (s.recordRequests.find? id)

/-- The ids on the lead of a key. -/
def leadIds (key : String) (s : Store) : List Uuid :=
  ((findLead key s).map (·.recordRequestIds)).getD []

/-- The request that a handler has stored, and has still to bring to its lead. -/
def Handling.awaiting (rt : Runtime) : Handling → Option RecordRequest
  | .auditing draft requestId _ | .finding draft requestId _ | .saving draft requestId _ _ =>
    some (draft.request rt requestId)
  | _ => none

def Handled.awaiting (rt : Runtime) : Handled → Option RecordRequest
  | .running handling => handling.awaiting rt
  | _ => none

def Progress.awaiting (rt : Runtime) : Progress → Option RecordRequest
  | .handling _ running => running.awaiting rt
  | _ => none

/-- A call that has stored its request and does not succeed. -/
def Progress.loses : Progress → Bool
  | .releasing _ _ (some _) | .failed _ (some _) => true
  | _ => false

/-- Every call that has stored its request succeeds, and every lead counts and lists the requests
that are stored under its key, but those that a call has still to bring to it. -/
structure Tallied (rt : Runtime) (p : Crowd Store Progress) : Prop where
  succeeds : ∀ x ∈ p.programs, x.loses = false
  counted : ∀ lead ∈ p.store.invitationLeads.rows, lead.demandCount = lead.recordRequestIds.length
  listed : ∀ lead ∈ p.store.invitationLeads.rows, ∀ id, id ∈ lead.recordRequestIds ↔
    filed rt lead.institutionNameKey id p.store = true ∧
      ∀ x ∈ p.programs, names rt lead.institutionNameKey id (x.awaiting rt) = false

/-! ### The condition -/

/-- The lead is as it was when it was looked up; if it was not there, its new id is free. -/
def unmoved (input : LeadInput) (existing : Option InvitationLead) (s : Store) : Bool :=
  (findLead input.institutionNameKey s).map (·.recordRequestIds) ==
      existing.map (·.recordRequestIds) &&
    (existing.isSome || (s.invitationLeads.find? input.leadUuid).isNone)

/-- A call to the database after the request is stored goes through, and that of a lead finds the
lead as it was. -/
def goesThrough (rt : Runtime) (outcome : Outcome) (x : Progress) (s : Store) : Bool :=
  match x with
  | .handling _ (.auditing ..) | .handling _ (.finding ..) | .handling _ (.logging ..)
  | .marking .. => outcome == .done
  | .handling _ (.saving draft requestId _ existing) =>
    outcome == .done && unmoved (draft.lead rt requestId) existing s
  | _ => true

def Guarded (rt : Runtime) (p : Crowd Store Progress) : Turn RequestCall → Prop
  | .begin _ => True
  | .advance k outcome =>
    (p.programs[k]?.all fun x => goesThrough rt outcome x p.store) = true

/-! ### What must hold at the start -/

/-- A key has one lead: the schema's unique column. -/
def ByKey (s : Store) : Prop :=
  ∀ lead ∈ s.invitationLeads.rows, findLead lead.institutionNameKey s = some lead

def Counted (s : Store) : Prop :=
  ∀ lead ∈ s.invitationLeads.rows, lead.demandCount = lead.recordRequestIds.length

/-- Every lead is counted, and every request that is filed is on the lead of its key, once. -/
structure Sound (rt : Runtime) (s : Store) : Prop where
  keys : ByKey s
  counted : Counted s
  tally : ∀ key id, (leadIds key s).count id = if filed rt key id s then 1 else 0

/-! ### What holds of each call -/

/-- The record that a call runs under. -/
def Progress.record : Progress → Option Uuid
  | .handling record _ => record
  | .marking uuid _ _ => some uuid
  | _ => none

/-- The lead that a call has looked up, and has still to write. -/
def Progress.read : Progress → Option InvitationLead
  | .handling _ (.saving _ _ _ existing) => existing
  | _ => none

/-- What a handler relies on: its request names no registered institution, and the lead that it has
looked up has not lost an id. -/
def Handling.Sane (rt : Runtime) (s : Store) : Handling → Prop
  | .finding draft _ _ => draft.input.institutionId = none
  | .saving draft requestId _ existing =>
    draft.input.institutionId = none ∧ ∀ e, existing = some e →
      ∃ row, findLead (draft.lead rt requestId).institutionNameKey s = some row ∧
        row.uuid = e.uuid ∧ e.recordRequestIds <+: row.recordRequestIds
  | _ => True

def Handled.Sane (rt : Runtime) (s : Store) : Handled → Prop
  | .running handling => handling.Sane rt s
  | .returned .. => True
  | .threw _ stored => stored = none

/-- A handler that has not begun: it draws its first code, or its body is refused. -/
def Handled.Opening : Handled → Prop
  | .running (.coding ..) => True
  | .threw _ stored => stored = none
  | _ => False

structure Progress.Sane (rt : Runtime) (x : Progress) (s : Store) : Prop where
  keeps : x.loses = false
  recorded : ∀ uuid, x.record = some uuid → (s.idempotencyRecords.find? uuid).isSome = true
  handles : match x with
    | .looking _ handled | .creating _ handled => handled.Opening
    | .handling _ running => running.Sane rt s
    | _ => True

/-! ### What a step does -/

/-- What a step may do to the leads and the records of keys: none is lost, and a lead only gains
ids. -/
structure Grows (s t : Store) : Prop where
  records : ∀ uuid, (s.idempotencyRecords.find? uuid).isSome = true →
    (t.idempotencyRecords.find? uuid).isSome = true
  leads : ∀ key row, findLead key s = some row → ∃ row', findLead key t = some row' ∧
    row'.uuid = row.uuid ∧ row.recordRequestIds <+: row'.recordRequestIds

/-- One request, if any. -/
def once (rt : Runtime) (key : String) (id : Uuid) (request : Option RecordRequest) : ℕ :=
  if names rt key id request then 1 else 0

/-- **A step that loses nothing**: a request that is awaited or new is awaited still or on its
lead. -/
structure Moves (rt : Runtime) (before after : Option RecordRequest) (s t : Store) : Prop where
  grows : Grows s t
  keys : ByKey t
  counted : Counted t
  books : ∃ new saved, (∀ key id, filed rt key id t = (filed rt key id s || names rt key id new)) ∧
    (∀ key id, names rt key id new = true → filed rt key id s = false) ∧
    (∀ key id, (leadIds key t).count id = (leadIds key s).count id + once rt key id saved) ∧
    ∀ key id, once rt key id before + once rt key id new =
      once rt key id after + once rt key id saved

theorem findLead_congr {s t : Store} (leads : t.invitationLeads = s.invitationLeads)
    (key : String) : findLead key t = findLead key s := by
  unfold findLead
  rw [leads]

theorem grows_of_leads {s t : Store} (leads : t.invitationLeads = s.invitationLeads)
    (records : ∀ uuid, (s.idempotencyRecords.find? uuid).isSome = true →
      (t.idempotencyRecords.find? uuid).isSome = true) : Grows s t where
  records := records
  leads key row found := ⟨row, (findLead_congr leads key).trans found, rfl, List.prefix_rfl⟩

/-- A step that neither stores a request nor writes a lead. -/
theorem moves_quiet {rt : Runtime} {before after : Option RecordRequest} {s t : Store}
    (keys : ByKey s) (counted : Counted s)
    (leads : t.invitationLeads = s.invitationLeads) (requests : t.recordRequests = s.recordRequests)
    (records : ∀ uuid, (s.idempotencyRecords.find? uuid).isSome = true →
      (t.idempotencyRecords.find? uuid).isSome = true)
    (same : ∀ key id, names rt key id after = names rt key id before) :
    Moves rt before after s t where
  grows := grows_of_leads leads records
  keys lead inside := by
    rw [findLead_congr leads]
    exact keys lead (leads ▸ inside)
  counted lead inside := counted lead (leads ▸ inside)
  books := by
    refine ⟨none, none, fun key id => ?_, fun key id is => ?_, fun key id => ?_, fun key id => ?_⟩
    · unfold filed
      rw [requests]
      exact (Bool.or_false _).symm
    · exact absurd is (by simp [names])
    · unfold leadIds
      rw [findLead_congr leads]
      simp [once, names]
    · unfold once
      rw [same]

/-- **A request that is stored.** -/
theorem moves_storing {rt : Runtime} {request : RecordRequest} {s t : Store}
    {institution : Option Institution} (keys : ByKey s) (counted : Counted s)
    (inserted : insertRequest request s = .ok (institution, t)) :
    Moves rt none (some request) s t := by
  obtain ⟨-, -, -, -, requests, grown, rfl⟩ := insertRequest_eq_ok.mp inserted
  have absent : s.recordRequests.find? request.uuid = none :=
    Table.find?_eq_none.mpr (Table.insert_eq_some.mp grown).1
  refine ⟨grows_of_leads rfl fun _ there => there, keys, counted, some request, none,
    fun key id => ?_, fun key id is => ?_, fun key id => rfl, fun key id => ?_⟩
  · unfold filed
    dsimp only
    rw [Table.find?_insert grown]
    by_cases same : request.uuid = id
    · rw [if_pos same, ← same, absent]
      rfl
    · rw [if_neg same]
      simp [names, same]
  · have same : request.uuid = id := by
      simp only [names, Option.any_some, Bool.and_eq_true, beq_iff_eq] at is
      exact is.1
    unfold filed
    rw [← same, absent]
    rfl
  · exact Nat.add_comm _ _

/-! ### The write of a lead -/

theorem eraseDups_of_nodup {ids : List Uuid} (nodup : ids.Nodup) : ids.eraseDups = ids := by
  induction ids with
  | nil => rfl
  | cons id ids ih =>
    obtain ⟨fresh, nodup⟩ := List.nodup_cons.mp nodup
    have others : ids.filter (fun other => !other == id) = ids :=
      List.filter_eq_self.mpr fun other inside => by
        simpa using fun same : other = id => fresh (same ▸ inside)
    rw [List.eraseDups_cons, others, ih nodup]

theorem length_eraseDups_le (ids : List Uuid) : ids.eraseDups.length ≤ ids.length := by
  match ids with
  | [] => exact le_refl _
  | id :: ids =>
    rw [List.eraseDups_cons, List.length_cons, List.length_cons]
    have fewer := List.length_filter_le (fun other => !other == id) ids
    have shorter := length_eraseDups_le (ids.filter fun other => !other == id)
    omega
termination_by ids.length
decreasing_by
  exact Nat.lt_succ_of_le (List.length_filter_le _ _)

theorem findLead_eq_some {key : String} {s : Store} {lead : InvitationLead}
    (found : findLead key s = some lead) :
    lead ∈ s.invitationLeads.rows ∧ lead.institutionNameKey = key :=
  ⟨List.mem_of_find?_eq_some found, by simpa using List.find?_some found⟩

/-- One lead written: the row of its key is the lead, with one id more, and every other is as it
was. -/
structure Writes (input : LeadInput) (lead : InvitationLead) (s t : Store) : Prop where
  only : t = { s with invitationLeads := t.invitationLeads }
  key : lead.institutionNameKey = input.institutionNameKey
  found : ∀ key, findLead key t =
    if key = input.institutionNameKey then some lead else findLead key s
  rows : ∀ row ∈ t.invitationLeads.rows, row = lead ∨
    row ∈ s.invitationLeads.rows ∧ row.institutionNameKey ≠ input.institutionNameKey
  uuid : ∀ row, findLead input.institutionNameKey s = some row → lead.uuid = row.uuid
  ids : lead.recordRequestIds = leadIds input.institutionNameKey s ++ [input.requestUuid]
  counted : lead.demandCount = lead.recordRequestIds.length

/-- A lookup after a demand on a lead. -/
theorem findLead_demanded (input : LeadInput) (e : InvitationLead) {s t : Store}
    (leads : t.invitationLeads =
      s.invitationLeads.update e.uuid (demanded input e) (demanded_uuid input e)) (key : String) :
    findLead key t =
      (findLead key s).map fun row => if row.uuid = e.uuid then demanded input e row else row := by
  unfold findLead
  rw [leads, Table.rows_update, List.find?_map]
  have same : ((fun lead : InvitationLead => decide (lead.institutionNameKey = key)) ∘
      fun row => if row.uuid = e.uuid then demanded input e row else row) =
        fun lead => decide (lead.institutionNameKey = key) := by
    funext row
    by_cases here : row.uuid = e.uuid <;> simp [here, demanded]
  rw [same]

/-- **A lead that is as it was looked up** gains the id of the request. -/
theorem writes_found {input : LeadInput} {e row : InvitationLead} {s : Store} (keys : ByKey s)
    (counted : Counted s) (found : findLead input.institutionNameKey s = some row)
    (own : row.uuid = e.uuid) (ids : e.recordRequestIds = row.recordRequestIds)
    (nodup : row.recordRequestIds.Nodup) (absent : input.requestUuid ∉ row.recordRequestIds) :
    ∃ t, saveLead input (some e) s = .ok (demanded input e row, t) ∧
      Writes input (demanded input e row) s t := by
  obtain ⟨inside, named⟩ := findLead_eq_some found
  have there : s.invitationLeads.find? e.uuid = some row :=
    Table.find?_eq_some.mpr ⟨inside, own⟩
  have gained : (e.recordRequestIds ++ [input.requestUuid]).eraseDups =
      row.recordRequestIds ++ [input.requestUuid] := by
    rw [ids]
    exact eraseDups_of_nodup (List.nodup_append.mpr ⟨nodup, List.nodup_singleton _,
      fun id here other last same => absent (by
        rw [← List.mem_singleton.mp last, ← same]
        exact here)⟩)
  refine ⟨_, saveLead_found there, rfl, named, fun key => ?_, fun other inside' => ?_,
    fun other is => ?_, ?_, ?_⟩
  · refine (findLead_demanded input e (s := s) rfl key).trans ?_
    by_cases same : key = input.institutionNameKey
    · rw [if_pos same, same, found, Option.map_some, if_pos own]
    · rw [if_neg same]
      cases looked : findLead key s with
      | none => rfl
      | some other =>
        obtain ⟨otherInside, otherNamed⟩ := findLead_eq_some looked
        rw [Option.map_some, if_neg]
        intro shared
        have alike := Table.eq_of_key_eq otherInside inside (shared.trans own.symm)
        exact same (by rw [← otherNamed, alike, named])
  · have rewritten : other ∈
        (s.invitationLeads.update e.uuid (demanded input e) (demanded_uuid input e)).rows := inside'
    rcases Table.mem_update.mp rewritten with ⟨old, oldInside, here, is⟩ | ⟨oldInside, here⟩
    · rw [Table.eq_of_key_eq oldInside inside (here.trans own.symm)] at is
      exact .inl is
    · refine .inr ⟨oldInside, fun same => here ?_⟩
      have looked := keys other oldInside
      rw [same, found] at looked
      rw [← Option.some.inj looked]
      exact own
  · rw [found] at is
    rw [← Option.some.inj is]
    rfl
  · show (e.recordRequestIds ++ [input.requestUuid]).eraseDups = _
    rw [gained]
    unfold leadIds
    rw [found]
    rfl
  · show row.demandCount + 1 = ((e.recordRequestIds ++ [input.requestUuid]).eraseDups.length : ℤ)
    rw [gained, List.length_append, counted row inside]
    rfl

/-- **A new lead** has the id of the request. -/
theorem writes_created {input : LeadInput} {s : Store}
    (absent : findLead input.institutionNameKey s = none)
    (free : s.invitationLeads.find? input.leadUuid = none) :
    ∃ t, saveLead input none s = .ok (newLead input, t) ∧ Writes input (newLead input) s t := by
  obtain ⟨leads, inserted⟩ := Table.insert_of_fresh (r := newLead input)
    (Table.find?_eq_none.mp free)
  have created : saveLead input none s =
      .ok (newLead input, { s with invitationLeads := leads }) := by
    rw [saveLead_absent absent]
    unfold insertUnique
    rw [inserted]
    rfl
  have rows := (Table.insert_eq_some.mp inserted).2
  refine ⟨_, created, rfl, rfl, fun key => ?_, fun row inside => ?_, fun row is => ?_, ?_, rfl⟩
  · unfold findLead
    dsimp only
    rw [rows, List.find?_append]
    by_cases same : key = input.institutionNameKey
    · have none : List.find? (fun lead : InvitationLead => decide (lead.institutionNameKey = key))
          s.invitationLeads.rows = none := by
        rw [same]
        exact absent
      rw [if_pos same, none, Option.none_or, List.find?_singleton]
      exact if_pos (decide_eq_true same.symm)
    · have other : decide ((newLead input).institutionNameKey = key) = false :=
        decide_eq_false (Ne.symm same)
      rw [if_neg same, List.find?_singleton, other]
      simp
  · dsimp only at inside
    rw [rows] at inside
    rcases List.mem_append.mp inside with old | new
    · refine .inr ⟨old, fun same => ?_⟩
      have missing := List.find?_eq_none.mp absent row old
      exact missing (by simpa using same)
    · exact .inl (List.mem_singleton.mp new)
  · rw [absent] at is
    exact absurd is (by simp)
  · unfold leadIds
    rw [absent]
    rfl

/-- **A lead that is written** takes up the request. -/
theorem moves_writes {rt : Runtime} {input : LeadInput} {lead : InvitationLead}
    {request : RecordRequest} {s t : Store} (counted : Counted s) (keys : ByKey s)
    (writes : Writes input lead s t)
    (own : ∀ key id, names rt key id (some request) =
      (decide (key = input.institutionNameKey) && decide (id = input.requestUuid))) :
    Moves rt (some request) none s t where
  grows := by
    refine ⟨fun uuid there => by rw [writes.only]; exact there, fun key row found => ?_⟩
    rw [writes.found]
    by_cases same : key = input.institutionNameKey
    · rw [if_pos same]
      rw [same] at found
      refine ⟨lead, rfl, writes.uuid row found, ?_⟩
      rw [writes.ids, leadIds, found]
      exact List.prefix_append _ _
    · rw [if_neg same]
      exact ⟨row, found, rfl, List.prefix_rfl⟩
  keys row inside := by
    rw [writes.found]
    rcases writes.rows row inside with rfl | ⟨old, other⟩
    · rw [if_pos writes.key]
    · rw [if_neg other]
      exact keys row old
  counted row inside := by
    rcases writes.rows row inside with rfl | ⟨old, -⟩
    · exact writes.counted
    · exact counted row old
  books := by
    refine ⟨none, some request, fun key id => ?_, fun key id is => ?_, fun key id => ?_,
      fun key id => ?_⟩
    · rw [writes.only]
      exact (Bool.or_false _).symm
    · exact absurd is (by simp [names])
    · unfold leadIds once
      rw [writes.found, own]
      by_cases same : key = input.institutionNameKey
      · rw [if_pos same, Option.map_some, Option.getD_some, writes.ids, List.count_append, same]
        by_cases here : id = input.requestUuid
        · simp [leadIds, here]
        · simp [leadIds, here, Ne.symm here]
      · simp [same]
    · unfold once
      simp [names]

/-! ### One step -/

theorem lead_institutionNameKey (rt : Runtime) (draft : Draft) (requestId : String) :
    (draft.lead rt requestId).institutionNameKey =
      invitationLeadKey rt (Text.trim draft.input.institutionNameSubmitted) := by
  dsimp only [Draft.lead, leadInput]

theorem lead_requestUuid (rt : Runtime) (draft : Draft) (requestId : String) :
    (draft.lead rt requestId).requestUuid = (draft.request rt requestId).uuid := rfl

/-- The request of a draft is filed under the key of its lead. -/
theorem leadKeyOf_request (rt : Runtime) (draft : Draft) (requestId : String) :
    leadKeyOf rt (draft.request rt requestId) =
      if draft.input.institutionId.isSome then none
      else some (draft.lead rt requestId).institutionNameKey := by
  dsimp only [leadKeyOf, Draft.lead, leadInput, Draft.request, newRequest]

theorem names_request (rt : Runtime) (draft : Draft) (requestId : String)
    (unregistered : draft.input.institutionId = none) (key : String) (id : Uuid) :
    names rt key id (some (draft.request rt requestId)) =
      (decide (key = (draft.lead rt requestId).institutionNameKey) &&
        decide (id = (draft.lead rt requestId).requestUuid)) := by
  unfold names
  rw [Option.any_some, leadKeyOf_request, unregistered, lead_requestUuid, if_neg (by simp)]
  generalize (draft.lead rt requestId).institutionNameKey = own
  generalize (draft.request rt requestId).uuid = uuid
  rw [Bool.eq_iff_iff]
  simp only [Bool.and_eq_true, beq_iff_eq, decide_eq_true_eq, Option.some.injEq]
  exact ⟨fun both => ⟨both.2.symm, both.1.symm⟩, fun both => ⟨both.2.symm, both.1.symm⟩⟩

/-- The request of a registered institution is filed under no key. -/
theorem names_registered (rt : Runtime) (draft : Draft) (requestId : String)
    (registered : draft.input.institutionId.isSome = true) (key : String) (id : Uuid) :
    names rt key id (some (draft.request rt requestId)) = false := by
  unfold names
  rw [Option.any_some, leadKeyOf_request, if_pos registered]
  simp

/-- A step on the records of keys leaves the leads and the requests as they are. -/
theorem onRecords_tables {step : Idempotency.Records → Except ServiceError Idempotency.Records}
    {s t : Store} (stepped : onRecords step s = .ok t) :
    t.invitationLeads = s.invitationLeads ∧ t.recordRequests = s.recordRequests ∧
      step s.idempotencyRecords = .ok t.idempotencyRecords := by
  obtain ⟨records, done, same⟩ := bind_eq_ok.mp stepped
  rw [pure_eq_ok] at same
  rw [← same]
  exact ⟨rfl, rfl, done⟩

theorem kept_updateRow {records u : Idempotency.Records} {uuid : Uuid}
    {f : IdempotencyRecord → IdempotencyRecord} {keeps : ∀ r, (f r).uuid = r.uuid}
    (updated : (do let (_, records) ← updateRow records uuid f keeps; return records :
      Except ServiceError Idempotency.Records) = .ok u) (other : Uuid) :
    (u.find? other).isSome = (records.find? other).isSome := by
  obtain ⟨⟨row, after⟩, done, same⟩ := bind_eq_ok.mp updated
  obtain ⟨-, -, -, rfl⟩ := updateRow_eq_ok.mp done
  rw [← pure_eq_ok.mp same]
  exact Table.find?_update_isSome _ _ _ _ other

theorem kept_insertRecord {record : IdempotencyRecord} {records u : Idempotency.Records}
    (inserted : Idempotency.insertRecord record records = .ok u) (uuid : Uuid) :
    (u.find? uuid).isSome = (decide (record.uuid = uuid) || (records.find? uuid).isSome) := by
  obtain ⟨-, -, grown⟩ := bind_eq_ok.mp inserted
  exact Table.find?_insert_isSome (orThrow_eq_ok.mp grown) uuid

/-- A record that is there is marked. -/
theorem onRecords_marks {uuid : Uuid} {s : Store} (response : Json)
    (there : (s.idempotencyRecords.find? uuid).isSome = true) :
    ∃ t, onRecords (Idempotency.saveSucceeded uuid response none) s = .ok t := by
  obtain ⟨row, found⟩ := Option.isSome_iff_exists.mp there
  exact ⟨_, bind_eq_ok.mpr ⟨_, bind_eq_ok.mpr ⟨_, updateRow_eq_ok.mpr ⟨row, found, rfl, rfl⟩, rfl⟩,
    rfl⟩⟩

/-- What follows a step of a handler awaits what the handler awaits. -/
theorem awaiting_under (rt : Runtime) (record : Option Uuid) (handled : Handled) :
    (under record handled).awaiting rt = handled.awaiting rt := by
  cases handled <;> cases record <;> rfl

theorem sane_under {rt : Runtime} {record : Option Uuid} {handled : Handled} {s : Store}
    (there : ∀ uuid, record = some uuid → (s.idempotencyRecords.find? uuid).isSome = true)
    (sane : handled.Sane rt s) : (under record handled).Sane rt s := by
  cases handled with
  | running handling => exact ⟨rfl, there, sane⟩
  | returned response stored =>
    cases record with
    | none => exact ⟨rfl, fun _ is => absurd is (by simp [under, Progress.record]), trivial⟩
    | some uuid => exact ⟨rfl, there, trivial⟩
  | threw e stored =>
    obtain rfl := sane
    cases record with
    | none => exact ⟨rfl, fun _ is => absurd is (by simp [under, Progress.record]), trivial⟩
    | some uuid => exact ⟨rfl, fun _ is => absurd is (by simp [under, Progress.record]), trivial⟩

/-- What a call relies on stays. -/
theorem Handling.Sane.grows {rt : Runtime} {handling : Handling} {s t : Store}
    (sane : handling.Sane rt s) (grows : Grows s t) : handling.Sane rt t := by
  cases handling with
  | saving draft requestId institution existing =>
    obtain ⟨unregistered, read⟩ := sane
    refine ⟨unregistered, fun e is => ?_⟩
    obtain ⟨row, found, own, front⟩ := read e is
    obtain ⟨row', found', same, longer⟩ := grows.leads _ row found
    exact ⟨row', found', same.trans own, front.trans longer⟩
  | finding => exact sane
  | _ => trivial

theorem Progress.Sane.grows {rt : Runtime} {x : Progress} {s t : Store} (sane : x.Sane rt s)
    (grows : Grows s t) : x.Sane rt t := by
  refine ⟨sane.keeps, fun uuid is => grows.records uuid (sane.recorded uuid is), ?_⟩
  have handles := sane.handles
  cases x with
  | handling record running => exact Handling.Sane.grows handles grows
  | _ => exact handles

/-- The lead of a call that is about to be written: distinct ids, the call's own not among them. -/
def Fresh (rt : Runtime) (x : Progress) (s : Store) : Prop :=
  ∀ record draft requestId institution existing,
    x = .handling record (.saving draft requestId institution existing) →
      draft.input.institutionId = none →
        (leadIds (draft.lead rt requestId).institutionNameKey s).Nodup ∧
          (draft.lead rt requestId).requestUuid ∉
            leadIds (draft.lead rt requestId).institutionNameKey s

/-- **The write of a lead that is as it was.** -/
theorem saving_writes {rt : Runtime} {draft : Draft} {requestId : String}
    {institution : Option Institution} {existing : Option InvitationLead} {s : Store}
    (keys : ByKey s) (counted : Counted s)
    (sane : (Handling.saving draft requestId institution existing).Sane rt s)
    (still : unmoved (draft.lead rt requestId) existing s = true)
    (nodup : (leadIds (draft.lead rt requestId).institutionNameKey s).Nodup)
    (absent : (draft.lead rt requestId).requestUuid ∉
      leadIds (draft.lead rt requestId).institutionNameKey s) :
    ∃ lead t, saveLead (draft.lead rt requestId) existing s = .ok (lead, t) ∧
      Writes (draft.lead rt requestId) lead s t := by
  obtain ⟨-, read⟩ := sane
  unfold unmoved at still
  rw [Bool.and_eq_true, beq_iff_eq] at still
  cases existing with
  | none =>
    have missing : findLead (draft.lead rt requestId).institutionNameKey s = none := by
      simpa using still.1
    have free : s.invitationLeads.find? (draft.lead rt requestId).leadUuid = none := by
      simpa using still.2
    obtain ⟨t, saved, writes⟩ := writes_created missing free
    exact ⟨_, t, saved, writes⟩
  | some e =>
    obtain ⟨row, found, own, -⟩ := read e rfl
    have ids : e.recordRequestIds = row.recordRequestIds := by
      have same := still.1
      rw [found] at same
      exact (Option.some.inj same).symm
    have listed : leadIds (draft.lead rt requestId).institutionNameKey s =
        row.recordRequestIds := by
      unfold leadIds
      rw [found]
      rfl
    rw [listed] at nodup absent
    obtain ⟨t, saved, writes⟩ := writes_found keys counted found own ids nodup absent
    exact ⟨_, t, saved, writes⟩

/-- **A call of a handler that goes through.** -/
theorem handlerDone_moves {rt : Runtime} {record : Option Uuid} {running : Handling} {s : Store}
    (keys : ByKey s) (counted : Counted s) (sane : running.Sane rt s)
    (goes : goesThrough rt .done (.handling record running) s = true)
    (fresh : Fresh rt (.handling record running) s) :
    Moves rt (running.awaiting rt) ((handlerDone rt running s).1.awaiting rt) s
        (handlerDone rt running s).2 ∧
      (handlerDone rt running s).1.Sane rt (handlerDone rt running s).2 := by
  have quiet : ∀ {after : Option RecordRequest},
      (∀ key id, names rt key id after = names rt key id (running.awaiting rt)) →
        Moves rt (running.awaiting rt) after s s :=
    moves_quiet keys counted rfl rfl fun _ there => there
  cases running with
  | coding draft code codes =>
    dsimp only [handlerDone]
    split_ifs
    · cases codes with
      | nil => exact ⟨quiet fun _ _ => rfl, rfl⟩
      | cons code codes => exact ⟨quiet fun _ _ => rfl, trivial⟩
    · exact ⟨quiet fun _ _ => rfl, trivial⟩
  | storing draft requestId =>
    dsimp only [handlerDone]
    cases inserted : insertRequest (draft.request rt requestId) s with
    | error e => exact ⟨quiet fun _ _ => rfl, rfl⟩
    | ok pair => exact ⟨moves_storing keys counted inserted, trivial⟩
  | auditing draft requestId institution =>
    have logged : ∀ {after : Option RecordRequest},
        (∀ key id, names rt key id after =
          names rt key id (some (draft.request rt requestId))) →
            Moves rt (some (draft.request rt requestId)) after s
              (s.audit (requestAudit draft.auth (draft.request rt requestId))) :=
      moves_quiet keys counted rfl rfl fun _ there => there
    dsimp only [handlerDone]
    by_cases registered : draft.input.institutionId.isSome = true
    · rw [if_pos registered]
      refine ⟨logged fun key id => ?_, trivial⟩
      rw [names_registered rt draft requestId registered]
      rfl
    · rw [if_neg registered]
      refine ⟨logged fun _ _ => rfl, ?_⟩
      exact Option.not_isSome_iff_eq_none.mp registered
  | finding draft requestId institution =>
    refine ⟨quiet fun _ _ => rfl, sane, fun e is => ⟨e, is, rfl, List.prefix_rfl⟩⟩
  | saving draft requestId institution existing =>
    have still : unmoved (draft.lead rt requestId) existing s = true := by
      simpa [goesThrough] using goes
    obtain ⟨nodup, absent⟩ := fresh record draft requestId institution existing rfl sane.1
    obtain ⟨lead, t, saved, writes⟩ := saving_writes keys counted sane still nodup absent
    dsimp only [handlerDone]
    rw [saved]
    exact ⟨moves_writes counted keys writes (names_request rt draft requestId sane.1), trivial⟩
  | logging draft requestId institution existing lead =>
    exact ⟨moves_quiet keys counted rfl rfl (fun _ there => there) fun _ _ => rfl, trivial⟩

theorem opening_sane (rt : Runtime) {handled : Handled} (opening : handled.Opening) (s : Store) :
    handled.Sane rt s ∧ handled.awaiting rt = none := by
  cases handled with
  | running handling =>
    cases handling with
    | coding => exact ⟨trivial, rfl⟩
    | _ => exact absurd opening id
  | returned => exact absurd opening id
  | threw => exact ⟨opening, rfl⟩

/-- A call that does not go on, and loses nothing. -/
theorem sane_failed {rt : Runtime} {s : Store} (e : ServiceError) :
    (Progress.failed e none).Sane rt s :=
  ⟨rfl, fun _ is => absurd is (by simp [Progress.record]), trivial⟩

/-- **A call to the database that goes through.** -/
theorem requestDone_moves {rt : Runtime} {x : Progress} {s : Store} (keys : ByKey s)
    (counted : Counted s) (sane : x.Sane rt s) (goes : goesThrough rt .done x s = true)
    (fresh : Fresh rt x s) :
    Moves rt (x.awaiting rt) ((requestDone rt x s).1.awaiting rt) s (requestDone rt x s).2 ∧
      (requestDone rt x s).1.Sane rt (requestDone rt x s).2 := by
  have quiet : ∀ {before : Option RecordRequest}, Moves rt before before s s :=
    moves_quiet keys counted rfl rfl (fun _ there => there) fun _ _ => rfl
  have unrecorded : ∀ {y : Progress}, y.record = none → ∀ uuid, y.record = some uuid →
      (s.idempotencyRecords.find? uuid).isSome = true := fun none uuid is =>
    absurd (none.symm.trans is) (by simp)
  cases x with
  | looking record handled =>
    dsimp only [requestDone]
    split
    · exact ⟨quiet, rfl, unrecorded rfl, sane.handles⟩
    · split
      · exact ⟨quiet, rfl, unrecorded rfl, trivial⟩
      · exact ⟨quiet, sane_failed _⟩
  | creating record handled =>
    dsimp only [requestDone]
    cases created : onRecords (Idempotency.insertRecord record) s with
    | error e => exact ⟨quiet, sane_failed _⟩
    | ok t =>
      obtain ⟨handles, idle⟩ := opening_sane rt sane.handles t
      obtain ⟨leads, requests, inserted⟩ := onRecords_tables created
      refine ⟨?_, sane_under (fun uuid is => ?_) handles⟩
      · dsimp only
        rw [awaiting_under, idle]
        exact moves_quiet keys counted leads requests
          (fun uuid there => by rw [kept_insertRecord inserted, there, Bool.or_true]) fun _ _ => rfl
      · rw [kept_insertRecord inserted, Option.some.inj is]
        simp
  | handling record running =>
    obtain ⟨moves, handled⟩ := handlerDone_moves keys counted sane.handles goes fresh
    refine ⟨?_, sane_under (fun uuid is => ?_) handled⟩
    · dsimp only [requestDone]
      rw [awaiting_under]
      exact moves
    · exact moves.grows.records uuid (sane.recorded uuid is)
  | marking uuid response stored =>
    obtain ⟨t, marked⟩ := onRecords_marks response (sane.recorded uuid rfl)
    obtain ⟨leads, requests, done⟩ := onRecords_tables marked
    dsimp only [requestDone]
    rw [marked]
    exact ⟨moves_quiet keys counted leads requests
      (fun other there => (kept_updateRow done other).trans there) fun _ _ => rfl, rfl,
      fun _ is => absurd is (by simp [Progress.record]), trivial⟩
  | releasing uuid error stored =>
    have none : stored = none := by
      have keeps := sane.keeps
      cases stored with
      | none => rfl
      | some => exact absurd keeps (by simp [Progress.loses])
    rw [none]
    dsimp only [requestDone]
    cases released : onRecords (Idempotency.saveFailed uuid error.message) s with
    | error e => exact ⟨quiet, sane_failed _⟩
    | ok t =>
      obtain ⟨leads, requests, done⟩ := onRecords_tables released
      exact ⟨moves_quiet keys counted leads requests
        (fun other there => (kept_updateRow done other).trans there) fun _ _ => rfl, sane_failed _⟩
  | succeeded response stored => exact ⟨quiet, sane⟩
  | failed e stored => exact ⟨quiet, sane⟩

/-- **A call to the database that fails, before the request is stored.** -/
theorem requestFailed_moves {rt : Runtime} {x : Progress} {s : Store} (keys : ByKey s)
    (counted : Counted s) (sane : x.Sane rt s) (goes : goesThrough rt .failed x s = true) :
    Moves rt (x.awaiting rt) ((requestFailed rt x).awaiting rt) s s ∧
      (requestFailed rt x).Sane rt s := by
  have quiet : ∀ {before : Option RecordRequest}, Moves rt before before s s :=
    moves_quiet keys counted rfl rfl (fun _ there => there) fun _ _ => rfl
  cases x with
  | looking => exact ⟨quiet, sane_failed _⟩
  | creating => exact ⟨quiet, sane_failed _⟩
  | handling record running =>
    cases running with
    | coding | storing =>
      dsimp only [requestFailed]
      rw [awaiting_under]
      exact ⟨quiet, sane_under sane.recorded rfl⟩
    | _ => exact absurd goes (by simp [goesThrough])
  | marking => exact absurd goes (by simp [goesThrough])
  | releasing uuid error stored =>
    cases stored with
    | none => exact ⟨quiet, sane_failed _⟩
    | some => exact absurd sane.keeps (by simp [Progress.loses])
  | succeeded response stored => exact ⟨quiet, sane⟩
  | failed e stored => exact ⟨quiet, sane⟩

/-- **A step that goes through.** -/
theorem step_moves {rt : Runtime} {outcome : Outcome} {x : Progress} {s : Store} (keys : ByKey s)
    (counted : Counted s) (sane : x.Sane rt s) (goes : goesThrough rt outcome x s = true)
    (fresh : Fresh rt x s) :
    Moves rt (x.awaiting rt) (((machine rt).step outcome x s).1.awaiting rt) s
        ((machine rt).step outcome x s).2 ∧
      ((machine rt).step outcome x s).1.Sane rt ((machine rt).step outcome x s).2 := by
  cases outcome with
  | done => exact requestDone_moves keys counted sane goes fresh
  | failed => exact requestFailed_moves keys counted sane goes

/-! ### The account of a run -/

/-- How many calls await the request. -/
def awaitedIn (rt : Runtime) (key : String) (id : Uuid) (programs : List Progress) : ℕ :=
  programs.countP fun x => names rt key id (x.awaiting rt)

/-- **The account**: a request that is filed is on the lead of its key or awaited by its call. -/
structure Accounted (rt : Runtime) (p : Crowd Store Progress) : Prop where
  keys : ByKey p.store
  counted : Counted p.store
  each : ∀ x ∈ p.programs, x.Sane rt p.store
  tally : ∀ key id, (leadIds key p.store).count id + awaitedIn rt key id p.programs =
    if filed rt key id p.store then 1 else 0

theorem awaitedIn_set (rt : Runtime) {programs : List Progress} {k : ℕ} {x : Progress}
    (found : programs[k]? = some x) (y : Progress) (key : String) (id : Uuid) :
    awaitedIn rt key id (programs.set k y) + once rt key id (x.awaiting rt) =
      awaitedIn rt key id programs + once rt key id (y.awaiting rt) :=
  countP_set_add _ found y

theorem awaitedIn_eq_zero {rt : Runtime} {key : String} {id : Uuid} {programs : List Progress} :
    awaitedIn rt key id programs = 0 ↔ ∀ x ∈ programs, names rt key id (x.awaiting rt) = false := by
  simp [awaitedIn]

/-- **The account gives what a write relies on**: a request that is awaited is on no lead. -/
theorem fresh_of_accounted {rt : Runtime} {p : Crowd Store Progress} (accounted : Accounted rt p)
    {x : Progress} (inside : x ∈ p.programs) : Fresh rt x p.store := by
  rintro record draft requestId institution existing rfl unregistered
  have most : ∀ id,
      (leadIds (draft.lead rt requestId).institutionNameKey p.store).count id ≤ 1 := by
    intro id
    have tally := accounted.tally (draft.lead rt requestId).institutionNameKey id
    split_ifs at tally <;> omega
  refine ⟨List.nodup_iff_count_le_one.mpr most, fun listed => ?_⟩
  have tally := accounted.tally (draft.lead rt requestId).institutionNameKey
    (draft.lead rt requestId).requestUuid
  have own : names rt (draft.lead rt requestId).institutionNameKey
      (draft.lead rt requestId).requestUuid (some (draft.request rt requestId)) = true := by
    rw [names_request rt draft requestId unregistered]
    simp
  have awaited : 0 < awaitedIn rt (draft.lead rt requestId).institutionNameKey
      (draft.lead rt requestId).requestUuid p.programs :=
    List.countP_pos_iff.mpr ⟨_, inside, own⟩
  have there := List.count_pos_iff.mpr listed
  split_ifs at tally <;> omega

theorem handlerStart_opening (rt : Runtime) (env : AccessEnv) (auth : AuthTokenPayload)
    (body : Json) : (handlerStart rt env auth body).Opening := by
  unfold handlerStart
  cases acceptBody rt auth body with
  | error e => rfl
  | ok both =>
    -- Six codes are drawn.
    trivial

/-- A call that begins awaits nothing. -/
theorem requestStart_sane (rt : Runtime) (call : RequestCall) (s : Store) :
    (requestStart rt call).Sane rt s ∧ (requestStart rt call).awaiting rt = none := by
  have opening := handlerStart_opening rt call.env call.auth call.body
  obtain ⟨handles, idle⟩ := opening_sane rt opening s
  unfold requestStart
  split
  · exact ⟨sane_under (fun _ is => absurd is (by simp)) handles, (awaiting_under ..).trans idle⟩
  · split
    · exact ⟨sane_failed _, rfl⟩
    · exact ⟨⟨rfl, fun _ is => absurd is (by simp [Progress.record]), opening⟩, rfl⟩

/-- **A turn that goes through keeps the account.** -/
theorem accounted_turn {rt : Runtime} {p : Crowd Store Progress} {e : Turn RequestCall}
    (accounted : Accounted rt p) (guarded : Guarded rt p e) :
    Accounted rt ((machine rt).turn p e) := by
  cases e with
  | begin call =>
    obtain ⟨sane, idle⟩ := requestStart_sane rt call p.store
    refine ⟨accounted.keys, accounted.counted, fun x inside => ?_, fun key id => ?_⟩
    · rcases List.mem_append.mp inside with old | new
      · exact accounted.each x old
      · rw [List.mem_singleton.mp new]
        exact sane
    · show _ + (p.programs ++ [requestStart rt call]).countP _ = _
      rw [List.countP_append, List.countP_singleton, idle]
      exact accounted.tally key id
  | advance k outcome =>
    cases found : p.programs[k]? with
    | none =>
      rw [Machine.turn_nobody found]
      exact accounted
    | some x =>
      have inside := List.mem_of_getElem? found
      have goes : goesThrough rt outcome x p.store = true := by
        unfold Guarded at guarded
        dsimp only at guarded
        rw [found] at guarded
        exact guarded
      obtain ⟨moves, sane⟩ := step_moves accounted.keys accounted.counted (accounted.each x inside)
        goes (fresh_of_accounted accounted inside)
      rw [Machine.turn_advance found]
      refine ⟨moves.keys, moves.counted, fun y there => ?_, fun key id => ?_⟩
      · rcases List.mem_or_eq_of_mem_set there with old | new
        · exact (accounted.each y old).grows moves.grows
        · rw [new]
          exact sane
      · obtain ⟨new, saved, stores, unfiled, lists, balance⟩ := moves.books
        have before := accounted.tally key id
        have awaited := awaitedIn_set rt found ((machine rt).step outcome x p.store).1 key id
        have balance := balance key id
        dsimp only
        rw [stores, lists]
        by_cases made : names rt key id new = true
        · rw [unfiled key id made] at before ⊢
          simp only [once, made, if_true, Bool.or_true] at balance awaited ⊢
          simp only [Bool.false_eq_true, if_false] at before
          omega
        · rw [Bool.not_eq_true] at made
          simp only [once, made, Bool.false_eq_true, if_false, Bool.or_false] at balance awaited ⊢
          omega

/-! ### What is lost stays lost -/

/-- A call whose handler has not begun when it looks up its key. -/
def Progress.Opened : Progress → Prop
  | .looking _ handled | .creating _ handled => handled.Opening
  | _ => True

theorem Progress.Sane.opened {rt : Runtime} {x : Progress} {s : Store} (sane : x.Sane rt s) :
    x.Opened := by
  have handles := sane.handles
  cases x with
  | looking | creating => exact handles
  | _ => trivial

theorem opened_under (record : Option Uuid) (handled : Handled) :
    (under record handled).Opened := by
  cases handled <;> cases record <;> trivial

theorem opened_step (rt : Runtime) (outcome : Outcome) {x : Progress} (opened : x.Opened)
    (s : Store) : ((machine rt).step outcome x s).1.Opened := by
  cases outcome with
  | failed =>
    cases x with
    | handling record running => exact opened_under record _
    | _ => trivial
  | done =>
    dsimp only [machine]
    cases x with
    | looking record handled =>
      dsimp only [requestDone]
      split
      · exact opened
      · split <;> trivial
    | creating record handled =>
      dsimp only [requestDone]
      split
      · exact opened_under _ handled
      · trivial
    | handling record running => exact opened_under record _
    | marking | releasing =>
      dsimp only [requestDone]
      split <;> trivial
    | _ => trivial

/-- A lead that counts more than it lists, and more than a call will list that has looked it up. -/
def Short (p : Crowd Store Progress) : Prop :=
  ∃ uuid row, p.store.invitationLeads.find? uuid = some row ∧
    row.recordRequestIds.length < row.demandCount ∧
      ∀ x ∈ p.programs, ∀ e, x.read = some e → e.uuid = uuid →
        e.recordRequestIds.length < row.demandCount

structure Lost (p : Crowd Store Progress) : Prop where
  opened : ∀ x ∈ p.programs, x.Opened
  loses : (∃ x ∈ p.programs, x.loses = true) ∨ Short p

/-- A lead that is saved has one demand more, and at most one id more than was looked up. -/
theorem saveLead_gains {input : LeadInput} {existing : Option InvitationLead}
    {lead : InvitationLead} {s t : Store} (saved : saveLead input existing s = .ok (lead, t))
    {uuid : Uuid} {row : InvitationLead} (found : s.invitationLeads.find? uuid = some row) :
    ∃ row', t.invitationLeads.find? uuid = some row' ∧ (row' = row ∨
      ∃ e, existing = some e ∧ e.uuid = uuid ∧ row'.demandCount = row.demandCount + 1 ∧
        row'.recordRequestIds.length ≤ e.recordRequestIds.length + 1) := by
  cases existing with
  | none =>
    obtain ⟨-, -, rest⟩ := bind_eq_ok.mp saved
    obtain ⟨leads, inserted, same⟩ := bind_eq_ok.mp rest
    obtain ⟨rfl, rfl⟩ := Prod.mk.inj (pure_eq_ok.mp same)
    have grown := orThrow_eq_ok.mp inserted
    refine ⟨row, ?_, .inl rfl⟩
    dsimp only
    rw [Table.find?_insert grown, if_neg, found]
    intro taken
    have free := (Table.insert_eq_some.mp grown).1 row (Table.find?_mem found)
    exact free ((Table.find?_key found).trans taken.symm)
  | some e =>
    obtain ⟨⟨after, leads⟩, updated, same⟩ := bind_eq_ok.mp saved
    obtain ⟨old, looked, rfl, rfl⟩ := updateRow_eq_ok.mp updated
    obtain ⟨rfl, rfl⟩ := Prod.mk.inj (pure_eq_ok.mp same)
    have gained := Table.find?_update s.invitationLeads e.uuid (demanded input e)
      (demanded_uuid input e) uuid
    by_cases here : e.uuid = uuid
    · rw [if_pos here, found, Option.map_some] at gained
      refine ⟨_, gained, .inr ⟨e, rfl, here, rfl, ?_⟩⟩
      refine (length_eraseDups_le _).trans ?_
      rw [List.length_append]
      rfl
    · rw [if_neg here, found] at gained
      exact ⟨row, gained, .inl rfl⟩

theorem findLead_find? {key : String} {s : Store} {e : InvitationLead}
    (found : findLead key s = some e) : s.invitationLeads.find? e.uuid = some e :=
  Table.find?_eq_some.mpr ⟨(findLead_eq_some found).1, rfl⟩

/-- The lead that a handler has looked up. -/
def Handled.read : Handled → Option InvitationLead
  | .running (.saving _ _ _ existing) => existing
  | _ => none

theorem read_under (record : Option Uuid) (handled : Handled) :
    (under record handled).read = handled.read := by
  cases handled with
  | running handling => cases handling <;> rfl
  | _ => cases record <;> rfl

theorem read_opening {handled : Handled} (opening : handled.Opening) : handled.read = none := by
  cases handled with
  | running handling => cases handling <;> first | rfl | exact absurd opening id
  | _ => rfl

/-- **What a step does to the leads**: nothing, and a lead that is looked up is as it is; or one of
them is written, and the call has none looked up any more. -/
theorem handlerDone_leads (rt : Runtime) (running : Handling) (s : Store) :
    ((handlerDone rt running s).2.invitationLeads = s.invitationLeads ∧
        ∀ e, (handlerDone rt running s).1.read = some e →
          s.invitationLeads.find? e.uuid = some e) ∨
      (handlerDone rt running s).1.read = none ∧
        ∃ input lead, saveLead input (Handled.running running).read s =
          .ok (lead, (handlerDone rt running s).2) := by
  cases running with
  | coding draft code codes =>
    refine .inl ⟨rfl, fun e is => ?_⟩
    dsimp only [handlerDone] at is
    split_ifs at is
    · cases codes <;> exact absurd is (by simp [coding, Handled.read])
    · exact absurd is (by simp [Handled.read])
  | storing draft requestId =>
    dsimp only [handlerDone]
    cases inserted : insertRequest (draft.request rt requestId) s with
    | error e => exact .inl ⟨rfl, fun e is => absurd is (by simp [Handled.read])⟩
    | ok pair =>
      obtain ⟨-, -, -, -, requests, -, same⟩ := insertRequest_eq_ok.mp inserted
      refine .inl ⟨?_, fun e is => absurd is (by simp [Handled.read])⟩
      dsimp only
      rw [same]
  | auditing draft requestId institution =>
    refine .inl ⟨rfl, fun e is => ?_⟩
    dsimp only [handlerDone] at is
    split_ifs at is <;> exact absurd is (by simp [Handled.read])
  | finding draft requestId institution => exact .inl ⟨rfl, fun e is => findLead_find? is⟩
  | saving draft requestId institution existing =>
    dsimp only [handlerDone]
    cases saved : saveLead (draft.lead rt requestId) existing s with
    | error e => exact .inl ⟨rfl, fun e is => absurd is (by simp [Handled.read])⟩
    | ok pair => exact .inr ⟨rfl, _, pair.1, saved⟩
  | logging draft requestId institution existing lead =>
    exact .inl ⟨rfl, fun e is => absurd is (by simp [handlerDone, Handled.read])⟩

theorem read_requestFailed (rt : Runtime) (x : Progress) : (requestFailed rt x).read = none := by
  cases x with
  | handling record running => exact read_under record _
  | _ => rfl

theorem step_leads (rt : Runtime) (outcome : Outcome) {x : Progress} (opened : x.Opened)
    (s : Store) :
    (((machine rt).step outcome x s).2.invitationLeads = s.invitationLeads ∧
        ∀ e, ((machine rt).step outcome x s).1.read = some e →
          s.invitationLeads.find? e.uuid = some e) ∨
      ((machine rt).step outcome x s).1.read = none ∧ ∃ input lead,
        saveLead input x.read s = .ok (lead, ((machine rt).step outcome x s).2) := by
  have unread : ∀ {y : Progress}, y.read = none → ∀ e, y.read = some e →
      s.invitationLeads.find? e.uuid = some e := fun none e is =>
    absurd (none.symm.trans is) (by simp)
  cases outcome with
  | failed => exact .inl ⟨rfl, unread (read_requestFailed rt x)⟩
  | done =>
    dsimp only [machine]
    cases x with
    | looking record handled =>
      refine .inl ?_
      dsimp only [requestDone]
      split
      · exact ⟨rfl, unread rfl⟩
      · split <;> exact ⟨rfl, unread rfl⟩
    | creating record handled =>
      refine .inl ?_
      dsimp only [requestDone]
      cases created : onRecords (Idempotency.insertRecord record) s with
      | error e => exact ⟨rfl, unread rfl⟩
      | ok t =>
        exact ⟨(onRecords_tables created).1, unread ((read_under _ handled).trans (read_opening opened))⟩
    | handling record running =>
      dsimp only [requestDone]
      rw [read_under]
      have same : (Progress.handling record running).read = (Handled.running running).read := by
        cases running <;> rfl
      rw [same]
      exact handlerDone_leads rt running s
    | marking uuid response stored =>
      refine .inl ?_
      dsimp only [requestDone]
      cases marked : onRecords (Idempotency.saveSucceeded uuid response none) s with
      | error e => exact ⟨rfl, unread rfl⟩
      | ok t => exact ⟨(onRecords_tables marked).1, unread rfl⟩
    | releasing uuid error stored =>
      refine .inl ?_
      dsimp only [requestDone]
      cases released : onRecords (Idempotency.saveFailed uuid error.message) s with
      | error e => exact ⟨rfl, unread rfl⟩
      | ok t => exact ⟨(onRecords_tables released).1, unread rfl⟩
    | succeeded => exact .inl ⟨rfl, unread rfl⟩
    | failed => exact .inl ⟨rfl, unread rfl⟩

theorem loses_step (rt : Runtime) (outcome : Outcome) {x : Progress} (loses : x.loses = true)
    (s : Store) : ((machine rt).step outcome x s).1.loses = true := by
  cases x with
  | releasing uuid error stored =>
    cases stored with
    | none => exact absurd loses (by simp [Progress.loses])
    | some request =>
      cases outcome with
      | failed => rfl
      | done =>
        dsimp only [machine, requestDone]
        split <;> rfl
  | failed e stored => cases outcome <;> exact loses
  | _ => exact absurd loses (by simp [Progress.loses])

/-- A lead that is short stays short. -/
theorem short_step {rt : Runtime} {p : Crowd Store Progress} {k : ℕ} {x : Progress}
    (found : p.programs[k]? = some x) (opened : x.Opened) (outcome : Outcome) (short : Short p) :
    Short
      { store := ((machine rt).step outcome x p.store).2
        programs := p.programs.set k ((machine rt).step outcome x p.store).1 } := by
  obtain ⟨uuid, row, there, less, others⟩ := short
  rcases step_leads rt outcome opened p.store with ⟨leads, reads⟩ | ⟨holds, input, lead, saved⟩
  · refine ⟨uuid, row, leads ▸ there, less, fun y inside e is own => ?_⟩
    rcases List.mem_or_eq_of_mem_set inside with old | new
    · exact others y old e is own
    · rw [new] at is
      have looked := reads e is
      rw [own, there] at looked
      rw [← Option.some.inj looked]
      exact less
  · have unread : ∀ e, ((machine rt).step outcome x p.store).1.read ≠ some e := by
      intro e is
      exact absurd (holds.symm.trans is) (by simp)
    obtain ⟨row', there', same | ⟨e, held, own, more, longer⟩⟩ := saveLead_gains saved there
    · rw [same] at there'
      refine ⟨uuid, row, there', less, fun y inside e is own => ?_⟩
      rcases List.mem_or_eq_of_mem_set inside with old | new
      · exact others y old e is own
      · rw [new] at is
        exact absurd is (unread e)
    · have shorter := others x (List.mem_of_getElem? found) e held own
      refine ⟨uuid, row', there', by omega, fun y inside e' is own' => ?_⟩
      rcases List.mem_or_eq_of_mem_set inside with old | new
      · have before := others y old e' is own'
        omega
      · rw [new] at is
        exact absurd is (unread e')

theorem read_requestStart (rt : Runtime) (call : RequestCall) :
    (requestStart rt call).read = none := by
  have opening := handlerStart_opening rt call.env call.auth call.body
  unfold requestStart
  split
  · exact (read_under none _).trans (read_opening opening)
  · split <;> rfl

/-- **What is lost stays lost.** -/
theorem lost_stays (rt : Runtime) {p : Crowd Store Progress} (e : Turn RequestCall)
    (lost : Lost p) : Lost ((machine rt).turn p e) := by
  cases e with
  | begin call =>
    obtain ⟨sane, -⟩ := requestStart_sane rt call p.store
    refine ⟨fun x inside => ?_, ?_⟩
    · rcases List.mem_append.mp inside with old | new
      · exact lost.opened x old
      · rw [List.mem_singleton.mp new]
        exact sane.opened
    · rcases lost.loses with ⟨x, inside, loses⟩ | ⟨uuid, row, found, less, others⟩
      · exact .inl ⟨x, List.mem_append_left _ inside, loses⟩
      · refine .inr ⟨uuid, row, found, less, fun x inside e reads own => ?_⟩
        rcases List.mem_append.mp inside with old | new
        · exact others x old e reads own
        · rw [List.mem_singleton.mp new] at reads
          exact absurd ((read_requestStart rt call).symm.trans reads) (by simp)
  | advance k outcome =>
    cases found : p.programs[k]? with
    | none =>
      rw [Machine.turn_nobody found]
      exact lost
    | some x =>
      have opened := lost.opened x (List.mem_of_getElem? found)
      rw [Machine.turn_advance found]
      refine ⟨fun y inside => ?_, ?_⟩
      · rcases List.mem_or_eq_of_mem_set inside with old | new
        · exact lost.opened y old
        · rw [new]
          exact opened_step rt outcome opened p.store
      · rcases lost.loses with ⟨y, inside, loses⟩ | short
        · refine .inl ?_
          obtain ⟨i, here⟩ := List.mem_iff_getElem?.mp inside
          by_cases same : k = i
          · rw [same, here] at found
            rw [← Option.some.inj found]
            refine ⟨_, ?_, loses_step rt outcome loses p.store⟩
            exact List.mem_iff_getElem?.mpr ⟨k, by
              rw [List.getElem?_set_self' , same, here]; rfl⟩
          · refine ⟨y, List.mem_iff_getElem?.mpr ⟨i, ?_⟩, loses⟩
            rw [List.getElem?_set_ne same]
            exact here
        · exact .inr (short_step found opened outcome short)

theorem saveLead_refused {input : LeadInput} {s : Store} (moved : unmoved input none s = false) :
    ∃ e, saveLead input none s = .error e := by
  cases saved : saveLead input none s with
  | error e => exact ⟨e, rfl⟩
  | ok pair =>
    obtain ⟨_, absent, rest⟩ := bind_eq_ok.mp saved
    obtain ⟨leads, inserted, -⟩ := bind_eq_ok.mp rest
    have free : s.invitationLeads.find? input.leadUuid = none :=
      Table.find?_eq_none.mpr (Table.insert_eq_some.mp (orThrow_eq_ok.mp inserted)).1
    have missing : findLead input.institutionNameKey s = none :=
      Option.isNone_iff_eq_none.mp (require_eq_ok.mp absent)
    exact absurd moved (by simp [unmoved, missing, free])

/-- A lead that a call has looked up is there, and has not lost an id. -/
theorem Progress.Sane.read {rt : Runtime} {x : Progress} {s : Store} (sane : x.Sane rt s)
    {e : InvitationLead} (is : x.read = some e) :
    ∃ row ∈ s.invitationLeads.rows, row.uuid = e.uuid ∧
      e.recordRequestIds <+: row.recordRequestIds := by
  have handles := sane.handles
  cases x with
  | handling record running =>
    cases running with
    | saving draft requestId institution existing =>
      obtain ⟨row, found, own, front⟩ := handles.2 e is
      exact ⟨row, (findLead_eq_some found).1, own, front⟩
    | _ => exact absurd is (by simp [Progress.read])
  | _ => exact absurd is (by simp [Progress.read])

/-- A write of a lead that has moved fails, or leaves the lead short. -/
theorem moved_loses {rt : Runtime} {p : Crowd Store Progress} (accounted : Accounted rt p) {k : ℕ}
    {record : Option Uuid} {draft : Draft} {requestId : String} {institution : Option Institution}
    {existing : Option InvitationLead}
    (found : p.programs[k]? =
      some (.handling record (.saving draft requestId institution existing)))
    (moved : unmoved (draft.lead rt requestId) existing p.store = false) :
    ((machine rt).step .done (.handling record (.saving draft requestId institution existing))
        p.store).1.loses = true ∨
      Short
        { store := ((machine rt).step .done
            (.handling record (.saving draft requestId institution existing)) p.store).2
          programs := p.programs.set k ((machine rt).step .done
            (.handling record (.saving draft requestId institution existing)) p.store).1 } := by
  have handles := (accounted.each _ (List.mem_of_getElem? found)).handles
  dsimp only [machine, requestDone, handlerDone]
  cases existing with
  | none =>
    obtain ⟨e, refused⟩ := saveLead_refused moved
    rw [refused]
    cases record <;> exact .inl rfl
  | some e =>
    obtain ⟨row, looked, own, front⟩ := handles.2 e rfl
    obtain ⟨inside, -⟩ := findLead_eq_some looked
    have there : p.store.invitationLeads.find? e.uuid = some row :=
      Table.find?_eq_some.mpr ⟨inside, own⟩
    have counted := accounted.counted row inside
    have shorter : e.recordRequestIds.length < row.recordRequestIds.length := by
      refine lt_of_le_of_ne front.length_le fun same => ?_
      have alike := front.eq_of_length same
      exact absurd moved (by simp [unmoved, looked, alike])
    have listed : (demanded (draft.lead rt requestId) e row).recordRequestIds.length ≤
        e.recordRequestIds.length + 1 := by
      refine (length_eraseDups_le _).trans ?_
      rw [List.length_append]
      rfl
    have demand : (demanded (draft.lead rt requestId) e row).demandCount =
        row.demandCount + 1 := rfl
    rw [saveLead_found there]
    refine .inr ⟨e.uuid, demanded (draft.lead rt requestId) e row,
      Table.find?_update_self there _ (demanded_uuid _ e), by omega, fun y placed e' is same => ?_⟩
    rcases List.mem_or_eq_of_mem_set placed with old | new
    · obtain ⟨row', inside', own', front'⟩ := (accounted.each y old).read is
      have alike := Table.eq_of_key_eq inside' inside ((own'.trans same).trans own.symm)
      have bounded := front'.length_le
      rw [alike] at bounded
      omega
    · rw [new] at is
      exact absurd ((read_under record _).symm.trans is) (by simp [Handled.read])

/-- What a call stores is lost with it. -/
theorem loses_under (record : Option Uuid) (e : ServiceError) (request : RecordRequest) :
    (under record (.threw e (some request))).loses = true := by
  cases record <;> rfl

/-- **A turn that does not go through loses something.** -/
theorem lost_turn {rt : Runtime} {p : Crowd Store Progress} {e : Turn RequestCall}
    (accounted : Accounted rt p) (unguarded : ¬ Guarded rt p e) : Lost ((machine rt).turn p e) := by
  cases e with
  | begin call => exact absurd trivial unguarded
  | advance k outcome =>
    cases found : p.programs[k]? with
    | none => exact absurd (by simp [Guarded, found]) unguarded
    | some x =>
      have stops : goesThrough rt outcome x p.store = false := by
        simpa [Guarded, found] using unguarded
      have opened : ∀ y ∈ p.programs, y.Opened := fun y there => (accounted.each y there).opened
      have loses : ((machine rt).step outcome x p.store).1.loses = true ∨
          Short
            { store := ((machine rt).step outcome x p.store).2
              programs := p.programs.set k ((machine rt).step outcome x p.store).1 } := by
        cases x with
        | handling record running =>
          cases outcome with
          | failed =>
            refine .inl ?_
            cases running with
            | coding | storing => exact absurd stops (by simp [goesThrough])
            | _ => exact loses_under record _ _
          | done =>
            cases running with
            | saving draft requestId institution existing =>
              exact moved_loses accounted found (by simpa [goesThrough] using stops)
            | _ => exact absurd stops (by simp [goesThrough])
        | marking uuid response stored =>
          cases outcome with
          | failed => exact .inl rfl
          | done => exact absurd stops (by simp [goesThrough])
        | _ => exact absurd stops (by simp [goesThrough])
      rw [Machine.turn_advance found]
      refine ⟨fun y inside => ?_, loses.imp_left fun is => ⟨_, ?_, is⟩⟩
      · rcases List.mem_or_eq_of_mem_set inside with old | new
        · exact opened y old
        · rw [new]
          exact opened_step rt outcome (opened x (List.mem_of_getElem? found)) p.store
      · obtain ⟨before, -⟩ := List.getElem?_eq_some_iff.mp found
        exact List.mem_set before _

theorem tallied_of_accounted {rt : Runtime} {p : Crowd Store Progress}
    (accounted : Accounted rt p) : Tallied rt p where
  succeeds x inside := (accounted.each x inside).keeps
  counted := accounted.counted
  listed lead inside id := by
    have tally := accounted.tally lead.institutionNameKey id
    have ids : leadIds lead.institutionNameKey p.store = lead.recordRequestIds := by
      unfold leadIds
      rw [accounted.keys lead inside]
      rfl
    rw [ids] at tally
    rw [← awaitedIn_eq_zero, ← List.count_pos_iff]
    split_ifs at tally with is
    · rw [is, eq_self_iff_true, true_and]
      omega
    · rw [Bool.not_eq_true] at is
      rw [is]
      simp only [Bool.false_eq_true, false_and, iff_false]
      omega

theorem not_tallied_of_lost {rt : Runtime} {p : Crowd Store Progress} (lost : Lost p) :
    ¬ Tallied rt p := by
  intro tallied
  rcases lost.loses with ⟨x, inside, loses⟩ | ⟨uuid, row, found, less, -⟩
  · rw [tallied.succeeds x inside] at loses
    exact Bool.false_ne_true loses
  · have counted := tallied.counted row (Table.find?_mem found)
    omega

/-- **The leads are tallied** at the end of a run exactly when every call to the database that
follows the storing of a request goes through, and finds the lead of its institution as it was when
it was looked up. -/
theorem tallied_iff (rt : Runtime) (start : Store) (sound : Sound rt start)
    (turns : List (Turn RequestCall)) :
    Tallied rt (runs (machine rt).turn ⟨start, []⟩ turns) ↔
      Along (machine rt).turn (Guarded rt) ⟨start, []⟩ turns := by
  have opening : Accounted rt ⟨start, []⟩ :=
    ⟨sound.keys, sound.counted, fun _ inside => absurd inside (by simp), sound.tally⟩
  exact runs_iff_of_trap (fun _ _ => accounted_turn) (fun _ => tallied_of_accounted)
    (fun _ _ => lost_turn) (fun _ e => lost_stays rt e) (fun _ => not_tallied_of_lost) opening turns

/-! ### Two requests for the same new lead -/

instance (rt : Runtime) (p : Crowd Store Progress) : (e : Turn RequestCall) →
    Decidable (Guarded rt p e)
  | .begin _ => isTrue trivial
  | .advance _ _ => inferInstanceAs (Decidable (_ = true))

def callOf (name : String) : RequestCall where
  env :=
    { now := 0, codedAt := 0, createdAt := 0, requestedAt := 0, suffix := fun _ => name,
      requestUuid := "request-" ++ name, leadUuid := "lead-" ++ name,
      recordUuid := "record-" ++ name }
  auth := Separation.learner name
  body := Separation.requestBody
  idempotencyKey := none

theorem sound_bothLearners : Sound .plain Separation.bothLearners where
  keys lead inside := absurd inside (by simp [Separation.bothLearners, Store.empty])
  counted lead inside := absurd inside (by simp [Separation.bothLearners, Store.empty])
  tally _ _ := rfl

/-- The next calls to the database of a request. -/
def advances (k n : ℕ) : List (Turn RequestCall) :=
  List.replicate n (.advance k .done)

/-- One request, from its code to the log entry of its lead. -/
theorem tallied_alone :
    Tallied .plain (runs (machine .plain).turn ⟨Separation.bothLearners, []⟩
      (.begin (callOf "ada") :: advances 0 6)) :=
  (tallied_iff .plain Separation.bothLearners sound_bothLearners _).mpr (by decide)

/-- A call that names no registered institution, or a call to the database that goes through. -/
def Plain (rt : Runtime) : Turn RequestCall → Prop
  | .begin call => ∀ learnerId input, acceptBody rt call.auth call.body = .ok (learnerId, input) →
      input.institutionId = none
  | .advance _ outcome => outcome = .done

/-- Both requests are stored before either looks its lead up, and both look it up before either
writes it. -/
def race : List (Turn RequestCall) :=
  [.begin (callOf "ada"), .begin (callOf "ben")] ++ advances 0 4 ++ advances 1 4 ++ advances 0 2 ++
    advances 1 1

theorem plain_callOf (name : String) : Plain .plain (.begin (callOf name)) := by
  intro learnerId input accepted
  have both := (Separation.acceptBody_requestBody name).symm.trans accepted
  obtain ⟨-, rfl⟩ := Prod.mk.inj (Except.ok.inj both)
  rfl

theorem plain_race : ∀ e ∈ race, Plain .plain e := by
  intro e inside
  simp only [race, advances, List.mem_append, List.mem_cons, List.mem_replicate, List.not_mem_nil,
    or_false] at inside
  rcases inside with ((((rfl | rfl) | ⟨-, rfl⟩) | ⟨-, rfl⟩) | ⟨-, rfl⟩) | ⟨-, rfl⟩
  · exact plain_callOf "ada"
  · exact plain_callOf "ben"
  all_goals rfl

/-- **The second of two requests for the same new lead is stored, and its call fails.** -/
theorem tallied_fails :
    ¬ ∀ (rt : Runtime) (start : Store) (turns : List (Turn RequestCall)), Sound rt start →
      (∀ e ∈ turns, Plain rt e) →
        (∀ x ∈ (runs (machine rt).turn ⟨start, []⟩ turns).programs, x.ended.isSome = true) →
          Tallied rt (runs (machine rt).turn ⟨start, []⟩ turns) := by
  intro all
  have tallied := all .plain Separation.bothLearners race sound_bothLearners plain_race (by decide)
  have loses : ¬ ∀ x ∈ (runs (machine .plain).turn ⟨Separation.bothLearners, []⟩ race).programs,
      x.loses = false := by decide
  exact loses tallied.succeeds

end AcadID.RequestRuns
