/-
**A rollover previewed, confirmed, and previewed again.**

`previewRollover` lists the active enrolments of a session with the decision it recommends, and
marks those that have a rollover record already.

* `previewRead` — what the call reads; `previewRollover` — the call, with its log entry.
* `candidates_of_whole` — **what is listed**: the enrolments that a confirmation may name.
* `confirm_iff_previewed` — **a confirmation that follows a whole preview goes through exactly when
  all it names is listed and unmarked**, a target session is given where the students go on, and no
  student has an enrolment of the status to come already.
* `previewed_again` — **once all unmarked candidates have gone on elsewhere, a preview lists marked
  ones alone**.
-/

import AcadID.Gateway.RolloverEffect
import AcadID.Gateway.ScopeOptions

namespace AcadID.RolloverPreview

open Lib Rollovers Progression ScopeOptions

/-! ### The service -/

structure PreviewRolloverInput where
  institutionId : String
  fromSessionId : Uuid
  toSessionId : Option Uuid
  fromStructureId : Option Uuid
  toStructureId : Option Uuid
  decision : RolloverDecision
  enrolmentIds : Option (List Uuid)
  limit : ℤ

open Schema in
def previewRolloverSchema (rt : Runtime) : Schema PreviewRolloverInput :=
  let uuid := string [formatted rt.isUuid]
  object fun v =>
    PreviewRolloverInput.mk
      <$> field v "institutionId" (string [minLength 1])
      <*> field v "fromSessionId" uuid
      <*> field v "toSessionId" (optional uuid)
      <*> field v "fromStructureId" (optional uuid)
      <*> field v "toStructureId" (optional uuid)
      <*> field v "decision" (withDefault .promoted (enum rolloverDecisions))
      <*> field v "enrolmentIds" (optional (array uuid [maxItems 500]))
      <*> field v "limit" (withDefault 200 (integer [atLeast 1, atMost 500]))

/-- The order of the listed enrolments, by level and student number, and that of the records of one
of them, which is the database's own. -/
structure PreviewEnv where
  pick : ℕ
  enrolmentOrder : RowOrder Enrolment
  recordOrder : RowOrder RolloverRecord

structure FromStructure where
  id : Uuid
  type : AcademicStructureType
  name : String
  code : Option String

structure ExistingRollover where
  uuid : Uuid
  decision : RolloverDecision
  status : RolloverStatus

structure RolloverCandidate where
  enrolmentId : Uuid
  learnerId : Uuid
  ain : String
  learnerName : String
  studentNumber : String
  currentLevel : String
  currentProgramme : String
  fromSessionId : Option Uuid
  fromStructure : Option FromStructure
  recommendedDecision : RolloverDecision
  toSessionId : Option Uuid
  toStructureId : Option Uuid
  blockedByExistingRollover : Option ExistingRollover

/-- The active enrolments of the source session, of a structure and of a list where one is given. -/
def isPreviewed (institutionId : Uuid) (input : PreviewRolloverInput) (e : Enrolment) : Bool :=
  e.institutionId == institutionId && e.academicSessionId == some input.fromSessionId &&
    e.status == .active && (input.fromStructureId.all fun id => e.structureScopeId == some id) &&
      input.enrolmentIds.all fun ids => ids.contains e.uuid

/-- The rollover records of an enrolment from the source session, pending or approved. -/
def openRollovers (s : Store) (fromSessionId enrolmentId : Uuid) : List RolloverRecord :=
  s.rolloverRecords.rows.filter fun record =>
    record.enrolmentId == some enrolmentId && record.fromSessionId == fromSessionId &&
      [RolloverStatus.pendingRollover, .approved].contains record.status

def candidate (env : PreviewEnv) (input : PreviewRolloverInput) (s : Store) (e : Enrolment) :
    Except ServiceError RolloverCandidate := do
  let learner ← orThrow (s.learners.find? e.learnerId) .database
  let structureScope := e.structureScopeId.bind s.academicStructures.find?
  let rolloverRecords := env.recordOrder.sort (openRollovers s input.fromSessionId e.uuid)
  return {
    enrolmentId := e.uuid
    learnerId := e.learnerId
    ain := learner.ain
    learnerName := learner.fullName
    studentNumber := e.studentNumber
    currentLevel := e.level
    currentProgramme := e.programme
    fromSessionId := e.academicSessionId
    fromStructure := structureScope.map fun row => ⟨row.uuid, row.type, row.name, row.code⟩
    recommendedDecision := input.decision
    toSessionId := input.toSessionId
    toStructureId := input.toStructureId
    blockedByExistingRollover :=
      rolloverRecords.head?.map fun record => ⟨record.uuid, record.decision, record.status⟩ }

/-- What a preview has read. -/
structure Preview where
  input : PreviewRolloverInput
  institution : Institution
  candidates : List RolloverCandidate

def previewRead (rt : Runtime) (env : PreviewEnv) (auth : AuthTokenPayload) (body : Json)
    (s : Store) : Except ServiceError Preview := do
  let input ← parseBody (previewRolloverSchema rt) body
  let institution ←
    Institutions.resolveHumanInstitution humanOnly auth input.institutionId env.pick s
  assertRolloverScope institution.uuid input.fromSessionId input.toSessionId input.fromStructureId
    input.toStructureId s
  let enrolments := (env.enrolmentOrder.sort
    (s.enrolments.rows.filter (isPreviewed institution.uuid input))).take input.limit.toNat
  let candidates ← enrolments.mapM (candidate env input s)
  return {
    input := input
    institution := institution
    candidates := candidates }

def previewAudit (auth : AuthTokenPayload) (preview : Preview) : AuditEvent where
  actorType := inferActorType none (some auth.sub)
  actorId := some auth.sub
  actorRole := some auth.role
  action := "rollover.preview"
  targetType := "AcademicSession"
  targetId := some preview.input.fromSessionId
  institutionId := some preview.institution.uuid
  outcome := "SUCCESS"
  reason := none
  metadata := Json.fields
    [("candidateCount", some (.num preview.candidates.length)),
      ("fromStructureId", preview.input.fromStructureId.map .str),
      ("toSessionId", preview.input.toSessionId.map .str),
      ("toStructureId", preview.input.toStructureId.map .str)]

structure PreviewResponse where
  accepted : Bool
  institutionId : String
  fromSessionId : Uuid
  toSessionId : Option Uuid
  count : ℕ
  candidates : List RolloverCandidate

def Preview.response (preview : Preview) : PreviewResponse where
  accepted := true
  institutionId := preview.institution.institutionId
  fromSessionId := preview.input.fromSessionId
  toSessionId := preview.input.toSessionId
  count := preview.candidates.length
  candidates := preview.candidates

def previewRollover (rt : Runtime) (env : PreviewEnv) (auth : AuthTokenPayload) (body : Json) :
    Db PreviewResponse := do
  let preview ← Db.read (previewRead rt env auth body)
  Db.audit (previewAudit auth preview)
  return preview.response

/-! ### What is listed -/

section Listed

variable {rt : Runtime} {env : PreviewEnv} {auth : AuthTokenPayload} {body : Json} {s : Store}
  {preview : Preview} {input : PreviewRolloverInput} {e : Enrolment} {c : RolloverCandidate}

/-- What a preview has read of the store. -/
structure Read (rt : Runtime) (env : PreviewEnv) (auth : AuthTokenPayload) (body : Json) (s : Store)
    (preview : Preview) : Prop where
  parsed : previewRolloverSchema rt (some body) = .valid preview.input
  resolved : Institutions.resolveHumanInstitution humanOnly auth preview.input.institutionId
    env.pick s = .ok preview.institution
  scope : assertRolloverScope preview.institution.uuid preview.input.fromSessionId
    preview.input.toSessionId preview.input.fromStructureId preview.input.toStructureId s = .ok ()
  listed : List.Forall₂ (fun e c => candidate env preview.input s e = .ok c)
    ((env.enrolmentOrder.sort (s.enrolments.rows.filter
      (isPreviewed preview.institution.uuid preview.input))).take preview.input.limit.toNat)
    preview.candidates

theorem read_of_previewRead (reads : previewRead rt env auth body s = .ok preview) :
    Read rt env auth body s preview := by
  obtain ⟨input, parsed, rest⟩ := bind_eq_ok.mp reads
  obtain ⟨institution, resolved, rest⟩ := bind_eq_ok.mp rest
  obtain ⟨⟨⟩, scope, rest⟩ := bind_eq_ok.mp rest
  obtain ⟨candidates, listed, same⟩ := bind_eq_ok.mp rest
  obtain rfl := pure_eq_ok.mp same
  exact ⟨parseBody_eq_ok.mp parsed, resolved, scope, mapM_eq_ok.mp listed⟩

/-- **A preview that answers** has read the store, and leaves it but for its log entry. -/
theorem previewRollover_spec {script : List Outcome} {response : PreviewResponse}
    (previewed : (previewRollover rt env auth body script s).result = .ok response) :
    ∃ preview, Read rt env auth body s preview ∧ response = preview.response ∧
      (previewRollover rt env auth body script s).store = s.audit (previewAudit auth preview) := by
  unfold previewRollover at previewed ⊢
  rw [Db.read_bind] at previewed ⊢
  cases first : (Async.next script).1 with
  | failed =>
    rw [first] at previewed
    exact absurd previewed (by simp)
  | done =>
    rw [first] at previewed
    cases reads : previewRead rt env auth body s with
    | error e =>
      rw [reads] at previewed
      exact absurd previewed (by simp)
    | ok preview =>
      rw [reads] at previewed
      dsimp only at previewed ⊢
      rw [Db.audit_bind] at previewed ⊢
      cases second : (Async.next (Async.next script).2).1 with
      | failed =>
        rw [second] at previewed
        exact absurd previewed (by simp)
      | done =>
        rw [second] at previewed
        exact ⟨preview, read_of_previewRead reads, (Except.ok.inj previewed).symm, rfl⟩

/-- A candidate is its enrolment, marked if there is a record of it. -/
theorem candidate_spec (listed : candidate env input s e = .ok c) :
    c.enrolmentId = e.uuid ∧
      (c.blockedByExistingRollover = none ↔ openRollovers s input.fromSessionId e.uuid = []) := by
  obtain ⟨learner, -, same⟩ := bind_eq_ok.mp listed
  obtain rfl := pure_eq_ok.mp same
  refine ⟨rfl, ?_⟩
  have ordered := env.recordOrder.perm (openRollovers s input.fromSessionId e.uuid)
  rw [Option.map_eq_none_iff, List.head?_eq_none_iff]
  constructor
  · intro none
    rw [none] at ordered
    exact List.nil_perm.mp ordered
  · intro none
    rw [none] at ordered ⊢
    exact List.perm_nil.mp ordered

/-- The preview lists all that it may: no list is given, and the limit is not reached. -/
structure Whole (input : PreviewRolloverInput) (count : ℕ) : Prop where
  unlisted : input.enrolmentIds = none
  below : (count : ℤ) < input.limit

/-- **What a whole preview lists**: the previewed enrolments. -/
theorem candidates_of_whole (read : Read rt env auth body s preview)
    (whole : Whole preview.input preview.candidates.length) :
    List.Forall₂ (fun e c => candidate env preview.input s e = .ok c)
      (env.enrolmentOrder.sort (s.enrolments.rows.filter
        (isPreviewed preview.institution.uuid preview.input))) preview.candidates := by
  have listed := read.listed
  have long := listed.length_eq
  have below := whole.below
  rw [List.length_take] at long
  rw [List.take_of_length_le (by omega)] at listed
  exact listed

theorem mem_sorted {institutionId : Uuid} :
    e ∈ env.enrolmentOrder.sort (s.enrolments.rows.filter (isPreviewed institutionId input)) ↔
      e ∈ s.enrolments.rows ∧ isPreviewed institutionId input e = true := by
  rw [(env.enrolmentOrder.perm _).mem_iff, List.mem_filter]

theorem exists_of_forall₂ {α β : Type} {R : α → β → Prop} {as : List α} {bs : List β} {a : α}
    (related : List.Forall₂ R as bs) (inside : a ∈ as) : ∃ b ∈ bs, R a b := by
  obtain ⟨i, inAs, rfl⟩ := List.mem_iff_getElem.mp inside
  have inBs : i < bs.length := related.length_eq ▸ inAs
  exact ⟨bs[i], List.getElem_mem inBs, related.get inAs inBs⟩

/-- The enrolment of an id is listed and unmarked exactly when a confirmation may name it. -/
theorem unmarked_iff (read : Read rt env auth body s preview)
    (whole : Whole preview.input preview.candidates.length) (id : Uuid) :
    (∃ c ∈ preview.candidates, c.enrolmentId = id ∧ c.blockedByExistingRollover = none) ↔
      (∃ e ∈ s.enrolments.rows, e.uuid = id ∧
        isPreviewed preview.institution.uuid preview.input e = true) ∧
        openRollovers s preview.input.fromSessionId id = [] := by
  have listed := candidates_of_whole read whole
  constructor
  · rintro ⟨c, inside, rfl, unmarked⟩
    obtain ⟨e, there, of⟩ := exists_of_forall₂ listed.flip inside
    obtain ⟨is, marked⟩ := candidate_spec of
    obtain ⟨row, meets⟩ := mem_sorted.mp there
    rw [is]
    exact ⟨⟨e, row, rfl, meets⟩, marked.mp unmarked⟩
  · rintro ⟨⟨e, row, rfl, meets⟩, unrolled⟩
    obtain ⟨c, inside, of⟩ := exists_of_forall₂ listed (mem_sorted.mpr ⟨row, meets⟩)
    obtain ⟨is, marked⟩ := candidate_spec of
    exact ⟨c, inside, is, marked.mpr unrolled⟩

end Listed

/-! ### What a confirmation asks -/

/-- The confirmation is of what the preview was of. -/
structure Follows (input : PreviewRolloverInput) (confirm : ConfirmRolloverInput) : Prop where
  institution : confirm.institutionId = input.institutionId
  source : confirm.fromSessionId = input.fromSessionId
  fromStructure : confirm.fromStructureId = input.fromStructureId

/-- The confirmation takes the decision that the preview recommends, into the same session and
structure. -/
structure Recommended (input : PreviewRolloverInput) (confirm : ConfirmRolloverInput) : Prop
    extends Follows input confirm where
  toSession : confirm.toSessionId = input.toSessionId
  toStructure : confirm.toStructureId = input.toStructureId
  decisions : ∀ d ∈ confirm.decisions,
    d.decision = input.decision ∧ d.toSessionId = none ∧ d.toStructureId = none

section Check

variable {rt : Runtime} {env : PreviewEnv} {call : RolloverCall} {body : Json} {s : Store}
  {preview : Preview} {input : PreviewRolloverInput} {confirm : ConfirmRolloverInput}

/-- What the checks of a confirmation plan. -/
def planOf (call : RolloverCall) (confirm : ConfirmRolloverInput) (institution : Institution)
    (s : Store) : RolloverPlan where
  env := call.env
  auth := call.auth
  input := confirm
  institution := institution
  enrolments := eligibleEnrolments s institution.uuid confirm

/-- No record of the named enrolments is open exactly when none of any of them is. -/
theorem duplicateIds_eq_nil : duplicateIds s confirm = [] ↔
    ∀ id ∈ confirm.enrolmentIds, openRollovers s confirm.fromSessionId id = [] := by
  unfold duplicateIds openRollovers
  rw [List.filterMap_eq_nil_iff]
  simp only [List.filter_eq_nil_iff, List.mem_filter, Bool.and_eq_true, Option.any_eq_true,
    List.contains_iff_mem, beq_iff_eq]
  constructor
  · rintro none id inside record there ⟨⟨of, source⟩, open_⟩
    have unset := none record ⟨there, ⟨⟨id, of, inside⟩, source⟩, open_⟩
    rw [of] at unset
    exact absurd unset (by simp)
  · rintro none record ⟨there, ⟨⟨id, of, inside⟩, source⟩, open_⟩
    exact absurd ⟨⟨of, source⟩, open_⟩ (none id inside record there)

/-- Nothing is missing exactly when every id has its enrolment. -/
theorem named_iff {ids : List Uuid} {enrolments : List Enrolment} :
    (ids.filter fun id => !enrolments.any (·.uuid == id)).isEmpty = true ↔
      ∀ id ∈ ids, ∃ e ∈ enrolments, e.uuid = id := by
  rw [List.isEmpty_iff, List.filter_eq_nil_iff]
  simp only [Bool.not_eq_true, Bool.not_eq_false', List.any_eq_true, beq_iff_eq]

/-- An enrolment that the decisions may name. -/
theorem eligible_iff (follows : Follows input confirm) (unlisted : input.enrolmentIds = none)
    {institutionId id : Uuid} (named : id ∈ confirm.enrolmentIds) :
    (∃ e ∈ eligibleEnrolments s institutionId confirm, e.uuid = id) ↔
      ∃ e ∈ s.enrolments.rows, e.uuid = id ∧ isPreviewed institutionId input e = true := by
  have meets : ∀ e : Enrolment, e.uuid = id →
      ((confirm.enrolmentIds.contains e.uuid && e.institutionId == institutionId &&
        e.academicSessionId == some confirm.fromSessionId && e.status == .active &&
          confirm.fromStructureId.all fun structureId => e.structureScopeId == some structureId) =
        isPreviewed institutionId input e) := by
    intro e is
    have has : confirm.enrolmentIds.contains e.uuid = true := by
      rw [is]
      exact List.contains_iff_mem.mpr named
    unfold isPreviewed
    rw [has, unlisted, follows.source, follows.fromStructure, Bool.true_and, Option.all_none,
      Bool.and_true]
  unfold eligibleEnrolments
  constructor
  · rintro ⟨e, inside, is⟩
    obtain ⟨row, passes⟩ := List.mem_filter.mp inside
    exact ⟨e, row, is, (meets e is).symm.trans passes⟩
  · rintro ⟨e, row, is, passes⟩
    exact ⟨e, List.mem_filter.mpr ⟨row, (meets e is).trans passes⟩, is⟩

/-- A decision that is recommended has its target where the preview has one. -/
theorem target_iff {institutionId : Uuid} (decision : RolloverDecision)
    {toSessionId fromStructureId toStructureId : Option Uuid} {fromSessionId : Uuid}
    (scope : assertRolloverScope institutionId fromSessionId toSessionId fromStructureId
      toStructureId s = .ok ()) :
    assertDecisionTarget institutionId decision toSessionId toStructureId s = .ok () ↔
      (goesOn decision = true → toSessionId.isSome = true) := by
  obtain ⟨⟨⟩, -, rest⟩ := bind_eq_ok.mp scope
  obtain ⟨⟨⟩, toSession, rest⟩ := bind_eq_ok.mp rest
  obtain ⟨⟨⟩, -, toStructure⟩ := bind_eq_ok.mp rest
  unfold assertDecisionTarget
  split_ifs with on
  · constructor
    · intro has
      obtain ⟨target, is, -⟩ := bind_eq_ok.mp has
      rw [orThrow_eq_ok.mp is]
      exact fun _ => rfl
    · intro has
      obtain ⟨target, is⟩ := Option.isSome_iff_exists.mp (has on)
      rw [require_eq_ok, is, Option.all_some] at toSession
      refine bind_eq_ok.mpr ⟨target, orThrow_eq_ok.mpr is, ?_⟩
      refine bind_eq_ok.mpr ⟨(), require_eq_ok.mpr toSession, ?_⟩
      refine bind_eq_ok.mpr ⟨(), require_eq_ok.mpr toSession, ?_⟩
      exact bind_eq_ok.mpr ⟨(), rfl, toStructure⟩
  · exact iff_of_true rfl fun goes => absurd goes on

/-- **What passes the checks of a confirmation** that follows a preview as it recommends. -/
theorem check_iff (read : Read rt env call.auth body s preview)
    (whole : Whole preview.input preview.candidates.length)
    (parsed : confirmRolloverSchema rt (some call.body) = .valid confirm)
    (recommended : Recommended preview.input confirm) (pick : call.env.pick = env.pick)
    (plan : RolloverPlan) :
    (confirmRollover rt).check call s = .ok plan ↔
      plan = planOf call confirm preview.institution s ∧ ∀ d ∈ confirm.decisions,
        (∃ c ∈ preview.candidates, c.enrolmentId = d.enrolmentId ∧
          c.blockedByExistingRollover = none) ∧
        (goesOn preview.input.decision = true → preview.input.toSessionId.isSome = true) := by
  have resolved : Institutions.resolveHumanInstitution humanOnly call.auth confirm.institutionId
      call.env.pick s = .ok preview.institution := by
    rw [recommended.institution, pick]
    exact read.resolved
  have scope : assertRolloverScope preview.institution.uuid confirm.fromSessionId
      confirm.toSessionId confirm.fromStructureId confirm.toStructureId s = .ok () := by
    rw [recommended.source, recommended.toSession, recommended.fromStructure,
      recommended.toStructure]
    exact read.scope
  have target : ∀ d ∈ confirm.decisions, assertDecisionTarget preview.institution.uuid d.decision
      (d.toSessionId.or confirm.toSessionId) (d.toStructureId.or confirm.toStructureId) s =
        .ok () ↔ (goesOn preview.input.decision = true →
          preview.input.toSessionId.isSome = true) := by
    intro d inside
    obtain ⟨decision, ownSession, ownStructure⟩ := recommended.decisions d inside
    rw [ownSession, ownStructure, Option.none_or, Option.none_or, decision,
      recommended.toSession, recommended.toStructure]
    exact target_iff preview.input.decision read.scope
  have eligible : ∀ d ∈ confirm.decisions,
      ((∃ c ∈ preview.candidates, c.enrolmentId = d.enrolmentId ∧
          c.blockedByExistingRollover = none) ↔
        (∃ e ∈ eligibleEnrolments s preview.institution.uuid confirm, e.uuid = d.enrolmentId) ∧
          openRollovers s confirm.fromSessionId d.enrolmentId = []) := by
    intro d inside
    rw [unmarked_iff read whole, recommended.source,
      eligible_iff recommended.toFollows whole.unlisted (List.mem_map_of_mem inside)]
  constructor
  · intro checked
    obtain ⟨input, valid, rest⟩ := bind_eq_ok.mp checked
    obtain rfl : input = confirm := by
      have same := (parseBody_eq_ok.mp valid).symm.trans parsed
      exact Lib.Checked.valid.inj same
    obtain ⟨institution, found, rest⟩ := bind_eq_ok.mp rest
    obtain rfl := Except.ok.inj (found.symm.trans resolved)
    obtain ⟨⟨⟩, -, rest⟩ := bind_eq_ok.mp rest
    obtain ⟨⟨⟩, named, rest⟩ := bind_eq_ok.mp rest
    obtain ⟨⟨⟩, unrolled, rest⟩ := bind_eq_ok.mp rest
    obtain ⟨⟨⟩, targets, same⟩ := bind_eq_ok.mp rest
    rw [require_eq_ok, named_iff] at named
    rw [require_eq_ok, List.isEmpty_iff, duplicateIds_eq_nil] at unrolled
    refine ⟨(pure_eq_ok.mp same).symm, fun d inside => ⟨(eligible d inside).mpr ⟨?_, ?_⟩, ?_⟩⟩
    · exact named d.enrolmentId (List.mem_map_of_mem inside)
    · exact unrolled d.enrolmentId (List.mem_map_of_mem inside)
    · exact (target d inside).mp (forM_eq_ok.mp targets d inside)
  · rintro ⟨rfl, all⟩
    refine bind_eq_ok.mpr ⟨confirm, parseBody_eq_ok.mpr parsed, ?_⟩
    refine bind_eq_ok.mpr ⟨preview.institution, resolved, ?_⟩
    refine bind_eq_ok.mpr ⟨(), scope, ?_⟩
    refine bind_eq_ok.mpr ⟨(), require_eq_ok.mpr (named_iff.mpr fun id inside => ?_), ?_⟩
    · obtain ⟨d, of, rfl⟩ := List.mem_map.mp inside
      exact ((eligible d of).mp (all d of).1).1
    refine bind_eq_ok.mpr ⟨(), require_eq_ok.mpr ?_, ?_⟩
    · rw [List.isEmpty_iff, duplicateIds_eq_nil]
      intro id inside
      obtain ⟨d, of, rfl⟩ := List.mem_map.mp inside
      exact ((eligible d of).mp (all d of).1).2
    · exact bind_eq_ok.mpr ⟨(), forM_eq_ok.mpr fun d of => (target d of).mpr (all d of).2, rfl⟩

end Check

/-! ### The transaction -/

/-- The student of a candidate has no enrolment of the status. -/
def Unoccupied (s : Store) (c : RolloverCandidate) (status : EnrolmentStatus) : Prop :=
  ∀ e, s.enrolments.find? c.enrolmentId = some e →
    IsFree s e.institutionId e.studentNumber status

/-- The store meets the schema's constraints, the decisions name different enrolments, and the ids
that the transaction draws are new. -/
structure Prepared (env : RolloverEnv) (confirm : ConfirmRolloverInput) (s : Store) : Prop where
  constraints : Constraints s
  distinct : confirm.enrolmentIds.Nodup
  rolloverIds : FreshIds env.rolloverUuid (s.rolloverRecords.rows.map (·.uuid)) 0
    confirm.decisions.length
  enrolmentIds : FreshIds env.enrolmentUuid (s.enrolments.rows.map (·.uuid)) 0
    confirm.decisions.length

section Transaction

variable {s : Store}

/-- A session or a structure of the scope exists. -/
theorem exists_of_scope {institutionId fromSessionId : Uuid}
    {toSessionId fromStructureId toStructureId : Option Uuid}
    (scope : assertRolloverScope institutionId fromSessionId toSessionId fromStructureId
      toStructureId s = .ok ()) :
    (s.academicSessions.find? fromSessionId).isSome ∧
      (∀ id, toSessionId = some id → (s.academicSessions.find? id).isSome) ∧
        ∀ id, toStructureId = some id → (s.academicStructures.find? id).isSome := by
  have found : ∀ {α : Type} {row : Option α} {p : α → Bool}, row.any p = true →
      row.isSome = true := by
    intro α row p any
    obtain ⟨a, is, -⟩ := (Option.any_eq_true _ _).mp any
    rw [is]
    rfl
  obtain ⟨⟨⟩, source, rest⟩ := bind_eq_ok.mp scope
  obtain ⟨⟨⟩, toSession, rest⟩ := bind_eq_ok.mp rest
  obtain ⟨⟨⟩, -, toStructure⟩ := bind_eq_ok.mp rest
  rw [require_eq_ok] at source toSession toStructure
  refine ⟨found source, fun id is => ?_, fun id is => ?_⟩
  · exact found ((Option.all_eq_true _ _).mp toSession id is)
  · exact found ((Option.all_eq_true _ _).mp toStructure id is)

/-- A confirmation that has passed its checks finds the store ready. -/
theorem ready_of_planned {plan : RolloverPlan} (planned : Planned plan s)
    (own : ∀ d ∈ plan.input.decisions, d.toSessionId = none ∧ d.toStructureId = none)
    (prepared : Prepared plan.env plan.input s) :
    Ready plan 0 plan.input.decisions s := by
  obtain ⟨source, toSession, toStructure⟩ := exists_of_scope planned.scope
  refine ⟨prepared.constraints, source, fun d inside => ?_, prepared.distinct,
    fun d inside => ?_, prepared.rolloverIds, prepared.enrolmentIds⟩
  · obtain ⟨e, eligible, is⟩ := planned.named d.enrolmentId (List.mem_map_of_mem inside)
    obtain ⟨e', read⟩ : ∃ e', plan.enrolmentById d.enrolmentId = some e' := by
      unfold RolloverPlan.enrolmentById
      rw [← Option.isSome_iff_exists, List.find?_isSome]
      exact ⟨e, eligible, beq_iff_eq.mpr is⟩
    obtain ⟨there, -⟩ := enrolmentById_spec read
    rw [planned.enrolments] at there
    obtain ⟨row, ofInstitution, -, active⟩ := mem_eligible there
    exact ⟨e', read, Table.find?_eq_some.mpr ⟨row, rfl⟩, ofInstitution, active⟩
  · obtain ⟨ownSession, ownStructure⟩ := own d inside
    unfold Targets RolloverPlan.toSessionId
    rw [ownSession, ownStructure, Option.none_or, Option.none_or]
    exact ⟨toSession, toStructure⟩

/-- A decision is writable when its candidate is unoccupied. -/
theorem writable_iff {plan : RolloverPlan} (ready : Ready plan 0 plan.input.decisions s)
    {d : RolloverDecisionInput} (inside : d ∈ plan.input.decisions) {c : RolloverCandidate}
    (is : c.enrolmentId = d.enrolmentId) :
    Writable plan d s ↔ Unoccupied s c (enrolmentStatusForDecision d.decision) := by
  obtain ⟨e, read, found, -⟩ := ready.named d inside
  rw [(enrolmentById_spec read).2, ← is] at found
  unfold Writable Unoccupied
  rw [read, found]

end Transaction

/-! ### One student promoted, another one pending -/

def pendingEnrolment : Enrolment where
  uuid := "30000000-0000-4000-8000-000000000009"
  learnerId := "40000000-0000-4000-8000-000000000001"
  institutionId := "10000000-0000-4000-8000-000000000001"
  academicSessionId := some (sessionAt 0).uuid
  structureScopeId := none
  studentNumber := "S-2"
  level := "JSS 1"
  programme := "Science"
  entryDate := 0
  exitDate := none
  exitType := none
  status := .active

def pendingRollover : RolloverRecord where
  uuid := "c0000000-0000-4000-8000-000000000009"
  institutionId := pendingEnrolment.institutionId
  learnerId := pendingEnrolment.learnerId
  enrolmentId := some pendingEnrolment.uuid
  fromSessionId := (sessionAt 0).uuid
  toSessionId := none
  fromStructureId := none
  toStructureId := none
  decision := .transferredOut
  status := .pendingRollover
  reason := none
  createdById := none
  approvedById := none
  disputeId := none
  approvedAt := none
  disputedAt := none
  disputeResolutionNote := none

/-- The school of the promotions, with an enrolment that has a rollover record. -/
def pendingSchool : Store :=
  { threeSessions with
    learners := .single
      ⟨"40000000-0000-4000-8000-000000000001", "AIN-00001", "First Student", 0, none, .verified⟩
    enrolments := threeSessions.enrolments.upsert pendingEnrolment
    rolloverRecords := .single pendingRollover }

def schoolEnv : PreviewEnv :=
  ⟨0, storeOrder Enrolment, storeOrder RolloverRecord⟩

/-- A preview of the promotion. -/
def promotionBody : Json :=
  .obj [("institutionId", .str "ACD-0001"), ("fromSessionId", .str (sessionAt 0).uuid),
    ("toSessionId", .str (sessionAt 1).uuid)]

def promotionInput : PreviewRolloverInput where
  institutionId := "ACD-0001"
  fromSessionId := (sessionAt 0).uuid
  toSessionId := some (sessionAt 1).uuid
  fromStructureId := none
  toStructureId := none
  decision := .promoted
  enrolmentIds := none
  limit := 200

def promotionConfirm : ConfirmRolloverInput where
  institutionId := "ACD-0001"
  fromSessionId := (sessionAt 0).uuid
  toSessionId := some (sessionAt 1).uuid
  fromStructureId := none
  toStructureId := none
  decisions := [⟨enrolmentAt 0, .promoted, none, none, none⟩]

def candidateOf (enrolmentId : Uuid) (studentNumber : String)
    (blockedByExistingRollover : Option ExistingRollover) : RolloverCandidate where
  enrolmentId := enrolmentId
  learnerId := "40000000-0000-4000-8000-000000000001"
  ain := "AIN-00001"
  learnerName := "First Student"
  studentNumber := studentNumber
  currentLevel := "JSS 1"
  currentProgramme := "Science"
  fromSessionId := some (sessionAt 0).uuid
  fromStructure := none
  recommendedDecision := .promoted
  toSessionId := some (sessionAt 1).uuid
  toStructureId := none
  blockedByExistingRollover := blockedByExistingRollover

def promotionResponse : PreviewResponse where
  accepted := true
  institutionId := "ACD-0001"
  fromSessionId := (sessionAt 0).uuid
  toSessionId := some (sessionAt 1).uuid
  count := 2
  candidates :=
    [candidateOf (enrolmentAt 0) "S-1" none,
      candidateOf pendingEnrolment.uuid "S-2"
        (some ⟨pendingRollover.uuid, .transferredOut, .pendingRollover⟩)]

theorem prepared_promotion : Prepared (promotion 0).env promotionConfirm pendingSchool :=
  ⟨⟨by decide, by decide, by decide, by decide⟩, by decide, by decide, by decide⟩

/-! ### The results -/

/-- **A confirmation that follows a whole preview as it recommends goes through exactly when** all
that it names is listed and unmarked, no student among them has an enrolment of the status to come,
and there is a target session where the students go on. -/
theorem confirm_iff_previewed (rt : Runtime) (env : PreviewEnv) (call : RolloverCall) (body : Json)
    (script : List Outcome) (s : Store) (input : PreviewRolloverInput)
    (confirm : ConfirmRolloverInput) (response : PreviewResponse)
    (parsed : previewRolloverSchema rt (some body) = .valid input)
    (previewed : (previewRollover rt env call.auth body script s).result = .ok response)
    (whole : Whole input response.count)
    (confirms : confirmRolloverSchema rt (some call.body) = .valid confirm)
    (recommended : Recommended input confirm) (pick : call.env.pick = env.pick)
    (prepared : Prepared call.env confirm s) :
    (∃ confirmed t, (confirmRollover rt).attempt call
        (previewRollover rt env call.auth body script s).store = .ok (confirmed, t)) ↔
      ∀ d ∈ confirm.decisions,
        (∃ c ∈ response.candidates, c.enrolmentId = d.enrolmentId ∧
          c.blockedByExistingRollover = none ∧
            Unoccupied s c (enrolmentStatusForDecision input.decision)) ∧
        (goesOn input.decision = true → input.toSessionId.isSome = true) := by
  obtain ⟨preview, read, rfl, store⟩ := previewRollover_spec previewed
  obtain rfl := Lib.Checked.valid.inj (read.parsed.symm.trans parsed)
  rw [store]
  generalize previewAudit call.auth preview = event
  have read' : Read rt env call.auth body (s.audit event) preview :=
    ⟨read.parsed, read.resolved, read.scope, read.listed⟩
  have checks := check_iff read' whole confirms recommended pick
  have ready : ∀ plan, (confirmRollover rt).check call (s.audit event) = .ok plan →
      Ready plan 0 confirm.decisions (s.audit event) := by
    intro plan checked
    have planned := (rolloverCheck_spec checked).2.2
    obtain ⟨rfl, -⟩ := (checks plan).mp checked
    have constraints := prepared.constraints
    refine ready_of_planned planned (fun d inside => (recommended.decisions d inside).2) ?_
    exact ⟨⟨constraints.keys, constraints.sessions, constraints.structures, constraints.records⟩,
      prepared.distinct, prepared.rolloverIds, prepared.enrolmentIds⟩
  constructor
  · rintro ⟨confirmed, t, went⟩
    obtain ⟨plan, checked, committed⟩ := bind_eq_ok.mp went
    have prepared' := ready plan checked
    obtain ⟨rfl, all⟩ := (checks plan).mp checked
    have writes := (confirmRows_ok_iff prepared').mp ⟨confirmed, t, committed⟩
    intro d inside
    obtain ⟨⟨c, listed, is, unmarked⟩, target⟩ := all d inside
    refine ⟨⟨c, listed, is, unmarked, ?_⟩, target⟩
    have free := (writable_iff prepared' inside is).mp (writes d inside)
    rw [(recommended.decisions d inside).1] at free
    exact free
  · intro all
    have checked := (checks (planOf call confirm preview.institution (s.audit event))).mpr
      ⟨rfl, fun d inside => by
        obtain ⟨⟨c, listed, is, unmarked, -⟩, target⟩ := all d inside
        exact ⟨⟨c, listed, is, unmarked⟩, target⟩⟩
    have prepared' := ready _ checked
    obtain ⟨confirmed, t, committed⟩ := (confirmRows_ok_iff prepared').mpr fun d inside => by
      obtain ⟨⟨c, -, is, -, free⟩, -⟩ := all d inside
      rw [← (recommended.decisions d inside).1] at free
      exact (writable_iff prepared' inside is).mpr free
    exact ⟨confirmed, t, bind_eq_ok.mpr ⟨_, checked, committed⟩⟩

theorem confirm_iff_previewed_promotion :
    (∃ confirmed t, (confirmRollover .plain).attempt (promotion 0)
        (previewRollover .plain schoolEnv (promotion 0).auth promotionBody [] pendingSchool).store =
          .ok (confirmed, t)) ↔
      ∀ d ∈ promotionConfirm.decisions,
        (∃ c ∈ promotionResponse.candidates, c.enrolmentId = d.enrolmentId ∧
          c.blockedByExistingRollover = none ∧ Unoccupied pendingSchool c .promoted) ∧
        (goesOn .promoted = true → (some (sessionAt 1).uuid).isSome = true) :=
  confirm_iff_previewed .plain schoolEnv (promotion 0) promotionBody [] pendingSchool promotionInput
    promotionConfirm promotionResponse (by rfl) (by rfl) ⟨rfl, by decide⟩ (by rfl)
    ⟨⟨rfl, rfl, rfl⟩, rfl, rfl, by decide⟩ rfl prepared_promotion

section Again

variable {rt : Runtime} {env env' : PreviewEnv} {auth : AuthTokenPayload} {body : Json}
  {s t : Store} {preview preview' : Preview} {plan : RolloverPlan}
  {confirmed : List ConfirmedRollover}

theorem ended_ne_active (decision : RolloverDecision) :
    enrolmentStatusForDecision decision ≠ .active := by
  cases decision <;> decide

/-- An active enrolment of the source session that the transaction leaves was there before, and is
none that it names. -/
theorem stays_of_active {decisions : List RolloverDecisionInput} {fromSessionId : Uuid}
    (distinct : (decisions.map (·.enrolmentId)).Nodup)
    (effect : RolloverEffect.Effect plan decisions s t)
    (elsewhere : ∀ d ∈ decisions, plan.toSessionId d ≠ some fromSessionId) {e : Enrolment}
    (row : e ∈ t.enrolments.rows) (active : e.status = .active)
    (source : e.academicSessionId = some fromSessionId) :
    e ∈ s.enrolments.rows ∧ e.uuid ∉ decisions.map (·.enrolmentId) := by
  obtain ⟨next, rows, nexts⟩ := effect.enrolments
  rw [rows] at row
  rcases List.mem_append.mp row with old | new
  · obtain ⟨before, there, rfl⟩ := List.mem_map.mp old
    by_cases named : before.uuid ∈ decisions.map (·.enrolmentId)
    · obtain ⟨d, inside, is⟩ := List.mem_map.mp named
      rw [RolloverEffect.moved_of_named distinct inside is] at active
      exact absurd active (ended_ne_active d.decision)
    · rw [RolloverEffect.moved_of_unnamed named]
      exact ⟨there, named⟩
  · obtain ⟨d, inside, before, index, -, rfl⟩ := exists_of_forall₂ nexts.flip new
    exact absurd source (elsewhere d (List.mem_filter.mp inside).1)

/-- The records of an enrolment stay. -/
theorem openRollovers_ne_nil {decisions : List RolloverDecisionInput} {fromSessionId id : Uuid}
    (effect : RolloverEffect.Effect plan decisions s t)
    (marked : openRollovers s fromSessionId id ≠ []) : openRollovers t fromSessionId id ≠ [] := by
  obtain ⟨records, recorded, -⟩ := effect.records
  unfold openRollovers at marked ⊢
  rw [recorded, List.filter_append]
  exact fun none => marked (List.append_eq_nil_iff.mp none).1

theorem listed_again (planned : Planned plan s)
    (committed : confirmRows plan 0 plan.input.decisions s = .ok (confirmed, t))
    (distinct : plan.input.enrolmentIds.Nodup) (read : Read rt env auth body s preview)
    (whole : Whole preview.input preview.candidates.length)
    (all : ∀ c ∈ preview.candidates, c.blockedByExistingRollover = none →
      c.enrolmentId ∈ plan.input.enrolmentIds)
    (elsewhere : ∀ d ∈ plan.input.decisions, plan.toSessionId d ≠ some preview.input.fromSessionId)
    (pick : env'.pick = env.pick) (read' : Read rt env' auth body t preview') :
    ∀ c ∈ preview'.candidates, c.blockedByExistingRollover ≠ none ∧
      ∃ before ∈ preview.candidates, before.enrolmentId = c.enrolmentId ∧
        before.blockedByExistingRollover ≠ none := by
  have present : ∀ d ∈ plan.input.decisions, ∃ e ∈ s.enrolments.rows, e.uuid = d.enrolmentId := by
    intro d inside
    obtain ⟨e, eligible, is⟩ := planned.named d.enrolmentId (List.mem_map_of_mem inside)
    rw [planned.enrolments] at eligible
    exact ⟨e, (mem_eligible eligible).1, is⟩
  have effect := RolloverEffect.confirmRows_effect distinct present committed
  have sameInput := Lib.Checked.valid.inj (read'.parsed.symm.trans read.parsed)
  have sameInstitution : preview'.institution = preview.institution := by
    obtain ⟨enrolments, rolloverRecords, rfl⟩ := effect.frame
    have resolved := read'.resolved
    rw [sameInput, pick] at resolved
    exact Except.ok.inj (resolved.symm.trans read.resolved)
  intro c inside
  obtain ⟨e, taken, of⟩ := exists_of_forall₂ read'.listed.flip inside
  obtain ⟨row, meets⟩ := mem_sorted.mp (List.mem_of_mem_take taken)
  obtain ⟨is, marked⟩ := candidate_spec of
  rw [sameInput] at marked
  rw [sameInput, sameInstitution] at meets
  have fits := meets
  simp only [isPreviewed, Bool.and_eq_true, beq_iff_eq] at fits
  obtain ⟨there, unnamed⟩ := stays_of_active distinct effect elsewhere row fits.1.1.2 fits.1.1.1.2
  obtain ⟨before, listed, of'⟩ := exists_of_forall₂ (candidates_of_whole read whole)
    (mem_sorted.mpr ⟨there, meets⟩)
  obtain ⟨is', marked'⟩ := candidate_spec of'
  have blocked : before.blockedByExistingRollover ≠ none := by
    intro unmarked
    have member := all before listed unmarked
    rw [is'] at member
    exact unnamed member
  refine ⟨fun unmarked => ?_, before, listed, is'.trans is.symm, blocked⟩
  exact openRollovers_ne_nil effect (fun none => blocked (marked'.mpr none)) (marked.mp unmarked)

end Again

/-- **Once all unmarked candidates of a whole preview have gone on elsewhere**, a preview of the
same lists marked candidates alone, which were marked before. -/
theorem previewed_again (rt : Runtime) (env env' : PreviewEnv) (call : RolloverCall) (body : Json)
    (script script' : List Outcome) (s t : Store) (input : PreviewRolloverInput)
    (confirm : ConfirmRolloverInput) (response response' : PreviewResponse)
    (confirmed : List ConfirmedRollover)
    (parsed : previewRolloverSchema rt (some body) = .valid input)
    (previewed : (previewRollover rt env call.auth body script s).result = .ok response)
    (whole : Whole input response.count)
    (confirms : confirmRolloverSchema rt (some call.body) = .valid confirm)
    (distinct : confirm.enrolmentIds.Nodup)
    (went : (confirmRollover rt).attempt call
      (previewRollover rt env call.auth body script s).store = .ok (confirmed, t))
    (all : ∀ c ∈ response.candidates, c.blockedByExistingRollover = none →
      c.enrolmentId ∈ confirm.enrolmentIds)
    (elsewhere : ∀ d ∈ confirm.decisions,
      d.toSessionId.or confirm.toSessionId ≠ some input.fromSessionId)
    (pick : env'.pick = env.pick)
    (again : (previewRollover rt env' call.auth body script' t).result = .ok response') :
    ∀ c ∈ response'.candidates, c.blockedByExistingRollover ≠ none ∧
      ∃ before ∈ response.candidates, before.enrolmentId = c.enrolmentId ∧
        before.blockedByExistingRollover ≠ none := by
  obtain ⟨preview, read, rfl, store⟩ := previewRollover_spec previewed
  obtain rfl := Lib.Checked.valid.inj (read.parsed.symm.trans parsed)
  obtain ⟨preview', read', rfl, -⟩ := previewRollover_spec again
  rw [store] at went
  generalize previewAudit call.auth preview = event at went
  obtain ⟨plan, checked, committed⟩ := bind_eq_ok.mp went
  obtain ⟨valid, -, planned⟩ := rolloverCheck_spec checked
  obtain rfl := Lib.Checked.valid.inj (valid.symm.trans confirms)
  have after : Read rt env call.auth body (s.audit event) preview :=
    ⟨read.parsed, read.resolved, read.scope, read.listed⟩
  exact listed_again planned committed distinct after whole all elsewhere pick read'

/-- The promotion, and the preview after it. -/
def promotedAgain : Except ServiceError (List ConfirmedRollover × Store × PreviewResponse) := do
  let (confirmed, t) ← (confirmRollover .plain).attempt (promotion 0)
    (previewRollover .plain schoolEnv (promotion 0).auth promotionBody [] pendingSchool).store
  let response ← (previewRollover .plain schoolEnv (promotion 0).auth promotionBody [] t).result
  return (confirmed, t, response)

theorem promotedAgain_lists :
    promotedAgain.toOption.map (fun ran => ran.2.2.candidates.map (·.studentNumber)) =
      some ["S-2"] := by
  decide +kernel

theorem previewed_again_promotion :
    ∃ response : PreviewResponse, response.candidates.map (·.studentNumber) = ["S-2"] ∧
      ∀ c ∈ response.candidates, c.blockedByExistingRollover ≠ none ∧
        ∃ before ∈ promotionResponse.candidates, before.enrolmentId = c.enrolmentId ∧
          before.blockedByExistingRollover ≠ none := by
  obtain ⟨⟨confirmed, t, response⟩, ran, lists⟩ := of_toOption promotedAgain_lists
  obtain ⟨⟨confirmed', t'⟩, went, rest⟩ := bind_eq_ok.mp ran
  obtain ⟨response', again, same⟩ := bind_eq_ok.mp rest
  obtain ⟨rfl, last⟩ := Prod.mk.inj (pure_eq_ok.mp same)
  obtain ⟨rfl, rfl⟩ := Prod.mk.inj last
  exact ⟨response', lists, previewed_again .plain schoolEnv schoolEnv (promotion 0) promotionBody []
    [] pendingSchool t' promotionInput promotionConfirm promotionResponse response' confirmed'
    (by rfl) (by rfl) ⟨rfl, by decide⟩ (by rfl) (by decide) went (by decide) (by decide) rfl again⟩

end AcadID.RolloverPreview
