/-
**A student promoted or repeated from session to session.**

Calls of `confirmRollover` one after the other, each of which passes its checks and promotes or
repeats one student among others.

* `IsFree` — a student number has no enrolment of a status yet; `Ready` — what the transaction needs
  of the store apart from that.
* `confirmRows_ok_iff` — **the transaction of a rollover goes through exactly when every decision
  writes a status that is free for its student number**.
* `progresses_iff` — **a sequence of such calls goes through, and leaves the student one active
  enrolment, exactly when each call finds the statuses it writes free**: the enrolments left behind
  keep theirs, so that nobody is promoted twice. `length_le_two` — the sequence has two calls at
  most.
-/

import AcadID.Gateway.Departures
import Mathlib.Data.Finset.Card

namespace AcadID.Progression

open Lib Rollovers

/-! ### Statuses of a student number -/

/-- No enrolment of the student number has the status. -/
def IsFree (s : Store) (institutionId : Uuid) (studentNumber : String) (status : EnrolmentStatus) :
    Prop :=
  ∀ e ∈ s.enrolments.rows, enrolmentKey e ≠ (institutionId, studentNumber, status)

/-- The status that a decision writes is free for its student number. -/
def Writable (plan : RolloverPlan) (decision : RolloverDecisionInput) (s : Store) : Prop :=
  ∀ e, plan.enrolmentById decision.enrolmentId = some e →
    IsFree s e.institutionId e.studentNumber (enrolmentStatusForDecision decision.decision)

/-- The ids that a transaction draws are new and different. -/
structure FreshIds (uuid : ℕ → Uuid) (taken : List Uuid) (index count : ℕ) : Prop where
  free : ∀ i < count, uuid (index + i) ∉ taken
  distinct : ∀ i < count, ∀ j < count, uuid (index + i) = uuid (index + j) → i = j

theorem FreshIds.tail {uuid : ℕ → Uuid} {taken : List Uuid} {index count : ℕ}
    (fresh : FreshIds uuid taken index (count + 1)) :
    FreshIds uuid (taken ++ [uuid index]) (index + 1) count where
  free i small := by
    have shift : index + 1 + i = index + (i + 1) := by omega
    rw [shift, List.mem_append, List.mem_singleton]
    rintro (old | new)
    · exact fresh.free (i + 1) (by omega) old
    · exact absurd (fresh.distinct (i + 1) (by omega) 0 (by omega) new) (by omega)
  distinct i small j small' same := by
    have shift : ∀ k, index + 1 + k = index + (k + 1) := fun k => by omega
    rw [shift, shift] at same
    have := fresh.distinct (i + 1) (by omega) (j + 1) (by omega) same
    omega

theorem FreshIds.subset {uuid : ℕ → Uuid} {taken taken' : List Uuid} {index count : ℕ}
    (fresh : FreshIds uuid taken index count) (fewer : ∀ id ∈ taken', id ∈ taken) :
    FreshIds uuid taken' index count where
  free i small inside := fresh.free i small (fewer _ inside)
  distinct := fresh.distinct

/-- The session and the structure that a decision names exist. -/
def Targets (plan : RolloverPlan) (s : Store) (decision : RolloverDecisionInput) : Prop :=
  (∀ id, plan.toSessionId decision = some id → (s.academicSessions.find? id).isSome) ∧
    ∀ id, decision.toStructureId.or plan.input.toStructureId = some id →
      (s.academicStructures.find? id).isSome

/-- What the transaction needs for the decisions still to come, apart from the statuses. -/
structure Ready (plan : RolloverPlan) (index : ℕ) (decisions : List RolloverDecisionInput)
    (s : Store) : Prop where
  constraints : Constraints s
  source : (s.academicSessions.find? plan.input.fromSessionId).isSome
  named : ∀ d ∈ decisions, ∃ e, plan.enrolmentById d.enrolmentId = some e ∧
    s.enrolments.find? e.uuid = some e ∧ e.institutionId = plan.institution.uuid ∧
      e.status = .active
  distinct : (decisions.map (·.enrolmentId)).Nodup
  targets : ∀ d ∈ decisions, Targets plan s d
  rolloverIds : FreshIds plan.env.rolloverUuid (s.rolloverRecords.rows.map (·.uuid)) index
    decisions.length
  enrolmentIds : FreshIds plan.env.enrolmentUuid (s.enrolments.rows.map (·.uuid)) index
    decisions.length

/-! ### One decision -/

theorem insert_of_free {ρ : Type} {key : ρ → Uuid} {t : Table key} {r : ρ}
    (free : key r ∉ t.rows.map key) : ∃ u, t.insert r = some u :=
  Table.insert_of_fresh fun _ inside same => free (same ▸ List.mem_map_of_mem inside)

theorem createEnrolment_of_free {s : Store} {enrolment : Enrolment}
    (ofSession : ∀ id, enrolment.academicSessionId = some id →
      (s.academicSessions.find? id).isSome)
    (ofStructure : ∀ id, enrolment.structureScopeId = some id →
      (s.academicStructures.find? id).isSome)
    (keyFree : ∀ other ∈ s.enrolments.rows, enrolmentKey other ≠ enrolmentKey enrolment)
    (idFree : enrolment.uuid ∉ s.enrolments.rows.map (·.uuid)) :
    ∃ t, createEnrolment s enrolment = .ok t := by
  obtain ⟨enrolments, inserted⟩ := insert_of_free idFree
  exact ⟨_, createEnrolment_eq_ok.mpr ⟨ofSession, ofStructure, keyFree, enrolments, inserted, rfl⟩⟩

theorem toStructureId_exists {plan : RolloverPlan} {s : Store} {d : RolloverDecisionInput}
    {e : Enrolment} (constraints : Constraints s) (targets : Targets plan s d)
    (inside : e ∈ s.enrolments.rows) :
    ∀ id, plan.toStructureId d e = some id → (s.academicStructures.find? id).isSome := by
  intro id is
  unfold RolloverPlan.toStructureId at is
  cases given : d.toStructureId.or plan.input.toStructureId with
  | some id' =>
    rw [given, Option.some_or] at is
    exact targets.2 id (given.trans is)
  | none =>
    rw [given, Option.none_or] at is
    split_ifs at is
    exact constraints.structures e inside id is

/-- Once its enrolment is moved, a student number has no active enrolment. -/
theorem activeKey_free {plan : RolloverPlan} {s : Store} {d : RolloverDecisionInput}
    {e : Enrolment} (constraints : Constraints s) (inside : e ∈ s.enrolments.rows)
    (ofInstitution : e.institutionId = plan.institution.uuid) (active : e.status = .active) :
    ∀ other ∈ (s.enrolments.update e.uuid (decided d.decision plan.env.now) fun _ => rfl).rows,
      enrolmentKey other ≠ (plan.institution.uuid, e.studentNumber, .active) := by
  intro other there same
  rcases Table.mem_update.mp there with ⟨old, -, -, rfl⟩ | ⟨row, differs⟩
  · exact Departures.decided_status d.decision plan.env.now old (congrArg (·.2.2) same)
  · refine differs (constraints.keys other row e inside (same.trans ?_))
    rw [← ofInstitution, ← active]
    rfl

theorem nextUuid_free {plan : RolloverPlan} {index : ℕ} {d : RolloverDecisionInput}
    {decisions : List RolloverDecisionInput} {s : Store} {e : Enrolment}
    (ready : Ready plan index (d :: decisions) s) :
    plan.env.enrolmentUuid index ∉
      (s.enrolments.update e.uuid (decided d.decision plan.env.now) fun _ => rfl).rows.map
        (·.uuid) := by
  intro taken
  obtain ⟨r, inside, is⟩ := List.mem_map.mp taken
  refine ready.enrolmentIds.free 0 (Nat.succ_pos _) ?_
  rcases Table.mem_update.mp inside with ⟨old, row, -, rfl⟩ | ⟨row, -⟩
  · exact List.mem_map.mpr ⟨old, row, is⟩
  · exact List.mem_map.mpr ⟨r, row, is⟩

/-- **A decision that writes a free status goes through.** -/
theorem confirmDecision_of_writable {plan : RolloverPlan} {index : ℕ} {d : RolloverDecisionInput}
    {decisions : List RolloverDecisionInput} {s : Store}
    (ready : Ready plan index (d :: decisions) s) (writable : Writable plan d s) :
    ∃ row t, confirmDecision plan index d s = .ok (row, t) := by
  obtain ⟨e, read, found, ofInstitution, active⟩ := ready.named d (List.mem_cons_self ..)
  have inside := Table.find?_mem found
  have targets := ready.targets d (List.mem_cons_self ..)
  have toStructure := toStructureId_exists ready.constraints targets inside
  have moved : updateEnrolment s e.uuid (decided d.decision plan.env.now) (fun _ => rfl) = .ok _ :=
    updateEnrolment_eq_ok.mpr ⟨e, found, fun other row _ => writable e read other row, rfl⟩
  have newRecord : plan.env.rolloverUuid index ∉ s.rolloverRecords.rows.map (·.uuid) :=
    ready.rolloverIds.free 0 (Nat.succ_pos _)
  obtain ⟨rollovers, grown⟩ := insert_of_free (r := newRollover plan d e index) newRecord
  have recorded : createRolloverRecord { s with
      enrolments := s.enrolments.update e.uuid (decided d.decision plan.env.now) fun _ => rfl }
      (newRollover plan d e index) = .ok _ :=
    createRolloverRecord_eq_ok.mpr ⟨⟨ready.source, targets.1⟩,
      ⟨ready.constraints.structures e inside, toStructure⟩, rollovers, grown, rfl⟩
  unfold confirmDecision
  rw [orThrow_eq_ok.mpr read]
  simp only [bind, Except.bind]
  rw [moved]
  simp only
  rw [recorded]
  simp only
  by_cases on : goesOn d.decision
  · obtain ⟨t, created⟩ := @createEnrolment_of_free { s with
        enrolments := s.enrolments.update e.uuid (decided d.decision plan.env.now) fun _ => rfl
        rolloverRecords := rollovers } (nextEnrolment plan d e index _)
      targets.1 toStructure (activeKey_free ready.constraints inside ofInstitution active)
      (nextUuid_free ready)
    rw [if_pos on, created]
    exact ⟨_, _, rfl⟩
  · rw [if_neg on]
    exact ⟨_, _, rfl⟩

/-- What a decision has done, once it has gone through. -/
structure Steps (plan : RolloverPlan) (index : ℕ) (d : RolloverDecisionInput) (e : Enrolment)
    (s t : Store) : Prop where
  read : plan.enrolmentById d.enrolmentId = some e
  found : s.enrolments.find? e.uuid = some e
  ofInstitution : e.institutionId = plan.institution.uuid
  active : e.status = .active
  free : ∀ other ∈ s.enrolments.rows, other.uuid ≠ e.uuid →
    enrolmentKey other ≠ enrolmentKey (decided d.decision plan.env.now e)
  members : ∀ r, r ∈ t.enrolments.rows ↔ r = decided d.decision plan.env.now e ∨
    (r ∈ s.enrolments.rows ∧ r.uuid ≠ e.uuid) ∨
      goesOn d.decision = true ∧ r = nextEnrolment plan d e index s
  records : t.rolloverRecords.rows = s.rolloverRecords.rows ++ [newRollover plan d e index]
  sessions : t.academicSessions = s.academicSessions
  structures : t.academicStructures = s.academicStructures

theorem steps_of_confirm {plan : RolloverPlan} {index : ℕ} {d : RolloverDecisionInput}
    {decisions : List RolloverDecisionInput} {s t : Store} {row : ConfirmedRollover}
    (ready : Ready plan index (d :: decisions) s)
    (confirmed : confirmDecision plan index d s = .ok (row, t)) :
    ∃ e, Steps plan index d e s t := by
  obtain ⟨e, enrolments, rollovers, read, ⟨old, found, free⟩, grown, continues, rfl⟩ :=
    confirmDecision_spec confirmed
  obtain ⟨e', read', found', ofInstitution, active⟩ := ready.named d (List.mem_cons_self ..)
  obtain rfl := Option.some.inj (read.symm.trans read')
  obtain rfl := Option.some.inj (found.symm.trans found')
  have members : ∀ r, r ∈ (s.enrolments.update old.uuid (decided d.decision plan.env.now)
      fun _ => rfl).rows ↔ r = decided d.decision plan.env.now old ∨
        (r ∈ s.enrolments.rows ∧ r.uuid ≠ old.uuid) := by
    intro r
    refine Table.mem_update.trans (or_congr ⟨?_, ?_⟩ Iff.rfl)
    · rintro ⟨r', inside, is, rfl⟩
      rw [Table.eq_of_key_eq inside (Table.find?_mem found) is]
    · rintro rfl
      exact ⟨old, Table.find?_mem found, rfl, rfl⟩
  refine ⟨old, read, found, ofInstitution, active, free, fun r => ?_,
    (Table.insert_eq_some.mp grown).2, rfl, rfl⟩
  unfold Continues at continues
  by_cases on : goesOn d.decision = true
  · rw [if_pos on] at continues
    show r ∈ enrolments.rows ↔ _
    rw [(Table.insert_eq_some.mp continues).2, List.mem_append, List.mem_singleton, members r,
      or_assoc, and_iff_right on]
  · rw [if_neg on] at continues
    show r ∈ enrolments.rows ↔ _
    rw [continues, members r]
    simp [on]

namespace Steps

variable {plan : RolloverPlan} {index : ℕ} {d : RolloverDecisionInput} {e : Enrolment}
  {s t : Store}

theorem stays (steps : Steps plan index d e s t) {k : Uuid}
    (present : (s.enrolments.find? k).isSome) : (t.enrolments.find? k).isSome := by
  obtain ⟨r, found⟩ := Option.isSome_iff_exists.mp present
  have after : ∃ r' ∈ t.enrolments.rows, r'.uuid = k := by
    by_cases same : r.uuid = e.uuid
    · refine ⟨decided d.decision plan.env.now e, (steps.members _).mpr (.inl rfl), ?_⟩
      exact same.symm.trans (Table.find?_key found)
    · exact ⟨r, (steps.members r).mpr (.inr (.inl ⟨Table.find?_mem found, same⟩)),
        Table.find?_key found⟩
  obtain ⟨r', inside, is⟩ := after
  rw [Table.find?_eq_some.mpr ⟨inside, is⟩]
  rfl

/-- **What has gone through wrote a free status.** -/
theorem writable (steps : Steps plan index d e s t) : Writable plan d s := by
  intro e' read other row same
  obtain rfl := Option.some.inj (steps.read.symm.trans read)
  by_cases is : other.uuid = e.uuid
  · have status : other.status = enrolmentStatusForDecision d.decision := congrArg (·.2.2) same
    rw [Table.eq_of_key_eq row (Table.find?_mem steps.found) is, steps.active] at status
    exact Departures.decided_status d.decision plan.env.now e status.symm
  · exact steps.free other row is same

/-- A row of another student number is there after exactly when it was before. -/
theorem other_number (steps : Steps plan index d e s t) {r : Enrolment}
    (other : (r.institutionId, r.studentNumber) ≠ (plan.institution.uuid, e.studentNumber)) :
    r ∈ t.enrolments.rows ↔ r ∈ s.enrolments.rows := by
  rw [steps.members r]
  constructor
  · rintro (rfl | ⟨row, -⟩ | ⟨-, rfl⟩)
    · exact absurd (by rw [← steps.ofInstitution]; rfl) other
    · exact row
    · exact absurd rfl other
  · intro row
    refine .inr (.inl ⟨row, fun same => other ?_⟩)
    rw [Table.eq_of_key_eq row (Table.find?_mem steps.found) same, steps.ofInstitution]

/-- **The constraints are kept.** -/
theorem constraints (steps : Steps plan index d e s t) (targets : Targets plan s d)
    (old : Constraints s) : Constraints t := by
  have inside := Table.find?_mem steps.found
  have activeKey : ∀ other ∈ s.enrolments.rows, other.uuid ≠ e.uuid →
      enrolmentKey other ≠ enrolmentKey (nextEnrolment plan d e index s) := by
    intro other row differs same
    refine differs (old.keys other row e inside (same.trans ?_))
    show (plan.institution.uuid, e.studentNumber, EnrolmentStatus.active) = enrolmentKey e
    rw [← steps.ofInstitution, ← steps.active]
    rfl
  have ended : enrolmentKey (decided d.decision plan.env.now e) ≠
      enrolmentKey (nextEnrolment plan d e index s) := fun same =>
    Departures.decided_status d.decision plan.env.now e (congrArg (·.2.2) same)
  refine ⟨fun a insideA b insideB same => ?_, fun r member id is => ?_, fun r member id is => ?_,
    fun r member id is => ?_⟩
  · rcases (steps.members a).mp insideA with rfl | ⟨rowA, otherA⟩ | ⟨-, rfl⟩
    · rcases (steps.members b).mp insideB with rfl | ⟨rowB, otherB⟩ | ⟨-, rfl⟩
      · rfl
      · exact absurd same.symm (steps.free b rowB otherB)
      · exact absurd same ended
    · rcases (steps.members b).mp insideB with rfl | ⟨rowB, -⟩ | ⟨-, rfl⟩
      · exact absurd same (steps.free a rowA otherA)
      · exact old.keys a rowA b rowB same
      · exact absurd same (activeKey a rowA otherA)
    · rcases (steps.members b).mp insideB with rfl | ⟨rowB, otherB⟩ | ⟨-, rfl⟩
      · exact absurd same.symm ended
      · exact absurd same.symm (activeKey b rowB otherB)
      · rfl
  · rw [steps.sessions]
    rcases (steps.members r).mp member with rfl | ⟨row, -⟩ | ⟨-, rfl⟩
    · exact old.sessions e inside id is
    · exact old.sessions r row id is
    · exact targets.1 id is
  · rw [steps.structures]
    rcases (steps.members r).mp member with rfl | ⟨row, -⟩ | ⟨-, rfl⟩
    · exact old.structures e inside id is
    · exact old.structures r row id is
    · exact toStructureId_exists old targets inside id is
  · rw [steps.records] at member
    rcases List.mem_append.mp member with before | new
    · exact steps.stays (old.records r before id is)
    · rw [List.mem_singleton.mp new] at is
      obtain rfl := Option.some.inj is
      refine steps.stays ?_
      rw [steps.found]
      rfl

/-- The enrolments still to be decided are of other student numbers. -/
theorem other_decision {decisions : List RolloverDecisionInput} {d' : RolloverDecisionInput}
    {e' : Enrolment} (steps : Steps plan index d e s t)
    (ready : Ready plan index (d :: decisions) s) (later : d' ∈ decisions)
    (read : plan.enrolmentById d'.enrolmentId = some e') :
    s.enrolments.find? e'.uuid = some e' ∧ e'.uuid ≠ e.uuid ∧
      (e'.institutionId, e'.studentNumber) ≠ (plan.institution.uuid, e.studentNumber) := by
  obtain ⟨e'', read', found, ofInstitution, active⟩ :=
    ready.named d' (List.mem_cons_of_mem _ later)
  obtain rfl := Option.some.inj (read.symm.trans read')
  have differs : e'.uuid ≠ e.uuid := by
    rw [(enrolmentById_spec read).2, (enrolmentById_spec steps.read).2]
    intro same
    have distinct := ready.distinct
    rw [List.map_cons, List.nodup_cons] at distinct
    exact distinct.1 (same ▸ List.mem_map_of_mem later)
  refine ⟨found, differs, fun same => differs ?_⟩
  refine ready.constraints.keys e' (Table.find?_mem found) e (Table.find?_mem steps.found) ?_
  unfold enrolmentKey
  rw [active, steps.active, ofInstitution, steps.ofInstitution,
    show e'.studentNumber = e.studentNumber from congrArg (·.2) same]

/-- **One decision leaves the store ready for the next ones.** -/
theorem ready {decisions : List RolloverDecisionInput} (steps : Steps plan index d e s t)
    (ready : Ready plan index (d :: decisions) s) : Ready plan (index + 1) decisions t where
  constraints := steps.constraints (ready.targets d (List.mem_cons_self ..)) ready.constraints
  source := by
    rw [steps.sessions]
    exact ready.source
  named d' later := by
    obtain ⟨e', read, found, ofInstitution, active⟩ :=
      ready.named d' (List.mem_cons_of_mem _ later)
    refine ⟨e', read, ?_, ofInstitution, active⟩
    refine Table.find?_eq_some.mpr ⟨?_, rfl⟩
    rw [steps.other_number (steps.other_decision ready later read).2.2]
    exact Table.find?_mem found
  distinct := (List.nodup_cons.mp ready.distinct).2
  targets d' later := by
    unfold Targets
    rw [steps.sessions, steps.structures]
    exact ready.targets d' (List.mem_cons_of_mem _ later)
  rolloverIds := by
    rw [steps.records, List.map_append]
    exact ready.rolloverIds.tail
  enrolmentIds := by
    refine ready.enrolmentIds.tail.subset fun id taken => ?_
    obtain ⟨r, inside, rfl⟩ := List.mem_map.mp taken
    rw [List.mem_append, List.mem_singleton]
    rcases (steps.members r).mp inside with rfl | ⟨row, -⟩ | ⟨-, rfl⟩
    · exact .inl (List.mem_map.mpr ⟨e, Table.find?_mem steps.found, rfl⟩)
    · exact .inl (List.mem_map_of_mem row)
    · exact .inr rfl

/-- The statuses that later decisions write are free after exactly when they were before. -/
theorem writable_iff {decisions : List RolloverDecisionInput} {d' : RolloverDecisionInput}
    (steps : Steps plan index d e s t) (ready : Ready plan index (d :: decisions) s)
    (later : d' ∈ decisions) : Writable plan d' t ↔ Writable plan d' s := by
  refine forall₂_congr fun e' read => ?_
  obtain ⟨-, -, other⟩ := steps.other_decision ready later read
  refine forall_congr' fun r => ?_
  by_cases number : (r.institutionId, r.studentNumber) = (e'.institutionId, e'.studentNumber)
  · rw [steps.other_number (number ▸ other)]
  · have differs : enrolmentKey r ≠ (e'.institutionId, e'.studentNumber,
        enrolmentStatusForDecision d'.decision) := by
      intro same
      refine number (Prod.ext (congrArg (·.1) same) ?_)
      exact congrArg (·.2.1) same
    exact ⟨fun _ _ => differs, fun _ _ => differs⟩

end Steps

/-! ### One transaction -/

/-- **The transaction of a rollover goes through exactly when the statuses it writes are free.** -/
theorem confirmRows_ok_iff {plan : RolloverPlan} {index : ℕ}
    {decisions : List RolloverDecisionInput} {s : Store} (ready : Ready plan index decisions s) :
    (∃ rows t, confirmRows plan index decisions s = .ok (rows, t)) ↔
      ∀ d ∈ decisions, Writable plan d s := by
  induction decisions generalizing index s with
  | nil => exact ⟨fun _ d inside => absurd inside (by simp), fun _ => ⟨[], s, rfl⟩⟩
  | cons d decisions ih =>
    constructor
    · rintro ⟨rows, t, confirmed⟩
      obtain ⟨row, rest, u, first, later, -⟩ := confirmRows_cons.mp confirmed
      obtain ⟨e, steps⟩ := steps_of_confirm ready first
      intro d' inside
      rcases List.mem_cons.mp inside with rfl | member
      · exact steps.writable
      · exact (steps.writable_iff ready member).mp
          ((ih (steps.ready ready)).mp ⟨rest, t, later⟩ d' member)
    · intro all
      obtain ⟨row, u, first⟩ := confirmDecision_of_writable ready (all d (List.mem_cons_self ..))
      obtain ⟨e, steps⟩ := steps_of_confirm ready first
      obtain ⟨rest, t, later⟩ := (ih (steps.ready ready)).mpr fun d' member =>
        (steps.writable_iff ready member).mpr (all d' (List.mem_cons_of_mem _ member))
      exact ⟨row :: rest, t, confirmRows_cons.mpr ⟨row, rest, u, first, later, rfl⟩⟩

/-- The student number has an enrolment of the status. -/
def Holds (s : Store) (institutionId : Uuid) (studentNumber : String) (status : EnrolmentStatus) :
    Prop :=
  ∃ e ∈ s.enrolments.rows, enrolmentKey e = (institutionId, studentNumber, status)

/-- **What a transaction leaves**: the constraints, every status that an enrolment had when it left
`ACTIVE`, those it has written, and an active enrolment of a student who had one and goes on. -/
structure Confirmed (plan : RolloverPlan) (decisions : List RolloverDecisionInput) (s t : Store) :
    Prop where
  constraints : Constraints t
  held : ∀ {i n status}, status ≠ .active → Holds s i n status → Holds t i n status
  written : ∀ d ∈ decisions, ∀ e, plan.enrolmentById d.enrolmentId = some e →
    Holds t e.institutionId e.studentNumber (enrolmentStatusForDecision d.decision)
  active : ∀ {n}, (∀ d ∈ decisions, ∀ e, plan.enrolmentById d.enrolmentId = some e →
    e.studentNumber = n → goesOn d.decision = true) →
      Holds s plan.institution.uuid n .active → Holds t plan.institution.uuid n .active

theorem Steps.confirmed {plan : RolloverPlan} {index : ℕ} {d : RolloverDecisionInput}
    {e : Enrolment} {s t : Store} (steps : Steps plan index d e s t) (targets : Targets plan s d)
    (old : Constraints s) : Confirmed plan [d] s t where
  constraints := steps.constraints targets old
  held {i n status} ended held := by
    obtain ⟨r, row, key⟩ := held
    refine ⟨r, (steps.members r).mpr (.inr (.inl ⟨row, fun same => ended ?_⟩)), key⟩
    rw [Table.eq_of_key_eq row (Table.find?_mem steps.found) same] at key
    exact (congrArg (·.2.2) key).symm.trans steps.active
  written d' inside e' read := by
    obtain rfl := List.mem_singleton.mp inside
    obtain rfl := Option.some.inj (steps.read.symm.trans read)
    exact ⟨decided d'.decision plan.env.now e, (steps.members _).mpr (.inl rfl), rfl⟩
  active {n} goes held := by
    obtain ⟨r, row, key⟩ := held
    by_cases same : r.uuid = e.uuid
    · rw [Table.eq_of_key_eq row (Table.find?_mem steps.found) same] at key
      have number : e.studentNumber = n := congrArg (·.2.1) key
      have on := goes d (List.mem_singleton_self d) e steps.read number
      refine ⟨nextEnrolment plan d e index s, (steps.members _).mpr (.inr (.inr ⟨on, rfl⟩)), ?_⟩
      rw [← number]
      rfl
    · exact ⟨r, (steps.members r).mpr (.inr (.inl ⟨row, same⟩)), key⟩

theorem confirmed_of_rows {plan : RolloverPlan} {index : ℕ}
    {decisions : List RolloverDecisionInput} {s t : Store} {rows : List ConfirmedRollover}
    (ready : Ready plan index decisions s)
    (confirmed : confirmRows plan index decisions s = .ok (rows, t)) :
    Confirmed plan decisions s t := by
  induction decisions generalizing index s rows with
  | nil =>
    obtain ⟨-, rfl⟩ := Prod.mk.inj (Except.ok.inj confirmed)
    exact ⟨ready.constraints, fun _ held => held, by simp, fun _ held => held⟩
  | cons d decisions ih =>
    obtain ⟨row, rest, u, first, later, -⟩ := confirmRows_cons.mp confirmed
    obtain ⟨e, steps⟩ := steps_of_confirm ready first
    have here := steps.confirmed (ready.targets d (List.mem_cons_self ..)) ready.constraints
    have there := ih (steps.ready ready) later
    refine ⟨there.constraints, fun ended held => there.held ended (here.held ended held), ?_, ?_⟩
    · intro d' inside e' read
      rcases List.mem_cons.mp inside with rfl | member
      · refine there.held ?_ (here.written d' (List.mem_singleton_self d') e' read)
        exact Departures.decided_status d'.decision plan.env.now e'
      · exact there.written d' member e' read
    · intro n goes held
      refine there.active (fun d' member => goes d' (List.mem_cons_of_mem _ member)) ?_
      refine here.active (fun d' inside => ?_) held
      obtain rfl := List.mem_singleton.mp inside
      exact goes d' (List.mem_cons_self ..)

/-! ### Calls one after the other -/

section Chain

variable (rt : Runtime) (institutionId : Uuid) (studentNumber : String)

/-- The calls one after the other, each alone: the store that the last one leaves. -/
def confirmAll : List RolloverCall → Store → Except ServiceError Store
  | [], s => .ok s
  | c :: cs, s => do
    let plan ← (confirmRollover rt).check c s
    let (confirmed, t) ← (confirmRollover rt).commit plan s
    confirmAll cs ((confirmRollover rt).log plan confirmed t)

/-- The call names different enrolments, one of them the student's to promote or repeat; what it
names exists, and the ids that it draws are new. -/
structure Advances (plan : RolloverPlan) (s : Store) : Prop where
  institution : plan.institution.uuid = institutionId
  distinct : plan.input.enrolmentIds.Nodup
  student : ∃ d ∈ plan.input.decisions, goesOn d.decision = true ∧
    (plan.enrolmentById d.enrolmentId).map (·.studentNumber) = some studentNumber
  targets : ∀ d ∈ plan.input.decisions, Targets plan s d
  rolloverIds : FreshIds plan.env.rolloverUuid (s.rolloverRecords.rows.map (·.uuid)) 0
    plan.input.decisions.length
  enrolmentIds : FreshIds plan.env.enrolmentUuid (s.enrolments.rows.map (·.uuid)) 0
    plan.input.decisions.length

/-- Every call that is reached passes its checks and advances the student. -/
def Valid : List RolloverCall → Store → Prop
  | [], _ => True
  | c :: cs, s =>
    match (confirmRollover rt).check c s with
    | .error _ => False
    | .ok plan => Advances institutionId studentNumber plan s ∧
      match (confirmRollover rt).commit plan s with
      | .error _ => True
      | .ok (confirmed, t) => Valid cs ((confirmRollover rt).log plan confirmed t)

/-- Every call that is reached finds the statuses it writes free. -/
def FindsFree : List RolloverCall → Store → Prop
  | [], _ => True
  | c :: cs, s =>
    match (confirmRollover rt).check c s with
    | .error _ => True
    | .ok plan => (∀ d ∈ plan.input.decisions, Writable plan d s) ∧
      match (confirmRollover rt).commit plan s with
      | .error _ => True
      | .ok (confirmed, t) => FindsFree cs ((confirmRollover rt).log plan confirmed t)

/-- The student has exactly one active enrolment. -/
def OneActive (s : Store) : Prop :=
  ∃! e, e ∈ s.enrolments.rows ∧ enrolmentKey e = (institutionId, studentNumber, .active)

end Chain

section Chain

variable {rt : Runtime} {institutionId : Uuid} {studentNumber : String}

theorem oneActive_of_holds {s : Store} (constraints : Constraints s)
    (held : Holds s institutionId studentNumber .active) :
    OneActive institutionId studentNumber s := by
  obtain ⟨e, row, key⟩ := held
  refine ⟨e, ⟨row, key⟩, fun other there => ?_⟩
  exact Table.eq_of_key_eq there.1 row (constraints.keys other there.1 e row (there.2.trans key.symm))

/-- A call that has passed its checks finds the store ready. -/
theorem ready_of_check {c : RolloverCall} {plan : RolloverPlan} {s : Store}
    (checked : (confirmRollover rt).check c s = .ok plan) (constraints : Constraints s)
    (advances : Advances institutionId studentNumber plan s) :
    Ready plan 0 plan.input.decisions s := by
  obtain ⟨-, -, planned⟩ := rolloverCheck_spec checked
  have source : (s.academicSessions.find? plan.input.fromSessionId).isSome := by
    obtain ⟨⟨⟩, opened, -⟩ := bind_eq_ok.mp planned.scope
    obtain ⟨session, found, -⟩ := (Option.any_eq_true _ _).mp (require_eq_ok.mp opened)
    rw [found]
    rfl
  refine ⟨constraints, source, fun d inside => ?_, advances.distinct, advances.targets,
    advances.rolloverIds, advances.enrolmentIds⟩
  obtain ⟨e, eligible, is⟩ := planned.named d.enrolmentId (List.mem_map_of_mem inside)
  cases read : plan.enrolmentById d.enrolmentId with
  | none =>
    unfold RolloverPlan.enrolmentById at read
    exact absurd (List.find?_eq_none.mp read e eligible) (by simp [is])
  | some e' =>
    obtain ⟨there, -⟩ := enrolmentById_spec read
    rw [planned.enrolments] at there
    obtain ⟨row, ofInstitution, -, active⟩ := mem_eligible there
    exact ⟨e', rfl, Table.find?_eq_some.mpr ⟨row, rfl⟩, ofInstitution, active⟩

/-- Of the decisions of a call that advances the student, those on the student promote or repeat. -/
theorem goesOn_of_advances {plan : RolloverPlan} {s : Store}
    (ready : Ready plan 0 plan.input.decisions s)
    (advances : Advances institutionId studentNumber plan s) :
    ∀ d ∈ plan.input.decisions, ∀ e, plan.enrolmentById d.enrolmentId = some e →
      e.studentNumber = studentNumber → goesOn d.decision = true := by
  intro d inside e read number
  obtain ⟨d', inside', on, named⟩ := advances.student
  obtain ⟨e', read', number'⟩ := Option.map_eq_some_iff.mp named
  obtain ⟨_, same, found, ofInstitution, active⟩ := ready.named d inside
  obtain rfl := Option.some.inj (read.symm.trans same)
  obtain ⟨_, same', found', ofInstitution', active'⟩ := ready.named d' inside'
  obtain rfl := Option.some.inj (read'.symm.trans same')
  have one : e.uuid = e'.uuid := by
    refine ready.constraints.keys e (Table.find?_mem found) e' (Table.find?_mem found') ?_
    unfold enrolmentKey
    rw [ofInstitution, ofInstitution', number, number', active, active']
  rw [(enrolmentById_spec read).2, (enrolmentById_spec read').2] at one
  rw [List.inj_on_of_nodup_map ready.distinct inside inside' one]
  exact on

/-- **One call** that advances the student: it goes through exactly when the statuses are free, and
then leaves what the next call needs. -/
theorem advance_once {c : RolloverCall} {plan : RolloverPlan} {s : Store}
    (constraints : Constraints s) (enrolled : Holds s institutionId studentNumber .active)
    (checked : (confirmRollover rt).check c s = .ok plan)
    (advances : Advances institutionId studentNumber plan s) :
    ((∃ confirmed t, (confirmRollover rt).commit plan s = .ok (confirmed, t)) ↔
      ∀ d ∈ plan.input.decisions, Writable plan d s) ∧
    ∀ confirmed t, (confirmRollover rt).commit plan s = .ok (confirmed, t) →
      Constraints ((confirmRollover rt).log plan confirmed t) ∧
        Holds ((confirmRollover rt).log plan confirmed t) institutionId studentNumber .active := by
  have ready := ready_of_check checked constraints advances
  refine ⟨confirmRows_ok_iff ready, fun confirmed t committed => ?_⟩
  have after := confirmed_of_rows ready committed
  have kept := after.active (goesOn_of_advances ready advances)
    (advances.institution.symm ▸ enrolled)
  rw [advances.institution] at kept
  exact ⟨⟨after.constraints.keys, after.constraints.sessions, after.constraints.structures,
    after.constraints.records⟩, kept⟩

/-- **The exact condition.** From a store that meets the schema's constraints and in which the
student is enrolled, a sequence of valid calls that promote or repeat the student goes through, and
leaves the student exactly one active enrolment, exactly when every call finds the statuses that it
writes free. -/
theorem progresses_iff (calls : List RolloverCall) (s : Store) (constraints : Constraints s)
    (enrolled : Holds s institutionId studentNumber .active)
    (valid : Valid rt institutionId studentNumber calls s) :
    (∃ t, confirmAll rt calls s = .ok t ∧ OneActive institutionId studentNumber t) ↔
      FindsFree rt calls s := by
  induction calls generalizing s with
  | nil =>
    exact ⟨fun _ => trivial, fun _ => ⟨s, rfl, oneActive_of_holds constraints enrolled⟩⟩
  | cons c calls ih =>
    unfold Valid at valid
    unfold FindsFree confirmAll
    cases checked : (confirmRollover rt).check c s with
    | error e =>
      rw [checked] at valid
      exact absurd valid id
    | ok plan =>
      rw [checked] at valid
      obtain ⟨advances, later⟩ := valid
      obtain ⟨goes, leaves⟩ := advance_once constraints enrolled checked advances
      simp only [bind, Except.bind]
      cases committed : (confirmRollover rt).commit plan s with
      | error e =>
        constructor
        · rintro ⟨t, went, -⟩
          exact absurd went (by simp)
        · rintro ⟨free, -⟩
          obtain ⟨confirmed, t, went⟩ := goes.mpr free
          rw [committed] at went
          exact absurd went (by simp)
      | ok pair =>
        obtain ⟨confirmed, t⟩ := pair
        rw [committed] at later
        obtain ⟨kept, held⟩ := leaves confirmed t committed
        simp only
        rw [ih _ kept held later]
        exact ⟨fun rest => ⟨goes.mp ⟨confirmed, t, committed⟩, rest⟩, fun both => both.2⟩

/-! ### How far a student gets -/

instance (s : Store) (i : Uuid) (n : String) (status : EnrolmentStatus) :
    Decidable (Holds s i n status) :=
  inferInstanceAs (Decidable (∃ e ∈ s.enrolments.rows, enrolmentKey e = (i, n, status)))

/-- The statuses of going on that the student's enrolments have. -/
def spent (institutionId : Uuid) (studentNumber : String) (s : Store) : Finset EnrolmentStatus :=
  ({.promoted, .repeated} : Finset EnrolmentStatus).filter (Holds s institutionId studentNumber)

/-- **A call that goes through spends a status** of going on. -/
theorem spent_lt {c : RolloverCall} {plan : RolloverPlan} {s t : Store}
    {confirmed : List ConfirmedRollover} (constraints : Constraints s)
    (checked : (confirmRollover rt).check c s = .ok plan)
    (advances : Advances institutionId studentNumber plan s)
    (committed : (confirmRollover rt).commit plan s = .ok (confirmed, t)) :
    (spent institutionId studentNumber s).card < (spent institutionId studentNumber t).card := by
  have ready := ready_of_check checked constraints advances
  have after := confirmed_of_rows ready committed
  have free := (confirmRows_ok_iff ready).mp ⟨confirmed, t, committed⟩
  obtain ⟨d, inside, on, named⟩ := advances.student
  obtain ⟨e, read, number⟩ := Option.map_eq_some_iff.mp named
  obtain ⟨_, same, -, ofInstitution, -⟩ := ready.named d inside
  obtain rfl := Option.some.inj (read.symm.trans same)
  have going : enrolmentStatusForDecision d.decision ∈
      ({.promoted, .repeated} : Finset EnrolmentStatus) := by
    cases decision : d.decision <;> rw [decision] at on <;>
      simp_all [goesOn, enrolmentStatusForDecision]
  have written := after.written d inside e read
  have unwritten := free d inside e read
  rw [ofInstitution, advances.institution, number] at written unwritten
  refine Finset.card_lt_card (Finset.ssubset_iff_of_subset ?_ |>.mpr
    ⟨enrolmentStatusForDecision d.decision, ?_, ?_⟩)
  · intro status member
    obtain ⟨kind, held⟩ := Finset.mem_filter.mp member
    refine Finset.mem_filter.mpr ⟨kind, after.held ?_ held⟩
    rintro rfl
    exact absurd kind (by decide)
  · exact Finset.mem_filter.mpr ⟨going, written⟩
  · intro member
    obtain ⟨-, r, row, key⟩ := Finset.mem_filter.mp member
    exact unwritten r row key

/-- **Two calls at most.** A sequence of valid calls that promote or repeat a student stops after the
student has been promoted once and repeated once. -/
theorem length_le_two (calls : List RolloverCall) (s t : Store) (constraints : Constraints s)
    (enrolled : Holds s institutionId studentNumber .active)
    (valid : Valid rt institutionId studentNumber calls s)
    (went : confirmAll rt calls s = .ok t) : calls.length ≤ 2 := by
  have bounded : (spent institutionId studentNumber t).card ≤ 2 :=
    le_trans (Finset.card_filter_le _ _) (by decide)
  have counted : calls.length + (spent institutionId studentNumber s).card ≤
      (spent institutionId studentNumber t).card := by
    clear bounded
    induction calls generalizing s with
    | nil =>
      obtain rfl := Except.ok.inj went
      exact le_of_eq (Nat.zero_add _)
    | cons c calls ih =>
      obtain ⟨plan, checked, rest⟩ := bind_eq_ok.mp went
      obtain ⟨⟨confirmed, u⟩, committed, later⟩ := bind_eq_ok.mp rest
      unfold Valid at valid
      rw [checked] at valid
      obtain ⟨advances, next⟩ := valid
      rw [committed] at next
      obtain ⟨kept, held⟩ := (advance_once constraints enrolled checked advances).2 confirmed u
        committed
      have more := spent_lt constraints checked advances committed
      have tail := ih _ kept held next later
      have logged : spent institutionId studentNumber ((confirmRollover rt).log plan confirmed u) =
          spent institutionId studentNumber u := rfl
      rw [logged] at tail
      rw [List.length_cons]
      omega
  omega

end Chain

/-! ### A student promoted twice -/

instance (uuid : ℕ → Uuid) (taken : List Uuid) (index count : ℕ) :
    Decidable (FreshIds uuid taken index count) :=
  decidable_of_iff ((∀ i < count, uuid (index + i) ∉ taken) ∧
      ∀ i < count, ∀ j < count, uuid (index + i) = uuid (index + j) → i = j)
    ⟨fun both => ⟨both.1, both.2⟩, fun fresh => ⟨fresh.free, fresh.distinct⟩⟩

instance (plan : RolloverPlan) (s : Store) (d : RolloverDecisionInput) :
    Decidable (Targets plan s d) :=
  inferInstanceAs (Decidable ((∀ id ∈ plan.toSessionId d, (s.academicSessions.find? id).isSome) ∧
    ∀ id ∈ d.toStructureId.or plan.input.toStructureId, (s.academicStructures.find? id).isSome))

instance (i : Uuid) (n : String) (plan : RolloverPlan) (s : Store) :
    Decidable (Advances i n plan s) :=
  decidable_of_iff (plan.institution.uuid = i ∧ plan.input.enrolmentIds.Nodup ∧
      (∃ d ∈ plan.input.decisions, goesOn d.decision = true ∧
        (plan.enrolmentById d.enrolmentId).map (·.studentNumber) = some n) ∧
      (∀ d ∈ plan.input.decisions, Targets plan s d) ∧
      FreshIds plan.env.rolloverUuid (s.rolloverRecords.rows.map (·.uuid)) 0
        plan.input.decisions.length ∧
      FreshIds plan.env.enrolmentUuid (s.enrolments.rows.map (·.uuid)) 0
        plan.input.decisions.length)
    ⟨fun ⟨a, b, c, d, e, f⟩ => ⟨a, b, c, d, e, f⟩,
      fun has => ⟨has.1, has.2, has.3, has.4, has.5, has.6⟩⟩

instance (plan : RolloverPlan) (d : RolloverDecisionInput) (s : Store) :
    Decidable (Writable plan d s) :=
  inferInstanceAs (Decidable (∀ e ∈ plan.enrolmentById d.enrolmentId,
    ∀ e' ∈ s.enrolments.rows, enrolmentKey e' ≠
      (e.institutionId, e.studentNumber, enrolmentStatusForDecision d.decision)))

instance Valid.instDecidable (rt : Runtime) (i : Uuid) (n : String) :
    ∀ calls s, Decidable (Valid rt i n calls s)
  | [], _ => isTrue trivial
  | c :: cs, s =>
    match checked : (confirmRollover rt).check c s with
    | .error _ => isFalse (by unfold Valid; rw [checked]; exact id)
    | .ok plan =>
      match committed : (confirmRollover rt).commit plan s with
      | .error _ =>
        decidable_of_iff (Advances i n plan s)
          (by unfold Valid; simp only [checked, committed, and_true])
      | .ok (confirmed, t) =>
        have := Valid.instDecidable rt i n cs ((confirmRollover rt).log plan confirmed t)
        decidable_of_iff
          (Advances i n plan s ∧ Valid rt i n cs ((confirmRollover rt).log plan confirmed t))
          (by rw [Valid]; simp only [checked, committed])

instance FindsFree.instDecidable (rt : Runtime) :
    ∀ calls s, Decidable (FindsFree rt calls s)
  | [], _ => isTrue trivial
  | c :: cs, s =>
    match checked : (confirmRollover rt).check c s with
    | .error _ => isTrue (by unfold FindsFree; simp only [checked])
    | .ok plan =>
      match committed : (confirmRollover rt).commit plan s with
      | .error _ => decidable_of_iff (∀ d ∈ plan.input.decisions, Writable plan d s)
          (by unfold FindsFree; simp only [checked, committed, and_true])
      | .ok (confirmed, t) =>
        have := FindsFree.instDecidable rt cs ((confirmRollover rt).log plan confirmed t)
        decidable_of_iff ((∀ d ∈ plan.input.decisions, Writable plan d s) ∧
            FindsFree rt cs ((confirmRollover rt).log plan confirmed t))
          (by rw [FindsFree]; simp only [checked, committed])

/-- The sessions that the student goes through. -/
def sessionAt (number : ℕ) : AcademicSession :=
  { Departures.firstSession with
    uuid := ["b0000000-0000-4000-8000-000000000001", "b0000000-0000-4000-8000-000000000002",
      "b0000000-0000-4000-8000-000000000003"].getD number "" }

/-- The school of the rollovers, with two more sessions. -/
def threeSessions : Store :=
  { Departures.sessionSchool with
    academicSessions :=
      { rows := [sessionAt 0, sessionAt 1, sessionAt 2]
        nodup := by decide } }

/-- The enrolments that the student has one after the other. -/
def enrolmentAt (number : ℕ) : Uuid :=
  ["30000000-0000-4000-8000-000000000001", "30000000-0000-4000-8000-000000000002",
    "30000000-0000-4000-8000-000000000003"].getD number ""

/-- The student promoted from one session to the next. -/
def promotion (number : ℕ) : RolloverCall where
  env :=
    { pick := 0
      now := 10 + number
      rolloverUuid := fun _ => ["c0000000-0000-4000-8000-000000000001",
        "c0000000-0000-4000-8000-000000000002"].getD number ""
      enrolmentUuid := fun _ => enrolmentAt (number + 1) }
  auth := BatchHistory.founder
  body := .obj
    [("institutionId", .str "ACD-0001"), ("fromSessionId", .str (sessionAt number).uuid),
      ("toSessionId", .str (sessionAt (number + 1)).uuid),
      ("decisions", .arr [.obj
        [("enrolmentId", .str (enrolmentAt number)), ("decision", .str "PROMOTED")]])]

theorem constraints_threeSessions : Constraints threeSessions where
  keys := by decide
  sessions := by decide
  structures := by decide
  records := by decide

/-- A student promoted once. -/
theorem progresses_iff_once :
    ∃ t, confirmAll .plain [promotion 0] threeSessions = .ok t ∧
      OneActive "10000000-0000-4000-8000-000000000001" "S-1" t :=
  (progresses_iff [promotion 0] threeSessions constraints_threeSessions (by decide)
    (by decide)).mpr (by decide)

/-- **A student cannot be promoted twice**: the enrolment of the first session keeps the status that
the one of the second session would get. -/
theorem progresses_fails :
    ¬ ∀ (rt : Runtime) (calls : List RolloverCall) (s : Store) (institutionId : Uuid)
      (studentNumber : String), Constraints s → Holds s institutionId studentNumber .active →
        Valid rt institutionId studentNumber calls s →
          ∃ t, confirmAll rt calls s = .ok t ∧ OneActive institutionId studentNumber t := by
  intro all
  obtain ⟨t, went, -⟩ := all .plain [promotion 0, promotion 1] threeSessions
    "10000000-0000-4000-8000-000000000001" "S-1" constraints_threeSessions (by decide)
    (by decide)
  have failed : (confirmAll .plain [promotion 0, promotion 1] threeSessions).toOption.isSome =
      false := by decide
  rw [went] at failed
  exact absurd failed (by simp [Except.toOption])

end AcadID.Progression
