/-
**One departure for each enrolment.**

Any number of calls of `confirmRollover` and `reviewTransferRequest` in flight together, the checks
of each ahead of its transaction.

* `Departed` — what a transaction that moves some enrolments does to their statuses and to the
  count of their approved rollover records; `departed_of_commit` — every transaction is one.
* `departures_iff` — **each enrolment leaves `ACTIVE` at most once and has at most one approved
  record, throughout a run, exactly when every transaction that goes through moves different
  enrolments, finds each of them still active, and none had an approved record at the start**. An
  approval looks again at the enrolment it moves; a rollover does not, nor at its own decisions.
-/

import AcadID.Gateway.BatchHistory
import AcadID.Gateway.Transfers
import AcadID.Lib.Run

namespace AcadID.Departures

open Lib Rollovers Transfers

/-! ### Approved records -/

def isApprovalOf (id : Uuid) (r : RolloverRecord) : Bool :=
  r.enrolmentId == some id && r.status == .approved

/-- How many approved rollover records an enrolment has. -/
def approvals (s : Store) (id : Uuid) : ℕ :=
  s.rolloverRecords.rows.countP (isApprovalOf id)

/-- Every enrolment has at most one approved rollover record. -/
def Single (s : Store) : Prop :=
  ∀ e ∈ s.enrolments.rows, approvals s e.uuid ≤ 1

instance (s : Store) : Decidable (Single s) :=
  inferInstanceAs (Decidable (∀ e ∈ s.enrolments.rows, approvals s e.uuid ≤ 1))

/-- Rollover records are of enrolments that exist. -/
def Linked (s : Store) : Prop :=
  ∀ r ∈ s.rolloverRecords.rows, ∀ id, r.enrolmentId = some id → (s.enrolments.find? id).isSome

theorem approvals_absent {s : Store} (linked : Linked s) {id : Uuid}
    (absent : s.enrolments.find? id = none) : approvals s id = 0 := by
  refine List.countP_eq_zero.mpr fun r inside approves => ?_
  unfold isApprovalOf at approves
  rw [Bool.and_eq_true, beq_iff_eq] at approves
  have present := linked r inside id approves.1
  rw [absent] at present
  exact absurd present (by simp)

theorem statusOf_isSome {s : Store} {id : Uuid} :
    (statusOf s id).isSome = (s.enrolments.find? id).isSome := by
  unfold statusOf
  rw [Option.isSome_map]

theorem single_iff {s : Store} : Single s ↔ ∀ id, (statusOf s id).isSome → approvals s id ≤ 1 := by
  constructor
  · intro single id present
    rw [statusOf_isSome, Option.isSome_iff_exists] at present
    obtain ⟨e, found⟩ := present
    have here := single e (Table.find?_mem found)
    rw [Table.find?_key found] at here
    exact here
  · intro all e inside
    refine all e.uuid ?_
    rw [statusOf_isSome, Table.find?_eq_some.mpr ⟨inside, rfl⟩]
    rfl

/-! ### What a transaction does -/

/-- The enrolments `ids` have departed: they are active no more, and each has one more approved
record for each time it is named. -/
structure Departed (s t : Store) (ids : List Uuid) : Prop where
  active : ∀ k, (statusOf s k).isSome →
    (statusOf t k = some .active ↔ statusOf s k = some .active ∧ k ∉ ids)
  stays : ∀ k, (statusOf s k).isSome → (statusOf t k).isSome
  approved : ∀ k, approvals t k = approvals s k + ids.count k
  linked : Linked s → Linked t

theorem departed_of_same {s t : Store} (enrolments : t.enrolments = s.enrolments)
    (records : t.rolloverRecords = s.rolloverRecords) : Departed s t [] where
  active k present := by
    unfold statusOf
    rw [enrolments]
    exact ⟨fun is => ⟨is, by simp⟩, fun both => both.1⟩
  stays k present := by
    unfold statusOf
    rw [enrolments]
    exact present
  approved k := by
    unfold approvals
    rw [records, List.count_nil, Nat.add_zero]
  linked old := by
    unfold Linked
    rw [enrolments, records]
    exact old

theorem Departed.trans {s t u : Store} {ids ids' : List Uuid} (first : Departed s t ids)
    (second : Departed t u ids') : Departed s u (ids ++ ids') where
  active k present := by
    rw [second.active k (first.stays k present), first.active k present, List.mem_append, not_or,
      and_assoc]
  stays k present := second.stays k (first.stays k present)
  approved k := by rw [second.approved, first.approved, List.count_append, Nat.add_assoc]
  linked old := second.linked (first.linked old)

/-- **One enrolment moved out of `ACTIVE`**, with a new approved record of it; more enrolments may
come. -/
theorem departed_one {s t : Store} {id : Uuid} (exit : Enrolment → Enrolment)
    (keeps : ∀ e, (exit e).uuid = e.uuid) {record : RolloverRecord}
    (left : ∀ e, (exit e).status ≠ .active) (present : (s.enrolments.find? id).isSome)
    (enrolments : ∀ k e, (s.enrolments.update id exit keeps).find? k = some e →
      t.enrolments.find? k = some e)
    (records : s.rolloverRecords.insert record = some t.rolloverRecords)
    (of : record.enrolmentId = some id) (approved : record.status = .approved) :
    Departed s t [id] where
  active k here := by
    obtain ⟨e, found⟩ := Option.isSome_iff_exists.mp (statusOf_isSome ▸ here)
    unfold statusOf
    rw [List.mem_singleton]
    by_cases same : id = k
    · have moved := enrolments k (exit e) (by rw [Table.find?_update, if_pos same, found]; rfl)
      rw [moved, found]
      simp [left e, same]
    · have kept := enrolments k e (by rw [Table.find?_update, if_neg same, found])
      rw [kept, found]
      exact ⟨fun is => ⟨is, Ne.symm same⟩, fun both => both.1⟩
  stays k here := by
    rw [statusOf_isSome] at here ⊢
    rw [← Table.find?_update_isSome s.enrolments id exit keeps] at here
    obtain ⟨e, found⟩ := Option.isSome_iff_exists.mp here
    rw [enrolments k e found]
    rfl
  approved k := by
    unfold approvals
    rw [(Table.insert_eq_some.mp records).2, List.countP_append, List.countP_singleton,
      List.count_singleton]
    unfold isApprovalOf
    rw [of, approved]
    simp
  linked old := by
    intro r inside k is
    rw [(Table.insert_eq_some.mp records).2] at inside
    have there : (s.enrolments.find? k).isSome := by
      rcases List.mem_append.mp inside with before | new
      · exact old r before k is
      · rw [List.mem_singleton.mp new, of] at is
        exact Option.some.inj is ▸ present
    rw [← Table.find?_update_isSome s.enrolments id exit keeps] at there
    obtain ⟨e, found⟩ := Option.isSome_iff_exists.mp there
    rw [enrolments k e found]
    rfl

theorem decided_status (decision : RolloverDecision) (now : Time) (e : Enrolment) :
    (decided decision now e).status ≠ .active := by
  cases decision <;> exact fun is => absurd is (by simp [decided, enrolmentStatusForDecision])

/-- **One decision** moves the enrolment it names. -/
theorem departed_of_decision {plan : RolloverPlan} {index : ℕ} {decision : RolloverDecisionInput}
    {s t : Store} {row : ConfirmedRollover}
    (confirmed : confirmDecision plan index decision s = .ok (row, t)) :
    Departed s t [decision.enrolmentId] := by
  obtain ⟨e, enrolments, rollovers, read, ⟨old, found, -⟩, recorded, continues, rfl⟩ :=
    confirmDecision_spec confirmed
  have present : (s.enrolments.find? decision.enrolmentId).isSome := by
    rw [← (enrolmentById_spec read).2, found]
    rfl
  refine departed_one (decided decision.decision plan.env.now) (fun _ => rfl)
    (decided_status _ _) present ?_ recorded ?_ rfl
  · intro k found same
    unfold Continues at continues
    rw [(enrolmentById_spec read).2] at continues
    by_cases on : goesOn decision.decision
    · rw [if_pos on] at continues
      show enrolments.find? k = some found
      rw [Table.find?_insert continues, if_neg ?_]
      · exact same
      · intro taken
        exact (Table.insert_eq_some.mp continues).1 found (Table.find?_mem same)
          ((Table.find?_key same).trans taken.symm)
    · rw [if_neg on] at continues
      show enrolments.find? k = some found
      rw [continues]
      exact same
  · exact congrArg some (enrolmentById_spec read).2

/-- **A rollover** moves the enrolments its decisions name. -/
theorem departed_of_rows {plan : RolloverPlan} {index : ℕ}
    {decisions : List RolloverDecisionInput} {s t : Store} {rows : List ConfirmedRollover}
    (confirmed : confirmRows plan index decisions s = .ok (rows, t)) :
    Departed s t (decisions.map (·.enrolmentId)) := by
  induction decisions generalizing index s rows with
  | nil =>
    obtain ⟨-, rfl⟩ := Prod.mk.inj (Except.ok.inj confirmed)
    exact departed_of_same rfl rfl
  | cons decision decisions ih =>
    obtain ⟨row, rest, u, first, later, -⟩ := confirmRows_cons.mp confirmed
    exact (departed_of_decision first).trans (ih later)

/-- **An approval** moves the source enrolment of its request, which it finds active. -/
theorem departed_of_approval {plan : ReviewTransferPlan} {s t : Store} {transfer : TransferRequest}
    (approved : approveTransfer plan s = .ok (transfer, t)) :
    ∃ id, plan.existing.fromEnrolmentId = some id ∧ statusOf s id = some .active ∧
      Departed s t [id] := by
  obtain ⟨e, fromSessionId, rollovers, source, -, recorded, -, rfl⟩ := approveTransfer_spec approved
  obtain ⟨from_, found, active⟩ := sourceEnrolment_spec source
  refine ⟨e.uuid, from_, ?_, ?_⟩
  · unfold statusOf
    rw [found, Option.map_some, active]
  · refine departed_one plan.transferredOut (fun _ => rfl)
      (fun _ is => absurd is (by simp [ReviewTransferPlan.transferredOut])) ?_
      (fun _ _ same => same) recorded rfl rfl
    rw [found]
    rfl

/-! ### Calls in flight together -/

abbrev DepartureCall := RolloverCall ⊕ ReviewTransferCall
abbrev DeparturePlan := RolloverPlan ⊕ ReviewTransferPlan
abbrev DeparturePool := Pool Store DeparturePlan (List ConfirmedRollover ⊕ TransferRequest)

/-- `confirmRollover` and `reviewTransferRequest` as one method. -/
def departureMethods (rt : Runtime) : Method Store ServiceError DepartureCall DeparturePlan
    (List ConfirmedRollover ⊕ TransferRequest) :=
  (confirmRollover rt).sum reviewTransferRequest

/-- The enrolments that a transaction moves. -/
def moves : DeparturePlan → List Uuid
  | .inl plan => plan.input.enrolmentIds
  | .inr plan =>
    if plan.input.decision = .approve then plan.existing.fromEnrolmentId.toList else []

theorem moves_approve {plan : ReviewTransferPlan} {id : Uuid}
    (approves : plan.input.decision = .approve) (from_ : plan.existing.fromEnrolmentId = some id) :
    moves (.inr plan) = [id] := by
  show (if plan.input.decision = .approve then plan.existing.fromEnrolmentId.toList else []) = [id]
  rw [if_pos approves, from_]
  rfl

theorem moves_close {plan : ReviewTransferPlan} (closes : plan.input.decision ≠ .approve) :
    moves (.inr plan) = [] :=
  if_neg closes

theorem departed_of_commit {rt : Runtime} {plan : DeparturePlan} {s t : Store}
    {res : List ConfirmedRollover ⊕ TransferRequest}
    (committed : (departureMethods rt).commit plan s = .ok (res, t)) :
    Departed s t (moves plan) := by
  rcases Method.sum_commit committed with ⟨p, rows, rfl, confirmed⟩ | ⟨p, row, rfl, reviewed⟩
  · exact departed_of_rows confirmed
  · rcases reviewTransferCommit_spec reviewed with ⟨approves, approved⟩ | ⟨closes, -, -, -, rfl⟩
    · obtain ⟨id, from_, -, departed⟩ := departed_of_approval approved
      rw [moves_approve approves from_]
      exact departed
    · rw [moves_close closes]
      exact departed_of_same rfl rfl

theorem departed_of_log {rt : Runtime} (plan : DeparturePlan)
    (res : List ConfirmedRollover ⊕ TransferRequest) (s : Store) :
    Departed s ((departureMethods rt).log plan res s) [] := by
  cases plan <;> cases res <;> exact departed_of_same rfl rfl

/-- **A turn** moves the enrolments of the transaction it lets through, if any. -/
theorem departed_of_turn {rt : Runtime} (p : DeparturePool) (e : Turn DepartureCall) :
    Departed p.store ((departureMethods rt).turn p e).store
      (((departureMethods rt).committing p e).elim [] fun went => moves went.1) := by
  cases goes : (departureMethods rt).committing p e with
  | none =>
    rcases Method.turn_of_not_committing goes with ⟨same, -⟩ | ⟨plan, res, same, -⟩
    · rw [same]
      exact departed_of_same rfl rfl
    · rw [same]
      exact departed_of_log plan res p.store
  | some went =>
    obtain ⟨plan, res, t⟩ := went
    rw [(Method.turn_of_committing goes).1]
    exact departed_of_commit (Method.committing_spec goes).2

/-! ### Leaving `ACTIVE` -/

/-- The turn takes the enrolment out of `ACTIVE`. -/
def Leaves (rt : Runtime) (id : Uuid) (p : DeparturePool) (e : Turn DepartureCall) : Prop :=
  statusOf p.store id = some .active ∧
    statusOf ((departureMethods rt).turn p e).store id ≠ some .active

instance (rt : Runtime) (id : Uuid) (p : DeparturePool) (e : Turn DepartureCall) :
    Decidable (Leaves rt id p e) :=
  inferInstanceAs (Decidable (_ ∧ _))

/-- **No enrolment comes back**: it leaves `ACTIVE` at most once, whatever the run. -/
theorem leaves_once (rt : Runtime) (id : Uuid) (p : DeparturePool)
    (events : List (Turn DepartureCall)) :
    occurrences (departureMethods rt).turn (Leaves rt id) p events ≤ 1 := by
  refine occurrences_le_one (fun p =>
    (statusOf p.store id).isSome ∧ statusOf p.store id ≠ some .active) ?_ ?_ ?_ p events
  · intro q e leaves
    have present : (statusOf q.store id).isSome := by
      rw [leaves.1]
      rfl
    exact ⟨(departed_of_turn q e).stays id present, leaves.2⟩
  · intro q e gone
    refine ⟨(departed_of_turn q e).stays id gone.1, fun back => gone.2 ?_⟩
    exact (((departed_of_turn q e).active id gone.1).mp back).1
  · intro q e gone leaves
    exact gone.2 leaves.1

/-! ### The exact condition -/

/-- A transaction that goes through moves different enrolments, each still active and without an
approved record at the start. -/
def MovesOnce (start : Store) (rt : Runtime) (p : DeparturePool) (e : Turn DepartureCall) : Prop :=
  ∀ plan res t, (departureMethods rt).committing p e = some (plan, res, t) →
    (moves plan).Nodup ∧
      ∀ id ∈ moves plan, statusOf p.store id = some .active ∧ approvals start id = 0

/-- What the transactions keep. -/
structure DepartureInv (start s : Store) : Prop where
  linked : Linked s
  single : Single s
  kept : ∀ k, approvals start k ≤ approvals s k
  unrolled : ∀ k, statusOf s k = some .active → approvals start k = 0 → approvals s k = 0

/-- The enrolments that a plan in flight moves were active when it was checked: they still are, or
a transaction in between has moved them and left its record. -/
def Read (plan : DeparturePlan) (s : Store) : Prop :=
  ∀ p, plan = .inl p → ∀ id ∈ p.input.enrolmentIds, (statusOf s id).isSome ∧
    (statusOf s id = some .active ∨ 1 ≤ approvals s id)

theorem read_of_check {rt : Runtime} {c : DepartureCall} {s : Store} {plan : DeparturePlan}
    (checked : (departureMethods rt).check c s = .ok plan) : Read plan s := by
  intro p same id inside
  rcases Method.sum_check checked with ⟨c', p', is, first⟩ | ⟨c', p', is, -⟩
  · obtain rfl := Sum.inl.inj (same.symm.trans is)
    obtain ⟨-, -, planned⟩ := rolloverCheck_spec first
    obtain ⟨e, eligible, rfl⟩ := planned.named id inside
    rw [planned.enrolments] at eligible
    obtain ⟨row, -, -, active⟩ := mem_eligible eligible
    have here : statusOf s e.uuid = some .active := by
      unfold statusOf
      rw [Table.find?_eq_some.mpr ⟨row, rfl⟩, Option.map_some, active]
    refine ⟨?_, .inl here⟩
    rw [here]
    rfl
  · rw [same] at is
    exact absurd is (by simp)

/-- What a plan in flight has read stays read, whatever departs. -/
theorem read_departed {plan : DeparturePlan} {s t : Store} {ids : List Uuid}
    (departed : Departed s t ids) (read : Read plan s) : Read plan t := by
  intro p same id inside
  obtain ⟨present, active | approved⟩ := read p same id inside
  · refine ⟨departed.stays id present, ?_⟩
    by_cases named : id ∈ ids
    · right
      rw [departed.approved id]
      exact le_trans (List.count_pos_iff.mpr named) (Nat.le_add_left ..)
    · exact .inl ((departed.active id present).mpr ⟨active, named⟩)
  · refine ⟨departed.stays id present, .inr ?_⟩
    rw [departed.approved id]
    exact le_trans approved (Nat.le_add_right ..)

/-- **A guarded departure** keeps the invariant. -/
theorem departureInv_departed {start s t : Store} {ids : List Uuid} (departed : Departed s t ids)
    (inv : DepartureInv start s) (nodup : ids.Nodup)
    (once : ∀ id ∈ ids, statusOf s id = some .active ∧ approvals start id = 0) :
    DepartureInv start t where
  linked := departed.linked inv.linked
  single := by
    refine single_iff.mpr fun k _ => ?_
    rw [departed.approved k]
    by_cases named : k ∈ ids
    · rw [inv.unrolled k (once k named).1 (once k named).2, List.count_eq_one_of_mem nodup named]
    · rw [List.count_eq_zero.mpr named, Nat.add_zero]
      by_cases present : (statusOf s k).isSome
      · exact single_iff.mp inv.single k present
      · rw [statusOf_isSome, Option.not_isSome_iff_eq_none] at present
        rw [approvals_absent inv.linked present]
        exact Nat.zero_le 1
  kept k := by
    rw [departed.approved k]
    exact le_trans (inv.kept k) (Nat.le_add_right ..)
  unrolled k active fresh := by
    have unnamed : k ∉ ids := by
      intro named
      have present : (statusOf s k).isSome := by
        rw [(once k named).1]
        rfl
      exact ((departed.active k present).mp active).2 named
    rw [departed.approved k, List.count_eq_zero.mpr unnamed, Nat.add_zero]
    by_cases present : (statusOf s k).isSome
    · exact inv.unrolled k ((departed.active k present).mp active).1 fresh
    · rw [statusOf_isSome, Option.not_isSome_iff_eq_none] at present
      exact approvals_absent inv.linked present

/-- The enrolments that a transaction moves are there, and active or approved, when it moves them. -/
theorem moved_read {rt : Runtime} {plan : DeparturePlan} {s t : Store}
    {res : List ConfirmedRollover ⊕ TransferRequest} (read : Read plan s)
    (committed : (departureMethods rt).commit plan s = .ok (res, t)) :
    ∀ id ∈ moves plan, (statusOf s id).isSome ∧
      (statusOf s id = some .active ∨ 1 ≤ approvals s id) := by
  rcases Method.sum_commit committed with ⟨p, rows, rfl, -⟩ | ⟨p, row, rfl, reviewed⟩
  · exact read p rfl
  · intro id inside
    rcases reviewTransferCommit_spec reviewed with ⟨approves, approved⟩ | ⟨closes, -⟩
    · obtain ⟨id', from_, active, -⟩ := departed_of_approval approved
      rw [moves_approve approves from_, List.mem_singleton] at inside
      rw [inside, active]
      exact ⟨rfl, .inl rfl⟩
    · rw [moves_close closes] at inside
      exact absurd inside (by simp)

/-- **An unguarded departure** gives an enrolment a second approved record. -/
theorem not_single_departed {start s t : Store} {ids : List Uuid} (departed : Departed s t ids)
    (inv : DepartureInv start s)
    (read : ∀ id ∈ ids, (statusOf s id).isSome ∧
      (statusOf s id = some .active ∨ 1 ≤ approvals s id))
    (unguarded : ¬ (ids.Nodup ∧
      ∀ id ∈ ids, statusOf s id = some .active ∧ approvals start id = 0)) : ¬ Single t := by
  have twice : ∀ id ∈ ids, 2 ≤ approvals t id → ¬ Single t := by
    intro id inside two single
    have one := single_iff.mp single id (departed.stays id (read id inside).1)
    omega
  by_cases nodup : ids.Nodup
  · have some_ : ∃ id ∈ ids, ¬ (statusOf s id = some .active ∧ approvals start id = 0) := by
      by_contra none
      push Not at none
      exact unguarded ⟨nodup, none⟩
    obtain ⟨id, inside, not_⟩ := some_
    have before : 1 ≤ approvals s id := by
      rcases (read id inside).2 with active | approved
      · have old : approvals start id ≠ 0 := fun fresh => not_ ⟨active, fresh⟩
        exact le_trans (Nat.pos_of_ne_zero old) (inv.kept id)
      · exact approved
    refine twice id inside ?_
    rw [departed.approved id, List.count_eq_one_of_mem nodup inside]
    omega
  · rw [List.nodup_iff_count] at nodup
    push Not at nodup
    obtain ⟨id, repeated⟩ := nodup
    refine twice id (List.count_pos_iff.mp (by omega)) ?_
    rw [departed.approved id]
    omega

/-- **One turn.** A guarded turn keeps the invariant of the store and of the plans in flight. -/
theorem flight_turn {start : Store} {rt : Runtime} {p : DeparturePool} {e : Turn DepartureCall}
    (flight : Method.Flight (DepartureInv start) Read p) (once : MovesOnce start rt p e) :
    Method.Flight (DepartureInv start) Read ((departureMethods rt).turn p e) := by
  refine Method.turn_flight (fun _ _ _ _ checked => read_of_check checked) ?_ flight ?_
  · intro plan res s inv
    have departed := @departed_of_log rt plan res s
    refine ⟨departureInv_departed departed inv List.nodup_nil (by simp), ?_⟩
    exact fun other read => read_departed departed read
  · intro plan res t goes
    have departed := departed_of_commit (Method.committing_spec goes).2
    obtain ⟨nodup, each⟩ := once plan res t goes
    refine ⟨departureInv_departed departed flight.store nodup each, ?_⟩
    exact fun other read => read_departed departed read

/-- **One unguarded turn** breaks the property. -/
theorem not_single_turn {start : Store} {rt : Runtime} {p : DeparturePool} {e : Turn DepartureCall}
    (flight : Method.Flight (DepartureInv start) Read p) (twice : ¬ MovesOnce start rt p e) :
    ¬ Single ((departureMethods rt).turn p e).store := by
  unfold MovesOnce at twice
  push Not at twice
  obtain ⟨plan, res, t, goes, unguarded⟩ := twice
  obtain ⟨inFlight, committed⟩ := Method.committing_spec goes
  rw [(Method.turn_of_committing goes).1]
  refine not_single_departed (departed_of_commit committed) flight.store
    (moved_read (flight.inFlight plan inFlight) committed) ?_
  rintro ⟨nodup, each⟩
  obtain ⟨id, inside, not_⟩ := unguarded nodup
  exact absurd (each id inside).2 (not_ (each id inside).1)

/-- **The exact condition.** From a store that meets the schema's constraints, every enrolment leaves
`ACTIVE` at most once and has at most one approved rollover record in every state of a run, exactly
when it has at most one at the start and every transaction that goes through moves different
enrolments, each still active and without an approved record at the start. -/
theorem departures_iff (rt : Runtime) (s : Store) (events : List (Turn DepartureCall))
    (constraints : Constraints s) :
    (∀ id, occurrences (departureMethods rt).turn (Leaves rt id) ⟨s, []⟩ events ≤ 1) ∧
        Throughout (departureMethods rt).turn (fun p => Single p.store) ⟨s, []⟩ events ↔
      Single s ∧ Along (departureMethods rt).turn (MovesOnce s rt) ⟨s, []⟩ events := by
  have run : Single s → (Throughout (departureMethods rt).turn (fun p => Single p.store) ⟨s, []⟩
      events ↔ Along (departureMethods rt).turn (MovesOnce s rt) ⟨s, []⟩ events) := by
    intro single
    have start : Method.Flight (DepartureInv s) Read (⟨s, []⟩ : DeparturePool) :=
      ⟨⟨constraints.records, single, fun _ => le_refl _, fun _ _ fresh => fresh⟩, by simp⟩
    have keeps : ∀ p e, Method.Flight (DepartureInv s) Read p → MovesOnce s rt p e →
        Method.Flight (DepartureInv s) Read ((departureMethods rt).turn p e) :=
      fun _ _ => flight_turn
    have implies : ∀ p : DeparturePool, Method.Flight (DepartureInv s) Read p → Single p.store :=
      fun _ flight => flight.store.single
    have escapes : ∀ p e, Method.Flight (DepartureInv s) Read p → ¬ MovesOnce s rt p e →
        ¬ Single ((departureMethods rt).turn p e).store := fun _ _ => not_single_turn
    exact throughout_iff_of_exact keeps implies escapes start events
  constructor
  · rintro ⟨-, throughout⟩
    have single : Single s := throughout_iff_prefixes.mp throughout [] events rfl
    exact ⟨single, (run single).mp throughout⟩
  · rintro ⟨single, along⟩
    exact ⟨fun id => leaves_once rt id _ events, (run single).mpr along⟩

/-! ### One enrolment named twice -/

/-- The session of the enrolments to come. -/
def firstSession : AcademicSession where
  uuid := "b0000000-0000-4000-8000-000000000001"
  institutionId := "10000000-0000-4000-8000-000000000001"
  sessionLabel := "2023/2024"
  periodType := .term
  periodLabel := "First term"
  startDate := none
  endDate := none
  status := .active
  isCurrent := true
  createdById := none

/-- A school with a session, and a student enrolled in it. -/
def sessionSchool : Store :=
  { BatchHistory.school with
    academicSessions := { rows := [firstSession], nodup := List.nodup_singleton _ }
    enrolments := BatchHistory.school.enrolments.updateMany (fun _ => true)
      (fun e => { e with academicSessionId := some firstSession.uuid }) fun _ => rfl }

/-- A rollover in which the student withdraws as often as `times` says. -/
def withdrawal (times : ℕ) : RolloverCall where
  env :=
    { pick := 0
      now := 5
      rolloverUuid := fun index =>
        ["c0000000-0000-4000-8000-000000000001", "c0000000-0000-4000-8000-000000000002"].getD index ""
      enrolmentUuid := fun _ => "30000000-0000-4000-8000-000000000002" }
  auth := BatchHistory.founder
  body := .obj
    [("institutionId", .str "ACD-0001"), ("fromSessionId", .str firstSession.uuid),
      ("decisions", .arr (List.replicate times (.obj
        [("enrolmentId", .str "30000000-0000-4000-8000-000000000001"),
          ("decision", .str "WITHDRAWN")])))]

def withdrawalTurns (times : ℕ) : List (Turn DepartureCall) :=
  [.begin (.inl (withdrawal times)), .advance 0 .done]

instance (start : Store) (rt : Runtime) (p : DeparturePool) (e : Turn DepartureCall) :
    Decidable (MovesOnce start rt p e) :=
  match goes : (departureMethods rt).committing p e with
  | some (plan, _, _) =>
    decidable_of_iff ((moves plan).Nodup ∧ ∀ id ∈ moves plan,
        statusOf p.store id = some .active ∧ approvals start id = 0) (by
      unfold MovesOnce
      rw [goes]
      simp)
  | none => isTrue fun _ _ _ some_ => by rw [goes] at some_; exact absurd some_ (by simp)

theorem constraints_sessionSchool : Constraints sessionSchool where
  keys := by decide
  sessions := by decide
  structures := by decide
  records := by decide

/-- A student who withdraws once. -/
theorem departures_iff_once :
    Single sessionSchool ∧ Along (departureMethods .plain).turn (MovesOnce sessionSchool .plain)
      ⟨sessionSchool, []⟩ (withdrawalTurns 1) :=
  (departures_iff .plain sessionSchool (withdrawalTurns 1) constraints_sessionSchool).mp
    ⟨fun id => leaves_once .plain id _ _, by decide⟩

/-- **A rollover may name an enrolment twice**, and then writes two approved records of it. -/
theorem departures_fails :
    ¬ ∀ (rt : Runtime) (s : Store) (events : List (Turn DepartureCall)), Constraints s →
      (∀ id, occurrences (departureMethods rt).turn (Leaves rt id) ⟨s, []⟩ events ≤ 1) ∧
        Throughout (departureMethods rt).turn (fun p => Single p.store) ⟨s, []⟩ events := by
  intro all
  have twice := (all .plain sessionSchool (withdrawalTurns 2) constraints_sessionSchool).2
  have last := throughout_iff_prefixes.mp twice _ [] (List.append_nil _).symm
  exact absurd last (by decide)

end AcadID.Departures
