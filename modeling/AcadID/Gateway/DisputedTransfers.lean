/-
**Disputed transfer requests and their disputes.**

The founder escalates and closes disputes; the transfer request that a dispute is about is changed by
the operations on transfers alone.

* `escalateDispute` and `closeDispute` — one write each, on the dispute.
* `Coupled` — a request is disputed exactly when its dispute is there and not resolved.
* `coupled_commit` — **the exact condition for one transaction**: a review finds its request
  undisputed, a resolution follows the disputed request of its dispute, an escalation finds the
  linked request disputed and a close does not.
* `coupled_iff` — **requests stay coupled throughout a run exactly when every transaction meets it**;
  `coupled_fails` — a dispute closed by the founder.
-/

import AcadID.Gateway.TransferStatus

namespace AcadID.DisputedTransfers

open Lib Transfers

/-! ### The founder's operations -/

open Schema in
/-- `escalateDisputeSchema`, of one field: the reason. -/
def escalateDisputeSchema : Schema (Option String) :=
  object fun v => field v "reason" (optional (string [minLength 10, maxLength 1000]))

open Schema in
/-- `closeDisputeSchema`, of one field: the resolution note. -/
def closeDisputeSchema : Schema String :=
  object fun v => field v "resolutionNote" (string [minLength 10, maxLength 2000])

inductive AdminDisputeCall where
  | escalate (now : Time) (auth : AuthTokenPayload) (id : Uuid) (body : Json)
  | close (now : Time) (auth : AuthTokenPayload) (id : Uuid) (body : Json)

/-- A call whose body has parsed. -/
inductive AdminDisputePlan where
  | escalate (now : Time) (auth : AuthTokenPayload) (id : Uuid) (reason : Option String)
  | close (now : Time) (auth : AuthTokenPayload) (id : Uuid) (resolutionNote : String)

namespace AdminDisputePlan

def auth : AdminDisputePlan → AuthTokenPayload
  | .escalate _ auth _ _ | .close _ auth _ _ => auth

def id : AdminDisputePlan → Uuid
  | .escalate _ _ id _ | .close _ _ id _ => id

/-- What the operation writes on the dispute. -/
def written : AdminDisputePlan → Dispute → Dispute
  | .escalate now _ _ _, dispute =>
    { dispute with
      status := .escalated
      escalatedAt := some now }
  | .close now _ _ resolutionNote, dispute =>
    { dispute with
      status := .resolved
      resolvedAt := some now
      resolutionNote := some (Text.trim resolutionNote) }

theorem written_uuid (plan : AdminDisputePlan) (dispute : Dispute) :
    (plan.written dispute).uuid = dispute.uuid := by
  cases plan <;> rfl

def audit (plan : AdminDisputePlan) (dispute : Dispute) : AuditEvent where
  actorType := inferActorType none (some plan.auth.sub)
  actorId := some plan.auth.sub
  actorRole := some plan.auth.role
  action :=
    match plan with
    | .escalate .. => "dispute.escalate"
    | .close .. => "dispute.close"
  targetType := "Dispute"
  targetId := some plan.id
  institutionId := dispute.institutionId
  outcome := "SUCCESS"
  reason :=
    match plan with
    | .escalate _ _ _ reason => reason
    | .close _ _ _ resolutionNote => some resolutionNote
  metadata := .null

end AdminDisputePlan

/-- `escalateDispute` and `closeDispute` as one method. -/
def adminDisputes : Method Store ServiceError AdminDisputeCall AdminDisputePlan Dispute where
  check call _ :=
    match call with
    | .escalate now auth id body =>
      (parseBody escalateDisputeSchema body).map (.escalate now auth id)
    | .close now auth id body => (parseBody closeDisputeSchema body).map (.close now auth id)
  commit plan s := do
    let (dispute, disputes) ← updateRow s.disputes plan.id plan.written plan.written_uuid
    return (dispute, { s with disputes := disputes })
  log plan dispute s := s.audit (plan.audit dispute)

/-- The operations on transfer requests and on disputes. -/
def disputeMethods (rt : Runtime) :
    Method Store ServiceError (TransferCall ⊕ AdminDisputeCall) (TransferPlan ⊕ AdminDisputePlan)
      (TransferResponse ⊕ Dispute) :=
  (transferMethods rt).sum adminDisputes

abbrev DisputePool := Pool Store (TransferPlan ⊕ AdminDisputePlan) (TransferResponse ⊕ Dispute)

/-! ### The property -/

/-- The linked dispute is there and not resolved. -/
def Live (s : Store) (disputeId : Option Uuid) : Prop :=
  ∃ id dispute, disputeId = some id ∧ s.disputes.find? id = some dispute ∧ dispute.status ≠ .resolved

/-- The request is disputed exactly when its dispute is live. -/
def Follows (s : Store) (transfer : TransferRequest) : Prop :=
  transfer.status = .disputed ↔ Live s transfer.disputeId

/-- **Every request is disputed exactly when its dispute is live.** -/
def Coupled (s : Store) : Prop :=
  ∀ transfer ∈ s.transferRequests.rows, Follows s transfer

/-- The foreign key of the requests: a linked dispute is there. -/
def Referenced (s : Store) : Prop :=
  ∀ transfer ∈ s.transferRequests.rows, ∀ id, transfer.disputeId = some id →
    (s.disputes.find? id).isSome = true

/-! ### The condition -/

/-- What a transaction needs so that requests stay coupled. -/
def KeepsCoupled (plan : TransferPlan ⊕ AdminDisputePlan) (s : Store) : Prop :=
  match plan with
  | .inl (.review plan) => ∀ transfer ∈ s.transferRequests.rows,
    transfer.uuid = plan.existing.uuid → transfer.status ≠ .disputed
  | .inl (.resolve plan) => ∀ transfer ∈ s.transferRequests.rows, transfer.status = .disputed →
    (transfer.disputeId = some plan.disputeId ↔
      plan.transferRequest.map (·.uuid) = some transfer.uuid)
  | .inr (.escalate _ _ id _) => ∀ transfer ∈ s.transferRequests.rows,
    transfer.disputeId = some id → transfer.status = .disputed
  | .inr (.close _ _ id _) => ∀ transfer ∈ s.transferRequests.rows,
    transfer.disputeId = some id → transfer.status ≠ .disputed
  | _ => True

instance (plan : TransferPlan ⊕ AdminDisputePlan) (s : Store) : Decidable (KeepsCoupled plan s) :=
  match plan with
  | .inl (.create _) | .inl (.dispute _) => .isTrue trivial
  | .inl (.review plan) => inferInstanceAs (Decidable (∀ transfer ∈ s.transferRequests.rows,
      transfer.uuid = plan.existing.uuid → transfer.status ≠ .disputed))
  | .inl (.resolve plan) => inferInstanceAs (Decidable (∀ transfer ∈ s.transferRequests.rows,
      transfer.status = .disputed → (transfer.disputeId = some plan.disputeId ↔
        plan.transferRequest.map (·.uuid) = some transfer.uuid)))
  | .inr (.escalate _ _ id _) => inferInstanceAs (Decidable (∀ transfer ∈ s.transferRequests.rows,
      transfer.disputeId = some id → transfer.status = .disputed))
  | .inr (.close _ _ id _) => inferInstanceAs (Decidable (∀ transfer ∈ s.transferRequests.rows,
      transfer.disputeId = some id → transfer.status ≠ .disputed))

/-- **The transaction of this turn, if any, keeps requests coupled.** -/
def TurnKeepsCoupled (rt : Runtime) (p : DisputePool)
    (e : Turn (TransferCall ⊕ AdminDisputeCall)) : Prop :=
  ∀ plan res t, (disputeMethods rt).committing p e = some (plan, res, t) →
    KeepsCoupled plan p.store

instance (rt : Runtime) (p : DisputePool) (e : Turn (TransferCall ⊕ AdminDisputeCall)) :
    Decidable (TurnKeepsCoupled rt p e) :=
  match goes : (disputeMethods rt).committing p e with
  | none => .isTrue fun _ _ _ went => absurd (goes.symm.trans went) (by simp)
  | some (plan, res, t) => decidable_of_iff (KeepsCoupled plan p.store) (by
      refine ⟨fun kept plan' res' t' went => ?_, fun kept => kept plan res t goes⟩
      obtain ⟨rfl, -⟩ := Prod.mk.inj (Option.some.inj (goes.symm.trans went))
      exact kept)

/-! ### Disputes that a transaction writes -/

section Disputes

variable {s t : Store} {id : Uuid} {disputeId : Option Uuid}

/-- A dispute written as live makes what is linked to it live, and nothing else. -/
theorem live_of_open (here : ∃ dispute, t.disputes.find? id = some dispute ∧ dispute.status ≠ .resolved)
    (others : ∀ k, k ≠ id → t.disputes.find? k = s.disputes.find? k) :
    Live t disputeId ↔ disputeId = some id ∨ Live s disputeId := by
  constructor
  · rintro ⟨k, dispute, rfl, found, live⟩
    by_cases is : k = id
    · exact .inl (congrArg some is)
    · rw [others k is] at found
      exact .inr ⟨k, dispute, rfl, found, live⟩
  · rintro (rfl | ⟨k, dispute, rfl, found, live⟩)
    · obtain ⟨dispute, found, live⟩ := here
      exact ⟨id, dispute, rfl, found, live⟩
    · by_cases is : k = id
      · obtain ⟨now, found', live'⟩ := here
        exact ⟨k, now, rfl, is ▸ found', live'⟩
      · exact ⟨k, dispute, rfl, (others k is).trans found, live⟩

/-- A dispute written as resolved is not live, and any other stays as it is. -/
theorem live_of_resolved
    (here : ∀ dispute, t.disputes.find? id = some dispute → dispute.status = .resolved)
    (others : ∀ k, k ≠ id → t.disputes.find? k = s.disputes.find? k) :
    Live t disputeId ↔ disputeId ≠ some id ∧ Live s disputeId := by
  constructor
  · rintro ⟨k, dispute, rfl, found, live⟩
    have apart : k ≠ id := by
      rintro rfl
      exact live (here dispute found)
    rw [others k apart] at found
    exact ⟨fun same => apart (Option.some.inj same), k, dispute, rfl, found, live⟩
  · rintro ⟨apart, k, dispute, rfl, found, live⟩
    have other : k ≠ id := fun is => apart (congrArg some is)
    exact ⟨k, dispute, rfl, (others k other).trans found, live⟩

end Disputes

/-! ### Requests that a transaction writes -/

/-- A request once the one that an operation follows is updated. -/
def followedRow (snapshot : Option TransferRequest)
    (f : TransferRequest → TransferRequest → TransferRequest) (transfer : TransferRequest) :
    TransferRequest :=
  match snapshot with
  | some read => if transfer.uuid = read.uuid then f read transfer else transfer
  | none => transfer

theorem rows_followed (snapshot : Option TransferRequest)
    (f : TransferRequest → TransferRequest → TransferRequest)
    (keeps : ∀ t r, (f t r).uuid = r.uuid) (transfers : Table TransferRequest.uuid) :
    (followed snapshot f keeps transfers).rows = transfers.rows.map (followedRow snapshot f) := by
  cases snapshot with
  | none => exact (List.map_id _).symm
  | some read =>
    exact Table.rows_update _ _ _ (keeps read)

/-- The request is the one that is followed, or it stays as it is. -/
theorem followedRow_cases (snapshot : Option TransferRequest)
    (f : TransferRequest → TransferRequest → TransferRequest) (transfer : TransferRequest) :
    (snapshot.map (·.uuid) = some transfer.uuid ∧
        ∃ read, snapshot = some read ∧ followedRow snapshot f transfer = f read transfer) ∨
      (snapshot.map (·.uuid) ≠ some transfer.uuid ∧ followedRow snapshot f transfer = transfer) := by
  cases snapshot with
  | none => exact .inr ⟨by simp, rfl⟩
  | some read =>
    by_cases is : transfer.uuid = read.uuid
    · exact .inl ⟨by simp [is], read, rfl, if_pos is⟩
    · exact .inr ⟨by simpa using fun same => is same.symm, if_neg is⟩

section Rows

variable {s t : Store} {after : TransferRequest → TransferRequest}

theorem coupled_iff_rows
    (rows : t.transferRequests.rows = s.transferRequests.rows.map after) :
    Coupled t ↔ ∀ transfer ∈ s.transferRequests.rows, Follows t (after transfer) := by
  unfold Coupled
  rw [rows, List.forall_mem_map]

/-- Links stay backed when each is the one there was or one to a dispute that is there. -/
theorem referenced_of_rows (referenced : Referenced s)
    (rows : t.transferRequests.rows = s.transferRequests.rows.map after)
    (stay : ∀ id, (s.disputes.find? id).isSome = true → (t.disputes.find? id).isSome = true)
    (links : ∀ transfer ∈ s.transferRequests.rows, (after transfer).disputeId = transfer.disputeId ∨
      ∃ id, (after transfer).disputeId = some id ∧ (t.disputes.find? id).isSome = true) :
    Referenced t := by
  intro row inside id of
  rw [rows] at inside
  obtain ⟨transfer, there, rfl⟩ := List.mem_map.mp inside
  rcases links transfer there with same | ⟨new, linked, found⟩
  · exact stay id (referenced transfer there id (same ▸ of))
  · rw [linked] at of
    rw [← Option.some.inj of]
    exact found

end Rows

/-! ### The exact condition for one transaction -/

section Commits

variable {rt : Runtime} {s t : Store}

theorem coupled_create {plan : CreateTransferPlan} {transfer : TransferRequest}
    (coupled : Coupled s) (referenced : Referenced s)
    (written : createTransferCommit rt plan s = .ok (transfer, t)) : Coupled t ∧ Referenced t := by
  obtain ⟨transfers, inserted, rfl⟩ := createTransferCommit_spec written
  obtain ⟨-, rows⟩ := Table.insert_eq_some.mp inserted
  have split : ∀ row ∈ transfers.rows, row ∈ s.transferRequests.rows ∨ row = newTransfer rt plan := by
    intro row inside
    rwa [rows, List.mem_append, List.mem_singleton] at inside
  refine ⟨fun row inside => ?_, fun row inside id of => ?_⟩
  · rcases split row inside with old | rfl
    · exact coupled row old
    · refine ⟨fun disputed => absurd disputed (by simp [newTransfer]), ?_⟩
      rintro ⟨id, -, linked, -⟩
      exact absurd linked (by simp [newTransfer])
  · rcases split row inside with old | rfl
    · exact referenced row old id of
    · exact absurd of (by simp [newTransfer])

/-- A review leaves its request undisputed, and its link. -/
theorem reviewTransferCommit_rows {plan : ReviewTransferPlan} {transfer : TransferRequest}
    (written : reviewTransferCommit plan s = .ok (transfer, t)) :
    ∃ f : TransferRequest → TransferRequest, (∀ row, (f row).disputeId = row.disputeId) ∧
      (∀ row, (f row).status ≠ .disputed) ∧ t.disputes = s.disputes ∧
        t.transferRequests.rows = s.transferRequests.rows.map fun row =>
          if row.uuid = plan.existing.uuid then f row else row := by
  rcases reviewTransferCommit_spec written with ⟨-, approved⟩ | ⟨-, status, ends, -, rfl⟩
  · obtain ⟨-, -, rollovers, -, -, -, -, rfl⟩ := approveTransfer_spec approved
    exact ⟨plan.completed, fun _ => rfl, fun _ => by simp [ReviewTransferPlan.completed], rfl,
      Table.rows_update _ _ plan.completed fun _ => rfl⟩
  · refine ⟨plan.closed status, fun _ => rfl, fun row => ?_, rfl,
      Table.rows_update _ _ (plan.closed status) fun _ => rfl⟩
    show status ≠ .disputed
    rcases ends with rfl | rfl <;> decide

theorem live_congr (same : t.disputes = s.disputes) (disputeId : Option Uuid) :
    Live t disputeId ↔ Live s disputeId := by
  unfold Live
  rw [same]

/-- **A review** keeps requests coupled exactly when it finds its request undisputed. -/
theorem coupled_review {plan : ReviewTransferPlan} {transfer : TransferRequest}
    (coupled : Coupled s) (referenced : Referenced s)
    (written : reviewTransferCommit plan s = .ok (transfer, t)) :
    (Coupled t ↔ KeepsCoupled (.inl (.review plan)) s) ∧ Referenced t := by
  obtain ⟨f, linked, undisputed, disputes, rows⟩ := reviewTransferCommit_rows written
  constructor
  · rw [coupled_iff_rows rows]
    refine forall₂_congr fun row inside => ?_
    have was : row.status = .disputed ↔ Live s row.disputeId := coupled row inside
    unfold Follows
    rw [live_congr disputes]
    by_cases is : row.uuid = plan.existing.uuid
    · rw [if_pos is, linked, ← was]
      have never := undisputed row
      tauto
    · rw [if_neg is]
      tauto
  · refine referenced_of_rows referenced rows (fun id found => ?_) fun row _ => .inl ?_
    · rw [disputes]
      exact found
    · split
      · exact linked row
      · rfl

/-- **A dispute** keeps requests coupled. -/
theorem coupled_dispute {plan : DisputePlan} {dispute : Dispute}
    (coupled : Coupled s) (referenced : Referenced s)
    (written : createDisputeCommit plan s = .ok (dispute, t)) : Coupled t ∧ Referenced t := by
  obtain ⟨-, requests, inserted⟩ := createDisputeCommit_spec written
  have rows := (congrArg (·.rows) requests).trans (rows_followed _ _ _ _)
  have found : t.disputes.find? plan.env.disputeUuid = some plan.dispute := by
    rw [Table.find?_insert inserted]
    exact if_pos rfl
  have others : ∀ k, k ≠ plan.env.disputeUuid → t.disputes.find? k = s.disputes.find? k := by
    intro k apart
    rw [Table.find?_insert inserted]
    exact if_neg apart.symm
  have live : ∀ link, Live t link ↔ link = some plan.env.disputeUuid ∨ Live s link :=
    fun link => live_of_open ⟨_, found, by simp [DisputePlan.dispute]⟩ others
  constructor
  · refine (coupled_iff_rows rows).mpr fun row inside => ?_
    unfold Follows
    rw [live]
    rcases followedRow_cases plan.transferRequest plan.disputed row with
      ⟨-, read, -, same⟩ | ⟨-, same⟩
    · rw [same]
      exact ⟨fun _ => .inl rfl, fun _ => rfl⟩
    · rw [same]
      have was : row.status = .disputed ↔ Live s row.disputeId := coupled row inside
      have fresh : row.disputeId ≠ some plan.env.disputeUuid := by
        intro of
        have absent : (s.disputes.find? plan.env.disputeUuid).isSome = false :=
          Table.insert_iff_absent.mp ⟨_, inserted⟩
        exact absurd (referenced row inside _ of) (by simp [absent])
      tauto
  · refine referenced_of_rows referenced rows (fun id there => ?_) fun row _ => ?_
    · rw [Table.find?_insert_isSome inserted, there, Bool.or_true]
    · rcases followedRow_cases plan.transferRequest plan.disputed row with
        ⟨-, read, -, same⟩ | ⟨-, same⟩
      · rw [same]
        exact .inr ⟨_, rfl, by rw [found]; rfl⟩
      · rw [same]
        exact .inl rfl

/-- **A resolution** keeps requests coupled exactly when it follows the disputed request of its
dispute. -/
theorem coupled_resolve {plan : ResolvePlan} {dispute : Dispute}
    (coupled : Coupled s) (referenced : Referenced s)
    (written : resolveDisputeCommit plan s = .ok (dispute, t)) :
    (Coupled t ↔ KeepsCoupled (.inl (.resolve plan)) s) ∧ Referenced t := by
  obtain ⟨-, requests, f, keeps, resolves, disputes⟩ := resolveDisputeCommit_spec written
  have rows := (congrArg (·.rows) requests).trans (rows_followed _ _ _ _)
  have resolved : ∀ row, t.disputes.find? plan.disputeId = some row → row.status = .resolved := by
    intro row found
    rw [disputes, Table.find?_update, if_pos rfl] at found
    obtain ⟨old, -, rfl⟩ := Option.map_eq_some_iff.mp found
    exact resolves old
  have others : ∀ k, k ≠ plan.disputeId → t.disputes.find? k = s.disputes.find? k := by
    intro k apart
    rw [disputes, Table.find?_update, if_neg apart.symm]
  constructor
  · rw [coupled_iff_rows rows]
    refine forall₂_congr fun row inside => ?_
    have was : row.status = .disputed ↔ Live s row.disputeId := coupled row inside
    unfold Follows
    rw [live_of_resolved resolved others]
    rcases followedRow_cases plan.transferRequest plan.resolved row with
      ⟨followed, read, -, same⟩ | ⟨apart, same⟩
    · have never : (plan.resolved read row).status ≠ .disputed := by
        show (if read.status = .disputed then TransferRequestStatus.completed else read.status) ≠ _
        split
        · decide
        · assumption
      rw [same, show (plan.resolved read row).disputeId = row.disputeId from rfl, ← was]
      tauto
    · rw [same]
      tauto
  · refine referenced_of_rows referenced rows (fun id there => ?_) fun row _ => .inl ?_
    · rw [disputes, Table.find?_update_isSome]
      exact there
    · rcases followedRow_cases plan.transferRequest plan.resolved row with
        ⟨-, read, -, same⟩ | ⟨-, same⟩
      · rw [same]
        rfl
      · rw [same]

theorem adminDisputes_spec {plan : AdminDisputePlan} {dispute : Dispute}
    (written : adminDisputes.commit plan s = .ok (dispute, t)) :
    t.transferRequests = s.transferRequests ∧
      t.disputes = s.disputes.update plan.id plan.written plan.written_uuid ∧
        ∃ old, t.disputes.find? plan.id = some (plan.written old) := by
  obtain ⟨⟨row, disputes⟩, wrote, same⟩ := bind_eq_ok.mp written
  obtain ⟨-, rfl⟩ := Prod.mk.inj (pure_eq_ok.mp same)
  obtain ⟨old, found, -, rfl⟩ := updateRow_eq_ok.mp wrote
  exact ⟨rfl, rfl, old, Table.find?_update_self found plan.written plan.written_uuid⟩

/-- **An escalation** keeps requests coupled exactly when it finds the linked request disputed, **and
a close** exactly when it does not. -/
theorem coupled_admin {plan : AdminDisputePlan} {dispute : Dispute}
    (coupled : Coupled s) (referenced : Referenced s)
    (written : adminDisputes.commit plan s = .ok (dispute, t)) :
    (Coupled t ↔ KeepsCoupled (.inr plan) s) ∧ Referenced t := by
  obtain ⟨requests, disputes, old, found⟩ := adminDisputes_spec written
  have others : ∀ k, k ≠ plan.id → t.disputes.find? k = s.disputes.find? k := by
    intro k apart
    rw [disputes, Table.find?_update, if_neg apart.symm]
  have unchanged : Coupled t ↔ ∀ row ∈ s.transferRequests.rows, Follows t row := by
    unfold Coupled
    rw [requests]
  constructor
  · rw [unchanged]
    cases plan with
    | escalate now auth id reason =>
      have live : ∀ link, Live t link ↔ link = some id ∨ Live s link :=
        fun link => live_of_open ⟨_, found, by simp [AdminDisputePlan.written]⟩ others
      refine forall₂_congr fun row inside => ?_
      have was : row.status = .disputed ↔ Live s row.disputeId := coupled row inside
      unfold Follows
      rw [live]
      tauto
    | close now auth id resolutionNote =>
      have resolved : ∀ row, t.disputes.find? id = some row → row.status = .resolved := by
        intro row there
        obtain rfl := Option.some.inj (found.symm.trans there)
        rfl
      refine forall₂_congr fun row inside => ?_
      have was : row.status = .disputed ↔ Live s row.disputeId := coupled row inside
      unfold Follows
      rw [live_of_resolved resolved others]
      tauto
  · intro row inside id of
    rw [requests] at inside
    rw [disputes, Table.find?_update_isSome]
    exact referenced row inside id of

/-- **One transaction** keeps requests coupled exactly when it meets the condition. -/
theorem coupled_commit {plan : TransferPlan ⊕ AdminDisputePlan} {res : TransferResponse ⊕ Dispute}
    (coupled : Coupled s) (referenced : Referenced s)
    (written : (disputeMethods rt).commit plan s = .ok (res, t)) :
    (Coupled t ↔ KeepsCoupled plan s) ∧ Referenced t := by
  rcases Method.sum_commit written with ⟨p, r, rfl, first⟩ | ⟨p, r, rfl, second⟩
  · cases p with
    | create p =>
      obtain ⟨⟨row, t'⟩, created, same⟩ := map_eq_ok.mp first
      obtain ⟨-, rfl⟩ := Prod.mk.inj same
      obtain ⟨after, backed⟩ := coupled_create coupled referenced created
      exact ⟨iff_of_true after trivial, backed⟩
    | review p =>
      obtain ⟨⟨row, t'⟩, reviewed, same⟩ := map_eq_ok.mp first
      obtain ⟨-, rfl⟩ := Prod.mk.inj same
      exact coupled_review coupled referenced reviewed
    | dispute p =>
      obtain ⟨⟨row, t'⟩, created, same⟩ := map_eq_ok.mp first
      obtain ⟨-, rfl⟩ := Prod.mk.inj same
      obtain ⟨after, backed⟩ := coupled_dispute coupled referenced created
      exact ⟨iff_of_true after trivial, backed⟩
    | resolve p =>
      obtain ⟨⟨row, t'⟩, resolved, same⟩ := map_eq_ok.mp first
      obtain ⟨-, rfl⟩ := Prod.mk.inj same
      exact coupled_resolve coupled referenced resolved
  · exact coupled_admin coupled referenced second

end Commits

/-! ### Runs -/

/-- Log entries leave requests and disputes as they are. -/
theorem disputeLog_frame (rt : Runtime) (plan : TransferPlan ⊕ AdminDisputePlan)
    (res : TransferResponse ⊕ Dispute) (s : Store) :
    ((disputeMethods rt).log plan res s).transferRequests = s.transferRequests ∧
      ((disputeMethods rt).log plan res s).disputes = s.disputes := by
  rcases plan with plan | plan <;> rcases res with res | res
  · cases plan <;> cases res <;> exact ⟨rfl, rfl⟩
  · exact ⟨rfl, rfl⟩
  · exact ⟨rfl, rfl⟩
  · exact ⟨rfl, rfl⟩

theorem coupled_congr {s t : Store} (requests : t.transferRequests = s.transferRequests)
    (disputes : t.disputes = s.disputes) :
    (Coupled t ↔ Coupled s) ∧ (Referenced t ↔ Referenced s) := by
  unfold Coupled Referenced Follows
  rw [requests, disputes]
  refine ⟨forall₂_congr fun row _ => ?_, Iff.rfl⟩
  rw [live_congr disputes]

/-- A turn that commits nothing leaves requests and disputes as they are. -/
theorem turn_idle {rt : Runtime} {p : DisputePool} {e : Turn (TransferCall ⊕ AdminDisputeCall)}
    (idle : (disputeMethods rt).committing p e = none) :
    (Coupled ((disputeMethods rt).turn p e).store ↔ Coupled p.store) ∧
      (Referenced ((disputeMethods rt).turn p e).store ↔ Referenced p.store) := by
  rcases Method.turn_of_not_committing idle with ⟨same, -⟩ | ⟨plan, res, same, -⟩
  · rw [same]
    exact ⟨Iff.rfl, Iff.rfl⟩
  · rw [same]
    obtain ⟨requests, disputes⟩ := disputeLog_frame rt plan res p.store
    exact coupled_congr requests disputes

/-- **Requests stay coupled to their disputes throughout a run** exactly when they are at its start
and every transaction keeps them. -/
theorem coupled_iff (rt : Runtime) (start : Store) (referenced : Referenced start)
    (events : List (Turn (TransferCall ⊕ AdminDisputeCall))) :
    Throughout (disputeMethods rt).turn (fun p => Coupled p.store) ⟨start, []⟩ events ↔
      Coupled start ∧ Along (disputeMethods rt).turn (TurnKeepsCoupled rt) ⟨start, []⟩ events := by
  have one : ∀ p e, Coupled p.store ∧ Referenced p.store →
      (Coupled ((disputeMethods rt).turn p e).store ↔ TurnKeepsCoupled rt p e) ∧
        Referenced ((disputeMethods rt).turn p e).store := by
    intro p e ⟨coupled, referenced⟩
    cases goes : (disputeMethods rt).committing p e with
    | none =>
      obtain ⟨same, backed⟩ := turn_idle goes
      refine ⟨iff_of_true (same.mpr coupled) fun plan res t went => ?_, backed.mpr referenced⟩
      exact absurd (goes.symm.trans went) (by simp)
    | some went =>
      obtain ⟨plan, res, t⟩ := went
      obtain ⟨exact_step, backed⟩ :=
        coupled_commit coupled referenced (Method.committing_spec goes).2
      rw [(Method.turn_of_committing goes).1]
      refine ⟨exact_step.trans ⟨fun kept plan' res' t' goes' => ?_, fun kept => ?_⟩, backed⟩
      · obtain ⟨rfl, -⟩ := Prod.mk.inj (Option.some.inj (goes.symm.trans goes'))
        exact kept
      · exact kept plan res t goes
  have run : Coupled start →
      (Throughout (disputeMethods rt).turn (fun p => Coupled p.store) ⟨start, []⟩ events ↔
        Along (disputeMethods rt).turn (TurnKeepsCoupled rt) ⟨start, []⟩ events) := by
    intro coupled
    let inv : DisputePool → Prop := fun p => Coupled p.store ∧ Referenced p.store
    have begins : inv ⟨start, []⟩ := ⟨coupled, referenced⟩
    refine throughout_iff_of_exact (fun p e inv kept => ?_) (fun p inv => inv.1)
      (fun p e inv breaks after => ?_) begins events
    · exact ⟨(one p e inv).1.mpr kept, (one p e inv).2⟩
    · exact breaks ((one p e inv).1.mp after)
  constructor
  · intro throughout
    have coupled : Coupled start := throughout_iff_prefixes.mp throughout [] events rfl
    exact ⟨coupled, (run coupled).mp throughout⟩
  · rintro ⟨coupled, along⟩
    exact (run coupled).mpr along

/-! ### A dispute closed by the founder -/

open TransferStatus

def disputeId : Uuid := "f0000000-0000-4000-8000-000000000001"

/-- The learner's transfer is approved and disputed. -/
def raised : List (Turn (TransferCall ⊕ AdminDisputeCall)) :=
  [.begin (.inl askToLeave), .advance 0 .done, .begin (.inl (reviewOf 7 "APPROVE")),
    .advance 1 .done, .begin (.inl objection), .advance 2 .done]

/-- The founder escalates the dispute, and the school resolves it. -/
def escalatedAndResolved : List (Turn (TransferCall ⊕ AdminDisputeCall)) :=
  [.begin (.inr (.escalate 9 BatchHistory.founder disputeId (.obj []))), .advance 3 .done,
    .begin (.inl (.resolve 10 BatchHistory.founder transferRolloverId
      (.obj [("resolutionNote", .str "The learner did ask to leave.")]))),
    .advance 4 .done]

/-- The founder closes the dispute. -/
def closedByFounder : List (Turn (TransferCall ⊕ AdminDisputeCall)) :=
  [.begin (.inr (.close 9 BatchHistory.founder disputeId
    (.obj [("resolutionNote", .str "The learner did ask to leave.")]))), .advance 3 .done]

theorem transferSchool_empty : transferSchool.transferRequests.rows = [] := rfl

theorem transferSchool_referenced : Referenced transferSchool := by
  unfold Referenced
  rw [transferSchool_empty]
  exact List.forall_mem_nil _

theorem transferSchool_coupled : Coupled transferSchool := by
  unfold Coupled
  rw [transferSchool_empty]
  exact List.forall_mem_nil _

/-- A dispute that is escalated and then resolved. -/
theorem escalatedAndResolved_coupled :
    Throughout (disputeMethods .plain).turn (fun p => Coupled p.store) ⟨transferSchool, []⟩
      (raised ++ escalatedAndResolved) :=
  (coupled_iff .plain transferSchool transferSchool_referenced _).mpr
    ⟨transferSchool_coupled, by decide⟩

/-- **A request stays disputed** when the founder closes its dispute. -/
theorem coupled_fails :
    ¬ ∀ (rt : Runtime) (start : Store) (events : List (Turn (TransferCall ⊕ AdminDisputeCall))),
      Coupled start → Referenced start →
        Throughout (disputeMethods rt).turn (fun p => Coupled p.store) ⟨start, []⟩ events := by
  intro all
  have throughout := all .plain transferSchool (raised ++ closedByFounder) transferSchool_coupled
    transferSchool_referenced
  have coupled := throughout_iff_prefixes.mp throughout (raised ++ closedByFounder) []
    (List.append_nil _).symm
  have disputed : ((runs (disputeMethods .plain).turn ⟨transferSchool, []⟩
      (raised ++ closedByFounder)).store.transferRequests.rows.any fun transfer =>
        transfer.status == .disputed && transfer.disputeId == some disputeId) = true := by
    decide
  have resolved : (((runs (disputeMethods .plain).turn ⟨transferSchool, []⟩
      (raised ++ closedByFounder)).store.disputes.find? disputeId).all
        (·.status == .resolved)) = true := by
    decide
  obtain ⟨transfer, inside, is⟩ := List.any_eq_true.mp disputed
  obtain ⟨status, linked⟩ := Bool.and_eq_true_iff.mp is
  obtain ⟨id, dispute, of, found, live⟩ := (coupled transfer inside).mp (beq_iff_eq.mp status)
  obtain rfl := Option.some.inj (of.symm.trans (beq_iff_eq.mp linked))
  rw [found] at resolved
  exact live (beq_iff_eq.mp resolved)

end AcadID.DisputedTransfers
