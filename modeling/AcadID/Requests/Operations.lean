/-
**The operations on record requests as one method.**

`requestMethods` is the four operations of governance and the worker's confirmation of a payment.

* `RequestPlan.write` — the row a plan writes from the one it finds; `RequestPlan.credentials` and
  `RequestPlan.entries` are what it adds beside it.
* `requestCommit_spec` — **what a commit does**: it writes the request of its plan and adds those
  credentials and entries, and nothing else to these tables.
* `requestCheck_spec` — a plan has read the request it will write; `RequestPlan.saw` is what its
  checks have seen of it.
* `requestStep_cases` — **what a call alone does**: nothing, or what its plan says.
-/

import AcadID.Jobs.PaymentConfirmation
import AcadID.Lib.Method

namespace AcadID

open Lib

namespace RecordRequests

/-! ### One method -/

/-- A call of an operation on record requests. -/
inductive RequestCall where
  | review (env : RequestEnv) (auth : AuthTokenPayload) (id : Uuid) (body : Json)
  | confirm (env : RequestEnv) (auth : AuthTokenPayload) (id : Uuid) (body : Json)
  | refund (env : RequestEnv) (auth : AuthTokenPayload) (id : Uuid) (body : Json)
  | fulfill (env : RequestEnv) (auth : AuthTokenPayload) (id : Uuid) (body : Json)
  | payment (env : RequestEnv) (job : JobWorker.ClaimedJob)

/-- A call whose checks have passed. -/
inductive RequestPlan where
  | review (plan : ReviewPlan)
  | confirm (plan : ConfirmPlan)
  | refund (plan : RefundPlan)
  | fulfill (plan : FulfillPlan)
  | payment (plan : JobWorker.PaymentPlan)
  | answered (result : Json)

/-- What an operation returns. -/
inductive RequestResponse where
  | request (request : RecordRequest)
  | fulfilled (request : RecordRequest) (credential : Credential)
  | job (result : Json)

def requestCheck (rt : Runtime) (call : RequestCall) (s : Store) :
    Except ServiceError RequestPlan :=
  match call with
  | .review env auth id body => do
    let plan ← reviewCheck rt env auth id body s
    return .review plan
  | .confirm env auth id body => do
    let plan ← confirmCheck rt env auth id body s
    return .confirm plan
  | .refund env auth id body => do
    let plan ← refundCheck rt env auth id body s
    return .refund plan
  | .fulfill env auth id body => do
    let plan ← fulfillCheck rt env auth id body s
    return .fulfill plan
  | .payment env job => do
    let plan ← JobWorker.paymentCheck rt env job s
    match plan with
    | .payment plan => return .payment plan
    | .answered result => return .answered result

def requestCommit (plan : RequestPlan) (s : Store) :
    Except ServiceError (RequestResponse × Store) :=
  match plan with
  | .review plan => do
    let (request, s) ← reviewCommit plan s
    return (.request request, s)
  | .confirm plan => do
    let (request, s) ← confirmCommit plan s
    return (.request request, s)
  | .refund plan => do
    let (request, s) ← refundCommit plan s
    return (.request request, s)
  | .fulfill plan => do
    let (written, s) ← fulfillCommit plan s
    return (.fulfilled written.1 written.2, s)
  | .payment plan => do
    let (request, s) ← JobWorker.paymentCommit plan s
    return (.job (JobWorker.paymentResult request), s)
  | .answered result => .ok (.job result, s)

def requestLog (plan : RequestPlan) (res : RequestResponse) (s : Store) : Store :=
  match plan, res with
  | .review plan, .request request => s.audit (reviewAudit plan request)
  | .confirm plan, .request request => s.audit (confirmAudit plan request)
  | .refund plan, .request request => s.audit (refundAudit plan request)
  | .fulfill plan, .fulfilled request _ => s.audit (fulfillAudit plan request)
  | _, _ => s

def requestMethods (rt : Runtime) :
    Method Store ServiceError RequestCall RequestPlan RequestResponse where
  check := requestCheck rt
  commit := requestCommit
  log := requestLog

/-! ### What a plan writes -/

namespace RequestPlan

/-- The row that the checks have read. -/
def snapshot : RequestPlan → Option RecordRequest
  | .review plan => some plan.existing
  | .confirm plan => some plan.existing
  | .refund plan => some plan.existing
  | .fulfill plan => some plan.request
  | .payment plan => some plan.request
  | .answered _ => none

/-- The row in the place of the one found. -/
def write (plan : RequestPlan) (row : RecordRequest) : RecordRequest :=
  match plan with
  | .review plan => reviewed plan row
  | .confirm plan => confirmed plan row
  | .refund plan => refunded plan row
  | .fulfill plan => fulfilled plan row
  | .payment plan => JobWorker.paid plan row
  | .answered _ => row

def credentials : RequestPlan → List Credential
  | .fulfill plan => [historicalCredential plan]
  | _ => []

def entries : RequestPlan → List RevenueLedgerEntry
  | .refund plan => if plan.confirms then [refundEntry plan] else []
  | .fulfill plan => (plan.released.map (releaseEntry plan)).toList
  | _ => []

/-- The plan writes the request with this id. -/
def targets (plan : RequestPlan) (id : Uuid) : Prop :=
  ∃ existing, plan.snapshot = some existing ∧ existing.uuid = id

instance (plan : RequestPlan) (id : Uuid) : Decidable (plan.targets id) :=
  decidable_of_iff (plan.snapshot.any (·.uuid == id) = true) (by
    unfold targets
    cases plan.snapshot <;> simp)

@[simp] theorem write_uuid (plan : RequestPlan) (row : RecordRequest) :
    (plan.write row).uuid = row.uuid := by
  cases plan <;> rfl

end RequestPlan

/-- The tables that the operations write, as a plan leaves them. -/
structure Written (plan : RequestPlan) (s t : Store) : Prop where
  found : ∀ id, plan.targets id → ∃ row, s.recordRequests.find? id = some row
  target : ∀ id, plan.targets id →
    t.recordRequests.find? id = (s.recordRequests.find? id).map plan.write
  others : ∀ id, ¬ plan.targets id → t.recordRequests.find? id = s.recordRequests.find? id
  credentials : t.credentials.rows = s.credentials.rows ++ plan.credentials
  fresh : ∀ c ∈ plan.credentials, ∀ other ∈ s.credentials.rows, other.uuid ≠ c.uuid
  ledger : t.revenueLedger.rows = s.revenueLedger.rows ++ plan.entries

/-- The updated request, and every other one as it was. -/
theorem written_update {plan : RequestPlan} {existing row : RecordRequest} {s t : Store}
    (snapshot : plan.snapshot = some existing)
    (found : s.recordRequests.find? existing.uuid = some row)
    (updated : t.recordRequests = s.recordRequests.update existing.uuid plan.write plan.write_uuid)
    (credentials : t.credentials.rows = s.credentials.rows ++ plan.credentials)
    (fresh : ∀ c ∈ plan.credentials, ∀ other ∈ s.credentials.rows, other.uuid ≠ c.uuid)
    (ledger : t.revenueLedger.rows = s.revenueLedger.rows ++ plan.entries) :
    Written plan s t := by
  have target : ∀ id, plan.targets id ↔ existing.uuid = id := by
    intro id
    unfold RequestPlan.targets
    rw [snapshot]
    simp
  refine ⟨fun id is => ?_, fun id is => ?_, fun id other => ?_, credentials, fresh, ledger⟩
  · exact ⟨row, ((target id).mp is) ▸ found⟩
  · rw [updated, Table.find?_update, if_pos ((target id).mp is)]
  · rw [updated, Table.find?_update, if_neg fun same => other ((target id).mpr same)]

/-- **What a commit does.** -/
theorem requestCommit_spec {plan : RequestPlan} {s t : Store} {res : RequestResponse}
    (committed : requestCommit plan s = .ok (res, t)) : Written plan s t := by
  cases plan with
  | review plan =>
    obtain ⟨⟨request, s'⟩, written, same⟩ := bind_eq_ok.mp committed
    obtain ⟨row, found, -, rfl⟩ := updateRequest_eq_ok.mp written
    rw [pure_eq_ok] at same
    obtain ⟨-, rfl⟩ := Prod.mk.inj same
    exact written_update rfl found rfl (List.append_nil _).symm
      (by simp [RequestPlan.credentials]) (List.append_nil _).symm
  | confirm plan =>
    obtain ⟨⟨request, s'⟩, written, same⟩ := bind_eq_ok.mp committed
    obtain ⟨row, found, -, rfl⟩ := updateRequest_eq_ok.mp written
    rw [pure_eq_ok] at same
    obtain ⟨-, rfl⟩ := Prod.mk.inj same
    exact written_update rfl found rfl (List.append_nil _).symm
      (by simp [RequestPlan.credentials]) (List.append_nil _).symm
  | refund plan =>
    obtain ⟨⟨request, s'⟩, written, same⟩ := bind_eq_ok.mp committed
    obtain ⟨row, ledger, found, -, entries, rfl⟩ := refundCommit_spec written
    rw [pure_eq_ok] at same
    obtain ⟨-, rfl⟩ := Prod.mk.inj same
    exact written_update rfl found rfl (List.append_nil _).symm
      (by simp [RequestPlan.credentials]) entries
  | fulfill plan =>
    obtain ⟨⟨written, s'⟩, writes, same⟩ := bind_eq_ok.mp committed
    obtain ⟨row, credentials, ledger, found, -, rows, free, entries, rfl⟩ :=
      fulfillCommit_spec writes
    rw [pure_eq_ok] at same
    obtain ⟨-, rfl⟩ := Prod.mk.inj same
    refine written_update rfl found rfl rows (fun c inside other here => ?_) entries
    rw [List.mem_singleton.mp inside]
    exact free other here
  | payment plan =>
    obtain ⟨⟨request, s'⟩, written, same⟩ := bind_eq_ok.mp committed
    obtain ⟨-, row, found, -, rfl⟩ := JobWorker.paymentCommit_eq_ok.mp written
    rw [pure_eq_ok] at same
    obtain ⟨-, rfl⟩ := Prod.mk.inj same
    exact written_update rfl found rfl (List.append_nil _).symm
      (by simp [RequestPlan.credentials]) (List.append_nil _).symm
  | answered result =>
    obtain ⟨-, rfl⟩ := Prod.mk.inj (Except.ok.inj committed)
    have untargeted : ∀ id, ¬ (RequestPlan.answered result).targets id := by
      rintro id ⟨existing, snapshot, -⟩
      exact absurd snapshot (by simp [RequestPlan.snapshot])
    exact ⟨fun id is => absurd is (untargeted id), fun id is => absurd is (untargeted id),
      fun _ _ => rfl, (List.append_nil _).symm, by simp [RequestPlan.credentials],
      (List.append_nil _).symm⟩

/-- A plan has read the request it will write. -/
theorem requestCheck_spec {rt : Runtime} {call : RequestCall} {s : Store} {plan : RequestPlan}
    (checked : requestCheck rt call s = .ok plan) {existing : RecordRequest}
    (snapshot : plan.snapshot = some existing) :
    s.recordRequests.find? existing.uuid = some existing := by
  have byId : ∀ {id : Uuid}, s.recordRequests.find? id = some existing →
      s.recordRequests.find? existing.uuid = some existing := by
    intro id found
    rw [Table.find?_key found]
    exact found
  cases call with
  | review env auth id body =>
    obtain ⟨p, read, same⟩ := bind_eq_ok.mp checked
    rw [pure_eq_ok] at same
    subst same
    obtain rfl := Option.some.inj snapshot
    exact byId (reviewCheck_spec read).1
  | confirm env auth id body =>
    obtain ⟨p, read, same⟩ := bind_eq_ok.mp checked
    rw [pure_eq_ok] at same
    subst same
    obtain rfl := Option.some.inj snapshot
    exact byId (confirmCheck_spec read).1
  | refund env auth id body =>
    obtain ⟨p, read, same⟩ := bind_eq_ok.mp checked
    rw [pure_eq_ok] at same
    subst same
    obtain rfl := Option.some.inj snapshot
    exact byId (refundCheck_spec read).1
  | fulfill env auth id body =>
    obtain ⟨p, read, same⟩ := bind_eq_ok.mp checked
    rw [pure_eq_ok] at same
    subst same
    obtain rfl := Option.some.inj snapshot
    exact byId (fulfillCheck_spec read).1
  | payment env job =>
    obtain ⟨p, read, same⟩ := bind_eq_ok.mp checked
    cases p with
    | payment p =>
      rw [pure_eq_ok] at same
      subst same
      obtain rfl := Option.some.inj snapshot
      exact (JobWorker.paymentCheck_spec read).1
    | answered result =>
      rw [pure_eq_ok] at same
      subst same
      exact absurd snapshot (by simp [RequestPlan.snapshot])

/-! ### What a plan has seen -/

/-- What the checks of a plan have seen of the row they read, at the store they read it from. -/
def RequestPlan.saw (plan : RequestPlan) (row : RecordRequest) (s : Store) : Prop :=
  match plan with
  | .review p => p.input.status ≠ .fulfilled
  | .confirm p =>
    isClosed row.status = false ∧ 0 < p.expectedAmount ∧
      ∀ amount, row.amountMinor = some amount → p.expectedAmount = amount
  | .refund p =>
    fulfilledCredential row s = none ∧ row.status ≠ .fulfilled ∧ row.paymentStatus = .paid ∧
      (row.escrowStatus = .held ∨ row.escrowStatus = .refundPending) ∧ 0 < p.refundAmount ∧
      ∀ amount, row.amountMinor = some amount → amount ≠ 0 → p.refundAmount ≤ amount
  | .fulfill _ =>
    fulfilledCredential row s = none ∧
      (row.paymentStatus = .paid → row.escrowStatus = .held) ∧
      ∀ amount, row.amountMinor = some amount → 0 < amount →
        row.paymentStatus = .paid ∨ row.paymentStatus = .waived ∨ row.paymentStatus = .notRequired
  | .payment p =>
    isClosed row.status = false ∧ row.paymentStatus ≠ .paid ∧ 0 < p.expectedAmount ∧
      ∀ amount, row.amountMinor = some amount → p.expectedAmount = amount
  | .answered _ => True

/-- **What the checks have seen.** -/
theorem requestCheck_saw {rt : Runtime} {call : RequestCall} {s : Store} {plan : RequestPlan}
    (checked : requestCheck rt call s = .ok plan) {row : RecordRequest}
    (snapshot : plan.snapshot = some row) : plan.saw row s := by
  cases call with
  | review env auth id body =>
    obtain ⟨p, read, same⟩ := bind_eq_ok.mp checked
    rw [pure_eq_ok] at same
    subst same
    exact (reviewCheck_spec read).2
  | confirm env auth id body =>
    obtain ⟨p, read, same⟩ := bind_eq_ok.mp checked
    rw [pure_eq_ok] at same
    subst same
    obtain rfl := Option.some.inj snapshot
    obtain ⟨input, existing, expectedAmount, paidAt, -, -, opened, expected, -, -, rfl⟩ :=
      confirmCheck_eq_ok.mp read
    exact ⟨opened, expected_spec expected⟩
  | refund env auth id body =>
    obtain ⟨p, read, same⟩ := bind_eq_ok.mp checked
    rw [pure_eq_ok] at same
    subst same
    obtain rfl := Option.some.inj snapshot
    obtain ⟨-, unfulfilled, status, paid, escrow⟩ := refundCheck_spec read
    exact ⟨unfulfilled, status, paid, escrow, refundCheck_amount read⟩
  | fulfill env auth id body =>
    obtain ⟨p, read, same⟩ := bind_eq_ok.mp checked
    rw [pure_eq_ok] at same
    subst same
    obtain rfl := Option.some.inj snapshot
    obtain ⟨-, unfulfilled, held⟩ := fulfillCheck_spec read
    exact ⟨unfulfilled, held, fulfillCheck_payment read⟩
  | payment env job =>
    obtain ⟨p, read, same⟩ := bind_eq_ok.mp checked
    cases p with
    | payment p =>
      rw [pure_eq_ok] at same
      subst same
      obtain rfl := Option.some.inj snapshot
      obtain ⟨-, opened, unpaid⟩ := JobWorker.paymentCheck_spec read
      exact ⟨opened, unpaid, JobWorker.paymentCheck_amount read⟩
    | answered result =>
      rw [pure_eq_ok] at same
      subst same
      exact absurd snapshot (by simp [RequestPlan.snapshot])

/-! ### A call alone -/

/-- A call, and the outcomes of its calls to the database. -/
structure RequestEvent where
  call : RequestCall
  script : List Outcome

def requestStep (rt : Runtime) (s : Store) (e : RequestEvent) : Store :=
  ((requestMethods rt).call .database e.call e.script s).store

/-- The three tables that the operations on requests write are the same. -/
structure SameRequests (s t : Store) : Prop where
  recordRequests : t.recordRequests = s.recordRequests
  credentials : t.credentials = s.credentials
  revenueLedger : t.revenueLedger = s.revenueLedger

theorem Written.congr {plan : RequestPlan} {s t u : Store} (written : Written plan s t)
    (same : SameRequests t u) : Written plan s u := by
  obtain ⟨found, target, others, credentials, fresh, ledger⟩ := written
  refine ⟨found, ?_, ?_, ?_, fresh, ?_⟩
  · rw [same.recordRequests]
    exact target
  · rw [same.recordRequests]
    exact others
  · rw [same.credentials]
    exact credentials
  · rw [same.revenueLedger]
    exact ledger

/-- A log entry leaves the three tables alone. -/
theorem requestLog_frame (plan : RequestPlan) (res : RequestResponse) (s : Store) :
    SameRequests s (requestLog plan res s) := by
  cases plan <;> cases res <;> exact ⟨rfl, rfl, rfl⟩

/-- **A call alone** leaves the three tables as they were, or as its commit left them. -/
theorem requestStep_spec (rt : Runtime) (s : Store) (e : RequestEvent) :
    match (requestMethods rt).committed e.call e.script s with
    | none => SameRequests s (requestStep rt s e)
    | some (_, _, t) => SameRequests t (requestStep rt s e) := by
  unfold requestStep
  rw [Method.call_store]
  cases (requestMethods rt).committed e.call e.script s with
  | none => exact ⟨rfl, rfl, rfl⟩
  | some went =>
    obtain ⟨plan, res, t⟩ := went
    show SameRequests t (if Method.logged e.script then requestLog plan res t else t)
    by_cases written : Method.logged e.script
    · rw [if_pos written]
      exact requestLog_frame plan res t
    · rw [if_neg written]
      exact ⟨rfl, rfl, rfl⟩

/-- **What a call alone does**: nothing to the three tables, or what its plan says, of the row that
its checks have read. -/
theorem requestStep_cases (rt : Runtime) (s : Store) (e : RequestEvent) :
    (SameRequests s (requestStep rt s e) ∧
      ∀ plan res t, (requestMethods rt).committed e.call e.script s = some (plan, res, t) →
        plan.snapshot = none) ∨
    ∃ plan res t row, (requestMethods rt).committed e.call e.script s = some (plan, res, t) ∧
      plan.snapshot = some row ∧ requestCheck rt e.call s = .ok plan ∧ plan.saw row s ∧
      s.recordRequests.find? row.uuid = some row ∧ Written plan s (requestStep rt s e) := by
  have spec := requestStep_spec rt s e
  cases went : (requestMethods rt).committed e.call e.script s with
  | none =>
    rw [went] at spec
    exact .inl ⟨spec, by simp⟩
  | some commit =>
    obtain ⟨plan, res, t⟩ := commit
    rw [went] at spec
    obtain ⟨checked, committed⟩ := Method.committed_spec went
    cases snapshot : plan.snapshot with
    | none =>
      have same : t = s := by
        cases plan with
        | answered result => exact (Prod.mk.inj (Except.ok.inj committed)).2.symm
        | review p | confirm p | refund p | fulfill p | payment p =>
          exact absurd snapshot (by simp [RequestPlan.snapshot])
      refine .inl ⟨same ▸ spec, fun plan' res' t' here => ?_⟩
      obtain ⟨rfl, -⟩ := Prod.mk.inj (Option.some.inj here)
      exact snapshot
    | some row =>
      exact .inr ⟨plan, res, t, row, rfl, snapshot, checked, requestCheck_saw checked snapshot,
        requestCheck_spec checked snapshot, (requestCommit_spec committed).congr spec⟩

/-- The requests after a step that writes one. -/
theorem find?_written {plan : RequestPlan} {s t : Store} {row : RecordRequest}
    (written : Written plan s t) (snapshot : plan.snapshot = some row)
    (found : s.recordRequests.find? row.uuid = some row) (id : Uuid) :
    t.recordRequests.find? id =
      if id = row.uuid then some (plan.write row) else s.recordRequests.find? id := by
  by_cases is : id = row.uuid
  · rw [if_pos is, is, written.target row.uuid ⟨row, snapshot, rfl⟩, found, Option.map_some]
  · rw [if_neg is]
    refine written.others id ?_
    rintro ⟨existing, same, rfl⟩
    obtain rfl := Option.some.inj (snapshot.symm.trans same)
    exact is rfl

/-! ### One request -/

/-- A request of a learner to a school, to be paid for. -/
def transcriptRequest : RecordRequest where
  uuid := "a0000000-0000-4000-8000-000000000001"
  requestId := "REQ-2024-00000001"
  learnerId := some "40000000-0000-4000-8000-000000000001"
  institutionId := some "10000000-0000-4000-8000-000000000001"
  institutionNameSubmitted := "First School"
  educationLevel := "SECONDARY"
  yearsAttendedFrom := none
  yearsAttendedTo := none
  studentNumber := none
  departmentOrClass := none
  recordTypesRequested := ["TRANSCRIPT"]
  proofDocumentUrls := []
  status := .awaitingPayment
  paymentStatus := .pending
  escrowStatus := .none
  paymentReference := none
  paymentProvider := none
  amountMinor := some 5000
  currency := "NGN"
  paymentHeldAt := none
  paymentReleasedAt := none
  refundRequestedAt := none
  assignedToId := none
  fulfilledCredentialId := none
  requesterName := none
  requesterEmail := none
  rejectionReason := none
  escalationReason := none
  resolutionNote := none
  notes := .arr []
  submittedAt := 0
  assignedAt := none
  fulfilledAt := none
  rejectedAt := none
  escalatedAt := none

/-- The request once its payment is held. -/
def heldRequest : RecordRequest :=
  { transcriptRequest with
    status := .submitted
    paymentStatus := .paid
    escrowStatus := .held
    paymentReference := some "PSK-001" }

/-- A store with one request, its learner and its school. -/
def storeOf (request : RecordRequest) : Store :=
  { Store.empty with
    institutions :=
      .single ⟨"10000000-0000-4000-8000-000000000001", "ACD-0001", "First School", .active⟩
    learners :=
      .single ⟨"40000000-0000-4000-8000-000000000001", "AIN-1", "First Learner", 0, none,
        .verified⟩
    recordRequests :=
      { rows := [request]
        nodup := List.nodup_singleton _ } }

/-- A super admin, who may review every request. -/
def reviewer : AuthTokenPayload where
  sub := "50000000-0000-4000-8000-000000000001"
  email := "founder@acadid.test"
  fullName := "Founder"
  role := .acadidSuperAdmin
  kind := some .user
  learnerId := none
  institutionId := none
  institutionUuid := none
  institutionUserId := none
  assignedScopes := none
  apiKeyId := none
  clientId := none
  productCode := none

/-- Readings of the clock and new ids, the `n`th of their kind. -/
def envOf (n : ℕ) : RequestEnv where
  pick := 0
  now := n
  committedAt := n
  credentialRef := "credential-ref-" ++ toString n
  credentialUuid := "credential-" ++ toString n
  ledgerUuid := "entry-" ++ toString n

/-- A successful charge under a reference, for the request with the given id. -/
def chargeJob (id : Uuid) (reference : String) (amountMinor : ℤ) : JobWorker.ClaimedJob where
  uuid := "b0000000-0000-4000-8000-000000000001"
  payload := .obj
    [("event", .str "charge.success"), ("reference", .str reference),
      ("amountMinor", .num amountMinor), ("currency", .str "NGN"), ("recordRequestId", .str id)]

end RecordRequests

end AcadID
