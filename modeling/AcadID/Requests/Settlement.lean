/-
**One settlement of a record request.**

Any number of fulfilments and confirmed refunds in flight together; each reads the request and
checks it at one moment, and writes it at another.

* `Books` — the invariant of a request: what its columns say of the credentials and ledger entries
  made for it. `PlanBooks` — what a call in flight has read that is still true.
* `settledOnce_iff` — **a request is settled once in every state of a run exactly when every commit
  finds it unsettled**: a fulfilment finds no credential and, where it releases the payment, a paid
  request; a refund finds a paid request whose payment was not released.
* `settledOnce_fails` — a refund and a fulfilment checked before either commits pay twice.
-/

import AcadID.Requests.Operations
import AcadID.Lib.Run

namespace AcadID.Settlement

open Lib RecordRequests

/-! ### Calls that settle a request -/

/-- A fulfilment, or a refund that is to be confirmed. -/
def settles (rt : Runtime) : RequestCall → Bool
  | .fulfill _ _ _ _ => true
  | .refund _ _ _ body =>
    match parseBody (refundRecordRequestPaymentSchema rt) body with
    | .ok input => input.action == .confirm
    | .error _ => true
  | _ => false

abbrev SettlingCall (rt : Runtime) : Type :=
  { call : RequestCall // settles rt call = true }

def settlements (rt : Runtime) :
    Method Store ServiceError (SettlingCall rt) RequestPlan RequestResponse where
  check call := requestCheck rt call.1
  commit := requestCommit
  log := requestLog

abbrev RequestPool := Pool Store RequestPlan RequestResponse

/-! ### What is made for a request -/

/-- The credentials of a request. -/
def credentialsOf (s : Store) (id : Uuid) : ℕ :=
  s.credentials.rows.countP fun c => c.recordRequestId == some id

/-- The ledger entries of a kind for a request. -/
def entriesOf (sourceType : String) (s : Store) (id : Uuid) : ℕ :=
  s.revenueLedger.rows.countP fun e => e.sourceType == sourceType && e.sourceId == some id

abbrev releases := entriesOf "RecordRequest"

abbrev refunds := entriesOf "RecordRequestRefund"

/-- **A request is settled at most once.** -/
structure SettledOnce (id : Uuid) (s : Store) : Prop where
  credentials : credentialsOf s id ≤ 1
  released : releases s id ≤ 1
  refunded : refunds s id ≤ 1
  either : releases s id = 0 ∨ refunds s id = 0

/-- The request has a positive amount. -/
def payable (row : RecordRequest) : Bool :=
  row.amountMinor.any (0 < ·)

/-- **What the columns of a request say of its credentials and entries.** -/
structure Books (id : Uuid) (s : Store) (row : RecordRequest) : Prop where
  found : s.recordRequests.find? id = some row
  linked : ∀ credentialId, row.fulfilledCredentialId = some credentialId →
    ∃ c, s.credentials.find? credentialId = some c
  credentials : credentialsOf s id = if row.fulfilledCredentialId.isSome then 1 else 0
  released : 0 < releases s id →
    row.fulfilledCredentialId.isSome ∧ row.escrowStatus = .released ∧ payable row
  recorded : row.escrowStatus = .released → payable row → 0 < releases s id
  releases_le : releases s id ≤ 1
  refunded : 0 < refunds s id → row.paymentStatus ≠ .paid ∧ releases s id = 0
  refunds_le : refunds s id ≤ 1

/-- A commit that finds its request unsettled. -/
def finds (plan : RequestPlan) (row : RecordRequest) : Prop :=
  match plan with
  | .fulfill p =>
    row.fulfilledCredentialId = none ∧ (p.released.isSome → row.paymentStatus = .paid)
  | .refund _ => row.paymentStatus = .paid ∧ ¬ (row.escrowStatus = .released ∧ payable row)
  | _ => True

/-- Every commit on the request finds it unsettled. -/
def FindsUnsettled (rt : Runtime) (id : Uuid) (p : RequestPool) (e : Turn (SettlingCall rt)) :
    Prop :=
  ∀ plan res t, (settlements rt).committing p e = some (plan, res, t) → plan.targets id →
    ∀ row, p.store.recordRequests.find? id = some row → finds plan row

instance (plan : RequestPlan) (row : RecordRequest) : Decidable (finds plan row) :=
  match plan with
  | .fulfill p => inferInstanceAs (Decidable
      (row.fulfilledCredentialId = none ∧ (p.released.isSome → row.paymentStatus = .paid)))
  | .refund _ => inferInstanceAs (Decidable
      (row.paymentStatus = .paid ∧ ¬ (row.escrowStatus = .released ∧ payable row)))
  | .review _ | .confirm _ | .payment _ | .answered _ => isTrue trivial

instance (rt : Runtime) (id : Uuid) (p : RequestPool) (e : Turn (SettlingCall rt)) :
    Decidable (FindsUnsettled rt id p e) :=
  match goes : (settlements rt).committing p e, found : p.store.recordRequests.find? id with
  | some (plan, _, _), some row =>
    decidable_of_iff (plan.targets id → finds plan row)
      (by unfold FindsUnsettled; rw [goes, found]; simp)
  | none, _ => isTrue fun _ _ _ some => by rw [goes] at some; exact absurd some (by simp)
  | some _, none => isTrue fun _ _ _ _ _ _ some => by
    rw [found] at some; exact absurd some (by simp)

instance (id : Uuid) (s : Store) : Decidable (SettledOnce id s) :=
  decidable_of_iff (credentialsOf s id ≤ 1 ∧ releases s id ≤ 1 ∧ refunds s id ≤ 1 ∧
      (releases s id = 0 ∨ refunds s id = 0))
    ⟨fun ⟨credentials, released, refunded, either⟩ => ⟨credentials, released, refunded, either⟩,
      fun once => ⟨once.credentials, once.released, once.refunded, once.either⟩⟩

/-- **What a call in flight has read.** The amount is still the request's, nothing was released when
it was read, and a payment it saw is still there or was refunded. -/
structure PlanBooks (id : Uuid) (plan : RequestPlan) (s : Store) : Prop where
  kind : (∃ p, plan = .fulfill p) ∨ ∃ p, plan = .refund p ∧ p.confirms
  snapshot : ∀ existing, plan.snapshot = some existing → existing.uuid = id →
    ∃ row, s.recordRequests.find? id = some row ∧ existing.amountMinor = row.amountMinor ∧
      ¬ (existing.escrowStatus = .released ∧ payable existing) ∧
      (existing.paymentStatus = .paid → row.paymentStatus = .paid ∨ 0 < refunds s id)
  paid : ∀ p, plan = .refund p → p.existing.paymentStatus = .paid

/-! ### What a commit adds -/

theorem targets_fulfill {p : FulfillPlan} {id : Uuid} :
    (RequestPlan.fulfill p).targets id ↔ p.request.uuid = id := by
  simp [RequestPlan.targets, RequestPlan.snapshot]

theorem targets_refund {p : RefundPlan} {id : Uuid} :
    (RequestPlan.refund p).targets id ↔ p.existing.uuid = id := by
  simp [RequestPlan.targets, RequestPlan.snapshot]

/-- The release entries that a plan adds for a request. -/
theorem countP_released {p : FulfillPlan} {id : Uuid} (sourceType : String) :
    (RequestPlan.fulfill p).entries.countP
        (fun e => e.sourceType == sourceType && e.sourceId == some id) =
      if p.released.isSome ∧ "RecordRequest" = sourceType ∧ p.request.uuid = id then 1 else 0 := by
  show (p.released.map (releaseEntry p)).toList.countP _ = _
  cases p.released with
  | none => simp
  | some amountMinor =>
    show [releaseEntry p amountMinor].countP _ = _
    rw [List.countP_singleton]
    show (if "RecordRequest" == sourceType && some p.request.uuid == some id then 1 else 0) = _
    simp only [Bool.and_eq_true, beq_iff_eq, Option.some.injEq, Option.isSome_some, true_and]

/-- The refund entries that a confirmed refund adds for a request. -/
theorem countP_refunded {p : RefundPlan} {id : Uuid} (sourceType : String)
    (confirms : p.confirms) :
    (RequestPlan.refund p).entries.countP
        (fun e => e.sourceType == sourceType && e.sourceId == some id) =
      if "RecordRequestRefund" = sourceType ∧ p.existing.uuid = id then 1 else 0 := by
  show (if p.confirms then [refundEntry p] else []).countP _ = _
  rw [if_pos confirms]
  rw [List.countP_singleton]
  show (if "RecordRequestRefund" == sourceType && some p.existing.uuid == some id then 1 else 0) = _
  simp only [Bool.and_eq_true, beq_iff_eq, Option.some.injEq]

/-- What a fulfilment adds. -/
theorem added_fulfill {p : FulfillPlan} {s t : Store} (written : Written (.fulfill p) s t)
    (id : Uuid) :
    credentialsOf t id = credentialsOf s id + (if p.request.uuid = id then 1 else 0) ∧
      releases t id = releases s id +
        (if p.released.isSome ∧ p.request.uuid = id then 1 else 0) ∧
      refunds t id = refunds s id := by
  unfold credentialsOf releases refunds entriesOf
  rw [written.credentials, written.ledger, List.countP_append, List.countP_append,
    List.countP_append, countP_released, countP_released]
  refine ⟨?_, by simp, by simp⟩
  simp [RequestPlan.credentials, historicalCredential, List.countP_singleton]

/-- What a confirmed refund adds. -/
theorem added_refund {p : RefundPlan} {s t : Store} (confirms : p.confirms)
    (written : Written (.refund p) s t) (id : Uuid) :
    credentialsOf t id = credentialsOf s id ∧ releases t id = releases s id ∧
      refunds t id = refunds s id + (if p.existing.uuid = id then 1 else 0) := by
  unfold credentialsOf releases refunds entriesOf
  rw [written.credentials, written.ledger, List.countP_append, List.countP_append,
    List.countP_append, countP_refunded _ confirms, countP_refunded _ confirms]
  simp [RequestPlan.credentials]

/-- The amount that a fulfilment releases was paid, and it is positive. -/
theorem released_isSome {p : FulfillPlan} :
    p.released.isSome ↔ p.releases = true ∧ payable p.request := by
  unfold FulfillPlan.released payable
  by_cases here : p.releases
  · rw [if_pos here]
    cases p.request.amountMinor with
    | none => simp
    | some amountMinor => simp [here, Option.filter_some, Option.isSome_iff_ne_none]
  · rw [if_neg here]
    simp [here]

/-! ### The step lemma of a commit -/

/-- Books that are kept when the row and the counts are. -/
theorem Books.congr {id : Uuid} {s t : Store} {row : RecordRequest} (books : Books id s row)
    (found : t.recordRequests.find? id = some row)
    (kept : ∀ c ∈ s.credentials.rows, c ∈ t.credentials.rows)
    (credentials : credentialsOf t id = credentialsOf s id)
    (released : releases t id = releases s id) (refunded : refunds t id = refunds s id) :
    Books id t row := by
  refine ⟨found, fun credentialId is => ?_, by rw [credentials]; exact books.credentials,
    by rw [released]; exact books.released, by rw [released]; exact books.recorded,
    by rw [released]; exact books.releases_le, by rw [released, refunded]; exact books.refunded,
    by rw [refunded]; exact books.refunds_le⟩
  obtain ⟨c, here⟩ := books.linked credentialId is
  exact ⟨c, Table.find?_eq_some.mpr ⟨kept c (Table.find?_mem here), Table.find?_key here⟩⟩

/-- **A fulfilment that finds its request unsettled** keeps the books. -/
theorem books_fulfill {id : Uuid} {s t : Store} {row : RecordRequest} {p : FulfillPlan}
    (books : Books id s row) (written : Written (.fulfill p) s t) (is : p.request.uuid = id)
    (plan : PlanBooks id (.fulfill p) s) (unsettled : finds (.fulfill p) row) :
    Books id t (fulfilled p row) := by
  obtain ⟨unfulfilled, paid⟩ := unsettled
  obtain ⟨credentials, released, refunded⟩ := added_fulfill written id
  obtain ⟨row', found, sameAmount, unreleased, -⟩ := plan.snapshot p.request rfl is
  obtain rfl := Option.some.inj (found.symm.trans books.found)
  have none_released : releases s id = 0 := by
    by_contra some_released
    have set := (books.released (Nat.pos_of_ne_zero some_released)).1
    rw [unfulfilled] at set
    exact absurd set (by simp)
  have samePayable : payable (fulfilled p row') = payable p.request := by
    unfold payable
    rw [sameAmount]
    rfl
  rw [if_pos is, books.credentials, unfulfilled] at credentials
  rw [none_released, Nat.zero_add] at released
  have releases_iff : 0 < releases t id ↔ p.released.isSome := by
    rw [released]
    by_cases here : p.released.isSome
    · simp [here, is]
    · simp [here]
  refine ⟨?_, fun credentialId same => ?_, by rw [credentials]; rfl, fun positive => ?_,
    fun escrow amount => ?_, by rw [released]; split <;> omega, fun positive => ?_,
    by rw [refunded]; exact books.refunds_le⟩
  · rw [written.target id (targets_fulfill.mpr is), books.found]
    rfl
  · refine ⟨historicalCredential p, Table.find?_eq_some.mpr ⟨?_, Option.some.inj same⟩⟩
    rw [written.credentials]
    exact List.mem_append_right _ (List.mem_singleton.mpr rfl)
  · obtain ⟨releasing, amount⟩ := released_isSome.mp (releases_iff.mp positive)
    refine ⟨rfl, ?_, by rw [samePayable]; exact amount⟩
    show (if p.releases then _ else _) = _
    rw [if_pos releasing]
  · rw [samePayable] at amount
    by_cases releasing : p.releases
    · exact releases_iff.mpr (released_isSome.mpr ⟨releasing, amount⟩)
    · have kept : p.request.escrowStatus = .released := by
        rw [← escrow]
        show _ = if p.releases then _ else _
        rw [if_neg releasing]
      exact absurd ⟨kept, amount⟩ unreleased
  · rw [refunded] at positive
    have unpaid := (books.refunded positive).1
    refine ⟨unpaid, ?_⟩
    by_contra releasing
    exact unpaid (paid (releases_iff.mp (Nat.pos_of_ne_zero releasing)))

/-- **A refund that finds its request unsettled** keeps the books. -/
theorem books_refund {id : Uuid} {s t : Store} {row : RecordRequest} {p : RefundPlan}
    (books : Books id s row) (confirms : p.confirms) (written : Written (.refund p) s t)
    (is : p.existing.uuid = id) (unsettled : finds (.refund p) row) :
    Books id t (refunded p row) := by
  obtain ⟨paid, unreleased⟩ := unsettled
  obtain ⟨credentials, released, added⟩ := added_refund confirms written id
  have none_released : releases s id = 0 := by
    by_contra some_released
    exact unreleased (books.released (Nat.pos_of_ne_zero some_released)).2
  have none_refunded : refunds s id = 0 := by
    by_contra some_refunded
    exact (books.refunded (Nat.pos_of_ne_zero some_refunded)).1 paid
  rw [if_pos is, none_refunded] at added
  have escrow : (refunded p row).escrowStatus = .refunded := by
    show (if p.confirms then _ else _) = _
    rw [if_pos confirms]
  have payment : (refunded p row).paymentStatus = .refunded := by
    show (if p.confirms then _ else _) = _
    rw [if_pos confirms]
  refine ⟨?_, fun credentialId same => ?_, by rw [credentials]; exact books.credentials,
    fun positive => ?_, fun released => ?_, by rw [released]; exact books.releases_le,
    fun _ => ⟨by rw [payment]; decide, released.trans none_released⟩, by rw [added]⟩
  · rw [written.target id (targets_refund.mpr is), books.found]
    rfl
  · obtain ⟨c, here⟩ := books.linked credentialId same
    refine ⟨c, Table.find?_eq_some.mpr ⟨?_, Table.find?_key here⟩⟩
    rw [written.credentials]
    exact List.mem_append_left _ (Table.find?_mem here)
  · rw [released, none_released] at positive
    exact absurd positive (by decide)
  · rw [escrow] at released
    exact absurd released (by decide)

/-- **The step lemma.** A commit of a call in flight keeps the books of a request, where it finds
the request unsettled. -/
theorem books_commit {id : Uuid} {s t : Store} {row : RecordRequest} {plan : RequestPlan}
    (books : Books id s row) (written : Written plan s t) (planBooks : PlanBooks id plan s)
    (unsettled : plan.targets id → finds plan row) : ∃ row', Books id t row' := by
  rcases planBooks.kind with ⟨p, rfl⟩ | ⟨p, rfl, confirms⟩
  · by_cases is : p.request.uuid = id
    · exact ⟨_, books_fulfill books written is planBooks (unsettled (targets_fulfill.mpr is))⟩
    · obtain ⟨credentials, released, refunded⟩ := added_fulfill written id
      have other : ¬ (RequestPlan.fulfill p).targets id := fun same => is (targets_fulfill.mp same)
      refine ⟨row, books.congr ((written.others id other).trans books.found)
        (fun c inside => by rw [written.credentials]; exact List.mem_append_left _ inside) ?_ ?_
        refunded⟩
      · rw [credentials, if_neg is, Nat.add_zero]
      · rw [released, if_neg (fun both => is both.2), Nat.add_zero]
  · by_cases is : p.existing.uuid = id
    · exact ⟨_, books_refund books confirms written is (unsettled (targets_refund.mpr is))⟩
    · obtain ⟨credentials, released, refunded⟩ := added_refund confirms written id
      have other : ¬ (RequestPlan.refund p).targets id := fun same => is (targets_refund.mp same)
      refine ⟨row, books.congr ((written.others id other).trans books.found)
        (fun c inside => by rw [written.credentials]; exact List.mem_append_left _ inside)
        credentials released ?_⟩
      rw [refunded, if_neg is, Nat.add_zero]

/-- A commit keeps what the other calls in flight have read. -/
theorem planBooks_commit {id : Uuid} {s t : Store} {plan other : RequestPlan}
    (written : Written plan s t) (planBooks : PlanBooks id plan s) (read : PlanBooks id other s) :
    PlanBooks id other t := by
  refine ⟨read.kind, fun existing snapshot is => ?_, read.paid⟩
  obtain ⟨row, found, amount, unreleased, paid⟩ := read.snapshot existing snapshot is
  by_cases targeted : plan.targets id
  · refine ⟨plan.write row, by rw [written.target id targeted, found, Option.map_some], ?_,
      unreleased, fun saw => ?_⟩
    · rcases planBooks.kind with ⟨p, rfl⟩ | ⟨p, rfl, -⟩ <;> exact amount
    · rcases planBooks.kind with ⟨p, rfl⟩ | ⟨p, rfl, confirms⟩
      · rw [(added_fulfill written id).2.2]
        exact paid saw
      · right
        rw [(added_refund confirms written id).2.2, if_pos (targets_refund.mp targeted)]
        exact Nat.succ_pos _
  · refine ⟨row, by rw [written.others id targeted, found], amount, unreleased, fun saw => ?_⟩
    have more : refunds s id ≤ refunds t id := by
      unfold refunds entriesOf
      rw [written.ledger, List.countP_append]
      exact Nat.le_add_right _ _
    exact (paid saw).imp_right fun positive => lt_of_lt_of_le positive more

/-! ### Runs of the pool -/

/-- A request whose books are kept and whose credential is not found was never fulfilled. -/
theorem unfulfilled_of_none {id : Uuid} {s : Store} {row : RecordRequest} (books : Books id s row)
    (none_found : fulfilledCredential row s = none) : row.fulfilledCredentialId = none := by
  cases is : row.fulfilledCredentialId with
  | none => rfl
  | some credentialId =>
    obtain ⟨c, here⟩ := books.linked credentialId is
    unfold fulfilledCredential at none_found
    rw [is, Option.bind_some, here] at none_found
    exact absurd none_found (by simp)

/-- What a check has read of a request whose books are kept. -/
theorem snapshot_of_check {id : Uuid} {s : Store} {row existing : RecordRequest}
    (books : Books id s row) (found : s.recordRequests.find? existing.uuid = some existing)
    (unfulfilled : fulfilledCredential existing s = none) (is : existing.uuid = id) :
    ∃ row, s.recordRequests.find? id = some row ∧ existing.amountMinor = row.amountMinor ∧
      ¬ (existing.escrowStatus = .released ∧ payable existing) ∧
      (existing.paymentStatus = .paid → row.paymentStatus = .paid ∨ 0 < refunds s id) := by
  rw [is] at found
  obtain rfl := Option.some.inj (found.symm.trans books.found)
  refine ⟨existing, found, rfl, fun ⟨escrow, amount⟩ => ?_, .inl⟩
  have set := (books.released (books.recorded escrow amount)).1
  rw [unfulfilled_of_none books unfulfilled] at set
  exact absurd set (by simp)

/-- A check establishes what its call has read. -/
theorem planBooks_of_check {rt : Runtime} {call : SettlingCall rt} {id : Uuid} {s : Store}
    {row : RecordRequest} {plan : RequestPlan} (books : Books id s row)
    (checked : (settlements rt).check call s = .ok plan) : PlanBooks id plan s := by
  obtain ⟨call, settling⟩ := call
  have passed : requestCheck rt call s = .ok plan := checked
  have found : ∀ existing, plan.snapshot = some existing →
      s.recordRequests.find? existing.uuid = some existing :=
    fun _ snapshot => requestCheck_spec passed snapshot
  cases call with
  | fulfill env auth requestId body =>
    obtain ⟨p, read, same⟩ := bind_eq_ok.mp passed
    rw [pure_eq_ok] at same
    subst same
    obtain ⟨-, unfulfilled, -⟩ := fulfillCheck_spec read
    refine ⟨.inl ⟨p, rfl⟩, fun existing snapshot is => ?_, by simp⟩
    have here := found existing snapshot
    obtain rfl := Option.some.inj snapshot
    exact snapshot_of_check books here unfulfilled is
  | refund env auth requestId body =>
    obtain ⟨p, read, same⟩ := bind_eq_ok.mp passed
    rw [pure_eq_ok] at same
    subst same
    obtain ⟨-, unfulfilled, -, paid, -⟩ := refundCheck_spec read
    have confirms : p.confirms = true := by
      have here : (match parseBody (refundRecordRequestPaymentSchema rt) body with
        | .ok input => input.action == .confirm
        | .error _ => true) = true := settling
      rw [refundCheck_input read] at here
      exact here
    refine ⟨.inr ⟨p, rfl, confirms⟩, fun existing snapshot is => ?_, fun p' same => ?_⟩
    · have here := found existing snapshot
      obtain rfl := Option.some.inj snapshot
      exact snapshot_of_check books here unfulfilled is
    · rw [← RequestPlan.refund.inj same]
      exact paid
  | review env auth requestId body => exact absurd settling (by simp [settles])
  | confirm env auth requestId body => exact absurd settling (by simp [settles])
  | payment env job => exact absurd settling (by simp [settles])

/-- The books of the request are kept, and so is what every call in flight has read of it. -/
abbrev BooksInv (id : Uuid) : RequestPool → Prop :=
  Method.Flight (fun s => ∃ row, Books id s row) (PlanBooks id)

/-- A log entry keeps the books. -/
theorem books_log {id : Uuid} (plan : RequestPlan) (res : RequestResponse) (s : Store)
    (books : ∃ row, Books id s row) :
    (∃ row, Books id (requestLog plan res s) row) ∧
      ∀ other, PlanBooks id other s → PlanBooks id other (requestLog plan res s) := by
  obtain ⟨requests, credentials, ledger⟩ := requestLog_frame plan res s
  have sameEntries : ∀ kind, entriesOf kind (requestLog plan res s) id = entriesOf kind s id := by
    intro kind
    unfold entriesOf
    rw [ledger]
  refine ⟨?_, fun other read => ⟨read.kind, ?_, read.paid⟩⟩
  · obtain ⟨row, books⟩ := books
    refine ⟨row, books.congr (by rw [requests]; exact books.found)
      (fun c inside => by rw [credentials]; exact inside) ?_ (sameEntries _) (sameEntries _)⟩
    unfold credentialsOf
    rw [credentials]
  · have sameRefunds : refunds (requestLog plan res s) id = refunds s id := sameEntries _
    rw [requests, sameRefunds]
    exact read.snapshot

/-- **The step lemma of the pool.** -/
theorem booksInv_turn {rt : Runtime} {id : Uuid} {p : RequestPool} {e : Turn (SettlingCall rt)}
    (inv : BooksInv id p) (unsettled : FindsUnsettled rt id p e) :
    BooksInv id ((settlements rt).turn p e) := by
  refine Method.turn_flight (fun c s plan ⟨row, books⟩ checked => planBooks_of_check books checked)
    books_log inv fun plan res t goes => ?_
  obtain ⟨inFlight, committed⟩ := Method.committing_spec goes
  have written := requestCommit_spec committed
  have planBooks := inv.inFlight plan inFlight
  obtain ⟨row, books⟩ := inv.store
  exact ⟨books_commit books written planBooks fun targeted =>
      unsettled plan res t goes targeted row books.found,
    fun other => planBooks_commit written planBooks⟩

/-- Books that are kept settle the request once. -/
theorem settledOnce_of_books {id : Uuid} {s : Store} {row : RecordRequest}
    (books : Books id s row) : SettledOnce id s := by
  refine ⟨?_, books.releases_le, books.refunds_le, ?_⟩
  · rw [books.credentials]
    split <;> omega
  · by_cases some_refunded : 0 < refunds s id
    · exact .inl (books.refunded some_refunded).2
    · exact .inr (by omega)

/-- **A commit on a settled request settles it twice.** -/
theorem not_settledOnce_of_settled {rt : Runtime} {id : Uuid} {p : RequestPool}
    {e : Turn (SettlingCall rt)} (inv : BooksInv id p) (settled : ¬ FindsUnsettled rt id p e) :
    ¬ SettledOnce id ((settlements rt).turn p e).store := by
  unfold FindsUnsettled at settled
  push Not at settled
  obtain ⟨plan, res, t, goes, targeted, row, found, settled⟩ := settled
  obtain ⟨inFlight, committed⟩ := Method.committing_spec goes
  have written := requestCommit_spec committed
  have planBooks := inv.inFlight plan inFlight
  obtain ⟨row', books⟩ := inv.store
  obtain rfl := Option.some.inj (found.symm.trans books.found)
  rw [(Method.turn_of_committing goes).1]
  intro once
  rcases planBooks.kind with ⟨p, rfl⟩ | ⟨p, rfl, confirms⟩
  · have is := targets_fulfill.mp targeted
    obtain ⟨credentials, released, refunded⟩ := added_fulfill written id
    by_cases unfulfilled : row.fulfilledCredentialId = none
    · -- The release of a payment that was refunded since it was read.
      have releasing : p.released.isSome ∧ row.paymentStatus ≠ .paid := by
        by_contra fine
        refine settled ⟨unfulfilled, fun releasing => ?_⟩
        by_contra unpaid
        exact fine ⟨releasing, unpaid⟩
      obtain ⟨here, now, -, -, saw⟩ := planBooks.snapshot p.request rfl is
      obtain rfl := Option.some.inj (now.symm.trans found)
      have wasRefunded := (saw (paid_of_releases (released_isSome.mp releasing.1).1)).resolve_left
        releasing.2
      rw [if_pos ⟨releasing.1, is⟩] at released
      rcases once.either with none | none <;> omega
    · -- A second credential.
      have before := books.credentials
      rw [if_pos (Option.isSome_iff_ne_none.mpr unfulfilled)] at before
      rw [if_pos is, before] at credentials
      exact absurd once.credentials (by omega)
  · have is := targets_refund.mp targeted
    obtain ⟨credentials, released, refunded⟩ := added_refund confirms written id
    rw [if_pos is] at refunded
    by_cases paid : row.paymentStatus = .paid
    · -- The refund of a payment that was released since it was read.
      have wasReleased : row.escrowStatus = .released ∧ payable row := by
        by_contra unreleased
        exact settled ⟨paid, unreleased⟩
      have before := books.recorded wasReleased.1 wasReleased.2
      rcases once.either with none | none <;> omega
    · -- A second refund.
      obtain ⟨here, now, -, -, saw⟩ := planBooks.snapshot p.existing rfl is
      obtain rfl := Option.some.inj (now.symm.trans found)
      have before := (saw (planBooks.paid p rfl)).resolve_left paid
      exact absurd once.refunded (by omega)

/-- **The exact condition.** From a store where the books of a request are kept, the request is
settled once in every state of a run of fulfilments and confirmed refunds exactly when every commit
on it finds it unsettled. -/
theorem settledOnce_iff (rt : Runtime) (id : Uuid) (s : Store) (row : RecordRequest)
    (events : List (Turn (SettlingCall rt))) (books : Books id s row) :
    Throughout (settlements rt).turn (fun p => SettledOnce id p.store) ⟨s, []⟩ events ↔
      Along (settlements rt).turn (FindsUnsettled rt id) ⟨s, []⟩ events := by
  have start : BooksInv id ⟨s, []⟩ := ⟨⟨row, books⟩, by simp⟩
  have keeps : ∀ p e, BooksInv id p → FindsUnsettled rt id p e →
      BooksInv id ((settlements rt).turn p e) := fun _ _ => booksInv_turn
  have implies : ∀ p : RequestPool, BooksInv id p → SettledOnce id p.store := by
    intro p inv
    obtain ⟨row, books⟩ := inv.store
    exact settledOnce_of_books books
  have escapes : ∀ p e, BooksInv id p → ¬ FindsUnsettled rt id p e →
      ¬ SettledOnce id ((settlements rt).turn p e).store :=
    fun _ _ => not_settledOnce_of_settled
  exact throughout_iff_of_exact keeps implies escapes start events

/-! ### A run -/

/-- A request that was neither fulfilled nor refunded has its books kept. -/
theorem books_of_unsettled {id : Uuid} {s : Store} {row : RecordRequest}
    (found : s.recordRequests.find? id = some row) (unfulfilled : row.fulfilledCredentialId = none)
    (unreleased : row.escrowStatus ≠ .released) (credentials : credentialsOf s id = 0)
    (released : releases s id = 0) (refunded : refunds s id = 0) : Books id s row := by
  refine ⟨found, fun _ same => ?_, by rw [credentials, unfulfilled]; rfl, fun some_released => ?_,
    fun escrow => absurd escrow unreleased, by omega, fun some_refunded => ?_, by omega⟩
  · rw [unfulfilled] at same
    exact absurd same (by simp)
  · omega
  · omega

def fulfilment : SettlingCall .plain :=
  ⟨.fulfill (envOf 1) reviewer heldRequest.uuid (.obj []), rfl⟩

def confirmedRefund : SettlingCall .plain :=
  ⟨.refund (envOf 2) reviewer heldRequest.uuid
    (.obj [("action", .str "CONFIRM"), ("reason", .str "Withdrawn"),
      ("refundReference", .str "RFD-001")]), by decide⟩

/-- A fulfilment alone settles the request once, with one release. -/
theorem settledOnce_iff_fulfilled :
    Throughout (settlements .plain).turn (fun p => SettledOnce heldRequest.uuid p.store)
        ⟨storeOf heldRequest, []⟩ [.begin fulfilment, .advance 0 .done, .advance 0 .done] ∧
      releases (runs (settlements .plain).turn ⟨storeOf heldRequest, []⟩
        [.begin fulfilment, .advance 0 .done]).store heldRequest.uuid = 1 :=
  ⟨(settledOnce_iff .plain heldRequest.uuid (storeOf heldRequest) heldRequest _
      (books_of_unsettled rfl rfl (by decide) rfl rfl rfl)).mpr (by decide),
    by decide⟩

/-- **A request is not settled once in every run**: a refund and a fulfilment check it before either
commits, and its payment is both refunded and released. -/
theorem settledOnce_fails :
    ¬ ∀ (rt : Runtime) (id : Uuid) (s : Store) (row : RecordRequest)
      (events : List (Turn (SettlingCall rt))), Books id s row →
        Throughout (settlements rt).turn (fun p => SettledOnce id p.store) ⟨s, []⟩ events := by
  intro all
  have once := all .plain heldRequest.uuid (storeOf heldRequest) heldRequest
    [.begin fulfilment, .begin confirmedRefund, .advance 0 .done, .advance 1 .done]
    (books_of_unsettled rfl rfl (by decide) rfl rfl rfl)
  exact absurd once (by decide)

end AcadID.Settlement
