/-
**Funds in escrow: when they can still be released or refunded.**

A run of operations on record requests, one after the other, any call of which may fail at any
point; then more of them, by one actor who may review the request.

* `refund_goes_through` — a request that was not fulfilled can be refunded at once.
* `Trapped` — a request that was fulfilled while its funds stayed in escrow; every operation leaves
  it so.
* `settles_iff_unfulfilled` — **held funds can be released or refunded exactly when their request has
  not been fulfilled.**
* `trapped_funds` — a fulfilment that does not release the payment leaves it in escrow for good.
-/

import AcadID.Requests.Columns
import Mathlib.Data.Fintype.EquivFin

namespace AcadID.Escrow

open Lib RecordRequests

/-- The actor of a call. -/
def actorOf : RequestCall → Option AuthTokenPayload
  | .review _ auth _ _ | .confirm _ auth _ _ | .refund _ auth _ _ | .fulfill _ auth _ _ => some auth
  | .payment _ _ => none

/-- The actor may review the request. -/
def Permitted (auth : AuthTokenPayload) (row : RecordRequest) (s : Store) : Prop :=
  assertRecordRequestReviewer auth row s = .ok ()

/-- Funds that are held, or that wait for their refund. -/
def inEscrow (row : RecordRequest) : Prop :=
  row.escrowStatus = .held ∨ row.escrowStatus = .refundPending

/-- The funds of a request have been released or refunded. -/
def Settled (id : Uuid) (s : Store) : Prop :=
  ∃ row, s.recordRequests.find? id = some row ∧
    (row.escrowStatus = .released ∨ row.escrowStatus = .refunded)

/-- Further operations by an actor who may review the request settle it. -/
def CanSettle (rt : Runtime) (id : Uuid) (row : RecordRequest) (s : Store) : Prop :=
  ∃ auth events, Permitted auth row s ∧ (∀ e ∈ events, actorOf e.call = some auth) ∧
    Settled id (runs (requestStep rt) s events)

/-! ### A refund -/

/-- The body of a refund of the whole amount. -/
def refundBody : Json :=
  .obj
    [("action", .str "CONFIRM"), ("reason", .str "Payment returned"),
      ("refundReference", .str "RFD-001")]

def refundInput : RefundInput where
  action := .confirm
  reason := "Payment returned"
  amountMinor := none
  refundReference := some "RFD-001"
  paymentProvider := none
  refundedAt := none
  note := none

theorem exists_fresh (taken : List String) : ∃ id : String, id ∉ taken := by
  obtain ⟨id, fresh⟩ := Infinite.exists_notMem_finset taken.toFinset
  exact ⟨id, fun inside => fresh (List.mem_toFinset.mpr inside)⟩

/-- A super admin may review every request. -/
theorem permitted_superAdmin (auth : AuthTokenPayload) (role : auth.role = .acadidSuperAdmin)
    (row : RecordRequest) (s : Store) : Permitted auth row s := by
  unfold Permitted assertRecordRequestReviewer
  cases row.institutionId with
  | none =>
    rw [role]
    rfl
  | some institutionId =>
    unfold Authority.assertActorCanOperateInstitution
    exact if_pos role

/-- **A request that was not fulfilled** passes the checks of its refund. -/
theorem refundCheck_passes (rt : Runtime) (env : RequestEnv) {auth : AuthTokenPayload} {id : Uuid}
    {s : Store} {row : RecordRequest} (found : s.recordRequests.find? id = some row)
    (permitted : Permitted auth row s) (coupled : Coupled s row) (held : inEscrow row)
    (unfulfilled : row.fulfilledCredentialId = none) :
    ∃ amount, refundCheck rt env auth id refundBody s =
      .ok ⟨env, auth, row, refundInput, amount, env.now⟩ := by
  have paid : row.paymentStatus = .paid := by
    rcases held with is | is
    · exact coupled.paid (.inl is)
    · exact coupled.paid (.inr (.inl is))
  obtain ⟨amount, has, positive⟩ := coupled.payable (.inl paid)
  have uncredited : fulfilledCredential row s = none :=
    (fulfilledCredential_eq_none coupled).mpr unfulfilled
  have status : row.status ≠ .fulfilled := by
    intro is
    have credited := coupled.fulfilled is
    rw [unfulfilled] at credited
    exact absurd credited (by decide)
  have escrow : row.escrowStatus ≠ .released := by
    intro is
    rcases held with other | other <;> rw [is] at other <;> exact absurd other (by decide)
  have known : (refundInput.amountMinor <|> row.amountMinor).filter (0 < ·) = some amount := by
    rw [has]
    exact Option.filter_some_pos (by simpa using positive)
  refine ⟨amount, ?_⟩
  unfold refundCheck
  refine bind_eq_ok.mpr ⟨refundInput, rfl, ?_⟩
  refine bind_eq_ok.mpr ⟨row, readRequest_eq_ok.mpr ⟨found, permitted⟩, ?_⟩
  refine bind_eq_ok.mpr ⟨(), require_eq_ok.mpr ?_, ?_⟩
  · rw [uncredited]
    simp [status, escrow]
  refine bind_eq_ok.mpr ⟨(), require_eq_ok.mpr (by simp [paid]), ?_⟩
  refine bind_eq_ok.mpr ⟨(), require_eq_ok.mpr rfl, ?_⟩
  refine bind_eq_ok.mpr ⟨(), require_eq_ok.mpr ?_, ?_⟩
  · rcases held with is | is <;> rw [is] <;> rfl
  refine bind_eq_ok.mpr ⟨amount, orThrow_eq_ok.mpr known, ?_⟩
  refine bind_eq_ok.mpr ⟨(), require_eq_ok.mpr ?_, ?_⟩
  · rw [has]
    simp
  exact bind_eq_ok.mpr ⟨(), require_eq_ok.mpr rfl, rfl⟩

/-- **A request that was not fulfilled** can be refunded at once, by whoever may review it. -/
theorem refund_goes_through (rt : Runtime) {auth : AuthTokenPayload} {id : Uuid} {s : Store}
    {row : RecordRequest} (found : s.recordRequests.find? id = some row)
    (permitted : Permitted auth row s) (coupled : Coupled s row) (held : inEscrow row)
    (unfulfilled : row.fulfilledCredentialId = none) :
    ∃ e, actorOf e.call = some auth ∧ Settled id (requestStep rt s e) := by
  obtain ⟨ledgerUuid, fresh⟩ := exists_fresh (s.revenueLedger.rows.map (·.uuid))
  obtain ⟨amount, checks⟩ := refundCheck_passes rt
    { envOf 0 with ledgerUuid := ledgerUuid } found permitted coupled held unfulfilled
  generalize planned : RefundPlan.mk _ auth row refundInput amount _ = plan at checks
  have isRow : plan.existing = row := by rw [← planned]
  have isLedger : plan.env.ledgerUuid = ledgerUuid := by rw [← planned]
  have confirms : plan.confirms = true := by
    rw [← planned]
    rfl
  have here : s.recordRequests.find? plan.existing.uuid = some row := by
    rw [isRow, Table.find?_key found]
    exact found
  obtain ⟨t, entered⟩ := createLedgerEntry_of_fresh (refundEntry plan)
    (s := { s with recordRequests :=
      s.recordRequests.update plan.existing.uuid (refunded plan) fun _ => rfl }) (by
      intro other inside same
      refine fresh ?_
      rw [← isLedger]
      exact List.mem_map.mpr ⟨other, inside, same⟩)
  have commits : refundCommit plan s = .ok (refunded plan row, t) := by
    unfold refundCommit
    refine bind_eq_ok.mpr ⟨_, updateRequest_eq_ok.mpr ⟨row, here, rfl, rfl⟩, ?_⟩
    simp only [if_pos confirms]
    exact bind_eq_ok.mpr ⟨t, entered, rfl⟩
  have went := Method.committed_of_ok (m := requestMethods rt)
    (c := .refund { envOf 0 with ledgerUuid := ledgerUuid } auth id refundBody)
    (bind_eq_ok.mpr ⟨plan, checks, rfl⟩) (bind_eq_ok.mpr ⟨_, commits, rfl⟩)
  refine ⟨⟨.refund { envOf 0 with ledgerUuid := ledgerUuid } auth id refundBody, []⟩, rfl, ?_⟩
  rcases requestStep_cases rt s ⟨.refund { envOf 0 with ledgerUuid := ledgerUuid } auth id
    refundBody, []⟩ with ⟨-, unread⟩ | ⟨plan', res, t', target, went', snapshot, -, -, there,
    written⟩
  · exact absurd (unread _ _ _ went) (by simp [RequestPlan.snapshot])
  · obtain ⟨rfl, -⟩ := Prod.mk.inj (Option.some.inj (went.symm.trans went'))
    obtain rfl := Option.some.inj snapshot
    have escrow : (refunded plan plan.existing).escrowStatus = .refunded := if_pos confirms
    refine ⟨refunded plan plan.existing, ?_, .inr escrow⟩
    rw [find?_written written rfl there, if_pos (by rw [isRow, Table.find?_key found])]
    rfl

/-! ### Trapped funds -/

/-- A request that was fulfilled while its funds were not released. -/
structure Trapped (id : Uuid) (s : Store) (row : RecordRequest) : Prop where
  found : s.recordRequests.find? id = some row
  coupled : Coupled s row
  fulfilled : row.fulfilledCredentialId ≠ none
  unsettled : row.escrowStatus ≠ .released ∧ row.escrowStatus ≠ .refunded

/-- **The step lemma.** Every operation leaves trapped funds trapped. -/
theorem trapped_step {rt : Runtime} {id : Uuid} {s : Store} {row : RecordRequest}
    (trapped : Trapped id s row) (e : RequestEvent) :
    ∃ row', Trapped id (requestStep rt s e) row' := by
  obtain ⟨found, coupled, fulfilled, unsettled⟩ := trapped
  have still := coupled.mono (credentials_kept rt s e)
  rcases requestStep_cases rt s e with ⟨same, -⟩ | ⟨plan, res, t, target, -, snapshot, -, saw,
    there, written⟩
  · refine ⟨row, ?_, still, fulfilled, unsettled⟩
    rw [same.recordRequests]
    exact found
  · have after := find?_written written snapshot there id
    by_cases is : id = target.uuid
    · rw [← is, found] at there
      obtain rfl := Option.some.inj there
      rw [if_pos is] at after
      have kept := coupled_write coupled snapshot saw written
      have refused : fulfilledCredential row s ≠ none := by
        intro uncredited
        exact fulfilled ((fulfilledCredential_eq_none coupled).mp uncredited)
      refine ⟨plan.write row, after, kept, ?_, ?_⟩
      · cases plan with
        | fulfill p => exact absurd saw.1 refused
        | review p | confirm p | refund p | payment p | answered result => exact fulfilled
      · cases plan with
        | review p => exact unsettled
        | confirm p | payment p =>
          exact ⟨RecordRequestEscrowStatus.noConfusion, RecordRequestEscrowStatus.noConfusion⟩
        | refund p | fulfill p => exact absurd saw.1 refused
        | answered result => exact unsettled
    · rw [if_neg is] at after
      exact ⟨row, after.trans found, still, fulfilled, unsettled⟩

/-- **Trapped funds are never settled.** -/
theorem trapped_runs {rt : Runtime} {id : Uuid} {s : Store} {row : RecordRequest}
    (trapped : Trapped id s row) (events : List RequestEvent) :
    ¬ Settled id (runs (requestStep rt) s events) := by
  have keeps : ∀ t e, (∃ row, Trapped id t row) → ∃ row, Trapped id (requestStep rt t e) row :=
    fun _ e ⟨_, trapped⟩ => trapped_step trapped e
  have throughout := throughout_of_keeps keeps ⟨row, trapped⟩ events
  obtain ⟨last, found, -, -, unsettled⟩ :=
    throughout_iff_prefixes.mp throughout events [] (List.append_nil events).symm
  rintro ⟨row', found', settled⟩
  obtain rfl := Option.some.inj (found.symm.trans found')
  rcases settled with released | refunded
  · exact unsettled.1 released
  · exact unsettled.2 refunded

/-! ### Which funds can be settled -/

/-- The columns of every request, in every state of a run. -/
theorem coupled_runs (rt : Runtime) {s : Store}
    (opened : ∀ row ∈ s.recordRequests.rows, Opened row) (events : List RequestEvent) :
    AllCoupled (runs (requestStep rt) s events) := by
  have start : AllCoupled s := fun row inside => coupled_of_opened (opened row inside)
  have throughout := throughout_of_keeps (coupled_step rt) start events
  exact throughout_iff_prefixes.mp throughout events [] (List.append_nil events).symm

/-- **The exact condition.** In every state of every run over requests that began as they were
created, the funds of a request in escrow can be released or refunded by further operations of an
actor who may review it exactly when the request has not been fulfilled. -/
theorem settles_iff_unfulfilled (rt : Runtime) (s : Store)
    (opened : ∀ row ∈ s.recordRequests.rows, Opened row) (events : List RequestEvent) (id : Uuid)
    (row : RecordRequest)
    (found : (runs (requestStep rt) s events).recordRequests.find? id = some row)
    (held : inEscrow row) :
    CanSettle rt id row (runs (requestStep rt) s events) ↔ row.fulfilledCredentialId = none := by
  have coupled := coupled_runs rt opened events row (Table.find?_mem found)
  constructor
  · rintro ⟨auth, more, -, -, settled⟩
    by_contra fulfilled
    have unsettled : row.escrowStatus ≠ .released ∧ row.escrowStatus ≠ .refunded := by
      rcases held with is | is <;> rw [is] <;> decide
    exact trapped_runs ⟨found, coupled, fulfilled, unsettled⟩ more settled
  · intro unfulfilled
    have permitted := permitted_superAdmin reviewer rfl row
      (runs (requestStep rt) s events)
    obtain ⟨e, by_, settled⟩ :=
      refund_goes_through rt found permitted coupled held unfulfilled
    refine ⟨reviewer, [e], permitted, fun e' inside => ?_, settled⟩
    rw [List.mem_singleton.mp inside]
    exact by_

/-! ### A fulfilment that keeps the funds -/

/-- A payment of the whole amount. -/
def payment : RequestEvent :=
  ⟨.payment (envOf 1) (chargeJob transcriptRequest.uuid "PSK-001" 5000), []⟩

/-- A fulfilment that does not release the payment. -/
def unreleasing : RequestEvent :=
  ⟨.fulfill (envOf 2) reviewer transcriptRequest.uuid
    (.obj [("releasePayment", .bool false)]), []⟩

theorem storeOf_opened :
    ∀ row ∈ (storeOf transcriptRequest).recordRequests.rows, Opened row := by
  intro row inside
  rw [List.mem_singleton.mp inside]
  exact ⟨by decide, by decide, rfl, rfl⟩

/-- The funds of a paid request can be settled. -/
theorem settles_iff_unfulfilled_paid :
    ∃ row, inEscrow row ∧
      CanSettle .plain transcriptRequest.uuid row
        (runs (requestStep .plain) (storeOf transcriptRequest) [payment]) := by
  have some_row : ((runs (requestStep .plain) (storeOf transcriptRequest)
      [payment]).recordRequests.find? transcriptRequest.uuid).any (fun row =>
        row.escrowStatus == .held && row.fulfilledCredentialId == none) = true := by
    decide
  obtain ⟨row, found, is⟩ := (Option.any_eq_true _ _).mp some_row
  obtain ⟨held, unfulfilled⟩ := Bool.and_eq_true_iff.mp is
  have held : inEscrow row := .inl (beq_iff_eq.mp held)
  exact ⟨row, held, (settles_iff_unfulfilled .plain (storeOf transcriptRequest) storeOf_opened
    [payment] transcriptRequest.uuid row found held).mpr (beq_iff_eq.mp unfulfilled)⟩

/-- **Funds can be trapped**: after a fulfilment that does not release them, no operation does. -/
theorem trapped_funds :
    ¬ ∀ (rt : Runtime) (s : Store), (∀ row ∈ s.recordRequests.rows, Opened row) →
      ∀ (events : List RequestEvent) (id : Uuid) (row : RecordRequest),
        (runs (requestStep rt) s events).recordRequests.find? id = some row → inEscrow row →
        CanSettle rt id row (runs (requestStep rt) s events) := by
  intro all
  have some_row : ((runs (requestStep .plain) (storeOf transcriptRequest)
      [payment, unreleasing]).recordRequests.find? transcriptRequest.uuid).any (fun row =>
        row.escrowStatus == .held && row.fulfilledCredentialId.isSome) = true := by
    decide
  obtain ⟨row, found, is⟩ := (Option.any_eq_true _ _).mp some_row
  obtain ⟨held, fulfilled⟩ := Bool.and_eq_true_iff.mp is
  have held : inEscrow row := .inl (beq_iff_eq.mp held)
  obtain ⟨auth, more, -, -, settled⟩ :=
    all .plain (storeOf transcriptRequest) storeOf_opened _ _ row found held
  have coupled := coupled_runs .plain storeOf_opened [payment, unreleasing] row
    (Table.find?_mem found)
  refine trapped_runs ⟨found, coupled, ?_, ?_⟩ more settled
  · exact Option.isSome_iff_ne_none.mp fulfilled
  · rcases held with is | is <;> rw [is] <;> decide

end AcadID.Escrow
