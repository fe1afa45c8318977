/-
**What the columns of a record request say together.**

`Coupled` ties the status, the payment, the escrow, the amount and the credential of a request to
each other. Every operation keeps it, so it holds of every request in every run.

* `Opened` — a request as it is created: neither paid nor fulfilled.
* `coupled_write` — **the write of a plan** keeps the columns coupled; `coupled_step` is the step
  lemma.
-/

import AcadID.Requests.Operations
import AcadID.Lib.Run

namespace AcadID.RecordRequests

open Lib

/-- A request as it is created. -/
structure Opened (row : RecordRequest) : Prop where
  status : row.status ≠ .fulfilled
  payment : row.paymentStatus ≠ .paid ∧ row.paymentStatus ≠ .refunded
  escrow : row.escrowStatus = .none
  unfulfilled : row.fulfilledCredentialId = none

/-- **The columns of a request**: a fulfilled one has its credential, a refund is of payment and
escrow alike, held and released funds were paid, and what was paid has a positive amount. -/
structure Coupled (s : Store) (row : RecordRequest) : Prop where
  linked : ∀ credentialId, row.fulfilledCredentialId = some credentialId →
    ∃ credential, s.credentials.find? credentialId = some credential
  fulfilled : row.status = .fulfilled → row.fulfilledCredentialId.isSome = true
  refunded : row.paymentStatus = .refunded ↔ row.escrowStatus = .refunded
  paid : row.escrowStatus = .held ∨ row.escrowStatus = .refundPending ∨
    row.escrowStatus = .released → row.paymentStatus = .paid
  payable : row.paymentStatus = .paid ∨ row.paymentStatus = .refunded →
    ∃ amount, row.amountMinor = some amount ∧ 0 < amount

def AllCoupled (s : Store) : Prop :=
  ∀ row ∈ s.recordRequests.rows, Coupled s row

theorem coupled_of_opened {s : Store} {row : RecordRequest} (opened : Opened row) :
    Coupled s row := by
  obtain ⟨status, ⟨unpaid, unrefunded⟩, escrow, unfulfilled⟩ := opened
  refine ⟨fun credentialId is => ?_, fun is => absurd is status, ?_, fun is => ?_, fun is => ?_⟩
  · rw [unfulfilled] at is
    exact absurd is (by simp)
  · rw [escrow]
    exact ⟨fun is => absurd is unrefunded, fun is => absurd is (by decide)⟩
  · rw [escrow] at is
    exact absurd is (by decide)
  · rcases is with paid | refunded
    · exact absurd paid unpaid
    · exact absurd refunded unrefunded

/-- Columns that are kept when credentials are only added. -/
theorem Coupled.mono {s t : Store} {row : RecordRequest} (coupled : Coupled s row)
    (kept : ∀ c ∈ s.credentials.rows, c ∈ t.credentials.rows) : Coupled t row := by
  refine ⟨fun credentialId is => ?_, coupled.fulfilled, coupled.refunded, coupled.paid,
    coupled.payable⟩
  obtain ⟨credential, found⟩ := coupled.linked credentialId is
  exact ⟨credential,
    Table.find?_eq_some.mpr ⟨kept _ (Table.find?_mem found), Table.find?_key found⟩⟩

/-- Where the columns are coupled, a request has no credential exactly when none is named. -/
theorem fulfilledCredential_eq_none {s : Store} {row : RecordRequest} (coupled : Coupled s row) :
    fulfilledCredential row s = none ↔ row.fulfilledCredentialId = none := by
  unfold fulfilledCredential
  cases named : row.fulfilledCredentialId with
  | none => simp
  | some credentialId =>
    obtain ⟨credential, found⟩ := coupled.linked credentialId named
    rw [Option.bind_some, found]
    simp

theorem fulfilled_of_closed {row : RecordRequest} (opened : isClosed row.status = false) :
    row.status ≠ .fulfilled ∧ row.status ≠ .rejected ∧ row.status ≠ .cancelled := by
  unfold isClosed at opened
  refine ⟨fun is => ?_, fun is => ?_, fun is => ?_⟩ <;> rw [is] at opened <;>
    exact absurd opened (by decide)

/-- The status that a confirmation leaves is not a closed one. -/
theorem statusOncePaid_open {status : RecordRequestStatus} (opened : isClosed status = false) :
    isClosed (statusOncePaid status) = false := by
  unfold statusOncePaid
  split
  · rfl
  · exact opened

/-- A payment that is confirmed. -/
theorem coupled_confirmed {s t : Store} {row row' : RecordRequest} (coupled : Coupled s row)
    (kept : ∀ c ∈ s.credentials.rows, c ∈ t.credentials.rows)
    (opened : isClosed row'.status = false)
    (credential : row'.fulfilledCredentialId = row.fulfilledCredentialId)
    (paid : row'.paymentStatus = .paid) (held : row'.escrowStatus = .held) {amount : ℤ}
    (has : row'.amountMinor = some amount) (positive : 0 < amount) : Coupled t row' := by
  refine ⟨fun credentialId is => ?_, fun is => absurd is (fulfilled_of_closed opened).1, ?_,
    fun _ => paid, fun _ => ⟨amount, has, positive⟩⟩
  · exact (coupled.mono kept).linked credentialId (credential ▸ is)
  · rw [paid, held]
    decide

/-- **The write of a plan** keeps the columns coupled. -/
theorem coupled_write {plan : RequestPlan} {s t : Store} {row : RecordRequest}
    (coupled : Coupled s row) (snapshot : plan.snapshot = some row) (saw : plan.saw row s)
    (written : Written plan s t) : Coupled t (plan.write row) := by
  have kept : ∀ c ∈ s.credentials.rows, c ∈ t.credentials.rows := by
    intro c inside
    rw [written.credentials]
    exact List.mem_append_left _ inside
  have before := coupled.mono kept
  cases plan with
  | review p => exact ⟨before.linked, fun is => absurd is saw, before.refunded, before.paid,
      before.payable⟩
  | confirm p =>
    obtain rfl := Option.some.inj snapshot
    obtain ⟨opened, positive, -⟩ := saw
    exact coupled_confirmed coupled kept (statusOncePaid_open opened) rfl rfl rfl rfl positive
  | payment p =>
    obtain rfl := Option.some.inj snapshot
    obtain ⟨opened, -, positive, -⟩ := saw
    exact coupled_confirmed coupled kept (statusOncePaid_open opened) rfl rfl rfl rfl positive
  | refund p =>
    obtain rfl := Option.some.inj snapshot
    obtain ⟨-, open_, paid, -⟩ := saw
    have payable := before.payable (.inl paid)
    refine ⟨before.linked, fun is => absurd is ?_, ?_, ?_, fun _ => payable⟩
    · show (if p.confirms && !([.rejected, .cancelled].contains p.existing.status) then
        RecordRequestStatus.cancelled else p.existing.status) ≠ .fulfilled
      split
      · decide
      · exact open_
    · show (if p.confirms then RecordRequestPaymentStatus.refunded else p.existing.paymentStatus) =
        .refunded ↔ (if p.confirms then RecordRequestEscrowStatus.refunded else .refundPending) =
        .refunded
      rw [paid]
      split <;> simp
    · show (if p.confirms then RecordRequestEscrowStatus.refunded else .refundPending) = .held ∨
        (if p.confirms then RecordRequestEscrowStatus.refunded else .refundPending) =
          .refundPending ∨
        (if p.confirms then RecordRequestEscrowStatus.refunded else .refundPending) = .released →
        (if p.confirms then RecordRequestPaymentStatus.refunded else p.existing.paymentStatus) =
          .paid
      rw [paid]
      split <;> simp
  | fulfill p =>
    obtain rfl := Option.some.inj snapshot
    have inside : historicalCredential p ∈ t.credentials.rows := by
      rw [written.credentials]
      exact List.mem_append_right _ (List.mem_singleton.mpr rfl)
    refine ⟨fun credentialId is => ?_, fun _ => rfl, ?_, ?_, before.payable⟩
    · exact ⟨_, Table.find?_eq_some.mpr ⟨inside, Option.some.inj is⟩⟩
    · show p.request.paymentStatus = .refunded ↔
        (if p.releases then RecordRequestEscrowStatus.released else p.request.escrowStatus) =
          .refunded
      by_cases releases : p.releases
      · rw [if_pos releases, paid_of_releases releases]
        decide
      · rw [if_neg releases]
        exact before.refunded
    · show (if p.releases then RecordRequestEscrowStatus.released else p.request.escrowStatus) =
          .held ∨
        (if p.releases then RecordRequestEscrowStatus.released else p.request.escrowStatus) =
          .refundPending ∨
        (if p.releases then RecordRequestEscrowStatus.released else p.request.escrowStatus) =
          .released → p.request.paymentStatus = .paid
      by_cases releases : p.releases
      · exact fun _ => paid_of_releases releases
      · rw [if_neg releases]
        exact before.paid
  | answered result => exact absurd snapshot (by simp [RequestPlan.snapshot])

/-- The requests after a step: as they were, or the one that was written. -/
theorem mem_step {rt : Runtime} {s : Store} {e : RequestEvent} {row' : RecordRequest}
    (inside : row' ∈ (requestStep rt s e).recordRequests.rows) :
    row' ∈ s.recordRequests.rows ∨ ∃ plan row, plan.snapshot = some row ∧ plan.saw row s ∧
      row ∈ s.recordRequests.rows ∧ Written plan s (requestStep rt s e) ∧
      row' = plan.write row := by
  rcases requestStep_cases rt s e with ⟨same, -⟩ | ⟨plan, res, t, row, -, snapshot, -, saw, found,
    written⟩
  · rw [same.recordRequests] at inside
    exact .inl inside
  · have here := find?_written written snapshot found row'.uuid
    rw [Table.find?_eq_some.mpr ⟨inside, rfl⟩] at here
    split at here
    · exact .inr ⟨plan, row, snapshot, saw, Table.find?_mem found, written,
        Option.some.inj here⟩
    · exact .inl (Table.find?_mem here.symm)

/-- Credentials are only added. -/
theorem credentials_kept (rt : Runtime) (s : Store) (e : RequestEvent) :
    ∀ c ∈ s.credentials.rows, c ∈ (requestStep rt s e).credentials.rows := by
  intro c inside
  rcases requestStep_cases rt s e with ⟨same, -⟩ | ⟨plan, res, t, row, -, -, -, -, -, written⟩
  · rw [same.credentials]
    exact inside
  · rw [written.credentials]
    exact List.mem_append_left _ inside

/-- **The step lemma.** Every operation keeps the columns of every request coupled. -/
theorem coupled_step (rt : Runtime) (s : Store) (e : RequestEvent) (coupled : AllCoupled s) :
    AllCoupled (requestStep rt s e) := by
  intro row' inside
  rcases mem_step inside with old | ⟨plan, row, snapshot, saw, here, written, rfl⟩
  · exact (coupled row' old).mono (credentials_kept rt s e)
  · exact coupled_write (coupled row here) snapshot saw written

end AcadID.RecordRequests
