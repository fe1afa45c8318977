/-
**The ledger of a record request.**

A run of payments, refunds and fulfilments over any set of record requests, one after the other,
any call of which may fail at any point.

* `paidTotal` and `refundedTotal` — the sum of the paid ledger entries of a request, and what its
  refunds took out of it.
* `Balanced` — what the ledger of a request comes to at each status of its escrow.
* `MoneyBooks` — the invariant: there is no entry until the escrow is released or refunded, and then
  there is one, after which no operation goes through.
* `balanced_of_opened` — **the ledger of a request is balanced in every state of every run.**
* `ledger_unbalanced` — it is not always what was released: a refund leaves it negative.
-/

import AcadID.Requests.Columns

namespace AcadID.Ledger

open Lib RecordRequests

/-! ### Runs -/

/-- Every operation but a review. -/
def movesMoney : RequestCall → Bool
  | .review _ _ _ _ => false
  | _ => true

abbrev MoneyEvent : Type :=
  { e : RequestEvent // movesMoney e.call = true }

def moneyStep (rt : Runtime) (s : Store) (e : MoneyEvent) : Store :=
  requestStep rt s e.1

/-! ### The ledger of a request -/

/-- A paid entry of a request. -/
def isEntryOf (id : Uuid) (entry : RevenueLedgerEntry) : Bool :=
  entry.status == .paid && entry.sourceId == some id &&
    ["RecordRequest", "RecordRequestRefund"].contains entry.sourceType

/-- The paid ledger entries of a request. -/
def entriesOf (id : Uuid) (s : Store) : List RevenueLedgerEntry :=
  s.revenueLedger.rows.filter (isEntryOf id)

/-- The sum of the paid ledger entries of a request. -/
def paidTotal (id : Uuid) (s : Store) : ℤ :=
  ((entriesOf id s).map (·.amountMinor)).sum

/-- What the refund entries of a request take out of its ledger. -/
def refundedTotal (id : Uuid) (s : Store) : ℤ :=
  (((entriesOf id s).filter (·.sourceType == "RecordRequestRefund")).map (-·.amountMinor)).sum

/-- **What the ledger of a request comes to**: the amount once it is released, minus what was
refunded once it is refunded, which is at most what was held, and nothing before. -/
structure Balanced (id : Uuid) (s : Store) : Prop where
  released : ∀ row, s.recordRequests.find? id = some row → row.escrowStatus = .released →
    ∃ amount, row.amountMinor = some amount ∧ paidTotal id s = amount
  refunded : ∀ row, s.recordRequests.find? id = some row → row.escrowStatus = .refunded →
    paidTotal id s = -refundedTotal id s ∧ 0 < refundedTotal id s ∧
      ∃ amount, row.amountMinor = some amount ∧ refundedTotal id s ≤ amount
  unsettled : ∀ row, s.recordRequests.find? id = some row → row.escrowStatus ≠ .released →
    row.escrowStatus ≠ .refunded → paidTotal id s = 0

/-! ### What a plan adds -/

theorem isEntryOf_release {plan : FulfillPlan} {amount : ℤ} {id : Uuid} :
    isEntryOf id (releaseEntry plan amount) = (plan.request.uuid == id) := by
  unfold isEntryOf releaseEntry
  simp [beq_eq_decide]

theorem isEntryOf_refund {plan : RefundPlan} {id : Uuid} :
    isEntryOf id (refundEntry plan) = (plan.existing.uuid == id) := by
  unfold isEntryOf refundEntry
  simp [beq_eq_decide]

/-- **The entries of a request after a step** that writes one: those that its plan adds. -/
theorem entriesOf_written {plan : RequestPlan} {s t : Store} {row : RecordRequest}
    (written : Written plan s t) (snapshot : plan.snapshot = some row) (id : Uuid) :
    entriesOf id t = entriesOf id s ++ if row.uuid = id then plan.entries else [] := by
  unfold entriesOf
  rw [written.ledger, List.filter_append]
  refine congrArg _ ?_
  have all : ∀ entry ∈ plan.entries, isEntryOf id entry = (row.uuid == id) := by
    intro entry inside
    cases plan with
    | refund p =>
      obtain rfl := Option.some.inj snapshot
      have inside : entry ∈ (if p.confirms then [refundEntry p] else []) := inside
      split at inside
      · rw [List.mem_singleton.mp inside]
        exact isEntryOf_refund
      · exact absurd inside List.not_mem_nil
    | fulfill p =>
      obtain rfl := Option.some.inj snapshot
      have inside : entry ∈ (p.released.map (releaseEntry p)).toList := inside
      obtain ⟨amount, -, rfl⟩ := Option.map_eq_some_iff.mp (Option.mem_toList.mp inside)
      exact isEntryOf_release
    | review p | confirm p | payment p | answered result =>
      exact absurd inside List.not_mem_nil
  by_cases is : row.uuid = id
  · rw [if_pos is, List.filter_eq_self]
    intro entry inside
    rw [all entry inside, is]
    exact beq_self_eq_true id
  · rw [if_neg is, List.filter_eq_nil_iff]
    intro entry inside
    rw [all entry inside]
    simpa using is

/-! ### The invariant -/

/-- What the ledger holds at a status of the escrow. -/
def Entered (id : Uuid) (s : Store) (row : RecordRequest) : Prop :=
  match row.escrowStatus with
  | .released =>
    ∃ amount entry, row.amountMinor = some amount ∧ entriesOf id s = [entry] ∧
      entry.amountMinor = amount
  | .refunded =>
    ∃ amount entry, row.amountMinor = some amount ∧ entriesOf id s = [entry] ∧
      entry.sourceType = "RecordRequestRefund" ∧ entry.amountMinor < 0 ∧
      -entry.amountMinor ≤ amount
  | .none | .held | .refundPending => entriesOf id s = []

/-- **The books of a request**: its columns are coupled, its ledger is as its escrow says, and once
its escrow is released or refunded it is closed. -/
structure MoneyBooks (id : Uuid) (s : Store) (row : RecordRequest) : Prop where
  found : s.recordRequests.find? id = some row
  coupled : Coupled s row
  closed : row.escrowStatus = .released ∨ row.escrowStatus = .refunded →
    isClosed row.status = true
  published : row.escrowStatus = .released → row.fulfilledCredentialId.isSome = true
  entered : Entered id s row

theorem balanced_of_books {id : Uuid} {s : Store} {row : RecordRequest}
    (books : MoneyBooks id s row) : Balanced id s := by
  have entered := books.entered
  unfold Entered at entered
  refine ⟨fun row' found' released => ?_, fun row' found' refunded => ?_,
    fun row' found' unreleased unrefunded => ?_⟩
  · obtain rfl := Option.some.inj (books.found.symm.trans found')
    rw [released] at entered
    obtain ⟨amount, entry, has, entries, is⟩ := entered
    refine ⟨amount, has, ?_⟩
    unfold paidTotal
    rw [entries, ← is]
    simp
  · obtain rfl := Option.some.inj (books.found.symm.trans found')
    rw [refunded] at entered
    obtain ⟨amount, entry, has, entries, is, negative, bounded⟩ := entered
    have out : refundedTotal id s = -entry.amountMinor := by
      unfold refundedTotal
      rw [entries]
      simp [is]
    have total : paidTotal id s = entry.amountMinor := by
      unfold paidTotal
      rw [entries]
      simp
    refine ⟨by omega, by omega, amount, has, ?_⟩
    rw [out]
    exact bounded
  · obtain rfl := Option.some.inj (books.found.symm.trans found')
    have none_ : entriesOf id s = [] := by
      cases escrow : row.escrowStatus with
      | released => exact absurd escrow unreleased
      | refunded => exact absurd escrow unrefunded
      | none | held | refundPending =>
        rw [escrow] at entered
        exact entered
    unfold paidTotal
    rw [none_]
    rfl

/-- A request that is open has no entries. -/
theorem no_entries {id : Uuid} {s : Store} {row : RecordRequest} (books : MoneyBooks id s row)
    (unsettled : row.escrowStatus ≠ .released ∧ row.escrowStatus ≠ .refunded) :
    entriesOf id s = [] := by
  have entered := books.entered
  unfold Entered at entered
  cases escrow : row.escrowStatus with
  | released => exact absurd escrow unsettled.1
  | refunded => exact absurd escrow unsettled.2
  | none | held | refundPending =>
    rw [escrow] at entered
    exact entered

theorem unsettled_of_open {id : Uuid} {s : Store} {row : RecordRequest}
    (books : MoneyBooks id s row) (opened : isClosed row.status = false) :
    row.escrowStatus ≠ .released ∧ row.escrowStatus ≠ .refunded := by
  refine ⟨fun is => ?_, fun is => ?_⟩
  · exact absurd (books.closed (.inl is)) (by rw [opened]; decide)
  · exact absurd (books.closed (.inr is)) (by rw [opened]; decide)

/-- A payment that is confirmed keeps the books: it adds no entry. -/
theorem books_confirmed {id : Uuid} {s t : Store} {row row' : RecordRequest}
    (books : MoneyBooks id s row) (opened : isClosed row.status = false)
    (found : t.recordRequests.find? id = some row') (coupled : Coupled t row')
    (held : row'.escrowStatus = .held) (entries : entriesOf id t = entriesOf id s) :
    MoneyBooks id t row' := by
  refine ⟨found, coupled, fun is => ?_, fun is => ?_, ?_⟩
  · rw [held] at is
    exact absurd is (by decide)
  · rw [held] at is
    exact absurd is (by decide)
  · unfold Entered
    rw [held]
    exact entries.trans (no_entries books (unsettled_of_open books opened))

/-- A refund keeps the books: confirmed, it is the one entry of its request. -/
theorem books_refunded {id : Uuid} {s t : Store} {p : RefundPlan}
    (books : MoneyBooks id s p.existing) (saw : (RequestPlan.refund p).saw p.existing s)
    (found : t.recordRequests.find? id = some (refunded p p.existing))
    (coupled : Coupled t (refunded p p.existing))
    (entries : entriesOf id t = entriesOf id s ++ (RequestPlan.refund p).entries) :
    MoneyBooks id t (refunded p p.existing) := by
  obtain ⟨-, -, paid, escrow, positive, bounded⟩ := saw
  have unsettled : p.existing.escrowStatus ≠ .released ∧ p.existing.escrowStatus ≠ .refunded := by
    rcases escrow with is | is <;> rw [is] <;> decide
  rw [no_entries books unsettled, List.nil_append] at entries
  by_cases confirms : p.confirms
  · have now : (refunded p p.existing).escrowStatus = .refunded := if_pos confirms
    have one : entriesOf id t = [refundEntry p] := by
      rw [entries]
      exact if_pos confirms
    refine ⟨found, coupled, fun _ => ?_, fun is => ?_, ?_⟩
    · show isClosed (if p.confirms && !([.rejected, .cancelled].contains p.existing.status) then
        .cancelled else p.existing.status) = true
      rw [confirms, Bool.true_and]
      by_cases already : [RecordRequestStatus.rejected, .cancelled].contains p.existing.status
      · rw [already]
        have cases_ : p.existing.status = .rejected ∨ p.existing.status = .cancelled := by
          simpa using already
        rcases cases_ with is | is <;> rw [is] <;> decide
      · rw [Bool.eq_false_iff.mpr already]
        rfl
    · rw [now] at is
      exact absurd is (by decide)
    · unfold Entered
      rw [now]
      obtain ⟨amount, has, payable⟩ := books.coupled.payable (.inl paid)
      refine ⟨amount, refundEntry p, has, one, rfl, ?_, ?_⟩
      · show -p.refundAmount < 0
        omega
      · show - -p.refundAmount ≤ amount
        rw [neg_neg]
        exact bounded amount has (by omega)
  · have now : (refunded p p.existing).escrowStatus = .refundPending := if_neg confirms
    refine ⟨found, coupled, fun is => ?_, fun is => ?_, ?_⟩
    · rw [now] at is
      exact absurd is (by decide)
    · rw [now] at is
      exact absurd is (by decide)
    · unfold Entered
      rw [now]
      rw [entries]
      exact if_neg confirms

/-- A fulfilment keeps the books: where it releases the payment, the release is the one entry. -/
theorem books_fulfilled {id : Uuid} {s t : Store} {p : FulfillPlan}
    (books : MoneyBooks id s p.request) (saw : (RequestPlan.fulfill p).saw p.request s)
    (found : t.recordRequests.find? id = some (fulfilled p p.request))
    (coupled : Coupled t (fulfilled p p.request))
    (entries : entriesOf id t = entriesOf id s ++ (RequestPlan.fulfill p).entries) :
    MoneyBooks id t (fulfilled p p.request) := by
  obtain ⟨unfulfilled, -, payment⟩ := saw
  rw [fulfilledCredential_eq_none books.coupled] at unfulfilled
  have unsettled : p.request.escrowStatus ≠ .released ∧ p.request.escrowStatus ≠ .refunded := by
    refine ⟨fun is => ?_, fun is => ?_⟩
    · have published := books.published is
      rw [unfulfilled] at published
      exact absurd published (by decide)
    · -- A refunded request has a positive amount, and is neither paid, waived nor free.
      have refunded := books.coupled.refunded.mpr is
      obtain ⟨amount, has, positive⟩ := books.coupled.payable (.inr refunded)
      have allowed := payment amount has positive
      rw [refunded] at allowed
      exact absurd allowed (by decide)
  rw [no_entries books unsettled, List.nil_append] at entries
  refine ⟨found, coupled, fun _ => rfl, fun _ => rfl, ?_⟩
  have entries : entriesOf id t = (p.released.map (releaseEntry p)).toList := entries
  unfold Entered
  by_cases releases : p.releases
  · have now : (fulfilled p p.request).escrowStatus = .released := if_pos releases
    obtain ⟨amount, has, positive⟩ := books.coupled.payable (.inl (paid_of_releases releases))
    have released : p.released = some amount := by
      unfold FulfillPlan.released
      rw [if_pos releases, has]
      exact Option.filter_some_pos (by simpa using positive)
    rw [now]
    rw [released] at entries
    exact ⟨amount, releaseEntry p amount, has, entries, rfl⟩
  · have now : (fulfilled p p.request).escrowStatus = p.request.escrowStatus := if_neg releases
    have released : p.released = none := if_neg releases
    rw [released] at entries
    rw [now]
    cases escrow : p.request.escrowStatus with
    | released => exact absurd escrow unsettled.1
    | refunded => exact absurd escrow unsettled.2
    | none | held | refundPending => exact entries

/-! ### Every run -/

theorem not_moves_of_review {rt : Runtime} {call : RequestCall} {s : Store} {p : ReviewPlan}
    (checked : requestCheck rt call s = .ok (.review p)) : ¬ movesMoney call = true := by
  cases call with
  | review env auth id body => simp [movesMoney]
  | confirm env auth id body | refund env auth id body | fulfill env auth id body =>
    obtain ⟨p', -, same⟩ := bind_eq_ok.mp checked
    exact absurd (pure_eq_ok.mp same) (by simp)
  | payment env job =>
    obtain ⟨p', -, same⟩ := bind_eq_ok.mp checked
    cases p' <;> exact absurd (pure_eq_ok.mp same) (by simp)

/-- **The step lemma.** Every operation but a review keeps the books of a request. -/
theorem books_step {rt : Runtime} {id : Uuid} {s : Store} {e : MoneyEvent} {row : RecordRequest}
    (books : MoneyBooks id s row) : ∃ row', MoneyBooks id (moneyStep rt s e) row' := by
  obtain ⟨found, coupled, closed, published, entered⟩ := books
  rcases requestStep_cases rt s e.1 with ⟨same, -⟩ | ⟨plan, res, t, target, -, snapshot, checked,
    saw, there, written⟩
  · refine ⟨row, ?_, coupled.mono ?_, closed, published, ?_⟩
    · show (requestStep rt s e.1).recordRequests.find? id = some row
      rw [same.recordRequests]
      exact found
    · show ∀ c ∈ s.credentials.rows, c ∈ (requestStep rt s e.1).credentials.rows
      rw [same.credentials]
      exact fun _ inside => inside
    · unfold Entered entriesOf moneyStep
      rw [same.revenueLedger]
      exact entered
  · have entries := entriesOf_written written snapshot id
    have after := find?_written written snapshot there id
    by_cases is : target.uuid = id
    · -- The step writes this request.
      rw [is, found] at there
      obtain rfl := Option.some.inj there
      rw [if_pos is] at entries
      rw [if_pos is.symm] at after
      have books : MoneyBooks id s row := ⟨found, coupled, closed, published, entered⟩
      have kept := coupled_write coupled snapshot saw written
      refine ⟨plan.write row, ?_⟩
      cases plan with
      | review p =>
        obtain ⟨call, moves⟩ := e
        exact absurd moves (not_moves_of_review checked)
      | confirm p =>
        exact books_confirmed books saw.1 after kept rfl (entries.trans (List.append_nil _))
      | payment p =>
        exact books_confirmed books saw.1 after kept rfl (entries.trans (List.append_nil _))
      | refund p =>
        obtain rfl := Option.some.inj snapshot
        exact books_refunded books saw after kept entries
      | fulfill p =>
        obtain rfl := Option.some.inj snapshot
        exact books_fulfilled books saw after kept entries
      | answered result => exact absurd snapshot (by simp [RequestPlan.snapshot])
    · rw [if_neg is, List.append_nil] at entries
      rw [if_neg fun same => is same.symm] at after
      refine ⟨row, after.trans found, coupled.mono ?_, closed, published, ?_⟩
      · intro c inside
        show c ∈ (requestStep rt s e.1).credentials.rows
        rw [written.credentials]
        exact List.mem_append_left _ inside
      · unfold Entered
        rw [show entriesOf id (moneyStep rt s e) = entriesOf id s from entries]
        exact entered

/-- **The ledger is balanced.** From a store where a request is as it was created and has no ledger
entry, its ledger is balanced in every state of every run. -/
theorem balanced_of_opened (rt : Runtime) (id : Uuid) (s : Store) (row : RecordRequest)
    (found : s.recordRequests.find? id = some row) (opened : Opened row)
    (unentered : entriesOf id s = []) (events : List MoneyEvent) :
    Throughout (moneyStep rt) (Balanced id) s events := by
  have start : ∃ row, MoneyBooks id s row := by
    refine ⟨row, found, coupled_of_opened opened, fun is => ?_, fun is => ?_, ?_⟩
    · rw [opened.escrow] at is
      exact absurd is (by decide)
    · rw [opened.escrow] at is
      exact absurd is (by decide)
    · unfold Entered
      rw [opened.escrow]
      exact unentered
  have keeps : ∀ t e, (∃ row, MoneyBooks id t row) → ∃ row, MoneyBooks id (moneyStep rt t e) row :=
    fun _ _ ⟨_, books⟩ => books_step books
  have kept := throughout_of_keeps keeps start events
  rw [throughout_iff_prefixes] at kept ⊢
  intro before after same
  obtain ⟨row', books⟩ := kept before after same
  exact balanced_of_books books

/-! ### A payment that is refunded -/

/-- A payment of the whole amount. -/
def payment : MoneyEvent :=
  ⟨⟨.payment (envOf 1) (chargeJob transcriptRequest.uuid "PSK-001" 5000), []⟩, rfl⟩

/-- A confirmed refund of all of the amount, or of a part. -/
def refundOf (amountMinor : Option ℤ) : MoneyEvent :=
  ⟨⟨.refund (envOf 2) reviewer transcriptRequest.uuid (Json.fields
    [("action", some (.str "CONFIRM")), ("reason", some (.str "Withdrawn")),
      ("refundReference", some (.str "RFD-001")),
      ("amountMinor", amountMinor.map fun amount => .num amount)]), []⟩, rfl⟩

theorem transcriptRequest_opened : Opened transcriptRequest :=
  ⟨by decide, by decide, rfl, rfl⟩

/-- A refund of a part of the payment is taken out of the ledger. -/
theorem balanced_of_opened_refunded :
    Throughout (moneyStep .plain) (Balanced transcriptRequest.uuid) (storeOf transcriptRequest)
        [payment, refundOf (some 2000)] ∧
      paidTotal transcriptRequest.uuid
        (runs (moneyStep .plain) (storeOf transcriptRequest) [payment, refundOf (some 2000)]) =
          -2000 :=
  ⟨balanced_of_opened .plain _ _ transcriptRequest rfl transcriptRequest_opened rfl _,
    by decide +kernel⟩

/-- **The ledger is not what was released**: once a payment is refunded, it is negative; and the
refund may be less than what was held. -/
theorem ledger_unbalanced :
    ¬ ∀ (rt : Runtime) (id : Uuid) (s : Store) (row : RecordRequest),
      s.recordRequests.find? id = some row → Opened row → entriesOf id s = [] →
      ∀ events : List MoneyEvent, Throughout (moneyStep rt) (fun t =>
        0 ≤ paidTotal id t ∧ ∀ row, t.recordRequests.find? id = some row →
          paidTotal id t =
            (if row.escrowStatus = .released then row.amountMinor.getD 0 else 0) ∧
          (row.escrowStatus = .refunded → row.amountMinor = some (refundedTotal id t))) s events := by
  intro all
  have claimed := all .plain transcriptRequest.uuid (storeOf transcriptRequest) transcriptRequest rfl
    transcriptRequest_opened rfl [payment, refundOf (some 2000)]
  have last := claimed.2.2.1
  exact absurd last (by decide)

end AcadID.Ledger
