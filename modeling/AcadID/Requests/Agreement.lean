/-
**The manual confirmation of a payment and the worker's, side by side.**

One record request and one payment, confirmed by a reviewer or by the worker.

* `ManualAccepts`, `WorkerConfirms` and `WorkerRepeats` — when each path accepts, as conditions on
  the row and the payment alone; `manual_outcome` and `worker_outcome` are the rows they leave.
* `agree_iff` — **the exact condition under which the two paths agree**: `PathsMeet`.
* `agree_of_regular` — they agree on payments within the limits of a manual confirmation;
  `paths_differ` — not on every payment.
-/

import AcadID.Requests.Operations

namespace AcadID.Agreement

open Lib RecordRequests JobWorker

/-! ### One payment, two paths -/

/-- A payment by the provider `PAYSTACK`. -/
structure Payment where
  reference : String
  amountMinor : ℤ
  currency : String

/-- The body of a manual confirmation. -/
def manualBody (p : Payment) : Json :=
  .obj
    [("paymentReference", .str p.reference), ("amountMinor", .num p.amountMinor),
      ("currency", .str p.currency), ("paymentProvider", .str "PAYSTACK")]

/-- A job of the worker for the payment, whose lookup finds the row. -/
structure JobFor (p : Payment) (row : RecordRequest) (pick : ℕ) (s : Store) (job : ClaimedJob) :
    Prop where
  event : jobText job.payload "event" = some "charge.success"
  status : (jobText job.payload "status").any (· ≠ "success") = false
  reference : job.payload.get? "reference" = some (.str p.reference)
  amountMinor : job.payload.get? "amountMinor" = some (.num p.amountMinor)
  currency : job.payload.get? "currency" = some (.str p.currency)
  lookup : ∀ reference, findRecordRequestForPayment pick (jobText job.payload "recordRequestId")
    (jobText job.payload "requestId") reference s = some row

/-- The row that a call leaves, when it is accepted. -/
def outcome (rt : Runtime) (call : RequestCall) (id : Uuid) (s : Store) : Option RecordRequest :=
  match (requestMethods rt).attempt call s with
  | .ok (_, t) => t.recordRequests.find? id
  | .error _ => none

/-- What the two paths are compared on. -/
structure PaymentState where
  status : RecordRequestStatus
  paymentStatus : RecordRequestPaymentStatus
  escrowStatus : RecordRequestEscrowStatus
  paymentReference : Option String
  amountMinor : Option ℤ
  currency : String
  deriving DecidableEq

def paymentState (row : RecordRequest) : PaymentState where
  status := row.status
  paymentStatus := row.paymentStatus
  escrowStatus := row.escrowStatus
  paymentReference := row.paymentReference
  amountMinor := row.amountMinor
  currency := row.currency

/-! ### When each path accepts -/

/-- The amount is positive, and the payment covers it. -/
def Payable (row : RecordRequest) (amountMinor : ℤ) : Prop :=
  0 < row.amountMinor.getD amountMinor ∧ row.amountMinor.getD amountMinor ≤ amountMinor

/-- What the body of a manual confirmation must look like. -/
structure BodyLimits (p : Payment) : Prop where
  shortest : 3 ≤ Text.utf16Length p.reference
  longest : Text.utf16Length p.reference ≤ 160
  amount : p.amountMinor ≤ 100000000
  currency : Text.utf16Length p.currency = 3

/-- The amount that the worker reads. -/
def workerAmount (p : Payment) : ℤ :=
  min maxSafeInteger p.amountMinor

/-- The currency that the worker reads. -/
def workerCurrency (rt : Runtime) (p : Payment) : String :=
  rt.toUpperCase (if Text.isBlank p.currency then "NGN" else Text.trim p.currency)

/-- A reviewer's confirmation is accepted. -/
def ManualAccepts (row : RecordRequest) (p : Payment) : Prop :=
  isClosed row.status = false ∧ BodyLimits p ∧ Payable row p.amountMinor

/-- The worker writes the payment. -/
def WorkerConfirms (rt : Runtime) (row : RecordRequest) (p : Payment) : Prop :=
  isClosed row.status = false ∧ row.paymentStatus ≠ .paid ∧ Text.isBlank p.reference = false ∧
    Payable row (workerAmount p) ∧ row.amountMinor.getD (workerAmount p) ≤ 2147483647 ∧
    (row.currency = "" ∨ rt.toUpperCase row.currency = workerCurrency rt p)

/-- The worker finds the payment confirmed already. -/
def WorkerRepeats (row : RecordRequest) (p : Payment) : Prop :=
  isClosed row.status = false ∧ row.paymentStatus = .paid ∧ Text.isBlank p.reference = false ∧
    ∀ paid, row.paymentReference = some paid → paid = "" ∨ paid = Text.trim p.reference

/-- **Where the two paths meet.** Both refuse; or both write, and the worker reads reference and
currency as they are written; or the worker repeats, and the row is as the reviewer would leave
it. -/
def PathsMeet (rt : Runtime) (row : RecordRequest) (p : Payment) : Prop :=
  (¬ ManualAccepts row p ∧ ¬ WorkerConfirms rt row p ∧ ¬ WorkerRepeats row p) ∨
  (ManualAccepts row p ∧ WorkerConfirms rt row p ∧ Text.trim p.reference = p.reference ∧
    workerCurrency rt p = p.currency) ∨
  (ManualAccepts row p ∧ WorkerRepeats row p ∧ row.status ≠ .awaitingPayment ∧
    row.escrowStatus = .held ∧ row.paymentReference = some p.reference ∧
    row.amountMinor ≠ none ∧ row.currency = p.currency)

/-! ### The manual path -/

theorem checks_reference {reference : String} :
    (∀ check ∈ [Schema.minLength 3, Schema.maxLength 160], check reference = none) ↔
      3 ≤ Text.utf16Length reference ∧ Text.utf16Length reference ≤ 160 := by
  simp [Schema.minLength, Schema.maxLength]

theorem checks_amount {amountMinor : ℤ} :
    (∀ check ∈ [Schema.positive, Schema.atMost maxAmountMinor],
      check (amountMinor : ℚ) = none) ↔ 0 < amountMinor ∧ amountMinor ≤ 100000000 := by
  have bound : ((amountMinor : ℚ) ≤ maxAmountMinor) ↔ amountMinor ≤ 100000000 := by
    unfold maxAmountMinor
    exact_mod_cast Iff.rfl
  simp [Schema.positive, Schema.atMost, bound]

theorem checks_currency {currency : String} :
    (∀ check ∈ [Schema.exactLength 3], check currency = none) ↔
      Text.utf16Length currency = 3 := by
  simp only [List.mem_singleton, forall_eq, Schema.exactLength]
  split
  · simp
    omega
  · split
    · simp
      omega
    · simp
      omega

/-- The body of a manual confirmation parses exactly within its limits. -/
theorem manualBody_eq_valid {rt : Runtime} {p : Payment} {input : ConfirmInput}
    (positive : 0 < p.amountMinor) :
    confirmRecordRequestPaymentSchema rt (some (manualBody p)) = .valid input ↔
      BodyLimits p ∧
        input = ⟨p.reference, some p.amountMinor, p.currency, "PAYSTACK", none, none⟩ := by
  have read : ∀ f : Json → Checked ConfirmInput,
      Schema.object f (some (manualBody p)) = f (manualBody p) := fun _ => rfl
  have reference : (manualBody p).get? "paymentReference" = some (.str p.reference) := rfl
  have amount : (manualBody p).get? "amountMinor" = some (.num p.amountMinor) := rfl
  have currency : (manualBody p).get? "currency" = some (.str p.currency) := rfl
  have provider : (manualBody p).get? "paymentProvider" = some (.str "PAYSTACK") := rfl
  have paidAt : (manualBody p).get? "paidAt" = none := rfl
  have note : (manualBody p).get? "note" = none := rfl
  unfold confirmRecordRequestPaymentSchema
  rw [read]
  unfold Schema.field
  rw [reference, amount, currency, provider, paidAt, note]
  simp only [Checked.seq_eq_valid, Checked.map_eq_valid, Checked.under_eq_valid,
    Schema.withDefault_some, Schema.optional_none, Schema.optional_eq_valid,
    Schema.string_eq_valid, Schema.integer_eq_valid]
  constructor
  · rintro ⟨_, _, ⟨_, _, ⟨_, _, ⟨_, _, ⟨_, _, ⟨r, ⟨isReference, shaped⟩, rfl⟩,
      ⟨a, ⟨isAmount, bounded⟩, rfl⟩, rfl⟩, ⟨isCurrency, three⟩, rfl⟩, ⟨isProvider, -⟩, rfl⟩,
      noDate, rfl⟩, noNote, rfl⟩
    obtain rfl := Json.str.inj (Option.some.inj isReference)
    obtain rfl : p.amountMinor = a := by
      exact_mod_cast Json.num.inj (Option.some.inj isAmount)
    obtain rfl := Json.str.inj (Option.some.inj isCurrency)
    obtain rfl := Json.str.inj (Option.some.inj isProvider)
    obtain rfl := Checked.valid.inj noDate
    obtain rfl := Checked.valid.inj noNote
    obtain ⟨shortest, longest⟩ := checks_reference.mp shaped
    exact ⟨⟨shortest, longest, (checks_amount.mp bounded).2, checks_currency.mp three⟩, rfl⟩
  · rintro ⟨limits, rfl⟩
    have shaped := checks_reference.mpr ⟨limits.shortest, limits.longest⟩
    have bounded := checks_amount.mpr ⟨positive, limits.amount⟩
    have three := checks_currency.mpr limits.currency
    exact ⟨_, _, ⟨_, _, ⟨_, _, ⟨_, _, ⟨_, _, ⟨_, ⟨rfl, shaped⟩, rfl⟩, ⟨_, ⟨rfl, bounded⟩, rfl⟩,
      rfl⟩, ⟨rfl, three⟩, rfl⟩, ⟨rfl, by decide⟩, rfl⟩, rfl, rfl⟩, rfl, rfl⟩

/-- The reviewer may work on the request, which is in the store. -/
structure ReviewedBy (auth : AuthTokenPayload) (row : RecordRequest) (s : Store) : Prop where
  found : s.recordRequests.find? row.uuid = some row
  reviewer : assertRecordRequestReviewer auth row s = .ok ()

/-- What the amount of the row, or else that of the payment, has to be. -/
theorem payable_iff {row : RecordRequest} {amountMinor expectedAmount : ℤ} :
    (row.amountMinor <|> some amountMinor).filter (0 < ·) = some expectedAmount ∧
        expectedAmount ≤ amountMinor ↔
      Payable row amountMinor ∧ expectedAmount = row.amountMinor.getD amountMinor := by
  have same : (row.amountMinor <|> some amountMinor) =
      some (row.amountMinor.getD amountMinor) := by
    cases row.amountMinor <;> rfl
  unfold Payable
  rw [same, Option.filter_eq_some_iff]
  constructor
  · rintro ⟨⟨is, positive⟩, covered⟩
    obtain rfl := Option.some.inj is
    exact ⟨⟨by simpa using positive, covered⟩, rfl⟩
  · rintro ⟨⟨positive, covered⟩, rfl⟩
    exact ⟨⟨rfl, by simpa using positive⟩, covered⟩

/-- A call that is accepted passes its checks and commits. -/
theorem outcome_eq_some {rt : Runtime} {call : RequestCall} {id : Uuid} {s : Store}
    {r : RecordRequest} :
    outcome rt call id s = some r ↔
      ∃ plan res t, requestCheck rt call s = .ok plan ∧ requestCommit plan s = .ok (res, t) ∧
        t.recordRequests.find? id = some r := by
  unfold outcome Method.attempt
  cases checked : requestCheck rt call s with
  | error e =>
    have refused : (requestMethods rt).check call s = .error e := checked
    rw [refused]
    simp [bind, Except.bind]
  | ok plan =>
    have passed : (requestMethods rt).check call s = .ok plan := checked
    rw [passed]
    show (match requestCommit plan s with
      | .ok (_, t) => t.recordRequests.find? id
      | .error _ => none) = some r ↔ _
    cases committed : requestCommit plan s with
    | error e => simp [committed]
    | ok went =>
      obtain ⟨res, t⟩ := went
      simp [committed]

/-- A call that passes its checks and commits leaves the row that its plan writes. -/
theorem outcome_of_commit {rt : Runtime} {call : RequestCall} {row : RecordRequest} {s t : Store}
    {plan : RequestPlan} {res : RequestResponse} (found : s.recordRequests.find? row.uuid = some row)
    (checked : requestCheck rt call s = .ok plan) (snapshot : plan.snapshot = some row)
    (committed : requestCommit plan s = .ok (res, t)) :
    outcome rt call row.uuid s = some (plan.write row) := by
  refine outcome_eq_some.mpr ⟨plan, res, t, checked, committed, ?_⟩
  rw [(requestCommit_spec committed).target row.uuid ⟨row, snapshot, rfl⟩, found, Option.map_some]

/-- What a reviewer leaves. -/
def manualState (row : RecordRequest) (p : Payment) : PaymentState where
  status := statusOncePaid row.status
  paymentStatus := .paid
  escrowStatus := .held
  paymentReference := some p.reference
  amountMinor := some (row.amountMinor.getD p.amountMinor)
  currency := p.currency

/-- **What a manual confirmation leaves**, and when. -/
theorem manual_outcome (rt : Runtime) (env : RequestEnv) {auth : AuthTokenPayload}
    {row : RecordRequest} {s : Store} {p : Payment} (positive : 0 < p.amountMinor)
    (reviewed : ReviewedBy auth row s) (state : PaymentState) :
    (outcome rt (.confirm env auth row.uuid (manualBody p)) row.uuid s).map paymentState =
        some state ↔ ManualAccepts row p ∧ state = manualState row p := by
  rw [Option.map_eq_some_iff]
  constructor
  · rintro ⟨r, accepted, rfl⟩
    obtain ⟨plan, res, t, checked, committed, after⟩ := outcome_eq_some.mp accepted
    obtain ⟨plan, passed, same⟩ := bind_eq_ok.mp checked
    rw [pure_eq_ok] at same
    subst same
    obtain ⟨input, existing, expectedAmount, paidAt, parsed, read, opened, expected, covered, -,
      rfl⟩ := confirmCheck_eq_ok.mp passed
    obtain ⟨limits, rfl⟩ := (manualBody_eq_valid positive).mp (parseBody_eq_ok.mp parsed)
    obtain rfl : row = existing :=
      Option.some.inj (reviewed.found.symm.trans (readRequest_eq_ok.mp read).1)
    obtain ⟨payable, rfl⟩ := payable_iff.mp ⟨expected, by simpa using covered⟩
    have left := (requestCommit_spec committed).target row.uuid ⟨row, rfl, rfl⟩
    rw [reviewed.found, Option.map_some] at left
    obtain rfl := Option.some.inj (left.symm.trans after)
    exact ⟨⟨opened, limits, payable⟩, rfl⟩
  · rintro ⟨⟨opened, limits, payable⟩, rfl⟩
    obtain ⟨expected, covered⟩ := payable_iff.mpr ⟨payable, rfl⟩
    have checked : confirmCheck rt env auth row.uuid (manualBody p) s = .ok
        ⟨auth, row, ⟨p.reference, some p.amountMinor, p.currency, "PAYSTACK", none, none⟩,
          row.amountMinor.getD p.amountMinor, env.now⟩ :=
      confirmCheck_eq_ok.mpr ⟨_, row, _, env.now,
        parseBody_eq_ok.mpr ((manualBody_eq_valid positive).mpr ⟨limits, rfl⟩),
        readRequest_eq_ok.mpr ⟨reviewed.found, reviewed.reviewer⟩, opened, expected,
        by simpa using covered, rfl, rfl⟩
    exact ⟨_, outcome_of_commit reviewed.found (bind_eq_ok.mpr ⟨_, checked, rfl⟩) rfl
      (bind_eq_ok.mpr ⟨_, updateRequest_eq_ok.mpr ⟨row, reviewed.found, rfl, rfl⟩, rfl⟩), rfl⟩

/-! ### The path of the worker -/

/-- What the worker leaves when it writes. -/
def workerState (rt : Runtime) (row : RecordRequest) (p : Payment) : PaymentState where
  status := statusOncePaid row.status
  paymentStatus := .paid
  escrowStatus := .held
  paymentReference := some (Text.trim p.reference)
  amountMinor := some (row.amountMinor.getD (workerAmount p))
  currency := workerCurrency rt p

theorem jobText_eq {payload : Json} {key value : String}
    (has : payload.get? key = some (.str value)) :
    jobText payload key = if Text.isBlank value then none else some (Text.trim value) := by
  unfold jobText
  rw [has]
  rfl

theorem asNumber_payment {rt : Runtime} {payload : Json} {p : Payment}
    (positive : 0 < p.amountMinor)
    (has : payload.get? "amountMinor" = some (.num p.amountMinor)) :
    asNumber rt (payload.get? "amountMinor") 1 maxSafeInteger 0 = workerAmount p := by
  rw [has]
  show min maxSafeInteger (max 1 ⌊(p.amountMinor : ℚ)⌋) = _
  rw [Int.floor_intCast, max_eq_right (by omega)]
  rfl

/-- The worker's check of a job for the payment comes down to the match with the row. -/
theorem paymentCheck_eq (rt : Runtime) {env : RequestEnv} {row : RecordRequest} {s : Store}
    {p : Payment} {job : ClaimedJob} (positive : 0 < p.amountMinor)
    (job_for : JobFor p row env.pick s job) {plan : JobPlan} :
    paymentCheck rt env job s = .ok plan ↔
      Text.isBlank p.reference = false ∧
        matchPayment rt job (Text.trim p.reference) (workerAmount p) (workerCurrency rt p)
          ((asDate rt (job.payload.get? "paidAt")).getD env.now) row = .ok plan := by
  have currency : rt.toUpperCase ((jobText job.payload "currency").getD "NGN") =
      workerCurrency rt p := by
    rw [jobText_eq job_for.currency]
    unfold workerCurrency
    split <;> rfl
  have whole : (workerAmount p != 0) = true := by
    have large : (0 : ℤ) < maxSafeInteger := by decide
    have above : 0 < workerAmount p := lt_min large positive
    simpa using above.ne'
  unfold paymentCheck
  simp only
  rw [if_neg (not_not.mpr job_for.event), if_neg (by rw [job_for.status]; simp), currency,
    asNumber_payment positive job_for.amountMinor, jobText_eq job_for.reference]
  constructor
  · intro checked
    obtain ⟨reference, here, rest⟩ := bind_eq_ok.mp checked
    obtain ⟨_, -, rest⟩ := bind_eq_ok.mp rest
    obtain ⟨request, found, matched⟩ := bind_eq_ok.mp rest
    rw [orThrow_eq_ok] at here found
    split at here
    · exact absurd here (by simp)
    · rename_i readable
      obtain rfl := Option.some.inj here
      rw [job_for.lookup] at found
      obtain rfl := Option.some.inj found
      exact ⟨by simpa using readable, matched⟩
  · rintro ⟨readable, matched⟩
    rw [if_neg (by simp [readable])]
    refine bind_eq_ok.mpr ⟨_, orThrow_eq_ok.mpr rfl, ?_⟩
    refine bind_eq_ok.mpr ⟨(), require_eq_ok.mpr whole, ?_⟩
    exact bind_eq_ok.mpr ⟨row, orThrow_eq_ok.mpr (job_for.lookup _), matched⟩

theorem fitsInt_payable {row : RecordRequest} {amountMinor : ℤ} (payable : Payable row amountMinor) :
    fitsInt (row.amountMinor.getD amountMinor) = true ↔
      row.amountMinor.getD amountMinor ≤ 2147483647 := by
  have positive := payable.1
  unfold fitsInt
  rw [Bool.and_eq_true, decide_eq_true_iff, decide_eq_true_iff]
  exact ⟨fun both => both.2, fun above => ⟨by omega, above⟩⟩

/-- **What the worker leaves**, and when. -/
theorem worker_outcome (rt : Runtime) {env : RequestEnv} {row : RecordRequest} {s : Store}
    {p : Payment} {job : ClaimedJob} (positive : 0 < p.amountMinor)
    (found : s.recordRequests.find? row.uuid = some row)
    (job_for : JobFor p row env.pick s job) (state : PaymentState) :
    (outcome rt (.payment env job) row.uuid s).map paymentState = some state ↔
      (WorkerConfirms rt row p ∧ state = workerState rt row p) ∨
        (WorkerRepeats row p ∧ state = paymentState row) := by
  rw [Option.map_eq_some_iff]
  constructor
  · rintro ⟨r, accepted, rfl⟩
    obtain ⟨plan, res, t, checked, committed, after⟩ := outcome_eq_some.mp accepted
    obtain ⟨read, passed, same⟩ := bind_eq_ok.mp checked
    obtain ⟨readable, matched⟩ := (paymentCheck_eq rt positive job_for).mp passed
    cases read with
    | payment plan =>
      rw [pure_eq_ok] at same
      subst same
      obtain ⟨opened, unpaid, expectedAmount, expected, covered, sameCurrency, rfl⟩ :=
        matchPayment_eq_payment.mp matched
      obtain ⟨payable, rfl⟩ := payable_iff.mp ⟨expected, covered⟩
      obtain ⟨updated, written, -⟩ := bind_eq_ok.mp committed
      have fits := (paymentCommit_eq_ok.mp written).1
      have left := (requestCommit_spec committed).target row.uuid ⟨row, rfl, rfl⟩
      rw [found, Option.map_some] at left
      obtain rfl := Option.some.inj (left.symm.trans after)
      exact .inl ⟨⟨opened, unpaid, readable, payable, (fitsInt_payable payable).mp fits,
        sameCurrency⟩, rfl⟩
    | answered result =>
      rw [pure_eq_ok] at same
      subst same
      obtain ⟨opened, paid, repeats, -⟩ := matchPayment_eq_answered.mp matched
      obtain ⟨-, rfl⟩ := Prod.mk.inj (Except.ok.inj committed)
      rw [found] at after
      rw [← Option.some.inj after]
      exact .inr ⟨⟨opened, paid, readable, repeats⟩, rfl⟩
  · rintro (⟨⟨opened, unpaid, readable, payable, fits, sameCurrency⟩, rfl⟩ |
      ⟨⟨opened, paid, readable, repeats⟩, rfl⟩)
    · obtain ⟨expected, covered⟩ := payable_iff.mpr ⟨payable, rfl⟩
      have checked := (paymentCheck_eq rt positive job_for).mpr ⟨readable,
        matchPayment_eq_payment.mpr ⟨opened, unpaid, _, expected, covered, sameCurrency, rfl⟩⟩
      have small := (fitsInt_payable payable).mpr fits
      exact ⟨_, outcome_of_commit found (bind_eq_ok.mpr ⟨_, checked, rfl⟩) rfl
        (bind_eq_ok.mpr ⟨_, paymentCommit_eq_ok.mpr ⟨small, row, found, rfl, rfl⟩, rfl⟩), rfl⟩
    · have checked := (paymentCheck_eq rt positive job_for).mpr ⟨readable,
        matchPayment_eq_answered.mpr ⟨opened, paid, repeats, rfl⟩⟩
      exact ⟨row, outcome_eq_some.mpr ⟨_, _, _, bind_eq_ok.mpr ⟨_, checked, rfl⟩, rfl, found⟩,
        rfl⟩

/-! ### The two paths compared -/

/-- The worker does not both write and repeat. -/
theorem not_confirms_and_repeats {rt : Runtime} {row : RecordRequest} {p : Payment}
    (confirms : WorkerConfirms rt row p) : ¬ WorkerRepeats row p :=
  fun repeats => confirms.2.1 repeats.2.1

/-- Both paths write the same state exactly when the worker reads reference and currency as they are
written. -/
theorem manualState_eq_workerState {rt : Runtime} {row : RecordRequest} {p : Payment}
    (limits : BodyLimits p) :
    manualState row p = workerState rt row p ↔
      Text.trim p.reference = p.reference ∧ workerCurrency rt p = p.currency := by
  have sameAmount : workerAmount p = p.amountMinor := by
    have small := limits.amount
    unfold workerAmount maxSafeInteger
    exact min_eq_right (by omega)
  unfold manualState workerState
  rw [sameAmount]
  simp only [PaymentState.mk.injEq, true_and, Option.some.injEq]
  exact ⟨fun both => ⟨both.1.symm, both.2.symm⟩, fun both => ⟨both.1.symm, both.2.symm⟩⟩

/-- A reviewer changes nothing exactly when the row is as the reviewer would leave it. -/
theorem manualState_eq_paymentState {row : RecordRequest} {p : Payment}
    (paid : row.paymentStatus = .paid) :
    manualState row p = paymentState row ↔
      row.status ≠ .awaitingPayment ∧ row.escrowStatus = .held ∧
        row.paymentReference = some p.reference ∧ row.amountMinor ≠ none ∧
        row.currency = p.currency := by
  have status : statusOncePaid row.status = row.status ↔ row.status ≠ .awaitingPayment := by
    unfold statusOncePaid
    cases row.status <;> decide
  have amount : some (row.amountMinor.getD p.amountMinor) = row.amountMinor ↔
      row.amountMinor ≠ none := by
    cases row.amountMinor <;> simp
  unfold manualState paymentState
  rw [PaymentState.mk.injEq, status, amount, paid]
  exact ⟨fun ⟨waits, _, held, reference, known, currency⟩ =>
      ⟨waits, held.symm, reference.symm, known, currency.symm⟩,
    fun ⟨waits, held, reference, known, currency⟩ =>
      ⟨waits, rfl, held.symm, reference.symm, known, currency.symm⟩⟩

/-- **The exact condition.** On a request in the store, the manual confirmation by a reviewer and
the worker's confirmation of a job for the same payment accept the same cases and leave the same
state exactly where the two paths meet. -/
theorem agree_iff (rt : Runtime) (env env' : RequestEnv) (auth : AuthTokenPayload)
    (row : RecordRequest) (s : Store) (p : Payment) (job : ClaimedJob)
    (positive : 0 < p.amountMinor) (reviewed : ReviewedBy auth row s)
    (job_for : JobFor p row env'.pick s job) :
    (outcome rt (.confirm env auth row.uuid (manualBody p)) row.uuid s).map paymentState =
        (outcome rt (.payment env' job) row.uuid s).map paymentState ↔
      PathsMeet rt row p := by
  have manual := manual_outcome rt env positive reviewed
  have worker := worker_outcome rt positive reviewed.found job_for
  constructor
  · intro same
    by_cases accepts : ManualAccepts row p
    · have left := same.symm.trans ((manual (manualState row p)).mpr ⟨accepts, rfl⟩)
      rcases (worker (manualState row p)).mp left with ⟨confirms, states⟩ | ⟨repeats, states⟩
      · exact .inr (.inl ⟨accepts, confirms, (manualState_eq_workerState accepts.2.1).mp states⟩)
      · exact .inr (.inr ⟨accepts, repeats, (manualState_eq_paymentState repeats.2.1).mp states⟩)
    · refine .inl ⟨accepts, fun confirms => ?_, fun repeats => ?_⟩
      · have right := same.trans ((worker (workerState rt row p)).mpr (.inl ⟨confirms, rfl⟩))
        exact accepts ((manual _).mp right).1
      · have right := same.trans ((worker (paymentState row)).mpr (.inr ⟨repeats, rfl⟩))
        exact accepts ((manual _).mp right).1
  · rintro (⟨refuses, stops, leaves⟩ | ⟨accepts, confirms, reads⟩ | ⟨accepts, repeats, as_left⟩)
    · refine Option.ext fun state => ?_
      rw [manual state, worker state]
      simp [refuses, stops, leaves]
    · rw [(manual _).mpr ⟨accepts, rfl⟩, (worker _).mpr (.inl ⟨confirms, rfl⟩),
        (manualState_eq_workerState accepts.2.1).mpr reads]
    · rw [(manual _).mpr ⟨accepts, rfl⟩, (worker _).mpr (.inr ⟨repeats, rfl⟩),
        (manualState_eq_paymentState repeats.2.1).mpr as_left]

/-- A payment within the limits of a manual confirmation, its reference and currency written as the
worker reads them, in the request's currency, for a request that is unpaid or holds this very
payment. -/
structure Regular (rt : Runtime) (row : RecordRequest) (p : Payment) : Prop where
  limits : BodyLimits p
  reference : Text.trim p.reference = p.reference
  currency : workerCurrency rt p = p.currency
  sameCurrency : row.currency = "" ∨ rt.toUpperCase row.currency = p.currency
  unpaid : row.paymentStatus = .paid → Payable row p.amountMinor ∧ row.status ≠ .awaitingPayment ∧
    row.escrowStatus = .held ∧ row.paymentReference = some p.reference ∧ row.amountMinor ≠ none ∧
    row.currency = p.currency

theorem Regular.readable {rt : Runtime} {row : RecordRequest} {p : Payment}
    (regular : Regular rt row p) : Text.isBlank p.reference = false := by
  unfold Text.isBlank
  rw [regular.reference]
  by_contra blank
  have long := regular.limits.shortest
  rw [show p.reference = "" by simpa using blank] at long
  exact absurd long (by decide)

/-- An unpaid request takes a regular payment by either path or by none. -/
theorem Regular.confirms_iff {rt : Runtime} {row : RecordRequest} {p : Payment}
    (regular : Regular rt row p) (unpaid : row.paymentStatus ≠ .paid) :
    WorkerConfirms rt row p ↔ ManualAccepts row p := by
  have small := regular.limits.amount
  have sameAmount : workerAmount p = p.amountMinor := by
    unfold workerAmount maxSafeInteger
    exact min_eq_right (by omega)
  unfold WorkerConfirms ManualAccepts
  rw [sameAmount, regular.currency]
  constructor
  · rintro ⟨opened, -, -, payable, -, -⟩
    exact ⟨opened, regular.limits, payable⟩
  · rintro ⟨opened, -, payable⟩
    have covered := payable.2
    exact ⟨opened, unpaid, regular.readable, payable, by omega, regular.sameCurrency⟩

/-- **The two paths agree on regular payments.** -/
theorem agree_of_regular (rt : Runtime) (env env' : RequestEnv) (auth : AuthTokenPayload)
    (row : RecordRequest) (s : Store) (p : Payment) (job : ClaimedJob)
    (positive : 0 < p.amountMinor) (reviewed : ReviewedBy auth row s)
    (job_for : JobFor p row env'.pick s job) (regular : Regular rt row p) :
    (outcome rt (.confirm env auth row.uuid (manualBody p)) row.uuid s).map paymentState =
      (outcome rt (.payment env' job) row.uuid s).map paymentState := by
  refine (agree_iff rt env env' auth row s p job positive reviewed job_for).mpr ?_
  by_cases paid : row.paymentStatus = .paid
  · obtain ⟨payable, waits, held, reference, known, currency⟩ := regular.unpaid paid
    by_cases opened : isClosed row.status = false
    · have repeats : WorkerRepeats row p := by
        refine ⟨opened, paid, regular.readable, fun earlier is => .inr ?_⟩
        rw [regular.reference]
        exact Option.some.inj (is.symm.trans reference)
      exact .inr (.inr ⟨⟨opened, regular.limits, payable⟩, repeats, waits, held, reference, known,
        currency⟩)
    · exact .inl ⟨fun accepts => opened accepts.1, fun confirms => opened confirms.1,
        fun repeats => opened repeats.1⟩
  · by_cases accepts : ManualAccepts row p
    · exact .inr (.inl ⟨accepts, (regular.confirms_iff paid).mpr accepts, regular.reference,
        regular.currency⟩)
    · exact .inl ⟨accepts, fun confirms => accepts ((regular.confirms_iff paid).mp confirms),
        fun repeats => paid repeats.2.1⟩

/-! ### Payments -/

/-- A charge under the `n`th reference. -/
def charge (n : ℕ) (amountMinor : ℤ) : Payment where
  reference := "PSK-00" ++ toString n
  amountMinor := amountMinor
  currency := "NGN"

theorem jobFor_charge (row : RecordRequest) (n : ℕ) (amountMinor : ℤ)
    (lookup : ∀ reference, findRecordRequestForPayment 0
      (jobText (chargeJob transcriptRequest.uuid (charge n amountMinor).reference amountMinor).payload
        "recordRequestId") none reference (storeOf row) = some row) :
    JobFor (charge n amountMinor) row 0 (storeOf row)
      (chargeJob transcriptRequest.uuid (charge n amountMinor).reference amountMinor) :=
  ⟨rfl, rfl, rfl, rfl, rfl, lookup⟩

/-- The charge of a request's amount is regular, and taken alike by both. -/
theorem agree_of_regular_first :
    (outcome .plain (.confirm (envOf 1) reviewer transcriptRequest.uuid
        (manualBody (charge 1 5000))) transcriptRequest.uuid
        (storeOf transcriptRequest)).map paymentState =
      (outcome .plain (.payment (envOf 2)
        (chargeJob transcriptRequest.uuid (charge 1 5000).reference 5000)) transcriptRequest.uuid
        (storeOf transcriptRequest)).map paymentState := by
  refine agree_of_regular .plain (envOf 1) (envOf 2) reviewer transcriptRequest
    (storeOf transcriptRequest) (charge 1 5000) _ (by decide) ⟨rfl, rfl⟩
    (jobFor_charge transcriptRequest 1 5000 fun _ => rfl) ?_
  exact ⟨⟨by decide, by decide, by decide, by decide⟩, by decide, by decide, .inr (by decide),
    fun paid => absurd paid (by decide)⟩

/-- **The paths do not agree on every payment**: a charge above the limit of a manual confirmation
is taken by the worker alone. -/
theorem paths_differ :
    ¬ ∀ (rt : Runtime) (env env' : RequestEnv) (auth : AuthTokenPayload) (row : RecordRequest)
      (s : Store) (p : Payment) (job : ClaimedJob), 0 < p.amountMinor → ReviewedBy auth row s →
        JobFor p row env'.pick s job →
        (outcome rt (.confirm env auth row.uuid (manualBody p)) row.uuid s).map paymentState =
          (outcome rt (.payment env' job) row.uuid s).map paymentState := by
  intro all
  have same := all .plain (envOf 1) (envOf 2) reviewer transcriptRequest
    (storeOf transcriptRequest) (charge 1 200000000) _ (by decide) ⟨rfl, rfl⟩
    (jobFor_charge transcriptRequest 1 200000000 fun _ => rfl)
  exact absurd same (by decide)

end AcadID.Agreement
