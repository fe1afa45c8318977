/-
**The worker's confirmation of a Paystack payment.**

* `asString`, `asNumber` and `asDate` — the readers of a job's payload.
* `findRecordRequestForPayment` — the request of a payment: by its id, by its code, or by the
  reference of the payment.
* `paymentCheck` — what the worker reads and refuses; a job is answered without a write, or its
  payment goes to `paymentCommit`, which writes the request and an audit event together.
* `matchPayment_eq_payment`, `matchPayment_eq_answered` — **the exact conditions** under which the
  worker confirms a payment, and under which it finds it confirmed already.
-/

import AcadID.Gateway.RecordRequests

namespace AcadID

open Lib

namespace JobWorker

open RecordRequests

/-! ### Readers of a payload -/

def asString : Option Json → Option String
  | some (.str s) => if Text.isBlank s then none else some (Text.trim s)
  | _ => none

def asDate (rt : Runtime) (value : Option Json) : Option Time :=
  (asString value).bind rt.parseDate

/-- `asNumber`, where `NaN` and the infinities are `none`. -/
def asNumber (rt : Runtime) (value : Option Json) (min max fallback : ℤ) : ℤ :=
  let parsed := match value with
    | some (.num q) => some q
    | some (.str s) => rt.toNumber s
    | _ => none
  match parsed with
  | some q => Min.min max (Max.max min ⌊q⌋)
  | none => fallback

/-- `Number.MAX_SAFE_INTEGER` -/
def maxSafeInteger : ℤ :=
  9007199254740991

/-! ### The request of a payment -/

def findRecordRequestForPayment (pick : ℕ) (recordRequestId requestId : Option String)
    (reference : String) (s : Store) : Option RecordRequest :=
  ((recordRequestId.filter isUuidV15).bind s.recordRequests.find?) <|>
    (requestId.bind fun code =>
      s.recordRequests.rows.find? fun request => request.requestId = code) <|>
    findFirst s.recordRequests.rows
      (fun request => request.paymentReference == some reference || request.requestId == reference)
      pick

/-! ### The confirmation -/

/-- A job that a worker has claimed. -/
structure ClaimedJob where
  uuid : Uuid
  payload : Json

structure PaymentPlan where
  job : ClaimedJob
  request : RecordRequest
  reference : String
  expectedAmount : ℤ
  currency : String
  paidAt : Time

/-- A job answered without a write, or a payment to confirm. -/
inductive JobPlan where
  | answered (result : Json)
  | payment (plan : PaymentPlan)

def jobText (payload : Json) (key : String) : Option String :=
  asString (payload.get? key)

/-- What the job's result says of a payment that its request already has. -/
def alreadyConfirmed (request : RecordRequest) (reference : String) : Json :=
  Json.fields
    [("mode", some (.str "already_confirmed")), ("recordRequestId", some (.str request.uuid)),
      ("requestId", some (.str request.requestId)), ("reference", some (.str reference)),
      ("paymentStatus", some (.str request.paymentStatus.name)),
      ("escrowStatus", some (.str request.escrowStatus.name))]

/-- The payment of a successful charge against the request it was found to be for. -/
def matchPayment (rt : Runtime) (job : ClaimedJob) (reference : String) (amountMinor : ℤ)
    (currency : String) (paidAt : Time) (request : RecordRequest) :
    Except ServiceError JobPlan := do
  require (!isClosed request.status) (.nonRetryable
    ("Payment cannot be confirmed for closed record request " ++ request.requestId ++ "."))
  if request.paymentStatus = .paid then do
    -- An empty reference is falsy, like one that is not there.
    require (request.paymentReference.all fun paid => paid == "" || paid == reference)
      (.nonRetryable
        ("Record request " ++ request.requestId ++ " is already paid with another reference."))
    return .answered (alreadyConfirmed request reference)
  else do
    let expectedAmount ← orThrow ((request.amountMinor <|> some amountMinor).filter (0 < ·))
      (.nonRetryable
        ("Record request " ++ request.requestId ++ " does not have a payable amount."))
    require (expectedAmount ≤ amountMinor) (.nonRetryable
      ("Paystack payment " ++ reference ++ " is below the required amount for " ++
        request.requestId ++ "."))
    require (request.currency == "" || rt.toUpperCase request.currency == currency)
      (.nonRetryable
        ("Paystack payment " ++ reference ++ " currency does not match record request " ++
          request.requestId ++ "."))
    return .payment {
      job := job
      request := request
      reference := reference
      expectedAmount := expectedAmount
      currency := currency
      paidAt := paidAt }

def paymentCheck (rt : Runtime) (env : RequestEnv) (job : ClaimedJob) (s : Store) :
    Except ServiceError JobPlan :=
  let event := jobText job.payload "event"
  let status := jobText job.payload "status"
  let amountMinor := asNumber rt (job.payload.get? "amountMinor") 1 maxSafeInteger 0
  let currency := rt.toUpperCase ((jobText job.payload "currency").getD "NGN")
  let paidAt := (asDate rt (job.payload.get? "paidAt")).getD env.now
  if event ≠ some "charge.success" then
    .ok (.answered (Json.fields
      [("mode", some (.str "ignored_paystack_event")), ("event", event.map .str),
        ("message",
          some (.str "Only charge.success events confirm record request payments."))]))
  else if status.any (· ≠ "success") then
    .ok (.answered (Json.fields
      [("mode", some (.str "ignored_paystack_status")), ("event", event.map .str),
        ("status", status.map .str), ("reference", (jobText job.payload "reference").map .str)]))
  else do
    let reference ← orThrow (jobText job.payload "reference")
      (.nonRetryable "Paystack payment confirmation requires a transaction reference.")
    require (amountMinor != 0)
      (.nonRetryable "Paystack payment confirmation requires a positive amount.")
    let request ← orThrow
      (findRecordRequestForPayment env.pick (jobText job.payload "recordRequestId")
        (jobText job.payload "requestId") reference s)
      (.error ("Record request for Paystack reference " ++ reference ++ " was not found."))
    matchPayment rt job reference amountMinor currency paidAt request

def paid (plan : PaymentPlan) (row : RecordRequest) : RecordRequest :=
  { row with
    status := statusOncePaid plan.request.status
    paymentStatus := .paid
    escrowStatus := .held
    paymentReference := some plan.reference
    paymentProvider := some "PAYSTACK"
    amountMinor := some plan.expectedAmount
    currency := plan.currency
    paymentHeldAt := some plan.paidAt
    notes := appendRecordRequestNote plan.request.notes (.obj
      [("at", .str (Text.toISOString plan.paidAt)), ("by", .str "paystack-webhook"),
        ("role", .str "SYSTEM"), ("status", .str plan.request.status.name),
        ("note", .str "Payment confirmed by signed Paystack webhook and held in escrow."),
        ("paymentReference", .str plan.reference), ("jobId", .str plan.job.uuid)]) }

def paymentAudit (plan : PaymentPlan) (request : RecordRequest) : AuditEvent where
  actorType := "SYSTEM"
  actorId := none
  actorRole := none
  action := "record_request.payment_confirmed"
  targetType := "RecordRequest"
  targetId := some request.uuid
  institutionId := request.institutionId
  outcome := "SUCCESS"
  reason := none
  metadata := Json.fields
    [("source", some (.str "paystack_webhook")), ("requestId", some (.str request.requestId)),
      ("reference", some (.str plan.reference)),
      ("amountMinor", request.amountMinor.map fun amount => .num amount),
      ("currency", some (.str request.currency)), ("paymentProvider", some (.str "PAYSTACK")),
      ("escrowStatus", some (.str request.escrowStatus.name)),
      ("jobId", some (.str plan.job.uuid))]

/-- What an `Int` column holds. -/
def fitsInt (n : ℤ) : Bool :=
  -2147483648 ≤ n && n ≤ 2147483647

def paymentCommit (plan : PaymentPlan) (s : Store) :
    Except ServiceError (RecordRequest × Store) := do
  require (fitsInt plan.expectedAmount) .database
  let (request, s) ← updateRequest plan.request.uuid (paid plan) (fun _ => rfl) s
  return (request, s.audit (paymentAudit plan request))

/-- What the job's result says of a confirmed payment. -/
def paymentResult (request : RecordRequest) : Json :=
  Json.fields
    [("mode", some (.str "record_request_payment_confirmed")),
      ("recordRequestId", some (.str request.uuid)), ("requestId", some (.str request.requestId)),
      ("status", some (.str request.status.name)),
      ("paymentStatus", some (.str request.paymentStatus.name)),
      ("escrowStatus", some (.str request.escrowStatus.name)),
      ("reference", request.paymentReference.map .str),
      ("amountMinor", request.amountMinor.map fun amount => .num amount),
      ("currency", some (.str request.currency))]

/-! ### What the worker has seen, and what it writes -/

/-- **A payment matches an unpaid request** exactly when the request is open, the amount covers what
is expected and the currency is the request's. -/
theorem matchPayment_eq_payment {rt : Runtime} {job : ClaimedJob} {reference currency : String}
    {amountMinor : ℤ} {paidAt : Time} {request : RecordRequest} {plan : PaymentPlan} :
    matchPayment rt job reference amountMinor currency paidAt request = .ok (.payment plan) ↔
      isClosed request.status = false ∧ request.paymentStatus ≠ .paid ∧
        ∃ expectedAmount,
          (request.amountMinor <|> some amountMinor).filter (0 < ·) = some expectedAmount ∧
          expectedAmount ≤ amountMinor ∧
          (request.currency = "" ∨ rt.toUpperCase request.currency = currency) ∧
          plan = ⟨job, request, reference, expectedAmount, currency, paidAt⟩ := by
  unfold matchPayment
  by_cases already : request.paymentStatus = .paid
  · rw [if_pos already]
    refine ⟨fun matched => ?_, fun ⟨_, unpaid, _⟩ => absurd already unpaid⟩
    obtain ⟨_, -, rest⟩ := bind_eq_ok.mp matched
    obtain ⟨_, -, same⟩ := bind_eq_ok.mp rest
    exact absurd (pure_eq_ok.mp same) (by simp)
  · rw [if_neg already]
    constructor
    · intro matched
      obtain ⟨_, opened, rest⟩ := bind_eq_ok.mp matched
      obtain ⟨expectedAmount, expected, rest⟩ := bind_eq_ok.mp rest
      obtain ⟨_, covered, rest⟩ := bind_eq_ok.mp rest
      obtain ⟨_, sameCurrency, same⟩ := bind_eq_ok.mp rest
      rw [pure_eq_ok] at same
      rw [require_eq_ok] at opened covered sameCurrency
      exact ⟨by simpa using opened, already, expectedAmount, orThrow_eq_ok.mp expected,
        by simpa using covered, by simpa using sameCurrency, (JobPlan.payment.inj same).symm⟩
    · rintro ⟨opened, -, expectedAmount, expected, covered, sameCurrency, rfl⟩
      refine bind_eq_ok.mpr ⟨(), require_eq_ok.mpr (by simp [opened]), ?_⟩
      refine bind_eq_ok.mpr ⟨expectedAmount, orThrow_eq_ok.mpr expected, ?_⟩
      refine bind_eq_ok.mpr ⟨(), require_eq_ok.mpr (by simpa using covered), ?_⟩
      exact bind_eq_ok.mpr ⟨(), require_eq_ok.mpr (by simpa using sameCurrency), rfl⟩

/-- **A payment that its request already has** is answered without a write. -/
theorem matchPayment_eq_answered {rt : Runtime} {job : ClaimedJob} {reference currency : String}
    {amountMinor : ℤ} {paidAt : Time} {request : RecordRequest} {result : Json} :
    matchPayment rt job reference amountMinor currency paidAt request = .ok (.answered result) ↔
      isClosed request.status = false ∧ request.paymentStatus = .paid ∧
        (∀ paid, request.paymentReference = some paid → paid = "" ∨ paid = reference) ∧
        result = alreadyConfirmed request reference := by
  have plain : (request.paymentReference.all fun paid => paid == "" || paid == reference) = true ↔
      ∀ paid, request.paymentReference = some paid → paid = "" ∨ paid = reference := by
    cases request.paymentReference with
    | none => simp
    | some paid => simp
  unfold matchPayment
  by_cases already : request.paymentStatus = .paid
  · rw [if_pos already]
    constructor
    · intro matched
      obtain ⟨_, opened, rest⟩ := bind_eq_ok.mp matched
      obtain ⟨_, reference, same⟩ := bind_eq_ok.mp rest
      rw [pure_eq_ok] at same
      rw [require_eq_ok] at opened reference
      exact ⟨by simpa using opened, already, plain.mp reference,
        (JobPlan.answered.inj same).symm⟩
    · rintro ⟨opened, -, reference, rfl⟩
      refine bind_eq_ok.mpr ⟨(), require_eq_ok.mpr (by simp [opened]), ?_⟩
      exact bind_eq_ok.mpr ⟨(), require_eq_ok.mpr (plain.mpr reference), rfl⟩
  · rw [if_neg already]
    refine ⟨fun matched => ?_, fun ⟨_, paid, _⟩ => absurd paid already⟩
    obtain ⟨_, -, rest⟩ := bind_eq_ok.mp matched
    obtain ⟨_, -, rest⟩ := bind_eq_ok.mp rest
    obtain ⟨_, -, rest⟩ := bind_eq_ok.mp rest
    obtain ⟨_, -, same⟩ := bind_eq_ok.mp rest
    exact absurd (pure_eq_ok.mp same) (by simp)

theorem findRecordRequestForPayment_mem {pick : ℕ} {recordRequestId requestId : Option String}
    {reference : String} {s : Store} {request : RecordRequest}
    (found : findRecordRequestForPayment pick recordRequestId requestId reference s =
      some request) : s.recordRequests.find? request.uuid = some request := by
  refine Table.find?_eq_some.mpr ⟨?_, rfl⟩
  unfold findRecordRequestForPayment at found
  simp only [Option.orElse_eq_orElse, Option.orElse_eq_or, Option.or_eq_some_iff] at found
  rcases found with byId | ⟨-, byCode | ⟨-, byReference⟩⟩
  · obtain ⟨id, -, here⟩ := Option.bind_eq_some_iff.mp byId
    exact Table.find?_mem here
  · obtain ⟨code, -, here⟩ := Option.bind_eq_some_iff.mp byCode
    exact List.mem_of_find?_eq_some here
  · exact (findFirst_eq_some byReference).1

/-- **What the worker has seen** of a payment that it goes on to write. -/
theorem paymentCheck_spec {rt : Runtime} {env : RequestEnv} {job : ClaimedJob} {s : Store}
    {plan : PaymentPlan} (checked : paymentCheck rt env job s = .ok (.payment plan)) :
    s.recordRequests.find? plan.request.uuid = some plan.request ∧
      isClosed plan.request.status = false ∧ plan.request.paymentStatus ≠ .paid := by
  unfold paymentCheck at checked
  simp only at checked
  split at checked
  · exact absurd checked (by simp)
  split at checked
  · exact absurd checked (by simp)
  obtain ⟨reference, -, rest⟩ := bind_eq_ok.mp checked
  obtain ⟨_, -, rest⟩ := bind_eq_ok.mp rest
  obtain ⟨request, found, matched⟩ := bind_eq_ok.mp rest
  obtain ⟨opened, unpaid, expectedAmount, -, -, -, rfl⟩ := matchPayment_eq_payment.mp matched
  exact ⟨findRecordRequestForPayment_mem (orThrow_eq_ok.mp found), opened, unpaid⟩

/-- The amount that the worker confirms is positive, and the request's where it has one. -/
theorem paymentCheck_amount {rt : Runtime} {env : RequestEnv} {job : ClaimedJob} {s : Store}
    {plan : PaymentPlan} (checked : paymentCheck rt env job s = .ok (.payment plan)) :
    0 < plan.expectedAmount ∧
      ∀ amount, plan.request.amountMinor = some amount → plan.expectedAmount = amount := by
  unfold paymentCheck at checked
  simp only at checked
  split at checked
  · exact absurd checked (by simp)
  split at checked
  · exact absurd checked (by simp)
  obtain ⟨reference, -, rest⟩ := bind_eq_ok.mp checked
  obtain ⟨_, -, rest⟩ := bind_eq_ok.mp rest
  obtain ⟨request, -, matched⟩ := bind_eq_ok.mp rest
  obtain ⟨-, -, expectedAmount, expected, -, -, rfl⟩ := matchPayment_eq_payment.mp matched
  exact expected_spec expected

/-- **What the worker writes**: the request, and an audit event. -/
theorem paymentCommit_eq_ok {plan : PaymentPlan} {s t : Store} {request : RecordRequest} :
    paymentCommit plan s = .ok (request, t) ↔
      fitsInt plan.expectedAmount = true ∧
      ∃ row, s.recordRequests.find? plan.request.uuid = some row ∧ request = paid plan row ∧
        t = ({ s with recordRequests :=
          s.recordRequests.update plan.request.uuid (paid plan) fun _ => rfl }).audit
            (paymentAudit plan (paid plan row)) := by
  unfold paymentCommit
  constructor
  · intro committed
    obtain ⟨_, fits, rest⟩ := bind_eq_ok.mp committed
    obtain ⟨⟨updated, s'⟩, written, same⟩ := bind_eq_ok.mp rest
    obtain ⟨row, found, rfl, rfl⟩ := updateRequest_eq_ok.mp written
    rw [pure_eq_ok] at same
    obtain ⟨rfl, rfl⟩ := Prod.mk.inj same
    exact ⟨require_eq_ok.mp fits, row, found, rfl, rfl⟩
  · rintro ⟨fits, row, found, rfl, rfl⟩
    refine bind_eq_ok.mpr ⟨(), require_eq_ok.mpr fits, ?_⟩
    exact bind_eq_ok.mpr ⟨_, updateRequest_eq_ok.mpr ⟨row, found, rfl, rfl⟩, rfl⟩

end JobWorker

end AcadID
