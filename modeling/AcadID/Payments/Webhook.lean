/-
**The Paystack webhook.**

* `assertValidSignature` — the body signed under the configured secret.
* `readCharge` — what the service reads of a `charge.success` event and refuses of it; other events
  are answered without a job.
* `receiveWebhook` — a signed charge becomes a job under an idempotency key of its event, its event
  id and its reference.
-/

import AcadID.Jobs.PaymentConfirmation
import AcadID.Platform.Queue

namespace AcadID

open Lib

namespace PaystackWebhook

open JobWorker (asString findRecordRequestForPayment)

structure PaystackWebhookInput where
  payload : Json
  rawBody : Option String
  signature : Option String

/-- What the runtime and the database give a call. -/
structure WebhookEnv where
  pick : ℕ
  receivedAt : Time
  job : Queue.JobEnv

/-! ### The signature -/

/-- `input.payload ?? {}` -/
def payloadOrEmpty : Json → Json
  | .null => .obj []
  | payload => payload

def assertValidSignature (rt : Runtime) (input : PaystackWebhookInput) :
    Except ServiceError Unit := do
  let secret ← orThrow
    ((rt.env "PAYSTACK_SECRET_KEY" <|> rt.env "PAYSTACK_WEBHOOK_SECRET").filter (· ≠ ""))
    (.serviceUnavailable "Paystack webhook secret is not configured.")
  let signature ← orThrow (input.signature.filter (· ≠ ""))
    (.unauthorized "Paystack webhook signature is required.")
  let body := input.rawBody.getD
    (String.ofList ((payloadOrEmpty input.payload).stringify rt.format))
  require (signature == rt.hmacSha512 secret body)
    (.unauthorized "Invalid Paystack webhook signature.")

/-! ### Readers of the body -/

def asRecord : Option Json → List (String × Json)
  | some (.obj fs) => fs
  | _ => []

/-- A field of a record. -/
def field (record : List (String × Json)) (key : String) : Option Json :=
  (Json.obj record).get? key

def asPositiveInteger (rt : Runtime) : Option Json → Option ℤ
  | some (.num q) => if 0 < q then some ⌊q⌋ else none
  | some (.str s) => (rt.parseInt s).filter (0 < ·)
  | _ => none

def extractMetadata (rt : Runtime) (value : Option Json) : List (String × String) :=
  let metadata := match value with
    | some (.str s) => asRecord (rt.parseJson s)
    | other => asRecord other
  Json.literal (metadata.filterMap fun entry =>
    (asString (some entry.2)).map fun text => (entry.1, text))

/-- The name of the event. -/
def eventOf (payload : Json) : Option String :=
  asString (field (asRecord (some payload)) "event")

/-- What is read of the body of a `charge.success` event. -/
structure Charge where
  eventId : String
  reference : String
  amountMinor : ℤ
  currency : String
  status : Option String
  paidAt : Option String
  customerEmail : Option String
  metadata : List (String × String)

namespace Charge

def metadataText (charge : Charge) (key : String) : Option String :=
  (charge.metadata.find? fun entry => entry.1 = key).map Prod.snd

/-- `${event}:${eventId}:${reference}` -/
def idempotencyKey (charge : Charge) : String :=
  "charge.success:" ++ charge.eventId ++ ":" ++ charge.reference

end Charge

def readCharge (rt : Runtime) (payload : Json) : Except ServiceError Charge := do
  let payload := asRecord (some payload)
  let data := asRecord (field payload "data")
  let reference ← orThrow (asString (field data "reference"))
    (.badRequest "Paystack charge.success webhook requires a transaction reference.")
  -- An amount below one is floored to zero, which is falsy.
  let amountMinor ← orThrow ((asPositiveInteger rt (field data "amount")).filter (· ≠ 0))
    (.badRequest "Paystack charge.success webhook requires a positive amount.")
  return {
    eventId := (asString (field payload "id") <|> asString (field data "id")).getD reference
    reference := reference
    amountMinor := amountMinor
    currency := ((asString (field data "currency")).map rt.toUpperCase).getD "NGN"
    status := asString (field data "status")
    paidAt := asString (field data "paid_at") <|> asString (field data "paidAt") <|>
      asString (field data "created_at")
    customerEmail := asString (field (asRecord (field data "customer")) "email")
    metadata := extractMetadata rt (field data "metadata") }

/-! ### The job -/

/-- The columns of the request that the webhook selects. -/
structure FoundRequest where
  uuid : Uuid
  requestId : String
  institutionId : Option Uuid
  deriving DecidableEq

def findRecordRequest (pick : ℕ) (charge : Charge) (s : Store) : Option FoundRequest :=
  let recordRequestId := charge.metadataText "recordRequestId" <|>
    charge.metadataText "record_request_id" <|> charge.metadataText "recordRequestUuid"
  let requestId := charge.metadataText "requestId" <|> charge.metadataText "request_id"
  (findRecordRequestForPayment pick (asString (recordRequestId.map .str))
    (asString (requestId.map .str)) charge.reference s).map fun request =>
      ⟨request.uuid, request.requestId, request.institutionId⟩

/-- The payload of the job, as JSON keeps it. -/
def jobPayload (charge : Charge) (found : Option FoundRequest) (receivedAt : String) : Json :=
  Json.fields
    [("provider", some (.str "PAYSTACK")), ("event", some (.str "charge.success")),
      ("eventId", some (.str charge.eventId)), ("reference", some (.str charge.reference)),
      ("status", charge.status.map .str), ("amountMinor", some (.num charge.amountMinor)),
      ("currency", some (.str charge.currency)), ("paidAt", charge.paidAt.map .str),
      ("customerEmail", charge.customerEmail.map .str),
      ("recordRequestId", some (Json.ofOption (found.map (·.uuid) <|>
        charge.metadataText "recordRequestId" <|> charge.metadataText "record_request_id"))),
      ("requestId", some (Json.ofOption (found.map (·.requestId) <|>
        charge.metadataText "requestId" <|> charge.metadataText "request_id"))),
      ("metadata", some (.obj (charge.metadata.map fun entry => (entry.1, .str entry.2)))),
      ("receivedAt", some (.str receivedAt))]

def jobInput (charge : Charge) (found : Option FoundRequest) (receivedAt : String) :
    Queue.EnqueueJobInput where
  type := .paystackPaymentConfirmation
  queue := none
  institutionId := found.bind (·.institutionId)
  createdById := none
  relatedEntityType := some "RecordRequest"
  relatedEntityId := found.map (·.uuid)
  priority := some 4
  maxAttempts := none
  runAfter := none
  payload := jobPayload charge found receivedAt
  eventType := some "paystack.payment.webhook_received"
  eventPayload := some (.obj
    [("event", .str "charge.success"), ("reference", .str charge.reference),
      ("amountMinor", .num charge.amountMinor), ("currency", .str charge.currency),
      ("recordRequestId", Json.ofOption (found.map (·.uuid))),
      ("requestId", Json.ofOption (found.map (·.requestId)))])
  idempotencyKey := some charge.idempotencyKey
  idempotencyScope := some "webhook:paystack"
  idempotencyTtlHours := some (24 * 31)

/-! ### The service -/

inductive WebhookResponse where
  | ignored (event : String)
  | queued (reference : String) (recordRequestId : Option Uuid) (requestId : Option String)
      (jobId pollingUrl : Option Json)

def receiveCharge (rt : Runtime) (env : WebhookEnv) (charge : Charge) : Db WebhookResponse := do
  let found ← Db.read fun s => .ok (findRecordRequest env.pick charge s)
  let job ← Queue.enqueueJob rt env.job
    (jobInput charge found (Text.toISOString env.receivedAt))
  return .queued charge.reference (found.map (·.uuid)) (found.map (·.requestId))
    (job.get? "jobId") (job.get? "pollingUrl")

def receiveWebhook (rt : Runtime) (env : WebhookEnv) (input : PaystackWebhookInput) :
    Db WebhookResponse := do
  Async.ofExcept (assertValidSignature rt input)
  let event ← Async.ofExcept
    (orThrow (eventOf input.payload) (.badRequest "Paystack webhook event is required."))
  if event ≠ "charge.success" then return .ignored event
  let charge ← Async.ofExcept (readCharge rt input.payload)
  receiveCharge rt env charge

end PaystackWebhook

end AcadID
