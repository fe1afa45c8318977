/-
**A Paystack event delivered more than once.**

* `Delivery` — when a body is delivered, what the delivery draws, and what happened to the store
  since the last one; `deliver` runs the webhook on it, no call to the database failing.
* `OneJob` — the first delivery adds one job, and every later one is answered with its id and adds
  none.
* `oneJob_iff` — **exactly when redeliveries are answered alike**: the charge can be turned into a
  job, and every redelivery is received in the same millisecond as the first and finds the same
  request.
* `oneJob_fails` — a redelivery one millisecond later is refused.
-/

import AcadID.Lib.Run
import AcadID.Payments.Webhook

namespace AcadID.PaystackWebhook

open Lib Idempotency Queue

/-! ### Deliveries -/

/-- The record under the key of a body, while there is one. -/
def recordOf (rt : Runtime) (input : PaystackWebhookInput) (s : Store) :
    Option IdempotencyRecord := do
  let charge ← (readCharge rt input.payload).toOption
  let key ← (normaliseKey charge.idempotencyKey).toOption
  findKey "webhook:paystack" (rt.sha256 key) s.idempotencyRecords

/-- A delivery of a body. Whatever happened to the store since the last one, the record under the
key of the body has not been cleaned up. -/
structure Delivery (rt : Runtime) (input : PaystackWebhookInput) where
  env : WebhookEnv
  since : Store → Store
  keeps : ∀ s, recordOf rt input (since s) = recordOf rt input s

section Statements

variable (rt : Runtime) (input : PaystackWebhookInput)

def deliver (s : Store) (d : Delivery rt input) : Ended Store ServiceError WebhookResponse :=
  receiveWebhook rt d.env input [] (d.since s)

/-- The store after a delivery. -/
def afterDelivery (s : Store) (d : Delivery rt input) : Store :=
  (deliver rt input s d).store

/-- The `jobId` of a response. -/
def WebhookResponse.jobId? : WebhookResponse → Option Json
  | .ignored _ => none
  | .queued _ _ _ jobId _ => jobId

/-- A delivery is answered with the id of a job. -/
def Answers (jobId : Uuid) (s : Store) (d : Delivery rt input) : Prop :=
  ∃ response, (deliver rt input s d).result = .ok response ∧
    response.jobId? = some (.str jobId)

/-- A delivery adds these jobs, and no other row of theirs changes. -/
def Adds (jobs : List BackgroundJob) (s : Store) (d : Delivery rt input) : Prop :=
  (deliver rt input s d).store.backgroundJobs.rows = (d.since s).backgroundJobs.rows ++ jobs

/-- **One job for all deliveries.** -/
def OneJob (s : Store) (first : Delivery rt input) (rest : List (Delivery rt input)) : Prop :=
  ∃ job : BackgroundJob, job.type = .paystackPaymentConfirmation ∧
    Answers rt input job.uuid s first ∧ Adds rt input [job] s first ∧
    Along (afterDelivery rt input)
      (fun t d => Answers rt input job.uuid t d ∧ Adds rt input [] t d)
      (afterDelivery rt input s first) rest

/-- The charge has what its job needs, and an event id and a reference that a key may have. -/
def Payable : Prop :=
  ∃ charge key, readCharge rt input.payload = .ok charge ∧
    normaliseKey charge.idempotencyKey = .ok key

/-- What a delivery finds of the request of its charge. -/
def Delivery.finds {rt : Runtime} {input : PaystackWebhookInput} (d : Delivery rt input)
    (charge : Charge) (s : Store) : Option FoundRequest :=
  findRecordRequest d.env.pick charge (d.since s)

/-- A redelivery comes in the same millisecond as the first delivery, by the text of the clock, and
finds the same request. -/
def Alike (s : Store) (first : Delivery rt input) (t : Store) (d : Delivery rt input) : Prop :=
  Text.toISOString d.env.receivedAt = Text.toISOString first.env.receivedAt ∧
    ∀ charge, readCharge rt input.payload = .ok charge → d.finds charge t = first.finds charge s

/-- The first delivery: the key of the body has no record, and the ids it draws are free. -/
structure New (s : Store) (d : Delivery rt input) : Prop where
  unrecorded : recordOf rt input (d.since s) = none
  record : ∀ r ∈ (d.since s).idempotencyRecords.rows, r.uuid ≠ d.env.job.recordUuid
  job : ∀ job ∈ (d.since s).backgroundJobs.rows, job.uuid ≠ d.env.job.jobUuid
  event : ∀ event ∈ (d.since s).domainEvents.rows, event.uuid ≠ d.env.job.eventUuid

end Statements

/-! ### The fingerprint of a job -/

section Fingerprint

variable {rt : Runtime}

theorem stableText_inj {v w : Json} (same : stableText rt v = stableText rt w) :
    Json.sortKeys (fun a b => rt.localeLe a b = true) v =
      Json.sortKeys (fun a b => rt.localeLe a b = true) w := by
  unfold stableText at same
  exact Json.stableStringify_inj _ _ (String.ofList_injective same)

theorem sortKeys_ofOption {le : String → String → Prop} [DecidableRel le] (text : Option String) :
    Json.sortKeys le (Json.ofOption text) = Json.ofOption text := by
  cases text <;> rfl

theorem ofOption_injective : Function.Injective Json.ofOption := by
  intro a b same
  cases a <;> cases b <;> simp_all [Json.ofOption]

theorem get?_jobRequest (charge : Charge) (found : Option FoundRequest) (receivedAt : String)
    (k : String) :
    (Json.sortKeys (fun a b => rt.localeLe a b = true)
        (jobRequest (jobInput charge found receivedAt))).get? k =
      ((jobRequest (jobInput charge found receivedAt)).get? k).map
        (Json.sortKeys fun a b => rt.localeLe a b = true) := by
  refine Json.get?_sortKeys _ ?_ k
  show ["type", "institutionId", "relatedEntityType", "relatedEntityId", "payload"].Nodup
  decide

theorem get?_jobPayload (charge : Charge) (found : Option FoundRequest) (receivedAt : String)
    (k : String) :
    (Json.sortKeys (fun a b => rt.localeLe a b = true) (jobPayload charge found receivedAt)).get? k =
      ((jobPayload charge found receivedAt).get? k).map
        (Json.sortKeys fun a b => rt.localeLe a b = true) := by
  refine Json.get?_sortKeys _ (Json.nodup_fields ?_) k
  show ["provider", "event", "eventId", "reference", "status", "amountMinor", "currency", "paidAt",
    "customerEmail", "recordRequestId", "requestId", "metadata", "receivedAt"].Nodup
  decide

theorem jobPayload_receivedAt (charge : Charge) (found : Option FoundRequest)
    (receivedAt : String) :
    (jobPayload charge found receivedAt).get? "receivedAt" = some (.str receivedAt) := by
  unfold jobPayload
  cases charge.status <;> cases charge.paidAt <;> cases charge.customerEmail <;> rfl

theorem jobPayload_requestId (charge : Charge) (found : Option FoundRequest)
    (receivedAt : String) :
    (jobPayload charge found receivedAt).get? "requestId" =
      some (Json.ofOption (found.map (·.requestId) <|> charge.metadataText "requestId" <|>
        charge.metadataText "request_id")) := by
  unfold jobPayload
  cases charge.status <;> cases charge.paidAt <;> cases charge.customerEmail <;> rfl

/-- **The fingerprints of two deliveries of one charge** are the same exactly when the found request
and the time of receipt are. -/
theorem requestHash_eq_iff (digests : Function.Injective rt.sha256) (charge : Charge)
    {found found' : Option FoundRequest} {receivedAt receivedAt' : String} :
    requestHash rt (jobRequest (jobInput charge found receivedAt)) =
        requestHash rt (jobRequest (jobInput charge found' receivedAt')) ↔
      found = found' ∧ receivedAt = receivedAt' := by
  refine ⟨fun same => ?_, fun ⟨left, right⟩ => by rw [left, right]⟩
  have sorted := stableText_inj (digests same)
  have field : ∀ k, ((jobRequest (jobInput charge found receivedAt)).get? k).map
      (Json.sortKeys fun a b => rt.localeLe a b = true) =
        ((jobRequest (jobInput charge found' receivedAt')).get? k).map
          (Json.sortKeys fun a b => rt.localeLe a b = true) := by
    intro k
    rw [← get?_jobRequest, ← get?_jobRequest, sorted]
  have institutions : found.bind (·.institutionId) = found'.bind (·.institutionId) := by
    have here := Option.some.inj (field "institutionId")
    rw [sortKeys_ofOption, sortKeys_ofOption] at here
    exact ofOption_injective here
  have related : found.map (·.uuid) = found'.map (·.uuid) := by
    have here := Option.some.inj (field "relatedEntityId")
    rw [sortKeys_ofOption, sortKeys_ofOption] at here
    exact ofOption_injective here
  have payloads : Json.sortKeys (fun a b => rt.localeLe a b = true)
      (jobPayload charge found receivedAt) =
        Json.sortKeys (fun a b => rt.localeLe a b = true) (jobPayload charge found' receivedAt') :=
    Option.some.inj (field "payload")
  have codes : (found.map (·.requestId) <|> charge.metadataText "requestId" <|>
      charge.metadataText "request_id") = (found'.map (·.requestId) <|>
        charge.metadataText "requestId" <|> charge.metadataText "request_id") := by
    have here := congrArg (Json.get? "requestId") payloads
    rw [get?_jobPayload, get?_jobPayload, jobPayload_requestId, jobPayload_requestId,
      Option.map_some, Option.map_some, sortKeys_ofOption, sortKeys_ofOption] at here
    exact ofOption_injective (Option.some.inj here)
  refine ⟨?_, ?_⟩
  · cases found with
    | none =>
      cases found' with
      | none => rfl
      | some other => exact absurd related (by simp)
    | some one =>
      cases found' with
      | none => exact absurd related (by simp)
      | some other =>
        have uuids : one.uuid = other.uuid := Option.some.inj related
        have requestIds : one.requestId = other.requestId := Option.some.inj codes
        have owners : one.institutionId = other.institutionId := institutions
        cases one
        cases other
        simp_all
  · have here := congrArg (Json.get? "receivedAt") payloads
    rw [get?_jobPayload, get?_jobPayload, jobPayload_receivedAt, jobPayload_receivedAt] at here
    exact Json.str.inj (Option.some.inj here)

end Fingerprint

/-! ### One delivery -/

section Deliveries

variable {rt : Runtime} {input : PaystackWebhookInput}

/-- A signed `charge.success` event goes on to its charge. -/
theorem deliver_charge (signed : assertValidSignature rt input = .ok ())
    (success : eventOf input.payload = some "charge.success")
    (s : Store) (d : Delivery rt input) :
    deliver rt input s d =
      (do
        let charge ← Async.ofExcept (readCharge rt input.payload)
        receiveCharge rt d.env charge) [] (d.since s) := by
  unfold deliver receiveWebhook
  rw [signed, success]
  rfl

/-- The job input of a delivery. -/
def Delivery.jobInput (d : Delivery rt input) (charge : Charge) (s : Store) : EnqueueJobInput :=
  PaystackWebhook.jobInput charge (d.finds charge s) (Text.toISOString d.env.receivedAt)

/-- What `execute` is asked for a delivery. -/
def Delivery.asked (d : Delivery rt input) (charge : Charge) (s : Store) : IdempotencyInput :=
  idempotencyInput rt (d.jobInput charge s) charge.idempotencyKey

/-- The response to a delivery, with what `execute` returned. -/
def Delivery.response (d : Delivery rt input) (charge : Charge) (s : Store) (job : Json) :
    WebhookResponse :=
  .queued charge.reference ((d.finds charge s).map (·.uuid))
    ((d.finds charge s).map (·.requestId)) (job.get? "jobId") (job.get? "pollingUrl")

/-- `execute`, as a delivery calls it. -/
def Delivery.executes (d : Delivery rt input) (charge : Charge) (s : Store) : Db Json :=
  execute rt (Stored.json responseJobId) ⟨d.env.job.now, d.env.job.recordUuid⟩
    (d.asked charge s) (createJob rt d.env.job (d.jobInput charge s))

theorem idempotencyKey_ne_empty (charge : Charge) : charge.idempotencyKey ≠ "" := by
  intro empty
  have length : charge.idempotencyKey.length = 0 := by rw [empty]; rfl
  unfold Charge.idempotencyKey at length
  rw [String.length_append, String.length_append, String.length_append] at length
  have fixed : "charge.success:".length = 15 := by decide
  omega

/-- The lookup of the request goes through, and the job is enqueued under the key of the charge. -/
theorem receiveCharge_eq (d : Delivery rt input) (charge : Charge) (s : Store) :
    receiveCharge rt d.env charge [] (d.since s) =
      (d.executes charge s >>= fun job => pure (d.response charge s job)) [] (d.since s) := by
  have found : findRecordRequest d.env.pick charge (d.since s) = d.finds charge s := rfl
  unfold receiveCharge
  rw [Async.bind_of_ok (Db.read_done rfl _ _), found]
  rw [@enqueueJob_keyed _ _ _ charge.idempotencyKey rfl (idempotencyKey_ne_empty charge)]
  rfl

/-- **A readable charge** is answered by `execute`, under the key of the charge. -/
theorem deliver_readable (signed : assertValidSignature rt input = .ok ())
    (success : eventOf input.payload = some "charge.success")
    {charge : Charge} (readable : readCharge rt input.payload = .ok charge) (s : Store)
    (d : Delivery rt input) :
    deliver rt input s d =
      (d.executes charge s >>= fun job => pure (d.response charge s job)) [] (d.since s) := by
  rw [deliver_charge signed success, readable, Async.ofExcept_ok,
    Async.bind_of_ok (Async.pure_apply charge [] _), receiveCharge_eq]

/-- A charge that cannot be paid is refused. -/
theorem payable_of_ok (signed : assertValidSignature rt input = .ok ())
    (success : eventOf input.payload = some "charge.success") {s : Store} {d : Delivery rt input}
    {response : WebhookResponse} (answered : (deliver rt input s d).result = .ok response) :
    Payable rt input := by
  cases readable : readCharge rt input.payload with
  | error e =>
    rw [deliver_charge signed success, readable, Async.ofExcept_error,
      Async.bind_of_error (Async.throw_apply e [] _)] at answered
    exact absurd answered (by simp)
  | ok charge =>
    rcases valid : normaliseKey charge.idempotencyKey with e | key
    · have refused : d.executes charge s [] (d.since s) = ⟨.error e, [], d.since s⟩ :=
        @execute_invalid _ _ _ _ (d.asked charge s) _ _ valid [] _
      rw [deliver_readable signed success readable, Async.bind_of_error refused] at answered
      exact absurd answered (by simp)
    · exact ⟨charge, key, readable, valid⟩

theorem recordOf_eq {charge : Charge} {key : String}
    (readable : readCharge rt input.payload = .ok charge)
    (valid : normaliseKey charge.idempotencyKey = .ok key) (s : Store) :
    recordOf rt input s = findKey "webhook:paystack" (rt.sha256 key) s.idempotencyRecords := by
  unfold recordOf
  simp only [readable, valid, Except.toOption, Option.bind_eq_bind, Option.bind_some]

/-- The fingerprint of a delivery. -/
def Delivery.hash (d : Delivery rt input) (charge : Charge) (s : Store) : String :=
  requestHash rt (jobRequest (d.jobInput charge s))

/-- The job that a first delivery creates, and what it is answered with. -/
def Delivery.job (d : Delivery rt input) (charge : Charge) (s : Store) : BackgroundJob :=
  newJob d.env.job (d.jobInput charge s)

def Delivery.accepted (d : Delivery rt input) (charge : Charge) (s : Store) : Json :=
  toJobAcceptedResponse (d.job charge s) (newEvent rt d.env.job (d.jobInput charge s))

/-- The record that a first delivery leaves. -/
def Delivery.record (d : Delivery rt input) (charge : Charge) (key : String) (s : Store) :
    IdempotencyRecord :=
  succeeded (d.accepted charge s) (some (d.job charge s).uuid)
    (newRecord ⟨d.env.job.now, d.env.job.recordUuid⟩ (d.asked charge s) (rt.sha256 key)
      (d.hash charge s))

/-- **A first delivery** goes through: it adds a job and leaves a record that answers with its
id. -/
theorem first_delivery (signed : assertValidSignature rt input = .ok ())
    (success : eventOf input.payload = some "charge.success") {charge : Charge} {key : String}
    (readable : readCharge rt input.payload = .ok charge)
    (valid : normaliseKey charge.idempotencyKey = .ok key) {s : Store} {d : Delivery rt input}
    (new : New rt input s d) :
    (deliver rt input s d).result = .ok (d.response charge s (d.accepted charge s)) ∧
      Adds rt input [d.job charge s] s d ∧
      recordOf rt input (afterDelivery rt input s d) = some (d.record charge key s) ∧
      (afterDelivery rt input s d).recordRequests = (d.since s).recordRequests := by
  have unrecorded := new.unrecorded
  rw [recordOf_eq readable valid] at unrecorded
  obtain ⟨jobs, events, rows, creates⟩ :=
    @createJob_of_free rt _ (d.jobInput charge s) _ new.job new.event
  obtain ⟨records, executed, found⟩ := @execute_first _ rt (Stored.json responseJobId)
    ⟨d.env.job.now, d.env.job.recordUuid⟩ (d.asked charge s)
    (createJob rt d.env.job (d.jobInput charge s)) key valid (d.since s)
    { d.since s with
      backgroundJobs := jobs
      domainEvents := events } (d.accepted charge s) unrecorded new.record creates
  have delivered := deliver_readable signed success readable s d
  rw [Async.bind_of_ok (x := d.executes charge s) executed, Async.pure_apply] at delivered
  refine ⟨by rw [delivered], ?_, ?_, ?_⟩
  · unfold Adds
    rw [delivered]
    exact rows
  · unfold afterDelivery
    rw [delivered, recordOf_eq readable valid]
    exact found
  · unfold afterDelivery
    rw [delivered]

/-- **A later delivery** is answered by the record, if its fingerprint is the same. -/
theorem later_delivery (signed : assertValidSignature rt input = .ok ())
    (success : eventOf input.payload = some "charge.success") {charge : Charge} {key : String}
    (readable : readCharge rt input.payload = .ok charge)
    (valid : normaliseKey charge.idempotencyKey = .ok key) {s : Store} {d : Delivery rt input}
    {record : IdempotencyRecord} (recorded : recordOf rt input s = some record) :
    deliver rt input s d =
      ⟨((replay (d.hash charge s) record).map id).map (d.response charge s), [], d.since s⟩ := by
  have found := (d.keeps s).trans recorded
  rw [recordOf_eq readable valid] at found
  have executed : d.executes charge s [] (d.since s) =
      ⟨(replay (d.hash charge s) record).map id, [], d.since s⟩ :=
    @execute_found _ rt (Stored.json responseJobId) _ (d.asked charge s) _ key valid _ _ found
  rw [deliver_readable signed success readable]
  cases replayed : (replay (d.hash charge s) record).map id with
  | error e =>
    rw [replayed] at executed
    rw [Async.bind_of_error executed]
    rfl
  | ok response =>
    rw [replayed] at executed
    rw [Async.bind_of_ok executed]
    rfl

/-- The lookup of the request reads the requests only. -/
theorem finds_of_recordRequests_eq {charge : Charge} {s t : Store} {d d' : Delivery rt input}
    (pick : d.env.pick = d'.env.pick)
    (same : (d.since t).recordRequests = (d'.since s).recordRequests) :
    d.finds charge t = d'.finds charge s := by
  unfold Delivery.finds findRecordRequest JobWorker.findRecordRequestForPayment
  rw [same, pick]

/-! ### A run of deliveries -/

/-- The fingerprint is the first delivery's exactly when the delivery is alike. -/
theorem hash_eq_iff (digests : Function.Injective rt.sha256) {charge : Charge}
    (readable : readCharge rt input.payload = .ok charge) {s t : Store}
    {first d : Delivery rt input} :
    first.hash charge s = d.hash charge t ↔ Alike rt input s first t d := by
  unfold Delivery.hash Delivery.jobInput
  rw [requestHash_eq_iff digests]
  constructor
  · intro ⟨found, received⟩
    refine ⟨received.symm, fun other same => ?_⟩
    obtain rfl : charge = other := Except.ok.inj (readable.symm.trans same)
    exact found.symm
  · intro ⟨received, found⟩
    exact ⟨(found charge readable).symm, received.symm⟩

/-- **A later delivery is answered with the first job, and adds none**, exactly when it is alike. -/
theorem later_iff (digests : Function.Injective rt.sha256)
    (signed : assertValidSignature rt input = .ok ())
    (success : eventOf input.payload = some "charge.success") {charge : Charge} {key : String}
    (readable : readCharge rt input.payload = .ok charge)
    (valid : normaliseKey charge.idempotencyKey = .ok key) {s t : Store}
    {first d : Delivery rt input}
    (recorded : recordOf rt input t = some (first.record charge key s)) :
    (Answers rt input (first.job charge s).uuid t d ∧ Adds rt input [] t d) ↔
      Alike rt input s first t d := by
  have delivered := later_delivery signed success readable valid (d := d) recorded
  rw [← hash_eq_iff digests readable]
  constructor
  · rintro ⟨⟨response, answered, -⟩, -⟩
    rw [delivered] at answered
    obtain ⟨json, replayed, -⟩ := map_eq_ok.mp answered
    obtain ⟨stored, replayed, -⟩ := map_eq_ok.mp replayed
    exact (replay_eq_ok.mp replayed).1
  · intro same
    have replayed : replay (d.hash charge t) (first.record charge key s) =
        .ok (first.accepted charge s) := replay_eq_ok.mpr ⟨same, rfl, rfl⟩
    rw [replayed] at delivered
    refine ⟨⟨d.response charge t (first.accepted charge s), ?_, rfl⟩, ?_⟩
    · rw [delivered]
      rfl
    · unfold Adds
      rw [delivered, List.append_nil]

/-- A later delivery leaves the record. -/
theorem later_keeps (signed : assertValidSignature rt input = .ok ())
    (success : eventOf input.payload = some "charge.success") {charge : Charge} {key : String}
    (readable : readCharge rt input.payload = .ok charge)
    (valid : normaliseKey charge.idempotencyKey = .ok key) {t : Store} {d : Delivery rt input}
    {record : IdempotencyRecord} (recorded : recordOf rt input t = some record) :
    recordOf rt input (afterDelivery rt input t d) = some record := by
  unfold afterDelivery
  rw [later_delivery signed success readable valid recorded, d.keeps, recorded]

/-- **The deliveries after the first**, in a run. -/
theorem along_later_iff (digests : Function.Injective rt.sha256)
    (signed : assertValidSignature rt input = .ok ())
    (success : eventOf input.payload = some "charge.success") {charge : Charge} {key : String}
    (readable : readCharge rt input.payload = .ok charge)
    (valid : normaliseKey charge.idempotencyKey = .ok key) {s t : Store}
    {first : Delivery rt input}
    (recorded : recordOf rt input t = some (first.record charge key s))
    (rest : List (Delivery rt input)) :
    Along (afterDelivery rt input)
        (fun t d => Answers rt input (first.job charge s).uuid t d ∧ Adds rt input [] t d) t rest ↔
      Along (afterDelivery rt input) (Alike rt input s first) t rest := by
  have keeps : ∀ t d, recordOf rt input t = some (first.record charge key s) →
      Alike rt input s first t d →
        recordOf rt input (afterDelivery rt input t d) = some (first.record charge key s) :=
    fun t d here _ => later_keeps signed success readable valid here
  refine along_iff_of_exact keeps (fun t d here => ?_) recorded rest
  exact later_iff digests signed success readable valid here

/-- **One job for all deliveries of a signed event**: exactly when its charge is payable and every
later delivery is like the first. -/
theorem oneJob_iff (digests : Function.Injective rt.sha256)
    (signed : assertValidSignature rt input = .ok ())
    (success : eventOf input.payload = some "charge.success") {s : Store}
    {first : Delivery rt input} (new : New rt input s first) (rest : List (Delivery rt input)) :
    OneJob rt input s first rest ↔
      Payable rt input ∧
        Along (afterDelivery rt input) (Alike rt input s first) (afterDelivery rt input s first)
          rest := by
  constructor
  · rintro ⟨job, -, ⟨response, answered, named⟩, -, later⟩
    have payable := payable_of_ok signed success answered
    obtain ⟨charge, key, readable, valid⟩ := payable
    obtain ⟨delivered, -, recorded, -⟩ := first_delivery signed success readable valid new
    obtain rfl := Except.ok.inj (delivered.symm.trans answered)
    have same : (first.job charge s).uuid = job.uuid :=
      Json.str.inj (Option.some.inj named)
    rw [← same] at later
    exact ⟨⟨charge, key, readable, valid⟩,
      (along_later_iff digests signed success readable valid recorded rest).mp later⟩
  · rintro ⟨⟨charge, key, readable, valid⟩, alike⟩
    obtain ⟨delivered, added, recorded, -⟩ := first_delivery signed success readable valid new
    refine ⟨first.job charge s, rfl, ⟨_, delivered, rfl⟩, added, ?_⟩
    exact (along_later_iff digests signed success readable valid recorded rest).mpr alike

end Deliveries

/-! ### A delivery one millisecond later -/

/-- A runtime with a configured secret. -/
def configured : Runtime :=
  { Runtime.plain with env := fun name => if name = "PAYSTACK_SECRET_KEY" then some "secret" else none }

def signedInput : PaystackWebhookInput where
  payload := .obj
    [("event", .str "charge.success"),
      ("data", .obj [("reference", .str "ref-0001"), ("amount", .num 250000)])]
  rawBody := some "body"
  signature := some "hmac:secret:body"

def readInput : Charge where
  eventId := "ref-0001"
  reference := "ref-0001"
  amountMinor := 250000
  currency := "NGN"
  status := none
  paidAt := none
  customerEmail := none
  metadata := []

/-- A delivery of the input at a time, with nothing done since the last one. -/
def deliveredAt (now : Time) : Delivery configured signedInput where
  env := ⟨0, now, ⟨now, "job-1", "event-1", "record-1"⟩⟩
  since := id
  keeps := fun _ => rfl

theorem assertValidSignature_signedInput :
    assertValidSignature configured signedInput = .ok () := by
  decide

theorem readCharge_signedInput :
    readCharge configured signedInput.payload = .ok readInput := rfl

theorem normaliseKey_readInput :
    normaliseKey readInput.idempotencyKey = .ok "charge.success:ref-0001:ref-0001" := rfl

theorem sha256_configured : Function.Injective configured.sha256 :=
  fun _ _ same => String.append_right_inj "sha256:" |>.mp same

theorem new_deliveredAt (now : Time) : New configured signedInput .empty (deliveredAt now) where
  unrecorded := rfl
  record := fun _ inside => absurd inside (by simp [Store.empty, deliveredAt])
  job := fun _ inside => absurd inside (by simp [Store.empty, deliveredAt])
  event := fun _ inside => absurd inside (by simp [Store.empty, deliveredAt])

theorem oneJob_iff_twice :
    OneJob configured signedInput .empty (deliveredAt 0) [deliveredAt 0] := by
  refine (oneJob_iff sha256_configured assertValidSignature_signedInput rfl (new_deliveredAt 0)
    [deliveredAt 0]).mpr ⟨⟨_, _, readCharge_signedInput, normaliseKey_readInput⟩, ?_, trivial⟩
  obtain ⟨-, -, -, same⟩ := first_delivery assertValidSignature_signedInput rfl
    readCharge_signedInput normaliseKey_readInput (new_deliveredAt 0)
  exact ⟨rfl, fun charge _ => finds_of_recordRequests_eq rfl same⟩

/-- **The same event, one millisecond later**, is refused. -/
theorem oneJob_fails :
    ¬ OneJob configured signedInput .empty (deliveredAt 0) [deliveredAt 1] := by
  rintro ⟨job, -, ⟨response, answered, named⟩, -, later, -⟩
  obtain ⟨delivered, -, recorded, -⟩ := first_delivery assertValidSignature_signedInput rfl
    readCharge_signedInput normaliseKey_readInput (new_deliveredAt 0)
  obtain rfl := Except.ok.inj (delivered.symm.trans answered)
  have same : "job-1" = job.uuid := Json.str.inj (Option.some.inj named)
  rw [← same] at later
  have alike := (later_iff sha256_configured assertValidSignature_signedInput rfl
    readCharge_signedInput normaliseKey_readInput recorded).mp later
  exact absurd alike.1 (by decide)

end AcadID.PaystackWebhook
