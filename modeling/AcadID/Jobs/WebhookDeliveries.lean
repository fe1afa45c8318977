/-
**Webhook deliveries, sent by the workers and retried by administrators.**

An attempt on a delivery is a read, the note that it is being retried, the request, and the note of
its answer; each note is written under the id of the delivery alone. `retryWebhookDelivery` checks
a delivery and then moves it to a new job.

* `Final` — a delivery that was delivered stays so, and is not sent again.
* `Undisturbed` — the invariant: nobody is at work on a delivered delivery.
* `final_of_alone` — **every step of a run is final if no attempt marks a delivery as delivered while
  another attempt on it, or a retry that has read it, is in flight**.
* `final_fails` — a retry that read the delivery before it was delivered, and a second request.
-/

import AcadID.Jobs.Attempts

namespace AcadID

open Lib

namespace WebhookDeliveries

open JobWorker

variable {π ε ω : Type}

/-! ### The request -/

/-- What the worker takes from the runtime for its requests. -/
structure WebhookRuntime where
  format : NumberFormat
  /-- What AES-256-GCM under the key of webhook secrets makes of an `iv`, a tag and a ciphertext,
  unless it throws. -/
  decipher : String → String → String → Option String
  /-- The HMAC-SHA-256 of a text under a secret, in hexadecimal. -/
  hmacSha256 : String → String → String
  /-- `process.env.ACADID_WEBHOOK_SECRET` -/
  secret : Option String

/-- `WebhookSecretService.decrypt` -/
def decrypt (web : WebhookRuntime) (encoded : String) : Except ServiceError String :=
  match Text.splitOn ':' encoded with
  | version :: iv :: tag :: encrypted :: _ =>
    if version ≠ "v1" ∨ iv = "" ∨ tag = "" ∨ encrypted = "" then
      .error (.error "Invalid webhook secret encoding.")
    else orThrow (web.decipher iv tag encrypted)
      (.error "Unsupported state or unable to authenticate data")
  | _ => .error (.error "Invalid webhook secret encoding.")

def serializeWebhookBody (web : WebhookRuntime) (now : Time) (delivery : WebhookDelivery)
    (attempt : ℕ) : String :=
  String.ofList ((Json.obj
    [("id", .str delivery.uuid), ("eventType", .str delivery.eventType), ("attempt", .num attempt),
      ("payload", delivery.payload), ("sentAt", .str (Text.toISOString now))]).stringify web.format)

def resolveWebhookSecret (web : WebhookRuntime) (endpoint : Option WebhookEndpoint) :
    Except ServiceError (Option String) := do
  match endpoint with
  | some endpoint =>
    require (endpoint.status == .active)
      (.error ("Webhook endpoint " ++ endpoint.uuid ++ " is not active."))
    let secret ← decrypt web endpoint.secretEncrypted
    return some secret
  | none => return web.secret

/-- The headers of a request; an empty secret is none. -/
def buildWebhookHeaders (web : WebhookRuntime) (now : Time) (delivery : WebhookDelivery)
    (endpoint : Option WebhookEndpoint) (body : String) :
    Except ServiceError (List (String × String)) := do
  let resolved ← resolveWebhookSecret web endpoint
  let secret ← orThrow (resolved.filter (· ≠ ""))
    (.error "A webhook signing secret is required before webhook delivery can run.")
  let timestamp := toString (now / 1000)
  let signature := web.hmacSha256 secret (timestamp ++ "." ++ delivery.uuid ++ "." ++ body)
  return [("content-type", "application/json"), ("user-agent", "AcadID-Webhook/1.0"),
      ("x-acadid-event", delivery.eventType), ("x-acadid-delivery", delivery.uuid)] ++
    (endpoint.toList.map fun e => ("x-acadid-webhook-endpoint", e.uuid)) ++
    [("x-acadid-idempotency-key", "whd_" ++ delivery.uuid), ("x-acadid-timestamp", timestamp),
      ("x-acadid-signature", "v1=" ++ signature)]

/-- A request as it is sent to the target of its delivery. -/
structure WebhookRequest where
  delivery : WebhookDelivery
  headers : List (String × String)
  body : String

/-- How the target answers. -/
inductive Answer where
  /-- The request fails, or takes too long. -/
  | threw (message : String)
  | responded (status : ℕ) (text : String)

/-- `response.ok` -/
def Answer.isOk : Answer → Bool
  | .threw _ => false
  | .responded status _ => 200 ≤ status && status < 300

/-! ### The processing of a delivery job -/

/-- How far an attempt has come. -/
inductive Delivering where
  | reading
  | announcing (request : WebhookRequest)
  | sending (request : WebhookRequest)
  | answered (request : WebhookRequest) (answer : Answer)

/-- Its next call, and how it fares. -/
inductive DeliveryCall where
  | read (now : Time) (answers : Bool)
  | announce (fate : Fate)
  | send (answer : Answer)
  | record (fate : Fate)

/-- The delivery that a job sends: the first of its own that is still to be sent. -/
def pendingDelivery (job : BackgroundJob) (s : Store) : Option WebhookDelivery :=
  s.webhookDeliveries.rows.find? fun delivery =>
    delivery.jobId == some job.uuid && isPending delivery.status

def buildRequest (web : WebhookRuntime) (now : Time) (delivery : WebhookDelivery) (s : Store) :
    Except ServiceError WebhookRequest := do
  let body := serializeWebhookBody web now delivery (delivery.attempts + 1)
  let headers ← buildWebhookHeaders web now delivery
    (delivery.webhookEndpointId.bind fun id => s.webhookEndpoints.find? id) body
  return { delivery := delivery, headers := headers, body := body }

/-- One delivery updated by its id, in a call that fares as told. -/
def writeDelivery (id : Uuid) (f : WebhookDelivery → WebhookDelivery)
    (keeps : ∀ d, (f d).uuid = d.uuid) (fate : Fate) (s : Store) : Except ServiceError Unit × Store :=
  match fate, updateRow s.webhookDeliveries id f keeps with
  | .failed, _ => (.error .database, s)
  | _, .error e => (.error e, s)
  | .done, .ok (_, deliveries) => (.ok (), { s with webhookDeliveries := deliveries })
  | .lost, .ok (_, deliveries) => (.error .database, { s with webhookDeliveries := deliveries })

def announced (delivery : WebhookDelivery) : WebhookDelivery :=
  { delivery with
    status := .retrying
    attempts := delivery.attempts + 1
    lastStatusCode := none
    lastError := none }

theorem announced_uuid (delivery : WebhookDelivery) :
    (announced delivery).uuid = delivery.uuid := rfl

/-- What a refusal is recorded as. -/
def refusal (status : ℕ) (text : String) : String :=
  "HTTP " ++ toString status ++ (if text = "" then "" else ": " ++ Text.slice 500 text)

/-- What an answer leaves on a delivery. -/
def recorded (answer : Answer) (delivery : WebhookDelivery) : WebhookDelivery :=
  match answer with
  | .threw message =>
    { delivery with
      status := .retrying
      lastError := some message }
  | .responded status text =>
    if answer.isOk then
      { delivery with
        status := .delivered
        lastStatusCode := some status
        lastError := none }
    else
      { delivery with
        status := .retrying
        lastStatusCode := some status
        lastError := some (refusal status text) }

theorem recorded_uuid (answer : Answer) (delivery : WebhookDelivery) :
    (recorded answer delivery).uuid = delivery.uuid := by
  cases answer with
  | threw message => rfl
  | responded status text =>
    unfold recorded
    dsimp only
    split <;> rfl

/-- How an attempt ends once its answer is recorded. -/
def outcome (delivery : WebhookDelivery) (answer : Answer) : Except ServiceError Json :=
  match answer with
  | .threw message =>
    .error (.error ("Webhook delivery " ++ delivery.uuid ++ " failed: " ++ message))
  | .responded status text =>
    if answer.isOk then
      .ok (.obj
        [("mode", .str "delivered"), ("deliveryId", .str delivery.uuid),
          ("eventType", .str delivery.eventType), ("statusCode", .num status),
          ("attempt", .num (delivery.attempts + 1))])
    else
      .error (.error ("Webhook delivery " ++ delivery.uuid ++ " failed: " ++ refusal status text))

/-- What follows a write, unless it throws. -/
def onceWritten (written : Except ServiceError Unit) (next : Delivering ⊕ Except ServiceError Json) :
    Delivering ⊕ Except ServiceError Json :=
  match written with
  | .ok () => next
  | .error e => .inr (.error e)

def deliveryTurn (web : WebhookRuntime) (job : BackgroundJob) (state : Delivering)
    (call : DeliveryCall) (s : Store) : (Delivering ⊕ Except ServiceError Json) × Store :=
  match state, call with
  | .reading, .read now answers =>
    if answers then
      match pendingDelivery job s with
      | none => (.inr (.ok (.obj
          [("mode", .str "no_pending_delivery"),
            ("message", .str "No pending webhook delivery record was found for this job.")])), s)
      | some delivery =>
        match buildRequest web now delivery s with
        | .ok request => (.inl (.announcing request), s)
        | .error e => (.inr (.error e), s)
    else (.inr (.error .database), s)
  | .announcing request, .announce fate =>
    let (written, t) := writeDelivery request.delivery.uuid announced announced_uuid fate s
    (onceWritten written (.inl (.sending request)), t)
  | .sending request, .send answer => (.inl (.answered request answer), s)
  | .answered request answer, .record fate =>
    let (written, t) :=
      writeDelivery request.delivery.uuid (recorded answer) (recorded_uuid answer) fate s
    (onceWritten written (.inr (outcome request.delivery answer)), t)
  | state, _ => (.inl state, s)

/-- What a call on a delivery writes: nothing, or the one row, which is there. -/
theorem writeDelivery_store (id : Uuid) (f : WebhookDelivery → WebhookDelivery)
    (keeps : ∀ d, (f d).uuid = d.uuid) (fate : Fate) (s : Store) :
    (writeDelivery id f keeps fate s).2 = s ∨ (fate ≠ .failed ∧
      (∃ row, s.webhookDeliveries.find? id = some row) ∧
        (writeDelivery id f keeps fate s).2 =
          { s with webhookDeliveries := s.webhookDeliveries.update id f keeps }) := by
  unfold writeDelivery
  split
  · exact .inl rfl
  · exact .inl rfl
  · rename_i delivery deliveries updated
    obtain ⟨row, found, -, rfl⟩ := updateRow_eq_ok.mp updated
    exact .inr ⟨by simp, ⟨row, found⟩, rfl⟩
  · rename_i delivery deliveries updated
    obtain ⟨row, found, -, rfl⟩ := updateRow_eq_ok.mp updated
    exact .inr ⟨by simp, ⟨row, found⟩, rfl⟩

theorem writeDelivery_jobs (id : Uuid) (f : WebhookDelivery → WebhookDelivery)
    (keeps : ∀ d, (f d).uuid = d.uuid) (fate : Fate) (s : Store) :
    (writeDelivery id f keeps fate s).2.backgroundJobs = s.backgroundJobs := by
  rcases writeDelivery_store id f keeps fate s with same | ⟨-, -, same⟩ <;> rw [same]

theorem deliveryTurn_jobs (web : WebhookRuntime) (job : BackgroundJob) (state : Delivering)
    (call : DeliveryCall) (s : Store) :
    (deliveryTurn web job state call s).2.backgroundJobs = s.backgroundJobs := by
  unfold deliveryTurn
  split
  · split
    · split
      · rfl
      · split <;> rfl
    · rfl
  · exact writeDelivery_jobs _ _ _ _ s
  · rfl
  · exact writeDelivery_jobs _ _ _ _ s
  · rfl

/-! ### The machine -/

/-- The delivery is there, and delivered. -/
def delivered (deliveries : Table WebhookDelivery.uuid) (id : Uuid) : Bool :=
  (deliveries.find? id).any (·.status == .delivered)

/-- The processing of the other jobs, and the rest of the system: it may add deliveries, but marks
none as delivered, nor unmarks it. -/
structure OtherWork (π ε ω : Type) extends Processing π ε ω where
  turn_delivered : ∀ job state e s id,
    delivered (turn job state e s).2.webhookDeliveries id = delivered s.webhookDeliveries id
  outside_delivered : ∀ o s id,
    delivered (outside o s).webhookDeliveries id = delivered s.webhookDeliveries id

/-- `processJob`, for jobs that send a delivery beside all others. -/
def sendingOut (web : WebhookRuntime) (other : OtherWork π ε ω) :
    Processing (Delivering ⊕ π) (DeliveryCall ⊕ ε) ω :=
  other.toProcessing.beside .webhookDelivery .reading (deliveryTurn web) (deliveryTurn_jobs web)

/-- The fleet of workers, and what the checks of the delivery retries in flight have read. -/
structure DeliveryPool (π : Type) where
  fleet : Fleet (Delivering ⊕ π)
  retries : List WebhookDelivery

/-- What the runtime and the database give a retry of a delivery. -/
structure RetryEnv where
  now : Time
  jobUuid : Uuid
  eventUuid : Uuid

/-- What happens next. -/
inductive PoolEvent (ε ω : Type) where
  | fleet (e : FleetEvent (DeliveryCall ⊕ ε) ω)
  /-- The check of a `retryWebhookDelivery`. -/
  | retryCheck (id : Uuid)
  /-- The transaction of the `k`-th of those in flight. -/
  | retryCommit (k : ℕ) (env : RetryEnv)
  | retryAbort (k : ℕ)

def retryDeliveryCheck (id : Uuid) (s : Store) : Except ServiceError WebhookDelivery := do
  let existing ← orThrow (s.webhookDeliveries.find? id) (.badRequest "Webhook delivery not found.")
  require (existing.status != .delivered)
    (.badRequest "Delivered webhooks should be replayed, not retried.")
  return existing

/-- The job of `createWebhookJob`. -/
def webhookJob (env : RetryEnv) (delivery : WebhookDelivery) : BackgroundJob where
  uuid := env.jobUuid
  type := .webhookDelivery
  queue := "webhooks.delivery"
  status := .queued
  institutionId := delivery.institutionId
  createdById := none
  relatedEntityType := some "WebhookDelivery"
  relatedEntityId := some delivery.uuid
  priority := 1
  attempts := 0
  maxAttempts := Queue.maxAttemptsFor .webhookDelivery
  runAfter := env.now
  payload := .obj
    [("deliveryId", .str delivery.uuid),
      ("webhookEndpointId", Json.ofOption delivery.webhookEndpointId),
      ("targetUrl", .str delivery.targetUrl), ("eventType", .str delivery.eventType)]
  result := none
  error := none

/-- Its event. -/
def webhookEvent (env : RetryEnv) (delivery : WebhookDelivery) (type : String) : DomainEvent where
  uuid := env.eventUuid
  type := type
  aggregateType := "WebhookDelivery"
  aggregateId := delivery.uuid
  institutionId := delivery.institutionId
  jobId := some env.jobUuid
  payload := .obj
    [("deliveryId", .str delivery.uuid), ("jobId", .str env.jobUuid),
      ("webhookEndpointId", Json.ofOption delivery.webhookEndpointId),
      ("targetUrl", .str delivery.targetUrl), ("eventType", .str delivery.eventType)]

/-- What `retryWebhookDelivery` writes on a delivery. -/
def retried (env : RetryEnv) (delivery : WebhookDelivery) : WebhookDelivery :=
  { delivery with
    jobId := some env.jobUuid
    status := .retrying
    lastStatusCode := none
    lastError := none }

def retryDeliveryCommit (env : RetryEnv) (existing : WebhookDelivery) (s : Store) :
    Except ServiceError (Unit × Store) := do
  let (_, s) ← Queue.insertJob (webhookJob env existing)
    (webhookEvent env existing "webhook_delivery.retry_requested") s
  let (_, deliveries) ← updateRow s.webhookDeliveries existing.uuid (retried env) fun _ => rfl
  return ((), { s with webhookDeliveries := deliveries })

namespace DeliveryPool

variable (rt : Runtime) (web : WebhookRuntime) (other : OtherWork π ε ω)

def deliveries (p : DeliveryPool π) : Table WebhookDelivery.uuid :=
  p.fleet.store.webhookDeliveries

def retryCheck (p : DeliveryPool π) (id : Uuid) : DeliveryPool π :=
  match retryDeliveryCheck id p.fleet.store with
  | .ok existing => { p with retries := p.retries ++ [existing] }
  | .error _ => p

def retryCommit (p : DeliveryPool π) (k : ℕ) (env : RetryEnv) : DeliveryPool π :=
  match p.retries[k]? with
  | none => p
  | some existing =>
    match retryDeliveryCommit env existing p.fleet.store with
    | .ok (_, t) =>
      { fleet := { p.fleet with store := t }
        retries := p.retries.eraseIdx k }
    | .error _ => { p with retries := p.retries.eraseIdx k }

def step (p : DeliveryPool π) (e : PoolEvent ε ω) : DeliveryPool π :=
  match e with
  | .fleet e => { p with fleet := p.fleet.step rt (sendingOut web other) e }
  | .retryCheck id => p.retryCheck id
  | .retryCommit k env => p.retryCommit k env
  | .retryAbort k => { p with retries := p.retries.eraseIdx k }

/-- Workers before their first job. -/
def start (s : Store) : DeliveryPool π where
  fleet := Fleet.start s
  retries := []

end DeliveryPool

/-! ### The property -/

/-- The delivery that a worker is at work on: it has read it, and not yet recorded its answer. -/
def attempted : Work (Delivering ⊕ π) → Option WebhookDelivery
  | .processing _ (.inl (.announcing request)) => some request.delivery
  | .processing _ (.inl (.sending request)) => some request.delivery
  | .processing _ (.inl (.answered request _)) => some request.delivery
  | _ => none

/-- A worker is at work on the delivery, or a retry has read it. -/
def Busy (p : DeliveryPool π) (id : Uuid) : Prop :=
  (∃ w d, attempted (p.fleet.workers w) = some d ∧ d.uuid = id) ∨ ∃ d ∈ p.retries, d.uuid = id

/-- The step sends a request for the delivery. -/
def sends (id : Uuid) (p : DeliveryPool π) (e : PoolEvent ε ω) : Bool :=
  match e with
  | .fleet (.process w (.inl (.send _))) =>
    match p.fleet.workers w with
    | .processing _ (.inl (.sending request)) => request.delivery.uuid == id
    | _ => false
  | _ => false

/-- **A delivery that was delivered** stays so, and is not sent again. -/
def Final (rt : Runtime) (web : WebhookRuntime) (other : OtherWork π ε ω) (p : DeliveryPool π)
    (e : PoolEvent ε ω) : Prop :=
  ∀ id, delivered p.deliveries id = true →
    delivered (p.step rt web other e).deliveries id = true ∧ sends id p e = false

/-- The worker that marks a delivery as delivered in a step, and the delivery. -/
def marks (p : DeliveryPool π) (e : PoolEvent ε ω) : Option (ℕ × Uuid) :=
  match e with
  | .fleet (.process w (.inl (.record fate))) =>
    match p.fleet.workers w with
    | .processing _ (.inl (.answered request answer)) =>
      if answer.isOk = true ∧ fate ≠ .failed then some (w, request.delivery.uuid) else none
    | _ => none
  | _ => none

/-- Another worker is at work on the delivery, or a retry has read it. -/
def BusyBeside (p : DeliveryPool π) (w : ℕ) (id : Uuid) : Prop :=
  (∃ w' d, w' ≠ w ∧ attempted (p.fleet.workers w') = some d ∧ d.uuid = id) ∨
    ∃ d ∈ p.retries, d.uuid = id

/-- **A worker that marks a delivery as delivered** is the only one at work on it, and no retry has
read it. -/
def Alone (p : DeliveryPool π) (e : PoolEvent ε ω) : Prop :=
  ∀ w id, marks p e = some (w, id) → ¬ BusyBeside p w id

/-- The invariant: nobody is at work on a delivered delivery. -/
def Undisturbed (p : DeliveryPool π) : Prop :=
  ∀ id, delivered p.deliveries id = true → ¬ Busy p id

/-! ### What a step may do -/

/-- **What a step may do** to the deliveries, and to who is at work on them. -/
inductive DeliveryMove (p : DeliveryPool π) (e : PoolEvent ε ω) (p' : DeliveryPool π) : Prop where
  /-- No delivery is marked or unmarked; work begins on those alone that are not delivered. -/
  | stays (same : ∀ id, delivered p'.deliveries id = delivered p.deliveries id)
      (busy : ∀ id, Busy p' id → Busy p id ∨ delivered p.deliveries id = false)
  /-- A delivery that is worked on is written as one to be sent. -/
  | unmarks (id : Uuid) (worked : Busy p id) (now : delivered p'.deliveries id = false)
      (same : ∀ id' ≠ id, delivered p'.deliveries id' = delivered p.deliveries id')
      (busy : ∀ id', Busy p' id' → Busy p id')
  | marks (w : ℕ) (id : Uuid) (marks : marks p e = some (w, id))
      (now : delivered p'.deliveries id = true)
      (same : ∀ id' ≠ id, delivered p'.deliveries id' = delivered p.deliveries id')
      (busy : ∀ id', Busy p' id' → BusyBeside p w id')

/-- An update that concerns no delivered row, and leaves none delivered. -/
theorem delivered_updateMany {deliveries : Table WebhookDelivery.uuid} {q : WebhookDelivery → Bool}
    {f : WebhookDelivery → WebhookDelivery} {keeps : ∀ d, (f d).uuid = d.uuid}
    (spares : ∀ d, q d = true → d.status ≠ .delivered ∧ (f d).status ≠ .delivered) (id : Uuid) :
    delivered (deliveries.updateMany q f keeps) id = delivered deliveries id := by
  unfold delivered
  rw [Table.find?_updateMany]
  cases deliveries.find? id with
  | none => rfl
  | some d =>
    show ((if q d then f d else d).status == .delivered) = (d.status == .delivered)
    by_cases hit : q d = true
    · obtain ⟨before, after⟩ := spares d hit
      rw [if_pos hit, beq_eq_false_iff_ne.mpr after, beq_eq_false_iff_ne.mpr before]
    · rw [if_neg hit]

/-- The other rows of an update. -/
theorem delivered_update_of_ne {deliveries : Table WebhookDelivery.uuid} {id id' : Uuid}
    {f : WebhookDelivery → WebhookDelivery} (keeps : ∀ d, (f d).uuid = d.uuid) (other : id' ≠ id) :
    delivered (deliveries.update id f keeps) id' = delivered deliveries id' := by
  unfold delivered
  rw [Table.find?_update, if_neg other.symm]

/-- The row that an update leaves as one to be sent. -/
theorem delivered_update_self {deliveries : Table WebhookDelivery.uuid} {id : Uuid}
    {f : WebhookDelivery → WebhookDelivery} (keeps : ∀ d, (f d).uuid = d.uuid)
    (leaves : ∀ d, (f d).status = .retrying) :
    delivered (deliveries.update id f keeps) id = false := by
  unfold delivered
  rw [Table.find?_update, if_pos rfl]
  cases deliveries.find? id with
  | none => rfl
  | some d =>
    show ((f d).status == .delivered) = false
    rw [leaves d]
    rfl

section Moves

variable {p : DeliveryPool π} {w : ℕ} {work : Work (Delivering ⊕ π)} {s : Store}

/-- Who is at work once one worker has moved on. -/
theorem busy_set {id : Uuid} (busy : Busy { p with fleet := p.fleet.set w work s } id) :
    (∃ d, attempted work = some d ∧ d.uuid = id) ∨ BusyBeside p w id := by
  rcases busy with ⟨w', d, works, same⟩ | retries
  · have here : attempted ((p.fleet.set w work s).workers w') = some d := works
    rw [Fleet.workers_set] at here
    by_cases this : w' = w
    · rw [if_pos this] at here
      exact .inl ⟨d, here, same⟩
    · rw [if_neg this] at here
      exact .inr (.inl ⟨w', d, this, here, same⟩)
  · exact .inr (.inr retries)

theorem BusyBeside.busy {id : Uuid} (beside : BusyBeside p w id) : Busy p id := by
  rcases beside with ⟨w', d, -, works, same⟩ | retries
  · exact .inl ⟨w', d, works, same⟩
  · exact .inr retries

/-- A step that moves one worker on, at work on what it was or on a delivery that is not delivered. -/
theorem move_set {e : PoolEvent ε ω}
    (same : ∀ id, delivered s.webhookDeliveries id = delivered p.deliveries id)
    (works : ∀ d, attempted work = some d →
      attempted (p.fleet.workers w) = some d ∨ delivered p.deliveries d.uuid = false) :
    DeliveryMove p e { p with fleet := p.fleet.set w work s } := by
  refine .stays same fun id busy => ?_
  rcases busy_set busy with ⟨d, here, rfl⟩ | beside
  · rcases works d here with before | fresh
    · exact .inl (.inl ⟨w, d, before, rfl⟩)
    · exact .inr fresh
  · exact .inl beside.busy

/-- A step that moves no worker on. -/
theorem move_store {e : PoolEvent ε ω}
    (same : ∀ id, delivered s.webhookDeliveries id = delivered p.deliveries id) :
    DeliveryMove p e { p with fleet := { p.fleet with store := s } } :=
  .stays same fun _ busy => .inl busy

/-- **A worker that writes the delivery it is at work on** as one to be sent. -/
theorem move_unmarks {e : PoolEvent ε ω} {d : WebhookDelivery}
    {f : WebhookDelivery → WebhookDelivery} (keeps : ∀ d, (f d).uuid = d.uuid)
    (works : attempted (p.fleet.workers w) = some d) (leaves : ∀ d, (f d).status = .retrying)
    (next : ∀ d', attempted work = some d' → d' = d)
    (wrote : s.webhookDeliveries = p.deliveries.update d.uuid f keeps) :
    DeliveryMove p e { p with fleet := p.fleet.set w work s } := by
  refine .unmarks d.uuid (.inl ⟨w, d, works, rfl⟩) ?_ (fun id other => ?_) fun id busy => ?_
  · show delivered s.webhookDeliveries d.uuid = false
    rw [wrote]
    exact delivered_update_self keeps leaves
  · show delivered s.webhookDeliveries id = _
    rw [wrote]
    exact delivered_update_of_ne keeps other
  · rcases busy_set busy with ⟨d', here, rfl⟩ | beside
    · obtain rfl := next d' here
      exact .inl ⟨w, d', works, rfl⟩
    · exact beside.busy

end Moves

section Turns

variable {web : WebhookRuntime} {other : OtherWork π ε ω} {p : DeliveryPool π} {w : ℕ}
  {job : BackgroundJob}

/-- A job sends a delivery that is still to be sent. -/
theorem not_delivered_of_pending {s : Store} {d : WebhookDelivery}
    (pending : pendingDelivery job s = some d) : delivered s.webhookDeliveries d.uuid = false := by
  have inside := List.mem_of_find?_eq_some pending
  have meets := List.find?_some pending
  rw [Bool.and_eq_true] at meets
  unfold delivered
  rw [Table.find?_eq_some.mpr ⟨inside, rfl⟩]
  show (d.status == .delivered) = false
  refine beq_eq_false_iff_ne.mpr fun is => ?_
  rw [is] at meets
  exact absurd meets.2 (by decide)

/-- A worker that is not on a delivery is at work on none. -/
theorem attempted_next_inr (turned : π ⊕ Except ServiceError Json) :
    attempted (Work.next job (turned.map (.inr : π → Delivering ⊕ π) id)) = none := by
  rcases turned with state | result | error <;> rfl

/-- An attempt that is over is at work on nothing. -/
theorem attempted_next_over (result : Except ServiceError Json) :
    attempted (Work.next job (.inr result : (Delivering ⊕ π) ⊕ _)) = none := by
  rcases result with result | error <;> rfl

/-- The pool after the turn of one worker. -/
def turnOf (web : WebhookRuntime) (other : OtherWork π ε ω) (p : DeliveryPool π) (w : ℕ)
    (job : BackgroundJob) (state : Delivering ⊕ π) (e : DeliveryCall ⊕ ε) : DeliveryPool π :=
  { p with
    fleet := p.fleet.set w
      (Work.next job ((sendingOut web other).turn job state e p.fleet.store).1)
      ((sendingOut web other).turn job state e p.fleet.store).2 }

theorem read_move (now : Time) (answers : Bool) :
    DeliveryMove p (.fleet (.process w (.inl (.read now answers))) : PoolEvent ε ω)
      (turnOf web other p w job (.inl .reading) (.inl (.read now answers))) := by
  have ended : ∀ result : Except ServiceError Json,
      DeliveryMove p (.fleet (.process w (.inl (.read now answers))) : PoolEvent ε ω)
        { p with fleet := p.fleet.set w (Work.next job (.inr result)) p.fleet.store } :=
    fun result => move_set (fun _ => rfl) fun d here => by
      rw [attempted_next_over] at here
      exact absurd here (by simp)
  cases answers with
  | false => exact ended _
  | true =>
    cases pending : pendingDelivery job p.fleet.store with
    | none =>
      simp only [turnOf, sendingOut, Processing.beside, deliveryTurn, pending, if_true]
      exact ended _
    | some delivery =>
      cases built : buildRequest web now delivery p.fleet.store with
      | error e =>
        simp only [turnOf, sendingOut, Processing.beside, deliveryTurn, pending, built, if_true]
        exact ended _
      | ok request =>
        simp only [turnOf, sendingOut, Processing.beside, deliveryTurn, pending, built, if_true]
        have isOf : request.delivery = delivery := by
          unfold buildRequest at built
          obtain ⟨headers, -, same⟩ := bind_eq_ok.mp built
          rw [pure_eq_ok] at same
          rw [← same]
        refine move_set (fun _ => rfl) fun d here => .inr ?_
        obtain rfl := Option.some.inj here
        rw [isOf]
        exact not_delivered_of_pending pending

/-- The work that follows a write: none once it has thrown. -/
theorem attempted_onceWritten {written : Except ServiceError Unit}
    {next : Delivering ⊕ Except ServiceError Json} {d : WebhookDelivery}
    (works : attempted (Work.next job ((onceWritten written next).map
      (.inl : Delivering → Delivering ⊕ π) id)) = some d) :
    attempted (Work.next job (next.map (.inl : Delivering → Delivering ⊕ π) id)) = some d := by
  rcases written with e | ⟨⟩
  · exact absurd works (by simp [onceWritten, Work.next, attempted])
  · exact works

theorem announce_move (fate : Fate) {request : WebhookRequest}
    (holds : p.fleet.workers w = .processing job (.inl (.announcing request))) :
    DeliveryMove p (.fleet (.process w (.inl (.announce fate))) : PoolEvent ε ω)
      (turnOf web other p w job (.inl (.announcing request)) (.inl (.announce fate))) := by
  have works : attempted (p.fleet.workers w) = some request.delivery := by rw [holds]; rfl
  have next : ∀ d, attempted (Work.next job ((sendingOut web other).turn job
      (.inl (.announcing request)) (.inl (.announce fate)) p.fleet.store).1) = some d →
        d = request.delivery :=
    fun d here => (Option.some.inj (attempted_onceWritten here)).symm
  rcases writeDelivery_store request.delivery.uuid announced announced_uuid fate p.fleet.store with
    same | ⟨-, -, same⟩
  · refine move_set (fun id => congrArg (fun t => delivered t.webhookDeliveries id) same)
      fun d here => .inl ?_
    rw [next d here]
    exact works
  · exact move_unmarks announced_uuid works (fun _ => rfl) next (congrArg (·.webhookDeliveries) same)

theorem send_move (answer : Answer) {request : WebhookRequest}
    (holds : p.fleet.workers w = .processing job (.inl (.sending request))) :
    DeliveryMove p (.fleet (.process w (.inl (.send answer))) : PoolEvent ε ω)
      (turnOf web other p w job (.inl (.sending request)) (.inl (.send answer))) := by
  refine move_set (fun _ => rfl) fun d here => .inl ?_
  rw [holds]
  exact here

/-- What an answer that is no success leaves. -/
theorem recorded_status {answer : Answer} (refused : answer.isOk = false) (d : WebhookDelivery) :
    (recorded answer d).status = .retrying := by
  cases answer with
  | threw message => rfl
  | responded status text =>
    unfold recorded
    dsimp only
    rw [refused, if_neg (by simp)]

theorem recorded_delivered {answer : Answer} (succeeds : answer.isOk = true)
    (d : WebhookDelivery) : (recorded answer d).status = .delivered := by
  cases answer with
  | threw message => exact absurd succeeds (by simp [Answer.isOk])
  | responded status text =>
    unfold recorded
    dsimp only
    rw [succeeds, if_pos rfl]

/-- **An attempt records its answer**: the delivery is marked, or to be sent once more. -/
theorem record_move (fate : Fate) {request : WebhookRequest} {answer : Answer}
    (holds : p.fleet.workers w = .processing job (.inl (.answered request answer))) :
    DeliveryMove p (.fleet (.process w (.inl (.record fate))) : PoolEvent ε ω)
      (turnOf web other p w job (.inl (.answered request answer)) (.inl (.record fate))) := by
  have works : attempted (p.fleet.workers w) = some request.delivery := by rw [holds]; rfl
  have idle : ∀ d, attempted (Work.next job ((sendingOut web other).turn job
      (.inl (.answered request answer)) (.inl (.record fate)) p.fleet.store).1) ≠ some d := by
    intro d here
    have none := attempted_onceWritten here
    rw [show (Sum.inr (outcome request.delivery answer)).map
      (.inl : Delivering → Delivering ⊕ π) id = .inr (outcome request.delivery answer) from rfl,
      attempted_next_over] at none
    exact absurd none (by simp)
  rcases writeDelivery_store request.delivery.uuid (recorded answer) (recorded_uuid answer) fate
    p.fleet.store with same | ⟨goes, ⟨row, found⟩, same⟩
  · exact move_set (fun id => congrArg (fun t => delivered t.webhookDeliveries id) same)
      fun d here => absurd here (idle d)
  · have written := congrArg (·.webhookDeliveries) same
    cases succeeds : answer.isOk with
    | false =>
      exact move_unmarks (recorded_uuid answer) works (recorded_status succeeds)
        (fun d here => absurd here (idle d)) written
    | true =>
      refine .marks w request.delivery.uuid ?_ ?_ (fun id other => ?_) fun id busy => ?_
      · simp [marks, holds, succeeds, goes]
      · refine (congrArg (fun deliveries => delivered deliveries _) written).trans ?_
        have here := Table.find?_update_self found (recorded answer) (recorded_uuid answer)
        unfold delivered
        dsimp only
        rw [here]
        exact beq_iff_eq.mpr (recorded_delivered succeeds row)
      · exact (congrArg (fun deliveries => delivered deliveries id) written).trans
          (delivered_update_of_ne (recorded_uuid answer) other)
      · rcases busy_set busy with ⟨d, here, -⟩ | beside
        · exact absurd here (idle d)
        · exact beside

/-- **The turn of a worker.** -/
theorem turn_move {state : Delivering ⊕ π} (e : DeliveryCall ⊕ ε)
    (holds : p.fleet.workers w = .processing job state) :
    DeliveryMove p (.fleet (.process w e) : PoolEvent ε ω) (turnOf web other p w job state e) := by
  -- An event that is not about the state of the worker leaves it as it is.
  have idles : ∀ e : DeliveryCall ⊕ ε, DeliveryMove p (.fleet (.process w e) : PoolEvent ε ω)
      { p with fleet := p.fleet.set w (Work.next job (.inl state)) p.fleet.store } :=
    fun e => move_set (fun _ => rfl) fun d here => .inl (by rw [holds]; exact here)
  cases state with
  | inr state =>
    cases e with
    | inl call => exact idles _
    | inr e =>
      refine move_set (fun id => other.turn_delivered job state e p.fleet.store id) fun d here => ?_
      rw [show ((sendingOut web other).turn job (.inr state) (.inr e) p.fleet.store).1 =
        (other.turn job state e p.fleet.store).1.map .inr id from rfl, attempted_next_inr] at here
      exact absurd here (by simp)
  | inl state =>
    cases e with
    | inr e => exact idles _
    | inl call =>
      cases state with
      | reading =>
        cases call with
        | read now answers => exact read_move now answers
        | announce fate => exact idles _
        | send answer => exact idles _
        | record fate => exact idles _
      | announcing request =>
        cases call with
        | announce fate => exact announce_move fate holds
        | read now answers => exact idles _
        | send answer => exact idles _
        | record fate => exact idles _
      | sending request =>
        cases call with
        | send answer => exact send_move answer holds
        | read now answers => exact idles _
        | announce fate => exact idles _
        | record fate => exact idles _
      | answered request answer =>
        cases call with
        | record fate => exact record_move fate holds
        | read now answers => exact idles _
        | announce fate => exact idles _
        | send answer => exact idles _

end Turns

section Steps

variable {rt : Runtime} {web : WebhookRuntime} {other : OtherWork π ε ω} {p : DeliveryPool π}

/-- A step that does nothing. -/
theorem DeliveryMove.refl (e : PoolEvent ε ω) : DeliveryMove p e p :=
  .stays (fun _ => rfl) fun _ busy => .inl busy

/-- A worker that is not on a delivery, over a store in which none is marked or unmarked. -/
theorem move_off {e : PoolEvent ε ω} {w : ℕ} {work : Work (Delivering ⊕ π)} {s : Store}
    (off : attempted work = none)
    (same : ∀ id, delivered s.webhookDeliveries id = delivered p.deliveries id) :
    DeliveryMove p e { p with fleet := p.fleet.set w work s } :=
  move_set same fun d here => by
    rw [off] at here
    exact absurd here (by simp)

/-- The end of an attempt, and what it writes on the deliveries. -/
theorem delivered_endAttempt {id : Uuid} {f : BackgroundJob → BackgroundJob}
    {keeps : ∀ j, (f j).uuid = j.uuid}
    {deliver : Table WebhookDelivery.uuid → Table WebhookDelivery.uuid} {event : DomainEvent}
    {s t : Store} {u : Unit} (ended : endAttempt id f keeps deliver event s = .ok (u, t))
    (spares : ∀ deliveries id, delivered (deliver deliveries) id = delivered deliveries id)
    (id : Uuid) : delivered t.webhookDeliveries id = delivered s.webhookDeliveries id := by
  obtain ⟨row, events, -, -, rfl⟩ := endAttempt_eq_ok.mp ended
  exact spares s.webhookDeliveries id

/-- **An error of a job** touches only those of its deliveries that are still to be sent. -/
theorem delivered_failedDeliveries (job : BackgroundJob) (error : ServiceError)
    (deliveries : Table WebhookDelivery.uuid) (id : Uuid) :
    delivered (failedDeliveries job error deliveries) id = delivered deliveries id := by
  unfold failedDeliveries
  split
  · refine delivered_updateMany (fun d hit => ⟨fun is => ?_, ?_⟩) id
    · rw [Bool.and_eq_true, is] at hit
      exact absurd hit.2 (by decide)
    · dsimp only
      split <;> simp
  · rfl

/-- **A dead-letter retry** touches only the deliveries that had failed. -/
theorem delivered_revivedDeliveries (existing : BackgroundJob)
    (deliveries : Table WebhookDelivery.uuid) (id : Uuid) :
    delivered (revivedDeliveries existing deliveries) id = delivered deliveries id := by
  unfold revivedDeliveries
  split
  · refine delivered_updateMany (fun d hit => ⟨fun is => ?_, by simp⟩) id
    rw [Bool.and_eq_true, is] at hit
    exact absurd hit.2 (by decide)
  · rfl

theorem fleet_move (e : FleetEvent (DeliveryCall ⊕ ε) ω) :
    DeliveryMove p (.fleet e)
      { p with fleet := p.fleet.step rt (sendingOut web other) e } := by
  cases e with
  | enqueue job event =>
    show DeliveryMove p _ { p with fleet := p.fleet.enqueue job event }
    unfold Fleet.enqueue
    split
    · rename_i response t inserted
      obtain ⟨-, jobs, events, -, -, rfl⟩ := Queue.insertJob_eq_ok.mp inserted
      exact move_store fun _ => rfl
    · exact .refl _
  | claim w now locked =>
    show DeliveryMove p _ { p with fleet := p.fleet.claim (sendingOut web other) w now locked }
    unfold Fleet.claim
    split
    · split
      · rename_i job t claims
        obtain ⟨row, -, -, -, -, rfl, rfl⟩ := claimNextJob_eq_some claims
        refine move_off ?_ fun _ => rfl
        show attempted (.processing (claimed row) (if (claimed row).type = .webhookDelivery then
          .inl .reading else .inr (other.start (claimed row)))) = none
        split <;> rfl
      · exact .refl _
    · exact .refl _
  | process w e =>
    show DeliveryMove p _ { p with fleet := p.fleet.process (sendingOut web other) w e }
    cases holds : p.fleet.workers w with
    | processing job state =>
      rw [Fleet.process_eq holds]
      exact turn_move e holds
    | idle | completing | failing | stopped =>
      rw [Fleet.process_of_not_processing fun job state => by rw [holds]; simp]
      exact .refl _
  | complete w env fate =>
    show DeliveryMove p _ { p with fleet := p.fleet.complete rt w env fate }
    unfold Fleet.complete
    split
    · split
      · exact move_off rfl fun _ => rfl
      · exact move_off rfl fun _ => rfl
      · rename_i t ended
        exact move_off rfl (delivered_endAttempt ended fun _ _ => rfl)
      · rename_i t ended
        exact move_off rfl (delivered_endAttempt ended fun _ _ => rfl)
    · exact .refl _
  | fail w env fate =>
    show DeliveryMove p _ { p with fleet := p.fleet.fail rt w env fate }
    unfold Fleet.fail
    split
    · rename_i job error holds
      have spares := delivered_failedDeliveries job error
      split
      · exact move_off rfl fun _ => rfl
      · exact move_off rfl fun _ => rfl
      · rename_i t ended
        exact move_off rfl (delivered_endAttempt ended spares)
      · rename_i t ended
        exact move_off rfl (delivered_endAttempt ended spares)
    · exact .refl _
  | crash w => exact move_off rfl fun _ => rfl
  | retryCheck id =>
    show DeliveryMove p _ { p with fleet := p.fleet.retryCheck id }
    unfold Fleet.retryCheck
    split
    · exact .stays (fun _ => rfl) fun _ busy => .inl busy
    · exact .refl _
  | retryCommit k now eventUuid =>
    show DeliveryMove p _ { p with fleet := p.fleet.retryCommit k now eventUuid }
    unfold Fleet.retryCommit
    split
    · exact .refl _
    · rename_i existing inFlight
      split
      · rename_i t ended
        exact .stays (delivered_endAttempt ended (delivered_revivedDeliveries existing))
          fun _ busy => .inl busy
      · exact .stays (fun _ => rfl) fun _ busy => .inl busy
  | retryAbort k => exact .stays (fun _ => rfl) fun _ busy => .inl busy
  | outside o => exact move_store fun id => other.outside_delivered o p.fleet.store id

/-- The retries in flight once one of them is over. -/
theorem busy_of_erased {fleet : Fleet (Delivering ⊕ π)} {k : ℕ} {id : Uuid}
    (workers : fleet.workers = p.fleet.workers)
    (busy : Busy { fleet := fleet, retries := p.retries.eraseIdx k } id) : Busy p id := by
  rcases busy with ⟨w, d, works, same⟩ | ⟨d, inside, same⟩
  · exact .inl ⟨w, d, by rw [← workers]; exact works, same⟩
  · exact .inr ⟨d, List.mem_of_mem_eraseIdx inside, same⟩

/-- **A retry has read** a delivery that is not delivered. -/
theorem retryDeliveryCheck_eq_ok {id : Uuid} {s : Store} {existing : WebhookDelivery}
    (checked : retryDeliveryCheck id s = .ok existing) :
    delivered s.webhookDeliveries existing.uuid = false := by
  unfold retryDeliveryCheck at checked
  obtain ⟨row, found, rest⟩ := bind_eq_ok.mp checked
  obtain ⟨⟨⟩, meets, same⟩ := bind_eq_ok.mp rest
  rw [pure_eq_ok] at same
  subst same
  rw [orThrow_eq_ok] at found
  rw [Table.find?_key found]
  unfold delivered
  rw [found]
  exact beq_eq_false_iff_ne.mpr (bne_iff_ne.mp (require_eq_ok.mp meets))

/-- **A retry writes** the delivery that it has read. -/
theorem retryDeliveryCommit_eq_ok {env : RetryEnv} {existing : WebhookDelivery} {s t : Store}
    {u : Unit} (committed : retryDeliveryCommit env existing s = .ok (u, t)) :
    t.webhookDeliveries = s.webhookDeliveries.update existing.uuid (retried env) fun _ => rfl := by
  unfold retryDeliveryCommit at committed
  obtain ⟨⟨response, s'⟩, inserted, rest⟩ := bind_eq_ok.mp committed
  obtain ⟨⟨delivery, deliveries⟩, updated, same⟩ := bind_eq_ok.mp rest
  obtain ⟨-, jobs, events, -, -, rfl⟩ := Queue.insertJob_eq_ok.mp inserted
  obtain ⟨row, -, -, rfl⟩ := updateRow_eq_ok.mp updated
  rw [pure_eq_ok] at same
  exact congrArg (·.2.webhookDeliveries) same.symm

/-- **The inversion lemma**: every step is one of the moves. -/
theorem step_move (rt : Runtime) (web : WebhookRuntime) (other : OtherWork π ε ω)
    (p : DeliveryPool π) (e : PoolEvent ε ω) : DeliveryMove p e (p.step rt web other e) := by
  cases e with
  | fleet e => exact fleet_move e
  | retryCheck id =>
    show DeliveryMove p _ (p.retryCheck id)
    unfold DeliveryPool.retryCheck
    split
    · rename_i existing checked
      refine .stays (fun _ => rfl) fun id' busy => ?_
      rcases busy with works | ⟨d, inside, rfl⟩
      · exact .inl (.inl works)
      · rcases List.mem_append.mp inside with before | new
        · exact .inl (.inr ⟨d, before, rfl⟩)
        · rw [List.mem_singleton.mp new]
          exact .inr (retryDeliveryCheck_eq_ok checked)
    · exact .refl _
  | retryCommit k env =>
    show DeliveryMove p _ (p.retryCommit k env)
    unfold DeliveryPool.retryCommit
    split
    · exact .refl _
    · rename_i existing inFlight
      split
      · rename_i t committed
        have written := retryDeliveryCommit_eq_ok committed
        refine .unmarks existing.uuid (.inr ⟨existing, List.mem_of_getElem? inFlight, rfl⟩) ?_
          (fun id other => ?_) fun id busy => busy_of_erased rfl busy
        · show delivered t.webhookDeliveries existing.uuid = false
          rw [written]
          exact delivered_update_self (f := retried env) (fun _ => rfl) fun _ => rfl
        · show delivered t.webhookDeliveries id = _
          rw [written]
          exact delivered_update_of_ne (f := retried env) (fun _ => rfl) other
      · exact .stays (fun _ => rfl) fun id busy => .inl (busy_of_erased rfl busy)
  | retryAbort k => exact .stays (fun _ => rfl) fun id busy => .inl (busy_of_erased rfl busy)

/-! ### Runs -/

/-- **A step leaves nobody at work on a delivered delivery**, if a delivery is marked by the only one
at work on it. -/
theorem undisturbed_step {e : PoolEvent ε ω} (undisturbed : Undisturbed p) (alone : Alone p e) :
    Undisturbed (p.step rt web other e) := by
  intro id is busy
  cases step_move rt web other p e with
  | stays same began =>
    rw [same] at is
    rcases began id busy with before | fresh
    · exact undisturbed id is before
    · rw [fresh] at is
      exact absurd is (by simp)
  | unmarks id' worked now same fewer =>
    by_cases here : id = id'
    · rw [here, now] at is
      exact absurd is (by simp)
    · rw [same id here] at is
      exact undisturbed id is (fewer id busy)
  | marks w id' marked now same fewer =>
    by_cases here : id = id'
    · subst here
      exact alone w id marked (fewer id busy)
    · rw [same id here] at is
      exact undisturbed id is (fewer id busy).busy

/-- Whoever sends a request is at work on its delivery. -/
theorem busy_of_sends {e : PoolEvent ε ω} {id : Uuid} (sent : sends id p e = true) : Busy p id := by
  unfold sends at sent
  split at sent
  · rename_i w answer
    split at sent
    · rename_i job request holds
      exact .inl ⟨w, request.delivery, by rw [holds]; rfl, beq_iff_eq.mp sent⟩
    · exact absurd sent (by simp)
  · exact absurd sent (by simp)

/-- A delivered delivery that nobody is at work on stays so. -/
theorem final_of_undisturbed {e : PoolEvent ε ω} (undisturbed : Undisturbed p) :
    Final rt web other p e := by
  intro id is
  refine ⟨?_, Bool.eq_false_iff.mpr fun sent => undisturbed id is (busy_of_sends sent)⟩
  cases step_move rt web other p e with
  | stays same began =>
    rw [same]
    exact is
  | unmarks id' worked now same fewer =>
    have away : id ≠ id' := by
      rintro rfl
      exact undisturbed id is worked
    rw [same id away]
    exact is
  | marks w id' marked now same fewer =>
    by_cases here : id = id'
    · rw [here]
      exact now
    · rw [same id here]
      exact is

end Steps

/-- `processDeferredIntegration`, beside which nothing happens. -/
def quiet : OtherWork Unit Unit Unit where
  toProcessing := deferred
  turn_delivered _ _ _ _ _ := rfl
  outside_delivered _ _ _ := rfl

/-- A runtime to evaluate on. -/
def WebhookRuntime.plain : WebhookRuntime where
  format := .plain
  decipher _ _ encrypted := some encrypted
  hmacSha256 secret s := "hmac:" ++ secret ++ ":" ++ s
  secret := some "whsec_test"

/-- A delivery to be sent. -/
def delivery : WebhookDelivery where
  uuid := "60000000-0000-4000-8000-000000000001"
  jobId := some "70000000-0000-4000-8000-000000000001"
  institutionId := none
  webhookEndpointId := none
  targetUrl := "https://school.test/acadid"
  eventType := "result_batch.published"
  payload := .obj []
  status := .pending
  attempts := 0
  lastStatusCode := none
  lastError := none

/-- A store with the delivery, and its job. -/
def queued : Store :=
  { Store.empty with
    backgroundJobs :=
      { rows := [webhookJob
          { now := 0
            jobUuid := "70000000-0000-4000-8000-000000000001"
            eventUuid := "80000000-0000-4000-8000-000000000001" } delivery]
        nodup := List.nodup_singleton _ }
    webhookDeliveries :=
      { rows := [delivery]
        nodup := List.nodup_singleton _ } }

/-- A worker claims the job and announces its attempt. -/
def announcedOnce : List (PoolEvent Unit Unit) :=
  [.fleet (.claim 0 1 []), .fleet (.process 0 (.inl (.read 1 true))),
    .fleet (.process 0 (.inl (.announce .done)))]

/-- The target accepts the request. -/
def accepted : List (PoolEvent Unit Unit) :=
  [.fleet (.process 0 (.inl (.send (.responded 200 "")))),
    .fleet (.process 0 (.inl (.record .done)))]

/-- A retry checks the delivery while it is sent, and is written once it is delivered. -/
def retriedLate : List (PoolEvent Unit Unit) :=
  announcedOnce ++ [.retryCheck delivery.uuid] ++ accepted ++
    [.retryCommit 0
      { now := 2
        jobUuid := "70000000-0000-4000-8000-000000000002"
        eventUuid := "80000000-0000-4000-8000-000000000002" }]

end WebhookDeliveries

end AcadID
