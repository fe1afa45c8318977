/-
**Webhook endpoints: secrets that are rotated and endpoints that are disabled under deliveries in
flight.**

An attempt reads an endpoint once, signs its request under the secret it has read, and sends the
request later; an administrator may change the endpoint in between.

* `endpointCheck` and `endpointCommit` — `createWebhookEndpoint`, `rotateWebhookEndpointSecret` and
  `updateWebhookEndpointStatus`: what they check, and what they write.
* `accepts` — the receiver's test of a request, under the secret that the endpoint has now.
* `refused_le` — **each worker sends at most one request that the receiver refuses for each change of
  the endpoint**, and one for a request that it held before.
* `disabled_le` — **once an endpoint is not active, each worker sends one more request to it at
  most**, and none unless it has signed it already.
-/

import AcadID.Jobs.WebhookDeliveries

namespace AcadID

open Lib

namespace WebhookEndpoints

open JobWorker WebhookDeliveries

variable {π ε ω : Type}

/-! ### The operations -/

/-- What the runtime and the database give an operation. -/
structure EndpointEnv where
  endpointUuid : Uuid
  /-- `whsec_` and 32 random bytes in base64url. -/
  secret : String
  /-- AES-256-GCM of a text under the key of webhook secrets, with a nonce drawn for it. -/
  encrypt : String → String
  /-- `new URL(text).protocol`, unless it throws. -/
  protocol : String → Option String

inductive EndpointCall where
  | create (env : EndpointEnv) (auth : AuthTokenPayload) (institutionId : Uuid) (input : Json)
  | rotate (env : EndpointEnv) (auth : AuthTokenPayload) (id : Uuid)
  | updateStatus (auth : AuthTokenPayload) (id : Uuid) (status : String)

/-- The label and the target of a new endpoint. -/
structure EndpointInput where
  label : String
  targetUrl : String

inductive EndpointPlan where
  | create (env : EndpointEnv) (auth : AuthTokenPayload) (institutionId : Uuid)
      (input : EndpointInput)
  | rotate (env : EndpointEnv) (auth : AuthTokenPayload) (id : Uuid)
  | updateStatus (auth : AuthTokenPayload) (id : Uuid) (status : WebhookEndpointStatus)

/-- The endpoint, and a secret that is shown once. -/
structure EndpointResponse where
  endpoint : WebhookEndpoint
  secret : Option String

/-- A text of the body, trimmed; empty if it is none. -/
def trimmedField (input : Json) (field : String) : String :=
  match input.get? field with
  | some (.str text) => Text.trim text
  | _ => ""

def parseWebhookEndpointInput (rt : Runtime) (env : EndpointEnv) (input : Json) :
    Except ServiceError EndpointInput := do
  let label := trimmedField input "label"
  let targetUrl := trimmedField input "targetUrl"
  require (label != "" && Text.utf16Length label ≤ 120)
    (.badRequest "Webhook endpoint label is required and must be 120 characters or fewer.")
  -- A target that must not be used is refused like one that is no URL.
  require ((env.protocol targetUrl).any fun protocol =>
      (protocol == "https:" || rt.env "NODE_ENV" != some "production") &&
        ["https:", "http:"].contains protocol)
    (.badRequest "Webhook endpoint targetUrl must be a valid HTTP or HTTPS URL.")
  return { label := label, targetUrl := targetUrl }

def endpointStatuses : List (String × WebhookEndpointStatus) :=
  [("ACTIVE", .active), ("SUSPENDED", .suspended), ("DISABLED", .disabled)]

def endpointCheck (rt : Runtime) (call : EndpointCall) (s : Store) :
    Except ServiceError EndpointPlan :=
  match call with
  | .create env auth institutionId input => do
    let input ← parseWebhookEndpointInput rt env input
    let institution ← orThrow (s.institutions.find? institutionId)
      (.badRequest "Institution not found.")
    return .create env auth institution.uuid input
  | .rotate env auth id => do
    let _ ← orThrow (s.webhookEndpoints.find? id) (.badRequest "Webhook endpoint not found.")
    return .rotate env auth id
  | .updateStatus auth id status => do
    let status ← orThrow (endpointStatuses.lookup status)
      (.badRequest "Webhook endpoint status must be ACTIVE, SUSPENDED, or DISABLED.")
    return .updateStatus auth id status

def newEndpoint (env : EndpointEnv) : WebhookEndpoint where
  uuid := env.endpointUuid
  secretEncrypted := env.encrypt env.secret
  status := .active

def rotated (env : EndpointEnv) (endpoint : WebhookEndpoint) : WebhookEndpoint :=
  { endpoint with secretEncrypted := env.encrypt env.secret }

theorem rotated_uuid (env : EndpointEnv) (endpoint : WebhookEndpoint) :
    (rotated env endpoint).uuid = endpoint.uuid := rfl

def withStatus (status : WebhookEndpointStatus) (endpoint : WebhookEndpoint) : WebhookEndpoint :=
  { endpoint with status := status }

theorem withStatus_uuid (status : WebhookEndpointStatus) (endpoint : WebhookEndpoint) :
    (withStatus status endpoint).uuid = endpoint.uuid := rfl

def endpointCommit (plan : EndpointPlan) (s : Store) :
    Except ServiceError (EndpointResponse × Store) :=
  match plan with
  | .create env _ _ _ => do
    let webhookEndpoints ← insertUnique s.webhookEndpoints (newEndpoint env)
    return (⟨newEndpoint env, some env.secret⟩, { s with webhookEndpoints := webhookEndpoints })
  | .rotate env _ id => do
    let (endpoint, webhookEndpoints) ← updateRow s.webhookEndpoints id (rotated env)
      (rotated_uuid env)
    return (⟨endpoint, some env.secret⟩, { s with webhookEndpoints := webhookEndpoints })
  | .updateStatus _ id status => do
    let (endpoint, webhookEndpoints) ← updateRow s.webhookEndpoints id (withStatus status)
      (withStatus_uuid status)
    return (⟨endpoint, none⟩, { s with webhookEndpoints := webhookEndpoints })

/-- The endpoint that a plan writes. -/
def EndpointPlan.target : EndpointPlan → Uuid
  | .create env _ _ _ => env.endpointUuid
  | .rotate _ _ id => id
  | .updateStatus _ id _ => id

/-! ### The receiver -/

/-- A header of a request. -/
def header (name : String) (request : WebhookRequest) : Option String :=
  request.headers.lookup name

/-- **The receiver's test of a request**: the endpoint is active, and the signature is that of the
timestamp, the delivery and the body under its secret. -/
def accepts (web : WebhookRuntime) (endpoint : WebhookEndpoint) (request : WebhookRequest) : Bool :=
  endpoint.status == .active &&
    match decrypt web endpoint.secretEncrypted, header "x-acadid-timestamp" request,
        header "x-acadid-delivery" request with
    | .ok secret, some timestamp, some deliveryId =>
      header "x-acadid-signature" request ==
        some ("v1=" ++
          web.hmacSha256 secret (timestamp ++ "." ++ deliveryId ++ "." ++ request.body))
    | _, _, _ => false

/-- **A request passes the test of the endpoint it was built for.** -/
theorem accepts_of_built {web : WebhookRuntime} {now : Time} {delivery : WebhookDelivery}
    {s : Store} {request : WebhookRequest} {id : Uuid} {endpoint : WebhookEndpoint}
    (built : buildRequest web now delivery s = .ok request)
    (named : delivery.webhookEndpointId = some id)
    (found : s.webhookEndpoints.find? id = some endpoint) :
    accepts web endpoint request = true := by
  unfold buildRequest at built
  obtain ⟨headers, signed, same⟩ := bind_eq_ok.mp built
  obtain rfl := pure_eq_ok.mp same
  rw [named, Option.bind_some, found] at signed
  unfold buildWebhookHeaders at signed
  obtain ⟨resolved, resolves, rest⟩ := bind_eq_ok.mp signed
  obtain ⟨secret, holds, same⟩ := bind_eq_ok.mp rest
  obtain rfl := pure_eq_ok.mp same
  obtain ⟨_, active, rest⟩ := bind_eq_ok.mp resolves
  obtain ⟨key, decrypted, same⟩ := bind_eq_ok.mp rest
  obtain rfl := pure_eq_ok.mp same
  have is := orThrow_eq_ok.mp holds
  obtain rfl := Option.some.inj (Option.filter_eq_some_iff.mp is).1
  unfold accepts
  rw [require_eq_ok.mp active, decrypted, Bool.true_and]
  exact beq_self_eq_true (some ("v1=" ++ web.hmacSha256 key
    (toString (now / 1000) ++ "." ++ delivery.uuid ++ "." ++
      serializeWebhookBody web now delivery (delivery.attempts + 1))))

/-! ### The machine -/

/-- Other work, which writes no endpoint. -/
structure Beside (π ε ω : Type) extends OtherWork π ε ω where
  turn_endpoints : ∀ job state e s,
    (turn job state e s).2.webhookEndpoints = s.webhookEndpoints
  outside_endpoints : ∀ o s, (outside o s).webhookEndpoints = s.webhookEndpoints

/-- The transaction of an operation on an endpoint, in whatever state it is made. -/
def act (plan : EndpointPlan) (s : Store) : Store :=
  match endpointCommit plan s with
  | .ok (_, t) => t
  | .error _ => s

/-- **What an operation writes**: its endpoint, and nothing else. -/
theorem act_spec (plan : EndpointPlan) (s : Store) :
    ∃ endpoints, act plan s = { s with webhookEndpoints := endpoints } ∧
      ∀ id, plan.target ≠ id → endpoints.find? id = s.webhookEndpoints.find? id := by
  unfold act
  split
  · rename_i res t committed
    cases plan with
    | create env auth institutionId input =>
      obtain ⟨endpoints, inserted, same⟩ := bind_eq_ok.mp committed
      obtain ⟨-, rfl⟩ := Prod.mk.inj (pure_eq_ok.mp same)
      refine ⟨endpoints, rfl, fun id other => ?_⟩
      exact (Table.find?_insert (orThrow_eq_ok.mp inserted) id).trans (if_neg other)
    | rotate env auth key =>
      obtain ⟨⟨endpoint, endpoints⟩, updated, same⟩ := bind_eq_ok.mp committed
      obtain ⟨-, rfl⟩ := Prod.mk.inj (pure_eq_ok.mp same)
      obtain ⟨row, -, -, rfl⟩ := updateRow_eq_ok.mp updated
      refine ⟨_, rfl, fun id other => ?_⟩
      exact (Table.find?_update _ key (rotated env) (rotated_uuid env) id).trans (if_neg other)
    | updateStatus auth key status =>
      obtain ⟨⟨endpoint, endpoints⟩, updated, same⟩ := bind_eq_ok.mp committed
      obtain ⟨-, rfl⟩ := Prod.mk.inj (pure_eq_ok.mp same)
      obtain ⟨row, -, -, rfl⟩ := updateRow_eq_ok.mp updated
      refine ⟨_, rfl, fun id other => ?_⟩
      exact (Table.find?_update _ key (withStatus status) (withStatus_uuid status) id).trans
        (if_neg other)
  · exact ⟨s.webhookEndpoints, rfl, fun _ _ => rfl⟩

/-- The operations on endpoints, beside all other work. -/
def withEndpoints (other : Beside π ε ω) : OtherWork π ε (EndpointPlan ⊕ ω) where
  start := other.start
  turn := other.turn
  outside o s :=
    match o with
    | .inl plan => act plan s
    | .inr o => other.outside o s
  turn_jobs := other.turn_jobs
  outside_jobs o s := by
    cases o with
    | inl plan =>
      obtain ⟨endpoints, same, -⟩ := act_spec plan s
      show (act plan s).backgroundJobs = s.backgroundJobs
      rw [same]
    | inr o => exact other.outside_jobs o s
  turn_delivered := other.turn_delivered
  outside_delivered o s id := by
    cases o with
    | inl plan =>
      obtain ⟨endpoints, same, -⟩ := act_spec plan s
      show delivered (act plan s).webhookDeliveries id = delivered s.webhookDeliveries id
      rw [same]
    | inr o => exact other.outside_delivered o s id

/-! ### The property -/

/-- The request that a worker has signed and is still to send. -/
def signed : Work (Delivering ⊕ π) → Option WebhookRequest
  | .processing _ (.inl (.announcing request)) => some request
  | .processing _ (.inl (.sending request)) => some request
  | _ => none

/-- The request that a step sends, by the worker. -/
def sent (w : ℕ) (p : DeliveryPool π) (e : PoolEvent ε ω) : Option WebhookRequest :=
  match e with
  | .fleet (.process w' (.inl (.send _))) =>
    match p.fleet.workers w' with
    | .processing _ (.inl (.sending request)) => if w' = w then some request else none
    | _ => none
  | _ => none

/-- The request is for the endpoint. -/
def goesTo (id : Uuid) (request : WebhookRequest) : Bool :=
  request.delivery.webhookEndpointId == some id

/-- The request is for the endpoint, whose receiver refuses it as the endpoint is now. -/
def refused (web : WebhookRuntime) (id : Uuid) (s : Store) (request : WebhookRequest) : Bool :=
  goesTo id request && (s.webhookEndpoints.find? id).any fun endpoint =>
    !accepts web endpoint request

/-- The worker sends a request that the receiver refuses. -/
def SendsRefused (web : WebhookRuntime) (w : ℕ) (id : Uuid) (p : DeliveryPool π)
    (e : PoolEvent ε ω) : Prop :=
  (sent w p e).any (refused web id p.fleet.store) = true

/-- The worker sends a request to the endpoint. -/
def SendsTo (w : ℕ) (id : Uuid) (p : DeliveryPool π) (e : PoolEvent ε ω) : Prop :=
  (sent w p e).any (goesTo id) = true

instance (web : WebhookRuntime) (w : ℕ) (id : Uuid) (p : DeliveryPool π) (e : PoolEvent ε ω) :
    Decidable (SendsRefused web w id p e) :=
  inferInstanceAs (Decidable (_ = true))

instance (w : ℕ) (id : Uuid) (p : DeliveryPool π) (e : PoolEvent ε ω) :
    Decidable (SendsTo w id p e) :=
  inferInstanceAs (Decidable (_ = true))

/-- The requests in hand of the worker that the receiver refuses: one, or none. -/
def inHand (web : WebhookRuntime) (w : ℕ) (id : Uuid) (p : DeliveryPool π) : ℕ :=
  if (signed (p.fleet.workers w)).any (refused web id p.fleet.store) then 1 else 0

/-- The changes of the endpoint that an event makes. -/
def changes (id : Uuid) : PoolEvent ε (EndpointPlan ⊕ ω) → ℕ
  | .fleet (.outside (.inl plan)) => if plan.target = id then 1 else 0
  | _ => 0

/-! ### What a step may do -/

section Step

variable {rt : Runtime} {web : WebhookRuntime} {other : Beside π ε ω} {p : DeliveryPool π}

theorem writeDelivery_endpoints (id : Uuid) (f : WebhookDelivery → WebhookDelivery)
    (keeps : ∀ d, (f d).uuid = d.uuid) (fate : Fate) (s : Store) :
    (writeDelivery id f keeps fate s).2.webhookEndpoints = s.webhookEndpoints := by
  rcases writeDelivery_store id f keeps fate s with same | ⟨-, -, same⟩ <;> rw [same]

theorem deliveryTurn_endpoints (web : WebhookRuntime) (job : BackgroundJob) (state : Delivering)
    (call : DeliveryCall) (s : Store) :
    (deliveryTurn web job state call s).2.webhookEndpoints = s.webhookEndpoints := by
  unfold deliveryTurn
  split
  · split
    · split
      · rfl
      · split <;> rfl
    · rfl
  · exact writeDelivery_endpoints _ _ _ _ s
  · rfl
  · exact writeDelivery_endpoints _ _ _ _ s
  · rfl

/-- **What the worker may have signed after a step**: nothing, what it had signed, unless it has just
sent it, or a request that the receiver accepts. -/
structure Signs (web : WebhookRuntime) (w : ℕ) (p : DeliveryPool π) (e : PoolEvent ε ω)
    (p' : DeliveryPool π) : Prop where
  endpoints : ∀ id, p'.fleet.store.webhookEndpoints.find? id =
    p.fleet.store.webhookEndpoints.find? id
  inHand : ∀ request, signed (p'.fleet.workers w) = some request →
    (signed (p.fleet.workers w) = some request ∧ sent w p e = none) ∨
      ∀ id, refused web id p.fleet.store request = false

variable {w w' : ℕ} {e : PoolEvent ε (EndpointPlan ⊕ ω)}

/-- A step that moves no worker on and writes no endpoint. -/
theorem signs_store {p' : DeliveryPool π} (workers : p'.fleet.workers = p.fleet.workers)
    (endpoints : p'.fleet.store.webhookEndpoints = p.fleet.store.webhookEndpoints)
    (unsent : sent w p e = none) : Signs web w p e p' := by
  refine ⟨fun id => by rw [endpoints], fun request holds => .inl ⟨?_, unsent⟩⟩
  rw [← workers]
  exact holds

/-- A step that moves one worker on. -/
theorem signs_set {work : Work (Delivering ⊕ π)} {s : Store}
    (endpoints : s.webhookEndpoints = p.fleet.store.webhookEndpoints)
    (away : w ≠ w' → sent w p e = none)
    (here : ∀ request, signed work = some request →
      (signed (p.fleet.workers w') = some request ∧ sent w' p e = none) ∨
        ∀ id, refused web id p.fleet.store request = false) :
    Signs web w p e { p with fleet := p.fleet.set w' work s } := by
  refine ⟨fun id => by rw [← endpoints]; rfl, fun request holds => ?_⟩
  have moved := Fleet.workers_set p.fleet w' work s w
  dsimp only at holds
  rw [moved] at holds
  by_cases same : w = w'
  · subst same
    rw [if_pos rfl] at holds
    exact here request holds
  · rw [if_neg same] at holds
    exact .inl ⟨holds, away same⟩

/-- The turn is that of a request which is sent. -/
def isSend : Delivering → DeliveryCall → Bool
  | .sending _, .send _ => true
  | _, _ => false

/-- A worker whose delivery is over has nothing signed. -/
theorem signed_over (job : BackgroundJob) (result : Except ServiceError Json) :
    signed (Work.next job (.inr result : (Delivering ⊕ π) ⊕ _)) = none := by
  rcases result with error | result <;> rfl

/-- **What an attempt has signed after a turn**: what it had signed, unless the turn sent it, or a
request that it has just built. -/
theorem signed_deliveryTurn {job : BackgroundJob} {state : Delivering} {call : DeliveryCall}
    {s : Store} {request : WebhookRequest}
    (holds : signed (Work.next job ((deliveryTurn web job state call s).1.map
      (.inl : Delivering → Delivering ⊕ π) id)) = some request) :
    (signed (.processing job (.inl state) : Work (Delivering ⊕ π)) = some request ∧
        isSend state call = false) ∨
      ∃ now delivery, buildRequest web now delivery s = .ok request := by
  have ended : ∀ result : Except ServiceError Json,
      signed (Work.next job (.inr result : (Delivering ⊕ π) ⊕ _)) ≠ some request := by
    intro result here
    rw [signed_over] at here
    exact absurd here (by simp)
  cases state with
  | reading =>
    cases call with
    | read now answers =>
      unfold deliveryTurn at holds
      dsimp only at holds
      split at holds
      · split at holds
        · exact absurd holds (ended _)
        · split at holds
          · rename_i request' built
            obtain rfl : request' = request := Option.some.inj holds
            exact .inr ⟨now, _, built⟩
          · exact absurd holds (ended _)
      · exact absurd holds (ended _)
    | announce fate => exact .inl ⟨holds, rfl⟩
    | send answer => exact .inl ⟨holds, rfl⟩
    | record fate => exact .inl ⟨holds, rfl⟩
  | announcing request' =>
    cases call with
    | announce fate =>
      unfold deliveryTurn at holds
      dsimp only at holds
      generalize (writeDelivery _ _ _ fate s).1 = written at holds
      cases written with
      | ok u => exact .inl ⟨holds, rfl⟩
      | error e => exact absurd holds (ended _)
    | read now answers => exact .inl ⟨holds, rfl⟩
    | send answer => exact .inl ⟨holds, rfl⟩
    | record fate => exact .inl ⟨holds, rfl⟩
  | sending request' =>
    cases call with
    | send answer => exact absurd holds (by simp [deliveryTurn, Work.next, signed])
    | read now answers => exact .inl ⟨holds, rfl⟩
    | announce fate => exact .inl ⟨holds, rfl⟩
    | record fate => exact .inl ⟨holds, rfl⟩
  | answered request' answer =>
    cases call with
    | record fate =>
      unfold deliveryTurn at holds
      dsimp only at holds
      generalize (writeDelivery _ _ _ fate s).1 = written at holds
      cases written with
      | ok u => exact absurd holds (ended _)
      | error e => exact absurd holds (ended _)
    | read now answers => exact .inl ⟨holds, rfl⟩
    | announce fate => exact .inl ⟨holds, rfl⟩
    | send answer => exact .inl ⟨holds, rfl⟩

/-- A request that has just been built is not refused. -/
theorem not_refused_of_built {now : Time} {delivery : WebhookDelivery} {s : Store}
    {request : WebhookRequest} (built : buildRequest web now delivery s = .ok request) (id : Uuid) :
    refused web id s request = false := by
  have isOf : request.delivery = delivery := by
    unfold buildRequest at built
    obtain ⟨headers, -, same⟩ := bind_eq_ok.mp built
    rw [← pure_eq_ok.mp same]
  unfold refused goesTo
  rw [isOf]
  by_cases named : delivery.webhookEndpointId = some id
  · cases found : s.webhookEndpoints.find? id with
    | none => simp
    | some endpoint => simp [accepts_of_built built named found]
  · simp [named]

/-- **The turn of a worker.** -/
theorem signs_turn {job : BackgroundJob} {state : Delivering ⊕ π} (e : DeliveryCall ⊕ ε)
    (holds : p.fleet.workers w' = .processing job state) :
    Signs web w p (.fleet (.process w' e) : PoolEvent ε (EndpointPlan ⊕ ω))
      (turnOf web (withEndpoints other) p w' job state e) := by
  have away : w ≠ w' →
      sent w p (.fleet (.process w' e) : PoolEvent ε (EndpointPlan ⊕ ω)) = none := by
    intro other
    unfold sent
    split
    · rename_i is
      obtain ⟨rfl, -⟩ := FleetEvent.process.inj (PoolEvent.fleet.inj is)
      split
      · rw [if_neg (Ne.symm other)]
      · rfl
    · rfl
  cases state with
  | inr state =>
    cases e with
    | inl call =>
      refine signs_set rfl away fun request here => ?_
      exact absurd here (by simp [sendingOut, Processing.beside, Work.next, signed])
    | inr e =>
      refine signs_set (other.turn_endpoints job state e p.fleet.store) away fun request here => ?_
      have next : ∀ turned : π ⊕ Except ServiceError Json,
          signed (Work.next job (turned.map (.inr : π → Delivering ⊕ π) id)) = none := by
        intro turned
        rcases turned with state | result | error <;> rfl
      exact absurd (here.symm.trans (next (other.turn job state e p.fleet.store).1)) (by simp)
  | inl state =>
    cases e with
    | inr e =>
      refine signs_set rfl away fun request here => .inl ⟨by rw [holds]; exact here, rfl⟩
    | inl call =>
      refine signs_set (deliveryTurn_endpoints web job state call p.fleet.store) away
        fun request here => ?_
      rcases signed_deliveryTurn here with ⟨before, unsent⟩ | ⟨now, delivery, built⟩
      · refine .inl ⟨by rw [holds]; exact before, ?_⟩
        unfold sent
        split
        · rename_i is
          obtain ⟨rfl, same⟩ := FleetEvent.process.inj (PoolEvent.fleet.inj is)
          obtain rfl := Sum.inl.inj same
          split
          · rename_i working
            rw [holds] at working
            obtain ⟨-, same⟩ := Work.processing.inj working
            obtain rfl := Sum.inl.inj same
            exact absurd unsent (by simp [isSend])
          · rfl
        · rfl
      · exact .inr fun id => not_refused_of_built built id

/-- The end of an attempt writes no endpoint. -/
theorem endpoints_of_endAttempt {id : Uuid} {f : BackgroundJob → BackgroundJob}
    {keeps : ∀ j, (f j).uuid = j.uuid}
    {deliver : Table WebhookDelivery.uuid → Table WebhookDelivery.uuid} {event : DomainEvent}
    {s t : Store} {u : Unit} (ended : endAttempt id f keeps deliver event s = .ok (u, t)) :
    t.webhookEndpoints = s.webhookEndpoints := by
  obtain ⟨row, events, -, -, rfl⟩ := endAttempt_eq_ok.mp ended
  rfl

/-- A worker that is on no request. -/
theorem signs_off {work : Work (Delivering ⊕ π)} {s : Store}
    (endpoints : s.webhookEndpoints = p.fleet.store.webhookEndpoints)
    (unsent : sent w p e = none) (off : signed work = none) :
    Signs web w p e { p with fleet := p.fleet.set w' work s } :=
  signs_set endpoints (fun _ => unsent) fun request here => by
    rw [off] at here
    exact absurd here (by simp)

/-- **A step of the fleet**, other than an operation on an endpoint. -/
theorem signs_fleet (e : FleetEvent (DeliveryCall ⊕ ε) (EndpointPlan ⊕ ω))
    (besides : ∀ plan, e ≠ .outside (.inl plan)) :
    Signs web w p (.fleet e)
      { p with fleet := p.fleet.step rt (sendingOut web (withEndpoints other)) e } := by
  cases e with
  | enqueue job event =>
    show Signs web w p _ { p with fleet := p.fleet.enqueue job event }
    unfold Fleet.enqueue
    split
    · rename_i response t inserted
      obtain ⟨-, jobs, events, -, -, rfl⟩ := Queue.insertJob_eq_ok.mp inserted
      exact signs_store rfl rfl rfl
    · exact signs_store rfl rfl rfl
  | claim w' now locked =>
    show Signs web w p _ { p with fleet := p.fleet.claim _ w' now locked }
    unfold Fleet.claim
    split
    · split
      · rename_i job t claims
        obtain ⟨row, -, -, -, -, rfl, rfl⟩ := claimNextJob_eq_some claims
        refine signs_off rfl rfl ?_
        unfold sendingOut Processing.beside
        dsimp only
        split <;> rfl
      · exact signs_store rfl rfl rfl
    · exact signs_store rfl rfl rfl
  | process w' e =>
    show Signs web w p _ { p with fleet := p.fleet.process _ w' e }
    cases holds : p.fleet.workers w' with
    | processing job state =>
      rw [Fleet.process_eq holds]
      exact signs_turn e holds
    | idle | completing | failing | stopped =>
      rw [Fleet.process_of_not_processing fun job state => by rw [holds]; simp]
      refine signs_store rfl rfl ?_
      unfold sent
      split
      · rename_i is
        obtain ⟨rfl, -⟩ := FleetEvent.process.inj (PoolEvent.fleet.inj is)
        rw [holds]
      · rfl
  | complete w' env fate =>
    show Signs web w p _ { p with fleet := p.fleet.complete rt w' env fate }
    unfold Fleet.complete
    split
    · split
      · exact signs_off rfl rfl rfl
      · exact signs_off rfl rfl rfl
      · rename_i t ended
        exact signs_off (endpoints_of_endAttempt ended) rfl rfl
      · rename_i t ended
        exact signs_off (endpoints_of_endAttempt ended) rfl rfl
    · exact signs_store rfl rfl rfl
  | fail w' env fate =>
    show Signs web w p _ { p with fleet := p.fleet.fail rt w' env fate }
    unfold Fleet.fail
    split
    · split
      · exact signs_off rfl rfl rfl
      · exact signs_off rfl rfl rfl
      · rename_i t ended
        exact signs_off (endpoints_of_endAttempt ended) rfl rfl
      · rename_i t ended
        exact signs_off (endpoints_of_endAttempt ended) rfl rfl
    · exact signs_store rfl rfl rfl
  | crash w' => exact signs_off rfl rfl rfl
  | retryCheck id =>
    show Signs web w p _ { p with fleet := p.fleet.retryCheck id }
    unfold Fleet.retryCheck
    split
    · exact signs_store rfl rfl rfl
    · exact signs_store rfl rfl rfl
  | retryCommit k now eventUuid =>
    show Signs web w p _ { p with fleet := p.fleet.retryCommit k now eventUuid }
    unfold Fleet.retryCommit
    split
    · exact signs_store rfl rfl rfl
    · split
      · rename_i t ended
        exact signs_store rfl (endpoints_of_endAttempt ended) rfl
      · exact signs_store rfl rfl rfl
  | retryAbort k => exact signs_store rfl rfl rfl
  | outside o =>
    cases o with
    | inl plan => exact absurd rfl (besides plan)
    | inr o => exact signs_store rfl (other.outside_endpoints o p.fleet.store) rfl

/-- **Any step but an operation on an endpoint.** -/
theorem signs_step (besides : ∀ plan, e ≠ .fleet (.outside (.inl plan))) :
    Signs web w p e (p.step rt web (withEndpoints other) e) := by
  cases e with
  | fleet e => exact signs_fleet e fun plan is => besides plan (congrArg PoolEvent.fleet is)
  | retryCheck id =>
    show Signs web w p _ (p.retryCheck id)
    unfold DeliveryPool.retryCheck
    split
    · exact signs_store rfl rfl rfl
    · exact signs_store rfl rfl rfl
  | retryCommit k env =>
    show Signs web w p _ (p.retryCommit k env)
    unfold DeliveryPool.retryCommit
    split
    · exact signs_store rfl rfl rfl
    · split
      · rename_i t committed
        obtain ⟨⟨response, s'⟩, inserted, rest⟩ := bind_eq_ok.mp committed
        obtain ⟨⟨delivery, deliveries⟩, updated, same⟩ := bind_eq_ok.mp rest
        obtain ⟨-, jobs, events, -, -, rfl⟩ := Queue.insertJob_eq_ok.mp inserted
        obtain ⟨-, rfl⟩ := Prod.mk.inj (pure_eq_ok.mp same)
        exact signs_store rfl rfl rfl
      · exact signs_store rfl rfl rfl
  | retryAbort k => exact signs_store rfl rfl rfl

theorem refused_congr {s t : Store} {id : Uuid} {request : WebhookRequest}
    (same : t.webhookEndpoints.find? id = s.webhookEndpoints.find? id) :
    refused web id t request = refused web id s request := by
  unfold refused
  rw [same]

/-- What a step sends, the worker had signed. -/
theorem signed_of_sent {request : WebhookRequest} (sends : sent w p e = some request) :
    signed (p.fleet.workers w) = some request := by
  unfold sent at sends
  split at sends
  · split at sends
    · rename_i holds
      split_ifs at sends with same
      rw [← same, holds]
      exact sends
    · exact absurd sends (by simp)
  · exact absurd sends (by simp)

/-- **Each request that is refused was in hand**, and only a change of the endpoint puts another one
there. -/
theorem inHand_step (rt : Runtime) (web : WebhookRuntime) (other : Beside π ε ω) (w : ℕ) (id : Uuid)
    (p : DeliveryPool π) (e : PoolEvent ε (EndpointPlan ⊕ ω)) :
    inHand web w id (p.step rt web (withEndpoints other) e) +
        (if SendsRefused web w id p e then 1 else 0) ≤ inHand web w id p + changes id e := by
  have most : ∀ q : DeliveryPool π, inHand web w id q ≤ 1 := by
    intro q
    unfold inHand
    split_ifs <;> simp
  by_cases besides : ∀ plan, e ≠ .fleet (.outside (.inl plan))
  · have signs : Signs web w p e (p.step rt web (withEndpoints other) e) := signs_step besides
    generalize p.step rt web (withEndpoints other) e = p' at signs
    refine Nat.le_trans ?_ (Nat.le_add_right _ _)
    by_cases sends : SendsRefused web w id p e
    · obtain ⟨request, goes, refuses⟩ := (Option.any_eq_true _ _).mp sends
      have held : inHand web w id p = 1 := by
        unfold inHand
        rw [signed_of_sent goes, Option.any_some, if_pos refuses]
      have after : inHand web w id p' = 0 := by
        unfold inHand
        refine if_neg fun still => ?_
        obtain ⟨request', holds, refuses'⟩ := (Option.any_eq_true _ _).mp still
        rw [refused_congr (signs.endpoints id)] at refuses'
        rcases signs.inHand request' holds with ⟨-, unsent⟩ | accepted
        · rw [goes] at unsent
          exact absurd unsent (by simp)
        · rw [accepted id] at refuses'
          exact absurd refuses' (by simp)
      rw [if_pos sends, held, after]
    · rw [if_neg sends, Nat.add_zero]
      unfold inHand
      split_ifs with after before
      · exact le_refl _
      · refine absurd ?_ before
        obtain ⟨request, holds, refuses⟩ := (Option.any_eq_true _ _).mp after
        rw [refused_congr (signs.endpoints id)] at refuses
        rcases signs.inHand request holds with ⟨held, -⟩ | accepted
        · exact (Option.any_eq_true _ _).mpr ⟨request, held, refuses⟩
        · rw [accepted id] at refuses
          exact absurd refuses (by simp)
      · exact Nat.zero_le _
      · exact le_refl _
  · obtain ⟨plan, rfl⟩ : ∃ plan, e = .fleet (.outside (.inl plan)) := by
      by_contra none
      exact besides fun plan is => none ⟨plan, is⟩
    have silent : ¬ SendsRefused web w id p
        (.fleet (.outside (.inl plan)) : PoolEvent ε (EndpointPlan ⊕ ω)) := by
      unfold SendsRefused sent
      simp
    rw [if_neg silent, Nat.add_zero]
    by_cases here : plan.target = id
    · have one : changes id (.fleet (.outside (.inl plan)) : PoolEvent ε (EndpointPlan ⊕ ω)) = 1 :=
        if_pos here
      rw [one]
      exact Nat.le_trans (most _) (Nat.le_add_left _ _)
    · refine Nat.le_trans (Nat.le_of_eq ?_) (Nat.le_add_right _ _)
      obtain ⟨endpoints, same, others⟩ := act_spec plan p.fleet.store
      have kept : (p.step rt web (withEndpoints other)
          (.fleet (.outside (.inl plan)))).fleet.store.webhookEndpoints.find? id =
            p.fleet.store.webhookEndpoints.find? id := by
        show (act plan p.fleet.store).webhookEndpoints.find? id = _
        rw [same]
        exact others id here
      unfold inHand
      rw [show refused web id (p.step rt web (withEndpoints other)
          (.fleet (.outside (.inl plan)))).fleet.store = refused web id p.fleet.store from
        funext fun request => refused_congr kept]
      rfl

end Step

/-! ### Runs -/

/-- **A receiver refuses at most one request of each worker for each change of its endpoint**, and
one that the worker held before the run: whatever the other workers, the retries and the rest of the
system do. -/
theorem refused_le (rt : Runtime) (web : WebhookRuntime) (other : Beside π ε ω) (w : ℕ) (id : Uuid)
    (p : DeliveryPool π) (events : List (PoolEvent ε (EndpointPlan ⊕ ω))) :
    occurrences (DeliveryPool.step rt web (withEndpoints other)) (SendsRefused web w id) p events ≤
      inHand web w id p + (events.map (changes id)).sum := by
  have pays : ∀ (p : DeliveryPool π) (e : PoolEvent ε (EndpointPlan ⊕ ω)), True → True →
      inHand web w id (p.step rt web (withEndpoints other) e) +
        (if SendsRefused web w id p e then 1 else 0) ≤ inHand web w id p + changes id e :=
    fun p e _ _ => inHand_step rt web other w id p e
  have free : Along (DeliveryPool.step rt web (withEndpoints other)) (fun _ _ => True) p events :=
    along_of_mem fun _ _ => trivial
  have paid := budget_runs (inHand web w id) (changes id) (fun _ _ _ _ => trivial) pays trivial free
  omega

/-- The endpoint is not active. -/
def Off (id : Uuid) (p : DeliveryPool π) : Prop :=
  ∃ endpoint, p.fleet.store.webhookEndpoints.find? id = some endpoint ∧ endpoint.status ≠ .active

/-- Whatever goes to an endpoint that is off is refused. -/
theorem refused_of_off {web : WebhookRuntime} {id : Uuid} {p : DeliveryPool π} (off : Off id p)
    (request : WebhookRequest) : refused web id p.fleet.store request = goesTo id request := by
  obtain ⟨endpoint, found, status⟩ := off
  have refuses : accepts web endpoint request = false := by
    unfold accepts
    rw [beq_eq_false_iff_ne.mpr status, Bool.false_and]
  unfold refused
  rw [found, Option.any_some, refuses, Bool.not_false, Bool.and_true]

/-- **An endpoint that is disabled or suspended gets one more request of each worker at most**, the
one that the worker has signed already, until something changes the endpoint again. -/
theorem disabled_le (rt : Runtime) (web : WebhookRuntime) (other : Beside π ε ω) (w : ℕ) (id : Uuid)
    (p : DeliveryPool π) (events : List (PoolEvent ε (EndpointPlan ⊕ ω))) (off : Off id p)
    (unchanged : ∀ e ∈ events, changes id e = 0) :
    occurrences (DeliveryPool.step rt web (withEndpoints other)) (SendsTo w id) p events ≤
      if (signed (p.fleet.workers w)).any (goesTo id) then 1 else 0 := by
  have keeps : ∀ (p : DeliveryPool π) (e : PoolEvent ε (EndpointPlan ⊕ ω)), Off id p →
      changes id e = 0 → Off id (p.step rt web (withEndpoints other) e) := by
    rintro p e ⟨endpoint, found, status⟩ same
    refine ⟨endpoint, ?_, status⟩
    rw [← found]
    by_cases besides : ∀ plan, e ≠ .fleet (.outside (.inl plan))
    · have signs : Signs web w p e (p.step rt web (withEndpoints other) e) := signs_step besides
      exact signs.endpoints id
    · obtain ⟨plan, rfl⟩ : ∃ plan, e = .fleet (.outside (.inl plan)) := by
        by_contra none
        exact besides fun plan is => none ⟨plan, is⟩
      obtain ⟨endpoints, written, others⟩ := act_spec plan p.fleet.store
      show (act plan p.fleet.store).webhookEndpoints.find? id = _
      rw [written]
      refine others id fun here => ?_
      exact absurd same (by simp [changes, here])
  have same : ∀ p : DeliveryPool π, Off id p → refused web id p.fleet.store = goesTo id :=
    fun p off => funext fun request => refused_of_off off request
  have pays : ∀ (p : DeliveryPool π) (e : PoolEvent ε (EndpointPlan ⊕ ω)), Off id p →
      changes id e = 0 → inHand web w id (p.step rt web (withEndpoints other) e) +
        (if SendsTo w id p e then 1 else 0) ≤ inHand web w id p + changes id e := by
    intro p e off _
    have goes : SendsRefused web w id p e ↔ SendsTo w id p e := by
      unfold SendsRefused SendsTo
      rw [same p off]
    have step := inHand_step rt web other w id p e
    by_cases sends : SendsTo w id p e
    · rw [if_pos (goes.mpr sends)] at step
      rw [if_pos sends]
      exact step
    · rw [if_neg (sends ∘ goes.mp)] at step
      rw [if_neg sends]
      exact step
  have guarded : Along (DeliveryPool.step rt web (withEndpoints other))
      (fun _ e => changes id e = 0) p events := along_of_mem unchanged
  have paid := budget_runs (inHand web w id) (changes id) keeps pays off guarded
  have none : (events.map (changes id)).sum = 0 :=
    List.sum_eq_zero fun n inside => by
      obtain ⟨e, there, rfl⟩ := List.mem_map.mp inside
      exact unchanged e there
  have held :
      inHand web w id p = if (signed (p.fleet.workers w)).any (goesTo id) then 1 else 0 := by
    unfold inHand
    rw [same p off]
  omega

/-! ### An endpoint that is disabled under a delivery -/

/-- Other work, beside which nothing happens. -/
def still : Beside Unit Unit Unit where
  toOtherWork := quiet
  turn_endpoints _ _ _ _ := rfl
  outside_endpoints _ _ := rfl

def endpointId : Uuid := "20000000-0000-4000-8000-000000000001"

/-- A delivery to an active endpoint. -/
def subscribed : Store :=
  { queued with
    webhookEndpoints := .single ⟨endpointId, "v1:iv:tag:whsec_first", .active⟩
    webhookDeliveries := .single { delivery with webhookEndpointId := some endpointId } }

def administrator : AuthTokenPayload where
  sub := "50000000-0000-4000-8000-000000000001"
  email := "founder@acadid.test"
  fullName := "First Founder"
  role := .acadidSuperAdmin
  kind := none
  learnerId := none
  institutionId := none
  institutionUuid := none
  institutionUserId := none
  assignedScopes := none
  apiKeyId := none
  clientId := none
  productCode := none

/-- The request is signed, and then the endpoint is disabled. -/
def disabledLate : List (PoolEvent Unit (EndpointPlan ⊕ Unit)) :=
  [.fleet (.claim 0 1 []), .fleet (.process 0 (.inl (.read 1 true))),
    .fleet (.outside (.inl (.updateStatus administrator endpointId .disabled)))]

/-- The request is sent, refused, and not sent again. -/
def sentLate : List (PoolEvent Unit (EndpointPlan ⊕ Unit)) :=
  [.fleet (.process 0 (.inl (.announce .done))),
    .fleet (.process 0 (.inl (.send (.responded 410 "")))),
    .fleet (.process 0 (.inl (.record .done))),
    .fleet (.fail 0 ⟨"80000000-0000-4000-8000-000000000009", 2⟩ .done), .fleet (.claim 0 3 []),
    .fleet (.process 0 (.inl (.read 3 true)))]

theorem disabled_le_late :
    occurrences (DeliveryPool.step .plain .plain (withEndpoints still)) (SendsTo 0 endpointId)
        (runs (DeliveryPool.step .plain .plain (withEndpoints still))
          (DeliveryPool.start subscribed) disabledLate) sentLate ≤ 1 :=
  disabled_le .plain .plain still 0 endpointId _ sentLate ⟨_, rfl, by decide⟩ (by decide)

end WebhookEndpoints

end AcadID
