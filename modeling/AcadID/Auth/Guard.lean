/-
**`AuthGuard`, and the access tokens of keys that are revoked.**

The guard admits a request by the signed token that it carries and by the limit of its API key; it
does not look at the key itself.

* `canActivate` — the guard.
* `Gateway` — the keys with every token that has been issued; a transaction that revokes a key or
  gives it another secret withdraws the key's tokens.
* `canActivate_eq_ok` — **when an issued token is admitted**: before it is spent, within its limit.
* `refuses_iff` — **no withdrawn token is admitted along a run exactly when each that is presented
  is spent or over its limit**; `refuses_fails` — one that is neither.
-/

import AcadID.Auth.DeveloperAccess
import AcadID.Platform.RateLimit

namespace AcadID

open Lib

/-! ### Signed tokens -/

/-- What HMAC-SHA-256 under the configured secret, printed in base64url, is made of. -/
structure SignatureText (rt : Runtime) : Prop where
  filled : ∀ secret s, rt.hmacSha256 secret s ≠ ""
  undotted : ∀ secret s, '.' ∉ (rt.hmacSha256 secret s).toList

/-- The runtime reads back the payload that it has encoded. -/
def ReadsBack (rt : Runtime) (payload : Json) : Prop :=
  rt.parseJson (rt.decodeBase64Url (TokenService.encode rt payload)) = some payload

namespace TokenService

theorem encode_ne_empty (rt : Runtime) (value : Json) : encode rt value ≠ "" := by
  refine Text.base64Url_ne_empty fun empty => ?_
  obtain ⟨c, rest, text, -⟩ := @Json.stringify_head rt.format value
  rw [text] at empty
  have chars := congrArg String.toList empty
  rw [String.toList_ofList] at chars
  exact absurd chars (by simp)

/-- The token's time is over. -/
def expired (now : Time) (payload : Json) : Bool :=
  match payload.get? "exp" with
  | some (.num exp) => decide (exp < ((now / 1000 : ℤ) : ℚ))
  | _ => false

/-- **What a signed token is verified as**: its payload, if that has what every token has and is not
over. -/
theorem verify_sign_eq_ok {rt : Runtime} (text : SignatureText rt) {now issuedAt : Time}
    {fields : List (String × Option Json)} {ttlSeconds : ℤ} {p : Json}
    (reads : ReadsBack rt (tokenPayload issuedAt fields ttlSeconds)) :
    verify rt now (sign rt issuedAt fields ttlSeconds) = .ok p ↔
      p = tokenPayload issuedAt fields ttlSeconds ∧
        (has p "sub" && has p "email" && has p "role" && has p "exp") = true ∧
          expired now p = false := by
  have parts : Text.splitOn '.' (sign rt issuedAt fields ttlSeconds) =
      [encode rt (.obj [("alg", .str "HS256"), ("typ", .str "JWT")]),
        encode rt (tokenPayload issuedAt fields ttlSeconds),
        signature rt (encode rt (.obj [("alg", .str "HS256"), ("typ", .str "JWT")]) ++ "." ++
          encode rt (tokenPayload issuedAt fields ttlSeconds))] :=
    Text.splitOn_three (Text.base64Url_undotted _) (Text.base64Url_undotted _) (text.undotted _ _)
  have given : ∀ input, signature rt input ≠ "" := fun input => text.filled _ input
  unfold verify
  rw [parts]
  show (do _ : Except ServiceError Json) = _ ↔ _
  simp only [bind_eq_ok, require_eq_ok, orThrow_eq_ok, pure_eq_ok, exists_and_left, exists_const]
  rw [show rt.parseJson _ = _ from reads]
  simp only [encode_ne_empty, given, beq_self_eq_true, beq_eq_false_iff_ne.mpr, ne_eq,
    not_false_eq_true, Bool.or_self, Bool.not_false, true_and]
  constructor
  · rintro ⟨a, same, whole, live, rfl⟩
    obtain rfl := Option.some.inj same
    exact ⟨rfl, whole, (Bool.not_eq_true' _).mp live⟩
  · rintro ⟨rfl, whole, live⟩
    exact ⟨_, rfl, whole, (Bool.not_eq_true' _).mpr live, rfl⟩

end TokenService

/-! ### The guard -/

/-- The time of a request, and what the limiter draws. -/
structure GuardEnv where
  now : Time
  limiter : RateLimit.LimitEnv

/-- The token after `Bearer `; without that, none. -/
def bearerToken (authorization : Option String) : String :=
  match authorization with
  | some header =>
    if "Bearer ".toList.isPrefixOf header.toList then
      String.ofList (header.toList.drop "Bearer ".length)
    else ""
  | none => ""

/-- `AuthGuard.canActivate`: the payload of the token that the first of the authorization headers
carries, once its API key is within its limit. -/
def canActivate (rt : Runtime) (env : GuardEnv) (headers : List String)
    (cache : RateLimit.PolicyCache) (s : Store) :
    Except ServiceError Json × RateLimit.PolicyCache × Store :=
  match TokenService.verify rt env.now (bearerToken headers.head?) with
  | .error e => (.error e, cache, s)
  | .ok payload =>
    let (allowed, rest) := RateLimit.assertApiKeyAllowed rt env.limiter payload cache s
    (allowed.map fun _ => payload, rest)

/-! ### Issued tokens -/

namespace ApiKeys

/-- A token that has been issued from a key. -/
structure IssuedToken where
  apiKey : ApiKey
  institution : Option Institution
  issuedAt : Time
  /-- The key has since been revoked or given another secret. -/
  withdrawn : Bool

namespace IssuedToken

def payload (token : IssuedToken) : Json :=
  TokenService.tokenPayload token.issuedAt (clientPayload token.apiKey token.institution)
    (clientTtlSeconds token.apiKey)

def accessToken (rt : Runtime) (token : IssuedToken) : String :=
  signApiClient rt token.issuedAt token.apiKey token.institution

/-- When it expires, in seconds. -/
def exp (token : IssuedToken) : ℤ :=
  token.issuedAt / 1000 + clientTtlSeconds token.apiKey

/-- It is over, or it never was good for anything. -/
def Spent (now : Time) (token : IssuedToken) : Prop :=
  token.apiKey.uuid = "" ∨ token.exp = 0 ∨ token.exp < now / 1000

instance (now : Time) (token : IssuedToken) : Decidable (token.Spent now) :=
  inferInstanceAs (Decidable (_ ∨ _ ∨ _))

section Payload

variable (token : IssuedToken)

theorem payload_exp : token.payload.get? "exp" = some (.num token.exp) := by
  simp [payload, TokenService.tokenPayload, clientPayload, Json.get?_fields_cons, exp]

theorem payload_has :
    (TokenService.has token.payload "sub" && TokenService.has token.payload "email" &&
        TokenService.has token.payload "role" && TokenService.has token.payload "exp") = true ↔
      token.apiKey.uuid ≠ "" ∧ token.exp ≠ 0 := by
  have sub : token.payload.get? "sub" = some (.str token.apiKey.uuid) := by
    simp [payload, TokenService.tokenPayload, clientPayload, Json.get?_fields_cons]
  have email : token.payload.get? "email" =
      some (.str (token.apiKey.clientId ++ "@api-key.acadid.local")) := by
    simp [payload, TokenService.tokenPayload, clientPayload, Json.get?_fields_cons]
  have role : token.payload.get? "role" = some (.str UserRole.registrar.name) := by
    simp [payload, TokenService.tokenPayload, clientPayload, Json.get?_fields_cons]
  have addressed : token.apiKey.clientId ++ "@api-key.acadid.local" ≠ "" := by
    intro empty
    have chars := congrArg String.toList empty
    rw [String.toList_append] at chars
    exact absurd chars (by simp)
  unfold TokenService.has
  rw [sub, email, role, token.payload_exp]
  simp [Json.truthy, addressed, UserRole.name]

/-- **When an issued token is verified**: while it is not spent. -/
theorem verify_eq_ok {rt : Runtime} (text : SignatureText rt) (reads : ReadsBack rt token.payload)
    {now : Time} {p : Json} :
    TokenService.verify rt now (token.accessToken rt) = .ok p ↔
      p = token.payload ∧ ¬ token.Spent now := by
  have live : TokenService.expired now token.payload = false ↔ ¬ token.exp < now / 1000 := by
    unfold TokenService.expired
    rw [token.payload_exp]
    simp
  rw [show token.accessToken rt = _ from rfl]
  refine (TokenService.verify_sign_eq_ok text reads).trans (and_congr_right fun same => ?_)
  rw [same]
  unfold Spent
  rw [show TokenService.tokenPayload _ _ _ = token.payload from rfl, token.payload_has, live]
  tauto

end Payload

end IssuedToken

/-- **When an issued token is admitted**: while it is not spent and its key is within its limit. -/
theorem canActivate_eq_ok {rt : Runtime} (text : SignatureText rt) {token : IssuedToken}
    (reads : ReadsBack rt token.payload) {env : GuardEnv} {headers : List String}
    (carried : bearerToken headers.head? = token.accessToken rt) {cache : RateLimit.PolicyCache}
    {s : Store} :
    (∃ p, (canActivate rt env headers cache s).1 = .ok p) ↔
      ¬ token.Spent env.now ∧ ¬ RateLimit.OverLimit rt env.limiter token.payload cache s := by
  unfold canActivate
  rw [carried]
  by_cases spent : token.Spent env.now
  · have refused : ∀ p, TokenService.verify rt env.now (token.accessToken rt) ≠ .ok p := by
      intro p verified
      exact ((token.verify_eq_ok text reads).mp verified).2 spent
    cases verified : TokenService.verify rt env.now (token.accessToken rt) with
    | ok p => exact absurd verified (refused p)
    | error e => simp [spent]
  · have verified := (token.verify_eq_ok text reads).mpr ⟨rfl, spent⟩
    rw [verified]
    dsimp only
    rw [← RateLimit.assertApiKeyAllowed_eq_ok]
    cases (RateLimit.assertApiKeyAllowed rt env.limiter token.payload cache s).1 with
    | ok u => simp [spent, Except.map]
    | error e => simp [Except.map]

/-! ### The gateway -/

/-- The keys and what is in flight over them, the policy that the limiter has read, and every token
that has been issued. -/
structure Gateway where
  pool : KeyPool
  cache : RateLimit.PolicyCache
  issued : List IssuedToken

inductive GatewayEvent where
  | keys (turn : Turn KeyCall)
  | request (env : GuardEnv) (headers : List String)

/-- The transaction revokes the token's key or gives it another secret. -/
def withdraws (plan : KeyPlan) (s : Store) (token : IssuedToken) : Bool :=
  match plan with
  | .revoke _ _ id _ => token.apiKey.uuid == id
  | .regenerate _ _ existing => token.apiKey.uuid == existing.uuid
  | .lockdown .. =>
    s.apiKeys.rows.any fun apiKey => apiKey.uuid == token.apiKey.uuid && apiKey.status == .active
  | _ => false

def IssuedToken.after (plan : KeyPlan) (s : Store) (token : IssuedToken) : IssuedToken :=
  { token with
    withdrawn := token.withdrawn || withdraws plan s token }

/-- The tokens issued so far, once a transaction is through. -/
def issuedAfter (plan : KeyPlan) (s : Store) (issued : List IssuedToken) : List IssuedToken :=
  match plan with
  | .issue env apiKey institution =>
    ⟨apiKey, institution, env.issuedAt, false⟩ :: issued.map (IssuedToken.after plan s)
  | _ => issued.map (IssuedToken.after plan s)

def Gateway.step (rt : Runtime) (g : Gateway) : GatewayEvent → Gateway
  | .keys e =>
    { g with
      pool := (keyMethods rt).turn g.pool e
      issued :=
        match (keyMethods rt).committing g.pool e with
        | some (plan, _, _) => issuedAfter plan g.pool.store g.issued
        | none => g.issued }
  | .request env headers =>
    let (_, cache, store) := canActivate rt env headers g.cache g.pool.store
    { g with
      pool := { g.pool with
        store := store }
      cache := cache }

/-- No call in flight and no token issued yet. -/
def Gateway.start (s : Store) : Gateway where
  pool := ⟨s, []⟩
  cache := none
  issued := []

/-! ### The property and the condition -/

/-- **A request that carries a withdrawn token is not admitted.** -/
def Refuses (rt : Runtime) (g : Gateway) : GatewayEvent → Prop
  | .keys _ => True
  | .request env headers => ∀ token ∈ g.issued, token.withdrawn = true →
    bearerToken headers.head? = token.accessToken rt →
      ¬ ∃ payload, (canActivate rt env headers g.cache g.pool.store).1 = .ok payload

/-- A withdrawn token that a request carries is spent, or its key is over its limit. -/
def Lapses (rt : Runtime) (g : Gateway) : GatewayEvent → Prop
  | .keys _ => True
  | .request env headers => ∀ token ∈ g.issued, token.withdrawn = true →
    bearerToken headers.head? = token.accessToken rt →
      token.Spent env.now ∨
        RateLimit.OverLimit rt env.limiter token.payload g.cache g.pool.store

section Runs

variable {rt : Runtime}

theorem refuses_iff_lapses (text : SignatureText rt) {g : Gateway}
    (reads : ∀ token ∈ g.issued, ReadsBack rt token.payload) (e : GatewayEvent) :
    Refuses rt g e ↔ Lapses rt g e := by
  cases e with
  | keys e => exact Iff.rfl
  | request env headers =>
    refine forall₄_congr fun token inside withdrawn carried => ?_
    rw [canActivate_eq_ok text (reads token inside) carried]
    tauto

/-- A token that is issued stays among those issued, with the payload it has. -/
theorem issued_step (g : Gateway) (e : GatewayEvent) :
    ∀ token ∈ g.issued, ∃ later ∈ (g.step rt e).issued, later.payload = token.payload := by
  intro token inside
  cases e with
  | request env headers => exact ⟨token, inside, rfl⟩
  | keys e =>
    unfold Gateway.step
    dsimp only
    cases (keyMethods rt).committing g.pool e with
    | none => exact ⟨token, inside, rfl⟩
    | some went =>
      obtain ⟨plan, res, t⟩ := went
      have mapped := List.mem_map_of_mem (f := IssuedToken.after plan g.pool.store) inside
      have kept : token.after plan g.pool.store ∈ issuedAfter plan g.pool.store g.issued := by
        unfold issuedAfter
        split
        · exact List.mem_cons_of_mem _ mapped
        · exact mapped
      exact ⟨_, kept, rfl⟩

@[simp] theorem issued_request (g : Gateway) (env : GuardEnv) (headers : List String) :
    (g.step rt (.request env headers)).issued = g.issued := rfl

theorem issued_runs (g : Gateway) (events : List GatewayEvent) :
    ∀ token ∈ g.issued, ∃ later ∈ (runs (Gateway.step rt) g events).issued,
      later.payload = token.payload := by
  induction events generalizing g with
  | nil => exact fun token inside => ⟨token, inside, rfl⟩
  | cons e events ih =>
    intro token inside
    obtain ⟨next, member, same⟩ := @issued_step rt g e token inside
    obtain ⟨later, last, same'⟩ := ih (g.step rt e) next member
    exact ⟨later, last, same'.trans same⟩

/-- **No withdrawn token is admitted along a run exactly when each that is presented has lapsed.** -/
theorem refuses_iff (rt : Runtime) (text : SignatureText rt) (start : Store)
    (events : List GatewayEvent)
    (reads : ∀ token ∈ (runs (Gateway.step rt) (.start start) events).issued,
      ReadsBack rt token.payload) :
    Along (Gateway.step rt) (Refuses rt) (.start start) events ↔
      Along (Gateway.step rt) (Lapses rt) (.start start) events := by
  generalize Gateway.start start = g at reads
  induction events generalizing g with
  | nil => exact Iff.rfl
  | cons e events ih =>
    refine and_congr (refuses_iff_lapses text (fun token inside => ?_) e) (ih _ reads)
    obtain ⟨later, last, same⟩ := @issued_runs rt g (e :: events) token inside
    have read := reads later last
    rw [same] at read
    exact read

end Runs

/-! ### A revoked key -/

theorem bearerToken_bearer (token : String) : bearerToken (some ("Bearer " ++ token)) = token := by
  have chars : ("Bearer " ++ token).toList = "Bearer ".toList ++ token.toList :=
    String.toList_append
  unfold bearerToken
  dsimp only
  rw [chars, if_pos (List.isPrefixOf_iff_prefix.mpr (List.prefix_append _ _)),
    show "Bearer ".length = "Bearer ".toList.length from rfl, List.drop_left, String.ofList_toList]

/-- A key of the school, as `createApiKey` writes it. -/
def schoolKey : ApiKey :=
  newApiKey .plain keyEnv BatchHistory.founder .institution (some Visibility.schoolId) none
    ⟨"Portal", ["ingest:write"], .sandbox, 100, none⟩

def schoolWithKey : Store :=
  { schoolWithAccess .approved with
    apiKeys :=
      { rows := [schoolKey]
        nodup := List.nodup_singleton _ } }

/-- The school's token, once its key is revoked. -/
def schoolToken : IssuedToken :=
  ⟨schoolKey, institutionOf schoolWithKey schoolKey, 1, true⟩

def schoolText : String :=
  String.ofList (schoolToken.payload.stringify Runtime.plain.format)

/-- A runtime that reads the payload of the school's token. -/
def reader : Runtime :=
  { Runtime.plain with
    decodeBase64Url := fun encoded =>
      if encoded = Text.base64Url schoolText then schoolText else encoded
    parseJson := fun text => if text = schoolText then some schoolToken.payload else none }

theorem reader_signatureText : SignatureText reader where
  filled secret s := by
    refine Text.base64Url_ne_empty fun empty => ?_
    have chars := congrArg String.toList empty
    rw [String.toList_append] at chars
    exact absurd chars (by simp)
  undotted secret s := Text.base64Url_undotted ("hmac:" ++ secret ++ ":" ++ s)

theorem reader_readsBack : ReadsBack reader schoolToken.payload := by
  have encoded : TokenService.encode reader schoolToken.payload = Text.base64Url schoolText := by
    unfold TokenService.encode schoolText
    rfl
  have decoded : reader.decodeBase64Url (Text.base64Url schoolText) = schoolText := by
    simp only [reader, if_true]
  have read : reader.parseJson schoolText = some schoolToken.payload := by
    simp only [reader, if_true]
  unfold ReadsBack
  rw [encoded, decoded, read]

/-- The school's client is issued a token, and the founder revokes its key. -/
def issuesAndRevokes : List GatewayEvent :=
  [.keys (.begin (.issueApiToken keyEnv ⟨some "ak_sandbox_client", some "sk_sandbox_secret"⟩)),
    .keys (.advance 0 .done),
    .keys (.begin (.revokeApiKey keyEnv BatchHistory.founder schoolKey.uuid none)),
    .keys (.advance 1 .done)]

/-- The token is presented at a time. -/
def presents (now : Time) : GatewayEvent :=
  .request ⟨now, ⟨now, .done, .done⟩⟩ ["Bearer " ++ schoolToken.accessToken reader]

theorem issued_issuesAndRevokes :
    (runs (Gateway.step reader) (.start schoolWithKey) issuesAndRevokes).issued = [schoolToken] := by
  rfl

theorem reads_schoolToken (now : Time) :
    ∀ token ∈ (runs (Gateway.step reader) (.start schoolWithKey)
      (issuesAndRevokes ++ [presents now])).issued, ReadsBack reader token.payload := by
  intro token inside
  rw [runs_append, presents, runs_cons, runs_nil, issued_request, issued_issuesAndRevokes,
    List.mem_singleton] at inside
  rw [inside]
  exact reader_readsBack

/-- The token is refused once it has expired. -/
theorem presents_refused :
    Along (Gateway.step reader) (Refuses reader) (.start schoolWithKey)
      (issuesAndRevokes ++ [presents 90000000]) := by
  refine (refuses_iff reader reader_signatureText schoolWithKey _
    (reads_schoolToken 90000000)).mpr ?_
  refine along_append.mpr ⟨⟨trivial, trivial, trivial, trivial, trivial⟩, ?_, trivial⟩
  intro token inside _ _
  rw [issued_issuesAndRevokes, List.mem_singleton] at inside
  rw [inside]
  exact .inl (by decide)

/-- **A withdrawn token is admitted** until it expires. -/
theorem refuses_fails :
    ¬ ∀ (rt : Runtime) (start : Store) (events : List GatewayEvent), SignatureText rt →
        (∀ token ∈ (runs (Gateway.step rt) (.start start) events).issued,
          ReadsBack rt token.payload) →
        Along (Gateway.step rt) (Refuses rt) (.start start) events := by
  intro all
  have refuses := all reader schoolWithKey (issuesAndRevokes ++ [presents 2]) reader_signatureText
    (reads_schoolToken 2)
  have carried : bearerToken ["Bearer " ++ schoolToken.accessToken reader].head? =
      schoolToken.accessToken reader := bearerToken_bearer _
  have presented := (along_append.mp refuses).2.1 schoolToken
    (by rw [issued_issuesAndRevokes]; exact List.mem_singleton_self _) rfl carried
  have allowed : (RateLimit.assertApiKeyAllowed reader ⟨2, .done, .done⟩ schoolToken.payload
      (runs (Gateway.step reader) (.start schoolWithKey) issuesAndRevokes).cache
      (runs (Gateway.step reader) (.start schoolWithKey) issuesAndRevokes).pool.store).1 =
        .ok () := by
    rfl
  refine presented ((canActivate_eq_ok reader_signatureText reader_readsBack carried).mpr
    ⟨by decide, ?_⟩)
  exact RateLimit.assertApiKeyAllowed_eq_ok.mp allowed

end ApiKeys

end AcadID
