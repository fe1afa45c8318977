/-
**Share links, from the learner who makes one to the verifier who follows it.**

`createShareLink` checks a credential of its learner and creates a grant under the hash of a random
token; verifications and revocations find the grant by that hash and by its id.

* `createShareLink` — the service as a method; `linkMethods` — it and the calls on grants as one.
* `Live` — what a link is for: it was made with the token, and since then neither revoked, expired
  nor followed as often as it may be.
* `Mirrors` — the invariant: the grants are those that the committed calls have made of them.
* `opens_iff_live` — **in every state of every run, a token opens a credential exactly when a live
  link leads to it**; `discloses_shared` — **every disclosure is one that the owner of the
  credential has asked for**, in the scope they chose.
-/

import AcadID.Gateway.Access
import AcadID.Gateway.Disclosure
import AcadID.Lib.FirstMatch
import AcadID.Lib.Journal

namespace AcadID.ShareLinks

open Lib Verification Disclosure

/-! ### The service -/

structure CreateAccessGrantInput where
  credentialRef : String
  scope : AccessGrantScope
  recipientLabel : String
  expiresAt : Option String
  maxViews : Option ℤ

def accessGrantScopes : List (String × AccessGrantScope) :=
  [("FULL", .full), ("GPA", .gpa), ("SEMESTER", .semester), ("SUBJECT", .subject)]

open Schema in
def createAccessGrantSchema (rt : Runtime) : Schema CreateAccessGrantInput :=
  object fun v =>
    CreateAccessGrantInput.mk
      <$> field v "credentialRef" (string [minLength 1])
      <*> field v "scope" (withDefault .full (enum accessGrantScopes))
      <*> field v "recipientLabel" (string [minLength 2])
      <*> field v "expiresAt" (optional (string [formatted rt.isDatetime]))
      <*> field v "maxViews" (optional (integer [positive, atMost 100]))

/-- What the runtime and the database give a new link: the id of its grant, and 32 random bytes in
base64url. -/
structure ShareEnv where
  grantUuid : Uuid
  token : String

structure SharePlan where
  env : ShareEnv
  auth : AuthTokenPayload
  learnerId : Uuid
  input : CreateAccessGrantInput
  credential : Credential

structure ShareCall where
  env : ShareEnv
  auth : AuthTokenPayload
  body : Json

structure ShareResponse where
  accessGrantId : Uuid
  token : String
  verifyUrl : String
  scope : AccessGrantScope
  recipientLabel : String
  expiresAt : Option Time
  maxViews : Option ℤ

def shareCheck (rt : Runtime) (call : ShareCall) (s : Store) : Except ServiceError SharePlan := do
  let learnerId ← requireLearner call.auth
  let input ← parseBody (createAccessGrantSchema rt) call.body
  let credential ← orThrow
    (s.credentials.rows.find? fun credential =>
      credential.credentialRef == input.credentialRef && credential.learnerId == learnerId)
    (.badRequest "Credential not found for learner.")
  require (credential.status == .active) (.badRequest "Only active credentials can be shared.")
  return {
    env := call.env
    auth := call.auth
    learnerId := learnerId
    input := input
    credential := credential }

/-- `new Date(expiresAt)` -/
def expiry (rt : Runtime) (input : CreateAccessGrantInput) : Option Time :=
  input.expiresAt.bind rt.parseDate

def newGrant (rt : Runtime) (plan : SharePlan) : AccessGrant where
  uuid := plan.env.grantUuid
  learnerId := plan.learnerId
  credentialId := plan.credential.uuid
  tokenHash := rt.sha256 plan.env.token
  scope := plan.input.scope
  recipientLabel := plan.input.recipientLabel
  expiresAt := expiry rt plan.input
  revokedAt := none
  maxViews := plan.input.maxViews
  viewCount := 0

/-- One more grant, unless its token is taken or its date is none. -/
def shareCommit (rt : Runtime) (plan : SharePlan) (s : Store) :
    Except ServiceError (ShareResponse × Store) := do
  require (plan.input.expiresAt.isNone || (expiry rt plan.input).isSome) .database
  let grant := newGrant rt plan
  require (s.accessGrants.rows.all (·.tokenHash != grant.tokenHash)) .uniqueViolation
  let accessGrants ← insertUnique s.accessGrants grant
  return (
    { accessGrantId := grant.uuid
      token := plan.env.token
      verifyUrl := "/verify/" ++ plan.env.token
      scope := grant.scope
      recipientLabel := grant.recipientLabel
      expiresAt := grant.expiresAt
      maxViews := grant.maxViews },
    { s with accessGrants := accessGrants })

def shareAudit (plan : SharePlan) (res : ShareResponse) : AuditEvent :=
  Access.accessAudit plan.auth "access_grant.create" "AccessGrant" res.accessGrantId none
    (.obj
      [("credentialRef", .str plan.input.credentialRef), ("scope", .str res.scope.name),
        ("recipientLabel", .str res.recipientLabel)])

def createShareLink (rt : Runtime) :
    Method Store ServiceError ShareCall SharePlan ShareResponse where
  check := shareCheck rt
  commit := shareCommit rt
  log plan res s := s.audit (shareAudit plan res)

abbrev LinkCall := ShareCall ⊕ GrantCall
abbrev LinkPlan := SharePlan ⊕ GrantPlan
abbrev LinkResponse := ShareResponse ⊕ GrantResponse

/-- The calls that make links, and those that follow and revoke them. -/
def linkMethods (rt : Runtime) : Method Store ServiceError LinkCall LinkPlan LinkResponse :=
  (createShareLink rt).sum (grantMethods rt)

/-! ### What a link is for -/

/-- Whatever the rest of the system does, it writes no grant, and no credential changes its
learner. -/
structure Elsewhere where
  act : Store → Store
  grants : ∀ s, (act s).accessGrants = s.accessGrants
  owners : ∀ s, Table.Keeps (·.learnerId) s.credentials (act s).credentials

abbrev LinkJournal := Journal Store LinkPlan LinkResponse

def linkStep (rt : Runtime) (j : LinkJournal) (e : Entry LinkCall Elsewhere) : LinkJournal :=
  (linkMethods rt).write Elsewhere.act j e

/-- The call that was committed has made this link. -/
def Shared (plan : SharePlan) (committed : List (LinkPlan × LinkResponse)) : Prop :=
  ∃ res, (.inl plan, res) ∈ committed

/-- The call revokes the grant. -/
def revokes (id : Uuid) : LinkPlan × LinkResponse → Bool
  | (.inr (.revoke _ _ _ accessGrantId), _) => accessGrantId == id
  | _ => false

/-- The call discloses a credential through the grant. -/
def follows (id : Uuid) : LinkPlan × LinkResponse → Bool
  | (.inr plan, _) => plan.discloses id
  | _ => false

/-- **A live link**: made with the token, and since then neither revoked, expired nor followed as
often as it may be. -/
structure Live (rt : Runtime) (now : Time) (token : String)
    (committed : List (LinkPlan × LinkResponse)) (plan : SharePlan) : Prop where
  shared : Shared plan committed
  token : rt.sha256 plan.env.token = rt.sha256 token
  unrevoked : committed.countP (revokes plan.env.grantUuid) = 0
  unexpired : ∀ t ∈ expiry rt plan.input, now < t
  unspent : ∀ n ∈ plan.input.maxViews,
    (committed.countP (follows plan.env.grantUuid) : ℤ) < n

/-- The view of a credential that a scope allows, with the rows it names. -/
def Shows (s : Store) (id : Uuid) (scope : AccessGrantScope) (credential : Credential)
    (view : Json) : Prop :=
  s.credentials.find? id = some credential ∧
    ∃ learner institution, s.learners.find? credential.learnerId = some learner ∧
      s.institutions.find? credential.institutionId = some institution ∧
      view = scopeCredential scope credential learner institution

/-- The token opens the credential: a verification of it would disclose this view. -/
def Opens (rt : Runtime) (env : VerifyEnv) (token : String) (s : Store) (credential : Credential)
    (view : Json) : Prop :=
  ∃ grant, tokenCheck rt env token s = .ok (.confirmed grant credential view)

/-! ### The invariant -/

/-- The grant is what the committed calls have made of the link. -/
structure Made (rt : Runtime) (committed : List (LinkPlan × LinkResponse)) (plan : SharePlan)
    (grant : AccessGrant) : Prop where
  uuid : grant.uuid = plan.env.grantUuid
  learner : grant.learnerId = plan.learnerId
  credential : grant.credentialId = plan.credential.uuid
  token : grant.tokenHash = rt.sha256 plan.env.token
  scope : grant.scope = plan.input.scope
  expiry : grant.expiresAt = expiry rt plan.input
  limit : grant.maxViews = plan.input.maxViews
  revoked : grant.revokedAt = none ↔ committed.countP (revokes grant.uuid) = 0
  views : grant.viewCount = committed.countP (follows grant.uuid)

/-- **The invariant**: the grants are those of the links that were made, no two of them with one
token; a call on a grant is on one that is there. -/
structure Mirrors (rt : Runtime) (s : Store) (committed : List (LinkPlan × LinkResponse)) :
    Prop where
  made : ∀ grant ∈ s.accessGrants.rows, ∃ plan, Shared plan committed ∧
    Made rt committed plan grant
  kept : ∀ plan, Shared plan committed → ∃ grant ∈ s.accessGrants.rows,
    Made rt committed plan grant
  tokens : ∀ g ∈ s.accessGrants.rows, ∀ h ∈ s.accessGrants.rows, g.tokenHash = h.tokenHash → g = h
  named : ∀ id, s.accessGrants.find? id = none →
    committed.countP (revokes id) = 0 ∧ committed.countP (follows id) = 0
  owned : ∀ plan, Shared plan committed → ∃ credential,
    s.credentials.find? plan.credential.uuid = some credential ∧
      credential.learnerId = plan.learnerId

/-! ### What the calls have seen and written -/

section Commits

variable {rt : Runtime} {s t : Store}

theorem shareCheck_spec {call : ShareCall} {plan : SharePlan}
    (checked : shareCheck rt call s = .ok plan) :
    plan.credential ∈ s.credentials.rows ∧ plan.credential.learnerId = plan.learnerId := by
  obtain ⟨learnerId, -, rest⟩ := bind_eq_ok.mp checked
  obtain ⟨input, -, rest⟩ := bind_eq_ok.mp rest
  obtain ⟨credential, found, rest⟩ := bind_eq_ok.mp rest
  obtain ⟨_, -, same⟩ := bind_eq_ok.mp rest
  obtain rfl := pure_eq_ok.mp same
  have held := orThrow_eq_ok.mp found
  have owner := List.find?_some held
  simp only [Bool.and_eq_true, beq_iff_eq] at owner
  exact ⟨List.mem_of_find?_eq_some held, owner.2⟩

/-- **A new link** is one more grant, under a free id and a free token. -/
theorem shareCommit_spec {plan : SharePlan} {res : ShareResponse}
    (made : shareCommit rt plan s = .ok (res, t)) :
    (∀ grant ∈ s.accessGrants.rows, grant.tokenHash ≠ rt.sha256 plan.env.token) ∧
      (∀ grant ∈ s.accessGrants.rows, grant.uuid ≠ plan.env.grantUuid) ∧
      ∃ accessGrants, accessGrants.rows = s.accessGrants.rows ++ [newGrant rt plan] ∧
        t = { s with accessGrants := accessGrants } := by
  obtain ⟨_, -, rest⟩ := bind_eq_ok.mp made
  obtain ⟨_, free, rest⟩ := bind_eq_ok.mp rest
  obtain ⟨accessGrants, inserted, same⟩ := bind_eq_ok.mp rest
  obtain ⟨-, rfl⟩ := Prod.mk.inj (pure_eq_ok.mp same)
  rw [require_eq_ok, List.all_eq_true] at free
  obtain ⟨fresh, rows⟩ := Table.insert_eq_some.mp (orThrow_eq_ok.mp inserted)
  exact ⟨fun grant inside => bne_iff_ne.mp (free grant inside), fresh, accessGrants, rows, rfl⟩

/-- What a call on grants makes of each of them. -/
structure Touches (entry : LinkPlan × LinkResponse) (touched : AccessGrant → AccessGrant) :
    Prop where
  uuid : ∀ g, (touched g).uuid = g.uuid
  learner : ∀ g, (touched g).learnerId = g.learnerId
  credential : ∀ g, (touched g).credentialId = g.credentialId
  token : ∀ g, (touched g).tokenHash = g.tokenHash
  scope : ∀ g, (touched g).scope = g.scope
  expiry : ∀ g, (touched g).expiresAt = g.expiresAt
  limit : ∀ g, (touched g).maxViews = g.maxViews
  revoked : ∀ g, (touched g).revokedAt = none ↔ g.revokedAt = none ∧ revokes g.uuid entry = false
  views : ∀ g, (touched g).viewCount = g.viewCount + if follows g.uuid entry then 1 else 0

/-- A call that neither revokes nor discloses touches no grant. -/
theorem touches_id {entry : LinkPlan × LinkResponse} (kept : ∀ id, revokes id entry = false)
    (unseen : ∀ id, follows id entry = false) : Touches entry id :=
  ⟨fun _ => rfl, fun _ => rfl, fun _ => rfl, fun _ => rfl, fun _ => rfl, fun _ => rfl,
    fun _ => rfl, fun g => by simp [kept g.uuid], fun g => by simp [unseen g.uuid]⟩

/-- **What a call on grants writes**: it touches those that are there, and leaves the
credentials. -/
theorem grantCommit_touches {plan : GrantPlan} {res : GrantResponse}
    (committed : grantCommit rt plan s = .ok (res, t)) :
    t.credentials = s.credentials ∧
      (∀ id, revokes id (.inr plan, .inr res) = true ∨ follows id (.inr plan, .inr res) = true →
        s.accessGrants.find? id ≠ none) ∧
      ∃ touched, Touches (.inr plan, .inr res) touched ∧
        t.accessGrants.rows = s.accessGrants.rows.map touched := by
  cases plan with
  | revoke now auth learnerId accessGrantId =>
    obtain ⟨⟨row, grants⟩, updated, same⟩ := bind_eq_ok.mp committed
    obtain ⟨old, found, -, rfl⟩ := updateRow_eq_ok.mp updated
    obtain ⟨-, rfl⟩ := Prod.mk.inj (pure_eq_ok.mp same)
    refine ⟨rfl, fun id named => ?_, _, ?_, Table.rows_update _ _ _ (revokedAt_uuid now)⟩
    · obtain rfl : accessGrantId = id := by
        simpa [revokes, follows, GrantPlan.discloses] using named
      rw [found]
      simp
    · refine ⟨?_, ?_, ?_, ?_, ?_, ?_, ?_, fun g => ?_, fun g => ?_⟩
      iterate 7
        intro g
        split <;> rfl
      · by_cases here : g.uuid = accessGrantId
        · simp [here, revokedAt, revokes]
        · simp [here, revokes, Ne.symm here]
      · by_cases here : g.uuid = accessGrantId
        · simp [here, revokedAt, follows, GrantPlan.discloses]
        · simp [here, follows, GrantPlan.discloses]
  | verify env context plan =>
    obtain ⟨⟨result, t'⟩, verified, same⟩ := bind_eq_ok.mp committed
    obtain ⟨-, rfl⟩ := Prod.mk.inj (pure_eq_ok.mp same)
    cases plan with
    | notFound =>
      obtain ⟨-, rfl⟩ := Prod.mk.inj (Except.ok.inj verified)
      refine ⟨rfl, fun id named => absurd named ?_, id, touches_id (fun _ => rfl) (fun _ => rfl),
        ?_⟩
      · simp [revokes, follows, GrantPlan.discloses]
      · exact (List.map_id _).symm
    | denied accessGrant reason =>
      obtain ⟨-, events, -, rfl⟩ := recorded_spec verified
      refine ⟨rfl, fun id named => absurd named ?_, id, touches_id (fun _ => rfl) (fun _ => rfl),
        ?_⟩
      · simp [revokes, follows, GrantPlan.discloses]
      · exact (List.map_id _).symm
    | inactive accessGrant credential =>
      obtain ⟨-, events, -, rfl⟩ := recorded_spec verified
      refine ⟨rfl, fun id named => absurd named ?_, id, touches_id (fun _ => rfl) (fun _ => rfl),
        ?_⟩
      · simp [revokes, follows, GrantPlan.discloses]
      · exact (List.map_id _).symm
    | confirmed accessGrant credential view =>
      obtain ⟨-, row, events, ledger, found, -, rfl⟩ := disclose_spec verified
      refine ⟨rfl, fun id named => ?_, _, ?_, Table.rows_update _ _ _ viewed_uuid⟩
      · obtain rfl : accessGrant.uuid = id := by
          simpa [revokes, follows, GrantPlan.discloses] using named
        rw [found]
        simp
      · refine ⟨?_, ?_, ?_, ?_, ?_, ?_, ?_, fun g => ?_, fun g => ?_⟩
        iterate 7
          intro g
          split <;> rfl
        · by_cases here : g.uuid = accessGrant.uuid
          · simp [here, viewed, revokes]
          · simp [here, revokes]
        · by_cases here : g.uuid = accessGrant.uuid
          · simp [here, viewed, follows, GrantPlan.discloses]
          · simp [here, follows, GrantPlan.discloses, Ne.symm here]

theorem linkLog_frame (plan : LinkPlan) (res : LinkResponse) (s : Store) :
    ∃ events, (linkMethods rt).log plan res s = { s with auditEvents := events } := by
  cases plan with
  | inl plan =>
    cases res with
    | inl res => exact ⟨_, rfl⟩
    | inr res => exact ⟨s.auditEvents, rfl⟩
  | inr plan =>
    cases res with
    | inl res => exact ⟨s.auditEvents, rfl⟩
    | inr res =>
      show ∃ events, grantLog plan res s = _
      unfold grantLog
      split
      · split_ifs
        · exact ⟨_, rfl⟩
        · exact ⟨s.auditEvents, rfl⟩
      · exact ⟨s.auditEvents, rfl⟩

/-! ### What a token opens -/

theorem deniedReason_eq_none {now : Time} {grant : AccessGrant} :
    deniedReason now grant = none ↔
      grant.revokedAt = none ∧ (∀ t ∈ grant.expiresAt, now < t) ∧
        ∀ n ∈ grant.maxViews, grant.viewCount < n := by
  unfold deniedReason
  cases grant.revokedAt with
  | some t => simp
  | none =>
    cases grant.expiresAt with
    | none => cases grant.maxViews <;> simp
    | some t =>
      by_cases expired : t ≤ now
      · simp [expired]
      · cases grant.maxViews <;> simp [expired, not_le.mp expired]

theorem tokenCheck_eq_confirmed {env : VerifyEnv} {token : String} {grant : AccessGrant}
    {credential : Credential} {view : Json} :
    tokenCheck rt env token s = .ok (.confirmed grant credential view) ↔
      accessGrantByToken rt token s = some grant ∧ deniedReason env.now grant = none ∧
        credential.status = .active ∧ Shows s grant.credentialId grant.scope credential view := by
  unfold tokenCheck
  constructor
  · intro checked
    split at checked
    · exact absurd (Except.ok.inj checked) (by simp)
    · rename_i found
      obtain ⟨credential', held, rest⟩ := bind_eq_ok.mp checked
      obtain ⟨learner, known, rest⟩ := bind_eq_ok.mp rest
      obtain ⟨institution, issued, rest⟩ := bind_eq_ok.mp rest
      split at rest
      · exact absurd (pure_eq_ok.mp rest) (by simp)
      · rename_i open_
        split_ifs at rest with inactive
        · exact absurd (pure_eq_ok.mp rest) (by simp)
        · obtain ⟨rfl, rfl, rfl⟩ := TokenPlan.confirmed.inj (pure_eq_ok.mp rest)
          exact ⟨found, open_, not_not.mp inactive, orThrow_eq_ok.mp held, learner, institution,
            orThrow_eq_ok.mp known, orThrow_eq_ok.mp issued, rfl⟩
  · rintro ⟨found, allowed, active, held, learner, institution, known, issued, rfl⟩
    simp only [found, allowed]
    refine bind_eq_ok.mpr ⟨credential, orThrow_eq_ok.mpr held, ?_⟩
    refine bind_eq_ok.mpr ⟨learner, orThrow_eq_ok.mpr known, ?_⟩
    refine bind_eq_ok.mpr ⟨institution, orThrow_eq_ok.mpr issued, ?_⟩
    rw [if_neg (not_not.mpr active)]
    rfl

end Commits

/-! ### The invariant holds -/

section Runs

variable {rt : Runtime} {s t : Store} {committed : List (LinkPlan × LinkResponse)}

/-- A disclosure that the owner of the credential has asked for: through a link of theirs to it, in
the scope they chose. -/
def AskedFor (committed : List (LinkPlan × LinkResponse)) (grant : AccessGrant)
    (credential : Credential) (view : Json) : Prop :=
  ∃ plan, Shared plan committed ∧ grant.uuid = plan.env.grantUuid ∧
    credential.uuid = plan.credential.uuid ∧ credential.learnerId = plan.learnerId ∧
      ∃ learner institution, learner.uuid = plan.learnerId ∧
        view = scopeCredential plan.input.scope credential learner institution

/-- What holds of a plan in flight: the credential of a new link is its learner's, and a disclosure
is asked for. -/
def Prepared (plan : LinkPlan) (s : Store) (committed : List (LinkPlan × LinkResponse)) : Prop :=
  match plan with
  | .inl plan => ∃ credential, s.credentials.find? plan.credential.uuid = some credential ∧
      credential.learnerId = plan.learnerId
  | .inr (.verify _ _ (.confirmed grant credential view)) =>
      AskedFor committed grant credential view
  | .inr _ => True

theorem shared_append {plan : SharePlan} {entry : LinkPlan × LinkResponse} :
    Shared plan (committed ++ [entry]) ↔ Shared plan committed ∨ entry.1 = .inl plan := by
  obtain ⟨went, res⟩ := entry
  unfold Shared
  constructor
  · rintro ⟨res', inside⟩
    rcases List.mem_append.mp inside with old | new
    · exact .inl ⟨res', old⟩
    · exact .inr (Prod.mk.inj (List.mem_singleton.mp new)).1.symm
  · rintro (⟨res', old⟩ | rfl)
    · exact ⟨res', List.mem_append_left _ old⟩
    · exact ⟨res, List.mem_append_right _ (List.mem_singleton_self _)⟩

theorem AskedFor.append {grant : AccessGrant} {credential : Credential} {view : Json}
    (asked : AskedFor committed grant credential view) (entry : LinkPlan × LinkResponse) :
    AskedFor (committed ++ [entry]) grant credential view := by
  obtain ⟨plan, shared, rest⟩ := asked
  exact ⟨plan, shared_append.mpr (.inl shared), rest⟩

/-- **A call makes of a grant what the grant is to mirror.** -/
theorem made_touched {plan : SharePlan} {grant : AccessGrant} {entry : LinkPlan × LinkResponse}
    {touched : AccessGrant → AccessGrant} (touches : Touches entry touched)
    (made : Made rt committed plan grant) :
    Made rt (committed ++ [entry]) plan (touched grant) where
  uuid := (touches.uuid grant).trans made.uuid
  learner := (touches.learner grant).trans made.learner
  credential := (touches.credential grant).trans made.credential
  token := (touches.token grant).trans made.token
  scope := (touches.scope grant).trans made.scope
  expiry := (touches.expiry grant).trans made.expiry
  limit := (touches.limit grant).trans made.limit
  revoked := by
    rw [touches.revoked, made.revoked, touches.uuid, List.countP_append, List.countP_singleton]
    cases revokes grant.uuid entry <;> simp
  views := by
    rw [touches.views, made.views, touches.uuid, List.countP_append, List.countP_singleton]
    cases follows grant.uuid entry <;> simp

/-- The grants and the owners are all that the invariant is about. -/
theorem Mirrors.of_frame (mirrors : Mirrors rt s committed)
    (grants : t.accessGrants = s.accessGrants)
    (owners : Table.Keeps (·.learnerId) s.credentials t.credentials) : Mirrors rt t committed where
  made := by
    rw [grants]
    exact mirrors.made
  kept := by
    rw [grants]
    exact mirrors.kept
  tokens := by
    rw [grants]
    exact mirrors.tokens
  named := by
    rw [grants]
    exact mirrors.named
  owned := by
    intro plan shared
    obtain ⟨credential, found, owner⟩ := mirrors.owned plan shared
    obtain ⟨credential', there, same⟩ := owners _ credential found
    exact ⟨credential', there, same.trans owner⟩

theorem Prepared.of_owners {plan : LinkPlan} (prepared : Prepared plan s committed)
    (owners : Table.Keeps (·.learnerId) s.credentials t.credentials) :
    Prepared plan t committed := by
  unfold Prepared at prepared ⊢
  split
  · obtain ⟨credential, found, owner⟩ := prepared
    obtain ⟨credential', there, same⟩ := owners _ credential found
    exact ⟨credential', there, same.trans owner⟩
  · exact prepared
  · trivial

theorem Prepared.append {plan : LinkPlan} (prepared : Prepared plan s committed)
    (entry : LinkPlan × LinkResponse) : Prepared plan s (committed ++ [entry]) := by
  unfold Prepared at prepared ⊢
  split
  · exact prepared
  · exact prepared.append entry
  · trivial

/-- **Checks prepare their plans.** -/
theorem prepared_of_check {call : LinkCall} {plan : LinkPlan} (mirrors : Mirrors rt s committed)
    (checked : (linkMethods rt).check call s = .ok plan) : Prepared plan s committed := by
  rcases Method.sum_check checked with ⟨call, share, rfl, made⟩ | ⟨call, other, rfl, made⟩
  · obtain ⟨inside, owner⟩ := shareCheck_spec made
    exact ⟨share.credential, Table.find?_eq_some.mpr ⟨inside, rfl⟩, owner⟩
  · cases call with
    | revokeGrant now auth body =>
      obtain ⟨learnerId, -, rest⟩ := bind_eq_ok.mp made
      obtain ⟨accessGrantId, -, same⟩ := bind_eq_ok.mp rest
      obtain rfl := pure_eq_ok.mp same
      trivial
    | verifyToken env token context =>
      obtain ⟨plan, tested, same⟩ := bind_eq_ok.mp made
      obtain rfl := pure_eq_ok.mp same
      cases plan with
      | notFound => trivial
      | denied grant reason => trivial
      | inactive grant credential => trivial
      | confirmed grant credential view =>
        obtain ⟨found, -, -, held, learner, institution, known, -, rfl⟩ :=
          tokenCheck_eq_confirmed.mp tested
        obtain ⟨link, shared, of⟩ := mirrors.made grant (List.mem_of_find?_eq_some found)
        obtain ⟨credential', owned, owner⟩ := mirrors.owned link shared
        rw [of.credential, owned] at held
        obtain rfl := Option.some.inj held
        refine ⟨link, shared, of.uuid, Table.find?_key owned, owner, learner, institution, ?_, ?_⟩
        · exact (Table.find?_key known).trans owner
        · rw [of.scope]

/-- **A new link** keeps the invariant. -/
theorem mirrors_share {plan : SharePlan} {res : ShareResponse} (mirrors : Mirrors rt s committed)
    (owned : ∃ credential, s.credentials.find? plan.credential.uuid = some credential ∧
      credential.learnerId = plan.learnerId)
    (made : shareCommit rt plan s = .ok (res, t)) :
    Mirrors rt t (committed ++ [(.inl plan, .inl res)]) := by
  obtain ⟨freeToken, freeId, accessGrants, rows, rfl⟩ := shareCommit_spec made
  have old : Touches (.inl plan, .inl res) id := touches_id (fun _ => rfl) fun _ => rfl
  have absent : s.accessGrants.find? plan.env.grantUuid = none := Table.find?_eq_none.mpr freeId
  obtain ⟨unrevoked, unseen⟩ := mirrors.named _ absent
  have new : Made rt (committed ++ [(.inl plan, .inl res)]) plan (newGrant rt plan) := by
    refine ⟨rfl, rfl, rfl, rfl, rfl, rfl, rfl, ?_, ?_⟩
    · rw [List.countP_append, show (newGrant rt plan).uuid = plan.env.grantUuid from rfl,
        unrevoked]
      exact ⟨fun _ => rfl, fun _ => rfl⟩
    · rw [List.countP_append, show (newGrant rt plan).uuid = plan.env.grantUuid from rfl, unseen]
      rfl
  refine ⟨?_, ?_, ?_, ?_, ?_⟩
  · intro grant inside
    rw [rows] at inside
    rcases List.mem_append.mp inside with before | last
    · obtain ⟨link, shared, of⟩ := mirrors.made grant before
      exact ⟨link, shared_append.mpr (.inl shared), made_touched old of⟩
    · rw [List.mem_singleton.mp last]
      exact ⟨plan, shared_append.mpr (.inr rfl), new⟩
  · intro link shared
    rcases shared_append.mp shared with before | last
    · obtain ⟨grant, inside, of⟩ := mirrors.kept link before
      exact ⟨grant, rows ▸ List.mem_append_left _ inside, made_touched old of⟩
    · obtain rfl : plan = link := Sum.inl.inj last
      exact ⟨newGrant rt plan, rows ▸ List.mem_append_right _ (List.mem_singleton_self _), new⟩
  · intro g inside h there same
    rw [rows] at inside there
    rcases List.mem_append.mp inside with before | last
    · rcases List.mem_append.mp there with before' | last'
      · exact mirrors.tokens g before h before' same
      · rw [List.mem_singleton.mp last'] at same
        exact absurd same (freeToken g before)
    · rcases List.mem_append.mp there with before' | last'
      · rw [List.mem_singleton.mp last] at same
        exact absurd same.symm (freeToken h before')
      · rw [List.mem_singleton.mp last, List.mem_singleton.mp last']
  · intro id gone
    have before : s.accessGrants.find? id = none := by
      refine Table.find?_eq_none.mpr fun r inside => ?_
      exact Table.find?_eq_none.mp gone r (rows ▸ List.mem_append_left _ inside)
    rw [List.countP_append, List.countP_append]
    exact mirrors.named id before
  · intro link shared
    rcases shared_append.mp shared with before | last
    · exact mirrors.owned link before
    · obtain rfl : plan = link := Sum.inl.inj last
      exact owned

/-- **A call on grants** keeps the invariant. -/
theorem mirrors_grant {plan : GrantPlan} {res : GrantResponse} (mirrors : Mirrors rt s committed)
    (went : grantCommit rt plan s = .ok (res, t)) :
    Mirrors rt t (committed ++ [(.inr plan, .inr res)]) := by
  obtain ⟨credentials, names, touched, touches, rows⟩ := grantCommit_touches went
  have earlier : ∀ link, Shared link (committed ++ [(.inr plan, .inr res)]) →
      Shared link committed := by
    intro link shared
    rcases shared_append.mp shared with before | last
    · exact before
    · exact absurd last (by simp)
  refine ⟨?_, ?_, ?_, ?_, ?_⟩
  · intro grant inside
    rw [rows] at inside
    obtain ⟨g, there, rfl⟩ := List.mem_map.mp inside
    obtain ⟨link, shared, of⟩ := mirrors.made g there
    exact ⟨link, shared_append.mpr (.inl shared), made_touched touches of⟩
  · intro link shared
    obtain ⟨g, there, of⟩ := mirrors.kept link (earlier link shared)
    exact ⟨touched g, rows ▸ List.mem_map_of_mem there, made_touched touches of⟩
  · intro g inside h there same
    rw [rows] at inside there
    obtain ⟨g', before, rfl⟩ := List.mem_map.mp inside
    obtain ⟨h', before', rfl⟩ := List.mem_map.mp there
    rw [touches.token, touches.token] at same
    rw [mirrors.tokens g' before h' before' same]
  · intro id gone
    have before : s.accessGrants.find? id = none := by
      refine Table.find?_eq_none.mpr fun r inside => ?_
      rw [← touches.uuid r]
      exact Table.find?_eq_none.mp gone (touched r) (rows ▸ List.mem_map_of_mem inside)
    have unnamed : revokes id (.inr plan, .inr res) = false ∧
        follows id (.inr plan, .inr res) = false := by
      rw [← Bool.not_eq_true, ← Bool.not_eq_true, ← not_or]
      exact fun named => names id named before
    rw [List.countP_append, List.countP_append, List.countP_singleton, List.countP_singleton,
      unnamed.1, unnamed.2]
    exact mirrors.named id before
  · intro link shared
    rw [credentials]
    exact mirrors.owned link (earlier link shared)

/-- The store mirrors what is committed, and every committed disclosure was asked for. -/
structure Told (rt : Runtime) (s : Store) (committed : List (LinkPlan × LinkResponse)) :
    Prop where
  mirrors : Mirrors rt s committed
  asked : ∀ env context grant credential view res,
    (.inr (.verify env context (.confirmed grant credential view)), res) ∈ committed →
      AskedFor committed grant credential view

theorem told_commit {plan : LinkPlan} {res : LinkResponse} (told : Told rt s committed)
    (prepared : Prepared plan s committed) (went : (linkMethods rt).commit plan s = .ok (res, t)) :
    Told rt t (committed ++ [(plan, res)]) ∧
      ∀ other, Prepared other s committed → Prepared other t (committed ++ [(plan, res)]) := by
  have asked : ∀ env context grant credential view res',
      (.inr (.verify env context (.confirmed grant credential view)), res') ∈
        committed ++ [(plan, res)] →
      AskedFor (committed ++ [(plan, res)]) grant credential view := by
    intro env context grant credential view res' inside
    rcases List.mem_append.mp inside with before | last
    · exact (told.asked env context grant credential view res' before).append _
    · obtain ⟨rfl, -⟩ := Prod.mk.inj (List.mem_singleton.mp last)
      exact AskedFor.append prepared _
  cases plan with
  | inl share =>
    obtain ⟨⟨res', t'⟩, made, same⟩ := map_eq_ok.mp went
    obtain ⟨rfl, rfl⟩ := Prod.mk.inj same
    refine ⟨⟨mirrors_share told.mirrors prepared made, asked⟩, fun other held => ?_⟩
    obtain ⟨-, -, accessGrants, -, rfl⟩ := shareCommit_spec made
    exact (held.of_owners (Table.keeps_refl _ _)).append _
  | inr plan =>
    obtain ⟨⟨res', t'⟩, made, same⟩ := map_eq_ok.mp went
    obtain ⟨rfl, rfl⟩ := Prod.mk.inj same
    refine ⟨⟨mirrors_grant told.mirrors made, asked⟩, fun other held => ?_⟩
    have credentials := (grantCommit_touches made).1
    refine Prepared.append (held.of_owners ?_) _
    rw [credentials]
    exact Table.keeps_refl _ _

/-- **The invariant, along every run** that begins without grants. -/
theorem told_runs (rt : Runtime) (s : Store) (events : List (Entry LinkCall Elsewhere))
    (start : s.accessGrants.rows = []) :
    Method.Kept (Told rt) Prepared (runs (linkStep rt) (Method.blank s) events) := by
  refine Method.kept_runs ?_ ?_ ?_ ?_ ?_ events
  · exact fun call s committed plan told checked => prepared_of_check told.mirrors checked
  · exact fun plan res s t committed told prepared went => told_commit told prepared went
  · intro plan res s committed told
    obtain ⟨events, same⟩ :
        ∃ events, (linkMethods rt).log plan res s = { s with auditEvents := events } :=
      linkLog_frame plan res s
    rw [same]
    refine ⟨⟨told.mirrors.of_frame rfl (Table.keeps_refl _ _), told.asked⟩, ?_⟩
    exact fun other held => held.of_owners (Table.keeps_refl _ _)
  · intro elsewhere s committed told
    refine ⟨⟨told.mirrors.of_frame (elsewhere.grants s) (elsewhere.owners s), told.asked⟩, ?_⟩
    exact fun other held => held.of_owners (elsewhere.owners s)
  · have nobody : ∀ plan, ¬ Shared plan [] := by
      rintro plan ⟨res, inside⟩
      exact List.not_mem_nil inside
    refine ⟨⟨?_, ?_, ?_, ?_, ?_⟩, ?_⟩
    · rw [start]
      exact fun grant inside => absurd inside List.not_mem_nil
    · exact fun plan shared => absurd shared (nobody plan)
    · rw [start]
      exact fun grant inside => absurd inside List.not_mem_nil
    · exact fun id _ => ⟨rfl, rfl⟩
    · exact fun plan shared => absurd shared (nobody plan)
    · exact fun env context grant credential view res inside => absurd inside List.not_mem_nil

end Runs

/-! ### Links open what they were made for -/

/-- **A token opens exactly what a live link leads to**, in every state that the service reaches
from a store without grants, whatever calls are in flight and whatever the rest of the system does
in between. -/
theorem opens_iff_live (rt : Runtime) (s : Store) (events : List (Entry LinkCall Elsewhere))
    (start : s.accessGrants.rows = []) (env : VerifyEnv) (token : String)
    (credential : Credential) (view : Json) :
    Opens rt env token (runs (linkStep rt) (Method.blank s) events).pool.store credential view ↔
      credential.status = .active ∧
        ∃ plan, Live rt env.now token (runs (linkStep rt) (Method.blank s) events).committed plan ∧
          Shows (runs (linkStep rt) (Method.blank s) events).pool.store plan.credential.uuid
            plan.input.scope credential view := by
  obtain ⟨⟨mirrors, -⟩, -⟩ := told_runs rt s events start
  unfold Opens
  simp only [tokenCheck_eq_confirmed, deniedReason_eq_none]
  constructor
  · rintro ⟨grant, found, ⟨unrevoked, unexpired, unspent⟩, active, shows⟩
    obtain ⟨plan, shared, made⟩ := mirrors.made grant (List.mem_of_find?_eq_some found)
    have hash : grant.tokenHash = rt.sha256 token := by simpa using List.find?_some found
    refine ⟨active, plan, ⟨shared, made.token.symm.trans hash, ?_, ?_, ?_⟩, ?_⟩
    · rw [← made.uuid]
      exact made.revoked.mp unrevoked
    · rw [← made.expiry]
      exact unexpired
    · rw [← made.limit, ← made.uuid, ← made.views]
      exact unspent
    · rw [← made.credential, ← made.scope]
      exact shows
  · rintro ⟨active, plan, live, shows⟩
    obtain ⟨grant, inside, made⟩ := mirrors.kept plan live.shared
    have found : accessGrantByToken rt token
        (runs (linkStep rt) (Method.blank s) events).pool.store = some grant := by
      unfold accessGrantByToken
      refine FirstMatch.find?_of_only inside ?_ ?_
      · simpa using made.token.trans live.token
      · intro other there same
        refine mirrors.tokens other there grant inside ?_
        rw [made.token, live.token]
        simpa using same
    refine ⟨grant, found, ⟨?_, ?_, ?_⟩, active, ?_⟩
    · rw [made.revoked, made.uuid]
      exact live.unrevoked
    · rw [made.expiry]
      exact live.unexpired
    · rw [made.limit, made.views, made.uuid]
      exact live.unspent
    · rw [made.credential, made.scope]
      exact shows

def unshared : Store :=
  { sharedCredential with accessGrants := .empty }

def owner : AuthTokenPayload where
  sub := "50000000-0000-4000-8000-000000000001"
  email := "learner@example.test"
  fullName := "First Learner"
  role := .student
  kind := none
  learnerId := some "40000000-0000-4000-8000-000000000001"
  institutionId := none
  institutionUuid := none
  institutionUserId := none
  assignedScopes := none
  apiKeyId := none
  clientId := none
  productCode := none

/-- A link to the credential, for two visits. -/
def share : LinkCall :=
  .inl
    { env := ⟨grantId, "link"⟩
      auth := owner
      body := .obj
        [("credentialRef", .str "80000000-0000-4000-8000-000000000001"),
          ("scope", .str "GPA"), ("recipientLabel", .str "Employer"), ("maxViews", .num 2)] }

/-- A link is made, and followed once. -/
def followed : List (Entry LinkCall Elsewhere) :=
  [.turn (.begin share), .turn (.advance 0 .done),
    .turn (.begin (.inr (.verifyToken (visit "event-1") "link" visitor))),
    .turn (.advance 1 .done)]

/-- The link opens the credential once more after a visit. -/
theorem opens_iff_live_made :
    ∃ credential view,
      Opens .plain (visit "event-2") "link"
        (runs (linkStep .plain) (Method.blank unshared) followed).pool.store credential view := by
  refine ⟨_, _, (opens_iff_live .plain unshared followed rfl (visit "event-2") "link" _ _).mpr
    ⟨?_, _, ⟨⟨_, List.mem_cons_self⟩, rfl, rfl, ?_, ?_⟩, ⟨rfl, _, _, rfl, rfl, rfl⟩⟩⟩
  · rfl
  · exact fun t inside => absurd inside (Option.not_mem_none t)
  · intro n limit
    obtain rfl : 2 = n := Option.some.inj limit
    show (1 : ℤ) < 2
    decide

/-- **Every disclosure was asked for**: whatever is disclosed through a link is a credential of the
learner who made it, in the scope they chose. -/
theorem discloses_shared (rt : Runtime) (s : Store) (events : List (Entry LinkCall Elsewhere))
    (start : s.accessGrants.rows = []) (env : VerifyEnv) (context : VerificationContext)
    (grant : AccessGrant) (credential : Credential) (view : Json) (res : LinkResponse)
    (disclosed : (.inr (.verify env context (.confirmed grant credential view)), res) ∈
      (runs (linkStep rt) (Method.blank s) events).committed) :
    AskedFor (runs (linkStep rt) (Method.blank s) events).committed grant credential view :=
  (told_runs rt s events start).store.asked env context grant credential view res disclosed

theorem discloses_shared_followed :
    ∃ grant credential view,
      AskedFor (runs (linkStep .plain) (Method.blank unshared) followed).committed grant credential
        view := by
  refine ⟨_, _, _, discloses_shared .plain unshared followed rfl (visit "event-1") visitor _ _ _ _
    (List.mem_cons_of_mem _ List.mem_cons_self)⟩

end AcadID.ShareLinks
