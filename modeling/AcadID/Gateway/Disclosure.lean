/-
**Share links under verifications and revocations in flight together.**

A verification reads the grant and tests it, and counts its view in a later transaction that tests
nothing; a revocation is one write.

* `grantMethods` — `verifyToken` and `revokeGrant` as one method; a verification has no log entry.
* `Counted` — as many confirmed disclosures as views, and no more than the limit allows.
* `Sound` — a turn discloses nothing after the revocation, and leaves the grant counted.
* `sound_iff_current` — **exactly when every turn of a run is sound**: when each counting transaction
  finds the grant as the tests of its verification found it, not revoked and below its limit.
-/

import AcadID.Gateway.Outcomes
import AcadID.Lib.Method
import AcadID.Lib.Run

namespace AcadID.Disclosure

open Lib Verification

/-! ### One method -/

open Schema in
/-- `revokeAccessGrantSchema` -/
def revokeAccessGrantSchema (rt : Runtime) : Schema Uuid :=
  object fun v => field v "accessGrantId" (string [formatted rt.isUuid])

/-- `requireLearner` -/
def requireLearner (auth : AuthTokenPayload) : Except ServiceError Uuid :=
  orThrow (auth.learnerId.filter (· ≠ ""))
    (.badRequest "Authenticated account is not linked to a learner passport.")

inductive GrantCall where
  | verifyToken (env : VerifyEnv) (token : String) (context : VerificationContext)
  | revokeGrant (now : Time) (auth : AuthTokenPayload) (body : Json)

inductive GrantPlan where
  | verify (env : VerifyEnv) (context : VerificationContext) (plan : TokenPlan)
  | revoke (now : Time) (auth : AuthTokenPayload) (learnerId accessGrantId : Uuid)

inductive GrantResponse where
  | verified (result : VerificationResult)
  | revoked (accessGrant : AccessGrant)

def grantCheck (rt : Runtime) (call : GrantCall) (s : Store) : Except ServiceError GrantPlan :=
  match call with
  | .verifyToken env token context => do
    let plan ← tokenCheck rt env token s
    return .verify env context plan
  | .revokeGrant now auth body => do
    let learnerId ← requireLearner auth
    let accessGrantId ← parseBody (revokeAccessGrantSchema rt) body
    return .revoke now auth learnerId accessGrantId

def revokedAt (now : Time) (accessGrant : AccessGrant) : AccessGrant :=
  { accessGrant with revokedAt := some now }

@[simp] theorem revokedAt_uuid (now : Time) (accessGrant : AccessGrant) :
    (revokedAt now accessGrant).uuid = accessGrant.uuid := rfl

def grantCommit (rt : Runtime) (plan : GrantPlan) (s : Store) :
    Except ServiceError (GrantResponse × Store) :=
  match plan with
  | .verify env context plan => do
    let (result, s) ← tokenCommit rt env context plan s
    return (.verified result, s)
  | .revoke now _ _ accessGrantId => do
    let (accessGrant, accessGrants) ← updateRow s.accessGrants accessGrantId (revokedAt now)
      (revokedAt_uuid now)
    return (.revoked accessGrant, { s with accessGrants := accessGrants })

def grantLog (plan : GrantPlan) (res : GrantResponse) (s : Store) : Store :=
  match plan, res with
  | .revoke _ auth learnerId _, .revoked accessGrant =>
    -- The owner is compared after the write; the call of another learner throws here.
    if accessGrant.learnerId = learnerId then
      s.audit
        { actorType := inferActorType none (some auth.sub)
          actorId := some auth.sub
          actorRole := some auth.role
          action := "access_grant.revoke"
          targetType := "AccessGrant"
          targetId := some accessGrant.uuid
          institutionId := none
          outcome := "SUCCESS"
          reason := none
          metadata := .obj [] }
    else s
  | _, _ => s

def grantMethods (rt : Runtime) : Method Store ServiceError GrantCall GrantPlan GrantResponse where
  check := grantCheck rt
  commit := grantCommit rt
  log := grantLog

abbrev GrantPool := Pool Store GrantPlan GrantResponse

/-! ### Disclosures -/

/-- The confirmed disclosures made through a grant. -/
def disclosures (id : Uuid) (s : Store) : ℕ :=
  s.verificationEvents.rows.countP fun event =>
    event.accessGrantId == some id && event.outcome == .confirmed

/-- As many disclosures as views, and no more than the limit. -/
def Counted (id : Uuid) (s : Store) : Prop :=
  ∀ accessGrant ∈ s.accessGrants.find? id,
    (disclosures id s : ℤ) = accessGrant.viewCount ∧
      ∀ maxViews ∈ accessGrant.maxViews, accessGrant.viewCount ≤ maxViews

/-- The plan is a disclosure through the grant. -/
def GrantPlan.discloses (id : Uuid) : GrantPlan → Bool
  | .verify _ _ (.confirmed accessGrant _ _) => accessGrant.uuid == id
  | _ => false

/-- The turn lets the counting transaction of a disclosure through the grant commit. -/
def Discloses (rt : Runtime) (id : Uuid) (p : GrantPool) (e : Turn GrantCall) : Prop :=
  ((grantMethods rt).committing p e).any (fun went => went.1.discloses id) = true

/-- A turn discloses nothing through a revoked grant, and leaves the grant counted. -/
def Sound (rt : Runtime) (id : Uuid) (p : GrantPool) (e : Turn GrantCall) : Prop :=
  (Discloses rt id p e → ∀ accessGrant ∈ p.store.accessGrants.find? id,
      accessGrant.revokedAt = none) ∧
    Counted id ((grantMethods rt).turn p e).store

/-- The counting transaction of a disclosure finds the grant not revoked and below its limit. -/
def Current (rt : Runtime) (id : Uuid) (p : GrantPool) (e : Turn GrantCall) : Prop :=
  Discloses rt id p e → ∀ accessGrant ∈ p.store.accessGrants.find? id,
    accessGrant.revokedAt = none ∧
      ∀ maxViews ∈ accessGrant.maxViews, accessGrant.viewCount < maxViews

/-! ### What the transactions do to a grant -/

/-- Two stores that agree on the disclosures, the views and the limit of a grant. -/
def SameCount (id : Uuid) (s t : Store) : Prop :=
  disclosures id t = disclosures id s ∧
    (t.accessGrants.find? id).map (fun g => (g.viewCount, g.maxViews)) =
      (s.accessGrants.find? id).map fun g => (g.viewCount, g.maxViews)

theorem Counted.of_sameCount {id : Uuid} {s t : Store} (counted : Counted id s)
    (same : SameCount id s t) : Counted id t := by
  obtain ⟨events, grants⟩ := same
  intro accessGrant found
  rw [Option.mem_def] at found
  rw [found, Option.map_some, eq_comm, Option.map_eq_some_iff] at grants
  obtain ⟨old, foundOld, pair⟩ := grants
  obtain ⟨views, limit⟩ := Prod.mk.inj pair
  rw [events, ← views, ← limit]
  exact counted old foundOld

theorem disclosures_append {id : Uuid} {s t : Store} {event : VerificationEvent}
    (rows : t.verificationEvents.rows = s.verificationEvents.rows ++ [event]) :
    disclosures id t = disclosures id s +
      if event.accessGrantId == some id && event.outcome == .confirmed then 1 else 0 := by
  unfold disclosures
  rw [rows, List.countP_append, List.countP_singleton]

/-- An event that confirms nothing through the grant. -/
theorem sameCount_recorded {id : Uuid} {s t : Store} {event : VerificationEvent}
    {result answer : VerificationResult} (unconfirmed : event.outcome ≠ .confirmed)
    (written : recorded event result s = .ok (answer, t)) : SameCount id s t := by
  obtain ⟨-, events, rows, rfl⟩ := recorded_spec written
  refine ⟨?_, rfl⟩
  rw [disclosures_append rows]
  simp [unconfirmed]

/-- **What a commit does to a grant**: a disclosure through it counts one view and one event;
anything else leaves its count as it is. -/
theorem grantCommit_spec {rt : Runtime} {id : Uuid} {plan : GrantPlan} {s t : Store}
    {res : GrantResponse} (committed : grantCommit rt plan s = .ok (res, t)) :
    if plan.discloses id then
      ∃ row, s.accessGrants.find? id = some row ∧ t.accessGrants.find? id = some (viewed row) ∧
        disclosures id t = disclosures id s + 1
    else SameCount id s t := by
  cases plan with
  | revoke now auth learnerId accessGrantId =>
    rw [if_neg (by simp [GrantPlan.discloses])]
    obtain ⟨⟨row, grants⟩, updated, same⟩ := bind_eq_ok.mp committed
    obtain ⟨old, found, -, rfl⟩ := updateRow_eq_ok.mp updated
    rw [pure_eq_ok] at same
    obtain ⟨-, rfl⟩ := Prod.mk.inj same
    refine ⟨rfl, ?_⟩
    dsimp only
    rw [Table.find?_update]
    split_ifs
    · rw [Option.map_map]
      rfl
    · rfl
  | verify env context plan =>
    obtain ⟨⟨result, t'⟩, verified, same⟩ := bind_eq_ok.mp committed
    rw [pure_eq_ok] at same
    obtain ⟨-, rfl⟩ := Prod.mk.inj same
    cases plan with
    | notFound =>
      rw [if_neg (by simp [GrantPlan.discloses])]
      obtain ⟨-, rfl⟩ := Prod.mk.inj (Except.ok.inj verified)
      exact ⟨rfl, rfl⟩
    | denied accessGrant reason =>
      rw [if_neg (by simp [GrantPlan.discloses])]
      exact sameCount_recorded (by simp [newEvent]) verified
    | inactive accessGrant credential =>
      rw [if_neg (by simp [GrantPlan.discloses])]
      exact sameCount_recorded (by simp [newEvent]) verified
    | confirmed accessGrant credential scopeViewed =>
      obtain ⟨-, row, events, ledger, found, rows, rfl⟩ := disclose_spec verified
      by_cases here : accessGrant.uuid = id
      · rw [if_pos (by simpa [GrantPlan.discloses] using here)]
        subst here
        refine ⟨row, found, ?_, ?_⟩
        · dsimp only
          rw [Table.find?_update_self found]
        · rw [disclosures_append rows]
          simp [newEvent]
      · rw [if_neg (by simpa [GrantPlan.discloses] using here)]
        refine ⟨?_, ?_⟩
        · rw [disclosures_append rows]
          simp [newEvent, here]
        · dsimp only
          rw [Table.find?_update, if_neg here]

theorem sameCount_log {rt : Runtime} (id : Uuid) (plan : GrantPlan) (res : GrantResponse)
    (s : Store) : SameCount id s ((grantMethods rt).log plan res s) := by
  show SameCount id s (grantLog plan res s)
  unfold grantLog
  split
  · split_ifs
    · exact ⟨rfl, rfl⟩
    · exact ⟨rfl, rfl⟩
  · exact ⟨rfl, rfl⟩

/-! ### Exactly when disclosures are sound -/

/-- **One turn**: it is sound exactly when the counting transaction it lets through is current. -/
theorem sound_iff_current_turn {rt : Runtime} {id : Uuid} {p : GrantPool} {e : Turn GrantCall}
    (counted : Counted id p.store) : Sound rt id p e ↔ Current rt id p e := by
  unfold Sound Current Discloses
  cases goes : (grantMethods rt).committing p e with
  | none =>
    have kept : Counted id ((grantMethods rt).turn p e).store := by
      rcases Method.turn_of_not_committing goes with ⟨same, -⟩ | ⟨plan, res, same, -⟩
      · rw [same]
        exact counted
      · rw [same]
        exact counted.of_sameCount (sameCount_log id plan res p.store)
    simp [kept]
  | some went =>
    obtain ⟨plan, res, t⟩ := went
    obtain ⟨stored, -⟩ := Method.turn_of_committing goes
    obtain ⟨-, committed⟩ := Method.committing_spec goes
    have effect := @grantCommit_spec rt id _ _ _ _ committed
    rw [stored]
    by_cases through : plan.discloses id = true
    · rw [if_pos through] at effect
      obtain ⟨row, found, after, one⟩ := effect
      obtain ⟨views, -⟩ := counted row found
      have countedAfter : Counted id t ↔ ∀ maxViews ∈ row.maxViews, row.viewCount < maxViews := by
        unfold Counted
        rw [after, one]
        simp only [Option.mem_def, Option.some.injEq, forall_eq', viewed]
        have equal : ((disclosures id p.store + 1 : ℕ) : ℤ) = row.viewCount + 1 := by
          push_cast
          rw [views]
        simp only [equal, true_and]
        exact forall_congr' fun maxViews => imp_congr_right fun _ => Int.add_one_le_iff
      rw [countedAfter, found]
      simp [through]
    · rw [if_neg through] at effect
      have kept := counted.of_sameCount effect
      simp [kept, through]

/-- **Exactly when every turn is sound.** In a run of verifications and revocations in flight
together, from any store in which the grant is counted: when each counting transaction finds the
grant not revoked and below its limit. -/
theorem sound_iff_current (rt : Runtime) (id : Uuid) (s : Store) (events : List (Turn GrantCall))
    (start : Counted id s) :
    Along (grantMethods rt).turn (Sound rt id) ⟨s, []⟩ events ↔
      Along (grantMethods rt).turn (Current rt id) ⟨s, []⟩ events := by
  have keeps : ∀ (p : GrantPool) e, Counted id p.store → Current rt id p e →
      Counted id ((grantMethods rt).turn p e).store := by
    intro p e counted current
    exact ((sound_iff_current_turn counted).mpr current).2
  have exact_step : ∀ (p : GrantPool) e, Counted id p.store →
      (Sound rt id p e ↔ Current rt id p e) := fun _ _ => sound_iff_current_turn
  exact along_iff_of_exact keeps exact_step start events

/-! ### Runs -/

def grantId : Uuid := "b0000000-0000-4000-8000-000000000001"

instance (id : Uuid) (s : Store) : Decidable (Counted id s) :=
  inferInstanceAs (Decidable (∀ accessGrant ∈ s.accessGrants.find? id,
    (disclosures id s : ℤ) = accessGrant.viewCount ∧
      ∀ maxViews ∈ accessGrant.maxViews, accessGrant.viewCount ≤ maxViews))

instance (rt : Runtime) (id : Uuid) (p : GrantPool) (e : Turn GrantCall) :
    Decidable (Discloses rt id p e) :=
  inferInstanceAs (Decidable (_ = true))

instance (rt : Runtime) (id : Uuid) (p : GrantPool) (e : Turn GrantCall) :
    Decidable (Current rt id p e) :=
  inferInstanceAs (Decidable (Discloses rt id p e →
    ∀ accessGrant ∈ p.store.accessGrants.find? id, accessGrant.revokedAt = none ∧
      ∀ maxViews ∈ accessGrant.maxViews, accessGrant.viewCount < maxViews))

instance (rt : Runtime) (id : Uuid) (p : GrantPool) (e : Turn GrantCall) :
    Decidable (Sound rt id p e) :=
  inferInstanceAs (Decidable ((Discloses rt id p e →
    ∀ accessGrant ∈ p.store.accessGrants.find? id, accessGrant.revokedAt = none) ∧
      Counted id ((grantMethods rt).turn p e).store))

/-- A visit of the link. -/
def follow (eventUuid : Uuid) : Turn GrantCall :=
  .begin (.verifyToken (visit eventUuid) "link" visitor)

/-- One visit is disclosed and the next one is denied. -/
theorem sound_iff_current_limit :
    Along (grantMethods .plain).turn (Sound .plain grantId) ⟨sharedCredential, []⟩
        [follow "event-1", .advance 0 .done, follow "event-2", .advance 1 .done] ∧
      disclosures grantId (runs (grantMethods .plain).turn ⟨sharedCredential, []⟩
        [follow "event-1", .advance 0 .done, follow "event-2", .advance 1 .done]).store = 1 :=
  ⟨(sound_iff_current .plain grantId sharedCredential _ (by decide)).mpr (by decide),
    by decide⟩

/-- **Not every run is sound**: two visits read the link before either is counted, and both are
disclosed over a limit of one. -/
theorem sound_fails :
    ¬ ∀ (rt : Runtime) (id : Uuid) (s : Store) (events : List (Turn GrantCall)), Counted id s →
      Along (grantMethods rt).turn (Sound rt id) ⟨s, []⟩ events := by
  intro all
  have both := all .plain grantId sharedCredential
    [follow "event-1", follow "event-2", .advance 0 .done, .advance 1 .done] (by decide)
  exact absurd both (by decide)

end AcadID.Disclosure
