/-
**A share link is revoked, call by call.**

`revokeGrant` writes `revokedAt` first, by the id alone; then it compares the owner of the row, and
then it writes the audit event. Each of the three can end the call.

* `Atomic` — a call that throws leaves every grant as it was, and one that succeeds has set
  `revokedAt` of a grant of its caller, and nothing else besides its audit event.
* `atomic_iff` — **exactly when a call is atomic**: unless its write reaches a grant that the call
  then turns down, one of another learner or one whose audit event cannot be written.
-/

import AcadID.Gateway.Access

namespace AcadID.Revocation

open Lib Disclosure Verification

/-! ### The call -/

/-- The response. -/
structure GrantRevoked where
  accessGrantId : Uuid
  revokedAt : Option Time

/-- The update, which returns the row it wrote. -/
def revokeRow (now : Time) (accessGrantId : Uuid) (s : Store) :
    Except ServiceError (AccessGrant × Store) := do
  let (accessGrant, accessGrants) ← updateRow s.accessGrants accessGrantId (revokedAt now)
    (revokedAt_uuid now)
  return (accessGrant, { s with accessGrants := accessGrants })

def revokeAudit (auth : AuthTokenPayload) (accessGrant : AccessGrant) : AuditEvent :=
  Access.accessAudit auth "access_grant.revoke" "AccessGrant" accessGrant.uuid none (.obj [])

/-- What follows the write: the owner is compared, and the audit event written. -/
def confirmRevoked (auth : AuthTokenPayload) (learnerId : Uuid) (accessGrant : AccessGrant) :
    Db GrantRevoked := do
  Async.ofExcept (require (accessGrant.learnerId == learnerId)
    (.badRequest "Access Grant does not belong to learner."))
  Db.audit (revokeAudit auth accessGrant)
  return ⟨accessGrant.uuid, accessGrant.revokedAt⟩

def revokeGrant (rt : Runtime) (now : Time) (auth : AuthTokenPayload) (body : Json) :
    Db GrantRevoked := do
  let learnerId ← Async.ofExcept (requireLearner auth)
  let accessGrantId ← Async.ofExcept (parseBody (revokeAccessGrantSchema rt) body)
  let accessGrant ← Db.transaction (revokeRow now accessGrantId)
  confirmRevoked auth learnerId accessGrant

/-! ### Atomic calls -/

/-- The caller's own grant has `revokedAt` set, and an audit event is written. -/
def RevokedOwn (now : Time) (auth : AuthTokenPayload) (response : GrantRevoked) (s t : Store) :
    Prop :=
  ∃ accessGrant event, s.accessGrants.find? response.accessGrantId = some accessGrant ∧
    auth.learnerId = some accessGrant.learnerId ∧
    t = { s with
      accessGrants :=
        s.accessGrants.update response.accessGrantId (revokedAt now) (revokedAt_uuid now)
      auditEvents := s.auditEvents ++ [event] }

/-- A call that throws leaves the grants alone; one that succeeds revokes a grant of its caller. -/
def Atomic (now : Time) (auth : AuthTokenPayload) (s : Store)
    (ended : Ended Store ServiceError GrantRevoked) : Prop :=
  match ended.result with
  | .error _ => ended.store.accessGrants = s.accessGrants
  | .ok response => RevokedOwn now auth response s ended.store

/-- The write goes through and changes a grant that is not the caller's, or whose audit event is not
written. -/
def Misses (rt : Runtime) (now : Time) (auth : AuthTokenPayload) (body : Json)
    (script : List Outcome) (s : Store) : Prop :=
  ∃ learnerId accessGrantId accessGrant, requireLearner auth = .ok learnerId ∧
    parseBody (revokeAccessGrantSchema rt) body = .ok accessGrantId ∧
    s.accessGrants.find? accessGrantId = some accessGrant ∧
    (Async.next script).1 = .done ∧ accessGrant.revokedAt ≠ some now ∧
    (accessGrant.learnerId ≠ learnerId ∨ (Async.next (Async.next script).2).1 = .failed)

theorem requireLearner_eq_ok {auth : AuthTokenPayload} {learnerId : Uuid}
    (learner : requireLearner auth = .ok learnerId) : auth.learnerId = some learnerId :=
  (Option.filter_eq_some_iff.mp (orThrow_eq_ok.mp learner)).1

/-- A grant stays as it was exactly when it has been revoked at that very time. -/
theorem update_revokedAt_eq_iff {now : Time} {t : Table AccessGrant.uuid} {id : Uuid}
    {accessGrant : AccessGrant} (found : t.find? id = some accessGrant) :
    t.update id (revokedAt now) (revokedAt_uuid now) = t ↔ accessGrant.revokedAt = some now := by
  constructor
  · intro same
    have after := Table.find?_update_self found (revokedAt now) (revokedAt_uuid now)
    rw [same, found] at after
    exact congrArg AccessGrant.revokedAt (Option.some.inj after)
  · intro already
    apply Table.ext_rows
    rw [Table.rows_update]
    conv_rhs => rw [← List.map_id t.rows]
    refine List.map_congr_left fun row inside => ?_
    split_ifs with here
    · obtain rfl : row = accessGrant :=
        Option.some.inj ((Table.find?_eq_some.mpr ⟨inside, here⟩).symm.trans found)
      show { row with revokedAt := some now } = row
      rw [← already]
    · rfl

/-! ### How a call ends -/

section Call

variable {now : Time} {auth : AuthTokenPayload} {learnerId : Uuid} {s : Store}

/-- **After the write**: the grants stay as the write left them, whatever becomes of the call. -/
theorem confirmRevoked_grants (accessGrant : AccessGrant) (script : List Outcome) :
    (confirmRevoked auth learnerId accessGrant script s).store.accessGrants = s.accessGrants := by
  have kept : (confirmRevoked auth learnerId accessGrant).Ensures s fun _ t =>
      t.accessGrants = s.accessGrants := by
    unfold confirmRevoked
    refine Async.ensures_bind ?_
    cases require (accessGrant.learnerId == learnerId)
      (.badRequest "Access Grant does not belong to learner.") with
    | error e => exact Async.ensures_throw rfl
    | ok u =>
      refine Async.ensures_pure ?_
      exact Async.ensures_bind (Db.ensures_audit rfl (Async.ensures_pure rfl))
  exact kept script

/-- The owner's call whose audit event is written succeeds. -/
theorem confirmRevoked_done {accessGrant : AccessGrant} (own : accessGrant.learnerId = learnerId)
    {script : List Outcome} (goes : (Async.next script).1 = .done) :
    confirmRevoked auth learnerId accessGrant script s =
      ⟨.ok ⟨accessGrant.uuid, accessGrant.revokedAt⟩, (Async.next script).2,
        s.audit (revokeAudit auth accessGrant)⟩ := by
  unfold confirmRevoked
  rw [own, beq_self_eq_true]
  exact Async.bind_of_ok (Db.audit_done goes _ s) fun _ =>
    pure (GrantRevoked.mk accessGrant.uuid accessGrant.revokedAt)

/-- Any other call throws. -/
theorem confirmRevoked_throws {accessGrant : AccessGrant} {script : List Outcome}
    (refused : accessGrant.learnerId ≠ learnerId ∨ (Async.next script).1 = .failed) :
    ∃ e, (confirmRevoked auth learnerId accessGrant script s).result = .error e := by
  unfold confirmRevoked
  by_cases own : accessGrant.learnerId = learnerId
  · have fails := refused.resolve_left (not_not_intro own)
    rw [own, beq_self_eq_true]
    exact ⟨_, congrArg Ended.result (Async.bind_of_error (Db.audit_failed fails _ s) fun _ =>
      pure (GrantRevoked.mk accessGrant.uuid accessGrant.revokedAt))⟩
  · rw [beq_false_of_ne own]
    exact ⟨_, rfl⟩

/-- **A call whose write goes through** is atomic exactly when the row already was as written, or it
is the caller's and the audit event is written. -/
theorem atomic_written_iff {id : Uuid} {accessGrant : AccessGrant}
    (learner : auth.learnerId = some learnerId)
    (found : s.accessGrants.find? id = some accessGrant) (script : List Outcome) :
    Atomic now auth s (confirmRevoked auth learnerId (revokedAt now accessGrant) script
        { s with accessGrants := s.accessGrants.update id (revokedAt now) (revokedAt_uuid now) }) ↔
      ¬ (accessGrant.revokedAt ≠ some now ∧
        (accessGrant.learnerId ≠ learnerId ∨ (Async.next script).1 = .failed)) := by
  have named : accessGrant.uuid = id := Table.find?_key found
  by_cases refused : accessGrant.learnerId ≠ learnerId ∨ (Async.next script).1 = .failed
  · obtain ⟨e, throws⟩ := @confirmRevoked_throws auth learnerId
      { s with accessGrants := s.accessGrants.update id (revokedAt now) (revokedAt_uuid now) }
      (revokedAt now accessGrant) script refused
    unfold Atomic
    rw [throws]
    dsimp only
    rw [confirmRevoked_grants]
    dsimp only
    rw [update_revokedAt_eq_iff found]
    exact ⟨fun already both => both.1 already, fun only => by_contra fun new => only ⟨new, refused⟩⟩
  · have own : accessGrant.learnerId = learnerId := by_contra fun other => refused (.inl other)
    have goes : (Async.next script).1 = .done := by
      cases outcome : (Async.next script).1 with
      | done => rfl
      | failed => exact absurd (.inr outcome) refused
    refine iff_of_true ?_ fun both => refused both.2
    have owned : (revokedAt now accessGrant).learnerId = learnerId := own
    unfold Atomic
    rw [confirmRevoked_done owned goes]
    exact ⟨accessGrant, _, named.symm ▸ found, own.symm ▸ learner, by rw [← named]; rfl⟩

end Call

/-- **Exactly when a call is atomic.** -/
theorem atomic_iff (rt : Runtime) (now : Time) (auth : AuthTokenPayload) (body : Json)
    (script : List Outcome) (s : Store) :
    Atomic now auth s (revokeGrant rt now auth body script s) ↔
      ¬ Misses rt now auth body script s := by
  unfold revokeGrant Misses
  cases learner : requireLearner auth with
  | error e => exact iff_of_true rfl fun ⟨_, _, _, same, _⟩ => absurd same (by simp)
  | ok learnerId =>
    cases parsed : parseBody (revokeAccessGrantSchema rt) body with
    | error e => exact iff_of_true rfl fun ⟨_, _, _, _, same, _⟩ => absurd same (by simp)
    | ok accessGrantId =>
      show Atomic now auth s ((Db.transaction (revokeRow now accessGrantId) >>= fun accessGrant =>
        confirmRevoked auth learnerId accessGrant) script s) ↔ _
      cases outcome : (Async.next script).1 with
      | failed =>
        rw [Async.bind_of_error (Db.transaction_failed outcome _ s)]
        exact iff_of_true rfl fun ⟨_, _, _, _, _, _, same, _⟩ => absurd same (by simp)
      | done =>
        cases found : s.accessGrants.find? accessGrantId with
        | none =>
          have refused : revokeRow now accessGrantId s = .error .recordNotFound := by
            unfold revokeRow updateRow
            rw [found]
            rfl
          rw [Async.bind_of_error (Db.transaction_refused outcome refused)]
          refine iff_of_true rfl ?_
          rintro ⟨_, id, accessGrant, -, same, here, -⟩
          obtain rfl := Except.ok.inj same
          rw [found] at here
          exact absurd here (by simp)
        | some accessGrant =>
          have written : revokeRow now accessGrantId s = .ok (revokedAt now accessGrant,
              { s with accessGrants :=
                s.accessGrants.update accessGrantId (revokedAt now) (revokedAt_uuid now) }) := by
            unfold revokeRow updateRow
            rw [found]
            rfl
          rw [Async.bind_of_ok (Db.transaction_done outcome written),
            atomic_written_iff (requireLearner_eq_ok learner) found]
          refine not_congr ⟨fun both => ?_, ?_⟩
          · exact ⟨learnerId, accessGrantId, accessGrant, rfl, rfl, found, rfl, both⟩
          · rintro ⟨_, _, _, sameLearner, sameId, here, -, both⟩
            obtain rfl := Except.ok.inj sameLearner
            obtain rfl := Except.ok.inj sameId
            obtain rfl := Option.some.inj (found.symm.trans here)
            exact both

/-! ### A grant of another learner -/

/-- A learner whose passport the grant is not of. -/
def stranger : AuthTokenPayload where
  sub := "20000000-0000-4000-8000-000000000009"
  email := "other@acadid.test"
  fullName := "Other Learner"
  role := .student
  kind := none
  learnerId := some "40000000-0000-4000-8000-000000000002"
  institutionId := none
  institutionUuid := none
  institutionUserId := none
  assignedScopes := none
  apiKeyId := none
  clientId := none
  productCode := none

def grantBody : Json :=
  .obj [("accessGrantId", .str grantId)]

/-- **Not every call is atomic**: a learner revokes the link of another learner, and is told that it
does not belong to them. -/
theorem atomic_fails :
    ¬ ∀ (rt : Runtime) (now : Time) (auth : AuthTokenPayload) (body : Json)
      (script : List Outcome) (s : Store), Atomic now auth s (revokeGrant rt now auth body script s)
    := by
  intro all
  obtain ⟨accessGrant, found, current, other⟩ :
      ∃ accessGrant, sharedCredential.accessGrants.find? grantId = some accessGrant ∧
        accessGrant.revokedAt = none ∧
        accessGrant.learnerId = "40000000-0000-4000-8000-000000000001" := ⟨_, rfl, rfl, rfl⟩
  have unfit : Misses .plain 5 stranger grantBody [] sharedCredential :=
    ⟨"40000000-0000-4000-8000-000000000002", grantId, accessGrant, rfl, rfl, found, rfl,
      by rw [current]; simp, .inl (by rw [other]; decide)⟩
  exact (atomic_iff _ _ _ _ _ _).mp (all .plain 5 stranger grantBody [] sharedCredential) unfit

end AcadID.Revocation
