/-
**What invitations do to accounts that are there already.**

* `Spares` — a turn changes the password hash, the role and the name of no account, unless it
  accepts the very invitation that created it.
* `Tracked` — a pool, and the tokens of the invitations that have created an account: an account
  that was there before its invitation was not created by it.
* `Harmless` — the turn invites or approves no e-mail address whose account has another name (or,
  for an approval, another role), and accepts no invitation of an account that was there before.
* `spared_iff` — **accounts are spared along a run exactly when every turn is harmless**.
* `spared_fails` — a registrar invites a founder's e-mail address, and accepts with a password of
  their own.
-/

import AcadID.Auth.Invitations
import AcadID.Gateway.Visibility
import AcadID.Lib.Run

namespace AcadID.Invitations

open Lib

abbrev InvitePool := Pool Store InvitePlan InviteResponse

/-- A pool, and the tokens of the invitations that have created their account. -/
structure Tracked where
  pool : InvitePool
  newcomers : List String

/-- The newcomers once a token is sent to an e-mail address: the token is one if the address has no
account. -/
def noted (token email : String) (s : Store) (newcomers : List String) : List String :=
  if s.users.rows.any (·.email == email) then newcomers.filter (· ≠ token) else token :: newcomers

def newcomersAfter (rt : Runtime) (plan : InvitePlan) (s : Store) (newcomers : List String) :
    List String :=
  match plan with
  | .invite env _ invitee => noted (rt.sha256 env.inviteToken) invitee.email s newcomers
  | .approve env _ application =>
    noted (rt.sha256 env.inviteToken) (contactEmail rt application) s newcomers
  | .accept .. => newcomers

def trackedTurn (rt : Runtime) (p : Tracked) (e : Turn InviteCall) : Tracked where
  pool := (inviteMethods rt).turn p.pool e
  newcomers :=
    match (inviteMethods rt).committing p.pool e with
    | some (plan, _) => newcomersAfter rt plan p.pool.store p.newcomers
    | none => p.newcomers

/-! ### The property -/

/-- The same password hash, role and name. -/
def Same (u v : User) : Prop :=
  v.passwordHash = u.passwordHash ∧ v.role = u.role ∧ v.fullName = u.fullName

/-- The membership whose invitation is accepted is one that created its account. -/
def CreatedBy (newcomers : List String) (membership : InstitutionUser) : Prop :=
  ∃ token, membership.inviteTokenHash = some token ∧ token ∈ newcomers

/-- The turn accepts the invitation that created the account. -/
def Welcomes (rt : Runtime) (p : Tracked) (e : Turn InviteCall) (id : Uuid) : Prop :=
  ∃ env input password membership user res t, (inviteMethods rt).committing p.pool e =
    some (.accept env input password membership user, res, t) ∧ membership.userId = id ∧
      CreatedBy p.newcomers membership

/-- **An account keeps its password hash, role and name**, unless its own invitation is accepted. -/
def Spares (rt : Runtime) (p : Tracked) (e : Turn InviteCall) : Prop :=
  ∀ id u, p.pool.store.users.find? id = some u →
    (∃ v, (trackedTurn rt p e).pool.store.users.find? id = some v ∧ Same u v) ∨ Welcomes rt p e id

/-! ### The condition -/

/-- The transaction writes to no account that was there before, other than what it has. -/
def HarmlessPlan (rt : Runtime) (plan : InvitePlan) (p : Tracked) : Prop :=
  match plan with
  | .invite _ _ invitee => ∀ u, p.pool.store.users.rows.find? (·.email == invitee.email) = some u →
    u.fullName = invitee.fullName
  | .approve _ _ application => ∀ u,
    p.pool.store.users.rows.find? (·.email == contactEmail rt application) = some u →
      u.role = .registrar ∧ u.fullName = Text.trim application.contactPersonName
  | .accept env input password membership user => CreatedBy p.newcomers membership ∨
    ∀ u, p.pool.store.users.find? membership.userId = some u →
      Same u (acceptedUser rt env input password user u)

def Harmless (rt : Runtime) (p : Tracked) (e : Turn InviteCall) : Prop :=
  ∀ plan res t, (inviteMethods rt).committing p.pool e = some (plan, res, t) →
    HarmlessPlan rt plan p

/-! ### One turn -/

section Turns

variable {rt : Runtime} {p : Tracked} {e : Turn InviteCall}

/-- The accounts after an upsert: those of other e-mail addresses stay. -/
theorem find?_upserted {email : String} {update : User → User}
    {keeps : ∀ u, (update u).uuid = u.uuid} {create : User} {s t : Store}
    (upserted : Upserted email update keeps create s t) {id : Uuid} {u : User}
    (found : s.users.find? id = some u) :
    t.users.find? id = some u ∨
      s.users.rows.find? (·.email == email) = some u ∧ t.users.find? id = some (update u) := by
  rcases upserted with ⟨old, here, same⟩ | ⟨-, inserted⟩
  · rw [same, Table.find?_update]
    by_cases is : old.uuid = id
    · rw [if_pos is]
      refine .inr ?_
      have there := Table.find?_eq_some.mpr ⟨List.mem_of_find?_eq_some here, rfl⟩
      rw [is, found] at there
      obtain rfl := Option.some.inj there
      rw [found]
      exact ⟨here, rfl⟩
    · rw [if_neg is]
      exact .inl found
  · left
    rw [Table.find?_insert inserted, if_neg ?_]
    · exact found
    · rw [← Table.find?_key found]
      exact Ne.symm ((Table.insert_eq_some.mp inserted).1 u (Table.find?_mem found))

/-- The account of an e-mail address after an upsert. -/
theorem upserted_of_found {email : String} {update : User → User}
    {keeps : ∀ u, (update u).uuid = u.uuid} {create : User} {s t : Store}
    (upserted : Upserted email update keeps create s t) {u : User}
    (found : s.users.rows.find? (·.email == email) = some u) :
    s.users.find? u.uuid = some u ∧ t.users.find? u.uuid = some (update u) := by
  have there := Table.find?_eq_some.mpr ⟨List.mem_of_find?_eq_some found, rfl⟩
  refine ⟨there, ?_⟩
  rcases upserted with ⟨old, here, same⟩ | ⟨absent, -⟩
  · obtain rfl := Option.some.inj (here.symm.trans found)
    rw [same, Table.find?_update, if_pos rfl, there]
    rfl
  · exact absurd (absent.symm.trans found) (by simp)

theorem trackedTurn_store : (trackedTurn rt p e).pool.store =
    ((inviteMethods rt).turn p.pool e).store := rfl

/-- **A harmless turn spares the accounts.** -/
theorem spares_of_harmless (harmless : Harmless rt p e) : Spares rt p e := by
  intro id u found
  rw [trackedTurn_store]
  cases goes : (inviteMethods rt).committing p.pool e with
  | none =>
    left
    rcases Method.turn_of_not_committing goes with ⟨same, -⟩ | ⟨plan, res, same, -⟩
    · rw [same]
      exact ⟨u, found, rfl, rfl, rfl⟩
    · rw [same, show ((inviteMethods rt).log plan res p.pool.store).users = _ from
        inviteLog_users plan res p.pool.store]
      exact ⟨u, found, rfl, rfl, rfl⟩
  | some went =>
    obtain ⟨plan, res, t⟩ := went
    obtain ⟨-, written⟩ := Method.committing_spec goes
    have kept := harmless plan res t goes
    rw [(Method.turn_of_committing goes).1]
    cases plan with
    | invite env auth invitee =>
      left
      rcases find?_upserted (inviteCommit_spec written) found with same | ⟨here, after⟩
      · exact ⟨u, same, rfl, rfl, rfl⟩
      · exact ⟨_, after, rfl, rfl, (kept u here).symm⟩
    | approve env auth application =>
      left
      rcases find?_upserted (approveCommit_spec written) found with same | ⟨here, after⟩
      · exact ⟨u, same, rfl, rfl, rfl⟩
      · obtain ⟨role, name⟩ := kept u here
        exact ⟨_, after, rfl, role.symm, name.symm⟩
    | accept env input password membership user =>
      rw [acceptCommit_spec written, Table.find?_update]
      by_cases is : membership.userId = id
      · rcases kept with created | same
        · exact .inr ⟨env, input, password, membership, user, res, t, goes, is, created⟩
        · left
          subst is
          rw [if_pos rfl, found]
          exact ⟨_, rfl, same u found⟩
      · rw [if_neg is]
        exact .inl ⟨u, found, rfl, rfl, rfl⟩

/-- **A turn that spares the accounts is harmless.** -/
theorem harmless_of_spares (spares : Spares rt p e) : Harmless rt p e := by
  intro plan res t goes
  obtain ⟨-, written⟩ := Method.committing_spec goes
  have after : (trackedTurn rt p e).pool.store = t := (Method.turn_of_committing goes).1
  -- Only an acceptance welcomes anyone.
  have kept : ∀ id u, p.pool.store.users.find? id = some u →
      (∀ env input password membership user,
        plan ≠ .accept env input password membership user) →
        ∃ v, t.users.find? id = some v ∧ Same u v := by
    intro id u found other
    rcases spares id u found with same | ⟨env, input, password, membership, user, res', t', accepts, -⟩
    · rw [after] at same
      exact same
    · rw [goes] at accepts
      exact absurd (Prod.mk.inj (Option.some.inj accepts)).1 (other env input password membership user)
  cases plan with
  | invite env auth invitee =>
    intro u found
    obtain ⟨there, now⟩ := upserted_of_found (inviteCommit_spec written) found
    obtain ⟨v, is, -, -, name⟩ := kept u.uuid u there (by simp)
    obtain rfl := Option.some.inj (now.symm.trans is)
    exact name.symm
  | approve env auth application =>
    intro u found
    obtain ⟨there, now⟩ := upserted_of_found (approveCommit_spec written) found
    obtain ⟨v, is, -, role, name⟩ := kept u.uuid u there (by simp)
    obtain rfl := Option.some.inj (now.symm.trans is)
    exact ⟨role.symm, name.symm⟩
  | accept env input password membership user =>
    by_cases created : CreatedBy p.newcomers membership
    · exact .inl created
    · refine .inr fun u found => ?_
      rcases spares membership.userId u found with ⟨v, is, same⟩ |
        ⟨env', input', password', membership', user', res', t', accepts, -, created'⟩
      · rw [after, acceptCommit_spec written, Table.find?_update, if_pos rfl, found] at is
        obtain rfl := Option.some.inj is
        exact same
      · rw [goes] at accepts
        obtain ⟨-, -, -, rfl, -⟩ :=
          InvitePlan.accept.inj (Prod.mk.inj (Option.some.inj accepts)).1
        exact absurd created' created

/-- **Accounts are spared along a run exactly when every turn is harmless.** -/
theorem spared_iff (rt : Runtime) (start : Tracked) (events : List (Turn InviteCall)) :
    Along (trackedTurn rt) (Spares rt) start events ↔
      Along (trackedTurn rt) (Harmless rt) start events := by
  have keeps : ∀ p e, True → Harmless rt p e → True := fun _ _ _ _ => trivial
  exact along_iff_of_exact keeps (fun _ _ _ => ⟨harmless_of_spares, spares_of_harmless⟩) trivial
    events

end Turns

/-! ### A takeover -/

def founderId : Uuid := "50000000-0000-4000-8000-000000000001"

def founderHash : String := PasswordService.hash .plain "salt" "a founder's own password"

/-- The school with its registrar, and a founder's account. -/
def schoolAndFounder : Store :=
  { Visibility.staffed .active with
    users :=
      { rows :=
          [{ uuid := founderId
             email := "founder@acadid.test"
             passwordHash := founderHash
             fullName := "Founder"
             role := .acadidSuperAdmin }]
        nodup := List.nodup_singleton _ } }

/-- The registrar invites the founder's e-mail address, and accepts with a password of their own. -/
def takeover : List (Turn InviteCall) :=
  [.begin (.inviteInstitutionUser
      ⟨1, "inv_token", "", "", "b0000000-0000-4000-8000-000000000001", "salt", "random"⟩
      Visibility.registrar
      ⟨none, some "founder@acadid.test", some "Founder", none, some "READ_ONLY", none, none⟩),
    .advance 0 .done,
    .begin (.acceptInstitutionInvite ⟨2, "salt"⟩
      ⟨some "inv_token", some "the registrar's", none, none⟩),
    .advance 1 .done]

/-- **An account that was there before an invitation is not spared**: its password is replaced. -/
theorem spared_fails :
    ¬ ∀ (rt : Runtime) (start : Store) (newcomers : List String) (events : List (Turn InviteCall)),
        Along (trackedTurn rt) (Spares rt) ⟨⟨start, []⟩, newcomers⟩ events := by
  intro all
  have spares := along_iff_prefixes.mp (all .plain schoolAndFounder [] takeover) (takeover.take 3)
    (.advance 1 .done) [] rfl
  obtain ⟨u, before, hash⟩ : ∃ u, (runs (trackedTurn .plain) ⟨⟨schoolAndFounder, []⟩, []⟩
      (takeover.take 3)).pool.store.users.find? founderId = some u ∧ u.passwordHash = founderHash := by
    refine Option.map_eq_some_iff.mp ?_
    decide
  rcases spares founderId u before with ⟨v, after, same, -⟩ |
    ⟨env, input, password, membership, user, res, t, -, -, token, -, inside⟩
  · have replaced : ((trackedTurn .plain (runs (trackedTurn .plain) ⟨⟨schoolAndFounder, []⟩, []⟩
        (takeover.take 3)) (.advance 1 .done)).pool.store.users.find? founderId).map
          (·.passwordHash) ≠ some founderHash := by
      decide
    rw [after, Option.map_some, same, hash] at replaced
    exact replaced rfl
  · have nobody : (runs (trackedTurn .plain) ⟨⟨schoolAndFounder, []⟩, []⟩
        (takeover.take 3)).newcomers = [] := by
      decide
    rw [nobody] at inside
    exact absurd inside (by simp)

end AcadID.Invitations
