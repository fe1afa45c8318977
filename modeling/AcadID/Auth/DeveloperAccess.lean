/-
**Active keys and approved developer access.**

* `Linked` — every active key of an institution belongs to one with approved developer access, and
  so does every token of an institution that is issued.
* `KeepsAccess` — a key is created, or made active again, only for an institution that has approved
  access when it is written, and the last approved request of an institution is not rejected or
  suspended while it has an active key.
* `linked_iff` — **keys stay linked throughout a run exactly when every turn keeps access**.
* `linked_fails` — access suspended while a key is active.
-/

import AcadID.Auth.ApiKeys
import AcadID.Gateway.BatchHistory
import AcadID.Gateway.Visibility
import AcadID.Lib.Run

namespace AcadID.ApiKeys

open Lib

abbrev KeyPool := Pool Store KeyPlan KeyResponse

/-! ### The property -/

/-- The institution has an approved developer access request. -/
def Approved (s : Store) (institutionId : Uuid) : Prop :=
  ∃ request ∈ s.developerAccessRequests.rows, request.institutionId = institutionId ∧
    request.status = .approved

/-- A key of an institution belongs to one with approved access. -/
def Backed (s : Store) (apiKey : ApiKey) : Prop :=
  apiKey.ownerType = .institution → ∃ id, apiKey.institutionId = some id ∧ Approved s id

/-- **Every active key of an institution is backed by approved access.** -/
def Linked (s : Store) : Prop :=
  ∀ apiKey ∈ s.apiKeys.rows, apiKey.status = .active → Backed s apiKey

/-- A token is issued to an institution only if it has approved access. -/
def IssuesBacked (rt : Runtime) (s : Store) : Prop :=
  ∀ env input accessToken expiresIn apiKey institution t,
    (keyMethods rt).attempt (.issueApiToken env input) s =
      .ok (.token accessToken expiresIn apiKey institution, t) → Backed s apiKey

/-! ### The condition -/

/-- What a transaction needs so that active keys stay backed. -/
def KeepsAccess (plan : KeyPlan) (s : Store) : Prop :=
  match plan with
  | .create _ _ institution _ => Approved s institution.uuid
  | .regenerate _ _ existing => ∀ apiKey, s.apiKeys.find? existing.uuid = some apiKey →
    Backed s apiKey
  | .review _ _ existing _ decision _ => decision ≠ .approved →
    ∀ request, s.developerAccessRequests.find? existing.uuid = some request →
      request.status = .approved →
        (∃ other ∈ s.developerAccessRequests.rows, other.uuid ≠ existing.uuid ∧
          other.institutionId = request.institutionId ∧ other.status = .approved) ∨
        ∀ apiKey ∈ s.apiKeys.rows, apiKey.status = .active → apiKey.ownerType = .institution →
          apiKey.institutionId ≠ some request.institutionId
  | _ => True

/-- **The transaction of this turn, if any, keeps access.** -/
def TurnKeepsAccess (rt : Runtime) (p : KeyPool) (e : Turn KeyCall) : Prop :=
  ∀ plan res t, (keyMethods rt).committing p e = some (plan, res, t) → KeepsAccess plan p.store

/-! ### Transactions -/

theorem Backed.of_same {s t : Store} {apiKey : ApiKey}
    (same : t.developerAccessRequests = s.developerAccessRequests) :
    Backed t apiKey ↔ Backed s apiKey := by
  unfold Backed Approved
  rw [same]

/-- What approves an institution once a request is reviewed: another request, or this one. -/
theorem approved_review {s t : Store} {env : KeyEnv} {auth : AuthTokenPayload}
    {existing old : DeveloperAccessRequest} {decision : AccessDecision} {feedback : Option String}
    (found : s.developerAccessRequests.find? existing.uuid = some old)
    (after : t.developerAccessRequests = s.developerAccessRequests.update existing.uuid
      (reviewedAccess env auth existing decision feedback)
      (reviewedAccess_uuid env auth existing decision feedback)) {id : Uuid} :
    Approved t id ↔
      (∃ other ∈ s.developerAccessRequests.rows, other.uuid ≠ existing.uuid ∧
        other.institutionId = id ∧ other.status = .approved) ∨
      decision = .approved ∧ old.institutionId = id := by
  unfold Approved
  rw [after]
  constructor
  · rintro ⟨request, inside, of, approved⟩
    rcases Table.mem_update.mp inside with ⟨before, there, is, rfl⟩ | ⟨there, other⟩
    · have same := Table.find?_eq_some.mpr ⟨there, is⟩
      obtain rfl := Option.some.inj (found.symm.trans same)
      refine .inr ⟨?_, of⟩
      have status : decision.status = .approved := approved
      cases decision with
      | approved => rfl
      | rejected | suspended => exact absurd status (by simp [AccessDecision.status])
    · exact .inl ⟨request, there, other, of, approved⟩
  · rintro (⟨other, there, apart, of, approved⟩ | ⟨rfl, of⟩)
    · exact ⟨other, Table.mem_update.mpr (.inr ⟨there, apart⟩), of, approved⟩
    · refine ⟨reviewedAccess env auth existing .approved feedback old, ?_, of, rfl⟩
      exact Table.mem_update.mpr (.inl ⟨old, Table.find?_mem found, Table.find?_key found, rfl⟩)

section Commits

variable {rt : Runtime} {plan : KeyPlan} {s t : Store} {res : KeyResponse}

/-- **A transaction that keeps access keeps active keys backed.** -/
theorem linked_commit (linked : Linked s) (written : keyCommit rt plan s = .ok (res, t))
    (keeps : KeepsAccess plan s) : Linked t := by
  rcases keyCommit_spec written with ⟨apiKey, apiKeys, made, inserted, rfl⟩ |
    ⟨id, f, keepsId, made, -, rfl⟩ | ⟨env, auth, reason, -, rfl⟩ |
    ⟨env, auth, existing, institution, decision, feedback, rfl, ⟨old, found⟩, rfl⟩
  · intro row inside active
    show Backed s row
    have rows : row ∈ apiKeys.rows := inside
    rw [(Table.insert_eq_some.mp inserted).2, List.mem_append, List.mem_singleton] at rows
    rcases rows with before | rfl
    · exact linked row before active
    · cases plan with
      | create env auth institution input =>
        obtain rfl := Option.some.inj made
        exact fun _ => ⟨institution.uuid, rfl, keeps⟩
      | createProduct env auth productCode productName input =>
        obtain rfl := Option.some.inj made
        exact fun owner => absurd owner (by simp [newApiKey])
      | revoke | regenerate | lockdown | review | issue => exact absurd made (by simp [creates])
  · intro row inside active
    show Backed s row
    have rows : row ∈ (s.apiKeys.update id f keepsId).rows := inside
    rcases Table.mem_update.mp rows with ⟨old, there, is, rfl⟩ | ⟨there, -⟩
    · cases plan with
      | revoke env auth id reason =>
        obtain ⟨-, rfl⟩ := Prod.mk.inj (Option.some.inj made)
        exact absurd active (by simp [revokedKey])
      | regenerate env auth existing =>
        obtain ⟨rfl, rfl⟩ := Prod.mk.inj (Option.some.inj made)
        exact keeps old (Table.find?_eq_some.mpr ⟨there, is⟩)
      | issue env apiKey institution =>
        obtain ⟨-, rfl⟩ := Prod.mk.inj (Option.some.inj made)
        exact linked old there active
      | create | createProduct | lockdown | review => exact absurd made (by simp [changes])
    · exact linked row there active
  · intro row inside active
    obtain ⟨old, there, made⟩ := List.mem_map.mp inside
    by_cases was : old.status = .active
    · rw [if_pos (by simpa using was)] at made
      rw [← made] at active
      exact absurd active (by simp [revokedKey])
    · rw [if_neg (by simpa using was)] at made
      rw [← made] at active
      exact absurd active was
  · intro row inside active owner
    obtain ⟨id, of, request, there, ofId, approved⟩ := linked row inside active owner
    refine ⟨id, of, (approved_review found rfl).mpr ?_⟩
    by_cases is : request.uuid = existing.uuid
    · have same := Table.find?_eq_some.mpr ⟨there, is⟩
      obtain rfl := Option.some.inj (found.symm.trans same)
      by_cases approves : decision = .approved
      · exact .inr ⟨approves, ofId⟩
      · rcases keeps approves old found approved with ⟨other, member, apart, sameId, yes⟩ | none
        · exact .inl ⟨other, member, apart, sameId.trans ofId, yes⟩
        · exact absurd (by rw [of, ofId]) (none row inside active owner)
    · exact .inl ⟨request, there, is, ofId, approved⟩

/-- **A transaction after which active keys are backed keeps access.** -/
theorem keeps_of_linked (written : keyCommit rt plan s = .ok (res, t)) (linked : Linked t) :
    KeepsAccess plan s := by
  rcases keyCommit_spec written with ⟨apiKey, apiKeys, made, inserted, rfl⟩ |
    ⟨id, f, keepsId, made, -, rfl⟩ | ⟨env, auth, reason, rfl, -⟩ |
    ⟨env, auth, existing, institution, decision, feedback, rfl, ⟨old, found⟩, rfl⟩
  · cases plan with
    | create env auth institution input =>
      obtain rfl := Option.some.inj made
      have inside : newApiKey rt env auth .institution (some institution.uuid) none input ∈
          apiKeys.rows := by
        rw [(Table.insert_eq_some.mp inserted).2]
        exact List.mem_append_right _ (List.mem_singleton_self _)
      obtain ⟨id, of, approved⟩ := linked _ inside rfl rfl
      obtain rfl := Option.some.inj of
      exact approved
    | createProduct | revoke | issue | lockdown => trivial
    | regenerate | review => exact absurd made (by simp [creates])
  · cases plan with
    | regenerate env auth existing =>
      obtain ⟨rfl, rfl⟩ := Prod.mk.inj (Option.some.inj made)
      intro row found
      have inside : regeneratedKey rt env existing.environment row ∈
          (s.apiKeys.update existing.uuid (regeneratedKey rt env existing.environment) keepsId).rows :=
        Table.mem_update.mpr (.inl ⟨row, Table.find?_mem found, Table.find?_key found, rfl⟩)
      exact linked (regeneratedKey rt env existing.environment row) inside rfl
    | createProduct | revoke | issue | lockdown => trivial
    | create | review => exact absurd made (by simp [changes])
  · trivial
  · intro approves request found' approved
    obtain rfl := Option.some.inj (found.symm.trans found')
    by_cases other : ∃ other ∈ s.developerAccessRequests.rows, other.uuid ≠ existing.uuid ∧
        other.institutionId = old.institutionId ∧ other.status = .approved
    · exact .inl other
    · refine .inr fun row inside active owner of => ?_
      obtain ⟨id, of', backed⟩ := linked row inside active owner
      obtain rfl := Option.some.inj (of.symm.trans of')
      rcases (approved_review found rfl).mp backed with another | ⟨yes, -⟩
      · exact other another
      · exact approves yes

end Commits

/-! ### Runs -/

section Runs

variable {rt : Runtime}

/-- **Where active keys are backed, tokens are issued to none but those with approved access.** -/
theorem issuesBacked_of_linked {s : Store} (linked : Linked s) : IssuesBacked rt s := by
  intro env input accessToken expiresIn apiKey institution t attempted
  obtain ⟨plan, checked, written⟩ := bind_eq_ok.mp attempted
  obtain ⟨clientId, -, rest⟩ := bind_eq_ok.mp checked
  obtain ⟨clientSecret, -, rest⟩ := bind_eq_ok.mp rest
  obtain ⟨row, read, same⟩ := bind_eq_ok.mp rest
  obtain rfl := pure_eq_ok.mp same
  obtain ⟨⟨_, apiKeys⟩, -, returned⟩ := bind_eq_ok.mp written
  obtain ⟨-, -, rfl, -⟩ := KeyResponse.token.inj (Prod.mk.inj (pure_eq_ok.mp returned)).1
  obtain ⟨found, exchangeable⟩ := Option.filter_eq_some_iff.mp (orThrow_eq_ok.mp read)
  unfold isExchangeable at exchangeable
  simp only [Bool.and_eq_true, beq_iff_eq] at exchangeable
  exact linked row (List.mem_of_find?_eq_some found) exchangeable.1.1.2

/-- A turn that commits nothing leaves keys and requests as they are. -/
theorem linked_idle {p : KeyPool} {e : Turn KeyCall} (idle : (keyMethods rt).committing p e = none) :
    Linked ((keyMethods rt).turn p e).store ↔ Linked p.store := by
  rcases Method.turn_of_not_committing idle with ⟨same, -⟩ | ⟨plan, res, same, -⟩
  · rw [same]
  · rw [same]
    obtain ⟨apiKeys, requests⟩ := keyLog_frame plan res p.store
    unfold Linked
    rw [show ((keyMethods rt).log plan res p.store).apiKeys = _ from apiKeys]
    refine forall₂_congr fun row _ => ?_
    rw [@Backed.of_same p.store ((keyMethods rt).log plan res p.store) row requests]

/-- **Keys stay linked to approved access throughout a run, and tokens with them, exactly when every
turn keeps access.** -/
theorem linked_iff (rt : Runtime) (start : Store) (linked : Linked start)
    (events : List (Turn KeyCall)) :
    Throughout (keyMethods rt).turn (fun p => Linked p.store ∧ IssuesBacked rt p.store) ⟨start, []⟩
        events ↔
      Along (keyMethods rt).turn (TurnKeepsAccess rt) ⟨start, []⟩ events := by
  have keeps : ∀ p e, Linked p.store → TurnKeepsAccess rt p e →
      Linked ((keyMethods rt).turn p e).store := by
    intro p e linked kept
    cases goes : (keyMethods rt).committing p e with
    | none => exact (linked_idle goes).mpr linked
    | some went =>
      obtain ⟨plan, res, t⟩ := went
      rw [(Method.turn_of_committing goes).1]
      exact linked_commit linked (Method.committing_spec goes).2 (kept plan res t goes)
  have escapes : ∀ p e, Linked p.store → ¬ TurnKeepsAccess rt p e →
      ¬ (Linked ((keyMethods rt).turn p e).store ∧
        IssuesBacked rt ((keyMethods rt).turn p e).store) := by
    intro p e _ breaks after
    refine breaks fun plan res t goes => ?_
    rw [(Method.turn_of_committing goes).1] at after
    exact keeps_of_linked (Method.committing_spec goes).2 after.1
  exact throughout_iff_of_exact keeps
    (fun p linked => ⟨linked, issuesBacked_of_linked linked⟩) escapes linked events

end Runs

/-! ### A school with developer access -/

def requestId : Uuid := "e0000000-0000-4000-8000-000000000001"

/-- The school, with a developer access request. -/
def schoolWithAccess (status : DeveloperAccessRequestStatus) : Store :=
  { Visibility.staffed .active with
    developerAccessRequests :=
      { rows := [⟨requestId, Visibility.schoolId, status, none, none, none, none, none⟩]
        nodup := List.nodup_singleton _ } }

theorem schoolWithAccess_linked (status : DeveloperAccessRequestStatus) :
    Linked (schoolWithAccess status) :=
  fun _ inside => absurd inside (by simp [schoolWithAccess, Visibility.staffed, Store.empty])

def keyEnv : KeyEnv :=
  ⟨1, 1, "f0000000-0000-4000-8000-000000000001", "client", "secret", "salt"⟩

/-- The founder approves the access and creates a key. -/
def approvesAndCreates : List (Turn KeyCall) :=
  [.begin (.reviewDeveloperAccessRequest keyEnv BatchHistory.founder requestId .approved none),
    .advance 0 .done,
    .begin (.createApiKey keyEnv BatchHistory.founder Visibility.schoolId
      (.obj [("label", .str "Portal"), ("scopes", .arr [.str "ingest:write"])])),
    .advance 1 .done]

/-- The founder suspends the access. -/
def suspends : List (Turn KeyCall) :=
  [.begin (.reviewDeveloperAccessRequest keyEnv BatchHistory.founder requestId .suspended none),
    .advance 2 .done]

/-- The condition as a check, for runs in which every institution has one request. -/
def keepsAccess (p : KeyPool) (e : Turn KeyCall) : Bool :=
  match (keyMethods .plain).committing p e with
  | some (.create _ _ institution _, _) => hasApprovedAccess p.store institution.uuid
  | some (.regenerate .., _) => false
  | some (.review _ _ _ _ decision _, _) => decision == .approved || p.store.apiKeys.rows.isEmpty
  | _ => true

theorem approved_of_has {s : Store} {id : Uuid} (has : hasApprovedAccess s id = true) :
    Approved s id := by
  obtain ⟨request, inside, is⟩ := List.any_eq_true.mp has
  obtain ⟨of, approved⟩ := Bool.and_eq_true_iff.mp is
  exact ⟨request, inside, beq_iff_eq.mp of, beq_iff_eq.mp approved⟩

theorem turnKeepsAccess_of_keeps {p : KeyPool} {e : Turn KeyCall} (keeps : keepsAccess p e = true) :
    TurnKeepsAccess .plain p e := by
  intro plan res t goes
  unfold keepsAccess at keeps
  rw [goes] at keeps
  cases plan with
  | create env auth institution input => exact approved_of_has keeps
  | regenerate env auth existing => exact absurd keeps (by simp)
  | review env auth existing institution decision feedback =>
    intro approves request _ _
    rcases Bool.or_eq_true_iff.mp keeps with approved | nokeys
    · exact absurd (beq_iff_eq.mp approved) approves
    · refine .inr fun apiKey inside => ?_
      rw [List.isEmpty_iff.mp nokeys] at inside
      exact absurd inside (by simp)
  | createProduct | revoke | lockdown | issue => trivial

/-- A key created once access is approved. -/
theorem approvesAndCreates_linked :
    Throughout (keyMethods .plain).turn (fun p => Linked p.store ∧ IssuesBacked .plain p.store)
      ⟨schoolWithAccess .pending, []⟩ approvesAndCreates := by
  refine (linked_iff .plain _ (schoolWithAccess_linked .pending) approvesAndCreates).mpr ?_
  refine Along.mono (fun p e keeps => turnKeepsAccess_of_keeps keeps)
    (show Along _ (fun p e => keepsAccess p e = true) _ _ from ?_)
  decide

/-- **An active key need not be backed by approved access**: it stays active when access is
suspended. -/
theorem linked_fails :
    ¬ ∀ (rt : Runtime) (start : Store) (events : List (Turn KeyCall)), Linked start →
        Throughout (keyMethods rt).turn (fun p => Linked p.store ∧ IssuesBacked rt p.store)
          ⟨start, []⟩ events := by
  intro all
  have throughout := all .plain (schoolWithAccess .pending) (approvesAndCreates ++ suspends)
    (schoolWithAccess_linked .pending)
  obtain ⟨linked, -⟩ := throughout_iff_prefixes.mp throughout (approvesAndCreates ++ suspends) []
    (List.append_nil _).symm
  have active : ((runs (keyMethods .plain).turn ⟨schoolWithAccess .pending, []⟩
      (approvesAndCreates ++ suspends)).store.apiKeys.rows.any fun apiKey =>
        apiKey.status == .active && apiKey.ownerType == .institution) = true := by
    decide
  have suspended : ((runs (keyMethods .plain).turn ⟨schoolWithAccess .pending, []⟩
      (approvesAndCreates ++ suspends)).store.developerAccessRequests.rows.all fun request =>
        request.status == .suspended) = true := by
    decide
  obtain ⟨apiKey, inside, is⟩ := List.any_eq_true.mp active
  obtain ⟨active, owner⟩ := Bool.and_eq_true_iff.mp is
  obtain ⟨id, -, request, there, -, approved⟩ :=
    linked apiKey inside (beq_iff_eq.mp active) (beq_iff_eq.mp owner)
  have status := beq_iff_eq.mp (List.all_eq_true.mp suspended request there)
  exact absurd (status.symm.trans approved) (by decide)

end AcadID.ApiKeys
