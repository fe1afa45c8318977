/-
**The review of institution applications: approved, rejected, or asked for more.**

`approveInstitutionApplication` checks the status and writes in a transaction of its own;
`rejectInstitutionApplication` checks nothing; `requestInstitutionApplicationInfo` checks the status
before it writes. Any number of calls are in flight over one store.

* `Review` — the calls in flight, and which institutions have been created for which application.
* `reviewCommits_spec` — **what each transaction writes to the application**.
* `settles_iff` — **exactly when every application is decided once**: when each approval that
  commits still finds its application pending, and each rejection does not find it approved.
-/

import AcadID.Auth.Invitations
import AcadID.Gateway.BatchHistory
import AcadID.Lib.Run

namespace AcadID.Applications

open Lib Invitations

/-! ### The three operations -/

inductive ReviewCall where
  | approveInstitutionApplication (env : InviteEnv) (auth : AuthTokenPayload) (id : Uuid)
  | rejectInstitutionApplication (now : Time) (auth : AuthTokenPayload) (id : Uuid)
    (feedback : Option String)
  | requestInstitutionApplicationInfo (now : Time) (auth : AuthTokenPayload) (id : Uuid)
    (message : Option String)

/-- A call whose checks have passed. -/
inductive ReviewPlan where
  | approve (env : InviteEnv) (auth : AuthTokenPayload) (application : InstitutionApplication)
  | reject (now : Time) (auth : AuthTokenPayload) (id : Uuid) (feedback : Option String)
  | requestInfo (now : Time) (auth : AuthTokenPayload) (id : Uuid) (message : String)

inductive ReviewResponse where
  | approved (response : InviteResponse)
  | application (row : InstitutionApplication)

def requestInfoCheck (id : Uuid) (message : Option String) (s : Store) :
    Except ServiceError String := do
  let message ← orThrow (trimmed message) (.badRequest "A request message is required.")
  let application ← orThrow (s.institutionApplications.find? id)
    (.badRequest "Institution application not found.")
  require (application.status == .pending)
    (.badRequest "More information can only be requested for pending applications.")
  return message

def reviewChecks (call : ReviewCall) (s : Store) : Except ServiceError ReviewPlan :=
  match call with
  | .approveInstitutionApplication env auth id => (approveCheck id s).map (.approve env auth)
  | .rejectInstitutionApplication now auth id feedback => .ok (.reject now auth id feedback)
  | .requestInstitutionApplicationInfo now auth id message =>
    (requestInfoCheck id message s).map (.requestInfo now auth id)

namespace ReviewPlan

def id : ReviewPlan → Uuid
  | .approve _ _ application => application.uuid
  | .reject _ _ id _ => id
  | .requestInfo _ _ id _ => id

/-- What the operation makes of the application. -/
def written : ReviewPlan → InstitutionApplication → InstitutionApplication
  | .approve env auth _, application => approvedApplication env auth application
  | .reject now auth _ feedback, application =>
    { application with
      status := .rejected
      reviewedById := some auth.sub
      reviewedAt := some now
      reviewFeedback := trimmed feedback }
  | .requestInfo now auth _ message, application =>
    { application with
      reviewFeedback := some message
      reviewedById := some auth.sub
      reviewedAt := some now }

theorem written_uuid (plan : ReviewPlan) (application : InstitutionApplication) :
    (plan.written application).uuid = application.uuid := by
  cases plan <;> rfl

end ReviewPlan

def reviewCommits (rt : Runtime) (plan : ReviewPlan) (s : Store) :
    Except ServiceError (ReviewResponse × Store) :=
  match plan with
  | .approve env auth application => do
    let (response, s) ← approveCommit rt env auth application s
    return (.approved response, s)
  | plan => do
    let (row, institutionApplications) ← updateRow s.institutionApplications plan.id plan.written
      plan.written_uuid
    return (.application row, { s with institutionApplications := institutionApplications })

def reviewAudit (auth : AuthTokenPayload) (action : String) (id : Uuid) (reason : Option String) :
    AuditEvent where
  actorType := inferActorType none (some auth.sub)
  actorId := some auth.sub
  actorRole := some auth.role
  action := action
  targetType := "InstitutionApplication"
  targetId := some id
  institutionId := none
  outcome := "SUCCESS"
  reason := reason
  metadata := .null

def reviewLog (plan : ReviewPlan) (res : ReviewResponse) (s : Store) : Store :=
  match plan, res with
  | .approve _ auth application, .approved response =>
    s.audit (approveAudit auth application response)
  | .reject _ auth id feedback, _ =>
    s.audit (reviewAudit auth "institution_application.reject" id feedback)
  | .requestInfo _ auth id message, _ =>
    s.audit (reviewAudit auth "institution_application.request_info" id (some message))
  | _, _ => s

/-- The three operations as one method. -/
def reviewMethods (rt : Runtime) :
    Method Store ServiceError ReviewCall ReviewPlan ReviewResponse where
  check := reviewChecks
  commit := reviewCommits rt
  log := reviewLog

/-! ### What the transactions write -/

/-- An upsert of a membership writes to nothing else. -/
theorem upsertMembership_spec {create member : InstitutionUser}
    {update : InstitutionUser → InstitutionUser} {keeps : ∀ m, (update m).uuid = m.uuid}
    {s t : Store} (written : upsertMembership create update keeps s = .ok (member, t)) :
    ∃ institutionUsers, t = { s with institutionUsers := institutionUsers } := by
  obtain ⟨_, -, rest⟩ := bind_eq_ok.mp written
  split at rest
  · obtain ⟨-, rfl⟩ := Prod.mk.inj (pure_eq_ok.mp rest)
    exact ⟨_, rfl⟩
  · obtain ⟨members, -, same⟩ := bind_eq_ok.mp rest
    obtain ⟨-, rfl⟩ := Prod.mk.inj (pure_eq_ok.mp same)
    exact ⟨_, rfl⟩

/-- The institution a transaction creates, with the application it is created for. -/
def creation : ReviewPlan → List (Uuid × Uuid)
  | .approve env _ application => [(application.uuid, env.institutionUuid)]
  | _ => []

theorem creation_id {plan : ReviewPlan} {id : Uuid} (made : id ∈ (creation plan).map Prod.fst) :
    id = plan.id := by
  cases plan with
  | approve env auth application => exact List.mem_singleton.mp made
  | reject now auth id' feedback => exact absurd made (by simp [creation])
  | requestInfo now auth id' message => exact absurd made (by simp [creation])

/-- **Each transaction** finds its application and writes to no other; the institutions get the
one it creates. -/
theorem reviewCommits_spec {rt : Runtime} {plan : ReviewPlan} {s t : Store} {res : ReviewResponse}
    (committed : reviewCommits rt plan s = .ok (res, t)) :
    (∃ row, s.institutionApplications.find? plan.id = some row) ∧
      t.institutionApplications =
        s.institutionApplications.update plan.id plan.written plan.written_uuid ∧
      t.institutions.rows.map (·.uuid) =
        s.institutions.rows.map (·.uuid) ++ (creation plan).map Prod.snd := by
  cases plan with
  | approve env auth application =>
    obtain ⟨⟨response, u⟩, approved, same⟩ := bind_eq_ok.mp committed
    obtain ⟨-, rfl⟩ := Prod.mk.inj (pure_eq_ok.mp same)
    obtain ⟨_, -, rest⟩ := bind_eq_ok.mp approved
    obtain ⟨institutions, inserted, rest⟩ := bind_eq_ok.mp rest
    obtain ⟨⟨row, applications⟩, updated, rest⟩ := bind_eq_ok.mp rest
    obtain ⟨⟨user, v⟩, upserted, rest⟩ := bind_eq_ok.mp rest
    obtain ⟨⟨member, w⟩, joined, same⟩ := bind_eq_ok.mp rest
    obtain ⟨-, rfl⟩ := Prod.mk.inj (pure_eq_ok.mp same)
    obtain ⟨old, found, -, rfl⟩ := updateRow_eq_ok.mp updated
    obtain ⟨members, rfl⟩ := upsertMembership_spec joined
    have grown : institutions.rows.map (·.uuid) =
        s.institutions.rows.map (·.uuid) ++ [env.institutionUuid] := by
      rw [(Table.insert_eq_some.mp (orThrow_eq_ok.mp inserted)).2, List.map_append]
      rfl
    rcases upsertUser_spec upserted with ⟨_, -, rfl⟩ | ⟨-, users, -, rfl⟩
    · exact ⟨⟨old, found⟩, rfl, grown⟩
    · exact ⟨⟨old, found⟩, rfl, grown⟩
  | reject now auth id feedback =>
    obtain ⟨⟨row, applications⟩, updated, same⟩ := bind_eq_ok.mp committed
    obtain ⟨-, rfl⟩ := Prod.mk.inj (pure_eq_ok.mp same)
    obtain ⟨old, found, -, rfl⟩ := updateRow_eq_ok.mp updated
    exact ⟨⟨old, found⟩, rfl, (List.append_nil _).symm⟩
  | requestInfo now auth id message =>
    obtain ⟨⟨row, applications⟩, updated, same⟩ := bind_eq_ok.mp committed
    obtain ⟨-, rfl⟩ := Prod.mk.inj (pure_eq_ok.mp same)
    obtain ⟨old, found, -, rfl⟩ := updateRow_eq_ok.mp updated
    exact ⟨⟨old, found⟩, rfl, (List.append_nil _).symm⟩

theorem reviewLog_applications (plan : ReviewPlan) (res : ReviewResponse) (s : Store) :
    (reviewLog plan res s).institutionApplications = s.institutionApplications := by
  cases plan <;> cases res <;> rfl

theorem reviewLog_institutions (plan : ReviewPlan) (res : ReviewResponse) (s : Store) :
    (reviewLog plan res s).institutions = s.institutions := by
  cases plan <;> cases res <;> rfl

/-! ### The calls in flight -/

/-- The calls in flight, and the institutions created so far, each with its application. -/
structure Review where
  pool : Pool Store ReviewPlan ReviewResponse
  created : List (Uuid × Uuid)

def Review.step (rt : Runtime) (r : Review) (e : Turn ReviewCall) : Review where
  pool := (reviewMethods rt).turn r.pool e
  created :=
    match (reviewMethods rt).committing r.pool e with
    | some (plan, _, _) => r.created ++ creation plan
    | none => r.created

/-- An application is approved exactly when it names its institution. -/
def Linked (s : Store) : Prop :=
  ∀ id row, s.institutionApplications.find? id = some row →
    (row.status = .approved ↔ row.approvedInstitutionId ≠ none)

/-- A step creates no second institution for an application, leaves the approved ones those that
name theirs, and takes back no decision. -/
structure Settles (rt : Runtime) (r : Review) (e : Turn ReviewCall) : Prop where
  once : ((r.step rt e).created.map Prod.fst).Nodup
  linked : Linked (r.step rt e).pool.store
  final : ∀ id row, r.pool.store.institutionApplications.find? id = some row →
    row.status ≠ .pending →
    ∃ after, (r.step rt e).pool.store.institutionApplications.find? id = some after ∧
      after.status = row.status

/-- The state in which an operation has to find its application. -/
def ReviewPlan.Finds (application : InstitutionApplication) : ReviewPlan → Prop
  | .approve _ _ _ => application.status = .pending
  | .reject _ _ _ _ => application.status ≠ .approved
  | .requestInfo _ _ _ _ => True

instance ReviewPlan.Finds.instDecidable (application : InstitutionApplication) :
    DecidablePred (ReviewPlan.Finds application)
  | .approve _ _ _ => inferInstanceAs (Decidable (application.status = .pending))
  | .reject _ _ _ _ => inferInstanceAs (Decidable (application.status ≠ .approved))
  | .requestInfo _ _ _ _ => isTrue trivial

/-- The transaction a step lets through, if any, finds its application as it has to. -/
def FindsOpen (rt : Runtime) (r : Review) (e : Turn ReviewCall) : Prop :=
  ∀ went ∈ (reviewMethods rt).committing r.pool e,
    ∀ row ∈ r.pool.store.institutionApplications.find? went.1.id, went.1.Finds row

instance FindsOpen.instDecidable (rt : Runtime) (r : Review) (e : Turn ReviewCall) :
    Decidable (FindsOpen rt r e) :=
  inferInstanceAs (Decidable (∀ went ∈ (reviewMethods rt).committing r.pool e,
    ∀ row ∈ r.pool.store.institutionApplications.find? went.1.id, went.1.Finds row))

/-! ### One step -/

variable {rt : Runtime}

/-- An approval in flight has found its application pending. -/
theorem approve_of_reviewChecks {call : ReviewCall} {s : Store} {env : InviteEnv}
    {auth : AuthTokenPayload} {application : InstitutionApplication}
    (planned : reviewChecks call s = .ok (.approve env auth application)) :
    s.institutionApplications.find? application.uuid = some application ∧
      application.status = .pending := by
  cases call with
  | approveInstitutionApplication env' auth' id =>
    obtain ⟨found, checked, same⟩ := map_eq_ok.mp planned
    obtain ⟨row, looked, rest⟩ := bind_eq_ok.mp checked
    obtain ⟨_, pending, kept⟩ := bind_eq_ok.mp rest
    obtain ⟨-, -, rfl⟩ := ReviewPlan.approve.inj same
    obtain rfl := pure_eq_ok.mp kept
    have here := orThrow_eq_ok.mp looked
    rw [Table.find?_key here]
    exact ⟨here, beq_iff_eq.mp (require_eq_ok.mp pending)⟩
  | rejectInstitutionApplication now auth' id feedback =>
    exact absurd (Except.ok.inj planned) (by simp)
  | requestInstitutionApplicationInfo now auth' id message =>
    obtain ⟨found, -, same⟩ := map_eq_ok.mp planned
    exact absurd same (by simp)

/-- A step that lets no transaction through writes to no application and creates no institution. -/
theorem step_of_not_committing {r : Review} {e : Turn ReviewCall}
    (stays : (reviewMethods rt).committing r.pool e = none) :
    (r.step rt e).created = r.created ∧
      (r.step rt e).pool.store.institutionApplications = r.pool.store.institutionApplications ∧
      (r.step rt e).pool.store.institutions = r.pool.store.institutions ∧
      ∀ plan, .checked plan ∈ (r.step rt e).pool.calls →
        .checked plan ∈ r.pool.calls ∨ ∃ call, reviewChecks call r.pool.store = .ok plan := by
  have created : (r.step rt e).created = r.created := by
    unfold Review.step
    rw [stays]
  refine ⟨created, ?_⟩
  show ((reviewMethods rt).turn r.pool e).store.institutionApplications = _ ∧
    ((reviewMethods rt).turn r.pool e).store.institutions = _ ∧ _
  rcases Method.turn_of_not_committing stays with ⟨same, origin⟩ | ⟨plan, res, same, old⟩
  · rw [same]
    refine ⟨rfl, rfl, fun plan inside => ?_⟩
    rcases origin plan inside with old | ⟨call, -, planned⟩
    · exact .inl old
    · exact .inr ⟨call, planned⟩
  · rw [same]
    exact ⟨reviewLog_applications plan res r.pool.store,
      reviewLog_institutions plan res r.pool.store, fun other inside => .inl (old other inside)⟩

/-- **A step that lets a transaction through** writes to its application, and to no other. -/
theorem step_of_committing {r : Review} {e : Turn ReviewCall} {plan : ReviewPlan}
    {res : ReviewResponse} {t : Store}
    (goes : (reviewMethods rt).committing r.pool e = some (plan, res, t)) :
    (r.step rt e).created = r.created ++ creation plan ∧
      (∃ row, r.pool.store.institutionApplications.find? plan.id = some row) ∧
      (r.step rt e).pool.store.institutionApplications =
        r.pool.store.institutionApplications.update plan.id plan.written plan.written_uuid ∧
      (r.step rt e).pool.store.institutions.rows.map (·.uuid) =
        r.pool.store.institutions.rows.map (·.uuid) ++ (creation plan).map Prod.snd ∧
      .checked plan ∈ r.pool.calls ∧
      ∀ other, .checked other ∈ (r.step rt e).pool.calls → .checked other ∈ r.pool.calls := by
  obtain ⟨inside, commits⟩ := Method.committing_spec goes
  obtain ⟨found, applications, institutions⟩ := reviewCommits_spec commits
  obtain ⟨stored, old⟩ := Method.turn_of_committing goes
  have created : (r.step rt e).created = r.created ++ creation plan := by
    unfold Review.step
    rw [goes]
  refine ⟨created, found, ?_, ?_, inside, old⟩
  · show ((reviewMethods rt).turn r.pool e).store.institutionApplications = _
    rw [stored, applications]
  · show ((reviewMethods rt).turn r.pool e).store.institutions.rows.map (·.uuid) = _
    rw [stored, institutions]

/-- **The history is that of the store**: it names the institutions a run has created, in order. -/
theorem institutions_created (r : Review) (events : List (Turn ReviewCall)) :
    ∃ created, (runs (Review.step rt) r events).created = r.created ++ created ∧
      (runs (Review.step rt) r events).pool.store.institutions.rows.map (·.uuid) =
        r.pool.store.institutions.rows.map (·.uuid) ++ created.map Prod.snd := by
  induction events generalizing r with
  | nil => exact ⟨[], (List.append_nil _).symm, (List.append_nil _).symm⟩
  | cons e events ih =>
    obtain ⟨later, made, grown⟩ := ih (r.step rt e)
    rw [runs_cons]
    cases goes : (reviewMethods rt).committing r.pool e with
    | none =>
      obtain ⟨created, -, institutions, -⟩ := step_of_not_committing goes
      rw [created] at made
      rw [institutions] at grown
      exact ⟨later, made, grown⟩
    | some went =>
      obtain ⟨plan, res, t⟩ := went
      obtain ⟨created, -, -, institutions, -⟩ := step_of_committing goes
      rw [created, List.append_assoc] at made
      rw [institutions, List.append_assoc, ← List.map_append] at grown
      exact ⟨_, made, grown⟩

/-- What runs keep whose transactions find their applications as they have to. -/
structure Reviewed (r : Review) : Prop where
  once : (r.created.map Prod.fst).Nodup
  linked : Linked r.pool.store
  decided : ∀ id ∈ r.created.map Prod.fst, ∀ row,
    r.pool.store.institutionApplications.find? id = some row → row.status = .approved
  inFlight : ∀ env auth application,
    .checked (.approve env auth application) ∈ r.pool.calls → ∀ row,
    r.pool.store.institutionApplications.find? application.uuid = some row →
    row.status = .approved → application.uuid ∈ r.created.map Prod.fst

/-- A transaction that finds its application as it has to settles it. -/
theorem settles_of_finds {r : Review} {e : Turn ReviewCall} (reviewed : Reviewed r)
    {plan : ReviewPlan} {res : ReviewResponse} {t : Store}
    (goes : (reviewMethods rt).committing r.pool e = some (plan, res, t))
    {row : InstitutionApplication}
    (found : r.pool.store.institutionApplications.find? plan.id = some row)
    (finds : plan.Finds row) : Settles rt r e := by
  obtain ⟨created, -, applications, -⟩ := step_of_committing goes
  have looked : ∀ id, (r.step rt e).pool.store.institutionApplications.find? id =
      if plan.id = id then (r.pool.store.institutionApplications.find? id).map plan.written
      else r.pool.store.institutionApplications.find? id := by
    intro id
    rw [applications, Table.find?_update]
  refine ⟨?_, ?_, ?_⟩
  · rw [created]
    cases plan with
    | approve env auth application =>
      have fresh : application.uuid ∉ r.created.map Prod.fst := by
        intro inside
        have approved := reviewed.decided _ inside row found
        rw [show row.status = .pending from finds] at approved
        exact absurd approved (by decide)
      rw [List.map_append]
      refine List.nodup_append.mpr ⟨reviewed.once, List.nodup_singleton _, ?_⟩
      intro id inside id' same
      rw [List.mem_singleton.mp same]
      intro equal
      rw [equal] at inside
      exact fresh inside
    | reject now auth id feedback =>
      rw [show creation _ = [] from rfl, List.append_nil]
      exact reviewed.once
    | requestInfo now auth id message =>
      rw [show creation _ = [] from rfl, List.append_nil]
      exact reviewed.once
  · intro id after there
    rw [looked] at there
    split_ifs at there with same
    · subst same
      rw [found] at there
      obtain rfl := Option.some.inj there
      have linked := reviewed.linked _ row found
      cases plan with
      | approve env auth application => exact ⟨fun _ => Option.some_ne_none _, fun _ => rfl⟩
      | reject now auth id feedback =>
        have unnamed : ¬ row.approvedInstitutionId ≠ none := fun named =>
          finds (linked.mpr named)
        exact ⟨fun approved => absurd approved (by simp [ReviewPlan.written]),
          fun named => absurd named unnamed⟩
      | requestInfo now auth id message => exact linked
    · exact reviewed.linked id after there
  · intro id before there decided
    rw [looked]
    split_ifs with same
    · subst same
      rw [found] at there
      obtain rfl := Option.some.inj there
      refine ⟨_, by rw [found]; rfl, ?_⟩
      cases plan with
      | approve env auth application => exact absurd finds decided
      | reject now auth id feedback =>
        cases status : row.status with
        | pending => exact absurd status decided
        | approved => exact absurd status finds
        | rejected => rfl
      | requestInfo now auth id message => rfl
    · exact ⟨before, there, rfl⟩

/-- **A transaction that does not find its application as it has to** does not settle it. -/
theorem finds_of_settles {r : Review} {e : Turn ReviewCall} (reviewed : Reviewed r)
    (settles : Settles rt r e) : FindsOpen rt r e := by
  rintro ⟨plan, res, t⟩ goes row found
  obtain ⟨created, -, applications, -, inside, -⟩ := step_of_committing goes
  have after : (r.step rt e).pool.store.institutionApplications.find? plan.id =
      some (plan.written row) := by
    rw [applications, Table.find?_update, if_pos rfl, found]
    rfl
  -- a decision that is there is still there after the step
  have kept : row.status ≠ .pending → (plan.written row).status = row.status := by
    intro decided
    obtain ⟨last, there, same⟩ := settles.final plan.id row found decided
    obtain rfl := Option.some.inj (after.symm.trans there)
    exact same
  cases plan with
  | approve env auth application =>
    show row.status = .pending
    by_contra decided
    have approved : row.status = .approved := (kept decided).symm
    have before := reviewed.inFlight env auth application inside row found approved
    have once := settles.once
    rw [created, List.map_append] at once
    exact (List.nodup_append.mp once).2.2 _ before _ (List.mem_singleton.mpr rfl) rfl
  | reject now auth id feedback =>
    intro approved
    have rejected := kept (by rw [approved]; decide)
    rw [approved] at rejected
    exact absurd rejected (by simp [ReviewPlan.written])
  | requestInfo now auth id message => trivial

/-- A step that lets no transaction through settles what is there. -/
theorem settles_of_not_committing {r : Review} {e : Turn ReviewCall} (reviewed : Reviewed r)
    (stays : (reviewMethods rt).committing r.pool e = none) : Settles rt r e := by
  obtain ⟨created, applications, -, -⟩ := step_of_not_committing stays
  refine ⟨?_, ?_, ?_⟩
  · rw [created]
    exact reviewed.once
  · unfold Linked
    rw [applications]
    exact reviewed.linked
  · intro id row found decided
    rw [applications]
    exact ⟨row, found, rfl⟩

/-- Under the invariant a step settles the applications exactly when its transaction finds its own
as it has to. -/
theorem settles_iff_finds {r : Review} {e : Turn ReviewCall} (reviewed : Reviewed r) :
    Settles rt r e ↔ FindsOpen rt r e := by
  refine ⟨finds_of_settles reviewed, fun finds => ?_⟩
  cases goes : (reviewMethods rt).committing r.pool e with
  | none => exact settles_of_not_committing reviewed goes
  | some went =>
    obtain ⟨plan, res, t⟩ := went
    obtain ⟨-, ⟨row, found⟩, -⟩ := step_of_committing goes
    exact settles_of_finds reviewed goes found (finds ⟨plan, res, t⟩ goes row found)

/-- **What a step that finds its application as it has to keeps.** -/
theorem step_reviewed {r : Review} {e : Turn ReviewCall} (reviewed : Reviewed r)
    (finds : FindsOpen rt r e) : Reviewed (r.step rt e) := by
  have settles := (settles_iff_finds reviewed).mpr finds
  cases goes : (reviewMethods rt).committing r.pool e with
  | none =>
    obtain ⟨created, applications, -, origin⟩ := step_of_not_committing goes
    refine ⟨settles.once, settles.linked, ?_, ?_⟩
    · rw [created, applications]
      exact reviewed.decided
    · rw [created, applications]
      intro env auth application inside row found approved
      rcases origin _ inside with old | ⟨call, planned⟩
      · exact reviewed.inFlight env auth application old row found approved
      · obtain ⟨here, pending⟩ := approve_of_reviewChecks planned
        obtain rfl := Option.some.inj (here.symm.trans found)
        rw [pending] at approved
        exact absurd approved (by decide)
  | some went =>
    obtain ⟨plan, res, t⟩ := went
    obtain ⟨created, ⟨row, found⟩, applications, -, -, old⟩ := step_of_committing goes
    have here := finds ⟨plan, res, t⟩ goes row found
    have looked : ∀ id after,
        (r.step rt e).pool.store.institutionApplications.find? id = some after →
        (plan.id = id ∧ after = plan.written row) ∨
          (plan.id ≠ id ∧ r.pool.store.institutionApplications.find? id = some after) := by
      intro id after there
      rw [applications, Table.find?_update] at there
      split_ifs at there with same
      · subst same
        rw [found] at there
        exact .inl ⟨rfl, (Option.some.inj there).symm⟩
      · exact .inr ⟨same, there⟩
    refine ⟨settles.once, settles.linked, ?_, ?_⟩
    · intro id made after there
      rw [created, List.map_append, List.mem_append] at made
      rcases looked id after there with ⟨rfl, rfl⟩ | ⟨other, before⟩
      · cases plan with
        | approve env auth application => rfl
        | reject now auth id feedback =>
          have before := made.resolve_right (by simp [creation])
          exact absurd (reviewed.decided _ before row found) here
        | requestInfo now auth id message =>
          exact reviewed.decided _ (made.resolve_right (by simp [creation])) row found
      · rcases made with earlier | now
        · exact reviewed.decided id earlier after before
        · exact absurd (creation_id now).symm other
    · intro env auth application inside after there approved
      rw [created, List.map_append, List.mem_append]
      rcases looked _ after there with ⟨same, rfl⟩ | ⟨-, before⟩
      · cases plan with
        | approve env' auth' application' => exact .inr (List.mem_singleton.mpr same.symm)
        | reject now auth' id feedback => exact absurd approved (by simp [ReviewPlan.written])
        | requestInfo now auth' id message =>
          have same' : id = application.uuid := same
          subst same'
          exact .inl (reviewed.inFlight env auth application (old _ inside) row found approved)
      · exact .inl (reviewed.inFlight env auth application (old _ inside) after before approved)

/-! ### Runs -/

/-- **Every application is decided once exactly when** every approval's transaction finds its
application pending, and no rejection finds its own approved. -/
theorem settles_iff (rt : Runtime) {start : Store} (linked : Linked start)
    (events : List (Turn ReviewCall)) :
    Along (Review.step rt) (Settles rt) ⟨⟨start, []⟩, []⟩ events ↔
      Along (Review.step rt) (FindsOpen rt) ⟨⟨start, []⟩, []⟩ events := by
  have fresh : Reviewed ⟨⟨start, []⟩, []⟩ := by
    refine ⟨List.nodup_nil, linked, ?_, ?_⟩
    · intro id inside
      exact absurd inside List.not_mem_nil
    · intro env auth application inside
      exact absurd inside List.not_mem_nil
  have keeps : ∀ r e, Reviewed r → FindsOpen rt r e → Reviewed (r.step rt e) :=
    fun _ _ => step_reviewed
  have exact_step : ∀ r e, Reviewed r → (Settles rt r e ↔ FindsOpen rt r e) :=
    fun _ _ => settles_iff_finds
  exact along_iff_of_exact keeps exact_step fresh events

/-- An application under review. -/
def applied : InstitutionApplication where
  uuid := "e0000000-0000-4000-8000-000000000002"
  officialName := "Unity College"
  type := "SECONDARY"
  institutionCategory := "SECONDARY"
  contactPersonName := "Ada"
  contactEmail := "ada@unity.ng"
  status := .pending
  reviewFeedback := none
  reviewedById := none
  reviewedAt := none
  approvedInstitutionId := none

def oneApplication : Store :=
  { Store.empty with
    institutionApplications := { rows := [applied], nodup := List.nodup_singleton _ } }

theorem oneApplication_linked : Linked oneApplication := by
  intro id row found
  obtain rfl := List.mem_singleton.mp (Table.find?_mem found)
  exact ⟨fun approved => absurd approved (by decide), fun named => absurd rfl named⟩

def approvalEnv : InviteEnv where
  now := 1
  inviteToken := "token"
  institutionUuid := "a0000000-0000-4000-8000-000000000009"
  userUuid := "b0000000-0000-4000-8000-000000000009"
  membershipUuid := "c0000000-0000-4000-8000-000000000009"
  salt := "salt"
  randomPassword := "password"

/-- The founder asks for more, and approves. -/
def asksAndApproves : List (Turn ReviewCall) :=
  [.begin (.requestInstitutionApplicationInfo 1 BatchHistory.founder applied.uuid (some "address")),
    .advance 0 .done,
    .begin (.approveInstitutionApplication approvalEnv BatchHistory.founder applied.uuid),
    .advance 1 .done]

/-- The founder rejects, while or after the application is approved. -/
def rejects : List (Turn ReviewCall) :=
  [.begin (.rejectInstitutionApplication 2 BatchHistory.founder applied.uuid none),
    .advance 2 .done]

theorem settles_asksAndApproves :
    Along (Review.step .plain) (Settles .plain) ⟨⟨oneApplication, []⟩, []⟩ asksAndApproves := by
  refine (settles_iff .plain oneApplication_linked asksAndApproves).mpr ?_
  decide

/-- The store after a run. -/
def storeAfter (events : List (Turn ReviewCall)) : Store :=
  (runs (Review.step .plain) ⟨⟨oneApplication, []⟩, []⟩ events).pool.store

/-- The status of the application after a run. -/
def statusAfter (events : List (Turn ReviewCall)) : Option InstitutionApplicationStatus :=
  ((storeAfter events).institutionApplications.find? applied.uuid).map (·.status)

theorem statusAfter_approval :
    statusAfter (asksAndApproves ++ rejects.take 1) = some .approved := by
  decide

theorem statusAfter_rejection : statusAfter (asksAndApproves ++ rejects) = some .rejected := by
  decide

/-- **An approved application need not stay approved**: it can still be rejected. -/
theorem approved_then_rejected :
    ¬ ∀ (rt : Runtime) (start : Store) (events : List (Turn ReviewCall)), Linked start →
        Along (Review.step rt) (Settles rt) ⟨⟨start, []⟩, []⟩ events := by
  intro every
  have along := every .plain oneApplication (asksAndApproves ++ rejects) oneApplication_linked
  have last := (along_append.mp along).2.2.1
  obtain ⟨row, found, approved⟩ := Option.map_eq_some_iff.mp statusAfter_approval
  obtain ⟨after, there, kept⟩ := last.final applied.uuid row found (by rw [approved]; decide)
  obtain ⟨after', there', rejected⟩ := Option.map_eq_some_iff.mp statusAfter_rejection
  obtain rfl : after = after' := Option.some.inj (there.symm.trans there')
  rw [approved, rejected] at kept
  exact absurd kept (by decide)

end AcadID.Applications
