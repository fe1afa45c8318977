/-
**What another institution's rows can change in what an actor reads.**

* `isMember` — the institutions where the actor is an active member, or an API key's own;
  `Agree` — two stores with the same rows attached to them, and the same rows joined to these.
* `Named` — the row or the institution that a call names is attached to one of them; `Live` — so
  is the institution in the token of a call that lists transfers.
* `isolated_iff` — **exactly when a query is isolated**: agreeing stores return the same rows
  exactly when the call is `Live`, and also refuse it alike exactly when it is `Named` too.
* `isolated_fails` — a suspended member still lists the transfers of the institution in its token.
-/

import AcadID.Gateway.Reading
import Mathlib.Data.Fintype.EquivFin

namespace AcadID.Visibility

open Lib Authority Institutions Reading

/-! ### What an actor may see -/

/-- Whether the actor is an active member of an institution; an API key belongs to its own. -/
def isMember (actor : AuthTokenPayload) (s : Store) (institutionId : Uuid) : Bool :=
  if actor.isApiKey then actor.institutionUuid == some institutionId
  else s.institutionUsers.rows.any fun user =>
    user.userId == actor.sub && user.institutionId == institutionId && user.status == .active

/-- A transfer is attached to both its institutions. -/
def attachedTransfer (actor : AuthTokenPayload) (s : Store) (row : TransferRequest) : Bool :=
  isMember actor s row.fromInstitutionId || row.toInstitutionId.any (isMember actor s)

/-- A job is attached to its institution, or to the user who made it. -/
def attachedJob (actor : AuthTokenPayload) (s : Store) (job : BackgroundJob) : Bool :=
  match given job.institutionId with
  | some institutionId => isMember actor s institutionId
  | none => job.createdById == some actor.sub

/-- **Two stores agree** on all that is attached to the actor's institutions. -/
structure Agree (actor : AuthTokenPayload) (s t : Store) : Prop where
  members : isMember actor s = isMember actor t
  institutions : ∀ id, isMember actor s id = true →
    s.institutions.find? id = t.institutions.find? id
  institutionUsers :
    s.institutionUsers.rows.filter (fun row => isMember actor s row.institutionId) =
      t.institutionUsers.rows.filter fun row => isMember actor t row.institutionId
  recordRequests :
    (s.recordRequests.rows.filter fun row => row.institutionId.any (isMember actor s)).map
        (viewRecordRequest s) =
      (t.recordRequests.rows.filter fun row => row.institutionId.any (isMember actor t)).map
        (viewRecordRequest t)
  transferRequests :
    (s.transferRequests.rows.filter (attachedTransfer actor s)).map (viewTransferRequest s) =
      (t.transferRequests.rows.filter (attachedTransfer actor t)).map (viewTransferRequest t)
  resultBatches :
    (s.resultBatches.rows.filter fun row => isMember actor s row.institutionId).map
        (viewBatch s) =
      (t.resultBatches.rows.filter fun row => isMember actor t row.institutionId).map
        (viewBatch t)
  academicSessions :
    s.academicSessions.rows.filter (fun row => isMember actor s row.institutionId) =
      t.academicSessions.rows.filter fun row => isMember actor t row.institutionId
  academicStructures :
    s.academicStructures.rows.filter (fun row => isMember actor s row.institutionId) =
      t.academicStructures.rows.filter fun row => isMember actor t row.institutionId
  gradingRuleSets :
    s.gradingRuleSets.rows.filter (fun row => isMember actor s row.institutionId) =
      t.gradingRuleSets.rows.filter fun row => isMember actor t row.institutionId
  backgroundJobs :
    (s.backgroundJobs.rows.filter (attachedJob actor s)).map (viewJob s) =
      (t.backgroundJobs.rows.filter (attachedJob actor t)).map (viewJob t)

/-- The unique constraint on display ids. -/
def UniqueDisplayIds (s : Store) : Prop :=
  ∀ a ∈ s.institutions.rows, ∀ b ∈ s.institutions.rows,
    a.institutionId = b.institutionId → a = b

/-- An institution the actor may know of: its own, or the other side of a transfer. -/
def Shown (actor : AuthTokenPayload) (s : Store) (id : Uuid) : Prop :=
  isMember actor s id = true ∨ ∃ row ∈ s.transferRequests.rows,
    attachedTransfer actor s row = true ∧ (row.fromInstitutionId = id ∨ row.toInstitutionId = some id)

/-- A display id that the filter gives names an institution the actor may know of. -/
def NamedInstitution (actor : AuthTokenPayload) (institutionRef : Option String) (s : Store) :
    Prop :=
  ∀ text ∈ given institutionRef, isUuid text = false →
    ∃ row ∈ s.institutions.rows, row.institutionId = text ∧ Shown actor s row.uuid

/-- What a call names by an id is attached to the actor's institutions. -/
def Named (actor : AuthTokenPayload) (call : ReadCall) (s : Store) : Prop :=
  match call with
  | .readBatch id => ∃ row ∈ s.resultBatches.find? id, isMember actor s row.institutionId = true
  | .readJob id => ∃ job ∈ s.backgroundJobs.find? id, attachedJob actor s job = true
  | .listAcademicSessions ref | .listGradingRuleSets ref => NamedInstitution actor ref s
  | .listAcademicStructures filters => NamedInstitution actor filters.institutionId s
  | _ => True

/-- Transfers are listed, by a filter the database accepts, for an institution in the token where
the actor is an active member. -/
def Live (actor : AuthTokenPayload) (call : ReadCall) (s : Store) : Prop :=
  match call with
  | .listTransferRequests filters =>
    (∃ status, enumFilter transferRequestStatuses filters.status = .ok status) →
      ∀ id ∈ given actor.institutionUuid, isMember actor s id = true
  | _ => True

/-! ### Agreement -/

namespace Agree

variable {actor : AuthTokenPayload} {s t : Store}

theorem symm (agree : Agree actor s t) : Agree actor t s where
  members := agree.members.symm
  institutions id member := by
    rw [← agree.members] at member
    exact (agree.institutions id member).symm
  institutionUsers := agree.institutionUsers.symm
  recordRequests := agree.recordRequests.symm
  transferRequests := agree.transferRequests.symm
  resultBatches := agree.resultBatches.symm
  academicSessions := agree.academicSessions.symm
  academicStructures := agree.academicStructures.symm
  gradingRuleSets := agree.gradingRuleSets.symm
  backgroundJobs := agree.backgroundJobs.symm

theorem attachedTransfer_eq (agree : Agree actor s t) :
    attachedTransfer actor s = attachedTransfer actor t := by
  funext row
  unfold attachedTransfer
  rw [agree.members]

theorem attachedJob_eq (agree : Agree actor s t) : attachedJob actor s = attachedJob actor t := by
  funext job
  unfold attachedJob
  rw [agree.members]

/-- The other side of an attached transfer is joined to it. -/
theorem lookup (agree : Agree actor s t) {id : Uuid} (shown : Shown actor s id) :
    s.institutions.find? id = t.institutions.find? id := by
  rcases shown with member | ⟨row, inside, attached, side⟩
  · exact agree.institutions id member
  · have viewed := List.mem_map_of_mem (f := viewTransferRequest s)
      (List.mem_filter.mpr ⟨inside, attached⟩)
    rw [agree.transferRequests] at viewed
    obtain ⟨row', -, same⟩ := List.mem_map.mp viewed
    have rows : row' = row := congrArg TransferRequestView.transfer same
    subst rows
    rcases side with rfl | other
    · exact (congrArg TransferRequestView.fromInstitution same).symm
    · have joined := congrArg TransferRequestView.toInstitution same
      show s.institutions.find? id = _
      simpa [viewTransferRequest, other] using joined.symm

end Agree

/-- Operating an institution takes an active membership in it. -/
theorem isMember_of_operates {actor : AuthTokenPayload} {s : Store} {id : Uuid}
    (ordinary : actor.role ≠ .acadidSuperAdmin)
    (operates : assertActorCanOperateInstitution actor id s = .ok ()) :
    isMember actor s id = true := by
  unfold assertActorCanOperateInstitution at operates
  rw [if_neg ordinary] at operates
  unfold isMember
  split_ifs at operates ⊢ with key
  · exact require_eq_ok.mp operates
  · obtain ⟨user, inside, meets⟩ := List.any_eq_true.mp (require_eq_ok.mp operates)
    refine List.any_eq_true.mpr ⟨user, inside, ?_⟩
    simp only [Bool.and_eq_true, beq_iff_eq] at meets ⊢
    exact ⟨⟨meets.1.1.1.1.2, meets.1.1.1.2⟩, meets.1.2⟩

theorem operates_of_agree {actor : AuthTokenPayload} {s t : Store} {id : Uuid}
    (ordinary : actor.role ≠ .acadidSuperAdmin) (agree : Agree actor s t)
    (operates : assertActorCanOperateInstitution actor id s = .ok ()) :
    assertActorCanOperateInstitution actor id t = .ok () := by
  have member := isMember_of_operates ordinary operates
  have found := agree.institutions id member
  unfold assertActorCanOperateInstitution at operates ⊢
  rw [if_neg ordinary] at operates ⊢
  split_ifs at operates ⊢ with key
  · exact operates
  · obtain ⟨user, inside, meets⟩ := List.any_eq_true.mp (require_eq_ok.mp operates)
    have at_id : user.institutionId = id := by
      simp only [Bool.and_eq_true, beq_iff_eq] at meets
      exact meets.1.1.1.2
    have listed : user ∈ s.institutionUsers.rows.filter fun row =>
        isMember actor s row.institutionId :=
      List.mem_filter.mpr ⟨inside, by rw [at_id]; exact member⟩
    rw [agree.institutionUsers] at listed
    refine require_eq_ok.mpr (List.any_eq_true.mpr ⟨user, List.mem_of_mem_filter listed, ?_⟩)
    rw [← found]
    exact meets

theorem operates_or_refused {actor : AuthTokenPayload} (ordinary : actor.role ≠ .acadidSuperAdmin)
    (id : Uuid) (s : Store) :
    assertActorCanOperateInstitution actor id s = .ok () ∨
      assertActorCanOperateInstitution actor id s = .error (.forbidden (if actor.isApiKey then
        "API key is not assigned to this institution."
        else "User is not assigned to this institution.")) := by
  unfold assertActorCanOperateInstitution require
  rw [if_neg ordinary]
  split_ifs
  · exact .inl rfl
  · exact .inr rfl
  · exact .inl rfl
  · exact .inr rfl

/-- **The check of one institution does not depend on the others.** -/
theorem operates_eq {actor : AuthTokenPayload} {s t : Store}
    (ordinary : actor.role ≠ .acadidSuperAdmin) (agree : Agree actor s t) (id : Uuid) :
    assertActorCanOperateInstitution actor id s = assertActorCanOperateInstitution actor id t := by
  rcases operates_or_refused ordinary id s with here | here
  · rw [here, operates_of_agree ordinary agree here]
  · rcases operates_or_refused ordinary id t with there | there
    · rw [there, operates_of_agree ordinary agree.symm there]
    · rw [here, there]

/-! ### What agreeing stores answer -/

/-- Rows that a filter lets through among the attached ones, with what is joined to them. -/
theorem map_filter_of_attached {ρ ν : Type} (row : ν → ρ) (wanted : ρ → Bool) {view view' : ρ → ν}
    (rowOf : ∀ r, row (view r) = r) (rowOf' : ∀ r, row (view' r) = r) {rows rows' : List ρ}
    {attached attached' : ρ → Bool}
    (same : (rows.filter attached).map view = (rows'.filter attached').map view')
    (narrow : ∀ r, wanted r = true → attached r = true ∧ attached' r = true) :
    (rows.filter wanted).map view = (rows'.filter wanted).map view' := by
  have through : ∀ (rows : List ρ) (attached : ρ → Bool) (view : ρ → ν),
      (∀ r, row (view r) = r) → (∀ r, wanted r = true → attached r = true) →
        (rows.filter wanted).map view =
          ((rows.filter attached).map view).filter fun v => wanted (row v) := by
    intro rows attached view rowOf narrow
    rw [List.filter_map, List.filter_filter]
    congr 1
    refine List.filter_congr fun r _ => ?_
    by_cases meets : wanted r = true
    · simp [rowOf, meets, narrow r meets]
    · simp [rowOf, meets]
  rw [through rows attached view rowOf fun r meets => (narrow r meets).1,
    through rows' attached' view' rowOf' fun r meets => (narrow r meets).2, same]

theorem filter_of_attached {ρ : Type} (wanted : ρ → Bool) {rows rows' : List ρ}
    {attached attached' : ρ → Bool} (same : rows.filter attached = rows'.filter attached')
    (narrow : ∀ r, wanted r = true → attached r = true ∧ attached' r = true) :
    rows.filter wanted = rows'.filter wanted := by
  have mapped := map_filter_of_attached id wanted (fun _ => rfl) (fun _ => rfl)
    (congrArg (List.map id) same) narrow
  simpa using mapped

section Queries

variable {env : ReadEnv} {actor : AuthTokenPayload} {s t : Store}

/-- An active membership of the actor. -/
def ownMembership (actor : AuthTokenPayload) (s : Store) (user : InstitutionUser) : Bool :=
  user.userId == actor.sub && user.role == actor.role && user.status == .active &&
    (s.institutions.find? user.institutionId).any (·.status == .active)

theorem isMember_of_own {user : InstitutionUser} (key : actor.isApiKey ≠ true)
    (inside : user ∈ s.institutionUsers.rows) (own : ownMembership actor s user = true) :
    isMember actor s user.institutionId = true := by
  unfold isMember
  rw [if_neg key]
  unfold ownMembership at own
  simp only [Bool.and_eq_true, beq_iff_eq] at own
  exact List.any_eq_true.mpr ⟨user, inside, by simp [own.1.1.1, own.1.2]⟩

/-- The memberships that scope a list are the same in agreeing stores. -/
theorem ownMemberships_eq (key : actor.isApiKey ≠ true) (agree : Agree actor s t) :
    s.institutionUsers.rows.filter (ownMembership actor s) =
      t.institutionUsers.rows.filter (ownMembership actor t) := by
  have narrow : ∀ u : Store, u.institutionUsers.rows.filter (ownMembership actor u) =
      (u.institutionUsers.rows.filter fun row => isMember actor u row.institutionId).filter
        (ownMembership actor u) := by
    intro u
    rw [List.filter_filter]
    refine List.filter_congr fun user inside => ?_
    by_cases own : ownMembership actor u user = true
    · simp [own, isMember_of_own key inside own]
    · simp [own]
  rw [narrow s, narrow t, ← agree.institutionUsers]
  refine List.filter_congr fun user inside => ?_
  unfold ownMembership
  rw [agree.institutions _ (by simpa using (List.mem_filter.mp inside).2)]

/-- **The scope of a list** is the same in agreeing stores, and within the memberships. -/
theorem scope_eq (ordinary : actor.role ≠ .acadidSuperAdmin) (agree : Agree actor s t) :
    institutionIdsForActor actor s = institutionIdsForActor actor t ∧
      ∀ id, inScope (institutionIdsForActor actor s) id = true →
        id.any (isMember actor s) = true := by
  unfold institutionIdsForActor
  rw [if_neg ordinary, if_neg ordinary]
  by_cases key : actor.isApiKey = true
  · rw [if_pos key, if_pos key]
    refine ⟨rfl, fun id within => ?_⟩
    obtain ⟨i, rfl, listed⟩ := (Option.any_eq_true _ _).mp within
    have own := (Option.filter_eq_some_iff.mp
      (Option.mem_toList.mp (List.contains_iff_mem.mp listed))).1
    show isMember actor s i = true
    unfold isMember
    rw [if_pos key, own]
    exact beq_self_eq_true _
  · rw [if_neg key, if_neg key]
    refine ⟨congrArg (fun rows => some (rows.map InstitutionUser.institutionId))
      (ownMemberships_eq key agree), fun id within => ?_⟩
    obtain ⟨i, rfl, listed⟩ := (Option.any_eq_true _ _).mp within
    obtain ⟨user, inside, rfl⟩ := List.mem_map.mp (List.contains_iff_mem.mp listed)
    obtain ⟨present, own⟩ := List.mem_filter.mp inside
    exact isMember_of_own key present own

theorem listRecordRequests_eq (ordinary : actor.role ≠ .acadidSuperAdmin)
    (agree : Agree actor s t) (status : Option String) :
    listRecordRequests actor status s = listRecordRequests actor status t := by
  obtain ⟨scope, within⟩ := scope_eq ordinary agree
  unfold listRecordRequests
  rw [← scope]
  cases enumFilter RecordRequests.recordRequestStatuses status with
  | error e => rfl
  | ok status =>
    have rows := map_filter_of_attached RecordRequestView.request
      (fun row => inScope (institutionIdsForActor actor s) row.institutionId &&
        status.all (row.status == ·)) (fun _ => rfl) (fun _ => rfl) agree.recordRequests
      fun row wanted => by
        have member := within _ (Bool.and_eq_true_iff.mp wanted).1
        exact ⟨member, agree.members ▸ member⟩
    show Except.ok _ = Except.ok _
    rw [List.map_take, List.map_take, List.map_reverse, List.map_reverse, rows]

theorem listBatches_eq (ordinary : actor.role ≠ .acadidSuperAdmin) (agree : Agree actor s t) :
    listBatches actor s = listBatches actor t := by
  obtain ⟨scope, within⟩ := scope_eq ordinary agree
  unfold listBatches
  rw [← scope]
  have rows := map_filter_of_attached BatchView.batch
    (fun row => inScope (institutionIdsForActor actor s) (some row.institutionId))
    (fun _ => rfl) (fun _ => rfl) agree.resultBatches fun row wanted => by
      have member := within _ wanted
      exact ⟨member, agree.members ▸ member⟩
  have same := congrArg (List.map BatchView.batch) rows
  rw [List.map_map, List.map_map] at same
  have plain : ∀ u : Store, BatchView.batch ∘ viewBatch u = id := fun _ => rfl
  rw [plain, plain, List.map_id, List.map_id] at same
  rw [same]

/-- Transfers are listed by the token, so that the institution in it has to be a live one. -/
theorem listTransferRequests_eq (ordinary : actor.role ≠ .acadidSuperAdmin)
    (agree : Agree actor s t) {filters : TransferFilters}
    (live : Live actor (.listTransferRequests filters) s) :
    listTransferRequests env actor filters s = listTransferRequests env actor filters t := by
  unfold listTransferRequests
  have plain : (actor.role == .acadidSuperAdmin) = false := by simpa using ordinary
  simp only [plain, Bool.false_eq_true, if_false, Bool.false_or]
  cases token : given actor.institutionUuid with
  | none => cases given filters.institutionId <;> rfl
  | some id =>
    cases accepted : enumFilter transferRequestStatuses filters.status with
    | error e => cases given filters.institutionId <;> rfl
    | ok status =>
      have member := live ⟨status, accepted⟩ id token
      have rows := map_filter_of_attached TransferRequestView.transfer
        (fun row => inDirection filters.direction (some id) row &&
          status.all (row.status == ·)) (fun _ => rfl) (fun _ => rfl) agree.transferRequests
        fun row wanted => by
          have attached : attachedTransfer actor s row = true := by
            have directed := (Bool.and_eq_true_iff.mp wanted).1
            have side : row.fromInstitutionId = id ∨ row.toInstitutionId = some id := by
              unfold inDirection at directed
              simp only at directed
              split_ifs at directed <;> simp_all
            unfold attachedTransfer
            rcases side with source | target
            · rw [source, member, Bool.true_or]
            · rw [target, Option.any_some, member, Bool.or_true]
          exact ⟨attached, agree.attachedTransfer_eq ▸ attached⟩
      have same : ((s.transferRequests.rows.filter fun row =>
            inDirection filters.direction (some id) row && status.all (row.status == ·)).reverse.take
              200).map (viewTransferRequest s) =
          ((t.transferRequests.rows.filter fun row =>
            inDirection filters.direction (some id) row && status.all (row.status == ·)).reverse.take
              200).map (viewTransferRequest t) := by
        rw [List.map_take, List.map_take, List.map_reverse, List.map_reverse, rows]
      cases given filters.institutionId <;> exact congrArg Except.ok same

theorem readBatch_eq (ordinary : actor.role ≠ .acadidSuperAdmin) (agree : Agree actor s t)
    {id : Uuid} (named : Named actor (.readBatch id) s) :
    readBatch actor id s = readBatch actor id t := by
  obtain ⟨batch, found, member⟩ := named
  have viewed : viewBatch s batch ∈ (t.resultBatches.rows.filter fun row =>
      isMember actor t row.institutionId).map (viewBatch t) := by
    rw [← agree.resultBatches]
    exact List.mem_map_of_mem (List.mem_filter.mpr ⟨Table.find?_mem found, member⟩)
  obtain ⟨batch', inside, same⟩ := List.mem_map.mp viewed
  have rows : batch' = batch := congrArg BatchView.batch same
  subst rows
  have found' : t.resultBatches.find? id = some batch' :=
    Table.find?_eq_some.mpr ⟨List.mem_of_mem_filter inside, Table.find?_key found⟩
  unfold readBatch
  rw [found, found']
  show (do
    assertActorCanOperateInstitution actor batch'.institutionId s
    return viewBatch s batch') = _
  rw [operates_eq ordinary agree, ← same]
  rfl

theorem assertCanReadJob_eq (ordinary : actor.role ≠ .acadidSuperAdmin)
    (agree : Agree actor s t) (job : BackgroundJob) :
    assertCanReadJob actor job s = assertCanReadJob actor job t := by
  unfold assertCanReadJob
  rw [if_neg ordinary, if_neg ordinary]
  cases given job.institutionId with
  | none => rfl
  | some id => exact operates_eq ordinary agree id

theorem readJob_eq (ordinary : actor.role ≠ .acadidSuperAdmin) (agree : Agree actor s t)
    {id : Uuid} (named : Named actor (.readJob id) s) : readJob actor id s = readJob actor id t := by
  obtain ⟨job, found, attached⟩ := named
  have viewed : viewJob s job ∈ (t.backgroundJobs.rows.filter (attachedJob actor t)).map
      (viewJob t) := by
    rw [← agree.backgroundJobs]
    exact List.mem_map_of_mem (List.mem_filter.mpr ⟨Table.find?_mem found, attached⟩)
  obtain ⟨job', inside, same⟩ := List.mem_map.mp viewed
  have rows : job' = job := congrArg JobView.job same
  subst rows
  have found' : t.backgroundJobs.find? id = some job' :=
    Table.find?_eq_some.mpr ⟨List.mem_of_mem_filter inside, Table.find?_key found⟩
  unfold readJob
  rw [found, found']
  show (do
    assertCanReadJob actor job' s
    return viewJob s job') = _
  rw [assertCanReadJob_eq ordinary agree, ← same]
  rfl

/-- One institution to a display id: a reference finds it. -/
theorem findInstitution_of_named (unique : UniqueDisplayIds s) {row : Institution}
    (inside : row ∈ s.institutions.rows) (pattern : isUuid row.institutionId = false) (pick : ℕ) :
    findInstitution row.institutionId pick s = .ok (some row) := by
  unfold findInstitution
  rw [if_neg (by simp [pattern])]
  congr 1
  refine findFirst_of_only inside (beq_self_eq_true row.institutionId) (fun other there named => ?_)
    pick
  exact unique _ there _ inside (by simpa using named)

/-- An institution that the actor may know of resolves alike in agreeing stores. -/
theorem resolve_eq (ordinary : actor.role ≠ .acadidSuperAdmin) (agree : Agree actor s t)
    (unique : UniqueDisplayIds s) (unique' : UniqueDisplayIds t) {text : String}
    (named : isUuid text = false →
      ∃ row ∈ s.institutions.rows, row.institutionId = text ∧ Shown actor s row.uuid) :
    resolveReadableInstitution actor text env.pick s =
      resolveReadableInstitution actor text env.pick t := by
  unfold resolveReadableInstitution
  cases pattern : isUuid text with
  | true =>
    unfold findInstitution
    rw [if_pos pattern, if_pos pattern]
    rfl
  | false =>
    obtain ⟨row, inside, rfl, shown⟩ := named pattern
    have inside' : row ∈ t.institutions.rows := by
      have found := Table.find?_eq_some.mpr ⟨inside, rfl⟩
      rw [agree.lookup shown] at found
      exact Table.find?_mem found
    rw [findInstitution_of_named unique inside pattern,
      findInstitution_of_named unique' inside' pattern]
    simp only [operates_eq ordinary agree]

/-- **The scope of a list of the academic setup** is the same in agreeing stores, and within the
memberships, when the filter names an institution that the actor may know of. -/
theorem setupWhere_eq (ordinary : actor.role ≠ .acadidSuperAdmin) (agree : Agree actor s t)
    (unique : UniqueDisplayIds s) (unique' : UniqueDisplayIds t) {ref : Option String}
    (named : NamedInstitution actor ref s) :
    academicSetupWhere env actor ref s = academicSetupWhere env actor ref t ∧
      ∀ scope, academicSetupWhere env actor ref s = .ok scope →
        ∀ id, inScope scope id = true → id.any (isMember actor s) = true := by
  unfold academicSetupWhere
  cases asked : given ref with
  | none =>
    obtain ⟨same, within⟩ := scope_eq ordinary agree
    refine ⟨congrArg Except.ok same, fun scope answered => ?_⟩
    rw [← Except.ok.inj answered]
    exact within
  | some text =>
    refine ⟨?_, fun scope answered id within => ?_⟩
    · show (do
        let institution ← resolveReadableInstitution actor text env.pick s
        return some [institution.uuid]) = _
      rw [resolve_eq ordinary agree unique unique' (named text asked)]
    · obtain ⟨institution, resolved, same⟩ := bind_eq_ok.mp answered
      rw [pure_eq_ok] at same
      subst same
      obtain ⟨-, -, -, operates⟩ := resolveReadableInstitution_spec resolved
      obtain ⟨i, rfl, listed⟩ := (Option.any_eq_true _ _).mp within
      have only : i = institution.uuid := by simpa using listed
      rw [only]
      exact isMember_of_operates ordinary operates

/-- The lists of the academic setup, from what a scope lets through. -/
theorem setupList_eq {ρ ν : Type} {institutionId : ρ → Uuid} {rows rows' : List ρ}
    (same : rows.filter (fun row => isMember actor s (institutionId row)) =
      rows'.filter fun row => isMember actor t (institutionId row))
    (members : isMember actor s = isMember actor t) {scope : Option (List Uuid)}
    (within : ∀ id, inScope scope id = true → id.any (isMember actor s) = true)
    (also : ρ → Bool) (arrange : List ρ → ν) :
    arrange (rows.filter fun row => inScope scope (some (institutionId row)) && also row) =
      arrange (rows'.filter fun row => inScope scope (some (institutionId row)) && also row) := by
  refine congrArg arrange (filter_of_attached _ same fun row wanted => ?_)
  have member := within _ (Bool.and_eq_true_iff.mp wanted).1
  exact ⟨member, members ▸ member⟩

theorem listAcademicSessions_eq (ordinary : actor.role ≠ .acadidSuperAdmin)
    (agree : Agree actor s t) (unique : UniqueDisplayIds s) (unique' : UniqueDisplayIds t)
    {ref : Option String} (named : NamedInstitution actor ref s) :
    listAcademicSessions env actor ref s = listAcademicSessions env actor ref t := by
  obtain ⟨same, within⟩ := @setupWhere_eq env _ _ _ ordinary agree unique unique' _ named
  unfold listAcademicSessions
  rw [← same]
  cases answered : academicSetupWhere env actor ref s with
  | error e => rfl
  | ok scope =>
    have lists := setupList_eq agree.academicSessions agree.members (within scope answered)
      (fun _ => true) fun rows => (rows.reverse.insertionSort fun a b => sessionLe a b).take 200
    simp only [Bool.and_true] at lists
    exact congrArg Except.ok lists

theorem listAcademicStructures_eq (ordinary : actor.role ≠ .acadidSuperAdmin)
    (agree : Agree actor s t) (unique : UniqueDisplayIds s) (unique' : UniqueDisplayIds t)
    {filters : StructureFilters} (named : NamedInstitution actor filters.institutionId s) :
    listAcademicStructures env actor filters s = listAcademicStructures env actor filters t := by
  obtain ⟨same, within⟩ := @setupWhere_eq env _ _ _ ordinary agree unique unique' _ named
  unfold listAcademicStructures
  rw [← same]
  cases answered : academicSetupWhere env actor filters.institutionId s with
  | error e => rfl
  | ok scope =>
    cases enumFilter academicStructureTypes filters.type with
    | error e => rfl
    | ok type =>
      exact congrArg Except.ok (setupList_eq agree.academicStructures agree.members
        (within scope answered) (fun row => (given filters.parentId).all (row.parentId == some ·) &&
          type.all (row.type == ·))
        fun rows => (rows.insertionSort fun a b => structureLe env a b).take 500)

theorem listGradingRuleSets_eq (ordinary : actor.role ≠ .acadidSuperAdmin)
    (agree : Agree actor s t) (unique : UniqueDisplayIds s) (unique' : UniqueDisplayIds t)
    {ref : Option String} (named : NamedInstitution actor ref s) :
    listGradingRuleSets env actor ref s = listGradingRuleSets env actor ref t := by
  obtain ⟨same, within⟩ := @setupWhere_eq env _ _ _ ordinary agree unique unique' _ named
  unfold listGradingRuleSets
  rw [← same]
  cases answered : academicSetupWhere env actor ref s with
  | error e => rfl
  | ok scope =>
    have lists := setupList_eq agree.gradingRuleSets agree.members (within scope answered)
      (fun _ => true) fun rows => (rows.insertionSort fun a b => ruleSetLe a b).take 100
    simp only [Bool.and_true] at lists
    exact congrArg Except.ok lists

/-- **Agreeing stores answer alike** a call that is live and names nothing of another's. -/
theorem query_eq (ordinary : actor.role ≠ .acadidSuperAdmin) (agree : Agree actor s t)
    (unique : UniqueDisplayIds s) (unique' : UniqueDisplayIds t) {call : ReadCall}
    (live : Live actor call s) (named : Named actor call s) :
    query env actor call s = query env actor call t := by
  unfold query
  cases call with
  | listRecordRequests status =>
    exact congrArg (Except.map _) (listRecordRequests_eq ordinary agree status)
  | listTransferRequests filters =>
    exact congrArg (Except.map _) (listTransferRequests_eq ordinary agree live)
  | listBatches => 
    exact congrArg (fun rows => Except.ok (ReadResult.batches rows))
      (listBatches_eq ordinary agree)
  | readBatch id => exact congrArg (Except.map _) (readBatch_eq ordinary agree named)
  | listAcademicSessions ref =>
    exact congrArg (Except.map _) (listAcademicSessions_eq ordinary agree unique unique' named)
  | listAcademicStructures filters =>
    exact congrArg (Except.map _) (listAcademicStructures_eq ordinary agree unique unique' named)
  | listGradingRuleSets ref =>
    exact congrArg (Except.map _) (listGradingRuleSets_eq ordinary agree unique unique' named)
  | readJob id => exact congrArg (Except.map _) (readJob_eq ordinary agree named)

/-- What a call that succeeds names is attached to the actor's institutions. -/
theorem named_of_ok (ordinary : actor.role ≠ .acadidSuperAdmin) {call : ReadCall}
    {result : ReadResult} (answered : query env actor call s = .ok result) :
    Named actor call s := by
  have resolved : ∀ ref scope, academicSetupWhere env actor ref s = .ok scope →
      NamedInstitution actor ref s := by
    intro ref scope scopes text asked pattern
    unfold academicSetupWhere at scopes
    rw [asked] at scopes
    obtain ⟨institution, found, -⟩ := bind_eq_ok.mp scopes
    obtain ⟨inside, named, -, operates⟩ := resolveReadableInstitution_spec found
    exact ⟨institution, inside, named, .inl (isMember_of_operates ordinary operates)⟩
  unfold query at answered
  cases call with
  | listRecordRequests | listTransferRequests | listBatches => trivial
  | readBatch id =>
    obtain ⟨view, done, -⟩ := map_eq_ok.mp answered
    obtain ⟨batch, found, rest⟩ := bind_eq_ok.mp done
    obtain ⟨⟨⟩, operates, -⟩ := bind_eq_ok.mp rest
    exact ⟨batch, orThrow_eq_ok.mp found, isMember_of_operates ordinary operates⟩
  | listAcademicSessions ref =>
    obtain ⟨rows, done, -⟩ := map_eq_ok.mp answered
    obtain ⟨scope, scopes, -⟩ := bind_eq_ok.mp done
    exact resolved ref scope scopes
  | listAcademicStructures filters =>
    obtain ⟨rows, done, -⟩ := map_eq_ok.mp answered
    obtain ⟨scope, scopes, -⟩ := bind_eq_ok.mp done
    exact resolved filters.institutionId scope scopes
  | listGradingRuleSets ref =>
    obtain ⟨rows, done, -⟩ := map_eq_ok.mp answered
    obtain ⟨scope, scopes, -⟩ := bind_eq_ok.mp done
    exact resolved ref scope scopes
  | readJob id =>
    obtain ⟨view, done, -⟩ := map_eq_ok.mp answered
    obtain ⟨job, found, rest⟩ := bind_eq_ok.mp done
    obtain ⟨⟨⟩, allowed, -⟩ := bind_eq_ok.mp rest
    refine ⟨job, orThrow_eq_ok.mp found, ?_⟩
    unfold assertCanReadJob at allowed
    rw [if_neg ordinary] at allowed
    unfold attachedJob
    cases owner : given job.institutionId with
    | none =>
      rw [owner] at allowed
      exact (Bool.and_eq_true_iff.mp (require_eq_ok.mp allowed)).2
    | some institutionId =>
      rw [owner] at allowed
      exact isMember_of_operates ordinary allowed

/-! ### Changes that an actor may not notice -/

theorem agree_of_institutions {institutions : Table Institution.uuid}
    (same : ∀ id, Shown actor s id → s.institutions.find? id = institutions.find? id) :
    Agree actor s { s with institutions := institutions } where
  members := rfl
  institutions id member := same id (.inl member)
  institutionUsers := rfl
  recordRequests := by
    refine List.map_congr_left fun row inside => ?_
    have owner := (List.mem_filter.mp inside).2
    unfold viewRecordRequest
    cases at_id : row.institutionId with
    | none => rfl
    | some id =>
      rw [at_id] at owner
      show RecordRequestView.mk _ _ (s.institutions.find? id) _ _ = _
      rw [same id (.inl owner)]
      rfl
  transferRequests := by
    refine List.map_congr_left fun row inside => ?_
    obtain ⟨listed, attached⟩ := List.mem_filter.mp inside
    unfold viewTransferRequest
    have source := same row.fromInstitutionId (.inr ⟨row, listed, attached, .inl rfl⟩)
    have target : row.toInstitutionId.bind s.institutions.find? =
        row.toInstitutionId.bind institutions.find? := by
      cases at_id : row.toInstitutionId with
      | none => rfl
      | some id => exact same id (.inr ⟨row, listed, attached, .inr at_id⟩)
    rw [source, target]
    rfl
  resultBatches := rfl
  academicSessions := rfl
  academicStructures := rfl
  gradingRuleSets := rfl
  backgroundJobs := rfl

theorem agree_of_transfers {transferRequests : Table TransferRequest.uuid}
    (same : s.transferRequests.rows.filter (attachedTransfer actor s) =
      transferRequests.rows.filter (attachedTransfer actor s)) :
    Agree actor s { s with transferRequests := transferRequests } where
  members := rfl
  institutions _ _ := rfl
  institutionUsers := rfl
  recordRequests := rfl
  transferRequests := congrArg (List.map (viewTransferRequest s)) same
  resultBatches := rfl
  academicSessions := rfl
  academicStructures := rfl
  gradingRuleSets := rfl
  backgroundJobs := rfl

theorem agree_of_batches {resultBatches : Table ResultBatch.uuid}
    (same : s.resultBatches.rows.filter (fun row => isMember actor s row.institutionId) =
      resultBatches.rows.filter fun row => isMember actor s row.institutionId) :
    Agree actor s { s with resultBatches := resultBatches } where
  members := rfl
  institutions _ _ := rfl
  institutionUsers := rfl
  recordRequests := rfl
  transferRequests := rfl
  resultBatches := congrArg (List.map (viewBatch s)) same
  academicSessions := rfl
  academicStructures := rfl
  gradingRuleSets := rfl
  backgroundJobs := rfl

theorem agree_of_jobs {backgroundJobs : Table BackgroundJob.uuid}
    (same : s.backgroundJobs.rows.filter (attachedJob actor s) =
      backgroundJobs.rows.filter (attachedJob actor s)) :
    Agree actor s { s with backgroundJobs := backgroundJobs } where
  members := rfl
  institutions _ _ := rfl
  institutionUsers := rfl
  recordRequests := rfl
  transferRequests := rfl
  resultBatches := rfl
  academicSessions := rfl
  academicStructures := rfl
  gradingRuleSets := rfl
  backgroundJobs := congrArg (List.map (viewJob s)) same

/-- A row that no filter of attached rows lets through can be added, whatever its key. -/
theorem exists_insert {ρ : Type} {key : ρ → Uuid} (table : Table key) (attached : ρ → Bool)
    {row : ρ} (fresh : table.find? (key row) = none) (hidden : attached row = false) :
    ∃ more : Table key, more.rows = table.rows ++ [row] ∧ more.find? (key row) = some row ∧
      table.rows.filter attached = more.rows.filter attached := by
  obtain ⟨more, inserted⟩ := Table.insert_of_fresh (Table.find?_eq_none.mp fresh)
  obtain ⟨-, rows⟩ := Table.insert_eq_some.mp inserted
  refine ⟨more, rows, ?_, ?_⟩
  · rw [Table.find?_insert inserted, if_pos rfl]
  · rw [rows, List.filter_append]
    simp [hidden]

/-- So can a row that it lets not through be removed. -/
theorem filter_remove {ρ : Type} {key : ρ → Uuid} (table : Table key) (attached : ρ → Bool)
    {id : Uuid} {row : ρ} (found : table.find? id = some row) (hidden : attached row = false) :
    (table.filter fun other => key other ≠ id).find? id = none ∧
      table.rows.filter attached = (table.filter fun other => key other ≠ id).rows.filter attached := by
  refine ⟨?_, ?_⟩
  · refine Table.find?_eq_none.mpr fun other inside => ?_
    simpa using (List.mem_filter.mp inside).2
  · rw [Table.rows_filter, List.filter_filter]
    refine List.filter_congr fun other inside => ?_
    by_cases same : key other = id
    · have only := Table.eq_of_key_eq inside (Table.find?_mem found)
        (same.trans (Table.find?_key found).symm)
      rw [only, hidden, Bool.false_and]
    · simp [same]

/-- An id that no institution has, and no row names. -/
theorem exists_stranger (actor : AuthTokenPayload) (s : Store) :
    ∃ id, isMember actor s id = false ∧ ¬ Shown actor s id ∧
      s.institutions.find? id = none ∧ id ≠ "" := by
  obtain ⟨id, fresh⟩ := Infinite.exists_notMem_finset
    ("" :: actor.institutionUuid.toList ++ s.institutionUsers.rows.map (·.institutionId) ++
      s.institutions.rows.map (·.uuid) ++ s.transferRequests.rows.map (·.fromInstitutionId) ++
      s.transferRequests.rows.filterMap (·.toInstitutionId)).toFinset
  simp only [List.mem_toFinset, List.mem_append, List.mem_cons, List.mem_map, List.mem_filterMap,
    Option.mem_toList, not_or, not_exists, not_and] at fresh
  obtain ⟨⟨⟨⟨⟨empty, own⟩, members⟩, institutions⟩, sources⟩, targets⟩ := fresh
  have member : isMember actor s id = false := by
    unfold isMember
    split_ifs
    · simpa using own
    · refine List.any_eq_false.mpr fun user inside => ?_
      simp [members user inside]
  refine ⟨id, member, ?_, ?_, empty⟩
  · rintro (holds | ⟨row, inside, -, source | target⟩)
    · exact absurd holds (by simp [member])
    · exact sources row inside source
    · exact targets row inside target
  · exact Table.find?_eq_none.mpr institutions

/-! ### Where it does depend on them -/

/-- A transfer out of an institution. -/
def transferOf (uuid id : Uuid) (status : TransferRequestStatus) : TransferRequest where
  uuid := uuid
  transferId := uuid
  learnerId := uuid
  fromInstitutionId := id
  toInstitutionId := some id
  fromEnrolmentId := none
  fromSessionId := none
  fromStructureId := none
  toInstitutionNameSubmitted := none
  toInstitutionContactEmail := none
  reason := none
  status := status
  requestedById := none
  reviewedById := none
  rolloverRecordId := none
  disputeId := none
  requestedAt := 0
  reviewedAt := none
  completedAt := none
  rejectedAt := none
  cancelledAt := none
  notes := .null

/-- The transfers listed for an institution. -/
def transfersOf (filters : TransferFilters) (id : Uuid) (status : Option TransferRequestStatus)
    (s : Store) : List TransferRequestView :=
  ((s.transferRequests.rows.filter fun row =>
    inDirection filters.direction (some id) row && status.all (row.status == ·)).reverse.take
      200).map (viewTransferRequest s)

/-- A batch of an institution. -/
def batchOf (uuid institutionId : Uuid) : ResultBatch where
  uuid := uuid
  institutionId := institutionId
  academicSessionId := none
  structureScopeId := none
  gradingRuleSetId := none
  uploadMode := .masterSheet
  title := ""
  batchLabel := none
  status := .draft
  rejectionCount := 0
  createdById := uuid
  createdByInstitutionUserId := none
  recordCount := 0
  validationSummary := .null
  submittedAt := none
  reviewedAt := none
  approvedAt := none
  publishedAt := none

/-- A job of an institution. -/
def jobOf (uuid institutionId : Uuid) : BackgroundJob where
  uuid := uuid
  type := .bulkStudentUpload
  queue := ""
  status := .queued
  institutionId := some institutionId
  createdById := none
  relatedEntityType := none
  relatedEntityId := none
  priority := 0
  attempts := 0
  maxAttempts := 0
  runAfter := 0
  payload := .null
  result := none
  error := none

/-- What a list of transfers returns to an actor with an institution in its token. -/
theorem query_transfers (ordinary : actor.role ≠ .acadidSuperAdmin)
    {filters : TransferFilters} {id : Uuid} (token : given actor.institutionUuid = some id)
    {status : Option TransferRequestStatus}
    (accepted : enumFilter transferRequestStatuses filters.status = .ok status) (s : Store) :
    query env actor (.listTransferRequests filters) s =
      .ok (.transferRequests (transfersOf filters id status s)) := by
  show (listTransferRequests env actor filters s).map _ = _
  unfold listTransferRequests
  have plain : (actor.role == .acadidSuperAdmin) = false := by simpa using ordinary
  simp only [plain, Bool.false_eq_true, if_false, Bool.false_or, token, accepted]
  cases given filters.institutionId <;> rfl

/-- **A list of transfers that is not live** shows another transfer of the institution in the
token. -/
theorem differs_of_not_live (ordinary : actor.role ≠ .acadidSuperAdmin)
    (unique : UniqueDisplayIds s) {call : ReadCall} (dead : ¬ Live actor call s) :
    ∃ t, UniqueDisplayIds t ∧ Agree actor s t ∧
      (query env actor call s).toOption ≠ (query env actor call t).toOption := by
  unfold Live at dead
  split at dead
  · rename_i filters
    simp only [not_forall] at dead
    obtain ⟨⟨status, accepted⟩, id, token, stranger⟩ := dead
    obtain ⟨uuid, fresh⟩ := Infinite.exists_notMem_finset
      (s.transferRequests.rows.map (·.uuid)).toFinset
    have absent : ∀ other ∈ s.transferRequests.rows, other.uuid ≠ uuid := by
      intro other inside same
      exact fresh (List.mem_toFinset.mpr (List.mem_map.mpr ⟨other, inside, same⟩))
    let row := transferOf uuid id (status.getD .requested)
    have hidden : attachedTransfer actor s row = false := by
      simp [row, attachedTransfer, transferOf, stranger]
    obtain ⟨more, rows, -, same⟩ := exists_insert s.transferRequests (attachedTransfer actor s)
      (Table.find?_eq_none.mpr absent : s.transferRequests.find? row.uuid = none) hidden
    refine ⟨{ s with transferRequests := more }, unique, agree_of_transfers same, ?_⟩
    rw [query_transfers ordinary token accepted, query_transfers ordinary token accepted]
    intro equal
    have lists := ReadResult.transferRequests.inj (Option.some.inj equal)
    have last : ([row].filter fun row => inDirection filters.direction (some id) row &&
        status.all (row.status == ·)) = [row] := by
      refine List.filter_eq_self.mpr fun other single => ?_
      rw [List.mem_singleton.mp single]
      unfold inDirection
      cases status <;> simp [row, transferOf]
    -- The added transfer is the newest, and so the first of the list.
    have listed : viewTransferRequest s row ∈
        transfersOf filters id status { s with transferRequests := more } := by
      refine List.mem_map_of_mem (f := viewTransferRequest s) ?_
      show row ∈ ((more.rows.filter _).reverse.take 200)
      rw [rows, List.filter_append, last, List.reverse_append, List.reverse_singleton,
        List.singleton_append, List.take_succ_cons]
      exact List.mem_cons_self
    rw [← lists] at listed
    obtain ⟨old, taken, view⟩ := List.mem_map.mp listed
    have inside := List.mem_of_mem_filter (List.mem_reverse.mp (List.mem_of_mem_take taken))
    exact absent old inside (congrArg (fun v => v.transfer.uuid) view)
  · exact absurd trivial dead

/-! ### Refusals that tell what is there -/

/-- What a refusal says of a batch that is not there, and of one that is. -/
theorem readBatch_not_found (ordinary : actor.role ≠ .acadidSuperAdmin) (id : Uuid) :
    query env actor (.readBatch id) s = .error (.badRequest "Result batch not found.") ↔
      s.resultBatches.find? id = none := by
  show (readBatch actor id s).map _ = _ ↔ _
  unfold readBatch
  cases found : s.resultBatches.find? id with
  | none => exact ⟨fun _ => rfl, fun _ => rfl⟩
  | some batch =>
    refine ⟨fun refused => ?_, fun absent => absurd absent (by simp)⟩
    replace refused : (do
        assertActorCanOperateInstitution actor batch.institutionId s
        return viewBatch s batch).map ReadResult.batch =
          .error (.badRequest "Result batch not found.") := refused
    rcases operates_or_refused ordinary batch.institutionId s with here | here
    · rw [here] at refused
      exact absurd refused (by simp [bind, Except.bind, Except.map, pure, Except.pure])
    · rw [here] at refused
      exact absurd refused (by simp [bind, Except.bind, Except.map])

theorem readJob_not_found (ordinary : actor.role ≠ .acadidSuperAdmin) (id : Uuid) :
    query env actor (.readJob id) s = .error (.badRequest "Job not found.") ↔
      s.backgroundJobs.find? id = none := by
  show (readJob actor id s).map _ = _ ↔ _
  unfold readJob
  cases found : s.backgroundJobs.find? id with
  | none => exact ⟨fun _ => rfl, fun _ => rfl⟩
  | some job =>
    refine ⟨fun refused => ?_, fun absent => absurd absent (by simp)⟩
    replace refused : (do
        assertCanReadJob actor job s
        return viewJob s job).map ReadResult.job = .error (.badRequest "Job not found.") := refused
    have outcome : assertCanReadJob actor job s = .ok () ∨
        ∃ message, assertCanReadJob actor job s = .error (.forbidden message) := by
      unfold assertCanReadJob
      rw [if_neg ordinary]
      cases given job.institutionId with
      | none =>
        unfold require
        split_ifs
        · exact .inl rfl
        · exact .inr ⟨_, rfl⟩
      | some owner => exact (operates_or_refused ordinary owner s).imp_right fun here => ⟨_, here⟩
    rcases outcome with here | ⟨message, here⟩
    · rw [here] at refused
      exact absurd refused (by simp [bind, Except.bind, Except.map, pure, Except.pure])
    · rw [here] at refused
      exact absurd refused (by simp [bind, Except.bind, Except.map])

/-- A reference that names no active institution. -/
theorem resolve_not_found {text : String} (pattern : isUuid text = false)
    (none_active : ∀ row ∈ s.institutions.rows, row.institutionId = text → row.status ≠ .active)
    (pick : ℕ) : resolveReadableInstitution actor text pick s =
      .error (.badRequest "Active institution not found.") := by
  have looked : findInstitution text pick s =
      .ok (findFirst s.institutions.rows (fun row => row.institutionId == text) pick) := by
    unfold findInstitution
    rw [if_neg (by simp [pattern])]
  have kept : (findFirst s.institutions.rows (fun row => row.institutionId == text) pick).filter
      (·.status == .active) = none := by
    refine Option.filter_eq_none_iff.mpr fun row found => ?_
    obtain ⟨inside, named⟩ := findFirst_eq_some found
    simpa using none_active row inside (by simpa using named)
  rw [resolveReadableInstitution_of_found looked, kept]

/-- A reference that names another's active institution. -/
theorem resolve_forbidden (ordinary : actor.role ≠ .acadidSuperAdmin)
    (unique : UniqueDisplayIds s) {row : Institution} (inside : row ∈ s.institutions.rows)
    (pattern : isUuid row.institutionId = false) (active : row.status = .active)
    (stranger : isMember actor s row.uuid = false) (pick : ℕ) :
    ∃ message, resolveReadableInstitution actor row.institutionId pick s =
      .error (.forbidden message) := by
  have kept : (some row).filter (fun row => row.status == .active) = some row := by
    simp [active]
  rw [resolveReadableInstitution_of_found (findInstitution_of_named unique inside pattern pick), kept]
  rcases operates_or_refused ordinary row.uuid s with here | here
  · rw [isMember_of_operates ordinary here] at stranger
    exact absurd stranger (by simp)
  · show ∃ message, (assertActorCanOperateInstitution actor row.uuid s).map _ = _
    rw [here]
    exact ⟨_, rfl⟩

/-- **An institution the actor may not know of** can be put in or out of the way of a reference,
and the reference is refused differently. -/
theorem resolves_differently (ordinary : actor.role ≠ .acadidSuperAdmin)
    (unique : UniqueDisplayIds s) {text : String} (pattern : isUuid text = false)
    (unnamed : ¬ ∃ row ∈ s.institutions.rows, row.institutionId = text ∧ Shown actor s row.uuid)
    (pick : ℕ) : ∃ t e e', UniqueDisplayIds t ∧ Agree actor s t ∧ e ≠ e' ∧
      resolveReadableInstitution actor text pick s = .error e ∧
        resolveReadableInstitution actor text pick t = .error e' := by
  by_cases taken : ∃ row ∈ s.institutions.rows, row.institutionId = text
  · obtain ⟨row, inside, rfl⟩ := taken
    have hidden : ¬ Shown actor s row.uuid := fun shown => unnamed ⟨row, inside, rfl, shown⟩
    have stranger : isMember actor s row.uuid = false := by
      simpa using fun member => hidden (.inl member)
    by_cases active : row.status = .active
    · -- It is removed.
      refine ⟨{ s with institutions := s.institutions.filter fun other => other.uuid ≠ row.uuid },
        _, _, ?_, ?_, ?_, (resolve_forbidden ordinary unique inside pattern active stranger
          pick).choose_spec, resolve_not_found pattern ?_ pick⟩
      · intro a here b there
        exact unique a (List.mem_of_mem_filter here) b (List.mem_of_mem_filter there)
      · refine agree_of_institutions fun id shown => ?_
        refine Table.find?_of_filter_eq (p := fun other => other.uuid ≠ row.uuid)
          (q := fun _ => true) ?_ fun other at_id => ⟨?_, rfl⟩
        · simp
        · have apart : other.uuid ≠ row.uuid := by
            intro same
            rw [← same, at_id] at hidden
            exact hidden shown
          simpa using apart
      · simp
      · intro other here named
        have same := unique other (List.mem_of_mem_filter here) row inside named
        rw [same] at here
        exact absurd (List.mem_filter.mp here).2 (by simp)
    · -- It is activated.
      let activated := s.institutions.update row.uuid
        (fun other => { other with status := .active }) fun _ => rfl
      have found := Table.find?_eq_some.mpr ⟨inside, rfl⟩
      have inside' : { row with status := .active } ∈ activated.rows :=
        Table.find?_mem (Table.find?_update_self found
          (fun other => { other with status := .active }) fun _ => rfl)
      have unique' : UniqueDisplayIds { s with institutions := activated } := by
        have origin : ∀ a ∈ activated.rows, ∃ b ∈ s.institutions.rows,
            b.institutionId = a.institutionId ∧
              a = if b.uuid = row.uuid then { b with status := .active } else b := by
          intro a here
          rcases Table.mem_update.mp here with ⟨b, old, at_id, rfl⟩ | ⟨old, apart⟩
          · exact ⟨b, old, rfl, by rw [if_pos at_id]⟩
          · exact ⟨a, old, rfl, by rw [if_neg apart]⟩
        intro a here b there named
        obtain ⟨a', old, same, rfl⟩ := origin a here
        obtain ⟨b', old', same', rfl⟩ := origin b there
        rw [unique a' old b' old' (same.trans (named.trans same'.symm))]
      refine ⟨{ s with institutions := activated }, _, _, unique', ?_, ?_,
        resolve_not_found pattern ?_ pick,
        (resolve_forbidden ordinary unique' inside' pattern rfl stranger pick).choose_spec⟩
      · refine agree_of_institutions fun id shown => ?_
        have apart : row.uuid ≠ id := fun same => hidden (same ▸ shown)
        show _ = Table.find? (s.institutions.update _ _ _) id
        rw [Table.find?_update, if_neg apart]
      · simp
      · intro other here named
        rw [unique other here row inside named]
        exact active
  · -- One is added.
    obtain ⟨id, stranger, hidden, absent, -⟩ := exists_stranger actor s
    let row : Institution := ⟨id, text, "", .active⟩
    obtain ⟨more, rows, found, -⟩ :=
      exists_insert s.institutions (fun _ => false) (show s.institutions.find? row.uuid = none from
        absent) rfl
    have unique' : UniqueDisplayIds { s with institutions := more } := by
      intro a here b there named
      rw [show _ = _ from rows] at here there
      rcases List.mem_append.mp here with old | new
      · rcases List.mem_append.mp there with old' | new'
        · exact unique a old b old' named
        · rw [List.mem_singleton.mp new'] at named
          exact absurd ⟨a, old, named⟩ taken
      · rcases List.mem_append.mp there with old' | new'
        · rw [List.mem_singleton.mp new] at named
          exact absurd ⟨b, old', named.symm⟩ taken
        · rw [List.mem_singleton.mp new, List.mem_singleton.mp new']
    refine ⟨{ s with institutions := more }, _, _, unique', ?_, ?_,
      resolve_not_found pattern (fun other here named => absurd ⟨other, here, named⟩ taken) pick,
      (resolve_forbidden ordinary unique' (Table.find?_mem found) pattern rfl stranger
        pick).choose_spec⟩
    · refine agree_of_institutions fun other shown => ?_
      have apart : id ≠ other := fun same => hidden (same ▸ shown)
      unfold Table.find?
      rw [rows, List.find?_append]
      simp [row, apart]
    · simp

/-- A refused institution refuses the list. -/
theorem setupWhere_refused {ref : Option String} {text : String} (asked : given ref = some text)
    {e : ServiceError}
    (refused : resolveReadableInstitution actor text env.pick s = .error e) :
    academicSetupWhere env actor ref s = .error e := by
  unfold academicSetupWhere
  rw [asked]
  show (do
    let institution ← resolveReadableInstitution actor text env.pick s
    return some [Institution.uuid institution]) = _
  rw [refused]
  rfl

/-- Where a filter names an institution the actor may not know of, the scope is refused
differently in an agreeing store. -/
theorem setupWhere_differs (ordinary : actor.role ≠ .acadidSuperAdmin)
    (unique : UniqueDisplayIds s) {ref : Option String}
    (unnamed : ¬ NamedInstitution actor ref s) : ∃ t e e', UniqueDisplayIds t ∧ Agree actor s t ∧
      e ≠ e' ∧ academicSetupWhere env actor ref s = .error e ∧
        academicSetupWhere env actor ref t = .error e' := by
  unfold NamedInstitution at unnamed
  simp only [not_forall] at unnamed
  obtain ⟨text, asked, pattern, hidden⟩ := unnamed
  obtain ⟨t, e, e', unique', agree, apart, here, there⟩ :=
    resolves_differently ordinary unique pattern hidden env.pick
  exact ⟨t, e, e', unique', agree, apart, setupWhere_refused asked here,
    setupWhere_refused asked there⟩

/-- **A call that names what is another's** is refused differently in an agreeing store. -/
theorem differs_of_not_named (ordinary : actor.role ≠ .acadidSuperAdmin)
    (unique : UniqueDisplayIds s) {call : ReadCall} (unnamed : ¬ Named actor call s) :
    ∃ t, UniqueDisplayIds t ∧ Agree actor s t ∧
      query env actor call s ≠ query env actor call t := by
  cases call with
  | listRecordRequests | listTransferRequests | listBatches => exact absurd trivial unnamed
  | readBatch id =>
    have flips : ∀ t : Store, (t.resultBatches.find? id = none ↔ s.resultBatches.find? id ≠ none) →
        query env actor (.readBatch id) s ≠ query env actor (.readBatch id) t := by
      intro t other same
      have here := @readBatch_not_found env actor s ordinary id
      have there := @readBatch_not_found env actor t ordinary id
      rw [same, there, other] at here
      exact iff_not_self here.symm
    cases found : s.resultBatches.find? id with
    | none =>
      obtain ⟨owner, stranger, -⟩ := exists_stranger actor s
      obtain ⟨more, -, there, same⟩ := exists_insert s.resultBatches
        (fun row => isMember actor s row.institutionId)
        (show s.resultBatches.find? (batchOf id owner).uuid = none from found) stranger
      refine ⟨{ s with resultBatches := more }, unique, agree_of_batches same, flips _ ?_⟩
      show more.find? id = none ↔ _
      rw [show more.find? id = _ from there, found]
      simp
    | some batch =>
      have hidden : isMember actor s batch.institutionId = false := by
        simpa using fun member => unnamed ⟨batch, found, member⟩
      obtain ⟨gone, same⟩ := filter_remove s.resultBatches
        (fun row => isMember actor s row.institutionId) found hidden
      refine ⟨{ s with resultBatches := s.resultBatches.filter fun other => other.uuid ≠ id },
        unique, agree_of_batches same, flips _ ?_⟩
      show Table.find? (s.resultBatches.filter _) id = none ↔ _
      rw [gone, found]
      simp
  | listAcademicSessions ref =>
    obtain ⟨t, e, e', unique', agree, apart, here, there⟩ :=
      @setupWhere_differs env _ _ ordinary unique _ unnamed
    refine ⟨t, unique', agree, ?_⟩
    show (listAcademicSessions env actor ref s).map _ ≠ (listAcademicSessions env actor ref t).map _
    unfold listAcademicSessions
    rw [here, there]
    exact fun same => apart (Except.error.inj same)
  | listAcademicStructures filters =>
    obtain ⟨t, e, e', unique', agree, apart, here, there⟩ :=
      @setupWhere_differs env _ _ ordinary unique _ unnamed
    refine ⟨t, unique', agree, ?_⟩
    show (listAcademicStructures env actor filters s).map _ ≠
      (listAcademicStructures env actor filters t).map _
    unfold listAcademicStructures
    rw [here, there]
    exact fun same => apart (Except.error.inj same)
  | listGradingRuleSets ref =>
    obtain ⟨t, e, e', unique', agree, apart, here, there⟩ :=
      @setupWhere_differs env _ _ ordinary unique _ unnamed
    refine ⟨t, unique', agree, ?_⟩
    show (listGradingRuleSets env actor ref s).map _ ≠ (listGradingRuleSets env actor ref t).map _
    unfold listGradingRuleSets
    rw [here, there]
    exact fun same => apart (Except.error.inj same)
  | readJob id =>
    have flips : ∀ t : Store,
        (t.backgroundJobs.find? id = none ↔ s.backgroundJobs.find? id ≠ none) →
          query env actor (.readJob id) s ≠ query env actor (.readJob id) t := by
      intro t other same
      have here := @readJob_not_found env actor s ordinary id
      have there := @readJob_not_found env actor t ordinary id
      rw [same, there, other] at here
      exact iff_not_self here.symm
    cases found : s.backgroundJobs.find? id with
    | none =>
      obtain ⟨owner, stranger, -, -, there⟩ := exists_stranger actor s
      have hidden : attachedJob actor s (jobOf id owner) = false := by
        have named : given (some owner) = some owner := by simp [given, there]
        show (match given (some owner) with
          | some institutionId => isMember actor s institutionId
          | none => _) = false
        rw [named]
        exact stranger
      obtain ⟨more, -, there, same⟩ := exists_insert s.backgroundJobs (attachedJob actor s)
        (show s.backgroundJobs.find? (jobOf id owner).uuid = none from found) hidden
      refine ⟨{ s with backgroundJobs := more }, unique, agree_of_jobs same, flips _ ?_⟩
      show more.find? id = none ↔ _
      rw [show more.find? id = _ from there, found]
      simp
    | some job =>
      have hidden : attachedJob actor s job = false := by
        simpa using fun attached => unnamed ⟨job, found, attached⟩
      obtain ⟨gone, same⟩ := filter_remove s.backgroundJobs (attachedJob actor s) found hidden
      refine ⟨{ s with backgroundJobs := s.backgroundJobs.filter fun other => other.uuid ≠ id },
        unique, agree_of_jobs same, flips _ ?_⟩
      show Table.find? (s.backgroundJobs.filter _) id = none ↔ _
      rw [gone, found]
      simp

/-! ### Exactly when a query is isolated -/

/-- **Exactly when a query is isolated** from the rows of other institutions: agreeing stores
return the same to an actor who is not a super admin exactly when the call is live, and refuse it
alike too exactly when it names nothing of another's. -/
theorem isolated_iff (env : ReadEnv) (actor : AuthTokenPayload) (call : ReadCall) (s : Store)
    (ordinary : actor.role ≠ .acadidSuperAdmin) (unique : UniqueDisplayIds s) :
    ((∀ t, UniqueDisplayIds t → Agree actor s t →
        query env actor call s = query env actor call t) ↔
      Live actor call s ∧ Named actor call s) ∧
    ((∀ t, UniqueDisplayIds t → Agree actor s t →
        (query env actor call s).toOption = (query env actor call t).toOption) ↔
      Live actor call s) := by
  refine ⟨⟨fun isolated => ⟨?_, ?_⟩, fun ⟨live, named⟩ t unique' agree =>
    query_eq ordinary agree unique unique' live named⟩, fun isolated => ?_,
    fun live t unique' agree => ?_⟩
  · by_contra dead
    obtain ⟨t, unique', agree, differ⟩ := @differs_of_not_live env _ _ ordinary unique _ dead
    exact differ (congrArg Except.toOption (isolated t unique' agree))
  · by_contra unnamed
    obtain ⟨t, unique', agree, differ⟩ := @differs_of_not_named env _ _ ordinary unique _ unnamed
    exact differ (isolated t unique' agree)
  · by_contra dead
    obtain ⟨t, unique', agree, differ⟩ := @differs_of_not_live env _ _ ordinary unique _ dead
    exact differ (isolated t unique' agree)
  · -- A store in which the call succeeds has what the call names, and so has the other.
    have live' : Live actor call t := by
      unfold Live at live ⊢
      rw [← agree.members]
      exact live
    cases here : query env actor call s with
    | ok result =>
      rw [← query_eq ordinary agree unique unique' live (named_of_ok ordinary here), here]
    | error e =>
      cases there : query env actor call t with
      | error e' => rfl
      | ok result =>
        have back := @query_eq env _ _ _ ordinary agree.symm unique' unique _ live'
          (named_of_ok ordinary there)
        rw [here, there] at back
        exact absurd back (by simp)

end Queries

/-! ### A registrar -/

def schoolId : Uuid := "10000000-0000-4000-8000-000000000001"

/-- The registrar of a school, by its token. -/
def registrar : AuthTokenPayload where
  sub := "50000000-0000-4000-8000-000000000002"
  email := "registrar@acadid.test"
  fullName := "Registrar"
  role := .registrar
  kind := some .user
  learnerId := none
  institutionId := none
  institutionUuid := some schoolId
  institutionUserId := some "a0000000-0000-4000-8000-000000000001"
  assignedScopes := none
  apiKeyId := none
  clientId := none
  productCode := none

/-- The school, with the membership of its registrar. -/
def staffed (status : InstitutionUserStatus) : Store :=
  { Store.empty with
    institutions :=
      { rows := [⟨schoolId, "ACD-0001", "First School", .active⟩]
        nodup := List.nodup_singleton _ }
    institutionUsers :=
      { rows :=
          [{ uuid := "a0000000-0000-4000-8000-000000000001"
             userId := "50000000-0000-4000-8000-000000000002"
             institutionId := schoolId
             role := .registrar
             status := status
             assignedScopes := .arr [] }]
        nodup := List.nodup_singleton _ } }

theorem staffed_unique (status : InstitutionUserStatus) : UniqueDisplayIds (staffed status) := by
  intro a here b there _
  rw [List.mem_singleton.mp here, List.mem_singleton.mp there]

def byTitle : ReadEnv where
  pick := 0
  collate a b := decide (a ≤ b)

/-- All transfers of the institution in the token. -/
def allTransfers : ReadCall :=
  .listTransferRequests ⟨none, none, none⟩

/-- An active registrar's list of transfers depends on no other institution. -/
theorem isolated_iff_active :
    ((∀ t, UniqueDisplayIds t → Agree registrar (staffed .active) t →
        query byTitle registrar allTransfers (staffed .active) =
          query byTitle registrar allTransfers t) ↔
      Live registrar allTransfers (staffed .active) ∧
        Named registrar allTransfers (staffed .active)) ∧
      Live registrar allTransfers (staffed .active) ∧
        Named registrar allTransfers (staffed .active) := by
  refine ⟨(isolated_iff byTitle registrar allTransfers (staffed .active) (by decide)
    (staffed_unique _)).1, ?_, trivial⟩
  rintro - id token
  have own := (Option.filter_eq_some_iff.mp token).1
  rw [← Option.some.inj (show some schoolId = some id from own)]
  decide

/-- The school after its registrar was suspended, with a transfer. -/
def transferring : Store :=
  { staffed .suspended with
    transferRequests :=
      { rows := [transferOf "d0000000-0000-4000-8000-000000000001" schoolId .requested]
        nodup := List.nodup_singleton _ } }

/-- **Not every query is isolated**: a suspended registrar is shown the transfers of the school. -/
theorem isolated_fails :
    ¬ ∀ (env : ReadEnv) (actor : AuthTokenPayload) (call : ReadCall) (s t : Store),
      actor.role ≠ .acadidSuperAdmin → UniqueDisplayIds s → UniqueDisplayIds t →
        Agree actor s t → query env actor call s = query env actor call t := by
  intro all
  have hidden : attachedTransfer registrar (staffed .suspended)
      (transferOf "d0000000-0000-4000-8000-000000000001" schoolId .requested) = false := by decide
  have agree : Agree registrar (staffed .suspended) transferring := by
    refine agree_of_transfers ?_
    show [] = [transferOf _ _ _].filter _
    rw [List.filter_cons_of_neg (by simp [hidden]), List.filter_nil]
  have same := all byTitle registrar allTransfers (staffed .suspended) transferring (by decide)
    (staffed_unique _) (staffed_unique .suspended) agree
  have accepted : enumFilter transferRequestStatuses none = .ok none := rfl
  have token : given registrar.institutionUuid = some schoolId := by decide
  rw [allTransfers, query_transfers (by decide) token accepted,
    query_transfers (by decide) token accepted] at same
  have lists := congrArg List.length (ReadResult.transferRequests.inj (Except.ok.inj same))
  exact absurd lists (by decide)

end AcadID.Visibility
