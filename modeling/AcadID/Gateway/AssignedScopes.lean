/-
**Result batches and the assigned scopes of the staff who upload them.**

An upload is checked against the scopes of its actor once, with the target of its first row; the
other rows are written without a check of their own.

* `rowTarget` — the target of one row: its subject and period, the upload mode, and over them what
  the structure of the batch says. `InScope` — one of the actor's scopes matches it.
* `scopeMatchesTarget_congr` — a scope reads a target only through its trimmed, lower-cased values.
* `head_inScope` — **what the check gives**: the first row of an accepted upload is in scope.
* `rows_inScope_iff` — **when all of them are**: exactly when the rows that name another subject or
  period than the first one are in scope on their own account.
-/

import AcadID.Gateway.BatchHistory

namespace AcadID.AssignedScopes

open Lib Authority Ingestion Governance BatchHistory Grading

/-! ### The target of a row -/

/-- What the structure of a batch, and those above it, add to the target. -/
def structurePath (rt : Runtime) (institutionId : Uuid) (structureScopeId : Option Uuid)
    (s : Store) : Except ServiceError ScopeTarget :=
  match structureScopeId with
  | some id => academicStructureScopeTarget rt institutionId id s
  | none => .ok []

/-- The target of the upload, with the subject and the period of one of its rows. -/
def ownTarget (input : IngestResultBatchInput) (row : ResultRow) : ScopeTarget :=
  [("upload_mode", some input.uploadMode.name), ("period_type", some row.periodType.name),
    ("period_label", some row.periodLabel), ("subject", some row.subjectName),
    ("subject_code", some row.subjectCode)]

/-- The keys of a target that come from the row. -/
def rowKeys : List String :=
  ["period_type", "period_label", "subject", "subject_code"]

def merge (target path : ScopeTarget) : ScopeTarget :=
  path.foldl (fun acc entry => acc.set entry.1 entry.2) target

def rowTarget (input : IngestResultBatchInput) (path : ScopeTarget) (row : ResultRow) :
    ScopeTarget :=
  merge (ownTarget input row) path

/-- One of the actor's assigned scopes matches the row. -/
def InScope (rt : Runtime) (s : Store) (plan : IngestPlan) (row : ResultRow) : Prop :=
  ∃ path, structurePath rt plan.authority.institutionUuid plan.input.structureScopeId s = .ok path ∧
    ∃ scope ∈ assignedScopesForActor plan.auth plan.authority.institutionUuid s,
      scopeMatchesTarget rt scope (rowTarget plan.input path row) = true

/-- Two rows that name different subjects or periods, where the structure does not name them. -/
def Apart (rt : Runtime) (s : Store) (plan : IngestPlan) (row other : ResultRow) : Prop :=
  ∃ path, structurePath rt plan.authority.institutionUuid plan.input.structureScopeId s = .ok path ∧
    ∃ key ∈ rowKeys,
      ((rowTarget plan.input path row).get? key).map (normaliseScopeValue rt) ≠
        ((rowTarget plan.input path other).get? key).map (normaliseScopeValue rt)

/-! ### Targets -/

theorem get?_set (target : ScopeTarget) (key : String) (value : Option String) (other : String) :
    (target.set key value).get? other = if other = key then value else target.get? other := by
  unfold ScopeTarget.set ScopeTarget.get?
  rw [List.find?_append]
  by_cases same : other = key
  · have none : (target.filter fun entry => entry.1 ≠ key).find?
        (fun entry => entry.1 = other) = none := by
      refine List.find?_eq_none.mpr fun entry inside => ?_
      have apart := (List.mem_filter.mp inside).2
      rw [same]
      simpa using apart
    rw [none, if_pos same, same]
    simp
  · have kept : (target.filter fun entry => entry.1 ≠ key).find?
        (fun entry => entry.1 = other) = target.find? fun entry => entry.1 = other := by
      rw [List.find?_filter]
      congr 1
      funext entry
      by_cases here : entry.1 = other
      · simp [here, same]
      · simp [here]
    rw [kept, if_neg same]
    have last : [(key, value)].find? (fun entry => entry.1 = other) = none := by
      simpa using fun is : key = other => same is.symm
    rw [last, Option.or_none]

/-- Where two targets agree, they still do with a path put over both. -/
theorem get?_merge_congr {target other : ScopeTarget} {key : String}
    (agree : target.get? key = other.get? key) (path : ScopeTarget) :
    (merge target path).get? key = (merge other path).get? key := by
  unfold merge
  induction path generalizing target other with
  | nil => exact agree
  | cons entry path ih =>
    apply ih
    rw [get?_set, get?_set, agree]

theorem merge_ne_nil {target : ScopeTarget} (named : target ≠ []) (path : ScopeTarget) :
    merge target path ≠ [] := by
  unfold merge
  induction path generalizing target with
  | nil => exact named
  | cons entry path ih =>
    apply ih
    simp [ScopeTarget.set]

/-- The targets of two rows differ at the keys of the rows only. -/
theorem rowTarget_get?_of_not_mem (input : IngestResultBatchInput) (path : ScopeTarget)
    (row other : ResultRow) {key : String} (elsewhere : key ∉ rowKeys) :
    (rowTarget input path row).get? key = (rowTarget input path other).get? key := by
  apply get?_merge_congr
  simp only [rowKeys, List.mem_cons, List.not_mem_nil, or_false, not_or] at elsewhere
  obtain ⟨type, label, subject, code⟩ := elsewhere
  unfold ScopeTarget.get? ownTarget
  by_cases mode : "upload_mode" = key
  · simp [mode]
  · simp [mode, Ne.symm type, Ne.symm label, Ne.symm subject, Ne.symm code]

/-- **A scope reads a target through its normalised values.** -/
theorem scopeMatchesTarget_congr {rt : Runtime} {target other : ScopeTarget}
    (agree : ∀ key, (target.get? key).map (normaliseScopeValue rt) =
      (other.get? key).map (normaliseScopeValue rt)) (scope : Json) :
    scopeMatchesTarget rt scope target = scopeMatchesTarget rt scope other := by
  unfold scopeMatchesTarget
  cases scope with
  | obj fs =>
    dsimp only
    congr 1
    apply congrArg (fun test => List.all _ test)
    funext f
    have here := agree (normaliseScopeKey rt f.1)
    cases left : target.get? (normaliseScopeKey rt f.1) with
    | none =>
      cases right : other.get? (normaliseScopeKey rt f.1) with
      | none => rfl
      | some _ => simp [left, right] at here
    | some _ =>
      cases right : other.get? (normaliseScopeKey rt f.1) with
      | none => simp [left, right] at here
      | some _ =>
        rw [left, right, Option.map_some, Option.map_some, Option.some.injEq] at here
        simp [here]
  | _ => rfl

/-! ### What the check of an upload gives -/

/-- A person who is neither a super admin nor a registrar. -/
def Limited (auth : AuthTokenPayload) : Prop :=
  auth.isApiKey = false ∧ auth.role ≠ .acadidSuperAdmin ∧ auth.role ≠ .registrar

/-- The check of a limited actor: one of its scopes matches the target, the structure's keys over the
upload's. -/
theorem assertActorAssignedScope_spec {rt : Runtime} {auth : AuthTokenPayload}
    {institutionId : Uuid} {structureScopeId : Option Uuid} {target : ScopeTarget} {s : Store}
    {u : Unit} (limited : Limited auth) (named : target ≠ [])
    (checked : assertActorAssignedScope rt auth institutionId structureScopeId target s = .ok u) :
    ∃ path, structurePath rt institutionId structureScopeId s = .ok path ∧
      ∃ scope ∈ assignedScopesForActor auth institutionId s,
        scopeMatchesTarget rt scope (merge target path) = true := by
  obtain ⟨human, admin, registrar⟩ := limited
  unfold assertActorAssignedScope at checked
  obtain ⟨-, -, rest⟩ := bind_eq_ok.mp checked
  rw [if_neg (by simp [human, admin, registrar])] at rest
  obtain ⟨-, -, rest⟩ := bind_eq_ok.mp rest
  have closes : ∀ path, structurePath rt institutionId structureScopeId s = .ok path →
      (if (merge target path).isEmpty then pure ()
        else require
          ((assignedScopesForActor auth institutionId s).any fun scope =>
            scopeMatchesTarget rt scope (merge target path))
          (.forbidden "User is not assigned to this academic scope.")) = .ok u →
      ∃ path, structurePath rt institutionId structureScopeId s = .ok path ∧
        ∃ scope ∈ assignedScopesForActor auth institutionId s,
          scopeMatchesTarget rt scope (merge target path) = true := by
    intro path walked tested
    rw [if_neg (by simpa using merge_ne_nil named path), require_eq_ok] at tested
    exact ⟨path, walked, List.any_eq_true.mp tested⟩
  cases structureScopeId with
  | none =>
    obtain ⟨path, walked, tested⟩ := bind_eq_ok.mp rest
    exact closes path walked tested
  | some id =>
    obtain ⟨path, walked, tested⟩ := bind_eq_ok.mp rest
    exact closes path walked tested

/-- **The first row of an accepted upload is in scope.** -/
theorem head_inScope {rt : Runtime} {env : IngestEnv} {auth : AuthTokenPayload} {body : Json}
    {s : Store} {plan : IngestPlan} {first : ResultRow} (limited : Limited auth)
    (accepted : ingestCheck rt env auth body s = .ok plan)
    (leads : plan.input.rows.head? = some first) : InScope rt s plan first := by
  unfold ingestCheck at accepted
  obtain ⟨input, -, rest⟩ := bind_eq_ok.mp accepted
  obtain ⟨authority, -, rest⟩ := bind_eq_ok.mp rest
  obtain ⟨-, -, rest⟩ := bind_eq_ok.mp rest
  obtain ⟨_, assigned, rest⟩ := bind_eq_ok.mp rest
  obtain ⟨-, -, rest⟩ := bind_eq_ok.mp rest
  obtain ⟨-, -, rest⟩ := bind_eq_ok.mp rest
  obtain ⟨rule, -, rest⟩ := bind_eq_ok.mp rest
  obtain ⟨grading, -, same⟩ := bind_eq_ok.mp rest
  rw [pure_eq_ok] at same
  subst same
  have leads : input.rows.head? = some first := leads
  rw [leads] at assigned
  exact assertActorAssignedScope_spec limited (List.cons_ne_nil _ _) assigned

/-- A row that names what another names is in scope with it. -/
theorem inScope_of_not_apart {rt : Runtime} {s : Store} {plan : IngestPlan} {row first : ResultRow}
    (alike : ¬ Apart rt s plan row first) (inside : InScope rt s plan first) :
    InScope rt s plan row := by
  obtain ⟨path, walked, scope, assigned, matched⟩ := inside
  refine ⟨path, walked, scope, assigned, ?_⟩
  rw [← matched]
  refine scopeMatchesTarget_congr (fun key => ?_) scope
  by_cases own : key ∈ rowKeys
  · by_contra differ
    exact alike ⟨path, walked, key, own, differ⟩
  · rw [rowTarget_get?_of_not_mem plan.input path row first own]

/-- **When an accepted upload is in scope as a whole**: exactly when each row that names another
subject or period than the first row is in scope on its own account. -/
theorem rows_inScope_iff (rt : Runtime) (env : IngestEnv) (auth : AuthTokenPayload) (body : Json)
    (s : Store) (plan : IngestPlan) (limited : Limited auth)
    (accepted : ingestCheck rt env auth body s = .ok plan) :
    (∀ row ∈ plan.input.rows, InScope rt s plan row) ↔
      ∀ first ∈ plan.input.rows.head?, ∀ row ∈ plan.input.rows.tail,
        Apart rt s plan row first → InScope rt s plan row := by
  constructor
  · intro all first _ row inside _
    exact all row (List.mem_of_mem_tail inside)
  · intro strays row inside
    cases rows : plan.input.rows with
    | nil => rw [rows] at inside; exact absurd inside List.not_mem_nil
    | cons first rest =>
      have leads : plan.input.rows.head? = some first := by rw [rows]; rfl
      have covered := head_inScope limited accepted leads
      rw [rows, List.mem_cons] at inside
      rcases inside with rfl | later
      · exact covered
      · by_cases apart : Apart rt s plan row first
        · exact strays first (Option.mem_def.mpr leads) row (by rw [rows]; exact later) apart
        · exact inScope_of_not_apart apart covered

/-! ### Two uploads -/

/-- The school, and a member of its staff who is assigned to one subject. -/
def staffedSchool : Store :=
  { school with
    institutionUsers :=
      { rows :=
          [{ uuid := "a0000000-0000-4000-8000-000000000001"
             userId := "a1000000-0000-4000-8000-000000000001"
             institutionId := "10000000-0000-4000-8000-000000000001"
             role := .departmentalOfficer
             status := .active
             assignedScopes := .arr [.obj [("subject", .str "Mathematics")]] }]
        nodup := List.nodup_singleton _ } }

def mathematicsOfficer : AuthTokenPayload where
  sub := "a1000000-0000-4000-8000-000000000001"
  email := "officer@acadid.test"
  fullName := "Officer"
  role := .departmentalOfficer
  kind := some .user
  learnerId := none
  institutionId := none
  institutionUuid := some "10000000-0000-4000-8000-000000000001"
  institutionUserId := some "a0000000-0000-4000-8000-000000000001"
  assignedScopes := none
  apiKeyId := none
  clientId := none
  productCode := none

def uploadEnv : IngestEnv where
  pick := 0
  checkedAt := 1
  committedAt := 2
  batchUuid := batchId
  recordUuid := fun index =>
    if index = 0 then "70000000-0000-4000-8000-000000000001"
    else "70000000-0000-4000-8000-000000000002"

/-- A result in mathematics, and one in another subject, for the same student. -/
def uploadWith (subjectCode subjectName : String) : Json :=
  .obj [("institutionId", .str "ACD-0001"),
    ("createdById", .str "a1000000-0000-4000-8000-000000000001"),
    ("title", .str "First term"),
    ("rows", .arr
      [.obj [("studentNumber", .str "S-1"), ("periodType", .str "TERM"),
        ("periodLabel", .str "First term"), ("subjectCode", .str "MTH"),
        ("subjectName", .str "Mathematics"), ("totalScore", .num 75)],
      .obj [("studentNumber", .str "S-1"), ("periodType", .str "TERM"),
        ("periodLabel", .str "First term"), ("subjectCode", .str subjectCode),
        ("subjectName", .str subjectName), ("totalScore", .num 60)]])]

instance (rt : Runtime) (s : Store) (plan : IngestPlan) (row : ResultRow) :
    Decidable (InScope rt s plan row) :=
  match walked : structurePath rt plan.authority.institutionUuid plan.input.structureScopeId s with
  | .ok path =>
    decidable_of_iff
      (∃ scope ∈ assignedScopesForActor plan.auth plan.authority.institutionUuid s,
        scopeMatchesTarget rt scope (rowTarget plan.input path row) = true)
      ⟨fun matched => ⟨path, walked, matched⟩, fun ⟨_, same, matched⟩ => by
        rw [walked, Except.ok.injEq] at same
        exact same ▸ matched⟩
  | .error _ => isFalse fun ⟨_, same, _⟩ => by
    rw [walked] at same
    exact absurd same (by simp)

/-- What every plan of an accepted check satisfies, found by evaluating the check. -/
theorem of_evaluated {α : Type} {x : Except ServiceError α} {a : α} {p : α → Prop}
    [DecidablePred p] (is : x = .ok a) (evaluated : (x.toOption.all fun a => p a) = true) : p a := by
  rw [is] at evaluated
  exact of_decide_eq_true evaluated

/-- Two results in mathematics are accepted, and both are in scope. -/
theorem rows_inScope_iff_mathematics :
    ∃ plan, ingestCheck .plain uploadEnv mathematicsOfficer (uploadWith "MTH-2" " mathematics ")
        staffedSchool = .ok plan ∧
      plan.input.rows.length = 2 ∧ ∀ row ∈ plan.input.rows, InScope .plain staffedSchool plan row := by
  have accepted : (ingestCheck .plain uploadEnv mathematicsOfficer
      (uploadWith "MTH-2" " mathematics ") staffedSchool).toOption.isSome = true := by decide +kernel
  obtain ⟨plan, is⟩ := Option.isSome_iff_exists.mp accepted
  have is : ingestCheck .plain uploadEnv mathematicsOfficer (uploadWith "MTH-2" " mathematics ")
      staffedSchool = .ok plan := by
    revert is
    cases ingestCheck .plain uploadEnv mathematicsOfficer (uploadWith "MTH-2" " mathematics ")
      staffedSchool <;> simp [Except.toOption]
  have limited : Limited mathematicsOfficer := ⟨rfl, by decide, by decide⟩
  refine ⟨plan, is, of_evaluated (p := fun plan => plan.input.rows.length = 2) is (by decide +kernel),
    (rows_inScope_iff .plain uploadEnv mathematicsOfficer _ staffedSchool plan limited is).mpr ?_⟩
  intro first _ row later _
  exact of_evaluated (p := fun plan => ∀ row ∈ plan.input.rows.tail,
    InScope .plain staffedSchool plan row) is (by decide +kernel) row later

/-- Whether every row of an upload that went through is in scope. -/
def uploadInScope (rt : Runtime) (s : Store) : Option (BatchPlan × BatchResponse × Store) → Bool
  | some (.ingest plan, _, _) => decide (∀ row ∈ plan.input.rows, InScope rt s plan row)
  | _ => true

/-- **Not every row of an accepted upload is in scope**: a result in English goes in behind one in
mathematics. -/
theorem rows_inScope_fails :
    ¬ ∀ (rt : Runtime) (env : IngestEnv) (auth : AuthTokenPayload) (body : Json) (s t : Store)
      (plan : IngestPlan) (res : BatchResponse), Limited auth →
        (batchMethods rt).committed (.ingestResults env auth body) [] s =
          some (.ingest plan, res, t) →
        ∀ row ∈ plan.input.rows, InScope rt s plan row := by
  intro all
  have evaluated : uploadInScope .plain staffedSchool ((batchMethods .plain).committed
      (.ingestResults uploadEnv mathematicsOfficer (uploadWith "ENG" "English")) [] staffedSchool) =
        false := by decide +kernel
  unfold uploadInScope at evaluated
  split at evaluated
  · rename_i plan res t went
    have within := all .plain uploadEnv mathematicsOfficer (uploadWith "ENG" "English") staffedSchool
      t plan res ⟨rfl, by decide, by decide⟩ went
    exact of_decide_eq_false evaluated within
  · exact absurd evaluated (by simp)

end AcadID.AssignedScopes
