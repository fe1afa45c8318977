/-
**Who may do what: the checks of `AuthorityService`.**

Every check reads the store and returns or throws; none writes.

* `assertInstitutionCan` — an active institution with a grant in force that allows a permission.
* `assertActorCanOperateInstitution` — super admins, the institution's own API keys, and its active
  members in the actor's role.
* `institutionIdsForActor` — the institutions whose rows a list may show.
* `assertActorAssignedScope` — the actor's assigned scopes against the target of an operation;
  `academicStructureScopeTarget` walks from a structure to the root of its tree, and visits no
  structure twice.
-/

import AcadID.Platform.Store

namespace AcadID

open Lib

/-- `findFirst` without an order: one of the rows that match, whichever the database returns. -/
def findFirst {ρ : Type} (rows : List ρ) (p : ρ → Bool) (pick : ℕ) : Option ρ :=
  (rows.filter p)[pick % (rows.filter p).length]?

theorem findFirst_eq_some {ρ : Type} {rows : List ρ} {p : ρ → Bool} {pick : ℕ} {r : ρ}
    (found : findFirst rows p pick = some r) : r ∈ rows ∧ p r = true := by
  have inside := List.mem_of_getElem? found
  exact ⟨List.mem_of_mem_filter inside, List.of_mem_filter inside⟩

/-- Every row that matches is the one found for some pick. -/
theorem exists_findFirst {ρ : Type} {rows : List ρ} {p : ρ → Bool} {r : ρ} (inside : r ∈ rows)
    (matching : p r = true) : ∃ pick, findFirst rows p pick = some r := by
  have member : r ∈ rows.filter p := List.mem_filter.mpr ⟨inside, matching⟩
  obtain ⟨pick, bound, here⟩ := List.getElem_of_mem member
  refine ⟨pick, ?_⟩
  unfold findFirst
  rw [Nat.mod_eq_of_lt bound, List.getElem?_eq_getElem bound, here]

/-- The only row that matches is found for every pick. -/
theorem findFirst_of_only {ρ : Type} {rows : List ρ} {p : ρ → Bool} {r : ρ} (inside : r ∈ rows)
    (matching : p r = true) (only : ∀ r' ∈ rows, p r' = true → r' = r) (pick : ℕ) :
    findFirst rows p pick = some r := by
  have member : r ∈ rows.filter p := List.mem_filter.mpr ⟨inside, matching⟩
  have bound := Nat.mod_lt pick (List.length_pos_of_mem member)
  unfold findFirst
  rw [List.getElem?_eq_getElem bound]
  have picked := List.mem_filter.mp (List.getElem_mem bound)
  rw [only _ picked.1 picked.2]

theorem findFirst_of_none {ρ : Type} {rows : List ρ} {p : ρ → Bool}
    (none : ∀ r ∈ rows, p r = false) (pick : ℕ) : findFirst rows p pick = .none := by
  unfold findFirst
  rw [List.filter_eq_nil_iff.mpr fun r inside => by simp [none r inside]]
  rfl

/-- `String(value)` of a JSON value. -/
def jsString (rt : Runtime) : Json → String
  | .null => "null"
  | .bool b => if b then "true" else "false"
  | .num q => String.ofList (rt.format.text q)
  | .str s => s
  | .arr vs => ",".intercalate (items vs)
  | .obj _ => "[object Object]"
where
  items : List Json → List String
    | [] => []
    | .null :: vs => "" :: items vs
    | v :: vs => jsString rt v :: items vs

namespace Authority

/-- `permissionAllows`: all, the permission itself, or a list that has it. -/
def permissionAllows (permissions : Json) (permission : String) : Bool :=
  match permissions with
  | .obj _ =>
    permissions.get? "all" == some (.bool true) ||
      permissions.get? permission == some (.bool true) ||
      match (match permissions.get? "allowed" with
        | some .null | none => permissions.get? "permissions"
        | allowed => allowed) with
      | some (.arr vs) => vs.contains (.str permission)
      | _ => false
  | _ => false

def institutionWhere (institutionRef : String) (institution : Institution) : Bool :=
  institution.institutionId == institutionRef ||
    (isUuidV15 institutionRef && institution.uuid == institutionRef)

def assertActorCanOperateInstitution (actor : AuthTokenPayload) (institutionId : Uuid)
    (s : Store) : Except ServiceError Unit :=
  if actor.role = .acadidSuperAdmin then .ok ()
  else if actor.isApiKey then
    require (actor.institutionUuid == some institutionId)
      (.forbidden "API key is not assigned to this institution.")
  else
    require
      (s.institutionUsers.rows.any fun user =>
        actor.institutionUserId.all (· == user.uuid) && user.userId == actor.sub &&
          user.institutionId == institutionId && user.role == actor.role &&
          user.status == .active &&
          (s.institutions.find? institutionId).any (·.status == .active))
      (.forbidden "User is not assigned to this institution.")

/-- The institutions whose rows an actor may list; `none` for all of them. -/
def institutionIdsForActor (actor : AuthTokenPayload) (s : Store) : Option (List Uuid) :=
  if actor.role = .acadidSuperAdmin then none
  else if actor.isApiKey then some (actor.institutionUuid.filter (· ≠ "")).toList
  else
    let memberships := s.institutionUsers.rows.filter fun user =>
      user.userId == actor.sub && user.role == actor.role && user.status == .active &&
        (s.institutions.find? user.institutionId).any (·.status == .active)
    some (memberships.map (·.institutionId))

/-- What `assertInstitutionCan` returns. -/
structure InstitutionAuthority where
  institutionUuid : Uuid
  institutionId : String
  authorityGrantId : Uuid

/-- The active grants of an institution, the latest in force first. -/
def activeGrants (s : Store) (institutionUuid : Uuid) : List AuthorityGrant :=
  (s.authorityGrants.rows.filter fun grant =>
    grant.institutionId == institutionUuid && grant.status == .active).insertionSort
      fun a b => b.effectiveFrom ≤ a.effectiveFrom

def assertInstitutionCan (institutionRef permission : String) (actor : AuthTokenPayload)
    (now : Time) (pick : ℕ) (s : Store) : Except ServiceError InstitutionAuthority := do
  let institution ← orThrow (findFirst s.institutions.rows (institutionWhere institutionRef) pick)
    (.badRequest "Institution not found.")
  require (institution.status == .active) (.badRequest "Institution is suspended.")
  assertActorCanOperateInstitution actor institution.uuid s
  let activeGrant ← orThrow
    ((activeGrants s institution.uuid).find? fun grant =>
      grant.effectiveFrom ≤ now && grant.expiresAt.all (now < ·) &&
        permissionAllows grant.permissions permission)
    (.badRequest ("Institution does not have authority to " ++ permission ++ "."))
  return {
    institutionUuid := institution.uuid
    institutionId := institution.institutionId
    authorityGrantId := activeGrant.uuid }

/-! ### Assigned scopes -/

/-- The keys of a scope target and their values, some of them `undefined`. -/
abbrev ScopeTarget := List (String × Option String)

namespace ScopeTarget

def get? (target : ScopeTarget) (key : String) : Option String :=
  (target.find? fun entry => entry.1 = key).bind Prod.snd

def set (target : ScopeTarget) (key : String) (value : Option String) : ScopeTarget :=
  target.filter (fun entry => entry.1 ≠ key) ++ [(key, value)]

end ScopeTarget

/-- Only the object entries of an array of scopes. -/
def normaliseAssignedScopes : Option Json → List Json
  | some (.arr vs) => vs.filter fun v =>
    match v with
    | .obj _ => true
    | _ => false
  | _ => []

def normaliseScopeKey (rt : Runtime) (key : String) : String :=
  rt.toLowerCase (String.ofList (key.toList.flatMap fun c =>
    if 'A' ≤ c ∧ c ≤ 'Z' then ['_', c.toLower] else [c]))

def normaliseScopeValue (rt : Runtime) (value : String) : String :=
  rt.toLowerCase (Text.trim value)

def scopeMatchesTarget (rt : Runtime) (scope : Json) (target : ScopeTarget) : Bool :=
  match scope with
  | .obj fs =>
    let entries := fs.filter fun f => f.2 != .null && !Text.isBlank (jsString rt f.2)
    !entries.isEmpty && entries.all fun f =>
      match target.get? (normaliseScopeKey rt f.1) with
      | some expected =>
        normaliseScopeValue rt expected == normaliseScopeValue rt (jsString rt f.2)
      | none => false
  | _ => false

/-- What one structure adds to the target. -/
def addStructure (rt : Runtime) (target : ScopeTarget) (node : AcademicStructure) : ScopeTarget :=
  let typeKey := rt.toLowerCase node.type.name
  let named := (target.set typeKey (some node.name)).set (typeKey ++ "_id") (some node.uuid)
  -- An empty code is falsy, like one that is not there.
  let code := node.code.filter (· ≠ "")
  let coded := match code with
    | some c => named.set (typeKey ++ "_code") (some c)
    | none => named
  match node.type, code with
  | .course, some c => coded.set "course_code" (some c)
  | .subject, some c => (coded.set "subject" (some node.name)).set "subject_code" (some c)
  | .subject, none => coded.set "subject" (some node.name)
  | .arm, _ => coded.set "class_arm" (some node.name)
  | _, _ => coded

/-- The structures not yet visited. -/
def unvisited (s : Store) (visited : List Uuid) : List AcademicStructure :=
  s.academicStructures.rows.filter fun node => node.uuid ∉ visited

theorem unvisited_lt {s : Store} {visited : List Uuid} {id : Uuid} {node : AcademicStructure}
    (found : s.academicStructures.find? id = some node) (new : id ∉ visited) :
    (unvisited s (id :: visited)).length < (unvisited s visited).length := by
  have smaller : unvisited s (id :: visited) =
      (unvisited s visited).filter fun other => other.uuid ≠ id := by
    unfold unvisited
    rw [List.filter_filter]
    refine List.filter_congr fun other _ => ?_
    simp
  rw [smaller]
  have inside : node ∈ unvisited s visited := by
    refine List.mem_filter.mpr ⟨Table.find?_mem found, ?_⟩
    rw [Table.find?_key found]
    simpa using new
  refine lt_of_le_of_ne (List.length_filter_le _ _) fun same => ?_
  have kept := List.length_filter_eq_length_iff.mp same node inside
  rw [Table.find?_key found] at kept
  exact absurd kept (by simp)

/-- The walk of `academicStructureScopeTarget` from a structure to the root. -/
def scopeTargetFrom (rt : Runtime) (s : Store) (institutionId : Uuid) (visited : List Uuid)
    (currentId : Option Uuid) (target : ScopeTarget) : Except ServiceError ScopeTarget :=
  match currentId with
  | none => .ok target
  | some id =>
    if _ : id ∈ visited then .ok target
    else
      match _ : s.academicStructures.find? id with
      | none => .error (.forbidden "Academic scope is outside this institution.")
      | some node =>
        if node.institutionId = institutionId then
          scopeTargetFrom rt s institutionId (id :: visited) node.parentId
            (addStructure rt target node)
        else .error (.forbidden "Academic scope is outside this institution.")
termination_by (unvisited s visited).length
decreasing_by exact unvisited_lt ‹_› ‹_›

def academicStructureScopeTarget (rt : Runtime) (institutionId structureScopeId : Uuid)
    (s : Store) : Except ServiceError ScopeTarget :=
  scopeTargetFrom rt s institutionId [] (some structureScopeId)
    [("structure_scope_id", some structureScopeId), ("structureScopeId", some structureScopeId)]

def assignedScopesForActor (actor : AuthTokenPayload) (institutionId : Uuid) (s : Store) :
    List Json :=
  let tokenScopes := normaliseAssignedScopes actor.assignedScopes
  if tokenScopes.isEmpty then
    match actor.institutionUserId with
    | none => []
    | some institutionUserId =>
      match s.institutionUsers.find? institutionUserId with
      | none => []
      | some user =>
        if user.userId = actor.sub ∧ user.institutionId = institutionId ∧ user.role = actor.role ∧
            user.status = .active ∧
            (s.institutions.find? institutionId).any (·.status == .active) then
          normaliseAssignedScopes (some user.assignedScopes)
        else []
  else tokenScopes

def assertActorAssignedScope (rt : Runtime) (actor : AuthTokenPayload) (institutionId : Uuid)
    (structureScopeId : Option Uuid) (target : ScopeTarget) (s : Store) :
    Except ServiceError Unit := do
  assertActorCanOperateInstitution actor institutionId s
  if actor.role = .acadidSuperAdmin ∨ actor.role = .registrar ∨ actor.isApiKey then
    return ()
  let assignedScopes := assignedScopesForActor actor institutionId s
  require (!assignedScopes.isEmpty)
    (.forbidden "User is not assigned to this academic scope.")
  let structureTarget ← match structureScopeId with
    | some id => academicStructureScopeTarget rt institutionId id s
    | none => .ok []
  let merged := structureTarget.foldl (fun acc entry => ScopeTarget.set acc entry.1 entry.2) target
  if merged.isEmpty then
    return ()
  require (assignedScopes.any fun scope => scopeMatchesTarget rt scope merged)
    (.forbidden "User is not assigned to this academic scope.")

end Authority

end AcadID
