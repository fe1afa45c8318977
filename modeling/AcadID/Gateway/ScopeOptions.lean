/-
**The scope keys that the portal offers, and the scopes that let an upload through.**

* `readStaffScopeOptions` — the sessions and structures of an institution, and the keys for scopes.
* `Walked` — the structures that `academicStructureScopeTarget` comes by, whatever they hang on.
* `get?_foldl_pathKey` — at each offered key, the target holds what the highest structure says.
* `authorises_iff` — **a scope of offered keys with the values of the upload's own session and
  structures** lets the upload through exactly when an entry is written, none of those written is
  for `sessionId`, and each says what the highest structure of its kind says; or else when another
  of the actor's scopes matches.
* `authorises_fails` — the scope of the session.
-/

import AcadID.Gateway.ScopePaths

namespace AcadID.ScopeOptions

open Lib Authority AssignedScopes ScopePaths StructureTree Ingestion

/-! ### What the portal offers -/

/-- The order in which the database lists rows: by fields, in its own collation. -/
structure RowOrder (α : Type) where
  sort : List α → List α
  perm : ∀ rows, (sort rows).Perm rows

/-- A session with the permissions it carries. -/
structure StaffManager extends AuthTokenPayload where
  permissions : List String

def requireInstitutionStaffManager (auth : StaffManager) : Except ServiceError Uuid := do
  require (!auth.isApiKey)
    (.forbidden "Human institution session is required to manage staff.")
  let institutionUuid ← orThrow (auth.institutionUuid.filter (· ≠ ""))
    (.forbidden "Institution-scoped session is required.")
  require (auth.role == .registrar || auth.permissions.contains "staff:manage" ||
      auth.permissions.contains "*")
    (.forbidden "staff:manage permission is required.")
  return institutionUuid

def recommendedScopeKeys : List String :=
  ["sessionId", "structureScopeId", "level", "class_arm", "subject", "faculty", "department",
    "programme", "course_code"]

/-- The options of a member of staff's scopes. -/
structure StaffScopeOptions where
  recommendedScopeKeys : List String
  sessions : List AcademicSession
  structures : List AcademicStructure

/-- The current session first, and the latest; the structures by type and name. -/
def readStaffScopeOptions (sessionOrder : RowOrder AcademicSession)
    (structureOrder : RowOrder AcademicStructure) (auth : StaffManager) (s : Store) :
    Except ServiceError StaffScopeOptions := do
  let institutionId ← requireInstitutionStaffManager auth
  return {
    recommendedScopeKeys := recommendedScopeKeys
    sessions := (sessionOrder.sort
      (s.academicSessions.rows.filter (·.institutionId = institutionId))).take 25
    structures := (structureOrder.sort (s.academicStructures.rows.filter fun structure_ =>
      structure_.institutionId = institutionId ∧ structure_.status = .active)).take 500 }

/-! ### The path of an upload -/

/-- The structures that the walk comes by, from one up, until there is none above or one again. -/
inductive Walked (s : Store) (institutionId : Uuid) :
    List Uuid → Option Uuid → List AcademicStructure → Prop
  | top (visited : List Uuid) : Walked s institutionId visited none []
  | again {visited : List Uuid} {id : Uuid} (before : id ∈ visited) :
      Walked s institutionId visited (some id) []
  | on {visited : List Uuid} {id : Uuid} {node : AcademicStructure}
      {above : List AcademicStructure} (fresh : id ∉ visited)
      (found : s.academicStructures.find? id = some node)
      (owned : node.institutionId = institutionId)
      (rest : Walked s institutionId (id :: visited) node.parentId above) :
      Walked s institutionId visited (some id) (node :: above)

section Paths

variable {rt : Runtime} {s : Store} {institutionId : Uuid}

/-- **The walk puts together what the structures say**, and fails where it comes by one that is
missing or another institution's. -/
theorem scopeTargetFrom_eq_ok {visited : List Uuid} {current : Option Uuid}
    {target result : ScopeTarget} :
    scopeTargetFrom rt s institutionId visited current target = .ok result ↔
      ∃ nodes, Walked s institutionId visited current nodes ∧
        result = nodes.foldl (addStructure rt) target := by
  constructor
  · intro walked
    fun_induction scopeTargetFrom rt s institutionId visited current target with
    | case1 visited target => exact ⟨[], .top _, (Except.ok.inj walked).symm⟩
    | case2 visited target id before => exact ⟨[], .again before, (Except.ok.inj walked).symm⟩
    | case3 => exact absurd walked (by simp)
    | case4 visited target id fresh node found owned ih =>
      obtain ⟨above, rest, same⟩ := ih walked
      exact ⟨node :: above, .on fresh found owned rest, same⟩
    | case5 => exact absurd walked (by simp)
  · rintro ⟨nodes, walked, rfl⟩
    induction walked generalizing target with
    | top => rw [scopeTargetFrom]; rfl
    | again before => rw [scopeTargetFrom, dif_pos before]; rfl
    | @on visited id node above fresh found owned rest ih =>
      rw [scopeTargetFrom_step found owned fresh, ih]
      rfl

theorem Walked.unique {visited : List Uuid} {current : Option Uuid}
    {nodes others : List AcademicStructure} (walked : Walked s institutionId visited current nodes)
    (also : Walked s institutionId visited current others) : nodes = others := by
  induction walked generalizing others with
  | top =>
    cases also
    rfl
  | again before =>
    cases also with
    | again => rfl
    | on fresh => exact absurd before fresh
  | on fresh found owned rest ih =>
    cases also with
    | again before => exact absurd before fresh
    | on _ there _ others =>
      obtain rfl := Option.some.inj (found.symm.trans there)
      rw [ih others]

end Paths

/-! ### What a structure says at an offered key -/

/-- The name of a structure of the type. -/
def nameOf (type : AcademicStructureType) (node : AcademicStructure) : Option String :=
  if node.type = type then some node.name else none

/-- The code of a course. -/
def courseCode (node : AcademicStructure) : Option String :=
  if node.type = .course then node.code.filter (· ≠ "") else none

/-- The offered keys that structures have a value for. -/
def pathKeys : List (String × (AcademicStructure → Option String)) :=
  [("level", nameOf .level), ("class_arm", nameOf .arm), ("subject", nameOf .subject),
    ("faculty", nameOf .faculty), ("department", nameOf .department),
    ("programme", nameOf .programme), ("course_code", courseCode)]

/-- **The entry is the upload's own**: its session, its structure, or what a structure on the path
says at the key. -/
def Describes (input : IngestResultBatchInput) (nodes : List AcademicStructure)
    (entry : String × String) : Prop :=
  (entry.1 = "sessionId" ∧ input.academicSessionId = some entry.2) ∨
    (entry.1 = "structureScopeId" ∧ input.structureScopeId = some entry.2) ∨
      ∃ told, (entry.1, told) ∈ pathKeys ∧ ∃ node ∈ nodes, told node = some entry.2

section Targets

variable {rt : Runtime}

/-- What a structure says at an offered key takes the place of what was there. -/
theorem get?_addStructure_pathKey (lowers : rt.LowersAscii) (target : ScopeTarget)
    (node : AcademicStructure) {key : String} {told : AcademicStructure → Option String}
    (offered : (key, told) ∈ pathKeys) :
    (addStructure rt target node).get? key = (told node).or (target.get? key) := by
  -- The name of a structure is put under its type.
  have name : ∀ type, (addStructure rt target node).get? (plainKey type .byName) =
      (nameOf type node).or (target.get? (plainKey type .byName)) := by
    intro type
    rw [get?_addStructure lowers, nameOf]
    by_cases same : type = node.type
    · rw [if_pos same, if_pos same.symm]
      rfl
    · rw [if_neg same, if_neg (Ne.symm same)]
      rfl
  simp only [pathKeys, List.mem_cons, Prod.mk.injEq, List.not_mem_nil, or_false] at offered
  rcases offered with ⟨rfl, rfl⟩ | ⟨rfl, rfl⟩ | ⟨rfl, rfl⟩ | ⟨rfl, rfl⟩ | ⟨rfl, rfl⟩ | ⟨rfl, rfl⟩ |
    ⟨rfl, rfl⟩
  · exact name .level
  · unfold addStructure nameOf
    rw [toLowerCase_name lowers]
    cases node.code.filter (· ≠ "") <;> cases is : node.type <;> simp [get?_set, typeKey]
  · exact name .subject
  · exact name .faculty
  · exact name .department
  · exact name .programme
  · unfold addStructure courseCode
    rw [toLowerCase_name lowers]
    cases node.code.filter (· ≠ "") <;> cases is : node.type <;> simp [get?_set, typeKey]

/-- A key that structures do not write. -/
def Apart (key : String) : Prop :=
  ∀ type, key ≠ typeKey type ∧ key ≠ typeKey type ++ "_id" ∧ key ≠ typeKey type ++ "_code" ∧
    key ≠ "class_arm"

theorem get?_addStructure_apart (lowers : rt.LowersAscii) (target : ScopeTarget)
    (node : AcademicStructure) {key : String} (apart : Apart key) :
    (addStructure rt target node).get? key = target.get? key := by
  obtain ⟨byName, byId, code, arm⟩ := apart node.type
  have course := (apart .course).2.2.1
  have subject := (apart .subject).1
  have subjectCode := (apart .subject).2.2.1
  unfold addStructure
  rw [toLowerCase_name lowers]
  simp only [typeKey] at course subject subjectCode
  cases node.code.filter (· ≠ "") <;> cases is : node.type <;> rw [is] at byName byId code <;>
    simp_all [get?_set]

theorem get?_foldl_apart (lowers : rt.LowersAscii) (nodes : List AcademicStructure)
    (target : ScopeTarget) {key : String} (apart : Apart key) :
    (nodes.foldl (addStructure rt) target).get? key = target.get? key := by
  induction nodes generalizing target with
  | nil => rfl
  | cons node nodes ih => rw [List.foldl_cons, ih, get?_addStructure_apart lowers _ _ apart]

/-- **At an offered key** the target holds what the highest structure says that says anything. -/
theorem get?_foldl_pathKey (lowers : rt.LowersAscii) (nodes : List AcademicStructure)
    (target : ScopeTarget) {key : String} {told : AcademicStructure → Option String}
    (offered : (key, told) ∈ pathKeys) :
    (nodes.foldl (addStructure rt) target).get? key =
      (nodes.reverse.findSome? told).or (target.get? key) :=
  FirstMatch.read_foldl_or _ (fun target => target.get? key) told
    (fun target node => get?_addStructure_pathKey lowers target node offered) nodes target

/-! ### The keys of a target -/

theorem mem_keys_set {target : ScopeTarget} {key other : String} {value : Option String} :
    other ∈ (target.set key value).map Prod.fst ↔ other = key ∨ other ∈ target.map Prod.fst := by
  by_cases same : other = key
  · simp [ScopeTarget.set, same]
  · simp [ScopeTarget.set, same]

theorem keys_addStructure_apart (lowers : rt.LowersAscii) {target : ScopeTarget}
    (node : AcademicStructure) {key : String} (apart : Apart key)
    (elsewhere : key ∉ target.map Prod.fst) :
    key ∉ (addStructure rt target node).map Prod.fst := by
  obtain ⟨byName, byId, code, arm⟩ := apart node.type
  have course := (apart .course).2.2.1
  have subject := (apart .subject).1
  have subjectCode := (apart .subject).2.2.1
  unfold addStructure
  rw [toLowerCase_name lowers]
  simp only [typeKey] at course subject subjectCode
  cases node.code.filter (· ≠ "") <;> cases is : node.type <;> rw [is] at byName byId code <;>
    simp_all [mem_keys_set]

theorem keys_foldl_apart (lowers : rt.LowersAscii) (nodes : List AcademicStructure)
    {target : ScopeTarget} {key : String} (apart : Apart key)
    (elsewhere : key ∉ target.map Prod.fst) :
    key ∉ (nodes.foldl (addStructure rt) target).map Prod.fst := by
  induction nodes generalizing target with
  | nil => exact elsewhere
  | cons node nodes ih => exact ih (keys_addStructure_apart lowers node apart elsewhere)

theorem apart_session : Apart "session_id" := by
  intro type
  cases type <;> decide

theorem apart_structure : Apart "structure_scope_id" := by
  intro type
  cases type <;> decide

/-- An offered key as a target has it. -/
def targetKey (key : String) : String :=
  if key = "sessionId" then "session_id"
  else if key = "structureScopeId" then "structure_scope_id"
  else key

theorem normaliseScopeKey_eq (lowers : rt.LowersAscii) {key text : String}
    (same : String.ofList (key.toList.flatMap fun c =>
      if 'A' ≤ c ∧ c ≤ 'Z' then ['_', c.toLower] else [c]) = text)
    (ascii : text.toList.all (fun c => decide (c.toNat < 128)) = true)
    (small : String.ofList (text.toList.map Char.toLower) = text) :
    normaliseScopeKey rt key = text := by
  unfold normaliseScopeKey
  rw [same, lowers.eq ascii, small]

theorem normaliseScopeKey_offered (lowers : rt.LowersAscii) {key : String}
    (offered : key ∈ recommendedScopeKeys) : normaliseScopeKey rt key = targetKey key := by
  simp only [recommendedScopeKeys, List.mem_cons, List.not_mem_nil, or_false] at offered
  rcases offered with rfl | rfl | rfl | rfl | rfl | rfl | rfl | rfl | rfl <;>
    exact normaliseScopeKey_eq lowers (by decide) (by decide) (by decide)

theorem targetKey_pathKey {key : String} {told : AcademicStructure → Option String}
    (offered : (key, told) ∈ pathKeys) : targetKey key = key := by
  simp only [pathKeys, List.mem_cons, Prod.mk.injEq, List.not_mem_nil, or_false] at offered
  rcases offered with ⟨rfl, -⟩ | ⟨rfl, -⟩ | ⟨rfl, -⟩ | ⟨rfl, -⟩ | ⟨rfl, -⟩ | ⟨rfl, -⟩ | ⟨rfl, -⟩ <;>
    rfl

end Targets

/-! ### Scopes -/

/-- A scope with texts as its values. -/
def scopeJson (scope : List (String × String)) : Json :=
  .obj (scope.map fun entry => (entry.1, .str entry.2))

/-- **The scope lets the upload through**: an entry of it is written, none of those written is for
the session, and each says what the highest structure of its kind says. -/
structure Agrees (rt : Runtime) (nodes : List AcademicStructure) (scope : List (String × String)) :
    Prop where
  written : ∃ entry ∈ scope, Text.isBlank entry.2 = false
  sessionless : ∀ entry ∈ scope, Text.isBlank entry.2 = false → entry.1 ≠ "sessionId"
  highest : ∀ entry ∈ scope, Text.isBlank entry.2 = false →
    ∀ told, (entry.1, told) ∈ pathKeys → ∀ top, nodes.reverse.findSome? told = some top →
      normaliseScopeValue rt top = normaliseScopeValue rt entry.2

/-- Another of the actor's scopes matches the upload. -/
def Helped (rt : Runtime) (s : Store) (actor : AuthTokenPayload) (institutionId : Uuid)
    (input : IngestResultBatchInput) (scope : List (String × String)) : Prop :=
  ∃ target, structurePath rt institutionId input.structureScopeId s = .ok target ∧
    ∃ other ∈ assignedScopesForActor actor institutionId s, other ≠ scopeJson scope ∧
      scopeMatchesTarget rt other (merge (uploadTarget input) target) = true

section Check

variable {rt : Runtime} {s : Store} {institutionId : Uuid}

/-- A scope of texts matches a target entry by entry. -/
theorem scopeMatchesTarget_iff {scope : List (String × String)} {target : ScopeTarget} :
    scopeMatchesTarget rt (scopeJson scope) target = true ↔
      (∃ entry ∈ scope, Text.isBlank entry.2 = false) ∧
        ∀ entry ∈ scope, Text.isBlank entry.2 = false →
          ∃ expected, target.get? (normaliseScopeKey rt entry.1) = some expected ∧
            normaliseScopeValue rt expected = normaliseScopeValue rt entry.2 := by
  have text : ∀ value, jsString rt (.str value) = value := fun _ => rfl
  have kept : (scope.map fun entry => (entry.1, Json.str entry.2)).filter
      (fun f => f.2 != .null && !Text.isBlank (jsString rt f.2)) =
        (scope.filter fun entry => !Text.isBlank entry.2).map
          fun entry => (entry.1, Json.str entry.2) := by
    have same : (fun f : String × Json => f.2 != .null && !Text.isBlank (jsString rt f.2)) ∘
        (fun entry : String × String => (entry.1, Json.str entry.2)) =
          fun entry => !Text.isBlank entry.2 := by
      funext entry
      simp [text]
    rw [List.filter_map, same]
  unfold scopeMatchesTarget scopeJson
  dsimp only
  rw [kept, Bool.and_eq_true_iff]
  refine and_congr ?_ ?_
  · simp [List.filter_eq_nil_iff]
  · rw [List.all_eq_true]
    simp only [List.mem_map, List.mem_filter, forall_exists_index, and_imp]
    constructor
    · intro all entry inside blank
      have here := all _ entry inside (by simp [blank]) rfl
      dsimp only at here
      cases found : target.get? (normaliseScopeKey rt entry.1) with
      | none =>
        rw [found] at here
        exact absurd here (by simp)
      | some expected =>
        rw [found] at here
        exact ⟨expected, rfl, beq_iff_eq.mp here⟩
    · rintro all _ entry inside blank rfl
      obtain ⟨expected, found, same⟩ := all entry inside (by simpa using blank)
      dsimp only
      rw [found]
      exact beq_iff_eq.mpr same

/-- **What the target holds for an entry of the upload's own.** -/
theorem entry_matches_iff (lowers : rt.LowersAscii) {input : IngestResultBatchInput} {id : Uuid}
    (into : input.structureScopeId = some id) {nodes : List AcademicStructure}
    {entry : String × String} (advertised : entry.1 ∈ recommendedScopeKeys)
    (described : Describes input nodes entry) :
    (∃ expected, (merge (uploadTarget input) (nodes.foldl (addStructure rt)
        [("structure_scope_id", some id), ("structureScopeId", some id)])).get?
          (normaliseScopeKey rt entry.1) = some expected ∧
        normaliseScopeValue rt expected = normaliseScopeValue rt entry.2) ↔
      entry.1 ≠ "sessionId" ∧ ∀ told, (entry.1, told) ∈ pathKeys →
        ∀ top, nodes.reverse.findSome? told = some top →
          normaliseScopeValue rt top = normaliseScopeValue rt entry.2 := by
  have keyed : Keyed (nodes.foldl (addStructure rt)
      [("structure_scope_id", some id), ("structureScopeId", some id)]) :=
    keyed_foldl (by
      show ["structure_scope_id", "structureScopeId"].Nodup
      decide) nodes
  rw [normaliseScopeKey_offered lowers advertised]
  obtain ⟨key, value⟩ := entry
  rcases described with ⟨rfl, -⟩ | ⟨rfl, is⟩ | ⟨told, offered, node, inside, said⟩
  · -- No target has a key for the session.
    have nowhere : (merge (uploadTarget input) (nodes.foldl (addStructure rt)
        [("structure_scope_id", some id), ("structureScopeId", some id)])).get? "session_id" =
          none := by
      rw [get?_merge_of_not_mem _ (keys_foldl_apart lowers nodes apart_session (by simp))]
      simp [uploadTarget, ScopeTarget.get?]
    show (∃ expected, (merge _ _).get? "session_id" = some expected ∧ _) ↔ _
    rw [nowhere]
    simp
  · have here : (nodes.foldl (addStructure rt)
        [("structure_scope_id", some id), ("structureScopeId", some id)]).get?
          "structure_scope_id" = some id := by
      rw [get?_foldl_apart lowers _ _ apart_structure]
      rfl
    have same : id = value := Option.some.inj (into.symm.trans is)
    show (∃ expected, (merge _ _).get? "structure_scope_id" = some expected ∧ _) ↔ _
    rw [get?_merge keyed here]
    refine ⟨fun _ => ⟨by simp, fun told offered => ?_⟩, fun _ => ⟨id, rfl, by rw [same]⟩⟩
    simp [pathKeys] at offered
  · obtain ⟨top, highest⟩ : ∃ top, nodes.reverse.findSome? told = some top := by
      rw [← Option.isSome_iff_exists, List.findSome?_isSome_iff]
      exact ⟨node, List.mem_reverse.mpr inside, by rw [said]; rfl⟩
    have here : (nodes.foldl (addStructure rt)
        [("structure_scope_id", some id), ("structureScopeId", some id)]).get? key = some top := by
      rw [get?_foldl_pathKey lowers _ _ offered, highest]
      rfl
    have only : ∀ other, (key, other) ∈ pathKeys → other = told := by
      intro other also
      have apart : (pathKeys.map Prod.fst).Nodup := by decide
      exact (Prod.mk.inj (List.inj_on_of_nodup_map apart also offered rfl)).2
    have session : key ≠ "sessionId" := by
      rintro rfl
      simp [pathKeys] at offered
    rw [targetKey_pathKey offered, get?_merge keyed here]
    constructor
    · rintro ⟨expected, found, same⟩
      refine ⟨session, fun other also top' highest' => ?_⟩
      rw [only other also, highest] at highest'
      rw [← Option.some.inj highest', Option.some.inj found]
      exact same
    · rintro ⟨-, same⟩
      exact ⟨top, rfl, same told offered top highest⟩

/-- **When the scopes of a member of staff let an upload through**, where one of them has the
upload's own values: that one agrees with the path, or another one matches. -/
theorem passes_iff_agrees (lowers : rt.LowersAscii) {actor : AuthTokenPayload}
    {input : IngestResultBatchInput} {id : Uuid} (into : input.structureScopeId = some id)
    {scope : List (String × String)}
    (operates : assertActorCanOperateInstitution actor institutionId s = .ok ())
    (limited : Limited actor)
    (assigned : scopeJson scope ∈ assignedScopesForActor actor institutionId s)
    (advertised : ∀ entry ∈ scope, entry.1 ∈ recommendedScopeKeys)
    (described : ∀ nodes, Walked s institutionId [] input.structureScopeId nodes →
      ∀ entry ∈ scope, Describes input nodes entry) :
    assertActorAssignedScope rt actor institutionId input.structureScopeId (uploadTarget input) s =
        .ok () ↔
      ∃ nodes, Walked s institutionId [] input.structureScopeId nodes ∧
        (Agrees rt nodes scope ∨ Helped rt s actor institutionId input scope) := by
  have path : structurePath rt institutionId input.structureScopeId s =
      academicStructureScopeTarget rt institutionId id s := by
    rw [into]
    rfl
  have staff : ¬ Exempt actor := by
    obtain ⟨human, admin, registrar⟩ := limited
    rintro (is | is | is)
    · exact admin is
    · exact registrar is
    · rw [human] at is
      exact absurd is (by decide)
  cases walks : academicStructureScopeTarget rt institutionId id s with
  | error e =>
    constructor
    · intro passed
      obtain ⟨target, walked, -⟩ :=
        assertActorAssignedScope_spec limited (List.cons_ne_nil _ _) passed
      rw [path, walks] at walked
      exact absurd walked (by simp)
    · rintro ⟨nodes, walked, -⟩
      rw [into] at walked
      have goes : academicStructureScopeTarget rt institutionId id s = .ok _ :=
        scopeTargetFrom_eq_ok.mpr ⟨nodes, walked, rfl⟩
      rw [walks] at goes
      exact absurd goes (by simp)
  | ok target =>
    obtain ⟨nodes, walked, is⟩ := scopeTargetFrom_eq_ok.mp walks
    rw [← into] at walked
    have written : target ≠ [] := by
      intro none
      have here := get?_foldl_apart lowers nodes
        [("structure_scope_id", some id), ("structureScopeId", some id)] apart_structure
      rw [← is, none] at here
      simp [ScopeTarget.get?] at here
    -- The scope with the upload's own values matches when it agrees with the path.
    have own : scopeMatchesTarget rt (scopeJson scope) (merge (uploadTarget input) target) = true ↔
        Agrees rt nodes scope := by
      have each := fun entry inside => entry_matches_iff lowers into
        (advertised entry inside) (described nodes walked entry inside)
      rw [scopeMatchesTarget_iff, is]
      constructor
      · rintro ⟨any, all⟩
        refine ⟨any, fun entry inside blank => ?_, fun entry inside blank => ?_⟩
        · exact ((each entry inside).mp (all entry inside blank)).1
        · exact ((each entry inside).mp (all entry inside blank)).2
      · rintro ⟨any, sessionless, highest⟩
        exact ⟨any, fun entry inside blank => (each entry inside).mpr
          ⟨sessionless entry inside blank, highest entry inside blank⟩⟩
    have check := @assertActorAssignedScope_iff rt s institutionId id actor (uploadTarget input)
      target operates staff walks written
    rw [← into] at check
    rw [check]
    constructor
    · rintro ⟨other, has, matched⟩
      refine ⟨nodes, walked, ?_⟩
      by_cases same : other = scopeJson scope
      · rw [same] at matched
        exact .inl (own.mp matched)
      · exact .inr ⟨target, path.trans walks, other, has, same, matched⟩
    · rintro ⟨others, also, agrees | ⟨target', walks', other, has, -, matched⟩⟩
      · obtain rfl := walked.unique also
        exact ⟨_, assigned, own.mpr agrees⟩
      · rw [path, walks] at walks'
        obtain rfl := Except.ok.inj walks'
        exact ⟨other, has, matched⟩

/-- The actor of an upload operates in its institution. -/
theorem operates_of_can {ref permission : String} {actor : AuthTokenPayload} {now : Time} {pick : ℕ}
    {authority : InstitutionAuthority}
    (allowed : assertInstitutionCan ref permission actor now pick s = .ok authority) :
    assertActorCanOperateInstitution actor authority.institutionUuid s = .ok () := by
  unfold assertInstitutionCan at allowed
  obtain ⟨institution, -, rest⟩ := bind_eq_ok.mp allowed
  obtain ⟨_, -, rest⟩ := bind_eq_ok.mp rest
  obtain ⟨_, operates, rest⟩ := bind_eq_ok.mp rest
  obtain ⟨grant, -, same⟩ := bind_eq_ok.mp rest
  rw [pure_eq_ok] at same
  subst same
  exact operates

end Check

/-! ### Uploads of the staff -/

/-- The checks that `ingestResults` makes before that of the scopes. -/
structure Uploads (rt : Runtime) (env : IngestEnv) (actor : AuthTokenPayload) (body : Json)
    (s : Store) (input : IngestResultBatchInput) (authority : InstitutionAuthority) : Prop where
  parsed : ingestResultBatchSchema rt (some body) = .valid input
  allowed : assertInstitutionCan input.institutionId "ingest_results" actor env.checkedAt
    env.pick s = .ok authority
  belongs : assertBatchScopeBelongsToInstitution authority.institutionUuid input.academicSessionId
    input.structureScopeId s = .ok ()

/-- The upload is into a session and a structure that the portal lists. -/
structure Listed (options : StaffScopeOptions) (input : IngestResultBatchInput) : Prop where
  session : ∃ session ∈ options.sessions, input.academicSessionId = some session.uuid
  structure_ : ∃ node ∈ options.structures, input.structureScopeId = some node.uuid

/-- The scope is built from the keys that the portal offers, with the upload's own values. -/
structure Built (options : StaffScopeOptions) (s : Store) (institutionId : Uuid)
    (input : IngestResultBatchInput) (scope : List (String × String)) : Prop where
  advertised : ∀ entry ∈ scope, entry.1 ∈ options.recommendedScopeKeys
  described : ∀ nodes, Walked s institutionId [] input.structureScopeId nodes →
    ∀ entry ∈ scope, Describes input nodes entry

theorem offered_keys {sessionOrder : RowOrder AcademicSession}
    {structureOrder : RowOrder AcademicStructure} {manager : StaffManager} {s : Store}
    {options : StaffScopeOptions}
    (offered : readStaffScopeOptions sessionOrder structureOrder manager s = .ok options) :
    options.recommendedScopeKeys = recommendedScopeKeys := by
  unfold readStaffScopeOptions at offered
  obtain ⟨institutionId, -, same⟩ := bind_eq_ok.mp offered
  rw [pure_eq_ok] at same
  rw [← same]

/-- **When a scope of offered keys lets an upload through**: its entries agree with the path of the
structure, or another of the actor's scopes matches. -/
theorem authorises_iff (rt : Runtime) (lowers : rt.LowersAscii)
    (sessionOrder : RowOrder AcademicSession) (structureOrder : RowOrder AcademicStructure)
    (manager : StaffManager) (env : IngestEnv) (actor : AuthTokenPayload) (body : Json) (s : Store)
    (options : StaffScopeOptions) (input : IngestResultBatchInput)
    (authority : InstitutionAuthority) (scope : List (String × String))
    (offered : readStaffScopeOptions sessionOrder structureOrder manager s = .ok options)
    (listed : Listed options input) (uploads : Uploads rt env actor body s input authority)
    (limited : Limited actor)
    (assigned : scopeJson scope ∈ assignedScopesForActor actor authority.institutionUuid s)
    (built : Built options s authority.institutionUuid input scope) :
    assertActorAssignedScope rt actor authority.institutionUuid input.structureScopeId
        (uploadTarget input) s = .ok () ↔
      ∃ nodes, Walked s authority.institutionUuid [] input.structureScopeId nodes ∧
        (Agrees rt nodes scope ∨ Helped rt s actor authority.institutionUuid input scope) := by
  obtain ⟨node, -, into⟩ := listed.structure_
  have advertised := built.advertised
  rw [offered_keys offered] at advertised
  exact passes_iff_agrees lowers into (operates_of_can uploads.allowed) limited assigned advertised
    built.described

/-! ### A department in a faculty -/

def sessionId : Uuid := "c1000000-0000-4000-8000-000000000001"

def firstTerm : AcademicSession where
  uuid := sessionId
  institutionId := schoolId
  sessionLabel := "2025/2026"
  periodType := .term
  periodLabel := "First term"
  startDate := none
  endDate := none
  status := .active
  isCurrent := true
  createdById := none

/-- The school with a session, and a department in its faculty of sciences. -/
def listedSchool : Store :=
  { twoStructures .faculty with academicSessions := ⟨[firstTerm], List.nodup_singleton _⟩ }

/-- A registrar of the school, and rows in the order of the store. -/
def schoolRegistrar : StaffManager :=
  { mathematicsOfficer with role := .registrar, permissions := [] }

def storeOrder (α : Type) : RowOrder α where
  sort := id
  perm := fun rows => .refl rows

def schoolOptions : StaffScopeOptions where
  recommendedScopeKeys := recommendedScopeKeys
  sessions := [firstTerm]
  structures := [outer .faculty, inner]

/-- An upload into the session and the department. -/
def uploadInto : Json :=
  .obj [("institutionId", .str "ACD-0001"),
    ("createdById", .str "a1000000-0000-4000-8000-000000000001"),
    ("title", .str "First term"), ("academicSessionId", .str sessionId),
    ("structureScopeId", .str innerId),
    ("rows", .arr
      [.obj [("studentNumber", .str "S-1"), ("periodType", .str "TERM"),
        ("periodLabel", .str "First term"), ("subjectCode", .str "MTH"),
        ("subjectName", .str "Mathematics"), ("totalScore", .num 75)]])]

def inputInto : IngestResultBatchInput where
  institutionId := "ACD-0001"
  createdById := some "a1000000-0000-4000-8000-000000000001"
  title := "First term"
  academicSessionId := some sessionId
  structureScopeId := some innerId
  gradingRuleSetId := none
  uploadMode := .masterSheet
  batchLabel := none
  rows :=
    [{ studentNumber := "S-1", periodType := .term, periodLabel := "First term"
       subjectCode := "MTH", subjectName := "Mathematics", caScore := none, examScore := none
       totalScore := 75, grade := none, creditUnits := none }]

def schoolAuthority : InstitutionAuthority where
  institutionUuid := schoolId
  institutionId := "ACD-0001"
  authorityGrantId := "20000000-0000-4000-8000-000000000001"

/-- The officer with one scope. -/
def officerWith (scope : List (String × String)) : AuthTokenPayload :=
  { mathematicsOfficer with assignedScopes := some (.arr [scopeJson scope]) }

theorem officerWith_only (scope : List (String × String)) (s : Store) (institutionId : Uuid) :
    assignedScopesForActor (officerWith scope) institutionId s = [scopeJson scope] := rfl

theorem listed_inputInto : Listed schoolOptions inputInto where
  session := ⟨firstTerm, List.mem_singleton_self _, rfl⟩
  structure_ := ⟨inner, by simp [schoolOptions], rfl⟩

theorem uploads_inputInto (scope : List (String × String)) :
    Uploads .plain uploadEnv (officerWith scope) uploadInto listedSchool inputInto
      schoolAuthority where
  parsed := rfl
  allowed := rfl
  belongs := rfl

/-- The department and its faculty. -/
theorem walked_inputInto :
    Walked listedSchool schoolId [] inputInto.structureScopeId [inner, outer .faculty] :=
  .on List.not_mem_nil rfl rfl (.on (by decide) rfl rfl (.top _))

/-- **A scope with the faculty's name and the department's uuid** lets the upload through. -/
theorem authorises_iff_faculty :
    assertActorAssignedScope .plain
      (officerWith [("faculty", "Sciences"), ("structureScopeId", innerId)]) schoolId (some innerId)
      (uploadTarget inputInto) listedSchool = .ok () := by
  refine (authorises_iff .plain Runtime.plain_lowersAscii (storeOrder _) (storeOrder _)
    schoolRegistrar uploadEnv _ uploadInto listedSchool schoolOptions inputInto schoolAuthority
    [("faculty", "Sciences"), ("structureScopeId", innerId)] rfl listed_inputInto
    (uploads_inputInto _) ⟨rfl, by decide, by decide⟩ (List.mem_singleton_self _)
    ⟨by decide, ?_⟩).mpr ⟨_, walked_inputInto, .inl ⟨⟨_, List.mem_cons_self .., by decide⟩, ?_, ?_⟩⟩
  · intro nodes walked entry inside
    obtain rfl := walked.unique walked_inputInto
    rcases List.mem_pair.mp inside with rfl | rfl
    · exact .inr (.inr ⟨nameOf .faculty, by simp [pathKeys], outer .faculty, by simp, rfl⟩)
    · exact .inr (.inl ⟨rfl, rfl⟩)
  · intro entry inside _
    rcases List.mem_pair.mp inside with rfl | rfl <;> decide
  · intro entry inside _ told offered top highest
    rcases List.mem_pair.mp inside with rfl | rfl
    · obtain rfl : told = nameOf .faculty := by simpa [pathKeys] using offered
      obtain rfl : "Sciences" = top := Option.some.inj highest
      rfl
    · simp [pathKeys] at offered

/-- **The scope of the upload's session** lets nothing through. -/
theorem authorises_fails :
    ¬ ∀ (rt : Runtime) (sessionOrder : RowOrder AcademicSession)
      (structureOrder : RowOrder AcademicStructure) (manager : StaffManager) (env : IngestEnv)
      (actor : AuthTokenPayload) (body : Json) (s : Store) (options : StaffScopeOptions)
      (input : IngestResultBatchInput) (authority : InstitutionAuthority)
      (scope : List (String × String)), rt.LowersAscii →
        readStaffScopeOptions sessionOrder structureOrder manager s = .ok options →
        Listed options input → Uploads rt env actor body s input authority → Limited actor →
        scopeJson scope ∈ assignedScopesForActor actor authority.institutionUuid s →
        Built options s authority.institutionUuid input scope → scope ≠ [] →
          assertActorAssignedScope rt actor authority.institutionUuid input.structureScopeId
            (uploadTarget input) s = .ok () := by
  intro authorises
  have limited : Limited (officerWith [("sessionId", sessionId)]) := ⟨rfl, by decide, by decide⟩
  have uploads := uploads_inputInto [("sessionId", sessionId)]
  have built : Built schoolOptions listedSchool schoolId inputInto [("sessionId", sessionId)] := by
    refine ⟨by decide, fun nodes _ entry inside => ?_⟩
    obtain rfl := List.mem_singleton.mp inside
    exact .inl ⟨rfl, rfl⟩
  have passed := authorises .plain (storeOrder _) (storeOrder _) schoolRegistrar uploadEnv
    (officerWith [("sessionId", sessionId)]) uploadInto listedSchool schoolOptions inputInto
    schoolAuthority _ Runtime.plain_lowersAscii rfl listed_inputInto uploads limited
    (List.mem_singleton_self _) built (List.cons_ne_nil _ _)
  obtain ⟨nodes, -, agrees | ⟨_, -, other, has, apart, -⟩⟩ :=
    (passes_iff_agrees Runtime.plain_lowersAscii rfl (operates_of_can uploads.allowed) limited
      (List.mem_singleton_self _) built.advertised built.described).mp passed
  · exact agrees.sessionless _ (List.mem_singleton_self _) (by decide) rfl
  · exact apart (List.mem_singleton.mp has)

end AcadID.ScopeOptions
