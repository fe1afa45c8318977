/-
**The path of a structure, and the scopes that name one of the structures on it.**

`academicStructureScopeTarget` fills one record while it walks from a structure to the root of its
tree; a structure of a type that was met before takes the place of the lower one.

* `Path` — the structures from one to the root; `scopeTarget_eq` — the walk adds them one by one.
* `get?_foldl_addStructure` — of the structures of one type, the highest is the one left.
* `passes_iff` — **a member of staff whose only scope names a structure on the path** passes exactly
  when the name is not blank and is that of the highest structure of its type on the path.
* `passes_fails` — a department within a department, and its officer.
-/

import AcadID.Gateway.AssignedScopes
import AcadID.Gateway.StructureTree
import AcadID.Lib.FirstMatch

namespace AcadID.ScopePaths

open Lib Authority AssignedScopes StructureTree

/-! ### Scopes that name a structure -/

/-- How a scope names a structure: by its uuid, or by its name. -/
inductive Naming where
  | byId
  | byName
  deriving DecidableEq

/-- The key of a scope that names a structure of a type. -/
def Naming.key (rt : Runtime) (type : AcademicStructureType) : Naming → String
  | .byId => rt.toLowerCase type.name ++ "_id"
  | .byName => rt.toLowerCase type.name

/-- What it names the structure with. -/
def Naming.value (node : AcademicStructure) : Naming → String
  | .byId => node.uuid
  | .byName => node.name

/-- The scope that names one structure. -/
def scopeOf (rt : Runtime) (naming : Naming) (node : AcademicStructure) : Json :=
  .obj [(naming.key rt node.type, .str (naming.value node))]

/-- A type in lower case. -/
def typeKey : AcademicStructureType → String
  | .level => "level"
  | .classRoom => "class"
  | .arm => "arm"
  | .stream => "stream"
  | .subject => "subject"
  | .faculty => "faculty"
  | .department => "department"
  | .programme => "programme"
  | .course => "course"

variable {rt : Runtime}

theorem toLowerCase_name (lowers : rt.LowersAscii) (type : AcademicStructureType) :
    rt.toLowerCase type.name = typeKey type := by
  rw [lowers.eq (by cases type <;> decide)]
  cases type <;> rfl

/-- The key, in letters. -/
def plainKey (type : AcademicStructureType) : Naming → String
  | .byId => typeKey type ++ "_id"
  | .byName => typeKey type

theorem key_eq (lowers : rt.LowersAscii) (naming : Naming) (type : AcademicStructureType) :
    naming.key rt type = plainKey type naming := by
  cases naming with
  | byId => exact congrArg (· ++ "_id") (toLowerCase_name lowers type)
  | byName => exact toLowerCase_name lowers type

/-- A key in lower-case letters stays as it is. -/
theorem normaliseScopeKey_plainKey (lowers : rt.LowersAscii) (naming : Naming)
    (type : AcademicStructureType) :
    normaliseScopeKey rt (plainKey type naming) = plainKey type naming := by
  have same : String.ofList ((plainKey type naming).toList.flatMap fun c =>
      if 'A' ≤ c ∧ c ≤ 'Z' then ['_', c.toLower] else [c]) = plainKey type naming := by
    cases naming <;> cases type <;> decide
  unfold normaliseScopeKey
  rw [same, lowers.eq (by cases naming <;> cases type <;> decide)]
  cases naming <;> cases type <;> decide

theorem plainKey_inj {type other : AcademicStructureType} {naming also : Naming} :
    plainKey type naming = plainKey other also ↔ type = other ∧ naming = also := by
  cases naming <;> cases also <;> cases type <;> cases other <;> decide

/-! ### What a structure adds to a target -/

theorem plainKey_ne_code (type other : AcademicStructureType) (naming : Naming) :
    plainKey type naming ≠ typeKey other ++ "_code" := by
  cases naming <;> cases type <;> cases other <;> decide

theorem plainKey_ne_classArm (type : AcademicStructureType) (naming : Naming) :
    plainKey type naming ≠ "class_arm" := by
  cases naming <;> cases type <;> decide

/-- The uuid and the name of a structure, put into a target. -/
theorem get?_named (target : ScopeTarget) (node : AcademicStructure) (type : AcademicStructureType)
    (naming : Naming) :
    ((target.set (typeKey node.type) (some node.name)).set (typeKey node.type ++ "_id")
      (some node.uuid)).get? (plainKey type naming) =
        if type = node.type then some (naming.value node)
        else target.get? (plainKey type naming) := by
  have id : typeKey node.type ++ "_id" = plainKey node.type .byId := rfl
  have name : typeKey node.type = plainKey node.type .byName := rfl
  rw [get?_set, get?_set, id, name]
  simp only [plainKey_inj]
  by_cases same : type = node.type
  · rw [if_pos same]
    cases naming with
    | byId => rw [if_pos ⟨same, rfl⟩]; rfl
    | byName => rw [if_neg (fun both => nomatch both.2), if_pos ⟨same, rfl⟩]; rfl
  · rw [if_neg fun both => same both.1, if_neg fun both => same both.1, if_neg same]

/-- **A structure puts its uuid and its name into the target**, in place of those of another of its
type. -/
theorem get?_addStructure (lowers : rt.LowersAscii) (target : ScopeTarget)
    (node : AcademicStructure) (type : AcademicStructureType) (naming : Naming) :
    (addStructure rt target node).get? (plainKey type naming) =
      if type = node.type then some (naming.value node)
      else target.get? (plainKey type naming) := by
  have away : ∀ (other : ScopeTarget) (key : String) (value : Option String),
      plainKey type naming ≠ key → (other.set key value).get? (plainKey type naming) =
        other.get? (plainKey type naming) := by
    intro other key value apart
    rw [get?_set, if_neg apart]
  -- the subject of a target is the name that the structure has put there already
  have again : ∀ other : ScopeTarget, node.type = .subject →
      other.get? (plainKey type naming) = ((target.set (typeKey node.type) (some node.name)).set
        (typeKey node.type ++ "_id") (some node.uuid)).get? (plainKey type naming) →
      (other.set "subject" (some node.name)).get? (plainKey type naming) =
        other.get? (plainKey type naming) := by
    intro other is named
    have subject : "subject" = plainKey .subject .byName := rfl
    rw [get?_set, subject, named, get?_named, is]
    by_cases same : plainKey type naming = plainKey .subject .byName
    · obtain ⟨rfl, rfl⟩ := plainKey_inj.mp same
      rw [if_pos rfl, if_pos rfl]
      rfl
    · rw [if_neg same]
  rw [← get?_named]
  unfold addStructure
  rw [toLowerCase_name lowers]
  cases node.code.filter (· ≠ "") with
  | none =>
    cases is : node.type with
    | subject =>
      rw [is] at again
      exact again _ rfl rfl
    | arm => exact away _ _ _ (plainKey_ne_classArm type naming)
    | _ => rfl
  | some code =>
    cases is : node.type with
    | subject =>
      rw [is] at again
      have coded := away ((target.set (typeKey .subject) (some node.name)).set
        (typeKey .subject ++ "_id") (some node.uuid)) _ (some code)
        (plainKey_ne_code type .subject naming)
      refine (away _ _ _ (plainKey_ne_code type .subject naming)).trans ?_
      exact (again _ rfl coded).trans coded
    | arm =>
      exact (away _ _ _ (plainKey_ne_classArm type naming)).trans
        (away _ _ _ (plainKey_ne_code type .arm naming))
    | course =>
      exact (away _ _ _ (plainKey_ne_code type .course naming)).trans
        (away _ _ _ (plainKey_ne_code type .course naming))
    | _ => exact away _ _ _ (plainKey_ne_code type _ naming)

/-- **Of the structures of one type, the last one is left.** -/
theorem get?_foldl_addStructure (lowers : rt.LowersAscii) (nodes : List AcademicStructure)
    (target : ScopeTarget) (type : AcademicStructureType) (naming : Naming) :
    (nodes.foldl (addStructure rt) target).get? (plainKey type naming) =
      ((nodes.reverse.find? (type = ·.type)).map naming.value).or
        (target.get? (plainKey type naming)) := by
  refine FirstMatch.read_foldl _ (fun target => target.get? (plainKey type naming)) _ _
    (fun target node => ?_) nodes target
  rw [get?_addStructure lowers]
  simp

/-! ### The path of a structure -/

/-- The structure hangs in a tree of the institution. -/
structure InTree (s : Store) (institutionId id : Uuid) : Prop where
  rooted : Rooted (parentOf s) id
  within : ∀ above, AtOrAbove (parentOf s) id above → Has s institutionId above

/-- In a tree of structures, each of them hangs in the tree of its institution. -/
theorem inTree_of_tree {s : Store} (tree : Tree s) {institutionId id : Uuid}
    (has : Has s institutionId id) : InTree s institutionId id where
  rooted := by
    obtain ⟨row, found, -⟩ := has
    have key : row.uuid = id := Table.find?_key found
    rw [← key]
    exact tree.rooted row (Table.find?_mem found)
  within := by
    intro above path
    induction path with
    | refl => exact has
    | tail _ last ih =>
      obtain ⟨row, found, owned⟩ := ih
      obtain ⟨child, there, hangs⟩ := find?_of_parentOf last
      obtain rfl := Option.some.inj (found.symm.trans there)
      rw [← owned]
      exact tree.within row (Table.find?_mem found) _ hangs

/-- The structures from one up to the root. -/
inductive Path (s : Store) : Uuid → List AcademicStructure → Prop
  | root {id : Uuid} {node : AcademicStructure}
      (found : s.academicStructures.find? id = some node) (top : node.parentId = none) :
      Path s id [node]
  | child {id above : Uuid} {node : AcademicStructure} {rest : List AcademicStructure}
      (found : s.academicStructures.find? id = some node) (hangs : node.parentId = some above)
      (further : Path s above rest) : Path s id (node :: rest)

variable {s : Store} {institutionId id : Uuid} {nodes : List AcademicStructure}

theorem exists_path (inTree : InTree s institutionId id) : ∃ nodes, Path s id nodes := by
  obtain ⟨rooted, within⟩ := inTree
  induction rooted with
  | @root id top =>
    obtain ⟨node, found, -⟩ := within id .refl
    refine ⟨[node], .root found ?_⟩
    unfold parentOf at top
    rwa [found] at top
  | @child id above hangs _ ih =>
    obtain ⟨node, found, up⟩ := find?_of_parentOf hangs
    obtain ⟨rest, further⟩ := ih fun higher path => within higher (.head hangs path)
    exact ⟨node :: rest, .child found up further⟩

theorem Path.unique (path : Path s id nodes) {others : List AcademicStructure}
    (other : Path s id others) : nodes = others := by
  induction path generalizing others with
  | @root id node found top =>
    cases other with
    | root found' _ => rw [Option.some.inj (found.symm.trans found')]
    | child found' hangs _ =>
      rw [← Option.some.inj (found.symm.trans found'), top] at hangs
      exact absurd hangs (by simp)
  | @child id above node rest found hangs _ ih =>
    cases other with
    | root found' top =>
      rw [← Option.some.inj (found.symm.trans found'), hangs] at top
      exact absurd top (by simp)
    | child found' hangs' further =>
      rw [← Option.some.inj (found.symm.trans found'), hangs] at hangs'
      rw [← Option.some.inj (found.symm.trans found'),
        ih (Option.some.inj hangs' ▸ further)]

/-- From each of its structures on, a path is the path of that structure. -/
theorem Path.from_mem (path : Path s id nodes) {below above : List AcademicStructure}
    {node : AcademicStructure} (split : nodes = below ++ node :: above) :
    Path s node.uuid (node :: above) := by
  induction path generalizing below with
  | @root id only found top =>
    cases below with
    | nil =>
      obtain ⟨rfl, rfl⟩ := List.cons.inj split
      rw [Table.find?_key found]
      exact .root found top
    | cons first below => exact absurd (List.cons.inj split).2 (by simp)
  | @child id higher first rest found hangs further ih =>
    cases below with
    | nil =>
      obtain ⟨rfl, rfl⟩ := List.cons.inj split
      rw [Table.find?_key found]
      exact .child found hangs further
    | cons other below => exact ih (List.cons.inj split).2

theorem Path.find? (path : Path s id nodes) :
    ∀ node ∈ nodes, s.academicStructures.find? node.uuid = some node := by
  intro node inside
  obtain ⟨below, above, split⟩ := List.append_of_mem inside
  cases path.from_mem split with
  | root found _ => exact found
  | child found _ _ => exact found

/-- **A path visits no structure twice.** -/
theorem Path.nodup (path : Path s id nodes) : (nodes.map (·.uuid)).Nodup := by
  induction path with
  | root found top => exact List.nodup_singleton _
  | @child id above node rest found hangs further ih =>
    refine List.nodup_cons.mpr ⟨fun again => ?_, ih⟩
    obtain ⟨other, inside, same⟩ := List.mem_map.mp again
    obtain ⟨below, higher, split⟩ := List.append_of_mem inside
    have same : other.uuid = node.uuid := same
    have short := further.from_mem split
    rw [same, Table.find?_key found] at short
    have lengths := congrArg List.length (short.unique (.child found hangs further))
    rw [split] at lengths
    simp at lengths
    omega

/-- **One step of the walk** at a structure of the institution that was not met before. -/
theorem scopeTargetFrom_step {visited : List Uuid} {node : AcademicStructure}
    (found : s.academicStructures.find? id = some node) (owned : node.institutionId = institutionId)
    (fresh : id ∉ visited) (target : ScopeTarget) :
    scopeTargetFrom rt s institutionId visited (some id) target =
      scopeTargetFrom rt s institutionId (id :: visited) node.parentId
        (addStructure rt target node) := by
  rw [scopeTargetFrom, dif_neg fresh]
  split
  · rename_i absent
    exact absurd (absent.symm.trans found) (by simp)
  · rename_i other there
    obtain rfl := Option.some.inj (found.symm.trans there)
    rw [if_pos owned]

/-- **The walk adds the structures of the path**, one by one. -/
theorem scopeTargetFrom_eq (path : Path s id nodes) {visited : List Uuid}
    (owned : ∀ node ∈ nodes, node.institutionId = institutionId)
    (fresh : ∀ node ∈ nodes, node.uuid ∉ visited) (target : ScopeTarget) :
    scopeTargetFrom rt s institutionId visited (some id) target =
      .ok (nodes.foldl (addStructure rt) target) := by
  induction path generalizing visited target with
  | @root id node found top =>
    have new := fresh node (List.mem_singleton_self _)
    rw [Table.find?_key found] at new
    rw [scopeTargetFrom_step found (owned node (List.mem_singleton_self _)) new, top,
      scopeTargetFrom]
    rfl
  | @child id above node rest found hangs further ih =>
    have new := fresh node (List.mem_cons_self ..)
    rw [Table.find?_key found] at new
    rw [scopeTargetFrom_step found (owned node (List.mem_cons_self ..)) new, hangs]
    refine ih (fun other inside => owned other (List.mem_cons_of_mem _ inside))
      (fun other inside again => ?_) _
    rcases List.mem_cons.mp again with same | before
    · have distinct := List.nodup_cons.mp (Path.child found hangs further).nodup
      exact distinct.1 (List.mem_map.mpr ⟨other, inside, same.trans (Table.find?_key found).symm⟩)
    · exact fresh other (List.mem_cons_of_mem _ inside) before

/-- A structure is on the path when it is at or above the first one. -/
theorem Path.mem_iff (path : Path s id nodes) {node : AcademicStructure}
    (found : s.academicStructures.find? node.uuid = some node) :
    node ∈ nodes ↔ AtOrAbove (parentOf s) id node.uuid := by
  induction path with
  | @root id only there top =>
    rw [List.mem_singleton]
    constructor
    · rintro rfl
      rw [Table.find?_key there]
      exact .refl
    · intro up
      rcases Relation.ReflTransGen.cases_head up with same | ⟨above, hangs, -⟩
      · rw [same, found] at there
        exact Option.some.inj there
      · obtain ⟨child, here, parent⟩ := find?_of_parentOf hangs
        rw [← Option.some.inj (there.symm.trans here), top] at parent
        exact absurd parent (by simp)
  | @child id above first rest there hangs _ ih =>
    have step : parentOf s id = some above := by
      unfold parentOf
      rw [there]
      exact hangs
    rw [List.mem_cons, ih]
    constructor
    · rintro (rfl | higher)
      · rw [Table.find?_key there]
        exact .refl
      · exact .head step higher
    · intro up
      rcases Relation.ReflTransGen.cases_head up with same | ⟨next, parent, higher⟩
      · rw [same, found] at there
        exact .inl (Option.some.inj there)
      · obtain rfl := Option.some.inj (step.symm.trans parent)
        exact .inr higher

/-- The structures after the first one of a path are those above it. -/
theorem Path.above_iff {rest : List AcademicStructure} {first node : AcademicStructure}
    (path : Path s id (first :: rest))
    (found : s.academicStructures.find? node.uuid = some node) :
    node ∈ rest ↔ Relation.TransGen (IsParent (parentOf s)) id node.uuid := by
  cases path with
  | root there top =>
    refine ⟨fun inside => absurd inside List.not_mem_nil, fun up => ?_⟩
    obtain ⟨next, parent, -⟩ := Relation.TransGen.head'_iff.mp up
    obtain ⟨child, here, hangs⟩ := find?_of_parentOf parent
    rw [← Option.some.inj (there.symm.trans here), top] at hangs
    exact absurd hangs (by simp)
  | @child _ above _ _ there hangs further =>
    have step : parentOf s id = some above := by
      unfold parentOf
      rw [there]
      exact hangs
    rw [further.mem_iff found]
    constructor
    · exact fun up => .head' step up
    · intro up
      obtain ⟨next, parent, higher⟩ := Relation.TransGen.head'_iff.mp up
      obtain rfl := Option.some.inj (step.symm.trans parent)
      exact higher

/-! ### The highest structure of a type -/

/-- The highest structure of a type at or above another: none of its type is above it. -/
def Highest (s : Store) (id : Uuid) (type : AcademicStructureType) (top : AcademicStructure) :
    Prop :=
  s.academicStructures.find? top.uuid = some top ∧ AtOrAbove (parentOf s) id top.uuid ∧
    top.type = type ∧ ∀ other, s.academicStructures.find? other.uuid = some other →
      Relation.TransGen (IsParent (parentOf s)) top.uuid other.uuid → other.type ≠ type

/-- The last structure of its type on a path is the highest. -/
theorem Path.highest_iff (path : Path s id nodes) {type : AcademicStructureType}
    {top : AcademicStructure} :
    nodes.reverse.find? (type = ·.type) = some top ↔ Highest s id type top := by
  rw [List.find?_eq_some_iff_append]
  constructor
  · rintro ⟨is, after, before, split, none⟩
    have ordered : nodes = before.reverse ++ top :: after.reverse := by
      rw [← List.reverse_reverse nodes, split]
      simp
    have inside : top ∈ nodes := by
      rw [ordered]
      simp
    have found := path.find? top inside
    refine ⟨found, (path.mem_iff found).mp inside, (of_decide_eq_true is).symm, ?_⟩
    intro other there up same
    have higher := ((path.from_mem ordered).above_iff there).mpr up
    exact absurd (none other (List.mem_reverse.mp higher)) (by simp [same])
  · rintro ⟨found, up, is, none⟩
    obtain ⟨below, above, split⟩ := List.append_of_mem ((path.mem_iff found).mpr up)
    refine ⟨decide_eq_true is.symm, above.reverse, below.reverse, by rw [split]; simp, ?_⟩
    intro other inside
    have further := path.from_mem split
    have higher : other ∈ above := List.mem_reverse.mp inside
    have there := further.find? other (List.mem_cons_of_mem _ higher)
    have apart := none other there ((further.above_iff there).mp higher)
    simpa using fun same : type = other.type => apart same.symm

/-! ### A target put over another -/

/-- What setting keys keeps, a structure keeps. -/
theorem addStructure_keeps {p : ScopeTarget → Prop}
    (step : ∀ target key value, p target → p (target.set key value)) {target : ScopeTarget}
    (before : p target) (node : AcademicStructure) : p (addStructure rt target node) := by
  have named := fun typeKey : String => step _ (typeKey ++ "_id") (some node.uuid)
    (step target typeKey (some node.name) before)
  unfold addStructure
  cases node.code.filter (· ≠ "") with
  | none =>
    cases node.type with
    | subject => exact step _ _ _ (named _)
    | arm => exact step _ _ _ (named _)
    | _ => exact named _
  | some code =>
    cases node.type with
    | subject => exact step _ _ _ (step _ _ _ (step _ _ _ (named _)))
    | arm => exact step _ _ _ (step _ _ _ (named _))
    | course => exact step _ _ _ (step _ _ _ (named _))
    | _ => exact step _ _ _ (named _)

/-- No key is there twice. -/
def Keyed (target : ScopeTarget) : Prop :=
  (target.map Prod.fst).Nodup

theorem keyed_set {target : ScopeTarget} (keyed : Keyed target) (key : String)
    (value : Option String) : Keyed (target.set key value) := by
  unfold Keyed ScopeTarget.set
  rw [List.map_append, List.nodup_append]
  refine ⟨List.Nodup.sublist (List.Sublist.map _ List.filter_sublist) keyed,
    List.nodup_singleton _, ?_⟩
  rintro a inside b last rfl
  obtain ⟨entry, kept, rfl⟩ := List.mem_map.mp inside
  have apart := (List.mem_filter.mp kept).2
  simp only [List.map_cons, List.map_nil, List.mem_singleton] at last
  exact absurd apart (by simp [last])

theorem keyed_foldl {target : ScopeTarget} (keyed : Keyed target)
    (nodes : List AcademicStructure) : Keyed (nodes.foldl (addStructure rt) target) := by
  induction nodes generalizing target with
  | nil => exact keyed
  | cons node nodes ih =>
    exact ih (addStructure_keeps (p := Keyed)
      (fun _ key value before => keyed_set before key value) keyed node)

theorem get?_merge_of_not_mem {path : ScopeTarget} {key : String} (target : ScopeTarget)
    (elsewhere : key ∉ path.map Prod.fst) : (merge target path).get? key = target.get? key := by
  unfold merge
  induction path generalizing target with
  | nil => rfl
  | cons entry path ih =>
    rw [List.map_cons, List.mem_cons, not_or] at elsewhere
    rw [List.foldl_cons, ih _ elsewhere.2, get?_set, if_neg elsewhere.1]

/-- **Of a target put over another, every key is read.** -/
theorem get?_merge {path : ScopeTarget} (keyed : Keyed path) {key value : String}
    (has : path.get? key = some value) (target : ScopeTarget) :
    (merge target path).get? key = some value := by
  induction path generalizing target with
  | nil => exact absurd has (by simp [ScopeTarget.get?])
  | cons entry path ih =>
    obtain ⟨new, rest⟩ := List.nodup_cons.mp keyed
    show (merge (target.set entry.1 entry.2) path).get? key = some value
    by_cases here : entry.1 = key
    · rw [here] at new
      rw [get?_merge_of_not_mem _ new, get?_set, if_pos here.symm]
      simpa [ScopeTarget.get?, here] using has
    · refine ih rest ?_ _
      simpa [ScopeTarget.get?, here] using has

/-! ### The check -/

/-- Actors whose scopes are not looked at. -/
def Exempt (actor : AuthTokenPayload) : Prop :=
  actor.role = .acadidSuperAdmin ∨ actor.role = .registrar ∨ actor.isApiKey = true

/-- The structure's name is not blank, and is that of the highest structure of its type on the path,
but for space around it and upper case. -/
def Remains (rt : Runtime) (s : Store) (id : Uuid) (naming : Naming) (node : AcademicStructure) :
    Prop :=
  Text.isBlank (naming.value node) = false ∧ ∀ top, Highest s id node.type top →
    normaliseScopeValue rt (naming.value top) = normaliseScopeValue rt (naming.value node)

theorem scopeMatchesTarget_scopeOf (lowers : rt.LowersAscii) {naming : Naming}
    {node : AcademicStructure} {target : ScopeTarget} {expected : String}
    (is : target.get? (plainKey node.type naming) = some expected) :
    scopeMatchesTarget rt (scopeOf rt naming node) target = true ↔
      Text.isBlank (naming.value node) = false ∧
        normaliseScopeValue rt expected = normaliseScopeValue rt (naming.value node) := by
  have text : jsString rt (.str (naming.value node)) = naming.value node := rfl
  unfold scopeMatchesTarget scopeOf
  dsimp only
  by_cases blank : Text.isBlank (naming.value node) = true
  · rw [List.filter_cons_of_neg (by simp [text, blank])]
    simp [blank]
  · rw [List.filter_cons_of_pos (by simp [text, blank])]
    simp [blank, text, key_eq lowers, normaliseScopeKey_plainKey lowers, is]

/-- The check of a member of staff: whether one of the scopes matches the target. -/
theorem assertActorAssignedScope_iff {actor : AuthTokenPayload} {target path : ScopeTarget}
    (operates : assertActorCanOperateInstitution actor institutionId s = .ok ())
    (staff : ¬ Exempt actor)
    (walked : academicStructureScopeTarget rt institutionId id s = .ok path) (written : path ≠ []) :
    assertActorAssignedScope rt actor institutionId (some id) target s = .ok () ↔
      ∃ scope ∈ assignedScopesForActor actor institutionId s,
        scopeMatchesTarget rt scope (merge target path) = true := by
  have named : (merge target path).isEmpty = false := by
    obtain ⟨entry, rest, rfl⟩ := List.exists_cons_of_ne_nil written
    have kept : merge (target.set entry.1 entry.2) rest ≠ [] :=
      merge_ne_nil (by simp [ScopeTarget.set]) rest
    exact List.isEmpty_eq_false_iff.mpr kept
  have staff : ¬ (actor.role = .acadidSuperAdmin ∨ actor.role = .registrar ∨
    actor.isApiKey = true) := staff
  unfold assertActorAssignedScope
  rw [operates]
  dsimp only
  rw [walked]
  show (if _ then _ else _) = _ ↔ _
  rw [if_neg staff]
  cases assignedScopesForActor actor institutionId s with
  | nil =>
    constructor
    · intro passed
      obtain ⟨_, assigned, _⟩ := bind_eq_ok.mp passed
      exact absurd (require_eq_ok.mp assigned) (by simp)
    · rintro ⟨scope, has, -⟩
      exact absurd has List.not_mem_nil
  | cons first scopes =>
    show (if (merge target path).isEmpty then .ok () else
      require ((first :: scopes).any fun scope => scopeMatchesTarget rt scope (merge target path))
        (.forbidden "User is not assigned to this academic scope.")) = _ ↔ _
    rw [named, if_neg (by simp), require_eq_ok, List.any_eq_true]

/-- **What the walk leaves of a structure on the path**: the naming of the highest of its type. -/
theorem scopeTarget_spec (lowers : rt.LowersAscii) (inTree : InTree s institutionId id)
    {node : AcademicStructure} (found : s.academicStructures.find? node.uuid = some node)
    (above : AtOrAbove (parentOf s) id node.uuid) (naming : Naming) :
    ∃ path top, academicStructureScopeTarget rt institutionId id s = .ok path ∧ Keyed path ∧
      Highest s id node.type top ∧
      path.get? (plainKey node.type naming) = some (naming.value top) := by
  obtain ⟨nodes, path⟩ := exists_path inTree
  have owned : ∀ other ∈ nodes, other.institutionId = institutionId := by
    intro other inside
    have there := path.find? other inside
    obtain ⟨row, here, is⟩ := inTree.within other.uuid ((path.mem_iff there).mp inside)
    rw [Option.some.inj (there.symm.trans here)]
    exact is
  have walked := @scopeTargetFrom_eq rt s institutionId id nodes path [] owned
    (fun _ _ => List.not_mem_nil)
    [("structure_scope_id", some id), ("structureScopeId", some id)]
  have keyed : Keyed [("structure_scope_id", some id), ("structureScopeId", some id)] := by
    show ["structure_scope_id", "structureScopeId"].Nodup
    decide
  have typed : (nodes.reverse.find? (node.type = ·.type)).isSome := by
    refine List.find?_isSome.mpr ⟨node, ?_, decide_eq_true rfl⟩
    exact List.mem_reverse.mpr ((path.mem_iff found).mpr above)
  obtain ⟨top, last⟩ := Option.isSome_iff_exists.mp typed
  refine ⟨_, top, walked, keyed_foldl keyed nodes, path.highest_iff.mp last, ?_⟩
  rw [get?_foldl_addStructure lowers, last]
  rfl

/-- **A member of staff whose only scope names a structure on the path** passes the check exactly
when that naming remains: the highest structure of its type on the path has it as well. -/
theorem passes_iff (lowers : rt.LowersAscii) {actor : AuthTokenPayload} {naming : Naming}
    {node : AcademicStructure} (target : ScopeTarget) (inTree : InTree s institutionId id)
    (found : s.academicStructures.find? node.uuid = some node)
    (above : AtOrAbove (parentOf s) id node.uuid)
    (operates : assertActorCanOperateInstitution actor institutionId s = .ok ())
    (only : assignedScopesForActor actor institutionId s = [scopeOf rt naming node]) :
    assertActorAssignedScope rt actor institutionId (some id) target s = .ok () ↔
      Exempt actor ∨ Remains rt s id naming node := by
  by_cases exempt : Exempt actor
  · refine ⟨fun _ => .inl exempt, fun _ => ?_⟩
    have exempt : actor.role = .acadidSuperAdmin ∨ actor.role = .registrar ∨
      actor.isApiKey = true := exempt
    unfold assertActorAssignedScope
    rw [operates]
    show (if _ then _ else _) = _
    rw [if_pos exempt]
    rfl
  · obtain ⟨path, top, walked, keyed, highest, is⟩ :=
      scopeTarget_spec lowers inTree found above naming
    have written : path ≠ [] := by
      rintro rfl
      exact absurd is (by simp [ScopeTarget.get?])
    rw [assertActorAssignedScope_iff operates exempt walked written, only]
    simp only [List.mem_singleton, exists_eq_left]
    rw [scopeMatchesTarget_scopeOf lowers (get?_merge keyed is target)]
    constructor
    · rintro ⟨readable, same⟩
      refine .inr ⟨readable, fun other also => ?_⟩
      obtain ⟨nodes, line⟩ := exists_path inTree
      obtain rfl := Option.some.inj
        ((line.highest_iff.mpr highest).symm.trans (line.highest_iff.mpr also))
      exact same
    · rintro (now | ⟨readable, same⟩)
      · exact absurd now exempt
      · exact ⟨readable, same top highest⟩

/-! ### A department within a department -/

def outerId : Uuid := "c0000000-0000-4000-8000-000000000001"

def innerId : Uuid := "c0000000-0000-4000-8000-000000000002"

def structureOf (uuid : Uuid) (parentId : Option Uuid) (type : AcademicStructureType)
    (name : String) : AcademicStructure where
  uuid := uuid
  institutionId := schoolId
  parentId := parentId
  type := type
  name := name
  code := none
  creditUnits := none
  metadata := none
  status := .active
  createdById := none

/-- The structure at the root. -/
def outer (type : AcademicStructureType) : AcademicStructure :=
  structureOf outerId none type "Sciences"

/-- The department under it. -/
def inner : AcademicStructure :=
  structureOf innerId (some outerId) .department "Physics"

/-- The school with its staff, and a department under a structure of the type. -/
def twoStructures (type : AcademicStructureType) : Store :=
  { staffedSchool with
    academicStructures := ⟨[outer type, inner], by cases type <;> decide⟩ }

/-- An officer whose only scope names the department. -/
def officerOf (naming : Naming) : AuthTokenPayload :=
  { mathematicsOfficer with assignedScopes := some (.arr [scopeOf .plain naming inner]) }

theorem officer_only (naming : Naming) (s : Store) :
    assignedScopesForActor (officerOf naming) schoolId s = [scopeOf .plain naming inner] := rfl

theorem mem_twoStructures {type : AcademicStructureType} {id : Uuid} {node : AcademicStructure}
    (found : (twoStructures type).academicStructures.find? id = some node) :
    node = outer type ∨ node = inner :=
  List.mem_pair.mp (Table.find?_mem found)

/-- Only the department hangs under another structure. -/
theorem parentOf_twoStructures {type : AcademicStructureType} {id above : Uuid}
    (hangs : parentOf (twoStructures type) id = some above) : id = innerId ∧ above = outerId := by
  obtain ⟨node, found, parent⟩ := find?_of_parentOf hangs
  have key := Table.find?_key found
  rcases mem_twoStructures found with rfl | rfl
  · exact absurd parent (by simp [outer, structureOf])
  · exact ⟨key.symm, (Option.some.inj parent).symm⟩

theorem twoStructures_tree (type : AcademicStructureType) : Tree (twoStructures type) := by
  refine Tree.of_acyclic (fun id cycle => ?_) fun node inside above hangs => ?_
  · obtain ⟨next, first, -⟩ := Relation.TransGen.head'_iff.mp cycle
    obtain ⟨before, -, last⟩ := Relation.TransGen.tail'_iff.mp cycle
    have below := (parentOf_twoStructures first).1
    have ends := (parentOf_twoStructures last).2
    exact absurd (below.symm.trans ends) (by decide)
  · rcases List.mem_pair.mp inside with rfl | rfl
    · exact absurd hangs (by simp [outer, structureOf])
    · obtain rfl := Option.some.inj hangs
      exact ⟨outer type, rfl, rfl⟩

/-- **The officer of a department in a faculty** passes for that department. -/
theorem passes_in_faculty :
    assertActorAssignedScope .plain (officerOf .byId) schoolId (some innerId) []
      (twoStructures .faculty) = .ok () := by
  have found : (twoStructures .faculty).academicStructures.find? inner.uuid = some inner := rfl
  refine (passes_iff Runtime.plain_lowersAscii []
    (inTree_of_tree (twoStructures_tree .faculty) ⟨inner, rfl, rfl⟩) found .refl
    (by decide) (officer_only .byId _)).mpr (.inr ⟨by decide, ?_⟩)
  rintro top ⟨there, -, type, -⟩
  rcases mem_twoStructures there with rfl | rfl
  · exact absurd type (by decide)
  · rfl

/-- **The officer of a department within a department** is refused: the outer one has taken its
place in the target. -/
theorem passes_fails :
    ¬ ∀ (rt : Runtime) (s : Store) (institutionId id : Uuid) (actor : AuthTokenPayload)
      (naming : Naming) (node : AcademicStructure), rt.LowersAscii → Tree s →
        Has s institutionId id → s.academicStructures.find? node.uuid = some node →
        AtOrAbove (parentOf s) id node.uuid →
        assertActorCanOperateInstitution actor institutionId s = .ok () →
        assignedScopesForActor actor institutionId s = [scopeOf rt naming node] →
          assertActorAssignedScope rt actor institutionId (some id) [] s = .ok () := by
  intro passes
  have operates : assertActorCanOperateInstitution (officerOf .byId) schoolId
      (twoStructures .department) = .ok () := by decide
  have here := passes .plain (twoStructures .department) schoolId innerId (officerOf .byId) .byId
    inner Runtime.plain_lowersAscii (twoStructures_tree .department) ⟨inner, rfl, rfl⟩ rfl .refl
    operates (officer_only .byId _)
  have refused : assertActorAssignedScope .plain (officerOf .byId) schoolId (some innerId) []
      (twoStructures .department) ≠ .ok () := by
    decide +kernel
  exact refused here

end AcadID.ScopePaths
