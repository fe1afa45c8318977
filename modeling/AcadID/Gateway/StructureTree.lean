/-
**The tree of academic structures.**

Pools of academic setup over any lookup of institutions.

* `Tree` — no structure is its own ancestor, parents are structures of the same institution, and
  every structure has a finite path to a root.
* `parentOf_commit` — a transaction hangs one structure, or none.
* `tree_iff` — **the structures are a tree in every state of a run exactly if no update that goes
  through hangs a structure under itself or one of its descendants**; only the former is checked.
* `tree_fails` — two structures, each hung under the other.
-/

import AcadID.Gateway.AcademicSetup
import AcadID.Gateway.BatchHistory
import AcadID.Lib.Forest
import AcadID.Lib.Run

namespace AcadID.StructureTree

open Lib AcademicSetup

abbrev SetupPool := Pool Store SetupPlan SetupResponse

/-- The parent of a structure. -/
def parentOf (s : Store) (id : Uuid) : Option Uuid :=
  (s.academicStructures.find? id).bind (·.parentId)

/-- A structure of the institution has the uuid. -/
def Has (s : Store) (institutionId id : Uuid) : Prop :=
  ∃ row, s.academicStructures.find? id = some row ∧ row.institutionId = institutionId

/-- **The structures are a tree of each institution.** -/
structure Tree (s : Store) : Prop where
  acyclic : Forest (parentOf s)
  within : ∀ row ∈ s.academicStructures.rows, ∀ id, row.parentId = some id →
    Has s row.institutionId id
  rooted : ∀ row ∈ s.academicStructures.rows, Rooted (parentOf s) row.uuid

/-- An update that goes through hangs no structure under itself or one of its descendants. -/
def HangsClear (lookup : Institutions.Lookup) (rt : Runtime) (p : SetupPool)
    (e : Turn SetupCall) : Prop :=
  ∀ auth input existing res t, (setupMethodsThrough lookup rt).committing p e =
      some (.updateStructure auth input existing, res, t) →
    ∀ id, input.parentId = some (some id) → ¬ AtOrAbove (parentOf p.store) id existing.uuid

/-! ### The tree of a store -/

theorem parentOf_of_mem {s : Store} {row : AcademicStructure}
    (inside : row ∈ s.academicStructures.rows) : parentOf s row.uuid = row.parentId := by
  unfold parentOf
  rw [Table.find?_eq_some.mpr ⟨inside, rfl⟩]
  rfl

theorem find?_of_parentOf {s : Store} {id above : Uuid} (hangs : parentOf s id = some above) :
    ∃ row, s.academicStructures.find? id = some row ∧ row.parentId = some above :=
  Option.bind_eq_some_iff.mp hangs

/-- Every structure has a path to a root, if none is its own ancestor. -/
theorem Tree.of_acyclic {s : Store} (acyclic : Forest (parentOf s))
    (within : ∀ row ∈ s.academicStructures.rows, ∀ id, row.parentId = some id →
      Has s row.institutionId id) : Tree s where
  acyclic := acyclic
  within := within
  rooted := by
    intro row _
    let nodes : List Uuid := s.academicStructures.rows.map (·.uuid)
    refine rooted_of_forest acyclic
      (show Set.Finite { id | id ∈ nodes } from nodes.finite_toSet) ?_ row.uuid
    intro id hung
    obtain ⟨above, hangs⟩ := Option.ne_none_iff_exists'.mp hung
    obtain ⟨row, found, -⟩ := find?_of_parentOf hangs
    exact List.mem_map.mpr ⟨row, Table.find?_mem found, Table.find?_key found⟩

/-- A structure that is not there is no parent. -/
theorem not_parent_of_absent {s : Store} (tree : Tree s) {id : Uuid}
    (absent : s.academicStructures.find? id = none) (child : Uuid) :
    parentOf s child ≠ some id := by
  intro hangs
  obtain ⟨row, found, above⟩ := find?_of_parentOf hangs
  obtain ⟨parent, there, -⟩ := tree.within row (Table.find?_mem found) id above
  rw [absent] at there
  exact absurd there (by simp)

/-! ### What a transaction does to it -/

/-- **A transaction adds one structure, changes one in place, or leaves them all.** -/
theorem structures_cases {rt : Runtime} {plan : SetupPlan} {s t : Store} {res : SetupResponse}
    (written : setupCommit rt plan s = .ok (res, t)) :
    (t.academicStructures = s.academicStructures ∧
        (∀ env auth input institution, plan ≠ .createStructure env auth input institution) ∧
        ∀ auth input existing, plan ≠ .updateStructure auth input existing) ∨
      (∃ env auth input institution row, plan = .createStructure env auth input institution ∧
        row.uuid = env.uuid ∧ row.institutionId = institution.uuid ∧
        row.parentId = input.parentId ∧
        s.academicStructures.insert row = some t.academicStructures) ∨
      ∃ auth input existing old f, ∃ keeps : ∀ r : AcademicStructure, (f r).uuid = r.uuid,
        plan = .updateStructure auth input existing ∧
        (∀ r, (f r).institutionId = r.institutionId ∧
          (f r).parentId = input.parentId.getD r.parentId) ∧
        s.academicStructures.find? existing.uuid = some old ∧
        t.academicStructures = s.academicStructures.update existing.uuid f keeps := by
  cases plan with
  | createSession env auth input institution =>
    obtain ⟨⟨row, u⟩, created, same⟩ := map_eq_ok.mp written
    obtain ⟨-, rfl⟩ := Prod.mk.inj same
    obtain ⟨-, sessions, -, rfl⟩ := createSessionCommit_spec created
    exact .inl ⟨rfl, by simp, by simp⟩
  | updateSession auth input existing =>
    obtain ⟨⟨row, u⟩, updated, same⟩ := map_eq_ok.mp written
    obtain ⟨-, rfl⟩ := Prod.mk.inj same
    obtain ⟨old, f, keeps, -, -, -, rfl⟩ := updateSessionCommit_spec updated
    exact .inl ⟨rfl, by simp, by simp⟩
  | createRuleSet env auth input institution =>
    obtain ⟨⟨row, u⟩, created, same⟩ := map_eq_ok.mp written
    obtain ⟨-, rfl⟩ := Prod.mk.inj same
    obtain ⟨ruleSets, rfl⟩ := createRuleSetCommit_spec created
    exact .inl ⟨rfl, by simp, by simp⟩
  | updateRuleSet env auth input existing =>
    obtain ⟨⟨row, u⟩, updated, same⟩ := map_eq_ok.mp written
    obtain ⟨-, rfl⟩ := Prod.mk.inj same
    obtain ⟨ruleSets, rfl⟩ := updateRuleSetCommit_spec updated
    exact .inl ⟨rfl, by simp, by simp⟩
  | createStructure env auth input institution =>
    obtain ⟨⟨row, u⟩, created, same⟩ := map_eq_ok.mp written
    obtain ⟨-, rfl⟩ := Prod.mk.inj same
    obtain ⟨⟨named, owned, hung⟩, structures, inserted, rfl⟩ := createStructureCommit_spec created
    exact .inr (.inl ⟨env, auth, input, institution, row, rfl, named, owned, hung, inserted⟩)
  | updateStructure auth input existing =>
    obtain ⟨⟨row, u⟩, updated, same⟩ := map_eq_ok.mp written
    obtain ⟨-, rfl⟩ := Prod.mk.inj same
    obtain ⟨old, f, keeps, made, found, rfl⟩ := updateStructureCommit_spec updated
    exact .inr (.inr ⟨auth, input, existing, old, f, keeps, rfl, made, found, rfl⟩)

/-- A new structure hangs under its parent. -/
theorem parentOf_insert {s t : Store} {row : AcademicStructure}
    (inserted : s.academicStructures.insert row = some t.academicStructures) :
    parentOf t = hang (parentOf s) row.uuid row.parentId := by
  funext id
  unfold parentOf
  rw [Table.find?_insert inserted]
  by_cases here : id = row.uuid
  · rw [if_pos here.symm, here, hang_self]
    rfl
  · rw [if_neg (Ne.symm here), hang_of_ne here]

/-- A structure changed in place hangs where the change puts it. -/
theorem parentOf_update {s t : Store} {id : Uuid} {old : AcademicStructure}
    {f : AcademicStructure → AcademicStructure} {keeps : ∀ r, (f r).uuid = r.uuid}
    (found : s.academicStructures.find? id = some old)
    (changed : t.academicStructures = s.academicStructures.update id f keeps) :
    parentOf t = hang (parentOf s) id (f old).parentId := by
  funext other
  unfold parentOf
  rw [changed]
  by_cases here : other = id
  · rw [here, Table.find?_update_self found, hang_self]
    rfl
  · rw [Table.find?_update, if_neg (Ne.symm here), hang_of_ne here]

/-- Structures stay where they are, in the institution they are of. -/
theorem has_commit {rt : Runtime} {plan : SetupPlan} {s t : Store} {res : SetupResponse}
    (written : setupCommit rt plan s = .ok (res, t)) {institutionId id : Uuid}
    (has : Has s institutionId id) : Has t institutionId id := by
  obtain ⟨row, found, owned⟩ := has
  unfold Has
  rcases structures_cases written with ⟨same, -⟩ |
    ⟨env, auth, input, institution, new, -, -, -, -, inserted⟩ |
    ⟨auth, input, existing, old, f, keeps, -, made, -, changed⟩
  · rw [same]
    exact ⟨row, found, owned⟩
  · refine ⟨row, ?_, owned⟩
    rw [Table.find?_insert inserted, if_neg ?_]
    · exact found
    · exact Table.find?_key found ▸
        Ne.symm ((Table.insert_eq_some.mp inserted).1 row (Table.find?_mem found))
  · rw [changed, Table.find?_update]
    by_cases here : existing.uuid = id
    · subst here
      rw [if_pos rfl, found]
      exact ⟨f row, rfl, (made row).1.trans owned⟩
    · rw [if_neg here]
      exact ⟨row, found, owned⟩

/-! ### What plans in flight have read -/

/-- The parent that a plan names is a structure of the institution that it writes to. -/
def PlanFits (plan : SetupPlan) (s : Store) : Prop :=
  match plan with
  | .createStructure _ _ input institution =>
    ∀ id, input.parentId = some id → Has s institution.uuid id
  | .updateStructure _ input existing => Has s existing.institutionId existing.uuid ∧
    ∀ id, input.parentId = some (some id) → Has s existing.institutionId id
  | _ => True

theorem has_of_assertParentStructure {institutionId : Uuid} {parentId : Option Uuid} {s : Store}
    (checked : assertParentStructure institutionId parentId s = .ok ()) {id : Uuid}
    (named : parentId = some id) : Has s institutionId id := by
  subst named
  have belongs := require_eq_ok.mp checked
  cases found : s.academicStructures.find? id with
  | none => simp [found] at belongs
  | some row => exact ⟨row, found, by simpa [found] using belongs⟩

/-- The checks establish it. -/
theorem planFits_of_check {lookup : Institutions.Lookup} {rt : Runtime} {call : SetupCall}
    {s : Store} {plan : SetupPlan} (checked : setupCheckThrough lookup rt call s = .ok plan) :
    PlanFits plan s := by
  cases call with
  | createAcademicSession env auth body =>
    obtain ⟨input, -, rest⟩ := bind_eq_ok.mp checked
    obtain ⟨institution, -, same⟩ := bind_eq_ok.mp rest
    obtain rfl := Except.ok.inj same
    trivial
  | updateAcademicSession env auth id body =>
    obtain ⟨input, -, rest⟩ := bind_eq_ok.mp checked
    obtain ⟨existing, -, rest⟩ := bind_eq_ok.mp rest
    obtain ⟨institution, -, same⟩ := bind_eq_ok.mp rest
    obtain rfl := Except.ok.inj same
    trivial
  | createAcademicStructure env auth body =>
    obtain ⟨input, -, rest⟩ := bind_eq_ok.mp checked
    obtain ⟨institution, -, rest⟩ := bind_eq_ok.mp rest
    obtain ⟨⟨⟩, belongs, same⟩ := bind_eq_ok.mp rest
    obtain rfl := Except.ok.inj same
    exact fun id named => has_of_assertParentStructure belongs named
  | updateAcademicStructure env auth id body =>
    obtain ⟨input, -, rest⟩ := bind_eq_ok.mp checked
    obtain ⟨existing, found, rest⟩ := bind_eq_ok.mp rest
    obtain ⟨institution, -, rest⟩ := bind_eq_ok.mp rest
    obtain ⟨_, -, rest⟩ := bind_eq_ok.mp rest
    obtain ⟨⟨⟩, belongs, same⟩ := bind_eq_ok.mp rest
    obtain rfl := Except.ok.inj same
    have there := orThrow_eq_ok.mp found
    refine ⟨⟨existing, ?_, rfl⟩, fun id named => ?_⟩
    · rw [Table.find?_key there]
      exact there
    · exact has_of_assertParentStructure belongs (by rw [named]; rfl)
  | createGradingRuleSet env auth body =>
    obtain ⟨input, -, rest⟩ := bind_eq_ok.mp checked
    obtain ⟨institution, -, same⟩ := bind_eq_ok.mp rest
    obtain rfl := Except.ok.inj same
    trivial
  | updateGradingRuleSet env auth id body =>
    obtain ⟨input, -, rest⟩ := bind_eq_ok.mp checked
    obtain ⟨existing, -, rest⟩ := bind_eq_ok.mp rest
    obtain ⟨institution, -, same⟩ := bind_eq_ok.mp rest
    obtain rfl := Except.ok.inj same
    trivial

theorem PlanFits.mono {plan : SetupPlan} {s t : Store} (fits : PlanFits plan s)
    (stays : ∀ {institutionId id}, Has s institutionId id → Has t institutionId id) :
    PlanFits plan t := by
  cases plan with
  | createStructure env auth input institution => exact fun id named => stays (fits id named)
  | updateStructure auth input existing =>
    exact ⟨stays fits.1, fun id named => stays (fits.2 id named)⟩
  | createSession | updateSession | createRuleSet | updateRuleSet => trivial

/-! ### One transaction -/

/-- What an update names as its new parent, if anything, is not the structure or below it. -/
def ClearIn (plan : SetupPlan) (s : Store) : Prop :=
  ∀ auth input existing, plan = .updateStructure auth input existing →
    ∀ id, input.parentId = some (some id) → ¬ AtOrAbove (parentOf s) id existing.uuid

/-- **A transaction keeps the structures acyclic exactly if its plan is clear.** -/
theorem acyclic_commit_iff {rt : Runtime} {plan : SetupPlan} {s t : Store} {res : SetupResponse}
    (tree : Tree s) (fits : PlanFits plan s) (written : setupCommit rt plan s = .ok (res, t)) :
    Forest (parentOf t) ↔ ClearIn plan s := by
  rcases structures_cases written with ⟨same, -, other⟩ |
    ⟨env, auth, input, institution, new, rfl, named, -, hung, inserted⟩ |
    ⟨auth, input, existing, old, f, keeps, rfl, made, found, changed⟩
  · have parents : parentOf t = parentOf s := by
      funext id
      unfold parentOf
      rw [same]
    rw [parents]
    exact ⟨fun _ auth input existing plan => absurd plan (other auth input existing),
      fun _ => tree.acyclic⟩
  · rw [parentOf_insert inserted, forest_hang_iff tree.acyclic]
    refine ⟨fun _ auth input existing plan => absurd plan (by simp), fun _ id above => ?_⟩
    have absent : s.academicStructures.find? new.uuid = none := by
      refine Table.find?_eq_none.mpr fun row inside => ?_
      exact (Table.insert_eq_some.mp inserted).1 row inside
    refine not_atOrAbove_of_new (not_parent_of_absent tree absent) fun same => ?_
    obtain ⟨parent, there, -⟩ := fits id (hung.symm.trans above)
    rw [same, absent] at there
    exact absurd there (by simp)
  · rw [parentOf_update found changed, forest_hang_iff tree.acyclic, (made old).2]
    constructor
    · rintro clear _ _ _ ⟨⟩ id named
      exact clear id (by rw [named]; rfl)
    · intro clear id above
      cases named : input.parentId with
      | some parent =>
        rw [named] at above
        obtain rfl : parent = some id := above
        exact clear auth input existing rfl id named
      | none =>
        -- The structure stays where it hangs.
        rw [named] at above
        intro path
        have hangs : parentOf s existing.uuid = some id := by
          unfold parentOf
          rw [found]
          exact above
        exact tree.acyclic existing.uuid (.head' hangs path)

/-- Parents stay in the institution. -/
theorem within_commit {rt : Runtime} {plan : SetupPlan} {s t : Store} {res : SetupResponse}
    (tree : Tree s) (fits : PlanFits plan s) (written : setupCommit rt plan s = .ok (res, t)) :
    ∀ row ∈ t.academicStructures.rows, ∀ id, row.parentId = some id →
      Has t row.institutionId id := by
  intro row inside id above
  refine has_commit written ?_
  rcases structures_cases written with ⟨same, -⟩ |
    ⟨env, auth, input, institution, new, rfl, -, owned, hung, inserted⟩ |
    ⟨auth, input, existing, old, f, keeps, rfl, made, found, changed⟩
  · rw [same] at inside
    exact tree.within row inside id above
  · rw [(Table.insert_eq_some.mp inserted).2] at inside
    rcases List.mem_append.mp inside with before | last
    · exact tree.within row before id above
    · obtain rfl := List.mem_singleton.mp last
      rw [owned]
      exact fits id (hung.symm.trans above)
  · rw [changed] at inside
    rcases Table.mem_update.mp inside with ⟨before, there, here, rfl⟩ | ⟨there, -⟩
    · rw [(made before).1]
      rw [(made before).2] at above
      cases named : input.parentId with
      | none =>
        rw [named] at above
        exact tree.within before there id above
      | some parent =>
        rw [named] at above
        obtain rfl : parent = some id := above
        obtain ⟨⟨row, found', owned⟩, parents⟩ := fits
        rw [← here, Table.find?_eq_some.mpr ⟨there, rfl⟩] at found'
        obtain rfl := Option.some.inj found'
        rw [owned]
        exact parents id named
    · exact tree.within row there id above

/-! ### Runs -/

section Runs

variable {lookup : Institutions.Lookup} {rt : Runtime}

/-- Log entries leave the structures as they are. -/
theorem structures_log (plan : SetupPlan) (res : SetupResponse) (s : Store) :
    (setupLog plan res s).academicStructures = s.academicStructures := by
  rcases setupLog_spec plan res s with same | ⟨event, same⟩
  · rw [same]
  · rw [same]
    rfl

theorem parentOf_congr {s t : Store} (same : t.academicStructures = s.academicStructures) :
    parentOf t = parentOf s := by
  funext id
  unfold parentOf
  rw [same]

theorem has_congr {s t : Store} (same : t.academicStructures = s.academicStructures)
    {institutionId id : Uuid} : Has t institutionId id ↔ Has s institutionId id := by
  unfold Has
  rw [same]

theorem Tree.congr {s t : Store} (tree : Tree s)
    (same : t.academicStructures = s.academicStructures) : Tree t where
  acyclic := by
    rw [parentOf_congr same]
    exact tree.acyclic
  within := by
    rw [same]
    exact fun row inside id above => (has_congr same).mpr (tree.within row inside id above)
  rooted := by
    rw [same, parentOf_congr same]
    exact tree.rooted

/-- A turn keeps the tree, if what it lets through is clear. -/
theorem turn_tree {p : SetupPool} {e : Turn SetupCall} (flight : Method.Flight Tree PlanFits p)
    (clear : HangsClear lookup rt p e) :
    Method.Flight Tree PlanFits ((setupMethodsThrough lookup rt).turn p e) := by
  refine Method.turn_flight (fun c s plan _ checked => planFits_of_check checked) ?_ flight ?_
  · intro plan res s tree
    have same := structures_log plan res s
    exact ⟨tree.congr same, fun other fits => fits.mono fun has => (has_congr same).mpr has⟩
  · intro plan res t goes
    obtain ⟨inFlight, written⟩ := Method.committing_spec goes
    have fits := flight.inFlight plan inFlight
    refine ⟨.of_acyclic ?_ (within_commit flight.store fits written), fun other fits =>
      fits.mono fun has => has_commit written has⟩
    refine (acyclic_commit_iff flight.store fits written).mpr ?_
    rintro auth input existing rfl
    exact clear auth input existing res t goes

/-- A turn that lets through what is not clear leaves no tree. -/
theorem turn_not_tree {p : SetupPool} {e : Turn SetupCall}
    (flight : Method.Flight Tree PlanFits p) (unclear : ¬ HangsClear lookup rt p e) :
    ¬ Tree ((setupMethodsThrough lookup rt).turn p e).store := by
  intro tree
  refine unclear fun auth input existing res t goes => ?_
  obtain ⟨inFlight, written⟩ := Method.committing_spec goes
  have wrote : setupCommit rt (.updateStructure auth input existing) p.store = .ok (res, t) :=
    written
  rw [(Method.turn_of_committing goes).1] at tree
  exact (acyclic_commit_iff flight.store (flight.inFlight _ inFlight) wrote).mp tree.acyclic
    auth input existing rfl

/-- **The structures are a tree in every state of a run exactly if every update that goes through
is clear**, whatever institutions the lookup returns. -/
theorem tree_iff (lookup : Institutions.Lookup) (rt : Runtime) (start : Store)
    (planted : Tree start) (events : List (Turn SetupCall)) :
    Throughout (setupMethodsThrough lookup rt).turn (fun p => Tree p.store) ⟨start, []⟩ events ↔
      Along (setupMethodsThrough lookup rt).turn (HangsClear lookup rt) ⟨start, []⟩ events := by
  have begins : Method.Flight Tree PlanFits (⟨start, []⟩ : SetupPool) :=
    ⟨planted, fun plan inside => absurd inside (by simp)⟩
  exact throughout_iff_of_exact (fun p e flight clear => turn_tree flight clear)
    (fun p flight => flight.store) (fun p e flight unclear => turn_not_tree flight unclear) begins
    events

end Runs

/-! ### Levels and classes -/

def schoolId : Uuid := "10000000-0000-4000-8000-000000000001"

/-- A lookup that finds the school, whatever the reference. -/
def schoolLookup : Institutions.Lookup :=
  fun _ _ s => .ok (s.institutions.find? schoolId)

/-- The structures of the runs. -/
def structureId (n : ℕ) : Uuid :=
  (["20000000-0000-4000-8000-000000000001", "20000000-0000-4000-8000-000000000002"] :
    List Uuid).getD n ""

def createOne (n : ℕ) (parentId : Option Uuid) : Turn SetupCall :=
  .begin (.createAcademicStructure ⟨0, 1, structureId n⟩ BatchHistory.founder
    (Json.fields [("institutionId", some (.str schoolId)), ("type", some (.str "LEVEL")),
      ("name", some (.str "JSS")), ("parentId", parentId.map .str)]))

def hangOne (n : ℕ) (parentId : Uuid) : Turn SetupCall :=
  .begin (.updateAcademicStructure ⟨0, 1, ""⟩ BatchHistory.founder (structureId n)
    (.obj [("parentId", .str parentId)]))

/-- The school without structures. -/
def bareSchool : Store :=
  { Store.empty with institutions := BatchHistory.school.institutions }

theorem bareSchool_tree : Tree bareSchool where
  acyclic := by
    intro id cycle
    obtain ⟨above, hangs, -⟩ := Relation.TransGen.head'_iff.mp cycle
    exact absurd (show none = some above from hangs) (by simp)
  within := fun row inside => absurd inside (by simp [bareSchool, Store.empty, Table.empty])
  rooted := fun row inside => absurd inside (by simp [bareSchool, Store.empty, Table.empty])

/-- Two structures without parents, the second then hung under the first. -/
def hung : List (Turn SetupCall) :=
  [createOne 0 none, .advance 0 .done, createOne 1 none, .advance 1 .done,
    hangOne 1 (structureId 0), .advance 2 .done]

/-- What a turn lets through hangs structures under others that have no parent. -/
def hangsUnderRoot (p : SetupPool) (e : Turn SetupCall) : Bool :=
  match (setupMethodsThrough schoolLookup .plain).committing p e with
  | some (.updateStructure _ input existing, _) =>
    input.parentId.join.all fun id => (parentOf p.store id).isNone && id != existing.uuid
  | _ => true

theorem hangsClear_of_root {p : SetupPool} {e : Turn SetupCall}
    (under : hangsUnderRoot p e = true) : HangsClear schoolLookup .plain p e := by
  intro auth input existing res t goes id named path
  unfold hangsUnderRoot at under
  simp only [goes, named, Option.join_some, Option.all_some] at under
  obtain ⟨top, other⟩ := Bool.and_eq_true_iff.mp under
  rcases Relation.ReflTransGen.cases_head path with same | ⟨above, hangs, -⟩
  · exact absurd same (by simpa using other)
  · rw [show parentOf p.store id = some above from hangs] at top
    exact absurd top (by simp)

/-- The structures are a tree while the second is hung under the first. -/
theorem hung_tree : Throughout (setupMethodsThrough schoolLookup .plain).turn
    (fun p => Tree p.store) ⟨bareSchool, []⟩ hung := by
  refine (tree_iff schoolLookup .plain bareSchool bareSchool_tree hung).mpr ?_
  refine Along.mono (fun p e under => hangsClear_of_root under)
    (show Along _ (fun p e => hangsUnderRoot p e = true) _ _ from ?_)
  decide

/-- The first structure then hung under the second. -/
def knotted : List (Turn SetupCall) :=
  hung ++ [hangOne 0 (structureId 1), .advance 3 .done]

/-- **The structures need not stay a tree**: two of them can be hung under each other. -/
theorem tree_fails :
    ¬ ∀ (lookup : Institutions.Lookup) (rt : Runtime) (start : Store)
      (events : List (Turn SetupCall)), Tree start →
        Throughout (setupMethodsThrough lookup rt).turn (fun p => Tree p.store) ⟨start, []⟩
          events := by
  intro all
  have kept := all schoolLookup .plain bareSchool knotted bareSchool_tree
  have last := throughout_iff_prefixes.mp kept knotted [] (List.append_nil _).symm
  refine last.acyclic (structureId 0) (.head (b := structureId 1) ?_ (.single ?_))
  · show parentOf _ _ = _
    decide
  · show parentOf _ _ = _
    decide

end AcadID.StructureTree
