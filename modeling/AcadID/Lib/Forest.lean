/-
**Forests given by a parent for each node.**

A function `parent` gives each node its parent, or none to a root.

* `Forest` — no node is its own ancestor; `Rooted` — a node has a finite path to a root, and
  `rooted_of_forest` — **in a forest with finitely many nodes every node has one**.
* `hang` — a node hung under another, or made a root; `forest_hang_iff` — **the result is a forest
  exactly if the node is not at or above its new parent**.
-/

import Mathlib.Data.Set.Finite.Lemmas
import Mathlib.Logic.Relation
import Mathlib.Order.WellFoundedSet

namespace AcadID.Lib

section Forest

variable {α : Type*} (parent : α → Option α)

/-- The second node is the parent of the first. -/
def IsParent (a b : α) : Prop :=
  parent a = some b

/-- The second node is the first, or an ancestor of it. -/
def AtOrAbove : α → α → Prop :=
  Relation.ReflTransGen (IsParent parent)

/-- No node is its own ancestor. -/
def Forest : Prop :=
  ∀ a, ¬ Relation.TransGen (IsParent parent) a a

/-- There is a finite path from the node to a root. -/
inductive Rooted : α → Prop
  | root {a : α} (top : parent a = none) : Rooted a
  | child {a b : α} (hangs : parent a = some b) (above : Rooted b) : Rooted a

variable {parent}

/-- **In a forest every node has a finite path to a root**, when only finitely many have parents. -/
theorem rooted_of_forest (forest : Forest parent) {nodes : Set α} (finite : nodes.Finite)
    (closed : ∀ a, parent a ≠ none → a ∈ nodes) (a : α) : Rooted parent a := by
  let below : α → α → Prop := fun b a => Relation.TransGen (IsParent parent) a b
  have order : IsStrictOrder α below :=
    { irrefl := forest
      trans := fun _ _ _ first second => second.trans first }
  by_cases inside : a ∈ nodes
  · refine finite.wellFoundedOn (r := below) |>.induction inside fun node _ ih => ?_
    cases up : parent node with
    | none => exact .root up
    | some b =>
      refine .child up ?_
      by_cases there : b ∈ nodes
      · exact ih b there (.single up)
      · exact .root (not_not.mp fun more => there (closed b more))
  · exact .root (not_not.mp fun more => inside (closed a more))

/-- A node without children is at or above no other. -/
theorem not_atOrAbove_of_new {node : α} (new : ∀ a, parent a ≠ some node) {p : α}
    (other : p ≠ node) :
    ¬ AtOrAbove parent p node := by
  intro path
  rcases Relation.ReflTransGen.cases_tail path with same | ⟨a, _, last⟩
  · exact other same.symm
  · exact new a last

/-! ### Hanging a node elsewhere -/

section Hang

variable [DecidableEq α] {node : α} {above : Option α}

variable (parent node above) in
/-- The forest with the node hung under another, or made a root. -/
def hang : α → Option α :=
  Function.update parent node above

theorem hang_self : hang parent node above node = above :=
  Function.update_self ..

theorem hang_of_ne {a : α} (other : a ≠ node) : hang parent node above a = parent a :=
  Function.update_of_ne other ..

/-- Paths up to the node are the same after it is hung elsewhere. -/
theorem atOrAbove_hang {a : α} : AtOrAbove (hang parent node above) a node ↔
    AtOrAbove parent a node := by
  constructor
  · intro path
    induction path using Relation.ReflTransGen.head_induction_on with
    | refl => exact .refl
    | @head a b first _ ih =>
      by_cases here : a = node
      · rw [here]
        exact .refl
      · exact .head (show parent a = some b from (hang_of_ne here).symm.trans first) ih
  · intro path
    induction path using Relation.ReflTransGen.head_induction_on with
    | refl => exact .refl
    | @head a b first _ ih =>
      by_cases here : a = node
      · rw [here]
        exact .refl
      · exact .head (show hang parent node above a = some b from (hang_of_ne here).trans first) ih

/-- An ancestor after the node was hung elsewhere was one before, or is reached through the node. -/
theorem transGen_hang {a b : α} (path : Relation.TransGen (IsParent (hang parent node above)) a b) :
    Relation.TransGen (IsParent parent) a b ∨ AtOrAbove (hang parent node above) a node ∧
      ∃ p, above = some p ∧ AtOrAbove (hang parent node above) p b := by
  induction path using Relation.TransGen.head_induction_on with
  | @single a first =>
    by_cases here : a = node
    · subst here
      exact .inr ⟨.refl, b, hang_self.symm.trans first, .refl⟩
    · exact .inl (.single (show parent a = some b from (hang_of_ne here).symm.trans first))
  | @head a c first rest ih =>
    by_cases here : a = node
    · subst here
      exact .inr ⟨.refl, c, hang_self.symm.trans first, rest.to_reflTransGen⟩
    · rcases ih with old | ⟨up, p, under, down⟩
      · exact .inl (old.head (show parent a = some c from (hang_of_ne here).symm.trans first))
      · exact .inr ⟨.head first up, p, under, down⟩

/-- **A node may be hung under any node that it is not at or above.** -/
theorem forest_hang_iff (forest : Forest parent) :
    Forest (hang parent node above) ↔ ∀ p, above = some p → ¬ AtOrAbove parent p node := by
  constructor
  · rintro kept p rfl path
    have back : AtOrAbove (hang parent node (some p)) p node := atOrAbove_hang.mpr path
    exact kept node (.head' hang_self back)
  · intro clear a cycle
    rcases transGen_hang cycle with old | ⟨up, p, under, down⟩
    · exact forest a old
    · exact clear p under (atOrAbove_hang.mp (down.trans up))

end Hang

end Forest

end AcadID.Lib
