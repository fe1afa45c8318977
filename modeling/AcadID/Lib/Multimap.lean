/-
**Multimaps: a map from labels to sets of members, kept without empty sets.**

* `attach` adds a member under a label, making the label's set if there is none; `detach` takes a
  member out from under a label, dropping the label with its last member.
* `mem_attachAll`, `mem_detachAll` — what one member attached under, or detached from, a list of
  labels leaves under each label.
* `NoneEmpty` — no label is left with an empty set; every operation keeps it.
-/

import Mathlib.Data.List.AList

set_option linter.unusedSectionVars false

namespace AcadID.Lib

section Multimap

variable {τ κ : Type*} [DecidableEq τ] [DecidableEq κ]

/-- A map from labels to sets, each set listed without repetition. -/
abbrev Multimap (τ κ : Type*) := AList fun _ : τ => List κ

/-- The members under a label: none where the label has no set. -/
def members (label : τ) (index : Multimap τ κ) : List κ :=
  (index.lookup label).getD []

/-- No label has an empty set. -/
def NoneEmpty (index : Multimap τ κ) : Prop :=
  ∀ label, index.lookup label ≠ some []

def attach (member : κ) (label : τ) (index : Multimap τ κ) : Multimap τ κ :=
  index.insert label ((members label index).insert member)

def detach (member : κ) (label : τ) (index : Multimap τ κ) : Multimap τ κ :=
  match index.lookup label with
  | none => index
  | some found =>
      match found.filter (· ≠ member) with
      | [] => index.erase label
      | kept => index.insert label kept

def attachAll (member : κ) (labels : List τ) (index : Multimap τ κ) : Multimap τ κ :=
  labels.foldl (fun index label => attach member label index) index

def detachAll (member : κ) (labels : List τ) (index : Multimap τ κ) : Multimap τ κ :=
  labels.foldl (fun index label => detach member label index) index

@[simp] theorem members_empty (label : τ) : members label (∅ : Multimap τ κ) = [] := by
  unfold members
  rw [AList.lookup_empty, Option.getD_none]

theorem noneEmpty_empty : NoneEmpty (∅ : Multimap τ κ) := by
  intro label
  rw [AList.lookup_empty]
  exact Option.some_ne_none [] ∘ Eq.symm

theorem members_insert (label other : τ) (set : List κ) (index : Multimap τ κ) :
    members other (index.insert label set) =
      if other = label then set else members other index := by
  unfold members
  by_cases same : other = label
  · rw [if_pos same, same, AList.lookup_insert, Option.getD_some]
  · rw [if_neg same, AList.lookup_insert_ne same]

theorem members_erase (label other : τ) (index : Multimap τ κ) :
    members other (index.erase label) = if other = label then [] else members other index := by
  unfold members
  by_cases same : other = label
  · rw [if_pos same, same, AList.lookup_erase, Option.getD_none]
  · rw [if_neg same, AList.lookup_erase_ne same]

/-! ### One label -/

theorem mem_attach (member other : κ) (label under : τ) (index : Multimap τ κ) :
    other ∈ members under (attach member label index) ↔
      (under = label ∧ other = member) ∨ other ∈ members under index := by
  unfold attach
  rw [members_insert]
  by_cases same : under = label
  · rw [if_pos same, List.mem_insert_iff, same]
    exact or_congr (and_iff_right rfl).symm Iff.rfl
  · rw [if_neg same]
    exact ⟨Or.inr, fun either => either.resolve_left fun both => same both.1⟩

theorem noneEmpty_attach (member : κ) (label : τ) {index : Multimap τ κ}
    (none_empty : NoneEmpty index) : NoneEmpty (attach member label index) := by
  intro under
  unfold attach
  by_cases same : under = label
  · rw [same, AList.lookup_insert]
    intro empty
    have present : member ∈ (members label index).insert member := List.mem_insert_self
    rw [Option.some.inj empty] at present
    exact List.not_mem_nil present
  · rw [AList.lookup_insert_ne same]
    exact none_empty under

/-- Detaching filters the label's set and leaves the others. -/
theorem members_detach (member : κ) (label under : τ) (index : Multimap τ κ) :
    members under (detach member label index) =
      if under = label then (members under index).filter (· ≠ member)
      else members under index := by
  unfold detach
  cases found : index.lookup label with
  | none =>
      by_cases same : under = label
      · have none_there : members under index = [] := by
          unfold members
          rw [same, found, Option.getD_none]
        rw [if_pos same, none_there, List.filter_nil]
      · rw [if_neg same]
  | some set =>
      have there : members label index = set := by
        unfold members
        rw [found, Option.getD_some]
      dsimp only
      cases kept : set.filter (· ≠ member) with
      | nil =>
          dsimp only
          rw [members_erase]
          by_cases same : under = label
          · rw [if_pos same, if_pos same, same, there, kept]
          · rw [if_neg same, if_neg same]
      | cons first rest =>
          dsimp only
          rw [members_insert]
          by_cases same : under = label
          · rw [if_pos same, if_pos same, same, there, kept]
          · rw [if_neg same, if_neg same]

theorem mem_detach (member other : κ) (label under : τ) (index : Multimap τ κ) :
    other ∈ members under (detach member label index) ↔
      other ∈ members under index ∧ ¬ (under = label ∧ other = member) := by
  rw [members_detach]
  by_cases same : under = label
  · rw [if_pos same, List.mem_filter, decide_eq_true_eq]
    exact and_congr Iff.rfl (not_congr (and_iff_right same).symm)
  · rw [if_neg same]
    exact (and_iff_left fun both => same both.1).symm

theorem noneEmpty_detach (member : κ) (label : τ) {index : Multimap τ κ}
    (none_empty : NoneEmpty index) : NoneEmpty (detach member label index) := by
  intro under
  unfold detach
  cases found : index.lookup label with
  | none => exact none_empty under
  | some set =>
      dsimp only
      cases kept : set.filter (· ≠ member) with
      | nil =>
          dsimp only
          by_cases same : under = label
          · rw [same, AList.lookup_erase]
            exact Option.some_ne_none [] ∘ Eq.symm
          · rw [AList.lookup_erase_ne same]
            exact none_empty under
      | cons first rest =>
          dsimp only
          by_cases same : under = label
          · rw [same, AList.lookup_insert]
            exact fun empty => List.cons_ne_nil first rest (Option.some.inj empty)
          · rw [AList.lookup_insert_ne same]
            exact none_empty under

/-! ### A list of labels -/

theorem mem_attachAll (member other : κ) (labels : List τ) (under : τ) (index : Multimap τ κ) :
    other ∈ members under (attachAll member labels index) ↔
      (under ∈ labels ∧ other = member) ∨ other ∈ members under index := by
  unfold attachAll
  induction labels generalizing index with
  | nil => simp only [List.foldl_nil, List.not_mem_nil, false_and, false_or]
  | cons label labels ih =>
      rw [List.foldl_cons, ih, mem_attach, List.mem_cons, or_and_right, ← or_assoc]
      exact or_congr or_comm Iff.rfl

theorem mem_detachAll (member other : κ) (labels : List τ) (under : τ) (index : Multimap τ κ) :
    other ∈ members under (detachAll member labels index) ↔
      other ∈ members under index ∧ ¬ (under ∈ labels ∧ other = member) := by
  unfold detachAll
  induction labels generalizing index with
  | nil => simp only [List.foldl_nil, List.not_mem_nil, false_and, not_false_eq_true, and_true]
  | cons label labels ih =>
      rw [List.foldl_cons, ih, mem_detach, List.mem_cons, and_assoc, or_and_right, not_or]

theorem noneEmpty_attachAll (member : κ) (labels : List τ) {index : Multimap τ κ}
    (none_empty : NoneEmpty index) : NoneEmpty (attachAll member labels index) := by
  unfold attachAll
  induction labels generalizing index with
  | nil => exact none_empty
  | cons label labels ih => exact ih (noneEmpty_attach member label none_empty)

theorem noneEmpty_detachAll (member : κ) (labels : List τ) {index : Multimap τ κ}
    (none_empty : NoneEmpty index) : NoneEmpty (detachAll member labels index) := by
  unfold detachAll
  induction labels generalizing index with
  | nil => exact none_empty
  | cons label labels ih => exact ih (noneEmpty_detach member label none_empty)

end Multimap

end AcadID.Lib
