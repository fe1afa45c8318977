/-
**What a stable sort depends on.**

A comparison that is total and transitive may tie elements that differ.

* `Tied` — the comparison goes both ways.
* `filter_insertionSort` — the elements tied with one keep their order.
* `eq_of_tied` — two sorted lists are the same if they list each class of tied elements alike.
* `insertionSort_eq_iff` — **two lists are sorted alike exactly when they list each class of tied
  elements alike.**
-/

import Mathlib.Data.List.Sort
import Mathlib.Data.List.TakeWhile

namespace AcadID.Lib

variable {α : Type} (r : α → α → Prop)

/-- The comparison does not tell the elements apart. -/
def Tied (a b : α) : Prop :=
  r a b ∧ r b a

instance [DecidableRel r] : DecidableRel (Tied r) :=
  fun a b => inferInstanceAs (Decidable (r a b ∧ r b a))

variable {r}

theorem tied_comm {a b : α} : Tied r a b ↔ Tied r b a :=
  and_comm

theorem tied_refl [Std.Total r] (a : α) : Tied r a a := by
  rcases Std.Total.total (r := r) a a with goes | goes <;> exact ⟨goes, goes⟩

theorem Tied.trans [IsTrans α r] {a b c : α} (first : Tied r a b) (second : Tied r b c) :
    Tied r a c :=
  ⟨IsTrans.trans _ _ _ first.1 second.1, IsTrans.trans _ _ _ second.2 first.2⟩

/-! ### Stability -/

section Stable

variable [DecidableRel r] [IsTrans α r]

/-- An element inserted in front of those that it is tied with. -/
theorem filter_orderedInsert (k a : α) (l : List α) :
    (l.orderedInsert r a).filter (fun b => Tied r k b) =
      (a :: l).filter (fun b => Tied r k b) := by
  rw [List.orderedInsert_eq_take_drop]
  by_cases tied : Tied r k a
  · -- What the insertion passes over is tied with nothing that `a` is tied with.
    have passed : (l.takeWhile fun b => ¬ r a b).filter (fun b => Tied r k b) = [] := by
      rw [List.filter_eq_nil_iff]
      intro b before too
      have later := List.mem_takeWhile_imp before
      exact of_decide_eq_true later ((tied_comm.mp tied).trans (of_decide_eq_true too)).1
    have split : l.filter (fun b => Tied r k b) =
        (l.dropWhile fun b => ¬ r a b).filter (fun b => Tied r k b) := by
      conv_lhs => rw [← List.takeWhile_append_dropWhile (p := fun b => ¬ r a b) (l := l),
        List.filter_append, passed, List.nil_append]
    rw [List.filter_append, passed, List.nil_append, List.filter_cons, List.filter_cons, split]
  · rw [List.filter_append, List.filter_cons_of_neg (by simpa using tied),
      List.filter_cons_of_neg (by simpa using tied), ← List.filter_append,
      List.takeWhile_append_dropWhile]

/-- **The sort is stable**: the elements tied with one keep their order. -/
theorem filter_insertionSort (k : α) (l : List α) :
    (l.insertionSort r).filter (fun b => Tied r k b) = l.filter fun b => Tied r k b := by
  induction l with
  | nil => rfl
  | cons a l ih =>
    rw [List.insertionSort_cons, filter_orderedInsert, List.filter_cons, List.filter_cons, ih]

end Stable

/-! ### Sorted lists -/

section Sorted

variable [DecidableRel r] [Std.Total r]

/-- The first of the list is the first of its class. -/
theorem head_filter_tied (a : α) (l : List α) :
    (a :: l).filter (fun b => Tied r a b) = a :: l.filter fun b => Tied r a b :=
  List.filter_cons_of_pos (by simpa using tied_refl a)

/-- **Sorted lists that list each class of tied elements alike are the same.** -/
theorem eq_of_tied {l m : List α} (left : l.Pairwise r) (right : m.Pairwise r)
    (alike : ∀ k, l.filter (fun b => Tied r k b) = m.filter fun b => Tied r k b) : l = m := by
  induction l generalizing m with
  | nil =>
    cases m with
    | nil => rfl
    | cons b m =>
      have here := alike b
      rw [head_filter_tied] at here
      exact absurd here (by simp)
  | cons a l ih =>
    cases m with
    | nil =>
      have here := alike a
      rw [head_filter_tied] at here
      exact absurd here (by simp)
    | cons b m =>
      -- Each head is listed by the other, so that they are tied, and they come first.
      have first : a ∈ b :: m := by
        have inside : a ∈ (b :: m).filter fun c => Tied r a c := by
          rw [← alike a, head_filter_tied]
          exact List.mem_cons_self
        exact (List.mem_filter.mp inside).1
      have second : b ∈ a :: l := by
        have inside : b ∈ (a :: l).filter fun c => Tied r b c := by
          rw [alike b, head_filter_tied]
          exact List.mem_cons_self
        exact (List.mem_filter.mp inside).1
      have below : r a b := by
        rcases List.mem_cons.mp second with same | later
        · rw [same]
          exact (tied_refl a).1
        · exact List.rel_of_pairwise_cons left later
      have above : r b a := by
        rcases List.mem_cons.mp first with same | later
        · rw [same]
          exact (tied_refl b).1
        · exact List.rel_of_pairwise_cons right later
      have heads := alike a
      rw [head_filter_tied, List.filter_cons_of_pos (by simpa using ⟨below, above⟩)] at heads
      obtain ⟨rfl, -⟩ := List.cons.inj heads
      rw [ih left.of_cons right.of_cons fun k => ?_]
      have whole := alike k
      simp only [List.filter_cons] at whole
      split at whole
      · exact (List.cons.inj whole).2
      · exact whole

variable [IsTrans α r]

/-- **Two lists are sorted alike exactly when they list each class of tied elements alike.** -/
theorem insertionSort_eq_iff {l m : List α} :
    l.insertionSort r = m.insertionSort r ↔
      ∀ k, l.filter (fun b => Tied r k b) = m.filter fun b => Tied r k b := by
  constructor
  · intro same k
    rw [← filter_insertionSort k l, same, filter_insertionSort]
  · intro alike
    refine eq_of_tied (List.pairwise_insertionSort r l) (List.pairwise_insertionSort r m) ?_
    intro k
    rw [filter_insertionSort, filter_insertionSort, alike]

end Sorted

end AcadID.Lib
