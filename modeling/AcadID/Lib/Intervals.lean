/-
**Closed intervals in descending order, and what lies between them.**

* `between` — the open intervals from the end of each to the start of the one above it.
* `covered_or_between` — a point from the lowest start to the highest end is in one of the intervals
  or between two of them.
* `covered_iff` — **coverage**: of intervals that do not overlap, it is in one of them exactly when
  it is between no two.
-/

import Mathlib.Order.Interval.Set.Basic

namespace AcadID.Lib.Intervals

variable {α : Type*}

/-- A point in one of the intervals. -/
def Covered [Preorder α] (x : α) (intervals : List (α × α)) : Prop :=
  ∃ i ∈ intervals, x ∈ Set.Icc i.1 i.2

/-- The gaps of a list of intervals, the highest first. -/
def between : List (α × α) → List (α × α)
  | above :: below :: rest => (below.2, above.1) :: between (below :: rest)
  | _ => []

/-- A point in one of the gaps. -/
def Between [Preorder α] (x : α) (intervals : List (α × α)) : Prop :=
  ∃ gap ∈ between intervals, x ∈ Set.Ioo gap.1 gap.2

/-- A gap ends where an interval starts. -/
theorem exists_start {intervals : List (α × α)} {gap : α × α} (inside : gap ∈ between intervals) :
    ∃ i ∈ intervals, gap.2 = i.1 := by
  induction intervals with
  | nil => exact absurd inside (by simp [between])
  | cons above intervals ih =>
    cases intervals with
    | nil => exact absurd inside (by simp [between])
    | cons below rest =>
      rcases List.mem_cons.mp inside with rfl | later
      · exact ⟨above, by simp, rfl⟩
      · obtain ⟨i, member, same⟩ := ih later
        exact ⟨i, List.mem_cons_of_mem _ member, same⟩

variable [LinearOrder α]

/-- **No point is left out**: it is in an interval or between two. -/
theorem covered_or_between {x : α} {first : α × α} {rest : List (α × α)} (top : x ≤ first.2)
    (bottom : ∀ i ∈ (first :: rest).getLast?, i.1 ≤ x) :
    Covered x (first :: rest) ∨ Between x (first :: rest) := by
  induction rest generalizing first with
  | nil => exact .inl ⟨first, by simp, bottom first (by simp), top⟩
  | cons second rest ih =>
    rcases le_or_gt first.1 x with started | early
    · exact .inl ⟨first, by simp, started, top⟩
    rcases le_or_gt x second.2 with reached | past
    · have lowest : ∀ i ∈ (second :: rest).getLast?, i.1 ≤ x := by
        rwa [List.getLast?_cons_cons] at bottom
      rcases ih reached lowest with ⟨i, member, within⟩ | ⟨gap, member, within⟩
      · exact .inl ⟨i, List.mem_cons_of_mem _ member, within⟩
      · exact .inr ⟨gap, List.mem_cons_of_mem _ member, within⟩
    · exact .inr ⟨(second.2, first.1), List.mem_cons_self .., past, early⟩

/-- Intervals that are not empty and do not overlap, the highest first. -/
def Descending (intervals : List (α × α)) : Prop :=
  (∀ i ∈ intervals, i.1 ≤ i.2) ∧ intervals.Pairwise fun above below => below.2 ≤ above.1

/-- A point between two intervals is in none. -/
theorem not_covered_of_between {x : α} {intervals : List (α × α)}
    (descending : Descending intervals) (gap : Between x intervals) : ¬ Covered x intervals := by
  induction intervals with
  | nil => exact fun ⟨_, inside, _⟩ => absurd inside (by simp)
  | cons above intervals ih =>
    obtain ⟨filled, apart⟩ := descending
    obtain ⟨under, others⟩ := List.pairwise_cons.mp apart
    have rest := (List.forall_mem_cons.mp filled).2
    cases intervals with
    | nil => exact absurd gap (by simp [Between, between])
    | cons below lower =>
      obtain ⟨g, member, past, early⟩ := gap
      rintro ⟨i, inside, started, reached⟩
      rcases List.mem_cons.mp member with rfl | later
      · rcases List.mem_cons.mp inside with rfl | inside
        · exact absurd started (not_le.mpr early)
        rcases List.mem_cons.mp inside with rfl | inside
        · exact absurd reached (not_le.mpr past)
        · have high := (List.pairwise_cons.mp others).1 i inside
          have low := rest below (List.mem_cons_self ..)
          exact absurd (reached.trans (high.trans low)) (not_le.mpr past)
      · rcases List.mem_cons.mp inside with rfl | inside
        · obtain ⟨j, among, same⟩ := exists_start later
          have low : j.1 ≤ i.1 := (rest j among).trans (under j among)
          rw [same] at early
          exact absurd (early.trans_le low) (not_lt.mpr started)
        · exact ih ⟨rest, others⟩ ⟨g, later, past, early⟩ ⟨i, inside, started, reached⟩

/-- **Coverage**: between the lowest start and the highest end, the intervals cover exactly the
points in no gap. -/
theorem covered_iff {x : α} {first : α × α} {rest : List (α × α)}
    (descending : Descending (first :: rest)) (top : x ≤ first.2)
    (bottom : ∀ i ∈ (first :: rest).getLast?, i.1 ≤ x) :
    Covered x (first :: rest) ↔ ¬ Between x (first :: rest) := by
  constructor
  · exact fun covered gap => not_covered_of_between descending gap covered
  · exact fun out => (covered_or_between top bottom).resolve_right out

end AcadID.Lib.Intervals
