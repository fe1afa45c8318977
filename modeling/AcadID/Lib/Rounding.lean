/-
**Rounding to a grid: the nearest multiple of `1 / scale`, halves upwards.**

* `nearest_le_iff` and `le_nearest_iff` — what a rounded number is at most, and at least, said of the
  number itself.
* `nearest_of_onGrid` — the numbers of the grid stay as they are; `OnGrid` is closed under sums.
* `nearest_sub_le` — rounding adds at most half a step.
-/

import Mathlib.Algebra.BigOperators.Group.List.Basic
import Mathlib.Algebra.Order.Floor.Ring
import Mathlib.Algebra.Order.Field.Basic
import Mathlib.Tactic.Linarith
import Mathlib.Tactic.Ring

namespace AcadID.Lib.Rounding

variable {K : Type*} [Field K] {scale x y : K}

/-- A multiple of `1 / scale`. -/
def OnGrid (scale x : K) : Prop :=
  ∃ n : ℤ, x * scale = n

theorem onGrid_add (first : OnGrid scale x) (second : OnGrid scale y) : OnGrid scale (x + y) := by
  obtain ⟨m, isX⟩ := first
  obtain ⟨n, isY⟩ := second
  exact ⟨m + n, by rw [add_mul, isX, isY, Int.cast_add]⟩

/-- **Sums of numbers of the grid** are on the grid. -/
theorem onGrid_sum {values : List K} (each : ∀ value ∈ values, OnGrid scale value) :
    OnGrid scale values.sum := by
  induction values with
  | nil => exact ⟨0, by simp⟩
  | cons value values ih =>
    obtain ⟨first, rest⟩ := List.forall_mem_cons.mp each
    rw [List.sum_cons]
    exact onGrid_add first (ih rest)

variable [LinearOrder K] [FloorRing K]

/-- The nearest multiple of `1 / scale`, the higher of two. -/
def nearest (scale x : K) : K :=
  (⌊x * scale + 1 / 2⌋ : K) / scale

theorem onGrid_nearest (positive : 0 < scale) (x : K) : OnGrid scale (nearest scale x) := by
  refine ⟨⌊x * scale + 1 / 2⌋, ?_⟩
  unfold nearest
  rw [div_mul_cancel₀ _ positive.ne']

variable [IsStrictOrderedRing K]

/-- **A rounded number is at most `y`** when the number is below half a step past the last multiple
up to `y`. -/
theorem nearest_le_iff (positive : 0 < scale) :
    nearest scale x ≤ y ↔ x < ((⌊y * scale⌋ : K) + 1 / 2) / scale := by
  have floors : (⌊x * scale + 1 / 2⌋ : K) ≤ y * scale ↔ x * scale + 1 / 2 < ⌊y * scale⌋ + 1 := by
    rw [← Int.le_floor, ← Int.lt_add_one_iff, Int.floor_lt, Int.cast_add, Int.cast_one]
  unfold nearest
  rw [div_le_iff₀ positive, floors, lt_div_iff₀ positive]
  constructor
  · intro below
    linarith
  · intro below
    linarith

/-- **A rounded number is at least `y`** when the number is no further than half a step before the
first multiple from `y` on. -/
theorem le_nearest_iff (positive : 0 < scale) :
    y ≤ nearest scale x ↔ ((⌈y * scale⌉ : K) - 1 / 2) / scale ≤ x := by
  have ceils : y * scale ≤ (⌊x * scale + 1 / 2⌋ : K) ↔ (⌈y * scale⌉ : K) ≤ x * scale + 1 / 2 := by
    rw [← Int.ceil_le, Int.le_floor]
  unfold nearest
  rw [le_div_iff₀ positive, ceils, div_le_iff₀ positive]
  constructor
  · intro above
    linarith
  · intro above
    linarith

theorem nearest_nonneg (positive : 0 < scale) (nonneg : 0 ≤ x) : 0 ≤ nearest scale x := by
  unfold nearest
  have below : (0 : K) ≤ x * scale + 1 / 2 := by
    have product := mul_nonneg nonneg positive.le
    linarith
  exact div_nonneg (by exact_mod_cast Int.floor_nonneg.mpr below) positive.le

/-- Rounding adds at most half a step. -/
theorem nearest_sub_le (positive : 0 < scale) : nearest scale x - x ≤ 1 / 2 / scale := by
  have floor := Int.floor_le (x * scale + 1 / 2)
  unfold nearest
  rw [sub_le_iff_le_add, div_le_iff₀ positive, add_mul, div_mul_cancel₀ _ positive.ne']
  linarith

/-- **A number of the grid stays as it is.** -/
theorem nearest_of_onGrid (positive : 0 < scale) (on : OnGrid scale x) : nearest scale x = x := by
  obtain ⟨n, is⟩ := on
  have floor : ⌊(n : K) + 1 / 2⌋ = n := by
    rw [Int.floor_eq_iff]
    constructor
    · linarith
    · linarith
  unfold nearest
  rw [is, floor, ← is, mul_div_cancel_right₀ _ positive.ne']

end AcadID.Lib.Rounding
