/-
**Binary floating-point numbers: the nearest number of a format, ties to even.**

* `halfEven` — the nearest integer, the even one of two.
* `Format.nearest` — the nearest number of a format, whatever its size.
* `nearest_mono` — **rounding keeps the order**; `nearest_natCast` and `nearest_two_pow` — small
  integers and powers of two are numbers of every format.
* `Double` — the numbers of the runtime, with `NaN` and the infinities, and their arithmetic.
-/

import Mathlib.Algebra.Order.Floor.Ring
import Mathlib.Algebra.Order.Round
import Mathlib.Data.Int.Log
import Mathlib.Data.Rat.Floor
import Mathlib.Tactic.Linarith
import Mathlib.Tactic.Ring

namespace AcadID.Lib.FloatingPoint

/-! ### The nearest integer -/

section HalfEven

variable {K : Type*} [Field K] [LinearOrder K] [FloorRing K] {x y : K}

/-- The nearest integer, the even one of two. -/
def halfEven (x : K) : ℤ :=
  if Int.fract x < 1 - Int.fract x then ⌊x⌋
  else if 1 - Int.fract x < Int.fract x then ⌊x⌋ + 1
  else if Even ⌊x⌋ then ⌊x⌋
  else ⌊x⌋ + 1

theorem floor_le_halfEven (x : K) : ⌊x⌋ ≤ halfEven x := by
  unfold halfEven
  split_ifs <;> omega

theorem halfEven_le_floor (x : K) : halfEven x ≤ ⌊x⌋ + 1 := by
  unfold halfEven
  split_ifs <;> omega

variable [IsStrictOrderedRing K]

theorem halfEven_intCast (n : ℤ) : halfEven (n : K) = n := by
  have nearer : (0 : K) < 1 - 0 := by norm_num
  unfold halfEven
  rw [Int.fract_intCast, if_pos nearer, Int.floor_intCast]

/-- **Rounding to an integer keeps the order.** -/
theorem halfEven_mono (le : x ≤ y) : halfEven x ≤ halfEven y := by
  rcases (Int.floor_mono le).lt_or_eq with below | same
  · calc halfEven x ≤ ⌊x⌋ + 1 := halfEven_le_floor x
      _ ≤ ⌊y⌋ := below
      _ ≤ halfEven y := floor_le_halfEven y
  · -- Between the same two integers, what is left over decides.
    have rest : Int.fract x ≤ Int.fract y := by
      unfold Int.fract
      rw [same]
      exact sub_le_sub_right le _
    unfold halfEven
    rw [same]
    split_ifs <;> first | omega | (exfalso; linarith)

end HalfEven

/-! ### The nearest number of a format -/

/-- Numbers of so many binary digits, the last of which is worth at least `2 ^ least`. -/
structure Format where
  precision : ℕ
  least : ℤ
  precision_pos : 0 < precision
  least_nonpos : least ≤ 0

namespace Format

variable {K : Type*} [Field K]

/-- A multiple of `2 ^ e`. -/
def OnGrid (e : ℤ) (x : K) : Prop :=
  ∃ n : ℤ, x = n * ((2 : ℕ) : K) ^ e

theorem onGrid_iff {e : ℤ} {x : K} : OnGrid e x ↔ ∃ n : ℤ, x = n * 2 ^ e :=
  Iff.rfl

/-- Whole multiples of a number of a grid are on it. -/
theorem onGrid_natCast {e : ℤ} (on : OnGrid e (1 : K)) (n : ℕ) : OnGrid e (n : K) := by
  obtain ⟨unit, is⟩ := onGrid_iff.mp on
  refine onGrid_iff.mpr ⟨n * unit, ?_⟩
  rw [Int.cast_mul, mul_assoc, ← is, mul_one, Int.cast_natCast]

variable [LinearOrder K] [IsStrictOrderedRing K]

theorem onGrid_two_zpow {d e : ℤ} (le : e ≤ d) : OnGrid e ((2 : K) ^ d) := by
  refine onGrid_iff.mpr ⟨2 ^ (d - e).toNat, ?_⟩
  rw [Int.cast_pow, Int.cast_ofNat, ← zpow_natCast, Int.toNat_of_nonneg (by omega),
    ← zpow_add₀ two_ne_zero, sub_add_cancel]

variable [FloorRing K] (format : Format) {x y : K}

/-- What the last digit of a number of the size of `x` is worth, as a power of two. -/
def exponent (x : K) : ℤ :=
  max (Int.log 2 |x| + 1 - format.precision) format.least

/-- The nearest number of the format. -/
def nearest (x : K) : K :=
  halfEven (x / ((2 : ℕ) : K) ^ format.exponent x) * ((2 : ℕ) : K) ^ format.exponent x

omit [IsStrictOrderedRing K] in
theorem nearest_eq (x : K) :
    format.nearest x = halfEven (x / 2 ^ format.exponent x) * 2 ^ format.exponent x :=
  rfl

theorem nearest_nonneg (nonneg : 0 ≤ x) : 0 ≤ format.nearest x := by
  have unit : (0 : K) < 2 ^ format.exponent x := zpow_pos two_pos _
  have below : (0 : ℤ) ≤ ⌊x / 2 ^ format.exponent x⌋ :=
    Int.floor_nonneg.mpr (div_nonneg nonneg unit.le)
  have rounded : (0 : K) ≤ halfEven (x / 2 ^ format.exponent x) :=
    Int.cast_nonneg (below.trans (floor_le_halfEven _))
  rw [nearest_eq]
  exact mul_nonneg rounded unit.le

variable {format}

/-- A number of the grid that `x` is rounded to bounds the rounded number if it bounds `x`. -/
theorem nearest_le_of_onGrid (on : OnGrid (format.exponent x) y) (le : x ≤ y) :
    format.nearest x ≤ y := by
  have unit : (0 : K) < 2 ^ format.exponent x := zpow_pos two_pos _
  obtain ⟨n, is⟩ := onGrid_iff.mp on
  have scaled : halfEven (x / 2 ^ format.exponent x) ≤ n := by
    rw [← halfEven_intCast (K := K) n]
    refine halfEven_mono ?_
    rw [div_le_iff₀ unit, ← is]
    exact le
  rw [nearest_eq, is]
  exact mul_le_mul_of_nonneg_right (Int.cast_le.mpr scaled) unit.le

theorem le_nearest_of_onGrid (on : OnGrid (format.exponent y) x) (le : x ≤ y) :
    x ≤ format.nearest y := by
  have unit : (0 : K) < 2 ^ format.exponent y := zpow_pos two_pos _
  obtain ⟨n, is⟩ := onGrid_iff.mp on
  have scaled : n ≤ halfEven (y / 2 ^ format.exponent y) := by
    rw [← halfEven_intCast (K := K) n]
    refine halfEven_mono ?_
    rw [le_div_iff₀ unit, ← is]
    exact le
  rw [nearest_eq, is]
  exact mul_le_mul_of_nonneg_right (Int.cast_le.mpr scaled) unit.le

theorem nearest_of_onGrid (on : OnGrid (format.exponent x) x) : format.nearest x = x :=
  le_antisymm (nearest_le_of_onGrid on le_rfl) (le_nearest_of_onGrid on le_rfl)

variable (format) in
/-- **Rounding keeps the order** of numbers that are not negative. -/
theorem nearest_mono (nonneg : 0 ≤ x) (le : x ≤ y) :
    format.nearest x ≤ format.nearest y := by
  have sizes : |x| ≤ |y| := abs_le_abs_of_nonneg nonneg le
  rcases nonneg.eq_or_lt with zero | positive
  · have none : format.nearest x = 0 := by
      refine (nearest_of_onGrid (onGrid_iff.mpr ⟨0, ?_⟩)).trans zero.symm
      rw [← zero, Int.cast_zero, zero_mul]
    rw [none]
    exact format.nearest_nonneg (nonneg.trans le)
  have logs : Int.log 2 |x| ≤ Int.log 2 |y| :=
    Int.log_mono_right (abs_pos.mpr positive.ne') sizes
  have exponents : format.exponent x ≤ format.exponent y :=
    max_le_max (by omega) le_rfl
  rcases exponents.eq_or_lt with same | below
  · -- One grid: the multiples are in order.
    have unit : (0 : K) < 2 ^ format.exponent y := zpow_pos two_pos _
    rw [nearest_eq, nearest_eq, same]
    refine mul_le_mul_of_nonneg_right (Int.cast_le.mpr (halfEven_mono ?_)) unit.le
    exact div_le_div_of_nonneg_right le unit.le
  · -- Two grids: the power of two between `x` and `y` is on both.
    have digits := format.precision_pos
    have size : format.exponent y = Int.log 2 |y| + 1 - format.precision := by
      unfold exponent at below ⊢
      omega
    have smaller : Int.log 2 |x| < Int.log 2 |y| := by
      unfold exponent at below
      omega
    have yPositive : 0 < y := positive.trans_le le
    calc format.nearest x ≤ 2 ^ Int.log 2 |y| := by
          refine nearest_le_of_onGrid (onGrid_two_zpow (by omega)) ?_
          rw [← abs_of_pos positive]
          refine (Int.lt_zpow_succ_log_self one_lt_two |x|).le.trans ?_
          exact zpow_le_zpow_right₀ one_le_two (by omega)
      _ ≤ format.nearest y := by
          refine le_nearest_of_onGrid (onGrid_two_zpow (by omega)) ?_
          nth_rewrite 2 [← abs_of_pos yPositive]
          exact Int.zpow_log_le_self one_lt_two (abs_pos.mpr yPositive.ne')

/-- **An integer of fewer digits** is a number of the format. -/
theorem nearest_natCast {n : ℕ} (few : n < 2 ^ format.precision) :
    format.nearest (n : K) = n := by
  have digits : Nat.log 2 n < format.precision := by
    rcases Nat.eq_zero_or_pos n with none | some
    · rw [none, Nat.log_zero_right]
      exact format.precision_pos
    · exact Nat.log_lt_of_lt_pow some.ne' few
  have small : format.exponent (n : K) ≤ 0 := by
    have least := format.least_nonpos
    unfold exponent
    rw [Nat.abs_cast, Int.log_natCast]
    omega
  have unit : OnGrid (format.exponent (n : K)) (1 : K) := by
    rw [← zpow_zero (2 : K)]
    exact onGrid_two_zpow small
  exact nearest_of_onGrid (onGrid_natCast unit n)

/-- **A power of two** is a number of the format. -/
theorem nearest_two_pow (k : ℕ) : format.nearest ((2 : K) ^ k) = 2 ^ k := by
  have small : format.exponent ((2 : K) ^ (k : ℤ)) ≤ k := by
    have digits := format.precision_pos
    have least := format.least_nonpos
    unfold exponent
    rw [abs_of_pos (zpow_pos two_pos _), show (2 : K) = ((2 : ℕ) : K) from rfl,
      Int.log_zpow one_lt_two]
    omega
  rw [← zpow_natCast]
  exact nearest_of_onGrid (onGrid_two_zpow small)

variable (format) in
/-- What lies between integers of fewer digits is rounded to a number between them. -/
theorem nearest_le_natCast {n : ℕ} (few : n < 2 ^ format.precision) (nonneg : 0 ≤ x) (le : x ≤ n) :
    format.nearest x ≤ n := by
  rw [← nearest_natCast (K := K) few]
  exact nearest_mono format nonneg le

variable (format) in
theorem natCast_le_nearest {n : ℕ} (few : n < 2 ^ format.precision) (le : (n : K) ≤ x) :
    (n : K) ≤ format.nearest x := by
  rw [← nearest_natCast (K := K) few]
  exact nearest_mono format (Nat.cast_nonneg n) le

end Format

/-! ### The numbers of the runtime -/

/-- The numbers of the runtime; its two zeros are one here. -/
inductive Double where
  | nan
  | infinite (negative : Bool)
  | finite (q : ℚ)
  deriving DecidableEq

namespace Double

/-- Binary64. -/
def format : Format where
  precision := 53
  least := -1074
  precision_pos := by decide
  least_nonpos := by decide

/-- What an exact result is rounded to. -/
def ofRat (q : ℚ) : Double :=
  if |format.nearest q| < 2 ^ 1024 then .finite (format.nearest q) else .infinite (q < 0)

def mul : Double → Double → Double
  | .nan, _ | _, .nan => .nan
  | .infinite s, .infinite t => .infinite (s != t)
  | .infinite s, .finite q | .finite q, .infinite s =>
    if q = 0 then .nan else .infinite (s != decide (q < 0))
  | .finite p, .finite q => ofRat (p * q)

def add : Double → Double → Double
  | .nan, _ | _, .nan => .nan
  | .infinite s, .infinite t => if s = t then .infinite s else .nan
  | .infinite s, .finite _ | .finite _, .infinite s => .infinite s
  | .finite p, .finite q => ofRat (p + q)

/-- `Math.max(left, right)` -/
def max : Double → Double → Double
  | .nan, _ | _, .nan => .nan
  | .infinite true, other | other, .infinite true => other
  | .infinite false, _ | _, .infinite false => .infinite false
  | .finite p, .finite q => .finite (Max.max p q)

/-- `Math.min(left, right)` -/
def min : Double → Double → Double
  | .nan, _ | _, .nan => .nan
  | .infinite false, other | other, .infinite false => other
  | .infinite true, _ | _, .infinite true => .infinite true
  | .finite p, .finite q => .finite (Min.min p q)

/-- `Math.round(number)`: the nearest integer, the higher of two. -/
def round : Double → Double
  | .finite q => .finite ⌊q + 1 / 2⌋
  | other => other

/-- `left <= right` -/
def le : Double → Double → Prop
  | .nan, _ | _, .nan => False
  | .infinite true, _ | _, .infinite false => True
  | .infinite false, _ | _, .infinite true => False
  | .finite p, .finite q => p ≤ q

/-- `2 ** k` -/
def twoPow (k : ℕ) : Double :=
  ofRat (2 ^ k)

@[simp]
theorem mul_nan (a : Double) : mul a .nan = .nan := by
  cases a <;> rfl

@[simp]
theorem add_nan (a : Double) : add a .nan = .nan := by
  cases a <;> rfl

@[simp]
theorem max_nan (a : Double) : max a .nan = .nan := by
  cases a <;> rfl

@[simp]
theorem min_nan (a : Double) : min a .nan = .nan := by
  cases a <;> rfl

theorem le_pow_overflow {n : ℕ} (few : n < 2 ^ 53) : (n : ℚ) < 2 ^ 1024 := by
  have cast : (n : ℚ) < ((2 ^ 53 : ℕ) : ℚ) := Nat.cast_lt.mpr few
  rw [Nat.cast_pow, Nat.cast_ofNat] at cast
  exact cast.trans_le (pow_le_pow_right₀ one_le_two (by decide))

/-- What is at most an integer of 53 digits is rounded to a finite number. -/
theorem ofRat_of_le {q : ℚ} {n : ℕ} (few : n < 2 ^ 53) (nonneg : 0 ≤ q) (le : q ≤ n) :
    ofRat q = .finite (format.nearest q) := by
  have below := Format.nearest_le_natCast format few nonneg le
  refine if_pos ?_
  rw [abs_of_nonneg (format.nearest_nonneg nonneg)]
  exact below.trans_lt (le_pow_overflow few)

theorem ofRat_natCast {n : ℕ} (few : n < 2 ^ 53) : ofRat n = .finite n := by
  rw [ofRat_of_le few (Nat.cast_nonneg n) le_rfl, Format.nearest_natCast few]

/-- What is at least an integer of 53 digits is rounded to no less. -/
theorem min_ofRat {q : ℚ} {n : ℕ} (few : n < 2 ^ 53) (le : (n : ℚ) ≤ q) :
    min (.finite n) (ofRat q) = .finite n := by
  have above := Format.natCast_le_nearest format few le
  have nonneg : ¬ q < 0 := not_lt.mpr ((Nat.cast_nonneg n).trans le)
  unfold ofRat
  split_ifs
  · show Double.finite (Min.min (n : ℚ) (format.nearest q)) = _
    rw [min_eq_left above]
  · rw [decide_eq_false nonneg]
    rfl

theorem twoPow_eq (k : ℕ) : twoPow k = if k < 1024 then .finite (2 ^ k) else .infinite false := by
  have sizes : |(2 : ℚ) ^ k| < 2 ^ 1024 ↔ k < 1024 := by
    rw [abs_of_pos (pow_pos two_pos k)]
    exact pow_lt_pow_iff_right₀ one_lt_two
  unfold twoPow ofRat
  rw [Format.nearest_two_pow, decide_eq_false (not_lt.mpr (pow_pos two_pos k).le)]
  exact if_congr sizes rfl rfl

end Double

end AcadID.Lib.FloatingPoint
