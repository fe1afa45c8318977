/-
**Fixed windows: a counter for each window, and the first comers of each.**

* `windowOf width t` — the window of length `width` that the instant `t` falls into;
  `windowOf_span`: an interval of length `width` meets at most two of them.
* `firstComers window limit seen ts` — the decisions of a counter per window: `t` is let through
  when its window has had fewer than `limit` before it.
* `decisions_of_window` — **in each window the first `limit` are let through, and no other**.
* `admitted_le` — so at most `n * limit` are let through among instants that meet `n` windows.
-/

import Mathlib.Algebra.Order.Group.Unbundled.Int
import Mathlib.Data.List.Basic
import Mathlib.Data.Int.Order.Basic
import Mathlib.Tactic.Ring

namespace AcadID.Lib

/-! ### Windows of a clock -/

/-- The index of the window of an instant. -/
def windowOf (width t : ℤ) : ℤ :=
  t / width

theorem windowOf_mono {width t u : ℤ} (positive : 0 < width) (before : t ≤ u) :
    windowOf width t ≤ windowOf width u :=
  Int.ediv_le_ediv positive before

/-- An interval as long as a window meets at most two. -/
theorem windowOf_span {width start t : ℤ} (positive : 0 < width) (after : start ≤ t)
    (before : t ≤ start + width) :
    windowOf width t = windowOf width start ∨ windowOf width t = windowOf width start + 1 := by
  have low := windowOf_mono positive after
  have high := windowOf_mono positive before
  unfold windowOf at low high ⊢
  rw [Int.add_ediv_of_dvd_right (dvd_refl width), Int.ediv_self positive.ne'] at high
  omega

/-! ### First comers -/

section FirstComers

variable {τ ω : Type*} [DecidableEq ω] (window : τ → ω) (limit : ℕ)

/-- The decisions of a counter per window that has seen `seen`. -/
def firstComers : (ω → ℕ) → List τ → List (τ × Bool)
  | _, [] => []
  | seen, t :: ts =>
      (t, decide (seen (window t) < limit)) ::
        firstComers (Function.update seen (window t) (seen (window t) + 1)) ts

theorem map_fst_firstComers (seen : ω → ℕ) (ts : List τ) :
    (firstComers window limit seen ts).map Prod.fst = ts := by
  induction ts generalizing seen with
  | nil => rfl
  | cons t ts ih =>
      unfold firstComers
      rw [List.map_cons, ih]

/-- The decisions of one window. -/
def decisionsIn (w : ω) (decided : List (τ × Bool)) : List Bool :=
  (decided.filter fun call => window call.1 = w).map Prod.snd

/-- **In each window the first are let through, up to the limit, and no other.** -/
theorem decisions_of_window (seen : ω → ℕ) (ts : List τ) (w : ω) :
    decisionsIn window w (firstComers window limit seen ts) =
      List.replicate (min (limit - seen w) (ts.countP fun t => window t = w)) true ++
        List.replicate ((ts.countP fun t => window t = w) - (limit - seen w)) false := by
  induction ts generalizing seen with
  | nil =>
      rw [List.countP_nil, Nat.min_zero, Nat.zero_sub]
      rfl
  | cons t ts ih =>
      unfold firstComers decisionsIn
      rw [List.countP_cons, List.filter_cons]
      by_cases here : window t = w
      · have counted : decide (window t = w) = true := decide_eq_true here
        rw [if_pos counted, if_pos counted, List.map_cons]
        have rest := ih (Function.update seen (window t) (seen (window t) + 1))
        unfold decisionsIn at rest
        rw [rest, here, Function.update_self]
        by_cases room : seen w < limit
        · have left : limit - seen w = (limit - (seen w + 1)) + 1 := by omega
          rw [decide_eq_true room, left, Nat.add_min_add_right, Nat.add_sub_add_right]
          rfl
        · have none_left : limit - seen w = 0 := by omega
          have none_after : limit - (seen w + 1) = 0 := by omega
          rw [decide_eq_false room, none_left, none_after, Nat.zero_min, Nat.zero_min]
          rfl
      · have other : decide (window t = w) = false := decide_eq_false here
        rw [other, if_neg Bool.false_ne_true, if_neg Bool.false_ne_true, Nat.add_zero]
        have rest := ih (Function.update seen (window t) (seen (window t) + 1))
        rw [Function.update_of_ne (Ne.symm here)] at rest
        exact rest

theorem countP_map_snd (decided : List (τ × Bool)) (w : ω) :
    decided.countP (fun call => call.2 && decide (window call.1 = w)) =
      (decisionsIn window w decided).count true := by
  unfold decisionsIn
  rw [List.count, List.countP_map, List.countP_filter]
  refine List.countP_congr fun call _ => ?_
  simp

/-- At most the limit is let through in one window. -/
theorem admitted_of_window (seen : ω → ℕ) (ts : List τ) (w : ω) :
    (firstComers window limit seen ts).countP (fun call => call.2 && decide (window call.1 = w)) ≤
      limit := by
  rw [countP_map_snd, decisions_of_window, List.count_append, List.count_replicate_self,
    List.count_replicate]
  simp

theorem countP_le_add {α : Type*} {p q r : α → Bool}
    (either : ∀ a, r a = true → p a = true ∨ q a = true) (list : List α) :
    list.countP r ≤ list.countP p + list.countP q := by
  induction list with
  | nil => exact Nat.zero_le _
  | cons a list ih =>
      have here := either a
      rw [List.countP_cons, List.countP_cons, List.countP_cons]
      by_cases chosen : r a = true
      · rcases here chosen with left | right
        · rw [if_pos chosen, if_pos left]
          omega
        · rw [if_pos chosen, if_pos right]
          omega
      · rw [if_neg chosen]
        omega

/-- What is at most `bound` in each window is at most `n * bound` in `n` windows. -/
theorem countP_le_of_windows {α : Type*} (windowIn : α → ω) (bound : ℕ) (decided : List α)
    (chosen : α → Bool) (windows : List ω) (meets : ∀ a, chosen a = true → windowIn a ∈ windows)
    (each : ∀ w, decided.countP (fun a => chosen a && decide (windowIn a = w)) ≤ bound) :
    decided.countP chosen ≤ windows.length * bound := by
  induction windows generalizing chosen with
  | nil =>
      rw [List.length_nil, Nat.zero_mul, Nat.le_zero, List.countP_eq_zero]
      exact fun a _ picked => List.not_mem_nil (meets a picked)
  | cons w windows ih =>
      have rest := ih (fun a => chosen a && decide (windowIn a ≠ w))
        (fun a picked => by
          obtain ⟨inside, other⟩ := Bool.and_eq_true_iff.mp picked
          exact (List.mem_cons.mp (meets a inside)).resolve_left (of_decide_eq_true other))
        (fun v => (List.countP_mono_left fun a _ picked => by
          obtain ⟨inside, same⟩ := Bool.and_eq_true_iff.mp picked
          rw [(Bool.and_eq_true_iff.mp inside).1, same]
          rfl).trans (each v))
      refine (countP_le_add (fun a picked => ?_) _).trans
        ((Nat.add_le_add (each w) rest).trans_eq ?_)
      · by_cases here : windowIn a = w
        · exact Or.inl (by rw [picked, decide_eq_true here]; rfl)
        · exact Or.inr (by rw [picked, decide_eq_true here]; rfl)
      · rw [List.length_cons]
        ring

/-- **At most `n * limit` are let through among instants that meet `n` windows.** -/
theorem admitted_le (seen : ω → ℕ) (ts : List τ) (among : τ → Bool) (windows : List ω)
    (meets : ∀ t, among t = true → window t ∈ windows) :
    (firstComers window limit seen ts).countP (fun call => call.2 && among call.1) ≤
      windows.length * limit := by
  refine countP_le_of_windows (fun call => window call.1) limit _ _ windows
    (fun call picked => meets call.1 (Bool.and_eq_true_iff.mp picked).2) fun w => ?_
  refine (List.countP_mono_left fun call _ picked => ?_).trans
    (admitted_of_window window limit seen ts w)
  obtain ⟨admitted, here⟩ := Bool.and_eq_true_iff.mp picked
  rw [(Bool.and_eq_true_iff.mp admitted).1, here]
  rfl

/-- Every instant is let through when no window has more of them than the limit. -/
theorem all_admitted (seen : ω → ℕ) (ts : List τ)
    (room : ∀ w, seen w + ts.countP (fun t => window t = w) ≤ limit) :
    firstComers window limit seen ts = ts.map fun t => (t, true) := by
  induction ts generalizing seen with
  | nil => rfl
  | cons t ts ih =>
      have here := room (window t)
      rw [List.countP_cons, if_pos (decide_eq_true rfl)] at here
      unfold firstComers
      rw [List.map_cons, decide_eq_true (by omega), ih]
      intro w
      have fits := room w
      rw [List.countP_cons] at fits
      by_cases same : w = window t
      · rw [same, Function.update_self]
        omega
      · rw [Function.update_of_ne same]
        omega

end FirstComers

end AcadID.Lib
