/-
**First matches: the row of a list that a test picks.**

* `eq_of_find?_swap` — two tests whose first matches pass each other's test pick the same row.
* `eq_or_rel_of_find?` — in an ordered list, the first match comes before every other match.
* `find?_of_imp` — the first match of a weaker test, where it passes the stronger one.
* `find?_of_only` — the only match is the first.
* `rel_of_head?_insertionSort` — what a sort puts first comes before every row.
* `read_foldl` — of writes one after the other, the last that meets a test is what is read;
  `read_foldl_getD`, where a write without a value keeps what is there.
-/

import Mathlib.Data.List.Sort

namespace AcadID.Lib.FirstMatch

variable {α : Type*} {p q : α → Bool} {l : List α} {a b : α}

/-- **Two first matches that pass each other's test are one row.** -/
theorem eq_of_find?_swap (first : l.find? p = some a) (second : l.find? q = some b)
    (left : q a = true) (right : p b = true) : a = b := by
  induction l with
  | nil => exact absurd first (by simp)
  | cons x l ih =>
    rw [List.find?_cons] at first second
    cases onP : p x <;> cases onQ : q x <;> simp only [onP, onQ] at first second
    · exact ih first second
    · obtain rfl := Option.some.inj second
      rw [onP] at right
      exact absurd right (by simp)
    · obtain rfl := Option.some.inj first
      rw [onQ] at left
      exact absurd left (by simp)
    · exact (Option.some.inj first).symm.trans (Option.some.inj second)

/-- **The first match of an ordered list** comes before every other match. -/
theorem eq_or_rel_of_find? {r : α → α → Prop} (ordered : l.Pairwise r)
    (first : l.find? p = some a) (inside : b ∈ l) (passes : p b = true) : b = a ∨ r a b := by
  obtain ⟨passed, before, after, rfl, failed⟩ := List.find?_eq_some_iff_append.mp first
  rcases List.mem_append.mp inside with early | late
  · have fails := failed b early
    rw [passes] at fails
    exact absurd fails (by simp)
  · rcases List.mem_cons.mp late with same | later
    · exact .inl same
    · exact .inr ((List.pairwise_cons.mp (List.pairwise_append.mp ordered).2.1).1 b later)

/-- A first match of a weaker test that passes the stronger one is its first match too. -/
theorem find?_of_imp (stronger : ∀ x, p x = true → q x = true) (first : l.find? q = some a)
    (passes : p a = true) : l.find? p = some a := by
  obtain ⟨-, before, after, rfl, failed⟩ := List.find?_eq_some_iff_append.mp first
  refine List.find?_eq_some_iff_append.mpr ⟨passes, before, after, rfl, fun x inside => ?_⟩
  have fails := failed x inside
  rw [Bool.not_eq_true'] at fails ⊢
  rw [Bool.eq_false_iff] at fails ⊢
  exact fun held => fails (stronger x held)

/-- **The only match** is the first. -/
theorem find?_of_only (inside : a ∈ l) (passes : p a = true)
    (only : ∀ x ∈ l, p x = true → x = a) : l.find? p = some a := by
  cases first : l.find? p with
  | none => exact absurd passes (List.find?_eq_none.mp first a inside)
  | some x => rw [only x (List.mem_of_find?_eq_some first) (List.find?_some first)]

theorem find?_none_of_imp (stronger : ∀ x, p x = true → q x = true) (none_ : l.find? q = none) :
    l.find? p = none := by
  rw [List.find?_eq_none] at none_ ⊢
  exact fun x inside held => none_ x inside (stronger x held)

/-- **What a sort puts first** comes before every row of the list. -/
theorem rel_of_head?_insertionSort {r : α → α → Prop} [DecidableRel r]
    (total : ∀ a b, r a b ∨ r b a) (transitive : ∀ a b c, r a b → r b c → r a c)
    (first : (l.insertionSort r).head? = some a) (inside : b ∈ l) : r a b := by
  have isTotal : Std.Total r := ⟨total⟩
  have isTrans : IsTrans α r := ⟨transitive⟩
  have ordered := List.pairwise_insertionSort r l
  have member := (List.mem_insertionSort r).mpr inside
  obtain ⟨rest, is⟩ := List.head?_eq_some_iff.mp first
  rw [is] at ordered member
  rcases List.mem_cons.mp member with rfl | later
  · exact (total b b).elim id id
  · exact (List.pairwise_cons.mp ordered).1 b later

/-- **The last write is read**: those that meet a test replace what was there, the others leave it. -/
theorem read_foldl {σ β : Type*} (write : σ → α → σ) (read : σ → Option β) (p : α → Bool)
    (value : α → β)
    (reads : ∀ s a, read (write s a) = if p a = true then some (value a) else read s)
    (l : List α) (s : σ) :
    read (l.foldl write s) = ((l.reverse.find? p).map value).or (read s) := by
  induction l generalizing s with
  | nil => rfl
  | cons a l ih =>
    rw [List.foldl_cons, ih, reads, List.reverse_cons, List.find?_append]
    cases l.reverse.find? p with
    | some last => rfl
    | none =>
      by_cases passes : p a = true
      · simp [passes]
      · simp [passes]

/-- The last write that has a value is read. -/
theorem read_foldl_or {σ β : Type*} (write : σ → α → σ) (read : σ → Option β)
    (value : α → Option β) (reads : ∀ s a, read (write s a) = (value a).or (read s))
    (l : List α) (s : σ) :
    read (l.foldl write s) = (l.reverse.findSome? value).or (read s) := by
  induction l generalizing s with
  | nil => rfl
  | cons a l ih =>
    rw [List.foldl_cons, ih, reads, List.reverse_cons, List.findSome?_append, Option.or_assoc]
    simp

/-- **A write that has no value keeps what is there**, or else sets a default: the last value is
read, or else what was there before. -/
theorem read_foldl_getD {σ β : Type*} (kept : σ → Prop) (write : σ → α → σ) (read : σ → Option β)
    (p : α → Bool) (value : α → Option β) (otherwise : β)
    (keeps : ∀ s a, kept s → kept (write s a))
    (reads : ∀ s a, kept s → read (write s a) =
      if p a = true then some ((value a).getD ((read s).getD otherwise)) else read s)
    (l : List α) {s : σ} (begun : kept s) :
    read (l.foldl write s) = ((l.filter p).reverse.findSome? value).or
      (if l.any p = true then some ((read s).getD otherwise) else read s) := by
  induction l generalizing s with
  | nil => rfl
  | cons a l ih =>
    rw [List.foldl_cons, ih (keeps s a begun), reads s a begun, List.any_cons]
    by_cases named : p a = true
    · rw [List.filter_cons_of_pos named, List.reverse_cons, List.findSome?_append, if_pos named,
        named, Bool.true_or, if_pos rfl, Option.or_assoc, Option.getD_some, ite_self]
      cases given : value a <;> simp [given]
    · rw [List.filter_cons_of_neg named, if_neg named, Bool.eq_false_iff.mpr named,
        Bool.false_or]

end AcadID.Lib.FirstMatch
