/-
**Tables whose rows have pairwise different keys.**

A `Table key` is a list of rows that carries the proof that no two of them share a key, so that a
table with a duplicate cannot be built.

* `find?`, `insert`, `filter`, `updateMany` and `update` are the operations; `insert` refuses a key that is
  taken, and an update may not change the key of a row.
* `find?_eq_some` reads a lookup as membership; `find?_updateMany`, `find?_update`,
  `find?_insert` and `find?_upsert` say what a lookup finds after each operation.
-/

import Mathlib.Algebra.GroupWithZero.Nat
import Mathlib.Data.List.Nodup

namespace AcadID.Lib

/-- Rows with pairwise different keys. -/
structure Table {ρ κ : Type} (key : ρ → κ) where
  rows : List ρ
  nodup : (rows.map key).Nodup

namespace Table

variable {ρ κ : Type} {key : ρ → κ}

theorem ext_rows {t u : Table key} (same : t.rows = u.rows) : t = u := by
  cases t
  cases u
  cases same
  rfl

/-- The table without rows. -/
def empty : Table key where
  rows := []
  nodup := List.nodup_nil

/-- The table of one row. -/
def single (row : ρ) : Table key where
  rows := [row]
  nodup := List.nodup_singleton _

@[simp] theorem rows_empty : (empty : Table key).rows = [] := rfl

/-- The rows that meet `p`, each through `f`. -/
def updateMany (t : Table key) (p : ρ → Bool) (f : ρ → ρ) (keeps : ∀ r, key (f r) = key r) :
    Table key where
  rows := t.rows.map fun r => if p r then f r else r
  nodup := by
    have same : (key ∘ fun r => if p r then f r else r) = key := by
      funext r
      by_cases hit : p r <;> simp [hit, keeps r]
    rw [List.map_map, same]
    exact t.nodup

@[simp] theorem rows_updateMany (t : Table key) (p : ρ → Bool) (f : ρ → ρ)
    (keeps : ∀ r, key (f r) = key r) :
    (t.updateMany p f keeps).rows = t.rows.map fun r => if p r then f r else r := rfl

/-- The rows that meet `p`. -/
def filter (t : Table key) (p : ρ → Bool) : Table key where
  rows := t.rows.filter p
  nodup := t.nodup.sublist (List.filter_sublist.map key)

@[simp] theorem rows_filter (t : Table key) (p : ρ → Bool) :
    (t.filter p).rows = t.rows.filter p := rfl

/-- Two rows with one key are one row. -/
theorem eq_of_key_eq {t : Table key} {r r' : ρ} (here : r ∈ t.rows) (there : r' ∈ t.rows)
    (same : key r = key r') : r = r' :=
  List.inj_on_of_nodup_map t.nodup here there same

variable [DecidableEq κ]

/-- The row with the key `k`. -/
def find? (t : Table key) (k : κ) : Option ρ :=
  t.rows.find? fun r => key r = k

/-- The row with the key `k`, through `f`. -/
def update (t : Table key) (k : κ) (f : ρ → ρ) (keeps : ∀ r, key (f r) = key r) : Table key :=
  t.updateMany (fun r => key r = k) f keeps

/-- One more row, unless its key is taken. -/
def insert (t : Table key) (r : ρ) : Option (Table key) :=
  if free : key r ∉ t.rows.map key then
    some
      { rows := t.rows ++ [r]
        nodup := by
          rw [List.map_append, List.map_cons, List.map_nil]
          refine List.nodup_append.mpr ⟨t.nodup, List.nodup_singleton _, ?_⟩
          intro a inside b single same
          rw [List.mem_singleton.mp single] at same
          exact free (same ▸ inside) }
  else none

/-- The row in the place of the one with its key, or one more row. -/
def upsert (t : Table key) (r : ρ) : Table key :=
  if free : key r ∉ t.rows.map key then
    { rows := t.rows ++ [r]
      nodup := by
        rw [List.map_append, List.map_cons, List.map_nil]
        refine List.nodup_append.mpr ⟨t.nodup, List.nodup_singleton _, ?_⟩
        intro a inside b single same
        rw [List.mem_singleton.mp single] at same
        exact free (same ▸ inside) }
  else
    { rows := t.rows.map fun other => if key other = key r then r else other
      nodup := by
        have same : (key ∘ fun other => if key other = key r then r else other) = key := by
          funext other
          by_cases hit : key other = key r <;> simp [hit]
        rw [List.map_map, same]
        exact t.nodup }

/-! ### Lookups -/

/-- **A lookup finds exactly the row with its key.** -/
theorem find?_eq_some {t : Table key} {k : κ} {r : ρ} :
    t.find? k = some r ↔ r ∈ t.rows ∧ key r = k := by
  refine ⟨fun found => ⟨List.mem_of_find?_eq_some found, ?_⟩, fun ⟨inside, has⟩ => ?_⟩
  · simpa using List.find?_some found
  · cases found : t.find? k with
    | none =>
      have absent := List.find?_eq_none.mp found r inside
      exact absurd has (by simpa using absent)
    | some r' =>
      have has' : key r' = k := by simpa using List.find?_some found
      rw [eq_of_key_eq (List.mem_of_find?_eq_some found) inside (has'.trans has.symm)]

theorem find?_eq_none {t : Table key} {k : κ} :
    t.find? k = none ↔ ∀ r ∈ t.rows, key r ≠ k := by
  unfold find?
  rw [List.find?_eq_none]
  simp

theorem find?_mem {t : Table key} {k : κ} {r : ρ} (found : t.find? k = some r) : r ∈ t.rows :=
  (find?_eq_some.mp found).1

theorem find?_key {t : Table key} {k : κ} {r : ρ} (found : t.find? k = some r) : key r = k :=
  (find?_eq_some.mp found).2

/-- **A lookup reads the rows that its key may have**: tables with the same rows meeting `p` find
the same row under a key whose rows meet `p`. -/
theorem find?_of_filter_eq {t u : Table key} {p q : ρ → Bool} {k : κ}
    (same : t.rows.filter p = u.rows.filter q) (meets : ∀ r, key r = k → p r = true ∧ q r = true) :
    t.find? k = u.find? k := by
  unfold find?
  have keeps : ∀ (rows : List ρ) (p : ρ → Bool), (∀ r, key r = k → p r = true) →
      rows.find? (fun r => key r = k) = (rows.filter p).find? fun r => key r = k := by
    intro rows p holds
    rw [List.find?_filter]
    congr 1
    funext r
    by_cases has : key r = k
    · simp [has, holds r has]
    · simp [has]
  rw [keeps t.rows p fun r has => (meets r has).1, keeps u.rows q fun r has => (meets r has).2, same]

/-- A lookup among the rows that meet `p`. -/
theorem find?_filter (t : Table key) (p : ρ → Bool) (k : κ) :
    (t.filter p).find? k = (t.find? k).filter p := by
  ext r
  rw [Option.filter_eq_some_iff, find?_eq_some, find?_eq_some, rows_filter, List.mem_filter]
  exact and_right_comm

@[simp] theorem find?_empty (k : κ) : (empty : Table key).find? k = none := rfl

/-- A lookup after an update of many rows. -/
theorem find?_updateMany (t : Table key) (p : ρ → Bool) (f : ρ → ρ)
    (keeps : ∀ r, key (f r) = key r) (k : κ) :
    (t.updateMany p f keeps).find? k = (t.find? k).map fun r => if p r then f r else r := by
  unfold find?
  rw [rows_updateMany, List.find?_map]
  have same : ((fun r => decide (key r = k)) ∘ fun r => if p r then f r else r) =
      fun r => decide (key r = k) := by
    funext r
    by_cases hit : p r <;> simp [hit, keeps r]
  rw [same]

/-- **A lookup after an update**: the updated row in its place, every other row as it was. -/
theorem find?_update (t : Table key) (k : κ) (f : ρ → ρ) (keeps : ∀ r, key (f r) = key r)
    (k' : κ) :
    (t.update k f keeps).find? k' = if k = k' then (t.find? k').map f else t.find? k' := by
  unfold update
  rw [find?_updateMany]
  cases found : t.find? k' with
  | none => simp
  | some r =>
    rw [Option.map_some, find?_key found]
    by_cases same : k = k'
    · rw [if_pos same, if_pos (decide_eq_true same.symm), Option.map_some]
    · rw [if_neg same, if_neg (by simpa using Ne.symm same)]

theorem find?_update_self {t : Table key} {k : κ} {r : ρ} (found : t.find? k = some r)
    (f : ρ → ρ) (keeps : ∀ r, key (f r) = key r) :
    (t.update k f keeps).find? k = some (f r) := by
  rw [find?_update, if_pos rfl, found, Option.map_some]

theorem rows_update (t : Table key) (k : κ) (f : ρ → ρ) (keeps : ∀ r, key (f r) = key r) :
    (t.update k f keeps).rows = t.rows.map fun r => if key r = k then f r else r := by
  unfold update
  rw [rows_updateMany]
  exact List.map_congr_left fun r _ => by simp

theorem mem_update {t : Table key} {k : κ} {f : ρ → ρ} {keeps : ∀ r, key (f r) = key r} {r : ρ} :
    r ∈ (t.update k f keeps).rows ↔
      (∃ r' ∈ t.rows, key r' = k ∧ r = f r') ∨ (r ∈ t.rows ∧ key r ≠ k) := by
  unfold update
  rw [rows_updateMany, List.mem_map]
  constructor
  · rintro ⟨r', inside, same⟩
    by_cases hit : key r' = k
    · rw [if_pos (decide_eq_true hit)] at same
      exact .inl ⟨r', inside, hit, same.symm⟩
    · rw [if_neg (by simpa using hit)] at same
      exact .inr ⟨same ▸ inside, same ▸ hit⟩
  · rintro (⟨r', inside, hit, rfl⟩ | ⟨inside, miss⟩)
    · exact ⟨r', inside, if_pos (decide_eq_true hit)⟩
    · exact ⟨r, inside, if_neg (by simpa using miss)⟩

/-- **A sum after an update**: what the row brought goes, what the updated row brings comes. -/
theorem sum_update {t : Table key} {k : κ} {r : ρ} (found : t.find? k = some r) (f : ρ → ρ)
    (keeps : ∀ r, key (f r) = key r) (g : ρ → ℕ) :
    ((t.update k f keeps).rows.map g).sum + g r = (t.rows.map g).sum + g (f r) := by
  have has := find?_key found
  obtain ⟨-, before, after, rows, -⟩ := List.find?_eq_some_iff_append.mp found
  have distinct := t.nodup
  rw [rows, List.map_append, List.map_cons, List.nodup_append, List.nodup_cons] at distinct
  obtain ⟨-, ⟨later, -⟩, earlier⟩ := distinct
  have same : ∀ others : List ρ, (∀ other ∈ others, key other ≠ k) →
      (others.map fun other => if key other = k then f other else other) = others := by
    intro others apart
    refine (List.map_congr_left fun other inside => ?_).trans (List.map_id others)
    exact if_neg (apart other inside)
  have left := same before fun other inside is =>
    earlier _ (List.mem_map_of_mem inside) _ List.mem_cons_self (is.trans has.symm)
  have right := same after fun other inside is =>
    later ((is.trans has.symm) ▸ List.mem_map_of_mem inside)
  rw [rows_update, rows, List.map_append, List.map_cons, left, right, if_pos has]
  simp only [List.map_append, List.map_cons, List.sum_append, List.sum_cons]
  omega

/-- **A count that only one key can meet** is that of its row. -/
theorem countP_of_key {t : Table key} {k : κ} {p : ρ → Bool}
    (only : ∀ r ∈ t.rows, p r = true → key r = k) :
    t.rows.countP p = if (t.find? k).any p then 1 else 0 := by
  cases found : t.find? k with
  | none =>
    refine List.countP_eq_zero.mpr fun r inside meets => ?_
    exact find?_eq_none.mp found r inside (only r inside meets)
  | some r =>
    obtain ⟨inside, has⟩ := find?_eq_some.mp found
    have single : t.rows.countP (fun r' => key r' = k) = 1 := by
      have counted := List.count_eq_one_of_mem t.nodup (List.mem_map_of_mem inside)
      rw [has, List.count, List.countP_map] at counted
      rw [← counted]
      refine List.countP_congr fun r' _ => ?_
      simp
    rw [Option.any_some]
    by_cases meets : p r
    · rw [if_pos meets, ← single]
      refine List.countP_congr fun r' here => ?_
      refine ⟨fun met => by simpa using only r' here met, fun same => ?_⟩
      rw [eq_of_key_eq here inside ((by simpa using same : key r' = k).trans has.symm)]
      exact meets
    · rw [if_neg meets]
      refine List.countP_eq_zero.mpr fun r' here met => meets ?_
      rw [← eq_of_key_eq here inside ((only r' here met).trans has.symm)]
      exact met

/-! ### Insertion -/

/-- **An insertion that goes through** appends the row, whose key was free. -/
theorem insert_eq_some {t u : Table key} {r : ρ} :
    t.insert r = some u ↔ (∀ r' ∈ t.rows, key r' ≠ key r) ∧ u.rows = t.rows ++ [r] := by
  unfold insert
  constructor
  · intro inserted
    split at inserted
    · rename_i free
      refine ⟨fun r' inside same => free ?_, ?_⟩
      · exact same ▸ List.mem_map_of_mem inside
      · rw [← Option.some.inj inserted]
    · exact absurd inserted (by simp)
  · rintro ⟨free, rows⟩
    have absent : key r ∉ t.rows.map key := by
      intro inside
      obtain ⟨r', here, same⟩ := List.mem_map.mp inside
      exact free r' here same
    rw [dif_pos absent]
    exact congrArg some (ext_rows rows.symm)

/-- A row whose key is free can be inserted. -/
theorem insert_of_fresh {t : Table key} {r : ρ} (fresh : ∀ r' ∈ t.rows, key r' ≠ key r) :
    ∃ u, t.insert r = some u := by
  have absent : key r ∉ t.rows.map key := by
    intro inside
    obtain ⟨r', here, same⟩ := List.mem_map.mp inside
    exact fresh r' here same
  exact ⟨_, dif_pos absent⟩

theorem find?_insert {t u : Table key} {r : ρ} (inserted : t.insert r = some u) (k : κ) :
    u.find? k = if key r = k then some r else t.find? k := by
  obtain ⟨free, rows⟩ := insert_eq_some.mp inserted
  by_cases same : key r = k
  · rw [if_pos same]
    exact find?_eq_some.mpr ⟨by rw [rows]; simp, same⟩
  · rw [if_neg same]
    unfold find?
    rw [rows, List.find?_append]
    simp [same]

/-- **A lookup after an upsert**: the row given under its key, every other row as it was. -/
theorem find?_upsert (t : Table key) (r : ρ) (k : κ) :
    (t.upsert r).find? k = if key r = k then some r else t.find? k := by
  unfold upsert
  split
  · rename_i free
    obtain ⟨u, inserted⟩ := insert_of_fresh (t := t) (r := r) fun r' inside same =>
      free (same ▸ List.mem_map_of_mem inside)
    have rows := (insert_eq_some.mp inserted).2
    rw [← find?_insert inserted]
    unfold find?
    rw [rows]
  · rename_i taken
    obtain ⟨old, inside, has⟩ := List.mem_map.mp (not_not.mp taken)
    have replaced := find?_updateMany t (fun other => key other = key r)
      (fun other => if key other = key r then r else other)
      (fun other => by by_cases hit : key other = key r <;> simp [hit]) k
    have rows : (fun other => if decide (key other = key r) then
        (if key other = key r then r else other) else other) =
        fun other => if key other = key r then r else other := by
      funext other
      by_cases hit : key other = key r <;> simp [hit]
    unfold find? at replaced ⊢
    rw [rows_updateMany, rows] at replaced
    show (t.rows.map fun other => if key other = key r then r else other).find? _ = _
    rw [replaced]
    by_cases same : key r = k
    · rw [if_pos same]
      have found := find?_eq_some.mpr ⟨inside, has.trans same⟩
      unfold find? at found
      rw [found, Option.map_some, if_pos has]
    · rw [if_neg same]
      cases found : t.rows.find? fun r => decide (key r = k) with
      | none => rfl
      | some other =>
        have other_key : key other = k := by simpa using List.find?_some found
        rw [Option.map_some, if_neg (by rw [other_key]; exact Ne.symm same)]

/-- An upsert of a new row is its insertion. -/
theorem upsert_of_insert {t u : Table key} {r : ρ} (inserted : t.insert r = some u) :
    t.upsert r = u := by
  obtain ⟨free, rows⟩ := insert_eq_some.mp inserted
  have absent : key r ∉ t.rows.map key := by
    intro inside
    obtain ⟨r', here, same⟩ := List.mem_map.mp inside
    exact free r' here same
  refine ext_rows ?_
  unfold upsert
  rw [dif_pos absent, rows]

/-- **New rows upserted** stand behind those that were there. -/
theorem rows_upserts_of_fresh {rs : List ρ} {t : Table key}
    (fresh : ∀ r ∈ rs, ∀ r' ∈ t.rows, key r' ≠ key r)
    (distinct : rs.Pairwise fun r r' => key r ≠ key r') :
    (rs.foldl upsert t).rows = t.rows ++ rs := by
  induction rs generalizing t with
  | nil => exact (List.append_nil _).symm
  | cons first rest ih =>
    obtain ⟨apart, distinct⟩ := List.pairwise_cons.mp distinct
    obtain ⟨u, inserted⟩ := insert_of_fresh (fresh first (List.mem_cons_self ..))
    have rows := (insert_eq_some.mp inserted).2
    rw [List.foldl_cons, upsert_of_insert inserted, ih ?_ distinct, rows, List.append_assoc]
    · rfl
    · intro r inside r' there
      rw [rows] at there
      rcases List.mem_append.mp there with before | new
      · exact fresh r (List.mem_cons_of_mem _ inside) r' before
      · rw [List.mem_singleton.mp new]
        exact apart r inside

theorem find?_upserts_of_not {rs : List ρ} {t : Table key} {k : κ}
    (unwritten : ¬ ∃ r ∈ rs, key r = k) : (rs.foldl upsert t).find? k = t.find? k := by
  induction rs generalizing t with
  | nil => rfl
  | cons first rest ih =>
    have later : ¬ ∃ r ∈ rest, key r = k := fun ⟨r, inside, here⟩ =>
      unwritten ⟨r, List.mem_cons_of_mem _ inside, here⟩
    have other : key first ≠ k := fun here => unwritten ⟨first, List.mem_cons_self .., here⟩
    rw [List.foldl_cons, ih later, find?_upsert, if_neg other]

/-- **A lookup after several upserts**: one of the rows given under its key. -/
theorem find?_upserts {rs : List ρ} {t : Table key} {k : κ} (written : ∃ r ∈ rs, key r = k) :
    ∃ r ∈ rs, key r = k ∧ (rs.foldl upsert t).find? k = some r := by
  induction rs generalizing t with
  | nil => exact absurd written (by simp)
  | cons first rest ih =>
    by_cases later : ∃ r ∈ rest, key r = k
    · obtain ⟨r, inside, here, found⟩ := @ih (t.upsert first) later
      exact ⟨r, List.mem_cons_of_mem _ inside, here, found⟩
    · have here : key first = k := by
        obtain ⟨r, inside, here⟩ := written
        rcases List.mem_cons.mp inside with rfl | there
        · exact here
        · exact absurd ⟨r, there, here⟩ later
      refine ⟨first, List.mem_cons_self .., here, ?_⟩
      rw [List.foldl_cons, find?_upserts_of_not later, find?_upsert, if_pos here]

/-! ### Whether a key is there -/

theorem find?_update_isSome (t : Table key) (k : κ) (f : ρ → ρ) (keeps : ∀ r, key (f r) = key r)
    (l : κ) : ((t.update k f keeps).find? l).isSome = (t.find? l).isSome := by
  rw [find?_update]
  split
  · rw [Option.isSome_map]
  · rfl

theorem find?_insert_isSome {t u : Table key} {r : ρ} (inserted : t.insert r = some u) (l : κ) :
    (u.find? l).isSome = (decide (key r = l) || (t.find? l).isSome) := by
  rw [find?_insert inserted]
  by_cases is : key r = l <;> simp [is]

theorem insert_iff_absent {t : Table key} {r : ρ} :
    (∃ u, t.insert r = some u) ↔ (t.find? (key r)).isSome = false := by
  rw [Option.isSome_eq_false_iff, Option.isNone_iff_eq_none, find?_eq_none]
  exact ⟨fun ⟨u, grown⟩ => (insert_eq_some.mp grown).1, insert_of_fresh⟩

/-- **An insertion under a key that both tables have or lack** goes alike. -/
theorem insert_alike {t t' : Table key} {r : ρ}
    (same : (t.find? (key r)).isSome = (t'.find? (key r)).isSome) :
    (∃ u u', t.insert r = some u ∧ t'.insert r = some u') ∨
      t.insert r = none ∧ t'.insert r = none := by
  cases left : t.insert r with
  | none =>
    refine .inr ⟨rfl, ?_⟩
    cases right : t'.insert r with
    | none => rfl
    | some u' =>
      have free := insert_iff_absent.mp ⟨u', right⟩
      rw [← same] at free
      obtain ⟨u, grown⟩ := insert_iff_absent.mpr free
      exact absurd (left.symm.trans grown) (by simp)
  | some u =>
    have free := insert_iff_absent.mp ⟨u, left⟩
    rw [same] at free
    obtain ⟨u', right⟩ := insert_iff_absent.mpr free
    exact .inl ⟨u, u', rfl, right⟩

/-! ### What a change leaves, and what is new -/

section Change

variable {β : Type} {column : ρ → β} {t u v : Table key}

/-- Every row is still there, with what it had in the column. -/
def Keeps (column : ρ → β) (t u : Table key) : Prop :=
  ∀ k r, t.find? k = some r → ∃ r', u.find? k = some r' ∧ column r' = column r

theorem keeps_refl (column : ρ → β) (t : Table key) : Keeps column t t :=
  fun _ r found => ⟨r, found, rfl⟩

theorem keeps_trans (first : Keeps column t u) (second : Keeps column u v) :
    Keeps column t v := by
  intro k r found
  obtain ⟨r', there, same⟩ := first k r found
  obtain ⟨r'', last, same'⟩ := second k r' there
  exact ⟨r'', last, same'.trans same⟩

theorem keeps_updateMany {p : ρ → Bool} {f : ρ → ρ} {keeps : ∀ r, key (f r) = key r}
    (same : ∀ r, column (f r) = column r) : Keeps column t (t.updateMany p f keeps) := by
  intro k r found
  rw [find?_updateMany, found]
  refine ⟨if p r then f r else r, rfl, ?_⟩
  split
  · exact same r
  · rfl

theorem keeps_update {k : κ} {f : ρ → ρ} {keeps : ∀ r, key (f r) = key r}
    (same : ∀ r, column (f r) = column r) : Keeps column t (t.update k f keeps) :=
  keeps_updateMany same

theorem keeps_insert {r : ρ} (inserted : t.insert r = some u) : Keeps column t u := by
  intro k r' found
  refine ⟨r', ?_, rfl⟩
  rw [find?_insert inserted, if_neg ?_]
  · exact found
  · intro same
    exact (insert_eq_some.mp inserted).1 r' (find?_mem found) ((find?_key found).trans same.symm)

/-- The rows of `u` that `t` does not have meet `P`. -/
def News (P : ρ → Prop) (t u : Table key) : Prop :=
  ∀ r ∈ u.rows, r ∈ t.rows ∨ P r

variable {P : ρ → Prop}

omit [DecidableEq κ] in
theorem news_refl (P : ρ → Prop) (t : Table key) : News P t t :=
  fun _ inside => .inl inside

omit [DecidableEq κ] in
theorem news_updateMany {p : ρ → Bool} {f : ρ → ρ} {keeps : ∀ r, key (f r) = key r}
    (meets : ∀ r ∈ t.rows, p r = true → P (f r)) : News P t (t.updateMany p f keeps) := by
  intro r inside
  rw [rows_updateMany] at inside
  obtain ⟨old, there, rfl⟩ := List.mem_map.mp inside
  by_cases hit : p old
  · rw [if_pos hit]
    exact .inr (meets old there hit)
  · rw [if_neg hit]
    exact .inl there

/-- The one row that an update writes. -/
theorem news_update {k : κ} {f : ρ → ρ} {keeps : ∀ r, key (f r) = key r}
    (meets : ∀ r, t.find? k = some r → P (f r)) : News P t (t.update k f keeps) := by
  intro r inside
  rcases mem_update.mp inside with ⟨old, there, here, rfl⟩ | ⟨there, -⟩
  · exact .inr (meets old (find?_eq_some.mpr ⟨there, here⟩))
  · exact .inl there

omit [DecidableEq κ] in
theorem news_append {new : List ρ} (grown : u.rows = t.rows ++ new) (meets : ∀ r ∈ new, P r) :
    News P t u := by
  intro r inside
  rw [grown] at inside
  exact (List.mem_append.mp inside).imp id (meets r)

theorem news_insert {r : ρ} (inserted : t.insert r = some u) (meets : P r) : News P t u := by
  refine news_append (insert_eq_some.mp inserted).2 fun r' inside => ?_
  rw [List.mem_singleton.mp inside]
  exact meets

end Change

end Table

end AcadID.Lib
