/-
**JSON values whose keys are sorted by a comparison that may tie different keys.**

* `TiesAlike` — corresponding objects list the keys that are tied with one in the same order.
* `same_of_sortKeys_eq` — values that are equal once sorted are equal up to the order of keys.
* `sortKeys_eq_iff` — **values that are equal up to the order of keys are equal once sorted exactly
  when they list tied keys alike.**
-/

import AcadID.Lib.Canonical
import AcadID.Lib.StableSort

namespace AcadID.Lib.Json

section Ties

variable (le : String → String → Prop) [DecidableRel le]

/-- The keys tied with one, in the order of the fields. -/
def tiedKeys {α : Type} (k : String) (fs : List (String × α)) : List String :=
  (fs.map Prod.fst).filter fun l => Tied le k l

mutual

/-- **Objects in the same place list tied keys in the same order.** -/
def TiesAlike : Json → Json → Prop
  | .arr vs, .arr ws => TiesAlikeItems vs ws
  | .obj fs, .obj gs => (∀ k, tiedKeys le k fs = tiedKeys le k gs) ∧ TiesAlikeFields fs gs
  | _, _ => True

def TiesAlikeItems : List Json → List Json → Prop
  | v :: vs, w :: ws => TiesAlike v w ∧ TiesAlikeItems vs ws
  | _, _ => True

/-- So do the values of one key. -/
def TiesAlikeFields : List (String × Json) → List (String × Json) → Prop
  | (k, v) :: fs, gs => (∀ g ∈ gs, g.1 = k → TiesAlike v g.2) ∧ TiesAlikeFields fs gs
  | [], _ => True

end

variable {le}

theorem tiesAlikeItems_iff {vs ws : List Json} (long : vs.length = ws.length) :
    TiesAlikeItems le vs ws ↔ List.Forall₂ (TiesAlike le) vs ws := by
  induction vs generalizing ws with
  | nil => cases ws <;> simp [TiesAlikeItems] at long ⊢
  | cons v vs ih =>
    cases ws with
    | nil => simp at long
    | cons w ws => simp [TiesAlikeItems, @ih ws (by simpa using long)]

theorem tiesAlikeFields_iff {fs gs : List (String × Json)} :
    TiesAlikeFields le fs gs ↔ ∀ f ∈ fs, ∀ g ∈ gs, g.1 = f.1 → TiesAlike le f.2 g.2 := by
  induction fs with
  | nil => simp [TiesAlikeFields]
  | cons f fs ih =>
    obtain ⟨k, v⟩ := f
    rw [TiesAlikeFields, ih, List.forall_mem_cons]

/-! ### Sorted values -/

theorem sortKeysItems_eq (vs : List Json) : sortKeysItems le vs = vs.map (sortKeys le) := by
  induction vs with
  | nil => rfl
  | cons v vs ih => rw [sortKeysItems, ih, List.map_cons]

/-- A field with its value sorted. -/
def sortField (le : String → String → Prop) [DecidableRel le] (f : String × Json) :
    String × Json :=
  (f.1, sortKeys le f.2)

theorem sortKeys_obj (fs : List (String × Json)) :
    sortKeys le (.obj fs) = .obj (sortFields le (fs.map (sortField le))) := by
  rw [sortKeys, sortKeysFields_eq]
  rfl

/-- The keys tied with one are the keys of the sorted fields tied with it. -/
theorem tiedKeys_eq (k : String × Json) (fs : List (String × Json)) :
    ((fs.map (sortField le)).filter
      (fun f => Tied (fun f g : String × Json => le f.1 g.1) k f)).map Prod.fst =
        tiedKeys le k.1 fs := by
  unfold tiedKeys
  rw [List.filter_map, List.map_map, List.filter_map]
  rfl

/-- Fields with the same keys are the same, if there is one value for each key. -/
theorem eq_of_keys {xs ys : List (String × Json)} (keys : xs.map Prod.fst = ys.map Prod.fst)
    (values : ∀ x ∈ xs, ∀ y ∈ ys, y.1 = x.1 → x = y) : xs = ys := by
  induction xs generalizing ys with
  | nil => exact (List.map_eq_nil_iff.mp keys.symm).symm
  | cons x xs ih =>
    cases ys with
    | nil => simp at keys
    | cons y ys =>
      obtain ⟨key, rest⟩ := List.cons.inj keys
      rw [values x List.mem_cons_self y List.mem_cons_self key.symm,
        ih rest fun x inside y there => values x (.tail _ inside) y (.tail _ there)]

/-- **Values that are equal once sorted** are equal up to the order of keys. -/
theorem same_of_sortKeys_eq {v w : Json} (sorted : sortKeys le v = sortKeys le w) :
    Same v w := by
  induction v using induct generalizing w with
  | null =>
    cases w with
    | null => trivial
    | _ => exact absurd sorted (by simp [sortKeys])
  | bool b =>
    cases w with
    | bool => exact Json.bool.inj sorted
    | _ => exact absurd sorted (by simp [sortKeys])
  | num q =>
    cases w with
    | num => exact Json.num.inj sorted
    | _ => exact absurd sorted (by simp [sortKeys])
  | str s =>
    cases w with
    | str => exact Json.str.inj sorted
    | _ => exact absurd sorted (by simp [sortKeys])
  | arr vs ih =>
    cases w with
    | arr ws =>
      have items := Json.arr.inj sorted
      rw [sortKeysItems_eq, sortKeysItems_eq, ← List.forall₂_eq_eq_eq,
        List.forall₂_map_left_iff, List.forall₂_map_right_iff] at items
      exact sameItems_iff.mpr (((List.forall₂_and_left _ _).mpr ⟨fun v inside => @ih v inside,
        items⟩).imp fun v w both => both.1 both.2)
    | _ => exact absurd sorted (by simp [sortKeys])
  | obj fs ih =>
    cases w with
    | obj gs =>
      rw [sortKeys_obj, sortKeys_obj, Json.obj.injEq] at sorted
      have moved : (fs.map (sortField le)).Perm (gs.map (sortField le)) := by
        refine (sortFields_perm le _).symm.trans ?_
        rw [sorted]
        exact sortFields_perm le _
      have aligned : List.Forall₂ (fun x g => x = sortField le g) (gs.map (sortField le)) gs := by
        rw [List.forall₂_map_left_iff]
        exact List.forall₂_same.mpr fun _ _ => rfl
      obtain ⟨hs, paired, order⟩ := List.perm_comp_forall₂ moved aligned
      rw [List.forall₂_map_left_iff] at paired
      refine ⟨hs, order.symm, sameFields_iff.mpr ?_⟩
      refine ((List.forall₂_and_left _ _).mpr ⟨fun f inside => @ih f inside, paired⟩).imp ?_
      intro f h both
      obtain ⟨key, value⟩ := Prod.mk.inj both.2
      exact ⟨key, both.1 value⟩
    | _ => exact absurd sorted (by simp [sortKeys])

/-! ### Tied keys -/

theorem forall₂_congr {α β : Type} {R S : α → β → Prop} {as : List α} {bs : List β}
    (each : List.Forall₂ (fun a b => R a b ↔ S a b) as bs) :
    List.Forall₂ R as bs ↔ List.Forall₂ S as bs := by
  induction each with
  | nil => simp
  | cons here _ rest => rw [List.forall₂_cons, List.forall₂_cons, here, rest]

/-- Fields of one key in objects that are equal up to the order of keys have equal values. -/
theorem same_of_key {fs gs : List (String × Json)} (different : (fs.map Prod.fst).Nodup)
    (same : Same (.obj fs) (.obj gs)) :
    (gs.map Prod.fst).Nodup ∧ ∀ f ∈ fs, ∀ g ∈ gs, g.1 = f.1 → Same f.2 g.2 := by
  obtain ⟨hs, moved, fields⟩ := same
  rw [sameFields_iff] at fields
  have keys : fs.map Prod.fst = hs.map Prod.fst := by
    rw [← List.forall₂_eq_eq_eq, List.forall₂_map_left_iff, List.forall₂_map_right_iff]
    exact fields.imp fun f h both => both.1
  have apart : (gs.map Prod.fst).Nodup := by
    rw [(moved.map Prod.fst).nodup_iff, ← keys]
    exact different
  refine ⟨apart, fun f inside g there key => ?_⟩
  obtain ⟨i, short, rfl⟩ := List.getElem_of_mem inside
  have long := fields.length_eq
  obtain ⟨keyHere, value⟩ := List.Forall₂.get fields short (long ▸ short)
  have found : hs[i] ∈ gs := moved.mem_iff.mpr (List.getElem_mem _)
  rw [List.inj_on_of_nodup_map apart there found (key.trans keyHere)]
  exact value

section Order

variable [IsTrans String le] [Std.Total le]

/-- **Values that are equal up to the order of keys** are equal once sorted exactly when they list
tied keys alike. -/
theorem sortKeys_eq_iff {v w : Json} (distinct : Distinct v) (same : Same v w) :
    sortKeys le v = sortKeys le w ↔ TiesAlike le v w := by
  induction v using induct generalizing w with
  | null =>
    cases w with
    | null => simp [TiesAlike]
    | _ => exact same.elim
  | bool b =>
    cases w with
    | bool => simpa [TiesAlike, sortKeys, Same] using same
    | _ => exact same.elim
  | num q =>
    cases w with
    | num => simpa [TiesAlike, sortKeys, Same] using same
    | _ => exact same.elim
  | str s =>
    cases w with
    | str => simpa [TiesAlike, sortKeys, Same] using same
    | _ => exact same.elim
  | arr vs ih =>
    cases w with
    | arr ws =>
      have paired := sameItems_iff.mp same
      have each := distinctItems_iff.mp distinct
      have items : List.Forall₂ (fun v w => sortKeys le v = sortKeys le w ↔ TiesAlike le v w)
          vs ws :=
        ((List.forall₂_and_left _ _).mpr ⟨fun v inside => @ih v inside,
          (List.forall₂_and_left _ _).mpr ⟨each, paired⟩⟩).imp
          fun v w both => both.1 both.2.1 both.2.2
      rw [sortKeys, sortKeys, Json.arr.injEq, sortKeysItems_eq, sortKeysItems_eq,
        ← List.forall₂_eq_eq_eq, List.forall₂_map_left_iff, List.forall₂_map_right_iff, TiesAlike,
        tiesAlikeItems_iff paired.length_eq]
      exact forall₂_congr items
    | _ => exact same.elim
  | obj fs ih =>
    cases w with
    | obj gs =>
      obtain ⟨different, inner⟩ := distinct
      obtain ⟨apart, values⟩ := same_of_key different same
      have each := fun f inside g there key => @ih f inside g.2
        (distinctFields_iff.mp inner f inside) (values f inside g there key)
      have total : Std.Total fun f g : String × Json => le f.1 g.1 :=
        ⟨fun f g => Std.Total.total f.1 g.1⟩
      have trans : IsTrans (String × Json) fun f g => le f.1 g.1 :=
        ⟨fun f g h => IsTrans.trans f.1 g.1 h.1⟩
      rw [sortKeys_obj, sortKeys_obj, Json.obj.injEq, TiesAlike, tiesAlikeFields_iff]
      refine insertionSort_eq_iff.trans ⟨fun alike => ⟨fun k => ?_, ?_⟩, ?_⟩
      · rw [← tiedKeys_eq (k, .null) fs, alike (k, .null), tiedKeys_eq]
      · -- The field of the other object that is listed in its place is the one of its key.
        intro f inside g there key
        rw [← each f inside g there key]
        have listed : sortField le f ∈ (gs.map (sortField le)).filter
            (fun h => Tied (fun f g : String × Json => le f.1 g.1) (sortField le f) h) := by
          rw [← alike, List.mem_filter]
          exact ⟨List.mem_map_of_mem inside, decide_eq_true (tied_refl _)⟩
        obtain ⟨h, found, is⟩ := List.mem_map.mp (List.mem_filter.mp listed).1
        obtain ⟨keyHere, value⟩ := Prod.mk.inj is
        rw [List.inj_on_of_nodup_map apart there found (key.trans keyHere.symm)]
        exact value.symm
      · rintro ⟨keys, fields⟩ k
        refine eq_of_keys (by rw [tiedKeys_eq, tiedKeys_eq, keys]) fun x first y second key => ?_
        obtain ⟨f, inside, rfl⟩ := List.mem_map.mp (List.mem_filter.mp first).1
        obtain ⟨g, there, rfl⟩ := List.mem_map.mp (List.mem_filter.mp second).1
        exact Prod.ext key.symm ((each f inside g there key).mpr (fields f inside g there key))
    | _ => exact same.elim

end Order

end Ties

end AcadID.Lib.Json
