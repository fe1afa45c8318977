/-
**JSON values that agree but for what is under some of their keys.**

* `Agree hidden` — the values are the same, except under hidden keys.
* `Exposed matched named` — a key that is named and not matched, outside of what matched keys hide.
* `agree_of_not_exposed` and `exists_of_exposed` — **values that agree but for named keys agree but
  for matched keys, whatever the other value is, exactly when no named key is exposed**.
-/

import AcadID.Lib.Json

namespace AcadID.Lib.Json

mutual

/-- The same, except for the values of hidden keys. -/
def Agree (hidden : String → Prop) : Json → Json → Prop
  | .null, .null => True
  | .bool a, .bool b => a = b
  | .num a, .num b => a = b
  | .str a, .str b => a = b
  | .arr vs, .arr ws => AgreeItems hidden vs ws
  | .obj fs, .obj gs => AgreeFields hidden fs gs
  | _, _ => False

def AgreeItems (hidden : String → Prop) : List Json → List Json → Prop
  | [], [] => True
  | v :: vs, w :: ws => Agree hidden v w ∧ AgreeItems hidden vs ws
  | _, _ => False

def AgreeFields (hidden : String → Prop) :
    List (String × Json) → List (String × Json) → Prop
  | [], [] => True
  | (k, v) :: fs, (l, w) :: gs =>
    (k = l ∧ (hidden k ∨ Agree hidden v w)) ∧ AgreeFields hidden fs gs
  | _, _ => False

end

mutual

/-- A named key that is not matched, with no matched key above it. -/
def Exposed (matched named : String → Prop) : Json → Prop
  | .arr vs => ExposedItems matched named vs
  | .obj fs => ExposedFields matched named fs
  | _ => False

def ExposedItems (matched named : String → Prop) : List Json → Prop
  | [] => False
  | v :: vs => Exposed matched named v ∨ ExposedItems matched named vs

def ExposedFields (matched named : String → Prop) : List (String × Json) → Prop
  | [] => False
  | (k, v) :: fs =>
    (¬ matched k ∧ (named k ∨ Exposed matched named v)) ∨ ExposedFields matched named fs

end

section Agree

variable {hidden matched named : String → Prop}

/-- Fields of one key, with values that agree or are hidden. -/
def AgreeField (hidden : String → Prop) (f g : String × Json) : Prop :=
  f.1 = g.1 ∧ (hidden f.1 ∨ Agree hidden f.2 g.2)

theorem agreeItems_iff {vs ws : List Json} :
    AgreeItems hidden vs ws ↔ List.Forall₂ (Agree hidden) vs ws := by
  induction vs generalizing ws with
  | nil => cases ws <;> simp [AgreeItems]
  | cons v vs ih => cases ws <;> simp [AgreeItems, ih]

theorem agreeFields_iff {fs gs : List (String × Json)} :
    AgreeFields hidden fs gs ↔ List.Forall₂ (AgreeField hidden) fs gs := by
  induction fs generalizing gs with
  | nil => cases gs <;> simp [AgreeFields]
  | cons f fs ih => cases gs <;> simp [AgreeFields, AgreeField, ih]

theorem exposedItems_iff {vs : List Json} :
    ExposedItems matched named vs ↔ ∃ v ∈ vs, Exposed matched named v := by
  induction vs with
  | nil => simp [ExposedItems]
  | cons v vs ih => simp [ExposedItems, ih]

theorem exposedFields_iff {fs : List (String × Json)} :
    ExposedFields matched named fs ↔
      ∃ f ∈ fs, ¬ matched f.1 ∧ (named f.1 ∨ Exposed matched named f.2) := by
  induction fs with
  | nil => simp [ExposedFields]
  | cons f fs ih => simp [ExposedFields, ih]

theorem agree_refl (hidden : String → Prop) (v : Json) : Agree hidden v v := by
  induction v using induct with
  | null => trivial
  | bool | num | str => rfl
  | arr vs ih => exact agreeItems_iff.mpr (List.forall₂_same.mpr ih)
  | obj fs ih =>
    exact agreeFields_iff.mpr (List.forall₂_same.mpr fun f inside => ⟨rfl, .inr (ih f inside)⟩)

/-- Rows are related alike by relations that are the same for the items of one of them. -/
theorem forall₂_congr_of_mem {α β : Type} {R S : α → β → Prop} {as : List α} {bs : List β}
    (each : ∀ a ∈ as, ∀ b, R a b ↔ S a b) : List.Forall₂ R as bs ↔ List.Forall₂ S as bs := by
  induction as generalizing bs with
  | nil => rw [List.forall₂_nil_left_iff, List.forall₂_nil_left_iff]
  | cons a as ih =>
    cases bs with
    | nil => rw [List.forall₂_nil_right_iff, List.forall₂_nil_right_iff]
    | cons b bs =>
      rw [List.forall₂_cons, List.forall₂_cons, each a List.mem_cons_self b,
        ih fun a inside => each a (.tail _ inside)]

/-! ### Values that agree but for named keys -/

/-- **Where no named key is exposed**, values that agree but for named keys agree but for matched
ones. -/
theorem agree_of_not_exposed {v w : Json} (covered : ¬ Exposed matched named v)
    (agree : Agree named v w) : Agree matched v w := by
  induction v using induct generalizing w with
  | null | bool | num | str => cases w <;> exact agree
  | arr vs ih =>
    cases w with
    | arr ws =>
      have each : ∀ v ∈ vs, ¬ Exposed matched named v := fun v inside exposed =>
        covered (exposedItems_iff.mpr ⟨v, inside, exposed⟩)
      exact agreeItems_iff.mpr (((List.forall₂_and_left _ _).mpr ⟨fun v inside => @ih v inside,
        (List.forall₂_and_left _ _).mpr ⟨each, agreeItems_iff.mp agree⟩⟩).imp
          fun v w both => both.1 both.2.1 both.2.2)
    | _ => exact agree.elim
  | obj fs ih =>
    cases w with
    | obj gs =>
      have each : ∀ f ∈ fs, ¬ (¬ matched f.1 ∧ (named f.1 ∨ Exposed matched named f.2)) :=
        fun f inside exposed => covered (exposedFields_iff.mpr ⟨f, inside, exposed⟩)
      refine agreeFields_iff.mpr (((List.forall₂_and_left _ _).mpr ⟨fun f inside => @ih f inside,
        (List.forall₂_and_left _ _).mpr ⟨each, agreeFields_iff.mp agree⟩⟩).imp ?_)
      rintro f g ⟨value, inner, key, here⟩
      refine ⟨key, ?_⟩
      by_cases is : matched f.1
      · exact .inl is
      · have plain : ¬ named f.1 := fun name => inner ⟨is, .inl name⟩
        have below : ¬ Exposed matched named f.2 := fun exposed => inner ⟨is, .inr exposed⟩
        exact .inr (value below (here.resolve_left plain))
    | _ => exact agree.elim

/-- Another value in the place of one. -/
theorem exists_forall₂_of_mem {α : Type} {R S : α → α → Prop} (same : ∀ a, R a a) {as : List α}
    {a b : α} (inside : a ∈ as) (related : R a b) (differs : ¬ S a b) :
    ∃ bs, List.Forall₂ R as bs ∧ ¬ List.Forall₂ S as bs := by
  obtain ⟨before, after, rfl⟩ := List.append_of_mem inside
  refine ⟨before ++ b :: after, ?_, fun all => differs ?_⟩
  · exact List.rel_append (List.forall₂_same.mpr fun a _ => same a)
      (.cons related (List.forall₂_same.mpr fun a _ => same a))
  · have last := List.forall₂_drop before.length all
    rw [List.drop_left, List.drop_left] at last
    exact (List.forall₂_cons.mp last).1

/-- A value that is nowhere like another. -/
theorem exists_disagree (hidden : String → Prop) (v : Json) : ∃ w, ¬ Agree hidden v w := by
  cases v with
  | null => exact ⟨.bool true, id⟩
  | _ => exact ⟨.null, id⟩

/-- **Where a named key is exposed**, the value under it makes a difference. -/
theorem exists_of_exposed {v : Json} (exposed : Exposed matched named v) :
    ∃ w, Agree named v w ∧ ¬ Agree matched v w := by
  induction v using induct with
  | null | bool | num | str => exact exposed.elim
  | arr vs ih =>
    obtain ⟨v, inside, below⟩ := exposedItems_iff.mp exposed
    obtain ⟨w, agree, differs⟩ := ih v inside below
    obtain ⟨ws, all, not⟩ := exists_forall₂_of_mem (agree_refl named) inside agree differs
    exact ⟨.arr ws, agreeItems_iff.mpr all, fun also => not (agreeItems_iff.mp also)⟩
  | obj fs ih =>
    obtain ⟨f, inside, open_, here⟩ := exposedFields_iff.mp exposed
    have other : ∃ w, (named f.1 ∨ Agree named f.2 w) ∧ ¬ Agree matched f.2 w := by
      rcases here with name | below
      · obtain ⟨w, differs⟩ := exists_disagree matched f.2
        exact ⟨w, .inl name, differs⟩
      · obtain ⟨w, agree, differs⟩ := ih f inside below
        exact ⟨w, .inr agree, differs⟩
    obtain ⟨w, agree, differs⟩ := other
    have one : AgreeField named f (f.1, w) := ⟨rfl, agree⟩
    have apart : ¬ AgreeField matched f (f.1, w) := fun both => both.2.elim open_ differs
    obtain ⟨gs, all, not⟩ := exists_forall₂_of_mem
      (fun f => ⟨rfl, .inr (agree_refl named f.2)⟩) inside one apart
    exact ⟨.obj gs, agreeFields_iff.mpr all, fun also => not (agreeFields_iff.mp also)⟩

end Agree

end AcadID.Lib.Json
