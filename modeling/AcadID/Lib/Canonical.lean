/-
**JSON values up to the order of their keys, and the copy that sorts them.**

* `Json.Same` — equality of values up to the order of the fields of every object;
  `Json.Distinct` — no object has a key twice, which is so for every value that was parsed.
* `assign` — an assignment to a property of an object literal. Its fields are listed as
  `Object.keys` lists them, array indices first; an assignment to `__proto__` leaves none.
* `rebuild` — the value with every object rebuilt by assignments in the order of its sorted keys.
* `rebuild_eq_iff` — **what the copy tells apart**: two values have one copy exactly when they are
  the same without their `__proto__` fields.
-/

import AcadID.Lib.Json
import Mathlib.Data.List.Induction

namespace AcadID.Lib.Json

/-! ### Equal up to the order of keys -/

mutual

/-- Equal up to the order of the fields of every object. -/
def Same : Json → Json → Prop
  | .null, .null => True
  | .bool a, .bool b => a = b
  | .num a, .num b => a = b
  | .str a, .str b => a = b
  | .arr vs, .arr ws => SameItems vs ws
  | .obj fs, .obj gs => ∃ hs, gs.Perm hs ∧ SameFields fs hs
  | _, _ => False

def SameItems : List Json → List Json → Prop
  | [], [] => True
  | v :: vs, w :: ws => Same v w ∧ SameItems vs ws
  | _, _ => False

def SameFields : List (String × Json) → List (String × Json) → Prop
  | [], [] => True
  | (k, v) :: fs, (l, w) :: gs => k = l ∧ Same v w ∧ SameFields fs gs
  | _, _ => False

end

mutual

/-- No object inside the value has a key twice. -/
def Distinct : Json → Prop
  | .arr vs => DistinctItems vs
  | .obj fs => (fs.map Prod.fst).Nodup ∧ DistinctFields fs
  | _ => True

def DistinctItems : List Json → Prop
  | [] => True
  | v :: vs => Distinct v ∧ DistinctItems vs

def DistinctFields : List (String × Json) → Prop
  | [] => True
  | (_, v) :: fs => Distinct v ∧ DistinctFields fs

end

theorem sameItems_iff {vs ws : List Json} : SameItems vs ws ↔ List.Forall₂ Same vs ws := by
  induction vs generalizing ws with
  | nil => cases ws <;> simp [SameItems]
  | cons v vs ih => cases ws <;> simp [SameItems, ih]

theorem sameFields_iff {fs gs : List (String × Json)} :
    SameFields fs gs ↔ List.Forall₂ (fun f g => f.1 = g.1 ∧ Same f.2 g.2) fs gs := by
  induction fs generalizing gs with
  | nil => cases gs <;> simp [SameFields]
  | cons f fs ih =>
    cases gs with
    | nil => simp [SameFields]
    | cons g gs =>
      obtain ⟨k, v⟩ := f
      obtain ⟨l, w⟩ := g
      simp [SameFields, ih, and_assoc]

theorem distinctItems_iff {vs : List Json} : DistinctItems vs ↔ ∀ v ∈ vs, Distinct v := by
  induction vs with
  | nil => simp [DistinctItems]
  | cons v vs ih => simp [DistinctItems, ih]

theorem distinctFields_iff {fs : List (String × Json)} :
    DistinctFields fs ↔ ∀ f ∈ fs, Distinct f.2 := by
  induction fs with
  | nil => simp [DistinctFields]
  | cons f fs ih => simp [DistinctFields, ih]

theorem same_refl (v : Json) : Same v v := by
  induction v using induct with
  | null => trivial
  | bool b | num q | str s => rfl
  | arr vs ih => exact sameItems_iff.mpr (List.forall₂_same.mpr ih)
  | obj fs ih =>
    refine ⟨fs, .refl _, sameFields_iff.mpr (List.forall₂_same.mpr fun f inside => ?_)⟩
    exact ⟨rfl, ih f inside⟩

/-- Fields taken away by their keys, from both. -/
theorem same_filter {fs gs : List (String × Json)} (same : Same (.obj fs) (.obj gs))
    (keep : String → Bool) :
    Same (.obj (fs.filter fun f => keep f.1)) (.obj (gs.filter fun f => keep f.1)) := by
  obtain ⟨hs, moved, fields⟩ := same
  refine ⟨hs.filter fun f => keep f.1, moved.filter _, ?_⟩
  rw [sameFields_iff] at fields ⊢
  clear moved
  induction fields with
  | nil => exact .nil
  | @cons f h _ _ here _ rest =>
    simp only [List.filter_cons, ← here.1]
    by_cases kept : keep f.1 = true
    · rw [if_pos kept, if_pos kept]
      exact .cons here rest
    · rw [if_neg kept, if_neg kept]
      exact rest

/-- An object literal with different names, and values whose keys are different. -/
theorem distinct_fields {fs : List (String × Option Json)} (different : (fs.map Prod.fst).Nodup)
    (values : ∀ f ∈ fs, ∀ v, f.2 = some v → Distinct v) : Distinct (fields fs) := by
  refine ⟨nodup_fields different, distinctFields_iff.mpr fun g inside => ?_⟩
  obtain ⟨f, there, is⟩ := List.mem_filterMap.mp inside
  obtain ⟨v, value, rfl⟩ := Option.map_eq_some_iff.mp is
  exact values f there v value

/-! ### Assignment to an object literal -/

section Assign

variable {α : Type}

/-- A key that is an array index, and its number. -/
def index? (k : String) : Option ℕ :=
  match k.toList with
  | ['0'] => some 0
  | '0' :: _ | [] => none
  | cs =>
    if cs.all Char.isDigit then
      (some (Nat.ofDigitChars 10 cs 0)).filter (· < 4294967295)
    else none

/-- An index below `n`. -/
def indexBelow (n : ℕ) (f : String × α) : Bool :=
  (index? f.1).any (· < n)

/-- `object[key] = value` for a key that the object does not have. -/
def append (fs : List (String × α)) (k : String) (v : α) : List (String × α) :=
  match index? k with
  | none => fs ++ [(k, v)]
  | some n => fs.takeWhile (indexBelow n) ++ (k, v) :: fs.dropWhile (indexBelow n)

/-- `object[key] = value`. An assignment to `__proto__` gives the object a prototype, and no field
of its own. -/
def assign (fs : List (String × α)) (k : String) (v : α) : List (String × α) :=
  if k = "__proto__" then fs
  else if fs.any (fun f => f.1 = k) then fs.map fun f => if f.1 = k then (k, v) else f
  else append fs k v

/-- An object literal, its fields assigned one after the other. -/
def literal (fs : List (String × α)) : List (String × α) :=
  fs.foldl (fun acc f => assign acc f.1 f.2) []

/-- The fields that an assignment leaves. -/
def own (f : String × α) : Bool :=
  f.1 ≠ "__proto__"

theorem append_perm (fs : List (String × α)) (k : String) (v : α) :
    (append fs k v).Perm (fs ++ [(k, v)]) := by
  unfold append
  split
  · exact .refl _
  · rename_i n _
    have middle : (fs.takeWhile (indexBelow n) ++ (k, v) :: fs.dropWhile (indexBelow n)).Perm
        ((k, v) :: (fs.takeWhile (indexBelow n) ++ fs.dropWhile (indexBelow n))) :=
      List.perm_middle
    rw [List.takeWhile_append_dropWhile] at middle
    exact middle.trans (List.perm_append_singleton _ _).symm

/-- **The fields of a literal** whose keys are different are those assigned, but for
`__proto__`. -/
theorem literal_perm {fs : List (String × α)} (different : (fs.map Prod.fst).Nodup) :
    (literal fs).Perm (fs.filter own) := by
  induction fs using List.reverseRecOn with
  | nil => exact .refl _
  | append_singleton fs f ih =>
    obtain ⟨k, v⟩ := f
    rw [List.map_append, List.nodup_append] at different
    obtain ⟨front, -, apart⟩ := different
    have before := ih front
    have step : literal (fs ++ [(k, v)]) = assign (literal fs) k v := by
      unfold literal
      rw [List.foldl_append]
      rfl
    rw [step, List.filter_append]
    unfold assign
    by_cases proto : k = "__proto__"
    · rw [if_pos proto]
      simpa [own, proto] using before
    · have new : (literal fs).any (fun f => f.1 = k) = false := by
        rw [List.any_eq_false]
        intro f inside same
        have there := List.mem_of_mem_filter (before.mem_iff.mp inside)
        exact apart f.1 (List.mem_map_of_mem there) k (by simp) (of_decide_eq_true same)
      rw [if_neg proto, new, if_neg (by simp)]
      refine (append_perm _ k v).trans ?_
      have kept : [(k, v)].filter own = [(k, v)] := by simp [own, proto]
      rw [kept]
      exact before.append_right _

theorem literal_filter_own (fs : List (String × α)) : literal (fs.filter own) = literal fs := by
  induction fs using List.reverseRecOn with
  | nil => rfl
  | append_singleton fs f ih =>
    unfold literal at ih ⊢
    rw [List.filter_append, List.foldl_append, List.foldl_append, ih]
    by_cases kept : f.1 = "__proto__"
    · simp [own, kept, assign]
    · simp [own, kept]

end Assign

/-! ### The rebuilt value -/

mutual

/-- The value without its `__proto__` fields. -/
def bare : Json → Json
  | .null => .null
  | .bool b => .bool b
  | .num q => .num q
  | .str s => .str s
  | .arr vs => .arr (bareItems vs)
  | .obj fs => .obj (bareFields fs)

def bareItems : List Json → List Json
  | [] => []
  | v :: vs => bare v :: bareItems vs

def bareFields : List (String × Json) → List (String × Json)
  | [] => []
  | (k, v) :: fs => if k = "__proto__" then bareFields fs else (k, bare v) :: bareFields fs

end

theorem bareItems_eq (vs : List Json) : bareItems vs = vs.map bare := by
  induction vs with
  | nil => rfl
  | cons v vs ih => rw [bareItems, ih, List.map_cons]

theorem bareFields_eq (fs : List (String × Json)) :
    bareFields fs = (fs.filter own).map fun f => (f.1, bare f.2) := by
  induction fs with
  | nil => rfl
  | cons f fs ih =>
    unfold bareFields
    by_cases proto : f.1 = "__proto__"
    · simp [ih, own, proto]
    · simp [ih, own, proto]

section Rebuild

variable (le : String → String → Prop) [DecidableRel le]

mutual

/-- The value with every object rebuilt from its fields in the order of their keys. -/
def rebuild : Json → Json
  | .null => .null
  | .bool b => .bool b
  | .num q => .num q
  | .str s => .str s
  | .arr vs => .arr (rebuildItems vs)
  | .obj fs => .obj (literal (sortFields le (rebuildFields fs)))

def rebuildItems : List Json → List Json
  | [] => []
  | v :: vs => rebuild v :: rebuildItems vs

def rebuildFields : List (String × Json) → List (String × Json)
  | [] => []
  | (k, v) :: fs => (k, rebuild v) :: rebuildFields fs

end

/-- A field with its value rebuilt. -/
def rebuildField (f : String × Json) : String × Json :=
  (f.1, rebuild le f.2)

theorem rebuildItems_eq (vs : List Json) : rebuildItems le vs = vs.map (rebuild le) := by
  induction vs with
  | nil => rfl
  | cons v vs ih => rw [rebuildItems, ih, List.map_cons]

theorem rebuildFields_eq (fs : List (String × Json)) :
    rebuildFields le fs = fs.map (rebuildField le) := by
  induction fs with
  | nil => rfl
  | cons f fs ih => rw [rebuildFields, ih, List.map_cons, rebuildField]

theorem rebuildFields_keys (fs : List (String × Json)) :
    (fs.map (rebuildField le)).map Prod.fst = fs.map Prod.fst := by
  rw [List.map_map]
  rfl

variable [IsTrans String le] [Std.Total le] [Std.Antisymm le]

omit [IsTrans String le] [Std.Total le] [Std.Antisymm le] in
theorem sortFields_perm {α : Type} (fs : List (String × α)) : (sortFields le fs).Perm fs :=
  List.perm_insertionSort _ fs

omit [Std.Antisymm le] in
theorem sortFields_pairwise {α : Type} (fs : List (String × α)) :
    (sortFields le fs).Pairwise fun f g => le f.1 g.1 := by
  have total : Std.Total fun f g : String × α => le f.1 g.1 :=
    ⟨fun f g => Std.Total.total f.1 g.1⟩
  have trans : IsTrans (String × α) fun f g => le f.1 g.1 :=
    ⟨fun _ _ _ first second => IsTrans.trans _ _ _ first second⟩
  exact List.pairwise_insertionSort _ fs

omit [DecidableRel le] [IsTrans String le] [Std.Total le] in
/-- A list of fields with different keys is put in the order of its keys in one way. -/
theorem eq_of_sorted_perm {α : Type} {fs gs : List (String × α)}
    (different : (fs.map Prod.fst).Nodup) (perm : fs.Perm gs)
    (left : fs.Pairwise fun f g => le f.1 g.1) (right : gs.Pairwise fun f g => le f.1 g.1) :
    fs = gs := by
  refine List.Perm.eq_of_pairwise (fun f g inside there forth back => ?_) left right perm
  have key : f.1 = g.1 := antisymm forth back
  exact List.inj_on_of_nodup_map different inside (perm.mem_iff.mpr there) key

/-- Sorting does not depend on the order the fields come in. -/
theorem sortFields_eq_of_perm {α : Type} {fs gs : List (String × α)}
    (different : (fs.map Prod.fst).Nodup) (perm : fs.Perm gs) :
    sortFields le fs = sortFields le gs := by
  have moved := (sortFields_perm le fs).trans (perm.trans (sortFields_perm le gs).symm)
  refine eq_of_sorted_perm le ?_ moved (sortFields_pairwise le fs) (sortFields_pairwise le gs)
  exact (((sortFields_perm le fs).map Prod.fst).nodup_iff).mpr different

/-- Sorting and leaving `__proto__` out commute. -/
theorem sortFields_filter_own {α : Type} {fs : List (String × α)}
    (different : (fs.map Prod.fst).Nodup) :
    sortFields le (fs.filter own) = (sortFields le fs).filter own := by
  have moved : (sortFields le (fs.filter own)).Perm ((sortFields le fs).filter own) :=
    (sortFields_perm le _).trans ((sortFields_perm le fs).filter own).symm
  refine eq_of_sorted_perm le ?_ moved (sortFields_pairwise le _)
    ((sortFields_pairwise le fs).filter own)
  refine ((sortFields_perm le _).map Prod.fst).nodup_iff.mpr ?_
  exact different.sublist (List.filter_sublist.map Prod.fst)

/-- **The copy does not depend on the order of keys.** -/
theorem rebuild_eq_of_same {v w : Json} (distinct : Distinct v) (same : Same v w) :
    rebuild le v = rebuild le w := by
  induction v using induct generalizing w with
  | null =>
    cases w with
    | null => rfl
    | _ => exact same.elim
  | bool b =>
    cases w with
    | bool => exact congrArg Json.bool same
    | _ => exact same.elim
  | num q =>
    cases w with
    | num => exact congrArg Json.num same
    | _ => exact same.elim
  | str s =>
    cases w with
    | str => exact congrArg Json.str same
    | _ => exact same.elim
  | arr vs ih =>
    cases w with
    | arr ws =>
      have items : vs.map (rebuild le) = ws.map (rebuild le) := by
        have paired := sameItems_iff.mp same
        have each := distinctItems_iff.mp distinct
        clear same distinct
        induction paired with
        | nil => rfl
        | cons here _ rest =>
          rw [List.map_cons, List.map_cons, ih _ (by simp) (each _ (by simp)) here,
            rest (fun v inside => ih v (by simp [inside])) fun v inside => each v (by simp [inside])]
      rw [rebuild, rebuild, rebuildItems_eq, rebuildItems_eq, items]
    | _ => exact same.elim
  | obj fs ih =>
    cases w with
    | obj gs =>
      obtain ⟨hs, moved, fields⟩ := same
      obtain ⟨different, inner⟩ := distinct
      have values : fs.map (rebuildField le) = hs.map (rebuildField le) := by
        have paired := sameFields_iff.mp fields
        have each := distinctFields_iff.mp inner
        clear moved fields different inner
        induction paired with
        | nil => rfl
        | cons here _ rest =>
          rw [List.map_cons, List.map_cons,
            rest (fun f inside => ih f (by simp [inside])) fun f inside => each f (by simp [inside])]
          have value := ih _ (by simp) (each _ (by simp)) here.2
          unfold rebuildField
          rw [here.1, value]
      have keys : ((hs.map (rebuildField le)).map Prod.fst).Nodup := by
        rw [← values, rebuildFields_keys]
        exact different
      rw [rebuild, rebuild, rebuildFields_eq, rebuildFields_eq, values,
        sortFields_eq_of_perm le keys (moved.symm.map (rebuildField le))]
    | _ => exact same.elim

omit [IsTrans String le] [Std.Total le] [Std.Antisymm le] in
/-- **Values with one copy are the same without `__proto__`.** -/
theorem same_of_rebuild_eq {v w : Json} (left : Distinct v) (right : Distinct w)
    (copy : rebuild le v = rebuild le w) : Same (bare v) (bare w) := by
  induction v using induct generalizing w with
  | null =>
    cases w with
    | null => trivial
    | _ => exact absurd copy (by simp [rebuild])
  | bool b =>
    cases w with
    | bool => exact Json.bool.inj copy
    | _ => exact absurd copy (by simp [rebuild])
  | num q =>
    cases w with
    | num => exact Json.num.inj copy
    | _ => exact absurd copy (by simp [rebuild])
  | str s =>
    cases w with
    | str => exact Json.str.inj copy
    | _ => exact absurd copy (by simp [rebuild])
  | arr vs ih =>
    cases w with
    | arr ws =>
      have items := Json.arr.inj copy
      rw [rebuildItems_eq, rebuildItems_eq] at items
      have leftEach := distinctItems_iff.mp left
      have rightEach := distinctItems_iff.mp right
      show SameItems (bareItems vs) (bareItems ws)
      rw [bareItems_eq, bareItems_eq, sameItems_iff, List.forall₂_map_left_iff,
        List.forall₂_map_right_iff]
      rw [← List.forall₂_eq_eq_eq, List.forall₂_map_left_iff, List.forall₂_map_right_iff] at items
      clear copy left right
      induction items with
      | nil => exact .nil
      | cons here _ rest =>
        exact .cons (ih _ (by simp) (leftEach _ (by simp)) (rightEach _ (by simp)) here)
          (rest (fun v inside => ih v (by simp [inside]))
            (fun v inside => leftEach v (by simp [inside]))
            fun w inside => rightEach w (by simp [inside]))
    | _ => exact absurd copy (by simp [rebuild])
  | obj fs ih =>
    cases w with
    | obj gs =>
      have fields := Json.obj.inj copy
      rw [rebuildFields_eq, rebuildFields_eq] at fields
      have perm : ∀ hs : List (String × Json), (hs.map Prod.fst).Nodup →
          (literal (sortFields le (hs.map (rebuildField le)))).Perm
            ((hs.filter own).map (rebuildField le)) := by
        intro hs different
        have keys : ((sortFields le (hs.map (rebuildField le))).map Prod.fst).Nodup := by
          refine ((sortFields_perm le _).map Prod.fst).nodup_iff.mpr ?_
          rw [rebuildFields_keys]
          exact different
        refine (literal_perm keys).trans (((sortFields_perm le _).filter own).trans ?_)
        rw [List.filter_map]
        exact .refl _
      have moved : ((fs.filter own).map (rebuildField le)).Perm
          ((gs.filter own).map (rebuildField le)) := by
        refine (perm fs left.1).symm.trans ?_
        rw [fields]
        exact perm gs right.1
      have leftEach := distinctFields_iff.mp left.2
      have rightEach := distinctFields_iff.mp right.2
      have aligned : List.Forall₂ (fun x g => x = rebuildField le g)
          ((gs.filter own).map (rebuildField le)) (gs.filter own) := by
        rw [List.forall₂_map_left_iff]
        exact List.forall₂_same.mpr fun _ _ => rfl
      obtain ⟨hs, paired, order⟩ := List.perm_comp_forall₂ moved aligned
      rw [List.forall₂_map_left_iff] at paired
      show ∃ hs, (bareFields gs).Perm hs ∧ SameFields (bareFields fs) hs
      refine ⟨hs.map fun g => (g.1, bare g.2), ?_, ?_⟩
      · rw [bareFields_eq]
        exact order.symm.map _
      · rw [bareFields_eq, sameFields_iff, List.forall₂_map_left_iff, List.forall₂_map_right_iff]
        have inLeft : ∀ f ∈ fs.filter own, f ∈ fs := fun _ => List.mem_of_mem_filter
        have inRight : ∀ h ∈ hs, h ∈ gs := fun h inside =>
          List.mem_of_mem_filter (order.mem_iff.mp inside)
        clear copy fields moved perm aligned order left right
        generalize fs.filter own = kept at paired inLeft
        induction paired with
        | nil => exact .nil
        | @cons f h _ _ here _ rest =>
          obtain ⟨key, value⟩ := Prod.mk.inj here
          have first := ih f (inLeft f (by simp)) (leftEach f (inLeft f (by simp)))
            (rightEach h (inRight h (by simp))) value
          exact .cons ⟨key, first⟩ (rest (fun h inside => inRight h (by simp [inside]))
            fun f inside => inLeft f (by simp [inside]))
    | _ => exact absurd copy (by simp [rebuild])

theorem distinct_bare {v : Json} (distinct : Distinct v) : Distinct (bare v) := by
  induction v using induct with
  | null | bool | num | str => trivial
  | arr vs ih =>
    show DistinctItems (bareItems vs)
    rw [bareItems_eq, distinctItems_iff]
    intro w inside
    obtain ⟨v, there, rfl⟩ := List.mem_map.mp inside
    exact ih v there (distinctItems_iff.mp distinct v there)
  | obj fs ih =>
    obtain ⟨different, inner⟩ := distinct
    show ((bareFields fs).map Prod.fst).Nodup ∧ DistinctFields (bareFields fs)
    rw [bareFields_eq, distinctFields_iff, List.map_map]
    refine ⟨different.sublist (List.filter_sublist.map Prod.fst), fun g inside => ?_⟩
    obtain ⟨f, there, rfl⟩ := List.mem_map.mp inside
    have there := List.mem_of_mem_filter there
    exact ih f there (distinctFields_iff.mp inner f there)

/-- **The copy leaves `__proto__` out.** -/
theorem rebuild_bare {v : Json} (distinct : Distinct v) :
    rebuild le (bare v) = rebuild le v := by
  induction v using induct with
  | null | bool | num | str => rfl
  | arr vs ih =>
    show Json.arr (rebuildItems le (bareItems vs)) = .arr (rebuildItems le vs)
    rw [bareItems_eq, rebuildItems_eq, rebuildItems_eq, List.map_map]
    congr 1
    exact List.map_congr_left fun v inside => ih v inside (distinctItems_iff.mp distinct v inside)
  | obj fs ih =>
    obtain ⟨different, inner⟩ := distinct
    show Json.obj (literal (sortFields le (rebuildFields le (bareFields fs)))) =
      .obj (literal (sortFields le (rebuildFields le fs)))
    have values : rebuildFields le (bareFields fs) = (rebuildFields le fs).filter own := by
      rw [bareFields_eq, rebuildFields_eq, rebuildFields_eq, List.map_map, List.filter_map]
      refine List.map_congr_left fun f inside => ?_
      have there := List.mem_of_mem_filter inside
      show (f.1, rebuild le (bare f.2)) = (f.1, rebuild le f.2)
      rw [ih f there (distinctFields_iff.mp inner f there)]
    have keys : ((rebuildFields le fs).map Prod.fst).Nodup := by
      rw [rebuildFields_eq, rebuildFields_keys]
      exact different
    rw [values, sortFields_filter_own le keys, literal_filter_own]

/-- **What the copy tells apart**: two values have one copy exactly when they are the same without
their `__proto__` fields. -/
theorem rebuild_eq_iff {v w : Json} (left : Distinct v) (right : Distinct w) :
    rebuild le v = rebuild le w ↔ Same (bare v) (bare w) := by
  constructor
  · exact same_of_rebuild_eq le left right
  · intro same
    rw [← rebuild_bare le left, ← rebuild_bare le right]
    exact rebuild_eq_of_same le (distinct_bare left) same

end Rebuild

end AcadID.Lib.Json
