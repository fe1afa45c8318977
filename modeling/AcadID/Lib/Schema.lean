/-
**Schemas: from a value that may be undefined to a typed value, or to every issue found.**

A `Schema α` reads an optional JSON value. An object schema reads its fields one by one and
collects the issues of all of them, each at the path it was found at.

* `Checked` — a value or the issues found, with the applicative that collects the issues of both
  sides.
* `string`, `number`, `boolean`, `enum`, `array`, `record`, `optional`, `nullable`, `withDefault` and
  `object` — the schemas; `field` reads one field of an object.
* `ReadsBack` — a schema reads what it has read before, once that is written down again; each schema
  has its lemma.
-/

import AcadID.Lib.Json
import AcadID.Lib.Text

namespace AcadID.Lib

/-- A check that failed: where, and which. -/
structure Issue where
  path : List String
  code : String
  deriving DecidableEq, Repr

/-- A value, or the issues that were found instead. -/
inductive Checked (α : Type) where
  | valid (value : α)
  | issues (found : List Issue)
  deriving DecidableEq, Repr

namespace Checked

variable {α β : Type}

def map (f : α → β) : Checked α → Checked β
  | .valid a => .valid (f a)
  | .issues found => .issues found

/-- Both sides are read, and the issues of both collected. -/
def ap : Checked (α → β) → Checked α → Checked β
  | .valid f, .valid a => .valid (f a)
  | .valid _, .issues found => .issues found
  | .issues found, .valid _ => .issues found
  | .issues left, .issues right => .issues (left ++ right)

instance : Applicative Checked where
  pure := .valid
  map := Checked.map
  seq f a := f.ap (a ())

/-- The issues, each one step further down. -/
def under (key : String) : Checked α → Checked α
  | .valid a => .valid a
  | .issues found => .issues (found.map fun issue => { issue with path := key :: issue.path })

/-- A check of a value that passed its own schema; what it finds is at `path`. -/
def refine (holds : α → Bool) (path : List String) : Checked α → Checked α
  | .valid a => if holds a then .valid a else .issues [⟨path, "custom"⟩]
  | .issues found => .issues found

@[simp] theorem pure_eq (a : α) : (pure a : Checked α) = .valid a := rfl

@[simp] theorem map_valid (f : α → β) (a : α) :
    (f <$> (.valid a : Checked α)) = .valid (f a) := rfl

/-- **An application is valid** exactly when both sides are. -/
theorem seq_eq_valid {f : Checked (α → β)} {a : Checked α} {b : β} :
    f <*> a = .valid b ↔ ∃ g x, f = .valid g ∧ a = .valid x ∧ b = g x := by
  show f.ap a = .valid b ↔ _
  cases f with
  | valid g =>
    cases a with
    | valid x => simp [ap, eq_comm]
    | issues found => simp [ap]
  | issues left => cases a <;> simp [ap]

theorem map_eq_valid {f : α → β} {a : Checked α} {b : β} :
    f <$> a = .valid b ↔ ∃ x, a = .valid x ∧ b = f x := by
  show a.map f = .valid b ↔ _
  cases a <;> simp [map, eq_comm]

/-- **A refinement is valid** exactly when the value is and the check holds of it. -/
theorem refine_eq_valid {holds : α → Bool} {path : List String} {a : Checked α} {x : α} :
    a.refine holds path = .valid x ↔ a = .valid x ∧ holds x = true := by
  cases a with
  | issues found => simp [refine]
  | valid y =>
    show (if holds y then Checked.valid y else _) = _ ↔ _
    split
    · rename_i held
      exact ⟨fun same => ⟨same, Checked.valid.inj same ▸ held⟩, fun both => both.1⟩
    · rename_i failed
      refine ⟨fun same => absurd same (by simp), fun both => absurd both.2 ?_⟩
      rwa [← Checked.valid.inj both.1]

theorem under_eq_valid {key : String} {a : Checked α} {x : α} :
    a.under key = .valid x ↔ a = .valid x := by
  cases a <;> simp [under]

end Checked

/-- A reader of values; `none` is `undefined`. -/
def Schema (α : Type) : Type :=
  Option Json → Checked α

namespace Schema

variable {α β : Type}

/-- The value passes every check, or the codes of those it fails are the issues. -/
def passing (checks : List (α → Option String)) (a : α) : Checked α :=
  match checks.filterMap fun check => check a with
  | [] => .valid a
  | codes => .issues (codes.map fun code => ⟨[], code⟩)

def invalidType : Checked α :=
  .issues [⟨[], "invalid_type"⟩]

def string (checks : List (String → Option String)) : Schema String
  | some (.str s) => passing checks s
  | _ => invalidType

def number (checks : List (ℚ → Option String)) : Schema ℚ
  | some (.num q) => passing checks q
  | _ => invalidType

def isInteger (q : ℚ) : Option String :=
  if q.den = 1 then none else some "invalid_type"

/-- `number().int()`, and more checks. -/
def integer (checks : List (ℚ → Option String)) : Schema ℤ :=
  fun v => Rat.num <$> number (isInteger :: checks) v

def boolean : Schema Bool
  | some (.bool b) => .valid b
  | _ => invalidType

/-- One of the named values. -/
def enum (values : List (String × α)) : Schema α
  | some (.str s) =>
    match values.find? fun named => named.1 = s with
    | some named => .valid named.2
    | none => .issues [⟨[], "invalid_enum_value"⟩]
  | _ => invalidType

/-- An array; the path of an item's issue begins with its position. -/
def array (item : Schema α) (checks : List (List Json → Option String)) : Schema (List α)
  | some (.arr vs) =>
    let sized := passing checks vs
    let read := (vs.zipIdx.map fun v => (item (some v.1)).under (toString v.2)).foldr
      (fun first rest => (· :: ·) <$> first <*> rest) (.valid [])
    (fun _ items => items) <$> sized <*> read
  | _ => invalidType

def optional (s : Schema α) : Schema (Option α)
  | none => .valid none
  | some v => (s (some v)).map some

def withDefault (a : α) (s : Schema α) : Schema α
  | none => .valid a
  | some v => s (some v)

/-- `null`, or a value of the schema. -/
def nullable (s : Schema α) : Schema (Option α)
  | some .null => .valid none
  | v => (s v).map some

/-- An object of any fields. -/
def record : Schema Json
  | some (.obj fs) => .valid (.obj fs)
  | _ => invalidType

/-- Any value; an absent one is `undefined`. -/
def unknown : Schema (Option Json) :=
  .valid

/-- The field `key` of the object being read. -/
def field (v : Json) (key : String) (s : Schema α) : Checked α :=
  (s (v.get? key)).under key

/-- An object, read field by field. -/
def object (read : Json → Checked α) : Schema α
  | some (.obj fs) => read (.obj fs)
  | _ => invalidType

/-! ### Checks -/

def minLength (n : ℕ) (s : String) : Option String :=
  if Text.utf16Length s < n then some "too_small" else none

def maxLength (n : ℕ) (s : String) : Option String :=
  if n < Text.utf16Length s then some "too_big" else none

/-- `length(n)`, which reports on which side it fails. -/
def exactLength (n : ℕ) (s : String) : Option String :=
  if n < Text.utf16Length s then some "too_big"
  else if Text.utf16Length s < n then some "too_small"
  else none

/-- A format the string must have. -/
def formatted (has : String → Bool) (s : String) : Option String :=
  if has s then none else some "invalid_string"

@[simp] theorem formatted_eq_none {has : String → Bool} {s : String} :
    formatted has s = none ↔ has s = true := by
  unfold formatted
  by_cases is : has s = true <;> simp [is]

def atLeast (bound q : ℚ) : Option String :=
  if q < bound then some "too_small" else none

def atMost (bound q : ℚ) : Option String :=
  if bound < q then some "too_big" else none

def positive (q : ℚ) : Option String :=
  if 0 < q then none else some "too_small"

def minItems (n : ℕ) (vs : List Json) : Option String :=
  if vs.length < n then some "too_small" else none

def maxItems (n : ℕ) (vs : List Json) : Option String :=
  if n < vs.length then some "too_big" else none

/-- **A value passes** exactly when no check objects. -/
theorem passing_eq_valid {checks : List (α → Option String)} {a b : α} :
    passing checks a = .valid b ↔ a = b ∧ ∀ check ∈ checks, check a = none := by
  unfold passing
  split
  · rename_i passed
    rw [List.filterMap_eq_nil_iff] at passed
    exact ⟨fun same => ⟨Checked.valid.inj same, passed⟩, fun both => by rw [both.1]⟩
  · rename_i codes failed
    refine ⟨fun same => absurd same (by simp), fun both => absurd ?_ failed⟩
    exact List.filterMap_eq_nil_iff.mpr both.2

theorem string_eq_valid {checks : List (String → Option String)} {v : Option Json} {s : String} :
    string checks v = .valid s ↔ v = some (.str s) ∧ ∀ check ∈ checks, check s = none := by
  unfold string
  split
  · rename_i t
    rw [passing_eq_valid]
    constructor
    · rintro ⟨rfl, passed⟩
      exact ⟨rfl, passed⟩
    · rintro ⟨same, passed⟩
      exact ⟨Json.str.inj (Option.some.inj same), Json.str.inj (Option.some.inj same) ▸ passed⟩
  · rename_i other
    refine ⟨fun same => absurd same (by simp [invalidType]), fun both => ?_⟩
    exact absurd both.1 (other s)

theorem optional_eq_valid {s : Schema α} {v : Json} {a : Option α} :
    optional s (some v) = .valid a ↔ ∃ x, s (some v) = .valid x ∧ a = some x :=
  Checked.map_eq_valid

/-- An optional value that is there passes the schema. -/
theorem of_optional {s : Schema α} {v : Option Json} {a : Option α}
    (read : optional s v = .valid a) : ∀ x ∈ a, s v = .valid x := by
  intro x there
  cases v with
  | none =>
    obtain rfl := Checked.valid.inj read
    exact absurd there (by simp)
  | some v =>
    obtain ⟨y, passed, rfl⟩ := optional_eq_valid.mp read
    rw [passed, Option.some.inj there]

/-- A value that is not `null` passes the schema. -/
theorem of_nullable {s : Schema α} {v : Option Json} {a : Option α}
    (read : nullable s v = .valid a) : ∀ x ∈ a, s v = .valid x := by
  intro x there
  unfold nullable at read
  split at read
  · obtain rfl := Checked.valid.inj read
    exact absurd there (by simp)
  · obtain ⟨y, passed, rfl⟩ := Checked.map_eq_valid.mp read
    rw [passed, Option.some.inj there]

/-- **An object is read** from its fields. -/
theorem object_eq_valid {read : Json → Checked α} {v : Option Json} {a : α} :
    object read v = .valid a ↔ ∃ fs, v = some (.obj fs) ∧ read (.obj fs) = .valid a := by
  unfold object
  split
  · rename_i fs
    exact ⟨fun passed => ⟨fs, rfl, passed⟩, fun ⟨gs, same, passed⟩ => by
      rw [Json.obj.inj (Option.some.inj same)]
      exact passed⟩
  · rename_i other
    exact ⟨fun same => absurd same (by simp [invalidType]), fun ⟨fs, same, _⟩ =>
      absurd same (other fs)⟩

@[simp] theorem optional_none (s : Schema α) : optional s none = .valid none := rfl

@[simp] theorem withDefault_some (a : α) (s : Schema α) (v : Json) :
    withDefault a s (some v) = s (some v) := rfl

/-- **An integer is read** from a number without a fraction that passes every check. -/
theorem integer_eq_valid {checks : List (ℚ → Option String)} {v : Option Json} {z : ℤ} :
    integer checks v = .valid z ↔ v = some (.num z) ∧ ∀ check ∈ checks, check z = none := by
  unfold integer
  rw [Checked.map_eq_valid]
  constructor
  · rintro ⟨q, read, rfl⟩
    unfold number at read
    split at read
    · obtain ⟨rfl, passed⟩ := passing_eq_valid.mp read
      rename_i q
      have whole : q.den = 1 := by
        have here := passed isInteger (List.mem_cons_self ..)
        unfold isInteger at here
        split at here
        · assumption
        · exact absurd here (by simp)
      have same : ((q.num : ℤ) : ℚ) = q := Rat.den_eq_one_iff q |>.mp whole
      rw [same]
      exact ⟨rfl, fun check inside => passed check (List.mem_cons_of_mem _ inside)⟩
    · exact absurd read (by simp [invalidType])
  · rintro ⟨rfl, passed⟩
    refine ⟨z, ?_, (Rat.num_intCast z).symm⟩
    unfold number
    rw [passing_eq_valid]
    refine ⟨rfl, fun check inside => ?_⟩
    rcases List.mem_cons.mp inside with rfl | rest
    · simp [isInteger]
    · exact passed check rest

/-! ### Reading back what was written -/

/-- The schema reads a value it has returned before from what `print` writes of it. -/
def ReadsBack (s : Schema α) (print : α → Option Json) : Prop :=
  ∀ v a, s v = .valid a → s (print a) = .valid a

theorem readsBack_string (checks : List (String → Option String)) :
    ReadsBack (string checks) fun s => some (.str s) := by
  intro v s read
  exact string_eq_valid.mpr ⟨rfl, (string_eq_valid.mp read).2⟩

theorem number_eq_valid {checks : List (ℚ → Option String)} {v : Option Json} {q : ℚ} :
    number checks v = .valid q ↔ v = some (.num q) ∧ ∀ check ∈ checks, check q = none := by
  unfold number
  split
  · rename_i t
    rw [passing_eq_valid]
    constructor
    · rintro ⟨rfl, passed⟩
      exact ⟨rfl, passed⟩
    · rintro ⟨same, passed⟩
      exact ⟨Json.num.inj (Option.some.inj same), Json.num.inj (Option.some.inj same) ▸ passed⟩
  · rename_i other
    refine ⟨fun same => absurd same (by simp [invalidType]), fun both => ?_⟩
    exact absurd both.1 (other q)

theorem readsBack_number (checks : List (ℚ → Option String)) :
    ReadsBack (number checks) fun q => some (.num q) := by
  intro v q read
  exact number_eq_valid.mpr ⟨rfl, (number_eq_valid.mp read).2⟩

/-- A named value reads back when each value's own name leads to it. -/
theorem readsBack_enum {values : List (String × α)} {name : α → String}
    (named : ∀ entry ∈ values,
      (values.find? fun other => other.1 = name entry.2).map Prod.snd = some entry.2) :
    ReadsBack (enum values) fun a => some (.str (name a)) := by
  intro v a read
  have listed : ∃ entry ∈ values, entry.2 = a := by
    unfold enum at read
    split at read
    · split at read
      · rename_i entry found
        exact ⟨entry, List.mem_of_find?_eq_some found, Checked.valid.inj read⟩
      · exact absurd read (by simp)
    · exact absurd read (by simp [invalidType])
  obtain ⟨entry, inside, rfl⟩ := listed
  obtain ⟨other, found, same⟩ := Option.map_eq_some_iff.mp (named entry inside)
  unfold enum
  simp only [found, same]

theorem readsBack_optional {s : Schema α} {print : α → Json}
    (back : ReadsBack s fun a => some (print a)) :
    ReadsBack (optional s) fun a => a.map print := by
  intro v a read
  cases v with
  | none =>
    obtain rfl := Checked.valid.inj read
    rfl
  | some v =>
    obtain ⟨x, first, rfl⟩ := optional_eq_valid.mp read
    exact optional_eq_valid.mpr ⟨x, back (some v) x first, rfl⟩

theorem readsBack_withDefault {s : Schema α} {print : α → Json} {a : α}
    (back : ReadsBack s fun a => some (print a)) (default_ : s (some (print a)) = .valid a) :
    ReadsBack (withDefault a s) fun a => some (print a) := by
  intro v b read
  cases v with
  | none =>
    obtain rfl := Checked.valid.inj read
    exact default_
  | some v => exact back (some v) b read

/-- The items of an array, each under its position. -/
theorem items_eq_valid {item : Schema α} {vs : List Json} {start : ℕ} {xs : List α} :
    ((vs.zipIdx start).map fun v => (item (some v.1)).under (toString v.2)).foldr
        (fun first rest => (· :: ·) <$> first <*> rest) (.valid []) = .valid xs ↔
      List.Forall₂ (fun v x => item (some v) = .valid x) vs xs := by
  induction vs generalizing start xs with
  | nil =>
    rw [List.zipIdx_nil, List.map_nil, List.foldr_nil, List.forall₂_nil_left_iff]
    exact ⟨fun same => (Checked.valid.inj same).symm, fun same => by rw [same]⟩
  | cons v vs ih =>
    rw [List.zipIdx_cons, List.map_cons, List.foldr_cons, Checked.seq_eq_valid,
      List.forall₂_cons_left_iff]
    constructor
    · rintro ⟨g, rest, first, others, rfl⟩
      obtain ⟨x, read, rfl⟩ := Checked.map_eq_valid.mp first
      exact ⟨x, rest, Checked.under_eq_valid.mp read, ih.mp others, rfl⟩
    · rintro ⟨x, rest, read, others, rfl⟩
      exact ⟨_, rest, Checked.map_eq_valid.mpr ⟨x, Checked.under_eq_valid.mpr read, rfl⟩,
        ih.mpr others, rfl⟩

/-- **An array is read** item by item. -/
theorem array_eq_valid {item : Schema α} {checks : List (List Json → Option String)}
    {v : Option Json} {xs : List α} :
    array item checks v = .valid xs ↔ ∃ vs, v = some (.arr vs) ∧
      (∀ check ∈ checks, check vs = none) ∧
        List.Forall₂ (fun v x => item (some v) = .valid x) vs xs := by
  unfold array
  split
  · rename_i vs
    simp only [Checked.seq_eq_valid, Checked.map_eq_valid, items_eq_valid, passing_eq_valid]
    constructor
    · rintro ⟨g, rest, ⟨w, ⟨rfl, sized⟩, rfl⟩, read, rfl⟩
      exact ⟨vs, rfl, sized, read⟩
    · rintro ⟨ws, same, sized, read⟩
      obtain rfl := Json.arr.inj (Option.some.inj same)
      exact ⟨_, xs, ⟨vs, ⟨rfl, sized⟩, rfl⟩, read, rfl⟩
  · rename_i other
    refine ⟨fun same => absurd same (by simp [invalidType]), fun ⟨vs, same, _⟩ => ?_⟩
    exact absurd same (other vs)

/-- An array whose checks look at its length alone reads back. -/
theorem readsBack_array {item : Schema α} {checks : List (List Json → Option String)}
    {print : α → Json} (back : ReadsBack item fun a => some (print a))
    (lengths : ∀ check ∈ checks, ∀ vs ws, vs.length = ws.length → check vs = check ws) :
    ReadsBack (array item checks) fun xs => some (.arr (xs.map print)) := by
  intro v xs read
  obtain ⟨vs, -, sized, items⟩ := array_eq_valid.mp read
  refine array_eq_valid.mpr ⟨xs.map print, rfl, fun check inside => ?_, ?_⟩
  · have same : (xs.map print).length = vs.length := by
      rw [List.length_map, items.length_eq]
    rw [lengths check inside _ _ same]
    exact sized check inside
  · clear sized read
    induction items with
    | nil => exact .nil
    | cons first _ ih => exact .cons (back _ _ first) ih

theorem lengths_items (n m : ℕ) : ∀ check ∈ [minItems n, maxItems m], ∀ vs ws,
    vs.length = ws.length → check vs = check ws := by
  intro check inside vs ws same
  rcases List.mem_cons.mp inside with rfl | last
  · unfold minItems
    rw [same]
  · obtain rfl := List.mem_singleton.mp last
    unfold maxItems
    rw [same]

theorem field_eq_valid {s : Schema α} {v : Json} {key : String} {a : α} :
    field v key s = .valid a ↔ s (v.get? key) = .valid a :=
  Checked.under_eq_valid

/-- A field written again is read back. -/
theorem field_back {s : Schema α} {print : α → Option Json} (back : ReadsBack s print)
    {v w : Json} {key : String} {a : α} (read : field v key s = .valid a)
    (written : w.get? key = print a) : field w key s = .valid a := by
  rw [field_eq_valid, written]
  exact back _ a (field_eq_valid.mp read)

/-- An object of fields that read back does too. -/
theorem readsBack_object {read : Json → Checked α} {print : α → List (String × Option Json)}
    (back : ∀ v a, read v = .valid a → read (Json.fields (print a)) = .valid a) :
    ReadsBack (object read) fun a => some (Json.fields (print a)) := by
  intro v a passed
  unfold object at passed
  split at passed
  · exact back _ a passed
  · exact absurd passed (by simp [invalidType])

end Schema

end AcadID.Lib
