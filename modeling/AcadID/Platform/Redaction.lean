/-
**What the structured logger redacts.**

* `redact` — the values of keys that `sensitiveKeyPattern` matches are replaced, at any depth.
* `redact_eq_iff` — **two values are logged alike exactly when they agree but for the values of
  matched keys**.
* `NamesSensitive` — a key that spells a sensitive field, whatever the case of its letters and
  whatever stands between the words of the field.
* `redacts_iff` — **what is sensitive stays out of the log exactly when every key that names a
  sensitive field, outside of what is redacted, is matched by the pattern**: the pattern knows the
  words of a private key and of a recovery code only where nothing stands between them.
-/

import AcadID.Lib.Agree
import AcadID.Lib.Text

namespace AcadID.StructuredLogger

open Lib

/-! ### Redaction -/

/-- `/(password|secret|token|authorization|cookie|credential|privatekey|recoverycode|nin|bvn)/i` -/
def patternWords : List String :=
  ["password", "secret", "token", "authorization", "cookie", "credential", "privatekey",
    "recoverycode", "nin", "bvn"]

/-- A key in lower case. Without its `u` flag the pattern compares ASCII letters only. -/
def lower (key : String) : List Char :=
  key.toList.map Char.toLower

def sensitiveKeyPattern (key : String) : Bool :=
  patternWords.any fun word => (lower key).tails.any (word.toList.isPrefixOf ·)

mutual

def redact : Json → Json
  | .arr items => .arr (redactItems items)
  | .obj entries => .obj (redactEntries entries)
  | value => value

def redactItems : List Json → List Json
  | [] => []
  | item :: items => redact item :: redactItems items

def redactEntries : List (String × Json) → List (String × Json)
  | [] => []
  | (key, child) :: entries =>
    (key, if sensitiveKeyPattern key then .str "[REDACTED]" else redact child) ::
      redactEntries entries

end

theorem redactItems_eq (items : List Json) : redactItems items = items.map redact := by
  induction items with
  | nil => rfl
  | cons item items ih => rw [redactItems, ih, List.map_cons]

/-- An entry with its value redacted. -/
def redactEntry (entry : String × Json) : String × Json :=
  (entry.1, if sensitiveKeyPattern entry.1 then .str "[REDACTED]" else redact entry.2)

theorem redactEntries_eq (entries : List (String × Json)) :
    redactEntries entries = entries.map redactEntry := by
  induction entries with
  | nil => rfl
  | cons entry entries ih => rw [redactEntries, ih, List.map_cons, redactEntry]

/-- The pattern matches the key. -/
abbrev Matched (key : String) : Prop :=
  sensitiveKeyPattern key = true

/-! ### What a log tells apart -/

theorem redactEntry_eq_iff {f g : String × Json}
    (values : redact f.2 = redact g.2 ↔ Json.Agree Matched f.2 g.2) :
    redactEntry f = redactEntry g ↔ Json.AgreeField Matched f g := by
  unfold redactEntry Json.AgreeField
  rw [Prod.mk.injEq]
  refine and_congr_right fun key => ?_
  rw [← key]
  by_cases is : sensitiveKeyPattern f.1
  · rw [if_pos is, if_pos is]
    exact ⟨fun _ => .inl is, fun _ => rfl⟩
  · rw [if_neg is, if_neg is, values]
    exact ⟨.inr, fun here => here.resolve_left is⟩

/-- **Two values are logged alike exactly when they agree but for the values of matched keys.** -/
theorem redact_eq_iff {v w : Json} : redact v = redact w ↔ Json.Agree Matched v w := by
  induction v using Json.induct generalizing w with
  | null | bool | num | str => cases w <;> simp [redact, Json.Agree]
  | arr vs ih =>
    cases w with
    | arr ws =>
      rw [redact, redact, Json.arr.injEq, redactItems_eq, redactItems_eq, ← List.forall₂_eq_eq_eq,
        List.forall₂_map_left_iff, List.forall₂_map_right_iff, Json.Agree, Json.agreeItems_iff]
      exact Json.forall₂_congr_of_mem fun v inside w => ih v inside
    | _ => simp [redact, Json.Agree]
  | obj fs ih =>
    cases w with
    | obj gs =>
      rw [redact, redact, Json.obj.injEq, redactEntries_eq, redactEntries_eq,
        ← List.forall₂_eq_eq_eq, List.forall₂_map_left_iff, List.forall₂_map_right_iff, Json.Agree,
        Json.agreeFields_iff]
      exact Json.forall₂_congr_of_mem fun f inside g => redactEntry_eq_iff (ih f inside)
    | _ => simp [redact, Json.Agree]

/-- **Nothing changes but the values of matched keys.** -/
theorem agree_redact (v : Json) : Json.Agree Matched v (redact v) := by
  induction v using Json.induct with
  | null => trivial
  | bool | num | str => rfl
  | arr vs ih =>
    rw [redact, redactItems_eq, Json.Agree, Json.agreeItems_iff, List.forall₂_map_right_iff]
    exact List.forall₂_same.mpr ih
  | obj fs ih =>
    rw [redact, redactEntries_eq, Json.Agree, Json.agreeFields_iff, List.forall₂_map_right_iff]
    refine List.forall₂_same.mpr fun f inside => ⟨rfl, ?_⟩
    unfold redactEntry
    by_cases is : sensitiveKeyPattern f.1
    · exact .inl is
    · rw [if_neg is]
      exact .inr (ih f inside)

theorem redact_redact (v : Json) : redact (redact v) = redact v :=
  (redact_eq_iff.mpr (agree_redact v)).symm

/-! ### The keys of sensitive fields -/

/-- The sensitive fields, by their words. -/
def sensitiveFields : List (List String) :=
  [["password"], ["secret"], ["token"], ["authorization"], ["cookie"], ["credential"],
    ["private", "key"], ["recovery", "code"], ["nin"], ["bvn"]]

/-- What may stand between the words of a field: a dash, an underscore, a blank, a point. -/
def separator (c : Char) : Bool :=
  decide (c.toNat < 128) && !c.isAlphanum

/-- The characters begin with the words, with nothing but separators between them. -/
def spelled : List String → List Char → Bool
  | [], _ => true
  | word :: words, chars =>
    word.toList.isPrefixOf chars &&
      spelled words ((chars.drop word.toList.length).dropWhile separator)

/-- **The key names a sensitive field**: it spells one, in any letter case and separator style. -/
def NamesSensitive (key : String) : Prop :=
  ∃ field ∈ sensitiveFields, (lower key).tails.any (spelled field) = true

instance : DecidablePred NamesSensitive :=
  fun _ => inferInstanceAs (Decidable (∃ field ∈ sensitiveFields, _))

example : NamesSensitive "Private-Key" ∧ NamesSensitive "recovery_code_hash" ∧
    ¬ NamesSensitive "keyPrivacy" := by decide

/-- Words with nothing between them are spelled. -/
theorem spelled_of_join {words : List String}
    (letters : ∀ word ∈ words, word.toList.head?.any (!separator ·) = true)
    {chars : List Char} (starts : (words.flatMap String.toList) <+: chars) :
    spelled words chars = true := by
  induction words generalizing chars with
  | nil => rfl
  | cons word words ih =>
    obtain ⟨rest, rfl⟩ := starts
    rw [List.flatMap_cons, List.append_assoc, spelled, Bool.and_eq_true_iff]
    refine ⟨List.isPrefixOf_iff_prefix.mpr (List.prefix_append _ _), ?_⟩
    rw [List.drop_left]
    cases words with
    | nil => rfl
    | cons next words =>
      obtain ⟨c, first, letter⟩ := (Option.any_eq_true _ _).mp (letters next (by simp))
      rw [Text.dropWhile_of_head?]
      · exact ih (fun word inside => letters word (.tail _ inside)) (List.prefix_append _ _)
      · intro d head
        rw [List.flatMap_cons, List.append_assoc, List.head?_append, first] at head
        rw [← Option.some.inj head]
        simpa using letter

/-- The words of the pattern are those of the fields, one behind another. -/
theorem patternWords_fields :
    ∀ word ∈ patternWords,
      ∃ field ∈ sensitiveFields, field.flatMap String.toList = word.toList := by
  decide

theorem fields_begin :
    ∀ field ∈ sensitiveFields, ∀ word ∈ field,
      word.toList.head?.any (!separator ·) = true := by
  decide

/-- **Every key that the pattern matches names a sensitive field.** -/
theorem names_of_matched {key : String} (is : Matched key) : NamesSensitive key := by
  obtain ⟨word, listed, found⟩ := List.any_eq_true.mp is
  obtain ⟨tail, inside, starts⟩ := List.any_eq_true.mp found
  obtain ⟨field, sensitive, same⟩ := patternWords_fields word listed
  refine ⟨field, sensitive, List.any_eq_true.mpr ⟨tail, inside, ?_⟩⟩
  refine spelled_of_join (fields_begin field sensitive) ?_
  rw [same]
  exact List.isPrefixOf_iff_prefix.mp starts

/-! ### What is kept out of the log -/

/-- **Redaction does what a log needs of it**: to redact again changes nothing, what is under no
matched key is kept, and the result does not depend on what is stored under keys that name a
sensitive field. -/
structure Redacts (v : Json) : Prop where
  idempotent : redact (redact v) = redact v
  keeps : Json.Agree Matched v (redact v)
  hides : ∀ w, Json.Agree NamesSensitive v w → redact v = redact w

/-- A key that names a sensitive field in a spelling that the pattern does not match, outside of
what is redacted. -/
def Misspelled (v : Json) : Prop :=
  Json.Exposed Matched NamesSensitive v

/-- What stands under such a key is logged. -/
theorem leaks_of_misspelled {v : Json} (misspelled : Misspelled v) : ¬ Redacts v := by
  intro redacts
  obtain ⟨w, agree, differs⟩ := Json.exists_of_exposed misspelled
  exact differs (redact_eq_iff.mp (redacts.hides w agree))

/-- **Redaction keeps what is sensitive out of a value exactly when no key of it, outside of what is
redacted, names a sensitive field in a spelling that the pattern does not match.** -/
theorem redacts_iff (v : Json) : Redacts v ↔ ¬ Misspelled v := by
  refine ⟨fun redacts misspelled => leaks_of_misspelled misspelled redacts, fun covered => ?_⟩
  exact ⟨redact_redact v, agree_redact v, fun w agree =>
    redact_eq_iff.mpr (Json.agree_of_not_exposed covered agree)⟩

/-- **A private key is logged**: the pattern knows `privateKey`, and not `private_key`. -/
theorem redacts_fails : ¬ ∀ v, Redacts v := by
  intro all
  refine leaks_of_misspelled ?_ (all (.obj [("private_key", .str "MC4CAQAwBQYDK2VwBCIEIA")]))
  refine Json.exposedFields_iff.mpr ⟨_, List.mem_singleton_self _, ?_, .inl ?_⟩
  · decide
  · decide

end AcadID.StructuredLogger
