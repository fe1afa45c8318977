/-
**The fingerprint of a request, and the order of its keys.**

* `Collates` — `localeCompare` is a total preorder; it may tie keys that differ.
* `stableText_eq_iff` — the fingerprints of two values are the same exactly when the values are
  equal up to the order of keys and list tied keys alike.
* `fingerprint_iff` — **fingerprints tell values apart up to the order of keys, exactly for values
  that list tied keys in one order wherever they are equal up to the order of keys**.
* `fingerprint_fails` — two spellings of a key that `localeCompare` does not tell apart.
-/

import AcadID.Lib.Ties
import AcadID.Platform.Idempotency
import Mathlib.Data.String.Basic

namespace AcadID.Fingerprints

open Lib

/-- `localeCompare` is a total preorder. -/
structure Collates (rt : Runtime) : Prop where
  total : ∀ a b, rt.localeLe a b = true ∨ rt.localeLe b a = true
  trans : ∀ a b c, rt.localeLe a b = true → rt.localeLe b c = true → rt.localeLe a c = true

/-- The order of the keys. -/
abbrev keyOrder (rt : Runtime) (a b : String) : Prop :=
  rt.localeLe a b = true

/-- **The fingerprints of two values are the same** exactly when the values are equal up to the
order of keys and list tied keys alike. -/
theorem stableText_eq_iff {rt : Runtime} (collates : Collates rt) {v w : Json}
    (distinct : v.Distinct) :
    Idempotency.stableText rt v = Idempotency.stableText rt w ↔
      v.Same w ∧ Json.TiesAlike (keyOrder rt) v w := by
  have total : Std.Total (keyOrder rt) := ⟨collates.total⟩
  have trans : IsTrans String (keyOrder rt) := ⟨collates.trans⟩
  unfold Idempotency.stableText
  rw [String.ofList_inj]
  constructor
  · intro printed
    have sorted := Json.stableStringify_inj (keyOrder rt) rt.format printed
    have same := Json.same_of_sortKeys_eq sorted
    exact ⟨same, (Json.sortKeys_eq_iff distinct same).mp sorted⟩
  · rintro ⟨same, alike⟩
    rw [Json.stableStringify_eq, Json.stableStringify_eq,
      (Json.sortKeys_eq_iff distinct same).mpr alike]

/-- **Fingerprints are the same exactly for values that are equal up to the order of keys, if and
only if two values that are so list the keys that `localeCompare` ties in one order.** -/
theorem fingerprint_iff (rt : Runtime) (collates : Collates rt) (v w : Json)
    (distinct : v.Distinct) :
    (Idempotency.stableText rt v = Idempotency.stableText rt w ↔ v.Same w) ↔
      (v.Same w → Json.TiesAlike (keyOrder rt) v w) := by
  rw [stableText_eq_iff collates distinct]
  exact ⟨fun same is => (same.mpr is).2, fun alike => ⟨And.left, fun is => ⟨is, alike is⟩⟩⟩

/-! ### Two spellings of a key -/

/-- A letter with an accent as the letter and the accent: text that normalises alike. -/
def decomposed (text : String) : String :=
  String.ofList (text.toList.flatMap fun c => if c = 'é' then ['e', '\u0301'] else [c])

/-- A runtime that compares texts by what they normalise to. -/
def collating : Runtime :=
  { Runtime.plain with localeLe := fun a b => decide (decomposed a ≤ decomposed b) }

theorem collates_collating : Collates collating where
  total a b := by
    simp only [collating, decide_eq_true_eq]
    exact le_total _ _
  trans a b c := by
    simp only [collating, decide_eq_true_eq]
    exact le_trans (α := String)

/-- The keys in one order, and in the other. -/
def keyed : Json :=
  .obj [("é", .num 1), ("e\u0301", .num 2)]

def swapped : Json :=
  .obj [("e\u0301", .num 2), ("é", .num 1)]

theorem keyed_distinct : keyed.Distinct :=
  ⟨by decide, trivial, trivial, trivial⟩

theorem keyed_same : keyed.Same swapped :=
  ⟨_, List.Perm.swap _ _ _, ⟨rfl, rfl, rfl, rfl, trivial⟩⟩

theorem tied_spellings : Tied (keyOrder collating) "é" "e\u0301" := by
  have same : decomposed "é" = decomposed "e\u0301" := by decide
  simp [Tied, keyOrder, collating, same]

/-- The spellings are listed in two orders. -/
theorem spellings_apart : ¬ Json.TiesAlike (keyOrder collating) keyed swapped := by
  intro alike
  have keys := alike.1 "é"
  have refl : ∀ key, Tied (keyOrder collating) key key := fun key => by
    simp [Tied, keyOrder, collating]
  simp [Json.tiedKeys, refl, tied_spellings] at keys

/-- Two keys that are told apart, in one order and in the other. -/
def plainKeys : Json :=
  .obj [("a", .num 1), ("b", .num 2)]

def plainSwapped : Json :=
  .obj [("b", .num 2), ("a", .num 1)]

theorem plainKeys_alike : Json.TiesAlike (keyOrder collating) plainKeys plainSwapped := by
  have trans : IsTrans String (keyOrder collating) := ⟨collates_collating.trans⟩
  have apart : ¬ Tied (keyOrder collating) "a" "b" := by decide
  refine ⟨fun k => ?_, ?_⟩
  · by_cases first : Tied (keyOrder collating) k "a"
    · have second : ¬ Tied (keyOrder collating) k "b" := fun also =>
        apart ((tied_comm.mp first).trans also)
      simp [Json.tiedKeys, first, second]
    · by_cases second : Tied (keyOrder collating) k "b"
      · simp [Json.tiedKeys, first, second]
      · simp [Json.tiedKeys, first, second]
  · exact Json.tiesAlikeFields_iff.mpr (by simp [Json.TiesAlike])

/-- The order of keys that are told apart does not matter. -/
theorem fingerprint_iff_plain :
    Idempotency.stableText collating plainKeys = Idempotency.stableText collating plainSwapped ↔
      plainKeys.Same plainSwapped :=
  (fingerprint_iff collating collates_collating plainKeys plainSwapped
    ⟨by decide, trivial, trivial, trivial⟩).mpr fun _ => plainKeys_alike

/-- **Two spellings of a key leave two fingerprints**: the values are equal up to the order of keys,
and each lists the spellings in its own. -/
theorem fingerprint_fails :
    ¬ ∀ (rt : Runtime) (v w : Json), Collates rt → v.Distinct → w.Distinct →
      (Idempotency.stableText rt v = Idempotency.stableText rt w ↔ v.Same w) := by
  intro all
  have printed := (all collating keyed swapped collates_collating keyed_distinct
    ⟨by decide, trivial, trivial, trivial⟩).mpr keyed_same
  exact spellings_apart ((stableText_eq_iff collates_collating keyed_distinct).mp printed).2

end AcadID.Fingerprints
