/-
**Credential signatures: what `Ed25519CredentialSigner.verify` accepts.**

A signature is a detached text of three parts: the header, the canonical text of the payload, and
the Ed25519 signature of both. The canonical text sorts the keys of every object by rebuilding it.

* `KeyPair` — what the services rely on from Ed25519 and from base64url.
* `canonicalJson_eq_iff` — **what the canonical text tells apart**: payloads that differ in more
  than the order of keys and their `__proto__` fields.
* `verify_sign` — a signed payload verifies against another one exactly when their canonical texts
  are equal; `verify_iff_same_iff` — **exactly when this means that the payloads are the same**.
-/

import AcadID.Platform.Runtime

namespace AcadID

open Lib

/-- What Ed25519 under the configured keys, printed in base64url, guarantees. -/
structure KeyPair (rt : Runtime) : Prop where
  verifies : ∀ s, rt.ed25519Verify s (rt.ed25519 s) = true
  filled : ∀ s, rt.ed25519 s ≠ ""
  undotted : ∀ s, '.' ∉ (rt.ed25519 s).toList

/-- `Ed25519CredentialSigner.verify`. -/
def verify (rt : Runtime) (payload : Json) (signature : String) : Bool :=
  match Text.splitOn '.' signature with
  | encodedHeader :: encodedPayload :: encodedSignature :: _ =>
    if encodedHeader = "" ∨ encodedPayload = "" ∨ encodedSignature = "" then false
    else
      let expectedPayload := Text.base64Url (canonicalJson rt payload)
      if encodedPayload ≠ expectedPayload then false
      else rt.ed25519Verify (encodedHeader ++ "." ++ encodedPayload) encodedSignature
  | _ => false

/-! ### The order of code units -/

/-- The code units of one character. -/
def unitsOf (c : Char) : List ℕ :=
  if c.toNat < 0x10000 then [c.toNat]
  else [0xD800 + (c.toNat - 0x10000) / 0x400, 0xDC00 + (c.toNat - 0x10000) % 0x400]

/-- No character has the code of a surrogate. -/
theorem toNat_not_surrogate (c : Char) : ¬ (0xD800 ≤ c.toNat ∧ c.toNat < 0xE000) := by
  have valid : c.val.isValidChar := c.valid
  unfold UInt32.isValidChar Nat.isValidChar at valid
  have value : c.val.toNat = c.toNat := rfl
  omega

theorem toNat_lt (c : Char) : c.toNat < 0x110000 := by
  have valid : c.val.isValidChar := c.valid
  unfold UInt32.isValidChar Nat.isValidChar at valid
  have value : c.val.toNat = c.toNat := rfl
  omega

theorem unitsOf_append_inj (c d : Char) (r s : List ℕ) (same : unitsOf c ++ r = unitsOf d ++ s) :
    c = d ∧ r = s := by
  have plainC := toNat_not_surrogate c
  have plainD := toNat_not_surrogate d
  have smallC := toNat_lt c
  have smallD := toNat_lt d
  unfold unitsOf at same
  split_ifs at same with low low' low'
  · obtain ⟨unit, rest⟩ := List.cons.inj same
    exact ⟨Char.toNat_inj.mp unit, rest⟩
  · have unit := (List.cons.inj same).1
    omega
  · have unit := (List.cons.inj same).1
    omega
  · obtain ⟨high, rest⟩ := List.cons.inj same
    obtain ⟨tail, rest⟩ := List.cons.inj rest
    exact ⟨Char.toNat_inj.mp (by omega), rest⟩

theorem codeUnits_injective : Function.Injective codeUnits := by
  intro a b same
  have filled : ∀ c, unitsOf c ≠ [] := by
    intro c
    unfold unitsOf
    split_ifs <;> simp
  exact String.toList_inj.mp (Text.flatMap_injective filled unitsOf_append_inj same)

theorem codeUnitLe_iff {a b : String} : codeUnitLe a b = true ↔ codeUnits a ≤ codeUnits b :=
  decide_eq_true_iff

instance : IsTrans String fun a b => codeUnitLe a b = true where
  trans _ _ _ first second :=
    codeUnitLe_iff.mpr ((codeUnitLe_iff.mp first).trans (codeUnitLe_iff.mp second))

instance : Std.Total fun a b => codeUnitLe a b = true where
  total a b := (le_total (codeUnits a) (codeUnits b)).imp codeUnitLe_iff.mpr codeUnitLe_iff.mpr

instance : Std.Antisymm fun a b => codeUnitLe a b = true where
  antisymm _ _ forth back := codeUnits_injective
    (le_antisymm (codeUnitLe_iff.mp forth) (codeUnitLe_iff.mp back))

/-! ### Canonical texts -/

/-- **What the canonical text tells apart.** -/
theorem canonicalJson_eq_iff (rt : Runtime) {p q : Json} (left : p.Distinct) (right : q.Distinct) :
    canonicalJson rt p = canonicalJson rt q ↔ Json.Same p.bare q.bare := by
  rw [← Json.rebuild_eq_iff (fun a b => codeUnitLe a b) left right]
  unfold canonicalJson
  constructor
  · intro same
    exact Json.stringify_injective (String.ofList_injective same)
  · intro same
    rw [same]

theorem canonicalJson_eq_of_same (rt : Runtime) {p q : Json} (distinct : p.Distinct)
    (same : Json.Same p q) : canonicalJson rt p = canonicalJson rt q := by
  unfold canonicalJson
  rw [Json.rebuild_eq_of_same (fun a b => codeUnitLe a b) distinct same]

theorem canonicalJson_ne_empty (rt : Runtime) (p : Json) : canonicalJson rt p ≠ "" := by
  intro empty
  obtain ⟨c, rest, text, -⟩ :=
    @Json.stringify_head rt.format (p.rebuild fun a b => codeUnitLe a b)
  unfold canonicalJson at empty
  rw [text] at empty
  have chars := congrArg String.toList empty
  rw [String.toList_ofList] at chars
  exact absurd chars (by simp)

/-! ### Signatures -/

/-- **What a signature verifies against**: the payloads with the canonical text it was made of. -/
theorem verify_sign {rt : Runtime} (keys : KeyPair rt) (now : Time) (p q : Json) :
    verify rt q (sign rt now p).signature = true ↔ canonicalJson rt p = canonicalJson rt q := by
  unfold verify sign
  dsimp only
  rw [Text.splitOn_three (Text.base64Url_undotted _) (Text.base64Url_undotted _)
    (keys.undotted _)]
  dsimp only
  have headerFilled : Text.base64Url (String.ofList (Json.stringify rt.format (.obj
      [("alg", .str "EdDSA"), ("b64", .bool true), ("crit", .arr [.str "b64"]),
        ("kid", .str rt.verificationMethod), ("typ", .str "vc+ld+jws")]))) ≠ "" := by
    refine Text.base64Url_ne_empty fun empty => ?_
    have chars := congrArg String.toList empty
    rw [String.toList_ofList] at chars
    exact absurd chars (by simp [Json.stringify])
  have payloadFilled := Text.base64Url_ne_empty (canonicalJson_ne_empty rt p)
  rw [if_neg (by simp [headerFilled, payloadFilled, keys.filled])]
  by_cases same : canonicalJson rt p = canonicalJson rt q
  · rw [same, if_neg (by simp), keys.verifies]
    simp
  · have differ : Text.base64Url (canonicalJson rt p) ≠ Text.base64Url (canonicalJson rt q) :=
      fun texts => same (Text.base64Url_injective texts)
    rw [if_pos differ]
    simp [same]

/-- **When a signature verifies against the same payloads**: exactly when two payloads do not become
the same by the loss of their `__proto__` fields alone. -/
theorem verify_iff_same_iff (rt : Runtime) (now : Time) (p q : Json) (keys : KeyPair rt)
    (left : p.Distinct) (right : q.Distinct) :
    (verify rt q (sign rt now p).signature = true ↔ Json.Same p q) ↔
      (Json.Same p.bare q.bare → Json.Same p q) := by
  rw [verify_sign keys, canonicalJson_eq_iff rt left right]
  constructor
  · intro exact
    exact exact.mp
  · intro only
    refine ⟨only, fun same => ?_⟩
    exact (canonicalJson_eq_iff rt left right).mp (canonicalJson_eq_of_same rt left same)

theorem keyPair_plain : KeyPair .plain where
  verifies s := by simp [Runtime.plain]
  filled s empty := by
    have chars := congrArg String.toList empty
    exact absurd chars (by simp [Runtime.plain])
  undotted s inside := by
    have chars : (Runtime.plain.ed25519 s).toList =
        "ed25519-".toList ++ (Text.base64Url s).toList := String.toList_append
    rw [chars, List.mem_append] at inside
    rcases inside with mark | text
    · exact absurd mark (by decide)
    · exact Text.base64Url_undotted s text

/-- A payload, and the same with its fields in another order. -/
theorem verify_iff_same_iff_swapped :
    verify .plain (.obj [("grade", .str "A"), ("id", .str "urn:uuid:1")])
        (sign .plain 0 (.obj [("id", .str "urn:uuid:1"), ("grade", .str "A")])).signature = true ↔
      Json.Same (.obj [("id", .str "urn:uuid:1"), ("grade", .str "A")])
        (.obj [("grade", .str "A"), ("id", .str "urn:uuid:1")]) := by
  refine (verify_iff_same_iff .plain 0 _ _ keyPair_plain ?_ ?_).mpr id
  · exact ⟨by decide, trivial, trivial, trivial⟩
  · exact ⟨by decide, trivial, trivial, trivial⟩

/-- **A signature does not cover everything**: what a payload holds under `__proto__` may be taken
away. -/
theorem verify_iff_same_fails :
    ¬ ∀ (rt : Runtime) (now : Time) (p q : Json), KeyPair rt → p.Distinct → q.Distinct →
      (verify rt q (sign rt now p).signature = true ↔ Json.Same p q) := by
  intro all
  let signed : Json := .obj [("grade", .str "A"), ("__proto__", .obj [("grade", .str "F")])]
  let shown : Json := .obj [("grade", .str "A")]
  have left : signed.Distinct := ⟨by decide, trivial, ⟨by decide, trivial, trivial⟩, trivial⟩
  have right : shown.Distinct := ⟨by decide, trivial, trivial⟩
  have accepted : verify .plain shown (sign .plain 0 signed).signature = true :=
    (verify_sign keyPair_plain 0 signed shown).mpr
      ((canonicalJson_eq_iff .plain left right).mpr (Json.same_refl shown))
  have covers := (all .plain 0 signed shown keyPair_plain left right).mp accepted
  obtain ⟨hs, perm, fields⟩ := covers
  have length := perm.length_eq
  have paired := (Json.sameFields_iff.mp fields).length_eq
  simp only [List.length_cons, List.length_nil] at length paired
  omega

end AcadID
