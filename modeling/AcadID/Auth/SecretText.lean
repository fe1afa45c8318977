/-
**An authenticator secret is read back as its bytes.**

* `Retyped` — a text with the letters of a secret, each in either case.
* `decodeBase32_createSecret` — **whatever the bytes, in either case and with padding behind it, the
  secret decodes to them.** The bits that fill up the last letter are fewer than five, so that they
  make no byte of their own.
-/

import AcadID.Auth.Secrets

namespace AcadID.TotpService

open Lib

/-- The letters of the secret, each in either case. -/
def Retyped (secret text : String) : Prop :=
  text.toList.map Char.toUpper = secret.toList

instance (secret text : String) : Decidable (Retyped secret text) :=
  inferInstanceAs (Decidable (_ = _))

/-! ### The alphabet -/

theorem length_alphabet : alphabet.length = 32 := by decide

theorem nodup_alphabet : alphabet.Nodup := by decide

/-- A letter that stands for five bits. -/
theorem value_lt_alphabet {group : List Bool} (five : group.length = 5) :
    Bits.value group < alphabet.length := by
  rw [length_alphabet]
  calc Bits.value group < 2 ^ group.length := Bits.value_lt group
    _ = 32 := by rw [five]; rfl

/-- The letter of a group of five bits. -/
def letter (group : List Bool) : Char :=
  alphabet.getD (Bits.value group) 'A'

theorem letter_eq {group : List Bool} (five : group.length = 5) :
    letter group = alphabet.get ⟨Bits.value group, value_lt_alphabet five⟩ := by
  simp [letter, List.getD, value_lt_alphabet five]

/-- **A letter is read as the bits that it stands for.** -/
theorem letter_read {group : List Bool} (five : group.length = 5) :
    (if alphabet.contains (letter group) then
      (Except.ok (Text.fiveBits (alphabet.idxOf (letter group))) : Except ServiceError (List Bool))
     else .error (.error "Invalid base32 secret.")) = .ok group := by
  rw [letter_eq five, if_pos (by simp), List.get_eq_getElem, nodup_alphabet.idxOf_getElem]
  show Except.ok (Bits.digits 5 (Bits.value group)) = _
  rw [← five, Bits.digits_value]

theorem alphabet_letters :
    alphabet.all (fun c => decide (c.toNat < 128) && c != '=') = true := by decide

/-! ### The letters of a secret -/

/-- The groups of five bits that a secret writes. -/
def groupsOf (bytes : List UInt8) : List (List Bool) :=
  Bits.groups 5 (bytes.flatMap fun byte => Bits.digits 8 byte.toNat)

theorem toList_createSecret (bytes : List UInt8) :
    (createSecret bytes).toList = (groupsOf bytes).map letter := by
  unfold createSecret
  rw [String.toList_ofList]
  rfl

theorem letter_listed {group : List Bool} (five : group.length = 5) :
    letter group ∈ alphabet := by
  rw [letter_eq five]
  exact List.getElem_mem _

/-- No letter is a padding character, and each is an ASCII character. -/
theorem plain_letters {bytes : List UInt8} {c : Char} (written : c ∈ (createSecret bytes).toList) :
    c.toNat < 128 ∧ c ≠ '=' := by
  rw [toList_createSecret] at written
  obtain ⟨group, listed, rfl⟩ := List.mem_map.mp written
  have plain := List.all_eq_true.mp alphabet_letters _
    (letter_listed (Bits.length_of_mem_groups listed))
  simpa using plain

/-! ### What is typed -/

/-- A character is an ASCII one if its upper case is. -/
theorem ascii_of_toUpper {c : Char} (upper : c.toUpper.toNat < 128) : c.toNat < 128 := by
  unfold Char.toUpper at upper
  split at upper
  · rename_i lower
    have below : c.val ≤ 'z'.val := lower.2
    exact lt_of_le_of_lt (UInt32.le_iff_toNat_le.mp below) (by decide)
  · exact upper

/-- **Upper case turns a retyped secret into the secret**, and leaves the padding behind it. -/
theorem toUpperCase_retyped {rt : Runtime} (uppers : rt.UppersAscii) {bytes : List UInt8}
    {text : String} (retyped : Retyped (createSecret bytes) text) (n : ℕ) :
    (rt.toUpperCase (text ++ String.ofList (List.replicate n '='))).toList =
      (createSecret bytes).toList ++ List.replicate n '=' := by
  rw [uppers, String.toList_ofList, String.toList_append, String.toList_ofList, List.map_append,
    retyped, List.map_replicate]
  · rfl
  · intro c typed
    rw [String.toList_append, String.toList_ofList, List.mem_append] at typed
    rcases typed with typed | padding
    · have written : c.toUpper ∈ (createSecret bytes).toList := by
        rw [← retyped]
        exact List.mem_map_of_mem typed
      exact ascii_of_toUpper (plain_letters written).1
    · rw [(List.mem_replicate.mp padding).2]
      decide

/-- The padding is dropped, and nothing else. -/
theorem clean_eq {chars : List Char} (n : ℕ) (plain : ∀ c ∈ chars, c ≠ '=') :
    ((chars ++ List.replicate n '=').reverse.dropWhile (· == '=')).reverse = chars := by
  rw [List.reverse_append, List.reverse_replicate,
    List.dropWhile_append_of_pos (by simp +contextual [List.mem_replicate]),
    Text.dropWhile_of_head?, List.reverse_reverse]
  intro c first
  have written : c ∈ chars.reverse := List.mem_of_mem_head? first
  simpa using plain c (List.mem_reverse.mp written)

/-! ### The round trip -/

/-- **A secret is read back as its bytes**: whatever the bytes are and however many, in upper or in
lower case, and with any number of padding characters behind it. -/
theorem decodeBase32_createSecret (rt : Runtime) (uppers : rt.UppersAscii) (bytes : List UInt8)
    (text : String) (retyped : Retyped (createSecret bytes) text) (n : ℕ) :
    decodeBase32 rt (text ++ String.ofList (List.replicate n '=')) =
      .ok (bytes.map UInt8.toNat) := by
  have letters : ((groupsOf bytes).map letter).mapM (fun char =>
      if alphabet.contains char then
        (Except.ok (Text.fiveBits (alphabet.idxOf char)) : Except ServiceError (List Bool))
      else .error (.error "Invalid base32 secret.")) = .ok (groupsOf bytes) := by
    rw [mapM_eq_ok, List.forall₂_map_left_iff, List.forall₂_same]
    exact fun group listed => letter_read (Bits.length_of_mem_groups listed)
  obtain ⟨zeros, few, filled⟩ := Bits.flatten_groups (show 0 < 5 by decide)
    (bytes.flatMap fun byte => Bits.digits 8 byte.toNat)
  unfold decodeBase32
  rw [toUpperCase_retyped uppers retyped, clean_eq n fun c written => (plain_letters written).2,
    toList_createSecret]
  refine bind_eq_ok.mpr ⟨groupsOf bytes, letters, congrArg Except.ok ?_⟩
  rw [groupsOf, filled, Bits.bytesOfBits_append bytes (by rw [List.length_replicate]; omega)]

/-- Two bytes, typed in lower case and with padding. -/
theorem decodeBase32_createSecret_lower :
    decodeBase32 .plain ("74aq" ++ String.ofList (List.replicate 4 '=')) = .ok [255, 1] :=
  decodeBase32_createSecret .plain Runtime.plain_uppersAscii [255, 1] "74aq" (by decide) 4

end AcadID.TotpService
