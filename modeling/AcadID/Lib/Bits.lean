/-
**Rows of bits, cut into groups of a width.**

* `digits width n` — a number in as many bits as the width, the highest first.
* `value` — the number that a row of bits writes.
* `groups width` — the groups of a row; the last is filled up with zeros.
* `flatten_groups` — **a row in groups is the row and less than a group of zeros.**
* `bytesOfBits_append` — bytes are read back from their bits, whatever is left of a byte after them.
-/

import AcadID.Lib.Text
import Mathlib.Tactic.Ring

namespace AcadID.Lib.Bits

/-- The number of a row of bits, the highest first: `Number.parseInt(bits, 2)`. -/
def value (bits : List Bool) : ℕ :=
  bits.foldl (fun n bit => 2 * n + bit.toNat) 0

/-- A number in `width` bits: `n.toString(2).padStart(width, "0")`. -/
def digits (width n : ℕ) : List Bool :=
  (List.range width).map fun i => n.testBit (width - 1 - i)

/-- A row in groups: `bits.slice(index, index + width).padEnd(width, "0")`, at every `width`-th
index of the row. -/
def groups (width : ℕ) (bits : List Bool) : List (List Bool) :=
  (List.range ((bits.length + (width - 1)) / width)).map fun i =>
    let chunk := (bits.drop (width * i)).take width
    chunk ++ List.replicate (width - chunk.length) false

/-! ### A number and its bits -/

@[simp]
theorem length_digits (width n : ℕ) : (digits width n).length = width := by
  simp [digits]

theorem foldl_eq (bits : List Bool) (n : ℕ) :
    bits.foldl (fun n bit => 2 * n + bit.toNat) n = n * 2 ^ bits.length + value bits := by
  induction bits generalizing n with
  | nil => simp [value]
  | cons bit bits ih =>
    rw [value, List.foldl_cons, List.foldl_cons, ih, ih, List.length_cons, pow_succ]
    ring

theorem value_cons (bit : Bool) (bits : List Bool) :
    value (bit :: bits) = bit.toNat * 2 ^ bits.length + value bits := by
  rw [value, List.foldl_cons, foldl_eq]
  simp

theorem value_lt (bits : List Bool) : value bits < 2 ^ bits.length := by
  induction bits with
  | nil => simp [value]
  | cons bit bits ih =>
    rw [value_cons, List.length_cons, pow_succ]
    have one : bit.toNat * 2 ^ bits.length ≤ 1 * 2 ^ bits.length :=
      Nat.mul_le_mul_right _ bit.toNat_le
    omega

theorem digits_succ (width n : ℕ) :
    digits (width + 1) n = n.testBit width :: digits width n := by
  unfold digits
  rw [List.range_succ_eq_map, List.map_cons, List.map_map]
  congr 1
  refine List.map_congr_left fun i _ => ?_
  show n.testBit (width + 1 - 1 - (i + 1)) = n.testBit (width - 1 - i)
  congr 1
  omega

/-- The bits of a number write what is left of it below their width. -/
theorem value_digits (width n : ℕ) : value (digits width n) = n % 2 ^ width := by
  induction width with
  | zero => simp [digits, value, Nat.mod_one]
  | succ width ih =>
    rw [digits_succ, value_cons, length_digits, ih, Nat.toNat_testBit, Nat.mod_pow_succ]
    ring

/-- Rows of one length that write the same number are the same. -/
theorem eq_of_value_eq {first second : List Bool} (long : first.length = second.length)
    (same : value first = value second) : first = second := by
  induction first generalizing second with
  | nil => exact (List.eq_nil_of_length_eq_zero long.symm).symm
  | cons bit first ih =>
    cases second with
    | nil => simp at long
    | cons other second =>
      have shorter : first.length = second.length := by simpa using long
      rw [value_cons, value_cons, shorter] at same
      have below := value_lt first
      have under := value_lt second
      rw [shorter] at below
      -- The highest bit is the quotient by the power, the others the remainder.
      have bits : bit = other := by
        cases bit <;> cases other <;> simp at same ⊢ <;> omega
      subst bits
      rw [ih shorter (by omega)]

theorem digits_value (bits : List Bool) : digits bits.length (value bits) = bits := by
  refine eq_of_value_eq (length_digits _ _) ?_
  rw [value_digits, Nat.mod_eq_of_lt (value_lt bits)]

/-! ### Groups -/

theorem groups_nil {width : ℕ} (wide : 0 < width) : groups width [] = [] := by
  have none : (0 + (width - 1)) / width = 0 := Nat.div_eq_of_lt (by omega)
  rw [groups, List.length_nil, none, List.range_zero, List.map_nil]

theorem groups_of_ne_nil {width : ℕ} (wide : 0 < width) {bits : List Bool} (some : bits ≠ []) :
    groups width bits =
      (bits.take width ++ List.replicate (width - bits.length) false) ::
        groups width (bits.drop width) := by
  have long : 0 < bits.length := List.length_pos_iff.mpr some
  have count : (bits.length + (width - 1)) / width =
      ((bits.drop width).length + (width - 1)) / width + 1 := by
    rw [List.length_drop]
    by_cases more : width ≤ bits.length
    · rw [← Nat.add_div_right _ wide]
      congr 1
      omega
    · rw [Nat.div_eq_of_lt_le (k := 1) (by omega) (by omega),
        Nat.div_eq_of_lt (by omega)]
  unfold groups
  rw [count, List.range_succ_eq_map, List.map_cons, List.map_map]
  congr 1
  · show List.take width bits ++ List.replicate (width - (List.take width bits).length) false = _
    rw [List.length_take]
    congr 2
    omega
  · refine List.map_congr_left fun i _ => ?_
    show _ ++ _ = _ ++ _
    rw [List.drop_drop, Nat.mul_succ, Nat.add_comm (width * i) width]

/-- Every group is as long as the width. -/
theorem length_of_mem_groups {width : ℕ} {bits group : List Bool}
    (listed : group ∈ groups width bits) : group.length = width := by
  unfold groups at listed
  obtain ⟨i, -, rfl⟩ := List.mem_map.mp listed
  simp only [List.length_append, List.length_replicate, List.length_take, List.length_drop]
  omega

/-- **A row in groups is the row and less than a group of zeros.** -/
theorem flatten_groups {width : ℕ} (wide : 0 < width) (bits : List Bool) :
    ∃ zeros < width, (groups width bits).flatten = bits ++ List.replicate zeros false := by
  induction long : bits.length using Nat.strong_induction_on generalizing bits with
  | _ length ih =>
    by_cases none : bits = []
    · exact ⟨0, wide, by simp [none, groups_nil wide]⟩
    rw [groups_of_ne_nil wide none, List.flatten_cons]
    have some : 0 < bits.length := List.length_pos_iff.mpr none
    by_cases more : bits.length ≤ width
    · -- The last group, which holds the zeros.
      refine ⟨width - bits.length, by omega, ?_⟩
      rw [List.take_of_length_le more, List.drop_of_length_le more, groups_nil wide]
      simp
    · obtain ⟨zeros, few, rest⟩ := ih (bits.drop width).length
        (by rw [List.length_drop]; omega) (bits.drop width) rfl
      refine ⟨zeros, few, ?_⟩
      rw [rest, Nat.sub_eq_zero_of_le (by omega), List.replicate_zero, List.append_nil,
        ← List.append_assoc, List.take_append_drop]

/-! ### Bytes -/

theorem bytesOfBits_short {bits : List Bool} (short : bits.length < 8) :
    Text.bytesOfBits bits = [] := by
  simp [Text.bytesOfBits, Nat.div_eq_of_lt short]

theorem bytesOfBits_cons (byte rest : List Bool) (eight : byte.length = 8) :
    Text.bytesOfBits (byte ++ rest) = value byte :: Text.bytesOfBits rest := by
  unfold Text.bytesOfBits
  have count : (byte ++ rest).length / 8 = rest.length / 8 + 1 := by
    rw [List.length_append, eight]
    omega
  rw [count, List.range_succ_eq_map, List.map_cons, List.map_map]
  congr 1
  · rw [Nat.mul_zero, List.drop_zero, List.take_left' eight]
    rfl
  · refine List.map_congr_left fun i _ => ?_
    have later : 8 * Nat.succ i = byte.length + 8 * i := by omega
    show List.foldl _ _ ((List.drop (8 * Nat.succ i) _).take 8) = _
    rw [later, List.drop_length_add_append]

/-- **Bytes are read back from their bits**, whatever is left of a byte after them. -/
theorem bytesOfBits_append (bytes : List UInt8) {rest : List Bool} (short : rest.length < 8) :
    Text.bytesOfBits (bytes.flatMap (fun byte => digits 8 byte.toNat) ++ rest) =
      bytes.map UInt8.toNat := by
  induction bytes with
  | nil => exact bytesOfBits_short short
  | cons byte bytes ih =>
    rw [List.flatMap_cons, List.append_assoc, bytesOfBits_cons _ _ (length_digits _ _), ih,
      value_digits, Nat.mod_eq_of_lt byte.toNat_lt, List.map_cons]

end AcadID.Lib.Bits
