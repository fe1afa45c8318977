/-
**JSON values, their text, and the text with sorted keys.**

A `Json` value is what `JSON.parse` returns; a field that JavaScript would hold as `undefined` is
absent. Numbers are rationals, printed by a `NumberFormat` that carries what a decimal printer
guarantees.

* `stringify` — the compact text of a value. `stringify_append_inj` — **the text of a value
  delimits itself**: it determines the value and where it ends, so `stringify` is injective.
* `sortKeys` — the value with the fields of every object sorted by key; `stableStringify` is the
  text that sorts while it prints, and `stableStringify_eq` says that it is the text of the sorted
  value.
* `get?_sortKeys` — a field of a sorted object is the field of the object, sorted.
-/

import Mathlib.Data.List.Sort
import Mathlib.Data.Rat.Floor

namespace AcadID.Lib

/-- A value as `JSON.parse` returns it. -/
inductive Json where
  | null
  | bool (value : Bool)
  | num (value : ℚ)
  | str (value : String)
  | arr (items : List Json)
  | obj (fields : List (String × Json))

/-- The characters a printed number is made of. -/
def numeric (c : Char) : Bool :=
  c.isDigit || c == '-' || c == '+' || c == '.' || c == 'e'

/-- A printer of numbers: distinct numbers print differently, and a printed number is a nonempty
word over the numeric characters. -/
structure NumberFormat where
  text : ℚ → List Char
  injective : Function.Injective text
  nonempty : ∀ q, text q ≠ []
  numeric : ∀ q, ∀ c ∈ text q, numeric c

namespace NumberFormat

theorem isDigit_digits {n : ℕ} {c : Char} (inside : c ∈ Nat.toDigits 10 n) : c.isDigit :=
  Nat.isDigit_of_mem_toDigits (by decide) (by decide) inside

theorem digits_injective {m n : ℕ} (same : Nat.toDigits 10 m = Nat.toDigits 10 n) : m = n := by
  rw [← Nat.ofDigitChars_ten_toDigits (n := m), same, Nat.ofDigitChars_ten_toDigits]

/-- The digits of an integer, behind a minus sign where it is negative. -/
def integerText (z : ℤ) : List Char :=
  if z < 0 then '-' :: Nat.toDigits 10 z.natAbs else Nat.toDigits 10 z.natAbs

/-- The denominator of a number that is not an integer. -/
def denominatorText (d : ℕ) : List Char :=
  if d = 1 then [] else 'e' :: Nat.toDigits 10 d

theorem integerText_char {z : ℤ} {c : Char} (inside : c ∈ integerText z) :
    c.isDigit ∨ c = '-' := by
  unfold integerText at inside
  split at inside
  · rcases List.mem_cons.mp inside with sign | digit
    · exact .inr sign
    · exact .inl (isDigit_digits digit)
  · exact .inl (isDigit_digits inside)

theorem integerText_injective {y z : ℤ} (same : integerText y = integerText z) : y = z := by
  have unsigned : ∀ {n : ℕ} {rest : List Char}, Nat.toDigits 10 n ≠ '-' :: rest := by
    intro n rest begins
    have digit : '-'.isDigit := isDigit_digits (n := n) (by rw [begins]; simp)
    exact absurd digit (by decide)
  unfold integerText at same
  split at same
  · split at same
    · have := digits_injective (List.cons.inj same).2
      omega
    · exact absurd same.symm unsigned
  · split at same
    · exact absurd same unsigned
    · have := digits_injective same
      omega

/-- Integers in decimal, other numbers as numerator and denominator. -/
def plain : NumberFormat where
  text q := integerText q.num ++ denominatorText q.den
  injective := by
    intro p q same
    have cut : ∀ r : ℚ, (integerText r.num ++ denominatorText r.den).takeWhile (· ≠ 'e') =
        integerText r.num := by
      intro r
      have all : ∀ c ∈ integerText r.num, decide (c ≠ 'e') = true := by
        intro c inside
        rw [decide_eq_true_iff]
        rintro rfl
        rcases integerText_char inside with digit | sign
        · exact absurd digit (by decide)
        · exact absurd sign (by decide)
      rw [List.takeWhile_append_of_pos all]
      unfold denominatorText
      split <;> simp
    have num : p.num = q.num := by
      have texts := congrArg (List.takeWhile (· ≠ 'e')) same
      rw [cut, cut] at texts
      exact integerText_injective texts
    have den : p.den = q.den := by
      have tails : denominatorText p.den = denominatorText q.den := by
        have same' := same
        simp only [num] at same'
        exact List.append_cancel_left same'
      unfold denominatorText at tails
      split at tails
      · split at tails
        · omega
        · exact absurd tails (by simp)
      · split at tails
        · exact absurd tails (by simp)
        · exact digits_injective (List.cons.inj tails).2
    exact Rat.ext num den
  nonempty q := by
    refine List.append_ne_nil_of_left_ne_nil ?_ _
    unfold integerText
    split
    · simp
    · exact Nat.toDigits_ne_nil
  numeric := by
    intro q c inside
    unfold Lib.numeric
    rcases List.mem_append.mp inside with integer | denominator
    · rcases integerText_char integer with digit | sign
      · simp [digit]
      · simp [sign]
    · unfold denominatorText at denominator
      split at denominator
      · exact absurd denominator (by simp)
      · rcases List.mem_cons.mp denominator with mark | digit
        · simp [mark]
        · simp [isDigit_digits digit]

end NumberFormat

namespace Json

/-! ### Equality is decidable -/

mutual

def decEq : (v w : Json) → Decidable (v = w)
  | .null, .null => isTrue rfl
  | .bool a, .bool b => decidable_of_iff (a = b) (by simp)
  | .num a, .num b => decidable_of_iff (a = b) (by simp)
  | .str a, .str b => decidable_of_iff (a = b) (by simp)
  | .arr a, .arr b =>
    match decEqItems a b with
    | isTrue same => isTrue (by rw [same])
    | isFalse differ => isFalse (by simpa using differ)
  | .obj a, .obj b =>
    match decEqFields a b with
    | isTrue same => isTrue (by rw [same])
    | isFalse differ => isFalse (by simpa using differ)
  | .null, .bool _ | .null, .num _ | .null, .str _ | .null, .arr _ | .null, .obj _
  | .bool _, .null | .bool _, .num _ | .bool _, .str _ | .bool _, .arr _ | .bool _, .obj _
  | .num _, .null | .num _, .bool _ | .num _, .str _ | .num _, .arr _ | .num _, .obj _
  | .str _, .null | .str _, .bool _ | .str _, .num _ | .str _, .arr _ | .str _, .obj _
  | .arr _, .null | .arr _, .bool _ | .arr _, .num _ | .arr _, .str _ | .arr _, .obj _
  | .obj _, .null | .obj _, .bool _ | .obj _, .num _ | .obj _, .str _ | .obj _, .arr _ =>
    isFalse (by simp)

def decEqItems : (v w : List Json) → Decidable (v = w)
  | [], [] => isTrue rfl
  | [], _ :: _ => isFalse (by simp)
  | _ :: _, [] => isFalse (by simp)
  | v :: vs, w :: ws =>
    match decEq v w, decEqItems vs ws with
    | isTrue head, isTrue tail => isTrue (by rw [head, tail])
    | isFalse head, _ => isFalse (by simp [head])
    | _, isFalse tail => isFalse (by simp [tail])

def decEqFields : (v w : List (String × Json)) → Decidable (v = w)
  | [], [] => isTrue rfl
  | [], _ :: _ => isFalse (by simp)
  | _ :: _, [] => isFalse (by simp)
  | (k, v) :: vs, (l, w) :: ws =>
    if key : k = l then
      match decEq v w, decEqFields vs ws with
      | isTrue head, isTrue tail => isTrue (by rw [key, head, tail])
      | isFalse head, _ => isFalse (by simp [head])
      | _, isFalse tail => isFalse (by simp [tail])
    else isFalse (by simp [key])

end

instance : DecidableEq Json := decEq

/-! ### Induction over a value -/

mutual

/-- **Induction over a value**, with the hypothesis for every item and every field's value. -/
theorem induct {P : Json → Prop} (null : P .null) (bool : ∀ b, P (.bool b)) (num : ∀ q, P (.num q))
    (str : ∀ s, P (.str s)) (arr : ∀ vs, (∀ v ∈ vs, P v) → P (.arr vs))
    (obj : ∀ fs, (∀ f ∈ fs, P f.2) → P (.obj fs)) : ∀ v, P v
  | .null => null
  | .bool b => bool b
  | .num q => num q
  | .str s => str s
  | .arr vs => arr vs (inductItems null bool num str arr obj vs)
  | .obj fs => obj fs (inductFields null bool num str arr obj fs)

theorem inductItems {P : Json → Prop} (null : P .null) (bool : ∀ b, P (.bool b))
    (num : ∀ q, P (.num q)) (str : ∀ s, P (.str s)) (arr : ∀ vs, (∀ v ∈ vs, P v) → P (.arr vs))
    (obj : ∀ fs, (∀ f ∈ fs, P f.2) → P (.obj fs)) : ∀ vs : List Json, ∀ v ∈ vs, P v
  | [], _, inside => absurd inside (by simp)
  | v :: vs, _, inside =>
    (List.mem_cons.mp inside).elim (fun here => here ▸ induct null bool num str arr obj v)
      (inductItems null bool num str arr obj vs _)

theorem inductFields {P : Json → Prop} (null : P .null) (bool : ∀ b, P (.bool b))
    (num : ∀ q, P (.num q)) (str : ∀ s, P (.str s)) (arr : ∀ vs, (∀ v ∈ vs, P v) → P (.arr vs))
    (obj : ∀ fs, (∀ f ∈ fs, P f.2) → P (.obj fs)) :
    ∀ fs : List (String × Json), ∀ f ∈ fs, P f.2
  | [], _, inside => absurd inside (by simp)
  | (k, v) :: fs, _, inside =>
    (List.mem_cons.mp inside).elim (fun here => here ▸ induct null bool num str arr obj v)
      (inductFields null bool num str arr obj fs _)

end

/-! ### Reading and building values -/

/-- The field `k` of a value; `none` is `undefined`. -/
def get? (k : String) : Json → Option Json
  | .obj fs => (fs.find? fun f => f.1 = k).map Prod.snd
  | _ => none

/-- An object literal; a field that is `undefined` is left out. -/
def fields (fs : List (String × Option Json)) : Json :=
  .obj (fs.filterMap fun f => f.2.map fun v => (f.1, v))

/-- The names of an object literal that are not left out. -/
theorem nodup_fields {fs : List (String × Option Json)} (different : (fs.map Prod.fst).Nodup) :
    ((fs.filterMap fun f => f.2.map fun v => (f.1, v)).map Prod.fst).Nodup := by
  have listed : ∀ fs : List (String × Option Json),
      ((fs.filterMap fun f => f.2.map fun v => (f.1, v)).map Prod.fst).Sublist
        (fs.map Prod.fst) := by
    intro fs
    induction fs with
    | nil => exact .slnil
    | cons f fs ih =>
      obtain ⟨k, v⟩ := f
      cases v with
      | none => exact ih.cons k
      | some v => exact ih.cons_cons k
  exact different.sublist (listed fs)

theorem get?_fields_nil (k : String) : (fields []).get? k = none := rfl

/-- A field of another name is passed over. -/
theorem get?_fields_cons_ne {k name : String} (other : name ≠ k) (value : Option Json)
    (fs : List (String × Option Json)) :
    (fields ((name, value) :: fs)).get? k = (fields fs).get? k := by
  cases value with
  | none => rfl
  | some v =>
    show (List.find? _ ((name, v) :: _)).map Prod.snd = _
    rw [List.find?_cons_of_neg (by simpa using other)]
    rfl

theorem get?_fields_cons_self (k : String) (v : Json) (fs : List (String × Option Json)) :
    (fields ((k, some v) :: fs)).get? k = some v := by
  show (List.find? _ ((k, v) :: _)).map Prod.snd = _
  rw [List.find?_cons_of_pos (by simp)]
  rfl

/-- A field of an object literal, where no other has its name. -/
theorem get?_fields_cons (k name : String) (value : Option Json)
    (fs : List (String × Option Json)) :
    (fields ((name, value) :: fs)).get? k =
      if name = k then value.or ((fields fs).get? k) else (fields fs).get? k := by
  split
  · rename_i same
    subst same
    cases value with
    | none => rfl
    | some v => exact get?_fields_cons_self name v fs
  · rename_i other
    exact get?_fields_cons_ne other value fs

/-- A string or `null`. -/
def ofOption : Option String → Json
  | none => .null
  | some s => .str s

/-- Whether JavaScript takes the value for true. -/
def truthy : Json → Bool
  | .null => false
  | .bool b => b
  | .num q => q != 0
  | .str s => s != ""
  | .arr _ => true
  | .obj _ => true

/-! ### The text of a value -/

/-- A hexadecimal digit, in lower case. -/
def hexDigit (n : ℕ) : Char :=
  if n < 10 then Char.ofNat (48 + n) else Char.ofNat (87 + n)

/-- A character inside a quoted string. -/
def escape (c : Char) : List Char :=
  if c = '"' then ['\\', '"']
  else if c = '\\' then ['\\', '\\']
  else if c = '\n' then ['\\', 'n']
  else if c = '\r' then ['\\', 'r']
  else if c = '\t' then ['\\', 't']
  else if c.toNat = 8 then ['\\', 'b']
  else if c.toNat = 12 then ['\\', 'f']
  else if c.toNat < 32 then
    ['\\', 'u', '0', '0', hexDigit (c.toNat / 16), hexDigit (c.toNat % 16)]
  else [c]

/-- The characters of a string, escaped, up to the closing quote. -/
def quoteTail : List Char → List Char
  | [] => ['"']
  | c :: cs => escape c ++ quoteTail cs

/-- A quoted string. -/
def quote (s : String) : List Char :=
  '"' :: quoteTail s.toList

/-- Pieces after the first, each behind a comma, up to the closing bracket. -/
def encloseTail (close : Char) : List (List Char) → List Char
  | [] => [close]
  | piece :: pieces => ',' :: (piece ++ encloseTail close pieces)

/-- Pieces separated by commas, up to the closing bracket. -/
def enclose (close : Char) : List (List Char) → List Char
  | [] => [close]
  | piece :: pieces => piece ++ encloseTail close pieces

section Text

variable (format : NumberFormat)

mutual

/-- The compact text of a value, as `JSON.stringify` prints it. -/
def stringify : Json → List Char
  | .null => ['n', 'u', 'l', 'l']
  | .bool true => ['t', 'r', 'u', 'e']
  | .bool false => ['f', 'a', 'l', 's', 'e']
  | .num q => format.text q
  | .str s => quote s
  | .arr vs => '[' :: enclose ']' (stringifyItems vs)
  | .obj fs => '{' :: enclose '}' (stringifyFields fs)

def stringifyItems : List Json → List (List Char)
  | [] => []
  | v :: vs => stringify v :: stringifyItems vs

def stringifyFields : List (String × Json) → List (List Char)
  | [] => []
  | (k, v) :: fs => (quote k ++ ':' :: stringify v) :: stringifyFields fs

end

/-- A field as it is printed. -/
def stringifyField (f : String × Json) : List Char :=
  quote f.1 ++ ':' :: stringify format f.2

theorem stringifyItems_eq (vs : List Json) :
    stringifyItems format vs = vs.map (stringify format) := by
  induction vs with
  | nil => rfl
  | cons v vs ih => rw [stringifyItems, ih, List.map_cons]

theorem stringifyFields_eq (fs : List (String × Json)) :
    stringifyFields format fs = fs.map (stringifyField format) := by
  induction fs with
  | nil => rfl
  | cons f fs ih => rw [stringifyFields, ih, List.map_cons, stringifyField]

end Text

/-! ### A text delimits itself -/

/-- The value of a hexadecimal digit. -/
def hexValue (c : Char) : ℕ :=
  if c.isDigit then c.toNat - 48 else c.toNat - 87

theorem hexValue_hexDigit : ∀ n < 16, hexValue (hexDigit n) = n := by
  decide

/-- The character an escaped text begins with, and what follows it. -/
def unescape : List Char → Char × List Char
  | '\\' :: 'u' :: '0' :: '0' :: high :: low :: rest =>
    (Char.ofNat (16 * hexValue high + hexValue low), rest)
  | '\\' :: 'n' :: rest => ('\n', rest)
  | '\\' :: 'r' :: rest => ('\r', rest)
  | '\\' :: 't' :: rest => ('\t', rest)
  | '\\' :: 'b' :: rest => (Char.ofNat 8, rest)
  | '\\' :: 'f' :: rest => (Char.ofNat 12, rest)
  | '\\' :: c :: rest => (c, rest)
  | c :: rest => (c, rest)
  | [] => (' ', [])

theorem unescape_plain {c : Char} (plain : c ≠ '\\') (rest : List Char) :
    unescape (c :: rest) = (c, rest) := by
  unfold unescape
  split
  all_goals simp_all

theorem unescape_escape (c : Char) (rest : List Char) :
    unescape (escape c ++ rest) = (c, rest) := by
  have ofValue : ∀ {n : ℕ}, c.toNat = n → Char.ofNat n = c := by
    rintro n rfl
    exact Char.ofNat_toNat c
  unfold escape
  split_ifs with h1 h2 h3 h4 h5 h6 h7 h8
  · rw [h1]
    rfl
  · rw [h2]
    rfl
  · rw [h3]
    rfl
  · rw [h4]
    rfl
  · rw [h5]
    rfl
  · rw [← ofValue h6]
    rfl
  · rw [← ofValue h7]
    rfl
  · show (Char.ofNat (16 * hexValue (hexDigit (c.toNat / 16)) +
      hexValue (hexDigit (c.toNat % 16))), rest) = (c, rest)
    rw [hexValue_hexDigit _ (by omega), hexValue_hexDigit _ (by omega), ofValue (by omega)]
  · exact unescape_plain h2 rest

theorem escape_append_inj {c d : Char} {r s : List Char} (same : escape c ++ r = escape d ++ s) :
    c = d ∧ r = s := by
  have pair : (c, r) = (d, s) := by
    rw [← unescape_escape c r, same, unescape_escape]
  exact Prod.mk.inj pair

theorem escape_head {c : Char} {r s : List Char} : escape c ++ r ≠ '"' :: s := by
  intro same
  have pair := unescape_escape c r
  rw [same, unescape_plain (by decide)] at pair
  obtain ⟨rfl, -⟩ := Prod.mk.inj pair
  exact absurd (List.cons.inj same).1 (by decide)

theorem quoteTail_append_inj {cs ds r s : List Char}
    (same : quoteTail cs ++ r = quoteTail ds ++ s) : cs = ds ∧ r = s := by
  induction cs generalizing ds with
  | nil =>
    cases ds with
    | nil => exact ⟨rfl, (List.cons.inj same).2⟩
    | cons d ds =>
      rw [quoteTail, quoteTail, List.append_assoc] at same
      exact absurd same.symm escape_head
  | cons c cs ih =>
    cases ds with
    | nil =>
      rw [quoteTail, quoteTail, List.append_assoc] at same
      exact absurd same escape_head
    | cons d ds =>
      rw [quoteTail, quoteTail, List.append_assoc, List.append_assoc] at same
      obtain ⟨rfl, rest⟩ := escape_append_inj same
      obtain ⟨rfl, after⟩ := ih rest
      exact ⟨rfl, after⟩

/-- **A quoted string delimits itself.** -/
theorem quote_append_inj {a b : String} {r s : List Char} (same : quote a ++ r = quote b ++ s) :
    a = b ∧ r = s := by
  obtain ⟨chars, rest⟩ := quoteTail_append_inj (List.cons.inj same).2
  exact ⟨String.toList_inj.mp chars, rest⟩

/-- A text after which a printed number ends. -/
def Stops (r : List Char) : Prop :=
  ∀ c ∈ r.head?, numeric c = false

theorem stops_nil : Stops [] := by
  intro c inside
  exact absurd inside (by simp)

theorem stops_cons {c : Char} {r : List Char} (other : numeric c = false) : Stops (c :: r) := by
  intro d inside
  rw [List.head?_cons, Option.mem_some] at inside
  exact inside ▸ other

/-- Two numeric words, each up to where its number ends. -/
theorem numeric_append_inj {a b r s : List Char} (left : ∀ c ∈ a, numeric c)
    (right : ∀ c ∈ b, numeric c) (stopLeft : Stops r) (stopRight : Stops s)
    (same : a ++ r = b ++ s) : a = b ∧ r = s := by
  induction a generalizing b with
  | nil =>
    cases b with
    | nil => exact ⟨rfl, same⟩
    | cons d b =>
      rw [List.nil_append, List.cons_append] at same
      have stop := stopLeft d (by rw [same]; rfl)
      exact absurd (right d (by simp)) (by simp [stop])
  | cons c a ih =>
    cases b with
    | nil =>
      rw [List.nil_append, List.cons_append] at same
      have stop := stopRight c (by rw [← same]; rfl)
      exact absurd (left c (by simp)) (by simp [stop])
    | cons d b =>
      obtain ⟨rfl, rest⟩ := List.cons.inj same
      obtain ⟨rfl, after⟩ := ih (fun e inside => left e (by simp [inside]))
        (fun e inside => right e (by simp [inside])) rest
      exact ⟨rfl, after⟩

/-- The text of `a` delimits itself, wherever a printed number may end. -/
def Delimits {α : Type} (text : α → List Char) (a : α) : Prop :=
  ∀ b r s, Stops r → Stops s → text a ++ r = text b ++ s → a = b ∧ r = s

section Enclose

variable {α : Type} {text : α → List Char} {close : Char}

theorem stops_encloseTail (ends : numeric close = false) (pieces : List (List Char))
    (r : List Char) : Stops (encloseTail close pieces ++ r) := by
  cases pieces with
  | nil => exact stops_cons ends
  | cons piece pieces => exact stops_cons (by decide)

theorem encloseTail_append_inj (ends : numeric close = false) (comma : close ≠ ',')
    {as bs : List α} {r s : List Char} (delimits : ∀ a ∈ as, Delimits text a)
    (same : encloseTail close (as.map text) ++ r = encloseTail close (bs.map text) ++ s) :
    as = bs ∧ r = s := by
  induction as generalizing bs with
  | nil =>
    cases bs with
    | nil => exact ⟨rfl, (List.cons.inj same).2⟩
    | cons b bs => exact absurd (List.cons.inj same).1 comma
  | cons a as ih =>
    cases bs with
    | nil => exact absurd (List.cons.inj same).1.symm comma
    | cons b bs =>
      rw [List.map_cons, List.map_cons, encloseTail, encloseTail, List.cons_append,
        List.cons_append, List.append_assoc, List.append_assoc] at same
      have rest := (List.cons.inj same).2
      obtain ⟨rfl, after⟩ := delimits a (by simp) b _ _ (stops_encloseTail ends _ _)
        (stops_encloseTail ends _ _) rest
      obtain ⟨rfl, tail⟩ := ih (fun a' inside => delimits a' (by simp [inside])) after
      exact ⟨rfl, tail⟩

/-- **An enclosed sequence delimits itself** when its pieces do and none begins by closing it. -/
theorem enclose_append_inj (ends : numeric close = false) (comma : close ≠ ',')
    (opens : ∀ a r s, text a ++ r ≠ close :: s) {as bs : List α} {r s : List Char}
    (delimits : ∀ a ∈ as, Delimits text a)
    (same : enclose close (as.map text) ++ r = enclose close (bs.map text) ++ s) :
    as = bs ∧ r = s := by
  cases as with
  | nil =>
    cases bs with
    | nil => exact ⟨rfl, (List.cons.inj same).2⟩
    | cons b bs =>
      rw [List.map_cons, enclose, List.append_assoc] at same
      exact absurd same.symm (opens b _ _)
  | cons a as =>
    cases bs with
    | nil =>
      rw [List.map_cons, enclose, List.append_assoc] at same
      exact absurd same (opens a _ _)
    | cons b bs =>
      rw [List.map_cons, List.map_cons, enclose, enclose, List.append_assoc,
        List.append_assoc] at same
      obtain ⟨rfl, after⟩ := delimits a (by simp) b _ _ (stops_encloseTail ends _ _)
        (stops_encloseTail ends _ _) same
      obtain ⟨rfl, tail⟩ := encloseTail_append_inj ends comma
        (fun a' inside => delimits a' (by simp [inside])) after
      exact ⟨rfl, tail⟩

end Enclose

/-- The kind of a value, as its first character tells it. -/
def kind : Json → ℕ
  | .null => 0
  | .bool true => 1
  | .bool false => 2
  | .num _ => 3
  | .str _ => 4
  | .arr _ => 5
  | .obj _ => 6

/-- The kind of value a text begins. -/
def kindOf (c : Char) : ℕ :=
  if numeric c then 3
  else if c = 'n' then 0
  else if c = 't' then 1
  else if c = 'f' then 2
  else if c = '"' then 4
  else if c = '[' then 5
  else 6

section Inj

variable {format : NumberFormat}

theorem stringify_head (v : Json) :
    ∃ c rest, stringify format v = c :: rest ∧ kindOf c = kind v ∧ c ≠ ']' := by
  cases v with
  | null => exact ⟨'n', _, rfl, by decide, by decide⟩
  | bool b =>
    cases b with
    | true => exact ⟨'t', _, rfl, by decide, by decide⟩
    | false => exact ⟨'f', _, rfl, by decide, by decide⟩
  | num q =>
    obtain ⟨c, rest, text⟩ := List.exists_cons_of_ne_nil (format.nonempty q)
    have digit : numeric c := format.numeric q c (by rw [text]; simp)
    refine ⟨c, rest, text, if_pos digit, ?_⟩
    rintro rfl
    exact absurd digit (by decide)
  | str s => exact ⟨'"', _, rfl, rfl, by decide⟩
  | arr vs => exact ⟨'[', _, rfl, rfl, by decide⟩
  | obj fs => exact ⟨'{', _, rfl, rfl, by decide⟩

theorem kind_eq_of_append {v w : Json} {r s : List Char}
    (same : stringify format v ++ r = stringify format w ++ s) : kind v = kind w := by
  obtain ⟨c, rest, textV, kindV, -⟩ := @stringify_head format v
  obtain ⟨d, rest', textW, kindW, -⟩ := @stringify_head format w
  rw [textV, textW] at same
  rw [← kindV, ← kindW, (List.cons.inj same).1]

theorem stringifyField_delimits {f : String × Json} (value : Delimits (stringify format) f.2) :
    Delimits (stringifyField format) f := by
  rintro ⟨l, w⟩ r s stopLeft stopRight same
  obtain ⟨k, v⟩ := f
  unfold stringifyField at same
  rw [List.append_assoc, List.append_assoc] at same
  obtain ⟨rfl, rest⟩ := quote_append_inj same
  obtain ⟨rfl, after⟩ := value w r s stopLeft stopRight (List.cons.inj rest).2
  exact ⟨rfl, after⟩

/-- **The text of a value delimits itself**: it determines the value and where it ends. -/
theorem stringify_append_inj (v : Json) : Delimits (stringify format) v := by
  induction v using induct with
  | null =>
    intro w r s _ _ same
    cases w with
    | null => exact ⟨rfl, List.append_cancel_left same⟩
    | bool b => cases b <;> exact absurd (kind_eq_of_append same) (by simp [kind])
    | num | str | arr | obj => exact absurd (kind_eq_of_append same) (by simp [kind])
  | bool b =>
    intro w r s _ _ same
    cases w with
    | bool b' =>
      cases b <;> cases b'
      · exact ⟨rfl, List.append_cancel_left same⟩
      · exact absurd (kind_eq_of_append same) (by simp [kind])
      · exact absurd (kind_eq_of_append same) (by simp [kind])
      · exact ⟨rfl, List.append_cancel_left same⟩
    | null | num | str | arr | obj =>
      cases b <;> exact absurd (kind_eq_of_append same) (by simp [kind])
  | num q =>
    intro w r s stopLeft stopRight same
    cases w with
    | num q' =>
      obtain ⟨text, after⟩ := numeric_append_inj (format.numeric q) (format.numeric q')
        stopLeft stopRight same
      exact ⟨by rw [format.injective text], after⟩
    | bool b => cases b <;> exact absurd (kind_eq_of_append same) (by simp [kind])
    | null | str | arr | obj => exact absurd (kind_eq_of_append same) (by simp [kind])
  | str a =>
    intro w r s _ _ same
    cases w with
    | str b =>
      obtain ⟨rfl, after⟩ := quote_append_inj same
      exact ⟨rfl, after⟩
    | bool b => cases b <;> exact absurd (kind_eq_of_append same) (by simp [kind])
    | null | num | arr | obj => exact absurd (kind_eq_of_append same) (by simp [kind])
  | arr vs ih =>
    intro w r s _ _ same
    cases w with
    | arr ws =>
      have rest := (List.cons.inj same).2
      rw [stringifyItems_eq, stringifyItems_eq] at rest
      have opens : ∀ v r s, stringify format v ++ r ≠ ']' :: s := by
        intro v r s begins
        obtain ⟨c, text, head, -, other⟩ := @stringify_head format v
        rw [head] at begins
        exact other (List.cons.inj begins).1
      obtain ⟨rfl, after⟩ := enclose_append_inj (by decide) (by decide) opens ih rest
      exact ⟨rfl, after⟩
    | bool b => cases b <;> exact absurd (kind_eq_of_append same) (by simp [kind])
    | null | num | str | obj => exact absurd (kind_eq_of_append same) (by simp [kind])
  | obj fs ih =>
    intro w r s _ _ same
    cases w with
    | obj gs =>
      have rest := (List.cons.inj same).2
      rw [stringifyFields_eq, stringifyFields_eq] at rest
      have opens : ∀ f r s, stringifyField format f ++ r ≠ '}' :: s := by
        intro f r s begins
        exact absurd (List.cons.inj begins).1 (by decide)
      obtain ⟨rfl, after⟩ := enclose_append_inj (by decide) (by decide) opens
        (fun f inside => stringifyField_delimits (ih f inside)) rest
      exact ⟨rfl, after⟩
    | bool b => cases b <;> exact absurd (kind_eq_of_append same) (by simp [kind])
    | null | num | str | arr => exact absurd (kind_eq_of_append same) (by simp [kind])

theorem stringify_injective : Function.Injective (stringify format) := by
  intro v w same
  exact (stringify_append_inj v w [] [] stops_nil stops_nil (by rw [same])).1

end Inj

/-! ### Sorted keys -/

section SortedKeys

variable (le : String → String → Prop) [DecidableRel le]

/-- Fields in the order of their keys; fields with equivalent keys keep their order. -/
def sortFields {α : Type} (fs : List (String × α)) : List (String × α) :=
  fs.insertionSort fun f g => le f.1 g.1

mutual

/-- The value with the fields of every object in the order of their keys. -/
def sortKeys : Json → Json
  | .null => .null
  | .bool b => .bool b
  | .num q => .num q
  | .str s => .str s
  | .arr vs => .arr (sortKeysItems vs)
  | .obj fs => .obj (sortFields le (sortKeysFields fs))

def sortKeysItems : List Json → List Json
  | [] => []
  | v :: vs => sortKeys v :: sortKeysItems vs

def sortKeysFields : List (String × Json) → List (String × Json)
  | [] => []
  | (k, v) :: fs => (k, sortKeys v) :: sortKeysFields fs

end

theorem sortKeysFields_eq (fs : List (String × Json)) :
    sortKeysFields le fs = fs.map fun f => (f.1, sortKeys le f.2) := by
  induction fs with
  | nil => rfl
  | cons f fs ih => rw [sortKeysFields, ih, List.map_cons]

/-- Sorting by key commutes with a map of the values. -/
theorem sortFields_map {α β : Type} (h : α → β) (fs : List (String × α)) :
    sortFields le (fs.map fun f => (f.1, h f.2)) =
      (sortFields le fs).map fun f => (f.1, h f.2) := by
  unfold sortFields
  exact (List.map_insertionSort (fun f g : String × α => le f.1 g.1) _
    (fun f => (f.1, h f.2)) fs fun _ _ _ _ => Iff.rfl).symm

/-- A field is found by its key in any order of the fields, when their keys are different. -/
theorem find?_of_perm {α : Type} {fs gs : List (String × α)}
    (different : (fs.map Prod.fst).Nodup) (perm : gs.Perm fs) (k : String) :
    gs.find? (fun f => f.1 = k) = fs.find? fun f => f.1 = k := by
  cases found : fs.find? fun f => f.1 = k with
  | none =>
    refine List.find?_eq_none.mpr fun g inside => ?_
    exact List.find?_eq_none.mp found g (perm.mem_iff.mp inside)
  | some f =>
    have here := List.mem_of_find?_eq_some found
    cases other : gs.find? fun f => f.1 = k with
    | none =>
      exact absurd (List.find?_some found)
        (List.find?_eq_none.mp other f (perm.mem_iff.mpr here))
    | some g =>
      have there := perm.mem_iff.mp (List.mem_of_find?_eq_some other)
      have keyOf : g.1 = k := by simpa using List.find?_some other
      have keyOf' : f.1 = k := by simpa using List.find?_some found
      have keys : g.1 = f.1 := keyOf.trans keyOf'.symm
      rw [List.inj_on_of_nodup_map different there here keys]

/-- **A field of an object once sorted** is the field, sorted. -/
theorem get?_sortKeys {fs : List (String × Json)} (different : (fs.map Prod.fst).Nodup)
    (k : String) : (sortKeys le (.obj fs)).get? k = ((obj fs).get? k).map (sortKeys le) := by
  show ((sortFields le (sortKeysFields le fs)).find? fun f => f.1 = k).map Prod.snd = _
  have keys : ((fs.map fun f => (f.1, sortKeys le f.2)).map Prod.fst).Nodup := by
    rw [List.map_map]
    exact different
  have sorted : (sortFields le (fs.map fun f => (f.1, sortKeys le f.2))).Perm
      (fs.map fun f => (f.1, sortKeys le f.2)) := List.perm_insertionSort _ _
  rw [sortKeysFields_eq, find?_of_perm keys sorted, List.find?_map, Option.map_map]
  show _ = (Option.map Prod.snd (fs.find? fun f => f.1 = k)).map (sortKeys le)
  rw [Option.map_map]
  rfl

variable (format : NumberFormat)

mutual

/-- The text of a value, the fields of every object printed in the order of their keys. -/
def stableStringify : Json → List Char
  | .null => stringify format .null
  | .bool b => stringify format (.bool b)
  | .num q => stringify format (.num q)
  | .str s => stringify format (.str s)
  | .arr vs => '[' :: enclose ']' (stableItems vs)
  | .obj fs =>
    '{' :: enclose '}' ((sortFields le (stableFields fs)).map fun f => quote f.1 ++ ':' :: f.2)

def stableItems : List Json → List (List Char)
  | [] => []
  | v :: vs => stableStringify v :: stableItems vs

def stableFields : List (String × Json) → List (String × List Char)
  | [] => []
  | (k, v) :: fs => (k, stableStringify v) :: stableFields fs

end

mutual

/-- **The text printed with sorted keys** is the text of the value with sorted keys. -/
theorem stableStringify_eq : ∀ v : Json,
    stableStringify le format v = stringify format (sortKeys le v)
  | .null => rfl
  | .bool _ => rfl
  | .num _ => rfl
  | .str _ => rfl
  | .arr vs => by rw [stableStringify, stableItems_eq vs, sortKeys, stringify]
  | .obj fs => by
    rw [stableStringify, stableFields_eq fs, sortFields_map le (stringify format), List.map_map,
      sortKeys, stringify, stringifyFields_eq]
    rfl

theorem stableItems_eq : ∀ vs : List Json,
    stableItems le format vs = stringifyItems format (sortKeysItems le vs)
  | [] => rfl
  | v :: vs => by
    rw [stableItems, stableStringify_eq v, stableItems_eq vs, sortKeysItems, stringifyItems]

theorem stableFields_eq : ∀ fs : List (String × Json),
    stableFields le format fs =
      (sortKeysFields le fs).map fun f => (f.1, stringify format f.2)
  | [] => rfl
  | (k, v) :: fs => by
    rw [stableFields, stableStringify_eq v, stableFields_eq fs, sortKeysFields, List.map_cons]

end

/-- Two values print alike with sorted keys only if they are equal once sorted. -/
theorem stableStringify_inj {v w : Json}
    (same : stableStringify le format v = stableStringify le format w) :
    sortKeys le v = sortKeys le w := by
  rw [stableStringify_eq, stableStringify_eq] at same
  exact stringify_injective same

end SortedKeys

end Json

end AcadID.Lib
