/-
**Strings as JavaScript sees them.**

* `trim`, `utf16Length`, `slice` and `isBlank` — the string methods that a Lean string does not
  have.
* `matchesClasses` — a pattern that is a fixed sequence of character classes, and the `repeatClass`
  that writes `[..]{n}`.
* `base64Url` — the base64url text of the UTF-8 bytes of a string; `base64Url_injective` — **it
  determines the string**.
* `splitOn` — the parts of a string between occurrences of a character.
* `padStart` — a number with zeros in front; `padStart_injective` — **they do not hide it**.
* `toISOString` — the text of a date, in the proleptic Gregorian calendar.
-/

import Mathlib.Algebra.Ring.Nat
import Mathlib.Data.List.Basic
import Mathlib.Data.Int.Notation

namespace AcadID.Lib

namespace Text

/-- White space and line ends, as `String.prototype.trim` takes them away. -/
def isSpace (c : Char) : Bool :=
  c.toNat ∈ [0x9, 0xA, 0xB, 0xC, 0xD, 0x20, 0xA0, 0x1680, 0x2000, 0x2001, 0x2002, 0x2003, 0x2004,
    0x2005, 0x2006, 0x2007, 0x2008, 0x2009, 0x200A, 0x2028, 0x2029, 0x202F, 0x205F, 0x3000, 0xFEFF]

/-- `String.prototype.trim`. -/
def trim (s : String) : String :=
  String.ofList ((s.toList.dropWhile isSpace).reverse.dropWhile isSpace).reverse

/-- Nothing is left of the string once trimmed. -/
def isBlank (s : String) : Bool :=
  trim s == ""

/-- The length of the string in UTF-16 code units, which is what `length` counts. -/
def utf16Length (s : String) : ℕ :=
  (s.toList.map fun c => if c.toNat < 0x10000 then 1 else 2).sum

/-- A text has at least as many code units as characters. -/
theorem length_le_utf16Length (text : String) : text.toList.length ≤ utf16Length text := by
  unfold utf16Length
  induction text.toList with
  | nil => exact Nat.le_refl 0
  | cons c cs ih =>
    rw [List.length_cons, List.map_cons, List.sum_cons]
    split <;> omega

/-- As many characters as fit in `n` code units. -/
def takeUnits : ℕ → List Char → List Char
  | _, [] => []
  | n, c :: cs =>
    let units := if c.toNat < 0x10000 then 1 else 2
    if units ≤ n then c :: takeUnits (n - units) cs else []

/-- `slice(0, n)`, less the half of a character that it may end in. -/
def slice (n : ℕ) (s : String) : String :=
  String.ofList (takeUnits n s.toList)

/-- The characters are one of each class, in order. -/
def matchesClasses : List (Char → Bool) → List Char → Bool
  | [], [] => true
  | p :: ps, c :: cs => p c && matchesClasses ps cs
  | _, _ => false

/-- A text of the pattern is as long as the pattern. -/
theorem length_of_matchesClasses {ps : List (Char → Bool)} {cs : List Char}
    (matching : matchesClasses ps cs = true) : cs.length = ps.length := by
  induction ps generalizing cs with
  | nil =>
    cases cs with
    | nil => rfl
    | cons c cs => exact absurd matching (by simp [matchesClasses])
  | cons p ps ih =>
    cases cs with
    | nil => exact absurd matching (by simp [matchesClasses])
    | cons c cs =>
      have rest : matchesClasses ps cs = true := (Bool.and_eq_true_iff.mp matching).2
      rw [List.length_cons, List.length_cons, ih rest]

/-- The last character is of the last class. -/
theorem exists_last_of_matchesClasses {ps : List (Char → Bool)} {q : Char → Bool} {cs : List Char}
    (matching : matchesClasses (ps ++ [q]) cs = true) :
    ∃ start last, cs = start ++ [last] ∧ q last = true ∧ start.length = ps.length := by
  induction ps generalizing cs with
  | nil =>
    cases cs with
    | nil => exact absurd matching (by simp [matchesClasses])
    | cons c cs =>
      obtain ⟨passes, rest⟩ := Bool.and_eq_true_iff.mp matching
      have none := length_of_matchesClasses rest
      rw [List.eq_nil_of_length_eq_zero none]
      exact ⟨[], c, rfl, passes, rfl⟩
  | cons p ps ih =>
    cases cs with
    | nil => exact absurd matching (by simp [matchesClasses])
    | cons c cs =>
      obtain ⟨start, last, rfl, passes, long⟩ := ih (Bool.and_eq_true_iff.mp matching).2
      exact ⟨c :: start, last, rfl, passes, congrArg (· + 1) long⟩

/-- The class `p`, `n` times. -/
def repeatClass (n : ℕ) (p : Char → Bool) : List (Char → Bool) :=
  List.replicate n p

/-- One pattern after another. -/
theorem matchesClasses_append {ps qs : List (Char → Bool)} {cs ds : List Char}
    (first : matchesClasses ps cs = true) (second : matchesClasses qs ds = true) :
    matchesClasses (ps ++ qs) (cs ++ ds) = true := by
  induction ps generalizing cs with
  | nil =>
    cases cs with
    | nil => exact second
    | cons c cs => exact absurd first (by simp [matchesClasses])
  | cons p ps ih =>
    cases cs with
    | nil => exact absurd first (by simp [matchesClasses])
    | cons c cs =>
      obtain ⟨here, rest⟩ := Bool.and_eq_true_iff.mp first
      exact Bool.and_eq_true_iff.mpr ⟨here, ih rest⟩

theorem matchesClasses_repeatClass {n : ℕ} {p : Char → Bool} {cs : List Char}
    (long : cs.length = n) (each : ∀ c ∈ cs, p c = true) :
    matchesClasses (repeatClass n p) cs = true := by
  induction cs generalizing n with
  | nil =>
    obtain rfl := long
    rfl
  | cons c cs ih =>
    obtain rfl := long
    refine Bool.and_eq_true_iff.mpr ⟨each c (List.mem_cons_self ..), ih rfl fun d inside => ?_⟩
    exact each d (List.mem_cons_of_mem c inside)

/-- `[0-9a-f]`, in either case. -/
def isHex (c : Char) : Bool :=
  c.isDigit || ('a' ≤ c && c ≤ 'f') || ('A' ≤ c && c ≤ 'F')

/-- `[a-zA-Z0-9]`. -/
def isAlphanumeric (c : Char) : Bool :=
  c.isDigit || ('a' ≤ c && c ≤ 'z') || ('A' ≤ c && c ≤ 'Z')

theorem dropWhile_of_head? {p : Char → Bool} {cs : List Char}
    (first : ∀ c ∈ cs.head?, p c = false) : cs.dropWhile p = cs := by
  cases cs with
  | nil => rfl
  | cons c cs => exact List.dropWhile_cons_of_neg (by simp [first c rfl])

theorem head?_dropWhile (p : Char → Bool) (cs : List Char) :
    ∀ c ∈ (cs.dropWhile p).head?, p c = false := by
  intro c first
  have plain := List.head?_dropWhile_not p cs
  rw [Option.mem_def.mp first] at plain
  exact plain

theorem dropWhile_dropWhile (p : Char → Bool) (cs : List Char) :
    (cs.dropWhile p).dropWhile p = cs.dropWhile p :=
  dropWhile_of_head? (head?_dropWhile p cs)

theorem mem_dropWhile_of_fails {p : Char → Bool} {cs : List Char} {c : Char} (inside : c ∈ cs)
    (fails : p c = false) : c ∈ cs.dropWhile p := by
  induction cs with
  | nil => exact absurd inside List.not_mem_nil
  | cons d cs ih =>
    rw [List.dropWhile_cons]
    split
    · rename_i passes
      rcases List.mem_cons.mp inside with rfl | later
      · exact absurd (passes.symm.trans fails) (by simp)
      · exact ih later
    · exact inside

theorem isSpace_of_isDigit {c : Char} (digit : c.isDigit = true) : isSpace c = false := by
  obtain ⟨low, high⟩ := Bool.and_eq_true_iff.mp digit
  have low : 48 ≤ c.toNat := of_decide_eq_true low
  have high : c.toNat ≤ 57 := of_decide_eq_true high
  unfold isSpace
  simp only [List.mem_cons, List.not_mem_nil, or_false, decide_eq_false_iff_not, not_or]
  omega

/-! ### Trimmed strings -/

/-- No white space at either end. -/
def Trimmed (s : String) : Prop :=
  (∀ c ∈ s.toList.head?, isSpace c = false) ∧ ∀ c ∈ s.toList.getLast?, isSpace c = false

instance (s : String) : Decidable (Trimmed s) :=
  -- not the instance that tries every character
  @instDecidableAnd _ _ (Option.decidableForallMem s.toList.head?)
    (Option.decidableForallMem s.toList.getLast?)

/-- The characters of a text decide whether there is white space at an end of it. -/
theorem trimmed_of_chars {s : String} {chars : List Char} (is : s.toList = chars)
    (ends : (chars.head?.all (!isSpace ·) && chars.getLast?.all (!isSpace ·)) = true) :
    Trimmed s := by
  obtain ⟨first, last⟩ := Bool.and_eq_true_iff.mp ends
  rw [Trimmed, is]
  refine ⟨fun c here => ?_, fun c here => ?_⟩
  · simpa [Option.mem_def.mp here] using first
  · simpa [Option.mem_def.mp here] using last

theorem trim_of_trimmed {s : String} (trimmed : Trimmed s) : trim s = s := by
  have last : ∀ c ∈ s.toList.reverse.head?, isSpace c = false := by
    rw [List.head?_reverse]
    exact trimmed.2
  unfold trim
  rw [dropWhile_of_head? trimmed.1, dropWhile_of_head? last, List.reverse_reverse,
    String.ofList_toList]

/-- **Trimming leaves nothing to trim.** -/
theorem trimmed_trim (s : String) : Trimmed (trim s) := by
  unfold Trimmed trim
  rw [String.toList_ofList]
  constructor
  · intro c first
    have part : ((s.toList.dropWhile isSpace).reverse.dropWhile isSpace).reverse <+:
        s.toList.dropWhile isSpace := by
      rw [← List.reverse_suffix, List.reverse_reverse]
      exact List.dropWhile_suffix isSpace
    obtain ⟨rest, whole⟩ := part
    refine head?_dropWhile isSpace s.toList c ?_
    rw [← whole, Option.mem_def, List.head?_append, Option.mem_def.mp first]
    rfl
  · rw [List.getLast?_reverse]
    exact head?_dropWhile isSpace _

theorem trim_trim (s : String) : trim (trim s) = trim s :=
  trim_of_trimmed (trimmed_trim s)

/-! ### Base64 -/

/-- The UTF-8 bytes of a character. -/
def utf8 (c : Char) : List ℕ :=
  let n := c.toNat
  if n < 0x80 then [n]
  else if n < 0x800 then [0xC0 + n / 64, 0x80 + n % 64]
  else if n < 0x10000 then [0xE0 + n / 4096, 0x80 + n / 64 % 64, 0x80 + n % 64]
  else [0xF0 + n / 262144, 0x80 + n / 4096 % 64, 0x80 + n / 64 % 64, 0x80 + n % 64]

/-- Bytes in groups of six bits, without padding. -/
def sextets : List ℕ → List ℕ
  | a :: b :: c :: rest =>
    a / 4 :: (a % 4 * 16 + b / 16) :: (b % 16 * 4 + c / 64) :: c % 64 :: sextets rest
  | [a, b] => [a / 4, a % 4 * 16 + b / 16, b % 16 * 4]
  | [a] => [a / 4, a % 4 * 16]
  | [] => []

def base64UrlChar (n : ℕ) : Char :=
  if n < 26 then Char.ofNat (65 + n)
  else if n < 52 then Char.ofNat (71 + n)
  else if n < 62 then Char.ofNat (n - 4)
  else if n = 62 then '-'
  else '_'

/-- `Buffer.from(s).toString("base64url")`. -/
def base64Url (s : String) : String :=
  String.ofList ((sextets (s.toList.flatMap utf8)).map base64UrlChar)

example : base64Url "a:1~é?>" = "YToxfsOpPz4" := by decide

/-- Words over a code in which no word begins another are read back one after the other. -/
theorem flatMap_injective {α β : Type} {code : α → List β} (begun : ∀ a, code a ≠ [])
    (delimits : ∀ a b r s, code a ++ r = code b ++ s → a = b ∧ r = s) :
    Function.Injective fun as : List α => as.flatMap code := by
  intro as
  induction as with
  | nil =>
    intro bs same
    cases bs with
    | nil => rfl
    | cons b bs =>
      have empty := (List.append_eq_nil_iff.mp (same.symm : code b ++ bs.flatMap code = [])).1
      exact absurd empty (begun b)
  | cons a as ih =>
    intro bs same
    cases bs with
    | nil =>
      have empty := (List.append_eq_nil_iff.mp (same : code a ++ as.flatMap code = [])).1
      exact absurd empty (begun a)
    | cons b bs =>
      obtain ⟨rfl, rest⟩ := delimits a b _ _ same
      rw [ih rest]

/-- The code point that UTF-8 bytes begin with, and the bytes after it. -/
def fromUtf8 (bytes : List ℕ) : ℕ × List ℕ :=
  let byte := fun i => bytes.getD i 0
  if byte 0 < 0x80 then (byte 0, bytes.drop 1)
  else if byte 0 < 0xE0 then ((byte 0 - 0xC0) * 64 + (byte 1 - 0x80), bytes.drop 2)
  else if byte 0 < 0xF0 then
    ((byte 0 - 0xE0) * 4096 + (byte 1 - 0x80) * 64 + (byte 2 - 0x80), bytes.drop 3)
  else
    ((byte 0 - 0xF0) * 262144 + (byte 1 - 0x80) * 4096 + (byte 2 - 0x80) * 64 + (byte 3 - 0x80),
      bytes.drop 4)

theorem fromUtf8_utf8 (c : Char) (bytes : List ℕ) :
    fromUtf8 (utf8 c ++ bytes) = (c.toNat, bytes) := by
  unfold utf8
  dsimp only
  split_ifs with one two three
  all_goals
    unfold fromUtf8
    simp only [List.cons_append, List.nil_append, List.getD_cons_zero, List.getD_cons_succ,
      List.drop_succ_cons, List.drop_zero]
  · rw [if_pos one]
  · rw [if_neg (by omega), if_pos (by omega)]
    exact Prod.ext (by dsimp only; omega) rfl
  · rw [if_neg (by omega), if_neg (by omega), if_pos (by omega)]
    exact Prod.ext (by dsimp only; omega) rfl
  · rw [if_neg (by omega), if_neg (by omega), if_neg (by omega)]
    exact Prod.ext (by dsimp only; omega) rfl

theorem utf8_append_inj (c d : Char) (r s : List ℕ) (same : utf8 c ++ r = utf8 d ++ s) :
    c = d ∧ r = s := by
  have pair : (c.toNat, r) = (d.toNat, s) := by
    rw [← fromUtf8_utf8 c r, same, fromUtf8_utf8]
  obtain ⟨code, rest⟩ := Prod.mk.inj pair
  exact ⟨Char.toNat_inj.mp code, rest⟩

theorem utf8_lt (c : Char) : ∀ b ∈ utf8 c, b < 256 := by
  have range : c.toNat < 0x110000 := by
    have valid := c.valid
    unfold UInt32.isValidChar Nat.isValidChar at valid
    show c.val.toNat < _
    omega
  intro b inside
  unfold utf8 at inside
  dsimp only at inside
  split_ifs at inside <;> simp only [List.mem_cons, List.not_mem_nil, or_false] at inside <;> omega

/-- The bytes that groups of six bits come from. -/
def fromSextets : List ℕ → List ℕ
  | p :: q :: r :: s :: rest =>
    (p * 4 + q / 16) :: (q % 16 * 16 + r / 4) :: (r % 4 * 64 + s) :: fromSextets rest
  | [p, q, r] => [p * 4 + q / 16, q % 16 * 16 + r / 4]
  | [p, q] => [p * 4 + q / 16]
  | _ => []

theorem fromSextets_sextets {bytes : List ℕ} (small : ∀ b ∈ bytes, b < 256) :
    fromSextets (sextets bytes) = bytes := by
  fun_induction sextets bytes with
  | case1 a b c rest ih =>
    have smallB := small b (by simp)
    have smallC := small c (by simp)
    rw [fromSextets, ih fun d inside => small d (by simp [inside])]
    congr 1
    · omega
    congr 1
    · omega
    congr 1
    omega
  | case2 a b =>
    have smallB := small b (by simp)
    simp only [fromSextets, List.cons.injEq, and_true]
    omega
  | case3 a =>
    simp only [fromSextets, List.cons.injEq, and_true]
    omega
  | case4 => rfl

theorem sextets_lt {bytes : List ℕ} (small : ∀ b ∈ bytes, b < 256) :
    ∀ n ∈ sextets bytes, n < 64 := by
  fun_induction sextets bytes with
  | case1 a b c rest ih =>
    have smallA := small a (by simp)
    have smallB := small b (by simp)
    have smallC := small c (by simp)
    have later := ih fun d inside => small d (by simp [inside])
    intro n inside
    simp only [List.mem_cons] at inside
    rcases inside with rfl | rfl | rfl | rfl | inside
    · omega
    · omega
    · omega
    · omega
    · exact later n inside
  | case2 a b =>
    have smallA := small a (by simp)
    have smallB := small b (by simp)
    intro n inside
    simp only [List.mem_cons, List.not_mem_nil, or_false] at inside
    omega
  | case3 a =>
    have smallA := small a (by simp)
    intro n inside
    simp only [List.mem_cons, List.not_mem_nil, or_false] at inside
    omega
  | case4 => simp

/-- The six bits that a character of base64url stands for. -/
def base64UrlValue (c : Char) : ℕ :=
  if c.isUpper then c.toNat - 65
  else if c.isLower then c.toNat - 71
  else if c.isDigit then c.toNat + 4
  else if c = '-' then 62
  else 63

theorem base64UrlValue_base64UrlChar : ∀ n < 64, base64UrlValue (base64UrlChar n) = n := by
  decide

theorem base64UrlChar_ne_dot : ∀ n < 64, base64UrlChar n ≠ '.' := by
  decide

/-- The bytes of a text. -/
def bytesOf (s : String) : List ℕ :=
  s.toList.flatMap utf8

theorem bytesOf_lt (s : String) : ∀ b ∈ bytesOf s, b < 256 := by
  intro b inside
  obtain ⟨c, -, here⟩ := List.mem_flatMap.mp inside
  exact utf8_lt c b here

/-- **The base64url text determines the text it encodes.** -/
theorem base64Url_injective : Function.Injective base64Url := by
  intro a b same
  have chars : (sextets (bytesOf a)).map base64UrlChar = (sextets (bytesOf b)).map base64UrlChar :=
    String.ofList_injective same
  have decoded : ∀ s, ((sextets (bytesOf s)).map base64UrlChar).map base64UrlValue =
      sextets (bytesOf s) := by
    intro s
    rw [List.map_map]
    refine (List.map_congr_left fun n inside => ?_).trans (List.map_id _)
    exact base64UrlValue_base64UrlChar n (sextets_lt (bytesOf_lt s) n inside)
  have bytes : bytesOf a = bytesOf b := by
    rw [← fromSextets_sextets (bytesOf_lt a), ← fromSextets_sextets (bytesOf_lt b), ← decoded a,
      chars, decoded b]
  have nonempty : ∀ c, utf8 c ≠ [] := by
    intro c
    unfold utf8
    dsimp only
    split_ifs <;> simp
  exact String.toList_inj.mp (flatMap_injective nonempty utf8_append_inj bytes)

theorem base64Url_undotted (s : String) : '.' ∉ (base64Url s).toList := by
  unfold base64Url
  rw [String.toList_ofList]
  intro inside
  obtain ⟨n, here, same⟩ := List.mem_map.mp inside
  exact base64UrlChar_ne_dot n (sextets_lt (bytesOf_lt s) n here) same

/-- Only the empty text has an empty base64url text. -/
theorem base64Url_ne_empty {s : String} (filled : s ≠ "") : base64Url s ≠ "" := by
  intro empty
  exact filled (base64Url_injective (empty.trans (by decide : "" = base64Url "")))

/-! ### Parts of a text -/

/-- The parts of a word between occurrences of a character. -/
def splitWord (mark : Char) : List Char → List (List Char)
  | [] => [[]]
  | c :: cs =>
    if c = mark then [] :: splitWord mark cs
    else
      match splitWord mark cs with
      | part :: parts => (c :: part) :: parts
      | [] => [[c]]

/-- `s.split(mark)`. -/
def splitOn (mark : Char) (s : String) : List String :=
  (splitWord mark s.toList).map String.ofList

theorem splitWord_of_not_mem {mark : Char} {cs : List Char} (without : mark ∉ cs) :
    splitWord mark cs = [cs] := by
  induction cs with
  | nil => rfl
  | cons c cs ih =>
    have other : c ≠ mark := fun same => without (by simp [same])
    rw [splitWord, if_neg other, ih fun inside => without (by simp [inside])]

theorem splitWord_append {mark : Char} {cs : List Char} (without : mark ∉ cs) (rest : List Char) :
    splitWord mark (cs ++ mark :: rest) = cs :: splitWord mark rest := by
  induction cs with
  | nil => rw [List.nil_append, splitWord, if_pos rfl]
  | cons c cs ih =>
    have other : c ≠ mark := fun same => without (by simp [same])
    rw [List.cons_append, splitWord, if_neg other, ih fun inside => without (by simp [inside])]

/-- **Three parts without the mark** are what a text made of them is split into. -/
theorem splitOn_three {a b c : String} (first : '.' ∉ a.toList) (second : '.' ∉ b.toList)
    (third : '.' ∉ c.toList) : splitOn '.' (a ++ "." ++ b ++ "." ++ c) = [a, b, c] := by
  have chars : (a ++ "." ++ b ++ "." ++ c).toList =
      a.toList ++ '.' :: (b.toList ++ '.' :: c.toList) := by
    simp [String.toList_append]
  unfold splitOn
  rw [chars, splitWord_append first, splitWord_append second, splitWord_of_not_mem third]
  simp

/-! ### Hexadecimal and base32 -/

/-- The value of a hexadecimal digit, in either case. -/
def hexDigitValue (c : Char) : ℕ :=
  if c.isDigit then c.toNat - 48 else c.toLower.toNat - 87

/-- `Buffer.from(s, "hex")`: the bytes up to the first pair that is none. -/
def bytesOfHex : List Char → List ℕ
  | a :: b :: rest =>
    if isHex a && isHex b then (hexDigitValue a * 16 + hexDigitValue b) :: bytesOfHex rest else []
  | _ => []

/-- Bytes in hexadecimal, two digits each. -/
def hexOf (bytes : List ℕ) : String :=
  String.ofList (bytes.flatMap fun b => [Nat.digitChar (b / 16), Nat.digitChar (b % 16)])

example : bytesOfHex (hexOf [0, 165, 255]).toList = [0, 165, 255] := by decide

/-- The bytes of a row of bits; what is left of them at the end is dropped. -/
def bytesOfBits (bits : List Bool) : List ℕ :=
  (List.range (bits.length / 8)).map fun i =>
    ((bits.drop (8 * i)).take 8).foldl (fun n bit => 2 * n + bit.toNat) 0

/-- A number below 32 in five bits. -/
def fiveBits (n : ℕ) : List Bool :=
  [n.testBit 4, n.testBit 3, n.testBit 2, n.testBit 1, n.testBit 0]

/-! ### Numbers -/

/-- The digits of `n`, with zeros in front up to `width` of them. -/
def padStart (width n : ℕ) : String :=
  let digits := (toString n).toList
  String.ofList (List.replicate (width - digits.length) '0' ++ digits)

theorem toList_padStart (width n : ℕ) :
    (padStart width n).toList =
      List.replicate (width - (Nat.toDigits 10 n).length) '0' ++ Nat.toDigits 10 n := by
  unfold padStart
  rw [String.toList_ofList, Nat.toString_eq_ofList_toDigits, String.toList_ofList]

/-- The padding does not hide the number. -/
theorem padStart_injective (width : ℕ) : Function.Injective (padStart width) := by
  intro m n same
  have digits := congrArg (fun text => Nat.ofDigitChars 10 (String.toList text) 0) same
  simpa [toList_padStart, Nat.ofDigitChars_append] using digits

theorem length_padStart {width n : ℕ} (wide : 0 < width) (fits : n < 10 ^ width) :
    (padStart width n).toList.length = width := by
  have short := (Nat.length_toDigits_le_iff (by decide) wide).mpr fits
  rw [toList_padStart, List.length_append, List.length_replicate]
  omega

theorem isDigit_of_mem_padStart {width n : ℕ} :
    ∀ c ∈ (padStart width n).toList, c.isDigit = true := by
  intro c inside
  rw [toList_padStart] at inside
  rcases List.mem_append.mp inside with zero | digit
  · rw [List.eq_of_mem_replicate zero]
    decide
  · exact Nat.isDigit_of_mem_toDigits (by decide) (by decide) digit

/-! ### Dates -/

/-- Year, month and day of the day that is `days` after the first of January 1970. -/
def civil (days : ℤ) : ℤ × ℤ × ℤ :=
  let shifted := days + 719468
  let era := shifted / 146097
  let dayOfEra := shifted % 146097
  let yearOfEra := (dayOfEra - dayOfEra / 1460 + dayOfEra / 36524 - dayOfEra / 146096) / 365
  let dayOfYear := dayOfEra - (365 * yearOfEra + yearOfEra / 4 - yearOfEra / 100)
  let shiftedMonth := (5 * dayOfYear + 2) / 153
  let day := dayOfYear - (153 * shiftedMonth + 2) / 5 + 1
  let month := if shiftedMonth < 10 then shiftedMonth + 3 else shiftedMonth - 9
  let year := yearOfEra + era * 400 + if month ≤ 2 then 1 else 0
  (year, month, day)

/-- The year in four digits, or in six with a sign where four do not hold it. -/
def isoYear (year : ℤ) : String :=
  if 0 ≤ year ∧ year ≤ 9999 then padStart 4 year.toNat
  else if year < 0 then "-" ++ padStart 6 (-year).toNat
  else "+" ++ padStart 6 year.toNat

/-- `Date.prototype.getUTCFullYear` of a time in milliseconds. -/
def utcFullYear (ms : ℤ) : ℤ :=
  (civil (ms / 86400000)).1

/-- `Date.prototype.toISOString` of a time in milliseconds. -/
def toISOString (ms : ℤ) : String :=
  let (year, month, day) := civil (ms / 86400000)
  let inDay := ms % 86400000
  isoYear year ++ "-" ++ padStart 2 month.toNat ++ "-" ++ padStart 2 day.toNat ++ "T" ++
    padStart 2 (inDay / 3600000).toNat ++ ":" ++ padStart 2 (inDay / 60000 % 60).toNat ++ ":" ++
    padStart 2 (inDay / 1000 % 60).toNat ++ "." ++ padStart 3 (inDay % 1000).toNat ++ "Z"

example : toISOString 1709251199999 = "2024-02-29T23:59:59.999Z" := by decide

end Text

end AcadID.Lib
