/-
**Texts of quoted cells.**

A text spells a table: separators end cells, line breaks end rows, and a stretch in quotes may
contain both; inside quotes a doubled quote stands for one.

* `Dialect` — the quote, the separator and the line breaks of an alphabet.
* `Token` — what a text consists of; `print` writes tokens down, and `tableOf` is the table that
  they spell.
* `exists_tokens` — **every text is the print of tokens**, or of tokens and a quote that is not
  closed; `exists_tokens_of_odd` — the latter when its quotes are not balanced.
* `encodeTable` — the standard encoding of a table, each cell in quotes; `filterMap_encoded` — **it
  spells that table**, up to blank rows.
* `scan` — a loop over a text that looks one character ahead.
-/

import Mathlib.Algebra.Ring.Parity
import Mathlib.Data.List.Basic
import Mathlib.Data.List.Chain

namespace AcadID.Lib.QuotedTable

/-- The special characters. -/
structure Dialect (α : Type) where
  quote : α
  separator : α
  isBreak : α → Bool
  separator_ne : separator ≠ quote
  quote_inside : isBreak quote = false
  separator_inside : isBreak separator = false

/-- A piece of a text. -/
inductive Token (α : Type) where
  | bare (a : α)
  | quoted (content : List α)
  | separator
  | lineBreak (a : α)
  deriving DecidableEq, Repr

namespace Token

variable {α : Type}

def isQuoted : Token α → Bool
  | quoted _ => true
  | _ => false

def isSeparator : Token α → Bool
  | separator => true
  | _ => false

def isLineBreak : Token α → Bool
  | lineBreak _ => true
  | _ => false

/-- What the token adds to a cell. -/
def content : Token α → List α
  | bare a => [a]
  | quoted content => content
  | _ => []

end Token

section Proper

variable {α : Type} (d : Dialect α)

/-- A bare character is not special, and a line break is one. -/
def Token.Proper : Token α → Prop
  | .bare a => a ≠ d.quote ∧ a ≠ d.separator ∧ d.isBreak a = false
  | .lineBreak a => d.isBreak a = true
  | _ => True

/-- Not both in quotes: two such neighbours would be one. -/
def Apart (s t : Token α) : Prop :=
  ¬ (s.isQuoted = true ∧ t.isQuoted = true)

/-- Tokens that a text is read as. -/
structure Proper (tokens : List (Token α)) : Prop where
  each : ∀ t ∈ tokens, t.Proper d
  apart : tokens.IsChain Apart

variable {d}

theorem proper_nil : Proper d ([] : List (Token α)) :=
  ⟨fun _ inside => absurd inside (by simp), List.isChain_nil⟩

theorem Proper.tail {t : Token α} {tokens : List (Token α)} (proper : Proper d (t :: tokens)) :
    Proper d tokens :=
  ⟨fun s inside => proper.each s (List.mem_cons_of_mem t inside), proper.apart.tail⟩

theorem Proper.append {tokens more : List (Token α)} (proper : Proper d tokens)
    (also : Proper d more) (apart : ∀ s ∈ tokens.getLast?, ∀ t ∈ more.head?, Apart s t) :
    Proper d (tokens ++ more) := by
  refine ⟨fun s inside => ?_, List.isChain_append.mpr ⟨proper.apart, also.apart, apart⟩⟩
  rcases List.mem_append.mp inside with before | after
  · exact proper.each s before
  · exact also.each s after

theorem proper_singleton {t : Token α} (fits : t.Proper d) : Proper d [t] :=
  ⟨fun s inside => by rw [List.mem_singleton.mp inside]; exact fits, List.isChain_singleton t⟩

theorem Proper.concat {tokens : List (Token α)} (proper : Proper d tokens) (t : Token α)
    (fits : t.Proper d) (apart : ∀ s ∈ tokens.getLast?, Apart s t) :
    Proper d (tokens ++ [t]) := by
  refine proper.append (proper_singleton fits) fun s last u first => ?_
  rw [List.head?_cons, Option.mem_some] at first
  exact first ▸ apart s last

theorem Proper.init {tokens : List (Token α)} {t : Token α} (proper : Proper d (tokens ++ [t])) :
    Proper d tokens :=
  ⟨fun s inside => proper.each s (List.mem_append_left _ inside),
    (List.isChain_append.mp proper.apart).1⟩

end Proper

section Print

variable {α : Type} [DecidableEq α] (d : Dialect α)

/-- Every quote doubled. -/
def doubled (content : List α) : List α :=
  content.flatMap fun a => if a = d.quote then [a, a] else [a]

def Token.text : Token α → List α
  | .bare a => [a]
  | .quoted content => d.quote :: doubled d content ++ [d.quote]
  | .separator => [d.separator]
  | .lineBreak a => [a]

def print (tokens : List (Token α)) : List α :=
  tokens.flatMap (Token.text d)

theorem print_append (tokens more : List (Token α)) :
    print d (tokens ++ more) = print d tokens ++ print d more :=
  List.flatMap_append

theorem print_cons (t : Token α) (tokens : List (Token α)) :
    print d (t :: tokens) = t.text d ++ print d tokens :=
  rfl

theorem print_singleton (t : Token α) : print d [t] = t.text d :=
  List.append_nil _

theorem doubled_append (content more : List α) :
    doubled d (content ++ more) = doubled d content ++ doubled d more :=
  List.flatMap_append

theorem doubled_cons_quote (content : List α) :
    doubled d (d.quote :: content) = d.quote :: d.quote :: doubled d content := by
  show (if d.quote = d.quote then [d.quote, d.quote] else [d.quote]) ++ doubled d content = _
  rw [if_pos rfl]
  rfl

theorem doubled_cons_of_ne {a : α} (plain : a ≠ d.quote) (content : List α) :
    doubled d (a :: content) = a :: doubled d content := by
  show (if a = d.quote then [a, a] else [a]) ++ doubled d content = _
  rw [if_neg plain]
  rfl

variable {d}

/-! ### Every text is printed -/

/-- The text that ends inside quotes, after the tokens. -/
def printOpen (d : Dialect α) (tokens : List (Token α)) (content : List α) : List α :=
  print d tokens ++ d.quote :: doubled d content

/-- The text is printed by tokens, the last of them perhaps in quotes that are not closed. -/
def Printed (d : Dialect α) (text : List α) : Prop :=
  (∃ tokens, Proper d tokens ∧ text = print d tokens) ∨
    ∃ tokens content, Proper d (tokens ++ [.quoted content]) ∧ text = printOpen d tokens content

/-- A quote after tokens opens a stretch, or opens the last one again. -/
theorem printed_quote {tokens : List (Token α)} (proper : Proper d tokens) :
    Printed d (print d tokens ++ [d.quote]) := by
  right
  rcases List.eq_nil_or_concat tokens with rfl | ⟨before, last, rfl⟩
  · exact ⟨[], [], proper_nil.concat (.quoted []) trivial (by simp), rfl⟩
  · rw [List.concat_eq_append] at proper ⊢
    cases last with
    | quoted content =>
      refine ⟨before, content ++ [d.quote], ?_, ?_⟩
      · refine proper.init.concat (.quoted _) trivial fun s last => ?_
        exact (List.isChain_append.mp proper.apart).2.2 s last (.quoted content) rfl
      · unfold printOpen
        rw [print_append, print_singleton, doubled_append, doubled_cons_quote]
        simp [Token.text, doubled]
    | bare a =>
      refine ⟨before ++ [.bare a], [], proper.concat (.quoted []) trivial ?_, rfl⟩
      simp [Apart, Token.isQuoted]
    | separator =>
      refine ⟨before ++ [.separator], [], proper.concat (.quoted []) trivial ?_, rfl⟩
      simp [Apart, Token.isQuoted]
    | lineBreak a =>
      refine ⟨before ++ [.lineBreak a], [], proper.concat (.quoted []) trivial ?_, rfl⟩
      simp [Apart, Token.isQuoted]

/-- A character that is not a quote after tokens is a token. -/
theorem printed_plain {tokens : List (Token α)} (proper : Proper d tokens) {a : α}
    (plain : a ≠ d.quote) : Printed d (print d tokens ++ [a]) := by
  left
  have apart : ∀ t : Token α, t.isQuoted = false → ∀ s ∈ tokens.getLast?, Apart s t :=
    fun t unquoted s _ both => absurd both.2 (by simp [unquoted])
  by_cases separates : a = d.separator
  · refine ⟨tokens ++ [.separator], proper.concat .separator trivial (apart _ rfl), ?_⟩
    rw [print_append, print_singleton, separates]
    rfl
  · by_cases breaks : d.isBreak a = true
    · refine ⟨tokens ++ [.lineBreak a], proper.concat (.lineBreak a) breaks (apart _ rfl), ?_⟩
      rw [print_append, print_singleton]
      rfl
    · have bare : (Token.bare a).Proper d := ⟨plain, separates, eq_false_of_ne_true breaks⟩
      refine ⟨tokens ++ [.bare a], proper.concat (.bare a) bare (apart _ rfl), ?_⟩
      rw [print_append, print_singleton]
      rfl

/-- **Every text is the print of tokens**, or of tokens and a stretch that is not closed. -/
theorem exists_tokens (d : Dialect α) (text : List α) : Printed d text := by
  induction text using List.reverseRecOn with
  | nil => exact .inl ⟨[], proper_nil, rfl⟩
  | append_singleton text a printed =>
    rcases printed with ⟨tokens, proper, rfl⟩ | ⟨tokens, content, proper, rfl⟩
    · by_cases quote : a = d.quote
      · rw [quote]
        exact printed_quote proper
      · exact printed_plain proper quote
    · by_cases quote : a = d.quote
      · left
        refine ⟨tokens ++ [.quoted content], proper, ?_⟩
        unfold printOpen
        rw [print_append, print_singleton, quote]
        simp [Token.text]
      · right
        refine ⟨tokens, content ++ [a], proper.init.concat (.quoted _) trivial fun s last => ?_, ?_⟩
        · exact (List.isChain_append.mp proper.apart).2.2 s last (.quoted content) rfl
        · unfold printOpen
          rw [doubled_append, doubled_cons_of_ne d quote]
          simp [doubled]

/-! ### Balanced quotes -/

theorem even_count_doubled (d : Dialect α) (content : List α) :
    Even ((doubled d content).count d.quote) := by
  induction content with
  | nil => exact ⟨0, rfl⟩
  | cons a content ih =>
    by_cases quote : a = d.quote
    · rw [quote, doubled_cons_quote, List.count_cons_self, List.count_cons_self]
      obtain ⟨k, twice⟩ := ih
      exact ⟨k + 1, by omega⟩
    · rw [doubled_cons_of_ne d quote, List.count_cons_of_ne quote]
      exact ih

/-- Tokens leave the quotes balanced. -/
theorem even_count_print {tokens : List (Token α)} (each : ∀ t ∈ tokens, t.Proper d) :
    Even ((print d tokens).count d.quote) := by
  induction tokens with
  | nil => exact ⟨0, rfl⟩
  | cons t tokens ih =>
    have rest := ih fun s inside => each s (List.mem_cons_of_mem t inside)
    have here := each t (List.mem_cons_self ..)
    rw [print_cons, List.count_append]
    refine Even.add ?_ rest
    cases t with
    | bare a =>
      rw [Token.text, List.count_singleton, if_neg (by simpa using here.1)]
      exact ⟨0, rfl⟩
    | separator =>
      rw [Token.text, List.count_singleton, if_neg (by simpa using d.separator_ne)]
      exact ⟨0, rfl⟩
    | lineBreak a =>
      have other : a ≠ d.quote := by
        rintro rfl
        exact absurd (here.symm.trans d.quote_inside) (by simp)
      rw [Token.text, List.count_singleton, if_neg (by simpa using other)]
      exact ⟨0, rfl⟩
    | quoted content =>
      obtain ⟨k, twice⟩ := even_count_doubled d content
      rw [Token.text, List.cons_append, List.count_cons_self, List.count_append,
        List.count_singleton_self]
      exact ⟨k + 1, by omega⟩

/-- **A text whose quotes are not balanced** is the print of tokens and a stretch in quotes that is
not closed. -/
theorem exists_tokens_of_odd {text : List α} (unbalanced : Odd (text.count d.quote)) :
    ∃ tokens content, Proper d (tokens ++ [.quoted content]) ∧
      text = printOpen d tokens content := by
  rcases exists_tokens d text with ⟨tokens, proper, rfl⟩ | opened
  · exact absurd unbalanced (Nat.not_odd_iff_even.mpr (even_count_print proper.each))
  · exact opened

end Print

/-! ### Tables -/

section Table

variable {α : Type}

def cellOf (tokens : List (Token α)) : List α :=
  tokens.flatMap Token.content

def rowOf (tokens : List (Token α)) : List (List α) :=
  (tokens.splitOnP Token.isSeparator).map cellOf

/-- The table that the tokens spell. -/
def tableOf (tokens : List (Token α)) : List (List (List α)) :=
  (tokens.splitOnP Token.isLineBreak).map rowOf

theorem tableOf_nil : tableOf ([] : List (Token α)) = [[[]]] := rfl

/-- A line break ends the row. -/
theorem tableOf_lineBreak (a : α) (tokens : List (Token α)) :
    tableOf (.lineBreak a :: tokens) = [[]] :: tableOf tokens := by
  unfold tableOf
  rw [List.splitOnP_cons_eq_if_modifyHead]
  rfl

theorem exists_rowOf (tokens : List (Token α)) :
    ∃ cell cells, rowOf tokens = cell :: cells := by
  obtain ⟨first, rest, split⟩ :=
    List.exists_cons_of_ne_nil (List.splitOnP_ne_nil Token.isSeparator tokens)
  exact ⟨_, _, by rw [rowOf, split]; rfl⟩

/-- What the first token adds to the first row. -/
theorem tableOf_cons {t : Token α} (inline : t.isLineBreak = false) (tokens : List (Token α)) :
    ∃ line lines, tokens.splitOnP Token.isLineBreak = line :: lines ∧
      tableOf tokens = rowOf line :: lines.map rowOf ∧
      tableOf (t :: tokens) = rowOf (t :: line) :: lines.map rowOf := by
  obtain ⟨line, lines, split⟩ :=
    List.exists_cons_of_ne_nil (List.splitOnP_ne_nil Token.isLineBreak tokens)
  refine ⟨line, lines, split, by rw [tableOf, split]; rfl, ?_⟩
  rw [tableOf, List.splitOnP_cons_eq_if_modifyHead, split, inline]
  rfl

/-- A separator ends the cell. -/
theorem tableOf_separator {tokens : List (Token α)} {row : List (List α)}
    {rows : List (List (List α))} (spelled : tableOf tokens = row :: rows) :
    tableOf (.separator :: tokens) = ([] :: row) :: rows := by
  obtain ⟨line, lines, -, before, after⟩ := tableOf_cons (t := .separator) rfl tokens
  obtain ⟨rfl, rfl⟩ := List.cons.inj (before.symm.trans spelled)
  rw [after, rowOf, List.splitOnP_cons_eq_if_modifyHead]
  rfl

/-- Any other token is part of the cell. -/
theorem tableOf_content {t : Token α} (inline : t.isLineBreak = false)
    (inside : t.isSeparator = false) {tokens : List (Token α)} {cell : List α}
    {cells : List (List α)} {rows : List (List (List α))}
    (spelled : tableOf tokens = (cell :: cells) :: rows) :
    tableOf (t :: tokens) = ((t.content ++ cell) :: cells) :: rows := by
  obtain ⟨line, lines, -, before, after⟩ := tableOf_cons inline tokens
  obtain ⟨row, rfl⟩ := List.cons.inj (before.symm.trans spelled)
  obtain ⟨first, rest, split⟩ :=
    List.exists_cons_of_ne_nil (List.splitOnP_ne_nil Token.isSeparator line)
  rw [rowOf, split] at row
  obtain ⟨rfl, rfl⟩ := List.cons.inj row
  rw [after, rowOf, List.splitOnP_cons_eq_if_modifyHead, split, inside]
  rfl

theorem exists_tableOf (tokens : List (Token α)) :
    ∃ cell cells rows, tableOf tokens = (cell :: cells) :: rows := by
  obtain ⟨line, lines, split⟩ :=
    List.exists_cons_of_ne_nil (List.splitOnP_ne_nil Token.isLineBreak tokens)
  obtain ⟨cell, cells, row⟩ := exists_rowOf line
  exact ⟨cell, cells, lines.map rowOf, by rw [tableOf, split, List.map_cons, row]⟩

end Table

/-! ### The standard encoding -/

section Encode

variable {α : Type}

/-- Lines one after the other, the `i`-th line end after the `i`-th of them. -/
def joinLines {β : Type} : (ℕ → List β) → List (List β) → List β
  | _, [] => []
  | _, [line] => line
  | ends, line :: next :: lines =>
    line ++ ends 0 ++ joinLines (fun i => ends (i + 1)) (next :: lines)

/-- Every cell in quotes, and separators between them. -/
def rowTokens : List (List α) → List (Token α)
  | [] => []
  | [cell] => [.quoted cell]
  | cell :: next :: cells => .quoted cell :: .separator :: rowTokens (next :: cells)

def breakTokens (breaks : List α) : List (Token α) :=
  breaks.map .lineBreak

def tableTokens (ends : ℕ → List α) (final : List α) (table : List (List (List α))) :
    List (Token α) :=
  joinLines (fun i => breakTokens (ends i)) (table.map rowTokens) ++ breakTokens final

/-- A row of cells is what its tokens spell. -/
theorem tableOf_rowTokens {cells : List (List α)} (some_cell : cells ≠ [])
    {rest : List (Token α)} {rows : List (List (List α))} (ends : tableOf rest = [[]] :: rows) :
    tableOf (rowTokens cells ++ rest) = cells :: rows := by
  induction cells with
  | nil => exact absurd rfl some_cell
  | cons cell cells ih =>
    cases cells with
    | nil =>
      show tableOf (.quoted cell :: rest) = _
      rw [tableOf_content rfl rfl ends]
      simp [Token.content]
    | cons next cells =>
      show tableOf (.quoted cell :: .separator :: (rowTokens (next :: cells) ++ rest)) = _
      rw [tableOf_content rfl rfl (tableOf_separator (ih (by simp)))]
      simp [Token.content]

variable {β : Type} {g : List (List α) → Option β}

theorem filterMap_breakTokens (blank : g [[]] = none) (breaks : List α) (rest : List (Token α)) :
    (tableOf (breakTokens breaks ++ rest)).filterMap g = (tableOf rest).filterMap g := by
  induction breaks with
  | nil => rfl
  | cons a breaks ih =>
    show (tableOf (.lineBreak a :: (breakTokens breaks ++ rest))).filterMap g = _
    rw [tableOf_lineBreak, List.filterMap_cons_none blank, ih]

/-- **The standard encoding spells its table**, up to blank rows. -/
theorem filterMap_tableTokens (blank : g [[]] = none) {ends : ℕ → List α}
    (separate : ∀ i, ends i ≠ []) (final : List α) {table : List (List (List α))}
    (cells : ∀ row ∈ table, row ≠ []) :
    (tableOf (tableTokens ends final table)).filterMap g = table.filterMap g := by
  have last : (tableOf (breakTokens final)).filterMap g = [] := by
    have alone := @filterMap_breakTokens α β g blank final []
    rw [List.append_nil] at alone
    rw [alone, tableOf_nil, List.filterMap_cons_none blank, List.filterMap_nil]
  unfold tableTokens
  induction table generalizing ends with
  | nil => exact last
  | cons row table ih =>
    cases table with
    | nil =>
      obtain ⟨rows, ends_row⟩ : ∃ rows, tableOf (breakTokens final) = [[]] :: rows := by
        cases final with
        | nil => exact ⟨[], rfl⟩
        | cons a final => exact ⟨_, tableOf_lineBreak a (breakTokens final)⟩
      show (tableOf (rowTokens row ++ breakTokens final)).filterMap g = _
      rw [ends_row, List.filterMap_cons_none blank] at last
      rw [tableOf_rowTokens (cells row (by simp)) ends_row, List.filterMap_cons, last,
        List.filterMap_cons, List.filterMap_nil]
    | cons next table =>
      have rest := @ih (fun i => ends (i + 1)) (fun i => separate (i + 1)) fun r inside =>
        cells r (List.mem_cons_of_mem row inside)
      obtain ⟨a, breaks, split⟩ := List.exists_cons_of_ne_nil (separate 0)
      show (tableOf (rowTokens row ++ breakTokens (ends 0) ++ joinLines _ _ ++ _)).filterMap g = _
      rw [List.append_assoc, List.append_assoc, split]
      show (tableOf (rowTokens row ++ .lineBreak a :: (breakTokens breaks ++
        (joinLines (fun i => breakTokens (ends (i + 1))) ((next :: table).map rowTokens) ++
          breakTokens final)))).filterMap g = _
      rw [tableOf_rowTokens (cells row (by simp)) (tableOf_lineBreak a _), List.filterMap_cons,
        filterMap_breakTokens blank, rest]
      exact List.filterMap_cons.symm

/-! ### Its tokens -/

theorem proper_rowTokens {d : Dialect α} (cells : List (List α)) : Proper d (rowTokens cells) := by
  induction cells with
  | nil => exact proper_nil
  | cons cell cells ih =>
    cases cells with
    | nil => exact proper_singleton (t := .quoted cell) trivial
    | cons next cells =>
      have separated : Proper d (.separator :: rowTokens (next :: cells)) :=
        (proper_singleton (t := .separator) trivial).append ih (by simp [Apart, Token.isQuoted])
      exact (proper_singleton (t := .quoted cell) trivial).append separated
        (by simp [Apart, Token.isQuoted])

theorem proper_breakTokens {d : Dialect α} {breaks : List α}
    (each : ∀ a ∈ breaks, d.isBreak a = true) : Proper d (breakTokens breaks) := by
  induction breaks with
  | nil => exact proper_nil
  | cons a breaks ih =>
    have rest := ih fun b inside => each b (List.mem_cons_of_mem a inside)
    exact (proper_singleton (t := .lineBreak a) (each a (by simp))).append rest
      (by simp [Apart, Token.isQuoted])

/-- Line breaks may follow anything. -/
theorem Proper.append_breakTokens {d : Dialect α} {tokens : List (Token α)}
    (proper : Proper d tokens) {breaks : List α} (each : ∀ a ∈ breaks, d.isBreak a = true) :
    Proper d (tokens ++ breakTokens breaks) := by
  refine proper.append (proper_breakTokens each) fun s _ t first both => ?_
  obtain ⟨a, -, rfl⟩ := List.mem_map.mp (List.mem_of_mem_head? first)
  exact absurd both.2 (by simp [Token.isQuoted])

/-- Anything may follow line breaks. -/
theorem Proper.append_of_breaks {d : Dialect α} {tokens more : List (Token α)} {breaks : List α}
    (some_break : breaks ≠ []) (proper : Proper d (tokens ++ breakTokens breaks))
    (also : Proper d more) : Proper d (tokens ++ breakTokens breaks ++ more) := by
  refine proper.append also fun s last t _ both => ?_
  obtain ⟨before, a, rfl⟩ := (List.eq_nil_or_concat' breaks).resolve_left some_break
  rw [breakTokens, List.map_append, ← List.append_assoc, List.map_singleton,
    List.getLast?_concat, Option.mem_some] at last
  rw [← last] at both
  exact absurd both.1 (by simp [Token.isQuoted])

/-- The tokens of a table are proper. -/
theorem proper_tableTokens {d : Dialect α} {ends : ℕ → List α} {final : List α}
    (separate : ∀ i, ends i ≠ []) (each : ∀ i, ∀ a ∈ ends i, d.isBreak a = true)
    (each_final : ∀ a ∈ final, d.isBreak a = true) (table : List (List (List α))) :
    Proper d (tableTokens ends final table) := by
  unfold tableTokens
  refine Proper.append_breakTokens ?_ each_final
  induction table generalizing ends with
  | nil => exact proper_nil
  | cons row table ih =>
    cases table with
    | nil => exact proper_rowTokens row
    | cons next table =>
      exact ((proper_rowTokens row).append_breakTokens (each 0)).append_of_breaks (separate 0)
        (ih (fun i => separate (i + 1)) fun i => each (i + 1))

section Text

variable [DecidableEq α] (d : Dialect α)

/-- The cells in quotes, joined by separators. -/
def encodeRow (cells : List (List α)) : List α :=
  [d.separator].intercalate (cells.map fun cell => d.quote :: doubled d cell ++ [d.quote])

/-- The standard encoding of a table. -/
def encodeTable (ends : ℕ → List α) (final : List α) (table : List (List (List α))) : List α :=
  joinLines ends (table.map (encodeRow d)) ++ final

theorem print_rowTokens (cells : List (List α)) :
    print d (rowTokens cells) = encodeRow d cells := by
  induction cells with
  | nil => rfl
  | cons cell cells ih =>
    cases cells with
    | nil => simp [rowTokens, print, encodeRow, Token.text]
    | cons next cells =>
      show print d (.quoted cell :: .separator :: rowTokens (next :: cells)) = _
      rw [print_cons, print_cons, ih]
      simp [encodeRow, Token.text, List.intercalate]

theorem print_breakTokens (breaks : List α) : print d (breakTokens breaks) = breaks := by
  induction breaks with
  | nil => rfl
  | cons a breaks ih =>
    show a :: print d (breakTokens breaks) = _
    rw [ih]

theorem print_joinLines (ends : ℕ → List (Token α)) (lines : List (List (Token α))) :
    print d (joinLines ends lines) =
      joinLines (fun i => print d (ends i)) (lines.map (print d)) := by
  induction lines generalizing ends with
  | nil => rfl
  | cons line lines ih =>
    cases lines with
    | nil => rfl
    | cons next lines =>
      show print d (line ++ ends 0 ++ joinLines _ (next :: lines)) = _
      rw [print_append, print_append, ih]
      rfl

/-- The tokens of a table print its encoding. -/
theorem print_tableTokens (ends : ℕ → List α) (final : List α) (table : List (List (List α))) :
    print d (tableTokens ends final table) = encodeTable d ends final table := by
  unfold tableTokens encodeTable
  rw [print_append, print_breakTokens, print_joinLines, List.map_map]
  simp only [print_breakTokens]
  congr 2
  exact List.map_congr_left fun row _ => print_rowTokens d row

end Text

end Encode

/-! ### Reading -/

/-- A loop over a text whose body sees the next character too. -/
def scan {α σ : Type} (step : α → Option α → σ → σ) : List α → σ → σ
  | [], s => s
  | a :: text, s => scan step text (step a text.head? s)

theorem scan_cons {α σ : Type} (step : α → Option α → σ → σ) (a : α) (text : List α) (s : σ) :
    scan step (a :: text) s = scan step text (step a text.head? s) :=
  rfl

end AcadID.Lib.QuotedTable
