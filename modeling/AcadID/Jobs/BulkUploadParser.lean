/-
**The parser of bulk student uploads.**

* `csvRecords` — the records of a CSV text, read character by character; `csvRecords_print` — **they
  are the table that its tokens spell**, cells trimmed and blank records dropped.
* `csvRecords_encode` — the standard encoding of a table is read back as that table.
* `parseStudentUpload` — an upload to the register it carries, or the error that rejects it.
* `parse_rejects_iff` — **exactly when an upload whose quotes are not balanced is rejected**: unless
  the register still fits once the rest of the text is the content of one cell.
-/

import AcadID.Gateway.Students
import AcadID.Jobs.PaymentConfirmation
import AcadID.Lib.QuotedTable
import AcadID.Platform.RateLimit

namespace AcadID

open Lib

namespace BulkUpload

open JobWorker Students QuotedTable

/-! ### The records of a CSV text -/

/-- What the loop over the text has read. -/
structure CsvReader where
  rows : List (List String)
  current : List Char
  row : List String
  inQuotes : Bool
  /-- The index has been moved past the next character. -/
  skips : Bool

namespace CsvReader

def start : CsvReader where
  rows := []
  current := []
  row := []
  inQuotes := false
  skips := false

/-- `current.trim()` -/
def cell (r : CsvReader) : String :=
  Text.trim (String.ofList r.current)

def endCell (r : CsvReader) : CsvReader :=
  { r with row := r.row ++ [r.cell], current := [] }

/-- The row is kept when one of its cells is not empty. -/
def endRow (r : CsvReader) : CsvReader :=
  { r with
    rows :=
      if r.endCell.row.any (· != "") then r.rows ++ [r.endCell.row] else r.rows
    row := []
    current := [] }

def append (r : CsvReader) (content : List Char) : CsvReader :=
  { r with current := r.current ++ content }

end CsvReader

/-- The body of the loop, at a character and the one after it. -/
def csvStep (char : Char) (next : Option Char) (r : CsvReader) : CsvReader :=
  if r.skips then { r with skips := false }
  else if char = '"' ∧ r.inQuotes = true ∧ next = some '"' then
    { r.append ['"'] with skips := true }
  else if char = '"' then { r with inQuotes := !r.inQuotes }
  else if char = ',' ∧ r.inQuotes = false then r.endCell
  else if (char = '\n' ∨ char = '\r') ∧ r.inQuotes = false then
    { r.endRow with skips := decide (char = '\r' ∧ next = some '\n') }
  else r.append [char]

def csvRecords (text : String) : List (List String) :=
  (scan csvStep text.toList CsvReader.start).endRow.rows

/-! ### What its tokens do -/

/-- The quotes, commas and line ends of CSV. -/
def csv : Dialect Char where
  quote := '"'
  separator := ','
  isBreak c := c = '\n' ∨ c = '\r'
  separator_ne := by decide
  quote_inside := by decide
  separator_inside := by decide

/-- A token read. -/
def take (r : CsvReader) : Token Char → CsvReader
  | .separator => r.endCell
  | .lineBreak _ => r.endRow
  | t => r.append t.content

section Reading

variable {r : CsvReader} {next : Option Char}

theorem append_append (r : CsvReader) (content more : List Char) :
    (r.append content).append more = r.append (content ++ more) := by
  simp [CsvReader.append]

theorem append_nil (r : CsvReader) : r.append [] = r := by
  simp [CsvReader.append]

theorem csvStep_skips (skips : r.skips = true) (c : Char) :
    csvStep c next r = { r with skips := false } := by
  simp [csvStep, skips]

theorem csvStep_open (ready : r.skips = false) (outside : r.inQuotes = false) :
    csvStep '"' next r = { r with inQuotes := true } := by
  simp [csvStep, ready, outside]

theorem csvStep_close (ready : r.skips = false) (inside : r.inQuotes = true)
    (last : next ≠ some '"') : csvStep '"' next r = { r with inQuotes := false } := by
  simp [csvStep, ready, inside, last]

theorem unskipped (ready : r.skips = false) : { r with skips := false } = r := by
  rw [← ready]

theorem csvStep_doubled (ready : r.skips = false) (inside : r.inQuotes = true) :
    csvStep '"' (some '"') r = { r.append ['"'] with skips := true } := by
  simp [csvStep, ready, inside]

/-- A doubled quote stands for one. -/
theorem scan_doubled_quote (ready : r.skips = false) (inside : r.inQuotes = true)
    (rest : List Char) :
    scan csvStep ('"' :: '"' :: rest) r = scan csvStep rest (r.append ['"']) := by
  have same : { r.append ['"'] with skips := false } = r.append ['"'] :=
    unskipped (r := r.append ['"']) ready
  rw [scan_cons, scan_cons, List.head?_cons, csvStep_doubled ready inside, csvStep_skips rfl]
  exact congrArg (scan csvStep rest) same

/-- Inside quotes nothing but a quote is special. -/
theorem csvStep_inside (ready : r.skips = false) (inside : r.inQuotes = true) {c : Char}
    (plain : c ≠ '"') : csvStep c next r = r.append [c] := by
  simp [csvStep, ready, inside, plain]

theorem csvStep_separator (ready : r.skips = false) (outside : r.inQuotes = false) :
    csvStep ',' next r = r.endCell := by
  simp [csvStep, ready, outside]

theorem csvStep_lineBreak (ready : r.skips = false) (outside : r.inQuotes = false) {c : Char}
    (breaks : csv.isBreak c = true) :
    csvStep c next r = { r.endRow with skips := decide (c = '\r' ∧ next = some '\n') } := by
  have ends : c = '\n' ∨ c = '\r' := of_decide_eq_true breaks
  have plain : c ≠ '"' := by rcases ends with rfl | rfl <;> decide
  have joins : c ≠ ',' := by rcases ends with rfl | rfl <;> decide
  unfold csvStep
  rw [ready, if_neg (by simp), if_neg (by simp [plain]), if_neg plain, if_neg (by simp [joins]),
    if_pos ⟨ends, outside⟩]

theorem csvStep_bare (ready : r.skips = false) {c : Char}
    (bare : (Token.bare c).Proper csv) : csvStep c next r = r.append [c] := by
  obtain ⟨plain, joins, inline⟩ := bare
  have ends : ¬ (c = '\n' ∨ c = '\r') := of_decide_eq_false inline
  have unquoted : c ≠ '"' := plain
  have unjoined : c ≠ ',' := joins
  unfold csvStep
  rw [ready, if_neg (by simp), if_neg (by simp [unquoted]), if_neg unquoted,
    if_neg (by simp [unjoined]), if_neg fun both => ends both.1]

/-- **Inside quotes** the content is read as it is, up to a closing quote. -/
theorem scan_doubled (inside : r.inQuotes = true) (ready : r.skips = false)
    (content : List Char) {rest : List Char} (closed : rest.head? ≠ some '"') :
    scan csvStep (doubled csv content ++ '"' :: rest) r =
      scan csvStep rest { r.append content with inQuotes := false } := by
  induction content generalizing r with
  | nil =>
    show scan csvStep rest (csvStep '"' rest.head? r) = _
    rw [csvStep_close ready inside closed, append_nil]
  | cons c content ih =>
    by_cases quote : c = csv.quote
    · rw [quote, doubled_cons_quote]
      show scan csvStep ('"' :: '"' :: (doubled csv content ++ '"' :: rest)) r = _
      rw [scan_doubled_quote ready inside, @ih (r.append ['"']) inside ready, append_append]
      rfl
    · rw [doubled_cons_of_ne csv quote]
      show scan csvStep (doubled csv content ++ '"' :: rest) (csvStep c _ r) = _
      rw [csvStep_inside ready inside quote, @ih (r.append [c]) inside ready, append_append]
      rfl

/-- A stretch in quotes. -/
theorem scan_quoted (outside : r.inQuotes = false) (ready : r.skips = false) (content : List Char)
    {rest : List Char} (closed : rest.head? ≠ some '"') :
    scan csvStep (('"' :: doubled csv content ++ ['"']) ++ rest) r =
      scan csvStep rest (r.append content) := by
  have read := @scan_doubled { r with inQuotes := true } rfl ready content rest closed
  have same : { r.append content with inQuotes := false } = r.append content := by
    rw [← outside]
    rfl
  show scan csvStep ((doubled csv content ++ ['"']) ++ rest) (csvStep '"' _ r) = _
  rw [csvStep_open ready outside, List.append_assoc]
  exact read.trans (congrArg (scan csvStep rest) same)

/-- Content in quotes that are not closed. -/
theorem scan_doubled_open (inside : r.inQuotes = true) (ready : r.skips = false)
    (content : List Char) : scan csvStep (doubled csv content) r = r.append content := by
  induction content generalizing r with
  | nil => exact (append_nil r).symm
  | cons c content ih =>
    by_cases quote : c = csv.quote
    · rw [quote, doubled_cons_quote]
      show scan csvStep ('"' :: '"' :: doubled csv content) r = _
      rw [scan_doubled_quote ready inside, @ih (r.append ['"']) inside ready, append_append]
      rfl
    · rw [doubled_cons_of_ne csv quote]
      show scan csvStep (doubled csv content) (csvStep c _ r) = _
      rw [csvStep_inside ready inside quote, @ih (r.append [c]) inside ready, append_append]
      rfl

/-- The reader can go on with the tokens: it is outside quotes, and what it skips, if anything, is a
line feed at the beginning of a row. -/
def Ready (r : CsvReader) (tokens : List (Token Char)) : Prop :=
  r.inQuotes = false ∧ (r.skips = true → r.row = [] ∧ r.current = [] ∧
    ∃ rest, tokens = .lineBreak '\n' :: rest)

/-- A blank row changes nothing. -/
theorem endRow_blank (no_cells : r.row = []) (no_text : r.current = []) : r.endRow = r := by
  obtain ⟨rows, current, row, inQuotes, skips⟩ := r
  obtain rfl : row = [] := no_cells
  obtain rfl : current = [] := no_text
  rfl

/-- The text of tokens begins with a line feed only if they do. -/
theorem lineFeed_of_head? {tokens : List (Token Char)} (proper : Proper csv tokens)
    (first : (print csv tokens).head? = some '\n') : ∃ rest, tokens = .lineBreak '\n' :: rest := by
  cases tokens with
  | nil => exact absurd first (by simp [print])
  | cons t rest =>
    have fits := proper.each t (List.mem_cons_self ..)
    rw [print_cons] at first
    cases t with
    | bare c =>
      obtain rfl : c = '\n' := Option.some.inj first
      exact absurd fits.2.2 (by decide)
    | quoted content => exact absurd (Option.some.inj first) (by decide)
    | separator => exact absurd (Option.some.inj first) (by decide)
    | lineBreak c =>
      obtain rfl : c = '\n' := Option.some.inj first
      exact ⟨rest, rfl⟩

/-- What follows a stretch in quotes does not begin with a quote. -/
theorem head?_of_quoted {content : List Char} {tokens : List (Token Char)}
    (proper : Proper csv (.quoted content :: tokens)) : (print csv tokens).head? ≠ some '"' := by
  intro first
  cases tokens with
  | nil => exact absurd first (by simp [print])
  | cons t rest =>
    have fits := proper.each t (by simp)
    rw [print_cons] at first
    cases t with
    | bare c => exact fits.1 (Option.some.inj first)
    | quoted more => exact (List.isChain_cons_cons.mp proper.apart).1 ⟨rfl, rfl⟩
    | separator => exact absurd (Option.some.inj first) (by decide)
    | lineBreak c =>
      obtain rfl : c = '"' := Option.some.inj first
      exact absurd fits (by simp [Token.Proper, csv])

theorem head?_print_append (t : Token Char) (tokens : List (Token Char)) (rest : List Char) :
    (print csv (t :: tokens) ++ rest).head? = (print csv (t :: tokens)).head? := by
  cases t <;> rfl

/-- **The loop reads tokens** one after the other; what follows does not change the last one. -/
theorem scan_print {tokens : List (Token Char)} {rest : List Char} (proper : Proper csv tokens)
    (ready : Ready r tokens) (unjoined : rest.head? ≠ some '\n')
    (closed : ∀ t ∈ tokens.getLast?, t.isQuoted = true → rest.head? ≠ some '"') :
    scan csvStep (print csv tokens ++ rest) r =
      scan csvStep rest (tokens.foldl take { r with skips := false }) := by
  induction tokens generalizing r with
  | nil =>
    obtain ⟨-, skipping⟩ := ready
    cases skips : r.skips with
    | false => exact congrArg (scan csvStep rest) (unskipped skips).symm
    | true =>
      obtain ⟨-, -, more, none_left⟩ := skipping skips
      exact absurd none_left (by simp)
  | cons t tokens ih =>
    have fits := proper.each t (List.mem_cons_self ..)
    have goes : ∀ {u : CsvReader}, Ready u tokens →
        scan csvStep (print csv tokens ++ rest) u =
          scan csvStep rest (tokens.foldl take { u with skips := false }) := by
      intro u ready
      refine ih proper.tail ready fun s last => closed s ?_
      rw [Option.mem_def] at last ⊢
      rw [List.getLast?_cons, last]
      rfl
    have idle : ∀ {u : CsvReader}, u.inQuotes = false → u.skips = false →
        scan csvStep (print csv tokens ++ rest) u = scan csvStep rest (tokens.foldl take u) := by
      intro u outside ready
      rw [goes ⟨outside, fun here => absurd (here.symm.trans ready) (by simp)⟩, unskipped ready]
    obtain ⟨outside, skipping⟩ := ready
    rw [print_cons, List.append_assoc, List.foldl_cons]
    cases skips : r.skips with
    | true =>
      obtain ⟨no_cells, no_text, more, same⟩ := skipping skips
      obtain ⟨rfl, rfl⟩ := List.cons.inj same
      show scan csvStep (print csv tokens ++ rest) (csvStep '\n' _ r) =
        scan csvStep rest (tokens.foldl take (CsvReader.endRow _))
      rw [csvStep_skips skips, endRow_blank (r := { r with skips := false }) no_cells no_text]
      exact idle outside rfl
    | false =>
      rw [unskipped skips]
      cases t with
      | bare c =>
        show scan csvStep (print csv tokens ++ rest) (csvStep c _ r) =
          scan csvStep rest (tokens.foldl take (r.append [c]))
        rw [csvStep_bare skips fits]
        exact idle outside skips
      | separator =>
        show scan csvStep (print csv tokens ++ rest) (csvStep ',' _ r) =
          scan csvStep rest (tokens.foldl take r.endCell)
        rw [csvStep_separator skips outside]
        exact idle outside skips
      | quoted content =>
        have last : (print csv tokens ++ rest).head? ≠ some '"' := by
          cases tokens with
          | nil => exact closed (.quoted content) rfl rfl
          | cons s tokens =>
            rw [head?_print_append]
            exact head?_of_quoted proper
        show scan csvStep (('"' :: doubled csv content ++ ['"']) ++ (print csv tokens ++ rest)) r =
          scan csvStep rest (tokens.foldl take (r.append content))
        rw [scan_quoted outside skips content last]
        exact idle outside skips
      | lineBreak c =>
        have feeds : (print csv tokens ++ rest).head? = some '\n' →
            ∃ more, tokens = .lineBreak '\n' :: more := by
          intro first
          cases tokens with
          | nil => exact absurd first unjoined
          | cons s tokens =>
            rw [head?_print_append] at first
            exact lineFeed_of_head? proper.tail first
        have read := @goes { r.endRow with
            skips := decide (c = '\r' ∧ (print csv tokens ++ rest).head? = some '\n') }
          ⟨outside, fun here => ⟨rfl, rfl, feeds (of_decide_eq_true here).2⟩⟩
        show scan csvStep (print csv tokens ++ rest)
          (csvStep c (print csv tokens ++ rest).head? r) = _
        rw [csvStep_lineBreak skips outside fits, read]
        exact congrArg (fun u => scan csvStep rest (tokens.foldl take u))
          (unskipped (r := r.endRow) skips)

end Reading

/-! ### The table that they spell -/

/-- The cells of a record, trimmed; a record without text is dropped. -/
def record (cells : List (List Char)) : Option (List String) :=
  let row := cells.map fun cell => Text.trim (String.ofList cell)
  if row.any (· != "") then some row else none

/-- The records of a table. -/
def recordsOf (tokens : List (Token Char)) : List (List String) :=
  (tableOf tokens).filterMap record

theorem record_blank : record [[]] = none := by decide

/-- The row begun, and more cells after the text of the current one. -/
def CsvReader.finish (r : CsvReader) (cell : List Char) (cells : List (List Char)) :
    Option (List String) :=
  let row := r.row ++ ((r.current ++ cell) :: cells).map fun cell => Text.trim (String.ofList cell)
  if row.any (· != "") then some row else none

theorem rows_endRow (r : CsvReader) : r.endRow.rows = r.rows ++ (r.finish [] []).toList := by
  unfold CsvReader.endRow CsvReader.finish CsvReader.endCell CsvReader.cell
  rw [List.append_nil, List.map_singleton]
  dsimp only
  split_ifs with kept
  · rfl
  · exact (List.append_nil _).symm

/-- At the beginning of a row. -/
theorem finish_begun {r : CsvReader} (no_cells : r.row = []) (no_text : r.current = [])
    (cell : List Char) (cells : List (List Char)) :
    r.finish cell cells = record (cell :: cells) := by
  unfold CsvReader.finish record
  rw [no_cells, no_text]
  rfl

theorem toList_append_filterMap {α β : Type} (g : α → Option β) (a : α) (as : List α) :
    (g a).toList ++ as.filterMap g = (a :: as).filterMap g := by
  rw [List.filterMap_cons]
  cases g a <;> rfl

/-- **What is left to read of a row** goes to its end. -/
theorem rows_foldl_take (tokens : List (Token Char)) (r : CsvReader) {cell : List Char}
    {cells : List (List Char)} {rows : List (List (List Char))}
    (spelled : tableOf tokens = (cell :: cells) :: rows) :
    (tokens.foldl take r).endRow.rows =
      r.rows ++ (r.finish cell cells).toList ++ rows.filterMap record := by
  induction tokens generalizing r cell cells rows with
  | nil =>
    rw [tableOf_nil] at spelled
    obtain ⟨row, rfl⟩ := List.cons.inj spelled
    obtain ⟨rfl, rfl⟩ := List.cons.inj row
    rw [List.foldl_nil, rows_endRow, List.filterMap_nil, List.append_nil]
  | cons t tokens ih =>
    obtain ⟨first, others, lines, rest⟩ := exists_tableOf tokens
    rw [List.foldl_cons]
    cases t with
    | lineBreak c =>
      rw [tableOf_lineBreak, rest] at spelled
      obtain ⟨row, rfl⟩ := List.cons.inj spelled
      obtain ⟨rfl, rfl⟩ := List.cons.inj row
      rw [show take r (.lineBreak c) = r.endRow from rfl, ih r.endRow rest, rows_endRow,
        List.append_assoc (r.rows ++ _)]
      rw [finish_begun (r := r.endRow) rfl rfl, toList_append_filterMap]
    | separator =>
      rw [tableOf_separator rest] at spelled
      obtain ⟨row, rfl⟩ := List.cons.inj spelled
      obtain ⟨rfl, rfl⟩ := List.cons.inj row
      rw [show take r .separator = r.endCell from rfl, ih r.endCell rest]
      simp [CsvReader.finish, CsvReader.endCell, CsvReader.cell]
    | bare c =>
      rw [tableOf_content rfl rfl rest] at spelled
      obtain ⟨row, rfl⟩ := List.cons.inj spelled
      obtain ⟨rfl, rfl⟩ := List.cons.inj row
      rw [show take r (.bare c) = r.append [c] from rfl, ih (r.append [c]) rest]
      simp [CsvReader.finish, CsvReader.append, Token.content]
    | quoted content =>
      rw [tableOf_content rfl rfl rest] at spelled
      obtain ⟨row, rfl⟩ := List.cons.inj spelled
      obtain ⟨rfl, rfl⟩ := List.cons.inj row
      rw [show take r (.quoted content) = r.append content from rfl, ih (r.append content) rest]
      simp [CsvReader.finish, CsvReader.append, Token.content]

theorem rows_read (tokens : List (Token Char)) :
    (tokens.foldl take CsvReader.start).endRow.rows = recordsOf tokens := by
  obtain ⟨cell, cells, rows, spelled⟩ := exists_tableOf tokens
  rw [rows_foldl_take tokens _ spelled, recordsOf, spelled, finish_begun rfl rfl, List.append_assoc,
    toList_append_filterMap]
  exact List.nil_append _

/-- The reader is at the beginning of a text. -/
theorem ready_start (tokens : List (Token Char)) : Ready CsvReader.start tokens :=
  ⟨rfl, fun here => absurd here (by decide)⟩

/-- **The records of a text** are those that its tokens spell. -/
theorem csvRecords_print {text : String} {tokens : List (Token Char)}
    (proper : Proper csv tokens) (printed : text.toList = print csv tokens) :
    csvRecords text = recordsOf tokens := by
  have read := @scan_print CsvReader.start tokens [] proper (ready_start tokens) (by simp) (by simp)
  rw [List.append_nil] at read
  unfold csvRecords
  rw [printed, read]
  exact rows_read tokens

/-- Tokens leave the reader outside quotes. -/
theorem inQuotes_foldl_take (tokens : List (Token Char)) (r : CsvReader) :
    (tokens.foldl take r).inQuotes = r.inQuotes ∧ (tokens.foldl take r).skips = r.skips := by
  induction tokens generalizing r with
  | nil => exact ⟨rfl, rfl⟩
  | cons t tokens ih =>
    rw [List.foldl_cons]
    obtain ⟨quotes, skips⟩ := ih (take r t)
    rw [quotes, skips]
    cases t <;> exact ⟨rfl, rfl⟩

/-- **A quote that is not closed** takes the rest of the text into its cell. -/
theorem csvRecords_printOpen {text : String} {tokens : List (Token Char)} {content : List Char}
    (proper : Proper csv (tokens ++ [.quoted content]))
    (printed : text.toList = printOpen csv tokens content) :
    csvRecords text = recordsOf (tokens ++ [.quoted content]) := by
  have apart : ∀ t ∈ tokens.getLast?, t.isQuoted = true →
      ('"' :: doubled csv content).head? ≠ some '"' := by
    intro t last quoted
    exact absurd ⟨quoted, rfl⟩
      ((List.isChain_append.mp proper.apart).2.2 t last (.quoted content) rfl)
  obtain ⟨outside, ready⟩ := inQuotes_foldl_take tokens CsvReader.start
  have opened := @scan_doubled_open { tokens.foldl take CsvReader.start with inQuotes := true }
    rfl ready content
  unfold csvRecords
  rw [printed]
  show (scan csvStep (print csv tokens ++ '"' :: doubled csv content) _).endRow.rows = _
  rw [scan_print proper.init (ready_start tokens) (by simp) apart, scan_cons]
  show (scan csvStep _ (csvStep '"' _ (tokens.foldl take CsvReader.start))).endRow.rows = _
  rw [csvStep_open ready outside, opened, ← rows_read, List.foldl_append]
  rfl

/-! ### The standard encoding -/

/-- How a row of an encoding ends. -/
inductive LineEnd where
  | lf
  | cr
  | crlf
  deriving DecidableEq, Repr

def LineEnd.text : LineEnd → List Char
  | .lf => ['\n']
  | .cr => ['\r']
  | .crlf => ['\r', '\n']

/-- Every cell in double quotes with inner quotes doubled, cells joined by commas, rows joined by
line ends, with or without a final one. -/
def encode (ends : ℕ → LineEnd) (final : Option LineEnd) (table : List (List String)) : String :=
  String.ofList (encodeTable csv (fun i => (ends i).text) (final.elim [] LineEnd.text)
    (table.map fun row => row.map String.toList))

theorem isBreak_lineEnd (lineEnd : LineEnd) : ∀ c ∈ lineEnd.text, csv.isBreak c = true := by
  cases lineEnd <;> simp [LineEnd.text, csv]

theorem lineEnd_ne_nil (lineEnd : LineEnd) : lineEnd.text ≠ [] := by
  cases lineEnd <;> decide

/-- A trimmed row with text in it is the record of its cells. -/
theorem record_of_trimmed {row : List String} (trimmed : ∀ cell ∈ row, Text.Trimmed cell)
    (written : ∃ cell ∈ row, cell ≠ "") : record (row.map String.toList) = some row := by
  have same : (row.map String.toList).map (fun cell => Text.trim (String.ofList cell)) = row := by
    rw [List.map_map]
    conv_rhs => rw [← List.map_id row]
    refine List.map_congr_left fun cell inside => ?_
    show Text.trim (String.ofList cell.toList) = cell
    rw [String.ofList_toList, Text.trim_of_trimmed (trimmed cell inside)]
  have kept : row.any (· != "") = true := by
    obtain ⟨cell, inside, some_text⟩ := written
    exact List.any_eq_true.mpr ⟨cell, inside, by simpa using some_text⟩
  unfold record
  rw [same]
  exact if_pos kept

/-- **The standard encoding is read back**: whatever the cells contain, and however the rows end. -/
theorem csvRecords_encode (table : List (List String)) (ends : ℕ → LineEnd)
    (final : Option LineEnd) (trimmed : ∀ row ∈ table, ∀ cell ∈ row, Text.Trimmed cell)
    (written : ∀ row ∈ table, ∃ cell ∈ row, cell ≠ "") :
    csvRecords (encode ends final table) = table := by
  have separate : ∀ i, (ends i).text ≠ [] := fun i => lineEnd_ne_nil (ends i)
  have final_breaks : ∀ c ∈ final.elim [] LineEnd.text, csv.isBreak c = true := by
    cases final with
    | none => exact fun c inside => absurd inside (by simp)
    | some lineEnd => exact isBreak_lineEnd lineEnd
  have proper := proper_tableTokens separate (fun i => isBreak_lineEnd (ends i)) final_breaks
    (table.map fun row => row.map String.toList)
  have printed : (encode ends final table).toList = print csv (tableTokens
      (fun i => (ends i).text) (final.elim [] LineEnd.text)
      (table.map fun row => row.map String.toList)) := by
    rw [print_tableTokens]
    exact String.toList_ofList
  have cells : ∀ row ∈ table.map fun row => row.map String.toList, row ≠ [] := by
    intro row inside
    obtain ⟨texts, member, rfl⟩ := List.mem_map.mp inside
    obtain ⟨cell, here, -⟩ := written texts member
    exact fun empty => absurd here (by rw [List.map_eq_nil_iff.mp empty]; simp)
  rw [csvRecords_print proper printed, recordsOf,
    filterMap_tableTokens record_blank separate _ cells, List.filterMap_map]
  conv_rhs => rw [← List.filterMap_some (l := table)]
  exact List.filterMap_congr fun row inside =>
    record_of_trimmed (trimmed row inside) (written row inside)

/-- A comma, quotes and a line break in a cell. -/
theorem csvRecords_encode_note :
    csvRecords (encode (fun i => if i = 0 then .crlf else .cr) (some .lf)
        [["name", "note"], ["Ada Obi", "said \"no\", then\nleft"], ["Ben Eze", ""]]) =
      [["name", "note"], ["Ada Obi", "said \"no\", then\nleft"], ["Ben Eze", ""]] :=
  csvRecords_encode _ _ _ (by decide) (by decide)

/-! ### The upload -/

/-- `headerMap` -/
def headerMap : List (String × String) :=
  [("fullname", "fullName"), ("full_name", "fullName"), ("name", "fullName"),
    ("studentname", "fullName"), ("student_name", "fullName"), ("learnername", "fullName"),
    ("learner_name", "fullName"), ("dateofbirth", "dateOfBirth"), ("date_of_birth", "dateOfBirth"),
    ("dob", "dateOfBirth"), ("birthdate", "dateOfBirth"), ("birth_date", "dateOfBirth"),
    ("studentnumber", "studentNumber"), ("student_number", "studentNumber"),
    ("admissionnumber", "studentNumber"), ("admission_number", "studentNumber"),
    ("admissionno", "studentNumber"), ("admission_no", "studentNumber"),
    ("schoolid", "studentNumber"), ("school_id", "studentNumber"), ("learnerid", "studentNumber"),
    ("learner_id", "studentNumber"), ("level", "level"), ("class", "level"),
    ("gradelevel", "level"), ("grade_level", "level"), ("programme", "programme"),
    ("program", "programme"), ("department", "programme"), ("track", "programme"),
    ("phone", "phone"), ("phonenumber", "phone"), ("phone_number", "phone"), ("mobile", "phone")]

/-- Every run of other characters as one underscore. -/
def underscored : List Char → List Char
  | [] => []
  | c :: cs =>
    if Text.isAlphanumeric c then c :: underscored cs
    else
      match underscored cs with
      | '_' :: rest => '_' :: rest
      | rest => '_' :: rest

def normaliseHeader (rt : Runtime) (value : String) : String :=
  let trimmed := (Text.trim value).toList
  let unmarked := if trimmed.head? = some '\uFEFF' then trimmed.drop 1 else trimmed
  let inner := (underscored unmarked).dropWhile (· == '_')
  rt.toLowerCase (String.ofList (inner.reverse.dropWhile (· == '_')).reverse)

/-- The columns of a record that the map has names for, under the later of two headers with one
name. -/
def mapRecord (headers record : List String) : Json :=
  .obj (headers.zipIdx.foldl (fun row header =>
    match headerMap.lookup header.1 with
    | some target => RateLimit.setField row target (.str (Text.trim (record.getD header.2 "")))
    | none => row) [])

/-- A text, or the bytes of a file. -/
inductive UploadContent where
  | text (content : String)
  | buffer (bytes : List ℕ)

/-- A cell of a sheet. -/
inductive SheetCell where
  | empty
  | text (content : String)
  | number (value : ℚ)
  | boolean (value : Bool)
  | date (time : Time)
  deriving DecidableEq

/-- What the parser uses of the runtime, the file system, the network and the object storage. -/
structure UploadRuntime where
  /-- `Buffer.from(text, "base64")`, and `Buffer.from(text)` -/
  fromBase64 : String → List ℕ
  fromText : String → List ℕ
  /-- `toString("utf8")` -/
  toText : List ℕ → String
  fileURLToPath : String → Except ServiceError String
  /-- The bytes of a file, if it is there. -/
  readFile : String → Option (Except ServiceError (List ℕ))
  /-- The object storage, in a runtime that has one. -/
  readObject : Option (String → Except ServiceError (List ℕ))
  /-- The status and the body of a response. -/
  fetch : String → Except ServiceError (ℕ × List ℕ)
  /-- The sheet of a workbook. -/
  readSheet : List ℕ → Except ServiceError (List (List SheetCell))
  /-- `String(date)` -/
  dateText : Time → String
  /-- `JSON.stringify(error.flatten())` -/
  flattened : List Issue → String

inductive UploadFormat where
  | inlineRows
  | csv
  | xlsx
  deriving DecidableEq, Repr

structure ParsedBulkUpload where
  input : IngestStudentRegisterInput
  format : UploadFormat
  fileName : Option String
  rowCount : ℕ

def stringField (request : Json) (field : String) : Option String :=
  asString (request.get? field)

/-- `String(value ?? "")` -/
def cellText (rt : Runtime) (dateText : Time → String) : SheetCell → String
  | .empty => ""
  | .text content => content
  | .number value => String.ofList (rt.format.text value)
  | .boolean value => if value then "true" else "false"
  | .date time => dateText time

def normaliseCell (rt : Runtime) (up : UploadRuntime) (value : SheetCell) : String :=
  Text.trim (cellText rt up.dateText value)

def pathFromStorageUrl (up : UploadRuntime) (storageUrl : Option String) :
    Except ServiceError (Option String) :=
  match storageUrl.filter fun url => "file://".toList.isPrefixOf url.toList with
  | some url => some <$> up.fileURLToPath url
  | none => return none

def readUploadContent (up : UploadRuntime) (request : Json) :
    Except ServiceError (Option UploadContent) := do
  if let some csvText := stringField request "csvText" then
    return some (.text csvText)
  if let some contentBase64 := stringField request "contentBase64" then
    return some (.buffer (up.fromBase64 contentBase64))
  let storageUrl := stringField request "storageUrl"
  let begins := fun (start : String) => storageUrl.filter fun url =>
    start.toList.isPrefixOf url.toList
  let filePath ← match stringField request "filePath" with
    | some filePath => pure (some filePath)
    | none => pathFromStorageUrl up storageUrl
  match filePath with
  | some filePath =>
    let read ← orThrow (up.readFile filePath)
      (.nonRetryable "Bulk upload file path does not exist.")
    let bytes ← read
    return some (.buffer bytes)
  | none =>
    if let some url := begins "storage://" then
      let readObject ← orThrow up.readObject
        (.badRequest "Object storage download is not available in this runtime.")
      let bytes ← readObject url
      return some (.buffer bytes)
    if let some url := begins "http://" <|> begins "https://" then
      let (status, bytes) ← up.fetch url
      require (200 ≤ status ∧ status < 300)
        (.badRequest ("Could not fetch upload file: " ++ toString status))
      return some (.buffer bytes)
    return none

def detectFormat (rt : Runtime) (request : Json) (fileName : Option String) : UploadFormat :=
  let explicit := (stringField request "format").map rt.toLowerCase
  let name := ((fileName <|> stringField request "storageUrl").map rt.toLowerCase).getD ""
  let ends := fun (suffix : String) => suffix.toList.isSuffixOf name.toList
  if explicit = some "xlsx" ∨ explicit = some "xls" ∨ ends ".xlsx" = true ∨ ends ".xls" = true then
    .xlsx
  else .csv

/-- The student rows that the records of an upload carry. -/
def parseRecords (rt : Runtime) (refusal : String) (records : List (List String)) :
    Except ServiceError (List Json) := do
  require (2 ≤ records.length) (.nonRetryable refusal)
  let headers := (records.headD []).map (normaliseHeader rt)
  return ((records.drop 1).filter fun record => record.any fun cell => Text.trim cell != "").map
    (mapRecord headers)

def parseCsv (rt : Runtime) (text : String) : Except ServiceError (List Json) :=
  parseRecords rt "CSV upload must include a header row and at least one student row."
    (csvRecords text)

def parseXlsx (rt : Runtime) (up : UploadRuntime) (content : UploadContent) :
    Except ServiceError (List Json) := do
  let sheet ← up.readSheet (match content with
    | .buffer bytes => bytes
    | .text text => up.fromText text)
  parseRecords rt "XLSX upload must include a header row and at least one student row."
    (sheet.map fun record => record.map (normaliseCell rt up))

/-- The body that the rows of an upload make. -/
def registerBody (request : Json) (institutionId : String) (rows : List Json) : Json :=
  Json.fields
    [("institutionId", some (.str institutionId)),
      ("entryDate", (stringField request "entryDate").map .str), ("rows", some (.arr rows))]

/-- `validate` -/
def validate (rt : Runtime) (up : UploadRuntime) (body : Json) :
    Except ServiceError IngestStudentRegisterInput :=
  match ingestStudentRegisterSchema rt (some body) with
  | .valid input => .ok input
  | .issues found => .error (.nonRetryable
      ("Bulk student upload validation failed: " ++ up.flattened found))

def UploadContent.toText (up : UploadRuntime) : UploadContent → String
  | .text content => content
  | .buffer bytes => up.toText bytes

def parseContent (rt : Runtime) (up : UploadRuntime) (format : UploadFormat)
    (content : UploadContent) : Except ServiceError (List Json) :=
  if format = .xlsx then parseXlsx rt up content else parseCsv rt (content.toText up)

/-- Rows that the request itself carries. -/
def inlineRows (request : Json) : Option (List Json) :=
  match request.get? "rows" with
  | some (.arr (row :: rows)) => some (row :: rows)
  | _ => none

def parseStudentUpload (rt : Runtime) (up : UploadRuntime) (request : Json) :
    Except ServiceError ParsedBulkUpload := do
  let institutionId ← orThrow (stringField request "institutionId")
    (.nonRetryable "Bulk upload file is missing institutionId.")
  let fileName := stringField request "fileName"
  if let some rows := inlineRows request then
    let input ← validate rt up (registerBody request institutionId rows)
    return ⟨input, .inlineRows, fileName, rows.length⟩
  let read ← readUploadContent up request
  let content ← orThrow read (.nonRetryable
    "Bulk upload needs rows, csvText, contentBase64, filePath, or a readable storageUrl.")
  let format := detectFormat rt request fileName
  let rows ← parseContent rt up format content
  let input ← validate rt up (registerBody request institutionId rows)
  return ⟨input, format, fileName, rows.length⟩

/-! ### Quotes that are not balanced -/

/-- The upload is a CSV text: it has no rows of its own, and its content is not a workbook. -/
def CarriesCsv (rt : Runtime) (up : UploadRuntime) (request : Json) (text : String) : Prop :=
  inlineRows request = none ∧
    detectFormat rt request (stringField request "fileName") = .csv ∧
    ∃ content, readUploadContent up request = .ok (some content) ∧ content.toText up = text

/-- A text in the request itself. -/
theorem carries_csvText {rt : Runtime} {up : UploadRuntime} {request : Json} {text : String}
    (no_rows : inlineRows request = none)
    (format : detectFormat rt request (stringField request "fileName") = .csv)
    (given : stringField request "csvText" = some text) : CarriesCsv rt up request text := by
  refine ⟨no_rows, format, .text text, ?_, rfl⟩
  unfold readUploadContent
  rw [given]
  rfl

/-- The students of a table under its header. -/
def studentsOf (rt : Runtime) (records : List (List String)) : List Json :=
  (records.drop 1).map (mapRecord ((records.headD []).map (normaliseHeader rt)))

/-- The table has a header and students, and with the request's fields they meet the schema of a
student register. -/
def FitsRegister (rt : Runtime) (request : Json) (records : List (List String)) : Prop :=
  2 ≤ records.length ∧ ∃ institutionId input,
    stringField request "institutionId" = some institutionId ∧
    ingestStudentRegisterSchema rt
      (some (registerBody request institutionId (studentsOf rt records))) = .valid input

/-- The text ends in a stretch in quotes that is not closed, and the table that it spells, with all
of the stretch in one cell, fits a student register. -/
def Swallows (rt : Runtime) (request : Json) (text : String) : Prop :=
  ∃ tokens content, Proper csv (tokens ++ [.quoted content]) ∧
    text.toList = printOpen csv tokens content ∧
    FitsRegister rt request (recordsOf (tokens ++ [.quoted content]))

/-- The records of tokens have text in them, so that none of them is filtered out. -/
theorem filter_recordsOf (tokens : List (Token Char)) (n : ℕ) :
    ((recordsOf tokens).drop n).filter (fun record => record.any fun cell => Text.trim cell != "") =
      (recordsOf tokens).drop n := by
  refine List.filter_eq_self.mpr fun row inside => ?_
  obtain ⟨cells, -, read⟩ := List.mem_filterMap.mp (List.mem_of_mem_drop inside)
  unfold record at read
  dsimp only at read
  split_ifs at read with written
  · obtain rfl := Option.some.inj read
    obtain ⟨text, member, some_text⟩ := List.any_eq_true.mp written
    obtain ⟨cell, -, rfl⟩ := List.mem_map.mp member
    exact List.any_eq_true.mpr ⟨_, member, by rw [Text.trim_trim]; exact some_text⟩

theorem validate_eq_ok {rt : Runtime} {up : UploadRuntime} {body : Json}
    {input : IngestStudentRegisterInput} :
    validate rt up body = .ok input ↔
      ingestStudentRegisterSchema rt (some body) = .valid input := by
  unfold validate
  cases ingestStudentRegisterSchema rt (some body) <;> simp

/-- **What the parser makes of the records of tokens.** -/
theorem parseRecords_eq_ok {rt : Runtime} {refusal : String} {tokens : List (Token Char)}
    {rows : List Json} :
    parseRecords rt refusal (recordsOf tokens) = .ok rows ↔
      2 ≤ (recordsOf tokens).length ∧ rows = studentsOf rt (recordsOf tokens) := by
  unfold parseRecords
  rw [filter_recordsOf, bind_eq_ok]
  constructor
  · rintro ⟨_, enough, same⟩
    exact ⟨of_decide_eq_true (require_eq_ok.mp enough), (pure_eq_ok.mp same).symm⟩
  · intro both
    exact ⟨(), require_eq_ok.mpr (decide_eq_true both.1), pure_eq_ok.mpr both.2.symm⟩

/-- The parser on a CSV text. -/
theorem parseStudentUpload_csv {rt : Runtime} {up : UploadRuntime} {request : Json} {text : String}
    (carries : CarriesCsv rt up request text) :
    parseStudentUpload rt up request = (do
      let institutionId ← orThrow (stringField request "institutionId")
        (.nonRetryable "Bulk upload file is missing institutionId.")
      let rows ← parseCsv rt text
      let input ← validate rt up (registerBody request institutionId rows)
      return ⟨input, .csv, stringField request "fileName", rows.length⟩) := by
  obtain ⟨no_rows, format, content, has, same⟩ := carries
  have parsed : parseContent rt up .csv content = parseCsv rt text := by
    rw [← same]
    rfl
  unfold parseStudentUpload
  dsimp only
  rw [no_rows, has, format]
  dsimp only
  rw [← parsed]
  rfl

/-- **An upload of a CSV text** is accepted exactly when its records fit a register. -/
theorem parse_accepts_iff {rt : Runtime} {up : UploadRuntime} {request : Json} {text : String}
    (carries : CarriesCsv rt up request text) {tokens : List (Token Char)}
    (read : csvRecords text = recordsOf tokens) :
    (∃ parsed, parseStudentUpload rt up request = .ok parsed) ↔
      FitsRegister rt request (recordsOf tokens) := by
  rw [parseStudentUpload_csv carries]
  constructor
  · rintro ⟨parsed, accepted⟩
    obtain ⟨institutionId, named, rest⟩ := bind_eq_ok.mp accepted
    obtain ⟨rows, listed, rest⟩ := bind_eq_ok.mp rest
    obtain ⟨input, valid, -⟩ := bind_eq_ok.mp rest
    rw [parseCsv, read] at listed
    obtain ⟨enough, rfl⟩ := parseRecords_eq_ok.mp listed
    exact ⟨enough, institutionId, input, orThrow_eq_ok.mp named, validate_eq_ok.mp valid⟩
  · rintro ⟨enough, institutionId, input, named, valid⟩
    refine ⟨⟨input, .csv, stringField request "fileName",
      (studentsOf rt (recordsOf tokens)).length⟩, ?_⟩
    refine bind_eq_ok.mpr ⟨institutionId, orThrow_eq_ok.mpr named, ?_⟩
    refine bind_eq_ok.mpr ⟨studentsOf rt (recordsOf tokens), ?_, ?_⟩
    · rw [parseCsv, read]
      exact parseRecords_eq_ok.mpr ⟨enough, rfl⟩
    · exact bind_eq_ok.mpr ⟨input, validate_eq_ok.mpr valid, rfl⟩

/-- **Exactly when an upload whose quotes are not balanced is rejected**: unless the students fit a
register once everything after the last open quote is the content of one cell. -/
theorem parse_rejects_iff (rt : Runtime) (up : UploadRuntime) (request : Json) (text : String)
    (carries : CarriesCsv rt up request text)
    (unbalanced : Odd (text.toList.count '"')) :
    (∃ e, parseStudentUpload rt up request = .error e) ↔ ¬ Swallows rt request text := by
  have accepts : (∃ parsed, parseStudentUpload rt up request = .ok parsed) ↔
      Swallows rt request text := by
    constructor
    · intro accepted
      obtain ⟨tokens, content, proper, printed⟩ := exists_tokens_of_odd (d := csv) unbalanced
      have read := csvRecords_printOpen proper printed
      exact ⟨tokens, content, proper, printed, (parse_accepts_iff carries read).mp accepted⟩
    · rintro ⟨tokens, content, proper, printed, fits⟩
      exact (parse_accepts_iff carries (csvRecords_printOpen proper printed)).mpr fits
  rw [← accepts]
  cases parseStudentUpload rt up request with
  | ok parsed => simp
  | error e => simp

/-! ### A line that is swallowed -/

/-- No upload of these runs needs anything of it. -/
def UploadRuntime.plain : UploadRuntime where
  fromBase64 _ := []
  fromText _ := []
  toText _ := ""
  fileURLToPath _ := .error .rangeError
  readFile _ := none
  readObject := none
  fetch _ := .error .rangeError
  readSheet _ := .error .rangeError
  dateText _ := ""
  flattened _ := ""

/-- Two students; a quote in the last column of the first is not closed. -/
def openQuote : String :=
  "name,dob,student_number,level,programme,phone\n" ++
    "Ada Obi,2010-01-01,S1,JSS1,Science,\"\n" ++
    "Ben Eze,2010-02-02,S2,JSS1,Science,080"

/-- The quote opens the name. -/
def openName : String :=
  "name,dob,student_number,level,programme,phone\n" ++ "\"Ada Obi,2010-01-01,S1,JSS1,Science,080"

def csvRequest (text : String) : Json :=
  .obj [("institutionId", .str "ACD-0001"), ("csvText", .str text)]

/-- **A text in the request** is the CSV that it carries. -/
theorem carries_csvRequest (rt : Runtime) (up : UploadRuntime) {text : String}
    (trimmed : Text.Trimmed text) (written : text ≠ "") :
    CarriesCsv rt up (csvRequest text) text := by
  have unnamed : ∀ key, key ≠ "institutionId" → key ≠ "csvText" →
      stringField (csvRequest text) key = none := by
    intro key other another
    simp [stringField, csvRequest, Json.get?, Ne.symm other, Ne.symm another, asString]
  refine carries_csvText (by simp [inlineRows, csvRequest, Json.get?]) ?_ ?_
  · unfold detectFormat
    rw [unnamed "format" (by decide) (by decide), unnamed "fileName" (by decide) (by decide),
      unnamed "storageUrl" (by decide) (by decide)]
    rfl
  · have field : (csvRequest text).get? "csvText" = some (.str text) := by
      simp [csvRequest, Json.get?]
    unfold stringField
    rw [field]
    show (if Text.isBlank text then none else some (Text.trim text)) = _
    unfold Text.isBlank
    rw [Text.trim_of_trimmed trimmed, if_neg (by simpa using written)]

/-- The first text as the parser reads it. -/
theorem openQuote_read : Text.Trimmed openQuote ∧ Odd (openQuote.toList.count '"') ∧
    csvRecords openQuote =
      [["name", "dob", "student_number", "level", "programme", "phone"],
        ["Ada Obi", "2010-01-01", "S1", "JSS1", "Science",
          "Ben Eze,2010-02-02,S2,JSS1,Science,080"]] := by
  unfold csvRecords openQuote
  rw [String.toList_append, String.toList_append, String.toList_ofList, String.toList_ofList,
    String.toList_ofList]
  refine ⟨Text.trimmed_of_chars (by rw [String.toList_append, String.toList_append,
    String.toList_ofList, String.toList_ofList, String.toList_ofList]) ?_, ?_, ?_⟩
  · decide
  · decide
  · decide +kernel

/-- The second text as the parser reads it. -/
theorem openName_read : Text.Trimmed openName ∧ Odd (openName.toList.count '"') ∧
    csvRecords openName =
      [["name", "dob", "student_number", "level", "programme", "phone"],
        ["Ada Obi,2010-01-01,S1,JSS1,Science,080"]] := by
  unfold csvRecords openName
  rw [String.toList_append, String.toList_ofList, String.toList_ofList]
  refine ⟨Text.trimmed_of_chars (by rw [String.toList_append, String.toList_ofList,
    String.toList_ofList]) ?_, ?_, ?_⟩
  · decide
  · decide
  · decide +kernel

/-- A text with a quote that is not closed is not empty. -/
theorem carries_of_odd {text : String} (trimmed : Text.Trimmed text)
    (odd : Odd (text.toList.count '"')) :
    CarriesCsv .plain .plain (csvRequest text) text := by
  refine carries_csvRequest _ _ trimmed fun empty => ?_
  rw [empty] at odd
  simp at odd

theorem carries_openQuote : CarriesCsv .plain .plain (csvRequest openQuote) openQuote :=
  carries_of_odd openQuote_read.1 openQuote_read.2.1

theorem carries_openName : CarriesCsv .plain .plain (csvRequest openName) openName :=
  carries_of_odd openName_read.1 openName_read.2.1

theorem parsed_openQuote :
    (parseStudentUpload .plain .plain (csvRequest openQuote)).toOption.any
      (fun parsed => parsed.input.rows.map (·.studentNumber) == ["S1"]) = true := by
  rw [parseStudentUpload_csv carries_openQuote, parseCsv, openQuote_read.2.2]
  decide

theorem refused_openName :
    (parseStudentUpload .plain .plain (csvRequest openName)).toOption.isNone = true := by
  rw [parseStudentUpload_csv carries_openName, parseCsv, openName_read.2.2]
  decide

/-- A quote that opens the name takes the other columns with it, and the upload is rejected. -/
theorem parse_rejects_iff_name :
    ((∃ e, parseStudentUpload .plain .plain (csvRequest openName) = .error e) ↔
        ¬ Swallows .plain (csvRequest openName) openName) ∧
      ¬ Swallows .plain (csvRequest openName) openName := by
  have exactly := parse_rejects_iff .plain .plain (csvRequest openName) openName carries_openName
    openName_read.2.1
  refine ⟨exactly, exactly.mp ?_⟩
  have refused := refused_openName
  cases ended : parseStudentUpload .plain .plain (csvRequest openName) with
  | error e => exact ⟨e, rfl⟩
  | ok parsed =>
    rw [ended] at refused
    exact absurd refused (by simp [Except.toOption])

/-- **Not every upload whose quotes are not balanced is rejected**: the second student is swallowed
by the telephone number of the first. -/
theorem parse_fails :
    ¬ ∀ (rt : Runtime) (up : UploadRuntime) (request : Json) (text : String),
      CarriesCsv rt up request text → Odd (text.toList.count '"') →
        ∃ e, parseStudentUpload rt up request = .error e := by
  intro all
  obtain ⟨e, rejected⟩ := all .plain .plain (csvRequest openQuote) openQuote carries_openQuote
    openQuote_read.2.1
  have parsed := parsed_openQuote
  rw [rejected] at parsed
  exact absurd parsed (by simp [Except.toOption])

end BulkUpload

end AcadID
