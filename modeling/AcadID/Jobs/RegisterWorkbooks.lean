/-
**A student sheet as a workbook, and its CSV export.**

A workbook keeps its blank rows and the dates of its cells; an export has the dates as `YYYY-MM-DD`,
and the reader of CSV drops rows that are blank.

* `Exports` — a CSV text with the rows of a sheet; `csvRecords_of_exports` — what is read of it.
* `acceptedRows_sheet` and `acceptedRows_export` — under a header both read the rows that are not
  blank; a workbook whose first row is blank is rejected.
* `shown_cases` — a field shows the same text in both, unless it is read from a date.
* `workbook_iff` — **a workbook and its export** give the same student rows exactly when the first
  row is not blank and no field is read from a date, or the export does not fit a register.
* `workbook_fails` — a student with a date of birth.
-/

import AcadID.Jobs.RegisterColumns

namespace AcadID.RegisterWorkbooks

open Lib BulkUpload Students JobWorker RegisterColumns

/-! ### Dates as texts -/

/-- `YYYY-MM-DD` -/
def IsDay (text : String) : Prop :=
  Text.matchesClasses
    (Text.repeatClass 4 Char.isDigit ++ [(· == '-')] ++ Text.repeatClass 2 Char.isDigit ++
      [(· == '-')] ++ Text.repeatClass 2 Char.isDigit) text.toList = true

instance : DecidablePred IsDay := fun _ => instDecidableEqBool _ _

/-- What is documented of dates: `String(date)` begins with the name of a weekday, has digits in it
and no space around it, and the schema library takes days for dates only. -/
structure PrintsDates (rt : Runtime) (up : UploadRuntime) : Prop where
  weekday : ∀ time, ∃ c ∈ (up.dateText time).toList.head?, 'A' ≤ c ∧ c ≤ 'Z'
  digit : ∀ time, ∃ c ∈ (up.dateText time).toList, c.isDigit = true
  trimmed : ∀ time, Text.Trimmed (up.dateText time)
  isDay : ∀ text, rt.isDate text = true → IsDay text

/-- The characters of a day: ten, of which the first and the last are digits. -/
theorem IsDay.spec {text : String} (day : IsDay text) :
    ∃ first rest last, text.toList = first :: rest ++ [last] ∧ first.isDigit = true ∧
      last.isDigit = true ∧ rest.length = 8 := by
  cases chars : text.toList with
  | nil =>
    unfold IsDay at day
    rw [chars] at day
    exact absurd day (by decide)
  | cons first cs =>
    unfold IsDay at day
    rw [chars] at day
    obtain ⟨digit, rest⟩ := Bool.and_eq_true_iff.mp day
    obtain ⟨start, last, rfl, ends, long⟩ := @Text.exists_last_of_matchesClasses
      (Text.repeatClass 3 Char.isDigit ++ [(· == '-')] ++ Text.repeatClass 2 Char.isDigit ++
        [(· == '-')] ++ [Char.isDigit]) Char.isDigit cs rest
    exact ⟨first, start, last, rfl, digit, ends, long⟩

theorem IsDay.trimmed {text : String} (day : IsDay text) : Text.Trimmed text := by
  obtain ⟨first, rest, last, is, begins, ends, -⟩ := day.spec
  unfold Text.Trimmed
  rw [is]
  constructor
  · intro c here
    obtain rfl := Option.some.inj here
    exact Text.isSpace_of_isDigit begins
  · intro c here
    rw [List.getLast?_concat] at here
    obtain rfl := Option.some.inj here
    exact Text.isSpace_of_isDigit ends

theorem IsDay.minLength {text : String} (day : IsDay text) {n : ℕ} (few : n ≤ 10) :
    Schema.minLength n text = none := by
  obtain ⟨first, rest, last, is, -, -, long⟩ := day.spec
  have units := Text.length_le_utf16Length text
  rw [is] at units
  simp only [List.cons_append, List.length_cons, List.length_append, List.length_nil, long] at units
  unfold Schema.minLength
  rw [if_neg (by omega)]

/-! ### Headers with digits -/

theorem mem_underscored {c : Char} (kept : Text.isAlphanumeric c = true) {cs : List Char}
    (inside : c ∈ cs) : c ∈ underscored cs := by
  induction cs with
  | nil => exact absurd inside List.not_mem_nil
  | cons d cs ih =>
    unfold underscored
    by_cases here : Text.isAlphanumeric d = true
    · rw [if_pos here]
      rcases List.mem_cons.mp inside with rfl | later
      · exact List.mem_cons_self ..
      · exact List.mem_cons_of_mem _ (ih later)
    · rw [if_neg here]
      have later : c ∈ underscored cs := by
        rcases List.mem_cons.mp inside with rfl | later
        · exact absurd kept here
        · exact ih later
      split
      · rename_i rest is
        rwa [is] at later
      · exact List.mem_cons_of_mem _ later

theorem toNat_lt_of_isAlphanumeric {c : Char} (is : Text.isAlphanumeric c = true) :
    c.toNat < 128 := by
  unfold Text.isAlphanumeric at is
  rw [Bool.or_eq_true, Bool.or_eq_true] at is
  rcases is with (digit | lower) | upper
  · have high : c.toNat ≤ 57 := of_decide_eq_true (Bool.and_eq_true_iff.mp digit).2
    omega
  · have high : c.toNat ≤ 122 := of_decide_eq_true (Bool.and_eq_true_iff.mp lower).2
    omega
  · have high : c.toNat ≤ 90 := of_decide_eq_true (Bool.and_eq_true_iff.mp upper).2
    omega

theorem ascii_underscored {c : Char} {cs : List Char} (inside : c ∈ underscored cs) :
    c.toNat < 128 := by
  induction cs with
  | nil => exact absurd inside List.not_mem_nil
  | cons d cs ih =>
    unfold underscored at inside
    by_cases here : Text.isAlphanumeric d = true
    · rw [if_pos here] at inside
      rcases List.mem_cons.mp inside with rfl | later
      · exact toNat_lt_of_isAlphanumeric here
      · exact ih later
    · rw [if_neg here] at inside
      split at inside
      · rename_i rest is
        rw [is] at ih
        exact ih inside
      · rcases List.mem_cons.mp inside with rfl | later
        · decide
        · exact ih later

theorem toLower_of_isDigit {c : Char} (digit : c.isDigit = true) : c.toLower = c := by
  have high : c.toNat ≤ 57 := of_decide_eq_true (Bool.and_eq_true_iff.mp digit).2
  unfold Char.toLower
  rw [dif_neg]
  rintro ⟨above, -⟩
  have above : 65 ≤ c.toNat := above
  omega

/-- **A header with a digit stands for no field.** -/
theorem lookup_of_digit {rt : Runtime} (lowers : rt.LowersAscii) {text : String}
    (trimmed : Text.Trimmed text) {c : Char} (inside : c ∈ text.toList)
    (digit : c.isDigit = true) : headerMap.lookup (normaliseHeader rt text) = none := by
  have kept : c ∈ (normaliseHeader rt text).toList := by
    unfold normaliseHeader
    dsimp only
    rw [Text.trim_of_trimmed trimmed]
    have unmarked : c ∈ (if text.toList.head? = some '\uFEFF' then text.toList.drop 1
        else text.toList) := by
      split
      · rename_i marked
        obtain ⟨rest, is⟩ := List.head?_eq_some_iff.mp marked
        rw [is] at inside ⊢
        rcases List.mem_cons.mp inside with rfl | later
        · exact absurd digit (by decide)
        · exact later
      · exact inside
    have under : (c == '_') = false := by
      refine beq_eq_false_iff_ne.mpr fun same => ?_
      rw [same] at digit
      exact absurd digit (by decide)
    have written := mem_underscored (by unfold Text.isAlphanumeric; simp [digit]) unmarked
    have front := Text.mem_dropWhile_of_fails (p := (· == '_')) written under
    have back := Text.mem_dropWhile_of_fails (p := (· == '_')) (List.mem_reverse.mpr front) under
    rw [lowers _ (fun d here => ?_), String.toList_ofList, String.toList_ofList]
    · exact List.mem_map.mpr ⟨c, List.mem_reverse.mpr back, toLower_of_isDigit digit⟩
    · rw [String.toList_ofList] at here
      have inner := (List.dropWhile_suffix _).subset (List.mem_reverse.mp here)
      exact ascii_underscored ((List.dropWhile_suffix _).subset (List.mem_reverse.mp inner))
  rw [List.lookup_eq_none_iff]
  intro entry listed
  refine bne_iff_ne.mpr fun same => ?_
  have plain : headerMap.all (fun entry => entry.1.toList.all (!·.isDigit)) = true := by
    decide
  rw [same] at kept
  have letters := List.all_eq_true.mp (List.all_eq_true.mp plain entry listed) c kept
  simp [digit] at letters

/-! ### Sheets -/

section Sheets

variable {rt : Runtime} {up : UploadRuntime} {written : Time → String}

/-- The texts of a row of cells, for a way to write dates. -/
def texts (rt : Runtime) (dateText : Time → String) (row : List SheetCell) : List String :=
  row.map fun cell => Text.trim (cellText rt dateText cell)

/-- The row has a date, or a text in it. -/
def filled (rt : Runtime) (row : List SheetCell) : Bool :=
  row.any fun
    | .date _ => true
    | cell => Text.trim (cellText rt (fun _ => "") cell) != ""

/-- The first row of the sheet is not blank. -/
def Headed (rt : Runtime) (sheet : List (List SheetCell)) : Prop :=
  sheet.head?.any (filled rt) = true

/-- The cells of a record are not all blank. -/
def hasText (cells : List (List Char)) : Bool :=
  cells.any fun cell => Text.trim (String.ofList cell) != ""

/-- **The text is an export of the sheet** with its dates written so: some tokens of CSV with the
same rows, and blank ones anywhere. -/
def Exports (rt : Runtime) (written : Time → String) (sheet : List (List SheetCell))
    (text : String) : Prop :=
  ∃ tokens, QuotedTable.Proper csv tokens ∧ text.toList = QuotedTable.print csv tokens ∧
    (QuotedTable.tableOf tokens).filter hasText =
      (sheet.map fun row => row.map fun cell => (cellText rt written cell).toList).filter hasText

theorem record_eq (cells : List (List Char)) :
    record cells =
      if hasText cells then some (cells.map fun cell => Text.trim (String.ofList cell))
      else none := by
  unfold record hasText
  dsimp only
  simp only [List.any_map, Function.comp_def]

theorem filterMap_record (table : List (List (List Char))) :
    table.filterMap record =
      (table.filter hasText).map fun cells =>
        cells.map fun cell => Text.trim (String.ofList cell) := by
  induction table with
  | nil => rfl
  | cons cells table ih =>
    rw [List.filterMap_cons, List.filter_cons, record_eq, ih]
    by_cases there : hasText cells = true
    · rw [if_pos there, if_pos there]
      rfl
    · rw [if_neg there, if_neg there]

/-- A date is a text, however it is written. -/
theorem any_texts (some_text : ∀ time, Text.trim (written time) ≠ "") (row : List SheetCell) :
    (texts rt written row).any (· != "") = filled rt row := by
  unfold texts filled
  rw [List.any_map]
  refine List.any_congr rfl fun cell => ?_
  rw [Function.comp_apply]
  cases cell with
  | date time => exact bne_iff_ne.mpr (some_text time)
  | _ => simp only [cellText]

/-- **What is read of an export**: the rows of the sheet that are not blank. -/
theorem csvRecords_of_exports (some_text : ∀ time, Text.trim (written time) ≠ "")
    {sheet : List (List SheetCell)} {text : String} (exports : Exports rt written sheet text) :
    csvRecords text = (sheet.filter (filled rt)).map (texts rt written) := by
  obtain ⟨tokens, proper, printed, rows⟩ := exports
  have cells : ∀ row : List SheetCell,
      ((row.map fun cell => (cellText rt written cell).toList).map fun cell =>
        Text.trim (String.ofList cell)) = texts rt written row := by
    intro row
    unfold texts
    rw [List.map_map]
    refine List.map_congr_left fun cell _ => ?_
    rw [Function.comp_apply, String.ofList_toList]
  have kept : (hasText ∘ fun row : List SheetCell =>
      row.map fun cell => (cellText rt written cell).toList) = filled rt := by
    funext row
    rw [← any_texts some_text, ← cells, List.any_map, Function.comp_apply, hasText,
      Function.comp_def]
  rw [csvRecords_print proper printed, recordsOf, filterMap_record, rows, List.filter_map, kept,
    List.map_map]
  exact List.map_congr_left fun row _ => cells row

/-- **The standard encoding** of the texts of a sheet is an export of it. -/
theorem exports_encode (ends : ℕ → LineEnd) (final : Option LineEnd)
    {sheet : List (List SheetCell)} (cells : ∀ row ∈ sheet, row ≠ []) :
    Exports rt written sheet
      (encode ends final (sheet.map fun row => row.map (cellText rt written))) := by
  have separate : ∀ i, (ends i).text ≠ [] := fun i => lineEnd_ne_nil (ends i)
  have final_breaks : ∀ c ∈ final.elim [] LineEnd.text, csv.isBreak c = true := by
    cases final with
    | none => exact fun c inside => absurd inside (by simp)
    | some lineEnd => exact isBreak_lineEnd lineEnd
  let table : List (List (List Char)) :=
    sheet.map fun row => row.map fun cell => (cellText rt written cell).toList
  have rows : ((sheet.map fun row => row.map (cellText rt written)).map fun row =>
      row.map String.toList) = table := by
    rw [List.map_map]
    exact List.map_congr_left fun row _ => List.map_map
  have full : ∀ row ∈ table, row ≠ [] := by
    intro row inside
    obtain ⟨line, member, rfl⟩ := List.mem_map.mp inside
    exact fun empty => cells line member (List.map_eq_nil_iff.mp empty)
  refine ⟨QuotedTable.tableTokens (fun i => (ends i).text) (final.elim [] LineEnd.text) table,
    QuotedTable.proper_tableTokens separate (fun i => isBreak_lineEnd (ends i)) final_breaks table,
    ?_, ?_⟩
  · rw [QuotedTable.print_tableTokens, encode, String.toList_ofList, rows]
  · have blank : (Option.guard hasText [[]] : Option (List (List Char))) = none := by decide
    rw [← List.filterMap_eq_filter,
      QuotedTable.filterMap_tableTokens blank separate _ full, List.filterMap_eq_filter]

/-- `Buffer.isBuffer(content) ? content : Buffer.from(content)` -/
def toBytes (up : UploadRuntime) : UploadContent → List ℕ
  | .text content => up.fromText content
  | .buffer bytes => bytes

/-- The upload is a workbook with this sheet: it has no rows of its own, and its content is read. -/
def CarriesSheet (rt : Runtime) (up : UploadRuntime) (request : Json)
    (sheet : List (List SheetCell)) : Prop :=
  inlineRows request = none ∧
    detectFormat rt request (stringField request "fileName") = .xlsx ∧
    ∃ content, readUploadContent up request = .ok (some content) ∧
      up.readSheet (toBytes up content) = .ok sheet

/-- The parser on a workbook. -/
theorem parseStudentUpload_xlsx {request : Json} {sheet : List (List SheetCell)}
    (carries : CarriesSheet rt up request sheet) :
    parseStudentUpload rt up request = (do
      let institutionId ← orThrow (stringField request "institutionId")
        (.nonRetryable "Bulk upload file is missing institutionId.")
      let rows ← parseRecords rt
        "XLSX upload must include a header row and at least one student row."
        (sheet.map (texts rt up.dateText))
      let input ← validate rt up (registerBody request institutionId rows)
      return ⟨input, .xlsx, stringField request "fileName", rows.length⟩) := by
  obtain ⟨no_rows, format, content, has, read⟩ := carries
  have parsed : parseContent rt up .xlsx content = parseRecords rt
      "XLSX upload must include a header row and at least one student row."
      (sheet.map (texts rt up.dateText)) := by
    have sheets : parseXlsx rt up content = (do
        let sheet ← up.readSheet (toBytes up content)
        parseRecords rt "XLSX upload must include a header row and at least one student row."
          (sheet.map (texts rt up.dateText))) := by
      cases content <;> rfl
    rw [parseContent, if_pos rfl, sheets, read]
    rfl
  unfold parseStudentUpload
  dsimp only
  rw [no_rows, has, format]
  dsimp only
  rw [← parsed]
  rfl

/-- The headers of the columns. -/
def sheetHeaders (rt : Runtime) (dateText : Time → String) (sheet : List (List SheetCell)) :
    List String :=
  headersOf rt (sheet.map (texts rt dateText))

/-- The students of the rows that are not blank. -/
def sheetStudents (rt : Runtime) (dateText : Time → String) (sheet : List (List SheetCell)) :
    List Json :=
  (sheet.tail.filter (filled rt)).map fun row =>
    mapRecord (sheetHeaders rt dateText sheet) (texts rt dateText row)

/-- **The rows of a workbook** are those of the rows that are not blank, under the first one. -/
theorem acceptedRows_sheet (some_text : ∀ time, Text.trim (up.dateText time) ≠ "")
    {request : Json} {sheet : List (List SheetCell)} (carries : CarriesSheet rt up request sheet)
    {rows : List StudentRegisterRow} :
    acceptedRows rt up request = some rows ↔
      registered rt request (sheetStudents rt up.dateText sheet) = some rows := by
  have trimmed : ∀ row, ((texts rt up.dateText row).any fun cell => Text.trim cell != "") =
      filled rt row := by
    intro row
    rw [← any_texts some_text, texts, List.any_map, List.any_map]
    refine List.any_congr rfl fun cell => ?_
    rw [Function.comp_apply, Function.comp_apply, Text.trim_trim]
  have students : (((sheet.map (texts rt up.dateText)).drop 1).filter fun record =>
      record.any fun cell => Text.trim cell != "").map
        (mapRecord (((sheet.map (texts rt up.dateText)).headD []).map (normaliseHeader rt))) =
      sheetStudents rt up.dateText sheet := by
    unfold sheetStudents sheetHeaders headersOf
    rw [List.drop_one, ← List.map_tail, List.filter_map, List.map_map]
    refine congrArg (List.map _) (List.filter_congr fun row _ => trimmed row)
  have parses : ∀ refusal listed,
      parseRecords rt refusal (sheet.map (texts rt up.dateText)) = .ok listed ↔
        2 ≤ sheet.length ∧ listed = sheetStudents rt up.dateText sheet := by
    intro refusal listed
    unfold parseRecords
    dsimp only
    rw [students, bind_eq_ok]
    constructor
    · rintro ⟨_, enough, same⟩
      have long := of_decide_eq_true (require_eq_ok.mp enough)
      rw [List.length_map] at long
      exact ⟨long, (pure_eq_ok.mp same).symm⟩
    · intro both
      refine ⟨(), require_eq_ok.mpr (decide_eq_true ?_), pure_eq_ok.mpr both.2.symm⟩
      rw [List.length_map]
      exact both.1
  rw [acceptedRows_of_parse (parseStudentUpload_xlsx carries)]
  constructor
  · rintro ⟨listed, parsed, found⟩
    obtain ⟨-, rfl⟩ := (parses _ _).mp parsed
    exact found
  · intro found
    have enough : 2 ≤ sheet.length := by
      have one := (registered_map_eq_some.mp found).2.1.1
      have fewer := one.trans (List.length_filter_le ..)
      rw [List.length_tail] at fewer
      omega
    exact ⟨_, (parses _ _).mpr ⟨enough, rfl⟩, found⟩

/-- **The rows of an export** are those of the same rows, if the sheet has a header. -/
theorem acceptedRows_export (some_text : ∀ time, Text.trim (written time) ≠ "") {request : Json}
    {sheet : List (List SheetCell)} {text : String} (headed : Headed rt sheet)
    (carries : CarriesCsv rt up request text) (exports : Exports rt written sheet text)
    {rows : List StudentRegisterRow} :
    acceptedRows rt up request = some rows ↔
      registered rt request (sheetStudents rt written sheet) = some rows := by
  have students : studentsOf rt (csvRecords text) = sheetStudents rt written sheet := by
    rw [csvRecords_of_exports some_text exports, studentsOf_eq]
    unfold sheetStudents sheetHeaders
    cases sheet with
    | nil => exact absurd headed (by simp [Headed])
    | cons first rest =>
      have begins : filled rt first = true := headed
      rw [List.filter_cons_of_pos begins, List.map_cons, List.tail_cons, List.tail_cons,
        List.map_map]
      rfl
  have enough : ∀ rows, registered rt request (studentsOf rt (csvRecords text)) = some rows →
      2 ≤ (csvRecords text).length := by
    intro rows found
    rw [studentsOf_eq] at found
    have one := (registered_map_eq_some.mp found).2.1.1
    rw [List.length_tail] at one
    omega
  rw [acceptedRows_csv carries, students]
  rw [students] at enough
  exact ⟨And.right, fun found => ⟨enough rows found, found⟩⟩

end Sheets

/-! ### What the two show -/

/-- The last column of a field depends on what its headers stand for. -/
theorem lastColumn_congr {α : Type} {cells : List α} {f g : α → String}
    (alike : ∀ cell, headerMap.lookup (f cell) = headerMap.lookup (g cell))
    (target : String) : lastColumn (cells.map f) target = lastColumn (cells.map g) target := by
  have read : ∀ h : α → String, lastColumn (cells.map h) target =
      (cells.zipIdx.reverse.find? fun cell => headerMap.lookup (h cell.1) == some target).map
        Prod.snd := by
    intro h
    unfold lastColumn
    rw [List.zipIdx_map, ← List.map_reverse, List.find?_map, Option.map_map]
    rfl
  rw [read, read]
  simp only [alike]

section Shown

variable {rt : Runtime} {up : UploadRuntime} {written : Time → String}

/-- A cell that is not a date has one text. -/
theorem cellText_of_not_date {dateText : Time → String} {cell : SheetCell}
    (dateless : ∀ time, cell ≠ .date time) :
    cellText rt dateText cell = cellText rt written cell := by
  cases cell with
  | date time => exact absurd rfl (dateless time)
  | _ => rfl

theorem IsDay.digit {text : String} (day : IsDay text) : ∃ c ∈ text.toList, c.isDigit = true := by
  obtain ⟨first, rest, last, is, begins, -, -⟩ := day.spec
  exact ⟨first, by rw [is]; exact List.mem_cons_self .., begins⟩

/-- **The columns are the same**: a date is the header of none. -/
theorem lastColumn_sheetHeaders (lowers : rt.LowersAscii) (prints : PrintsDates rt up)
    (days : ∀ time, IsDay (written time)) (sheet : List (List SheetCell)) (target : String) :
    lastColumn (sheetHeaders rt up.dateText sheet) target =
      lastColumn (sheetHeaders rt written sheet) target := by
  have headers : ∀ dateText : Time → String, sheetHeaders rt dateText sheet =
      (sheet.headD []).map fun cell =>
        normaliseHeader rt (Text.trim (cellText rt dateText cell)) := by
    intro dateText
    unfold sheetHeaders headersOf texts
    cases sheet with
    | nil => rfl
    | cons first rest => exact List.map_map
  rw [headers, headers]
  refine lastColumn_congr (fun cell => ?_) target
  cases cell with
  | date time =>
    have none_shown : ∀ text, Text.Trimmed text → (∃ c ∈ text.toList, c.isDigit = true) →
        headerMap.lookup (normaliseHeader rt (Text.trim text)) = none := by
      rintro text trimmed ⟨c, inside, digit⟩
      rw [Text.trim_of_trimmed trimmed]
      exact lookup_of_digit lowers trimmed inside digit
    exact (none_shown _ (prints.trimmed time) (prints.digit time)).trans
      (none_shown _ (days time).trimmed (days time).digit).symm
  | _ => rfl

/-- The text of a column. -/
theorem textAt_texts (dateText : Time → String) (row : List SheetCell) (column : ℕ) :
    textAt (texts rt dateText row) column =
      (row[column]?.map fun cell => Text.trim (cellText rt dateText cell)).getD "" := by
  unfold textAt texts
  rw [List.getD_eq_getElem?_getD, List.getElem?_map]
  cases row[column]? with
  | none => exact (show Text.trim "" = "" by decide)
  | some cell => exact Text.trim_trim _

/-- **A field shows the same text in both**, unless it is read from a date. -/
theorem shown_cases (lowers : rt.LowersAscii) (prints : PrintsDates rt up)
    (days : ∀ time, IsDay (written time)) (sheet : List (List SheetCell)) (row : List SheetCell)
    (target : String) :
    shown (sheetHeaders rt up.dateText sheet) (texts rt up.dateText row) target =
        shown (sheetHeaders rt written sheet) (texts rt written row) target ∨
      ∃ column time, lastColumn (sheetHeaders rt up.dateText sheet) target = some column ∧
        row[column]? = some (.date time) := by
  unfold shown
  rw [← lastColumn_sheetHeaders lowers prints days]
  cases lastColumn (sheetHeaders rt up.dateText sheet) target with
  | none => exact .inl (by rw [Option.map_none, Option.map_none])
  | some column =>
    by_cases dated : ∃ time, row[column]? = some (.date time)
    · obtain ⟨time, there⟩ := dated
      exact .inr ⟨column, time, rfl, there⟩
    · refine .inl (congrArg some ?_)
      rw [textAt_texts, textAt_texts]
      cases there : row[column]? with
      | none => rw [Option.map_none, Option.map_none]
      | some cell =>
        have dateless : ∀ time, cell ≠ .date time := fun time is => dated ⟨time, is ▸ there⟩
        rw [Option.map_some, Option.map_some, cellText_of_not_date dateless]

/-- A field that is read from a date shows it as it is written. -/
theorem shown_of_date {dateText : Time → String} (trimmed : ∀ time, Text.Trimmed (dateText time))
    {headers : List String} {row : List SheetCell} {target : String} {column : ℕ} {time : Time}
    (last : lastColumn headers target = some column) (there : row[column]? = some (.date time)) :
    shown headers (texts rt dateText row) target = some (dateText time) := by
  unfold shown
  rw [last, Option.map_some, textAt_texts, there]
  exact congrArg some (Text.trim_of_trimmed (trimmed time))

/-- `String(date)` is no day. -/
theorem not_isDay_dateText (prints : PrintsDates rt up) (time : Time) :
    ¬ IsDay (up.dateText time) := by
  intro day
  obtain ⟨first, rest, last, is, begins, -, -⟩ := day.spec
  obtain ⟨c, head, low, -⟩ := prints.weekday time
  rw [is] at head
  obtain rfl := Option.some.inj head
  have high : first.toNat ≤ 57 := of_decide_eq_true (Bool.and_eq_true_iff.mp begins).2
  have letter : 65 ≤ first.toNat := low
  omega

/-- What the workbook shows of a field is shown by its export: the same text, or the same date. -/
theorem shown_export (lowers : rt.LowersAscii) (prints : PrintsDates rt up)
    (days : ∀ time, IsDay (written time)) {sheet : List (List SheetCell)} {row : List SheetCell}
    {target text : String}
    (shows : shown (sheetHeaders rt up.dateText sheet) (texts rt up.dateText row) target =
      some text) :
    shown (sheetHeaders rt written sheet) (texts rt written row) target = some text ∨
      ∃ time, text = up.dateText time ∧
        shown (sheetHeaders rt written sheet) (texts rt written row) target =
          some (written time) := by
  rcases shown_cases lowers prints days sheet row target with same | ⟨column, time, last, there⟩
  · exact .inl (same ▸ shows)
  · have dated := @shown_of_date rt _ prints.trimmed _ row _ _ _ last there
    rw [lastColumn_sheetHeaders lowers prints days] at last
    exact .inr ⟨time, Option.some.inj (shows.symm.trans dated),
      shown_of_date (fun time => (days time).trimmed) last there⟩

end Shown

/-! ### The two uploads -/

section Uploads

variable {rt : Runtime} {up : UploadRuntime} {written : Time → String} {request other : Json}
  {sheet : List (List SheetCell)} {text : String}

theorem PrintsDates.ne_empty (prints : PrintsDates rt up) (time : Time) :
    Text.trim (up.dateText time) ≠ "" := by
  rw [Text.trim_of_trimmed (prints.trimmed time)]
  intro empty
  obtain ⟨c, inside, -⟩ := prints.digit time
  rw [empty] at inside
  exact absurd inside List.not_mem_nil

theorem IsDay.ne_empty {text : String} (day : IsDay text) : Text.trim text ≠ "" := by
  rw [Text.trim_of_trimmed day.trimmed]
  intro empty
  obtain ⟨c, inside, -⟩ := day.digit
  rw [empty] at inside
  exact absurd inside List.not_mem_nil

/-- **A workbook whose first row is blank is rejected**: no column has a header. -/
theorem rejected_of_not_headed (lowers : rt.LowersAscii) (prints : PrintsDates rt up)
    (carries : CarriesSheet rt up request sheet) (headless : ¬ Headed rt sheet) :
    acceptedRows rt up request = none := by
  refine Option.eq_none_iff_forall_ne_some.mpr fun rows accepted => ?_
  have found := (acceptedRows_sheet prints.ne_empty carries).mp accepted
  obtain ⟨-, ⟨one, -⟩, each⟩ := exists_registered_iff.mp ⟨rows, found⟩
  obtain ⟨row, inside⟩ := List.exists_mem_of_length_pos one
  obtain ⟨student, read⟩ := each row inside
  have named := (studentRow_eq_valid.mp read).1.1
  have shows := (get?_mapRecord _ _ _).symm.trans named
  obtain ⟨text, shows, -⟩ := Option.map_eq_some_iff.mp shows
  obtain ⟨column, last, -⟩ := Option.map_eq_some_iff.mp shows
  obtain ⟨header, placed, stands⟩ := lookup_lastColumn last
  cases sheet with
  | nil => exact absurd inside List.not_mem_nil
  | cons first rest =>
    have blank : filled rt first = false := eq_false_of_ne_true headless
    obtain ⟨title, listed, rfl⟩ := List.mem_map.mp (List.mem_of_getElem? placed)
    rw [← any_texts prints.ne_empty] at blank
    have empty : title = "" := by
      simpa using List.any_eq_false.mp blank title listed
    rw [empty, lookup_blank lowers] at stands
    exact absurd stands (by simp)

/-- Some field of a student is read from a date. -/
def ShowsDate (rt : Runtime) (up : UploadRuntime) (sheet : List (List SheetCell)) : Prop :=
  ∃ row ∈ sheet.tail, ∃ target column time,
    lastColumn (sheetHeaders rt up.dateText sheet) target = some column ∧
      row[column]? = some (.date time)

/-- **Where no field is read from a date**, the students are the same. -/
theorem registered_of_dateless (lowers : rt.LowersAscii) (prints : PrintsDates rt up)
    (days : ∀ time, IsDay (written time)) (same : SameFields request other)
    (dateless : ¬ ShowsDate rt up sheet) :
    registered rt request (sheetStudents rt up.dateText sheet) =
      registered rt other (sheetStudents rt written sheet) := by
  refine registered_congr same fun row inside => studentRow_congr fun target _ => ?_
  refine (get?_mapRecord _ _ _).trans (Eq.trans ?_ (get?_mapRecord _ _ _).symm)
  rcases shown_cases lowers prints days sheet row target with alike | ⟨column, time, last, there⟩
  · rw [alike]
  · exact absurd ⟨row, (List.mem_filter.mp inside).1, target, column, time, last, there⟩ dateless

/-- A row that shows a date is not blank. -/
theorem filled_of_date {row : List SheetCell} {column : ℕ} {time : Time}
    (there : row[column]? = some (.date time)) : filled rt row = true :=
  List.any_eq_true.mpr ⟨_, List.mem_of_getElem? there, rfl⟩

/-- **Where a field is read from a date**, the rows are not the same. -/
theorem registered_ne_of_date (lowers : rt.LowersAscii) (prints : PrintsDates rt up)
    (days : ∀ time, IsDay (written time)) (shows : ShowsDate rt up sheet)
    {rows : List StudentRegisterRow}
    (first : registered rt request (sheetStudents rt up.dateText sheet) = some rows) :
    registered rt other (sheetStudents rt written sheet) ≠ some rows := by
  intro second
  obtain ⟨row, inside, target, column, time, last, there⟩ := shows
  obtain ⟨student, here, also⟩ := row_of_registered first second row
    (List.mem_filter.mpr ⟨inside, filled_of_date there⟩)
  obtain ⟨header, -, stands⟩ := lookup_lastColumn last
  have left := (get?_mapRecord _ _ _).symm.trans (get?_of_valid here (mem_fieldNames stands))
  have right := (get?_mapRecord _ _ _).symm.trans (get?_of_valid also (mem_fieldNames stands))
  have alike := Option.map_injective str_injective (left.trans right.symm)
  rw [shown_of_date prints.trimmed last there] at alike
  rw [lastColumn_sheetHeaders lowers prints days] at last
  rw [shown_of_date (fun time => (days time).trimmed) last there] at alike
  exact not_isDay_dateText prints time (Option.some.inj alike ▸ days time)

/-- **A student of the workbook is read in its export.** -/
theorem student_export (lowers : rt.LowersAscii) (prints : PrintsDates rt up)
    (days : ∀ time, IsDay (written time)) {row : List SheetCell} {student : StudentRegisterRow}
    (read : studentRegisterRowSchema rt (some (mapRecord (sheetHeaders rt up.dateText sheet)
      (texts rt up.dateText row))) = .valid student) :
    ∃ exported, studentRegisterRowSchema rt (some (mapRecord (sheetHeaders rt written sheet)
      (texts rt written row))) = .valid exported := by
  have field : ∀ {target text},
      (mapRecord (sheetHeaders rt up.dateText sheet) (texts rt up.dateText row)).get? target =
          some (.str text) →
        ∃ other, (mapRecord (sheetHeaders rt written sheet) (texts rt written row)).get? target =
          some (.str other) ∧
            (other = text ∨ ∃ time, text = up.dateText time ∧ other = written time) := by
    intro target text has
    rw [get?_mapRecord] at has ⊢
    obtain ⟨shownText, shows, is⟩ := Option.map_eq_some_iff.mp has
    obtain rfl := Json.str.inj is
    rcases shown_export lowers prints days shows with alike | ⟨time, is, dated⟩
    · exact ⟨shownText, by rw [alike]; rfl, .inl rfl⟩
    · exact ⟨written time, by rw [dated]; rfl, .inr ⟨time, is, rfl⟩⟩
  have long : ∀ {n text other}, n ≤ 10 → Schema.minLength n text = none →
      (other = text ∨ ∃ time, text = up.dateText time ∧ other = written time) →
        Schema.minLength n other = none := by
    rintro n text other few passes (rfl | ⟨time, -, rfl⟩)
    · exact passes
    · exact (days time).minLength few
  obtain ⟨⟨name, isName⟩, ⟨born, isBorn⟩, ⟨number, isNumber⟩, ⟨level, isLevel⟩,
    ⟨programme, isProgramme⟩, -⟩ := studentRow_eq_valid.mp read
  obtain ⟨fullName, hasName, named⟩ := field name
  obtain ⟨dateOfBirth, hasBorn, dated⟩ := field born
  obtain ⟨studentNumber, hasNumber, numbered⟩ := field number
  obtain ⟨levelText, hasLevel, levelled⟩ := field level
  obtain ⟨programmeText, hasProgramme, enrolled⟩ := field programme
  have date : Schema.formatted rt.isDate dateOfBirth = none := by
    rcases dated with rfl | ⟨time, is, -⟩
    · exact isBorn
    · rw [is] at isBorn
      exact absurd (prints.isDay _ (Schema.formatted_eq_none.mp isBorn))
        (not_isDay_dateText prints time)
  exact ⟨⟨fullName, dateOfBirth, studentNumber, levelText, programmeText,
      shown (sheetHeaders rt written sheet) (texts rt written row) "phone"⟩,
    studentRow_eq_valid.mpr ⟨⟨hasName, long (by decide) isName named⟩, ⟨hasBorn, date⟩,
      ⟨hasNumber, long (by decide) isNumber numbered⟩,
      ⟨hasLevel, long (by decide) isLevel levelled⟩,
      ⟨hasProgramme, long (by decide) isProgramme enrolled⟩, get?_mapRecord _ _ _⟩⟩

/-- **A workbook that is accepted has an export that is accepted.** -/
theorem registered_export (lowers : rt.LowersAscii) (prints : PrintsDates rt up)
    (days : ∀ time, IsDay (written time)) (same : SameFields request other)
    (accepted : ∃ rows, registered rt request (sheetStudents rt up.dateText sheet) = some rows) :
    ∃ rows, registered rt other (sheetStudents rt written sheet) = some rows := by
  obtain ⟨fits, sized, each⟩ := exists_registered_iff.mp accepted
  refine exists_registered_iff.mpr ⟨(fieldsFit_congr same).mp fits, sized, fun row inside => ?_⟩
  obtain ⟨student, read⟩ := each row inside
  exact student_export lowers prints days read

/-- **A workbook and its export** give the same student rows, or are both rejected, exactly when the
first row of the sheet is not blank and no field of a student is read from a date, or the export
does not fit a register. -/
theorem workbook_iff (lowers : rt.LowersAscii) (prints : PrintsDates rt up)
    (days : ∀ time, IsDay (written time)) (carries : CarriesSheet rt up request sheet)
    (also : CarriesCsv rt up other text) (same : SameFields request other)
    (exports : Exports rt written sheet text) :
    acceptedRows rt up request = acceptedRows rt up other ↔
      (Headed rt sheet ∧ ¬ ShowsDate rt up sheet) ∨ ¬ FitsRegister rt other (csvRecords text) := by
  rw [fitsRegister_iff_accepted also]
  by_cases headed : Headed rt sheet
  · have left : ∀ {rows}, acceptedRows rt up request = some rows ↔
        registered rt request (sheetStudents rt up.dateText sheet) = some rows :=
      acceptedRows_sheet prints.ne_empty carries
    have right : ∀ {rows}, acceptedRows rt up other = some rows ↔
        registered rt other (sheetStudents rt written sheet) = some rows :=
      acceptedRows_export (fun time => (days time).ne_empty) headed also exports
    constructor
    · intro equal
      by_cases shows : ShowsDate rt up sheet
      · refine .inr fun ⟨rows, accepted⟩ => ?_
        exact registered_ne_of_date lowers prints days shows (left.mp (equal.trans accepted))
          (right.mp accepted)
      · exact .inl ⟨headed, shows⟩
    · rintro (⟨-, dateless⟩ | rejected)
      · apply Option.ext
        intro rows
        rw [left, right, registered_of_dateless lowers prints days same dateless]
      · rw [Option.eq_none_iff_forall_ne_some.mpr fun rows is => rejected ⟨rows, is⟩]
        refine Option.eq_none_iff_forall_ne_some.mpr fun rows is => rejected ?_
        obtain ⟨exported, found⟩ := registered_export lowers prints days same ⟨rows, left.mp is⟩
        exact ⟨exported, right.mpr found⟩
  · rw [rejected_of_not_headed lowers prints carries headed, eq_comm,
      Option.eq_none_iff_forall_ne_some]
    simp [headed]

end Uploads

/-! ### A date of birth -/

/-- The schema library's dates are days. -/
def days : Runtime :=
  { Runtime.plain with isDate := fun text => decide (IsDay text) }

/-- The first of January 2010, in Lagos. -/
def friday : String :=
  "Fri Jan 01 2010 01:00:00 GMT+0100 (West Africa Standard Time)"

/-- A runtime that reads one sheet. -/
def reading (sheet : List (List SheetCell)) : UploadRuntime :=
  { UploadRuntime.plain with
    readSheet := fun _ => .ok sheet
    dateText := fun _ => friday }

def register (dateOfBirth : SheetCell) : List (List SheetCell) :=
  [[.text "name", .text "dob", .text "school_id", .text "class", .text "track"],
    [.text "Ada", dateOfBirth, .text "S1", .text "J1", .text "Art"],
    [.empty, .empty, .empty, .empty, .empty]]

def workbookRequest : Json :=
  .obj [("institutionId", .str "ACD-0001"), ("format", .str "xlsx"), ("contentBase64", .str "UEs")]

def firstOfJanuary : Time → String := fun _ => "2010-01-01"

def exported (dateOfBirth : SheetCell) : String :=
  encode (fun _ => .lf) none
    ((register dateOfBirth).map fun row => row.map (cellText days firstOfJanuary))

theorem days_lowersAscii : days.LowersAscii := fun _ _ => rfl

theorem printsDates_reading (sheet : List (List SheetCell)) :
    PrintsDates days (reading sheet) where
  weekday _ := ⟨'F', show 'F' ∈ friday.toList.head? by decide, by decide⟩
  digit _ := ⟨'0', show '0' ∈ friday.toList by decide, by decide⟩
  trimmed _ := Text.trimmed_of_chars (s := friday) (by rw [friday, String.toList_ofList])
    (by decide)
  isDay _ is := of_decide_eq_true is

theorem isDay_firstOfJanuary (time : Time) : IsDay (firstOfJanuary time) :=
  show IsDay "2010-01-01" by decide

theorem carriesSheet_reading (sheet : List (List SheetCell)) :
    CarriesSheet days (reading sheet) workbookRequest sheet :=
  ⟨by decide, by decide, .buffer [], rfl, rfl⟩

theorem exports_exported (dateOfBirth : SheetCell) :
    Exports days firstOfJanuary (register dateOfBirth) (exported dateOfBirth) :=
  exports_encode _ _ (by simp [register])

theorem sameFields_exported (dateOfBirth : SheetCell) :
    SameFields workbookRequest (csvRequest (exported dateOfBirth)) := by
  simp [SameFields, stringField, workbookRequest, csvRequest, Json.get?, asString]

/-- The export in a request. -/
theorem carries_exported (up : UploadRuntime) {dateOfBirth : SheetCell}
    (is : cellText days firstOfJanuary dateOfBirth = "2010-01-01") :
    CarriesCsv days up (csvRequest (exported dateOfBirth)) (exported dateOfBirth) := by
  have chars : exported dateOfBirth = encode (fun _ => .lf) none
      [["name", "dob", "school_id", "class", "track"], ["Ada", "2010-01-01", "S1", "J1", "Art"],
        ["", "", "", "", ""]] := by
    simp only [exported, register, List.map_cons, List.map_nil, is]
    rfl
  refine carries_csvRequest _ _ ?_ ?_
  · refine Text.trimmed_of_chars (by rw [chars, encode, String.toList_ofList]) ?_
    decide
  · rw [chars, encode, ne_eq, String.ofList_eq_empty_iff]
    decide

theorem headed_register (dateOfBirth : SheetCell) : Headed days (register dateOfBirth) := by
  rw [Headed, register, List.head?_cons]
  decide

/-- **A date of birth may be a text**, and a row may be blank. -/
theorem workbook_iff_texts :
    acceptedRows days (reading (register (.text "2010-01-01"))) workbookRequest =
      acceptedRows days (reading (register (.text "2010-01-01")))
        (csvRequest (exported (.text "2010-01-01"))) := by
  refine (workbook_iff days_lowersAscii (printsDates_reading _) isDay_firstOfJanuary
    (carriesSheet_reading _) (carries_exported _ rfl)
    (sameFields_exported _) (exports_exported _)).mpr (.inl ⟨headed_register _, ?_⟩)
  rintro ⟨row, inside, target, column, time, -, there⟩
  have dated := List.mem_of_getElem? there
  simp only [register, List.tail_cons, List.mem_cons, List.not_mem_nil, or_false] at inside
  rcases inside with rfl | rfl
  · simp at dated
  · simp at dated

/-- The student of the export is registered. -/
theorem registered_exported :
    (registered days (csvRequest (exported (.date 1262304000000)))
      (sheetStudents days firstOfJanuary (register (.date 1262304000000)))).isSome = true := by
  decide

theorem showsDate_register :
    ShowsDate days (reading (register (.date 1262304000000))) (register (.date 1262304000000)) :=
  ⟨_, .head _, "dateOfBirth", 1, 1262304000000, by decide, rfl⟩

/-- **A date of birth that is a date** is read from the export, and not from the workbook. -/
theorem workbook_fails :
    ¬ ∀ (rt : Runtime) (up : UploadRuntime) (written : Time → String) (request other : Json)
      (sheet : List (List SheetCell)) (text : String), rt.LowersAscii → PrintsDates rt up →
        (∀ time, IsDay (written time)) → CarriesSheet rt up request sheet →
        CarriesCsv rt up other text → SameFields request other → Exports rt written sheet text →
          acceptedRows rt up request = acceptedRows rt up other := by
  intro all
  have prints := printsDates_reading (register (.date 1262304000000))
  have carries := carriesSheet_reading (register (.date 1262304000000))
  have also : CarriesCsv days (reading (register (.date 1262304000000)))
      (csvRequest (exported (.date 1262304000000))) (exported (.date 1262304000000)) :=
    carries_exported _ rfl
  have same := all _ _ _ _ _ _ _ days_lowersAscii prints isDay_firstOfJanuary carries also
    (sameFields_exported _) (exports_exported _)
  obtain ⟨rows, found⟩ := Option.isSome_iff_exists.mp registered_exported
  have accepted := (acceptedRows_export (fun time => (isDay_firstOfJanuary time).ne_empty)
    (headed_register _) also (exports_exported _)).mpr found
  exact registered_ne_of_date days_lowersAscii prints isDay_firstOfJanuary showsDate_register
    ((acceptedRows_sheet prints.ne_empty carries).mp (same.trans accepted)) found

end AcadID.RegisterWorkbooks
