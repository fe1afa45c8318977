/-
**The columns of a student register, and their order.**

Several headers stand for one field; the last of their columns is the one a row is read from.

* `acceptedRows` — the student rows of an upload that is accepted; `registered_eq_some` — what its
  students have to be, row by row.
* `lastColumn` — the column that a field is read from; `get?_mapRecord` — what a row shows of it.
* `csvRecords_permute` — a text with its columns in another order, however it is written.
* `columns_iff` — **an upload whose columns are in another order** gives the same student rows
  exactly when the columns read before and after have the same texts, or neither is accepted.
* `columns_fails` — a class and a level, of which one is blank.
-/

import AcadID.Jobs.BulkUploadParser
import AcadID.Lib.FirstMatch
import Mathlib.Data.List.GetD

namespace AcadID.RegisterColumns

open Lib BulkUpload Students JobWorker

/-! ### What the schema reads -/

/-- The student rows of an upload that is accepted. -/
def acceptedRows (rt : Runtime) (up : UploadRuntime) (request : Json) :
    Option (List StudentRegisterRow) :=
  (parseStudentUpload rt up request).toOption.map (·.input.rows)

/-- The student rows that the schema reads from students. -/
def registered (rt : Runtime) (request : Json) (students : List Json) :
    Option (List StudentRegisterRow) :=
  (stringField request "institutionId").bind fun institutionId =>
    match ingestStudentRegisterSchema rt (some (registerBody request institutionId students)) with
    | .valid input => some input.rows
    | .issues _ => none

/-- The fields of a request next to its students meet the schema. -/
def FieldsFit (rt : Runtime) (request : Json) : Prop :=
  ∃ institutionId, stringField request "institutionId" = some institutionId ∧
    Schema.minLength 1 institutionId = none ∧
    ∀ entryDate ∈ stringField request "entryDate", rt.isDate entryDate = true

/-- A text that passes one check. -/
theorem field_string_eq_valid {check : String → Option String} {v : Json} {key text : String} :
    Schema.field v key (Schema.string [check]) = .valid text ↔
      v.get? key = some (.str text) ∧ check text = none := by
  rw [Schema.field_eq_valid, Schema.string_eq_valid, List.forall_mem_singleton]

theorem field_optional_eq_valid {v : Json} {key : String} {text : Option String} :
    Schema.field v key (Schema.optional (Schema.string [])) = .valid text ↔
      v.get? key = text.map .str := by
  rw [Schema.field_eq_valid]
  cases v.get? key with
  | none =>
    rw [Schema.optional_none]
    cases text <;> simp
  | some value =>
    rw [Schema.optional_eq_valid]
    constructor
    · rintro ⟨x, read, rfl⟩
      exact (Schema.string_eq_valid.mp read).1
    · intro same
      cases text with
      | none => exact absurd same (by simp)
      | some x => exact ⟨x, Schema.string_eq_valid.mpr ⟨same, by simp⟩, rfl⟩

/-- **A student is read** field by field. -/
theorem studentRow_eq_valid {rt : Runtime} {fs : List (String × Json)} {row : StudentRegisterRow} :
    studentRegisterRowSchema rt (some (.obj fs)) = .valid row ↔
      ((Json.obj fs).get? "fullName" = some (.str row.fullName) ∧
        Schema.minLength 2 row.fullName = none) ∧
      ((Json.obj fs).get? "dateOfBirth" = some (.str row.dateOfBirth) ∧
        Schema.formatted rt.isDate row.dateOfBirth = none) ∧
      ((Json.obj fs).get? "studentNumber" = some (.str row.studentNumber) ∧
        Schema.minLength 1 row.studentNumber = none) ∧
      ((Json.obj fs).get? "level" = some (.str row.level) ∧
        Schema.minLength 1 row.level = none) ∧
      ((Json.obj fs).get? "programme" = some (.str row.programme) ∧
        Schema.minLength 1 row.programme = none) ∧
      (Json.obj fs).get? "phone" = row.phone.map .str := by
  unfold studentRegisterRowSchema Schema.object
  dsimp only
  simp only [Checked.seq_eq_valid, Checked.map_eq_valid, field_string_eq_valid,
    field_optional_eq_valid]
  constructor
  · rintro ⟨_, phone, ⟨_, programme, ⟨_, level, ⟨_, number, ⟨_, born, ⟨name, isName, rfl⟩, isBorn,
      rfl⟩, isNumber, rfl⟩, isLevel, rfl⟩, isProgramme, rfl⟩, isPhone, rfl⟩
    exact ⟨isName, isBorn, isNumber, isLevel, isProgramme, isPhone⟩
  · rintro ⟨isName, isBorn, isNumber, isLevel, isProgramme, isPhone⟩
    exact ⟨_, row.phone, ⟨_, row.programme, ⟨_, row.level, ⟨_, row.studentNumber, ⟨_,
      row.dateOfBirth, ⟨row.fullName, isName, rfl⟩, isBorn, rfl⟩, isNumber, rfl⟩, isLevel, rfl⟩,
      isProgramme, rfl⟩, isPhone, rfl⟩

theorem get?_registerBody (request : Json) (institutionId : String) (students : List Json) :
    (registerBody request institutionId students).get? "institutionId" =
        some (.str institutionId) ∧
      (registerBody request institutionId students).get? "entryDate" =
        (stringField request "entryDate").map .str ∧
      (registerBody request institutionId students).get? "rows" = some (.arr students) := by
  unfold registerBody
  refine ⟨?_, ?_, ?_⟩
  · simp [Json.get?_fields_cons]
  · simp [Json.get?_fields_cons, Json.get?_fields_nil]
  · simp [Json.get?_fields_cons]

/-- An entry date is read when it is a date. -/
theorem entryDate_eq_valid {rt : Runtime} {text read : Option String} :
    Schema.optional (Schema.string [Schema.formatted rt.isDate]) (text.map .str) = .valid read ↔
      read = text ∧ ∀ date ∈ text, rt.isDate date = true := by
  cases text with
  | none =>
    rw [Option.map_none, Schema.optional_none]
    constructor
    · intro same
      exact ⟨(Checked.valid.inj same).symm, fun _ there => absurd there (by simp)⟩
    · intro both
      rw [both.1]
  | some date =>
    rw [Option.map_some, Schema.optional_eq_valid]
    simp only [Schema.string_eq_valid, List.forall_mem_singleton]
    constructor
    · rintro ⟨x, ⟨same, passed⟩, rfl⟩
      obtain rfl := Json.str.inj (Option.some.inj same)
      exact ⟨rfl, fun other there => Option.some.inj there ▸ Schema.formatted_eq_none.mp passed⟩
    · rintro ⟨rfl, is⟩
      exact ⟨date, ⟨rfl, Schema.formatted_eq_none.mpr (is date rfl)⟩, rfl⟩

theorem registerBody_eq_valid {rt : Runtime} {request : Json} {institutionId : String}
    {students : List Json} {input : IngestStudentRegisterInput} :
    ingestStudentRegisterSchema rt (some (registerBody request institutionId students)) =
        .valid input ↔
      (input.institutionId = institutionId ∧ Schema.minLength 1 institutionId = none) ∧
      (input.entryDate = stringField request "entryDate" ∧
        ∀ date ∈ stringField request "entryDate", rt.isDate date = true) ∧
      (Schema.minItems 1 students = none ∧ Schema.maxItems 500 students = none) ∧
      List.Forall₂ (fun v row => studentRegisterRowSchema rt (some v) = .valid row) students
        input.rows := by
  obtain ⟨named, dated, listed⟩ := get?_registerBody request institutionId students
  obtain ⟨fs, is⟩ : ∃ fs, registerBody request institutionId students = .obj fs := ⟨_, rfl⟩
  rw [is] at named dated listed ⊢
  unfold ingestStudentRegisterSchema Schema.object
  dsimp only
  simp only [Checked.seq_eq_valid, Checked.map_eq_valid, field_string_eq_valid, named]
  simp only [Schema.field_eq_valid, dated, listed, entryDate_eq_valid, Schema.array_eq_valid]
  constructor
  · rintro ⟨_, rows, ⟨_, date, ⟨id, ⟨same, long⟩, rfl⟩, ⟨rfl, dates⟩, rfl⟩, ⟨vs, is, sized, each⟩,
      rfl⟩
    obtain rfl := Json.str.inj (Option.some.inj same)
    obtain rfl := Json.arr.inj (Option.some.inj is)
    exact ⟨⟨rfl, long⟩, ⟨rfl, dates⟩, ⟨sized _ (by simp), sized _ (by simp)⟩, each⟩
  · rintro ⟨⟨rfl, long⟩, ⟨is, dates⟩, ⟨some, few⟩, each⟩
    refine ⟨_, input.rows, ⟨_, input.entryDate, ⟨input.institutionId, ⟨rfl, long⟩, rfl⟩,
      ⟨is, dates⟩, rfl⟩, ⟨students, rfl, fun check listed => ?_, each⟩, rfl⟩
    rcases List.mem_pair.mp listed with rfl | rfl
    · exact some
    · exact few

/-- **The students of a register** are read one by one, next to fields that fit. -/
theorem registered_eq_some {rt : Runtime} {request : Json} {students : List Json}
    {rows : List StudentRegisterRow} :
    registered rt request students = some rows ↔ FieldsFit rt request ∧
      (Schema.minItems 1 students = none ∧ Schema.maxItems 500 students = none) ∧
      List.Forall₂ (fun v row => studentRegisterRowSchema rt (some v) = .valid row) students
        rows := by
  unfold registered
  rw [Option.bind_eq_some_iff]
  constructor
  · rintro ⟨institutionId, given, valid⟩
    split at valid
    · rename_i input read
      obtain ⟨⟨-, long⟩, ⟨-, dates⟩, sized, each⟩ := registerBody_eq_valid.mp read
      rw [← Option.some.inj valid]
      exact ⟨⟨institutionId, given, long, dates⟩, sized, each⟩
    · exact absurd valid (by simp)
  · rintro ⟨⟨institutionId, given, long, dates⟩, sized, each⟩
    have read := (@registerBody_eq_valid rt request institutionId students
      ⟨institutionId, stringField request "entryDate", rows⟩).mpr
        ⟨⟨rfl, long⟩, ⟨rfl, dates⟩, sized, each⟩
    refine ⟨institutionId, given, ?_⟩
    rw [read]

/-! ### The column of a field -/

/-- The last column whose header stands for a field. -/
def lastColumn (headers : List String) (target : String) : Option ℕ :=
  (headers.zipIdx.reverse.find? fun header => headerMap.lookup header.1 == some target).map
    Prod.snd

/-- The text of a column in a row. -/
def textAt (record : List String) (column : ℕ) : String :=
  Text.trim (record.getD column "")

/-- What a row shows of a field. -/
def shown (headers record : List String) (target : String) : Option String :=
  (lastColumn headers target).map (textAt record)

theorem get?_setField (fs : List (String × Json)) (key : String) (value : Json) (k : String) :
    (Json.obj (RateLimit.setField fs key value)).get? k =
      if k = key then some value else (Json.obj fs).get? k := by
  have read : ∀ fields : List (String × Json), (Json.obj fields).get? k = fields.lookup k := by
    intro fields
    induction fields with
    | nil => rfl
    | cons field fields ih =>
      rw [RateLimit.lookup_cons_eq, ← ih]
      unfold Json.get?
      by_cases here : field.1 = k
      · simp [here]
      · simp [here, Ne.symm here]
  rw [read, read, RateLimit.lookup_setField]

/-- **A row shows each field** from the last of its columns. -/
theorem get?_mapRecord (headers record : List String) (target : String) :
    (mapRecord headers record).get? target = (shown headers record target).map .str := by
  unfold mapRecord
  rw [FirstMatch.read_foldl _ (fun row => (Json.obj row).get? target)
    (fun header => headerMap.lookup header.1 == some target)
    (fun header => Json.str (textAt record header.2))]
  · unfold shown lastColumn
    rw [Option.map_map, Option.map_map]
    exact Option.or_none
  · intro row header
    cases found : headerMap.lookup header.1 with
    | none => simp
    | some field =>
      dsimp only
      rw [get?_setField]
      by_cases same : target = field
      · simp [same, textAt]
      · simp [same, Ne.symm same]

/-- The fields of a student. -/
def fieldNames : List String :=
  ["fullName", "dateOfBirth", "studentNumber", "level", "programme", "phone"]

theorem mem_fieldNames {header target : String} (stands : headerMap.lookup header = some target) :
    target ∈ fieldNames := by
  obtain ⟨before, after, is, -⟩ := List.lookup_eq_some_iff.mp stands
  have all : ∀ entry ∈ headerMap, entry.2 ∈ fieldNames := by decide
  exact all (header, target) (by rw [is]; simp)

/-- What a student row has in a field. -/
def fieldOf (row : StudentRegisterRow) (target : String) : Option String :=
  if target = "fullName" then some row.fullName
  else if target = "dateOfBirth" then some row.dateOfBirth
  else if target = "studentNumber" then some row.studentNumber
  else if target = "level" then some row.level
  else if target = "programme" then some row.programme
  else row.phone

/-- **What is read of a student** is what it shows. -/
theorem get?_of_valid {rt : Runtime} {fs : List (String × Json)} {row : StudentRegisterRow}
    (read : studentRegisterRowSchema rt (some (.obj fs)) = .valid row) {target : String}
    (named : target ∈ fieldNames) :
    (Json.obj fs).get? target = (fieldOf row target).map .str := by
  obtain ⟨⟨name, -⟩, ⟨born, -⟩, ⟨number, -⟩, ⟨level, -⟩, ⟨programme, -⟩, phone⟩ :=
    studentRow_eq_valid.mp read
  simp only [fieldNames, List.mem_cons, List.not_mem_nil, or_false] at named
  rcases named with rfl | rfl | rfl | rfl | rfl | rfl
  · exact name
  · exact born
  · exact number
  · exact level
  · exact programme
  · exact phone

/-- Students who show the same are read alike. -/
theorem studentRow_congr {rt : Runtime} {fs gs : List (String × Json)}
    (same : ∀ target ∈ fieldNames, (Json.obj fs).get? target = (Json.obj gs).get? target)
    (row : StudentRegisterRow) :
    studentRegisterRowSchema rt (some (.obj fs)) = .valid row ↔
      studentRegisterRowSchema rt (some (.obj gs)) = .valid row := by
  rw [studentRow_eq_valid, studentRow_eq_valid, same "fullName" (by decide),
    same "dateOfBirth" (by decide), same "studentNumber" (by decide), same "level" (by decide),
    same "programme" (by decide), same "phone" (by decide)]

/-! ### Registers -/

section Registers

variable {rt : Runtime} {request other : Json} {ι : Type} {data : List ι} {f g : ι → Json}

/-- The requests name the same institution and entry date. -/
def SameFields (request other : Json) : Prop :=
  stringField request "institutionId" = stringField other "institutionId" ∧
    stringField request "entryDate" = stringField other "entryDate"

theorem fieldsFit_congr (same : SameFields request other) :
    FieldsFit rt request ↔ FieldsFit rt other := by
  unfold FieldsFit
  rw [same.1, same.2]

/-- **The rows of a register** are those of its students, one by one. -/
theorem registered_map_eq_some {rows : List StudentRegisterRow} :
    registered rt request (data.map f) = some rows ↔ FieldsFit rt request ∧
      (1 ≤ data.length ∧ data.length ≤ 500) ∧
      List.Forall₂ (fun d row => studentRegisterRowSchema rt (some (f d)) = .valid row) data
        rows := by
  have some_rows : Schema.minItems 1 (data.map f) = none ↔ 1 ≤ data.length := by
    unfold Schema.minItems
    rw [List.length_map]
    by_cases few : data.length < 1
    · simp [few]
    · simp [few, Nat.le_of_not_lt few]
  have few_rows : Schema.maxItems 500 (data.map f) = none ↔ data.length ≤ 500 := by
    unfold Schema.maxItems
    rw [List.length_map]
    by_cases many : 500 < data.length
    · simp [many]
    · simp [many, Nat.le_of_not_lt many]
  rw [registered_eq_some, some_rows, few_rows, List.forall₂_map_left_iff]

/-- Students make a register when each of them is read. -/
theorem exists_registered_iff :
    (∃ rows, registered rt request (data.map f) = some rows) ↔ FieldsFit rt request ∧
      (1 ≤ data.length ∧ data.length ≤ 500) ∧
      ∀ d ∈ data, ∃ row, studentRegisterRowSchema rt (some (f d)) = .valid row := by
  simp only [registered_map_eq_some, exists_and_left, exists_forall₂]

/-- **Students who are read alike make the same register.** -/
theorem registered_congr (same : SameFields request other)
    (alike : ∀ d ∈ data, ∀ row, studentRegisterRowSchema rt (some (f d)) = .valid row ↔
      studentRegisterRowSchema rt (some (g d)) = .valid row) :
    registered rt request (data.map f) = registered rt other (data.map g) := by
  have each : ∀ (ds : List ι) (rows : List StudentRegisterRow), (∀ d ∈ ds, d ∈ data) →
      (List.Forall₂ (fun d row => studentRegisterRowSchema rt (some (f d)) = .valid row) ds rows ↔
        List.Forall₂ (fun d row => studentRegisterRowSchema rt (some (g d)) = .valid row) ds
          rows) := by
    intro ds
    induction ds with
    | nil => simp
    | cons d ds ih =>
      intro rows inside
      rw [List.forall₂_cons_left_iff, List.forall₂_cons_left_iff]
      refine exists_congr fun row => exists_congr fun rest => ?_
      rw [alike d (inside d (List.mem_cons_self ..)) row,
        ih rest fun e later => inside e (List.mem_cons_of_mem _ later)]
  apply Option.ext
  intro rows
  rw [registered_map_eq_some, registered_map_eq_some, fieldsFit_congr same,
    each data rows fun _ inside => inside]

/-- The students of two registers with the same rows have the same row each. -/
theorem row_of_registered {rows : List StudentRegisterRow}
    (first : registered rt request (data.map f) = some rows)
    (second : registered rt other (data.map g) = some rows) :
    ∀ d ∈ data, ∃ row, studentRegisterRowSchema rt (some (f d)) = .valid row ∧
      studentRegisterRowSchema rt (some (g d)) = .valid row := by
  obtain ⟨-, -, left⟩ := registered_map_eq_some.mp first
  obtain ⟨-, -, right⟩ := registered_map_eq_some.mp second
  clear first second
  induction left with
  | nil => exact fun d inside => absurd inside List.not_mem_nil
  | @cons d row ds rows here _ ih =>
    obtain ⟨also, rest⟩ := List.forall₂_cons.mp right
    intro e inside
    rcases List.mem_cons.mp inside with rfl | later
    · exact ⟨row, here, also⟩
    · exact ih rest e later

end Registers

/-! ### The rows of an upload -/

/-- **Every text is a table of records** without blank ones. -/
theorem exists_recordsOf (text : String) : ∃ tokens, csvRecords text = recordsOf tokens := by
  rcases QuotedTable.exists_tokens csv text.toList with
    ⟨tokens, proper, printed⟩ | ⟨tokens, content, proper, printed⟩
  · exact ⟨tokens, csvRecords_print proper printed⟩
  · exact ⟨_, csvRecords_printOpen proper printed⟩

/-- The rows of an upload are those that the schema reads from what is parsed. -/
theorem acceptedRows_of_parse {rt : Runtime} {up : UploadRuntime} {request : Json}
    {students : Except ServiceError (List Json)} {format : UploadFormat}
    {fileName : Option String} {rows : List StudentRegisterRow}
    (is : parseStudentUpload rt up request = (do
      let institutionId ← orThrow (stringField request "institutionId")
        (.nonRetryable "Bulk upload file is missing institutionId.")
      let listed ← students
      let input ← validate rt up (registerBody request institutionId listed)
      return ⟨input, format, fileName, listed.length⟩)) :
    acceptedRows rt up request = some rows ↔
      ∃ listed, students = .ok listed ∧ registered rt request listed = some rows := by
  unfold acceptedRows
  rw [is]
  constructor
  · intro accepted
    obtain ⟨parsed, went, same⟩ := of_toOption accepted
    obtain ⟨institutionId, named, rest⟩ := bind_eq_ok.mp went
    obtain ⟨listed, read, rest⟩ := bind_eq_ok.mp rest
    obtain ⟨input, valid, rest⟩ := bind_eq_ok.mp rest
    obtain rfl := pure_eq_ok.mp rest
    refine ⟨listed, read, Option.bind_eq_some_iff.mpr ⟨institutionId, orThrow_eq_ok.mp named, ?_⟩⟩
    rw [validate_eq_ok.mp valid]
    exact congrArg some same
  · rintro ⟨listed, rfl, found⟩
    obtain ⟨institutionId, named, read⟩ := Option.bind_eq_some_iff.mp found
    split at read
    · rename_i input valid
      have went : parseStudentUpload rt up request =
          .ok ⟨input, format, fileName, listed.length⟩ := by
        rw [is]
        refine bind_eq_ok.mpr ⟨institutionId, orThrow_eq_ok.mpr named, ?_⟩
        refine bind_eq_ok.mpr ⟨listed, rfl, ?_⟩
        exact bind_eq_ok.mpr ⟨input, validate_eq_ok.mpr valid, rfl⟩
      rw [← is, went]
      exact read
    · exact absurd read (by simp)

/-- **The rows of a CSV upload** are those of the students under its header. -/
theorem acceptedRows_csv {rt : Runtime} {up : UploadRuntime} {request : Json} {text : String}
    (carries : CarriesCsv rt up request text) {rows : List StudentRegisterRow} :
    acceptedRows rt up request = some rows ↔ 2 ≤ (csvRecords text).length ∧
      registered rt request (studentsOf rt (csvRecords text)) = some rows := by
  obtain ⟨tokens, read⟩ := exists_recordsOf text
  rw [acceptedRows_of_parse (parseStudentUpload_csv carries), read, parseCsv, read]
  constructor
  · rintro ⟨listed, parsed, found⟩
    obtain ⟨enough, rfl⟩ := parseRecords_eq_ok.mp parsed
    exact ⟨enough, found⟩
  · rintro ⟨enough, found⟩
    exact ⟨_, parseRecords_eq_ok.mpr ⟨enough, rfl⟩, found⟩

/-- A table fits a register when the schema reads its students. -/
theorem fitsRegister_iff {rt : Runtime} {request : Json} {records : List (List String)} :
    FitsRegister rt request records ↔ 2 ≤ records.length ∧
      ∃ rows, registered rt request (studentsOf rt records) = some rows := by
  unfold FitsRegister registered
  refine and_congr_right fun _ => ?_
  constructor
  · rintro ⟨institutionId, input, named, valid⟩
    refine ⟨input.rows, Option.bind_eq_some_iff.mpr ⟨institutionId, named, ?_⟩⟩
    rw [valid]
  · rintro ⟨rows, found⟩
    obtain ⟨institutionId, named, read⟩ := Option.bind_eq_some_iff.mp found
    split at read
    · rename_i input valid
      exact ⟨institutionId, input, named, valid⟩
    · exact absurd read (by simp)

/-- A CSV upload is accepted when its records fit a register. -/
theorem fitsRegister_iff_accepted {rt : Runtime} {up : UploadRuntime} {request : Json}
    {text : String} (carries : CarriesCsv rt up request text) :
    FitsRegister rt request (csvRecords text) ↔ ∃ rows, acceptedRows rt up request = some rows := by
  simp only [acceptedRows_csv carries, fitsRegister_iff, exists_and_left]

/-! ### Columns in another order -/

section Order

/-- A record with its columns in another order. -/
def permute (order : List ℕ) (record : List String) : List String :=
  order.map fun column => record.getD column ""

variable {rt : Runtime} {order : List ℕ} {width : ℕ}

/-- The headers of a table. -/
def headersOf (rt : Runtime) (records : List (List String)) : List String :=
  (records.headD []).map (normaliseHeader rt)

theorem studentsOf_eq (rt : Runtime) (records : List (List String)) :
    studentsOf rt records = records.tail.map (mapRecord (headersOf rt records)) := by
  unfold studentsOf headersOf
  rw [List.drop_one]

/-- A header that is blank stands for no field. -/
theorem lookup_blank (lowers : rt.LowersAscii) :
    headerMap.lookup (normaliseHeader rt "") = none := by
  have empty : normaliseHeader rt "" = "" := by
    show rt.toLowerCase "" = ""
    rw [lowers.eq (by decide)]
    rfl
  rw [empty]
  decide

/-- The last column of a field is one whose header stands for it. -/
theorem lookup_lastColumn {headers : List String} {target : String} {column : ℕ}
    (last : lastColumn headers target = some column) :
    ∃ header, headers[column]? = some header ∧ headerMap.lookup header = some target := by
  obtain ⟨entry, found, rfl⟩ := Option.map_eq_some_iff.mp last
  have stands := List.find?_some found
  have inside := List.mem_reverse.mp (List.mem_of_find?_eq_some found)
  exact ⟨entry.1, List.mem_zipIdx_iff_getElem?.mp inside, by simpa using stands⟩

theorem isSome_lastColumn {headers : List String} {target : String} :
    (lastColumn headers target).isSome ↔
      ∃ header ∈ headers, headerMap.lookup header = some target := by
  unfold lastColumn
  rw [Option.isSome_map, List.find?_isSome]
  constructor
  · rintro ⟨entry, inside, stands⟩
    exact ⟨entry.1, List.fst_mem_of_mem_zipIdx (List.mem_reverse.mp inside), by simpa using stands⟩
  · rintro ⟨header, inside, stands⟩
    rw [← List.zipIdx_map_fst 0 headers] at inside
    obtain ⟨entry, placed, rfl⟩ := List.mem_map.mp inside
    exact ⟨entry, List.mem_reverse.mpr placed, by simpa using stands⟩

/-- The order keeps every column. -/
theorem isSome_lastColumn_permute (lowers : rt.LowersAscii)
    (all : order.Perm (List.range width)) {header : List String} (narrow : header.length ≤ width)
    (target : String) :
    (lastColumn ((permute order header).map (normaliseHeader rt)) target).isSome ↔
      (lastColumn (header.map (normaliseHeader rt)) target).isSome := by
  rw [isSome_lastColumn, isSome_lastColumn]
  constructor
  · rintro ⟨name, inside, stands⟩
    obtain ⟨text, listed, rfl⟩ := List.mem_map.mp inside
    obtain ⟨column, -, rfl⟩ := List.mem_map.mp listed
    by_cases there : column < header.length
    · refine ⟨_, List.mem_map_of_mem (List.getElem_mem there), ?_⟩
      rwa [List.getD_eq_getElem _ _ there] at stands
    · rw [List.getD_eq_default _ _ (Nat.le_of_not_lt there), lookup_blank lowers] at stands
      exact absurd stands (by simp)
  · rintro ⟨name, inside, stands⟩
    obtain ⟨text, listed, rfl⟩ := List.mem_map.mp inside
    obtain ⟨column, there, rfl⟩ := List.getElem_of_mem listed
    have kept : column ∈ order :=
      all.mem_iff.mpr (List.mem_range.mpr (there.trans_le narrow))
    refine ⟨_, List.mem_map_of_mem (List.mem_map_of_mem kept), ?_⟩
    rwa [List.getD_eq_getElem _ _ there]

/-- **The columns that are read before and after have the same texts** in every row of the table. -/
def ReadsAlike (rt : Runtime) (order : List ℕ) (records : List (List String)) : Prop :=
  ∀ target before after,
    lastColumn (headersOf rt records) target = some before →
    lastColumn (headersOf rt (records.map (permute order))) target = some after →
      ∀ record ∈ records.tail, textAt record before = textAt record (order.getD after 0)

theorem textAt_permute {record : List String} {column : ℕ} (inside : column < order.length) :
    textAt (permute order record) column = textAt record (order.getD column 0) := by
  unfold textAt permute
  rw [List.getD_eq_getElem _ _ (by rwa [List.length_map]), List.getElem_map,
    List.getD_eq_getElem _ _ inside]

/-- The headers of a table with its columns in another order. -/
theorem headersOf_permute (header : List String) (rest : List (List String)) :
    headersOf rt ((header :: rest).map (permute order)) =
      (permute order header).map (normaliseHeader rt) := rfl

/-- A field is shown alike when its columns have the same text. -/
theorem shown_permute_iff (lowers : rt.LowersAscii) (all : order.Perm (List.range width))
    {header : List String} (narrow : header.length ≤ width) {record : List String}
    {target : String} :
    shown (header.map (normaliseHeader rt)) record target =
        shown ((permute order header).map (normaliseHeader rt)) (permute order record) target ↔
      ∀ before after, lastColumn (header.map (normaliseHeader rt)) target = some before →
        lastColumn ((permute order header).map (normaliseHeader rt)) target = some after →
          textAt record before = textAt record (order.getD after 0) := by
  have there := isSome_lastColumn_permute lowers all narrow target
  unfold shown
  cases first : lastColumn (header.map (normaliseHeader rt)) target with
  | none =>
    cases second : lastColumn ((permute order header).map (normaliseHeader rt)) target with
    | none => simp
    | some after => exact absurd (there.mp (by rw [second]; rfl)) (by simp [first])
  | some before =>
    cases second : lastColumn ((permute order header).map (normaliseHeader rt)) target with
    | none => exact absurd (there.mpr (by rw [first]; rfl)) (by simp [second])
    | some after =>
      obtain ⟨name, placed, -⟩ := lookup_lastColumn second
      have inside : after < order.length := by
        have bound := (List.getElem?_eq_some_iff.mp placed).1
        rwa [List.length_map, permute, List.length_map] at bound
      rw [Option.map_some, Option.map_some, Option.some_inj, textAt_permute inside]
      constructor
      · intro same column moved isBefore isAfter
        rw [← Option.some.inj isBefore, ← Option.some.inj isAfter]
        exact same
      · exact fun same => same before after rfl rfl

/-- The rows of a table and of the one with its columns in another order. -/
theorem acceptedRows_permute {up : UploadRuntime} {request other : Json} {text permuted : String}
    (carries : CarriesCsv rt up request text) (also : CarriesCsv rt up other permuted)
    {header : List String} {rest : List (List String)} (read : csvRecords text = header :: rest)
    (moved : csvRecords permuted = (csvRecords text).map (permute order))
    {rows : List StudentRegisterRow} :
    (acceptedRows rt up request = some rows ↔ 2 ≤ (csvRecords text).length ∧
      registered rt request (rest.map (mapRecord (header.map (normaliseHeader rt)))) =
        some rows) ∧
    (acceptedRows rt up other = some rows ↔ 2 ≤ (csvRecords text).length ∧
      registered rt other (rest.map fun record =>
        mapRecord ((permute order header).map (normaliseHeader rt)) (permute order record)) =
          some rows) := by
  rw [acceptedRows_csv carries, acceptedRows_csv also, moved, List.length_map, read,
    studentsOf_eq, studentsOf_eq, headersOf_permute, List.map_cons, List.tail_cons, List.tail_cons,
    List.map_map]
  exact ⟨Iff.rfl, Iff.rfl⟩

theorem str_injective : Function.Injective Json.str :=
  fun _ _ => Json.str.inj

/-- Registers with the same rows read the same texts. -/
theorem readsAlike_of_registered (lowers : rt.LowersAscii) (all : order.Perm (List.range width))
    {request other : Json} {header : List String} {rest : List (List String)}
    (narrow : header.length ≤ width) {rows : List StudentRegisterRow}
    (first : registered rt request (rest.map (mapRecord (header.map (normaliseHeader rt)))) =
      some rows)
    (second : registered rt other (rest.map fun record =>
      mapRecord ((permute order header).map (normaliseHeader rt)) (permute order record)) =
        some rows) : ReadsAlike rt order (header :: rest) := by
  intro target before after isBefore isAfter record inside
  obtain ⟨row, here, there⟩ := row_of_registered first second record inside
  obtain ⟨name, -, stands⟩ := lookup_lastColumn isBefore
  have left := (get?_mapRecord _ _ _).symm.trans (get?_of_valid here (mem_fieldNames stands))
  have right := (get?_mapRecord _ _ _).symm.trans (get?_of_valid there (mem_fieldNames stands))
  have alike := Option.map_injective str_injective (left.trans right.symm)
  exact (shown_permute_iff lowers all narrow).mp alike before after isBefore isAfter

/-- Registers that read the same texts are the same. -/
theorem registered_of_readsAlike (lowers : rt.LowersAscii) {request other : Json}
    (same : SameFields request other) (all : order.Perm (List.range width))
    {header : List String} {rest : List (List String)} (narrow : header.length ≤ width)
    (alike : ReadsAlike rt order (header :: rest)) :
    registered rt request (rest.map (mapRecord (header.map (normaliseHeader rt)))) =
      registered rt other (rest.map fun record =>
        mapRecord ((permute order header).map (normaliseHeader rt)) (permute order record)) := by
  refine registered_congr same fun record inside => studentRow_congr fun target _ => ?_
  refine (get?_mapRecord _ _ _).trans (Eq.trans ?_ (get?_mapRecord _ _ _).symm)
  rw [(shown_permute_iff lowers all narrow).mpr fun before after isBefore isAfter =>
    alike target before after isBefore isAfter record inside]

/-- **An upload with its columns in another order** gives the same student rows, or is rejected like
the first one, exactly when the columns read before and after have the same texts, or neither table
fits a register. -/
theorem columns_iff {up : UploadRuntime} {request other : Json} {text permuted : String}
    (lowers : rt.LowersAscii) (carries : CarriesCsv rt up request text)
    (also : CarriesCsv rt up other permuted) (same : SameFields request other)
    (all : order.Perm (List.range width))
    (narrow : ∀ record ∈ csvRecords text, record.length ≤ width)
    (moved : csvRecords permuted = (csvRecords text).map (permute order)) :
    acceptedRows rt up request = acceptedRows rt up other ↔
      ReadsAlike rt order (csvRecords text) ∨
        ¬ FitsRegister rt request (csvRecords text) ∧
          ¬ FitsRegister rt other (csvRecords permuted) := by
  have fits := fitsRegister_iff_accepted carries
  have fits' := fitsRegister_iff_accepted also
  cases read : csvRecords text with
  | nil =>
    have none : ∀ rows, acceptedRows rt up request ≠ some rows := by
      intro rows accepted
      have enough := (acceptedRows_csv carries).mp accepted |>.1
      rw [read] at enough
      exact absurd enough (by simp)
    have none' : ∀ rows, acceptedRows rt up other ≠ some rows := by
      intro rows accepted
      have enough := (acceptedRows_csv also).mp accepted |>.1
      rw [moved, read] at enough
      exact absurd enough (by simp)
    refine ⟨fun _ => .inl fun _ _ _ _ _ record inside => absurd inside (by simp), fun _ => ?_⟩
    rw [Option.eq_none_iff_forall_ne_some.mpr none, Option.eq_none_iff_forall_ne_some.mpr none']
  | cons header rest =>
    have narrowHeader : header.length ≤ width := narrow header (by rw [read]; simp)
    rw [read] at fits
    constructor
    · intro equal
      by_cases rejected : acceptedRows rt up request = none
      · refine .inr ⟨?_, ?_⟩
        · rw [fits, rejected]
          simp
        · rw [fits', ← equal, rejected]
          simp
      · obtain ⟨rows, accepted⟩ := Option.ne_none_iff_exists'.mp rejected
        obtain ⟨-, first⟩ := (acceptedRows_permute carries also read moved).1.mp accepted
        obtain ⟨-, second⟩ :=
          (acceptedRows_permute carries also read moved).2.mp (equal ▸ accepted)
        exact .inl (readsAlike_of_registered lowers all narrowHeader first second)
    · rintro (alike | ⟨rejected, rejected'⟩)
      · apply Option.ext
        intro rows
        rw [(acceptedRows_permute carries also read moved).1,
          (acceptedRows_permute carries also read moved).2,
          registered_of_readsAlike lowers same all narrowHeader alike]
      · rw [fits] at rejected
        rw [fits'] at rejected'
        rw [Option.eq_none_iff_forall_ne_some.mpr fun rows is => rejected ⟨rows, is⟩,
          Option.eq_none_iff_forall_ne_some.mpr fun rows is => rejected' ⟨rows, is⟩]

/-- No two headers stand for one field. -/
def Single (headers : List String) : Prop :=
  ∀ a ∈ headers.zipIdx, ∀ b ∈ headers.zipIdx, (headerMap.lookup a.1).isSome →
    headerMap.lookup a.1 = headerMap.lookup b.1 → a.2 = b.2

instance (headers : List String) : Decidable (Single headers) := by
  unfold Single
  infer_instance

/-- **Where each field has one column**, every order of the columns reads it. -/
theorem readsAlike_of_single (lowers : rt.LowersAscii) {header : List String}
    {rest : List (List String)} (single : Single (header.map (normaliseHeader rt))) :
    ReadsAlike rt order (header :: rest) := by
  intro target before after isBefore isAfter record _
  obtain ⟨name, placed, stands⟩ := lookup_lastColumn isBefore
  obtain ⟨name', placed', stands'⟩ := lookup_lastColumn isAfter
  rw [headersOf_permute, List.getElem?_map, permute, List.getElem?_map, Option.map_map,
    Option.map_eq_some_iff] at placed'
  obtain ⟨column, kept, is⟩ := placed'
  rw [List.getD_eq_getElem?_getD, kept, Option.getD_some]
  by_cases there : column < header.length
  · have named : normaliseHeader rt header[column] = name' := by
      rw [← is, Function.comp_apply, List.getD_eq_getElem _ _ there]
    have also : (header.map (normaliseHeader rt))[column]? = some name' := by
      rw [List.getElem?_map, List.getElem?_eq_getElem there, Option.map_some, named]
    have same : before = column :=
      single (name, before) (List.mem_zipIdx_iff_getElem?.mpr placed) (name', column)
        (List.mem_zipIdx_iff_getElem?.mpr also) (by rw [stands]; rfl) (stands.trans stands'.symm)
    rw [same]
  · rw [← is, Function.comp_apply, List.getD_eq_default _ _ (Nat.le_of_not_lt there),
      lookup_blank lowers] at stands'
    exact absurd stands' (by simp)

/-- A row of cells with its columns in another order. -/
def permuteCells (order : List ℕ) (row : List (List Char)) : List (List Char) :=
  order.map fun column => row.getD column []

theorem record_permuteCells (all : order.Perm (List.range width)) {row : List (List Char)}
    (narrow : row.length ≤ width) :
    record (permuteCells order row) = (record row).map (permute order) := by
  let cells : List String := row.map fun cell => Text.trim (String.ofList cell)
  have moved : (permuteCells order row).map (fun cell => Text.trim (String.ofList cell)) =
      permute order cells := by
    unfold permuteCells permute
    rw [List.map_map]
    refine List.map_congr_left fun column _ => ?_
    by_cases there : column < row.length
    · rw [Function.comp_apply, List.getD_eq_getElem _ _ there,
        List.getD_eq_getElem _ _ (by rwa [List.length_map]), List.getElem_map]
    · rw [Function.comp_apply, List.getD_eq_default _ _ (Nat.le_of_not_lt there),
        List.getD_eq_default _ _ (by rw [List.length_map]; exact Nat.le_of_not_lt there)]
      decide
  have kept : (permute order cells).any (· != "") = cells.any (· != "") := by
    rw [Bool.eq_iff_iff, List.any_eq_true, List.any_eq_true]
    constructor
    · rintro ⟨cell, inside, written⟩
      obtain ⟨column, -, rfl⟩ := List.mem_map.mp inside
      by_cases there : column < cells.length
      · rw [List.getD_eq_getElem _ _ there] at written
        exact ⟨_, List.getElem_mem there, written⟩
      · rw [List.getD_eq_default _ _ (Nat.le_of_not_lt there)] at written
        exact absurd written (by decide)
    · rintro ⟨cell, inside, written⟩
      obtain ⟨column, there, rfl⟩ := List.getElem_of_mem inside
      have bound : column < width := by
        have short := there
        rw [List.length_map] at short
        exact short.trans_le narrow
      refine ⟨_, List.mem_map_of_mem (all.mem_iff.mpr (List.mem_range.mpr bound)), ?_⟩
      rwa [List.getD_eq_getElem _ _ there]
  unfold record
  dsimp only
  rw [moved, kept]
  by_cases some : cells.any (· != "") = true
  · rw [if_pos some, if_pos some]
    rfl
  · rw [if_neg some, if_neg some]
    rfl

/-- **A text whose table has its columns in another order** has the records of the first text with
theirs in that order, however either is written. -/
theorem csvRecords_permute (all : order.Perm (List.range width))
    {tokens others : List (QuotedTable.Token Char)} {text permuted : String}
    (proper : QuotedTable.Proper csv tokens) (also : QuotedTable.Proper csv others)
    (printed : text.toList = QuotedTable.print csv tokens)
    (printed' : permuted.toList = QuotedTable.print csv others)
    (narrow : ∀ row ∈ QuotedTable.tableOf tokens, row.length ≤ width)
    (moved : QuotedTable.tableOf others = (QuotedTable.tableOf tokens).map (permuteCells order)) :
    csvRecords permuted = (csvRecords text).map (permute order) := by
  rw [csvRecords_print proper printed, csvRecords_print also printed', recordsOf, recordsOf, moved,
    List.filterMap_map, List.map_filterMap]
  exact List.filterMap_congr fun row inside => record_permuteCells all (narrow row inside)

end Order

/-! ### A class and a level -/

theorem sameFields_csvRequest (text other : String) :
    SameFields (csvRequest text) (csvRequest other) := by
  simp [SameFields, stringField, csvRequest, Json.get?, asString]

/-- A table as a text. -/
def tableText (table : List (List String)) : String :=
  encode (fun _ => .lf) none table

/-- A register with a column for the class. -/
def withClass : List (List String) :=
  [["name", "dob", "school_id", "class", "track"], ["Ada", "2010-01-01", "S1", "J1", "Art"]]

/-- The same with the date of birth first. -/
def datesFirst : List (List String) :=
  [["dob", "name", "school_id", "class", "track"], ["2010-01-01", "Ada", "S1", "J1", "Art"]]

/-- A register with a class, and a level that is blank. -/
def blankLevel : List (List String) :=
  [["name", "dob", "school_id", "class", "level", "track"],
    ["Ada", "2010-01-01", "S1", "J1", "", "Art"]]

/-- The same with the level before the class. -/
def levelFirst : List (List String) :=
  [["name", "dob", "school_id", "level", "class", "track"],
    ["Ada", "2010-01-01", "S1", "", "J1", "Art"]]

theorem records_tableText {table : List (List String)}
    (trimmed : ∀ row ∈ table, ∀ cell ∈ row, Text.Trimmed cell)
    (written : ∀ row ∈ table, ∃ cell ∈ row, cell ≠ "") : csvRecords (tableText table) = table :=
  csvRecords_encode table _ none trimmed written

/-- The registers above. -/
def registers : List (List (List String)) :=
  [withClass, datesFirst, blankLevel, levelFirst]

/-- No register has a blank around a cell, or around its text. -/
theorem trimmed_registers :
    (∀ table ∈ registers, ∀ row ∈ table, ∀ cell ∈ row, Text.Trimmed cell) ∧
      ∀ table ∈ registers, Text.Trimmed (tableText table) := by
  constructor
  · decide
  · intro table listed
    refine Text.trimmed_of_chars (by rw [tableText, encode, String.toList_ofList]) ?_
    revert table
    decide

theorem records_withClass : csvRecords (tableText withClass) = withClass :=
  records_tableText (trimmed_registers.1 _ (by simp [registers])) (by decide)

theorem records_datesFirst : csvRecords (tableText datesFirst) = datesFirst :=
  records_tableText (trimmed_registers.1 _ (by simp [registers])) (by decide)

theorem records_blankLevel : csvRecords (tableText blankLevel) = blankLevel :=
  records_tableText (trimmed_registers.1 _ (by simp [registers])) (by decide)

theorem records_levelFirst : csvRecords (tableText levelFirst) = levelFirst :=
  records_tableText (trimmed_registers.1 _ (by simp [registers])) (by decide)

/-- A register is read as the table that it is. -/
theorem carries_register {table : List (List String)} (listed : table ∈ registers)
    (records : csvRecords (tableText table) = table) :
    CarriesCsv .plain .plain (csvRequest (tableText table)) (tableText table) := by
  refine carries_csvRequest _ _ (trimmed_registers.2 table listed) fun empty => ?_
  rw [empty] at records
  subst records
  revert listed
  decide

/-- **The date of birth may come first.** -/
theorem columns_iff_dates :
    acceptedRows .plain .plain (csvRequest (tableText withClass)) =
      acceptedRows .plain .plain (csvRequest (tableText datesFirst)) := by
  have carries := carries_register (by simp [registers]) records_withClass
  have also := carries_register (by simp [registers]) records_datesFirst
  have moved : csvRecords (tableText datesFirst) =
      (csvRecords (tableText withClass)).map (permute [1, 0, 2, 3, 4]) := by
    rw [records_withClass, records_datesFirst]
    rfl
  refine (columns_iff Runtime.plain_lowersAscii carries also (sameFields_csvRequest _ _)
    (show [1, 0, 2, 3, 4].Perm (List.range 5) by decide) ?_ moved).mpr (.inl ?_)
  · rw [records_withClass]
    decide
  · rw [records_withClass]
    exact readsAlike_of_single Runtime.plain_lowersAscii (by decide)

/-- With the level last, the student has none. -/
theorem registered_blankLevel :
    (registered .plain (csvRequest (tableText blankLevel)) (studentsOf .plain blankLevel)).isSome =
      false := by
  decide

/-- With the class last, it is the level. -/
theorem registered_levelFirst :
    (registered .plain (csvRequest (tableText levelFirst)) (studentsOf .plain levelFirst)).isSome =
      true := by
  decide

/-- **A blank level hides the class**: with the level last the upload is rejected, with the class
last it is accepted. -/
theorem columns_fails :
    ¬ ∀ (rt : Runtime) (up : UploadRuntime) (request other : Json) (text permuted : String)
      (order : List ℕ) (width : ℕ), rt.LowersAscii → CarriesCsv rt up request text →
        CarriesCsv rt up other permuted → SameFields request other →
        order.Perm (List.range width) → (∀ record ∈ csvRecords text, record.length ≤ width) →
        csvRecords permuted = (csvRecords text).map (permute order) →
          acceptedRows rt up request = acceptedRows rt up other := by
  intro all
  have carries := carries_register (by simp [registers]) records_blankLevel
  have also := carries_register (by simp [registers]) records_levelFirst
  have narrow : ∀ record ∈ csvRecords (tableText blankLevel), record.length ≤ 6 := by
    rw [records_blankLevel]
    decide
  have moved : csvRecords (tableText levelFirst) =
      (csvRecords (tableText blankLevel)).map (permute [0, 1, 2, 4, 3, 5]) := by
    rw [records_blankLevel, records_levelFirst]
    rfl
  have same := all _ _ _ _ _ _ [0, 1, 2, 4, 3, 5] 6 Runtime.plain_lowersAscii carries also
    (sameFields_csvRequest _ _) (by decide) narrow moved
  obtain ⟨rows, found⟩ := Option.isSome_iff_exists.mp registered_levelFirst
  have accepted := (acceptedRows_csv also).mpr ⟨by rw [records_levelFirst]; decide,
    by rw [records_levelFirst]; exact found⟩
  obtain ⟨-, read⟩ := (acceptedRows_csv carries).mp (same.trans accepted)
  have refused := registered_blankLevel
  rw [records_blankLevel] at read
  rw [read] at refused
  exact absurd refused (by simp)

end AcadID.RegisterColumns
