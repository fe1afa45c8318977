/-
**A recovery code, as it is shown and as it is typed again.**

* `createRecoveryCode` — the code that ten random bytes give: their base64url text without dashes
  and underscores, in three groups.
* `rotateRecoveryCodes` — the codes of an account replaced by ten new ones; `rotated_rows` — what is
  stored of each.
* `Retyped` — a text with the characters of a code, the letters in either case, and white space and
  dashes anywhere.
* `readsBack_iff` — **a code has three groups of four and is read back however it is typed** exactly
  when at most two characters of the base64url text are dashes or underscores.
-/

import AcadID.Auth.Login
import AcadID.Auth.SecretText
import AcadID.Gateway.Ingestion

namespace AcadID.RecoveryCodeText

open Lib Login

/-! ### The code -/

/-- `Buffer.toString("base64url")` of ten bytes. -/
def base64Url (bytes : Vector UInt8 10) : List Char :=
  (Text.sextets (bytes.toList.map UInt8.toNat)).map Text.base64UrlChar

/-- What the code is cut from: the letters and digits, in upper case, at most twelve of them. -/
def codeChars (rt : Runtime) (bytes : Vector UInt8 10) : List Char :=
  (rt.toUpperCase (String.ofList ((base64Url bytes).filter Text.isAlphanumeric))).toList.take 12

def createRecoveryCode (rt : Runtime) (bytes : Vector UInt8 10) : String :=
  let value := codeChars rt bytes
  String.ofList (value.take 4) ++ "-" ++ String.ofList ((value.drop 4).take 4) ++ "-" ++
    String.ofList ((value.drop 8).take 4)

/-! ### Rotating the codes -/

/-- What the runtime and the database give a code. -/
structure CodeDraw where
  bytes : Vector UInt8 10
  salt : String
  uuid : Uuid

structure RotateEnv where
  now : Time
  draws : Vector CodeDraw 10

def newRow (rt : Runtime) (userId : Uuid) (draw : CodeDraw) : MfaRecoveryCode where
  uuid := draw.uuid
  userId := userId
  codeHash := PasswordService.hash rt draw.salt
    (normalizeRecoveryCode rt (some (createRecoveryCode rt draw.bytes)))
  usedAt := none

def assertFounderAuth (auth : AuthTokenPayload) : Except ServiceError Unit :=
  require (!(auth.isApiKey || auth.role != .acadidSuperAdmin))
    (.unauthorized "Only the AcadID founder admin can manage founder MFA.")

/-- The account, once the authenticator code is accepted. -/
def rotateCheck (rt : Runtime) (now : Time) (auth : AuthTokenPayload) (code : Option String)
    (s : Store) : Except ServiceError User := do
  let enabled := (s.users.find? auth.sub).filter fun user =>
    user.mfaEnabled && (user.totpSecretEncrypted.filter (· ≠ "")).isSome
  let user ← orThrow enabled
    (.unauthorized "Enable founder TOTP before generating recovery codes.")
  let refused := ServiceError.unauthorized
    "Valid authenticator code is required to rotate recovery codes."
  let code ← orThrow (code.filter (· ≠ "")) refused
  let secret ← TotpService.decryptSecret rt (user.totpSecretEncrypted.getD "")
  let verified ← TotpService.verifyCode rt now secret code
  require verified refused
  return user

/-- `deleteMany` and `createMany` in one transaction. -/
def rotateCommit (rt : Runtime) (env : RotateEnv) (userId : Uuid) (s : Store) :
    Except ServiceError (Unit × Store) := do
  let mfaRecoveryCodes ← Ingestion.insertAll
    (s.mfaRecoveryCodes.filter fun row => row.userId != userId)
    (env.draws.toList.map (newRow rt userId))
  return ((), { s with mfaRecoveryCodes := mfaRecoveryCodes })

def rotateAudit (auth : AuthTokenPayload) (count : ℕ) : AuditEvent where
  actorType := inferActorType none (some auth.sub)
  actorId := some auth.sub
  actorRole := some auth.role
  action := "founder_mfa.recovery_codes.rotate"
  targetType := "User"
  targetId := some auth.sub
  institutionId := none
  outcome := "SUCCESS"
  reason := none
  metadata := .obj [("count", .num count)]

/-- The codes that are shown. -/
def rotateRecoveryCodes (rt : Runtime) (env : RotateEnv) (auth : AuthTokenPayload)
    (code : Option String) : Db (List String) := do
  Async.ofExcept (assertFounderAuth auth)
  let user ← Db.read (rotateCheck rt env.now auth code)
  let recoveryCodes := env.draws.toList.map fun draw => createRecoveryCode rt draw.bytes
  Db.transaction (rotateCommit rt env user.uuid)
  Db.audit (rotateAudit auth recoveryCodes.length)
  return recoveryCodes

/-- The codes are shown, and stored in a row each; no other row of the account is left. -/
def Rotated (rt : Runtime) (env : RotateEnv) (userId : Uuid)
    (result : Except ServiceError (List String)) (t : Store) : Prop :=
  ∀ codes, result = .ok codes →
    codes = env.draws.toList.map (fun draw => createRecoveryCode rt draw.bytes) ∧
      t.mfaRecoveryCodes.rows.filter (·.userId == userId) = env.draws.toList.map (newRow rt userId)

theorem rotateCommit_rows {rt : Runtime} {env : RotateEnv} {userId : Uuid} {s t : Store}
    {u : Unit} (committed : rotateCommit rt env userId s = .ok (u, t)) :
    t.mfaRecoveryCodes.rows.filter (·.userId == userId) =
      env.draws.toList.map (newRow rt userId) := by
  obtain ⟨table, inserted, same⟩ := bind_eq_ok.mp committed
  obtain ⟨-, rfl⟩ := Prod.mk.inj (pure_eq_ok.mp same)
  show table.rows.filter _ = _
  rw [Ingestion.mem_of_insertAll inserted, List.filter_append, Table.rows_filter,
    List.filter_filter, List.filter_eq_nil_iff.mpr (by simp), List.nil_append,
    List.filter_eq_self.mpr]
  intro row listed
  obtain ⟨draw, -, rfl⟩ := List.mem_map.mp listed
  exact beq_self_eq_true userId

/-- **What is stored once the codes are shown.** -/
theorem rotated_rows (rt : Runtime) (env : RotateEnv) (auth : AuthTokenPayload)
    (code : Option String) (s : Store) :
    (rotateRecoveryCodes rt env auth code).Ensures s (Rotated rt env auth.sub) := by
  have threw : ∀ (e : ServiceError) (t : Store), Rotated rt env auth.sub (.error e) t :=
    fun e t codes is => absurd is (by simp)
  unfold rotateRecoveryCodes
  cases assertFounderAuth auth with
  | error e => exact Async.ensures_bind (Async.ensures_throw (threw e s))
  | ok founder =>
    refine Async.ensures_bind (Async.ensures_pure ?_)
    refine Async.ensures_bind (Async.ensures_query (threw .database s) ?_)
    cases checked : rotateCheck rt env.now auth code s with
    | error e => exact threw e s
    | ok user =>
      obtain ⟨found, looked, rest⟩ := bind_eq_ok.mp checked
      obtain ⟨_, -, rest⟩ := bind_eq_ok.mp rest
      obtain ⟨_, -, rest⟩ := bind_eq_ok.mp rest
      obtain ⟨_, -, rest⟩ := bind_eq_ok.mp rest
      obtain ⟨_, -, same⟩ := bind_eq_ok.mp rest
      rw [pure_eq_ok] at same
      subst same
      have there := (Option.filter_eq_some_iff.mp (orThrow_eq_ok.mp looked)).1
      have own : found.uuid = auth.sub := Table.find?_key there
      refine Async.ensures_bind
        (Async.ensures_transaction (threw .database s) (fun e _ => threw e s) ?_)
      intro _ t committed
      rw [own] at committed
      refine Async.ensures_bind (Db.ensures_audit (threw .database t) ?_)
      have rows := rotateCommit_rows committed
      exact Async.ensures_pure fun codes is => ⟨(Except.ok.inj is).symm, rows⟩

/-! ### What is typed -/

/-- The hyphen, the Unicode dashes and the minus sign. -/
def isDash (c : Char) : Bool :=
  c.toNat ∈ [0x2D, 0x58A, 0x5BE, 0x1400, 0x1806, 0x2010, 0x2011, 0x2012, 0x2013, 0x2014, 0x2015,
    0x2212, 0x2E17, 0x2E1A, 0x2E3A, 0x2E3B, 0x2E40, 0x2E5D, 0x301C, 0x3030, 0x30A0, 0xFE31, 0xFE32,
    0xFE58, 0xFE63, 0xFF0D, 0x10D6E, 0x10EAD]

def isSeparator (c : Char) : Bool :=
  Text.isSpace c || isDash c

/-- The characters of a text that are neither white space nor dashes. -/
def typedChars (text : String) : List Char :=
  text.toList.filter (!isSeparator ·)

/-- The characters of a code, the letters in either case, and white space and dashes anywhere. -/
def Retyped (code text : String) : Prop :=
  (typedChars text).map Char.toUpper = typedChars code

instance (code text : String) : Decidable (Retyped code text) :=
  inferInstanceAs (Decidable (_ = _))

/-- As in JavaScript, `toUpperCase` changes the case of ASCII letters one by one, and leaves white
space and dashes as they are. -/
def UppersTyped (rt : Runtime) : Prop :=
  ∀ text : String, (∀ c ∈ text.toList, c.toNat < 128 ∨ isSeparator c = true) →
    rt.toUpperCase text = String.ofList (text.toList.map Char.toUpper)

theorem plain_uppersTyped : UppersTyped Runtime.plain := fun _ _ => rfl

theorem ascii_of_isCodeChar {c : Char} (is : isCodeChar c = true) : c.toNat < 128 := by
  rcases Bool.or_eq_true_iff.mp is with letter | digit
  · have le : c ≤ 'Z' := of_decide_eq_true (Bool.and_eq_true_iff.mp letter).2
    exact lt_of_le_of_lt (UInt32.le_iff_toNat_le.mp le) (by decide)
  · have le : c.val ≤ '9'.val := of_decide_eq_true (Bool.and_eq_true_iff.mp digit).2
    exact lt_of_le_of_lt (UInt32.le_iff_toNat_le.mp le) (by decide)

theorem isCodeChar_ascii :
    ∀ n < 128, isSeparator (Char.ofNat n) = true → isCodeChar (Char.ofNat n).toUpper = false := by
  decide

/-- A separator is no character of a code. -/
theorem isCodeChar_of_isSeparator {c : Char} (separator : isSeparator c = true) :
    isCodeChar c.toUpper = false := by
  by_contra code
  have ascii := TotpService.ascii_of_toUpper (ascii_of_isCodeChar (Bool.eq_true_of_not_eq_false code))
  have apart := isCodeChar_ascii c.toNat ascii
  rw [Char.ofNat_toNat] at apart
  exact code (apart separator)

/-- Trimming takes nothing away but white space. -/
theorem filter_dropWhile {p q : Char → Bool} (apart : ∀ c, p c = true → q c = false)
    (cs : List Char) : (cs.dropWhile p).filter q = cs.filter q := by
  induction cs with
  | nil => rfl
  | cons c cs ih =>
    by_cases dropped : p c = true
    · rw [List.dropWhile_cons_of_pos dropped, ih, List.filter_cons_of_neg (by simp [apart c dropped])]
    · rw [List.dropWhile_cons_of_neg dropped]

theorem typedChars_trim (text : String) : typedChars (Text.trim text) = typedChars text := by
  have apart : ∀ c, Text.isSpace c = true → (!isSeparator c) = false := by
    intro c space
    simp [isSeparator, space]
  unfold typedChars Text.trim
  rw [String.toList_ofList, List.filter_reverse, filter_dropWhile apart, List.filter_reverse,
    List.reverse_reverse, filter_dropWhile apart]

/-! ### The characters of a code -/

theorem length_sextets (bytes : List ℕ) :
    (Text.sextets bytes).length = (4 * bytes.length + 2) / 3 := by
  fun_induction Text.sextets bytes with
  | case1 a b c rest ih =>
    simp only [List.length_cons, ih]
    omega
  | case2 a b => simp
  | case3 a => simp
  | case4 => simp

/-- How many groups of six bits are written as a dash or an underscore. -/
def marks (bytes : Vector UInt8 10) : ℕ :=
  (Text.sextets (bytes.toList.map UInt8.toNat)).countP (62 ≤ ·)

/-- The letters and digits of the base64url text. -/
def kept (bytes : Vector UInt8 10) : List Char :=
  (base64Url bytes).filter Text.isAlphanumeric

theorem isAlphanumeric_base64UrlChar :
    ∀ n < 64, Text.isAlphanumeric (Text.base64UrlChar n) = !decide (62 ≤ n) := by
  decide

theorem sextet_lt {bytes : Vector UInt8 10} {n : ℕ}
    (written : n ∈ Text.sextets (bytes.toList.map UInt8.toNat)) : n < 64 := by
  refine Text.sextets_lt (fun b inside => ?_) n written
  obtain ⟨byte, -, rfl⟩ := List.mem_map.mp inside
  exact byte.toNat_lt

/-- **The text has fourteen characters**, of which the dashes and underscores are dropped. -/
theorem length_kept (bytes : Vector UInt8 10) : (kept bytes).length + marks bytes = 14 := by
  have total : (Text.sextets (bytes.toList.map UInt8.toNat)).length = 14 := by
    rw [length_sextets, List.length_map, Vector.length_toList]
  have letters : (kept bytes).length = (Text.sextets (bytes.toList.map UInt8.toNat)).countP
      (fun n => !decide (62 ≤ n)) := by
    unfold kept base64Url
    rw [← List.countP_eq_length_filter, List.countP_map]
    refine List.countP_congr fun n written => ?_
    rw [Function.comp_apply, isAlphanumeric_base64UrlChar n (sextet_lt written)]
  have parts := List.length_eq_countP_add_countP (fun n => decide (62 ≤ n))
    (l := Text.sextets (bytes.toList.map UInt8.toNat))
  rw [letters, ← total, parts, add_comm]
  simp only [marks, decide_not, Bool.not_eq_true, decide_eq_false_iff_not]

/-- A character of a code, in upper case. -/
def isPlain (c : Char) : Bool :=
  isCodeChar c && Text.isAlphanumeric c && !isSeparator c && c.toUpper == c

theorem isPlain_iff {c : Char} : isPlain c = true ↔ isCodeChar c = true ∧
    Text.isAlphanumeric c = true ∧ isSeparator c = false ∧ c.toUpper = c := by
  simp [isPlain, and_assoc]

theorem isPlain_base64UrlChar :
    ∀ n < 62, isPlain (Text.base64UrlChar n).toUpper = true ∧
      (Text.base64UrlChar n).toNat < 128 := by
  decide

theorem plain_of_mem_kept {bytes : Vector UInt8 10} {c : Char} (inside : c ∈ kept bytes) :
    isPlain c.toUpper = true ∧ c.toNat < 128 := by
  obtain ⟨written, letter⟩ := List.mem_filter.mp inside
  obtain ⟨n, listed, rfl⟩ := List.mem_map.mp written
  rw [isAlphanumeric_base64UrlChar n (sextet_lt listed)] at letter
  exact isPlain_base64UrlChar n (by simpa using letter)

section Code

variable {rt : Runtime} (uppers : UppersTyped rt) (bytes : Vector UInt8 10)

include uppers

theorem codeChars_eq : codeChars rt bytes = ((kept bytes).map Char.toUpper).take 12 := by
  unfold codeChars
  rw [uppers, String.toList_ofList, String.toList_ofList]
  · rfl
  · intro c written
    rw [String.toList_ofList] at written
    exact .inl (plain_of_mem_kept written).2

theorem length_codeChars : (codeChars rt bytes).length = min 12 (14 - marks bytes) := by
  have letters := length_kept bytes
  rw [codeChars_eq uppers, List.length_take, List.length_map]
  omega

theorem plain_of_mem_codeChars {c : Char} (inside : c ∈ codeChars rt bytes) :
    isCodeChar c = true ∧ Text.isAlphanumeric c = true ∧ isSeparator c = false ∧ c.toUpper = c := by
  rw [codeChars_eq uppers] at inside
  obtain ⟨letter, written, rfl⟩ := List.mem_map.mp (List.mem_of_mem_take inside)
  exact isPlain_iff.mp (plain_of_mem_kept written).1

/-- The three groups are all there is of the characters. -/
theorem groups_eq : (codeChars rt bytes).take 4 ++ ((codeChars rt bytes).drop 4).take 4 ++
    ((codeChars rt bytes).drop 8).take 4 = codeChars rt bytes := by
  have short : ((codeChars rt bytes).drop 8).length ≤ 4 := by
    rw [List.length_drop, length_codeChars uppers]
    omega
  have last : (codeChars rt bytes).drop 8 = ((codeChars rt bytes).drop 4).drop 4 := by
    rw [List.drop_drop]
  rw [List.take_of_length_le short, last, List.append_assoc, List.take_append_drop,
    List.take_append_drop]

end Code

theorem toList_createRecoveryCode (rt : Runtime) (bytes : Vector UInt8 10) :
    (createRecoveryCode rt bytes).toList = (codeChars rt bytes).take 4 ++
      '-' :: (((codeChars rt bytes).drop 4).take 4 ++ '-' :: ((codeChars rt bytes).drop 8).take 4) := by
  unfold createRecoveryCode
  simp only [String.toList_append, String.toList_ofList]
  simp

section ReadBack

variable {rt : Runtime} (uppers : UppersTyped rt) {bytes : Vector UInt8 10}

include uppers

/-- What is typed of a code, once the dashes are gone. -/
theorem typedChars_createRecoveryCode :
    typedChars (createRecoveryCode rt bytes) = codeChars rt bytes := by
  have dash : (!isSeparator '-') = false := by decide
  have letters : ∀ cs : List Char, (∀ c ∈ cs, c ∈ codeChars rt bytes) →
      cs.filter (!isSeparator ·) = cs := by
    intro cs inside
    refine List.filter_eq_self.mpr fun c here => ?_
    obtain ⟨-, -, plain, -⟩ := plain_of_mem_codeChars uppers bytes (inside c here)
    rw [plain]
    rfl
  unfold typedChars
  rw [toList_createRecoveryCode, List.filter_append, List.filter_cons_of_neg (by simp [dash]),
    List.filter_append, List.filter_cons_of_neg (by simp [dash]),
    letters _ fun c here => List.mem_of_mem_take here,
    letters _ fun c here => List.mem_of_mem_drop (List.mem_of_mem_take here),
    letters _ fun c here => List.mem_of_mem_drop (List.mem_of_mem_take here), ← List.append_assoc]
  exact groups_eq uppers bytes

/-- **However a code is typed, it is normalised to its characters.** -/
theorem normalize_of_retyped {text : String}
    (retyped : Retyped (createRecoveryCode rt bytes) text) :
    normalizeRecoveryCode rt (some text) = String.ofList (codeChars rt bytes) := by
  have letters : (typedChars (Text.trim text)).map Char.toUpper = codeChars rt bytes := by
    rw [typedChars_trim, retyped, typedChars_createRecoveryCode uppers]
  -- A character that is typed is a separator, or one of the code.
  have split : ∀ c ∈ (Text.trim text).toList,
      isCodeChar c.toUpper = (!isSeparator c) ∧ (c.toNat < 128 ∨ isSeparator c = true) := by
    intro c typed
    by_cases separator : isSeparator c = true
    · rw [isCodeChar_of_isSeparator separator, separator]
      exact ⟨rfl, .inr rfl⟩
    · have written : c.toUpper ∈ codeChars rt bytes := by
        rw [← letters]
        exact List.mem_map_of_mem (List.mem_filter.mpr ⟨typed, by simpa using separator⟩)
      have code := (plain_of_mem_codeChars uppers bytes written).1
      refine ⟨by rw [code, Bool.eq_false_of_not_eq_true separator]; rfl, .inl ?_⟩
      exact TotpService.ascii_of_toUpper (ascii_of_isCodeChar code)
  unfold normalizeRecoveryCode
  rw [Option.map_some, Option.getD_some, uppers _ fun c typed => (split c typed).2,
    String.toList_ofList, List.filter_map, ← letters]
  refine congrArg (fun cs => String.ofList (List.map Char.toUpper cs)) ?_
  exact List.filter_congr fun c typed => (split c typed).1

/-- A code may be typed as it is shown. -/
theorem retyped_self : Retyped (createRecoveryCode rt bytes) (createRecoveryCode rt bytes) := by
  unfold Retyped
  rw [typedChars_createRecoveryCode uppers]
  refine (List.map_congr_left fun c inside => ?_).trans (List.map_id _)
  exact (plain_of_mem_codeChars uppers bytes inside).2.2.2

end ReadBack

/-! ### The round trip -/

/-- **A code is shown in three groups of four letters and digits, and however it is typed it is
normalised to these twelve characters, whose hash is stored.** -/
def ReadsBack (rt : Runtime) (userId : Uuid) (draw : CodeDraw) : Prop :=
  ∃ first second third : List Char,
    (∀ group ∈ [first, second, third],
      group.length = 4 ∧ ∀ c ∈ group, Text.isAlphanumeric c = true) ∧
    (createRecoveryCode rt draw.bytes).toList = first ++ '-' :: (second ++ '-' :: third) ∧
    (newRow rt userId draw).codeHash =
      PasswordService.hash rt draw.salt (String.ofList (first ++ second ++ third)) ∧
    ∀ text, Retyped (createRecoveryCode rt draw.bytes) text →
      normalizeRecoveryCode rt (some text) = String.ofList (first ++ second ++ third)

section RoundTrip

variable {rt : Runtime} (uppers : UppersTyped rt) (userId : Uuid) {draw : CodeDraw}

include uppers

/-- Two dashes and twelve characters are shown only where at most two are dropped. -/
theorem marks_of_readsBack (reads : ReadsBack rt userId draw) : marks draw.bytes ≤ 2 := by
  obtain ⟨first, second, third, groups, shown, -⟩ := reads
  have long : (createRecoveryCode rt draw.bytes).toList.length = 14 := by
    rw [shown]
    simp [groups first (by simp), groups second (by simp), groups third (by simp)]
  have parts := congrArg List.length (groups_eq uppers draw.bytes)
  have total := length_codeChars uppers draw.bytes
  rw [toList_createRecoveryCode] at long
  simp only [List.length_append, List.length_cons] at long parts
  omega

theorem readsBack_of_marks (few : marks draw.bytes ≤ 2) : ReadsBack rt userId draw := by
  have total := length_codeChars uppers draw.bytes
  refine ⟨(codeChars rt draw.bytes).take 4, ((codeChars rt draw.bytes).drop 4).take 4,
    ((codeChars rt draw.bytes).drop 8).take 4, ?_, toList_createRecoveryCode rt draw.bytes, ?_, ?_⟩
  · simp only [List.forall_mem_cons, List.length_take, List.length_drop]
    refine ⟨⟨by omega, fun c here => ?_⟩, ⟨by omega, fun c here => ?_⟩,
      ⟨by omega, fun c here => ?_⟩, fun _ none => absurd none (by simp)⟩
    · exact (plain_of_mem_codeChars uppers draw.bytes (List.mem_of_mem_take here)).2.1
    · exact (plain_of_mem_codeChars uppers draw.bytes
        (List.mem_of_mem_drop (List.mem_of_mem_take here))).2.1
    · exact (plain_of_mem_codeChars uppers draw.bytes
        (List.mem_of_mem_drop (List.mem_of_mem_take here))).2.1
  · rw [groups_eq uppers, newRow, normalize_of_retyped uppers (retyped_self uppers)]
  · intro text retyped
    rw [groups_eq uppers, normalize_of_retyped uppers retyped]

end RoundTrip

/-- **A code has three groups of four and is read back however it is typed**, exactly when at most
two of the fourteen characters of its base64url text are dashes or underscores. -/
theorem readsBack_iff (rt : Runtime) (uppers : UppersTyped rt) (userId : Uuid) (draw : CodeDraw) :
    ReadsBack rt userId draw ↔ marks draw.bytes ≤ 2 :=
  ⟨marks_of_readsBack uppers userId, readsBack_of_marks uppers userId⟩

def account : Uuid := "50000000-0000-4000-8000-000000000001"

/-- The bytes from 1 to 10. -/
def countingDraw : CodeDraw :=
  ⟨#v[1, 2, 3, 4, 5, 6, 7, 8, 9, 10], "salt", "c0000000-0000-4000-8000-000000000001"⟩

/-- Ten bytes of ones, whose text is thirteen underscores and a letter. -/
def onesDraw : CodeDraw :=
  ⟨Vector.replicate 10 255, "salt", "c0000000-0000-4000-8000-000000000001"⟩

theorem readsBack_countingDraw :
    ReadsBack .plain account countingDraw ↔ marks countingDraw.bytes ≤ 2 :=
  readsBack_iff .plain plain_uppersTyped account countingDraw

/-- **A code may have one character**: what is dropped of the text is missing in the code. -/
theorem readsBack_fails :
    ¬ ∀ (rt : Runtime), UppersTyped rt → ∀ (userId : Uuid) (draw : CodeDraw),
        ReadsBack rt userId draw := by
  intro all
  have few := marks_of_readsBack plain_uppersTyped account
    (all .plain plain_uppersTyped account onesDraw)
  exact absurd few (by decide)

example : createRecoveryCode .plain onesDraw.bytes = "W--" := by decide

end AcadID.RecoveryCodeText
