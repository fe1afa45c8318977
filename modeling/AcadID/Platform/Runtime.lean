/-
**What every service shares: the runtime it runs on, its actors and its errors.**

* `Runtime` — the functions of the JavaScript runtime, of Node's crypto and of the schema library
  that the services call, as parameters; `isUuidV15` and `canonicalJson` are the source's
  own.
* `AuthTokenPayload` — the authenticated actor; `ServiceError` — what a service throws.
* `Signed` and `sign` — a credential payload and its detached signature.
-/

import AcadID.Lib.Async
import AcadID.Lib.Canonical
import AcadID.Lib.Schema
import Mathlib.Data.Char
import Mathlib.Data.List.Lex

namespace AcadID

open Lib

/-- A database id. -/
abbrev Uuid := String

/-- Milliseconds since the first of January 1970. -/
abbrev Time := ℤ

/-- The functions of the runtime and its libraries that the services call. -/
structure Runtime where
  format : NumberFormat
  /-- `left.localeCompare(right) <= 0` -/
  localeLe : String → String → Bool
  toUpperCase : String → String
  toLowerCase : String → String
  /-- `new Date(text).getTime()`, unless it is `NaN`. -/
  parseDate : String → Option Time
  /-- `Number(text)`, where it is finite. -/
  toNumber : String → Option ℚ
  /-- `Number.parseInt(text, 10)`, unless it is `NaN`. -/
  parseInt : String → Option ℤ
  /-- `JSON.parse(text)`, unless it throws. -/
  parseJson : String → Option Json
  /-- The SHA-256 digest of a text, in hexadecimal. -/
  sha256 : String → String
  /-- The HMAC-SHA-512 of a text under a secret, in hexadecimal. -/
  hmacSha512 : String → String → String
  /-- The Ed25519 signature of a text under the configured key, in base64url. -/
  ed25519 : String → String
  /-- Whether a text in base64url is a signature of another under the configured key. -/
  ed25519Verify : String → String → Bool
  verificationMethod : String
  /-- The HMAC-SHA-256 of a text under a secret, in base64url. -/
  hmacSha256 : String → String → String
  /-- The HMAC-SHA-1 of some bytes under a key. -/
  hmacSha1 : List ℕ → List ℕ → List ℕ
  /-- The text that a base64url text encodes. -/
  decodeBase64Url : String → String
  /-- `scryptSync(password, salt, 64)`, in hexadecimal. -/
  scrypt : String → String → String
  /-- What AES-256-GCM under the configured key makes of an `iv`, a tag and a ciphertext, unless it
  throws. -/
  decipher : String → String → String → Option String
  /-- The string formats of the schema library: `uuid`, `email`, `datetime` and `date`. -/
  isUuid : String → Bool
  isEmail : String → Bool
  isDatetime : String → Bool
  isDate : String → Bool
  /-- `process.env` -/
  env : String → Option String

/-- The UUID pattern that `AuthorityService`, the worker and the webhook test. -/
def isUuidV15 (value : String) : Bool :=
  Text.matchesClasses
    (Text.repeatClass 8 Text.isHex ++ [(· == '-')] ++ Text.repeatClass 4 Text.isHex ++ [(· == '-')] ++
      [fun c => '1' ≤ c && c ≤ '5'] ++ Text.repeatClass 3 Text.isHex ++ [(· == '-')] ++
      [['8', '9', 'a', 'b', 'A', 'B'].contains] ++ Text.repeatClass 3 Text.isHex ++
      [(· == '-')] ++ Text.repeatClass 12 Text.isHex)
    value.toList

/-- Groups of 8, 4, 4, 4 and 12 hexadecimal digits. -/
def isUuidText (value : String) : Bool :=
  let group := fun n => [(· == '-')] ++ Text.repeatClass n Text.isHex
  Text.matchesClasses (Text.repeatClass 8 Text.isHex ++ group 4 ++ group 4 ++ group 4 ++ group 12)
    value.toList

/-- ASCII letters in lower case, for an order that looks at the case of a letter last. -/
def foldCase (s : String) : List ℕ :=
  s.toList.map fun c => c.toLower.toNat

/-- A runtime to evaluate on: ASCII letters change case and sort as they do in the runtime, no
text is a date or a number, and digests and signatures are their inputs, marked. -/
def Runtime.plain : Runtime where
  format := .plain
  localeLe a b := decide (foldCase a < foldCase b ∨ foldCase a = foldCase b ∧ b.toList ≤ a.toList)
  toUpperCase s := String.ofList (s.toList.map Char.toUpper)
  toLowerCase s := String.ofList (s.toList.map Char.toLower)
  parseDate _ := none
  toNumber _ := none
  parseInt _ := none
  parseJson _ := none
  sha256 s := "sha256:" ++ s
  hmacSha512 secret s := "hmac:" ++ secret ++ ":" ++ s
  ed25519 s := "ed25519-" ++ Text.base64Url s
  ed25519Verify s signature := signature == "ed25519-" ++ Text.base64Url s
  verificationMethod := "did:web:localhost:acadid#dev-ed25519"
  hmacSha256 secret s := Text.base64Url ("hmac:" ++ secret ++ ":" ++ s)
  hmacSha1 _ _ := List.replicate 20 0
  decodeBase64Url s := s
  scrypt password salt := Text.hexOf (Text.bytesOf (salt ++ ":" ++ password))
  decipher _ _ encrypted := some encrypted
  isUuid := isUuidText
  isEmail _ := true
  isDatetime _ := true
  isDate _ := true
  env _ := none

/-- As in JavaScript, `toLowerCase` changes the case of ASCII letters one by one. -/
def Runtime.LowersAscii (rt : Runtime) : Prop :=
  ∀ text : String, (∀ c ∈ text.toList, c.toNat < 128) →
    rt.toLowerCase text = String.ofList (text.toList.map Char.toLower)

theorem Runtime.plain_lowersAscii : Runtime.plain.LowersAscii := fun _ _ => rfl

theorem Runtime.LowersAscii.eq {rt : Runtime} (lowers : rt.LowersAscii) {text : String}
    (ascii : text.toList.all (fun c => decide (c.toNat < 128)) = true) :
    rt.toLowerCase text = String.ofList (text.toList.map Char.toLower) :=
  lowers text fun c here => of_decide_eq_true (List.all_eq_true.mp ascii c here)

/-- As in JavaScript, `toUpperCase` changes the case of ASCII letters one by one. -/
def Runtime.UppersAscii (rt : Runtime) : Prop :=
  ∀ text : String, (∀ c ∈ text.toList, c.toNat < 128) →
    rt.toUpperCase text = String.ofList (text.toList.map Char.toUpper)

theorem Runtime.plain_uppersAscii : Runtime.plain.UppersAscii := fun _ _ => rfl

/-! ### Actors -/

inductive UserRole where
  | acadidSuperAdmin
  | registrar
  | examOfficer
  | dataEntryOfficer
  | departmentalOfficer
  | readOnly
  | student
  | guardian
  | verifier
  deriving DecidableEq, Repr

def UserRole.name : UserRole → String
  | .acadidSuperAdmin => "ACADID_SUPER_ADMIN"
  | .registrar => "REGISTRAR"
  | .examOfficer => "EXAM_OFFICER"
  | .dataEntryOfficer => "DATA_ENTRY_OFFICER"
  | .departmentalOfficer => "DEPARTMENTAL_OFFICER"
  | .readOnly => "READ_ONLY"
  | .student => "STUDENT"
  | .guardian => "GUARDIAN"
  | .verifier => "VERIFIER"

inductive ActorKind where
  | user
  | apiKey
  deriving DecidableEq, Repr

def ActorKind.name : ActorKind → String
  | .user => "USER"
  | .apiKey => "API_KEY"

/-- The actor of a request, as its access token describes it. -/
structure AuthTokenPayload where
  sub : Uuid
  email : String
  fullName : String
  role : UserRole
  kind : Option ActorKind
  learnerId : Option Uuid
  institutionId : Option String
  institutionUuid : Option Uuid
  institutionUserId : Option Uuid
  assignedScopes : Option Json
  apiKeyId : Option String
  clientId : Option String
  productCode : Option String

namespace AuthTokenPayload

def isApiKey (auth : AuthTokenPayload) : Bool :=
  auth.kind == some .apiKey

/-- The `actorId` that services write to the audit log. -/
def actorId (auth : AuthTokenPayload) : Option Uuid :=
  if auth.isApiKey then none else some auth.sub

/-- The `actorRole` that services write to the audit log. -/
def actorRole (auth : AuthTokenPayload) : Option UserRole :=
  if auth.isApiKey then none else some auth.role

end AuthTokenPayload

/-! ### Errors -/

/-- What a service throws. -/
inductive ServiceError where
  | badRequest (message : String)
  /-- The issues of a body that does not parse. -/
  | invalidBody (issues : List Issue)
  | badRequestWith (message : String) (details : List (String × Json))
  | forbidden (message : String)
  | conflict (message : String)
  | unauthorized (message : String)
  | serviceUnavailable (message : String)
  | tooManyRequests (details : List (String × Json))
  /-- A job error after which the job is not retried. -/
  | nonRetryable (message : String)
  | error (message : String)
  | rangeError
  /-- A unique constraint refused the write. -/
  | uniqueViolation
  /-- The row to update is not there. -/
  | recordNotFound
  /-- Any other failed call to the database. -/
  | database
  deriving DecidableEq

/-- The `message` of a thrown error. -/
def ServiceError.message : ServiceError → String
  | .badRequest message | .badRequestWith message _ | .forbidden message | .conflict message
  | .unauthorized message | .serviceUnavailable message | .nonRetryable message
  | .error message => message
  | .tooManyRequests _ => "Rate limit exceeded."
  | .invalidBody _ => "Bad Request Exception"
  | .rangeError => "Invalid time value"
  | .uniqueViolation => "Unique constraint failed"
  | .recordNotFound => "An operation failed because it depends on one or more records that were required but not found."
  | .database => "Database error"

/-- The value of an optional, or an error. -/
def orThrow {α : Type} (value : Option α) (e : ServiceError) : Except ServiceError α :=
  match value with
  | some a => .ok a
  | none => .error e

/-- An error unless the condition holds. -/
def require (condition : Bool) (e : ServiceError) : Except ServiceError Unit :=
  if condition then .ok () else .error e

theorem require_eq_ok {condition : Bool} {e : ServiceError} {u : Unit} :
    require condition e = .ok u ↔ condition = true := by
  unfold require
  by_cases holds : condition = true
  · simp [holds]
  · simp [holds]

theorem orThrow_eq_ok {α : Type} {value : Option α} {e : ServiceError} {a : α} :
    orThrow value e = .ok a ↔ value = some a := by
  unfold orThrow
  cases value <;> simp

/-- The body through its schema, or the issues thrown. -/
def parseBody {α : Type} (schema : Schema α) (body : Json) : Except ServiceError α :=
  match schema (some body) with
  | .valid a => .ok a
  | .issues found => .error (.invalidBody found)

theorem parseBody_eq_ok {α : Type} {schema : Schema α} {body : Json} {a : α} :
    parseBody schema body = .ok a ↔ schema (some body) = .valid a := by
  unfold parseBody
  split <;> simp_all

/-! ### Credential signatures -/

/-- The UTF-16 code units of a string. -/
def codeUnits (s : String) : List ℕ :=
  s.toList.flatMap fun c =>
    if c.toNat < 0x10000 then [c.toNat]
    else [0xD800 + (c.toNat - 0x10000) / 0x400, 0xDC00 + (c.toNat - 0x10000) % 0x400]

/-- The order in which `Array.prototype.sort` puts strings. -/
def codeUnitLe (a b : String) : Bool :=
  decide (codeUnits a ≤ codeUnits b)

/-- The text of a value, every object rebuilt from its fields with the keys sorted by code units. -/
def canonicalJson (rt : Runtime) (value : Json) : String :=
  String.ofList (value.rebuild (fun a b => codeUnitLe a b) |>.stringify rt.format)

/-- A signed payload and the proof that goes with it. -/
structure Signed where
  payload : Json
  signature : String
  proof : Json

/-- `Ed25519CredentialSigner.sign`. -/
def sign (rt : Runtime) (now : Time) (payload : Json) : Signed :=
  let header : Json := .obj
    [("alg", .str "EdDSA"), ("b64", .bool true), ("crit", .arr [.str "b64"]),
      ("kid", .str rt.verificationMethod), ("typ", .str "vc+ld+jws")]
  let encodedHeader := Text.base64Url (String.ofList (header.stringify rt.format))
  let signingInput := encodedHeader ++ "." ++ Text.base64Url (canonicalJson rt payload)
  let jws := signingInput ++ "." ++ rt.ed25519 signingInput
  { payload := payload
    signature := jws
    proof := .obj
      [("type", .str "JsonWebSignature2020"), ("proofPurpose", .str "assertionMethod"),
        ("created", .str (Text.toISOString now)),
        ("verificationMethod", .str rt.verificationMethod), ("jws", .str jws)] }

/-- The payload with its proof, as it is stored. -/
def Signed.stored (signed : Signed) : Json :=
  match signed.payload with
  | .obj fs => .obj (fs.filter (fun f => f.1 ≠ "proof") ++ [("proof", signed.proof)])
  | _ => .obj [("proof", signed.proof)]

end AcadID
