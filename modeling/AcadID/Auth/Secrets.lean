/-
**Passwords, authenticator codes and access tokens.**

* `PasswordService` — a hash carries its salt.
* `TotpService.verifyCode` — the code of the half minute, the one before or the one after.
* `TokenService.sign` and `TokenService.verify` — a token is its header, its payload and a signature
  of both.
-/

import AcadID.Lib.Bits
import AcadID.Platform.Runtime

namespace AcadID

open Lib

/-! ### Passwords -/

namespace PasswordService

def hash (rt : Runtime) (salt password : String) : String :=
  "scrypt:" ++ salt ++ ":" ++ rt.scrypt password salt

def verify (rt : Runtime) (password encodedHash : String) : Bool :=
  match Text.splitOn ':' encodedHash with
  | scheme :: salt :: expectedHash :: _ =>
    if scheme ≠ "scrypt" ∨ salt = "" ∨ expectedHash = "" then false
    else Text.bytesOfHex (rt.scrypt password salt).toList == Text.bytesOfHex expectedHash.toList
  | _ => false

end PasswordService

/-! ### Authenticator codes -/

namespace TotpService

def alphabet : List Char :=
  "ABCDEFGHIJKLMNOPQRSTUVWXYZ234567".toList

/-- The secret of the random bytes `randomBytes(20)`: a letter for each five of their bits. -/
def createSecret (bytes : List UInt8) : String :=
  let bits := bytes.flatMap fun byte => Bits.digits 8 byte.toNat
  String.ofList ((Bits.groups 5 bits).map fun chunk => alphabet.getD (Bits.value chunk) 'A')

def decryptSecret (rt : Runtime) (encoded : String) : Except ServiceError String :=
  match Text.splitOn ':' encoded with
  | version :: iv :: tag :: encrypted :: _ =>
    if version ≠ "v1" ∨ iv = "" ∨ tag = "" ∨ encrypted = "" then
      .error (.error "Invalid TOTP secret encoding.")
    else orThrow (rt.decipher iv tag encrypted)
      (.error "Unsupported state or unable to authenticate data")
  | _ => .error (.error "Invalid TOTP secret encoding.")

def decodeBase32 (rt : Runtime) (secret : String) : Except ServiceError (List ℕ) := do
  let clean := ((rt.toUpperCase secret).toList.reverse.dropWhile (· == '=')).reverse
  let bits ← clean.mapM fun char =>
    if alphabet.contains char then .ok (Text.fiveBits (alphabet.idxOf char))
    else .error (.error "Invalid base32 secret.")
  return Text.bytesOfBits bits.flatten

/-- A number in eight bytes, the highest first. -/
def counterBuffer (counter : ℤ) : List ℕ :=
  (List.range 8).map fun i => counter.toNat / 256 ^ (7 - i) % 256

def generateCode (rt : Runtime) (secret : String) (counter : ℤ) : Except ServiceError String := do
  let key ← decodeBase32 rt secret
  require (0 ≤ counter) .rangeError
  let hmac := rt.hmacSha1 key (counterBuffer counter)
  let offset := hmac.getLastD 0 % 16
  let binary := (hmac.getD offset 0 % 128) * 2 ^ 24 + hmac.getD (offset + 1) 0 * 2 ^ 16 +
    hmac.getD (offset + 2) 0 * 2 ^ 8 + hmac.getD (offset + 3) 0
  return Text.padStart 6 (binary % 1000000)

def verifyCode (rt : Runtime) (now : Time) (secret code : String) : Except ServiceError Bool := do
  let normalized := code.toList.filter fun c => !Text.isSpace c
  if Text.matchesClasses (Text.repeatClass 6 Char.isDigit) normalized then
    let codes ← [-1, 0, 1].mapM fun offset => generateCode rt secret (now / 30000 + offset)
    return codes.contains (String.ofList normalized)
  else return false

end TotpService

/-! ### Access tokens -/

namespace TokenService

def defaultTokenTtlSeconds : ℤ := 60 * 60 * 8

def productionApiTokenTtlSeconds : ℤ := 60 * 60

def sandboxApiTokenTtlSeconds : ℤ := 60 * 60 * 24

def secret (rt : Runtime) : String :=
  match rt.env "JWT_SECRET" with
  | none => "local-development-secret-change-before-pilot"
  | some value =>
    if value = "" ∨ value = "replace-with-local-development-secret" then
      "local-development-secret-change-before-pilot"
    else value

def signature (rt : Runtime) (value : String) : String :=
  rt.hmacSha256 (secret rt) value

def encode (rt : Runtime) (value : Json) : String :=
  Text.base64Url (String.ofList (value.stringify rt.format))

/-- The payload with the times it is issued and expires at, in seconds. -/
def tokenPayload (now : Time) (payload : List (String × Option Json)) (ttlSeconds : ℤ) : Json :=
  Json.fields (payload ++
    [("iat", some (.num (now / 1000 : ℤ))), ("exp", some (.num (now / 1000 + ttlSeconds : ℤ)))])

def sign (rt : Runtime) (now : Time) (payload : List (String × Option Json)) (ttlSeconds : ℤ) :
    String :=
  let encodedHeader := encode rt (.obj [("alg", .str "HS256"), ("typ", .str "JWT")])
  let encodedPayload := encode rt (tokenPayload now payload ttlSeconds)
  let input := encodedHeader ++ "." ++ encodedPayload
  input ++ "." ++ signature rt input

/-- A field of a payload is there and truthy. -/
def has (payload : Json) (field : String) : Bool :=
  (payload.get? field).any Json.truthy

def verify (rt : Runtime) (now : Time) (token : String) : Except ServiceError Json :=
  match Text.splitOn '.' token with
  | encodedHeader :: encodedPayload :: given :: _ => do
    require (!(encodedHeader == "" || encodedPayload == "" || given == ""))
      (.unauthorized "Invalid bearer token.")
    require (given == signature rt (encodedHeader ++ "." ++ encodedPayload))
      (.unauthorized "Invalid bearer token.")
    let payload ← orThrow (rt.parseJson (rt.decodeBase64Url encodedPayload))
      (.unauthorized "Invalid bearer token.")
    require (has payload "sub" && has payload "email" && has payload "role" && has payload "exp")
      (.unauthorized "Invalid bearer token.")
    -- What passes its own signature has a number there.
    let expired := match payload.get? "exp" with
      | some (.num exp) => decide (exp < ((now / 1000 : ℤ) : ℚ))
      | _ => false
    require (!expired) (.unauthorized "Bearer token expired.")
    return payload
  | _ => .error (.unauthorized "Invalid bearer token.")

end TokenService

end AcadID
