/-
**The founder's authenticator, from its setup to the logins it opens.**

`setupTotp` gives an account a new secret and turns its second factor off; `enableTotp` checks a
code against the secret it has read, and turns the factor on, whatever the secret is by then.

* `mfaMethods` — the two calls as methods in flight together; `Elsewhere` — whatever else acts on
  the accounts, logins among it.
* `Factor` and `factorOf` — the second factor of an account, as the committed calls have made it;
  `Represents` — a row of the accounts that has it.
* `past_iff` — **in every state of every run, a login gets past the second factor exactly as the
  factor has it**: without a code while it is off, with a code of the secret last shown once it is
  on.
* `enabled_shown` — **a factor that is on has had a code shown of its secret**, in every run in
  which no secret is replaced between the check and the update of `enableTotp`.
-/

import AcadID.Auth.Login
import AcadID.Auth.SecretText
import AcadID.Lib.Journal

namespace AcadID.FounderMfa

open Lib Login

/-! ### The service -/

/-- What AES-256-GCM under the configured key makes of an `iv` and a text: a tag and a ciphertext,
in base64url. -/
abbrev Cipher := String → String → String × String

/-- A part of an encrypted secret. -/
def Word (text : String) : Prop :=
  text ≠ "" ∧ ':' ∉ text.toList

instance (text : String) : Decidable (Word text) :=
  inferInstanceAs (Decidable (_ ∧ _))

/-- What the runtime gives a setup: the bytes of the secret, and an `iv` in base64url. -/
structure SetupEnv where
  bytes : Vector UInt8 20
  iv : String
  ivWord : Word iv

structure SetupCall where
  env : SetupEnv
  auth : AuthTokenPayload

structure SetupPlan where
  env : SetupEnv
  userId : Uuid
  email : String

structure SetupResponse where
  secret : String
  otpauthUrl : String
  mfaEnabled : Bool

structure EnableCall where
  now : Time
  auth : AuthTokenPayload
  code : String

/-- What the checks have read: the secret is the one the code was checked against. -/
structure EnablePlan where
  now : Time
  userId : Uuid
  encrypted : String
  code : String

structure EnableResponse where
  ok : Bool
  mfaEnabled : Bool

def encryptSecret (cipher : Cipher) (iv secret : String) : String :=
  let (tag, encrypted) := cipher iv secret
  "v1:" ++ iv ++ ":" ++ tag ++ ":" ++ encrypted

/-- A text with the bytes of every other character as `%XX`. -/
def percentEncode (plain : Char → Bool) (text : String) : String :=
  String.ofList (text.toList.flatMap fun c =>
    if plain c then [c]
    else (Text.utf8 c).flatMap fun b =>
      ['%', (Nat.digitChar (b / 16)).toUpper, (Nat.digitChar (b % 16)).toUpper])

def encodeURIComponent (text : String) : String :=
  percentEncode (fun c => Text.isAlphanumeric c || "-_.!~*'()".toList.contains c) text

/-- A value in `URLSearchParams.toString()`. -/
def encodeParam (text : String) : String :=
  let encoded := percentEncode (fun c => c == ' ' || Text.isAlphanumeric c ||
    "*-._".toList.contains c) text
  String.ofList (encoded.toList.map fun c => if c = ' ' then '+' else c)

def createOtpAuthUrl (secret accountName : String) : String :=
  let label := encodeURIComponent ("AcadID:" ++ accountName)
  "otpauth://totp/" ++ label ++ "?secret=" ++ encodeParam secret ++
    "&issuer=AcadID&algorithm=SHA1&digits=6&period=30"

def assertFounder (auth : AuthTokenPayload) : Except ServiceError Unit :=
  require (!(auth.isApiKey || auth.role != .acadidSuperAdmin))
    (.unauthorized "Only the AcadID founder admin can configure founder MFA.")

def setupCheck (call : SetupCall) (s : Store) : Except ServiceError SetupPlan := do
  assertFounder call.auth
  let user ← orThrow (s.users.find? call.auth.sub) (.unauthorized "User not found.")
  return {
    env := call.env
    userId := user.uuid
    email := user.email }

/-- An account with a new secret, its second factor off. -/
def renewed (encrypted : String) (user : User) : User :=
  { user with
    totpSecretEncrypted := some encrypted
    mfaEnabled := false }

/-- An account with its second factor on. -/
def enabled (user : User) : User :=
  { user with mfaEnabled := true }

def setupCommit (cipher : Cipher) (plan : SetupPlan) (s : Store) :
    Except ServiceError (SetupResponse × Store) := do
  let secret := TotpService.createSecret plan.env.bytes.toList
  let encrypted := encryptSecret cipher plan.env.iv secret
  let (_, users) ← updateRow s.users plan.userId (renewed encrypted) fun _ => rfl
  return (
    { secret := secret
      otpauthUrl := createOtpAuthUrl secret plan.email
      mfaEnabled := false },
    { s with users := users })

def enableCheck (rt : Runtime) (call : EnableCall) (s : Store) :
    Except ServiceError EnablePlan := do
  assertFounder call.auth
  let started := (s.users.find? call.auth.sub).bind fun user =>
    user.totpSecretEncrypted.filter (· ≠ "")
  let encrypted ← orThrow started (.unauthorized "TOTP setup has not been started.")
  let secret ← TotpService.decryptSecret rt encrypted
  let verified ← TotpService.verifyCode rt call.now secret call.code
  require verified (.unauthorized "Invalid authenticator code.")
  return {
    now := call.now
    userId := call.auth.sub
    encrypted := encrypted
    code := call.code }

def enableCommit (plan : EnablePlan) (s : Store) :
    Except ServiceError (EnableResponse × Store) := do
  let (_, users) ← updateRow s.users plan.userId enabled fun _ => rfl
  return ({ ok := true, mfaEnabled := true }, { s with users := users })

/-- Neither call writes a log entry. -/
def setupTotp (cipher : Cipher) : Method Store ServiceError SetupCall SetupPlan SetupResponse where
  check := setupCheck
  commit := setupCommit cipher
  log _ _ s := s

def enableTotp (rt : Runtime) : Method Store ServiceError EnableCall EnablePlan EnableResponse where
  check := enableCheck rt
  commit := enableCommit
  log _ _ s := s

abbrev MfaCall := SetupCall ⊕ EnableCall
abbrev MfaPlan := SetupPlan ⊕ EnablePlan
abbrev MfaResponse := SetupResponse ⊕ EnableResponse

def mfaMethods (rt : Runtime) (cipher : Cipher) :
    Method Store ServiceError MfaCall MfaPlan MfaResponse :=
  (setupTotp cipher).sum (enableTotp rt)

/-! ### What the second factor is -/

/-- What an account has of its second factor. -/
def mfaColumns (user : User) : Bool × Option String :=
  (user.mfaEnabled, user.totpSecretEncrypted)

/-- Whatever the rest of the system does, it leaves the accounts their second factor. -/
structure Elsewhere where
  act : Store → Store
  keeps : ∀ s, Table.Keeps mfaColumns s.users (act s).users

abbrev MfaJournal := Journal Store MfaPlan MfaResponse

def mfaStep (rt : Runtime) (cipher : Cipher) (j : MfaJournal) (e : Entry MfaCall Elsewhere) :
    MfaJournal :=
  (mfaMethods rt cipher).write Elsewhere.act j e

/-- The second factor of an account: the secret last shown, and whether it is on. -/
structure Factor where
  secret : String
  enabled : Bool
  deriving DecidableEq

/-- What a committed call makes of the factor of an account. -/
def factorAfter (id : Uuid) (factor : Option Factor) : MfaPlan × MfaResponse → Option Factor
  | (.inl plan, .inl res) => if plan.userId = id then some ⟨res.secret, false⟩ else factor
  | (.inr plan, _) =>
    if plan.userId = id then factor.map fun factor => { factor with enabled := true } else factor
  | _ => factor

@[simp] theorem factorAfter_setup (id : Uuid) (factor : Option Factor) (plan : SetupPlan)
    (res : SetupResponse) : factorAfter id factor (.inl plan, .inl res) =
      if plan.userId = id then some ⟨res.secret, false⟩ else factor := rfl

@[simp] theorem factorAfter_enable (id : Uuid) (factor : Option Factor) (plan : EnablePlan)
    (res : MfaResponse) : factorAfter id factor (.inr plan, res) =
      if plan.userId = id then factor.map fun factor => { factor with enabled := true }
      else factor := rfl

/-- The second factor that the committed calls have made. -/
def factorOf (id : Uuid) (committed : List (MfaPlan × MfaResponse)) : Option Factor :=
  committed.foldl (factorAfter id) none

/-- The account has the factor. -/
structure Represents (rt : Runtime) (factor : Factor) (user : User) : Prop where
  enabled : user.mfaEnabled = factor.enabled
  secret : ∃ encrypted, user.totpSecretEncrypted.filter (· ≠ "") = some encrypted ∧
    TotpService.decryptSecret rt encrypted = .ok factor.secret

/-- A login that is past its second factor, by this method. -/
def Past (method : MfaMethod) : Progress → Prop
  | .recording session _ => session.method = method
  | .logging session => session.method = method
  | _ => False

/-- What the cipher makes of a text is read back. -/
def ReadsBack (rt : Runtime) (cipher : Cipher) : Prop :=
  ∀ iv text, Word iv → Word text →
    Word (cipher iv text).1 ∧ Word (cipher iv text).2 ∧
      rt.decipher iv (cipher iv text).1 (cipher iv text).2 = some text

/-! ### Secrets, encrypted and read back -/

section Secrets

variable {rt : Runtime} {cipher : Cipher}

/-- A secret that is drawn is not empty, and has no colon. -/
theorem word_createSecret (bytes : Vector UInt8 20) :
    Word (TotpService.createSecret bytes.toList) := by
  constructor
  · intro none
    have letters : (TotpService.groupsOf bytes.toList).map TotpService.letter = [] := by
      rw [← TotpService.toList_createSecret, none]
      rfl
    have groups := List.map_eq_nil_iff.mp letters
    obtain ⟨zeros, -, filled⟩ := Bits.flatten_groups (show 0 < 5 by decide)
      (bytes.toList.flatMap fun byte => Bits.digits 8 byte.toNat)
    unfold TotpService.groupsOf at groups
    rw [groups] at filled
    have long := congrArg List.length filled
    simp [Bits.length_digits] at long
    omega
  · intro colon
    rw [TotpService.toList_createSecret] at colon
    obtain ⟨group, listed, is⟩ := List.mem_map.mp colon
    have letter := TotpService.letter_listed (Bits.length_of_mem_groups listed)
    rw [is] at letter
    exact absurd letter (by decide)

/-- **An encrypted text is read back**, whatever its `iv`. -/
theorem decryptSecret_encryptSecret (reads : ReadsBack rt cipher) {iv text : String}
    (ivWord : Word iv) (word : Word text) :
    TotpService.decryptSecret rt (encryptSecret cipher iv text) = .ok text := by
  obtain ⟨tag, encrypted, back⟩ := reads iv text ivWord word
  have parts : Text.splitOn ':' (encryptSecret cipher iv text) =
      ["v1", iv, (cipher iv text).1, (cipher iv text).2] := by
    have chars : (encryptSecret cipher iv text).toList = "v1".toList ++ ':' :: (iv.toList ++
        ':' :: ((cipher iv text).1.toList ++ ':' :: (cipher iv text).2.toList)) := by
      simp [encryptSecret, String.toList_append]
    unfold Text.splitOn
    rw [chars, Text.splitWord_append (by decide), Text.splitWord_append ivWord.2,
      Text.splitWord_append tag.2, Text.splitWord_of_not_mem encrypted.2]
    simp
  unfold TotpService.decryptSecret
  rw [parts]
  simp only [ne_eq, not_true_eq_false, ivWord.1, tag.1, encrypted.1, or_self, if_false]
  rw [back]
  rfl

theorem encryptSecret_ne (cipher : Cipher) (iv text : String) :
    encryptSecret cipher iv text ≠ "" := by
  intro none
  have chars := congrArg String.toList none
  simp [encryptSecret, String.toList_append] at chars

end Secrets

/-! ### The accounts have the factors -/

section Runs

variable {rt : Runtime} {cipher : Cipher} {s t : Store}
  {committed : List (MfaPlan × MfaResponse)} {id : Uuid} {factor : Factor}

/-- **The invariant**: an account has the factor that the committed calls have made. -/
def Represented (rt : Runtime) (s : Store) (committed : List (MfaPlan × MfaResponse)) : Prop :=
  ∀ id factor, factorOf id committed = some factor →
    ∃ user, s.users.find? id = some user ∧ Represents rt factor user

theorem factorOf_append (id : Uuid) (committed : List (MfaPlan × MfaResponse))
    (entry : MfaPlan × MfaResponse) :
    factorOf id (committed ++ [entry]) = factorAfter id (factorOf id committed) entry := by
  unfold factorOf
  rw [List.foldl_append]
  rfl

theorem Represents.of_columns {user user' : User} (represents : Represents rt factor user)
    (same : mfaColumns user' = mfaColumns user) : Represents rt factor user' := by
  obtain ⟨on, secret⟩ := Prod.mk.inj same
  constructor
  · rw [on]
    exact represents.enabled
  · rw [secret]
    exact represents.secret

/-- An account that was found, once it is changed. -/
theorem find?_changed {users : Table User.uuid} {userId : Uuid} {old : User}
    (found : users.find? userId = some old) (f : User → User) (keeps : ∀ u, (f u).uuid = u.uuid)
    (id : Uuid) :
    (users.update userId f keeps).find? id =
      if userId = id then some (f old) else users.find? id := by
  rw [Table.find?_update]
  split_ifs with own
  · rw [← own, found, Option.map_some]
  · rfl

/-- **A setup** gives its account the secret that it shows. -/
theorem setupCommit_spec {plan : SetupPlan} {res : SetupResponse}
    (made : setupCommit cipher plan s = .ok (res, t)) :
    Word res.secret ∧ ∃ old, s.users.find? plan.userId = some old ∧
      ∀ id, t.users.find? id =
        if plan.userId = id then some (renewed (encryptSecret cipher plan.env.iv res.secret) old)
        else s.users.find? id := by
  obtain ⟨⟨row, users⟩, updated, same⟩ := bind_eq_ok.mp made
  obtain ⟨rfl, rfl⟩ := Prod.mk.inj (pure_eq_ok.mp same)
  obtain ⟨old, found, -, rfl⟩ := updateRow_eq_ok.mp updated
  exact ⟨word_createSecret plan.env.bytes, old, found,
    find?_changed found (renewed _) fun _ => rfl⟩

/-- **An enabling** turns the factor on that its account has by then. -/
theorem enableCommit_spec {plan : EnablePlan} {res : EnableResponse}
    (made : enableCommit plan s = .ok (res, t)) :
    ∃ old, s.users.find? plan.userId = some old ∧
      ∀ id, t.users.find? id =
        if plan.userId = id then some (enabled old) else s.users.find? id := by
  obtain ⟨⟨row, users⟩, updated, same⟩ := bind_eq_ok.mp made
  obtain ⟨rfl, rfl⟩ := Prod.mk.inj (pure_eq_ok.mp same)
  obtain ⟨old, found, -, rfl⟩ := updateRow_eq_ok.mp updated
  exact ⟨old, found, find?_changed found enabled fun _ => rfl⟩

theorem represented_setup (reads : ReadsBack rt cipher) (kept : Represented rt s committed)
    {plan : SetupPlan} {res : SetupResponse} (made : setupCommit cipher plan s = .ok (res, t)) :
    Represented rt t (committed ++ [(.inl plan, .inl res)]) := by
  obtain ⟨word, old, -, after⟩ := setupCommit_spec made
  intro id factor history
  rw [factorOf_append, factorAfter_setup] at history
  rw [after id]
  split_ifs at history ⊢ with own
  · obtain rfl := Option.some.inj history
    refine ⟨_, rfl, rfl, _, Option.filter_some_pos (decide_eq_true (encryptSecret_ne _ _ _)), ?_⟩
    exact decryptSecret_encryptSecret reads plan.env.ivWord word
  · exact kept id factor history

theorem represented_enable (kept : Represented rt s committed) {plan : EnablePlan}
    {res : EnableResponse} (made : enableCommit plan s = .ok (res, t)) :
    Represented rt t (committed ++ [(.inr plan, .inr res)]) := by
  obtain ⟨old, found, after⟩ := enableCommit_spec made
  intro id factor history
  rw [factorOf_append, factorAfter_enable] at history
  rw [after id]
  split_ifs at history ⊢ with own
  · obtain ⟨before, was, rfl⟩ := Option.map_eq_some_iff.mp history
    obtain ⟨user, there, represents⟩ := kept id before was
    rw [← own] at there
    obtain rfl := Option.some.inj (found.symm.trans there)
    exact ⟨_, rfl, rfl, represents.secret⟩
  · exact kept id factor history

theorem represented_commit (reads : ReadsBack rt cipher) (kept : Represented rt s committed)
    {plan : MfaPlan} {res : MfaResponse}
    (made : (mfaMethods rt cipher).commit plan s = .ok (res, t)) :
    Represented rt t (committed ++ [(plan, res)]) := by
  cases plan with
  | inl plan =>
    obtain ⟨went, first, same⟩ := map_eq_ok.mp made
    obtain ⟨rfl, rfl⟩ := Prod.mk.inj same
    exact represented_setup reads kept first
  | inr plan =>
    obtain ⟨went, second, same⟩ := map_eq_ok.mp made
    obtain ⟨rfl, rfl⟩ := Prod.mk.inj same
    exact represented_enable kept second

theorem represented_elsewhere (o : Elsewhere) (kept : Represented rt s committed) :
    Represented rt (o.act s) committed := by
  intro id factor history
  obtain ⟨user, there, represents⟩ := kept id factor history
  obtain ⟨user', after, same⟩ := o.keeps s id user there
  exact ⟨user', after, represents.of_columns same⟩

/-- Neither call logs. -/
theorem mfaLog (plan : MfaPlan) (res : MfaResponse) (s : Store) :
    (mfaMethods rt cipher).log plan res s = s := by
  cases plan <;> cases res <;> rfl

theorem represented_runs (reads : ReadsBack rt cipher) (s : Store)
    (events : List (Entry MfaCall Elsewhere)) :
    let j := runs (mfaStep rt cipher) (Method.blank s) events
    Represented rt j.pool.store j.committed := by
  have start : Represented rt s [] := fun id factor history => absurd history (by simp [factorOf])
  have kept : Method.Kept (Represented rt) (fun _ _ _ => True)
      (runs (mfaStep rt cipher) (Method.blank s) events) := by
    refine Method.kept_runs ?_ ?_ ?_ ?_ start events
    · exact fun _ _ _ _ _ _ => trivial
    · exact fun plan res s t committed kept _ made =>
        ⟨represented_commit reads kept made, fun _ _ => trivial⟩
    · intro plan res s committed kept
      rw [mfaLog]
      exact ⟨kept, fun _ _ => trivial⟩
    · exact fun o s committed kept => ⟨represented_elsewhere o kept, fun _ _ => trivial⟩
  exact kept.store

end Runs

/-! ### Logins -/

section Logins

variable {rt : Runtime} {env : LoginEnv} {input : LoginInput} {found : LoginUser} {factor : Factor}

theorem users_loginStep (rt : Runtime) (progress : Progress) (s : Store) :
    (loginStep rt progress s).2.users = s.users := by
  cases progress with
  | reading env input =>
    unfold loginStep
    dsimp only
    split
    · rfl
    · rfl
    · split <;> rfl
  | candidates session normalized =>
    unfold loginStep
    dsimp only
    split <;> rfl
  | consuming session code => rfl
  | consumed session code => rfl
  | recording session member =>
    unfold loginStep
    dsimp only
    split
    · rfl
    · rename_i t recorded
      obtain ⟨⟨row, members⟩, -, same⟩ := bind_eq_ok.mp recorded
      rw [← pure_eq_ok.mp same]
  | logging session => rfl
  | succeeded method response => rfl
  | failed e => rfl

/-- A step of a login leaves the accounts their second factor. -/
def loggingIn (rt : Runtime) (progress : Progress) : Elsewhere where
  act s := (loginStep rt progress s).2
  keeps s := by
    rw [users_loginStep]
    exact Table.keeps_refl _ _

/-- A founder goes on, whatever the workspaces of the account. -/
theorem past_proceed {session : Session} (founder : session.found.user.role = .acadidSuperAdmin)
    (method : MfaMethod) : Past method (proceed session) ↔ session.method = method := by
  unfold proceed
  split
  · exact Iff.rfl
  · rw [if_pos founder]
    exact Iff.rfl

/-- No digits make no code. -/
theorem verifyCode_empty (rt : Runtime) (now : Time) (secret : String) :
    TotpService.verifyCode rt now secret "" = .ok false := by
  unfold TotpService.verifyCode
  rw [if_neg (by decide)]
  rfl

/-- **The second factor of a login is that of the account.** -/
theorem past_secondFactor (represents : Represents rt factor found.user)
    (founder : found.user.role = .acadidSuperAdmin) :
    (Past .none (secondFactor rt env input found) ↔ factor.enabled = false) ∧
      (Past .totp (secondFactor rt env input found) ↔ factor.enabled = true ∧
        ∃ code ∈ input.totpCode,
          TotpService.verifyCode rt env.now factor.secret code = .ok true) := by
  obtain ⟨encrypted, stored, read⟩ := represents.secret
  unfold secondFactor
  dsimp only
  rw [represents.enabled]
  cases on : factor.enabled with
  | false =>
    rw [Bool.not_false, if_pos rfl, past_proceed founder, past_proceed founder]
    exact ⟨iff_of_true rfl rfl, iff_of_false (by simp) (by simp)⟩
  | true =>
    rw [if_neg (by simp), stored]
    dsimp only
    cases typed : input.totpCode.filter (· ≠ "") with
    | none =>
      have refused : ¬ ∃ code ∈ input.totpCode,
          TotpService.verifyCode rt env.now factor.secret code = .ok true := by
        rintro ⟨code, has, verified⟩
        have empty : code = "" := by
          have dropped := Option.filter_eq_none_iff.mp typed code has
          simpa using dropped
        rw [empty, verifyCode_empty] at verified
        exact absurd (Except.ok.inj verified) (by simp)
      dsimp only
      split_ifs
      · exact ⟨iff_of_false id (by simp), iff_of_false id fun both => refused both.2⟩
      · exact ⟨iff_of_false id (by simp), iff_of_false id fun both => refused both.2⟩
    | some code =>
      have has : input.totpCode = some code := (Option.filter_eq_some_iff.mp typed).1
      have tested : (do
          let secret ← TotpService.decryptSecret rt encrypted
          TotpService.verifyCode rt env.now secret code) =
            TotpService.verifyCode rt env.now factor.secret code := by
        rw [read]
        rfl
      have only : (∃ code ∈ input.totpCode,
          TotpService.verifyCode rt env.now factor.secret code = .ok true) ↔
            TotpService.verifyCode rt env.now factor.secret code = .ok true := by
        rw [has]
        exact ⟨fun ⟨other, same, verified⟩ => Option.some.inj same ▸ verified,
          fun verified => ⟨code, rfl, verified⟩⟩
      dsimp only
      rw [tested, only]
      cases TotpService.verifyCode rt env.now factor.secret code with
      | error e => exact ⟨iff_of_false id (by simp), iff_of_false id (by simp)⟩
      | ok verified =>
        cases verified with
        | true =>
          dsimp only
          rw [past_proceed founder, past_proceed founder]
          exact ⟨iff_of_false (by simp) (by simp), iff_of_true rfl ⟨rfl, rfl⟩⟩
        | false =>
          dsimp only
          split_ifs
          · exact ⟨iff_of_false id (by simp), iff_of_false id (by simp)⟩
          · exact ⟨iff_of_false id (by simp), iff_of_false id (by simp)⟩

theorem findUser_mem {email : String} {s : Store} (known : findUser rt email s = .ok (some found)) :
    s.users.find? found.user.uuid = some found.user := by
  unfold findUser at known
  dsimp only at known
  split at known
  · exact absurd (Except.ok.inj known) (by simp)
  · rename_i user there
    obtain ⟨institutions, -, same⟩ := bind_eq_ok.mp known
    obtain rfl := Option.some.inj (pure_eq_ok.mp same)
    exact Table.find?_eq_some.mpr ⟨List.mem_of_find?_eq_some there, rfl⟩

end Logins

/-! ### A founder who sets up an authenticator -/

def founder : User where
  uuid := "50000000-0000-4000-8000-000000000001"
  email := "founder@acadid.test"
  passwordHash := PasswordService.hash .plain "salt" "password"
  fullName := "Founder"
  role := .acadidSuperAdmin

def founderAuth : AuthTokenPayload where
  sub := founder.uuid
  email := founder.email
  fullName := founder.fullName
  role := founder.role
  kind := none
  learnerId := none
  institutionId := none
  institutionUuid := none
  institutionUserId := none
  assignedScopes := none
  apiKeyId := none
  clientId := none
  productCode := none

def office : Store :=
  { Store.empty with users := .single founder }

/-- A cipher that the plain runtime reads back. -/
def unciphered : Cipher := fun _ text => ("tag", text)

theorem unciphered_readsBack : ReadsBack .plain unciphered :=
  fun _ _ _ word => ⟨(by decide : Word "tag"), word, rfl⟩

/-- The founder sets the authenticator up, and enables it with a code of its secret. -/
def setsUp : List (Entry MfaCall Elsewhere) :=
  [.turn (.begin (.inl ⟨⟨.replicate 20 0, "iv", by decide⟩, founderAuth⟩)),
    .turn (.advance 0 .done),
    .turn (.begin (.inr ⟨60000, founderAuth, "000 000"⟩)), .turn (.advance 1 .done)]

/-! ### The results -/

/-- **In every state of every run, a founder's login gets past the second factor exactly as the
committed calls have made it**: without a code while it is off, with a code of the secret last shown
once it is on. -/
theorem past_iff (rt : Runtime) (cipher : Cipher) (reads : ReadsBack rt cipher) (s : Store)
    (events : List (Entry MfaCall Elsewhere)) (env : LoginEnv) (input : LoginInput)
    (found : LoginUser) (factor : Factor)
    (known : findUser rt input.email
      (runs (mfaStep rt cipher) (Method.blank s) events).pool.store = .ok (some found))
    (founder : found.user.role = .acadidSuperAdmin)
    (password : PasswordService.verify rt input.password found.user.passwordHash = true)
    (history : factorOf found.user.uuid
      (runs (mfaStep rt cipher) (Method.blank s) events).committed = some factor) :
    (Past .none (loginStep rt (.reading env input)
        (runs (mfaStep rt cipher) (Method.blank s) events).pool.store).1 ↔
      factor.enabled = false) ∧
    (Past .totp (loginStep rt (.reading env input)
        (runs (mfaStep rt cipher) (Method.blank s) events).pool.store).1 ↔
      factor.enabled = true ∧ ∃ code ∈ input.totpCode,
        TotpService.verifyCode rt env.now factor.secret code = .ok true) := by
  obtain ⟨user, there, represents⟩ := represented_runs reads s events _ factor history
  obtain rfl := Option.some.inj ((findUser_mem known).symm.trans there)
  have next : (loginStep rt (.reading env input)
      (runs (mfaStep rt cipher) (Method.blank s) events).pool.store).1 =
        secondFactor rt env input found := by
    unfold loginStep
    dsimp only
    rw [known]
    dsimp only
    rw [if_pos password]
  rw [next]
  exact past_secondFactor represents founder

/-- The founder logs in with a code of the secret. -/
def founderEnv : LoginEnv :=
  ⟨90000, 0, 1, 1, 1, "d0000000-0000-4000-8000-000000000001"⟩

def founderInput : LoginInput :=
  ⟨"founder@acadid.test", "password", some "000000", none⟩

theorem past_iff_setsUp :
    (Past .none (loginStep .plain (.reading founderEnv founderInput)
        (runs (mfaStep .plain unciphered) (Method.blank office) setsUp).pool.store).1 ↔
      true = false) ∧
    (Past .totp (loginStep .plain (.reading founderEnv founderInput)
        (runs (mfaStep .plain unciphered) (Method.blank office) setsUp).pool.store).1 ↔
      true = true ∧ ∃ code ∈ some "000000", TotpService.verifyCode .plain 90000
        "AAAAAAAAAAAAAAAAAAAAAAAAAAAAAAAA" code = .ok true) := by
  have reads : (findUser .plain founderInput.email
      (runs (mfaStep .plain unciphered) (Method.blank office) setsUp).pool.store).toOption.map
        (fun row => row.any fun found => found.user.role == .acadidSuperAdmin &&
          PasswordService.verify .plain founderInput.password found.user.passwordHash &&
          factorOf found.user.uuid
            (runs (mfaStep .plain unciphered) (Method.blank office) setsUp).committed ==
              some ⟨"AAAAAAAAAAAAAAAAAAAAAAAAAAAAAAAA", true⟩) = some true := by
    decide +kernel
  obtain ⟨row, known, any⟩ := of_toOption reads
  obtain ⟨found, rfl, meets⟩ := (Option.any_eq_true _ _).mp any
  simp only [Bool.and_eq_true, beq_iff_eq] at meets
  obtain ⟨⟨role, password⟩, history⟩ := meets
  exact past_iff .plain unciphered unciphered_readsBack office setsUp founderEnv founderInput found
    _ known role password history

/-! ### Codes that were shown -/

section Shown

variable {rt : Runtime} {cipher : Cipher} {s t : Store}
  {committed : List (MfaPlan × MfaResponse)}

/-- **No secret is replaced** between the check of `enableTotp` and its update. -/
def Unreplaced : MfaPlan → Store → Prop
  | .inl _, _ => True
  | .inr plan, s =>
    (s.users.find? plan.userId).bind (·.totpSecretEncrypted) = some plan.encrypted

instance (plan : MfaPlan) (s : Store) : Decidable (Unreplaced plan s) :=
  match plan with
  | .inl _ => isTrue trivial
  | .inr _ => inferInstanceAs (Decidable (_ = _))

/-- A committed `enableTotp` of the account was given a code of the secret. -/
def ShownOf (rt : Runtime) (committed : List (MfaPlan × MfaResponse)) (id : Uuid)
    (secret : String) : Prop :=
  ∃ plan res, (.inr plan, res) ∈ committed ∧ plan.userId = id ∧
    TotpService.verifyCode rt plan.now secret plan.code = .ok true

/-- **The invariant**: a factor that is on has had a code shown of its secret. -/
structure Proved (rt : Runtime) (s : Store) (committed : List (MfaPlan × MfaResponse)) : Prop where
  represented : Represented rt s committed
  shown : ∀ id factor, factorOf id committed = some factor → factor.enabled = true →
    ShownOf rt committed id factor.secret

/-- What holds of a plan in flight: its code is one of the secret it has read. -/
def Checked (rt : Runtime) : MfaPlan → Prop
  | .inl _ => True
  | .inr plan => ∃ secret, TotpService.decryptSecret rt plan.encrypted = .ok secret ∧
      TotpService.verifyCode rt plan.now secret plan.code = .ok true

theorem ShownOf.append {id : Uuid} {secret : String} (shown : ShownOf rt committed id secret)
    (entry : MfaPlan × MfaResponse) : ShownOf rt (committed ++ [entry]) id secret := by
  obtain ⟨plan, res, inside, rest⟩ := shown
  exact ⟨plan, res, List.mem_append_left _ inside, rest⟩

theorem checked_of_check {call : MfaCall} {plan : MfaPlan}
    (planned : (mfaMethods rt cipher).check call s = .ok plan) : Checked rt plan := by
  rcases Method.sum_check planned with ⟨call, setup, rfl, -⟩ | ⟨call, enable, rfl, made⟩
  · trivial
  · obtain ⟨_, -, rest⟩ := bind_eq_ok.mp made
    obtain ⟨encrypted, -, rest⟩ := bind_eq_ok.mp rest
    obtain ⟨secret, read, rest⟩ := bind_eq_ok.mp rest
    obtain ⟨verified, shown, rest⟩ := bind_eq_ok.mp rest
    obtain ⟨_, so, same⟩ := bind_eq_ok.mp rest
    obtain rfl := pure_eq_ok.mp same
    obtain rfl : verified = true := require_eq_ok.mp so
    exact ⟨secret, read, shown⟩

/-- **A transaction keeps the invariant** where the secret is still the one that was checked. -/
theorem proved_commit (reads : ReadsBack rt cipher) (proved : Proved rt s committed)
    {plan : MfaPlan} {res : MfaResponse} (checked : Checked rt plan) (same : Unreplaced plan s)
    (made : (mfaMethods rt cipher).commit plan s = .ok (res, t)) :
    Proved rt t (committed ++ [(plan, res)]) := by
  refine ⟨represented_commit reads proved.represented made, fun id factor history on => ?_⟩
  rw [factorOf_append] at history
  cases plan with
  | inl plan =>
    obtain ⟨went, -, is⟩ := map_eq_ok.mp made
    obtain ⟨rfl, -⟩ := Prod.mk.inj is
    rw [factorAfter_setup] at history
    split_ifs at history with own
    · rw [← Option.some.inj history] at on
      exact absurd on Bool.false_ne_true
    · exact (proved.shown id factor history on).append _
  | inr plan =>
    rw [factorAfter_enable] at history
    split_ifs at history with own
    · obtain ⟨before, was, rfl⟩ := Option.map_eq_some_iff.mp history
      obtain ⟨user, there, represents⟩ := proved.represented id before was
      obtain ⟨encrypted, stored, read⟩ := represents.secret
      have holds : user.totpSecretEncrypted = some plan.encrypted := by
        have found : (s.users.find? plan.userId).bind (·.totpSecretEncrypted) =
          some plan.encrypted := same
        rw [own, there] at found
        exact found
      obtain ⟨secret, readAgain, verified⟩ := checked
      obtain rfl : plan.encrypted = encrypted := by
        rw [holds] at stored
        exact Option.some.inj (Option.filter_eq_some_iff.mp stored).1
      obtain rfl := Except.ok.inj (readAgain.symm.trans read)
      exact ⟨plan, res, List.mem_append_right _ (List.mem_singleton_self _), own, verified⟩
    · exact (proved.shown id factor history on).append _

end Shown

/-- **A factor that is on has had a code shown of its secret**, in every run in which no secret is
replaced between the check and the update of `enableTotp`. -/
theorem enabled_shown (rt : Runtime) (cipher : Cipher) (reads : ReadsBack rt cipher) (s : Store)
    (events : List (Entry MfaCall Elsewhere))
    (unreplaced : Along (mfaStep rt cipher) (Method.Finds Unreplaced) (Method.blank s) events)
    (id : Uuid) (factor : Factor)
    (history : factorOf id (runs (mfaStep rt cipher) (Method.blank s) events).committed =
      some factor)
    (on : factor.enabled = true) :
    ShownOf rt (runs (mfaStep rt cipher) (Method.blank s) events).committed id factor.secret := by
  have start : Proved rt s [] :=
    ⟨fun id factor history => absurd history (by simp [factorOf]),
      fun id factor history => absurd history (by simp [factorOf])⟩
  have kept : Method.Kept (Proved rt) (fun plan _ _ => Checked rt plan)
      (runs (mfaStep rt cipher) (Method.blank s) events) := by
    refine Method.kept_runs_of_finds ?_ ?_ ?_ ?_ start unreplaced
    · exact fun call s committed plan _ planned => checked_of_check planned
    · exact fun plan res s t committed proved checked same made =>
        ⟨proved_commit reads proved checked same made, fun _ checked => checked⟩
    · intro plan res s committed proved
      rw [mfaLog]
      exact ⟨proved, fun _ checked => checked⟩
    · exact fun o s committed proved =>
        ⟨⟨represented_elsewhere o proved.represented, proved.shown⟩, fun _ checked => checked⟩
  exact kept.store.shown id factor history on

theorem enabled_shown_setsUp :
    ShownOf .plain (runs (mfaStep .plain unciphered) (Method.blank office) setsUp).committed
      founder.uuid "AAAAAAAAAAAAAAAAAAAAAAAAAAAAAAAA" :=
  enabled_shown .plain unciphered unciphered_readsBack office setsUp (by decide +kernel)
    founder.uuid
    ⟨"AAAAAAAAAAAAAAAAAAAAAAAAAAAAAAAA", true⟩ (by decide +kernel) rfl

end AcadID.FounderMfa
