/-
**Verifications, one call to the database at a time, and any number of them at once.**

* `machine` — a verification as a machine: what it reads, the event it records, and the fee that
  `verifyReference` writes after its event; `verifyOne_eq_alone`, `residual_machine` — **run alone,
  it is the program of `Verification`**.
* `turn` — verifications that begin, alone or as a bulk, and that take a step.
* `Accounted` — the fees of an event that are written or still due are one if it confirms a share
  link or a reference, and none otherwise.
* `billed_iff_pays` — **every event is billed at the end of a run exactly when** no fee that is
  written after its event fails.
* `billed_fails` — a fee that fails, and a confirmed event without one.
-/

import AcadID.Gateway.IssuedCredentials
import AcadID.Gateway.Outcomes
import AcadID.Lib.Process
import AcadID.Lib.Run

namespace AcadID

open Lib

namespace Verification

/-! ### A verification, step by step -/

/-- The events for which a fee is owed. -/
def owes (event : VerificationEvent) : Bool :=
  event.outcome == .confirmed &&
    (event.verifierType == "SHARE_LINK" || event.verifierType == "CREDENTIAL_REFERENCE")

/-- An event for which none is. -/
structure FreeEvent extends VerificationEvent where
  free : owes toVerificationEvent = false

/-- A fee that is written after its event. -/
structure ReferenceFee where
  env : VerifyEnv
  credentialId : Uuid
  institutionId : Uuid

/-- The event that confirms a reference. -/
structure Confirmation where
  fee : ReferenceFee
  event : VerificationEvent
  owed : owes event = true
  same : event.uuid = fee.env.eventUuid

/-- What a verification has still to write. -/
inductive Writing where
  | committing (env : VerifyEnv) (context : VerificationContext) (plan : TokenPlan)
  | confirming (confirmation : Confirmation) (result : VerificationResult)
  | billing (fee : ReferenceFee) (result : VerificationResult)
  | recording (event : FreeEvent) (result : VerificationResult)
  | ended (result : Except ServiceError VerificationResult)

/-- How far a verification has come. -/
inductive Verifying where
  | readingToken (env : VerifyEnv) (token : String) (context : VerificationContext)
  | readingReference (env : VerifyEnv) (refnum : String) (context : VerificationContext)
  | readingLearner (env : VerifyEnv) (ain : String) (context : VerificationContext)
  | counting (env : VerifyEnv) (ain : String) (context : VerificationContext)
    (read : Option LearnerRead)
  | writing (writes : Writing)

/-- A reference is answered with its credential. -/
def shownReference (credential : Credential) (institution : Institution) : String × Json :=
  ("credential", publicReferenceCredential credential institution)

def validResult (credential : Credential) (institution : Institution)
    (status : CryptographicStatus) : VerificationResult :=
  ⟨.confirmed, [("cryptographicStatus", .str status.name), shownReference credential institution]⟩

/-- The event of a reference whose credential is not revoked. -/
def referenceEvent (rt : Runtime) (env : VerifyEnv) (context : VerificationContext)
    (credential : Credential) (status : CryptographicStatus) (outcome : VerificationOutcome) :
    VerificationEvent :=
  newEvent rt env context credential.uuid none "CREDENTIAL_REFERENCE" context.verifierName outcome
    (.obj [("credentialRef", .str credential.credentialRef),
      ("cryptographicStatus", .str status.name)])

/-- What a valid reference leads to. -/
def confirmationOf (rt : Runtime) (env : VerifyEnv) (context : VerificationContext)
    (credential : Credential) (institution : Institution) : Confirmation where
  fee := ⟨env, credential.uuid, institution.uuid⟩
  event := referenceEvent rt env context credential .valid .confirmed
  owed := rfl
  same := rfl

/-- What follows the read of a reference. -/
def afterReference (rt : Runtime) (env : VerifyEnv) (context : VerificationContext) :
    Option (Credential × Institution) → Writing
  | none => .ended (.ok ⟨.denied, [("reason", .str "Credential reference not found.")]⟩)
  | some (credential, institution) =>
    if credential.status = .revoked then
      .recording
        { newEvent rt env context credential.uuid none "CREDENTIAL_REFERENCE" context.verifierName
            .revoked (.obj [("credentialRef", .str credential.credentialRef)]) with
          free := rfl }
        ⟨.revoked, [shownReference credential institution]⟩
    else
      match cryptographicStatus rt credential.vcPayload credential.signature with
      | .valid =>
        .confirming (confirmationOf rt env context credential institution)
          (validResult credential institution .valid)
      | .invalid =>
        .recording
          { referenceEvent rt env context credential .invalid .discrepancy with
            free := rfl }
          (validResult credential institution .invalid)

theorem afterReference_valid {rt : Runtime} {env : VerifyEnv} {context : VerificationContext}
    {credential : Credential} {institution : Institution} (live : credential.status ≠ .revoked)
    (valid : cryptographicStatus rt credential.vcPayload credential.signature = .valid) :
    afterReference rt env context (some (credential, institution)) =
      .confirming (confirmationOf rt env context credential institution)
        (validResult credential institution .valid) := by
  dsimp only [afterReference]
  rw [if_neg live, valid]

/-- What follows the reads of a lookup. -/
def afterCount (rt : Runtime) (env : VerifyEnv) (context : VerificationContext) (count : ℕ) :
    Option LearnerRead → Writing
  | none => .ended (.ok ⟨.denied, [("reason", .str "AIN not found.")]⟩)
  | some ⟨learner, credentials, visibleCredentials⟩ =>
    let scopeViewed : Json := .obj
      [("ain", .str learner.ain), ("activeCredentialCount", .num count),
        ("credentialRefs", .arr (credentials.map fun credential => .str credential.credentialRef))]
    let result : VerificationResult := ⟨.confirmed,
      [("learner", .obj [("ain", .str learner.ain), ("fullName", .str learner.fullName),
          ("identityStatus", .str learner.identityStatus.name)]),
        ("credentialSummary", .obj [("activeCredentialCount", .num count),
          ("returnedCredentialCount", .num visibleCredentials.length),
          ("credentials", .arr visibleCredentials)])]⟩
    match eventCredential credentials with
    | some credential =>
      .recording
        { newEvent rt env context credential.uuid none "AIN_LOOKUP" context.verifierName
            (if 0 < count then .confirmed else .denied) scopeViewed with
          free := Bool.and_false _ }
        result
    | none => .ended (.ok result)

/-- The fee of a reference, and its answer. -/
def bill (rt : Runtime) (fee : ReferenceFee) (result : VerificationResult) (s : Store) :
    Except ServiceError (VerificationResult × Store) := do
  let s ← recordVerificationRevenue rt fee.env fee.credentialId fee.institutionId
    "Credential reference verification fee" s
  return (result, s)

/-- What follows the check of a share link. -/
def afterToken (env : VerifyEnv) (context : VerificationContext) : TokenPlan → Writing
  | .notFound => .ended (.ok ⟨.denied, [("reason", .str "Verification link not found.")]⟩)
  | plan => .committing env context plan

/-- A write, and what follows it. -/
def committed (write : Store → Except ServiceError (VerificationResult × Store))
    (next : VerificationResult → Writing) (s : Store) : Writing × Store :=
  match write s with
  | .ok (result, t) => (next result, t)
  | .error e => (.ended (.error e), s)

/-- The end of a verification with a result. -/
def answered (result : VerificationResult) : Writing :=
  .ended (.ok result)

/-- One write of a verification, when it goes through. -/
def writeDone (rt : Runtime) (writes : Writing) (s : Store) : Writing × Store :=
  match writes with
  | .committing env context plan => committed (tokenCommit rt env context plan) answered s
  | .confirming confirmation result =>
    committed (recorded confirmation.event result) (.billing confirmation.fee) s
  | .billing fee result => committed (bill rt fee result) answered s
  | .recording event result => committed (recorded event.toVerificationEvent result) answered s
  | .ended result => (.ended result, s)

/-- What a read leads to. -/
def afterRead {α : Type} (read : Except ServiceError α) (next : α → Verifying) : Verifying :=
  match read with
  | .ok a => next a
  | .error e => .writing (.ended (.error e))

/-- One call of a verification to the database, when it goes through. -/
def verifyDone (rt : Runtime) (x : Verifying) (s : Store) : Verifying × Store :=
  match x with
  | .readingToken env token context =>
    (afterRead (tokenCheck rt env token s) fun plan => .writing (afterToken env context plan), s)
  | .readingReference env refnum context =>
    (afterRead (readReference refnum s) fun found =>
      .writing (afterReference rt env context found), s)
  | .readingLearner env ain context =>
    (afterRead (readLearner ain s) fun read => .counting env ain context read, s)
  | .counting env ain context read =>
    (.writing (afterCount rt env context (activeCredentialCount ain s) read), s)
  | .writing writes => (.writing (writeDone rt writes s).1, (writeDone rt writes s).2)

/-- What a verification becomes when its call fails. -/
def verifyFailed : Verifying → Verifying
  | .writing (.ended result) => .writing (.ended result)
  | _ => .writing (.ended (.error .database))

/-- A verification, with what the runtime gives it. -/
structure VerifyCall where
  env : VerifyEnv
  context : VerificationContext
  call : VerificationCall

def verifyStart (c : VerifyCall) : Verifying :=
  match c.call with
  | .token token => .readingToken c.env token c.context
  | .reference refnum => .readingReference c.env refnum c.context
  | .ain ain =>
    if normalizeIdentifier ain = "" then
      .writing (.ended (.error (.badRequest "AIN is required.")))
    else .readingLearner c.env (normalizeIdentifier ain) c.context

/-- **A verification as a machine.** -/
def machine (rt : Runtime) : Machine Store VerifyCall Verifying where
  start := verifyStart
  step outcome x s :=
    match outcome with
    | .done => verifyDone rt x s
    | .failed => (verifyFailed x, s)

/-! ### The machine alone -/

def Verifying.result : Verifying → Option (Except ServiceError VerificationResult)
  | .writing (.ended result) => some result
  | _ => none

/-- Steps until a verification ends. -/
def Verifying.left : Verifying → ℕ
  | .readingToken .. | .counting .. | .readingReference .. => 3
  | .readingLearner .. => 4
  | .writing (.confirming ..) => 2
  | .writing (.ended _) => 0
  | .writing _ => 1

/-- The writes that a verification still makes. -/
def restWriting (rt : Runtime) : Writing → Db VerificationResult
  | .committing env context plan => Db.transaction (tokenCommit rt env context plan)
  | .confirming confirmation result => do
    let result ← Db.transaction (recorded confirmation.event result)
    Db.transaction (bill rt confirmation.fee result)
  | .billing fee result => Db.transaction (bill rt fee result)
  | .recording event result => Db.transaction (recorded event.toVerificationEvent result)
  | .ended result => Async.ofExcept result

/-- What a verification still does. -/
def rest (rt : Runtime) : Verifying → Db VerificationResult
  | .readingToken env token context => do
    restWriting rt (afterToken env context (← Db.read (tokenCheck rt env token)))
  | .readingReference env refnum context => do
    restWriting rt (afterReference rt env context (← Db.read (readReference refnum)))
  | .readingLearner env ain context => do
    restCounting env ain context (← Db.read (readLearner ain))
  | .counting env ain context read => restCounting env ain context read
  | .writing writes => restWriting rt writes
where
  restCounting (env : VerifyEnv) (ain : String) (context : VerificationContext)
      (read : Option LearnerRead) : Db VerificationResult := do
    let count ← Db.read fun s => .ok (activeCredentialCount ain s)
    restWriting rt (afterCount rt env context count read)

theorem committed_rest (rt : Runtime)
    (write : Store → Except ServiceError (VerificationResult × Store))
    (next : VerificationResult → Writing) (script : List Outcome) (s : Store) :
    (Db.transaction write >>= fun result => restWriting rt (next result)) script s =
      match (Async.next script).1 with
      | .failed => ⟨.error .database, (Async.next script).2, s⟩
      | .done => restWriting rt (committed write next s).1 (Async.next script).2
          (committed write next s).2 := by
  rw [Db.transaction_bind]
  unfold committed
  cases (Async.next script).1 with
  | failed => rfl
  | done => cases write s <;> rfl

theorem bind_answered (x : Db VerificationResult) (rt : Runtime) (script : List Outcome)
    (s : Store) : (x >>= fun result => restWriting rt (answered result)) script s = x script s := by
  rw [Async.bind_apply]
  rcases x script s with ⟨_ | _, _, _⟩ <;> rfl

theorem afterRead_rest {α : Type} (rt : Runtime) (read : Store → Except ServiceError α)
    (next : α → Verifying) (script : List Outcome) (s : Store) :
    (Db.read read >>= fun a => rest rt (next a)) script s =
      match (Async.next script).1 with
      | .failed => ⟨.error .database, (Async.next script).2, s⟩
      | .done => rest rt (afterRead (read s) next) (Async.next script).2 s := by
  rw [Db.read_bind]
  unfold afterRead
  cases (Async.next script).1 with
  | failed => rfl
  | done => cases read s <;> rfl

/-- **One write of a verification**, and what is left after it. -/
theorem restWriting_step (rt : Runtime) {writes : Writing} (open_ : ∀ r, writes ≠ .ended r)
    (script : List Outcome) (s : Store) :
    restWriting rt writes script s =
      match (Async.next script).1 with
      | .failed => ⟨.error .database, (Async.next script).2, s⟩
      | .done => restWriting rt (writeDone rt writes s).1 (Async.next script).2
          (writeDone rt writes s).2 := by
  cases writes with
  | committing env context plan =>
    rw [← bind_answered (restWriting rt _) rt]
    exact committed_rest rt _ answered script s
  | confirming confirmation result =>
    exact committed_rest rt _ (.billing confirmation.fee) script s
  | billing fee result =>
    rw [← bind_answered (restWriting rt _) rt]
    exact committed_rest rt _ answered script s
  | recording event result =>
    rw [← bind_answered (restWriting rt _) rt]
    exact committed_rest rt _ answered script s
  | ended result => exact absurd rfl (open_ result)

theorem committed_left {write : Store → Except ServiceError (VerificationResult × Store)}
    {next : VerificationResult → Writing} {n : ℕ}
    (left : ∀ result, (Verifying.writing (next result)).left ≤ n) (s : Store) :
    (Verifying.writing (committed write next s).1).left ≤ n := by
  unfold committed
  cases write s with
  | error e => exact Nat.zero_le n
  | ok pair => exact left pair.1

theorem afterRead_left {α : Type} {next : α → Verifying} {n : ℕ}
    (left : ∀ a, (next a).left ≤ n) (read : Except ServiceError α) :
    (afterRead read next).left < n + 1 := by
  refine Nat.lt_succ_of_le ?_
  unfold afterRead
  cases read with
  | error e => exact Nat.zero_le n
  | ok a => exact left a

/-- **What is left of a verification** at each of its steps. -/
theorem residual_machine (rt : Runtime) :
    (machine rt).Residual Verifying.result (rest rt) Verifying.left where
  result x r is script s := by
    cases x with
    | writing writes =>
      cases writes with
      | ended result =>
        obtain rfl := Option.some.inj is
        cases result <;> rfl
      | _ => exact absurd is (by simp [Verifying.result])
    | _ => exact absurd is (by simp [Verifying.result])
  step x open_ script s := by
    dsimp only [machine]
    cases x with
    | readingToken env token context =>
      refine (afterRead_rest rt (tokenCheck rt env token)
        (fun plan => .writing (afterToken env context plan)) script s).trans ?_
      cases (Async.next script).1 <;> rfl
    | readingReference env refnum context =>
      refine (afterRead_rest rt (readReference refnum)
        (fun found => .writing (afterReference rt env context found)) script s).trans ?_
      cases (Async.next script).1 <;> rfl
    | readingLearner env ain context =>
      refine (afterRead_rest rt (readLearner ain) (.counting env ain context) script s).trans ?_
      cases (Async.next script).1 <;> rfl
    | counting env ain context read =>
      show (Db.read (fun s => .ok (activeCredentialCount ain s)) >>= _) script s = _
      rw [Db.read_bind]
      cases (Async.next script).1 <;> rfl
    | writing writes =>
      have open' : ∀ r, writes ≠ .ended r := fun r is => by
        rw [is] at open_
        exact absurd open_ (by simp [Verifying.result])
      refine (restWriting_step rt open' script s).trans ?_
      cases (Async.next script).1 with
      | done => rfl
      | failed =>
        cases writes with
        | ended r => exact absurd rfl (open' r)
        | _ => rfl
  left x open_ outcome s := by
    cases outcome with
    | failed =>
      cases x with
      | writing writes =>
        cases writes with
        | ended result => exact absurd open_ (by simp [Verifying.result])
        | _ => exact Nat.succ_pos _
      | _ => exact Nat.succ_pos _
    | done =>
      dsimp only [machine, verifyDone]
      cases x with
      | readingToken env token context =>
        refine afterRead_left (fun plan => ?_) _
        cases plan <;> simp [afterToken, Verifying.left]
      | readingReference env refnum context =>
        refine afterRead_left (fun found => ?_) _
        rcases found with _ | ⟨credential, institution⟩
        · simp [afterReference, Verifying.left]
        · dsimp only [afterReference]
          split_ifs
          · simp [Verifying.left]
          · split <;> simp [Verifying.left]
      | readingLearner env ain context =>
        exact afterRead_left (fun read => le_refl 3) _
      | counting env ain context read =>
        rcases read with _ | ⟨learner, credentials, visibleCredentials⟩
        · simp [afterCount, Verifying.left]
        · dsimp only [afterCount]
          split <;> simp [Verifying.left]
      | writing writes =>
        cases writes with
        | ended result => exact absurd open_ (by simp [Verifying.result])
        | confirming confirmation result =>
          exact Nat.lt_succ_of_le (committed_left (fun _ => le_refl 1) s)
        | _ => exact Nat.lt_succ_of_le (committed_left (fun _ => le_refl 0) s)

theorem bind_pure_db (x : Db VerificationResult) : x >>= pure = x := by
  funext script s
  rw [Async.bind_apply]
  rcases x script s with ⟨_ | _, _, _⟩ <;> rfl

/-- What is recorded is answered. -/
theorem recorded_bind (event : VerificationEvent) (result : VerificationResult)
    (g : VerificationResult → Db VerificationResult) :
    (Db.transaction (recorded event result) >>= g) =
      (Db.transaction (recorded event result) >>= fun _ => g result) := by
  funext script s
  rw [Db.transaction_bind, Db.transaction_bind]
  cases (Async.next script).1 with
  | failed => rfl
  | done =>
    cases wrote : recorded event result s with
    | error e => rfl
    | ok pair =>
      obtain ⟨answer, t⟩ := pair
      obtain ⟨rfl, -⟩ := recorded_spec wrote
      rfl

/-- **A verification alone is its program.** -/
theorem verifyOne_eq_alone (rt : Runtime) (c : VerifyCall) :
    verifyOne rt c.env c.context c.call = rest rt (verifyStart c) := by
  unfold verifyOne verifyStart
  cases c.call with
  | token token =>
    refine congrArg (Db.read (tokenCheck rt c.env token) >>= ·) (funext fun plan => ?_)
    cases plan <;> rfl
  | reference refnum =>
    refine congrArg (Db.read (readReference refnum) >>= ·) (funext fun found => ?_)
    rcases found with _ | ⟨credential, institution⟩
    · rfl
    · dsimp only [afterReference]
      by_cases revoked : credential.status = .revoked
      · rw [if_pos revoked, if_pos revoked]
        rfl
      · rw [if_neg revoked, if_neg revoked]
        cases cryptographicStatus rt credential.vcPayload credential.signature with
        | valid =>
          exact (recorded_bind (referenceEvent rt c.env c.context credential .valid .confirmed)
            (validResult credential institution .valid) fun result =>
              Db.transaction (bill rt ⟨c.env, credential.uuid, institution.uuid⟩ result)).symm
        | invalid =>
          exact (recorded_bind _ _ pure).symm.trans (bind_pure_db _)
  | ain ain =>
    dsimp only
    unfold lookupAin
    dsimp only
    by_cases blank : normalizeIdentifier ain = ""
    · rw [if_pos blank, if_pos blank]
      rfl
    · rw [if_neg blank, if_neg blank]
      refine congrArg (Db.read (readLearner (normalizeIdentifier ain)) >>= ·)
        (funext fun read => ?_)
      refine congrArg (Db.read (fun s => .ok (activeCredentialCount (normalizeIdentifier ain) s))
        >>= ·) (funext fun count => ?_)
      rcases read with _ | ⟨learner, credentials, visibleCredentials⟩
      · rfl
      · dsimp only [afterCount]
        cases eventCredential credentials <;> rfl

/-! ### Runs -/

/-- The verifications that a bulk begins, unless it is refused. -/
def bulkBegins (rt : Runtime) (envs : ℕ → VerifyEnv) (body : Json)
    (context : VerificationContext) : List VerifyCall :=
  let (credentialRefs, ains) := bulkIdentifiers rt body
  let total := credentialRefs.length + ains.length
  if total = 0 ∨ 50 < total then []
  else (bulkCalls envs credentialRefs ains).map fun item => ⟨item.1, context, item.2⟩

/-- What happens next. -/
inductive VerifyTurn where
  | verify (c : VerifyCall)
  | bulkVerify (envs : ℕ → VerifyEnv) (body : Json) (context : VerificationContext)
  /-- The next call of the `k`-th verification to the database. -/
  | advance (k : ℕ) (outcome : Outcome)

/-- The verifications of a bulk all begin before any of them takes a step. -/
def turn (rt : Runtime) (p : Crowd Store Verifying) : VerifyTurn → Crowd Store Verifying
  | .verify c => (machine rt).turn p (.begin c)
  | .bulkVerify envs body context =>
    (bulkBegins rt envs body context).foldl (fun p c => (machine rt).turn p (.begin c)) p
  | .advance k outcome => (machine rt).turn p (.advance k outcome)

/-! ### The property -/

/-- How many fees an event has. -/
def fees (id : Uuid) (s : Store) : ℕ :=
  s.revenueLedger.rows.countP fun entry =>
    entry.category == .verificationFee && entry.verificationEventId == some id

/-- Whether there is an event with the id, for which a fee is owed. -/
def owed (id : Uuid) (s : Store) : Bool :=
  (s.verificationEvents.find? id).any owes

/-- An event has one fee if it is owed, and none otherwise. -/
def Billed (s : Store) : Prop :=
  ∀ id, fees id s = if owed id s then 1 else 0

/-- The event whose fee a verification is to write. -/
def Verifying.bills : Verifying → Option Uuid
  | .writing (.billing fee _) => some fee.env.eventUuid
  | _ => none

/-- Every event but those whose fee is still to be written is billed. -/
def Settled (p : Crowd Store Verifying) : Prop :=
  ∀ id, (∀ x ∈ p.programs, x.bills ≠ some id) → fees id p.store = if owed id p.store then 1 else 0

/-- A fee that is written after its event is written: its call does not fail, and its id is free. -/
def Pays (p : Crowd Store Verifying) : VerifyTurn → Prop
  | .advance k outcome => ∀ fee result, p.programs[k]? = some (.writing (.billing fee result)) →
      outcome = .done ∧ p.store.revenueLedger.find? fee.env.ledgerUuid = none
  | .verify .. | .bulkVerify .. => True

/-- With no fee still to be written, every event is billed. -/
theorem billed_iff_settled {p : Crowd Store Verifying}
    (none : ∀ x ∈ p.programs, x.bills = none) : Settled p ↔ Billed p.store := by
  refine ⟨fun settled id => settled id fun x inside => ?_, fun billed id _ => billed id⟩
  rw [none x inside]
  exact Option.some_ne_none id |>.symm

/-! ### What a step may do -/

/-- What a step writes: one event at most for which a fee is owed, and one fee at most. -/
structure Books (s t : Store) (new paid : Option Uuid) : Prop where
  fees : ∀ id, fees id t = fees id s + if paid = some id then 1 else 0
  owed : ∀ id, owed id t = (owed id s || new == some id)
  fresh : ∀ id, new = some id → Verification.owed id s = false

theorem books_refl (s : Store) : Books s s none none :=
  ⟨fun _ => by simp, fun _ => by simp, by simp⟩

theorem Books.trans {s t u : Store} {new paid : Option Uuid} (first : Books s t new none)
    (second : Books t u none paid) : Books s u new paid where
  fees id := by
    rw [second.fees, first.fees]
    simp
  owed id := by
    rw [second.owed, first.owed]
    simp
  fresh := first.fresh

/-- **A recorded event**, owed or not. -/
theorem books_createEvent {event : VerificationEvent} {s t : Store}
    (created : createEvent event s = .ok t) :
    Books s t (if owes event then some event.uuid else none) none := by
  unfold createEvent at created
  obtain ⟨events, inserted, same⟩ := bind_eq_ok.mp created
  rw [pure_eq_ok] at same
  have inserted := orThrow_eq_ok.mp inserted
  have absent : s.verificationEvents.find? event.uuid = none :=
    Table.find?_eq_none.mpr (Table.insert_eq_some.mp inserted).1
  have looked : ∀ id, Verification.owed id t =
      if event.uuid = id then owes event else Verification.owed id s := by
    intro id
    rw [← same]
    unfold Verification.owed
    dsimp only
    rw [Table.find?_insert inserted]
    split <;> rfl
  refine ⟨fun id => ?_, fun id => ?_, fun id is => ?_⟩
  · rw [← same]
    simp [Verification.fees]
  · rw [looked]
    by_cases here : event.uuid = id
    · subst here
      rw [if_pos rfl]
      cases owes event <;> simp [Verification.owed, absent]
    · rw [if_neg here]
      cases owes event <;> simp [here]
  · split_ifs at is
    rw [← Option.some.inj is]
    unfold Verification.owed
    rw [absent]
    rfl

/-- **A written fee.** -/
theorem books_recordVerificationRevenue {rt : Runtime} (positive : 0 < verificationFeeMinor rt)
    {env : VerifyEnv} {credentialId institutionId : Uuid} {description : String} {s t : Store}
    (billed : recordVerificationRevenue rt env credentialId institutionId description s = .ok t) :
    Books s t none (some env.eventUuid) := by
  unfold recordVerificationRevenue at billed
  dsimp only at billed
  rw [if_neg (not_le.mpr positive)] at billed
  obtain ⟨ledger, rows, rfl⟩ := createLedgerEntry_spec billed
  refine ⟨fun id => ?_, fun id => ?_, by simp⟩
  · unfold Verification.fees
    dsimp only
    rw [rows, List.countP_append, List.countP_singleton]
    simp
  · simp [Verification.owed]

/-- A fee is written exactly when its id is free. -/
theorem recordVerificationRevenue_isOk {rt : Runtime} (positive : 0 < verificationFeeMinor rt)
    {env : VerifyEnv} {credentialId institutionId : Uuid} {description : String} {s : Store} :
    (∃ t, recordVerificationRevenue rt env credentialId institutionId description s = .ok t) ↔
      s.revenueLedger.find? env.ledgerUuid = none := by
  unfold recordVerificationRevenue
  dsimp only
  rw [if_neg (not_le.mpr positive)]
  constructor
  · rintro ⟨t, billed⟩
    unfold createLedgerEntry at billed
    obtain ⟨ledger, inserted, -⟩ := bind_eq_ok.mp billed
    exact Table.find?_eq_none.mpr (Table.insert_eq_some.mp (orThrow_eq_ok.mp inserted)).1
  · intro free
    exact createLedgerEntry_of_fresh _ (Table.find?_eq_none.mp free)

/-- A share link writes its event and its fee, or neither. -/
theorem books_tokenCommit {rt : Runtime} (positive : 0 < verificationFeeMinor rt)
    {env : VerifyEnv} {context : VerificationContext} {plan : TokenPlan}
    {result : VerificationResult} {s t : Store}
    (written : tokenCommit rt env context plan s = .ok (result, t)) :
    ∃ id, Books s t id id := by
  cases plan with
  | notFound =>
    obtain ⟨-, rfl⟩ := Prod.mk.inj (Except.ok.inj written)
    exact ⟨none, books_refl s⟩
  | denied accessGrant reason =>
    obtain ⟨t', created, same⟩ := bind_eq_ok.mp written
    obtain ⟨-, rfl⟩ := Prod.mk.inj (pure_eq_ok.mp same)
    exact ⟨none, books_createEvent created⟩
  | inactive accessGrant credential =>
    obtain ⟨t', created, same⟩ := bind_eq_ok.mp written
    obtain ⟨-, rfl⟩ := Prod.mk.inj (pure_eq_ok.mp same)
    exact ⟨none, books_createEvent created⟩
  | confirmed accessGrant credential scopeViewed =>
    obtain ⟨counted, -, rest⟩ := bind_eq_ok.mp written
    obtain ⟨s', created, rest⟩ := bind_eq_ok.mp rest
    obtain ⟨s'', billed, same⟩ := bind_eq_ok.mp rest
    obtain ⟨-, rfl⟩ := Prod.mk.inj (pure_eq_ok.mp same)
    have event := books_createEvent created
    exact ⟨some env.eventUuid, Books.trans ⟨event.fees, event.owed, event.fresh⟩
      (books_recordVerificationRevenue positive billed)⟩

/-! ### One step -/

/-- Whether a verification is to write the fee of the event. -/
def Verifying.due (x : Verifying) (id : Uuid) : ℕ :=
  if x.bills = some id then 1 else 0

/-- A step that loses no fee: what was due or is new is due still or paid. -/
def Balanced (x y : Verifying) (s t : Store) : Prop :=
  ∃ new paid, Books s t new paid ∧ ∀ id,
    x.due id + (if new = some id then 1 else 0) = y.due id + if paid = some id then 1 else 0

/-- A step that loses one. -/
def Dropped (x y : Verifying) (s t : Store) : Prop :=
  y.bills = none ∧ t = s ∧ ∃ id, x.bills = some id

/-- A fee that is written goes through: its call does not fail, and its id is free. -/
def GoesThrough (outcome : Outcome) (x : Verifying) (s : Store) : Prop :=
  ∀ fee result, x = .writing (.billing fee result) →
    outcome = .done ∧ s.revenueLedger.find? fee.env.ledgerUuid = none

theorem balanced_of_still {x y : Verifying} {s : Store} (same : y.bills = x.bills) :
    Balanced x y s s := by
  refine ⟨none, none, books_refl s, fun id => ?_⟩
  unfold Verifying.due
  rw [same]

theorem bills_verifyFailed (x : Verifying) : (verifyFailed x).bills = none := by
  cases x with
  | writing writes => cases writes <;> rfl
  | _ => rfl

theorem bills_afterRead {α : Type} {next : α → Verifying} (none : ∀ a, (next a).bills = none)
    (read : Except ServiceError α) : (afterRead read next).bills = Option.none := by
  cases read with
  | ok a => exact none a
  | error e => rfl

theorem bills_afterReference (rt : Runtime) (env : VerifyEnv) (context : VerificationContext)
    (found : Option (Credential × Institution)) :
    (Verifying.writing (afterReference rt env context found)).bills = none := by
  rcases found with _ | ⟨credential, institution⟩
  · rfl
  · dsimp only [afterReference]
    split_ifs
    · rfl
    · split <;> rfl

theorem bills_afterCount (rt : Runtime) (env : VerifyEnv) (context : VerificationContext)
    (count : ℕ) (read : Option LearnerRead) :
    (Verifying.writing (afterCount rt env context count read)).bills = none := by
  rcases read with _ | ⟨learner, credentials, visibleCredentials⟩
  · rfl
  · dsimp only [afterCount]
    split <;> rfl

theorem bills_afterToken (env : VerifyEnv) (context : VerificationContext) (plan : TokenPlan) :
    (Verifying.writing (afterToken env context plan)).bills = none := by
  cases plan <;> rfl

/-- A write that goes through or leaves nothing, of a verification that owes nothing. -/
theorem balanced_committed {x : Verifying} (none : x.bills = none)
    {write : Store → Except ServiceError (VerificationResult × Store)}
    {next : VerificationResult → Writing} {s : Store}
    (writes : ∀ result t, write s = .ok (result, t) →
      Balanced x (.writing (next result)) s t) :
    Balanced x (.writing (committed write next s).1) s (committed write next s).2 := by
  unfold committed
  cases wrote : write s with
  | error e => exact balanced_of_still none.symm
  | ok pair => exact writes pair.1 pair.2 wrote

/-- **A write that loses no fee.** -/
theorem balanced_writeDone {rt : Runtime} (positive : 0 < verificationFeeMinor rt)
    (writes : Writing) (s : Store) (goes : GoesThrough .done (.writing writes) s) :
    Balanced (.writing writes) (.writing (writeDone rt writes s).1) s
      (writeDone rt writes s).2 := by
  cases writes with
  | committing env context plan =>
    refine balanced_committed rfl fun result t wrote => ?_
    obtain ⟨id, books⟩ := books_tokenCommit positive wrote
    exact ⟨id, id, books, fun _ => rfl⟩
  | confirming confirmation result =>
    refine balanced_committed rfl fun answer t wrote => ?_
    obtain ⟨t', created, same⟩ := bind_eq_ok.mp wrote
    obtain ⟨-, rfl⟩ := Prod.mk.inj (pure_eq_ok.mp same)
    have books := books_createEvent created
    rw [confirmation.owed, if_pos rfl, confirmation.same] at books
    refine ⟨some confirmation.fee.env.eventUuid, none, books, fun id => ?_⟩
    exact Nat.zero_add _
  | billing fee result =>
    obtain ⟨t, billed⟩ := (recordVerificationRevenue_isOk positive).mpr (goes fee result rfl).2
    have wrote : bill rt fee result s = .ok (result, t) := bind_eq_ok.mpr ⟨t, billed, rfl⟩
    dsimp only [writeDone, committed]
    rw [wrote]
    refine ⟨none, some fee.env.eventUuid, books_recordVerificationRevenue positive billed,
      fun id => ?_⟩
    exact (Nat.zero_add _).symm
  | recording event result =>
    refine balanced_committed rfl fun answer t wrote => ?_
    obtain ⟨t', created, same⟩ := bind_eq_ok.mp wrote
    obtain ⟨-, rfl⟩ := Prod.mk.inj (pure_eq_ok.mp same)
    have books := books_createEvent created
    rw [event.free] at books
    exact ⟨none, none, books, fun _ => rfl⟩
  | ended result => exact balanced_of_still rfl

/-- **A step that loses no fee.** -/
theorem balanced_step {rt : Runtime} (positive : 0 < verificationFeeMinor rt) {outcome : Outcome}
    {x : Verifying} {s : Store} (goes : GoesThrough outcome x s) :
    Balanced x ((machine rt).step outcome x s).1 s ((machine rt).step outcome x s).2 := by
  cases outcome with
  | failed =>
    refine balanced_of_still ((bills_verifyFailed x).trans ?_)
    cases x with
    | writing writes =>
      cases writes with
      | billing fee result => exact absurd (goes fee result rfl).1 (by simp)
      | _ => rfl
    | _ => rfl
  | done =>
    cases x with
    | readingToken env token context =>
      exact balanced_of_still (bills_afterRead (bills_afterToken env context) _)
    | readingReference env refnum context =>
      exact balanced_of_still (bills_afterRead (bills_afterReference rt env context) _)
    | readingLearner env ain context =>
      exact balanced_of_still (bills_afterRead (fun _ => rfl) _)
    | counting env ain context read =>
      exact balanced_of_still (bills_afterCount rt env context _ read)
    | writing writes => exact balanced_writeDone positive writes s goes

/-- **A step that loses a fee.** -/
theorem dropped_step {rt : Runtime} (positive : 0 < verificationFeeMinor rt) {outcome : Outcome}
    {x : Verifying} {s : Store} (lost : ¬ GoesThrough outcome x s) :
    Dropped x ((machine rt).step outcome x s).1 s ((machine rt).step outcome x s).2 := by
  simp only [GoesThrough, not_forall] at lost
  obtain ⟨fee, result, rfl, lost⟩ := lost
  cases outcome with
  | failed => exact ⟨rfl, rfl, _, rfl⟩
  | done =>
    have refused : ∃ e, bill rt fee result s = .error e := by
      cases billed : bill rt fee result s with
      | error e => exact ⟨e, rfl⟩
      | ok pair =>
        obtain ⟨t, wrote, -⟩ := bind_eq_ok.mp billed
        exact absurd ⟨rfl, (recordVerificationRevenue_isOk positive).mp ⟨t, wrote⟩⟩ lost
    obtain ⟨e, refused⟩ := refused
    dsimp only [machine, verifyDone, writeDone, committed]
    rw [refused]
    exact ⟨rfl, rfl, _, rfl⟩

/-! ### The account of a run -/

/-- How many verifications are to write the fee of the event. -/
def dueIn (id : Uuid) (programs : List Verifying) : ℕ :=
  programs.countP fun x => x.bills == some id

/-- **The account**: the fees of an event that are written or due are one if it is owed, and none
otherwise. -/
def Accounted (p : Crowd Store Verifying) : Prop :=
  ∀ id, fees id p.store + dueIn id p.programs = if owed id p.store then 1 else 0

/-- An event without its fee, which no verification is to write any more. -/
def Lost (p : Crowd Store Verifying) : Prop :=
  ∃ id, owed id p.store = true ∧ fees id p.store = 0 ∧ dueIn id p.programs = 0

theorem dueIn_eq_zero {id : Uuid} {programs : List Verifying} :
    dueIn id programs = 0 ↔ ∀ x ∈ programs, x.bills ≠ some id := by
  simp [dueIn]

theorem dueIn_set (id : Uuid) {programs : List Verifying} {k : ℕ} {x : Verifying}
    (found : programs[k]? = some x) (y : Verifying) :
    dueIn id (programs.set k y) + x.due id = dueIn id programs + y.due id := by
  have counted := countP_set_add (fun x : Verifying => x.bills == some id) found y
  simp only [beq_iff_eq] at counted
  exact counted

theorem bills_verifyStart (c : VerifyCall) : (verifyStart c).bills = none := by
  unfold verifyStart
  cases c.call with
  | ain ain =>
    dsimp only
    split_ifs <;> rfl
  | _ => rfl

theorem dueIn_begins (id : Uuid) (programs : List Verifying) (calls : List VerifyCall) :
    dueIn id (programs ++ calls.map verifyStart) = dueIn id programs := by
  unfold dueIn
  rw [List.countP_append, Nat.add_eq_left, List.countP_eq_zero]
  intro x inside
  obtain ⟨c, -, rfl⟩ := List.mem_map.mp inside
  simp [bills_verifyStart]

theorem foldl_begins (rt : Runtime) (calls : List VerifyCall) (p : Crowd Store Verifying) :
    calls.foldl (fun p c => (machine rt).turn p (.begin c)) p =
      { p with programs := p.programs ++ calls.map verifyStart } := by
  induction calls generalizing p with
  | nil => simp
  | cons c calls ih =>
    rw [List.foldl_cons, ih]
    simp [Machine.turn, machine]

/-- The verifications that an event of a run begins. -/
def begins (rt : Runtime) : VerifyTurn → List VerifyCall
  | .verify c => [c]
  | .bulkVerify envs body context => bulkBegins rt envs body context
  | .advance .. => []

/-- What a turn does: verifications begin, or one takes a step, or nothing happens. -/
theorem turn_cases (rt : Runtime) (p : Crowd Store Verifying) (e : VerifyTurn) :
    (Pays p e ∧ turn rt p e =
        { p with programs := p.programs ++ (begins rt e).map verifyStart }) ∨
      ∃ k outcome x, p.programs[k]? = some x ∧ (Pays p e ↔ GoesThrough outcome x p.store) ∧
        turn rt p e =
          { store := ((machine rt).step outcome x p.store).2
            programs := p.programs.set k ((machine rt).step outcome x p.store).1 } := by
  cases e with
  | verify c => exact .inl ⟨trivial, rfl⟩
  | bulkVerify envs body context => exact .inl ⟨trivial, foldl_begins rt _ p⟩
  | advance k outcome =>
    cases found : p.programs[k]? with
    | none =>
      refine .inl ⟨fun fee result here => ?_, ?_⟩
      · rw [found] at here
        exact absurd here (by simp)
      · refine (Machine.turn_nobody found).trans ?_
        simp [begins]
    | some x =>
      refine .inr ⟨k, outcome, x, found, ?_, Machine.turn_advance found⟩
      unfold Pays GoesThrough
      dsimp only
      rw [found]
      simp only [Option.some.injEq]

/-- **A turn that loses no fee keeps the account.** -/
theorem accounted_turn {rt : Runtime} (positive : 0 < verificationFeeMinor rt)
    {p : Crowd Store Verifying} {e : VerifyTurn} (accounted : Accounted p) (pays : Pays p e) :
    Accounted (turn rt p e) := by
  intro id
  rcases turn_cases rt p e with ⟨-, begun⟩ | ⟨k, outcome, x, found, goes, moved⟩
  · rw [begun]
    dsimp only
    rw [dueIn_begins]
    exact accounted id
  · obtain ⟨new, paid, books, balance⟩ := balanced_step positive (goes.mp pays)
    have before := accounted id
    have due := dueIn_set id found ((machine rt).step outcome x p.store).1
    have balance := balance id
    rw [moved]
    dsimp only
    rw [books.fees id, books.owed id]
    by_cases made : new = some id
    · rw [books.fresh id made] at before ⊢
      simp only [made, if_true, beq_self_eq_true, Bool.or_true] at balance ⊢
      simp only [Bool.false_eq_true, if_false] at before
      omega
    · rw [if_neg made] at balance
      have other : (new == some id) = false := by simpa using made
      rw [other, Bool.or_false]
      omega

/-- A turn that loses a fee leaves its event without one. -/
theorem lost_turn {rt : Runtime} (positive : 0 < verificationFeeMinor rt)
    {p : Crowd Store Verifying} {e : VerifyTurn} (accounted : Accounted p)
    (unpaid : ¬ Pays p e) : Lost (turn rt p e) := by
  rcases turn_cases rt p e with ⟨pays, -⟩ | ⟨k, outcome, x, found, goes, moved⟩
  · exact absurd pays unpaid
  · have stops := dropped_step positive (fun through => unpaid (goes.mpr through))
    obtain ⟨over_, same, id, billing⟩ := stops
    have before := accounted id
    have due := dueIn_set id found ((machine rt).step outcome x p.store).1
    simp only [Verifying.due, billing, over_, if_true, reduceCtorEq, if_false] at due
    rw [moved]
    refine ⟨id, ?_, ?_, ?_⟩
    · dsimp only
      rw [same]
      by_contra free
      rw [if_neg free] at before
      omega
    · dsimp only
      rw [same]
      split_ifs at before <;> omega
    · dsimp only
      split_ifs at before <;> omega

/-- **A lost fee stays lost.** -/
theorem lost_stays {rt : Runtime} (positive : 0 < verificationFeeMinor rt)
    {p : Crowd Store Verifying} (e : VerifyTurn) (lost : Lost p) : Lost (turn rt p e) := by
  obtain ⟨id, open_, none, alone⟩ := lost
  refine ⟨id, ?_⟩
  rcases turn_cases rt p e with ⟨-, begun⟩ | ⟨k, outcome, x, found, -, moved⟩
  · rw [begun]
    dsimp only
    rw [dueIn_begins]
    exact ⟨open_, none, alone⟩
  · have due := dueIn_set id found ((machine rt).step outcome x p.store).1
    have idle : x.due id = 0 := if_neg (dueIn_eq_zero.mp alone x (List.mem_of_getElem? found))
    rw [moved]
    dsimp only
    by_cases goes : GoesThrough outcome x p.store
    · obtain ⟨new, paid, books, balance⟩ := balanced_step positive goes
      have balance := balance id
      have old : new ≠ some id := by
        intro made
        rw [books.fresh id made] at open_
        exact Bool.false_ne_true open_
      rw [if_neg old] at balance
      rw [books.fees, books.owed, open_, Bool.true_or]
      exact ⟨rfl, by omega, by omega⟩
    · obtain ⟨over_, same, -⟩ := dropped_step positive goes
      rw [same]
      have ended : ((machine rt).step outcome x p.store).1.due id = 0 := by
        unfold Verifying.due
        rw [over_]
        rfl
      exact ⟨open_, none, by omega⟩

theorem settled_of_accounted {p : Crowd Store Verifying} (accounted : Accounted p) : Settled p := by
  intro id alone
  rw [← accounted id, dueIn_eq_zero.mpr alone, Nat.add_zero]

theorem not_settled_of_lost {p : Crowd Store Verifying} (lost : Lost p) : ¬ Settled p := by
  obtain ⟨id, open_, none, alone⟩ := lost
  intro settled
  have paid := settled id (dueIn_eq_zero.mp alone)
  rw [open_, none] at paid
  exact absurd paid (by decide)

/-- **Every event is billed** at the end of a run exactly when every fee that is written after its
event has been written: its call has not failed, and its id was free. An event whose fee a
verification is still to write counts as settled. -/
theorem billed_iff_pays (rt : Runtime) (positive : 0 < verificationFeeMinor rt) (start : Store)
    (billed : Billed start) (turns : List VerifyTurn) :
    (Settled (runs (turn rt) ⟨start, []⟩ turns) ↔ Along (turn rt) Pays ⟨start, []⟩ turns) ∧
      ((∀ x ∈ (runs (turn rt) ⟨start, []⟩ turns).programs, x.bills = none) →
        (Billed (runs (turn rt) ⟨start, []⟩ turns).store ↔
          Along (turn rt) Pays ⟨start, []⟩ turns)) := by
  have opening : Accounted ⟨start, []⟩ := billed
  have settled : Settled (runs (turn rt) ⟨start, []⟩ turns) ↔
      Along (turn rt) Pays ⟨start, []⟩ turns :=
    runs_iff_of_trap (fun _ _ => accounted_turn positive) (fun _ => settled_of_accounted)
      (fun _ _ => lost_turn positive) (fun _ => lost_stays positive)
      (fun _ => not_settled_of_lost) opening turns
  exact ⟨settled, fun ended => (billed_iff_settled ended).symm.trans settled⟩

/-! ### A fee that fails after its event -/

/-- A fee of one naira. -/
def feeRuntime : Runtime :=
  { Runtime.plain with
    parseInt text := if text = "100" then some 100 else none
    env name := if name = "ACADID_VERIFICATION_FEE_MINOR" then some "100" else none }

/-- What the shared credential says, signed. -/
def signedFields : List (String × Json) :=
  [("id", .str "urn:uuid:80000000-0000-4000-8000-000000000001")]

def signedPayload : Signed :=
  sign feeRuntime 1 (.obj signedFields)

def signedCredential : Credential where
  uuid := "90000000-0000-4000-8000-000000000001"
  credentialRef := "80000000-0000-4000-8000-000000000001"
  learnerId := "40000000-0000-4000-8000-000000000001"
  institutionId := "10000000-0000-4000-8000-000000000001"
  academicRecordId := none
  recordRequestId := none
  type := .transcript
  scope := .obj []
  vcPayload := signedPayload.stored
  signature := some signedPayload.signature
  status := .active
  issuedAt := 1
  revokedAt := none
  revocationReason := none

def signedStore : Store :=
  { sharedCredential with credentials := .single signedCredential }

theorem verifies_signed : IssuedCredentials.Verifies feeRuntime signedCredential := by
  have keys : KeyPair feeRuntime :=
    ⟨keyPair_plain.verifies, keyPair_plain.filled, keyPair_plain.undotted⟩
  have distinct : Json.Distinct (.obj signedFields) := ⟨by decide, trivial, trivial⟩
  have unproved : ∀ f ∈ signedFields, f.1 ≠ "proof" := by decide
  exact IssuedCredentials.verifies_of_signed keys distinct unproved rfl rfl

theorem cryptographicStatus_signed :
    cryptographicStatus feeRuntime signedCredential.vcPayload signedCredential.signature =
      .valid :=
  verifies_signed signedCredential.vcPayload (Json.same_refl signedCredential.vcPayload)

def referenceCall : VerifyCall :=
  ⟨visit "e0000000-0000-4000-8000-000000000001", visitor,
    .reference "80000000-0000-4000-8000-000000000001"⟩

def referenceFee : ReferenceFee :=
  ⟨referenceCall.env, signedCredential.uuid, "10000000-0000-4000-8000-000000000001"⟩

/-- The reference, with its event and not yet its fee. -/
def confirmedStore : Store :=
  { signedStore with
    verificationEvents := .single
      (referenceEvent feeRuntime referenceCall.env visitor signedCredential .valid .confirmed) }

/-- A reference is read, its event is recorded, and its fee is written, if the last call does not
fail. -/
def referenceRun (last : Outcome) : List VerifyTurn :=
  [.verify referenceCall, .advance 0 .done, .advance 0 .done, .advance 0 last]

def school : Institution :=
  ⟨"10000000-0000-4000-8000-000000000001", "ACD-0001", "First School", .active⟩

def referenceResult : VerificationResult :=
  validResult signedCredential school .valid

/-- The reference is found valid. -/
theorem runs_read :
    runs (turn feeRuntime) ⟨signedStore, []⟩ [.verify referenceCall, .advance 0 .done] =
      ⟨signedStore, [.writing (.confirming
        (confirmationOf feeRuntime referenceCall.env visitor signedCredential school)
        referenceResult)]⟩ := by
  have read : runs (turn feeRuntime) ⟨signedStore, []⟩ [.verify referenceCall, .advance 0 .done] =
      ⟨signedStore, [.writing (afterReference feeRuntime referenceCall.env visitor
        (some (signedCredential, school)))]⟩ := rfl
  rw [read, afterReference_valid (by decide) cryptographicStatus_signed]
  rfl

/-- Its event is recorded. -/
theorem runs_confirmed :
    runs (turn feeRuntime) ⟨signedStore, []⟩
        [.verify referenceCall, .advance 0 .done, .advance 0 .done] =
      ⟨confirmedStore, [.writing (.billing referenceFee referenceResult)]⟩ := by
  show turn feeRuntime (runs (turn feeRuntime) ⟨signedStore, []⟩
    [.verify referenceCall, .advance 0 .done]) (.advance 0 .done) = _
  rw [runs_read]
  rfl

theorem runs_reference (last : Outcome) :
    runs (turn feeRuntime) ⟨signedStore, []⟩ (referenceRun last) =
      turn feeRuntime ⟨confirmedStore, [.writing (.billing referenceFee referenceResult)]⟩
        (.advance 0 last) := by
  rw [← runs_confirmed]
  rfl

/-- With its fee, the event is billed. -/
theorem billed_reference :
    Billed (runs (turn feeRuntime) ⟨signedStore, []⟩ (referenceRun .done)).store := by
  have ended : ∀ x ∈ (runs (turn feeRuntime) ⟨signedStore, []⟩ (referenceRun .done)).programs,
      x.bills = none := by
    rw [runs_reference]
    decide
  refine ((billed_iff_pays feeRuntime (by decide) signedStore (fun _ => rfl) _).2 ended).mpr ?_
  refine ⟨trivial, fun fee result here => ?_, fun fee result here => ?_, fun fee result here => ?_,
    trivial⟩
  · exact Verifying.noConfusion (Option.some.inj here)
  · change (runs (turn feeRuntime) ⟨signedStore, []⟩
      [.verify referenceCall, .advance 0 .done]).programs[0]? = _ at here
    rw [runs_read] at here
    exact absurd (Option.some.inj here) (by simp)
  · change (runs (turn feeRuntime) ⟨signedStore, []⟩
      [.verify referenceCall, .advance 0 .done, .advance 0 .done]).programs[0]? = _ at here
    rw [runs_confirmed] at here
    obtain ⟨rfl, -⟩ := Writing.billing.inj (Verifying.writing.inj (Option.some.inj here))
    refine ⟨rfl, ?_⟩
    show (runs (turn feeRuntime) ⟨signedStore, []⟩
      [.verify referenceCall, .advance 0 .done, .advance 0 .done]).store.revenueLedger.find? _ = _
    rw [runs_confirmed]
    rfl

/-- **Not every run is billed at its end**: when the fee fails after the event is written, the
confirmed event has none. -/
theorem billed_fails :
    ¬ ∀ (rt : Runtime) (start : Store) (turns : List VerifyTurn), 0 < verificationFeeMinor rt →
      Billed start → (∀ x ∈ (runs (turn rt) ⟨start, []⟩ turns).programs, x.result.isSome = true) →
        Billed (runs (turn rt) ⟨start, []⟩ turns).store := by
  intro all
  have billed := all feeRuntime signedStore (referenceRun .failed) (by decide) (fun _ => rfl)
  rw [runs_reference] at billed
  exact absurd (billed (by decide) referenceCall.env.eventUuid) (by decide)

end Verification

end AcadID
