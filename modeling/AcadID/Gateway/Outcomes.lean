/-
**The outcome a verifier is told and the outcome that is stored.**

* `recordedOutcomes` — the outcomes of the events that a program has added.
* `Faithful` — the answer has the outcome that was recorded, and `CONFIRMED` is answered only for an
  active credential, whose signature verifies where the call checks it.
* `Agreeing` — what the store must hold for that: the credential of a link that is not denied is
  active or revoked; that of a reference is revoked, or active with a valid signature; the learner
  of an identity number has no credential, or an active one.
* `faithful_iff` — **each of the three verifications, alone or among many, is faithful exactly when
  the store agrees.**
-/

import AcadID.Gateway.Verification

namespace AcadID.Verification

open Lib

/-! ### Faithful answers -/

/-- The outcomes of the events that the second store has over the first. -/
def recordedOutcomes (s t : Store) : List VerificationOutcome :=
  (t.verificationEvents.rows.drop s.verificationEvents.rows.length).map (·.outcome)

def credentialByRef (refnum : String) (s : Store) : Option Credential :=
  s.credentials.rows.find? fun credential => credential.credentialRef == refnum

/-- The credential of the call is active, and its signature verifies where the call checks it. -/
def Backed (rt : Runtime) (s : Store) : VerificationCall → Prop
  | .token token => ∃ accessGrant credential, accessGrantByToken rt token s = some accessGrant ∧
      s.credentials.find? accessGrant.credentialId = some credential ∧ credential.status = .active
  | .reference refnum => ∃ credential, credentialByRef refnum s = some credential ∧
      credential.status = .active ∧
      cryptographicStatus rt credential.vcPayload credential.signature = .valid
  | .ain _ => True

/-- A call that began at `s`, ended at `t` and was answered with `result`. -/
def Faithful (rt : Runtime) (call : VerificationCall) (s t : Store) (result : VerificationResult) :
    Prop :=
  (∀ outcome ∈ recordedOutcomes s t, outcome = result.outcome) ∧
    (result.outcome = .confirmed → Backed rt s call)

/-- What the store holds of the identifier of a call that is answered faithfully. -/
def Agreeing (rt : Runtime) (env : VerifyEnv) (s : Store) : VerificationCall → Prop
  | .token token => ∀ accessGrant credential, accessGrantByToken rt token s = some accessGrant →
      s.credentials.find? accessGrant.credentialId = some credential →
      deniedReason env.now accessGrant = none →
        credential.status = .active ∨ credential.status = .revoked
  | .reference refnum => ∀ credential, credentialByRef refnum s = some credential →
      credential.status = .revoked ∨ credential.status = .active ∧
        cryptographicStatus rt credential.vcPayload credential.signature = .valid
  | .ain ain => ∀ learner, learnerByAin (normalizeIdentifier ain) s = some learner →
      (∀ credential ∈ s.credentials.rows, credential.learnerId ≠ learner.uuid) ∨
        0 < activeCredentialCount (normalizeIdentifier ain) s

/-- What a verification reads of a credential it leaves as it is. -/
structure Kept (s t : Store) : Prop where
  credentials : t.credentials = s.credentials
  learners : t.learners = s.learners
  institutions : t.institutions = s.institutions

theorem kept_refl (s : Store) : Kept s s :=
  ⟨rfl, rfl, rfl⟩

theorem recordedOutcomes_self (s : Store) : recordedOutcomes s s = [] := by
  unfold recordedOutcomes
  rw [List.drop_length, List.map_nil]

theorem recordedOutcomes_of_append {s t : Store} {event : VerificationEvent}
    (rows : t.verificationEvents.rows = s.verificationEvents.rows ++ [event]) :
    recordedOutcomes s t = [event.outcome] := by
  unfold recordedOutcomes
  rw [rows, List.drop_left, List.map_singleton]

/-- An answer without an event. -/
theorem faithful_unrecorded {rt : Runtime} {call : VerificationCall} {s : Store}
    {result : VerificationResult} :
    Faithful rt call s s result ↔ (result.outcome = .confirmed → Backed rt s call) := by
  unfold Faithful
  rw [recordedOutcomes_self]
  simp

/-- An answer behind one event. -/
theorem faithful_recorded {rt : Runtime} {call : VerificationCall} {s t : Store}
    {result : VerificationResult} {event : VerificationEvent}
    (rows : t.verificationEvents.rows = s.verificationEvents.rows ++ [event]) :
    Faithful rt call s t result ↔
      event.outcome = result.outcome ∧ (result.outcome = .confirmed → Backed rt s call) := by
  unfold Faithful
  rw [recordedOutcomes_of_append rows]
  simp

/-- What holds of a call however its calls to the database end: it keeps what it reads, and an
answer is faithful exactly under `agreeing`. -/
def Judged (rt : Runtime) (call : VerificationCall) (agreeing : Prop) (s : Store)
    (r : Except ServiceError VerificationResult) (t : Store) : Prop :=
  Kept s t ∧ ∀ result, r = .ok result → (Faithful rt call s t result ↔ agreeing)

theorem judged_error {rt : Runtime} {call : VerificationCall} {agreeing : Prop} {s t : Store}
    {e : ServiceError} (kept : Kept s t) : Judged rt call agreeing s (.error e) t :=
  ⟨kept, fun _ is => absurd is (by simp)⟩

/-- The rule of a call that records one event and answers. -/
theorem ensures_recorded {rt : Runtime} {call : VerificationCall} {agreeing : Prop} {s : Store}
    {event : VerificationEvent} {answer : VerificationResult}
    (judged : (event.outcome = answer.outcome ∧ (answer.outcome = .confirmed → Backed rt s call)) ↔
      agreeing) :
    (Db.transaction (recorded event answer)).Ensures s (Judged rt call agreeing s) := by
  refine Async.ensures_transaction (judged_error (kept_refl s))
    (fun e _ => judged_error (kept_refl s)) fun result t written => ?_
  obtain ⟨rfl, events, rows, rfl⟩ := recorded_spec written
  refine ⟨⟨rfl, rfl, rfl⟩, fun result is => ?_⟩
  obtain rfl := Except.ok.inj is
  rw [← judged]
  exact faithful_recorded rows

/-! ### The three verifications -/

theorem verifyToken_judged (rt : Runtime) (env : VerifyEnv) (token : String)
    (context : VerificationContext) (s : Store) :
    (verifyToken rt env token context).Ensures s
      (Judged rt (.token token) (Agreeing rt env s (.token token)) s) := by
  unfold verifyToken
  refine Async.ensures_bind (Async.ensures_query (judged_error (kept_refl s)) ?_)
  cases checked : tokenCheck rt env token s with
  | error e => exact judged_error (kept_refl s)
  | ok plan =>
    have saw := tokenCheck_saw checked
    cases plan with
    | notFound =>
      refine Async.ensures_pure ⟨kept_refl s, fun result is => ?_⟩
      obtain rfl := Except.ok.inj is
      rw [faithful_unrecorded]
      refine ⟨fun _ accessGrant credential found => ?_, fun _ confirmed => absurd confirmed (by simp)⟩
      rw [show accessGrantByToken rt token s = none from saw] at found
      exact absurd found (by simp)
    | denied accessGrant reason =>
      refine ensures_recorded ⟨fun _ other credential found _ free => ?_, fun _ => ?_⟩
      · obtain rfl := Option.some.inj (saw.1.symm.trans found)
        rw [saw.2] at free
        exact absurd free (by simp)
      · exact ⟨rfl, fun confirmed => absurd confirmed (by simp)⟩
    | inactive accessGrant credential =>
      obtain ⟨found, held, free, inactive⟩ := saw
      refine ensures_recorded ⟨fun both other read foundOther heldRead _ => ?_, fun agreeing => ?_⟩
      · obtain rfl := Option.some.inj (found.symm.trans foundOther)
        obtain rfl := Option.some.inj (held.symm.trans heldRead)
        exact .inr (by simpa [newEvent] using both.1)
      · have revoked := (agreeing accessGrant credential found held free).resolve_left inactive
        refine ⟨(if_pos revoked).symm, fun confirmed => ?_⟩
        rw [if_pos revoked] at confirmed
        exact absurd confirmed (by simp)
    | confirmed accessGrant credential scopeViewed =>
      obtain ⟨found, held, free, active⟩ := saw
      refine Async.ensures_transaction (judged_error (kept_refl s))
        (fun e _ => judged_error (kept_refl s)) fun answer t disclosed => ?_
      obtain ⟨rfl, row, events, ledger, -, rows, rfl⟩ := disclose_spec disclosed
      refine ⟨⟨rfl, rfl, rfl⟩, fun result is => ?_⟩
      obtain rfl := Except.ok.inj is
      rw [faithful_recorded rows]
      refine ⟨fun _ other read foundOther heldRead _ => ?_, fun _ => ⟨rfl, fun _ => ?_⟩⟩
      · obtain rfl := Option.some.inj (found.symm.trans foundOther)
        obtain rfl := Option.some.inj (held.symm.trans heldRead)
        exact .inl active
      · exact ⟨accessGrant, credential, found, held, active⟩

theorem readReference_eq_ok {refnum : String} {s : Store}
    {read : Option (Credential × Institution)} (checked : readReference refnum s = .ok read) :
    read.map Prod.fst = credentialByRef refnum s := by
  unfold readReference at checked
  unfold credentialByRef
  split at checked
  · rename_i missing
    obtain rfl := Except.ok.inj checked
    exact missing.symm
  · rename_i credential found
    obtain ⟨institution, -, same⟩ := bind_eq_ok.mp checked
    rw [pure_eq_ok] at same
    rw [found, ← same]
    rfl

theorem verifyReference_judged (rt : Runtime) (env : VerifyEnv) (refnum : String)
    (context : VerificationContext) (s : Store) :
    (verifyReference rt env refnum context).Ensures s
      (Judged rt (.reference refnum) (Agreeing rt env s (.reference refnum)) s) := by
  unfold verifyReference
  refine Async.ensures_bind (Async.ensures_query (judged_error (kept_refl s)) ?_)
  cases checked : readReference refnum s with
  | error e => exact judged_error (kept_refl s)
  | ok read =>
    have found := readReference_eq_ok checked
    cases read with
    | none =>
      refine Async.ensures_pure ⟨kept_refl s, fun result is => ?_⟩
      obtain rfl := Except.ok.inj is
      rw [faithful_unrecorded]
      refine ⟨fun _ credential here => ?_, fun _ confirmed => absurd confirmed (by simp)⟩
      rw [← found] at here
      exact absurd here (by simp)
    | some pair =>
      obtain ⟨credential, institution⟩ := pair
      have found : credentialByRef refnum s = some credential := found.symm
      dsimp only
      by_cases revoked : credential.status = .revoked
      · rw [if_pos revoked]
        refine ensures_recorded ⟨fun _ other here => ?_, fun _ => ?_⟩
        · obtain rfl := Option.some.inj (found.symm.trans here)
          exact .inl revoked
        · exact ⟨rfl, fun confirmed => absurd confirmed (by simp)⟩
      · rw [if_neg revoked]
        generalize status : cryptographicStatus rt credential.vcPayload credential.signature = status'
        have judged : ∀ event : VerificationEvent,
            event.outcome = (if status' = .valid then .confirmed else .discrepancy) →
              ((event.outcome = .confirmed ∧
                (VerificationOutcome.confirmed = .confirmed → Backed rt s (.reference refnum))) ↔
              Agreeing rt env s (.reference refnum)) := by
          intro event outcome
          constructor
          · rintro ⟨-, backed⟩ other here
            obtain ⟨c, foundC, active, valid⟩ := backed rfl
            obtain rfl := Option.some.inj (foundC.symm.trans here)
            exact .inr ⟨active, valid⟩
          · intro agreeing
            obtain ⟨active, valid⟩ := (agreeing credential found).resolve_left revoked
            rw [outcome, if_pos (status.symm.trans valid)]
            exact ⟨rfl, fun _ => ⟨credential, found, active, valid⟩⟩
        refine Async.ensures_bind (Async.ensures_transaction (judged_error (kept_refl s))
          (fun e _ => judged_error (kept_refl s)) fun answer t written => ?_)
        obtain ⟨-, events, rows, rfl⟩ := recorded_spec written
        by_cases valid : status' = .valid
        · rw [if_pos valid]
          refine Async.ensures_transaction (judged_error ⟨rfl, rfl, rfl⟩)
            (fun e _ => judged_error ⟨rfl, rfl, rfl⟩) fun answer' t billed => ?_
          obtain ⟨t', fee, same⟩ := bind_eq_ok.mp billed
          obtain ⟨ledger, rfl⟩ := recordVerificationRevenue_spec fee
          rw [pure_eq_ok] at same
          obtain ⟨rfl, rfl⟩ := Prod.mk.inj same
          refine ⟨⟨rfl, rfl, rfl⟩, fun result is => ?_⟩
          obtain rfl := Except.ok.inj is
          rw [faithful_recorded rows]
          exact judged _ rfl
        · rw [if_neg valid]
          refine Async.ensures_pure ⟨⟨rfl, rfl, rfl⟩, fun result is => ?_⟩
          obtain rfl := Except.ok.inj is
          rw [faithful_recorded rows]
          exact judged _ rfl

theorem latestCredentials_eq_nil {s : Store} {learner : Learner} :
    latestCredentials s learner = [] ↔
      ∀ credential ∈ s.credentials.rows, credential.learnerId ≠ learner.uuid := by
  unfold latestCredentials
  rw [List.take_eq_nil_iff]
  simp only [OfNat.ofNat_ne_zero, false_or]
  rw [← List.length_eq_zero_iff, List.length_insertionSort, List.length_eq_zero_iff,
    List.filter_eq_nil_iff]
  simp

theorem readLearner_eq_ok {ain : String} {s : Store} {read : Option LearnerRead}
    (checked : readLearner ain s = .ok read) :
    match read with
    | none => learnerByAin ain s = none
    | some read => learnerByAin ain s = some read.learner ∧
        read.credentials = latestCredentials s read.learner := by
  unfold readLearner at checked
  split at checked
  · rename_i missing
    obtain rfl := Except.ok.inj checked
    exact missing
  · rename_i learner found
    obtain ⟨visible, -, same⟩ := bind_eq_ok.mp checked
    rw [pure_eq_ok] at same
    subst same
    exact ⟨found, rfl⟩

theorem eventCredential_eq_none {credentials : List Credential} :
    eventCredential credentials = none ↔ credentials = [] := by
  unfold eventCredential
  cases credentials with
  | nil => simp
  | cons credential rest =>
    simp only [List.head?_cons, reduceCtorEq, iff_false]
    cases List.find? (fun c => c.status == .active) (credential :: rest) <;> simp

theorem lookupAin_judged (rt : Runtime) (env : VerifyEnv) (ain : String)
    (context : VerificationContext) (s : Store) :
    (lookupAin rt env ain context).Ensures s
      (Judged rt (.ain ain) (Agreeing rt env s (.ain ain)) s) := by
  unfold lookupAin
  dsimp only
  split_ifs with blank
  · exact Async.ensures_bind (Async.ensures_throw (judged_error (kept_refl s)))
  refine Async.ensures_bind (Async.ensures_query (judged_error (kept_refl s)) ?_)
  cases checked : readLearner (normalizeIdentifier ain) s with
  | error e => exact judged_error (kept_refl s)
  | ok read =>
    have found := readLearner_eq_ok checked
    refine Async.ensures_bind (Async.ensures_query (judged_error (kept_refl s)) ?_)
    cases read with
    | none =>
      refine Async.ensures_pure ⟨kept_refl s, fun result is => ?_⟩
      obtain rfl := Except.ok.inj is
      rw [faithful_unrecorded]
      refine ⟨fun _ learner here => ?_, fun _ confirmed => absurd confirmed (by simp)⟩
      rw [show learnerByAin (normalizeIdentifier ain) s = none from found] at here
      exact absurd here (by simp)
    | some read =>
      obtain ⟨learner, credentials, visible⟩ := read
      obtain ⟨found, latest⟩ : learnerByAin (normalizeIdentifier ain) s = some learner ∧
        credentials = latestCredentials s learner := found
      dsimp only
      cases filed : eventCredential credentials with
      | none =>
        rw [eventCredential_eq_none, latest, latestCredentials_eq_nil] at filed
        refine Async.ensures_pure ⟨kept_refl s, fun result is => ?_⟩
        rw [faithful_unrecorded]
        refine ⟨fun _ other here => ?_, fun _ _ => trivial⟩
        obtain rfl := Option.some.inj (found.symm.trans here)
        exact .inl filed
      | some credential =>
        have held : ¬ ∀ c ∈ s.credentials.rows, c.learnerId ≠ learner.uuid := by
          rw [← latestCredentials_eq_nil, ← latest, ← eventCredential_eq_none, filed]
          simp
        refine ensures_recorded ⟨fun both other here => ?_, fun agreeing => ?_⟩
        · obtain rfl := Option.some.inj (found.symm.trans here)
          exact .inr (Nat.pos_of_ne_zero (by simpa [newEvent] using both.1))
        · have active := (agreeing learner found).resolve_left held
          exact ⟨if_pos active, fun _ => trivial⟩

theorem verifyOne_judged (rt : Runtime) (env : VerifyEnv) (context : VerificationContext)
    (call : VerificationCall) (s : Store) :
    (verifyOne rt env context call).Ensures s (Judged rt call (Agreeing rt env s call) s) := by
  cases call with
  | token token => exact verifyToken_judged rt env token context s
  | reference refnum => exact verifyReference_judged rt env refnum context s
  | ain ain => exact lookupAin_judged rt env ain context s

/-! ### Many calls -/

/-- Each of the calls is answered faithfully with its result, at the store that it finds. -/
def EachFaithful (rt : Runtime) (context : VerificationContext) :
    List (VerifyEnv × VerificationCall) → List VerificationResult → List Outcome → Store → Prop
  | [], [], _, _ => True
  | (env, call) :: rest, result :: results, script, s =>
    Faithful rt call s (verifyOne rt env context call script s).store result ∧
      EachFaithful rt context rest results (verifyOne rt env context call script s).script
        (verifyOne rt env context call script s).store
  | _, _, _, _ => False

/-- A call that does not depend on a share link finds the same after verifications. -/
theorem agreeing_of_kept {rt : Runtime} {env : VerifyEnv} {s t : Store} {call : VerificationCall}
    (unlinked : ∀ token, call ≠ .token token) (kept : Kept s t) :
    Agreeing rt env t call ↔ Agreeing rt env s call := by
  cases call with
  | token token => exact absurd rfl (unlinked token)
  | reference refnum =>
    unfold Agreeing credentialByRef
    rw [kept.credentials]
  | ain ain =>
    unfold Agreeing learnerByAin activeCredentialCount
    rw [kept.credentials, kept.learners]

/-- A sequence of calls without share links that is answered. -/
theorem eachFaithful_iff {rt : Runtime} {context : VerificationContext}
    {items : List (VerifyEnv × VerificationCall)} {script : List Outcome} {s : Store}
    {results : List VerificationResult} (unlinked : ∀ item ∈ items, ∀ token, item.2 ≠ .token token)
    (answered : (verifyAll rt context items script s).result = .ok results) :
    EachFaithful rt context items results script s ↔
      ∀ item ∈ items, Agreeing rt item.1 s item.2 := by
  induction items generalizing script s results with
  | nil =>
    obtain rfl := Except.ok.inj answered
    simp [EachFaithful]
  | cons item rest ih =>
    obtain ⟨env, call⟩ := item
    obtain ⟨kept, judged⟩ := verifyOne_judged rt env context call s script
    unfold verifyAll at answered
    rw [Async.bind_apply] at answered
    cases first : (verifyOne rt env context call script s).result with
    | error e =>
      rw [first] at answered
      exact absurd answered (by simp)
    | ok result =>
      simp only [first] at answered
      rw [Async.bind_apply] at answered
      cases others : (verifyAll rt context rest (verifyOne rt env context call script s).script
          (verifyOne rt env context call script s).store).result with
      | error e =>
        simp only [others] at answered
        exact absurd answered (by simp)
      | ok results' =>
        simp only [others] at answered
        obtain rfl := Except.ok.inj answered
        have later := ih (fun item inside => unlinked item (by simp [inside])) others
        unfold EachFaithful
        rw [judged result first, later, List.forall_mem_cons]
        refine and_congr_right fun _ => forall_congr' fun item => ?_
        refine imp_congr_right fun inside => ?_
        exact agreeing_of_kept (unlinked item (by simp [inside])) kept

/-- A bulk verification that is answered is the answers of its calls. -/
theorem bulkVerify_answers {rt : Runtime} {envs : ℕ → VerifyEnv} {body : Json}
    {context : VerificationContext} {script : List Outcome} {s : Store} {bulk : BulkResult}
    (answered : (bulkVerify rt envs body context script s).result = .ok bulk) :
    ∃ results,
      (verifyAll rt context (bulkCalls envs (bulkIdentifiers rt body).1 (bulkIdentifiers rt body).2)
        script s).result = .ok results ∧
      bulk.credentials = (bulkIdentifiers rt body).1.zip results ∧
      bulk.learnerLookups =
        (bulkIdentifiers rt body).2.zip (results.drop (bulkIdentifiers rt body).1.length) := by
  unfold bulkVerify at answered
  dsimp only at answered
  by_cases empty : (bulkIdentifiers rt body).1.length + (bulkIdentifiers rt body).2.length = 0
  · rw [if_pos empty, Async.bind_apply] at answered
    exact absurd answered (by simp)
  rw [if_neg empty] at answered
  by_cases many : 50 < (bulkIdentifiers rt body).1.length + (bulkIdentifiers rt body).2.length
  · rw [if_pos many, Async.bind_apply] at answered
    exact absurd answered (by simp)
  rw [if_neg many, Async.bind_apply] at answered
  split at answered
  · rename_i results ended
    obtain rfl := Except.ok.inj answered
    exact ⟨results, ended, rfl, rfl⟩
  · exact absurd answered (by simp)

theorem bulkCalls_unlinked {envs : ℕ → VerifyEnv} {credentialRefs ains : List String} :
    ∀ item ∈ bulkCalls envs credentialRefs ains, ∀ token, item.2 ≠ .token token := by
  intro item inside token
  obtain ⟨pair, listed, rfl⟩ := List.mem_map.mp inside
  have member : pair.1 ∈ credentialRefs.map VerificationCall.reference ++
      ains.map VerificationCall.ain := List.fst_mem_of_mem_zipIdx listed
  rcases List.mem_append.mp member with ref | ain
  · obtain ⟨refnum, -, is⟩ := List.mem_map.mp ref
    rw [← is]
    simp
  · obtain ⟨text, -, is⟩ := List.mem_map.mp ain
    rw [← is]
    simp

/-- **When verifications are faithful**: alone, exactly when the store agrees on the identifier of
the call; in a bulk verification, exactly when it does on each of them. -/
theorem faithful_iff (rt : Runtime) (context : VerificationContext) (script : List Outcome)
    (s : Store) :
    (∀ env call result, (verifyOne rt env context call script s).result = .ok result →
      (Faithful rt call s (verifyOne rt env context call script s).store result ↔
        Agreeing rt env s call)) ∧
    ∀ envs body bulk, (bulkVerify rt envs body context script s).result = .ok bulk →
      ∃ results, bulk.credentials = (bulkIdentifiers rt body).1.zip results ∧
        bulk.learnerLookups =
          (bulkIdentifiers rt body).2.zip (results.drop (bulkIdentifiers rt body).1.length) ∧
        (EachFaithful rt context
            (bulkCalls envs (bulkIdentifiers rt body).1 (bulkIdentifiers rt body).2) results script
            s ↔
          ∀ item ∈ bulkCalls envs (bulkIdentifiers rt body).1 (bulkIdentifiers rt body).2,
            Agreeing rt item.1 s item.2) := by
  refine ⟨fun env call => (verifyOne_judged rt env context call s script).2, ?_⟩
  intro envs body bulk answered
  obtain ⟨results, ended, credentials, lookups⟩ := bulkVerify_answers answered
  exact ⟨results, credentials, lookups, eachFaithful_iff bulkCalls_unlinked ended⟩

/-! ### Two verifications -/

/-- A learner whose credential is shared through a link, and carries no signature of the service. -/
def sharedCredential : Store :=
  { Store.empty with
    institutions :=
      .single ⟨"10000000-0000-4000-8000-000000000001", "ACD-0001", "First School", .active⟩
    learners :=
      .single ⟨"40000000-0000-4000-8000-000000000001", "AIN-1", "First Learner", 0, none,
        .verified⟩
    credentials :=
      { rows :=
          [{ uuid := "90000000-0000-4000-8000-000000000001"
             credentialRef := "80000000-0000-4000-8000-000000000001"
             learnerId := "40000000-0000-4000-8000-000000000001"
             institutionId := "10000000-0000-4000-8000-000000000001"
             academicRecordId := none
             recordRequestId := none
             type := .transcript
             scope := .obj []
             vcPayload := .obj [("id", .str "urn:uuid:80000000-0000-4000-8000-000000000001")]
             signature := some "forged"
             status := .active
             issuedAt := 1
             revokedAt := none
             revocationReason := none }]
        nodup := List.nodup_singleton _ }
    accessGrants :=
      { rows :=
          [{ uuid := "b0000000-0000-4000-8000-000000000001"
             learnerId := "40000000-0000-4000-8000-000000000001"
             credentialId := "90000000-0000-4000-8000-000000000001"
             tokenHash := "sha256:link"
             scope := .gpa
             recipientLabel := "Employer"
             expiresAt := none
             revokedAt := none
             maxViews := some 1
             viewCount := 0 }]
        nodup := List.nodup_singleton _ } }

def visitor : VerificationContext where
  ipAddress := none
  verifierName := none
  verifierEmail := none

def visit (eventUuid : Uuid) : VerifyEnv where
  now := 2
  eventUuid := eventUuid
  ledgerUuid := "c0000000-0000-4000-8000-000000000001"
  encrypt text := "v1:" ++ text

/-- The share link is answered `CONFIRMED`, faithfully. -/
theorem faithful_iff_link :
    ∃ result, (verifyOne .plain (visit "event-1") visitor (.token "link") [] sharedCredential).result
        = .ok result ∧ result.outcome = .confirmed ∧
      Faithful .plain (.token "link") sharedCredential
        (verifyOne .plain (visit "event-1") visitor (.token "link") [] sharedCredential).store
        result := by
  have evaluated : ((verifyOne .plain (visit "event-1") visitor (.token "link") []
      sharedCredential).result.toOption.any fun result => result.outcome == .confirmed) = true := by
    decide
  have active : ∀ c ∈ sharedCredential.credentials.rows, c.status = .active := by decide
  have agreeing : Agreeing .plain (visit "event-1") sharedCredential (.token "link") :=
    fun _ credential _ held _ => .inl (active credential (Table.find?_mem held))
  cases ended : (verifyOne .plain (visit "event-1") visitor (.token "link") []
      sharedCredential).result with
  | error e =>
    rw [ended] at evaluated
    exact absurd evaluated (by simp [Except.toOption])
  | ok result =>
    rw [ended] at evaluated
    exact ⟨result, rfl, by simpa [Except.toOption] using evaluated,
      ((faithful_iff .plain visitor [] sharedCredential).1 _ _ result ended).mpr agreeing⟩

/-- **Not every answer is faithful**: a reference whose signature is a forgery is answered
`CONFIRMED`, and stored as a discrepancy. -/
theorem faithful_fails :
    ¬ ∀ (rt : Runtime) (context : VerificationContext) (env : VerifyEnv) (call : VerificationCall)
      (script : List Outcome) (s : Store) (result : VerificationResult),
      (verifyOne rt env context call script s).result = .ok result →
        Faithful rt call s (verifyOne rt env context call script s).store result := by
  intro all
  have evaluated : (match (verifyOne .plain (visit "event-1") visitor
      (.reference "80000000-0000-4000-8000-000000000001") [] sharedCredential).result with
    | .ok result => decide (∀ outcome ∈ recordedOutcomes sharedCredential
        (verifyOne .plain (visit "event-1") visitor
          (.reference "80000000-0000-4000-8000-000000000001") [] sharedCredential).store,
        outcome = result.outcome)
    | .error _ => true) = false := by decide
  split at evaluated
  · rename_i result ended
    exact of_decide_eq_false evaluated (all .plain visitor _ _ [] sharedCredential result ended).1
  · exact absurd evaluated (by simp)

end AcadID.Verification
