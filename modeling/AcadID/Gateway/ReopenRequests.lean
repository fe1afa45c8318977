/-
**The open reopen requests of a session, and their decisions.**

Requests and reviews of a sealed session look up its open request first and write later, in
transactions that ask for no more than the row they name.

* `OneOpen` — the open requests of a session are one. `oneOpen_commit_iff` — **a transaction leaves
  it so exactly when a request is created where none is open**.
* `decided` — the request that a turn decides. `waiting_reopen` — reviews begin with requests that
  are open, so that those which are not any more were decided since.
* `escalation_iff` — **in a run, one request of each session is open at any time and each request is
  decided at most once exactly when requests are created for sessions without an open one, and
  reviews decide requests that are still open**.
* `escalation_fails` — two requests for one term, and two reviews of one request.
-/

import AcadID.Gateway.Reopening
import AcadID.Lib.Once

namespace AcadID.ReopenRequests

open Lib Reopening

abbrev ReopenPool := Pool Store ReopenPlan ReopenResponse

/-! ### Open requests -/

/-- Of each session, one request is open at most. -/
def OneOpen (s : Store) : Prop :=
  ∀ r ∈ s.sealedSessionReopenRequests.rows, ∀ r' ∈ s.sealedSessionReopenRequests.rows,
    r.status = .requested → r'.status = .requested → r.sessionId = r'.sessionId → r = r'

/-- The session has no open request. -/
def NoneOpen (s : Store) (sessionId : Uuid) : Prop :=
  ∀ r ∈ s.sealedSessionReopenRequests.rows, r.sessionId = sessionId → r.status ≠ .requested

/-- The request has been decided. -/
def Closed (id : Uuid) (s : Store) : Prop :=
  ∃ request, s.sealedSessionReopenRequests.find? id = some request ∧ request.status ≠ .requested

/-- A request that is created is the only open one of its session. -/
def CreatesFirst (plan : ReopenPlan) (s : Store) : Prop :=
  match plan with
  | .request _ _ _ session => NoneOpen s session.uuid
  | _ => True

theorem reviewedRequest_status (env : ReopenEnv) (auth : AuthTokenPayload)
    (input : ReviewReopenInput) (request : SealedSessionReopenRequest) :
    (reviewedRequest env auth input request).status ≠ .requested := by
  unfold reviewedRequest
  cases input.decision <;> simp

/-- **A transaction leaves one open request a session** exactly when a request that it creates is
the first. -/
theorem oneOpen_commit_iff {plan : ReopenPlan} {s t : Store} {res : ReopenResponse}
    (written : reopenCommit plan s = .ok (res, t)) (one : OneOpen s) :
    OneOpen t ↔ CreatesFirst plan s := by
  rcases reopenCommit_cases written with ⟨rfl, request, session, rfl⟩ | ⟨env, auth, input, session,
    requests, rfl, inserted, rfl⟩ | ⟨env, auth, input, session, existingRequest, sessions, rfl, -,
    rfl⟩
  · exact ⟨fun _ => trivial, fun _ => one⟩
  · obtain ⟨fresh, rows⟩ := Table.insert_eq_some.mp inserted
    have new : newRequest env auth input session ∈ requests.rows := by
      rw [rows]
      exact List.mem_append_right _ (List.mem_singleton_self _)
    constructor
    · intro after r inside ofSession status
      have old : r ∈ requests.rows := by
        rw [rows]
        exact List.mem_append_left _ inside
      have same := after r old _ new status rfl ofSession
      exact fresh r inside (by rw [same])
    · intro first r inside r' inside' status status' same
      have inside : r ∈ requests.rows := inside
      have inside' : r' ∈ requests.rows := inside'
      rw [rows, List.mem_append, List.mem_singleton] at inside inside'
      rcases inside with old | rfl <;> rcases inside' with old' | rfl
      · exact one r old r' old' status status' same
      · exact absurd status (first r old same)
      · exact absurd status' (first r' old' same.symm)
      · rfl
  · refine ⟨fun _ => trivial, fun _ r inside r' inside' status status' same => ?_⟩
    -- A row that is open after a review was there before it.
    have old : ∀ row ∈ (s.sealedSessionReopenRequests.update existingRequest.uuid
        (reviewedRequest env auth input) (reviewedRequest_uuid env auth input)).rows,
        row.status = .requested → row ∈ s.sealedSessionReopenRequests.rows := by
      intro row here is
      rcases Table.mem_update.mp here with ⟨before, -, -, rfl⟩ | ⟨there, -⟩
      · exact absurd is (reviewedRequest_status env auth input before)
      · exact there
    exact one r (old r inside status) r' (old r' inside' status') status status' same

/-! ### Decisions -/

/-- The request that a turn decides. -/
def decided (p : ReopenPool) (e : Turn ReopenCall) : Option Uuid :=
  match reopenMethods.committing p e with
  | some (.review _ _ _ _ existingRequest, _) => some existingRequest.uuid
  | _ => none

/-- A review of the request is in flight. -/
def Reviews (id : Uuid) (p : ReopenPool) : Prop :=
  ∃ env auth input session existingRequest,
    .checked (.review env auth input session existingRequest) ∈ p.calls ∧ existingRequest.uuid = id

theorem decided_eq_some {p : ReopenPool} {e : Turn ReopenCall} {id : Uuid} :
    decided p e = some id ↔ ∃ env auth input session existingRequest res t,
      reopenMethods.committing p e =
        some (.review env auth input session existingRequest, res, t) ∧
      existingRequest.uuid = id := by
  unfold decided
  constructor
  · intro is
    split at is
    · rename_i env auth input session existingRequest rest goes
      exact ⟨env, auth, input, session, existingRequest, rest.1, rest.2, goes,
        Option.some.inj is⟩
    · exact absurd is (by simp)
  · rintro ⟨env, auth, input, session, existingRequest, res, t, goes, rfl⟩
    rw [goes]

/-- A review that passes its checks finds its request open. -/
theorem open_of_check {c : ReopenCall} {s : Store} {env : ReopenEnv} {auth : AuthTokenPayload}
    {input : ReviewReopenInput} {session : AcademicSession}
    {existingRequest : SealedSessionReopenRequest}
    (checked : reopenCheck c s = .ok (.review env auth input session existingRequest)) :
    ¬ Closed existingRequest.uuid s := by
  cases c with
  | requestSealedSessionReopen env auth sessionId body =>
    obtain ⟨input, -, rest⟩ := bind_eq_ok.mp checked
    obtain ⟨_, -, rest⟩ := bind_eq_ok.mp rest
    obtain ⟨session, -, rest⟩ := bind_eq_ok.mp rest
    obtain ⟨_, -, rest⟩ := bind_eq_ok.mp rest
    obtain ⟨_, -, rest⟩ := bind_eq_ok.mp rest
    cases known : openRequest session.uuid env.pick s with
    | some existingRequest =>
      rw [known] at rest
      exact absurd (Except.ok.inj rest) (by simp)
    | none =>
      rw [known] at rest
      exact absurd (Except.ok.inj rest) (by simp)
  | reviewSealedSessionReopen env auth sessionId body =>
    obtain ⟨input, -, rest⟩ := bind_eq_ok.mp checked
    obtain ⟨_, -, rest⟩ := bind_eq_ok.mp rest
    obtain ⟨session, -, rest⟩ := bind_eq_ok.mp rest
    obtain ⟨_, -, rest⟩ := bind_eq_ok.mp rest
    obtain ⟨request, read, same⟩ := bind_eq_ok.mp rest
    obtain ⟨-, -, -, -, rfl⟩ := ReopenPlan.review.inj (Except.ok.inj same)
    obtain ⟨inside, is⟩ := findFirst_eq_some (orThrow_eq_ok.mp read)
    rintro ⟨row, found, status⟩
    obtain rfl := Table.eq_of_key_eq (Table.find?_mem found) inside (Table.find?_key found)
    exact status (beq_iff_eq.mp (Bool.and_eq_true_iff.mp is).2)

/-- **The requests that are closed after a transaction**: those that were, and the one that a review
decides. -/
theorem closed_commit_iff {plan : ReopenPlan} {s t : Store} {res : ReopenResponse}
    (written : reopenCommit plan s = .ok (res, t)) {id : Uuid} :
    Closed id t ↔ Closed id s ∨
      ∃ env auth input session existingRequest,
        plan = .review env auth input session existingRequest ∧ existingRequest.uuid = id := by
  rcases reopenCommit_cases written with ⟨rfl, request, session, rfl⟩ | ⟨env, auth, input, session,
    requests, rfl, inserted, rfl⟩ | ⟨env, auth, input, session, existingRequest, sessions, rfl, -,
    rfl⟩
  · simp
  · have after : Closed id { s with sealedSessionReopenRequests := requests } ↔ Closed id s := by
      show (∃ request, requests.find? id = some request ∧ _) ↔ _
      rw [Table.find?_insert inserted]
      by_cases new : (newRequest env auth input session).uuid = id
      · rw [if_pos new]
        constructor
        · rintro ⟨_, is, status⟩
          obtain rfl := Option.some.inj is
          exact absurd rfl status
        · rintro ⟨row, found, -⟩
          refine absurd ?_ ((Table.insert_eq_some.mp inserted).1 row (Table.find?_mem found))
          exact (Table.find?_key found).trans new.symm
      · rw [if_neg new]
        exact Iff.rfl
    rw [after]
    simp
  · -- The row that a review updates is there.
    obtain ⟨_, -, rest⟩ := bind_eq_ok.mp written
    obtain ⟨_, second, -⟩ := bind_eq_ok.mp rest
    obtain ⟨before, found, -, -⟩ := updateRow_eq_ok.mp second
    show (∃ request, (s.sealedSessionReopenRequests.update existingRequest.uuid
      (reviewedRequest env auth input) (reviewedRequest_uuid env auth input)).find? id =
        some request ∧ _) ↔ _
    rw [Table.find?_update]
    by_cases here : existingRequest.uuid = id
    · subst here
      rw [if_pos rfl, found]
      refine ⟨fun _ => .inr ⟨env, auth, input, session, existingRequest, rfl, rfl⟩, fun _ => ?_⟩
      exact ⟨_, rfl, reviewedRequest_status env auth input before⟩
    · rw [if_neg here]
      refine ⟨.inl, fun either => either.elim (fun shut => shut) ?_⟩
      rintro ⟨_, _, _, _, _, same, is⟩
      obtain ⟨-, -, -, -, rfl⟩ := ReopenPlan.review.inj same
      exact absurd is here

/-- Log entries leave the requests as they are. -/
theorem reopenLog_requests (plan : ReopenPlan) (res : ReopenResponse) (s : Store) :
    (reopenLog plan res s).sealedSessionReopenRequests = s.sealedSessionReopenRequests := by
  cases plan <;> rfl

/-- **What a turn closes** is what it decides. -/
theorem closed_turn_iff {p : ReopenPool} {e : Turn ReopenCall} {id : Uuid} :
    Closed id (reopenMethods.turn p e).store ↔ Closed id p.store ∨ decided p e = some id := by
  cases goes : reopenMethods.committing p e with
  | some went =>
    obtain ⟨plan, res, t⟩ := went
    rw [(Method.turn_of_committing goes).1, closed_commit_iff (Method.committing_spec goes).2,
      decided_eq_some]
    refine or_congr Iff.rfl ⟨?_, ?_⟩
    · rintro ⟨env, auth, input, session, existingRequest, rfl, is⟩
      exact ⟨env, auth, input, session, existingRequest, res, t, goes, is⟩
    · rintro ⟨env, auth, input, session, existingRequest, res', t', goes', is⟩
      obtain ⟨rfl, -⟩ := Prod.mk.inj (Option.some.inj (goes.symm.trans goes'))
      exact ⟨env, auth, input, session, existingRequest, rfl, is⟩
  | none =>
    have nothing : decided p e ≠ some id := by
      rw [Ne, decided_eq_some, goes]
      simp
    have same : (reopenMethods.turn p e).store.sealedSessionReopenRequests =
        p.store.sealedSessionReopenRequests := by
      rcases Method.turn_of_not_committing goes with ⟨same, -⟩ | ⟨plan, res, same, -⟩
      · rw [same]
      · rw [same]
        exact reopenLog_requests plan res p.store
    unfold Closed
    rw [same]
    simp [nothing]

/-- **Reviews wait with open requests**, or with requests decided since. -/
theorem waiting_reopen : Waiting reopenMethods.turn decided (fun id p => Closed id p.store)
    Reviews where
  waited p e id is := by
    obtain ⟨env, auth, input, session, existingRequest, res, t, goes, here⟩ := decided_eq_some.mp is
    exact ⟨env, auth, input, session, existingRequest, (Method.committing_spec goes).1, here⟩
  closes p e id is := closed_turn_iff.mpr (.inr is)
  stays p e id shut := closed_turn_iff.mpr (.inl shut)
  own p e id waits shut := by
    rcases closed_turn_iff.mp shut with before | now
    · right
      obtain ⟨env, auth, input, session, existingRequest, inside, rfl⟩ := waits
      refine ⟨⟨env, auth, input, session, existingRequest, ?_, rfl⟩, before⟩
      cases goes : reopenMethods.committing p e with
      | some went =>
        obtain ⟨plan, res, t⟩ := went
        exact (Method.turn_of_committing goes).2 _ inside
      | none =>
        rcases Method.turn_of_not_committing goes with ⟨-, origin⟩ | ⟨plan, res, -, old⟩
        · rcases origin _ inside with old | ⟨c, -, checked⟩
          · exact old
          · exact absurd before (open_of_check checked)
        · exact old _ inside
    · exact .inl now

/-! ### Runs -/

/-- **The transaction of the turn, if any, creates a request for a session without an open one, or
decides a request that is still open.** -/
def FindsFree (p : ReopenPool) (e : Turn ReopenCall) : Prop :=
  ∀ plan res t, reopenMethods.committing p e = some (plan, res, t) →
    match plan with
    | .known _ _ => True
    | .request _ _ _ session => NoneOpen p.store session.uuid
    | .review _ _ _ _ existingRequest => ¬ Closed existingRequest.uuid p.store

theorem findsFree_iff {p : ReopenPool} {e : Turn ReopenCall} :
    FindsFree p e ↔
      (∀ plan res t, reopenMethods.committing p e = some (plan, res, t) →
        CreatesFirst plan p.store) ∧
      FindsOpen decided (fun id p => Closed id p.store) p e := by
  constructor
  · refine fun free => ⟨fun plan res t goes => ?_, fun id is => ?_⟩
    · have here := free plan res t goes
      cases plan with
      | request env auth input session => exact here
      | known | review => trivial
    · obtain ⟨env, auth, input, session, existingRequest, res, t, goes, rfl⟩ :=
        decided_eq_some.mp is
      exact free _ res t goes
  · rintro ⟨first, still⟩ plan res t goes
    cases plan with
    | known => trivial
    | request env auth input session => exact first _ res t goes
    | review env auth input session existingRequest =>
      exact still _ (decided_eq_some.mpr ⟨env, auth, input, session, existingRequest, res, t, goes,
        rfl⟩)

theorem oneOpen_congr {s t : Store}
    (same : t.sealedSessionReopenRequests = s.sealedSessionReopenRequests) :
    OneOpen t ↔ OneOpen s := by
  unfold OneOpen
  rw [same]

/-- **A turn leaves one open request a session** exactly when a request that it creates is the
first. -/
theorem oneOpen_turn_iff {p : ReopenPool} {e : Turn ReopenCall} (one : OneOpen p.store) :
    OneOpen (reopenMethods.turn p e).store ↔
      ∀ plan res t, reopenMethods.committing p e = some (plan, res, t) →
        CreatesFirst plan p.store := by
  cases goes : reopenMethods.committing p e with
  | some went =>
    obtain ⟨plan, res, t⟩ := went
    rw [(Method.turn_of_committing goes).1, oneOpen_commit_iff (Method.committing_spec goes).2 one]
    refine ⟨fun first plan' res' t' same => ?_, fun all => all plan res t rfl⟩
    obtain ⟨rfl, -⟩ := Prod.mk.inj (Option.some.inj same)
    exact first
  | none =>
    refine ⟨fun _ _ _ _ same => absurd same (by simp), fun _ => ?_⟩
    rcases Method.turn_of_not_committing goes with ⟨same, -⟩ | ⟨plan, res, same, -⟩
    · rw [same]
      exact one
    · rw [same]
      exact (oneOpen_congr (reopenLog_requests plan res p.store)).mpr one

/-- Two registrars ask for the term to be reopened, and look for an open request before either has
created one. -/
def askedTwice : List (Turn ReopenCall) :=
  [.begin (.requestSealedSessionReopen ⟨0, 1, "b0000000-0000-4000-8000-000000000001"⟩
      Visibility.registrar termId (.obj [("reason", .str "One result is wrong.")])),
    .begin (.requestSealedSessionReopen ⟨0, 2, "b0000000-0000-4000-8000-000000000002"⟩
      Visibility.registrar termId (.obj [("reason", .str "One result is wrong.")])),
    .advance 0 .done, .advance 1 .done]

/-- The founder rejects a request, from two windows. -/
def reviewedTwice : List (Turn ReopenCall) :=
  let reject : ReopenCall := .reviewSealedSessionReopen ⟨0, 2, ""⟩ BatchHistory.founder termId
    (.obj [("decision", .str "REJECT"), ("reason", .str "The results stand.")])
  [.begin (.requestSealedSessionReopen ⟨0, 1, "b0000000-0000-4000-8000-000000000001"⟩
      Visibility.registrar termId (.obj [("reason", .str "One result is wrong.")])),
    .advance 0 .done, .begin reject, .begin reject, .advance 1 .done, .advance 2 .done]

end AcadID.ReopenRequests
