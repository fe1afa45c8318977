/-
**The current session of an institution, at read committed.**

The transactions of `createAcademicSession` and `updateAcademicSession`, one row at a time. Clearing
the other current sessions first takes those committed at that moment, then changes them one after
the other; a row that another open transaction has written makes a statement wait, and is looked at
again once that transaction has ended.

* `Tx.next` — the next step of a transaction, on what it sees; its last one shows its rows to all.
* `unique_of_not_overtaken` — **an institution has at most one current session in every state of a
  run in which no transaction commits a current session after another, which it did not see, made
  its own session current**.
* `unique_fails` — two sessions created as current at once.
-/

import AcadID.Gateway.AcademicSetup
import AcadID.Gateway.BatchHistory
import AcadID.Lib.Run
import Mathlib.Data.List.Perm.Basic

namespace AcadID.CurrentSession

open Lib AcademicSetup

/-! ### Transactions -/

/-- What the transaction of a plan is to write. -/
inductive SessionWrite where
  | create (env : SetupEnv) (auth : AuthTokenPayload) (input : CreateSessionInput)
    (institutionId : Uuid)
  | update (input : UpdateSessionInput) (existing : AcademicSession)

namespace SessionWrite

/-- The session writes among the plans of academic setup. -/
def ofPlan : SetupPlan → Option SessionWrite
  | .createSession env auth input institution => some (.create env auth input institution.uuid)
  | .updateSession _ input existing => some (.update input existing)
  | _ => none

def institutionId : SessionWrite → Uuid
  | .create _ _ _ institutionId => institutionId
  | .update _ existing => existing.institutionId

def uuid : SessionWrite → Uuid
  | .create env _ _ _ => env.uuid
  | .update _ existing => existing.uuid

/-- The session that is not cleared. -/
def keep : SessionWrite → Option Uuid
  | .create .. => none
  | .update _ existing => some existing.uuid

/-- Whether the body has `isCurrent: true`. -/
def makesCurrent : SessionWrite → Bool
  | .create _ _ input _ => input.isCurrent
  | .update input _ => input.isCurrent == some true

/-- The `where` of the statement that clears the others. -/
def clears (write : SessionWrite) (session : AcademicSession) : Bool :=
  session.institutionId == write.institutionId && session.isCurrent &&
    write.keep != some session.uuid

end SessionWrite

/-- How far a transaction has come: it is to take the sessions to clear, to clear those it took, to
write its own, or to commit. -/
inductive Stage where
  | scan
  | clear (rest : List Uuid)
  | write
  | done

/-- The sessions still to be cleared. -/
def Stage.rest : Stage → List Uuid
  | .clear rest => rest
  | _ => []

def Stage.scanned : Stage → Bool
  | .scan => false
  | _ => true

/-- A transaction with the rows it has written; `overtaken` tells that another one has made a session
of the institution current since, that this one neither took nor wrote. -/
structure Tx where
  write : SessionWrite
  stage : Stage
  rows : List AcademicSession
  overtaken : Bool

/-- A transaction before its first statement. -/
def Tx.begin (write : SessionWrite) : Tx where
  write := write
  stage := if write.makesCurrent then .scan else .write
  rows := []
  overtaken := false

/-- **What a transaction sees**: what is committed, and what it wrote itself. -/
def Tx.view (tx : Tx) (s : Store) : Table AcademicSession.uuid :=
  tx.rows.foldl Table.upsert s.academicSessions

/-- The session that a transaction is to write, from what it sees. -/
def Tx.row (rt : Runtime) (tx : Tx) (s : Store) : Except ServiceError AcademicSession :=
  match tx.write with
  | .create env auth input institutionId => do
    let startDate ← dateOf rt input.startDate
    let endDate ← dateOf rt input.endDate
    return {
      uuid := env.uuid
      institutionId := institutionId
      sessionLabel := Text.trim input.sessionLabel
      periodType := input.periodType
      periodLabel := Text.trim input.periodLabel
      startDate := startDate
      endDate := endDate
      status := input.status
      isCurrent := input.isCurrent
      createdById := auth.institutionUserId }
  | .update input existing => do
    let old ← orThrow ((tx.view s).find? existing.uuid) .recordNotFound
    let startDate ← patchDate rt input.startDate old.startDate
    let endDate ← patchDate rt input.endDate old.endDate
    return { old with
      sessionLabel := (input.sessionLabel.map Text.trim).getD old.sessionLabel
      periodType := input.periodType.getD old.periodType
      periodLabel := (input.periodLabel.map Text.trim).getD old.periodLabel
      startDate := startDate
      endDate := endDate
      status := input.status.getD old.status
      isCurrent := input.isCurrent.getD old.isCurrent }

/-- Whether the row may stand beside those that the transaction sees. -/
def Tx.admits (tx : Tx) (s : Store) (row : AcademicSession) : Bool :=
  (tx.view s).rows.all fun other =>
    match tx.write with
    | .create .. => other.uuid != row.uuid && sessionKey other != sessionKey row
    | .update .. => other.uuid == row.uuid || sessionKey other != sessionKey row

/-- What a step does: it moves the transaction on, or commits it. -/
inductive Effect where
  | moved (tx : Tx)
  | committed (s : Store)

/-- **The next step of a transaction.** -/
def Tx.next (rt : Runtime) (tx : Tx) (s : Store) : Except ServiceError Effect :=
  match tx.stage with
  | .scan => .ok (.moved { tx with
      stage := .clear (((tx.view s).rows.filter tx.write.clears).map (·.uuid)) })
  | .clear (id :: rest) =>
    -- A session taken before may be current no more.
    match ((tx.view s).find? id).filter tx.write.clears with
    | some session => .ok (.moved { tx with
        stage := .clear rest
        rows := tx.rows ++ [{ session with isCurrent := false }] })
    | none => .ok (.moved { tx with stage := .clear rest })
  | .clear [] => .ok (.moved { tx with stage := .write })
  | .write => do
    let row ← tx.row rt s
    require (tx.admits s row) .uniqueViolation
    return .moved { tx with
      stage := .done
      rows := tx.rows ++ [row] }
  | .done => .ok (.committed { s with academicSessions := tx.view s })

/-! ### Transactions in flight -/

/-- What is committed, and the open transactions. -/
structure Db where
  store : Store
  txs : List Tx

/-- **Whether a step waits** for a row that another transaction has written. -/
def Tx.waitsFor (rt : Runtime) (s : Store) (tx other : Tx) : Bool :=
  match tx.stage with
  | .clear (id :: _) => other.rows.any (·.uuid == id)
  | .write => other.rows.any fun row => row.uuid == tx.write.uuid ||
      match tx.row rt s with
      | .ok own => sessionKey row == sessionKey own
      | .error _ => false
  | _ => false

/-- A transaction after another one committed. -/
def Tx.after (tx other : Tx) : Tx :=
  { tx with overtaken := tx.overtaken || tx.stage.scanned && other.write.makesCurrent &&
      other.write.institutionId == tx.write.institutionId &&
      other.write.uuid != tx.write.uuid &&
      !tx.stage.rest.contains other.write.uuid &&
      !tx.rows.any (·.uuid == other.write.uuid) }

/-- What happens next. -/
inductive DbEvent where
  /-- The check of a call, and its transaction begun. -/
  | call (c : SetupCall)
  /-- The next step of a transaction. -/
  | advance (k : ℕ)
  /-- A transaction rolled back: timed out, deadlocked, disconnected. -/
  | abort (k : ℕ)

/-- The next step of the `k`-th transaction; a statement that fails rolls it back. -/
def advance (rt : Runtime) (p : Db) (k : ℕ) : Db :=
  match p.txs[k]? with
  | none => p
  | some tx =>
    if (p.txs.eraseIdx k).any (tx.waitsFor rt p.store) then p
    else
      match tx.next rt p.store with
      | .error _ => { p with txs := p.txs.eraseIdx k }
      | .ok (.moved tx') => { p with txs := p.txs.set k tx' }
      | .ok (.committed s) => { store := s, txs := (p.txs.eraseIdx k).map (·.after tx) }

def dbStep (lookup : Institutions.Lookup) (rt : Runtime) (p : Db) (e : DbEvent) : Db :=
  match e with
  | .call c =>
    match setupCheckThrough lookup rt c p.store with
    | .error _ => p
    | .ok plan =>
      match SessionWrite.ofPlan plan with
      | none => p
      | some write => { p with txs := p.txs ++ [Tx.begin write] }
  | .advance k => advance rt p k
  | .abort k => { p with txs := p.txs.eraseIdx k }

/-- An institution has at most one current session. -/
def UniqueCurrent (s : Store) : Prop :=
  ∀ a ∈ s.academicSessions.rows, ∀ b ∈ s.academicSessions.rows,
    a.institutionId = b.institutionId → a.isCurrent = true → b.isCurrent = true → a = b

/-- **A transaction that commits a current session was not overtaken.** -/
def NotOvertaken (p : Db) (e : DbEvent) : Prop :=
  ∀ k tx, e = .advance k → p.txs[k]? = some tx → tx.stage = .done →
    tx.write.makesCurrent = true → tx.overtaken = false

/-! ### The invariant -/

/-- **What is known of an open transaction.** -/
structure TxInv (s : Store) (tx : Tx) : Prop where
  /-- The session that an update read is still there, in its institution. -/
  existing : ∀ id, tx.write.keep = some id →
    ∃ row, s.academicSessions.find? id = some row ∧ row.institutionId = tx.write.institutionId
  /-- It writes sessions of its institution. -/
  owned : ∀ row ∈ tx.rows, row.institutionId = tx.write.institutionId
  /-- They are the versions of committed rows of the institution, if of any. -/
  versions : ∀ row ∈ tx.rows, ∀ old, s.academicSessions.find? row.uuid = some old →
    old.institutionId = tx.write.institutionId
  /-- Only its own session is current among them, and only if it makes it current or it was. -/
  current : ∀ row ∈ tx.rows, row.isCurrent = true → row.uuid = tx.write.uuid ∧
    (tx.write.makesCurrent = true ∨
      ∃ old, s.academicSessions.find? row.uuid = some old ∧ old.isCurrent = true)
  /-- It has taken every other current session, unless it was overtaken. -/
  taken : tx.write.makesCurrent = true → tx.stage.scanned = true → tx.overtaken = false →
    ∀ row ∈ s.academicSessions.rows, row.institutionId = tx.write.institutionId →
      row.isCurrent = true → row.uuid = tx.write.uuid ∨ row.uuid ∈ tx.stage.rest ∨
        ∃ own ∈ tx.rows, own.uuid = row.uuid

/-- No row was written by both. -/
def Apart (tx tx' : Tx) : Prop :=
  ∀ a ∈ tx.rows, ∀ b ∈ tx'.rows, a.uuid ≠ b.uuid

/-- The invariant of the database. -/
structure DbInv (p : Db) : Prop where
  unique : UniqueCurrent p.store
  inFlight : ∀ tx ∈ p.txs, TxInv p.store tx
  apart : p.txs.Pairwise Apart

/-! ### What a transaction sees -/

/-- A session that a transaction sees is its own version, or the committed one. -/
theorem find?_view (tx : Tx) (s : Store) (id : Uuid) :
    (∃ row ∈ tx.rows, row.uuid = id ∧ (tx.view s).find? id = some row) ∨
      (¬ ∃ row ∈ tx.rows, row.uuid = id) ∧
        (tx.view s).find? id = s.academicSessions.find? id := by
  by_cases own : ∃ row ∈ tx.rows, row.uuid = id
  · exact .inl (Table.find?_upserts own)
  · exact .inr ⟨own, Table.find?_upserts_of_not own⟩

theorem mem_view {tx : Tx} {s : Store} {row : AcademicSession} (inside : row ∈ (tx.view s).rows) :
    row ∈ tx.rows ∨ row ∈ s.academicSessions.rows ∧ ¬ ∃ own ∈ tx.rows, own.uuid = row.uuid := by
  have found := Table.find?_eq_some.mpr ⟨inside, rfl⟩
  rcases find?_view tx s row.uuid with ⟨own, wrote, -, sees⟩ | ⟨unwritten, sees⟩
  · rw [found] at sees
    obtain rfl := Option.some.inj sees
    exact .inl wrote
  · rw [found] at sees
    exact .inr ⟨Table.find?_mem sees.symm, unwritten⟩

theorem clears_iff {write : SessionWrite} {session : AcademicSession} :
    write.clears session = true ↔ session.institutionId = write.institutionId ∧
      session.isCurrent = true ∧ write.keep ≠ some session.uuid := by
  unfold SessionWrite.clears
  rw [Bool.and_eq_true, Bool.and_eq_true, beq_iff_eq, bne_iff_ne, and_assoc]

/-- A transaction writes no version of the session to keep but its own. -/
theorem uuid_of_keep {write : SessionWrite} {id : Uuid} (keeps : write.keep = some id) :
    write.uuid = id := by
  cases write with
  | create => exact absurd keeps (by simp [SessionWrite.keep])
  | update input existing => exact Option.some.inj keeps

/-- The row that a transaction writes, and the version it replaces. -/
theorem row_spec {rt : Runtime} {tx : Tx} {s : Store} {row : AcademicSession}
    (made : tx.row rt s = .ok row) :
    row.uuid = tx.write.uuid ∧
      ((∃ env auth input id, tx.write = .create env auth input id ∧ row.institutionId = id ∧
          row.isCurrent = input.isCurrent) ∨
        ∃ input existing old, tx.write = .update input existing ∧
          (tx.view s).find? existing.uuid = some old ∧ row.institutionId = old.institutionId ∧
          row.isCurrent = input.isCurrent.getD old.isCurrent) := by
  unfold Tx.row at made
  cases is : tx.write with
  | create env auth input id =>
    rw [is] at made
    obtain ⟨startDate, -, rest⟩ := bind_eq_ok.mp made
    obtain ⟨endDate, -, same⟩ := bind_eq_ok.mp rest
    obtain rfl := Except.ok.inj same
    exact ⟨rfl, .inl ⟨env, auth, input, id, rfl, rfl, rfl⟩⟩
  | update input existing =>
    rw [is] at made
    obtain ⟨old, found, rest⟩ := bind_eq_ok.mp made
    obtain ⟨startDate, -, rest⟩ := bind_eq_ok.mp rest
    obtain ⟨endDate, -, same⟩ := bind_eq_ok.mp rest
    obtain rfl := Except.ok.inj same
    have there := orThrow_eq_ok.mp found
    exact ⟨show old.uuid = existing.uuid from Table.find?_key there,
      .inr ⟨input, existing, old, rfl, there, rfl, rfl⟩⟩

/-! ### One transaction -/

/-- A transaction that begins. -/
theorem txInv_begin {lookup : Institutions.Lookup} {rt : Runtime} {c : SetupCall} {s : Store}
    {plan : SetupPlan} {write : SessionWrite} (checked : setupCheckThrough lookup rt c s = .ok plan)
    (writes : SessionWrite.ofPlan plan = some write) : TxInv s (Tx.begin write) := by
  have existing : ∀ id, write.keep = some id → ∃ row, s.academicSessions.find? id = some row ∧
      row.institutionId = write.institutionId := by
    intro id keeps
    cases plan with
    | createSession env auth input institution =>
      obtain rfl := Option.some.inj writes
      exact absurd keeps (by simp [SessionWrite.keep])
    | updateSession auth input existing =>
      obtain rfl := Option.some.inj writes
      obtain rfl := Option.some.inj keeps
      exact ⟨existing, existing_of_check checked, rfl⟩
    | createStructure | updateStructure | createRuleSet | updateRuleSet =>
      exact absurd writes (by simp [SessionWrite.ofPlan])
  refine ⟨existing, fun row inside => absurd inside (by simp [Tx.begin]),
    fun row inside => absurd inside (by simp [Tx.begin]),
    fun row inside => absurd inside (by simp [Tx.begin]), fun makes scanned => ?_⟩
  have first : (Tx.begin write).stage = .scan := if_pos makes
  rw [first] at scanned
  exact absurd scanned (by simp [Stage.scanned])

/-- What a step of a transaction can do short of committing: take the sessions to clear, clear one,
pass one over, come to its own session, or write it. -/
theorem next_moved {rt : Runtime} {tx tx' : Tx} {s : Store}
    (moves : tx.next rt s = .ok (.moved tx')) :
    (tx.stage = .scan ∧ tx' = { tx with
        stage := .clear (((tx.view s).rows.filter tx.write.clears).map (·.uuid)) }) ∨
      (∃ id rest session, tx.stage = .clear (id :: rest) ∧
        (tx.view s).find? id = some session ∧ tx.write.clears session = true ∧ tx' = { tx with
          stage := .clear rest
          rows := tx.rows ++ [{ session with isCurrent := false }] }) ∨
      (∃ id rest, tx.stage = .clear (id :: rest) ∧
        (∀ session, (tx.view s).find? id = some session → tx.write.clears session = false) ∧
        tx' = { tx with stage := .clear rest }) ∨
      (tx.stage = .clear [] ∧ tx' = { tx with stage := .write }) ∨
      ∃ row, tx.stage = .write ∧ tx.row rt s = .ok row ∧ tx.admits s row = true ∧ tx' = { tx with
        stage := .done
        rows := tx.rows ++ [row] } := by
  unfold Tx.next at moves
  cases stage : tx.stage with
  | scan =>
    rw [stage] at moves
    exact .inl ⟨rfl, (Effect.moved.inj (Except.ok.inj moves)).symm⟩
  | clear ids =>
    rw [stage] at moves
    cases ids with
    | nil => exact .inr (.inr (.inr (.inl ⟨rfl, (Effect.moved.inj (Except.ok.inj moves)).symm⟩)))
    | cons id rest =>
      cases taken : ((tx.view s).find? id).filter tx.write.clears with
      | some session =>
        simp only [taken] at moves
        obtain ⟨found, clears⟩ := Option.filter_eq_some_iff.mp taken
        exact .inr (.inl ⟨id, rest, session, rfl, found, clears,
          (Effect.moved.inj (Except.ok.inj moves)).symm⟩)
      | none =>
        simp only [taken] at moves
        refine .inr (.inr (.inl ⟨id, rest, rfl, fun session found => ?_,
          (Effect.moved.inj (Except.ok.inj moves)).symm⟩))
        rw [found] at taken
        simpa using taken
  | write =>
    rw [stage] at moves
    obtain ⟨row, made, rest⟩ := bind_eq_ok.mp moves
    obtain ⟨_, admitted, same⟩ := bind_eq_ok.mp rest
    exact .inr (.inr (.inr (.inr ⟨row, rfl, made, require_eq_ok.mp admitted,
      (Effect.moved.inj (Except.ok.inj same)).symm⟩)))
  | done =>
    rw [stage] at moves
    exact absurd (Except.ok.inj moves) (by simp)

/-- The step that commits. -/
theorem next_committed {rt : Runtime} {tx : Tx} {s t : Store}
    (commits : tx.next rt s = .ok (.committed t)) :
    tx.stage = .done ∧ t = { s with academicSessions := tx.view s } := by
  unfold Tx.next at commits
  cases stage : tx.stage with
  | scan =>
    rw [stage] at commits
    exact absurd (Except.ok.inj commits) (by simp)
  | clear ids =>
    rw [stage] at commits
    cases ids with
    | nil => exact absurd (Except.ok.inj commits) (by simp)
    | cons id rest =>
      cases taken : ((tx.view s).find? id).filter tx.write.clears with
      | some session =>
        simp only [taken] at commits
        exact absurd (Except.ok.inj commits) (by simp)
      | none =>
        simp only [taken] at commits
        exact absurd (Except.ok.inj commits) (by simp)
  | write =>
    rw [stage] at commits
    obtain ⟨row, -, rest⟩ := bind_eq_ok.mp commits
    obtain ⟨_, -, same⟩ := bind_eq_ok.mp rest
    exact absurd (Except.ok.inj same) (by simp)
  | done =>
    rw [stage] at commits
    exact ⟨rfl, (Effect.committed.inj (Except.ok.inj commits)).symm⟩

/-- A new session is no version of a committed one. -/
theorem absent_of_admits {tx : Tx} {s : Store} {row : AcademicSession} {env : SetupEnv}
    {auth : AuthTokenPayload} {input : CreateSessionInput} {institutionId : Uuid}
    (creates : tx.write = .create env auth input institutionId)
    (admitted : tx.admits s row = true) : s.academicSessions.find? row.uuid = none := by
  rw [Table.find?_eq_none]
  intro old inside same
  have apart : ∀ other ∈ (tx.view s).rows, other.uuid ≠ row.uuid := by
    intro other there
    unfold Tx.admits at admitted
    have both := List.all_eq_true.mp admitted other there
    rw [creates] at both
    simpa using (Bool.and_eq_true_iff.mp both).1
  rcases find?_view tx s row.uuid with ⟨own, -, -, sees⟩ | ⟨-, sees⟩
  · exact apart own (Table.find?_mem sees) (Table.find?_key sees)
  · have found := Table.find?_eq_some.mpr ⟨inside, same⟩
    rw [found] at sees
    exact apart old (Table.find?_mem sees) same

/-- The invariant of a transaction that has written one row more. -/
theorem TxInv.wrote {s : Store} {tx : Tx} (inv : TxInv s tx) {row : AcademicSession} {stage : Stage}
    (owned : row.institutionId = tx.write.institutionId)
    (version : ∀ old, s.academicSessions.find? row.uuid = some old →
      old.institutionId = tx.write.institutionId)
    (current : row.isCurrent = true → row.uuid = tx.write.uuid ∧
      (tx.write.makesCurrent = true ∨
        ∃ old, s.academicSessions.find? row.uuid = some old ∧ old.isCurrent = true))
    (scanned : stage.scanned = true → tx.stage.scanned = true)
    (rest : ∀ id ∈ tx.stage.rest, id ∈ stage.rest ∨ row.uuid = id) :
    TxInv s { tx with
      stage := stage
      rows := tx.rows ++ [row] } where
  existing := inv.existing
  owned := by
    intro other inside
    rcases List.mem_append.mp inside with before | last
    · exact inv.owned other before
    · rw [List.mem_singleton.mp last]
      exact owned
  versions := by
    intro other inside
    rcases List.mem_append.mp inside with before | last
    · exact inv.versions other before
    · rw [List.mem_singleton.mp last]
      exact version
  current := by
    intro other inside
    rcases List.mem_append.mp inside with before | last
    · exact inv.current other before
    · rw [List.mem_singleton.mp last]
      exact current
  taken := by
    intro makes past fresh other inside ofInstitution is
    rcases inv.taken makes (scanned past) fresh other inside ofInstitution is with
      same | left | ⟨own, wrote, same⟩
    · exact .inl same
    · rcases rest _ left with later | here
      · exact .inr (.inl later)
      · exact .inr (.inr ⟨row, List.mem_append_right _ (List.mem_singleton.mpr rfl), here⟩)
    · exact .inr (.inr ⟨own, List.mem_append_left _ wrote, same⟩)

/-- **One step of a transaction** keeps its invariant. -/
theorem txInv_next {rt : Runtime} {s : Store} {tx tx' : Tx} (inv : TxInv s tx)
    (moves : tx.next rt s = .ok (.moved tx')) : TxInv s tx' := by
  rcases next_moved moves with ⟨stage, rfl⟩ | ⟨id, rest, session, stage, found, clears, rfl⟩ |
    ⟨id, rest, stage, passes, rfl⟩ | ⟨stage, rfl⟩ | ⟨row, stage, made, admitted, rfl⟩
  · refine ⟨inv.existing, inv.owned, inv.versions, inv.current, fun _ _ _ row inside owner is => ?_⟩
    rcases find?_view tx s row.uuid with ⟨own, wrote, same, -⟩ | ⟨-, sees⟩
    · exact .inr (.inr ⟨own, wrote, same⟩)
    · rw [Table.find?_eq_some.mpr ⟨inside, rfl⟩] at sees
      by_cases kept : tx.write.keep = some row.uuid
      · exact .inl (uuid_of_keep kept).symm
      · refine .inr (.inl (List.mem_map_of_mem (List.mem_filter.mpr ⟨Table.find?_mem sees, ?_⟩)))
        exact clears_iff.mpr ⟨owner, is, kept⟩
  · obtain ⟨owner, -, -⟩ := clears_iff.mp clears
    have here := Table.find?_key found
    refine inv.wrote owner (fun old there => ?_) (fun is => absurd is (by simp))
      (fun _ => by rw [stage]; rfl) (fun other left => ?_)
    · rcases find?_view tx s id with ⟨own, wrote, same, sees⟩ | ⟨-, sees⟩
      · exact inv.versions own wrote old (by rw [same, ← here]; exact there)
      · rw [found, ← here] at sees
        obtain rfl := Option.some.inj (sees.trans there)
        exact owner
    · rw [stage] at left
      rcases List.mem_cons.mp left with rfl | later
      · exact .inr here
      · exact .inl later
  · refine ⟨inv.existing, inv.owned, inv.versions, inv.current,
      fun makes _ fresh row inside owner is => ?_⟩
    rcases inv.taken makes (by rw [stage]; rfl) fresh row inside owner is with
      same | left | wrote
    · exact .inl same
    · rw [stage] at left
      rcases List.mem_cons.mp left with same | later
      · rcases find?_view tx s id with ⟨own, wrote, here, -⟩ | ⟨-, sees⟩
        · exact .inr (.inr ⟨own, wrote, here.trans same.symm⟩)
        · rw [← same, Table.find?_eq_some.mpr ⟨inside, rfl⟩] at sees
          have unclear := passes row (by rw [← same]; exact sees)
          by_cases kept : tx.write.keep = some row.uuid
          · exact .inl (uuid_of_keep kept).symm
          · rw [clears_iff.mpr ⟨owner, is, kept⟩] at unclear
            exact absurd unclear (by simp)
      · exact .inr (.inl later)
    · exact .inr (.inr wrote)
  · refine ⟨inv.existing, inv.owned, inv.versions, inv.current,
      fun makes _ fresh row inside owner is => ?_⟩
    have before := inv.taken makes (by rw [stage]; rfl) fresh row inside owner is
    rw [stage] at before
    exact before
  · obtain ⟨named, ⟨env, auth, input, institutionId, creates, owner, is⟩ |
      ⟨input, existing, old, updates, found, owner, is⟩⟩ := row_spec made
    · have absent := absent_of_admits creates admitted
      refine inv.wrote (by rw [creates]; exact owner) (fun old there => ?_)
        (fun current => ⟨named, .inl ?_⟩) (fun _ => by rw [stage]; rfl)
        (fun other left => by rw [stage] at left; exact absurd left (by simp [Stage.rest]))
      · rw [absent] at there
        exact absurd there (by simp)
      · rw [creates]
        exact is.symm.trans current
    · have kept : tx.write.keep = some existing.uuid := by rw [updates]; rfl
      have same : row.uuid = existing.uuid := by rw [named, updates]; rfl
      obtain ⟨before, there, ofInstitution⟩ := inv.existing _ kept
      refine inv.wrote ?_ (fun other committed => ?_) (fun current => ⟨named, ?_⟩)
        (fun _ => by rw [stage]; rfl)
        (fun other left => by rw [stage] at left; exact absurd left (by simp [Stage.rest]))
      · rw [owner]
        rcases find?_view tx s existing.uuid with ⟨own, wrote, -, sees⟩ | ⟨-, sees⟩
        · rw [found] at sees
          obtain rfl := Option.some.inj sees
          exact inv.owned old wrote
        · rw [found, there] at sees
          obtain rfl := Option.some.inj sees
          exact ofInstitution
      · rw [same, there] at committed
        obtain rfl := Option.some.inj committed
        exact ofInstitution
      · rw [is] at current
        cases asked : input.isCurrent with
        | some value =>
          rw [asked] at current
          obtain rfl : value = true := current
          refine .inl ?_
          rw [updates]
          exact beq_iff_eq.mpr asked
        | none =>
          rw [asked] at current
          rcases find?_view tx s existing.uuid with ⟨own, wrote, here, sees⟩ | ⟨-, sees⟩
          · rw [found] at sees
            obtain rfl := Option.some.inj sees
            rw [same, ← here]
            exact (inv.current old wrote current).2
          · rw [found] at sees
            exact .inr ⟨old, by rw [same]; exact sees.symm, current⟩

/-- A step that does not wait writes no row that another transaction has written. -/
theorem apart_next {rt : Runtime} {s : Store} {tx tx' other : Tx} (apart : Apart tx other)
    (free : tx.waitsFor rt s other = false) (moves : tx.next rt s = .ok (.moved tx')) :
    Apart tx' other := by
  unfold Tx.waitsFor at free
  rcases next_moved moves with ⟨-, rfl⟩ | ⟨id, rest, session, stage, found, -, rfl⟩ |
    ⟨id, rest, -, -, rfl⟩ | ⟨-, rfl⟩ | ⟨row, stage, made, -, rfl⟩
  · exact apart
  · intro a inside b there
    rcases List.mem_append.mp inside with before | last
    · exact apart a before b there
    · rw [List.mem_singleton.mp last]
      rw [stage] at free
      have unlocked := List.any_eq_false.mp free b there
      intro same
      exact unlocked (beq_iff_eq.mpr (same.symm.trans
        (show session.uuid = id from Table.find?_key found)))
  · exact apart
  · exact apart
  · intro a inside b there
    rcases List.mem_append.mp inside with before | last
    · exact apart a before b there
    · rw [List.mem_singleton.mp last]
      rw [stage] at free
      have unlocked := List.any_eq_false.mp free b there
      intro same
      refine unlocked (Bool.or_eq_true_iff.mpr (.inl (beq_iff_eq.mpr ?_)))
      exact same.symm.trans (row_spec made).1

/-! ### A commit -/

/-- A row that another transaction has written is committed as it was. -/
theorem find?_view_of_apart {s : Store} {tx other : Tx} (apart : Apart tx other)
    {row : AcademicSession} (wrote : row ∈ tx.rows) :
    (other.view s).find? row.uuid = s.academicSessions.find? row.uuid := by
  rcases find?_view other s row.uuid with ⟨own, there, same, -⟩ | ⟨-, sees⟩
  · exact absurd same.symm (apart row wrote own there)
  · exact sees

/-- What it takes for a transaction not to be overtaken by another. -/
theorem not_overtaken {tx other : Tx} (fresh : (tx.after other).overtaken = false) :
    tx.overtaken = false ∧ (tx.stage.scanned = true → other.write.makesCurrent = true →
      other.write.institutionId = tx.write.institutionId →
        other.write.uuid = tx.write.uuid ∨ other.write.uuid ∈ tx.stage.rest ∨
          ∃ own ∈ tx.rows, own.uuid = other.write.uuid) := by
  obtain ⟨before, now⟩ := Bool.or_eq_false_iff.mp fresh
  refine ⟨before, fun scanned makes same => ?_⟩
  by_contra unseen
  obtain ⟨apart, unseen⟩ := not_or.mp unseen
  obtain ⟨untaken, unwritten⟩ := not_or.mp unseen
  have written : tx.rows.any (·.uuid == other.write.uuid) = false := by
    refine List.any_eq_false.mpr fun own inside is => unwritten ⟨own, inside, ?_⟩
    exact beq_iff_eq.mp is
  simp [scanned, makes, same, apart, untaken, written] at now

/-- **Another transaction's commit** keeps the invariant: what it made current this one has taken or
written, or it is overtaken. -/
theorem txInv_after {rt : Runtime} {s t : Store} {tx other : Tx} (inv : TxInv s tx)
    (others : TxInv s other) (apart : Apart tx other)
    (commits : other.next rt s = .ok (.committed t)) : TxInv t (tx.after other) := by
  obtain ⟨-, rfl⟩ := next_committed commits
  refine ⟨fun id keeps => ?_, inv.owned, fun row wrote old found => ?_, fun row wrote is => ?_,
    fun makes scanned fresh row inside owner is => ?_⟩
  · obtain ⟨row, found, owner⟩ := inv.existing id keeps
    show ∃ row, (other.view s).find? id = some row ∧ _
    rcases find?_view other s id with ⟨own, wrote, same, sees⟩ | ⟨-, sees⟩
    · refine ⟨own, sees, ?_⟩
      have version := others.versions own wrote row (by rw [same]; exact found)
      exact (others.owned own wrote).trans (version.symm.trans owner)
    · exact ⟨row, sees.trans found, owner⟩
  · exact inv.versions row wrote old ((find?_view_of_apart apart wrote).symm.trans found)
  · obtain ⟨named, makes | ⟨old, found, before⟩⟩ := inv.current row wrote is
    · exact ⟨named, .inl makes⟩
    · exact ⟨named, .inr ⟨old, (find?_view_of_apart apart wrote).trans found, before⟩⟩
  · obtain ⟨before, now⟩ := not_overtaken fresh
    rcases mem_view inside with wrote | ⟨there, -⟩
    · have same := others.owned row wrote
      obtain ⟨named, makes' | ⟨old, found, was⟩⟩ := others.current row wrote is
      · rw [named]
        exact now scanned makes' (same.symm.trans owner)
      · have version := others.versions row wrote old found
        rw [← Table.find?_key found]
        exact inv.taken makes scanned before old (Table.find?_mem found)
          (version.trans (same.symm.trans owner)) was
    · exact inv.taken makes scanned before row there owner is

/-- **A commit leaves one current session**, unless it makes one current and was overtaken. -/
theorem unique_commit {rt : Runtime} {s t : Store} {tx : Tx} (unique : UniqueCurrent s)
    (inv : TxInv s tx) (commits : tx.next rt s = .ok (.committed t))
    (fresh : tx.write.makesCurrent = true → tx.overtaken = false) : UniqueCurrent t := by
  obtain ⟨stage, rfl⟩ := next_committed commits
  have beside : ∀ a ∈ tx.rows, ∀ b ∈ s.academicSessions.rows,
      (¬ ∃ own ∈ tx.rows, own.uuid = b.uuid) → a.institutionId = b.institutionId →
        a.isCurrent = true → b.isCurrent = true → False := by
    intro a wrote b there unwritten same isA isB
    have owner := inv.owned a wrote
    obtain ⟨named, makes | ⟨old, found, was⟩⟩ := inv.current a wrote isA
    · rcases inv.taken makes (by rw [stage]; rfl) (fresh makes) b there (same.symm.trans owner) isB
        with here | left | own
      · exact unwritten ⟨a, wrote, named.trans here.symm⟩
      · rw [stage] at left
        exact absurd left (by simp [Stage.rest])
      · exact unwritten own
    · have version := inv.versions a wrote old found
      obtain rfl := unique old (Table.find?_mem found) b there
        (version.trans (owner.symm.trans same)) was isB
      exact unwritten ⟨a, wrote, (Table.find?_key found).symm⟩
  intro a insideA b insideB same isA isB
  refine Table.eq_of_key_eq insideA insideB ?_
  rcases mem_view insideA with wroteA | ⟨thereA, freeA⟩
  · rcases mem_view insideB with wroteB | ⟨thereB, freeB⟩
    · exact (inv.current a wroteA isA).1.trans (inv.current b wroteB isB).1.symm
    · exact (beside a wroteA b thereB freeB same isA isB).elim
  · rcases mem_view insideB with wroteB | ⟨thereB, freeB⟩
    · exact (beside b wroteB a thereA freeA same.symm isB isA).elim
    · rw [unique a thereA b thereB same isA isB]

/-! ### Runs -/

theorem Apart.symm {tx tx' : Tx} (apart : Apart tx tx') : Apart tx' tx :=
  fun a here b there same => apart b there a here same.symm

/-- The invariant, of one transaction and the others. -/
theorem dbInv_split {p : Db} {k : ℕ} {tx : Tx} (inv : DbInv p) (found : p.txs[k]? = some tx) :
    TxInv p.store tx ∧ (∀ other ∈ p.txs.eraseIdx k, TxInv p.store other ∧ Apart tx other) ∧
      (p.txs.eraseIdx k).Pairwise Apart := by
  obtain ⟨bound, rfl⟩ := List.getElem?_eq_some_iff.mp found
  have apart := ((List.getElem_cons_eraseIdx_perm bound).pairwise_iff Apart.symm).mpr inv.apart
  obtain ⟨first, rest⟩ := List.pairwise_cons.mp apart
  refine ⟨inv.inFlight _ (List.getElem_mem bound), fun other inside => ⟨?_, first other inside⟩, rest⟩
  exact inv.inFlight other (List.mem_of_mem_eraseIdx inside)

/-- **A step keeps the invariant**, unless it commits a transaction that was overtaken. -/
theorem dbInv_step {lookup : Institutions.Lookup} {rt : Runtime} {p : Db} {e : DbEvent}
    (inv : DbInv p) (fresh : NotOvertaken p e) : DbInv (dbStep lookup rt p e) := by
  cases e with
  | call c =>
    unfold dbStep
    cases checked : setupCheckThrough lookup rt c p.store with
    | error e => simpa only [checked] using inv
    | ok plan =>
      cases writes : SessionWrite.ofPlan plan with
      | none => simpa only [checked, writes] using inv
      | some write =>
        simp only [checked, writes]
        refine ⟨inv.unique, fun tx inside => ?_, ?_⟩
        · rcases List.mem_append.mp inside with before | last
          · exact inv.inFlight tx before
          · rw [List.mem_singleton.mp last]
            exact txInv_begin checked writes
        · refine List.pairwise_append.mpr ⟨inv.apart, List.pairwise_singleton .., ?_⟩
          intro tx _ new last
          rw [List.mem_singleton.mp last]
          exact fun a _ b inside => absurd inside (by simp [Tx.begin])
  | abort k =>
    refine ⟨inv.unique, fun tx inside => inv.inFlight tx (List.mem_of_mem_eraseIdx inside), ?_⟩
    exact inv.apart.sublist (List.eraseIdx_sublist ..)
  | advance k =>
    show DbInv (advance rt p k)
    unfold advance
    cases found : p.txs[k]? with
    | none => exact inv
    | some tx =>
      obtain ⟨own, others, apart⟩ := dbInv_split inv found
      obtain ⟨bound, -⟩ := List.getElem?_eq_some_iff.mp found
      simp only
      split
      · exact inv
      · rename_i free
        have unlocked := List.any_eq_false.mp (Bool.eq_false_iff.mpr free)
        cases goes : tx.next rt p.store with
        | error e =>
          exact ⟨inv.unique, fun other inside => (others other inside).1, apart⟩
        | ok effect =>
          cases effect with
          | moved tx' =>
            have perm := List.set_perm_cons_eraseIdx bound tx'
            refine ⟨inv.unique, fun other inside => ?_, ?_⟩
            · rcases List.mem_cons.mp (perm.mem_iff.mp inside) with rfl | rest
              · exact txInv_next own goes
              · exact (others other rest).1
            · refine (perm.pairwise_iff Apart.symm).mpr (List.pairwise_cons.mpr ⟨?_, apart⟩)
              intro other inside
              refine apart_next (others other inside).2 ?_ goes
              exact Bool.eq_false_iff.mpr (unlocked other inside)
          | committed t =>
            obtain ⟨stage, -⟩ := next_committed goes
            refine ⟨unique_commit inv.unique own goes (fresh k tx rfl found stage), ?_, ?_⟩
            · intro other inside
              obtain ⟨before, there, rfl⟩ := List.mem_map.mp inside
              exact txInv_after (others before there).1 own (others before there).2.symm goes
            · exact List.pairwise_map.mpr apart

/-- **An institution has at most one current session in every state of a run in which no transaction
that commits a current session was overtaken**, whatever institutions the lookup returns. -/
theorem unique_of_not_overtaken (lookup : Institutions.Lookup) (rt : Runtime) (start : Store)
    (single : UniqueCurrent start) (events : List DbEvent)
    (fresh : Along (dbStep lookup rt) NotOvertaken ⟨start, []⟩ events) :
    Throughout (dbStep lookup rt) (fun p => p.txs = [] → UniqueCurrent p.store) ⟨start, []⟩
      events := by
  have begins : DbInv ⟨start, []⟩ :=
    ⟨single, fun tx inside => absurd inside (by simp), List.Pairwise.nil⟩
  rw [throughout_iff_prefixes]
  intro before after same _
  rw [same] at fresh
  exact (runs_of_keeps (fun p e inv clear => dbInv_step inv clear) begins
    (along_append.mp fresh).1).unique

/-! ### Two sessions at once -/

/-- A lookup that finds the school, whatever the reference. -/
def schoolLookup : Institutions.Lookup :=
  fun _ _ s => .ok (s.institutions.find? "10000000-0000-4000-8000-000000000001")

/-- A session created as the current one. -/
def createCurrent (uuid : Uuid) (periodLabel : String) : DbEvent :=
  .call (.createAcademicSession ⟨0, 1, uuid⟩ BatchHistory.founder
    (.obj [("institutionId", .str "ACD-0001"), ("sessionLabel", .str "2025/2026"),
      ("periodType", .str "TERM"), ("periodLabel", .str periodLabel), ("isCurrent", .bool true)]))

/-- The transaction at the front, from its first statement to its commit, with nothing to clear. -/
def alone : List DbEvent :=
  [.advance 0, .advance 0, .advance 0, .advance 0]

def firstTerm : DbEvent :=
  createCurrent "90000000-0000-4000-8000-000000000001" "First Term"

def secondTerm : DbEvent :=
  createCurrent "90000000-0000-4000-8000-000000000002" "Second Term"

/-- The second term is created once the first is there. -/
def oneByOne : List DbEvent :=
  firstTerm :: alone ++ secondTerm :: .advance 0 :: alone

/-- Both are begun before either is committed. -/
def atOnce : List DbEvent :=
  firstTerm :: secondTerm :: .advance 0 :: .advance 1 :: alone ++ alone

/-- The decidable form of the condition. -/
def notOvertaken (p : Db) (e : DbEvent) : Bool :=
  match e with
  | .advance k => (p.txs[k]?).all fun tx =>
    match tx.stage with
    | .done => !tx.write.makesCurrent || !tx.overtaken
    | _ => true
  | _ => true

theorem notOvertaken_of_decided {p : Db} {e : DbEvent} (decided : notOvertaken p e = true) :
    NotOvertaken p e := by
  rintro k tx rfl found stage makes
  unfold notOvertaken at decided
  simpa [found, stage, makes] using decided

theorem school_unique : UniqueCurrent BatchHistory.school :=
  fun a inside => absurd inside (by simp [BatchHistory.school, Store.empty, Table.empty])

/-- Sessions created one after the other leave one current. -/
theorem oneByOne_unique :
    Throughout (dbStep schoolLookup .plain) (fun p => p.txs = [] → UniqueCurrent p.store)
      ⟨BatchHistory.school, []⟩ oneByOne := by
  refine unique_of_not_overtaken schoolLookup .plain BatchHistory.school school_unique oneByOne ?_
  refine Along.mono (fun p e decided => notOvertaken_of_decided decided)
    (show Along _ (fun p e => notOvertaken p e = true) _ _ from ?_)
  decide +kernel

/-- **An institution can have two current sessions**: those of two creations begun before either is
committed. -/
theorem unique_fails :
    ¬ ∀ (lookup : Institutions.Lookup) (rt : Runtime) (start : Store) (events : List DbEvent),
      UniqueCurrent start → Throughout (dbStep lookup rt)
        (fun p => p.txs = [] → UniqueCurrent p.store) ⟨start, []⟩ events := by
  intro all
  have kept := all schoolLookup .plain BatchHistory.school atOnce school_unique
  have last := throughout_iff_prefixes.mp kept atOnce [] (List.append_nil _).symm
  have closed : (runs (dbStep schoolLookup .plain) ⟨BatchHistory.school, []⟩ atOnce).txs = [] := by
    refine List.eq_nil_of_length_eq_zero ?_
    decide +kernel
  have single := last closed
  have here : ∀ id ∈ ["90000000-0000-4000-8000-000000000001",
      "90000000-0000-4000-8000-000000000002"],
      ((runs (dbStep schoolLookup .plain) ⟨BatchHistory.school, []⟩
        atOnce).store.academicSessions.find? id).map (fun row => (row.institutionId, row.isCurrent)) =
        some ("10000000-0000-4000-8000-000000000001", true) := by
    decide +kernel
  obtain ⟨a, foundA, isA⟩ := Option.map_eq_some_iff.mp (here _ (List.mem_cons_self ..))
  obtain ⟨b, foundB, isB⟩ := Option.map_eq_some_iff.mp
    (here _ (List.mem_cons_of_mem _ (List.mem_singleton.mpr rfl)))
  obtain ⟨ofA, currentA⟩ := Prod.mk.inj isA
  obtain ⟨ofB, currentB⟩ := Prod.mk.inj isB
  have same := single a (Table.find?_mem foundA) b (Table.find?_mem foundB) (ofA.trans ofB.symm)
    currentA currentB
  have uuidA := Table.find?_key foundA
  rw [same, Table.find?_key foundB] at uuidA
  exact absurd uuidA (by decide)

end AcadID.CurrentSession
