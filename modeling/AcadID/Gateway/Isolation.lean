/-
**Publications as transactions at read committed.**

The transaction of `publishBatch`, one statement at a time. A statement sees what is committed when
it runs and what its own transaction wrote; a row that another transaction has written and not yet
committed makes it wait.

* `Tx.next` — the next statement of a transaction, on what it sees; `commit` shows its writes.
* `alone_publishes` — **a transaction that nothing comes between** is `publishCommit`.
* `Settled` — every enrolment with a published record has the standing of the records there are.
* `settled_of_not_overtaken` — **the standings are settled in every state of a run in which no
  transaction commits after it was overtaken**: after another one committed records of an enrolment
  whose records it had read before.
* `settled_fails` — two batches with one student, each read before the other is committed.
-/

import AcadID.Gateway.PublicationOrder

namespace AcadID.Isolation

open Lib Governance Standing

/-! ### Transactions -/

/-- How far the transaction of a publication has come. -/
inductive Stage where
  | batch
  | records
  | credentials (rest : List Credential)
  | standings (rest : List Uuid)
  | upsert (standing : AcademicStanding) (rest : List Uuid)

def Stage.batchWritten : Stage → Bool
  | .batch => false
  | _ => true

def Stage.recordsWritten : Stage → Bool
  | .batch | .records => false
  | _ => true

/-- The enrolments whose standing is still to be recomputed. -/
def Stage.rest (enrolmentIds : List Uuid) : Stage → List Uuid
  | .standings rest | .upsert _ rest => rest
  | _ => enrolmentIds

/-- The standing that was computed and not yet written. -/
def Stage.computed : Stage → List AcademicStanding
  | .upsert standing _ => [standing]
  | _ => []

/-- The transaction of a publication, with the rows it has written so far; `read` are the
enrolments whose records it has read, and `overtaken` tells that records of one of them were
committed by another transaction since. -/
structure Tx where
  plan : PublishPlan
  stage : Stage
  credentials : List Credential
  standings : List AcademicStanding
  read : List Uuid
  overtaken : Bool

/-- A transaction before its first statement. -/
def Tx.begin (plan : PublishPlan) : Tx where
  plan := plan
  stage := .batch
  credentials := []
  standings := []
  read := []
  overtaken := false

def Tx.enrolmentIds (tx : Tx) : List Uuid :=
  (tx.plan.records.map fun read => read.1.enrolmentId).eraseDups

theorem publishedRecord_key (plan : PublishPlan) (r : AcademicRecord) :
    (publishedRecord plan.env.committedAt r).uuid = r.uuid := rfl

/-- The records of a store with those of a batch published. -/
def withPublished (plan : PublishPlan) (s : Store) : Store :=
  { s with
    academicRecords := s.academicRecords.updateMany
      (fun record => record.resultBatchId == some plan.batch.uuid)
      (publishedRecord plan.env.committedAt) (publishedRecord_key plan) }

/-- **What a transaction sees**: what is committed, and what it wrote itself. -/
def Tx.view (tx : Tx) (s : Store) : Except ServiceError Store := do
  let s := if tx.stage.batchWritten then
      { s with
        resultBatches := s.resultBatches.update tx.plan.batch.uuid
          (publishedBatch tx.plan.env.committedAt) fun _ => rfl }
    else s
  let s := if tx.stage.recordsWritten then withPublished tx.plan s else s
  let s ← createCredentials s tx.credentials
  return { s with academicStandings := tx.standings.foldl Table.upsert s.academicStandings }

/-- What a statement does: it moves the transaction on, or commits it. -/
inductive Effect where
  | moved (tx : Tx)
  | committed (s : Store)

/-- **The next statement of a transaction.** The records of an enrolment are read by one statement
and its standing written by another. -/
def Tx.next (tx : Tx) (s : Store) : Except ServiceError Effect := do
  let seen ← tx.view s
  match tx.stage with
  | .batch => do
    let _ ← orThrow (seen.resultBatches.find? tx.plan.batch.uuid) .recordNotFound
    return .moved { tx with stage := .records }
  | .records =>
    return .moved { tx with
      stage := .credentials (tx.plan.signedCredentials.zipIdx.map (recordCredential tx.plan)) }
  | .credentials (credential :: rest) => do
    let _ ← createCredential seen credential
    return .moved { tx with
      stage := .credentials rest
      credentials := tx.credentials ++ [credential] }
  | .credentials [] => return .moved { tx with stage := .standings tx.enrolmentIds }
  | .standings (enrolmentId :: rest) =>
    match seen.enrolments.find? enrolmentId with
    | none => return .moved { tx with stage := .standings rest, read := tx.read ++ [enrolmentId] }
    | some enrolment =>
      return .moved { tx with
        stage := .upsert (standingOf seen tx.plan.env.committedAt enrolment) rest
        read := tx.read ++ [enrolmentId] }
  | .upsert standing rest =>
    return .moved { tx with
      stage := .standings rest
      standings := tx.standings ++ [standing] }
  | .standings [] => return .committed seen

/-! ### Transactions in flight -/

/-- What is committed, and the transactions in flight. -/
structure Db where
  store : Store
  txs : List Tx

/-- **Whether a statement waits** for a row that another transaction has written. -/
def Tx.waitsFor (tx other : Tx) : Bool :=
  match tx.stage with
  | .batch => other.plan.batch.uuid == tx.plan.batch.uuid && other.stage.batchWritten
  | .credentials (credential :: _) => other.credentials.any fun c =>
    c.uuid == credential.uuid || c.credentialRef == credential.credentialRef
  | .upsert standing _ => other.standings.any (·.enrolmentId == standing.enrolmentId)
  | _ => false

/-- A transaction after another one committed: overtaken, if it had read the records of one of the
other's enrolments. -/
def Tx.after (tx other : Tx) : Tx :=
  { tx with overtaken := tx.overtaken || tx.read.any fun id => decide (id ∈ other.enrolmentIds) }

/-- What happens next. -/
inductive DbEvent where
  /-- The check of a call, and its transaction begun. -/
  | call (env : PublishEnv) (auth : AuthTokenPayload) (batchId : Uuid)
  /-- The next statement of a transaction. -/
  | advance (k : ℕ)
  /-- A transaction rolled back: timed out, deadlocked, disconnected. -/
  | abort (k : ℕ)

/-- The next statement of the `k`-th transaction; a statement that fails rolls it back. -/
def advance (p : Db) (k : ℕ) : Db :=
  match p.txs[k]? with
  | none => p
  | some tx =>
    if (p.txs.eraseIdx k).any tx.waitsFor then p
    else
      match tx.next p.store with
      | .error _ => { p with txs := p.txs.eraseIdx k }
      | .ok (.moved tx') => { p with txs := p.txs.set k tx' }
      | .ok (.committed s) => { store := s, txs := (p.txs.eraseIdx k).map (·.after tx) }

def dbStep (rt : Runtime) (p : Db) (e : DbEvent) : Db :=
  match e with
  | .call env auth batchId =>
    match publishCheck rt env auth batchId p.store with
    | .error _ => p
    | .ok plan => { p with txs := p.txs ++ [Tx.begin plan] }
  | .advance k => advance p k
  | .abort k => { p with txs := p.txs.eraseIdx k }

/-- Every enrolment with a published record has a current standing. -/
def Settled (s : Store) : Prop :=
  ∀ r ∈ s.academicRecords.rows, r.status = .published → Current s r.enrolmentId

/-- The transaction is about to commit. -/
def Tx.commits (tx : Tx) : Bool :=
  match tx.stage with
  | .standings [] => true
  | _ => false

/-- **A transaction that commits was not overtaken**: none of the enrolments whose records it read
had records committed by another transaction since. -/
def NotOvertaken (p : Db) (e : DbEvent) : Prop :=
  ∀ k tx, e = .advance k → p.txs[k]? = some tx → tx.commits = true → tx.overtaken = false

/-! ### What a transaction sees -/

theorem view_spec {tx : Tx} {s seen : Store} (sees : tx.view s = .ok seen) :
    seen.enrolments = s.enrolments ∧ seen.gradingRuleSets = s.gradingRuleSets ∧
      seen.academicRecords = (if tx.stage.recordsWritten then withPublished tx.plan s
        else s).academicRecords ∧
      seen.academicStandings = tx.standings.foldl Table.upsert s.academicStandings := by
  unfold Tx.view at sees
  obtain ⟨between, created, same⟩ := bind_eq_ok.mp sees
  rw [pure_eq_ok] at same
  obtain ⟨credentials, -, rfl⟩ := createCredentials_spec created
  rw [← same]
  cases tx.stage.batchWritten <;> cases tx.stage.recordsWritten <;> exact ⟨rfl, rfl, rfl, rfl⟩

/-! ### A transaction alone -/

/-- The statements of a transaction, with none of another's in between, end in a store. -/
def Reaches (s : Store) (tx : Tx) (t : Store) : Prop :=
  ∃ n, runs advance ⟨s, [tx]⟩ (List.replicate n 0) = ⟨t, []⟩

theorem advance_alone {s : Store} {tx : Tx} {effect : Effect} (goes : tx.next s = .ok effect) :
    advance ⟨s, [tx]⟩ 0 = match effect with
      | .moved tx' => ⟨s, [tx']⟩
      | .committed t => ⟨t, []⟩ := by
  unfold advance
  simp only [List.getElem?_cons_zero, List.eraseIdx_cons_zero, List.any_nil, goes]
  cases effect <;> rfl

theorem reaches_of_moved {s t : Store} {tx tx' : Tx} (moves : tx.next s = .ok (.moved tx'))
    (rest : Reaches s tx' t) : Reaches s tx t := by
  obtain ⟨n, ends⟩ := rest
  refine ⟨n + 1, ?_⟩
  rw [List.replicate_succ]
  show runs advance (advance ⟨s, [tx]⟩ 0) (List.replicate n 0) = _
  rw [advance_alone moves]
  exact ends

/-- The standings of several enrolments, one after the other. -/
theorem reaches_standings {s : Store} {rest : List Uuid} {tx : Tx} {seen : Store}
    (stage : tx.stage = .standings rest) (sees : tx.view s = .ok seen) :
    Reaches s tx (recomputeAll tx.plan.env.committedAt seen rest) := by
  induction rest generalizing tx seen with
  | nil =>
    have commits : tx.next s = .ok (.committed seen) := by
      unfold Tx.next
      rw [sees, stage]
      rfl
    exact ⟨1, advance_alone commits⟩
  | cons id rest ih =>
    cases found : seen.enrolments.find? id with
    | none =>
      have same : recomputeAcademicStanding seen tx.plan.env.committedAt id = seen := by
        unfold recomputeAcademicStanding
        rw [found]
      show Reaches s tx (recomputeAll tx.plan.env.committedAt
        (recomputeAcademicStanding seen tx.plan.env.committedAt id) rest)
      rw [same]
      have moves : tx.next s = .ok (.moved { tx with
          stage := .standings rest
          read := tx.read ++ [id] }) := by
        unfold Tx.next
        rw [sees, stage]
        show (match seen.enrolments.find? id with | none => _ | some _ => _) = _
        rw [found]
        rfl
      refine reaches_of_moved moves (ih rfl ?_)
      rw [← sees]
      unfold Tx.view
      rw [stage]
      rfl
    | some enrolment =>
      have next : recomputeAcademicStanding seen tx.plan.env.committedAt id =
          { seen with
            academicStandings := seen.academicStandings.upsert
              (standingOf seen tx.plan.env.committedAt enrolment) } := by
        unfold recomputeAcademicStanding
        rw [found]
      show Reaches s tx (recomputeAll tx.plan.env.committedAt
        (recomputeAcademicStanding seen tx.plan.env.committedAt id) rest)
      rw [next]
      have reads : tx.next s = .ok (.moved { tx with
          stage := .upsert (standingOf seen tx.plan.env.committedAt enrolment) rest
          read := tx.read ++ [id] }) := by
        unfold Tx.next
        rw [sees, stage]
        show (match seen.enrolments.find? id with | none => _ | some _ => _) = _
        rw [found]
        rfl
      have seesAgain : Tx.view { tx with
          stage := .upsert (standingOf seen tx.plan.env.committedAt enrolment) rest
          read := tx.read ++ [id] } s = .ok seen := by
        rw [← sees]
        unfold Tx.view
        rw [stage]
        rfl
      let written : Tx := { tx with
        stage := .standings rest
        read := tx.read ++ [id]
        standings := tx.standings ++ [standingOf seen tx.plan.env.committedAt enrolment] }
      have later : written.view s = .ok { seen with
          academicStandings := seen.academicStandings.upsert
            (standingOf seen tx.plan.env.committedAt enrolment) } := by
        unfold Tx.view at sees ⊢
        rw [stage] at sees
        obtain ⟨between, created, same⟩ := bind_eq_ok.mp sees
        rw [pure_eq_ok] at same
        subst same
        refine bind_eq_ok.mpr ⟨between, created, ?_⟩
        rw [List.foldl_append]
        rfl
      refine reaches_of_moved reads (reaches_of_moved (?_ : Tx.next _ s = .ok (.moved written))
        (ih rfl later))
      unfold Tx.next
      rw [seesAgain]
      rfl

/-- The credentials of several records, one after the other, and then the standings. -/
theorem reaches_credentials {s created : Store} {rest : List Credential} {tx : Tx}
    (stage : tx.stage = .credentials rest) (none : tx.standings = [])
    (creates : createCredentials (withPublished tx.plan
      { s with
        resultBatches := s.resultBatches.update tx.plan.batch.uuid
          (publishedBatch tx.plan.env.committedAt) fun _ => rfl })
      (tx.credentials ++ rest) = .ok created) :
    Reaches s tx (recomputeAll tx.plan.env.committedAt created tx.enrolmentIds) := by
  induction rest generalizing tx with
  | nil =>
    have sees : tx.view s = .ok created := by
      unfold Tx.view
      rw [stage, none]
      rw [List.append_nil] at creates
      refine bind_eq_ok.mpr ⟨created, creates, rfl⟩
    have moves : tx.next s = .ok (.moved { tx with stage := .standings tx.enrolmentIds }) := by
      unfold Tx.next
      rw [sees, stage]
      rfl
    refine reaches_of_moved moves (reaches_standings rfl ?_)
    rw [← sees]
    unfold Tx.view
    rw [stage]
    rfl
  | cons credential rest ih =>
    have split := creates
    unfold createCredentials at split
    rw [List.foldlM_append] at split
    obtain ⟨before, done, others⟩ := bind_eq_ok.mp split
    rw [List.foldlM_cons] at others
    obtain ⟨after, next, -⟩ := bind_eq_ok.mp others
    have sees : tx.view s = .ok before := by
      unfold Tx.view
      rw [stage, none]
      exact bind_eq_ok.mpr ⟨before, done, rfl⟩
    have moves : tx.next s = .ok (.moved { tx with
        stage := .credentials rest
        credentials := tx.credentials ++ [credential] }) := by
      unfold Tx.next
      rw [sees, stage]
      exact bind_eq_ok.mpr ⟨before, rfl, bind_eq_ok.mpr ⟨after, next, rfl⟩⟩
    refine reaches_of_moved moves (ih rfl none ?_)
    rw [List.append_assoc]
    exact creates

/-- **A transaction that nothing comes between** is the publication. -/
theorem alone_publishes {plan : PublishPlan} {s t : Store} {batch : ResultBatch}
    (committed : publishCommit plan s = .ok (batch, t)) : Reaches s (Tx.begin plan) t := by
  unfold publishCommit at committed
  obtain ⟨⟨updated, batches⟩, written, rest⟩ := bind_eq_ok.mp committed
  obtain ⟨created, creates, same⟩ := bind_eq_ok.mp rest
  rw [pure_eq_ok] at same
  obtain ⟨-, rfl⟩ := Prod.mk.inj same
  obtain ⟨old, found, -, rfl⟩ := updateRow_eq_ok.mp written
  have first : (Tx.begin plan).next s = .ok (.moved { Tx.begin plan with stage := .records }) :=
    bind_eq_ok.mpr ⟨s, rfl, bind_eq_ok.mpr ⟨old, orThrow_eq_ok.mpr found, rfl⟩⟩
  have second : Tx.next { Tx.begin plan with stage := .records } s = .ok (.moved
      { Tx.begin plan with
        stage := .credentials (plan.signedCredentials.zipIdx.map (recordCredential plan)) }) := rfl
  exact reaches_of_moved first (reaches_of_moved second (reaches_credentials rfl rfl creates))

/-! ### The invariant -/

/-- **What is known of a transaction in flight**: its enrolments are those of the records of its
batch, and what it computed for those it read is their standing with the batch published, unless it
was overtaken. -/
structure TxInv (s : Store) (tx : Tx) : Prop where
  listed : ∀ id, id ∈ tx.enrolmentIds ↔ ∃ r ∈ s.academicRecords.rows,
    r.enrolmentId = id ∧ r.resultBatchId = some tx.plan.batch.uuid
  known : ∀ id ∈ tx.enrolmentIds, ∃ enrolment, s.enrolments.find? id = some enrolment
  split : tx.enrolmentIds = tx.read ++ tx.stage.rest tx.enrolmentIds
  written : ∀ id ∈ tx.read, ∃ standing ∈ tx.standings ++ tx.stage.computed,
    standing.enrolmentId = id
  owned : ∀ standing ∈ tx.standings ++ tx.stage.computed, standing.enrolmentId ∈ tx.read
  values : tx.overtaken = false → ∀ standing ∈ tx.standings ++ tx.stage.computed,
    ∃ enrolment, s.enrolments.find? standing.enrolmentId = some enrolment ∧
      ∀ now, timeless standing =
        timeless (standingOf (withPublished tx.plan s) now enrolment)

/-- The invariant of the database. -/
structure DbInv (p : Db) : Prop where
  settled : Settled p.store
  inFlight : ∀ tx ∈ p.txs, TxInv p.store tx

theorem TxInv.read_subset {s : Store} {tx : Tx} (inv : TxInv s tx) {id : Uuid}
    (inside : id ∈ tx.read) : id ∈ tx.enrolmentIds := by
  rw [inv.split]
  exact List.mem_append_left _ inside

/-- A transaction that begins. -/
theorem txInv_begin {rt : Runtime} {env : PublishEnv} {auth : AuthTokenPayload} {batchId : Uuid}
    {s : Store} {plan : PublishPlan} (checked : publishCheck rt env auth batchId s = .ok plan) :
    TxInv s (Tx.begin plan) := by
  obtain ⟨read, owners⟩ := publishCheck_records checked
  have listed : ∀ id, id ∈ (Tx.begin plan).enrolmentIds ↔ ∃ r ∈ s.academicRecords.rows,
      r.enrolmentId = id ∧ r.resultBatchId = some plan.batch.uuid := by
    intro id
    have through : plan.records.map (fun read => read.1.enrolmentId) =
        (academicRecords s batchId).map (·.enrolmentId) := by
      rw [← read, List.map_map]
      rfl
    show id ∈ (plan.records.map fun read => read.1.enrolmentId).eraseDups ↔ _
    rw [List.mem_eraseDups, through, List.mem_map, (publishCheck_spec checked).2.1]
    unfold academicRecords
    simp only [List.mem_filter, beq_iff_eq]
    constructor
    · rintro ⟨r, ⟨inside, refers⟩, owner⟩
      exact ⟨r, inside, owner, refers⟩
    · rintro ⟨r, inside, owner, refers⟩
      exact ⟨r, ⟨inside, refers⟩, owner⟩
  refine ⟨listed, fun id inside => ?_, rfl, fun id inside => absurd inside (by simp [Tx.begin]),
    fun standing inside => absurd inside (by simp [Tx.begin, Stage.computed]),
    fun _ standing inside => absurd inside (by simp [Tx.begin, Stage.computed])⟩
  obtain ⟨r, inside, owner, refers⟩ := (listed id).mp inside
  rw [(publishCheck_spec checked).2.1] at refers
  obtain ⟨enrolment, found⟩ := owners r
    (List.mem_filter.mpr ⟨inside, by rw [refers]; exact beq_self_eq_true _⟩)
  rw [owner] at found
  exact ⟨enrolment, found⟩

/-- **One statement of a transaction** keeps its invariant. -/
theorem txInv_next {s : Store} {tx tx' : Tx} (inv : TxInv s tx)
    (moves : tx.next s = .ok (.moved tx')) : TxInv s tx' := by
  unfold Tx.next at moves
  obtain ⟨seen, sees, rest⟩ := bind_eq_ok.mp moves
  obtain ⟨enrolments, rules, records, -⟩ := view_spec sees
  obtain ⟨plan, stage, credentials, standings, read, overtaken⟩ := tx
  cases stage with
  | batch =>
    obtain ⟨_, -, same⟩ := bind_eq_ok.mp rest
    rw [pure_eq_ok] at same
    obtain rfl := Effect.moved.inj same
    exact ⟨inv.listed, inv.known, inv.split, inv.written, inv.owned, inv.values⟩
  | records =>
    obtain rfl := Effect.moved.inj (pure_eq_ok.mp rest)
    exact ⟨inv.listed, inv.known, inv.split, inv.written, inv.owned, inv.values⟩
  | credentials remaining =>
    cases remaining with
    | nil =>
      obtain rfl := Effect.moved.inj (pure_eq_ok.mp rest)
      exact ⟨inv.listed, inv.known, inv.split, inv.written, inv.owned, inv.values⟩
    | cons credential remaining =>
      obtain ⟨_, -, same⟩ := bind_eq_ok.mp rest
      obtain rfl := Effect.moved.inj (pure_eq_ok.mp same)
      exact ⟨inv.listed, inv.known, inv.split, inv.written, inv.owned, inv.values⟩
  | standings remaining =>
    cases remaining with
    | nil => exact absurd (pure_eq_ok.mp rest) (by simp)
    | cons id remaining =>
      have inside : id ∈ (Tx.mk plan (.standings (id :: remaining)) credentials standings read
          overtaken).enrolmentIds := by
        rw [inv.split]
        exact List.mem_append_right _ (List.mem_cons_self ..)
      obtain ⟨enrolment, found⟩ := inv.known id inside
      rw [← enrolments] at found
      simp only [found] at rest
      obtain rfl := Effect.moved.inj (pure_eq_ok.mp rest)
      have owner : enrolment.uuid = id := Table.find?_key found
      have none : standings ++ Stage.computed (.standings (id :: remaining)) = standings :=
        List.append_nil _
      have written := inv.written
      have owned := inv.owned
      have values := inv.values
      rw [none] at written owned values
      refine ⟨inv.listed, inv.known, inv.split.trans (List.append_cons ..), ?_, ?_, ?_⟩
      · intro other member
        rcases List.mem_append.mp member with old | new
        · obtain ⟨standing, there, is⟩ := written other old
          exact ⟨standing, List.mem_append_left _ there, is⟩
        · refine ⟨_, List.mem_append_right _ (List.mem_singleton_self _), ?_⟩
          exact owner.trans (List.mem_singleton.mp new).symm
      · intro standing member
        rcases List.mem_append.mp member with old | new
        · exact List.mem_append_left _ (owned standing old)
        · rw [List.mem_singleton.mp new]
          exact List.mem_append_right _ (List.mem_singleton.mpr owner)
      · intro timely standing member
        rcases List.mem_append.mp member with old | new
        · exact values timely standing old
        · rw [List.mem_singleton.mp new]
          refine ⟨enrolment, ?_, fun now => ?_⟩
          · rw [← enrolments]
            exact (congrArg _ owner).trans found
          · have sameRules : (withPublished plan s).gradingRuleSets = seen.gradingRuleSets :=
              rules.symm
            have same : countedRecords (withPublished plan s) enrolment.uuid =
                countedRecords seen enrolment.uuid := by
              unfold countedRecords
              rw [records]
              rfl
            show _ = timeless (standingOf (withPublished plan s) now enrolment)
            rw [standingOf_congr sameRules same now]
            exact timeless_standingOf seen _ now enrolment
  | upsert standing remaining =>
    obtain rfl := Effect.moved.inj (pure_eq_ok.mp rest)
    have same : (standings ++ [standing]) ++ Stage.computed (.standings remaining) =
        standings ++ Stage.computed (.upsert standing remaining) := List.append_nil _
    refine ⟨inv.listed, inv.known, inv.split, ?_, ?_, ?_⟩
    · exact fun id member => by rw [same]; exact inv.written id member
    · exact fun other member => inv.owned other (by rw [← same]; exact member)
    · exact fun timely other member => inv.values timely other (by rw [← same]; exact member)

/-! ### Commits -/

/-- What a transaction commits: what it sees, when all its statements have run. -/
theorem next_committed {s t : Store} {tx : Tx} (commits : tx.next s = .ok (.committed t)) :
    tx.stage = .standings [] ∧ tx.view s = .ok t := by
  unfold Tx.next at commits
  obtain ⟨seen, sees, rest⟩ := bind_eq_ok.mp commits
  cases is : tx.stage with
  | batch =>
    rw [is] at rest
    obtain ⟨_, -, same⟩ := bind_eq_ok.mp rest
    exact absurd (pure_eq_ok.mp same) (by simp)
  | records =>
    rw [is] at rest
    exact absurd (pure_eq_ok.mp rest) (by simp)
  | credentials remaining =>
    rw [is] at rest
    cases remaining with
    | nil => exact absurd (pure_eq_ok.mp rest) (by simp)
    | cons credential remaining =>
      obtain ⟨_, -, same⟩ := bind_eq_ok.mp rest
      exact absurd (pure_eq_ok.mp same) (by simp)
  | standings remaining =>
    rw [is] at rest
    cases remaining with
    | nil =>
      obtain rfl := Effect.committed.inj (pure_eq_ok.mp rest)
      exact ⟨rfl, sees⟩
    | cons id remaining =>
      dsimp only at rest
      split at rest
      · exact absurd (pure_eq_ok.mp rest) (by simp)
      · exact absurd (pure_eq_ok.mp rest) (by simp)
  | upsert standing remaining =>
    rw [is] at rest
    exact absurd (pure_eq_ok.mp rest) (by simp)

/-- The rows a commit leaves. -/
theorem rows_of_committed {s t : Store} {tx : Tx} (commits : tx.next s = .ok (.committed t)) :
    t.enrolments = s.enrolments ∧ t.gradingRuleSets = s.gradingRuleSets ∧
      t.academicRecords = (withPublished tx.plan s).academicRecords ∧
      t.academicStandings = tx.standings.foldl Table.upsert s.academicStandings := by
  obtain ⟨stage, sees⟩ := next_committed commits
  have seen := view_spec sees
  rw [stage] at seen
  exact seen

/-- The records of an enrolment without any in the batch stay as they were. -/
theorem filter_owned_withPublished {plan : PublishPlan} {s : Store} {id : Uuid}
    (foreign : ∀ r ∈ s.academicRecords.rows, r.enrolmentId = id →
      r.resultBatchId ≠ some plan.batch.uuid) :
    (withPublished plan s).academicRecords.rows.filter (fun r => r.enrolmentId == id) =
      s.academicRecords.rows.filter fun r => r.enrolmentId == id :=
  filter_owned_map (f := publishing plan.batch.uuid plan.env.committedAt)
    (fun r inside owner => if_neg fun refers => foreign r inside owner (by simpa using refers))
    (enrolmentId_publishing _ _)

/-- **A transaction that was not overtaken** leaves settled standings when it commits. -/
theorem settled_commit {s t : Store} {tx : Tx} (inv : TxInv s tx) (settled : Settled s)
    (commits : tx.next s = .ok (.committed t)) (timely : tx.overtaken = false) : Settled t := by
  obtain ⟨stage, -⟩ := next_committed commits
  obtain ⟨enrolments, rules, records, standings⟩ := rows_of_committed commits
  have done : tx.enrolmentIds = tx.read := by
    have split := inv.split
    rw [stage] at split
    exact split.trans (List.append_nil _)
  have written := inv.written
  have owned := inv.owned
  have values := inv.values timely
  rw [stage] at written owned values
  simp only [Stage.computed, List.append_nil] at written owned values
  intro r inside shown
  rw [records] at inside
  obtain ⟨old, row, same⟩ := List.mem_map.mp inside
  have owner : r.enrolmentId = old.enrolmentId := by
    rw [← same]
    exact enrolmentId_publishing tx.plan.batch.uuid tx.plan.env.committedAt old
  rw [owner]
  by_cases member : old.enrolmentId ∈ tx.enrolmentIds
  · -- the standing was written by this transaction
    rw [done] at member
    obtain ⟨standing, wrote, is, found⟩ :=
      @Table.find?_upserts _ _ _ _ _ s.academicStandings _ (written _ member)
    obtain ⟨enrolment, known, value⟩ := values standing wrote
    rw [is] at known
    have sameRules : t.gradingRuleSets = (withPublished tx.plan s).gradingRuleSets := rules
    refine ⟨enrolment, standing, by rw [enrolments]; exact known, by rw [standings]; exact found,
      fun now => (value now).trans (congrArg timeless (standingOf_congr sameRules ?_ now).symm)⟩
    unfold countedRecords
    rw [records]
  · -- the enrolment has no record in the batch
    have foreign : ∀ r ∈ s.academicRecords.rows, r.enrolmentId = old.enrolmentId →
        r.resultBatchId ≠ some tx.plan.batch.uuid :=
      fun r' inside' owner' refers => member ((inv.listed _).mpr ⟨r', inside', owner', refers⟩)
    have before : old.status = .published := by
      rw [← same, if_neg (by simpa using foreign old row rfl)] at shown
      exact shown
    refine (settled old row before).congr enrolments rules ?_ (countedRecords_of_owned ?_)
    · rw [standings]
      refine Table.find?_upserts_of_not ?_
      rintro ⟨standing, wrote, is⟩
      refine member ?_
      rw [← is]
      exact inv.read_subset (owned standing wrote)
    · rw [records]
      exact filter_owned_withPublished foreign

/-- **Another transaction's commit** keeps the invariant of one in flight: what it read is as it
was, or it is marked as overtaken. -/
theorem txInv_after {s t : Store} {tx other : Tx} (inv : TxInv s tx) (others : TxInv s other)
    (commits : other.next s = .ok (.committed t)) : TxInv t (tx.after other) := by
  obtain ⟨enrolments, rules, records, -⟩ := rows_of_committed commits
  have rows : t.academicRecords.rows = s.academicRecords.rows.map
      (publishing other.plan.batch.uuid other.plan.env.committedAt) := by rw [records]; rfl
  have batch : ∀ r, (publishing other.plan.batch.uuid other.plan.env.committedAt r).resultBatchId =
      r.resultBatchId := by
    intro r
    unfold publishing
    split <;> rfl
  have listed : ∀ id batchId, (∃ r ∈ t.academicRecords.rows,
      r.enrolmentId = id ∧ r.resultBatchId = some batchId) ↔
        ∃ r ∈ s.academicRecords.rows, r.enrolmentId = id ∧ r.resultBatchId = some batchId := by
    intro id batchId
    rw [rows]
    constructor
    · rintro ⟨r, inside, owner, refers⟩
      obtain ⟨old, row, rfl⟩ := List.mem_map.mp inside
      rw [enrolmentId_publishing] at owner
      rw [batch] at refers
      exact ⟨old, row, owner, refers⟩
    · rintro ⟨r, inside, owner, refers⟩
      exact ⟨_, List.mem_map_of_mem inside, (enrolmentId_publishing _ _ r).trans owner,
        (batch r).trans refers⟩
  refine ⟨fun id => (inv.listed id).trans (listed id _).symm, fun id inside => ?_, inv.split,
    inv.written, inv.owned, fun timely standing member => ?_⟩
  · rw [enrolments]
    exact inv.known id inside
  · obtain ⟨before, none⟩ := Bool.or_eq_false_iff.mp timely
    obtain ⟨enrolment, found, value⟩ := inv.values before standing member
    refine ⟨enrolment, by rw [enrolments]; exact found, fun now => (value now).trans ?_⟩
    have apart : standing.enrolmentId ∉ other.enrolmentIds := by
      simpa using List.any_eq_false.mp none _ (inv.owned standing member)
    have owner : enrolment.uuid = standing.enrolmentId := Table.find?_key found
    have sameRules : (withPublished tx.plan t).gradingRuleSets =
      (withPublished tx.plan s).gradingRuleSets := rules
    refine congrArg timeless (standingOf_congr sameRules (countedRecords_of_owned ?_) now).symm
    have through : ∀ u : Store, (withPublished tx.plan u).academicRecords.rows.filter
        (fun r => r.enrolmentId == enrolment.uuid) =
          (u.academicRecords.rows.filter fun r => r.enrolmentId == enrolment.uuid).map
            (publishing tx.plan.batch.uuid tx.plan.env.committedAt) := by
      intro u
      show (u.academicRecords.rows.map
        (publishing tx.plan.batch.uuid tx.plan.env.committedAt)).filter _ = _
      rw [List.filter_map]
      refine congrArg _ (List.filter_congr fun r _ => ?_)
      rw [Function.comp_apply, enrolmentId_publishing]
    rw [through t, through s, records]
    refine congrArg _ (filter_owned_withPublished fun r inside owner' refers => apart ?_)
    exact (others.listed _).mpr ⟨r, inside, owner'.trans owner, refers⟩

/-! ### One step, and a run -/

theorem dbInv_advance {p : Db} {k : ℕ} (inv : DbInv p)
    (timely : NotOvertaken p (.advance k)) : DbInv (advance p k) := by
  unfold advance
  cases here : p.txs[k]? with
  | none => exact inv
  | some tx =>
    have member : tx ∈ p.txs := List.mem_of_getElem? here
    have erased : ∀ other ∈ p.txs.eraseIdx k, TxInv p.store other :=
      fun other inside => inv.inFlight other (List.mem_of_mem_eraseIdx inside)
    dsimp only
    split
    · exact inv
    · cases moves : tx.next p.store with
      | error e => exact ⟨inv.settled, erased⟩
      | ok effect =>
        cases effect with
        | moved tx' =>
          refine ⟨inv.settled, fun other inside => ?_⟩
          rcases List.mem_or_eq_of_mem_set inside with old | rfl
          · exact inv.inFlight other old
          · exact txInv_next (inv.inFlight tx member) moves
        | committed s =>
          have commits : tx.commits = true := by
            unfold Tx.commits
            rw [(next_committed moves).1]
          refine ⟨settled_commit (inv.inFlight tx member) inv.settled moves
            (timely k tx rfl here commits), fun other inside => ?_⟩
          obtain ⟨before, there, rfl⟩ := List.mem_map.mp inside
          exact txInv_after (erased before there) (inv.inFlight tx member) moves

theorem dbInv_step {rt : Runtime} {p : Db} {e : DbEvent} (inv : DbInv p)
    (timely : NotOvertaken p e) : DbInv (dbStep rt p e) := by
  cases e with
  | advance k => exact dbInv_advance inv timely
  | abort k =>
    exact ⟨inv.settled, fun tx inside => inv.inFlight tx (List.mem_of_mem_eraseIdx inside)⟩
  | call env auth batchId =>
    unfold dbStep
    cases checked : publishCheck rt env auth batchId p.store with
    | error e =>
      simp only [checked]
      exact inv
    | ok plan =>
      simp only [checked]
      refine ⟨inv.settled, fun tx inside => ?_⟩
      rcases List.mem_append.mp inside with old | new
      · exact inv.inFlight tx old
      · rw [List.mem_singleton.mp new]
        exact txInv_begin checked

/-- **The standings are settled in every state of a run in which no transaction commits after it was
overtaken**, whether or not transactions are open. -/
theorem settled_of_not_overtaken (rt : Runtime) (s : Store) (events : List DbEvent)
    (settled : Settled s) (timely : Along (dbStep rt) NotOvertaken ⟨s, []⟩ events) :
    Throughout (dbStep rt) (fun p => Settled p.store) ⟨s, []⟩ events := by
  have keeps : ∀ p e, DbInv p → NotOvertaken p e → DbInv (dbStep rt p e) :=
    fun _ _ => dbInv_step
  have start : DbInv ⟨s, []⟩ := ⟨settled, by simp⟩
  rw [throughout_iff_along]
  exact ⟨settled, along_of_keeps keeps (fun p e inv here => (keeps p e inv here).settled) start
    timely⟩

/-! ### Two batches of one student -/

open PublicationOrder

instance (p : Db) (e : DbEvent) : Decidable (NotOvertaken p e) :=
  match e with
  | .advance k =>
    match here : p.txs[k]? with
    | some tx =>
      decidable_of_iff (tx.commits = true → tx.overtaken = false) (by
        refine ⟨fun timely k' tx' same there commits => ?_, fun all => all k tx rfl here⟩
        obtain rfl := DbEvent.advance.inj same
        obtain rfl := Option.some.inj (here.symm.trans there)
        exact timely commits)
    | none => isTrue fun k' tx' same there => by
        obtain rfl := DbEvent.advance.inj same
        exact absurd (here.symm.trans there) (by simp)
  | .call _ _ _ | .abort _ => isTrue fun _ _ same => by injection same

/-- The call of a publication. -/
def callOf (p : PublicationOrder.Publication) : DbEvent :=
  .call p.env p.auth p.batchId

/-- Some statements of a transaction. -/
def statements (count k : ℕ) : List DbEvent :=
  List.replicate count (.advance k)

def student : Uuid := "30000000-0000-4000-8000-000000000001"

theorem settled_twoBatches : Settled twoBatches := by
  intro r inside shown
  have drafts : ∀ r ∈ twoBatches.academicRecords.rows, r.status = .draft := by decide
  rw [drafts r inside] at shown
  exact absurd shown (by decide)

/-- One batch published after the other. -/
theorem settled_of_not_overtaken_serial :
    Throughout (dbStep .plain) (fun p => Settled p.store) ⟨twoBatches, []⟩
      (callOf publishFirst :: statements 7 0 ++ callOf publishSecond :: statements 7 0) :=
  settled_of_not_overtaken .plain twoBatches _ settled_twoBatches (by decide)

/-- Both transactions have read the records of the student before either commits. -/
def lostUpdate : List DbEvent :=
  [callOf publishFirst, callOf publishSecond] ++ statements 5 0 ++ statements 5 1 ++
    statements 2 0 ++ statements 2 0

/-- **The standings are not settled in every run**, even when no transaction is open: the second
commit overwrites the standing with one that misses the first batch. -/
theorem settled_fails :
    ¬ ∀ (rt : Runtime) (s : Store) (events : List DbEvent), Settled s →
      Throughout (dbStep rt) (fun p => p.txs = [] → Settled p.store) ⟨s, []⟩ events := by
  intro all
  have settled := throughout_iff_prefixes.mp
    (all .plain twoBatches lostUpdate settled_twoBatches) _ [] (List.append_nil _).symm
  have closed : (runs (dbStep .plain) ⟨twoBatches, []⟩ lostUpdate).txs.isEmpty = true := by
    decide
  have published : ∃ r ∈ (runs (dbStep .plain) ⟨twoBatches, []⟩
      lostUpdate).store.academicRecords.rows, r.status = .published ∧ r.enrolmentId = student := by
    decide
  have three : ((runs (dbStep .plain) ⟨twoBatches, []⟩
      lostUpdate).store.academicStandings.find? student).map (·.attemptedCreditUnits) = some 3 := by
    decide +kernel
  have six : ((runs (dbStep .plain) ⟨twoBatches, []⟩
      lostUpdate).store.enrolments.find? student).map (fun enrolment =>
        (standingOf (runs (dbStep .plain) ⟨twoBatches, []⟩ lostUpdate).store 0
          enrolment).attemptedCreditUnits) = some 6 := by
    decide +kernel
  obtain ⟨r, inside, shown, owner⟩ := published
  obtain ⟨enrolment, standing, found, stored, is⟩ :=
    settled (List.isEmpty_iff.mp closed) r inside shown
  rw [owner] at found stored
  rw [stored, Option.map_some] at three
  rw [found, Option.map_some] at six
  have same := congrArg (·.attemptedCreditUnits) (is 0)
  have both := (Option.some.inj three).symm.trans (same.trans (Option.some.inj six))
  exact absurd both (by decide)

end AcadID.Isolation
