/-
**Calls of `execute` in any order: the handler runs at most once.**

Any number of calls of `IdempotencyService.execute` in flight over one table of records, each of
them advanced one call to the database at a time. A call to the database is done, fails, or is done
while its answer is lost; a handler ends when and how it will.

* `advance` — the next step of one call; `step` — one event of the whole.
* `Once` — what is promised for a scope and a key: at most one handler is started, every call that
  returns returns the response of that handler, and no handler runs for another request.
* `executions_once` — **in every state of every run the promise holds** for a scope and a key that
  had no record when the run began.
* `execute_refines` — `execute`, run alone, is a run of these steps.
-/

import AcadID.Lib.Run
import AcadID.Platform.Idempotency

namespace AcadID.Idempotency

open Lib

variable {ρ : Type}

/-! ### One call -/

/-- How far a call has come. -/
inductive Stage (ρ : Type) where
  | looking
  | creating
  | running
  | saving (response : ρ)
  | failing (error : ServiceError)
  | returned (response : ρ)
  | threw (error : ServiceError)

/-- A call: the record it looks for and may make, how often it has started its handler, and the
response that the handler has returned. -/
structure Execution (ρ : Type) where
  record : IdempotencyRecord
  starts : ℕ
  produced : Option ρ
  stage : Stage ρ

/-- What becomes of a call to the database, and of the answer to it. -/
inductive Delivery where
  | done
  | failed
  | lost
  deriving DecidableEq, Repr

/-- A write as its caller sees it, and the records it leaves. -/
def deliver (delivery : Delivery) (write : Records → Except ServiceError Records)
    (records : Records) : Except ServiceError Unit × Records :=
  match delivery, write records with
  | .failed, _ => (.error .database, records)
  | .lost, .ok records' => (.error .database, records')
  | .lost, .error _ => (.error .database, records)
  | .done, .ok records' => (.ok (), records')
  | .done, .error e => (.error e, records)

/-- What a call does once it has looked its record up. -/
def afterLookup (stored : Stored ρ) (records : Records) (c : Execution ρ) : Stage ρ :=
  match findKey c.record.scope c.record.keyHash records with
  | none => .creating
  | some existing =>
    match replay c.record.requestHash existing with
    | .ok response => .returned (stored.ofStored response)
    | .error e => .threw e

/-- The next call to the database of a call, if it is about to make one. -/
def advance (stored : Stored ρ) (delivery : Delivery) (records : Records) (c : Execution ρ) :
    Records × Execution ρ :=
  match c.stage with
  | .looking =>
    match delivery with
    | .done => (records, { c with stage := afterLookup stored records c })
    | _ => (records, { c with stage := .threw .database })
  | .creating =>
    match deliver delivery (insertRecord c.record) records with
    | (.ok (), records) => (records, { c with starts := c.starts + 1, stage := .running })
    | (.error e, records) => (records, { c with stage := .threw (recordingError e) })
  | .saving response =>
    match deliver delivery (saveSucceeded c.record.uuid (stored.toJson response)
        (stored.responseJobId response)) records with
    | (.ok (), records) => (records, { c with stage := .returned response })
    | (.error e, records) => (records, { c with stage := .failing e })
  | .failing error =>
    match deliver delivery (saveFailed c.record.uuid error.message) records with
    | (.ok (), records) => (records, { c with stage := .threw error })
    | (.error e, records) => (records, { c with stage := .threw e })
  | .running | .returned _ | .threw _ => (records, c)

/-- The end of a handler that runs. -/
def finish (result : Except ServiceError ρ) (c : Execution ρ) : Execution ρ :=
  match c.stage, result with
  | .running, .ok response => { c with produced := some response, stage := .saving response }
  | .running, .error e => { c with stage := .failing e }
  | _, _ => c

/-! ### Any number of calls -/

/-- The records and the calls in flight over them. -/
structure Executions (ρ : Type) where
  records : Records
  calls : List (Execution ρ)

inductive ExecutionEvent (ρ : Type) where
  | call (env : IdempotencyEnv) (input : IdempotencyInput)
  | advance (k : ℕ) (delivery : Delivery)
  | finish (k : ℕ) (result : Except ServiceError ρ)

/-- A call that has just begun. -/
def begun (rt : Runtime) (env : IdempotencyEnv) (input : IdempotencyInput) (key : String) :
    Execution ρ where
  record := newRecord env input (rt.sha256 key) (requestHash rt input.request)
  starts := 0
  produced := none
  stage := .looking

def step (rt : Runtime) (stored : Stored ρ) (x : Executions ρ) (e : ExecutionEvent ρ) :
    Executions ρ :=
  match e with
  | .call env input =>
    match normaliseKey input.key with
    | .ok key => { x with calls := x.calls ++ [begun rt env input key] }
    | .error _ => x
  | .advance k delivery =>
    match x.calls[k]? with
    | some c =>
      { records := (advance stored delivery x.records c).1
        calls := x.calls.set k (advance stored delivery x.records c).2 }
    | none => x
  | .finish k result =>
    match x.calls[k]? with
    | some c => { x with calls := x.calls.set k (finish result c) }
    | none => x

/-! ### The promise -/

section Promise

variable (scope keyHash : String)

/-- The call is for this scope and key. -/
def Execution.has (c : Execution ρ) : Bool :=
  c.record.scope == scope && c.record.keyHash == keyHash

/-- How many handlers the calls have started for a scope and a key. -/
def handlersStarted (calls : List (Execution ρ)) : ℕ :=
  (calls.map fun c => if c.has scope keyHash then c.starts else 0).sum

/-- A handler started for this scope and key has returned this response. -/
def Produced (calls : List (Execution ρ)) (response : ρ) : Prop :=
  ∃ c ∈ calls, c.has scope keyHash = true ∧ 0 < c.starts ∧ c.produced = some response

/-- **What is promised** for a scope and a key. -/
structure Once (stored : Stored ρ) (x : Executions ρ) : Prop where
  once : handlersStarted scope keyHash x.calls ≤ 1
  response : ∀ c ∈ x.calls, c.has scope keyHash = true → ∀ response, c.stage = .returned response →
    ∃ original, Produced scope keyHash x.calls original ∧
      (response = original ∨ response = stored.ofStored (stored.toJson original))
  fingerprint : ∀ record, findKey scope keyHash x.records = some record →
    ∀ c ∈ x.calls, c.has scope keyHash = true →
      c.record.requestHash ≠ record.requestHash → c.starts = 0

end Promise

/-! ### The invariant -/

/-- What the stage of a call says of its handler. -/
def Execution.sound (c : Execution ρ) : Prop :=
  match c.stage with
  | .looking | .creating => c.starts = 0 ∧ c.produced = none
  | .running => 0 < c.starts ∧ c.produced = none
  | .saving response => 0 < c.starts ∧ c.produced = some response
  | .failing _ => 0 < c.starts
  | .returned _ | .threw _ => True

/-- The record of a call is there. -/
def Recorded (records : Records) (c : Execution ρ) : Prop :=
  ∃ r ∈ records.rows, r.uuid = c.record.uuid ∧ r.scope = c.record.scope ∧
    r.keyHash = c.record.keyHash ∧ r.requestHash = c.record.requestHash

section Invariant

variable (stored : Stored ρ) (scope keyHash : String)

/-- A response is that of the handler, or its stored copy. -/
def Answers (calls : List (Execution ρ)) (response : ρ) : Prop :=
  ∃ original, Produced scope keyHash calls original ∧
    (response = original ∨ response = stored.ofStored (stored.toJson original))

/-- **The invariant**: who has started a handler has a record, and every stored response comes from
a handler. -/
structure Inv (x : Executions ρ) : Prop where
  differ : KeysDiffer x.records
  once : handlersStarted scope keyHash x.calls ≤ 1
  sound : ∀ c ∈ x.calls, c.sound
  fresh : ∀ c ∈ x.calls, c.record.response = none
  recorded : ∀ c ∈ x.calls, 0 < c.starts → Recorded x.records c
  responses : ∀ r ∈ x.records.rows, r.scope = scope → r.keyHash = keyHash →
    ∀ response, r.response = some response →
      ∃ original, Produced scope keyHash x.calls original ∧ response = stored.toJson original
  returned : ∀ c ∈ x.calls, c.has scope keyHash = true → ∀ response, c.stage = .returned response →
    Answers stored scope keyHash x.calls response

end Invariant

variable {stored : Stored ρ} {scope keyHash : String}

theorem once_of_inv {x : Executions ρ} (inv : Inv stored scope keyHash x) :
    Once scope keyHash stored x := by
  refine ⟨inv.once, inv.returned, fun record found c inside has other => ?_⟩
  by_contra started
  obtain ⟨r, here, -, hasScope, hasKey, hasRequest⟩ :=
    inv.recorded c inside (Nat.pos_of_ne_zero started)
  obtain ⟨isScope, isKey⟩ := Bool.and_eq_true_iff.mp has
  have foundRow := (findKey_eq_some inv.differ).mpr
    ⟨here, hasScope.trans (beq_iff_eq.mp isScope), hasKey.trans (beq_iff_eq.mp isKey)⟩
  rw [found] at foundRow
  exact other (by rw [← hasRequest, ← Option.some.inj foundRow])

/-! ### Calls that change -/

/-- A handler's response stays when a call changes that keeps its own. -/
theorem produced_set {calls : List (Execution ρ)} {k : ℕ} {c c' : Execution ρ}
    (found : calls[k]? = some c) (record : c'.record = c.record) (grows : c.starts ≤ c'.starts)
    (kept : ∀ response, c.produced = some response → c'.produced = some response) {response : ρ}
    (produced : Produced scope keyHash calls response) :
    Produced scope keyHash (calls.set k c') response := by
  obtain ⟨other, inside, has, started, made⟩ := produced
  obtain ⟨i, at_⟩ := List.mem_iff_getElem?.mp inside
  by_cases same : k = i
  · subst same
    obtain rfl : c = other := Option.some.inj (found.symm.trans at_)
    refine ⟨c', ?_, ?_, lt_of_lt_of_le started grows, kept response made⟩
    · exact List.mem_iff_getElem?.mpr
        ⟨k, List.getElem?_set_self (List.getElem?_eq_some_iff.mp found).1⟩
    · unfold Execution.has at has ⊢
      rw [record]
      exact has
  · refine ⟨other, List.mem_iff_getElem?.mpr ⟨i, ?_⟩, has, started, made⟩
    rw [List.getElem?_set_ne same]
    exact at_

theorem set_self {α : Type} {items : List α} {k : ℕ} {a : α} (found : items[k]? = some a) :
    items.set k a = items := by
  obtain ⟨inside, rfl⟩ := List.getElem?_eq_some_iff.mp found
  exact List.set_getElem_self inside

/-- A total stays when an item is replaced by one that counts as much. -/
theorem sum_map_set {α : Type} (f : α → ℕ) {items : List α} {k : ℕ} {a b : α}
    (found : items[k]? = some a) (same : f b = f a) :
    ((items.set k b).map f).sum = (items.map f).sum := by
  induction items generalizing k with
  | nil => exact absurd found (by simp)
  | cons item items ih =>
    cases k with
    | zero =>
      obtain rfl : item = a := by simpa using found
      rw [List.set_cons_zero, List.map_cons, List.map_cons, List.sum_cons, List.sum_cons, same]
    | succ k =>
      have later : items[k]? = some a := by simpa using found
      rw [List.set_cons_succ, List.map_cons, List.map_cons, List.sum_cons, List.sum_cons, ih later]

/-- Where every item counts nothing, replacing one leaves what the new one counts. -/
theorem sum_map_set_le {α : Type} (f : α → ℕ) {items : List α} (k : ℕ) {b : α}
    (zero : ∀ a ∈ items, f a = 0) : ((items.set k b).map f).sum ≤ f b := by
  induction items generalizing k with
  | nil => simp
  | cons item items ih =>
    have none_ : ∀ a ∈ items, f a = 0 := fun a inside => zero a (List.mem_cons_of_mem _ inside)
    have rest : (items.map f).sum = 0 := by
      refine List.sum_eq_zero fun n inside => ?_
      obtain ⟨a, here, rfl⟩ := List.mem_map.mp inside
      exact none_ a here
    cases k with
    | zero => rw [List.set_cons_zero, List.map_cons, List.sum_cons, rest, Nat.add_zero]
    | succ k =>
      rw [List.set_cons_succ, List.map_cons, List.sum_cons,
        zero item (List.mem_cons_self), Nat.zero_add]
      exact ih k none_

/-- **A call changes**: the invariant needs only what concerns that call. -/
theorem inv_set {x : Executions ρ} (inv : Inv stored scope keyHash x) {k : ℕ}
    {c c' : Execution ρ} (found : x.calls[k]? = some c) (record : c'.record = c.record)
    (grows : c.starts ≤ c'.starts)
    (kept : ∀ response, c.produced = some response → c'.produced = some response)
    (total : handlersStarted scope keyHash (x.calls.set k c') ≤ 1) (sound : c'.sound)
    (recorded : 0 < c'.starts → Recorded x.records c')
    (answers : c'.has scope keyHash = true → ∀ response, c'.stage = .returned response →
      Answers stored scope keyHash x.calls response) :
    Inv stored scope keyHash { x with calls := x.calls.set k c' } := by
  have still : ∀ response, Produced scope keyHash x.calls response →
      Produced scope keyHash (x.calls.set k c') response :=
    fun _ => produced_set found record grows kept
  refine ⟨inv.differ, total, fun other inside => ?_, fun other inside => ?_,
    fun other inside started => ?_, fun r here hasScope hasKey response has => ?_,
    fun other inside has response is => ?_⟩
  · rcases List.mem_or_eq_of_mem_set inside with old | rfl
    · exact inv.sound other old
    · exact sound
  · rcases List.mem_or_eq_of_mem_set inside with old | rfl
    · exact inv.fresh other old
    · rw [record]
      exact inv.fresh c (List.mem_of_getElem? found)
  · rcases List.mem_or_eq_of_mem_set inside with old | rfl
    · exact inv.recorded other old started
    · exact recorded started
  · obtain ⟨original, produced, same⟩ := inv.responses r here hasScope hasKey response has
    exact ⟨original, still original produced, same⟩
  · have before : Answers stored scope keyHash x.calls response := by
      rcases List.mem_or_eq_of_mem_set inside with old | rfl
      · exact inv.returned other old has response is
      · exact answers has response is
    obtain ⟨original, produced, same⟩ := before
    exact ⟨original, still original produced, same⟩

/-- A call moves to another stage. -/
theorem inv_stage {x : Executions ρ} (inv : Inv stored scope keyHash x) {k : ℕ}
    {c : Execution ρ} (found : x.calls[k]? = some c) {stage : Stage ρ}
    (sound : Execution.sound { c with stage := stage })
    (answers : c.has scope keyHash = true → ∀ response, stage = .returned response →
      Answers stored scope keyHash x.calls response) :
    Inv stored scope keyHash { x with calls := x.calls.set k { c with stage := stage } } := by
  refine inv_set inv found rfl (le_refl _) (fun _ same => same) ?_ sound
    (inv.recorded c (List.mem_of_getElem? found)) answers
  exact le_of_eq_of_le (sum_map_set _ found rfl) inv.once

/-! ### Records that change -/

/-- **The records change**: no record is lost, and new responses come from a handler. -/
theorem inv_records {x : Executions ρ} (inv : Inv stored scope keyHash x) {records : Records}
    (differ : KeysDiffer records)
    (kept : ∀ r ∈ x.records.rows, ∃ r' ∈ records.rows, r'.uuid = r.uuid ∧ r'.scope = r.scope ∧
      r'.keyHash = r.keyHash ∧ r'.requestHash = r.requestHash)
    (responses : ∀ r ∈ records.rows, r.scope = scope → r.keyHash = keyHash →
      ∀ response, r.response = some response →
        ∃ original, Produced scope keyHash x.calls original ∧
          response = stored.toJson original) :
    Inv stored scope keyHash { x with records := records } := by
  refine ⟨differ, inv.once, inv.sound, inv.fresh, fun c inside started => ?_, responses,
    inv.returned⟩
  obtain ⟨r, here, uuid, hasScope, hasKey, hasRequest⟩ := inv.recorded c inside started
  obtain ⟨r', here', uuid', scope', key', request'⟩ := kept r here
  exact ⟨r', here', uuid'.trans uuid, scope'.trans hasScope, key'.trans hasKey,
    request'.trans hasRequest⟩

/-- A record is made. -/
theorem inv_insert {x : Executions ρ} (inv : Inv stored scope keyHash x)
    {record : IdempotencyRecord} {records : Records} (empty : record.response = none)
    (inserted : insertRecord record x.records = .ok records) :
    Inv stored scope keyHash { x with records := records } := by
  obtain ⟨-, -, rows⟩ := insertRecord_eq_ok.mp inserted
  refine inv_records inv (keysDiffer_insert inv.differ inserted) (fun r here => ?_) ?_
  · exact ⟨r, by rw [rows]; exact List.mem_append_left _ here, rfl, rfl, rfl, rfl⟩
  · intro r here hasScope hasKey response has
    rw [rows] at here
    rcases List.mem_append.mp here with old | new
    · exact inv.responses r old hasScope hasKey response has
    · rw [List.mem_singleton.mp new, empty] at has
      exact absurd has (by simp)

/-- The record of a call is updated, its response to what the handler has returned or not at
all. -/
theorem inv_update {x : Executions ρ} (inv : Inv stored scope keyHash x) {c : Execution ρ}
    (inside : c ∈ x.calls) (started : 0 < c.starts) {f : IdempotencyRecord → IdempotencyRecord}
    (uuids : ∀ r, (f r).uuid = r.uuid) (scopes : ∀ r, (f r).scope = r.scope)
    (keys : ∀ r, (f r).keyHash = r.keyHash) (requests : ∀ r, (f r).requestHash = r.requestHash)
    (responses : ∀ r response, (f r).response = some response →
      r.response = some response ∨
        ∃ original, c.produced = some original ∧ response = stored.toJson original) :
    Inv stored scope keyHash
      { x with records := x.records.update c.record.uuid f uuids } := by
  refine inv_records inv (keysDiffer_update scopes keys inv.differ) (fun r here => ?_) ?_
  · by_cases is : r.uuid = c.record.uuid
    · exact ⟨f r, Table.mem_update.mpr (.inl ⟨r, here, is, rfl⟩), uuids r, scopes r, keys r,
        requests r⟩
    · exact ⟨r, Table.mem_update.mpr (.inr ⟨here, is⟩), rfl, rfl, rfl, rfl⟩
  · intro r here hasScope hasKey response has
    rcases Table.mem_update.mp here with ⟨old, there, is, rfl⟩ | ⟨there, -⟩
    · rcases responses old response has with before | ⟨original, produced, same⟩
      · exact inv.responses old there ((scopes old).symm.trans hasScope)
          ((keys old).symm.trans hasKey) response before
      · -- The record is that of the call, so the call is for its scope and key.
        obtain ⟨row, rowIn, rowUuid, rowScope, rowKey, -⟩ := inv.recorded c inside started
        obtain rfl : old = row := Table.eq_of_key_eq there rowIn (is.trans rowUuid.symm)
        refine ⟨original, ⟨c, inside, ?_, started, produced⟩, same⟩
        unfold Execution.has
        rw [← rowScope, ← rowKey, ← scopes old, ← keys old, hasScope, hasKey]
        simp
    · exact inv.responses r there hasScope hasKey response has

/-! ### One step -/

/-- **A write as its caller sees it**: seen done, it was done; otherwise it may have been. -/
theorem deliver_cases (delivery : Delivery) (write : Records → Except ServiceError Records)
    (records : Records) :
    (∃ records', write records = .ok records' ∧
      deliver delivery write records = (.ok (), records')) ∨
    ∃ e records', deliver delivery write records = (.error e, records') ∧
      (records' = records ∨ write records = .ok records') := by
  unfold deliver
  cases delivery with
  | done =>
    cases result : write records with
    | ok records' => exact .inl ⟨records', rfl, rfl⟩
    | error e => exact .inr ⟨e, records, rfl, .inl rfl⟩
  | failed =>
    cases result : write records with
    | ok records' => exact .inr ⟨.database, records, rfl, .inl rfl⟩
    | error e => exact .inr ⟨.database, records, rfl, .inl rfl⟩
  | lost =>
    cases result : write records with
    | ok records' => exact .inr ⟨.database, records', rfl, .inr rfl⟩
    | error e => exact .inr ⟨.database, records, rfl, .inl rfl⟩

/-- A call looks its record up. -/
theorem inv_lookup {x : Executions ρ} (inv : Inv stored scope keyHash x) {k : ℕ}
    {c : Execution ρ} (found : x.calls[k]? = some c) (looking : c.stage = .looking) :
    Inv stored scope keyHash
      { x with calls := x.calls.set k { c with stage := afterLookup stored x.records c } } := by
  have idle := inv.sound c (List.mem_of_getElem? found)
  unfold Execution.sound at idle
  rw [looking] at idle
  cases there : findKey c.record.scope c.record.keyHash x.records with
  | none =>
    have next : afterLookup stored x.records c = .creating := by
      simp only [afterLookup, there]
    rw [next]
    exact inv_stage inv found idle fun _ response is => absurd is (by simp)
  | some existing =>
    cases replayed : replay c.record.requestHash existing with
    | error e =>
      have next : afterLookup stored x.records c = .threw e := by
        simp only [afterLookup, there, replayed]
      rw [next]
      exact inv_stage inv found trivial fun _ response is => absurd is (by simp)
    | ok response =>
      have next : afterLookup stored x.records c = .returned (stored.ofStored response) := by
        simp only [afterLookup, there, replayed]
      rw [next]
      refine inv_stage inv found trivial fun has answer is => ?_
      obtain ⟨-, was, -⟩ := replay_eq_ok.mp replayed
      obtain ⟨here, hasScope, hasKey⟩ := findKey_mem there
      obtain ⟨isScope, isKey⟩ := Bool.and_eq_true_iff.mp has
      obtain ⟨original, produced, same⟩ := inv.responses existing here
        (hasScope.trans (beq_iff_eq.mp isScope)) (hasKey.trans (beq_iff_eq.mp isKey)) response was
      exact ⟨original, produced, .inr (by rw [← Stage.returned.inj is, same])⟩

/-- A call makes its record, and starts its handler: no other has been started for its key. -/
theorem inv_create {x : Executions ρ} (inv : Inv stored scope keyHash x) {k : ℕ}
    {c : Execution ρ} (found : x.calls[k]? = some c) (creating : c.stage = .creating)
    {records : Records} (inserted : insertRecord c.record x.records = .ok records) :
    Inv stored scope keyHash
      { records := records
        calls := x.calls.set k { c with starts := c.starts + 1, stage := .running } } := by
  have inside := List.mem_of_getElem? found
  have idle := inv.sound c inside
  unfold Execution.sound at idle
  rw [creating] at idle
  obtain ⟨free, -, rows⟩ := insertRecord_eq_ok.mp inserted
  have made := inv_insert inv (inv.fresh c inside) inserted
  refine inv_set made found rfl (Nat.le_succ _) (fun _ same => same) ?_ ⟨Nat.succ_pos _, idle.2⟩
    (fun _ => ?_) fun _ response is => absurd is (by simp)
  · unfold handlersStarted
    by_cases has : c.has scope keyHash = true
    · refine le_trans (sum_map_set_le _ k fun other here => ?_) ?_
      · by_cases hasToo : other.has scope keyHash = true
        · rw [if_pos hasToo]
          by_contra started
          obtain ⟨r, there, -, hasScope, hasKey, -⟩ :=
            inv.recorded other here (Nat.pos_of_ne_zero started)
          obtain ⟨isScope, isKey⟩ := Bool.and_eq_true_iff.mp has
          obtain ⟨isScope', isKey'⟩ := Bool.and_eq_true_iff.mp hasToo
          refine findKey_eq_none.mp free r there ⟨?_, ?_⟩
          · rw [hasScope, beq_iff_eq.mp isScope', beq_iff_eq.mp isScope]
          · rw [hasKey, beq_iff_eq.mp isKey', beq_iff_eq.mp isKey]
        · rw [if_neg hasToo]
      · show (if c.has scope keyHash = true then c.starts + 1 else 0) ≤ 1
        rw [if_pos has, idle.1]
    · refine le_of_eq_of_le (sum_map_set _ found ?_) inv.once
      show (if c.has scope keyHash = true then c.starts + 1 else 0) = _
      rw [if_neg has, if_neg has]
  · exact ⟨c.record, by rw [rows]; simp, rfl, rfl, rfl, rfl⟩

/-- A call marks its record as succeeded. -/
theorem inv_succeeded {x : Executions ρ} (inv : Inv stored scope keyHash x) {c : Execution ρ}
    (inside : c ∈ x.calls) {response : ρ} (saving : c.stage = .saving response)
    {records : Records}
    (saved : saveSucceeded c.record.uuid (stored.toJson response) (stored.responseJobId response)
      x.records = .ok records) : Inv stored scope keyHash { x with records := records } := by
  have sound := inv.sound c inside
  unfold Execution.sound at sound
  rw [saving] at sound
  obtain ⟨-, rfl⟩ := saveSucceeded_eq_ok.mp saved
  refine inv_update inv inside sound.1 _ (fun _ => rfl) (fun _ => rfl) (fun _ => rfl) ?_
  intro r answer is
  exact .inr ⟨response, sound.2, (Option.some.inj is).symm⟩

/-- A call marks its record as failed. -/
theorem inv_failed {x : Executions ρ} (inv : Inv stored scope keyHash x) {c : Execution ρ}
    (inside : c ∈ x.calls) {error : ServiceError} (failing : c.stage = .failing error)
    {records : Records} (saved : saveFailed c.record.uuid error.message x.records = .ok records) :
    Inv stored scope keyHash { x with records := records } := by
  have sound := inv.sound c inside
  unfold Execution.sound at sound
  rw [failing] at sound
  obtain ⟨-, rfl⟩ := saveFailed_eq_ok.mp saved
  exact inv_update inv inside sound _ (fun _ => rfl) (fun _ => rfl) (fun _ => rfl)
    fun r answer is => .inl is

/-- A call throws. -/
theorem inv_threw {x : Executions ρ} (inv : Inv stored scope keyHash x) {k : ℕ} {c : Execution ρ}
    (found : x.calls[k]? = some c) (e : ServiceError) :
    Inv stored scope keyHash { x with calls := x.calls.set k { c with stage := .threw e } } :=
  inv_stage inv found trivial fun _ _ is => absurd is (by simp)

/-- **A call to the database** keeps the invariant, whatever becomes of it. -/
theorem inv_advance {x : Executions ρ} (inv : Inv stored scope keyHash x) {k : ℕ}
    {c : Execution ρ} (found : x.calls[k]? = some c) (delivery : Delivery) :
    Inv stored scope keyHash
      { records := (advance stored delivery x.records c).1
        calls := x.calls.set k (advance stored delivery x.records c).2 } := by
  have inside := List.mem_of_getElem? found
  have idle : Inv stored scope keyHash { x with calls := x.calls.set k c } := by
    rw [set_self found]
    exact inv
  unfold advance
  cases stage : c.stage with
  | looking =>
    cases delivery with
    | done => exact inv_lookup inv found stage
    | failed | lost => exact inv_threw inv found _
  | creating =>
    rcases deliver_cases delivery (insertRecord c.record) x.records with
      ⟨records, inserted, seen⟩ | ⟨e, records, seen, same | inserted⟩
    · simp only [seen]
      exact inv_create inv found stage inserted
    · simp only [seen]
      rw [same]
      exact inv_threw inv found _
    · simp only [seen]
      exact inv_threw (inv_insert inv (inv.fresh c inside) inserted) found _
  | saving response =>
    have sound := inv.sound c inside
    unfold Execution.sound at sound
    rw [stage] at sound
    rcases deliver_cases delivery (saveSucceeded c.record.uuid (stored.toJson response)
      (stored.responseJobId response)) x.records with
      ⟨records, saved, seen⟩ | ⟨e, records, seen, same | saved⟩
    · simp only [seen]
      refine inv_stage (inv_succeeded inv inside stage saved) found trivial fun has answer is => ?_
      obtain rfl := Stage.returned.inj is
      exact ⟨response, ⟨c, inside, has, sound.1, sound.2⟩, .inl rfl⟩
    · simp only [seen]
      rw [same]
      exact inv_stage inv found sound.1 fun _ answer is => absurd is (by simp)
    · simp only [seen]
      exact inv_stage (inv_succeeded inv inside stage saved) found sound.1
        fun _ answer is => absurd is (by simp)
  | failing error =>
    rcases deliver_cases delivery (saveFailed c.record.uuid error.message) x.records with
      ⟨records, saved, seen⟩ | ⟨e, records, seen, same | saved⟩
    · simp only [seen]
      exact inv_threw (inv_failed inv inside stage saved) found _
    · simp only [seen]
      rw [same]
      exact inv_threw inv found _
    · simp only [seen]
      exact inv_threw (inv_failed inv inside stage saved) found _
  | running | returned response | threw error => exact idle

/-- The end of a handler keeps the invariant. -/
theorem inv_finish {x : Executions ρ} (inv : Inv stored scope keyHash x) {k : ℕ}
    {c : Execution ρ} (found : x.calls[k]? = some c) (result : Except ServiceError ρ) :
    Inv stored scope keyHash { x with calls := x.calls.set k (finish result c) } := by
  have inside := List.mem_of_getElem? found
  have idle : Inv stored scope keyHash { x with calls := x.calls.set k c } := by
    rw [set_self found]
    exact inv
  unfold finish
  cases stage : c.stage with
  | running =>
    have sound := inv.sound c inside
    unfold Execution.sound at sound
    rw [stage] at sound
    cases result with
    | ok response =>
      refine inv_set inv found rfl (le_refl _) (fun answer made => ?_) ?_ ⟨sound.1, rfl⟩
        (inv.recorded c inside) fun _ answer is => absurd is (by simp)
      · exact absurd made (by rw [sound.2]; simp)
      · exact le_of_eq_of_le (sum_map_set _ found rfl) inv.once
    | error e => exact inv_stage inv found sound.1 fun _ answer is => absurd is (by simp)
  | looking | creating | saving response | failing error | returned response | threw error =>
    exact idle

/-- A call begins. -/
theorem inv_begin {x : Executions ρ} (inv : Inv stored scope keyHash x) (rt : Runtime)
    (env : IdempotencyEnv) (input : IdempotencyInput) (key : String) :
    Inv stored scope keyHash { x with calls := x.calls ++ [begun rt env input key] } := by
  have still : ∀ response, Produced scope keyHash x.calls response →
      Produced scope keyHash (x.calls ++ [begun rt env input key]) response := by
    rintro response ⟨c, inside, rest⟩
    exact ⟨c, List.mem_append_left _ inside, rest⟩
  have idle : (begun (ρ := ρ) rt env input key).starts = 0 := rfl
  refine ⟨inv.differ, ?_, fun c inside => ?_, fun c inside => ?_, fun c inside started => ?_,
    fun r here hasScope hasKey response has => ?_, fun c inside has response is => ?_⟩
  · unfold handlersStarted
    rw [List.map_append, List.sum_append]
    have none_ : ∀ p : Bool, (if p = true then (begun (ρ := ρ) rt env input key).starts else 0) =
        0 := fun p => by rw [idle, ite_self]
    rw [List.map_singleton, none_, List.sum_singleton, Nat.add_zero]
    exact inv.once
  · rcases List.mem_append.mp inside with old | new
    · exact inv.sound c old
    · rw [List.mem_singleton.mp new]
      exact ⟨rfl, rfl⟩
  · rcases List.mem_append.mp inside with old | new
    · exact inv.fresh c old
    · rw [List.mem_singleton.mp new]
      rfl
  · rcases List.mem_append.mp inside with old | new
    · exact inv.recorded c old started
    · rw [List.mem_singleton.mp new, idle] at started
      exact absurd started (lt_irrefl 0)
  · obtain ⟨original, produced, same⟩ := inv.responses r here hasScope hasKey response has
    exact ⟨original, still original produced, same⟩
  · rcases List.mem_append.mp inside with old | new
    · obtain ⟨original, produced, same⟩ := inv.returned c old has response is
      exact ⟨original, still original produced, same⟩
    · rw [List.mem_singleton.mp new] at is
      exact absurd is (by simp [begun])

/-- **The step lemma.** Every event keeps the invariant. -/
theorem inv_step (rt : Runtime) (x : Executions ρ) (e : ExecutionEvent ρ)
    (inv : Inv stored scope keyHash x) : Inv stored scope keyHash (step rt stored x e) := by
  unfold step
  cases e with
  | call env input =>
    cases checked : normaliseKey input.key with
    | error e =>
      simp only [checked]
      exact inv
    | ok key =>
      simp only [checked]
      exact inv_begin inv rt env input key
  | advance k delivery =>
    cases found : x.calls[k]? with
    | none =>
      simp only [found]
      exact inv
    | some c =>
      simp only [found]
      exact inv_advance inv found delivery
  | finish k result =>
    cases found : x.calls[k]? with
    | none =>
      simp only [found]
      exact inv
    | some c =>
      simp only [found]
      exact inv_finish inv found result

/-- The invariant at the start of a run. -/
theorem inv_start {records : Records} (differ : KeysDiffer records)
    (free : findKey scope keyHash records = none) :
    Inv stored scope keyHash (⟨records, []⟩ : Executions ρ) := by
  have absent := findKey_eq_none.mp free
  have nobody : ∀ c : Execution ρ, c ∉ ([] : List (Execution ρ)) := fun _ => List.not_mem_nil
  refine ⟨differ, Nat.zero_le _, fun c inside => absurd inside (nobody c),
    fun c inside => absurd inside (nobody c), fun c inside => absurd inside (nobody c),
    fun r here hasScope hasKey => ?_, fun c inside => absurd inside (nobody c)⟩
  exact absurd ⟨hasScope, hasKey⟩ (absent r here)

/-- **The promise of `execute`.** Whatever calls are made and in whatever order they are advanced,
in every state of the run the handler for a scope and a key has been started at most once, every
call that has returned has returned its response, and no handler has run for another request. -/
theorem executions_once (rt : Runtime) (stored : Stored ρ) (records : Records)
    (differ : KeysDiffer records) (scope key : String)
    (free : findKey scope (rt.sha256 key) records = none) (events : List (ExecutionEvent ρ)) :
    Throughout (step rt stored) (Once scope (rt.sha256 key) stored) ⟨records, []⟩ events := by
  have start : Inv stored scope (rt.sha256 key) ⟨records, []⟩ := inv_start differ free
  rw [throughout_iff_prefixes]
  intro before after same
  refine once_of_inv ?_
  have keeps : ∀ x e, Inv stored scope (rt.sha256 key) x →
      Inv stored scope (rt.sha256 key) (step rt stored x e) := inv_step rt
  have kept := throughout_of_keeps keeps start events
  exact throughout_iff_prefixes.mp kept before after same

/-! ### Two calls that race -/

/-- A call under a key. -/
def racing (recordUuid : Uuid) (request : Json) : ExecutionEvent Json :=
  .call ⟨0, recordUuid⟩ ⟨"scope", "key-0001", "operation", request, none, none, none⟩

/-- Two calls find no record; one of them makes it, and a third is answered by the copy of its
response. -/
def race : List (ExecutionEvent Json) :=
  [racing "record-1" .null, racing "record-2" .null, .advance 0 .done, .advance 1 .done,
    .advance 1 .done, .advance 0 .done, .finish 1 (.ok (.str "response")), .advance 1 .done,
    racing "record-3" .null, .advance 2 .done]

theorem executions_once_race :
    Throughout (step .plain (Stored.json fun _ => none))
        (Once "scope" (Runtime.plain.sha256 "key-0001") (Stored.json fun _ => none))
        ⟨.empty, []⟩ race ∧
      (runs (step .plain (Stored.json fun _ => none)) ⟨.empty, []⟩ race).calls.map
          (fun c => (c.starts, match c.stage with
            | .returned response => some response
            | _ => none)) =
        [(0, none), (1, some (.str "response")), (0, some (.str "response"))] :=
  ⟨executions_once .plain _ .empty (fun _ inside => absurd inside List.not_mem_nil) "scope"
    "key-0001" rfl race, by decide⟩

/-! ### The service is a run of these steps -/

/-- The stage of a call that has ended. -/
def ended : Except ServiceError ρ → Stage ρ
  | .ok response => .returned response
  | .error e => .threw e

/-- An outcome, as a delivery. -/
def delivered : Outcome → Delivery
  | .done => .done
  | .failed => .failed

/-- The last of the calls comes from one point to another, the others where they are. -/
def Reaches (rt : Runtime) (stored : Stored ρ) (calls : List (Execution ρ))
    (records : Records) (c : Execution ρ) (records' : Records) (c' : Execution ρ) : Prop :=
  ∃ events, runs (step rt stored) ⟨records, calls ++ [c]⟩ events = ⟨records', calls ++ [c']⟩

section Refinement

variable {rt : Runtime} {calls : List (Execution ρ)} {records records' records'' : Records}
  {c c' c'' : Execution ρ}

theorem Reaches.trans (first : Reaches rt stored calls records c records' c')
    (second : Reaches rt stored calls records' c' records'' c'') :
    Reaches rt stored calls records c records'' c'' := by
  obtain ⟨before, reached⟩ := first
  obtain ⟨after, reached'⟩ := second
  exact ⟨before ++ after, by rw [runs_append, reached, reached']⟩

theorem last_of_calls (c : Execution ρ) : (calls ++ [c])[calls.length]? = some c := by
  rw [List.getElem?_append_right (le_refl _), Nat.sub_self]
  rfl

theorem set_last_of_calls (c c' : Execution ρ) :
    (calls ++ [c]).set calls.length c' = calls ++ [c'] := by
  rw [List.set_append_right _ _ (le_refl _), Nat.sub_self]
  rfl

theorem reaches_advance (delivery : Delivery) (records : Records) (c : Execution ρ) :
    Reaches rt stored calls records c (advance stored delivery records c).1
      (advance stored delivery records c).2 := by
  refine ⟨[.advance calls.length delivery], ?_⟩
  show step rt stored ⟨records, calls ++ [c]⟩ (.advance calls.length delivery) = _
  unfold step
  simp only [last_of_calls, set_last_of_calls]

theorem reaches_finish (result : Except ServiceError ρ) (records : Records) (c : Execution ρ) :
    Reaches rt stored calls records c records (finish result c) := by
  refine ⟨[.finish calls.length result], ?_⟩
  show step rt stored ⟨records, calls ++ [c]⟩ (.finish calls.length result) = _
  unfold step
  simp only [last_of_calls, set_last_of_calls]

/-- A step on the records, as its outcome delivers it. -/
theorem onRecords_apply (write : Records → Except ServiceError Records) (script : List Outcome)
    (s : Store) :
    onRecords write script s =
      ⟨(deliver (delivered (Async.next script).1) write s.idempotencyRecords).1,
        (Async.next script).2,
        { s with idempotencyRecords :=
          (deliver (delivered (Async.next script).1) write s.idempotencyRecords).2 }⟩ := by
  unfold onRecords Db.transaction
  cases goes : (Async.next script).1 with
  | failed =>
    rw [Async.transaction_failed goes]
    rfl
  | done =>
    cases written : write s.idempotencyRecords with
    | error e =>
      rw [Async.transaction_error goes (e := e) (by rw [written]; rfl)]
      simp only [delivered, deliver, written]
    | ok records =>
      rw [Async.transaction_ok goes (a := ())
        (t := { s with idempotencyRecords := records }) (by rw [written]; rfl)]
      simp only [delivered, deliver, written]

variable (rt calls)

/-- A call whose handler has failed marks its record, and throws. -/
theorem failing_refines {c : Execution ρ} {e : ServiceError} (failing : c.stage = .failing e)
    (script : List Outcome) (s : Store) :
    ∃ c', Reaches rt stored calls s.idempotencyRecords c
        ((do
          onRecords (saveFailed c.record.uuid e.message)
          throw e : Db ρ) script s).store.idempotencyRecords c' ∧
      c'.record = c.record ∧
      c'.stage = ended ((do
        onRecords (saveFailed c.record.uuid e.message)
        throw e : Db ρ) script s).result := by
  have moved : Reaches rt stored calls s.idempotencyRecords c _ _ :=
    reaches_advance (delivered (Async.next script).1) _ _
  have applied := onRecords_apply (saveFailed c.record.uuid e.message) script s
  unfold advance at moved
  simp only [failing] at moved
  rcases saved : deliver (delivered (Async.next script).1) (saveFailed c.record.uuid e.message)
    s.idempotencyRecords with ⟨seen, records⟩
  rw [saved] at applied
  simp only [saved] at moved
  cases seen with
  | ok u =>
    rw [Async.bind_of_ok applied]
    exact ⟨_, moved, rfl, rfl⟩
  | error e' =>
    rw [Async.bind_of_error applied]
    exact ⟨_, moved, rfl, rfl⟩

/-- **The handler and its mark**, from a call that runs its handler. -/
theorem runHandler_refines {handler : Db ρ}
    (keeps : ∀ script s, (handler script s).store.idempotencyRecords = s.idempotencyRecords)
    {c : Execution ρ} (running : c.stage = .running) (script : List Outcome) (s : Store) :
    ∃ c', Reaches rt stored calls s.idempotencyRecords c
        (runHandler stored c.record.uuid handler script s).store.idempotencyRecords c' ∧
      c'.record = c.record ∧
      c'.stage = ended (runHandler stored c.record.uuid handler script s).result := by
  have same := keeps script s
  rcases handled : handler script s with ⟨result, rest, t⟩
  rw [handled] at same
  have finished : Reaches rt stored calls s.idempotencyRecords c t.idempotencyRecords
      (finish result c) := by
    rw [show t.idempotencyRecords = s.idempotencyRecords from same]
    exact reaches_finish result _ c
  unfold finish at finished
  unfold runHandler
  cases result with
  | error e =>
    simp only [running] at finished
    rw [Async.tryCatch_of_error (Async.bind_of_error handled _)]
    obtain ⟨c', moved, record, stage⟩ := failing_refines rt calls
      (c := { c with stage := .failing e }) rfl rest t
    exact ⟨c', finished.trans moved, record, stage⟩
  | ok response =>
    simp only [running] at finished
    have moved : Reaches rt stored calls t.idempotencyRecords
        { c with produced := some response, stage := .saving response } _ _ :=
      reaches_advance (delivered (Async.next rest).1) _ _
    have applied := onRecords_apply (saveSucceeded c.record.uuid (stored.toJson response)
      (stored.responseJobId response)) rest t
    unfold advance at moved
    simp only at moved
    rcases saved : deliver (delivered (Async.next rest).1) (saveSucceeded c.record.uuid
      (stored.toJson response) (stored.responseJobId response)) t.idempotencyRecords with
      ⟨seen, records⟩
    rw [saved] at applied
    simp only [saved] at moved
    cases seen with
    | ok u =>
      have whole := (Async.bind_of_ok handled fun response => do
        onRecords (saveSucceeded c.record.uuid (stored.toJson response)
          (stored.responseJobId response))
        return response).trans (Async.bind_of_ok applied fun _ => pure response)
      rw [Async.tryCatch_of_ok whole]
      exact ⟨_, finished.trans moved, rfl, rfl⟩
    | error e =>
      have whole := (Async.bind_of_ok handled fun response => do
        onRecords (saveSucceeded c.record.uuid (stored.toJson response)
          (stored.responseJobId response))
        return response).trans (Async.bind_of_error applied fun _ => pure response)
      rw [Async.tryCatch_of_error whole]
      obtain ⟨c', moved', record, stage⟩ := failing_refines rt calls
        (c := { c with produced := some response, stage := .failing e }) rfl
        (Async.next rest).2 { t with idempotencyRecords := records }
      exact ⟨c', (finished.trans moved).trans moved', record, stage⟩

/-- A call that has found no record makes one, and runs its handler. -/
theorem creating_refines {handler : Db ρ}
    (keeps : ∀ script s, (handler script s).store.idempotencyRecords = s.idempotencyRecords)
    {c : Execution ρ} (creating : c.stage = .creating) (script : List Outcome) (s : Store) :
    ∃ c', Reaches rt stored calls s.idempotencyRecords c
        (answerOrRun stored c.record handler none script s).store.idempotencyRecords c' ∧
      c'.record = c.record ∧
      c'.stage = ended (answerOrRun stored c.record handler none script s).result := by
  have moved : Reaches rt stored calls s.idempotencyRecords c _ _ :=
    reaches_advance (delivered (Async.next script).1) _ _
  have applied := onRecords_apply (insertRecord c.record) script s
  unfold advance at moved
  simp only [creating] at moved
  rcases inserted : deliver (delivered (Async.next script).1) (insertRecord c.record)
    s.idempotencyRecords with ⟨seen, records⟩
  rw [inserted] at applied
  simp only [inserted] at moved
  simp only [answerOrRun, createRecord]
  cases seen with
  | error e =>
    have thrown := (Async.tryCatch_of_error applied fun error =>
      throw (recordingError error)).trans (Async.throw_apply (recordingError e) _ _)
    rw [Async.bind_of_error thrown]
    exact ⟨_, moved, rfl, rfl⟩
  | ok u =>
    rw [Async.bind_of_ok (Async.tryCatch_of_ok applied _)]
    obtain ⟨c', ran, record, stage⟩ := runHandler_refines rt calls keeps
      (c := { c with starts := c.starts + 1, stage := .running }) rfl (Async.next script).2
      { s with idempotencyRecords := records }
    exact ⟨c', moved.trans ran, record, stage⟩

/-- **`execute` run alone is a run of the steps.** Over the records it finds and beside any calls in
flight, it leaves the records that the steps leave, and ends as its call does. -/
theorem execute_refines {handler : Db ρ}
    (keeps : ∀ script s, (handler script s).store.idempotencyRecords = s.idempotencyRecords)
    (env : IdempotencyEnv) {input : IdempotencyInput} {key : String} (valid : normaliseKey input.key = .ok key)
    (script : List Outcome) (s : Store) :
    ∃ events c,
      runs (step rt stored) ⟨s.idempotencyRecords, calls⟩ events =
        ⟨(execute rt stored env input handler script s).store.idempotencyRecords, calls ++ [c]⟩ ∧
      c.record = newRecord env input (rt.sha256 key) (requestHash rt input.request) ∧
      c.stage = ended (execute rt stored env input handler script s).result := by
  have called : step rt stored ⟨s.idempotencyRecords, calls⟩ (.call env input) =
      ⟨s.idempotencyRecords, calls ++ [begun rt env input key]⟩ := by
    unfold step
    simp only [valid]
  suffices reached : ∃ c, Reaches rt stored calls s.idempotencyRecords (begun rt env input key)
      (execute rt stored env input handler script s).store.idempotencyRecords c ∧
      c.record = newRecord env input (rt.sha256 key) (requestHash rt input.request) ∧
      c.stage = ended (execute rt stored env input handler script s).result by
    obtain ⟨c, ⟨events, reached⟩, record, stage⟩ := reached
    exact ⟨.call env input :: events, c, by rw [runs_cons, called]; exact reached, record, stage⟩
  have looked : Reaches rt stored calls s.idempotencyRecords (begun rt env input key) _ _ :=
    reaches_advance (delivered (Async.next script).1) _ _
  cases goes : (Async.next script).1 with
  | failed =>
    rw [goes] at looked
    rw [execute_unread valid goes]
    exact ⟨_, looked, rfl, rfl⟩
  | done =>
    rw [goes] at looked
    rw [execute_read valid goes]
    simp only [delivered, advance, begun] at looked
    cases there : findKey input.scope (rt.sha256 key) s.idempotencyRecords with
    | some existing =>
      cases replayed : replay (requestHash rt input.request) existing with
      | error e =>
        simp only [afterLookup, newRecord, there, replayed] at looked
        simp only [answerOrRun, newRecord, replayed]
        exact ⟨_, looked, rfl, rfl⟩
      | ok response =>
        simp only [afterLookup, newRecord, there, replayed] at looked
        simp only [answerOrRun, newRecord, replayed]
        exact ⟨_, looked, rfl, rfl⟩
    | none =>
      simp only [afterLookup, newRecord, there] at looked
      obtain ⟨c, moved, record, stage⟩ := creating_refines rt calls keeps
        (c := { begun rt env input key with stage := .creating }) rfl (Async.next script).2 s
      exact ⟨c, looked.trans moved, record, stage⟩

end Refinement

end AcadID.Idempotency
