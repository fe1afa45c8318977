/-
**Idempotency records that are cleaned up: the handler runs once for each record.**

A job deletes the records that have expired. A call that looked its record up before that, or that
still runs its handler, goes on with what it knows.

* `retentionStep` — the calls of `execute` in flight, and `cleanupExpiredRecords` between any two of
  their steps.
* `handlers_le` — **the handlers of a key are started at most once, and once more for each cleanup
  that finds its record expired**.
* `once_retained` — **until an hour past the deadline that all records of a key are kept to, its
  handler is started at most once**, whatever else is cleaned up.
-/

import AcadID.Platform.Executions

namespace AcadID.Idempotency

open Lib

variable {ρ : Type}

/-! ### Calls and cleanups -/

/-- The records that expired before this time are deleted. -/
def cleanupCutoff (now : Time) (olderThanHours : Option ℚ) : Time :=
  now - clampHours olderThanHours * 60 * 60 * 1000

def cleanupExpiredRecords (now : Time) (olderThanHours : Option ℚ) (records : Records) : Records :=
  records.filter fun record => !decide (record.expiresAt < cleanupCutoff now olderThanHours)

inductive RetentionEvent (ρ : Type) where
  | execution (e : ExecutionEvent ρ)
  | cleanup (now : Time) (olderThanHours : Option ℚ)

def retentionStep (rt : Runtime) (stored : Stored ρ) (x : Executions ρ) (e : RetentionEvent ρ) :
    Executions ρ :=
  match e with
  | .execution e => step rt stored x e
  | .cleanup now olderThanHours =>
    { x with records := cleanupExpiredRecords now olderThanHours x.records }

section Counting

variable (stored : Stored ρ) (scope keyHash : String)

/-- Whether a step starts a handler for the scope and the key. -/
def startsHandler (x : Executions ρ) : RetentionEvent ρ → Bool
  | .execution (.advance k delivery) => (x.calls[k]?).any fun c =>
    c.has scope keyHash && c.starts < (advance stored delivery x.records c).2.starts
  | _ => false

/-- Whether a step is a cleanup that finds the record of the scope and the key expired. -/
def findsExpired (x : Executions ρ) : RetentionEvent ρ → Bool
  | .execution _ => false
  | .cleanup now olderThanHours => (findKey scope keyHash x.records).any fun record =>
    record.expiresAt < cleanupCutoff now olderThanHours

/-- One, while there is no record of the scope and the key. -/
def room (x : Executions ρ) : ℕ :=
  if (findKey scope keyHash x.records).isNone then 1 else 0

end Counting

/-! ### What a step may do -/

section Step

variable {stored : Stored ρ} {scope keyHash : String}

/-- A change of a record that leaves its scope, its key and its expiry. -/
structure Marks (f : IdempotencyRecord → IdempotencyRecord) : Prop where
  scope : ∀ r, (f r).scope = r.scope
  keyHash : ∀ r, (f r).keyHash = r.keyHash
  expiresAt : ∀ r, (f r).expiresAt = r.expiresAt

/-- What a call may do to the records: nothing, make its own, or mark one. -/
inductive Writes (c : Execution ρ) (records : Records) : Records → Prop where
  | nothing : Writes c records records
  | inserted {records' : Records} (inserted : insertRecord c.record records = .ok records') :
      Writes c records records'
  | marked (uuid : Uuid) (f : IdempotencyRecord → IdempotencyRecord)
      (keeps : ∀ r, (f r).uuid = r.uuid) (marks : Marks f) :
      Writes c records (records.update uuid f keeps)

/-- A write that is delivered is done, or not. -/
theorem writes_deliver {c : Execution ρ} {records : Records} (delivery : Delivery)
    {write : Records → Except ServiceError Records}
    (writes : ∀ records', write records = .ok records' → Writes c records records') :
    Writes c records (deliver delivery write records).2 := by
  rcases deliver_cases delivery write records with
    ⟨records', wrote, seen⟩ | ⟨e, records', seen, rfl | wrote⟩ <;> rw [seen]
  · exact writes records' wrote
  · exact .nothing
  · exact writes records' wrote

/-- The records after a call to the database are those that its write leaves. -/
theorem writes_advance (delivery : Delivery) (records : Records) (c : Execution ρ) :
    Writes c records (advance stored delivery records c).1 := by
  unfold advance
  cases c.stage with
  | looking => cases delivery <;> exact .nothing
  | creating =>
    have wrote : Writes c records (deliver delivery (insertRecord c.record) records).2 :=
      writes_deliver delivery fun _ inserted => .inserted inserted
    dsimp only
    split <;> rename_i seen <;> rw [seen] at wrote <;> exact wrote
  | saving response =>
    have wrote : Writes c records (deliver delivery (saveSucceeded c.record.uuid
        (stored.toJson response) (stored.responseJobId response)) records).2 := by
      refine writes_deliver delivery fun records' saved => ?_
      rw [(saveSucceeded_eq_ok.mp saved).2]
      exact .marked _ _ _ ⟨fun _ => rfl, fun _ => rfl, fun _ => rfl⟩
    dsimp only
    split <;> rename_i seen <;> rw [seen] at wrote <;> exact wrote
  | failing error =>
    have wrote : Writes c records
        (deliver delivery (saveFailed c.record.uuid error.message) records).2 := by
      refine writes_deliver delivery fun records' saved => ?_
      rw [(saveFailed_eq_ok.mp saved).2]
      exact .marked _ _ _ ⟨fun _ => rfl, fun _ => rfl, fun _ => rfl⟩
    dsimp only
    split <;> rename_i seen <;> rw [seen] at wrote <;> exact wrote
  | running | returned response | threw error => exact .nothing

/-- What a call writes leaves every record under its scope and key. -/
theorem Writes.isSome {c : Execution ρ} {records records' : Records}
    (writes : Writes c records records') (there : (findKey scope keyHash records).isSome = true) :
    (findKey scope keyHash records').isSome = true := by
  cases writes with
  | nothing => exact there
  | inserted inserted =>
    unfold findKey at there ⊢
    rw [(insertRecord_eq_ok.mp inserted).2.2, List.find?_append, Option.isSome_or, there,
      Bool.true_or]
  | marked uuid f keeps marks =>
    rw [findKey_update marks.scope marks.keyHash, Option.isSome_map]
    exact there

/-- **A call starts its handler** by making the record that was not there, and no other step starts
one. -/
theorem starts_advance (stored : Stored ρ) (delivery : Delivery) (records : Records)
    (c : Execution ρ) :
    (advance stored delivery records c).2.record = c.record ∧
      ((advance stored delivery records c).2.starts = c.starts ∨
        (advance stored delivery records c).2.starts = c.starts + 1 ∧
          findKey c.record.scope c.record.keyHash records = none ∧
          (findKey c.record.scope c.record.keyHash
            (advance stored delivery records c).1).isSome = true) := by
  unfold advance
  cases c.stage with
  | looking => cases delivery <;> exact ⟨rfl, .inl rfl⟩
  | creating =>
    rcases deliver_cases delivery (insertRecord c.record) records with
      ⟨records', inserted, seen⟩ | ⟨e, records', seen, -⟩
    · simp only [seen]
      refine ⟨trivial, .inr ⟨trivial, (insertRecord_eq_ok.mp inserted).1, ?_⟩⟩
      rw [findKey_insert inserted, Option.isSome_some]
    · simp only [seen]
      exact ⟨trivial, .inl trivial⟩
  | saving response => dsimp only; split <;> exact ⟨rfl, .inl rfl⟩
  | failing error => dsimp only; split <;> exact ⟨rfl, .inl rfl⟩
  | running | returned response | threw error => exact ⟨rfl, .inl rfl⟩

/-- The record of a scope and a key after a cleanup. -/
theorem findKey_cleanup {records : Records} (now : Time) (olderThanHours : Option ℚ)
    {record : IdempotencyRecord} (found : findKey scope keyHash records = some record)
    (kept : ¬ record.expiresAt < cleanupCutoff now olderThanHours) :
    (findKey scope keyHash (cleanupExpiredRecords now olderThanHours records)).isSome = true := by
  obtain ⟨here, hasScope, hasKey⟩ := findKey_mem found
  unfold findKey
  rw [List.find?_isSome]
  refine ⟨record, ?_, decide_eq_true ⟨hasScope, hasKey⟩⟩
  unfold cleanupExpiredRecords
  rw [Table.rows_filter]
  exact List.mem_filter.mpr ⟨here, by simp [kept]⟩

/-! ### How often a handler is started -/

/-- A key that has a record has no more room after a step that leaves it one. -/
theorem room_le {x y : Executions ρ}
    (stays : (findKey scope keyHash x.records).isSome = true →
      (findKey scope keyHash y.records).isSome = true) :
    room scope keyHash y ≤ room scope keyHash x := by
  unfold room
  cases before : findKey scope keyHash x.records with
  | none =>
    rw [Option.isNone_none, if_pos rfl]
    split_ifs <;> simp
  | some record =>
    rw [before] at stays
    obtain ⟨record', after⟩ := Option.isSome_iff_exists.mp (stays rfl)
    rw [after]
    simp

theorem room_le_one (x : Executions ρ) : room scope keyHash x ≤ 1 := by
  unfold room
  split_ifs <;> simp

/-- **A call to the database takes the room** that a key has when it starts a handler for it. -/
theorem room_advance (rt : Runtime) (x : Executions ρ) (k : ℕ) (delivery : Delivery) :
    room scope keyHash (step rt stored x (.advance k delivery)) +
        (if startsHandler stored scope keyHash x (.execution (.advance k delivery)) = true then 1
          else 0) ≤ room scope keyHash x := by
  cases found : x.calls[k]? with
  | none =>
    have idle : step rt stored x (.advance k delivery) = x := by simp only [step, found]
    have none_ :
        startsHandler stored scope keyHash x (.execution (.advance k delivery)) = false := by
      simp only [startsHandler, found, Option.any_none]
    rw [idle, none_]
    exact Nat.le_refl _
  | some c =>
    have after : (step rt stored x (.advance k delivery)).records =
        (advance stored delivery x.records c).1 := by
      simp only [step, found]
    have starting : startsHandler stored scope keyHash x (.execution (.advance k delivery)) =
        (c.has scope keyHash && c.starts < (advance stored delivery x.records c).2.starts) := by
      simp only [startsHandler, found, Option.any_some]
    rw [starting]
    split_ifs with starts
    · obtain ⟨has, more⟩ := Bool.and_eq_true_iff.mp starts
      obtain ⟨isScope, isKey⟩ := Bool.and_eq_true_iff.mp has
      obtain rfl := beq_iff_eq.mp isScope
      obtain rfl := beq_iff_eq.mp isKey
      rcases (starts_advance stored delivery x.records c).2 with
        same | ⟨-, free, taken⟩
      · rw [same] at more
        exact absurd (of_decide_eq_true more) (Nat.lt_irrefl _)
      · unfold room
        rw [after, free, Option.isNone_none, if_pos rfl]
        obtain ⟨record, there⟩ := Option.isSome_iff_exists.mp taken
        rw [there]
        exact Nat.le_refl _
    · refine room_le fun there => ?_
      rw [after]
      exact (writes_advance delivery x.records c).isSome there

/-- **Only a cleanup that finds the record of a key expired makes room for it again.** -/
theorem room_step (rt : Runtime) (stored : Stored ρ) (scope keyHash : String) (x : Executions ρ)
    (e : RetentionEvent ρ) :
    room scope keyHash (retentionStep rt stored x e) +
        (if startsHandler stored scope keyHash x e = true then 1 else 0) ≤
      room scope keyHash x + if findsExpired scope keyHash x e = true then 1 else 0 := by
  cases e with
  | cleanup now olderThanHours =>
    have starts : startsHandler stored scope keyHash x (.cleanup now olderThanHours) = false := rfl
    rw [starts, if_neg Bool.false_ne_true, Nat.add_zero]
    split_ifs with expires
    · exact Nat.le_trans (room_le_one _) (Nat.le_add_left 1 _)
    · refine room_le fun there => ?_
      obtain ⟨record, found⟩ := Option.isSome_iff_exists.mp there
      refine findKey_cleanup now olderThanHours found fun expired => expires ?_
      unfold findsExpired
      rw [found]
      exact decide_eq_true expired
  | execution e =>
    have expires : findsExpired scope keyHash x (.execution e) = false := rfl
    rw [expires, if_neg Bool.false_ne_true, Nat.add_zero]
    cases e with
    | advance k delivery => exact room_advance rt x k delivery
    | call env input =>
      have starts : startsHandler stored scope keyHash x (.execution (.call env input)) = false :=
        rfl
      rw [starts, if_neg Bool.false_ne_true, Nat.add_zero]
      refine room_le fun there => ?_
      show (findKey scope keyHash (step rt stored x (.call env input)).records).isSome = true
      cases checked : normaliseKey input.key with
      | error e =>
        simp only [step, checked]
        exact there
      | ok key =>
        simp only [step, checked]
        exact there
    | finish k result =>
      have starts :
          startsHandler stored scope keyHash x (.execution (.finish k result)) = false := rfl
      rw [starts, if_neg Bool.false_ne_true, Nat.add_zero]
      refine room_le fun there => ?_
      show (findKey scope keyHash (step rt stored x (.finish k result)).records).isSome = true
      cases found : x.calls[k]? with
      | none =>
        simp only [step, found]
        exact there
      | some c =>
        simp only [step, found]
        exact there

/-- A total grows by what one of its items does. -/
theorem sum_map_set_add {α : Type} (f : α → ℕ) {items : List α} {k : ℕ} {a b : α} {n : ℕ}
    (found : items[k]? = some a) (grows : f b = f a + n) :
    ((items.set k b).map f).sum = (items.map f).sum + n := by
  induction items generalizing k with
  | nil => exact absurd found (by simp)
  | cons item items ih =>
    cases k with
    | zero =>
      obtain rfl : item = a := by simpa using found
      rw [List.set_cons_zero, List.map_cons, List.map_cons, List.sum_cons, List.sum_cons, grows]
      omega
    | succ k =>
      have later : items[k]? = some a := by simpa using found
      rw [List.set_cons_succ, List.map_cons, List.map_cons, List.sum_cons, List.sum_cons, ih later]
      omega

/-- The handlers of a key are counted by the steps that start one. -/
theorem handlersStarted_step (rt : Runtime) (x : Executions ρ) (e : RetentionEvent ρ) :
    handlersStarted scope keyHash (retentionStep rt stored x e).calls =
      handlersStarted scope keyHash x.calls +
        if startsHandler stored scope keyHash x e = true then 1 else 0 := by
  have counted : ∀ {k : ℕ} {c c' : Execution ρ} (n : ℕ), x.calls[k]? = some c →
      (if c'.has scope keyHash then c'.starts else 0) =
        (if c.has scope keyHash then c.starts else 0) + n →
      handlersStarted scope keyHash (x.calls.set k c') =
        handlersStarted scope keyHash x.calls + n := by
    intro k c c' n found grows
    unfold handlersStarted
    exact sum_map_set_add _ found grows
  cases e with
  | cleanup now olderThanHours => rfl
  | execution e =>
    show handlersStarted scope keyHash (step rt stored x e).calls = _
    cases e with
    | call env input =>
      cases checked : normaliseKey input.key with
      | error e =>
        simp only [step, checked]
        rfl
      | ok key =>
        have unstarted : (if (begun rt env input key : Execution ρ).has scope keyHash then
            (begun rt env input key : Execution ρ).starts else 0) = 0 := ite_self 0
        simp only [step, checked]
        unfold handlersStarted
        rw [List.map_append, List.sum_append, List.map_singleton, List.sum_singleton, unstarted]
        rfl
    | finish k result =>
      cases found : x.calls[k]? with
      | none =>
        simp only [step, found]
        rfl
      | some c =>
        simp only [step, found]
        refine counted 0 found ?_
        unfold finish
        split <;> rfl
    | advance k delivery =>
      cases found : x.calls[k]? with
      | none =>
        simp only [step, found, startsHandler, Option.any_none]
        rfl
      | some c =>
        simp only [step, found, startsHandler, Option.any_some]
        refine counted _ found ?_
        obtain ⟨record, starts⟩ := starts_advance stored delivery x.records c
        have has : (advance stored delivery x.records c).2.has scope keyHash =
            c.has scope keyHash := by
          unfold Execution.has
          rw [record]
        rw [has]
        cases c.has scope keyHash with
        | false => rfl
        | true =>
          rcases starts with same | ⟨more, -⟩
          · rw [same]
            simp
          · rw [more]
            simp

/-! ### Records that are kept to a deadline -/

theorem one_le_clampHours (hours : Option ℚ) : 1 ≤ clampHours hours := by
  unfold clampHours
  cases hours with
  | none => decide
  | some hours => exact le_min (by decide) (le_max_left _ _)

/-- A cleanup deletes nothing that has not been expired for an hour. -/
theorem cleanupCutoff_le (olderThanHours : Option ℚ) {now deadline : ℤ}
    (early : now ≤ deadline + 3600000) : cleanupCutoff now olderThanHours ≤ deadline := by
  have hours := one_le_clampHours olderThanHours
  show now - clampHours olderThanHours * 60 * 60 * 1000 ≤ deadline
  omega

/-- Every record of the scope and the key, made or still to be made, expires no earlier. -/
structure Dated (scope keyHash : String) (deadline : Time) (x : Executions ρ) : Prop where
  records : ∀ r ∈ x.records.rows, r.scope = scope → r.keyHash = keyHash → deadline ≤ r.expiresAt
  calls : ∀ c ∈ x.calls, c.has scope keyHash = true → deadline ≤ c.record.expiresAt

/-- A call keeps its record to the deadline, and a cleanup comes no later than an hour past it. -/
def InTime (rt : Runtime) (scope keyHash : String) (deadline : Time) : RetentionEvent ρ → Prop
  | .execution (.call env input) => ∀ key, normaliseKey input.key = .ok key → input.scope = scope →
    rt.sha256 key = keyHash → deadline ≤ env.now + clampHours input.ttlHours * 3600000
  | .execution _ => True
  | .cleanup now _ => now ≤ deadline + 3600000

variable {deadline : Time}

/-- What a call writes is kept to the deadline of its own record. -/
theorem Writes.dated {c : Execution ρ} {records records' : Records}
    (writes : Writes c records records')
    (own : c.has scope keyHash = true → deadline ≤ c.record.expiresAt)
    (dated : ∀ r ∈ records.rows, r.scope = scope → r.keyHash = keyHash → deadline ≤ r.expiresAt) :
    ∀ r ∈ records'.rows, r.scope = scope → r.keyHash = keyHash → deadline ≤ r.expiresAt := by
  cases writes with
  | nothing => exact dated
  | inserted inserted =>
    intro r inside hasScope hasKey
    rw [(insertRecord_eq_ok.mp inserted).2.2] at inside
    rcases List.mem_append.mp inside with old | new
    · exact dated r old hasScope hasKey
    · obtain rfl := List.mem_singleton.mp new
      apply own
      unfold Execution.has
      rw [hasScope, hasKey, beq_self_eq_true, beq_self_eq_true, Bool.and_self]
  | marked uuid f keeps marks =>
    intro r inside hasScope hasKey
    rcases Table.mem_update.mp inside with ⟨old, here, -, rfl⟩ | ⟨here, -⟩
    · rw [marks.expiresAt]
      rw [marks.scope] at hasScope
      rw [marks.keyHash] at hasKey
      exact dated old here hasScope hasKey
    · exact dated r here hasScope hasKey

/-- A call in the place of another of the same record. -/
theorem Dated.set {x : Executions ρ} (dated : Dated scope keyHash deadline x) {k : ℕ}
    {c c' : Execution ρ} (found : x.calls[k]? = some c) (record : c'.record = c.record) :
    ∀ other ∈ x.calls.set k c', other.has scope keyHash = true →
      deadline ≤ other.record.expiresAt := by
  intro other inside has
  rcases List.mem_or_eq_of_mem_set inside with old | rfl
  · exact dated.calls other old has
  · rw [record]
    apply dated.calls c (List.mem_of_getElem? found)
    unfold Execution.has at has ⊢
    rw [← record]
    exact has

theorem dated_step (rt : Runtime) (x : Executions ρ) (e : RetentionEvent ρ)
    (dated : Dated scope keyHash deadline x) (inTime : InTime rt scope keyHash deadline e) :
    Dated scope keyHash deadline (retentionStep rt stored x e) := by
  cases e with
  | cleanup now olderThanHours =>
    refine ⟨fun r inside => dated.records r ?_, dated.calls⟩
    exact List.mem_of_mem_filter inside
  | execution e =>
    show Dated scope keyHash deadline (step rt stored x e)
    cases e with
    | call env input =>
      cases checked : normaliseKey input.key with
      | error e =>
        simp only [step, checked]
        exact dated
      | ok key =>
        simp only [step, checked]
        refine ⟨dated.records, fun c inside has => ?_⟩
        rcases List.mem_append.mp inside with old | new
        · exact dated.calls c old has
        · obtain rfl := List.mem_singleton.mp new
          obtain ⟨isScope, isKey⟩ := Bool.and_eq_true_iff.mp has
          exact inTime key checked (beq_iff_eq.mp isScope) (beq_iff_eq.mp isKey)
    | finish k result =>
      cases found : x.calls[k]? with
      | none =>
        simp only [step, found]
        exact dated
      | some c =>
        simp only [step, found]
        refine ⟨dated.records, dated.set found ?_⟩
        unfold finish
        split <;> rfl
    | advance k delivery =>
      cases found : x.calls[k]? with
      | none =>
        simp only [step, found]
        exact dated
      | some c =>
        simp only [step, found]
        have inside := List.mem_of_getElem? found
        refine ⟨?_, dated.set found (starts_advance stored delivery x.records c).1⟩
        exact (writes_advance delivery x.records c).dated (dated.calls c inside) dated.records

/-- No cleanup in time finds the record of the key expired. -/
theorem not_findsExpired {rt : Runtime} {x : Executions ρ} {e : RetentionEvent ρ}
    (dated : Dated scope keyHash deadline x) (inTime : InTime rt scope keyHash deadline e) :
    findsExpired scope keyHash x e = false := by
  cases e with
  | execution e => rfl
  | cleanup now olderThanHours =>
    unfold findsExpired
    cases found : findKey scope keyHash x.records with
    | none => rfl
    | some record =>
      obtain ⟨here, hasScope, hasKey⟩ := findKey_mem found
      have late : deadline ≤ record.expiresAt := dated.records record here hasScope hasKey
      have cut := cleanupCutoff_le olderThanHours inTime
      exact decide_eq_false (not_lt.mpr (le_trans cut late))

end Step

/-! ### Runs -/

/-- The handlers that a run starts for a key, counted by its steps. -/
theorem handlersStarted_runs (rt : Runtime) (stored : Stored ρ) (scope keyHash : String)
    (x : Executions ρ) (events : List (RetentionEvent ρ)) :
    handlersStarted scope keyHash (runs (retentionStep rt stored) x events).calls =
      handlersStarted scope keyHash x.calls +
        occurrences (retentionStep rt stored)
          (fun x e => startsHandler stored scope keyHash x e = true) x events := by
  have counts : ∀ (x : Executions ρ) (e : RetentionEvent ρ), True → True →
      handlersStarted scope keyHash (retentionStep rt stored x e).calls =
        handlersStarted scope keyHash x.calls +
          if startsHandler stored scope keyHash x e = true then 1 else 0 :=
    fun x e _ _ => handlersStarted_step rt x e
  have free : Along (retentionStep rt stored) (fun _ _ => True) x events :=
    along_of_mem fun _ _ => trivial
  exact tally_runs (fun x => handlersStarted scope keyHash x.calls) (fun _ _ _ _ => trivial) counts
    trivial free

/-- **The handlers of a key are started at most once, and once more for each cleanup that finds its
record expired**, whatever calls are in flight and however their answers fare. -/
theorem handlers_le (rt : Runtime) (stored : Stored ρ) (scope keyHash : String) (records : Records)
    (events : List (RetentionEvent ρ)) :
    handlersStarted scope keyHash (runs (retentionStep rt stored) ⟨records, []⟩ events).calls ≤
      1 + occurrences (retentionStep rt stored)
        (fun x e => findsExpired scope keyHash x e = true) ⟨records, []⟩ events := by
  have paid := credit_runs (room scope keyHash) (room_step rt stored scope keyHash)
    (⟨records, []⟩ : Executions ρ) events
  have first : room scope keyHash (⟨records, []⟩ : Executions ρ) ≤ 1 := room_le_one _
  have none_ : handlersStarted scope keyHash ([] : List (Execution ρ)) = 0 := rfl
  have counted := handlersStarted_runs rt stored scope keyHash ⟨records, []⟩ events
  rw [none_] at counted
  omega

/-- **Until an hour past the deadline that all records of a key are kept to, its handler is started
at most once**, whatever else is cleaned up. -/
theorem once_retained (rt : Runtime) (stored : Stored ρ) (scope keyHash : String) (deadline : Time)
    (records : Records) (free : findKey scope keyHash records = none)
    (events : List (RetentionEvent ρ))
    (inTime : ∀ e ∈ events, InTime rt scope keyHash deadline e) :
    handlersStarted scope keyHash (runs (retentionStep rt stored) ⟨records, []⟩ events).calls ≤
      1 := by
  have start : Dated scope keyHash deadline (⟨records, []⟩ : Executions ρ) := by
    refine ⟨fun r inside hasScope hasKey => ?_, fun c inside => absurd inside List.not_mem_nil⟩
    exact absurd ⟨hasScope, hasKey⟩ (findKey_eq_none.mp free r inside)
  have pays : ∀ (x : Executions ρ) (e : RetentionEvent ρ), Dated scope keyHash deadline x →
      InTime rt scope keyHash deadline e → room scope keyHash (retentionStep rt stored x e) +
        (if startsHandler stored scope keyHash x e = true then 1 else 0) ≤
          room scope keyHash x + 0 := by
    intro x e dated inTime
    have step := room_step rt stored scope keyHash x e
    rw [not_findsExpired dated inTime] at step
    exact step
  have paid := budget_runs (room scope keyHash) (fun _ => 0) (dated_step rt) pays start
    (along_of_mem inTime)
  have first : room scope keyHash (⟨records, []⟩ : Executions ρ) ≤ 1 := room_le_one _
  have nothing : (events.map fun _ : RetentionEvent ρ => 0).sum = 0 := by simp
  have none_ : handlersStarted scope keyHash ([] : List (Execution ρ)) = 0 := rfl
  have counted := handlersStarted_runs rt stored scope keyHash ⟨records, []⟩ events
  rw [none_] at counted
  omega

/-- A race of two calls, and a third one after a cleanup an hour after their records expire. -/
def cleanedUp : List (RetentionEvent Json) :=
  race.map .execution ++ [.cleanup 90000000 none, .execution (racing "record-4" .null),
    .execution (.advance 3 .done)]

theorem once_retained_cleanedUp :
    handlersStarted "scope" (Runtime.plain.sha256 "key-0001")
      (runs (retentionStep .plain (Stored.json fun _ => none)) ⟨.empty, []⟩ cleanedUp).calls ≤
        1 := by
  refine once_retained .plain _ "scope" _ 86400000 .empty rfl cleanedUp ?_
  intro e inside
  simp only [cleanedUp, race, racing, List.map_cons, List.map_nil, List.cons_append,
    List.nil_append, List.mem_cons, List.not_mem_nil, or_false] at inside
  rcases inside with rfl | rfl | rfl | rfl | rfl | rfl | rfl | rfl | rfl | rfl | rfl | rfl | rfl <;>
    first
      | trivial
      | exact fun _ _ _ _ => by decide
      | exact (by decide : (90000000 : ℤ) ≤ 86400000 + 3600000)

end AcadID.Idempotency
