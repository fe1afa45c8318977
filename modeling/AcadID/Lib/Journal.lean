/-
**The journal of a method: what its calls have committed.**

A pool of calls in flight, with the transactions that went through, in their order. The rest of the
system may act on the store between any two turns.

* `Method.write` — one step: a turn of the pool, or an act of the rest of the system.
* `Move` and `write_move` — **what a step may do**: the one inversion lemma of the machine.
* `Kept` and `kept_write` — **the rule of a journal**: an invariant of the store and of what is
  committed, and one of every plan in flight; `Finds` — what a transaction may ask of its store.
-/

import AcadID.Lib.Process
import AcadID.Lib.Run

namespace AcadID.Lib

/-- A pool, and what its calls have committed. -/
structure Journal (σ Plan Res : Type) where
  pool : Pool σ Plan Res
  committed : List (Plan × Res)

/-- What happens next: a turn of the pool, or an act of the rest of the system. -/
inductive Entry (Call ω : Type) where
  | turn (e : Turn Call)
  | outside (o : ω)

namespace Method

variable {σ ε Call Plan Res ω : Type} (m : Method σ ε Call Plan Res) (outside : ω → σ → σ)

/-- One step of a journal. -/
def write (j : Journal σ Plan Res) (e : Entry Call ω) : Journal σ Plan Res :=
  match e with
  | .turn e =>
    { pool := m.turn j.pool e
      committed :=
        j.committed ++ ((m.committing j.pool e).map fun went => (went.1, went.2.1)).toList }
  | .outside o => { j with pool := { j.pool with store := outside o j.pool.store } }

/-- A journal before the first call. -/
def blank (s : σ) : Journal σ Plan Res where
  pool := ⟨s, []⟩
  committed := []

/-! ### What a step may do -/

/-- **What a step may do** to a journal. -/
inductive Move (j : Journal σ Plan Res) : Entry Call ω → Journal σ Plan Res → Prop where
  | outside (o : ω) :
      Move j (.outside o) { j with pool := { j.pool with store := outside o j.pool.store } }
  /-- A check refuses its call, or there is no call to advance. -/
  | idle (e : Entry Call ω) : Move j e j
  | begun (c : Call) (plan : Plan) (planned : m.check c j.pool.store = .ok plan) :
      Move j (.turn (.begin c))
        { j with pool := { j.pool with calls := j.pool.calls ++ [.checked plan] } }
  /-- A call ends without writing. -/
  | ended (k : ℕ) (outcome : Outcome) :
      Move j (.turn (.advance k outcome))
        { j with pool := { j.pool with calls := j.pool.calls.set k .finished } }
  | committed (k : ℕ) (plan : Plan) (res : Res) (t : σ)
      (found : j.pool.calls[k]? = some (.checked plan))
      (writes : m.commit plan j.pool.store = .ok (res, t)) :
      Move j (.turn (.advance k .done))
        { j with
          pool := ⟨t, j.pool.calls.set k (.committed plan res)⟩
          committed := j.committed ++ [(plan, res)] }
  | logged (k : ℕ) (plan : Plan) (res : Res)
      (found : j.pool.calls[k]? = some (.committed plan res)) :
      Move j (.turn (.advance k .done))
        { j with pool := ⟨m.log plan res j.pool.store, j.pool.calls.set k .finished⟩ }

theorem write_move (j : Journal σ Plan Res) (e : Entry Call ω) :
    Move m outside j e (m.write outside j e) := by
  obtain ⟨⟨s, calls⟩, committed⟩ := j
  cases e with
  | outside o => exact .outside o
  | turn e =>
    cases e with
    | begin c =>
      cases planned : m.check c s with
      | error e =>
        simp only [write, turn, committing, planned, Option.map_none, Option.toList_none,
          List.append_nil]
        exact .idle _
      | ok plan =>
        simp only [write, turn, committing, planned, Option.map_none, Option.toList_none,
          List.append_nil]
        exact .begun c plan planned
    | advance k outcome =>
      cases outcome with
      | failed =>
        simp only [write, turn, committing, Option.map_none, Option.toList_none,
          List.append_nil]
        exact .ended k .failed
      | done =>
        cases found : calls[k]? with
        | none =>
          simp only [write, turn, committing, found, Option.map_none,
            Option.toList_none, List.append_nil]
          exact .idle _
        | some phase =>
          cases phase with
          | checked plan =>
            cases writes : m.commit plan s with
            | error e =>
              simp only [write, turn, committing, found, writes, Option.map_none,
                Option.toList_none, List.append_nil]
              exact .ended k .done
            | ok went =>
              simp only [write, turn, committing, found, writes, Option.map_some,
                Option.toList_some]
              exact .committed k plan went.1 went.2 found writes
          | committed plan res =>
            simp only [write, turn, committing, found, Option.map_none, Option.toList_none,
              List.append_nil]
            exact .logged k plan res found
          | finished =>
            simp only [write, turn, committing, found, Option.map_none,
              Option.toList_none, List.append_nil]
            exact .idle _

/-! ### The rule of a journal -/

/-- The store and what is committed meet `inv`, and so does every plan in flight meet `plans`. -/
structure Kept (inv : σ → List (Plan × Res) → Prop) (plans : Plan → σ → List (Plan × Res) → Prop)
    (j : Journal σ Plan Res) : Prop where
  store : inv j.pool.store j.committed
  inFlight : ∀ plan, .checked plan ∈ j.pool.calls → plans plan j.pool.store j.committed

variable {m outside} {inv : σ → List (Plan × Res) → Prop}
  {plans : Plan → σ → List (Plan × Res) → Prop}

/-- A transaction that the step lets through finds the store as its plan would have it. -/
def Finds (guard : Plan → σ → Prop) (j : Journal σ Plan Res) (e : Entry Call ω) : Prop :=
  ∀ k plan, e = .turn (.advance k .done) → j.pool.calls[k]? = some (.checked plan) →
    guard plan j.pool.store

variable {guard : Plan → σ → Prop}

instance [∀ plan s, Decidable (guard plan s)] (j : Journal σ Plan Res) (e : Entry Call ω) :
    Decidable (Finds guard j e) :=
  match e with
  | .outside _ | .turn (.begin _) | .turn (.advance _ .failed) =>
    isTrue fun _ _ same => absurd same (by simp)
  | .turn (.advance k .done) =>
    match found : j.pool.calls[k]? with
    | some (.checked plan) =>
      decidable_of_iff (guard plan j.pool.store) <| by
        constructor
        · intro meets k' plan' same found'
          obtain rfl : k = k' := by simpa using same
          rw [found] at found'
          exact Phase.checked.inj (Option.some.inj found') ▸ meets
        · exact fun finds => finds k plan rfl found
    | some (.committed _ _) | some .finished | none =>
      isTrue fun k' plan same found' => by
        obtain rfl : k = k' := by simpa using same
        simp [found] at found'

/-- **The rule of a journal.** A step keeps the invariants when checks establish that of their plan,
and commits onto a store they would have, logs and the rest of the system keep both. -/
theorem kept_write
    (checks : ∀ c s committed plan, inv s committed → m.check c s = .ok plan →
      plans plan s committed)
    (commits : ∀ plan res s t committed, inv s committed → plans plan s committed →
      guard plan s → m.commit plan s = .ok (res, t) → inv t (committed ++ [(plan, res)]) ∧
        ∀ other, plans other s committed → plans other t (committed ++ [(plan, res)]))
    (logs : ∀ plan res s committed, inv s committed → inv (m.log plan res s) committed ∧
      ∀ other, plans other s committed → plans other (m.log plan res s) committed)
    (acts : ∀ o s committed, inv s committed → inv (outside o s) committed ∧
      ∀ other, plans other s committed → plans other (outside o s) committed)
    {j : Journal σ Plan Res} (kept : Kept inv plans j) {e : Entry Call ω}
    (finds : Finds guard j e) : Kept inv plans (m.write outside j e) := by
  have moved := write_move m outside j e
  generalize m.write outside j e = j' at moved
  cases moved with
  | idle => exact kept
  | outside o =>
    obtain ⟨store, others⟩ := acts o j.pool.store j.committed kept.store
    exact ⟨store, fun plan inside => others plan (kept.inFlight plan inside)⟩
  | begun c plan planned =>
    refine ⟨kept.store, fun plan' inside => ?_⟩
    rcases List.mem_append.mp inside with old | new
    · exact kept.inFlight plan' old
    · obtain rfl : plan' = plan := Phase.checked.inj (List.mem_singleton.mp new)
      exact checks c j.pool.store j.committed plan' kept.store planned
  | ended k outcome =>
    refine ⟨kept.store, fun plan' inside => ?_⟩
    exact kept.inFlight plan' (mem_of_mem_set (by simp) inside)
  | committed k plan res t found writes =>
    obtain ⟨store, others⟩ := commits plan res j.pool.store t j.committed kept.store
      (kept.inFlight plan (List.mem_of_getElem? found)) (finds k plan rfl found) writes
    refine ⟨store, fun plan' inside => ?_⟩
    exact others plan' (kept.inFlight plan' (mem_of_mem_set (by simp) inside))
  | logged k plan res found =>
    obtain ⟨store, others⟩ := logs plan res j.pool.store j.committed kept.store
    refine ⟨store, fun plan' inside => ?_⟩
    exact others plan' (kept.inFlight plan' (mem_of_mem_set (by simp) inside))

/-- The rule of a journal, over a run in which each transaction finds the store as its plan would
have it, from a store without calls in flight. -/
theorem kept_runs_of_finds
    (checks : ∀ c s committed plan, inv s committed → m.check c s = .ok plan →
      plans plan s committed)
    (commits : ∀ plan res s t committed, inv s committed → plans plan s committed →
      guard plan s → m.commit plan s = .ok (res, t) → inv t (committed ++ [(plan, res)]) ∧
        ∀ other, plans other s committed → plans other t (committed ++ [(plan, res)]))
    (logs : ∀ plan res s committed, inv s committed → inv (m.log plan res s) committed ∧
      ∀ other, plans other s committed → plans other (m.log plan res s) committed)
    (acts : ∀ o s committed, inv s committed → inv (outside o s) committed ∧
      ∀ other, plans other s committed → plans other (outside o s) committed)
    {s : σ} (start : inv s []) {events : List (Entry Call ω)}
    (finds : Along (m.write outside) (Finds guard) (blank s) events) :
    Kept inv plans (runs (m.write outside) (blank s) events) := by
  have first : Kept inv plans (blank s) :=
    ⟨start, fun plan inside => absurd inside List.not_mem_nil⟩
  have keeps : ∀ (j : Journal σ Plan Res) (e : Entry Call ω), Kept inv plans j →
      Finds guard j e → Kept inv plans (m.write outside j e) :=
    fun j e kept finds => kept_write checks commits logs acts kept finds
  exact runs_of_keeps keeps first finds

/-- The rule of a journal, over a run from a store without calls in flight. -/
theorem kept_runs
    (checks : ∀ c s committed plan, inv s committed → m.check c s = .ok plan →
      plans plan s committed)
    (commits : ∀ plan res s t committed, inv s committed → plans plan s committed →
      m.commit plan s = .ok (res, t) → inv t (committed ++ [(plan, res)]) ∧
        ∀ other, plans other s committed → plans other t (committed ++ [(plan, res)]))
    (logs : ∀ plan res s committed, inv s committed → inv (m.log plan res s) committed ∧
      ∀ other, plans other s committed → plans other (m.log plan res s) committed)
    (acts : ∀ o s committed, inv s committed → inv (outside o s) committed ∧
      ∀ other, plans other s committed → plans other (outside o s) committed)
    {s : σ} (start : inv s []) (events : List (Entry Call ω)) :
    Kept inv plans (runs (m.write outside) (blank s) events) := by
  have any : Along (m.write outside) (Finds fun _ _ => True) (blank s) events :=
    along_iff_prefixes.mpr fun _ _ _ _ _ _ _ _ => trivial
  refine kept_runs_of_finds checks ?_ logs acts start any
  exact fun plan res s t committed kept prepared _ => commits plan res s t committed kept prepared

end Method

end AcadID.Lib
