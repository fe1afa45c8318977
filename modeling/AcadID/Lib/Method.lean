/-
**Methods that check, then commit, then log, alone and in flight together.**

A `Method` reads the store and plans (`check`), writes in one transaction (`commit`) and leaves a
log entry (`log`); the transaction runs on the store it finds, which need not be the one the
check read.

* `Method.call` — the method run alone, each of its three calls drawing an outcome;
  `committed` is the transaction that went through, if any, and `call_store` the store it leaves.
* `Method.turn` — any number of calls in flight over one store. A `Turn` begins a call or
  advances one of those in flight; a failed advance ends the call. `committing` is the transaction
  a turn lets through, if any, and `turn_cases` what else a turn can do.
* `Method.sum` — two methods over one store as one.
* `Method.Flight` — a store invariant and an invariant of the plans in flight; `turn_flight` keeps
  both from what the commits and the logs keep.
-/

import AcadID.Lib.Async
import Mathlib.Data.List.Basic

namespace AcadID.Lib

/-- A method over the store `σ`: its checks, its transaction and its log entry. -/
structure Method (σ ε Call Plan Res : Type) where
  check : Call → σ → Except ε Plan
  commit : Plan → σ → Except ε (Res × σ)
  log : Plan → Res → σ → σ

/-- How far a call in flight has come. -/
inductive Phase (Plan Res : Type) where
  | checked (plan : Plan)
  | committed (plan : Plan) (res : Res)
  | finished
  deriving DecidableEq, Repr

/-- A store and the calls in flight over it. -/
structure Pool (σ Plan Res : Type) where
  store : σ
  calls : List (Phase Plan Res)

/-- What happens next in a pool. -/
inductive Turn (Call : Type) where
  | begin (c : Call)
  | advance (k : ℕ) (outcome : Outcome)
  deriving DecidableEq, Repr

namespace Method

variable {σ ε Call Plan Res : Type} (m : Method σ ε Call Plan Res) (fault : ε)

/-! ### One call alone -/

/-- The method run alone. -/
def call (c : Call) : Async σ ε Res := do
  let plan ← Async.query fault (m.check c)
  let res ← Async.transaction fault (m.commit plan)
  Async.write fault (m.log plan res)
  return res

/-- The check and the transaction on one store, nothing failing in between. -/
def attempt (c : Call) (s : σ) : Except ε (Res × σ) := do
  let plan ← m.check c s
  m.commit plan s

/-- The transaction of a call that went through: its plan, what it returned, the store it left. -/
def committed (c : Call) (script : List Outcome) (s : σ) : Option (Plan × Res × σ) :=
  match (Async.next script).1 with
  | .failed => none
  | .done =>
    match m.check c s with
    | .error _ => none
    | .ok plan =>
      match (Async.next (Async.next script).2).1 with
      | .failed => none
      | .done =>
        match m.commit plan s with
        | .error _ => none
        | .ok (res, t) => some (plan, res, t)

/-- Whether the log entry of a call is written, when the call comes to it. -/
def logged (script : List Outcome) : Bool :=
  (Async.next (Async.next (Async.next script).2).2).1 == .done

variable {m fault}

theorem committed_spec {c : Call} {script : List Outcome} {s t : σ} {plan : Plan} {res : Res}
    (went : m.committed c script s = some (plan, res, t)) :
    m.check c s = .ok plan ∧ m.commit plan s = .ok (res, t) := by
  unfold committed at went
  split at went
  · exact absurd went (by simp)
  split at went
  · exact absurd went (by simp)
  rename_i plan' checks
  split at went
  · exact absurd went (by simp)
  split at went
  · exact absurd went (by simp)
  rename_i res' t' writes
  obtain ⟨rfl, rfl, rfl⟩ : plan' = plan ∧ res' = res ∧ t' = t := by simpa using went
  exact ⟨checks, writes⟩

/-- A call none of whose calls to the database fails goes through when its check and its transaction
do. -/
theorem committed_of_ok {c : Call} {s t : σ} {plan : Plan} {res : Res}
    (checks : m.check c s = .ok plan) (writes : m.commit plan s = .ok (res, t)) :
    m.committed c [] s = some (plan, res, t) := by
  unfold committed
  simp only [Async.next_nil, checks, writes]

/-- **What a call leaves.** Without its transaction the store stays as it was; with it, the log
entry may or may not follow. -/
theorem call_store (c : Call) (script : List Outcome) (s : σ) :
    (m.call fault c script s).store =
      match m.committed c script s with
      | none => s
      | some (plan, res, t) => if logged script then m.log plan res t else t := by
  unfold call committed
  cases first : (Async.next script).1 with
  | failed => rw [Async.bind_of_error (Async.query_failed first)]
  | done =>
    cases planned : m.check c s with
    | error e => rw [Async.bind_of_error (Async.query_error first planned)]
    | ok plan =>
      rw [Async.bind_of_ok (Async.query_ok first planned)]
      cases second : (Async.next (Async.next script).2).1 with
      | failed => rw [Async.bind_of_error (Async.transaction_failed second)]
      | done =>
        cases written : m.commit plan s with
        | error e =>
          rw [Async.bind_of_error (Async.transaction_error second written)]
          simp only [written]
        | ok pair =>
          rw [Async.bind_of_ok (Async.transaction_ok second written)]
          simp only [written]
          unfold Async.write logged
          cases third : (Async.next (Async.next (Async.next script).2).2).1 with
          | failed =>
            rw [Async.bind_of_error (Async.transaction_failed third)]
            rfl
          | done =>
            rw [Async.bind_of_ok (Async.transaction_ok third rfl)]
            rfl

variable (m)

/-! ### Calls in flight together -/

/-- One turn of the pool. -/
def turn (p : Pool σ Plan Res) (e : Turn Call) : Pool σ Plan Res :=
  match e with
  | .begin c =>
    match m.check c p.store with
    | .ok plan => { p with calls := p.calls ++ [.checked plan] }
    | .error _ => p
  | .advance k .failed => { p with calls := p.calls.set k .finished }
  | .advance k .done =>
    match p.calls[k]? with
    | some (.checked plan) =>
      match m.commit plan p.store with
      | .ok (res, t) => { store := t, calls := p.calls.set k (.committed plan res) }
      | .error _ => { p with calls := p.calls.set k .finished }
    | some (.committed plan res) =>
      { store := m.log plan res p.store, calls := p.calls.set k .finished }
    | _ => p

/-- The transaction a turn lets through: its plan, what it returns, the store it leaves. -/
def committing (p : Pool σ Plan Res) (e : Turn Call) : Option (Plan × Res × σ) :=
  match e with
  | .advance k .done =>
    match p.calls[k]? with
    | some (.checked plan) =>
      match m.commit plan p.store with
      | .ok (res, t) => some (plan, res, t)
      | .error _ => none
    | _ => none
  | _ => none

variable {m}

/-! ### How a turn unfolds -/

theorem turn_begin_ok {p : Pool σ Plan Res} {c : Call} {plan : Plan}
    (planned : m.check c p.store = .ok plan) :
    m.turn p (.begin c) = { p with calls := p.calls ++ [.checked plan] } := by
  simp only [turn, planned]

theorem turn_begin_error {p : Pool σ Plan Res} {c : Call} {e : ε}
    (refused : m.check c p.store = .error e) : m.turn p (.begin c) = p := by
  simp only [turn, refused]

theorem turn_failed (p : Pool σ Plan Res) (k : ℕ) :
    m.turn p (.advance k .failed) = { p with calls := p.calls.set k .finished } := rfl

theorem turn_refused {p : Pool σ Plan Res} {k : ℕ} {plan : Plan} {e : ε}
    (found : p.calls[k]? = some (.checked plan)) (refused : m.commit plan p.store = .error e) :
    m.turn p (.advance k .done) = { p with calls := p.calls.set k .finished } := by
  simp only [turn, found, refused]

theorem turn_commit {p : Pool σ Plan Res} {k : ℕ} {plan : Plan} {res : Res} {t : σ}
    (found : p.calls[k]? = some (.checked plan)) (writes : m.commit plan p.store = .ok (res, t)) :
    m.turn p (.advance k .done) =
      { store := t, calls := p.calls.set k (.committed plan res) } := by
  simp only [turn, found, writes]

theorem turn_log {p : Pool σ Plan Res} {k : ℕ} {plan : Plan} {res : Res}
    (found : p.calls[k]? = some (.committed plan res)) :
    m.turn p (.advance k .done) =
      { store := m.log plan res p.store, calls := p.calls.set k .finished } := by
  simp only [turn, found]

theorem turn_idle {p : Pool σ Plan Res} {k : ℕ}
    (idle : p.calls[k]? = none ∨ p.calls[k]? = some .finished) :
    m.turn p (.advance k .done) = p := by
  rcases idle with found | found
  · simp only [turn, found]
  · simp only [turn, found]

theorem committing_spec {p : Pool σ Plan Res} {e : Turn Call} {plan : Plan} {res : Res} {t : σ}
    (goes : m.committing p e = some (plan, res, t)) :
    .checked plan ∈ p.calls ∧ m.commit plan p.store = .ok (res, t) := by
  unfold committing at goes
  split at goes
  · split at goes
    · rename_i plan' found
      split at goes
      · rename_i res' t' writes
        obtain ⟨rfl, rfl, rfl⟩ : plan' = plan ∧ res' = res ∧ t' = t := by simpa using goes
        exact ⟨List.mem_of_getElem? found, writes⟩
      · exact absurd goes (by simp)
    · exact absurd goes (by simp)
  · exact absurd goes (by simp)

/-- A plan in flight after a call has moved on was in flight before. -/
theorem mem_of_mem_set {calls : List (Phase Plan Res)} {k : ℕ} {phase : Phase Plan Res}
    {plan : Plan} (moved : ∀ q, phase ≠ .checked q) (inside : .checked plan ∈ calls.set k phase) :
    .checked plan ∈ calls := by
  rcases List.mem_or_eq_of_mem_set inside with old | new
  · exact old
  · exact absurd new.symm (moved plan)

/-- **A turn that lets a transaction through** leaves its store and begins no call. -/
theorem turn_of_committing {p : Pool σ Plan Res} {e : Turn Call} {plan : Plan} {res : Res} {t : σ}
    (goes : m.committing p e = some (plan, res, t)) :
    (m.turn p e).store = t ∧
      ∀ other, .checked other ∈ (m.turn p e).calls → .checked other ∈ p.calls := by
  unfold committing at goes
  split at goes
  · split at goes
    · rename_i plan' found
      split at goes
      · rename_i res' t' writes
        obtain ⟨rfl, rfl, rfl⟩ : plan' = plan ∧ res' = res ∧ t' = t := by simpa using goes
        rw [turn_commit found writes]
        exact ⟨rfl, fun other inside => mem_of_mem_set (by simp) inside⟩
      · exact absurd goes (by simp)
    · exact absurd goes (by simp)
  · exact absurd goes (by simp)

/-- **A turn that lets no transaction through** begins a call, logs, or changes nothing. -/
theorem turn_of_not_committing {p : Pool σ Plan Res} {e : Turn Call}
    (stays : m.committing p e = none) :
    ((m.turn p e).store = p.store ∧ ∀ plan, .checked plan ∈ (m.turn p e).calls →
        .checked plan ∈ p.calls ∨ ∃ c, e = .begin c ∧ m.check c p.store = .ok plan) ∨
      ∃ plan res, (m.turn p e).store = m.log plan res p.store ∧
        ∀ other, .checked other ∈ (m.turn p e).calls → .checked other ∈ p.calls := by
  cases e with
  | begin c =>
    left
    cases planned : m.check c p.store with
    | error e =>
      rw [turn_begin_error planned]
      exact ⟨rfl, fun plan inside => .inl inside⟩
    | ok plan =>
      rw [turn_begin_ok planned]
      refine ⟨rfl, fun plan' inside => ?_⟩
      rcases List.mem_append.mp inside with old | new
      · exact .inl old
      · obtain rfl : plan' = plan := Phase.checked.inj (List.mem_singleton.mp new)
        exact .inr ⟨c, rfl, planned⟩
  | advance k outcome =>
    cases outcome with
    | failed =>
      rw [turn_failed]
      exact .inl ⟨rfl, fun plan inside => .inl (mem_of_mem_set (by simp) inside)⟩
    | done =>
      cases found : p.calls[k]? with
      | none =>
        rw [turn_idle (.inl found)]
        exact .inl ⟨rfl, fun plan inside => .inl inside⟩
      | some phase =>
        cases phase with
        | checked plan =>
          cases writes : m.commit plan p.store with
          | ok pair => simp [committing, found, writes] at stays
          | error e =>
            rw [turn_refused found writes]
            exact .inl ⟨rfl, fun plan' inside => .inl (mem_of_mem_set (by simp) inside)⟩
        | committed plan res =>
          rw [turn_log found]
          exact .inr ⟨plan, res, rfl, fun other inside => mem_of_mem_set (by simp) inside⟩
        | finished =>
          rw [turn_idle (.inr found)]
          exact .inl ⟨rfl, fun plan inside => .inl inside⟩

/-! ### Two methods over one store -/

section Sum

variable {Call' Plan' Res' : Type}

/-- Two methods over one store as one: its calls are the calls of either. -/
def sum (m : Method σ ε Call Plan Res) (n : Method σ ε Call' Plan' Res') :
    Method σ ε (Call ⊕ Call') (Plan ⊕ Plan') (Res ⊕ Res') where
  check c s :=
    match c with
    | .inl c => (m.check c s).map .inl
    | .inr c => (n.check c s).map .inr
  commit plan s :=
    match plan with
    | .inl plan => (m.commit plan s).map fun written => (.inl written.1, written.2)
    | .inr plan => (n.commit plan s).map fun written => (.inr written.1, written.2)
  log plan res s :=
    match plan, res with
    | .inl plan, .inl res => m.log plan res s
    | .inr plan, .inr res => n.log plan res s
    | _, _ => s

variable {n : Method σ ε Call' Plan' Res'}

theorem sum_check {c : Call ⊕ Call'} {s : σ} {plan : Plan ⊕ Plan'}
    (checked : (m.sum n).check c s = .ok plan) :
    (∃ d p, plan = .inl p ∧ m.check d s = .ok p) ∨ ∃ d p, plan = .inr p ∧ n.check d s = .ok p := by
  cases c with
  | inl d =>
    obtain ⟨p, first, rfl⟩ := map_eq_ok.mp checked
    exact .inl ⟨d, p, rfl, first⟩
  | inr d =>
    obtain ⟨p, second, rfl⟩ := map_eq_ok.mp checked
    exact .inr ⟨d, p, rfl, second⟩

theorem sum_commit {plan : Plan ⊕ Plan'} {s t : σ} {res : Res ⊕ Res'}
    (committed : (m.sum n).commit plan s = .ok (res, t)) :
    (∃ p r, plan = .inl p ∧ m.commit p s = .ok (r, t)) ∨
      ∃ p r, plan = .inr p ∧ n.commit p s = .ok (r, t) := by
  cases plan with
  | inl p =>
    obtain ⟨⟨r, t'⟩, first, same⟩ := map_eq_ok.mp committed
    obtain ⟨-, rfl⟩ := Prod.mk.inj same
    exact .inl ⟨p, r, rfl, first⟩
  | inr p =>
    obtain ⟨⟨r, t'⟩, second, same⟩ := map_eq_ok.mp committed
    obtain ⟨-, rfl⟩ := Prod.mk.inj same
    exact .inr ⟨p, r, rfl, second⟩

end Sum

/-- The store meets `inv`, and every plan in flight meets `plans` at that store. -/
structure Flight (inv : σ → Prop) (plans : Plan → σ → Prop) (p : Pool σ Plan Res) : Prop where
  store : inv p.store
  inFlight : ∀ plan, .checked plan ∈ p.calls → plans plan p.store

/-- **The rule of a pool.** A turn keeps the invariants when the check it passes, if any, establishes
that of its plan, log entries keep both, and the commit it lets through, if any, keeps both. -/
theorem turn_flight_of {inv : σ → Prop} {plans : Plan → σ → Prop}
    (logs : ∀ plan res s, inv s → inv (m.log plan res s) ∧
      ∀ other, plans other s → plans other (m.log plan res s))
    {p : Pool σ Plan Res} {e : Turn Call} (flight : Flight inv plans p)
    (checks : ∀ c plan, e = .begin c → m.check c p.store = .ok plan → plans plan p.store)
    (commits : ∀ plan res t, m.committing p e = some (plan, res, t) →
      inv t ∧ ∀ other, .checked other ∈ p.calls → plans other p.store → plans other t) :
    Flight inv plans (m.turn p e) := by
  cases goes : m.committing p e with
  | some went =>
    obtain ⟨plan, res, t⟩ := went
    obtain ⟨kept, others⟩ := commits plan res t goes
    obtain ⟨stored, old⟩ := turn_of_committing goes
    refine ⟨by rw [stored]; exact kept, fun plan' inside => ?_⟩
    rw [stored]
    exact others plan' (old plan' inside) (flight.inFlight plan' (old plan' inside))
  | none =>
    rcases turn_of_not_committing goes with ⟨same, origin⟩ | ⟨plan, res, same, old⟩
    · refine ⟨by rw [same]; exact flight.store, fun plan' inside => ?_⟩
      rw [same]
      rcases origin plan' inside with old | ⟨c, begun, planned⟩
      · exact flight.inFlight plan' old
      · exact checks c plan' begun planned
    · obtain ⟨kept, others⟩ := logs plan res p.store flight.store
      refine ⟨by rw [same]; exact kept, fun plan' inside => ?_⟩
      rw [same]
      exact others plan' (flight.inFlight plan' (old plan' inside))

/-- The rule of a pool, for checks that establish the invariant of their plan on every store. -/
theorem turn_flight {inv : σ → Prop} {plans : Plan → σ → Prop}
    (checks : ∀ c s plan, inv s → m.check c s = .ok plan → plans plan s)
    (logs : ∀ plan res s, inv s → inv (m.log plan res s) ∧
      ∀ other, plans other s → plans other (m.log plan res s))
    {p : Pool σ Plan Res} {e : Turn Call} (flight : Flight inv plans p)
    (commits : ∀ plan res t, m.committing p e = some (plan, res, t) →
      inv t ∧ ∀ other, plans other p.store → plans other t) :
    Flight inv plans (m.turn p e) := by
  refine turn_flight_of logs flight ?_ ?_
  · exact fun c plan _ planned => checks c p.store plan flight.store planned
  · intro plan res t goes
    obtain ⟨kept, others⟩ := commits plan res t goes
    exact ⟨kept, fun other _ => others other⟩

end Method

end AcadID.Lib
