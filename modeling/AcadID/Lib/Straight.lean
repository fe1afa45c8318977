/-
**Programs whose calls all go through unless one fails.**

A straight program at a store makes a fixed sequence of calls, each of which goes through when it is
not failed. What it leaves depends on the first call that fails, if any.

* `Straight fault x s after a` — `x`, at `s`, returns `a` through the stores `after`, one for each of
  its calls; `straight_bind` composes.
* `FirstFailure i script` — the call `i` is the first to fail.
* `straight_cases` — **how a straight program ends**: at its first failed call, or at its end.
-/

import AcadID.Lib.Async

namespace AcadID.Lib.Async

variable {σ ε α β : Type}

/-! ### The first failed call -/

/-- The outcome of the call `i`; beyond the script every call is done. -/
def outcomeAt (script : List Outcome) (i : ℕ) : Outcome :=
  script.getD i .done

/-- The call `i` fails, and none before it. -/
def FirstFailure (i : ℕ) (script : List Outcome) : Prop :=
  outcomeAt script i = .failed ∧ ∀ j < i, outcomeAt script j = .done

/-- The first `n` calls are done. -/
def AllDone (n : ℕ) (script : List Outcome) : Prop :=
  ∀ j < n, outcomeAt script j = .done

theorem outcomeAt_drop (script : List Outcome) (n i : ℕ) :
    outcomeAt (script.drop n) i = outcomeAt script (n + i) := by
  unfold outcomeAt
  simp [List.getD_eq_getElem?_getD]

theorem next_fst (script : List Outcome) : (next script).1 = outcomeAt script 0 := by
  cases script <;> rfl

theorem next_snd (script : List Outcome) : (next script).2 = script.drop 1 := by
  cases script <;> rfl

/-- There is one first failure. -/
theorem firstFailure_unique {i j : ℕ} {script : List Outcome} (one : FirstFailure i script)
    (other : FirstFailure j script) : i = j := by
  rcases Nat.lt_trichotomy i j with before | same | after
  · exact absurd ((other.2 i before).symm.trans one.1) (by decide)
  · exact same
  · exact absurd ((one.2 j after).symm.trans other.1) (by decide)

/-- A first failure lies behind the calls that are done. -/
theorem le_of_firstFailure {n i : ℕ} {script : List Outcome} (done : AllDone n script)
    (fails : FirstFailure i script) : n ≤ i := by
  by_contra before
  exact absurd ((done i (by omega)).symm.trans fails.1) (by decide)

theorem firstFailure_drop {n i : ℕ} {script : List Outcome} (done : AllDone n script) :
    FirstFailure i (script.drop n) ↔ FirstFailure (n + i) script := by
  unfold FirstFailure
  constructor
  · rintro ⟨fails, before⟩
    refine ⟨by rw [← outcomeAt_drop]; exact fails, fun j earlier => ?_⟩
    by_cases first : j < n
    · exact done j first
    · have here := before (j - n) (by omega)
      rw [outcomeAt_drop] at here
      rw [show j = n + (j - n) by omega]
      exact here
  · rintro ⟨fails, before⟩
    refine ⟨by rw [outcomeAt_drop]; exact fails, fun j earlier => ?_⟩
    rw [outcomeAt_drop]
    exact before (n + j) (by omega)

theorem allDone_add {n m : ℕ} {script : List Outcome} (done : AllDone n script)
    (more : AllDone m (script.drop n)) : AllDone (n + m) script := by
  intro j earlier
  by_cases first : j < n
  · exact done j first
  · have here := more (j - n) (by omega)
    rw [outcomeAt_drop] at here
    rw [show j = n + (j - n) by omega]
    exact here

/-! ### Straight programs -/

/-- The store that is there after `i` of the calls. -/
def storeAt : σ → List σ → ℕ → σ
  | s, _, 0 => s
  | s, [], _ + 1 => s
  | _, t :: after, i + 1 => storeAt t after i

/-- How a straight program ends. -/
def endsAlong (fault : ε) (a : α) : σ → List σ → List Outcome → Ended σ ε α
  | s, [], script => ⟨.ok a, script, s⟩
  | s, t :: after, script =>
    match (next script).1 with
    | .done => endsAlong fault a t after (next script).2
    | .failed => ⟨.error fault, (next script).2, s⟩

/-- At `s` the program makes a call for each of the stores `after`, which it leaves in turn, and
returns `a`; a failed call throws `fault` and ends it. -/
def Straight (fault : ε) (x : Async σ ε α) (s : σ) (after : List σ) (a : α) : Prop :=
  ∀ script, x script s = endsAlong fault a s after script

variable {fault : ε}

theorem straight_pure (a : α) (s : σ) : Straight fault (pure a) s [] a :=
  fun _ => rfl

theorem straight_transaction {f : σ → Except ε (α × σ)} {s t : σ} {a : α}
    (commits : f s = .ok (a, t)) : Straight fault (transaction fault f) s [t] a := by
  intro script
  unfold endsAlong
  cases outcome : (next script).1 with
  | failed => rw [transaction_failed outcome]
  | done =>
    rw [transaction_ok outcome commits]
    rfl

theorem straight_query {f : σ → Except ε α} {s : σ} {a : α} (reads : f s = .ok a) :
    Straight fault (query fault f) s [s] a := by
  refine straight_transaction ?_
  rw [reads]
  rfl

theorem straight_write (f : σ → σ) (s : σ) : Straight fault (write fault f) s [f s] () :=
  straight_transaction rfl

/-- **Straight programs compose.** -/
theorem straight_bind {x : Async σ ε α} {f : α → Async σ ε β} {s : σ} {after after' : List σ}
    {a : α} {b : β} (first : Straight fault x s after a)
    (second : Straight fault (f a) (after.getLastD s) after' b) :
    Straight fault (x >>= f) s (after ++ after') b := by
  intro script
  rw [bind_apply, first script]
  clear first
  induction after generalizing s script with
  | nil => exact second script
  | cons t after ih =>
    rw [List.cons_append]
    unfold endsAlong
    cases outcome : (next script).1 with
    | failed => rfl
    | done =>
      refine ih ?_ (next script).2
      rw [List.getLastD_cons] at second
      exact second

@[simp] theorem storeAt_zero (s : σ) (after : List σ) : storeAt s after 0 = s := by
  cases after <;> rfl

@[simp] theorem storeAt_succ (s t : σ) (after : List σ) (i : ℕ) :
    storeAt s (t :: after) (i + 1) = storeAt t after i := rfl

/-- **How a straight program ends**: at its first failed call, or at its end. -/
theorem straight_cases {x : Async σ ε α} {s : σ} {after : List σ} {a : α}
    (straight : Straight fault x s after a) (script : List Outcome) :
    (∃ i < after.length, FirstFailure i script ∧
        x script s = ⟨.error fault, script.drop (i + 1), storeAt s after i⟩) ∨
      (AllDone after.length script ∧
        x script s = ⟨.ok a, script.drop after.length, storeAt s after after.length⟩) := by
  rw [straight script]
  clear straight
  induction after generalizing s script with
  | nil =>
    right
    exact ⟨fun j inside => absurd inside (by simp), rfl⟩
  | cons t after ih =>
    unfold endsAlong
    cases outcome : (next script).1 with
    | failed =>
      left
      rw [next_fst] at outcome
      refine ⟨0, by simp, ⟨outcome, fun j inside => absurd inside (by omega)⟩, ?_⟩
      rw [next_snd]
      rfl
    | done =>
      rw [next_fst] at outcome
      have first : AllDone 1 script := by
        intro j inside
        obtain rfl : j = 0 := by omega
        exact outcome
      rcases ih (next script).2 with ⟨i, inside, fails, ended⟩ | ⟨done, ended⟩
      · left
        rw [next_snd] at fails ended
        refine ⟨i + 1, by simp; omega, ?_, ?_⟩
        · rw [Nat.add_comm i 1]
          exact (firstFailure_drop first).mp fails
        · rw [next_snd]
          show endsAlong fault a t after (script.drop 1) = _
          rw [ended, List.drop_drop, storeAt_succ, show 1 + (i + 1) = i + 1 + 1 by omega]
      · right
        rw [next_snd] at done ended
        refine ⟨?_, ?_⟩
        · rw [List.length_cons, Nat.add_comm]
          exact allDone_add first done
        · rw [next_snd]
          show endsAlong fault a t after (script.drop 1) = _
          rw [ended, List.drop_drop, List.length_cons, storeAt_succ, Nat.add_comm 1]

theorem straight_map {x : Async σ ε α} {s : σ} {after : List σ} {a : α} (f : α → β)
    (straight : Straight fault x s after a) : Straight fault (f <$> x) s after (f a) := by
  have mapped : Straight fault (x >>= fun b => pure (f b)) s (after ++ []) (f a) :=
    straight_bind straight (straight_pure (f a) (after.getLastD s))
  rw [List.append_nil] at mapped
  exact mapped

/-- A store on the way is the first one or one that a call left. -/
theorem storeAt_mem (s : σ) (after : List σ) (i : ℕ) : storeAt s after i ∈ s :: after := by
  induction after generalizing s i with
  | nil => cases i <;> simp [storeAt]
  | cons t after ih =>
    cases i with
    | zero => simp
    | succ i => exact List.mem_cons_of_mem _ (ih t i)

theorem storeAt_succ_mem (s : σ) {after : List σ} {i : ℕ} (inside : i < after.length) :
    storeAt s after (i + 1) ∈ after := by
  cases after with
  | nil => exact absurd inside (by simp)
  | cons t after => exact storeAt_mem t after i

/-- Calls that leave the store as it is, before others. -/
theorem storeAt_replicate (s : σ) (n : ℕ) (rest : List σ) (i : ℕ) :
    storeAt s (List.replicate n s ++ rest) i = storeAt s rest (i - n) := by
  induction n generalizing i with
  | zero => rfl
  | succ n ih =>
    cases i with
    | zero => simp
    | succ i =>
      rw [List.replicate_succ, List.cons_append, storeAt_succ, ih, Nat.add_sub_add_right]

/-- The stores that a program leaves, before one more call is made. -/
theorem storeAt_append {s : σ} {after : List σ} {i : ℕ} (inside : i ≤ after.length)
    (more : List σ) : storeAt s (after ++ more) i = storeAt s after i := by
  induction after generalizing s i with
  | nil =>
    obtain rfl : i = 0 := by simpa using inside
    simp
  | cons t after ih =>
    cases i with
    | zero => simp
    | succ i => exact ih (by simpa using inside)

theorem storeAt_length (s : σ) (after : List σ) : storeAt s after after.length = after.getLastD s := by
  induction after generalizing s with
  | nil => rfl
  | cons t after ih =>
    rw [List.length_cons, storeAt_succ, ih, List.getLastD_cons]

end AcadID.Lib.Async
