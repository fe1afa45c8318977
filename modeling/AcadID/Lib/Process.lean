/-
**Programs that run step by step, any number of them over one store.**

A `Machine` says where a call starts and what one step, a single call to the database, makes of a
program and of the store.

* `Machine.turn` — one turn of a crowd: a call begins, or one of its programs takes a step.
* `turn_keeps` — **the rule of a crowd**: an invariant of the store and one of every program.
* `Once` — at most one program has a property; `turn_once` keeps it, when a program comes to have it
  only while something is not yet over, and thereby ends it.
* `countP_set_add` — how many programs have a property, when one of them takes a step.
* `Residual` — what is left of an asynchronous program at each step of a machine; `run_eq_alone` —
  **the asynchronous program is the machine run alone**.
-/

import AcadID.Lib.Method

namespace AcadID.Lib

/-- Programs `P` over the store `σ`, one call to it a step. -/
structure Machine (σ Call P : Type) where
  start : Call → P
  step : Outcome → P → σ → P × σ

/-- A store, and the programs that run over it. -/
structure Crowd (σ P : Type) where
  store : σ
  programs : List P

/-- At most one of the programs has the property. -/
def Once {P : Type} (has : P → Prop) (programs : List P) : Prop :=
  ∀ (i j : ℕ) x y, programs[i]? = some x → programs[j]? = some y → has x → has y → i = j

/-- **One program in the place of another** changes a count by the two of them. -/
theorem countP_set_add {P : Type} (has : P → Bool) {programs : List P} {k : ℕ} {x : P}
    (found : programs[k]? = some x) (y : P) :
    (programs.set k y).countP has + (if has x then 1 else 0) =
      programs.countP has + if has y then 1 else 0 := by
  obtain ⟨inside, rfl⟩ := List.getElem?_eq_some_iff.mp found
  have counted : (if has programs[k] then 1 else 0) ≤ programs.countP has := by
    split_ifs with is
    · exact List.countP_pos_iff.mpr ⟨_, List.getElem_mem inside, is⟩
    · exact Nat.zero_le _
  rw [List.countP_set inside]
  omega

namespace Machine

variable {σ Call P : Type} (m : Machine σ Call P)

/-- One turn of a crowd. -/
def turn (p : Crowd σ P) (e : Turn Call) : Crowd σ P :=
  match e with
  | .begin c => { p with programs := p.programs ++ [m.start c] }
  | .advance k outcome =>
    match p.programs[k]? with
    | some x =>
      let after := m.step outcome x p.store
      { store := after.2, programs := p.programs.set k after.1 }
    | none => p

variable {m}

theorem turn_advance {p : Crowd σ P} {k : ℕ} {outcome : Outcome} {x : P}
    (found : p.programs[k]? = some x) :
    m.turn p (.advance k outcome) =
      { store := (m.step outcome x p.store).2
        programs := p.programs.set k (m.step outcome x p.store).1 } := by
  simp only [turn, found]

theorem turn_nobody {p : Crowd σ P} {k : ℕ} {outcome : Outcome} (nobody : p.programs[k]? = none) :
    m.turn p (.advance k outcome) = p := by
  simp only [turn, nobody]

/-- The store meets `inv`, and every program meets `each` at that store. -/
structure Keeping (inv : σ → Prop) (each : P → σ → Prop) (p : Crowd σ P) : Prop where
  store : inv p.store
  programs : ∀ x ∈ p.programs, each x p.store

/-- **The rule of a crowd.** A turn keeps the invariants when a call that begins meets that of a
program, and the step this turn takes keeps the invariant of the store, establishes that of its
program and keeps that of the others. -/
theorem turn_keeps {inv : σ → Prop} {each : P → σ → Prop} {p : Crowd σ P} {e : Turn Call}
    (keeping : Keeping inv each p) (starts : ∀ c, e = .begin c → each (m.start c) p.store)
    (steps : ∀ k outcome x, e = .advance k outcome → x ∈ p.programs → each x p.store →
      inv (m.step outcome x p.store).2 ∧
        each (m.step outcome x p.store).1 (m.step outcome x p.store).2 ∧
          ∀ y ∈ p.programs, each y p.store → each y (m.step outcome x p.store).2) :
    Keeping inv each (m.turn p e) := by
  cases e with
  | begin c =>
    refine ⟨keeping.store, fun x inside => ?_⟩
    rcases List.mem_append.mp inside with old | new
    · exact keeping.programs x old
    · rw [List.mem_singleton.mp new]
      exact starts c rfl
  | advance k outcome =>
    cases found : p.programs[k]? with
    | none =>
      rw [turn_nobody found]
      exact keeping
    | some x =>
      have here := List.mem_of_getElem? found
      obtain ⟨kept, own, others⟩ := steps k outcome x rfl here (keeping.programs x here)
      rw [turn_advance found]
      refine ⟨kept, fun y inside => ?_⟩
      rcases List.mem_or_eq_of_mem_set inside with old | new
      · exact others y old (keeping.programs y old)
      · rw [new]
        exact own

/-- **At most one program comes to have a property** that ends what it needs to come about. -/
theorem turn_once {has : P → Prop} {closed : σ → Prop} {p : Crowd σ P} {e : Turn Call}
    (starts : ∀ c, ¬ has (m.start c))
    (enters : ∀ k outcome x, e = .advance k outcome → p.programs[k]? = some x → ¬ has x →
      has (m.step outcome x p.store).1 → ¬ closed p.store ∧ closed (m.step outcome x p.store).2)
    (stays : ∀ outcome x, closed p.store → closed (m.step outcome x p.store).2)
    (once : Once has p.programs) (ended : ∀ x ∈ p.programs, has x → closed p.store) :
    Once has (m.turn p e).programs ∧
      ∀ x ∈ (m.turn p e).programs, has x → closed (m.turn p e).store := by
  cases e with
  | begin c =>
    constructor
    · intro i j x y here there hasX hasY
      have old : ∀ (i : ℕ) x, (p.programs ++ [m.start c])[i]? = some x → has x →
          p.programs[i]? = some x := by
        intro i x found has
        by_cases before : i < p.programs.length
        · rw [List.getElem?_append_left before] at found
          exact found
        · rw [List.getElem?_append_right (Nat.le_of_not_lt before)] at found
          have last := List.mem_of_getElem? found
          rw [List.mem_singleton.mp last] at has
          exact absurd has (starts c)
      exact once i j x y (old i x here hasX) (old j y there hasY) hasX hasY
    · intro x inside has
      rcases List.mem_append.mp inside with old | new
      · exact ended x old has
      · rw [List.mem_singleton.mp new] at has
        exact absurd has (starts c)
  | advance k outcome =>
    cases found : p.programs[k]? with
    | none =>
      rw [turn_nobody found]
      exact ⟨once, ended⟩
    | some x =>
      rw [turn_advance found]
      -- Where the program that moves had the property not, it has it now only if none else has.
      have others : ∀ y ∈ p.programs, has y → closed (m.step outcome x p.store).2 := fun y inside is =>
        stays outcome x (ended y inside is)
      constructor
      · have alone : has (m.step outcome x p.store).1 → ∀ i y, i ≠ k → p.programs[i]? = some y →
            ¬ has y := by
          intro now i y other there is
          by_cases before : has x
          · exact other (once i k y x there found is before)
          · exact (enters k outcome x rfl found before now).1
              (ended y (List.mem_of_getElem? there) is)
        intro i j y z here there hasY hasZ
        rw [List.getElem?_set] at here there
        by_cases first : k = i
        · by_cases second : k = j
          · exact first.symm.trans second
          · rw [if_pos first] at here
            rw [if_neg second] at there
            split at here
            · rw [← Option.some.inj here] at hasY
              exact absurd hasZ (alone hasY j z (Ne.symm second) there)
            · exact absurd here (by simp)
        · rw [if_neg first] at here
          by_cases second : k = j
          · rw [if_pos second] at there
            split at there
            · rw [← Option.some.inj there] at hasZ
              exact absurd hasY (alone hasZ i y (Ne.symm first) here)
            · exact absurd there (by simp)
          · rw [if_neg second] at there
            exact once i j y z here there hasY hasZ
      · intro y inside is
        rcases List.mem_or_eq_of_mem_set inside with old | new
        · exact others y old is
        · rw [new] at is
          by_cases before : has x
          · exact others x (List.mem_of_getElem? found) before
          · exact (enters k outcome x rfl found before is).2

/-! ### A machine alone -/

section Alone

variable {ε α : Type}

/-- What is left of a program at each step: nothing once it has ended, and else a call that the step
makes, with what is left after it. -/
structure Residual (m : Machine σ Call P) (ended : P → Option (Except ε α))
    (rest : P → Async σ ε α) (left : P → ℕ) : Prop where
  result : ∀ x r, ended x = some r → ∀ script s, rest x script s = ⟨r, script, s⟩
  step : ∀ x, ended x = none → ∀ script s, rest x script s =
    rest (m.step (Async.next script).1 x s).1 (Async.next script).2
      (m.step (Async.next script).1 x s).2
  left : ∀ x, ended x = none → ∀ outcome s, left (m.step outcome x s).1 < left x

variable (m)

/-- The machine run alone for some steps, from a program. -/
def alone (ended : P → Option (Except ε α)) : ℕ → P → List Outcome → σ → P × List Outcome × σ
  | 0, x, script, s => (x, script, s)
  | n + 1, x, script, s =>
    if (ended x).isSome then (x, script, s)
    else
      let after := m.step (Async.next script).1 x s
      alone ended n after.1 (Async.next script).2 after.2

variable {m} {ended : P → Option (Except ε α)} {rest : P → Async σ ε α} {left : P → ℕ}

/-- **The asynchronous program is the machine run alone**: the machine comes to an end, at which
it has the program's result and has left the program's store. -/
theorem run_eq_alone (residual : Residual m ended rest left) (n : ℕ) (x : P)
    (enough : left x < n) (script : List Outcome) (s : σ) :
    ∃ r, ended (m.alone ended n x script s).1 = some r ∧
      rest x script s =
        ⟨r, (m.alone ended n x script s).2.1, (m.alone ended n x script s).2.2⟩ := by
  induction n generalizing x script s with
  | zero => exact absurd enough (Nat.not_lt_zero _)
  | succ n ih =>
    unfold alone
    cases over_ : ended x with
    | some r =>
      rw [if_pos (Option.isSome_some)]
      exact ⟨r, over_, residual.result x r over_ script s⟩
    | none =>
      rw [if_neg (show ¬ (none : Option (Except ε α)).isSome = true by simp),
        residual.step x over_ script s]
      have shorter := residual.left x over_ (Async.next script).1 s
      exact ih _ (by omega) _ _

end Alone

end Machine

end AcadID.Lib
