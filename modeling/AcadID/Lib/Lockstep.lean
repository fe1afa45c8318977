/-
**One program over two stores.**

* `Agree R` — two outcomes of a step that are the same, with stores related by `R`.
* `Lockstep R R' x` — from stores related by `R` and under one script `x` returns the same and
  leaves stores related by `R'`; `Respects R x` when the relation is one.
* `lockstep_bind`, `lockstep_transaction`, `respects_query` and `respects_tryCatch` are the rules;
  `respects_query_bind` is the one for a read whose answer what follows depends on.
-/

import AcadID.Lib.Async

namespace AcadID.Lib

variable {σ ε α β : Type}

/-- Both steps fail alike, or return the same and leave related stores. -/
def Agree (R : σ → σ → Prop) : Except ε (α × σ) → Except ε (α × σ) → Prop
  | .ok (a, s), .ok (b, t) => a = b ∧ R s t
  | .error e, .error e' => e = e'
  | _, _ => False

/-- Steps that begin with the same check agree when what follows does. -/
theorem agree_bind {R : σ → σ → Prop} {x y : Except ε β} {f g : β → Except ε (α × σ)} (same : x = y)
    (rest : ∀ b, y = .ok b → Agree R (f b) (g b)) : Agree R (x >>= f) (y >>= g) := by
  subst same
  cases result : x with
  | error e => rfl
  | ok b => exact rest b result

namespace Async

/-- From stores related by `R`, under one script, the program returns the same and leaves stores
related by `R'`. -/
def Lockstep (R R' : σ → σ → Prop) (x : Async σ ε α) : Prop :=
  ∀ script s t, R s t → (x script s).result = (x script t).result ∧
    (x script s).script = (x script t).script ∧ R' (x script s).store (x script t).store

abbrev Respects (R : σ → σ → Prop) (x : Async σ ε α) : Prop :=
  Lockstep R R x

variable {R R' : σ → σ → Prop}

theorem respects_pure (a : α) : Respects R (pure a : Async σ ε α) :=
  fun _ _ _ related => ⟨rfl, rfl, related⟩

theorem respects_throw (e : ε) : Respects R (throw e : Async σ ε α) :=
  fun _ _ _ related => ⟨rfl, rfl, related⟩

/-- **The rule of sequencing.** What is known of the answers of the first part is known to what
follows. -/
theorem lockstep_bind {x : Async σ ε α} {f : α → Async σ ε β} {P : α → Prop}
    (first : Lockstep R R' x) (answers : ∀ s, x.Ensures s fun r _ => ∀ a, r = .ok a → P a)
    (second : ∀ a, P a → Respects R' (f a)) : Lockstep R R' (x >>= f) := by
  intro script s t related
  obtain ⟨results, scripts, stores⟩ := first script s t related
  have known := answers t script
  rw [bind_apply, bind_apply, results, scripts]
  cases result : (x script t).result with
  | error e => exact ⟨rfl, rfl, stores⟩
  | ok a => exact second a (known a result) _ _ _ stores

theorem respects_bind {x : Async σ ε α} {f : α → Async σ ε β} (first : Lockstep R R' x)
    (second : ∀ a, Respects R' (f a)) : Lockstep R R' (x >>= f) :=
  lockstep_bind (P := fun _ => True) first (fun _ _ _ _ => trivial) fun a _ => second a

theorem respects_ofExcept (x : Except ε α) : Respects R (ofExcept x : Async σ ε α) := by
  cases x with
  | ok a => exact respects_pure a
  | error e => exact respects_throw e

/-- **The rule of a caught throw.** -/
theorem respects_tryCatch {x : Async σ ε α} {handler : ε → Async σ ε α} (first : Respects R x)
    (second : ∀ e, Respects R (handler e)) : Respects R (tryCatch x handler : Async σ ε α) := by
  intro script s t related
  obtain ⟨results, scripts, stores⟩ := first script s t related
  rw [tryCatch_apply, tryCatch_apply, results, scripts]
  cases (x script t).result with
  | ok a => exact ⟨rfl, rfl, stores⟩
  | error e => exact second e _ _ _ stores

/-- **The rule of a transaction.** -/
theorem lockstep_transaction {fault : ε} {f : σ → Except ε (α × σ)}
    (stays : ∀ s t, R s t → R' s t) (agrees : ∀ s t, R s t → Agree R' (f s) (f t)) :
    Lockstep R R' (transaction fault f) := by
  intro script s t related
  cases outcome : (next script).1 with
  | failed =>
    rw [transaction_failed outcome, transaction_failed outcome]
    exact ⟨rfl, rfl, stays s t related⟩
  | done =>
    have here := agrees s t related
    cases left : f s with
    | error e =>
      cases right : f t with
      | error e' =>
        rw [left, right] at here
        obtain rfl : e = e' := here
        rw [transaction_error outcome left, transaction_error outcome right]
        exact ⟨rfl, rfl, stays s t related⟩
      | ok b =>
        rw [left, right] at here
        exact here.elim
    | ok a =>
      cases right : f t with
      | error e' =>
        rw [left, right] at here
        exact here.elim
      | ok b =>
        rw [left, right] at here
        obtain ⟨a, s'⟩ := a
        obtain ⟨b, t'⟩ := b
        obtain ⟨rfl, stores⟩ := here
        rw [transaction_ok outcome left, transaction_ok outcome right]
        exact ⟨rfl, rfl, stores⟩

/-- **The rule of a read.** -/
theorem respects_query {fault : ε} {f : σ → Except ε α} (same : ∀ s t, R s t → f s = f t) :
    Respects R (query fault f) := by
  refine lockstep_transaction (fun _ _ related => related) fun s t related => ?_
  rw [same s t related]
  cases f t with
  | error e => rfl
  | ok a => exact ⟨rfl, related⟩

/-- **A read whose answer is remembered** by what follows. -/
theorem respects_query_bind {fault : ε} {f : σ → α} {g : α → Async σ ε β}
    (same : ∀ s t, R s t → f s = f t)
    (rest : ∀ a, Lockstep (fun s t => R s t ∧ f s = a ∧ f t = a) R (g a)) :
    Respects R (query fault (fun s => .ok (f s)) >>= g) := by
  intro script s t related
  have same := same s t related
  cases outcome : (next script).1 with
  | failed =>
    have left : query fault (fun s => .ok (f s)) script s = ⟨.error fault, (next script).2, s⟩ :=
      query_failed outcome
    have right : query fault (fun s => .ok (f s)) script t = ⟨.error fault, (next script).2, t⟩ :=
      query_failed outcome
    rw [bind_of_error left g, bind_of_error right g]
    exact ⟨rfl, rfl, related⟩
  | done =>
    have left : query fault (fun s => .ok (f s)) script s = ⟨.ok (f s), (next script).2, s⟩ :=
      query_ok outcome rfl
    have right : query fault (fun s => .ok (f s)) script t = ⟨.ok (f t), (next script).2, t⟩ :=
      query_ok outcome rfl
    rw [bind_of_ok left g, bind_of_ok right g, ← same]
    exact rest (f s) _ s t ⟨related, rfl, same.symm⟩

end Async

end AcadID.Lib
