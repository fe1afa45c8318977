/-
**Asynchronous programs over one store, whose every call may fail.**

A program of `Async σ ε α` reads and writes a store `σ` through calls. Each call draws the next
`Outcome` of a script: `done` lets it happen, `failed` leaves the store as it is and throws. A
script that has run out means that every further call is done.

* `query`, `transaction` and `write` are the calls; `tryCatch` catches a throw without undoing
  what was written before it.
* `Ensures x s Q` — whatever the script, `x` started at `s` ends with `Q`; `ensures_bind`,
  `ensures_query`, `ensures_transaction` and `ensures_tryCatch` are its rules.
-/

import Mathlib.Data.List.Basic
import Mathlib.Data.List.Forall2

namespace AcadID.Lib

/-- A sequence of fallible steps succeeds exactly when each of them does. -/
theorem bind_eq_ok {ε α β : Type} {x : Except ε α} {f : α → Except ε β} {b : β} :
    (x >>= f) = .ok b ↔ ∃ a, x = .ok a ∧ f a = .ok b := by
  cases x with
  | error e => simp [bind, Except.bind]
  | ok a => simp [bind, Except.bind]

theorem pure_eq_ok {ε α : Type} {a b : α} : (pure a : Except ε α) = .ok b ↔ a = b := by
  simp [pure, Except.pure]

/-- A result that is there when it is looked at is one that was returned. -/
theorem of_toOption {ε α β : Type} {x : Except ε α} {f : α → β} {b : β}
    (is : x.toOption.map f = some b) : ∃ a, x = .ok a ∧ f a = b := by
  cases x with
  | error e => exact absurd is (by simp [Except.toOption])
  | ok a => exact ⟨a, rfl, Option.some.inj is⟩

theorem map_eq_ok {ε α β : Type} {x : Except ε α} {f : α → β} {b : β} :
    x.map f = .ok b ↔ ∃ a, x = .ok a ∧ f a = b := by
  cases x <;> simp [Except.map]

/-- **A fallible map goes through** with the results of its items, one by one. -/
theorem mapM_eq_ok {ε α β : Type} {f : α → Except ε β} {as : List α} {bs : List β} :
    as.mapM f = .ok bs ↔ List.Forall₂ (fun a b => f a = .ok b) as bs := by
  induction as generalizing bs with
  | nil =>
    rw [List.mapM_nil, pure_eq_ok, List.forall₂_nil_left_iff]
    exact eq_comm
  | cons a as ih =>
    rw [List.mapM_cons, bind_eq_ok, List.forall₂_cons_left_iff]
    constructor
    · rintro ⟨b, first, rest⟩
      obtain ⟨others, went, same⟩ := bind_eq_ok.mp rest
      rw [pure_eq_ok] at same
      exact ⟨b, others, first, ih.mp went, same.symm⟩
    · rintro ⟨b, others, first, went, rfl⟩
      exact ⟨b, first, bind_eq_ok.mpr ⟨others, ih.mpr went, rfl⟩⟩

/-- Items are related to some others, one by one, when each is to one. -/
theorem exists_forall₂ {α β : Type} {R : α → β → Prop} {as : List α} :
    (∃ bs, List.Forall₂ R as bs) ↔ ∀ a ∈ as, ∃ b, R a b := by
  induction as with
  | nil => simp
  | cons a as ih =>
    rw [List.forall_mem_cons, ← ih]
    constructor
    · rintro ⟨bs, each⟩
      obtain ⟨b, others, first, rest, -⟩ := List.forall₂_cons_left_iff.mp each
      exact ⟨⟨b, first⟩, others, rest⟩
    · rintro ⟨⟨b, first⟩, others, rest⟩
      exact ⟨b :: others, .cons first rest⟩

/-- A fallible map goes through exactly when each of its items does. -/
theorem exists_mapM_eq_ok {ε α β : Type} {f : α → Except ε β} {as : List α} :
    (∃ bs, as.mapM f = .ok bs) ↔ ∀ a ∈ as, ∃ b, f a = .ok b := by
  simp only [mapM_eq_ok]
  exact exists_forall₂

/-- A fallible map succeeds only with the results of its items. -/
theorem mem_of_mapM_ok {ε α β : Type} {f : α → Except ε β} {as : List α} {bs : List β}
    (mapped : as.mapM f = .ok bs) : ∀ b ∈ bs, ∃ a ∈ as, f a = .ok b := by
  induction as generalizing bs with
  | nil =>
    rw [List.mapM_nil, pure_eq_ok] at mapped
    rw [← mapped]
    exact fun b inside => absurd inside (by simp)
  | cons a as ih =>
    rw [List.mapM_cons, bind_eq_ok] at mapped
    obtain ⟨b, first, rest⟩ := mapped
    obtain ⟨bs', others, same⟩ := bind_eq_ok.mp rest
    rw [pure_eq_ok] at same
    intro c inside
    rw [← same] at inside
    rcases List.mem_cons.mp inside with here | there
    · exact ⟨a, by simp, here ▸ first⟩
    · obtain ⟨a', member, found⟩ := ih others c there
      exact ⟨a', by simp [member], found⟩

/-- What `g` reads off the results of a fallible map is what `h` reads off its arguments, item by
item. -/
theorem map_eq_of_mapM_ok {ε α β γ : Type} {f : α → Except ε β} {g : β → γ} {h : α → γ}
    (reads : ∀ a b, f a = .ok b → g b = h a) {as : List α} {bs : List β}
    (mapped : as.mapM f = .ok bs) : bs.map g = as.map h := by
  induction as generalizing bs with
  | nil =>
    rw [List.mapM_nil, pure_eq_ok] at mapped
    rw [← mapped]
    rfl
  | cons a as ih =>
    rw [List.mapM_cons, bind_eq_ok] at mapped
    obtain ⟨b, first, rest⟩ := mapped
    obtain ⟨bs', others, same⟩ := bind_eq_ok.mp rest
    rw [pure_eq_ok] at same
    rw [← same, List.map_cons, List.map_cons, reads a b first, ih others]

/-- A fallible map that `g` undoes, item by item, is undone by `g`. -/
theorem map_of_mapM_ok {ε α β : Type} {f : α → Except ε β} {g : β → α}
    (undone : ∀ a b, f a = .ok b → g b = a) {as : List α} {bs : List β}
    (mapped : as.mapM f = .ok bs) : bs.map g = as := by
  rw [map_eq_of_mapM_ok (h := id) undone mapped, List.map_id]

/-- A fallible map that goes through has dropped nothing. -/
theorem filterMap_of_mapM_ok {ε α β : Type} {f : α → Except ε β} {as : List α} {bs : List β}
    (mapped : as.mapM f = .ok bs) : as.filterMap (fun a => (f a).toOption) = bs := by
  induction as generalizing bs with
  | nil =>
    rw [List.mapM_nil, pure_eq_ok] at mapped
    rw [← mapped]
    rfl
  | cons a as ih =>
    rw [List.mapM_cons, bind_eq_ok] at mapped
    obtain ⟨b, first, rest⟩ := mapped
    obtain ⟨bs', others, same⟩ := bind_eq_ok.mp rest
    rw [pure_eq_ok] at same
    rw [← same, List.filterMap_cons_some (b := b) (by rw [first]; rfl), ih others]

/-- A sequence of checks passes exactly when each of them does. -/
theorem forM_eq_ok {ε α : Type} {f : α → Except ε Unit} {as : List α} :
    as.forM f = .ok () ↔ ∀ a ∈ as, f a = .ok () := by
  induction as with
  | nil => exact ⟨fun _ a inside => absurd inside (by simp), fun _ => rfl⟩
  | cons a as ih =>
    show (f a >>= fun _ => as.forM f) = .ok () ↔ _
    rw [bind_eq_ok, List.forall_mem_cons, ← ih]
    exact ⟨fun ⟨_, first, rest⟩ => ⟨first, rest⟩, fun ⟨first, rest⟩ => ⟨(), first, rest⟩⟩

/-- What becomes of one call to the store. -/
inductive Outcome where
  | done
  | failed
  deriving DecidableEq, Repr

/-- How a program ends: its result, what is left of the script, and the store. -/
structure Ended (σ ε α : Type) where
  result : Except ε α
  script : List Outcome
  store : σ

/-- A program over the store `σ` that throws `ε` and returns `α`. -/
def Async (σ ε α : Type) : Type :=
  List Outcome → σ → Ended σ ε α

namespace Async

variable {σ ε α β : Type}

/-- The outcome of the next call, and the script after it. -/
def next : List Outcome → Outcome × List Outcome
  | [] => (.done, [])
  | outcome :: script => (outcome, script)

@[simp] theorem next_nil : next [] = (.done, []) := rfl

@[simp] theorem next_cons (outcome : Outcome) (script : List Outcome) :
    next (outcome :: script) = (outcome, script) := rfl

protected def pure (a : α) : Async σ ε α :=
  fun script s => ⟨.ok a, script, s⟩

protected def bind (x : Async σ ε α) (f : α → Async σ ε β) : Async σ ε β :=
  fun script s =>
    match (x script s).result with
    | .ok a => f a (x script s).script (x script s).store
    | .error e => ⟨.error e, (x script s).script, (x script s).store⟩

instance : Monad (Async σ ε) where
  pure := Async.pure
  bind := Async.bind

/-- A throw of the program itself; no call is made. -/
protected def throw (e : ε) : Async σ ε α :=
  fun script s => ⟨.error e, script, s⟩

/-- A handler run on the thrown value, at the store the throw left. -/
protected def tryCatch (x : Async σ ε α) (handler : ε → Async σ ε α) : Async σ ε α :=
  fun script s =>
    match (x script s).result with
    | .ok a => ⟨.ok a, (x script s).script, (x script s).store⟩
    | .error e => handler e (x script s).script (x script s).store

instance : MonadExceptOf ε (Async σ ε) where
  throw := Async.throw
  tryCatch := Async.tryCatch

/-- A value of `Except`, as a program that makes no call. -/
def ofExcept : Except ε α → Async σ ε α
  | .ok a => Async.pure a
  | .error e => Async.throw e

/-- A transaction: it writes the store it computes, and nothing when it throws. A failed call
throws `fault`. -/
def transaction (fault : ε) (f : σ → Except ε (α × σ)) : Async σ ε α :=
  fun script s =>
    match (next script).1 with
    | .failed => ⟨.error fault, (next script).2, s⟩
    | .done =>
      match f s with
      | .ok (a, s') => ⟨.ok a, (next script).2, s'⟩
      | .error e => ⟨.error e, (next script).2, s⟩

/-- A call that only reads. -/
def query (fault : ε) (f : σ → Except ε α) : Async σ ε α :=
  transaction fault fun s => (f s).map fun a => (a, s)

/-- A call that always goes through when it is made, and returns nothing. -/
def write (fault : ε) (f : σ → σ) : Async σ ε Unit :=
  transaction fault fun s => .ok ((), f s)

/-! ### How a program unfolds -/

@[simp] theorem pure_apply (a : α) (script : List Outcome) (s : σ) :
    (pure a : Async σ ε α) script s = ⟨.ok a, script, s⟩ := rfl

@[simp] theorem throw_apply (e : ε) (script : List Outcome) (s : σ) :
    (throw e : Async σ ε α) script s = ⟨.error e, script, s⟩ := rfl

theorem bind_apply (x : Async σ ε α) (f : α → Async σ ε β) (script : List Outcome) (s : σ) :
    (x >>= f) script s =
      match (x script s).result with
      | .ok a => f a (x script s).script (x script s).store
      | .error e => ⟨.error e, (x script s).script, (x script s).store⟩ := rfl

/-- **Sequencing after a value.** -/
theorem bind_of_ok {x : Async σ ε α} {script rest : List Outcome} {s t : σ} {a : α}
    (ended : x script s = ⟨.ok a, rest, t⟩) (f : α → Async σ ε β) :
    (x >>= f) script s = f a rest t := by
  rw [bind_apply, ended]

/-- **Sequencing after a throw.** -/
theorem bind_of_error {x : Async σ ε α} {script rest : List Outcome} {s t : σ} {e : ε}
    (ended : x script s = ⟨.error e, rest, t⟩) (f : α → Async σ ε β) :
    (x >>= f) script s = ⟨.error e, rest, t⟩ := by
  rw [bind_apply, ended]

theorem tryCatch_apply (x : Async σ ε α) (handler : ε → Async σ ε α) (script : List Outcome)
    (s : σ) :
    (tryCatch x handler : Async σ ε α) script s =
      match (x script s).result with
      | .ok a => ⟨.ok a, (x script s).script, (x script s).store⟩
      | .error e => handler e (x script s).script (x script s).store := rfl

theorem tryCatch_of_ok {x : Async σ ε α} {script rest : List Outcome} {s t : σ} {a : α}
    (ended : x script s = ⟨.ok a, rest, t⟩) (handler : ε → Async σ ε α) :
    (tryCatch x handler : Async σ ε α) script s = ⟨.ok a, rest, t⟩ := by
  rw [tryCatch_apply, ended]

theorem tryCatch_of_error {x : Async σ ε α} {script rest : List Outcome} {s t : σ} {e : ε}
    (ended : x script s = ⟨.error e, rest, t⟩) (handler : ε → Async σ ε α) :
    (tryCatch x handler : Async σ ε α) script s = handler e rest t := by
  rw [tryCatch_apply, ended]

@[simp] theorem ofExcept_ok (a : α) : (ofExcept (.ok a) : Async σ ε α) = pure a := rfl

@[simp] theorem ofExcept_error (e : ε) : (ofExcept (.error e) : Async σ ε α) = throw e := rfl

theorem transaction_failed {fault : ε} {f : σ → Except ε (α × σ)} {script : List Outcome} {s : σ}
    (fails : (next script).1 = .failed) :
    transaction fault f script s = ⟨.error fault, (next script).2, s⟩ := by
  unfold transaction
  rw [fails]

theorem transaction_ok {fault : ε} {f : σ → Except ε (α × σ)} {script : List Outcome} {s t : σ}
    {a : α} (goes : (next script).1 = .done) (commits : f s = .ok (a, t)) :
    transaction fault f script s = ⟨.ok a, (next script).2, t⟩ := by
  unfold transaction
  rw [goes, commits]

theorem transaction_error {fault e : ε} {f : σ → Except ε (α × σ)} {script : List Outcome}
    {s : σ} (goes : (next script).1 = .done) (refuses : f s = .error e) :
    transaction fault f script s = ⟨.error e, (next script).2, s⟩ := by
  unfold transaction
  rw [goes, refuses]

theorem query_failed {fault : ε} {f : σ → Except ε α} {script : List Outcome} {s : σ}
    (fails : (next script).1 = .failed) :
    query fault f script s = ⟨.error fault, (next script).2, s⟩ :=
  transaction_failed fails

theorem query_ok {fault : ε} {f : σ → Except ε α} {script : List Outcome} {s : σ} {a : α}
    (goes : (next script).1 = .done) (reads : f s = .ok a) :
    query fault f script s = ⟨.ok a, (next script).2, s⟩ := by
  refine transaction_ok goes ?_
  rw [reads]
  rfl

theorem query_error {fault e : ε} {f : σ → Except ε α} {script : List Outcome} {s : σ}
    (goes : (next script).1 = .done) (refuses : f s = .error e) :
    query fault f script s = ⟨.error e, (next script).2, s⟩ := by
  refine transaction_error goes ?_
  rw [refuses]
  rfl

/-! ### What holds whatever fails -/

/-- Started at `s`, under every script, `x` ends with a result and a store that meet `Q`. -/
def Ensures (x : Async σ ε α) (s : σ) (Q : Except ε α → σ → Prop) : Prop :=
  ∀ script, Q (x script s).result (x script s).store

theorem Ensures.mono {x : Async σ ε α} {s : σ} {Q R : Except ε α → σ → Prop}
    (ensured : x.Ensures s Q) (weaker : ∀ r t, Q r t → R r t) : x.Ensures s R :=
  fun script => weaker _ _ (ensured script)

theorem ensures_pure {a : α} {s : σ} {Q : Except ε α → σ → Prop} (here : Q (.ok a) s) :
    (pure a : Async σ ε α).Ensures s Q :=
  fun _ => here

theorem ensures_throw {e : ε} {s : σ} {Q : Except ε α → σ → Prop} (here : Q (.error e) s) :
    (throw e : Async σ ε α).Ensures s Q :=
  fun _ => here

/-- **The rule of sequencing.** -/
theorem ensures_bind {x : Async σ ε α} {f : α → Async σ ε β} {s : σ}
    {Q : Except ε β → σ → Prop}
    (first : x.Ensures s fun r t =>
      match r with
      | .ok a => (f a).Ensures t Q
      | .error e => Q (.error e) t) :
    (x >>= f).Ensures s Q := by
  intro script
  have here := first script
  rw [bind_apply]
  cases ended : (x script s).result with
  | ok a =>
    rw [ended] at here
    exact here _
  | error e =>
    rw [ended] at here
    exact here

/-- **The rule of a transaction**: it fails, it refuses, or it commits. -/
theorem ensures_transaction {fault : ε} {f : σ → Except ε (α × σ)} {s : σ}
    {Q : Except ε α → σ → Prop} (failed : Q (.error fault) s)
    (refused : ∀ e, f s = .error e → Q (.error e) s)
    (committed : ∀ a t, f s = .ok (a, t) → Q (.ok a) t) :
    (transaction fault f).Ensures s Q := by
  intro script
  cases outcome : (next script).1 with
  | failed =>
    rw [transaction_failed outcome]
    exact failed
  | done =>
    cases result : f s with
    | error e =>
      rw [transaction_error outcome result]
      exact refused e result
    | ok pair =>
      obtain ⟨a, t⟩ := pair
      rw [transaction_ok outcome result]
      exact committed a t result

/-- **The rule of a read**: the store stays. -/
theorem ensures_query {fault : ε} {f : σ → Except ε α} {s : σ} {Q : Except ε α → σ → Prop}
    (failed : Q (.error fault) s) (answered : Q (f s) s) : (query fault f).Ensures s Q := by
  refine ensures_transaction failed (fun e refuses => ?_) fun a t commits => ?_
  · cases result : f s with
    | ok a => simp [result, Except.map] at refuses
    | error e' =>
      obtain rfl : e' = e := by simpa [result, Except.map] using refuses
      rw [← result]
      exact answered
  · cases result : f s with
    | error e => simp [result, Except.map] at commits
    | ok a' =>
      obtain ⟨rfl, rfl⟩ : a' = a ∧ s = t := by simpa [result, Except.map] using commits
      rw [← result]
      exact answered

/-- **The rule of a caught throw.** -/
theorem ensures_tryCatch {x : Async σ ε α} {handler : ε → Async σ ε α} {s : σ}
    {Q : Except ε α → σ → Prop}
    (first : x.Ensures s fun r t =>
      match r with
      | .ok a => Q (.ok a) t
      | .error e => (handler e).Ensures t Q) :
    (tryCatch x handler : Async σ ε α).Ensures s Q := by
  intro script
  have here := first script
  rw [tryCatch_apply]
  cases ended : (x script s).result with
  | ok a =>
    rw [ended] at here
    exact here
  | error e =>
    rw [ended] at here
    exact here _

end Async

end AcadID.Lib
