/-
**Keys that are taken once, from checks that wait for their turn.**

A step may take a key, which closes it for good. The step was set up before, when the key was open:
in between it waits, and others may take the key.

* `Waiting` — a key that waits and is closed was closed by a step of the run.
* `Waiting.occurrences_eq_zero` — a closed key is not taken by steps that find theirs open.
* `Waiting.occurrences_le_one_iff` — **no key is taken twice in a run exactly when every step finds
  the key that it takes open**.
-/

import AcadID.Lib.Run

namespace AcadID.Lib

variable {S E K : Type*} [DecidableEq K]

/-- How steps that take keys and the keys that wait and are closed go together. -/
structure Waiting (step : S → E → S) (takes : S → E → Option K) (closed waits : K → S → Prop) :
    Prop where
  waited : ∀ s e k, takes s e = some k → waits k s
  closes : ∀ s e k, takes s e = some k → closed k (step s e)
  stays : ∀ s e k, closed k s → closed k (step s e)
  own : ∀ s e k, waits k (step s e) → closed k (step s e) →
    takes s e = some k ∨ (waits k s ∧ closed k s)

/-- The key that a step takes is open. -/
def FindsOpen (takes : S → E → Option K) (closed : K → S → Prop) (s : S) (e : E) : Prop :=
  ∀ k, takes s e = some k → ¬ closed k s

namespace Waiting

variable {step : S → E → S} {takes : S → E → Option K} {closed waits : K → S → Prop}
  (waiting : Waiting step takes closed waits)

include waiting

theorem occurrences_eq_zero {k : K} {s : S} {events : List E} (shut : closed k s)
    (open_ : Along step (FindsOpen takes closed) s events) :
    occurrences step (fun s e => takes s e = some k) s events = 0 := by
  induction events generalizing s with
  | nil => rfl
  | cons e events ih =>
    unfold occurrences
    rw [if_neg fun took => open_.1 k took shut, ih (waiting.stays s e k shut) open_.2]

theorem occurrences_le_one {s : S} {events : List E}
    (open_ : Along step (FindsOpen takes closed) s events) (k : K) :
    occurrences step (fun s e => takes s e = some k) s events ≤ 1 := by
  induction events generalizing s with
  | nil => exact Nat.zero_le 1
  | cons e events ih =>
    unfold occurrences
    by_cases took : takes s e = some k
    · have none := waiting.occurrences_eq_zero (waiting.closes s e k took) open_.2
      rw [if_pos took]
      omega
    · rw [if_neg took, Nat.zero_add]
      exact ih open_.2

/-- Where no key that waits and is closed is taken any more, and none is taken twice, every step
finds the key that it takes open. -/
theorem findsOpen_of_le_one {s : S} {events : List E}
    (over_ : ∀ k, waits k s → closed k s →
      occurrences step (fun s e => takes s e = some k) s events = 0)
    (once : ∀ k, occurrences step (fun s e => takes s e = some k) s events ≤ 1) :
    Along step (FindsOpen takes closed) s events := by
  induction events generalizing s with
  | nil => trivial
  | cons e events ih =>
    -- What the first step takes counts; what it does not take counts later.
    have count : ∀ k, occurrences step (fun s e => takes s e = some k) s (e :: events) =
        (if takes s e = some k then 1 else 0) +
          occurrences step (fun s e => takes s e = some k) (step s e) events := fun _ => rfl
    refine ⟨fun k took shut => ?_, ih (fun k waits' shut => ?_) fun k => ?_⟩
    · have none := over_ k (waiting.waited s e k took) shut
      rw [count, if_pos took] at none
      omega
    · rcases waiting.own s e k waits' shut with took | ⟨before, shutBefore⟩
      · have one := once k
        rw [count, if_pos took] at one
        omega
      · have none := over_ k before shutBefore
        rw [count] at none
        omega
    · have one := once k
      rw [count] at one
      omega

/-- **No key is taken twice** exactly when every step finds the key that it takes open. -/
theorem occurrences_le_one_iff {s : S} (idle : ∀ k, ¬ waits k s) (events : List E) :
    (∀ k, occurrences step (fun s e => takes s e = some k) s events ≤ 1) ↔
      Along step (FindsOpen takes closed) s events :=
  ⟨waiting.findsOpen_of_le_one fun k waits' => absurd waits' (idle k), waiting.occurrences_le_one⟩

end Waiting

end AcadID.Lib
