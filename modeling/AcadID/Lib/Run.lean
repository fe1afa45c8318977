/-
**Runs of a state machine, and the exact condition under which a property holds along them.**

A machine is a step function `step : S → E → S`; a run is a list of events.

* `Along step G s events` — every step of the run meets `G`, a relation between the state before
  the step and its event; `Throughout step P s events` — every state of the run meets `P`.
* `occurrences` — how many steps of a run meet `G`; `occurrences_le_one` — at most one of them, if
  the first rules out any other; `occurrences_le_one_of_guarded` — its form for guarded runs.
* `throughout_of_keeps` — **the invariant rule**: what one step keeps, a run keeps.
* `tally_runs` — **the rule of a tally**: what counts the steps of a kind one by one; `budget_runs`
  — **the rule of a budget**: what pays for each of them; `credit_runs` — what lets steps of one kind
  pay for those of another.
* `along_iff_of_exact` — **the exact-guard rule**: an invariant kept by guarded steps, under which
  a step is good exactly when it is guarded, makes "every step is good" and "every step is
  guarded" the same property of a run. `throughout_iff_of_exact` is its form for states.
* `runs_iff_of_trap` — **the rule of a trap**: its form for the last state of a run, where nothing
  mends what a step that is not guarded has broken.
-/

import Mathlib.Algebra.GroupWithZero.Nat
import Mathlib.Data.List.Basic

namespace AcadID.Lib

section Run

variable {S E : Type*} (step : S → E → S)

/-- The state a run ends in. -/
def runs (s : S) (events : List E) : S :=
  events.foldl step s

@[simp] theorem runs_nil (s : S) : runs step s [] = s := rfl

@[simp] theorem runs_cons (s : S) (e : E) (events : List E) :
    runs step s (e :: events) = runs step (step s e) events := rfl

theorem runs_append (s : S) (left right : List E) :
    runs step s (left ++ right) = runs step (runs step s left) right := by
  unfold runs
  rw [List.foldl_append]

/-- Every step of the run, taken at the state it finds, meets `G`. -/
def Along (G : S → E → Prop) : S → List E → Prop
  | _, [] => True
  | s, e :: events => G s e ∧ Along G (step s e) events

/-- Every state of the run, first and last included, meets `P`. -/
def Throughout (P : S → Prop) : S → List E → Prop
  | s, [] => P s
  | s, e :: events => P s ∧ Throughout P (step s e) events

/-- How many steps of the run meet `G`. -/
def occurrences (G : S → E → Prop) [∀ s e, Decidable (G s e)] : S → List E → ℕ
  | _, [] => 0
  | s, e :: events => (if G s e then 1 else 0) + occurrences G (step s e) events

instance Along.instDecidable (G : S → E → Prop) [∀ s e, Decidable (G s e)] :
    ∀ s events, Decidable (Along step G s events)
  | _, [] => isTrue trivial
  | s, e :: events =>
    have := Along.instDecidable G (step s e) events
    inferInstanceAs (Decidable (_ ∧ _))

instance Throughout.instDecidable (P : S → Prop) [DecidablePred P] :
    ∀ s events, Decidable (Throughout step P s events)
  | s, [] => inferInstanceAs (Decidable (P s))
  | s, e :: events =>
    have := Throughout.instDecidable P (step s e) events
    inferInstanceAs (Decidable (_ ∧ _))

variable {step}

theorem Along.mono {G H : S → E → Prop} (weaker : ∀ s e, G s e → H s e) {s : S}
    {events : List E} (along : Along step G s events) : Along step H s events := by
  induction events generalizing s with
  | nil => trivial
  | cons e events ih => exact ⟨weaker s e along.1, ih along.2⟩

/-- What every event of a run meets, wherever it is met. -/
theorem along_of_mem {G : E → Prop} {s : S} {events : List E} (all : ∀ e ∈ events, G e) :
    Along step (fun _ e => G e) s events := by
  induction events generalizing s with
  | nil => trivial
  | cons e events ih =>
    exact ⟨all e List.mem_cons_self, ih fun e' inside => all e' (List.mem_cons_of_mem e inside)⟩

theorem along_and {G H : S → E → Prop} {s : S} {events : List E} :
    Along step (fun s e => G s e ∧ H s e) s events ↔
      Along step G s events ∧ Along step H s events := by
  induction events generalizing s with
  | nil => exact ⟨fun _ => ⟨trivial, trivial⟩, fun _ => trivial⟩
  | cons e events ih =>
    unfold Along
    rw [ih]
    exact and_and_and_comm

theorem along_append {G : S → E → Prop} {s : S} {left right : List E} :
    Along step G s (left ++ right) ↔
      Along step G s left ∧ Along step G (runs step s left) right := by
  induction left generalizing s with
  | nil => exact ⟨fun along => ⟨trivial, along⟩, fun both => both.2⟩
  | cons e left ih =>
    show G s e ∧ Along step G (step s e) (left ++ right) ↔
      (G s e ∧ Along step G (step s e) left) ∧ Along step G (runs step (step s e) left) right
    rw [ih, and_assoc]

/-- **Along a run, prefix by prefix**: each event meets `G` at the state its prefix reaches. -/
theorem along_iff_prefixes {G : S → E → Prop} {s : S} {events : List E} :
    Along step G s events ↔
      ∀ before e after, events = before ++ e :: after → G (runs step s before) e := by
  induction events generalizing s with
  | nil =>
    refine ⟨fun _ before e after same => ?_, fun _ => trivial⟩
    exact absurd same (by simp)
  | cons first events ih =>
    refine ⟨fun along before e after same => ?_, fun all => ⟨?_, ?_⟩⟩
    · cases before with
      | nil =>
        obtain ⟨rfl, rfl⟩ := List.cons.inj same
        exact along.1
      | cons head before =>
        obtain ⟨rfl, rest⟩ := List.cons.inj same
        exact ih.mp along.2 before e after rest
    · exact all [] first events rfl
    · refine ih.mpr fun before e after same => ?_
      exact all (first :: before) e after (by rw [same, List.cons_append])

/-- **Throughout a run, prefix by prefix**: every prefix of the run ends in a state meeting `P`. -/
theorem throughout_iff_prefixes {P : S → Prop} {s : S} {events : List E} :
    Throughout step P s events ↔
      ∀ before after, events = before ++ after → P (runs step s before) := by
  induction events generalizing s with
  | nil =>
    refine ⟨fun here before after same => ?_, fun all => all [] [] rfl⟩
    obtain ⟨rfl, rfl⟩ := List.append_eq_nil_iff.mp same.symm
    exact here
  | cons first events ih =>
    refine ⟨fun all before after same => ?_, fun all => ⟨all [] _ rfl, ?_⟩⟩
    · cases before with
      | nil => exact all.1
      | cons head before =>
        obtain ⟨rfl, rest⟩ := List.cons.inj same
        exact ih.mp all.2 before after rest
    · refine ih.mpr fun before after same => ?_
      exact all (first :: before) after (by rw [same, List.cons_append])

/-- A property of the states holds throughout exactly when it holds first and after each step. -/
theorem throughout_iff_along {P : S → Prop} {s : S} {events : List E} :
    Throughout step P s events ↔ P s ∧ Along step (fun t e => P (step t e)) s events := by
  induction events generalizing s with
  | nil => exact ⟨fun here => ⟨here, trivial⟩, fun both => both.1⟩
  | cons first events ih =>
    refine ⟨fun all => ?_, fun both => ?_⟩
    · obtain ⟨next, rest⟩ := ih.mp all.2
      exact ⟨all.1, next, rest⟩
    · exact ⟨both.1, ih.mpr ⟨both.2.1, both.2.2⟩⟩

/-- **The guarded invariant rule.** What every guarded step keeps holds at the end of a run whose
steps are all guarded. -/
theorem runs_of_keeps {inv : S → Prop} {guard : S → E → Prop}
    (keeps : ∀ s e, inv s → guard s e → inv (step s e)) {s : S} (start : inv s)
    {events : List E} (guarded : Along step guard s events) : inv (runs step s events) := by
  induction events generalizing s with
  | nil => exact start
  | cons e events ih => exact ih (keeps s e start guarded.1) guarded.2

/-- What every guarded step keeps holds throughout a run whose steps are all guarded. -/
theorem throughout_of_guarded {inv : S → Prop} {guard : S → E → Prop}
    (keeps : ∀ s e, inv s → guard s e → inv (step s e)) {s : S} (start : inv s)
    {events : List E} (guarded : Along step guard s events) : Throughout step inv s events := by
  induction events generalizing s with
  | nil => exact start
  | cons e events ih => exact ⟨start, ih (keeps s e start guarded.1) guarded.2⟩

theorem Throughout.mono {P Q : S → Prop} (weaker : ∀ s, P s → Q s) {s : S} {events : List E}
    (throughout : Throughout step P s events) : Throughout step Q s events := by
  induction events generalizing s with
  | nil => exact weaker s throughout
  | cons e events ih => exact ⟨weaker s throughout.1, ih throughout.2⟩

/-- **The invariant rule.** What every step keeps holds throughout every run. -/
theorem throughout_of_keeps {inv : S → Prop} (keeps : ∀ s e, inv s → inv (step s e)) {s : S}
    (start : inv s) (events : List E) : Throughout step inv s events := by
  induction events generalizing s with
  | nil => exact start
  | cons e events ih => exact ⟨start, ih (keeps s e start)⟩

/-- The invariant rule for the last state of a run. -/
theorem runs_of_kept {inv : S → Prop} (keeps : ∀ s e, inv s → inv (step s e)) {s : S}
    (start : inv s) (events : List E) : inv (runs step s events) := by
  induction events generalizing s with
  | nil => exact start
  | cons e events ih => exact ih (keeps s e start)

/-- **The rule of a tally.** What counts one more at each guarded step that meets `G`, and stays at
the others, counts these steps along a guarded run. -/
theorem tally_runs {G : S → E → Prop} [∀ s e, Decidable (G s e)] {inv : S → Prop}
    {guard : S → E → Prop} (tally : S → ℕ) (keeps : ∀ s e, inv s → guard s e → inv (step s e))
    (counts : ∀ s e, inv s → guard s e → tally (step s e) = tally s + if G s e then 1 else 0)
    {s : S} (start : inv s) {events : List E} (guarded : Along step guard s events) :
    tally (runs step s events) = tally s + occurrences step G s events := by
  induction events generalizing s with
  | nil => rfl
  | cons e events ih =>
    rw [runs_cons, ih (keeps s e start guarded.1) guarded.2, counts s e start guarded.1]
    exact Nat.add_assoc _ _ _

/-- **The rule of a budget.** What pays one for each guarded step that meets `G`, and gains no more
than the income of the events, pays for as many of them as it had and has gained. -/
theorem budget_runs {G : S → E → Prop} [∀ s e, Decidable (G s e)] {inv : S → Prop}
    {guard : S → E → Prop} (budget : S → ℕ) (income : E → ℕ)
    (keeps : ∀ s e, inv s → guard s e → inv (step s e))
    (pays : ∀ s e, inv s → guard s e →
      budget (step s e) + (if G s e then 1 else 0) ≤ budget s + income e)
    {s : S} (start : inv s) {events : List E} (guarded : Along step guard s events) :
    budget (runs step s events) + occurrences step G s events ≤
      budget s + (events.map income).sum := by
  induction events generalizing s with
  | nil => exact Nat.le_refl _
  | cons e events ih =>
    have later := ih (keeps s e start guarded.1) guarded.2
    have now := pays s e start guarded.1
    rw [runs_cons, List.map_cons, List.sum_cons]
    unfold occurrences
    omega

/-- **The rule of a debt.** What pays one for each step that meets `G`, and gains one at most at each
that meets `H`, pays for as many of the first as it had and there are of the others. -/
theorem credit_runs {G H : S → E → Prop} [∀ s e, Decidable (G s e)] [∀ s e, Decidable (H s e)]
    (credit : S → ℕ)
    (pays : ∀ s e, credit (step s e) + (if G s e then 1 else 0) ≤
      credit s + if H s e then 1 else 0) (s : S) (events : List E) :
    credit (runs step s events) + occurrences step G s events ≤
      credit s + occurrences step H s events := by
  induction events generalizing s with
  | nil => exact Nat.le_refl _
  | cons e events ih =>
    have later := ih (step s e)
    have now := pays s e
    rw [runs_cons]
    unfold occurrences
    omega

theorem along_of_occurrences_eq_zero {G : S → E → Prop} [∀ s e, Decidable (G s e)] {s : S}
    {events : List E} (never : occurrences step G s events = 0) :
    Along step (fun s e => ¬ G s e) s events := by
  induction events generalizing s with
  | nil => trivial
  | cons e events ih =>
    unfold occurrences at never
    by_cases here : G s e
    · rw [if_pos here] at never
      omega
    · rw [if_neg here, Nat.zero_add] at never
      exact ⟨here, ih never⟩

/-- What every guarded step does under an invariant that guarded steps keep, every step of a
guarded run does. -/
theorem along_of_keeps {inv : S → Prop} {guard good : S → E → Prop}
    (keeps : ∀ s e, inv s → guard s e → inv (step s e))
    (does : ∀ s e, inv s → guard s e → good s e) {s : S} (start : inv s) {events : List E}
    (guarded : Along step guard s events) : Along step good s events := by
  induction events generalizing s with
  | nil => trivial
  | cons e events ih =>
    exact ⟨does s e start guarded.1, ih (keeps s e start guarded.1) guarded.2⟩

/-- What no step does once it is over, a guarded run does at most once when each time ends it. -/
theorem occurrences_le_one_of_guarded {G : S → E → Prop} [∀ s e, Decidable (G s e)]
    {guard : S → E → Prop} (inv closed : S → Prop)
    (keeps : ∀ s e, inv s → guard s e → inv (step s e))
    (ends : ∀ s e, inv s → guard s e → G s e → closed (step s e))
    (stays : ∀ s e, inv s → guard s e → closed s → closed (step s e))
    (never : ∀ s e, closed s → ¬ G s e) {s : S} (start : inv s) {events : List E}
    (guarded : Along step guard s events) : occurrences step G s events ≤ 1 := by
  have none : ∀ events s, inv s → closed s → Along step guard s events →
      occurrences step G s events = 0 := by
    intro events
    induction events with
    | nil => exact fun s _ _ _ => rfl
    | cons e events ih =>
      intro s here done guarded
      unfold occurrences
      rw [if_neg (never s e done),
        ih (step s e) (keeps s e here guarded.1) (stays s e here guarded.1 done) guarded.2]
  induction events generalizing s with
  | nil => exact Nat.zero_le 1
  | cons e events ih =>
    unfold occurrences
    have next := keeps s e start guarded.1
    by_cases here : G s e
    · have stops := none events (step s e) next (ends s e start guarded.1 here) guarded.2
      rw [if_pos here]
      omega
    · rw [if_neg here, Nat.zero_add]
      exact ih next guarded.2

/-- What no step does once it is over, a run does at most once when each time ends it. -/
theorem occurrences_le_one {G : S → E → Prop} [∀ s e, Decidable (G s e)] (closed : S → Prop)
    (ends : ∀ s e, G s e → closed (step s e)) (stays : ∀ s e, closed s → closed (step s e))
    (never : ∀ s e, closed s → ¬ G s e) (s : S) (events : List E) :
    occurrences step G s events ≤ 1 := by
  have free : Along step (fun _ _ => True) s events := along_of_mem fun _ _ => trivial
  exact occurrences_le_one_of_guarded (fun _ => True) closed (fun _ _ _ _ => trivial)
    (fun s e _ _ => ends s e) (fun s e _ _ => stays s e) never trivial free

/-- **The exact-guard rule.** Under an invariant that guarded steps keep, a step is good exactly
when it is guarded; so a run is good throughout exactly when it is guarded throughout. -/
theorem along_iff_of_exact {inv : S → Prop} {guard good : S → E → Prop}
    (keeps : ∀ s e, inv s → guard s e → inv (step s e))
    (exact_step : ∀ s e, inv s → (good s e ↔ guard s e)) {s : S} (start : inv s)
    (events : List E) : Along step good s events ↔ Along step guard s events := by
  induction events generalizing s with
  | nil => exact Iff.rfl
  | cons e events ih =>
    refine ⟨fun ⟨here, rest⟩ => ?_, fun ⟨here, rest⟩ => ?_⟩
    · have guarded := (exact_step s e start).mp here
      exact ⟨guarded, (ih (keeps s e start guarded)).mp rest⟩
    · exact ⟨(exact_step s e start).mpr here, (ih (keeps s e start here)).mpr rest⟩

/-- The exact-guard rule for a property of the states. -/
theorem throughout_iff_of_exact {inv good : S → Prop} {guard : S → E → Prop}
    (keeps : ∀ s e, inv s → guard s e → inv (step s e)) (implies : ∀ s, inv s → good s)
    (escapes : ∀ s e, inv s → ¬ guard s e → ¬ good (step s e)) {s : S} (start : inv s)
    (events : List E) : Throughout step good s events ↔ Along step guard s events := by
  rw [throughout_iff_along]
  have exact_step : ∀ t e, inv t → (good (step t e) ↔ guard t e) := by
    intro t e here
    refine ⟨fun fine => ?_, fun guarded => implies _ (keeps t e here guarded)⟩
    by_contra unguarded
    exact escapes t e here unguarded fine
  rw [along_iff_of_exact keeps exact_step start events]
  exact ⟨fun both => both.2, fun along => ⟨implies s start, along⟩⟩

/-- **The rule of a trap.** Where a step that is not guarded leads to a trap, which no step leaves
and in which the property fails, a run ends with the property exactly when all its steps are
guarded. -/
theorem runs_iff_of_trap {inv good trap : S → Prop} {guard : S → E → Prop}
    (keeps : ∀ s e, inv s → guard s e → inv (step s e)) (implies : ∀ s, inv s → good s)
    (falls : ∀ s e, inv s → ¬ guard s e → trap (step s e))
    (stays : ∀ s e, trap s → trap (step s e)) (never : ∀ s, trap s → ¬ good s) {s : S}
    (start : inv s) (events : List E) : good (runs step s events) ↔ Along step guard s events := by
  have caught : ∀ (events : List E) (t : S), trap t → trap (runs step t events) := by
    intro events
    induction events with
    | nil => exact fun t here => here
    | cons e events ih => exact fun t here => ih (step t e) (stays t e here)
  refine ⟨fun fine => ?_, fun guarded => implies _ (runs_of_keeps keeps start guarded)⟩
  induction events generalizing s with
  | nil => trivial
  | cons e events ih =>
    by_cases here : guard s e
    · exact ⟨here, ih (keeps s e start here) fine⟩
    · exact absurd fine (never _ (caught events _ (falls s e start here)))

end Run

end AcadID.Lib
