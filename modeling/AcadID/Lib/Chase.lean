/-
**Links followed until they end, repeat or fail.**

* `Chase` — the place the walk has come to, the places that it has looked up, and what it has
  gathered; `turn` is one round of the loop.
* `Sound` — no place is looked up twice, and all of them are places that there are.
* `sound_running` — **so it is in every round**, with one lookup a round.
* `ends` — **the walk ends**, after at most one round more than there are places.
-/

import Mathlib.Data.List.Basic
import Mathlib.Data.List.Nodup
import Mathlib.Data.List.Perm.Subperm
import Mathlib.Order.Nat

namespace AcadID.Lib

/-- A walk on its way: `while (current && !visited.has(current))`. -/
structure Chase (α σ : Type) where
  current : Option α
  visited : List α
  gathered : σ

namespace Chase

variable {ε α σ : Type} [DecidableEq α]

/-- Where a walk is after some rounds: on its way, or at its end with the places it looked up. -/
inductive Status (ε α σ : Type) where
  | running (walk : Chase α σ)
  | ended (visited : List α) (result : Except ε σ)

variable (look : α → σ → Except ε (Option α × σ))

/-- One round: the place is marked, and looked up. -/
def turn (walk : Chase α σ) : Status ε α σ :=
  match walk.current with
  | none => .ended walk.visited (.ok walk.gathered)
  | some place =>
    if place ∈ walk.visited then .ended walk.visited (.ok walk.gathered)
    else
      match look place walk.gathered with
      | .error e => .ended (place :: walk.visited) (.error e)
      | .ok (next, gathered) => .running ⟨next, place :: walk.visited, gathered⟩

/-- The walk after a number of rounds. -/
def after (walk : Chase α σ) : ℕ → Status ε α σ
  | 0 => .running walk
  | n + 1 =>
    match after walk n with
    | .running later => turn look later
    | .ended visited result => .ended visited result

/-- No place was looked up twice, and each is one of those there are. -/
structure Sound (places : List α) (walk : Chase α σ) : Prop where
  once : walk.visited.Nodup
  known : ∀ place ∈ walk.visited, place ∈ places

/-- What a round does. -/
theorem turn_cases (walk : Chase α σ) :
    (turn look walk = .ended walk.visited (.ok walk.gathered)) ∨
      ∃ place, walk.current = some place ∧ place ∉ walk.visited ∧
        ((∃ e, look place walk.gathered = .error e ∧
            turn look walk = .ended (place :: walk.visited) (.error e)) ∨
          ∃ next gathered, look place walk.gathered = .ok (next, gathered) ∧
            turn look walk = .running ⟨next, place :: walk.visited, gathered⟩) := by
  unfold turn
  cases here : walk.current with
  | none => exact .inl rfl
  | some place =>
    by_cases again : place ∈ walk.visited
    · exact .inl (if_pos again)
    · refine .inr ⟨place, rfl, again, ?_⟩
      cases found : look place walk.gathered with
      | error e => exact .inl ⟨e, rfl, by simp [again, found]⟩
      | ok next => exact .inr ⟨next.1, next.2, rfl, by simp [again, found]⟩

variable {look}

omit [DecidableEq α] in
/-- A sound walk has looked up no more places than there are. -/
theorem Sound.length_le {places : List α} {walk : Chase α σ} (sound : Sound places walk) :
    walk.visited.length ≤ places.length :=
  (List.subperm_of_subset sound.once fun place inside => sound.known place inside).length_le

/-- What was looked up at the end: each place once, and all there but the one that failed. -/
theorem ended_once {places : List α} {walk : Chase α σ} (sound : Sound places walk)
    {visited : List α} {result : Except ε σ} (ended : turn look walk = .ended visited result) :
    visited.Nodup := by
  rcases turn_cases look walk with stopped | ⟨place, -, fresh, failed | on⟩
  · rw [stopped] at ended
    cases ended
    exact sound.once
  · obtain ⟨e, -, stopped⟩ := failed
    rw [stopped] at ended
    cases ended
    exact List.nodup_cons.mpr ⟨fresh, sound.once⟩
  · obtain ⟨next, gathered, -, on⟩ := on
    rw [on] at ended
    cases ended

section Places

variable {places : List α}
  (listed : ∀ place gathered next, look place gathered = .ok next → place ∈ places)

include listed

/-- **A round keeps the walk sound**, and looks one place up. -/
theorem sound_turn {walk later : Chase α σ} (sound : Sound places walk)
    (went : turn look walk = .running later) :
    Sound places later ∧ later.visited.length = walk.visited.length + 1 := by
  rcases turn_cases look walk with stopped | ⟨place, -, fresh, failed | on⟩
  · rw [stopped] at went
    cases went
  · obtain ⟨e, -, stopped⟩ := failed
    rw [stopped] at went
    cases went
  · obtain ⟨next, gathered, found, on⟩ := on
    rw [on] at went
    cases went
    refine ⟨⟨List.nodup_cons.mpr ⟨fresh, sound.once⟩, ?_⟩, rfl⟩
    intro other inside
    rcases List.mem_cons.mp inside with rfl | before
    · exact listed _ _ _ found
    · exact sound.known other before

/-- **A walk that is still on its way is sound**, with one lookup for each round. -/
theorem sound_running {walk later : Chase α σ} (sound : Sound places walk) {n : ℕ}
    (running : after look walk n = .running later) :
    Sound places later ∧ later.visited.length = walk.visited.length + n := by
  induction n generalizing later with
  | zero =>
    cases running
    exact ⟨sound, rfl⟩
  | succ n ih =>
    unfold after at running
    cases before : after look walk n with
    | ended visited result =>
      rw [before] at running
      cases running
    | running earlier =>
      rw [before] at running
      obtain ⟨still, long⟩ := ih before
      obtain ⟨kept, more⟩ := sound_turn listed still running
      exact ⟨kept, by omega⟩

/-- **The walk ends**: it is on its way for some rounds, no more than there are places, and the
round after them is its last. -/
theorem ends {walk : Chase α σ} (sound : Sound places walk) (fresh : walk.visited = []) :
    ∃ n ≤ places.length, ∃ last visited result,
      after look walk n = .running last ∧ turn look last = .ended visited result ∧
        visited.Nodup ∧ last.visited.length = n := by
  -- Were it still on its way after more rounds, it would have looked up more places.
  have stops : ∃ n, ∀ later, after look walk n ≠ .running later := by
    refine ⟨places.length + 1, fun later running => ?_⟩
    obtain ⟨still, long⟩ := sound_running listed sound running
    have few := still.length_le
    rw [fresh, List.length_nil] at long
    omega
  obtain ⟨n, first, before⟩ : ∃ n, (∀ later, after look walk n ≠ .running later) ∧
      ∀ m < n, ¬ ∀ later, after look walk m ≠ .running later := by
    classical
    exact ⟨Nat.find stops, Nat.find_spec stops, fun m small => Nat.find_min stops small⟩
  cases n with
  | zero => exact absurd rfl (first walk)
  | succ n =>
    obtain ⟨last, running⟩ := not_forall_not.mp (before n (Nat.lt_succ_self n))
    obtain ⟨still, long⟩ := sound_running listed sound running
    have few := still.length_le
    rw [fresh, List.length_nil, Nat.zero_add] at long
    cases stopped : turn look last with
    | running later =>
      refine absurd ?_ (first later)
      show (match after look walk n with
        | .running later => turn look later
        | .ended visited result => Status.ended visited result) = _
      rw [running]
      exact stopped
    | ended visited result =>
      exact ⟨n, by omega, last, visited, result, running, stopped,
        ended_once still stopped, long⟩

end Places

end Chase

end AcadID.Lib
