/-
**The rule set that grades a batch: how it is chosen, and what is not asked of it.**

* `Grades` — a configured rule set is the one that `resolveGradingRule` returns.
* `chosen_of_grades` — **the choice**: the rule set that the upload names, unless it is archived, or
  the active one of the engine that no other comes before.
* `inForce_fails` — neither the dates of a rule set nor, when it is named, its engine decide.
-/

import AcadID.Gateway.Grading
import AcadID.Lib.FirstMatch

namespace AcadID.RuleInForce

open Lib Grading

/-! ### The order of the choice -/

theorem inForceFirst_total (a b : GradingRuleSet) :
    inForceFirst a b = true ∨ inForceFirst b a = true := by
  unfold inForceFirst
  cases a.effectiveFrom <;> cases b.effectiveFrom <;> simp only [decide_eq_true_eq]
  · exact le_total b.updatedAt a.updatedAt
  · exact .inl trivial
  · exact .inr trivial
  · rename_i x y
    simp only [Bool.or_eq_true, Bool.and_eq_true, decide_eq_true_eq, beq_iff_eq]
    rcases lt_trichotomy x y with less | rfl | more
    · exact .inr (.inl less)
    · exact (le_total b.updatedAt a.updatedAt).imp (fun h => .inr ⟨rfl, h⟩) fun h => .inr ⟨rfl, h⟩
    · exact .inl (.inl more)

theorem inForceFirst_trans (a b c : GradingRuleSet) (first : inForceFirst a b = true)
    (second : inForceFirst b c = true) : inForceFirst a c = true := by
  unfold inForceFirst at *
  cases onA : a.effectiveFrom <;> cases onB : b.effectiveFrom <;> cases onC : c.effectiveFrom <;>
    simp only [onA, onB, onC, Bool.or_eq_true, Bool.and_eq_true, decide_eq_true_eq, beq_iff_eq,
      reduceCtorEq] at first second ⊢
  · exact second.trans first
  · rename_i x y z
    rcases first with later | ⟨rfl, newer⟩
    · rcases second with later' | ⟨rfl, -⟩
      · exact .inl (later'.trans later)
      · exact .inl later
    · exact second.imp id fun both => ⟨both.1, both.2.trans newer⟩

/-! ### The choice -/

/-- The configured rule set that `resolveGradingRule` returns for an upload. -/
def Grades (s : Store) (institutionId : Uuid) (uploadMode : ResultUploadMode)
    (gradingRuleSetId : Option Uuid) (ruleSet : GradingRuleSet) : Prop :=
  s.gradingRuleSets.find? ruleSet.uuid = some ruleSet ∧
    ∃ rule, resolveGradingRule institutionId uploadMode gradingRuleSetId s = .ok rule ∧
      rule.uuid = some ruleSet.uuid

/-- A rule set is in force on a date. -/
def InForce (date : Time) (ruleSet : GradingRuleSet) : Prop :=
  (∀ start ∈ ruleSet.effectiveFrom, start ≤ date) ∧ ∀ last ∈ ruleSet.effectiveTo, date ≤ last

instance (date : Time) (ruleSet : GradingRuleSet) : Decidable (InForce date ruleSet) := by
  unfold InForce
  infer_instance

/-- The rule sets among which an upload that names none has its choice. -/
def Candidate (institutionId : Uuid) (uploadMode : ResultUploadMode) (ruleSet : GradingRuleSet) :
    Prop :=
  ruleSet.institutionId = institutionId ∧ ruleSet.engine = expectedEngine uploadMode ∧
    ruleSet.status = .active

/-- **The rule set of a batch** is its institution's. One that the upload names is not archived; one
that it does not name is active, has the engine of the upload mode, and comes before every other
such: the latest date in force first, one without a date before all others, then the latest
update. -/
theorem chosen_of_grades {s : Store} {institutionId : Uuid} {uploadMode : ResultUploadMode}
    {gradingRuleSetId : Option Uuid} {ruleSet : GradingRuleSet}
    (grades : Grades s institutionId uploadMode gradingRuleSetId ruleSet) :
    ruleSet.institutionId = institutionId ∧
      match gradingRuleSetId with
      | some id => ruleSet.uuid = id ∧ ruleSet.status ≠ .archived
      | none => Candidate institutionId uploadMode ruleSet ∧
          ∀ other ∈ s.gradingRuleSets.rows, Candidate institutionId uploadMode other →
            inForceFirst ruleSet other = true := by
  obtain ⟨stored, rule, resolved, named⟩ := grades
  have read : ∀ {row : GradingRuleSet}, row ∈ s.gradingRuleSets.rows →
      configuredRule row = .ok rule → row = ruleSet := by
    intro row inside is
    obtain ⟨uuid, -⟩ := configuredRule_spec is
    rw [uuid] at named
    have found := Table.find?_eq_some.mpr ⟨inside, Option.some.inj named⟩
    exact Option.some.inj (found.symm.trans stored)
  unfold resolveGradingRule at resolved
  cases gradingRuleSetId with
  | some id =>
    cases found : s.gradingRuleSets.find? id with
    | none =>
      simp only [found] at resolved
      exact absurd resolved (by simp)
    | some row =>
      simp only [found] at resolved
      split at resolved
      · exact absurd resolved (by simp)
      · rename_i passes
        obtain ⟨own, status⟩ := not_or.mp passes
        obtain rfl := read (Table.find?_mem found) resolved
        exact ⟨not_not.mp own, Table.find?_key found, status⟩
  | none =>
    dsimp only at resolved ⊢
    split at resolved
    · rename_i row rest first
      have eligible : ∀ other, (other ∈ s.gradingRuleSets.rows.filter fun other =>
          other.institutionId == institutionId && other.engine == expectedEngine uploadMode &&
            other.status == .active) ↔
          other ∈ s.gradingRuleSets.rows ∧ Candidate institutionId uploadMode other := by
        intro other
        simp [Candidate, and_assoc]
      have inside : row ∈ row :: rest := List.mem_cons_self ..
      rw [← first, List.mem_insertionSort] at inside
      obtain ⟨member, candidate⟩ := (eligible row).mp inside
      obtain rfl := read member resolved
      refine ⟨candidate.1, candidate, fun other there is => ?_⟩
      exact FirstMatch.rel_of_head?_insertionSort (r := fun a b => inForceFirst a b = true)
        inForceFirst_total inForceFirst_trans (by rw [first]; rfl)
        ((eligible other).mpr ⟨there, is⟩)
    · rw [← Except.ok.inj resolved] at named
      exact absurd named (by simp [defaultGradingRule])

/-! ### A draft, and a rule set of last year -/

def schoolId : Uuid := "10000000-0000-4000-8000-000000000001"

def draftId : Uuid := "b0000000-0000-4000-8000-000000000001"

def lapsedId : Uuid := "b0000000-0000-4000-8000-000000000002"

/-- A rule set of one band. -/
def ruleSetOf (uuid : Uuid) (engine : GradingRuleEngine) (status : GradingRuleStatus)
    (effectiveTo : Option Time) : GradingRuleSet where
  uuid := uuid
  institutionId := schoolId
  name := "Pass"
  engine := engine
  status := status
  scale := .arr [.obj [("minScore", .num 0), ("maxScore", .num 100), ("grade", .str "P")]]
  passMark := none
  maxScore := 100
  gradePointMax := none
  effectiveFrom := none
  effectiveTo := effectiveTo
  createdById := none
  updatedAt := 1

/-- A draft for schools, and an active rule set for universities that has lapsed. -/
def drafted : Store :=
  { Store.empty with
    gradingRuleSets :=
      { rows := [ruleSetOf draftId .primarySecondary .draft none,
          ruleSetOf lapsedId .tertiaryGpa .active (some 10)]
        nodup := by decide } }

/-- The rule set that an upload of courses is graded by. -/
theorem grades_of_named {id : Uuid} {given : Option Uuid} {ruleSet : GradingRuleSet}
    (stored : drafted.gradingRuleSets.find? id = some ruleSet) (key : ruleSet.uuid = id)
    (named : (resolveGradingRule schoolId .courseBased given drafted).toOption.map (·.uuid) =
      some (some id)) : Grades drafted schoolId .courseBased given ruleSet := by
  obtain ⟨rule, resolved, is⟩ := of_toOption named
  exact ⟨by rw [key]; exact stored, rule, resolved, by rw [key]; exact is⟩

theorem draft_grades : Grades drafted schoolId .courseBased (some draftId)
    (ruleSetOf draftId .primarySecondary .draft none) :=
  @grades_of_named draftId _ _ (by rfl) rfl (by decide)

theorem lapsed_grades : Grades drafted schoolId .courseBased none
    (ruleSetOf lapsedId .tertiaryGpa .active (some 10)) :=
  @grades_of_named lapsedId _ _ (by rfl) rfl (by decide)

/-- The lapsed rule set is the first of the active ones. -/
theorem lapsed_chosen :
    (ruleSetOf lapsedId .tertiaryGpa .active (some 10)).institutionId = schoolId ∧
      Candidate schoolId .courseBased (ruleSetOf lapsedId .tertiaryGpa .active (some 10)) :=
  ⟨(chosen_of_grades lapsed_grades).1, (chosen_of_grades lapsed_grades).2.1⟩

/-- **A batch can be graded by a draft, by a rule set of the other engine and by one that has
lapsed.** -/
theorem inForce_fails :
    (¬ ∀ (s : Store) (institutionId : Uuid) (uploadMode : ResultUploadMode) (given : Option Uuid)
      (ruleSet : GradingRuleSet), Grades s institutionId uploadMode given ruleSet →
        ruleSet.status = .active) ∧
    (¬ ∀ (s : Store) (institutionId : Uuid) (uploadMode : ResultUploadMode) (given : Option Uuid)
      (ruleSet : GradingRuleSet), Grades s institutionId uploadMode given ruleSet →
        ruleSet.engine = expectedEngine uploadMode) ∧
    ¬ ∀ (s : Store) (institutionId : Uuid) (uploadMode : ResultUploadMode) (given : Option Uuid)
      (date : Time) (ruleSet : GradingRuleSet), Grades s institutionId uploadMode given ruleSet →
        InForce date ruleSet := by
  refine ⟨fun active => ?_, fun engine => ?_, fun inForce => ?_⟩
  · exact absurd (active _ _ _ _ _ draft_grades) (by decide)
  · exact absurd (engine _ _ _ _ _ draft_grades) (by decide)
  · exact absurd (inForce _ _ _ _ 20 _ lapsed_grades) (by decide)

end AcadID.RuleInForce
