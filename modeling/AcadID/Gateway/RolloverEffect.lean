/-
**What a confirmed rollover changes.**

* `moved` — an enrolment once the decisions are written, if one of them names it.
* `Effect` — between two stores the decisions were written: enrolments moved, next enrolments and
  rollover records added, and nothing else.
* `confirmDecision_effect`, `confirmRows_effect` — one decision, and all of them.
* `confirmRollover_changes` — **what an accepted rollover changes, and that it changes no more**.
-/

import AcadID.Gateway.Progression

namespace AcadID.RolloverEffect

open Lib Rollovers

/-! ### The decisions, written -/

/-- The enrolment once the decision that names it is written, if there is one. -/
def moved (plan : RolloverPlan) (decisions : List RolloverDecisionInput) (e : Enrolment) :
    Enrolment :=
  match decisions.find? fun d => d.enrolmentId == e.uuid with
  | some d => decided d.decision plan.env.now e
  | none => e

/-- The enrolment that the student of a decision goes on with. -/
def NextFor (plan : RolloverPlan) (s : Store) (d : RolloverDecisionInput) (next : Enrolment) :
    Prop :=
  ∃ e index, plan.enrolmentById d.enrolmentId = some e ∧ next = nextEnrolment plan d e index s

/-- The rollover record of a decision. -/
def RecordFor (plan : RolloverPlan) (d : RolloverDecisionInput) (record : RolloverRecord) : Prop :=
  ∃ e index, plan.enrolmentById d.enrolmentId = some e ∧ record = newRollover plan d e index

/-- Between `s` and `t` the decisions were written, and nothing else. -/
structure Effect (plan : RolloverPlan) (decisions : List RolloverDecisionInput) (s t : Store) :
    Prop where
  enrolments : ∃ next, t.enrolments.rows = s.enrolments.rows.map (moved plan decisions) ++ next ∧
    List.Forall₂ (NextFor plan s) (decisions.filter fun d => goesOn d.decision) next
  records : ∃ records, t.rolloverRecords.rows = s.rolloverRecords.rows ++ records ∧
    List.Forall₂ (RecordFor plan) decisions records
  frame : ∃ enrolments rolloverRecords,
    t = { s with enrolments := enrolments, rolloverRecords := rolloverRecords }

section Moved

variable {plan : RolloverPlan} {d : RolloverDecisionInput} {decisions : List RolloverDecisionInput}
  {e : Enrolment}

theorem moved_uuid (plan : RolloverPlan) (decisions : List RolloverDecisionInput) (e : Enrolment) :
    (moved plan decisions e).uuid = e.uuid := by
  unfold moved
  split <;> rfl

theorem moved_of_unnamed (unnamed : e.uuid ∉ decisions.map (·.enrolmentId)) :
    moved plan decisions e = e := by
  unfold moved
  rw [List.find?_eq_none.mpr fun d inside same => unnamed ?_]
  rw [← beq_iff_eq.mp same]
  exact List.mem_map_of_mem inside

/-- The decision that names the enrolment is the one written. -/
theorem moved_of_named (distinct : (decisions.map (·.enrolmentId)).Nodup) (inside : d ∈ decisions)
    (named : d.enrolmentId = e.uuid) :
    moved plan decisions e = decided d.decision plan.env.now e := by
  have found : decisions.find? (fun d => d.enrolmentId == e.uuid) = some d := by
    cases searched : decisions.find? fun d => d.enrolmentId == e.uuid with
    | none => exact absurd (beq_iff_eq.mpr named) (List.find?_eq_none.mp searched d inside)
    | some other =>
      have is : other.enrolmentId = e.uuid := by simpa using List.find?_some searched
      rw [List.inj_on_of_nodup_map distinct (List.mem_of_find?_eq_some searched) inside
        (is.trans named.symm)]
  unfold moved
  rw [found]

/-- The first decision is written, then the others. -/
theorem moved_cons (fresh : d.enrolmentId ∉ decisions.map (·.enrolmentId)) (e : Enrolment) :
    moved plan decisions (if e.uuid = d.enrolmentId then decided d.decision plan.env.now e else e) =
      moved plan (d :: decisions) e := by
  by_cases here : e.uuid = d.enrolmentId
  · rw [if_pos here, moved_of_unnamed (e := decided d.decision plan.env.now e)
      (show e.uuid ∉ _ from here ▸ fresh)]
    simp [moved, here]
  · rw [if_neg here]
    simp [moved, Ne.symm here]

end Moved

/-! ### One decision, and all of them -/

section Run

variable {plan : RolloverPlan} {index : ℕ} {d : RolloverDecisionInput}
  {decisions : List RolloverDecisionInput} {s t : Store}

/-- **One decision**: the enrolment it names is moved, and its record and the next enrolment are
added. -/
theorem confirmDecision_effect {row : ConfirmedRollover}
    (confirmed : confirmDecision plan index d s = .ok (row, t)) :
    (∃ next, t.enrolments.rows = (s.enrolments.rows.map fun e =>
          if e.uuid = d.enrolmentId then decided d.decision plan.env.now e else e) ++ next ∧
        List.Forall₂ (NextFor plan s) ([d].filter fun d => goesOn d.decision) next ∧
        ∀ e ∈ next, ∀ other ∈ s.enrolments.rows, other.uuid ≠ e.uuid) ∧
      (∃ record, t.rolloverRecords.rows = s.rolloverRecords.rows ++ [record] ∧
        RecordFor plan d record) ∧
      ∃ enrolments rolloverRecords,
        t = { s with enrolments := enrolments, rolloverRecords := rolloverRecords } := by
  obtain ⟨e, enrolments, rollovers, read, -, grown, continues, rfl⟩ :=
    confirmDecision_spec confirmed
  have named : e.uuid = d.enrolmentId := (enrolmentById_spec read).2
  refine ⟨?_, ⟨_, (Table.insert_eq_some.mp grown).2, e, index, read, rfl⟩, _, _, rfl⟩
  have updated := Table.rows_update s.enrolments e.uuid (decided d.decision plan.env.now)
    fun _ => rfl
  rw [named] at updated
  unfold Continues at continues
  rw [named] at continues
  by_cases on : goesOn d.decision = true
  · rw [if_pos on] at continues
    obtain ⟨free, rows⟩ := Table.insert_eq_some.mp continues
    refine ⟨[nextEnrolment plan d e index s], by rw [← updated]; exact rows, ?_, ?_⟩
    · rw [List.filter_cons_of_pos (by exact on)]
      exact .cons ⟨e, index, read, rfl⟩ .nil
    · intro next inside other there same
      rw [List.mem_singleton.mp inside] at same
      refine free (if other.uuid = d.enrolmentId then decided d.decision plan.env.now other
        else other) ?_ ?_
      · rw [updated]
        exact List.mem_map.mpr ⟨other, there, rfl⟩
      · rw [← same]
        split <;> rfl
  · rw [if_neg on] at continues
    refine ⟨[], by rw [List.append_nil, ← updated, continues], ?_, by simp⟩
    rw [List.filter_cons_of_neg (by exact on)]
    exact .nil

/-- **All decisions**, when they name different enrolments that are there. -/
theorem confirmRows_effect {rows : List ConfirmedRollover}
    (distinct : (decisions.map (·.enrolmentId)).Nodup)
    (present : ∀ d ∈ decisions, ∃ e ∈ s.enrolments.rows, e.uuid = d.enrolmentId)
    (confirmed : confirmRows plan index decisions s = .ok (rows, t)) :
    Effect plan decisions s t := by
  induction decisions generalizing index s rows with
  | nil =>
    obtain ⟨-, rfl⟩ := Prod.mk.inj (Except.ok.inj confirmed)
    refine ⟨⟨[], ?_, .nil⟩, ⟨[], (List.append_nil _).symm, .nil⟩, _, _, rfl⟩
    rw [List.append_nil]
    exact (List.map_id _).symm
  | cons d decisions ih =>
    obtain ⟨row, rest, u, first, later, -⟩ := confirmRows_cons.mp confirmed
    rw [List.map_cons, List.nodup_cons] at distinct
    obtain ⟨⟨next, rows, nexts, fresh⟩, ⟨record, recorded, isRecord⟩, enrolments, rollovers, rfl⟩ :=
      confirmDecision_effect first
    have effect := ih distinct.2 (fun d' inside => by
      obtain ⟨e, there, is⟩ := present d' (List.mem_cons_of_mem _ inside)
      refine ⟨if e.uuid = d.enrolmentId then decided d.decision plan.env.now e else e, ?_, ?_⟩
      · rw [rows]
        exact List.mem_append_left _ (List.mem_map.mpr ⟨e, there, rfl⟩)
      · rw [← is]
        split <;> rfl) later
    obtain ⟨⟨next', rows', nexts'⟩, ⟨records', recorded', areRecords⟩, enrolments', rollovers',
      rfl⟩ := effect
    refine ⟨⟨next ++ next', ?_, ?_⟩, ⟨record :: records', ?_, .cons isRecord areRecords⟩, _, _, rfl⟩
    · have stay : next.map (moved plan decisions) = next := by
        refine (List.map_congr_left fun e inside => ?_).trans (List.map_id _)
        refine moved_of_unnamed fun named => ?_
        obtain ⟨d', later', is⟩ := List.mem_map.mp named
        obtain ⟨other, there, has⟩ := present d' (List.mem_cons_of_mem _ later')
        exact fresh e inside other there (has.trans is)
      rw [rows', rows, List.map_append, stay, List.map_map, List.append_assoc]
      refine congrArg (· ++ _) (List.map_congr_left fun e _ => ?_)
      exact moved_cons distinct.1 e
    · have split : ((d :: decisions).filter fun d => goesOn d.decision) =
          ([d].filter fun d => goesOn d.decision) ++ decisions.filter fun d => goesOn d.decision :=
        List.filter_append [d] decisions
      rw [split]
      exact List.rel_append nexts nexts'
    · rw [recorded', recorded, List.append_assoc]
      rfl

end Run

/-! ### What an accepted rollover changes -/

/-- The enrolment that a promoted or repeated student goes on with: the same learner, student number
and programme, active in the target session of the decision or else of the request. -/
structure GoesOn (plan : RolloverPlan) (s : Store) (d : RolloverDecisionInput) (next : Enrolment) :
    Prop where
  of : ∃ e, s.enrolments.find? d.enrolmentId = some e ∧ next.learnerId = e.learnerId ∧
    next.institutionId = e.institutionId ∧ next.studentNumber = e.studentNumber ∧
      next.programme = e.programme
  target : ∃ target, d.toSessionId.or plan.input.toSessionId = some target ∧
    next.academicSessionId = some target
  active : next.status = .active

/-- The approved record of a decision, from the source session. -/
structure Recorded (plan : RolloverPlan) (d : RolloverDecisionInput) (record : RolloverRecord) :
    Prop where
  enrolment : record.enrolmentId = some d.enrolmentId
  decision : record.decision = d.decision
  source : record.fromSessionId = plan.input.fromSessionId
  approved : record.status = .approved

/-- Everything that the rollover changes between `s` and `t`. -/
structure Changes (plan : RolloverPlan) (s t : Store) : Prop where
  /-- Each named enrolment was active, and has the status of its decision. -/
  named : ∀ d ∈ plan.input.decisions, ∃ e, s.enrolments.find? d.enrolmentId = some e ∧
    e.status = .active ∧
      t.enrolments.find? d.enrolmentId = some (decided d.decision plan.env.now e)
  /-- Each other enrolment is as it was. -/
  others : ∀ e ∈ s.enrolments.rows, e.uuid ∉ plan.input.enrolmentIds →
    t.enrolments.find? e.uuid = some e
  /-- The enrolments that are new are those of the students who go on, one for each. -/
  created : ∃ next, t.enrolments.rows =
      s.enrolments.rows.map (moved plan plan.input.decisions) ++ next ∧
    List.Forall₂ (GoesOn plan s) (plan.input.decisions.filter fun d => goesOn d.decision) next
  /-- The rollover records that are new are those of the decisions, one for each. -/
  recorded : ∃ records, t.rolloverRecords.rows = s.rolloverRecords.rows ++ records ∧
    List.Forall₂ (Recorded plan) plan.input.decisions records
  frame : ∃ enrolments rolloverRecords,
    t = { s with enrolments := enrolments, rolloverRecords := rolloverRecords }

/-- **What an accepted rollover changes, and that it changes no more.** -/
theorem confirmRollover_changes {rt : Runtime} {c : RolloverCall} {s t : Store}
    {plan : RolloverPlan} {confirmed : List ConfirmedRollover}
    (checked : (confirmRollover rt).check c s = .ok plan)
    (committed : (confirmRollover rt).commit plan s = .ok (confirmed, t))
    (distinct : plan.input.enrolmentIds.Nodup) : Changes plan s t := by
  obtain ⟨-, -, planned⟩ := rolloverCheck_spec checked
  have read : ∀ d ∈ plan.input.decisions, ∃ e, s.enrolments.find? d.enrolmentId = some e ∧
      e.status = .active ∧ e.institutionId = plan.institution.uuid := by
    intro d inside
    obtain ⟨e, eligible, is⟩ := planned.named d.enrolmentId (List.mem_map_of_mem inside)
    rw [planned.enrolments] at eligible
    obtain ⟨there, institution, -, active⟩ := mem_eligible eligible
    exact ⟨e, Table.find?_eq_some.mpr ⟨there, is⟩, active, institution⟩
  have byId : ∀ {d : RolloverDecisionInput} {e : Enrolment},
      plan.enrolmentById d.enrolmentId = some e → s.enrolments.find? d.enrolmentId = some e := by
    intro d e found
    obtain ⟨eligible, is⟩ := enrolmentById_spec found
    rw [planned.enrolments] at eligible
    exact Table.find?_eq_some.mpr ⟨(mem_eligible eligible).1, is⟩
  have effect := confirmRows_effect distinct (fun d inside => by
    obtain ⟨e, found, -, -⟩ := read d inside
    exact ⟨e, Table.find?_mem found, Table.find?_key found⟩) committed
  obtain ⟨⟨next, rows, nexts⟩, ⟨records, recorded, areRecords⟩, frame⟩ := effect
  have after : ∀ e ∈ s.enrolments.rows,
      t.enrolments.find? e.uuid = some (moved plan plan.input.decisions e) := by
    intro e there
    refine Table.find?_eq_some.mpr ⟨?_, moved_uuid _ _ e⟩
    rw [rows]
    exact List.mem_append_left _ (List.mem_map_of_mem there)
  refine ⟨fun d inside => ?_, fun e there unnamed => ?_, ⟨next, rows, ?_⟩,
    ⟨records, recorded, ?_⟩, frame⟩
  · obtain ⟨e, found, active, -⟩ := read d inside
    refine ⟨e, found, active, ?_⟩
    have is := Table.find?_key found
    rw [← is, after e (Table.find?_mem found), moved_of_named distinct inside is.symm]
  · rw [after e there, moved_of_unnamed unnamed]
  · refine List.forall₂_iff_zip.mpr ⟨nexts.length_eq, fun {d next} inside => ?_⟩
    obtain ⟨e, index, found, rfl⟩ := List.forall₂_zip nexts inside
    have member := List.mem_filter.mp (List.of_mem_zip inside).1
    obtain ⟨e', found', -, institution⟩ := read d member.1
    obtain rfl := Option.some.inj (found'.symm.trans (byId found))
    have target := planned.targets d member.1
    unfold assertDecisionTarget at target
    rw [if_pos member.2] at target
    obtain ⟨session, is, -⟩ := bind_eq_ok.mp target
    exact ⟨⟨_, found', rfl, institution.symm, rfl, rfl⟩,
      ⟨session, orThrow_eq_ok.mp is, orThrow_eq_ok.mp is⟩, rfl⟩
  · exact areRecords.imp fun d record is => by
      obtain ⟨e, index, found, rfl⟩ := is
      exact ⟨congrArg some (enrolmentById_spec found).2, rfl, rfl, rfl⟩

/-- The promotion, with the ids that it names. -/
def promoted : Except ServiceError (RolloverPlan × List ConfirmedRollover × Store) := do
  let plan ← (confirmRollover .plain).check (Progression.promotion 0) Progression.threeSessions
  let written ← (confirmRollover .plain).commit plan Progression.threeSessions
  return (plan, written)

theorem promoted_names : promoted.toOption.map (fun ran => decide ran.1.input.enrolmentIds.Nodup) =
    some true := by
  decide

/-- A student promoted to the second session. -/
theorem confirmRollover_changes_once : ∃ plan confirmed t,
    (confirmRollover .plain).commit plan Progression.threeSessions = .ok (confirmed, t) ∧
      Changes plan Progression.threeSessions t := by
  obtain ⟨⟨plan, confirmed, t⟩, ran, distinct⟩ := of_toOption promoted_names
  obtain ⟨plan', checked, rest⟩ := bind_eq_ok.mp ran
  obtain ⟨⟨confirmed', t'⟩, committed, same⟩ := bind_eq_ok.mp rest
  obtain ⟨rfl, written⟩ := Prod.mk.inj (pure_eq_ok.mp same)
  obtain ⟨rfl, rfl⟩ := Prod.mk.inj written
  exact ⟨plan', confirmed', t', committed, confirmRollover_changes checked committed
    (of_decide_eq_true distinct)⟩

end AcadID.RolloverEffect
