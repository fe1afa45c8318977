/-
**Who the rows of a student register are attributed to.**

* `Ingested` — what a run over the rows of a register leaves: learners and enrolments stay, what is
  added is active and of a learner with the name and the birth date of a row, and every row of the
  answer has the AIN of the learner that is enrolled under its student number.
* `ingestRow_ingested`, `ingestRows_ingested` — one row, and all of them.
* `ingestRows_enrolled` — a register whose student numbers are all enrolled adds nothing.
* `ingest_twice` — **the counters of an ingestion, and of the same register once more**.
* `attributes_iff` — **exactly when every row is attributed to the person it names**.
-/

import AcadID.Gateway.AinAllocation

namespace AcadID

open Lib

namespace Students

open Rollovers

/-! ### Enrolled student numbers -/

/-- The schema's constraints on enrolments and learners that no table carries itself. -/
structure LearnerConstraints (s : Store) : Prop where
  enrolments : ∀ e ∈ s.enrolments.rows, ∀ e' ∈ s.enrolments.rows, enrolmentKey e = enrolmentKey e' →
    e.uuid = e'.uuid
  ains : ∀ l ∈ s.learners.rows, ∀ l' ∈ s.learners.rows, l.ain = l'.ain → l.uuid = l'.uuid
  owners : ∀ e ∈ s.enrolments.rows, (s.learners.find? e.learnerId).isSome

/-- The student number has an active enrolment at the institution, of this learner. -/
structure EnrolledAs (institutionId : Uuid) (s : Store) (studentNumber : String) (e : Enrolment)
    (learner : Learner) : Prop where
  enrolled : e ∈ s.enrolments.rows
  key : enrolmentKey e = (institutionId, studentNumber, .active)
  learner : s.learners.find? e.learnerId = some learner

/-- The learner has the name and the birth date of the row. -/
def Names (rt : Runtime) (row : StudentRegisterRow) (learner : Learner) : Prop :=
  learner.fullName = row.fullName ∧ rt.parseDate row.dateOfBirth = some learner.dateOfBirth

/-- The answer has the row's student number, and the AIN of the learner enrolled under it. -/
def Answers (institutionId : Uuid) (s : Store) (row : StudentRegisterRow)
    (registered : RegisteredRow) : Prop :=
  registered.studentNumber = row.studentNumber ∧
    ∃ e learner, EnrolledAs institutionId s row.studentNumber e learner ∧
      registered.ain = learner.ain

section Enrolled

variable {institutionId : Uuid} {s : Store} {studentNumber : String} {e e' : Enrolment}
  {learner learner' : Learner}

theorem matches_iff : (e.institutionId == institutionId && e.studentNumber == studentNumber &&
    e.status == .active) = true ↔ enrolmentKey e = (institutionId, studentNumber, .active) := by
  rw [Bool.and_eq_true, Bool.and_eq_true, beq_iff_eq, beq_iff_eq, beq_iff_eq, and_assoc]
  constructor
  · rintro ⟨institution, number, status⟩
    exact Prod.ext institution (Prod.ext number status)
  · intro key
    exact ⟨congrArg Prod.fst key, congrArg (·.2.1) key, congrArg (·.2.2) key⟩

theorem LearnerConstraints.enrolment_eq (constraints : LearnerConstraints s)
    (here : e ∈ s.enrolments.rows) (there : e' ∈ s.enrolments.rows)
    (same : enrolmentKey e = enrolmentKey e') : e = e' :=
  Table.eq_of_key_eq here there (constraints.enrolments e here e' there same)

/-- One learner is enrolled under a student number. -/
theorem EnrolledAs.unique (constraints : LearnerConstraints s)
    (first : EnrolledAs institutionId s studentNumber e learner)
    (second : EnrolledAs institutionId s studentNumber e' learner') :
    e = e' ∧ learner = learner' := by
  obtain rfl := constraints.enrolment_eq first.enrolled second.enrolled
    (first.key.trans second.key.symm)
  exact ⟨rfl, Option.some.inj (first.learner.symm.trans second.learner)⟩

end Enrolled

/-! ### What a run over the rows leaves -/

/-- Between `s` and `t` the rows were ingested, and answered by `answers`. -/
structure Ingested (rt : Runtime) (institutionId : Uuid) (rows : List StudentRegisterRow)
    (answers : List RegisteredRow) (s t : Store) : Prop where
  learners : ∀ id learner, s.learners.find? id = some learner →
    t.learners.find? id = some learner
  enrolments : ∀ e ∈ s.enrolments.rows, e ∈ t.enrolments.rows
  added : ∀ e ∈ t.enrolments.rows, e ∈ s.enrolments.rows ∨
    ∃ row ∈ rows, ∃ learner, EnrolledAs institutionId t row.studentNumber e learner ∧
      Names rt row learner
  constraints : LearnerConstraints t
  answered : List.Forall₂ (Answers institutionId t) rows answers

section Run

variable {rt : Runtime} {institutionId : Uuid} {s t u : Store}

theorem EnrolledAs.kept {rows : List StudentRegisterRow} {answers : List RegisteredRow}
    {studentNumber : String} {e : Enrolment} {learner : Learner}
    (enrolled : EnrolledAs institutionId s studentNumber e learner)
    (ingested : Ingested rt institutionId rows answers s t) :
    EnrolledAs institutionId t studentNumber e learner :=
  ⟨ingested.enrolments e enrolled.enrolled, enrolled.key,
    ingested.learners _ _ enrolled.learner⟩

theorem Ingested.refl (constraints : LearnerConstraints s) :
    Ingested rt institutionId [] [] s s where
  learners _ _ found := found
  enrolments _ inside := inside
  added _ inside := .inl inside
  constraints := constraints
  answered := .nil

/-- **The rows in two parts.** -/
theorem Ingested.trans {rows rows' : List StudentRegisterRow}
    {answers answers' : List RegisteredRow} (first : Ingested rt institutionId rows answers s t)
    (second : Ingested rt institutionId rows' answers' t u) :
    Ingested rt institutionId (rows ++ rows') (answers ++ answers') s u where
  learners id learner found := second.learners id learner (first.learners id learner found)
  enrolments e inside := second.enrolments e (first.enrolments e inside)
  added e inside := by
    rcases second.added e inside with before | ⟨row, member, learner, enrolled, named⟩
    · rcases first.added e before with old | ⟨row, member, learner, enrolled, named⟩
      · exact .inl old
      · exact .inr ⟨row, List.mem_append_left _ member, learner, enrolled.kept second, named⟩
    · exact .inr ⟨row, List.mem_append_right _ member, learner, enrolled, named⟩
  constraints := second.constraints
  answered := by
    refine List.rel_append (first.answered.imp fun row registered answers => ?_) second.answered
    obtain ⟨number, e, learner, enrolled, ain⟩ := answers
    exact ⟨number, e, learner, enrolled.kept second, ain⟩

end Run

/-! ### One row -/

section Row

variable {rt : Runtime} {plan : StudentsPlan} {index : ℕ} {row : StudentRegisterRow}
  {register register' : Register} {s t : Store}

/-- A learner found or created, with the name and the birth date of the row. -/
theorem learnerFor_names {entryDate dateOfBirth : Time} {learner : Learner}
    (parsed : rt.parseDate row.dateOfBirth = some dateOfBirth) (constraints : LearnerConstraints s)
    (found : learnerFor plan entryDate index row dateOfBirth register s =
      .ok (learner, register', t)) :
    Names rt row learner ∧ t.learners.find? learner.uuid = some learner ∧
      (∀ id other, s.learners.find? id = some other → t.learners.find? id = some other) ∧
      t.enrolments = s.enrolments ∧ LearnerConstraints t := by
  unfold learnerFor at found
  split at found
  · rename_i known there
    obtain ⟨rfl, same⟩ := Prod.mk.inj (Except.ok.inj found)
    obtain ⟨-, rfl⟩ := Prod.mk.inj same
    obtain ⟨inside, is⟩ := findFirst_eq_some there
    rw [Bool.and_eq_true, beq_iff_eq, beq_iff_eq] at is
    exact ⟨⟨is.1, is.2 ▸ parsed⟩, Table.find?_eq_some.mpr ⟨inside, rfl⟩, fun _ _ => id, rfl,
      constraints⟩
  · obtain ⟨u, created, same⟩ := bind_eq_ok.mp found
    rw [pure_eq_ok] at same
    obtain ⟨isNew, same⟩ := Prod.mk.inj same
    obtain ⟨-, rfl⟩ := Prod.mk.inj same
    rw [isNew] at created
    obtain ⟨free, learners, inserted, rfl⟩ := createLearner_eq_ok.mp created
    have grows : ∀ id other, s.learners.find? id = some other →
        learners.find? id = some other := by
      intro id other known
      refine (Table.find?_insert inserted id).trans ?_
      rw [if_neg fun same => ?_, known]
      have there := Table.find?_eq_some.mp known
      exact (Table.insert_eq_some.mp inserted).1 other there.1 (there.2.trans same.symm)
    refine ⟨isNew ▸ ⟨rfl, parsed⟩, ?_, grows, rfl, constraints.enrolments, ?_, fun e inside => ?_⟩
    · exact (Table.find?_insert inserted _).trans (if_pos rfl)
    · intro l here l' there alike
      rw [(Table.insert_eq_some.mp inserted).2, List.mem_append, List.mem_singleton] at here there
      rcases here with old | rfl
      · rcases there with old' | rfl
        · exact constraints.ains l old l' old' alike
        · exact absurd alike (free l old)
      · rcases there with old' | rfl
        · exact absurd alike.symm (free l' old')
        · rfl
    · obtain ⟨owner, known⟩ := Option.isSome_iff_exists.mp (constraints.owners e inside)
      exact Option.isSome_iff_exists.mpr ⟨owner, grows _ owner known⟩

/-- How the counters of an answer add up. -/
structure Counts (register register' : Register) (n : ℕ) : Prop where
  rows : register'.createdEnrolments + register'.existingEnrolments =
    register.createdEnrolments + register.existingEnrolments + n
  learners : register'.createdLearners + register'.linkedLearners + register.createdEnrolments =
    register.createdLearners + register.linkedLearners + register'.createdEnrolments

/-- The counters while the learner of a row is found or created. -/
theorem learnerFor_counts {entryDate dateOfBirth : Time} {learner : Learner}
    (found : learnerFor plan entryDate index row dateOfBirth register s =
      .ok (learner, register', t)) :
    register'.createdLearners + register'.linkedLearners =
        register.createdLearners + register.linkedLearners + 1 ∧
      register'.createdEnrolments = register.createdEnrolments ∧
      register'.existingEnrolments = register.existingEnrolments ∧
      register'.rows = register.rows := by
  unfold learnerFor at found
  split at found
  · obtain ⟨-, same⟩ := Prod.mk.inj (Except.ok.inj found)
    obtain ⟨rfl, -⟩ := Prod.mk.inj same
    exact ⟨by dsimp only; omega, rfl, rfl, rfl⟩
  · obtain ⟨u, -, result⟩ := bind_eq_ok.mp found
    obtain ⟨-, same⟩ := Prod.mk.inj (pure_eq_ok.mp result)
    obtain ⟨rfl, -⟩ := Prod.mk.inj same
    exact ⟨by dsimp only; omega, rfl, rfl, rfl⟩

/-- **One row** is answered, and the counters count it. -/
theorem ingestRow_ingested (constraints : LearnerConstraints s)
    (ingested : ingestRow rt plan index row register s = .ok (register', t)) :
    Counts register register' 1 ∧ ∃ answer, register'.rows = register.rows ++ [answer] ∧
      Ingested rt plan.authority.institutionUuid [row] [answer] s t := by
  unfold ingestRow at ingested
  split at ingested
  · rename_i existing there
    obtain ⟨inside, is⟩ := findFirst_eq_some there
    obtain ⟨learner, known, result⟩ := bind_eq_ok.mp ingested
    obtain ⟨rfl, rfl⟩ := Prod.mk.inj (pure_eq_ok.mp result)
    have enrolled : EnrolledAs plan.authority.institutionUuid s row.studentNumber existing
        learner := ⟨inside, matches_iff.mp is, orThrow_eq_ok.mp known⟩
    refine ⟨⟨by dsimp only; omega, rfl⟩, _, rfl, ?_⟩
    exact
      { learners := fun _ _ => id
        enrolments := fun _ => id
        added := fun _ => .inl
        constraints := constraints
        answered := .cons ⟨rfl, existing, learner, enrolled, rfl⟩ .nil }
  · obtain ⟨dateOfBirth, parsed, rest⟩ := bind_eq_ok.mp ingested
    obtain ⟨entryDate, -, rest⟩ := bind_eq_ok.mp rest
    obtain ⟨⟨learner, register₁, s₁⟩, found, rest⟩ := bind_eq_ok.mp rest
    obtain ⟨s₂, created, result⟩ := bind_eq_ok.mp rest
    obtain ⟨rfl, rfl⟩ := Prod.mk.inj (pure_eq_ok.mp result)
    obtain ⟨learners, unchanged, existing, rows⟩ := learnerFor_counts found
    obtain ⟨named, known, grows, same, constraints₁⟩ :=
      learnerFor_names (orThrow_eq_ok.mp parsed) constraints found
    obtain ⟨-, -, free, enrolments, inserted, rfl⟩ := createEnrolment_eq_ok.mp created
    have all := (Table.insert_eq_some.mp inserted).2
    have enrolled : EnrolledAs plan.authority.institutionUuid { s₁ with enrolments := enrolments }
        row.studentNumber (newEnrolment plan entryDate index row learner) learner :=
      ⟨by rw [all]; simp, rfl, known⟩
    refine ⟨⟨by dsimp only; omega, by dsimp only; omega⟩, _, by rw [rows], ?_⟩
    exact
      { learners := grows
        enrolments := fun e inside => by
          rw [all, same]
          exact List.mem_append_left _ inside
        added := fun e inside => by
          rw [all, same, List.mem_append, List.mem_singleton] at inside
          rcases inside with old | rfl
          · exact .inl old
          · exact .inr ⟨row, List.mem_singleton_self _, learner, enrolled, named⟩
        constraints :=
          { enrolments := fun e here e' there alike => by
              rw [all, List.mem_append, List.mem_singleton] at here there
              rcases here with old | rfl
              · rcases there with old' | rfl
                · exact constraints₁.enrolments e old e' old' alike
                · exact absurd alike (free e old)
              · rcases there with old' | rfl
                · exact absurd alike.symm (free e' old')
                · rfl
            ains := constraints₁.ains
            owners := fun e inside => by
              rw [all, List.mem_append, List.mem_singleton] at inside
              rcases inside with old | rfl
              · exact constraints₁.owners e old
              · exact Option.isSome_iff_exists.mpr ⟨learner, known⟩ }
        answered := .cons ⟨rfl, _, learner, enrolled, rfl⟩ .nil }

/-- **All rows.** -/
theorem ingestRows_ingested {rows : List StudentRegisterRow} (constraints : LearnerConstraints s)
    (ingested : ingestRows rt plan index rows register s = .ok (register', t)) :
    Counts register register' rows.length ∧ ∃ answers, register'.rows = register.rows ++ answers ∧
      Ingested rt plan.authority.institutionUuid rows answers s t := by
  induction rows generalizing index register s with
  | nil =>
    obtain ⟨rfl, rfl⟩ := Prod.mk.inj (Except.ok.inj ingested)
    exact ⟨⟨rfl, rfl⟩, [], (List.append_nil _).symm, .refl constraints⟩
  | cons row rows ih =>
    obtain ⟨⟨register₁, s₁⟩, first, rest⟩ := bind_eq_ok.mp ingested
    obtain ⟨counts, answer, listed, here⟩ := ingestRow_ingested constraints first
    obtain ⟨counts', answers, listed', later⟩ := ih here.constraints rest
    refine ⟨⟨?_, ?_⟩, answer :: answers, ?_, here.trans later⟩
    · rw [counts'.rows, counts.rows, List.length_cons]
      omega
    · have one := counts.learners
      have all := counts'.learners
      omega
    · rw [listed', listed, List.append_assoc]
      rfl

/-- A row whose student number is enrolled changes nothing but the answer. -/
theorem ingestRow_enrolled {e : Enrolment} {learner : Learner} (constraints : LearnerConstraints s)
    (enrolled : EnrolledAs plan.authority.institutionUuid s row.studentNumber e learner) :
    ingestRow rt plan index row register s = .ok ({ register with
      existingEnrolments := register.existingEnrolments + 1
      rows := register.rows ++ [⟨row.studentNumber, learner.ain, .alreadyEnrolled⟩] }, s) := by
  have found := findFirst_of_only enrolled.enrolled (matches_iff.mpr enrolled.key)
    (fun e' inside is => constraints.enrolment_eq inside enrolled.enrolled
      ((matches_iff.mp is).trans enrolled.key.symm)) (plan.env.rowPick index)
  unfold ingestRow
  rw [found]
  exact bind_eq_ok.mpr ⟨learner, orThrow_eq_ok.mpr enrolled.learner, rfl⟩

/-- **A register whose student numbers are all enrolled** adds nothing. -/
theorem ingestRows_enrolled {rows : List StudentRegisterRow} (constraints : LearnerConstraints s)
    (enrolled : ∀ row ∈ rows, ∃ e learner,
      EnrolledAs plan.authority.institutionUuid s row.studentNumber e learner) :
    ∃ answers, ingestRows rt plan index rows register s = .ok ({ register with
        existingEnrolments := register.existingEnrolments + rows.length
        rows := register.rows ++ answers }, s) ∧
      answers.map (·.studentNumber) = rows.map (·.studentNumber) ∧
      ∀ answer ∈ answers, answer.status = .alreadyEnrolled := by
  induction rows generalizing index register with
  | nil => exact ⟨[], by rw [List.append_nil]; rfl, rfl, by simp⟩
  | cons row rows ih =>
    obtain ⟨e, learner, here⟩ := enrolled row (List.mem_cons_self ..)
    obtain ⟨answers, later, numbers, statuses⟩ := @ih (index + 1)
      { register with
        existingEnrolments := register.existingEnrolments + 1
        rows := register.rows ++ [⟨row.studentNumber, learner.ain, .alreadyEnrolled⟩] }
      fun row inside => enrolled row (List.mem_cons_of_mem _ inside)
    refine ⟨⟨row.studentNumber, learner.ain, .alreadyEnrolled⟩ :: answers, ?_, ?_, ?_⟩
    · refine bind_eq_ok.mpr ⟨_, ingestRow_enrolled constraints here, later.trans ?_⟩
      rw [List.length_cons, List.append_assoc, Nat.add_assoc, Nat.add_comm 1]
      rfl
    · rw [List.map_cons, List.map_cons, numbers]
    · exact List.forall_mem_cons.mpr ⟨rfl, statuses⟩

end Row

/-! ### A register twice -/

section Twice

variable {rt : Runtime} {c : StudentsCall} {s : Store}

/-- One active enrolment of the institution has the student number. -/
def EnrolledOnce (institutionId : Uuid) (s : Store) (studentNumber : String) : Prop :=
  ∃! e, e ∈ s.enrolments.rows ∧ e.institutionId = institutionId ∧
    e.studentNumber = studentNumber ∧ e.status = .active

theorem enrolledOnce_of_enrolledAs {institutionId : Uuid} {studentNumber : String} {e : Enrolment}
    {learner : Learner} (constraints : LearnerConstraints s)
    (enrolled : EnrolledAs institutionId s studentNumber e learner) :
    EnrolledOnce institutionId s studentNumber := by
  refine ⟨e, ⟨enrolled.enrolled, congrArg Prod.fst enrolled.key, congrArg (·.2.1) enrolled.key,
    congrArg (·.2.2) enrolled.key⟩, ?_⟩
  rintro e' ⟨inside, institution, number, status⟩
  exact constraints.enrolment_eq inside enrolled.enrolled
    ((Prod.ext institution (Prod.ext number status)).trans enrolled.key.symm)

theorem constraints_audit {event : AuditEvent} (constraints : LearnerConstraints s) :
    LearnerConstraints (s.audit event) :=
  ⟨constraints.enrolments, constraints.ains, constraints.owners⟩

theorem exists_of_forall₂ {α β : Type} {R : α → β → Prop} {as : List α} {bs : List β}
    (related : List.Forall₂ R as bs) {a : α} (inside : a ∈ as) : ∃ b ∈ bs, R a b := by
  induction related with
  | nil => exact absurd inside (by simp)
  | cons here later ih =>
    rcases List.mem_cons.mp inside with rfl | after
    · exact ⟨_, List.mem_cons_self .., here⟩
    · obtain ⟨b, member, holds⟩ := ih after
      exact ⟨b, List.mem_cons_of_mem _ member, holds⟩

/-- The plan has the register of the body. -/
theorem input_of_checked {plan : StudentsPlan}
    (checked : (ingestStudents rt).check c s = .ok plan) :
    parseBody (ingestStudentRegisterSchema rt) c.body = .ok plan.input := by
  obtain ⟨input, parsed, rest⟩ := bind_eq_ok.mp checked
  obtain ⟨authority, -, rest⟩ := bind_eq_ok.mp rest
  rw [← pure_eq_ok.mp rest]
  exact parsed

/-- What a register answers when it adds nothing. -/
structure AddsNothing (rows : List StudentRegisterRow) (register : Register) : Prop where
  createdLearners : register.createdLearners = 0
  linkedLearners : register.linkedLearners = 0
  createdEnrolments : register.createdEnrolments = 0
  existingEnrolments : register.existingEnrolments = rows.length
  numbers : register.rows.map (·.studentNumber) = rows.map (·.studentNumber)
  statuses : ∀ row ∈ register.rows, row.status = .alreadyEnrolled

/-- **An ingestion that ran alone** counts each of its rows once and leaves each student number with
one active enrolment; the same register of the same institution once more adds nothing. -/
theorem ingest_twice {plan : StudentsPlan} {register : Register} {t : Store}
    (constraints : LearnerConstraints s) (checked : (ingestStudents rt).check c s = .ok plan)
    (committed : (ingestStudents rt).commit plan s = .ok (register, t)) :
    register.createdEnrolments + register.existingEnrolments = plan.input.rows.length ∧
      register.createdLearners + register.linkedLearners = register.createdEnrolments ∧
      (∀ row ∈ plan.input.rows,
        EnrolledOnce plan.authority.institutionUuid t row.studentNumber) ∧
      ∀ (c' : StudentsCall) (plan' : StudentsPlan), c'.body = c.body →
        (ingestStudents rt).check c' ((ingestStudents rt).log plan register t) = .ok plan' →
        plan'.authority.institutionUuid = plan.authority.institutionUuid →
        ∃ register', (ingestStudents rt).commit plan' ((ingestStudents rt).log plan register t) =
            .ok (register', (ingestStudents rt).log plan register t) ∧
          AddsNothing plan.input.rows register' := by
  obtain ⟨counts, answers, -, ingested⟩ := ingestRows_ingested constraints committed
  have enrolled : ∀ row ∈ plan.input.rows, ∃ e learner,
      EnrolledAs plan.authority.institutionUuid t row.studentNumber e learner := by
    intro row inside
    obtain ⟨answer, -, -, e, learner, here, -⟩ := exists_of_forall₂ ingested.answered inside
    exact ⟨e, learner, here⟩
  refine ⟨counts.rows.trans (Nat.zero_add _), ?_, fun row inside => ?_, ?_⟩
  · exact counts.learners.trans (Nat.zero_add _)
  · obtain ⟨e, learner, here⟩ := enrolled row inside
    exact enrolledOnce_of_enrolledAs ingested.constraints here
  · intro c' plan' body checked' institution
    have input : plan'.input = plan.input := by
      have again := input_of_checked checked'
      rw [body, input_of_checked checked] at again
      exact (Except.ok.inj again).symm
    have again : ∀ row ∈ plan'.input.rows, ∃ e learner,
        EnrolledAs plan'.authority.institutionUuid ((ingestStudents rt).log plan register t)
          row.studentNumber e learner := by
      intro row inside
      rw [institution]
      obtain ⟨e, learner, here⟩ := enrolled row (input ▸ inside)
      exact ⟨e, learner, here.enrolled, here.key, here.learner⟩
    obtain ⟨answers', ran, numbers, statuses⟩ :=
      @ingestRows_enrolled rt plan' 0 (emptyRegister ((ingestStudents rt).log plan register t))
        ((ingestStudents rt).log plan register t) plan'.input.rows
        (constraints_audit ingested.constraints) again
    refine ⟨_, ran, ?_⟩
    rw [← input]
    exact
      { createdLearners := rfl
        linkedLearners := rfl
        createdEnrolments := rfl
        existingEnrolments := Nat.zero_add _
        numbers := numbers
        statuses := statuses }

end Twice

/-! ### Exactly when every row is attributed to the person it names -/

section Attributed

variable {rt : Runtime} {plan : StudentsPlan} {s t : Store} {register : Register}

/-- The answer has the AIN of a learner with the name and the birth date of the row. -/
def AttributedTo (rt : Runtime) (s : Store) (row : StudentRegisterRow)
    (registered : RegisteredRow) : Prop :=
  registered.studentNumber = row.studentNumber ∧
    ∃ learner ∈ s.learners.rows, registered.ain = learner.ain ∧ Names rt row learner

/-- The register agrees with the enrolments that are there, and with itself: a student number stands
for one name and one birth date. -/
structure Coherent (rt : Runtime) (institutionId : Uuid) (rows : List StudentRegisterRow)
    (s : Store) : Prop where
  enrolled : ∀ row ∈ rows, ∀ e learner, EnrolledAs institutionId s row.studentNumber e learner →
    Names rt row learner
  repeated : ∀ row ∈ rows, ∀ row' ∈ rows, row.studentNumber = row'.studentNumber →
    row.fullName = row'.fullName ∧ rt.parseDate row.dateOfBirth = rt.parseDate row'.dateOfBirth

theorem Names.congr {row row' : StudentRegisterRow} {learner : Learner}
    (same : row.fullName = row'.fullName ∧
      rt.parseDate row.dateOfBirth = rt.parseDate row'.dateOfBirth)
    (named : Names rt row learner) : Names rt row' learner :=
  ⟨named.1.trans same.1, same.2.symm.trans named.2⟩

/-- An answer is attributed to the person the row names exactly when the learner that is enrolled
under its student number is that person. -/
theorem attributedTo_iff {institutionId : Uuid} {row : StudentRegisterRow}
    {registered : RegisteredRow} {e : Enrolment} {learner : Learner}
    (constraints : LearnerConstraints s)
    (enrolled : EnrolledAs institutionId s row.studentNumber e learner)
    (answers : Answers institutionId s row registered) :
    AttributedTo rt s row registered ↔ Names rt row learner := by
  obtain ⟨number, e', learner', enrolled', ain⟩ := answers
  obtain ⟨rfl, rfl⟩ := enrolled.unique constraints enrolled'
  have inside := Table.find?_mem enrolled.learner
  constructor
  · rintro ⟨-, other, member, same, named⟩
    obtain rfl : learner = other :=
      Table.eq_of_key_eq inside member (constraints.ains _ inside _ member (ain.symm.trans same))
    exact named
  · intro named
    exact ⟨number, learner, inside, ain, named⟩

/-- The same of all answers. -/
theorem attributed_iff {institutionId : Uuid} {rows : List StudentRegisterRow}
    {answers : List RegisteredRow} (constraints : LearnerConstraints s)
    (answered : List.Forall₂ (Answers institutionId s) rows answers) :
    List.Forall₂ (AttributedTo rt s) rows answers ↔ ∀ row ∈ rows, ∀ e learner,
      EnrolledAs institutionId s row.studentNumber e learner → Names rt row learner := by
  induction answered with
  | nil => simp
  | cons here later ih =>
    rw [List.forall₂_cons, ih, List.forall_mem_cons]
    refine and_congr_left fun _ => ⟨fun attributed e learner enrolled => ?_, fun named => ?_⟩
    · exact (attributedTo_iff constraints enrolled here).mp attributed
    · have ⟨_, e, learner, enrolled, _⟩ := here
      exact (attributedTo_iff constraints enrolled here).mpr (named e learner enrolled)

/-- **Every row is attributed to the person it names** exactly when the register is coherent. -/
theorem attributes_iff (constraints : LearnerConstraints s)
    (committed : (ingestStudents rt).commit plan s = .ok (register, t)) :
    List.Forall₂ (AttributedTo rt t) plan.input.rows register.rows ↔
      Coherent rt plan.authority.institutionUuid plan.input.rows s := by
  obtain ⟨-, answers, listed, ingested⟩ := ingestRows_ingested constraints committed
  obtain rfl : register.rows = answers := listed
  rw [attributed_iff ingested.constraints ingested.answered]
  constructor
  · intro named
    constructor
    · intro row inside e learner enrolled
      exact named row inside e learner (enrolled.kept ingested)
    · intro row inside row' inside' same
      obtain ⟨registered, -, -, e, learner, enrolled, -⟩ :=
        exists_of_forall₂ ingested.answered inside
      have first := named row inside e learner enrolled
      have second := named row' inside' e learner (same ▸ enrolled)
      exact ⟨first.1.symm.trans second.1, first.2.trans second.2.symm⟩
  · intro coherent row inside e learner enrolled
    rcases ingested.added e enrolled.enrolled with old | ⟨row', inside', learner', enrolled', named⟩
    · obtain ⟨owner, known⟩ := Option.isSome_iff_exists.mp (constraints.owners e old)
      have same := (ingested.learners _ owner known).symm.trans enrolled.learner
      exact coherent.enrolled row inside e learner ⟨old, enrolled.key, known.trans same⟩
    · obtain rfl := Option.some.inj (enrolled.learner.symm.trans enrolled'.learner)
      have number : row'.studentNumber = row.studentNumber :=
        congrArg (·.2.1) (enrolled'.key.symm.trans enrolled.key)
      exact named.congr (coherent.repeated row' inside' row inside number)

end Attributed

/-! ### Two students of one number -/

open AinAllocation (school calendar)

/-- A row of the register. -/
def studentRow (fullName studentNumber : String) : Json :=
  .obj
    [("fullName", .str fullName), ("dateOfBirth", .str "2012-05-04"),
      ("studentNumber", .str studentNumber), ("level", .str "JSS 1"), ("programme", .str "Science")]

/-- The register of some students, whose rows are numbered from `digit`. -/
def registerOf (rows : List Json) : StudentsCall where
  env :=
    { pick := 0
      rowPick := fun _ => 0
      checkedAt := 1
      enteredAt := 2
      learnerUuid := fun index => "40000000-0000-4000-8000-00000000000" ++ toString index
      enrolmentUuid := fun index => "30000000-0000-4000-8000-00000000000" ++ toString index }
  auth := BatchHistory.founder
  body := .obj
    [("institutionId", .str "ACD-0001"), ("entryDate", .str "2024-09-01"), ("rows", .arr rows)]

/-- The ingestion of a register in the school, and the check of the same register after it. -/
def ranTwice (rows : List Json) :
    Except ServiceError (StudentsPlan × Register × Store × StudentsPlan) := do
  let plan ← (ingestStudents calendar).check (registerOf rows) school
  let (register, t) ← (ingestStudents calendar).commit plan school
  let plan' ← (ingestStudents calendar).check (registerOf rows)
    ((ingestStudents calendar).log plan register t)
  return (plan, register, t, plan')

theorem ranTwice_eq_ok {rows : List Json} {plan plan' : StudentsPlan} {register : Register}
    {t : Store} (ran : ranTwice rows = .ok (plan, register, t, plan')) :
    (ingestStudents calendar).check (registerOf rows) school = .ok plan ∧
      (ingestStudents calendar).commit plan school = .ok (register, t) ∧
      (ingestStudents calendar).check (registerOf rows)
        ((ingestStudents calendar).log plan register t) = .ok plan' := by
  obtain ⟨plan₁, checked, rest⟩ := bind_eq_ok.mp ran
  obtain ⟨⟨register₁, t₁⟩, committed, rest⟩ := bind_eq_ok.mp rest
  obtain ⟨plan₂, checked', result⟩ := bind_eq_ok.mp rest
  obtain ⟨rfl, left⟩ := Prod.mk.inj (pure_eq_ok.mp result)
  obtain ⟨rfl, last⟩ := Prod.mk.inj left
  obtain ⟨rfl, rfl⟩ := Prod.mk.inj last
  exact ⟨checked, committed, checked'⟩

theorem constraints_school : LearnerConstraints school :=
  ⟨fun _ inside => absurd inside List.not_mem_nil,
    fun _ inside => absurd inside List.not_mem_nil,
    fun _ inside => absurd inside List.not_mem_nil⟩

theorem ada_institution : (ranTwice [studentRow "Ada Obi" "S-1"]).toOption.map (fun ran =>
    decide (ran.2.2.2.authority.institutionUuid = ran.1.authority.institutionUuid)) =
      some true := by
  decide

/-- A register of one student, ingested twice. -/
theorem ingest_twice_ada : ∃ plan register t register',
    (ingestStudents calendar).commit plan school = .ok (register, t) ∧
      register.createdEnrolments + register.existingEnrolments = plan.input.rows.length ∧
      AddsNothing plan.input.rows register' := by
  obtain ⟨⟨plan, register, t, plan'⟩, ran, same⟩ := of_toOption ada_institution
  obtain ⟨checked, committed, checked'⟩ := ranTwice_eq_ok ran
  obtain ⟨counted, -, -, again⟩ := ingest_twice constraints_school checked committed
  obtain ⟨register', -, nothing⟩ := again _ plan' rfl checked' (of_decide_eq_true same)
  exact ⟨plan, register, t, register', committed, counted, nothing⟩

/-- Its row is attributed to the student. -/
theorem attributes_iff_ada : ∃ plan register t,
    (ingestStudents calendar).commit plan school = .ok (register, t) ∧
      (List.Forall₂ (AttributedTo calendar t) plan.input.rows register.rows ↔
        Coherent calendar plan.authority.institutionUuid plan.input.rows school) := by
  obtain ⟨⟨plan, register, t, plan'⟩, ran, -⟩ := of_toOption ada_institution
  obtain ⟨-, committed, -⟩ := ranTwice_eq_ok ran
  exact ⟨plan, register, t, committed, attributes_iff constraints_school committed⟩

theorem namesake_names :
    (ranTwice [studentRow "Ada Obi" "S-1", studentRow "Bola Ade" "S-1"]).toOption.map (fun ran =>
      (ran.1.input.rows.map (·.fullName), ran.2.2.1.learners.rows.map (·.fullName))) =
        some (["Ada Obi", "Bola Ade"], ["Ada Obi"]) := by
  decide

/-- The second row of a student number is attributed to the student of the first. -/
theorem attribution_fails :
    ¬ ∀ (rt : Runtime) (c : StudentsCall) (s t : Store) (plan : StudentsPlan)
      (register : Register), LearnerConstraints s → (ingestStudents rt).check c s = .ok plan →
        (ingestStudents rt).commit plan s = .ok (register, t) →
          List.Forall₂ (AttributedTo rt t) plan.input.rows register.rows := by
  intro always
  obtain ⟨⟨plan, register, t, plan'⟩, ran, same⟩ := of_toOption namesake_names
  obtain ⟨named, learners⟩ := Prod.mk.inj same
  obtain ⟨checked, committed, -⟩ := ranTwice_eq_ok ran
  have attributed := always calendar _ school t plan register constraints_school checked committed
  have bola : "Bola Ade" ∈ plan.input.rows.map (·.fullName) := by
    rw [named]
    simp
  obtain ⟨row, inside, is⟩ := List.mem_map.mp bola
  obtain ⟨registered, -, -, learner, member, -, names⟩ := exists_of_forall₂ attributed inside
  have absent := List.mem_map_of_mem (f := fun learner : Learner => learner.fullName) member
  rw [learners, names.1, is] at absent
  exact absurd absent (by decide)

end Students

end AcadID
