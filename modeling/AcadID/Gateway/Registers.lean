/-
**The transactions of `ingestStudents`, at read committed.**

* `isValidAin` — the pattern of an AIN; `formatAin_inj` — **an AIN tells its numbers**.
* `Tx.next` — the next statement of a transaction: the count of the learners, and for each row the
  lookup of an active enrolment, the lookup of the learner, the new learner and the new enrolment. It
  sees what is committed at that moment and what its transaction wrote.
* `dbStep` — calls and statements of open transactions, in any order; an insertion waits for an open
  transaction that has inserted the same key.
* `commit_steps` — **a transaction that is alone does what `ingestStudents` does**.
-/

import AcadID.Gateway.Students
import Mathlib.Logic.Relation

namespace AcadID.AinAllocation

open Lib Students Rollovers

/-! ### The pattern -/

/-- `AIN_PATTERN` -/
def ainPattern : List (Char → Bool) :=
  [(· == 'A'), (· == 'I'), (· == 'N'), (· == '-')] ++ Text.repeatClass 2 Char.isUpper ++
    [(· == '-')] ++ Text.repeatClass 4 Char.isDigit ++ [(· == '-')] ++
    Text.repeatClass 7 Char.isDigit

def isValidAin (value : String) : Bool :=
  Text.matchesClasses ainPattern value.toList

/-- The numbers that an AIN has room for. -/
structure Fits (year : ℤ) (sequence : ℕ) : Prop where
  least : 1000 ≤ year
  most : year ≤ 9999
  short : sequence ≤ 9999999

theorem toList_formatAin (year : ℤ) (sequence : ℕ) :
    (formatAin "NG" year sequence).toList =
      ['A', 'I', 'N', '-', 'N', 'G', '-'] ++ (toString year).toList ++ ['-'] ++
        (Text.padStart 7 sequence).toList := by
  unfold formatAin
  simp only [String.toList_append]
  rfl

/-- A year of four digits is written as it is padded to four. -/
theorem toString_year {year : ℤ} (least : 1000 ≤ year) (most : year ≤ 9999) :
    (toString year).toList = (Text.padStart 4 year.toNat).toList := by
  obtain ⟨n, rfl⟩ := Int.eq_ofNat_of_zero_le (by omega : 0 ≤ year)
  have long : ¬ (Nat.toDigits 10 n).length ≤ 3 := fun short =>
    absurd ((Nat.length_toDigits_le_iff (by decide) (by decide)).mp short) (by omega)
  have none : 4 - (Nat.toDigits 10 n).length = 0 := by omega
  rw [Text.toList_padStart, Int.toNat_natCast, none, List.replicate_zero, List.nil_append]
  show (toString n).toList = _
  rw [Nat.toString_eq_ofList_toDigits, String.toList_ofList]

/-- **The AIN of numbers that fit has the pattern.** -/
theorem isValidAin_formatAin {year : ℤ} {sequence : ℕ} (fits : Fits year sequence) :
    isValidAin (formatAin "NG" year sequence) = true := by
  have four := Text.length_padStart (n := year.toNat) (show 0 < 4 by decide)
    (by have := fits.most; omega)
  have seven := Text.length_padStart (n := sequence) (show 0 < 7 by decide)
    (by have := fits.short; omega)
  unfold isValidAin ainPattern
  rw [toList_formatAin, toString_year fits.least fits.most]
  refine Text.matchesClasses_append (Text.matchesClasses_append (Text.matchesClasses_append ?_ ?_)
    ?_) ?_
  · decide
  · exact Text.matchesClasses_repeatClass four Text.isDigit_of_mem_padStart
  · decide
  · exact Text.matchesClasses_repeatClass seven Text.isDigit_of_mem_padStart

/-- **An AIN tells its numbers**, if they fit. -/
theorem formatAin_inj {year year' : ℤ} {sequence sequence' : ℕ} (fits : Fits year sequence)
    (fits' : Fits year' sequence')
    (same : formatAin "NG" year sequence = formatAin "NG" year' sequence') :
    year = year' ∧ sequence = sequence' := by
  have four : ∀ {year : ℤ}, year ≤ 9999 → (Text.padStart 4 year.toNat).toList.length = 4 :=
    fun most => Text.length_padStart (by decide) (by omega)
  have texts := congrArg String.toList same
  rw [toList_formatAin, toList_formatAin, toString_year fits.least fits.most,
    toString_year fits'.least fits'.most, List.append_assoc, List.append_assoc,
    List.append_assoc, List.append_assoc] at texts
  obtain ⟨years, rest⟩ := List.append_inj (List.append_cancel_left texts)
    ((four fits.most).trans (four fits'.most).symm)
  have numbers := List.append_cancel_left rest
  have sameYear := Text.padStart_injective 4 (String.toList_inj.mp years)
  refine ⟨?_, Text.padStart_injective 7 (String.toList_inj.mp numbers)⟩
  have := fits.least
  have := fits'.least
  omega

/-! ### Transactions -/

/-- How far a transaction has come: it is to count the learners, to look up the enrolment of the
next row, to look up the learner of a row, to create one, or to enrol one. -/
inductive Stage where
  | count
  | next
  | find (row : StudentRegisterRow) (dateOfBirth : Time)
  | create (row : StudentRegisterRow) (dateOfBirth : Time)
  | enrol (row : StudentRegisterRow) (learner : Learner)

/-- The numbers that an ingestion has given out: those of a year, from one up to another. -/
structure Allocation where
  year : Option ℤ
  above : ℕ
  last : ℕ

def Allocation.holds (allocation : Allocation) (year : ℤ) (sequence : ℕ) : Prop :=
  allocation.year = some year ∧ allocation.above < sequence ∧ sequence ≤ allocation.last

instance (allocation : Allocation) (year : ℤ) (sequence : ℕ) :
    Decidable (allocation.holds year sequence) := by
  unfold Allocation.holds
  infer_instance

/-- A transaction with the rows it has written. `index` is the number of the row it is at, `rest`
are the rows after it, and `beside` tells what the ingestions that committed since its count gave
out. -/
structure Tx where
  plan : StudentsPlan
  stage : Stage
  index : ℕ
  rest : List StudentRegisterRow
  counted : ℕ
  register : Register
  learners : List Learner
  enrolments : List Enrolment
  beside : List Allocation

/-- A transaction before its first statement. -/
def Tx.begin (plan : StudentsPlan) : Tx where
  plan := plan
  stage := .count
  index := 0
  rest := plan.input.rows
  counted := 0
  register := ⟨0, 0, 0, 0, 0, []⟩
  learners := []
  enrolments := []
  beside := []

/-- The year of the entry, unless its date is invalid. -/
def Tx.year (tx : Tx) : Option ℤ :=
  tx.plan.entryDate.map Text.utcFullYear

def Tx.allocation (tx : Tx) : Allocation where
  year := tx.year
  above := tx.counted
  last := tx.register.learnerSequence

/-- **What a transaction sees**: what is committed, and what it wrote itself. -/
def Tx.view (tx : Tx) (s : Store) : Store :=
  { s with
    learners := tx.learners.foldl Table.upsert s.learners
    enrolments := tx.enrolments.foldl Table.upsert s.enrolments }

/-- The learner that a transaction is to create. One of an invalid entry date, which its enrolment
would undo, is not created. -/
def Tx.creates (tx : Tx) : Option Learner :=
  match tx.stage with
  | .create row dateOfBirth => tx.plan.entryDate.map fun entryDate =>
    newLearner tx.plan entryDate tx.index (tx.register.learnerSequence + 1) row dateOfBirth
  | _ => none

/-- The enrolment that a transaction is to create. -/
def Tx.enrols (tx : Tx) : Option Enrolment :=
  match tx.stage with
  | .enrol row learner => tx.plan.entryDate.map fun entryDate =>
    newEnrolment tx.plan entryDate tx.index row learner
  | _ => none

/-- What a step does: it moves the transaction on, or commits it. -/
inductive Effect where
  | moved (tx : Tx)
  | committed (s : Store)

/-- The learners counted. -/
def Tx.counts (tx : Tx) (s : Store) : Tx :=
  { tx with
    stage := .next
    counted := s.learners.rows.length
    register := emptyRegister s
    beside := [] }

/-- A row whose student is enrolled already. -/
def Tx.skips (tx : Tx) (row : StudentRegisterRow) (rest : List StudentRegisterRow)
    (learner : Learner) : Tx :=
  { tx with
    index := tx.index + 1
    rest := rest
    register := { tx.register with
      existingEnrolments := tx.register.existingEnrolments + 1
      rows := tx.register.rows ++ [⟨row.studentNumber, learner.ain, .alreadyEnrolled⟩] } }

/-- A row whose student is to be enrolled. -/
def Tx.takes (tx : Tx) (row : StudentRegisterRow) (rest : List StudentRegisterRow)
    (dateOfBirth : Time) : Tx :=
  { tx with
    stage := .find row dateOfBirth
    rest := rest }

/-- A learner found. -/
def Tx.links (tx : Tx) (row : StudentRegisterRow) (learner : Learner) : Tx :=
  { tx with
    stage := .enrol row learner
    register := { tx.register with linkedLearners := tx.register.linkedLearners + 1 } }

/-- No learner found. -/
def Tx.misses (tx : Tx) (row : StudentRegisterRow) (dateOfBirth : Time) : Tx :=
  { tx with stage := .create row dateOfBirth }

/-- A learner created. -/
def Tx.inserts (tx : Tx) (row : StudentRegisterRow) (learner : Learner) : Tx :=
  { tx with
    stage := .enrol row learner
    register := { tx.register with
      learnerSequence := tx.register.learnerSequence + 1
      createdLearners := tx.register.createdLearners + 1 }
    learners := tx.learners ++ [learner] }

/-- A learner enrolled. -/
def Tx.finishes (tx : Tx) (row : StudentRegisterRow) (learner : Learner) (enrolment : Enrolment) :
    Tx :=
  { tx with
    stage := .next
    index := tx.index + 1
    register := { tx.register with
      createdEnrolments := tx.register.createdEnrolments + 1
      rows := tx.register.rows ++ [⟨row.studentNumber, learner.ain, .enrolled⟩] }
    enrolments := tx.enrolments ++ [enrolment] }

/-- **The next step of a transaction.** -/
def Tx.next (rt : Runtime) (tx : Tx) (s : Store) : Except ServiceError Effect :=
  match tx.stage with
  | .count => .ok (.moved (tx.counts s))
  | .next =>
    match tx.rest with
    | [] => .ok (.committed (tx.view s))
    | row :: rest =>
      match findFirst (tx.view s).enrolments.rows
        (fun enrolment => enrolment.institutionId == tx.plan.authority.institutionUuid &&
          enrolment.studentNumber == row.studentNumber && enrolment.status == .active)
        (tx.plan.env.rowPick tx.index) with
      | some existing => do
        let learner ← orThrow ((tx.view s).learners.find? existing.learnerId) .database
        return .moved (tx.skips row rest learner)
      | none => do
        let dateOfBirth ← orThrow (rt.parseDate row.dateOfBirth) .database
        return .moved (tx.takes row rest dateOfBirth)
  | .find row dateOfBirth =>
    match findFirst (tx.view s).learners.rows
      (fun learner => learner.fullName == row.fullName && learner.dateOfBirth == dateOfBirth)
      (tx.plan.env.rowPick tx.index) with
    | some learner => .ok (.moved (tx.links row learner))
    | none => .ok (.moved (tx.misses row dateOfBirth))
  | .create row _ => do
    let learner ← orThrow tx.creates .database
    let _ ← createLearner (tx.view s) learner
    return .moved (tx.inserts row learner)
  | .enrol row learner => do
    let enrolment ← orThrow tx.enrols .database
    let _ ← createEnrolment (tx.view s) enrolment
    return .moved (tx.finishes row learner enrolment)

/-! ### Transactions in flight -/

/-- A transaction that a statement has ended: whether the AIN of its new learner was taken. -/
structure Refusal where
  ainTaken : Bool
  error : ServiceError

/-- What is committed, the open transactions, and those that were refused. -/
structure Db where
  store : Store
  txs : List Tx
  refused : List Refusal

/-- **Whether a step waits** for a row that another transaction has inserted. -/
def Tx.waitsFor (tx other : Tx) : Bool :=
  (tx.creates.any fun learner => other.learners.any fun taken =>
    taken.uuid == learner.uuid || taken.ain == learner.ain) ||
  tx.enrols.any fun enrolment => other.enrolments.any fun taken =>
    taken.uuid == enrolment.uuid || enrolmentKey taken == enrolmentKey enrolment

/-- Whether a learner has the AIN of the new one. -/
def Tx.ainTaken (tx : Tx) (s : Store) : Bool :=
  tx.creates.any fun learner => (tx.view s).learners.rows.any (·.ain == learner.ain)

/-- A transaction after another one committed. -/
def Tx.after (tx other : Tx) : Tx :=
  { tx with beside := tx.beside ++ [other.allocation] }

/-- What happens next. -/
inductive DbEvent where
  /-- The check of a call, and its transaction begun. -/
  | call (c : StudentsCall)
  /-- The next step of a transaction. -/
  | advance (k : ℕ)
  /-- A transaction rolled back: timed out, deadlocked, disconnected. -/
  | abort (k : ℕ)

/-- Whether the next step of the `k`-th transaction waits. -/
def waits (p : Db) (k : ℕ) (tx : Tx) : Bool :=
  (p.txs.eraseIdx k).any tx.waitsFor

/-- The next step of the `k`-th transaction; a statement that fails rolls it back. -/
def advance (rt : Runtime) (p : Db) (k : ℕ) : Db :=
  match p.txs[k]? with
  | none => p
  | some tx =>
    if waits p k tx then p
    else
      match tx.next rt p.store with
      | .error e => { p with
          txs := p.txs.eraseIdx k
          refused := p.refused ++ [⟨tx.ainTaken p.store, e⟩] }
      | .ok (.moved tx') => { p with txs := p.txs.set k tx' }
      | .ok (.committed s) => { p with
          store := s
          txs := (p.txs.eraseIdx k).map (·.after tx) }

def dbStep (rt : Runtime) (p : Db) (e : DbEvent) : Db :=
  match e with
  | .call c =>
    match studentsCheck rt c.env c.auth c.body p.store with
    | .error _ => p
    | .ok plan => { p with txs := p.txs ++ [Tx.begin plan] }
  | .advance k => advance rt p k
  | .abort k => { p with txs := p.txs.eraseIdx k }

/-- The AINs that have been allocated, committed or not. -/
def Db.ains (p : Db) : List String :=
  p.store.learners.rows.map (·.ain) ++ p.txs.flatMap fun tx => tx.learners.map (·.ain)

/-- **AINs are distinct and of the pattern, and no register was refused because one was taken.** -/
structure Sound (p : Db) : Prop where
  distinct : p.ains.Nodup
  wellFormed : ∀ ain ∈ p.ains, isValidAin ain = true
  accepted : ∀ refusal ∈ p.refused, refusal.ainTaken = false

/-- **A new number fits**, and no ingestion of its year that committed since the count gave it
out. -/
def Clear (p : Db) (e : DbEvent) : Prop :=
  ∀ k tx row dateOfBirth year, e = .advance k → p.txs[k]? = some tx →
    tx.stage = .create row dateOfBirth → tx.year = some year → waits p k tx = false →
      Fits year (tx.register.learnerSequence + 1) ∧
        ∀ allocation ∈ tx.beside, ¬ allocation.holds year (tx.register.learnerSequence + 1)

/-! ### A transaction that is alone -/

/-- One step, while nobody else commits. -/
def Moves (rt : Runtime) (s : Store) (tx tx' : Tx) : Prop :=
  tx.next rt s = .ok (.moved tx')

/-- Any number of steps. -/
def Steps (rt : Runtime) (s : Store) : Tx → Tx → Prop :=
  Relation.ReflTransGen (Moves rt s)

theorem Steps.head {rt : Runtime} {s : Store} {tx tx' tx'' : Tx} (moves : Moves rt s tx tx')
    (steps : Steps rt s tx' tx'') : Steps rt s tx tx'' :=
  Relation.ReflTransGen.head moves steps

/-- A row that the transaction may insert is the next it sees. -/
theorem upserts_append {ρ κ : Type} {key : ρ → κ} [DecidableEq κ] {t u : Table key} {rs : List ρ}
    {r : ρ} (inserted : (rs.foldl Table.upsert t).insert r = some u) :
    (rs ++ [r]).foldl Table.upsert t = u := by
  rw [List.foldl_append, List.foldl_cons, List.foldl_nil, Table.upsert_of_insert inserted]

/-- The enrolment of a learner, by the transaction as by `ingestRow`. -/
theorem enrol_step {rt : Runtime} {s t : Store} {tx : Tx} {row : StudentRegisterRow}
    {learner : Learner} {entryDate : Time} (stage : tx.stage = .enrol row learner)
    (entry : tx.plan.entryDate = some entryDate)
    (created : createEnrolment (tx.view s) (newEnrolment tx.plan entryDate tx.index row learner) =
      .ok t) :
    ∃ enrolment, tx.next rt s = .ok (.moved (tx.finishes row learner enrolment)) ∧
      (tx.finishes row learner enrolment).view s = t := by
  have enrols : tx.enrols = some (newEnrolment tx.plan entryDate tx.index row learner) := by
    unfold Tx.enrols
    rw [stage]
    show tx.plan.entryDate.map _ = _
    rw [entry, Option.map_some]
  refine ⟨newEnrolment tx.plan entryDate tx.index row learner, ?_, ?_⟩
  · unfold Tx.next
    rw [stage]
    refine bind_eq_ok.mpr ⟨_, orThrow_eq_ok.mpr enrols, ?_⟩
    exact bind_eq_ok.mpr ⟨t, created, rfl⟩
  · obtain ⟨-, -, -, enrolments, inserted, rfl⟩ := createEnrolment_eq_ok.mp created
    show { s with learners := _, enrolments := (tx.enrolments ++ [_]).foldl _ _ } = _
    rw [upserts_append inserted]
    rfl

/-- The learner of a row, found or created in steps as by `learnerFor`. -/
theorem learnerFor_steps {rt : Runtime} {s t : Store} {tx : Tx} {row : StudentRegisterRow}
    {dateOfBirth entryDate : Time} {learner : Learner} {register : Register}
    (stage : tx.stage = .find row dateOfBirth) (entry : tx.plan.entryDate = some entryDate)
    (learnt : learnerFor tx.plan entryDate tx.index row dateOfBirth tx.register (tx.view s) =
      .ok (learner, register, t)) :
    ∃ tx', Steps rt s tx tx' ∧ tx'.stage = .enrol row learner ∧ tx'.rest = tx.rest ∧
      tx'.plan = tx.plan ∧ tx'.index = tx.index ∧ tx'.register = register ∧ tx'.view s = t := by
  unfold learnerFor at learnt
  split at learnt
  · rename_i twin found
    obtain ⟨rfl, same⟩ := Prod.mk.inj (Except.ok.inj learnt)
    obtain ⟨rfl, rfl⟩ := Prod.mk.inj same
    refine ⟨tx.links row twin, .single ?_, rfl, rfl, rfl, rfl, rfl, rfl⟩
    unfold Moves Tx.next
    rw [stage]
    simp only [found]
  · rename_i absent
    obtain ⟨t', created, same⟩ := bind_eq_ok.mp learnt
    rw [pure_eq_ok] at same
    obtain ⟨isNew, same⟩ := Prod.mk.inj same
    obtain ⟨rfl, rfl⟩ := Prod.mk.inj same
    obtain rfl : newLearner tx.plan entryDate tx.index (tx.register.learnerSequence + 1) row
      dateOfBirth = learner := isNew
    have looked : tx.next rt s = .ok (.moved (tx.misses row dateOfBirth)) := by
      unfold Tx.next
      rw [stage]
      simp only [absent]
    have creates : (tx.misses row dateOfBirth).creates = some (newLearner tx.plan entryDate tx.index
        (tx.register.learnerSequence + 1) row dateOfBirth) := by
      show tx.plan.entryDate.map _ = _
      rw [entry, Option.map_some]
      rfl
    have inserted : Moves rt s (tx.misses row dateOfBirth)
        ((tx.misses row dateOfBirth).inserts row _) :=
      bind_eq_ok.mpr ⟨_, orThrow_eq_ok.mpr creates, bind_eq_ok.mpr ⟨t', created, rfl⟩⟩
    refine ⟨(tx.misses row dateOfBirth).inserts row _, Steps.head looked (.single inserted), rfl,
      rfl, rfl, rfl, rfl, ?_⟩
    obtain ⟨-, learners, inserted, rfl⟩ := createLearner_eq_ok.mp created
    show { s with learners := (tx.learners ++ [_]).foldl _ _, enrolments := _ } = _
    rw [upserts_append inserted]
    rfl

/-- **One row**: what `ingestRow` does with it, the transaction does in steps. -/
theorem ingestRow_steps {rt : Runtime} {s t : Store} {tx : Tx} {row : StudentRegisterRow}
    {rest : List StudentRegisterRow} {register : Register} (stage : tx.stage = .next)
    (here : tx.rest = row :: rest)
    (ingested : ingestRow rt tx.plan tx.index row tx.register (tx.view s) = .ok (register, t)) :
    ∃ tx', Steps rt s tx tx' ∧ tx'.stage = .next ∧ tx'.rest = rest ∧ tx'.plan = tx.plan ∧
      tx'.index = tx.index + 1 ∧ tx'.register = register ∧ tx'.view s = t := by
  unfold ingestRow at ingested
  split at ingested
  · rename_i existing found
    obtain ⟨learner, known, same⟩ := bind_eq_ok.mp ingested
    rw [pure_eq_ok] at same
    obtain ⟨rfl, rfl⟩ := Prod.mk.inj same
    refine ⟨tx.skips row rest learner, .single ?_, stage, rfl, rfl, rfl, rfl, rfl⟩
    unfold Moves Tx.next
    rw [stage, here]
    simp only [found]
    exact bind_eq_ok.mpr ⟨learner, known, rfl⟩
  · rename_i none
    obtain ⟨dateOfBirth, born, ingested⟩ := bind_eq_ok.mp ingested
    obtain ⟨entryDate, entry, ingested⟩ := bind_eq_ok.mp ingested
    obtain ⟨⟨learner, register', s'⟩, learnt, ingested⟩ := bind_eq_ok.mp ingested
    obtain ⟨s'', enrolled, same⟩ := bind_eq_ok.mp ingested
    rw [pure_eq_ok] at same
    obtain ⟨rfl, rfl⟩ := Prod.mk.inj same
    have taken : tx.next rt s = .ok (.moved (tx.takes row rest dateOfBirth)) := by
      unfold Tx.next
      rw [stage, here]
      simp only [none]
      exact bind_eq_ok.mpr ⟨dateOfBirth, born, rfl⟩
    obtain ⟨tx', steps, stage', rest', plan', index', rfl, rfl⟩ :=
      @learnerFor_steps rt _ _ (tx.takes row rest dateOfBirth) _ _ _ _ _ rfl
        (orThrow_eq_ok.mp entry) learnt
    have plan : tx'.plan = tx.plan := plan'
    have index : tx'.index = tx.index := index'
    rw [← plan, ← index] at enrolled
    obtain ⟨enrolment, last, sees⟩ := enrol_step stage'
      ((congrArg StudentsPlan.entryDate plan).trans (orThrow_eq_ok.mp entry)) enrolled
    refine ⟨tx'.finishes row learner enrolment, ?_, rfl, rest', plan', congrArg (· + 1) index', rfl,
      sees⟩
    exact Relation.ReflTransGen.tail (Steps.head taken steps) last

/-- **A transaction that is alone** does what `ingestRows` does with the rows that are left. -/
theorem ingestRows_steps {rt : Runtime} {s t : Store} {tx : Tx} {register : Register}
    {rows : List StudentRegisterRow} (stage : tx.stage = .next) (here : tx.rest = rows)
    (ingested : ingestRows rt tx.plan tx.index rows tx.register (tx.view s) = .ok (register, t)) :
    ∃ tx', Steps rt s tx tx' ∧ tx'.register = register ∧ tx'.next rt s = .ok (.committed t) := by
  induction rows generalizing tx with
  | nil =>
    obtain ⟨rfl, rfl⟩ := Prod.mk.inj (Except.ok.inj ingested)
    refine ⟨tx, .refl, rfl, ?_⟩
    unfold Tx.next
    rw [stage, here]
  | cons row rows ih =>
    obtain ⟨⟨register', s'⟩, first, ingested⟩ := bind_eq_ok.mp ingested
    obtain ⟨tx', steps, stage', rest', plan', index', rfl, rfl⟩ :=
      ingestRow_steps stage here first
    rw [← plan', ← index'] at ingested
    obtain ⟨tx'', later, registered, commits⟩ := ih stage' rest' ingested
    exact ⟨tx'', steps.trans later, registered, commits⟩

/-- **The transaction of a call**, when nobody else commits, is the commit of `ingestStudents`. -/
theorem commit_steps {rt : Runtime} {plan : StudentsPlan} {s t : Store} {register : Register}
    (committed : (ingestStudents rt).commit plan s = .ok (register, t)) :
    ∃ tx, Steps rt s (Tx.begin plan) tx ∧ tx.register = register ∧
      tx.next rt s = .ok (.committed t) := by
  obtain ⟨tx, steps, registered, commits⟩ :=
    @ingestRows_steps rt _ _ ((Tx.begin plan).counts s) _ _ rfl rfl committed
  have counted : (Tx.begin plan).next rt s = .ok (.moved ((Tx.begin plan).counts s)) := rfl
  exact ⟨tx, Steps.head counted steps, registered, commits⟩

end AcadID.AinAllocation
