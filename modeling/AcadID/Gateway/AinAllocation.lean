/-
**The allocation of AINs.**

* `TxInv` — what is known of an open transaction: its learners have numbers that it has given out, and
  a committed number above its count was given out since.
* `sound_of_clear` — **AINs are distinct, of the pattern and never taken in every state of a run in
  which each new number fits into an AIN and was given to no ingestion of its year that committed
  since the learners were counted**.
* `allocation_fails` — two registers of one year at once.
-/

import AcadID.Gateway.BatchHistory
import AcadID.Gateway.Registers
import AcadID.Lib.Run

namespace AcadID.AinAllocation

open Lib Students

/-! ### The invariant -/

/-- The learner has the AIN of these numbers, which fit. -/
def Numbered (learner : Learner) (year : ℤ) (sequence : ℕ) : Prop :=
  learner.ain = formatAin "NG" year sequence ∧ Fits year sequence

/-- Neither the id nor the AIN in common. -/
def Apart (a b : Learner) : Prop :=
  a.uuid ≠ b.uuid ∧ a.ain ≠ b.ain

theorem Apart.symm {a b : Learner} (apart : Apart a b) : Apart b a :=
  ⟨apart.1.symm, apart.2.symm⟩

/-- **What is known of an open transaction.** -/
structure TxInv (s : Store) (tx : Tx) : Prop where
  uncounted : tx.stage = .count → tx.learners = []
  counted : tx.counted ≤ s.learners.rows.length
  sequence : tx.register.learnerSequence = tx.counted + tx.learners.length
  /-- Its learners have numbers that it has given out. -/
  numbered : ∀ own ∈ tx.learners, ∃ year sequence, tx.year = some year ∧
    Numbered own year sequence ∧ tx.counted < sequence ∧
      sequence ≤ tx.register.learnerSequence
  fresh : ∀ own ∈ tx.learners, ∀ learner ∈ s.learners.rows, Apart own learner
  distinct : tx.learners.Pairwise Apart
  /-- A committed number above its count was given out since. -/
  beside : tx.stage ≠ .count → ∀ learner ∈ s.learners.rows, ∀ year sequence,
    tx.year = some year → Numbered learner year sequence → tx.counted < sequence →
      ∃ allocation ∈ tx.beside, allocation.holds year sequence

/-- No learner of the one has an id or an AIN of the other. -/
def TxApart (tx tx' : Tx) : Prop :=
  ∀ a ∈ tx.learners, ∀ b ∈ tx'.learners, Apart a b

theorem TxApart.symm {tx tx' : Tx} (apart : TxApart tx tx') : TxApart tx' tx :=
  fun a here b there => (apart b there a here).symm

/-- Every committed learner has a number up to how many there are. -/
def Counted (s : Store) : Prop :=
  ∀ learner ∈ s.learners.rows, ∃ year sequence, Numbered learner year sequence ∧
    sequence ≤ s.learners.rows.length

/-- The invariant of the database. -/
structure DbInv (p : Db) : Prop where
  counted : Counted p.store
  distinct : p.store.learners.rows.Pairwise Apart
  inFlight : ∀ tx ∈ p.txs, TxInv p.store tx
  apart : p.txs.Pairwise TxApart
  accepted : ∀ refusal ∈ p.refused, refusal.ainTaken = false

/-! ### What a step does -/

/-- The learner that a transaction is to create, and its number. -/
theorem creates_spec {tx : Tx} {learner : Learner} (creates : tx.creates = some learner) :
    ∃ row dateOfBirth year, tx.stage = .create row dateOfBirth ∧ tx.year = some year ∧
      learner.ain = formatAin "NG" year (tx.register.learnerSequence + 1) := by
  unfold Tx.creates at creates
  split at creates
  · rename_i row dateOfBirth stage
    obtain ⟨entryDate, entry, rfl⟩ := Option.map_eq_some_iff.mp creates
    refine ⟨row, dateOfBirth, _, stage, ?_, rfl⟩
    unfold Tx.year
    rw [entry, Option.map_some]
  · exact absurd creates (by simp)

/-- A step that inserts no learner. -/
structure Continues (tx tx' : Tx) : Prop where
  before : tx.stage ≠ .count
  stage : tx'.stage ≠ .count
  plan : tx'.plan = tx.plan
  counted : tx'.counted = tx.counted
  sequence : tx'.register.learnerSequence = tx.register.learnerSequence
  learners : tx'.learners = tx.learners
  beside : tx'.beside = tx.beside

/-- **What a step that does not commit may do.** -/
theorem next_moved {rt : Runtime} {s : Store} {tx tx' : Tx}
    (moves : tx.next rt s = .ok (.moved tx')) :
    tx.stage = .count ∧ tx' = tx.counts s ∨ Continues tx tx' ∨
      ∃ row learner, tx.creates = some learner ∧ tx' = tx.inserts row learner ∧
        ∀ other ∈ (tx.view s).learners.rows, Apart other learner := by
  unfold Tx.next at moves
  split at moves
  · rename_i stage
    exact .inl ⟨stage, (Effect.moved.inj (Except.ok.inj moves)).symm⟩
  · rename_i stage
    have before : tx.stage ≠ .count := by simp [stage]
    split at moves
    · exact absurd moves (by simp)
    · split at moves
      · obtain ⟨learner, -, same⟩ := bind_eq_ok.mp moves
        obtain rfl := Effect.moved.inj (Except.ok.inj same)
        exact .inr (.inl ⟨before, before, rfl, rfl, rfl, rfl, rfl⟩)
      · obtain ⟨dateOfBirth, -, same⟩ := bind_eq_ok.mp moves
        obtain rfl := Effect.moved.inj (Except.ok.inj same)
        exact .inr (.inl ⟨before, by simp [Tx.takes], rfl, rfl, rfl, rfl, rfl⟩)
  · rename_i stage
    have before : tx.stage ≠ .count := by simp [stage]
    split at moves
    · obtain rfl := Effect.moved.inj (Except.ok.inj moves)
      exact .inr (.inl ⟨before, by simp [Tx.links], rfl, rfl, rfl, rfl, rfl⟩)
    · obtain rfl := Effect.moved.inj (Except.ok.inj moves)
      exact .inr (.inl ⟨before, by simp [Tx.misses], rfl, rfl, rfl, rfl, rfl⟩)
  · obtain ⟨learner, creates, rest⟩ := bind_eq_ok.mp moves
    obtain ⟨t, created, same⟩ := bind_eq_ok.mp rest
    obtain rfl := Effect.moved.inj (Except.ok.inj same)
    obtain ⟨free, learners, inserted, -⟩ := createLearner_eq_ok.mp created
    refine .inr (.inr ⟨_, learner, orThrow_eq_ok.mp creates, rfl, fun other inside => ?_⟩)
    exact ⟨(Table.insert_eq_some.mp inserted).1 other inside, free other inside⟩
  · rename_i stage
    have before : tx.stage ≠ .count := by simp [stage]
    obtain ⟨enrolment, -, rest⟩ := bind_eq_ok.mp moves
    obtain ⟨t, -, same⟩ := bind_eq_ok.mp rest
    obtain rfl := Effect.moved.inj (Except.ok.inj same)
    exact .inr (.inl ⟨before, by simp [Tx.finishes], rfl, rfl, rfl, rfl, rfl⟩)

/-- A commit shows what the transaction sees; it has counted. -/
theorem next_committed {rt : Runtime} {s t : Store} {tx : Tx}
    (commits : tx.next rt s = .ok (.committed t)) : tx.stage = .next ∧ t = tx.view s := by
  unfold Tx.next at commits
  split at commits
  · exact absurd commits (by simp)
  · rename_i stage
    split at commits
    · exact ⟨stage, (Effect.committed.inj (Except.ok.inj commits)).symm⟩
    · split at commits
      · obtain ⟨_, -, same⟩ := bind_eq_ok.mp commits
        exact absurd same (by simp [pure_eq_ok])
      · obtain ⟨_, -, same⟩ := bind_eq_ok.mp commits
        exact absurd same (by simp [pure_eq_ok])
  · split at commits <;> exact absurd commits (by simp)
  · obtain ⟨_, -, rest⟩ := bind_eq_ok.mp commits
    obtain ⟨_, -, same⟩ := bind_eq_ok.mp rest
    exact absurd same (by simp [pure_eq_ok])
  · obtain ⟨_, -, rest⟩ := bind_eq_ok.mp commits
    obtain ⟨_, -, same⟩ := bind_eq_ok.mp rest
    exact absurd same (by simp [pure_eq_ok])

/-! ### One transaction -/

/-- **The learners that a transaction sees**: the committed ones and then its own. -/
theorem rows_view {s : Store} {tx : Tx} (inv : TxInv s tx) :
    (tx.view s).learners.rows = s.learners.rows ++ tx.learners :=
  Table.rows_upserts_of_fresh
    (fun own wrote learner inside => (inv.fresh own wrote learner inside).1.symm)
    (inv.distinct.imp fun apart => apart.1)

theorem txInv_begin (s : Store) (plan : StudentsPlan) : TxInv s (Tx.begin plan) where
  uncounted _ := rfl
  counted := Nat.zero_le _
  sequence := rfl
  numbered own wrote := absurd wrote (by simp [Tx.begin])
  fresh own wrote := absurd wrote (by simp [Tx.begin])
  distinct := .nil
  beside counted := absurd rfl counted

/-- **A step of a transaction keeps what is known of it**, if its new number fits. -/
theorem txInv_next {rt : Runtime} {s : Store} {tx tx' : Tx} (counted : Counted s)
    (inv : TxInv s tx) (fits : ∀ row dateOfBirth year, tx.stage = .create row dateOfBirth →
      tx.year = some year → Fits year (tx.register.learnerSequence + 1))
    (moves : tx.next rt s = .ok (.moved tx')) : TxInv s tx' := by
  rcases next_moved moves with ⟨stage, rfl⟩ | same | ⟨row, learner, creates, rfl, free⟩
  · have none := inv.uncounted stage
    refine ⟨fun _ => none, le_refl _, ?_, fun own wrote => ?_, fun own wrote => ?_, inv.distinct,
      ?_⟩
    · show s.learners.rows.length = s.learners.rows.length + tx.learners.length
      rw [none]
      rfl
    · exact absurd (show own ∈ tx.learners from wrote) (by simp [none])
    · exact absurd (show own ∈ tx.learners from wrote) (by simp [none])
    · intro _ learner inside year sequence _ numbered above
      obtain ⟨year', sequence', numbered', most⟩ := counted learner inside
      obtain ⟨-, rfl⟩ := formatAin_inj numbered.2 numbered'.2 (numbered.1.symm.trans numbered'.1)
      exact absurd (show s.learners.rows.length < sequence from above) (by omega)
  · have year : tx'.year = tx.year := congrArg (fun plan => StudentsPlan.entryDate plan |>.map
      Text.utcFullYear) same.plan
    refine ⟨fun stage => absurd stage same.stage, ?_, ?_, ?_, ?_, ?_, fun _ => ?_⟩
    · rw [same.counted]
      exact inv.counted
    · rw [same.sequence, same.counted, same.learners]
      exact inv.sequence
    · rw [same.sequence, same.counted, same.learners, year]
      exact inv.numbered
    · rw [same.learners]
      exact inv.fresh
    · rw [same.learners]
      exact inv.distinct
    · rw [same.counted, same.beside, year]
      exact inv.beside same.before
  · obtain ⟨row', dateOfBirth, year, stage, entered, ain⟩ := creates_spec creates
    have room := fits row' dateOfBirth year stage entered
    have long : (tx.learners ++ [learner]).length = tx.learners.length + 1 := by simp
    have seq := inv.sequence
    rw [rows_view inv] at free
    refine ⟨fun stage => absurd stage (by simp [Tx.inserts]), inv.counted, ?_, ?_, ?_, ?_,
      fun _ => ?_⟩
    · show tx.register.learnerSequence + 1 = tx.counted + (tx.learners ++ [learner]).length
      omega
    · intro own wrote
      show ∃ year sequence, tx.year = some year ∧ Numbered own year sequence ∧
        tx.counted < sequence ∧ sequence ≤ tx.register.learnerSequence + 1
      rcases List.mem_append.mp wrote with before | last
      · obtain ⟨year, sequence, entered, numbered, above, most⟩ := inv.numbered own before
        exact ⟨year, sequence, entered, numbered, above, by omega⟩
      · rw [List.mem_singleton.mp last]
        exact ⟨year, _, entered, ⟨ain, room⟩, by omega, le_refl _⟩
    · intro own wrote other inside
      rcases List.mem_append.mp wrote with before | last
      · exact inv.fresh own before other inside
      · rw [List.mem_singleton.mp last]
        exact (free other (List.mem_append_left _ inside)).symm
    · refine List.pairwise_append.mpr ⟨inv.distinct, List.pairwise_singleton .., ?_⟩
      intro own before other last
      rw [List.mem_singleton.mp last]
      exact free own (List.mem_append_right _ before)
    · exact inv.beside (by simp [stage])

/-- **The new AIN is not taken**, if its number was not given out since the count. -/
theorem ainTaken_of_clear {s : Store} {tx : Tx} (inv : TxInv s tx)
    (clear : ∀ row dateOfBirth year, tx.stage = .create row dateOfBirth → tx.year = some year →
      Fits year (tx.register.learnerSequence + 1) ∧
        ∀ allocation ∈ tx.beside, ¬ allocation.holds year (tx.register.learnerSequence + 1)) :
    tx.ainTaken s = false := by
  unfold Tx.ainTaken
  cases creates : tx.creates with
  | none => rfl
  | some learner =>
    obtain ⟨row, dateOfBirth, year, stage, entered, ain⟩ := creates_spec creates
    obtain ⟨room, untaken⟩ := clear row dateOfBirth year stage entered
    rw [Option.any_some, rows_view inv]
    refine List.any_eq_false.mpr fun other inside same => ?_
    have shared : other.ain = formatAin "NG" year (tx.register.learnerSequence + 1) :=
      (beq_iff_eq.mp same).trans ain
    rcases List.mem_append.mp inside with committed | own
    · have seq := inv.sequence
      obtain ⟨allocation, since, holds⟩ := inv.beside (by simp [stage]) other committed year _
        entered ⟨shared, room⟩ (by omega)
      exact untaken allocation since holds
    · obtain ⟨year', sequence, -, numbered, -, most⟩ := inv.numbered other own
      obtain ⟨-, rfl⟩ := formatAin_inj numbered.2 room (numbered.1.symm.trans shared)
      omega

/-! ### A commit -/

/-- **Another transaction's commit** keeps what is known of one. -/
theorem txInv_after {rt : Runtime} {s t : Store} {tx other : Tx} (inv : TxInv s tx)
    (others : TxInv s other) (apart : TxApart tx other)
    (commits : other.next rt s = .ok (.committed t)) : TxInv t (tx.after other) := by
  obtain ⟨-, rfl⟩ := next_committed commits
  have rows := rows_view others
  refine ⟨inv.uncounted, ?_, inv.sequence, inv.numbered, fun own wrote learner inside => ?_,
    inv.distinct, fun counted learner inside year sequence entered numbered above => ?_⟩
  · rw [rows, List.length_append]
    exact inv.counted.trans (Nat.le_add_right _ _)
  · rw [rows] at inside
    rcases List.mem_append.mp inside with before | new
    · exact inv.fresh own wrote learner before
    · exact apart own wrote learner new
  · rw [rows] at inside
    rcases List.mem_append.mp inside with before | new
    · obtain ⟨allocation, since, holds⟩ :=
        inv.beside counted learner before year sequence entered numbered above
      exact ⟨allocation, List.mem_append_left _ since, holds⟩
    · obtain ⟨year', sequence', entered', numbered', above', most⟩ := others.numbered learner new
      obtain ⟨rfl, rfl⟩ := formatAin_inj numbered.2 numbered'.2 (numbered.1.symm.trans numbered'.1)
      exact ⟨other.allocation, List.mem_append_right _ (List.mem_singleton.mpr rfl), entered',
        above', most⟩

/-- A commit adds learners that have numbers up to how many there are then. -/
theorem counted_commit {rt : Runtime} {s t : Store} {tx : Tx} (counted : Counted s)
    (inv : TxInv s tx) (commits : tx.next rt s = .ok (.committed t)) : Counted t := by
  obtain ⟨-, rfl⟩ := next_committed commits
  have before := inv.counted
  have seq := inv.sequence
  unfold Counted
  rw [rows_view inv, List.length_append]
  intro learner inside
  rcases List.mem_append.mp inside with old | new
  · obtain ⟨year, sequence, numbered, most⟩ := counted learner old
    exact ⟨year, sequence, numbered, by omega⟩
  · obtain ⟨year, sequence, -, numbered, -, most⟩ := inv.numbered learner new
    exact ⟨year, sequence, numbered, by omega⟩

/-! ### Runs -/

/-- A step that does not wait inserts no learner that another transaction has inserted. -/
theorem apart_next {rt : Runtime} {s : Store} {tx tx' other : Tx} (apart : TxApart tx other)
    (free : tx.waitsFor other = false)
    (moves : tx.next rt s = .ok (.moved tx')) : TxApart tx' other := by
  rcases next_moved moves with ⟨stage, rfl⟩ | same | ⟨row, learner, creates, rfl, -⟩
  · exact apart
  · unfold TxApart
    rw [same.learners]
    exact apart
  · intro a wrote b there
    rcases List.mem_append.mp wrote with before | last
    · exact apart a before b there
    · rw [List.mem_singleton.mp last]
      have unlocked := (Bool.or_eq_false_iff.mp free).1
      rw [creates, Option.any_some] at unlocked
      have differs := List.any_eq_false.mp unlocked b there
      obtain ⟨byId, byAin⟩ := not_or.mp (mt Bool.or_eq_true_iff.mpr differs)
      exact ⟨fun same => byId (beq_iff_eq.mpr same.symm),
        fun same => byAin (beq_iff_eq.mpr same.symm)⟩

/-- The invariant, of one transaction and the others. -/
theorem dbInv_split {p : Db} {k : ℕ} {tx : Tx} (inv : DbInv p) (found : p.txs[k]? = some tx) :
    TxInv p.store tx ∧ (∀ other ∈ p.txs.eraseIdx k, TxInv p.store other ∧ TxApart tx other) ∧
      (p.txs.eraseIdx k).Pairwise TxApart := by
  obtain ⟨bound, rfl⟩ := List.getElem?_eq_some_iff.mp found
  have apart := ((List.getElem_cons_eraseIdx_perm bound).pairwise_iff TxApart.symm).mpr inv.apart
  obtain ⟨first, rest⟩ := List.pairwise_cons.mp apart
  refine ⟨inv.inFlight _ (List.getElem_mem bound), fun other inside => ⟨?_, first other inside⟩,
    rest⟩
  exact inv.inFlight other (List.mem_of_mem_eraseIdx inside)

/-- **A step of a transaction keeps the invariant**, if its new number is clear. -/
theorem dbInv_advance {rt : Runtime} {p : Db} {k : ℕ} (inv : DbInv p)
    (clear : Clear p (.advance k)) : DbInv (advance rt p k) := by
  unfold advance
  cases found : p.txs[k]? with
  | none => exact inv
  | some tx =>
    obtain ⟨own, others, apart⟩ := dbInv_split inv found
    obtain ⟨bound, -⟩ := List.getElem?_eq_some_iff.mp found
    simp only
    by_cases blocked : waits p k tx = true
    · rw [if_pos blocked]
      exact inv
    · rw [if_neg blocked]
      have free := Bool.eq_false_iff.mpr blocked
      have isClear := fun row dateOfBirth year stage entered =>
        clear k tx row dateOfBirth year rfl found stage entered free
      cases goes : tx.next rt p.store with
      | error e =>
        refine ⟨inv.counted, inv.distinct, fun other inside => (others other inside).1, apart, ?_⟩
        intro refusal inside
        rcases List.mem_append.mp inside with before | last
        · exact inv.accepted refusal before
        · rw [List.mem_singleton.mp last]
          exact ainTaken_of_clear own isClear
      | ok effect =>
        cases effect with
        | moved tx' =>
          have perm := List.set_perm_cons_eraseIdx bound tx'
          refine ⟨inv.counted, inv.distinct, fun other inside => ?_, ?_, inv.accepted⟩
          · rcases List.mem_cons.mp (perm.mem_iff.mp inside) with rfl | rest
            · exact txInv_next inv.counted own
                (fun row dateOfBirth year stage entered =>
                  (isClear row dateOfBirth year stage entered).1) goes
            · exact (others other rest).1
          · refine (perm.pairwise_iff TxApart.symm).mpr (List.pairwise_cons.mpr ⟨?_, apart⟩)
            intro other inside
            refine apart_next (others other inside).2 ?_ goes
            exact Bool.eq_false_iff.mpr (List.any_eq_false.mp free other inside)
        | committed t =>
          refine ⟨counted_commit inv.counted own goes, ?_, ?_, ?_, inv.accepted⟩
          · obtain ⟨-, rfl⟩ := next_committed goes
            show (tx.view p.store).learners.rows.Pairwise Apart
            rw [rows_view own]
            refine List.pairwise_append.mpr ⟨inv.distinct, own.distinct, ?_⟩
            exact fun a inside b wrote => (own.fresh b wrote a inside).symm
          · intro other inside
            obtain ⟨before, there, rfl⟩ := List.mem_map.mp inside
            exact txInv_after (others before there).1 own (others before there).2.symm goes
          · exact List.pairwise_map.mpr apart

/-- **A step keeps the invariant**, if a new number is clear. -/
theorem dbInv_step {rt : Runtime} {p : Db} {e : DbEvent} (inv : DbInv p) (clear : Clear p e) :
    DbInv (dbStep rt p e) := by
  cases e with
  | call c =>
    unfold dbStep
    cases checked : studentsCheck rt c.env c.auth c.body p.store with
    | error e => simpa only [checked] using inv
    | ok plan =>
      simp only [checked]
      refine ⟨inv.counted, inv.distinct, fun tx inside => ?_, ?_, inv.accepted⟩
      · rcases List.mem_append.mp inside with before | last
        · exact inv.inFlight tx before
        · rw [List.mem_singleton.mp last]
          exact txInv_begin p.store plan
      · refine List.pairwise_append.mpr ⟨inv.apart, List.pairwise_singleton .., ?_⟩
        intro tx _ new last
        rw [List.mem_singleton.mp last]
        exact fun a _ b inside => absurd inside (by simp [Tx.begin])
  | abort k =>
    refine ⟨inv.counted, inv.distinct, fun tx inside => ?_, ?_, inv.accepted⟩
    · exact inv.inFlight tx (List.mem_of_mem_eraseIdx inside)
    · exact inv.apart.sublist (List.eraseIdx_sublist ..)
  | advance k => exact dbInv_advance inv clear

/-- **What the invariant says of AINs.** -/
theorem sound_of_inv {p : Db} (inv : DbInv p) : Sound p := by
  refine ⟨?_, fun ain inside => ?_, inv.accepted⟩
  · unfold Db.ains
    refine List.nodup_append.mpr ⟨?_, List.nodup_flatMap.mpr ⟨fun tx inside => ?_, ?_⟩, ?_⟩
    · exact List.pairwise_map.mpr (inv.distinct.imp fun apart => apart.2)
    · exact List.pairwise_map.mpr ((inv.inFlight tx inside).distinct.imp fun apart => apart.2)
    · refine inv.apart.imp fun apart => ?_
      intro ain here there
      obtain ⟨a, inside, rfl⟩ := List.mem_map.mp here
      obtain ⟨b, inside', same⟩ := List.mem_map.mp there
      exact (apart a inside b inside').2 same.symm
    · intro ain committed other open' same
      obtain ⟨learner, inside, rfl⟩ := List.mem_map.mp committed
      obtain ⟨tx, running, wrote⟩ := List.mem_flatMap.mp open'
      obtain ⟨own, isOwn, rfl⟩ := List.mem_map.mp wrote
      exact ((inv.inFlight tx running).fresh own isOwn learner inside).2 same.symm
  · rcases List.mem_append.mp inside with committed | open'
    · obtain ⟨learner, there, rfl⟩ := List.mem_map.mp committed
      obtain ⟨year, sequence, numbered, -⟩ := inv.counted learner there
      rw [numbered.1]
      exact isValidAin_formatAin numbered.2
    · obtain ⟨tx, running, wrote⟩ := List.mem_flatMap.mp open'
      obtain ⟨own, isOwn, rfl⟩ := List.mem_map.mp wrote
      obtain ⟨year, sequence, -, numbered, -⟩ := (inv.inFlight tx running).numbered own isOwn
      rw [numbered.1]
      exact isValidAin_formatAin numbered.2

/-- **AINs are distinct, of the pattern and never taken in every state of a run from a database
without learners** in which every new number is clear. -/
theorem sound_of_clear (rt : Runtime) (start : Store) (empty : start.learners.rows = [])
    (events : List DbEvent) (clear : Along (dbStep rt) Clear ⟨start, [], []⟩ events) :
    Throughout (dbStep rt) Sound ⟨start, [], []⟩ events := by
  have begins : DbInv ⟨start, [], []⟩ := by
    refine ⟨fun learner inside => ?_, ?_, fun tx inside => ?_, .nil, fun refusal inside => ?_⟩
    · rw [empty] at inside
      exact absurd inside (by simp)
    · rw [empty]
      exact .nil
    · exact absurd inside (by simp)
    · exact absurd inside (by simp)
  rw [throughout_iff_prefixes]
  intro before after same
  rw [same] at clear
  exact sound_of_inv (runs_of_keeps (fun p e inv isClear => dbInv_step inv isClear) begins
    (along_append.mp clear).1)

/-! ### Two registers at once -/

/-- The school before its first student. -/
def school : Store :=
  { BatchHistory.school with
    learners := .empty
    enrolments := .empty }

/-- A runtime that can read the dates of the registers. -/
def calendar : Runtime :=
  { Runtime.plain with
    parseDate := fun text =>
      [("2012-05-04", 1336089600000), ("2024-09-01", 1725148800000)].lookup text }

/-- The register of one student. -/
def register (digit fullName studentNumber : String) : DbEvent :=
  .call {
    env :=
      { pick := 0
        rowPick := fun _ => 0
        checkedAt := 1
        enteredAt := 2
        learnerUuid := fun _ => "40000000-0000-4000-8000-00000000000" ++ digit
        enrolmentUuid := fun _ => "30000000-0000-4000-8000-00000000000" ++ digit }
    auth := BatchHistory.founder
    body := .obj
      [("institutionId", .str "ACD-0001"), ("entryDate", .str "2024-09-01"),
        ("rows", .arr [.obj
          [("fullName", .str fullName), ("dateOfBirth", .str "2012-05-04"),
            ("studentNumber", .str studentNumber), ("level", .str "JSS 1"),
            ("programme", .str "Science")]])] }

/-- The transaction at the front, from its count to its commit. -/
def alone : List DbEvent :=
  [.advance 0, .advance 0, .advance 0, .advance 0, .advance 0, .advance 0]

def first : DbEvent :=
  register "1" "Ada Obi" "S-1"

def second : DbEvent :=
  register "2" "Bola Ade" "S-2"

/-- The second register is ingested once the first is. -/
def oneByOne : List DbEvent :=
  first :: alone ++ second :: alone

/-- Both have counted the learners before either creates one. -/
def atOnce : List DbEvent :=
  first :: second :: .advance 1 :: alone ++ alone

/-- The decidable form of the condition. -/
def clear (p : Db) (e : DbEvent) : Bool :=
  match e with
  | .advance k => (p.txs[k]?).all fun tx =>
    match tx.stage, tx.year with
    | .create _ _, some year =>
      waits p k tx || (1000 ≤ year && year ≤ 9999 && tx.register.learnerSequence + 1 ≤ 9999999 &&
        tx.beside.all fun allocation =>
          !decide (allocation.holds year (tx.register.learnerSequence + 1)))
    | _, _ => true
  | _ => true

theorem clear_of_decided {p : Db} {e : DbEvent} (decided : clear p e = true) : Clear p e := by
  rintro k tx row dateOfBirth year rfl found stage entered free
  unfold clear at decided
  simp only [found, Option.all_some, stage, entered, free, Bool.false_or, Bool.and_eq_true,
    decide_eq_true_eq, List.all_eq_true, Bool.not_eq_true', decide_eq_false_iff_not] at decided
  obtain ⟨⟨⟨least, most⟩, short⟩, untaken⟩ := decided
  exact ⟨⟨least, most, short⟩, untaken⟩

/-- Registers ingested one after the other. -/
theorem oneByOne_sound :
    Throughout (dbStep calendar) Sound ⟨school, [], []⟩ oneByOne := by
  refine sound_of_clear calendar school rfl oneByOne ?_
  refine Along.mono (fun p e decided => clear_of_decided decided)
    (show Along _ (fun p e => clear p e = true) _ _ from ?_)
  decide

/-- **A register can be refused because an AIN is taken**: two of one year, begun before either has
created a learner, both take the first number. -/
theorem allocation_fails :
    ¬ ∀ (rt : Runtime) (start : Store) (events : List DbEvent), start.learners.rows = [] →
      Throughout (dbStep rt) Sound ⟨start, [], []⟩ events := by
  intro all
  have kept := all calendar school atOnce rfl
  have last := throughout_iff_prefixes.mp kept atOnce [] (List.append_nil _).symm
  have refused :
      (runs (dbStep calendar) ⟨school, [], []⟩ atOnce).refused.any (·.ainTaken) = true := by
    decide
  obtain ⟨refusal, inside, taken⟩ := List.any_eq_true.mp refused
  rw [last.accepted refusal inside] at taken
  exact absurd taken (by decide)

end AcadID.AinAllocation
