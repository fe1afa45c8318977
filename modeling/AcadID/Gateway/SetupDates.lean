/-
**Dates in order: sessions and rule sets under partial updates.**

A body is checked on its own dates; the row combines dates of several bodies.

* `ordered_patched_iff` — the dates of an updated row are in order exactly when a date that the body
  names alone is in order with the one it leaves.
* `setupCommit_inOrder` — **the step**: a transaction keeps the dates in order exactly when its
  update merges so.
* `inOrder_iff` — **the run**: every state has its dates in order exactly when every update that
  commits merges so.
-/

import AcadID.Gateway.GradingBands
import AcadID.Lib.Run

namespace AcadID.SetupDates

open Lib AcademicSetup

variable {rt : Runtime}

/-- Two dates in order, where both are there. -/
def Ordered (start last : Option Time) : Prop :=
  ∀ x ∈ start, ∀ y ∈ last, x ≤ y

/-- Every session and every rule set has its dates in order. -/
structure InOrder (s : Store) : Prop where
  sessions : ∀ row ∈ s.academicSessions.rows, Ordered row.startDate row.endDate
  ruleSets : ∀ row ∈ s.gradingRuleSets.rows, Ordered row.effectiveFrom row.effectiveTo

/-- Dates of the schema's format are in the order of their texts. -/
def DatesRise (rt : Runtime) : Prop :=
  ∀ a b, rt.isDate a = true → rt.isDate b = true → codeUnitLe a b = true →
    ∀ x ∈ rt.parseDate a, ∀ y ∈ rt.parseDate b, x ≤ y

/-! ### What the schemas check -/

/-- The dates of one body: of the format, and in order as texts. -/
structure Fits (rt : Runtime) (start last : Option String) : Prop where
  inOrder : inOrder start last = true
  start : ∀ text ∈ start, rt.isDate text = true
  last : ∀ text ∈ last, rt.isDate text = true

theorem isDate_of_formatted {v : Option Json} {text : String}
    (read : Schema.string [Schema.formatted rt.isDate] v = .valid text) :
    rt.isDate text = true :=
  Schema.formatted_eq_none.mp ((Schema.string_eq_valid.mp read).2 _ (List.mem_singleton_self _))

theorem isDate_of_optional {v : Json} {key : String} {date : Option String}
    (read : Schema.field v key (Schema.optional (Schema.string [Schema.formatted rt.isDate])) =
      .valid date) : ∀ text ∈ date, rt.isDate text = true := fun text there =>
  isDate_of_formatted (Schema.of_optional (Schema.field_eq_valid.mp read) text there)

theorem isDate_of_patch {v : Json} {key : String} {date : Option (Option String)}
    (read : Schema.field v key
      (Schema.optional (Schema.nullable (Schema.string [Schema.formatted rt.isDate]))) =
        .valid date) : ∀ text ∈ date.join, rt.isDate text = true := by
  intro text there
  have named := Schema.of_optional (Schema.field_eq_valid.mp read) (some text)
    (Option.join_eq_some_iff.mp there)
  exact isDate_of_formatted (Schema.of_nullable named text rfl)

/-- The dates of a plan's body fit. -/
def Dated (rt : Runtime) : SetupPlan → Prop
  | .createSession _ _ input _ => Fits rt input.startDate input.endDate
  | .updateSession _ input _ => Fits rt input.startDate.join input.endDate.join
  | .createRuleSet _ _ input _ => Fits rt input.effectiveFrom input.effectiveTo
  | .updateRuleSet _ _ input _ => Fits rt input.effectiveFrom.join input.effectiveTo.join
  | _ => True

theorem fits_createSession {body : Json} {input : CreateSessionInput}
    (parsed : parseBody (createAcademicSessionSchema rt) body = .ok input) :
    Fits rt input.startDate input.endDate := by
  obtain ⟨read, ordered⟩ := Checked.refine_eq_valid.mp (parseBody_eq_ok.mp parsed)
  obtain ⟨fs, -, fields⟩ := Schema.object_eq_valid.mp read
  obtain ⟨_, isCurrent, fields1, -, rfl⟩ := Checked.seq_eq_valid.mp fields
  obtain ⟨_, status, fields2, -, rfl⟩ := Checked.seq_eq_valid.mp fields1
  obtain ⟨_, endDate, fields3, last, rfl⟩ := Checked.seq_eq_valid.mp fields2
  obtain ⟨_, startDate, fields4, start, rfl⟩ := Checked.seq_eq_valid.mp fields3
  obtain ⟨_, periodLabel, fields5, -, rfl⟩ := Checked.seq_eq_valid.mp fields4
  obtain ⟨_, periodType, fields6, -, rfl⟩ := Checked.seq_eq_valid.mp fields5
  obtain ⟨_, sessionLabel, fields7, -, rfl⟩ := Checked.seq_eq_valid.mp fields6
  obtain ⟨institutionId, -, rfl⟩ := Checked.map_eq_valid.mp fields7
  exact ⟨ordered, isDate_of_optional start, isDate_of_optional last⟩

theorem fits_updateSession {body : Json} {input : UpdateSessionInput}
    (parsed : parseBody (updateAcademicSessionSchema rt) body = .ok input) :
    Fits rt input.startDate.join input.endDate.join := by
  obtain ⟨read, ordered⟩ := Checked.refine_eq_valid.mp (parseBody_eq_ok.mp parsed)
  obtain ⟨fs, -, fields⟩ := Schema.object_eq_valid.mp read
  obtain ⟨_, isCurrent, fields1, -, rfl⟩ := Checked.seq_eq_valid.mp fields
  obtain ⟨_, status, fields2, -, rfl⟩ := Checked.seq_eq_valid.mp fields1
  obtain ⟨_, endDate, fields3, last, rfl⟩ := Checked.seq_eq_valid.mp fields2
  obtain ⟨_, startDate, fields4, start, rfl⟩ := Checked.seq_eq_valid.mp fields3
  obtain ⟨_, periodLabel, fields5, -, rfl⟩ := Checked.seq_eq_valid.mp fields4
  obtain ⟨_, periodType, fields6, -, rfl⟩ := Checked.seq_eq_valid.mp fields5
  obtain ⟨sessionLabel, -, rfl⟩ := Checked.map_eq_valid.mp fields6
  exact ⟨ordered, isDate_of_patch start, isDate_of_patch last⟩

theorem fits_createRuleSet {body : Json} {input : CreateRuleSetInput}
    (parsed : parseBody (createGradingRuleSetSchema rt) body = .ok input) :
    Fits rt input.effectiveFrom input.effectiveTo := by
  obtain ⟨read, ordered⟩ := Checked.refine_eq_valid.mp (parseBody_eq_ok.mp parsed)
  obtain ⟨fs, -, fields⟩ := Schema.object_eq_valid.mp read
  obtain ⟨_, effectiveTo, fields1, last, rfl⟩ := Checked.seq_eq_valid.mp fields
  obtain ⟨_, effectiveFrom, fields2, start, rfl⟩ := Checked.seq_eq_valid.mp fields1
  obtain ⟨_, gradePointMax, fields3, -, rfl⟩ := Checked.seq_eq_valid.mp fields2
  obtain ⟨_, maxScore, fields4, -, rfl⟩ := Checked.seq_eq_valid.mp fields3
  obtain ⟨_, passMark, fields5, -, rfl⟩ := Checked.seq_eq_valid.mp fields4
  obtain ⟨_, scale, fields6, -, rfl⟩ := Checked.seq_eq_valid.mp fields5
  obtain ⟨_, status, fields7, -, rfl⟩ := Checked.seq_eq_valid.mp fields6
  obtain ⟨_, engine, fields8, -, rfl⟩ := Checked.seq_eq_valid.mp fields7
  obtain ⟨_, name, fields9, -, rfl⟩ := Checked.seq_eq_valid.mp fields8
  obtain ⟨institutionId, -, rfl⟩ := Checked.map_eq_valid.mp fields9
  exact ⟨ordered, isDate_of_optional start, isDate_of_optional last⟩

theorem fits_updateRuleSet {body : Json} {input : UpdateRuleSetInput}
    (parsed : parseBody (updateGradingRuleSetSchema rt) body = .ok input) :
    Fits rt input.effectiveFrom.join input.effectiveTo.join := by
  obtain ⟨read, ordered⟩ := Checked.refine_eq_valid.mp (parseBody_eq_ok.mp parsed)
  obtain ⟨fs, -, fields⟩ := Schema.object_eq_valid.mp read
  obtain ⟨_, effectiveTo, fields1, last, rfl⟩ := Checked.seq_eq_valid.mp fields
  obtain ⟨_, effectiveFrom, fields2, start, rfl⟩ := Checked.seq_eq_valid.mp fields1
  obtain ⟨_, gradePointMax, fields3, -, rfl⟩ := Checked.seq_eq_valid.mp fields2
  obtain ⟨_, maxScore, fields4, -, rfl⟩ := Checked.seq_eq_valid.mp fields3
  obtain ⟨_, passMark, fields5, -, rfl⟩ := Checked.seq_eq_valid.mp fields4
  obtain ⟨_, scale, fields6, -, rfl⟩ := Checked.seq_eq_valid.mp fields5
  obtain ⟨_, status, fields7, -, rfl⟩ := Checked.seq_eq_valid.mp fields6
  obtain ⟨_, engine, fields8, -, rfl⟩ := Checked.seq_eq_valid.mp fields7
  obtain ⟨name, -, rfl⟩ := Checked.map_eq_valid.mp fields8
  exact ⟨ordered, isDate_of_patch start, isDate_of_patch last⟩

/-- **A plan that a check returns** has dates that fit. -/
theorem dated_of_reads {s : Store} {plan : SetupPlan} (reads : Reads rt s plan) :
    Dated rt plan := by
  cases plan with
  | createSession env auth input institution => exact fits_createSession reads.choose_spec
  | updateSession auth input existing => exact fits_updateSession reads.1.choose_spec
  | createStructure env auth input institution => trivial
  | updateStructure auth input existing => trivial
  | createRuleSet env auth input institution => exact fits_createRuleSet reads.choose_spec
  | updateRuleSet env auth input existing => exact fits_updateRuleSet reads.1.choose_spec

/-! ### The dates of one row -/

theorem mem_dateOf {text : Option String} {date : Option Time} (read : dateOf rt text = .ok date)
    {x : Time} (there : x ∈ date) : ∃ t ∈ text, x ∈ rt.parseDate t := by
  cases text with
  | none =>
    obtain rfl := Except.ok.inj read
    exact absurd there (by simp)
  | some t =>
    obtain ⟨y, parsed, same⟩ := bind_eq_ok.mp read
    rw [← Except.ok.inj same] at there
    obtain rfl := Option.some.inj there
    exact ⟨t, rfl, orThrow_eq_ok.mp parsed⟩

/-- The dates of a body that fits are in order. -/
theorem ordered_of_fits (rise : DatesRise rt) {start last : Option String}
    (fits : Fits rt start last) {from_ to_ : Option Time} (first : dateOf rt start = .ok from_)
    (second : dateOf rt last = .ok to_) : Ordered from_ to_ := by
  intro x inFrom y inTo
  obtain ⟨a, isA, parsedA⟩ := mem_dateOf first inFrom
  obtain ⟨b, isB, parsedB⟩ := mem_dateOf second inTo
  obtain rfl := Option.mem_def.mp isA
  obtain rfl := Option.mem_def.mp isB
  have texts : codeUnitLe a b = true := fits.inOrder
  exact rise a b (fits.start a rfl) (fits.last b rfl) texts x parsedA y parsedB

/-- A date that a body names alone is in order with the one it leaves as it was. -/
def MergesInOrder (rt : Runtime) (start last : Option (Option String)) (from_ to_ : Option Time) :
    Prop :=
  match start, last with
  | some (some a), none => ∀ x ∈ rt.parseDate a, ∀ y ∈ to_, x ≤ y
  | none, some (some b) => ∀ x ∈ from_, ∀ y ∈ rt.parseDate b, x ≤ y
  | _, _ => True

theorem dateOf_some {text : String} {date : Option Time} (read : dateOf rt (some text) = .ok date) :
    date = rt.parseDate text := by
  obtain ⟨y, parsed, same⟩ := bind_eq_ok.mp read
  rw [orThrow_eq_ok.mp parsed, ← Except.ok.inj same]

/-- **The dates of an updated row** are in order exactly when its update merges so. -/
theorem ordered_patched_iff (rise : DatesRise rt) {start last : Option (Option String)}
    (fits : Fits rt start.join last.join) {from_ to_ oldFrom oldTo : Option Time}
    (was : Ordered oldFrom oldTo) (first : patchDate rt start oldFrom = .ok from_)
    (second : patchDate rt last oldTo = .ok to_) :
    Ordered from_ to_ ↔ MergesInOrder rt start last oldFrom oldTo := by
  have cleared : ∀ {date : Option Time}, dateOf rt none = .ok date → date = none :=
    fun read => (Except.ok.inj read).symm
  match start, last with
  | none, none =>
    obtain rfl := Except.ok.inj first
    obtain rfl := Except.ok.inj second
    exact ⟨fun _ => trivial, fun _ => was⟩
  | some (some a), none =>
    obtain rfl := Except.ok.inj second
    rw [dateOf_some first]
    exact Iff.rfl
  | none, some (some b) =>
    obtain rfl := Except.ok.inj first
    rw [dateOf_some second]
    exact Iff.rfl
  | some (some a), some (some b) =>
    exact ⟨fun _ => trivial, fun _ => ordered_of_fits rise fits first second⟩
  | some none, other =>
    obtain rfl := cleared first
    refine ⟨fun _ => ?_, fun _ x inside => absurd inside (by simp)⟩
    cases other <;> trivial
  | other, some none =>
    obtain rfl := cleared second
    refine ⟨fun _ => ?_, fun _ x _ y inside => absurd inside (by simp)⟩
    rcases other with _ | (_ | a) <;> trivial

/-! ### The step -/

/-- The update of a plan merges the dates of its row in order. -/
def Merges (rt : Runtime) (s : Store) : SetupPlan → Prop
  | .updateSession _ input existing =>
    ∀ old ∈ s.academicSessions.find? existing.uuid,
      MergesInOrder rt input.startDate input.endDate old.startDate old.endDate
  | .updateRuleSet _ _ input existing =>
    ∀ old ∈ s.gradingRuleSets.find? existing.uuid,
      MergesInOrder rt input.effectiveFrom input.effectiveTo old.effectiveFrom old.effectiveTo
  | _ => True

/-- Clearing leaves the dates of a session. -/
theorem dates_clearedFor (current : Bool) (institutionId : Uuid) (keep : Option Uuid) (s : Store)
    (id : Uuid) :
    ((clearedFor current institutionId keep s).academicSessions.find? id).map
        (fun row => (row.startDate, row.endDate)) =
      (s.academicSessions.find? id).map fun row => (row.startDate, row.endDate) := by
  cases current with
  | false => rfl
  | true =>
    show ((clearCurrent institutionId keep s).academicSessions.find? id).map _ = _
    simp only [clearCurrent, Table.find?_updateMany, Option.map_map]
    congr 1
    funext row
    simp only [Function.comp_apply]
    split <;> rfl

/-- A session after clearing has the dates of the session before. -/
theorem find?_of_clearedFor {current : Bool} {institutionId : Uuid} {keep : Option Uuid} {s : Store}
    {id : Uuid} {row : AcademicSession}
    (found : (clearedFor current institutionId keep s).academicSessions.find? id = some row) :
    ∃ old, s.academicSessions.find? id = some old ∧ old.startDate = row.startDate ∧
      old.endDate = row.endDate := by
  have same := dates_clearedFor current institutionId keep s id
  rw [found, Option.map_some] at same
  obtain ⟨old, there, is⟩ := Option.map_eq_some_iff.mp same.symm
  exact ⟨old, there, (Prod.mk.inj is).1, (Prod.mk.inj is).2⟩

theorem ordered_clearedFor {s : Store} (fine : InOrder s) {current : Bool} {institutionId : Uuid}
    {keep : Option Uuid} : ∀ row ∈ (clearedFor current institutionId keep s).academicSessions.rows,
      Ordered row.startDate row.endDate := by
  intro row inside
  obtain ⟨old, there, start, last⟩ := find?_of_clearedFor (Table.find?_eq_some.mpr ⟨inside, rfl⟩)
  rw [← start, ← last]
  exact fine.sessions old (Table.find?_mem there)

/-- **The update of a session.** -/
theorem updateSession_inOrder (rise : DatesRise rt) {input : UpdateSessionInput}
    (fits : Fits rt input.startDate.join input.endDate.join) {auth : AuthTokenPayload}
    {existing : AcademicSession} {s t : Store} {row : AcademicSession} (fine : InOrder s)
    (updated : updateSessionCommit rt input existing s = .ok (row, t)) :
    InOrder t ↔ Merges rt s (.updateSession auth input existing) := by
  obtain ⟨old, f, keeps, -, found, rfl, rfl⟩ := updateSessionCommit_spec updated
  obtain ⟨same, found', start, last⟩ := updateSessionCommit_dates updated
  obtain rfl := Option.some.inj (found.symm.trans found')
  obtain ⟨before, there, startSame, lastSame⟩ := find?_of_clearedFor found
  have was := ordered_clearedFor fine old (Table.find?_mem found)
  have merged := ordered_patched_iff rise fits was start last
  have asks : Merges rt s (.updateSession auth input existing) ↔
      MergesInOrder rt input.startDate input.endDate old.startDate old.endDate := by
    simp only [Merges, there, Option.mem_some_iff, forall_eq', startSame, lastSame]
  rw [asks, ← merged]
  constructor
  · intro kept
    refine kept.sessions (f old) ?_
    show f old ∈ (Table.update _ existing.uuid f keeps).rows
    exact Table.mem_update.mpr (.inl ⟨old, Table.find?_mem found, Table.find?_key found, rfl⟩)
  · intro ordered
    refine ⟨fun r inside => ?_, fine.ruleSets⟩
    have news := @Table.news_update _ _ _ _ _ (fun r : AcademicSession =>
      Ordered r.startDate r.endDate) existing.uuid f keeps (fun r here => by
        rw [Option.some.inj (here.symm.trans found)]
        exact ordered)
    exact (news r inside).elim (ordered_clearedFor fine r) id

/-- **The update of a rule set.** -/
theorem updateRuleSet_inOrder (rise : DatesRise rt) {input : UpdateRuleSetInput}
    (fits : Fits rt input.effectiveFrom.join input.effectiveTo.join) {env : SetupEnv}
    {auth : AuthTokenPayload} {existing : GradingRuleSet} {s t : Store} {row : GradingRuleSet}
    (fine : InOrder s) (updated : updateRuleSetCommit rt env input existing s = .ok (row, t)) :
    InOrder t ↔ Merges rt s (.updateRuleSet env auth input existing) := by
  obtain ⟨old, f, keeps, found, ⟨-, -, start, last⟩, rfl, rfl⟩ := updateRuleSetCommit_row updated
  have was := fine.ruleSets old (Table.find?_mem found)
  have merged := ordered_patched_iff rise fits was start last
  have asks : Merges rt s (.updateRuleSet env auth input existing) ↔
      MergesInOrder rt input.effectiveFrom input.effectiveTo old.effectiveFrom old.effectiveTo := by
    simp only [Merges, found, Option.mem_some_iff, forall_eq']
  rw [asks, ← merged]
  constructor
  · intro kept
    refine kept.ruleSets (f old) ?_
    show f old ∈ (s.gradingRuleSets.update existing.uuid f keeps).rows
    exact Table.mem_update.mpr (.inl ⟨old, Table.find?_mem found, Table.find?_key found, rfl⟩)
  · intro ordered
    refine ⟨fine.sessions, fun r inside => ?_⟩
    have news := @Table.news_update _ _ _ _ _ (fun r : GradingRuleSet =>
      Ordered r.effectiveFrom r.effectiveTo) existing.uuid f keeps (fun r here => by
        rw [Option.some.inj (here.symm.trans found)]
        exact ordered)
    exact (news r inside).elim (fine.ruleSets r) id

/-- **A transaction keeps the dates in order** exactly when it merges so. -/
theorem setupCommit_inOrder (rise : DatesRise rt) {plan : SetupPlan} {s t : Store}
    {res : SetupResponse} (dated : Dated rt plan) (fine : InOrder s)
    (written : setupCommit rt plan s = .ok (res, t)) : InOrder t ↔ Merges rt s plan := by
  cases plan with
  | createSession env auth input institution =>
    obtain ⟨⟨row, u⟩, created, same⟩ := map_eq_ok.mp written
    obtain ⟨-, rfl⟩ := Prod.mk.inj same
    obtain ⟨start, last⟩ := createSessionCommit_dates created
    obtain ⟨-, sessions, inserted, rfl⟩ := createSessionCommit_spec created
    refine ⟨fun _ => trivial, fun _ => ⟨fun r inside => ?_, fine.ruleSets⟩⟩
    have news := Table.news_insert (P := fun r : AcademicSession => Ordered r.startDate r.endDate)
      inserted (ordered_of_fits rise dated start last)
    exact (news r inside).elim (ordered_clearedFor fine r) id
  | updateSession auth input existing =>
    obtain ⟨⟨row, u⟩, updated, same⟩ := map_eq_ok.mp written
    obtain ⟨-, rfl⟩ := Prod.mk.inj same
    exact updateSession_inOrder rise dated fine updated
  | createStructure env auth input institution =>
    obtain ⟨⟨row, u⟩, created, same⟩ := map_eq_ok.mp written
    obtain ⟨-, rfl⟩ := Prod.mk.inj same
    obtain ⟨-, structures, -, rfl⟩ := createStructureCommit_spec created
    exact ⟨fun _ => trivial, fun _ => ⟨fine.sessions, fine.ruleSets⟩⟩
  | updateStructure auth input existing =>
    obtain ⟨⟨row, u⟩, updated, same⟩ := map_eq_ok.mp written
    obtain ⟨-, rfl⟩ := Prod.mk.inj same
    obtain ⟨old, f, keeps, -, -, rfl⟩ := updateStructureCommit_spec updated
    exact ⟨fun _ => trivial, fun _ => ⟨fine.sessions, fine.ruleSets⟩⟩
  | createRuleSet env auth input institution =>
    obtain ⟨⟨row, u⟩, created, same⟩ := map_eq_ok.mp written
    obtain ⟨-, rfl⟩ := Prod.mk.inj same
    obtain ⟨⟨-, -, start, last⟩, ruleSets, inserted, rfl⟩ := createRuleSetCommit_row created
    refine ⟨fun _ => trivial, fun _ => ⟨fine.sessions, fun r inside => ?_⟩⟩
    have news := Table.news_insert
      (P := fun r : GradingRuleSet => Ordered r.effectiveFrom r.effectiveTo) inserted
      (ordered_of_fits rise dated start last)
    exact (news r inside).elim (fine.ruleSets r) id
  | updateRuleSet env auth input existing =>
    obtain ⟨⟨row, u⟩, updated, same⟩ := map_eq_ok.mp written
    obtain ⟨-, rfl⟩ := Prod.mk.inj same
    exact updateRuleSet_inOrder rise dated fine updated

/-! ### The run -/

abbrev SetupPool := Pool Store SetupPlan SetupResponse

/-- The update that a turn lets through, if any, merges in order. -/
def MergesTurn (lookup : Institutions.Lookup) (rt : Runtime) (p : SetupPool) (e : Turn SetupCall) :
    Prop :=
  ∀ plan res t, (setupMethodsThrough lookup rt).committing p e = some (plan, res, t) →
    Merges rt p.store plan

/-- The dates in order, and every plan in flight with dates that fit. -/
abbrev Dates (rt : Runtime) : SetupPool → Prop :=
  Method.Flight InOrder fun plan _ => Dated rt plan

/-- **A turn** that merges in order keeps the dates in order. -/
theorem dates_turn {lookup : Institutions.Lookup} (rise : DatesRise rt) {p : SetupPool}
    {e : Turn SetupCall} (dates : Dates rt p) (merges : MergesTurn lookup rt p e) :
    Dates rt ((setupMethodsThrough lookup rt).turn p e) := by
  refine Method.turn_flight_of (fun plan res s fine => ?_) dates ?_ ?_
  · refine ⟨?_, fun other waits => waits⟩
    show InOrder (setupLog plan res s)
    rcases setupLog_spec plan res s with same | ⟨event, same⟩
    · rw [same]
      exact fine
    · rw [same]
      exact ⟨fine.sessions, fine.ruleSets⟩
  · exact fun call plan _ checked => dated_of_reads (reads_of_check checked)
  · intro plan res t goes
    obtain ⟨inside, written⟩ := Method.committing_spec goes
    refine ⟨?_, fun other _ waits => waits⟩
    exact (setupCommit_inOrder rise (dates.inFlight plan inside) dates.store written).mpr
      (merges plan res t goes)

/-- A turn whose update does not merge in order leaves dates out of order. -/
theorem not_inOrder_turn {lookup : Institutions.Lookup} (rise : DatesRise rt) {p : SetupPool}
    {e : Turn SetupCall} (dates : Dates rt p) (fails : ¬ MergesTurn lookup rt p e) :
    ¬ InOrder ((setupMethodsThrough lookup rt).turn p e).store := by
  intro fine
  refine fails fun plan res t goes => ?_
  obtain ⟨inside, written⟩ := Method.committing_spec goes
  rw [(Method.turn_of_committing goes).1] at fine
  exact (setupCommit_inOrder rise (dates.inFlight plan inside) dates.store written).mp fine

/-- **Dates stay in order** in a run exactly when every update that commits names no date alone that
is out of order with the one it leaves. -/
theorem inOrder_iff (lookup : Institutions.Lookup) (rt : Runtime) (rise : DatesRise rt)
    (start : Store) (fine : InOrder start) (events : List (Turn SetupCall)) :
    Throughout (setupMethodsThrough lookup rt).turn (fun p => InOrder p.store) ⟨start, []⟩ events ↔
      Along (setupMethodsThrough lookup rt).turn (MergesTurn lookup rt) ⟨start, []⟩ events := by
  have begins : Dates rt ⟨start, []⟩ := ⟨fine, fun plan inside => absurd inside (by simp)⟩
  exact throughout_iff_of_exact (fun p e dates merges => dates_turn rise dates merges)
    (fun p dates => dates.store) (fun p e dates fails => not_inOrder_turn rise dates fails) begins
    events

/-! ### A term whose dates are named one by one -/

instance (rt : Runtime) (start last : Option (Option String)) (from_ to_ : Option Time) :
    Decidable (MergesInOrder rt start last from_ to_) :=
  match start, last with
  | some (some a), none => inferInstanceAs (Decidable (∀ x ∈ rt.parseDate a, ∀ y ∈ to_, x ≤ y))
  | none, some (some b) => inferInstanceAs (Decidable (∀ x ∈ from_, ∀ y ∈ rt.parseDate b, x ≤ y))
  | none, none | none, some none | some none, none | some none, some none
  | some none, some (some _) | some (some _), some none
  | some (some _), some (some _) => .isTrue trivial

/-- The condition as a check. -/
def merges (rt : Runtime) (s : Store) : SetupPlan → Bool
  | .updateSession _ input existing => (s.academicSessions.find? existing.uuid).all fun old =>
      MergesInOrder rt input.startDate input.endDate old.startDate old.endDate
  | .updateRuleSet _ _ input existing => (s.gradingRuleSets.find? existing.uuid).all fun old =>
      MergesInOrder rt input.effectiveFrom input.effectiveTo old.effectiveFrom old.effectiveTo
  | _ => true

theorem merges_iff {s : Store} {plan : SetupPlan} : merges rt s plan = true ↔ Merges rt s plan := by
  cases plan <;> simp [merges, Merges, Option.all_eq_true]

/-- The condition of a turn as a check. -/
def mergesTurn (lookup : Institutions.Lookup) (rt : Runtime) (p : SetupPool)
    (e : Turn SetupCall) : Bool :=
  ((setupMethodsThrough lookup rt).committing p e).all fun went => merges rt p.store went.1

theorem mergesTurn_sound {lookup : Institutions.Lookup} {p : SetupPool} {e : Turn SetupCall}
    (checked : mergesTurn lookup rt p e = true) : MergesTurn lookup rt p e := by
  intro plan res t goes
  unfold mergesTurn at checked
  rw [goes, Option.all_some] at checked
  exact merges_iff.mp checked

/-- The first and the last day of a term, and a day after it. -/
def days : List (String × Time) :=
  [("2026-01-12", 1768176000000), ("2026-04-10", 1775779200000), ("2026-06-01", 1780272000000)]

/-- A runtime that knows these days. -/
def calendar : Runtime :=
  { Runtime.plain with
    isDate := fun text => (days.lookup text).isSome
    parseDate := fun text => days.lookup text }

theorem calendar_rises : DatesRise calendar := by
  have known : ∀ text, calendar.isDate text = true → text ∈ days.map Prod.fst := by
    intro text is
    by_contra other
    have absent : days.lookup text = none := List.lookup_eq_none_iff.mpr fun day inside =>
      bne_iff_ne.mpr fun same => other (List.mem_map.mpr ⟨day, inside, same.symm⟩)
    have found : (days.lookup text).isSome = true := is
    rw [absent] at found
    exact absurd found (by simp)
  have pairs : ∀ a ∈ days.map Prod.fst, ∀ b ∈ days.map Prod.fst, codeUnitLe a b = true →
      (days.lookup a).all fun x => (days.lookup b).all fun y => x ≤ y := by
    decide
  intro a b isA isB texts x parsedA y parsedB
  have all := pairs a (known a isA) b (known b isB) texts
  have lookA : days.lookup a = some x := parsedA
  have lookB : days.lookup b = some y := parsedB
  rw [lookA, lookB, Option.all_some, Option.all_some] at all
  exact of_decide_eq_true all

def termId : Uuid := "90000000-0000-4000-8000-000000000001"

/-- A term is created with its last day, and the update names its first. -/
def namesFirst (first : String) : List (Turn SetupCall) :=
  [.begin (.createAcademicSession ⟨0, 1, termId⟩ BatchHistory.founder
      (.obj [("institutionId", .str "ACD-0001"), ("sessionLabel", .str "2025/2026"),
        ("periodType", .str "TERM"), ("periodLabel", .str "Second Term"),
        ("endDate", .str "2026-04-10")])), .advance 0 .done,
    .begin (.updateAcademicSession ⟨0, 2, ""⟩ BatchHistory.founder termId
      (.obj [("startDate", .str first)])), .advance 1 .done]

theorem school_inOrder : InOrder BatchHistory.school :=
  ⟨fun row inside => absurd inside (by simp [BatchHistory.school, Store.empty]),
    fun row inside => absurd inside (by simp [BatchHistory.school, Store.empty])⟩

/-- A first day before the last keeps the dates in order. -/
theorem firstDay_inOrder :
    Throughout (setupMethodsThrough GradingBands.anySchool calendar).turn (fun p => InOrder p.store)
      ⟨BatchHistory.school, []⟩ (namesFirst "2026-01-12") := by
  refine (inOrder_iff GradingBands.anySchool calendar calendar_rises BatchHistory.school school_inOrder _).mpr ?_
  refine Along.mono (fun p e checked => mergesTurn_sound checked)
    (show Along _ (fun p e => mergesTurn GradingBands.anySchool calendar p e = true) _ _ from ?_)
  decide

/-- **Dates get out of order**: an update names a first day after the last. -/
theorem inOrder_fails :
    ¬ ∀ (lookup : Institutions.Lookup) (rt : Runtime) (start : Store)
      (events : List (Turn SetupCall)), DatesRise rt → InOrder start →
        Throughout (setupMethodsThrough lookup rt).turn (fun p => InOrder p.store) ⟨start, []⟩
          events := by
  intro all
  have kept := all GradingBands.anySchool calendar BatchHistory.school (namesFirst "2026-06-01") calendar_rises
    school_inOrder
  have last := throughout_iff_prefixes.mp kept (namesFirst "2026-06-01") []
    (List.append_nil _).symm
  have here : ((runs (setupMethodsThrough GradingBands.anySchool calendar).turn ⟨BatchHistory.school, []⟩
      (namesFirst "2026-06-01")).store.academicSessions.find? termId).map
        (fun row => (row.startDate, row.endDate)) =
      some (some 1780272000000, some 1775779200000) := by
    decide
  obtain ⟨row, found, is⟩ := Option.map_eq_some_iff.mp here
  obtain ⟨start, finish⟩ := Prod.mk.inj is
  have ordered := last.sessions row (Table.find?_mem found) _ start _ finish
  exact absurd ordered (by decide)

end AcadID.SetupDates
