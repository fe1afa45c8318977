/-
**What can become of an ingested student.**

Pools of ingestions, academic setup, transfers and rollovers, from a store without enrolments.

* `Unplaced` — no enrolment, and no transfer request, has a session. Ingestion leaves the session
  of an enrolment empty, setup writes no enrolments, and a request copies the session of its
  enrolment; `turn_unplaced` keeps it, since under it no rollover passes its checks and no approval
  its transaction.
* `stranded` — **no ingested student ever moves**: a rollover refuses every decision on the
  enrolment, whatever the session, and no transfer request of it can be approved.
-/

import AcadID.Gateway.AcademicSetup
import AcadID.Gateway.BatchHistory
import AcadID.Gateway.Students
import AcadID.Gateway.Transfers
import AcadID.Lib.Run

namespace AcadID.Onboarding

open Lib Rollovers Students AcademicSetup Transfers

abbrev InstitutionCall := (StudentsCall ⊕ SetupCall) ⊕ (TransferCall ⊕ RolloverCall)

abbrev InstitutionPlan := (StudentsPlan ⊕ SetupPlan) ⊕ (TransferPlan ⊕ RolloverPlan)

abbrev InstitutionResponse :=
  (Register ⊕ SetupResponse) ⊕ (TransferResponse ⊕ List ConfirmedRollover)

/-- Ingestion and academic setup, and what moves students to another session or institution. -/
def institutionMethods (rt : Runtime) :
    Method Store ServiceError InstitutionCall InstitutionPlan InstitutionResponse :=
  ((ingestStudents rt).sum (setupMethods rt)).sum ((transferMethods rt).sum (confirmRollover rt))

abbrev InstitutionPool := Pool Store InstitutionPlan InstitutionResponse

/-! ### What the students should be able to do -/

/-- There is an open session of which a rollover accepts a decision on the enrolment. -/
def AcceptsDecision (rt : Runtime) (s : Store) (e : Enrolment) : Prop :=
  ∃ session ∈ s.academicSessions.rows, session.status ≠ .sealed ∧
    ∃ c plan, (confirmRollover rt).check c s = .ok plan ∧
      plan.input.fromSessionId = session.uuid ∧ e.uuid ∈ plan.input.enrolmentIds

/-- Some review approves the transfer request. -/
def Approvable (s : Store) (transferId : Uuid) : Prop :=
  ∃ c plan written, c.id = transferId ∧ reviewTransferRequest.check c s = .ok plan ∧
    plan.input.decision = .approve ∧ reviewTransferRequest.commit plan s = .ok written

/-- An accepted request to transfer the enrolment: what its transaction writes. -/
def Requested (rt : Runtime) (s : Store) (e : Enrolment) (transfer : TransferRequest) (t : Store) :
    Prop :=
  ∃ env auth body plan, createTransferCheck rt env auth body s = .ok plan ∧
    plan.enrolment.uuid = e.uuid ∧ createTransferCommit rt plan s = .ok (transfer, t)

/-- **The student can move**, to another session and to another institution. -/
def Movable (rt : Runtime) (s : Store) (e : Enrolment) : Prop :=
  AcceptsDecision rt s e ∧
    ∀ transfer t, Requested rt s e transfer t → Approvable t transfer.uuid

/-! ### Students of no session -/

/-- No enrolment and no transfer request has a session. -/
structure Unplaced (s : Store) : Prop where
  enrolments : ∀ e ∈ s.enrolments.rows, e.academicSessionId = none
  transfers : ∀ t ∈ s.transferRequests.rows, t.fromSessionId = none

/-- What a plan in flight has read of them. -/
def PlanUnplaced (plan : InstitutionPlan) : Prop :=
  match plan with
  | .inr (.inl (.create plan)) => plan.enrolment.academicSessionId = none
  | .inr (.inl (.review plan)) => plan.existing.fromSessionId = none
  | .inr (.inr plan) => plan.input.enrolmentIds = []
  | _ => True

theorem Unplaced.of_same {s t : Store} (unplaced : Unplaced s)
    (enrolments : t.enrolments = s.enrolments) (transfers : t.transferRequests = s.transferRequests) :
    Unplaced t where
  enrolments := by
    rw [enrolments]
    exact unplaced.enrolments
  transfers := by
    rw [transfers]
    exact unplaced.transfers

/-- A request rewritten in place keeps its session. -/
theorem Unplaced.update {s : Store} (unplaced : Unplaced s) {id : Uuid}
    {f : TransferRequest → TransferRequest} (keeps : ∀ r, (f r).uuid = r.uuid)
    (same : ∀ r, (f r).fromSessionId = r.fromSessionId) :
    ∀ t ∈ (s.transferRequests.update id f keeps).rows, t.fromSessionId = none := by
  intro t inside
  rcases Table.mem_update.mp inside with ⟨old, there, -, rfl⟩ | ⟨there, -⟩
  · rw [same]
    exact unplaced.transfers old there
  · exact unplaced.transfers t there

theorem Unplaced.followed {s : Store} (unplaced : Unplaced s) {snapshot : Option TransferRequest}
    {f : TransferRequest → TransferRequest → TransferRequest}
    (keeps : ∀ t r, (f t r).uuid = r.uuid)
    (same : ∀ t r, (f t r).fromSessionId = r.fromSessionId) :
    ∀ t ∈ (followed snapshot f keeps s.transferRequests).rows, t.fromSessionId = none := by
  cases snapshot with
  | none => exact unplaced.transfers
  | some transfer => exact unplaced.update (keeps transfer) (same transfer)

/-- **A rollover can name no enrolment**: those it may decide on are of its source session. -/
theorem named_none {rt : Runtime} {s : Store} (unplaced : Unplaced s) {c : RolloverCall}
    {plan : RolloverPlan} (checked : (confirmRollover rt).check c s = .ok plan) :
    plan.input.enrolmentIds = [] := by
  obtain ⟨-, -, planned⟩ := rolloverCheck_spec checked
  refine List.eq_nil_iff_forall_not_mem.mpr fun id inside => ?_
  obtain ⟨e, eligible, -⟩ := planned.named id inside
  rw [planned.enrolments] at eligible
  obtain ⟨row, -, placed, -⟩ := mem_eligible eligible
  rw [unplaced.enrolments e row] at placed
  exact absurd placed (by simp)

/-- **No approval goes through**: its rollover record would have no source session. -/
theorem not_approved {s t : Store} (unplaced : Unplaced s) {plan : ReviewTransferPlan}
    (read : plan.existing.fromSessionId = none) {transfer : TransferRequest} :
    approveTransfer plan s ≠ .ok (transfer, t) := by
  intro approved
  obtain ⟨enrolment, fromSessionId, rollovers, source, ofSession, -⟩ := approveTransfer_spec approved
  obtain ⟨-, found, -⟩ := sourceEnrolment_spec source
  rw [read, unplaced.enrolments enrolment (Table.find?_mem found)] at ofSession
  exact absurd ofSession (by simp)

/-! ### What the checks read -/

theorem createTransferCheck_enrolment {rt : Runtime} {env : TransferEnv} {auth : AuthTokenPayload}
    {body : Json} {s : Store} {plan : CreateTransferPlan}
    (checked : createTransferCheck rt env auth body s = .ok plan) :
    plan.enrolment ∈ s.enrolments.rows := by
  unfold createTransferCheck at checked
  obtain ⟨input, -, rest⟩ := bind_eq_ok.mp checked
  obtain ⟨institution, -, rest⟩ := bind_eq_ok.mp rest
  obtain ⟨enrolment, found, rest⟩ := bind_eq_ok.mp rest
  obtain ⟨learner, -, rest⟩ := bind_eq_ok.mp rest
  obtain ⟨_, -, rest⟩ := bind_eq_ok.mp rest
  obtain ⟨_, -, same⟩ := bind_eq_ok.mp rest
  rw [pure_eq_ok] at same
  subst same
  exact Table.find?_mem (Option.filter_eq_some_iff.mp (orThrow_eq_ok.mp found)).1

theorem reviewTransferCheck_existing {env : ReviewTransferEnv} {auth : AuthTokenPayload} {id : Uuid}
    {body : Json} {s : Store} {plan : ReviewTransferPlan}
    (checked : reviewTransferCheck env auth id body s = .ok plan) :
    plan.existing ∈ s.transferRequests.rows := by
  unfold reviewTransferCheck at checked
  obtain ⟨input, -, rest⟩ := bind_eq_ok.mp checked
  obtain ⟨existing, found, rest⟩ := bind_eq_ok.mp rest
  obtain ⟨_, -, rest⟩ := bind_eq_ok.mp rest
  obtain ⟨_, -, same⟩ := bind_eq_ok.mp rest
  rw [pure_eq_ok] at same
  subst same
  exact Table.find?_mem (orThrow_eq_ok.mp found)

theorem transferCheck_unplaced {rt : Runtime} {call : TransferCall} {plan : TransferPlan} {s : Store}
    (unplaced : Unplaced s) (checked : transferCheck rt call s = .ok plan) :
    PlanUnplaced (.inr (.inl plan)) := by
  cases call with
  | create env auth body =>
    obtain ⟨p, passed, rfl⟩ := map_eq_ok.mp checked
    exact unplaced.enrolments _ (createTransferCheck_enrolment passed)
  | review call =>
    obtain ⟨p, passed, rfl⟩ := map_eq_ok.mp checked
    exact unplaced.transfers _ (reviewTransferCheck_existing passed)
  | dispute env auth rolloverId body =>
    obtain ⟨p, -, rfl⟩ := map_eq_ok.mp checked
    trivial
  | resolve now auth rolloverId body =>
    obtain ⟨p, -, rfl⟩ := map_eq_ok.mp checked
    trivial

theorem check_unplaced {rt : Runtime} {c : InstitutionCall} {s : Store} {plan : InstitutionPlan}
    (unplaced : Unplaced s) (checked : (institutionMethods rt).check c s = .ok plan) :
    PlanUnplaced plan := by
  rcases Method.sum_check checked with ⟨_, p, rfl, -⟩ | ⟨_, p, rfl, moves⟩
  · trivial
  · rcases Method.sum_check moves with ⟨c', p', rfl, passed⟩ | ⟨c', p', rfl, passed⟩
    · exact transferCheck_unplaced unplaced passed
    · exact named_none unplaced passed

/-! ### What the transactions write -/

theorem transferCommit_unplaced {rt : Runtime} {plan : TransferPlan} {s t : Store}
    {res : TransferResponse} (unplaced : Unplaced s) (read : PlanUnplaced (.inr (.inl plan)))
    (committed : transferCommit rt plan s = .ok (res, t)) : Unplaced t := by
  cases plan with
  | create plan =>
    obtain ⟨⟨row, u⟩, created, same⟩ := map_eq_ok.mp committed
    obtain ⟨-, rfl⟩ := Prod.mk.inj same
    obtain ⟨transfers, inserted, rfl⟩ := createTransferCommit_spec created
    refine ⟨unplaced.enrolments, fun transfer inside => ?_⟩
    have inside : transfer ∈ transfers.rows := inside
    rw [(Table.insert_eq_some.mp inserted).2, List.mem_append, List.mem_singleton] at inside
    rcases inside with old | rfl
    · exact unplaced.transfers transfer old
    · exact read
  | review plan =>
    obtain ⟨⟨row, u⟩, reviewed, same⟩ := map_eq_ok.mp committed
    obtain ⟨-, rfl⟩ := Prod.mk.inj same
    rcases reviewTransferCommit_spec reviewed with ⟨-, approved⟩ | ⟨-, status, -, -, rfl⟩
    · exact absurd approved (not_approved unplaced read)
    · exact ⟨unplaced.enrolments, unplaced.update (f := plan.closed status) (fun _ => rfl) fun _ => rfl⟩
  | dispute plan =>
    obtain ⟨⟨row, u⟩, created, same⟩ := map_eq_ok.mp committed
    obtain ⟨-, rfl⟩ := Prod.mk.inj same
    obtain ⟨enrolments, transfers, -⟩ := createDisputeCommit_spec created
    refine ⟨?_, ?_⟩
    · rw [enrolments]
      exact unplaced.enrolments
    · rw [transfers]
      exact unplaced.followed (f := plan.disputed) (fun _ _ => rfl) fun _ _ => rfl
  | resolve plan =>
    obtain ⟨⟨row, u⟩, resolved, same⟩ := map_eq_ok.mp committed
    obtain ⟨-, rfl⟩ := Prod.mk.inj same
    obtain ⟨enrolments, transfers, -⟩ := resolveDisputeCommit_spec resolved
    refine ⟨?_, ?_⟩
    · rw [enrolments]
      exact unplaced.enrolments
    · rw [transfers]
      exact unplaced.followed (f := plan.resolved) (fun _ _ => rfl) fun _ _ => rfl

/-- The students that an ingestion enrols are in no session. -/
theorem enrols_unplaced {plan : StudentsPlan} {s t : Store} (unplaced : Unplaced s)
    (enrols : Enrols plan s t) : Unplaced t := by
  obtain ⟨⟨new, rows, each⟩, learners, enrolments, rfl⟩ := enrols
  refine ⟨fun e inside => ?_, unplaced.transfers⟩
  rw [rows] at inside
  rcases List.mem_append.mp inside with old | fresh
  · exact unplaced.enrolments e old
  · exact (each e fresh).2.2

theorem commit_unplaced {rt : Runtime} {plan : InstitutionPlan} {s t : Store}
    {res : InstitutionResponse} (unplaced : Unplaced s) (read : PlanUnplaced plan)
    (committed : (institutionMethods rt).commit plan s = .ok (res, t)) : Unplaced t := by
  rcases Method.sum_commit committed with ⟨p, r, rfl, onboards⟩ | ⟨p, r, rfl, moves⟩
  · rcases Method.sum_commit onboards with ⟨p', r', rfl, ingested⟩ | ⟨p', r', rfl, written⟩
    · exact enrols_unplaced unplaced (ingestRows_spec ingested)
    · obtain ⟨_, _, _, rfl⟩ := setupCommit_spec written
      exact unplaced.of_same rfl rfl
  · rcases Method.sum_commit moves with ⟨p', r', rfl, transfers⟩ | ⟨p', r', rfl, rolls⟩
    · exact transferCommit_unplaced unplaced read transfers
    · have none : p'.input.decisions = [] := List.map_eq_nil_iff.mp read
      have idle : confirmRows p' 0 p'.input.decisions s = .ok (r', t) := rolls
      rw [none] at idle
      obtain ⟨-, rfl⟩ := Prod.mk.inj (Except.ok.inj idle)
      exact unplaced

/-- A log entry changes the audit log, if anything. -/
theorem log_same (rt : Runtime) (plan : InstitutionPlan) (res : InstitutionResponse) (s : Store) :
    ((institutionMethods rt).log plan res s).enrolments = s.enrolments ∧
      ((institutionMethods rt).log plan res s).transferRequests = s.transferRequests := by
  rcases plan with (plan | plan) | (plan | plan) <;> rcases res with (res | res) | (res | res)
  all_goals first | exact ⟨rfl, rfl⟩ | (cases plan <;> cases res <;> exact ⟨rfl, rfl⟩)

/-- **One turn** leaves every student in no session. -/
theorem turn_unplaced {rt : Runtime} {p : InstitutionPool} (e : Turn InstitutionCall)
    (flight : Method.Flight Unplaced (fun plan _ => PlanUnplaced plan) p) :
    Method.Flight Unplaced (fun plan _ => PlanUnplaced plan) ((institutionMethods rt).turn p e) := by
  refine Method.turn_flight (fun _ _ _ unplaced checked => check_unplaced unplaced checked) ?_
    flight ?_
  · intro plan res s unplaced
    obtain ⟨enrolments, transfers⟩ := log_same rt plan res s
    exact ⟨unplaced.of_same enrolments transfers, fun other read => read⟩
  · intro plan res t goes
    obtain ⟨inFlight, committed⟩ := Method.committing_spec goes
    exact ⟨commit_unplaced flight.store (flight.inFlight plan inFlight) committed,
      fun other read => read⟩

/-- **A whole run** leaves every student in no session. -/
theorem runs_unplaced {rt : Runtime} {p : InstitutionPool} (events : List (Turn InstitutionCall))
    (flight : Method.Flight Unplaced (fun plan _ => PlanUnplaced plan) p) :
    Method.Flight Unplaced (fun plan _ => PlanUnplaced plan)
      (runs (institutionMethods rt).turn p events) := by
  induction events generalizing p with
  | nil => exact flight
  | cons e events ih => exact ih (turn_unplaced e flight)

/-! ### Stranded students -/

theorem not_acceptsDecision {rt : Runtime} {s : Store} (unplaced : Unplaced s) (e : Enrolment) :
    ¬ AcceptsDecision rt s e := by
  rintro ⟨session, -, -, c, plan, checked, -, named⟩
  rw [named_none unplaced checked] at named
  exact absurd named (by simp)

theorem not_approvable {s : Store} (unplaced : Unplaced s) (transferId : Uuid) :
    ¬ Approvable s transferId := by
  rintro ⟨c, plan, ⟨transfer, t⟩, -, checked, approves, reviewed⟩
  have read : plan.existing.fromSessionId = none :=
    unplaced.transfers _ (reviewTransferCheck_existing checked)
  rcases reviewTransferCommit_spec reviewed with ⟨-, approved⟩ | ⟨closes, -⟩
  · exact not_approved unplaced read approved
  · exact closes approves

/-- A request for an enrolment of no session leaves the students in no session. -/
theorem requested_unplaced {rt : Runtime} {s t : Store} {e : Enrolment} {transfer : TransferRequest}
    (unplaced : Unplaced s) (requested : Requested rt s e transfer t) : Unplaced t := by
  obtain ⟨env, auth, body, plan, checked, -, created⟩ := requested
  have read : PlanUnplaced (.inr (.inl (.create plan))) :=
    unplaced.enrolments _ (createTransferCheck_enrolment checked)
  have committed : transferCommit rt (.create plan) s = .ok (.transfer transfer, t) :=
    map_eq_ok.mpr ⟨(transfer, t), created, rfl⟩
  exact transferCommit_unplaced unplaced read committed

theorem unplaced_of_empty {s : Store} (unenrolled : s.enrolments.rows = [])
    (unrequested : s.transferRequests.rows = []) :
    Method.Flight Unplaced (fun plan _ => PlanUnplaced plan) (⟨s, []⟩ : InstitutionPool) where
  store := by
    refine ⟨fun e inside => ?_, fun t inside => ?_⟩
    · rw [unenrolled] at inside
      exact absurd inside (by simp)
    · rw [unrequested] at inside
      exact absurd inside (by simp)
  inFlight := by simp

/-- **No ingested student ever moves.** In every state of a run from a store without enrolments and
transfer requests, a rollover accepts no decision on an active enrolment from any session, and once
a transfer of it is requested no review approves the request, however the run goes on. -/
theorem stranded (rt : Runtime) (start : Store) (events : List (Turn InstitutionCall))
    (unenrolled : start.enrolments.rows = []) (unrequested : start.transferRequests.rows = []) :
    let p := runs (institutionMethods rt).turn ⟨start, []⟩ events
    ∀ e ∈ p.store.enrolments.rows, e.status = .active →
      ¬ AcceptsDecision rt p.store e ∧
        ∀ transfer t, Requested rt p.store e transfer t → ∀ more, ¬ Approvable
          (runs (institutionMethods rt).turn ⟨t, p.calls⟩ more).store transfer.uuid := by
  intro p e _ _
  have flight := @runs_unplaced rt _ events (unplaced_of_empty unenrolled unrequested)
  refine ⟨not_acceptsDecision flight.store e, fun transfer t requested more => ?_⟩
  have asked : Method.Flight Unplaced (fun plan _ => PlanUnplaced plan)
      (⟨t, p.calls⟩ : InstitutionPool) :=
    ⟨requested_unplaced flight.store requested, flight.inFlight⟩
  exact not_approvable (runs_unplaced more asked).store transfer.uuid

/-! ### One student -/

/-- The school before its first student. -/
def newSchool : Store :=
  { BatchHistory.school with enrolments := .empty }

/-- A runtime that can read the date of birth of the student and the date of the entry. -/
def calendar : Runtime :=
  { Runtime.plain with
    parseDate := fun text => [("2012-05-04", 1336089600000), ("2024-09-01", 1725148800000)].lookup text }

/-- The register of one student. -/
def registerOne : StudentsCall where
  env :=
    { pick := 0
      rowPick := fun _ => 0
      checkedAt := 1
      enteredAt := 2
      learnerUuid := fun _ => "40000000-0000-4000-8000-000000000001"
      enrolmentUuid := fun _ => "30000000-0000-4000-8000-000000000001" }
  auth := BatchHistory.founder
  body := .obj
    [("institutionId", .str "ACD-0001"), ("entryDate", .str "2024-09-01"),
      ("rows", .arr [.obj
        [("fullName", .str "Ada Obi"), ("dateOfBirth", .str "2012-05-04"),
          ("studentNumber", .str "S-1"), ("level", .str "JSS 1"),
          ("programme", .str "Science")]])]

/-- The register ingested. -/
def registered : List (Turn InstitutionCall) :=
  [.begin (.inl (.inl registerOne)), .advance 0 .done, .advance 0 .done]

/-- The enrolment that the ingestion leaves. -/
def registeredEnrolment : Enrolment where
  uuid := "30000000-0000-4000-8000-000000000001"
  learnerId := "40000000-0000-4000-8000-000000000001"
  institutionId := "10000000-0000-4000-8000-000000000001"
  academicSessionId := none
  structureScopeId := none
  studentNumber := "S-1"
  level := "JSS 1"
  programme := "Science"
  entryDate := 1725148800000
  exitDate := none
  exitType := none
  status := .active

/-- The pool once the student is ingested. -/
def registeredPool : InstitutionPool :=
  runs (institutionMethods calendar).turn ⟨newSchool, []⟩ registered

theorem registered_here : registeredEnrolment ∈ registeredPool.store.enrolments.rows := by
  decide

/-- The student asks to leave for another school. -/
def askedToLeave : Except ServiceError (CreateTransferPlan × TransferRequest × Store) := do
  let plan ← createTransferCheck calendar
    ⟨0, 6, "e0000000-0000-4000-8000-000000000001", "d0000000-0000-4000-8000-000000000001"⟩
    BatchHistory.founder
    (.obj [("institutionId", .str "ACD-0001"), ("enrolmentId", .str registeredEnrolment.uuid),
      ("toInstitutionNameSubmitted", .str "Second School")]) registeredPool.store
  let written ← createTransferCommit calendar plan registeredPool.store
  return (plan, written)

theorem requested_registered :
    ∃ transfer t, Requested calendar registeredPool.store registeredEnrolment transfer t := by
  have named : askedToLeave.toOption.map (·.1.enrolment.uuid) = some registeredEnrolment.uuid := by
    decide
  obtain ⟨⟨plan, transfer, t⟩, asked, of⟩ := Option.map_eq_some_iff.mp named
  cases went : askedToLeave with
  | error e =>
    rw [went] at asked
    exact absurd asked (by simp [Except.toOption])
  | ok result =>
    rw [went] at asked
    obtain rfl := Option.some.inj asked
    obtain ⟨plan', checked, rest⟩ := bind_eq_ok.mp went
    obtain ⟨written, committed, same⟩ := bind_eq_ok.mp rest
    rw [pure_eq_ok] at same
    obtain ⟨rfl, rfl⟩ := Prod.mk.inj same
    exact ⟨transfer, t, _, _, _, plan', checked, of, committed⟩

/-- The ingested student can be neither rolled over nor transferred, though a request is accepted. -/
theorem stranded_registered :
    ¬ AcceptsDecision calendar registeredPool.store registeredEnrolment ∧
      ∃ transfer t, Requested calendar registeredPool.store registeredEnrolment transfer t ∧
        ¬ Approvable t transfer.uuid := by
  obtain ⟨refused, unapproved⟩ :=
    stranded calendar newSchool registered rfl rfl registeredEnrolment registered_here rfl
  obtain ⟨transfer, t, requested⟩ := requested_registered
  exact ⟨refused, transfer, t, requested, unapproved transfer t requested []⟩

/-- **An active enrolment need not be movable**: that of the first ingested student is not. -/
theorem movable_fails :
    ¬ ∀ (rt : Runtime) (start : Store) (events : List (Turn InstitutionCall)),
      start.enrolments.rows = [] → start.transferRequests.rows = [] →
        let s := (runs (institutionMethods rt).turn ⟨start, []⟩ events).store
        ∀ e ∈ s.enrolments.rows, e.status = .active → Movable rt s e := by
  intro all
  have movable := all calendar newSchool registered rfl rfl registeredEnrolment registered_here rfl
  have flight := @runs_unplaced calendar _ registered
    (unplaced_of_empty (s := newSchool) rfl rfl)
  exact not_acceptsDecision flight.store registeredEnrolment movable.1

end AcadID.Onboarding
