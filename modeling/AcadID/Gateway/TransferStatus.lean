/-
**The status of a transfer request and the rollover record it is linked to.**

Any number of calls of the four operations on transfer requests and disputes in flight together,
with the requests that have moved their enrolment kept beside the store.

* `Matches` — a request is completed or disputed exactly when it is linked to a rollover record.
* `Changes` — what a transaction does to one row; `matches_iff` — **it keeps the row matched, unless
  it closes a completed or disputed request**.
* `consistent_iff` — **every request stays matched, and none that was rejected or cancelled has moved
  its enrolment, exactly when every rejection or cancellation that goes through finds its request
  neither completed nor disputed**. The check of a review refuses completed requests; disputed ones
  it lets through, and it reads the status before the transaction.
-/

import AcadID.Gateway.Departures

namespace AcadID.TransferStatus

open Lib Rollovers Transfers

/-! ### The property -/

/-- `COMPLETED` or `DISPUTED`. -/
def isFulfilled (status : TransferRequestStatus) : Bool :=
  [.completed, .disputed].contains status

/-- A request is fulfilled exactly when it is linked to a rollover record. -/
def Matches (transfer : TransferRequest) : Prop :=
  isFulfilled transfer.status = transfer.rolloverRecordId.isSome

instance (transfer : TransferRequest) : Decidable (Matches transfer) :=
  inferInstanceAs (Decidable (_ = _))

def Settled (s : Store) : Prop :=
  ∀ transfer ∈ s.transferRequests.rows, Matches transfer

instance (s : Store) : Decidable (Settled s) :=
  inferInstanceAs (Decidable (∀ transfer ∈ s.transferRequests.rows, Matches transfer))

abbrev TransferPool := Pool Store TransferPlan TransferResponse

/-- The calls in flight, and the requests that have moved their source enrolment. -/
structure History where
  pool : TransferPool
  moved : List Uuid

/-- The request, if any, whose transaction takes its source enrolment to `TRANSFERRED_OUT` in this
turn. -/
def movedOut (rt : Runtime) (p : TransferPool) (e : Turn TransferCall) : Option Uuid :=
  match (transferMethods rt).committing p e with
  | some (.review plan, _, t) =>
    if plan.existing.fromEnrolmentId.any fun id =>
        statusOf p.store id != some .transferredOut && statusOf t id == some .transferredOut then
      some plan.existing.uuid
    else none
  | _ => none

def historyTurn (rt : Runtime) (h : History) (e : Turn TransferCall) : History where
  pool := (transferMethods rt).turn h.pool e
  moved := h.moved ++ (movedOut rt h.pool e).toList

/-- Every request is matched, and one that is rejected or cancelled has no linked rollover record and
has not moved its enrolment. -/
def Consistent (h : History) : Prop :=
  ∀ transfer ∈ h.pool.store.transferRequests.rows, Matches transfer ∧
    ((transfer.status = .rejected ∨ transfer.status = .cancelled) →
      transfer.rolloverRecordId = none ∧ transfer.uuid ∉ h.moved)

/-- A rejection or cancellation finds its request neither completed nor disputed. -/
def ClosesUnfulfilled (plan : TransferPlan) (s : Store) : Prop :=
  ∀ p, plan = .review p → p.input.decision ≠ .approve → ∀ transfer,
    s.transferRequests.find? p.existing.uuid = some transfer → isFulfilled transfer.status = false

/-- So does every one that goes through. -/
def Guarded (rt : Runtime) (h : History) (e : Turn TransferCall) : Prop :=
  ∀ plan res t, (transferMethods rt).committing h.pool e = some (plan, res, t) →
    ClosesUnfulfilled plan h.pool.store

/-! ### What a transaction does to the requests -/

/-- The request is there and linked. -/
def IsLinked (s : Store) (id : Uuid) : Prop :=
  ∃ r, s.transferRequests.find? id = some r ∧ r.rolloverRecordId.isSome = true

/-- One row is updated, and stays linked if it was. -/
structure Updates (s t : Store) (id : Uuid) (f : TransferRequest → TransferRequest) : Prop where
  keeps : ∀ r, (f r).uuid = r.uuid
  requests : t.transferRequests = s.transferRequests.update id f keeps
  links : ∀ r, r.rolloverRecordId.isSome = true → (f r).rolloverRecordId.isSome = true

theorem isLinked_updates {s t : Store} {id : Uuid} {f : TransferRequest → TransferRequest}
    (updates : Updates s t id f) {k : Uuid} (linked : IsLinked s k) : IsLinked t k := by
  obtain ⟨r, found, has⟩ := linked
  unfold IsLinked
  rw [updates.requests, Table.find?_update]
  by_cases same : id = k
  · rw [if_pos same, found]
    exact ⟨f r, rfl, updates.links r has⟩
  · rw [if_neg same]
    exact ⟨r, found, has⟩

/-- **The row updated decides** whether the requests stay matched. -/
theorem settled_updates {s t : Store} {id : Uuid} {f : TransferRequest → TransferRequest}
    (updates : Updates s t id f) (settled : Settled s) :
    Settled t ↔ ∀ r, s.transferRequests.find? id = some r → Matches (f r) := by
  unfold Settled
  rw [updates.requests]
  constructor
  · intro all r found
    obtain ⟨inside, is⟩ := Table.find?_eq_some.mp found
    exact all _ (Table.mem_update.mpr (.inl ⟨r, inside, is, rfl⟩))
  · intro one r inside
    rcases Table.mem_update.mp inside with ⟨old, row, is, rfl⟩ | ⟨row, -⟩
    · exact one old (Table.find?_eq_some.mpr ⟨row, is⟩)
    · exact settled r row

/-- **What a transaction does to the requests**, plan by plan. -/
inductive Changes (rt : Runtime) (s t : Store) : TransferPlan → Prop where
  | created (plan : CreateTransferPlan)
      (inserted : s.transferRequests.insert (newTransfer rt plan) = some t.transferRequests) :
      Changes rt s t (.create plan)
  | approved (plan : ReviewTransferPlan)
      (present : (s.transferRequests.find? plan.existing.uuid).isSome)
      (approves : plan.input.decision = .approve)
      (updates : Updates s t plan.existing.uuid plan.completed) : Changes rt s t (.review plan)
  | closed (plan : ReviewTransferPlan) (status : TransferRequestStatus)
      (present : (s.transferRequests.find? plan.existing.uuid).isSome)
      (closes : plan.input.decision ≠ .approve) (ends : isFulfilled status = false)
      (enrolments : t.enrolments = s.enrolments)
      (updates : Updates s t plan.existing.uuid (plan.closed status)) :
      Changes rt s t (.review plan)
  | disputed (plan : DisputePlan) (snapshot : TransferRequest)
      (read : plan.transferRequest = some snapshot)
      (updates : Updates s t snapshot.uuid (plan.disputed snapshot)) : Changes rt s t (.dispute plan)
  | resolved (plan : ResolvePlan) (snapshot : TransferRequest)
      (read : plan.transferRequest = some snapshot)
      (updates : Updates s t snapshot.uuid (plan.resolved snapshot)) : Changes rt s t (.resolve plan)
  | untouched (plan : TransferPlan) (other : ∀ p, plan ≠ .review p)
      (same : t.transferRequests = s.transferRequests) : Changes rt s t plan

theorem changes_of_commit {rt : Runtime} {plan : TransferPlan} {s t : Store}
    {res : TransferResponse} (committed : (transferMethods rt).commit plan s = .ok (res, t)) :
    Changes rt s t plan := by
  cases plan with
  | create p =>
    obtain ⟨⟨row, t'⟩, created, same⟩ := map_eq_ok.mp committed
    obtain ⟨-, rfl⟩ := Prod.mk.inj same
    obtain ⟨transfers, inserted, rfl⟩ := createTransferCommit_spec created
    exact .created p inserted
  | review p =>
    obtain ⟨⟨row, t'⟩, reviewed, same⟩ := map_eq_ok.mp committed
    obtain ⟨-, rfl⟩ := Prod.mk.inj same
    rcases reviewTransferCommit_spec reviewed with
      ⟨approves, approved⟩ | ⟨closes, status, ends, present, rfl⟩
    · obtain ⟨-, -, rollovers, -, -, -, present, rfl⟩ := approveTransfer_spec approved
      exact .approved p present approves ⟨fun _ => rfl, rfl, fun _ _ => rfl⟩
    · refine .closed p status present closes ?_ rfl ⟨fun _ => rfl, rfl, fun _ has => has⟩
      rcases ends with rfl | rfl <;> rfl
  | dispute p =>
    obtain ⟨⟨row, t'⟩, created, same⟩ := map_eq_ok.mp committed
    obtain ⟨-, rfl⟩ := Prod.mk.inj same
    obtain ⟨-, requests, -⟩ := createDisputeCommit_spec created
    cases read : p.transferRequest with
    | none =>
      rw [read] at requests
      exact .untouched _ (by simp) requests
    | some snapshot =>
      rw [read] at requests
      exact .disputed p snapshot read ⟨fun _ => rfl, requests, fun _ has => has⟩
  | resolve p =>
    obtain ⟨⟨row, t'⟩, resolved, same⟩ := map_eq_ok.mp committed
    obtain ⟨-, rfl⟩ := Prod.mk.inj same
    obtain ⟨-, requests, -⟩ := resolveDisputeCommit_spec resolved
    cases read : p.transferRequest with
    | none =>
      rw [read] at requests
      exact .untouched _ (by simp) requests
    | some snapshot =>
      rw [read] at requests
      exact .resolved p snapshot read ⟨fun _ => rfl, requests, fun _ has => has⟩

/-- **No transaction unlinks a request.** -/
theorem isLinked_changes {rt : Runtime} {plan : TransferPlan} {s t : Store}
    (changes : Changes rt s t plan) {k : Uuid} (linked : IsLinked s k) : IsLinked t k := by
  cases changes with
  | created p inserted =>
    obtain ⟨r, found, has⟩ := linked
    refine ⟨r, ?_, has⟩
    rw [Table.find?_insert inserted, if_neg ?_]
    · exact found
    · intro taken
      exact (Table.insert_eq_some.mp inserted).1 r (Table.find?_mem found)
        ((Table.find?_key found).trans taken.symm)
  | approved p present approves updates => exact isLinked_updates updates linked
  | closed p status present closes ends enrolments updates => exact isLinked_updates updates linked
  | disputed p snapshot read updates => exact isLinked_updates updates linked
  | resolved p snapshot read updates => exact isLinked_updates updates linked
  | untouched plan other same =>
    unfold IsLinked
    rw [same]
    exact linked

/-! ### What the plans in flight have read -/

/-- The request that a dispute follows is linked, and the snapshot that a resolution writes from was
fulfilled. -/
structure Follows (plan : TransferPlan) (s : Store) : Prop where
  dispute : ∀ p snapshot, plan = .dispute p → p.transferRequest = some snapshot →
    IsLinked s snapshot.uuid
  resolve : ∀ p snapshot, plan = .resolve p → p.transferRequest = some snapshot →
    IsLinked s snapshot.uuid ∧ isFulfilled snapshot.status = true

theorem follows_mono {plan : TransferPlan} {s t : Store}
    (keeps : ∀ k, IsLinked s k → IsLinked t k) (follows : Follows plan s) : Follows plan t where
  dispute p snapshot is read := keeps _ (follows.dispute p snapshot is read)
  resolve p snapshot is read :=
    ⟨keeps _ (follows.resolve p snapshot is read).1, (follows.resolve p snapshot is read).2⟩

theorem linked_of_linkedTransfer {s : Store} {rolloverId : Uuid} {snapshot : TransferRequest}
    (settled : Settled s) (read : linkedTransfer s rolloverId = some snapshot) :
    IsLinked s snapshot.uuid ∧ isFulfilled snapshot.status = true := by
  obtain ⟨inside, has⟩ := linkedTransfer_spec read
  have linked : snapshot.rolloverRecordId.isSome = true := by
    rw [has]
    rfl
  refine ⟨⟨snapshot, Table.find?_eq_some.mpr ⟨inside, rfl⟩, linked⟩, ?_⟩
  rw [show isFulfilled snapshot.status = snapshot.rolloverRecordId.isSome from
    settled snapshot inside]
  exact linked

theorem follows_of_check {rt : Runtime} {c : TransferCall} {s : Store} {plan : TransferPlan}
    (settled : Settled s) (checked : (transferMethods rt).check c s = .ok plan) :
    Follows plan s := by
  cases c with
  | create env auth body =>
    obtain ⟨p, -, rfl⟩ := map_eq_ok.mp checked
    exact ⟨fun _ _ is => absurd is (by simp), fun _ _ is => absurd is (by simp)⟩
  | review call =>
    obtain ⟨p, -, rfl⟩ := map_eq_ok.mp checked
    exact ⟨fun _ _ is => absurd is (by simp), fun _ _ is => absurd is (by simp)⟩
  | dispute env auth rolloverId body =>
    obtain ⟨p, passed, rfl⟩ := map_eq_ok.mp checked
    refine ⟨fun q snapshot is read => ?_, fun _ _ is => absurd is (by simp)⟩
    obtain rfl := TransferPlan.dispute.inj is
    unfold createDisputeCheck at passed
    obtain ⟨input, -, rest⟩ := bind_eq_ok.mp passed
    obtain ⟨rollover, -, rest⟩ := bind_eq_ok.mp rest
    obtain ⟨learner, -, rest⟩ := bind_eq_ok.mp rest
    obtain ⟨_, -, rest⟩ := bind_eq_ok.mp rest
    obtain ⟨_, -, same⟩ := bind_eq_ok.mp rest
    rw [pure_eq_ok] at same
    subst same
    exact (linked_of_linkedTransfer settled read).1
  | resolve time auth rolloverId body =>
    obtain ⟨p, passed, rfl⟩ := map_eq_ok.mp checked
    refine ⟨fun _ _ is => absurd is (by simp), fun q snapshot is read => ?_⟩
    obtain rfl := TransferPlan.resolve.inj is
    unfold resolveDisputeCheck at passed
    obtain ⟨note, -, rest⟩ := bind_eq_ok.mp passed
    obtain ⟨rollover, -, rest⟩ := bind_eq_ok.mp rest
    obtain ⟨_, -, rest⟩ := bind_eq_ok.mp rest
    obtain ⟨dispute, -, same⟩ := bind_eq_ok.mp rest
    rw [pure_eq_ok] at same
    subst same
    exact linked_of_linkedTransfer settled read

/-! ### The exact condition for one transaction -/

/-- **A transaction keeps the requests matched** exactly when it closes no fulfilled one. -/
theorem settled_changes {rt : Runtime} {plan : TransferPlan} {s t : Store}
    (changes : Changes rt s t plan) (settled : Settled s) (follows : Follows plan s) :
    Settled t ↔ ClosesUnfulfilled plan s := by
  have always : ∀ {f id}, Updates s t id f → (∀ r, s.transferRequests.find? id = some r →
      Matches (f r)) → (∀ p, plan = .review p → p.input.decision = .approve) →
      (Settled t ↔ ClosesUnfulfilled plan s) := by
    intro f id updates all notClosing
    refine ⟨fun _ p is closes => absurd (notClosing p is) closes, fun _ => ?_⟩
    exact (settled_updates updates settled).mpr all
  cases changes with
  | created p inserted =>
    refine ⟨fun _ _ is => absurd is (by simp), fun _ transfer inside => ?_⟩
    rw [(Table.insert_eq_some.mp inserted).2] at inside
    rcases List.mem_append.mp inside with old | new
    · exact settled transfer old
    · rw [List.mem_singleton.mp new]
      rfl
  | approved p present approves updates =>
    refine always updates (fun _ _ => rfl) fun q is => ?_
    obtain rfl := TransferPlan.review.inj is
    exact approves
  | closed p status present closes ends enrolments updates =>
    rw [settled_updates updates settled]
    constructor
    · intro all q is _ r found
      obtain rfl := TransferPlan.review.inj is
      have after : isFulfilled status = r.rolloverRecordId.isSome := all r found
      have before : isFulfilled r.status = r.rolloverRecordId.isSome :=
        settled r (Table.find?_mem found)
      rw [before, ← after, ends]
    · intro unfulfilled r found
      have before : isFulfilled r.status = r.rolloverRecordId.isSome :=
        settled r (Table.find?_mem found)
      show isFulfilled status = r.rolloverRecordId.isSome
      rw [ends, ← before, unfulfilled p rfl closes r found]
  | disputed p snapshot read updates =>
    obtain ⟨row, found, has⟩ := follows.dispute p snapshot rfl read
    refine always updates (fun r here => ?_) (by simp)
    rw [found] at here
    obtain rfl := Option.some.inj here
    exact has.symm
  | resolved p snapshot read updates =>
    obtain ⟨⟨row, found, has⟩, fulfilled⟩ := follows.resolve p snapshot rfl read
    refine always updates (fun r here => ?_) (by simp)
    rw [found] at here
    obtain rfl := Option.some.inj here
    show isFulfilled (if snapshot.status = .disputed then .completed else snapshot.status) =
      row.rolloverRecordId.isSome
    rw [has]
    split
    · rfl
    · exact fulfilled
  | untouched plan other same =>
    refine ⟨fun _ p is => absurd is (other p), fun _ => ?_⟩
    unfold Settled
    rw [same]
    exact settled

/-! ### Runs -/

/-- The requests are matched, and those that have moved an enrolment are linked. -/
structure HistoryInv (h : History) : Prop where
  flight : Method.Flight Settled Follows h.pool
  linked : ∀ id ∈ h.moved, IsLinked h.pool.store id

theorem HistoryInv.consistent {h : History} (inv : HistoryInv h) : Consistent h := by
  intro transfer inside
  have matched := inv.flight.store transfer inside
  refine ⟨matched, fun closed => ?_⟩
  have unlinked : transfer.rolloverRecordId.isSome = false := by
    rw [← show isFulfilled transfer.status = transfer.rolloverRecordId.isSome from matched]
    rcases closed with is | is <;> rw [is] <;> rfl
  refine ⟨Option.isSome_eq_false_iff.mp unlinked |> Option.isNone_iff_eq_none.mp, fun moved => ?_⟩
  obtain ⟨r, found, has⟩ := inv.linked transfer.uuid moved
  obtain rfl := Table.eq_of_key_eq (Table.find?_mem found) inside (Table.find?_key found)
  rw [unlinked] at has
  exact absurd has (by simp)

/-- A request that has moved its enrolment in this turn was approved in it, and is linked. -/
theorem linked_of_movedOut {rt : Runtime} {p : TransferPool} {e : Turn TransferCall} {id : Uuid}
    (moved : movedOut rt p e = some id) : IsLinked ((transferMethods rt).turn p e).store id := by
  unfold movedOut at moved
  split at moved
  · rename_i plan res t goes
    split at moved
    · rename_i leaves
      obtain rfl := Option.some.inj moved
      rw [(Method.turn_of_committing goes).1]
      cases changes_of_commit (Method.committing_spec goes).2 with
      | approved _ present approves updates =>
        obtain ⟨r, found⟩ := Option.isSome_iff_exists.mp present
        refine ⟨plan.completed r, ?_, rfl⟩
        rw [updates.requests, Table.find?_update_self found]
      | closed _ status present closes ends enrolments updates =>
        obtain ⟨id, -, differs⟩ := (Option.any_eq_true _ _).mp leaves
        have same : statusOf t id = statusOf p.store id := by
          unfold statusOf
          rw [enrolments]
        rw [same] at differs
        simp at differs
      | untouched _ other same => exact absurd rfl (other plan)
    · exact absurd moved (by simp)
  · exact absurd moved (by simp)

/-- **One turn.** A guarded turn keeps the invariant. -/
theorem historyInv_turn {rt : Runtime} {h : History} {e : Turn TransferCall} (inv : HistoryInv h)
    (guarded : Guarded rt h e) : HistoryInv (historyTurn rt h e) := by
  have logged : ∀ plan res s, ((transferMethods rt).log plan res s).transferRequests =
      s.transferRequests := by
    intro plan res s
    cases plan <;> cases res <;> rfl
  have links : ∀ k, IsLinked h.pool.store k →
      IsLinked ((transferMethods rt).turn h.pool e).store k := by
    intro k linked
    cases goes : (transferMethods rt).committing h.pool e with
    | none =>
      rcases Method.turn_of_not_committing goes with ⟨same, -⟩ | ⟨plan, res, same, -⟩
      · rw [same]
        exact linked
      · unfold IsLinked
        rw [same, logged]
        exact linked
    | some went =>
      obtain ⟨plan, res, t⟩ := went
      rw [(Method.turn_of_committing goes).1]
      exact isLinked_changes (changes_of_commit (Method.committing_spec goes).2) linked
  refine ⟨?_, fun id inside => ?_⟩
  · have checks : ∀ c s plan, Settled s → (transferMethods rt).check c s = .ok plan →
        Follows plan s := fun _ _ _ => follows_of_check
    refine Method.turn_flight checks ?_ inv.flight ?_
    · intro plan res s settled
      refine ⟨fun transfer inside => ?_, fun other follows => follows_mono (fun k linked => ?_) follows⟩
      · rw [logged] at inside
        exact settled transfer inside
      · unfold IsLinked
        rw [logged]
        exact linked
    · intro plan res t goes
      obtain ⟨inFlight, committed⟩ := Method.committing_spec goes
      have changes := changes_of_commit committed
      refine ⟨?_, fun other follows => follows_mono (fun k => isLinked_changes changes) follows⟩
      exact (settled_changes changes inv.flight.store (inv.flight.inFlight plan inFlight)).mpr
        (guarded plan res t goes)
  · rcases List.mem_append.mp inside with old | new
    · exact links id (inv.linked id old)
    · exact linked_of_movedOut (Option.mem_toList.mp new)

/-- **One unguarded turn** leaves a closed request that is linked. -/
theorem not_consistent_turn {rt : Runtime} {h : History} {e : Turn TransferCall}
    (inv : HistoryInv h) (unguarded : ¬ Guarded rt h e) : ¬ Consistent (historyTurn rt h e) := by
  unfold Guarded at unguarded
  push Not at unguarded
  obtain ⟨plan, res, t, goes, closes⟩ := unguarded
  obtain ⟨inFlight, committed⟩ := Method.committing_spec goes
  intro consistent
  refine closes ((settled_changes (changes_of_commit committed) inv.flight.store
    (inv.flight.inFlight plan inFlight)).mp fun transfer inside => ?_)
  rw [← (Method.turn_of_committing goes).1] at inside
  exact (consistent transfer inside).1

/-- **The exact condition.** Every transfer request stays matched, and none that is rejected or
cancelled has a rollover record or has moved its enrolment, in every state of a run, exactly when
the requests are matched at the start and every rejection or cancellation that goes through finds
its request neither completed nor disputed. -/
theorem consistent_iff (rt : Runtime) (s : Store) (events : List (Turn TransferCall)) :
    Throughout (historyTurn rt) Consistent ⟨⟨s, []⟩, []⟩ events ↔
      Settled s ∧ Along (historyTurn rt) (Guarded rt) ⟨⟨s, []⟩, []⟩ events := by
  have run : Settled s → (Throughout (historyTurn rt) Consistent ⟨⟨s, []⟩, []⟩ events ↔
      Along (historyTurn rt) (Guarded rt) ⟨⟨s, []⟩, []⟩ events) := by
    intro settled
    have start : HistoryInv ⟨⟨s, []⟩, []⟩ := ⟨⟨settled, by simp⟩, by simp⟩
    have keeps : ∀ h e, HistoryInv h → Guarded rt h e → HistoryInv (historyTurn rt h e) :=
      fun _ _ => historyInv_turn
    have implies : ∀ h, HistoryInv h → Consistent h := fun _ inv => inv.consistent
    have escapes : ∀ h e, HistoryInv h → ¬ Guarded rt h e → ¬ Consistent (historyTurn rt h e) :=
      fun _ _ => not_consistent_turn
    exact throughout_iff_of_exact keeps implies escapes start events
  constructor
  · intro throughout
    have settled : Settled s := by
      intro transfer inside
      exact (throughout_iff_prefixes.mp throughout [] events rfl transfer inside).1
    exact ⟨settled, (run settled).mp throughout⟩
  · rintro ⟨settled, along⟩
    exact (run settled).mpr along

/-! ### A disputed request rejected -/

/-- The school of the rollovers, with the learner enrolled there. -/
def transferSchool : Store :=
  { Departures.sessionSchool with
    learners :=
      { rows := [⟨"40000000-0000-4000-8000-000000000001", "AIN-1", "First Learner", 0, none,
          .verified⟩]
        nodup := List.nodup_singleton _ } }

def transferId : Uuid := "d0000000-0000-4000-8000-000000000001"

def transferRolloverId : Uuid := "c0000000-0000-4000-8000-000000000003"

/-- The learner asks to leave for another school. -/
def askToLeave : TransferCall :=
  .create ⟨0, 6, "e0000000-0000-4000-8000-000000000001", transferId⟩ BatchHistory.founder
    (.obj [("institutionId", .str "ACD-0001"),
      ("enrolmentId", .str "30000000-0000-4000-8000-000000000001"),
      ("toInstitutionNameSubmitted", .str "Second School")])

def reviewOf (time : Time) (decision : String) : TransferCall :=
  .review ⟨⟨time, transferRolloverId⟩, BatchHistory.founder, transferId,
    .obj [("decision", .str decision)]⟩

/-- The transfer is disputed. -/
def objection : TransferCall :=
  .dispute ⟨8, "f0000000-0000-4000-8000-000000000001"⟩ BatchHistory.founder transferRolloverId
    (.obj [("reason", .str "The learner did not ask to leave.")])

/-- The four calls one after the other. -/
def rejectedDispute : List (Turn TransferCall) :=
  [.begin askToLeave, .advance 0 .done, .begin (reviewOf 7 "APPROVE"), .advance 1 .done,
    .begin objection, .advance 2 .done, .begin (reviewOf 9 "REJECT"), .advance 3 .done]

/-- **A disputed request can be rejected**, and stays linked to the rollover record of its approval. -/
theorem consistent_fails :
    ¬ ∀ (rt : Runtime) (s : Store) (events : List (Turn TransferCall)),
      s.transferRequests.rows = [] →
        Throughout (historyTurn rt) Consistent ⟨⟨s, []⟩, []⟩ events := by
  intro all
  have run := all .plain transferSchool rejectedDispute rfl
  have last := throughout_iff_prefixes.mp run _ [] (List.append_nil _).symm
  have matched : Settled (runs (historyTurn .plain) ⟨⟨transferSchool, []⟩, []⟩
      rejectedDispute).pool.store := fun transfer inside => (last transfer inside).1
  exact absurd matched (by decide +kernel)

end AcadID.TransferStatus
