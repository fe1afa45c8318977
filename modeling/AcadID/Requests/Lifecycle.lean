/-
**The life of a record request, from its creation on.**

* `LifecycleEvent` — a call of `createRecordRequest`, of one of the four operations of governance, or
  of the worker's confirmation, any of whose calls to the database may fail.
* `Sound` — what the columns of a request say together; `Moves` — what a step may not do to its
  status.
* `sound_iff` — **exactly when every state is sound and every step moves a request as it may**: when
  no review of a fulfilled request and no fulfilment of a rejected or cancelled one goes through.
-/

import AcadID.Gateway.Access
import AcadID.Requests.Columns

namespace AcadID.Lifecycle

open Lib RecordRequests

/-! ### Runs -/

inductive LifecycleEvent where
  | create (env : Access.AccessEnv) (auth : AuthTokenPayload) (body : Json) (key : Option String)
      (script : List Outcome)
  | operate (e : RequestEvent)

def lifecycleStep (rt : Runtime) (s : Store) : LifecycleEvent → Store
  | .create env auth body key script =>
    (Access.createRecordRequest rt env auth body key script s).store
  | .operate e => requestStep rt s e

/-! ### What is promised -/

/-- The columns of a request that is as it should be. -/
structure Sound (row : RecordRequest) : Prop where
  fulfilled : row.status = .fulfilled ↔ row.fulfilledCredentialId.isSome = true
  unreleased : row.status = .rejected ∨ row.status = .cancelled → row.escrowStatus ≠ .released
  refunded : row.paymentStatus = .refunded ↔ row.escrowStatus = .refunded
  paid : row.escrowStatus = .held ∨ row.escrowStatus = .refundPending ∨
    row.escrowStatus = .released → row.paymentStatus = .paid

/-- What becomes of the status: a fulfilled request stays so, a rejected or cancelled one is not
fulfilled. -/
structure Moves (row row' : RecordRequest) : Prop where
  stays : row.status = .fulfilled → row'.status = .fulfilled
  unfulfilled : row.status = .rejected ∨ row.status = .cancelled → row'.status ≠ .fulfilled

/-- The request with this id is sound, while it is there. -/
def SoundAt (id : Uuid) (s : Store) : Prop :=
  ∀ row, s.recordRequests.find? id = some row → Sound row

/-- A step moves the request with this id as it may. -/
def MovesAt (rt : Runtime) (id : Uuid) (s : Store) (e : LifecycleEvent) : Prop :=
  ∀ row row', s.recordRequests.find? id = some row →
    (lifecycleStep rt s e).recordRequests.find? id = some row' → Moves row row'

/-- What a plan writes over this row: no review of a fulfilled request, no fulfilment of a closed
one. -/
def Fits (plan : RequestPlan) (row : RecordRequest) : Prop :=
  match plan with
  | .review _ => row.status ≠ .fulfilled
  | .fulfill _ => row.status ≠ .rejected ∧ row.status ≠ .cancelled
  | _ => True

/-- What the step commits to the request with this id fits the row that it has read. -/
def Fitting (rt : Runtime) (id : Uuid) (s : Store) : LifecycleEvent → Prop
  | .create _ _ _ _ _ => True
  | .operate e => ∀ plan res t row,
      (requestMethods rt).committed e.call e.script s = some (plan, res, t) →
        plan.snapshot = some row → row.uuid = id → Fits plan row

/-! ### The invariant -/

/-- A credential and a released escrow are those of a fulfilled request. -/
structure Closed (row : RecordRequest) : Prop where
  credential : row.fulfilledCredentialId.isSome = true → row.status = .fulfilled
  released : row.escrowStatus = .released → row.status = .fulfilled

/-- The columns of all requests are coupled, and those of the one with this id closed. -/
structure Kept (id : Uuid) (s : Store) : Prop where
  coupled : AllCoupled s
  closed : ∀ row, s.recordRequests.find? id = some row → Closed row

theorem sound_of_kept {s : Store} {row : RecordRequest} (coupled : Coupled s row)
    (closed : Closed row) : Sound row := by
  refine ⟨⟨coupled.fulfilled, closed.credential⟩, fun is released => ?_, coupled.refunded,
    coupled.paid⟩
  have fulfilled := closed.released released
  rcases is with rejected | cancelled
  · exact absurd (rejected.symm.trans fulfilled) (by decide)
  · exact absurd (cancelled.symm.trans fulfilled) (by decide)

theorem closed_of_opened {row : RecordRequest} (opened : Opened row) : Closed row := by
  refine ⟨fun is => ?_, fun is => ?_⟩
  · rw [opened.unfulfilled] at is
    exact absurd is (by simp)
  · rw [opened.escrow] at is
    exact absurd is (by decide)

/-- A request is created neither paid nor fulfilled. -/
theorem opened_newRequest (rt : Runtime) (env : Access.AccessEnv) (auth : AuthTokenPayload)
    (learnerId : Uuid) (input : Access.CreateRecordRequestInput) (requestId : String) :
    Opened (Access.newRequest rt env auth learnerId input requestId) := by
  refine ⟨?_, ?_, rfl, rfl⟩
  · show (if 0 < Access.recordRequestFeeMinor rt then RecordRequestStatus.awaitingPayment
      else .submitted) ≠ .fulfilled
    split <;> decide
  · show (if 0 < Access.recordRequestFeeMinor rt then RecordRequestPaymentStatus.pending
      else .notRequired) ≠ .paid ∧ (if 0 < Access.recordRequestFeeMinor rt then
        RecordRequestPaymentStatus.pending else .notRequired) ≠ .refunded
    split <;> decide

/-! ### One step -/

section Step

variable {rt : Runtime} {id : Uuid} {s : Store}

/-- A request that is created is one more; the others stay. -/
theorem create_cases {env : Access.AccessEnv} {auth : AuthTokenPayload} {body : Json}
    {key : Option String} {script : List Outcome} {row : RecordRequest}
    (inside : row ∈
      (lifecycleStep rt s (.create env auth body key script)).recordRequests.rows) :
    row ∈ s.recordRequests.rows ∨ Opened row ∧ ∀ old ∈ s.recordRequests.rows, old.uuid ≠ row.uuid := by
  obtain ⟨-, same | ⟨learnerId, input, code, grown⟩⟩ :=
    Access.createRecordRequest_ensures rt env auth body key s script
  · left
    rw [← same]
    exact inside
  · obtain ⟨free, rows⟩ := Table.insert_eq_some.mp grown
    have member : row ∈ s.recordRequests.rows ++
        [Access.newRequest rt env auth learnerId input code] := by
      rw [← rows]
      exact inside
    rcases List.mem_append.mp member with old | new
    · exact .inl old
    · obtain rfl := List.mem_singleton.mp new
      exact .inr ⟨opened_newRequest rt env auth learnerId input code, free⟩

/-- A creation keeps the invariant. -/
theorem kept_create {env : Access.AccessEnv} {auth : AuthTokenPayload} {body : Json}
    {key : Option String} {script : List Outcome} (kept : Kept id s) :
    Kept id (lifecycleStep rt s (.create env auth body key script)) := by
  have credentials : (lifecycleStep rt s (.create env auth body key script)).credentials =
      s.credentials := (Access.createRecordRequest_ensures rt env auth body key s script).1
  refine ⟨fun row inside => ?_, fun row found => ?_⟩
  · rcases create_cases inside with old | ⟨opened, -⟩
    · refine (kept.coupled row old).mono fun c here => ?_
      rw [credentials]
      exact here
    · exact coupled_of_opened opened
  · obtain ⟨inside, has⟩ := Table.find?_eq_some.mp found
    rcases create_cases inside with old | ⟨opened, -⟩
    · exact kept.closed row (Table.find?_eq_some.mpr ⟨old, has⟩)
    · exact closed_of_opened opened

/-- A creation leaves the requests that are there. -/
theorem movesAt_create {env : Access.AccessEnv} {auth : AuthTokenPayload} {body : Json}
    {key : Option String} {script : List Outcome} :
    MovesAt rt id s (.create env auth body key script) := by
  intro row row' found found'
  obtain ⟨here, has⟩ := Table.find?_eq_some.mp found
  obtain ⟨inside, has'⟩ := Table.find?_eq_some.mp found'
  rcases create_cases inside with old | ⟨-, free⟩
  · obtain rfl : row = row' := Table.eq_of_key_eq here old (has.trans has'.symm)
    refine ⟨fun is => is, fun is fulfilled => ?_⟩
    rcases is with rejected | cancelled
    · exact absurd (rejected.symm.trans fulfilled) (by decide)
    · exact absurd (cancelled.symm.trans fulfilled) (by decide)
  · exact absurd (has.trans has'.symm) (free row here)

/-- A write over a request that is not fulfilled, which leaves it unfulfilled. -/
theorem closed_unfulfilled {row row' : RecordRequest} (closed : Closed row)
    (before : row.status ≠ .fulfilled) (after : row'.status ≠ .fulfilled)
    (credential : row'.fulfilledCredentialId = row.fulfilledCredentialId)
    (escrow : row'.escrowStatus = row.escrowStatus ∨ row'.escrowStatus ≠ .released) :
    Closed row' ∧ Moves row row' := by
  refine ⟨⟨fun is => ?_, fun is => ?_⟩, fun is => absurd is before, fun _ => after⟩
  · rw [credential] at is
    exact absurd (closed.credential is) before
  · rcases escrow with same | other
    · rw [same] at is
      exact absurd (closed.released is) before
    · exact absurd is other

/-- **The write of a plan that fits** closes the columns, and moves the status as it may. -/
theorem closed_write {plan : RequestPlan} {row : RecordRequest} (closed : Closed row)
    (snapshot : plan.snapshot = some row) (saw : plan.saw row s) (fits : Fits plan row) :
    Closed (plan.write row) ∧ Moves row (plan.write row) := by
  cases plan with
  | review p => exact closed_unfulfilled closed fits saw rfl (.inl rfl)
  | confirm p =>
    obtain rfl := Option.some.inj snapshot
    obtain ⟨opened, -⟩ := saw
    exact closed_unfulfilled closed (fulfilled_of_closed opened).1
      (fulfilled_of_closed (statusOncePaid_open opened)).1 rfl
      (.inr (show RecordRequestEscrowStatus.held ≠ .released by decide))
  | payment p =>
    obtain rfl := Option.some.inj snapshot
    obtain ⟨opened, -⟩ := saw
    exact closed_unfulfilled closed (fulfilled_of_closed opened).1
      (fulfilled_of_closed (statusOncePaid_open opened)).1 rfl
      (.inr (show RecordRequestEscrowStatus.held ≠ .released by decide))
  | refund p =>
    obtain rfl := Option.some.inj snapshot
    obtain ⟨-, unfulfilled, -⟩ := saw
    refine closed_unfulfilled closed unfulfilled ?_ rfl (.inr ?_)
    · show (if p.confirms && !([.rejected, .cancelled].contains p.existing.status) then
        RecordRequestStatus.cancelled else p.existing.status) ≠ .fulfilled
      split
      · decide
      · exact unfulfilled
    · show (if p.confirms then RecordRequestEscrowStatus.refunded else .refundPending) ≠ .released
      split <;> decide
  | fulfill p =>
    refine ⟨⟨fun _ => rfl, fun _ => rfl⟩, fun _ => rfl, fun is => ?_⟩
    rcases is with rejected | cancelled
    · exact absurd rejected fits.1
    · exact absurd cancelled fits.2
  | answered result => exact absurd snapshot (by simp [RequestPlan.snapshot])

/-- **The write of a plan that does not fit** leaves a fulfilled request, or fulfils a closed one. -/
theorem not_moves_of_not_fits {plan : RequestPlan} {row : RecordRequest} (saw : plan.saw row s)
    (unfit : ¬ Fits plan row) : ¬ Moves row (plan.write row) := by
  intro moves
  cases plan with
  | review p =>
    refine unfit fun is => ?_
    exact absurd (moves.stays is) saw
  | fulfill p =>
    refine unfit ⟨fun is => ?_, fun is => ?_⟩
    · exact moves.unfulfilled (.inl is) rfl
    · exact moves.unfulfilled (.inr is) rfl
  | confirm p | payment p | refund p | answered result => exact unfit trivial

/-- **What a step does to the request**: nothing, or what its plan writes over the row it read. -/
theorem operate_cases (rt : Runtime) (id : Uuid) (s : Store) (e : RequestEvent) :
    ((lifecycleStep rt s (.operate e)).recordRequests.find? id = s.recordRequests.find? id ∧
        Fitting rt id s (.operate e)) ∨
      ∃ plan res t row, (requestMethods rt).committed e.call e.script s = some (plan, res, t) ∧
        plan.snapshot = some row ∧ plan.saw row s ∧ s.recordRequests.find? id = some row ∧
        (lifecycleStep rt s (.operate e)).recordRequests.find? id = some (plan.write row) := by
  unfold lifecycleStep
  rcases requestStep_cases rt s e with ⟨same, unread⟩ | ⟨plan, res, t, row, went, snapshot, -, saw,
    found, written⟩
  · left
    refine ⟨by rw [same.recordRequests], fun plan res t row went snapshot => ?_⟩
    exact absurd (snapshot.symm.trans (unread plan res t went)) (by simp)
  · have finds := find?_written written snapshot found id
    by_cases is : id = row.uuid
    · right
      rw [if_pos is] at finds
      exact ⟨plan, res, t, row, went, snapshot, saw, is ▸ found, finds⟩
    · left
      rw [if_neg is] at finds
      refine ⟨finds, fun plan' res' t' row' went' snapshot' has => ?_⟩
      obtain ⟨rfl, -⟩ := Prod.mk.inj (Option.some.inj (went.symm.trans went'))
      obtain rfl := Option.some.inj (snapshot.symm.trans snapshot')
      exact absurd has.symm is

/-- A row moves to itself. -/
theorem moves_refl (row : RecordRequest) : Moves row row := by
  refine ⟨fun is => is, fun is fulfilled => ?_⟩
  rcases is with rejected | cancelled
  · exact absurd (rejected.symm.trans fulfilled) (by decide)
  · exact absurd (cancelled.symm.trans fulfilled) (by decide)

/-- **The step lemma.** A step that fits keeps the invariant, and moves the request as it may. -/
theorem kept_step {e : LifecycleEvent} (kept : Kept id s) (fitting : Fitting rt id s e) :
    Kept id (lifecycleStep rt s e) ∧ MovesAt rt id s e := by
  cases e with
  | create env auth body key script => exact ⟨kept_create kept, movesAt_create⟩
  | operate e =>
    have coupled : AllCoupled (lifecycleStep rt s (.operate e)) := coupled_step rt s e kept.coupled
    rcases operate_cases rt id s e with ⟨same, -⟩ | ⟨plan, res, t, row, went, snapshot, saw, found,
      finds⟩
    · refine ⟨⟨coupled, fun row found => kept.closed row (same ▸ found)⟩, ?_⟩
      intro row row' found found'
      rw [same] at found'
      obtain rfl := Option.some.inj (found.symm.trans found')
      exact moves_refl row
    · have fits := fitting plan res t row went snapshot (Table.find?_key found)
      obtain ⟨closed, moves⟩ := closed_write (kept.closed row found) snapshot saw fits
      refine ⟨⟨coupled, fun row' found' => ?_⟩, fun row₁ row' found₁ found' => ?_⟩
      · obtain rfl := Option.some.inj (finds.symm.trans found')
        exact closed
      · obtain rfl := Option.some.inj (found.symm.trans found₁)
        obtain rfl := Option.some.inj (finds.symm.trans found')
        exact moves

/-- A step that does not fit moves the request as it may not. -/
theorem not_movesAt {e : LifecycleEvent} (unfitting : ¬ Fitting rt id s e) :
    ¬ MovesAt rt id s e := by
  intro moves
  cases e with
  | create env auth body key script => exact unfitting trivial
  | operate e =>
    rcases operate_cases rt id s e with ⟨-, fitting⟩ | ⟨plan, res, t, row, went, snapshot, saw,
      found, finds⟩
    · exact unfitting fitting
    · refine unfitting fun plan' res' t' row' went' snapshot' _ => ?_
      obtain ⟨rfl, -⟩ := Prod.mk.inj (Option.some.inj (went.symm.trans went'))
      obtain rfl := Option.some.inj (snapshot.symm.trans snapshot')
      by_contra unfit
      exact not_moves_of_not_fits saw unfit (moves row _ found finds)

theorem soundAt_of_kept (kept : Kept id s) : SoundAt id s :=
  fun row found => sound_of_kept (kept.coupled row (Table.find?_mem found)) (kept.closed row found)

end Step

/-! ### Runs -/

/-- **The exact condition.** Over requests that began as they are created, every state of a run is
sound for a request and every step moves it as it may, exactly when what every step commits to it
fits the row that it has read. -/
theorem sound_iff (rt : Runtime) (id : Uuid) (s : Store)
    (opened : ∀ row ∈ s.recordRequests.rows, Opened row) (events : List LifecycleEvent) :
    (Throughout (lifecycleStep rt) (SoundAt id) s events ∧
        Along (lifecycleStep rt) (MovesAt rt id) s events) ↔
      Along (lifecycleStep rt) (Fitting rt id) s events := by
  have start : Kept id s := by
    refine ⟨fun row inside => coupled_of_opened (opened row inside), fun row found => ?_⟩
    exact closed_of_opened (opened row (Table.find?_mem found))
  rw [throughout_iff_along, and_assoc, ← along_and]
  have exact_step : ∀ t e, Kept id t →
      ((SoundAt id (lifecycleStep rt t e) ∧ MovesAt rt id t e) ↔ Fitting rt id t e) := by
    intro t e kept
    refine ⟨fun good => ?_, fun fitting => ?_⟩
    · by_contra unfitting
      exact not_movesAt unfitting good.2
    · obtain ⟨next, moves⟩ := kept_step kept fitting
      exact ⟨soundAt_of_kept next, moves⟩
  rw [along_iff_of_exact (fun t e kept fitting => (kept_step kept fitting).1) exact_step start]
  exact ⟨fun both => both.2, fun along => ⟨soundAt_of_kept start, along⟩⟩

/-- Whatever is done to an open request fits it. -/
theorem fitting_of_open {rt : Runtime} {id : Uuid} {s : Store}
    (opened : ((s.recordRequests.find? id).all fun row => !isClosed row.status) = true)
    (e : LifecycleEvent) : Fitting rt id s e := by
  cases e with
  | create env auth body key script => trivial
  | operate e =>
    intro plan res t row went snapshot has
    have found := requestCheck_spec (Method.committed_spec went).1 snapshot
    rw [has] at found
    rw [found] at opened
    obtain ⟨unfulfilled, unrejected, uncancelled⟩ :=
      fulfilled_of_closed (show isClosed row.status = false by simpa using opened)
    cases plan with
    | review p => exact unfulfilled
    | fulfill p => exact ⟨unrejected, uncancelled⟩
    | confirm p | payment p | refund p | answered result => trivial

/-! ### A rejected request that is fulfilled -/

def payment : LifecycleEvent :=
  .operate ⟨.payment (envOf 1) (chargeJob transcriptRequest.uuid "PSK-001" 5000), []⟩

def rejection : LifecycleEvent :=
  .operate ⟨.review (envOf 2) reviewer transcriptRequest.uuid
    (.obj [("status", .str "REJECTED")]), []⟩

def fulfilment : LifecycleEvent :=
  .operate ⟨.fulfill (envOf 3) reviewer transcriptRequest.uuid (.obj []), []⟩

/-- A request as it is created, alone in its store. -/
theorem storeOf_transcriptRequest :
    ∀ row ∈ (storeOf transcriptRequest).recordRequests.rows, Opened row := by
  intro row inside
  rw [List.mem_singleton.mp inside]
  exact ⟨by decide, by decide, rfl, rfl⟩

/-- A payment, and the fulfilment of what was paid for. -/
theorem sound_iff_fulfilled :
    Throughout (lifecycleStep .plain) (SoundAt transcriptRequest.uuid) (storeOf transcriptRequest)
        [payment, fulfilment] ∧
      Along (lifecycleStep .plain) (MovesAt .plain transcriptRequest.uuid)
        (storeOf transcriptRequest) [payment, fulfilment] := by
  refine (sound_iff .plain transcriptRequest.uuid (storeOf transcriptRequest)
    storeOf_transcriptRequest [payment, fulfilment]).mpr ⟨?_, ?_, trivial⟩
  · exact fitting_of_open (by decide) payment
  · exact fitting_of_open (by decide) fulfilment

/-- **A rejected request is fulfilled**, after its payment. -/
theorem unsound_fulfilment :
    ¬ (Throughout (lifecycleStep .plain) (SoundAt transcriptRequest.uuid)
          (storeOf transcriptRequest) [payment, rejection, fulfilment] ∧
        Along (lifecycleStep .plain) (MovesAt .plain transcriptRequest.uuid)
          (storeOf transcriptRequest) [payment, rejection, fulfilment]) := by
  rintro ⟨-, -, -, moves, -⟩
  have before : ((runs (lifecycleStep .plain) (storeOf transcriptRequest)
      [payment, rejection]).recordRequests.find? transcriptRequest.uuid).any
        (fun row => row.status == .rejected) = true := by
    decide
  have after : ((runs (lifecycleStep .plain) (storeOf transcriptRequest)
      [payment, rejection, fulfilment]).recordRequests.find? transcriptRequest.uuid).any
        (fun row => row.status == .fulfilled) = true := by
    decide
  obtain ⟨row, found, rejected⟩ := (Option.any_eq_true _ _).mp before
  obtain ⟨row', found', fulfilled⟩ := (Option.any_eq_true _ _).mp after
  exact (moves row row' found found').unfulfilled (.inl (beq_iff_eq.mp rejected))
    (beq_iff_eq.mp fulfilled)

end AcadID.Lifecycle
