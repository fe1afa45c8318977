/-
**Notification jobs: the attempts of a worker, and the retries of the administrators.**

* `deliverPendingForJob` — the first 100 of the notifications of a job that are still to be sent,
  delivered one after the other.
* `attempt` — a job claimed, processed, and completed, retried or failed; each call may fail, or be
  committed with its answer lost.
* `Settled` — a job that has succeeded leaves no notification to be sent, and no notification that a
  provider has accepted is marked as failed.
* `reported_iff` — **a run is settled throughout exactly when** no attempt that completes its job
  has found more than 100 notifications, and none marks a notification as failed that a provider has
  accepted, before or in this attempt.
* `reported_fails` — an accepted notification whose update fails is marked as failed.
-/

import AcadID.Jobs.NotificationDelivery

namespace AcadID

open Lib

namespace NotificationDelivery

open JobWorker
open WebhookDeliveries (Answer)

/-! ### The processing of a job -/

/-- The notifications of a job that are still to be sent, the oldest first. -/
def pendingOf (jobId : Uuid) (s : Store) : List Notification :=
  s.notifications.rows.filter fun row => row.jobId == some jobId && row.status == .pending

/-- `take` -/
def batchSize : ℕ :=
  100

/-- What `findMany` reads for a job. -/
def batchOf (jobId : Uuid) (s : Store) : List NotificationRecord :=
  ((pendingOf jobId s).take batchSize).map (recordOf s)

def DeliveryResult.json (result : DeliveryResult) : Json :=
  Json.fields
    [("id", some (.str result.id)), ("channel", some (.str result.channel.name)),
      ("status", some (.str result.status.name)), ("provider", some (.str result.provider)),
      ("dryRun", some (.bool result.dryRun)),
      ("destination", some (Json.ofOption result.destination)),
      ("error", result.error.map .str)]

/-- What a delivered batch is reported as. -/
def report (results : List DeliveryResult) : Json :=
  let delivered := (results.filter fun result => result.status == .sent).length
  .obj
    [("mode", .str "notification_delivery"), ("processed", .num results.length),
      ("delivered", .num delivered), ("failed", .num (results.length - delivered : ℕ)),
      ("dryRun", .num (results.filter (·.dryRun)).length),
      ("providers", .arr ((results.map (·.provider)).eraseDups.map .str)),
      ("results", .arr (results.map (·.json)))]

/-- How the calls of an attempt fare, and what the runtime and the database give them. -/
structure Attempt where
  now : Time
  claim : Fate
  /-- Whether the notifications are read. -/
  reads : Bool
  delivery : Uuid → Delivery
  /-- The one update of a worker without the delivery service. -/
  marking : Fate
  completion : EndEnv
  completing : Fate
  failure : EndEnv
  failing : Fate
  fresh : failure.eventUuid ≠ completion.eventUuid

def deliverPendingForJob (rt : Runtime) (jobId : Uuid) (a : Attempt) (w : World) :
    Except ServiceError Json × World :=
  if a.reads then
    match deliverAll rt a.delivery (batchOf jobId w.store) [] w with
    | (.ok results, w) => (.ok (report results), w)
    | (.error e, w) => (.error e, w)
  else (.error .database, w)

/-- The notifications of a job that are still to be sent, marked as sent. -/
def allSent (jobId : Uuid) (notifications : Table Notification.uuid) : Table Notification.uuid :=
  notifications.updateMany (fun row => row.jobId == some jobId && row.status == .pending)
    (fun row => { row with status := .sent }) fun _ => rfl

/-- The update of a worker without the delivery service. -/
def markPending (jobId : Uuid) (s : Store) : Except ServiceError (Unit × Store) :=
  .ok ((), { s with notifications := allSent jobId s.notifications })

/-- `service` says whether the worker has the delivery service. -/
def processNotificationDelivery (rt : Runtime) (service : Bool) (jobId : Uuid) (a : Attempt)
    (w : World) : Except ServiceError Json × World :=
  if service then deliverPendingForJob rt jobId a w
  else
    match w.call a.marking (markPending jobId) with
    | (.ok (), w) => (.ok (.obj
        [("mode", .str "notification_records_marked"),
          ("message", .str ("Notification delivery adapter can replace this marker with real " ++
            "push/email/SMS transport."))]), w)
    | (.error e, w) => (.error e, w)

/-- The jobs that `processJob` hands to `processNotificationDelivery`. -/
def handles : BackgroundJobType → Bool
  | .pushNotification | .smsEmailDelivery => true
  | _ => false

/-- The `catch` of `runOnce`. -/
def failed (rt : Runtime) (a : Attempt) (job : BackgroundJob) (error : ServiceError) (w : World) :
    World :=
  (w.call a.failing (failOrRetryJob rt a.failure job error)).2

/-- What follows the processing of a job. -/
def finish (rt : Runtime) (a : Attempt) (job : BackgroundJob) (result : Except ServiceError Json)
    (w : World) : World :=
  match result with
  | .error e => failed rt a job e w
  | .ok result =>
    match w.call a.completing (completeJob rt a.completion job result) with
    | (.ok (), w) => w
    | (.error e, w) => failed rt a job e w

/-- One turn of `runOnce`, on a job of notifications. -/
def attempt (rt : Runtime) (service : Bool) (id : Uuid) (a : Attempt) (w : World) : World :=
  match claimJob a.now id w.store with
  | .error _ => w
  | .ok (job, s) =>
    if handles job.type then
      match a.claim with
      | .failed => w
      | .lost => { w with store := s }
      | .done =>
        let (result, w) := processNotificationDelivery rt service job.uuid a { w with store := s }
        finish rt a job result w
    else w

/-! ### The retries -/

/-- What the runtime and the database give a retry. -/
structure RetryEnv where
  now : Time
  jobUuid : Uuid
  eventUuid : Uuid

def retryType (existing : Notification) : BackgroundJobType :=
  if existing.channel = .push then .pushNotification else .smsEmailDelivery

/-- The job of a retry. -/
def retryJob (auth : AuthTokenPayload) (env : RetryEnv) (existing : Notification) :
    BackgroundJob where
  uuid := env.jobUuid
  type := retryType existing
  queue := if existing.channel = .push then "notifications.push" else "notifications.delivery"
  status := .queued
  institutionId := existing.institutionId
  createdById := some auth.sub
  relatedEntityType := some "Notification"
  relatedEntityId := some existing.uuid
  priority := 1
  attempts := 0
  maxAttempts := Queue.maxAttemptsFor (retryType existing)
  runAfter := env.now
  payload := .obj
    [("notificationId", .str existing.uuid), ("channel", .str existing.channel.name),
      ("retry", .bool true)]
  result := none
  error := none

/-- Its event. -/
def retryEvent (env : RetryEnv) (existing : Notification) : DomainEvent where
  uuid := env.eventUuid
  type := "notification.retry_queued"
  aggregateType := "Notification"
  aggregateId := existing.uuid
  institutionId := existing.institutionId
  jobId := some env.jobUuid
  payload := .obj
    [("notificationId", .str existing.uuid), ("channel", .str existing.channel.name),
      ("jobId", .str env.jobUuid)]

/-- What a retry writes on a notification. -/
def retried (env : RetryEnv) (row : Notification) : Notification :=
  { row with
    jobId := some env.jobUuid
    status := .pending
    error := none }

/-- The check and the transaction of a retry. -/
def retryNotification (auth : AuthTokenPayload) (env : RetryEnv) (id : Uuid) (s : Store) :
    Except ServiceError (Unit × Store) := do
  let existing ← orThrow (s.notifications.find? id) (.badRequest "Notification not found.")
  require (existing.status == .failed) (.badRequest "Only failed notifications can be retried.")
  require (existing.channel != .webhook)
    (.badRequest "Webhook notifications must be retried from webhook delivery controls.")
  let backgroundJobs ← insertUnique s.backgroundJobs (retryJob auth env existing)
  let (_, notifications) ← updateRow s.notifications existing.uuid (retried env) fun _ => rfl
  let domainEvents ← insertUnique s.domainEvents (retryEvent env existing)
  return ((), { s with
    backgroundJobs := backgroundJobs
    notifications := notifications
    domainEvents := domainEvents })

/-- What happens next. -/
inductive Event where
  | attempt (id : Uuid) (a : Attempt)
  | retryNotification (auth : AuthTokenPayload) (env : RetryEnv) (id : Uuid) (fate : Fate)
  | retryDeadLetterJob (now : Time) (eventUuid id : Uuid) (fate : Fate)

def step (rt : Runtime) (service : Bool) (w : World) : Event → World
  | .attempt id a => attempt rt service id a w
  | .retryNotification auth env id fate => (w.call fate (retryNotification auth env id)).2
  | .retryDeadLetterJob now eventUuid id fate =>
    (w.call fate (JobWorker.retryDeadLetterJob now eventUuid id)).2

/-! ### The property -/

/-- A job that has succeeded has no notification that is still to be sent. -/
def Finished (s : Store) : Prop :=
  ∀ job ∈ s.backgroundJobs.rows, handles job.type = true → job.status = .succeeded →
    pendingOf job.uuid s = []

/-- A notification that is marked as failed has been accepted by no provider. -/
def Truthful (w : World) : Prop :=
  ∀ row ∈ w.notifications.rows, row.status = .failed → row.uuid ∉ w.accepted

structure Settled (w : World) : Prop where
  finished : Finished w.store
  truthful : Truthful w

/-! ### The condition -/

section

variable (rt : Runtime) (service : Bool) (id : Uuid) (a : Attempt) (w : World)

/-- The attempt claims the job, and keeps it. -/
def Claims : Prop :=
  a.claim = .done ∧ ∃ row, w.store.backgroundJobs.find? id = some row ∧ handles row.type = true ∧
    isWaiting row.status = true ∧ row.runAfter ≤ a.now

/-- The deliveries that the attempt comes to. -/
def reached : List NotificationRecord :=
  if service && a.reads then comesTo rt a.delivery (batchOf id w.store) else []

/-- Whether the calls of its processing go through. -/
def goesThrough : Bool :=
  if service then
    a.reads && (batchOf id w.store).all fun n => !throws rt n (a.delivery n.uuid)
  else a.marking == .done

/-- Whether the end of an attempt is written. -/
def written (fate : Fate) (env : EndEnv) : Bool :=
  fate != .failed && canEnd id env.eventUuid w.store

/-- Whether the completion is written, and no failure over it. -/
def completes : Bool :=
  written id w a.completing a.completion &&
    (a.completing == .done || !written id w a.failing a.failure)

/-- An attempt that completes its job has found no more notifications than it delivers. -/
def Bounded : Prop :=
  service = true → goesThrough rt service id a w = true → completes id a w = true →
    (pendingOf id w.store).length ≤ batchSize

/-- What it marks as failed is accepted by no provider, neither now nor before. -/
def Reported : Prop :=
  ∀ n ∈ reached rt service id a w, marksFailed rt n (a.delivery n.uuid) = true →
    accepts rt n (a.delivery n.uuid).answer = false ∧ n.uuid ∉ w.accepted

end

/-- An attempt that claims its job is bounded and reported. -/
def Guarded (rt : Runtime) (service : Bool) (w : World) : Event → Prop
  | .attempt id a => Claims id a w → Bounded rt service id a w ∧ Reported rt service id a w
  | .retryNotification .. | .retryDeadLetterJob .. => True

/-! ### Lookups -/

theorem pendingOf_eq_nil {jobId : Uuid} {s : Store} : pendingOf jobId s = [] ↔
    ∀ id row, s.notifications.find? id = some row → row.jobId = some jobId →
      row.status ≠ .pending := by
  unfold pendingOf
  rw [List.filter_eq_nil_iff]
  constructor
  · intro none id row found own waits
    exact none row (Table.find?_mem found) (by simp [own, waits])
  · intro none row inside meets
    rw [Bool.and_eq_true, beq_iff_eq, beq_iff_eq] at meets
    exact none row.uuid row (Table.find?_eq_some.mpr ⟨inside, rfl⟩) meets.1 meets.2

theorem truthful_iff {w : World} : Truthful w ↔
    ∀ id row, w.notifications.find? id = some row → row.status = .failed → id ∉ w.accepted := by
  constructor
  · intro truthful id row found marked
    rw [← Table.find?_key found]
    exact truthful row (Table.find?_mem found) marked
  · intro all row inside marked
    exact all row.uuid row (Table.find?_eq_some.mpr ⟨inside, rfl⟩) marked

theorem finished_iff {s : Store} : Finished s ↔
    ∀ id job, s.backgroundJobs.find? id = some job → handles job.type = true →
      job.status = .succeeded → pendingOf id s = [] := by
  constructor
  · intro finished id job found handled succeeded
    rw [← Table.find?_key found]
    exact finished job (Table.find?_mem found) handled succeeded
  · intro all job inside handled succeeded
    exact all job.uuid job (Table.find?_eq_some.mpr ⟨inside, rfl⟩) handled succeeded

/-- A notification read for a job is a row of it that is still to be sent. -/
theorem mem_pendingOf {jobId : Uuid} {s : Store} {row : Notification}
    (inside : row ∈ pendingOf jobId s) :
    s.notifications.find? row.uuid = some row ∧ row.jobId = some jobId ∧ row.status = .pending := by
  obtain ⟨there, meets⟩ := List.mem_filter.mp inside
  rw [Bool.and_eq_true, beq_iff_eq, beq_iff_eq] at meets
  exact ⟨Table.find?_eq_some.mpr ⟨there, rfl⟩, meets.1, meets.2⟩

theorem mem_batchOf {jobId : Uuid} {s : Store} {n : NotificationRecord}
    (inside : n ∈ batchOf jobId s) : ∃ row ∈ pendingOf jobId s, row.uuid = n.uuid := by
  obtain ⟨row, there, rfl⟩ := List.mem_map.mp inside
  exact ⟨row, List.mem_of_mem_take there, rfl⟩

theorem pendingOf_nodup (jobId : Uuid) (s : Store) :
    ((pendingOf jobId s).map (·.uuid)).Nodup :=
  s.notifications.nodup.sublist (List.filter_sublist.map _)

theorem map_uuid_batchOf (jobId : Uuid) (s : Store) :
    (batchOf jobId s).map (·.uuid) = ((pendingOf jobId s).take batchSize).map (·.uuid) := by
  unfold batchOf
  rw [List.map_map]
  rfl

theorem batchOf_nodup (jobId : Uuid) (s : Store) : ((batchOf jobId s).map (·.uuid)).Nodup := by
  rw [map_uuid_batchOf]
  exact (pendingOf_nodup jobId s).sublist ((List.take_sublist _ _).map _)

/-- A notification past those that are read is in no delivery. -/
theorem not_mem_batchOf {jobId : Uuid} {s : Store} {row : Notification}
    (past : row ∈ (pendingOf jobId s).drop batchSize) :
    ∀ n ∈ batchOf jobId s, n.uuid ≠ row.uuid := by
  intro n inside same
  have nodup := pendingOf_nodup jobId s
  rw [← List.take_append_drop batchSize (pendingOf jobId s), List.map_append] at nodup
  have first : n.uuid ∈ ((pendingOf jobId s).take batchSize).map (·.uuid) := by
    rw [← map_uuid_batchOf]
    exact List.mem_map.mpr ⟨n, inside, rfl⟩
  have second : row.uuid ∈ ((pendingOf jobId s).drop batchSize).map (·.uuid) :=
    List.mem_map.mpr ⟨row, past, rfl⟩
  exact (List.nodup_append.mp nodup).2.2 _ first _ second same

/-! ### What a processed job leaves -/

theorem statusAfter_of_kept {rt : Runtime} {n : NotificationRecord} {d : Delivery}
    (kept : throws rt n d = false) (before : NotificationStatus) :
    statusAfter rt n d before ≠ .pending := by
  cases handed : isCaught rt n d with
  | true =>
    have done : d.failed = .done := by simpa [throws, handed] using kept
    simp [statusAfter, marksFailed, handed, done]
  | false =>
    have both : sends rt n d.answer = true ∧ d.sent = .done := by simpa [isCaught] using handed
    simp [statusAfter, marksFailed, marks, handed, both.1, both.2]

theorem statusAfter_eq_failed {rt : Runtime} {n : NotificationRecord} {d : Delivery} :
    statusAfter rt n d .pending = .failed ↔ marksFailed rt n d = true := by
  unfold statusAfter
  split_ifs with failed marked <;> simp [failed]

/-- **What the processing of a job leaves**, when it goes through or not. -/
structure Processed (rt : Runtime) (service : Bool) (id : Uuid) (a : Attempt) (w u : World) :
    Prop where
  rest : u.store = { w.store with notifications := u.notifications }
  others : ∀ other, other ≠ id → pendingOf other w.store = [] → pendingOf other u.store = []
  own : goesThrough rt service id a w = true →
    (pendingOf id u.store = [] ↔ (service = true → (pendingOf id w.store).length ≤ batchSize))
  truthful : Truthful w → (Truthful u ↔ Reported rt service id a w)

section Batch

variable {rt : Runtime} {id : Uuid} {delivery : Uuid → Delivery} {w u : World}

/-- A delivered batch gives no other job a notification to be sent. -/
theorem BatchMarked.others_pending
    (marked : BatchMarked rt delivery (comesTo rt delivery (batchOf id w.store)) w u) {other : Uuid}
    (differs : other ≠ id) (none : pendingOf other w.store = []) :
    pendingOf other u.store = [] := by
  rw [pendingOf_eq_nil] at none ⊢
  intro key row found own
  by_cases inside : ∃ n ∈ comesTo rt delivery (batchOf id w.store), n.uuid = key
  · obtain ⟨n, comes, rfl⟩ := inside
    obtain ⟨before, there, same⟩ := mem_batchOf (mem_of_mem_comesTo comes)
    obtain ⟨found', isOwn, -⟩ := mem_pendingOf there
    rw [same] at found'
    obtain ⟨after, left, kept, -⟩ := marked.own n comes before found'
    obtain rfl := Option.some.inj (found.symm.trans left)
    rw [kept, isOwn] at own
    exact absurd (Option.some.inj own).symm differs
  · push Not at inside
    exact none key row ((marked.others key inside).symm.trans found) own

/-- **A batch that goes through** leaves its job a notification to be sent when there were more than
it delivers. -/
theorem BatchMarked.own_pending
    (marked : BatchMarked rt delivery (comesTo rt delivery (batchOf id w.store)) w u)
    (kept : ∀ n ∈ batchOf id w.store, throws rt n (delivery n.uuid) = false) :
    pendingOf id u.store = [] ↔ (pendingOf id w.store).length ≤ batchSize := by
  rw [comesTo_of_none kept] at marked
  constructor
  · intro none
    by_contra more
    obtain ⟨row, past⟩ := List.exists_mem_of_ne_nil _
      (mt List.drop_eq_nil_iff.mp more)
    obtain ⟨found, own, waits⟩ := mem_pendingOf (List.mem_of_mem_drop past)
    have left := (marked.others row.uuid (not_mem_batchOf past)).trans found
    exact pendingOf_eq_nil.mp none row.uuid row left own waits
  · intro few
    rw [pendingOf_eq_nil]
    intro key row found own waits
    by_cases inside : ∃ n ∈ batchOf id w.store, n.uuid = key
    · obtain ⟨n, there, rfl⟩ := inside
      obtain ⟨before, pending, same⟩ := mem_batchOf there
      have found' := (mem_pendingOf pending).1
      rw [same] at found'
      obtain ⟨after, left, -, status⟩ := marked.own n there before found'
      obtain rfl := Option.some.inj (found.symm.trans left)
      exact statusAfter_of_kept (kept n there) before.status (status.symm.trans waits)
    · push Not at inside
      have found' := (marked.others key inside).symm.trans found
      have pending : row ∈ pendingOf id w.store :=
        List.mem_filter.mpr ⟨Table.find?_mem found', by simp [own, waits]⟩
      refine inside (recordOf w.store row) (List.mem_map.mpr ⟨row, ?_, rfl⟩)
        (Table.find?_key found')
      rw [List.take_of_length_le few]
      exact pending

/-- **A batch stays truthful** exactly when it marks nothing as failed that is accepted. -/
theorem BatchMarked.truthful_iff
    (marked : BatchMarked rt delivery (comesTo rt delivery (batchOf id w.store)) w u)
    (truthful : Truthful w) : Truthful u ↔
      ∀ n ∈ comesTo rt delivery (batchOf id w.store), marksFailed rt n (delivery n.uuid) = true →
        accepts rt n (delivery n.uuid).answer = false ∧ n.uuid ∉ w.accepted := by
  -- What the delivery of `n` leaves of it.
  have leaves : ∀ n ∈ comesTo rt delivery (batchOf id w.store), ∃ row,
      u.notifications.find? n.uuid = some row ∧
        row.status = statusAfter rt n (delivery n.uuid) .pending := by
    intro n comes
    obtain ⟨before, pending, same⟩ := mem_batchOf (mem_of_mem_comesTo comes)
    obtain ⟨found, -, waits⟩ := mem_pendingOf pending
    rw [same] at found
    obtain ⟨row, left, -, status⟩ := marked.own n comes before found
    rw [waits] at status
    exact ⟨row, left, status⟩
  have taken : ∀ n ∈ comesTo rt delivery (batchOf id w.store),
      (n.uuid ∉ u.accepted ↔
        accepts rt n (delivery n.uuid).answer = false ∧ n.uuid ∉ w.accepted) := by
    intro n comes
    rw [marked.accepted, not_or, and_comm]
    refine and_congr_left fun _ => ⟨fun none => ?_, fun refused => ?_⟩
    · by_contra accepted
      exact none ⟨n, comes, rfl, by simpa using accepted⟩
    · rintro ⟨m, comes', same, accepted⟩
      obtain rfl := List.inj_on_of_nodup_map (batchOf_nodup id w.store)
        (mem_of_mem_comesTo comes') (mem_of_mem_comesTo comes) same
      rw [refused] at accepted
      exact Bool.false_ne_true accepted
  rw [NotificationDelivery.truthful_iff] at truthful ⊢
  constructor
  · intro all n comes failed
    obtain ⟨row, left, status⟩ := leaves n comes
    exact (taken n comes).mp (all n.uuid row left (status.trans (statusAfter_eq_failed.mpr failed)))
  · intro reported key row found failed
    by_cases inside : ∃ n ∈ comesTo rt delivery (batchOf id w.store), n.uuid = key
    · obtain ⟨n, comes, rfl⟩ := inside
      obtain ⟨row', left, status⟩ := leaves n comes
      obtain rfl := Option.some.inj (found.symm.trans left)
      exact (taken n comes).mpr
        (reported n comes (statusAfter_eq_failed.mp (status.symm.trans failed)))
    · rw [marked.accepted]
      rintro (before | ⟨n, comes, same, -⟩)
      · push Not at inside
        exact truthful key row ((marked.others key inside).symm.trans found) failed before
      · exact inside ⟨n, comes, same⟩

end Batch

/-- **A delivered batch.** -/
theorem deliverPendingForJob_processed (rt : Runtime) (id : Uuid) (a : Attempt) (w : World) :
    Processed rt true id a w (deliverPendingForJob rt id a w).2 ∧
      ((∃ result, (deliverPendingForJob rt id a w).1 = .ok result) ↔
        goesThrough rt true id a w = true) := by
  have found : ∀ n ∈ batchOf id w.store, ∃ row, w.notifications.find? n.uuid = some row := by
    intro n inside
    obtain ⟨row, pending, same⟩ := mem_batchOf inside
    have there := (mem_pendingOf pending).1
    rw [same] at there
    exact ⟨row, there⟩
  have delivered := deliverAll_marked rt a.delivery [] (batchOf_nodup id w.store) found
  unfold deliverPendingForJob goesThrough
  cases reads : a.reads with
  | false =>
    simp only [Bool.false_eq_true, if_false, if_true, Bool.false_and]
    refine ⟨⟨rfl, fun _ _ none => none, fun through => ?_, fun truthful => ?_⟩, by simp⟩
    · exact absurd through (by simp [goesThrough, reads])
    · simp [Reported, reached, reads, truthful]
  | true =>
    simp only [if_true, Bool.true_and, List.all_eq_true, Bool.not_eq_true']
    revert delivered
    generalize deliverAll rt a.delivery (batchOf id w.store) [] w = called
    rintro ⟨marked, goes⟩
    have processed : Processed rt true id a w called.2 := by
      refine ⟨marked.rest, fun _ => marked.others_pending, fun through => ?_, fun truthful => ?_⟩
      · have kept : ∀ n ∈ batchOf id w.store, throws rt n (a.delivery n.uuid) = false := by
          simpa [goesThrough, reads] using through
        simpa using marked.own_pending kept
      · simpa [Reported, reached, reads] using marked.truthful_iff truthful
    rcases called with ⟨e | results, u⟩
    · refine ⟨processed, ?_⟩
      rw [← goes]
      simp
    · refine ⟨processed, ?_⟩
      rw [← goes]
      simp

/-- What is not marked as sent was there before, and not to be sent for the job. -/
theorem find?_allSent {jobId key : Uuid} {notifications : Table Notification.uuid}
    {row : Notification} (found : (allSent jobId notifications).find? key = some row)
    (unsent : row.status ≠ .sent) :
    notifications.find? key = some row ∧ (row.jobId = some jobId → row.status ≠ .pending) := by
  unfold allSent at found
  rw [Table.find?_updateMany] at found
  obtain ⟨before, there, is⟩ := Option.map_eq_some_iff.mp found
  split_ifs at is with hit
  · rw [← is] at unsent
    exact absurd rfl unsent
  · subst is
    refine ⟨there, fun own waits => hit ?_⟩
    rw [own, waits]
    simp

/-- **The one update of a worker without the delivery service.** -/
theorem markPending_processed (rt : Runtime) (id : Uuid) (a : Attempt) (w : World) :
    Processed rt false id a w (w.call a.marking (markPending id)).2 ∧
      ((w.call a.marking (markPending id)).1 = .ok () ↔ goesThrough rt false id a w = true) := by
  have reported : Reported rt false id a w := fun n inside => absurd inside List.not_mem_nil
  have goes : markPending id w.store =
      .ok ((), { w.store with notifications := allSent id w.notifications }) := rfl
  rw [World.call_of_ok goes]
  constructor
  · by_cases fails : a.marking = .failed
    · simp only [if_pos fails]
      refine ⟨rfl, fun _ _ none => none, fun through => ?_, fun truthful => ?_⟩
      · exact absurd through (by simp [goesThrough, fails])
      · exact ⟨fun _ => reported, fun _ => truthful⟩
    · simp only [if_neg fails]
      refine ⟨rfl, fun other differs none => ?_, fun through => ?_, fun truthful => ?_⟩
      · rw [pendingOf_eq_nil] at none ⊢
        intro key row found own waits
        have there := (find?_allSent found (by rw [waits]; decide)).1
        exact none key row there own waits
      · refine ⟨fun _ => by simp, fun _ => ?_⟩
        rw [pendingOf_eq_nil]
        intro key row found own waits
        exact (find?_allSent found (by rw [waits]; decide)).2 own waits
      · refine ⟨fun _ => reported, fun _ => ?_⟩
        rw [truthful_iff] at truthful ⊢
        intro key row found marked
        have there := (find?_allSent found (by rw [marked]; decide)).1
        exact truthful key row there marked
  · cases fate : a.marking <;> simp [goesThrough, fate]

/-- **The processing of a job.** -/
theorem process_processed (rt : Runtime) (service : Bool) (id : Uuid) (a : Attempt) (w : World) :
    Processed rt service id a w (processNotificationDelivery rt service id a w).2 ∧
      ((∃ result, (processNotificationDelivery rt service id a w).1 = .ok result) ↔
        goesThrough rt service id a w = true) := by
  unfold processNotificationDelivery
  cases service with
  | true => exact deliverPendingForJob_processed rt id a w
  | false =>
    have marked := markPending_processed rt id a w
    rw [if_neg Bool.false_ne_true]
    revert marked
    generalize w.call a.marking (markPending id) = called
    rintro ⟨processed, goes⟩
    rcases called with ⟨e | _, u⟩
    · refine ⟨processed, ?_⟩
      rw [← goes]
      simp
    · refine ⟨processed, ?_⟩
      rw [← goes]
      simp

/-! ### The end of an attempt -/

/-- **The end of an attempt** writes the row of its job, or nothing. -/
structure Closes (id : Uuid) (f : BackgroundJob → BackgroundJob) (event : Uuid) (wrote : Bool)
    (w w' : World) : Prop where
  notifications : w'.notifications = w.notifications
  accepted : w'.accepted = w.accepted
  job : ∀ row, w.store.backgroundJobs.find? id = some row →
    w'.store.backgroundJobs.find? id = some (if wrote then f row else row)
  others : ∀ other, other ≠ id →
    w'.store.backgroundJobs.find? other = w.store.backgroundJobs.find? other
  events : ∀ other, other ≠ event → canEnd id other w'.store = canEnd id other w.store

theorem call_closes {id : Uuid} {f : BackgroundJob → BackgroundJob}
    {keeps : ∀ j, (f j).uuid = j.uuid}
    {deliver : Table WebhookDelivery.uuid → Table WebhookDelivery.uuid} {event : DomainEvent}
    {eventUuid : Uuid} (is : event.uuid = eventUuid) (fate : Fate) (w : World) :
    Closes id f eventUuid (fate != .failed && canEnd id eventUuid w.store) w
        (w.call fate (endAttempt id f keeps deliver event)).2 ∧
      ((w.call fate (endAttempt id f keeps deliver event)).1 = .ok () ↔
        fate = .done ∧ canEnd id eventUuid w.store = true) := by
  subst is
  cases can : canEnd id event.uuid w.store with
  | false =>
    have refused : ∃ e, endAttempt id f keeps deliver event w.store = .error e := by
      cases ended : endAttempt id f keeps deliver event w.store with
      | error e => exact ⟨e, rfl⟩
      | ok pair =>
        have can' := canEnd_iff.mpr ⟨pair.2, ended⟩
        rw [can] at can'
        exact absurd can' Bool.false_ne_true
    obtain ⟨e, refuses⟩ := refused
    obtain ⟨error, still⟩ := World.call_of_error refuses fate
    rw [still]
    exact ⟨⟨rfl, rfl, by simp, fun _ _ => rfl, fun _ _ => rfl⟩, by simp⟩
  | true =>
    obtain ⟨t, ended⟩ := canEnd_iff.mp can
    obtain ⟨row, events, found, inserted, rfl⟩ := endAttempt_eq_ok.mp ended
    rw [World.call_of_ok ended]
    refine ⟨?_, by cases fate <;> simp⟩
    by_cases fails : fate = .failed
    · simp only [if_pos fails]
      exact ⟨rfl, rfl, by simp [fails], fun _ _ => rfl, fun _ _ => rfl⟩
    · simp only [if_neg fails]
      refine ⟨rfl, rfl, fun row found => ?_, fun other differs => ?_, fun other differs => ?_⟩
      · rw [if_pos (by simp [fails])]
        exact Table.find?_update_self found f keeps
      · exact (Table.find?_update _ _ _ keeps other).trans (if_neg differs.symm)
      · unfold canEnd
        dsimp only
        rw [Table.find?_update_isSome, Table.find?_insert inserted, if_neg differs.symm]

theorem failedOrRetrying_status (env : EndEnv) (job : BackgroundJob) (error : ServiceError)
    (row : BackgroundJob) : (failedOrRetrying env job error row).status ≠ .succeeded ∧
      (failedOrRetrying env job error row).type = row.type := by
  unfold failedOrRetrying
  split <;> exact ⟨by simp, rfl⟩

/-- What the end of an attempt leaves: its job, whose status is told, and all else as it was. -/
structure Finishes (id : Uuid) (type : BackgroundJobType) (succeeds : Prop) (w w' : World) :
    Prop where
  notifications : w'.notifications = w.notifications
  accepted : w'.accepted = w.accepted
  job : ∃ row, w'.store.backgroundJobs.find? id = some row ∧ row.type = type ∧
    (row.status = .succeeded ↔ succeeds)
  others : ∀ other, other ≠ id →
    w'.store.backgroundJobs.find? other = w.store.backgroundJobs.find? other

/-- **A failure that is written** takes back a completion; one that is not leaves the job. -/
theorem failed_finishes (rt : Runtime) (a : Attempt) (job : BackgroundJob) (error : ServiceError)
    {w : World} {row : BackgroundJob} (found : w.store.backgroundJobs.find? job.uuid = some row) :
    Finishes job.uuid row.type
      (row.status = .succeeded ∧ written job.uuid w a.failing a.failure = false) w
      (failed rt a job error w) := by
  have closes : Closes job.uuid (failedOrRetrying a.failure job error) a.failure.eventUuid
      (written job.uuid w a.failing a.failure) w (failed rt a job error w) :=
    (call_closes (by rfl) a.failing w).1
  refine ⟨closes.notifications, closes.accepted, ⟨_, closes.job row found, ?_⟩, closes.others⟩
  obtain ⟨ended, sameType⟩ := failedOrRetrying_status a.failure job error row
  cases written job.uuid w a.failing a.failure with
  | false => exact ⟨rfl, by simp⟩
  | true => exact ⟨sameType, by simp [ended]⟩

/-- **An attempt that has gone through succeeds** when its completion is written, and no failure
over it. -/
theorem finish_finishes (rt : Runtime) (a : Attempt) (job : BackgroundJob)
    (result : Except ServiceError Json) {w : World} {row : BackgroundJob}
    (found : w.store.backgroundJobs.find? job.uuid = some row) (running : row.status = .running) :
    Finishes job.uuid row.type
      ((∃ r, result = .ok r) ∧ completes job.uuid a w = true) w (finish rt a job result w) := by
  unfold finish
  cases result with
  | error e =>
    have ends := failed_finishes rt a job e found
    obtain ⟨row', found', sameType, status⟩ := ends.job
    refine ⟨ends.notifications, ends.accepted, ⟨row', found', sameType, status.trans ?_⟩,
      ends.others⟩
    simp [running]
  | ok result =>
    have called : Closes job.uuid (succeeded result) a.completion.eventUuid
          (written job.uuid w a.completing a.completion) w
          (w.call a.completing (completeJob rt a.completion job result)).2 ∧
        ((w.call a.completing (completeJob rt a.completion job result)).1 = .ok () ↔
          a.completing = .done ∧ canEnd job.uuid a.completion.eventUuid w.store = true) :=
      call_closes (by rfl) a.completing w
    dsimp only
    revert called
    generalize w.call a.completing (completeJob rt a.completion job result) = ended
    rintro ⟨closes, goes⟩
    have left := closes.job row found
    rcases ended with ⟨e | _, v⟩
    · have ends := failed_finishes rt a job e left
      obtain ⟨row', found', sameType, status⟩ := ends.job
      refine ⟨ends.notifications.trans closes.notifications, ends.accepted.trans closes.accepted,
        ⟨row', found', sameType.trans (by split <;> rfl), status.trans ?_⟩,
        fun other differs => (ends.others other differs).trans (closes.others other differs)⟩
      have later : written job.uuid v a.failing a.failure =
          written job.uuid w a.failing a.failure := by
        unfold written
        rw [closes.events _ a.fresh]
      have undone : ¬ (a.completing = .done ∧
          canEnd job.uuid a.completion.eventUuid w.store = true) := fun both => by
        exact absurd (goes.mpr both) (by simp)
      unfold completes
      rw [later]
      cases wrote : written job.uuid w a.completing a.completion with
      | false => simp [running]
      | true =>
        have notDone : a.completing ≠ .done := by
          intro done
          refine undone ⟨done, ?_⟩
          unfold written at wrote
          exact (Bool.and_eq_true _ _ ▸ wrote).2
        simp [succeeded, notDone]
    · obtain ⟨done, can⟩ := goes.mp rfl
      have wrote : written job.uuid w a.completing a.completion = true := by
        simp [written, done, can]
      rw [if_pos wrote] at left
      refine ⟨closes.notifications, closes.accepted, ⟨_, left, rfl, ?_⟩, closes.others⟩
      simp [succeeded, completes, written, done, can]

/-! ### A step -/

theorem pendingOf_congr {s t : Store} (same : t.notifications = s.notifications) (jobId : Uuid) :
    pendingOf jobId t = pendingOf jobId s := by
  unfold pendingOf
  rw [same]

theorem Truthful.congr {w u : World} (notifications : u.notifications = w.notifications)
    (accepted : u.accepted = w.accepted) : Truthful u ↔ Truthful w := by
  unfold Truthful
  rw [notifications, accepted]

theorem completes_congr {id : Uuid} {w u : World}
    (can : ∀ eventUuid, canEnd id eventUuid u.store = canEnd id eventUuid w.store) (a : Attempt) :
    completes id a u = completes id a w := by
  unfold completes written
  rw [can, can]

theorem claimed_uuid (row : BackgroundJob) : (claimed row).uuid = row.uuid := rfl

/-- The world after a claim. -/
def claimedWorld (id : Uuid) (w : World) : World :=
  { w with store := { w.store with
      backgroundJobs := w.store.backgroundJobs.update id claimed claimed_uuid } }

/-- What the end of the attempt on a claimed job leaves. -/
theorem settled_finish {rt : Runtime} {service : Bool} {id : Uuid} {a : Attempt} {w u v : World}
    {through : Prop} {type : BackgroundJobType} (settled : Settled w)
    (handled : handles type = true)
    (processed : Processed rt service id a (claimedWorld id w) u)
    (goes : through ↔ goesThrough rt service id a w = true)
    (finishes : Finishes id type (through ∧ completes id a w = true) u v) :
    Settled v ↔ Bounded rt service id a w ∧ Reported rt service id a w := by
  have reported : Truthful v ↔ Reported rt service id a w :=
    (Truthful.congr finishes.notifications finishes.accepted).trans
      (processed.truthful settled.truthful)
  obtain ⟨row, found, sameType, status⟩ := finishes.job
  have own : goesThrough rt service id a w = true → (pendingOf id v.store = [] ↔
      (service = true → (pendingOf id w.store).length ≤ batchSize)) := fun through => by
    rw [pendingOf_congr finishes.notifications]
    exact processed.own through
  have bounded : Finished v.store ↔ Bounded rt service id a w := by
    rw [finished_iff]
    constructor
    · intro finished isService through completed
      have succeeded := status.mpr ⟨goes.mpr through, completed⟩
      exact (own through).mp (finished id row found (sameType ▸ handled) succeeded) isService
    · intro bounded key job there isHandled succeeded
      by_cases same : key = id
      · subst same
        obtain rfl := Option.some.inj (found.symm.trans there)
        obtain ⟨went, completed⟩ := status.mp succeeded
        have through := goes.mp went
        exact (own through).mpr fun isService => bounded isService through completed
      · have before : w.store.backgroundJobs.find? key = some job := by
          have unchanged := (finishes.others key same).symm.trans there
          rw [processed.rest] at unchanged
          rw [← unchanged]
          exact ((Table.find?_update _ id claimed (fun _ => rfl) key).trans
            (if_neg (Ne.symm same))).symm
        rw [pendingOf_congr finishes.notifications]
        exact processed.others key same
          (finished_iff.mp settled.finished key job before isHandled succeeded)
  constructor
  · intro both
    exact ⟨bounded.mp both.finished, reported.mp both.truthful⟩
  · rintro ⟨isBounded, isReported⟩
    exact ⟨bounded.mpr isBounded, reported.mpr isReported⟩

/-- **An attempt that claims its job** leaves a settled world exactly when it is bounded and
reported. -/
theorem settled_attempt {rt : Runtime} {service : Bool} {id : Uuid} {a : Attempt} {w : World}
    (settled : Settled w) (claims : Claims id a w) :
    Settled (attempt rt service id a w) ↔
      Bounded rt service id a w ∧ Reported rt service id a w := by
  obtain ⟨done, row, found, handled, waits, due⟩ := claims
  have claim : claimJob a.now id w.store = .ok (claimed row, (claimedWorld id w).store) :=
    claimJob_eq_ok.mpr ⟨row, found, waits, due, rfl, rfl⟩
  have key : (claimed row).uuid = id :=
    show row.uuid = id from Table.find?_key found
  have processed := process_processed rt service id a (claimedWorld id w)
  have handled' : handles (claimed row).type = true := handled
  unfold attempt
  rw [claim]
  dsimp only
  rw [if_pos handled', done, key]
  dsimp only
  revert processed
  change Processed rt service id a (claimedWorld id w)
    (processNotificationDelivery rt service id a (claimedWorld id w)).2 ∧ _ → (Settled (finish rt a
      (claimed row) (processNotificationDelivery rt service id a (claimedWorld id w)).1
      (processNotificationDelivery rt service id a (claimedWorld id w)).2) ↔ _)
  generalize processNotificationDelivery rt service id a (claimedWorld id w) = ended
  rintro ⟨processed, goes⟩
  obtain ⟨result, u⟩ := ended
  have there : u.store.backgroundJobs.find? id = some (claimed row) := by
    rw [processed.rest]
    exact Table.find?_update_self found claimed fun _ => rfl
  have finishes := finish_finishes rt a (claimed row) result (key.symm ▸ there) rfl
  rw [key] at finishes
  have can : ∀ eventUuid, canEnd id eventUuid u.store = canEnd id eventUuid w.store := by
    intro eventUuid
    unfold canEnd
    rw [processed.rest]
    exact congrArg (· && _) (Table.find?_update_isSome _ id claimed (fun _ => rfl) id)
  rw [completes_congr can] at finishes
  exact settled_finish settled handled processed goes finishes

/-- A step that writes no notification, and makes no job succeed, keeps a settled world. -/
theorem settled_of_jobs {w v : World} (settled : Settled w)
    (notifications : v.notifications = w.notifications) (accepted : v.accepted = w.accepted)
    (jobs : ∀ id job, v.store.backgroundJobs.find? id = some job → job.status = .succeeded →
      w.store.backgroundJobs.find? id = some job) : Settled v := by
  refine ⟨?_, (Truthful.congr notifications accepted).mpr settled.truthful⟩
  rw [finished_iff]
  intro id job found handled succeeded
  rw [pendingOf_congr notifications]
  exact finished_iff.mp settled.finished id job (jobs id job found succeeded) handled succeeded

/-- A job that is written with another status than `succeeded` is no other job that has. -/
theorem find?_of_unsucceeded {jobs : Table BackgroundJob.uuid} {id key : Uuid}
    (f : BackgroundJob → BackgroundJob) (keeps : ∀ j, (f j).uuid = j.uuid) {job : BackgroundJob}
    (moves : ∀ row, (f row).status ≠ .succeeded)
    (found : (jobs.update id f keeps).find? key = some job) (succeeded : job.status = .succeeded) :
    jobs.find? key = some job := by
  rw [Table.find?_update] at found
  split_ifs at found with same
  · obtain ⟨row, -, rfl⟩ := Option.map_eq_some_iff.mp found
    exact absurd succeeded (moves row)
  · exact found

/-- **An attempt that claims no job for good** leaves a settled world. -/
theorem settled_unclaimed {rt : Runtime} {service : Bool} {id : Uuid} {a : Attempt} {w : World}
    (settled : Settled w) (unclaimed : ¬ Claims id a w) : Settled (attempt rt service id a w) := by
  unfold attempt
  split
  · exact settled
  · rename_i job s went
    obtain ⟨row, found, waits, due, rfl, rfl⟩ := claimJob_eq_ok.mp went
    split_ifs with handled
    · cases claim : a.claim with
      | failed => exact settled
      | lost =>
        exact settled_of_jobs settled rfl rfl fun _ _ =>
          find?_of_unsucceeded claimed (fun _ => rfl) fun _ => by simp [claimed]
      | done => exact absurd ⟨claim, row, found, handled, waits, due⟩ unclaimed
    · exact settled

/-- A call that keeps a settled world, whenever it is committed. -/
theorem settled_call {f : Store → Except ServiceError (Unit × Store)} {w : World}
    (settled : Settled w)
    (commits : ∀ s, f w.store = .ok ((), s) → Settled { w with store := s }) (fate : Fate) :
    Settled (w.call fate f).2 := by
  cases went : f w.store with
  | error e =>
    obtain ⟨error, still⟩ := World.call_of_error went fate
    rw [still]
    exact settled
  | ok pair =>
    obtain ⟨⟨⟩, s⟩ := pair
    rw [World.call_of_ok went]
    dsimp only
    split
    · exact settled
    · exact commits s went

/-- **A retry of a notification** keeps a settled world: it goes to a new job. -/
theorem settled_retryNotification {auth : AuthTokenPayload} {env : RetryEnv} {id : Uuid}
    {w : World} {s : Store} (settled : Settled w)
    (went : retryNotification auth env id w.store = .ok ((), s)) :
    Settled { w with store := s } := by
  unfold retryNotification at went
  obtain ⟨existing, found, rest⟩ := bind_eq_ok.mp went
  obtain ⟨-, -, rest⟩ := bind_eq_ok.mp rest
  obtain ⟨-, -, rest⟩ := bind_eq_ok.mp rest
  obtain ⟨jobs, created, rest⟩ := bind_eq_ok.mp rest
  obtain ⟨⟨row, notifications⟩, updated, rest⟩ := bind_eq_ok.mp rest
  obtain ⟨events, -, same⟩ := bind_eq_ok.mp rest
  rw [pure_eq_ok] at same
  obtain ⟨-, rfl⟩ := Prod.mk.inj same
  obtain ⟨before, -, -, rfl⟩ := updateRow_eq_ok.mp updated
  have looked : ∀ key, jobs.find? key = if env.jobUuid = key then some (retryJob auth env existing)
      else w.store.backgroundJobs.find? key :=
    Table.find?_insert (orThrow_eq_ok.mp created)
  -- What is to be sent now was to be sent before, or is the retried notification, in its new job.
  have pending : ∀ key row, (w.store.notifications.update existing.uuid (retried env)
      fun _ => rfl).find? key = some row →
        w.store.notifications.find? key = some row ∨ row.jobId = some env.jobUuid ∧
          row.status = .pending := by
    intro key row there
    have left := (Table.find?_update w.store.notifications existing.uuid (retried env)
      (fun _ => rfl) key).symm.trans there
    split_ifs at left
    · obtain ⟨old, -, rfl⟩ := Option.map_eq_some_iff.mp left
      exact .inr ⟨rfl, rfl⟩
    · exact .inl left
  refine ⟨finished_iff.mpr fun key job there handled succeeded => ?_,
    truthful_iff.mpr fun key row there failed => ?_⟩
  · have differs : key ≠ env.jobUuid := by
      rintro rfl
      rw [looked, if_pos rfl] at there
      obtain rfl := Option.some.inj there
      exact absurd succeeded (by simp [retryJob])
    have old : w.store.backgroundJobs.find? key = some job := by
      rw [← there, looked, if_neg (Ne.symm differs)]
    have none := pendingOf_eq_nil.mp
      (finished_iff.mp settled.finished key job old handled succeeded)
    refine pendingOf_eq_nil.mpr fun other row left own waits => ?_
    rcases pending other row left with same | ⟨moved, -⟩
    · exact none other row same own waits
    · exact differs (Option.some.inj (own.symm.trans moved))
  · rcases pending key row there with same | ⟨-, waits⟩
    · exact truthful_iff.mp settled.truthful key row same failed
    · rw [waits] at failed
      exact absurd failed (by simp)

/-- **A retry of a failed job** keeps a settled world. -/
theorem settled_retryDeadLetterJob {now : Time} {eventUuid id : Uuid} {w : World} {s : Store}
    (settled : Settled w)
    (went : JobWorker.retryDeadLetterJob now eventUuid id w.store = .ok ((), s)) :
    Settled { w with store := s } := by
  obtain ⟨existing, -, rest⟩ := bind_eq_ok.mp went
  obtain ⟨row, events, -, -, rfl⟩ := endAttempt_eq_ok.mp rest
  exact settled_of_jobs settled rfl rfl fun _ _ =>
    find?_of_unsucceeded (revived now existing) (fun _ => rfl) fun _ => by simp [revived]

/-- **A step from a settled world** leads to one exactly when it is guarded. -/
theorem settled_step {rt : Runtime} {service : Bool} {w : World} (settled : Settled w)
    (e : Event) : Settled (step rt service w e) ↔ Guarded rt service w e := by
  cases e with
  | attempt id a =>
    by_cases claims : Claims id a w
    · refine (settled_attempt settled claims).trans ⟨fun both _ => both, fun guarded => ?_⟩
      exact guarded claims
    · exact ⟨fun _ claims' => absurd claims' claims, fun _ => settled_unclaimed settled claims⟩
  | retryNotification auth env id fate =>
    exact ⟨fun _ => trivial, fun _ =>
      settled_call settled (fun _ => settled_retryNotification settled) fate⟩
  | retryDeadLetterJob now eventUuid id fate =>
    exact ⟨fun _ => trivial, fun _ =>
      settled_call settled (fun _ => settled_retryDeadLetterJob settled) fate⟩

instance : DecidablePred Finished := fun s =>
  inferInstanceAs (Decidable (∀ job ∈ s.backgroundJobs.rows, _ → _ → _))

instance : DecidablePred Truthful := fun w =>
  inferInstanceAs (Decidable (∀ row ∈ w.notifications.rows, _ → _))

instance : DecidablePred Settled := fun _ =>
  decidable_of_iff _ ⟨fun both => Settled.mk both.1 both.2, fun settled =>
    And.intro settled.finished settled.truthful⟩

/-- A message to one device. -/
def message : Notification where
  uuid := "a0000000-0000-4000-8000-000000000001"
  jobId := some "70000000-0000-4000-8000-000000000001"
  institutionId := none
  learnerId := none
  userId := none
  channel := .push
  type := "result.published"
  title := "Results"
  body := "Your results are out."
  payload := .obj [("pushToken", .str "ExponentPushToken[1]")]
  status := .pending
  error := none

/-- Its job. -/
def messageJob : BackgroundJob where
  uuid := "70000000-0000-4000-8000-000000000001"
  type := .pushNotification
  queue := "notifications.push"
  status := .queued
  institutionId := none
  createdById := none
  relatedEntityType := none
  relatedEntityId := none
  priority := 0
  attempts := 0
  maxAttempts := 5
  runAfter := 0
  payload := .obj []
  result := none
  error := none

def messageWorld : World where
  store := { Store.empty with
    backgroundJobs := .single messageJob
    notifications := .single message }
  accepted := []

/-- An attempt whose calls are all done, but for the update that marks the message as sent. -/
def messageAttempt (sent : Fate) : Attempt where
  now := 0
  claim := .done
  reads := true
  delivery _ := ⟨.responded 200 "", sent, .done⟩
  marking := .done
  completion := ⟨"80000000-0000-4000-8000-000000000001", 0⟩
  completing := .done
  failure := ⟨"80000000-0000-4000-8000-000000000002", 0⟩
  failing := .done
  fresh := by decide

end NotificationDelivery

end AcadID
