/-
**Payment references: which request a charge pays for.**

A run of reviews, manual confirmations, refunds and confirmation jobs over any set of record
requests, one after the other, any call of which may fail at any point. Beside the store runs the
number of requests that each reference has moved to `PAID`.

* `references` — the references named in the timeline of a request, which no operation shortens.
* `NamedOnce` — the invariant: a paid request names its reference, and the references named are
  those that have moved a request, once each.
* `paymentStep_iff` — **in every step of a run each reference moves at most one request, at most
  once, and no held payment has its reference replaced, exactly when every confirmation that goes
  through brings a reference that no timeline names, or repeats that of its request.**
* `paymentStep_fails` — a charge confirmed by hand takes the place of one that is held.
-/

import AcadID.Requests.Operations
import AcadID.Lib.Run

namespace AcadID.References

open Lib RecordRequests

/-! ### Runs -/

/-- Every operation but a fulfilment. -/
def concernsPayment : RequestCall → Bool
  | .fulfill _ _ _ _ => false
  | _ => true

abbrev PaymentEvent : Type :=
  { e : RequestEvent // concernsPayment e.call = true }

/-- The requests that were not paid, and are paid with this reference after a step. -/
def movedBy (s t : Store) (reference : String) : ℕ :=
  t.recordRequests.rows.countP fun row =>
    row.paymentStatus == .paid && row.paymentReference == some reference &&
      (s.recordRequests.find? row.uuid).all (·.paymentStatus != .paid)

/-- A store, and how many requests each reference has moved to `PAID`. -/
structure Tracked where
  store : Store
  moves : String → ℕ

def trackedStep (rt : Runtime) (s : Tracked) (e : PaymentEvent) : Tracked where
  store := requestStep rt s.store e.1
  moves reference :=
    s.moves reference + movedBy s.store (requestStep rt s.store e.1) reference

/-- A payment that was neither released nor refunded. -/
def held (row : RecordRequest) : Bool :=
  row.paymentStatus == .paid && [.held, .refundPending].contains row.escrowStatus

/-- **What is promised of a step**: each reference has moved at most one request, at most once, and
no held payment has its reference replaced. -/
structure PaymentStep (rt : Runtime) (s : Tracked) (e : PaymentEvent) : Prop where
  once : ∀ reference, (trackedStep rt s e).moves reference ≤ 1
  kept : ∀ id row row', s.store.recordRequests.find? id = some row → held row = true →
    (trackedStep rt s e).store.recordRequests.find? id = some row' →
    row'.paymentReference = row.paymentReference

/-! ### The timeline of a request -/

/-- The reference that a note names. -/
def noteReference (note : Json) : Option String :=
  match note.get? "paymentReference" with
  | some (.str reference) => some reference
  | _ => none

/-- The references that a timeline names. -/
def references (notes : Json) : List String :=
  match notes with
  | .arr notes => notes.filterMap noteReference
  | _ => []

/-- **A note is appended**: its reference, if it names one, comes last. -/
theorem references_append (notes note : Json) :
    references (appendRecordRequestNote notes note) =
      references notes ++ (noteReference note).toList := by
  have single : [note].filterMap noteReference = (noteReference note).toList := by
    cases named : noteReference note with
    | none => rw [List.filterMap_cons_none named]; rfl
    | some reference => rw [List.filterMap_cons_some named]; rfl
  cases notes with
  | arr notes =>
    show (notes ++ [note]).filterMap noteReference = _
    rw [List.filterMap_append, single]
    rfl
  | null | bool _ | num _ | str _ | obj _ => exact single

/-- What every note begins with names no reference. -/
theorem get?_noteBy (at_ : Time) (auth : AuthTokenPayload) (status : String) (note : Option String)
    (more : List (String × Option Json)) :
    (noteBy at_ auth status note more).get? "paymentReference" =
      (Json.fields more).get? "paymentReference" := by
  unfold noteBy
  simp only [List.cons_append, List.nil_append]
  rw [Json.get?_fields_cons_ne (by decide), Json.get?_fields_cons_ne (by decide),
    Json.get?_fields_cons_ne (by decide), Json.get?_fields_cons_ne (by decide),
    Json.get?_fields_cons_ne (by decide)]

/-- The reference that a plan confirms a payment with. -/
def reference : RequestPlan → Option String
  | .confirm p => some p.input.paymentReference
  | .payment p => some p.reference
  | _ => none

/-- **What a confirmation writes**: the payment held under its reference, which the timeline names
last. -/
theorem write_confirmation {plan : RequestPlan} {row : RecordRequest} {r : String}
    (snapshot : plan.snapshot = some row) (brings : reference plan = some r) :
    held (plan.write row) = true ∧ (plan.write row).paymentStatus = .paid ∧
      (plan.write row).paymentReference = some r ∧
      references (plan.write row).notes = references row.notes ++ [r] := by
  cases plan with
  | confirm p =>
    obtain rfl := Option.some.inj snapshot
    obtain rfl := Option.some.inj brings
    refine ⟨rfl, rfl, rfl, ?_⟩
    show references (appendRecordRequestNote _ _) = _
    rw [references_append]
    unfold noteReference
    rw [get?_noteBy, Json.get?_fields_cons_self]
    rfl
  | payment p =>
    obtain rfl := Option.some.inj snapshot
    obtain rfl := Option.some.inj brings
    refine ⟨rfl, rfl, rfl, ?_⟩
    show references (appendRecordRequestNote _ _) = _
    rw [references_append]
    rfl
  | review p | refund p | fulfill p | answered result =>
    exact absurd brings (by simp [reference])

/-- **What the other plans write**: the reference and the timeline's references stay, and a payment
they leave was held. -/
theorem write_other {rt : Runtime} {call : RequestCall} {s : Store} {plan : RequestPlan}
    {row : RecordRequest} (checked : requestCheck rt call s = .ok plan)
    (payment : concernsPayment call = true) (snapshot : plan.snapshot = some row)
    (brings : reference plan = none) :
    (plan.write row).paymentReference = row.paymentReference ∧
      references (plan.write row).notes = references row.notes ∧
      ((plan.write row).paymentStatus = .paid → row.paymentStatus = .paid) ∧
      (held row = true → (plan.write row).paymentStatus = .paid → held (plan.write row) = true) := by
  cases plan with
  | review p =>
    obtain rfl := Option.some.inj snapshot
    refine ⟨rfl, ?_, id, fun here _ => here⟩
    show references (appendRecordRequestNote _ _) = _
    rw [references_append]
    unfold noteReference
    rw [get?_noteBy]
    exact List.append_nil _
  | refund p =>
    obtain rfl := Option.some.inj snapshot
    refine ⟨rfl, ?_, fun _ => ?_, fun _ still => ?_⟩
    · show references (appendRecordRequestNote _ _) = _
      rw [references_append]
      unfold noteReference
      rw [get?_noteBy, Json.get?_fields_cons_ne (by decide), Json.get?_fields_cons_ne (by decide),
        Json.get?_fields_cons_ne (by decide)]
      exact List.append_nil _
    · cases call with
      | refund env auth id body =>
        obtain ⟨p', read, same⟩ := bind_eq_ok.mp checked
        rw [pure_eq_ok] at same
        obtain rfl := RequestPlan.refund.inj same
        exact (refundCheck_spec read).2.2.2.1
      | review env auth id body | confirm env auth id body | fulfill env auth id body =>
        obtain ⟨p', -, same⟩ := bind_eq_ok.mp checked
        exact absurd (pure_eq_ok.mp same) (by simp)
      | payment env job =>
        obtain ⟨p', -, same⟩ := bind_eq_ok.mp checked
        cases p' <;> exact absurd (pure_eq_ok.mp same) (by simp)
    · have unconfirmed : p.confirms = false := by
        by_contra confirms
        have left : (if p.confirms then RecordRequestPaymentStatus.refunded
          else p.existing.paymentStatus) = .paid := still
        rw [if_pos (by simpa using confirms)] at left
        exact absurd left (by decide)
      have escrow : (RequestPlan.write (.refund p) p.existing).escrowStatus = .refundPending := by
        show (if p.confirms then _ else _) = _
        rw [unconfirmed]
        rfl
      unfold held
      rw [still, escrow]
      rfl
  | fulfill p =>
    cases call with
    | fulfill env auth id body => exact absurd payment (by simp [concernsPayment])
    | review env auth id body | confirm env auth id body | refund env auth id body =>
      obtain ⟨p', -, same⟩ := bind_eq_ok.mp checked
      exact absurd (pure_eq_ok.mp same) (by simp)
    | payment env job =>
      obtain ⟨p', -, same⟩ := bind_eq_ok.mp checked
      cases p' <;> exact absurd (pure_eq_ok.mp same) (by simp)
  | answered result => exact absurd snapshot (by simp [RequestPlan.snapshot])
  | confirm p | payment p => exact absurd brings (by simp [reference])

/-! ### The invariant -/

/-- **The books of the references.** A paid request is held and its timeline names its reference;
the references that timelines name are those that have moved a request, once each. -/
structure NamedOnce (s : Tracked) : Prop where
  paid : ∀ id row, s.store.recordRequests.find? id = some row → row.paymentStatus = .paid →
    held row = true ∧ ∃ r, row.paymentReference = some r ∧ r ∈ references row.notes
  moved : ∀ id row, s.store.recordRequests.find? id = some row → ∀ r ∈ references row.notes,
    0 < s.moves r
  named : ∀ r, 0 < s.moves r →
    ∃ id row, s.store.recordRequests.find? id = some row ∧ r ∈ references row.notes
  once : ∀ r, s.moves r ≤ 1

/-- A confirmation with this reference is of a new charge, or repeats that of its request. -/
def NewOrRepeated (s : Store) (row : RecordRequest) (r : String) : Prop :=
  (row.paymentStatus = .paid ∧ row.paymentReference = some r) ∨
    (row.paymentStatus ≠ .paid ∧ ∀ other ∈ s.recordRequests.rows, r ∉ references other.notes)

/-- Every confirmation that goes through is of a new charge, or repeats that of its request. -/
def Sound (rt : Runtime) (s : Tracked) (e : PaymentEvent) : Prop :=
  ∀ plan res t, (requestMethods rt).committed e.1.call e.1.script s.store = some (plan, res, t) →
    ∀ r, reference plan = some r → ∀ row, plan.snapshot = some row →
      NewOrRepeated s.store row r

instance (s : Store) (row : RecordRequest) (r : String) : Decidable (NewOrRepeated s row r) :=
  inferInstanceAs (Decidable (_ ∨ _))

instance (rt : Runtime) (s : Tracked) (e : PaymentEvent) : Decidable (Sound rt s e) :=
  match went : (requestMethods rt).committed e.1.call e.1.script s.store with
  | none => isTrue fun _ _ _ some => by rw [went] at some; exact absurd some (by simp)
  | some (plan, _, _) =>
    decidable_of_iff (∀ r ∈ reference plan, ∀ row ∈ plan.snapshot, NewOrRepeated s.store row r)
      (by unfold Sound; rw [went]; simp)

/-- A step that writes no request moves none. -/
theorem movedBy_same {s t : Store} (same : t.recordRequests = s.recordRequests) (r : String) :
    movedBy s t r = 0 := by
  refine List.countP_eq_zero.mpr fun row inside moved => ?_
  rw [same] at inside
  obtain ⟨paid, was⟩ := Bool.and_eq_true_iff.mp moved
  rw [Table.find?_eq_some.mpr ⟨inside, rfl⟩] at was
  obtain ⟨paid, -⟩ := Bool.and_eq_true_iff.mp paid
  exact absurd paid (by simpa using was)

/-- **A step that writes one request** moves that one, or none. -/
theorem movedBy_written {plan : RequestPlan} {s t : Store} {row : RecordRequest}
    (written : Written plan s t) (snapshot : plan.snapshot = some row)
    (found : s.recordRequests.find? row.uuid = some row) (r : String) :
    movedBy s t r =
      if row.paymentStatus ≠ .paid ∧ (plan.write row).paymentStatus = .paid ∧
        (plan.write row).paymentReference = some r then 1 else 0 := by
  have target : plan.targets row.uuid := ⟨row, snapshot, rfl⟩
  unfold movedBy
  rw [Table.countP_of_key (k := row.uuid) fun other inside moved => ?_]
  · rw [written.target row.uuid target, found, Option.map_some, Option.any_some,
      plan.write_uuid, found, Option.all_some]
    refine if_congr ?_ rfl rfl
    simp only [Bool.and_eq_true, beq_iff_eq, bne_iff_ne]
    tauto
  · by_contra elsewhere
    have untargeted : ¬ plan.targets other.uuid := by
      rintro ⟨existing, same, is⟩
      obtain rfl := Option.some.inj (snapshot.symm.trans same)
      exact elsewhere is.symm
    have kept := written.others other.uuid untargeted
    rw [Table.find?_eq_some.mpr ⟨inside, rfl⟩] at kept
    obtain ⟨paid, was⟩ := Bool.and_eq_true_iff.mp moved
    rw [← kept] at was
    obtain ⟨paid, -⟩ := Bool.and_eq_true_iff.mp paid
    exact absurd paid (by simpa using was)

/-- The invariant, after a step that writes one request and moves what it says. -/
theorem namedOnce_write {s : Tracked} {row row' : RecordRequest} {t : Store}
    {moves : String → ℕ} (inv : NamedOnce s)
    (found : s.store.recordRequests.find? row.uuid = some row)
    (after : ∀ id, t.recordRequests.find? id =
      if id = row.uuid then some row' else s.store.recordRequests.find? id)
    (paid : row'.paymentStatus = .paid →
      held row' = true ∧ ∃ r, row'.paymentReference = some r ∧ r ∈ references row'.notes)
    (grows : ∀ r ∈ references row.notes, r ∈ references row'.notes)
    (more : ∀ r, s.moves r ≤ moves r)
    (moved : ∀ r ∈ references row'.notes, 0 < moves r)
    (named : ∀ r, 0 < moves r → 0 < s.moves r ∨ r ∈ references row'.notes)
    (once : ∀ r, moves r ≤ 1) : NamedOnce ⟨t, moves⟩ := by
  refine ⟨fun id other here => ?_, fun id other here r inside => ?_, fun r positive => ?_, once⟩
  · have here : t.recordRequests.find? id = some other := here
    rw [after id] at here
    split at here
    · rw [← Option.some.inj here]
      exact paid
    · exact inv.paid id other here
  · have here : t.recordRequests.find? id = some other := here
    rw [after id] at here
    split at here
    · rw [← Option.some.inj here] at inside
      exact moved r inside
    · exact lt_of_lt_of_le (inv.moved id other here r inside) (more r)
  · rcases named r positive with before | inside
    · obtain ⟨id, other, here, inside⟩ := inv.named r before
      by_cases is : id = row.uuid
      · rw [is, found] at here
        rw [← Option.some.inj here] at inside
        exact ⟨id, row', by show t.recordRequests.find? id = _; rw [after id, if_pos is],
          grows r inside⟩
      · exact ⟨id, other, by show t.recordRequests.find? id = _; rw [after id, if_neg is, here],
          inside⟩
    · exact ⟨row.uuid, row', by show t.recordRequests.find? _ = _; rw [after, if_pos rfl], inside⟩

/-- **The step lemma.** A sound step keeps the books of the references. -/
theorem namedOnce_step {rt : Runtime} {s : Tracked} {e : PaymentEvent} (inv : NamedOnce s)
    (sound : Sound rt s e) : NamedOnce (trackedStep rt s e) := by
  rcases requestStep_cases rt s.store e.1 with ⟨⟨same, -, -⟩, -⟩ | ⟨plan, res, t, row, went,
    snapshot, checked, -, found, written⟩
  · have still : trackedStep rt s e = ⟨requestStep rt s.store e.1, s.moves⟩ := by
      unfold trackedStep
      simp only [movedBy_same same, Nat.add_zero]
    rw [still]
    refine ⟨fun id row found => ?_, fun id row found => ?_, fun r positive => ?_, inv.once⟩
    · exact inv.paid id row (by rw [← same]; exact found)
    · exact inv.moved id row (by rw [← same]; exact found)
    · obtain ⟨id, row, found, inside⟩ := inv.named r positive
      exact ⟨id, row, by rw [← found, ← same], inside⟩
  · have counted := movedBy_written written snapshot found
    have rows := find?_written written snapshot found
    cases brings : reference plan with
    | some r =>
      obtain ⟨isHeld, isPaid, named, noted⟩ := write_confirmation snapshot brings
      rcases sound plan res t went r brings row snapshot with ⟨paid, again⟩ | ⟨unpaid, new⟩
      · -- The charge that the request is paid with already.
        have none_moved : ∀ r', movedBy s.store (requestStep rt s.store e.1) r' = 0 := by
          intro r'
          rw [counted, if_neg fun ⟨unpaid, _⟩ => unpaid paid]
        obtain ⟨-, r', is, inside⟩ := inv.paid row.uuid row found paid
        obtain rfl : r = r' := Option.some.inj (again.symm.trans is)
        refine namedOnce_write inv found rows (fun _ => ⟨isHeld, r, named, by rw [noted]; simp⟩)
          (fun r' old => by rw [noted]; exact List.mem_append_left _ old)
          (fun r' => Nat.le_add_right _ _) (fun r' here => ?_) (fun r' positive => .inl ?_)
          fun r' => ?_
        · rw [none_moved, Nat.add_zero]
          rw [noted] at here
          rcases List.mem_append.mp here with old | last
          · exact inv.moved row.uuid row found r' old
          · rw [List.mem_singleton.mp last]
            exact inv.moved row.uuid row found r inside
        · rwa [none_moved, Nat.add_zero] at positive
        · rw [none_moved, Nat.add_zero]
          exact inv.once r'
      · -- A charge that no timeline names.
        have unmoved : s.moves r = 0 := by
          by_contra before
          obtain ⟨id, other, here, inside⟩ := inv.named r (Nat.pos_of_ne_zero before)
          exact new other (Table.find?_mem here) inside
        have one_moved : ∀ r', movedBy s.store (requestStep rt s.store e.1) r' =
            if r = r' then 1 else 0 := by
          intro r'
          rw [counted, isPaid, named]
          refine if_congr ?_ rfl rfl
          simp [unpaid]
        refine namedOnce_write inv found rows (fun _ => ⟨isHeld, r, named, by rw [noted]; simp⟩)
          (fun r' old => by rw [noted]; exact List.mem_append_left _ old)
          (fun r' => Nat.le_add_right _ _) (fun r' here => ?_) (fun r' positive => ?_)
          fun r' => ?_
        · rw [one_moved]
          rw [noted] at here
          rcases List.mem_append.mp here with old | last
          · exact Nat.add_pos_left (inv.moved row.uuid row found r' old) _
          · rw [if_pos (List.mem_singleton.mp last).symm]
            exact Nat.succ_pos _
        · rw [one_moved] at positive
          by_cases is : r = r'
          · right
            rw [noted, ← is]
            exact List.mem_append_right _ (List.mem_singleton.mpr rfl)
          · left
            rwa [if_neg is, Nat.add_zero] at positive
        · rw [one_moved]
          by_cases is : r = r'
          · rw [if_pos is, ← is, unmoved]
          · rw [if_neg is, Nat.add_zero]
            exact inv.once r'
    | none =>
      obtain ⟨sameReference, noted, wasPaid, stillHeld⟩ :=
        write_other checked e.2 snapshot brings
      have none_moved : ∀ r', movedBy s.store (requestStep rt s.store e.1) r' = 0 := by
        intro r'
        rw [counted, if_neg fun ⟨unpaid, paid, _⟩ => unpaid (wasPaid paid)]
      refine namedOnce_write inv found rows (fun paid => ?_)
        (fun r' old => by rw [noted]; exact old) (fun r' => Nat.le_add_right _ _)
        (fun r' here => ?_) (fun r' positive => .inl ?_) fun r' => ?_
      · obtain ⟨isHeld, r, is, inside⟩ := inv.paid row.uuid row found (wasPaid paid)
        exact ⟨stillHeld isHeld paid, r, by rw [sameReference, is], by rw [noted]; exact inside⟩
      · rw [none_moved, Nat.add_zero]
        rw [noted] at here
        exact inv.moved row.uuid row found r' here
      · rwa [none_moved, Nat.add_zero] at positive
      · rw [none_moved, Nat.add_zero]
        exact inv.once r'

/-- **A step is as promised exactly when it is sound.** -/
theorem paymentStep_iff_sound {rt : Runtime} {s : Tracked} {e : PaymentEvent}
    (inv : NamedOnce s) : PaymentStep rt s e ↔ Sound rt s e := by
  constructor
  · intro step plan res t went r brings row snapshot
    rcases requestStep_cases rt s.store e.1 with ⟨-, unread⟩ | ⟨plan', res', t', row', went',
      snapshot', checked, -, found, written⟩
    · rw [unread plan res t went] at snapshot
      exact absurd snapshot (by simp)
    obtain ⟨rfl, -, rfl⟩ : plan' = plan ∧ res' = res ∧ t' = t := by
      simpa using went'.symm.trans went
    obtain rfl := Option.some.inj (snapshot'.symm.trans snapshot)
    obtain ⟨-, isPaid, named, -⟩ := write_confirmation snapshot brings
    have rows := find?_written written snapshot found
    by_cases paid : row'.paymentStatus = .paid
    · obtain ⟨isHeld, -⟩ := inv.paid row'.uuid row' found paid
      have here : (trackedStep rt s e).store.recordRequests.find? row'.uuid =
          some (plan'.write row') := by
        show (requestStep rt s.store e.1).recordRequests.find? _ = _
        rw [rows, if_pos rfl]
      refine .inl ⟨paid, ?_⟩
      rw [← step.kept row'.uuid row' _ found isHeld here, named]
    · refine .inr ⟨paid, fun other inside noted => ?_⟩
      have before := inv.moved other.uuid other (Table.find?_eq_some.mpr ⟨inside, rfl⟩) r noted
      have counted : movedBy s.store (requestStep rt s.store e.1) r = 1 := by
        have moved := movedBy_written written snapshot found r
        rw [if_pos ⟨paid, isPaid, named⟩] at moved
        exact moved
      have atMost := step.once r
      unfold trackedStep at atMost
      simp only [counted] at atMost
      omega
  · intro sound
    refine ⟨(namedOnce_step inv sound).once, fun id row row' found isHeld here => ?_⟩
    have here : (requestStep rt s.store e.1).recordRequests.find? id = some row' := here
    rcases requestStep_cases rt s.store e.1 with ⟨⟨same, -, -⟩, -⟩ | ⟨plan, res, t, target, went,
      snapshot, checked, -, there, written⟩
    · rw [same, found] at here
      rw [Option.some.inj here]
    · rw [find?_written written snapshot there id] at here
      split at here
      · rename_i is
        rw [is, there] at found
        obtain rfl := Option.some.inj found
        rw [← Option.some.inj here]
        cases brings : reference plan with
        | none => exact (write_other checked e.2 snapshot brings).1
        | some r =>
          rw [(write_confirmation snapshot brings).2.2.1]
          rcases sound plan res t went r brings target snapshot with ⟨-, again⟩ | ⟨unpaid, -⟩
          · exact again.symm
          · exact absurd (by simpa using (Bool.and_eq_true_iff.mp isHeld).1) unpaid
      · rw [found] at here
        rw [Option.some.inj here]

/-- **The exact condition.** From a store where no request is paid and no timeline names a
reference, every step of a run is as promised exactly when every confirmation that goes through is
of a new charge, or repeats that of its request. -/
theorem paymentStep_iff (rt : Runtime) (s : Store) (events : List PaymentEvent)
    (unpaid : ∀ row ∈ s.recordRequests.rows,
      row.paymentStatus ≠ .paid ∧ references row.notes = []) :
    Along (trackedStep rt) (PaymentStep rt) ⟨s, fun _ => 0⟩ events ↔
      Along (trackedStep rt) (Sound rt) ⟨s, fun _ => 0⟩ events := by
  have start : NamedOnce ⟨s, fun _ => 0⟩ := by
    refine ⟨fun id row found paid => ?_, fun id row found r inside => ?_, fun r positive => ?_,
      fun _ => Nat.zero_le _⟩
    · exact absurd paid (unpaid row (Table.find?_mem found)).1
    · rw [(unpaid row (Table.find?_mem found)).2] at inside
      exact absurd inside (by simp)
    · exact absurd positive (by simp)
  have keeps : ∀ t e, NamedOnce t → Sound rt t e → NamedOnce (trackedStep rt t e) :=
    fun _ _ => namedOnce_step
  have exact_step : ∀ t e, NamedOnce t → (PaymentStep rt t e ↔ Sound rt t e) :=
    fun _ _ => paymentStep_iff_sound
  exact along_iff_of_exact keeps exact_step start events

/-! ### Charges -/

/-- A manual confirmation of the whole amount under a reference. -/
def byHand (reference : String) : PaymentEvent :=
  ⟨⟨.confirm (envOf 1) reviewer transcriptRequest.uuid
    (.obj [("paymentReference", .str reference), ("amountMinor", .num 5000)]), []⟩, rfl⟩

/-- The job of a charge of the whole amount under a reference. -/
def byJob (reference : String) : PaymentEvent :=
  ⟨⟨.payment (envOf 2) (chargeJob transcriptRequest.uuid reference 5000), []⟩, rfl⟩

/-- A charge, its replay and its confirmation by hand: the request is moved once. -/
theorem paymentStep_iff_replayed :
    Along (trackedStep .plain) (PaymentStep .plain) ⟨storeOf transcriptRequest, fun _ => 0⟩
        [byJob "PSK-001", byJob "PSK-001", byHand "PSK-001"] ∧
      (runs (trackedStep .plain) ⟨storeOf transcriptRequest, fun _ => 0⟩
        [byJob "PSK-001", byJob "PSK-001", byHand "PSK-001"]).moves "PSK-001" = 1 :=
  ⟨(paymentStep_iff .plain (storeOf transcriptRequest) _ (by decide)).mpr (by decide +kernel),
    by decide +kernel⟩

/-- **Not every run is as promised**: a second charge, confirmed by hand, takes the place of the one
that is held. -/
theorem paymentStep_fails :
    ¬ ∀ (rt : Runtime) (s : Store) (events : List PaymentEvent),
      (∀ row ∈ s.recordRequests.rows,
        row.paymentStatus ≠ .paid ∧ references row.notes = []) →
      Along (trackedStep rt) (PaymentStep rt) ⟨s, fun _ => 0⟩ events := by
  intro all
  have steps := all .plain (storeOf transcriptRequest) [byHand "PSK-001", byHand "PSK-002"]
    (by decide)
  have first : ((trackedStep .plain ⟨storeOf transcriptRequest, fun _ => 0⟩
      (byHand "PSK-001")).store.recordRequests.find? transcriptRequest.uuid).any
        (fun row => held row && row.paymentReference == some "PSK-001") = true := by
    decide
  have second : ((runs (trackedStep .plain) ⟨storeOf transcriptRequest, fun _ => 0⟩
      [byHand "PSK-001", byHand "PSK-002"]).store.recordRequests.find? transcriptRequest.uuid).any
        (fun row => row.paymentReference == some "PSK-002") = true := by
    decide
  obtain ⟨row, found, before⟩ := (Option.any_eq_true _ _).mp first
  obtain ⟨row', found', after⟩ := (Option.any_eq_true _ _).mp second
  obtain ⟨isHeld, one⟩ := Bool.and_eq_true_iff.mp before
  have same := steps.2.1.kept transcriptRequest.uuid row row' found isHeld found'
  rw [beq_iff_eq.mp one, beq_iff_eq.mp after] at same
  exact absurd same (by decide)

end AcadID.References
