/-
**One key's requests against a clean-up of the buckets.**

* `admissions` — a run of requests with one scope, key, limit and window, and of clean-ups, on one
  clock; what it decides of each request.
* `Counts` — every window that the clock has not passed has been counted in its bucket;
  `counts_call` and `counts_cleanup`: both kinds of step keep it.
* `admissions_eq` — **the run decides as a counter per window does**.
* `admitted_first` — so the first `limit` requests of each window are let through, and no other.
-/

import AcadID.Lib.Windows
import AcadID.Platform.RateLimit

namespace AcadID

open Lib

namespace RateLimit

/-! ### The bucket of a window -/

theorem windowStart_eq (now : Time) (windowSeconds : ℤ) :
    windowStart now windowSeconds = windowOf (windowSeconds * 1000) now * (windowSeconds * 1000) :=
  rfl

/-- The bucket of a window of the key. -/
def windowKey (rt : Runtime) (scope key : String) (windowSeconds window : ℤ) :
    String × String × Time :=
  (scope, rt.sha256 key, window * (windowSeconds * 1000))

/-- How many requests the bucket of a window has. -/
def windowCount (rt : Runtime) (scope key : String) (windowSeconds : ℤ) (s : Store) (window : ℤ) :
    ℤ :=
  ((s.rateLimitBuckets.find? (windowKey rt scope key windowSeconds window)).map (·.count)).getD 0

theorem nextCount_eq (rt : Runtime) (scope key : String) (windowSeconds : ℤ) (now : Time)
    (s : Store) : nextCount rt scope key windowSeconds now s =
      windowCount rt scope key windowSeconds s (windowOf (windowSeconds * 1000) now) + 1 :=
  rfl

/-- A request counts in its own bucket, and in no other. -/
theorem windowCount_after (rt : Runtime) (scope key : String) (windowSeconds window : ℤ)
    (other counted : String) (limit otherSeconds : ℤ) (now : Time) (s : Store) :
    windowCount rt scope key windowSeconds (countRequest rt other counted limit otherSeconds now s)
        window =
      windowCount rt scope key windowSeconds s window +
        if bucketKey rt other counted otherSeconds now =
          windowKey rt scope key windowSeconds window then 1 else 0 := by
  unfold windowCount countRequest
  dsimp only
  rw [Table.find?_upsert]
  change (Option.map _ (if bucketKey rt other counted otherSeconds now =
    windowKey rt scope key windowSeconds window then _ else _)).getD 0 = _
  by_cases same : bucketKey rt other counted otherSeconds now =
      windowKey rt scope key windowSeconds window
  · rw [if_pos same, if_pos same, ← same]
    rfl
  · rw [if_neg same, if_neg same, add_zero]

theorem bucketKey_eq_windowKey (rt : Runtime) (scope key : String) {windowSeconds : ℤ}
    (positive : 0 < windowSeconds) (now : Time) (window : ℤ) :
    bucketKey rt scope key windowSeconds now = windowKey rt scope key windowSeconds window ↔
      window = windowOf (windowSeconds * 1000) now := by
  refine ⟨fun same => ?_, fun here => by rw [here]; rfl⟩
  have starts : windowOf (windowSeconds * 1000) now * (windowSeconds * 1000) =
      window * (windowSeconds * 1000) := congrArg (fun bucket => bucket.2.2) same
  exact (mul_right_cancel₀ (by omega) starts).symm

theorem le_clampNumber (value : Option ℚ) {min max fallback : ℤ} (ordered : min ≤ max)
    (default : min ≤ fallback) : min ≤ clampNumber value min max fallback := by
  unfold clampNumber
  cases value with
  | none => exact default
  | some q => exact le_min ordered (le_max_left min ⌊q⌋)

/-- A clean-up leaves every bucket whose window started at most an hour ago. -/
theorem windowCount_cleanup (rt : Runtime) (scope key : String) (windowSeconds : ℤ)
    (olderThanHours : Option ℚ) (now : Time) (s : Store) {window : ℤ}
    (recent : now - 60 * 60 * 1000 ≤ window * (windowSeconds * 1000)) :
    windowCount rt scope key windowSeconds (cleanupExpiredBuckets olderThanHours now s) window =
      windowCount rt scope key windowSeconds s window := by
  unfold windowCount cleanupExpiredBuckets
  dsimp only
  rw [Table.find?_filter]
  cases found : s.rateLimitBuckets.find? (windowKey rt scope key windowSeconds window) with
  | none => rfl
  | some bucket =>
    have start : bucket.windowStart = window * (windowSeconds * 1000) :=
      congrArg (fun bucket => bucket.2.2) (Table.find?_key found)
    have hours : 1 ≤ clampNumber olderThanHours 1 720 24 :=
      le_clampNumber olderThanHours (by decide) (by decide)
    have early : cutoff olderThanHours now ≤ now - 60 * 60 * 1000 := by
      show now - clampNumber olderThanHours 1 720 24 * 60 * 60 * 1000 ≤ _
      linarith
    have kept : ¬ bucket.windowStart < cutoff olderThanHours now := by
      rw [start]
      exact not_lt.mpr (early.trans recent)
    rw [Option.filter_some, decide_eq_false kept]
    rfl

/-! ### The run -/

inductive LimiterEvent where
  | request (now : Time)
  | cleanup (now : Time) (olderThanHours : Option ℚ)

def LimiterEvent.time : LimiterEvent → Time
  | .request now => now
  | .cleanup now _ => now

/-- The requests of a run, in order. -/
def requestTimes : List LimiterEvent → List Time
  | [] => []
  | .request now :: events => now :: requestTimes events
  | .cleanup _ _ :: events => requestTimes events

/-- What a run decides of each of its requests. -/
def admissions (rt : Runtime) (scope key : String) (limit windowSeconds : ℤ) :
    Store → List LimiterEvent → List (Time × Bool)
  | _, [] => []
  | s, .request now :: events =>
    let after := assertAllowed rt scope key limit windowSeconds now .done s
    (now, after.1.isOk) :: admissions rt scope key limit windowSeconds after.2 events
  | s, .cleanup now olderThanHours :: events =>
    admissions rt scope key limit windowSeconds (cleanupExpiredBuckets olderThanHours now s) events

section Run

variable {rt : Runtime} {scope key : String} {limit windowSeconds : ℤ}

/-- Every window that the clock has not passed has been counted in its bucket. -/
def Counts (rt : Runtime) (scope key : String) (windowSeconds : ℤ) (seen : ℤ → ℕ) (clock : Time)
    (s : Store) : Prop :=
  ∀ window, windowOf (windowSeconds * 1000) clock ≤ window →
    windowCount rt scope key windowSeconds s window = seen window

theorem Counts.later {seen : ℤ → ℕ} {clock now : Time} {s : Store} (positive : 0 < windowSeconds)
    (after : clock ≤ now) (counts : Counts rt scope key windowSeconds seen clock s) :
    Counts rt scope key windowSeconds seen now s := by
  intro window ahead
  have wide : 0 < windowSeconds * 1000 := by omega
  exact counts window ((windowOf_mono wide after).trans ahead)

theorem counts_call {seen : ℤ → ℕ} {now : Time} {s : Store} (positive : 0 < windowSeconds)
    (counts : Counts rt scope key windowSeconds seen now s) :
    Counts rt scope key windowSeconds
      (Function.update seen (windowOf (windowSeconds * 1000) now)
        (seen (windowOf (windowSeconds * 1000) now) + 1)) now
      (countRequest rt scope key limit windowSeconds now s) := by
  intro window ahead
  rw [windowCount_after, counts window ahead]
  by_cases here : window = windowOf (windowSeconds * 1000) now
  · rw [if_pos ((bucketKey_eq_windowKey rt scope key positive now window).mpr here), here,
      Function.update_self]
    push_cast
    rfl
  · rw [if_neg fun same => here ((bucketKey_eq_windowKey rt scope key positive now window).mp same),
      Function.update_of_ne here, add_zero]

theorem counts_cleanup {seen : ℤ → ℕ} {now : Time} {s : Store} (positive : 0 < windowSeconds)
    (short : windowSeconds ≤ 3600) (olderThanHours : Option ℚ)
    (counts : Counts rt scope key windowSeconds seen now s) :
    Counts rt scope key windowSeconds seen now (cleanupExpiredBuckets olderThanHours now s) := by
  intro window ahead
  rw [windowCount_cleanup, counts window ahead]
  have wide : 0 < windowSeconds * 1000 := by omega
  have inside : now < (windowOf (windowSeconds * 1000) now + 1) * (windowSeconds * 1000) :=
    Int.lt_ediv_add_one_mul_self now wide
  have starts := mul_le_mul_of_nonneg_right ahead wide.le
  rw [add_one_mul] at inside
  linarith

theorem assertAllowed_isOk (limit : ℤ) {now : Time} {s : Store} {seen : ℤ → ℕ}
    (counts : Counts rt scope key windowSeconds seen now s) :
    (assertAllowed rt scope key limit windowSeconds now .done s).1.isOk =
      decide (seen (windowOf (windowSeconds * 1000) now) < limit.toNat) := by
  have counted := counts (windowOf (windowSeconds * 1000) now) le_rfl
  unfold assertAllowed
  dsimp only
  rw [nextCount_eq, counted]
  by_cases room : seen (windowOf (windowSeconds * 1000) now) < limit.toNat
  · rw [if_neg (by omega), decide_eq_true room]
    rfl
  · rw [if_pos (by omega), decide_eq_false room]
    rfl

/-- **A run decides as a counter per window does.** -/
theorem admissions_eq (positive : 0 < windowSeconds) (short : windowSeconds ≤ 3600)
    {seen : ℤ → ℕ} {clock : Time} {s : Store} {events : List LimiterEvent}
    (ordered : events.Pairwise fun first later => first.time ≤ later.time)
    (ahead : ∀ e ∈ events, clock ≤ e.time)
    (counts : Counts rt scope key windowSeconds seen clock s) :
    admissions rt scope key limit windowSeconds s events =
      firstComers (windowOf (windowSeconds * 1000)) limit.toNat seen (requestTimes events) := by
  induction events generalizing seen clock s with
  | nil => rfl
  | cons e events ih =>
    obtain ⟨first, rest⟩ := List.pairwise_cons.mp ordered
    have here := counts.later positive (ahead e List.mem_cons_self)
    cases e with
    | request now =>
      have decides := assertAllowed_isOk limit here
      unfold admissions requestTimes firstComers
      dsimp only [LimiterEvent.time] at decides ⊢
      rw [decides]
      congr 1
      exact ih rest first (counts_call positive here)
    | cleanup now olderThanHours =>
      exact ih rest first (counts_cleanup positive short olderThanHours here)

/-- **In each window the first requests are let through, up to the limit, and no other; so at most
twice the limit is let through in any interval as long as a window.** -/
theorem admitted_first (positive : 0 < windowSeconds) (short : windowSeconds ≤ 3600) {s : Store}
    (unused : ∀ bucket ∈ s.rateLimitBuckets.rows,
      ¬ (bucket.scope = scope ∧ bucket.bucketKeyHash = rt.sha256 key))
    {events : List LimiterEvent}
    (ordered : events.Pairwise fun first later => first.time ≤ later.time) :
    (∀ window, decisionsIn (windowOf (windowSeconds * 1000)) window
        (admissions rt scope key limit windowSeconds s events) =
      let requests := (requestTimes events).countP fun now =>
        windowOf (windowSeconds * 1000) now = window
      List.replicate (min limit.toNat requests) true ++
        List.replicate (requests - limit.toNat) false) ∧
      ∀ start, (admissions rt scope key limit windowSeconds s events).countP (fun request =>
        request.2 && decide (start ≤ request.1 ∧ request.1 ≤ start + windowSeconds * 1000)) ≤
          2 * limit.toNat := by
  have empty : ∀ clock, Counts rt scope key windowSeconds (fun _ => 0) clock s := by
    intro clock window _
    have none_there : s.rateLimitBuckets.find? (windowKey rt scope key windowSeconds window) =
        none := by
      refine Table.find?_eq_none.mpr fun bucket there same => unused bucket there ⟨?_, ?_⟩
      · exact congrArg (fun bucket => bucket.1) same
      · exact congrArg (fun bucket => bucket.2.1) same
    unfold windowCount
    rw [none_there]
    rfl
  have decided : admissions rt scope key limit windowSeconds s events =
      firstComers (windowOf (windowSeconds * 1000)) limit.toNat (fun _ => 0)
        (requestTimes events) := by
    cases events with
    | nil => rfl
    | cons e events =>
      refine admissions_eq positive short ordered (fun later listed => ?_) (empty e.time)
      rcases List.mem_cons.mp listed with rfl | after
      · exact le_rfl
      · exact (List.pairwise_cons.mp ordered).1 later after
  rw [decided]
  have wide : 0 < windowSeconds * 1000 := by omega
  refine ⟨fun window => ?_, fun start => ?_⟩
  · have each := decisions_of_window (windowOf (windowSeconds * 1000)) limit.toNat (fun _ => 0)
      (requestTimes events) window
    rwa [Nat.sub_zero] at each
  · refine admitted_le _ _ _ _
      (fun now => decide (start ≤ now ∧ now ≤ start + windowSeconds * 1000))
      [windowOf (windowSeconds * 1000) start, windowOf (windowSeconds * 1000) start + 1]
      fun now inside => ?_
    obtain ⟨after, before⟩ := of_decide_eq_true inside
    rcases windowOf_span wide after before with same | next
    · exact same ▸ List.mem_cons_self
    · exact next ▸ List.mem_cons_of_mem _ List.mem_cons_self

end Run

/-- Three requests of one minute and one of the next, with a clean-up between them. -/
def fourRequests : List LimiterEvent :=
  [.request 10000, .request 30000, .cleanup 40000 (some 1), .request 50000, .request 61000]

theorem admitted_first_fourRequests :
    decisionsIn (windowOf (60 * 1000)) 0
        (admissions .plain "verify.ain" "ip:127.0.0.1" 2 60 .empty fourRequests) =
      [true, true, false] :=
  (admitted_first (by decide) (by decide) (fun _ inside => absurd inside List.not_mem_nil)
    (by decide)).1 0

end RateLimit

end AcadID
