/-
**How long a failed job waits for its next attempt.**

* `delayMs` — the delay doubles with every attempt up to the longest one, and a random jitter is
  added to it; all of it is arithmetic of binary64.
* `exponentialDelay_eq` — the doubling is exact: no attempt is late by a rounding.
* `delayMs_iff` — **for every type of job and every number of attempts the delay is at least a
  second, at most the longest one with its jitter, and does not fall as attempts grow** exactly when
  the random source does not return `NaN`.
-/

import AcadID.Lib.FloatingPoint
import AcadID.Platform.Queue

namespace AcadID

open Lib Lib.FloatingPoint

namespace RetryPolicyService

/-! ### The policies -/

structure RetryPolicy where
  maxAttempts : ℕ
  baseDelayMs : ℕ
  maxDelayMs : ℕ
  jitterRatio : ℚ

def minute : ℕ := 60 * 1000

def defaultPolicy : RetryPolicy where
  maxAttempts := 3
  baseDelayMs := 30 * 1000
  maxDelayMs := 15 * minute
  jitterRatio := 0.2

/-- `policies[type] ?? defaultPolicy`, where `policies` has every type. -/
def policyFor : BackgroundJobType → RetryPolicy
  | .bulkStudentUpload | .resultBatchValidation =>
    { defaultPolicy with maxAttempts := 3, baseDelayMs := 20 * 1000, maxDelayMs := 10 * minute }
  | .credentialGeneration | .pdfGeneration | .pushNotification =>
    { defaultPolicy with maxAttempts := 5, baseDelayMs := 30 * 1000, maxDelayMs := 20 * minute }
  | .smsEmailDelivery =>
    { defaultPolicy with maxAttempts := 5, baseDelayMs := 45 * 1000, maxDelayMs := 30 * minute }
  | .paystackPaymentConfirmation =>
    { defaultPolicy with maxAttempts := 10, baseDelayMs := minute, maxDelayMs := 60 * minute }
  | .recordRequestDeadline =>
    { defaultPolicy with maxAttempts := 4, baseDelayMs := 2 * minute, maxDelayMs := 30 * minute }
  | .webhookDelivery | .liveResultsCallback =>
    { defaultPolicy with maxAttempts := 8, baseDelayMs := 30 * 1000, maxDelayMs := 30 * minute }
  | .examBodyIngest =>
    { defaultPolicy with maxAttempts := 8, baseDelayMs := minute, maxDelayMs := 45 * minute }
  | .rateLimitBucketCleanup | .idempotencyRecordCleanup =>
    { maxAttempts := 2, baseDelayMs := 5 * minute, maxDelayMs := 15 * minute, jitterRatio := 0.1 }

/-- The attempts that the queue gives a job are its policy's. -/
theorem maxAttempts_policyFor (type : BackgroundJobType) :
    (policyFor type).maxAttempts = Queue.maxAttemptsFor type := by
  cases type <;> rfl

/-! ### The delay -/

/-- `Math.min(policy.maxDelayMs, policy.baseDelayMs * 2 ** exponent)`, with the exponent
`Math.max(0, attempts - 1)`. -/
def exponentialDelay (policy : RetryPolicy) (attempts : ℤ) : Double :=
  Double.min (.ofRat policy.maxDelayMs)
    (Double.mul (.ofRat policy.baseDelayMs) (Double.twoPow (attempts - 1).toNat))

def boundedRandom (random : Double) : Double :=
  Double.min (.finite 1) (Double.max (.finite 0) random)

def jitterMs (delayMs : Double) (jitterRatio : ℚ) (random : Double) : Double :=
  Double.round (Double.mul (Double.mul delayMs (.ofRat jitterRatio)) (boundedRandom random))

/-- The delay after so many attempts, where the random source returns `random`. -/
def delayMs (type : BackgroundJobType) (attempts : ℤ) (random : Double) : Double :=
  let policy := policyFor type
  let exponentialDelay := exponentialDelay policy attempts
  Double.max (.finite 1000) (Double.round
    (Double.add exponentialDelay (jitterMs exponentialDelay policy.jitterRatio random)))

/-- The time of the next attempt; `none` is an invalid date. -/
def nextRunAfter (type : BackgroundJobType) (attempts : ℤ) (now : Time) (random : Double) :
    Option Time :=
  match delayMs type attempts random with
  | .finite ms => some (now + ⌊ms⌋)
  | _ => none

/-! ### The property -/

/-- At least a second, and at most the longest delay with its jitter. -/
def Within (policy : RetryPolicy) (delay : Double) : Prop :=
  ∃ ms : ℚ, delay = .finite ms ∧ 1000 ≤ ms ∧
    ms ≤ policy.maxDelayMs * (1 + policy.jitterRatio)

/-- The longest jitter, in whole milliseconds. -/
def RetryPolicy.longestJitter (policy : RetryPolicy) : ℕ :=
  ⌊policy.maxDelayMs * policy.jitterRatio⌋₊

/-- What the arithmetic takes from the numbers of a policy. -/
structure Sound (policy : RetryPolicy) : Prop where
  base_pos : 0 < policy.baseDelayMs
  base_few : policy.baseDelayMs < 2 ^ 53
  second : 1000 ≤ policy.maxDelayMs
  ratio_nonneg : 0 ≤ policy.jitterRatio
  ratio_le : policy.jitterRatio ≤ 1
  whole : policy.longestJitter = policy.maxDelayMs * policy.jitterRatio
  /-- The longest jitter is what it is without rounding. -/
  rounds : jitterMs (.finite policy.maxDelayMs) policy.jitterRatio (.finite 1) =
    .finite policy.longestJitter
  longest_few : policy.maxDelayMs + policy.longestJitter < 2 ^ 53

theorem sound_policyFor (type : BackgroundJobType) : Sound (policyFor type) := by
  cases type <;>
    exact ⟨by decide, by decide, by decide, by decide +kernel, by decide +kernel, by decide +kernel,
      by decide +kernel, by decide +kernel⟩

section Arithmetic

variable {policy : RetryPolicy}

theorem Sound.max_few (sound : Sound policy) : policy.maxDelayMs < 2 ^ 53 :=
  lt_of_le_of_lt (Nat.le_add_right ..) sound.longest_few

/-! ### The doubling -/

/-- A doubled delay that is too long is cut, also where it is infinite. -/
theorem min_doubled {longest base : ℕ} (few : longest < 2 ^ 53) (some : 0 < base) {k : ℕ}
    (long : longest ≤ base * 2 ^ k) :
    Double.min (.finite longest) (Double.mul (.finite base) (Double.twoPow k)) =
      .finite longest := by
  have positive : (0 : ℚ) < base := Nat.cast_pos.mpr some
  rw [Double.twoPow_eq]
  split_ifs
  · refine Double.min_ofRat few ?_
    exact_mod_cast long
  · show Double.min (.finite longest) (if (base : ℚ) = 0 then .nan
      else .infinite (false != decide ((base : ℚ) < 0))) = _
    rw [if_neg positive.ne', decide_eq_false (not_lt.mpr positive.le)]
    rfl

/-- **The doubling is exact.** -/
theorem exponentialDelay_eq (sound : Sound policy) (attempts : ℤ) :
    exponentialDelay policy attempts =
      .finite (min policy.maxDelayMs (policy.baseDelayMs * 2 ^ (attempts - 1).toNat) : ℕ) := by
  unfold exponentialDelay
  rw [Double.ofRat_natCast sound.max_few, Double.ofRat_natCast sound.base_few]
  rcases le_or_gt policy.maxDelayMs (policy.baseDelayMs * 2 ^ (attempts - 1).toNat) with long | short
  · rw [min_doubled sound.max_few sound.base_pos long, min_eq_left long]
  · have few := short.trans sound.max_few
    have power : 2 ^ (attempts - 1).toNat < 2 ^ 53 :=
      (Nat.le_mul_of_pos_left _ sound.base_pos).trans_lt few
    have small : (attempts - 1).toNat < 1024 :=
      ((Nat.pow_lt_pow_iff_right (by decide)).mp power).trans (by decide)
    have product : (policy.baseDelayMs : ℚ) * 2 ^ (attempts - 1).toNat =
        (policy.baseDelayMs * 2 ^ (attempts - 1).toNat : ℕ) := by
      push_cast
      rfl
    rw [Double.twoPow_eq, if_pos small, min_eq_right short.le]
    show Double.min _ (Double.ofRat (_ * _)) = _
    rw [product, Double.ofRat_natCast few]
    show Double.finite (min _ _) = _
    rw [min_eq_right (Nat.cast_le.mpr short.le)]

/-! ### The jitter and the delay, once the random number is bounded -/

/-- The jitter of a delay `d` at the random number `r`, in whole milliseconds. -/
def jitter (ratio d r : ℚ) : ℤ :=
  ⌊Double.format.nearest (Double.format.nearest (d * Double.format.nearest ratio) * r) + 1 / 2⌋

/-- The delay with its jitter. -/
def jittered (ratio d r : ℚ) : ℤ :=
  ⌊Double.format.nearest (d + jitter ratio d r) + 1 / 2⌋

/-- A number from 0 to 1. -/
theorem boundedRandom_eq {random : Double} (number : random ≠ .nan) :
    ∃ r : ℚ, boundedRandom random = .finite r ∧ 0 ≤ r ∧ r ≤ 1 := by
  cases random with
  | nan => exact absurd rfl number
  | infinite negative =>
    cases negative
    · exact ⟨1, rfl, zero_le_one, le_rfl⟩
    · refine ⟨min 1 0, rfl, ?_, min_le_left 1 0⟩
      rw [min_eq_right zero_le_one]
  | finite q =>
    exact ⟨min 1 (max 0 q), rfl, le_min zero_le_one (le_max_left 0 q), min_le_left _ _⟩

theorem ratio_rounded (sound : Sound policy) :
    0 ≤ Double.format.nearest policy.jitterRatio ∧
      Double.format.nearest policy.jitterRatio ≤ 1 := by
  have one := Format.nearest_le_natCast Double.format (n := 1) (by decide)
    sound.ratio_nonneg (by exact_mod_cast sound.ratio_le)
  exact ⟨Double.format.nearest_nonneg sound.ratio_nonneg, by exact_mod_cast one⟩

section Jitter

variable {d d' r r' : ℚ}

/-- What is scaled down stays within its bounds when it is rounded. -/
theorem nearest_mul_le {n : ℕ} (few : n < 2 ^ 53) {a b : ℚ} (nonneg : 0 ≤ a) (le : a ≤ n)
    (b_nonneg : 0 ≤ b) (b_le : b ≤ 1) :
    Double.ofRat (a * b) = .finite (Double.format.nearest (a * b)) ∧
      0 ≤ Double.format.nearest (a * b) ∧ Double.format.nearest (a * b) ≤ n := by
  have product : 0 ≤ a * b := mul_nonneg nonneg b_nonneg
  have below : a * b ≤ n := (mul_le_of_le_one_right nonneg b_le).trans le
  exact ⟨Double.ofRat_of_le few product below, Double.format.nearest_nonneg product,
    Format.nearest_le_natCast Double.format few product below⟩

theorem jitterMs_eq (sound : Sound policy) (nonneg : 0 ≤ d) (le : d ≤ policy.maxDelayMs)
    {random : Double} (bounded : boundedRandom random = .finite r) (r_nonneg : 0 ≤ r)
    (r_le : r ≤ 1) :
    jitterMs (.finite d) policy.jitterRatio random = .finite (jitter policy.jitterRatio d r) := by
  obtain ⟨ratio_nonneg, ratio_le⟩ := ratio_rounded sound
  obtain ⟨scaled, scaled_nonneg, scaled_le⟩ :=
    nearest_mul_le sound.max_few nonneg le ratio_nonneg ratio_le
  obtain ⟨drawn, -, -⟩ := nearest_mul_le sound.max_few scaled_nonneg scaled_le r_nonneg r_le
  have ratio : Double.ofRat policy.jitterRatio =
      .finite (Double.format.nearest policy.jitterRatio) :=
    Double.ofRat_of_le (n := 1) (by decide) sound.ratio_nonneg (by exact_mod_cast sound.ratio_le)
  unfold jitterMs
  rw [bounded, ratio]
  show Double.round (Double.mul (Double.ofRat (d * _)) (.finite r)) = _
  rw [scaled]
  show Double.round (Double.ofRat (_ * r)) = _
  rw [drawn]
  rfl

/-- A longer delay has no shorter jitter, nor has a higher random number. -/
theorem jitter_mono (sound : Sound policy) (nonneg : 0 ≤ d) (le : d ≤ d') (r_nonneg : 0 ≤ r)
    (r_le : r ≤ r') : jitter policy.jitterRatio d r ≤ jitter policy.jitterRatio d' r' := by
  have ratio_nonneg := (ratio_rounded sound).1
  have scaled := Format.nearest_mono Double.format
    (mul_nonneg nonneg ratio_nonneg) (mul_le_mul_of_nonneg_right le ratio_nonneg)
  have scaled_nonneg := Double.format.nearest_nonneg (mul_nonneg nonneg ratio_nonneg)
  unfold jitter
  refine Int.floor_mono (add_le_add_left ?_ _)
  exact Format.nearest_mono Double.format (mul_nonneg scaled_nonneg r_nonneg)
    (mul_le_mul scaled r_le r_nonneg (scaled_nonneg.trans scaled))

theorem jitter_nonneg (sound : Sound policy) (nonneg : 0 ≤ d) (r_nonneg : 0 ≤ r) :
    0 ≤ jitter policy.jitterRatio d r := by
  have scaled_nonneg := Double.format.nearest_nonneg
    (mul_nonneg nonneg (ratio_rounded sound).1)
  have drawn := Double.format.nearest_nonneg (mul_nonneg scaled_nonneg r_nonneg)
  unfold jitter
  exact Int.floor_nonneg.mpr (by linarith)

/-- **The jitter is at most the longest one.** -/
theorem jitter_le (sound : Sound policy) (nonneg : 0 ≤ d) (le : d ≤ policy.maxDelayMs)
    (r_nonneg : 0 ≤ r) (r_le : r ≤ 1) :
    jitter policy.jitterRatio d r ≤ policy.longestJitter := by
  have longest := jitterMs_eq sound (Nat.cast_nonneg policy.maxDelayMs) le_rfl
    (show boundedRandom (.finite 1) = .finite 1 by decide) zero_le_one le_rfl
  rw [sound.rounds] at longest
  have same : (policy.longestJitter : ℚ) = jitter policy.jitterRatio policy.maxDelayMs 1 :=
    Double.finite.inj longest
  calc jitter policy.jitterRatio d r ≤ jitter policy.jitterRatio policy.maxDelayMs 1 :=
        jitter_mono sound nonneg le r_nonneg r_le
    _ = policy.longestJitter := by exact_mod_cast same.symm

/-- The delay and its jitter, from zero to the longest ones. -/
theorem sum_bounds (sound : Sound policy) (nonneg : 0 ≤ d) (le : d ≤ policy.maxDelayMs)
    (r_nonneg : 0 ≤ r) (r_le : r ≤ 1) :
    0 ≤ d + jitter policy.jitterRatio d r ∧
      d + jitter policy.jitterRatio d r ≤ (policy.maxDelayMs + policy.longestJitter : ℕ) := by
  have low : (0 : ℚ) ≤ jitter policy.jitterRatio d r :=
    Int.cast_nonneg (jitter_nonneg sound nonneg r_nonneg)
  have high : (jitter policy.jitterRatio d r : ℚ) ≤ policy.longestJitter := by
    exact_mod_cast jitter_le sound nonneg le r_nonneg r_le
  push_cast
  exact ⟨add_nonneg nonneg low, add_le_add le high⟩

theorem jittered_mono (sound : Sound policy) (nonneg : 0 ≤ d) (le : d ≤ d')
    (r_nonneg : 0 ≤ r) : jittered policy.jitterRatio d r ≤ jittered policy.jitterRatio d' r := by
  have low : (0 : ℚ) ≤ jitter policy.jitterRatio d r :=
    Int.cast_nonneg (jitter_nonneg sound nonneg r_nonneg)
  have jitters : (jitter policy.jitterRatio d r : ℚ) ≤ jitter policy.jitterRatio d' r :=
    Int.cast_le.mpr (jitter_mono sound nonneg le r_nonneg le_rfl)
  unfold jittered
  refine Int.floor_mono (add_le_add_left ?_ _)
  exact Format.nearest_mono Double.format (add_nonneg nonneg low) (add_le_add le jitters)

theorem jittered_le (sound : Sound policy) (nonneg : 0 ≤ d) (le : d ≤ policy.maxDelayMs)
    (r_nonneg : 0 ≤ r) (r_le : r ≤ 1) :
    jittered policy.jitterRatio d r ≤ policy.maxDelayMs + policy.longestJitter := by
  obtain ⟨low, high⟩ := sum_bounds sound nonneg le r_nonneg r_le
  have rounded := Format.nearest_le_natCast Double.format sound.longest_few low high
  have half : ⌊((policy.maxDelayMs + policy.longestJitter : ℕ) : ℚ) + 1 / 2⌋ =
      policy.maxDelayMs + policy.longestJitter := by
    rw [Int.floor_eq_iff]
    push_cast
    constructor
    · linarith
    · linarith
  unfold jittered
  rw [← half]
  exact Int.floor_mono (add_le_add_left rounded _)

end Jitter

/-! ### The delay -/

/-- **The delay**, where the random source returns a number. -/
theorem delayMs_eq (type : BackgroundJobType) (attempts : ℤ) {random : Double} {r : ℚ}
    (bounded : boundedRandom random = .finite r) (r_nonneg : 0 ≤ r) (r_le : r ≤ 1) :
    delayMs type attempts random = .finite (max 1000 (jittered (policyFor type).jitterRatio
      (min (policyFor type).maxDelayMs
        ((policyFor type).baseDelayMs * 2 ^ (attempts - 1).toNat) : ℕ) r : ℤ)) := by
  have sound := sound_policyFor type
  have le : ((min (policyFor type).maxDelayMs
      ((policyFor type).baseDelayMs * 2 ^ (attempts - 1).toNat) : ℕ) : ℚ) ≤
        (policyFor type).maxDelayMs := Nat.cast_le.mpr (min_le_left _ _)
  obtain ⟨low, high⟩ := sum_bounds sound (Nat.cast_nonneg _) le r_nonneg r_le
  unfold delayMs
  dsimp only
  rw [exponentialDelay_eq sound, jitterMs_eq sound (Nat.cast_nonneg _) le bounded r_nonneg r_le]
  show Double.max _ (Double.round (Double.ofRat (_ + _))) = _
  rw [Double.ofRat_of_le sound.longest_few low high]
  show Double.finite (max 1000 _) = _
  push_cast
  rfl

theorem delayMs_nan (type : BackgroundJobType) (attempts : ℤ) :
    delayMs type attempts .nan = .nan := by
  have bounded : boundedRandom .nan = .nan := rfl
  unfold delayMs jitterMs
  dsimp only
  rw [bounded, Double.mul_nan]
  show Double.max _ (Double.round (Double.add _ .nan)) = _
  rw [Double.add_nan]
  rfl

theorem delayMs_within (type : BackgroundJobType) (attempts : ℤ) {random : Double}
    (number : random ≠ .nan) : Within (policyFor type) (delayMs type attempts random) := by
  have sound := sound_policyFor type
  obtain ⟨r, bounded, r_nonneg, r_le⟩ := boundedRandom_eq number
  refine ⟨_, delayMs_eq type attempts bounded r_nonneg r_le, ?_, ?_⟩
  · exact_mod_cast le_max_left (1000 : ℤ) _
  · have high := jittered_le sound (Nat.cast_nonneg _)
      (Nat.cast_le.mpr (min_le_left (policyFor type).maxDelayMs
        ((policyFor type).baseDelayMs * 2 ^ (attempts - 1).toNat))) r_nonneg r_le
    have second := sound.second
    rw [mul_add, mul_one, ← sound.whole]
    exact_mod_cast max_le (by omega) high

theorem delayMs_mono (type : BackgroundJobType) {attempts later : ℤ} (le : attempts ≤ later)
    {random : Double} (number : random ≠ .nan) :
    Double.le (delayMs type attempts random) (delayMs type later random) := by
  obtain ⟨r, bounded, r_nonneg, r_le⟩ := boundedRandom_eq number
  rw [delayMs_eq type attempts bounded r_nonneg r_le, delayMs_eq type later bounded r_nonneg r_le]
  have exponents : (attempts - 1).toNat ≤ (later - 1).toNat := by omega
  have delays := min_le_min_left (policyFor type).maxDelayMs (Nat.mul_le_mul_left
    (policyFor type).baseDelayMs (Nat.pow_le_pow_right (show 0 < 2 by decide) exponents))
  show max (1000 : ℚ) _ ≤ max 1000 _
  refine max_le_max_left 1000 (Int.cast_le.mpr ?_)
  exact jittered_mono (sound_policyFor type) (Nat.cast_nonneg _) (Nat.cast_le.mpr delays) r_nonneg

/-- **The next attempt is at least a second away**, and at most the longest delay. -/
theorem nextRunAfter_bounds (type : BackgroundJobType) (attempts : ℤ) (now : Time)
    {random : Double} (number : random ≠ .nan) :
    ∃ next, nextRunAfter type attempts now random = some next ∧ now + 1000 ≤ next ∧
      (next : ℚ) ≤ now + (policyFor type).maxDelayMs * (1 + (policyFor type).jitterRatio) := by
  obtain ⟨ms, is, low, high⟩ := delayMs_within type attempts number
  refine ⟨now + ⌊ms⌋, ?_, ?_, ?_⟩
  · unfold nextRunAfter
    rw [is]
  · have whole : 1000 ≤ ⌊ms⌋ := Int.le_floor.mpr (by exact_mod_cast low)
    exact Int.add_le_add_left whole now
  · have whole := Int.floor_le ms
    push_cast
    linarith

/-- **The delay is at least a second, at most the longest one with its jitter, and does not fall as
attempts grow**, for every number of attempts, exactly when the random source returns a number. -/
theorem delayMs_iff (type : BackgroundJobType) (random : Double) :
    ((∀ attempts, Within (policyFor type) (delayMs type attempts random)) ∧
      ∀ attempts later, attempts ≤ later →
        Double.le (delayMs type attempts random) (delayMs type later random)) ↔
      random ≠ .nan := by
  constructor
  · rintro ⟨within, -⟩ rfl
    obtain ⟨ms, is, -⟩ := within 1
    rw [delayMs_nan] at is
    exact absurd is (by simp)
  · intro number
    exact ⟨fun attempts => delayMs_within type attempts number,
      fun attempts later le => delayMs_mono type le number⟩

/-- **A source that returns `NaN` passes the bounds of the jitter**, and the delay is `NaN`. -/
theorem delayMs_fails :
    ¬ ∀ (type : BackgroundJobType) (random : Double),
        (∀ attempts, Within (policyFor type) (delayMs type attempts random)) ∧
          ∀ attempts later, attempts ≤ later →
            Double.le (delayMs type attempts random) (delayMs type later random) := by
  intro all
  obtain ⟨ms, is, -⟩ := (all .webhookDelivery .nan).1 1
  rw [show delayMs .webhookDelivery 1 .nan = .nan from delayMs_nan _ _] at is
  exact absurd is (by simp)

end Arithmetic

end RetryPolicyService

end AcadID
