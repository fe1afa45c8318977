/-
**The emergency cap: how often a caller is let through within one minute of the clock.**

* `assertRequestAllowed` — a request under its route's policy: whose request it is
  (`keyForRequest`), and the limit and window that apply (`effectiveRequestPolicy`).
* `limiterStep` — a run of requests and of API keys' requests, under one stored policy.
* `windowsOf` — how many windows of a length a minute meets; the cap bounds each of them.
* `capped_iff` — **nobody is let through more often than the emergency limit in any minute of any
  run** exactly when the limit of a window, times the windows that a minute meets, is within it, and
  API keys have a limit.
-/

import AcadID.Platform.Admissions

namespace AcadID

open Lib

namespace RateLimit

/-! ### Whose request it is -/

inductive RateLimitKeyStrategy where
  | ip
  | auth
  | ipAndBody
deriving DecidableEq

structure RateLimitPolicy where
  scope : String
  limit : ℤ
  windowSeconds : Option ℤ
  key : Option RateLimitKeyStrategy
  bodyField : Option String
deriving DecidableEq

inductive HeaderValue where
  | one (value : String)
  | many (values : List String)

/-- What the limiter reads of a request; `apiKeyId` and `sub` are of `request.auth`. -/
structure RateLimitRequest where
  headers : List (String × HeaderValue)
  body : Option Json
  ip : Option String
  remoteAddress : Option String
  apiKeyId : Option String
  sub : Option String

def firstHeader : Option HeaderValue → Option String
  | none => none
  | some (.one value) => some value
  | some (.many values) => values.head?

/-- A text that is there and not empty. -/
def filled (text : Option String) : Option String :=
  text.filter (· ≠ "")

def ipAddress (request : RateLimitRequest) : String :=
  let forwarded := (firstHeader (request.headers.lookup "x-forwarded-for")).bind fun header =>
    (Text.splitOn ',' header).head?.map Text.trim
  ((filled forwarded).or ((filled (firstHeader (request.headers.lookup "x-real-ip"))).or
    ((filled request.ip).or (filled request.remoteAddress)))).getD "unknown"

def readBodyField (rt : Runtime) (body : Option Json) (field : String) : String :=
  match (Json.obj (objectFields body)).get? field with
  | some (.str value) => Text.slice 254 (rt.toLowerCase (Text.trim value))
  | _ => ""

def keyForRequest (rt : Runtime) (request : RateLimitRequest) (policy : RateLimitPolicy) : String :=
  match policy.key.getD .ip with
  | .auth =>
    match filled request.apiKeyId, filled request.sub with
    | some apiKeyId, _ => "api-key:" ++ apiKeyId
    | none, some sub => "user:" ++ sub
    | none, none => "ip:" ++ ipAddress request
  | .ipAndBody =>
    let bodyValue := ((filled policy.bodyField).map (readBodyField rt request.body)).getD ""
    "ip-body:" ++ ipAddress request ++ ":" ++ (filled (some bodyValue)).getD "none"
  | .ip => "ip:" ++ ipAddress request

/-! ### The limit that applies -/

structure EffectivePolicy where
  scope : String
  limit : ℚ
  windowSeconds : ℤ

def effectiveRequestPolicy (policy : RateLimitPolicy) (control : RateLimitPolicyControl) :
    EffectivePolicy :=
  let override := control.scopeOverrides.lookup policy.scope
  let limit := (override.map (·.limit)).getD policy.limit
  { scope := policy.scope
    limit := applyEmergencyCap limit control
    windowSeconds := (override.map (·.windowSeconds)).getD (policy.windowSeconds.getD 60) }

/-- One more request under its route's policy; the limits of routes are whole numbers. -/
def assertRequestAllowed (rt : Runtime) (env : LimitEnv) (request : RateLimitRequest)
    (policy : RateLimitPolicy) (cache : PolicyCache) (s : Store) :
    Except ServiceError Unit × PolicyCache × Store :=
  let (control, cache) := readPolicyControl rt env.now env.read cache s
  let effective := effectiveRequestPolicy policy control
  let (allowed, s) := assertAllowed rt effective.scope (keyForRequest rt request policy)
    effective.limit.num effective.windowSeconds env.now env.write s
  (allowed, cache, s)

/-! ### A run of the limiter -/

/-- The limiter of a process, and the store. -/
structure Limiter where
  cache : PolicyCache
  store : Store

inductive LimiterCall where
  | request (now : Time) (request : RateLimitRequest) (policy : RateLimitPolicy)
  | apiKey (now : Time) (payload : Json)

def LimiterCall.time : LimiterCall → Time
  | .request now _ _ => now
  | .apiKey now _ => now

def callEnv (now : Time) : LimitEnv :=
  ⟨now, .done, .done⟩

/-- Whether a call is let through, and the limiter after it. -/
def limiterStep (rt : Runtime) (limiter : Limiter) : LimiterCall → Bool × Limiter
  | .request now request policy =>
    let after :=
      assertRequestAllowed rt (callEnv now) request policy limiter.cache limiter.store
    (after.1.isOk, ⟨after.2.1, after.2.2⟩)
  | .apiKey now payload =>
    let after := assertApiKeyAllowed rt (callEnv now) payload limiter.cache limiter.store
    (after.1.isOk, ⟨after.2.1, after.2.2⟩)

def decisions (rt : Runtime) : Limiter → List LimiterCall → List (LimiterCall × Bool)
  | _, [] => []
  | limiter, call :: calls =>
    let after := limiterStep rt limiter call
    (call, after.1) :: decisions rt after.2 calls

/-- The policy that the stored setting stands for. -/
def control (rt : Runtime) (stored : Json) : RateLimitPolicyControl :=
  normalisePolicyControl rt (some stored)

/-- The policy is the stored one, and the only one that the limiter has read. -/
structure Follows (rt : Runtime) (stored : Json) (limiter : Limiter) : Prop where
  setting : (limiter.store.platformSettings.find? "rateLimits").map (·.value) = some stored
  cached : ∀ entry ∈ limiter.cache, entry.1 = control rt stored

/-- The minute of the clock that an instant falls into. -/
def minuteOf (now : Time) : ℤ :=
  windowOf 60000 now

/-- Whether a call is made under the policy, with the key. -/
def ofCaller (rt : Runtime) (policy : RateLimitPolicy) (key : String) : LimiterCall → Bool
  | .request _ request under => decide (under = policy ∧ keyForRequest rt request policy = key)
  | .apiKey _ _ => false

/-- Whether a call is the API key's. -/
def ofApiKey (auth : ApiKeyAuth) : LimiterCall → Bool
  | .request _ _ _ => false
  | .apiKey _ payload => decide (apiKeyAuth payload = some auth)

/-- How many of a caller's calls are let through within a minute. -/
def admittedIn (mine : LimiterCall → Bool) (minute : ℤ) (decided : List (LimiterCall × Bool)) : ℕ :=
  decided.countP fun call => call.2 && mine call.1 && decide (minuteOf call.1.time = minute)

/-! ### What a call leaves -/

section Step

variable {rt : Runtime} {stored : Json}

theorem readPolicyControl_follows {limiter : Limiter} (follows : Follows rt stored limiter)
    (now : Time) :
    (readPolicyControl rt now .done limiter.cache limiter.store).1 =
        control rt stored ∧
      ∀ entry ∈ (readPolicyControl rt now .done limiter.cache limiter.store).2,
        entry.1 = control rt stored := by
  unfold readPolicyControl
  cases kept : limiter.cache.filter fun cached => now < cached.2 with
  | some cached =>
    have there := (Option.filter_eq_some_iff.mp kept).1
    exact ⟨follows.cached cached there, follows.cached⟩
  | none =>
    dsimp only
    rw [follows.setting]
    refine ⟨rfl, fun entry there => ?_⟩
    cases there
    rfl

/-- What a call leaves of the store: it is counted in a bucket, or nothing has changed. -/
theorem limiterStep_store (rt : Runtime) (limiter : Limiter) (call : LimiterCall) :
    (limiterStep rt limiter call).2.store = limiter.store ∨
      ∃ scope key limit windowSeconds now, (limiterStep rt limiter call).2.store =
        countRequest rt scope key limit windowSeconds now limiter.store := by
  cases call with
  | request now request policy =>
    refine Or.inr ⟨_, _, _, _, _, rfl⟩
  | apiKey now payload =>
    unfold limiterStep assertApiKeyAllowed
    dsimp only
    cases apiKeyAuth payload with
    | none => exact Or.inl rfl
    | some auth =>
      dsimp only
      cases configuredLimit auth _ with
      | none => exact Or.inl rfl
      | some configured =>
        dsimp only
        split_ifs
        · exact Or.inr ⟨_, _, _, _, _, rfl⟩
        · exact Or.inl rfl

theorem limiterStep_cache {limiter : Limiter} (follows : Follows rt stored limiter)
    (call : LimiterCall) : ∀ entry ∈ (limiterStep rt limiter call).2.cache,
      entry.1 = control rt stored := by
  cases call with
  | request now request policy => exact (readPolicyControl_follows follows now).2
  | apiKey now payload =>
    have read := (readPolicyControl_follows follows now).2
    unfold limiterStep assertApiKeyAllowed
    dsimp only [callEnv]
    cases apiKeyAuth payload with
    | none => exact follows.cached
    | some auth =>
      dsimp only
      cases configuredLimit auth _ with
      | none => exact read
      | some configured =>
        dsimp only
        split_ifs
        · exact read
        · exact read

theorem follows_limiterStep {limiter : Limiter} (follows : Follows rt stored limiter)
    (call : LimiterCall) : Follows rt stored (limiterStep rt limiter call).2 where
  setting := by
    rcases limiterStep_store rt limiter call with same | ⟨_, _, _, _, _, counted⟩
    · rw [same]
      exact follows.setting
    · rw [counted]
      exact follows.setting
  cached := limiterStep_cache follows call

/-- No call takes anything out of a bucket. -/
theorem windowCount_limiterStep (rt : Runtime) (scope key : String) (windowSeconds window : ℤ)
    (limiter : Limiter) (call : LimiterCall) :
    windowCount rt scope key windowSeconds limiter.store window ≤
      windowCount rt scope key windowSeconds (limiterStep rt limiter call).2.store window := by
  rcases limiterStep_store rt limiter call with same | ⟨_, _, _, _, _, counted⟩
  · rw [same]
  · rw [counted, windowCount_after]
    split_ifs <;> omega

/-! ### The bound of one window -/

/-- **Calls that count in a key's bucket and are let through only up to a bound are let through at
most that often in one window.** -/
theorem admitted_in_window {scope key : String} {windowSeconds bound : ℤ}
    (mine : LimiterCall → Bool)
    (counts : ∀ limiter call, Follows rt stored limiter → mine call = true →
      (limiterStep rt limiter call).1 = true →
      let window := windowOf (windowSeconds * 1000) call.time
      windowCount rt scope key windowSeconds limiter.store window + 1 ≤ bound ∧
        windowCount rt scope key windowSeconds (limiterStep rt limiter call).2.store window =
          windowCount rt scope key windowSeconds limiter.store window + 1)
    (window : ℤ) {limiter : Limiter} (follows : Follows rt stored limiter)
    (calls : List LimiterCall) :
    ((decisions rt limiter calls).countP (fun decided => decided.2 && mine decided.1 &&
      decide (windowOf (windowSeconds * 1000) decided.1.time = window)) : ℤ) ≤
      max 0 (bound - windowCount rt scope key windowSeconds limiter.store window) := by
  induction calls generalizing limiter with
  | nil => exact le_max_left 0 _
  | cons call calls ih =>
    have rest := ih (follows_limiterStep follows call)
    have grows := windowCount_limiterStep rt scope key windowSeconds window limiter call
    unfold decisions
    dsimp only
    rw [List.countP_cons]
    by_cases picked : ((limiterStep rt limiter call).1 && mine call &&
        decide (windowOf (windowSeconds * 1000) call.time = window)) = true
    · obtain ⟨both, here⟩ := Bool.and_eq_true_iff.mp picked
      obtain ⟨admitted, own⟩ := Bool.and_eq_true_iff.mp both
      have counted := counts limiter call follows own admitted
      rw [of_decide_eq_true here] at counted
      rw [if_pos picked]
      push_cast
      omega
    · rw [if_neg picked]
      push_cast
      omega

/-- A request is decided under the stored policy. -/
theorem limiterStep_request {limiter : Limiter} (follows : Follows rt stored limiter) (now : Time)
    (request : RateLimitRequest) (policy : RateLimitPolicy) :
    let effective := effectiveRequestPolicy policy (control rt stored)
    let after := assertAllowed rt policy.scope (keyForRequest rt request policy)
      effective.limit.num effective.windowSeconds now .done limiter.store
    (limiterStep rt limiter (.request now request policy)).1 = after.1.isOk ∧
      (limiterStep rt limiter (.request now request policy)).2.store = after.2 := by
  have read := (readPolicyControl_follows follows now).1
  unfold limiterStep assertRequestAllowed
  dsimp only [callEnv]
  rw [read]
  exact ⟨rfl, rfl⟩

theorem assertAllowed_done (rt : Runtime) (scope key : String) (limit windowSeconds : ℤ)
    (now : Time) (s : Store) :
    (assertAllowed rt scope key limit windowSeconds now .done s).1.isOk =
        decide (nextCount rt scope key windowSeconds now s ≤ limit) ∧
      (assertAllowed rt scope key limit windowSeconds now .done s).2 =
        countRequest rt scope key limit windowSeconds now s := by
  refine ⟨?_, rfl⟩
  unfold assertAllowed
  dsimp only
  by_cases exceeds : limit < nextCount rt scope key windowSeconds now s
  · rw [if_pos exceeds, decide_eq_false (not_le.mpr exceeds)]
    rfl
  · rw [if_neg exceeds, decide_eq_true (not_lt.mp exceeds)]
    rfl

/-- What a request that is let through counts in its own window. -/
theorem counted_of_admitted {scope key : String} {limit windowSeconds : ℤ}
    (positive : 0 < windowSeconds) {now : Time} {s : Store}
    (admitted : (assertAllowed rt scope key limit windowSeconds now .done s).1.isOk = true) :
    windowCount rt scope key windowSeconds s (windowOf (windowSeconds * 1000) now) + 1 ≤ limit ∧
      windowCount rt scope key windowSeconds
          (assertAllowed rt scope key limit windowSeconds now .done s).2
          (windowOf (windowSeconds * 1000) now) =
        windowCount rt scope key windowSeconds s (windowOf (windowSeconds * 1000) now) + 1 := by
  obtain ⟨decided, counted⟩ := assertAllowed_done rt scope key limit windowSeconds now s
  rw [decided] at admitted
  refine ⟨of_decide_eq_true admitted, ?_⟩
  rw [counted, windowCount_after, if_pos]
  exact (bucketKey_eq_windowKey rt scope key positive now _).mpr rfl

end Step

/-! ### Windows and minutes -/

/-- How many windows of the length the minute meets. -/
def windowsOf (windowSeconds minute : ℤ) : ℕ :=
  (windowOf (windowSeconds * 1000) (minute * 60000 + 59999) -
    windowOf (windowSeconds * 1000) (minute * 60000) + 1).toNat

/-- The windows that the minute meets. -/
def windowList (windowSeconds minute : ℤ) : List ℤ :=
  (List.range (windowsOf windowSeconds minute)).map fun i : ℕ =>
    windowOf (windowSeconds * 1000) (minute * 60000) + (i : ℤ)

theorem minuteOf_eq (now minute : ℤ) :
    minuteOf now = minute ↔ minute * 60000 ≤ now ∧ now ≤ minute * 60000 + 59999 := by
  unfold minuteOf windowOf
  omega

theorem windowOf_mem_windowList {windowSeconds : ℤ} (positive : 0 < windowSeconds) {now minute : ℤ}
    (inside : minuteOf now = minute) :
    windowOf (windowSeconds * 1000) now ∈ windowList windowSeconds minute := by
  obtain ⟨after, before⟩ := (minuteOf_eq now minute).mp inside
  have wide : 0 < windowSeconds * 1000 := by omega
  have low := windowOf_mono wide after
  have high := windowOf_mono wide before
  unfold windowList windowsOf
  refine List.mem_map.mpr ⟨(windowOf (windowSeconds * 1000) now -
    windowOf (windowSeconds * 1000) (minute * 60000)).toNat, List.mem_range.mpr ?_, ?_⟩
  · omega
  · omega

theorem length_windowList (windowSeconds minute : ℤ) :
    (windowList windowSeconds minute).length = windowsOf windowSeconds minute := by
  unfold windowList
  rw [List.length_map, List.length_range]

/-- A minute is one window of a minute. -/
theorem windowsOf_minute (minute : ℤ) : windowsOf 60 minute = 1 := by
  unfold windowsOf windowOf
  omega

/-! ### The bound of one minute -/

section Capped

variable (rt : Runtime) (stored : Json)

/-- The limit of one window of a route. -/
def routeLimit (policy : RateLimitPolicy) : ℤ :=
  (effectiveRequestPolicy policy (control rt stored)).limit.num

def routeWindow (policy : RateLimitPolicy) : ℤ :=
  (effectiveRequestPolicy policy (control rt stored)).windowSeconds

/-- **No caller of the route is let through more often than the emergency limit in any minute.** -/
def CappedRoute (policy : RateLimitPolicy) : Prop :=
  ∀ limiter, Follows rt stored limiter → limiter.store.rateLimitBuckets.rows = [] →
    ∀ calls key minute,
      (admittedIn (ofCaller rt policy key) minute (decisions rt limiter calls) : ℤ) ≤
        (control rt stored).emergency.limitPerMinute

/-- **The API key is not let through more often than the emergency limit in any minute.** -/
def CappedKey (auth : ApiKeyAuth) : Prop :=
  ∀ limiter, Follows rt stored limiter → limiter.store.rateLimitBuckets.rows = [] →
    ∀ calls minute, (admittedIn (ofApiKey auth) minute (decisions rt limiter calls) : ℤ) ≤
      (control rt stored).emergency.limitPerMinute

variable {rt stored}

theorem windowCount_of_unused {limiter : Limiter}
    (unused : limiter.store.rateLimitBuckets.rows = []) (scope key : String)
    (windowSeconds window : ℤ) :
    windowCount rt scope key windowSeconds limiter.store window = 0 := by
  have none_there : limiter.store.rateLimitBuckets.find?
      (windowKey rt scope key windowSeconds window) = none := by
    refine Table.find?_eq_none.mpr fun bucket there => ?_
    rw [unused] at there
    exact absurd there List.not_mem_nil
  unfold windowCount
  rw [none_there]
  rfl

/-- What is bounded in every window is bounded in a minute, by the windows that it meets. -/
theorem admittedIn_le {limiter : Limiter} (follows : Follows rt stored limiter)
    (unused : limiter.store.rateLimitBuckets.rows = []) (scope key : String)
    {windowSeconds bound : ℤ} (positive : 0 < windowSeconds) (mine : LimiterCall → Bool)
    (counts : ∀ limiter call, Follows rt stored limiter → mine call = true →
      (limiterStep rt limiter call).1 = true →
      let window := windowOf (windowSeconds * 1000) call.time
      windowCount rt scope key windowSeconds limiter.store window + 1 ≤ bound ∧
        windowCount rt scope key windowSeconds (limiterStep rt limiter call).2.store window =
          windowCount rt scope key windowSeconds limiter.store window + 1)
    (calls : List LimiterCall) (minute : ℤ) :
    admittedIn mine minute (decisions rt limiter calls) ≤
      windowsOf windowSeconds minute * bound.toNat := by
  rw [← length_windowList]
  refine countP_le_of_windows (fun decided => windowOf (windowSeconds * 1000) decided.1.time)
    bound.toNat _ _ _ (fun decided picked => ?_) fun window => ?_
  · exact windowOf_mem_windowList positive
      (of_decide_eq_true (Bool.and_eq_true_iff.mp picked).2)
  · have bounded := admitted_in_window mine counts window follows calls
    rw [windowCount_of_unused unused, sub_zero] at bounded
    have fewer : (decisions rt limiter calls).countP (fun decided =>
        (decided.2 && mine decided.1 && decide (minuteOf decided.1.time = minute)) &&
          decide (windowOf (windowSeconds * 1000) decided.1.time = window)) ≤
        (decisions rt limiter calls).countP (fun decided => decided.2 && mine decided.1 &&
          decide (windowOf (windowSeconds * 1000) decided.1.time = window)) := by
      refine List.countP_mono_left fun decided _ picked => ?_
      obtain ⟨both, here⟩ := Bool.and_eq_true_iff.mp picked
      rw [(Bool.and_eq_true_iff.mp both).1, here]
      rfl
    omega

theorem cappedRoute_of_windows {policy : RateLimitPolicy}
    (positive : 0 < routeWindow rt stored policy)
    (capped : 0 ≤ (control rt stored).emergency.limitPerMinute)
    (fits : ∀ minute,
      windowsOf (routeWindow rt stored policy) minute * routeLimit rt stored policy ≤
        (control rt stored).emergency.limitPerMinute) : CappedRoute rt stored policy := by
  intro limiter follows unused calls key minute
  have counts : ∀ limiter call, Follows rt stored limiter → ofCaller rt policy key call = true →
      (limiterStep rt limiter call).1 = true →
      let window := windowOf (routeWindow rt stored policy * 1000) call.time
      windowCount rt policy.scope key (routeWindow rt stored policy) limiter.store window + 1 ≤
          routeLimit rt stored policy ∧
        windowCount rt policy.scope key (routeWindow rt stored policy)
            (limiterStep rt limiter call).2.store window =
          windowCount rt policy.scope key (routeWindow rt stored policy) limiter.store window +
            1 := by
    intro limiter call follows own admitted
    cases call with
    | apiKey now payload => exact absurd own Bool.false_ne_true
    | request now request under =>
      obtain ⟨rfl, rfl⟩ := of_decide_eq_true own
      obtain ⟨decided, left⟩ := limiterStep_request follows now request under
      rw [decided] at admitted
      rw [left]
      exact counted_of_admitted positive admitted
  have bounded := admittedIn_le follows unused policy.scope key positive _ counts calls minute
  have enough := fits minute
  rcases le_or_gt 0 (routeLimit rt stored policy) with whole | none
  · have cast : ((routeLimit rt stored policy).toNat : ℤ) = routeLimit rt stored policy :=
      Int.toNat_of_nonneg whole
    rw [← cast] at enough
    exact_mod_cast (Int.ofNat_le.mpr bounded).trans (by exact_mod_cast enough)
  · have nothing : (routeLimit rt stored policy).toNat = 0 := Int.toNat_of_nonpos none.le
    rw [nothing, Nat.mul_zero, Nat.le_zero] at bounded
    rw [bounded]
    exact capped

/-! ### A minute that uses each of its windows -/

/-- One caller's requests are decided as a counter per window does. -/
theorem decisions_of_caller {policy : RateLimitPolicy} (positive : 0 < routeWindow rt stored policy)
    (request : RateLimitRequest) {limiter : Limiter} (follows : Follows rt stored limiter)
    {seen : ℤ → ℕ} (counted : ∀ window, windowCount rt policy.scope
      (keyForRequest rt request policy) (routeWindow rt stored policy) limiter.store window =
        seen window) (times : List Time) :
    decisions rt limiter (times.map fun now => .request now request policy) =
      (firstComers (windowOf (routeWindow rt stored policy * 1000))
        (routeLimit rt stored policy).toNat seen times).map fun decided =>
          (.request decided.1 request policy, decided.2) := by
  induction times generalizing limiter seen with
  | nil => rfl
  | cons now times ih =>
    obtain ⟨decided, left⟩ := limiterStep_request follows now request policy
    obtain ⟨allowed, store⟩ := assertAllowed_done rt policy.scope (keyForRequest rt request policy)
      (routeLimit rt stored policy) (routeWindow rt stored policy) now limiter.store
    unfold firstComers
    rw [List.map_cons, List.map_cons]
    unfold decisions
    dsimp only
    have here := counted (windowOf (routeWindow rt stored policy * 1000) now)
    have same : (limiterStep rt limiter (.request now request policy)).1 =
        decide (seen (windowOf (routeWindow rt stored policy * 1000) now) <
          (routeLimit rt stored policy).toNat) := by
      refine decided.trans (allowed.trans (decide_eq_decide.mpr ?_))
      rw [nextCount_eq, here]
      omega
    rw [same, ih (follows_limiterStep follows _)]
    intro window
    rw [left.trans store, windowCount_after, counted window]
    by_cases own : window = windowOf (routeWindow rt stored policy * 1000) now
    · rw [if_pos ((bucketKey_eq_windowKey rt _ _ positive now window).mpr own), own,
        Function.update_self]
      push_cast
      rfl
    · rw [if_neg fun keys => own ((bucketKey_eq_windowKey rt _ _ positive now window).mp keys),
        Function.update_of_ne own, add_zero]

/-- An instant of the minute in a window that the minute meets. -/
def instantIn (windowSeconds minute window : ℤ) : Time :=
  max (minute * 60000) (window * (windowSeconds * 1000))

theorem instantIn_spec {windowSeconds : ℤ} (positive : 0 < windowSeconds) {minute window : ℤ}
    (meets : window ∈ windowList windowSeconds minute) :
    windowOf (windowSeconds * 1000) (instantIn windowSeconds minute window) = window ∧
      minuteOf (instantIn windowSeconds minute window) = minute := by
  have wide : 0 < windowSeconds * 1000 := by omega
  obtain ⟨i, inside, rfl⟩ := List.mem_map.mp meets
  have listed := List.mem_range.mp inside
  unfold windowsOf at listed
  set width := windowSeconds * 1000 with width_eq
  set first := windowOf width (minute * 60000) with first_eq
  have last_le : (first + i) * width ≤ minute * 60000 + 59999 :=
    (mul_le_mul_of_nonneg_right
      (show first + i ≤ windowOf width (minute * 60000 + 59999) by omega) wide.le).trans
      (Int.ediv_mul_le (minute * 60000 + 59999) wide.ne')
  have start_lt : minute * 60000 < (first + 1) * width := Int.lt_ediv_add_one_mul_self _ wide
  have before : minute * 60000 < (first + i + 1) * width :=
    start_lt.trans_le (mul_le_mul_of_nonneg_right (by omega) wide.le)
  unfold instantIn
  rw [← width_eq, minuteOf_eq]
  refine ⟨?_, by omega⟩
  unfold windowOf
  rw [Int.ediv_eq_iff_of_pos wide]
  rw [add_one_mul] at before
  refine ⟨le_max_right _ _, ?_⟩
  rcases max_choice (minute * 60000) ((first + i) * width) with same | same
  · rw [same]
    linarith
  · rw [same]
    linarith

/-- `limit` requests in each window that the minute meets. -/
def busyMinute (windowSeconds minute : ℤ) (limit : ℕ) : List Time :=
  (windowList windowSeconds minute).flatMap fun window =>
    List.replicate limit (instantIn windowSeconds minute window)

theorem length_busyMinute (windowSeconds minute : ℤ) (limit : ℕ) :
    (busyMinute windowSeconds minute limit).length = windowsOf windowSeconds minute * limit := by
  unfold busyMinute
  rw [List.length_flatMap, ← length_windowList]
  simp

theorem nodup_windowList (windowSeconds minute : ℤ) : (windowList windowSeconds minute).Nodup := by
  unfold windowList
  refine List.nodup_range.map fun i j same => ?_
  omega

/-- Each window has at most `limit` of the requests of a busy minute. -/
theorem busyMinute_window {windowSeconds : ℤ} (positive : 0 < windowSeconds) (minute window : ℤ)
    (limit : ℕ) : (busyMinute windowSeconds minute limit).countP (fun now =>
      windowOf (windowSeconds * 1000) now = window) ≤ limit := by
  have each : ∀ windows : List ℤ, windows.Nodup →
      (∀ w ∈ windows, w ∈ windowList windowSeconds minute) →
      (windows.flatMap fun w => List.replicate limit (instantIn windowSeconds minute w)).countP
        (fun now => windowOf (windowSeconds * 1000) now = window) ≤
          if window ∈ windows then limit else 0 := by
    intro windows nodup among
    induction windows with
    | nil => exact Nat.le_refl 0
    | cons w windows ih =>
      obtain ⟨fresh, rest⟩ := List.nodup_cons.mp nodup
      have later := ih rest fun v listed => among v (List.mem_cons_of_mem w listed)
      have own := (instantIn_spec positive (among w List.mem_cons_self)).1
      rw [List.flatMap_cons, List.countP_append, List.countP_replicate, own]
      by_cases here : w = window
      · rw [if_neg (here ▸ fresh)] at later
        rw [if_pos (decide_eq_true here), if_pos (here ▸ List.mem_cons_self)]
        omega
      · rw [if_neg (by simpa using here), Nat.zero_add]
        refine later.trans ?_
        split_ifs with listed now_listed
        · exact le_rfl
        · exact absurd (List.mem_cons_of_mem w listed) now_listed
        · exact Nat.zero_le _
        · exact le_rfl
  have bound := each _ (nodup_windowList windowSeconds minute) fun _ listed => listed
  refine bound.trans ?_
  split_ifs
  · exact le_rfl
  · exact Nat.zero_le _

/-- The store with the stored policy and no buckets. -/
def settingOnly (stored : Json) : Store :=
  { Store.empty with platformSettings := ⟨[⟨"rateLimits", stored⟩], List.nodup_singleton _⟩ }

def freshLimiter (stored : Json) : Limiter :=
  ⟨none, settingOnly stored⟩

theorem follows_freshLimiter : Follows rt stored (freshLimiter stored) where
  setting := rfl
  cached := fun _ there => absurd there.symm (Option.some_ne_none _)

theorem windows_of_cappedRoute {policy : RateLimitPolicy}
    (positive : 0 < routeWindow rt stored policy)
    (nonneg : 0 ≤ (control rt stored).emergency.limitPerMinute)
    (capped : CappedRoute rt stored policy) (minute : ℤ) :
    windowsOf (routeWindow rt stored policy) minute * routeLimit rt stored policy ≤
      (control rt stored).emergency.limitPerMinute := by
  rcases le_or_gt (routeLimit rt stored policy) 0 with none | some
  · refine le_trans ?_ nonneg
    exact mul_nonpos_of_nonneg_of_nonpos (Int.natCast_nonneg _) none
  · let request : RateLimitRequest := ⟨[], none, none, none, none, none⟩
    let times :=
      busyMinute (routeWindow rt stored policy) minute (routeLimit rt stored policy).toNat
    let key := keyForRequest rt request policy
    have unused : ∀ window, windowCount rt policy.scope key (routeWindow rt stored policy)
        (freshLimiter stored).store window = ((fun _ => 0 : ℤ → ℕ) window : ℤ) :=
      windowCount_of_unused rfl policy.scope key (routeWindow rt stored policy)
    have decided := decisions_of_caller positive request follows_freshLimiter unused times
    have everyone := all_admitted (windowOf (routeWindow rt stored policy * 1000))
      (routeLimit rt stored policy).toNat (fun _ => 0) times fun window => by
        rw [Nat.zero_add]
        exact busyMinute_window positive minute window _
    have bound := capped (freshLimiter stored) follows_freshLimiter rfl
      (times.map fun now => .request now request policy) key minute
    have within : ∀ now ∈ times, minuteOf now = minute := by
      intro now listed
      obtain ⟨window, met, copies⟩ := List.mem_flatMap.mp listed
      rw [List.eq_of_mem_replicate copies]
      exact (instantIn_spec positive met).2
    have all : admittedIn (ofCaller rt policy key) minute
        (decisions rt (freshLimiter stored) (times.map fun now => .request now request policy)) =
          times.length := by
      rw [decided, everyone, List.map_map]
      unfold admittedIn
      rw [List.countP_map, List.countP_eq_length]
      intro now listed
      show (true && decide (policy = policy ∧ key = key) && decide (minuteOf now = minute)) = true
      rw [within now listed]
      simp
    rw [all, length_busyMinute] at bound
    push_cast at bound
    rwa [Int.toNat_of_nonneg some.le] at bound

/-! ### API keys -/

theorem le_isInt {limit : ℚ} (whole : limit.isInt = true) {bound : ℤ} (within : limit ≤ bound) :
    limit.num ≤ bound := by
  have same : (limit.num : ℚ) = limit := Rat.eq_num_of_isInt whole ▸ rfl
  rw [← same] at within
  exact_mod_cast within

theorem cappedKey_of_limit {auth : ApiKeyAuth} (enabled : (control rt stored).emergency.enabled)
    (nonneg : 0 ≤ (control rt stored).emergency.limitPerMinute)
    (limited : configuredLimit auth (control rt stored) ≠ none) : CappedKey rt stored auth := by
  intro limiter follows unused calls minute
  have counts : ∀ limiter call, Follows rt stored limiter → ofApiKey auth call = true →
      (limiterStep rt limiter call).1 = true →
      let window := windowOf (60 * 1000) call.time
      windowCount rt apiKeyScope (apiKeyBucket auth) 60 limiter.store window + 1 ≤
          (control rt stored).emergency.limitPerMinute ∧
        windowCount rt apiKeyScope (apiKeyBucket auth) 60 (limiterStep rt limiter call).2.store
            window =
          windowCount rt apiKeyScope (apiKeyBucket auth) 60 limiter.store window + 1 := by
    intro limiter call follows own admitted
    cases call with
    | request now request under => exact absurd own Bool.false_ne_true
    | apiKey now payload =>
      have key := of_decide_eq_true own
      have read := (readPolicyControl_follows follows now).1
      obtain ⟨configured, found⟩ := Option.ne_none_iff_exists'.mp limited
      unfold limiterStep assertApiKeyAllowed at admitted ⊢
      dsimp only [callEnv] at admitted ⊢
      rw [key] at admitted ⊢
      dsimp only at admitted ⊢
      rw [read] at admitted ⊢
      rw [found] at admitted ⊢
      dsimp only at admitted ⊢
      split_ifs at admitted ⊢ with whole
      · have counted := counted_of_admitted (by decide) admitted
        refine ⟨counted.1.trans (le_isInt whole ?_), counted.2⟩
        unfold applyEmergencyCap
        rw [if_pos enabled]
        exact min_le_right _ _
      · exact absurd admitted Bool.false_ne_true
  have bounded := admittedIn_le follows unused apiKeyScope (apiKeyBucket auth) (by decide) _ counts
    calls minute
  rw [windowsOf_minute, Nat.one_mul] at bounded
  omega

/-- A key without a limit is let through each time. -/
theorem decisions_of_unlimited {payload : Json} {auth : ApiKeyAuth}
    (given : apiKeyAuth payload = some auth)
    (unlimited : configuredLimit auth (control rt stored) = none) (n : ℕ) {limiter : Limiter}
    (follows : Follows rt stored limiter) :
    decisions rt limiter (List.replicate n (.apiKey 0 payload)) =
      List.replicate n (.apiKey 0 payload, true) := by
  induction n generalizing limiter with
  | zero => rfl
  | succ n ih =>
    have through : (limiterStep rt limiter (.apiKey 0 payload)).1 = true := by
      have read := (readPolicyControl_follows follows 0).1
      unfold limiterStep assertApiKeyAllowed
      dsimp only [callEnv]
      rw [given]
      dsimp only
      rw [read, unlimited]
      rfl
    rw [List.replicate_succ, List.replicate_succ]
    unfold decisions
    dsimp only
    rw [through, ih (follows_limiterStep follows _)]

theorem limit_of_cappedKey {payload : Json} {auth : ApiKeyAuth}
    (given : apiKeyAuth payload = some auth) (capped : CappedKey rt stored auth) :
    configuredLimit auth (control rt stored) ≠ none := by
  intro unlimited
  let often := (control rt stored).emergency.limitPerMinute.toNat + 1
  have bound := capped (freshLimiter stored) follows_freshLimiter rfl
    (List.replicate often (.apiKey 0 payload)) 0
  have all : admittedIn (ofApiKey auth) 0
      (decisions rt (freshLimiter stored) (List.replicate often (.apiKey 0 payload))) = often := by
    rw [decisions_of_unlimited given unlimited often follows_freshLimiter]
    unfold admittedIn
    rw [List.countP_replicate, if_pos]
    show (true && decide (apiKeyAuth payload = some auth) && decide (minuteOf 0 = 0)) = true
    rw [decide_eq_true given]
    rfl
  rw [all] at bound
  have exceeds : (control rt stored).emergency.limitPerMinute < often := by
    show _ < (((control rt stored).emergency.limitPerMinute.toNat + 1 : ℕ) : ℤ)
    omega
  omega

/-! ### The bounds of a stored policy -/

/-- Every override has a window of at least a second. -/
theorem windowSeconds_of_override (value : Option Json) :
    ∀ field ∈ normaliseScopeOverrides rt value, 0 < field.2.windowSeconds := by
  unfold normaliseScopeOverrides
  refine List.foldlRecOn (motive := fun result : List (String × ScopeLimit) =>
    ∀ field ∈ result, 0 < field.2.windowSeconds) _ _
    (fun _ listed => absurd listed List.not_mem_nil) ?_
  intro result kept field _
  split
  · split_ifs
    · exact kept
    · intro entry listed
      rcases mem_setField listed with there | new
      · exact kept entry there
      · rw [new]
        exact le_clampNumber _ (by decide) (by decide)
  · exact kept

theorem routeWindow_pos {policy : RateLimitPolicy} (positive : 0 < policy.windowSeconds.getD 60) :
    0 < routeWindow rt stored policy := by
  unfold routeWindow effectiveRequestPolicy
  dsimp only
  cases found : (control rt stored).scopeOverrides.lookup policy.scope with
  | none => exact positive
  | some override =>
    obtain ⟨before, after, fields, _⟩ := List.lookup_eq_some_iff.mp found
    have listed : (policy.scope, override) ∈ (control rt stored).scopeOverrides := by
      rw [fields]
      exact List.mem_append_right before List.mem_cons_self
    exact windowSeconds_of_override _ _ listed

theorem emergency_nonneg : 0 ≤ (control rt stored).emergency.limitPerMinute :=
  (show (0 : ℤ) ≤ 1 by decide).trans (le_clampNumber _ (by decide) (by decide))

/-- **No caller of the route and no API key is let through more often than the emergency limit in
any minute of any run** exactly when the limit of a window of the route, times the windows that a
minute meets, is never more than that, and the API key has a limit. -/
theorem capped_iff (enabled : (control rt stored).emergency.enabled) (policy : RateLimitPolicy)
    (positive : 0 < policy.windowSeconds.getD 60) {payload : Json} {auth : ApiKeyAuth}
    (given : apiKeyAuth payload = some auth) :
    CappedRoute rt stored policy ∧ CappedKey rt stored auth ↔
      (∀ minute, windowsOf (routeWindow rt stored policy) minute * routeLimit rt stored policy ≤
        (control rt stored).emergency.limitPerMinute) ∧
      configuredLimit auth (control rt stored) ≠ none := by
  have window : 0 < routeWindow rt stored policy := routeWindow_pos positive
  constructor
  · rintro ⟨route, key⟩
    exact ⟨windows_of_cappedRoute window emergency_nonneg route, limit_of_cappedKey given key⟩
  · rintro ⟨fits, limited⟩
    exact ⟨cappedRoute_of_windows window emergency_nonneg fits,
      cappedKey_of_limit enabled emergency_nonneg limited⟩

end Capped

/-! ### One-minute and one-second windows -/

/-- Emergency mode at five requests per minute, and `verify.bulk` counted by the second. -/
def emergencySetting : Json :=
  .obj
    [("emergency", .obj [("enabled", .bool true), ("limitPerMinute", .num 5)]),
      ("scopeOverrides",
        .obj [("verify.bulk", .obj [("limit", .num 100), ("windowSeconds", .num 1)])])]

def publicPolicy : RateLimitPolicy :=
  ⟨"verify.public", 120, some 60, some .ip, none⟩

def bulkPolicy : RateLimitPolicy :=
  ⟨"verify.bulk", 20, some 60, some .ip, none⟩

def keyPayload : Json :=
  .obj [("kind", .str "API_KEY"), ("apiKeyId", .str "key-1"), ("rateLimitPerMinute", .num 100)]

def keyAuth : ApiKeyAuth :=
  ⟨"key-1", none, none, none, none, some 100⟩

theorem capped_publicPolicy :
    CappedRoute .plain emergencySetting publicPolicy ∧
      CappedKey .plain emergencySetting keyAuth := by
  have given : apiKeyAuth keyPayload = some keyAuth := by decide
  refine (capped_iff (by decide) publicPolicy (by decide) given).mpr
    ⟨fun minute => ?_, by decide⟩
  have window : routeWindow .plain emergencySetting publicPolicy = 60 := by decide
  rw [window, windowsOf_minute]
  decide

def fromHome : RateLimitRequest :=
  ⟨[], none, some "10.0.0.1", none, none, none⟩

/-- Five requests in one second, and one more in the next. -/
def sixRequests : List LimiterCall :=
  [0, 100, 200, 300, 400, 1000].map fun now => .request now fromHome bulkPolicy

theorem capped_fails : ¬ ∀ (stored : Json) (policy : RateLimitPolicy),
    (control .plain stored).emergency.enabled → 0 < policy.windowSeconds.getD 60 →
      CappedRoute .plain stored policy := by
  intro all
  have capped := all emergencySetting bulkPolicy (by decide) (by decide)
  have bound := capped (freshLimiter emergencySetting) follows_freshLimiter rfl sixRequests
    "ip:10.0.0.1" 0
  exact absurd bound (by decide)

end RateLimit

end AcadID
