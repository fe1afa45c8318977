/-
**Rate limits: the policy that the platform stores, and the buckets that requests are counted in.**

* `normalisePolicyControl` — the policy that a stored value stands for, every limit within its
  bounds; `readPolicyControl` reads it through a cache of fifteen seconds.
* `assertAllowed` — one more request in the bucket of its window; it is refused when that makes more
  than the limit.
* `assertApiKeyAllowed_eq_ok` — **when an API key's request is let through**.
-/

import AcadID.Platform.Store

namespace AcadID

open Lib

namespace RateLimit

/-! ### The policy -/

structure EmergencyMode where
  enabled : Bool
  limitPerMinute : ℤ
  reason : Option String

structure ScopeLimit where
  limit : ℤ
  windowSeconds : ℤ

structure RateLimitPolicyControl where
  emergency : EmergencyMode
  productDefaultsPerMinute : List (String × ℤ)
  sandbox : ℤ
  production : ℤ
  institutionOverridesPerMinute : List (String × ℤ)
  scopeOverrides : List (String × ScopeLimit)

def defaultRateLimitPolicyControl : RateLimitPolicyControl where
  emergency := ⟨false, 60, none⟩
  productDefaultsPerMinute :=
    [("INSTITUTION_PORTAL", 1000), ("STUDENT_APP", 2000), ("EMPLOYER_VERIFICATION_PORTAL", 1500),
      ("EXAM_BODY_API", 2000)]
  sandbox := 500
  production := 2000
  institutionOverridesPerMinute := []
  scopeOverrides := []

/-- A number, or the number that a string reads as. -/
def asNumber (rt : Runtime) : Option Json → Option ℚ
  | some (.num q) => some q
  | some (.str text) => rt.toNumber text
  | _ => none

def clampNumber (value : Option ℚ) (min max fallback : ℤ) : ℤ :=
  match value with
  | none => fallback
  | some q => Min.min max (Max.max min ⌊q⌋)

/-- A field set in the place it has, or as the last one. -/
def setField {α : Type} (fields : List (String × α)) (key : String) (value : α) :
    List (String × α) :=
  if fields.any (·.1 == key) then
    fields.map fun field => if field.1 == key then (key, value) else field
  else fields ++ [(key, value)]

section Fields

variable {α : Type}

theorem mem_setField {fields : List (String × α)} {key : String} {value : α}
    {field : String × α} (listed : field ∈ setField fields key value) :
    field ∈ fields ∨ field = (key, value) := by
  unfold setField at listed
  split_ifs at listed
  · obtain ⟨other, there, same⟩ := List.mem_map.mp listed
    split_ifs at same
    · exact Or.inr (same ▸ rfl)
    · exact Or.inl (same ▸ there)
  · rcases List.mem_append.mp listed with there | new
    · exact Or.inl there
    · rw [List.mem_singleton.mp new]
      exact Or.inr rfl

theorem lookup_cons_eq (field : String × α) (fields : List (String × α)) (k : String) :
    (field :: fields).lookup k = if k = field.1 then some field.2 else fields.lookup k := by
  rw [List.lookup_cons]
  by_cases here : k = field.1
  · rw [if_pos here, here, beq_self_eq_true]
  · rw [if_neg here, beq_false_of_ne here]

/-- A lookup among fields of which one is replaced. -/
theorem lookup_replace (fields : List (String × α)) (key : String) (value : α) (k : String) :
    (fields.map fun field => if field.1 == key then (key, value) else field).lookup k =
      if k = key then (fields.lookup k).map fun _ => value else fields.lookup k := by
  induction fields with
  | nil => simp
  | cons field fields ih =>
    rw [List.map_cons, lookup_cons_eq, lookup_cons_eq, ih]
    by_cases here : field.1 = key
    · rw [here, if_pos (beq_self_eq_true key)]
      by_cases same : k = key <;> simp [same]
    · have kept : (if field.1 == key then (key, value) else field) = field :=
        if_neg (by simpa using here)
      rw [kept]
      by_cases same : k = key
      · rw [same, if_neg (Ne.symm here), if_pos rfl, if_neg (Ne.symm here), if_pos rfl]
      · rw [if_neg same, if_neg same]

theorem lookup_setField (fields : List (String × α)) (key : String) (value : α) (k : String) :
    (setField fields key value).lookup k = if k = key then some value else fields.lookup k := by
  unfold setField
  by_cases listed : fields.any (·.1 == key) = true
  · rw [if_pos listed, lookup_replace]
    refine ite_congr rfl (fun same => ?_) fun _ => rfl
    obtain ⟨field, inside, named⟩ := List.any_eq_true.mp listed
    have there : (fields.lookup k).isSome = true := by
      refine List.lookup_isSome_iff.mpr ⟨field, inside, ?_⟩
      rw [same, beq_iff_eq.mp named, beq_self_eq_true]
    obtain ⟨found, here⟩ := Option.isSome_iff_exists.mp there
    rw [here, Option.map_some]
  · have absent : fields.lookup key = none := by
      refine List.lookup_eq_none_iff.mpr fun field inside => ?_
      refine bne_iff_ne.mpr fun named => listed (List.any_eq_true.mpr ⟨field, inside, ?_⟩)
      rw [named, beq_self_eq_true]
    rw [if_neg listed, List.lookup_append, lookup_cons_eq]
    by_cases same : k = key
    · rw [same, absent, if_pos rfl, if_pos rfl, Option.none_or]
    · rw [if_neg same, if_neg same, List.lookup_nil, Option.or_none]

/-- The names of fields, one of them set. -/
theorem nodup_setField {fields : List (String × α)} (different : (fields.map Prod.fst).Nodup)
    (key : String) (value : α) : ((setField fields key value).map Prod.fst).Nodup := by
  unfold setField
  split_ifs with listed
  · have names : (fields.map fun field => if field.1 == key then (key, value) else field).map
        Prod.fst = fields.map Prod.fst := by
      rw [List.map_map]
      refine List.map_congr_left fun field _ => ?_
      by_cases here : field.1 = key <;> simp [here]
    rw [names]
    exact different
  · rw [List.map_append]
    refine List.nodup_append.mpr ⟨different, List.nodup_singleton key, ?_⟩
    rintro name inside other new rfl
    obtain ⟨field, member, rfl⟩ := List.mem_map.mp inside
    refine listed (List.any_eq_true.mpr ⟨field, member, ?_⟩)
    rw [List.mem_singleton.mp new]
    exact beq_self_eq_true key

end Fields

/-- The fields of an object; any other value has none. -/
def objectFields : Option Json → List (String × Json)
  | some (.obj fields) => fields
  | _ => []

def normaliseNumberRecord (rt : Runtime) (value : Option Json) (fallback : List (String × ℤ))
    (min max : ℤ) : List (String × ℤ) :=
  (objectFields value).foldl (fun result field =>
    let cleanKey := Text.trim field.1
    if cleanKey = "" then result
    else setField result cleanKey (clampNumber (asNumber rt (some field.2)) min max
      ((result.lookup cleanKey).getD min))) fallback

def normaliseScopeOverrides (rt : Runtime) (value : Option Json) : List (String × ScopeLimit) :=
  (objectFields value).foldl (fun result field =>
    match field.2 with
    | .obj _ =>
      if Text.trim field.1 = "" then result
      else setField result (Text.trim field.1)
        { limit := clampNumber (asNumber rt (field.2.get? "limit")) 1 100000 100
          windowSeconds := clampNumber (asNumber rt (field.2.get? "windowSeconds")) 1 3600 60 }
    | _ => result) []

def normalisePolicyControl (rt : Runtime) (value : Option Json) : RateLimitPolicyControl :=
  let source : Json := .obj (objectFields value)
  let emergency : Json := .obj (objectFields (source.get? "emergency"))
  let institutionDefaults : Json :=
    .obj (objectFields (source.get? "institutionDefaultsPerMinute"))
  { emergency :=
      { enabled := emergency.get? "enabled" == some (.bool true)
        limitPerMinute := clampNumber (asNumber rt (emergency.get? "limitPerMinute")) 1 100000 60
        reason :=
          match emergency.get? "reason" with
          | some (.str reason) =>
            if Text.trim reason = "" then none else some (Text.slice 500 (Text.trim reason))
          | _ => none }
    productDefaultsPerMinute := normaliseNumberRecord rt (source.get? "productDefaultsPerMinute")
      defaultRateLimitPolicyControl.productDefaultsPerMinute 1 100000
    sandbox := clampNumber (asNumber rt (institutionDefaults.get? "sandbox")) 1 100000 500
    production := clampNumber (asNumber rt (institutionDefaults.get? "production")) 1 100000 2000
    institutionOverridesPerMinute :=
      normaliseNumberRecord rt (source.get? "institutionOverridesPerMinute") [] 1 100000
    scopeOverrides := normaliseScopeOverrides rt (source.get? "scopeOverrides") }

/-- A policy, and the time until which it is used. -/
abbrev PolicyCache := Option (RateLimitPolicyControl × Time)

/-- The policy, from the cache or else from the store; a failed read counts as a setting that is not
there. -/
def readPolicyControl (rt : Runtime) (now : Time) (read : Outcome) (cache : PolicyCache)
    (s : Store) : RateLimitPolicyControl × PolicyCache :=
  match cache.filter fun cached => now < cached.2 with
  | some cached => (cached.1, cache)
  | none =>
    let stored :=
      match read with
      | .done => (s.platformSettings.find? "rateLimits").map (·.value)
      | .failed => none
    let value := normalisePolicyControl rt stored
    (value, some (value, now + 15000))

/-! ### Buckets -/

/-- The start of the window that a time falls into. -/
def windowStart (now : Time) (windowSeconds : ℤ) : Time :=
  now / (windowSeconds * 1000) * (windowSeconds * 1000)

def bucketKey (rt : Runtime) (scope key : String) (windowSeconds : ℤ) (now : Time) :
    String × String × Time :=
  (scope, rt.sha256 key, windowStart now windowSeconds)

/-- How many requests the bucket has with one more. -/
def nextCount (rt : Runtime) (scope key : String) (windowSeconds : ℤ) (now : Time) (s : Store) : ℤ :=
  ((s.rateLimitBuckets.find? (bucketKey rt scope key windowSeconds now)).map (·.count)).getD 0 + 1

/-- `rateLimitBucket.upsert`: one more request in the bucket. -/
def countRequest (rt : Runtime) (scope key : String) (limit windowSeconds : ℤ) (now : Time)
    (s : Store) : Store :=
  { s with
    rateLimitBuckets := s.rateLimitBuckets.upsert
      { scope := scope
        bucketKeyHash := rt.sha256 key
        windowStart := windowStart now windowSeconds
        windowSeconds := windowSeconds
        count := nextCount rt scope key windowSeconds now s
        limit := limit } }

/-- One more request, unless that is more than the limit; it is counted either way. -/
def assertAllowed (rt : Runtime) (scope key : String) (limit windowSeconds : ℤ) (now : Time)
    (write : Outcome) (s : Store) : Except ServiceError Unit × Store :=
  match write with
  | .failed => (.error .database, s)
  | .done =>
    let count := nextCount rt scope key windowSeconds now s
    let resetAt := windowStart now windowSeconds + windowSeconds * 1000
    (if limit < count then
        .error (.tooManyRequests
          [("statusCode", .num 429), ("message", .str "Rate limit exceeded."), ("scope", .str scope),
            ("limit", .num limit),
            ("retryAfterSeconds", .num (max 1 ⌈((resetAt - now : ℤ) : ℚ) / 1000⌉ : ℤ)),
            ("resetAt", .str (Text.toISOString resetAt))])
      else .ok (),
      countRequest rt scope key limit windowSeconds now s)

/-- The instant before which a clean-up deletes the buckets. -/
def cutoff (olderThanHours : Option ℚ) (now : Time) : Time :=
  now - clampNumber olderThanHours 1 720 24 * 60 * 60 * 1000

/-- `rateLimitBucket.deleteMany`: the buckets whose window started long enough ago. -/
def cleanupExpiredBuckets (olderThanHours : Option ℚ) (now : Time) (s : Store) : Store :=
  { s with
    rateLimitBuckets := s.rateLimitBuckets.filter fun bucket =>
      !decide (bucket.windowStart < cutoff olderThanHours now) }

/-! ### API keys -/

/-- What the limiter reads of a token's payload. -/
structure ApiKeyAuth where
  apiKeyId : String
  apiKeyOwnerType : Option String
  productCode : Option String
  institutionUuid : Option String
  institutionId : Option String
  rateLimitPerMinute : Option ℚ
deriving DecidableEq

def textField (payload : Json) (name : String) : Option String :=
  match payload.get? name with
  | some (.str text) => some text
  | _ => none

/-- The payload of an API key's token, as the limiter reads it; `none` for any other token. -/
def apiKeyAuth (payload : Json) : Option ApiKeyAuth :=
  if textField payload "kind" ≠ some "API_KEY" then none
  else
    match (textField payload "apiKeyId").filter (· ≠ "") with
    | none => none
    | some apiKeyId => some
      { apiKeyId := apiKeyId
        apiKeyOwnerType := textField payload "apiKeyOwnerType"
        productCode := (textField payload "productCode").filter (· ≠ "")
        institutionUuid := (textField payload "institutionUuid").filter (· ≠ "")
        institutionId := (textField payload "institutionId").filter (· ≠ "")
        rateLimitPerMinute :=
          match payload.get? "rateLimitPerMinute" with
          | some (.num q) => some q
          | _ => none }

def apiKeyLimitFromPolicy (auth : ApiKeyAuth) (policy : RateLimitPolicyControl) : Option ℚ :=
  let productDefault :=
    if auth.apiKeyOwnerType = some "PRODUCT" then
      auth.productCode.map fun code =>
        ((policy.productDefaultsPerMinute.lookup code).map ((↑·) : ℤ → ℚ)).or auth.rateLimitPerMinute
    else none
  match productDefault with
  | some limit => limit
  | none =>
    let override := (auth.institutionUuid.bind fun id => policy.institutionOverridesPerMinute.lookup id).or
      (auth.institutionId.bind fun id => policy.institutionOverridesPerMinute.lookup id)
    match override.filter (· ≠ 0) with
    | some limit => some limit
    | none => some (auth.rateLimitPerMinute.getD policy.sandbox)

/-- The limit, unless it is 0. -/
def configuredLimit (auth : ApiKeyAuth) (policy : RateLimitPolicyControl) : Option ℚ :=
  (apiKeyLimitFromPolicy auth policy).filter (· ≠ 0)

def applyEmergencyCap (limit : ℚ) (policy : RateLimitPolicyControl) : ℚ :=
  if policy.emergency.enabled then min limit policy.emergency.limitPerMinute else limit

/-- The time of a request, and how the policy's read and the bucket's write turn out. -/
structure LimitEnv where
  now : Time
  read : Outcome
  write : Outcome

def apiKeyScope : String := "api-key.global"

def apiKeyBucket (auth : ApiKeyAuth) : String := "api-key:" ++ auth.apiKeyId

/-- One more request of an API key, unless it is over its limit; a key without a limit is not
counted. -/
def assertApiKeyAllowed (rt : Runtime) (env : LimitEnv) (payload : Json) (cache : PolicyCache)
    (s : Store) : Except ServiceError Unit × PolicyCache × Store :=
  match apiKeyAuth payload with
  | none => (.ok (), cache, s)
  | some auth =>
    let (policy, cache) := readPolicyControl rt env.now env.read cache s
    match configuredLimit auth policy with
    | none => (.ok (), cache, s)
    | some configured =>
      let limit := applyEmergencyCap configured policy
      -- The limit of a bucket is an integer column.
      if limit.isInt then
        let (allowed, s) :=
          assertAllowed rt apiKeyScope (apiKeyBucket auth) limit.num 60 env.now env.write s
        (allowed, cache, s)
      else (.error .database, cache, s)

/-- The key has a limit, and one more request is more than that or cannot be counted. -/
def OverLimit (rt : Runtime) (env : LimitEnv) (payload : Json) (cache : PolicyCache) (s : Store) :
    Prop :=
  ∃ auth configured, apiKeyAuth payload = some auth ∧
    configuredLimit auth (readPolicyControl rt env.now env.read cache s).1 = some configured ∧
    let limit := applyEmergencyCap configured (readPolicyControl rt env.now env.read cache s).1
    limit.isInt = false ∨ env.write = .failed ∨
      limit.num < nextCount rt apiKeyScope (apiKeyBucket auth) 60 env.now s

theorem assertAllowed_eq_ok {rt : Runtime} {scope key : String} {limit windowSeconds : ℤ}
    {now : Time} {write : Outcome} {s : Store} :
    (assertAllowed rt scope key limit windowSeconds now write s).1 = .ok () ↔
      write = .done ∧ nextCount rt scope key windowSeconds now s ≤ limit := by
  cases write with
  | failed => simp [assertAllowed]
  | done =>
    unfold assertAllowed
    by_cases exceeds : limit < nextCount rt scope key windowSeconds now s
    · simp [exceeds]
    · simp [exceeds, not_lt.mp exceeds]

/-- **An API key's request is let through** exactly when it is not over its limit. -/
theorem assertApiKeyAllowed_eq_ok {rt : Runtime} {env : LimitEnv} {payload : Json}
    {cache : PolicyCache} {s : Store} :
    (assertApiKeyAllowed rt env payload cache s).1 = .ok () ↔
      ¬ OverLimit rt env payload cache s := by
  unfold assertApiKeyAllowed OverLimit
  cases apiKeyAuth payload with
  | none => simp
  | some auth =>
    dsimp only
    cases limited : configuredLimit auth (readPolicyControl rt env.now env.read cache s).1 with
    | none => simp [limited]
    | some configured =>
      dsimp only
      cases whole : (applyEmergencyCap configured
          (readPolicyControl rt env.now env.read cache s).1).isInt with
      | false => simp [limited, whole]
      | true =>
        rw [if_pos rfl, assertAllowed_eq_ok]
        cases write : env.write with
        | failed => simp [limited]
        | done => simp [limited, whole]

end RateLimit

end AcadID
