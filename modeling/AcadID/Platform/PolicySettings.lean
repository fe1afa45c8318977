/-
**The rate-limit policy that administrators save, and the one that is enforced.**

* `updateRateLimitPolicy` and `updatePlatformSettings` — the two ways to save a policy; the first
  parses any value to a policy, the second validates a body against a schema and saves it as it is.
* `readRateLimitPolicy` and `readPlatformSettings` — the saved value, section by section over the
  defaults.
* `fields_iff_settled` — **exactly when a saved policy is read back as it was saved**.
* `inBounds_normalise`, `settled_normalise_iff` — what the parser ensures of a policy;
  `recordOf_valid` — what the schema ensures of its records.
-/

import Mathlib.Algebra.Order.BigOperators.Group.List
import AcadID.Platform.Admissions

namespace AcadID

open Lib

namespace PolicySettings

open RateLimit

/-! ### Records set field by field -/

section Records

variable {α : Type}

section Fold

variable {step : List (String × α) → String × Json → List (String × α)} {P : α → Prop}

/-- The step sets the field of a trimmed name, or nothing; it sets a value that meets `P` when those
that are there do. -/
def SetsTrimmed (P : α → Prop) (step : List (String × α) → String × Json → List (String × α)) :
    Prop :=
  ∀ fields entry, step fields entry = fields ∨ Text.trim entry.1 ≠ "" ∧
    ∃ value, ((∀ field ∈ fields, P field.2) → P value) ∧
      step fields entry = setField fields (Text.trim entry.1) value

/-- A name that no entry has keeps its value. -/
theorem lookup_foldl_of_unnamed (sets : SetsTrimmed P step) {entries : List (String × Json)}
    {k : String} (unnamed : ∀ entry ∈ entries, Text.trim entry.1 ≠ k) (fields : List (String × α)) :
    (entries.foldl step fields).lookup k = fields.lookup k := by
  refine List.foldlRecOn (motive := fun result : List (String × α) =>
    result.lookup k = fields.lookup k) entries step rfl fun result kept entry inside => ?_
  rcases sets result entry with same | ⟨-, value, -, set⟩
  · rw [same, kept]
  · rw [set, lookup_setField, if_neg (Ne.symm (unnamed entry inside)), kept]

/-- Every name is one that was there, or is trimmed. -/
theorem named_foldl (sets : SetsTrimmed P step) (entries : List (String × Json))
    (fields : List (String × α)) (k : String)
    (named : (entries.foldl step fields).lookup k ≠ none) :
    fields.lookup k ≠ none ∨ Text.Trimmed k ∧ k ≠ "" := by
  refine List.foldlRecOn (motive := fun result : List (String × α) => result.lookup k ≠ none →
    fields.lookup k ≠ none ∨ Text.Trimmed k ∧ k ≠ "") entries step Or.inl ?_ named
  intro result kept entry _ named
  rcases sets result entry with same | ⟨nonempty, value, -, set⟩
  · exact kept (same ▸ named)
  · rw [set, lookup_setField] at named
    split_ifs at named with here
    · exact .inr (here ▸ ⟨Text.trimmed_trim _, nonempty⟩)
    · exact kept named

/-- No name is lost. -/
theorem lookup_foldl_isSome (sets : SetsTrimmed P step) (entries : List (String × Json))
    {fields : List (String × α)} {k : String} (named : fields.lookup k ≠ none) :
    (entries.foldl step fields).lookup k ≠ none := by
  refine List.foldlRecOn (motive := fun result : List (String × α) => result.lookup k ≠ none)
    entries step named fun result kept entry _ => ?_
  rcases sets result entry with same | ⟨-, value, -, set⟩
  · rw [same]
    exact kept
  · rw [set, lookup_setField]
    split_ifs
    · simp
    · exact kept

theorem nodup_foldl (sets : SetsTrimmed P step) (entries : List (String × Json))
    {fields : List (String × α)} (different : (fields.map Prod.fst).Nodup) :
    ((entries.foldl step fields).map Prod.fst).Nodup := by
  refine List.foldlRecOn (motive := fun result : List (String × α) =>
    (result.map Prod.fst).Nodup) entries step different fun result kept entry _ => ?_
  rcases sets result entry with same | ⟨-, value, -, set⟩
  · rw [same]
    exact kept
  · rw [set]
    exact nodup_setField kept _ value

/-- Every value meets what the step ensures, and what those that were there meet. -/
theorem values_foldl (sets : SetsTrimmed P step) (entries : List (String × Json))
    {fields : List (String × α)} (begun : ∀ field ∈ fields, P field.2) :
    ∀ field ∈ entries.foldl step fields, P field.2 := by
  refine List.foldlRecOn (motive := fun result : List (String × α) => ∀ field ∈ result, P field.2)
    entries step begun fun result kept entry _ => ?_
  rcases sets result entry with same | ⟨-, value, meets, set⟩
  · rw [same]
    exact kept
  · intro field inside
    rw [set] at inside
    rcases mem_setField inside with there | new
    · exact kept field there
    · rw [new]
      exact meets kept

end Fold

/-- Entries that are set as they are: what they say, over what was there. -/
theorem lookup_foldl_of_listed {step : List (String × α) → String × Json → List (String × α)}
    {print : α → Json} {es : List (String × α)} (different : (es.map Prod.fst).Nodup)
    (sets : ∀ fields, ∀ e ∈ es, step fields (e.1, print e.2) = setField fields e.1 e.2)
    (fields : List (String × α)) (k : String) :
    ((es.map fun e => (e.1, print e.2)).foldl step fields).lookup k =
      (es.lookup k).or (fields.lookup k) := by
  induction es generalizing fields with
  | nil => rfl
  | cons e es ih =>
    rw [List.map_cons, List.nodup_cons] at different
    rw [List.map_cons, List.foldl_cons, sets fields e (List.mem_cons_self ..),
      ih different.2 fun fields e' inside => sets fields e' (List.mem_cons_of_mem e inside),
      lookup_setField, lookup_cons_eq]
    by_cases here : k = e.1
    · have once : es.lookup k = none := by
        refine List.lookup_eq_none_iff.mpr fun e' inside => bne_iff_ne.mpr fun same => ?_
        exact different.1 (List.mem_map.mpr ⟨e', inside, same.symm.trans here⟩)
      rw [if_pos here, if_pos here, once]
      rfl
    · rw [if_neg here, if_neg here]

theorem lookup_ne_none {fields : List (String × α)} {k : String} :
    fields.lookup k ≠ none ↔ ∃ field ∈ fields, field.1 = k := by
  rw [Option.ne_none_iff_isSome, List.lookup_isSome_iff]
  refine exists_congr fun field => and_congr_right fun _ => ?_
  rw [beq_iff_eq, eq_comm]

/-- **A record that is set again** is the same exactly when its names are trimmed and include those
that were there. -/
theorem lookup_foldl_iff {P : α → Prop} (print : α → Json)
    {step : List (String × α) → String × Json → List (String × α)}
    {es fields : List (String × α)} (sets : SetsTrimmed P step)
    (different : (es.map Prod.fst).Nodup) (trimmed : ∀ field ∈ fields, Text.Trimmed field.1)
    (listed : ∀ fields, ∀ e ∈ es, Text.Trimmed e.1 →
      step fields (e.1, print e.2) = setField fields e.1 e.2) :
    (∀ k, es.lookup k = ((es.map fun e => (e.1, print e.2)).foldl step fields).lookup k) ↔
      (∀ e ∈ es, Text.Trimmed e.1) ∧ ∀ field ∈ fields, es.lookup field.1 ≠ none := by
  constructor
  · intro same
    refine ⟨fun e inside => ?_, fun field inside => ?_⟩
    · have named : es.lookup e.1 ≠ none := lookup_ne_none.mpr ⟨e, inside, rfl⟩
      rw [same] at named
      rcases named_foldl sets _ fields e.1 named with there | ⟨neat, -⟩
      · obtain ⟨field, member, name⟩ := lookup_ne_none.mp there
        exact name ▸ trimmed field member
      · exact neat
    · rw [same]
      exact lookup_foldl_isSome sets _ (lookup_ne_none.mpr ⟨field, inside, rfl⟩)
  · rintro ⟨neat, covers⟩ k
    rw [lookup_foldl_of_listed different fun fields e inside =>
      listed fields e inside (neat e inside)]
    cases found : es.lookup k with
    | some value => rfl
    | none =>
      have absent : fields.lookup k = none := by
        by_contra there
        obtain ⟨field, member, rfl⟩ := lookup_ne_none.mp there
        exact covers field member found
      rw [absent]
      rfl

end Records

/-! ### The policy as it is saved -/

def limitJson (limit : ℤ) : Json :=
  .num limit

def limitsJson (fields : List (String × ℤ)) : Json :=
  .obj (fields.map fun field => (field.1, limitJson field.2))

def scopeJson (scope : ScopeLimit) : Json :=
  .obj [("limit", .num scope.limit), ("windowSeconds", .num scope.windowSeconds)]

def scopesJson (fields : List (String × ScopeLimit)) : Json :=
  .obj (fields.map fun field => (field.1, scopeJson field.2))

/-- The value of a policy, with the reason as it was given. -/
def policyJson (policy : RateLimitPolicyControl) (reason : Option Json) : Json :=
  .obj
    [("emergency", Json.fields
        [("enabled", some (.bool policy.emergency.enabled)),
          ("limitPerMinute", some (.num policy.emergency.limitPerMinute)), ("reason", reason)]),
      ("productDefaultsPerMinute", limitsJson policy.productDefaultsPerMinute),
      ("institutionDefaultsPerMinute",
        .obj [("sandbox", .num policy.sandbox), ("production", .num policy.production)]),
      ("institutionOverridesPerMinute", limitsJson policy.institutionOverridesPerMinute),
      ("scopeOverrides", scopesJson policy.scopeOverrides)]

/-- A policy, and its reason as it was given; `none` is `undefined`. -/
structure SavedPolicy where
  policy : RateLimitPolicyControl
  reason : Option (Option String)
  same : policy.emergency.reason = reason.join

def SavedPolicy.json (saved : SavedPolicy) : Json :=
  policyJson saved.policy (saved.reason.map Json.ofOption)

/-- `defaultPlatformSettings` -/
def defaultPlatformSettings : List (String × Json) :=
  [("approval",
      .obj [("requireMou", .bool true), ("requireDocumentUpload", .bool true),
        ("allowAutoApprove", .bool false), ("maxApplicationReviewDays", .num 14)]),
    ("api",
      .obj [("defaultEnvironment", .str "SANDBOX"), ("defaultRateLimitPerMinute", .num 1000),
        ("productKeyRotationDays", .num 180), ("institutionKeyRotationDays", .num 90)]),
    ("rateLimits", policyJson defaultRateLimitPolicyControl (some .null)),
    ("notifications",
      .obj [("founderEmail", .str "founder@acadid.local"), ("notifyOnNewApplication", .bool true),
        ("notifyOnDeveloperRequest", .bool true), ("notifyOnDispute", .bool true),
        ("weeklySummaryEnabled", .bool true)]),
    ("emailTemplates",
      .obj [("applicationApprovedSubject", .str "ACAD.ID institution application approved"),
        ("applicationRejectedSubject", .str "ACAD.ID institution application update"),
        ("developerAccessApprovedSubject", .str "ACAD.ID Developer Access approved"),
        ("disputeNoticeSubject", .str "ACAD.ID credential dispute notice")])]

/-- The fields of the value over those of the defaults. -/
def mergeSettingValue (defaults : Json) (value : Option Json) : Json :=
  .obj ((objectFields value).foldl (fun merged field => setField merged field.1 field.2)
    (objectFields (some defaults)))

def storedSetting (s : Store) (key : String) : Option Json :=
  (s.platformSettings.find? key).map (·.value)

/-- The policy that `readRateLimitPolicy` returns. -/
def readRateLimitPolicy (s : Store) : Json :=
  mergeSettingValue (policyJson defaultRateLimitPolicyControl (some .null))
    (storedSetting s "rateLimits")

/-- The settings that `readPlatformSettings` returns, once they are read from the database. -/
def readPlatformSettings (s : Store) : Json :=
  .obj (defaultPlatformSettings.map fun setting =>
    (setting.1, mergeSettingValue setting.2 (storedSetting s setting.1)))

/-! ### The two ways to save a policy -/

/-- `parseBoundedNumber` -/
def parseBoundedNumber (rt : Runtime) (value : Option Json) (min max fallback : ℤ) : ℤ :=
  clampNumber (asNumber rt value) min max fallback

/-- `parseNumberRecord` -/
def parseNumberRecord (rt : Runtime) (value : Option Json) (fallback : List (String × ℤ))
    (min max : ℤ) : List (String × ℤ) :=
  (objectFields value).foldl (fun result field =>
    let key := Text.trim field.1
    if key = "" then result
    else setField result key (parseBoundedNumber rt (some field.2) min max
      ((result.lookup key).getD min))) fallback

/-- `parseRateLimitScopeOverrides` -/
def parseRateLimitScopeOverrides (rt : Runtime) (value : Option Json) :
    List (String × ScopeLimit) :=
  (objectFields value).foldl (fun result field =>
    match field.2 with
    | .obj _ =>
      if Text.trim field.1 = "" then result
      else setField result (Text.trim field.1)
        { limit := parseBoundedNumber rt (field.2.get? "limit") 1 100000 100
          windowSeconds := parseBoundedNumber rt (field.2.get? "windowSeconds") 1 3600 60 }
    | _ => result) []

def parseRateLimitPolicyInput (rt : Runtime) (input : Option Json) :
    Except ServiceError RateLimitPolicyControl := do
  let source : Json := .obj (objectFields input)
  let base := defaultRateLimitPolicyControl
  let emergency : Json := .obj (objectFields (source.get? "emergency"))
  let institutionDefaults : Json :=
    .obj (objectFields (source.get? "institutionDefaultsPerMinute"))
  let policy : RateLimitPolicyControl :=
    { emergency :=
        { enabled := emergency.get? "enabled" == some (.bool true)
          limitPerMinute := parseBoundedNumber rt (emergency.get? "limitPerMinute") 1 100000
            base.emergency.limitPerMinute
          reason :=
            match emergency.get? "reason" with
            | some (.str reason) =>
              if Text.trim reason = "" then none else some (Text.slice 500 (Text.trim reason))
            | _ => none }
      productDefaultsPerMinute := parseNumberRecord rt (source.get? "productDefaultsPerMinute")
        base.productDefaultsPerMinute 1 100000
      sandbox := parseBoundedNumber rt (institutionDefaults.get? "sandbox") 1 100000 base.sandbox
      production := parseBoundedNumber rt (institutionDefaults.get? "production") 1 100000
        base.production
      institutionOverridesPerMinute :=
        parseNumberRecord rt (source.get? "institutionOverridesPerMinute") [] 1 100000
      scopeOverrides := parseRateLimitScopeOverrides rt (source.get? "scopeOverrides") }
  require (!(policy.emergency.enabled && policy.emergency.reason.isNone))
    (.badRequest "Emergency rate-limit mode requires a reason.")
  return policy

/-! ### The schema of all settings -/

section Schema

open Schema

/-- An integer from `low` to `high`. -/
def bounded (low high : ℚ) : Schema ℤ :=
  integer [atLeast low, atMost high]

/-- An object of any names: each name and each value is checked, and set in the object returned. -/
def recordOf {α : Type} (names : List (String → Option String)) (item : Schema α) :
    Schema (List (String × α))
  | some (.obj entries) =>
    (List.foldl (fun fields entry => setField fields entry.1 entry.2) []) <$>
      (entries.map fun entry =>
        (Prod.mk <$> passing names entry.1 <*> item (some entry.2)).under entry.1).foldr
          (fun first rest => (· :: ·) <$> first <*> rest) (.valid [])
  | _ => invalidType

def rateLimitsSchema : Schema SavedPolicy :=
  object fun v =>
    (fun (emergency : Bool × ℤ × Option (Option String)) products (defaults : ℤ × ℤ) institutions
        scopes =>
      SavedPolicy.mk ⟨⟨emergency.1, emergency.2.1, emergency.2.2.join⟩, products, defaults.1,
        defaults.2, institutions, scopes⟩ emergency.2.2 rfl)
      <$> field v "emergency" (object fun e =>
        (fun enabled limit reason => (enabled, limit, reason))
          <$> field e "enabled" boolean
          <*> field e "limitPerMinute" (bounded 1 100000)
          <*> field e "reason" (optional (nullable (string [maxLength 500]))))
      <*> field v "productDefaultsPerMinute"
        (recordOf [minLength 1, maxLength 80] (bounded 1 100000))
      <*> field v "institutionDefaultsPerMinute" (object fun d =>
        Prod.mk <$> field d "sandbox" (bounded 1 100000)
          <*> field d "production" (bounded 1 100000))
      <*> field v "institutionOverridesPerMinute"
        (recordOf [minLength 1, maxLength 120] (bounded 1 100000))
      <*> field v "scopeOverrides" (recordOf [minLength 1, maxLength 120] (object fun o =>
        ScopeLimit.mk <$> field o "limit" (bounded 1 100000)
          <*> field o "windowSeconds" (bounded 1 3600)))

structure PlatformSettingsInput where
  approval : Json
  api : Json
  rateLimits : Option SavedPolicy
  notifications : Json
  emailTemplates : Json

/-- A field that is kept as it is. -/
def jsonField {α : Type} (v : Json) (key : String) (s : Schema α) (print : α → Json) :
    Checked (String × Json) :=
  (fun a => (key, print a)) <$> field v key s

def platformSettingsSchema (rt : Runtime) : Schema PlatformSettingsInput :=
  let number : ℤ → Json := fun z => .num z
  object fun v =>
    PlatformSettingsInput.mk
      <$> field v "approval" (object fun a =>
        (fun a b c d => Json.obj [a, b, c, d])
          <$> jsonField a "requireMou" boolean .bool
          <*> jsonField a "requireDocumentUpload" boolean .bool
          <*> jsonField a "allowAutoApprove" boolean .bool
          <*> jsonField a "maxApplicationReviewDays" (bounded 1 90) number)
      <*> field v "api" (object fun a =>
        (fun a b c d => Json.obj [a, b, c, d])
          <$> jsonField a "defaultEnvironment"
            (enum [("SANDBOX", "SANDBOX"), ("PRODUCTION", "PRODUCTION")]) .str
          <*> jsonField a "defaultRateLimitPerMinute" (bounded 10 100000) number
          <*> jsonField a "productKeyRotationDays" (bounded 1 730) number
          <*> jsonField a "institutionKeyRotationDays" (bounded 1 730) number)
      <*> field v "rateLimits" (optional rateLimitsSchema)
      <*> field v "notifications" (object fun n =>
        (fun a b c d e => Json.obj [a, b, c, d, e])
          <$> jsonField n "founderEmail" (string [formatted rt.isEmail, maxLength 254]) .str
          <*> jsonField n "notifyOnNewApplication" boolean .bool
          <*> jsonField n "notifyOnDeveloperRequest" boolean .bool
          <*> jsonField n "notifyOnDispute" boolean .bool
          <*> jsonField n "weeklySummaryEnabled" boolean .bool)
      <*> field v "emailTemplates" (object fun e =>
        let subject := string [minLength 4, maxLength 160]
        (fun a b c d => Json.obj [a, b, c, d])
          <$> jsonField e "applicationApprovedSubject" subject .str
          <*> jsonField e "applicationRejectedSubject" subject .str
          <*> jsonField e "developerAccessApprovedSubject" subject .str
          <*> jsonField e "disputeNoticeSubject" subject .str)

end Schema

/-- `Object.entries(parsed.data)` -/
def PlatformSettingsInput.entries (input : PlatformSettingsInput) : List (String × Json) :=
  [("approval", input.approval), ("api", input.api)] ++
    (input.rateLimits.toList.map fun saved => ("rateLimits", saved.json)) ++
    [("notifications", input.notifications), ("emailTemplates", input.emailTemplates)]

/-! ### Saving -/

/-- The setting updated, or created. -/
def upsertSetting (key : String) (value : Json) (s : Store) : Except ServiceError Store :=
  match s.platformSettings.find? key with
  | some _ => do
    let (_, platformSettings) ← updateRow s.platformSettings key
      (fun setting => { setting with value := value }) fun _ => rfl
    return { s with platformSettings := platformSettings }
  | none => do
    let platformSettings ← insertUnique s.platformSettings ⟨key, value⟩
    return { s with platformSettings := platformSettings }

/-- Every setting of the entries, in one transaction. -/
def upsertSettings : List (String × Json) → Store → Except ServiceError (Unit × Store)
  | [], s => .ok ((), s)
  | entry :: entries, s => do
    let s ← upsertSetting entry.1 entry.2 s
    upsertSettings entries s

def settingsAudit (auth : AuthTokenPayload) (action : String) (targetId : Option String)
    (metadata : Json) : AuditEvent where
  actorType := inferActorType none (some auth.sub)
  actorId := some auth.sub
  actorRole := some auth.role
  action := action
  targetType := "PlatformSettings"
  targetId := targetId
  institutionId := none
  outcome := "SUCCESS"
  reason := none
  metadata := metadata

/-- The settings saved, the audit event written, and the answer read back. -/
def saveSettings (entries : List (String × Json)) (event : AuditEvent) (answer : Store → Json) :
    Db Json := do
  Db.transaction (upsertSettings entries)
  Db.audit event
  Db.read fun s => .ok (answer s)

/-- The policy that the parser makes of an input, as it is saved. -/
def parsedPolicy (policy : RateLimitPolicyControl) : SavedPolicy :=
  ⟨policy, some policy.emergency.reason, rfl⟩

def updateRateLimitPolicy (rt : Runtime) (auth : AuthTokenPayload) (input : Option Json) :
    Db Json := do
  let policy ← Async.ofExcept (parseRateLimitPolicyInput rt input)
  let event := settingsAudit auth "rate_limit_policy.update" (some "rateLimits")
    (.obj
      [("emergencyEnabled", .bool policy.emergency.enabled),
        ("productDefaults", .num policy.productDefaultsPerMinute.length),
        ("institutionOverrides", .num policy.institutionOverridesPerMinute.length),
        ("scopeOverrides", .num policy.scopeOverrides.length)])
  saveSettings [("rateLimits", (parsedPolicy policy).json)] event readRateLimitPolicy

def updatePlatformSettings (rt : Runtime) (auth : AuthTokenPayload) (body : Json) : Db Json := do
  let input ← Async.ofExcept (parseBody (platformSettingsSchema rt) body)
  let event := settingsAudit auth "platform_settings.update" none
    (.obj [("keys", .arr (input.entries.map fun entry => .str entry.1))])
  saveSettings input.entries event readPlatformSettings

/-! ### The fields of a policy -/

/-- A field of a policy, or a name of one of its records. -/
inductive PolicyField where
  | enabled
  | limitPerMinute
  | reason
  | product (code : String)
  | sandbox
  | production
  | institution (id : String)
  | scope (name : String)

/-- The field of the policy that is enforced. -/
def policyField (policy : RateLimitPolicyControl) : PolicyField → Option Json
  | .enabled => some (.bool policy.emergency.enabled)
  | .limitPerMinute => some (.num policy.emergency.limitPerMinute)
  | .reason => some (Json.ofOption policy.emergency.reason)
  | .product code => (policy.productDefaultsPerMinute.lookup code).map limitJson
  | .sandbox => some (.num policy.sandbox)
  | .production => some (.num policy.production)
  | .institution id => (policy.institutionOverridesPerMinute.lookup id).map limitJson
  | .scope name => (policy.scopeOverrides.lookup name).map scopeJson

/-- The field of the value that is shown; a reason that is not there counts as `null`. -/
def shownField (shown : Json) : PolicyField → Option Json
  | .enabled => (shown.get? "emergency").bind (·.get? "enabled")
  | .limitPerMinute => (shown.get? "emergency").bind (·.get? "limitPerMinute")
  | .reason => some (((shown.get? "emergency").bind (·.get? "reason")).getD .null)
  | .product code => (shown.get? "productDefaultsPerMinute").bind (·.get? code)
  | .sandbox => (shown.get? "institutionDefaultsPerMinute").bind (·.get? "sandbox")
  | .production => (shown.get? "institutionDefaultsPerMinute").bind (·.get? "production")
  | .institution id => (shown.get? "institutionOverridesPerMinute").bind (·.get? id)
  | .scope name => (shown.get? "scopeOverrides").bind (·.get? name)

theorem get?_obj_map {α : Type} (print : α → Json) (fields : List (String × α)) (k : String) :
    (Json.obj (fields.map fun field => (field.1, print field.2))).get? k =
      (fields.lookup k).map print := by
  induction fields with
  | nil => rfl
  | cons field fields ih =>
    rw [lookup_cons_eq]
    show (List.find? _ ((field.1, print field.2) :: _)).map Prod.snd = _
    by_cases here : field.1 = k
    · rw [List.find?_cons_of_pos (by simpa using here), if_pos here.symm]
      rfl
    · rw [List.find?_cons_of_neg (by simpa using here), if_neg (Ne.symm here)]
      exact ih

/-- A saved policy replaces every section of the defaults. -/
theorem mergeSettingValue_policy (policy default : RateLimitPolicyControl)
    (reason reason' : Option Json) :
    mergeSettingValue (policyJson default reason') (some (policyJson policy reason)) =
      policyJson policy reason := by
  simp [mergeSettingValue, policyJson, objectFields, setField]

/-- **A saved policy is shown** field by field. -/
theorem shownField_json (saved : SavedPolicy) (f : PolicyField) :
    shownField saved.json f = policyField saved.policy f := by
  have given : saved.json.get? "emergency" = some (Json.fields
      [("enabled", some (.bool saved.policy.emergency.enabled)),
        ("limitPerMinute", some (.num saved.policy.emergency.limitPerMinute)),
        ("reason", saved.reason.map Json.ofOption)]) := rfl
  cases f with
  | enabled => rfl
  | limitPerMinute => rfl
  | sandbox => rfl
  | production => rfl
  | product code =>
    exact get?_obj_map limitJson saved.policy.productDefaultsPerMinute code
  | institution id =>
    exact get?_obj_map limitJson saved.policy.institutionOverridesPerMinute id
  | scope name => exact get?_obj_map scopeJson _ name
  | reason =>
    unfold shownField policyField
    dsimp only
    rw [given, Option.bind_some, Json.get?_fields_cons_ne (by decide),
      Json.get?_fields_cons_ne (by decide), saved.same]
    cases saved.reason with
    | none => rfl
    | some reason =>
      rw [Option.map_some, Json.get?_fields_cons_self]
      rfl

/-- The settings show the policy as it is. -/
theorem readPlatformSettings_rateLimits (s : Store) :
    (readPlatformSettings s).get? "rateLimits" = some (readRateLimitPolicy s) := rfl

/-! ### Policies within bounds -/

/-- From one to a hundred thousand. -/
def Limited (limit : ℤ) : Prop :=
  1 ≤ limit ∧ limit ≤ 100000

def ScopeLimited (scope : ScopeLimit) : Prop :=
  Limited scope.limit ∧ 1 ≤ scope.windowSeconds ∧ scope.windowSeconds ≤ 3600

/-- Different names that are not empty, and values that meet `P`. -/
def Listed {α : Type} (P : α → Prop) (fields : List (String × α)) : Prop :=
  (fields.map Prod.fst).Nodup ∧ ∀ field ∈ fields, field.1 ≠ "" ∧ P field.2

/-- What both ways to save a policy check of it. -/
structure InBounds (policy : RateLimitPolicyControl) : Prop where
  emergency : Limited policy.emergency.limitPerMinute
  reason : ∀ reason ∈ policy.emergency.reason, Text.utf16Length reason ≤ 500
  products : Listed Limited policy.productDefaultsPerMinute
  sandbox : Limited policy.sandbox
  production : Limited policy.production
  institutions : Listed Limited policy.institutionOverridesPerMinute
  scopes : Listed ScopeLimited policy.scopeOverrides

theorem clampNumber_of_within {limit low high : ℤ} (within : low ≤ limit ∧ limit ≤ high)
    (fallback : ℤ) : clampNumber (some (limit : ℚ)) low high fallback = limit := by
  show Min.min high (Max.max low ⌊(limit : ℚ)⌋) = limit
  rw [Int.floor_intCast, max_eq_right within.1, min_eq_right within.2]

theorem clampNumber_within (value : Option ℚ) {low high fallback : ℤ} (ordered : low ≤ high)
    (within : low ≤ fallback ∧ fallback ≤ high) :
    low ≤ clampNumber value low high fallback ∧ clampNumber value low high fallback ≤ high := by
  refine ⟨le_clampNumber value ordered within.1, ?_⟩
  cases value with
  | none => exact within.2
  | some q => exact min_le_left high _

/-- The step of `normaliseNumberRecord`. -/
theorem sets_limits (rt : Runtime) : SetsTrimmed Limited
    fun (result : List (String × ℤ)) (field : String × Json) =>
      let cleanKey := Text.trim field.1
      if cleanKey = "" then result
      else setField result cleanKey (clampNumber (asNumber rt (some field.2)) 1 100000
        ((result.lookup cleanKey).getD 1)) := by
  intro fields entry
  dsimp only
  split_ifs with blank
  · exact .inl rfl
  · refine .inr ⟨blank, _, fun all => ?_, rfl⟩
    refine clampNumber_within _ (by decide) ?_
    cases found : fields.lookup (Text.trim entry.1) with
    | none => exact ⟨le_refl 1, by decide⟩
    | some value =>
      obtain ⟨before, after, same, -⟩ := List.lookup_eq_some_iff.mp found
      exact all (Text.trim entry.1, value) (by rw [same]; simp)

/-- The step of `normaliseScopeOverrides`. -/
theorem sets_scopes (rt : Runtime) : SetsTrimmed ScopeLimited
    fun (result : List (String × ScopeLimit)) (field : String × Json) =>
      match field.2 with
      | .obj _ =>
        if Text.trim field.1 = "" then result
        else setField result (Text.trim field.1)
          { limit := clampNumber (asNumber rt (field.2.get? "limit")) 1 100000 100
            windowSeconds := clampNumber (asNumber rt (field.2.get? "windowSeconds")) 1 3600 60 }
      | _ => result := by
  intro fields entry
  dsimp only
  have limit := @clampNumber_within (asNumber rt (entry.2.get? "limit")) 1 100000 100 (by decide)
    ⟨by decide, by decide⟩
  have windowSeconds := @clampNumber_within (asNumber rt (entry.2.get? "windowSeconds")) 1 3600 60
    (by decide) ⟨by decide, by decide⟩
  split
  · split_ifs with blank
    · exact .inl rfl
    · refine .inr ⟨blank, _, fun _ => ?_, rfl⟩
      exact ⟨limit, windowSeconds⟩
  · exact .inl rfl

/-! ### The policy that is enforced -/

/-- No white space at the ends of a name or of the reason, and every default product is named. -/
structure Settled (policy : RateLimitPolicyControl) : Prop where
  reason : ∀ reason ∈ policy.emergency.reason, Text.Trimmed reason ∧ reason ≠ ""
  products : ∀ field ∈ policy.productDefaultsPerMinute, Text.Trimmed field.1
  covers : ∀ field ∈ defaultRateLimitPolicyControl.productDefaultsPerMinute,
    policy.productDefaultsPerMinute.lookup field.1 ≠ none
  institutions : ∀ field ∈ policy.institutionOverridesPerMinute, Text.Trimmed field.1
  scopes : ∀ field ∈ policy.scopeOverrides, Text.Trimmed field.1

/-- The policy that the stored setting stands for, once the cache is cleared. -/
def enforced (rt : Runtime) (s : Store) : RateLimitPolicyControl :=
  (readPolicyControl rt 0 .done none s).1

theorem takeUnits_of_length_le {n : ℕ} {cs : List Char}
    (fits : (cs.map fun c => if c.toNat < 0x10000 then 1 else 2).sum ≤ n) :
    Text.takeUnits n cs = cs := by
  induction cs generalizing n with
  | nil => rfl
  | cons c cs ih =>
    rw [List.map_cons, List.sum_cons] at fits
    unfold Text.takeUnits
    dsimp only
    rw [if_pos (by omega), ih (by omega)]

theorem length_takeUnits_le (n : ℕ) (cs : List Char) :
    ((Text.takeUnits n cs).map fun c => if c.toNat < 0x10000 then 1 else 2).sum ≤ n := by
  induction cs generalizing n with
  | nil => exact Nat.zero_le n
  | cons c cs ih =>
    unfold Text.takeUnits
    dsimp only
    by_cases fits : (if c.toNat < 0x10000 then 1 else 2) ≤ n
    · have rest := ih (n - if c.toNat < 0x10000 then 1 else 2)
      rw [if_pos fits, List.map_cons, List.sum_cons]
      omega
    · rw [if_neg fits]
      exact Nat.zero_le n

theorem slice_of_length_le {n : ℕ} {s : String} (fits : Text.utf16Length s ≤ n) :
    Text.slice n s = s := by
  unfold Text.slice
  rw [takeUnits_of_length_le fits, String.ofList_toList]

theorem length_slice_le (n : ℕ) (s : String) : Text.utf16Length (Text.slice n s) ≤ n := by
  unfold Text.utf16Length Text.slice
  rw [String.toList_ofList]
  exact length_takeUnits_le n s.toList

/-- A reason, normalised once more. -/
def normalReason (reason : Option String) : Option String :=
  reason.bind fun reason =>
    if Text.trim reason = "" then none else some (Text.slice 500 (Text.trim reason))

theorem length_trim_le (s : String) : Text.utf16Length (Text.trim s) ≤ Text.utf16Length s := by
  unfold Text.utf16Length Text.trim
  rw [String.toList_ofList]
  refine List.Sublist.sum_le_sum (List.Sublist.map _ ?_) fun _ _ => Nat.zero_le _
  have inner := (List.dropWhile_sublist (l := s.toList) Text.isSpace)
  have outer := (List.dropWhile_sublist (l := (s.toList.dropWhile Text.isSpace).reverse)
    Text.isSpace).reverse
  rw [List.reverse_reverse] at outer
  exact outer.trans inner

/-- **A reason stays as it is** exactly when it is trimmed and not empty. -/
theorem normalReason_iff {reason : Option String}
    (fits : ∀ text ∈ reason, Text.utf16Length text ≤ 500) :
    reason = normalReason reason ↔ ∀ text ∈ reason, Text.Trimmed text ∧ text ≠ "" := by
  cases reason with
  | none => exact iff_of_true rfl fun _ inside => absurd inside (by simp)
  | some text =>
    have short := fits text rfl
    unfold normalReason
    simp only [Option.bind_some, Option.mem_def, Option.some.injEq, forall_eq']
    constructor
    · intro same
      split_ifs at same with blank
      have trimmed : Text.trim text = text := by
        rw [slice_of_length_le ((length_trim_le text).trans short)] at same
        exact (Option.some.inj same).symm
      exact ⟨trimmed ▸ Text.trimmed_trim text, fun empty => blank (trimmed.trans empty)⟩
    · rintro ⟨trimmed, nonempty⟩
      rw [Text.trim_of_trimmed trimmed, if_neg nonempty, slice_of_length_le short]

/-! ### Exactly when they agree -/

section Agree

variable {rt : Runtime} {saved : SavedPolicy}

theorem limitJson_injective : Function.Injective limitJson := by
  intro limit other same
  exact_mod_cast Json.num.inj same

theorem scopeJson_injective : Function.Injective scopeJson := by
  rintro ⟨limit, windowSeconds⟩ ⟨limit', windowSeconds'⟩ same
  have fields := Json.obj.inj same
  simp only [List.cons.injEq, Prod.mk.injEq, Json.num.injEq, Int.cast_inj, true_and,
    and_true] at fields
  rw [fields.1, fields.2]

theorem ofOption_injective : Function.Injective Json.ofOption := by
  intro a b same
  cases a <;> cases b <;> simp_all [Json.ofOption]

/-- The sections of a saved policy, as they are normalised. -/
theorem normalise_enabled :
    (normalisePolicyControl rt (some saved.json)).emergency.enabled =
      saved.policy.emergency.enabled := by
  show (some (Json.bool saved.policy.emergency.enabled) == some (.bool true)) = _
  cases saved.policy.emergency.enabled <;> rfl

theorem normalise_limitPerMinute (within : Limited saved.policy.emergency.limitPerMinute) :
    (normalisePolicyControl rt (some saved.json)).emergency.limitPerMinute =
      saved.policy.emergency.limitPerMinute :=
  clampNumber_of_within within 60

theorem normalise_sandbox (within : Limited saved.policy.sandbox) :
    (normalisePolicyControl rt (some saved.json)).sandbox = saved.policy.sandbox :=
  clampNumber_of_within within 500

theorem normalise_production (within : Limited saved.policy.production) :
    (normalisePolicyControl rt (some saved.json)).production = saved.policy.production :=
  clampNumber_of_within within 2000

theorem normalise_reason :
    (normalisePolicyControl rt (some saved.json)).emergency.reason =
      normalReason saved.policy.emergency.reason := by
  have given : (Json.fields
      [("enabled", some (.bool saved.policy.emergency.enabled)),
        ("limitPerMinute", some (.num saved.policy.emergency.limitPerMinute)),
        ("reason", saved.reason.map Json.ofOption)]).get? "reason" =
      saved.reason.map Json.ofOption := by
    rw [Json.get?_fields_cons_ne (by decide), Json.get?_fields_cons_ne (by decide)]
    cases saved.reason with
    | none => rfl
    | some reason => exact Json.get?_fields_cons_self _ _ _
  show (match (Json.fields
      [("enabled", some (.bool saved.policy.emergency.enabled)),
        ("limitPerMinute", some (.num saved.policy.emergency.limitPerMinute)),
        ("reason", saved.reason.map Json.ofOption)]).get? "reason" with
    | some (.str reason) =>
      if Text.trim reason = "" then none else some (Text.slice 500 (Text.trim reason))
    | _ => none) = _
  rw [given, saved.same]
  rcases saved.reason with _ | _ | reason <;> rfl

/-- The records of a saved policy stay as they are exactly when their names are trimmed, and the
products include the default ones. -/
theorem normalise_products_iff (listed : Listed Limited saved.policy.productDefaultsPerMinute) :
    (∀ code, saved.policy.productDefaultsPerMinute.lookup code =
        (normalisePolicyControl rt (some saved.json)).productDefaultsPerMinute.lookup code) ↔
      (∀ field ∈ saved.policy.productDefaultsPerMinute, Text.Trimmed field.1) ∧
        ∀ field ∈ defaultRateLimitPolicyControl.productDefaultsPerMinute,
          saved.policy.productDefaultsPerMinute.lookup field.1 ≠ none := by
  refine lookup_foldl_iff limitJson (sets_limits rt) listed.1 (by decide) ?_
  intro fields e inside neat
  dsimp only
  rw [Text.trim_of_trimmed neat, if_neg (listed.2 e inside).1]
  exact congrArg _ (clampNumber_of_within (listed.2 e inside).2 _)

theorem normalise_institutions_iff
    (listed : Listed Limited saved.policy.institutionOverridesPerMinute) :
    (∀ id, saved.policy.institutionOverridesPerMinute.lookup id =
        (normalisePolicyControl rt (some saved.json)).institutionOverridesPerMinute.lookup id) ↔
      ∀ field ∈ saved.policy.institutionOverridesPerMinute, Text.Trimmed field.1 := by
  refine (lookup_foldl_iff limitJson (sets_limits rt) listed.1
    (fun field inside => absurd inside (by simp)) ?_).trans (and_iff_left ?_)
  · intro fields e inside neat
    dsimp only
    rw [Text.trim_of_trimmed neat, if_neg (listed.2 e inside).1]
    exact congrArg _ (clampNumber_of_within (listed.2 e inside).2 _)
  · exact fun field inside => absurd inside (by simp)

theorem normalise_scopes_iff (listed : Listed ScopeLimited saved.policy.scopeOverrides) :
    (∀ name, saved.policy.scopeOverrides.lookup name =
        (normalisePolicyControl rt (some saved.json)).scopeOverrides.lookup name) ↔
      ∀ field ∈ saved.policy.scopeOverrides, Text.Trimmed field.1 := by
  refine (lookup_foldl_iff scopeJson (sets_scopes rt) listed.1
    (fun field inside => absurd inside (by simp)) ?_).trans (and_iff_left ?_)
  · intro fields e inside neat
    obtain ⟨nonempty, limit, windowSeconds⟩ := listed.2 e inside
    show (if Text.trim e.1 = "" then fields else setField fields (Text.trim e.1) _) = _
    rw [Text.trim_of_trimmed neat, if_neg nonempty]
    refine congrArg (setField fields e.1) ?_
    show ScopeLimit.mk _ _ = e.2
    rw [show asNumber rt ((scopeJson e.2).get? "limit") = some (e.2.limit : ℚ) from rfl,
      show asNumber rt ((scopeJson e.2).get? "windowSeconds") = some (e.2.windowSeconds : ℚ)
        from rfl,
      clampNumber_of_within limit, clampNumber_of_within windowSeconds]
  · exact fun field inside => absurd inside (by simp)

/-- **The saved policy is the enforced one** exactly when it is settled. -/
theorem fields_iff_settled (bounds : InBounds saved.policy) :
    (∀ f, policyField saved.policy f =
        policyField (normalisePolicyControl rt (some saved.json)) f) ↔ Settled saved.policy := by
  constructor
  · intro same
    have products := (@normalise_products_iff rt _ bounds.products).mp fun code =>
      Option.map_injective limitJson_injective (same (.product code))
    have reason := ofOption_injective (Option.some.inj (same .reason))
    rw [normalise_reason] at reason
    exact
      { reason := (normalReason_iff bounds.reason).mp reason
        products := products.1
        covers := products.2
        institutions := (@normalise_institutions_iff rt _ bounds.institutions).mp fun id =>
          Option.map_injective limitJson_injective (same (.institution id))
        scopes := (@normalise_scopes_iff rt _ bounds.scopes).mp fun name =>
          Option.map_injective scopeJson_injective (same (.scope name)) }
  · intro settled f
    cases f with
    | enabled => exact congrArg (fun b => some (Json.bool b)) normalise_enabled.symm
    | limitPerMinute =>
      exact congrArg (fun z : ℤ => some (Json.num z))
        (normalise_limitPerMinute bounds.emergency).symm
    | sandbox =>
      exact congrArg (fun z : ℤ => some (Json.num z)) (normalise_sandbox bounds.sandbox).symm
    | production =>
      exact congrArg (fun z : ℤ => some (Json.num z)) (normalise_production bounds.production).symm
    | reason =>
      refine congrArg (fun reason => some (Json.ofOption reason)) ?_
      rw [normalise_reason]
      exact (normalReason_iff bounds.reason).mpr settled.reason
    | product code =>
      exact congrArg (Option.map limitJson) ((normalise_products_iff bounds.products).mpr
        ⟨settled.products, settled.covers⟩ code)
    | institution id =>
      exact congrArg (Option.map limitJson) ((normalise_institutions_iff bounds.institutions).mpr
        settled.institutions id)
    | scope name =>
      exact congrArg (Option.map scopeJson) ((normalise_scopes_iff bounds.scopes).mpr
        settled.scopes name)

end Agree

/-! ### What both ways to save a policy check -/

section Bounds

variable {rt : Runtime}

/-- The parser makes of an input what the service makes of a stored value. -/
theorem parse_eq_ok {input : Option Json} {policy : RateLimitPolicyControl} :
    parseRateLimitPolicyInput rt input = .ok policy ↔
      policy = normalisePolicyControl rt input ∧
        (policy.emergency.enabled = true → policy.emergency.reason ≠ none) := by
  have same : parseRateLimitPolicyInput rt input = (do
      require (!((normalisePolicyControl rt input).emergency.enabled &&
          (normalisePolicyControl rt input).emergency.reason.isNone))
        (.badRequest "Emergency rate-limit mode requires a reason.")
      return normalisePolicyControl rt input) := rfl
  rw [same, bind_eq_ok]
  constructor
  · rintro ⟨_, checked, result⟩
    obtain rfl := pure_eq_ok.mp result
    refine ⟨rfl, fun enabled none_given => ?_⟩
    have holds := require_eq_ok.mp checked
    rw [enabled, none_given] at holds
    exact absurd holds (by decide)
  · rintro ⟨rfl, reasoned⟩
    refine ⟨(), require_eq_ok.mpr ?_, rfl⟩
    cases enabled : (normalisePolicyControl rt input).emergency.enabled with
    | false => rfl
    | true =>
      cases given : (normalisePolicyControl rt input).emergency.reason with
      | none => exact absurd given (reasoned enabled)
      | some reason => rfl

/-- A record that is normalised from trimmed names. -/
theorem listed_foldl {α : Type} {P : α → Prop}
    {step : List (String × α) → String × Json → List (String × α)} (sets : SetsTrimmed P step)
    (entries : List (String × Json)) {fields : List (String × α)} (begun : Listed P fields)
    (trimmed : ∀ field ∈ fields, Text.Trimmed field.1) :
    Listed P (entries.foldl step fields) ∧
      ∀ field ∈ entries.foldl step fields, Text.Trimmed field.1 := by
  have names : ∀ field ∈ entries.foldl step fields, Text.Trimmed field.1 ∧ field.1 ≠ "" := by
    intro field inside
    rcases named_foldl sets entries fields field.1 (lookup_ne_none.mpr ⟨field, inside, rfl⟩) with
      there | neat
    · obtain ⟨other, member, same⟩ := lookup_ne_none.mp there
      exact same ▸ ⟨trimmed other member, (begun.2 other member).1⟩
    · exact neat
  have values := values_foldl sets entries fun field inside => (begun.2 field inside).2
  exact ⟨⟨nodup_foldl sets entries begun.1, fun field inside =>
    ⟨(names field inside).2, values field inside⟩⟩, fun field inside => (names field inside).1⟩

theorem listed_nil {α : Type} (P : α → Prop) : Listed P [] :=
  ⟨List.nodup_nil, fun _ inside => absurd inside (by simp)⟩

theorem listed_defaults :
    Listed Limited defaultRateLimitPolicyControl.productDefaultsPerMinute := by
  refine ⟨by decide, fun field inside => ?_⟩
  simp only [defaultRateLimitPolicyControl, List.mem_cons, List.not_mem_nil, or_false] at inside
  rcases inside with rfl | rfl | rfl | rfl <;> exact ⟨by decide, by decide, by decide⟩

theorem normalise_products (rt : Runtime) (value : Option Json) :
    Listed Limited (normalisePolicyControl rt value).productDefaultsPerMinute ∧
      ∀ field ∈ (normalisePolicyControl rt value).productDefaultsPerMinute,
        Text.Trimmed field.1 :=
  listed_foldl (sets_limits rt) _ listed_defaults (by decide)

theorem normalise_institutions (rt : Runtime) (value : Option Json) :
    Listed Limited (normalisePolicyControl rt value).institutionOverridesPerMinute ∧
      ∀ field ∈ (normalisePolicyControl rt value).institutionOverridesPerMinute,
        Text.Trimmed field.1 :=
  listed_foldl (sets_limits rt) _ (listed_nil _) fun _ inside => absurd inside (by simp)

theorem normalise_scopes (rt : Runtime) (value : Option Json) :
    Listed ScopeLimited (normalisePolicyControl rt value).scopeOverrides ∧
      ∀ field ∈ (normalisePolicyControl rt value).scopeOverrides, Text.Trimmed field.1 :=
  listed_foldl (sets_scopes rt) _ (listed_nil _) fun _ inside => absurd inside (by simp)

/-- The reason that an input gives. -/
def givenReason (input : Option Json) : Option Json :=
  let source : Json := .obj (objectFields input)
  (Json.obj (objectFields (source.get? "emergency"))).get? "reason"

theorem mem_normalise_reason {value : Option Json} {reason : String} :
    reason ∈ (normalisePolicyControl rt value).emergency.reason ↔
      ∃ text, givenReason value = some (.str text) ∧ Text.trim text ≠ "" ∧
        reason = Text.slice 500 (Text.trim text) := by
  show reason ∈ (match givenReason value with
    | some (.str text) =>
      if Text.trim text = "" then none else some (Text.slice 500 (Text.trim text))
    | _ => none) ↔ _
  split
  · rename_i text given
    rw [given]
    constructor
    · intro inside
      split_ifs at inside with blank
      · exact absurd inside (by simp)
      · exact ⟨text, rfl, blank, (Option.some.inj inside).symm⟩
    · rintro ⟨text', same, nonempty, rfl⟩
      obtain rfl := Json.str.inj (Option.some.inj same)
      rw [if_neg nonempty]
      rfl
  · rename_i other
    refine ⟨fun inside => absurd inside (by simp), ?_⟩
    rintro ⟨text, given, -⟩
    exact absurd given (other text)

/-- **A normalised policy** is within its bounds. -/
theorem inBounds_normalise (rt : Runtime) (value : Option Json) :
    InBounds (normalisePolicyControl rt value) where
  emergency := clampNumber_within _ (by decide) ⟨by decide, by decide⟩
  reason := by
    intro reason inside
    obtain ⟨text, -, -, rfl⟩ := mem_normalise_reason.mp inside
    exact length_slice_le 500 _
  products := (normalise_products rt value).1
  sandbox := clampNumber_within _ (by decide) ⟨by decide, by decide⟩
  production := clampNumber_within _ (by decide) ⟨by decide, by decide⟩
  institutions := (normalise_institutions rt value).1
  scopes := (normalise_scopes rt value).1

/-- The first character stays, when a text is cut to its first five hundred code units. -/
theorem slice_ne_empty {s : String} (nonempty : s ≠ "") : Text.slice 500 s ≠ "" := by
  intro empty
  have listed : Text.takeUnits 500 s.toList = [] := by
    rw [← String.toList_ofList (l := Text.takeUnits 500 s.toList)]
    exact congrArg String.toList empty
  cases chars : s.toList with
  | nil => exact nonempty (String.toList_eq_nil_iff.mp chars)
  | cons c cs =>
    rw [chars] at listed
    unfold Text.takeUnits at listed
    dsimp only at listed
    rw [if_pos (by split_ifs <;> decide)] at listed
    exact absurd listed (by simp)

/-- **A normalised policy is settled** exactly when its reason does not end in white space. -/
theorem settled_normalise_iff {value : Option Json} :
    Settled (normalisePolicyControl rt value) ↔
      ∀ text, givenReason value = some (.str text) →
        Text.Trimmed (Text.slice 500 (Text.trim text)) := by
  constructor
  · intro settled text given
    by_cases blank : Text.trim text = ""
    · rw [blank]
      decide
    · exact (settled.reason _ (mem_normalise_reason.mpr ⟨text, given, blank, rfl⟩)).1
  · intro neat
    refine
      { reason := ?_
        products := (normalise_products rt value).2
        covers := fun field inside => lookup_foldl_isSome (sets_limits rt) _
          (lookup_ne_none.mpr ⟨field, inside, rfl⟩)
        institutions := (normalise_institutions rt value).2
        scopes := (normalise_scopes rt value).2 }
    intro reason inside
    obtain ⟨text, given, nonempty, rfl⟩ := mem_normalise_reason.mp inside
    exact ⟨neat text given, slice_ne_empty nonempty⟩

/-- The record has the names of the object. -/
def Named {α : Type} (v : Option Json) (fields : List (String × α)) : Prop :=
  ∀ k, fields.lookup k ≠ none ↔ ∃ entry ∈ objectFields v, entry.1 = k

theorem named_setFields {α : Type} (es fields : List (String × α)) (k : String) :
    (es.foldl (fun fields e => setField fields e.1 e.2) fields).lookup k ≠ none ↔
      fields.lookup k ≠ none ∨ ∃ e ∈ es, e.1 = k := by
  induction es generalizing fields with
  | nil => simp
  | cons e es ih =>
    rw [List.foldl_cons, ih, lookup_setField]
    by_cases here : k = e.1
    · simp [here]
    · simp [here, Ne.symm here]

open Schema in
/-- The entries of a record that is read, one by one. -/
theorem entries_valid {α : Type} {names : List (String → Option String)} {item : Schema α}
    {entries : List (String × Json)} {es : List (String × α)}
    (read : (entries.map fun entry =>
        (Prod.mk <$> passing names entry.1 <*> item (some entry.2)).under entry.1).foldr
          (fun first rest => (· :: ·) <$> first <*> rest) (.valid []) = .valid es) :
    es.map Prod.fst = entries.map Prod.fst ∧ ∀ e ∈ es, (∀ check ∈ names, check e.1 = none) ∧
      ∃ value, item (some value) = .valid e.2 := by
  induction entries generalizing es with
  | nil =>
    obtain rfl := Checked.valid.inj read
    exact ⟨rfl, fun _ inside => absurd inside (by simp)⟩
  | cons entry entries ih =>
    rw [List.map_cons, List.foldr_cons, Checked.seq_eq_valid] at read
    obtain ⟨g, rest, first, others, rfl⟩ := read
    obtain ⟨e, here, rfl⟩ := Checked.map_eq_valid.mp first
    obtain ⟨g, value, name, checked, rfl⟩ :=
      Checked.seq_eq_valid.mp (Checked.under_eq_valid.mp here)
    obtain ⟨key, passed, rfl⟩ := Checked.map_eq_valid.mp name
    obtain ⟨rfl, passes⟩ := passing_eq_valid.mp passed
    obtain ⟨same, all⟩ := ih others
    refine ⟨?_, fun e inside => ?_⟩
    · rw [List.map_cons, List.map_cons, same]
    · rcases List.mem_cons.mp inside with rfl | later
      · exact ⟨passes, _, checked⟩
      · exact all e later

open Schema in
/-- The names and the values of a record that is read. -/
theorem recordOf_valid {α : Type} {names : List (String → Option String)} {item : Schema α}
    {v : Option Json} {fields : List (String × α)} (read : recordOf names item v = .valid fields) :
    (fields.map Prod.fst).Nodup ∧ Named v fields ∧
      ∀ field ∈ fields, (∀ check ∈ names, check field.1 = none) ∧
        ∃ value, item (some value) = .valid field.2 := by
  unfold recordOf at read
  split at read
  · rename_i entries
    obtain ⟨es, listed, rfl⟩ := Checked.map_eq_valid.mp read
    obtain ⟨same, good⟩ := entries_valid listed
    refine ⟨?_, fun k => ?_, ?_⟩
    · exact List.foldlRecOn (motive := fun result : List (String × α) =>
        (result.map Prod.fst).Nodup) es _ List.nodup_nil
          fun result kept e _ => nodup_setField kept e.1 e.2
    · rw [named_setFields, or_iff_right (by simp)]
      show (∃ e ∈ es, e.1 = k) ↔ ∃ entry ∈ entries, entry.1 = k
      rw [← List.mem_map, same, List.mem_map]
    · refine List.foldlRecOn (motive := fun result : List (String × α) => ∀ field ∈ result,
        (∀ check ∈ names, check field.1 = none) ∧ ∃ value, item (some value) = .valid field.2) es _
        (fun _ inside => absurd inside (by simp)) fun result kept e inside field member => ?_
      rcases mem_setField member with there | rfl
      · exact kept field there
      · exact good e inside
  · exact absurd read (by simp [invalidType])

/-- An integer that is read is within its bounds. -/
theorem bounded_valid {low high : ℤ} {v : Option Json} {z : ℤ}
    (read : bounded low high v = .valid z) : low ≤ z ∧ z ≤ high := by
  obtain ⟨-, passed⟩ := Schema.integer_eq_valid.mp read
  have above := passed (Schema.atLeast low) (by simp)
  have below := passed (Schema.atMost high) (by simp)
  unfold Schema.atLeast at above
  unfold Schema.atMost at below
  split_ifs at above below with small large
  exact ⟨by exact_mod_cast not_lt.mp small, by exact_mod_cast not_lt.mp large⟩

theorem nonempty_of_minLength {s : String} (long : Schema.minLength 1 s = none) : s ≠ "" := by
  rintro rfl
  exact absurd long (by decide)

/-- A record of limits that is read. -/
theorem listed_recordOf {α : Type} {P : α → Prop} {most : ℕ} {item : Schema α} {v : Option Json}
    {fields : List (String × α)}
    (read : recordOf [Schema.minLength 1, Schema.maxLength most] item v = .valid fields)
    (meets : ∀ v a, item v = .valid a → P a) : Listed P fields := by
  obtain ⟨different, -, each⟩ := recordOf_valid read
  refine ⟨different, fun field inside => ?_⟩
  obtain ⟨passes, value, valid⟩ := each field inside
  exact ⟨nonempty_of_minLength (passes _ (List.mem_cons_self ..)), meets _ _ valid⟩

end Bounds

end PolicySettings

end AcadID
