/-
**The rate-limit policy as an object of the runtime: an object has names that nobody set.**

* `PolicyRecord` — an object with its own fields and its prototype; `read` and `write` are
  `record[name]` and `record[name] = value`.
* `normalisePolicyControl` — the policy that a stored value stands for, its records such objects;
  a record of limits reads the limit to fall back to from the object that it is setting.
* `bounded_iff` — **every limit is an integer within its bounds** exactly when each name that objects
  inherit, where the stored value has it, has a number.
* `lookup_eq_list` — under the other names, the records are the lists of `RateLimit`.
-/

import AcadID.Lib.FirstMatch
import AcadID.Lib.FloatingPoint
import AcadID.Platform.EmergencyCap
import AcadID.Platform.PolicySettings

namespace AcadID

open Lib
open Lib.FloatingPoint (Double)

namespace PolicyObjects

open RateLimit (EmergencyMode ScopeLimit RateLimitPolicy EffectivePolicy setField lookup_setField
  objectFields defaultRateLimitPolicyControl)
open PolicySettings (Limited ScopeLimited)

/-! ### Objects -/

/-- The names that every object has from `Object.prototype`. -/
def objectPrototype : List String :=
  ["constructor", "__defineGetter__", "__defineSetter__", "hasOwnProperty", "__lookupGetter__",
    "__lookupSetter__", "isPrototypeOf", "propertyIsEnumerable", "toString", "valueOf", "__proto__",
    "toLocaleString"]

/-- What a record of the policy holds under a name. -/
inductive PolicyValue where
  | number (limit : ℤ)
  | scope (override : ScopeLimit)
  /-- What `Object.prototype` has under the name: a method, or that object itself. -/
  | inherited (name : String)

/-- An object with its own fields, and the scope that is its prototype in place of
`Object.prototype`; no own field has the name that sets the prototype. -/
structure PolicyRecord where
  own : List (String × PolicyValue)
  prototype : Option ScopeLimit
  own_proto : own.lookup "__proto__" = none

/-- What `Object.prototype` has under a name. -/
def inheritedValue (name : String) : Option PolicyValue :=
  if name ∈ objectPrototype then some (.inherited name) else none

/-- `record[name]` -/
def PolicyRecord.read (record : PolicyRecord) (name : String) : Option PolicyValue :=
  let ofPrototype := record.prototype.bind fun override =>
    [("limit", .number override.limit), ("windowSeconds", .number override.windowSeconds),
      ("__proto__", .scope override)].lookup name
  (record.own.lookup name).or (ofPrototype.or (inheritedValue name))

/-- `record[name] = value`; the name `__proto__` sets no field. -/
def PolicyRecord.write (record : PolicyRecord) (name : String) (value : PolicyValue) :
    PolicyRecord :=
  if own : name = "__proto__" then
    match value with
    | .number _ => record
    | .scope override => { record with prototype := some override }
    | .inherited _ => { record with prototype := none }
  else
    { record with
      own := setField record.own name value
      own_proto := by rw [lookup_setField, if_neg (Ne.symm own), record.own_proto] }

def PolicyValue.limit : PolicyValue → Option ℤ
  | .scope override => some override.limit
  | _ => none

def PolicyValue.windowSeconds : PolicyValue → Option ℤ
  | .scope override => some override.windowSeconds
  | _ => none

theorem lookup_map {α β : Type} (f : α → β) (fields : List (String × α)) (k : String) :
    (fields.map fun field => (field.1, f field.2)).lookup k = (fields.lookup k).map f := by
  induction fields with
  | nil => rfl
  | cons field fields ih =>
    rw [List.map_cons, RateLimit.lookup_cons_eq, RateLimit.lookup_cons_eq, ih]
    split_ifs <;> rfl

/-- An object of limits, as it is written out. -/
def ofLimits (fields : List (String × ℤ)) (unnamed : fields.lookup "__proto__" = none) :
    PolicyRecord where
  own := fields.map fun field => (field.1, .number field.2)
  prototype := none
  own_proto := by rw [lookup_map, unnamed, Option.map_none]

/-- `{}` -/
def emptyRecord : PolicyRecord :=
  ofLimits [] rfl

/-! ### The policy of a stored value -/

/-- A number as `JSON.parse` reads it, or the number that a string reads as. -/
def asNumber (rt : Runtime) : Option Json → Option Double
  | some (.num q) => some (Double.ofRat q)
  | some (.str text) =>
    -- An infinite number and `NaN` are the same to `Number.isFinite`.
    match rt.toNumber text with
    | some q => some (.finite q)
    | none => some .nan
  | _ => none

/-- A number within its bounds; what is no finite number gives way to the fallback, whatever that
is. -/
def clampNumber {α : Type} (number : ℤ → α) (value : Option Double) (min max : ℤ) (fallback : α) :
    α :=
  match value with
  | some (.finite q) => number (Min.min max (Max.max min ⌊q⌋))
  | _ => fallback

def normaliseNumberRecord (rt : Runtime) (value : Option Json) (fallback : PolicyRecord)
    (min max : ℤ) : PolicyRecord :=
  (objectFields value).foldl (fun result field =>
    let cleanKey := Text.trim field.1
    if cleanKey = "" then result
    else result.write cleanKey (clampNumber .number (asNumber rt (some field.2)) min max
      (((result.read cleanKey).or (fallback.read cleanKey)).getD (.number min))))
    { fallback with prototype := none }

def normaliseScopeOverrides (rt : Runtime) (value : Option Json) : PolicyRecord :=
  (objectFields value).foldl (fun result field =>
    match field.2 with
    | .obj _ =>
      if Text.trim field.1 = "" then result
      else result.write (Text.trim field.1) (.scope
        { limit := clampNumber id (asNumber rt (field.2.get? "limit")) 1 100000 100
          windowSeconds := clampNumber id (asNumber rt (field.2.get? "windowSeconds")) 1 3600 60 })
    | _ => result) emptyRecord

structure RateLimitPolicyControl where
  emergency : EmergencyMode
  productDefaultsPerMinute : PolicyRecord
  sandbox : ℤ
  production : ℤ
  institutionOverridesPerMinute : PolicyRecord
  scopeOverrides : PolicyRecord

def defaultProducts : PolicyRecord :=
  ofLimits defaultRateLimitPolicyControl.productDefaultsPerMinute (by decide)

def normalisePolicyControl (rt : Runtime) (value : Option Json) : RateLimitPolicyControl :=
  let source : Json := .obj (objectFields value)
  let emergency : Json := .obj (objectFields (source.get? "emergency"))
  let institutionDefaults : Json :=
    .obj (objectFields (source.get? "institutionDefaultsPerMinute"))
  { emergency :=
      { enabled := emergency.get? "enabled" == some (.bool true)
        limitPerMinute :=
          clampNumber id (asNumber rt (emergency.get? "limitPerMinute")) 1 100000 60
        reason :=
          match emergency.get? "reason" with
          | some (.str reason) =>
            if Text.trim reason = "" then none else some (Text.slice 500 (Text.trim reason))
          | _ => none }
    productDefaultsPerMinute := normaliseNumberRecord rt (source.get? "productDefaultsPerMinute")
      defaultProducts 1 100000
    sandbox := clampNumber id (asNumber rt (institutionDefaults.get? "sandbox")) 1 100000 500
    production :=
      clampNumber id (asNumber rt (institutionDefaults.get? "production")) 1 100000 2000
    institutionOverridesPerMinute := normaliseNumberRecord rt
      (source.get? "institutionOverridesPerMinute") emptyRecord 1 100000
    scopeOverrides := normaliseScopeOverrides rt (source.get? "scopeOverrides") }

def applyEmergencyCap (limit : ℤ) (policy : RateLimitPolicyControl) : ℤ :=
  if policy.emergency.enabled then min limit policy.emergency.limitPerMinute else limit

/-- The limit and the window of a request under its route's policy. -/
def effectiveRequestPolicy (policy : RateLimitPolicy) (control : RateLimitPolicyControl) :
    EffectivePolicy :=
  let override := control.scopeOverrides.read policy.scope
  { scope := policy.scope
    limit := applyEmergencyCap ((override.bind (·.limit)).getD policy.limit) control
    windowSeconds :=
      (override.bind (·.windowSeconds)).getD (policy.windowSeconds.getD 60) }

/-! ### Bounds -/

def IsLimit (value : PolicyValue) : Prop :=
  ∃ limit, value = .number limit ∧ Limited limit

def IsScope (value : PolicyValue) : Prop :=
  ∃ override, value = .scope override ∧ ScopeLimited override

/-- What an object holds under each of its own names. -/
def Holds (P : PolicyValue → Prop) (record : PolicyRecord) : Prop :=
  ∀ name value, record.own.lookup name = some value → P value

/-- Every limit and every window of the policy is an integer within its bounds. -/
structure Bounded (policy : RateLimitPolicyControl) : Prop where
  emergency : Limited policy.emergency.limitPerMinute
  products : Holds IsLimit policy.productDefaultsPerMinute
  sandbox : Limited policy.sandbox
  production : Limited policy.production
  institutions : Holds IsLimit policy.institutionOverridesPerMinute
  scopes : Holds IsScope policy.scopeOverrides
  prototype : ∀ override ∈ policy.scopeOverrides.prototype, ScopeLimited override

/-- A request under a scope override is counted in a window of some length, against a number. -/
def Safe (policy : RateLimitPolicyControl) : Prop :=
  ∀ (route : RateLimitPolicy) (override : ScopeLimit),
    policy.scopeOverrides.read route.scope = some (.scope override) →
      let effective := effectiveRequestPolicy route policy
      (∃ limit : ℤ, effective.limit = limit ∧ Limited limit) ∧
        effective.windowSeconds * 1000 ≠ 0 ∧ 1 ≤ effective.windowSeconds ∧
        effective.windowSeconds ≤ 3600

/-- A finite number, or a string that reads as one. -/
def ReadsFinite (rt : Runtime) (raw : Json) : Prop :=
  ∃ q, asNumber rt (some raw) = some (.finite q)

/-- Each name of a record that objects inherit has a number there, if not `__proto__`. -/
def Covered (rt : Runtime) (record : Option Json) : Prop :=
  ∀ entry ∈ objectFields record, Text.trim entry.1 ∈ objectPrototype →
    Text.trim entry.1 ≠ "__proto__" →
      ∃ other ∈ objectFields record, Text.trim other.1 = Text.trim entry.1 ∧
        ReadsFinite rt other.2

/-! ### What a record of limits holds -/

section Record

variable {rt : Runtime} {min max : ℤ}

theorem clampNumber_eq_getD {α : Type} (number : ℤ → α) (value : Option Double) (fallback : α) :
    clampNumber number value min max fallback =
      (clampNumber (fun limit => some (number limit)) value min max none).getD fallback := by
  unfold clampNumber
  split <;> rfl

theorem clampNumber_within (value : Option Double) {fallback : ℤ} (ordered : min ≤ max)
    (within : min ≤ fallback ∧ fallback ≤ max) :
    min ≤ clampNumber id value min max fallback ∧
      clampNumber id value min max fallback ≤ max := by
  unfold clampNumber
  split
  · exact ⟨le_min ordered (le_max_left min _), min_le_left max _⟩
  · exact within

theorem lookup_write (record : PolicyRecord) (name : String) (value : PolicyValue) (k : String) :
    (record.write name value).own.lookup k =
      if k = name ∧ name ≠ "__proto__" then some value else record.own.lookup k := by
  unfold PolicyRecord.write
  by_cases proto : name = "__proto__"
  · rw [dif_pos proto, if_neg fun both => both.2 proto]
    cases value <;> rfl
  · rw [dif_neg proto, lookup_setField]
    exact if_congr (and_iff_left proto).symm rfl rfl

theorem read_of_plain {record : PolicyRecord} (plain : record.prototype = none) (k : String) :
    record.read k = (record.own.lookup k).or (inheritedValue k) := by
  unfold PolicyRecord.read
  rw [plain]
  rfl

/-- What an entry sets its name to, if it is a number. -/
def finiteLimit (rt : Runtime) (min max : ℤ) (entry : String × Json) : Option PolicyValue :=
  clampNumber (fun limit => some (.number limit)) (asNumber rt (some entry.2)) min max none

/-- What an entry sets its name to in a record. -/
def entryLimit (rt : Runtime) (fallback : PolicyRecord) (min max : ℤ) (record : PolicyRecord)
    (entry : String × Json) : PolicyValue :=
  (finiteLimit rt min max entry).getD
    (((record.read (Text.trim entry.1)).or (fallback.read (Text.trim entry.1))).getD (.number min))

/-- One entry of `normaliseNumberRecord`. -/
def setLimit (rt : Runtime) (fallback : PolicyRecord) (min max : ℤ) (record : PolicyRecord)
    (entry : String × Json) : PolicyRecord :=
  if Text.trim entry.1 = "" then record
  else record.write (Text.trim entry.1) (entryLimit rt fallback min max record entry)

theorem normaliseNumberRecord_eq (rt : Runtime) (value : Option Json) (fallback : PolicyRecord) :
    normaliseNumberRecord rt value fallback min max =
      (objectFields value).foldl (setLimit rt fallback min max)
        { fallback with prototype := none } := by
  unfold normaliseNumberRecord setLimit entryLimit finiteLimit
  simp only [clampNumber_eq_getD PolicyValue.number]

/-- A record under `Object.prototype` that has not lost a name of the fallback. -/
def Extends (fallback : PolicyRecord) (k : String) (record : PolicyRecord) : Prop :=
  record.prototype = none ∧ (fallback.own.lookup k ≠ none → record.own.lookup k ≠ none)

/-- The fallback adds nothing to a record that extends it. -/
theorem read_or_fallback {fallback record : PolicyRecord} {k : String}
    (plain : fallback.prototype = none) (extended : Extends fallback k record) :
    (record.read k).or (fallback.read k) = (record.own.lookup k).or (inheritedValue k) := by
  rw [read_of_plain extended.1, read_of_plain plain]
  cases found : record.own.lookup k with
  | some value => rfl
  | none =>
    have absent : fallback.own.lookup k = none := by
      by_contra there
      exact extended.2 there found
    rw [absent, Option.none_or, Option.or_self]

/-- What an entry sets is no scope where its name is `__proto__`: a number, or the prototype that
the record has already. -/
theorem entryLimit_proto {fallback record : PolicyRecord} (plain : record.prototype = none)
    {entry : String × Json} (proto : Text.trim entry.1 = "__proto__") (override : ScopeLimit) :
    entryLimit rt fallback min max record entry ≠ .scope override := by
  have read : record.read "__proto__" = some (.inherited "__proto__") := by
    rw [read_of_plain plain, record.own_proto]
    rfl
  unfold entryLimit finiteLimit clampNumber
  rw [proto, read]
  split <;> simp

/-- The prototype stays what it is. -/
theorem extends_setLimit {fallback record : PolicyRecord} {k : String}
    (extended : Extends fallback k record) (entry : String × Json) :
    Extends fallback k (setLimit rt fallback min max record entry) := by
  unfold setLimit
  split_ifs
  · exact extended
  · refine ⟨?_, fun there => ?_⟩
    · unfold PolicyRecord.write
      split_ifs with proto
      · cases set : entryLimit rt fallback min max record entry with
        | number limit => exact extended.1
        | scope override => exact absurd set (entryLimit_proto extended.1 proto override)
        | inherited name => rfl
      · exact extended.1
    · rw [lookup_write]
      split_ifs
      · simp
      · exact extended.2 there

/-- The last number that the entries give a name. -/
def givenLimit (rt : Runtime) (min max : ℤ) (entries : List (String × Json)) (k : String) :
    Option PolicyValue :=
  (entries.filter fun entry => decide (Text.trim entry.1 = k)).reverse.findSome?
    (finiteLimit rt min max)

/-- **What a record of limits holds under a name**: the last number that is given, or else what an
object that holds the fallback reads there, if the name is given at all. -/
theorem lookup_normaliseNumberRecord (rt : Runtime) (value : Option Json) {fallback : PolicyRecord}
    (min max : ℤ) (plain : fallback.prototype = none) {k : String} (named : k ≠ "")
    (own : k ≠ "__proto__") :
    (normaliseNumberRecord rt value fallback min max).own.lookup k =
      (givenLimit rt min max (objectFields value) k).or
        (if (objectFields value).any (fun entry => decide (Text.trim entry.1 = k)) = true then
            some ((fallback.read k).getD (.number min))
          else fallback.own.lookup k) := by
  have start : (fallback.own.lookup k).getD ((inheritedValue k).getD (.number min)) =
      (fallback.read k).getD (.number min) := by
    rw [read_of_plain plain]
    cases fallback.own.lookup k <;> rfl
  rw [normaliseNumberRecord_eq, ← start]
  refine FirstMatch.read_foldl_getD (Extends fallback k) (setLimit rt fallback min max)
    (fun record => record.own.lookup k) _ (finiteLimit rt min max) _
    (fun record entry extended => extends_setLimit extended entry) ?_ (objectFields value)
    (s := { fallback with prototype := none }) ⟨rfl, id⟩
  intro record entry extended
  by_cases here : Text.trim entry.1 = k
  · rw [if_pos (decide_eq_true here)]
    unfold setLimit entryLimit
    rw [here, if_neg named, lookup_write, if_pos ⟨rfl, own⟩, read_or_fallback plain extended]
    cases record.own.lookup k <;> rfl
  · rw [if_neg (by simpa using here)]
    unfold setLimit
    split_ifs
    · rfl
    · rw [lookup_write, if_neg fun both => here both.1.symm]

theorem lookup_normaliseNumberRecord_empty (rt : Runtime) (value : Option Json)
    (fallback : PolicyRecord) :
    (normaliseNumberRecord rt value fallback min max).own.lookup "" = fallback.own.lookup "" := by
  rw [normaliseNumberRecord_eq]
  refine List.foldlRecOn (motive := fun record : PolicyRecord =>
    record.own.lookup "" = fallback.own.lookup "") _ _ rfl fun record kept entry _ => ?_
  unfold setLimit
  split_ifs with blank
  · exact kept
  · rw [lookup_write, if_neg fun both => blank both.1.symm, kept]

theorem finiteLimit_eq_none {entry : String × Json} :
    finiteLimit rt min max entry = none ↔ ¬ ReadsFinite rt entry.2 := by
  unfold finiteLimit clampNumber ReadsFinite
  split
  · rename_i q is
    exact ⟨fun none_ => absurd none_ (by simp), fun not => absurd ⟨q, is⟩ not⟩
  · rename_i other
    refine ⟨fun _ => ?_, fun _ => rfl⟩
    rintro ⟨q, is⟩
    exact absurd is (other q)

theorem givenLimit_eq_none {entries : List (String × Json)} {k : String} :
    givenLimit rt min max entries k = none ↔
      ∀ entry ∈ entries, Text.trim entry.1 = k → ¬ ReadsFinite rt entry.2 := by
  unfold givenLimit
  rw [List.findSome?_eq_none_iff]
  simp only [List.mem_reverse, List.mem_filter, decide_eq_true_eq, and_imp, finiteLimit_eq_none]

theorem isLimit_of_givenLimit {entries : List (String × Json)} {k : String} {value : PolicyValue}
    (given : givenLimit rt 1 100000 entries k = some value) : IsLimit value := by
  obtain ⟨entry, -, is⟩ := List.exists_of_findSome?_eq_some given
  unfold finiteLimit clampNumber at is
  split at is
  · obtain rfl := Option.some.inj is
    exact ⟨_, rfl, le_min (by decide) (le_max_left 1 _), min_le_left 100000 _⟩
  · exact absurd is (by simp)

/-- **A record of limits holds limits** exactly when its inherited names have numbers. -/
theorem holds_normaliseNumberRecord_iff (rt : Runtime) (value : Option Json)
    {fallback : PolicyRecord} (plain : fallback.prototype = none)
    (bounded : Holds IsLimit fallback)
    (fresh : ∀ name ∈ objectPrototype, fallback.own.lookup name = none) :
    Holds IsLimit (normaliseNumberRecord rt value fallback 1 100000) ↔ Covered rt value := by
  constructor
  · intro holds entry inside inherited proto
    have named : Text.trim entry.1 ≠ "" := by
      intro blank
      rw [blank] at inherited
      exact absurd inherited (by decide)
    have any : (objectFields value).any
        (fun other => decide (Text.trim other.1 = Text.trim entry.1)) = true :=
      List.any_eq_true.mpr ⟨entry, inside, decide_eq_true rfl⟩
    have found := lookup_normaliseNumberRecord rt value 1 100000 plain named proto
    rw [if_pos any, read_of_plain plain, fresh _ inherited, inheritedValue, if_pos inherited]
      at found
    by_contra uncovered
    have none_ : givenLimit rt 1 100000 (objectFields value) (Text.trim entry.1) = none :=
      givenLimit_eq_none.mpr fun other there same number =>
        uncovered ⟨other, there, same, number⟩
    rw [none_] at found
    obtain ⟨limit, is, -⟩ := holds _ _ found
    exact absurd is (by simp)
  · intro covered name held found
    by_cases blank : name = ""
    · rw [blank, lookup_normaliseNumberRecord_empty] at found
      exact bounded _ _ found
    have proto : name ≠ "__proto__" := by
      rintro rfl
      rw [PolicyRecord.own_proto] at found
      exact absurd found (by simp)
    rw [lookup_normaliseNumberRecord rt value 1 100000 plain blank proto] at found
    cases given : givenLimit rt 1 100000 (objectFields value) name with
    | some last =>
      rw [given, Option.some_or] at found
      exact isLimit_of_givenLimit (given.trans found)
    | none =>
      rw [given, Option.none_or] at found
      split_ifs at found with any
      · -- The name is given, and without a number: objects do not inherit it.
        obtain rfl := Option.some.inj found
        obtain ⟨entry, inside, same⟩ := List.any_eq_true.mp any
        have here : Text.trim entry.1 = name := of_decide_eq_true same
        have outside : name ∉ objectPrototype := by
          intro inherited
          obtain ⟨other, there, also, number⟩ :=
            covered entry inside (here ▸ inherited) (here ▸ proto)
          exact givenLimit_eq_none.mp given other there (also.trans here) number
        rw [read_of_plain plain, inheritedValue, if_neg outside, Option.or_none]
        cases before : fallback.own.lookup name with
        | none => exact ⟨1, rfl, by decide, by decide⟩
        | some value => exact bounded _ _ before
      · exact bounded _ _ found

end Record

/-! ### The policy -/

section Policy

variable (rt : Runtime)

theorem holds_emptyRecord (P : PolicyValue → Prop) : Holds P emptyRecord :=
  fun _ _ found => absurd found (by simp [emptyRecord, ofLimits])

theorem holds_defaultProducts : Holds IsLimit defaultProducts := by
  intro name value found
  have limits := PolicySettings.listed_defaults
  obtain ⟨before, after, is, -⟩ := List.lookup_eq_some_iff.mp found
  have inside : (name, value) ∈ defaultProducts.own := by
    rw [is]
    simp
  obtain ⟨field, listed, same⟩ := List.mem_map.mp inside
  obtain ⟨rfl, rfl⟩ := Prod.mk.inj same
  exact ⟨field.2, rfl, (limits.2 field listed).2⟩

/-- What a record of scopes holds: scopes within their bounds, also as its prototype. -/
def HoldsScopes (record : PolicyRecord) : Prop :=
  Holds IsScope record ∧ ∀ override ∈ record.prototype, ScopeLimited override

theorem holdsScopes_write {record : PolicyRecord} (holds : HoldsScopes record) (name : String)
    {override : ScopeLimit} (limited : ScopeLimited override) :
    HoldsScopes (record.write name (.scope override)) := by
  refine ⟨fun k value found => ?_, fun prototype is => ?_⟩
  · rw [lookup_write] at found
    split_ifs at found
    · exact ⟨override, (Option.some.inj found).symm, limited⟩
    · exact holds.1 k value found
  · unfold PolicyRecord.write at is
    split_ifs at is
    · obtain rfl := Option.some.inj is
      exact limited
    · exact holds.2 prototype is

/-- **Every scope is within its bounds**, whatever its name. -/
theorem holdsScopes_normaliseScopeOverrides (value : Option Json) :
    HoldsScopes (normaliseScopeOverrides rt value) := by
  refine List.foldlRecOn (motive := HoldsScopes) _ _
    ⟨holds_emptyRecord IsScope, fun override is => absurd is (by simp [emptyRecord, ofLimits])⟩ ?_
  intro record holds entry _
  split
  · split_ifs
    · exact holds
    · refine holdsScopes_write holds _ ⟨?_, ?_⟩
      · exact clampNumber_within _ (by decide) ⟨by decide, by decide⟩
      · exact clampNumber_within _ (by decide) ⟨by decide, by decide⟩
  · exact holds

/-- A scope that is read of a record is an own one, or the prototype. -/
theorem scopeLimited_of_read {record : PolicyRecord} (holds : HoldsScopes record) {name : String}
    {override : ScopeLimit} (read : record.read name = some (.scope override)) :
    ScopeLimited override := by
  unfold PolicyRecord.read at read
  cases found : record.own.lookup name with
  | some value =>
    rw [found] at read
    obtain ⟨held, is, limited⟩ := holds.1 name value found
    rw [is] at read
    obtain rfl := PolicyValue.scope.inj (Option.some.inj read)
    exact limited
  | none =>
    rw [found, Option.none_or] at read
    have outside : inheritedValue name ≠ some (.scope override) := by
      unfold inheritedValue
      split_ifs <;> simp
    cases prototype : record.prototype with
    | none =>
      rw [prototype] at read
      exact absurd read outside
    | some scope =>
      rw [prototype, Option.bind_some] at read
      simp only [RateLimit.lookup_cons_eq, List.lookup_nil] at read
      split_ifs at read
      · exact absurd read (by simp)
      · exact absurd read (by simp)
      · obtain rfl := PolicyValue.scope.inj (Option.some.inj read)
        exact holds.2 scope prototype
      · exact absurd read outside

theorem limited_emergency (stored : Option Json) :
    Limited (normalisePolicyControl rt stored).emergency.limitPerMinute :=
  clampNumber_within _ (by decide) ⟨by decide, by decide⟩

theorem limited_applyEmergencyCap {policy : RateLimitPolicyControl} {limit : ℤ}
    (emergency : Limited policy.emergency.limitPerMinute) (limited : Limited limit) :
    Limited (applyEmergencyCap limit policy) := by
  unfold applyEmergencyCap
  split_ifs
  · exact ⟨le_min limited.1 emergency.1, (min_le_left _ _).trans limited.2⟩
  · exact limited

/-- **A request under a scope override is counted safely**, whatever is stored. -/
theorem safe_normalise (stored : Option Json) : Safe (normalisePolicyControl rt stored) := by
  intro route override read
  have scope : ScopeLimited override :=
    scopeLimited_of_read (holdsScopes_normaliseScopeOverrides rt _) read
  have limit := limited_applyEmergencyCap (limited_emergency rt stored) scope.1
  unfold effectiveRequestPolicy
  dsimp only
  rw [read]
  refine ⟨⟨_, rfl, limit⟩, ?_, scope.2⟩
  have positive := scope.2.1
  show override.windowSeconds * 1000 ≠ 0
  omega

/-- **Every limit and every window is an integer within its bounds** exactly when the names that
objects inherit have numbers, in the record of products and in that of institutions. -/
theorem bounded_iff (stored : Option Json) :
    Bounded (normalisePolicyControl rt stored) ∧ Safe (normalisePolicyControl rt stored) ↔
      Covered rt ((Json.obj (objectFields stored)).get? "productDefaultsPerMinute") ∧
        Covered rt ((Json.obj (objectFields stored)).get? "institutionOverridesPerMinute") := by
  have products := holds_normaliseNumberRecord_iff rt
    ((Json.obj (objectFields stored)).get? "productDefaultsPerMinute") rfl holds_defaultProducts
    (by decide)
  have institutions := holds_normaliseNumberRecord_iff rt
    ((Json.obj (objectFields stored)).get? "institutionOverridesPerMinute") rfl
    (holds_emptyRecord IsLimit) (by decide)
  have scopes := holdsScopes_normaliseScopeOverrides rt
    ((Json.obj (objectFields stored)).get? "scopeOverrides")
  constructor
  · rintro ⟨bounded, -⟩
    exact ⟨products.mp bounded.products, institutions.mp bounded.institutions⟩
  · rintro ⟨productsCovered, institutionsCovered⟩
    refine ⟨?_, safe_normalise rt stored⟩
    exact
      { emergency := limited_emergency rt stored
        products := products.mpr productsCovered
        sandbox := clampNumber_within _ (by decide) ⟨by decide, by decide⟩
        production := clampNumber_within _ (by decide) ⟨by decide, by decide⟩
        institutions := institutions.mpr institutionsCovered
        scopes := scopes.1
        prototype := scopes.2 }

/-- **An institution override of `toString` that is no number** is the method of every object. -/
theorem bounded_fails :
    ¬ ∀ (rt : Runtime) (stored : Json), Bounded (normalisePolicyControl rt (some stored)) ∧
        Safe (normalisePolicyControl rt (some stored)) := by
  intro all
  have bounded := (all .plain
    (.obj [("institutionOverridesPerMinute", .obj [("toString", .null)])])).1
  obtain ⟨limit, is, -⟩ := bounded.institutions "toString" (.inherited "toString")
    rfl
  exact absurd is (by simp)

end Policy

/-! ### The records as lists -/

section Lists

variable {rt : Runtime} {min max : ℤ}

/-- Every number of a record is one of the runtime. -/
def Exact (record : Option Json) : Prop :=
  ∀ entry ∈ objectFields record, ∀ q, entry.2 = .num q → Double.ofRat q = .finite q

theorem clampNumber_eq_list {raw : Json} (exact_ : ∀ q, raw = .num q → Double.ofRat q = .finite q)
    (fallback : ℤ) :
    clampNumber PolicyValue.number (asNumber rt (some raw)) min max (.number fallback) =
      .number (RateLimit.clampNumber (RateLimit.asNumber rt (some raw)) min max fallback) := by
  cases raw with
  | num q =>
    show clampNumber PolicyValue.number (some (Double.ofRat q)) min max _ = _
    rw [exact_ q rfl]
    rfl
  | str text =>
    unfold asNumber RateLimit.asNumber
    dsimp only
    cases rt.toNumber text <;> rfl
  | _ => rfl

/-- **Under a name that objects do not inherit**, the record holds what the list of limits holds. -/
theorem lookup_eq_list (rt : Runtime) {value : Option Json} (exact_ : Exact value)
    (fields : List (String × ℤ)) (unnamed : fields.lookup "__proto__" = none) {k : String}
    (outside : k ∉ objectPrototype) :
    (normaliseNumberRecord rt value (ofLimits fields unnamed) min max).own.lookup k =
      ((RateLimit.normaliseNumberRecord rt value fields min max).lookup k).map .number := by
  have proto : k ≠ "__proto__" := by
    rintro rfl
    exact outside (by decide)
  have uninherited : inheritedValue k = none := if_neg outside
  rw [normaliseNumberRecord_eq]
  refine (List.foldl_rel (r := fun (record : PolicyRecord) (list : List (String × ℤ)) =>
    Extends (ofLimits fields unnamed) k record ∧
      record.own.lookup k = (list.lookup k).map .number) ⟨⟨rfl, id⟩, lookup_map _ fields k⟩ ?_).2
  rintro entry inside record list ⟨extended, same⟩
  refine ⟨extends_setLimit extended entry, ?_⟩
  unfold setLimit
  dsimp only
  split_ifs with blank
  · exact same
  rw [lookup_write, lookup_setField]
  by_cases here : k = Text.trim entry.1
  · have read := read_or_fallback rfl extended
    rw [uninherited, Option.or_none, same, here] at read
    rw [if_pos ⟨here, here ▸ proto⟩, if_pos here]
    unfold entryLimit finiteLimit
    rw [← clampNumber_eq_getD, read, Option.getD_map, clampNumber_eq_list (exact_ entry inside)]
    rfl
  · rw [if_neg fun both => here both.1, if_neg here]
    exact same

end Lists

end PolicyObjects

end AcadID
