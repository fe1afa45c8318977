/-
**What saving a rate-limit policy leaves in the settings.**

* `saveSettings_spec` — a save commits all of its settings or none of them.
* `readFrom_rateLimits` — what the schema of the settings keeps of a policy that was given.
* `shown_iff_neat` — **exactly when the saved policy that is shown is the one that is enforced**:
  when its names and its reason have no white space at their ends and no default product is missing.
* `frame_iff` — **exactly when an update leaves alone what its body does not mention**: when it is
  refused or fails, or when all of that had its default value.
-/

import AcadID.Platform.PolicySettings

namespace AcadID

open Lib

namespace PolicySettings

open RateLimit

/-! ### Settings that are read -/

/-- A reason that is read is the text that was given, of at most five hundred code units. -/
theorem reason_valid {v : Option Json} {reason : Option (Option String)}
    (read : Schema.optional (Schema.nullable (Schema.string [Schema.maxLength 500])) v =
      .valid reason) (text : String) :
    (text ∈ reason.join ↔ v = some (.str text)) ∧
      (text ∈ reason.join → Text.utf16Length text ≤ 500) := by
  cases v with
  | none =>
    obtain rfl := Checked.valid.inj read
    simp
  | some value =>
    obtain ⟨inner, nullable, rfl⟩ := Schema.optional_eq_valid.mp read
    unfold Schema.nullable at nullable
    split at nullable
    · rename_i empty
      obtain rfl := Checked.valid.inj nullable
      simp [Option.some.inj empty]
    · obtain ⟨s, valid, rfl⟩ := Checked.map_eq_valid.mp nullable
      obtain ⟨given, passed⟩ := Schema.string_eq_valid.mp valid
      have short := passed _ (List.mem_singleton_self _)
      unfold Schema.maxLength at short
      split_ifs at short with long
      rw [given]
      refine ⟨by simp, fun inside => ?_⟩
      obtain rfl : s = text := by simpa using inside
      exact not_lt.mp long

/-- The section `name` of a policy as it was given. -/
def sectionOf (given : Option Json) (name : String) : Option Json :=
  given.bind (·.get? name)

/-- What the schema reads of a policy that was given. -/
structure ReadFrom (given : Option Json) (policy : RateLimitPolicyControl) : Prop where
  bounds : InBounds policy
  reason : ∀ text, text ∈ policy.emergency.reason ↔
    sectionOf (sectionOf given "emergency") "reason" = some (.str text)
  products : Named (sectionOf given "productDefaultsPerMinute") policy.productDefaultsPerMinute
  institutions :
    Named (sectionOf given "institutionOverridesPerMinute") policy.institutionOverridesPerMinute
  scopes : Named (sectionOf given "scopeOverrides") policy.scopeOverrides

/-- An object that is read. -/
theorem object_valid {α : Type} {read : Json → Checked α} {v : Option Json} {a : α}
    (valid : Schema.object read v = .valid a) : ∃ w, v = some w ∧ read w = .valid a := by
  unfold Schema.object at valid
  split at valid
  · exact ⟨_, rfl, valid⟩
  · exact absurd valid (by simp [Schema.invalidType])

open Schema in
/-- **A policy that the schema reads** is within its bounds, and has the names and the reason that
were given. -/
theorem readFrom_rateLimits {given : Option Json} {saved : SavedPolicy}
    (read : rateLimitsSchema given = .valid saved) : ReadFrom given saved.policy := by
  obtain ⟨w, rfl, fields⟩ := object_valid read
  obtain ⟨_, scopes, read4, readScopes, rfl⟩ := Checked.seq_eq_valid.mp fields
  obtain ⟨_, institutions, read3, readInstitutions, rfl⟩ := Checked.seq_eq_valid.mp read4
  obtain ⟨_, defaults, read2, readDefaults, rfl⟩ := Checked.seq_eq_valid.mp read3
  obtain ⟨_, products, read1, readProducts, rfl⟩ := Checked.seq_eq_valid.mp read2
  obtain ⟨emergency, readEmergency, rfl⟩ := Checked.map_eq_valid.mp read1
  obtain ⟨e, isEmergency, emergencyFields⟩ := object_valid (field_eq_valid.mp readEmergency)
  obtain ⟨_, reason, limited, readReason, rfl⟩ := Checked.seq_eq_valid.mp emergencyFields
  obtain ⟨_, limit, enabled, readLimit, rfl⟩ := Checked.seq_eq_valid.mp limited
  obtain ⟨_, -, rfl⟩ := Checked.map_eq_valid.mp enabled
  obtain ⟨d, -, defaultFields⟩ := object_valid (field_eq_valid.mp readDefaults)
  obtain ⟨_, production, first, readProduction, rfl⟩ := Checked.seq_eq_valid.mp defaultFields
  obtain ⟨sandbox, readSandbox, rfl⟩ := Checked.map_eq_valid.mp first
  have reasons := reason_valid (field_eq_valid.mp readReason)
  exact
    { bounds :=
        { emergency := bounded_valid (field_eq_valid.mp readLimit)
          reason := fun text => (reasons text).2
          products := listed_recordOf (field_eq_valid.mp readProducts) fun _ _ => bounded_valid
          sandbox := bounded_valid (field_eq_valid.mp readSandbox)
          production := bounded_valid (field_eq_valid.mp readProduction)
          institutions :=
            listed_recordOf (field_eq_valid.mp readInstitutions) fun _ _ => bounded_valid
          scopes := by
            refine listed_recordOf (field_eq_valid.mp readScopes) fun v scope valid => ?_
            obtain ⟨o, -, scopeFields⟩ := object_valid valid
            obtain ⟨_, windowSeconds, limited, readSeconds, rfl⟩ :=
              Checked.seq_eq_valid.mp scopeFields
            obtain ⟨limit, readLimit, rfl⟩ := Checked.map_eq_valid.mp limited
            exact ⟨bounded_valid (field_eq_valid.mp readLimit),
              bounded_valid (field_eq_valid.mp readSeconds)⟩ }
      reason := by
        intro text
        refine (reasons text).1.trans ?_
        show _ ↔ sectionOf (w.get? "emergency") "reason" = _
        rw [isEmergency]
        rfl
      products := (recordOf_valid (field_eq_valid.mp readProducts)).2.1
      institutions := (recordOf_valid (field_eq_valid.mp readInstitutions)).2.1
      scopes := (recordOf_valid (field_eq_valid.mp readScopes)).2.1 }

/-- The names have no white space at their ends. -/
def NeatNames (v : Option Json) : Prop :=
  ∀ entry ∈ objectFields v, Text.Trimmed entry.1

theorem neatNames_iff {α : Type} {v : Option Json} {fields : List (String × α)}
    (named : Named v fields) : (∀ field ∈ fields, Text.Trimmed field.1) ↔ NeatNames v := by
  constructor
  · intro trimmed entry inside
    obtain ⟨field, member, same⟩ := lookup_ne_none.mp ((named entry.1).mpr ⟨entry, inside, rfl⟩)
    exact same ▸ trimmed field member
  · intro neat field member
    obtain ⟨entry, inside, same⟩ := (named field.1).mp (lookup_ne_none.mpr ⟨field, member, rfl⟩)
    exact same ▸ neat entry inside

/-- A policy as it was given: its names and its reason have no white space at their ends, and every
default product is there. -/
structure Neat (given : Option Json) : Prop where
  reason : ∀ text, sectionOf (sectionOf given "emergency") "reason" = some (.str text) →
    Text.Trimmed text ∧ text ≠ ""
  products : NeatNames (sectionOf given "productDefaultsPerMinute")
  covers : ∀ field ∈ defaultRateLimitPolicyControl.productDefaultsPerMinute,
    ∃ entry ∈ objectFields (sectionOf given "productDefaultsPerMinute"), entry.1 = field.1
  institutions : NeatNames (sectionOf given "institutionOverridesPerMinute")
  scopes : NeatNames (sectionOf given "scopeOverrides")

theorem settled_iff_neat {given : Option Json} {policy : RateLimitPolicyControl}
    (read : ReadFrom given policy) : Settled policy ↔ Neat given := by
  constructor
  · intro settled
    exact
      { reason := fun text has => settled.reason text ((read.reason text).mpr has)
        products := (neatNames_iff read.products).mp settled.products
        covers := fun field inside => (read.products field.1).mp (settled.covers field inside)
        institutions := (neatNames_iff read.institutions).mp settled.institutions
        scopes := (neatNames_iff read.scopes).mp settled.scopes }
  · intro neat
    exact
      { reason := fun text has => neat.reason text ((read.reason text).mp has)
        products := (neatNames_iff read.products).mpr neat.products
        covers := fun field inside => (read.products field.1).mpr (neat.covers field inside)
        institutions := (neatNames_iff read.institutions).mpr neat.institutions
        scopes := (neatNames_iff read.scopes).mpr neat.scopes }

/-! ### What is saved -/

/-- **A setting is updated or created**, and the other ones stay. -/
theorem upsertSetting_spec (key : String) (value : Json) (s : Store) :
    ∃ t, upsertSetting key value s = .ok t ∧
      ∀ k, storedSetting t k = if key = k then some value else storedSetting s k := by
  unfold upsertSetting
  cases found : s.platformSettings.find? key with
  | some setting =>
    refine ⟨_, bind_eq_ok.mpr ⟨(_, _), updateRow_eq_ok.mpr ⟨setting, found, rfl, rfl⟩, rfl⟩, ?_⟩
    intro k
    show ((s.platformSettings.update key (fun setting => { setting with value := value })
      fun _ => rfl).find? k).map _ = _
    rw [Table.find?_update]
    by_cases here : key = k
    · rw [if_pos here, if_pos here, ← here, found]
      rfl
    · rw [if_neg here, if_neg here]
      rfl
  | none =>
    obtain ⟨platformSettings, inserted⟩ :=
      Table.insert_of_fresh (r := PlatformSetting.mk key value) (Table.find?_eq_none.mp found)
    refine ⟨_, bind_eq_ok.mpr ⟨platformSettings, orThrow_eq_ok.mpr inserted, rfl⟩, ?_⟩
    intro k
    show (platformSettings.find? k).map _ = _
    rw [Table.find?_insert inserted]
    show Option.map _ (if key = k then _ else _) = _
    split_ifs <;> rfl

/-- **Settings that are saved together** are what the entries say, over what was there. -/
theorem upsertSettings_spec {entries : List (String × Json)}
    (different : (entries.map Prod.fst).Nodup) (s : Store) :
    ∃ t, upsertSettings entries s = .ok ((), t) ∧
      ∀ k, storedSetting t k = (entries.lookup k).or (storedSetting s k) := by
  induction entries generalizing s with
  | nil => exact ⟨s, rfl, fun k => rfl⟩
  | cons entry entries ih =>
    rw [List.map_cons, List.nodup_cons] at different
    obtain ⟨u, first, said⟩ := upsertSetting_spec entry.1 entry.2 s
    obtain ⟨t, others, kept⟩ := ih different.2 u
    refine ⟨t, bind_eq_ok.mpr ⟨u, first, others⟩, fun k => ?_⟩
    rw [kept, said, lookup_cons_eq]
    by_cases here : entry.1 = k
    · have once : entries.lookup k = none := by
        by_contra there
        obtain ⟨other, member, same⟩ := lookup_ne_none.mp there
        exact different.1 (List.mem_map.mpr ⟨other, member, same.trans here.symm⟩)
      rw [if_pos here, if_pos here.symm, once]
      rfl
    · rw [if_neg here, if_neg (Ne.symm here)]

/-- **Saving** commits every setting or none: none when its call fails. -/
theorem saveSettings_spec {entries : List (String × Json)}
    (different : (entries.map Prod.fst).Nodup) (event : AuditEvent) (answer : Store → Json)
    (script : List Outcome) (s : Store) (k : String) :
    storedSetting ((saveSettings entries event answer) script s).store k =
      if (Async.next script).1 = .done then (entries.lookup k).or (storedSetting s k)
      else storedSetting s k := by
  have after : ∀ t : Store, (do
      Db.audit event
      Db.read fun s => .ok (answer s) : Db Json).Ensures t
      fun _ u => storedSetting u k = storedSetting t k := by
    intro t
    refine Async.ensures_bind (Db.ensures_audit rfl ?_)
    exact Async.ensures_query rfl rfl
  obtain ⟨t, commits, said⟩ := upsertSettings_spec different s
  unfold saveSettings
  cases outcome : (Async.next script).1 with
  | failed =>
    rw [Async.bind_of_error (Db.transaction_failed outcome _ s), if_neg (by simp)]
  | done =>
    rw [Async.bind_of_ok (Db.transaction_done outcome commits), if_pos rfl, ← said]
    exact after t _

/-! ### One save of a policy -/

/-- A call that saves a policy, with its input. -/
inductive PolicySave where
  | policy (input : Option Json)
  | settings (body : Json)

def PolicySave.run (rt : Runtime) (auth : AuthTokenPayload) : PolicySave → Db Json
  | .policy input => updateRateLimitPolicy rt auth input
  | .settings body => updatePlatformSettings rt auth body

/-- The input is accepted, and stands for this policy. -/
def PolicySave.Saves (rt : Runtime) : PolicySave → SavedPolicy → Prop
  | .policy input, saved =>
    ∃ policy, parseRateLimitPolicyInput rt input = .ok policy ∧ saved = parsedPolicy policy
  | .settings body, saved =>
    ∃ input, platformSettingsSchema rt (some body) = .valid input ∧ input.rateLimits = some saved

/-- **When the policy that is saved stays as it is**: the reason of an input that is parsed does not
end in white space where it is cut to its length; a body of settings is neat. -/
def PolicySave.Neat : PolicySave → Prop
  | .policy input => ∀ text, givenReason input = some (.str text) →
    Text.Trimmed (Text.slice 500 (Text.trim text))
  | .settings body => PolicySettings.Neat (body.get? "rateLimits")

/-- The policy that is shown, on its own and among the settings, is the one that is enforced. -/
structure Agrees (rt : Runtime) (s : Store) : Prop where
  policy : ∀ f, shownField (readRateLimitPolicy s) f = policyField (enforced rt s) f
  settings : ∀ f, ((readPlatformSettings s).get? "rateLimits").map (shownField · f) =
    some (policyField (enforced rt s) f)

variable {rt : Runtime} {auth : AuthTokenPayload}

theorem entries_nodup (input : PlatformSettingsInput) : (input.entries.map Prod.fst).Nodup := by
  unfold PlatformSettingsInput.entries
  cases input.rateLimits <;> simp

/-- **A saved policy** is the setting once the call has committed. -/
theorem storedSetting_run {save : PolicySave} {saved : SavedPolicy} (saves : save.Saves rt saved)
    {script : List Outcome} (commits : (Async.next script).1 = .done) (s : Store) :
    storedSetting (save.run rt auth script s).store "rateLimits" = some saved.json := by
  cases save with
  | policy input =>
    obtain ⟨policy, parsed, rfl⟩ := saves
    show storedSetting (updateRateLimitPolicy rt auth input script s).store _ = _
    unfold updateRateLimitPolicy
    rw [parsed, Async.ofExcept_ok]
    refine (@saveSettings_spec [("rateLimits", (parsedPolicy policy).json)] (List.nodup_singleton _)
      _ _ script s "rateLimits").trans ?_
    rw [if_pos commits]
    rfl
  | settings body =>
    obtain ⟨input, parsed, has⟩ := saves
    show storedSetting (updatePlatformSettings rt auth body script s).store _ = _
    unfold updatePlatformSettings
    rw [parseBody_eq_ok.mpr parsed, Async.ofExcept_ok]
    refine (saveSettings_spec (entries_nodup input) _ _ script s "rateLimits").trans ?_
    rw [if_pos commits]
    unfold PlatformSettingsInput.entries
    rw [has]
    rfl

/-- A body of settings that is accepted, with the policy it has. -/
theorem settings_valid {body : Json} {input : PlatformSettingsInput} {saved : SavedPolicy}
    (valid : platformSettingsSchema rt (some body) = .valid input)
    (has : input.rateLimits = some saved) :
    rateLimitsSchema (body.get? "rateLimits") = .valid saved := by
  unfold platformSettingsSchema Schema.object at valid
  split at valid
  · rename_i fields same
    obtain rfl := Option.some.inj same
    obtain ⟨_, _, read4, -, rfl⟩ := Checked.seq_eq_valid.mp valid
    obtain ⟨_, _, read3, -, rfl⟩ := Checked.seq_eq_valid.mp read4
    obtain ⟨_, rateLimits, read2, read, rfl⟩ := Checked.seq_eq_valid.mp read3
    obtain ⟨_, _, read1, -, rfl⟩ := Checked.seq_eq_valid.mp read2
    obtain ⟨_, -, rfl⟩ := Checked.map_eq_valid.mp read1
    obtain rfl : rateLimits = some saved := has
    have read : rateLimitsSchema.optional _ = _ := Schema.field_eq_valid.mp read
    cases given : (Json.obj fields).get? "rateLimits" with
    | none =>
      rw [given] at read
      exact absurd (Checked.valid.inj read) (by simp)
    | some value =>
      rw [given] at read
      obtain ⟨x, checked, same⟩ := Schema.optional_eq_valid.mp read
      rw [Option.some.inj same]
      exact checked
  · exact absurd valid (by simp [Schema.invalidType])

theorem inBounds_saves {save : PolicySave} {saved : SavedPolicy} (saves : save.Saves rt saved) :
    InBounds saved.policy := by
  cases save with
  | policy input =>
    obtain ⟨policy, parsed, rfl⟩ := saves
    obtain ⟨rfl, -⟩ := parse_eq_ok.mp parsed
    exact inBounds_normalise rt input
  | settings body =>
    obtain ⟨input, valid, has⟩ := saves
    exact (readFrom_rateLimits (settings_valid valid has)).bounds

/-- **A stored policy is shown as it is enforced** exactly when it is settled. -/
theorem agrees_iff {saved : SavedPolicy} {s : Store}
    (stored : storedSetting s "rateLimits" = some saved.json) (bounds : InBounds saved.policy) :
    Agrees rt s ↔ Settled saved.policy := by
  have shown : readRateLimitPolicy s = saved.json := by
    unfold readRateLimitPolicy
    rw [stored]
    exact mergeSettingValue_policy _ _ _ _
  have enforces : enforced rt s = normalisePolicyControl rt (some saved.json) := by
    show normalisePolicyControl rt (storedSetting s "rateLimits") = _
    rw [stored]
  rw [← @fields_iff_settled rt saved bounds]
  constructor
  · intro agrees f
    rw [← shownField_json, ← enforces, ← agrees.policy, shown]
  · intro same
    have policy : ∀ f, shownField (readRateLimitPolicy s) f = policyField (enforced rt s) f := by
      intro f
      rw [shown, shownField_json, same, enforces]
    refine ⟨policy, fun f => ?_⟩
    rw [readPlatformSettings_rateLimits, Option.map_some, policy]

theorem settled_iff {save : PolicySave} {saved : SavedPolicy} (saves : save.Saves rt saved) :
    Settled saved.policy ↔ save.Neat := by
  cases save with
  | policy input =>
    obtain ⟨policy, parsed, rfl⟩ := saves
    obtain ⟨rfl, -⟩ := parse_eq_ok.mp parsed
    exact settled_normalise_iff
  | settings body =>
    obtain ⟨input, valid, has⟩ := saves
    exact settled_iff_neat (readFrom_rateLimits (settings_valid valid has))

def admin : AuthTokenPayload where
  sub := "90000000-0000-4000-8000-000000000001"
  email := "admin@acadid.local"
  fullName := "Platform Admin"
  role := .acadidSuperAdmin
  kind := none
  learnerId := none
  institutionId := none
  institutionUuid := none
  institutionUserId := none
  assignedScopes := none
  apiKeyId := none
  clientId := none
  productCode := none

theorem default_saves : (PolicySave.policy none).Saves Runtime.plain
    (parsedPolicy (normalisePolicyControl Runtime.plain none)) :=
  ⟨_, rfl, rfl⟩

/-- The default policy, with an override for an institution whose id a space follows. -/
def paddedPolicy : RateLimitPolicyControl :=
  { defaultRateLimitPolicyControl with institutionOverridesPerMinute := [("unilag ", 50)] }

/-- The platform's own settings, with that policy. -/
def paddedSettings : Json :=
  .obj (defaultPlatformSettings.map fun setting =>
    (setting.1,
      if setting.1 = "rateLimits" then policyJson paddedPolicy (some .null) else setting.2))

theorem paddedSettings_saves :
    (PolicySave.settings paddedSettings).Saves Runtime.plain ⟨paddedPolicy, some none, rfl⟩ :=
  ⟨_, rfl, rfl⟩

/-- A name of the section, as it is written or as it is read. -/
def MentionsName (section_ : Option Json) (name : String) : Prop :=
  ∃ entry ∈ objectFields section_, entry.1 = name ∨ Text.trim entry.1 = name

/-- The body has this field of the policy. -/
def Mentions (input : Option Json) : PolicyField → Prop
  | .enabled => sectionOf (sectionOf input "emergency") "enabled" ≠ none
  | .limitPerMinute => sectionOf (sectionOf input "emergency") "limitPerMinute" ≠ none
  | .reason => sectionOf (sectionOf input "emergency") "reason" ≠ none
  | .product code => MentionsName (sectionOf input "productDefaultsPerMinute") code
  | .sandbox => sectionOf (sectionOf input "institutionDefaultsPerMinute") "sandbox" ≠ none
  | .production => sectionOf (sectionOf input "institutionDefaultsPerMinute") "production" ≠ none
  | .institution id => MentionsName (sectionOf input "institutionOverridesPerMinute") id
  | .scope name => MentionsName (sectionOf input "scopeOverrides") name

theorem get?_objectFields (v : Option Json) (name : String) :
    (Json.obj (objectFields v)).get? name = sectionOf v name := by
  rcases v with _ | _ | _ | _ | _ | _ | _ <;> rfl

/-- The sections of an input, as the parser reads them. -/
theorem get?_section (input : Option Json) (name field : String) :
    (Json.obj (objectFields ((Json.obj (objectFields input)).get? name))).get? field =
      sectionOf (sectionOf input name) field := by
  rw [get?_objectFields, get?_objectFields]

/-- **A field that is not mentioned** is read as its default. -/
theorem policyField_of_unmentioned {rt : Runtime} {input : Option Json} {f : PolicyField}
    (unmentioned : ¬ Mentions input f) :
    policyField (normalisePolicyControl rt input) f =
      policyField defaultRateLimitPolicyControl f := by
  have absent : ∀ {name field : String}, ¬ sectionOf (sectionOf input name) field ≠ none →
      (Json.obj (objectFields ((Json.obj (objectFields input)).get? name))).get? field = none := by
    intro name field none_given
    rw [get?_section]
    exact not_not.mp none_given
  have unnamed : ∀ {name k : String}, ¬ MentionsName (sectionOf input name) k →
      ∀ entry ∈ objectFields ((Json.obj (objectFields input)).get? name),
        Text.trim entry.1 ≠ k := by
    intro name k none_given entry inside same
    rw [get?_objectFields] at inside
    exact none_given ⟨entry, inside, .inr same⟩
  cases f with
  | enabled =>
    show some (Json.bool (_ == some (Json.bool true))) = _
    rw [absent unmentioned]
    rfl
  | limitPerMinute =>
    show some (Json.num (clampNumber (asNumber rt _) 1 100000 60 : ℤ)) = _
    rw [absent unmentioned]
    rfl
  | sandbox =>
    show some (Json.num (clampNumber (asNumber rt _) 1 100000 500 : ℤ)) = _
    rw [absent unmentioned]
    rfl
  | production =>
    show some (Json.num (clampNumber (asNumber rt _) 1 100000 2000 : ℤ)) = _
    rw [absent unmentioned]
    rfl
  | reason =>
    refine congrArg (fun reason => some (Json.ofOption reason)) ?_
    refine Option.eq_none_iff_forall_not_mem.mpr fun reason inside => ?_
    obtain ⟨text, given, -⟩ := mem_normalise_reason.mp inside
    have gone : givenReason input = none := absent unmentioned
    exact absurd (gone.symm.trans given) (by simp)
  | product code =>
    exact congrArg (Option.map limitJson) (lookup_foldl_of_unnamed (sets_limits rt)
      (unnamed unmentioned) _)
  | institution id =>
    exact congrArg (Option.map limitJson) (lookup_foldl_of_unnamed (sets_limits rt)
      (unnamed unmentioned) _)
  | scope name =>
    exact congrArg (Option.map scopeJson) (lookup_foldl_of_unnamed (sets_scopes rt)
      (unnamed unmentioned) _)

/-- The input is parsed, and the call that saves the policy goes through. -/
def Updates (rt : Runtime) (input : Option Json) (script : List Outcome) : Prop :=
  (∃ policy, parseRateLimitPolicyInput rt input = .ok policy) ∧ (Async.next script).1 = .done

/-- **What is shown after an update**: the policy of its input alone. -/
theorem shownField_update (auth : AuthTokenPayload) {input : Option Json} {script : List Outcome}
    (updates : Updates rt input script) (s : Store) (f : PolicyField) :
    shownField (readRateLimitPolicy (updateRateLimitPolicy rt auth input script s).store) f =
      policyField (normalisePolicyControl rt input) f := by
  obtain ⟨⟨policy, parsed⟩, commits⟩ := updates
  have stored := @storedSetting_run rt auth (.policy input) (parsedPolicy policy)
    ⟨policy, parsed, rfl⟩ script commits s
  have shown : readRateLimitPolicy (updateRateLimitPolicy rt auth input script s).store =
      (parsedPolicy policy).json :=
    (congrArg (mergeSettingValue _) stored).trans (mergeSettingValue_policy _ _ _ _)
  rw [shown, shownField_json, ← (parse_eq_ok.mp parsed).1]
  rfl

/-- **An update that is refused or fails** changes no setting. -/
theorem readRateLimitPolicy_refused (auth : AuthTokenPayload) {input : Option Json}
    {script : List Outcome} (fails : ¬ Updates rt input script) (s : Store) :
    readRateLimitPolicy (updateRateLimitPolicy rt auth input script s).store =
      readRateLimitPolicy s := by
  refine congrArg (mergeSettingValue _) ?_
  unfold updateRateLimitPolicy
  cases parsed : parseRateLimitPolicyInput rt input with
  | error e => rfl
  | ok policy =>
    have stopped : ¬ (Async.next script).1 = .done := fun commits =>
      fails ⟨⟨policy, parsed⟩, commits⟩
    rw [Async.ofExcept_ok]
    refine (@saveSettings_spec [("rateLimits", (parsedPolicy policy).json)] (List.nodup_singleton _)
      _ _ script s "rateLimits").trans ?_
    rw [if_neg stopped]

/-- **What the body of an update does not mention stays as it was** exactly when the update is
refused or fails, or all of that had its default value. -/
theorem frame_iff (rt : Runtime) (auth : AuthTokenPayload) (input : Option Json)
    (script : List Outcome) (s : Store) :
    (∀ f, ¬ Mentions input f →
      shownField (readRateLimitPolicy (updateRateLimitPolicy rt auth input script s).store) f =
        shownField (readRateLimitPolicy s) f) ↔
      (Updates rt input script → ∀ f, ¬ Mentions input f →
        shownField (readRateLimitPolicy s) f = policyField defaultRateLimitPolicyControl f) := by
  constructor
  · intro same updates f unmentioned
    rw [← same f unmentioned, shownField_update auth updates,
      policyField_of_unmentioned unmentioned]
  · intro defaults f unmentioned
    by_cases updates : Updates rt input script
    · rw [shownField_update auth updates, policyField_of_unmentioned unmentioned,
        defaults updates f unmentioned]
    · rw [readRateLimitPolicy_refused auth updates]

/-- A store whose policy limits the institutions in the sandbox to fifty requests. -/
def limitedSandbox : Store :=
  { Store.empty with
    platformSettings :=
      ⟨[⟨"rateLimits",
          policyJson { defaultRateLimitPolicyControl with sandbox := 50 } (some .null)⟩],
        List.nodup_singleton _⟩ }

/-- An update of one scope puts the limit of the sandbox back to its default. -/
theorem update_forgets :
    ¬ ∀ (rt : Runtime) (auth : AuthTokenPayload) (input : Option Json) (script : List Outcome)
      (s : Store) (f : PolicyField), ¬ Mentions input f →
        shownField (readRateLimitPolicy (updateRateLimitPolicy rt auth input script s).store) f =
          shownField (readRateLimitPolicy s) f := by
  intro always
  have same := always Runtime.plain admin
    (some (.obj [("scopeOverrides", .obj [("verify", .obj [("limit", .num 20)])])])) []
    limitedSandbox .sandbox (not_not.mpr rfl)
  rw [shownField_update admin ⟨⟨_, rfl⟩, rfl⟩] at same
  exact absurd (Option.some.inj same) (by decide)

end PolicySettings

end AcadID
