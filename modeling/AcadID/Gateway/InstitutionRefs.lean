/-
**Which institution a reference finds, by the services' lookup and by `AuthorityService`.**

* `agrees_displayId_iff` and `agrees_uuid_iff` — when the two find the same institution for its
  display id and for its uuid.
* `foundAlike_iff` — **every lookup finds the institution exactly if its display id is its uuid**,
  since the services take a uuid for a display id.
* `update_refused` — no update of academic setup passes its checks otherwise.
-/

import AcadID.Gateway.AcademicSetup
import AcadID.Gateway.Visibility

namespace AcadID.InstitutionRefs

open Lib Authority Institutions AcademicSetup Visibility

/-- The lookup of `GovernanceService` and `IngestionService` finds what that of `AuthorityService`
finds, whichever rows the database takes. -/
def AgreesWithAuthority (s : Store) (institutionRef : String) : Prop :=
  ∀ pick pick', findInstitution institutionRef pick s =
    .ok (findFirst s.institutions.rows (institutionWhere institutionRef) pick')

/-- **Every lookup finds the institution**: by both of its ids as `AuthorityService` does, and from
a row of its own, which has its uuid. -/
structure FoundAlike (s : Store) (institution : Institution) : Prop where
  byUuid : AgreesWithAuthority s institution.uuid
  byDisplayId : AgreesWithAuthority s institution.institutionId
  fromItsRows : ∀ pick, findInstitution institution.uuid pick s = .ok (some institution)

section Lookup

variable {s : Store} (unique : UniqueDisplayIds s) {row : Institution}
  (inside : row ∈ s.institutions.rows)

/-! ### Lookups by text -/

/-- A canonical uuid is one character longer than the services' pattern. -/
theorem isUuid_of_canonical {text : String} (canonical : isUuidText text = true) :
    isUuid text = false := by
  rw [Bool.eq_false_iff]
  intro pattern
  have long := Text.length_of_matchesClasses canonical
  have short := Text.length_of_matchesClasses pattern
  rw [long] at short
  exact absurd short (by decide)

theorem findInstitution_of_pattern {text : String} (pattern : isUuid text = true) (pick : ℕ)
    (s : Store) : findInstitution text pick s = .error .database :=
  if_pos pattern

theorem findInstitution_of_no_pattern {text : String} (pattern : isUuid text = false) (pick : ℕ)
    (s : Store) : findInstitution text pick s =
      .ok (findFirst s.institutions.rows (fun row => row.institutionId == text) pick) :=
  if_neg (by simp [pattern])

theorem institutionWhere_iff {text : String} {institution : Institution} :
    institutionWhere text institution = true ↔ institution.institutionId = text ∨
      isUuidV15 text = true ∧ institution.uuid = text := by
  unfold institutionWhere
  rw [Bool.or_eq_true, Bool.and_eq_true, beq_iff_eq, beq_iff_eq]

/-- The lookup that finds an institution has been given its display id. -/
theorem named_of_found {text : String} {pick : ℕ} {institution : Institution}
    (found : findInstitution text pick s = .ok (some institution)) :
    institution ∈ s.institutions.rows ∧ institution.institutionId = text := by
  unfold findInstitution at found
  split at found
  · exact absurd found (by simp)
  · obtain ⟨there, named⟩ := findFirst_eq_some (Except.ok.inj found)
    exact ⟨there, by simpa using named⟩

include unique inside

/-! ### By display id -/

/-- The lookups agree on a display id that is not of the services' pattern, unless it is the uuid of
another institution. -/
theorem agrees_displayId_iff :
    AgreesWithAuthority s row.institutionId ↔ isUuid row.institutionId = false ∧
      (isUuidV15 row.institutionId = true →
        ∀ other ∈ s.institutions.rows, other.uuid = row.institutionId → other = row) := by
  constructor
  · intro agrees
    have pattern : isUuid row.institutionId = false := by
      rw [Bool.eq_false_iff]
      intro pattern
      have refused := agrees 0 0
      rw [findInstitution_of_pattern pattern] at refused
      exact absurd refused (by simp)
    refine ⟨pattern, fun version other there same => ?_⟩
    obtain ⟨pick', found⟩ :=
      exists_findFirst there (institutionWhere_iff.mpr (.inr ⟨version, same⟩))
    have agree := agrees 0 pick'
    rw [found, findInstitution_of_named unique inside pattern] at agree
    exact (Option.some.inj (Except.ok.inj agree)).symm
  · rintro ⟨pattern, only⟩ pick pick'
    rw [findInstitution_of_named unique inside pattern]
    refine congrArg Except.ok (Eq.symm ?_)
    refine findFirst_of_only inside (institutionWhere_iff.mpr (.inl rfl))
      (fun other there matching => ?_) pick'
    rcases institutionWhere_iff.mp matching with named | ⟨version, same⟩
    · exact unique _ there _ inside named
    · exact only version other there same

/-! ### By uuid -/

/-- The lookups agree on the uuid of an institution that has it as its display id too; or where
`AuthorityService` does not take it for a uuid either. -/
theorem agrees_uuid_iff (canonical : isUuidText row.uuid = true) :
    AgreesWithAuthority s row.uuid ↔
      (isUuidV15 row.uuid = true → row.institutionId = row.uuid) := by
  have pattern := isUuid_of_canonical canonical
  constructor
  · intro agrees version
    obtain ⟨pick', found⟩ :=
      exists_findFirst inside (institutionWhere_iff.mpr (.inr ⟨version, rfl⟩))
    have agree := agrees 0 pick'
    rw [found] at agree
    exact (named_of_found agree).2
  · intro named pick pick'
    rw [findInstitution_of_no_pattern pattern]
    refine congrArg Except.ok ?_
    by_cases there : ∃ other ∈ s.institutions.rows, other.institutionId = row.uuid
    · obtain ⟨other, there, display⟩ := there
      rw [findFirst_of_only there (by simp [display])
        (fun third between matching => unique _ between _ there (by
          rw [display]
          simpa using matching)) pick]
      refine (findFirst_of_only there (institutionWhere_iff.mpr (.inl display))
        (fun third between matching => ?_) pick').symm
      rcases institutionWhere_iff.mp matching with display' | ⟨version, same⟩
      · exact unique _ between _ there (display'.trans display.symm)
      · obtain rfl := Table.eq_of_key_eq between inside same
        exact unique _ inside _ there ((named version).trans display.symm)
    · have unnamed : ∀ other ∈ s.institutions.rows, other.institutionId ≠ row.uuid :=
        fun other inside named => there ⟨other, inside, named⟩
      rw [findFirst_of_none (fun other inside => by simpa using unnamed other inside) pick]
      refine (findFirst_of_none (fun other between => ?_) pick').symm
      rw [Bool.eq_false_iff]
      intro matching
      rcases institutionWhere_iff.mp matching with display | ⟨version, -⟩
      · exact unnamed other between display
      · exact unnamed row inside (named version)

/-- **Every lookup finds the institution exactly if its display id is its uuid.** -/
theorem foundAlike_iff (canonical : isUuidText row.uuid = true) :
    FoundAlike s row ↔ row.institutionId = row.uuid := by
  constructor
  · intro alike
    exact (named_of_found (alike.fromItsRows 0)).2
  · intro named
    have pattern := isUuid_of_canonical canonical
    rw [← named] at pattern
    have byUuid := (agrees_uuid_iff unique inside canonical).mpr fun _ => named
    refine ⟨byUuid, ?_, fun pick => ?_⟩
    · rw [named]
      exact byUuid
    · rw [← named]
      exact findInstitution_of_named unique inside pattern pick

end Lookup

/-! ### Updates -/

/-- The `institutionId` of the row that an update is about. -/
def updatedInstitution (call : SetupCall) (s : Store) : Option Uuid :=
  match call with
  | .updateAcademicSession _ _ id _ => (s.academicSessions.find? id).map (·.institutionId)
  | .updateAcademicStructure _ _ id _ => (s.academicStructures.find? id).map (·.institutionId)
  | .updateGradingRuleSet _ _ id _ => (s.gradingRuleSets.find? id).map (·.institutionId)
  | _ => none

/-- An update that passes its checks has found an institution under the `institutionId` of the row
it is about. -/
theorem update_found {lookup : Lookup} {rt : Runtime} {call : SetupCall} {s : Store}
    {plan : SetupPlan} (checked : setupCheckThrough lookup rt call s = .ok plan)
    {institutionId : Uuid} (updated : updatedInstitution call s = some institutionId) :
    ∃ pick institution, lookup institutionId pick s = .ok (some institution) := by
  cases call with
  | createAcademicSession env auth body => exact absurd updated (by simp [updatedInstitution])
  | createAcademicStructure env auth body => exact absurd updated (by simp [updatedInstitution])
  | createGradingRuleSet env auth body => exact absurd updated (by simp [updatedInstitution])
  | updateAcademicSession env auth id body =>
    obtain ⟨input, -, rest⟩ := bind_eq_ok.mp checked
    obtain ⟨existing, found, rest⟩ := bind_eq_ok.mp rest
    obtain ⟨institution, resolved, -⟩ := bind_eq_ok.mp rest
    obtain ⟨row, there, rfl⟩ := Option.map_eq_some_iff.mp updated
    obtain rfl := Option.some.inj (there.symm.trans (orThrow_eq_ok.mp found))
    exact ⟨_, institution, (resolveHumanThrough_spec resolved).2.1⟩
  | updateAcademicStructure env auth id body =>
    obtain ⟨input, -, rest⟩ := bind_eq_ok.mp checked
    obtain ⟨existing, found, rest⟩ := bind_eq_ok.mp rest
    obtain ⟨institution, resolved, -⟩ := bind_eq_ok.mp rest
    obtain ⟨row, there, rfl⟩ := Option.map_eq_some_iff.mp updated
    obtain rfl := Option.some.inj (there.symm.trans (orThrow_eq_ok.mp found))
    exact ⟨_, institution, (resolveHumanThrough_spec resolved).2.1⟩
  | updateGradingRuleSet env auth id body =>
    obtain ⟨input, -, rest⟩ := bind_eq_ok.mp checked
    obtain ⟨existing, found, rest⟩ := bind_eq_ok.mp rest
    obtain ⟨institution, resolved, -⟩ := bind_eq_ok.mp rest
    obtain ⟨row, there, rfl⟩ := Option.map_eq_some_iff.mp updated
    obtain rfl := Option.some.inj (there.symm.trans (orThrow_eq_ok.mp found))
    exact ⟨_, institution, (resolveHumanThrough_spec resolved).2.1⟩

/-- **No update passes its checks** where no institution has the uuid in the row's `institutionId` as
its display id. -/
theorem update_refused {rt : Runtime} {call : SetupCall} {s : Store} {institutionId : Uuid}
    (updated : updatedInstitution call s = some institutionId)
    (unnamed : ∀ row ∈ s.institutions.rows, row.institutionId ≠ institutionId) (plan : SetupPlan) :
    setupCheck rt call s ≠ .ok plan := by
  intro checked
  obtain ⟨pick, institution, found⟩ := update_found checked updated
  obtain ⟨inside, named⟩ := named_of_found found
  exact unnamed institution inside named

/-! ### A school -/

/-- A school whose display id is its uuid. -/
def selfNamed : Institution :=
  ⟨schoolId, schoolId, "First School", .active⟩

def selfNamedStore : Store :=
  { Store.empty with
    institutions := { rows := [selfNamed], nodup := List.nodup_singleton _ } }

theorem selfNamed_foundAlike : FoundAlike selfNamedStore selfNamed := by
  refine (foundAlike_iff (fun a here b there _ => ?_) (List.mem_singleton.mpr rfl)
    (by decide)).mpr rfl
  rw [List.mem_singleton.mp here, List.mem_singleton.mp there]

/-- **Not every institution is found alike**: the school of the registrar is not. -/
theorem foundAlike_fails :
    ¬ ∀ (s : Store) (row : Institution), UniqueDisplayIds s → row ∈ s.institutions.rows →
      isUuidText row.uuid = true → FoundAlike s row := by
  intro all
  have alike := all (staffed .active) ⟨schoolId, "ACD-0001", "First School", .active⟩
    (staffed_unique _) (List.mem_singleton.mpr rfl) (by decide)
  obtain ⟨-, named⟩ := named_of_found (alike.fromItsRows 0)
  exact absurd named (by decide)

end AcadID.InstitutionRefs
