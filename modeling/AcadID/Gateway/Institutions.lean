/-
**How the gateway services find the institution a request names.**

* `isUuid` — the pattern of `GovernanceService` and `IngestionService`; unlike `isUuidV15` it has
  no hyphen before its last group, so that it matches no id.
* `findInstitution` — a reference is therefore the display id of an institution.
* `resolveReadableInstitution` and `resolveHumanInstitution` — the institution, once it is found to
  be active and the actor allowed to operate it; `resolveHumanThrough` is the latter over any
  lookup.
-/

import AcadID.Platform.Authority

namespace AcadID.Institutions

open Lib Authority

def isUuid (value : String) : Bool :=
  Text.matchesClasses
    (Text.repeatClass 8 Text.isHex ++ [(· == '-')] ++ Text.repeatClass 4 Text.isHex ++
      [(· == '-')] ++ [fun c => '1' ≤ c && c ≤ '5'] ++ Text.repeatClass 3 Text.isHex ++
      [(· == '-')] ++ [['8', '9', 'a', 'b', 'A', 'B'].contains] ++ Text.repeatClass 12 Text.isHex)
    value.toList

/-- `institution.findFirst` by `institutionRefWhere`. -/
def findInstitution (institutionRef : String) (pick : ℕ) (s : Store) :
    Except ServiceError (Option Institution) :=
  -- A text of the pattern is no id, and the database refuses to compare it with one.
  if isUuid institutionRef then .error .database
  else .ok (findFirst s.institutions.rows (fun row => row.institutionId == institutionRef) pick)

def resolveReadableInstitution (auth : AuthTokenPayload) (institutionRef : String) (pick : ℕ)
    (s : Store) : Except ServiceError Institution := do
  let found ← findInstitution institutionRef pick s
  let institution ← orThrow (found.filter (·.status == .active))
    (.badRequest "Active institution not found.")
  assertActorCanOperateInstitution auth institution.uuid s
  return institution

/-- `resolveHumanInstitution`; the two services refuse API keys with different messages. -/
def resolveHumanInstitution (refusal : String) (auth : AuthTokenPayload) (institutionRef : String)
    (pick : ℕ) (s : Store) : Except ServiceError Institution := do
  require (!auth.isApiKey) (.forbidden refusal)
  resolveReadableInstitution auth institutionRef pick s

/-- A lookup of institutions: a reference, the row the database takes of several, and the store. -/
abbrev Lookup := String → ℕ → Store → Except ServiceError (Option Institution)

/-- `resolveHumanInstitution` with any row that the lookup may return. -/
def resolveHumanThrough (lookup : Lookup) (refusal : String) (auth : AuthTokenPayload)
    (institutionRef : String) (pick : ℕ) (s : Store) : Except ServiceError Institution := do
  require (!auth.isApiKey) (.forbidden refusal)
  let found ← lookup institutionRef pick s
  let institution ← orThrow (found.filter (·.status == .active))
    (.badRequest "Active institution not found.")
  assertActorCanOperateInstitution auth institution.uuid s
  return institution

theorem resolveHumanThrough_findInstitution :
    resolveHumanThrough findInstitution = resolveHumanInstitution := rfl

theorem resolveReadableInstitution_of_found {auth : AuthTokenPayload} {institutionRef : String}
    {pick : ℕ} {s : Store} {found : Option Institution}
    (looked : findInstitution institutionRef pick s = .ok found) :
    resolveReadableInstitution auth institutionRef pick s =
      match found.filter (·.status == .active) with
      | none => .error (.badRequest "Active institution not found.")
      | some institution =>
        (assertActorCanOperateInstitution auth institution.uuid s).map fun _ => institution := by
  unfold resolveReadableInstitution
  rw [looked]
  simp only [bind, Except.bind]
  cases found.filter (·.status == .active) with
  | none => rfl
  | some institution =>
    simp only [orThrow]
    cases assertActorCanOperateInstitution auth institution.uuid s with
    | error e => rfl
    | ok u => rfl

/-- **What a resolved institution is**: an active one with the display id that was given, which
the actor may operate. -/
theorem resolveReadableInstitution_spec {auth : AuthTokenPayload} {institutionRef : String}
    {pick : ℕ} {s : Store} {institution : Institution}
    (resolved : resolveReadableInstitution auth institutionRef pick s = .ok institution) :
    institution ∈ s.institutions.rows ∧ institution.institutionId = institutionRef ∧
      institution.status = .active ∧
      assertActorCanOperateInstitution auth institution.uuid s = .ok () := by
  unfold resolveReadableInstitution findInstitution at resolved
  obtain ⟨found, looked, rest⟩ := bind_eq_ok.mp resolved
  obtain ⟨row, kept, rest⟩ := bind_eq_ok.mp rest
  obtain ⟨⟨⟩, allowed, same⟩ := bind_eq_ok.mp rest
  rw [pure_eq_ok] at same
  subst same
  split_ifs at looked
  have first := (Except.ok.inj looked).symm
  obtain ⟨here, active⟩ := Option.filter_eq_some_iff.mp (orThrow_eq_ok.mp kept)
  rw [first] at here
  obtain ⟨inside, named⟩ := findFirst_eq_some here
  exact ⟨inside, by simpa using named, by simpa using active, allowed⟩

/-- **What a resolved institution is**, over any lookup: a row it returns, active, which the actor, no
API key, may operate. -/
theorem resolveHumanThrough_spec {lookup : Lookup} {refusal : String} {auth : AuthTokenPayload}
    {institutionRef : String} {pick : ℕ} {s : Store} {institution : Institution}
    (resolved : resolveHumanThrough lookup refusal auth institutionRef pick s = .ok institution) :
    auth.isApiKey = false ∧ lookup institutionRef pick s = .ok (some institution) ∧
      institution.status = .active ∧
      assertActorCanOperateInstitution auth institution.uuid s = .ok () := by
  unfold resolveHumanThrough at resolved
  obtain ⟨_, human, rest⟩ := bind_eq_ok.mp resolved
  obtain ⟨found, looked, rest⟩ := bind_eq_ok.mp rest
  obtain ⟨row, kept, rest⟩ := bind_eq_ok.mp rest
  obtain ⟨⟨⟩, allowed, same⟩ := bind_eq_ok.mp rest
  rw [pure_eq_ok] at same
  subst same
  obtain ⟨here, active⟩ := Option.filter_eq_some_iff.mp (orThrow_eq_ok.mp kept)
  rw [here] at looked
  exact ⟨by simpa using require_eq_ok.mp human, looked, by simpa using active, allowed⟩

end AcadID.Institutions
