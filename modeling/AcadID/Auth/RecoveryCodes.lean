/-
**A recovery code is good for one login, if no two of them race.**

* `OncePerCode` — at most one login has succeeded by each recovery code.
* `Unspent` — the conditional update of `consumeRecoveryCode` finds its code unused. The login goes
  on whether it does or not: nothing looks at how many rows the update has changed.
* `once_of_unspent` — **a recovery code lets one login in**, in every run in which each of these
  updates finds its code unused.
* `once_fails` — two logins that have both looked the code up before either marks it.
-/

import AcadID.Auth.Login
import AcadID.Lib.Run

namespace AcadID.Login

open Lib

abbrev LoginCrowd := Crowd Store Progress

/-! ### The property -/

/-- A login that has succeeded by the code. -/
def ByCode (code : Uuid) : Progress → Prop
  | .succeeded method _ => method = .recoveryCode code
  | _ => False

/-- **At most one login has succeeded by each recovery code.** -/
def OncePerCode (p : LoginCrowd) : Prop :=
  ∀ code, Once (ByCode code) p.programs

/-! ### The condition -/

/-- A recovery code that no login has used yet. -/
def Unused (s : Store) (code : Uuid) : Prop :=
  ∃ row, s.mfaRecoveryCodes.find? code = some row ∧ row.usedAt = none

/-- **The conditional update finds its code unused.** -/
def Unspent (p : LoginCrowd) (e : Turn LoginCall) : Prop :=
  ∀ k session code, e = .advance k .done → p.programs[k]? = some (.consuming session code) →
    Unused p.store code

/-! ### Logins that have used a code -/

/-- A login that the code has let past the second factor. -/
def Spent (code : Uuid) : Progress → Prop
  | .consumed _ used => used = code
  | .recording session _ => session.method = .recoveryCode code
  | .logging session => session.method = .recoveryCode code
  | .succeeded method _ => method = .recoveryCode code
  | _ => False

theorem spent_of_byCode {code : Uuid} {progress : Progress} (by_ : ByCode code progress) :
    Spent code progress := by
  cases progress with
  | succeeded method response => exact by_
  | reading | candidates | consuming | consumed | recording | logging | failed => exact by_.elim

/-- Going on does not change how the second factor was met. -/
theorem spent_proceed {code : Uuid} {session : Session} (spent : Spent code (proceed session)) :
    session.method = .recoveryCode code := by
  unfold proceed at spent
  split at spent
  · exact spent
  · split at spent
    · exact spent
    · split at spent
      · exact spent.elim
      · exact spent.elim

theorem not_spent_secondFactor {rt : Runtime} {env : LoginEnv} {input : LoginInput}
    {found : LoginUser} {code : Uuid} : ¬ Spent code (secondFactor rt env input found) := by
  intro spent
  unfold secondFactor at spent
  split at spent
  · exact absurd (spent_proceed spent) (by simp)
  · split at spent
    · exact spent
    · simp only at spent
      split at spent
      · exact spent
      · exact absurd (spent_proceed spent) (by simp)
      · split at spent
        · exact spent
        · exact spent

/-- **A login comes to have used a code by the conditional update alone.** -/
theorem spent_step {rt : Runtime} {code : Uuid} {progress : Progress} {s : Store}
    (before : ¬ Spent code progress) (after : Spent code (loginStep rt progress s).1) :
    ∃ session, progress = .consuming session code := by
  cases progress with
  | consuming session used =>
    obtain rfl : used = code := after
    exact ⟨session, rfl⟩
  | reading env input =>
    refine absurd after ?_
    unfold loginStep
    simp only
    split
    · exact id
    · exact id
    · split
      · exact not_spent_secondFactor
      · exact id
  | candidates session normalized =>
    refine absurd after ?_
    unfold loginStep
    simp only
    split
    · exact id
    · exact id
  | consumed session used => exact absurd (MfaMethod.recoveryCode.inj (spent_proceed after)) before
  | recording session member =>
    refine absurd after ?_
    unfold loginStep
    simp only
    split
    · exact id
    · exact before
  | logging session => exact absurd after before
  | succeeded method response => exact absurd after before
  | failed e => exact absurd after before

/-! ### Codes stay used -/

theorem find?_markUsed {s : Store} {code used : Uuid} {usedAt : Time} {row : MfaRecoveryCode}
    (found : (markUsed used usedAt s).mfaRecoveryCodes.find? code = some row)
    (unused : row.usedAt = none) :
    s.mfaRecoveryCodes.find? code = some row ∧ code ≠ used := by
  unfold markUsed at found
  simp only [Table.find?_updateMany] at found
  obtain ⟨old, there, made⟩ := Option.map_eq_some_iff.mp found
  by_cases marks : (old.uuid == used && old.usedAt.isNone) = true
  · rw [if_pos marks] at made
    rw [← made] at unused
    exact absurd unused (by simp)
  · rw [if_neg marks] at made
    subst made
    refine ⟨there, fun same => marks ?_⟩
    rw [Table.find?_key there, same, unused]
    simp

/-- A step leaves the recovery codes, or marks one. -/
theorem codes_step (rt : Runtime) (progress : Progress) (s : Store) :
    (loginStep rt progress s).2.mfaRecoveryCodes = s.mfaRecoveryCodes ∨
      ∃ session code, progress = .consuming session code := by
  cases progress with
  | consuming session code => exact .inr ⟨session, code, rfl⟩
  | reading env input =>
    left
    unfold loginStep
    simp only
    split
    · rfl
    · rfl
    · split <;> rfl
  | candidates session normalized =>
    left
    unfold loginStep
    simp only
    split <;> rfl
  | recording session member =>
    left
    unfold loginStep
    simp only
    split
    · rfl
    · rename_i t recorded
      obtain ⟨⟨row, members⟩, -, same⟩ := bind_eq_ok.mp recorded
      rw [← pure_eq_ok.mp same]
  | consumed session code => exact .inl rfl
  | logging session => exact .inl rfl
  | succeeded method response => exact .inl rfl
  | failed e => exact .inl rfl

/-- A code that is unused after a step was unused before it, and is not the one it has marked. -/
theorem unused_step {rt : Runtime} {progress : Progress} {s : Store} {code : Uuid}
    (unused : Unused (loginStep rt progress s).2 code) :
    Unused s code ∧ ∀ session, progress ≠ .consuming session code := by
  obtain ⟨row, found, none⟩ := unused
  rcases codes_step rt progress s with same | ⟨session, used, rfl⟩
  · rw [same] at found
    refine ⟨⟨row, found, none⟩, fun session is => ?_⟩
    subst is
    rw [← same] at found
    exact (find?_markUsed found none).2 rfl
  · obtain ⟨before, other⟩ := find?_markUsed found none
    refine ⟨⟨row, before, none⟩, fun session' is => other ?_⟩
    exact (Progress.consuming.inj is).2.symm

/-! ### Runs -/

section Runs

variable {rt : Runtime}

theorem step_failed {progress : Progress} {s : Store} :
    ((login rt).step .failed progress s).2 = s ∧
      ∀ code, Spent code ((login rt).step .failed progress s).1 → Spent code progress := by
  show (if progress.ended then (progress, s) else (Progress.failed .database, s)).2 = s ∧
    ∀ code, Spent code (if progress.ended then (progress, s) else (.failed .database, s)).1 → _
  split
  · exact ⟨rfl, fun _ spent => spent⟩
  · exact ⟨rfl, fun _ spent => spent.elim⟩

/-- **A turn lets a code past the second factor once.** -/
theorem turn_spent {p : LoginCrowd} {e : Turn LoginCall} (unspent : Unspent p e) {code : Uuid}
    (once : Once (Spent code) p.programs)
    (ended : ∀ x ∈ p.programs, Spent code x → ¬ Unused p.store code) :
    Once (Spent code) ((login rt).turn p e).programs ∧
      ∀ x ∈ ((login rt).turn p e).programs, Spent code x →
        ¬ Unused ((login rt).turn p e).store code := by
  refine @Machine.turn_once _ _ _ (login rt) (Spent code) (fun s => ¬ Unused s code) p e
    (fun _ => id) ?_ ?_ once ended
  · intro k outcome x same found before after
    cases outcome with
    | failed => exact absurd (step_failed.2 code after) before
    | done =>
      obtain ⟨session, rfl⟩ := spent_step before after
      refine ⟨not_not_intro (unspent k session code same found), fun unused => ?_⟩
      exact (unused_step unused).2 session rfl
  · intro outcome x spent
    cases outcome with
    | failed =>
      rw [step_failed.1]
      exact spent
    | done => exact fun unused => spent (unused_step unused).1

/-- **A recovery code lets one login in**, in every run in which each conditional update finds its
code unused. -/
theorem once_of_unspent (rt : Runtime) (start : Store) (events : List (Turn LoginCall))
    (unspent : Along (login rt).turn Unspent ⟨start, []⟩ events) :
    Throughout (login rt).turn OncePerCode ⟨start, []⟩ events := by
  have begins : ∀ code, Once (Spent code) ([] : List Progress) ∧
      ∀ x ∈ ([] : List Progress), Spent code x → ¬ Unused start code := by
    intro code
    exact ⟨fun i j x y found => absurd found (by simp), fun x inside => absurd inside (by simp)⟩
  refine Throughout.mono (P := fun p => ∀ code, Once (Spent code) p.programs ∧
    ∀ x ∈ p.programs, Spent code x → ¬ Unused p.store code) ?_ ?_
  · intro p all code i j x y here there hasX hasY
    exact (all code).1 i j x y here there (spent_of_byCode hasX) (spent_of_byCode hasY)
  · exact throughout_of_guarded (fun p e all guard code => turn_spent guard (all code).1 (all code).2)
      begins unspent

end Runs

/-! ### A founder with one recovery code -/

def founderId : Uuid := "50000000-0000-4000-8000-000000000001"

def codeId : Uuid := "c0000000-0000-4000-8000-000000000001"

/-- A founder whose account asks for a second factor, with one recovery code. -/
def founderStore : Store :=
  { Store.empty with
    users :=
      { rows :=
          [{ uuid := founderId
             email := "founder@acadid.test"
             passwordHash := PasswordService.hash .plain "salt" "password"
             fullName := "Founder"
             role := .acadidSuperAdmin
             mfaEnabled := true
             totpSecretEncrypted := some "v1:iv:tag:secret" }]
        nodup := List.nodup_singleton _ }
    mfaRecoveryCodes :=
      { rows := [⟨codeId, founderId, PasswordService.hash .plain "salt" "ABCD1234WXYZ", none⟩]
        nodup := List.nodup_singleton _ } }

/-- The founder logs in by the recovery code. -/
def recovers : Turn LoginCall :=
  .begin ⟨⟨0, 0, 1, 1, 1, "d0000000-0000-4000-8000-000000000001"⟩,
    ⟨"founder@acadid.test", "password", none, some "abcd-1234-wxyz"⟩⟩

/-- One login after the other. -/
def inTurn : List (Turn LoginCall) :=
  recovers :: List.replicate 5 (.advance 0 .done) ++ recovers :: List.replicate 5 (.advance 1 .done)

/-- Two logins, step by step. -/
def atOnce : List (Turn LoginCall) :=
  recovers :: recovers :: (List.replicate 5 [.advance 0 .done, .advance 1 .done]).flatten

/-- The condition as a check. -/
def unspends (p : LoginCrowd) (e : Turn LoginCall) : Bool :=
  match e with
  | .advance k .done =>
    match p.programs[k]? with
    | some (.consuming _ code) => (p.store.mfaRecoveryCodes.find? code).any (·.usedAt.isNone)
    | _ => true
  | _ => true

theorem unspent_of_unspends {p : LoginCrowd} {e : Turn LoginCall} (unspends : unspends p e = true) :
    Unspent p e := by
  intro k session code same found
  subst same
  unfold Login.unspends at unspends
  simp only [found, Option.any_eq_true] at unspends
  obtain ⟨row, there, none⟩ := unspends
  exact ⟨row, there, by simpa using none⟩

/-- The second of two logins in turn is refused. -/
theorem inTurn_once :
    Throughout (login .plain).turn OncePerCode ⟨founderStore, []⟩ inTurn := by
  refine once_of_unspent .plain founderStore inTurn ?_
  refine Along.mono (fun p e unspends => unspent_of_unspends unspends)
    (show Along _ (fun p e => unspends p e = true) _ _ from ?_)
  decide +kernel

/-- A login that has succeeded by the code, as a check. -/
def isByCode (progress : Progress) : Bool :=
  match progress with
  | .succeeded (.recoveryCode code) _ => code == codeId
  | _ => false

theorem byCode_of_isByCode {progress : Progress} (is : isByCode progress = true) :
    ByCode codeId progress := by
  unfold isByCode at is
  split at is
  · rw [beq_iff_eq.mp is]
    rfl
  · exact absurd is (by simp)

/-- **A recovery code may let two logins in.** -/
theorem once_fails :
    ¬ ∀ (rt : Runtime) (start : Store) (events : List (Turn LoginCall)),
        Throughout (login rt).turn OncePerCode ⟨start, []⟩ events := by
  intro all
  have throughout := all .plain founderStore atOnce
  have last := throughout_iff_prefixes.mp throughout atOnce [] (List.append_nil _).symm
  have both : ∀ i < 2, ((runs (login .plain).turn ⟨founderStore, []⟩ atOnce).programs[i]?).any
      isByCode = true := by
    decide
  obtain ⟨x, first, isX⟩ := Option.any_eq_true _ _ |>.mp (both 0 (by decide))
  obtain ⟨y, second, isY⟩ := Option.any_eq_true _ _ |>.mp (both 1 (by decide))
  have equal := last codeId 0 1 x y first second (byCode_of_isByCode isX) (byCode_of_isByCode isY)
  exact absurd equal (by decide)

end AcadID.Login
