/-
**Issued credentials verify.**

A published batch and a fulfilled request both sign a payload, store it with its proof, and hand it
to whoever verifies the reference: the payload is read back, its fields in any order, its proof is
taken off, and what is left is put into canonical form again.

* `Verifies` — whatever order the stored fields are read back in, the signature is `VALID`.
* `verifies_of_signed` — **the round trip of one payload.**
* `verifies_of_runs` — **every credential issued in a run verifies**, with any number of
  publications and fulfilments in flight together.
-/

import AcadID.Gateway.Publication
import AcadID.Gateway.Verification
import AcadID.Requests.Operations

namespace AcadID.IssuedCredentials

open Lib Verification Governance RecordRequests

/-- The credential verifies, in whatever order its fields are read back. -/
def Verifies (rt : Runtime) (credential : Credential) : Prop :=
  ∀ readBack, Json.Same credential.vcPayload readBack →
    cryptographicStatus rt readBack credential.signature = .valid

/-! ### The round trip of one payload -/

theorem sign_ne_empty (rt : Runtime) (now : Time) (payload : Json) :
    (sign rt now payload).signature ≠ "" := by
  intro empty
  have chars := congrArg String.toList empty
  unfold sign at chars
  simp [String.toList_append] at chars

/-- **The round trip of one payload**: signed, stored with its proof, read back in any order and
stripped of the proof, it verifies. -/
theorem verifies_of_signed {rt : Runtime} (keys : KeyPair rt) {now : Time}
    {fs : List (String × Json)} (distinct : Json.Distinct (.obj fs))
    (unproved : ∀ f ∈ fs, f.1 ≠ "proof") {credential : Credential}
    (payload : credential.vcPayload = (sign rt now (.obj fs)).stored)
    (signature : credential.signature = some (sign rt now (.obj fs)).signature) :
    Verifies rt credential := by
  intro readBack same
  have kept : fs.filter (fun f => f.1 ≠ "proof") = fs :=
    List.filter_eq_self.mpr fun f inside => by simpa using unproved f inside
  have stored : (sign rt now (.obj fs)).stored =
      .obj (fs ++ [("proof", (sign rt now (.obj fs)).proof)]) := by
    show Json.obj (fs.filter (fun f => f.1 ≠ "proof") ++ _) = _
    rw [kept]
  rw [payload, stored] at same
  cases readBack with
  | obj gs =>
    have stripped := Json.same_filter same fun key => key ≠ "proof"
    have front : (fs ++ [("proof", (sign rt now (.obj fs)).proof)]).filter
        (fun f => f.1 ≠ "proof") = fs := by
      rw [List.filter_append, kept]
      simp
    rw [front] at stripped
    have verified : verify rt (unsignedPayload (.obj gs)) (sign rt now (.obj fs)).signature = true :=
      (verify_sign keys now _ _).mpr (canonicalJson_eq_of_same rt distinct stripped)
    unfold cryptographicStatus
    rw [signature, Option.filter_some, if_pos (by simpa using sign_ne_empty rt now (.obj fs))]
    exact if_pos verified
  | null | bool | num | str | arr => exact same.elim

/-! ### The payloads that are signed -/

theorem distinct_ofOption (text : Option String) : Json.Distinct (Json.ofOption text) := by
  cases text <;> trivial

theorem distinct_numbers (number : Option ℚ) :
    ∀ v, number.map Json.num = some v → Json.Distinct v := by
  intro v value
  obtain ⟨q, -, rfl⟩ := Option.map_eq_some_iff.mp value
  trivial

theorem recordPayload_distinct (env : PublishEnv) (institution : Institution)
    (record : AcademicRecord) (enrolment : Enrolment) (credentialRef : String) :
    Json.Distinct (recordPayload env institution record enrolment credentialRef) := by
  refine ⟨by simp, ⟨trivial, trivial⟩, trivial, ⟨trivial, trivial, trivial⟩, trivial, trivial, ?_,
    trivial⟩
  refine Json.distinct_fields (by simp) ?_
  have text : ∀ s v, some (Json.str s) = some v → Json.Distinct v := by
    intro s v value
    rw [← Option.some.inj value]
    trivial
  simp only [List.forall_mem_cons, List.not_mem_nil, false_imp_iff, implies_true, and_true]
  refine ⟨text _, text _, text _, text _, text _, ?_, text _, distinct_numbers _,
    distinct_numbers _, distinct_numbers _, ?_⟩
  · intro v value
    rw [← Option.some.inj value]
    trivial
  · intro v value
    rw [← Option.some.inj value]
    exact distinct_ofOption record.gradingRuleSetId

theorem historicalPayload_distinct (env : RequestEnv) (request : RecordRequest) (learner : Learner)
    (institution : Institution) :
    Json.Distinct (historicalPayload env request learner institution) := by
  have years : ∀ year : Option ℤ,
      Json.Distinct ((year.map fun (y : ℤ) => Json.num y).getD .null) := by
    intro year
    cases year <;> trivial
  have types : Json.Distinct (.arr (request.recordTypesRequested.map .str)) := by
    refine Json.distinctItems_iff.mpr fun v inside => ?_
    obtain ⟨s, -, rfl⟩ := List.mem_map.mp inside
    trivial
  refine ⟨by simp, ⟨trivial, trivial⟩, trivial, ⟨trivial, trivial, trivial⟩, trivial, trivial, ?_,
    trivial⟩
  exact ⟨by simp, trivial, trivial, trivial, trivial, trivial, trivial, trivial, years _, years _,
    distinct_ofOption _, distinct_ofOption _, types, trivial⟩

/-! ### What the two services sign -/

/-- The credentials that a plan will create. -/
def issues : BatchPlan ⊕ RequestPlan → List Credential
  | .inl (.publish plan) => plan.signedCredentials.zipIdx.map (recordCredential plan)
  | .inl _ => []
  | .inr plan => plan.credentials

theorem verifies_of_publishCheck {rt : Runtime} (keys : KeyPair rt) {env : PublishEnv}
    {auth : AuthTokenPayload} {batchId : Uuid} {s : Store} {plan : PublishPlan}
    (checked : publishCheck rt env auth batchId s = .ok plan) :
    ∀ c ∈ issues (.inl (.publish plan)), Verifies rt c := by
  unfold publishCheck at checked
  obtain ⟨batch, -, rest⟩ := bind_eq_ok.mp checked
  obtain ⟨institution, -, rest⟩ := bind_eq_ok.mp rest
  obtain ⟨records, -, rest⟩ := bind_eq_ok.mp rest
  obtain ⟨-, -, rest⟩ := bind_eq_ok.mp rest
  obtain ⟨-, -, same⟩ := bind_eq_ok.mp rest
  rw [pure_eq_ok] at same
  subst same
  intro c inside
  obtain ⟨signed, listed, rfl⟩ := List.mem_map.mp inside
  have member : signed.1 ∈ records.zipIdx.map (signRecord rt env institution) :=
    List.fst_mem_of_mem_zipIdx listed
  obtain ⟨read, -, is⟩ := List.mem_map.mp member
  have distinct := recordPayload_distinct env institution read.1.1 read.1.2
    (env.credentialRef read.2)
  refine @verifies_of_signed rt keys env.checkedAt _ distinct ?_ _ ?_ ?_
  · simp
  · show signed.1.vcPayload = _
    rw [← is]
    rfl
  · show some signed.1.signature = _
    rw [← is]
    rfl

theorem verifies_of_fulfillCheck {rt : Runtime} (keys : KeyPair rt) {env : RequestEnv}
    {auth : AuthTokenPayload} {id : Uuid} {body : Json} {s : Store} {plan : FulfillPlan}
    (checked : fulfillCheck rt env auth id body s = .ok plan) :
    Verifies rt (historicalCredential plan) := by
  unfold fulfillCheck at checked
  obtain ⟨input, -, rest⟩ := bind_eq_ok.mp checked
  obtain ⟨request, -, rest⟩ := bind_eq_ok.mp rest
  obtain ⟨learner, -, rest⟩ := bind_eq_ok.mp rest
  obtain ⟨institution, -, rest⟩ := bind_eq_ok.mp rest
  obtain ⟨-, -, rest⟩ := bind_eq_ok.mp rest
  obtain ⟨-, -, rest⟩ := bind_eq_ok.mp rest
  obtain ⟨-, -, same⟩ := bind_eq_ok.mp rest
  rw [pure_eq_ok] at same
  subst same
  have distinct := historicalPayload_distinct env request learner institution
  refine @verifies_of_signed rt keys env.now _ distinct ?_ _ rfl rfl
  simp

/-- **What the checks of either service establish**: all that the plan will issue verifies. -/
theorem verifies_of_check {rt : Runtime} (keys : KeyPair rt) {call : BatchCall ⊕ RequestCall}
    {s : Store} {plan : BatchPlan ⊕ RequestPlan}
    (checked : ((batchMethods rt).sum (requestMethods rt)).check call s = .ok plan) :
    ∀ c ∈ issues plan, Verifies rt c := by
  rcases Method.sum_check checked with ⟨d, p, rfl, first⟩ | ⟨d, p, rfl, second⟩
  · cases d with
    | publishBatch env auth batchId =>
      obtain ⟨plan, published, same⟩ := bind_eq_ok.mp first
      rw [pure_eq_ok] at same
      subst same
      exact verifies_of_publishCheck keys published
    | ingestResults | transitionBatch | rejectBatch =>
      obtain ⟨plan, -, same⟩ := bind_eq_ok.mp first
      rw [pure_eq_ok] at same
      subst same
      exact fun c inside => absurd inside List.not_mem_nil
  · cases d with
    | fulfill env auth id body =>
      obtain ⟨plan, fulfilled, same⟩ := bind_eq_ok.mp second
      rw [pure_eq_ok] at same
      subst same
      intro c inside
      rw [List.mem_singleton.mp inside]
      exact verifies_of_fulfillCheck keys fulfilled
    | review | confirm | refund =>
      obtain ⟨plan, -, same⟩ := bind_eq_ok.mp second
      rw [pure_eq_ok] at same
      subst same
      exact fun c inside => absurd inside List.not_mem_nil
    | payment env job =>
      obtain ⟨plan, -, same⟩ := bind_eq_ok.mp second
      cases plan with
      | payment plan | answered result =>
        rw [pure_eq_ok] at same
        subst same
        exact fun c inside => absurd inside List.not_mem_nil

/-- **What the commits of either service create**: what the plan issues, and no other credential. -/
theorem credentials_of_commit {rt : Runtime} {plan : BatchPlan ⊕ RequestPlan} {s t : Store}
    {res : BatchResponse ⊕ RequestResponse}
    (committed : ((batchMethods rt).sum (requestMethods rt)).commit plan s = .ok (res, t)) :
    t.credentials.rows = s.credentials.rows ++ issues plan := by
  rcases Method.sum_commit committed with ⟨p, r, rfl, first⟩ | ⟨p, r, rfl, second⟩
  · by_cases publishes : ∃ plan, p = .publish plan
    · obtain ⟨plan, rfl⟩ := publishes
      obtain ⟨⟨batch, t'⟩, published, same⟩ := bind_eq_ok.mp first
      rw [pure_eq_ok] at same
      obtain ⟨-, rfl⟩ := Prod.mk.inj same
      obtain ⟨old, credentials, standings, -, rows, rfl⟩ := publishCommit_spec published
      exact rows
    · have other : ∀ plan, p ≠ .publish plan := fun plan is => publishes ⟨plan, is⟩
      rw [(Publication.commit_frame first other).1]
      cases p with
      | publish plan => exact absurd rfl (other plan)
      | ingest | transition | reject => exact (List.append_nil _).symm
  · exact (requestCommit_spec second).credentials

theorem credentials_of_log {rt : Runtime} (plan : BatchPlan ⊕ RequestPlan)
    (res : BatchResponse ⊕ RequestResponse) (s : Store) :
    (((batchMethods rt).sum (requestMethods rt)).log plan res s).credentials = s.credentials := by
  cases plan with
  | inl p =>
    cases res with
    | inl r => exact (Publication.batchLog_frame p r s).2
    | inr r => rfl
  | inr p =>
    cases res with
    | inl r => rfl
    | inr r => exact (requestLog_frame p r s).credentials

/-! ### Runs -/

/-- **Every credential issued in a run verifies**: in any interleaving of the operations on batches
and on record requests, whatever fails, a credential that was not there at the start is `VALID`. -/
theorem verifies_of_runs (rt : Runtime) (s : Store)
    (events : List (Turn (BatchCall ⊕ RequestCall))) (keys : KeyPair rt) :
    ∀ c ∈ (runs ((batchMethods rt).sum (requestMethods rt)).turn ⟨s, []⟩
        events).store.credentials.rows,
      c ∈ s.credentials.rows ∨ Verifies rt c := by
  let inv : Store → Prop := fun t => ∀ c ∈ t.credentials.rows,
    c ∈ s.credentials.rows ∨ Verifies rt c
  let plans : BatchPlan ⊕ RequestPlan → Store → Prop := fun plan _ =>
    ∀ c ∈ issues plan, Verifies rt c
  have keeps : ∀ (p : Pool Store (BatchPlan ⊕ RequestPlan) (BatchResponse ⊕ RequestResponse)) e,
      Method.Flight inv plans p → True →
        Method.Flight inv plans (((batchMethods rt).sum (requestMethods rt)).turn p e) := by
    intro p e flight _
    refine Method.turn_flight (fun c t plan _ checked => verifies_of_check keys checked)
      (fun plan res t here => ⟨?_, fun _ issued => issued⟩) flight fun plan res t goes => ?_
    · show ∀ c ∈ (((batchMethods rt).sum (requestMethods rt)).log plan res t).credentials.rows, _
      rw [credentials_of_log]
      exact here
    · obtain ⟨inFlight, committed⟩ := Method.committing_spec goes
      refine ⟨fun c inside => ?_, fun _ issued => issued⟩
      rw [credentials_of_commit committed] at inside
      rcases List.mem_append.mp inside with old | new
      · exact flight.store c old
      · exact .inr (flight.inFlight plan inFlight c new)
  have start : Method.Flight inv plans
      (⟨s, []⟩ : Pool Store (BatchPlan ⊕ RequestPlan) (BatchResponse ⊕ RequestResponse)) :=
    ⟨fun c inside => .inl inside, fun _ inside => absurd inside List.not_mem_nil⟩
  have unguarded : Along ((batchMethods rt).sum (requestMethods rt)).turn (fun _ _ => True)
      ⟨s, []⟩ events := along_iff_prefixes.mpr fun _ _ _ _ => trivial
  exact (runs_of_keeps keeps start unguarded).store

/-- The workflow of a batch, up to its publication, as the first of the two services. -/
def publicationTurns : List (Turn (BatchCall ⊕ RequestCall)) :=
  [.begin (.inl BatchHistory.upload.call), .advance 0 .done, .advance 0 .done,
    .begin (.inl (BatchHistory.move .approved).call), .advance 1 .done, .advance 1 .done,
    .begin (.inl BatchHistory.publish.call), .advance 2 .done]

/-- A published result slip verifies. -/
theorem verifies_of_runs_published :
    (runs ((batchMethods .plain).sum (requestMethods .plain)).turn ⟨BatchHistory.school, []⟩
        publicationTurns).store.credentials.rows.length = 1 ∧
      ∀ c ∈ (runs ((batchMethods .plain).sum (requestMethods .plain)).turn
          ⟨BatchHistory.school, []⟩ publicationTurns).store.credentials.rows,
        Verifies .plain c := by
  refine ⟨by decide +kernel, fun c inside => ?_⟩
  have issued := verifies_of_runs .plain BatchHistory.school publicationTurns keyPair_plain c inside
  exact issued.resolve_left List.not_mem_nil

end AcadID.IssuedCredentials
