/-
**One process's cache over a run: the calls made of it, and the `getOrSet` calls in flight.**

* `Flight` — a `getOrSet` call that waits for the shared cache or for its loader; between its
  stages the process does other work.
* `instanceStep` — one operation, or one stage of a call in flight, with whatever the shared cache
  or the loader answers.
* `indexed_runs` — **in every state of every run a key is indexed under a tag exactly when its entry
  carries the tag**, and an invalidation leaves nothing of its tag or prefix.
-/

import AcadID.Lib.Run
import AcadID.Platform.Cache

namespace AcadID

open Lib

namespace Cache

section Instance

variable {V : Type}

/-! ### The run of one process -/

inductive Stage where
  | readingRemote
  | loading
  | settled
deriving DecidableEq

/-- A `getOrSet` call that has missed the local entries. -/
structure Flight where
  key : String
  options : CacheSetOptions
  stage : Stage
deriving DecidableEq

structure Instance (V : Type) where
  service : CacheService V
  flights : List Flight

inductive InstanceEvent (V : Type) where
  | get (key : String) (now : ℤ)
  | set (key : String) (value : V) (options : CacheSetOptions) (now : ℤ)
  | delete (key : String)
  | invalidateTag (tag : String)
  | invalidatePrefix (lead : String)
  | clear
  | getOrSet (key : String) (options : CacheSetOptions) (now : ℤ)
  | remoteRead (flight : ℕ) (answer : Option (CacheRemoteRecord V)) (now : ℤ)
  | loaded (flight : ℕ) (value : V) (now : ℤ)
  | loaderFailed (flight : ℕ)

/-- A value handed to a caller, with the tags of the entry it is of. -/
structure Answer (V : Type) where
  value : V
  tags : List String
deriving DecidableEq

/-- What a step leaves, the answer it gives and the calls it makes to the shared cache. -/
structure Effect (V : Type) where
  state : Instance V
  answer : Option (Answer V)
  calls : List (RemoteCall V)

def CacheEntry.answer (entry : CacheEntry V) : Answer V :=
  ⟨entry.value, entry.tags⟩

def Instance.becomes (state : Instance V) (outcome : Outcome V) (answer : Option (Answer V)) :
    Effect V :=
  ⟨{ state with service := outcome.service }, answer, outcome.calls⟩

def Instance.idle (state : Instance V) : Effect V :=
  ⟨state, none, []⟩

/-- The flights once one of them has come to a stage. -/
def moveFlight (flights : List Flight) (flight : ℕ) (stage : Stage) : List Flight :=
  flights.modify flight fun call => { call with stage := stage }

/-- The first stage of `getOrSet`: a local hit answers at once. -/
def beginGetOrSet (key : String) (options : CacheSetOptions) (now : ℤ) (state : Instance V) :
    Effect V :=
  let read := get key now state.service
  match read.1 with
  | some entry => state.becomes read.2 (some entry.answer)
  | none =>
      { state.becomes read.2 none with
        state :=
          { service := read.2.service
            flights := state.flights ++ [⟨key, options, .readingRemote⟩] } }

/-- The second stage: a record that has not expired answers and is kept; otherwise the loader
starts, and an expired record is deleted on the way. -/
def afterRemote (flight : ℕ) (call : Flight) (answer : Option (CacheRemoteRecord V)) (now : ℤ)
    (state : Instance V) : Effect V :=
  match answer with
  | none => ⟨{ state with flights := moveFlight state.flights flight .loading }, none, []⟩
  | some record =>
      if record.expiresAt ≤ now then
        ⟨{ state with flights := moveFlight state.flights flight .loading }, none,
          [.delete call.key]⟩
      else
        ⟨{ service := keepRemote call.key record now state.service
           flights := moveFlight state.flights flight .settled },
          some ⟨record.value, record.tags⟩, []⟩

/-- The last stage: what the loader answers is set, and answers. -/
def afterLoader (flight : ℕ) (call : Flight) (value : V) (now : ℤ) (state : Instance V) :
    Effect V :=
  let outcome := set call.key value call.options now state.service
  ⟨{ service := outcome.service
     flights := moveFlight state.flights flight .settled },
    some ⟨value, call.options.tags.getD []⟩, outcome.calls⟩

/-- A stage of a call in flight that is at the stage. -/
def ofFlight (flight : ℕ) (stage : Stage) (state : Instance V) (go : Flight → Effect V) :
    Effect V :=
  match state.flights[flight]? with
  | some call => if call.stage = stage then go call else state.idle
  | none => state.idle

def effect (state : Instance V) : InstanceEvent V → Effect V
  | .get key now =>
      let read := get key now state.service
      state.becomes read.2 (read.1.map CacheEntry.answer)
  | .set key value options now => state.becomes (set key value options now state.service) none
  | .delete key => state.becomes (delete key state.service) none
  | .invalidateTag tag => state.becomes (invalidateTag tag state.service) none
  | .invalidatePrefix lead => state.becomes (invalidatePrefix lead state.service) none
  | .clear => state.becomes (clear state.service) none
  | .getOrSet key options now => beginGetOrSet key options now state
  | .remoteRead flight answer now =>
      ofFlight flight .readingRemote state fun call => afterRemote flight call answer now state
  | .loaded flight value now =>
      ofFlight flight .loading state fun call => afterLoader flight call value now state
  | .loaderFailed flight =>
      ofFlight flight .loading state fun _ =>
        ⟨{ state with flights := moveFlight state.flights flight .settled }, none, []⟩

def instanceStep (state : Instance V) (e : InstanceEvent V) : Instance V :=
  (effect state e).state

def freshInstance : Instance V where
  service := emptyService
  flights := []

/-! ### What a step stores -/

/-- The entry of a value, with its deadline. -/
def entryOf (value : V) (expiresAt : ℚ) (tags : Option (List String)) : CacheEntry V :=
  ⟨value, expiresAt, (tags.getD []).eraseDups⟩

/-- The entry that a call of `set` makes, if it makes one. -/
def setEntry (value : V) (options : CacheSetOptions) (now : ℤ) : Option (CacheEntry V) :=
  if 0 < options.ttlSeconds then
    some (entryOf value (now + options.ttlSeconds * 1000) options.tags)
  else none

/-- The entry that a `getOrSet` call makes of a record that the shared cache has answered with. -/
def keptEntry (record : CacheRemoteRecord V) (now : ℤ) : Option (CacheEntry V) :=
  if now < record.expiresAt then
    some (entryOf record.value (now + max 1 (⌈(record.expiresAt - now) / 1000⌉ : ℚ) * 1000)
      (some record.tags))
  else none

/-- The entry that a step stores. -/
def storedEntry (state : Instance V) : InstanceEvent V → Option (CacheEntry V)
  | .set _ value options now => setEntry value options now
  | .remoteRead flight answer now =>
      match state.flights[flight]? with
      | some call => if call.stage = .readingRemote then answer.bind (keptEntry · now) else none
      | none => none
  | .loaded flight value now =>
      match state.flights[flight]? with
      | some call => if call.stage = .loading then setEntry value call.options now else none
      | none => none
  | _ => none

theorem lookup_get (key : String) (now : ℤ) {other : String} {service : CacheService V}
    {entry : CacheEntry V}
    (left : (get key now service).2.service.entries.lookup other = some entry) :
    service.entries.lookup other = some entry := by
  unfold get at left
  cases found : service.entries.lookup key with
  | none =>
      rw [found] at left
      exact left
  | some there =>
      rw [found] at left
      dsimp only at left
      split_ifs at left
      · rw [delete_service, lookup_deleteLocal] at left
        split_ifs at left
        exact left
      · exact left

theorem lookup_set {key other : String} {value : V} {options : CacheSetOptions} {now : ℤ}
    {service : CacheService V} {entry : CacheEntry V}
    (left : (set key value options now service).service.entries.lookup other = some entry) :
    service.entries.lookup other = some entry ∨ setEntry value options now = some entry := by
  unfold set at left
  split_ifs at left with spent
  · exact Or.inl left
  · dsimp only at left
    rw [lookup_setLocal] at left
    split_ifs at left
    · exact Or.inr ((if_pos (not_le.mp spent)).trans left)
    · exact Or.inl left

theorem lookup_afterRemote {flight : ℕ} {call : Flight} {answer : Option (CacheRemoteRecord V)}
    {now : ℤ} {state : Instance V} {key : String} {entry : CacheEntry V}
    (left : (afterRemote flight call answer now state).state.service.entries.lookup key =
      some entry) :
    state.service.entries.lookup key = some entry ∨
      answer.bind (keptEntry · now) = some entry := by
  unfold afterRemote at left
  cases answer with
  | none => exact Or.inl left
  | some record =>
      dsimp only at left
      split_ifs at left with expired
      · exact Or.inl left
      · dsimp only at left
        unfold keepRemote at left
        rw [lookup_setLocal] at left
        split_ifs at left
        · exact Or.inr ((if_pos (not_le.mp expired)).trans left)
        · exact Or.inl left

/-- A stage of a call in flight leaves what was there, and what the stage itself stores. -/
theorem lookup_ofFlight {flight : ℕ} {stage : Stage} {state : Instance V}
    {go : Flight → Effect V} {key : String} {entry : CacheEntry V}
    (stored : Flight → Option (CacheEntry V))
    (goes : ∀ call, (go call).state.service.entries.lookup key = some entry →
      state.service.entries.lookup key = some entry ∨ stored call = some entry)
    (left : (ofFlight flight stage state go).state.service.entries.lookup key = some entry) :
    state.service.entries.lookup key = some entry ∨
      (match state.flights[flight]? with
        | some call => if call.stage = stage then stored call else none
        | none => none) = some entry := by
  unfold ofFlight at left
  cases found : state.flights[flight]? with
  | none =>
      rw [found] at left
      exact Or.inl left
  | some call =>
      rw [found] at left
      dsimp only at left ⊢
      split_ifs at left ⊢
      · exact goes call left
      · exact Or.inl left

/-- **What a step leaves under a key was there, or is what the step stores.** -/
theorem lookup_effect (state : Instance V) (e : InstanceEvent V) {key : String}
    {entry : CacheEntry V}
    (left : (effect state e).state.service.entries.lookup key = some entry) :
    state.service.entries.lookup key = some entry ∨ storedEntry state e = some entry := by
  cases e with
  | get other now => exact Or.inl (lookup_get other now left)
  | set other value options now => exact lookup_set left
  | delete other =>
      change (delete other state.service).service.entries.lookup key = _ at left
      rw [delete_service, lookup_deleteLocal] at left
      split_ifs at left
      exact Or.inl left
  | invalidateTag tag =>
      have there := (lookup_deleteAll _ key state.service).symm.trans left
      split_ifs at there
      exact Or.inl there
  | invalidatePrefix start =>
      have there := (lookup_deleteAll _ key state.service).symm.trans left
      split_ifs at there
      exact Or.inl there
  | clear => exact absurd left.symm (Option.some_ne_none entry)
  | getOrSet other options now =>
      change (beginGetOrSet other options now state).state.service.entries.lookup key = _ at left
      unfold beginGetOrSet at left
      dsimp only at left
      refine Or.inl (lookup_get other now ?_)
      cases hit : (get other now state.service).1 with
      | none =>
          rw [hit] at left
          exact left
      | some found =>
          rw [hit] at left
          exact left
  | remoteRead flight answer now => exact lookup_ofFlight _ (fun _ => lookup_afterRemote) left
  | loaded flight value now => exact lookup_ofFlight _ (fun _ => lookup_set) left
  | loaderFailed flight =>
      refine Or.inl (Or.resolve_right (lookup_ofFlight (fun _ => none)
        (fun _ => Or.inl) left) ?_)
      split
      · simp
      · simp

/-! ### What a step answers, and the calls it makes -/

/-- Where an answer comes from: an entry or a record that has not expired, or a loader. -/
def Source (state : Instance V) (answer : Answer V) : InstanceEvent V → Prop
  | .get key now | .getOrSet key _ now => ∃ entry, state.service.entries.lookup key = some entry ∧
      now < entry.expiresAt ∧ answer = entry.answer
  | .remoteRead flight received now => ∃ call record, state.flights[flight]? = some call ∧
      call.stage = .readingRemote ∧ received = some record ∧ now < record.expiresAt ∧
      answer = ⟨record.value, record.tags⟩
  | .loaded flight value _ => ∃ call, state.flights[flight]? = some call ∧ answer.value = value
  | _ => False

theorem get_hit {key : String} {now : ℤ} {service : CacheService V} {entry : CacheEntry V}
    (hit : (get key now service).1 = some entry) :
    service.entries.lookup key = some entry ∧ now < entry.expiresAt := by
  unfold get at hit
  cases found : service.entries.lookup key with
  | none =>
      rw [found] at hit
      cases hit
  | some there =>
      rw [found] at hit
      dsimp only at hit
      split_ifs at hit with expired
      cases hit
      exact ⟨rfl, not_le.mp expired⟩

theorem answer_ofFlight {flight : ℕ} {stage : Stage} {state : Instance V} {go : Flight → Effect V}
    {answer : Answer V} (given : (ofFlight flight stage state go).answer = some answer) :
    ∃ call, state.flights[flight]? = some call ∧ call.stage = stage ∧
      (go call).answer = some answer := by
  unfold ofFlight at given
  cases found : state.flights[flight]? with
  | none =>
      rw [found] at given
      cases given
  | some call =>
      rw [found] at given
      dsimp only at given
      split_ifs at given with at_stage
      · exact ⟨call, rfl, at_stage, given⟩
      · cases given

/-- **Every answer has its source.** -/
theorem source_of_answer (state : Instance V) (e : InstanceEvent V) {answer : Answer V}
    (given : (effect state e).answer = some answer) : Source state answer e := by
  cases e with
  | get key now =>
      obtain ⟨entry, hit, rfl⟩ := Option.map_eq_some_iff.mp given
      have there := get_hit hit
      exact ⟨entry, there.1, there.2, rfl⟩
  | getOrSet key options now =>
      change (beginGetOrSet key options now state).answer = _ at given
      unfold beginGetOrSet at given
      dsimp only at given
      cases hit : (get key now state.service).1 with
      | none =>
          rw [hit] at given
          cases given
      | some entry =>
          rw [hit] at given
          cases given
          have there := get_hit hit
          exact ⟨entry, there.1, there.2, rfl⟩
  | remoteRead flight received now =>
      obtain ⟨call, found, at_stage, answered⟩ := answer_ofFlight given
      unfold afterRemote at answered
      cases received with
      | none => cases answered
      | some record =>
          dsimp only at answered
          split_ifs at answered with expired
          cases answered
          exact ⟨call, record, found, at_stage, rfl, not_le.mp expired, rfl⟩
  | loaded flight value now =>
      obtain ⟨call, found, -, answered⟩ := answer_ofFlight given
      cases answered
      exact ⟨call, found, rfl⟩
  | loaderFailed flight =>
      obtain ⟨-, -, -, answered⟩ := answer_ofFlight given
      cases answered
  | set key value options now => cases given
  | delete key => cases given
  | invalidateTag tag => cases given
  | invalidatePrefix start => cases given
  | clear => cases given

/-- What `set` sends to the shared cache is the entry that it makes. -/
theorem mem_calls_set {key other : String} {value : V} {options : CacheSetOptions} {now : ℤ}
    {service : CacheService V} {record : CacheRemoteRecord V} {ttlSeconds : ℚ}
    (sent : RemoteCall.set other record ttlSeconds ∈ (set key value options now service).calls) :
    setEntry value options now = some ⟨record.value, record.expiresAt, record.tags⟩ := by
  unfold set at sent
  split_ifs at sent with spent
  · cases sent
  · rw [List.mem_singleton] at sent
    cases sent
    exact if_pos (not_le.mp spent)

theorem not_mem_calls_delete {key other : String} {service : CacheService V}
    {record : CacheRemoteRecord V} {ttlSeconds : ℚ} :
    RemoteCall.set other record ttlSeconds ∉ (delete key service).calls := by
  unfold delete
  split
  · simp
  · simp

/-- `get` sends nothing but a deletion. -/
theorem not_mem_calls_get {key other : String} {now : ℤ} {service : CacheService V}
    {record : CacheRemoteRecord V} {ttlSeconds : ℚ} :
    RemoteCall.set other record ttlSeconds ∉ (get key now service).2.calls := by
  unfold get
  cases service.entries.lookup key with
  | none => simp
  | some entry =>
      dsimp only
      split_ifs
      · exact not_mem_calls_delete
      · simp

theorem mem_calls_ofFlight {flight : ℕ} {stage : Stage} {state : Instance V}
    {go : Flight → Effect V} {call : RemoteCall V}
    (sent : call ∈ (ofFlight flight stage state go).calls) :
    ∃ waiting, state.flights[flight]? = some waiting ∧ waiting.stage = stage ∧
      call ∈ (go waiting).calls := by
  unfold ofFlight at sent
  cases found : state.flights[flight]? with
  | none =>
      rw [found] at sent
      cases sent
  | some waiting =>
      rw [found] at sent
      dsimp only at sent
      split_ifs at sent with at_stage
      · exact ⟨waiting, rfl, at_stage, sent⟩
      · cases sent

/-- Where a record that a step sends to the shared cache comes from: a call of `set`. -/
def Sets (state : Instance V) (entry : CacheEntry V) : InstanceEvent V → Prop
  | .set _ value options now => setEntry value options now = some entry
  | .loaded flight value now => ∃ call, state.flights[flight]? = some call ∧
      setEntry value call.options now = some entry
  | _ => False

/-- **What a step sends to the shared cache** is what a call of `set` stores. -/
theorem sets_of_calls (state : Instance V) (e : InstanceEvent V) {key : String}
    {record : CacheRemoteRecord V} {ttlSeconds : ℚ}
    (sent : RemoteCall.set key record ttlSeconds ∈ (effect state e).calls) :
    Sets state ⟨record.value, record.expiresAt, record.tags⟩ e := by
  cases e with
  | set other value options now => exact mem_calls_set sent
  | loaded flight value now =>
      obtain ⟨call, found, -, here⟩ := mem_calls_ofFlight sent
      exact ⟨call, found, mem_calls_set here⟩
  | get other now => exact absurd sent not_mem_calls_get
  | delete other => exact absurd sent not_mem_calls_delete
  | getOrSet other options now =>
      have same : (effect state (.getOrSet other options now)).calls =
          (get other now state.service).2.calls := by
        show (beginGetOrSet other options now state).calls = _
        unfold beginGetOrSet
        dsimp only
        cases (get other now state.service).1 <;> rfl
      rw [same] at sent
      exact absurd sent not_mem_calls_get
  | remoteRead flight received now =>
      obtain ⟨call, -, -, here⟩ := mem_calls_ofFlight sent
      unfold afterRemote at here
      cases received with
      | none => cases here
      | some answer =>
          dsimp only at here
          split_ifs at here
          · rw [List.mem_singleton] at here
            cases here
          · cases here
  | loaderFailed flight =>
      obtain ⟨-, -, -, here⟩ := mem_calls_ofFlight sent
      cases here
  | invalidateTag tag =>
      rw [show (effect state (.invalidateTag tag)).calls = [.invalidateTag tag] from rfl,
        List.mem_singleton] at sent
      cases sent
  | invalidatePrefix start =>
      rw [show (effect state (.invalidatePrefix start)).calls = [.invalidatePrefix start] from rfl,
        List.mem_singleton] at sent
      cases sent
  | clear =>
      rw [show (effect state .clear).calls = [.clear] from rfl, List.mem_singleton] at sent
      cases sent

/-! ### What each step keeps of the index -/

theorem ofFlight_ensures (post : Effect V → Prop) {flight : ℕ} {stage : Stage}
    {state : Instance V} {go : Flight → Effect V} (idle : post state.idle)
    (goes : ∀ call, state.flights[flight]? = some call → call.stage = stage → post (go call)) :
    post (ofFlight flight stage state go) := by
  unfold ofFlight
  cases found : state.flights[flight]? with
  | none => exact idle
  | some call =>
      dsimp only
      split_ifs with at_stage
      · exact goes call found at_stage
      · exact idle

/-- **One step keeps the index.** -/
theorem indexed_instanceStep (state : Instance V) (e : InstanceEvent V)
    (indexed : Indexed state.service) : Indexed (instanceStep state e).service := by
  unfold instanceStep
  cases e with
  | get key now => exact indexed_get key now indexed
  | set key value options now => exact indexed_set key value options now indexed
  | delete key => exact indexed_delete key indexed
  | invalidateTag tag => exact indexed_deleteAll _ indexed
  | invalidatePrefix lead => exact indexed_deleteAll _ indexed
  | clear => exact indexed_empty
  | getOrSet key options now =>
      have read := indexed_get key now indexed
      show Indexed (beginGetOrSet key options now state).state.service
      unfold beginGetOrSet
      dsimp only
      cases (get key now state.service).1 with
      | none => exact read
      | some entry => exact read
  | remoteRead flight answer now =>
      refine ofFlight_ensures (fun after => Indexed after.state.service) indexed ?_
      intro call _ _
      unfold afterRemote
      cases answer with
      | none => exact indexed
      | some record =>
          dsimp only
          split_ifs
          · exact indexed
          · exact indexed_keepRemote call.key record now indexed
  | loaded flight value now =>
      refine ofFlight_ensures (fun after => Indexed after.state.service) indexed ?_
      intro call _ _
      exact indexed_set call.key value call.options now indexed
  | loaderFailed flight =>
      refine ofFlight_ensures (fun after => Indexed after.state.service) indexed ?_
      intro call _ _
      exact indexed

/-- What an invalidation leaves: no entry of its tag, or none whose key has its prefix. -/
def Invalidates (state : Instance V) : InstanceEvent V → Prop
  | .invalidateTag tag => ∀ key entry,
      (instanceStep state (.invalidateTag tag)).service.entries.lookup key = some entry →
        tag ∉ entry.tags
  | .invalidatePrefix lead => ∀ key entry,
      (instanceStep state (.invalidatePrefix lead)).service.entries.lookup key = some entry →
        startsWith key lead = false
  | _ => True

theorem invalidates_of_indexed (state : Instance V) (e : InstanceEvent V)
    (indexed : Indexed state.service) : Invalidates state e := by
  cases e with
  | invalidateTag tag => exact fun key entry left => not_carried_invalidateTag tag key indexed left
  | invalidatePrefix lead =>
      intro key entry left
      rw [← Bool.not_eq_true]
      intro leads
      have gone := (lookup_invalidatePrefix lead key state.service).symm.trans left
      rw [if_pos leads] at gone
      exact Option.some_ne_none entry gone.symm
  | _ => trivial

/-- **The index and the entries agree in every state that the cache can reach**, whatever the
shared cache and the loaders answer and whenever they do; and an invalidation is complete. -/
theorem indexed_runs (events : List (InstanceEvent V)) :
    Throughout instanceStep (fun state : Instance V => Indexed state.service) freshInstance events ∧
      Along instanceStep Invalidates freshInstance events := by
  refine ⟨throughout_of_keeps indexed_instanceStep indexed_empty events, ?_⟩
  have guarded : Along instanceStep (fun (_ : Instance V) _ => True) freshInstance events :=
    along_iff_prefixes.mpr fun _ _ _ _ => trivial
  exact along_of_keeps (fun state e indexed _ => indexed_instanceStep state e indexed)
    (fun state e indexed _ => invalidates_of_indexed state e indexed) indexed_empty guarded

end Instance

end Cache

end AcadID
