/-
**Invalidation against loaders and copies in flight.**

The world of one process: its cache, the shared cache, the calls to it that nothing waits for, and
the answers and loaded values on their way. Every value is a `Copy`: it keeps the tick at which its
loader read it.

* `worldStep` — one operation of the process, one stage of a `getOrSet` call, or one command
  reaching the shared cache.
* `Fresh` — what a call begun after an invalidation answers was not loaded before it.
* `StoresCurrent` — the condition: what a `getOrSet` call stores has not been invalidated since it
  was loaded.
* `fresh_of_storesCurrent` — **every answer is fresh along every run that meets it**.
-/

import AcadID.Platform.CacheAdapter
import AcadID.Platform.CacheInstance

namespace AcadID

open Lib

namespace Cache

section World

variable {α : Type} (lead : String)

/-! ### The world of one process -/

/-- A value, with the tick at which it was loaded. -/
structure Copy (α : Type) where
  value : α
  loadedAt : ℕ
deriving DecidableEq

/-- The commands of a call to the shared cache; the two calls that scan the keyspace are not made
by the operations here. -/
def commands {V : Type} : RemoteCall V → List (RemoteStep V)
  | .set key record ttlSeconds => setSteps key record ttlSeconds
  | .delete key => deleteSteps key
  | .invalidateTag tag => invalidateTagSteps tag
  | .invalidatePrefix _ | .clear => []

/-- `arrived` and `read` are what each flight has been answered by the shared cache and by its
loader; `tick`, `begun` and `invalidations` are the history. -/
structure World (α : Type) where
  process : Instance (Copy α)
  configured : Bool
  remote : Remote (Copy α)
  calls : List (List (RemoteStep (Copy α)))
  arrived : ℕ → Option (Option (CacheRemoteRecord (Copy α)))
  read : ℕ → Option (Copy α)
  tick : ℕ
  begun : ℕ → ℕ
  invalidations : List (String × ℕ)

inductive WorldEvent (α : Type) where
  | get (key : String) (now : ℤ)
  | set (key : String) (value : α) (options : CacheSetOptions) (now : ℤ)
  | invalidateTag (tag : String)
  | getOrSet (key : String) (options : CacheSetOptions) (now : ℤ)
  | remoteAnswers (flight : ℕ) (serverTime : ℤ)
  | remoteFails (flight : ℕ)
  | resume (flight : ℕ) (now : ℤ)
  | loaderReads (flight : ℕ) (value : α)
  | loaded (flight : ℕ) (now : ℤ)
  | loaderFailed (flight : ℕ)
  | land (call : ℕ) (serverTime : ℤ)
  | drop (call : ℕ)

/-- What the process does at an event of the world, if it does anything. -/
def processEvent (w : World α) : WorldEvent α → Option (InstanceEvent (Copy α))
  | .get key now => some (.get key now)
  | .set key value options now => some (.set key ⟨value, w.tick⟩ options now)
  | .invalidateTag tag => some (.invalidateTag tag)
  | .getOrSet key options now => some (.getOrSet key options now)
  | .resume flight now =>
      if w.configured then (w.arrived flight).map fun answer => .remoteRead flight answer now
      else some (.remoteRead flight none now)
  | .loaded flight now => (w.read flight).map fun copy => .loaded flight copy now
  | .loaderFailed flight => some (.loaderFailed flight)
  | _ => none

/-- The answer of `GET`: the record, or nothing when the command is refused. -/
def remoteAnswer (key : String) (serverTime : ℤ) (remote : Remote (Copy α)) :
    Option (CacheRemoteRecord (Copy α)) :=
  (Redis.get (cacheKey lead key) serverTime remote).toOption.join

/-- The next command of a call reaches the server; a refused one ends its call. -/
def landCall (call : ℕ) (serverTime : ℤ) (w : World α) : World α :=
  match w.calls[call]? with
  | some (next :: rest) =>
      match land lead next serverTime w.remote with
      | .ok (remote, added) =>
          { w with
            remote := remote
            calls := w.calls.set call (added ++ rest) }
      | .error _ => { w with calls := w.calls.set call [] }
  | _ => w

/-- A tick of the history: what it begins and invalidates. -/
def recordTick (w : World α) : WorldEvent α → World α
  | .invalidateTag tag =>
      { w with
        tick := w.tick + 1
        invalidations := (tag, w.tick) :: w.invalidations }
  | .getOrSet .. =>
      -- the call is a flight of its own, with nothing on its way yet
      { w with
        tick := w.tick + 1
        begun := Function.update w.begun w.process.flights.length w.tick
        arrived := Function.update w.arrived w.process.flights.length none
        read := Function.update w.read w.process.flights.length none }
  | _ => { w with tick := w.tick + 1 }

/-- What the process does, and the calls it makes. -/
def perform (w : World α) (e : InstanceEvent (Copy α)) : World α :=
  let after := effect w.process e
  { w with
    process := after.state
    calls := w.calls ++ if w.configured then after.calls.map commands else [] }

/-- What happens outside the process. -/
def outside (w : World α) : WorldEvent α → World α
  | .remoteAnswers flight serverTime =>
      match w.process.flights[flight]?, w.arrived flight with
      | some call, none =>
          { w with
            arrived := Function.update w.arrived flight
              (some (remoteAnswer lead call.key serverTime w.remote)) }
      | _, _ => w
  | .remoteFails flight =>
      match w.arrived flight with
      | none => { w with arrived := Function.update w.arrived flight (some none) }
      | some _ => w
  | .loaderReads flight value =>
      match w.process.flights[flight]? with
      | some call =>
          if call.stage = .loading then
            { w with read := Function.update w.read flight (some ⟨value, w.tick⟩) }
          else w
      | none => w
  | .land call serverTime => landCall lead call serverTime w
  | .drop call => { w with calls := w.calls.set call [] }
  | _ => w

def worldStep (w : World α) (e : WorldEvent α) : World α :=
  match processEvent w e with
  | some does => perform (recordTick w e) does
  | none => recordTick (outside lead w e) e

def freshWorld (configured : Bool) : World α where
  process := freshInstance
  configured := configured
  remote := fun _ => none
  calls := []
  arrived := fun _ => none
  read := fun _ => none
  tick := 0
  begun := fun _ => 0
  invalidations := []

/-! ### Fresh answers -/

/-- The answer that a step gives. -/
def answerOf (w : World α) (e : WorldEvent α) : Option (Answer (Copy α)) :=
  (processEvent w e).bind fun does => (effect w.process does).answer

/-- When the call that a step answers began. -/
def begunAt (w : World α) : WorldEvent α → ℕ
  | .resume flight _ => w.begun flight
  | .loaded flight _ => w.begun flight
  | _ => w.tick

/-- **What a call answers was not loaded before an invalidation of its tags that the call has begun
after.** -/
def Fresh (w : World α) (e : WorldEvent α) : Prop :=
  ∀ answer ∈ answerOf w e, ∀ made ∈ w.invalidations, made.2 < begunAt w e →
    made.1 ∈ answer.tags → made.2 ≤ answer.value.loadedAt

/-- No invalidation of the tags has been made since the copy was loaded. -/
def Current (invalidations : List (String × ℕ)) (copy : Copy α) (tags : List String) : Prop :=
  ∀ made ∈ invalidations, made.1 ∈ tags → made.2 ≤ copy.loadedAt

/-- What a step stores of a call in flight: the record that the shared cache has answered with, or
what the loader has. -/
def storedBy (w : World α) : WorldEvent α → Option (Answer (Copy α))
  | .resume flight now =>
      match w.configured, w.process.flights[flight]?, w.arrived flight with
      | true, some call, some (some record) =>
          if call.stage = .readingRemote ∧ now < record.expiresAt then
            some ⟨record.value, record.tags⟩
          else none
      | _, _, _ => none
  | .loaded flight _ =>
      match w.process.flights[flight]?, w.read flight with
      | some call, some copy =>
          if call.stage = .loading ∧ 0 < call.options.ttlSeconds then
            some ⟨copy, call.options.tags.getD []⟩
          else none
      | _, _ => none
  | _ => none

/-- **The condition.** What a `getOrSet` call stores has not been invalidated since it was
loaded. -/
def StoresCurrent (w : World α) (e : WorldEvent α) : Prop :=
  ∀ stored ∈ storedBy w e, Current w.invalidations stored.value stored.tags

instance (invalidations : List (String × ℕ)) (copy : Copy α) (tags : List String) :
    Decidable (Current invalidations copy tags) :=
  inferInstanceAs (Decidable (∀ made ∈ invalidations, _))

instance (w : World α) (e : WorldEvent α) : Decidable (StoresCurrent w e) :=
  inferInstanceAs (Decidable (∀ stored ∈ storedBy w e, _))

instance (w : World α) (e : WorldEvent α) : Decidable (Fresh w e) :=
  inferInstanceAs (Decidable (∀ answer ∈ answerOf w e, ∀ made ∈ w.invalidations, _))

/-! ### What a step of the process stores -/

/-- What a step of the process stores as an entry. -/
def keptBy {V : Type} (state : Instance V) : InstanceEvent V → Option (Answer V)
  | .set _ value options _ =>
      if 0 < options.ttlSeconds then some ⟨value, options.tags.getD []⟩ else none
  | .remoteRead flight (some record) now =>
      match state.flights[flight]? with
      | some call =>
          if call.stage = .readingRemote ∧ now < record.expiresAt then
            some ⟨record.value, record.tags⟩
          else none
      | none => none
  | .loaded flight value _ =>
      match state.flights[flight]? with
      | some call =>
          if call.stage = .loading ∧ 0 < call.options.ttlSeconds then
            some ⟨value, call.options.tags.getD []⟩
          else none
      | none => none
  | _ => none

section Process

variable {V : Type}

theorem setEntry_eq_some {value : V} {options : CacheSetOptions} {now : ℤ} {entry : CacheEntry V}
    (made : setEntry value options now = some entry) :
    (if 0 < options.ttlSeconds then some (Answer.mk value (options.tags.getD [])) else none) =
        some ⟨value, options.tags.getD []⟩ ∧
      entry.value = value ∧ entry.tags = (options.tags.getD []).eraseDups := by
  unfold setEntry at made
  split_ifs at made with positive
  cases made
  exact ⟨if_pos positive, rfl, rfl⟩

/-- What a step stores as an entry, it keeps. -/
theorem keptBy_of_storedEntry {state : Instance V} {e : InstanceEvent V} {entry : CacheEntry V}
    (stored : storedEntry state e = some entry) :
    ∃ kept ∈ keptBy state e, entry.value = kept.value ∧ entry.tags = kept.tags.eraseDups := by
  cases e with
  | set key value options now =>
      have made := setEntry_eq_some stored
      exact ⟨_, made.1, made.2⟩
  | remoteRead flight answer now =>
      unfold storedEntry at stored
      dsimp only at stored
      cases found : state.flights[flight]? with
      | none =>
          rw [found] at stored
          cases stored
      | some call =>
          rw [found] at stored
          dsimp only at stored
          split_ifs at stored with at_stage
          cases answer with
          | none => cases stored
          | some record =>
              rw [Option.bind_some] at stored
              unfold keptEntry at stored
              split_ifs at stored with lasts
              cases stored
              refine ⟨⟨record.value, record.tags⟩, ?_, rfl, rfl⟩
              unfold keptBy
              dsimp only
              rw [found]
              exact if_pos ⟨at_stage, lasts⟩
  | loaded flight value now =>
      unfold storedEntry at stored
      dsimp only at stored
      cases found : state.flights[flight]? with
      | none =>
          rw [found] at stored
          cases stored
      | some call =>
          rw [found] at stored
          dsimp only at stored
          split_ifs at stored with at_stage
          have made := setEntry_eq_some stored
          refine ⟨⟨value, call.options.tags.getD []⟩, ?_, made.2⟩
          unfold keptBy
          dsimp only
          rw [found]
          simp only [at_stage, true_and]
          exact made.1
  | _ => cases stored

/-- **What a step of the process leaves under a key was there, or is what the step stores.** -/
theorem lookup_instanceStep (state : Instance V) (e : InstanceEvent V) {key : String}
    {entry : CacheEntry V} (left : (instanceStep state e).service.entries.lookup key = some entry) :
    state.service.entries.lookup key = some entry ∨
      ∃ stored ∈ keptBy state e, entry.value = stored.value ∧
        entry.tags = stored.tags.eraseDups :=
  (lookup_effect state e left).imp_right keptBy_of_storedEntry

end Process

/-! ### The invariant -/

/-- A call begins before its loader reads, and what has happened has happened before now. -/
structure History (w : World α) : Prop where
  readings : ∀ flight copy, w.read flight = some copy → w.begun flight ≤ copy.loadedAt
  begins : ∀ flight, w.begun flight ≤ w.tick
  past : ∀ made ∈ w.invalidations, made.2 < w.tick

structure WorldInv (w : World α) : Prop where
  indexed : Indexed w.process.service
  current : ∀ key entry, w.process.service.entries.lookup key = some entry →
    Current w.invalidations entry.value entry.tags
  history : History w

/-- What the process stores at a step of the world is current. -/
theorem current_of_keptBy {w : World α} (inv : WorldInv w) {e : WorldEvent α}
    (stores : StoresCurrent w e) {does : InstanceEvent (Copy α)}
    (performed : processEvent w e = some does) {stored : Answer (Copy α)}
    (kept : stored ∈ keptBy w.process does) :
    Current w.invalidations stored.value stored.tags := by
  cases e with
  | set key value options now =>
      cases performed
      unfold keptBy at kept
      dsimp only at kept
      split_ifs at kept
      · cases kept
        exact fun made listed _ => (inv.history.past made listed).le
      · cases kept
  | resume flight now =>
      apply stores stored
      unfold storedBy
      unfold processEvent at performed
      dsimp only at performed
      cases configured : w.configured with
      | false =>
          rw [configured] at performed
          cases performed
          cases kept
      | true =>
          rw [configured, if_pos rfl] at performed
          cases arrived : w.arrived flight with
          | none =>
              rw [arrived] at performed
              cases performed
          | some answer =>
              rw [arrived] at performed
              cases performed
              cases answer with
              | none => cases kept
              | some record =>
                  unfold keptBy at kept
                  dsimp only at kept
                  cases found : w.process.flights[flight]? with
                  | none =>
                      rw [found] at kept
                      cases kept
                  | some call =>
                      rw [found] at kept
                      dsimp only
                      rw [found, arrived]
                      exact kept
  | loaded flight now =>
      apply stores stored
      unfold storedBy
      unfold processEvent at performed
      dsimp only at performed
      cases read : w.read flight with
      | none =>
          rw [read] at performed
          cases performed
      | some copy =>
          rw [read] at performed
          cases performed
          unfold keptBy at kept
          dsimp only at kept
          cases found : w.process.flights[flight]? with
          | none =>
              rw [found] at kept
              cases kept
          | some call =>
              rw [found] at kept
              dsimp only
              rw [found, read]
              exact kept
  | get key now => cases performed; cases kept
  | invalidateTag tag => cases performed; cases kept
  | getOrSet key options now => cases performed; cases kept
  | loaderFailed flight => cases performed; cases kept
  | remoteAnswers flight serverTime => cases performed
  | remoteFails flight => cases performed
  | loaderReads flight value => cases performed
  | land call serverTime => cases performed
  | drop call => cases performed

/-- What an invalidation leaves was there, and does not carry the tag. -/
theorem lookup_of_invalidateTag {V : Type} {state : Instance V} {tag key : String}
    {entry : CacheEntry V} (indexed : Indexed state.service)
    (left : (instanceStep state (.invalidateTag tag)).service.entries.lookup key = some entry) :
    state.service.entries.lookup key = some entry ∧ tag ∉ entry.tags := by
  refine ⟨?_, not_carried_invalidateTag tag key indexed left⟩
  have there := (lookup_deleteAll _ key state.service).symm.trans left
  split_ifs at there
  exact there

theorem mem_invalidations (w : World α) (e : WorldEvent α) (made : String × ℕ)
    (listed : made ∈ (recordTick w e).invalidations) :
    made ∈ w.invalidations ∨ (e = .invalidateTag made.1 ∧ made.2 = w.tick) := by
  cases e with
  | invalidateTag tag =>
      rcases List.mem_cons.mp listed with rfl | earlier
      · exact Or.inr ⟨rfl, rfl⟩
      · exact Or.inl earlier
  | _ => exact Or.inl listed

theorem history_recordTick {w : World α} (history : History w) (e : WorldEvent α) :
    History (recordTick w e) := by
  have tick : (recordTick w e).tick = w.tick + 1 := by cases e <;> rfl
  have past : ∀ made ∈ (recordTick w e).invalidations, made.2 < (recordTick w e).tick := by
    intro made listed
    rw [tick]
    rcases mem_invalidations w e made listed with earlier | ⟨_, now⟩
    · exact Nat.lt_succ_of_lt (history.past made earlier)
    · omega
  cases e with
  | getOrSet key options now =>
      refine ⟨fun flight copy read => ?_, fun flight => ?_, past⟩
      · change Function.update w.read w.process.flights.length none flight = _ at read
        show Function.update w.begun w.process.flights.length w.tick flight ≤ _
        by_cases new : flight = w.process.flights.length
        · rw [new, Function.update_self] at read
          exact absurd read.symm (Option.some_ne_none copy)
        · rw [Function.update_of_ne new] at read ⊢
          exact history.readings flight copy read
      · show Function.update w.begun w.process.flights.length w.tick flight ≤ w.tick + 1
        by_cases new : flight = w.process.flights.length
        · rw [new, Function.update_self]
          exact Nat.le_succ w.tick
        · rw [Function.update_of_ne new]
          exact (history.begins flight).trans (Nat.le_succ w.tick)
  | _ =>
      exact ⟨history.readings, fun flight => (history.begins flight).trans (Nat.le_succ w.tick),
        past⟩

/-- What happens outside the process changes none of its entries and none of the invalidations. -/
theorem outside_frame (w : World α) (e : WorldEvent α) :
    (outside lead w e).process = w.process ∧
      (outside lead w e).invalidations = w.invalidations ∧
      (outside lead w e).tick = w.tick ∧ (outside lead w e).begun = w.begun := by
  cases e with
  | remoteAnswers flight serverTime =>
      unfold outside
      dsimp only
      split <;> exact ⟨rfl, rfl, rfl, rfl⟩
  | remoteFails flight =>
      unfold outside
      dsimp only
      split <;> exact ⟨rfl, rfl, rfl, rfl⟩
  | loaderReads flight value =>
      unfold outside
      dsimp only
      split
      · split_ifs <;> exact ⟨rfl, rfl, rfl, rfl⟩
      · exact ⟨rfl, rfl, rfl, rfl⟩
  | land call serverTime =>
      unfold outside landCall
      dsimp only
      split
      · split <;> exact ⟨rfl, rfl, rfl, rfl⟩
      · exact ⟨rfl, rfl, rfl, rfl⟩
  | _ => exact ⟨rfl, rfl, rfl, rfl⟩

theorem read_outside (w : World α) (e : WorldEvent α) {flight : ℕ} {copy : Copy α}
    (read : (outside lead w e).read flight = some copy) :
    w.read flight = some copy ∨ copy.loadedAt = w.tick := by
  cases e with
  | loaderReads other value =>
      unfold outside at read
      dsimp only at read
      split at read
      · split_ifs at read
        · change Function.update w.read other (some ⟨value, w.tick⟩) flight = _ at read
          by_cases same : flight = other
          · rw [same, Function.update_self] at read
            cases read
            exact Or.inr rfl
          · rw [Function.update_of_ne same] at read
            exact Or.inl read
        · exact Or.inl read
      · exact Or.inl read
  | remoteAnswers other serverTime =>
      unfold outside at read
      dsimp only at read
      split at read <;> exact Or.inl read
  | remoteFails other =>
      unfold outside at read
      dsimp only at read
      split at read <;> exact Or.inl read
  | land call serverTime =>
      unfold outside landCall at read
      dsimp only at read
      split at read
      · split at read <;> exact Or.inl read
      · exact Or.inl read
  | _ => exact Or.inl read

theorem history_outside {w : World α} (history : History w) (e : WorldEvent α) :
    History (outside lead w e) := by
  obtain ⟨_, invalidations, tick, begun⟩ := outside_frame lead w e
  refine ⟨fun flight copy read => ?_, fun flight => ?_, fun made listed => ?_⟩
  · rw [begun]
    rcases read_outside lead w e read with before | now
    · exact history.readings flight copy before
    · rw [now]
      exact history.begins flight
  · rw [begun, tick]
    exact history.begins flight
  · rw [invalidations] at listed
    rw [tick]
    exact history.past made listed

/-- **What the process does keeps the invariant, when what it stores is current.** -/
theorem inv_perform {w : World α} (inv : WorldInv w) {e : WorldEvent α}
    (stores : StoresCurrent w e) {does : InstanceEvent (Copy α)}
    (performed : processEvent w e = some does) : WorldInv (perform (recordTick w e) does) := by
  have process : (recordTick w e).process = w.process := by cases e <;> rfl
  have after : (perform (recordTick w e) does).process = instanceStep w.process does := by
    unfold perform instanceStep
    rw [process]
  have history := history_recordTick inv.history e
  refine ⟨?_, fun key entry left => ?_, ⟨history.readings, history.begins, history.past⟩⟩
  · rw [after]
    exact indexed_instanceStep w.process does inv.indexed
  · rw [after] at left
    intro made listed carried
    rcases mem_invalidations w e made listed with earlier | ⟨invalidates, _⟩
    · rcases lookup_instanceStep w.process does left with there | ⟨stored, kept, value, tags⟩
      · exact inv.current key entry there made earlier carried
      · rw [tags, List.mem_eraseDups] at carried
        rw [value]
        exact current_of_keptBy inv stores performed kept made earlier carried
    · rw [invalidates] at performed
      cases performed
      exact absurd carried (lookup_of_invalidateTag inv.indexed left).2

/-- **One step keeps the invariant, when what it stores is current.** -/
theorem inv_worldStep (w : World α) (e : WorldEvent α) (inv : WorldInv w)
    (stores : StoresCurrent w e) : WorldInv (worldStep lead w e) := by
  unfold worldStep
  cases performed : processEvent w e with
  | some does => exact inv_perform inv stores performed
  | none =>
      obtain ⟨process, invalidations, _, _⟩ := outside_frame lead w e
      have same : (recordTick (outside lead w e) e).process = (outside lead w e).process := by
        cases e <;> rfl
      refine ⟨?_, fun key entry left => ?_, history_recordTick (history_outside lead inv.history e) e⟩
      · show Indexed (recordTick (outside lead w e) e).process.service
        rw [same, process]
        exact inv.indexed
      · change (recordTick (outside lead w e) e).process.service.entries.lookup key = _ at left
        rw [same, process] at left
        intro made listed carried
        rcases mem_invalidations _ e made listed with earlier | ⟨invalidates, _⟩
        · rw [invalidations] at earlier
          exact inv.current key entry left made earlier carried
        · rw [invalidates] at performed
          cases performed

/-! ### Answers -/

/-- Where an answer of the process comes from: an entry, a record that is stored on the way, or a
loader. -/
theorem answer_effect {V : Type} (state : Instance V) (e : InstanceEvent V) {answer : Answer V}
    (given : (effect state e).answer = some answer) :
    (∃ key entry, state.service.entries.lookup key = some entry ∧ answer = entry.answer) ∨
      answer ∈ keptBy state e ∨ ∃ flight now, e = .loaded flight answer.value now := by
  have source := source_of_answer state e given
  cases e with
  | get key now =>
      obtain ⟨entry, there, -, is⟩ := source
      exact Or.inl ⟨key, entry, there, is⟩
  | getOrSet key options now =>
      obtain ⟨entry, there, -, is⟩ := source
      exact Or.inl ⟨key, entry, there, is⟩
  | remoteRead flight received now =>
      obtain ⟨call, record, found, at_stage, rfl, lasts, rfl⟩ := source
      refine Or.inr (Or.inl ?_)
      unfold keptBy
      dsimp only
      rw [found]
      exact if_pos ⟨at_stage, lasts⟩
  | loaded flight value now =>
      obtain ⟨call, found, rfl⟩ := source
      exact Or.inr (Or.inr ⟨flight, now, rfl⟩)
  | _ => exact absurd source id

/-- What a step answers is fresh, when what it stores is current. -/
theorem fresh_of_inv (w : World α) (e : WorldEvent α) (inv : WorldInv w)
    (stores : StoresCurrent w e) : Fresh w e := by
  intro answer given made listed before carried
  obtain ⟨does, performed, answered⟩ := Option.bind_eq_some_iff.mp given
  rcases answer_effect w.process does answered with
    ⟨key, entry, there, rfl⟩ | kept | ⟨flight, now, rfl⟩
  · exact inv.current key entry there made listed carried
  · exact current_of_keptBy inv stores performed kept made listed carried
  · -- a loader reads after its call has begun
    have loads : ∃ later, e = .loaded flight later ∧ w.read flight = some answer.value := by
      cases e with
      | loaded other later =>
          obtain ⟨copy, read, same⟩ := Option.map_eq_some_iff.mp performed
          cases same
          exact ⟨_, rfl, read⟩
      | resume other later =>
          unfold processEvent at performed
          dsimp only at performed
          split_ifs at performed
          · obtain ⟨_, _, same⟩ := Option.map_eq_some_iff.mp performed
            cases same
          · cases performed
      | _ => cases performed
    obtain ⟨_, rfl, read⟩ := loads
    have began := inv.history.readings flight answer.value read
    exact (before.trans_le began).le

theorem inv_freshWorld (configured : Bool) : WorldInv (freshWorld configured : World α) where
  indexed := indexed_empty
  current _ entry found := absurd found.symm (Option.some_ne_none entry)
  history :=
    { readings := fun _ copy read => absurd read.symm (Option.some_ne_none copy)
      begins := fun _ => le_rfl
      past := fun _ listed => absurd listed List.not_mem_nil }

/-- **No call begun after an invalidation answers with what was loaded before it, along every run
whose `getOrSet` calls store nothing that has been invalidated since it was loaded.** -/
theorem fresh_of_storesCurrent (configured : Bool) (events : List (WorldEvent α))
    (stores : Along (worldStep lead) StoresCurrent (freshWorld configured) events) :
    Along (worldStep lead) Fresh (freshWorld configured) events :=
  along_of_keeps (inv_worldStep lead) fresh_of_inv (inv_freshWorld configured) stores

end World

/-- Settings read and invalidated, and read again. -/
def settingsOptions : CacheSetOptions :=
  ⟨60, some ["platform-settings"]⟩

def readTwice : List (WorldEvent ℕ) :=
  [.getOrSet "platform-settings:current" settingsOptions 0, .resume 0 0, .loaderReads 0 1,
    .loaded 0 5, .invalidateTag "platform-settings",
    .getOrSet "platform-settings:current" settingsOptions 10, .resume 1 10, .loaderReads 1 2,
    .loaded 1 15, .get "platform-settings:current" 20]

theorem readTwice_fresh :
    Along (worldStep "acadid:cache") Fresh (freshWorld false) readTwice :=
  fresh_of_storesCurrent "acadid:cache" false readTwice (by decide)

/-- Settings invalidated between what a loader reads and what it returns. -/
def invalidatedMeanwhile : List (WorldEvent ℕ) :=
  [.getOrSet "platform-settings:current" settingsOptions 0, .resume 0 0, .loaderReads 0 1,
    .invalidateTag "platform-settings", .loaded 0 5, .get "platform-settings:current" 10]

theorem fresh_fails : ¬ ∀ (configured : Bool) (events : List (WorldEvent ℕ)),
    Along (worldStep "acadid:cache") Fresh (freshWorld configured) events := by
  intro all
  exact absurd (all false invalidatedMeanwhile) (by decide +kernel)

end Cache

end AcadID
