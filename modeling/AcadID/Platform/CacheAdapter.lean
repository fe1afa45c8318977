/-
**The shared cache: entries and tag sets in Redis, each with a deadline of its own.**

* `setSteps`, `deleteSteps`, `invalidateTagSteps` — the commands of each call, in order; `land` is
  what one command does when it reaches the server.
* `Listed` — every entry that has not expired is in the set of each of its tags; `KeepsListed` —
  that it is so between all calls of a run, and that every invalidation empties its tag.
* `OutlivesEntries` — the condition: when a tag's set is given its next deadline, the set is still
  there and no entry with the tag outlives the deadline.
* `keepsListed_of_outlives` — **entries stay listed along every run that meets it**: the invariant
  follows the call in progress, command by command (`Shape`).
-/

import AcadID.Lib.Redis
import AcadID.Lib.Run
import AcadID.Platform.Cache

set_option linter.unusedSectionVars false

namespace AcadID

open Lib

namespace Cache

section Adapter

variable {V : Type} (lead : String)

/-! ### The commands -/

def cacheKey (key : String) : String :=
  lead ++ ":entry:" ++ key

def tagKey (tag : String) : String :=
  lead ++ ":tag:" ++ tag

/-- A command of the adapter; `readTag` goes on with the deletions of what it reads. -/
inductive RemoteStep (V : Type) where
  | setEntry (key : String) (record : CacheRemoteRecord V) (ttlSeconds : ℚ)
  | addToTag (tag key : String)
  | expireTag (tag : String) (ttlSeconds : ℚ)
  | deleteEntry (key : String)
  | readTag (tag : String)
  | deleteTag (tag : String)
deriving DecidableEq

def tagSteps (key : String) (ttlSeconds : ℚ) (tags : List String) : List (RemoteStep V) :=
  tags.flatMap fun tag => [.addToTag tag key, .expireTag tag ttlSeconds]

def setSteps (key : String) (record : CacheRemoteRecord V) (ttlSeconds : ℚ) :
    List (RemoteStep V) :=
  .setEntry key record ttlSeconds :: tagSteps key ttlSeconds record.tags

def deleteSteps (key : String) : List (RemoteStep V) :=
  [.deleteEntry key]

def invalidateTagSteps (tag : String) : List (RemoteStep V) :=
  [.readTag tag]

def removals (keys : List String) (tag : String) : List (RemoteStep V) :=
  keys.map .deleteEntry ++ [.deleteTag tag]

/-- The keyspace as the adapter fills it; an entry's text stands as the record it is of. -/
abbrev Remote (V : Type) := Redis.Keyspace (CacheRemoteRecord V)

/-- A number of seconds as a command takes it: a whole number, or none. -/
def wholeSeconds (ttlSeconds : ℚ) : Except Redis.Fault ℤ :=
  if ttlSeconds.den = 1 then .ok ttlSeconds.num else .error .invalidExpire

/-- What a command leaves, and the commands that its answer adds to the call. -/
def land (step : RemoteStep V) (now : ℤ) (remote : Remote V) :
    Except Redis.Fault (Remote V × List (RemoteStep V)) :=
  match step with
  | .setEntry key record ttlSeconds => do
      let seconds ← wholeSeconds ttlSeconds
      let remote ← Redis.setEx (cacheKey lead key) record seconds now remote
      pure (remote, [])
  | .addToTag tag key => do
      let remote ← Redis.sadd (tagKey lead tag) key now remote
      pure (remote, [])
  | .expireTag tag ttlSeconds => do
      let seconds ← wholeSeconds ttlSeconds
      pure (Redis.expire (tagKey lead tag) seconds now remote, [])
  | .deleteEntry key => pure (Redis.del (cacheKey lead key) remote, [])
  | .readTag tag => do
      let keys ← Redis.smembers (tagKey lead tag) now remote
      pure (remote, removals keys tag)
  | .deleteTag tag => pure (Redis.del (tagKey lead tag) remote, [])

/-! ### A run of calls, one after another -/

structure AdapterState (V : Type) where
  remote : Remote V
  clock : ℤ
  todo : List (RemoteStep V)

inductive AdapterEvent (V : Type) where
  | set (key : String) (record : CacheRemoteRecord V) (ttlSeconds : ℚ)
  | delete (key : String)
  | invalidateTag (tag : String)
  | land
  | wait (milliseconds : ℕ)

/-- A call begins once the one before it is over. -/
def beginCall (steps : List (RemoteStep V)) (s : AdapterState V) : AdapterState V :=
  if s.todo = [] then { s with todo := steps } else s

/-- The next command of the call in progress; a refused command ends its call. -/
def landNext (s : AdapterState V) : AdapterState V :=
  match s.todo with
  | [] => s
  | next :: rest =>
      match land lead next s.clock s.remote with
      | .ok (remote, added) => { s with remote := remote, todo := added ++ rest }
      | .error _ => { s with todo := [] }

def adapterStep (s : AdapterState V) : AdapterEvent V → AdapterState V
  | .set key record ttlSeconds => beginCall (setSteps key record ttlSeconds) s
  | .delete key => beginCall (deleteSteps key) s
  | .invalidateTag tag => beginCall (invalidateTagSteps tag) s
  | .land => landNext lead s
  | .wait milliseconds => { s with clock := s.clock + milliseconds }

def emptyAdapter (clock : ℤ) : AdapterState V where
  remote := fun _ => none
  clock := clock
  todo := []

/-! ### The keys of the keyspace -/

theorem cacheKey_injective {key other : String} (same : cacheKey lead key = cacheKey lead other) :
    key = other := by
  apply String.toList_inj.mp
  have lists := congrArg String.toList same
  unfold cacheKey at lists
  simp only [String.toList_append] at lists
  exact List.append_cancel_left lists

theorem tagKey_injective {tag other : String} (same : tagKey lead tag = tagKey lead other) :
    tag = other := by
  apply String.toList_inj.mp
  have lists := congrArg String.toList same
  unfold tagKey at lists
  simp only [String.toList_append] at lists
  exact List.append_cancel_left lists

theorem cacheKey_ne_tagKey (key tag : String) : cacheKey lead key ≠ tagKey lead tag := by
  intro same
  have lists := congrArg String.toList same
  unfold cacheKey tagKey at lists
  simp only [String.toList_append, List.append_assoc] at lists
  have apart := List.append_cancel_left lists
  simp at apart

/-! ### Entries and their sets -/

/-- **Every entry that has not expired is in the set of each of its tags**, as the server
answers. -/
def Listed (s : AdapterState V) : Prop :=
  ∀ key record, Redis.get (cacheKey lead key) s.clock s.remote = .ok (some record) →
    ∀ tag ∈ record.tags, ∃ members,
      Redis.smembers (tagKey lead tag) s.clock s.remote = .ok members ∧ key ∈ members

/-- No entry of the tag is left. -/
def Removed (tag : String) (s : AdapterState V) : Prop :=
  ∀ key record, Redis.get (cacheKey lead key) s.clock s.remote = .ok (some record) →
    tag ∉ record.tags

/-- Whether an event begins a call; the others let the one in progress go on. -/
def AdapterEvent.isCall : AdapterEvent V → Bool
  | .land | .wait _ => false
  | .set .. | .delete _ | .invalidateTag _ => true

/-- **Entries are listed between all calls, and every invalidation, once it is done, has removed
the entries of its tag.** -/
def KeepsListed (clock : ℤ) (events : List (AdapterEvent V)) : Prop :=
  Throughout (adapterStep lead) (fun s => s.todo = [] → Listed lead s) (emptyAdapter clock) events ∧
    ∀ before tag during, events = before ++ .invalidateTag tag :: during →
      (runs (adapterStep lead) (emptyAdapter clock) before).todo = [] →
      (∀ e ∈ during, e.isCall = false) →
      (runs (adapterStep lead) (emptyAdapter clock) events).todo = [] →
        Removed lead tag (runs (adapterStep lead) (emptyAdapter clock) events)

/-- The entry of a key, with its deadline. -/
def Holds (remote : Remote V) (key : String) (record : CacheRemoteRecord V) (deadline : ℤ) : Prop :=
  remote (cacheKey lead key) = some ⟨.text record, some deadline⟩

/-- A tag's set, with its deadline. -/
def HoldsSet (remote : Remote V) (tag : String) (members : List String) (deadline : ℤ) : Prop :=
  remote (tagKey lead tag) = some ⟨.set members, some deadline⟩

/-- What stands under an entry's key is an entry with a deadline; under a tag's, a set. -/
structure Typed (remote : Remote V) : Prop where
  entries : ∀ key slot, remote (cacheKey lead key) = some slot →
    ∃ record deadline, slot = ⟨.text record, some deadline⟩
  sets : ∀ tag slot, remote (tagKey lead tag) = some slot →
    ∃ members deadline, slot = ⟨.set members, deadline⟩

/-- A key's entry that carries the tag and has not expired, with its deadline. -/
def Carries (clock : ℤ) (remote : Remote V) (tag key : String) (deadline : ℤ) : Prop :=
  clock < deadline ∧ ∃ record, Holds lead remote key record deadline ∧ tag ∈ record.tags

/-- The key is in the tag's set, which lasts until the deadline. -/
def ListedUntil (remote : Remote V) (tag key : String) (deadline : ℤ) : Prop :=
  ∃ members lasting, HoldsSet lead remote tag members lasting ∧ key ∈ members ∧
    deadline ≤ lasting

/-- Every entry that has not expired is listed under each of its tags for as long as it lives, but
for the tags that are still to be added to the key of the call in progress. -/
def Covered (clock : ℤ) (remote : Remote V) (key : String) (left : List String) : Prop :=
  ∀ tag other deadline, Carries lead clock remote tag other deadline →
    (other = key ∧ tag ∈ left) ∨ ListedUntil lead remote tag other deadline

/-- **The condition.** When a tag's set is given its next deadline, the set is still there, and no
entry with the tag outlives the deadline. -/
def OutlivesEntries (s : AdapterState V) : AdapterEvent V → Prop
  | .land => ∀ tag ttlSeconds rest, s.todo = .expireTag tag ttlSeconds :: rest →
      Redis.held s.clock (tagKey lead tag) s.remote ≠ none ∧
        ∀ seconds key deadline, wholeSeconds ttlSeconds = .ok seconds →
          Carries lead s.clock s.remote tag key deadline →
            deadline ≤ s.clock + seconds * 1000
  | _ => True

/-- The call in progress, by the commands that are left of it. -/
inductive Shape (s : AdapterState V) : Prop where
  | idle (done : s.todo = []) (covered : Covered lead s.clock s.remote "" [])
  | writing (key : String) (record : CacheRemoteRecord V) (ttlSeconds : ℚ)
      (commands : s.todo = setSteps key record ttlSeconds)
      (covered : Covered lead s.clock s.remote "" [])
  | adding (key : String) (ttlSeconds : ℚ) (seconds : ℤ) (left : List String)
      (commands : s.todo = tagSteps key ttlSeconds left)
      (whole : wholeSeconds ttlSeconds = .ok seconds) (positive : 0 < seconds)
      (covered : Covered lead s.clock s.remote key left)
  | expiring (key tag : String) (ttlSeconds : ℚ) (seconds : ℤ) (left : List String)
      (commands : s.todo = .expireTag tag ttlSeconds :: tagSteps key ttlSeconds left)
      (whole : wholeSeconds ttlSeconds = .ok seconds) (positive : 0 < seconds)
      (added : ∃ members deadline,
        s.remote (tagKey lead tag) = some ⟨.set members, deadline⟩ ∧ key ∈ members)
      (covered : Covered lead s.clock s.remote key (tag :: left))
  | deleting (key : String) (commands : s.todo = deleteSteps key)
      (covered : Covered lead s.clock s.remote "" [])
  | reading (tag : String) (commands : s.todo = invalidateTagSteps tag)
      (covered : Covered lead s.clock s.remote "" [])
  | removing (tag : String) (keys : List String) (commands : s.todo = removals keys tag)
      (found : ∀ key deadline, Carries lead s.clock s.remote tag key deadline → key ∈ keys)
      (covered : Covered lead s.clock s.remote "" [])

structure AdapterInv (s : AdapterState V) : Prop where
  typed : Typed lead s.remote
  shape : Shape lead s

/-- Only the command that gives a tag's set its deadline is conditioned. -/
def RemoteStep.isExpire : RemoteStep V → Bool
  | .expireTag .. => true
  | _ => false

theorem outlives_of_head {s : AdapterState V} {e : AdapterEvent V}
    (other : s.todo.head?.all (fun next => !next.isExpire) = true) :
    OutlivesEntries lead s e := by
  cases e with
  | land =>
      intro tag ttlSeconds rest commands
      rw [commands] at other
      exact absurd other Bool.noConfusion
  | _ => trivial

/-! ### What one command changes -/

variable {lead}

theorem holds_update_tag {remote : Remote V} (tag key : String) (slot : Option _)
    (record : CacheRemoteRecord V) (deadline : ℤ) :
    Holds lead (Function.update remote (tagKey lead tag) slot) key record deadline ↔
      Holds lead remote key record deadline := by
  unfold Holds
  rw [Function.update_of_ne (cacheKey_ne_tagKey lead key tag)]

theorem carries_update_tag {clock : ℤ} {remote : Remote V} (tag : String) (slot : Option _)
    (other key : String) (deadline : ℤ) :
    Carries lead clock (Function.update remote (tagKey lead tag) slot) other key deadline ↔
      Carries lead clock remote other key deadline := by
  unfold Carries
  simp only [holds_update_tag]

theorem listed_update_entry {remote : Remote V} (key : String) (slot : Option _)
    (tag other : String) (deadline : ℤ) :
    ListedUntil lead (Function.update remote (cacheKey lead key) slot) tag other deadline ↔
      ListedUntil lead remote tag other deadline := by
  unfold ListedUntil HoldsSet
  rw [Function.update_of_ne (cacheKey_ne_tagKey lead key tag).symm]

theorem listed_update_tag_of_ne {remote : Remote V} {tag under : String} (slot : Option _)
    (apart : under ≠ tag) (key : String) (deadline : ℤ) :
    ListedUntil lead (Function.update remote (tagKey lead tag) slot) under key deadline ↔
      ListedUntil lead remote under key deadline := by
  unfold ListedUntil HoldsSet
  rw [Function.update_of_ne fun same => apart (tagKey_injective lead same)]

theorem typed_update_entry {remote : Remote V} (typed : Typed lead remote) (key : String)
    (record : Option (CacheRemoteRecord V × ℤ)) :
    Typed lead (Function.update remote (cacheKey lead key)
      (record.map fun held => ⟨.text held.1, some held.2⟩)) where
  entries other slot there := by
    by_cases same : other = key
    · rw [same, Function.update_self] at there
      obtain ⟨held, _, rfl⟩ := Option.map_eq_some_iff.mp there
      exact ⟨held.1, held.2, rfl⟩
    · rw [Function.update_of_ne fun keys => same (cacheKey_injective lead keys)] at there
      exact typed.entries other slot there
  sets tag slot there := by
    rw [Function.update_of_ne (cacheKey_ne_tagKey lead key tag).symm] at there
    exact typed.sets tag slot there

theorem typed_update_tag {remote : Remote V} (typed : Typed lead remote) (tag : String)
    (set : Option (List String × Option ℤ)) :
    Typed lead (Function.update remote (tagKey lead tag)
      (set.map fun held => ⟨.set held.1, held.2⟩)) where
  entries key slot there := by
    rw [Function.update_of_ne (cacheKey_ne_tagKey lead key tag)] at there
    exact typed.entries key slot there
  sets under slot there := by
    by_cases same : under = tag
    · rw [same, Function.update_self] at there
      obtain ⟨held, _, rfl⟩ := Option.map_eq_some_iff.mp there
      exact ⟨held.1, held.2, rfl⟩
    · rw [Function.update_of_ne fun tags => same (tagKey_injective lead tags)] at there
      exact typed.sets under slot there

theorem Covered.later {clock later : ℤ} (after : clock ≤ later) {remote : Remote V} {key : String}
    {left : List String} (covered : Covered lead clock remote key left) :
    Covered lead later remote key left :=
  fun tag other deadline ⟨alive, held⟩ =>
    covered tag other deadline ⟨lt_of_le_of_lt after alive, held⟩

theorem Covered.of_nil {clock : ℤ} {remote : Remote V} {key : String}
    (covered : Covered lead clock remote key []) (other : String) (left : List String) :
    Covered lead clock remote other left :=
  fun tag under deadline carried => Or.inr
    ((covered tag under deadline carried).resolve_left fun both => List.not_mem_nil both.2)

/-- Deleting an entry leaves every other one listed. -/
theorem Covered.deleted {clock : ℤ} {remote : Remote V} {left : List String} {key : String}
    (covered : Covered lead clock remote key left) (gone : String) :
    Covered lead clock (Redis.del (cacheKey lead gone) remote) key left := by
  rintro tag other deadline ⟨alive, record, there, carried⟩
  have apart : other ≠ gone := by
    rintro rfl
    unfold Holds Redis.del at there
    rw [Function.update_self] at there
    exact Option.some_ne_none _ there.symm
  unfold Holds Redis.del at there
  rw [Function.update_of_ne fun keys => apart (cacheKey_injective lead keys)] at there
  unfold Redis.del
  rw [listed_update_entry]
  exact covered tag other deadline ⟨alive, record, there, carried⟩

theorem setEx_eq_ok {key : String} {record : CacheRemoteRecord V} {seconds now : ℤ}
    {remote after : Remote V}
    (written : Redis.setEx key record seconds now remote = .ok after) :
    0 < seconds ∧ after = Function.update remote key
      (some ⟨.text record, some (now + seconds * 1000)⟩) := by
  unfold Redis.setEx at written
  split_ifs at written with spent
  exact ⟨not_le.mp spent, (Except.ok.inj written).symm⟩

/-- A new entry is still to be listed, under each of its tags. -/
theorem Covered.written {clock : ℤ} {remote : Remote V}
    (covered : Covered lead clock remote "" []) (key : String) (record : CacheRemoteRecord V)
    (deadline : ℤ) :
    Covered lead clock (Function.update remote (cacheKey lead key)
      (some ⟨.text record, some deadline⟩)) key record.tags := by
  rintro tag other lasting ⟨alive, held, there, carried⟩
  rw [listed_update_entry]
  unfold Holds at there
  by_cases same : other = key
  · rw [same, Function.update_self] at there
    cases there
    exact Or.inl ⟨same, carried⟩
  · rw [Function.update_of_ne fun keys => same (cacheKey_injective lead keys)] at there
    exact covered.of_nil key record.tags tag other lasting ⟨alive, held, there, carried⟩

/-- `SADD` to a tag's set: the key is in it, and who was listed in it before still is. -/
theorem sadd_tag (clock : ℤ) {remote : Remote V} (typed : Typed lead remote) (tag key : String) :
    ∃ members deadline,
      Redis.sadd (tagKey lead tag) key clock remote =
        .ok (Function.update remote (tagKey lead tag) (some ⟨.set members, deadline⟩)) ∧
      key ∈ members ∧
      ∀ other lasting, clock < lasting → ListedUntil lead remote tag other lasting →
        other ∈ members ∧ ∃ bound, deadline = some bound ∧ lasting ≤ bound := by
  unfold Redis.sadd
  cases found : Redis.held clock (tagKey lead tag) remote with
  | none =>
      refine ⟨[key], none, rfl, List.mem_singleton_self key, ?_⟩
      rintro other lasting alive ⟨members, bound, there, _, enough⟩
      have still : Redis.held clock (tagKey lead tag) remote = some ⟨.set members, some bound⟩ := by
        refine Redis.held_eq_some.mpr ⟨there, fun deadline given => ?_⟩
        cases given
        exact lt_of_lt_of_le alive enough
      rw [found] at still
      exact absurd still.symm (Option.some_ne_none _)
  | some slot =>
      have there := (Redis.held_eq_some.mp found).1
      obtain ⟨members, deadline, rfl⟩ := typed.sets tag slot there
      refine ⟨members.insert key, deadline, rfl, List.mem_insert_self, ?_⟩
      rintro other lasting alive ⟨listed, bound, same, member, enough⟩
      unfold HoldsSet at same
      rw [there] at same
      cases same
      exact ⟨List.mem_insert_of_mem member, bound, rfl, enough⟩

theorem inv_setEntry {s : AdapterState V} (typed : Typed lead s.remote) (key : String)
    (record : CacheRemoteRecord V) (ttlSeconds : ℚ)
    (commands : s.todo = setSteps key record ttlSeconds)
    (covered : Covered lead s.clock s.remote "" []) : AdapterInv lead (landNext lead s) := by
  have refused : AdapterInv lead { s with todo := [] } := ⟨typed, .idle rfl covered⟩
  unfold landNext
  rw [commands]
  unfold setSteps land
  dsimp only
  cases whole : wholeSeconds ttlSeconds with
  | error fault => exact refused
  | ok seconds =>
      cases written : Redis.setEx (cacheKey lead key) record seconds s.clock s.remote with
      | error fault =>
          simp only [Bind.bind, Except.bind, written]
          exact refused
      | ok after =>
          simp only [Bind.bind, Except.bind, written, Pure.pure, Except.pure, List.nil_append]
          obtain ⟨positive, rfl⟩ := setEx_eq_ok written
          exact
            { typed := typed_update_entry typed key (some (record, s.clock + seconds * 1000))
              shape := .adding key ttlSeconds seconds record.tags rfl whole positive
                (covered.written key record _) }

theorem inv_addToTag {s : AdapterState V} (typed : Typed lead s.remote) (key tag : String)
    (ttlSeconds : ℚ) (seconds : ℤ) (left : List String)
    (commands : s.todo = tagSteps key ttlSeconds (tag :: left))
    (whole : wholeSeconds ttlSeconds = .ok seconds) (positive : 0 < seconds)
    (covered : Covered lead s.clock s.remote key (tag :: left)) :
    AdapterInv lead (landNext lead s) := by
  obtain ⟨members, deadline, answered, added, kept⟩ := sadd_tag s.clock typed tag key
  unfold landNext
  rw [commands]
  show AdapterInv lead (match land lead (.addToTag tag key) s.clock s.remote with
    | .ok (remote, added) =>
        { s with remote := remote
                 todo := added ++ .expireTag tag ttlSeconds :: tagSteps key ttlSeconds left }
    | .error _ => { s with todo := [] })
  unfold land
  simp only [answered, Bind.bind, Except.bind, Pure.pure, Except.pure, List.nil_append]
  exact
    { typed := typed_update_tag typed tag (some (members, deadline))
      shape := .expiring key tag ttlSeconds seconds left rfl whole positive
        ⟨members, deadline, Function.update_self .., added⟩ (by
          intro under other lasting carried
          rw [carries_update_tag] at carried
          refine (covered under other lasting carried).imp_right fun listed => ?_
          by_cases same : under = tag
          · rw [same] at listed ⊢
            obtain ⟨member, bound, rfl, enough⟩ := kept other lasting carried.1 listed
            exact ⟨members, bound, Function.update_self .., member, enough⟩
          · exact (listed_update_tag_of_ne _ same other lasting).mpr listed) }

theorem inv_expireTag {s : AdapterState V} (typed : Typed lead s.remote) (key tag : String)
    (ttlSeconds : ℚ) (seconds : ℤ) (left : List String)
    (commands : s.todo = .expireTag tag ttlSeconds :: tagSteps key ttlSeconds left)
    (whole : wholeSeconds ttlSeconds = .ok seconds) (positive : 0 < seconds)
    (added : ∃ members deadline,
      s.remote (tagKey lead tag) = some ⟨.set members, deadline⟩ ∧ key ∈ members)
    (covered : Covered lead s.clock s.remote key (tag :: left))
    (outlives : OutlivesEntries lead s .land) : AdapterInv lead (landNext lead s) := by
  obtain ⟨there, enough⟩ := outlives tag ttlSeconds _ commands
  obtain ⟨members, deadline, set, present⟩ := added
  obtain ⟨slot, held⟩ := Option.ne_none_iff_exists'.mp there
  have same_slot := (Redis.held_eq_some.mp held).1
  rw [set] at same_slot
  obtain rfl := Option.some.inj same_slot
  have expired : Redis.expire (tagKey lead tag) seconds s.clock s.remote =
      Function.update s.remote (tagKey lead tag)
        (some ⟨.set members, some (s.clock + seconds * 1000)⟩) := by
    unfold Redis.expire
    rw [held]
    exact if_neg (not_le.mpr positive)
  unfold landNext
  rw [commands]
  unfold land
  simp only [whole, expired, Bind.bind, Except.bind, Pure.pure, Except.pure, List.nil_append]
  exact
    { typed := typed_update_tag typed tag (some (members, some (s.clock + seconds * 1000)))
      shape := .adding key ttlSeconds seconds left rfl whole positive (by
        intro under other lasting carried
        rw [carries_update_tag] at carried
        by_cases same : under = tag
        · have member : other ∈ members := by
            rcases covered under other lasting carried with new | listed
            · rw [new.1]
              exact present
            · obtain ⟨found, bound, holds, member, _⟩ := listed
              unfold HoldsSet at holds
              rw [same, set] at holds
              cases holds
              exact member
          rw [same] at carried ⊢
          exact Or.inr ⟨members, _, Function.update_self .., member,
            enough seconds other lasting whole carried⟩
        · refine (covered under other lasting carried).imp (fun new => ⟨new.1, ?_⟩) fun listed => ?_
          · exact (List.mem_cons.mp new.2).resolve_left same
          · exact (listed_update_tag_of_ne _ same other lasting).mpr listed) }

/-- An entry that is carried after one has been deleted was carried before, and is another one. -/
theorem Carries.of_deleted {clock : ℤ} {remote : Remote V} {gone tag key : String} {deadline : ℤ}
    (carried : Carries lead clock (Redis.del (cacheKey lead gone) remote) tag key deadline) :
    Carries lead clock remote tag key deadline ∧ key ≠ gone := by
  obtain ⟨alive, record, there, has⟩ := carried
  unfold Holds Redis.del at there
  by_cases same : key = gone
  · rw [same, Function.update_self] at there
    exact absurd there.symm (Option.some_ne_none _)
  · rw [Function.update_of_ne fun keys => same (cacheKey_injective lead keys)] at there
    exact ⟨⟨alive, record, there, has⟩, same⟩

theorem inv_deleteEntry {s : AdapterState V} (typed : Typed lead s.remote) (key : String)
    (commands : s.todo = deleteSteps key) (covered : Covered lead s.clock s.remote "" []) :
    AdapterInv lead (landNext lead s) := by
  unfold landNext
  rw [commands]
  exact ⟨typed_update_entry typed key none, .idle rfl (covered.deleted key)⟩

/-- `SMEMBERS` of a tag's set: whoever carries the tag is among the answers. -/
theorem smembers_tag (clock : ℤ) {remote : Remote V} (typed : Typed lead remote)
    (covered : Covered lead clock remote "" []) (tag : String) :
    ∃ keys, Redis.smembers (tagKey lead tag) clock remote = .ok keys ∧
      ∀ key deadline, Carries lead clock remote tag key deadline → key ∈ keys := by
  have listed : ∀ key deadline, Carries lead clock remote tag key deadline →
      ∃ members lasting, Redis.held clock (tagKey lead tag) remote =
        some ⟨.set members, some lasting⟩ ∧ key ∈ members := by
    intro key deadline carried
    obtain ⟨members, lasting, there, member, enough⟩ :=
      (covered tag key deadline carried).resolve_left fun both => List.not_mem_nil both.2
    refine ⟨members, lasting, Redis.held_eq_some.mpr ⟨there, fun bound given => ?_⟩, member⟩
    cases given
    exact lt_of_lt_of_le carried.1 enough
  unfold Redis.smembers
  cases found : Redis.held clock (tagKey lead tag) remote with
  | none =>
      refine ⟨[], rfl, fun key deadline carried => ?_⟩
      obtain ⟨members, lasting, held, _⟩ := listed key deadline carried
      rw [found] at held
      exact absurd held.symm (Option.some_ne_none _)
  | some slot =>
      obtain ⟨members, bound, rfl⟩ := typed.sets tag slot (Redis.held_eq_some.mp found).1
      refine ⟨members, rfl, fun key deadline carried => ?_⟩
      obtain ⟨others, lasting, held, member⟩ := listed key deadline carried
      rw [found] at held
      cases held
      exact member

theorem inv_readTag {s : AdapterState V} (typed : Typed lead s.remote) (tag : String)
    (commands : s.todo = invalidateTagSteps tag) (covered : Covered lead s.clock s.remote "" []) :
    ∃ keys, landNext lead s = { s with todo := removals keys tag } ∧
      ∀ key deadline, Carries lead s.clock s.remote tag key deadline → key ∈ keys := by
  obtain ⟨keys, answered, found⟩ := smembers_tag s.clock typed covered tag
  refine ⟨keys, ?_, found⟩
  unfold landNext
  rw [commands]
  unfold invalidateTagSteps land
  simp only [answered, Bind.bind, Except.bind, Pure.pure, Except.pure, List.append_nil]

/-- The next removal: an entry goes, or with no entry left the tag's set does. -/
theorem landNext_removals (s : AdapterState V) (tag : String) (keys : List String) :
    s.todo = removals keys tag → landNext lead s = match keys with
      | [] => { s with remote := Redis.del (tagKey lead tag) s.remote, todo := [] }
      | key :: keys =>
          { s with
            remote := Redis.del (cacheKey lead key) s.remote
            todo := removals keys tag } := by
  intro commands
  unfold landNext
  rw [commands]
  cases keys <;> rfl

/-- What is left of an invalidation: the set to read, the entries to remove, or nothing. -/
inductive Emptying (lead : String) (tag : String) (s : AdapterState V) : Prop where
  | reading (commands : s.todo = invalidateTagSteps tag)
  | removing (keys : List String) (commands : s.todo = removals keys tag)
      (found : ∀ key deadline, Carries lead s.clock s.remote tag key deadline → key ∈ keys)
  | done (commands : s.todo = [])
      (none_left : ∀ key deadline, ¬ Carries lead s.clock s.remote tag key deadline)

theorem emptying_removal {s : AdapterState V} {tag : String} {keys : List String}
    (commands : s.todo = removals keys tag)
    (found : ∀ key deadline, Carries lead s.clock s.remote tag key deadline → key ∈ keys) :
    Emptying lead tag (landNext lead s) := by
  rw [landNext_removals s tag keys commands]
  cases keys with
  | nil =>
      refine .done rfl fun key deadline carried => ?_
      exact List.not_mem_nil (found key deadline ((carries_update_tag tag none ..).mp carried))
  | cons key keys =>
      refine .removing keys rfl fun other deadline carried => ?_
      obtain ⟨before, apart⟩ := carried.of_deleted
      exact (List.mem_cons.mp (found other deadline before)).resolve_left apart

theorem inv_removal {s : AdapterState V} (typed : Typed lead s.remote) (tag : String)
    (keys : List String) (commands : s.todo = removals keys tag)
    (found : ∀ key deadline, Carries lead s.clock s.remote tag key deadline → key ∈ keys)
    (covered : Covered lead s.clock s.remote "" []) : AdapterInv lead (landNext lead s) := by
  rw [landNext_removals s tag keys commands]
  cases keys with
  | nil =>
      refine ⟨typed_update_tag typed tag none, .idle rfl fun under key deadline carried => ?_⟩
      have before := (carries_update_tag tag none ..).mp carried
      have apart : under ≠ tag := by
        rintro rfl
        exact List.not_mem_nil (found key deadline before)
      exact (covered under key deadline before).imp_right
        (listed_update_tag_of_ne none apart key deadline).mpr
  | cons key keys =>
      refine ⟨typed_update_entry typed key none, .removing tag keys rfl ?_ (covered.deleted key)⟩
      intro other deadline carried
      obtain ⟨before, apart⟩ := carried.of_deleted
      exact (List.mem_cons.mp (found other deadline before)).resolve_left apart

/-! ### A step, and a run -/

theorem inv_landNext {s : AdapterState V} (inv : AdapterInv lead s)
    (outlives : OutlivesEntries lead s .land) : AdapterInv lead (landNext lead s) := by
  obtain ⟨typed, shape⟩ := inv
  have nothing : s.todo = [] → landNext lead s = s := by
    intro done
    unfold landNext
    rw [done]
  cases shape with
  | idle done covered =>
      rw [nothing done]
      exact ⟨typed, .idle done covered⟩
  | writing key record ttlSeconds commands covered =>
      exact inv_setEntry typed key record ttlSeconds commands covered
  | adding key ttlSeconds seconds left commands whole positive covered =>
      cases left with
      | nil =>
          rw [nothing commands]
          exact ⟨typed, .idle commands (covered.of_nil "" [])⟩
      | cons tag left =>
          exact inv_addToTag typed key tag ttlSeconds seconds left commands whole positive covered
  | expiring key tag ttlSeconds seconds left commands whole positive added covered =>
      exact inv_expireTag typed key tag ttlSeconds seconds left commands whole positive added
        covered outlives
  | deleting key commands covered => exact inv_deleteEntry typed key commands covered
  | reading tag commands covered =>
      obtain ⟨keys, after, found⟩ := inv_readTag typed tag commands covered
      rw [after]
      exact ⟨typed, .removing tag keys rfl found covered⟩
  | removing tag keys commands found covered =>
      exact inv_removal typed tag keys commands found covered

theorem Shape.covered_of_idle {s : AdapterState V} (shape : Shape lead s) (done : s.todo = []) :
    Covered lead s.clock s.remote "" [] := by
  cases shape with
  | adding key ttlSeconds seconds left commands whole positive covered =>
      cases left with
      | nil => exact covered.of_nil "" []
      | cons tag left =>
          rw [done] at commands
          exact absurd commands.symm (List.cons_ne_nil _ _)
  | expiring key tag ttlSeconds seconds left commands whole positive added covered =>
      rw [done] at commands
      exact absurd commands.symm (List.cons_ne_nil _ _)
  | idle _ covered => exact covered
  | writing _ _ _ _ covered => exact covered
  | deleting _ _ covered => exact covered
  | reading _ _ covered => exact covered
  | removing _ _ _ _ covered => exact covered

theorem Shape.covered_of_reading {s : AdapterState V} (shape : Shape lead s) {tag : String}
    (reads : s.todo = invalidateTagSteps tag) : Covered lead s.clock s.remote "" [] := by
  cases shape with
  | adding key ttlSeconds seconds left commands whole positive covered =>
      rw [reads] at commands
      cases left <;> cases commands
  | expiring key other ttlSeconds seconds left commands whole positive added covered =>
      rw [reads] at commands
      cases commands
  | idle _ covered => exact covered
  | writing _ _ _ _ covered => exact covered
  | deleting _ _ covered => exact covered
  | reading _ _ covered => exact covered
  | removing _ _ _ _ covered => exact covered

theorem inv_wait {s : AdapterState V} (inv : AdapterInv lead s) (milliseconds : ℕ) :
    AdapterInv lead { s with clock := s.clock + milliseconds } := by
  obtain ⟨typed, shape⟩ := inv
  have after : s.clock ≤ s.clock + milliseconds := by omega
  refine ⟨typed, ?_⟩
  cases shape with
  | idle done covered => exact .idle done (covered.later after)
  | writing key record ttlSeconds commands covered =>
      exact .writing key record ttlSeconds commands (covered.later after)
  | adding key ttlSeconds seconds left commands whole positive covered =>
      exact .adding key ttlSeconds seconds left commands whole positive (covered.later after)
  | expiring key tag ttlSeconds seconds left commands whole positive added covered =>
      exact .expiring key tag ttlSeconds seconds left commands whole positive added
        (covered.later after)
  | deleting key commands covered => exact .deleting key commands (covered.later after)
  | reading tag commands covered => exact .reading tag commands (covered.later after)
  | removing tag keys commands found covered =>
      refine .removing tag keys commands (fun key deadline carried => ?_) (covered.later after)
      exact found key deadline ⟨lt_of_le_of_lt after carried.1, carried.2⟩

/-- A call begins only when none is in progress. -/
theorem inv_beginCall {s : AdapterState V} (inv : AdapterInv lead s) (steps : List (RemoteStep V))
    (shape : s.todo = [] → Shape lead { s with todo := steps }) :
    AdapterInv lead (beginCall steps s) := by
  unfold beginCall
  split_ifs with done
  · exact ⟨inv.typed, shape done⟩
  · exact inv

theorem inv_adapterStep (s : AdapterState V) (e : AdapterEvent V) (inv : AdapterInv lead s)
    (outlives : OutlivesEntries lead s e) : AdapterInv lead (adapterStep lead s e) := by
  cases e with
  | set key record ttlSeconds =>
      exact inv_beginCall inv _ fun done =>
        .writing key record ttlSeconds rfl (inv.shape.covered_of_idle done)
  | delete key =>
      exact inv_beginCall inv _ fun done =>
        .deleting key rfl (inv.shape.covered_of_idle done)
  | invalidateTag tag =>
      exact inv_beginCall inv _ fun done =>
        .reading tag rfl (inv.shape.covered_of_idle done)
  | land => exact inv_landNext inv outlives
  | wait milliseconds => exact inv_wait inv milliseconds

theorem inv_empty (clock : ℤ) : AdapterInv lead (emptyAdapter clock : AdapterState V) where
  typed :=
    { entries := fun _ _ there => absurd there.symm (Option.some_ne_none _)
      sets := fun _ _ there => absurd there.symm (Option.some_ne_none _) }
  shape := .idle rfl fun _ _ _ ⟨_, _, there, _⟩ => absurd there.symm (Option.some_ne_none _)

theorem get_entry {clock : ℤ} {remote : Remote V} (typed : Typed lead remote) {key : String}
    {record : CacheRemoteRecord V}
    (answered : Redis.get (cacheKey lead key) clock remote = .ok (some record)) :
    ∃ deadline, clock < deadline ∧ Holds lead remote key record deadline := by
  unfold Redis.get at answered
  cases held : Redis.held clock (cacheKey lead key) remote with
  | none =>
      rw [held] at answered
      exact absurd (Except.ok.inj answered) (Option.some_ne_none record).symm
  | some slot =>
      obtain ⟨there, alive⟩ := Redis.held_eq_some.mp held
      obtain ⟨found, deadline, rfl⟩ := typed.entries key slot there
      rw [held] at answered
      cases answered
      exact ⟨deadline, alive deadline rfl, there⟩

theorem listed_of_inv {s : AdapterState V} (inv : AdapterInv lead s) (done : s.todo = []) :
    Listed lead s := by
  intro key record answered tag carried
  obtain ⟨deadline, alive, there⟩ := get_entry inv.typed answered
  obtain ⟨keys, members, found⟩ :=
    smembers_tag s.clock inv.typed (inv.shape.covered_of_idle done) tag
  exact ⟨keys, members, found key deadline ⟨alive, record, there, carried⟩⟩

/-! ### Invalidation -/

theorem emptying_step {s : AdapterState V} (inv : AdapterInv lead s) {tag : String}
    (emptying : Emptying lead tag s) {e : AdapterEvent V} (going_on : e.isCall = false) :
    Emptying lead tag (adapterStep lead s e) := by
  cases e with
  | set key record ttlSeconds => exact absurd going_on (Bool.noConfusion)
  | delete key => exact absurd going_on (Bool.noConfusion)
  | invalidateTag other => exact absurd going_on (Bool.noConfusion)
  | land =>
      show Emptying lead tag (landNext lead s)
      cases emptying with
      | reading commands =>
          have covered := inv.shape.covered_of_reading commands
          obtain ⟨keys, after, found⟩ := inv_readTag inv.typed tag commands covered
          rw [after]
          exact .removing keys rfl found
      | removing keys commands found => exact emptying_removal commands found
      | done commands none_left =>
          have nothing : landNext lead s = s := by
            unfold landNext
            rw [commands]
          rw [nothing]
          exact .done commands none_left
  | wait milliseconds =>
      have after : s.clock ≤ s.clock + milliseconds := by omega
      have earlier : ∀ key deadline, Carries lead (s.clock + milliseconds) s.remote tag key
          deadline → Carries lead s.clock s.remote tag key deadline :=
        fun key deadline carried => ⟨lt_of_le_of_lt after carried.1, carried.2⟩
      cases emptying with
      | reading commands => exact .reading commands
      | removing keys commands found =>
          exact .removing keys commands fun key deadline carried =>
            found key deadline (earlier key deadline carried)
      | done commands none_left =>
          exact .done commands fun key deadline carried =>
            none_left key deadline (earlier key deadline carried)

theorem emptying_runs {s : AdapterState V} (inv : AdapterInv lead s) {tag : String}
    (emptying : Emptying lead tag s) {during : List (AdapterEvent V)}
    (going_on : ∀ e ∈ during, e.isCall = false)
    (outlives : Along (adapterStep lead) (OutlivesEntries lead) s during) :
    Emptying lead tag (runs (adapterStep lead) s during) := by
  induction during generalizing s with
  | nil => exact emptying
  | cons e during ih =>
      have first := going_on e List.mem_cons_self
      exact ih (inv_adapterStep s e inv outlives.1) (emptying_step inv emptying first)
        (fun other later => going_on other (List.mem_cons_of_mem e later)) outlives.2

theorem removed_of_emptying {s : AdapterState V} (inv : AdapterInv lead s) {tag : String}
    (emptying : Emptying lead tag s) (done : s.todo = []) : Removed lead tag s := by
  intro key record answered carried
  obtain ⟨deadline, alive, there⟩ := get_entry inv.typed answered
  cases emptying with
  | reading commands =>
      rw [done] at commands
      exact absurd commands.symm (List.cons_ne_nil _ _)
  | removing keys commands found =>
      rw [done] at commands
      exact absurd commands.symm (List.append_ne_nil_of_right_ne_nil _ (List.cons_ne_nil _ _))
  | done _ none_left => exact none_left key deadline ⟨alive, record, there, carried⟩

/-- **Every entry that has not expired stays in the set of each of its tags, and an invalidation
removes every entry of its tag, along every run whose tag sets outlive their entries.** -/
theorem keepsListed_of_outlives (clock : ℤ) (events : List (AdapterEvent V))
    (outlives : Along (adapterStep lead) (OutlivesEntries lead) (emptyAdapter clock) events) :
    KeepsListed lead clock events := by
  refine ⟨?_, fun before tag during split idle going_on done => ?_⟩
  · refine (throughout_of_guarded inv_adapterStep (inv_empty clock) outlives).mono ?_
    exact fun s inv finished => listed_of_inv inv finished
  · subst split
    obtain ⟨earlier, later⟩ := along_append.mp outlives
    have inv := runs_of_keeps inv_adapterStep (inv_empty clock) earlier
    have asked : Emptying lead tag
        (adapterStep lead (runs (adapterStep lead) (emptyAdapter clock) before)
          (.invalidateTag tag)) := by
      refine .reading ?_
      show (beginCall _ _).todo = _
      unfold beginCall
      rw [if_pos idle]
    have emptied := emptying_runs (inv_adapterStep _ _ inv later.1) asked going_on later.2
    have end_inv := runs_of_keeps inv_adapterStep (inv_empty clock) outlives
    rw [runs_append, runs_cons] at done end_inv ⊢
    exact removed_of_emptying end_inv emptied done

end Adapter

def settingsRecord : CacheRemoteRecord ℕ :=
  ⟨7, 60000, ["platform-settings"]⟩

def settingsWritten : Remote ℕ :=
  Function.update (fun _ => none) (cacheKey "acadid:cache" "settings")
    (some ⟨.text settingsRecord, some 60000⟩)

/-- An entry for a minute, and after it the tag's set read and emptied. -/
def oneMinute : List (AdapterEvent ℕ) :=
  [.set "settings" settingsRecord 60, .land, .land, .land, .wait 2000,
    .invalidateTag "platform-settings", .land, .land, .land]

theorem oneMinute_keepsListed : KeepsListed "acadid:cache" 0 oneMinute := by
  refine keepsListed_of_outlives 0 oneMinute ?_
  refine ⟨trivial, ?_, ?_, ?_, trivial, trivial, ?_, ?_, ?_, trivial⟩
  case refine_3 =>
    intro tag ttlSeconds rest commands
    cases commands
    refine ⟨by decide, fun seconds key deadline whole carried => ?_⟩
    obtain ⟨_, record, there, _⟩ := carried
    cases whole
    have written : deadline = 60000 := by
      change Function.update settingsWritten (tagKey "acadid:cache" "platform-settings")
        (some ⟨.set ["settings"], none⟩) (cacheKey "acadid:cache" key) = _ at there
      rw [Function.update_of_ne (cacheKey_ne_tagKey _ key _), settingsWritten] at there
      by_cases same : cacheKey "acadid:cache" key = cacheKey "acadid:cache" "settings"
      · rw [same, Function.update_self] at there
        cases there
        rfl
      · rw [Function.update_of_ne same] at there
        exact absurd there.symm (Option.some_ne_none _)
    rw [written]
    decide
  all_goals exact outlives_of_head _ (by decide)

/-- An entry for a minute, and then one for a second under the same tag. -/
def shortened : List (AdapterEvent ℕ) :=
  [.set "first" ⟨1, 60000, ["platform-settings"]⟩ 60, .land, .land, .land,
    .set "second" ⟨2, 1000, ["platform-settings"]⟩ 1, .land, .land, .land, .wait 2000]

theorem keepsListed_fails : ¬ ∀ (clock : ℤ) (events : List (AdapterEvent ℕ)),
    KeepsListed "acadid:cache" clock events := by
  intro all
  have listed := throughout_iff_prefixes.mp (all 0 shortened).1 shortened [] rfl
  have answer := listed rfl "first" ⟨1, 60000, ["platform-settings"]⟩ (by decide)
    "platform-settings" (by decide)
  obtain ⟨members, read, member⟩ := answer
  have empty : Redis.smembers (tagKey "acadid:cache" "platform-settings")
      (runs (adapterStep "acadid:cache") (emptyAdapter 0) shortened).clock
      (runs (adapterStep "acadid:cache") (emptyAdapter 0) shortened).remote = .ok [] := by decide
  rw [empty] at read
  cases read
  exact List.not_mem_nil member

end Cache

end AcadID
