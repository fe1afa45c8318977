/-
**The cache of one process: entries by key, and the keys of each tag.**

* `get`, `set`, `delete`, `invalidateTag`, `invalidatePrefix` and `clear` — each as the service
  computes it, with the calls it makes to the shared cache, if there is one.
* `Indexed` — **a key is indexed under a tag exactly when its entry carries the tag**, and no tag
  is indexed with an empty set.
* `indexed_setLocal`, `indexed_deleteLocal` — the two operations on the maps keep it; every other
  one is made of them.
* `lookup_invalidateTag`, `lookup_invalidatePrefix` — what an invalidation leaves under each key.
-/

import Mathlib.Data.Rat.Floor
import AcadID.Lib.Multimap
import AcadID.Lib.Text

set_option linter.unusedSectionVars false

namespace AcadID

open Lib

namespace Cache

section Service

variable {V : Type}

/-- An entry; its tags are a set, listed without repetition. -/
structure CacheEntry (V : Type) where
  value : V
  expiresAt : ℚ
  tags : List String
deriving DecidableEq

structure CacheSetOptions where
  ttlSeconds : ℚ
  tags : Option (List String)
deriving DecidableEq

/-- What the shared cache keeps of an entry. -/
structure CacheRemoteRecord (V : Type) where
  value : V
  expiresAt : ℚ
  tags : List String
deriving DecidableEq

/-- A call to the shared cache that nothing waits for. -/
inductive RemoteCall (V : Type) where
  | set (key : String) (record : CacheRemoteRecord V) (ttlSeconds : ℚ)
  | delete (key : String)
  | invalidateTag (tag : String)
  | invalidatePrefix (lead : String)
  | clear
deriving DecidableEq

structure CacheService (V : Type) where
  entries : AList fun _ : String => CacheEntry V
  tagIndex : Multimap String String

def emptyService : CacheService V where
  entries := ∅
  tagIndex := ∅

/-! ### The two maps -/

/-- Whether there was an entry to delete, and the service without it. -/
def deleteLocal (key : String) (service : CacheService V) : Bool × CacheService V :=
  match service.entries.lookup key with
  | none => (false, service)
  | some entry =>
      (true,
        { entries := service.entries.erase key
          tagIndex := detachAll key entry.tags service.tagIndex })

/-- The tags the entry is stored with, and the service with it in the place of any older one. -/
def setLocal (key : String) (value : V) (options : CacheSetOptions) (expiresAt : Option ℚ)
    (now : ℤ) (service : CacheService V) : List String × CacheService V :=
  let cleared := (deleteLocal key service).2
  let tags := (options.tags.getD []).eraseDups
  let entry : CacheEntry V :=
    { value := value
      expiresAt := expiresAt.getD (now + options.ttlSeconds * 1000)
      tags := tags }
  (tags,
    { entries := cleared.entries.insert key entry
      tagIndex := attachAll key tags cleared.tagIndex })

def deleteAll (keys : List String) (service : CacheService V) : CacheService V :=
  keys.foldl (fun service key => (deleteLocal key service).2) service

/-! ### The operations -/

/-- The service after an operation, with the calls it makes to the shared cache. -/
structure Outcome (V : Type) where
  service : CacheService V
  calls : List (RemoteCall V)

def delete (key : String) (service : CacheService V) : Outcome V :=
  match deleteLocal key service with
  | (false, service) => ⟨service, []⟩
  | (true, service) => ⟨service, [.delete key]⟩

/-- The entry that `get` answers with, if it hits; an expired entry is deleted on the way. -/
def get (key : String) (now : ℤ) (service : CacheService V) : Option (CacheEntry V) × Outcome V :=
  match service.entries.lookup key with
  | none => (none, ⟨service, []⟩)
  | some entry =>
      if entry.expiresAt ≤ now then (none, delete key service)
      else (some entry, ⟨service, []⟩)

def set (key : String) (value : V) (options : CacheSetOptions) (now : ℤ)
    (service : CacheService V) : Outcome V :=
  if options.ttlSeconds ≤ 0 then ⟨service, []⟩
  else
    let expiresAt : ℚ := now + options.ttlSeconds * 1000
    let stored := setLocal key value options (some expiresAt) now service
    ⟨stored.2, [.set key ⟨value, expiresAt, stored.1⟩ options.ttlSeconds]⟩

def invalidateTag (tag : String) (service : CacheService V) : Outcome V :=
  ⟨deleteAll (members tag service.tagIndex) service, [.invalidateTag tag]⟩

def startsWith (key lead : String) : Bool :=
  lead.toList.isPrefixOf key.toList

def invalidatePrefix (lead : String) (service : CacheService V) : Outcome V :=
  ⟨deleteAll (service.entries.keys.filter fun key => startsWith key lead) service,
    [.invalidatePrefix lead]⟩

def clear (_service : CacheService V) : Outcome V :=
  ⟨emptyService, [.clear]⟩

/-- What `getOrSet` keeps of a record that the shared cache has answered with. -/
def keepRemote (key : String) (remote : CacheRemoteRecord V) (now : ℤ)
    (service : CacheService V) : CacheService V :=
  (setLocal key remote.value
    { ttlSeconds := max 1 ⌈(remote.expiresAt - now) / 1000⌉
      tags := some remote.tags } none now service).2

/-! ### What the maps hold -/

theorem lookup_deleteLocal (key other : String) (service : CacheService V) :
    (deleteLocal key service).2.entries.lookup other =
      if other = key then none else service.entries.lookup other := by
  unfold deleteLocal
  cases found : service.entries.lookup key with
  | none =>
      by_cases same : other = key
      · rw [if_pos same, same, found]
      · rw [if_neg same]
  | some entry =>
      by_cases same : other = key
      · rw [if_pos same, same]
        exact AList.lookup_erase key service.entries
      · rw [if_neg same]
        exact AList.lookup_erase_ne same

theorem mem_deleteLocal (key other tag : String) (service : CacheService V) :
    other ∈ members tag (deleteLocal key service).2.tagIndex ↔
      other ∈ members tag service.tagIndex ∧
        ¬ (other = key ∧ ∃ entry, service.entries.lookup key = some entry ∧ tag ∈ entry.tags) := by
  unfold deleteLocal
  cases found : service.entries.lookup key with
  | none =>
      refine (and_iff_left ?_).symm
      rintro ⟨_, entry, given, _⟩
      exact Option.some_ne_none entry given.symm
  | some entry =>
      show other ∈ members tag (detachAll key entry.tags service.tagIndex) ↔ _
      rw [mem_detachAll]
      refine and_congr Iff.rfl (not_congr ⟨fun both => ⟨both.2, entry, rfl, both.1⟩, ?_⟩)
      rintro ⟨same, other_entry, given, carried⟩
      rw [Option.some.inj given]
      exact ⟨carried, same⟩

theorem lookup_setLocal (key other : String) (value : V) (options : CacheSetOptions)
    (expiresAt : Option ℚ) (now : ℤ) (service : CacheService V) :
    (setLocal key value options expiresAt now service).2.entries.lookup other =
      if other = key then
        some { value := value
               expiresAt := expiresAt.getD (now + options.ttlSeconds * 1000)
               tags := (options.tags.getD []).eraseDups }
      else service.entries.lookup other := by
  unfold setLocal
  by_cases same : other = key
  · rw [if_pos same, same]
    exact AList.lookup_insert _
  · rw [if_neg same]
    refine (AList.lookup_insert_ne same).trans ?_
    rw [lookup_deleteLocal, if_neg same]

theorem lookup_deleteAll (keys : List String) (other : String) (service : CacheService V) :
    (deleteAll keys service).entries.lookup other =
      if other ∈ keys then none else service.entries.lookup other := by
  unfold deleteAll
  induction keys generalizing service with
  | nil => rw [List.foldl_nil, if_neg List.not_mem_nil]
  | cons key keys ih =>
      rw [List.foldl_cons, ih, lookup_deleteLocal]
      by_cases later : other ∈ keys
      · rw [if_pos later, if_pos (List.mem_cons_of_mem key later)]
      · by_cases same : other = key
        · rw [if_neg later, if_pos same, same, if_pos List.mem_cons_self]
        · rw [if_neg later, if_neg same, if_neg (by simp [same, later])]

/-! ### The index -/

/-- **The index agrees with the entries.** -/
structure Indexed (service : CacheService V) : Prop where
  agrees : ∀ tag key, key ∈ members tag service.tagIndex ↔
    ∃ entry, service.entries.lookup key = some entry ∧ tag ∈ entry.tags
  noneEmpty : NoneEmpty service.tagIndex

theorem indexed_empty : Indexed (emptyService : CacheService V) where
  agrees tag key := by
    refine ⟨fun listed => absurd listed (by rw [emptyService, members_empty]; exact
      List.not_mem_nil), ?_⟩
    rintro ⟨entry, found, _⟩
    exact absurd found (by
      rw [emptyService, AList.lookup_empty]
      exact (Option.some_ne_none entry).symm)
  noneEmpty := noneEmpty_empty

theorem indexed_deleteLocal (key : String) {service : CacheService V}
    (indexed : Indexed service) : Indexed (deleteLocal key service).2 where
  agrees tag other := by
    rw [mem_deleteLocal, indexed.agrees, lookup_deleteLocal]
    by_cases same : other = key
    · rw [if_pos same, same]
      refine ⟨fun both => absurd ⟨rfl, both.1⟩ both.2, ?_⟩
      rintro ⟨entry, none_left, _⟩
      exact absurd none_left (Option.some_ne_none entry).symm
    · rw [if_neg same]
      exact and_iff_left fun both => same both.1
  noneEmpty := by
    unfold deleteLocal
    cases service.entries.lookup key with
    | none => exact indexed.noneEmpty
    | some entry => exact noneEmpty_detachAll key entry.tags indexed.noneEmpty

theorem indexed_setLocal (key : String) (value : V) (options : CacheSetOptions)
    (expiresAt : Option ℚ) (now : ℤ) {service : CacheService V} (indexed : Indexed service) :
    Indexed (setLocal key value options expiresAt now service).2 where
  agrees tag other := by
    have cleared := indexed_deleteLocal key indexed
    rw [lookup_setLocal]
    show other ∈ members tag (attachAll key (options.tags.getD []).eraseDups
      (deleteLocal key service).2.tagIndex) ↔ _
    rw [mem_attachAll, cleared.agrees, lookup_deleteLocal]
    by_cases same : other = key
    · rw [if_pos same, if_pos same]
      refine ⟨fun either => ⟨_, rfl, ?_⟩, ?_⟩
      · refine either.elim And.left ?_
        rintro ⟨entry, none_left, _⟩
        exact absurd none_left (Option.some_ne_none entry).symm
      · rintro ⟨entry, given, carried⟩
        rw [← Option.some.inj given] at carried
        exact Or.inl ⟨carried, same⟩
    · rw [if_neg same, if_neg same]
      exact or_iff_right fun both => same both.2
  noneEmpty := noneEmpty_attachAll key _ (indexed_deleteLocal key indexed).noneEmpty

theorem indexed_deleteAll (keys : List String) {service : CacheService V}
    (indexed : Indexed service) : Indexed (deleteAll keys service) := by
  unfold deleteAll
  induction keys generalizing service with
  | nil => exact indexed
  | cons key keys ih => exact ih (indexed_deleteLocal key indexed)

theorem delete_service (key : String) (service : CacheService V) :
    (delete key service).service = (deleteLocal key service).2 := by
  unfold delete
  rcases deleteLocal key service with ⟨_ | _, rest⟩ <;> rfl

theorem indexed_delete (key : String) {service : CacheService V} (indexed : Indexed service) :
    Indexed (delete key service).service := by
  rw [delete_service]
  exact indexed_deleteLocal key indexed

theorem indexed_get (key : String) (now : ℤ) {service : CacheService V}
    (indexed : Indexed service) : Indexed (get key now service).2.service := by
  unfold get
  cases service.entries.lookup key with
  | none => exact indexed
  | some entry =>
      dsimp only
      split_ifs
      · exact indexed_delete key indexed
      · exact indexed

theorem indexed_set (key : String) (value : V) (options : CacheSetOptions) (now : ℤ)
    {service : CacheService V} (indexed : Indexed service) :
    Indexed (set key value options now service).service := by
  unfold set
  split_ifs
  · exact indexed
  · exact indexed_setLocal key value options _ now indexed

theorem indexed_keepRemote (key : String) (remote : CacheRemoteRecord V) (now : ℤ)
    {service : CacheService V} (indexed : Indexed service) :
    Indexed (keepRemote key remote now service) :=
  indexed_setLocal key remote.value _ none now indexed

/-! ### What an invalidation leaves -/

/-- An invalidated tag's entries are gone, and the others stay. -/
theorem lookup_invalidateTag (tag key : String) {service : CacheService V}
    (indexed : Indexed service) :
    (invalidateTag tag service).service.entries.lookup key =
      (service.entries.lookup key).filter fun entry => !entry.tags.contains tag := by
  refine (lookup_deleteAll _ key service).trans ?_
  have listed := indexed.agrees tag key
  cases found : service.entries.lookup key with
  | none => exact ite_self none
  | some entry =>
      rw [Option.filter_some]
      by_cases carried : tag ∈ entry.tags
      · rw [if_pos (listed.mpr ⟨entry, found, carried⟩), List.contains_iff_mem.mpr carried]
        rfl
      · have absent : entry.tags.contains tag = false := by simpa using carried
        rw [if_neg, absent]
        · rfl
        · intro there
          obtain ⟨other, given, carries⟩ := listed.mp there
          rw [found] at given
          exact carried (Option.some.inj given ▸ carries)

/-- An invalidated prefix's entries are gone, and the others stay. -/
theorem lookup_invalidatePrefix (lead key : String) (service : CacheService V) :
    (invalidatePrefix lead service).service.entries.lookup key =
      if startsWith key lead then none else service.entries.lookup key := by
  refine (lookup_deleteAll _ key service).trans ?_
  have chosen : key ∈ service.entries.keys.filter (fun key => startsWith key lead) ↔
      key ∈ service.entries.keys ∧ startsWith key lead = true := List.mem_filter
  by_cases leads : startsWith key lead = true
  · rw [if_pos leads]
    by_cases there : key ∈ service.entries.keys
    · rw [if_pos (chosen.mpr ⟨there, leads⟩)]
    · rw [if_neg fun both => there (chosen.mp both).1]
      exact AList.lookup_eq_none.mpr fun listed => there (AList.mem_keys.mp listed)
  · rw [if_neg leads, if_neg fun both => leads (chosen.mp both).2]

theorem not_carried_invalidateTag (tag key : String) {service : CacheService V}
    (indexed : Indexed service) {entry : CacheEntry V}
    (left : (invalidateTag tag service).service.entries.lookup key = some entry) :
    tag ∉ entry.tags := by
  rw [lookup_invalidateTag tag key indexed, Option.filter_eq_some_iff] at left
  simpa using left.2

end Service

end Cache

end AcadID
