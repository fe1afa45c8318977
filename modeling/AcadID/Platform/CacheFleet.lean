/-
**How long a value is answered, by any number of processes that share one cache.**

* `Stored` — a value with the call of `set` that it is of: when it was made, and for how long.
* `fleetStep` — one operation of a process at the common clock, or one command reaching the shared
  cache; a `getOrSet` call goes on at one instant once the shared cache has answered.
* `OnTime` — what every record and every local entry keeps: a record expires when its time to live is
  over, and a local copy of it less than a second later.
* `answers_in_time` — **no process answers a value a second after its time to live is over**, or
  later, in any run.
-/

import AcadID.Lib.Async
import AcadID.Platform.CacheFreshness

set_option linter.unusedSectionVars false

namespace AcadID

open Lib

namespace Cache

/-! ### The processes and the shared cache -/

/-- A value, with the call of `set` that it is of. -/
structure Stored (α : Type) where
  value : α
  storedAt : ℤ
  ttlSeconds : ℚ
deriving DecidableEq

/-- The end of its time to live. -/
def Stored.over {α : Type} (stored : Stored α) : ℚ :=
  stored.storedAt + stored.ttlSeconds * 1000

section Fleet

variable {ι α : Type} [DecidableEq ι] (lead : String)

/-- `arrived` is what each `getOrSet` call in flight has been answered by the shared cache. -/
structure CacheFleet (ι α : Type) where
  clock : ℤ
  processes : ι → Instance (Stored α)
  remote : Remote (Stored α)
  calls : List (List (RemoteStep (Stored α)))
  arrived : ι → ℕ → Option (Option (CacheRemoteRecord (Stored α)))

/-- What a process does, at the common clock. -/
inductive CacheOperation (α : Type) where
  | get (key : String)
  | set (key : String) (value : α) (options : CacheSetOptions)
  | delete (key : String)
  | invalidateTag (tag : String)
  | invalidatePrefix (start : String)
  | clear
  | getOrSet (key : String) (options : CacheSetOptions)
  | resume (flight : ℕ)
  | loaded (flight : ℕ) (value : α)
  | loaderFailed (flight : ℕ)

inductive CacheFleetEvent (ι α : Type) where
  | wait (milliseconds : ℕ)
  | perform (process : ι) (operation : CacheOperation α)
  | remoteAnswers (process : ι) (flight : ℕ) (serverTime : ℤ)
  | remoteFails (process : ι) (flight : ℕ)
  | land (call : ℕ) (serverTime : ℤ)
  | drop (call : ℕ)
  /-- A key of the shared cache is gone: a scan has deleted it, or the server has evicted it. -/
  | removed (key : String)

/-- The operation as an event of its process; what is set, by `set` or by `getOrSet`, is stamped. -/
def CacheOperation.event (fleet : CacheFleet ι α) (process : ι) :
    CacheOperation α → Option (InstanceEvent (Stored α))
  | .get key => some (.get key fleet.clock)
  | .set key value options =>
      some (.set key ⟨value, fleet.clock, options.ttlSeconds⟩ options fleet.clock)
  | .delete key => some (.delete key)
  | .invalidateTag tag => some (.invalidateTag tag)
  | .invalidatePrefix start => some (.invalidatePrefix start)
  | .clear => some .clear
  | .getOrSet key options => some (.getOrSet key options fleet.clock)
  | .resume flight =>
      (fleet.arrived process flight).map fun answer => .remoteRead flight answer fleet.clock
  | .loaded flight value =>
      (fleet.processes process).flights[flight]?.map fun call =>
        .loaded flight ⟨value, fleet.clock, call.options.ttlSeconds⟩ fleet.clock
  | .loaderFailed flight => some (.loaderFailed flight)

/-- What a `getOrSet` call in flight is answered by the shared cache, unless it has been already. -/
def CacheFleet.answered (fleet : CacheFleet ι α) (process : ι) (flight : ℕ)
    (answer : Flight → Option (CacheRemoteRecord (Stored α))) : CacheFleet ι α :=
  match (fleet.processes process).flights[flight]?, fleet.arrived process flight with
  | some call, none =>
      { fleet with
        arrived := Function.update fleet.arrived process
          (Function.update (fleet.arrived process) flight (some (answer call))) }
  | _, _ => fleet

/-- The next command of a call reaches the server; a refused one ends its call. -/
def CacheFleet.landed (fleet : CacheFleet ι α) (call : ℕ) (serverTime : ℤ) : CacheFleet ι α :=
  match fleet.calls[call]? with
  | some (next :: rest) =>
      match land lead next serverTime fleet.remote with
      | .ok (remote, added) =>
          { fleet with
            remote := remote
            calls := fleet.calls.set call (added ++ rest) }
      | .error _ => { fleet with calls := fleet.calls.set call [] }
  | _ => fleet

def CacheFleet.performed (fleet : CacheFleet ι α) (process : ι)
    (e : InstanceEvent (Stored α)) : CacheFleet ι α :=
  let after := effect (fleet.processes process) e
  { fleet with
    processes := Function.update fleet.processes process after.state
    calls := fleet.calls ++ after.calls.map commands }

def fleetStep (fleet : CacheFleet ι α) : CacheFleetEvent ι α → CacheFleet ι α
  | .wait milliseconds => { fleet with clock := fleet.clock + milliseconds }
  | .perform process operation =>
      match operation.event fleet process with
      | some e => fleet.performed process e
      | none => fleet
  | .remoteAnswers process flight serverTime =>
      fleet.answered process flight fun call =>
        (Redis.get (cacheKey lead call.key) serverTime fleet.remote).toOption.join
  | .remoteFails process flight => fleet.answered process flight fun _ => none
  | .land call serverTime => fleet.landed lead call serverTime
  | .drop call => { fleet with calls := fleet.calls.set call [] }
  | .removed key => { fleet with remote := Redis.del key fleet.remote }

def startFleet (clock : ℤ) : CacheFleet ι α where
  clock := clock
  processes _ := freshInstance
  remote _ := none
  calls := []
  arrived _ _ := none

/-- What a step answers a caller. -/
def fleetAnswer (fleet : CacheFleet ι α) : CacheFleetEvent ι α → Option (Answer (Stored α))
  | .perform process operation =>
      (operation.event fleet process).bind fun e => (effect (fleet.processes process) e).answer
  | _ => none

/-- What a step answers, of what `set` stores, its time to live is not over for a second. -/
def AnswersInTime (fleet : CacheFleet ι α) (e : CacheFleetEvent ι α) : Prop :=
  ∀ answer ∈ fleetAnswer fleet e, 0 < answer.value.ttlSeconds →
    fleet.clock < answer.value.over + 1000

/-! ### How long copies last -/

/-- The record expires when its time to live is over. -/
def OnTime (record : CacheRemoteRecord (Stored α)) : Prop :=
  record.expiresAt ≤ record.value.over

/-- The entry expires less than a second after its time to live is over. -/
def AlmostOnTime (entry : CacheEntry (Stored α)) : Prop :=
  entry.expiresAt < entry.value.over + 1000

/-- **Rounding a copy's time to live up to whole seconds adds less than one.** -/
theorem rounded_up_lt (now : ℚ) {left : ℚ} (positive : 0 < left) :
    now + max 1 (⌈left / 1000⌉ : ℚ) * 1000 < now + left + 1000 := by
  have lasts : (0 : ℚ) < left / 1000 := div_pos positive (by norm_num)
  have whole : (1 : ℚ) ≤ ⌈left / 1000⌉ := by
    exact_mod_cast Int.one_le_ceil_iff.mpr lasts
  have close := Int.ceil_lt_add_one (left / 1000)
  rw [max_eq_right whole]
  linarith

theorem almostOnTime_keptEntry {record : CacheRemoteRecord (Stored α)} (onTime : OnTime record)
    {now : ℤ} {entry : CacheEntry (Stored α)} (kept : keptEntry record now = some entry) :
    AlmostOnTime entry := by
  unfold keptEntry at kept
  split_ifs at kept with lasts
  cases kept
  have rounded := rounded_up_lt now (sub_pos.mpr lasts)
  rw [add_sub_cancel] at rounded
  exact rounded.trans_le (add_le_add_left onTime 1000)

/-- The value is stamped with a call of `set`. -/
def StampedWith (value : Stored α) (options : CacheSetOptions) (now : ℤ) : Prop :=
  value.storedAt = now ∧ value.ttlSeconds = options.ttlSeconds

/-- An event at an instant: what it sets is stamped, and what the shared cache has answered with is
on time. -/
def Stamped (state : Instance (Stored α)) (clock : ℤ) : InstanceEvent (Stored α) → Prop
  | .get _ now | .getOrSet _ _ now => now = clock
  | .set _ value options now => now = clock ∧ StampedWith value options now
  | .loaded flight value now => now = clock ∧
      ∀ call, state.flights[flight]? = some call → StampedWith value call.options now
  | .remoteRead _ answer now => now = clock ∧ ∀ record, answer = some record → OnTime record
  | _ => True

theorem over_of_setEntry {value : Stored α} {options : CacheSetOptions} {now : ℤ}
    {entry : CacheEntry (Stored α)} (stamped : StampedWith value options now)
    (made : setEntry value options now = some entry) : entry.expiresAt = entry.value.over := by
  unfold setEntry at made
  split_ifs at made
  cases made
  show (now : ℚ) + options.ttlSeconds * 1000 = value.storedAt + value.ttlSeconds * 1000
  rw [stamped.1, stamped.2]

theorem almostOnTime_of_setEntry {value : Stored α} {options : CacheSetOptions} {now : ℤ}
    {entry : CacheEntry (Stored α)} (stamped : StampedWith value options now)
    (made : setEntry value options now = some entry) : AlmostOnTime entry := by
  unfold AlmostOnTime
  rw [over_of_setEntry stamped made]
  exact lt_add_of_pos_right _ (by norm_num)

section Process

variable {state : Instance (Stored α)} {clock : ℤ} {e : InstanceEvent (Stored α)}

/-- **What a step stores is almost on time.** -/
theorem almostOnTime_storedEntry (stamped : Stamped state clock e)
    {entry : CacheEntry (Stored α)} (stored : storedEntry state e = some entry) :
    AlmostOnTime entry := by
  cases e with
  | set key value options now => exact almostOnTime_of_setEntry stamped.2 stored
  | remoteRead flight answer now =>
      unfold storedEntry at stored
      dsimp only at stored
      cases found : state.flights[flight]? with
      | none =>
          rw [found] at stored
          cases stored
      | some call =>
          rw [found] at stored
          dsimp only at stored
          split_ifs at stored
          obtain ⟨record, is, kept⟩ := Option.bind_eq_some_iff.mp stored
          exact almostOnTime_keptEntry (stamped.2 record is) kept
  | loaded flight value now =>
      unfold storedEntry at stored
      dsimp only at stored
      cases found : state.flights[flight]? with
      | none =>
          rw [found] at stored
          cases stored
      | some call =>
          rw [found] at stored
          dsimp only at stored
          split_ifs at stored
          exact almostOnTime_of_setEntry (stamped.2 call found) stored
  | _ => cases stored

/-- **What a step sends to the shared cache is on time.** -/
theorem onTime_of_calls (stamped : Stamped state clock e) {key : String}
    {record : CacheRemoteRecord (Stored α)} {ttlSeconds : ℚ}
    (sent : RemoteCall.set key record ttlSeconds ∈ (effect state e).calls) : OnTime record := by
  have sets := sets_of_calls state e sent
  cases e with
  | set other value options now => exact (over_of_setEntry stamped.2 sets).le
  | loaded flight value now =>
      obtain ⟨call, found, made⟩ := sets
      exact (over_of_setEntry (stamped.2 call found) made).le
  | _ => exact absurd sets id

/-- **What a step answers is in time**, when the entries of its process almost are. -/
theorem answer_in_time
    (entries : ∀ key entry, state.service.entries.lookup key = some entry → AlmostOnTime entry)
    (stamped : Stamped state clock e) {answer : Answer (Stored α)}
    (given : (effect state e).answer = some answer) (positive : 0 < answer.value.ttlSeconds) :
    clock < answer.value.over + 1000 := by
  have source := source_of_answer state e given
  cases e with
  | get key now =>
      obtain ⟨entry, there, lasts, rfl⟩ := source
      obtain rfl := stamped
      exact lasts.trans (entries key entry there)
  | getOrSet key options now =>
      obtain ⟨entry, there, lasts, rfl⟩ := source
      obtain rfl := stamped
      exact lasts.trans (entries key entry there)
  | remoteRead flight received now =>
      obtain ⟨-, record, -, -, is, lasts, rfl⟩ := source
      obtain ⟨rfl, onTime⟩ := stamped
      exact (lasts.trans_le (onTime record is)).trans (lt_add_of_pos_right _ (by norm_num))
  | loaded flight value now =>
      obtain ⟨call, found, is⟩ := source
      obtain ⟨rfl, stamp⟩ := stamped
      rw [is] at positive ⊢
      unfold Stored.over
      rw [(stamp call found).1]
      linarith
  | _ => exact absurd source id

end Process

/-! ### The invariant -/

/-- What a command writes is on time. -/
def WritesOnTime : RemoteStep (Stored α) → Prop
  | .setEntry _ record _ => OnTime record
  | _ => True

/-- The records of the shared cache are on time. -/
def RecordsOnTime (remote : Remote (Stored α)) : Prop :=
  ∀ key record deadline, remote key = some ⟨.text record, deadline⟩ → OnTime record

structure Timely (fleet : CacheFleet ι α) : Prop where
  entries : ∀ process key entry,
    (fleet.processes process).service.entries.lookup key = some entry → AlmostOnTime entry
  records : RecordsOnTime fleet.remote
  calls : ∀ steps ∈ fleet.calls, ∀ step ∈ steps, WritesOnTime step
  arrived : ∀ process flight record, fleet.arrived process flight = some (some record) →
    OnTime record

theorem recordsOnTime_update {remote : Remote (Stored α)} (onTime : RecordsOnTime remote)
    (key : String) {slot : Option (Redis.Slot (CacheRemoteRecord (Stored α)))}
    (new : ∀ record deadline, slot = some ⟨.text record, deadline⟩ → OnTime record) :
    RecordsOnTime (Function.update remote key slot) := by
  intro other record deadline there
  by_cases same : other = key
  · rw [same, Function.update_self] at there
    exact new record deadline there
  · rw [Function.update_of_ne same] at there
    exact onTime other record deadline there

theorem recordsOnTime_setEx {remote after : Remote (Stored α)} {key : String}
    {record : CacheRemoteRecord (Stored α)} {seconds serverTime : ℤ}
    (written : Redis.setEx key record seconds serverTime remote = .ok after)
    (onTime : RecordsOnTime remote) (new : OnTime record) : RecordsOnTime after := by
  obtain ⟨-, rfl⟩ := setEx_eq_ok written
  refine recordsOnTime_update onTime key fun other deadline same => ?_
  cases same
  exact new

theorem recordsOnTime_sadd {remote after : Remote (Stored α)} {key member : String}
    {serverTime : ℤ} (added : Redis.sadd key member serverTime remote = .ok after)
    (onTime : RecordsOnTime remote) : RecordsOnTime after := by
  unfold Redis.sadd at added
  split at added
  · cases added
    exact recordsOnTime_update onTime key fun _ _ same => by cases same
  · cases added
    exact recordsOnTime_update onTime key fun _ _ same => by cases same
  · cases added

theorem recordsOnTime_expire {remote : Remote (Stored α)} (onTime : RecordsOnTime remote)
    (key : String) (seconds serverTime : ℤ) :
    RecordsOnTime (Redis.expire key seconds serverTime remote) := by
  unfold Redis.expire
  cases held : Redis.held serverTime key remote with
  | none => exact onTime
  | some slot =>
      dsimp only
      split_ifs
      · exact recordsOnTime_update onTime key fun _ _ same => by cases same
      · refine recordsOnTime_update onTime key fun other deadline same => ?_
        have there := (Redis.held_eq_some.mp held).1
        obtain ⟨content, before⟩ := slot
        cases same
        exact onTime key other before there

theorem recordsOnTime_del {remote : Remote (Stored α)} (onTime : RecordsOnTime remote)
    (key : String) : RecordsOnTime (Redis.del key remote) :=
  recordsOnTime_update onTime key fun _ _ same => by cases same

/-- **One command keeps the records on time**, and adds no command that writes. -/
theorem land_onTime {step : RemoteStep (Stored α)} {serverTime : ℤ}
    {remote after : Remote (Stored α)} {added : List (RemoteStep (Stored α))}
    (landed : land lead step serverTime remote = .ok (after, added)) (writes : WritesOnTime step)
    (onTime : RecordsOnTime remote) : RecordsOnTime after ∧ ∀ step ∈ added, WritesOnTime step := by
  have none_ : ∀ step ∈ ([] : List (RemoteStep (Stored α))), WritesOnTime step :=
    fun step inside => absurd inside List.not_mem_nil
  cases step with
  | setEntry key record ttlSeconds =>
      obtain ⟨seconds, -, written⟩ := bind_eq_ok.mp landed
      obtain ⟨new, set, same⟩ := bind_eq_ok.mp written
      cases same
      exact ⟨recordsOnTime_setEx set onTime writes, none_⟩
  | addToTag tag key =>
      obtain ⟨new, set, same⟩ := bind_eq_ok.mp landed
      cases same
      exact ⟨recordsOnTime_sadd set onTime, none_⟩
  | expireTag tag ttlSeconds =>
      obtain ⟨seconds, -, same⟩ := bind_eq_ok.mp landed
      cases same
      exact ⟨recordsOnTime_expire onTime _ seconds serverTime, none_⟩
  | deleteEntry key =>
      cases landed
      exact ⟨recordsOnTime_del onTime _, none_⟩
  | readTag tag =>
      obtain ⟨keys, -, same⟩ := bind_eq_ok.mp landed
      cases same
      refine ⟨onTime, fun step inside => ?_⟩
      rcases List.mem_append.mp inside with removal | last
      · obtain ⟨key, -, rfl⟩ := List.mem_map.mp removal
        trivial
      · rw [List.mem_singleton.mp last]
        trivial
  | deleteTag tag =>
      cases landed
      exact ⟨recordsOnTime_del onTime _, none_⟩

/-- The commands of a call write what the call sends. -/
theorem writesOnTime_commands {call : RemoteCall (Stored α)}
    (onTime : ∀ key record ttlSeconds, call = .set key record ttlSeconds → OnTime record) :
    ∀ step ∈ commands call, WritesOnTime step := by
  intro step inside
  cases call with
  | set key record ttlSeconds =>
      rcases List.mem_cons.mp inside with rfl | tagged
      · exact onTime key record ttlSeconds rfl
      · obtain ⟨tag, -, listed⟩ := List.mem_flatMap.mp tagged
        simp only [List.mem_cons, List.not_mem_nil, or_false] at listed
        rcases listed with rfl | rfl <;> trivial
  | delete key =>
      rw [List.mem_singleton.mp inside]
      trivial
  | invalidateTag tag =>
      rw [List.mem_singleton.mp inside]
      trivial
  | invalidatePrefix start => cases inside
  | clear => cases inside

/-- What the shared cache answers a `getOrSet` call in flight is on time. -/
theorem timely_answered {fleet : CacheFleet ι α} (timely : Timely fleet) (process : ι)
    (flight : ℕ) {answer : Flight → Option (CacheRemoteRecord (Stored α))}
    (onTime : ∀ call record, answer call = some record → OnTime record) :
    Timely (fleet.answered process flight answer) := by
  unfold CacheFleet.answered
  split
  · rename_i call found none_
    refine { timely with arrived := fun other number record there => ?_ }
    by_cases same : other = process
    · rw [same] at there
      dsimp only at there
      rw [Function.update_self] at there
      by_cases here : number = flight
      · rw [here, Function.update_self] at there
        exact onTime call record (Option.some.inj there)
      · rw [Function.update_of_ne here] at there
        exact timely.arrived process number record there
    · dsimp only at there
      rw [Function.update_of_ne same] at there
      exact timely.arrived other number record there
  · exact timely

theorem onTime_of_get {remote : Remote (Stored α)} (onTime : RecordsOnTime remote) {key : String}
    {serverTime : ℤ} {record : CacheRemoteRecord (Stored α)}
    (read : (Redis.get key serverTime remote).toOption.join = some record) : OnTime record := by
  unfold Redis.get at read
  split at read
  · cases read
  · rename_i deadline held
    cases read
    exact onTime key record deadline (Redis.held_eq_some.mp held).1
  · cases read

theorem timely_landed {fleet : CacheFleet ι α} (timely : Timely fleet) (call : ℕ)
    (serverTime : ℤ) : Timely (fleet.landed lead call serverTime) := by
  unfold CacheFleet.landed
  split
  · rename_i next rest found
    have inside := List.mem_of_getElem? found
    have writes := timely.calls _ inside
    split
    · rename_i remote added landed
      obtain ⟨records, quiet⟩ :=
        land_onTime lead landed (writes next List.mem_cons_self) timely.records
      refine { timely with records := records, calls := fun steps set step listed => ?_ }
      rcases List.mem_or_eq_of_mem_set set with before | rfl
      · exact timely.calls steps before step listed
      · rcases List.mem_append.mp listed with new | old
        · exact quiet step new
        · exact writes step (List.mem_cons_of_mem next old)
    · refine { timely with calls := fun steps set step listed => ?_ }
      rcases List.mem_or_eq_of_mem_set set with before | rfl
      · exact timely.calls steps before step listed
      · cases listed
  · exact timely

theorem stamped_event {fleet : CacheFleet ι α} (timely : Timely fleet) {process : ι}
    {operation : CacheOperation α} {e : InstanceEvent (Stored α)}
    (is : operation.event fleet process = some e) :
    Stamped (fleet.processes process) fleet.clock e := by
  cases operation with
  | resume flight =>
      obtain ⟨answer, arrived, rfl⟩ := Option.map_eq_some_iff.mp is
      refine ⟨rfl, fun record given => ?_⟩
      rw [given] at arrived
      exact timely.arrived process flight record arrived
  | loaded flight value =>
      obtain ⟨call, found, rfl⟩ := Option.map_eq_some_iff.mp is
      refine ⟨rfl, fun other there => ?_⟩
      rw [found] at there
      cases there
      exact ⟨rfl, rfl⟩
  | set key value options =>
      cases is
      exact ⟨rfl, rfl, rfl⟩
  | get key =>
      cases is
      rfl
  | getOrSet key options =>
      cases is
      rfl
  | _ =>
      cases is
      trivial

theorem timely_performed {fleet : CacheFleet ι α} (timely : Timely fleet) {process : ι}
    {e : InstanceEvent (Stored α)} (stamped : Stamped (fleet.processes process) fleet.clock e) :
    Timely (fleet.performed process e) where
  entries other key entry there := by
    by_cases same : other = process
    · rw [same] at there
      change (Function.update fleet.processes process _ process).service.entries.lookup key = _
        at there
      rw [Function.update_self] at there
      rcases lookup_effect _ e there with before | stored
      · exact timely.entries process key entry before
      · exact almostOnTime_storedEntry stamped stored
    · change (Function.update fleet.processes process _ other).service.entries.lookup key = _
        at there
      rw [Function.update_of_ne same] at there
      exact timely.entries other key entry there
  records := timely.records
  calls steps inside step listed := by
    rcases List.mem_append.mp inside with before | new
    · exact timely.calls steps before step listed
    · obtain ⟨call, sent, rfl⟩ := List.mem_map.mp new
      exact writesOnTime_commands (fun key record ttlSeconds same =>
        onTime_of_calls stamped (same ▸ sent)) step listed
  arrived := timely.arrived

/-- **One step keeps all copies on time.** -/
theorem timely_fleetStep (fleet : CacheFleet ι α) (e : CacheFleetEvent ι α)
    (timely : Timely fleet) : Timely (fleetStep lead fleet e) := by
  cases e with
  | wait milliseconds => exact { timely with }
  | perform process operation =>
      show Timely (match operation.event fleet process with
        | some e => fleet.performed process e
        | none => fleet)
      cases is : operation.event fleet process with
      | none => exact timely
      | some e => exact timely_performed timely (stamped_event timely is)
  | remoteAnswers process flight serverTime =>
      exact timely_answered timely process flight fun call record read =>
        onTime_of_get timely.records read
  | remoteFails process flight =>
      exact timely_answered timely process flight fun call record read => by cases read
  | land call serverTime => exact timely_landed lead timely call serverTime
  | drop call =>
      refine { timely with calls := fun steps set step listed => ?_ }
      rcases List.mem_or_eq_of_mem_set set with before | rfl
      · exact timely.calls steps before step listed
      · cases listed
  | removed key =>
      exact { timely with
        records := recordsOnTime_del timely.records key }

theorem timely_startFleet (clock : ℤ) : Timely (startFleet clock : CacheFleet ι α) where
  entries process key entry there := by
    change (emptyService : CacheService (Stored α)).entries.lookup key = _ at there
    rw [emptyService, AList.lookup_empty] at there
    cases there
  records key record deadline there := by cases there
  calls steps inside := absurd inside List.not_mem_nil
  arrived process flight record there := by cases there

/-- **No value is answered a second after its time to live is over, or later**, by any process in any
run. -/
theorem answers_in_time (clock : ℤ) (events : List (CacheFleetEvent ι α)) :
    Along (fleetStep lead) AnswersInTime (startFleet clock) events := by
  have guarded : Along (fleetStep lead) (fun (_ : CacheFleet ι α) _ => True) (startFleet clock)
      events := along_iff_prefixes.mpr fun _ _ _ _ => trivial
  refine along_of_keeps (fun fleet e timely _ => timely_fleetStep lead fleet e timely)
    (fun fleet e timely _ => ?_) (timely_startFleet clock) guarded
  intro answer given positive
  cases e with
  | perform process operation =>
      obtain ⟨e, is, answered⟩ := Option.bind_eq_some_iff.mp given
      exact answer_in_time (timely.entries process) (stamped_event timely is) answered positive
  | _ => cases given

-- A second process still answers the value 899 milliseconds after its time to live of a second.
example : ((fleetAnswer (runs (fleetStep "acadid:cache") (startFleet 0 : CacheFleet Bool ℕ)
    [.perform false (.set "key" 7 ⟨1, none⟩), .land 0 0, .wait 900,
      .perform true (.getOrSet "key" ⟨1, none⟩), .remoteAnswers true 0 900,
      .perform true (.resume 0), .wait 999]) (.perform true (.get "key"))).map (·.value.value)) =
    some 7 := by decide +kernel

end Fleet

end Cache

end AcadID
