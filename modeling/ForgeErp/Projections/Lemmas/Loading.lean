import ForgeErp.EventStore.Lemmas.InMemory
import ForgeErp.Library.Paging
import ForgeErp.Projections.Impl.Replay

/-!
This module contains the verification of the loading loop of `run_replay`. The pages it puts
together come from separate queries, and the order of the queries is not total.
-/

namespace ForgeErp

namespace Replay

/--
Every query returns a page of the tenant's events in some arrangement that respects the order, and
says whether there are events behind that page.
-/
def PageQuery (overflowChecks : Bool) (tenantId : TenantId) (log : List StoredEvent)
    (queryEvents : QueryEvents) : Prop :=
  ∀ idx pagination, ∃ ordered, Paging.Arranges StoredEvent.QueryOrder log ordered
    ∧ queryEvents idx tenantId .default pagination
      = (pagination.hasMore overflowChecks log.length).map fun hasMore =>
          .ok { events := pagination.slice ordered, total := log.length, pagination, hasMore }

/--
The loop loads every event of a requested type exactly once, from whatever queries and in every
build.
-/
def LoadsAll (tenantId : TenantId) (aggregateTypes : List String) (log : List StoredEvent) : Prop :=
  ∀ overflowChecks queryEvents, PageQuery overflowChecks tenantId log queryEvents →
    ∃ fuel events,
      loadEvents overflowChecks queryEvents (fun _ => false) tenantId aggregateTypes fuel 0 0 []
        = .finished (.ok events)
      ∧ events.Perm (log.filter (isRelevant aggregateTypes))

def pageAt (i : Nat) : Pagination where
  limit := 1000
  offset := UInt32.ofNat (1000 * i)

theorem toNat_offset {i : Nat} (h : 1000 * i < 2 ^ 32) : (pageAt i).offset.toNat = 1000 * i := by
  unfold pageAt
  dsimp only
  rw [UInt32.toNat_ofNat']
  omega

theorem addU32_pageSize {overflowChecks : Bool} {i : Nat} (h : 1000 * (i + 1) < 2 ^ 32)
    : addU32 overflowChecks (pageAt i).offset 1000 = some (pageAt (i + 1)).offset := by
  have hoffset : (pageAt i).offset.toNat = 1000 * i := toNat_offset (by omega)
  have hsize : (1000 : UInt32).toNat = 1000 := rfl
  have hsum : (pageAt i).offset + 1000 = (pageAt (i + 1)).offset := by
    apply UInt32.toNat_inj.mp
    rw [UInt32.toNat_add, hoffset, hsize, toNat_offset h]
    omega
  have hfits : ¬ 2 ^ 32 ≤ 1000 * i + 1000 := by omega
  unfold addU32
  rw [hoffset, hsize, hsum, decide_eq_false hfits, Bool.and_false]
  rfl

theorem hasMore_pageAt {overflowChecks : Bool} {i total : Nat} (h : 1000 * (i + 1) < 2 ^ 32)
    : (pageAt i).hasMore overflowChecks total = some (decide (1000 * (i + 1) < total)) := by
  unfold Pagination.hasMore
  have hadd : addU32 overflowChecks (pageAt i).offset (pageAt i).limit
    = some (pageAt (i + 1)).offset :=
    addU32_pageSize h
  rw [hadd, Option.map_some, toNat_offset h]

-- The last offset a page can start at is 4294967000; its end is not a `u32` anymore.
theorem hasMore_overflow {total : Nat} : (pageAt 4294967).hasMore true total = none := by
  rfl

theorem slice_pageAt {i : Nat} (h : 1000 * i < 2 ^ 32) (l : List StoredEvent)
    : (pageAt i).slice l = Paging.page 1000 i l := by
  unfold Pagination.slice Paging.page
  rw [toNat_offset h]
  rfl

section Loop

variable {overflowChecks : Bool} {queryEvents : QueryEvents} {tenantId : TenantId}
  {aggregateTypes : List String} {log : List StoredEvent} {ordered : Nat → List StoredEvent}

def AnswersFrom (overflowChecks : Bool) (queryEvents : QueryEvents) (tenantId : TenantId)
    (log : List StoredEvent) (ordered : Nat → List StoredEvent) : Prop :=
  ∀ i, queryEvents i tenantId .default (pageAt i)
    = ((pageAt i).hasMore overflowChecks log.length).map fun hasMore =>
        .ok { events := (pageAt i).slice (ordered i), total := log.length, pagination := pageAt i,
              hasMore }

def relevantPage (aggregateTypes : List String) (ordered : Nat → List StoredEvent) (i : Nat)
    : List StoredEvent :=
  (Paging.page 1000 i (ordered i)).filter (isRelevant aggregateTypes)

theorem loadEvents_succ (hanswers : AnswersFrom overflowChecks queryEvents tenantId log ordered)
    {i : Nat} (hbound : 1000 * (i + 1) < 2 ^ 32) (fuel : Nat) (allEvents : List StoredEvent)
    : loadEvents overflowChecks queryEvents (fun _ => false) tenantId aggregateTypes (fuel + 1) i
          (pageAt i).offset allEvents
        =
      if 1000 * (i + 1) < log.length then
        loadEvents overflowChecks queryEvents (fun _ => false) tenantId aggregateTypes fuel (i + 1)
          (pageAt (i + 1)).offset (allEvents ++ relevantPage aggregateTypes ordered i)
      else
        .finished (.ok (allEvents ++ relevantPage aggregateTypes ordered i)) := by
  have hnew : Pagination.new (some pageSize) (some (pageAt i).offset) = pageAt i := rfl
  have hquery := hanswers i
  rw [hasMore_pageAt hbound, Option.map_some] at hquery
  conv =>
    lhs
    unfold loadEvents
  simp only [Bool.false_eq_true, ↓reduceIte, hnew, hquery]
  rw [slice_pageAt (by omega)]
  by_cases hmore : 1000 * (i + 1) < log.length
  . have hadd : addU32 overflowChecks (pageAt i).offset pageSize = some (pageAt (i + 1)).offset :=
      addU32_pageSize hbound
    simp only [hmore, decide_true, Bool.not_true, Bool.false_eq_true, ↓reduceIte, hadd]
    rfl
  . simp only [hmore, decide_false, Bool.not_false, ↓reduceIte]
    rfl

theorem loadEvents_eq (aggregateTypes : List String)
    (hanswers : AnswersFrom overflowChecks queryEvents tenantId log ordered)
    {k i : Nat} (hend : log.length ≤ 1000 * (i + k + 1))
    (hmore : ∀ j, j < k → 1000 * (i + j + 1) < log.length) (hbound : 1000 * (i + k + 1) < 2 ^ 32)
    (allEvents : List StoredEvent)
    : loadEvents overflowChecks queryEvents (fun _ => false) tenantId aggregateTypes (k + 1) i
          (pageAt i).offset allEvents
        =
      .finished (.ok (allEvents
        ++ (List.range' i (k + 1)).flatMap (relevantPage aggregateTypes ordered))) := by
  induction k generalizing i allEvents with
  | zero =>
    rw [loadEvents_succ hanswers (by omega), if_neg (by omega)]
    simp [List.range'_succ]
  | succ k ih =>
    have hfirst := hmore 0 (by omega)
    rw [loadEvents_succ hanswers (by omega), if_pos (by omega), ih (by omega) _ (by omega)]
    . have hrange : List.range' i (k + 1 + 1) = i :: List.range' (i + 1) (k + 1) := List.range'_succ
      rw [hrange, List.flatMap_cons, List.append_assoc]
    . intro j hj
      have := hmore (j + 1) (by omega)
      omega

-- With more events than that, a build with overflow checks never gets to the end.
theorem loadEvents_overflow (hanswers : AnswersFrom true queryEvents tenantId log ordered)
    (hlength : 4294967000 < log.length) {i : Nat} (hi : i ≤ 4294967) (fuel : Nat)
    (allEvents : List StoredEvent) (result : Except ReplayError (List StoredEvent))
    : loadEvents true queryEvents (fun _ => false) tenantId aggregateTypes fuel i (pageAt i).offset
          allEvents
        ≠
      .finished result := by
  induction fuel generalizing i allEvents with
  | zero => simp [loadEvents]
  | succ fuel ih =>
    by_cases hlast : i = 4294967
    . subst hlast
      have hnew : Pagination.new (some pageSize) (some (pageAt 4294967).offset) = pageAt 4294967 :=
        rfl
      have hquery := hanswers 4294967
      rw [hasMore_overflow, Option.map_none] at hquery
      unfold loadEvents
      simp [hnew, hquery]
    . rw [loadEvents_succ hanswers (by omega), if_pos (by omega)]
      apply ih
      omega

theorem loadEvents_mono {cancellation : Nat → Bool} {fuel idx : Nat} {offset : UInt32}
    {allEvents : List StoredEvent} {result : Except ReplayError (List StoredEvent)}
    (h : loadEvents overflowChecks queryEvents cancellation tenantId aggregateTypes fuel idx offset
      allEvents = .finished result) (extra : Nat)
    : loadEvents overflowChecks queryEvents cancellation tenantId aggregateTypes (fuel + extra) idx
        offset allEvents = .finished result := by
  induction fuel generalizing idx offset allEvents with
  | zero => cases h
  | succ fuel ih =>
    rw [Nat.add_right_comm]
    unfold loadEvents at h ⊢
    split
    . next hcancelled =>
      rw [if_pos hcancelled] at h
      exact h
    . next hcancelled =>
      rw [if_neg hcancelled] at h
      dsimp only at h ⊢
      split at h
      . cases h
      . exact h
      . split at h
        . next hmore =>
          rw [if_pos hmore]
          exact h
        . next hmore =>
          rw [if_neg hmore]
          split at h
          . cases h
          . apply ih h

theorem loadEvents_unique {cancellation : Nat → Bool} {fuel fuel' idx : Nat} {offset : UInt32}
    {allEvents : List StoredEvent} {result result' : Except ReplayError (List StoredEvent)}
    (h : loadEvents overflowChecks queryEvents cancellation tenantId aggregateTypes fuel idx offset
      allEvents = .finished result)
    (h' : loadEvents overflowChecks queryEvents cancellation tenantId
      aggregateTypes fuel' idx offset
      allEvents = .finished result')
    : result = result' := by
  have hmore := loadEvents_mono h fuel'
  have hmore' := loadEvents_mono h' fuel
  rw [Nat.add_comm, hmore] at hmore'
  cases hmore'
  rfl

def pageCount (log : List StoredEvent) : Nat :=
  (log.length - 1) / 1000 + 1

theorem length_le_pageCount (log : List StoredEvent) : log.length ≤ 1000 * pageCount log := by
  unfold pageCount
  omega

theorem loadEvents_pages (aggregateTypes : List String)
    (hanswers : AnswersFrom overflowChecks queryEvents tenantId log ordered)
    (hlength : log.length ≤ 4294967000)
    : loadEvents overflowChecks queryEvents (fun _ => false) tenantId aggregateTypes
        (pageCount log) 0 0 []
        =
      .finished (.ok ((List.range (pageCount log)).flatMap
        (relevantPage aggregateTypes ordered))) := by
  have hend : log.length ≤ 1000 * (0 + (log.length - 1) / 1000 + 1) := by omega
  have hmore : ∀ j, j < (log.length - 1) / 1000 → 1000 * (0 + j + 1) < log.length := by
    intro j hj
    omega
  have hload := loadEvents_eq aggregateTypes hanswers hend hmore (by omega) []
  rw [List.nil_append, ← List.range_eq_range'] at hload
  apply hload

theorem loadEvents_eq_pages {fuel : Nat} {events : List StoredEvent}
    (hanswers : AnswersFrom overflowChecks queryEvents tenantId log ordered)
    (hlength : log.length ≤ 4294967000)
    (hload : loadEvents overflowChecks queryEvents (fun _ => false) tenantId
      aggregateTypes fuel 0 0 []
      = .finished (.ok events))
    : events = (List.range (pageCount log)).flatMap (relevantPage aggregateTypes ordered) := by
  have hpages := loadEvents_pages aggregateTypes hanswers hlength
  apply Except.ok.inj (loadEvents_unique hload hpages)

end Loop

/--
There are at most as many events as the loop can count, and no page ends inside a group of events
with the same `occurred_at` and `sequence_number` if one of them is of a requested type.
-/
def Pageable (aggregateTypes : List String) (log : List StoredEvent) : Prop :=
  log.length ≤ 4294967000
  ∧ ∀ e ∈ log, isRelevant aggregateTypes e = true → Paging.Uncut StoredEvent.QueryOrder 1000 log e

variable {aggregateTypes : List String} {log : List StoredEvent}

theorem Pageable.loadsAll (h : Pageable aggregateTypes log) (hnodup : log.Nodup)
    (tenantId : TenantId)
    : LoadsAll tenantId aggregateTypes log := by
  intro overflowChecks queryEvents hquery
  choose ordered harranges hanswers using fun i => hquery i (pageAt i)
  refine ⟨_, _, loadEvents_pages aggregateTypes hanswers h.1, ?_⟩
  apply Paging.pages_perm hnodup harranges h.2 (by omega)
  apply length_le_pageCount

-- A store that answers the i-th query from the arrangement `ordered i`.
def queryFrom (overflowChecks : Bool) (log : List StoredEvent) (ordered : Nat → List StoredEvent)
    : QueryEvents :=
  fun i _ _ pagination =>
    (pagination.hasMore overflowChecks log.length).map fun hasMore =>
      .ok { events := pagination.slice (ordered i), total := log.length, pagination, hasMore }

theorem pageQuery_queryFrom (overflowChecks : Bool) (tenantId : TenantId)
    {ordered : Nat → List StoredEvent}
    (h : ∀ i, Paging.Arranges StoredEvent.QueryOrder log (ordered i))
    : PageQuery overflowChecks tenantId log (queryFrom overflowChecks log ordered) := by
  intro idx pagination
  exact ⟨ordered idx, h idx, rfl⟩

theorem answersFrom_queryFrom (overflowChecks : Bool) (tenantId : TenantId) (log : List StoredEvent)
    (ordered : Nat → List StoredEvent)
    : AnswersFrom overflowChecks (queryFrom overflowChecks log ordered) tenantId log ordered := by
  intro i
  rfl

theorem not_loadsAll_of_length (hlength : 4294967000 < log.length) (tenantId : TenantId)
    : ¬ LoadsAll tenantId aggregateTypes log := by
  intro hloads
  have hexists : ∃ l, Paging.Arranges StoredEvent.QueryOrder log l := Paging.exists_arranges
  rcases hexists with ⟨l, hl⟩
  rcases hloads true _ (pageQuery_queryFrom true tenantId (fun _ => hl))
      with ⟨fuel, events, hload, _⟩
  have hanswers := answersFrom_queryFrom true tenantId log (fun _ => l)
  apply loadEvents_overflow hanswers hlength (Nat.zero_le _) fuel [] _ hload

theorem not_loadsAll_of_cut (hnodup : log.Nodup) (hlength : log.length ≤ 4294967000)
    {e : StoredEvent} (he : e ∈ log) (hrelevant : isRelevant aggregateTypes e = true)
    (hcut : ¬ Paging.Uncut StoredEvent.QueryOrder 1000 log e) (tenantId : TenantId)
    : ¬ LoadsAll tenantId aggregateTypes log := by
  intro hloads
  rcases Paging.exists_pages_not_perm hnodup he hrelevant (by omega) (length_le_pageCount log) hcut
    with ⟨ordered, harranges, hnot⟩
  rcases hloads true _ (pageQuery_queryFrom true tenantId harranges)
      with ⟨fuel, events, hload, hperm⟩
  have hanswers := answersFrom_queryFrom true tenantId log ordered
  rw [loadEvents_eq_pages hanswers hlength hload] at hperm
  apply hnot hperm

theorem loads_all_iff (tenantId : TenantId) (aggregateTypes : List String) (log : List StoredEvent)
    (hnodup : log.Nodup)
    : LoadsAll tenantId aggregateTypes log ↔ Pageable aggregateTypes log := by
  constructor
  . intro hloads
    have hlength : log.length ≤ 4294967000 := by
      by_contra hlength
      apply not_loadsAll_of_length (by omega) tenantId hloads
    refine ⟨hlength, ?_⟩
    intro e he hrelevant
    by_contra hcut
    apply not_loadsAll_of_cut hnodup hlength he hrelevant hcut tenantId hloads
  . intro hpageable
    apply hpageable.loadsAll hnodup

section InMemory

open InMemoryEventStore

theorem tenantEvents_perm {store : InMemoryEventStore} {keys keys' : List StreamKey}
    (h : store.streams.Enumerates keys) (h' : store.streams.Enumerates keys') (tenantId : TenantId)
    : (store.tenantEvents keys tenantId).Perm (store.tenantEvents keys' tenantId) := by
  have hkeys : keys.Perm keys' := by
    rw [List.perm_ext_iff_of_nodup h.nodup h'.nodup]
    intro key
    rw [h.mem_iff, h'.mem_iff]
  unfold tenantEvents KeyMap.valuesOf
  apply List.Perm.flatten
  apply List.Perm.filterMap
  apply hkeys.filter

theorem tenantEvents_cons (store : InMemoryEventStore) (key : StreamKey) (keys : List StreamKey)
    (tenantId : TenantId)
    : store.tenantEvents (key :: keys) tenantId
        =
      (if key.tenantId = tenantId then store.loadStream key else [])
        ++ store.tenantEvents keys tenantId := by
  unfold tenantEvents KeyMap.valuesOf loadStream
  rw [List.filter_cons]
  by_cases htenant : key.tenantId = tenantId
  . rw [if_pos (by simpa using htenant), if_pos htenant, List.filterMap_cons]
    cases store.streams.get key with
    | none => rfl
    | some stream => rfl
  . rw [if_neg (by simpa using htenant), if_neg htenant, List.nil_append]

theorem tenantEvents_stream {store : InMemoryEventStore} (hwf : store.WellFormed)
    {keys : List StreamKey} (hkeys : keys.Nodup) {tenantId : TenantId} {key : StreamKey}
    (htenant : key.tenantId = tenantId)
    : (store.tenantEvents keys tenantId).filter (fun e => e.key = key)
        =
      if key ∈ keys then store.loadStream key else [] := by
  induction keys with
  | nil => rfl
  | cons key' keys ih =>
    rw [List.nodup_cons] at hkeys
    rw [tenantEvents_cons, List.filter_append, ih hkeys.2]
    by_cases hsame : key' = key
    . subst hsame
      rw [if_pos htenant, if_neg hkeys.1, if_pos (by simp), List.append_nil, List.filter_eq_self]
      intro e he
      simpa using (hwf key').key_eq e he
    . have hnone : (if key'.tenantId = tenantId then store.loadStream key' else []).filter
          (fun e => e.key = key) = [] := by
        rw [List.filter_eq_nil_iff]
        intro e he
        split at he
        . rw [(hwf key').key_eq e he]
          simpa using hsame
        . cases he
      rw [hnone, List.nil_append]
      simp [Ne.symm hsame]

theorem key_mem_of_mem_tenantEvents {store : InMemoryEventStore} (hwf : store.WellFormed)
    {keys : List StreamKey} {tenantId : TenantId} {e : StoredEvent}
    (he : e ∈ store.tenantEvents keys tenantId) : e.key ∈ keys := by
  induction keys with
  | nil => cases he
  | cons key keys ih =>
    rw [tenantEvents_cons, List.mem_append] at he
    cases he with
    | inl he =>
      split at he
      . rw [(hwf key).key_eq e he]
        simp
      . cases he
    | inr he =>
      right
      apply ih he

theorem tenantEvents_nodup {store : InMemoryEventStore} (hwf : store.WellFormed)
    {keys : List StreamKey} (hkeys : keys.Nodup) (tenantId : TenantId)
    : (store.tenantEvents keys tenantId).Nodup := by
  induction keys with
  | nil => exact List.nodup_nil
  | cons key keys ih =>
    rw [List.nodup_cons] at hkeys
    rw [tenantEvents_cons, List.nodup_append']
    refine ⟨?_, ih hkeys.2, ?_⟩
    . split
      . exact (hwf key).numbered.nodup
      . exact List.nodup_nil
    . intro e he hmem
      apply hkeys.1
      split at he
      . rw [← (hwf key).key_eq e he]
        apply key_mem_of_mem_tenantEvents hwf hmem
      . cases he

theorem tenantEvents_loadStream {store : InMemoryEventStore} (hwf : store.WellFormed)
    {keys : List StreamKey} (hkeys : store.streams.Enumerates keys) (key : StreamKey)
    : (store.tenantEvents keys key.tenantId).filter (fun e => e.key = key)
        =
      store.loadStream key := by
  rw [tenantEvents_stream hwf hkeys.nodup rfl]
  split
  . rfl
  . next hnot =>
    rw [hkeys.mem_iff, Option.not_isSome_iff_eq_none] at hnot
    unfold loadStream
    rw [hnot]
    rfl

-- The in-memory store answers as described, whichever way it walks over its streams.
theorem pageQuery_inMemory {store : InMemoryEventStore} {keys : List StreamKey}
    {walks : Nat → List StreamKey} (h : store.streams.Enumerates keys)
    (hwalks : ∀ i, store.streams.Enumerates (walks i)) (overflowChecks : Bool) (tenantId : TenantId)
    : PageQuery overflowChecks tenantId (store.tenantEvents keys tenantId)
        (fun i tenantId filter pagination =>
          (store.queryEvents overflowChecks (walks i) tenantId filter pagination).map .ok) := by
  intro idx pagination
  have hperm := tenantEvents_perm (hwalks idx) h tenantId
  have hfilter : (store.tenantEvents (walks idx) tenantId).filter EventFilter.default.accepts
      = store.tenantEvents (walks idx) tenantId := by
    rw [List.filter_eq_self]
    intro e _
    rfl
  refine ⟨(store.tenantEvents (walks idx) tenantId).insertionSort StoredEvent.QueryOrder, ⟨?_, ?_⟩,
    ?_⟩
  . apply (List.perm_insertionSort _ _).trans hperm
  . apply List.pairwise_insertionSort
  . unfold queryEvents
    dsimp only
    rw [hfilter, List.length_insertionSort, hperm.length_eq, Option.map_map]
    rfl

end InMemory

section Runs

open InMemoryEventStore (opening)

def twin (n : Nat) : StoredEvent :=
  { opening.toStored 1 with
    eventId := ⟨BitVec.ofNat 128 n⟩
    aggregateId := ⟨⟨BitVec.ofNat 128 n⟩⟩
  }

def twins : List StoredEvent :=
  (List.range 1001).map twin

theorem twins_nodup : twins.Nodup := by
  unfold twins
  rw [List.nodup_map_iff_inj_on List.nodup_range]
  intro m hm n hn heq
  have hbits : BitVec.ofNat 128 m = BitVec.ofNat 128 n := congrArg (·.eventId.bits) heq
  have hnat := congrArg BitVec.toNat hbits
  rw [BitVec.toNat_ofNat, BitVec.toNat_ofNat] at hnat
  rw [List.mem_range] at hm hn
  omega

-- Whatever happened at different times is loaded, over however many pages.
def staggered (n : Nat) : StoredEvent :=
  { twin n with occurredAt := ⟨n⟩ }

theorem loads_all_iff_staggered
    : LoadsAll opening.tenantId ["inventory.item"] ((List.range 2500).map staggered) := by
  have hnodup : ((List.range 2500).map staggered).Nodup := by
    apply List.nodup_range.map
    intro m n heq
    exact Int.ofNat_inj.mp (congrArg (·.occurredAt.nanos) heq)
  apply (loads_all_iff _ _ _ hnodup).mpr
  refine ⟨?_, ?_⟩
  . rw [List.length_map, List.length_range]
    omega
  . intro e he _
    apply Paging.uncut_of_untied hnodup
    rcases List.mem_map.mp he with ⟨n, -, rfl⟩
    intro e' he' hle hge
    rcases List.mem_map.mp he' with ⟨m, -, rfl⟩
    have hn : (staggered n).occurredAt.nanos = n := rfl
    have hm : (staggered m).occurredAt.nanos = m := rfl
    unfold StoredEvent.QueryOrder at hle hge
    have heq : m = n := by omega
    rw [heq]

theorem queryOrder_twin (m n : Nat) : StoredEvent.QueryOrder (twin m) (twin n) := by
  right
  exact ⟨rfl, Nat.le_refl _⟩

theorem twins_not_loaded
    : twins.Nodup ∧ ¬ LoadsAll opening.tenantId ["inventory.item"] twins := by
  refine ⟨twins_nodup, ?_⟩
  have hlength : twins.length = 1001 := by
    unfold twins
    rw [List.length_map, List.length_range]
  have hall : ∀ e ∈ twins, ∃ n, e = twin n := by
    intro e he
    rcases List.mem_map.mp he with ⟨n, _, hn⟩
    exact ⟨n, hn.symm⟩
  have hlower : Paging.lower StoredEvent.QueryOrder twins (twin 0) = 0 := by
    unfold Paging.lower
    rw [List.countP_eq_zero]
    intro e he
    rcases hall e he with ⟨n, hn⟩
    simpa [hn] using queryOrder_twin 0 n
  have hupper : Paging.upper StoredEvent.QueryOrder twins (twin 0) = 1001 := by
    unfold Paging.upper
    rw [← hlength, List.countP_eq_length]
    intro e he
    rcases hall e he with ⟨n, hn⟩
    simpa [hn] using queryOrder_twin n 0
  have hmem : twin 0 ∈ twins := List.mem_map_of_mem (List.mem_range.mpr (by omega))
  apply not_loadsAll_of_cut twins_nodup (by omega) hmem rfl
  intro huncut
  apply huncut 1
  omega

end Runs

end Replay

end ForgeErp
