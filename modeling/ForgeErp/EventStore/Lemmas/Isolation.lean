import ForgeErp.EventStore.Lemmas.InMemory
import ForgeErp.Library.Paging
import Mathlib.Data.List.Perm.Basic

/-!
This module contains tenant isolation of the in-memory event store. What a tenant is answered
depends on the streams of that tenant only, and the hash order shows in nothing but the order of
ties.
-/

namespace ForgeErp
namespace InMemoryEventStore

def SameFor (tenantId : TenantId) (store store' : InMemoryEventStore) : Prop :=
  ∀ key, key.tenantId = tenantId → store.loadStream key = store'.loadStream key

def committedBy (result : Except EventStoreError (List StoredEvent)) : List StoredEvent :=
  match result with
  | .ok committed => committed
  | .error _ => []

theorem mem_committedBy {store : InMemoryEventStore} {events : List UncommittedEvent}
    {expectedVersion : ExpectedVersion} {e : StoredEvent}
    (he : e ∈ committedBy (append store events expectedVersion).1)
    : ∃ first, events.head? = some first ∧ e.key = first.key := by
  have houtcome := append_outcome store events expectedVersion
  generalize append store events expectedVersion = result at houtcome he
  cases houtcome with
  | @committed first rest committed huniform _ _ hcommitted =>
    subst hcommitted
    rcases mem_assignSequence he with ⟨u, hu, n, rfl⟩
    exact ⟨first, rfl, (huniform u hu).1⟩
  | _ => simp [committedBy] at he

theorem append_loadStream (store : InMemoryEventStore) (events : List UncommittedEvent)
    (expectedVersion : ExpectedVersion) (key : StreamKey)
    : (append store events expectedVersion).2.loadStream key
        =
      store.loadStream key
        ++ (committedBy (append store events expectedVersion).1).filter (fun e => e.key = key) := by
  have hkeys := @mem_committedBy store events expectedVersion
  have houtcome := append_outcome store events expectedVersion
  generalize append store events expectedVersion = result at houtcome hkeys ⊢
  cases houtcome with
  | empty => simp [committedBy]
  | invalid => simp [committedBy]
  | conflict => simp [committedBy, loadStream_entryOr]
  | typeMismatch => simp [committedBy, loadStream_entryOr]
  | @committed first rest committed =>
    simp only [committedBy, List.head?_cons, Option.some.injEq, exists_eq_left'] at hkeys ⊢
    rw [loadStream_insert]
    split
    . next hkey =>
      subst hkey
      rw [List.filter_eq_self.mpr]
      intro e he
      simpa using hkeys he
    . next hkey =>
      rw [List.filter_eq_nil_iff.mpr, List.append_nil]
      intro e he
      rw [hkeys he]
      simpa using Ne.symm hkey

theorem append_congr {store store' : InMemoryEventStore} {events : List UncommittedEvent}
    (expectedVersion : ExpectedVersion)
    (h : ∀ first, events.head? = some first →
      store.loadStream first.key = store'.loadStream first.key)
    : (append store events expectedVersion).1 = (append store' events expectedVersion).1 := by
  unfold append
  cases events with
  | nil => rfl
  | cons first rest =>
    have hstream := h first rfl
    unfold loadStream UncommittedEvent.key at hstream
    simp only [KeyMap.getD_entryOr, hstream]
    split
    . rfl
    . split
      . rfl
      . split
        . split <;> rfl
        . rfl

theorem SameFor.append {tenantId : TenantId} {store store' : InMemoryEventStore}
    (h : SameFor tenantId store store') {events : List UncommittedEvent}
    (expectedVersion : ExpectedVersion)
    (hown : ∀ first, events.head? = some first → first.tenantId = tenantId)
    : (append store events expectedVersion).1 = (append store' events expectedVersion).1
      ∧ SameFor tenantId (append store events expectedVersion).2
          (append store' events expectedVersion).2 := by
  have hresult : (InMemoryEventStore.append store events expectedVersion).1
      = (InMemoryEventStore.append store' events expectedVersion).1 := by
    apply append_congr
    intro first hfirst
    apply h
    exact hown first hfirst
  refine ⟨hresult, ?_⟩
  intro key hkey
  rw [append_loadStream, append_loadStream, hresult, h key hkey]

theorem sameFor_append_other {tenantId : TenantId} (store : InMemoryEventStore)
    {events : List UncommittedEvent} (expectedVersion : ExpectedVersion)
    (hother : ∀ first, events.head? = some first → first.tenantId ≠ tenantId)
    : SameFor tenantId store (append store events expectedVersion).2 := by
  intro key hkey
  rw [append_loadStream, List.filter_eq_nil_iff.mpr, List.append_nil]
  intro e he
  rcases mem_committedBy he with ⟨first, hfirst, hfirstkey⟩
  have : e.key ≠ key := by
    rw [hfirstkey]
    rintro rfl
    exact hother first hfirst hkey
  simpa using this

def liveKeys (store : InMemoryEventStore) (keys : List StreamKey) (tenantId : TenantId)
    : List StreamKey :=
  keys.filter fun key => key.tenantId = tenantId && !(store.loadStream key).isEmpty

theorem tenantEvents_eq_flatMap (store : InMemoryEventStore) (keys : List StreamKey)
    (tenantId : TenantId)
    : store.tenantEvents keys tenantId
        = (store.liveKeys keys tenantId).flatMap store.loadStream := by
  unfold tenantEvents KeyMap.valuesOf liveKeys
  induction keys with
  | nil => rfl
  | cons key keys ih =>
    rw [List.filter_cons, List.filter_cons]
    by_cases htenant : key.tenantId = tenantId
    . simp only [htenant, BEq.rfl, ↓reduceIte, decide_true, Bool.true_and]
      rw [List.filterMap_cons]
      have hload : store.loadStream key = (store.streams.get key).getD [] := rfl
      cases hget : store.streams.get key with
      | none =>
        simp only [hload, hget, Option.getD_none, List.isEmpty_nil, Bool.not_true,
          Bool.false_eq_true, ↓reduceIte]
        exact ih
      | some stream =>
        simp only [hload, hget, Option.getD_some]
        cases stream with
        | nil =>
          simp only [List.flatten_cons, List.nil_append, List.isEmpty_nil, Bool.not_true,
            Bool.false_eq_true, ↓reduceIte]
          exact ih
        | cons e es =>
          simp only [List.isEmpty_cons, Bool.not_false, ↓reduceIte, List.flatten_cons,
            List.flatMap_cons, hload, hget, Option.getD_some]
          rw [ih]
    . simp only [htenant, decide_false, Bool.false_and, Bool.false_eq_true, ↓reduceIte]
      rw [if_neg (by simpa using htenant)]
      exact ih

theorem mem_liveKeys_iff {store : InMemoryEventStore} {keys : List StreamKey}
    (hkeys : store.streams.Enumerates keys) {tenantId : TenantId} {key : StreamKey}
    : key ∈ store.liveKeys keys tenantId ↔ key.tenantId = tenantId ∧ store.loadStream key ≠ [] := by
  unfold liveKeys
  rw [List.mem_filter, hkeys.mem_iff]
  simp only [Bool.and_eq_true, decide_eq_true_eq, Bool.not_eq_true', List.isEmpty_eq_false_iff]
  constructor
  . intro h
    exact h.2
  . intro h
    refine ⟨?_, h⟩
    by_contra hnone
    rw [Option.not_isSome_iff_eq_none] at hnone
    apply h.2
    simp [loadStream, hnone]

theorem SameFor.tenantEvents_perm {tenantId : TenantId} {store store' : InMemoryEventStore}
    (h : SameFor tenantId store store') {keys keys' : List StreamKey}
    (hkeys : store.streams.Enumerates keys) (hkeys' : store'.streams.Enumerates keys')
    : (store.tenantEvents keys tenantId).Perm (store'.tenantEvents keys' tenantId) := by
  have hlive : (store.liveKeys keys tenantId).Perm (store'.liveKeys keys' tenantId) := by
    unfold liveKeys
    rw [List.perm_ext_iff_of_nodup (hkeys.nodup.filter _) (hkeys'.nodup.filter _)]
    intro key
    refine (mem_liveKeys_iff hkeys).trans (Iff.trans ?_ (mem_liveKeys_iff hkeys').symm)
    constructor
    . intro hkey
      rw [← h key hkey.1]
      exact hkey
    . intro hkey
      rw [h key hkey.1]
      exact hkey
  rw [tenantEvents_eq_flatMap, tenantEvents_eq_flatMap]
  apply hlive.flatMap
  intro key hkey
  rw [h key ((mem_liveKeys_iff hkeys).mp hkey).1]

def SameUpToTies (l l' : List StoredEvent) : Prop :=
  l.Perm l'
  ∧ List.Forall₂
      (fun a b => a.occurredAt = b.occurredAt ∧ a.sequenceNumber = b.sequenceNumber) l l'

/--
The tenant's events that match the filter, in an order that the query may give them in.
-/
def Matching (store : InMemoryEventStore) (tenantId : TenantId) (filter : EventFilter)
    (l : List StoredEvent)
    : Prop :=
  ∃ keys, store.streams.Enumerates keys
    ∧ Paging.Arranges StoredEvent.QueryOrder
        ((store.tenantEvents keys tenantId).filter filter.accepts) l

structure SameAnswer (store : InMemoryEventStore) (tenantId : TenantId) (filter : EventFilter)
    (result result' : EventQueryResult) : Prop where
  events : ∃ l l', store.Matching tenantId filter l ∧ store.Matching tenantId filter l'
    ∧ SameUpToTies l l'
    ∧ result.events = result.pagination.slice l
    ∧ result'.events = result'.pagination.slice l'
  total : result.total = result'.total
  pagination : result.pagination = result'.pagination
  hasMore : result.hasMore = result'.hasMore

theorem sameUpToTies_insertionSort {l l' : List StoredEvent} (h : l.Perm l')
    : SameUpToTies (l.insertionSort StoredEvent.QueryOrder)
        (l'.insertionSort StoredEvent.QueryOrder) := by
  have hperm : (l.insertionSort StoredEvent.QueryOrder).Perm
      (l'.insertionSort StoredEvent.QueryOrder) :=
    (List.perm_insertionSort _ l).trans (h.trans (List.perm_insertionSort _ l').symm)
  refine ⟨hperm, ?_⟩
  -- the sort keys come in the same order, since of two different ones only one may come first
  have hkeys : (l.insertionSort StoredEvent.QueryOrder).map
        (fun e => (e.occurredAt, e.sequenceNumber))
      = (l'.insertionSort StoredEvent.QueryOrder).map
        (fun e => (e.occurredAt, e.sequenceNumber)) := by
    apply @List.Perm.eq_of_pairwise _ (fun (a b : DateTime × Nat) =>
      b.1.nanos < a.1.nanos ∨ (b.1.nanos = a.1.nanos ∧ a.2 ≤ b.2))
    . rintro ⟨⟨t⟩, n⟩ ⟨⟨t'⟩, n'⟩ _ _ hab hba
      simp only [Prod.mk.injEq, DateTime.mk.injEq]
      dsimp only at hab hba
      omega
    . rw [List.pairwise_map]
      exact List.pairwise_insertionSort StoredEvent.QueryOrder l
    . rw [List.pairwise_map]
      exact List.pairwise_insertionSort StoredEvent.QueryOrder l'
    . exact hperm.map _
  rw [← List.forall₂_eq_eq_eq, List.forall₂_map_left_iff, List.forall₂_map_right_iff] at hkeys
  apply hkeys.imp
  intro a b hab
  exact Prod.mk.inj hab

theorem matching_insertionSort {store : InMemoryEventStore} {tenantId : TenantId}
    {filter : EventFilter}
    {keys : List StreamKey} (hkeys : store.streams.Enumerates keys) {l : List StoredEvent}
    (h : l.Perm ((store.tenantEvents keys tenantId).filter filter.accepts))
    : store.Matching tenantId filter (l.insertionSort StoredEvent.QueryOrder) := by
  refine ⟨keys, hkeys, ?_, ?_⟩
  . exact (List.perm_insertionSort _ l).trans h
  . exact List.pairwise_insertionSort StoredEvent.QueryOrder l

theorem SameFor.queryEvents {tenantId : TenantId} {store store' : InMemoryEventStore}
    (h : SameFor tenantId store store') {keys keys' : List StreamKey}
    (hkeys : store.streams.Enumerates keys) (hkeys' : store'.streams.Enumerates keys')
    (overflowChecks : Bool) (filter : EventFilter) (pagination : Pagination)
    : Option.Rel (SameAnswer store tenantId filter)
        (store.queryEvents overflowChecks keys tenantId filter pagination)
        (store'.queryEvents overflowChecks keys' tenantId filter pagination) := by
  have hperm := (h.tenantEvents_perm hkeys hkeys').filter filter.accepts
  have hties := sameUpToTies_insertionSort hperm
  have hmatching := matching_insertionSort hkeys
    (List.Perm.refl ((store.tenantEvents keys tenantId).filter filter.accepts))
  have hmatching' := matching_insertionSort hkeys hperm.symm
  unfold InMemoryEventStore.queryEvents
  dsimp only
  rw [hties.1.length_eq]
  cases pagination.hasMore overflowChecks
      (((store'.tenantEvents keys' tenantId).filter filter.accepts).insertionSort
        StoredEvent.QueryOrder).length with
  | none => exact .none
  | some hasMore =>
    apply Option.Rel.some
    exact ⟨⟨_, _, hmatching, hmatching', hties, rfl, rfl⟩, rfl, rfl, rfl⟩

def DistinctIds (tenantId : TenantId) (store : InMemoryEventStore) : Prop :=
  ∀ key key', key.tenantId = tenantId → key'.tenantId = tenantId →
    ∀ e ∈ store.loadStream key, ∀ e' ∈ store.loadStream key', e.eventId = e'.eventId → e = e'

theorem find?_eq_of_perm {α : Type} {l l' : List α} {p : α → Bool} (h : l.Perm l')
    (hunique : ∀ a ∈ l, ∀ b ∈ l, p a = true → p b = true → a = b) : l.find? p = l'.find? p := by
  cases hl : l.find? p with
  | none =>
    rw [List.find?_eq_none] at hl
    rw [eq_comm, List.find?_eq_none]
    intro a ha
    exact hl a (h.mem_iff.mpr ha)
  | some a =>
    have ha := List.mem_of_find?_eq_some hl
    have hpa := List.find?_some hl
    cases hl' : l'.find? p with
    | none =>
      rw [List.find?_eq_none] at hl'
      exact absurd hpa (hl' a (h.mem_iff.mp ha))
    | some b =>
      have hb := h.mem_iff.mpr (List.mem_of_find?_eq_some hl')
      rw [hunique a ha b hb hpa (List.find?_some hl')]

theorem mem_tenantEvents {store : InMemoryEventStore} {keys : List StreamKey} {tenantId : TenantId}
    {e : StoredEvent} (he : e ∈ store.tenantEvents keys tenantId)
    : ∃ key, key.tenantId = tenantId ∧ e ∈ store.loadStream key := by
  rw [tenantEvents_eq_flatMap, List.mem_flatMap] at he
  rcases he with ⟨key, hkey, he⟩
  unfold liveKeys at hkey
  rw [List.mem_filter, Bool.and_eq_true, decide_eq_true_eq] at hkey
  exact ⟨key, hkey.2.1, he⟩

theorem SameFor.getEventById {tenantId : TenantId} {store store' : InMemoryEventStore}
    (h : SameFor tenantId store store') (hdistinct : DistinctIds tenantId store)
    {keys keys' : List StreamKey}
    (hkeys : store.streams.Enumerates keys) (hkeys' : store'.streams.Enumerates keys')
    (eventId : Uuid)
    : store.getEventById keys tenantId eventId = store'.getEventById keys' tenantId eventId := by
  rw [getEventById_eq_find?, getEventById_eq_find?]
  apply find?_eq_of_perm (h.tenantEvents_perm hkeys hkeys')
  intro e he e' he' hid hid'
  rcases mem_tenantEvents he with ⟨key, hkey, he⟩
  rcases mem_tenantEvents he' with ⟨key', hkey', he'⟩
  apply hdistinct key key' hkey hkey' e he e' he'
  rw [beq_iff_eq] at hid hid'
  rw [hid, hid']

end InMemoryEventStore
end ForgeErp
