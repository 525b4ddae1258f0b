import ForgeErp.EventStore.Impl.Query
import Mathlib.Tactic.Common

/-!
This module contains the verification of the in-memory event store. `append_outcome` says once what
an append can do; the shape of the reachable stores, the frame conditions and the acceptance
condition are derived from it.
-/

namespace ForgeErp

instance : Std.Total StoredEvent.QueryOrder where
  total a b := by
    unfold StoredEvent.QueryOrder
    omega

instance : IsTrans StoredEvent StoredEvent.QueryOrder where
  trans a b c := by
    unfold StoredEvent.QueryOrder
    omega

namespace InMemoryEventStore

def Uniform (key : StreamKey) (aggregateType : String) (events : List UncommittedEvent) : Prop :=
  ∀ e ∈ events, e.key = key ∧ e.aggregateType = aggregateType

theorem validateBatch_eq_ok_iff {first : UncommittedEvent} {idx : Nat}
    {events : List UncommittedEvent}
    : validateBatch first.tenantId first.aggregateId first.aggregateType idx events = .ok ()
        ↔
      Uniform first.key first.aggregateType events := by
  induction events generalizing idx with
  | nil => simp [validateBatch, Uniform]
  | cons e es ih =>
    unfold validateBatch
    simp only [Uniform, List.forall_mem_cons, UncommittedEvent.key, StreamKey.mk.injEq]
    simp only [Uniform, UncommittedEvent.key, StreamKey.mk.injEq] at ih
    split
    . next h => simp [h]
    . next h₁ =>
      split
      . next h => simp [h]
      . next h₂ =>
        split
        . next h => simp [h]
        . next h₃ =>
          rw [ih]
          simp only [ne_eq, Decidable.not_not] at h₁ h₂ h₃
          simp [h₁, h₂, h₃]

/--
Everything an append can do.
-/
inductive AppendOutcome (store : InMemoryEventStore) (expectedVersion : ExpectedVersion)
    : List UncommittedEvent → Except EventStoreError (List StoredEvent) × InMemoryEventStore → Prop
    where
  | empty : AppendOutcome store expectedVersion [] (.ok [], store)
  | invalid {first : UncommittedEvent} {rest : List UncommittedEvent} {err : EventStoreError} :
      validateBatch first.tenantId first.aggregateId first.aggregateType 0 (first :: rest)
        = .error err →
      AppendOutcome store expectedVersion (first :: rest) (.error err, store)
  | conflict {first : UncommittedEvent} {rest : List UncommittedEvent} {msg : String} :
      Uniform first.key first.aggregateType (first :: rest) →
      expectedVersion.isMatch (currentVersion (store.loadStream first.key)) = false →
      AppendOutcome store expectedVersion (first :: rest)
        (.error (.concurrency msg), ⟨store.streams.entryOr first.key []⟩)
  | typeMismatch {first : UncommittedEvent} {rest : List UncommittedEvent} {existing : StoredEvent}
      {msg : String} :
      Uniform first.key first.aggregateType (first :: rest) →
      expectedVersion.isMatch (currentVersion (store.loadStream first.key)) = true →
      (store.loadStream first.key).head? = some existing →
      existing.aggregateType ≠ first.aggregateType →
      AppendOutcome store expectedVersion (first :: rest)
        (.error (.aggregateTypeMismatch msg), ⟨store.streams.entryOr first.key []⟩)
  | committed {first : UncommittedEvent} {rest : List UncommittedEvent}
      {committed : List StoredEvent} :
      Uniform first.key first.aggregateType (first :: rest) →
      expectedVersion.isMatch (currentVersion (store.loadStream first.key)) = true →
      (∀ existing, (store.loadStream first.key).head? = some existing →
        existing.aggregateType = first.aggregateType) →
      committed
          =
        assignSequence (currentVersion (store.loadStream first.key) + 1) (first :: rest) →
      AppendOutcome store expectedVersion (first :: rest)
        (.ok committed, ⟨store.streams.insert first.key (store.loadStream first.key ++ committed)⟩)

theorem append_outcome (store : InMemoryEventStore) (events : List UncommittedEvent)
    (expectedVersion : ExpectedVersion)
    : AppendOutcome store expectedVersion events (append store events expectedVersion) := by
  unfold append
  split
  . apply AppendOutcome.empty
  . next first rest =>
    dsimp only
    split
    . next err herr =>
      apply AppendOutcome.invalid herr
    . next hok =>
      have huniform := validateBatch_eq_ok_iff.mp hok
      simp only [KeyMap.getD_entryOr, KeyMap.entryOr_insert]
      split
      . next hmatch =>
        apply AppendOutcome.conflict huniform
        simpa [loadStream, UncommittedEvent.key] using hmatch
      . next hmatch =>
        have hmatch : expectedVersion.isMatch (currentVersion (store.loadStream first.key))
          = true := by
          simpa [loadStream, UncommittedEvent.key] using hmatch
        split
        . next existing hhead =>
          split
          . next hne => exact AppendOutcome.typeMismatch huniform hmatch hhead hne
          . next heq =>
            simp only [ne_eq, Decidable.not_not] at heq
            apply AppendOutcome.committed huniform hmatch
            . intro existing' hhead'
              have : some existing = some existing' := hhead.symm.trans hhead'
              cases this
              exact heq
            . rfl
        . next hhead =>
          apply AppendOutcome.committed huniform hmatch
          . intro existing hhead'
            have : none = some existing := hhead.symm.trans hhead'
            cases this
          . rfl

theorem loadStream_entryOr (store : InMemoryEventStore) (key key' : StreamKey)
    : loadStream ⟨store.streams.entryOr key []⟩ key' = store.loadStream key' := by
  unfold loadStream
  apply KeyMap.getD_entryOr

theorem loadStream_insert (store : InMemoryEventStore) (key key' : StreamKey)
    (stream : List StoredEvent)
    : loadStream ⟨store.streams.insert key stream⟩ key'
        =
      if key' = key then stream else store.loadStream key' := by
  unfold loadStream
  rw [KeyMap.get_insert]
  split <;> rfl

structure WellFormedStream (key : StreamKey) (stream : List StoredEvent) : Prop where
  numbered : NumberedFrom 1 (·.sequenceNumber) stream
  key_eq : ∀ e ∈ stream, e.key = key
  type_eq : ∀ e ∈ stream, ∀ e' ∈ stream, e.aggregateType = e'.aggregateType

def WellFormed (store : InMemoryEventStore) : Prop :=
  ∀ key, WellFormedStream key (store.loadStream key)

theorem wellFormed_new : WellFormed new := by
  intro key
  constructor <;> simp [new, loadStream]

theorem WellFormedStream.currentVersion_eq {key : StreamKey} {stream : List StoredEvent}
    (h : WellFormedStream key stream) : currentVersion stream = stream.length := by
  rw [← h.numbered.getLast?]
  unfold currentVersion
  cases stream.getLast? <;> rfl

theorem WellFormedStream.take {key : StreamKey} {stream : List StoredEvent}
    (h : WellFormedStream key stream) (n : Nat) : WellFormedStream key (stream.take n) := by
  constructor
  . have hnumbered := h.numbered
    rw [← List.take_append_drop n stream, NumberedFrom.append_iff] at hnumbered
    exact hnumbered.1
  . intro e he
    apply h.key_eq e (List.mem_of_mem_take he)
  . intro e he e' he'
    apply h.type_eq e (List.mem_of_mem_take he) e' (List.mem_of_mem_take he')

theorem WellFormedStream.append_assignSequence {key : StreamKey} {stream : List StoredEvent}
    {events : List UncommittedEvent} {aggregateType : String}
    (h : WellFormedStream key stream) (huniform : Uniform key aggregateType events)
    (htype : ∀ e ∈ stream, e.aggregateType = aggregateType)
    : WellFormedStream key (stream ++ assignSequence (stream.length + 1) events) := by
  have hnew : ∀ e ∈ assignSequence (stream.length + 1) events,
      e.key = key ∧ e.aggregateType = aggregateType := by
    intro e he
    rcases mem_assignSequence he with ⟨u, hu, n, rfl⟩
    apply huniform u hu
  constructor
  . rw [NumberedFrom.append_iff, Nat.add_comm 1]
    exact ⟨h.numbered, assignSequence_numbered _ _⟩
  . intro e he
    rw [List.mem_append] at he
    cases he with
    | inl he => exact h.key_eq e he
    | inr he => exact (hnew e he).1
  . have hall : ∀ e ∈ stream ++ assignSequence (stream.length + 1) events,
        e.aggregateType = aggregateType := by
      intro e he
      rw [List.mem_append] at he
      cases he with
      | inl he => exact htype e he
      | inr he => exact (hnew e he).2
    intro e he e' he'
    rw [hall e he, hall e' he']

theorem WellFormedStream.type_of_head {key : StreamKey} {stream : List StoredEvent}
    {aggregateType : String} (h : WellFormedStream key stream)
    (hhead : ∀ existing, stream.head? = some existing → existing.aggregateType = aggregateType)
    : ∀ e ∈ stream, e.aggregateType = aggregateType := by
  intro e he
  cases stream with
  | nil => simp at he
  | cons first rest =>
    rw [h.type_eq e he first (by simp)]
    exact hhead first rfl

theorem wellFormed_append {store : InMemoryEventStore} (h : WellFormed store)
    (events : List UncommittedEvent) (expectedVersion : ExpectedVersion)
    : WellFormed (append store events expectedVersion).2 := by
  have houtcome := append_outcome store events expectedVersion
  generalize append store events expectedVersion = result at houtcome ⊢
  cases houtcome with
  | empty => exact h
  | invalid => exact h
  | conflict =>
    intro key
    rw [loadStream_entryOr]
    apply h key
  | typeMismatch =>
    intro key
    rw [loadStream_entryOr]
    apply h key
  | @committed first rest committed huniform _ hhead hcommitted =>
    intro key
    rw [loadStream_insert]
    split
    . next hkey =>
      subst hkey
      rw [hcommitted, (h first.key).currentVersion_eq]
      apply (h first.key).append_assignSequence huniform
      apply (h first.key).type_of_head hhead
    . exact h key

theorem Reachable.wellFormed {store : InMemoryEventStore} (h : Reachable store)
    : WellFormed store := by
  induction h with
  | new => exact wellFormed_new
  | append events expectedVersion _ ih => exact wellFormed_append ih events expectedVersion

-- What a query may answer: one result for every enumeration of the streams.

def QueryResults (overflowChecks : Bool) (store : InMemoryEventStore) (tenantId : TenantId)
    (filter : EventFilter) (pagination : Pagination)
    : Set (Option EventQueryResult) :=
  {result | ∃ keys, store.streams.Enumerates keys
    ∧ store.queryEvents overflowChecks keys tenantId filter pagination = result}

def EventByIdResults (store : InMemoryEventStore) (tenantId : TenantId) (eventId : Uuid)
    : Set (Option StoredEvent) :=
  {result | ∃ keys, store.streams.Enumerates keys
    ∧ store.getEventById keys tenantId eventId = result}

structure SameReads (store store' : InMemoryEventStore) : Prop where
  loadStream : ∀ key, store'.loadStream key = store.loadStream key
  queryEvents : ∀ overflowChecks tenantId filter pagination,
    store'.QueryResults overflowChecks tenantId filter pagination
      =
    store.QueryResults overflowChecks tenantId filter pagination
  getAggregateEvents : ∀ overflowChecks key pagination,
    store'.getAggregateEvents overflowChecks key pagination
      =
    store.getAggregateEvents overflowChecks key pagination
  getEventById : ∀ tenantId eventId,
    store'.EventByIdResults tenantId eventId = store.EventByIdResults tenantId eventId

theorem SameReads.refl (store : InMemoryEventStore) : SameReads store store := by
  constructor <;> intros <;> rfl

theorem getEventById_eq_find? (store : InMemoryEventStore) (keys : List StreamKey)
    (tenantId : TenantId) (eventId : Uuid)
    : store.getEventById keys tenantId eventId
        =
      (store.tenantEvents keys tenantId).find? (fun e => e.eventId == eventId) := by
  unfold getEventById tenantEvents
  rw [List.find?_flatten]

theorem tenantEvents_insert_vacant (store : InMemoryEventStore) (key : StreamKey)
    (hvacant : store.streams.get key = none) (keys : List StreamKey) (tenantId : TenantId)
    : tenantEvents ⟨store.streams.insert key []⟩ keys tenantId
        = store.tenantEvents keys tenantId := by
  unfold tenantEvents KeyMap.valuesOf
  induction keys with
  | nil => rfl
  | cons key' keys ih =>
    rw [List.filter_cons]
    split
    . rw [List.filterMap_cons, List.filterMap_cons, KeyMap.get_insert]
      by_cases h : key' = key
      . subst h
        simpa [hvacant] using ih
      . simp only [h, ↓reduceIte]
        cases store.streams.get key' with
        | none => exact ih
        | some stream =>
          simp only [List.flatten_cons]
          rw [ih]
    . exact ih

theorem tenantEvents_filter_vacant (store : InMemoryEventStore) (key : StreamKey)
    (hvacant : store.streams.get key = none) (keys : List StreamKey) (tenantId : TenantId)
    : store.tenantEvents (keys.filter (· ≠ key)) tenantId = store.tenantEvents keys tenantId := by
  unfold tenantEvents KeyMap.valuesOf
  congr 1
  induction keys with
  | nil => rfl
  | cons key' keys ih =>
    by_cases h : key' = key
    . subst h
      rw [List.filter_cons_of_neg (by simp), ih, List.filter_cons]
      split
      . rw [List.filterMap_cons, hvacant]
      . rfl
    . rw [List.filter_cons_of_pos (by simpa using h), List.filter_cons, List.filter_cons]
      split
      . rw [List.filterMap_cons, List.filterMap_cons, ih]
      . exact ih

theorem exists_enumerates_insert_vacant (store : InMemoryEventStore) (key : StreamKey)
    (hvacant : store.streams.get key = none)
    : (∀ keys', (store.streams.insert key []).Enumerates keys' →
        ∃ keys, store.streams.Enumerates keys
          ∧ ∀ t, tenantEvents ⟨store.streams.insert key []⟩ keys' t = store.tenantEvents keys t)
      ∧
      (∀ keys, store.streams.Enumerates keys →
        ∃ keys', (store.streams.insert key []).Enumerates keys'
          ∧ ∀ t, tenantEvents ⟨store.streams.insert key []⟩ keys' t
              = store.tenantEvents keys t) := by
  constructor
  . intro keys' hkeys'
    refine ⟨keys'.filter (· ≠ key), ⟨hkeys'.nodup.filter _, ?_⟩, ?_⟩
    . intro k
      rw [List.mem_filter, hkeys'.mem_iff, KeyMap.get_insert]
      by_cases h : k = key
      . simp [h, hvacant]
      . simp [h]
    . intro t
      rw [tenantEvents_insert_vacant _ _ hvacant, tenantEvents_filter_vacant _ _ hvacant]
  . intro keys hkeys
    have hnot : key ∉ keys := by
      rw [hkeys.mem_iff, hvacant]
      simp
    refine ⟨key :: keys, ⟨hkeys.nodup.cons hnot, ?_⟩, ?_⟩
    . intro k
      rw [List.mem_cons, hkeys.mem_iff, KeyMap.get_insert]
      by_cases h : k = key
      . simp [h]
      . simp [h]
    . intro t
      rw [tenantEvents_insert_vacant _ _ hvacant, ← tenantEvents_filter_vacant _ _ hvacant]
      congr 1
      rw [List.filter_cons_of_neg (by simp), List.filter_eq_self]
      intro k hk
      have : k ≠ key := by
        rintro rfl
        apply hnot hk
      simpa using this

theorem sameReads_entryOr (store : InMemoryEventStore) (key : StreamKey)
    : SameReads store ⟨store.streams.entryOr key []⟩ := by
  unfold KeyMap.entryOr
  split
  . apply SameReads.refl
  . next hvacant =>
    have hload : ∀ k, loadStream ⟨store.streams.insert key []⟩ k = store.loadStream k := by
      intro k
      rw [loadStream_insert]
      split
      . next h =>
        subst h
        simp [loadStream, hvacant]
      . rfl
    rcases exists_enumerates_insert_vacant store key hvacant with ⟨hdown, hup⟩
    constructor
    . exact hload
    . intro overflowChecks t filter pagination
      unfold QueryResults queryEvents
      ext result
      constructor
      . rintro ⟨keys', hkeys', rfl⟩
        rcases hdown keys' hkeys' with ⟨keys, hkeys, heq⟩
        exact ⟨keys, hkeys, by rw [heq]⟩
      . rintro ⟨keys, hkeys, rfl⟩
        rcases hup keys hkeys with ⟨keys', hkeys', heq⟩
        exact ⟨keys', hkeys', by rw [heq]⟩
    . intro overflowChecks k pagination
      unfold getAggregateEvents
      rw [hload]
    . intro t eventId
      unfold EventByIdResults
      simp only [getEventById_eq_find?]
      ext result
      constructor
      . rintro ⟨keys', hkeys', rfl⟩
        rcases hdown keys' hkeys' with ⟨keys, hkeys, heq⟩
        exact ⟨keys, hkeys, by rw [heq]⟩
      . rintro ⟨keys, hkeys, rfl⟩
        rcases hup keys hkeys with ⟨keys', hkeys', heq⟩
        exact ⟨keys', hkeys', by rw [heq]⟩

def Accepts (store : InMemoryEventStore) (events : List UncommittedEvent)
    (expectedVersion : ExpectedVersion) : Prop :=
  events = [] ∨ ∃ key aggregateType,
    events ≠ []
    ∧ Uniform key aggregateType events
    ∧ expectedVersion.isMatch (currentVersion (store.loadStream key)) = true
    ∧ ∀ e ∈ store.loadStream key, e.aggregateType = aggregateType

theorem Accepts.of_cons {store : InMemoryEventStore} {first : UncommittedEvent}
    {rest : List UncommittedEvent} {expectedVersion : ExpectedVersion}
    (h : Accepts store (first :: rest) expectedVersion)
    : Uniform first.key first.aggregateType (first :: rest)
      ∧ expectedVersion.isMatch (currentVersion (store.loadStream first.key)) = true
      ∧ ∀ e ∈ store.loadStream first.key, e.aggregateType = first.aggregateType := by
  cases h with
  | inl h => cases h
  | inr h =>
    rcases h with ⟨key, aggregateType, -, huniform, hmatch, htype⟩
    rcases huniform first (by simp) with ⟨rfl, rfl⟩
    exact ⟨huniform, hmatch, htype⟩

theorem append_eq_ok_iff {store : InMemoryEventStore} (hstore : Reachable store)
    (events : List UncommittedEvent) (expectedVersion : ExpectedVersion)
    : (∃ committed, (append store events expectedVersion).1 = .ok committed)
        ↔
      Accepts store events expectedVersion := by
  have houtcome := append_outcome store events expectedVersion
  generalize append store events expectedVersion = result at houtcome ⊢
  cases houtcome with
  | empty => simp [Accepts]
  | invalid herr =>
    simp only [reduceCtorEq, exists_false, false_iff]
    intro h
    rw [validateBatch_eq_ok_iff.mpr h.of_cons.1] at herr
    cases herr
  | conflict _ hmatch =>
    simp only [reduceCtorEq, exists_false, false_iff]
    intro h
    rw [h.of_cons.2.1] at hmatch
    cases hmatch
  | typeMismatch _ _ hhead hne =>
    simp only [reduceCtorEq, exists_false, false_iff]
    intro h
    apply hne
    apply h.of_cons.2.2
    apply List.mem_of_head? hhead
  | @committed first rest committed huniform hmatch hhead _ =>
    simp only [Except.ok.injEq, exists_eq', true_iff]
    right
    refine ⟨first.key, first.aggregateType, by simp, huniform, hmatch, ?_⟩
    apply (hstore.wellFormed first.key).type_of_head hhead

theorem sameReads_of_append_error {store store' : InMemoryEventStore}
    {events : List UncommittedEvent} {expectedVersion : ExpectedVersion} {err : EventStoreError}
    (h : store.append events expectedVersion = (.error err, store')) : SameReads store store' := by
  have houtcome := append_outcome store events expectedVersion
  rw [h] at houtcome
  cases houtcome with
  | invalid => apply SameReads.refl
  | conflict => apply sameReads_entryOr
  | typeMismatch => apply sameReads_entryOr

theorem append_eq_ok {store store' : InMemoryEventStore} {events : List UncommittedEvent}
    {expectedVersion : ExpectedVersion} {committed : List StoredEvent}
    (h : store.append events expectedVersion = (.ok committed, store'))
    : committed.map StoredEvent.uncommitted = events
      ∧ (∀ key, (∀ e ∈ events, e.key = key) →
          committed.map StoredEvent.sequenceNumber
            =
          List.range' (currentVersion (store.loadStream key) + 1) events.length
          ∧ store'.loadStream key = store.loadStream key ++ committed)
      ∧ (∀ key, (∀ e ∈ events, e.key ≠ key) → store'.loadStream key = store.loadStream key) := by
  have houtcome := append_outcome store events expectedVersion
  rw [h] at houtcome
  cases houtcome with
  | empty => simp
  | @committed first rest committed _ _ _ hcommitted =>
    subst hcommitted
    refine ⟨assignSequence_uncommitted _ _, ?_, ?_⟩
    . intro key hkey
      have hfirst : first.key = key := hkey first (by simp)
      subst hfirst
      constructor
      . have := assignSequence_numbered (currentVersion (store.loadStream first.key) + 1)
          (first :: rest)
        rw [NumberedFrom, assignSequence_length] at this
        exact this
      . rw [loadStream_insert]
        simp
    . intro key hkey
      rw [loadStream_insert]
      have : key ≠ first.key := fun h => hkey first (by simp) h.symm
      simp [this]

theorem append_contract (store : InMemoryEventStore) (hstore : Reachable store)
    (events : List UncommittedEvent) (expectedVersion : ExpectedVersion)
    : ((∃ committed, (append store events expectedVersion).1 = .ok committed)
          ↔
        Accepts store events expectedVersion)
      ∧ (∀ err, (append store events expectedVersion).1 = .error err →
          SameReads store (append store events expectedVersion).2)
      ∧ (∀ committed, (append store events expectedVersion).1 = .ok committed →
          committed.map StoredEvent.uncommitted = events
          ∧ (∀ key, (∀ e ∈ events, e.key = key) →
              committed.map StoredEvent.sequenceNumber
                =
              List.range' (currentVersion (store.loadStream key) + 1) events.length
              ∧ (append store events expectedVersion).2.loadStream key
                  =
                store.loadStream key ++ committed)
          ∧ (∀ key, (∀ e ∈ events, e.key ≠ key) →
              (append store events expectedVersion).2.loadStream key = store.loadStream key)) := by
  refine ⟨append_eq_ok_iff hstore events expectedVersion, ?_, ?_⟩
  . intro err herr
    exact sameReads_of_append_error (Prod.ext herr rfl)
  . intro committed hcommitted
    exact append_eq_ok (Prod.ext hcommitted rfl)

def opening : UncommittedEvent where
  eventId := ⟨7⟩
  tenantId := ⟨⟨1⟩⟩
  aggregateId := ⟨⟨2⟩⟩
  aggregateType := "inventory.item"
  eventType := "inventory.item.created"
  eventVersion := 1
  occurredAt := ⟨0⟩
  payload := .null

theorem append_contract_successor
    : ∃ committed,
        (append (append new [opening] .any).2 [{ opening with eventId := ⟨8⟩ }] (.exact 1)).1
          =
        .ok committed := by
  apply (append_contract _ (.append [opening] .any .new) _ _).1.mpr
  right
  refine ⟨opening.key, "inventory.item", by simp, ?_, by decide, ?_⟩
  . intro e he
    rw [List.mem_singleton] at he
    subst he
    exact ⟨rfl, rfl⟩
  . intro e he
    have : (append new [opening] .any).2.loadStream opening.key = [opening.toStored 1] := by
      simp [append, validateBatch, loadStream, new, KeyMap.entryOr, currentVersion, assignSequence,
        opening, UncommittedEvent.key]
    rw [this, List.mem_singleton] at he
    subst he
    rfl

end InMemoryEventStore
end ForgeErp
