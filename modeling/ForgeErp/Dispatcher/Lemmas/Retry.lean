import ForgeErp.Dispatcher.Calls
import ForgeErp.Dispatcher.Lemmas.Publish
import ForgeErp.Domain.Lemmas.Repeat

/-!
This module contains the second attempt of a client whose first one was stored but not published.
The dispatcher rehydrates what the first attempt stored and asks the aggregate again, so the retry
is as idempotent as the command.
-/

namespace ForgeErp

def decodeStream {E : Type} [Serde E] (stream : List StoredEvent) : Option (List E) :=
  match stream with
  | [] => some []
  | e :: es =>
    match Serde.fromValue e.payload, decodeStream es with
    | .ok ev, some evs => some (ev :: evs)
    | _, _ => none

theorem decodeStream_append {E : Type} [Serde E] {stream stream' : List StoredEvent}
    {evs evs' : List E} (h : decodeStream stream = some evs) (h' : decodeStream stream' = some evs')
    : decodeStream (stream ++ stream') = some (evs ++ evs') := by
  induction stream generalizing evs with
  | nil =>
    cases h
    exact h'
  | cons e es ih =>
    unfold decodeStream at h
    split at h
    . next ev rest hev hrest =>
      cases h
      simp only [List.cons_append, decodeStream, hev, ih hrest]
    . cases h

theorem StreamOf.decodeStream_eq {E : Type} [Event E] [Serde E] {stream : List StoredEvent}
    {evs : List E} (h : StreamOf stream evs) : decodeStream stream = some evs := by
  unfold StreamOf at h
  induction h with
  | nil => rfl
  | cons hhead _ ih =>
    have hev := Serde.fromValue_toValue hhead.payload
    simp only [StoredEvent.uncommitted] at hev
    simp only [decodeStream, hev, ih]

namespace CommandDispatcher

theorem applyHistory_go_eq_ok {A : Aggregate} [Serde A.Event] {aggregate state : A.State}
    {stream : List StoredEvent} (h : applyHistory.go A aggregate stream = .ok state)
    : ∃ evs, decodeStream stream = some evs ∧ state = A.rehydrate aggregate evs := by
  induction stream generalizing aggregate with
  | nil =>
    cases h
    exact ⟨[], rfl, rfl⟩
  | cons e es ih =>
    unfold applyHistory.go at h
    split at h
    . cases h
    . next ev hev =>
      rcases ih h with ⟨evs, hevs, hstate⟩
      exact ⟨ev :: evs, by simp only [decodeStream, hev, hevs], hstate⟩

theorem applyHistory_go_of_decodeStream {A : Aggregate} [Serde A.Event] (aggregate : A.State)
    {stream : List StoredEvent} {evs : List A.Event} (h : decodeStream stream = some evs)
    : applyHistory.go A aggregate stream = .ok (A.rehydrate aggregate evs) := by
  induction stream generalizing aggregate evs with
  | nil =>
    cases h
    rfl
  | cons e es ih =>
    unfold decodeStream at h
    split at h
    . next ev rest hev hrest =>
      cases h
      unfold applyHistory.go
      rw [hev]
      apply ih _ hrest
    . cases h

theorem applyHistory_eq_go {A : Aggregate} [Serde A.Event] {key : StreamKey}
    {stream : List StoredEvent} (h : InMemoryEventStore.WellFormedStream key stream)
    (aggregate : A.State)
    : applyHistory A aggregate stream = applyHistory.go A aggregate stream := by
  have hsorted : stream.Pairwise (fun a b => a.sequenceNumber ≤ b.sequenceNumber) := by
    apply h.numbered.pairwise_lt.imp
    intros
    omega
  unfold applyHistory
  rw [hsorted.insertionSort_eq]

theorem toUncommitted_of_encodes {E : Type} [Event E] [Serde E]
    (hencodes : ∀ ev : E, ∃ j, Serde.toValue ev = .ok j) (key : StreamKey) (aggregateType : String)
    (freshId : Nat → Uuid) (idx : Nat) (decided : List E)
    : ∃ us, toUncommitted key aggregateType freshId idx decided = .ok us := by
  induction decided generalizing idx with
  | nil => exact ⟨[], rfl⟩
  | cons ev evs ih =>
    rcases hencodes ev with ⟨j, hj⟩
    rcases ih (idx + 1) with ⟨us, hus⟩
    unfold toUncommitted UncommittedEvent.fromTyped
    rw [hj]
    dsimp only
    rw [hus]
    exact ⟨_, rfl⟩

section Again

variable {A : Aggregate} [Event A.Event] [Serde A.Event] {β : Type}

def viewOf (view : A.State → List A.Event → β) (aggregate : A.State) (stream : List StoredEvent)
    : Option β :=
  (decodeStream stream).map fun evs => view (A.rehydrate aggregate evs) evs

theorem decided_eq_nil_of_not_decides {request : Request A} {stream : List StoredEvent}
    {freshId : Nat → Uuid} (hencodes : ∀ ev : A.Event, ∃ j, Serde.toValue ev = .ok j)
    {state : A.State} {decided : List A.Event}
    (happlied : applyHistory A (request.makeAggregate request.key.tenantId request.key.aggregateId)
      stream = .ok state)
    (htype : ∀ e ∈ stream, e.aggregateType = request.aggregateType)
    (hnot : ∀ state decided committed, ¬ Decides request stream freshId state decided committed)
    (hok : A.handle state request.command = .ok decided) : decided = [] := by
  by_contra hne
  rcases toUncommitted_of_encodes hencodes request.key request.aggregateType freshId 0 decided with
    ⟨us, hus⟩
  exact hnot _ _ _ ⟨happlied, hok, hne, ⟨us, hus, rfl⟩, htype⟩

theorem dispatch_again_iff (view : A.State → List A.Event → β) {request : Request A}
    {store store' : InMemoryEventStore} {freshId : Nat → Uuid} {state : A.State}
    {history decided : List A.Event} {committed : List StoredEvent}
    {B : Type} (eventBus : EventBus B (EventEnvelope JsonValue)) (bus : B) (freshId' : Nat → Uuid)
    (hencodes : ∀ ev : A.Event, ∃ j, Serde.toValue ev = .ok j)
    (hdecides : Decides request (store.loadStream request.key) freshId state decided committed)
    (hdecode : decodeStream (store.loadStream request.key) = some history)
    (hstate : state = A.rehydrate
      (request.makeAggregate request.key.tenantId request.key.aggregateId) history)
    (hstore' : store'.WellFormed)
    (hstream : store'.loadStream request.key = store.loadStream request.key ++ committed)
    : viewOf view (request.makeAggregate request.key.tenantId request.key.aggregateId)
          ((dispatch eventBus store' bus request freshId').2.1.loadStream request.key)
        = viewOf view (request.makeAggregate request.key.tenantId request.key.aggregateId)
          (store'.loadStream request.key)
        ↔
      A.RepeatKeeps view state history decided request.command := by
  have hdecode' : decodeStream (store'.loadStream request.key) = some (history ++ decided) := by
    rw [hstream]
    apply decodeStream_append hdecode hdecides.streamOf.decodeStream_eq
  have happlied : applyHistory A
      (request.makeAggregate request.key.tenantId request.key.aggregateId)
      (store'.loadStream request.key) = .ok (A.rehydrate state decided) := by
    rw [applyHistory_eq_go (hstore' request.key), applyHistory_go_of_decodeStream _ hdecode',
      hstate,
      Aggregate.rehydrate_append]
  have houtcome := dispatch_outcome eventBus hstore' bus request freshId'
  generalize dispatch eventBus store' bus request freshId' = result at houtcome ⊢
  cases houtcome with
  | failed _ hnot =>
    simp only [true_iff]
    intro decided' hok
    have htype : ∀ e ∈ store'.loadStream request.key, e.aggregateType = request.aggregateType := by
      rw [hstream]
      exact hdecides.sameType_append
    rw [decided_eq_nil_of_not_decides hencodes happlied htype hnot hok]
    simp
  | nothing happlied' hnothing =>
    simp only [true_iff]
    intro decided' hok
    have := happlied.symm.trans happlied'
    cases this
    have := hok.symm.trans hnothing
    cases this
    simp
  | @stored state' decided' committed' hdecides' =>
    have hhandle := hdecides'.handle_of_applied happlied
    have hdecode'' := decodeStream_append hdecode' hdecides'.streamOf.decodeStream_eq
    dsimp only
    rw [InMemoryEventStore.loadStream_insert, if_pos rfl]
    unfold viewOf
    rw [hdecode', hdecode'']
    simp only [Option.map_some, Option.some.injEq]
    have hfirst : A.rehydrate
        (request.makeAggregate request.key.tenantId request.key.aggregateId) (history ++ decided)
          = A.rehydrate state decided := by
      rw [Aggregate.rehydrate_append, ← hstate]
    have hsecond : A.rehydrate
        (request.makeAggregate request.key.tenantId request.key.aggregateId)
        (history ++ decided ++ decided') = A.rehydrate state (decided ++ decided') := by
      rw [List.append_assoc, Aggregate.rehydrate_append, ← hstate]
    rw [hfirst, hsecond]
    constructor
    . intro hsame decided'' hok
      have := hok.symm.trans hhandle
      cases this
      exact hsame
    . intro hkeeps
      apply hkeeps decided' hhandle

end Again

end CommandDispatcher

section Retry

open CommandDispatcher

variable [TextFormat Uuid] [TextFormat DateTime] [Lowercase]

namespace AggregateKind

theorem encodes (kind : AggregateKind) (ev : kind.aggregate.Event)
    : ∃ j, Serde.toValue ev = .ok j :=
  ⟨Codec.enc ev, rfl⟩

def businessOf (kind : AggregateKind) (key : StreamKey) (stream : List StoredEvent)
    : Option kind.Business :=
  viewOf kind.business (kind.makeAggregate key.tenantId key.aggregateId) stream

end AggregateKind

theorem retry_keeps_business_iff (kind : AggregateKind) (key : StreamKey) (aggregateType : String)
    (command : kind.aggregate.Command) {B : Type} (eventBus : EventBus B (EventEnvelope JsonValue))
    (store : InMemoryEventStore) (hstore : store.Reachable) (bus : B) (freshId : Nat → Uuid)
    (msg : String)
    (hpublish : (dispatch eventBus store bus (kind.request key aggregateType command) freshId).1
      = .error (.publish msg))
    {B' : Type} (eventBus' : EventBus B' (EventEnvelope JsonValue)) (store' : InMemoryEventStore)
    (hstore' : store'.Reachable) (bus' : B') (freshId' : Nat → Uuid)
    (hkept : store'.loadStream key
      = (dispatch eventBus store bus (kind.request key aggregateType command)
          freshId).2.1.loadStream
          key)
    : kind.businessOf key
          ((dispatch eventBus' store' bus' (kind.request key aggregateType command)
            freshId').2.1.loadStream key)
        = kind.businessOf key (store'.loadStream key)
        ↔
      ∃ state, applyHistory kind.aggregate (kind.makeAggregate key.tenantId key.aggregateId)
          (store.loadStream key) = .ok state
        ∧ kind.Harmless state command := by
  have houtcome := dispatch_outcome eventBus hstore.wellFormed bus
    (kind.request key aggregateType command) freshId
  generalize dispatch eventBus store bus (kind.request key aggregateType command) freshId = result
    at houtcome hpublish hkept
  cases houtcome with
  | failed hne =>
    cases hpublish
    exact absurd rfl (hne msg)
  | nothing => cases hpublish
  | @stored state decided committed hdecides =>
    dsimp only [AggregateKind.request] at hkept
    rw [InMemoryEventStore.loadStream_insert, if_pos rfl] at hkept
    have happlied : applyHistory kind.aggregate (kind.makeAggregate key.tenantId key.aggregateId)
        (store.loadStream key) = .ok state := hdecides.applied
    rw [applyHistory_eq_go (hstore.wellFormed key)] at happlied ⊢
    rcases applyHistory_go_eq_ok happlied with ⟨history, hdecode, hstate⟩
    have hiff := dispatch_again_iff kind.business eventBus' bus' freshId' kind.encodes hdecides
      hdecode hstate hstore'.wellFormed hkept
    refine hiff.trans ?_
    rw [AggregateKind.repeat_iff kind hstate hdecides.handle, happlied]
    constructor
    . intro hharmless
      exact ⟨state, rfl, hharmless⟩
    . rintro ⟨state', hstate', hharmless⟩
      cases hstate'
      exact hharmless

end Retry

namespace Bolt

open Concrete CommandDispatcher

def kindRequest (command : InventoryCommand) : Request (AggregateKind.aggregate .inventoryItem) :=
  AggregateKind.request .inventoryItem ⟨tenantId, itemId.aggregateId⟩ "inventory.item" command

def afterCreate : InMemoryEventStore :=
  (dispatch brokenBus .new () (kindRequest (.createItem create)) fun _ => ⟨10⟩).2.1

def afterAdjust : InMemoryEventStore :=
  (dispatch brokenBus afterCreate () (kindRequest (.adjustStock (adjust 5))) fun _ => ⟨11⟩).2.1

theorem afterCreate_reachable : afterCreate.Reachable := by
  apply dispatch_reachable
  exact .new

theorem retry_keeps_business_create
    : AggregateKind.businessOf .inventoryItem (kindRequest (.createItem create)).key
          ((dispatch brokenBus afterCreate () (kindRequest (.createItem create))
            fun _ => ⟨12⟩).2.1.loadStream (kindRequest (.createItem create)).key)
        =
      AggregateKind.businessOf .inventoryItem (kindRequest (.createItem create)).key
        (afterCreate.loadStream (kindRequest (.createItem create)).key) := by
  apply (retry_keeps_business_iff .inventoryItem (kindRequest (.createItem create)).key
    "inventory.item" (.createItem create) brokenBus .new .new () (fun _ => ⟨10⟩)
      "down" rfl brokenBus
    afterCreate afterCreate_reachable () (fun _ => ⟨12⟩) rfl).mpr
  exact ⟨InventoryItem.empty itemId, rfl, trivial⟩

-- Five pieces are added twice although the client asked for them once.
theorem retry_adjusts_twice
    : afterCreate.Reachable
      ∧ (dispatch brokenBus afterCreate () (kindRequest (.adjustStock (adjust 5)))
          fun _ => ⟨11⟩).1 = .error (.publish "down")
      ∧ AggregateKind.businessOf .inventoryItem (kindRequest (.adjustStock (adjust 5))).key
            ((dispatch brokenBus afterAdjust () (kindRequest (.adjustStock (adjust 5)))
              fun _ => ⟨12⟩).2.1.loadStream (kindRequest (.adjustStock (adjust 5))).key)
          ≠
        AggregateKind.businessOf .inventoryItem (kindRequest (.adjustStock (adjust 5))).key
          (afterAdjust.loadStream (kindRequest (.adjustStock (adjust 5))).key) := by
  refine ⟨afterCreate_reachable, rfl, ?_⟩
  intro hsame
  have hstock : some (10 : Int64) = some 5 :=
    congrArg (Option.map fun item : InventoryItem => item.stock) hsame
  simp at hstock

end Bolt

end ForgeErp
