import ForgeErp.Core.Text
import ForgeErp.Dispatcher.Lemmas.Sequential
import ForgeErp.Domain.Inventory
import ForgeErp.EventStore.Impl.Publishing

/-!
This module contains the order of storing and publishing: what the bus has taken when a call returns
is in the store, and a call that fails before the publication leaves no trace.
-/

namespace ForgeErp

namespace EventBus

variable {B M ε : Type}

def logged (eventBus : EventBus B M) : EventBus (B × List M) M where
  publish bus message :=
    match eventBus.publish bus.1 message with
    | (.ok (), bus') => (.ok (), bus', bus.2 ++ [message])
    | (.error err, bus') => (.error err, bus', bus.2)

theorem logged_publish (eventBus : EventBus B M) (bus : B × List M) (message : M)
    : (∃ bus', eventBus.logged.publish bus message = (.ok (), bus', bus.2 ++ [message]))
      ∨ ∃ err bus', eventBus.logged.publish bus message = (.error err, bus', bus.2) := by
  unfold logged
  dsimp only
  split
  . next bus' _ => exact Or.inl ⟨bus', rfl⟩
  . next err bus' _ => exact Or.inr ⟨err, bus', rfl⟩

theorem logged_publish_erase (eventBus : EventBus B M) (bus : B × List M) (message : M)
    : (eventBus.logged.publish bus message).1 = (eventBus.publish bus.1 message).1
      ∧ (eventBus.logged.publish bus message).2.1 = (eventBus.publish bus.1 message).2 := by
  unfold logged
  dsimp only
  split <;> simp_all

-- The loop behind both publishers; they differ in the error they wrap a failure in.
def publishEach (eventBus : EventBus B M) (failure : String → ε) (bus : B) (messages : List M)
    : Except ε Unit × B :=
  match messages with
  | [] => (.ok (), bus)
  | message :: rest =>
    match eventBus.publish bus message with
    | (.error err, bus) => (.error (failure err), bus)
    | (.ok (), bus) => publishEach eventBus failure bus rest

inductive Sent (failure : String → ε) (messages : List M) : Except ε Unit → List M → Prop where
  | all : Sent failure messages (.ok ()) messages
  | upTo {n : Nat} (err : String) :
      n < messages.length → Sent failure messages (.error (failure err)) (messages.take n)

theorem Sent.cons {failure : String → ε} {messages sent : List M} {result : Except ε Unit}
    (h : Sent failure messages result sent) (message : M)
    : Sent failure (message :: messages) result (message :: sent) := by
  cases h with
  | all => exact .all
  | @upTo n err hn =>
    have : n + 1 < (message :: messages).length := by
      rw [List.length_cons]
      omega
    apply Sent.upTo err this

theorem publishEach_logged (eventBus : EventBus B M) (failure : String → ε) (bus : B × List M)
    (messages : List M)
    : ∃ sent, Sent failure messages (eventBus.logged.publishEach failure bus messages).1 sent
        ∧ (eventBus.logged.publishEach failure bus messages).2.2 = bus.2 ++ sent := by
  induction messages generalizing bus with
  | nil => exact ⟨[], .all, by simp [publishEach]⟩
  | cons message rest ih =>
    unfold publishEach
    cases logged_publish eventBus bus message with
    | inl hok =>
      rcases hok with ⟨bus', hok⟩
      rw [hok]
      rcases ih (bus', bus.2 ++ [message]) with ⟨sent, hsent, hlog⟩
      exact ⟨message :: sent, hsent.cons message, by simpa using hlog⟩
    | inr herr =>
      rcases herr with ⟨err, bus', herr⟩
      rw [herr]
      exact ⟨[], .upTo (n := 0) err (by simp), by simp⟩

theorem publishEach_logged_erase (eventBus : EventBus B M) (failure : String → ε)
    (bus : B × List M) (messages : List M)
    : (eventBus.logged.publishEach failure bus messages).1
          = (eventBus.publishEach failure bus.1 messages).1
      ∧ (eventBus.logged.publishEach failure bus messages).2.1
          = (eventBus.publishEach failure bus.1 messages).2 := by
  induction messages generalizing bus with
  | nil => exact ⟨rfl, rfl⟩
  | cons message rest ih =>
    rcases logged_publish_erase eventBus bus message with ⟨hresult, hbus⟩
    unfold publishEach
    cases logged_publish eventBus bus message with
    | inl hok =>
      rcases hok with ⟨bus', hok⟩
      rw [hok] at hresult hbus
      have hpublish : eventBus.publish bus.1 message = (.ok (), bus') :=
        Prod.ext hresult.symm hbus.symm
      rw [hok, hpublish]
      apply ih (bus', bus.2 ++ [message])
    | inr herr =>
      rcases herr with ⟨err, bus', herr⟩
      rw [herr] at hresult hbus
      have hpublish : eventBus.publish bus.1 message = (.error err, bus') :=
        Prod.ext hresult.symm hbus.symm
      rw [herr, hpublish]
      exact ⟨rfl, rfl⟩

end EventBus

section PublishAll

variable {B : Type} (eventBus : EventBus B (EventEnvelope JsonValue)) (bus : B)
  (committed : List StoredEvent)

theorem CommandDispatcher.publishAll_eq
    : publishAll eventBus bus committed
        =
      eventBus.publishEach DispatchError.publish bus (committed.map StoredEvent.toEnvelope) := by
  induction committed generalizing bus with
  | nil => rfl
  | cons stored rest ih =>
    unfold publishAll
    rw [List.map_cons]
    unfold EventBus.publishEach
    split <;> simp_all

theorem PublishingEventStore.publishAll_eq
    : publishAll eventBus bus committed
        =
      eventBus.publishEach EventStoreError.publish bus (committed.map StoredEvent.toEnvelope) := by
  induction committed generalizing bus with
  | nil => rfl
  | cons stored rest ih =>
    unfold publishAll
    rw [List.map_cons]
    unfold EventBus.publishEach
    split <;> simp_all

end PublishAll

section Contract

variable (store : InMemoryEventStore) (log : List (EventEnvelope JsonValue))

structure DispatchContract {A : Aggregate} [Event A.Event] [Serde A.Event]
    (request : CommandDispatcher.Request A) (result : Except DispatchError (List StoredEvent))
    (store' : InMemoryEventStore) (log' : List (EventEnvelope JsonValue)) : Prop where
  failed : ∀ err, result = .error err → (∀ msg, err ≠ .publish msg) → store' = store ∧ log' = log
  published : ∀ events, result = .ok events →
    store'.loadStream request.key = store.loadStream request.key ++ events
    ∧ log' = log ++ events.map StoredEvent.toEnvelope
  interrupted : ∀ msg, result = .error (.publish msg) → ∃ state decided committed n,
    CommandDispatcher.applyHistory A
      (request.makeAggregate request.key.tenantId request.key.aggregateId)
      (store.loadStream request.key) = .ok state
    ∧ A.handle state request.command = .ok decided
    ∧ StreamOf committed decided
    ∧ store'.loadStream request.key = store.loadStream request.key ++ committed
    ∧ n < committed.length
    ∧ log' = log ++ (committed.take n).map StoredEvent.toEnvelope

structure PublishingAppendContract (events : List UncommittedEvent)
    (result : Except EventStoreError (List StoredEvent)) (store' : InMemoryEventStore)
    (log' : List (EventEnvelope JsonValue)) : Prop where
  failed : ∀ err, result = .error err → (∀ msg, err ≠ .publish msg) →
    InMemoryEventStore.SameReads store store' ∧ log' = log
  published : ∀ committed, result = .ok committed →
    (∀ e ∈ committed, e ∈ store'.loadStream e.key)
    ∧ log' = log ++ committed.map StoredEvent.toEnvelope
  interrupted : ∀ msg, result = .error (.publish msg) → ∃ (committed : List StoredEvent) (n : Nat),
    committed.map StoredEvent.uncommitted = events
    ∧ (∀ e ∈ committed, e ∈ store'.loadStream e.key)
    ∧ n < committed.length
    ∧ log' = log ++ (committed.take n).map StoredEvent.toEnvelope

end Contract

variable {B : Type} (eventBus : EventBus B (EventEnvelope JsonValue)) {store : InMemoryEventStore}
  (bus : B) (log : List (EventEnvelope JsonValue))

theorem CommandDispatcher.dispatch_logged_erase {A : Aggregate} [Event A.Event] [Serde A.Event]
    (store : InMemoryEventStore) (request : Request A) (freshId : Nat → Uuid)
    : (dispatch eventBus.logged store (bus, log) request freshId).1
          = (dispatch eventBus store bus request freshId).1
      ∧ (dispatch eventBus.logged store (bus, log) request freshId).2.1
          = (dispatch eventBus store bus request freshId).2.1
      ∧ (dispatch eventBus.logged store (bus, log) request freshId).2.2.1
          = (dispatch eventBus store bus request freshId).2.2 := by
  unfold dispatch
  split
  . simp
  . simp
  . split
    . simp
    . next committed store' _ =>
      simp only [publishAll_eq]
      rcases eventBus.publishEach_logged_erase DispatchError.publish (bus, log)
        (committed.map StoredEvent.toEnvelope) with ⟨hresult, hbus⟩
      split <;> split <;> simp_all

theorem CommandDispatcher.dispatch_contract {A : Aggregate} [Event A.Event] [Serde A.Event]
    (hstore : store.WellFormed) (request : Request A) (freshId : Nat → Uuid)
    : DispatchContract store log request
        (dispatch eventBus.logged store (bus, log) request freshId).1
        (dispatch eventBus.logged store (bus, log) request freshId).2.1
        (dispatch eventBus.logged store (bus, log) request freshId).2.2.2 := by
  have houtcome := dispatch_outcome eventBus.logged hstore (bus, log) request freshId
  generalize dispatch eventBus.logged store (bus, log) request freshId = result at houtcome ⊢
  cases houtcome with
  | failed hne =>
    constructor
    . intros
      exact ⟨rfl, rfl⟩
    . intro events h
      cases h
    . intro msg h
      cases h
      exact absurd rfl (hne msg)
  | nothing =>
    constructor
    . intro err h
      cases h
    . intro events h
      cases h
      simp
    . intro msg h
      cases h
  | @stored state decided committed hdecides =>
    have hstream : InMemoryEventStore.loadStream
        ⟨store.streams.insert request.key (store.loadStream request.key ++ committed)⟩ request.key
          = store.loadStream request.key ++ committed := by
      rw [InMemoryEventStore.loadStream_insert, if_pos rfl]
    rw [publishAll_eq]
    rcases eventBus.publishEach_logged DispatchError.publish (bus, log)
      (committed.map StoredEvent.toEnvelope) with ⟨sent, hsent, hlog⟩
    generalize eventBus.logged.publishEach DispatchError.publish (bus, log)
      (committed.map StoredEvent.toEnvelope) = published at hsent hlog ⊢
    rcases published with ⟨result, bus', log'⟩
    dsimp only at hsent hlog ⊢
    subst hlog
    cases hsent with
    | all =>
      constructor
      . intro err h
        cases h
      . intro events h
        cases h
        exact ⟨hstream, rfl⟩
      . intro msg h
        cases h
    | @upTo n err hn =>
      constructor
      . intro err' h hne
        cases h
        exact absurd rfl (hne err)
      . intro events h
        cases h
      . intro msg _
        rw [List.length_map] at hn
        exact ⟨state, decided, committed, n, hdecides.applied, hdecides.handle, hdecides.streamOf,
          hstream, hn, by rw [List.map_take]⟩

theorem InMemoryEventStore.validateBatch_ne_publish {tenantId : TenantId}
    {aggregateId : AggregateId}
    {aggregateType : String} {idx : Nat} {events : List UncommittedEvent} (msg : String)
    : validateBatch tenantId aggregateId aggregateType idx events ≠ .error (.publish msg) := by
  induction events generalizing idx with
  | nil => simp [validateBatch]
  | cons e es ih =>
    unfold validateBatch
    split
    . simp
    . split
      . simp
      . split
        . simp
        . exact ih

theorem InMemoryEventStore.append_ne_publish (store : InMemoryEventStore)
    (events : List UncommittedEvent) (expectedVersion : ExpectedVersion) (msg : String)
    : (store.append events expectedVersion).1 ≠ .error (.publish msg) := by
  have houtcome := append_outcome store events expectedVersion
  generalize store.append events expectedVersion = result at houtcome ⊢
  intro h
  cases houtcome with
  | invalid herr =>
    cases h
    exact validateBatch_ne_publish msg herr
  | _ => cases h

theorem InMemoryEventStore.mem_loadStream_of_append {store' : InMemoryEventStore}
    {events : List UncommittedEvent} {expectedVersion : ExpectedVersion}
    {committed : List StoredEvent}
    (h : store.append events expectedVersion = (.ok committed, store'))
    : committed.map StoredEvent.uncommitted = events
      ∧ ∀ e ∈ committed, e ∈ store'.loadStream e.key := by
  have houtcome := append_outcome store events expectedVersion
  rw [h] at houtcome
  cases houtcome with
  | empty => simp
  | @committed first rest committed huniform _ _ hcommitted =>
    subst hcommitted
    refine ⟨assignSequence_uncommitted _ _, ?_⟩
    intro e he
    have hkey : e.key = first.key := by
      rcases mem_assignSequence he with ⟨u, hu, n, rfl⟩
      exact (huniform u hu).1
    rw [hkey, loadStream_insert, if_pos rfl, List.mem_append]
    exact Or.inr he

theorem PublishingEventStore.append_publishes (events : List UncommittedEvent)
    (expectedVersion : ExpectedVersion)
    : PublishingAppendContract store log events
        (append InMemoryEventStore.toEventStore eventBus.logged ⟨store, bus, log⟩ events
          expectedVersion).1
        (append InMemoryEventStore.toEventStore eventBus.logged ⟨store, bus, log⟩ events
          expectedVersion).2.store
        (append InMemoryEventStore.toEventStore eventBus.logged ⟨store, bus, log⟩ events
          expectedVersion).2.bus.2 := by
  unfold append InMemoryEventStore.toEventStore
  dsimp only
  split
  . next err store' happend =>
    constructor
    . intros
      exact ⟨InMemoryEventStore.sameReads_of_append_error happend, rfl⟩
    . intro committed h
      cases h
    . intro msg h
      cases h
      exact absurd (congrArg Prod.fst happend) (store.append_ne_publish _ _ msg)
  . next committed store' happend =>
    rcases InMemoryEventStore.mem_loadStream_of_append happend with ⟨hbatch, hmem⟩
    rw [publishAll_eq]
    rcases eventBus.publishEach_logged EventStoreError.publish (bus, log)
      (committed.map StoredEvent.toEnvelope) with ⟨sent, hsent, hlog⟩
    generalize eventBus.logged.publishEach EventStoreError.publish (bus, log)
      (committed.map StoredEvent.toEnvelope) = published at hsent hlog ⊢
    rcases published with ⟨result, bus', log'⟩
    dsimp only at hsent hlog ⊢
    subst hlog
    cases hsent with
    | all =>
      constructor
      . intro err h
        cases h
      . intro committed' h
        cases h
        exact ⟨hmem, rfl⟩
      . intro msg h
        cases h
    | @upTo n err hn =>
      constructor
      . intro err' h hne
        cases h
        exact absurd rfl (hne err)
      . intro committed' h
        cases h
      . intro msg _
        rw [List.length_map] at hn
        exact ⟨committed, n, hbatch, hmem, hn, by rw [List.map_take]⟩

theorem store_before_publish (hstore : store.Reachable)
    : (∀ (A : Aggregate) [Event A.Event] [Serde A.Event] (request : CommandDispatcher.Request A)
          (freshId : Nat → Uuid),
        DispatchContract store log request
          (CommandDispatcher.dispatch eventBus.logged store (bus, log) request freshId).1
          (CommandDispatcher.dispatch eventBus.logged store (bus, log) request freshId).2.1
          (CommandDispatcher.dispatch eventBus.logged store (bus, log) request freshId).2.2.2)
      ∧
      (∀ (events : List UncommittedEvent) (expectedVersion : ExpectedVersion),
        PublishingAppendContract store log events
          (PublishingEventStore.append InMemoryEventStore.toEventStore eventBus.logged
            ⟨store, bus, log⟩ events expectedVersion).1
          (PublishingEventStore.append InMemoryEventStore.toEventStore eventBus.logged
            ⟨store, bus, log⟩ events expectedVersion).2.store
          (PublishingEventStore.append InMemoryEventStore.toEventStore eventBus.logged
            ⟨store, bus, log⟩ events expectedVersion).2.bus.2) := by
  constructor
  . intro A _ _ request freshId
    apply CommandDispatcher.dispatch_contract eventBus bus log hstore.wellFormed
  . intro events expectedVersion
    apply PublishingEventStore.append_publishes

namespace Bolt

open Concrete

def request (command : InventoryCommand) : CommandDispatcher.Request InventoryItem.aggregate where
  key := ⟨tenantId, itemId.aggregateId⟩
  aggregateType := "inventory.item"
  command := command
  makeAggregate _ id := InventoryItem.empty ⟨id⟩

def brokenBus : EventBus Unit (EventEnvelope JsonValue) where
  publish _ _ := (.error "down", ())

theorem store_before_publish_broken
    : ∃ committed n,
        (CommandDispatcher.dispatch brokenBus.logged .new ((), []) (request (.createItem create))
            fun _ => ⟨10⟩).2.1.loadStream (request (.createItem create)).key = committed
        ∧ n < committed.length
        ∧ (CommandDispatcher.dispatch brokenBus.logged .new ((), []) (request (.createItem create))
            fun _ => ⟨10⟩).2.2.2 = (committed.take n).map StoredEvent.toEnvelope := by
  have hcontract := (store_before_publish brokenBus () [] .new).1 InventoryItem.aggregate
    (request (.createItem create)) (fun _ => ⟨10⟩)
  rcases hcontract.interrupted "down" rfl with ⟨_, _, committed, n, _, _, _, hstream, hn, hlog⟩
  exact ⟨committed, n, hstream, hn, hlog⟩

end Bolt

end ForgeErp
