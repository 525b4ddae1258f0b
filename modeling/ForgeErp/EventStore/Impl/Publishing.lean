import ForgeErp.EventStore.Impl.Calls

/-!
This module contains the adapter that publishes what it has appended.
-/

namespace ForgeErp

structure PublishingEventStore (σ B : Type) where
  store : σ
  bus : B

namespace PublishingEventStore

variable {σ B : Type} (S : EventStore σ) (eventBus : EventBus B (EventEnvelope JsonValue))

def publishAll (bus : B) (committed : List StoredEvent) : Except EventStoreError Unit × B :=
  match committed with
  | [] => (.ok (), bus)
  | e :: rest =>
    match eventBus.publish bus e.toEnvelope with
    | (.error err, bus) => (.error (.publish err), bus)
    | (.ok (), bus) => publishAll bus rest

def append (self : PublishingEventStore σ B) (events : List UncommittedEvent)
    (expectedVersion : ExpectedVersion)
    : Except EventStoreError (List StoredEvent) × PublishingEventStore σ B :=
  match S.append self.store events expectedVersion with
  | (.error err, store) => (.error err, { self with store })
  | (.ok committed, store) =>
    match publishAll eventBus self.bus committed with
    | (.error err, bus) => (.error err, ⟨store, bus⟩)
    | (.ok (), bus) => (.ok committed, ⟨store, bus⟩)

def loadStream (self : PublishingEventStore σ B) (key : StreamKey) : List StoredEvent :=
  S.loadStream self.store key

def toEventStore : EventStore (PublishingEventStore σ B) where
  append := append S eventBus
  loadStream := loadStream S

end PublishingEventStore

end ForgeErp
