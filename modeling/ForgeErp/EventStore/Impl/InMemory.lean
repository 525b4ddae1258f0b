import ForgeErp.EventStore.Basic
import ForgeErp.Library.KeyMap

/-!
This module contains the in-memory event store. Its lock is never poisoned, so the `lock poisoned`
errors of the source do not arise.
-/

namespace ForgeErp

structure InMemoryEventStore where
  streams : KeyMap StreamKey (List StoredEvent)

namespace InMemoryEventStore

def new : InMemoryEventStore :=
  ⟨.empty⟩

def currentVersion (stream : List StoredEvent) : Nat :=
  match stream.getLast? with
  | some e => e.sequenceNumber
  | none => 0

def validateBatch (tenantId : TenantId) (aggregateId : AggregateId) (aggregateType : String)
    (idx : Nat) (events : List UncommittedEvent)
    : Except EventStoreError Unit :=
  match events with
  | [] => .ok ()
  | e :: es =>
    if e.tenantId ≠ tenantId then
      .error (.tenantIsolation s!"batch contains multiple tenant_ids (index {idx})")
    else if e.aggregateId ≠ aggregateId then
      .error (.invalidAppend s!"batch contains multiple aggregate_ids (index {idx})")
    else if e.aggregateType ≠ aggregateType then
      .error (.aggregateTypeMismatch s!"batch contains multiple aggregate_types (index {idx})")
    else
      validateBatch tenantId aggregateId aggregateType (idx + 1) es

def append (store : InMemoryEventStore) (events : List UncommittedEvent)
    (expectedVersion : ExpectedVersion)
    : Except EventStoreError (List StoredEvent) × InMemoryEventStore :=
  match events with
  | [] => (.ok [], store)
  | first :: rest =>
    let events := first :: rest
    let aggregateType := first.aggregateType
    match validateBatch first.tenantId first.aggregateId aggregateType 0 events with
    | .error err => (.error err, store)
    | .ok () =>
      let key := ⟨first.tenantId, first.aggregateId⟩
      -- `entry(key).or_default()` leaves an empty stream behind even if a check below fails
      let streams := store.streams.entryOr key []
      let stream := (streams.get key).getD []
      let current := currentVersion stream
      if !expectedVersion.isMatch current then
        let expected := expectedVersion.debug
        (.error (.concurrency s!"expected {expected}, found {current}"), ⟨streams⟩)
      else
        let committed := assignSequence (current + 1) events
        match stream.head? with
        | some existing =>
          if existing.aggregateType ≠ aggregateType then
            let existingType := existing.aggregateType
            (.error (.aggregateTypeMismatch
              s!"stream aggregate_type is '{existingType}', attempted append with '{aggregateType}'"),
              ⟨streams⟩)
          else
            (.ok committed, ⟨streams.insert key (stream ++ committed)⟩)
        | none => (.ok committed, ⟨streams.insert key (stream ++ committed)⟩)

def loadStream (store : InMemoryEventStore) (key : StreamKey) : List StoredEvent :=
  (store.streams.get key).getD []

inductive Reachable : InMemoryEventStore → Prop where
  | new : Reachable new
  | append {store : InMemoryEventStore} (events : List UncommittedEvent)
      (expectedVersion : ExpectedVersion) :
      Reachable store → Reachable (append store events expectedVersion).2

end InMemoryEventStore

end ForgeErp
