import ForgeErp.EventStore.Impl.InMemory

/-!
This module contains the mechanics of sagas: what a saga has to provide, and the repository that
keeps its events in the event store.
-/

namespace ForgeErp

inductive SagaAction where
  | emit (eventType : String) (payload : JsonValue)
  | command (aggregateType commandType : String) (payload : JsonValue)
  | compensate (aggregateType commandType : String) (payload : JsonValue)
  | complete

/--
The `Saga` trait. `react` is given the `Uuid::now_v7()` and `Utc::now()` of the call first.
-/
structure Saga where
  State : Type
  SagaEvent : Type
  CorrelationId : Type
  sagaType : String
  correlate : EventEnvelope JsonValue → Option CorrelationId
  sagaId : TenantId → CorrelationId → AggregateId
  initialState : TenantId → CorrelationId → State
  apply : State → SagaEvent → State
  react : Uuid → DateTime → State → TenantId → CorrelationId → EventEnvelope JsonValue
    → List SagaAction

namespace SagaRepository

def load (store : InMemoryEventStore) (tenantId : TenantId) (sagaId : AggregateId)
    : List StoredEvent :=
  store.loadStream ⟨tenantId, sagaId⟩

def emitted (S : Saga) (tenantId : TenantId) (sagaId : AggregateId) (eventType : String)
    (payload : JsonValue) (eventId : Uuid) (now : DateTime)
    : UncommittedEvent where
  tenantId
  aggregateId := sagaId
  aggregateType := S.sagaType
  eventId
  eventType
  eventVersion := 1
  payload
  occurredAt := now

def appendEmit (S : Saga) (store : InMemoryEventStore) (tenantId : TenantId) (sagaId : AggregateId)
    (eventType : String) (payload : JsonValue) (eventId : Uuid) (now : DateTime)
    : Except EventStoreError (List StoredEvent) × InMemoryEventStore :=
  store.append [emitted S tenantId sagaId eventType payload eventId now] .any

end SagaRepository

/--
The state that the subscriber of a saga starts from. Payloads that are no saga events are skipped.
-/
def Saga.rehydrate (S : Saga) [Serde S.SagaEvent] (store : InMemoryEventStore) (tenantId : TenantId)
    (correlation : S.CorrelationId)
    : S.State :=
  let history := SagaRepository.load store tenantId (S.sagaId tenantId correlation)
  history.foldl advance (S.initialState tenantId correlation)
where
  advance (state : S.State) (se : StoredEvent) : S.State :=
    match Serde.fromValue se.payload with
    | .ok sagaEvt => S.apply state sagaEvt
    | .error _ => state

end ForgeErp
