import ForgeErp.Dispatcher.Basic
import ForgeErp.EventStore.Impl.Query
import ForgeErp.Library.Unwinding

/-!
This module contains the write side as its clients see it: an in-memory event store behind a
dispatcher, the calls they make and the replies they get. The order in which a query visits the
streams is left open.
-/

namespace ForgeErp
namespace WriteSide

variable {ι : Type} (A : ι → Aggregate)

inductive Call where
  | dispatch (i : ι) (request : CommandDispatcher.Request (A i)) (freshId : Nat → Uuid)
  | append (events : List UncommittedEvent) (expectedVersion : ExpectedVersion)
  | loadStream (key : StreamKey)
  | queryEvents (tenantId : TenantId) (filter : EventFilter) (pagination : Pagination)
  | getAggregateEvents (key : StreamKey) (pagination : Option Pagination)
  | getEventById (tenantId : TenantId) (eventId : Uuid)

inductive Reply where
  | dispatched (result : Except DispatchError (List StoredEvent))
  | appended (result : Except EventStoreError (List StoredEvent))
  | loaded (events : List StoredEvent)
  | queried (result : Option EventQueryResult)
  | aggregateEvents (result : Option EventQueryResult)
  | found (result : Option StoredEvent)

-- The tenant a call is made for; an empty batch is for nobody.
def Call.tenant {A : ι → Aggregate} (call : Call A) : Option TenantId :=
  match call with
  | .dispatch _ request _ => some request.key.tenantId
  | .append events _ => events.head?.map (·.tenantId)
  | .loadStream key => some key.tenantId
  | .queryEvents tenantId _ _ => some tenantId
  | .getAggregateEvents key _ => some key.tenantId
  | .getEventById tenantId _ => some tenantId

structure State (B : Type) where
  store : InMemoryEventStore
  bus : B

variable [∀ i, Event (A i).Event] [∀ i, Serde (A i).Event]
variable {B : Type} (eventBus : EventBus B (EventEnvelope JsonValue)) (overflowChecks : Bool)

def serve (s : State B) (keys : List StreamKey) (call : Call A) : Reply × State B :=
  match call with
  | .dispatch _ request freshId =>
    let (result, store, bus) := CommandDispatcher.dispatch eventBus s.store s.bus request freshId
    (.dispatched result, ⟨store, bus⟩)
  | .append events expectedVersion =>
    let (result, store) := s.store.append events expectedVersion
    (.appended result, { s with store })
  | .loadStream key => (.loaded (s.store.loadStream key), s)
  | .queryEvents tenantId filter pagination =>
    (.queried (s.store.queryEvents overflowChecks keys tenantId filter pagination), s)
  | .getAggregateEvents key pagination =>
    (.aggregateEvents (s.store.getAggregateEvents overflowChecks key pagination), s)
  | .getEventById tenantId eventId => (.found (s.store.getEventById keys tenantId eventId), s)

def Serves (s : State B) (call : Call A) (reply : Reply) (s' : State B) : Prop :=
  ∃ keys, s.store.streams.Enumerates keys
    ∧ serve A eventBus overflowChecks s keys call = (reply, s')

-- The reply to a call, with the store that it was given from; only the specification reads the
-- store.
structure Served where
  reply : Reply
  store : InMemoryEventStore

def Records (s : State B) (call : Call A) (served : Served) (s' : State B) : Prop :=
  Serves A eventBus overflowChecks s call served.reply s' ∧ served.store = s.store

end WriteSide
end ForgeErp
