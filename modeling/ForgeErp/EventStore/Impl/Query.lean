import ForgeErp.EventStore.Impl.InMemory
import Mathlib.Data.List.Sort

/-!
This module contains the query interface of the in-memory event store. The source walks over a hash
map, whose order is not specified: every query takes the enumeration of the streams it happens to
use. A page bound is a sum of two `u32`; `none` is the panic of a build with overflow checks.
-/

namespace ForgeErp

def addU32 (overflowChecks : Bool) (a b : UInt32) : Option UInt32 :=
  if overflowChecks && decide (2 ^ 32 ≤ a.toNat + b.toNat) then
    none
  else
    some (a + b)

structure Pagination where
  limit : UInt32
  offset : UInt32
  deriving DecidableEq, Repr

namespace Pagination

def default : Pagination where
  limit := 50
  offset := 0

def new (limit offset : Option UInt32) : Pagination where
  limit := min (limit.getD 50) 1000
  offset := offset.getD 0

-- `total > (offset + limit) as u64`
def hasMore (overflowChecks : Bool) (total : Nat) (self : Pagination) : Option Bool :=
  (addU32 overflowChecks self.offset self.limit).map fun bound => decide (total > bound.toNat)

def slice {α : Type} (self : Pagination) (l : List α) : List α :=
  (l.drop self.offset.toNat).take self.limit.toNat

end Pagination

structure EventFilter where
  aggregateId : Option AggregateId
  aggregateType : Option String
  eventType : Option String
  occurredAfter : Option DateTime
  occurredBefore : Option DateTime
  deriving DecidableEq, Repr

namespace EventFilter

def default : EventFilter where
  aggregateId := none
  aggregateType := none
  eventType := none
  occurredAfter := none
  occurredBefore := none

def accepts (self : EventFilter) (e : StoredEvent) : Bool :=
  self.aggregateId.all (fun aggId => e.aggregateId == aggId)
    && self.aggregateType.all (fun aggType => e.aggregateType == aggType)
    && self.eventType.all (fun evtType => e.eventType == evtType)
    && self.occurredAfter.all (fun after => decide (after.nanos ≤ e.occurredAt.nanos))
    && self.occurredBefore.all (fun before => decide (e.occurredAt.nanos ≤ before.nanos))

end EventFilter

structure EventQueryResult where
  events : List StoredEvent
  total : Nat
  pagination : Pagination
  hasMore : Bool

-- `occurred_at` descending, then `sequence_number` ascending
def StoredEvent.QueryOrder (a b : StoredEvent) : Prop :=
  b.occurredAt.nanos < a.occurredAt.nanos
    ∨ (b.occurredAt.nanos = a.occurredAt.nanos ∧ a.sequenceNumber ≤ b.sequenceNumber)

instance : DecidableRel StoredEvent.QueryOrder := fun _ _ =>
  inferInstanceAs (Decidable (_ ∨ _))

namespace InMemoryEventStore

def tenantEvents (store : InMemoryEventStore) (keys : List StreamKey) (tenantId : TenantId)
    : List StoredEvent :=
  (store.streams.valuesOf (keys.filter (fun key => key.tenantId == tenantId))).flatten

def queryEvents (overflowChecks : Bool) (store : InMemoryEventStore) (keys : List StreamKey)
    (tenantId : TenantId) (filter : EventFilter) (pagination : Pagination)
    : Option EventQueryResult :=
  let filtered := (store.tenantEvents keys tenantId).filter filter.accepts
  let filtered := filtered.insertionSort StoredEvent.QueryOrder
  let total := filtered.length
  (pagination.hasMore overflowChecks total).map fun hasMore =>
    { events := pagination.slice filtered, total, pagination, hasMore }

def getAggregateEvents (overflowChecks : Bool) (store : InMemoryEventStore) (key : StreamKey)
    (pagination : Option Pagination)
    : Option EventQueryResult :=
  let allEvents := store.loadStream key
  let total := allEvents.length
  let pagination := pagination.getD .default
  (pagination.hasMore overflowChecks total).map fun hasMore =>
    { events := pagination.slice allEvents, total, pagination, hasMore }

def getEventById (store : InMemoryEventStore) (keys : List StreamKey) (tenantId : TenantId)
    (eventId : Uuid)
    : Option StoredEvent :=
  (store.streams.valuesOf (keys.filter (fun key => key.tenantId == tenantId))).findSome?
    fun stream => stream.find? (fun e => e.eventId == eventId)

end InMemoryEventStore

end ForgeErp
