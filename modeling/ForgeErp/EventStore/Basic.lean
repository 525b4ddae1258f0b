import ForgeErp.Events.Basic
import ForgeErp.Library.Numbered

/-!
This module contains the records and errors shared by all event stores.
-/

namespace ForgeErp

structure UncommittedEvent where
  eventId : Uuid
  tenantId : TenantId
  aggregateId : AggregateId
  aggregateType : String
  eventType : String
  eventVersion : UInt32
  occurredAt : DateTime
  payload : JsonValue

structure StoredEvent where
  eventId : Uuid
  tenantId : TenantId
  aggregateId : AggregateId
  aggregateType : String
  sequenceNumber : Nat
  eventType : String
  eventVersion : UInt32
  occurredAt : DateTime
  payload : JsonValue

inductive EventStoreError where
  | concurrency (msg : String)
  | tenantIsolation (msg : String)
  | aggregateTypeMismatch (msg : String)
  | invalidAppend (msg : String)
  | publish (msg : String)
  deriving DecidableEq, Repr

structure StreamKey where
  tenantId : TenantId
  aggregateId : AggregateId
  deriving DecidableEq, Repr

namespace StoredEvent

def streamVersion (self : StoredEvent) : Nat :=
  self.sequenceNumber

def toEnvelope (self : StoredEvent) : EventEnvelope JsonValue where
  eventId := self.eventId
  tenantId := self.tenantId
  aggregateId := self.aggregateId
  aggregateType := self.aggregateType
  sequenceNumber := self.sequenceNumber
  payload := self.payload

def key (self : StoredEvent) : StreamKey :=
  ⟨self.tenantId, self.aggregateId⟩

def uncommitted (self : StoredEvent) : UncommittedEvent where
  eventId := self.eventId
  tenantId := self.tenantId
  aggregateId := self.aggregateId
  aggregateType := self.aggregateType
  eventType := self.eventType
  eventVersion := self.eventVersion
  occurredAt := self.occurredAt
  payload := self.payload

end StoredEvent

def EventEnvelope.key {E : Type} (self : EventEnvelope E) : StreamKey :=
  ⟨self.tenantId, self.aggregateId⟩

namespace UncommittedEvent

def key (self : UncommittedEvent) : StreamKey :=
  ⟨self.tenantId, self.aggregateId⟩

def fromTyped {E : Type} [Event E] [Serde E] (tenantId : TenantId) (aggregateId : AggregateId)
    (aggregateType : String) (eventId : Uuid) (event : E)
    : Except EventStoreError UncommittedEvent :=
  match Serde.toValue event with
  | .error e => .error (.invalidAppend s!"payload serialization failed: {e}")
  | .ok payload =>
    .ok {
      eventId
      tenantId
      aggregateId
      aggregateType
      eventType := Event.eventType event
      eventVersion := Event.version event
      occurredAt := Event.occurredAt event
      payload
    }

def toStored (e : UncommittedEvent) (sequenceNumber : Nat) : StoredEvent where
  eventId := e.eventId
  tenantId := e.tenantId
  aggregateId := e.aggregateId
  aggregateType := e.aggregateType
  sequenceNumber := sequenceNumber
  eventType := e.eventType
  eventVersion := e.eventVersion
  occurredAt := e.occurredAt
  payload := e.payload

end UncommittedEvent

def assignSequence (next : Nat) : List UncommittedEvent → List StoredEvent
  | [] => []
  | e :: es => e.toStored next :: assignSequence (next + 1) es

theorem assignSequence_length (next : Nat) (events : List UncommittedEvent)
    : (assignSequence next events).length = events.length := by
  induction events generalizing next with
  | nil => rfl
  | cons e es ih => simp [assignSequence, ih]

theorem assignSequence_numbered (next : Nat) (events : List UncommittedEvent)
    : NumberedFrom next (·.sequenceNumber) (assignSequence next events) := by
  induction events generalizing next with
  | nil => simp [assignSequence]
  | cons e es ih =>
    rw [assignSequence, NumberedFrom.cons_iff]
    exact ⟨rfl, ih (next + 1)⟩

theorem assignSequence_uncommitted (next : Nat) (events : List UncommittedEvent)
    : (assignSequence next events).map StoredEvent.uncommitted = events := by
  induction events generalizing next with
  | nil => rfl
  | cons e es ih =>
    rw [assignSequence, List.map_cons, ih]
    rfl

theorem mem_assignSequence {next : Nat} {events : List UncommittedEvent} {s : StoredEvent}
    (h : s ∈ assignSequence next events)
    : ∃ e ∈ events, ∃ n, s = e.toStored n := by
  induction events generalizing next with
  | nil => simp [assignSequence] at h
  | cons e es ih =>
    simp only [assignSequence, List.mem_cons] at h
    cases h with
    | inl h => exact ⟨e, by simp, next, h⟩
    | inr h =>
      obtain ⟨e', he', n, hs⟩ := ih h
      exact ⟨e', by simp [he'], n, hs⟩

end ForgeErp
