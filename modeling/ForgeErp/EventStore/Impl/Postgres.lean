import ForgeErp.Core.Text
import ForgeErp.EventStore.Impl.InMemory
import Mathlib.Data.List.Sort

/-!
This module contains the Postgres event store over a table of events with the primary key `event_id`
and the unique constraint on `(tenant_id, aggregate_id, sequence_number)`. Columns hold what they
are given. The statements of `append_events` are kept apart so that transactions can interleave.
-/

namespace ForgeErp

structure EventRow where
  eventId : Uuid
  tenantId : TenantId
  aggregateId : AggregateId
  aggregateType : String
  sequenceNumber : Nat
  eventType : String
  eventVersion : Int32
  occurredAt : DateTime
  payload : JsonValue

namespace EventRow

def key (self : EventRow) : StreamKey :=
  ⟨self.tenantId, self.aggregateId⟩

-- `From<StoredEventRow> for StoredEvent`
def toStored (self : EventRow) : StoredEvent where
  eventId := self.eventId
  tenantId := self.tenantId
  aggregateId := self.aggregateId
  aggregateType := self.aggregateType
  sequenceNumber := self.sequenceNumber
  eventType := self.eventType
  eventVersion := self.eventVersion.toUInt32
  occurredAt := self.occurredAt
  payload := self.payload

def Collides (a b : EventRow) : Prop :=
  a.eventId = b.eventId ∨ (a.key = b.key ∧ a.sequenceNumber = b.sequenceNumber)

instance : DecidableRel Collides := fun _ _ =>
  inferInstanceAs (Decidable (_ ∨ _))

end EventRow

structure EventsTable where
  rows : List EventRow

namespace EventsTable

def stream (self : EventsTable) (key : StreamKey) : List EventRow :=
  self.rows.filter (fun row => row.key = key)

-- `none` is the unique violation
def insert (self : EventsTable) (row : EventRow) : Option EventsTable :=
  if self.rows.any (fun other => row.Collides other) then none else some ⟨self.rows ++ [row]⟩

end EventsTable

namespace PostgresEventStore

def validateEvents (tenantId : TenantId) (aggregateId : AggregateId) (idx : Nat)
    (events : List UncommittedEvent)
    : Except EventStoreError Unit :=
  match events with
  | [] => .ok ()
  | e :: es =>
    if e.tenantId ≠ tenantId then
      .error (.tenantIsolation s!"batch contains multiple tenant_ids (index {idx})")
    else if e.aggregateId ≠ aggregateId then
      .error (.invalidAppend s!"batch contains multiple aggregate_ids (index {idx})")
    else
      validateEvents tenantId aggregateId (idx + 1) es

def validateBatch (tenantId : TenantId) (aggregateId : AggregateId) (first : UncommittedEvent)
    (rest : List UncommittedEvent)
    : Except EventStoreError Unit :=
  if first.tenantId ≠ tenantId then
    let expected := Uuid.hyphenated.print tenantId.asUuid
    let got := Uuid.hyphenated.print first.tenantId.asUuid
    .error (.tenantIsolation s!"event tenant_id mismatch: expected {expected}, got {got}")
  else if first.aggregateId ≠ aggregateId then
    let expected := Uuid.hyphenated.print aggregateId.asUuid
    let got := Uuid.hyphenated.print first.aggregateId.asUuid
    .error (.invalidAppend s!"event aggregate_id mismatch: expected {expected}, got {got}")
  else
    validateEvents tenantId aggregateId 0 (first :: rest)

-- `COALESCE(MAX(sequence_number), 0)`
def maxSequence (rows : List EventRow) : Nat :=
  rows.foldr (fun row m => max row.sequenceNumber m) 0

-- `MAX(aggregate_type)`
def maxType (rows : List EventRow) : Option String :=
  match rows with
  | [] => none
  | row :: rows =>
    match maxType rows with
    | none => some row.aggregateType
    | some t => some (if t < row.aggregateType then row.aggregateType else t)

def checkStreamVersion (table : EventsTable) (key : StreamKey) : Nat × Option String :=
  (maxSequence (table.stream key), maxType (table.stream key))

def validateVersion (aggregateType : String) (expectedVersion : ExpectedVersion)
    (current : Nat × Option String)
    : Except EventStoreError Unit :=
  let (currentVersion, existingAggregateType) := current
  let validateExpected : Except EventStoreError Unit :=
    if !expectedVersion.isMatch currentVersion then
      let expected := expectedVersion.debug
      .error (.concurrency
        s!"optimistic concurrency check failed: expected {expected}, found {currentVersion}")
    else
      .ok ()
  match existingAggregateType with
  | some existingType =>
    if existingType ≠ aggregateType then
      .error (.aggregateTypeMismatch
        s!"stream aggregate_type is '{existingType}', attempted append with '{aggregateType}'")
    else
      validateExpected
  | none => validateExpected

-- All rows of a batch get the type of its first event.
def toRow (key : StreamKey) (aggregateType : String) (sequenceNumber : Nat)
    (event : UncommittedEvent)
    : EventRow where
  eventId := event.eventId
  tenantId := key.tenantId
  aggregateId := key.aggregateId
  aggregateType := aggregateType
  sequenceNumber := sequenceNumber
  eventType := event.eventType
  eventVersion := event.eventVersion.toInt32
  occurredAt := event.occurredAt
  payload := event.payload

def mismatchInBatch : EventStoreError :=
  .tenantIsolation "event tenant/aggregate mismatch in batch"

def concurrentAppend (sequenceNumber : Nat) : EventStoreError :=
  .concurrency s!"concurrent append detected: sequence_number {sequenceNumber} already exists"

def insertEvents (key : StreamKey) (aggregateType : String) (nextSequence : Nat)
    (events : List UncommittedEvent) (table : EventsTable)
    : Except EventStoreError (List StoredEvent × EventsTable) :=
  match events with
  | [] => .ok ([], table)
  | event :: events =>
    if event.tenantId ≠ key.tenantId ∨ event.aggregateId ≠ key.aggregateId then
      .error mismatchInBatch
    else
      match table.insert (toRow key aggregateType nextSequence event) with
      | none => .error (concurrentAppend nextSequence)
      | some table =>
        match insertEvents key aggregateType (nextSequence + 1) events table with
        | .error err => .error err
        | .ok (stored, table) => .ok (event.toStored nextSequence :: stored, table)

-- An error rolls the transaction back.
def appendEvents (table : EventsTable) (tenantId : TenantId) (aggregateId : AggregateId)
    (events : List UncommittedEvent) (expectedVersion : ExpectedVersion)
    : Except EventStoreError (List StoredEvent) × EventsTable :=
  match events with
  | [] => (.ok [], table)
  | first :: rest =>
    match validateBatch tenantId aggregateId first rest with
    | .error err => (.error err, table)
    | .ok () =>
      let key := ⟨tenantId, aggregateId⟩
      let current := checkStreamVersion table key
      match validateVersion first.aggregateType expectedVersion current with
      | .error err => (.error err, table)
      | .ok () =>
        match insertEvents key first.aggregateType (current.1 + 1) (first :: rest) table with
        | .error err => (.error err, table)
        | .ok (stored, table) => (.ok stored, table)

def append (table : EventsTable) (events : List UncommittedEvent)
    (expectedVersion : ExpectedVersion)
    : Except EventStoreError (List StoredEvent) × EventsTable :=
  match events with
  | [] => (.ok [], table)
  | first :: rest =>
    appendEvents table first.tenantId first.aggregateId (first :: rest) expectedVersion

def loadStream (table : EventsTable) (key : StreamKey) : List StoredEvent :=
  ((table.stream key).insertionSort (fun a b => a.sequenceNumber ≤ b.sequenceNumber)).map
    EventRow.toStored

end PostgresEventStore

end ForgeErp
