import ForgeErp.EventStore.Impl.InMemory
import Mathlib.Data.List.Sort

/-!
This module contains the command execution pipeline. `load`, `decide`, `append` and `publish` are
kept apart so that the interleaving of several calls can be described in terms of the same pieces
that `dispatch` runs in sequence.
-/

namespace ForgeErp

inductive DispatchError where
  | concurrency (msg : String)
  | tenantIsolation (msg : String)
  | validation (msg : String)
  | invariantViolation (msg : String)
  | unauthorized
  | notFound
  | deserialize (msg : String)
  | store (err : EventStoreError)
  | publish (msg : String)
  deriving DecidableEq, Repr

namespace DispatchError

def ofStore (value : EventStoreError) : DispatchError :=
  match value with
  | .concurrency msg => .concurrency msg
  | .tenantIsolation msg => .tenantIsolation msg
  | err => .store err

def ofDomain (value : DomainError) : DispatchError :=
  match value with
  | .validation msg => .validation msg
  | .invariantViolation msg => .invariantViolation msg
  | .conflict msg => .concurrency msg
  | .unauthorized => .unauthorized
  | .notFound => .notFound
  | .invalidId msg => .validation msg

end DispatchError

namespace CommandDispatcher

def streamVersion (stream : List StoredEvent) : Nat :=
  match stream.getLast? with
  | some e => e.sequenceNumber
  | none => 0

def validateLoadedStream (key : StreamKey) (stream : List StoredEvent)
    : Except DispatchError Unit :=
  go 0 0 stream
where
  go (idx last : Nat) (stream : List StoredEvent) : Except DispatchError Unit :=
    match stream with
    | [] => .ok ()
    | e :: es =>
      if e.tenantId ≠ key.tenantId then
        .error (.tenantIsolation s!"loaded stream contains wrong tenant_id at index {idx}")
      else if e.aggregateId ≠ key.aggregateId then
        .error (.tenantIsolation s!"loaded stream contains wrong aggregate_id at index {idx}")
      else if e.sequenceNumber = 0 then
        .error (.store (.invalidAppend "stored event has sequence_number=0"))
      else if e.sequenceNumber ≤ last then
        let found := e.sequenceNumber
        .error (.store (.invalidAppend
          s!"non-monotonic sequence_number in loaded stream (last={last}, found={found})"))
      else
        go (idx + 1) e.sequenceNumber es

def applyHistory (A : Aggregate) [Serde A.Event] (aggregate : A.State) (history : List StoredEvent)
    : Except DispatchError A.State :=
  go aggregate (history.insertionSort (fun a b => a.sequenceNumber ≤ b.sequenceNumber))
where
  go (aggregate : A.State) (sorted : List StoredEvent) : Except DispatchError A.State :=
    match sorted with
    | [] => .ok aggregate
    | stored :: rest =>
      match Serde.fromValue stored.payload with
      | .error e => .error (.deserialize e)
      | .ok ev => go (A.apply aggregate ev) rest

-- `freshId` supplies the `Uuid::now_v7()` of the successive events.
def toUncommitted {E : Type} [Event E] [Serde E] (key : StreamKey) (aggregateType : String)
    (freshId : Nat → Uuid) (idx : Nat) (decided : List E)
    : Except EventStoreError (List UncommittedEvent) :=
  match decided with
  | [] => .ok []
  | ev :: evs =>
    match UncommittedEvent.fromTyped key.tenantId key.aggregateId aggregateType (freshId idx) ev
      with
    | .error err => .error err
    | .ok u =>
      match toUncommitted key aggregateType freshId (idx + 1) evs with
      | .error err => .error err
      | .ok us => .ok (u :: us)

structure Request (A : Aggregate) where
  key : StreamKey
  aggregateType : String
  command : A.Command
  makeAggregate : TenantId → AggregateId → A.State

variable {A : Aggregate} [Event A.Event] [Serde A.Event]

-- Steps 2) and 3) of the pipeline. `none` is the early return for a command that decides nothing.
def decideEvents (request : Request A) (history : List StoredEvent) (freshId : Nat → Uuid)
    : Except DispatchError (Option (List UncommittedEvent × ExpectedVersion)) :=
  match validateLoadedStream request.key history with
  | .error err => .error err
  | .ok () =>
    let expected := .exact (streamVersion history)
    let aggregate := request.makeAggregate request.key.tenantId request.key.aggregateId
    match applyHistory A aggregate history with
    | .error err => .error err
    | .ok aggregate =>
      match A.handle aggregate request.command with
      | .error err => .error (.ofDomain err)
      | .ok [] => .ok none
      | .ok (ev :: evs) =>
        match toUncommitted request.key request.aggregateType freshId 0 (ev :: evs) with
        | .error err => .error (.ofStore err)
        | .ok uncommitted => .ok (some (uncommitted, expected))

def publishAll {B : Type} (eventBus : EventBus B (EventEnvelope JsonValue)) (bus : B)
    (committed : List StoredEvent)
    : Except DispatchError Unit × B :=
  match committed with
  | [] => (.ok (), bus)
  | stored :: rest =>
    match eventBus.publish bus stored.toEnvelope with
    | (.error err, bus) => (.error (.publish err), bus)
    | (.ok (), bus) => publishAll eventBus bus rest

def dispatch {B : Type} (eventBus : EventBus B (EventEnvelope JsonValue))
    (store : InMemoryEventStore)
    (bus : B) (request : Request A) (freshId : Nat → Uuid)
    : Except DispatchError (List StoredEvent) × InMemoryEventStore × B :=
  match decideEvents request (store.loadStream request.key) freshId with
  | .error err => (.error err, store, bus)
  | .ok none => (.ok [], store, bus)
  | .ok (some (uncommitted, expected)) =>
    match store.append uncommitted expected with
    | (.error err, store) => (.error (.ofStore err), store, bus)
    | (.ok committed, store) =>
      match publishAll eventBus bus committed with
      | (.error err, bus) => (.error err, store, bus)
      | (.ok (), bus) => (.ok committed, store, bus)

end CommandDispatcher

end ForgeErp
