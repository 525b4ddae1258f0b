import ForgeErp.EventStore.Impl.Postgres

/-!
This module contains the `EventStore` trait, its two implementations and what a client sees of one
of them: the replies to its calls, where of an error only the variant counts.
-/

namespace ForgeErp

structure EventStore (σ : Type) where
  append : σ → List UncommittedEvent → ExpectedVersion →
    Except EventStoreError (List StoredEvent) × σ
  loadStream : σ → StreamKey → List StoredEvent

def InMemoryEventStore.toEventStore : EventStore InMemoryEventStore where
  append := InMemoryEventStore.append
  loadStream := InMemoryEventStore.loadStream

def PostgresEventStore.toEventStore : EventStore EventsTable where
  append := PostgresEventStore.append
  loadStream := PostgresEventStore.loadStream

inductive EventStoreError.Variant where
  | concurrency
  | tenantIsolation
  | aggregateTypeMismatch
  | invalidAppend
  | publish
  deriving DecidableEq, Repr

def EventStoreError.variant (self : EventStoreError) : Variant :=
  match self with
  | .concurrency _ => .concurrency
  | .tenantIsolation _ => .tenantIsolation
  | .aggregateTypeMismatch _ => .aggregateTypeMismatch
  | .invalidAppend _ => .invalidAppend
  | .publish _ => .publish

inductive StoreCall where
  | append (events : List UncommittedEvent) (expectedVersion : ExpectedVersion)
  | loadStream (key : StreamKey)

def StoreCall.eventIds (self : StoreCall) : List Uuid :=
  match self with
  | .append events _ => events.map (·.eventId)
  | .loadStream _ => []

inductive StoreReply where
  | appended (stored : List StoredEvent)
  | failed (variant : EventStoreError.Variant)
  | loaded (events : List StoredEvent)

def StoreReply.ofResult (result : Except EventStoreError (List StoredEvent)) : StoreReply :=
  match result with
  | .ok stored => .appended stored
  | .error err => .failed err.variant

namespace EventStore

variable {σ : Type}

def serve (S : EventStore σ) (s : σ) (call : StoreCall) : StoreReply × σ :=
  match call with
  | .append events expectedVersion =>
    let (result, s) := S.append s events expectedVersion
    (.ofResult result, s)
  | .loadStream key => (.loaded (S.loadStream s key), s)

def replies (S : EventStore σ) (s : σ) (calls : List StoreCall) : List StoreReply :=
  match calls with
  | [] => []
  | call :: calls => (S.serve s call).1 :: S.replies (S.serve s call).2 calls

end EventStore

def LoadsReturned (seen : List StoredEvent) (replies : List StoreReply) : Prop :=
  match replies with
  | [] => True
  | .appended stored :: replies => LoadsReturned (seen ++ stored) replies
  | .failed _ :: replies => LoadsReturned seen replies
  | .loaded events :: replies => (∀ e ∈ events, e ∈ seen) ∧ LoadsReturned seen replies

end ForgeErp
