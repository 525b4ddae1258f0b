import ForgeErp.Dispatcher.Basic
import ForgeErp.EventStore.Impl.Query
import ForgeErp.Library.Machine
import ForgeErp.Projections.Impl.Members

/-!
This module contains `run_replay`, first its loading loop and then a replay of the inventory
projection as it runs besides commands that are dispatched and events that are delivered. The loop
has no bound of its own and takes fuel; what its queries answer is up to the event store.
-/

namespace ForgeErp

inductive ReplayError where
  | eventStore (err : EventStoreError)
  | projection (msg : String)
  | cancelled
  deriving DecidableEq, Repr

namespace Replay

-- `EventQuery::query_events`, for the n-th query of a run. `none` is a panic.
abbrev QueryEvents :=
  Nat → TenantId → EventFilter → Pagination → Option (Except EventStoreError EventQueryResult)

inductive LoadOutcome where
  | finished (result : Except ReplayError (List StoredEvent))
  | panicked
  | outOfFuel

def pageSize : UInt32 :=
  1000

def isRelevant (aggregateTypes : List String) (e : StoredEvent) : Bool :=
  aggregateTypes.contains e.aggregateType

-- `cancellation n` is what the flag says before the n-th query.
def loadEvents (overflowChecks : Bool) (queryEvents : QueryEvents) (cancellation : Nat → Bool)
    (tenantId : TenantId) (aggregateTypes : List String) (fuel idx : Nat) (offset : UInt32)
    (allEvents : List StoredEvent)
    : LoadOutcome :=
  match fuel with
  | 0 => .outOfFuel
  | fuel + 1 =>
    if cancellation idx then
      .finished (.error .cancelled)
    else
      let pagination := .new (some pageSize) (some offset)
      match queryEvents idx tenantId .default pagination with
      | none => .panicked
      | some (.error err) => .finished (.error (.eventStore err))
      | some (.ok result) =>
        let relevantEvents := result.events.filter (isRelevant aggregateTypes)
        let allEvents := allEvents ++ relevantEvents
        if !result.hasMore then
          .finished (.ok allEvents)
        else
          match addU32 overflowChecks offset pageSize with
          | none => .panicked
          | some offset =>
            loadEvents overflowChecks queryEvents cancellation tenantId
              aggregateTypes fuel (idx + 1)
              offset allEvents

inductive Phase where
  | notStarted
  | loaded (allEvents : List StoredEvent)
  | replaying (allEvents remaining : List StoredEvent)
  | complete
  | failed (err : ReplayError)

structure System where
  store : InMemoryEventStore
  -- how many events of a stream the bus has delivered
  delivered : StreamKey → Nat
  projection : Projection InventoryItemId InventoryReadModel
  phase : Phase

inductive Action where
  | dispatch (key : StreamKey) (command : InventoryCommand) (freshId : Nat → Uuid)
  | deliver (key : StreamKey) (fresh : AggregateId)
  | load (overflowChecks : Bool) (queryEvents : QueryEvents) (fuel : Nat)
  | clear (eventId : Uuid) (aggregateId : AggregateId) (fresh : Nat → AggregateId)
  | replay (fresh : AggregateId)
  | cancel

def inventoryRequest (key : StreamKey) (command : InventoryCommand)
    : CommandDispatcher.Request InventoryItem.aggregate where
  key := key
  aggregateType := "inventory.item"
  command := command
  makeAggregate _ aggregateId := InventoryItem.empty ⟨aggregateId⟩

def displayError (err : ProjectionError) : String :=
  match err with
  | .deserialize msg => s!"failed to deserialize inventory event: {msg}"
  | .tenantIsolation msg => s!"tenant isolation violation: {msg}"
  | .nonMonotonicSequence last found =>
    s!"non-monotonic sequence number (last={last}, found={found})"

variable [TextFormat Uuid] [TextFormat DateTime]

-- `rebuild_from_scratch` is only called for the tenant it clears; its result is dropped.
def clearTenant (tenantId : TenantId) (eventId : Uuid) (aggregateId : AggregateId)
    (fresh : Nat → AggregateId) (st : Projection InventoryItemId InventoryReadModel)
    : Projection InventoryItemId InventoryReadModel :=
  let dummyEnvelope := {
    eventId
    tenantId
    aggregateId
    aggregateType := "inventory.item"
    sequenceNumber := 1
    payload := .object []
  }
  (InventoryStockProjection.projection.rebuildFromScratch fresh st [dummyEnvelope]).2

def sortEvents (events : List StoredEvent) : List StoredEvent :=
  events.insertionSort (fun a b => CursorProjection.ReplayOrder a.toEnvelope b.toEnvelope)

def step (tenantId : TenantId) (dryRun : Bool) (s : System) (action : Action) : Option System :=
  match action with
  | .dispatch key command freshId =>
    let (_, store, _) := CommandDispatcher.dispatch InMemoryEventBus.toEventBus s.store ⟨[]⟩
      (inventoryRequest key command) freshId
    some { s with store }
  | .deliver key fresh =>
    match (s.store.loadStream key)[s.delivered key]? with
    | none => none
    | some e =>
      let (_, projection) :=
        InventoryStockProjection.projection.applyEnvelope fresh s.projection e.toEnvelope
      some { s with
        projection
        delivered := fun key' => if key' = key then s.delivered key + 1 else s.delivered key'
      }
  | .load overflowChecks queryEvents fuel =>
    match s.phase with
    | .notStarted =>
      match loadEvents overflowChecks queryEvents (fun _ => false) tenantId ["inventory.item"] fuel
          0 0 [] with
      | .finished (.ok allEvents) => some { s with phase := .loaded allEvents }
      | .finished (.error err) => some { s with phase := .failed err }
      | _ => none
    | _ => none
  | .clear eventId aggregateId fresh =>
    match s.phase with
    | .loaded allEvents =>
      let allEvents := sortEvents allEvents
      some { s with
        projection :=
          if dryRun then s.projection else clearTenant tenantId eventId aggregateId
            fresh s.projection
        phase := .replaying allEvents allEvents
      }
    | _ => none
  | .replay fresh =>
    match s.phase with
    | .replaying _ [] => some { s with phase := .complete }
    | .replaying allEvents (e :: remaining) =>
      let result :=
        if dryRun then
          (.ok (), s.projection)
        else
          InventoryStockProjection.projection.applyEnvelope fresh s.projection e.toEnvelope
      match result with
      | (.error err, projection) =>
        some { s with projection, phase := .failed (.projection (displayError err)) }
      | (.ok (), projection) =>
        some { s with projection, phase := .replaying allEvents remaining }
    | _ => none
  | .cancel =>
    match s.phase with
    | .complete => none
    | .failed _ => none
    | _ => some { s with phase := .failed .cancelled }

/--
What the flag says each time `run_replay` looks at it.
-/
structure Cancellation where
  loading : Nat → Bool
  beforeClear : Bool
  afterClear : Bool
  replaying : Nat → Bool

def replayEvents (dryRun : Bool) (cancellation : Nat → Bool) (fresh : Nat → AggregateId) (idx : Nat)
    (events : List StoredEvent) (st : Projection InventoryItemId InventoryReadModel)
    : Except ReplayError Unit × Projection InventoryItemId InventoryReadModel :=
  match events with
  | [] => (.ok (), st)
  | e :: events =>
    if cancellation idx then
      (.error .cancelled, st)
    else if dryRun then
      replayEvents dryRun cancellation fresh (idx + 1) events st
    else
      match InventoryStockProjection.projection.applyEnvelope (fresh idx) st e.toEnvelope with
      | (.error err, st) => (.error (.projection (displayError err)), st)
      | (.ok (), st) => replayEvents dryRun cancellation fresh (idx + 1) events st

-- `none` if the loading loop panics or runs out of fuel. `dummyFresh` is for the clear.
def runReplay (overflowChecks : Bool) (queryEvents : QueryEvents) (cancellation : Cancellation)
    (tenantId : TenantId) (dryRun : Bool) (fuel : Nat) (eventId : Uuid) (aggregateId : AggregateId)
    (dummyFresh fresh : Nat → AggregateId) (st : Projection InventoryItemId InventoryReadModel)
    : Option (Except ReplayError Unit × Projection InventoryItemId InventoryReadModel) :=
  match loadEvents overflowChecks queryEvents cancellation.loading tenantId
    ["inventory.item"] fuel 0 0 [] with
  | .finished (.error err) => some (.error err, st)
  | .finished (.ok allEvents) =>
    if cancellation.beforeClear then
      some (.error .cancelled, st)
    else
      let st := if dryRun then st else clearTenant tenantId eventId aggregateId dummyFresh st
      if cancellation.afterClear then
        some (.error .cancelled, st)
      else
        some (replayEvents dryRun cancellation.replaying fresh 0 (sortEvents allEvents) st)
  | _ => none

end Replay

end ForgeErp
