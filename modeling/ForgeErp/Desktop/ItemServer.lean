import ForgeErp.Desktop.SyncManager
import ForgeErp.Dispatcher.Basic
import ForgeErp.Domain.Inventory

/-!
This module contains the part of the API that commands on items are posted to: the route
`adjust_stock` and the responses to failed dispatches. The token of the client belongs to one
tenant, and it may adjust items.
-/

namespace ForgeErp

/--
What the responses are made with: rendered JSON, and `{:?}` of an error of the store.
-/
class ResponseText where
  json : JsonValue → String
  debug : EventStoreError → String

section Responses

variable [ResponseText]

def jsonError (status : Nat) (code message : String) : HttpResponse where
  status
  text := ResponseText.json (.object [("error", .string code), ("message", .string message)])

def dispatchErrorToResponse (err : DispatchError) : HttpResponse :=
  match err with
  | .concurrency msg => jsonError 409 "conflict" msg
  | .validation msg => jsonError 400 "validation_error" msg
  | .invariantViolation msg => jsonError 422 "invariant_violation" msg
  | .unauthorized => jsonError 403 "unauthorized" "unauthorized"
  | .notFound => jsonError 404 "not_found" "not found"
  | .deserialize msg => jsonError 500 "deserialize_error" msg
  | .store e => jsonError 500 "store_error" (ResponseText.debug e)
  | .publish msg => jsonError 502 "publish_error" msg
  | .tenantIsolation msg => jsonError 403 "tenant_isolation" msg

end Responses

structure AdjustStockRequest where
  delta : Int64

def AdjustStockRequest.ofJson (body : JsonValue) : Except String AdjustStockRequest := do
  let fields ← Codec.record ["delta"] body
  let delta ← Codec.field fields "delta"
  return { delta }

structure ItemServer (B : Type) where
  store : InMemoryEventStore
  bus : B
  -- how many requests there have been
  served : Nat

/--
What surrounds the requests: the clock and the new identifiers at each of them, and the paths that
lead elsewhere.
-/
structure ItemService (B : Type) where
  eventBus : EventBus B (EventEnvelope JsonValue)
  tenantId : TenantId
  clock : Nat → DateTime
  freshId : Nat → Nat → Uuid
  elsewhere : CommandEndpoint → JsonValue → HttpResponse

namespace ItemService

variable [TextFormat Uuid] [TextFormat DateTime] [ResponseText] {B : Type}

def key (self : ItemService B) (id : AggregateId) : StreamKey :=
  ⟨self.tenantId, id⟩

def request (self : ItemService B) (id : AggregateId) (delta : Int64) (now : DateTime)
    : CommandDispatcher.Request InventoryItem.aggregate where
  key := self.key id
  aggregateType := "inventory.item"
  command := .adjustStock {
    tenantId := self.tenantId
    itemId := ⟨id⟩
    delta
    occurredAt := now
  }
  makeAggregate _ aggregateId := InventoryItem.empty ⟨aggregateId⟩

-- A body that does not fit is rejected by the extractor.
def adjustStock (self : ItemService B) (server : ItemServer B) (id : AggregateId) (body : JsonValue)
    : HttpResponse × ItemServer B :=
  let served := server.served + 1
  match AdjustStockRequest.ofJson body with
  | .error e =>
    (⟨422, s!"Failed to deserialize the JSON body into the target type: {e}"⟩,
      { server with served })
  | .ok body =>
    let request := self.request id body.delta (self.clock server.served)
    let (result, store, bus) :=
      CommandDispatcher.dispatch self.eventBus server.store server.bus request
        (self.freshId server.served)
    let response :=
      match result with
      | .error e => dispatchErrorToResponse e
      | .ok committed => ⟨200, ResponseText.json (.object [
          ("id", .string (TextFormat.print id.asUuid)),
          ("events_committed", .number committed.length),
          ("stream_version", .number
            ((committed.getLast?.map StoredEvent.sequenceNumber).getD 0))])⟩
    (response, { store, bus, served })

def api (self : ItemService B) : Api (ItemServer B) where
  post server endpoint body :=
    match endpoint with
    | .adjustItem id => self.adjustStock server id body
    | endpoint => (self.elsewhere endpoint body, { server with served := server.served + 1 })

end ItemService

end ForgeErp
