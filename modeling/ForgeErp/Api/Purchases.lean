import ForgeErp.Api.Admin
import ForgeErp.Desktop.ItemServer
import ForgeErp.Domain.Purchasing

/-!
This module contains the route that creates purchase orders. It dispatches one command for the order
and one for each of its lines.
-/

namespace ForgeErp

structure PurchaseOrderLineRequest where
  productId : String
  quantity : Int64

structure CreatePurchaseOrderRequest where
  supplierId : String
  lines : List PurchaseOrderLineRequest

namespace Purchases

open Admin (Services)

-- An access to the store that fails, without an effect.
inductive StoreFault where
  | load (err : EventStoreError)
  | append (err : EventStoreError)

-- What the successive commands of a request find: the clock, new identifiers and the state of the
-- store.
structure Surroundings where
  now : Nat → DateTime
  freshId : Nat → Nat → Uuid
  fault : Nat → Option StoreFault

variable {B : Type} [TextFormat Uuid] [TextFormat DateTime]

def orderRequest (key : StreamKey) (command : PurchaseOrderCommand)
    : CommandDispatcher.Request PurchaseOrder.aggregate where
  key
  aggregateType := "purchasing.order"
  command
  makeAggregate _ aggregateId := PurchaseOrder.empty ⟨aggregateId⟩

variable (eventBus : EventBus B (EventEnvelope JsonValue))

def dispatch (services : Services B) (key : StreamKey) (command : PurchaseOrderCommand)
    (freshId : Nat → Uuid) (fault : Option StoreFault)
    : Except DispatchError (List StoredEvent) × Services B :=
  let request := orderRequest key command
  match fault with
  | none =>
    let (result, store, bus) :=
      CommandDispatcher.dispatch eventBus services.store services.bus request freshId
    (result, ⟨store, bus⟩)
  | some (.load err) => (.error (.ofStore err), services)
  | some (.append err) =>
    match CommandDispatcher.decideEvents request (services.store.loadStream key) freshId with
    | .error err => (.error err, services)
    | .ok none => (.ok [], services)
    | .ok (some _) => (.error (.ofStore err), services)

variable [ResponseText] (tenant : TenantContext) (principal : PrincipalContext)
  (orderAgg : AggregateId)
  (surroundings : Surroundings)

-- The loop over the lines, where `i` is the number of commands before it.
def addLines (services : Services B) (committedTotal i : Nat)
    (lines : List PurchaseOrderLineRequest)
    : HttpResponse × Services B :=
  match lines with
  | [] =>
    (⟨201, ResponseText.json (.object [
        ("id", .string (TextFormat.print orderAgg.asUuid)),
        ("events_committed", .number committedTotal)])⟩, services)
  | l :: lines =>
    match TextFormat.parse l.productId with
    | none => (jsonError 400 "invalid_id" "invalid product id", services)
    | some prodAgg =>
      let addCmd := .addLine {
        tenantId := tenant.tenantId
        orderId := ⟨orderAgg⟩
        productId := ⟨⟨prodAgg⟩⟩
        quantity := l.quantity
        occurredAt := surroundings.now i
      }
      match authorizeCommand tenant principal ["purchases.orders.add_line"] with
      | .error e => (jsonError 403 "forbidden" e.toString, services)
      | .ok () =>
        match dispatch eventBus services ⟨tenant.tenantId, orderAgg⟩ addCmd (surroundings.freshId i)
          (surroundings.fault i) with
        | (.error e, services) => (dispatchErrorToResponse e, services)
        | (.ok committed, services) =>
          addLines services (committedTotal + committed.length) (i + 1) lines

-- `orderAgg` is the `AggregateId::new()` of the request.
def createPurchaseOrder (services : Services B) (body : CreatePurchaseOrderRequest)
    : HttpResponse × Services B :=
  match TextFormat.parse body.supplierId with
  | none => (jsonError 400 "invalid_id" "invalid supplier_id", services)
  | some supplierAgg =>
    let cmd := .createPurchaseOrder {
      tenantId := tenant.tenantId
      orderId := ⟨orderAgg⟩
      supplierId := ⟨⟨supplierAgg⟩⟩
      occurredAt := surroundings.now 0
    }
    match authorizeCommand tenant principal ["purchases.orders.create"] with
    | .error e => (jsonError 403 "forbidden" e.toString, services)
    | .ok () =>
      match dispatch eventBus services ⟨tenant.tenantId, orderAgg⟩ cmd (surroundings.freshId 0)
        (surroundings.fault 0) with
      | (.error e, services) => (dispatchErrorToResponse e, services)
      | (.ok committed, services) =>
        addLines eventBus tenant principal orderAgg surroundings services
          committed.length 1 body.lines

end Purchases

end ForgeErp
