import ForgeErp.Domain.Lemmas.Orders
import ForgeErp.Projections.Lemmas.Guarded

/-!
This module contains the verification of the rows of sales and purchase orders against the
aggregates over any sequence of commands. What the projections make up for an order they have never
heard of is never used: the first event of an order creates its row.
-/

namespace ForgeErp

namespace SalesOrdersProjection

def lineOf (line : OrderLine) : SalesOrderLineReadModel where
  lineNo := line.lineNo
  productId := line.productId
  quantity := line.quantity
  unitPrice := line.unitPrice

def Shows (row : Option SalesOrderReadModel) (order : SalesOrder) : Prop :=
  match row with
  | none => order.created = false
  | some row =>
    order.created = true ∧ row.status = order.status ∧ row.lines = order.lines.map lineOf

theorem shows_created (row : SalesOrderReadModel) (order : SalesOrder) (e : SalesOrderCreated)
    : Shows (some (projection.modify row (.salesOrderCreated e)))
        (order.apply (.salesOrderCreated e)) :=
  ⟨rfl, rfl, rfl⟩

theorem Shows.modify {row : SalesOrderReadModel} {order : SalesOrder} (h : Shows (some row) order)
    (ev : SalesOrderEvent) : Shows (some (projection.modify row ev)) (order.apply ev) := by
  rcases h with ⟨hcreated, hstatus, hlines⟩
  cases ev with
  | salesOrderCreated e => apply shows_created
  | lineAdded e =>
    refine ⟨hcreated, hstatus, ?_⟩
    dsimp only [projection, SalesOrder.apply]
    rw [hlines, List.map_append]
    rfl
  | orderConfirmed e => exact ⟨hcreated, rfl, hlines⟩
  | orderInvoiced e => exact ⟨hcreated, rfl, hlines⟩

theorem shows_foldl {ok : SalesOrderCommand → Prop} {id : SalesOrderId} {evs : List SalesOrderEvent}
    (h : SalesOrder.aggregate.Produced ok (SalesOrder.empty id) evs) {c : Nat} (hc : c ≤ evs.length)
    (hpos : c ≠ 0) (vacant : SalesOrderReadModel)
    : Shows (some ((evs.take c).foldl projection.modify vacant))
        ((evs.take c).foldl SalesOrder.apply (SalesOrder.empty id)) := by
  cases evs with
  | nil =>
    rw [List.length_nil] at hc
    omega
  | cons ev evs =>
    rcases h.head rfl with ⟨command, rest, _, hhandle⟩
    rcases SalesOrder.handle_empty hhandle with ⟨e, rfl⟩
    rw [← Nat.succ_pred hpos, List.take_succ_cons, List.foldl_cons, List.foldl_cons]
    apply List.foldl_rel (r := fun row order => Shows (some row) order) (shows_created _ _ e)
    intro ev _ row order hshows
    apply hshows.modify ev

variable [TextFormat Uuid] [TextFormat DateTime]

/--
The rows of the projection over the deliveries `ds` of the history: at any time the row shows the
order behind the events that have arrived, and in the end the order itself.
-/
def FollowsRun (key : StreamKey) (commands : List SalesOrderCommand)
    (ds : List (AggregateId × EventEnvelope JsonValue)) (stream : List StoredEvent) : Prop :=
  (∃ c, Reached EventEnvelope.key EventEnvelope.sequenceNumber (ds.map Prod.snd) key c
    ∧ Shows ((projection.deliver new ds).store.get key.tenantId ⟨key.aggregateId⟩)
        (((SalesOrder.historyOf ⟨key.aggregateId⟩ commands).take c).foldl SalesOrder.apply
          (SalesOrder.empty ⟨key.aggregateId⟩)))
  ∧ ((∀ e ∈ stream, ∃ d ∈ ds, d.2 = e.toEnvelope) →
      Shows ((projection.deliver new ds).store.get key.tenantId ⟨key.aggregateId⟩)
        (SalesOrder.stateOf ⟨key.aggregateId⟩ commands))

theorem sales_order_over_any_run (key : StreamKey) (commands : List SalesOrderCommand)
    (hids : ∀ command ∈ commands,
      command.tenantId = key.tenantId ∧ command.orderId = ⟨key.aggregateId⟩)
    : SalesOrder.RunsInOrder ⟨key.aggregateId⟩ commands
      ∧ ∀ stream ds,
          InMemoryEventStore.WellFormedStream key stream →
          StreamOf stream (SalesOrder.historyOf ⟨key.aggregateId⟩ commands) →
          (∀ e ∈ stream, e.aggregateType = "sales.order") →
          CursorProjection.DeliveredInOrder key stream ds →
          FollowsRun key commands ds stream := by
  refine ⟨SalesOrder.runs_in_order ⟨key.aggregateId⟩ commands, ?_⟩
  intro stream ds hwf htyped htype hds
  rcases SalesOrder.historyOf_produced hids with ⟨hstate, hproduced⟩
  have hevents := SalesOrder.historyOf_ids hids
  have hfeeds : projection.Feeds key stream (SalesOrder.historyOf ⟨key.aggregateId⟩ commands) := by
    refine ⟨hwf, htyped, htype, fun ev hev => (hevents ev hev).1, ?_⟩
    intro ev hev
    apply congrArg SalesOrderId.aggregateId (hevents ev hev).2
  rw [FollowsRun, hstate]
  exact projection.row_follows hfeeds (rooted_of_produced hproduced) "sales.orders" hds
    ⟨⟨key.aggregateId⟩, .draft, []⟩ rfl (fun c hc hpos => shows_foldl hproduced hc hpos _)

end SalesOrdersProjection

namespace Deal

open Concrete

def key : StreamKey := ⟨⟨⟨1⟩⟩, ⟨⟨2⟩⟩⟩

-- The second line comes too late.
def sale : List SalesOrderCommand :=
  [.createSalesOrder ⟨key.tenantId, ⟨key.aggregateId⟩, ⟨0⟩⟩,
    .addLine ⟨key.tenantId, ⟨key.aggregateId⟩, ⟨⟨⟨8⟩⟩⟩, 3, 100, ⟨0⟩⟩,
    .confirmOrder ⟨key.tenantId, ⟨key.aggregateId⟩, ⟨0⟩⟩,
    .addLine ⟨key.tenantId, ⟨key.aggregateId⟩, ⟨⟨⟨9⟩⟩⟩, 1, 100, ⟨0⟩⟩,
    .markInvoiced ⟨key.tenantId, ⟨key.aggregateId⟩, ⟨0⟩⟩]

def saleStream : List StoredEvent :=
  recorded "sales.order" key 1 (SalesOrder.historyOf ⟨key.aggregateId⟩ sale)

theorem sales_order_over_any_run_deal
    : (SalesOrder.stateOf ⟨key.aggregateId⟩ sale).lines.length = 1
      ∧ SalesOrder.RunsInOrder ⟨key.aggregateId⟩ sale
      ∧ SalesOrdersProjection.FollowsRun key sale
          (saleStream.map (fun e => (⟨⟨0⟩⟩, e.toEnvelope))) saleStream := by
  have hwf : InMemoryEventStore.WellFormedStream key saleStream :=
    wellFormed_recorded "sales.order" key (SalesOrder.historyOf ⟨key.aggregateId⟩ sale)
  rcases SalesOrdersProjection.sales_order_over_any_run key sale (by simp [sale,
    SalesOrderCommand.tenantId, SalesOrderCommand.orderId]) with ⟨hruns, hrows⟩
  refine ⟨by decide, hruns, ?_⟩
  apply hrows saleStream _ hwf (streamOf_recorded "sales.order" key 1 _)
    (fun e he => (mem_recorded he).2) (CursorProjection.deliveredInOrder_map hwf ⟨⟨0⟩⟩)

end Deal

namespace PurchaseOrdersProjection

def Shows (row : Option PurchaseOrderReadModel) (order : PurchaseOrder) : Prop :=
  match row with
  | none => order.created = false
  | some row =>
    order.created = true
    ∧ order.supplierId = some row.supplierId
    ∧ row.status = order.status
    ∧ row.lines = order.lines

theorem shows_created (row : PurchaseOrderReadModel) (order : PurchaseOrder)
    (e : PurchaseOrderCreated)
    : Shows (some (projection.modify row (.purchaseOrderCreated e)))
        (order.apply (.purchaseOrderCreated e)) :=
  ⟨rfl, rfl, rfl, rfl⟩

theorem Shows.modify {row : PurchaseOrderReadModel} {order : PurchaseOrder}
    (h : Shows (some row) order) (ev : PurchaseOrderEvent)
    : Shows (some (projection.modify row ev)) (order.apply ev) := by
  rcases h with ⟨hcreated, hsupplier, hstatus, hlines⟩
  cases ev with
  | purchaseOrderCreated e => apply shows_created
  | purchaseOrderLineAdded e =>
    refine ⟨hcreated, hsupplier, hstatus, ?_⟩
    dsimp only [projection, PurchaseOrder.apply]
    rw [hlines]
  | purchaseOrderApproved e => exact ⟨hcreated, hsupplier, rfl, hlines⟩
  | goodsReceived e => exact ⟨hcreated, hsupplier, rfl, rfl⟩

theorem shows_foldl {ok : PurchaseOrderCommand → Prop} {id : PurchaseOrderId}
    {evs : List PurchaseOrderEvent}
    (h : PurchaseOrder.aggregate.Produced ok (PurchaseOrder.empty id) evs) {c : Nat}
    (hc : c ≤ evs.length) (hpos : c ≠ 0) (vacant : PurchaseOrderReadModel)
    : Shows (some ((evs.take c).foldl projection.modify vacant))
        ((evs.take c).foldl PurchaseOrder.apply (PurchaseOrder.empty id)) := by
  cases evs with
  | nil =>
    rw [List.length_nil] at hc
    omega
  | cons ev evs =>
    rcases h.head rfl with ⟨command, rest, _, hhandle⟩
    rcases PurchaseOrder.handle_empty hhandle with ⟨e, rfl⟩
    rw [← Nat.succ_pred hpos, List.take_succ_cons, List.foldl_cons, List.foldl_cons]
    apply List.foldl_rel (r := fun row order => Shows (some row) order) (shows_created _ _ e)
    intro ev _ row order hshows
    apply hshows.modify ev

variable [TextFormat Uuid] [TextFormat DateTime]

def FollowsRun (key : StreamKey) (commands : List PurchaseOrderCommand)
    (ds : List (AggregateId × EventEnvelope JsonValue)) (stream : List StoredEvent) : Prop :=
  (∃ c, Reached EventEnvelope.key EventEnvelope.sequenceNumber (ds.map Prod.snd) key c
    ∧ Shows ((projection.deliver new ds).store.get key.tenantId ⟨key.aggregateId⟩)
        (((PurchaseOrder.historyOf ⟨key.aggregateId⟩ commands).take c).foldl PurchaseOrder.apply
          (PurchaseOrder.empty ⟨key.aggregateId⟩)))
  ∧ ((∀ e ∈ stream, ∃ d ∈ ds, d.2 = e.toEnvelope) →
      Shows ((projection.deliver new ds).store.get key.tenantId ⟨key.aggregateId⟩)
        (PurchaseOrder.stateOf ⟨key.aggregateId⟩ commands))

theorem purchase_order_over_any_run (key : StreamKey) (commands : List PurchaseOrderCommand)
    (hids : ∀ command ∈ commands,
      command.tenantId = key.tenantId ∧ command.orderId = ⟨key.aggregateId⟩)
    : PurchaseOrder.RunsInOrder ⟨key.aggregateId⟩ commands
      ∧ ∀ stream ds,
          InMemoryEventStore.WellFormedStream key stream →
          StreamOf stream (PurchaseOrder.historyOf ⟨key.aggregateId⟩ commands) →
          (∀ e ∈ stream, e.aggregateType = "purchasing.order") →
          CursorProjection.DeliveredInOrder key stream ds →
          FollowsRun key commands ds stream := by
  refine ⟨PurchaseOrder.runs_in_order ⟨key.aggregateId⟩ commands, ?_⟩
  intro stream ds hwf htyped htype hds
  rcases PurchaseOrder.historyOf_produced hids with ⟨hstate, hproduced⟩
  have hevents := PurchaseOrder.historyOf_ids hids
  have hfeeds : projection.Feeds key stream
      (PurchaseOrder.historyOf ⟨key.aggregateId⟩ commands) := by
    refine ⟨hwf, htyped, htype, fun ev hev => (hevents ev hev).1, ?_⟩
    intro ev hev
    apply congrArg PurchaseOrderId.aggregateId (hevents ev hev).2
  rw [FollowsRun, hstate]
  exact projection.row_follows hfeeds (rooted_of_produced hproduced) "purchasing.orders" hds
    ⟨⟨key.aggregateId⟩, ⟨key.aggregateId⟩, .draft, []⟩ rfl
    (fun c hc hpos => shows_foldl hproduced hc hpos _)

end PurchaseOrdersProjection

namespace Deal

open Concrete

-- The goods are delivered twice.
def purchase : List PurchaseOrderCommand :=
  [.createPurchaseOrder ⟨key.tenantId, ⟨key.aggregateId⟩, ⟨⟨⟨7⟩⟩⟩, ⟨0⟩⟩,
    .addLine ⟨key.tenantId, ⟨key.aggregateId⟩, ⟨⟨⟨8⟩⟩⟩, 3, ⟨0⟩⟩,
    .approve ⟨key.tenantId, ⟨key.aggregateId⟩, ⟨0⟩⟩,
    .receiveGoods ⟨key.tenantId, ⟨key.aggregateId⟩, ⟨0⟩⟩,
    .receiveGoods ⟨key.tenantId, ⟨key.aggregateId⟩, ⟨0⟩⟩]

def purchaseStream : List StoredEvent :=
  recorded "purchasing.order" key 1 (PurchaseOrder.historyOf ⟨key.aggregateId⟩ purchase)

theorem purchase_order_over_any_run_deal
    : (PurchaseOrder.historyOf ⟨key.aggregateId⟩ purchase).length = 4
      ∧ PurchaseOrder.RunsInOrder ⟨key.aggregateId⟩ purchase
      ∧ PurchaseOrdersProjection.FollowsRun key purchase
          (purchaseStream.map (fun e => (⟨⟨0⟩⟩, e.toEnvelope))) purchaseStream := by
  have hwf : InMemoryEventStore.WellFormedStream key purchaseStream :=
    wellFormed_recorded "purchasing.order" key
      (PurchaseOrder.historyOf ⟨key.aggregateId⟩ purchase)
  rcases PurchaseOrdersProjection.purchase_order_over_any_run key purchase (by simp [purchase,
    PurchaseOrderCommand.tenantId, PurchaseOrderCommand.orderId]) with ⟨hruns, hrows⟩
  refine ⟨by decide, hruns, ?_⟩
  apply hrows purchaseStream _ hwf (streamOf_recorded "purchasing.order" key 1 _)
    (fun e he => (mem_recorded he).2) (CursorProjection.deliveredInOrder_map hwf ⟨⟨0⟩⟩)

end Deal

end ForgeErp
