import ForgeErp.Domain.Inventory
import ForgeErp.Domain.Invoicing
import ForgeErp.Domain.Parties
import ForgeErp.Domain.Products
import ForgeErp.Domain.Purchasing
import ForgeErp.Domain.Sales
import ForgeErp.Projections.Impl.Basic

/-!
This module contains the cursor based projections and their read models. An event that creates an
aggregate builds its row from scratch, so its `modify` does not look at the row before.
-/

namespace ForgeErp

structure InventoryReadModel where
  itemId : InventoryItemId
  name : String
  quantity : Int64
  deriving DecidableEq

namespace InventoryStockProjection

def projection : CursorProjection InventoryItemId InventoryReadModel InventoryEvent where
  aggregateType := "inventory.item"
  idName := "item_id"
  id := InventoryItemId.equiv
  tenantOf := InventoryEvent.tenantId
  idOf := InventoryEvent.itemId
  vacant _ ev := { itemId := ev.itemId, name := "", quantity := 0 }
  modify rm ev :=
    match ev with
    | .itemCreated e => { itemId := e.itemId, name := e.name, quantity := 0 }
    | .stockAdjusted e => { rm with quantity := rm.quantity + e.delta }

def new : Projection InventoryItemId InventoryReadModel :=
  .new "inventory.stock"

end InventoryStockProjection

structure PartyReadModel where
  partyId : PartyId
  kind : PartyKind
  name : String
  email : Option String
  phone : Option String
  status : PartyStatus
  deriving DecidableEq

namespace PartyDirectoryProjection

def projection : CursorProjection PartyId PartyReadModel PartyEvent where
  aggregateType := "parties.party"
  idName := "party_id"
  id := PartyId.equiv
  tenantOf := PartyEvent.tenantId
  idOf := PartyEvent.partyId
  vacant _ ev := {
    partyId := ev.partyId
    kind := .customer
    name := ""
    email := none
    phone := none
    status := .active
  }
  modify rm ev :=
    match ev with
    | .partyRegistered e => {
        partyId := e.partyId
        kind := e.kind
        name := e.name
        email := e.contact.email
        phone := e.contact.phone
        status := .active
      }
    | .partyUpdated e =>
      { rm with name := e.name, email := e.contact.email, phone := e.contact.phone }
    | .partySuspended _ => { rm with status := .suspended }

def new : Projection PartyId PartyReadModel :=
  .new "parties.directory"

end PartyDirectoryProjection

structure ProductReadModel where
  productId : ProductId
  sku : String
  name : String
  status : ProductStatus
  pricing : PricingMetadata
  deriving DecidableEq

namespace ProductCatalogProjection

def projection : CursorProjection ProductId ProductReadModel ProductEvent where
  aggregateType := "products.product"
  idName := "product_id"
  id := ProductId.equiv
  tenantOf := ProductEvent.tenantId
  idOf := ProductEvent.productId
  vacant _ ev := {
    productId := ev.productId
    sku := ""
    name := ""
    status := .draft
    pricing := .default
  }
  modify rm ev :=
    match ev with
    | .productCreated e => {
        productId := e.productId
        sku := e.sku
        name := e.name
        status := .draft
        pricing := e.pricing
      }
    | .productActivated _ => { rm with status := .active }
    | .productArchived _ => { rm with status := .archived }

def new : Projection ProductId ProductReadModel :=
  .new "products.catalog"

end ProductCatalogProjection

structure SalesOrderLineReadModel where
  lineNo : UInt32
  productId : ProductId
  quantity : Int64
  unitPrice : UInt64
  deriving DecidableEq

structure SalesOrderReadModel where
  orderId : SalesOrderId
  status : SalesOrderStatus
  lines : List SalesOrderLineReadModel
  deriving DecidableEq

namespace SalesOrdersProjection

def projection : CursorProjection SalesOrderId SalesOrderReadModel SalesOrderEvent where
  aggregateType := "sales.order"
  idName := "order_id"
  id := SalesOrderId.equiv
  tenantOf := SalesOrderEvent.tenantId
  idOf := SalesOrderEvent.orderId
  vacant _ ev := { orderId := ev.orderId, status := .draft, lines := [] }
  modify rm ev :=
    match ev with
    | .salesOrderCreated e => { orderId := e.orderId, status := .draft, lines := [] }
    | .lineAdded e =>
      let line : SalesOrderLineReadModel := {
        lineNo := e.lineNo
        productId := e.productId
        quantity := e.quantity
        unitPrice := e.unitPrice
      }
      { rm with lines := rm.lines ++ [line] }
    | .orderConfirmed _ => { rm with status := .confirmed }
    | .orderInvoiced _ => { rm with status := .invoiced }

def new : Projection SalesOrderId SalesOrderReadModel :=
  .new "sales.orders"

end SalesOrdersProjection

structure PurchaseOrderReadModel where
  orderId : PurchaseOrderId
  supplierId : PartyId
  status : PurchaseOrderStatus
  lines : List LineItem
  deriving DecidableEq

namespace PurchaseOrdersProjection

def projection : CursorProjection PurchaseOrderId PurchaseOrderReadModel PurchaseOrderEvent where
  aggregateType := "purchasing.order"
  idName := "order_id"
  id := PurchaseOrderId.equiv
  tenantOf := PurchaseOrderEvent.tenantId
  idOf := PurchaseOrderEvent.orderId
  vacant fresh ev :=
    -- only a receipt knows the supplier of an order that was never seen
    let supplierId :=
      match ev with
      | .goodsReceived e => e.supplierId
      | _ => ⟨fresh⟩
    { orderId := ev.orderId, supplierId, status := .draft, lines := [] }
  modify rm ev :=
    match ev with
    | .purchaseOrderCreated e =>
      { orderId := e.orderId, supplierId := e.supplierId, status := .draft, lines := [] }
    | .purchaseOrderLineAdded e =>
      let line : LineItem := {
        lineNo := e.lineNo
        productId := e.productId
        quantity := e.quantity
      }
      { rm with lines := rm.lines ++ [line] }
    | .purchaseOrderApproved _ => { rm with status := .approved }
    | .goodsReceived e => { rm with status := .received, lines := e.lines }

def new : Projection PurchaseOrderId PurchaseOrderReadModel :=
  .new "purchasing.orders"

end PurchaseOrdersProjection

structure InvoiceReadModel where
  invoiceId : InvoiceId
  salesOrderId : SalesOrderId
  dueDate : Option DateTime
  status : InvoiceStatus
  totalAmount : UInt64
  totalPaid : UInt64
  lines : List InvoiceLine
  deriving DecidableEq

namespace InvoicesProjection

def projection : CursorProjection InvoiceId InvoiceReadModel InvoiceEvent where
  aggregateType := "invoicing.invoice"
  idName := "invoice_id"
  id := InvoiceId.equiv
  tenantOf := InvoiceEvent.tenantId
  idOf := InvoiceEvent.invoiceId
  vacant fresh ev := {
    invoiceId := ev.invoiceId
    salesOrderId := ⟨fresh⟩
    dueDate := none
    status := .open
    totalAmount := 0
    totalPaid := 0
    lines := []
  }
  modify rm ev :=
    match ev with
    | .invoiceIssued e => {
        invoiceId := e.invoiceId
        salesOrderId := e.salesOrderId
        dueDate := some e.dueDate
        status := .open
        totalAmount := e.totalAmount
        totalPaid := 0
        lines := e.lines
      }
    | .paymentRegistered e =>
      let rm := { rm with totalPaid := e.newTotalPaid }
      if rm.totalPaid ≥ rm.totalAmount then { rm with status := .paid } else rm
    | .invoiceVoided _ => { rm with status := .void }

def new : Projection InvoiceId InvoiceReadModel :=
  .new "invoicing.invoices"

end InvoicesProjection

structure InvoiceAgingReadModel where
  invoiceId : InvoiceId
  totalAmount : UInt64
  outstandingAmount : UInt64
  dueDate : Option DateTime
  status : InvoiceStatus
  deriving DecidableEq

namespace InvoiceAgingProjection

def projection : CursorProjection InvoiceId InvoiceAgingReadModel InvoiceEvent where
  aggregateType := "invoicing.invoice"
  idName := "invoice_id"
  id := InvoiceId.equiv
  tenantOf := InvoiceEvent.tenantId
  idOf := InvoiceEvent.invoiceId
  vacant _ ev := {
    invoiceId := ev.invoiceId
    totalAmount := 0
    outstandingAmount := 0
    dueDate := none
    status := .open
  }
  modify rm ev :=
    match ev with
    | .invoiceIssued e => {
        invoiceId := e.invoiceId
        totalAmount := e.totalAmount
        outstandingAmount := e.totalAmount
        dueDate := some e.dueDate
        status := .open
      }
    | .paymentRegistered e =>
      let newOutstanding :=
        saturatingSub rm.outstandingAmount (min e.amount rm.outstandingAmount)
      let rm := { rm with outstandingAmount := newOutstanding }
      if newOutstanding = 0 then { rm with status := .paid } else rm
    | .invoiceVoided _ => { rm with status := .void }

def new : Projection InvoiceId InvoiceAgingReadModel :=
  .new "invoicing.aging"

end InvoiceAgingProjection

end ForgeErp
