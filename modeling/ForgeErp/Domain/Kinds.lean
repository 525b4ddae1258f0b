import ForgeErp.Domain.Accounting
import ForgeErp.Domain.Inventory
import ForgeErp.Domain.Invoicing
import ForgeErp.Domain.Parties
import ForgeErp.Domain.Products
import ForgeErp.Domain.Purchasing
import ForgeErp.Domain.Sales
import ForgeErp.Domain.Users

/-!
This module contains the list of the aggregates with the factories the API makes them with and the
identifiers their events carry.
-/

namespace ForgeErp

inductive AggregateKind where
  | inventoryItem
  | invoice
  | ledger
  | user
  | salesOrder
  | purchaseOrder
  | party
  | product
  deriving DecidableEq, Repr

namespace AggregateKind

variable [Lowercase]

def aggregate (kind : AggregateKind) : Aggregate :=
  match kind with
  | .inventoryItem => InventoryItem.aggregate
  | .invoice => Invoice.aggregate
  | .ledger => Ledger.aggregate
  | .user => User.aggregate
  | .salesOrder => SalesOrder.aggregate
  | .purchaseOrder => PurchaseOrder.aggregate
  | .party => Party.aggregate
  | .product => Product.aggregate

def makeAggregate (kind : AggregateKind) (tenantId : TenantId) (id : AggregateId)
    : kind.aggregate.State :=
  match kind with
  | .inventoryItem => InventoryItem.empty ⟨id⟩
  | .invoice => Invoice.empty ⟨id⟩
  | .ledger => Ledger.empty ⟨id⟩
  | .user => User.new tenantId (.ofAggregateId id)
  | .salesOrder => SalesOrder.empty ⟨id⟩
  | .purchaseOrder => PurchaseOrder.empty ⟨id⟩
  | .party => Party.empty ⟨id⟩
  | .product => Product.empty ⟨id⟩

-- `AggregateRoot::version`
def version (kind : AggregateKind) : kind.aggregate.State → Nat :=
  match kind with
  | .inventoryItem => InventoryItem.version
  | .invoice => Invoice.version
  | .ledger => Ledger.version
  | .user => User.version
  | .salesOrder => SalesOrder.version
  | .purchaseOrder => PurchaseOrder.version
  | .party => Party.version
  | .product => Product.version

def tenantOf (kind : AggregateKind) : kind.aggregate.Event → TenantId :=
  match kind with
  | .inventoryItem => InventoryEvent.tenantId
  | .invoice => InvoiceEvent.tenantId
  | .ledger => LedgerEvent.tenantId
  | .user => UserEvent.tenantId
  | .salesOrder => SalesOrderEvent.tenantId
  | .purchaseOrder => PurchaseOrderEvent.tenantId
  | .party => PartyEvent.tenantId
  | .product => ProductEvent.tenantId

def idOf (kind : AggregateKind) : kind.aggregate.Event → AggregateId :=
  match kind with
  | .inventoryItem => fun ev => (InventoryEvent.itemId ev).aggregateId
  | .invoice => fun ev => (InvoiceEvent.invoiceId ev).aggregateId
  | .ledger => fun ev => (LedgerEvent.ledgerId ev).aggregateId
  | .user => fun ev => (UserEvent.userId ev).aggregateId
  | .salesOrder => fun ev => (SalesOrderEvent.orderId ev).aggregateId
  | .purchaseOrder => fun ev => (PurchaseOrderEvent.orderId ev).aggregateId
  | .party => fun ev => (PartyEvent.partyId ev).aggregateId
  | .product => fun ev => (ProductEvent.productId ev).aggregateId

instance instEvent (kind : AggregateKind) : Event kind.aggregate.Event :=
  match kind with
  | .inventoryItem => inferInstanceAs (Event InventoryEvent)
  | .invoice => inferInstanceAs (Event InvoiceEvent)
  | .ledger => inferInstanceAs (Event LedgerEvent)
  | .user => inferInstanceAs (Event UserEvent)
  | .salesOrder => inferInstanceAs (Event SalesOrderEvent)
  | .purchaseOrder => inferInstanceAs (Event PurchaseOrderEvent)
  | .party => inferInstanceAs (Event PartyEvent)
  | .product => inferInstanceAs (Event ProductEvent)

instance instCodec [TextFormat Uuid] [TextFormat DateTime] (kind : AggregateKind)
    : Codec kind.aggregate.Event :=
  match kind with
  | .inventoryItem => inferInstanceAs (Codec InventoryEvent)
  | .invoice => inferInstanceAs (Codec InvoiceEvent)
  | .ledger => inferInstanceAs (Codec LedgerEvent)
  | .user => inferInstanceAs (Codec UserEvent)
  | .salesOrder => inferInstanceAs (Codec SalesOrderEvent)
  | .purchaseOrder => inferInstanceAs (Codec PurchaseOrderEvent)
  | .party => inferInstanceAs (Codec PartyEvent)
  | .product => inferInstanceAs (Codec ProductEvent)

end AggregateKind

end ForgeErp
