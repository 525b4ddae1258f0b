import ForgeErp.Dispatcher.Calls
import ForgeErp.Library.Program
import ForgeErp.Projections.Impl.Members
import ForgeErp.Projections.Impl.Summaries
import ForgeErp.Projections.Impl.Users

/-!
This module contains the services behind the routes: the read models with the subscriber that keeps
them up to date, and what a route may ask for.
-/

namespace ForgeErp

structure ReadModels where
  inventory : Projection InventoryItemId InventoryReadModel
  parties : Projection PartyId PartyReadModel
  products : Projection ProductId ProductReadModel
  sales : Projection SalesOrderId SalesOrderReadModel
  invoices : Projection InvoiceId InvoiceReadModel
  arAging : Projection InvoiceId InvoiceAgingReadModel
  purchases : Projection PurchaseOrderId PurchaseOrderReadModel
  ledger : ProjectionWith String AccountBalance Unit
  users : UsersProjection

/--
The queries of the routes for a single row.
-/
inductive Query where
  | inventoryGet (tenantId : TenantId) (itemId : InventoryItemId)
  | productsGet (tenantId : TenantId) (productId : ProductId)
  | partiesGet (tenantId : TenantId) (partyId : PartyId)
  | salesGet (tenantId : TenantId) (orderId : SalesOrderId)
  | invoicesGet (tenantId : TenantId) (invoiceId : InvoiceId)
  | purchasesGet (tenantId : TenantId) (orderId : PurchaseOrderId)
  | ledgerBalanceGet (tenantId : TenantId) (code : String)
  | usersGet (tenantId : TenantId) (userId : UserId)
  | usersEffectivePermissions (tenantId : TenantId) (userId : UserId)
      (rolePermissions : String → List String)

namespace Query

def Answer (query : Query) : Type :=
  match query with
  | .inventoryGet _ _ => Option InventoryReadModel
  | .productsGet _ _ => Option ProductReadModel
  | .partiesGet _ _ => Option PartyReadModel
  | .salesGet _ _ => Option SalesOrderReadModel
  | .invoicesGet _ _ => Option InvoiceReadModel
  | .purchasesGet _ _ => Option PurchaseOrderReadModel
  | .ledgerBalanceGet _ _ => Option AccountBalance
  | .usersGet _ _ => Option UserReadModel
  | .usersEffectivePermissions _ _ _ => Option EffectivePermissions

def tenantId (query : Query) : TenantId :=
  match query with
  | .inventoryGet tenantId _ => tenantId
  | .productsGet tenantId _ => tenantId
  | .partiesGet tenantId _ => tenantId
  | .salesGet tenantId _ => tenantId
  | .invoicesGet tenantId _ => tenantId
  | .purchasesGet tenantId _ => tenantId
  | .ledgerBalanceGet tenantId _ => tenantId
  | .usersGet tenantId _ => tenantId
  | .usersEffectivePermissions tenantId _ _ => tenantId

end Query

structure RealtimeMessage where
  tenantId : TenantId
  topic : String
  payload : JsonValue

namespace ReadModels

def new : ReadModels where
  inventory := InventoryStockProjection.new
  parties := PartyDirectoryProjection.new
  products := ProductCatalogProjection.new
  sales := SalesOrdersProjection.new
  invoices := InvoicesProjection.new
  arAging := InvoiceAgingProjection.new
  purchases := PurchaseOrdersProjection.new
  ledger := AccountBalancesProjection.new
  users := .new

def read (self : ReadModels) (query : Query) : query.Answer :=
  match query with
  | .inventoryGet tenantId itemId => self.inventory.store.get tenantId itemId
  | .productsGet tenantId productId => self.products.store.get tenantId productId
  | .partiesGet tenantId partyId => self.parties.store.get tenantId partyId
  | .salesGet tenantId orderId => self.sales.store.get tenantId orderId
  | .invoicesGet tenantId invoiceId => self.invoices.store.get tenantId invoiceId
  | .purchasesGet tenantId orderId => self.purchases.store.get tenantId orderId
  | .ledgerBalanceGet tenantId code => self.ledger.store.get tenantId code
  | .usersGet tenantId userId => self.users.get tenantId userId
  | .usersEffectivePermissions tenantId userId rolePermissions =>
    self.users.effectivePermissions tenantId userId rolePermissions

variable [TextFormat Uuid] [TextFormat DateTime]

/--
The relevant projections for an envelope, and whether they took it. The error itself is only logged.
-/
def applyEnvelope (fresh : AggregateId) (now : DateTime) (self : ReadModels)
    (env : EventEnvelope JsonValue)
    : Bool × ReadModels :=
  match env.aggregateType with
  | "inventory.item" =>
    let (applied, inventory) := InventoryStockProjection.projection.applyEnvelope fresh
      self.inventory env
    (applied.toBool, { self with inventory })
  | "parties.party" =>
    let (applied, parties) := PartyDirectoryProjection.projection.applyEnvelope
      fresh self.parties env
    (applied.toBool, { self with parties })
  | "products.product" =>
    let (applied, products) := ProductCatalogProjection.projection.applyEnvelope fresh
      self.products env
    (applied.toBool, { self with products })
  | "sales.order" =>
    let (applied, sales) := SalesOrdersProjection.projection.applyEnvelope fresh self.sales env
    (applied.toBool, { self with sales })
  | "invoicing.invoice" =>
    match InvoicesProjection.projection.applyEnvelope fresh self.invoices env with
    | (.error _, invoices) => (false, { self with invoices })
    | (.ok (), invoices) =>
      let (applied, arAging) := InvoiceAgingProjection.projection.applyEnvelope
        fresh self.arAging env
      (applied.toBool, { self with invoices, arAging })
  | "purchasing.order" =>
    let (applied, purchases) := PurchaseOrdersProjection.projection.applyEnvelope fresh
      self.purchases env
    (applied.toBool, { self with purchases })
  | "accounting.ledger" =>
    let (applied, ledger) := AccountBalancesProjection.projection.applyEnvelope now self.ledger env
    (applied.toBool, { self with ledger })
  | "auth.user" =>
    let (applied, users) := self.users.applyEnvelope env
    (applied.toBool, { self with users })
  | _ => (true, self)

def projectionUpdated (env : EventEnvelope JsonValue) : RealtimeMessage where
  tenantId := env.tenantId
  topic := env.aggregateType ++ ".projection_updated"
  payload := .object [
    ("kind", .string "projection_update"),
    ("aggregate_type", .string env.aggregateType),
    ("aggregate_id", .string (TextFormat.print env.aggregateId.asUuid)),
    ("sequence_number", .number env.sequenceNumber)]

-- The loop of the subscriber for one envelope, with the message that is broadcast after a success.
def project (fresh : AggregateId) (now : DateTime) (self : ReadModels)
    (env : EventEnvelope JsonValue)
    : List RealtimeMessage × ReadModels :=
  let (applied, self) := self.applyEnvelope fresh now env
  (if applied then [projectionUpdated env] else [], self)

end ReadModels

/--
What a route may ask the services for.
-/
inductive ServiceCall [Lowercase] where
  | dispatch (call : DispatchCall)
  | read (query : Query)

def ServiceCall.Answer [Lowercase] (call : ServiceCall) : Type :=
  match call with
  | .dispatch _ => Except DispatchError (List StoredEvent)
  | .read query => query.Answer

end ForgeErp
