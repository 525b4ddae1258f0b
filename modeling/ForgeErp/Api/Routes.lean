import ForgeErp.Api.Authentication
import ForgeErp.Api.Dto
import Mathlib.Data.List.Sort
import Mathlib.Data.String.Basic

/-!
This module contains the handlers of the routes, as programs that ask the services. Of a request
body only the typed form is kept: what the extractors turn away never reaches a handler.
-/

namespace ForgeErp

-- `DateTime::parse_from_rfc3339`, in UTC
class ParseRfc3339 where
  parseFromRfc3339 : String → Option DateTime

/--
What a handler draws: the `AggregateId::new()` and `Uuid::now_v7()` of the route, the `Utc::now()`
of its commands and the identifiers of their events.
-/
structure Draws where
  agg : AggregateId
  entryId : Uuid
  now : Nat → DateTime
  freshId : Nat → Nat → Uuid

abbrev Handler [Lowercase] : Type :=
  Program ServiceCall ServiceCall.Answer HttpResponse

namespace Routes

variable [TextFormat Uuid] [TextFormat DateTime] [Lowercase] [ResponseText]

section Responses

omit [TextFormat DateTime] [Lowercase]

def committedResponse (status : Nat) (idName : String) (agg : AggregateId)
    (committed : List StoredEvent)
    : HttpResponse where
  status
  text := ResponseText.json (.object
    [(idName, Dto.id agg), ("events_committed", .number committed.length)])

def rowResponse {R : Type} (toJson : R → JsonValue) (notFound : String) (row : Option R)
    : HttpResponse :=
  match row with
  | some rm => ⟨200, ResponseText.json (toJson rm)⟩
  | none => jsonError 404 "not_found" notFound

end Responses

section Frame

omit [TextFormat DateTime]

-- `authorize_command`, `dispatch` and the response
def command (tenant : TenantContext) (principal : PrincipalContext) (required : String)
    (call : DispatchCall) (respond : List StoredEvent → HttpResponse)
    : Handler :=
  match authorizeCommand tenant principal [required] with
  | .error e => .done (jsonError 403 "forbidden" e.toString)
  | .ok () =>
    .ask (.dispatch call) fun result =>
      match result with
      | .error e => .done (dispatchErrorToResponse e)
      | .ok committed => .done (respond committed)

def onPath (id message : String) (next : AggregateId → Handler) : Handler :=
  match TextFormat.parse id with
  | none => .done (jsonError 400 "invalid_id" message)
  | some uuid => next ⟨uuid⟩

end Frame

variable (tenant : TenantContext) (principal : PrincipalContext) (draws : Draws)

namespace Inventory

omit [TextFormat DateTime]

def inventoryCall (agg : AggregateId) (command : InventoryCommand) : DispatchCall where
  kind := .inventoryItem
  key := ⟨tenant.tenantId, agg⟩
  aggregateType := "inventory.item"
  command := command
  freshId := draws.freshId 0

def createItem (body : CreateItemRequest) : Handler :=
  let cmd := .createItem {
    tenantId := tenant.tenantId
    itemId := ⟨draws.agg⟩
    name := body.name
    occurredAt := draws.now 0
  }
  command tenant principal "inventory.items.create" (inventoryCall tenant draws draws.agg cmd)
    (committedResponse 201 "id" draws.agg)

def adjustStock (id : String) (body : AdjustStockRequest) : Handler :=
  onPath id "invalid item id" fun agg =>
    let cmd := .adjustStock {
      tenantId := tenant.tenantId
      itemId := ⟨agg⟩
      delta := body.delta
      occurredAt := draws.now 0
    }
    command tenant principal "inventory.items.adjust" (inventoryCall tenant draws agg cmd)
      fun committed =>
      ⟨200, ResponseText.json (.object [
        ("id", Dto.id agg),
        ("events_committed", .number committed.length),
        ("stream_version", .number ((committed.getLast?.map StoredEvent.sequenceNumber).getD 0))])⟩

def getItem (id : String) : Handler :=
  onPath id "invalid item id" fun agg =>
    .ask (.read (.inventoryGet tenant.tenantId ⟨agg⟩)) fun row =>
      .done (rowResponse Dto.inventoryToJson "item not found" row)

end Inventory

namespace Products

omit [TextFormat DateTime]

def productCall (agg : AggregateId) (command : ProductCommand) : DispatchCall where
  kind := .product
  key := ⟨tenant.tenantId, agg⟩
  aggregateType := "products.product"
  command := command
  freshId := draws.freshId 0

def createProduct (body : CreateProductRequest) : Handler :=
  let cmd := .createProduct {
    tenantId := tenant.tenantId
    productId := ⟨draws.agg⟩
    sku := body.sku
    name := body.name
    pricing := body.pricing
    occurredAt := draws.now 0
  }
  command tenant principal "products.create" (productCall tenant draws draws.agg cmd)
    (committedResponse 201 "id" draws.agg)

def onProduct (id required : String) (cmd : ProductId → ProductCommand) : Handler :=
  onPath id "invalid product id" fun agg =>
    command tenant principal required (productCall tenant draws agg (cmd ⟨agg⟩))
      (committedResponse 200 "id" agg)

def activateProduct (id : String) : Handler :=
  onProduct tenant principal draws id "products.activate"
    (fun productId => .activateProduct ⟨tenant.tenantId, productId, draws.now 0⟩)

def archiveProduct (id : String) : Handler :=
  onProduct tenant principal draws id "products.archive"
    (fun productId => .archiveProduct ⟨tenant.tenantId, productId, draws.now 0⟩)

def getProduct (id : String) : Handler :=
  onPath id "invalid product id" fun agg =>
    .ask (.read (.productsGet tenant.tenantId ⟨agg⟩)) fun row =>
      .done (rowResponse Dto.productToJson "product not found" row)

end Products

-- The same handlers stand in `customers.rs` and `suppliers.rs`, for one kind each.
namespace Parties

omit [TextFormat DateTime]

def partyCall (agg : AggregateId) (command : PartyCommand) : DispatchCall where
  kind := .party
  key := ⟨tenant.tenantId, agg⟩
  aggregateType := "parties.party"
  command := command
  freshId := draws.freshId 0

def registerParty (kind : PartyKind) (perm : String) (body : RegisterPartyRequest) : Handler :=
  let cmd := .registerParty {
    tenantId := tenant.tenantId
    partyId := ⟨draws.agg⟩
    kind
    name := body.name
    contact := body.contact
    occurredAt := draws.now 0
  }
  command tenant principal perm (partyCall tenant draws draws.agg cmd) fun committed =>
    ⟨201, ResponseText.json (.object [
      ("id", Dto.id draws.agg),
      ("kind", .string (Dto.partyKind kind)),
      ("events_committed", .number committed.length)])⟩

-- A party that is known to be of the other kind is not found.
def guardKind (kind : PartyKind) (agg : AggregateId) (next : Handler) : Handler :=
  .ask (.read (.partiesGet tenant.tenantId ⟨agg⟩)) fun row =>
    match (row : Option PartyReadModel) with
    | some rm =>
      if rm.kind ≠ kind then .done (jsonError 404 "not_found" "party not found") else next
    | none => next

def updateParty (id : String) (body : UpdatePartyRequest) (kind : PartyKind) (perm : String)
    : Handler :=
  onPath id "invalid party id" fun agg =>
    guardKind tenant kind agg <|
      let cmd := .updateDetails {
        tenantId := tenant.tenantId
        partyId := ⟨agg⟩
        name := body.name
        contact := body.contact
        occurredAt := draws.now 0
      }
      command tenant principal perm (partyCall tenant draws agg cmd)
        (committedResponse 200 "id" agg)

def suspendParty (id : String) (body : SuspendPartyRequest) (kind : PartyKind) (perm : String)
    : Handler :=
  onPath id "invalid party id" fun agg =>
    guardKind tenant kind agg <|
      let cmd := .suspendParty ⟨tenant.tenantId, ⟨agg⟩, body.reason, draws.now 0⟩
      command tenant principal perm (partyCall tenant draws agg cmd)
        (committedResponse 200 "id" agg)

def getPartyByKind (id : String) (kind : PartyKind) : Handler :=
  onPath id "invalid party id" fun agg =>
    .ask (.read (.partiesGet tenant.tenantId ⟨agg⟩)) fun row =>
      .done (rowResponse Dto.partyToJson "party not found" (row.filter (fun rm => rm.kind = kind)))

end Parties

namespace Customers

omit [TextFormat DateTime]

def registerCustomer (body : RegisterPartyRequest) : Handler :=
  Parties.registerParty tenant principal draws .customer "customers.register" body

def updateCustomer (id : String) (body : UpdatePartyRequest) : Handler :=
  Parties.updateParty tenant principal draws id body .customer "customers.update"

def suspendCustomer (id : String) (body : SuspendPartyRequest) : Handler :=
  Parties.suspendParty tenant principal draws id body .customer "customers.suspend"

def getCustomer (id : String) : Handler :=
  Parties.getPartyByKind tenant id .customer

end Customers

namespace Suppliers

omit [TextFormat DateTime]

def registerSupplier (body : RegisterPartyRequest) : Handler :=
  Parties.registerParty tenant principal draws .supplier "suppliers.register" body

def updateSupplier (id : String) (body : UpdatePartyRequest) : Handler :=
  Parties.updateParty tenant principal draws id body .supplier "suppliers.update"

def suspendSupplier (id : String) (body : SuspendPartyRequest) : Handler :=
  Parties.suspendParty tenant principal draws id body .supplier "suppliers.suspend"

def getSupplier (id : String) : Handler :=
  Parties.getPartyByKind tenant id .supplier

end Suppliers

namespace Sales

omit [TextFormat DateTime]

def salesCall (agg : AggregateId) (command : SalesOrderCommand) : DispatchCall where
  kind := .salesOrder
  key := ⟨tenant.tenantId, agg⟩
  aggregateType := "sales.order"
  command := command
  freshId := draws.freshId 0

def createSalesOrder : Handler :=
  let cmd := .createSalesOrder ⟨tenant.tenantId, ⟨draws.agg⟩, draws.now 0⟩
  command tenant principal "sales.orders.create" (salesCall tenant draws draws.agg cmd)
    (committedResponse 201 "id" draws.agg)

def addSalesOrderLine (id : String) (body : CreateSalesOrderLineRequest) : Handler :=
  onPath id "invalid order id" fun agg =>
    onPath body.productId "invalid product id" fun productAgg =>
      let cmd := .addLine {
        tenantId := tenant.tenantId
        orderId := ⟨agg⟩
        productId := ⟨productAgg⟩
        quantity := body.quantity
        unitPrice := body.unitPrice
        occurredAt := draws.now 0
      }
      command tenant principal "sales.orders.add_line" (salesCall tenant draws agg cmd)
        (committedResponse 200 "id" agg)

def onOrder (id required : String) (cmd : SalesOrderId → SalesOrderCommand) : Handler :=
  onPath id "invalid order id" fun agg =>
    command tenant principal required (salesCall tenant draws agg (cmd ⟨agg⟩))
      (committedResponse 200 "id" agg)

def confirmSalesOrder (id : String) : Handler :=
  onOrder tenant principal draws id "sales.orders.confirm"
    (fun orderId => .confirmOrder ⟨tenant.tenantId, orderId, draws.now 0⟩)

def markSalesOrderInvoiced (id : String) : Handler :=
  onOrder tenant principal draws id "sales.orders.mark_invoiced"
    (fun orderId => .markInvoiced ⟨tenant.tenantId, orderId, draws.now 0⟩)

def getSalesOrder (id : String) : Handler :=
  onPath id "invalid order id" fun agg =>
    .ask (.read (.salesGet tenant.tenantId ⟨agg⟩)) fun row =>
      .done (rowResponse Dto.salesOrderToJson "sales order not found" row)

end Sales

namespace Invoices

omit [TextFormat DateTime]

def invoiceCall (agg : AggregateId) (command : InvoiceCommand) : DispatchCall where
  kind := .invoice
  key := ⟨tenant.tenantId, agg⟩
  aggregateType := "invoicing.invoice"
  command := command
  freshId := draws.freshId 0

-- `none` as soon as a product does not parse. `idx` is an `usize`, cut down to the `u32` of a line.
def issueLines (salesOrderId : SalesOrderId) (idx : Nat) (lines : List CreateSalesOrderLineRequest)
    : Option (List InvoiceLine) :=
  match lines with
  | [] => some []
  | l :: lines =>
    match TextFormat.parse l.productId with
    | none => none
    | some prodAgg =>
      let line : InvoiceLine := {
        lineNo := .ofNat idx + 1
        salesOrderId
        productId := ⟨⟨prodAgg⟩⟩
        quantity := l.quantity
        unitPrice := l.unitPrice
      }
      (issueLines salesOrderId (idx + 1) lines).map (line :: ·)

def issueInvoice [ParseRfc3339] (body : IssueInvoiceRequest) : Handler :=
  onPath body.salesOrderId "invalid sales_order_id" fun salesOrderAgg =>
    match ParseRfc3339.parseFromRfc3339 body.dueDate with
    | none => .done (jsonError 400 "invalid_due_date" "due_date must be RFC3339")
    | some dueDate =>
      match issueLines ⟨salesOrderAgg⟩ 0 body.lines with
      | none => .done (jsonError 400 "invalid_id" "invalid product id")
      | some lines =>
        let cmd := .issueInvoice {
          tenantId := tenant.tenantId
          invoiceId := ⟨draws.agg⟩
          salesOrderId := ⟨salesOrderAgg⟩
          lines
          dueDate
          occurredAt := draws.now 0
        }
        command tenant principal "invoices.issue" (invoiceCall tenant draws draws.agg cmd)
          (committedResponse 201 "id" draws.agg)

def onInvoice (id required : String) (cmd : InvoiceId → InvoiceCommand) : Handler :=
  onPath id "invalid invoice id" fun agg =>
    command tenant principal required (invoiceCall tenant draws agg (cmd ⟨agg⟩))
      (committedResponse 200 "id" agg)

def registerInvoicePayment (id : String) (body : RegisterPaymentRequest) : Handler :=
  onInvoice tenant principal draws id "invoices.pay"
    (fun invoiceId => .registerPayment ⟨tenant.tenantId, invoiceId, body.amount, draws.now 0⟩)

def voidInvoice (id : String) (body : VoidInvoiceRequest) : Handler :=
  onInvoice tenant principal draws id "invoices.void"
    (fun invoiceId => .voidInvoice ⟨tenant.tenantId, invoiceId, body.reason, draws.now 0⟩)

def getInvoice [Rfc3339] (id : String) : Handler :=
  onPath id "invalid invoice id" fun agg =>
    .ask (.read (.invoicesGet tenant.tenantId ⟨agg⟩)) fun row =>
      .done (rowResponse Dto.invoiceToJson "invoice not found" row)

end Invoices

namespace Purchases

omit [TextFormat DateTime]

def purchaseCall (agg : AggregateId) (command : PurchaseOrderCommand) (i : Nat) : DispatchCall where
  kind := .purchaseOrder
  key := ⟨tenant.tenantId, agg⟩
  aggregateType := "purchasing.order"
  command := command
  freshId := draws.freshId i

-- The loop over the lines, where `i` is the number of commands before it.
def addLines (committedTotal i : Nat) (lines : List PurchaseOrderLineRequest) : Handler :=
  match lines with
  | [] =>
    .done ⟨201, ResponseText.json (.object [
      ("id", Dto.id draws.agg),
      ("events_committed", .number committedTotal)])⟩
  | l :: lines =>
    match TextFormat.parse l.productId with
    | none => .done (jsonError 400 "invalid_id" "invalid product id")
    | some prodAgg =>
      let addCmd := .addLine {
        tenantId := tenant.tenantId
        orderId := ⟨draws.agg⟩
        productId := ⟨⟨prodAgg⟩⟩
        quantity := l.quantity
        occurredAt := draws.now i
      }
      match authorizeCommand tenant principal ["purchases.orders.add_line"] with
      | .error e => .done (jsonError 403 "forbidden" e.toString)
      | .ok () =>
        .ask (.dispatch (purchaseCall tenant draws draws.agg addCmd i)) fun result =>
          match result with
          | .error e => .done (dispatchErrorToResponse e)
          | .ok committed => addLines (committedTotal + committed.length) (i + 1) lines

def createPurchaseOrder (body : CreatePurchaseOrderRequest) : Handler :=
  onPath body.supplierId "invalid supplier_id" fun supplierAgg =>
    let cmd := .createPurchaseOrder ⟨tenant.tenantId, ⟨draws.agg⟩, ⟨supplierAgg⟩, draws.now 0⟩
    match authorizeCommand tenant principal ["purchases.orders.create"] with
    | .error e => .done (jsonError 403 "forbidden" e.toString)
    | .ok () =>
      .ask (.dispatch (purchaseCall tenant draws draws.agg cmd 0)) fun result =>
        match result with
        | .error e => .done (dispatchErrorToResponse e)
        | .ok committed => addLines tenant principal draws committed.length 1 body.lines

def addPurchaseOrderLine (id : String) (body : PurchaseOrderLineRequest) : Handler :=
  onPath id "invalid purchase order id" fun agg =>
    onPath body.productId "invalid product id" fun prodAgg =>
      let cmd := .addLine {
        tenantId := tenant.tenantId
        orderId := ⟨agg⟩
        productId := ⟨prodAgg⟩
        quantity := body.quantity
        occurredAt := draws.now 0
      }
      command tenant principal "purchases.orders.add_line" (purchaseCall tenant draws agg cmd 0)
        (committedResponse 200 "id" agg)

def onOrder (id required : String) (cmd : PurchaseOrderId → PurchaseOrderCommand) : Handler :=
  onPath id "invalid purchase order id" fun agg =>
    command tenant principal required (purchaseCall tenant draws agg (cmd ⟨agg⟩) 0)
      (committedResponse 200 "id" agg)

def approvePurchaseOrder (id : String) : Handler :=
  onOrder tenant principal draws id "purchases.orders.approve"
    (fun orderId => .approve ⟨tenant.tenantId, orderId, draws.now 0⟩)

def receivePurchaseOrderGoods (id : String) : Handler :=
  onOrder tenant principal draws id "purchases.orders.receive"
    (fun orderId => .receiveGoods ⟨tenant.tenantId, orderId, draws.now 0⟩)

def getPurchaseOrder (id : String) : Handler :=
  onPath id "invalid purchase order id" fun agg =>
    .ask (.read (.purchasesGet tenant.tenantId ⟨agg⟩)) fun row =>
      .done (rowResponse Dto.purchaseOrderToJson "purchase order not found" row)

end Purchases

namespace LedgerRoutes

omit [TextFormat DateTime]

omit [TextFormat Uuid] in
def getLedgerBalance (code : String) : Handler :=
  .ask (.read (.ledgerBalanceGet tenant.tenantId code)) fun row =>
    .done (rowResponse Dto.ledgerBalanceToJson "account not found" row)

variable (defaultLedgerId : AggregateId)

def postJournalEntry (body : PostJournalEntryRequest) : Handler :=
  if body.lines.isEmpty then
    .done (jsonError 400 "validation" "journal entry must have lines")
  else
    match Dto.toJournalLines body.lines with
    | .error resp => .done resp
    | .ok lines =>
      let cmd : JournalCommand := .postJournalEntry {
        tenantId := tenant.tenantId
        ledgerId := ⟨defaultLedgerId⟩
        entryId := draws.entryId
        lines
        occurredAt := draws.now 0
        description := body.description
      }
      let call : DispatchCall := {
        kind := .ledger
        key := ⟨tenant.tenantId, defaultLedgerId⟩
        aggregateType := "accounting.ledger"
        command := cmd
        freshId := draws.freshId 0
      }
      command tenant principal "ledger.post" call
        (committedResponse 200 "ledger_id" defaultLedgerId)

end LedgerRoutes

namespace AdminRoutes

omit [TextFormat DateTime]

def userCall (agg : AggregateId) (command : UserCommand) : DispatchCall where
  kind := .user
  key := ⟨tenant.tenantId, agg⟩
  aggregateType := "auth.user"
  command := command
  freshId := draws.freshId 0

def createUser (body : CreateUserRequest) : Handler :=
  let initialRoles := (body.initialRoles.getD []).map Role.mk
  let actorIsAdmin := User.hasRole principal.roles "admin"
  let excess := initialRoles.find? fun role =>
    !User.hasRole principal.roles role.asStr && role.asStr != "user"
  match (if actorIsAdmin then none else excess) with
  | some role =>
    let name := role.asStr
    .done (jsonError 403 "privilege_escalation" s!"cannot assign role '{name}' that you don't have")
  | none =>
    let cmd := .create {
      tenantId := tenant.tenantId
      userId := .ofAggregateId draws.agg
      email := body.email
      displayName := body.displayName
      initialRoles
      occurredAt := draws.now 0
    }
    command tenant principal "admin.users.create" (userCall tenant draws draws.agg cmd)
      (committedResponse 201 "id" draws.agg)

-- The response repeats the identifier as it stands in the path.
def onUser (id required : String) (cmd : UserId → UserCommand) : Handler :=
  onPath id "invalid user id" fun agg =>
    command tenant principal required (userCall tenant draws agg (cmd ⟨agg.asUuid⟩))
      fun committed =>
      ⟨200, ResponseText.json (.object [
        ("id", .string id),
        ("events_committed", .number committed.length)])⟩

def assignRole (id : String) (body : AssignRoleRequest) : Handler :=
  onUser tenant principal draws id "admin.users.assign_role"
    (fun userId => .assignRole ⟨tenant.tenantId, userId, ⟨body.role⟩, principal.roles, draws.now 0⟩)

def revokeRole (id role : String) : Handler :=
  onUser tenant principal draws id "admin.users.revoke_role"
    (fun userId => .revokeRole ⟨tenant.tenantId, userId, ⟨role⟩, draws.now 0⟩)

def suspendUser (id : String) (body : SuspendUserRequest) : Handler :=
  let reason := body.reason.getD "No reason provided"
  onUser tenant principal draws id "admin.users.suspend"
    (fun userId => .suspend ⟨tenant.tenantId, userId, reason, draws.now 0⟩)

def activateUser (id : String) : Handler :=
  onUser tenant principal draws id "admin.users.activate"
    (fun userId => .activate ⟨tenant.tenantId, userId, draws.now 0⟩)

-- Both routes that show a user ask for the permission first.
def onReadableUser (id : String) (next : UserId → Handler) : Handler :=
  match authorizeCommand tenant principal ["admin.users.read"] with
  | .error e => .done (jsonError 403 "forbidden" e.toString)
  | .ok () => onPath id "invalid user id" fun agg => next ⟨agg.asUuid⟩

def getUser [Rfc3339] (id : String) : Handler :=
  onReadableUser tenant principal id fun userId =>
    .ask (.read (.usersGet tenant.tenantId userId)) fun row =>
      .done (rowResponse Dto.userToJson "user not found" row)

def effectivePermissionsToJson (effective : EffectivePermissions) : JsonValue :=
  .object [
    ("user_id", .string (TextFormat.print effective.userId.asUuid)),
    ("tenant_id", .string (TextFormat.print effective.tenantId.asUuid)),
    ("roles", .array (effective.roles.map .string)),
    ("permissions", .array ((effective.permissions.insertionSort (· ≤ ·)).map .string))]

def inspectPermissions (id : String) : Handler :=
  onReadableUser tenant principal id fun userId =>
    .ask (.read (.usersEffectivePermissions tenant.tenantId userId defaultRolePermissions))
      fun row => .done (rowResponse effectivePermissionsToJson "user not found" row)

end AdminRoutes

namespace System

omit [TextFormat DateTime]

def whoami : Handler :=
  .done ⟨200, ResponseText.json (.object [
    ("tenant_id", .string (TextFormat.print tenant.tenantId.asUuid)),
    ("principal_id", .string (TextFormat.print principal.principalId)),
    ("roles", .array (principal.roles.map fun r => .string r.asStr))])⟩

end System

end Routes

end ForgeErp
