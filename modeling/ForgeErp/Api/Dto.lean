import ForgeErp.Api.EventStream
import ForgeErp.Api.Purchases
import ForgeErp.Api.Services

/-!
This module contains the bodies of the requests and the JSON form of the read models. A status is
rendered as `format!("{:?}").to_lowercase()`.
-/

namespace ForgeErp

structure CreateItemRequest where
  name : String

structure CreateProductRequest where
  sku : String
  name : String
  pricing : Option PricingMetadata

structure RegisterPartyRequest where
  name : String
  contact : Option ContactInfo

structure UpdatePartyRequest where
  name : Option String
  contact : Option ContactInfo

structure SuspendPartyRequest where
  reason : Option String

structure CreateSalesOrderLineRequest where
  productId : String
  quantity : Int64
  unitPrice : UInt64

structure IssueInvoiceRequest where
  salesOrderId : String
  dueDate : String
  lines : List CreateSalesOrderLineRequest

structure RegisterPaymentRequest where
  amount : UInt64

structure VoidInvoiceRequest where
  reason : Option String

structure CreateLedgerLineRequest where
  accountCode : String
  accountName : String
  kind : String
  amount : Int64
  isDebit : Bool

structure PostJournalEntryRequest where
  description : Option String
  lines : List CreateLedgerLineRequest

namespace Dto

variable [TextFormat Uuid]

def id (agg : AggregateId) : JsonValue :=
  .string (TextFormat.print agg.asUuid)

def optional (text : Option String) : JsonValue :=
  match text with
  | some text => .string text
  | none => .null

def inventoryToJson (rm : InventoryReadModel) : JsonValue :=
  .object [("id", id rm.itemId.aggregateId), ("name", .string rm.name),
    ("quantity", .number rm.quantity.toInt)]

def productStatus (status : ProductStatus) : String :=
  match status with
  | .draft => "draft"
  | .active => "active"
  | .archived => "archived"

def productToJson (rm : ProductReadModel) : JsonValue :=
  .object [
    ("id", id rm.productId.aggregateId),
    ("sku", .string rm.sku),
    ("name", .string rm.name),
    ("status", .string (productStatus rm.status)),
    ("pricing", .object [
      ("base_price", match rm.pricing.basePrice with
        | some price => .number price.toNat
        | none => .null),
      ("currency", optional rm.pricing.currency)])]

def partyKind (kind : PartyKind) : String :=
  match kind with
  | .customer => "customer"
  | .supplier => "supplier"

def partyStatus (status : PartyStatus) : String :=
  match status with
  | .active => "active"
  | .suspended => "suspended"

def partyToJson (rm : PartyReadModel) : JsonValue :=
  .object [
    ("id", id rm.partyId.aggregateId),
    ("kind", .string (partyKind rm.kind)),
    ("name", .string rm.name),
    ("email", optional rm.email),
    ("phone", optional rm.phone),
    ("status", .string (partyStatus rm.status))]

def salesOrderStatus (status : SalesOrderStatus) : String :=
  match status with
  | .draft => "draft"
  | .confirmed => "confirmed"
  | .invoiced => "invoiced"
  | .closed => "closed"

def salesOrderToJson (rm : SalesOrderReadModel) : JsonValue :=
  .object [
    ("id", id rm.orderId.aggregateId),
    ("status", .string (salesOrderStatus rm.status)),
    ("lines", .array (rm.lines.map fun l => .object [
      ("line_no", .number l.lineNo.toNat),
      ("product_id", id l.productId.aggregateId),
      ("quantity", .number l.quantity.toInt),
      ("unit_price", .number l.unitPrice.toNat)]))]

def invoiceStatus (status : InvoiceStatus) : String :=
  match status with
  | .open => "open"
  | .paid => "paid"
  | .void => "void"

def invoiceToJson [Rfc3339] (rm : InvoiceReadModel) : JsonValue :=
  .object [
    ("id", id rm.invoiceId.aggregateId),
    ("sales_order_id", id rm.salesOrderId.aggregateId),
    ("status", .string (invoiceStatus rm.status)),
    ("due_date", optional (rm.dueDate.map Rfc3339.toRfc3339)),
    ("total_amount", .number rm.totalAmount.toNat),
    ("total_paid", .number rm.totalPaid.toNat),
    ("outstanding_amount", .number (saturatingSub rm.totalAmount rm.totalPaid).toNat),
    ("lines", .array (rm.lines.map fun l => .object [
      ("line_no", .number l.lineNo.toNat),
      ("product_id", id l.productId.aggregateId),
      ("quantity", .number l.quantity.toInt),
      ("unit_price", .number l.unitPrice.toNat)]))]

def purchaseOrderStatus (status : PurchaseOrderStatus) : String :=
  match status with
  | .draft => "draft"
  | .approved => "approved"
  | .received => "received"
  | .closed => "closed"

def purchaseOrderToJson (rm : PurchaseOrderReadModel) : JsonValue :=
  .object [
    ("id", id rm.orderId.aggregateId),
    ("supplier_id", id rm.supplierId.aggregateId),
    ("status", .string (purchaseOrderStatus rm.status)),
    ("lines", .array (rm.lines.map fun l => .object [
      ("line_no", .number l.lineNo.toNat),
      ("product_id", id l.productId.aggregateId),
      ("quantity", .number l.quantity.toInt)]))]

def accountKind (kind : AccountKind) : String :=
  match kind with
  | .asset => "asset"
  | .liability => "liability"
  | .equity => "equity"
  | .revenue => "revenue"
  | .expense => "expense"

def ledgerBalanceToJson (b : AccountBalance) : JsonValue :=
  .object [
    ("account_code", .string b.accountCode),
    ("account_name", .string b.accountName),
    ("kind", .string (accountKind b.kind)),
    ("balance", .string (toString b.balance))]

def userToJson [Rfc3339] (user : UserReadModel) : JsonValue :=
  .object [
    ("id", .string (TextFormat.print user.userId.asUuid)),
    ("tenant_id", .string (TextFormat.print user.tenantId.asUuid)),
    ("email", .string user.email),
    ("display_name", .string user.displayName),
    ("roles", .array (user.roles.map .string)),
    ("status", .string user.status),
    ("created_at", .string (Rfc3339.toRfc3339 user.createdAt)),
    ("updated_at", .string (Rfc3339.toRfc3339 user.updatedAt))]

omit [TextFormat Uuid]

variable [Lowercase] [ResponseText]

def parseAccountKind (s : String) : Except HttpResponse AccountKind :=
  match Lowercase.toLowercase s with
  | "asset" => .ok .asset
  | "liability" => .ok .liability
  | "equity" => .ok .equity
  | "revenue" => .ok .revenue
  | "expense" => .ok .expense
  | _ => .error (jsonError 400 "invalid_account_kind"
      "kind must be one of: asset, liability, equity, revenue, expense")

def toJournalLines (reqLines : List CreateLedgerLineRequest)
    : Except HttpResponse (List JournalEntryLine) :=
  match reqLines with
  | [] => .ok []
  | l :: reqLines =>
    match parseAccountKind l.kind with
    | .error resp => .error resp
    | .ok kind =>
      let line : JournalEntryLine := {
        account := { code := l.accountCode, name := l.accountName, kind }
        amount := l.amount
        isDebit := l.isDebit
      }
      (toJournalLines reqLines).map (line :: ·)

end Dto

end ForgeErp
