import ForgeErp.Domain.Ids
import ForgeErp.Events.Basic

/-!
This module contains the sales order aggregate.
-/

namespace ForgeErp

inductive SalesOrderStatus where
  | draft
  | confirmed
  | invoiced
  | closed
  deriving DecidableEq, Repr

structure OrderLine where
  lineNo : UInt32
  productId : ProductId
  quantity : Int64
  unitPrice : UInt64
  deriving DecidableEq

structure SalesOrder where
  id : SalesOrderId
  tenantId : Option TenantId
  status : SalesOrderStatus
  lines : List OrderLine
  version : Nat
  created : Bool
  deriving DecidableEq

structure CreateSalesOrder where
  tenantId : TenantId
  orderId : SalesOrderId
  occurredAt : DateTime

structure SalesOrder.AddLine where
  tenantId : TenantId
  orderId : SalesOrderId
  productId : ProductId
  quantity : Int64
  unitPrice : UInt64
  occurredAt : DateTime

structure ConfirmOrder where
  tenantId : TenantId
  orderId : SalesOrderId
  occurredAt : DateTime

structure MarkInvoiced where
  tenantId : TenantId
  orderId : SalesOrderId
  occurredAt : DateTime

inductive SalesOrderCommand where
  | createSalesOrder (cmd : CreateSalesOrder)
  | addLine (cmd : SalesOrder.AddLine)
  | confirmOrder (cmd : ConfirmOrder)
  | markInvoiced (cmd : MarkInvoiced)

structure SalesOrderCreated where
  tenantId : TenantId
  orderId : SalesOrderId
  occurredAt : DateTime
  deriving DecidableEq

structure LineAdded where
  tenantId : TenantId
  orderId : SalesOrderId
  lineNo : UInt32
  productId : ProductId
  quantity : Int64
  unitPrice : UInt64
  occurredAt : DateTime
  deriving DecidableEq

structure OrderConfirmed where
  tenantId : TenantId
  orderId : SalesOrderId
  occurredAt : DateTime
  deriving DecidableEq

structure OrderInvoiced where
  tenantId : TenantId
  orderId : SalesOrderId
  occurredAt : DateTime
  deriving DecidableEq

inductive SalesOrderEvent where
  | salesOrderCreated (e : SalesOrderCreated)
  | lineAdded (e : LineAdded)
  | orderConfirmed (e : OrderConfirmed)
  | orderInvoiced (e : OrderInvoiced)
  deriving DecidableEq

namespace SalesOrderEvent

def tenantId (self : SalesOrderEvent) : TenantId :=
  match self with
  | .salesOrderCreated e => e.tenantId
  | .lineAdded e => e.tenantId
  | .orderConfirmed e => e.tenantId
  | .orderInvoiced e => e.tenantId

def orderId (self : SalesOrderEvent) : SalesOrderId :=
  match self with
  | .salesOrderCreated e => e.orderId
  | .lineAdded e => e.orderId
  | .orderConfirmed e => e.orderId
  | .orderInvoiced e => e.orderId

instance : Event SalesOrderEvent where
  eventType
    | .salesOrderCreated _ => "sales.order.created"
    | .lineAdded _ => "sales.order.line_added"
    | .orderConfirmed _ => "sales.order.confirmed"
    | .orderInvoiced _ => "sales.order.invoiced"
  version _ := 1
  occurredAt
    | .salesOrderCreated e => e.occurredAt
    | .lineAdded e => e.occurredAt
    | .orderConfirmed e => e.occurredAt
    | .orderInvoiced e => e.occurredAt

end SalesOrderEvent

namespace SalesOrder

def empty (id : SalesOrderId) : SalesOrder where
  id
  tenantId := none
  status := .draft
  lines := []
  version := 0
  created := false

def isModifiable (self : SalesOrder) : Bool :=
  self.status == .draft

def isInvoiceAllowed (self : SalesOrder) : Bool :=
  self.status == .confirmed

def apply (self : SalesOrder) (event : SalesOrderEvent) : SalesOrder :=
  let self :=
    match event with
    | .salesOrderCreated e =>
      { self with
        id := e.orderId
        tenantId := some e.tenantId
        status := .draft
        lines := []
        created := true
      }
    | .lineAdded e =>
      let line : OrderLine := {
        lineNo := e.lineNo
        productId := e.productId
        quantity := e.quantity
        unitPrice := e.unitPrice
      }
      { self with lines := self.lines ++ [line] }
    | .orderConfirmed _ => { self with status := .confirmed }
    | .orderInvoiced _ => { self with status := .invoiced }
  { self with version := self.version + 1 }

def ensureTenant (self : SalesOrder) (tenantId : TenantId) : Except DomainError Unit :=
  if !self.created then
    .ok ()
  else if self.tenantId ≠ some tenantId then
    .error (.invariantViolation "tenant mismatch")
  else
    .ok ()

def ensureOrderId (self : SalesOrder) (orderId : SalesOrderId) : Except DomainError Unit :=
  if self.id ≠ orderId then
    .error (.invariantViolation "order_id mismatch")
  else
    .ok ()

def handleCreate (self : SalesOrder) (cmd : CreateSalesOrder)
    : Except DomainError (List SalesOrderEvent) :=
  if self.created then
    .error (.conflict "sales order already exists")
  else
    .ok [.salesOrderCreated {
      tenantId := cmd.tenantId
      orderId := cmd.orderId
      occurredAt := cmd.occurredAt
    }]

def ensureExisting (self : SalesOrder) (tenantId : TenantId) (orderId : SalesOrderId)
    : Except DomainError Unit :=
  if !self.created then
    .error .notFound
  else
    match self.ensureTenant tenantId with
    | .error err => .error err
    | .ok () => self.ensureOrderId orderId

def handleAddLine (self : SalesOrder) (cmd : AddLine) : Except DomainError (List SalesOrderEvent) :=
  match self.ensureExisting cmd.tenantId cmd.orderId with
  | .error err => .error err
  | .ok () =>
    if !self.isModifiable then
      .error (.invariantViolation "cannot modify order once it is confirmed or invoiced")
    else if cmd.quantity ≤ 0 then
      .error (.validation "quantity must be positive")
    else if cmd.unitPrice = 0 then
      .error (.validation "unit_price must be positive")
    else
      let nextLineNo := UInt32.ofNat self.lines.length + 1
      .ok [.lineAdded {
        tenantId := cmd.tenantId
        orderId := cmd.orderId
        lineNo := nextLineNo
        productId := cmd.productId
        quantity := cmd.quantity
        unitPrice := cmd.unitPrice
        occurredAt := cmd.occurredAt
      }]

def handleConfirm (self : SalesOrder) (cmd : ConfirmOrder)
    : Except DomainError (List SalesOrderEvent) :=
  match self.ensureExisting cmd.tenantId cmd.orderId with
  | .error err => .error err
  | .ok () =>
    if self.status ≠ .draft then
      .error (.invariantViolation "only draft orders can be confirmed")
    else if self.lines.isEmpty then
      .error (.validation "cannot confirm order without lines")
    else
      .ok [.orderConfirmed {
        tenantId := cmd.tenantId
        orderId := cmd.orderId
        occurredAt := cmd.occurredAt
      }]

def handleMarkInvoiced (self : SalesOrder) (cmd : MarkInvoiced)
    : Except DomainError (List SalesOrderEvent) :=
  match self.ensureExisting cmd.tenantId cmd.orderId with
  | .error err => .error err
  | .ok () =>
    if !self.isInvoiceAllowed then
      .error (.invariantViolation "cannot invoice order that is not confirmed")
    else
      .ok [.orderInvoiced {
        tenantId := cmd.tenantId
        orderId := cmd.orderId
        occurredAt := cmd.occurredAt
      }]

def handle (self : SalesOrder) (command : SalesOrderCommand)
    : Except DomainError (List SalesOrderEvent) :=
  match command with
  | .createSalesOrder cmd => self.handleCreate cmd
  | .addLine cmd => self.handleAddLine cmd
  | .confirmOrder cmd => self.handleConfirm cmd
  | .markInvoiced cmd => self.handleMarkInvoiced cmd

def aggregate : Aggregate where
  State := SalesOrder
  Command := SalesOrderCommand
  Event := SalesOrderEvent
  apply := apply
  handle := handle

end SalesOrder

section Serde

variable [TextFormat Uuid] [TextFormat DateTime]

instance : Codec SalesOrderCreated where
  enc e := .object [
    ("tenant_id", Codec.enc e.tenantId),
    ("order_id", Codec.enc e.orderId),
    ("occurred_at", Codec.enc e.occurredAt)]
  dec j := do
    let fields ← Codec.record ["tenant_id", "order_id", "occurred_at"] j
    let tenantId ← Codec.field fields "tenant_id"
    let orderId ← Codec.field fields "order_id"
    let occurredAt ← Codec.field fields "occurred_at"
    return { tenantId, orderId, occurredAt }
  dec_enc e := by simp [Codec.record, Codec.field]

instance : Codec LineAdded where
  enc e := .object [
    ("tenant_id", Codec.enc e.tenantId),
    ("order_id", Codec.enc e.orderId),
    ("line_no", Codec.enc e.lineNo),
    ("product_id", Codec.enc e.productId),
    ("quantity", Codec.enc e.quantity),
    ("unit_price", Codec.enc e.unitPrice),
    ("occurred_at", Codec.enc e.occurredAt)]
  dec j := do
    let fields ← Codec.record
      ["tenant_id", "order_id", "line_no", "product_id", "quantity", "unit_price", "occurred_at"] j
    let tenantId ← Codec.field fields "tenant_id"
    let orderId ← Codec.field fields "order_id"
    let lineNo ← Codec.field fields "line_no"
    let productId ← Codec.field fields "product_id"
    let quantity ← Codec.field fields "quantity"
    let unitPrice ← Codec.field fields "unit_price"
    let occurredAt ← Codec.field fields "occurred_at"
    return { tenantId, orderId, lineNo, productId, quantity, unitPrice, occurredAt }
  dec_enc e := by simp [Codec.record, Codec.field]

instance : Codec OrderConfirmed where
  enc e := .object [
    ("tenant_id", Codec.enc e.tenantId),
    ("order_id", Codec.enc e.orderId),
    ("occurred_at", Codec.enc e.occurredAt)]
  dec j := do
    let fields ← Codec.record ["tenant_id", "order_id", "occurred_at"] j
    let tenantId ← Codec.field fields "tenant_id"
    let orderId ← Codec.field fields "order_id"
    let occurredAt ← Codec.field fields "occurred_at"
    return { tenantId, orderId, occurredAt }
  dec_enc e := by simp [Codec.record, Codec.field]

instance : Codec OrderInvoiced where
  enc e := .object [
    ("tenant_id", Codec.enc e.tenantId),
    ("order_id", Codec.enc e.orderId),
    ("occurred_at", Codec.enc e.occurredAt)]
  dec j := do
    let fields ← Codec.record ["tenant_id", "order_id", "occurred_at"] j
    let tenantId ← Codec.field fields "tenant_id"
    let orderId ← Codec.field fields "order_id"
    let occurredAt ← Codec.field fields "occurred_at"
    return { tenantId, orderId, occurredAt }
  dec_enc e := by simp [Codec.record, Codec.field]

instance : Codec SalesOrderEvent where
  enc
    | .salesOrderCreated e => .object [("SalesOrderCreated", Codec.enc e)]
    | .lineAdded e => .object [("LineAdded", Codec.enc e)]
    | .orderConfirmed e => .object [("OrderConfirmed", Codec.enc e)]
    | .orderInvoiced e => .object [("OrderInvoiced", Codec.enc e)]
  dec := Codec.variant [
    ("SalesOrderCreated", fun body => SalesOrderEvent.salesOrderCreated <$> Codec.dec body),
    ("LineAdded", fun body => SalesOrderEvent.lineAdded <$> Codec.dec body),
    ("OrderConfirmed", fun body => SalesOrderEvent.orderConfirmed <$> Codec.dec body),
    ("OrderInvoiced", fun body => SalesOrderEvent.orderInvoiced <$> Codec.dec body)]
  dec_enc e := by cases e <;> simp [Codec.variant]

instance SalesOrder.instEvent : Event SalesOrder.aggregate.Event :=
  inferInstanceAs (Event SalesOrderEvent)

instance SalesOrder.instSerde : Serde SalesOrder.aggregate.Event :=
  inferInstanceAs (Serde SalesOrderEvent)

end Serde

end ForgeErp
