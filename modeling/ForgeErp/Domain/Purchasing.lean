import ForgeErp.Domain.Ids
import ForgeErp.Events.Basic

/-!
This module contains the purchase order aggregate.
-/

namespace ForgeErp

inductive PurchaseOrderStatus where
  | draft
  | approved
  | received
  | closed
  deriving DecidableEq, Repr

structure LineItem where
  lineNo : UInt32
  productId : ProductId
  quantity : Int64
  deriving DecidableEq

structure PurchaseOrder where
  id : PurchaseOrderId
  tenantId : Option TenantId
  supplierId : Option PartyId
  status : PurchaseOrderStatus
  lines : List LineItem
  version : Nat
  created : Bool
  deriving DecidableEq

structure CreatePurchaseOrder where
  tenantId : TenantId
  orderId : PurchaseOrderId
  supplierId : PartyId
  occurredAt : DateTime

structure Approve where
  tenantId : TenantId
  orderId : PurchaseOrderId
  occurredAt : DateTime

structure PurchaseOrder.AddLine where
  tenantId : TenantId
  orderId : PurchaseOrderId
  productId : ProductId
  quantity : Int64
  occurredAt : DateTime

structure ReceiveGoods where
  tenantId : TenantId
  orderId : PurchaseOrderId
  occurredAt : DateTime

inductive PurchaseOrderCommand where
  | createPurchaseOrder (cmd : CreatePurchaseOrder)
  | addLine (cmd : PurchaseOrder.AddLine)
  | approve (cmd : Approve)
  | receiveGoods (cmd : ReceiveGoods)

structure PurchaseOrderCreated where
  tenantId : TenantId
  orderId : PurchaseOrderId
  supplierId : PartyId
  occurredAt : DateTime
  deriving DecidableEq

structure PurchaseOrderApproved where
  tenantId : TenantId
  orderId : PurchaseOrderId
  occurredAt : DateTime
  deriving DecidableEq

structure PurchaseOrderLineAdded where
  tenantId : TenantId
  orderId : PurchaseOrderId
  lineNo : UInt32
  productId : ProductId
  quantity : Int64
  occurredAt : DateTime
  deriving DecidableEq

structure GoodsReceived where
  tenantId : TenantId
  orderId : PurchaseOrderId
  supplierId : PartyId
  lines : List LineItem
  occurredAt : DateTime
  deriving DecidableEq

inductive PurchaseOrderEvent where
  | purchaseOrderCreated (e : PurchaseOrderCreated)
  | purchaseOrderLineAdded (e : PurchaseOrderLineAdded)
  | purchaseOrderApproved (e : PurchaseOrderApproved)
  | goodsReceived (e : GoodsReceived)
  deriving DecidableEq

namespace PurchaseOrderEvent

def tenantId (self : PurchaseOrderEvent) : TenantId :=
  match self with
  | .purchaseOrderCreated e => e.tenantId
  | .purchaseOrderLineAdded e => e.tenantId
  | .purchaseOrderApproved e => e.tenantId
  | .goodsReceived e => e.tenantId

def orderId (self : PurchaseOrderEvent) : PurchaseOrderId :=
  match self with
  | .purchaseOrderCreated e => e.orderId
  | .purchaseOrderLineAdded e => e.orderId
  | .purchaseOrderApproved e => e.orderId
  | .goodsReceived e => e.orderId

instance : Event PurchaseOrderEvent where
  eventType
    | .purchaseOrderCreated _ => "purchasing.order.created"
    | .purchaseOrderLineAdded _ => "purchasing.order.line_added"
    | .purchaseOrderApproved _ => "purchasing.order.approved"
    | .goodsReceived _ => "purchasing.order.goods_received"
  version _ := 1
  occurredAt
    | .purchaseOrderCreated e => e.occurredAt
    | .purchaseOrderLineAdded e => e.occurredAt
    | .purchaseOrderApproved e => e.occurredAt
    | .goodsReceived e => e.occurredAt

end PurchaseOrderEvent

namespace PurchaseOrder

def empty (id : PurchaseOrderId) : PurchaseOrder where
  id
  tenantId := none
  supplierId := none
  status := .draft
  lines := []
  version := 0
  created := false

def apply (self : PurchaseOrder) (event : PurchaseOrderEvent) : PurchaseOrder :=
  let self :=
    match event with
    | .purchaseOrderCreated e =>
      { self with
        id := e.orderId
        tenantId := some e.tenantId
        supplierId := some e.supplierId
        status := .draft
        lines := []
        created := true
      }
    | .purchaseOrderLineAdded e =>
      let line : LineItem := {
        lineNo := e.lineNo
        productId := e.productId
        quantity := e.quantity
      }
      { self with lines := self.lines ++ [line] }
    | .purchaseOrderApproved _ => { self with status := .approved }
    | .goodsReceived e => { self with lines := e.lines, status := .received }
  { self with version := self.version + 1 }

def ensureTenant (self : PurchaseOrder) (tenantId : TenantId) : Except DomainError Unit :=
  if !self.created then
    .ok ()
  else if self.tenantId ≠ some tenantId then
    .error (.invariantViolation "tenant mismatch")
  else
    .ok ()

def ensureOrderId (self : PurchaseOrder) (orderId : PurchaseOrderId) : Except DomainError Unit :=
  if self.id ≠ orderId then
    .error (.invariantViolation "order_id mismatch")
  else
    .ok ()

def handleCreate (self : PurchaseOrder) (cmd : CreatePurchaseOrder)
    : Except DomainError (List PurchaseOrderEvent) :=
  if self.created then
    .error (.conflict "purchase order already exists")
  else
    .ok [.purchaseOrderCreated {
      tenantId := cmd.tenantId
      orderId := cmd.orderId
      supplierId := cmd.supplierId
      occurredAt := cmd.occurredAt
    }]

def ensureExisting (self : PurchaseOrder) (tenantId : TenantId) (orderId : PurchaseOrderId)
    : Except DomainError Unit :=
  if !self.created then
    .error .notFound
  else
    match self.ensureTenant tenantId with
    | .error err => .error err
    | .ok () => self.ensureOrderId orderId

def handleApprove (self : PurchaseOrder) (cmd : Approve)
    : Except DomainError (List PurchaseOrderEvent) :=
  match self.ensureExisting cmd.tenantId cmd.orderId with
  | .error err => .error err
  | .ok () =>
    if self.status ≠ .draft then
      .error (.invariantViolation "only draft purchase orders can be approved")
    else if self.lines.isEmpty then
      .error (.validation "cannot approve purchase order without lines")
    else
      .ok [.purchaseOrderApproved {
        tenantId := cmd.tenantId
        orderId := cmd.orderId
        occurredAt := cmd.occurredAt
      }]

def handleAddLine (self : PurchaseOrder) (cmd : AddLine)
    : Except DomainError (List PurchaseOrderEvent) :=
  match self.ensureExisting cmd.tenantId cmd.orderId with
  | .error err => .error err
  | .ok () =>
    if self.status ≠ .draft then
      .error (.invariantViolation "cannot modify purchase order once approved or received")
    else if cmd.quantity ≤ 0 then
      .error (.validation "quantity must be positive")
    else
      let nextLineNo := UInt32.ofNat self.lines.length + 1
      .ok [.purchaseOrderLineAdded {
        tenantId := cmd.tenantId
        orderId := cmd.orderId
        lineNo := nextLineNo
        productId := cmd.productId
        quantity := cmd.quantity
        occurredAt := cmd.occurredAt
      }]

def handleReceive (self : PurchaseOrder) (cmd : ReceiveGoods)
    : Except DomainError (List PurchaseOrderEvent) :=
  match self.ensureExisting cmd.tenantId cmd.orderId with
  | .error err => .error err
  | .ok () =>
    if self.status ≠ .approved then
      .error (.invariantViolation "cannot receive goods before purchase order is approved")
    else
      match self.supplierId with
      | none => .error (.invariantViolation "supplier must be set")
      | some supplierId =>
        if self.lines.isEmpty then
          .error (.validation "cannot receive goods for empty purchase order")
        else
          .ok [.goodsReceived {
            tenantId := cmd.tenantId
            orderId := cmd.orderId
            supplierId
            lines := self.lines
            occurredAt := cmd.occurredAt
          }]

def handle (self : PurchaseOrder) (command : PurchaseOrderCommand)
    : Except DomainError (List PurchaseOrderEvent) :=
  match command with
  | .createPurchaseOrder cmd => self.handleCreate cmd
  | .addLine cmd => self.handleAddLine cmd
  | .approve cmd => self.handleApprove cmd
  | .receiveGoods cmd => self.handleReceive cmd

def aggregate : Aggregate where
  State := PurchaseOrder
  Command := PurchaseOrderCommand
  Event := PurchaseOrderEvent
  apply := apply
  handle := handle

end PurchaseOrder

section Serde

variable [TextFormat Uuid] [TextFormat DateTime]

instance : Codec LineItem where
  enc e := .object [
    ("line_no", Codec.enc e.lineNo),
    ("product_id", Codec.enc e.productId),
    ("quantity", Codec.enc e.quantity)]
  dec j := do
    let fields ← Codec.record ["line_no", "product_id", "quantity"] j
    let lineNo ← Codec.field fields "line_no"
    let productId ← Codec.field fields "product_id"
    let quantity ← Codec.field fields "quantity"
    return { lineNo, productId, quantity }
  dec_enc e := by simp [Codec.record, Codec.field]

instance : Codec PurchaseOrderCreated where
  enc e := .object [
    ("tenant_id", Codec.enc e.tenantId),
    ("order_id", Codec.enc e.orderId),
    ("supplier_id", Codec.enc e.supplierId),
    ("occurred_at", Codec.enc e.occurredAt)]
  dec j := do
    let fields ← Codec.record ["tenant_id", "order_id", "supplier_id", "occurred_at"] j
    let tenantId ← Codec.field fields "tenant_id"
    let orderId ← Codec.field fields "order_id"
    let supplierId ← Codec.field fields "supplier_id"
    let occurredAt ← Codec.field fields "occurred_at"
    return { tenantId, orderId, supplierId, occurredAt }
  dec_enc e := by simp [Codec.record, Codec.field]

instance : Codec PurchaseOrderApproved where
  enc e := .object [
    ("tenant_id", Codec.enc e.tenantId),
    ("order_id", Codec.enc e.orderId),
    ("occurred_at", Codec.enc e.occurredAt)]
  dec j := do
    let fields ← Codec.record ["tenant_id", "order_id", "occurred_at"] j
    let tenantId ← Codec.field fields "tenant_id"
    let orderId ← Codec.field fields "order_id"
    let occurredAt ← Codec.field fields "occurred_at"
    return { tenantId, orderId, occurredAt }
  dec_enc e := by simp [Codec.record, Codec.field]

instance : Codec PurchaseOrderLineAdded where
  enc e := .object [
    ("tenant_id", Codec.enc e.tenantId),
    ("order_id", Codec.enc e.orderId),
    ("line_no", Codec.enc e.lineNo),
    ("product_id", Codec.enc e.productId),
    ("quantity", Codec.enc e.quantity),
    ("occurred_at", Codec.enc e.occurredAt)]
  dec j := do
    let fields ← Codec.record
      ["tenant_id", "order_id", "line_no", "product_id", "quantity", "occurred_at"] j
    let tenantId ← Codec.field fields "tenant_id"
    let orderId ← Codec.field fields "order_id"
    let lineNo ← Codec.field fields "line_no"
    let productId ← Codec.field fields "product_id"
    let quantity ← Codec.field fields "quantity"
    let occurredAt ← Codec.field fields "occurred_at"
    return { tenantId, orderId, lineNo, productId, quantity, occurredAt }
  dec_enc e := by simp [Codec.record, Codec.field]

instance : Codec GoodsReceived where
  enc e := .object [
    ("tenant_id", Codec.enc e.tenantId),
    ("order_id", Codec.enc e.orderId),
    ("supplier_id", Codec.enc e.supplierId),
    ("lines", Codec.enc e.lines),
    ("occurred_at", Codec.enc e.occurredAt)]
  dec j := do
    let fields ← Codec.record ["tenant_id", "order_id", "supplier_id", "lines", "occurred_at"] j
    let tenantId ← Codec.field fields "tenant_id"
    let orderId ← Codec.field fields "order_id"
    let supplierId ← Codec.field fields "supplier_id"
    let lines ← Codec.field fields "lines"
    let occurredAt ← Codec.field fields "occurred_at"
    return { tenantId, orderId, supplierId, lines, occurredAt }
  dec_enc e := by simp [Codec.record, Codec.field]

instance : Codec PurchaseOrderEvent where
  enc
    | .purchaseOrderCreated e => .object [("PurchaseOrderCreated", Codec.enc e)]
    | .purchaseOrderLineAdded e => .object [("PurchaseOrderLineAdded", Codec.enc e)]
    | .purchaseOrderApproved e => .object [("PurchaseOrderApproved", Codec.enc e)]
    | .goodsReceived e => .object [("GoodsReceived", Codec.enc e)]
  dec := Codec.variant [
    ("PurchaseOrderCreated", fun body => PurchaseOrderEvent.purchaseOrderCreated
      <$> Codec.dec body),
    ("PurchaseOrderLineAdded", fun body => PurchaseOrderEvent.purchaseOrderLineAdded
      <$> Codec.dec body),
    ("PurchaseOrderApproved", fun body => PurchaseOrderEvent.purchaseOrderApproved
      <$> Codec.dec body),
    ("GoodsReceived", fun body => PurchaseOrderEvent.goodsReceived <$> Codec.dec body)]
  dec_enc e := by cases e <;> simp [Codec.variant]

instance PurchaseOrder.instEvent : Event PurchaseOrder.aggregate.Event :=
  inferInstanceAs (Event PurchaseOrderEvent)

instance PurchaseOrder.instSerde : Serde PurchaseOrder.aggregate.Event :=
  inferInstanceAs (Serde PurchaseOrderEvent)

end Serde

end ForgeErp
