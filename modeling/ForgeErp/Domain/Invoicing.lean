import ForgeErp.Domain.Ids
import ForgeErp.Events.Basic

/-!
This module contains the invoice aggregate. A line total is an `i128`, its contribution to the
invoice total is cut down to a `u64`.
-/

namespace ForgeErp

inductive InvoiceStatus where
  | open
  | paid
  | void
  deriving DecidableEq, Repr

structure InvoiceLine where
  lineNo : UInt32
  salesOrderId : SalesOrderId
  productId : ProductId
  quantity : Int64
  unitPrice : UInt64
  deriving DecidableEq

structure Invoice where
  id : InvoiceId
  tenantId : Option TenantId
  status : InvoiceStatus
  lines : List InvoiceLine
  dueDate : Option DateTime
  totalAmount : UInt64
  totalPaid : UInt64
  version : Nat
  created : Bool
  deriving DecidableEq

structure IssueInvoice where
  tenantId : TenantId
  invoiceId : InvoiceId
  salesOrderId : SalesOrderId
  lines : List InvoiceLine
  dueDate : DateTime
  occurredAt : DateTime

structure RegisterPayment where
  tenantId : TenantId
  invoiceId : InvoiceId
  amount : UInt64
  occurredAt : DateTime

structure VoidInvoice where
  tenantId : TenantId
  invoiceId : InvoiceId
  reason : Option String
  occurredAt : DateTime

inductive InvoiceCommand where
  | issueInvoice (cmd : IssueInvoice)
  | registerPayment (cmd : RegisterPayment)
  | voidInvoice (cmd : VoidInvoice)

structure InvoiceIssued where
  tenantId : TenantId
  invoiceId : InvoiceId
  salesOrderId : SalesOrderId
  lines : List InvoiceLine
  dueDate : DateTime
  totalAmount : UInt64
  occurredAt : DateTime
  deriving DecidableEq

structure PaymentRegistered where
  tenantId : TenantId
  invoiceId : InvoiceId
  amount : UInt64
  newTotalPaid : UInt64
  occurredAt : DateTime
  deriving DecidableEq

structure InvoiceVoided where
  tenantId : TenantId
  invoiceId : InvoiceId
  reason : Option String
  occurredAt : DateTime
  deriving DecidableEq

inductive InvoiceEvent where
  | invoiceIssued (e : InvoiceIssued)
  | paymentRegistered (e : PaymentRegistered)
  | invoiceVoided (e : InvoiceVoided)
  deriving DecidableEq

namespace InvoiceEvent

def tenantId (self : InvoiceEvent) : TenantId :=
  match self with
  | .invoiceIssued e => e.tenantId
  | .paymentRegistered e => e.tenantId
  | .invoiceVoided e => e.tenantId

def invoiceId (self : InvoiceEvent) : InvoiceId :=
  match self with
  | .invoiceIssued e => e.invoiceId
  | .paymentRegistered e => e.invoiceId
  | .invoiceVoided e => e.invoiceId

instance : Event InvoiceEvent where
  eventType
    | .invoiceIssued _ => "invoicing.invoice.issued"
    | .paymentRegistered _ => "invoicing.invoice.payment_registered"
    | .invoiceVoided _ => "invoicing.invoice.voided"
  version _ := 1
  occurredAt
    | .invoiceIssued e => e.occurredAt
    | .paymentRegistered e => e.occurredAt
    | .invoiceVoided e => e.occurredAt

end InvoiceEvent

-- `u64::saturating_sub`
def saturatingSub (a b : UInt64) : UInt64 :=
  if a ≤ b then 0 else a - b

-- `u64::checked_add`
def checkedAdd (a b : UInt64) : Option UInt64 :=
  if a.toNat + b.toNat < 2 ^ 64 then some (a + b) else none

-- `i128::checked_mul`
def checkedMulI128 (a b : Int) : Option Int :=
  if -(2 ^ 127) ≤ a * b ∧ a * b < 2 ^ 127 then some (a * b) else none

namespace Invoice

def empty (id : InvoiceId) : Invoice where
  id
  tenantId := none
  status := .open
  lines := []
  dueDate := none
  totalAmount := 0
  totalPaid := 0
  version := 0
  created := false

def outstandingAmount (self : Invoice) : UInt64 :=
  saturatingSub self.totalAmount self.totalPaid

def canAcceptPayment (self : Invoice) : Bool :=
  self.status ≠ .void && self.outstandingAmount > 0

def apply (self : Invoice) (event : InvoiceEvent) : Invoice :=
  let self :=
    match event with
    | .invoiceIssued e =>
      { self with
        id := e.invoiceId
        tenantId := some e.tenantId
        lines := e.lines
        dueDate := some e.dueDate
        totalAmount := e.totalAmount
        totalPaid := 0
        status := .open
        created := true
      }
    | .paymentRegistered e =>
      let self := { self with totalPaid := e.newTotalPaid }
      if self.totalPaid ≥ self.totalAmount then { self with status := .paid } else self
    | .invoiceVoided _ => { self with status := .void }
  { self with version := self.version + 1 }

def ensureTenant (self : Invoice) (tenantId : TenantId) : Except DomainError Unit :=
  if !self.created then
    .ok ()
  else if self.tenantId ≠ some tenantId then
    .error (.invariantViolation "tenant mismatch")
  else
    .ok ()

def ensureInvoiceId (self : Invoice) (invoiceId : InvoiceId) : Except DomainError Unit :=
  if self.id ≠ invoiceId then
    .error (.invariantViolation "invoice_id mismatch")
  else
    .ok ()

-- The loop over the lines of `handle_issue`, from a running total.
def sumLines (total : UInt64) (lines : List InvoiceLine) : Except DomainError UInt64 :=
  match lines with
  | [] => .ok total
  | line :: lines =>
    if line.quantity ≤ 0 then
      .error (.validation "invoice line quantity must be positive")
    else if line.unitPrice = 0 then
      .error (.validation "invoice line unit_price must be positive")
    else
      match checkedMulI128 line.quantity.toInt line.unitPrice.toNat with
      | none => .error (.invariantViolation "invoice line amount overflow")
      | some lineTotal =>
        if lineTotal ≤ 0 then
          .error (.invariantViolation "invoice line total must be positive")
        else
          match checkedAdd total (UInt64.ofInt lineTotal) with
          | none => .error (.invariantViolation "invoice total overflow")
          | some total => sumLines total lines

def handleIssue (self : Invoice) (cmd : IssueInvoice) : Except DomainError (List InvoiceEvent) :=
  if self.created then
    .error (.conflict "invoice already exists")
  else if cmd.lines.isEmpty then
    .error (.validation "cannot issue invoice without lines")
  else
    match sumLines 0 cmd.lines with
    | .error err => .error err
    | .ok total =>
      .ok [.invoiceIssued {
        tenantId := cmd.tenantId
        invoiceId := cmd.invoiceId
        salesOrderId := cmd.salesOrderId
        lines := cmd.lines
        dueDate := cmd.dueDate
        totalAmount := total
        occurredAt := cmd.occurredAt
      }]

def ensureExisting (self : Invoice) (tenantId : TenantId) (invoiceId : InvoiceId)
    : Except DomainError Unit :=
  if !self.created then
    .error .notFound
  else
    match self.ensureTenant tenantId with
    | .error err => .error err
    | .ok () => self.ensureInvoiceId invoiceId

def handleRegisterPayment (self : Invoice) (cmd : RegisterPayment)
    : Except DomainError (List InvoiceEvent) :=
  match self.ensureExisting cmd.tenantId cmd.invoiceId with
  | .error err => .error err
  | .ok () =>
    if !self.canAcceptPayment then
      .error (.invariantViolation "cannot register payment on void or fully paid invoice")
    else if cmd.amount = 0 then
      .error (.validation "payment amount must be positive")
    else
      match checkedAdd self.totalPaid cmd.amount with
      | none => .error (.invariantViolation "payment total overflow")
      | some newTotalPaid =>
        if newTotalPaid > self.totalAmount then
          .error (.invariantViolation "cannot overpay invoice")
        else
          .ok [.paymentRegistered {
            tenantId := cmd.tenantId
            invoiceId := cmd.invoiceId
            amount := cmd.amount
            newTotalPaid
            occurredAt := cmd.occurredAt
          }]

def handleVoid (self : Invoice) (cmd : VoidInvoice) : Except DomainError (List InvoiceEvent) :=
  match self.ensureExisting cmd.tenantId cmd.invoiceId with
  | .error err => .error err
  | .ok () =>
    if self.status = .void then
      .error (.conflict "invoice is already void")
    else
      .ok [.invoiceVoided {
        tenantId := cmd.tenantId
        invoiceId := cmd.invoiceId
        reason := cmd.reason
        occurredAt := cmd.occurredAt
      }]

def handle (self : Invoice) (command : InvoiceCommand) : Except DomainError (List InvoiceEvent) :=
  match command with
  | .issueInvoice cmd => self.handleIssue cmd
  | .registerPayment cmd => self.handleRegisterPayment cmd
  | .voidInvoice cmd => self.handleVoid cmd

def aggregate : Aggregate where
  State := Invoice
  Command := InvoiceCommand
  Event := InvoiceEvent
  apply := apply
  handle := handle

end Invoice

section Serde

variable [TextFormat Uuid] [TextFormat DateTime]

instance : Codec InvoiceLine where
  enc e := .object [
    ("line_no", Codec.enc e.lineNo),
    ("sales_order_id", Codec.enc e.salesOrderId),
    ("product_id", Codec.enc e.productId),
    ("quantity", Codec.enc e.quantity),
    ("unit_price", Codec.enc e.unitPrice)]
  dec j := do
    let fields ← Codec.record
      ["line_no", "sales_order_id", "product_id", "quantity", "unit_price"] j
    let lineNo ← Codec.field fields "line_no"
    let salesOrderId ← Codec.field fields "sales_order_id"
    let productId ← Codec.field fields "product_id"
    let quantity ← Codec.field fields "quantity"
    let unitPrice ← Codec.field fields "unit_price"
    return { lineNo, salesOrderId, productId, quantity, unitPrice }
  dec_enc e := by simp [Codec.record, Codec.field]

instance : Codec IssueInvoice where
  enc cmd := .object [
    ("tenant_id", Codec.enc cmd.tenantId),
    ("invoice_id", Codec.enc cmd.invoiceId),
    ("sales_order_id", Codec.enc cmd.salesOrderId),
    ("lines", Codec.enc cmd.lines),
    ("due_date", Codec.enc cmd.dueDate),
    ("occurred_at", Codec.enc cmd.occurredAt)]
  dec j := do
    let fields ← Codec.record
      ["tenant_id", "invoice_id", "sales_order_id", "lines", "due_date", "occurred_at"] j
    let tenantId ← Codec.field fields "tenant_id"
    let invoiceId ← Codec.field fields "invoice_id"
    let salesOrderId ← Codec.field fields "sales_order_id"
    let lines ← Codec.field fields "lines"
    let dueDate ← Codec.field fields "due_date"
    let occurredAt ← Codec.field fields "occurred_at"
    return { tenantId, invoiceId, salesOrderId, lines, dueDate, occurredAt }
  dec_enc cmd := by simp [Codec.record, Codec.field]

instance : Codec VoidInvoice where
  enc cmd := .object [
    ("tenant_id", Codec.enc cmd.tenantId),
    ("invoice_id", Codec.enc cmd.invoiceId),
    ("reason", Codec.enc cmd.reason),
    ("occurred_at", Codec.enc cmd.occurredAt)]
  dec j := do
    let fields ← Codec.record ["tenant_id", "invoice_id", "reason", "occurred_at"] j
    let tenantId ← Codec.field fields "tenant_id"
    let invoiceId ← Codec.field fields "invoice_id"
    let reason ← Codec.optField fields "reason"
    let occurredAt ← Codec.field fields "occurred_at"
    return { tenantId, invoiceId, reason, occurredAt }
  dec_enc cmd := by simp [Codec.record, Codec.field, Codec.optField]

instance : Codec InvoiceIssued where
  enc e := .object [
    ("tenant_id", Codec.enc e.tenantId),
    ("invoice_id", Codec.enc e.invoiceId),
    ("sales_order_id", Codec.enc e.salesOrderId),
    ("lines", Codec.enc e.lines),
    ("due_date", Codec.enc e.dueDate),
    ("total_amount", Codec.enc e.totalAmount),
    ("occurred_at", Codec.enc e.occurredAt)]
  dec j := do
    let fields ← Codec.record
      ["tenant_id", "invoice_id", "sales_order_id", "lines", "due_date",
        "total_amount", "occurred_at"] j
    let tenantId ← Codec.field fields "tenant_id"
    let invoiceId ← Codec.field fields "invoice_id"
    let salesOrderId ← Codec.field fields "sales_order_id"
    let lines ← Codec.field fields "lines"
    let dueDate ← Codec.field fields "due_date"
    let totalAmount ← Codec.field fields "total_amount"
    let occurredAt ← Codec.field fields "occurred_at"
    return { tenantId, invoiceId, salesOrderId, lines, dueDate, totalAmount, occurredAt }
  dec_enc e := by simp [Codec.record, Codec.field]

instance : Codec PaymentRegistered where
  enc e := .object [
    ("tenant_id", Codec.enc e.tenantId),
    ("invoice_id", Codec.enc e.invoiceId),
    ("amount", Codec.enc e.amount),
    ("new_total_paid", Codec.enc e.newTotalPaid),
    ("occurred_at", Codec.enc e.occurredAt)]
  dec j := do
    let fields ← Codec.record
      ["tenant_id", "invoice_id", "amount", "new_total_paid", "occurred_at"] j
    let tenantId ← Codec.field fields "tenant_id"
    let invoiceId ← Codec.field fields "invoice_id"
    let amount ← Codec.field fields "amount"
    let newTotalPaid ← Codec.field fields "new_total_paid"
    let occurredAt ← Codec.field fields "occurred_at"
    return { tenantId, invoiceId, amount, newTotalPaid, occurredAt }
  dec_enc e := by simp [Codec.record, Codec.field]

instance : Codec InvoiceVoided where
  enc e := .object [
    ("tenant_id", Codec.enc e.tenantId),
    ("invoice_id", Codec.enc e.invoiceId),
    ("reason", Codec.enc e.reason),
    ("occurred_at", Codec.enc e.occurredAt)]
  dec j := do
    let fields ← Codec.record ["tenant_id", "invoice_id", "reason", "occurred_at"] j
    let tenantId ← Codec.field fields "tenant_id"
    let invoiceId ← Codec.field fields "invoice_id"
    let reason ← Codec.optField fields "reason"
    let occurredAt ← Codec.field fields "occurred_at"
    return { tenantId, invoiceId, reason, occurredAt }
  dec_enc e := by simp [Codec.record, Codec.field, Codec.optField]

instance : Codec InvoiceEvent where
  enc
    | .invoiceIssued e => .object [("InvoiceIssued", Codec.enc e)]
    | .paymentRegistered e => .object [("PaymentRegistered", Codec.enc e)]
    | .invoiceVoided e => .object [("InvoiceVoided", Codec.enc e)]
  dec := Codec.variant [
    ("InvoiceIssued", fun body => InvoiceEvent.invoiceIssued <$> Codec.dec body),
    ("PaymentRegistered", fun body => InvoiceEvent.paymentRegistered <$> Codec.dec body),
    ("InvoiceVoided", fun body => InvoiceEvent.invoiceVoided <$> Codec.dec body)]
  dec_enc e := by cases e <;> simp [Codec.variant]

instance Invoice.instEvent : Event Invoice.aggregate.Event :=
  inferInstanceAs (Event InvoiceEvent)

instance Invoice.instSerde : Serde Invoice.aggregate.Event :=
  inferInstanceAs (Serde InvoiceEvent)

end Serde

end ForgeErp
