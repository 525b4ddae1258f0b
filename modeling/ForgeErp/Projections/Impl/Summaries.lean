import ForgeErp.Domain.Accounting
import ForgeErp.Domain.Inventory
import ForgeErp.Domain.Invoicing
import ForgeErp.Projections.Impl.Guarded

/-!
This module contains the projections that answer for more than the latest state of an aggregate:
balances of accounts and of customers, the valuation of the stock and the invoices to collect.
Integer arithmetic wraps, as it does in a release build.
-/

namespace ForgeErp

structure AccountBalance where
  accountCode : String
  accountName : String
  kind : AccountKind
  balance : Int
  deriving DecidableEq

namespace AccountBalancesProjection

-- Debit positive, credit negative.
def delta (line : JournalEntryLine) : Int :=
  if line.isDebit then line.amount.toInt else -line.amount.toInt

def vacant (line : JournalEntryLine) : AccountBalance where
  accountCode := line.account.code
  accountName := line.account.name
  kind := line.account.kind
  balance := 0

def applyLine (store : InMemoryTenantStore String AccountBalance) (tenantId : TenantId)
    (line : JournalEntryLine)
    : InMemoryTenantStore String AccountBalance :=
  let code := line.account.code
  let rm := (store.get tenantId code).getD (vacant line)
  store.upsert tenantId code { rm with balance := addI128 rm.balance (delta line) }

def applyLines (store : InMemoryTenantStore String AccountBalance) (tenantId : TenantId)
    (lines : List JournalEntryLine)
    : InMemoryTenantStore String AccountBalance :=
  lines.foldl (applyLine · tenantId) store

def projection : GuardedProjection String AccountBalance Unit LedgerEvent where
  aggregateType := "accounting.ledger"
  tenantOf := LedgerEvent.tenantId
  checkId _ _ := .ok ()
  update _ data key ev := (applyLines data.1 key.tenantId ev.lines, ())
  beforeReplay := id

def new : ProjectionWith String AccountBalance Unit :=
  .new "accounting.balances" ()

end AccountBalancesProjection

structure CustomerBalance where
  customerId : PartyId
  customerName : Option String
  totalInvoiced : UInt64
  totalPaid : UInt64
  outstandingBalance : UInt64
  openInvoiceCount : UInt32
  deriving DecidableEq

def CustomerBalance.new (customerId : PartyId) : CustomerBalance where
  customerId
  customerName := none
  totalInvoiced := 0
  totalPaid := 0
  outstandingBalance := 0
  openInvoiceCount := 0

structure InvoiceCustomerMapping where
  customerId : PartyId
  totalAmount : UInt64
  totalPaid : UInt64
  status : InvoiceStatus
  deriving DecidableEq

-- `count.saturating_sub(1)`
def decrement (count : UInt32) : UInt32 :=
  if count = 0 then 0 else count - 1

namespace CustomerBalancesProjection

-- The rows, and `invoice_mappings` by tenant and invoice.
abbrev Data : Type :=
  InMemoryTenantStore PartyId CustomerBalance × KeyMap StreamKey InvoiceCustomerMapping

abbrev State : Type :=
  ProjectionWith PartyId CustomerBalance (KeyMap StreamKey InvoiceCustomerMapping)

def registerInvoiceCustomer (self : State) (tenantId : TenantId) (invoiceAggregateId : AggregateId)
    (customerId : PartyId)
    : State :=
  let mapping := { customerId, totalAmount := 0, totalPaid := 0, status := .open }
  { self with side := self.side.insert ⟨tenantId, invoiceAggregateId⟩ mapping }

def applyIssued (data : Data) (key : StreamKey) (e : InvoiceIssued) : Data :=
  let customerId :=
    match data.2.get key with
    | some mapping => mapping.customerId
    | none => ⟨e.salesOrderId.aggregateId⟩
  let mapping := { customerId, totalAmount := e.totalAmount, totalPaid := 0, status := .open }
  let balance := (data.1.get key.tenantId customerId).getD (.new customerId)
  let balance := { balance with
    totalInvoiced := balance.totalInvoiced + e.totalAmount
    outstandingBalance := balance.outstandingBalance + e.totalAmount
    openInvoiceCount := balance.openInvoiceCount + 1
  }
  (data.1.upsert key.tenantId customerId balance, data.2.insert key mapping)

def applyPayment (data : Data) (key : StreamKey) (e : PaymentRegistered) : Data :=
  match data.2.get key with
  | none => data
  | some mapping =>
    let settled := e.newTotalPaid ≥ mapping.totalAmount
    let mappings := data.2.insert key { mapping with
      totalPaid := e.newTotalPaid
      status := if settled then .paid else mapping.status
    }
    match data.1.get key.tenantId mapping.customerId with
    | none => (data.1, mappings)
    | some balance =>
      let balance := { balance with
        totalPaid := balance.totalPaid + e.amount
        outstandingBalance := saturatingSub balance.outstandingBalance e.amount
        openInvoiceCount :=
          if settled then decrement balance.openInvoiceCount else balance.openInvoiceCount
      }
      (data.1.upsert key.tenantId mapping.customerId balance, mappings)

def applyVoided (data : Data) (key : StreamKey) : Data :=
  match data.2.get key with
  | none => data
  | some mapping =>
    let mappings := data.2.insert key { mapping with status := .void }
    match data.1.get key.tenantId mapping.customerId with
    | none => (data.1, mappings)
    | some balance =>
      let outstanding := saturatingSub mapping.totalAmount mapping.totalPaid
      let balance := { balance with
        outstandingBalance := saturatingSub balance.outstandingBalance outstanding
        openInvoiceCount := decrement balance.openInvoiceCount
      }
      (data.1.upsert key.tenantId mapping.customerId balance, mappings)

def projection
    : GuardedProjection PartyId CustomerBalance (KeyMap StreamKey InvoiceCustomerMapping)
        InvoiceEvent where
  aggregateType := "invoicing.invoice"
  tenantOf := InvoiceEvent.tenantId
  checkId _ _ := .ok ()
  update _ data key ev :=
    match ev with
    | .invoiceIssued e => applyIssued data key e
    | .paymentRegistered e => applyPayment data key e
    | .invoiceVoided _ => applyVoided data key
  beforeReplay _ := .empty

def new : State :=
  .new "customers.balances" .empty

end CustomerBalancesProjection

structure InventoryValuation where
  itemId : InventoryItemId
  name : String
  quantity : Int64
  unitCost : Option UInt64
  totalValue : Option UInt64
  deriving DecidableEq

-- `u64::saturating_mul`
def saturatingMul (a b : UInt64) : UInt64 :=
  if a.toNat * b.toNat < 2 ^ 64 then a * b else UInt64.ofNat (2 ^ 64 - 1)

namespace InventoryValuation

def new (itemId : InventoryItemId) (name : String) : InventoryValuation where
  itemId
  name
  quantity := 0
  unitCost := none
  totalValue := none

def recalculateValue (self : InventoryValuation) : InventoryValuation :=
  { self with
    totalValue := self.unitCost.map fun cost =>
      if self.quantity > 0 then saturatingMul self.quantity.toUInt64 cost else 0
  }

end InventoryValuation

namespace InventoryValuationProjection

def projection : CursorProjection InventoryItemId InventoryValuation InventoryEvent where
  aggregateType := "inventory.item"
  idName := "item_id"
  id := InventoryItemId.equiv
  tenantOf := InventoryEvent.tenantId
  idOf := InventoryEvent.itemId
  vacant _ ev := .new ev.itemId ""
  modify val ev :=
    match ev with
    | .itemCreated e => .new e.itemId e.name
    | .stockAdjusted e => { val with quantity := val.quantity + e.delta }.recalculateValue

def setUnitCost (self : Projection InventoryItemId InventoryValuation) (tenantId : TenantId)
    (itemId : InventoryItemId) (unitCost : UInt64)
    : Projection InventoryItemId InventoryValuation :=
  match self.store.get tenantId itemId with
  | some val =>
    self.upsert tenantId itemId { val with unitCost := some unitCost }.recalculateValue
  | none => self

def new : Projection InventoryItemId InventoryValuation :=
  .new "inventory.valuation"

end InventoryValuationProjection

structure OpenInvoice where
  invoiceId : InvoiceId
  salesOrderId : SalesOrderId
  dueDate : DateTime
  totalAmount : UInt64
  amountPaid : UInt64
  outstandingAmount : UInt64
  lines : List InvoiceLine
  daysOutstanding : Int
  isOverdue : Bool

-- `later.signed_duration_since(earlier).num_days()`
def DateTime.daysSince (later earlier : DateTime) : Int :=
  (later.nanos - earlier.nanos).tdiv (86400 * 10 ^ 9)

def OpenInvoice.refreshCalculatedFields (self : OpenInvoice) (now : DateTime) : OpenInvoice :=
  let daysOutstanding := now.daysSince self.dueDate
  { self with
    outstandingAmount := saturatingSub self.totalAmount self.amountPaid
    daysOutstanding
    isOverdue := daysOutstanding > 0
  }

structure OpenInvoicesSummary where
  count : Nat
  totalOutstanding : UInt64
  overdueCount : Nat
  overdueAmount : UInt64
  deriving DecidableEq

namespace OpenInvoicesProjection

abbrev State : Type :=
  ProjectionWith InvoiceId OpenInvoice Unit

def opened (now : DateTime) (e : InvoiceIssued) : OpenInvoice :=
  let daysOutstanding := now.daysSince e.dueDate
  {
    invoiceId := e.invoiceId
    salesOrderId := e.salesOrderId
    dueDate := e.dueDate
    totalAmount := e.totalAmount
    amountPaid := 0
    outstandingAmount := e.totalAmount
    lines := e.lines
    daysOutstanding
    isOverdue := daysOutstanding > 0
  }

def paid (now : DateTime) (inv : OpenInvoice) (e : PaymentRegistered) : OpenInvoice :=
  let inv := { inv with
    amountPaid := e.newTotalPaid
    outstandingAmount := saturatingSub inv.totalAmount e.newTotalPaid
  }
  let inv := if e.newTotalPaid ≥ inv.totalAmount then { inv with outstandingAmount := 0 } else inv
  inv.refreshCalculatedFields now

def projection : GuardedProjection InvoiceId OpenInvoice Unit InvoiceEvent where
  aggregateType := "invoicing.invoice"
  tenantOf := InvoiceEvent.tenantId
  checkId ev aggregateId :=
    if ev.invoiceId.aggregateId ≠ aggregateId then
      .error "event invoice_id does not match envelope aggregate_id"
    else
      .ok ()
  update now data key ev :=
    match ev with
    | .invoiceIssued e => (data.1.upsert key.tenantId e.invoiceId (opened now e), ())
    | .paymentRegistered e =>
      match data.1.get key.tenantId e.invoiceId with
      | some inv => (data.1.upsert key.tenantId e.invoiceId (paid now inv e), ())
      | none => data
    | .invoiceVoided e =>
      match data.1.get key.tenantId e.invoiceId with
      | some inv => (data.1.upsert key.tenantId e.invoiceId { inv with outstandingAmount := 0 }, ())
      | none => data
  beforeReplay := id

def new : State :=
  .new "invoicing.open" ()

def list (self : State) (order : List (TenantId × InvoiceId)) (tenantId : TenantId)
    : List OpenInvoice :=
  self.store.list order tenantId

-- `Iterator::sum` on `u64`
def sum (amounts : List UInt64) : UInt64 :=
  amounts.foldl (· + ·) 0

def getSummary (self : State) (now : DateTime) (order : List (TenantId × InvoiceId))
    (tenantId : TenantId)
    : OpenInvoicesSummary :=
  let invoices := list self order tenantId
  let overdue := invoices.filter (·.dueDate.nanos < now.nanos)
  {
    count := invoices.length
    totalOutstanding := sum (invoices.map (·.outstandingAmount))
    overdueCount := overdue.length
    overdueAmount := sum (overdue.map (·.outstandingAmount))
  }

end OpenInvoicesProjection

end ForgeErp
