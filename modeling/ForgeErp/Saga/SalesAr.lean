import ForgeErp.Domain.Ids
import ForgeErp.Saga.Basic

/-!
This module contains the saga that takes a confirmed sales order over its invoice to the ledger.
-/

namespace ForgeErp

inductive SalesArSagaState where
  | waitingForOrderConfirmed
  | waitingForInvoiceIssued
  | waitingForLedgerPosted (invoiceId : String)
  | completed
  | failed
  deriving DecidableEq, Repr

inductive SalesArSagaEvent where
  | orderConfirmedReceived
  | invoiceIssueRequested
  | invoiceIssuedReceived (invoiceId : String)
  | ledgerPostRequested
  | ledgerPostedReceived
  | sagaCompleted
  | sagaFailed (reason : String)
  deriving DecidableEq, Repr

namespace SalesArSagaEvent

def unitCase (ev : SalesArSagaEvent) (content : JsonValue) : Except String SalesArSagaEvent := do
  Codec.unit content
  return ev

def fieldCase (name : String) (make : String → SalesArSagaEvent) (content : JsonValue)
    : Except String SalesArSagaEvent := do
  let fields ← Codec.record [name] content
  let value ← Codec.field fields name
  return make value

instance : Codec SalesArSagaEvent where
  enc
    | .orderConfirmedReceived => .object [("type", .string "order_confirmed_received")]
    | .invoiceIssueRequested => .object [("type", .string "invoice_issue_requested")]
    | .invoiceIssuedReceived invoiceId =>
      .object [("type", .string "invoice_issued_received"), ("invoice_id", .string invoiceId)]
    | .ledgerPostRequested => .object [("type", .string "ledger_post_requested")]
    | .ledgerPostedReceived => .object [("type", .string "ledger_posted_received")]
    | .sagaCompleted => .object [("type", .string "saga_completed")]
    | .sagaFailed reason => .object [("type", .string "saga_failed"), ("reason", .string reason)]
  dec := Codec.tagged "type" [
    ("order_confirmed_received", unitCase .orderConfirmedReceived),
    ("invoice_issue_requested", unitCase .invoiceIssueRequested),
    ("invoice_issued_received", fieldCase "invoice_id" .invoiceIssuedReceived),
    ("ledger_post_requested", unitCase .ledgerPostRequested),
    ("ledger_posted_received", unitCase .ledgerPostedReceived),
    ("saga_completed", unitCase .sagaCompleted),
    ("saga_failed", fieldCase "reason" .sagaFailed)]
  dec_enc ev := by cases ev <;> rfl

end SalesArSagaEvent

variable [TextFormat Uuid] [TextFormat DateTime]

namespace SalesArSaga

def sagaType : String := "saga.sales_ar"

def orderIdIn (payload : JsonValue) (name : String) : Option SalesOrderId :=
  match payload with
  | .object obj =>
    match obj.lookup name with
    | some (.string idStr) =>
      match (TextFormat.parse idStr : Option Uuid) with
      | some uuid => some ⟨⟨uuid⟩⟩
      | none => none
    | _ => none
  | _ => none

def correlate (envelope : EventEnvelope JsonValue) : Option SalesOrderId :=
  match envelope.aggregateType with
  | "sales.order" => orderIdIn envelope.payload "order_id"
  | "invoicing.invoice" => orderIdIn envelope.payload "sales_order_id"
  -- "We don't currently correlate ledger events directly; they're issued by saga command"
  | "accounting.ledger" => none
  | _ => none

def sagaId (_ : TenantId) (correlation : SalesOrderId) : AggregateId :=
  correlation.aggregateId

def apply (state : SalesArSagaState) (event : SalesArSagaEvent) : SalesArSagaState :=
  match event with
  | .orderConfirmedReceived => .waitingForInvoiceIssued
  | .invoiceIssueRequested => state
  | .invoiceIssuedReceived invoiceId => .waitingForLedgerPosted invoiceId
  | .ledgerPostRequested => state
  | .ledgerPostedReceived => .completed
  | .sagaCompleted => .completed
  | .sagaFailed _ => .failed

def onOrderConfirmed (tenantId : TenantId) (correlation : SalesOrderId) : List SagaAction := [
  .emit "order_confirmed_received" (.object []),
  .emit "invoice_issue_requested" (.object []),
  .command "Invoice" "IssueInvoice" (.object [
    ("tenant_id", Codec.enc tenantId),
    ("sales_order_id", Codec.enc correlation.aggregateId)])]

def onInvoiceIssued (entryId : Uuid) (now : DateTime) (tenantId : TenantId) (invoiceId : String)
    : List SagaAction := [
  .emit "invoice_issued_received" (.object [("invoice_id", .string invoiceId)]),
  .emit "ledger_post_requested" (.object []),
  .command "Ledger" "PostJournalEntry" (.object [
    ("tenant_id", Codec.enc tenantId),
    ("entry_id", Codec.enc entryId),
    ("lines", .array [
      .object [
        ("account_code", .string "1200"),
        ("account_name", .string "Accounts Receivable"),
        ("kind", .string "Asset"),
        ("amount", .number 0),
        ("is_debit", .bool true)],
      .object [
        ("account_code", .string "4000"),
        ("account_name", .string "Sales Revenue"),
        ("kind", .string "Revenue"),
        ("amount", .number 0),
        ("is_debit", .bool false)]]),
    ("description", .string s!"AR for invoice {invoiceId}"),
    ("occurred_at", Codec.enc now)])]

def react (entryId : Uuid) (now : DateTime) (state : SalesArSagaState) (tenantId : TenantId)
    (correlation : SalesOrderId) (incoming : EventEnvelope JsonValue)
    : List SagaAction :=
  match state with
  | .waitingForOrderConfirmed =>
    if incoming.aggregateType = "sales.order" then
      match incoming.payload with
      | .object ((evtVariant, _) :: _) =>
        if evtVariant = "OrderConfirmed" then onOrderConfirmed tenantId correlation else []
      | _ => []
    else
      []
  | .waitingForInvoiceIssued =>
    if incoming.aggregateType = "invoicing.invoice" then
      match incoming.payload with
      | .object obj =>
        match obj.lookup "InvoiceIssued" with
        | some (.object evt) =>
          match evt.lookup "invoice_id" with
          | some (.string invoiceId) => onInvoiceIssued entryId now tenantId invoiceId
          | _ => []
        | _ => []
      | _ => []
    else
      []
  | .waitingForLedgerPosted _ =>
    if incoming.aggregateType = "accounting.ledger" then
      match incoming.payload with
      | .object obj =>
        match obj.lookup "JournalEntryPosted" with
        | some _ => [.emit "ledger_posted_received" (.object []), .complete]
        | none => []
      | _ => []
    else
      []
  | .completed => []
  | .failed => []

@[reducible]
def saga : Saga where
  State := SalesArSagaState
  SagaEvent := SalesArSagaEvent
  CorrelationId := SalesOrderId
  sagaType
  correlate
  sagaId
  initialState _ _ := .waitingForOrderConfirmed
  apply
  react

end SalesArSaga

end ForgeErp
