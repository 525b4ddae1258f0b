import ForgeErp.Dispatcher.Calls
import ForgeErp.Projections.Impl.Members
import ForgeErp.Saga.SalesAr

/-!
This module contains the subscriber that runs the saga of the sales orders behind the dispatcher,
and the executor of its commands. Errors of both the repository and the executor are discarded.
-/

namespace ForgeErp

variable [TextFormat Uuid] [TextFormat DateTime] [Lowercase] {B : Type}

namespace InMemorySagaExecutor

variable (eventBus : EventBus B (EventEnvelope JsonValue)) (defaultLedgerId : AggregateId)

def dispatch (s : InMemoryEventStore × B) (call : DispatchCall)
    : Except DispatchError Unit × InMemoryEventStore × B :=
  match call.perform eventBus s.1 s.2 with
  | (.ok _, s) => (.ok (), s)
  | (.error err, s) => (.error err, s)

def execute (s : InMemoryEventStore × B) (aggregateType commandType : String) (payload : JsonValue)
    (freshId : Nat → Uuid)
    : Except DispatchError Unit × InMemoryEventStore × B :=
  match aggregateType, commandType with
  | "Invoice", "IssueInvoice" =>
    match (Codec.dec payload : Except String IssueInvoice) with
    | .error e => (.error (.validation e), s)
    | .ok cmd =>
      dispatch eventBus s {
        kind := .invoice
        key := ⟨cmd.tenantId, cmd.invoiceId.aggregateId⟩
        aggregateType := "invoicing.invoice"
        command := InvoiceCommand.issueInvoice cmd
        freshId
      }
  | "Ledger", "PostJournalEntry" =>
    match (Codec.dec payload : Except String PostJournalEntry) with
    | .error e => (.error (.validation e), s)
    | .ok cmd =>
      dispatch eventBus s {
        kind := .ledger
        key := ⟨cmd.tenantId, defaultLedgerId⟩
        aggregateType := "accounting.ledger"
        command := JournalCommand.postJournalEntry cmd
        freshId
      }
  | "Invoice", "VoidInvoice" =>
    match (Codec.dec payload : Except String VoidInvoice) with
    | .error e => (.error (.validation e), s)
    | .ok cmd =>
      dispatch eventBus s {
        kind := .invoice
        key := ⟨cmd.tenantId, cmd.invoiceId.aggregateId⟩
        aggregateType := "invoicing.invoice"
        command := InvoiceCommand.voidInvoice cmd
        freshId
      }
  | _, _ =>
    (.error (.validation s!"Unsupported saga command: {aggregateType}.{commandType}"), s)

end InMemorySagaExecutor

namespace SalesArSaga

def orInsert (obj : List (String × JsonValue)) (name : String) (value : JsonValue)
    : List (String × JsonValue) :=
  match obj.lookup name with
  | some _ => obj
  | none => obj ++ [(name, value)]

def invoiceLines (order : SalesOrderReadModel) : List InvoiceLine :=
  order.lines.map fun l => {
    lineNo := l.lineNo
    salesOrderId := order.orderId
    productId := l.productId
    quantity := l.quantity
    unitPrice := l.unitPrice
  }

def days (n : Int) : Int :=
  n * 24 * 3600 * 1000000000

-- The `unwrap` of the payload does not fail: `react` only makes objects.
def fillIssueInvoice (tenantId : TenantId) (order : SalesOrderReadModel) (invoiceId : InvoiceId)
    (dueFrom now : DateTime) (payload : JsonValue)
    : JsonValue :=
  match payload with
  | .object obj =>
    let due : DateTime := ⟨dueFrom.nanos + days 30⟩
    let obj := orInsert obj "tenant_id" (Codec.enc tenantId)
    let obj := orInsert obj "invoice_id" (Codec.enc invoiceId)
    let obj := orInsert obj "lines" (Codec.enc (invoiceLines order))
    let obj := orInsert obj "due_date" (Codec.enc due)
    let obj := orInsert obj "occurred_at" (Codec.enc now)
    .object obj
  | payload => payload

/--
The identifiers and times that one reception draws, and the row of the order in the sales
projection.
-/
structure Surroundings where
  uuid : Nat → Nat → Uuid
  now : Nat → Nat → DateTime
  order : Option SalesOrderReadModel

variable (eventBus : EventBus B (EventEnvelope JsonValue)) (defaultLedgerId : AggregateId)

def perform (env : Surroundings) (tenantId : TenantId) (correlation : SalesOrderId)
    (s : InMemoryEventStore × B) (idx : Nat) (action : SagaAction)
    : InMemoryEventStore × B :=
  match action with
  | .emit eventType payload =>
    ((SagaRepository.appendEmit saga s.1 tenantId (sagaId tenantId correlation) eventType payload
      (env.uuid idx 0) (env.now idx 0)).2, s.2)
  | .command aggregateType commandType payload =>
    let payload :=
      if aggregateType = "Invoice" ∧ commandType = "IssueInvoice" then
        match env.order with
        | some order =>
          fillIssueInvoice tenantId order ⟨⟨env.uuid idx 0⟩⟩ (env.now idx 0) (env.now idx 1) payload
        | none => payload
      else
        payload
    (InMemorySagaExecutor.execute eventBus defaultLedgerId s aggregateType commandType payload
      (fun n => env.uuid idx (n + 1))).2
  | .compensate aggregateType commandType payload =>
    (InMemorySagaExecutor.execute eventBus defaultLedgerId s aggregateType commandType payload
      (env.uuid idx)).2
  | .complete =>
    ((SagaRepository.appendEmit saga s.1 tenantId (sagaId tenantId correlation) "saga.completed"
      (.object []) (env.uuid idx 0) (env.now idx 0)).2, s.2)

def performAll (env : Surroundings) (tenantId : TenantId) (correlation : SalesOrderId)
    (s : InMemoryEventStore × B) (idx : Nat) (actions : List SagaAction)
    : InMemoryEventStore × B :=
  match actions with
  | [] => s
  | action :: actions =>
    performAll env tenantId correlation
      (perform eventBus defaultLedgerId env tenantId correlation s idx action) (idx + 1) actions

def receive (env : Surroundings) (s : InMemoryEventStore × B) (envelope : EventEnvelope JsonValue)
    : InMemoryEventStore × B :=
  match correlate envelope with
  | none => s
  | some correlation =>
    let tenantId := envelope.tenantId
    let state := saga.rehydrate s.1 tenantId correlation
    let actions := react (env.uuid 0 0) (env.now 0 0) state tenantId correlation envelope
    performAll eventBus defaultLedgerId env tenantId correlation s 1 actions

-- Publishing in memory does not fail, and the subscription of the saga gets everything.
def channel : EventBus (List (EventEnvelope JsonValue)) (EventEnvelope JsonValue) where
  publish sent message := (.ok (), sent ++ [message])

inductive Action where
  | dispatch (call : DispatchCall)
  | receive (n : Nat) (env : Surroundings)

/--
The dispatcher and the subscriber side by side. The subscriber may be given what has been published
in any order.
-/
def runs : Machine (InMemoryEventStore × List (EventEnvelope JsonValue)) Action where
  init s := s = (.new, [])
  step s action :=
    match action with
    | .dispatch call => some (call.perform channel s.1 s.2).2
    | .receive n env => s.2[n]?.map (receive channel defaultLedgerId env s)

end SalesArSaga

end ForgeErp
