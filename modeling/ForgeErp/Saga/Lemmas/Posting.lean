import ForgeErp.Domain.Lemmas.Accounting
import ForgeErp.Saga.Lemmas.Rehydration

/-!
This module contains the verification of the entry that the saga asks the ledger for once an invoice
is issued. The command is written by hand and read back in the derived form of `PostJournalEntry`.
-/

namespace ForgeErp

namespace Ledger

variable [TextFormat Uuid] [TextFormat DateTime]

/--
The entry debits the receivables and credits the revenue.
-/
def BooksReceivable (lines : List JournalEntryLine) (total : UInt64) : Prop :=
  lines.map (fun line => (line.account.code, line.amount.toInt, line.isDebit))
    = [("1200", (total.toNat : Int), true), ("4000", (total.toNat : Int), false)]

/--
The payload is read as a command that the ledger of its tenant accepts wherever it is.
-/
def Posts (payload : JsonValue) (total : UInt64) : Prop :=
  ∃ cmd : PostJournalEntry, Codec.dec payload = .ok cmd
    ∧ ∀ (ledgerId : LedgerId) (history : List LedgerEvent),
      aggregate.Produced (fun command : JournalCommand => command.tenantId = cmd.tenantId)
          (empty ledgerId) history →
        ∃ posted : JournalEntryPosted,
          handle (aggregate.rehydrate (empty ledgerId) history) (.postJournalEntry cmd)
              = .ok [.journalEntryPosted posted]
            ∧ BooksReceivable posted.lines total

end Ledger

namespace SalesArSaga

variable [TextFormat Uuid] [TextFormat DateTime]

theorem dec_postJournalEntry {fields : List (String × JsonValue)}
    (h : fields.lookup "ledger_id" = none)
    : ∃ msg, (Codec.dec (.object fields) : Except String PostJournalEntry) = .error msg := by
  have hledger : (Codec.field fields "ledger_id" : Except String LedgerId)
      = .error "missing field ledger_id" := by
    unfold Codec.field
    rw [h]
    rfl
  dsimp only [Codec.dec, Codec.record]
  rw [Codec.ok_bind]
  cases (Codec.field fields "tenant_id" : Except String TenantId) with
  | error msg => exact ⟨msg, rfl⟩
  | ok tenantId =>
    rw [Codec.ok_bind, hledger]
    exact ⟨_, rfl⟩

theorem not_posts {fields : List (String × JsonValue)} (h : fields.lookup "ledger_id" = none)
    (total : UInt64) : ¬ Ledger.Posts (.object fields) total := by
  rintro ⟨cmd, hcmd, -⟩
  rcases dec_postJournalEntry h with ⟨msg, hdec⟩
  rw [hdec] at hcmd
  cases hcmd

theorem commands_onInvoiceIssued (entryId : Uuid) (now : DateTime) (tenantId : TenantId)
    (invoiceId : String)
    : ∃ fields, (onInvoiceIssued entryId now tenantId invoiceId).filter
            (fun action => action.isCommand "Ledger" "PostJournalEntry")
          = [.command "Ledger" "PostJournalEntry" (.object fields)]
        ∧ fields.lookup "ledger_id" = none := by
  exact ⟨_, rfl, rfl⟩

variable {entryId : Uuid} {now : DateTime} {tenantId : TenantId} {correlation : SalesOrderId}
  {envelope : EventEnvelope JsonValue}

theorem react_of_invoiceIssued {issued : InvoiceIssued}
    (htype : envelope.aggregateType = "invoicing.invoice")
    (hpayload : envelope.payload = Codec.enc (InvoiceEvent.invoiceIssued issued))
    : react entryId now .waitingForInvoiceIssued tenantId correlation envelope
        = onInvoiceIssued entryId now tenantId
            (TextFormat.print issued.invoiceId.aggregateId.asUuid) := by
  simp [react, htype, hpayload, Codec.enc]

variable [Lowercase] {B : Type} (eventBus : EventBus B (EventEnvelope JsonValue))
  (defaultLedgerId : AggregateId)

theorem execute_of_dec_error {payload : JsonValue} {msg : String}
    (h : (Codec.dec payload : Except String PostJournalEntry) = .error msg)
    (s : InMemoryEventStore × B) (freshId : Nat → Uuid)
    : InMemorySagaExecutor.execute eventBus defaultLedgerId s "Ledger"
        "PostJournalEntry" payload freshId
        = (.error (.validation msg), s) := by
  unfold InMemorySagaExecutor.execute
  rw [h]
  rfl

theorem postJournalEntry_never_executed (issued : InvoiceIssued)
    (envelope : EventEnvelope JsonValue)
    (htype : envelope.aggregateType = "invoicing.invoice")
    (hpayload : envelope.payload = Codec.enc (InvoiceEvent.invoiceIssued issued))
    (entryId : Uuid) (now : DateTime) (tenantId : TenantId) (correlation : SalesOrderId)
    (s : InMemoryEventStore × B) (freshId : Nat → Uuid)
    : ∃ payload,
        (react entryId now .waitingForInvoiceIssued tenantId correlation envelope).filter
            (fun action => action.isCommand "Ledger" "PostJournalEntry")
          = [.command "Ledger" "PostJournalEntry" payload]
        ∧ ¬ Ledger.Posts payload issued.totalAmount
        ∧ ∃ msg, InMemorySagaExecutor.execute eventBus defaultLedgerId s "Ledger" "PostJournalEntry"
            payload freshId = (.error (.validation msg), s) := by
  rw [react_of_invoiceIssued htype hpayload]
  rcases commands_onInvoiceIssued entryId now tenantId
    (TextFormat.print issued.invoiceId.aggregateId.asUuid) with ⟨fields, hfilter, hledger⟩
  rcases dec_postJournalEntry hledger with ⟨msg, hdec⟩
  exact ⟨_, hfilter, not_posts hledger _, msg,
    execute_of_dec_error eventBus defaultLedgerId hdec s freshId⟩

end SalesArSaga

namespace Shop

open Concrete SalesArSaga

def issuedInvoice : InvoiceIssued where
  tenantId := key.tenantId
  invoiceId := ⟨⟨⟨30⟩⟩⟩
  salesOrderId := orderId
  lines := [⟨1, orderId, ⟨⟨⟨8⟩⟩⟩, 3, 100⟩]
  dueDate := ⟨0⟩
  totalAmount := 300
  occurredAt := ⟨0⟩

def issuedEnvelope : EventEnvelope JsonValue where
  eventId := ⟨31⟩
  tenantId := key.tenantId
  aggregateId := issuedInvoice.invoiceId.aggregateId
  aggregateType := "invoicing.invoice"
  sequenceNumber := 1
  payload := Codec.enc (InvoiceEvent.invoiceIssued issuedInvoice)

theorem postJournalEntry_never_executed_issued
    : 0 < issuedInvoice.totalAmount
      ∧ ∃ payload,
        (react ⟨32⟩ ⟨0⟩ .waitingForInvoiceIssued key.tenantId orderId issuedEnvelope).filter
            (fun action => action.isCommand "Ledger" "PostJournalEntry")
          = [.command "Ledger" "PostJournalEntry" payload]
        ∧ ¬ Ledger.Posts payload issuedInvoice.totalAmount := by
  refine ⟨by decide, ?_⟩
  rcases postJournalEntry_never_executed channel ledgerId issuedInvoice
      issuedEnvelope rfl rfl ⟨32⟩ ⟨0⟩
    key.tenantId orderId (.new, []) (fun _ => ⟨33⟩) with ⟨payload, hfilter, hposts, -⟩
  exact ⟨payload, hfilter, hposts⟩

-- The command of the invoice of 300 names no ledger.
theorem issued_command_refused
    : ∃ fields,
        react ⟨32⟩ ⟨0⟩ .waitingForInvoiceIssued key.tenantId orderId issuedEnvelope
          = [.emit "invoice_issued_received"
                (.object [("invoice_id", Codec.enc issuedInvoice.invoiceId)]),
              .emit "ledger_post_requested" (.object []),
              .command "Ledger" "PostJournalEntry" (.object fields)]
        ∧ fields.lookup "ledger_id" = none
        ∧ ¬ Ledger.Posts (.object fields) 300 := by
  refine ⟨_, rfl, rfl, not_posts rfl _⟩

end Shop

end ForgeErp
