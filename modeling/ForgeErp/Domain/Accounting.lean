import ForgeErp.Domain.Ids
import ForgeErp.Events.Basic

/-!
This module contains the ledger aggregate. `i128` arithmetic wraps, as it does in a release build.
-/

namespace ForgeErp

inductive AccountKind where
  | asset
  | liability
  | equity
  | revenue
  | expense
  deriving DecidableEq, Repr

structure Account where
  code : String
  name : String
  kind : AccountKind
  deriving DecidableEq

structure JournalEntryLine where
  account : Account
  amount : Int64
  isDebit : Bool
  deriving DecidableEq

structure Ledger where
  id : LedgerId
  tenantId : Option TenantId
  version : Nat
  created : Bool
  deriving DecidableEq

structure PostJournalEntry where
  tenantId : TenantId
  ledgerId : LedgerId
  entryId : Uuid
  lines : List JournalEntryLine
  occurredAt : DateTime
  description : Option String

inductive JournalCommand where
  | postJournalEntry (cmd : PostJournalEntry)

structure JournalEntryPosted where
  tenantId : TenantId
  ledgerId : LedgerId
  entryId : Uuid
  lines : List JournalEntryLine
  description : Option String
  occurredAt : DateTime
  deriving DecidableEq

inductive LedgerEvent where
  | journalEntryPosted (e : JournalEntryPosted)
  deriving DecidableEq

namespace LedgerEvent

def tenantId (self : LedgerEvent) : TenantId :=
  match self with
  | .journalEntryPosted e => e.tenantId

def ledgerId (self : LedgerEvent) : LedgerId :=
  match self with
  | .journalEntryPosted e => e.ledgerId

def lines (self : LedgerEvent) : List JournalEntryLine :=
  match self with
  | .journalEntryPosted e => e.lines

instance : Event LedgerEvent where
  eventType
    | .journalEntryPosted _ => "accounting.ledger.journal_entry_posted"
  version _ := 1
  occurredAt
    | .journalEntryPosted e => e.occurredAt

end LedgerEvent

-- `i128` addition
def addI128 (a b : Int) : Int :=
  (a + b).bmod (2 ^ 128)

namespace Ledger

def empty (id : LedgerId) : Ledger where
  id
  tenantId := none
  version := 0
  created := false

def apply (self : Ledger) (event : LedgerEvent) : Ledger :=
  let self :=
    match event with
    | .journalEntryPosted e =>
      let self := { self with id := e.ledgerId }
      if self.tenantId.isNone then
        { self with tenantId := some e.tenantId, created := true }
      else
        self
  { self with version := self.version + 1 }

def ensureTenant (self : Ledger) (tenantId : TenantId) : Except DomainError Unit :=
  if !self.created then
    .ok ()
  else if self.tenantId ≠ some tenantId then
    .error (.invariantViolation "tenant mismatch")
  else
    .ok ()

-- The loop over the lines of `handle_post`, from running totals.
def sumLines (debitTotal creditTotal : Int) (lines : List JournalEntryLine)
    : Except DomainError (Int × Int) :=
  match lines with
  | [] => .ok (debitTotal, creditTotal)
  | line :: lines =>
    if line.amount ≤ 0 then
      .error (.validation "amount must be positive")
    else if line.isDebit then
      sumLines (addI128 debitTotal line.amount.toInt) creditTotal lines
    else
      sumLines debitTotal (addI128 creditTotal line.amount.toInt) lines

def handlePost (self : Ledger) (cmd : PostJournalEntry) : Except DomainError (List LedgerEvent) :=
  match self.ensureTenant cmd.tenantId with
  | .error err => .error err
  | .ok () =>
    if cmd.lines.isEmpty then
      .error (.validation "journal entry must have lines")
    else
      match sumLines 0 0 cmd.lines with
      | .error err => .error err
      | .ok (debitTotal, creditTotal) =>
        if debitTotal ≠ creditTotal then
          .error (.invariantViolation "debits must equal credits")
        else
          .ok [.journalEntryPosted {
            tenantId := cmd.tenantId
            ledgerId := cmd.ledgerId
            entryId := cmd.entryId
            lines := cmd.lines
            description := cmd.description
            occurredAt := cmd.occurredAt
          }]

def handle (self : Ledger) (command : JournalCommand) : Except DomainError (List LedgerEvent) :=
  match command with
  | .postJournalEntry cmd => self.handlePost cmd

def aggregate : Aggregate where
  State := Ledger
  Command := JournalCommand
  Event := LedgerEvent
  apply := apply
  handle := handle

end Ledger

section Serde

variable [TextFormat Uuid] [TextFormat DateTime]

instance : Codec AccountKind where
  enc
    | .asset => .string "asset"
    | .liability => .string "liability"
    | .equity => .string "equity"
    | .revenue => .string "revenue"
    | .expense => .string "expense"
  dec := Codec.unitVariant [
    ("asset", .asset),
    ("liability", .liability),
    ("equity", .equity),
    ("revenue", .revenue),
    ("expense", .expense)]
  dec_enc e := by cases e <;> rfl

instance : Codec Account where
  enc e := .object [
    ("code", Codec.enc e.code),
    ("name", Codec.enc e.name),
    ("kind", Codec.enc e.kind)]
  dec j := do
    let fields ← Codec.record ["code", "name", "kind"] j
    let code ← Codec.field fields "code"
    let name ← Codec.field fields "name"
    let kind ← Codec.field fields "kind"
    return { code, name, kind }
  dec_enc e := by simp [Codec.record, Codec.field]

instance : Codec JournalEntryLine where
  enc e := .object [
    ("account", Codec.enc e.account),
    ("amount", Codec.enc e.amount),
    ("is_debit", Codec.enc e.isDebit)]
  dec j := do
    let fields ← Codec.record ["account", "amount", "is_debit"] j
    let account ← Codec.field fields "account"
    let amount ← Codec.field fields "amount"
    let isDebit ← Codec.field fields "is_debit"
    return { account, amount, isDebit }
  dec_enc e := by simp [Codec.record, Codec.field]

instance : Codec PostJournalEntry where
  enc cmd := .object [
    ("tenant_id", Codec.enc cmd.tenantId),
    ("ledger_id", Codec.enc cmd.ledgerId),
    ("entry_id", Codec.enc cmd.entryId),
    ("lines", Codec.enc cmd.lines),
    ("occurred_at", Codec.enc cmd.occurredAt),
    ("description", Codec.enc cmd.description)]
  dec j := do
    let fields ← Codec.record
      ["tenant_id", "ledger_id", "entry_id", "lines", "occurred_at", "description"] j
    let tenantId ← Codec.field fields "tenant_id"
    let ledgerId ← Codec.field fields "ledger_id"
    let entryId ← Codec.field fields "entry_id"
    let lines ← Codec.field fields "lines"
    let occurredAt ← Codec.field fields "occurred_at"
    let description ← Codec.optField fields "description"
    return { tenantId, ledgerId, entryId, lines, occurredAt, description }
  dec_enc cmd := by simp [Codec.record, Codec.field, Codec.optField]

instance : Codec JournalEntryPosted where
  enc e := .object [
    ("tenant_id", Codec.enc e.tenantId),
    ("ledger_id", Codec.enc e.ledgerId),
    ("entry_id", Codec.enc e.entryId),
    ("lines", Codec.enc e.lines),
    ("description", Codec.enc e.description),
    ("occurred_at", Codec.enc e.occurredAt)]
  dec j := do
    let fields ← Codec.record
      ["tenant_id", "ledger_id", "entry_id", "lines", "description", "occurred_at"] j
    let tenantId ← Codec.field fields "tenant_id"
    let ledgerId ← Codec.field fields "ledger_id"
    let entryId ← Codec.field fields "entry_id"
    let lines ← Codec.field fields "lines"
    let description ← Codec.optField fields "description"
    let occurredAt ← Codec.field fields "occurred_at"
    return { tenantId, ledgerId, entryId, lines, description, occurredAt }
  dec_enc e := by simp [Codec.record, Codec.field, Codec.optField]

instance : Codec LedgerEvent where
  enc
    | .journalEntryPosted e => .object [("JournalEntryPosted", Codec.enc e)]
  dec := Codec.variant [
    ("JournalEntryPosted", fun body => LedgerEvent.journalEntryPosted <$> Codec.dec body)]
  dec_enc e := by simp [Codec.variant]

instance Ledger.instEvent : Event Ledger.aggregate.Event :=
  inferInstanceAs (Event LedgerEvent)

instance Ledger.instSerde : Serde Ledger.aggregate.Event :=
  inferInstanceAs (Serde LedgerEvent)

end Serde

end ForgeErp
