import ForgeErp.Domain.Accounting
import ForgeErp.Domain.Inventory
import ForgeErp.Domain.Invoicing
import ForgeErp.Domain.Parties
import ForgeErp.Domain.Products
import ForgeErp.Domain.Purchasing
import ForgeErp.Domain.Sales
import ForgeErp.Domain.Users
import Mathlib.Tactic.Common

/-!
This module contains, for every command of every aggregate, when it is accepted and what it decides.
-/

namespace ForgeErp

theorem ite_error_eq_ok_iff {α : Type} {c : Prop} [Decidable c] {err : DomainError}
    {y : Except DomainError α} {a : α}
    : (if c then .error err else y) = .ok a ↔ ¬ c ∧ y = .ok a := by
  split <;> simp_all

-- A command is refused together with the check that it has to pass.
theorem refused_eq_ok_iff {α : Type} {check : Except DomainError Unit} {err : DomainError}
    {p q : Prop} {a : α}
    (hcheck : check = .ok () ↔ p) (herr : check = .error err) (hp : q → p)
    : (.error err : Except DomainError α) = .ok a ↔ q := by
  have hnot : ¬ p := by
    rw [← hcheck, herr]
    intro hok
    cases hok
  constructor
  . intro hok
    cases hok
  . intro hq
    exact absurd (hp hq) hnot

namespace InventoryItem

variable {self : InventoryItem} {decided : List InventoryEvent}

theorem handleCreate_eq_ok_iff {cmd : CreateItem}
    : self.handleCreate cmd = .ok decided
        ↔
      self.created = false ∧ trimIsEmpty cmd.name = false
      ∧ decided = [.itemCreated ⟨cmd.tenantId, cmd.itemId, cmd.name, cmd.occurredAt⟩] := by
  unfold handleCreate
  rw [@eq_comm _ decided]
  simp [ite_error_eq_ok_iff]

theorem ensureTenant_eq_ok_iff (hcreated : self.created = true) (tenantId : TenantId)
    : self.ensureTenant tenantId = .ok () ↔ self.tenantId = some tenantId := by
  simp [ensureTenant, hcreated]

theorem handleAdjust_eq_ok_iff {cmd : AdjustStock}
    : self.handleAdjust cmd = .ok decided
        ↔
      self.created = true ∧ self.tenantId = some cmd.tenantId ∧ self.id = cmd.itemId
      ∧ cmd.delta ≠ 0 ∧ ¬ self.stock + cmd.delta < 0
      ∧ decided = [.stockAdjusted ⟨cmd.tenantId, cmd.itemId, cmd.delta, cmd.occurredAt⟩] := by
  unfold handleAdjust
  rw [@eq_comm _ decided]
  split
  . next h => simp_all
  . next hcreated =>
    simp only [Bool.not_eq_true, Bool.not_eq_false'] at hcreated
    split
    . next err herr =>
      have hnot := (ensureTenant_eq_ok_iff hcreated cmd.tenantId).not.mp (by simp [herr])
      simp [hnot]
    . next htenant =>
      rw [ensureTenant_eq_ok_iff hcreated] at htenant
      unfold ensureItemId
      split
      . next err herr =>
        split at herr
        . next hid => simp [show ¬ self.id = cmd.itemId from hid]
        . cases herr
      . next hok =>
        split at hok
        . cases hok
        . next hid =>
          rw [Decidable.not_not] at hid
          simp [hcreated, htenant, hid, ite_error_eq_ok_iff]

end InventoryItem

namespace SalesOrder

theorem ensureExisting_eq_ok_iff {self : SalesOrder} {tenantId : TenantId} {orderId : SalesOrderId}
    : self.ensureExisting tenantId orderId = .ok ()
        ↔
      self.created = true ∧ self.tenantId = some tenantId ∧ self.id = orderId := by
  unfold ensureExisting ensureTenant ensureOrderId
  cases self.created with
  | false => simp
  | true =>
    simp only [Bool.not_true, Bool.false_eq_true, ↓reduceIte]
    split
    . next err herr =>
      split at herr
      . next htenant => simp_all
      . cases herr
    . next htenant =>
      split at htenant
      . cases htenant
      . simp_all

variable {self : SalesOrder} {decided : List SalesOrderEvent}

theorem handleCreate_eq_ok_iff {cmd : CreateSalesOrder}
    : self.handleCreate cmd = .ok decided
        ↔
      self.created = false
      ∧ decided = [.salesOrderCreated ⟨cmd.tenantId, cmd.orderId, cmd.occurredAt⟩] := by
  unfold handleCreate
  rw [@eq_comm _ decided]
  simp [ite_error_eq_ok_iff]

theorem handleAddLine_eq_ok_iff {cmd : AddLine}
    : self.handleAddLine cmd = .ok decided
        ↔
      self.created = true ∧ self.tenantId = some cmd.tenantId ∧ self.id = cmd.orderId
      ∧ self.isModifiable = true ∧ ¬ cmd.quantity ≤ 0 ∧ cmd.unitPrice ≠ 0
      ∧ decided = [.lineAdded ⟨cmd.tenantId, cmd.orderId, UInt32.ofNat self.lines.length
          + 1, cmd.productId,
          cmd.quantity, cmd.unitPrice, cmd.occurredAt⟩] := by
  unfold handleAddLine
  rw [@eq_comm _ decided]
  split
  . next err herr =>
    exact refused_eq_ok_iff ensureExisting_eq_ok_iff herr fun h => ⟨h.1, h.2.1, h.2.2.1⟩
  . next hok =>
    simp only [ite_error_eq_ok_iff]
    simp [ensureExisting_eq_ok_iff.mp hok]

theorem handleConfirm_eq_ok_iff {cmd : ConfirmOrder}
    : self.handleConfirm cmd = .ok decided
        ↔
      self.created = true ∧ self.tenantId = some cmd.tenantId ∧ self.id = cmd.orderId
      ∧ self.status = .draft ∧ self.lines.isEmpty = false
      ∧ decided = [.orderConfirmed ⟨cmd.tenantId, cmd.orderId, cmd.occurredAt⟩] := by
  unfold handleConfirm
  rw [@eq_comm _ decided]
  split
  . next err herr =>
    exact refused_eq_ok_iff ensureExisting_eq_ok_iff herr fun h => ⟨h.1, h.2.1, h.2.2.1⟩
  . next hok =>
    simp only [ite_error_eq_ok_iff]
    simp [ensureExisting_eq_ok_iff.mp hok]

theorem handleMarkInvoiced_eq_ok_iff {cmd : MarkInvoiced}
    : self.handleMarkInvoiced cmd = .ok decided
        ↔
      self.created = true ∧ self.tenantId = some cmd.tenantId ∧ self.id = cmd.orderId
      ∧ self.isInvoiceAllowed = true
      ∧ decided = [.orderInvoiced ⟨cmd.tenantId, cmd.orderId, cmd.occurredAt⟩] := by
  unfold handleMarkInvoiced
  rw [@eq_comm _ decided]
  split
  . next err herr =>
    exact refused_eq_ok_iff ensureExisting_eq_ok_iff herr fun h => ⟨h.1, h.2.1, h.2.2.1⟩
  . next hok =>
    simp only [ite_error_eq_ok_iff]
    simp [ensureExisting_eq_ok_iff.mp hok]

end SalesOrder

namespace PurchaseOrder

theorem ensureExisting_eq_ok_iff {self : PurchaseOrder} {tenantId : TenantId}
    {orderId : PurchaseOrderId}
    : self.ensureExisting tenantId orderId = .ok ()
        ↔
      self.created = true ∧ self.tenantId = some tenantId ∧ self.id = orderId := by
  unfold ensureExisting ensureTenant ensureOrderId
  cases self.created with
  | false => simp
  | true =>
    simp only [Bool.not_true, Bool.false_eq_true, ↓reduceIte]
    split
    . next err herr =>
      split at herr
      . next htenant => simp_all
      . cases herr
    . next htenant =>
      split at htenant
      . cases htenant
      . simp_all

variable {self : PurchaseOrder} {decided : List PurchaseOrderEvent}

theorem handleCreate_eq_ok_iff {cmd : CreatePurchaseOrder}
    : self.handleCreate cmd = .ok decided
        ↔
      self.created = false
      ∧ decided = [.purchaseOrderCreated
          ⟨cmd.tenantId, cmd.orderId, cmd.supplierId, cmd.occurredAt⟩] := by
  unfold handleCreate
  rw [@eq_comm _ decided]
  simp [ite_error_eq_ok_iff]

theorem handleAddLine_eq_ok_iff {cmd : AddLine}
    : self.handleAddLine cmd = .ok decided
        ↔
      self.created = true ∧ self.tenantId = some cmd.tenantId ∧ self.id = cmd.orderId
      ∧ self.status = .draft ∧ ¬ cmd.quantity ≤ 0
      ∧ decided = [.purchaseOrderLineAdded ⟨cmd.tenantId, cmd.orderId,
          UInt32.ofNat self.lines.length + 1, cmd.productId, cmd.quantity, cmd.occurredAt⟩] := by
  unfold handleAddLine
  rw [@eq_comm _ decided]
  split
  . next err herr =>
    exact refused_eq_ok_iff ensureExisting_eq_ok_iff herr fun h => ⟨h.1, h.2.1, h.2.2.1⟩
  . next hok =>
    simp only [ite_error_eq_ok_iff]
    simp [ensureExisting_eq_ok_iff.mp hok]

theorem handleApprove_eq_ok_iff {cmd : Approve}
    : self.handleApprove cmd = .ok decided
        ↔
      self.created = true ∧ self.tenantId = some cmd.tenantId ∧ self.id = cmd.orderId
      ∧ self.status = .draft ∧ self.lines.isEmpty = false
      ∧ decided = [.purchaseOrderApproved ⟨cmd.tenantId, cmd.orderId, cmd.occurredAt⟩] := by
  unfold handleApprove
  rw [@eq_comm _ decided]
  split
  . next err herr =>
    exact refused_eq_ok_iff ensureExisting_eq_ok_iff herr fun h => ⟨h.1, h.2.1, h.2.2.1⟩
  . next hok =>
    simp only [ite_error_eq_ok_iff]
    simp [ensureExisting_eq_ok_iff.mp hok]

theorem handleReceive_eq_ok {cmd : ReceiveGoods} (h : self.handleReceive cmd = .ok decided)
    : (self.created = true ∧ self.tenantId = some cmd.tenantId ∧ self.id = cmd.orderId)
      ∧ self.status = .approved
      ∧ ∃ supplierId, self.supplierId = some supplierId
        ∧ decided = [.goodsReceived ⟨cmd.tenantId, cmd.orderId, supplierId, self.lines,
            cmd.occurredAt⟩] := by
  unfold handleReceive at h
  split at h
  . cases h
  . next hok =>
    split at h
    . cases h
    . next hstatus =>
      split at h
      . cases h
      . next supplierId hsupplier =>
        split at h
        . cases h
        . cases h
          exact ⟨ensureExisting_eq_ok_iff.mp hok,
            by simpa using hstatus, supplierId, hsupplier, rfl⟩

end PurchaseOrder

namespace Party

theorem ensureExisting_eq_ok_iff {self : Party} {tenantId : TenantId} {partyId : PartyId}
    : self.ensureExisting tenantId partyId = .ok ()
        ↔
      self.created = true ∧ self.tenantId = some tenantId ∧ self.id = partyId := by
  unfold ensureExisting ensureTenant ensurePartyId
  cases self.created with
  | false => simp
  | true =>
    simp only [Bool.not_true, Bool.false_eq_true, ↓reduceIte]
    split
    . next err herr =>
      split at herr
      . next htenant => simp_all
      . cases herr
    . next htenant =>
      split at htenant
      . cases htenant
      . simp_all

variable {self : Party} {decided : List PartyEvent}

theorem handleRegister_eq_ok_iff {cmd : RegisterParty}
    : self.handleRegister cmd = .ok decided
        ↔
      self.created = false ∧ trimIsEmpty cmd.name = false
      ∧ decided = [.partyRegistered ⟨cmd.tenantId, cmd.partyId, cmd.kind, cmd.name,
          cmd.contact.getD .default, cmd.occurredAt⟩] := by
  unfold handleRegister
  rw [@eq_comm _ decided]
  simp [ite_error_eq_ok_iff]

theorem handleUpdate_eq_ok_iff {cmd : UpdateDetails}
    : self.handleUpdate cmd = .ok decided
        ↔
      self.created = true ∧ self.tenantId = some cmd.tenantId ∧ self.id = cmd.partyId
      ∧ trimIsEmpty (cmd.name.getD self.name) = false
      ∧ decided = [.partyUpdated ⟨cmd.tenantId, cmd.partyId, cmd.name.getD self.name,
          cmd.contact.getD self.contact, cmd.occurredAt⟩] := by
  unfold handleUpdate
  rw [@eq_comm _ decided]
  split
  . next err herr =>
    exact refused_eq_ok_iff ensureExisting_eq_ok_iff herr fun h => ⟨h.1, h.2.1, h.2.2.1⟩
  . next hok =>
    simp only [ite_error_eq_ok_iff]
    simp [ensureExisting_eq_ok_iff.mp hok]

theorem handleSuspend_eq_ok_iff {cmd : SuspendParty}
    : self.handleSuspend cmd = .ok decided
        ↔
      self.created = true ∧ self.tenantId = some cmd.tenantId ∧ self.id = cmd.partyId
      ∧ self.status ≠ .suspended
      ∧ decided = [.partySuspended ⟨cmd.tenantId, cmd.partyId, cmd.reason, cmd.occurredAt⟩] := by
  unfold handleSuspend
  rw [@eq_comm _ decided]
  split
  . next err herr =>
    exact refused_eq_ok_iff ensureExisting_eq_ok_iff herr fun h => ⟨h.1, h.2.1, h.2.2.1⟩
  . next hok =>
    simp only [ite_error_eq_ok_iff]
    simp [ensureExisting_eq_ok_iff.mp hok]

end Party

namespace Product

theorem ensureExisting_eq_ok_iff {self : Product} {tenantId : TenantId} {productId : ProductId}
    : self.ensureExisting tenantId productId = .ok ()
        ↔
      self.created = true ∧ self.tenantId = some tenantId ∧ self.id = productId := by
  unfold ensureExisting ensureTenant ensureProductId
  cases self.created with
  | false => simp
  | true =>
    simp only [Bool.not_true, Bool.false_eq_true, ↓reduceIte]
    split
    . next err herr =>
      split at herr
      . next htenant => simp_all
      . cases herr
    . next htenant =>
      split at htenant
      . cases htenant
      . simp_all

variable {self : Product} {decided : List ProductEvent}

theorem handleCreate_eq_ok_iff {cmd : CreateProduct}
    : self.handleCreate cmd = .ok decided
        ↔
      self.created = false ∧ trimIsEmpty cmd.name = false ∧ trimIsEmpty cmd.sku = false
      ∧ decided = [.productCreated ⟨cmd.tenantId, cmd.productId, cmd.sku, cmd.name,
          cmd.pricing.getD .default, cmd.occurredAt⟩] := by
  unfold handleCreate
  rw [@eq_comm _ decided]
  simp [ite_error_eq_ok_iff]

theorem handleActivate_eq_ok_iff {cmd : ActivateProduct}
    : self.handleActivate cmd = .ok decided
        ↔
      self.created = true ∧ self.tenantId = some cmd.tenantId ∧ self.id = cmd.productId
      ∧ self.status ≠ .active ∧ self.status ≠ .archived
      ∧ decided = [.productActivated ⟨cmd.tenantId, cmd.productId, cmd.occurredAt⟩] := by
  unfold handleActivate
  rw [@eq_comm _ decided]
  split
  . next err herr =>
    exact refused_eq_ok_iff ensureExisting_eq_ok_iff herr fun h => ⟨h.1, h.2.1, h.2.2.1⟩
  . next hok =>
    simp only [ite_error_eq_ok_iff]
    simp [ensureExisting_eq_ok_iff.mp hok]

theorem handleArchive_eq_ok_iff {cmd : ArchiveProduct}
    : self.handleArchive cmd = .ok decided
        ↔
      self.created = true ∧ self.tenantId = some cmd.tenantId ∧ self.id = cmd.productId
      ∧ self.status ≠ .archived
      ∧ decided = [.productArchived ⟨cmd.tenantId, cmd.productId, cmd.occurredAt⟩] := by
  unfold handleArchive
  rw [@eq_comm _ decided]
  split
  . next err herr =>
    exact refused_eq_ok_iff ensureExisting_eq_ok_iff herr fun h => ⟨h.1, h.2.1, h.2.2.1⟩
  . next hok =>
    simp only [ite_error_eq_ok_iff]
    simp [ensureExisting_eq_ok_iff.mp hok]

end Product

theorem checkedAdd_eq_some_iff {a b c : UInt64}
    : checkedAdd a b = some c ↔ c.toNat = a.toNat + b.toNat := by
  unfold checkedAdd
  split
  . next h =>
    rw [Option.some.injEq, ← UInt64.toNat_inj, UInt64.toNat_add, Nat.mod_eq_of_lt h]
    omega
  . next h =>
    have := c.toNat_lt
    simp only [reduceCtorEq, false_iff]
    omega

theorem saturatingSub_pos_iff {a b : UInt64} : saturatingSub a b > 0 ↔ b < a := by
  unfold saturatingSub
  split
  . next h => simpa using h
  . next h =>
    rw [UInt64.not_le] at h
    have hlt := UInt64.lt_iff_toNat_lt.mp h
    simp only [gt_iff_lt, h, iff_true]
    rw [UInt64.lt_iff_toNat_lt, UInt64.toNat_sub_of_le _ _ (UInt64.le_of_lt h)]
    simp only [UInt64.toNat_zero]
    omega

namespace Invoice

theorem apply_paymentRegistered (self : Invoice) (e : PaymentRegistered)
    : self.apply (.paymentRegistered e)
        =
      { self with
        totalPaid := e.newTotalPaid
        status := if e.newTotalPaid ≥ self.totalAmount then .paid else self.status
        version := self.version + 1
      } := by
  simp only [apply]
  split <;> rfl

theorem canAcceptPayment_iff {self : Invoice}
    : self.canAcceptPayment = true ↔ self.status ≠ .void ∧ self.totalPaid < self.totalAmount := by
  simp [canAcceptPayment, outstandingAmount, saturatingSub_pos_iff]

theorem ensureExisting_eq_ok_iff {self : Invoice} {tenantId : TenantId} {invoiceId : InvoiceId}
    : self.ensureExisting tenantId invoiceId = .ok ()
        ↔
      self.created = true ∧ self.tenantId = some tenantId ∧ self.id = invoiceId := by
  unfold ensureExisting ensureTenant ensureInvoiceId
  cases self.created with
  | false => simp
  | true =>
    simp only [Bool.not_true, Bool.false_eq_true, ↓reduceIte]
    split
    . next err herr =>
      split at herr
      . next htenant => simp_all
      . cases herr
    . next htenant =>
      split at htenant
      . cases htenant
      . simp_all

variable {self : Invoice} {decided : List InvoiceEvent}

theorem handleIssue_eq_ok_iff {cmd : IssueInvoice}
    : self.handleIssue cmd = .ok decided
        ↔
      self.created = false ∧ cmd.lines.isEmpty = false
      ∧ ∃ total, sumLines 0 cmd.lines = .ok total
        ∧ decided = [.invoiceIssued ⟨cmd.tenantId, cmd.invoiceId, cmd.salesOrderId, cmd.lines,
            cmd.dueDate, total, cmd.occurredAt⟩] := by
  unfold handleIssue
  rw [ite_error_eq_ok_iff, ite_error_eq_ok_iff]
  split
  . next err herr => simp [herr]
  . next total htotal =>
    simp only [@eq_comm _ decided]
    simp [htotal]

theorem handleRegisterPayment_eq_ok_iff {cmd : RegisterPayment}
    : self.handleRegisterPayment cmd = .ok decided
        ↔
      self.created = true ∧ self.tenantId = some cmd.tenantId ∧ self.id = cmd.invoiceId
      ∧ self.canAcceptPayment = true ∧ cmd.amount ≠ 0
      ∧ ∃ newTotalPaid, checkedAdd self.totalPaid cmd.amount = some newTotalPaid
        ∧ ¬ newTotalPaid > self.totalAmount
        ∧ decided = [.paymentRegistered ⟨cmd.tenantId, cmd.invoiceId, cmd.amount, newTotalPaid,
            cmd.occurredAt⟩] := by
  unfold handleRegisterPayment
  split
  . next err herr =>
    exact refused_eq_ok_iff ensureExisting_eq_ok_iff herr fun h => ⟨h.1, h.2.1, h.2.2.1⟩
  . next hok =>
    rw [ite_error_eq_ok_iff, ite_error_eq_ok_iff]
    split
    . next hnone => simp [hnone]
    . next newTotalPaid hsome =>
      rw [ite_error_eq_ok_iff]
      simp only [@eq_comm _ decided]
      simp [ensureExisting_eq_ok_iff.mp hok, hsome]

theorem handleVoid_eq_ok_iff {cmd : VoidInvoice}
    : self.handleVoid cmd = .ok decided
        ↔
      self.created = true ∧ self.tenantId = some cmd.tenantId ∧ self.id = cmd.invoiceId
      ∧ self.status ≠ .void
      ∧ decided = [.invoiceVoided ⟨cmd.tenantId, cmd.invoiceId, cmd.reason, cmd.occurredAt⟩] := by
  unfold handleVoid
  rw [@eq_comm _ decided]
  split
  . next err herr =>
    exact refused_eq_ok_iff ensureExisting_eq_ok_iff herr fun h => ⟨h.1, h.2.1, h.2.2.1⟩
  . next hok =>
    simp only [ite_error_eq_ok_iff]
    simp [ensureExisting_eq_ok_iff.mp hok]

end Invoice

namespace Ledger

variable {self : Ledger} {decided : List LedgerEvent}

-- The checks of `handle_post` that do not look at the ledger.
def Balanced (lines : List JournalEntryLine) : Prop :=
  lines.isEmpty = false ∧ ∃ total, sumLines 0 0 lines = .ok (total, total)

theorem handlePost_eq_ok_iff {cmd : PostJournalEntry}
    : self.handlePost cmd = .ok decided
        ↔
      self.ensureTenant cmd.tenantId = .ok () ∧ Balanced cmd.lines
      ∧ decided = [.journalEntryPosted ⟨cmd.tenantId, cmd.ledgerId, cmd.entryId, cmd.lines,
          cmd.description, cmd.occurredAt⟩] := by
  unfold handlePost Balanced
  split
  . next err herr => simp [herr]
  . next hok =>
    rw [ite_error_eq_ok_iff]
    split
    . next err herr => simp [herr]
    . next debitTotal creditTotal htotals =>
      rw [ite_error_eq_ok_iff]
      simp only [@eq_comm _ decided]
      simp [hok, htotals, and_assoc, @eq_comm _ debitTotal]

end Ledger

namespace User

theorem ensureExisting_eq_ok_iff {self : User} {tenantId : TenantId}
    : self.ensureExisting tenantId = .ok ()
        ↔
      self.created = true ∧ self.tenantId = some tenantId := by
  unfold ensureExisting ensureTenant
  cases self.created with
  | false => simp
  | true => simp

variable {self : User} {decided : List UserEvent}

theorem handleCreate_eq_ok_iff [Lowercase] {cmd : CreateUser}
    : self.handleCreate cmd = .ok decided
        ↔
      self.created = false
      ∧ (trimIsEmpty cmd.email || !cmd.email.toList.contains '@') = false
      ∧ trimIsEmpty cmd.displayName = false
      ∧ decided = [.created ⟨cmd.tenantId, cmd.userId, Lowercase.toLowercase (trim cmd.email),
          trim cmd.displayName, cmd.initialRoles, cmd.occurredAt⟩] := by
  unfold handleCreate
  rw [@eq_comm _ decided]
  simp only [ite_error_eq_ok_iff, Bool.not_eq_true, Except.ok.injEq]

theorem handleAssignRole_eq_ok_iff {cmd : AssignRole}
    : self.handleAssignRole cmd = .ok decided
        ↔
      self.created = true ∧ self.tenantId = some cmd.tenantId ∧ self.status ≠ .suspended
      ∧ hasRole self.roles cmd.role.asStr = false
      ∧ (hasRole cmd.actorRoles "admin" = true ∨ hasRole cmd.actorRoles cmd.role.asStr = true)
      ∧ decided = [.roleAssigned ⟨cmd.tenantId, cmd.userId, cmd.role, cmd.occurredAt⟩] := by
  unfold handleAssignRole ensureNotSuspended
  rw [@eq_comm _ decided]
  split
  . next err herr =>
    exact refused_eq_ok_iff ensureExisting_eq_ok_iff herr fun h => ⟨h.1, h.2.1⟩
  . next hok =>
    rcases ensureExisting_eq_ok_iff.mp hok with ⟨hcreated, htenant⟩
    by_cases hstatus : self.status = .suspended
    . simp [hstatus]
    . simp only [hstatus, ↓reduceIte, ite_error_eq_ok_iff]
      simp [hcreated, htenant, hstatus, Decidable.or_iff_not_imp_left]

theorem handleRevokeRole_eq_ok_iff {cmd : RevokeRole}
    : self.handleRevokeRole cmd = .ok decided
        ↔
      self.created = true ∧ self.tenantId = some cmd.tenantId
      ∧ hasRole self.roles cmd.role.asStr = true
      ∧ decided = [.roleRevoked ⟨cmd.tenantId, cmd.userId, cmd.role, cmd.occurredAt⟩] := by
  unfold handleRevokeRole
  rw [@eq_comm _ decided]
  split
  . next err herr =>
    exact refused_eq_ok_iff ensureExisting_eq_ok_iff herr fun h => ⟨h.1, h.2.1⟩
  . next hok =>
    simp only [ite_error_eq_ok_iff]
    simp [ensureExisting_eq_ok_iff.mp hok]

theorem handleSuspend_eq_ok_iff {cmd : SuspendUser}
    : self.handleSuspend cmd = .ok decided
        ↔
      self.created = true ∧ self.tenantId = some cmd.tenantId ∧ self.status ≠ .suspended
      ∧ decided = [.suspended ⟨cmd.tenantId, cmd.userId, cmd.reason, cmd.occurredAt⟩] := by
  unfold handleSuspend
  rw [@eq_comm _ decided]
  split
  . next err herr =>
    exact refused_eq_ok_iff ensureExisting_eq_ok_iff herr fun h => ⟨h.1, h.2.1⟩
  . next hok =>
    simp only [ite_error_eq_ok_iff]
    simp [ensureExisting_eq_ok_iff.mp hok]

theorem handleActivate_eq_ok_iff {cmd : ActivateUser}
    : self.handleActivate cmd = .ok decided
        ↔
      self.created = true ∧ self.tenantId = some cmd.tenantId ∧ self.status ≠ .active
      ∧ decided = [.activated ⟨cmd.tenantId, cmd.userId, cmd.occurredAt⟩] := by
  unfold handleActivate
  rw [@eq_comm _ decided]
  split
  . next err herr =>
    exact refused_eq_ok_iff ensureExisting_eq_ok_iff herr fun h => ⟨h.1, h.2.1⟩
  . next hok =>
    simp only [ite_error_eq_ok_iff]
    simp [ensureExisting_eq_ok_iff.mp hok]

end User

end ForgeErp
