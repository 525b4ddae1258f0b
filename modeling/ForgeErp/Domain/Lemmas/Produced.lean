import ForgeErp.Domain.Inventory
import ForgeErp.Domain.Invoicing
import ForgeErp.Domain.Parties
import ForgeErp.Domain.Purchasing
import ForgeErp.Domain.Sales

/-!
This module contains facts about the events that `handle` decides on: what a fresh aggregate can
answer, and which identifiers the events carry.
-/

namespace ForgeErp

namespace InventoryItem

theorem handle_empty {id : InventoryItemId} {command : InventoryCommand} {ev : InventoryEvent}
    {rest : List InventoryEvent} (h : handle (empty id) command = .ok (ev :: rest))
    : ∃ e, ev = .itemCreated e := by
  cases command with
  | createItem cmd =>
    simp only [handle, handleCreate, empty, Bool.false_eq_true, ↓reduceIte] at h
    split at h
    . cases h
    . cases h
      exact ⟨_, rfl⟩
  | adjustStock cmd => simp [handle, handleAdjust, empty] at h

end InventoryItem

namespace InventoryCommand

def tenantId (self : InventoryCommand) : TenantId :=
  match self with
  | .createItem cmd => cmd.tenantId
  | .adjustStock cmd => cmd.tenantId

def itemId (self : InventoryCommand) : InventoryItemId :=
  match self with
  | .createItem cmd => cmd.itemId
  | .adjustStock cmd => cmd.itemId

end InventoryCommand

theorem InventoryItem.handle_ids {self : InventoryItem} {command : InventoryCommand}
    {decided : List InventoryEvent} (h : self.handle command = .ok decided)
    : ∀ ev ∈ decided, ev.tenantId = command.tenantId ∧ ev.itemId = command.itemId := by
  cases command with
  | createItem cmd =>
    simp only [handle, handleCreate] at h
    split at h
    . cases h
    . split at h
      . cases h
      . cases h
        simp [InventoryEvent.tenantId, InventoryEvent.itemId, InventoryCommand.tenantId,
          InventoryCommand.itemId]
  | adjustStock cmd =>
    simp only [handle, handleAdjust] at h
    split at h
    . cases h
    . split at h
      . cases h
      . split at h
        . cases h
        . split at h
          . cases h
          . split at h
            . cases h
            . cases h
              simp [InventoryEvent.tenantId, InventoryEvent.itemId, InventoryCommand.tenantId,
                InventoryCommand.itemId]

theorem SalesOrder.handle_empty {id : SalesOrderId} {command : SalesOrderCommand}
    {ev : SalesOrderEvent} {rest : List SalesOrderEvent}
    (h : handle (empty id) command = .ok (ev :: rest)) : ∃ e, ev = .salesOrderCreated e := by
  cases command with
  | createSalesOrder cmd =>
    simp only [handle, handleCreate, empty] at h
    cases h
    exact ⟨_, rfl⟩
  | addLine cmd => simp [handle, handleAddLine, ensureExisting, empty] at h
  | confirmOrder cmd => simp [handle, handleConfirm, ensureExisting, empty] at h
  | markInvoiced cmd => simp [handle, handleMarkInvoiced, ensureExisting, empty] at h

theorem PurchaseOrder.handle_empty {id : PurchaseOrderId} {command : PurchaseOrderCommand}
    {ev : PurchaseOrderEvent} {rest : List PurchaseOrderEvent}
    (h : handle (empty id) command = .ok (ev :: rest)) : ∃ e, ev = .purchaseOrderCreated e := by
  cases command with
  | createPurchaseOrder cmd =>
    simp only [handle, handleCreate, empty] at h
    cases h
    exact ⟨_, rfl⟩
  | addLine cmd => simp [handle, handleAddLine, ensureExisting, empty] at h
  | approve cmd => simp [handle, handleApprove, ensureExisting, empty] at h
  | receiveGoods cmd => simp [handle, handleReceive, ensureExisting, empty] at h

theorem Party.handle_empty {id : PartyId} {command : PartyCommand} {ev : PartyEvent}
    {rest : List PartyEvent} (h : handle (empty id) command = .ok (ev :: rest))
    : ∃ e, ev = .partyRegistered e := by
  cases command with
  | registerParty cmd =>
    simp only [handle, handleRegister, empty, Bool.false_eq_true, ↓reduceIte] at h
    split at h
    . cases h
    . cases h
      exact ⟨_, rfl⟩
  | updateDetails cmd => simp [handle, handleUpdate, ensureExisting, empty] at h
  | suspendParty cmd => simp [handle, handleSuspend, ensureExisting, empty] at h

theorem Invoice.handle_empty {id : InvoiceId} {command : InvoiceCommand} {ev : InvoiceEvent}
    {rest : List InvoiceEvent} (h : handle (empty id) command = .ok (ev :: rest))
    : ∃ e, ev = .invoiceIssued e := by
  cases command with
  | issueInvoice cmd =>
    simp only [handle, handleIssue, empty, Bool.false_eq_true, ↓reduceIte] at h
    split at h
    . cases h
    . split at h
      . cases h
      . cases h
        exact ⟨_, rfl⟩
  | registerPayment cmd => simp [handle, handleRegisterPayment, ensureExisting, empty] at h
  | voidInvoice cmd => simp [handle, handleVoid, ensureExisting, empty] at h

end ForgeErp
