import ForgeErp.Domain.Kinds
import ForgeErp.Domain.Lemmas.Decisions

/-!
This module contains the identifiers that events inherit from commands. A handler compares those of
its command with the aggregate, except that a creating command is not compared with anything, that
a ledger ignores the `ledger_id` and that a user ignores the `user_id`.
-/

namespace ForgeErp

namespace AggregateKind

variable [Lowercase]

def created (kind : AggregateKind) : kind.aggregate.State → Bool :=
  match kind with
  | .inventoryItem => InventoryItem.created
  | .invoice => Invoice.created
  | .ledger => Ledger.created
  | .user => User.created
  | .salesOrder => SalesOrder.created
  | .purchaseOrder => PurchaseOrder.created
  | .party => Party.created
  | .product => Product.created

def tenantIn (kind : AggregateKind) : kind.aggregate.State → Option TenantId :=
  match kind with
  | .inventoryItem => InventoryItem.tenantId
  | .invoice => Invoice.tenantId
  | .ledger => Ledger.tenantId
  | .user => User.tenantId
  | .salesOrder => SalesOrder.tenantId
  | .purchaseOrder => PurchaseOrder.tenantId
  | .party => Party.tenantId
  | .product => Product.tenantId

def idIn (kind : AggregateKind) : kind.aggregate.State → AggregateId :=
  match kind with
  | .inventoryItem => fun state => (InventoryItem.id state).aggregateId
  | .invoice => fun state => (Invoice.id state).aggregateId
  | .ledger => fun state => (Ledger.id state).aggregateId
  | .user => fun state => (User.id state).aggregateId
  | .salesOrder => fun state => (SalesOrder.id state).aggregateId
  | .purchaseOrder => fun state => (PurchaseOrder.id state).aggregateId
  | .party => fun state => (Party.id state).aggregateId
  | .product => fun state => (Product.id state).aggregateId

def idsOf (kind : AggregateKind) (command : kind.aggregate.Command) : TenantId × AggregateId :=
  match kind, command with
  | .inventoryItem, .createItem cmd => (cmd.tenantId, cmd.itemId.aggregateId)
  | .inventoryItem, .adjustStock cmd => (cmd.tenantId, cmd.itemId.aggregateId)
  | .invoice, .issueInvoice cmd => (cmd.tenantId, cmd.invoiceId.aggregateId)
  | .invoice, .registerPayment cmd => (cmd.tenantId, cmd.invoiceId.aggregateId)
  | .invoice, .voidInvoice cmd => (cmd.tenantId, cmd.invoiceId.aggregateId)
  | .ledger, .postJournalEntry cmd => (cmd.tenantId, cmd.ledgerId.aggregateId)
  | .user, .create cmd => (cmd.tenantId, cmd.userId.aggregateId)
  | .user, .assignRole cmd => (cmd.tenantId, cmd.userId.aggregateId)
  | .user, .revokeRole cmd => (cmd.tenantId, cmd.userId.aggregateId)
  | .user, .suspend cmd => (cmd.tenantId, cmd.userId.aggregateId)
  | .user, .activate cmd => (cmd.tenantId, cmd.userId.aggregateId)
  | .salesOrder, .createSalesOrder cmd => (cmd.tenantId, cmd.orderId.aggregateId)
  | .salesOrder, .addLine cmd => (cmd.tenantId, cmd.orderId.aggregateId)
  | .salesOrder, .confirmOrder cmd => (cmd.tenantId, cmd.orderId.aggregateId)
  | .salesOrder, .markInvoiced cmd => (cmd.tenantId, cmd.orderId.aggregateId)
  | .purchaseOrder, .createPurchaseOrder cmd => (cmd.tenantId, cmd.orderId.aggregateId)
  | .purchaseOrder, .addLine cmd => (cmd.tenantId, cmd.orderId.aggregateId)
  | .purchaseOrder, .approve cmd => (cmd.tenantId, cmd.orderId.aggregateId)
  | .purchaseOrder, .receiveGoods cmd => (cmd.tenantId, cmd.orderId.aggregateId)
  | .party, .registerParty cmd => (cmd.tenantId, cmd.partyId.aggregateId)
  | .party, .updateDetails cmd => (cmd.tenantId, cmd.partyId.aggregateId)
  | .party, .suspendParty cmd => (cmd.tenantId, cmd.partyId.aggregateId)
  | .product, .createProduct cmd => (cmd.tenantId, cmd.productId.aggregateId)
  | .product, .activateProduct cmd => (cmd.tenantId, cmd.productId.aggregateId)
  | .product, .archiveProduct cmd => (cmd.tenantId, cmd.productId.aggregateId)

-- The commands that an aggregate accepts as its first.
def opens (kind : AggregateKind) (command : kind.aggregate.Command) : Bool :=
  match kind, command with
  | .inventoryItem, .createItem _ => true
  | .invoice, .issueInvoice _ => true
  | .ledger, .postJournalEntry _ => true
  | .user, .create _ => true
  | .salesOrder, .createSalesOrder _ => true
  | .purchaseOrder, .createPurchaseOrder _ => true
  | .party, .registerParty _ => true
  | .product, .createProduct _ => true
  | _, _ => false

-- The commands whose aggregate identifier is not looked at.
def ignoresId (kind : AggregateKind) (command : kind.aggregate.Command) : Bool :=
  match kind, command with
  | .ledger, .postJournalEntry _ => true
  | .user, .assignRole _ => true
  | .user, .revokeRole _ => true
  | .user, .suspend _ => true
  | .user, .activate _ => true
  | _, _ => false

/--
What an accepted command says about its event and about the aggregate before and after it.
-/
structure Accepted (kind : AggregateKind) (state : kind.aggregate.State)
    (command : kind.aggregate.Command) (ev : kind.aggregate.Event) : Prop where
  ids_eq : (kind.tenantOf ev, kind.idOf ev) = kind.idsOf command
  opens : kind.created state = false → kind.opens command = true
  tenant_checked : kind.created state = true → kind.tenantIn state = some (kind.tenantOf ev)
  id_checked : kind.created state = true → kind.ignoresId command = false →
    kind.idIn state = kind.idOf ev
  created_after : kind.created (kind.aggregate.apply state ev) = true
  tenant_after : kind.tenantIn (kind.aggregate.apply state ev) = some (kind.tenantOf ev)
  id_after : kind.idIn (kind.aggregate.apply state ev) = kind.idOf ev
    ∨ kind.created state = true ∧ kind.idIn (kind.aggregate.apply state ev) = kind.idIn state

theorem Accepted.of_opened {kind : AggregateKind} {state : kind.aggregate.State}
    {command : kind.aggregate.Command} {ev : kind.aggregate.Event}
    (hids : (kind.tenantOf ev, kind.idOf ev) = kind.idsOf command)
    (hopens : kind.opens command = true) (hcreated : kind.created state = false)
    (hafter : kind.created (kind.aggregate.apply state ev) = true
      ∧ kind.tenantIn (kind.aggregate.apply state ev) = some (kind.tenantOf ev)
      ∧ kind.idIn (kind.aggregate.apply state ev) = kind.idOf ev)
    : kind.Accepted state command ev := by
  constructor
  . exact hids
  . intro _
    exact hopens
  . simp [hcreated]
  . simp [hcreated]
  . exact hafter.1
  . exact hafter.2.1
  . exact Or.inl hafter.2.2

theorem Accepted.of_checked {kind : AggregateKind} {state : kind.aggregate.State}
    {command : kind.aggregate.Command} {ev : kind.aggregate.Event}
    (hids : (kind.tenantOf ev, kind.idOf ev) = kind.idsOf command)
    (hcreated : kind.created state = true)
    (htenant : kind.tenantIn state = some (kind.tenantOf ev))
    (hid : kind.ignoresId command = false → kind.idIn state = kind.idOf ev)
    (hafter : kind.created (kind.aggregate.apply state ev) = kind.created state
      ∧ kind.tenantIn (kind.aggregate.apply state ev) = kind.tenantIn state
      ∧ kind.idIn (kind.aggregate.apply state ev) = kind.idIn state)
    : kind.Accepted state command ev := by
  constructor
  . exact hids
  . simp [hcreated]
  . intro _
    exact htenant
  . intro _
    exact hid
  . rw [hafter.1, hcreated]
  . rw [hafter.2.1, htenant]
  . exact Or.inr ⟨hcreated, hafter.2.2⟩

end AggregateKind

section Accepted

variable [Lowercase]

theorem InventoryItem.accepted {state : InventoryItem} {command : InventoryCommand}
    {decided : List InventoryEvent} (h : state.handle command = .ok decided)
    : ∃ ev, decided = [ev] ∧ AggregateKind.Accepted .inventoryItem state command ev := by
  cases command with
  | createItem cmd =>
    rcases handleCreate_eq_ok_iff.mp h with ⟨hcreated, -, rfl⟩
    exact ⟨_, rfl, .of_opened rfl rfl hcreated ⟨rfl, rfl, rfl⟩⟩
  | adjustStock cmd =>
    rcases handleAdjust_eq_ok_iff.mp h with ⟨hcreated, htenant, hid, -, -, rfl⟩
    exact ⟨_, rfl, .of_checked rfl hcreated htenant (fun _ => congrArg (·.aggregateId) hid)
      ⟨rfl, rfl, rfl⟩⟩

theorem Invoice.accepted {state : Invoice} {command : InvoiceCommand}
    {decided : List InvoiceEvent} (h : state.handle command = .ok decided)
    : ∃ ev, decided = [ev] ∧ AggregateKind.Accepted .invoice state command ev := by
  cases command with
  | issueInvoice cmd =>
    rcases handleIssue_eq_ok_iff.mp h with ⟨hcreated, -, total, -, rfl⟩
    exact ⟨_, rfl, .of_opened rfl rfl hcreated ⟨rfl, rfl, rfl⟩⟩
  | registerPayment cmd =>
    rcases handleRegisterPayment_eq_ok_iff.mp h with ⟨hcreated, htenant, hid, -, -, paid, -, -, rfl⟩
    refine ⟨_, rfl, .of_checked rfl hcreated htenant (fun _ => congrArg InvoiceId.aggregateId hid)
      ?_⟩
    dsimp only [AggregateKind.aggregate, aggregate]
    rw [apply_paymentRegistered]
    exact ⟨rfl, rfl, rfl⟩
  | voidInvoice cmd =>
    rcases handleVoid_eq_ok_iff.mp h with ⟨hcreated, htenant, hid, -, rfl⟩
    exact ⟨_, rfl, .of_checked rfl hcreated htenant (fun _ => congrArg (·.aggregateId) hid)
      ⟨rfl, rfl, rfl⟩⟩

theorem Ledger.accepted {state : Ledger} {command : JournalCommand} {decided : List LedgerEvent}
    (hstate : state.created = state.tenantId.isSome) (h : state.handle command = .ok decided)
    : ∃ ev, decided = [ev] ∧ AggregateKind.Accepted .ledger state command ev := by
  cases command with
  | postJournalEntry cmd =>
    rcases handlePost_eq_ok_iff.mp h with ⟨htenant, -, rfl⟩
    refine ⟨_, rfl, ?_⟩
    cases ht : state.tenantId with
    | none =>
      have hcreated : state.created = false := by simp [hstate, ht]
      refine AggregateKind.Accepted.of_opened rfl rfl hcreated ?_
      simp [AggregateKind.created, AggregateKind.tenantIn, AggregateKind.idIn,
        AggregateKind.tenantOf, AggregateKind.idOf, LedgerEvent.tenantId, LedgerEvent.ledgerId,
        AggregateKind.aggregate, aggregate, apply, ht]
    | some t =>
      have hcreated : state.created = true := by simp [hstate, ht]
      have hown : state.tenantId = some cmd.tenantId := by
        simpa [ensureTenant, hcreated] using htenant
      constructor
      . rfl
      . intro _
        rfl
      . intro _
        exact hown
      . intro _ hchecks
        cases hchecks
      all_goals
        simp [AggregateKind.created, AggregateKind.tenantIn, AggregateKind.idIn,
          AggregateKind.tenantOf, AggregateKind.idOf, LedgerEvent.tenantId, LedgerEvent.ledgerId,
          AggregateKind.aggregate, aggregate, apply, hown, hcreated]

theorem User.accepted {state : User} {command : UserCommand}
    {decided : List UserEvent} (h : state.handle command = .ok decided)
    : ∃ ev, decided = [ev] ∧ AggregateKind.Accepted .user state command ev := by
  cases command with
  | create cmd =>
    rcases handleCreate_eq_ok_iff.mp h with ⟨hcreated, -, -, rfl⟩
    exact ⟨_, rfl, .of_opened rfl rfl hcreated ⟨rfl, rfl, rfl⟩⟩
  | assignRole cmd =>
    rcases handleAssignRole_eq_ok_iff.mp h with ⟨hcreated, htenant, -, -, -, rfl⟩
    exact ⟨_, rfl, .of_checked rfl hcreated htenant
      (by simp [AggregateKind.ignoresId]) ⟨rfl, rfl, rfl⟩⟩
  | revokeRole cmd =>
    rcases handleRevokeRole_eq_ok_iff.mp h with ⟨hcreated, htenant, -, rfl⟩
    exact ⟨_, rfl, .of_checked rfl hcreated htenant
      (by simp [AggregateKind.ignoresId]) ⟨rfl, rfl, rfl⟩⟩
  | suspend cmd =>
    rcases handleSuspend_eq_ok_iff.mp h with ⟨hcreated, htenant, -, rfl⟩
    exact ⟨_, rfl, .of_checked rfl hcreated htenant
      (by simp [AggregateKind.ignoresId]) ⟨rfl, rfl, rfl⟩⟩
  | activate cmd =>
    rcases handleActivate_eq_ok_iff.mp h with ⟨hcreated, htenant, -, rfl⟩
    exact ⟨_, rfl, .of_checked rfl hcreated htenant
      (by simp [AggregateKind.ignoresId]) ⟨rfl, rfl, rfl⟩⟩

theorem SalesOrder.accepted {state : SalesOrder} {command : SalesOrderCommand}
    {decided : List SalesOrderEvent} (h : state.handle command = .ok decided)
    : ∃ ev, decided = [ev] ∧ AggregateKind.Accepted .salesOrder state command ev := by
  cases command with
  | createSalesOrder cmd =>
    rcases handleCreate_eq_ok_iff.mp h with ⟨hcreated, rfl⟩
    exact ⟨_, rfl, .of_opened rfl rfl hcreated ⟨rfl, rfl, rfl⟩⟩
  | addLine cmd =>
    rcases handleAddLine_eq_ok_iff.mp h with ⟨hcreated, htenant, hid, -, -, -, rfl⟩
    exact ⟨_, rfl, .of_checked rfl hcreated htenant (fun _ => congrArg (·.aggregateId) hid)
      ⟨rfl, rfl, rfl⟩⟩
  | confirmOrder cmd =>
    rcases handleConfirm_eq_ok_iff.mp h with ⟨hcreated, htenant, hid, -, -, rfl⟩
    exact ⟨_, rfl, .of_checked rfl hcreated htenant (fun _ => congrArg (·.aggregateId) hid)
      ⟨rfl, rfl, rfl⟩⟩
  | markInvoiced cmd =>
    rcases handleMarkInvoiced_eq_ok_iff.mp h with ⟨hcreated, htenant, hid, -, rfl⟩
    exact ⟨_, rfl, .of_checked rfl hcreated htenant (fun _ => congrArg (·.aggregateId) hid)
      ⟨rfl, rfl, rfl⟩⟩

theorem PurchaseOrder.accepted {state : PurchaseOrder} {command : PurchaseOrderCommand}
    {decided : List PurchaseOrderEvent} (h : state.handle command = .ok decided)
    : ∃ ev, decided = [ev] ∧ AggregateKind.Accepted .purchaseOrder state command ev := by
  cases command with
  | createPurchaseOrder cmd =>
    rcases handleCreate_eq_ok_iff.mp h with ⟨hcreated, rfl⟩
    exact ⟨_, rfl, .of_opened rfl rfl hcreated ⟨rfl, rfl, rfl⟩⟩
  | addLine cmd =>
    rcases handleAddLine_eq_ok_iff.mp h with ⟨hcreated, htenant, hid, -, -, rfl⟩
    exact ⟨_, rfl, .of_checked rfl hcreated htenant (fun _ => congrArg (·.aggregateId) hid)
      ⟨rfl, rfl, rfl⟩⟩
  | approve cmd =>
    rcases handleApprove_eq_ok_iff.mp h with ⟨hcreated, htenant, hid, -, -, rfl⟩
    exact ⟨_, rfl, .of_checked rfl hcreated htenant (fun _ => congrArg (·.aggregateId) hid)
      ⟨rfl, rfl, rfl⟩⟩
  | receiveGoods cmd =>
    rcases handleReceive_eq_ok h with ⟨⟨hcreated, htenant, hid⟩, -, supplierId, -, rfl⟩
    exact ⟨_, rfl, .of_checked rfl hcreated htenant (fun _ => congrArg (·.aggregateId) hid)
      ⟨rfl, rfl, rfl⟩⟩

theorem Party.accepted {state : Party} {command : PartyCommand}
    {decided : List PartyEvent} (h : state.handle command = .ok decided)
    : ∃ ev, decided = [ev] ∧ AggregateKind.Accepted .party state command ev := by
  cases command with
  | registerParty cmd =>
    rcases handleRegister_eq_ok_iff.mp h with ⟨hcreated, -, rfl⟩
    exact ⟨_, rfl, .of_opened rfl rfl hcreated ⟨rfl, rfl, rfl⟩⟩
  | updateDetails cmd =>
    rcases handleUpdate_eq_ok_iff.mp h with ⟨hcreated, htenant, hid, -, rfl⟩
    exact ⟨_, rfl, .of_checked rfl hcreated htenant (fun _ => congrArg (·.aggregateId) hid)
      ⟨rfl, rfl, rfl⟩⟩
  | suspendParty cmd =>
    rcases handleSuspend_eq_ok_iff.mp h with ⟨hcreated, htenant, hid, -, rfl⟩
    exact ⟨_, rfl, .of_checked rfl hcreated htenant (fun _ => congrArg (·.aggregateId) hid)
      ⟨rfl, rfl, rfl⟩⟩

theorem Product.accepted {state : Product} {command : ProductCommand}
    {decided : List ProductEvent} (h : state.handle command = .ok decided)
    : ∃ ev, decided = [ev] ∧ AggregateKind.Accepted .product state command ev := by
  cases command with
  | createProduct cmd =>
    rcases handleCreate_eq_ok_iff.mp h with ⟨hcreated, -, -, rfl⟩
    exact ⟨_, rfl, .of_opened rfl rfl hcreated ⟨rfl, rfl, rfl⟩⟩
  | activateProduct cmd =>
    rcases handleActivate_eq_ok_iff.mp h with ⟨hcreated, htenant, hid, -, -, rfl⟩
    exact ⟨_, rfl, .of_checked rfl hcreated htenant (fun _ => congrArg (·.aggregateId) hid)
      ⟨rfl, rfl, rfl⟩⟩
  | archiveProduct cmd =>
    rcases handleArchive_eq_ok_iff.mp h with ⟨hcreated, htenant, hid, -, rfl⟩
    exact ⟨_, rfl, .of_checked rfl hcreated htenant (fun _ => congrArg (·.aggregateId) hid)
      ⟨rfl, rfl, rfl⟩⟩

end Accepted

namespace AggregateKind

variable [Lowercase] {kind : AggregateKind} {tenantId : TenantId} {id : AggregateId}

theorem created_makeAggregate (kind : AggregateKind) (tenantId : TenantId) (id : AggregateId)
    : kind.created (kind.makeAggregate tenantId id) = false := by
  cases kind <;> rfl

structure Owned (kind : AggregateKind) (tenantId : TenantId) (id : AggregateId)
    (state : kind.aggregate.State) : Prop where
  created : kind.created state = true
  tenant : kind.tenantIn state = some tenantId
  id : kind.idIn state = id

/--
Where no handler compares the identifiers of the command, they are those of the stream. `first` says
that the stream is empty.
-/
structure Honest (kind : AggregateKind) (tenantId : TenantId) (id : AggregateId) (first : Prop)
    (command : kind.aggregate.Command) : Prop where
  opening : first → kind.opens command = true → kind.idsOf command = (tenantId, id)
  unchecked : kind.ignoresId command = true → (kind.idsOf command).2 = id

theorem accepted {state : kind.aggregate.State} {command : kind.aggregate.Command}
    {decided : List kind.aggregate.Event}
    (hstate : state = kind.makeAggregate tenantId id ∨ kind.Owned tenantId id state)
    (h : kind.aggregate.handle state command = .ok decided)
    : ∃ ev, decided = [ev] ∧ kind.Accepted state command ev := by
  cases kind with
  | inventoryItem => exact InventoryItem.accepted h
  | invoice => exact Invoice.accepted h
  | ledger =>
    apply Ledger.accepted _ h
    cases hstate with
    | inl hmake =>
      rw [hmake]
      rfl
    | inr howned =>
      have hcreated : Ledger.created state = true := howned.created
      have htenant : Ledger.tenantId state = some tenantId := howned.tenant
      rw [hcreated, htenant]
      rfl
  | user => exact User.accepted h
  | salesOrder => exact SalesOrder.accepted h
  | purchaseOrder => exact PurchaseOrder.accepted h
  | party => exact Party.accepted h
  | product => exact Product.accepted h

theorem handle_keeps_ids {first : Prop} {state : kind.aggregate.State}
    {command : kind.aggregate.Command} {decided : List kind.aggregate.Event}
    (hstate : (first ∧ state = kind.makeAggregate tenantId id) ∨ kind.Owned tenantId id state)
    (hhonest : kind.Honest tenantId id first command)
    (h : kind.aggregate.handle state command = .ok decided)
    : ∃ ev, decided = [ev] ∧ kind.tenantOf ev = tenantId ∧ kind.idOf ev = id
        ∧ kind.Owned tenantId id (kind.aggregate.apply state ev) := by
  rcases accepted (hstate.imp_left And.right) h with ⟨ev, hdecided, haccepted⟩
  have hids : kind.tenantOf ev = tenantId ∧ kind.idOf ev = id := by
    have hev := haccepted.ids_eq
    cases hstate with
    | inl hfirst =>
      have hcreated : kind.created state = false := by
        rw [hfirst.2]
        apply created_makeAggregate
      rw [hhonest.opening hfirst.1 (haccepted.opens hcreated)] at hev
      exact Prod.mk.inj hev
    | inr howned =>
      constructor
      . have htenant := haccepted.tenant_checked howned.created
        rw [howned.tenant] at htenant
        exact (Option.some.inj htenant).symm
      . cases hignores : kind.ignoresId command with
        | true =>
          have hid := hhonest.unchecked hignores
          rw [← hev] at hid
          exact hid
        | false =>
          have hid := haccepted.id_checked howned.created hignores
          rw [howned.id] at hid
          exact hid.symm
  refine ⟨ev, hdecided, hids.1, hids.2, haccepted.created_after, ?_, ?_⟩
  . rw [haccepted.tenant_after, hids.1]
  . cases haccepted.id_after with
    | inl hid => rw [hid, hids.2]
    | inr hkept =>
      rw [hkept.2]
      cases hstate with
      | inl hfirst =>
        have hcreated := hkept.1
        rw [hfirst.2, created_makeAggregate] at hcreated
        cases hcreated
      | inr howned => exact howned.id

end AggregateKind

end ForgeErp
