import ForgeErp.Domain.Kinds
import ForgeErp.Domain.Lemmas.Decisions

/-!
This module contains what happens to an aggregate when an accepted command is handled once more in
the state it has led to: most commands are rejected or repeat what they did, the additive ones add.
-/

namespace ForgeErp

namespace Aggregate

variable (A : Aggregate) {β : Type} (view : A.State → List A.Event → β)

-- Once more after `decided`, the command leaves the view of the aggregate as it is.
def RepeatKeeps (state : A.State) (history decided : List A.Event) (command : A.Command) : Prop :=
  ∀ decided', A.handle (A.rehydrate state decided) command = .ok decided' →
    view (A.rehydrate state (decided ++ decided')) (history ++ decided ++ decided')
      =
    view (A.rehydrate state decided) (history ++ decided)

theorem RepeatKeeps.of_rejected {state : A.State} {history decided : List A.Event}
    {command : A.Command}
    (h : ∀ decided', A.handle (A.rehydrate state decided) command ≠ .ok decided')
    : A.RepeatKeeps view state history decided command := by
  intro decided' hok
  exact absurd hok (h decided')

theorem RepeatKeeps.not_of_accepted {state : A.State} {history decided : List A.Event}
    {command : A.Command}
    (h : ∃ decided', A.handle (A.rehydrate state decided) command = .ok decided'
      ∧ view (A.rehydrate state (decided ++ decided')) (history ++ decided ++ decided')
          ≠ view (A.rehydrate state decided) (history ++ decided))
    : ¬ A.RepeatKeeps view state history decided command := by
  rcases h with ⟨decided', hok, hne⟩
  intro hkeeps
  exact hne (hkeeps decided' hok)

end Aggregate

namespace AggregateKind

variable [Lowercase]

-- All of the state but its version; a ledger keeps nothing but its journal.
def Business (kind : AggregateKind) : Type :=
  match kind with
  | .ledger => List JournalEntryLine
  | kind => kind.aggregate.State

def business (kind : AggregateKind) (state : kind.aggregate.State)
    (history : List kind.aggregate.Event)
    : kind.Business :=
  match kind, state, history with
  | .inventoryItem, (state : InventoryItem), _ => { state with version := 0 }
  | .invoice, (state : Invoice), _ => { state with version := 0 }
  | .ledger, _, (history : List LedgerEvent) => history.flatMap LedgerEvent.lines
  | .user, (state : User), _ => { state with version := 0 }
  | .salesOrder, (state : SalesOrder), _ => { state with version := 0 }
  | .purchaseOrder, (state : PurchaseOrder), _ => { state with version := 0 }
  | .party, (state : Party), _ => { state with version := 0 }
  | .product, (state : Product), _ => { state with version := 0 }

/--
The commands that can be repeated. Of the additive ones only those are left whose second execution
is out of bounds.
-/
def Harmless (kind : AggregateKind) (state : kind.aggregate.State)
    (command : kind.aggregate.Command)
    : Prop :=
  match kind, state, command with
  | .inventoryItem, (state : InventoryItem), .adjustStock cmd =>
    state.stock + cmd.delta + cmd.delta < 0
  | .invoice, (state : Invoice), .registerPayment cmd =>
    state.totalAmount.toNat < state.totalPaid.toNat + cmd.amount.toNat + cmd.amount.toNat
  | .ledger, _, .postJournalEntry _ => False
  | .salesOrder, _, .addLine _ => False
  | .purchaseOrder, _, .addLine _ => False
  | _, _, _ => True

end AggregateKind

theorem User.hasRole_filter_ne (roles : List Role) (name : String)
    : hasRole (roles.filter (fun r => r.asStr ≠ name)) name = false := by
  simp [hasRole]

-- A ledger learns its tenant with its first entry.
theorem Ledger.created_apply {state : Ledger} (h : state.created = state.tenantId.isSome)
    (ev : LedgerEvent) : (state.apply ev).created = (state.apply ev).tenantId.isSome := by
  cases ev with
  | journalEntryPosted e =>
    simp only [apply]
    cases ht : state.tenantId with
    | none => rfl
    | some t =>
      rw [ht] at h
      simpa [ht] using h

theorem Ledger.ensureTenant_apply {state : Ledger} (hstate : state.created = state.tenantId.isSome)
    {e : JournalEntryPosted} (h : state.ensureTenant e.tenantId = .ok ())
    : (state.apply (.journalEntryPosted e)).ensureTenant e.tenantId = .ok () := by
  unfold ensureTenant at h ⊢
  simp only [apply]
  cases ht : state.tenantId with
  | none => simp
  | some t =>
    rw [ht] at hstate h
    simpa [hstate, ht] using h

section Repeat

variable [Lowercase]

theorem InventoryItem.repeat_iff {state : InventoryItem} {command : InventoryCommand}
    {history decided : List InventoryEvent} (h : state.handle command = .ok decided)
    : aggregate.RepeatKeeps (AggregateKind.business .inventoryItem) state history decided command
        ↔
      AggregateKind.Harmless .inventoryItem state command := by
  cases command with
  | createItem cmd =>
    rcases handleCreate_eq_ok_iff.mp h with ⟨-, -, rfl⟩
    refine iff_of_true ?_ trivial
    apply Aggregate.RepeatKeeps.of_rejected
    intro decided' hok
    dsimp only [Aggregate.rehydrate, List.foldl_cons, List.foldl_nil, aggregate, handle] at hok
    have hcreated := handleCreate_eq_ok_iff.mp hok
    cases hcreated.1
  | adjustStock cmd =>
    rcases handleAdjust_eq_ok_iff.mp h with ⟨hcreated, htenant, hid, hdelta, -, rfl⟩
    constructor
    . intro hkeeps
      by_contra hstock
      apply Aggregate.RepeatKeeps.not_of_accepted _ _ _ hkeeps
      refine ⟨_, handleAdjust_eq_ok_iff.mpr ⟨hcreated, htenant, hid, hdelta, hstock, rfl⟩, ?_⟩
      intro hsame
      have hsame : state.stock + cmd.delta + cmd.delta = state.stock + cmd.delta :=
        congrArg InventoryItem.stock hsame
      apply hdelta
      simpa using hsame
    . intro hnegative
      apply Aggregate.RepeatKeeps.of_rejected
      intro decided' hok
      dsimp only [Aggregate.rehydrate, List.foldl_cons, List.foldl_nil, aggregate, handle] at hok
      have hstock := handleAdjust_eq_ok_iff.mp hok
      exact hstock.2.2.2.2.1 hnegative

theorem SalesOrder.repeat_iff {state : SalesOrder} {command : SalesOrderCommand}
    {history decided : List SalesOrderEvent} (h : state.handle command = .ok decided)
    : aggregate.RepeatKeeps (AggregateKind.business .salesOrder) state history decided command
        ↔
      AggregateKind.Harmless .salesOrder state command := by
  cases command with
  | createSalesOrder cmd =>
    rcases handleCreate_eq_ok_iff.mp h with ⟨-, rfl⟩
    refine iff_of_true ?_ trivial
    apply Aggregate.RepeatKeeps.of_rejected
    intro decided' hok
    dsimp only [Aggregate.rehydrate, List.foldl_cons, List.foldl_nil, aggregate, handle] at hok
    have hcreated := handleCreate_eq_ok_iff.mp hok
    cases hcreated.1
  | addLine cmd =>
    rcases handleAddLine_eq_ok_iff.mp h with
      ⟨hcreated, htenant, hid, hmodifiable, hquantity, hprice, rfl⟩
    refine iff_of_false ?_ not_false
    apply Aggregate.RepeatKeeps.not_of_accepted
    refine ⟨_, handleAddLine_eq_ok_iff.mpr
      ⟨hcreated, htenant, hid, hmodifiable, hquantity, hprice, rfl⟩, ?_⟩
    intro hsame
    have hsame : (state.lines ++ [_] ++ [_]).length = (state.lines ++ [_]).length :=
      congrArg (fun order : SalesOrder => order.lines.length) hsame
    simp at hsame
  | confirmOrder cmd =>
    rcases handleConfirm_eq_ok_iff.mp h with ⟨-, -, -, -, -, rfl⟩
    refine iff_of_true ?_ trivial
    apply Aggregate.RepeatKeeps.of_rejected
    intro decided' hok
    dsimp only [Aggregate.rehydrate, List.foldl_cons, List.foldl_nil, aggregate, handle] at hok
    have hdraft := handleConfirm_eq_ok_iff.mp hok
    cases hdraft.2.2.2.1
  | markInvoiced cmd =>
    rcases handleMarkInvoiced_eq_ok_iff.mp h with ⟨-, -, -, -, rfl⟩
    refine iff_of_true ?_ trivial
    apply Aggregate.RepeatKeeps.of_rejected
    intro decided' hok
    dsimp only [Aggregate.rehydrate, List.foldl_cons, List.foldl_nil, aggregate, handle] at hok
    have hconfirmed := handleMarkInvoiced_eq_ok_iff.mp hok
    cases hconfirmed.2.2.2.1

theorem PurchaseOrder.repeat_iff {state : PurchaseOrder} {command : PurchaseOrderCommand}
    {history decided : List PurchaseOrderEvent} (h : state.handle command = .ok decided)
    : aggregate.RepeatKeeps (AggregateKind.business .purchaseOrder) state history decided command
        ↔
      AggregateKind.Harmless .purchaseOrder state command := by
  cases command with
  | createPurchaseOrder cmd =>
    rcases handleCreate_eq_ok_iff.mp h with ⟨-, rfl⟩
    refine iff_of_true ?_ trivial
    apply Aggregate.RepeatKeeps.of_rejected
    intro decided' hok
    dsimp only [Aggregate.rehydrate, List.foldl_cons, List.foldl_nil, aggregate, handle] at hok
    have hcreated := handleCreate_eq_ok_iff.mp hok
    cases hcreated.1
  | addLine cmd =>
    rcases handleAddLine_eq_ok_iff.mp h with ⟨hcreated, htenant, hid, hdraft, hquantity, rfl⟩
    refine iff_of_false ?_ not_false
    apply Aggregate.RepeatKeeps.not_of_accepted
    refine ⟨_, handleAddLine_eq_ok_iff.mpr ⟨hcreated, htenant, hid, hdraft, hquantity, rfl⟩, ?_⟩
    intro hsame
    have hsame : (state.lines ++ [_] ++ [_]).length = (state.lines ++ [_]).length :=
      congrArg (fun order : PurchaseOrder => order.lines.length) hsame
    simp at hsame
  | approve cmd =>
    rcases handleApprove_eq_ok_iff.mp h with ⟨-, -, -, -, -, rfl⟩
    refine iff_of_true ?_ trivial
    apply Aggregate.RepeatKeeps.of_rejected
    intro decided' hok
    dsimp only [Aggregate.rehydrate, List.foldl_cons, List.foldl_nil, aggregate, handle] at hok
    have hdraft := handleApprove_eq_ok_iff.mp hok
    cases hdraft.2.2.2.1
  | receiveGoods cmd =>
    rcases handleReceive_eq_ok h with ⟨-, -, supplierId, -, rfl⟩
    refine iff_of_true ?_ trivial
    apply Aggregate.RepeatKeeps.of_rejected
    intro decided' hok
    dsimp only [Aggregate.rehydrate, List.foldl_cons, List.foldl_nil, aggregate, handle] at hok
    have happroved := handleReceive_eq_ok hok
    cases happroved.2.1

theorem Party.repeat_iff {state : Party} {command : PartyCommand}
    {history decided : List PartyEvent} (h : state.handle command = .ok decided)
    : aggregate.RepeatKeeps (AggregateKind.business .party) state history decided command
        ↔
      AggregateKind.Harmless .party state command := by
  cases command with
  | registerParty cmd =>
    rcases handleRegister_eq_ok_iff.mp h with ⟨-, -, rfl⟩
    refine iff_of_true ?_ trivial
    apply Aggregate.RepeatKeeps.of_rejected
    intro decided' hok
    dsimp only [Aggregate.rehydrate, List.foldl_cons, List.foldl_nil, aggregate, handle] at hok
    have hcreated := handleRegister_eq_ok_iff.mp hok
    cases hcreated.1
  | updateDetails cmd =>
    rcases handleUpdate_eq_ok_iff.mp h with ⟨-, -, -, -, rfl⟩
    refine iff_of_true ?_ trivial
    -- an accepted update sets the name and the contact to what they are already
    intro decided' hok
    dsimp only [Aggregate.rehydrate, List.foldl_cons, List.foldl_nil, aggregate, handle] at hok
    rcases handleUpdate_eq_ok_iff.mp hok with ⟨-, -, -, -, rfl⟩
    cases cmd.name <;> cases cmd.contact <;> rfl
  | suspendParty cmd =>
    rcases handleSuspend_eq_ok_iff.mp h with ⟨-, -, -, -, rfl⟩
    refine iff_of_true ?_ trivial
    apply Aggregate.RepeatKeeps.of_rejected
    intro decided' hok
    dsimp only [Aggregate.rehydrate, List.foldl_cons, List.foldl_nil, aggregate, handle] at hok
    have hactive := handleSuspend_eq_ok_iff.mp hok
    exact hactive.2.2.2.1 rfl

theorem Product.repeat_iff {state : Product} {command : ProductCommand}
    {history decided : List ProductEvent} (h : state.handle command = .ok decided)
    : aggregate.RepeatKeeps (AggregateKind.business .product) state history decided command
        ↔
      AggregateKind.Harmless .product state command := by
  cases command with
  | createProduct cmd =>
    rcases handleCreate_eq_ok_iff.mp h with ⟨-, -, -, rfl⟩
    refine iff_of_true ?_ trivial
    apply Aggregate.RepeatKeeps.of_rejected
    intro decided' hok
    dsimp only [Aggregate.rehydrate, List.foldl_cons, List.foldl_nil, aggregate, handle] at hok
    have hcreated := handleCreate_eq_ok_iff.mp hok
    cases hcreated.1
  | activateProduct cmd =>
    rcases handleActivate_eq_ok_iff.mp h with ⟨-, -, -, -, -, rfl⟩
    refine iff_of_true ?_ trivial
    apply Aggregate.RepeatKeeps.of_rejected
    intro decided' hok
    dsimp only [Aggregate.rehydrate, List.foldl_cons, List.foldl_nil, aggregate, handle] at hok
    have hactive := handleActivate_eq_ok_iff.mp hok
    exact hactive.2.2.2.1 rfl
  | archiveProduct cmd =>
    rcases handleArchive_eq_ok_iff.mp h with ⟨-, -, -, -, rfl⟩
    refine iff_of_true ?_ trivial
    apply Aggregate.RepeatKeeps.of_rejected
    intro decided' hok
    dsimp only [Aggregate.rehydrate, List.foldl_cons, List.foldl_nil, aggregate, handle] at hok
    have harchived := handleArchive_eq_ok_iff.mp hok
    exact harchived.2.2.2.1 rfl

theorem User.repeat_iff {state : User} {command : UserCommand}
    {history decided : List UserEvent} (h : state.handle command = .ok decided)
    : aggregate.RepeatKeeps (AggregateKind.business .user) state history decided command
        ↔
      AggregateKind.Harmless .user state command := by
  cases command with
  | create cmd =>
    rcases handleCreate_eq_ok_iff.mp h with ⟨-, -, -, rfl⟩
    refine iff_of_true ?_ trivial
    apply Aggregate.RepeatKeeps.of_rejected
    intro decided' hok
    dsimp only [Aggregate.rehydrate, List.foldl_cons, List.foldl_nil, aggregate, handle] at hok
    have hcreated := handleCreate_eq_ok_iff.mp hok
    cases hcreated.1
  | assignRole cmd =>
    rcases handleAssignRole_eq_ok_iff.mp h with ⟨-, -, -, -, -, rfl⟩
    refine iff_of_true ?_ trivial
    apply Aggregate.RepeatKeeps.of_rejected
    intro decided' hok
    dsimp only [Aggregate.rehydrate, List.foldl_cons, List.foldl_nil, aggregate, handle] at hok
    have hrole := (handleAssignRole_eq_ok_iff.mp hok).2.2.2.1
    simp [hasRole, apply, applyRoleAssigned] at hrole
  | revokeRole cmd =>
    rcases handleRevokeRole_eq_ok_iff.mp h with ⟨-, -, -, rfl⟩
    refine iff_of_true ?_ trivial
    apply Aggregate.RepeatKeeps.of_rejected
    intro decided' hok
    dsimp only [Aggregate.rehydrate, List.foldl_cons, List.foldl_nil, aggregate, handle] at hok
    have hrole := (handleRevokeRole_eq_ok_iff.mp hok).2.2.1
    dsimp only [apply, applyRoleRevoked] at hrole
    rw [hasRole_filter_ne] at hrole
    cases hrole
  | suspend cmd =>
    rcases handleSuspend_eq_ok_iff.mp h with ⟨-, -, -, rfl⟩
    refine iff_of_true ?_ trivial
    apply Aggregate.RepeatKeeps.of_rejected
    intro decided' hok
    dsimp only [Aggregate.rehydrate, List.foldl_cons, List.foldl_nil, aggregate, handle] at hok
    have hactive := handleSuspend_eq_ok_iff.mp hok
    exact hactive.2.2.1 rfl
  | activate cmd =>
    rcases handleActivate_eq_ok_iff.mp h with ⟨-, -, -, rfl⟩
    refine iff_of_true ?_ trivial
    apply Aggregate.RepeatKeeps.of_rejected
    intro decided' hok
    dsimp only [Aggregate.rehydrate, List.foldl_cons, List.foldl_nil, aggregate, handle] at hok
    have hsuspended := handleActivate_eq_ok_iff.mp hok
    exact hsuspended.2.2.1 rfl

omit [Lowercase] in
theorem Invoice.second_payment {state : Invoice} {amount paid : UInt64} (hamount : amount ≠ 0)
    (hpaid : paid.toNat = state.totalPaid.toNat + amount.toNat)
    (hfits : state.totalPaid.toNat + amount.toNat + amount.toNat ≤ state.totalAmount.toNat)
    : paid < state.totalAmount ∧ checkedAdd paid amount = some (paid + amount)
      ∧ ¬ paid + amount > state.totalAmount ∧ paid + amount ≠ paid := by
  have hpositive : 0 < amount.toNat := by
    rw [Nat.pos_iff_ne_zero]
    intro hzero
    apply hamount
    apply UInt64.toNat_inj.mp
    simpa using hzero
  have hbound := state.totalAmount.toNat_lt
  have hadd : (paid + amount).toNat = paid.toNat + amount.toNat := by
    rw [UInt64.toNat_add, Nat.mod_eq_of_lt (by omega)]
  refine ⟨?_, ?_, ?_, ?_⟩
  . rw [UInt64.lt_iff_toNat_lt]
    omega
  . rw [checkedAdd_eq_some_iff, hadd]
  . rw [gt_iff_lt, UInt64.lt_iff_toNat_lt]
    omega
  . intro heq
    rw [heq] at hadd
    omega

theorem Invoice.repeat_iff {state : Invoice} {command : InvoiceCommand}
    {history decided : List InvoiceEvent} (h : state.handle command = .ok decided)
    : aggregate.RepeatKeeps (AggregateKind.business .invoice) state history decided command
        ↔
      AggregateKind.Harmless .invoice state command := by
  cases command with
  | issueInvoice cmd =>
    rcases handleIssue_eq_ok_iff.mp h with ⟨-, -, total, -, rfl⟩
    refine iff_of_true ?_ trivial
    apply Aggregate.RepeatKeeps.of_rejected
    intro decided' hok
    dsimp only [Aggregate.rehydrate, List.foldl_cons, List.foldl_nil, aggregate, handle] at hok
    have hcreated := handleIssue_eq_ok_iff.mp hok
    cases hcreated.1
  | registerPayment cmd =>
    rcases handleRegisterPayment_eq_ok_iff.mp h with
      ⟨hcreated, htenant, hid, haccept, hamount, paid, hpaid, -, rfl⟩
    rw [checkedAdd_eq_some_iff] at hpaid
    rw [canAcceptPayment_iff] at haccept
    constructor
    . intro hkeeps
      by_contra hfits
      simp only [AggregateKind.Harmless, Nat.not_lt] at hfits
      rcases second_payment hamount hpaid hfits with ⟨hlt, hnext, hle, hne⟩
      apply Aggregate.RepeatKeeps.not_of_accepted _ _ _ hkeeps
      refine ⟨_, handleRegisterPayment_eq_ok_iff.mpr
        ⟨?_, ?_, ?_, ?_, hamount, paid + cmd.amount, ?_, ?_, rfl⟩, ?_⟩
      all_goals dsimp only [Aggregate.rehydrate, List.foldl_cons, List.foldl_nil, aggregate]
      all_goals rw [apply_paymentRegistered]
      . exact hcreated
      . exact htenant
      . exact hid
      . rw [canAcceptPayment_iff, if_neg (by simpa using hlt)]
        exact ⟨haccept.1, hlt⟩
      . exact hnext
      . exact hle
      . intro hsame
        apply hne
        have hpaid' : ((state.apply (.paymentRegistered _)).apply (.paymentRegistered _)).totalPaid
            = paid :=
          congrArg (fun invoice : Invoice => invoice.totalPaid) hsame
        rw [apply_paymentRegistered] at hpaid'
        exact hpaid'
    . intro hover
      apply Aggregate.RepeatKeeps.of_rejected
      intro decided' hok
      dsimp only [Aggregate.rehydrate, List.foldl_cons, List.foldl_nil, aggregate, handle] at hok
      rw [apply_paymentRegistered] at hok
      rcases handleRegisterPayment_eq_ok_iff.mp hok with ⟨-, -, -, -, -, paid', hpaid', hle, -⟩
      rw [checkedAdd_eq_some_iff] at hpaid'
      rw [gt_iff_lt, UInt64.lt_iff_toNat_lt] at hle
      dsimp only [AggregateKind.Harmless] at hover hpaid' hle
      omega
  | voidInvoice cmd =>
    rcases handleVoid_eq_ok_iff.mp h with ⟨-, -, -, -, rfl⟩
    refine iff_of_true ?_ trivial
    apply Aggregate.RepeatKeeps.of_rejected
    intro decided' hok
    dsimp only [Aggregate.rehydrate, List.foldl_cons, List.foldl_nil, aggregate, handle] at hok
    have hopen := handleVoid_eq_ok_iff.mp hok
    exact hopen.2.2.2.1 rfl

theorem Ledger.repeat_iff {state : Ledger} {command : JournalCommand}
    {history decided : List LedgerEvent} (hstate : state.created = state.tenantId.isSome)
    (h : state.handle command = .ok decided)
    : aggregate.RepeatKeeps (AggregateKind.business .ledger) state history decided command
        ↔
      AggregateKind.Harmless .ledger state command := by
  cases command with
  | postJournalEntry cmd =>
    rcases handlePost_eq_ok_iff.mp h with ⟨htenant, hbalanced, rfl⟩
    refine iff_of_false ?_ not_false
    apply Aggregate.RepeatKeeps.not_of_accepted
    refine ⟨_, handlePost_eq_ok_iff.mpr ⟨?_, hbalanced, rfl⟩, ?_⟩
    . exact ensureTenant_apply hstate htenant
    . intro hsame
      have hlines : (history ++ [_] ++ [_]).flatMap LedgerEvent.lines
          = (history ++ [_]).flatMap LedgerEvent.lines := hsame
      simp [LedgerEvent.lines] at hlines
      rw [hlines] at hbalanced
      cases hbalanced.1

theorem AggregateKind.repeat_iff (kind : AggregateKind) {tenantId : TenantId} {id : AggregateId}
    {state : kind.aggregate.State}
    {command : kind.aggregate.Command} {history decided : List kind.aggregate.Event}
    (hstate : state = kind.aggregate.rehydrate (kind.makeAggregate tenantId id) history)
    (h : kind.aggregate.handle state command = .ok decided)
    : kind.aggregate.RepeatKeeps kind.business state history decided command
        ↔
      kind.Harmless state command := by
  cases kind with
  | inventoryItem => exact InventoryItem.repeat_iff h
  | invoice => exact Invoice.repeat_iff h
  | ledger =>
    apply Ledger.repeat_iff _ h
    rw [hstate]
    apply Ledger.aggregate.rehydrate_invariant (fun s => s.created = s.tenantId.isSome)
    . intro s ev hs
      apply Ledger.created_apply hs
    . rfl
  | user => exact User.repeat_iff h
  | salesOrder => exact SalesOrder.repeat_iff h
  | purchaseOrder => exact PurchaseOrder.repeat_iff h
  | party => exact Party.repeat_iff h
  | product => exact Product.repeat_iff h

end Repeat

end ForgeErp
