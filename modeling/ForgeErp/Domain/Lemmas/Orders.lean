import ForgeErp.Domain.Lemmas.Decisions
import ForgeErp.Domain.Runs
import ForgeErp.Library.Numbered
import ForgeErp.Library.View
import Mathlib.Algebra.Ring.Nat

/-!
This module contains sales orders and purchase orders over any sequence of commands. Both collect
their lines in a draft and do not touch them afterwards.
-/

namespace ForgeErp

-- The number of the next line is its position, as long as that fits.
theorem toNat_ofNat_add_one {n : Nat} (h : n + 1 < 2 ^ 32)
    : (UInt32.ofNat n + 1).toNat = 1 + n := by
  rw [UInt32.toNat_add, UInt32.toNat_ofNat', UInt32.toNat_one, Nat.mod_add_mod, Nat.mod_eq_of_lt h,
    Nat.add_comm]

namespace SalesOrderCommand

def tenantId (self : SalesOrderCommand) : TenantId :=
  match self with
  | .createSalesOrder cmd => cmd.tenantId
  | .addLine cmd => cmd.tenantId
  | .confirmOrder cmd => cmd.tenantId
  | .markInvoiced cmd => cmd.tenantId

def orderId (self : SalesOrderCommand) : SalesOrderId :=
  match self with
  | .createSalesOrder cmd => cmd.orderId
  | .addLine cmd => cmd.orderId
  | .confirmOrder cmd => cmd.orderId
  | .markInvoiced cmd => cmd.orderId

end SalesOrderCommand

inductive SalesOrderStatus.Moves : SalesOrderStatus → SalesOrderStatus → Prop where
  | stays (status : SalesOrderStatus) : Moves status status
  | confirms : Moves .draft .confirmed
  | invoices : Moves .confirmed .invoiced

namespace SalesOrder

def stateOf (id : SalesOrderId) (commands : List SalesOrderCommand) : SalesOrder :=
  (aggregate.run (empty id) commands).state

def historyOf (id : SalesOrderId) (commands : List SalesOrderCommand) : List SalesOrderEvent :=
  (aggregate.run (empty id) commands).history

structure RunsInOrder (id : SalesOrderId) (commands : List SalesOrderCommand) : Prop where
  numbered : (stateOf id commands).lines.length < 2 ^ 32 →
    (stateOf id commands).lines.map (·.lineNo.toNat)
      = List.range' 1 (stateOf id commands).lines.length
  positive : ∀ line ∈ (stateOf id commands).lines, 0 < line.quantity ∧ 0 < line.unitPrice
  moves : ∀ command,
    (stateOf id commands).status.Moves (stateOf id (commands ++ [command])).status
  frozen : (stateOf id commands).status ≠ .draft →
    ∀ more, (stateOf id (commands ++ more)).lines = (stateOf id commands).lines
  nonempty : (stateOf id commands).status = .confirmed ∨ (stateOf id commands).status = .invoiced →
    (stateOf id commands).lines ≠ []

inductive Step (order : SalesOrder) : SalesOrderEvent → Prop where
  | created {e : SalesOrderCreated} :
      order.created = false →
      Step order (.salesOrderCreated e)
  | lineAdded {e : LineAdded} :
      order.created = true →
      order.status = .draft →
      e.lineNo = UInt32.ofNat order.lines.length + 1 →
      0 < e.quantity →
      0 < e.unitPrice →
      Step order (.lineAdded e)
  | confirmed {e : OrderConfirmed} :
      order.created = true →
      order.status = .draft →
      order.lines ≠ [] →
      Step order (.orderConfirmed e)
  | invoiced {e : OrderInvoiced} :
      order.created = true →
      order.status = .confirmed →
      Step order (.orderInvoiced e)

theorem handle_step {order : SalesOrder} {command : SalesOrderCommand}
    {decided : List SalesOrderEvent} (h : order.handle command = .ok decided)
    : ∃ ev, decided = [ev] ∧ Step order ev ∧ ev.tenantId = command.tenantId
        ∧ ev.orderId = command.orderId := by
  cases command with
  | createSalesOrder cmd =>
    rcases handleCreate_eq_ok_iff.mp h with ⟨hcreated, rfl⟩
    exact ⟨_, rfl, .created hcreated, rfl, rfl⟩
  | addLine cmd =>
    rcases handleAddLine_eq_ok_iff.mp h with ⟨hcreated, _, _, hmodifiable, hquantity, hprice, rfl⟩
    refine ⟨_, rfl, .lineAdded hcreated ?_ rfl ?_ ?_, rfl, rfl⟩
    . simpa [isModifiable] using hmodifiable
    . apply Int64.not_le.mp hquantity
    . apply UInt64.pos_iff_ne_zero.mpr hprice
  | confirmOrder cmd =>
    rcases handleConfirm_eq_ok_iff.mp h with ⟨hcreated, _, _, hdraft, hlines, rfl⟩
    refine ⟨_, rfl, .confirmed hcreated hdraft ?_, rfl, rfl⟩
    simpa using hlines
  | markInvoiced cmd =>
    rcases handleMarkInvoiced_eq_ok_iff.mp h with ⟨hcreated, _, _, hconfirmed, rfl⟩
    refine ⟨_, rfl, .invoiced hcreated ?_, rfl, rfl⟩
    simpa [isInvoiceAllowed] using hconfirmed

structure Sound (order : SalesOrder) : Prop where
  fresh : order.created = false → order.status = .draft ∧ order.lines = []
  numbered : order.lines.length < 2 ^ 32 → NumberedFrom 1 (·.lineNo.toNat) order.lines
  positive : ∀ line ∈ order.lines, 0 < line.quantity ∧ 0 < line.unitPrice
  nonempty : order.status = .confirmed ∨ order.status = .invoiced → order.lines ≠ []

theorem Step.sound {order : SalesOrder} {ev : SalesOrderEvent} (horder : order.Sound)
    (h : Step order ev) : (order.apply ev).Sound := by
  cases h with
  | created => exact ⟨by simp [apply], by simp [apply], by simp [apply], by simp [apply]⟩
  | @lineAdded e hcreated hdraft hno hquantity hprice =>
    refine ⟨?_, ?_, ?_, ?_⟩
    . intro hfresh
      exact absurd (hcreated.symm.trans hfresh) (by simp)
    . dsimp only [apply]
      rw [List.length_append, List.length_singleton]
      intro hlength
      apply NumberedFrom.concat (horder.numbered (by omega))
      rw [hno]
      apply toNat_ofNat_add_one hlength
    . intro line hline
      rw [apply, List.mem_append, List.mem_singleton] at hline
      cases hline with
      | inl hline => exact horder.positive line hline
      | inr hline => exact hline ▸ ⟨hquantity, hprice⟩
    . intro _
      simp [apply]
  | confirmed hcreated hdraft hlines =>
    refine ⟨?_, horder.numbered, horder.positive, fun _ => hlines⟩
    intro hfresh
    exact absurd (hcreated.symm.trans hfresh) (by simp)
  | invoiced hcreated hconfirmed =>
    refine ⟨?_, horder.numbered, horder.positive, fun _ => horder.nonempty (Or.inl hconfirmed)⟩
    intro hfresh
    exact absurd (hcreated.symm.trans hfresh) (by simp)

theorem sound_stateOf (id : SalesOrderId) (commands : List SalesOrderCommand)
    : (stateOf id commands).Sound := by
  apply @Aggregate.run_invariant aggregate (fun r => Sound r.state) (fun _ => True)
    (empty id) commands
    (fun _ _ => trivial)
  . exact ⟨fun _ => ⟨rfl, rfl⟩, fun _ => NumberedFrom.nil, by simp [Aggregate.start, empty],
      by simp [Aggregate.start, empty]⟩
  . intro r command decided hr _ hhandle
    rcases handle_step hhandle with ⟨ev, rfl, hstep, _⟩
    apply hstep.sound hr

theorem Step.moves {order : SalesOrder} {ev : SalesOrderEvent} (horder : order.Sound)
    (h : Step order ev) : order.status.Moves (order.apply ev).status := by
  cases h with
  | created hcreated =>
    rw [(horder.fresh hcreated).1]
    exact .stays .draft
  | lineAdded => exact .stays _
  | confirmed _ hdraft =>
    rw [hdraft]
    exact .confirms
  | invoiced _ hconfirmed =>
    rw [hconfirmed]
    exact .invoices

theorem Step.frozen {order : SalesOrder} {ev : SalesOrderEvent} (horder : order.Sound)
    (h : Step order ev) (hstatus : order.status ≠ .draft)
    : (order.apply ev).status ≠ .draft ∧ (order.apply ev).lines = order.lines := by
  cases h with
  | created hcreated => exact absurd (horder.fresh hcreated).1 hstatus
  | lineAdded _ hdraft => exact absurd hdraft hstatus
  | confirmed => exact ⟨by simp [apply], rfl⟩
  | invoiced => exact ⟨by simp [apply], rfl⟩

theorem historyOf_produced {id : SalesOrderId} {commands : List SalesOrderCommand}
    {ok : SalesOrderCommand → Prop} (hok : ∀ command ∈ commands, ok command)
    : stateOf id commands = (historyOf id commands).foldl apply (empty id)
      ∧ aggregate.Produced ok (empty id) (historyOf id commands) :=
  @Aggregate.run_produced aggregate ok (empty id) commands hok

theorem historyOf_ids {id : SalesOrderId} {commands : List SalesOrderCommand} {tenantId : TenantId}
    (hids : ∀ command ∈ commands, command.tenantId = tenantId ∧ command.orderId = id)
    : ∀ ev ∈ historyOf id commands, ev.tenantId = tenantId ∧ ev.orderId = id := by
  apply (historyOf_produced hids).2.forall (fun ev : SalesOrderEvent =>
    ev.tenantId = tenantId ∧ ev.orderId = id)
  intro order command decided hok hhandle ev hev
  rcases handle_step hhandle with ⟨ev', rfl, _, htenant, hid⟩
  rw [List.mem_singleton.mp hev]
  exact ⟨htenant.trans hok.1, hid.trans hok.2⟩

theorem runs_in_order (id : SalesOrderId) (commands : List SalesOrderCommand)
    : RunsInOrder id commands := by
  have hsound := sound_stateOf id commands
  refine ⟨hsound.numbered, hsound.positive, ?_, ?_, hsound.nonempty⟩
  . intro command
    apply @Aggregate.run_concat aggregate
      (fun order : SalesOrder => (stateOf id commands).status.Moves order.status)
    . exact .stays _
    . intro decided hhandle
      rcases handle_step hhandle with ⟨ev, rfl, hstep, _⟩
      apply hstep.moves hsound
  . intro hstatus more
    have hfrozen := @Aggregate.run_preserves aggregate (fun order : SalesOrder => order.Sound
      ∧ order.status ≠ .draft ∧ order.lines = (stateOf id commands).lines) (empty id) commands
      ⟨hsound, hstatus, rfl⟩ ?_ more
    . exact hfrozen.2.2
    . intro order command decided horder hhandle
      rcases handle_step hhandle with ⟨ev, rfl, hstep, _⟩
      have hnext := hstep.frozen horder.1 horder.2.1
      exact ⟨hstep.sound horder.1, hnext.1, hnext.2.trans horder.2.2⟩

end SalesOrder

theorem filterMap_concat_none {α β : Type} {f : α → Option β} {a : α} (h : f a = none) (l : List α)
    : (l ++ [a]).filterMap f = l.filterMap f := by
  simp [h]

namespace PurchaseOrderCommand

def tenantId (self : PurchaseOrderCommand) : TenantId :=
  match self with
  | .createPurchaseOrder cmd => cmd.tenantId
  | .addLine cmd => cmd.tenantId
  | .approve cmd => cmd.tenantId
  | .receiveGoods cmd => cmd.tenantId

def orderId (self : PurchaseOrderCommand) : PurchaseOrderId :=
  match self with
  | .createPurchaseOrder cmd => cmd.orderId
  | .addLine cmd => cmd.orderId
  | .approve cmd => cmd.orderId
  | .receiveGoods cmd => cmd.orderId

def supplierGiven (self : PurchaseOrderCommand) : Option PartyId :=
  match self with
  | .createPurchaseOrder cmd => some cmd.supplierId
  | _ => none

def lineGiven (self : PurchaseOrderCommand) : Option (ProductId × Int64) :=
  match self with
  | .addLine cmd => some (cmd.productId, cmd.quantity)
  | _ => none

end PurchaseOrderCommand

namespace PurchaseOrderEvent

def isApproval (self : PurchaseOrderEvent) : Bool :=
  match self with
  | .purchaseOrderApproved _ => true
  | _ => false

def isReceipt (self : PurchaseOrderEvent) : Bool :=
  match self with
  | .goodsReceived _ => true
  | _ => false

end PurchaseOrderEvent

namespace PurchaseOrder

def stateOf (id : PurchaseOrderId) (commands : List PurchaseOrderCommand) : PurchaseOrder :=
  (aggregate.run (empty id) commands).state

def acceptedOf (id : PurchaseOrderId) (commands : List PurchaseOrderCommand)
    : List PurchaseOrderCommand :=
  (aggregate.run (empty id) commands).accepted

def historyOf (id : PurchaseOrderId) (commands : List PurchaseOrderCommand)
    : List PurchaseOrderEvent :=
  (aggregate.run (empty id) commands).history

/--
A receipt against what has been ordered: the approval lies before it, it lists the lines that have
been added, with their numbers, and it names the supplier of the one creation.
-/
structure Receives (accepted : List PurchaseOrderCommand) (before : List PurchaseOrderEvent)
    (e : GoodsReceived) : Prop where
  approved : ∃ ev ∈ before, ev.isApproval = true
  lines : e.lines.map (fun line => (line.productId, line.quantity))
    = accepted.filterMap PurchaseOrderCommand.lineGiven
  numbered : e.lines.length < 2 ^ 32 →
    e.lines.map (·.lineNo.toNat) = List.range' 1 e.lines.length
  positive : ∀ line ∈ e.lines, 0 < line.quantity
  supplier : accepted.filterMap PurchaseOrderCommand.supplierGiven = [e.supplierId]

structure RunsInOrder (id : PurchaseOrderId) (commands : List PurchaseOrderCommand) : Prop where
  once : (historyOf id commands).countP PurchaseOrderEvent.isReceipt ≤ 1
  receives : ∀ before e rest, historyOf id commands = before ++ .goodsReceived e :: rest →
    Receives (acceptedOf id commands) before e
  supplier : (stateOf id commands).created = true → (stateOf id commands).supplierId ≠ none

inductive Step (order : PurchaseOrder) : PurchaseOrderCommand → PurchaseOrderEvent → Prop where
  | created {cmd : CreatePurchaseOrder} {e : PurchaseOrderCreated} :
      order.created = false →
      e.supplierId = cmd.supplierId →
      Step order (.createPurchaseOrder cmd) (.purchaseOrderCreated e)
  | lineAdded {cmd : AddLine} {e : PurchaseOrderLineAdded} :
      order.created = true →
      order.status = .draft →
      e.lineNo = UInt32.ofNat order.lines.length + 1 →
      e.productId = cmd.productId →
      e.quantity = cmd.quantity →
      0 < e.quantity →
      Step order (.addLine cmd) (.purchaseOrderLineAdded e)
  | approved {cmd : Approve} {e : PurchaseOrderApproved} :
      order.created = true →
      order.status = .draft →
      order.lines ≠ [] →
      Step order (.approve cmd) (.purchaseOrderApproved e)
  | received {cmd : ReceiveGoods} {e : GoodsReceived} :
      order.created = true →
      order.status = .approved →
      order.supplierId = some e.supplierId →
      e.lines = order.lines →
      Step order (.receiveGoods cmd) (.goodsReceived e)

theorem handle_step {order : PurchaseOrder} {command : PurchaseOrderCommand}
    {decided : List PurchaseOrderEvent} (h : order.handle command = .ok decided)
    : ∃ ev, decided = [ev] ∧ Step order command ev ∧ ev.tenantId = command.tenantId
        ∧ ev.orderId = command.orderId := by
  cases command with
  | createPurchaseOrder cmd =>
    rcases handleCreate_eq_ok_iff.mp h with ⟨hcreated, rfl⟩
    exact ⟨_, rfl, .created hcreated rfl, rfl, rfl⟩
  | addLine cmd =>
    rcases handleAddLine_eq_ok_iff.mp h with ⟨hcreated, _, _, hdraft, hquantity, rfl⟩
    refine ⟨_, rfl, .lineAdded hcreated hdraft rfl rfl rfl ?_, rfl, rfl⟩
    apply Int64.not_le.mp hquantity
  | approve cmd =>
    rcases handleApprove_eq_ok_iff.mp h with ⟨hcreated, _, _, hdraft, hlines, rfl⟩
    exact ⟨_, rfl, .approved hcreated hdraft (List.isEmpty_eq_false_iff.mp hlines), rfl, rfl⟩
  | receiveGoods cmd =>
    rcases handleReceive_eq_ok h with ⟨⟨hcreated, _, _⟩, happroved, supplierId, hsupplier, rfl⟩
    exact ⟨_, rfl, .received hcreated happroved hsupplier rfl, rfl, rfl⟩

structure Sound (order : PurchaseOrder) (accepted : List PurchaseOrderCommand) : Prop where
  fresh : order.created = false → order.status = .draft ∧ accepted = [] ∧ order.lines = []
  supplier : order.created = true →
    ∃ supplierId, order.supplierId = some supplierId
      ∧ accepted.filterMap PurchaseOrderCommand.supplierGiven = [supplierId]
  lines : order.lines.map (fun line => (line.productId, line.quantity))
    = accepted.filterMap PurchaseOrderCommand.lineGiven
  numbered : order.lines.length < 2 ^ 32 → NumberedFrom 1 (·.lineNo.toNat) order.lines
  positive : ∀ line ∈ order.lines, 0 < line.quantity

theorem sound_empty (id : PurchaseOrderId) : Sound (empty id) [] :=
  ⟨fun _ => ⟨rfl, rfl, rfl⟩, by simp [empty], rfl, fun _ => NumberedFrom.nil, by simp [empty]⟩

theorem Step.sound {order : PurchaseOrder} {accepted : List PurchaseOrderCommand}
    {command : PurchaseOrderCommand} {ev : PurchaseOrderEvent} (horder : order.Sound accepted)
    (h : Step order command ev) : (order.apply ev).Sound (accepted ++ [command]) := by
  cases h with
  | created hcreated hsupplier =>
    rcases horder.fresh hcreated with ⟨_, rfl, _⟩
    refine ⟨by simp [apply], fun _ => ⟨_, rfl, ?_⟩, rfl, fun _ => NumberedFrom.nil, by simp [apply]⟩
    rw [hsupplier]
    rfl
  | @lineAdded cmd e hcreated _ hno hproduct hquantity hpos =>
    refine ⟨?_, ?_, ?_, ?_, ?_⟩
    . intro hfresh
      exact absurd (hcreated.symm.trans hfresh) (by simp)
    . intro _
      rw [filterMap_concat_none rfl]
      apply horder.supplier hcreated
    . dsimp only [apply]
      rw [List.map_append, horder.lines, List.filterMap_append, List.map_singleton,
        hproduct, hquantity]
      rfl
    . dsimp only [apply]
      rw [List.length_append, List.length_singleton]
      intro hlength
      apply NumberedFrom.concat (horder.numbered (by omega))
      rw [hno]
      apply toNat_ofNat_add_one hlength
    . intro line hline
      rw [apply, List.mem_append, List.mem_singleton] at hline
      cases hline with
      | inl hline => exact horder.positive line hline
      | inr hline => exact hline ▸ hpos
  | approved hcreated =>
    refine ⟨?_, ?_, ?_, horder.numbered, horder.positive⟩
    . intro hfresh
      exact absurd (hcreated.symm.trans hfresh) (by simp)
    . intro _
      rw [filterMap_concat_none rfl]
      apply horder.supplier hcreated
    . rw [filterMap_concat_none rfl]
      exact horder.lines
  | received hcreated _ _ hlines =>
    refine ⟨?_, ?_, ?_, ?_, ?_⟩
    . intro hfresh
      exact absurd (hcreated.symm.trans hfresh) (by simp)
    . intro _
      rw [filterMap_concat_none rfl]
      apply horder.supplier hcreated
    . dsimp only [apply]
      rw [hlines, filterMap_concat_none rfl]
      exact horder.lines
    . dsimp only [apply]
      rw [hlines]
      exact horder.numbered
    . dsimp only [apply]
      rw [hlines]
      exact horder.positive

structure Recorded (order : PurchaseOrder) (history : List PurchaseOrderEvent) : Prop where
  count : history.countP PurchaseOrderEvent.isReceipt = if order.status = .received then 1 else 0
  approved : order.status = .approved → ∃ ev ∈ history, ev.isApproval = true
  receipt : ∀ before e rest, history = before ++ .goodsReceived e :: rest →
    order.status = .received
    ∧ (∃ ev ∈ before, ev.isApproval = true)
    ∧ e.lines = order.lines
    ∧ order.supplierId = some e.supplierId

theorem Recorded.draft {order order' : PurchaseOrder} {history : List PurchaseOrderEvent}
    {ev : PurchaseOrderEvent} (h : order.Recorded history) (hdraft : order.status = .draft)
    (hev : ev.isReceipt = false) (hstatus : order'.status ≠ .received)
    (happroved : order'.status = .approved → ev.isApproval = true)
    : order'.Recorded (history ++ [ev]) := by
  have hcount := h.count
  rw [hdraft] at hcount
  refine ⟨?_, ?_, ?_⟩
  . rw [List.countP_append, hcount, List.countP_singleton, hev, if_neg hstatus]
    rfl
  . intro hstatus'
    exact ⟨ev, by simp, happroved hstatus'⟩
  . intro before e rest hsplit
    rcases split_concat hsplit with ⟨_, rfl⟩ | ⟨rest', hsplit'⟩
    . cases hev
    . have hreceived := (h.receipt before e rest' hsplit').1
      rw [hdraft] at hreceived
      cases hreceived

theorem Step.recorded {order : PurchaseOrder} {accepted : List PurchaseOrderCommand}
    {history : List PurchaseOrderEvent} {command : PurchaseOrderCommand} {ev : PurchaseOrderEvent}
    (horder : order.Sound accepted) (hhistory : order.Recorded history) (h : Step order command ev)
    : (order.apply ev).Recorded (history ++ [ev]) := by
  cases h with
  | created hcreated =>
    apply hhistory.draft (horder.fresh hcreated).1 rfl (by simp [apply]) (by simp [apply])
  | lineAdded _ hdraft =>
    apply hhistory.draft hdraft rfl (by simp [apply, hdraft]) (by simp [apply, hdraft])
  | approved _ hdraft => apply hhistory.draft hdraft rfl (by simp [apply]) (fun _ => rfl)
  | @received _ e hcreated happroved hsupplier hlines =>
    have hcount := hhistory.count
    rw [happroved] at hcount
    refine ⟨?_, by simp [apply], ?_⟩
    . rw [List.countP_append, hcount]
      rfl
    . intro before e' rest hsplit
      rcases split_concat hsplit with ⟨rfl, heq⟩ | ⟨rest', hsplit'⟩
      . cases heq
        exact ⟨rfl, hhistory.approved happroved, rfl, hsupplier⟩
      . have hreceived := (hhistory.receipt before e' rest' hsplit').1
        rw [happroved] at hreceived
        cases hreceived

theorem sound_run (id : PurchaseOrderId) (commands : List PurchaseOrderCommand)
    : (stateOf id commands).Sound (acceptedOf id commands)
      ∧ (stateOf id commands).Recorded (historyOf id commands) := by
  apply @Aggregate.run_invariant aggregate
    (fun r => Sound r.state r.accepted ∧ Recorded r.state r.history) (fun _ => True) (empty id)
    commands (fun _ _ => trivial)
  . refine ⟨sound_empty id, rfl, ?_, ?_⟩
    . intro happroved
      cases happroved
    . intro before e rest hnil
      have hnil : [] = before ++ PurchaseOrderEvent.goodsReceived e :: rest := hnil
      simp at hnil
  . intro r command decided hr _ hhandle
    rcases handle_step hhandle with ⟨ev, rfl, hstep, _⟩
    exact ⟨hstep.sound hr.1, hstep.recorded hr.1 hr.2⟩

theorem historyOf_produced {id : PurchaseOrderId} {commands : List PurchaseOrderCommand}
    {ok : PurchaseOrderCommand → Prop} (hok : ∀ command ∈ commands, ok command)
    : stateOf id commands = (historyOf id commands).foldl apply (empty id)
      ∧ aggregate.Produced ok (empty id) (historyOf id commands) :=
  @Aggregate.run_produced aggregate ok (empty id) commands hok

theorem historyOf_ids {id : PurchaseOrderId} {commands : List PurchaseOrderCommand}
    {tenantId : TenantId}
    (hids : ∀ command ∈ commands, command.tenantId = tenantId ∧ command.orderId = id)
    : ∀ ev ∈ historyOf id commands, ev.tenantId = tenantId ∧ ev.orderId = id := by
  apply (historyOf_produced hids).2.forall (fun ev : PurchaseOrderEvent =>
    ev.tenantId = tenantId ∧ ev.orderId = id)
  intro order command decided hok hhandle ev hev
  rcases handle_step hhandle with ⟨ev', rfl, _, htenant, hid⟩
  rw [List.mem_singleton.mp hev]
  exact ⟨htenant.trans hok.1, hid.trans hok.2⟩

theorem runs_in_order (id : PurchaseOrderId) (commands : List PurchaseOrderCommand)
    : RunsInOrder id commands := by
  rcases sound_run id commands with ⟨hsound, hrecorded⟩
  refine ⟨?_, ?_, ?_⟩
  . rw [hrecorded.count]
    split
    . apply Nat.le_refl 1
    . apply Nat.zero_le 1
  . intro before e rest hsplit
    rcases hrecorded.receipt before e rest hsplit with ⟨hreceived, happroved, hlines, hsupplier⟩
    have hcreated : (stateOf id commands).created = true := by
      by_contra hfresh
      rw [Bool.not_eq_true] at hfresh
      have hdraft := (hsound.fresh hfresh).1
      rw [hreceived] at hdraft
      cases hdraft
    rcases hsound.supplier hcreated with ⟨supplierId, hsome, hgiven⟩
    rw [hsupplier] at hsome
    cases hsome
    refine ⟨happroved, ?_, ?_, ?_, hgiven⟩
    . rw [hlines]
      exact hsound.lines
    . rw [hlines]
      exact hsound.numbered
    . rw [hlines]
      exact hsound.positive
  . intro hcreated hnone
    rcases hsound.supplier hcreated with ⟨supplierId, hsome, _⟩
    rw [hnone] at hsome
    cases hsome

end PurchaseOrder

end ForgeErp
