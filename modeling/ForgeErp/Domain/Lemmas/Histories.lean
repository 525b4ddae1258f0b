import ForgeErp.Domain.Kinds
import ForgeErp.Domain.Lemmas.Accounting
import ForgeErp.Domain.Lemmas.Catalog
import ForgeErp.Domain.Lemmas.Inventory
import ForgeErp.Domain.Lemmas.InvoiceTotals
import ForgeErp.Domain.Lemmas.Invoicing
import ForgeErp.Domain.Lemmas.Orders
import ForgeErp.Domain.Lemmas.Users

/-!
This module contains the histories of the aggregates: which sequences of events arise at all.
-/

namespace ForgeErp

open Aggregate (Chain)

namespace InventoryItem

/--
A creation and any number of adjustments, none of which leaves the item with less than nothing.
-/
inductive Story : List InventoryEvent → Prop where
  | none : Story []
  | kept {c : ItemCreated} {adjustments : List StockAdjusted} :
      (∀ n, 0 ≤ ((adjustments.take n).map (fun a => a.delta.toInt)).sum) →
      Story (.itemCreated c :: adjustments.map .stockAdjusted)

inductive Step (item : InventoryItem) : InventoryEvent → Prop where
  | created {e : ItemCreated} :
      item.created = false →
      item.stock = 0 →
      Step item (.itemCreated e)
  | adjusted {e : StockAdjusted} :
      item.created = true →
      0 ≤ item.stock.toInt + e.delta.toInt →
      (item.stock + e.delta).toInt = item.stock.toInt + e.delta.toInt →
      Step item (.stockAdjusted e)

structure Stocked (item : InventoryItem) : Prop where
  nonneg : 0 ≤ item.stock.toInt
  fresh : item.created = false → item.stock = 0

theorem handle_stocked {item : InventoryItem} {command : InventoryCommand}
    {decided : List InventoryEvent}
    (hitem : item.Stocked) (h : item.handle command = .ok decided)
    : ∃ ev, decided = [ev] ∧ Step item ev ∧ (item.apply ev).Stocked := by
  cases command with
  | createItem cmd =>
    rcases handleCreate_eq_ok_iff.mp h with ⟨hcreated, _, rfl⟩
    exact ⟨_, rfl, .created hcreated (hitem.fresh hcreated), ⟨Int.le_refl 0, fun _ => rfl⟩⟩
  | adjustStock cmd =>
    rcases handleAdjust_eq_ok_iff.mp h with ⟨hcreated, _, _, _, hfits, rfl⟩
    rw [not_add_neg_iff hitem.nonneg] at hfits
    have hadd := toInt_add_of_fits hfits.1 hfits.2
    refine ⟨_, rfl, .adjusted hcreated hfits.1 hadd, ⟨?_, ?_⟩⟩
    . exact Int.le_trans hfits.1 (Int.le_of_eq hadd.symm)
    . intro hfresh
      exact absurd (hcreated.symm.trans hfresh) (by simp)

theorem adjustments_of_chain {item : InventoryItem} {evs : List InventoryEvent}
    (h : @Chain aggregate Step item evs) (hcreated : item.created = true)
    (hnonneg : 0 ≤ item.stock.toInt)
    : ∃ adjustments : List StockAdjusted, evs = adjustments.map .stockAdjusted
        ∧ ∀ n, 0 ≤ item.stock.toInt + ((adjustments.take n).map (fun a => a.delta.toInt)).sum := by
  induction evs generalizing item with
  | nil => exact ⟨[], rfl, by simpa using hnonneg⟩
  | cons ev evs ih =>
    rcases h with _ | ⟨hstep, hrest⟩
    cases hstep with
    | created hfresh => exact absurd (hcreated.symm.trans hfresh) (by simp)
    | @adjusted e _ hfits hadd =>
      have hstock : (item.apply (.stockAdjusted e)).stock.toInt = item.stock.toInt
        + e.delta.toInt := hadd
      rcases ih hrest hcreated (hstock ▸ hfits) with ⟨adjustments, rfl, hsums⟩
      refine ⟨e :: adjustments, rfl, ?_⟩
      intro n
      cases n with
      | zero => simpa using hnonneg
      | succ n =>
        have hsum : 0 ≤ (item.apply (.stockAdjusted e)).stock.toInt
            + ((adjustments.take n).map (fun a => a.delta.toInt)).sum := hsums n
        rw [hstock] at hsum
        rw [List.take_succ_cons, List.map_cons, List.sum_cons]
        omega

theorem story_of_produced {ok : InventoryCommand → Prop} {id : InventoryItemId}
    {evs : List InventoryEvent}
    (h : aggregate.Produced ok (empty id) evs) : Story evs := by
  have hchain := (@Aggregate.Produced.chain aggregate Step Stocked ok (empty id) evs h
    ⟨Int.le_refl 0, fun _ => rfl⟩ (fun _ _ _ hitem hhandle => handle_stocked hitem hhandle)).1
  rcases hchain with _ | ⟨hstep, hrest⟩
  . exact .none
  . cases hstep with
    | @created e =>
      rcases adjustments_of_chain hrest rfl (Int.le_refl 0) with ⟨adjustments, rfl, hsums⟩
      apply Story.kept
      intro n
      have hsum : 0 ≤ (0 : Int) + ((adjustments.take n).map (fun a => a.delta.toInt)).sum := hsums n
      rwa [Int.zero_add] at hsum
    | adjusted hcreated => cases hcreated

end InventoryItem

namespace Invoice

def paidBy (payments : List PaymentRegistered) : Nat :=
  (payments.map (fun p => p.amount.toNat)).sum

-- What is charged and what is paid is positive.
def Charges (ev : InvoiceEvent) : Prop :=
  match ev with
  | .invoiceIssued e => e.lines ≠ [] ∧ ∀ line ∈ e.lines, line.Positive
  | .paymentRegistered e => e.amount ≠ 0
  | .invoiceVoided _ => True

/--
Issued once over lines that are positive, paid in positive parts that do not exceed the total, and
perhaps voided at the end.
-/
inductive Story : List InvoiceEvent → Prop where
  | none : Story []
  | issued {i : InvoiceIssued} {payments : List PaymentRegistered} {voided : Option InvoiceVoided} :
      i.lines ≠ [] →
      (∀ line ∈ i.lines, line.Positive) →
      (∀ payment ∈ payments, payment.amount ≠ 0) →
      paidBy payments ≤ i.totalAmount.toNat →
      Story (.invoiceIssued i ::
        (payments.map .paymentRegistered ++ (voided.map .invoiceVoided).toList))

theorem charges_of_produced {ok : InvoiceCommand → Prop} {inv : Invoice} {evs : List InvoiceEvent}
    (h : aggregate.Produced ok inv evs) : ∀ ev ∈ evs, Charges ev := by
  apply h.forall Charges
  intro inv command decided _ hhandle ev hev
  cases command with
  | issueInvoice cmd =>
    rcases handleIssue_eq_ok_iff.mp hhandle with ⟨-, hlines, total, hsum, rfl⟩
    cases List.mem_singleton.mp hev
    exact ⟨List.isEmpty_eq_false_iff.mp hlines, (sumLines_eq_ok_iff.mp hsum).1⟩
  | registerPayment cmd =>
    rcases handleRegisterPayment_eq_ok_iff.mp hhandle with ⟨-, -, -, -, hamount, _, -, -, rfl⟩
    cases List.mem_singleton.mp hev
    exact hamount
  | voidInvoice cmd =>
    rcases handleVoid_eq_ok_iff.mp hhandle with ⟨-, -, -, -, rfl⟩
    cases List.mem_singleton.mp hev
    trivial

theorem payments_of_chain {inv : Invoice} {evs : List InvoiceEvent}
    (h : @Chain aggregate Next inv evs)
    (hcreated : inv.created = true) (hle : inv.totalPaid ≤ inv.totalAmount)
    (hstatus : inv.status ≠ .void)
    : ∃ (payments : List PaymentRegistered) (voided : Option InvoiceVoided),
        evs = payments.map .paymentRegistered ++ (voided.map .invoiceVoided).toList
        ∧ inv.totalPaid.toNat + paidBy payments ≤ inv.totalAmount.toNat := by
  induction evs generalizing inv with
  | nil => exact ⟨[], none, rfl, hle⟩
  | cons ev evs ih =>
    rcases h with _ | ⟨hstep, hrest⟩
    cases hstep with
    | issued hfresh => exact absurd (hcreated.symm.trans hfresh) (by simp)
    | @payment e _ _ _ hadd hpaid =>
      have happly := apply_paymentRegistered inv e
      have hrest : @Chain aggregate Next (inv.apply (.paymentRegistered e)) evs := hrest
      rw [happly] at hrest
      have hstatus' : (if e.newTotalPaid ≥ inv.totalAmount then .paid else inv.status)
          ≠ InvoiceStatus.void := by
        split
        . exact InvoiceStatus.noConfusion
        . exact hstatus
      rcases ih hrest hcreated hpaid hstatus' with ⟨payments, voided, rfl, hsum⟩
      refine ⟨e :: payments, voided, rfl, ?_⟩
      dsimp only at hsum
      unfold paidBy at hsum ⊢
      rw [List.map_cons, List.sum_cons]
      omega
    | @voided e =>
      cases evs with
      | nil => exact ⟨[], some e, rfl, hle⟩
      | cons ev evs =>
        rcases hrest with _ | ⟨hstep, -⟩
        cases hstep with
        | issued hfresh => exact absurd (hcreated.symm.trans hfresh) (by simp)
        | payment _ hopen => cases hopen
        | voided _ hvoid => exact absurd rfl hvoid

theorem story_of_produced {ok : InvoiceCommand → Prop} {id : InvoiceId} {evs : List InvoiceEvent}
    (h : aggregate.Produced ok (empty id) evs) : Story evs := by
  have hchain : @Chain aggregate Next (empty id) evs := by
    refine (@Aggregate.Produced.chain aggregate Next Consistent ok (empty id) evs h ?_ ?_).1
    . exact ⟨fun _ => ⟨rfl, rfl, rfl⟩, UInt64.le_refl _, fun _ => rfl⟩
    . intro inv command decided hinv hhandle
      rcases handle_next hinv hhandle with ⟨ev, rfl, hnext⟩
      exact ⟨ev, rfl, hnext, hnext.consistent hinv⟩
  . rcases hchain with _ | ⟨hstep, hrest⟩
    . exact .none
    . cases hstep with
      | @issued e =>
        rcases payments_of_chain hrest rfl (UInt64.zero_le) (by simp [aggregate, apply]) with
          ⟨payments, voided, rfl, hsum⟩
        have hcharges := charges_of_produced h
        have hissued : Charges (.invoiceIssued e) := hcharges _ List.mem_cons_self
        apply Story.issued hissued.1 hissued.2
        . intro payment hpayment
          apply hcharges (.paymentRegistered payment)
          apply List.mem_cons_of_mem
          exact List.mem_append_left _ (List.mem_map_of_mem hpayment)
        . have hsum : 0 + paidBy payments ≤ e.totalAmount.toNat := hsum
          rwa [Nat.zero_add] at hsum
      | payment hcreated => cases hcreated
      | voided hcreated => cases hcreated

end Invoice

namespace SalesOrder

/--
Lines are added to a draft only; what is confirmed has lines, and is invoiced at most once.
-/
inductive Story : List SalesOrderEvent → Prop where
  | none : Story []
  | draft {c : SalesOrderCreated} {lines : List LineAdded} :
      Story (.salesOrderCreated c :: lines.map .lineAdded)
  | confirmed {c : SalesOrderCreated} {lines : List LineAdded} {e : OrderConfirmed}
      {invoiced : Option OrderInvoiced} :
      lines ≠ [] →
      Story (.salesOrderCreated c ::
        (lines.map .lineAdded ++ .orderConfirmed e :: (invoiced.map .orderInvoiced).toList))

theorem invoiced_of_chain {order : SalesOrder} {evs : List SalesOrderEvent}
    (h : @Chain aggregate Step order evs) (hcreated : order.created = true)
    (hconfirmed : order.status = .confirmed)
    : ∃ invoiced : Option OrderInvoiced, evs = (invoiced.map .orderInvoiced).toList := by
  rcases h with _ | ⟨hstep, hrest⟩
  . exact ⟨none, rfl⟩
  . cases hstep with
    | created hfresh => exact absurd (hcreated.symm.trans hfresh) (by simp)
    | lineAdded _ hdraft => exact absurd (hconfirmed.symm.trans hdraft) (by simp)
    | confirmed _ hdraft => exact absurd (hconfirmed.symm.trans hdraft) (by simp)
    | @invoiced e =>
      rcases hrest with _ | ⟨hstep, -⟩
      . exact ⟨some e, rfl⟩
      . cases hstep with
        | created hfresh => exact absurd (hcreated.symm.trans hfresh) (by simp)
        | lineAdded _ hdraft => cases hdraft
        | confirmed _ hdraft => cases hdraft
        | invoiced _ hconfirmed' => cases hconfirmed'

theorem lines_of_chain {order : SalesOrder} {evs : List SalesOrderEvent}
    (h : @Chain aggregate Step order evs) (hcreated : order.created = true)
    (hdraft : order.status = .draft)
    : ∃ lines : List LineAdded, evs = lines.map .lineAdded
        ∨ (order.lines ≠ [] ∨ lines ≠ [])
            ∧ ∃ (e : OrderConfirmed) (invoiced : Option OrderInvoiced),
          evs = lines.map .lineAdded ++ .orderConfirmed e
            :: (invoiced.map .orderInvoiced).toList := by
  induction evs generalizing order with
  | nil => exact ⟨[], .inl rfl⟩
  | cons ev evs ih =>
    rcases h with _ | ⟨hstep, hrest⟩
    cases hstep with
    | created hfresh => exact absurd (hcreated.symm.trans hfresh) (by simp)
    | @lineAdded e =>
      rcases ih hrest hcreated hdraft with ⟨lines, hevs | ⟨_, confirmed, invoiced, hevs⟩⟩
      . exact ⟨e :: lines, .inl (congrArg _ hevs)⟩
      . exact ⟨e :: lines, .inr ⟨.inr (by simp), confirmed, invoiced, congrArg _ hevs⟩⟩
    | @confirmed e _ _ hlines =>
      rcases invoiced_of_chain hrest hcreated rfl with ⟨invoiced, rfl⟩
      exact ⟨[], .inr ⟨.inl hlines, e, invoiced, rfl⟩⟩
    | invoiced _ hconfirmed => exact absurd (hdraft.symm.trans hconfirmed) (by simp)

theorem story_of_produced {ok : SalesOrderCommand → Prop} {id : SalesOrderId}
    {evs : List SalesOrderEvent}
    (h : aggregate.Produced ok (empty id) evs) : Story evs := by
  have hchain : @Chain aggregate Step (empty id) evs := by
    refine (@Aggregate.Produced.chain aggregate Step (fun _ => True) ok (empty id)
      evs h trivial ?_).1
    intro order command decided _ hhandle
    rcases handle_step hhandle with ⟨ev, rfl, hstep, -⟩
    exact ⟨ev, rfl, hstep, trivial⟩
  . rcases hchain with _ | ⟨hstep, hrest⟩
    . exact .none
    . cases hstep with
      | created =>
        rcases lines_of_chain hrest rfl rfl with ⟨lines, rfl | ⟨hlines, e, invoiced, rfl⟩⟩
        . exact .draft
        . apply Story.confirmed
          exact hlines.resolve_left (fun hne => hne rfl)
      | lineAdded hcreated => cases hcreated
      | confirmed hcreated => cases hcreated
      | invoiced hcreated => cases hcreated

end SalesOrder

namespace PurchaseOrder

def lineOf (e : PurchaseOrderLineAdded) : LineItem where
  lineNo := e.lineNo
  productId := e.productId
  quantity := e.quantity

/--
What is received is what was ordered, line by line, from the supplier that the order was created
for.
-/
inductive Story : List PurchaseOrderEvent → Prop where
  | none : Story []
  | draft {c : PurchaseOrderCreated} {lines : List PurchaseOrderLineAdded} :
      Story (.purchaseOrderCreated c :: lines.map .purchaseOrderLineAdded)
  | approved {c : PurchaseOrderCreated} {lines : List PurchaseOrderLineAdded}
      {e : PurchaseOrderApproved} {received : Option GoodsReceived} :
      lines ≠ [] →
      (∀ g, received = some g → g.supplierId = c.supplierId ∧ g.lines = lines.map lineOf) →
      Story (.purchaseOrderCreated c :: (lines.map .purchaseOrderLineAdded
        ++ .purchaseOrderApproved e :: (received.map .goodsReceived).toList))

def Moves (order : PurchaseOrder) (ev : PurchaseOrderEvent) : Prop :=
  ∃ command, Step order command ev

theorem received_of_chain {order : PurchaseOrder} {evs : List PurchaseOrderEvent}
    (h : @Chain aggregate Moves order evs) (hcreated : order.created = true)
    (happroved : order.status = .approved)
    : ∃ received : Option GoodsReceived, evs = (received.map .goodsReceived).toList
        ∧ ∀ g, received = some g → order.supplierId = some g.supplierId
            ∧ g.lines = order.lines := by
  rcases h with _ | ⟨⟨command, hstep⟩, hrest⟩
  . exact ⟨none, rfl, by simp⟩
  . cases hstep with
    | created hfresh => exact absurd (hcreated.symm.trans hfresh) (by simp)
    | lineAdded _ hdraft => exact absurd (happroved.symm.trans hdraft) (by simp)
    | approved _ hdraft => exact absurd (happroved.symm.trans hdraft) (by simp)
    | @received _ e _ _ hsupplier hlines =>
      rcases hrest with _ | ⟨⟨command, hstep⟩, -⟩
      . refine ⟨some e, rfl, ?_⟩
        intro g hg
        cases hg
        exact ⟨hsupplier, hlines⟩
      . cases hstep with
        | created hfresh => exact absurd (hcreated.symm.trans hfresh) (by simp)
        | lineAdded _ hdraft => cases hdraft
        | approved _ hdraft => cases hdraft
        | received _ happroved' => cases happroved'

theorem lines_of_chain {order : PurchaseOrder} {evs : List PurchaseOrderEvent}
    (h : @Chain aggregate Moves order evs) (hcreated : order.created = true)
    (hdraft : order.status = .draft)
    : ∃ lines : List PurchaseOrderLineAdded, evs = lines.map .purchaseOrderLineAdded
        ∨ (order.lines ≠ [] ∨ lines ≠ [])
          ∧ ∃ (e : PurchaseOrderApproved) (received : Option GoodsReceived),
          evs = lines.map .purchaseOrderLineAdded
            ++ .purchaseOrderApproved e :: (received.map .goodsReceived).toList
          ∧ ∀ g, received = some g →
              order.supplierId = some g.supplierId ∧ g.lines = order.lines ++ lines.map lineOf := by
  induction evs generalizing order with
  | nil => exact ⟨[], .inl rfl⟩
  | cons ev evs ih =>
    rcases h with _ | ⟨⟨command, hstep⟩, hrest⟩
    cases hstep with
    | created hfresh => exact absurd (hcreated.symm.trans hfresh) (by simp)
    | @lineAdded _ e =>
      rcases ih hrest hcreated hdraft with ⟨lines, hevs | ⟨-, approved, received, hevs, hreceived⟩⟩
      . exact ⟨e :: lines, .inl (congrArg _ hevs)⟩
      . refine ⟨e :: lines, .inr ⟨.inr (by simp), approved, received, congrArg _ hevs, ?_⟩⟩
        intro g hg
        rcases hreceived g hg with ⟨hsupplier, hlines⟩
        refine ⟨hsupplier, hlines.trans ?_⟩
        exact List.append_assoc order.lines [lineOf e] (lines.map lineOf)
    | @approved _ e _ _ hlines =>
      rcases received_of_chain hrest hcreated rfl with ⟨received, rfl, hreceived⟩
      refine ⟨[], .inr ⟨.inl hlines, e, received, rfl, ?_⟩⟩
      intro g hg
      rcases hreceived g hg with ⟨hsupplier, hlines⟩
      exact ⟨hsupplier, hlines.trans (List.append_nil order.lines).symm⟩
    | received _ happroved => exact absurd (hdraft.symm.trans happroved) (by simp)

theorem story_of_produced {ok : PurchaseOrderCommand → Prop} {id : PurchaseOrderId}
    {evs : List PurchaseOrderEvent} (h : aggregate.Produced ok (empty id) evs) : Story evs := by
  have hchain : @Chain aggregate Moves (empty id) evs := by
    refine (@Aggregate.Produced.chain aggregate Moves (fun _ => True) ok (empty id)
      evs h trivial ?_).1
    intro order command decided _ hhandle
    rcases handle_step hhandle with ⟨ev, rfl, hstep, -⟩
    exact ⟨ev, rfl, ⟨command, hstep⟩, trivial⟩
  rcases hchain with _ | ⟨⟨command, hstep⟩, hrest⟩
  . exact .none
  . cases hstep with
    | @created _ c =>
      rcases lines_of_chain hrest rfl rfl with
        ⟨lines, rfl | ⟨hlines, e, received, rfl, hreceived⟩⟩
      . exact .draft
      . apply Story.approved (hlines.resolve_left fun hne => hne rfl)
        intro g hg
        rcases hreceived g hg with ⟨hsupplier, hlines⟩
        exact ⟨(Option.some.inj hsupplier).symm, hlines⟩
    | lineAdded hcreated => cases hcreated
    | approved hcreated => cases hcreated
    | received hcreated => cases hcreated

end PurchaseOrder

namespace User

-- Suspensions and activations take turns, and roles are only assigned in between.
def Alternates (status : UserStatus) (evs : List UserEvent) : Prop :=
  match evs with
  | [] => True
  | .created _ :: _ => False
  | .roleAssigned _ :: evs => status = .active ∧ Alternates status evs
  | .roleRevoked _ :: evs => Alternates status evs
  | .suspended _ :: evs => status = .active ∧ Alternates .suspended evs
  | .activated _ :: evs => status = .suspended ∧ Alternates .active evs

inductive Story : List UserEvent → Prop where
  | none : Story []
  | created {c : UserCreated} {evs : List UserEvent} :
      Alternates .active evs →
      Story (.created c :: evs)

inductive Turns (user : User) : UserEvent → Prop where
  | created {e : UserCreated} :
      user.created = false →
      Turns user (.created e)
  | roleAssigned {e : RoleAssigned} :
      user.created = true →
      user.status = .active →
      Turns user (.roleAssigned e)
  | roleRevoked {e : RoleRevoked} :
      user.created = true →
      Turns user (.roleRevoked e)
  | suspended {e : UserSuspended} :
      user.created = true →
      user.status = .active →
      Turns user (.suspended e)
  | activated {e : UserActivated} :
      user.created = true →
      user.status = .suspended →
      Turns user (.activated e)

theorem status_eq {status : UserStatus} (hne : status ≠ .suspended) : status = .active := by
  cases status with
  | active => rfl
  | suspended => exact absurd rfl hne

theorem handle_turns [Lowercase] {user : User} {command : UserCommand} {decided : List UserEvent}
    (h : user.handle command = .ok decided) : ∃ ev, decided = [ev] ∧ Turns user ev := by
  cases command with
  | create cmd =>
    rcases handleCreate_eq_ok_iff.mp h with ⟨hcreated, _, _, rfl⟩
    exact ⟨_, rfl, .created hcreated⟩
  | assignRole cmd =>
    rcases handleAssignRole_eq_ok_iff.mp h with ⟨hcreated, _, hstatus, _, _, rfl⟩
    exact ⟨_, rfl, .roleAssigned hcreated (status_eq hstatus)⟩
  | revokeRole cmd =>
    rcases handleRevokeRole_eq_ok_iff.mp h with ⟨hcreated, _, _, rfl⟩
    exact ⟨_, rfl, .roleRevoked hcreated⟩
  | suspend cmd =>
    rcases handleSuspend_eq_ok_iff.mp h with ⟨hcreated, _, hstatus, rfl⟩
    exact ⟨_, rfl, .suspended hcreated (status_eq hstatus)⟩
  | activate cmd =>
    rcases handleActivate_eq_ok_iff.mp h with ⟨hcreated, _, hstatus, rfl⟩
    refine ⟨_, rfl, .activated hcreated ?_⟩
    cases hs : user.status with
    | active => exact absurd hs hstatus
    | suspended => rfl

theorem alternates_of_chain [Lowercase] {user : User} {evs : List UserEvent}
    (h : @Chain aggregate Turns user evs) (hcreated : user.created = true) {status : UserStatus}
    (hstatus : user.status = status) : Alternates status evs := by
  induction evs generalizing user status with
  | nil => trivial
  | cons ev evs ih =>
    rcases h with _ | ⟨hstep, hrest⟩
    cases hstep with
    | created hfresh => exact absurd (hcreated.symm.trans hfresh) (by simp)
    | roleAssigned _ hactive => exact ⟨hstatus.symm.trans hactive, ih hrest hcreated hstatus⟩
    | roleRevoked => exact ih hrest hcreated hstatus
    | suspended _ hactive => exact ⟨hstatus.symm.trans hactive, ih hrest hcreated rfl⟩
    | activated _ hsuspended => exact ⟨hstatus.symm.trans hsuspended, ih hrest hcreated rfl⟩

theorem story_of_produced [Lowercase] {ok : UserCommand → Prop} {key : StreamKey}
    {evs : List UserEvent}
    (h : aggregate.Produced ok (blank key) evs) : Story evs := by
  have hchain : @Chain aggregate Turns (blank key) evs := by
    refine (@Aggregate.Produced.chain aggregate Turns (fun _ => True) ok (blank key)
      evs h trivial ?_).1
    intro user command decided _ hhandle
    rcases handle_turns hhandle with ⟨ev, rfl, hstep⟩
    exact ⟨ev, rfl, hstep, trivial⟩
  rcases hchain with _ | ⟨hstep, hrest⟩
  . exact .none
  . cases hstep with
    | created => exact .created (alternates_of_chain hrest rfl rfl)
    | roleAssigned hcreated => cases hcreated
    | roleRevoked hcreated => cases hcreated
    | suspended hcreated => cases hcreated
    | activated hcreated => cases hcreated

end User

namespace Ledger

-- Every entry has lines with positive amounts, and is balanced as long as it has not too many.
def Story (evs : List LedgerEvent) : Prop :=
  ∀ ev ∈ evs, ev.lines ≠ [] ∧ (∀ line ∈ ev.lines, 0 < line.amount)
    ∧ (ev.lines.length < 2 ^ 60 → debits ev.lines = credits ev.lines)

theorem story_of_produced {ok : JournalCommand → Prop} {ledger : Ledger} {evs : List LedgerEvent}
    (h : aggregate.Produced ok ledger evs) : Story evs := by
  intro ev hev
  refine ⟨?_, ?_, balanced_of_produced h ev hev⟩
  . revert ev
    apply h.forall (fun ev : LedgerEvent => ev.lines ≠ [])
    intro ledger command decided _ hhandle ev hev
    cases command with
    | postJournalEntry cmd =>
      rcases handlePost_eq_ok_iff.mp hhandle with ⟨-, hbalanced, rfl⟩
      cases List.mem_singleton.mp hev
      exact List.isEmpty_eq_false_iff.mp hbalanced.1
  . revert ev
    apply h.forall (fun ev : LedgerEvent => ∀ line ∈ ev.lines, 0 < line.amount)
    intro ledger command decided _ hhandle ev hev
    cases command with
    | postJournalEntry cmd =>
      rcases handlePost_eq_ok_iff.mp hhandle with ⟨-, ⟨-, total, htotal⟩, rfl⟩
      cases List.mem_singleton.mp hev
      exact pos_of_sumLines htotal

end Ledger

namespace AggregateKind

variable [Lowercase]

def Story (kind : AggregateKind) (evs : List kind.aggregate.Event) : Prop :=
  match kind with
  | .inventoryItem => InventoryItem.Story evs
  | .invoice => Invoice.Story evs
  | .ledger => Ledger.Story evs
  | .user => User.Story evs
  | .salesOrder => SalesOrder.Story evs
  | .purchaseOrder => PurchaseOrder.Story evs
  | .party => Party.Story evs
  | .product => Product.Story evs

theorem story_of_produced {kind : AggregateKind} {key : StreamKey}
    {ok : kind.aggregate.Command → Prop}
    {evs : List kind.aggregate.Event}
    (h : kind.aggregate.Produced ok (kind.makeAggregate key.tenantId key.aggregateId) evs)
    : kind.Story evs := by
  cases kind with
  | inventoryItem => exact InventoryItem.story_of_produced h
  | invoice => exact Invoice.story_of_produced h
  | ledger => exact Ledger.story_of_produced h
  | user => exact @User.story_of_produced _ ok key evs h
  | salesOrder => exact SalesOrder.story_of_produced h
  | purchaseOrder => exact PurchaseOrder.story_of_produced h
  | party => exact Party.story_of_produced h
  | product => exact Product.story_of_produced h

end AggregateKind

end ForgeErp
