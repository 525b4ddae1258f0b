import ForgeErp.Domain.Lemmas.Invoicing
import ForgeErp.Library.Machine
import ForgeErp.Library.Totals
import ForgeErp.Projections.Impl.Summaries
import ForgeErp.Projections.Lemmas.Guarded

/-!
This module contains the meaning of the customer balances. Next to the projection a run remembers
who was registered and how far every stream has been delivered; the rows are then sums over the
invoices, folded from their events up to there.
-/

namespace ForgeErp

namespace CustomerBalancesProjection

structure Books where
  st : State
  registered : StreamKey → Option PartyId
  seen : StreamKey → Nat

inductive Call where
  | register (key : StreamKey) (customerId : PartyId)
  | deliver (now : DateTime) (e : StoredEvent)

variable [TextFormat Uuid] [TextFormat DateTime]

namespace Books

def register (s : Books) (key : StreamKey) (customerId : PartyId) : Books where
  st := registerInvoiceCustomer s.st key.tenantId key.aggregateId customerId
  registered := fun k => if k = key then some customerId else s.registered k
  seen := s.seen

def deliver (s : Books) (now : DateTime) (e : StoredEvent) : Books where
  st := (projection.applyEnvelope now s.st e.toEnvelope).2
  registered := s.registered
  seen := fun k => if k = e.key then max (s.seen k) e.sequenceNumber else s.seen k

end Books

def books : Machine Books Call where
  init s :=
    s.st.store = .new ∧ s.st.side = .empty ∧ (∀ key, s.st.getCursor key = 0)
    ∧ (∀ key, s.registered key = none) ∧ ∀ key, s.seen key = 0
  step s call :=
    match call with
    | .register key customerId => some (s.register key customerId)
    | .deliver now e => some (s.deliver now e)

variable (log : List StoredEvent)

-- An invoice is registered before its first event, and no event overtakes an earlier one.
def Admissible (s : Books) (call : Call) : Prop :=
  match call with
  | .register key _ => s.seen key = 0
  | .deliver _ e => e ∈ log ∧ e.sequenceNumber ≤ s.seen e.key + 1

def keysIn : List StreamKey :=
  (log.map (·.key)).dedup

def invoiceOf (s : Books) (key : StreamKey) : Invoice :=
  Invoice.after ⟨key.aggregateId⟩ (eventsIn InvoiceEvent log key) (s.seen key)

-- The fallback for an invoice that nobody registered.
def salesOrderCustomer (key : StreamKey) : Option PartyId :=
  match (eventsIn InvoiceEvent log key).head? with
  | some (.invoiceIssued e) => some ⟨e.salesOrderId.aggregateId⟩
  | _ => none

def customerOf (s : Books) (key : StreamKey) : Option PartyId :=
  match s.registered key with
  | some p => some p
  | none => if s.seen key = 0 then none else salesOrderCustomer log key

def Booked (s : Books) (t : TenantId) (p : PartyId) (key : StreamKey) : Prop :=
  key.tenantId = t ∧ s.seen key ≠ 0 ∧ customerOf log s key = some p

instance (s : Books) (t : TenantId) (p : PartyId) : DecidablePred (Booked log s t p) := fun _ =>
  inferInstanceAs (Decidable (_ ∧ _ ∧ _))

def invoicesOf (s : Books) (t : TenantId) (p : PartyId) : List StreamKey :=
  (keysIn log).filter (Booked log s t p)

def sumOver (s : Books) (t : TenantId) (p : PartyId) (value : StreamKey → Nat) : Nat :=
  ((invoicesOf log s t p).map value).sum

def invoicedOn (s : Books) (key : StreamKey) : Nat :=
  (invoiceOf log s key).totalAmount.toNat

def paidOn (s : Books) (key : StreamKey) : Nat :=
  Invoice.payments ((eventsIn InvoiceEvent log key).take (s.seen key))

def owedOn (s : Books) (key : StreamKey) : Nat :=
  let inv := invoiceOf log s key
  if inv.status = .open then inv.totalAmount.toNat - inv.totalPaid.toNat else 0

def openOn (s : Books) (key : StreamKey) : Nat :=
  if (invoiceOf log s key).status = .open then 1 else 0

def Fits (s : Books) (t : TenantId) : Prop :=
  ∀ p, sumOver log s t p (invoicedOn log s) < 2 ^ 64

structure AmountsHold (s : Books) (t : TenantId) (p : PartyId) (row : CustomerBalance) : Prop where
  totalInvoiced : row.totalInvoiced.toNat = sumOver log s t p (invoicedOn log s)
  totalPaid : row.totalPaid.toNat = sumOver log s t p (paidOn log s)
  outstandingBalance : row.outstandingBalance.toNat = sumOver log s t p (owedOn log s)

def rowOf (s : Books) (t : TenantId) (p : PartyId) : CustomerBalance :=
  (s.st.store.get t p).getD (.new p)

def CountHolds (s : Books) (t : TenantId) (p : PartyId) : Prop :=
  (rowOf s t p).openInvoiceCount.toNat = sumOver log s t p (openOn log s)

/--
Before a step that is not sound the count of open invoices is right and behind it it is not: a paid
invoice is voided while its customer has open invoices, or the count overflows.
-/
def Sound (s : Books) (call : Call) : Prop :=
  match call with
  | .register _ _ => True
  | .deliver _ e =>
    e.sequenceNumber = s.seen e.key + 1 →
    match (eventsIn InvoiceEvent log e.key)[s.seen e.key]? with
    | some (.invoiceIssued ev) =>
      let p := (s.registered e.key).getD ⟨ev.salesOrderId.aggregateId⟩
      sumOver log s e.tenantId p (openOn log s) + 1 < 2 ^ 32
    | some (.invoiceVoided _) =>
      (invoiceOf log s e.key).status = .paid →
      ∀ p, customerOf log s e.key = some p → sumOver log s e.tenantId p (openOn log s) = 0
    | _ => True

section Sums

variable {log} {s s' : Books} {key : StreamKey} {t : TenantId} {p : PartyId}

omit [TextFormat Uuid] [TextFormat DateTime] in
theorem mem_keysIn {e : StoredEvent} (he : e ∈ log) : e.key ∈ keysIn log := by
  rw [keysIn, List.mem_dedup]
  exact List.mem_map_of_mem he

theorem sumOver_eq (s : Books) (t : TenantId) (p : PartyId) (value : StreamKey → Nat)
    : sumOver log s t p value
        =
      ((keysIn log).map (fun k => if Booked log s t p k then value k else 0)).sum := by
  unfold sumOver invoicesOf
  rw [Totals.sum_map_filter]
  simp only [decide_eq_true_eq]

theorem sumOver_congr {value value' : StreamKey → Nat}
    (hbooked : ∀ k, Booked log s t p k ↔ Booked log s' t p k)
    (hvalue : ∀ k, Booked log s t p k → value k = value' k)
    : sumOver log s t p value = sumOver log s' t p value' := by
  rw [sumOver_eq, sumOver_eq]
  congr 1
  apply List.map_congr_left
  intro k _
  by_cases h : Booked log s t p k
  . rw [if_pos h, if_pos ((hbooked k).mp h), hvalue k h]
  . rw [if_neg h, if_neg (fun h' => h ((hbooked k).mpr h'))]

theorem sumOver_le {value value' : StreamKey → Nat}
    (h : ∀ k, Booked log s t p k → value k ≤ value' k)
    : sumOver log s t p value ≤ sumOver log s t p value' := by
  rw [sumOver_eq, sumOver_eq]
  apply List.sum_le_sum
  intro k _
  by_cases hk : Booked log s t p k
  . rw [if_pos hk, if_pos hk]
    exact h k hk
  . rw [if_neg hk, if_neg hk]

theorem le_sumOver {value : StreamKey → Nat} (hmem : key ∈ keysIn log)
    (h : Booked log s t p key) : value key ≤ sumOver log s t p value := by
  unfold sumOver
  apply List.single_le_sum (by simp)
  apply List.mem_map_of_mem
  rw [invoicesOf, List.mem_filter]
  exact ⟨hmem, by simpa using h⟩

theorem sumOver_step {value value' : StreamKey → Nat} (hmem : key ∈ keysIn log)
    (hbooked' : Booked log s' t p key)
    (hother : ∀ k, k ≠ key → (Booked log s t p k ↔ Booked log s' t p k))
    (hvalue : ∀ k, k ≠ key → value k = value' k)
    : sumOver log s' t p value' + (if Booked log s t p key then value key else 0)
        =
      sumOver log s t p value + value' key := by
  rw [sumOver_eq, sumOver_eq]
  have hnodup : (keysIn log).Nodup := List.nodup_dedup _
  have hsum := Totals.sum_map_update hnodup hmem
    (f := fun k => if Booked log s' t p k then value' k else 0)
    (g := fun k => if Booked log s t p k then value k else 0) ?_
  . simpa only [if_pos hbooked'] using hsum
  . intro k hk
    by_cases h : Booked log s t p k
    . rw [if_pos h, if_pos ((hother k hk).mp h), hvalue k hk]
    . rw [if_neg h, if_neg (fun h' => h ((hother k hk).mpr h'))]

end Sums

def InvoiceLog : Prop :=
  ProducedLog (E := InvoiceEvent) (fun key evs =>
    Invoice.aggregate.Produced (fun command : InvoiceCommand => command.tenantId = key.tenantId)
      (Invoice.empty ⟨key.aggregateId⟩) evs) log

def mappingOf (inv : Invoice) (p : PartyId) : InvoiceCustomerMapping where
  customerId := p
  totalAmount := inv.totalAmount
  totalPaid := inv.totalPaid
  status := inv.status

/--
For one tenant: the cursors are where the deliveries are, the mappings mirror the invoices and the
rows are the sums over them.
-/
structure Tracks (s : Books) (t : TenantId) : Prop where
  cursor : ∀ key : StreamKey, key.tenantId = t → s.st.getCursor key = s.seen key
  bound : ∀ key : StreamKey, key.tenantId = t →
    s.seen key ≤ (eventsIn InvoiceEvent log key).length
  mapping : ∀ key : StreamKey, key.tenantId = t →
    s.st.side.get key = (customerOf log s key).map (mappingOf (invoiceOf log s key))
  row : ∀ key p, Booked log s t p key → (s.st.store.get t p).isSome
  origin : ∀ p row, s.st.store.get t p = some row →
    row.customerId = p ∧ row.customerName = none ∧ ∃ key, Booked log s t p key
  amounts : ∀ p, AmountsHold log s t p (rowOf s t p)
  count : ∀ p, CountHolds log s t p

structure Alike (s s' : Books) (t : TenantId) : Prop where
  seen : ∀ key : StreamKey, key.tenantId = t → s.seen key = s'.seen key
  registered : ∀ key : StreamKey, key.tenantId = t → s.registered key = s'.registered key
  cursor : ∀ key : StreamKey, key.tenantId = t → s.st.getCursor key = s'.st.getCursor key
  mapping : ∀ key : StreamKey, key.tenantId = t → s.st.side.get key = s'.st.side.get key
  row : ∀ p, s.st.store.get t p = s'.st.store.get t p

section Alike

variable {log} {s s' : Books} {t : TenantId}

theorem Alike.invoiceOf_eq (h : Alike s s' t) {key : StreamKey} (hkey : key.tenantId = t)
    : invoiceOf log s key = invoiceOf log s' key := by
  unfold invoiceOf
  rw [h.seen key hkey]

theorem Alike.customerOf_eq (h : Alike s s' t) {key : StreamKey} (hkey : key.tenantId = t)
    : customerOf log s key = customerOf log s' key := by
  unfold customerOf
  rw [h.seen key hkey, h.registered key hkey]

theorem Alike.booked_iff (h : Alike s s' t) (p : PartyId) (key : StreamKey)
    : Booked log s t p key ↔ Booked log s' t p key := by
  unfold Booked
  constructor
  . intro hb
    rw [← h.seen key hb.1, ← h.customerOf_eq hb.1]
    exact hb
  . intro hb
    rw [h.seen key hb.1, h.customerOf_eq hb.1]
    exact hb

theorem Alike.sumOver_eq (h : Alike s s' t) (p : PartyId) {value value' : StreamKey → Nat}
    (hvalue : ∀ key : StreamKey, key.tenantId = t → value key = value' key)
    : sumOver log s t p value = sumOver log s' t p value' := by
  apply sumOver_congr (h.booked_iff p)
  intro key hb
  exact hvalue key hb.1

omit [TextFormat Uuid] [TextFormat DateTime] in
theorem Alike.rowOf_eq (h : Alike s s' t) (p : PartyId) : rowOf s t p = rowOf s' t p := by
  unfold rowOf
  rw [h.row p]

variable (log) in
theorem Alike.sums_eq (h : Alike s s' t) (p : PartyId)
    : sumOver log s t p (invoicedOn log s) = sumOver log s' t p (invoicedOn log s')
      ∧ sumOver log s t p (paidOn log s) = sumOver log s' t p (paidOn log s')
      ∧ sumOver log s t p (owedOn log s) = sumOver log s' t p (owedOn log s')
      ∧ sumOver log s t p (openOn log s) = sumOver log s' t p (openOn log s') := by
  refine ⟨?_, ?_, ?_, ?_⟩
  . apply h.sumOver_eq p
    intro key hkey
    rw [invoicedOn, invoicedOn, h.invoiceOf_eq hkey]
  . apply h.sumOver_eq p
    intro key hkey
    rw [paidOn, paidOn, h.seen key hkey]
  . apply h.sumOver_eq p
    intro key hkey
    rw [owedOn, owedOn, h.invoiceOf_eq hkey]
  . apply h.sumOver_eq p
    intro key hkey
    rw [openOn, openOn, h.invoiceOf_eq hkey]

theorem Tracks.alike (h : Tracks log s t) (halike : Alike s s' t) : Tracks log s' t := by
  refine ⟨?_, ?_, ?_, ?_, ?_, ?_, ?_⟩
  . intro key hkey
    rw [← halike.cursor key hkey, ← halike.seen key hkey]
    exact h.cursor key hkey
  . intro key hkey
    rw [← halike.seen key hkey]
    exact h.bound key hkey
  . intro key hkey
    rw [← halike.mapping key hkey, ← halike.customerOf_eq hkey, ← halike.invoiceOf_eq hkey]
    exact h.mapping key hkey
  . intro key p hb
    rw [← halike.row p]
    exact h.row key p ((halike.booked_iff p key).mpr hb)
  . intro p row hrow
    rw [← halike.row p] at hrow
    rcases h.origin p row hrow with ⟨hid, hname, key, hb⟩
    exact ⟨hid, hname, key, (halike.booked_iff p key).mp hb⟩
  . intro p
    rcases halike.sums_eq log p with ⟨hinvoiced, hpaid, howed, _⟩
    rw [← halike.rowOf_eq p]
    have := h.amounts p
    exact ⟨hinvoiced ▸ this.totalInvoiced, hpaid ▸ this.totalPaid,
      howed ▸ this.outstandingBalance⟩
  . intro p
    rcases halike.sums_eq log p with ⟨_, _, _, hopen⟩
    unfold CountHolds
    rw [← halike.rowOf_eq p, ← hopen]
    exact h.count p

end Alike

structure Advances (s s' : Books) (key : StreamKey) : Prop where
  seen : ∀ k, s'.seen k = if k = key then s.seen k + 1 else s.seen k
  registered : s'.registered = s.registered

section Advances

variable {log} {s s' : Books} {key : StreamKey} {ev : InvoiceEvent}

theorem Advances.invoiceOf_ne (h : Advances s s' key) {k : StreamKey} (hk : k ≠ key)
    : invoiceOf log s' k = invoiceOf log s k := by
  unfold invoiceOf
  rw [h.seen k, if_neg hk]

theorem Advances.customerOf_eq (h : Advances s s' key) {k : StreamKey}
    (hk : k ≠ key ∨ s.seen key ≠ 0) : customerOf log s' k = customerOf log s k := by
  unfold customerOf
  rw [h.registered, h.seen k]
  by_cases heq : k = key
  . subst heq
    have hseen : s.seen k ≠ 0 := by simpa using hk
    simp [hseen]
  . simp [heq]

theorem Advances.booked_ne (h : Advances s s' key) {t : TenantId} {p : PartyId} {k : StreamKey}
    (hk : k ≠ key) : Booked log s t p k ↔ Booked log s' t p k := by
  unfold Booked
  rw [h.seen k, if_neg hk, h.customerOf_eq (Or.inl hk)]

theorem Advances.invoiceOf_next (h : Advances s s' key)
    (hev : (eventsIn InvoiceEvent log key)[s.seen key]? = some ev)
    : invoiceOf log s' key = (invoiceOf log s key).apply ev := by
  unfold invoiceOf
  rw [h.seen key, if_pos rfl, Invoice.after_succ hev]

theorem Advances.paidOn_next (h : Advances s s' key)
    (hev : (eventsIn InvoiceEvent log key)[s.seen key]? = some ev)
    : paidOn log s' key = paidOn log s key + Invoice.payments [ev] := by
  unfold paidOn
  rw [h.seen key, if_pos rfl, List.take_add_one, hev]
  simp [Invoice.payments]

theorem Advances.sumOver_next (h : Advances s s' key) (hmem : key ∈ keysIn log) {t : TenantId}
    {p : PartyId} (hbooked : Booked log s' t p key)
    {value : Books → StreamKey → Nat} (hvalue : ∀ k, k ≠ key → value s k = value s' k)
    : sumOver log s' t p (value s') + (if s.seen key = 0 then 0 else value s key)
        =
      sumOver log s t p (value s) + value s' key := by
  have hsum := sumOver_step hmem hbooked (fun k hk => h.booked_ne hk) hvalue
  by_cases hzero : s.seen key = 0
  . have hnot : ¬ Booked log s t p key := fun hb => hb.2.1 hzero
    rw [if_neg hnot] at hsum
    rw [if_pos hzero]
    exact hsum
  . have hbefore : Booked log s t p key := by
      refine ⟨hbooked.1, hzero, ?_⟩
      rw [← h.customerOf_eq (Or.inr hzero)]
      exact hbooked.2.2
    rw [if_pos hbefore] at hsum
    rw [if_neg hzero]
    exact hsum

theorem Advances.booked (h : Advances s s' key) {p : PartyId} (hp : customerOf log s' key = some p)
    : Booked log s' key.tenantId p key := by
  refine ⟨rfl, ?_, hp⟩
  rw [h.seen key, if_pos rfl]
  omega

theorem Advances.booked_mono (h : Advances s s' key) {t : TenantId} {p : PartyId} {k : StreamKey}
    (hb : Booked log s t p k) : Booked log s' t p k := by
  by_cases hk : k = key
  . subst hk
    rw [← hb.1]
    apply h.booked
    rw [h.customerOf_eq (Or.inr hb.2.1)]
    exact hb.2.2
  . exact (h.booked_ne hk).mp hb

theorem Advances.sumOver_other (h : Advances s s' key) {t : TenantId} {p : PartyId}
    (hbooked : ¬ Booked log s' t p key)
    {value : Books → StreamKey → Nat} (hvalue : ∀ k, k ≠ key → value s k = value s' k)
    : sumOver log s' t p (value s') = sumOver log s t p (value s) := by
  symm
  apply sumOver_congr
  . intro k
    by_cases hk : k = key
    . subst hk
      exact ⟨fun hb => absurd (h.booked_mono hb) hbooked, fun hb => absurd hb hbooked⟩
    . exact h.booked_ne hk
  . intro k hb
    apply hvalue
    intro hk
    subst hk
    exact hbooked (h.booked_mono hb)

theorem Advances.values (h : Advances s s' key) {k : StreamKey} (hk : k ≠ key)
    : invoicedOn log s k = invoicedOn log s' k ∧ paidOn log s k = paidOn log s' k
      ∧ owedOn log s k = owedOn log s' k ∧ openOn log s k = openOn log s' k := by
  unfold invoicedOn paidOn owedOn openOn
  rw [h.invoiceOf_ne hk, h.seen k, if_neg hk]
  exact ⟨rfl, rfl, rfl, rfl⟩

theorem Advances.sums (h : Advances s s' key) (hmem : key ∈ keysIn log) {t : TenantId} {p : PartyId}
    (hbooked : Booked log s' t p key)
    : (sumOver log s' t p (invoicedOn log s') + (if s.seen key = 0 then 0 else invoicedOn log s key)
        = sumOver log s t p (invoicedOn log s) + invoicedOn log s' key)
      ∧ (sumOver log s' t p (paidOn log s') + (if s.seen key = 0 then 0 else paidOn log s key)
        = sumOver log s t p (paidOn log s) + paidOn log s' key)
      ∧ (sumOver log s' t p (owedOn log s') + (if s.seen key = 0 then 0 else owedOn log s key)
        = sumOver log s t p (owedOn log s) + owedOn log s' key)
      ∧ (sumOver log s' t p (openOn log s') + (if s.seen key = 0 then 0 else openOn log s key)
        = sumOver log s t p (openOn log s) + openOn log s' key) := by
  refine ⟨?_, ?_, ?_, ?_⟩
  . exact h.sumOver_next hmem hbooked (fun k hk => (h.values hk).1)
  . exact h.sumOver_next hmem hbooked (fun k hk => (h.values hk).2.1)
  . exact h.sumOver_next hmem hbooked (fun k hk => (h.values hk).2.2.1)
  . exact h.sumOver_next hmem hbooked (fun k hk => (h.values hk).2.2.2)

theorem Advances.sums_other (h : Advances s s' key) {t : TenantId} {p : PartyId}
    (hbooked : ¬ Booked log s' t p key)
    : sumOver log s' t p (invoicedOn log s') = sumOver log s t p (invoicedOn log s)
      ∧ sumOver log s' t p (paidOn log s') = sumOver log s t p (paidOn log s)
      ∧ sumOver log s' t p (owedOn log s') = sumOver log s t p (owedOn log s)
      ∧ sumOver log s' t p (openOn log s') = sumOver log s t p (openOn log s) := by
  refine ⟨?_, ?_, ?_, ?_⟩
  . exact h.sumOver_other hbooked (fun k hk => (h.values hk).1)
  . exact h.sumOver_other hbooked (fun k hk => (h.values hk).2.1)
  . exact h.sumOver_other hbooked (fun k hk => (h.values hk).2.2.1)
  . exact h.sumOver_other hbooked (fun k hk => (h.values hk).2.2.2)

end Advances

end CustomerBalancesProjection

end ForgeErp
