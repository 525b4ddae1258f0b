import ForgeErp.Projections.Lemmas.CustomerBooks

/-!
This module contains what every kind of event does to the row of the customer it is booked to. The
amounts of the row come out right; whether its count of open invoices does depends on the step.
-/

namespace ForgeErp

namespace CustomerBalancesProjection

variable [TextFormat Uuid] [TextFormat DateTime] (log : List StoredEvent)

section Frame

omit [TextFormat Uuid] [TextFormat DateTime]

theorem update_frame (now : DateTime) (data : Data) (key : StreamKey) (ev : InvoiceEvent)
    : (∀ t p, t ≠ key.tenantId → (projection.update now data key ev).1.get t p = data.1.get t p)
      ∧ ∀ k, k ≠ key → (projection.update now data key ev).2.get k = data.2.get k := by
  have hrow : ∀ t p p' row, t ≠ key.tenantId →
      (data.1.upsert key.tenantId p' row).get t p = data.1.get t p := by
    intro t p p' row ht
    rw [InMemoryTenantStore.get_upsert, if_neg (fun h => ht h.1)]
  have hmapping : ∀ k m, k ≠ key → (data.2.insert key m).get k = data.2.get k := by
    intro k m hk
    rw [KeyMap.get_insert, if_neg hk]
  cases ev with
  | invoiceIssued e => exact ⟨fun t p ht => hrow t p _ _ ht, fun k hk => hmapping k _ hk⟩
  | paymentRegistered e =>
    dsimp only [projection]
    unfold applyPayment
    split
    . exact ⟨fun _ _ _ => rfl, fun _ _ => rfl⟩
    . dsimp only
      split
      . exact ⟨fun _ _ _ => rfl, fun k hk => hmapping k _ hk⟩
      . exact ⟨fun t p ht => hrow t p _ _ ht, fun k hk => hmapping k _ hk⟩
  | invoiceVoided e =>
    dsimp only [projection]
    unfold applyVoided
    split
    . exact ⟨fun _ _ _ => rfl, fun _ _ => rfl⟩
    . dsimp only
      split
      . exact ⟨fun _ _ _ => rfl, fun k hk => hmapping k _ hk⟩
      . exact ⟨fun t p ht => hrow t p _ _ ht, fun k hk => hmapping k _ hk⟩

end Frame

section Rows

omit [TextFormat Uuid] [TextFormat DateTime]

theorem toNat_saturatingSub (a b : UInt64) : (saturatingSub a b).toNat = a.toNat - b.toNat := by
  unfold saturatingSub
  split
  . next h =>
    rw [UInt64.le_iff_toNat_le] at h
    have hzero : (0 : UInt64).toNat = 0 := rfl
    omega
  . next h =>
    rw [UInt64.not_le] at h
    rw [UInt64.toNat_sub_of_le]
    exact UInt64.le_of_lt h

theorem toNat_decrement (count : UInt32) : (decrement count).toNat = count.toNat - 1 := by
  unfold decrement
  split
  . next h =>
    subst h
    rfl
  . next h =>
    have hone : (1 : UInt32) ≤ count := by
      rw [UInt32.le_iff_toNat_le]
      have hpos : count.toNat ≠ 0 := by
        intro hzero
        apply h
        rw [← UInt32.toNat_inj]
        exact hzero
      have hone : (1 : UInt32).toNat = 1 := rfl
      omega
    rw [UInt32.toNat_sub_of_le _ _ hone]
    rfl

def issuedRow (row : CustomerBalance) (e : InvoiceIssued) : CustomerBalance :=
  { row with
    totalInvoiced := row.totalInvoiced + e.totalAmount
    outstandingBalance := row.outstandingBalance + e.totalAmount
    openInvoiceCount := row.openInvoiceCount + 1
  }

def paidRow (row : CustomerBalance) (e : PaymentRegistered) (settled : Bool) : CustomerBalance :=
  { row with
    totalPaid := row.totalPaid + e.amount
    outstandingBalance := saturatingSub row.outstandingBalance e.amount
    openInvoiceCount := if settled then decrement row.openInvoiceCount else row.openInvoiceCount
  }

def voidedRow (row : CustomerBalance) (outstanding : UInt64) : CustomerBalance :=
  { row with
    outstandingBalance := saturatingSub row.outstandingBalance outstanding
    openInvoiceCount := decrement row.openInvoiceCount
  }

variable {now : DateTime} {data : Data} {key : StreamKey} {p : PartyId}

theorem update_issued {e : InvoiceIssued}
    (hp : ((data.2.get key).map (·.customerId)).getD ⟨e.salesOrderId.aggregateId⟩ = p)
    : projection.update now data key (.invoiceIssued e)
        =
      (data.1.upsert key.tenantId p
          (issuedRow ((data.1.get key.tenantId p).getD (.new p)) e),
        data.2.insert key ⟨p, e.totalAmount, 0, .open⟩) := by
  dsimp only [projection]
  unfold applyIssued
  subst hp
  cases data.2.get key with
  | none => rfl
  | some mapping => rfl

theorem update_payment {e : PaymentRegistered} {mapping : InvoiceCustomerMapping}
    {row : CustomerBalance} (hmapping : data.2.get key = some mapping)
    (hrow : data.1.get key.tenantId mapping.customerId = some row)
    : projection.update now data key (.paymentRegistered e)
        =
      (data.1.upsert key.tenantId mapping.customerId
          (paidRow row e (decide (e.newTotalPaid ≥ mapping.totalAmount))),
        data.2.insert key { mapping with
          totalPaid := e.newTotalPaid
          status := if e.newTotalPaid ≥ mapping.totalAmount then .paid else mapping.status
        }) := by
  dsimp only [projection]
  unfold applyPayment
  simp only [hmapping, hrow]
  simp [paidRow]

theorem update_voided {e : InvoiceVoided} {mapping : InvoiceCustomerMapping} {row : CustomerBalance}
    (hmapping : data.2.get key = some mapping)
    (hrow : data.1.get key.tenantId mapping.customerId = some row)
    : projection.update now data key (.invoiceVoided e)
        =
      (data.1.upsert key.tenantId mapping.customerId
          (voidedRow row (saturatingSub mapping.totalAmount mapping.totalPaid)),
        data.2.insert key { mapping with status := .void }) := by
  dsimp only [projection]
  unfold applyVoided
  simp only [hmapping, hrow]
  rfl

end Rows

section Steps

theorem alike_deliver {s : Books} {now : DateTime} {e : StoredEvent} {t : TenantId}
    (ht : t ≠ e.tenantId) : Alike s (s.deliver now e) t := by
  have hne : ∀ key : StreamKey, key.tenantId = t → key ≠ e.key := by
    intro key hkey heq
    apply ht
    rw [← hkey, heq]
    rfl
  have hseen : ∀ key : StreamKey, key.tenantId = t → s.seen key = (s.deliver now e).seen key := by
    intro key hkey
    exact (if_neg (hne key hkey)).symm
  by_cases haccepts : ∃ ev, projection.Accepts s.st e.toEnvelope ev
  . rcases haccepts with ⟨ev, haccepts⟩
    have hst : (s.deliver now e).st = projection.write now s.st e.toEnvelope ev := by
      unfold Books.deliver
      rw [projection.applyEnvelope_of_accepts haccepts]
    rcases update_frame now s.st.data e.key ev with ⟨hrow, hmapping⟩
    refine ⟨hseen, fun _ _ => rfl, ?_, ?_, ?_⟩
    . intro key hkey
      rw [hst]
      exact (ProjectionWith.getCursor_updateCursor_ne _ _ (hne key hkey)).symm
    . intro key hkey
      rw [hst]
      exact (hmapping key (hne key hkey)).symm
    . intro p
      rw [hst]
      exact (hrow t p ht).symm
  . rw [not_exists] at haccepts
    have hst : (s.deliver now e).st = s.st := projection.applyEnvelope_of_not_accepts haccepts
    refine ⟨hseen, fun _ _ => rfl, ?_, ?_, ?_⟩
    . intro key _
      rw [hst]
    . intro key _
      rw [hst]
    . intro p
      rw [hst]

variable {log} (hlog : InvoiceLog log) (htype : ∀ e ∈ log, e.aggregateType = "invoicing.invoice")

include hlog

theorem lifecycle_eventsIn (key : StreamKey)
    : Invoice.Lifecycle ⟨key.aggregateId⟩ (eventsIn InvoiceEvent log key) := by
  apply Invoice.lifecycle_of_produced (ProducedLog.events hlog key).1

include htype

theorem carries_event {e : StoredEvent} (he : e ∈ log)
    : ∃ ev, 1 ≤ e.sequenceNumber
        ∧ (eventsIn InvoiceEvent log e.key)[e.sequenceNumber - 1]? = some ev
        ∧ projection.Carries e.toEnvelope ev := by
  rcases ProducedLog.event hlog he with ⟨ev, hpos, hev, hdec⟩
  have htenant := Invoice.tenantId_of_produced (ProducedLog.events hlog e.key).1 ev
    (List.mem_of_getElem? hev)
  exact ⟨ev, hpos, hev, htype e he, hdec, htenant, rfl⟩

theorem deliver_eq {s : Books} {now : DateTime} {e : StoredEvent} (he : e ∈ log)
    (hcursor : s.st.getCursor e.key = s.seen e.key)
    (hle : e.sequenceNumber ≤ s.seen e.key + 1)
    : (e.sequenceNumber ≤ s.seen e.key ∧ s.deliver now e = s)
      ∨ ∃ ev, (eventsIn InvoiceEvent log e.key)[s.seen e.key]? = some ev
          ∧ e.sequenceNumber = s.seen e.key + 1
          ∧ (s.deliver now e).st = projection.write now s.st e.toEnvelope ev
          ∧ ∀ k, (s.deliver now e).seen k = if k = e.key then s.seen k + 1 else s.seen k := by
  rcases carries_event hlog htype he with ⟨ev, hpos, hev, hcarries⟩
  have hkey : e.toEnvelope.key = e.key := rfl
  have hseq : e.toEnvelope.sequenceNumber = e.sequenceNumber := rfl
  have happly := @GuardedProjection.applyEnvelope_of_le _ _ _ _ _ projection now
    s.st e.toEnvelope ev
    hcarries hpos (by rw [hkey, hseq, hcursor]; exact hle)
  rw [hkey, hseq, hcursor] at happly
  by_cases hnext : e.sequenceNumber = s.seen e.key + 1
  . right
    rw [if_pos hnext] at happly
    refine ⟨ev, ?_, hnext, ?_, ?_⟩
    . rw [hnext, Nat.add_sub_cancel] at hev
      exact hev
    . unfold Books.deliver
      dsimp only
      rw [happly]
    . intro k
      unfold Books.deliver
      dsimp only
      split
      . next hk =>
        rw [hk]
        omega
      . rfl
  . left
    refine ⟨by omega, ?_⟩
    rw [if_neg hnext] at happly
    have hseen : (fun k => if k = e.key then max (s.seen k) e.sequenceNumber else s.seen k)
        = s.seen := by
      funext k
      split
      . next hk =>
        rw [hk]
        omega
      . rfl
    unfold Books.deliver
    rw [happly, hseen]

end Steps

section Booking

variable {log} {s s' : Books} {t : TenantId} {p : PartyId} {key : StreamKey}

variable (log) in
/--
The next event of a stream has been booked to the customer `p`. Its row has the right amounts;
whether the count of open invoices is right depends on the step.
-/
structure Booking (s s' : Books) (key : StreamKey) (p : PartyId) (row : CustomerBalance)
    : Prop where
  customer : customerOf log s' key = some p
  store : s'.st.store = s.st.store.upsert key.tenantId p row
  side : s'.st.side = s.st.side.insert key (mappingOf (invoiceOf log s' key) p)
  identity : row.customerId = p ∧ row.customerName = none
  amounts : AmountsHold log s' key.tenantId p row

theorem Tracks.rowOf_identity (h : Tracks log s t) (p : PartyId)
    : (rowOf s t p).customerId = p ∧ (rowOf s t p).customerName = none := by
  unfold rowOf
  cases hget : s.st.store.get t p with
  | none => exact ⟨rfl, rfl⟩
  | some row =>
    have := h.origin p row hget
    exact ⟨this.1, this.2.1⟩

variable (hlog : InvoiceLog log)

include hlog

theorem invoiceOf_consistent (hbound : s.seen key ≤ (eventsIn InvoiceEvent log key).length)
    : (invoiceOf log s key).Consistent
      ∧ ((invoiceOf log s key).created = true ↔ s.seen key ≠ 0)
      ∧ (invoiceOf log s key).totalPaid.toNat = paidOn log s key := by
  have hlife := lifecycle_eventsIn hlog key
  exact ⟨hlife.consistent hbound, hlife.created_iff hbound, hlife.totalPaid_eq hbound⟩

theorem values_le (hbound : s.seen key ≤ (eventsIn InvoiceEvent log key).length)
    : paidOn log s key ≤ invoicedOn log s key ∧ owedOn log s key ≤ invoicedOn log s key := by
  rcases invoiceOf_consistent hlog hbound with ⟨hconsistent, _, hpaid⟩
  have hle := hconsistent.paid_le
  rw [UInt64.le_iff_toNat_le] at hle
  unfold owedOn invoicedOn
  dsimp only
  constructor
  . omega
  . split
    . omega
    . omega

theorem head?_issued {ev : InvoiceEvent} (hev : (eventsIn InvoiceEvent log key).head? = some ev)
    : ∃ e, ev = .invoiceIssued e := by
  rw [List.head?_eq_getElem?] at hev
  have hnext := lifecycle_eventsIn hlog key 0 ev hev
  cases hnext with
  | @issued e => exact ⟨e, rfl⟩
  | payment hcreated => exact absurd hcreated (by simp [Invoice.after, Invoice.empty])
  | voided hcreated => exact absurd hcreated (by simp [Invoice.after, Invoice.empty])

theorem exists_customerOf (hseen : s.seen key ≠ 0)
    (hbound : s.seen key ≤ (eventsIn InvoiceEvent log key).length)
    : ∃ p, customerOf log s key = some p := by
  unfold customerOf
  cases s.registered key with
  | some p => exact ⟨p, rfl⟩
  | none =>
    dsimp only
    rw [if_neg hseen]
    unfold salesOrderCustomer
    cases hhead : (eventsIn InvoiceEvent log key).head? with
    | none =>
      rw [List.head?_eq_none_iff] at hhead
      rw [hhead, List.length_nil] at hbound
      omega
    | some ev =>
      rcases head?_issued hlog hhead with ⟨e, rfl⟩
      exact ⟨_, rfl⟩

theorem sums_le
    (hbound : ∀ k : StreamKey, k.tenantId = t → s.seen k ≤ (eventsIn InvoiceEvent log k).length)
    (p : PartyId)
    : sumOver log s t p (paidOn log s) ≤ sumOver log s t p (invoicedOn log s)
      ∧ sumOver log s t p (owedOn log s) ≤ sumOver log s t p (invoicedOn log s) := by
  constructor
  . apply sumOver_le
    intro k hk
    exact (values_le hlog (hbound k hk.1)).1
  . apply sumOver_le
    intro k hk
    exact (values_le hlog (hbound k hk.1)).2

omit hlog in
theorem Advances.bound (hadv : Advances s s' key) {ev : InvoiceEvent}
    (hev : (eventsIn InvoiceEvent log key)[s.seen key]? = some ev)
    (hbound : ∀ k : StreamKey, k.tenantId = t → s.seen k ≤ (eventsIn InvoiceEvent log k).length)
    : ∀ k : StreamKey, k.tenantId = t → s'.seen k ≤ (eventsIn InvoiceEvent log k).length := by
  intro k hk
  rw [hadv.seen k]
  split
  . next heq =>
    subst heq
    rw [List.getElem?_eq_some_iff] at hev
    have := hev.1
    omega
  . exact hbound k hk

variable {now : DateTime}

theorem seen_of_issued {e : InvoiceIssued}
    (hev : (eventsIn InvoiceEvent log key)[s.seen key]? = some (.invoiceIssued e))
    : s.seen key = 0 := by
  have hbound := Nat.le_of_lt (List.getElem?_eq_some_iff.mp hev).1
  rcases invoiceOf_consistent hlog hbound with ⟨_, hcreated, _⟩
  cases lifecycle_eventsIn hlog key _ _ hev with
  | issued hfresh =>
    have hfresh : (invoiceOf log s key).created = false := hfresh
    rw [hfresh] at hcreated
    simpa using hcreated

theorem seen_of_later {ev : InvoiceEvent}
    (hev : (eventsIn InvoiceEvent log key)[s.seen key]? = some ev)
    (hnot : ∀ e, ev ≠ .invoiceIssued e) : s.seen key ≠ 0 := by
  have hbound := Nat.le_of_lt (List.getElem?_eq_some_iff.mp hev).1
  apply (invoiceOf_consistent hlog hbound).2.1.mp
  cases lifecycle_eventsIn hlog key _ _ hev with
  | issued => exact absurd rfl (hnot _)
  | payment hcreated => exact hcreated
  | voided hcreated => exact hcreated

theorem customerOf_issued {e : InvoiceIssued}
    (hev : (eventsIn InvoiceEvent log key)[s.seen key]? = some (.invoiceIssued e))
    (hp : (s.registered key).getD ⟨e.salesOrderId.aggregateId⟩ = p) (hadv : Advances s s' key)
    : customerOf log s key = s.registered key ∧ customerOf log s' key = some p := by
  have hzero := seen_of_issued hlog hev
  rw [hzero, ← List.head?_eq_getElem?] at hev
  unfold customerOf
  rw [hadv.registered, hadv.seen key, if_pos rfl, ← hp]
  cases s.registered key with
  | some q => exact ⟨rfl, rfl⟩
  | none => simp [hzero, salesOrderCustomer, hev]

theorem sums_issued {e : InvoiceIssued}
    (hev : (eventsIn InvoiceEvent log key)[s.seen key]? = some (.invoiceIssued e))
    (hadv : Advances s s' key) (hmem : key ∈ keysIn log) (hbooked : Booked log s' t p key)
    : sumOver log s' t p (invoicedOn log s')
        = sumOver log s t p (invoicedOn log s) + e.totalAmount.toNat
      ∧ sumOver log s' t p (paidOn log s') = sumOver log s t p (paidOn log s)
      ∧ sumOver log s' t p (owedOn log s')
        = sumOver log s t p (owedOn log s) + e.totalAmount.toNat
      ∧ sumOver log s' t p (openOn log s') = sumOver log s t p (openOn log s) + 1 := by
  have hzero := seen_of_issued hlog hev
  have hinv := hadv.invoiceOf_next hev
  have hinvoiced : invoicedOn log s' key = e.totalAmount.toNat := by
    rw [invoicedOn, hinv]
    rfl
  have hpaid : paidOn log s' key = 0 := by
    rw [hadv.paidOn_next hev]
    simp [paidOn, hzero, Invoice.payments]
  have howed : owedOn log s' key = e.totalAmount.toNat := by
    rw [owedOn, hinv]
    simp [Invoice.apply]
  have hopen : openOn log s' key = 1 := by
    rw [openOn, hinv]
    simp [Invoice.apply]
  have hsums := hadv.sums hmem hbooked
  rw [if_pos hzero, if_pos hzero, if_pos hzero, if_pos hzero, hinvoiced, hpaid, howed, hopen]
    at hsums
  exact hsums

theorem booking_issued {e : InvoiceIssued}
    (hev : (eventsIn InvoiceEvent log key)[s.seen key]? = some (.invoiceIssued e))
    (hdata : s'.st.data = projection.update now s.st.data key (.invoiceIssued e))
    (hp : (s.registered key).getD ⟨e.salesOrderId.aggregateId⟩ = p)
    (hmem : key ∈ keysIn log)
    (h : Tracks log s key.tenantId) (hadv : Advances s s' key) (hfits : Fits log s' key.tenantId)
    : Booking log s s' key p (issuedRow (rowOf s key.tenantId p) e)
      ∧ ((issuedRow (rowOf s key.tenantId p) e).openInvoiceCount.toNat
            = sumOver log s' key.tenantId p (openOn log s')
          ↔
        sumOver log s key.tenantId p (openOn log s) + 1 < 2 ^ 32) := by
  rcases customerOf_issued hlog hev hp hadv with ⟨hbefore, hcustomer⟩
  have hmapped : ((s.st.data.2.get key).map (·.customerId)).getD ⟨e.salesOrderId.aggregateId⟩
    = p := by
    have hmapping : s.st.data.2.get key = _ := h.mapping key rfl
    rw [hmapping, hbefore, Option.map_map, ← hp]
    cases s.registered key <;> rfl
  rw [update_issued hmapped] at hdata
  have hmappingOf : mappingOf (invoiceOf log s' key) p = ⟨p, e.totalAmount, 0, .open⟩ := by
    rw [hadv.invoiceOf_next hev]
    rfl
  rcases sums_issued hlog hev hadv hmem (hadv.booked hcustomer) with
    ⟨hinvoiced, hpaid, howed, hopen⟩
  have hrow := h.amounts p
  have hcount := h.count p
  have hfit := hfits p
  have hle := sums_le hlog (hadv.bound hev h.bound) p
  unfold CountHolds at hcount
  refine ⟨⟨hcustomer, congrArg Prod.fst hdata, ?_, h.rowOf_identity p, ?_⟩, ?_⟩
  . rw [hmappingOf]
    exact congrArg Prod.snd hdata
  . have hI := hrow.totalInvoiced
    have hP := hrow.totalPaid
    have hO := hrow.outstandingBalance
    refine ⟨?_, ?_, ?_⟩
    . simp only [issuedRow, UInt64.toNat_add]
      omega
    . simp only [issuedRow]
      omega
    . simp only [issuedRow, UInt64.toNat_add]
      omega
  . simp only [issuedRow, UInt32.toNat_add]
    have hone : (1 : UInt32).toNat = 1 := rfl
    omega

omit hlog in
theorem booked_row (h : Tracks log s key.tenantId) (hseen : s.seen key ≠ 0)
    (hp : customerOf log s key = some p)
    : s.st.data.2.get key = some (mappingOf (invoiceOf log s key) p)
      ∧ s.st.data.1.get key.tenantId p = some (rowOf s key.tenantId p)
    := by
  have hbooked : Booked log s key.tenantId p key := ⟨rfl, hseen, hp⟩
  constructor
  . have hmapping := h.mapping key rfl
    rw [hp] at hmapping
    exact hmapping
  . have hrow := h.row key p hbooked
    rw [Option.isSome_iff_exists] at hrow
    rcases hrow with ⟨row, hrow⟩
    have hget : s.st.data.1.get key.tenantId p = some row := hrow
    rw [hget, rowOf, hrow]
    rfl

theorem sums_payment {e : PaymentRegistered}
    (hev : (eventsIn InvoiceEvent log key)[s.seen key]? = some (.paymentRegistered e))
    (hadv : Advances s s' key) (hmem : key ∈ keysIn log) (hbooked : Booked log s' t p key)
    : sumOver log s' t p (invoicedOn log s') = sumOver log s t p (invoicedOn log s)
      ∧ sumOver log s' t p (paidOn log s') = sumOver log s t p (paidOn log s) + e.amount.toNat
      ∧ sumOver log s' t p (owedOn log s') + e.amount.toNat = sumOver log s t p (owedOn log s)
      ∧ sumOver log s' t p (openOn log s')
          + (if e.newTotalPaid ≥ (invoiceOf log s key).totalAmount then 1 else 0)
        = sumOver log s t p (openOn log s) := by
  have hbound := Nat.le_of_lt (List.getElem?_eq_some_iff.mp hev).1
  rcases invoiceOf_consistent hlog hbound with ⟨_, hcreated, _⟩
  have hinv := hadv.invoiceOf_next hev
  rw [Invoice.apply_paymentRegistered] at hinv
  have hnext : Invoice.Next (invoiceOf log s key) (.paymentRegistered e) :=
    lifecycle_eventsIn hlog key _ _ hev
  cases hnext with
  | payment hissued hstatus hlt hadd hle =>
    have hseen := hcreated.mp hissued
    rw [UInt64.lt_iff_toNat_lt] at hlt
    rw [UInt64.le_iff_toNat_le] at hle
    have hsettled : e.newTotalPaid ≥ (invoiceOf log s key).totalAmount
        ↔ e.newTotalPaid.toNat = (invoiceOf log s key).totalAmount.toNat := by
      rw [ge_iff_le, UInt64.le_iff_toNat_le]
      omega
    have hinvoiced : invoicedOn log s' key = invoicedOn log s key := by
      rw [invoicedOn, hinv, invoicedOn]
    have hpaid : paidOn log s' key = paidOn log s key + e.amount.toNat := by
      rw [hadv.paidOn_next hev]
      simp [Invoice.payments]
    have howed : owedOn log s' key + e.amount.toNat = owedOn log s key := by
      rw [owedOn, hinv, owedOn, if_pos hstatus]
      dsimp only
      by_cases hge : e.newTotalPaid ≥ (invoiceOf log s key).totalAmount
      . rw [if_pos hge, if_neg (by simp)]
        rw [hsettled] at hge
        omega
      . rw [if_neg hge, if_pos hstatus]
        omega
    have hopen : openOn log s' key
        + (if e.newTotalPaid ≥ (invoiceOf log s key).totalAmount then 1 else 0)
        = openOn log s key := by
      rw [openOn, hinv, openOn, if_pos hstatus]
      dsimp only
      by_cases hge : e.newTotalPaid ≥ (invoiceOf log s key).totalAmount
      . rw [if_pos hge, if_neg (by simp), if_pos hge]
      . rw [if_neg hge, if_pos hstatus, if_neg hge]
    rcases hadv.sums hmem hbooked with ⟨hI, hP, hO, hN⟩
    rw [if_neg hseen] at hI hP hO hN
    omega

theorem booking_payment {e : PaymentRegistered}
    (hev : (eventsIn InvoiceEvent log key)[s.seen key]? = some (.paymentRegistered e))
    (hdata : s'.st.data = projection.update now s.st.data key (.paymentRegistered e))
    (hseen : s.seen key ≠ 0) (hp : customerOf log s key = some p) (hmem : key ∈ keysIn log)
    (h : Tracks log s key.tenantId) (hadv : Advances s s' key) (hfits : Fits log s' key.tenantId)
    : ∃ row, Booking log s s' key p row
        ∧ row.openInvoiceCount.toNat = sumOver log s' key.tenantId p (openOn log s') := by
  have hinv := hadv.invoiceOf_next hev
  rw [Invoice.apply_paymentRegistered] at hinv
  have hcustomer : customerOf log s' key = some p := by
    rw [hadv.customerOf_eq (Or.inr hseen)]
    exact hp
  rcases booked_row h hseen hp with ⟨hmapping, hrow⟩
  rw [update_payment hmapping hrow] at hdata
  rcases sums_payment hlog hev hadv hmem (hadv.booked hcustomer) with
    ⟨hinvoiced, hpaid, howed, hopen⟩
  have hamounts := h.amounts p
  have hcount := h.count p
  have hfit := hfits p
  have hsums := sums_le hlog (hadv.bound hev h.bound) p
  unfold CountHolds at hcount
  refine ⟨_, ⟨hcustomer, congrArg Prod.fst hdata, ?_, h.rowOf_identity p, ?_⟩, ?_⟩
  . rw [hinv]
    exact congrArg Prod.snd hdata
  . have hI := hamounts.totalInvoiced
    have hP := hamounts.totalPaid
    have hO := hamounts.outstandingBalance
    refine ⟨?_, ?_, ?_⟩
    . simp only [paidRow]
      omega
    . simp only [paidRow, UInt64.toNat_add]
      omega
    . simp only [paidRow, toNat_saturatingSub]
      omega
  . simp only [paidRow, mappingOf]
    by_cases hge : e.newTotalPaid ≥ (invoiceOf log s key).totalAmount
    . rw [if_pos hge] at hopen
      simp only [hge, decide_true, ↓reduceIte, toNat_decrement]
      omega
    . rw [if_neg hge] at hopen
      simp only [hge, decide_false, Bool.false_eq_true, ↓reduceIte]
      omega

theorem sums_voided {e : InvoiceVoided}
    (hev : (eventsIn InvoiceEvent log key)[s.seen key]? = some (.invoiceVoided e))
    (hadv : Advances s s' key) (hmem : key ∈ keysIn log) (hbooked : Booked log s' t p key)
    : sumOver log s' t p (invoicedOn log s') = sumOver log s t p (invoicedOn log s)
      ∧ sumOver log s' t p (paidOn log s') = sumOver log s t p (paidOn log s)
      ∧ sumOver log s' t p (owedOn log s')
          + ((invoiceOf log s key).totalAmount.toNat - (invoiceOf log s key).totalPaid.toNat)
        = sumOver log s t p (owedOn log s)
      ∧ sumOver log s' t p (openOn log s')
          + (if (invoiceOf log s key).status = .paid then 0 else 1)
        = sumOver log s t p (openOn log s) := by
  have hbound := Nat.le_of_lt (List.getElem?_eq_some_iff.mp hev).1
  rcases invoiceOf_consistent hlog hbound with ⟨hconsistent, hcreated, _⟩
  have hinv := hadv.invoiceOf_next hev
  have hnext : Invoice.Next (invoiceOf log s key) (.invoiceVoided e) :=
    lifecycle_eventsIn hlog key _ _ hev
  cases hnext with
  | voided hissued hstatus =>
    have hseen := hcreated.mp hissued
    have hinvoiced : invoicedOn log s' key = invoicedOn log s key := by
      rw [invoicedOn, hinv]
      rfl
    have hpaid : paidOn log s' key = paidOn log s key := by
      rw [hadv.paidOn_next hev]
      simp [Invoice.payments]
    have howed : owedOn log s' key = 0 := by
      rw [owedOn, hinv]
      simp [Invoice.apply]
    have hopen : openOn log s' key = 0 := by
      rw [openOn, hinv]
      simp [Invoice.apply]
    rcases hadv.sums hmem hbooked with ⟨hI, hP, hO, hN⟩
    rw [if_neg hseen] at hI hP hO hN
    cases hcase : (invoiceOf log s key).status with
    | «open» =>
      have howedOn : owedOn log s key
          = (invoiceOf log s key).totalAmount.toNat - (invoiceOf log s key).totalPaid.toNat := by
        rw [owedOn, if_pos hcase]
      have hopenOn : openOn log s key = 1 := by
        rw [openOn, if_pos hcase]
      rw [if_neg (by simp)]
      omega
    | paid =>
      -- nothing was owed any more
      have howedOn : owedOn log s key = 0 := by
        rw [owedOn, hcase]
        rfl
      have hopenOn : openOn log s key = 0 := by
        rw [openOn, hcase]
        rfl
      have hsettled := hconsistent.settled hcase
      rw [if_pos rfl, hsettled]
      omega
    | void => exact absurd hcase hstatus

theorem booking_voided {e : InvoiceVoided}
    (hev : (eventsIn InvoiceEvent log key)[s.seen key]? = some (.invoiceVoided e))
    (hdata : s'.st.data = projection.update now s.st.data key (.invoiceVoided e))
    (hseen : s.seen key ≠ 0) (hp : customerOf log s key = some p) (hmem : key ∈ keysIn log)
    (h : Tracks log s key.tenantId) (hadv : Advances s s' key)
    : ∃ row, Booking log s s' key p row
        ∧ (row.openInvoiceCount.toNat = sumOver log s' key.tenantId p (openOn log s')
            ↔
          ((invoiceOf log s key).status = .paid →
            sumOver log s key.tenantId p (openOn log s) = 0)) := by
  have hinv := hadv.invoiceOf_next hev
  have hcustomer : customerOf log s' key = some p := by
    rw [hadv.customerOf_eq (Or.inr hseen)]
    exact hp
  rcases booked_row h hseen hp with ⟨hmapping, hrow⟩
  rw [update_voided hmapping hrow] at hdata
  rcases sums_voided hlog hev hadv hmem (hadv.booked hcustomer) with
    ⟨hinvoiced, hpaid, howed, hopen⟩
  have hamounts := h.amounts p
  have hcount := h.count p
  unfold CountHolds at hcount
  refine ⟨_, ⟨hcustomer, congrArg Prod.fst hdata, ?_, h.rowOf_identity p, ?_⟩, ?_⟩
  . rw [hinv]
    exact congrArg Prod.snd hdata
  . have hI := hamounts.totalInvoiced
    have hP := hamounts.totalPaid
    have hO := hamounts.outstandingBalance
    refine ⟨?_, ?_, ?_⟩
    . simp only [voidedRow]
      omega
    . simp only [voidedRow]
      omega
    . simp only [voidedRow, mappingOf, toNat_saturatingSub]
      omega
  . simp only [voidedRow, toNat_decrement]
    split at hopen
    . next hstatus =>
      simp only [hstatus, true_implies]
      omega
    . next hstatus =>
      simp only [hstatus, false_implies, iff_true]
      omega

section Tracking

omit hlog

variable {row : CustomerBalance} (hadv : Advances s s' key) (hbooking : Booking log s s' key p row)

include hbooking

theorem Booking.get_eq (q : PartyId)
    : s'.st.store.get key.tenantId q = if q
        = p then some row else s.st.store.get key.tenantId q := by
  rw [hbooking.store, InMemoryTenantStore.get_upsert]
  simp only [true_and]

theorem Booking.rowOf_eq (q : PartyId)
    : rowOf s' key.tenantId q = if q = p then row else rowOf s key.tenantId q := by
  unfold rowOf
  rw [hbooking.get_eq]
  split
  . rfl
  . rfl

theorem Booking.not_booked {q : PartyId} (hq : q ≠ p) : ¬ Booked log s' key.tenantId q key := by
  intro hb
  apply hq
  have := hb.2.2
  rw [hbooking.customer] at this
  simpa using this.symm

include hadv

theorem Tracks.booking (h : Tracks log s key.tenantId)
    (hcount : row.openInvoiceCount.toNat = sumOver log s' key.tenantId p (openOn log s'))
    (hcursor : ∀ k, s'.st.getCursor k = if k = key then s.seen key + 1 else s.st.getCursor k)
    (hbound : ∀ k : StreamKey, k.tenantId = key.tenantId →
      s'.seen k ≤ (eventsIn InvoiceEvent log k).length)
    : Tracks log s' key.tenantId := by
  refine ⟨?_, hbound, ?_, ?_, ?_, ?_, ?_⟩
  . intro k hk
    rw [hcursor k, hadv.seen k]
    split
    . next heq => rw [heq]
    . exact h.cursor k hk
  . intro k hk
    rw [hbooking.side, KeyMap.get_insert]
    split
    . next heq =>
      rw [heq, hbooking.customer]
      rfl
    . next hne =>
      rw [h.mapping k hk, hadv.customerOf_eq (Or.inl hne), hadv.invoiceOf_ne hne]
  . intro k q hb
    rw [hbooking.get_eq]
    split
    . rfl
    . next hq =>
      have hne : k ≠ key := by
        intro heq
        subst heq
        exact hbooking.not_booked hq hb
      exact h.row k q ((hadv.booked_ne hne).mpr hb)
  . intro q row' hrow'
    rw [hbooking.get_eq] at hrow'
    split at hrow'
    . next hq =>
      rw [Option.some.injEq] at hrow'
      rw [← hrow', hq]
      exact ⟨hbooking.identity.1, hbooking.identity.2, key, hadv.booked hbooking.customer⟩
    . rcases h.origin q row' hrow' with ⟨hid, hname, k, hb⟩
      exact ⟨hid, hname, k, hadv.booked_mono hb⟩
  . intro q
    rw [hbooking.rowOf_eq]
    split
    . next hq =>
      rw [hq]
      exact hbooking.amounts
    . next hq =>
      rcases hadv.sums_other (hbooking.not_booked hq) with ⟨hinvoiced, hpaid, howed, _⟩
      have := h.amounts q
      exact ⟨this.totalInvoiced.trans hinvoiced.symm, this.totalPaid.trans hpaid.symm,
        this.outstandingBalance.trans howed.symm⟩
  . intro q
    unfold CountHolds
    rw [hbooking.rowOf_eq]
    split
    . next hq =>
      rw [hq]
      exact hcount
    . next hq =>
      rcases hadv.sums_other (hbooking.not_booked hq) with ⟨_, _, _, hopen⟩
      exact (h.count q).trans hopen.symm

end Tracking

section Soundness

omit hlog

variable {e : StoredEvent} (hseq : e.sequenceNumber = s.seen e.key + 1)

include hseq

theorem sound_issued {ev : InvoiceIssued}
    (hev : (eventsIn InvoiceEvent log e.key)[s.seen e.key]? = some (.invoiceIssued ev))
    : Sound log s (.deliver now e)
        ↔
      sumOver log s e.tenantId ((s.registered e.key).getD ⟨ev.salesOrderId.aggregateId⟩)
        (openOn log s) + 1 < 2 ^ 32 := by
  unfold Sound
  simp only [hseq, hev, true_implies]

theorem sound_payment {ev : PaymentRegistered}
    (hev : (eventsIn InvoiceEvent log e.key)[s.seen e.key]? = some (.paymentRegistered ev))
    : Sound log s (.deliver now e) := by
  unfold Sound
  simp only [hseq, hev, true_implies]

theorem sound_voided {ev : InvoiceVoided}
    (hev : (eventsIn InvoiceEvent log e.key)[s.seen e.key]? = some (.invoiceVoided ev))
    (hp : customerOf log s e.key = some p)
    : Sound log s (.deliver now e)
        ↔
      ((invoiceOf log s e.key).status = .paid → sumOver log s e.tenantId p (openOn log s) = 0) := by
  unfold Sound
  simp only [hseq, hev, hp, Option.some.injEq, forall_eq', true_implies]

end Soundness

variable (htype : ∀ e ∈ log, e.aggregateType = "invoicing.invoice")

include htype

theorem deliver_outcome {e : StoredEvent} (he : e ∈ log)
    (hle : e.sequenceNumber ≤ s.seen e.key + 1) (h : Tracks log s e.tenantId)
    (hfits : Fits log (s.deliver now e) e.tenantId)
    : (s.deliver now e = s ∧ Sound log s (.deliver now e))
      ∨ ∃ p row, Advances s (s.deliver now e) e.key
          ∧ Booking log s (s.deliver now e) e.key p row
          ∧ (row.openInvoiceCount.toNat
              = sumOver log (s.deliver now e) e.tenantId p (openOn log (s.deliver now e))
            ↔ Sound log s (.deliver now e))
          ∧ (∀ k, (s.deliver now e).st.getCursor k
              = if k = e.key then s.seen e.key + 1 else s.st.getCursor k)
          ∧ ∀ k : StreamKey, k.tenantId = e.tenantId →
              (s.deliver now e).seen k ≤ (eventsIn InvoiceEvent log k).length := by
  rcases deliver_eq hlog htype he (h.cursor e.key rfl) hle with ⟨hknown, heq⟩ | hnext
  . left
    refine ⟨heq, ?_⟩
    intro hseq
    omega
  . right
    rcases hnext with ⟨ev, hev, hseq, hst, hseen⟩
    have hadv : Advances s (s.deliver now e) e.key := ⟨hseen, rfl⟩
    have hmem := mem_keysIn he
    have hdata : (s.deliver now e).st.data = projection.update now s.st.data e.key ev := by
      rw [hst]
      rfl
    have hcursor : ∀ k, (s.deliver now e).st.getCursor k
        = if k = e.key then s.seen e.key + 1 else s.st.getCursor k := by
      intro k
      rw [hst, GuardedProjection.getCursor_write, ← hseq]
      rfl
    have hbound := hadv.bound hev h.bound
    cases ev with
    | invoiceIssued e' =>
      rcases booking_issued hlog hev hdata rfl hmem h hadv hfits with ⟨hbooking, hcount⟩
      exact ⟨_, _, hadv, hbooking, hcount.trans (sound_issued hseq hev).symm, hcursor, hbound⟩
    | paymentRegistered e' =>
      have hissued := seen_of_later hlog hev (by simp)
      rcases exists_customerOf hlog hissued (h.bound e.key rfl) with ⟨p, hp⟩
      rcases booking_payment hlog hev hdata hissued hp hmem h hadv hfits
          with ⟨row, hbooking, hcount⟩
      exact ⟨p, row, hadv, hbooking, iff_of_true hcount (sound_payment hseq hev), hcursor, hbound⟩
    | invoiceVoided e' =>
      have hissued := seen_of_later hlog hev (by simp)
      rcases exists_customerOf hlog hissued (h.bound e.key rfl) with ⟨p, hp⟩
      rcases booking_voided hlog hev hdata hissued hp hmem h hadv with ⟨row, hbooking, hcount⟩
      exact ⟨p, row, hadv, hbooking, hcount.trans (sound_voided hseq hev hp).symm, hcursor, hbound⟩

theorem tracks_deliver {e : StoredEvent} (he : e ∈ log)
    (hle : e.sequenceNumber ≤ s.seen e.key + 1) (h : Tracks log s e.tenantId)
    (hfits : Fits log (s.deliver now e) e.tenantId) (hsound : Sound log s (.deliver now e))
    : Tracks log (s.deliver now e) e.tenantId := by
  rcases deliver_outcome hlog htype he hle h hfits with
    hknown | ⟨p, row, hadv, hbooking, hcount, hcursor, hbound⟩
  . rw [hknown.1]
    exact h
  . exact Tracks.booking hadv hbooking h (hcount.mpr hsound) hcursor hbound

end Booking

end CustomerBalancesProjection

end ForgeErp
