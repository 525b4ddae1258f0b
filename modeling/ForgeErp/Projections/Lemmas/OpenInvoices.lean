import ForgeErp.Projections.Lemmas.CustomerBalances

/-!
This module contains the verification of the open invoices. A row mirrors its invoice for good: it
is listed and counted after the invoice has been paid or voided, so that what is listed are the open
invoices of a tenant as long as all its invoices are open.
-/

namespace ForgeErp

namespace OpenInvoicesProjection

variable [TextFormat Uuid] [TextFormat DateTime] (log : List StoredEvent)

def InvoiceLog : Prop :=
  ProducedLog (E := InvoiceEvent) (fun key evs =>
    Invoice.aggregate.Produced (fun command : InvoiceCommand =>
        command.tenantId = key.tenantId ∧ command.invoiceId = ⟨key.aggregateId⟩)
      (Invoice.empty ⟨key.aggregateId⟩) evs) log

def invoiceOf (key : StreamKey) : Invoice :=
  (eventsIn InvoiceEvent log key).foldl Invoice.apply (Invoice.empty ⟨key.aggregateId⟩)

omit [TextFormat Uuid] [TextFormat DateTime] in
def invoicesOf (t : TenantId) : List StreamKey :=
  (log.map (·.key)).dedup.filter (fun key => key.tenantId = t)

def openOf (t : TenantId) : List StreamKey :=
  (invoicesOf log t).filter (fun key => (invoiceOf log key).status = .open)

def outstanding (key : StreamKey) : Nat :=
  (invoiceOf log key).totalAmount.toNat - (invoiceOf log key).totalPaid.toNat

def overdue (now : DateTime) (key : StreamKey) : Bool :=
  (invoiceOf log key).dueDate.any (fun dueDate => dueDate.nanos < now.nanos)

def ListsOpen (t : TenantId) (rows : List OpenInvoice) : Prop :=
  (rows.map (fun row => (row.invoiceId, row.outstandingAmount.toNat))).Perm
    ((openOf log t).map (fun key => (⟨key.aggregateId⟩, outstanding log key)))

structure Summarizes (t : TenantId) (now : DateTime) (summary : OpenInvoicesSummary) : Prop where
  count : summary.count = (openOf log t).length
  totalOutstanding :
    summary.totalOutstanding.toNat = ((openOf log t).map (outstanding log)).sum
  overdueCount : summary.overdueCount = ((openOf log t).filter (overdue log now)).length
  overdueAmount : summary.overdueAmount.toNat
    = (((openOf log t).filter (overdue log now)).map (outstanding log)).sum

/--
In whatever order the store is visited and whenever the summary is asked for.
-/
def ShowsOpen (t : TenantId) (st : State) : Prop :=
  ∀ order, st.store.inner.Enumerates order →
    ListsOpen log t (list st order t) ∧ ∀ now, Summarizes log t now (getSummary st now order t)

section Rows

structure Mirrors (row : OpenInvoice) (inv : Invoice) : Prop where
  invoiceId : row.invoiceId = inv.id
  dueDate : inv.dueDate = some row.dueDate
  totalAmount : row.totalAmount = inv.totalAmount
  amountPaid : row.amountPaid = inv.totalPaid
  outstandingAmount : row.outstandingAmount
    = if inv.status = .void then 0 else saturatingSub inv.totalAmount inv.totalPaid

omit [TextFormat Uuid] [TextFormat DateTime]

theorem mirrors_opened (now : DateTime) (e : InvoiceIssued) (inv : Invoice)
    : Mirrors (opened now e) (inv.apply (.invoiceIssued e)) := by
  refine ⟨rfl, rfl, rfl, rfl, ?_⟩
  have hzero : saturatingSub e.totalAmount 0 = e.totalAmount := by
    rw [← UInt64.toNat_inj, CustomerBalancesProjection.toNat_saturatingSub]
    rfl
  exact hzero.symm

theorem Mirrors.paid {row : OpenInvoice} {inv : Invoice} (h : Mirrors row inv)
    (hopen : inv.status = .open) (now : DateTime) (e : PaymentRegistered)
    : Mirrors (OpenInvoicesProjection.paid now row e) (inv.apply (.paymentRegistered e)) := by
  have hid : (OpenInvoicesProjection.paid now row e).invoiceId = row.invoiceId
      ∧ (OpenInvoicesProjection.paid now row e).dueDate = row.dueDate
      ∧ (OpenInvoicesProjection.paid now row e).totalAmount = row.totalAmount
      ∧ (OpenInvoicesProjection.paid now row e).amountPaid = e.newTotalPaid
      ∧ (OpenInvoicesProjection.paid now row e).outstandingAmount
          = saturatingSub row.totalAmount e.newTotalPaid := by
    unfold OpenInvoicesProjection.paid OpenInvoice.refreshCalculatedFields
    dsimp only
    split
    . exact ⟨rfl, rfl, rfl, rfl, rfl⟩
    . exact ⟨rfl, rfl, rfl, rfl, rfl⟩
  rcases hid with ⟨hinvoiceId, hdueDate, htotal, hpaid, houtstanding⟩
  rw [Invoice.apply_paymentRegistered]
  refine ⟨hinvoiceId.trans h.invoiceId, ?_, htotal.trans h.totalAmount, hpaid, ?_⟩
  . rw [hdueDate]
    exact h.dueDate
  . rw [houtstanding, h.totalAmount]
    dsimp only
    rw [if_neg]
    rw [hopen]
    split
    . simp
    . simp

theorem Mirrors.voided {row : OpenInvoice} {inv : Invoice} (h : Mirrors row inv) (e : InvoiceVoided)
    : Mirrors { row with outstandingAmount := 0 } (inv.apply (.invoiceVoided e)) :=
  ⟨h.invoiceId, h.dueDate, h.totalAmount, h.amountPaid, rfl⟩

variable {now : DateTime} {data : InMemoryTenantStore InvoiceId OpenInvoice × Unit}
  {key : StreamKey}
  {ev : InvoiceEvent}

theorem update_frame (hid : ev.invoiceId = ⟨key.aggregateId⟩) {k : StreamKey} (hk : k ≠ key)
    : (projection.update now data key ev).1.get k.tenantId ⟨k.aggregateId⟩
        =
      data.1.get k.tenantId ⟨k.aggregateId⟩ := by
  have hne : ¬ (k.tenantId = key.tenantId ∧ (⟨k.aggregateId⟩ : InvoiceId) = ev.invoiceId) := by
    rintro ⟨htenant, haggregate⟩
    rw [hid, InvoiceId.mk.injEq] at haggregate
    apply hk
    rcases k with ⟨t, a⟩
    rcases key with ⟨t', a'⟩
    rw [StreamKey.mk.injEq]
    exact ⟨htenant, haggregate⟩
  have hupsert : ∀ row, (data.1.upsert key.tenantId ev.invoiceId row).get k.tenantId ⟨k.aggregateId⟩
      = data.1.get k.tenantId ⟨k.aggregateId⟩ := by
    intro row
    rw [InMemoryTenantStore.get_upsert, if_neg hne]
  cases ev with
  | invoiceIssued e => exact hupsert _
  | paymentRegistered e =>
    dsimp only [projection]
    split
    . exact hupsert _
    . rfl
  | invoiceVoided e =>
    dsimp only [projection]
    split
    . exact hupsert _
    . rfl

theorem update_mirrors {inv : Invoice} (hid : ev.invoiceId = ⟨key.aggregateId⟩)
    (hnext : Invoice.Next inv ev)
    (hrow : inv.created = true →
      ∃ row, data.1.get key.tenantId ⟨key.aggregateId⟩ = some row ∧ Mirrors row inv)
    : ∃ row, (projection.update now data key ev).1.get key.tenantId ⟨key.aggregateId⟩ = some row
        ∧ Mirrors row (inv.apply ev) := by
  have hupsert : ∀ row, (data.1.upsert key.tenantId ev.invoiceId row).get key.tenantId
      ⟨key.aggregateId⟩ = some row := by
    intro row
    rw [InMemoryTenantStore.get_upsert, if_pos ⟨rfl, hid.symm⟩]
  cases hnext with
  | @issued e _ => exact ⟨opened now e, hupsert _, mirrors_opened now e inv⟩
  | @payment e hcreated hopen _ _ _ =>
    rcases hrow hcreated with ⟨row, hget, hmirrors⟩
    have hget' : data.1.get key.tenantId e.invoiceId = some row := by
      rw [show e.invoiceId = ⟨key.aggregateId⟩ from hid]
      exact hget
    refine ⟨OpenInvoicesProjection.paid now row e, ?_, hmirrors.paid hopen now e⟩
    dsimp only [projection]
    rw [hget']
    exact hupsert _
  | @voided e hcreated _ =>
    rcases hrow hcreated with ⟨row, hget, hmirrors⟩
    have hget' : data.1.get key.tenantId e.invoiceId = some row := by
      rw [show e.invoiceId = ⟨key.aggregateId⟩ from hid]
      exact hget
    refine ⟨{ row with outstandingAmount := 0 }, ?_, hmirrors.voided e⟩
    dsimp only [projection]
    rw [hget']
    exact hupsert _

end Rows

section Runs

variable {log} (hlog : InvoiceLog log) (htype : ∀ e ∈ log, e.aggregateType = "invoicing.invoice")

include hlog in
theorem lifecycle_eventsIn (key : StreamKey)
    : Invoice.Lifecycle ⟨key.aggregateId⟩ (eventsIn InvoiceEvent log key) := by
  apply Invoice.lifecycle_of_produced (ProducedLog.events hlog key).1

include hlog in
theorem invoiceId_eventsIn (key : StreamKey)
    : ∀ ev ∈ eventsIn InvoiceEvent log key, ev.invoiceId = ⟨key.aggregateId⟩ := by
  intro ev hev
  exact (Invoice.ids_of_produced (ProducedLog.events hlog key).1 ev hev).2

include hlog htype in
theorem carries_event {e : StoredEvent} (he : e ∈ log)
    : ∃ ev, 1 ≤ e.sequenceNumber
        ∧ (eventsIn InvoiceEvent log e.key)[e.sequenceNumber - 1]? = some ev
        ∧ projection.Carries e.toEnvelope ev := by
  rcases ProducedLog.event hlog he with ⟨ev, hpos, hev, hdec⟩
  have hids := Invoice.ids_of_produced (ProducedLog.events hlog e.key).1 ev
    (List.mem_of_getElem? hev)
  refine ⟨ev, hpos, hev, htype e he, hdec, hids.1, ?_⟩
  apply if_neg
  rw [hids.2]
  simp
  rfl

omit [TextFormat Uuid] [TextFormat DateTime] in
theorem id_foldl {id : InvoiceId} {inv : Invoice} {evs : List InvoiceEvent} (hinv : inv.id = id)
    (hevs : ∀ ev ∈ evs, ev.invoiceId = id) : (evs.foldl Invoice.apply inv).id = id := by
  induction evs generalizing inv with
  | nil => exact hinv
  | cons ev evs ih =>
    apply ih
    . cases ev with
      | invoiceIssued e => exact hevs _ List.mem_cons_self
      | paymentRegistered e =>
        rw [Invoice.apply_paymentRegistered]
        exact hinv
      | invoiceVoided e => exact hinv
    . intro ev' hev'
      exact hevs ev' (by simp [hev'])

include hlog in
theorem ne_nil_of_mem_invoicesOf {t : TenantId} {key : StreamKey} (hkey : key ∈ invoicesOf log t)
    : eventsIn InvoiceEvent log key ≠ [] := by
  rw [invoicesOf, List.mem_filter, List.mem_dedup, List.mem_map] at hkey
  rcases hkey.1 with ⟨e, he, hkey⟩
  rcases ProducedLog.event hlog he with ⟨ev, _, hev, _⟩
  rw [hkey] at hev
  intro hnil
  rw [hnil] at hev
  cases hev

variable (log) in
def MirrorsUpTo (key : StreamKey) (n : Nat)
    (data : InMemoryTenantStore InvoiceId OpenInvoice × Unit)
    : Prop :=
  (n = 0 → data.1.get key.tenantId ⟨key.aggregateId⟩ = none)
  ∧ (n ≠ 0 → ∃ row, data.1.get key.tenantId ⟨key.aggregateId⟩ = some row
      ∧ Mirrors row (Invoice.after ⟨key.aggregateId⟩ (eventsIn InvoiceEvent log key) n))

variable {st : State} {ds : List (DateTime × EventEnvelope JsonValue)}
  (hds : GuardedProjection.Interleaves log (ds.map (·.2)))

include hlog htype hds in
theorem event_of_delivery {d : DateTime × EventEnvelope JsonValue} (hd : d ∈ ds)
    : ∃ ev n, d.2.sequenceNumber = n + 1 ∧ projection.Carries d.2 ev
        ∧ (eventsIn InvoiceEvent log d.2.key)[n]? = some ev
        ∧ ev.invoiceId = ⟨d.2.key.aggregateId⟩ := by
  rcases hds.mem hd with ⟨e, he, heq⟩
  rcases carries_event hlog htype he with ⟨ev, hpos, hev, hcarries⟩
  rw [heq]
  refine ⟨ev, e.sequenceNumber - 1, ?_, hcarries, hev, ?_⟩
  . exact (Nat.sub_add_cancel hpos).symm
  . apply invoiceId_eventsIn hlog e.key ev (List.mem_of_getElem? hev)

variable (hstore : st.store = .new) (hcursor : ∀ key, st.getCursor key = 0)

include hlog htype hstore hcursor hds

theorem deliver_mirrors (key : StreamKey)
    : (eventsIn InvoiceEvent log key = [] →
        (projection.deliver st ds).store.get key.tenantId ⟨key.aggregateId⟩ = none)
      ∧ (eventsIn InvoiceEvent log key ≠ [] →
        ∃ row, (projection.deliver st ds).store.get key.tenantId ⟨key.aggregateId⟩ = some row
          ∧ Mirrors row (invoiceOf log key)) := by
  have hlength : st.getCursor key + ((ds.map (·.2)).filter (fun env => env.key = key)).length
      = (eventsIn InvoiceEvent log key).length := by
    rw [hcursor, hds key, List.length_map, (ProducedLog.events hlog key).2]
    omega
  have hinvariant : MirrorsUpTo log key
      (st.getCursor key + ((ds.map (·.2)).filter (fun env => env.key = key)).length)
      (projection.deliver st ds).data := by
    apply projection.deliver_invariant (Q := MirrorsUpTo log)
    . intro k
      refine ⟨fun _ => ?_, fun hne => absurd (hcursor k) hne⟩
      unfold ProjectionWith.data
      rw [hstore]
      rfl
    . intro d hd
      rcases event_of_delivery hlog htype hds hd with ⟨ev, _, _, hcarries, _⟩
      exact ⟨ev, hcarries⟩
    . intro k
      rw [hcursor]
      exact hds.numbered hlog.wellFormed k
    . intro d hd ev n data hev hseq hq
      rcases event_of_delivery hlog htype hds hd with ⟨ev', n', hseq', hcarries, hat, hid⟩
      have hn : n' = n := by omega
      rw [hcarries.unique hev, hn] at hat
      rw [hcarries.unique hev] at hid
      refine ⟨fun h => absurd h (Nat.succ_ne_zero n), fun _ => ?_⟩
      have hlife := lifecycle_eventsIn hlog d.2.key
      have hlength := (List.getElem?_eq_some_iff.mp hat).1
      rw [Invoice.after_succ hat]
      apply update_mirrors hid (hlife n ev hat)
      intro hcreated
      exact hq.2 ((hlife.created_iff (Nat.le_of_lt hlength)).mp hcreated)
    . intro d hd ev k n data hev hk hq
      rcases event_of_delivery hlog htype hds hd with ⟨ev', _, _, hcarries, _, hid⟩
      rw [hcarries.unique hev] at hid
      unfold MirrorsUpTo
      rw [update_frame hid hk]
      exact hq
  rw [hlength, MirrorsUpTo, Invoice.after, List.take_length] at hinvariant
  constructor
  . intro hnil
    exact hinvariant.1 (by rw [hnil]; rfl)
  . intro hne
    apply hinvariant.2
    rw [ne_eq, List.length_eq_zero_iff]
    exact hne

end Runs

section Queries

variable {log} {t : TenantId}

omit [TextFormat Uuid] [TextFormat DateTime] in
theorem toNat_foldl (amounts : List UInt64) (a : UInt64)
    : (amounts.foldl (· + ·) a).toNat = (a.toNat + (amounts.map UInt64.toNat).sum) % 2 ^ 64 := by
  induction amounts generalizing a with
  | nil =>
    have := a.toNat_lt
    rw [List.map_nil, List.sum_nil, Nat.add_zero, Nat.mod_eq_of_lt this]
    rfl
  | cons b amounts ih =>
    rw [List.foldl_cons, ih, List.map_cons, List.sum_cons, UInt64.toNat_add]
    omega

omit [TextFormat Uuid] [TextFormat DateTime] in
theorem toNat_sum {amounts : List UInt64} (h : (amounts.map UInt64.toNat).sum < 2 ^ 64)
    : (sum amounts).toNat = (amounts.map UInt64.toNat).sum := by
  unfold sum
  have hzero : (0 : UInt64).toNat = 0 := rfl
  rw [toNat_foldl, hzero, Nat.zero_add, Nat.mod_eq_of_lt h]

omit [TextFormat Uuid] [TextFormat DateTime] in
theorem nodup_invoicesOf : (invoicesOf log t).Nodup :=
  (List.nodup_dedup _).filter _

variable (log) in
structure Rows (st : State) (t : TenantId) (rowOf : StreamKey → OpenInvoice) : Prop where
  get : ∀ key ∈ invoicesOf log t, st.store.get key.tenantId ⟨key.aggregateId⟩ = some (rowOf key)
  mirrors : ∀ key ∈ invoicesOf log t, Mirrors (rowOf key) (invoiceOf log key)
  only : ∀ invoiceId, (st.store.get t invoiceId).isSome →
    ⟨t, invoiceId.aggregateId⟩ ∈ invoicesOf log t

variable {st : State} {rowOf : StreamKey → OpenInvoice} {order : List (TenantId × InvoiceId)}

theorem Rows.visited_perm (h : Rows log st t rowOf) (horder : st.store.inner.Enumerates order)
    : (order.filter (fun p => p.1 = t)).Perm
        ((invoicesOf log t).map (fun key => (key.tenantId, ⟨key.aggregateId⟩))) := by
  rw [List.perm_ext_iff_of_nodup]
  . rintro ⟨t', invoiceId⟩
    rw [List.mem_filter, horder.mem_iff, List.mem_map]
    simp only [decide_eq_true_eq]
    constructor
    . rintro ⟨hsome, rfl⟩
      exact ⟨_, h.only invoiceId hsome, rfl⟩
    . rintro ⟨key, hkey, heq⟩
      rw [Prod.mk.injEq] at heq
      rcases heq with ⟨rfl, rfl⟩
      have hget : st.store.inner.get (key.tenantId, ⟨key.aggregateId⟩) = some (rowOf key) :=
        h.get key hkey
      rw [hget]
      rw [invoicesOf, List.mem_filter] at hkey
      exact ⟨rfl, by simpa using hkey.2⟩
  . exact horder.nodup.filter _
  . apply nodup_invoicesOf.map
    rintro ⟨t₁, a₁⟩ ⟨t₂, a₂⟩ heq
    simp only [Prod.mk.injEq, InvoiceId.mk.injEq] at heq
    rw [heq.1, heq.2]

theorem Rows.list_perm (h : Rows log st t rowOf) (horder : st.store.inner.Enumerates order)
    : (list st order t).Perm ((invoicesOf log t).map rowOf) := by
  have hlist : list st order t
      = (order.filter (fun p => p.1 = t)).filterMap (fun p => st.store.inner.get p) := by
    unfold list InMemoryTenantStore.list
    rw [List.filterMap_filter]
    apply List.filterMap_congr
    intro p _
    simp only [decide_eq_true_eq]
  have hrows : ((invoicesOf log t).map (fun key => (key.tenantId, ⟨key.aggregateId⟩))).filterMap
      (fun p => st.store.inner.get p) = (invoicesOf log t).map rowOf := by
    rw [List.filterMap_map, ← List.filterMap_eq_map]
    apply List.filterMap_congr
    intro key hkey
    exact h.get key hkey
  rw [hlist, ← hrows]
  apply (h.visited_perm horder).filterMap

section Open

variable (hopen : ∀ key ∈ invoicesOf log t, (invoiceOf log key).status = .open)

include hopen

theorem openOf_eq : openOf log t = invoicesOf log t := by
  unfold openOf
  rw [List.filter_eq_self]
  intro key hkey
  simpa using hopen key hkey

theorem Rows.outstandingAmount (h : Rows log st t rowOf) {key : StreamKey}
    (hkey : key ∈ invoicesOf log t)
    : (rowOf key).outstandingAmount.toNat = outstanding log key := by
  rw [(h.mirrors key hkey).outstandingAmount, if_neg,
    CustomerBalancesProjection.toNat_saturatingSub]
  . rfl
  . rw [hopen key hkey]
    simp

omit hopen in
theorem Rows.overdue_eq (h : Rows log st t rowOf) (now : DateTime) {key : StreamKey}
    (hkey : key ∈ invoicesOf log t)
    : decide ((rowOf key).dueDate.nanos < now.nanos) = overdue log now key := by
  unfold overdue
  rw [(h.mirrors key hkey).dueDate]
  rfl

theorem Rows.listsOpen (h : Rows log st t rowOf) (horder : st.store.inner.Enumerates order)
    (hids : ∀ key, (invoiceOf log key).id = ⟨key.aggregateId⟩)
    : ListsOpen log t (list st order t) := by
  unfold ListsOpen
  rw [openOf_eq hopen]
  apply ((h.list_perm horder).map _).trans
  rw [List.map_map]
  apply List.Perm.of_eq
  apply List.map_congr_left
  intro key hkey
  rw [Function.comp_apply, h.outstandingAmount hopen hkey, (h.mirrors key hkey).invoiceId, hids]

theorem Rows.summarizes (h : Rows log st t rowOf) (horder : st.store.inner.Enumerates order)
    (now : DateTime) (hsum : ((openOf log t).map (outstanding log)).sum < 2 ^ 64)
    : Summarizes log t now (getSummary st now order t) := by
  have hperm := h.list_perm horder
  rw [openOf_eq hopen] at hsum
  have hamounts : ∀ keys : List StreamKey, (∀ key ∈ keys, key ∈ invoicesOf log t) →
      ((keys.map rowOf).map (fun row => row.outstandingAmount.toNat))
        = keys.map (outstanding log) := by
    intro keys hkeys
    rw [List.map_map]
    apply List.map_congr_left
    intro key hkey
    exact h.outstandingAmount hopen (hkeys key hkey)
  have htotal : ((list st order t).map (fun row => row.outstandingAmount.toNat)).sum
      = ((invoicesOf log t).map (outstanding log)).sum := by
    rw [(hperm.map _).sum_eq, hamounts _ (fun _ hkey => hkey)]
  have hoverdue : ((list st order t).filter (fun row => row.dueDate.nanos < now.nanos)).Perm
      (((invoicesOf log t).filter (overdue log now)).map rowOf) := by
    apply (hperm.filter _).trans
    rw [List.filter_map]
    apply List.Perm.of_eq
    congr 1
    apply List.filter_congr
    intro key hkey
    exact h.overdue_eq now hkey
  have hlate : (((list st order t).filter (fun row => row.dueDate.nanos < now.nanos)).map
      (fun row => row.outstandingAmount.toNat)).sum
      = (((invoicesOf log t).filter (overdue log now)).map (outstanding log)).sum := by
    rw [(hoverdue.map _).sum_eq, hamounts _ (fun _ hkey => (List.mem_filter.mp hkey).1)]
  have hle : (((invoicesOf log t).filter (overdue log now)).map (outstanding log)).sum
      ≤ ((invoicesOf log t).map (outstanding log)).sum := by
    apply List.Sublist.sum_le_sum
    . exact List.filter_sublist.map _
    . simp
  constructor
  . rw [openOf_eq hopen]
    exact (hperm.length_eq).trans (List.length_map _)
  . rw [openOf_eq hopen, ← htotal]
    apply (toNat_sum _).trans
    . rw [List.map_map]
      rfl
    . rw [List.map_map]
      exact htotal ▸ hsum
  . rw [openOf_eq hopen]
    exact (hoverdue.length_eq).trans (List.length_map _)
  . rw [openOf_eq hopen, ← hlate]
    apply (toNat_sum _).trans
    . rw [List.map_map]
      rfl
    . rw [List.map_map]
      exact Nat.lt_of_le_of_lt (hlate ▸ hle) hsum

end Open

end Queries

section Main

variable {log} (hlog : InvoiceLog log) (htype : ∀ e ∈ log, e.aggregateType = "invoicing.invoice")
  {st : State} {ds : List (DateTime × EventEnvelope JsonValue)}
  (hstore : st.store = .new) (hcursor : ∀ key, st.getCursor key = 0)
  (hds : GuardedProjection.Interleaves log (ds.map (·.2)))

include hlog htype hstore hcursor hds

theorem exists_rows (t : TenantId) : ∃ rowOf, Rows log (projection.deliver st ds) t rowOf := by
  have hrow : ∀ key ∈ invoicesOf log t, ∃ row,
      (projection.deliver st ds).store.get key.tenantId ⟨key.aggregateId⟩ = some row
        ∧ Mirrors row (invoiceOf log key) := by
    intro key hkey
    exact (deliver_mirrors hlog htype hds hstore hcursor key).2 (ne_nil_of_mem_invoicesOf hlog hkey)
  have hnonempty : Nonempty OpenInvoice :=
    ⟨⟨⟨⟨⟨0⟩⟩⟩, ⟨⟨⟨0⟩⟩⟩, ⟨0⟩, 0, 0, 0, [], 0, false⟩⟩
  choose! rowOf hrowOf using hrow
  refine ⟨rowOf, fun key hkey => (hrowOf key hkey).1, fun key hkey => (hrowOf key hkey).2, ?_⟩
  intro invoiceId hsome
  have hne : eventsIn InvoiceEvent log ⟨t, invoiceId.aggregateId⟩ ≠ [] := by
    intro hnil
    have hnone := (deliver_mirrors hlog htype hds hstore hcursor ⟨t, invoiceId.aggregateId⟩).1 hnil
    have : (projection.deliver st ds).store.get t invoiceId = none := hnone
    rw [this] at hsome
    cases hsome
  rw [ne_eq, ← List.length_eq_zero_iff, (ProducedLog.events hlog _).2] at hne
  rcases List.exists_mem_of_length_pos (Nat.pos_of_ne_zero hne) with ⟨e, he⟩
  rw [CursorProjection.mem_streamIn] at he
  rw [invoicesOf, List.mem_filter, List.mem_dedup, List.mem_map]
  exact ⟨⟨e, he.1, he.2⟩, by simp⟩

theorem shows_open_iff {t : TenantId} (hsum : ((openOf log t).map (outstanding log)).sum < 2 ^ 64)
    : ShowsOpen log t (projection.deliver st ds)
        ↔
      ∀ key ∈ invoicesOf log t, (invoiceOf log key).status = .open := by
  rcases exists_rows hlog htype hstore hcursor hds t with ⟨rowOf, hrows⟩
  constructor
  . intro h
    rcases (projection.deliver st ds).store.inner.exists_enumerates with ⟨order, horder⟩
    have hcount := ((h order horder).2 ⟨0⟩).count
    have hlength : (getSummary (projection.deliver st ds) ⟨0⟩ order t).count
        = (invoicesOf log t).length :=
      (hrows.list_perm horder).length_eq.trans (List.length_map _)
    rw [hlength, openOf, eq_comm, List.length_filter_eq_length_iff] at hcount
    intro key hkey
    simpa using hcount key hkey
  . intro hopen order horder
    have hids : ∀ key, (invoiceOf log key).id = ⟨key.aggregateId⟩ := by
      intro key
      exact id_foldl rfl (invoiceId_eventsIn hlog key)
    exact ⟨hrows.listsOpen hopen horder hids, fun now => hrows.summarizes hopen horder now hsum⟩

end Main

end OpenInvoicesProjection

namespace Bill

open Concrete OpenInvoicesProjection

theorem collected_issued (key : StreamKey) (hkey : key.tenantId = tenantId)
    : Invoice.aggregate.Produced (fun command : InvoiceCommand =>
          command.tenantId = key.tenantId ∧ command.invoiceId = ⟨key.aggregateId⟩)
        (Invoice.empty ⟨key.aggregateId⟩) ([] ++ [issued key]) :=
  .step (.issueInvoice ⟨tenantId, ⟨key.aggregateId⟩, salesOrderId, lines, ⟨0⟩, ⟨0⟩⟩
    : InvoiceCommand)
    .nil ⟨hkey.symm, rfl⟩ rfl

theorem collected_paid
    : Invoice.aggregate.Produced (fun command : InvoiceCommand =>
          command.tenantId = first.tenantId ∧ command.invoiceId = ⟨first.aggregateId⟩)
        (Invoice.empty ⟨first.aggregateId⟩) (([] ++ [issued first]) ++ [paid first]) :=
  .step (.registerPayment ⟨tenantId, ⟨first.aggregateId⟩, 100, ⟨0⟩⟩ : InvoiceCommand)
    (collected_issued first rfl) ⟨rfl, rfl⟩ rfl

def settled : List StoredEvent :=
  recordedLog "invoicing.invoice" [(first, [issued first, paid first])]

def part (key : StreamKey) : InvoiceEvent :=
  .paymentRegistered ⟨tenantId, ⟨key.aggregateId⟩, 40, 40, ⟨0⟩⟩

theorem collected_part
    : Invoice.aggregate.Produced (fun command : InvoiceCommand =>
          command.tenantId = first.tenantId ∧ command.invoiceId = ⟨first.aggregateId⟩)
        (Invoice.empty ⟨first.aggregateId⟩) (([] ++ [issued first]) ++ [part first]) :=
  .step (.registerPayment ⟨tenantId, ⟨first.aggregateId⟩, 40, ⟨0⟩⟩ : InvoiceCommand)
    (collected_issued first rfl) ⟨rfl, rfl⟩ rfl

def unsettledStreams : List (StreamKey × List InvoiceEvent) :=
  [(first, [issued first, part first]), (second, [issued second])]

def unsettled : List StoredEvent :=
  recordedLog "invoicing.invoice" unsettledStreams

def deliveries (log : List StoredEvent) : List (DateTime × EventEnvelope JsonValue) :=
  log.map (fun e => (⟨0⟩, e.toEnvelope))

theorem interleaves_deliveries (log : List StoredEvent)
    : GuardedProjection.Interleaves log ((deliveries log).map (·.2)) := by
  have : (deliveries log).map (·.2) = log.map StoredEvent.toEnvelope := by
    unfold deliveries
    rw [List.map_map]
    rfl
  rw [this]
  exact GuardedProjection.interleaves_map log

theorem settled_produced : OpenInvoicesProjection.InvoiceLog settled := by
  apply producedLog_recordedLog (by simp)
  . intro s hs
    rw [List.mem_singleton] at hs
    subst hs
    exact collected_paid
  . intro key
    exact .nil

theorem unsettledStreams_nodup : (unsettledStreams.map (·.1)).Nodup := by
  simp [unsettledStreams, first, second]

theorem unsettled_produced : OpenInvoicesProjection.InvoiceLog unsettled := by
  apply producedLog_recordedLog unsettledStreams_nodup
  . intro s hs
    simp only [unsettledStreams, List.mem_cons, List.not_mem_nil, or_false] at hs
    rcases hs with rfl | rfl
    . exact collected_part
    . exact collected_issued second rfl
  . intro key
    exact .nil

theorem status_settled : (OpenInvoicesProjection.invoiceOf settled first).status = .paid := by
  unfold OpenInvoicesProjection.invoiceOf
  rw [show eventsIn InvoiceEvent settled first = [issued first, paid first] from
    eventsIn_recordedLog (by simp) (by simp)]
  rfl

theorem first_unsettled
    : (OpenInvoicesProjection.invoiceOf unsettled first).status = .open
        ∧ outstanding unsettled first = 60 := by
  unfold outstanding OpenInvoicesProjection.invoiceOf
  rw [show eventsIn InvoiceEvent unsettled first = [issued first, part first] from
    eventsIn_recordedLog unsettledStreams_nodup (by simp [unsettledStreams])]
  exact ⟨rfl, rfl⟩

theorem second_unsettled
    : (OpenInvoicesProjection.invoiceOf unsettled second).status = .open
      ∧ outstanding unsettled second = 100 := by
  unfold outstanding OpenInvoicesProjection.invoiceOf
  rw [show eventsIn InvoiceEvent unsettled second = [issued second] from
    eventsIn_recordedLog unsettledStreams_nodup (by simp [unsettledStreams])]
  exact ⟨rfl, rfl⟩

theorem invoicesOf_settled : OpenInvoicesProjection.invoicesOf settled tenantId = [first] := by
  decide

theorem invoicesOf_unsettled
    : OpenInvoicesProjection.invoicesOf unsettled tenantId = [first, second] := by
  decide

-- The invoice is paid, and it is the only one in the list.
theorem paid_invoice_is_listed
    : OpenInvoicesProjection.InvoiceLog settled
      ∧ (∀ e ∈ settled, e.aggregateType = "invoicing.invoice")
      ∧ GuardedProjection.Interleaves settled ((deliveries settled).map (·.2))
      ∧ ((openOf settled tenantId).map (outstanding settled)).sum < 2 ^ 64
      ∧ ¬ ShowsOpen settled tenantId
          (OpenInvoicesProjection.projection.deliver OpenInvoicesProjection.new
            (deliveries settled)) := by
  have hopen : openOf settled tenantId = [] := by
    unfold openOf
    rw [invoicesOf_settled, List.filter_cons_of_neg (by simp [status_settled]), List.filter_nil]
  refine ⟨settled_produced, type_recordedLog, interleaves_deliveries settled, ?_, ?_⟩
  . rw [hopen]
    decide
  . intro h
    have hstore : OpenInvoicesProjection.new.store = .new := rfl
    rcases exists_rows settled_produced type_recordedLog hstore (fun _ => rfl)
      (interleaves_deliveries settled) tenantId with ⟨rowOf, hrows⟩
    rcases KeyMap.exists_enumerates (OpenInvoicesProjection.projection.deliver
      OpenInvoicesProjection.new (deliveries settled)).store.inner with ⟨order, horder⟩
    have hnone := (h order horder).1.length_eq
    have hone := (hrows.list_perm horder).length_eq
    rw [hopen, List.map_nil, List.length_nil, List.length_map] at hnone
    rw [invoicesOf_settled, List.length_map, List.length_singleton] at hone
    omega

theorem shows_open_unsettled
    : ShowsOpen unsettled tenantId
        (OpenInvoicesProjection.projection.deliver OpenInvoicesProjection.new
          (deliveries unsettled))
      ∧ openOf unsettled tenantId = [first, second] := by
  have hopen : openOf unsettled tenantId = [first, second] := by
    unfold openOf
    rw [invoicesOf_unsettled, List.filter_cons_of_pos (by simp [first_unsettled.1]),
      List.filter_cons_of_pos (by simp [second_unsettled.1]), List.filter_nil]
  refine ⟨?_, hopen⟩
  apply (shows_open_iff unsettled_produced type_recordedLog rfl (fun _ => rfl)
    (interleaves_deliveries unsettled) _).mpr
  . intro key hkey
    rw [invoicesOf_unsettled, List.mem_cons, List.mem_singleton] at hkey
    rcases hkey with rfl | rfl
    . exact first_unsettled.1
    . exact second_unsettled.1
  . rw [hopen, List.map_cons, List.map_cons, List.map_nil, first_unsettled.2, second_unsettled.2]
    decide

end Bill

end ForgeErp
