import ForgeErp.Projections.Lemmas.CustomerReplay

/-!
This module contains the verification of the rebuild of the customer balances. A rebuild forgets who
was registered, and it forgets the invoices of every tenant; it agrees with the live projection
where there was nothing of that to forget.
-/

namespace ForgeErp

namespace CustomerBalancesProjection

variable [TextFormat Uuid] [TextFormat DateTime]

variable (log : List StoredEvent)

def NoPaidVoid : Prop :=
  ∀ key n e, (eventsIn InvoiceEvent log key)[n]? = some (.invoiceVoided e) →
    (Invoice.after ⟨key.aggregateId⟩ (eventsIn InvoiceEvent log key) n).status ≠ .paid

/--
What a rebuild of some tenants cannot restore is not there: customers other than the one derived
from the sales order, registrations of invoices without events, and invoices of the other tenants.
-/
structure Recoverable (s : Books) (tenants : List TenantId) : Prop where
  registered : ∀ key p, s.registered key = some p →
    key.tenantId ∈ tenants ∧ salesOrderCustomer log key = some p
  issued : ∀ key, s.seen key ≠ 0 → key.tenantId ∈ tenants

/--
The rebuild succeeds, and neither the rows nor the effect of any further events tell it from the
projection before.
-/
structure RebuildAgrees (now : Nat → DateTime) (st : State)
    (envelopes : List (EventEnvelope JsonValue)) : Prop where
  completes : (projection.rebuildFromScratch now st envelopes).1 = .ok ()
  rows : ∀ ds t p,
    (projection.deliver (projection.rebuildFromScratch now st envelopes).2 ds).store.get t p
      = (projection.deliver st ds).store.get t p

section Counts

variable {log} {s s' : Books} {t : TenantId} {p : PartyId}

theorem length_invoicesOf_le (hbooked : ∀ k, Booked log s t p k → Booked log s' t p k)
    : (invoicesOf log s t p).length ≤ (invoicesOf log s' t p).length := by
  apply List.Sublist.length_le
  apply List.monotone_filter_right
  intro k hk
  simp only [decide_eq_true_eq] at hk ⊢
  exact hbooked k hk

theorem open_lt {key : StreamKey} (hmem : key ∈ keysIn log)
    (hkey : Booked log s' t p key) (hseen : s.seen key = 0)
    (hbooked : ∀ k, Booked log s t p k → Booked log s' t p k)
    (hcount : (invoicesOf log s' t p).length < 2 ^ 32)
    : sumOver log s t p (openOn log s) + 1 < 2 ^ 32 := by
  have hlength : (invoicesOf log s' t p).length = sumOver log s' t p (fun _ => 1) := by
    rw [sumOver, List.map_const', List.sum_replicate_nat, Nat.mul_one]
  have hadd : ((keysIn log).map (fun k =>
        (if Booked log s t p k then openOn log s k else 0) + if key = k then 1 else 0)).sum
      ≤ ((keysIn log).map (fun k => if Booked log s' t p k then 1 else 0)).sum := by
    apply List.sum_le_sum
    intro k _
    by_cases hk : key = k
    . subst hk
      have hnot : ¬ Booked log s t p key := fun hb => hb.2.1 hseen
      rw [if_neg hnot, if_pos rfl, if_pos hkey]
    . rw [if_neg hk]
      by_cases hb : Booked log s t p k
      . rw [if_pos hb, if_pos (hbooked k hb), openOn]
        split
        . omega
        . omega
      . rw [if_neg hb]
        omega
  rw [List.sum_map_add, ← sumOver_eq, ← sumOver_eq] at hadd
  have hone := Totals.sum_indicator (List.nodup_dedup (log.map (·.key))) hmem 1
  unfold keysIn at hadd
  omega

variable (hlog : InvoiceLog log)

include hlog in
theorem sound_of_counts (hvoid : NoPaidVoid log) {now : DateTime} {e : StoredEvent} (he : e ∈ log)
    (hissued : ∀ ev, (eventsIn InvoiceEvent log e.key).head? = some (.invoiceIssued ev) →
      Booked log s' e.tenantId ((s.registered e.key).getD ⟨ev.salesOrderId.aggregateId⟩) e.key)
    (hbooked : ∀ p k, Booked log s e.tenantId p k → Booked log s' e.tenantId p k)
    (hcounts : ∀ p, (invoicesOf log s' e.tenantId p).length < 2 ^ 32)
    : Sound log s (.deliver now e) := by
  intro _
  split
  . next ev hev =>
    have hfresh := seen_of_issued hlog hev
    rw [hfresh, ← List.head?_eq_getElem?] at hev
    exact open_lt (mem_keysIn he) (hissued ev hev) hfresh (hbooked _) (hcounts _)
  . next ev hev =>
    intro hpaid
    exact absurd hpaid (hvoid e.key _ ev hev)
  . trivial

theorem booked_step {call : Call} (hcall : Admissible log s call)
    (hstep : books.step s call = some s') {k : StreamKey} (hb : Booked log s t p k)
    : Booked log s' t p k := by
  cases call with
  | register key q =>
    cases hstep
    have hne : k ≠ key := by
      intro heq
      rw [heq] at hb
      exact hb.2.1 hcall
    refine ⟨hb.1, hb.2.1, ?_⟩
    have := hb.2.2
    unfold customerOf Books.register at *
    simp only [hne, ↓reduceIte]
    exact this
  | deliver now e =>
    cases hstep
    have hseen : (s.deliver now e).seen k ≠ 0 := by
      have := hb.2.1
      unfold Books.deliver
      dsimp only
      split
      . omega
      . omega
    refine ⟨hb.1, hseen, ?_⟩
    have := hb.2.2
    unfold customerOf at *
    rw [if_neg hb.2.1] at this
    rw [if_neg hseen]
    exact this

variable (htype : ∀ e ∈ log, e.aggregateType = "invoicing.invoice")

include hlog htype in
theorem tracks_of_counts (hvoid : NoPaidVoid log) (hs : books.ReachableUnder (Allowed log) s)
    (hcounts : ∀ t p, (invoicesOf log s t p).length < 2 ^ 32)
    : ∀ t, Tracks log s t := by
  induction hs with
  | init hinit => exact tracks_init hinit
  | @step s s' call _ hallowed hstep ih =>
    have htracks := ih (fun t p =>
      Nat.lt_of_le_of_lt (length_invoicesOf_le (fun k => booked_step hallowed.1 hstep))
        (hcounts t p))
    apply tracks_step hlog htype htracks hallowed _ hstep
    cases call with
    | register key q => trivial
    | deliver now e =>
      cases hstep
      apply sound_of_counts hlog hvoid hallowed.1.1 _ (fun p k => booked_step hallowed.1 rfl)
        (hcounts e.tenantId)
      intro ev hev
      have hseen : (s.deliver now e).seen e.key ≠ 0 := by
        have hpos := (carries_event hlog htype hallowed.1.1).choose_spec.1
        unfold Books.deliver
        simp only [↓reduceIte]
        omega
      refine ⟨rfl, hseen, ?_⟩
      have hfallback : salesOrderCustomer log e.key = some ⟨ev.salesOrderId.aggregateId⟩ := by
        unfold salesOrderCustomer
        rw [hev]
      unfold customerOf
      rw [if_neg hseen, hfallback]
      have hregistered : (s.deliver now e).registered e.key = s.registered e.key := rfl
      rw [hregistered]
      cases s.registered e.key with
      | none => rfl
      | some p => rfl

theorem fits_of_reachable (hs : books.ReachableUnder (Allowed log) s) : ∀ t, Fits log s t := by
  revert s
  apply Machine.ReachableUnder.invariant
  . intro s hinit t p
    have hnot : ∀ k, ¬ Booked log s t p k := fun k hb => hb.2.1 (hinit.2.2.2.2 k)
    rw [sumOver_eq]
    simp [hnot]
  . intro s call s' _ hallowed hstep
    exact hallowed.2 s' hstep

end Counts

section Live

variable {log} {s s' : Books} {tenants : List TenantId}

variable (hlog : InvoiceLog log) (hrecoverable : Recoverable log s tenants)
  (hcomplete : ∀ key, s.seen key = (eventsIn InvoiceEvent log key).length)
  (hfits : ∀ t, Fits log s t)
  (hcounts : ∀ t p, (invoicesOf log s t p).length < 2 ^ 32)
  (hregistered : ∀ key, s'.registered key = none)

include hrecoverable hregistered in
theorem customerOf_replayed {key : StreamKey} (hseen : s.seen key ≠ 0) (hseen' : s'.seen key ≠ 0)
    : customerOf log s' key = customerOf log s key := by
  have hafter : customerOf log s' key = salesOrderCustomer log key := by
    unfold customerOf
    rw [hregistered key]
    exact if_neg hseen'
  rw [hafter]
  unfold customerOf
  cases hreg : s.registered key with
  | none =>
    dsimp only
    rw [if_neg hseen]
  | some p => exact (hrecoverable.registered key p hreg).2

include hcomplete in
theorem seen_ne_zero {key : StreamKey} (hseen' : s'.seen key ≠ 0)
    (hbound : s'.seen key ≤ (eventsIn InvoiceEvent log key).length) : s.seen key ≠ 0 := by
  rw [hcomplete key]
  omega

include hrecoverable hcomplete hregistered in
theorem booked_replayed {t : TenantId} {p : PartyId} {key : StreamKey}
    (hbound : s'.seen key ≤ (eventsIn InvoiceEvent log key).length) (hb : Booked log s' t p key)
    : Booked log s t p key := by
  have hseen := seen_ne_zero hcomplete hb.2.1 hbound
  refine ⟨hb.1, hseen, ?_⟩
  rw [← customerOf_replayed hrecoverable hregistered hseen hb.2.1]
  exact hb.2.2

include hlog hrecoverable hcomplete hfits hregistered in
theorem fits_replayed {t : TenantId}
    (hbound : ∀ key : StreamKey, key.tenantId = t →
      s'.seen key ≤ (eventsIn InvoiceEvent log key).length)
    : Fits log s' t := by
  intro p
  apply Nat.lt_of_le_of_lt _ (hfits t p)
  rw [sumOver_eq, sumOver_eq]
  apply List.sum_le_sum
  intro key _
  by_cases hb : Booked log s' t p key
  . have hb' := booked_replayed hrecoverable hcomplete hregistered (hbound key hb.1) hb
    have hfull : invoicedOn log s key = Invoice.issuedTotal (eventsIn InvoiceEvent log key) := by
      have := (lifecycle_eventsIn hlog key).totalAmount_eq (Nat.le_refl _)
      rw [List.take_length] at this
      rw [invoicedOn, invoiceOf, hcomplete key]
      exact this
    rw [if_pos hb, if_pos hb', hfull]
    exact invoicedOn_le hlog s' key
  . rw [if_neg hb]
    omega

include hlog hrecoverable hcomplete hcounts hregistered in
theorem sound_replayed (hvoid : NoPaidVoid log) {now : DateTime} {e : StoredEvent} (he : e ∈ log)
    (hbound : ∀ key : StreamKey, key.tenantId = e.tenantId →
      s'.seen key ≤ (eventsIn InvoiceEvent log key).length)
    : Sound log s' (.deliver now e) := by
  apply sound_of_counts hlog hvoid he _ _ (hcounts e.tenantId)
  . intro ev hev
    have hseen : s.seen e.key ≠ 0 := by
      intro hzero
      rw [hcomplete e.key, List.length_eq_zero_iff] at hzero
      rw [hzero] at hev
      cases hev
    have hfallback : salesOrderCustomer log e.key = some ⟨ev.salesOrderId.aggregateId⟩ := by
      unfold salesOrderCustomer
      rw [hev]
    rw [hregistered e.key]
    refine ⟨rfl, hseen, ?_⟩
    unfold customerOf
    cases hreg : s.registered e.key with
    | none =>
      dsimp only
      rw [if_neg hseen, hfallback]
      rfl
    | some p => exact (hrecoverable.registered e.key p hreg).2.symm.trans hfallback
  . intro p k hb
    exact booked_replayed hrecoverable hcomplete hregistered (hbound k hb.1) hb

end Live

section Same

variable {log} {s s' : Books} {t : TenantId}

-- What has been seen and who is booked determine all that a tenant can observe.
theorem Tracks.rows_eq (h : Tracks log s t) (h' : Tracks log s' t)
    (hseen : ∀ key, s'.seen key = s.seen key)
    (hcustomer : ∀ key, customerOf log s' key = customerOf log s key) (p : PartyId)
    : s'.st.store.get t p = s.st.store.get t p := by
  have hbooked : ∀ q key, Booked log s' t q key ↔ Booked log s t q key := by
    intro q key
    unfold Booked
    rw [hseen, hcustomer]
  have hinvoice : ∀ key, invoiceOf log s' key = invoiceOf log s key := by
    intro key
    rw [invoiceOf, invoiceOf, hseen]
  cases hget : s.st.store.get t p with
  | none =>
    cases hget' : s'.st.store.get t p with
    | none => rfl
    | some row' =>
      rcases h'.origin p row' hget' with ⟨_, _, key, hb⟩
      have := h.row key p ((hbooked p key).mp hb)
      rw [hget] at this
      cases this
  | some row =>
    rcases h.origin p row hget with ⟨hid, hname, key, hb⟩
    have hsome := h'.row key p ((hbooked p key).mpr hb)
    rw [Option.isSome_iff_exists] at hsome
    rcases hsome with ⟨row', hget'⟩
    rcases h'.origin p row' hget' with ⟨hid', hname', _⟩
    have hrow : rowOf s t p = row := by
      rw [rowOf, hget]
      rfl
    have hrow' : rowOf s' t p = row' := by
      rw [rowOf, hget']
      rfl
    have hamounts := h.amounts p
    have hamounts' := h'.amounts p
    have hcount := h.count p
    have hcount' := h'.count p
    unfold CountHolds at hcount hcount'
    rw [hrow] at hamounts hcount
    rw [hrow'] at hamounts' hcount'
    have hinvoiced : row'.totalInvoiced = row.totalInvoiced := by
      rw [← UInt64.toNat_inj, hamounts.totalInvoiced, hamounts'.totalInvoiced]
      apply sumOver_congr (hbooked p)
      intro key _
      rw [invoicedOn, invoicedOn, hinvoice]
    have hpaid : row'.totalPaid = row.totalPaid := by
      rw [← UInt64.toNat_inj, hamounts.totalPaid, hamounts'.totalPaid]
      apply sumOver_congr (hbooked p)
      intro key _
      rw [paidOn, paidOn, hseen]
    have howed : row'.outstandingBalance = row.outstandingBalance := by
      rw [← UInt64.toNat_inj, hamounts.outstandingBalance, hamounts'.outstandingBalance]
      apply sumOver_congr (hbooked p)
      intro key _
      rw [owedOn, owedOn, hinvoice]
    have hopen : row'.openInvoiceCount = row.openInvoiceCount := by
      rw [← UInt32.toNat_inj, hcount, hcount']
      apply sumOver_congr (hbooked p)
      intro key _
      rw [openOn, openOn, hinvoice]
    rw [hget']
    rcases row with ⟨_, _, _, _, _, _⟩
    rcases row' with ⟨_, _, _, _, _, _⟩
    dsimp only at hid hname hid' hname' hinvoiced hpaid howed hopen
    rw [hid, hname, hid', hname', hinvoiced, hpaid, howed, hopen]

theorem data_eq (h : ∀ t, Tracks log s t) (h' : ∀ t, Tracks log s' t)
    (hseen : ∀ key, s'.seen key = s.seen key)
    (hcustomer : ∀ key, customerOf log s' key = customerOf log s key)
    : s'.st.data = s.st.data := by
  have hstore : s'.st.store.inner = s.st.store.inner := by
    apply KeyMap.ext
    rintro ⟨t, p⟩
    exact (h t).rows_eq (h' t) hseen hcustomer p
  have hside : s'.st.side = s.st.side := by
    apply KeyMap.ext
    intro key
    rw [(h key.tenantId).mapping key rfl, (h' key.tenantId).mapping key rfl, hcustomer, invoiceOf,
      invoiceOf, hseen]
  unfold ProjectionWith.data
  rw [hside]
  congr 1
  rcases hs : s.st.store with ⟨inner⟩
  rcases hs' : s'.st.store with ⟨inner'⟩
  rw [hs, hs'] at hstore
  exact congrArg InMemoryTenantStore.mk hstore

end Same

section Recovered

variable {log} {s : Books} {tenants : List TenantId}
  {envelopes : List (EventEnvelope JsonValue)} {now : Nat → DateTime}

variable (hlog : InvoiceLog log) (htype : ∀ e ∈ log, e.aggregateType = "invoicing.invoice")
  (hperm : envelopes.Perm ((tenantLog log tenants).map StoredEvent.toEnvelope))
  (htracks : ∀ t, Tracks log s t) (hrecoverable : Recoverable log s tenants)
  (hcomplete : ∀ key, s.seen key = (eventsIn InvoiceEvent log key).length)

include hlog hperm hrecoverable hcomplete in
theorem seen_blank (key : StreamKey) : (blank s envelopes).seen key = 0 := by
  unfold blank
  dsimp only
  split
  . rfl
  . next htenant =>
    rw [tenant_iff hperm] at htenant
    by_contra hseen
    apply htenant
    have hmem := hrecoverable.issued key hseen
    rw [hcomplete key, (ProducedLog.events hlog key).2] at hseen
    rcases List.exists_mem_of_length_pos (Nat.pos_of_ne_zero hseen) with ⟨e, he⟩
    rw [CursorProjection.mem_streamIn] at he
    exact ⟨e, he.1, congrArg StreamKey.tenantId he.2, hmem⟩

include hlog hperm htracks hrecoverable hcomplete in
theorem tracks_cleared (t : TenantId) : Tracks log (blank s envelopes) t := by
  have hseen := seen_blank hlog hperm hrecoverable hcomplete
  apply tracks_blank _ _ _ (fun _ _ => rfl) (fun key _ => hseen key)
  . intro p
    have hget := projection.get_cleared s.st envelopes t p
    by_cases htenant : ∃ env ∈ envelopes, env.tenantId = t
    . exact hget.trans (if_pos htenant)
    . rw [if_neg htenant] at hget
      cases hrow : s.st.store.get t p with
      | none => exact hget.trans hrow
      | some row =>
        rcases (htracks t).origin p row hrow with ⟨_, _, key, hb⟩
        have hzero := hseen key
        unfold blank at hzero
        dsimp only at hzero
        rw [hb.1, if_neg htenant] at hzero
        exact absurd hzero hb.2.1
  . intro key _
    have hside := projection.side_cleared s.st envelopes
    have : (blank s envelopes).st.side = KeyMap.empty := hside
    rw [this]
    rfl
  . intro key hkey
    have hzero := hseen key
    have hcursor := projection.getCursor_cleared s.st envelopes key
    unfold blank at hzero
    dsimp only at hzero
    rw [(htracks t).cursor key hkey] at hcursor
    exact hcursor.trans hzero

include hlog htype hperm htracks hrecoverable hcomplete in
theorem agrees_of_recoverable (hfits : ∀ t, Fits log s t)
    (hcounts : ∀ t p, (invoicesOf log s t p).length < 2 ^ 32) (hvoid : NoPaidVoid log)
    : RebuildAgrees now s.st envelopes := by
  rcases @rebuild_eq_replay _ _ log s tenants envelopes now hlog htype hperm with
    ⟨es, heq, hes, hconsecutive, hlength⟩
  have hinv : (∀ key, ((blank s envelopes).replay es).registered key = none)
      ∧ ∀ t, Tracks log ((blank s envelopes).replay es) t := by
    apply replay_invariant
      (P := fun s' => (∀ key, s'.registered key = none) ∧ ∀ t, Tracks log s' t) _ hconsecutive
    . intro s' d hd hs' hseq
      refine ⟨hs'.1, ?_⟩
      intro t
      by_cases ht : t = d.2.tenantId
      . subst ht
        have hbound := (hs'.2 d.2.tenantId).bound
        have hmem := (hes d hd).1
        rcases carries_event hlog htype hmem with ⟨ev, _, hev, _⟩
        have hbound' : ∀ key : StreamKey, key.tenantId = d.2.tenantId →
            (s'.deliver d.1 d.2).seen key ≤ (eventsIn InvoiceEvent log key).length := by
          intro key hkey
          unfold Books.deliver
          dsimp only
          split
          . next heq =>
            subst heq
            rw [List.getElem?_eq_some_iff] at hev
            have := hev.1
            have := hbound d.2.key rfl
            omega
          . exact hbound key hkey
        apply tracks_deliver hlog htype hmem (by omega) (hs'.2 _)
        . have hregistered : ∀ key, (s'.deliver d.1 d.2).registered key = none := hs'.1
          exact fits_replayed hlog hrecoverable hcomplete hfits hregistered hbound'
        . exact sound_replayed hlog hrecoverable hcomplete hcounts hs'.1 hvoid hmem hbound
      . exact (hs'.2 t).alike (alike_deliver ht)
    . exact ⟨fun _ => rfl, tracks_cleared hlog hperm htracks hrecoverable hcomplete⟩
  have hseen := seen_rebuilt hlog hperm hconsecutive hlength hcomplete
  have hcustomer : ∀ key, customerOf log ((blank s envelopes).replay es) key
      = customerOf log s key := by
    intro key
    by_cases hzero : s.seen key = 0
    . have hnone : s.registered key = none := by
        cases hreg : s.registered key with
        | none => rfl
        | some p =>
          have hfallback := (hrecoverable.registered key p hreg).2
          have hnil : eventsIn InvoiceEvent log key = [] := by
            rw [← List.length_eq_zero_iff, ← hcomplete key]
            exact hzero
          unfold salesOrderCustomer at hfallback
          rw [hnil] at hfallback
          cases hfallback
      unfold customerOf
      rw [hinv.1 key, hnone, hseen key]
    . exact customerOf_replayed hrecoverable hinv.1 hzero (by rw [hseen key]; exact hzero)
  have hdata := data_eq htracks hinv.2 hseen hcustomer
  refine ⟨by rw [heq], ?_⟩
  intro ds t p
  rw [heq]
  have hstate := @GuardedProjection.deliver_congr _ _ _ _ _ projection _ _ hdata (by
    intro key
    rw [(hinv.2 key.tenantId).cursor key rfl, (htracks key.tenantId).cursor key rfl, hseen key]) ds
  exact congrArg (fun data : Data => data.1.get t p) hstate

end Recovered

section Forgotten

omit [TextFormat Uuid] [TextFormat DateTime] in
theorem customerId_update (now : DateTime) (data : Data) (key : StreamKey) (ev : InvoiceEvent)
    : ((projection.update now data key ev).2.get key).map (·.customerId)
        =
      match ev with
      | .invoiceIssued e =>
        some (((data.2.get key).map (·.customerId)).getD ⟨e.salesOrderId.aggregateId⟩)
      | _ => (data.2.get key).map (·.customerId) := by
  cases ev with
  | invoiceIssued e =>
    rw [update_issued rfl]
    dsimp only
    rw [KeyMap.get_insert_self]
    rfl
  | paymentRegistered e =>
    dsimp only [projection]
    unfold applyPayment
    split
    . next hget => rw [hget]
    . next mapping hget =>
      dsimp only
      split
      . rw [KeyMap.get_insert_self, hget]
        rfl
      . rw [KeyMap.get_insert_self, hget]
        rfl
  | invoiceVoided e =>
    dsimp only [projection]
    unfold applyVoided
    split
    . next hget => rw [hget]
    . next mapping hget =>
      dsimp only
      split
      . rw [KeyMap.get_insert_self, hget]
        rfl
      . rw [KeyMap.get_insert_self, hget]
        rfl

def token (key : StreamKey) (salesOrderId : SalesOrderId) : InvoiceIssued :=
  ⟨key.tenantId, ⟨key.aggregateId⟩, salesOrderId, [], ⟨0⟩, 1, ⟨0⟩⟩

def envelopeOf (key : StreamKey) (n : Nat) (ev : InvoiceEvent) : EventEnvelope JsonValue where
  eventId := ⟨0⟩
  tenantId := key.tenantId
  aggregateId := key.aggregateId
  aggregateType := "invoicing.invoice"
  sequenceNumber := n
  payload := Codec.enc ev

theorem get_deliver_token {st : State} {key : StreamKey} {n : Nat} {salesOrderId : SalesOrderId}
    {q : PartyId} (hn : st.getCursor key = n)
    (hq : ((st.side.get key).map (·.customerId)).getD ⟨salesOrderId.aggregateId⟩ = q) (p : PartyId)
    : (projection.deliver st
        [(⟨0⟩, envelopeOf key (n + 1) (.invoiceIssued (token key salesOrderId)))]).store.get
          key.tenantId p
        =
      if p = q then
        some (issuedRow ((st.store.get key.tenantId q).getD (.new q)) (token key salesOrderId))
      else
        st.store.get key.tenantId p := by
  have haccepts : projection.Accepts st
      (envelopeOf key (n + 1) (.invoiceIssued (token key salesOrderId)))
      (.invoiceIssued (token key salesOrderId)) := by
    apply GuardedProjection.Carries.accepts ⟨rfl, Codec.dec_enc _, rfl, rfl⟩
    exact congrArg (· + 1) hn.symm
  rw [GuardedProjection.deliver_cons, projection.applyEnvelope_of_accepts haccepts]
  have hdata : (projection.write ⟨0⟩ st (envelopeOf key (n + 1)
      (.invoiceIssued (token key salesOrderId))) (.invoiceIssued (token key salesOrderId))).store
      = st.store.upsert key.tenantId q
          (issuedRow ((st.store.get key.tenantId q).getD (.new q)) (token key salesOrderId)) :=
    congrArg Prod.fst (@update_issued ⟨0⟩ st.data key q (token key salesOrderId) hq)
  have hnil : ∀ st : State, projection.deliver st [] = st := fun _ => rfl
  rw [hnil, hdata, InMemoryTenantStore.get_upsert]
  simp only [true_and]

theorem exists_rows_ne {st st' : State} {key : StreamKey} {m : InvoiceCustomerMapping}
    (hcursor : st'.getCursor key = st.getCursor key) (hlive : st.side.get key = some m)
    (hlost : ∀ m', st'.side.get key = some m' → m'.customerId ≠ m.customerId)
    : ∃ ds p, (projection.deliver st' ds).store.get key.tenantId p
        ≠ (projection.deliver st ds).store.get key.tenantId p := by
  by_contra hsame
  simp only [not_exists, ne_eq, not_not] at hsame
  have hother : ∃ a : AggregateId, (⟨a⟩ : PartyId) ≠ m.customerId := by
    by_cases hzero : (⟨⟨⟨0⟩⟩⟩ : PartyId) = m.customerId
    . refine ⟨⟨⟨1⟩⟩, ?_⟩
      rw [← hzero]
      decide
    . exact ⟨⟨⟨0⟩⟩, hzero⟩
  rcases hother with ⟨a, ha⟩
  have hq : ((st'.side.get key).map (·.customerId)).getD ⟨a⟩ ≠ m.customerId := by
    cases hget : st'.side.get key with
    | none => exact ha
    | some m' => exact hlost m' hget
  have hrow := hsame [(⟨0⟩, envelopeOf key (st.getCursor key + 1)
    (.invoiceIssued (token key ⟨a⟩)))] m.customerId
  rw [get_deliver_token hcursor rfl, get_deliver_token rfl rfl, if_neg (Ne.symm hq), hlive] at hrow
  have hbefore : st'.store.get key.tenantId m.customerId = st.store.get key.tenantId m.customerId :=
    hsame [] m.customerId
  rw [hbefore] at hrow
  simp only [Option.map_some, Option.getD_some, ↓reduceIte] at hrow
  cases hget : st.store.get key.tenantId m.customerId with
  | none =>
    rw [hget] at hrow
    cases hrow
  | some row =>
    rw [hget, Option.some.injEq] at hrow
    have htotal : row.totalInvoiced = row.totalInvoiced + 1 :=
      congrArg CustomerBalance.totalInvoiced hrow
    simp at htotal

variable {log} {s : Books} {tenants : List TenantId} {es : List (DateTime × StoredEvent)}
  {envelopes : List (EventEnvelope JsonValue)} {now : Nat → DateTime}

variable (hlog : InvoiceLog log) (htype : ∀ e ∈ log, e.aggregateType = "invoicing.invoice")
  (htracks : ∀ t, Tracks log s t)

include hlog in
theorem salesOrderCustomer_of_update {s' : Books} {now : DateTime} {key : StreamKey}
    {ev : InvoiceEvent} {m : InvoiceCustomerMapping}
    (hev : (eventsIn InvoiceEvent log key)[s'.seen key]? = some ev)
    (hbefore : ∀ m', s'.st.side.get key = some m' →
      salesOrderCustomer log key = some m'.customerId)
    (hm : (projection.update now s'.st.data key ev).2.get key = some m)
    : salesOrderCustomer log key = some m.customerId := by
  have hid := customerId_update now s'.st.data key ev
  have hside : s'.st.data.2.get key = s'.st.side.get key := rfl
  rw [hm, hside] at hid
  cases hget : s'.st.side.get key with
  | some m' =>
    rw [hbefore m' hget]
    rw [hget] at hid
    cases ev with
    | invoiceIssued e => exact hid.symm
    | paymentRegistered e => exact hid.symm
    | invoiceVoided e => exact hid.symm
  | none =>
    rw [hget] at hid
    cases ev with
    | invoiceIssued e =>
      rw [seen_of_issued hlog hev, ← List.head?_eq_getElem?] at hev
      unfold salesOrderCustomer
      rw [hev]
      exact hid.symm
    | paymentRegistered e => cases hid
    | invoiceVoided e => cases hid

include hlog htype htracks in
theorem mapping_replay (hes : ∀ d ∈ es, d.2 ∈ log ∧ d.2.tenantId ∈ tenants)
    (hconsecutive : Consecutive (blank s envelopes) es)
    : (∀ key, ((blank s envelopes).replay es).st.getCursor key
          = ((blank s envelopes).replay es).seen key)
      ∧ ∀ key m, ((blank s envelopes).replay es).st.side.get key = some m →
          key.tenantId ∈ tenants ∧ salesOrderCustomer log key = some m.customerId := by
  apply replay_invariant
    (P := fun s' => (∀ key, s'.st.getCursor key = s'.seen key)
      ∧ ∀ key m, s'.st.side.get key = some m →
          key.tenantId ∈ tenants ∧ salesOrderCustomer log key = some m.customerId) _ hconsecutive
  . intro s' d hd hs' hseq
    rcases deliver_eq hlog htype (hes d hd).1 (hs'.1 d.2.key) (Nat.le_of_eq hseq) with
      hknown | ⟨ev, hev, _, hst, hseen⟩
    . omega
    refine ⟨?_, ?_⟩
    . intro key
      rw [hst, hseen, GuardedProjection.getCursor_write]
      split
      . next hkey =>
        rw [hkey]
        exact hseq.trans (if_pos rfl).symm
      . next hkey =>
        rw [hs'.1 key]
        exact (if_neg hkey).symm
    . intro key m hm
      rw [hst] at hm
      have hmapping : (projection.update d.1 s'.st.data d.2.key ev).2.get key = some m := hm
      by_cases hkey : key = d.2.key
      . subst hkey
        refine ⟨(hes d hd).2, ?_⟩
        apply salesOrderCustomer_of_update hlog hev _ hmapping
        intro m' hm'
        exact (hs'.2 d.2.key m' hm').2
      . rw [(update_frame d.1 s'.st.data d.2.key ev).2 key hkey] at hmapping
        exact hs'.2 key m hmapping
  . refine ⟨?_, ?_⟩
    . intro key
      have hcursor := projection.getCursor_cleared s.st envelopes key
      rw [(htracks key.tenantId).cursor key rfl] at hcursor
      exact hcursor
    . intro key m hm
      have hside : (blank s envelopes).st.side = KeyMap.empty :=
        projection.side_cleared s.st envelopes
      rw [hside] at hm
      cases hm

include hlog htype htracks in
theorem recoverable_of_agrees
    (hperm : envelopes.Perm ((tenantLog log tenants).map StoredEvent.toEnvelope))
    (hcomplete : ∀ key, s.seen key = (eventsIn InvoiceEvent log key).length)
    (h : RebuildAgrees now s.st envelopes) : Recoverable log s tenants := by
  rcases @rebuild_eq_replay _ _ log s tenants envelopes now hlog htype hperm with
    ⟨es, heq, hes, hconsecutive, hlength⟩
  rcases mapping_replay hlog htype htracks hes hconsecutive with ⟨hcursor, hmapping⟩
  have hseen := seen_rebuilt hlog hperm hconsecutive hlength hcomplete
  have hkept : ∀ key p, customerOf log s key = some p →
      key.tenantId ∈ tenants ∧ salesOrderCustomer log key = some p := by
    intro key p hp
    have hlive : s.st.side.get key = some (mappingOf (invoiceOf log s key) p) := by
      rw [(htracks key.tenantId).mapping key rfl, hp]
      rfl
    by_contra hlost
    have hcursors : ((blank s envelopes).replay es).st.getCursor key = s.st.getCursor key := by
      rw [hcursor, hseen, (htracks key.tenantId).cursor key rfl]
    have hother : ∀ m', ((blank s envelopes).replay es).st.side.get key = some m' →
        m'.customerId ≠ p := by
      intro m' hm' hid
      apply hlost
      rw [← hid]
      exact hmapping key m' hm'
    rcases exists_rows_ne hcursors hlive hother with ⟨ds, q, hne⟩
    apply hne
    have hrows := h.rows ds key.tenantId q
    rw [heq] at hrows
    exact hrows
  constructor
  . intro key p hreg
    apply hkept
    simp only [customerOf, hreg]
  . intro key hissued
    rcases exists_customerOf hlog hissued ((htracks key.tenantId).bound key rfl) with ⟨p, hp⟩
    exact (hkept key p hp).1

end Forgotten

theorem rebuild_agrees_iff {log : List StoredEvent} {s : Books} {tenants : List TenantId}
    {envelopes : List (EventEnvelope JsonValue)} (now : Nat → DateTime) (hlog : InvoiceLog log)
    (htype : ∀ e ∈ log, e.aggregateType = "invoicing.invoice")
    (hs : books.ReachableUnder (Allowed log) s)
    (hcomplete : ∀ key, s.seen key = (eventsIn InvoiceEvent log key).length)
    (hcounts : ∀ t p, (invoicesOf log s t p).length < 2 ^ 32) (hvoid : NoPaidVoid log)
    (hperm : envelopes.Perm ((tenantLog log tenants).map StoredEvent.toEnvelope))
    : RebuildAgrees now s.st envelopes ↔ Recoverable log s tenants := by
  have htracks := tracks_of_counts hlog htype hvoid hs hcounts
  constructor
  . intro h
    exact recoverable_of_agrees hlog htype htracks hperm hcomplete h
  . intro hrecoverable
    exact agrees_of_recoverable hlog htype hperm htracks hrecoverable hcomplete
      (fits_of_reachable hs) hcounts hvoid

end CustomerBalancesProjection

-- One invoice, which is registered to another customer than its sales order.
namespace Bill

open Concrete CustomerBalancesProjection

def single : List StoredEvent :=
  recordedLog "invoicing.invoice" [(second, [issued second])]

theorem single_produced : InvoiceLog single := by
  apply producedLog_recordedLog (by simp)
  . intro s hs
    rw [List.mem_singleton] at hs
    subst hs
    exact produced_issued second
  . intro key
    exact .nil

theorem single_eq : single = [event second 1 (issued second)] := rfl

theorem single_type : ∀ e ∈ single, e.aggregateType = "invoicing.invoice" :=
  type_recordedLog

theorem events_single (key : StreamKey)
    : eventsIn InvoiceEvent single key = if key = second then [issued second] else [] := by
  split
  . next h =>
    rw [h]
    exact eventsIn_recordedLog (by simp) (by simp)
  . next h =>
    unfold eventsIn single
    rw [streamIn_recordedLog_of_not_mem (by simpa using h)]
    rfl

theorem keysIn_single : keysIn single = [second] := by
  decide

theorem single_fits (s : Books) (t : TenantId) : Fits single s t := by
  apply fits_of_issuedTotal single_produced
  rw [keysIn_single]
  simp only [List.map_cons, List.map_nil, events_single]
  decide

def issue (s : Books) : Books :=
  s.deliver ⟨0⟩ (event second 1 (issued second))

theorem reachable_issue {s : Books} (hs : books.ReachableUnder (Allowed single) s)
    : books.ReachableUnder (Allowed single) (issue s) := by
  apply Machine.ReachableUnder.step (a := .deliver ⟨0⟩ (event second 1 (issued second))) hs _ rfl
  refine ⟨⟨?_, ?_⟩, fun s' _ t => single_fits s' t⟩
  . rw [single_eq, List.mem_singleton]
  . exact Nat.le_add_left 1 _

theorem seen_issue {s : Books} (hs : ∀ key, s.seen key = 0) (key : StreamKey)
    : (issue s).seen key = (eventsIn InvoiceEvent single key).length := by
  rw [events_single]
  unfold issue Books.deliver
  have hkey : (event second 1 (issued second)).key = second := rfl
  rw [hkey]
  dsimp only
  rw [hs key]
  split
  . rfl
  . rfl

theorem rebuild_forgets_customer
    : InvoiceLog single
      ∧ (∀ e ∈ single, e.aggregateType = "invoicing.invoice")
      ∧ books.ReachableUnder (Allowed single) (issue (start.register second customer))
      ∧ (∀ key, (issue (start.register second customer)).seen key
          = (eventsIn InvoiceEvent single key).length)
      ∧ ¬ RebuildAgrees (fun _ => ⟨0⟩) (issue (start.register second customer)).st
          (single.map StoredEvent.toEnvelope) := by
  refine ⟨single_produced, single_type, reachable_issue ?_, seen_issue (fun _ => rfl), ?_⟩
  . apply Machine.ReachableUnder.step (a := .register second customer) (.init start_init) _ rfl
    exact ⟨rfl, fun s' _ t => single_fits s' t⟩
  . intro h
    have hrow := h.rows [] tenantId customer
    have hlive : (projection.deliver (issue (start.register second customer)).st []).store.get
        tenantId customer ≠ none := by
      decide
    apply hlive
    rw [← hrow]
    rfl

-- The customer that the rebuild falls back on
def orderCustomer : PartyId :=
  ⟨salesOrderId.aggregateId⟩

def remembered : Books :=
  start.register second orderCustomer

theorem reachable_remembered : books.ReachableUnder (Allowed single) remembered := by
  apply Machine.ReachableUnder.step (a := .register second orderCustomer) (.init start_init) _ rfl
  exact ⟨rfl, fun s' _ t => single_fits s' t⟩

theorem rebuild_agrees_registered
    : RebuildAgrees (fun _ => ⟨0⟩) (issue remembered).st (single.map StoredEvent.toEnvelope)
      ∧ (issue remembered).registered second = some orderCustomer
      ∧ ((issue remembered).st.store.get tenantId orderCustomer).isSome := by
  refine ⟨?_, rfl, rfl⟩
  have htenants : tenantLog single [tenantId] = single := rfl
  have hperm : (single.map StoredEvent.toEnvelope).Perm
      ((tenantLog single [tenantId]).map StoredEvent.toEnvelope) := by
    rw [htenants]
  apply (rebuild_agrees_iff (fun _ => ⟨0⟩) single_produced single_type
    (reachable_issue reachable_remembered) (seen_issue (fun _ => rfl)) _ _ hperm).mpr
  . constructor
    . intro key p hp
      have hregistered : (if key = second then some orderCustomer else none) = some p := hp
      split at hregistered
      . next hkey =>
        cases hregistered
        rw [hkey]
        refine ⟨List.mem_singleton.mpr rfl, ?_⟩
        unfold salesOrderCustomer
        rw [events_single, if_pos rfl]
        rfl
      . cases hregistered
    . intro key hkey
      rw [seen_issue (fun _ => rfl), events_single] at hkey
      split at hkey
      . next heq =>
        rw [heq]
        exact List.mem_singleton.mpr rfl
      . exact absurd rfl hkey
  . intro t p
    have hle : (invoicesOf single (issue remembered) t p).length ≤ (keysIn single).length :=
      List.length_filter_le _ _
    rw [keysIn_single, List.length_singleton] at hle
    omega
  . intro key n e hev
    rw [events_single] at hev
    split at hev
    . cases n with
      | zero => cases hev
      | succ n => cases hev
    . cases hev

end Bill

end ForgeErp
