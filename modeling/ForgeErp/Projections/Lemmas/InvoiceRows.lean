import ForgeErp.Domain.Lemmas.Invoicing
import ForgeErp.Projections.Lemmas.CustomerBalances

/-!
This module contains the verification of the two views of an invoice against its aggregate. One of
them takes over the amount paid so far, the other one counts down what is left to pay.
-/

namespace ForgeErp

namespace InvoicesProjection

structure Mirrors (row : InvoiceReadModel) (aging : InvoiceAgingReadModel) (inv : Invoice)
    : Prop where
  status : row.status = inv.status
  agingStatus : aging.status = inv.status
  totalAmount : row.totalAmount = inv.totalAmount
  agingTotalAmount : aging.totalAmount = inv.totalAmount
  totalPaid : row.totalPaid = inv.totalPaid
  lines : row.lines = inv.lines
  outstanding :
    (aging.outstandingAmount.toNat : Int) = inv.totalAmount.toNat - inv.totalPaid.toNat

theorem mirrors_issued (row : InvoiceReadModel) (aging : InvoiceAgingReadModel) (inv : Invoice)
    (e : InvoiceIssued)
    : Mirrors (projection.modify row (.invoiceIssued e))
        (InvoiceAgingProjection.projection.modify aging (.invoiceIssued e))
        (inv.apply (.invoiceIssued e)) := by
  refine ⟨rfl, rfl, rfl, rfl, rfl, rfl, ?_⟩
  have hpaid : (inv.apply (.invoiceIssued e)).totalPaid.toNat = 0 := rfl
  rw [hpaid, Nat.cast_zero, Int.sub_zero]
  rfl

variable {row : InvoiceReadModel} {aging : InvoiceAgingReadModel} {inv : Invoice}

theorem Mirrors.voided (h : Mirrors row aging inv) (e : InvoiceVoided)
    : Mirrors (projection.modify row (.invoiceVoided e))
        (InvoiceAgingProjection.projection.modify aging (.invoiceVoided e))
        (inv.apply (.invoiceVoided e)) :=
  ⟨rfl, rfl, h.totalAmount, h.agingTotalAmount, h.totalPaid, h.lines, h.outstanding⟩

-- What is left to pay reaches zero with the payment that settles the invoice.
theorem Mirrors.outstanding_paid (h : Mirrors row aging inv) {e : PaymentRegistered}
    (hadd : e.newTotalPaid.toNat = inv.totalPaid.toNat + e.amount.toNat)
    (hle : e.newTotalPaid ≤ inv.totalAmount)
    : (saturatingSub aging.outstandingAmount (min e.amount aging.outstandingAmount)).toNat
        = inv.totalAmount.toNat - e.newTotalPaid.toNat
      ∧ (saturatingSub aging.outstandingAmount (min e.amount aging.outstandingAmount) = 0
          ↔ e.newTotalPaid ≥ inv.totalAmount) := by
  have houtstanding := h.outstanding
  rw [UInt64.le_iff_toNat_le] at hle
  have hmin : min e.amount aging.outstandingAmount = e.amount := by
    apply if_pos
    rw [UInt64.le_iff_toNat_le]
    omega
  have hvalue : (saturatingSub aging.outstandingAmount e.amount).toNat
      = inv.totalAmount.toNat - e.newTotalPaid.toNat := by
    rw [CustomerBalancesProjection.toNat_saturatingSub]
    omega
  rw [hmin]
  refine ⟨hvalue, ?_⟩
  rw [← UInt64.toNat_inj, hvalue, ge_iff_le, UInt64.le_iff_toNat_le, UInt64.toNat_zero]
  omega

theorem Mirrors.paid (h : Mirrors row aging inv) {e : PaymentRegistered}
    (hadd : e.newTotalPaid.toNat = inv.totalPaid.toNat + e.amount.toNat)
    (hle : e.newTotalPaid ≤ inv.totalAmount)
    : Mirrors (projection.modify row (.paymentRegistered e))
        (InvoiceAgingProjection.projection.modify aging (.paymentRegistered e))
        (inv.apply (.paymentRegistered e)) := by
  rcases h.outstanding_paid hadd hle with ⟨hvalue, hzero⟩
  have hamount : e.newTotalPaid ≥ row.totalAmount ↔ e.newTotalPaid ≥ inv.totalAmount := by
    rw [h.totalAmount]
  have hleft : ((inv.totalAmount.toNat - e.newTotalPaid.toNat : Nat) : Int)
      = inv.totalAmount.toNat - e.newTotalPaid.toNat := by
    rw [UInt64.le_iff_toNat_le] at hle
    omega
  rw [Invoice.apply_paymentRegistered]
  dsimp only [projection, InvoiceAgingProjection.projection]
  by_cases hsettled : e.newTotalPaid ≥ inv.totalAmount
  . rw [if_pos (hamount.mpr hsettled), if_pos (hzero.mpr hsettled), if_pos hsettled]
    refine ⟨rfl, rfl, h.totalAmount, h.agingTotalAmount, rfl, h.lines, ?_⟩
    rw [← hleft, ← hvalue]
  . rw [if_neg (hamount.not.mpr hsettled), if_neg (hzero.not.mpr hsettled), if_neg hsettled]
    refine ⟨h.status, h.agingStatus, h.totalAmount, h.agingTotalAmount, rfl, h.lines, ?_⟩
    rw [← hleft, ← hvalue]

theorem mirrors_after {id : InvoiceId} {evs : List InvoiceEvent} (h : Invoice.Lifecycle id evs)
    (row : InvoiceReadModel) (aging : InvoiceAgingReadModel) {n : Nat} (hn : n ≤ evs.length)
    (hpos : n ≠ 0)
    : Mirrors ((evs.take n).foldl projection.modify row)
        ((evs.take n).foldl InvoiceAgingProjection.projection.modify aging)
        (Invoice.after id evs n) := by
  have hcreated := (h.created_iff hn).mpr hpos
  apply h.after_invariant (P := fun n s => s.created = true →
    Mirrors ((evs.take n).foldl projection.modify row)
      ((evs.take n).foldl InvoiceAgingProjection.projection.modify aging) s) _ _ hn hcreated
  . intro hempty
    cases hempty
  . intro n ev s hev hs hnext _
    have htake : evs.take (n + 1) = evs.take n ++ [ev] := by
      rw [List.take_add_one, hev]
      rfl
    rw [htake, List.foldl_concat, List.foldl_concat]
    cases hnext with
    | issued => apply mirrors_issued
    | payment hcreated _ _ hadd hle => exact (hs hcreated).paid hadd hle
    | voided hcreated => exact (hs hcreated).voided _

section Delivery

variable [TextFormat Uuid] [TextFormat DateTime]

theorem rows_mirror_invoice (key : StreamKey) (stream : List StoredEvent) (evs : List InvoiceEvent)
    (hwf : InMemoryEventStore.WellFormedStream key stream) (htyped : StreamOf stream evs)
    (htype : ∀ e ∈ stream, e.aggregateType = "invoicing.invoice")
    (hproduced : Invoice.aggregate.Produced (fun command : InvoiceCommand =>
        command.tenantId = key.tenantId ∧ command.invoiceId = ⟨key.aggregateId⟩)
      (Invoice.empty ⟨key.aggregateId⟩) evs)
    (ds : List (AggregateId × EventEnvelope JsonValue))
    (hds : CursorProjection.DeliveredInOrder key stream ds)
    : ∃ c, Reached EventEnvelope.key EventEnvelope.sequenceNumber (ds.map Prod.snd) key c
        ∧ c ≤ evs.length
        ∧ (c = 0 →
            (projection.deliver new ds).store.get key.tenantId ⟨key.aggregateId⟩ = none
            ∧ (InvoiceAgingProjection.projection.deliver InvoiceAgingProjection.new ds).store.get
                key.tenantId ⟨key.aggregateId⟩ = none)
        ∧ (c ≠ 0 → ∃ row aging,
            (projection.deliver new ds).store.get key.tenantId ⟨key.aggregateId⟩ = some row
            ∧ (InvoiceAgingProjection.projection.deliver InvoiceAgingProjection.new ds).store.get
                key.tenantId ⟨key.aggregateId⟩ = some aging
            ∧ Mirrors row aging (Invoice.after ⟨key.aggregateId⟩ evs c)) := by
  have hids := Invoice.ids_of_produced hproduced
  have htenant : ∀ ev ∈ evs, ev.tenantId = key.tenantId := fun ev hev => (hids ev hev).1
  have haggregate : ∀ ev ∈ evs, InvoiceId.equiv ev.invoiceId = key.aggregateId := by
    intro ev hev
    rw [(hids ev hev).2]
    rfl
  have hfeeds : projection.Feeds key stream evs := ⟨hwf, htyped, htype, htenant, haggregate⟩
  have hfeeds' : InvoiceAgingProjection.projection.Feeds key stream evs :=
    ⟨hwf, htyped, htype, htenant, haggregate⟩
  rcases projection.row_inOrder hfeeds (rooted_of_produced hproduced) "invoicing.invoices" hds
    with ⟨c, hreached, hle, hrow⟩
  rcases InvoiceAgingProjection.projection.row_inOrder hfeeds'
    (InvoiceAgingProjection.rooted_of_produced hproduced) "invoicing.aging" hds
    with ⟨c', hreached', _, hrow'⟩
  have hsame := hreached.unique _ _ hreached'
  subst hsame
  have vacant : InvoiceReadModel := ⟨⟨key.aggregateId⟩, ⟨key.aggregateId⟩, none, .open, 0, 0, []⟩
  have vacant' : InvoiceAgingReadModel := ⟨⟨key.aggregateId⟩, 0, 0, none, .open⟩
  have hrow := hrow vacant
  have hrow' := hrow' vacant'
  refine ⟨c, hreached, hle, ?_, ?_⟩
  . intro hzero
    rw [if_pos hzero] at hrow hrow'
    exact ⟨hrow, hrow'⟩
  . intro hpos
    rw [if_neg hpos] at hrow hrow'
    have hlife := Invoice.lifecycle_of_produced hproduced
    exact ⟨_, _, hrow, hrow', mirrors_after hlife vacant vacant' hle hpos⟩

end Delivery

end InvoicesProjection

namespace Bill

open Concrete

def history : List InvoiceEvent :=
  [issued first, paid first, voided first]

def stream : List StoredEvent :=
  recorded "invoicing.invoice" first 1 history

theorem history_produced
    : Invoice.aggregate.Produced (fun command : InvoiceCommand =>
        command.tenantId = first.tenantId ∧ command.invoiceId = ⟨first.aggregateId⟩)
        (Invoice.empty ⟨first.aggregateId⟩)
          ((([] ++ [issued first]) ++ [paid first]) ++ [voided first]) := by
  refine .step (.voidInvoice ⟨tenantId, ⟨first.aggregateId⟩, none, ⟨0⟩⟩ : InvoiceCommand) ?_
    ⟨rfl, rfl⟩
    rfl
  refine .step (.registerPayment ⟨tenantId, ⟨first.aggregateId⟩, 100, ⟨0⟩⟩ : InvoiceCommand) ?_
    ⟨rfl, rfl⟩ rfl
  exact .step (.issueInvoice ⟨tenantId, ⟨first.aggregateId⟩, salesOrderId, lines, ⟨0⟩, ⟨0⟩⟩
    : InvoiceCommand) .nil ⟨rfl, rfl⟩ rfl

def firstDeliveries : List (AggregateId × EventEnvelope JsonValue) :=
  stream.map (fun e => (⟨⟨0⟩⟩, e.toEnvelope))

theorem rows_mirror_invoice_first
    : InMemoryEventStore.WellFormedStream first stream
      ∧ CursorProjection.DeliveredInOrder first stream firstDeliveries
      ∧ ∃ row aging,
          (InvoicesProjection.projection.deliver InvoicesProjection.new firstDeliveries).store.get
            first.tenantId ⟨first.aggregateId⟩ = some row
          ∧ (InvoiceAgingProjection.projection.deliver InvoiceAgingProjection.new
              firstDeliveries).store.get first.tenantId ⟨first.aggregateId⟩ = some aging
          ∧ InvoicesProjection.Mirrors row aging (Invoice.after ⟨first.aggregateId⟩ history 3) := by
  have hwf : InMemoryEventStore.WellFormedStream first stream :=
    wellFormed_recorded "invoicing.invoice" first history
  have hds := CursorProjection.deliveredInOrder_map hwf ⟨⟨0⟩⟩
  refine ⟨hwf, hds, ?_⟩
  rcases InvoicesProjection.rows_mirror_invoice first stream history hwf
    (streamOf_recorded "invoicing.invoice" first 1 history) (fun e he => (mem_recorded he).2)
    history_produced _ hds with ⟨c, hreached, hle, _, hrows⟩
  have hlast := hreached.le (event first 3 (voided first)).toEnvelope
    (by rw [List.map_map]; exact List.mem_map_of_mem (by simp [stream, history, recorded, event]))
    rfl
  have hlength : history.length = 3 := rfl
  have hseq : (event first 3 (voided first)).toEnvelope.sequenceNumber = 3 := rfl
  have hc : c = 3 := by omega
  subst hc
  apply hrows (by decide)

end Bill

end ForgeErp
