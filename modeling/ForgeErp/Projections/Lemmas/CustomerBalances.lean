import ForgeErp.Projections.Lemmas.CustomerBookings

/-!
This module contains the verification of the customer balances over whole runs: as long as every
step is sound the rows are the sums over the invoices, and behind a step that is not they are not.
-/

namespace ForgeErp

namespace CustomerBalancesProjection

variable [TextFormat Uuid] [TextFormat DateTime] (log : List StoredEvent)

section Register

variable {log} {s : Books} {key : StreamKey} {q : PartyId}

omit [TextFormat Uuid] [TextFormat DateTime] in
theorem alike_register {t : TenantId} (ht : t ≠ key.tenantId) : Alike s (s.register key q) t := by
  have hne : ∀ k : StreamKey, k.tenantId = t → k ≠ key := by
    intro k hk heq
    apply ht
    rw [← hk, heq]
  refine ⟨fun _ _ => rfl, ?_, fun _ _ => rfl, ?_, fun _ => rfl⟩
  . intro k hk
    exact (if_neg (hne k hk)).symm
  . intro k hk
    exact (KeyMap.get_insert_ne _ _ (hne k hk)).symm

theorem tracks_register (h : Tracks log s key.tenantId) (hseen : s.seen key = 0)
    : Tracks log (s.register key q) key.tenantId := by
  have hcustomer : ∀ k, k ≠ key → customerOf log (s.register key q) k = customerOf log s k := by
    intro k hk
    unfold customerOf Books.register
    simp only [hk, ↓reduceIte]
  have hbooked : ∀ p k, Booked log (s.register key q) key.tenantId p k
      ↔ Booked log s key.tenantId p k := by
    intro p k
    by_cases hk : k = key
    . subst hk
      exact ⟨fun hb => absurd hseen hb.2.1, fun hb => absurd hseen hb.2.1⟩
    . unfold Booked
      rw [hcustomer k hk]
      rfl
  have hsums : ∀ p value, sumOver log (s.register key q) key.tenantId p value
      = sumOver log s key.tenantId p value := by
    intro p value
    exact sumOver_congr (hbooked p) (fun _ _ => rfl)
  refine ⟨h.cursor, h.bound, ?_, ?_, ?_, ?_, ?_⟩
  . intro k hk
    have hside : (s.register key q).st.side.get k
        = if k = key then some ⟨q, 0, 0, .open⟩ else s.st.side.get k := KeyMap.get_insert _ _ _ _
    rw [hside]
    split
    . next heq =>
      subst heq
      have hinv : invoiceOf log (s.register k q) k = Invoice.empty ⟨k.aggregateId⟩ := by
        have : (s.register k q).seen k = 0 := hseen
        rw [invoiceOf, this]
        rfl
      have hself : customerOf log (s.register k q) k = some q := by
        unfold customerOf Books.register
        simp only [↓reduceIte]
      rw [hself, hinv]
      rfl
    . next hne =>
      rw [hcustomer k hne]
      exact h.mapping k hk
  . intro k p hb
    exact h.row k p ((hbooked p k).mp hb)
  . intro p row hrow
    rcases h.origin p row hrow with ⟨hid, hname, k, hb⟩
    exact ⟨hid, hname, k, (hbooked p k).mpr hb⟩
  . intro p
    have := h.amounts p
    exact ⟨this.totalInvoiced.trans (hsums p _).symm, this.totalPaid.trans (hsums p _).symm,
      this.outstandingBalance.trans (hsums p _).symm⟩
  . intro p
    exact (h.count p).trans (hsums p _).symm

end Register

section Runs

variable {log} (hlog : InvoiceLog log) (htype : ∀ e ∈ log, e.aggregateType = "invoicing.invoice")

variable (log) in
def Allowed (s : Books) (call : Call) : Prop :=
  Admissible log s call ∧ ∀ s', books.step s call = some s' → ∀ t, Fits log s' t

theorem tracks_blank {s : Books} {t : TenantId} (hstore : ∀ p, s.st.store.get t p = none)
    (hside : ∀ key : StreamKey, key.tenantId = t → s.st.side.get key = none)
    (hcursor : ∀ key : StreamKey, key.tenantId = t → s.st.getCursor key = 0)
    (hregistered : ∀ key : StreamKey, key.tenantId = t → s.registered key = none)
    (hseen : ∀ key : StreamKey, key.tenantId = t → s.seen key = 0)
    : Tracks log s t := by
  have hnot : ∀ p key, ¬ Booked log s t p key := fun p key hb => hb.2.1 (hseen key hb.1)
  have hsum : ∀ p value, sumOver log s t p value = 0 := by
    intro p value
    unfold sumOver invoicesOf
    rw [List.filter_eq_nil_iff.mpr]
    . rfl
    . intro key _ hb
      exact hnot p key (by simpa using hb)
  have hrow : ∀ p, rowOf s t p = .new p := by
    intro p
    rw [rowOf, hstore]
    rfl
  refine ⟨?_, ?_, ?_, fun key p hb => absurd hb (hnot p key), ?_, ?_, ?_⟩
  . intro key hkey
    rw [hcursor key hkey, hseen key hkey]
  . intro key hkey
    rw [hseen key hkey]
    omega
  . intro key hkey
    have hnone : customerOf log s key = none := by
      unfold customerOf
      rw [hregistered key hkey, hseen key hkey]
      rfl
    rw [hside key hkey, hnone]
    rfl
  . intro p row hget
    rw [hstore p] at hget
    cases hget
  . intro p
    rw [hrow]
    exact ⟨(hsum p _).symm, (hsum p _).symm, (hsum p _).symm⟩
  . intro p
    unfold CountHolds
    rw [hrow]
    exact (hsum p _).symm

theorem tracks_init {s : Books} (hinit : books.init s) (t : TenantId) : Tracks log s t := by
  rcases hinit with ⟨hstore, hside, hcursor, hregistered, hseen⟩
  apply tracks_blank _ _ (fun key _ => hcursor key) (fun key _ => hregistered key)
    (fun key _ => hseen key)
  . intro p
    rw [hstore]
    rfl
  . intro key _
    rw [hside]
    rfl

include hlog htype

theorem tracks_step {s s' : Books} {call : Call} (h : ∀ t, Tracks log s t)
    (hallowed : Allowed log s call) (hsound : Sound log s call)
    (hstep : books.step s call = some s')
    : ∀ t, Tracks log s' t := by
  intro t
  have hfits := hallowed.2 s' hstep
  cases call with
  | register key q =>
    cases hstep
    by_cases ht : t = key.tenantId
    . subst ht
      exact tracks_register (h key.tenantId) hallowed.1
    . exact (h t).alike (alike_register ht)
  | deliver now e =>
    cases hstep
    by_cases ht : t = e.tenantId
    . subst ht
      exact tracks_deliver hlog htype hallowed.1.1 hallowed.1.2 (h _) (hfits _) hsound
    . exact (h t).alike (alike_deliver ht)

theorem tracks_of_reachable {s : Books}
    (hs : books.ReachableUnder (fun s call => Allowed log s call ∧ Sound log s call) s)
    : ∀ t, Tracks log s t := by
  revert s
  apply Machine.ReachableUnder.invariant
  . intro s hinit
    exact tracks_init hinit
  . intro s call s' h hok hstep
    exact tracks_step hlog htype h hok.1 hok.2 hstep

theorem not_countHolds_of_not_sound {s s' : Books} {call : Call} (h : ∀ t, Tracks log s t)
    (hallowed : Allowed log s call) (hsound : ¬ Sound log s call)
    (hstep : books.step s call = some s')
    : ∃ t p, ¬ CountHolds log s' t p := by
  have hfits := hallowed.2 s' hstep
  cases call with
  | register key q => exact absurd trivial hsound
  | deliver now e =>
    cases hstep
    rcases deliver_outcome hlog htype hallowed.1.1 hallowed.1.2 (h _) (hfits _) with
      hknown | ⟨p, row, _, hbooking, hcount, _⟩
    . exact absurd hknown.2 hsound
    . refine ⟨e.tenantId, p, ?_⟩
      intro hholds
      apply hsound
      rw [← hcount]
      have hrow : rowOf (s.deliver now e) e.tenantId p = row := by
        have hget : (s.deliver now e).st.store.get e.tenantId p = some row := by
          rw [hbooking.store, InMemoryTenantStore.get_upsert]
          exact if_pos ⟨rfl, rfl⟩
        rw [rowOf, hget]
        rfl
      unfold CountHolds at hholds
      rw [hrow] at hholds
      exact hholds

theorem customer_balances_hold
    : (∀ s, books.ReachableUnder (fun s call => Allowed log s call ∧ Sound log s call) s →
        ∀ t p, AmountsHold log s t p (rowOf s t p) ∧ CountHolds log s t p)
      ∧ ∀ s call s',
          books.ReachableUnder (fun s call => Allowed log s call ∧ Sound log s call) s →
          Allowed log s call → books.step s call = some s' → ¬ Sound log s call →
          ∃ t p, ¬ CountHolds log s' t p := by
  constructor
  . intro s hs t p
    have := tracks_of_reachable hlog htype hs t
    exact ⟨this.amounts p, this.count p⟩
  . intro s call s' hs hallowed hstep hsound
    exact not_countHolds_of_not_sound hlog htype (tracks_of_reachable hlog htype hs) hallowed hsound
      hstep

end Runs

theorem invoicedOn_le {log : List StoredEvent} (hlog : InvoiceLog log) (s : Books) (key : StreamKey)
    : invoicedOn log s key ≤ Invoice.issuedTotal (eventsIn InvoiceEvent log key) := by
  have hlife := lifecycle_eventsIn hlog key
  have hafter : invoiceOf log s key
    = Invoice.after ⟨key.aggregateId⟩ (eventsIn InvoiceEvent log key)
      (min (s.seen key) (eventsIn InvoiceEvent log key).length) := by
    unfold invoiceOf Invoice.after
    rw [← List.take_eq_take_min]
  rw [invoicedOn, hafter, hlife.totalAmount_eq (Nat.min_le_right _ _)]
  apply Invoice.issuedTotal_take_le

theorem fits_of_issuedTotal {log : List StoredEvent} (hlog : InvoiceLog log)
    (h : ((keysIn log).map (fun k => Invoice.issuedTotal (eventsIn InvoiceEvent log k))).sum
      < 2 ^ 64)
    (s : Books) (t : TenantId) : Fits log s t := by
  intro p
  apply Nat.lt_of_le_of_lt _ h
  rw [sumOver_eq]
  apply List.sum_le_sum
  intro k _
  split
  . exact invoicedOn_le hlog s k
  . omega

end CustomerBalancesProjection

-- Two invoices of one customer, the first of which is voided after it has been paid.
namespace Bill

open Concrete CustomerBalancesProjection

def tenantId : TenantId := ⟨⟨1⟩⟩

def customer : PartyId := ⟨⟨⟨9⟩⟩⟩

def salesOrderId : SalesOrderId := ⟨⟨⟨7⟩⟩⟩

def first : StreamKey := ⟨tenantId, ⟨⟨2⟩⟩⟩

def second : StreamKey := ⟨tenantId, ⟨⟨3⟩⟩⟩

def lines : List InvoiceLine :=
  [⟨1, salesOrderId, ⟨⟨⟨8⟩⟩⟩, 1, 100⟩]

def issued (key : StreamKey) : InvoiceEvent :=
  .invoiceIssued ⟨tenantId, ⟨key.aggregateId⟩, salesOrderId, lines, ⟨0⟩, 100, ⟨0⟩⟩

def paid (key : StreamKey) : InvoiceEvent :=
  .paymentRegistered ⟨tenantId, ⟨key.aggregateId⟩, 100, 100, ⟨0⟩⟩

def voided (key : StreamKey) : InvoiceEvent :=
  .invoiceVoided ⟨tenantId, ⟨key.aggregateId⟩, none, ⟨0⟩⟩

def streams : List (StreamKey × List InvoiceEvent) :=
  [(first, [issued first, paid first, voided first]), (second, [issued second])]

def log : List StoredEvent :=
  recordedLog "invoicing.invoice" streams

theorem streams_nodup : (streams.map (·.1)).Nodup := by
  simp [streams, first, second]

theorem produced_issued (key : StreamKey)
    : Invoice.aggregate.Produced (fun command : InvoiceCommand => command.tenantId = tenantId)
        (Invoice.empty ⟨key.aggregateId⟩) ([] ++ [issued key]) :=
  .step (.issueInvoice ⟨tenantId, ⟨key.aggregateId⟩, salesOrderId, lines, ⟨0⟩, ⟨0⟩⟩
    : InvoiceCommand)
    .nil rfl rfl

theorem produced_voided
    : Invoice.aggregate.Produced (fun command : InvoiceCommand => command.tenantId = tenantId)
        (Invoice.empty ⟨first.aggregateId⟩)
        ((([] ++ [issued first]) ++ [paid first]) ++ [voided first]) := by
  refine .step (.voidInvoice ⟨tenantId, ⟨first.aggregateId⟩, none, ⟨0⟩⟩ : InvoiceCommand) ?_ rfl rfl
  exact .step (.registerPayment ⟨tenantId, ⟨first.aggregateId⟩, 100, ⟨0⟩⟩ : InvoiceCommand)
    (produced_issued first) rfl rfl

theorem log_produced : InvoiceLog log := by
  apply producedLog_recordedLog streams_nodup
  . intro s hs
    simp only [streams, List.mem_cons, List.not_mem_nil, or_false] at hs
    rcases hs with rfl | rfl
    . exact produced_voided
    . exact produced_issued second
  . intro key
    exact .nil

theorem log_type : ∀ e ∈ log, e.aggregateType = "invoicing.invoice" :=
  type_recordedLog

theorem events_first : eventsIn InvoiceEvent log first = [issued first, paid first, voided first] :=
  eventsIn_recordedLog streams_nodup (by simp [streams])

theorem events_second : eventsIn InvoiceEvent log second = [issued second] :=
  eventsIn_recordedLog streams_nodup (by simp [streams])

theorem keysIn_log : keysIn log = [first, second] := by
  decide

theorem log_fits (s : Books) (t : TenantId) : Fits log s t := by
  apply fits_of_issuedTotal log_produced
  rw [keysIn_log]
  simp [events_first, events_second, Invoice.issuedTotal, issued, paid, voided]

def start : Books :=
  ⟨new, fun _ => none, fun _ => 0⟩

theorem start_init : books.init start :=
  ⟨rfl, rfl, fun _ => rfl, fun _ => rfl, fun _ => rfl⟩

def event (key : StreamKey) (n : Nat) (ev : InvoiceEvent) : StoredEvent where
  eventId := ⟨BitVec.ofNat 128 n⟩
  tenantId := key.tenantId
  aggregateId := key.aggregateId
  aggregateType := "invoicing.invoice"
  sequenceNumber := n
  eventType := Event.eventType ev
  eventVersion := Event.version ev
  occurredAt := Event.occurredAt ev
  payload := Codec.enc ev

theorem log_eq
    : log = [event first 1 (issued first), event first 2 (paid first), event first 3 (voided first),
        event second 1 (issued second)] := rfl

theorem reachable_deliver {s : Books} {ok : Books → Call → Prop} {key : StreamKey} {n : Nat}
    {ev : InvoiceEvent} (hs : books.ReachableUnder (fun s call => Allowed log s call ∧ ok s call) s)
    (hmem : event key n ev ∈ log) (hle : n ≤ s.seen key + 1)
    (hok : ok s (.deliver ⟨0⟩ (event key n ev)))
    : books.ReachableUnder (fun s call => Allowed log s call ∧ ok s call)
        (s.deliver ⟨0⟩ (event key n ev)) :=
  .step (a := .deliver ⟨0⟩ (event key n ev)) hs
    ⟨⟨⟨hmem, hle⟩, fun s' _ t => log_fits s' t⟩, hok⟩ rfl

theorem reachable_register {s : Books} {ok : Books → Call → Prop} {key : StreamKey}
    (hs : books.ReachableUnder (fun s call => Allowed log s call ∧ ok s call) s)
    (hseen : s.seen key = 0) (hok : ok s (.register key customer))
    : books.ReachableUnder (fun s call => Allowed log s call ∧ ok s call)
        (s.register key customer) :=
  .step (a := .register key customer) hs ⟨⟨hseen, fun s' _ t => log_fits s' t⟩, hok⟩ rfl

def registered : Books :=
  (start.register first customer).register second customer

def atSecond : Books :=
  registered.deliver ⟨0⟩ (event second 1 (issued second))

def atVoid : Books :=
  ((atSecond.deliver ⟨0⟩ (event first 1 (issued first))).deliver ⟨0⟩
    (event first 2 (paid first))).deliver ⟨0⟩ (event first 3 (voided first))

-- The second invoice is open, and the row counts no open invoice.
theorem void_of_paid_decrements
    : InvoiceLog log
      ∧ (∀ e ∈ log, e.aggregateType = "invoicing.invoice")
      ∧ books.ReachableUnder (Allowed log) atVoid
      ∧ ¬ CountHolds log atVoid tenantId customer := by
  refine ⟨log_produced, log_type, ?_, ?_⟩
  . have hregistered : books.ReachableUnder (fun s call => Allowed log s call ∧ True)
      registered := by
      apply reachable_register _ rfl trivial
      apply reachable_register (.init start_init) rfl trivial
    have hvoid : books.ReachableUnder (fun s call => Allowed log s call ∧ True) atVoid := by
      apply reachable_deliver _ (by simp [log_eq]) (by decide) trivial
      apply reachable_deliver _ (by simp [log_eq]) (by decide) trivial
      apply reachable_deliver _ (by simp [log_eq]) (by decide) trivial
      exact reachable_deliver hregistered (by simp [log_eq]) (by decide) trivial
    exact hvoid.mono (fun _ _ hok => hok.1)
  . intro hcount
    have hzero : (rowOf atVoid tenantId customer).openInvoiceCount = 0 := by rfl
    have hopen : openOn log atVoid second = 1 := by
      have hseen : atVoid.seen second = 1 := by decide
      rw [openOn, invoiceOf, events_second, hseen]
      rfl
    have hbooked : Booked log atVoid tenantId customer second := ⟨rfl, by decide, rfl⟩
    have hle := @le_sumOver _ _ log atVoid second tenantId customer (openOn log atVoid)
      (by simp [keysIn_log]) hbooked
    rw [CountHolds, hzero] at hcount
    rw [hopen] at hle
    have : (0 : UInt32).toNat = 0 := rfl
    omega

def atPayment : Books :=
  ((atSecond.deliver ⟨0⟩ (event first 1 (issued first))).deliver ⟨0⟩
    (event second 1 (issued second))).deliver ⟨0⟩ (event first 2 (paid first))

-- Two invoices of one customer, one of which is paid; the other one is delivered twice.
theorem customer_balances_hold_payment
    : ∃ s, books.ReachableUnder (fun s call => Allowed log s call ∧ Sound log s call) s
        ∧ s.seen first = 2
        ∧ (rowOf s tenantId customer).totalInvoiced = 200
        ∧ (rowOf s tenantId customer).totalPaid = 100
        ∧ ∀ t p, AmountsHold log s t p (rowOf s t p) ∧ CountHolds log s t p := by
  have hregistered : books.ReachableUnder (fun s call => Allowed log s call ∧ Sound log s call)
      registered := by
    apply reachable_register _ rfl trivial
    apply reachable_register (.init start_init) rfl trivial
  have hsecond : books.ReachableUnder (fun s call => Allowed log s call ∧ Sound log s call)
      atSecond := by
    apply reachable_deliver hregistered (by simp [log_eq]) (by decide)
    have hkey : (event second 1 (issued second)).key = second := rfl
    have hseen : registered.seen second = 0 := rfl
    intro _
    rw [hkey, hseen, events_second]
    have hlt : sumOver log registered tenantId customer (openOn log registered) + 1 < 2 ^ 32 := by
      rw [sumOver_eq, keysIn_log]
      decide
    exact hlt
  have hpayment : books.ReachableUnder (fun s call => Allowed log s call ∧ Sound log s call)
      atPayment := by
    apply reachable_deliver _ (by simp [log_eq]) (by decide)
    . have hkey : (event first 2 (paid first)).key = first := rfl
      intro _
      rw [hkey, events_first]
      trivial
    . apply reachable_deliver _ (by simp [log_eq]) (by decide)
      . intro hnext
        exact absurd hnext (by decide)
      . apply reachable_deliver hsecond (by simp [log_eq]) (by decide)
        have hkey : (event first 1 (issued first)).key = first := rfl
        have hseen : atSecond.seen first = 0 := rfl
        intro _
        rw [hkey, hseen, events_first]
        have hlt : sumOver log atSecond tenantId customer (openOn log atSecond) + 1 < 2 ^ 32 := by
          have hcount : CountHolds log atSecond tenantId customer :=
            (tracks_of_reachable log_produced log_type hsecond tenantId).count customer
          unfold CountHolds at hcount
          rw [← hcount]
          have hone : (rowOf atSecond tenantId customer).openInvoiceCount = 1 := rfl
          rw [hone]
          decide
        exact hlt
  exact ⟨atPayment, hpayment, by decide, rfl, rfl,
    (customer_balances_hold log_produced log_type).1 atPayment hpayment⟩

end Bill

end ForgeErp
