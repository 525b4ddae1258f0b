import ForgeErp.Dispatcher.Lemmas.Identity
import ForgeErp.Saga.Runner

/-!
This module contains the verification of which events reach the saga of the sales orders. `react`
looks for the tag of an event, as the serializer writes it. `correlate` looks for the fields of an
event at the place of the tag.
-/

namespace ForgeErp

open CommandDispatcher

namespace AggregateKind

-- The names that the routes dispatch with.
def aggregateType (kind : AggregateKind) : String :=
  match kind with
  | .inventoryItem => "inventory.item"
  | .invoice => "invoicing.invoice"
  | .ledger => "accounting.ledger"
  | .user => "auth.user"
  | .salesOrder => "sales.order"
  | .purchaseOrder => "purchasing.order"
  | .party => "parties.party"
  | .product => "products.product"

theorem tags_no_field {kind : AggregateKind} {tag : String} (h : tag ∈ kind.tags)
    : tag ≠ "order_id" ∧ tag ≠ "sales_order_id" ∧ tag ≠ "type" := by
  have hall : ∀ tag ∈ kind.tags, tag ≠ "order_id" ∧ tag ≠ "sales_order_id" ∧ tag ≠ "type" := by
    cases kind <;> decide
  apply hall tag h

end AggregateKind

theorem lookup_other {tag name : String} {body : JsonValue} (hne : tag ≠ name)
    : List.lookup name [(tag, body)] = none := by
  rw [Codec.lookup_cons_ne hne.symm]
  rfl

/--
The payload of some event, under its tag.
-/
def TaggedPayload (payload : JsonValue) : Prop :=
  ∃ (kind : AggregateKind) (tag : String) (body : JsonValue),
    payload = .object [(tag, body)] ∧ tag ∈ kind.tags

namespace SalesArSaga

/--
An object without the field that says which event it is.
-/
def Untyped (payload : JsonValue) : Prop :=
  ∃ fields, payload = .object fields ∧ fields.lookup "type" = none

theorem fromValue_of_untyped {payload : JsonValue} (h : Untyped payload)
    : ∃ msg, (Serde.fromValue payload : Except String SalesArSagaEvent) = .error msg := by
  rcases h with ⟨fields, rfl, htype⟩
  refine ⟨s!"missing field type", ?_⟩
  dsimp only [Serde.fromValue, Codec.dec, Codec.tagged]
  rw [htype]
  rfl

theorem untyped_of_tagged {payload : JsonValue} (h : TaggedPayload payload) : Untyped payload := by
  rcases h with ⟨kind, tag, body, rfl, htag⟩
  rcases AggregateKind.tags_no_field htag with ⟨-, -, htype⟩
  exact ⟨_, rfl, lookup_other htype⟩

theorem publishAll_channel (sent : List (EventEnvelope JsonValue)) (committed : List StoredEvent)
    : publishAll channel sent committed
        = (.ok (), sent ++ committed.map StoredEvent.toEnvelope) := by
  induction committed generalizing sent with
  | nil => simp [publishAll]
  | cons stored rest ih =>
    refine (ih (sent ++ [stored.toEnvelope])).trans ?_
    simp

variable [TextFormat Uuid]

theorem correlate_of_tagged {envelope : EventEnvelope JsonValue}
    (h : TaggedPayload envelope.payload)
    : correlate envelope = none := by
  rcases h with ⟨kind, tag, body, hpayload, htag⟩
  rcases AggregateKind.tags_no_field htag with ⟨horder, hinvoice, -⟩
  unfold correlate
  rw [hpayload]
  split
  . simp only [orderIdIn, lookup_other horder]
  . simp only [orderIdIn, lookup_other hinvoice]
  . rfl
  . rfl

variable [TextFormat DateTime]

section React

variable {entryId : Uuid} {now : DateTime} {tenantId : TenantId} {correlation : SalesOrderId}
  {envelope : EventEnvelope JsonValue}

theorem react_waitingForOrderConfirmed
    : react entryId now .waitingForOrderConfirmed tenantId correlation envelope ≠ []
        ↔ envelope.aggregateType = "sales.order"
          ∧ ∃ body rest, envelope.payload = .object (("OrderConfirmed", body) :: rest) := by
  constructor
  . intro hreact
    unfold react at hreact
    dsimp only at hreact
    split at hreact
    . next htype =>
      split at hreact
      . next evtVariant body rest hpayload =>
        split at hreact
        . next hvariant =>
          rw [hvariant] at hpayload
          exact ⟨htype, body, rest, hpayload⟩
        . exact absurd rfl hreact
      . exact absurd rfl hreact
    . exact absurd rfl hreact
  . rintro ⟨htype, body, rest, hpayload⟩
    simp [react, htype, hpayload, onOrderConfirmed]

theorem react_waitingForInvoiceIssued
    : react entryId now .waitingForInvoiceIssued tenantId correlation envelope ≠ []
        ↔ envelope.aggregateType = "invoicing.invoice"
          ∧ ∃ obj evt invoiceId, envelope.payload = .object obj
            ∧ obj.lookup "InvoiceIssued" = some (.object evt)
            ∧ evt.lookup "invoice_id" = some (.string invoiceId) := by
  constructor
  . intro hreact
    unfold react at hreact
    dsimp only at hreact
    split at hreact
    . next htype =>
      split at hreact
      . next obj hpayload =>
        split at hreact
        . next evt hevt =>
          split at hreact
          . next invoiceId hid => exact ⟨htype, obj, evt, invoiceId, hpayload, hevt, hid⟩
          . exact absurd rfl hreact
        . exact absurd rfl hreact
      . exact absurd rfl hreact
    . exact absurd rfl hreact
  . rintro ⟨htype, obj, evt, invoiceId, hpayload, hevt, hid⟩
    simp [react, htype, hpayload, hevt, hid, onInvoiceIssued]

theorem react_waitingForLedgerPosted {invoiceId : String}
    : react entryId now (.waitingForLedgerPosted invoiceId) tenantId correlation envelope ≠ []
        ↔ envelope.aggregateType = "accounting.ledger"
          ∧ ∃ obj body, envelope.payload = .object obj
            ∧ obj.lookup "JournalEntryPosted" = some body := by
  constructor
  . intro hreact
    unfold react at hreact
    dsimp only at hreact
    split at hreact
    . next htype =>
      split at hreact
      . next obj hpayload =>
        split at hreact
        . next body hbody => exact ⟨htype, obj, body, hpayload, hbody⟩
        . exact absurd rfl hreact
      . exact absurd rfl hreact
    . exact absurd rfl hreact
  . rintro ⟨htype, obj, body, hpayload, hbody⟩
    simp [react, htype, hpayload, hbody]

end React

/--
Some state of some saga reacts to the event.
-/
def Answered (envelope : EventEnvelope JsonValue) : Prop :=
  ∃ entryId now state tenantId correlation,
    react entryId now state tenantId correlation envelope ≠ []

theorem answered_iff (envelope : EventEnvelope JsonValue)
    : Answered envelope
        ↔ (envelope.aggregateType = "sales.order"
            ∧ ∃ body rest, envelope.payload = .object (("OrderConfirmed", body) :: rest))
          ∨ (envelope.aggregateType = "invoicing.invoice"
            ∧ ∃ obj evt invoiceId, envelope.payload = .object obj
              ∧ obj.lookup "InvoiceIssued" = some (.object evt)
              ∧ evt.lookup "invoice_id" = some (.string invoiceId))
          ∨ (envelope.aggregateType = "accounting.ledger"
            ∧ ∃ obj body, envelope.payload = .object obj
              ∧ obj.lookup "JournalEntryPosted" = some body) := by
  constructor
  . rintro ⟨entryId, now, state, tenantId, correlation, hreact⟩
    cases state with
    | waitingForOrderConfirmed => exact .inl (react_waitingForOrderConfirmed.mp hreact)
    | waitingForInvoiceIssued => exact .inr (.inl (react_waitingForInvoiceIssued.mp hreact))
    | waitingForLedgerPosted => exact .inr (.inr (react_waitingForLedgerPosted.mp hreact))
    | completed => exact absurd rfl hreact
    | failed => exact absurd rfl hreact
  . rintro (h | h | h)
    . exact ⟨⟨0⟩, ⟨0⟩, .waitingForOrderConfirmed, ⟨⟨0⟩⟩, ⟨⟨⟨0⟩⟩⟩,
        react_waitingForOrderConfirmed.mpr h⟩
    . exact ⟨⟨0⟩, ⟨0⟩, .waitingForInvoiceIssued, ⟨⟨0⟩⟩, ⟨⟨⟨0⟩⟩⟩,
        react_waitingForInvoiceIssued.mpr h⟩
    . exact ⟨⟨0⟩, ⟨0⟩, .waitingForLedgerPosted "", ⟨⟨0⟩⟩, ⟨⟨⟨0⟩⟩⟩,
        react_waitingForLedgerPosted.mpr h⟩

theorem answered_salesOrder {ev : SalesOrderEvent} {envelope : EventEnvelope JsonValue}
    (htype : envelope.aggregateType = "sales.order") (hpayload : envelope.payload = Codec.enc ev)
    : Answered envelope ↔ ∃ e, ev = .orderConfirmed e := by
  rw [answered_iff, htype, hpayload]
  cases ev with
  | salesOrderCreated e => simp [Codec.enc]
  | lineAdded e => simp [Codec.enc]
  | orderConfirmed e => simp [Codec.enc]
  | orderInvoiced e => simp [Codec.enc]

theorem answered_invoice {ev : InvoiceEvent} {envelope : EventEnvelope JsonValue}
    (htype : envelope.aggregateType = "invoicing.invoice")
    (hpayload : envelope.payload = Codec.enc ev)
    : Answered envelope ↔ ∃ e, ev = .invoiceIssued e := by
  rw [answered_iff, htype, hpayload]
  cases ev with
  | invoiceIssued e => simp [Codec.enc]
  | paymentRegistered e => simp [Codec.enc]
  | invoiceVoided e => simp [Codec.enc]

theorem answered_ledger {ev : LedgerEvent} {envelope : EventEnvelope JsonValue}
    (htype : envelope.aggregateType = "accounting.ledger")
    (hpayload : envelope.payload = Codec.enc ev)
    : Answered envelope ↔ ∃ e, ev = .journalEntryPosted e := by
  rw [answered_iff, htype, hpayload]
  cases ev with
  | journalEntryPosted e => simp [Codec.enc]

theorem foldl_advance_of_untyped {history : List StoredEvent} (h : ∀ e ∈ history, Untyped e.payload)
    (state : SalesArSagaState)
    : history.foldl (Saga.rehydrate.advance saga) state = state := by
  induction history with
  | nil => rfl
  | cons e history ih =>
    rcases fromValue_of_untyped (h e (by simp)) with ⟨msg, hmsg⟩
    have hskipped : Saga.rehydrate.advance saga state e = state := by
      unfold Saga.rehydrate.advance
      rw [hmsg]
    rw [List.foldl_cons, hskipped]
    apply ih
    intro e' he'
    apply h e' (by simp [he'])

theorem rehydrate_of_tagged {store : InMemoryEventStore} {tenantId : TenantId}
    {orderId : SalesOrderId}
    (h : ∀ e ∈ store.loadStream ⟨tenantId, orderId.aggregateId⟩, TaggedPayload e.payload)
    : saga.rehydrate store tenantId orderId = .waitingForOrderConfirmed := by
  apply foldl_advance_of_untyped
  intro e he
  apply untyped_of_tagged (h e he)

variable [Lowercase]

def Awaited (kind : AggregateKind) : kind.aggregate.Event → Prop :=
  match kind with
  | .salesOrder => fun ev => ∃ e, ev = SalesOrderEvent.orderConfirmed e
  | .invoice => fun ev => ∃ e, ev = InvoiceEvent.invoiceIssued e
  | .ledger => fun ev => ∃ e, ev = LedgerEvent.journalEntryPosted e
  | _ => fun _ => False

theorem answered_iff_awaited {kind : AggregateKind} {ev : kind.aggregate.Event}
    {envelope : EventEnvelope JsonValue} (htype : envelope.aggregateType = kind.aggregateType)
    (hpayload : envelope.payload = Codec.enc ev) : Answered envelope ↔ Awaited kind ev := by
  cases kind with
  | salesOrder => apply answered_salesOrder htype hpayload
  | invoice => apply answered_invoice htype hpayload
  | ledger => apply answered_ledger htype hpayload
  | inventoryItem => simp [answered_iff, htype, AggregateKind.aggregateType, Awaited]
  | user => simp [answered_iff, htype, AggregateKind.aggregateType, Awaited]
  | purchaseOrder => simp [answered_iff, htype, AggregateKind.aggregateType, Awaited]
  | party => simp [answered_iff, htype, AggregateKind.aggregateType, Awaited]
  | product => simp [answered_iff, htype, AggregateKind.aggregateType, Awaited]

theorem taggedPayload_of_decoded {kind : AggregateKind} {ev : kind.aggregate.Event}
    {payload : JsonValue} (h : Serde.fromValue payload = .ok ev) : TaggedPayload payload := by
  rcases AggregateKind.tag_of_decoded h with ⟨tag, body, rfl, htag⟩
  exact ⟨kind, tag, body, rfl, htag⟩

theorem taggedPayload_of_streamOf {kind : AggregateKind} {stream : List StoredEvent}
    {evs : List kind.aggregate.Event} (h : StreamOf stream evs)
    : ∀ e ∈ stream, TaggedPayload e.payload := by
  intro e he
  rcases List.getElem?_of_mem he with ⟨i, hi⟩
  rcases h.getElem? hi with ⟨ev, -, hev⟩
  apply taggedPayload_of_decoded hev

structure Inv (s : InMemoryEventStore × List (EventEnvelope JsonValue)) : Prop where
  reachable : s.1.Reachable
  stored : ∀ key, ∀ e ∈ s.1.loadStream key, TaggedPayload e.payload
  published : ∀ envelope ∈ s.2, TaggedPayload envelope.payload

theorem Inv.dispatch {s : InMemoryEventStore × List (EventEnvelope JsonValue)} (h : Inv s)
    (call : DispatchCall) : Inv (call.perform channel s.1 s.2).2 := by
  have hreachable := call.perform_reachable channel h.reachable s.2
  have houtcome := call.perform_outcome channel h.reachable s.2
  generalize call.perform channel s.1 s.2 = result at hreachable houtcome ⊢
  cases houtcome with
  | failed => exact h
  | nothing => exact h
  | @stored _ _ committed hdecides =>
    have htagged := taggedPayload_of_streamOf hdecides.streamOf
    refine ⟨hreachable, ?_, ?_⟩
    . intro key e he
      dsimp only at he
      rw [InMemoryEventStore.loadStream_insert] at he
      split at he
      . rcases List.mem_append.mp he with he | he
        . apply h.stored _ e he
        . apply htagged e he
      . apply h.stored key e he
    . intro envelope henvelope
      dsimp only at henvelope
      rw [publishAll_channel] at henvelope
      rcases List.mem_append.mp henvelope with henvelope | henvelope
      . apply h.published envelope henvelope
      . rcases List.mem_map.mp henvelope with ⟨e, he, rfl⟩
        apply htagged e he

theorem inv_step {defaultLedgerId : AggregateId}
    {s s' : InMemoryEventStore × List (EventEnvelope JsonValue)} {action : Action} (h : Inv s)
    (hstep : (runs defaultLedgerId).step s action = some s') : Inv s' := by
  cases action with
  | dispatch call =>
    cases hstep
    apply h.dispatch call
  | receive n env =>
    rcases Option.map_eq_some_iff.mp hstep with ⟨envelope, henvelope, rfl⟩
    unfold receive
    rw [correlate_of_tagged (h.published envelope (List.mem_of_getElem? henvelope))]
    exact h

theorem inv_of_reachable {defaultLedgerId : AggregateId}
    {s : InMemoryEventStore × List (EventEnvelope JsonValue)}
    (hs : (runs defaultLedgerId).Reachable s) : Inv s := by
  apply Machine.Reachable.invariant _ _ s hs
  . rintro _ rfl
    refine ⟨.new, ?_, ?_⟩
    . intro key e he
      cases he
    . intro envelope henvelope
      cases henvelope
  . intro s action s' h hstep
    apply inv_step h hstep

theorem answered_never_correlated (defaultLedgerId : AggregateId)
    (s : InMemoryEventStore × List (EventEnvelope JsonValue))
    (hs : (runs defaultLedgerId).Reachable s)
    : (∀ (kind : AggregateKind) (ev : kind.aggregate.Event) (key : StreamKey) (eventId : Uuid)
        (n : Nat) (u : UncommittedEvent),
        UncommittedEvent.fromTyped key.tenantId key.aggregateId kind.aggregateType eventId ev
          = .ok u →
          (Answered (u.toStored n).toEnvelope ↔ Awaited kind ev)
          ∧ correlate (u.toStored n).toEnvelope = none)
      ∧ ∀ tenantId orderId, saga.rehydrate s.1 tenantId orderId = .waitingForOrderConfirmed := by
  constructor
  . intro kind ev key eventId n u hu
    cases hu
    refine ⟨answered_iff_awaited rfl rfl, correlate_of_tagged ?_⟩
    apply taggedPayload_of_decoded (Serde.fromValue_toValue (rfl : Serde.toValue ev = _))
  . intro tenantId orderId
    apply rehydrate_of_tagged
    exact (inv_of_reachable hs).stored ⟨tenantId, orderId.aggregateId⟩

end SalesArSaga

namespace Shop

open Concrete SalesArSaga

def key : StreamKey := ⟨⟨⟨1⟩⟩, ⟨⟨2⟩⟩⟩

def orderId : SalesOrderId := ⟨key.aggregateId⟩

def call (command : SalesOrderCommand) (freshId : Uuid) : DispatchCall where
  kind := .salesOrder
  key
  aggregateType := "sales.order"
  command := command
  freshId _ := freshId

def env : Surroundings where
  uuid _ _ := ⟨20⟩
  now _ _ := ⟨0⟩
  order := none

def actions : List Action := [
  .dispatch (call (.createSalesOrder ⟨key.tenantId, orderId, ⟨0⟩⟩) ⟨10⟩),
  .dispatch (call (.addLine ⟨key.tenantId, orderId, ⟨⟨⟨8⟩⟩⟩, 3, 100, ⟨0⟩⟩) ⟨11⟩),
  .dispatch (call (.confirmOrder ⟨key.tenantId, orderId, ⟨0⟩⟩) ⟨12⟩),
  .receive 0 env,
  .receive 1 env,
  .receive 2 env]

def ledgerId : AggregateId := ⟨⟨9⟩⟩

def confirmed : InMemoryEventStore × List (EventEnvelope JsonValue) :=
  ((runs ledgerId).run (.new, []) actions).getD (.new, [])

theorem confirmed_reachable : (runs ledgerId).Reachable confirmed := by
  apply Machine.ReachableUnder.run (.init rfl) (fun _ _ _ => trivial)
  exact (rfl : (runs ledgerId).run (.new, []) actions = some confirmed)

theorem answered_never_correlated_confirmed
    : (applyHistory SalesOrder.aggregate (SalesOrder.empty orderId)
          (confirmed.1.loadStream key)).toOption.map SalesOrder.status = some .confirmed
      ∧ confirmed.2.length = 3
      ∧ saga.rehydrate confirmed.1 key.tenantId orderId = .waitingForOrderConfirmed := by
  refine ⟨rfl, rfl, ?_⟩
  exact (answered_never_correlated ledgerId confirmed confirmed_reachable).2 key.tenantId orderId

-- The confirmation of the order is answered, but nobody learns which order it is of.
theorem confirmation_uncorrelated
    : ∃ u, UncommittedEvent.fromTyped key.tenantId key.aggregateId "sales.order" ⟨12⟩
          (SalesOrderEvent.orderConfirmed ⟨key.tenantId, orderId, ⟨0⟩⟩) = .ok u
        ∧ react ⟨20⟩ ⟨0⟩ .waitingForOrderConfirmed key.tenantId orderId
            (u.toStored 3).toEnvelope ≠ []
        ∧ correlate (u.toStored 3).toEnvelope ≠ some orderId := by
  refine ⟨_, rfl, ?_, ?_⟩
  . simp [react, onOrderConfirmed, StoredEvent.toEnvelope, UncommittedEvent.toStored, Codec.enc]
  . intro h
    cases h

end Shop

end ForgeErp
