import ForgeErp.Dispatcher.Lemmas.Retry
import ForgeErp.Domain.Lemmas.Identity

/-!
This module contains the identity of streams over whole runs of `dispatch` calls: which events a
stream can contain, given that the calls carry the right identifiers where nobody checks them.
-/

namespace ForgeErp

open CommandDispatcher

namespace AggregateKind

-- The tags of the events of each kind in JSON.
def tags (kind : AggregateKind) : List String :=
  match kind with
  | .inventoryItem => ["ItemCreated", "StockAdjusted"]
  | .invoice => ["InvoiceIssued", "PaymentRegistered", "InvoiceVoided"]
  | .ledger => ["JournalEntryPosted"]
  | .user => ["Created", "RoleAssigned", "RoleRevoked", "Suspended", "Activated"]
  | .salesOrder => ["SalesOrderCreated", "LineAdded", "OrderConfirmed", "OrderInvoiced"]
  | .purchaseOrder =>
    ["PurchaseOrderCreated", "PurchaseOrderLineAdded", "PurchaseOrderApproved", "GoodsReceived"]
  | .party => ["PartyRegistered", "PartyUpdated", "PartySuspended"]
  | .product => ["ProductCreated", "ProductActivated", "ProductArchived"]

theorem tags_disjoint {kind kind' : AggregateKind} {tag : String} (h : tag ∈ kind.tags)
    (h' : tag ∈ kind'.tags) : kind = kind' := by
  have hall : ∀ kind kind' : AggregateKind, ∀ tag ∈ kind.tags, tag ∈ kind'.tags → kind = kind' := by
    intro kind kind'
    cases kind <;> cases kind' <;> decide
  exact hall kind kind' tag h h'

end AggregateKind

section Runs

variable [TextFormat Uuid] [TextFormat DateTime] [Lowercase]

namespace AggregateKind

theorem tag_of_decoded {kind : AggregateKind} {j : JsonValue} {ev : kind.aggregate.Event}
    (h : Serde.fromValue j = .ok ev) : ∃ tag body, j = .object [(tag, body)] ∧ tag ∈ kind.tags := by
  cases kind <;> exact Codec.variant_eq_ok h

theorem kind_unique {kind kind' : AggregateKind} {j : JsonValue} {ev : kind.aggregate.Event}
    {ev' : kind'.aggregate.Event} (h : Serde.fromValue j = .ok ev)
    (h' : Serde.fromValue j = .ok ev') : kind = kind' := by
  rcases tag_of_decoded h with ⟨tag, body, rfl, htag⟩
  rcases tag_of_decoded h' with ⟨tag', body', heq, htag'⟩
  simp only [JsonValue.object.injEq, List.cons.injEq, Prod.mk.injEq, and_true] at heq
  rw [← heq.1] at htag'
  exact tags_disjoint htag htag'

theorem kind_unique_of_stream {kind kind' : AggregateKind} {stream : List StoredEvent}
    {evs : List kind.aggregate.Event} {evs' : List kind'.aggregate.Event} (hne : evs' ≠ [])
    (h : decodeStream stream = some evs) (h' : StreamOf stream evs') : kind = kind' := by
  cases h' with
  | nil => exact absurd rfl hne
  | @cons e ev' es evs' hhead _ =>
    unfold decodeStream at h
    split at h
    . next ev rest hev _ => exact kind_unique hev (Serde.fromValue_toValue hhead.payload)
    . cases h

end AggregateKind

inductive OwnStream (key : StreamKey) : List StoredEvent → Prop where
  | nil : OwnStream key []
  | of {kind : AggregateKind} {stream : List StoredEvent} {evs : List kind.aggregate.Event} :
      evs ≠ [] →
      StreamOf stream evs →
      (∀ ev ∈ evs, kind.tenantOf ev = key.tenantId ∧ kind.idOf ev = key.aggregateId) →
      kind.Owned key.tenantId key.aggregateId
        (kind.aggregate.rehydrate (kind.makeAggregate key.tenantId key.aggregateId) evs) →
      OwnStream key stream

def DispatchCall.Honest (call : DispatchCall) (store : InMemoryEventStore) : Prop :=
  call.kind.Honest call.key.tenantId call.key.aggregateId (store.loadStream call.key = [])
    call.command

theorem OwnStream.extend {kind : AggregateKind} {key : StreamKey} {aggregateType : String}
    {command : kind.aggregate.Command} {stream committed : List StoredEvent} {freshId : Nat → Uuid}
    {state : kind.aggregate.State} {decided : List kind.aggregate.Event}
    (hstream : OwnStream key stream)
    (hwf : InMemoryEventStore.WellFormedStream key stream)
    (hhonest : kind.Honest key.tenantId key.aggregateId (stream = []) command)
    (hdecides : Decides (kind.request key aggregateType command) stream freshId state decided
      committed)
    : OwnStream key (stream ++ committed) := by
  have happlied : applyHistory kind.aggregate (kind.makeAggregate key.tenantId key.aggregateId)
      stream = .ok state := hdecides.applied
  rw [applyHistory_eq_go hwf] at happlied
  rcases applyHistory_go_eq_ok happlied with ⟨evs, hdecode, hstate⟩
  cases hstream with
  | nil =>
    cases hdecode
    rcases AggregateKind.handle_keeps_ids (Or.inl ⟨rfl, hstate⟩) hhonest hdecides.handle with
      ⟨ev, rfl, htenant, hid, howned⟩
    have hne : ([ev] : List kind.aggregate.Event) ≠ [] := by simp
    apply OwnStream.of hne
    . exact hdecides.streamOf
    . simp [htenant, hid]
    . rw [hstate] at howned
      exact howned
  | @of kind' _ evs' hne hof hids howned =>
    have hkind := AggregateKind.kind_unique_of_stream hne hdecode hof
    subst hkind
    have hevs : evs = evs' := by
      rw [hof.decodeStream_eq] at hdecode
      exact (Option.some.inj hdecode).symm
    subst hevs
    rw [← hstate] at howned
    rcases AggregateKind.handle_keeps_ids (Or.inr howned) hhonest hdecides.handle with
      ⟨ev, rfl, htenant, hid, howned'⟩
    have hne : (evs ++ [ev] : List kind.aggregate.Event) ≠ [] := by simp
    apply OwnStream.of hne
    . apply hof.append hdecides.streamOf
    . intro ev' hev'
      rw [List.mem_append, List.mem_singleton] at hev'
      cases hev' with
      | inl hev' => exact hids ev' hev'
      | inr hev' =>
        rw [hev']
        exact ⟨htenant, hid⟩
    . rw [Aggregate.rehydrate_append, ← hstate]
      exact howned'

variable {B : Type} (eventBus : EventBus B (EventEnvelope JsonValue))

theorem DispatchCall.perform_outcome {store : InMemoryEventStore}
    (hstore : store.Reachable) (bus : B)
    (call : DispatchCall)
    : DispatchOutcome eventBus store bus
        (call.kind.request call.key call.aggregateType call.command)
        call.freshId (call.perform eventBus store bus) :=
  dispatch_outcome eventBus hstore.wellFormed bus _ _

theorem DispatchCall.perform_reachable {store : InMemoryEventStore}
    (hstore : store.Reachable) (bus : B)
    (call : DispatchCall) : (call.perform eventBus store bus).2.1.Reachable :=
  dispatch_reachable eventBus hstore bus _ _

theorem DispatchCall.perform_ownStream {store : InMemoryEventStore} (hstore : store.Reachable)
    (hown : ∀ key, OwnStream key (store.loadStream key)) (bus : B) {call : DispatchCall}
    (hhonest : call.Honest store)
    : ∀ key, OwnStream key ((call.perform eventBus store bus).2.1.loadStream key) := by
  intro key
  have houtcome := call.perform_outcome eventBus hstore bus
  generalize call.perform eventBus store bus = result at houtcome ⊢
  cases houtcome with
  | failed => exact hown key
  | nothing => exact hown key
  | stored hdecides =>
    rw [InMemoryEventStore.loadStream_insert]
    split
    . next hkey =>
      subst hkey
      exact (hown call.key).extend (hstore.wellFormed call.key) hhonest hdecides
    . exact hown key

theorem OwnStream.decodes {key : StreamKey} {stream : List StoredEvent} (h : OwnStream key stream)
    {e : StoredEvent} (he : e ∈ stream)
    : ∃ (kind : AggregateKind) (ev : kind.aggregate.Event), Serde.fromValue e.payload = .ok ev := by
  cases h with
  | nil => simp at he
  | @of kind _ evs _ hof _ _ =>
    rcases List.getElem?_of_mem he with ⟨i, hi⟩
    rcases hof.getElem? hi with ⟨ev, -, hev⟩
    exact ⟨kind, ev, hev⟩

theorem OwnStream.ids {key : StreamKey} {stream : List StoredEvent} (h : OwnStream key stream)
    {e : StoredEvent} (he : e ∈ stream) {kind : AggregateKind} {ev : kind.aggregate.Event}
    (hev : Serde.fromValue e.payload = .ok ev)
    : kind.tenantOf ev = key.tenantId ∧ kind.idOf ev = key.aggregateId := by
  cases h with
  | nil => simp at he
  | @of kind' _ evs _ hof hids _ =>
    rcases List.getElem?_of_mem he with ⟨i, hi⟩
    rcases hof.getElem? hi with ⟨ev', hev', hfrom⟩
    have hkind := AggregateKind.kind_unique hev hfrom
    subst hkind
    have : ev = ev' := Except.ok.inj (hev.symm.trans hfrom)
    subst this
    exact hids ev (List.mem_of_getElem? hev')

theorem committed_ids_of_honest (bus : B) (s : InMemoryEventStore × B)
    (h : (DispatchCall.runs eventBus bus).ReachableUnder (fun s call => call.Honest s.1) s)
    : ∀ key, ∀ e ∈ s.1.loadStream key,
        (∃ (kind : AggregateKind) (ev : kind.aggregate.Event), Serde.fromValue e.payload = .ok ev)
        ∧ ∀ (kind : AggregateKind) (ev : kind.aggregate.Event), Serde.fromValue e.payload = .ok ev →
            kind.tenantOf ev = key.tenantId ∧ kind.idOf ev = key.aggregateId := by
  have hinv : s.1.Reachable ∧ ∀ key, OwnStream key (s.1.loadStream key) := by
    apply Machine.ReachableUnder.invariant _ _ s h
    . intro s hs
      cases hs
      exact ⟨.new, fun key => .nil⟩
    . intro s call s' hs hhonest hstep
      cases hstep
      constructor
      . apply dispatch_reachable eventBus hs.1
      . exact call.perform_ownStream eventBus hs.1 hs.2 s.2 hhonest
  intro key e he
  constructor
  . exact (hinv.2 key).decodes he
  . intro kind ev hev
    exact (hinv.2 key).ids he hev

end Runs

namespace Bolt

open Concrete

def call (command : InventoryCommand) (freshId : Uuid) : DispatchCall where
  kind := .inventoryItem
  key := ⟨tenantId, itemId.aggregateId⟩
  aggregateType := "inventory.item"
  command := command
  freshId _ := freshId

def busRuns
    : Machine (InMemoryEventStore × InMemoryEventBus (EventEnvelope JsonValue)) DispatchCall :=
  DispatchCall.runs InMemoryEventBus.toEventBus ⟨[]⟩

def afterCreateCall : InMemoryEventStore × InMemoryEventBus (EventEnvelope JsonValue) :=
  ((call (.createItem create) ⟨10⟩).perform InMemoryEventBus.toEventBus .new ⟨[]⟩).2

theorem committed_ids_of_honest_create
    : busRuns.ReachableUnder (fun s call => call.Honest s.1) afterCreateCall
      ∧ ∀ e ∈ afterCreateCall.1.loadStream ⟨tenantId, itemId.aggregateId⟩,
          ∀ (kind : AggregateKind) (ev : kind.aggregate.Event), Serde.fromValue e.payload = .ok ev →
            kind.tenantOf ev = tenantId ∧ kind.idOf ev = itemId.aggregateId := by
  have hrun : busRuns.ReachableUnder (fun s call => call.Honest s.1) afterCreateCall := by
    apply Machine.ReachableUnder.step (s := (.new, ⟨[]⟩)) (a := call (.createItem create) ⟨10⟩)
    . exact .init rfl
    . constructor
      . intro _ _
        rfl
      . intro h
        cases h
    . rfl
  refine ⟨hrun, ?_⟩
  intro e he
  exact (committed_ids_of_honest InMemoryEventBus.toEventBus ⟨[]⟩ afterCreateCall hrun _ e he).2

def otherId : InventoryItemId := ⟨⟨⟨3⟩⟩⟩

def afterOtherCreate : InMemoryEventStore × InMemoryEventBus (EventEnvelope JsonValue) :=
  ((call (.createItem { create with itemId := otherId }) ⟨10⟩).perform
    InMemoryEventBus.toEventBus .new
    ⟨[]⟩).2

-- The stream of one item starts with the creation of another.
theorem created_under_other_id
    : busRuns.Reachable afterOtherCreate
      ∧ ∃ e ∈ afterOtherCreate.1.loadStream ⟨tenantId, itemId.aggregateId⟩,
          ∃ ev : (AggregateKind.aggregate .inventoryItem).Event, Serde.fromValue e.payload = .ok ev
            ∧ AggregateKind.idOf .inventoryItem ev ≠ itemId.aggregateId := by
  constructor
  . exact .step (.init rfl) trivial rfl
  . refine ⟨_, List.mem_of_getElem? (i := 0) rfl,
      .itemCreated ⟨tenantId, otherId, "Bolt", ⟨0⟩⟩, Serde.fromValue_toValue rfl, ?_⟩
    decide

end Bolt

end ForgeErp
