import ForgeErp.Desktop.ItemServer
import ForgeErp.Dispatcher.Lemmas.Retry

/-!
This module contains the specification of the route `adjust_stock`: what it finds of the item, and
when it commits.
-/

namespace ForgeErp

namespace ItemService

open CommandDispatcher

variable [TextFormat Uuid] [TextFormat DateTime] {B : Type}
variable {service : ItemService B} {server : ItemServer B} {id : AggregateId} {body : JsonValue}

def streamOf (service : ItemService B) (server : ItemServer B) (id : AggregateId)
    : List StoredEvent :=
  server.store.loadStream (service.key id)

/--
The stream of the item is the one of an existing item of the tenant.
-/
structure Stocked (service : ItemService B) (server : ItemServer B) (id : AggregateId)
    (item : InventoryItem)
    : Prop where
  applied : applyHistory InventoryItem.aggregate (InventoryItem.empty ⟨id⟩)
    (service.streamOf server id)
    = .ok item
  created : item.created = true
  tenantId : item.tenantId = some service.tenantId
  itemId : item.id = ⟨id⟩
  sameType : ∀ e ∈ service.streamOf server id, e.aggregateType = "inventory.item"

theorem Stocked.unique {item item' : InventoryItem} (h : service.Stocked server id item)
    (h' : service.Stocked server id item') : item = item' := by
  cases h.applied.symm.trans h'.applied
  rfl

-- The item can take the adjustment.
structure Takes (service : ItemService B) (server : ItemServer B) (id : AggregateId)
    (body : JsonValue)
    (item : InventoryItem) (delta : Int64)
    : Prop where
  stocked : service.Stocked server id item
  body : AdjustStockRequest.ofJson body = .ok ⟨delta⟩
  nonzero : delta ≠ 0
  fits : ¬item.stock + delta < 0

/--
Everything that a request to adjust an item can do to the store.
-/
inductive AdjustOutcome (service : ItemService B) (server : ItemServer B) (id : AggregateId)
    (body : JsonValue)
    : InMemoryEventStore → Prop where
  | refused : (∀ item delta, ¬service.Takes server id body item delta) →
      AdjustOutcome service server id body server.store
  | committed {item : InventoryItem} {delta : Int64} {now : DateTime}
    {committed : List StoredEvent} :
      service.Takes server id body item delta →
      StreamOf committed [InventoryEvent.stockAdjusted ⟨service.tenantId, ⟨id⟩, delta, now⟩] →
      (∀ e ∈ committed, e.aggregateType = "inventory.item") →
      AdjustOutcome service server id body
        ⟨server.store.streams.insert (service.key id) (service.streamOf server id ++ committed)⟩

theorem decides_iff {delta : Int64} {now : DateTime} {freshId : Nat → Uuid}
    (hbody : AdjustStockRequest.ofJson body = .ok ⟨delta⟩)
    : (∃ state decided committed, Decides (service.request id delta now)
        (service.streamOf server id) freshId
        state decided committed)
        ↔ ∃ item, service.Takes server id body item delta := by
  constructor
  . rintro ⟨item, decided, committed, h⟩
    rcases InventoryItem.handleAdjust_eq_ok_iff.1 h.handle
        with ⟨hcreated, htenant, hid, hdelta, hfits, _⟩
    exact ⟨item, ⟨h.applied, hcreated, htenant, hid, h.sameType⟩, hbody, hdelta, hfits⟩
  . rintro ⟨item, hstocked, _, hdelta, hfits⟩
    have hencodes : ∀ ev : InventoryItem.aggregate.Event, ∃ j, Serde.toValue ev = .ok j :=
      fun ev => ⟨(Codec.enc : InventoryEvent → JsonValue) ev, rfl⟩
    rcases toUncommitted_of_encodes hencodes (service.key id) "inventory.item" freshId 0
      [InventoryEvent.stockAdjusted ⟨service.tenantId, ⟨id⟩, delta, now⟩] with ⟨us, hus⟩
    refine ⟨item, [InventoryEvent.stockAdjusted ⟨service.tenantId, ⟨id⟩, delta, now⟩],
      assignSequence ((service.streamOf server id).length + 1) us, ?_⟩
    constructor
    . exact hstocked.applied
    . exact InventoryItem.handleAdjust_eq_ok_iff.2
        ⟨hstocked.created, hstocked.tenantId, hstocked.itemId, hdelta, hfits, rfl⟩
    . simp
    . exact ⟨us, hus, rfl⟩
    . exact hstocked.sameType

theorem adjustStock_outcome [ResponseText] (service : ItemService B) (server : ItemServer B)
    (hstore : server.store.WellFormed)
    (id : AggregateId) (body : JsonValue)
    : AdjustOutcome service server id body (service.adjustStock server id body).2.store := by
  unfold adjustStock
  dsimp only
  cases hbody : AdjustStockRequest.ofJson body with
  | error e =>
    apply AdjustOutcome.refused
    intro item delta h
    cases hbody.symm.trans h.body
  | ok request =>
    rcases request with ⟨delta⟩
    dsimp only
    have houtcome := dispatch_outcome service.eventBus hstore server.bus
      (service.request id delta (service.clock server.served)) (service.freshId server.served)
    generalize dispatch service.eventBus server.store server.bus
      (service.request id delta (service.clock server.served)) (service.freshId server.served)
        = result
      at houtcome ⊢
    cases houtcome with
    | failed _ hnot =>
      apply AdjustOutcome.refused
      intro item delta' htakes
      cases hbody.symm.trans htakes.body
      rcases (decides_iff hbody).2 ⟨item, htakes⟩ with ⟨state, decided, committed, h⟩
      exact hnot state decided committed h
    | @nothing state _ hnothing =>
      have := (InventoryItem.handleAdjust_eq_ok_iff.1 hnothing).2.2.2.2.2
      cases this
    | @stored state decided committed h =>
      have hdecided := (InventoryItem.handleAdjust_eq_ok_iff.1 h.handle).2.2.2.2.2
      rcases (decides_iff hbody).1 ⟨state, decided, committed, h⟩ with ⟨item, htakes⟩
      apply AdjustOutcome.committed htakes
      . exact hdecided ▸ h.streamOf
      . intro e he
        apply h.sameType_append e (List.mem_append_right _ he)

theorem adjustStock_reachable [ResponseText] (service : ItemService B) (server : ItemServer B)
    (hstore : server.store.Reachable) (id : AggregateId) (body : JsonValue)
    : (service.adjustStock server id body).2.store.Reachable := by
  unfold adjustStock
  dsimp only
  split
  . exact hstore
  . apply dispatch_reachable _ hstore

theorem applyHistory_streamOf (hstore : server.store.WellFormed)
    : applyHistory InventoryItem.aggregate (InventoryItem.empty ⟨id⟩) (service.streamOf server id)
        = applyHistory.go InventoryItem.aggregate (InventoryItem.empty ⟨id⟩)
            (service.streamOf server id) := by
  apply applyHistory_eq_go (hstore (service.key id))

-- An adjustment leaves the item where it was but for its stock.
theorem Stocked.adjusted {item : InventoryItem} (h : service.Stocked server id item)
    (hstore : server.store.WellFormed) {server' : ItemServer B} (hstore' : server'.store.WellFormed)
    {committed : List StoredEvent} {e : StockAdjusted}
    (hstream : service.streamOf server' id = service.streamOf server id ++ committed)
    (hcommitted : StreamOf committed [InventoryEvent.stockAdjusted e])
    (htype : ∀ e ∈ committed, e.aggregateType = "inventory.item")
    : service.Stocked server' id (InventoryItem.apply item (.stockAdjusted e)) := by
  rcases applyHistory_go_eq_ok ((applyHistory_streamOf hstore).symm.trans h.applied)
      with ⟨history, hdecode, hitem⟩
  let adjusted : List InventoryItem.aggregate.Event := [InventoryEvent.stockAdjusted e]
  have hdecode' : decodeStream (service.streamOf server' id) = some (history ++ adjusted) := by
    rw [hstream]
    apply decodeStream_append hdecode hcommitted.decodeStream_eq
  constructor
  . refine (applyHistory_streamOf hstore').trans
      ((applyHistory_go_of_decodeStream _ hdecode').trans ?_)
    refine congrArg Except.ok ((Aggregate.rehydrate_append _ _ history adjusted).trans ?_)
    exact congrArg (fun item => InventoryItem.apply item (.stockAdjusted e)) hitem.symm
  . exact h.created
  . exact h.tenantId
  . exact h.itemId
  . intro stored hmem
    rw [hstream, List.mem_append] at hmem
    exact hmem.elim (h.sameType stored) (htype stored)

end ItemService

end ForgeErp
