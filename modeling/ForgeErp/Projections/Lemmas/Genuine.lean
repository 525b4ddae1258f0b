import ForgeErp.Projections.Lemmas.Delivery

/-!
This module contains the streams that dispatching inventory commands leads to. `handle` checks the
identifiers of an adjustment against the item, those of a creation are up to the caller.
-/

namespace ForgeErp

theorem StreamOf.unique {E : Type} [Event E] [Serde E] {stream : List StoredEvent}
    {evs evs' : List E}
    (h : StreamOf stream evs) (h' : StreamOf stream evs') : evs = evs' := by
  apply List.ext_getElem?
  intro i
  by_cases hi : i < stream.length
  . rcases h.getElem? (List.getElem?_eq_getElem hi) with ⟨ev, hev, hdec⟩
    rcases h'.getElem? (List.getElem?_eq_getElem hi) with ⟨ev', hev', hdec'⟩
    rw [hdec] at hdec'
    cases hdec'
    rw [hev, hev']
  . rw [List.getElem?_eq_none, List.getElem?_eq_none]
    . rw [← h'.length_eq]
      omega
    . rw [← h.length_eq]
      omega

namespace InventoryStockProjection

def CreatesOwn (key : StreamKey) (command : InventoryCommand) : Prop :=
  match command with
  | .createItem cmd => cmd.tenantId = key.tenantId ∧ cmd.itemId = ⟨key.aggregateId⟩
  | .adjustStock _ => True

def Owned (key : StreamKey) (item : InventoryItem) : Prop :=
  item.created = true → item.tenantId = some key.tenantId ∧ item.id = ⟨key.aggregateId⟩

theorem handle_owned {key : StreamKey} {item : InventoryItem} {command : InventoryCommand}
    {decided : List InventoryEvent} (howned : Owned key item) (hown : CreatesOwn key command)
    (h : item.handle command = .ok decided)
    : (∀ ev ∈ decided, ev.tenantId = key.tenantId ∧ ev.itemId = ⟨key.aggregateId⟩)
      ∧ Owned key (InventoryItem.aggregate.rehydrate item decided) := by
  cases command with
  | createItem cmd =>
    simp only [InventoryItem.handle, InventoryItem.handleCreate] at h
    split at h
    . cases h
    . split at h
      . cases h
      . cases h
        rcases hown with ⟨htenant, hitem⟩
        refine ⟨?_, ?_⟩
        . intro ev hev
          rw [List.mem_singleton] at hev
          subst hev
          exact ⟨htenant, hitem⟩
        . intro _
          exact ⟨congrArg some htenant, hitem⟩
  | adjustStock cmd =>
    simp only [InventoryItem.handle, InventoryItem.handleAdjust, InventoryItem.ensureTenant,
      InventoryItem.ensureItemId] at h
    split at h
    . cases h
    . next hcreated =>
      have hcreated : item.created = true := by simpa using hcreated
      rcases howned hcreated with ⟨htenant, hitem⟩
      simp only [htenant, hitem] at h
      split at h
      . cases h
      . next hcheck =>
        have hcmdTenant : cmd.tenantId = key.tenantId := by
          split at hcheck
          . cases hcheck
          . next heq => simpa using (not_not.mp heq).symm
        split at h
        . cases h
        . next hcheck' =>
          have hcmdItem : cmd.itemId = ⟨key.aggregateId⟩ := by
            split at hcheck'
            . cases hcheck'
            . next heq => exact (not_not.mp heq).symm
          split at h
          . cases h
          . split at h
            . cases h
            . cases h
              refine ⟨?_, ?_⟩
              . intro ev hev
                rw [List.mem_singleton] at hev
                subst hev
                exact ⟨hcmdTenant, hcmdItem⟩
              . intro _
                exact ⟨htenant, hitem⟩

theorem owned_of_produced {key : StreamKey} {evs : List InventoryEvent}
    (h : InventoryItem.aggregate.Produced (CreatesOwn key) (InventoryItem.empty ⟨key.aggregateId⟩)
      evs)
    : (∀ ev ∈ evs, ev.tenantId = key.tenantId ∧ ev.itemId = ⟨key.aggregateId⟩)
      ∧ Owned key (InventoryItem.aggregate.rehydrate (InventoryItem.empty ⟨key.aggregateId⟩)
          evs) := by
  apply h.invariant (Owned key) (fun ev : InventoryEvent =>
    ev.tenantId = key.tenantId ∧ ev.itemId = ⟨key.aggregateId⟩)
  . intro hcreated
    cases hcreated
  . intro item command decided howned hown hhandle
    apply handle_owned howned hown hhandle

variable [TextFormat Uuid] [TextFormat DateTime]

structure Genuine (key : StreamKey) (stream : List StoredEvent) (evs : List InventoryEvent)
    : Prop where
  wellFormed : InMemoryEventStore.WellFormedStream key stream
  typed : StreamOf stream evs
  type_eq : ∀ e ∈ stream, e.aggregateType = "inventory.item"
  produced : InventoryItem.aggregate.Produced (CreatesOwn key)
    (InventoryItem.empty ⟨key.aggregateId⟩) evs

theorem Genuine.feeds {key : StreamKey} {stream : List StoredEvent} {evs : List InventoryEvent}
    (h : Genuine key stream evs) : projection.Feeds key stream evs := by
  have hids := (owned_of_produced h.produced).1
  refine ⟨h.wellFormed, h.typed, h.type_eq, ?_, ?_⟩
  . intro ev hev
    exact (hids ev hev).1
  . intro ev hev
    apply congrArg InventoryItemId.aggregateId (hids ev hev).2

theorem Genuine.rooted {key : StreamKey} {stream : List StoredEvent} {evs : List InventoryEvent}
    (h : Genuine key stream evs) : View.Rooted projection.modify evs :=
  rooted_of_produced h.produced

theorem Genuine.append {key : StreamKey} {stream committed : List StoredEvent}
    {evs evs' decided : List InventoryEvent} {command : InventoryCommand}
    (h : Genuine key stream evs) (hown : CreatesOwn key command)
    (htyped : StreamOf stream evs')
    (hhandle : InventoryItem.handle
      (InventoryItem.aggregate.rehydrate (InventoryItem.empty ⟨key.aggregateId⟩) evs') command
        = .ok decided)
    (hcommitted : StreamOf committed decided)
    (hwellFormed : InMemoryEventStore.WellFormedStream key (stream ++ committed))
    (htype : ∀ e ∈ committed, e.aggregateType = "inventory.item")
    : Genuine key (stream ++ committed) (evs ++ decided) := by
  have heq : evs' = evs := htyped.unique h.typed
  subst heq
  refine ⟨hwellFormed, h.typed.append hcommitted, ?_, ?_⟩
  . intro e he
    rw [List.mem_append] at he
    cases he with
    | inl he => exact h.type_eq e he
    | inr he => exact htype e he
  . exact .step command h.produced hown hhandle

theorem Genuine.shows_apply {key : StreamKey} {stream : List StoredEvent}
    {evs : List InventoryEvent}
    (hgenuine : Genuine key stream evs) {e : StoredEvent} (he : e ∈ stream)
    {st : Projection InventoryItemId InventoryReadModel} {c : Nat}
    (h : View.Shows projection.modify evs c (projection.view st key))
    (hnext : e.sequenceNumber ≤ c + 1 ∨ c ≠ 0) (fresh : AggregateId)
    : View.Shows projection.modify evs (if e.sequenceNumber = c + 1 then c + 1 else c)
        (projection.view (projection.applyEnvelope fresh st e.toEnvelope).2 key) := by
  rcases hgenuine.feeds.carries he with ⟨ev, hev, hcarries, hkey, hpos⟩
  have hview := projection.view_applyEnvelope_of_carries fresh st hcarries
  rw [hkey] at hview
  rw [hview]
  apply h.feed _ hgenuine.rooted _ hpos hev hnext

end InventoryStockProjection

end ForgeErp
