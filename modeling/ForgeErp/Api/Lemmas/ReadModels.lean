import ForgeErp.Api.Services
import ForgeErp.Dispatcher.Lemmas.Authentic
import ForgeErp.Domain.Lemmas.Catalog
import ForgeErp.Projections.Lemmas.Rebuild

/-!
This module contains the read models as views of the streams: an envelope reaches the projections of
its own kind of aggregate, and there the view of its own stream.
-/

namespace ForgeErp

theorem CursorProjection.getCursor_write {K R E : Type} [DecidableEq K] (P : CursorProjection K R E)
    (fresh : AggregateId) (self : Projection K R) (envelope : EventEnvelope JsonValue) (ev : E)
    (key : StreamKey)
    : (P.write fresh self envelope ev).getCursor key
        =
      if key = envelope.key then envelope.sequenceNumber else self.getCursor key := by
  unfold write
  split
  . next h => rw [h, Projection.getCursor_updateCursor_self]
  . next h => rw [Projection.getCursor_updateCursor_ne _ _ h, Projection.getCursor_upsert]

section Cursors

variable {K R E : Type} [DecidableEq K] [Codec E] (P : CursorProjection K R E)

theorem CursorProjection.cursor_le_applyEnvelope (fresh : AggregateId) (self : Projection K R)
    (envelope : EventEnvelope JsonValue) (key : StreamKey)
    : (P.view self key).cursor ≤ (P.view (P.applyEnvelope fresh self envelope).2 key).cursor := by
  by_cases haccepts : ∃ ev, P.Accepts self envelope ev
  . rcases haccepts with ⟨ev, haccepts⟩
    rw [P.applyEnvelope_of_accepts haccepts, P.view_write fresh self haccepts]
    split
    . apply View.cursor_le_feed
    . exact Nat.le_refl _
  . rw [P.applyEnvelope_of_not_accepts]
    intro ev hev
    exact haccepts ⟨ev, hev⟩

-- Whatever is taken is in the row afterwards, or has been before.
theorem CursorProjection.le_cursor_of_ok {fresh : AggregateId} {self : Projection K R}
    {envelope : EventEnvelope JsonValue} (htype : envelope.aggregateType = P.aggregateType)
    (hok : (P.applyEnvelope fresh self envelope).1 = .ok ())
    : envelope.sequenceNumber ≤ (P.view (P.applyEnvelope fresh self envelope).2
        envelope.key).cursor := by
  have houtcome := P.applyEnvelope_outcome fresh self envelope
  generalize P.applyEnvelope fresh self envelope = result at houtcome hok ⊢
  cases houtcome with
  | foreign hforeign => exact absurd htype hforeign
  | known hknown => exact (View.gate_eq_ignore_iff.mp hknown).2
  | gap => cases hok
  | malformed => cases hok
  | accepted haccepts =>
    dsimp only [view]
    rw [getCursor_write, if_pos rfl]

end Cursors

theorem ProductCatalogProjection.rooted_of_produced {ok : ProductCommand → Prop} {id : ProductId}
    {evs : List ProductEvent} (h : Product.aggregate.Produced ok (Product.empty id) evs)
    : View.Rooted projection.modify evs := by
  intro ev hev r r'
  rcases h.head hev with ⟨command, rest, -, hhandle⟩
  rcases Product.handle_empty hhandle with ⟨e, rfl⟩
  rfl

section Reads

variable [Lowercase] {K R : Type}

/--
The projection of an aggregate goes by its name and its identifiers, and its first event sets the
whole row.
-/
structure CursorProjection.Reads (kind : AggregateKind)
    (P : CursorProjection K R kind.aggregate.Event)
    : Prop where
  type_eq : P.aggregateType = kind.aggregateType
  tenant : ∀ ev, P.tenantOf ev = kind.tenantOf ev
  aggregate : ∀ ev, P.id (P.idOf ev) = kind.idOf ev
  rooted : ∀ {ok : kind.aggregate.Command → Prop} {key : StreamKey}
    {evs : List kind.aggregate.Event},
    kind.aggregate.Produced ok (kind.fresh key) evs → View.Rooted P.modify evs

theorem InventoryStockProjection.reads : CursorProjection.Reads .inventoryItem projection :=
  ⟨rfl, fun _ => rfl, fun _ => rfl, rooted_of_produced⟩

theorem PartyDirectoryProjection.reads : CursorProjection.Reads .party projection :=
  ⟨rfl, fun _ => rfl, fun _ => rfl, rooted_of_produced⟩

theorem ProductCatalogProjection.reads : CursorProjection.Reads .product projection :=
  ⟨rfl, fun _ => rfl, fun _ => rfl, rooted_of_produced⟩

theorem SalesOrdersProjection.reads : CursorProjection.Reads .salesOrder projection :=
  ⟨rfl, fun _ => rfl, fun _ => rfl, rooted_of_produced⟩

theorem InvoicesProjection.reads : CursorProjection.Reads .invoice projection :=
  ⟨rfl, fun _ => rfl, fun _ => rfl, rooted_of_produced⟩

theorem InvoiceAgingProjection.reads : CursorProjection.Reads .invoice projection :=
  ⟨rfl, fun _ => rfl, fun _ => rfl, rooted_of_produced⟩

theorem PurchaseOrdersProjection.reads : CursorProjection.Reads .purchaseOrder projection :=
  ⟨rfl, fun _ => rfl, fun _ => rfl, rooted_of_produced⟩

variable [TextFormat Uuid] [TextFormat DateTime]

theorem CursorProjection.Reads.feeds {kind : AggregateKind}
    {P : CursorProjection K R kind.aggregate.Event}
    (h : P.Reads kind) {key : StreamKey} {stream : List StoredEvent}
    {commands : List kind.aggregate.Command}
    (hwf : InMemoryEventStore.WellFormedStream key stream)
    (hsourced : kind.Sourced key stream commands)
    : P.Feeds key stream (kind.history key commands) := by
  have hids := (AggregateKind.produced_owned hsourced.produced).1
  refine ⟨hwf, hsourced.streamOf, ?_, ?_, ?_⟩
  . intro e he
    rw [hsourced.type_eq e he, h.type_eq]
  . intro ev hev
    rw [h.tenant, (hids ev hev).1]
  . intro ev hev
    rw [h.aggregate, (hids ev hev).2]

end Reads

namespace ReadModels

variable [TextFormat Uuid] [TextFormat DateTime] (self : ReadModels)
  (fresh : AggregateId) (now : DateTime)
  (env : EventEnvelope JsonValue)

-- A projection is given the envelopes of its own type only, and would ignore the others.

theorem inventory_applyEnvelope
    : (self.applyEnvelope fresh now env).2.inventory
        =
      (InventoryStockProjection.projection.applyEnvelope fresh self.inventory env).2 := by
  by_cases htype : env.aggregateType = "inventory.item"
  . unfold applyEnvelope
    rw [htype]
    rfl
  . rw [CursorProjection.applyEnvelope_of_foreign _ htype]
    unfold applyEnvelope
    split <;> first | rfl | (split <;> rfl) | exact absurd ‹_› htype

theorem parties_applyEnvelope
    : (self.applyEnvelope fresh now env).2.parties
        =
      (PartyDirectoryProjection.projection.applyEnvelope fresh self.parties env).2 := by
  by_cases htype : env.aggregateType = "parties.party"
  . unfold applyEnvelope
    rw [htype]
    rfl
  . rw [CursorProjection.applyEnvelope_of_foreign _ htype]
    unfold applyEnvelope
    split <;> first | rfl | (split <;> rfl) | exact absurd ‹_› htype

theorem products_applyEnvelope
    : (self.applyEnvelope fresh now env).2.products
        =
      (ProductCatalogProjection.projection.applyEnvelope fresh self.products env).2 := by
  by_cases htype : env.aggregateType = "products.product"
  . unfold applyEnvelope
    rw [htype]
    rfl
  . rw [CursorProjection.applyEnvelope_of_foreign _ htype]
    unfold applyEnvelope
    split <;> first | rfl | (split <;> rfl) | exact absurd ‹_› htype

theorem sales_applyEnvelope
    : (self.applyEnvelope fresh now env).2.sales
        =
      (SalesOrdersProjection.projection.applyEnvelope fresh self.sales env).2 := by
  by_cases htype : env.aggregateType = "sales.order"
  . unfold applyEnvelope
    rw [htype]
    rfl
  . rw [CursorProjection.applyEnvelope_of_foreign _ htype]
    unfold applyEnvelope
    split <;> first | rfl | (split <;> rfl) | exact absurd ‹_› htype

theorem purchases_applyEnvelope
    : (self.applyEnvelope fresh now env).2.purchases
        =
      (PurchaseOrdersProjection.projection.applyEnvelope fresh self.purchases env).2 := by
  by_cases htype : env.aggregateType = "purchasing.order"
  . unfold applyEnvelope
    rw [htype]
    rfl
  . rw [CursorProjection.applyEnvelope_of_foreign _ htype]
    unfold applyEnvelope
    split <;> first | rfl | (split <;> rfl) | exact absurd ‹_› htype

theorem invoices_applyEnvelope
    : (self.applyEnvelope fresh now env).2.invoices
        =
      (InvoicesProjection.projection.applyEnvelope fresh self.invoices env).2 := by
  by_cases htype : env.aggregateType = "invoicing.invoice"
  . unfold applyEnvelope
    rw [htype]
    cases hinvoices : InvoicesProjection.projection.applyEnvelope fresh self.invoices env with
    | mk applied invoices => cases applied <;> rfl
  . rw [CursorProjection.applyEnvelope_of_foreign _ htype]
    unfold applyEnvelope
    split <;> first | rfl | exact absurd ‹_› htype

-- The view of what is due is given an envelope only after that of the invoices has taken it.
theorem arAging_applyEnvelope
    : (self.applyEnvelope fresh now env).2.arAging
        =
      if (InvoicesProjection.projection.applyEnvelope fresh self.invoices env).1 = .ok () then
        (InvoiceAgingProjection.projection.applyEnvelope fresh self.arAging env).2
      else
        self.arAging := by
  by_cases htype : env.aggregateType = "invoicing.invoice"
  . unfold applyEnvelope
    rw [htype]
    cases hinvoices : InvoicesProjection.projection.applyEnvelope fresh self.invoices env with
    | mk applied invoices => cases applied <;> rfl
  . rw [CursorProjection.applyEnvelope_of_foreign _ htype,
      CursorProjection.applyEnvelope_of_foreign _ htype,
      if_pos rfl]
    unfold applyEnvelope
    split <;> first | rfl | exact absurd ‹_› htype

theorem users_applyEnvelope
    : (self.applyEnvelope fresh now env).2.users
        =
      if env.aggregateType = "auth.user" then (self.users.applyEnvelope env).2 else self.users := by
  by_cases htype : env.aggregateType = "auth.user"
  . rw [if_pos htype]
    unfold applyEnvelope
    rw [htype]
    rfl
  . rw [if_neg htype]
    unfold applyEnvelope
    split <;> first | rfl | (split <;> rfl) | exact absurd ‹_› htype

/--
The two views of the invoices have got equally far.
-/
def InStep (readModels : ReadModels) : Prop :=
  ∀ key, readModels.invoices.getCursor key = readModels.arAging.getCursor key

variable {self env}

theorem InStep.accepts_iff (h : self.InStep) (ev : InvoiceEvent)
    : InvoiceAgingProjection.projection.Accepts self.arAging env ev
        ↔
      InvoicesProjection.projection.Accepts self.invoices env ev := by
  constructor
  . intro haccepts
    have hcarries := haccepts.carries
    refine ⟨⟨hcarries.type_eq, hcarries.payload, hcarries.tenant, hcarries.aggregate⟩, ?_⟩
    rw [h]
    exact haccepts.gate
  . intro haccepts
    have hcarries := haccepts.carries
    refine ⟨⟨hcarries.type_eq, hcarries.payload, hcarries.tenant, hcarries.aggregate⟩, ?_⟩
    rw [← h]
    exact haccepts.gate

-- What the first view refuses the second one would not have taken either.
theorem InStep.arAging_applyEnvelope (h : self.InStep)
    : (self.applyEnvelope fresh now env).2.arAging
        =
      (InvoiceAgingProjection.projection.applyEnvelope fresh self.arAging env).2 := by
  rw [ReadModels.arAging_applyEnvelope]
  split
  . rfl
  . next hfailed =>
    rw [CursorProjection.applyEnvelope_of_not_accepts]
    intro ev haccepts
    apply hfailed
    rw [CursorProjection.applyEnvelope_of_accepts _ ((h.accepts_iff ev).mp haccepts)]

theorem InStep.applyEnvelope (h : self.InStep) : (self.applyEnvelope fresh now env).2.InStep := by
  intro key
  rw [invoices_applyEnvelope, h.arAging_applyEnvelope]
  by_cases haccepts : ∃ ev, InvoicesProjection.projection.Accepts self.invoices env ev
  . rcases haccepts with ⟨ev, haccepts⟩
    rw [CursorProjection.applyEnvelope_of_accepts _ haccepts,
      CursorProjection.applyEnvelope_of_accepts _ ((h.accepts_iff ev).mpr haccepts),
      CursorProjection.getCursor_write, CursorProjection.getCursor_write, h]
  . rw [CursorProjection.applyEnvelope_of_not_accepts,
      CursorProjection.applyEnvelope_of_not_accepts]
    . exact h key
    . intro ev hev
      exact haccepts ⟨ev, (h.accepts_iff ev).mp hev⟩
    . intro ev hev
      exact haccepts ⟨ev, hev⟩

end ReadModels

namespace AggregateKind

variable [Lowercase]

/--
What `p` says of the views that the read models have of a stream of this kind, each behind a cursor.
Users are kept without cursors, and the balances of the accounts are not kept by ledger.
-/
def ForViews (kind : AggregateKind) (key : StreamKey) (readModels : ReadModels)
    (p : {K R : Type} → CursorProjection K R kind.aggregate.Event → View R → Prop)
    : Prop :=
  match kind with
  | .inventoryItem =>
    p InventoryStockProjection.projection
      (InventoryStockProjection.projection.view readModels.inventory key)
  | .invoice =>
    p InvoicesProjection.projection (InvoicesProjection.projection.view readModels.invoices key)
    ∧ p InvoiceAgingProjection.projection
        (InvoiceAgingProjection.projection.view readModels.arAging key)
  | .ledger => True
  | .user => True
  | .salesOrder =>
    p SalesOrdersProjection.projection (SalesOrdersProjection.projection.view readModels.sales key)
  | .purchaseOrder =>
    p PurchaseOrdersProjection.projection
      (PurchaseOrdersProjection.projection.view readModels.purchases key)
  | .party =>
    p PartyDirectoryProjection.projection
      (PartyDirectoryProjection.projection.view readModels.parties key)
  | .product =>
    p ProductCatalogProjection.projection
      (ProductCatalogProjection.projection.view readModels.products key)

variable {kind : AggregateKind} {key : StreamKey} {readModels : ReadModels}
variable {p p' : {K R : Type} → CursorProjection K R kind.aggregate.Event → View R → Prop}

theorem ForViews.imp (h : kind.ForViews key readModels p)
    (himp : ∀ {K R : Type} (P : CursorProjection K R kind.aggregate.Event) view,
      p P view → p' P view)
    : kind.ForViews key readModels p' := by
  cases kind with
  | invoice => exact ⟨himp _ _ h.1, himp _ _ h.2⟩
  | ledger => trivial
  | user => trivial
  | inventoryItem => exact himp _ _ h
  | salesOrder => exact himp _ _ h
  | purchaseOrder => exact himp _ _ h
  | party => exact himp _ _ h
  | product => exact himp _ _ h

theorem ForViews.and (h : kind.ForViews key readModels p) (h' : kind.ForViews key readModels p')
    : kind.ForViews key readModels (fun P view => p P view ∧ p' P view) := by
  cases kind with
  | invoice => exact ⟨⟨h.1, h'.1⟩, h.2, h'.2⟩
  | ledger => trivial
  | user => trivial
  | inventoryItem => exact ⟨h, h'⟩
  | salesOrder => exact ⟨h, h'⟩
  | purchaseOrder => exact ⟨h, h'⟩
  | party => exact ⟨h, h'⟩
  | product => exact ⟨h, h'⟩

variable [TextFormat Uuid] [TextFormat DateTime] {fresh : AggregateId} {now : DateTime}
  {env : EventEnvelope JsonValue}

-- It is enough to look at a single projection.
theorem ForViews.applyEnvelope (h : kind.ForViews key readModels p) (hinstep : readModels.InStep)
    (hstep : ∀ (K R : Type) [DecidableEq K] (P : CursorProjection K R kind.aggregate.Event)
      (st : Projection K R), P.Reads kind → p P (P.view st key) →
        p' P (P.view (P.applyEnvelope fresh st env).2 key))
    : kind.ForViews key (readModels.applyEnvelope fresh now env).2 p' := by
  cases kind with
  | ledger => trivial
  | user => trivial
  | invoice =>
    unfold ForViews
    dsimp only
    rw [ReadModels.invoices_applyEnvelope, hinstep.arAging_applyEnvelope]
    exact ⟨hstep _ _ _ _ InvoicesProjection.reads h.1,
      hstep _ _ _ _ InvoiceAgingProjection.reads h.2⟩
  | inventoryItem =>
    unfold ForViews
    dsimp only
    rw [ReadModels.inventory_applyEnvelope]
    exact hstep _ _ _ _ InventoryStockProjection.reads h
  | salesOrder =>
    unfold ForViews
    dsimp only
    rw [ReadModels.sales_applyEnvelope]
    exact hstep _ _ _ _ SalesOrdersProjection.reads h
  | purchaseOrder =>
    unfold ForViews
    dsimp only
    rw [ReadModels.purchases_applyEnvelope]
    exact hstep _ _ _ _ PurchaseOrdersProjection.reads h
  | party =>
    unfold ForViews
    dsimp only
    rw [ReadModels.parties_applyEnvelope]
    exact hstep _ _ _ _ PartyDirectoryProjection.reads h
  | product =>
    unfold ForViews
    dsimp only
    rw [ReadModels.products_applyEnvelope]
    exact hstep _ _ _ _ ProductCatalogProjection.reads h

theorem ForViews.applyEnvelope_ne (h : kind.ForViews key readModels p) (hinstep : readModels.InStep)
    (hkey : key ≠ env.key) : kind.ForViews key (readModels.applyEnvelope fresh now env).2 p := by
  apply h.applyEnvelope hinstep
  intro K R _ P st _ hp
  rw [P.view_applyEnvelope_ne fresh st hkey]
  exact hp

-- An event of the stream is fed to its views.
theorem ForViews.feed {stream : List StoredEvent} {commands : List kind.aggregate.Command}
    {e : StoredEvent}
    (h : kind.ForViews key readModels p) (hinstep : readModels.InStep)
    (hwf : InMemoryEventStore.WellFormedStream key stream)
    (hsourced : kind.Sourced key stream commands)
    (he : e ∈ stream)
    (hfeed : ∀ {K R : Type} (P : CursorProjection K R kind.aggregate.Event) view ev,
      (kind.history key commands)[e.sequenceNumber - 1]? = some ev →
      View.Rooted P.modify (kind.history key commands) → p P view →
      p' P (view.feed P.modify e.sequenceNumber (P.vacant fresh ev) ev))
    : kind.ForViews key (readModels.applyEnvelope fresh now e.toEnvelope).2 p' := by
  apply h.applyEnvelope hinstep
  intro K R _ P st hreads hp
  rcases (hreads.feeds hwf hsourced).carries he with ⟨ev, hev, hcarries, hkey, -⟩
  have hview := P.view_applyEnvelope_of_carries fresh st hcarries
  rw [hkey] at hview
  rw [hview]
  exact hfeed P _ ev hev (hreads.rooted hsourced.produced) hp

omit [Lowercase] [TextFormat Uuid] [TextFormat DateTime] in
theorem toBool_ok {ε : Type} {result : Except ε Unit} (h : result.toBool = true)
    : result = .ok () := by
  cases result with
  | ok => rfl
  | error err => cases h

theorem forViews_of_applied (htype : env.aggregateType = kind.aggregateType)
    (happlied : (readModels.applyEnvelope fresh now env).1 = true) (hinstep : readModels.InStep)
    : kind.ForViews env.key (readModels.applyEnvelope fresh now env).2
        (fun _ view => env.sequenceNumber ≤ view.cursor) := by
  unfold ReadModels.applyEnvelope at happlied
  rw [htype] at happlied
  cases kind with
  | ledger => trivial
  | user => trivial
  | invoice =>
    have hboth : (InvoicesProjection.projection.applyEnvelope fresh readModels.invoices env).1
      = .ok ()
        ∧ (InvoiceAgingProjection.projection.applyEnvelope fresh readModels.arAging env).1
            = .ok () := by
      cases hinvoices : InvoicesProjection.projection.applyEnvelope fresh readModels.invoices env
        with
      | mk applied invoices =>
        rw [hinvoices] at happlied
        cases applied with
        | error err => cases happlied
        | ok => exact ⟨rfl, toBool_ok happlied⟩
    unfold ForViews
    dsimp only
    rw [ReadModels.invoices_applyEnvelope, hinstep.arAging_applyEnvelope]
    exact ⟨InvoicesProjection.projection.le_cursor_of_ok htype hboth.1,
      InvoiceAgingProjection.projection.le_cursor_of_ok htype hboth.2⟩
  | inventoryItem =>
    unfold ForViews
    dsimp only
    rw [ReadModels.inventory_applyEnvelope]
    exact InventoryStockProjection.projection.le_cursor_of_ok htype (toBool_ok happlied)
  | salesOrder =>
    unfold ForViews
    dsimp only
    rw [ReadModels.sales_applyEnvelope]
    exact SalesOrdersProjection.projection.le_cursor_of_ok htype (toBool_ok happlied)
  | purchaseOrder =>
    unfold ForViews
    dsimp only
    rw [ReadModels.purchases_applyEnvelope]
    exact PurchaseOrdersProjection.projection.le_cursor_of_ok htype (toBool_ok happlied)
  | party =>
    unfold ForViews
    dsimp only
    rw [ReadModels.parties_applyEnvelope]
    exact PartyDirectoryProjection.projection.le_cursor_of_ok htype (toBool_ok happlied)
  | product =>
    unfold ForViews
    dsimp only
    rw [ReadModels.products_applyEnvelope]
    exact ProductCatalogProjection.projection.le_cursor_of_ok htype (toBool_ok happlied)

end AggregateKind

end ForgeErp
