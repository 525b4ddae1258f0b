import ForgeErp.Api.Lemmas.ReadModels
import ForgeErp.Projections.Lemmas.InvoiceRows
import ForgeErp.Projections.Lemmas.OrderRows
import ForgeErp.Projections.Lemmas.Users

/-!
This module contains what the routes answer when they are asked for an aggregate: the row says the
same as the aggregate after the events the row has got.
-/

namespace ForgeErp

def InventoryStockProjection.Shows (row : Option InventoryReadModel) (item : InventoryItem)
    : Prop :=
  match row with
  | none => item.created = false
  | some row => item.created = true ∧ Agrees row item

def PartyDirectoryProjection.Shows (row : Option PartyReadModel) (party : Party) : Prop :=
  match row with
  | none => party.created = false
  | some row =>
    party.created = true
    ∧ row.kind = party.kind
    ∧ row.name = party.name
    ∧ row.email = party.contact.email
    ∧ row.phone = party.contact.phone
    ∧ row.status = party.status

def ProductCatalogProjection.Shows (row : Option ProductReadModel) (product : Product) : Prop :=
  match row with
  | none => product.created = false
  | some row =>
    product.created = true
    ∧ row.sku = product.sku
    ∧ row.name = product.name
    ∧ row.status = product.status
    ∧ row.pricing = product.pricing

-- Both views of an invoice
def InvoicesProjection.Show (row : Option InvoiceReadModel) (aging : Option InvoiceAgingReadModel)
    (inv : Invoice)
    : Prop :=
  match row, aging with
  | none, none => inv.created = false
  | some row, some aging => inv.created = true ∧ Mirrors row aging inv
  | _, _ => False

namespace AggregateKind

variable [Lowercase]

/--
The answers of the read models for an aggregate are those for this state of it.
-/
def Answers (kind : AggregateKind) (key : StreamKey) (readModels : ReadModels)
    : kind.aggregate.State → Prop :=
  match kind with
  | .inventoryItem =>
    InventoryStockProjection.Shows (readModels.read (.inventoryGet key.tenantId ⟨key.aggregateId⟩))
  | .invoice =>
    InvoicesProjection.Show (readModels.read (.invoicesGet key.tenantId ⟨key.aggregateId⟩))
      (readModels.arAging.store.get key.tenantId ⟨key.aggregateId⟩)
  | .ledger => fun _ => True
  | .user =>
    UsersProjection.Shows (readModels.read
      (.usersGet key.tenantId (.ofAggregateId key.aggregateId)))
  | .salesOrder =>
    SalesOrdersProjection.Shows (readModels.read (.salesGet key.tenantId ⟨key.aggregateId⟩))
  | .purchaseOrder =>
    PurchaseOrdersProjection.Shows (readModels.read (.purchasesGet key.tenantId ⟨key.aggregateId⟩))
  | .party =>
    PartyDirectoryProjection.Shows (readModels.read (.partiesGet key.tenantId ⟨key.aggregateId⟩))
  | .product =>
    ProductCatalogProjection.Shows (readModels.read (.productsGet key.tenantId ⟨key.aggregateId⟩))

end AggregateKind

theorem PartyDirectoryProjection.Shows.modify {row : PartyReadModel} {party : Party}
    (h : Shows (some row) party) (ev : PartyEvent)
    : Shows (some (projection.modify row ev)) (party.apply ev) := by
  rcases h with ⟨hcreated, hkind, hname, hemail, hphone, hstatus⟩
  cases ev with
  | partyRegistered e => exact ⟨rfl, rfl, rfl, rfl, rfl, rfl⟩
  | partyUpdated e => exact ⟨hcreated, hkind, rfl, rfl, rfl, hstatus⟩
  | partySuspended e => exact ⟨hcreated, hkind, hname, hemail, hphone, rfl⟩

theorem ProductCatalogProjection.Shows.modify {row : ProductReadModel} {product : Product}
    (h : Shows (some row) product) (ev : ProductEvent)
    : Shows (some (projection.modify row ev)) (product.apply ev) := by
  rcases h with ⟨hcreated, hsku, hname, hstatus, hpricing⟩
  cases ev with
  | productCreated e => exact ⟨rfl, rfl, rfl, rfl, rfl⟩
  | productActivated e => exact ⟨hcreated, hsku, hname, rfl, hpricing⟩
  | productArchived e => exact ⟨hcreated, hsku, hname, rfl, hpricing⟩

theorem InventoryStockProjection.Shows.modify {row : InventoryReadModel} {item : InventoryItem}
    (h : Shows (some row) item) (ev : InventoryEvent)
    : Shows (some (projection.modify row ev)) (item.apply ev) := by
  refine ⟨?_, agrees_foldl h.2 [ev]⟩
  cases ev with
  | itemCreated e => rfl
  | stockAdjusted e => exact h.1

theorem UsersProjection.Shows.next {self : UsersProjection} {t : TenantId} {u : UserId}
    {evs : List UserEvent} {c : Nat} {ev : UserEvent} {user : User} {command : UserCommand}
    (hev : evs[c]? = some ev) (hstep : User.Step ((evs.take c).foldl User.apply user) command ev)
    (huser : ev.userId = u) (h : Shows (self.get t u) ((evs.take c).foldl User.apply user))
    : Shows ((self.applyEvent t ev).get t u) ((evs.take (c + 1)).foldl User.apply user) := by
  rw [List.take_add_one, hev, Option.toList_some, List.foldl_append]
  rw [← huser] at h ⊢
  exact h.step hstep

theorem InvoicesProjection.show_of_shows {id : InvoiceId} {evs : List InvoiceEvent} {c : Nat}
    {view : View InvoiceReadModel} {aging : View InvoiceAgingReadModel}
    (hlife : Invoice.Lifecycle id evs)
    (hview : View.Shows projection.modify evs c view)
    (haging : View.Shows InvoiceAgingProjection.projection.modify evs c aging)
    : Show view.row aging.row (Invoice.after id evs c) := by
  have vacant : InvoiceReadModel := ⟨id, ⟨id.aggregateId⟩, none, .open, 0, 0, []⟩
  have vacant' : InvoiceAgingReadModel := ⟨id, 0, 0, none, .open⟩
  rw [hview.row vacant, haging.row vacant']
  by_cases hzero : c = 0
  . subst hzero
    rfl
  . have hne : (evs.take c).isEmpty = false := by
      rw [List.isEmpty_eq_false_iff, ← List.length_pos_iff, List.length_take]
      have := hview.bound
      omega
    simp only [View.project, hne, Bool.false_eq_true, ↓reduceIte]
    exact ⟨(hlife.created_iff hview.bound).mpr hzero,
      mirrors_after hlife vacant vacant' hview.bound hzero⟩

namespace AggregateKind

variable [Lowercase] {kind : AggregateKind} {key : StreamKey} {readModels : ReadModels}
  {ok : kind.aggregate.Command → Prop} {evs : List kind.aggregate.Event} {c : Nat}

/--
The rows of an aggregate have got exactly its first `c` events.
-/
structure Follows (kind : AggregateKind) (key : StreamKey) (readModels : ReadModels)
    (evs : List kind.aggregate.Event) (c : Nat) : Prop where
  views : kind.ForViews key readModels (fun P view => View.Shows P.modify evs c view)
  users : kind = .user →
    kind.Answers key readModels (kind.aggregate.rehydrate (kind.fresh key) (evs.take c))

theorem Follows.answers (h : kind.Follows key readModels evs c)
    (hproduced : kind.aggregate.Produced ok (kind.fresh key) evs)
    : kind.Answers key readModels (kind.aggregate.rehydrate (kind.fresh key) (evs.take c)) := by
  cases kind with
  | ledger => trivial
  | user => exact h.users rfl
  | inventoryItem =>
    refine View.Shows.relates _ InventoryItem.apply InventoryStockProjection.Shows h.views
      ⟨⟨key.aggregateId⟩, "", 0⟩ rfl ?_ (fun _ _ e hrel => hrel.modify e)
    intro e r he
    rcases hproduced.head he with ⟨command, rest, -, hhandle⟩
    rcases InventoryItem.handle_empty hhandle with ⟨e, rfl⟩
    exact ⟨rfl, rfl, rfl⟩
  | salesOrder =>
    refine View.Shows.relates _ SalesOrder.apply SalesOrdersProjection.Shows h.views
      ⟨⟨key.aggregateId⟩, .draft, []⟩ rfl ?_ (fun _ _ e hrel => hrel.modify e)
    intro e r he
    rcases hproduced.head he with ⟨command, rest, -, hhandle⟩
    rcases SalesOrder.handle_empty hhandle with ⟨e, rfl⟩
    exact SalesOrdersProjection.shows_created r _ e
  | purchaseOrder =>
    refine View.Shows.relates _ PurchaseOrder.apply PurchaseOrdersProjection.Shows h.views
      ⟨⟨key.aggregateId⟩, ⟨key.aggregateId⟩, .draft, []⟩ rfl ?_ (fun _ _ e hrel => hrel.modify e)
    intro e r he
    rcases hproduced.head he with ⟨command, rest, -, hhandle⟩
    rcases PurchaseOrder.handle_empty hhandle with ⟨e, rfl⟩
    exact PurchaseOrdersProjection.shows_created r _ e
  | party =>
    refine View.Shows.relates _ Party.apply PartyDirectoryProjection.Shows h.views
      ⟨⟨key.aggregateId⟩, .customer, "", none, none, .active⟩ rfl ?_
        (fun _ _ e hrel => hrel.modify e)
    intro e r he
    rcases hproduced.head he with ⟨command, rest, -, hhandle⟩
    rcases Party.handle_empty hhandle with ⟨e, rfl⟩
    exact ⟨rfl, rfl, rfl, rfl, rfl, rfl⟩
  | product =>
    refine View.Shows.relates _ Product.apply ProductCatalogProjection.Shows h.views
      ⟨⟨key.aggregateId⟩, "", "", .draft, .default⟩ rfl ?_ (fun _ _ e hrel => hrel.modify e)
    intro e r he
    rcases hproduced.head he with ⟨command, rest, -, hhandle⟩
    rcases Product.handle_empty hhandle with ⟨e, rfl⟩
    exact ⟨rfl, rfl, rfl, rfl, rfl⟩
  | invoice =>
    exact InvoicesProjection.show_of_shows (Invoice.lifecycle_of_produced hproduced)
      h.views.1 h.views.2

variable [TextFormat Uuid] [TextFormat DateTime] {stream : List StoredEvent}
  {accepted : List ((kind : AggregateKind) × kind.aggregate.Command)} {e : StoredEvent}
  (fresh : AggregateId) (now : DateTime)

-- A user's row is changed by the events of the user only,
theorem users_applyEnvelope_ne (hauthentic : Authentic e.key stream accepted)
    (hwf : InMemoryEventStore.WellFormedStream e.key stream) (he : e ∈ stream) (hkey : key ≠ e.key)
    : (readModels.applyEnvelope fresh now e.toEnvelope).2.users.get key.tenantId
          (.ofAggregateId key.aggregateId)
        =
      readModels.users.get key.tenantId (.ofAggregateId key.aggregateId) := by
  rw [ReadModels.users_applyEnvelope]
  split
  . next htype =>
    have htypes : ∀ e' ∈ stream, e'.aggregateType = aggregateType .user := by
      intro e' he'
      rw [hwf.type_eq e' he' e he]
      exact htype
    rcases hauthentic.sourced htypes with ⟨commands, -, hsourced⟩
    rcases hsourced.streamOf.getElem? (hwf.numbered.getElem?_of_mem he) with ⟨ev, hev, hdec⟩
    have hids := (produced_owned hsourced.produced).1 ev (List.mem_of_getElem? hev)
    rw [UsersProjection.applyEnvelope_eq htype hdec]
    apply UsersProjection.get_applyEvent_ne
    rintro ⟨htenant, huser⟩
    apply hkey
    have haggregate : key.aggregateId = e.aggregateId := by
      rw [← show ev.userId.aggregateId = e.aggregateId from hids.2, ← huser]
      rfl
    have htenant : key.tenantId = e.tenantId := htenant
    cases key
    dsimp only at haggregate htenant
    rw [haggregate, htenant]
    rfl
  . rfl

-- and shows the user again after the next of them.
theorem users_applyEnvelope {commands : List UserCommand}
    (hsourced : Sourced .user key stream commands)
    (hwf : InMemoryEventStore.WellFormedStream key stream)
    (he : stream[c]? = some e)
    (h : Answers .user key readModels
      (User.aggregate.rehydrate (User.blank key) ((history .user key commands).take c)))
    : Answers .user key (readModels.applyEnvelope fresh now e.toEnvelope).2
        (User.aggregate.rehydrate (User.blank key)
          ((history .user key commands).take (c + 1))) := by
  rcases hsourced.streamOf.getElem? he with ⟨ev, hev, hdec⟩
  have hmem := List.mem_of_getElem? he
  have htype : e.toEnvelope.aggregateType = "auth.user" := hsourced.type_eq e hmem
  have hkey : e.toEnvelope.tenantId = key.tenantId :=
    congrArg StreamKey.tenantId (hwf.key_eq e hmem)
  rcases User.steps_of_produced hsourced.produced c ev hev with ⟨command, -, hstep, -⟩
  have hid := ((produced_owned hsourced.produced).1 ev (List.mem_of_getElem? hev)).2
  have huser : ev.userId = .ofAggregateId key.aggregateId := by
    rw [← hid]
    rfl
  show UsersProjection.Shows
    ((readModels.applyEnvelope fresh now e.toEnvelope).2.users.get key.tenantId
      (.ofAggregateId key.aggregateId)) _
  rw [ReadModels.users_applyEnvelope, if_pos htype, UsersProjection.applyEnvelope_eq htype hdec,
    hkey]
  exact UsersProjection.Shows.next hev hstep huser h

omit [TextFormat Uuid] [TextFormat DateTime] in
theorem follows_new (kind : AggregateKind) (key : StreamKey) : kind.Follows key .new [] 0 := by
  cases kind with
  | ledger => exact ⟨trivial, fun _ => trivial⟩
  | user => exact ⟨trivial, fun _ => rfl⟩
  | invoice => exact ⟨⟨View.Shows.empty _ [], View.Shows.empty _ []⟩, fun hkind => by cases hkind⟩
  | inventoryItem => exact ⟨View.Shows.empty _ [], fun hkind => by cases hkind⟩
  | salesOrder => exact ⟨View.Shows.empty _ [], fun hkind => by cases hkind⟩
  | purchaseOrder => exact ⟨View.Shows.empty _ [], fun hkind => by cases hkind⟩
  | party => exact ⟨View.Shows.empty _ [], fun hkind => by cases hkind⟩
  | product => exact ⟨View.Shows.empty _ [], fun hkind => by cases hkind⟩

omit [TextFormat Uuid] [TextFormat DateTime] in
theorem Follows.append (h : kind.Follows key readModels evs c) (hc : c ≤ evs.length)
    (more : List kind.aggregate.Event) : kind.Follows key readModels (evs ++ more) c := by
  constructor
  . apply h.views.imp
    intro K R P view hshows
    exact hshows.append P.modify more
  . intro hkind
    rw [List.take_append_of_le_length hc]
    exact h.users hkind

variable {fresh now}

theorem Follows.receive_ne (h : kind.Follows key readModels evs c) (hinstep : readModels.InStep)
    (hauthentic : Authentic e.key stream accepted)
    (hwf : InMemoryEventStore.WellFormedStream e.key stream)
    (he : e ∈ stream) (hkey : key ≠ e.key)
    : kind.Follows key (readModels.applyEnvelope fresh now e.toEnvelope).2 evs c := by
  refine ⟨h.views.applyEnvelope_ne hinstep hkey, ?_⟩
  intro hkind
  subst hkind
  have hsame := @users_applyEnvelope_ne _ key readModels _ _ stream accepted e fresh now
    hauthentic hwf he hkey
  have husers := h.users rfl
  unfold Answers ReadModels.read at husers ⊢
  dsimp only at husers ⊢
  rw [hsame]
  exact husers

theorem Follows.receive {commands : List kind.aggregate.Command}
    (h : kind.Follows key readModels (kind.history key commands) c) (hinstep : readModels.InStep)
    (hsourced : kind.Sourced key stream commands)
    (hwf : InMemoryEventStore.WellFormedStream key stream)
    (he : stream[c]? = some e)
    : kind.Follows key (readModels.applyEnvelope fresh now e.toEnvelope).2
        (kind.history key commands)
        (c + 1) := by
  have hnumber := hwf.numbered.getElem? he
  have hseq : e.sequenceNumber = c + 1 := by omega
  constructor
  . apply h.views.feed hinstep hwf hsourced (List.mem_of_getElem? he)
    intro K R P view ev hev hrooted hshows
    rw [hseq, Nat.add_sub_cancel] at hev
    rw [hseq]
    exact hshows.accept P.modify hrooted (P.vacant fresh ev) hev
  . intro hkind
    subst hkind
    exact users_applyEnvelope fresh now hsourced hwf he (h.users rfl)

end AggregateKind

end ForgeErp
