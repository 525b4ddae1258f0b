import ForgeErp.Api.Lemmas.Views

/-!
This module contains what becomes of a row that has missed an event. The channel brings each event
once, a row takes nothing but the next one, and nobody sends what was refused again.
-/

namespace ForgeErp

namespace AggregateKind

/--
What the API may be asked about the row of a single aggregate.
-/
def rowQueries (kind : AggregateKind) (key : StreamKey) : List Query :=
  match kind with
  | .inventoryItem => [.inventoryGet key.tenantId ⟨key.aggregateId⟩]
  | .invoice => [.invoicesGet key.tenantId ⟨key.aggregateId⟩]
  | .ledger => []
  | .user => []
  | .salesOrder => [.salesGet key.tenantId ⟨key.aggregateId⟩]
  | .purchaseOrder => [.purchasesGet key.tenantId ⟨key.aggregateId⟩]
  | .party => [.partiesGet key.tenantId ⟨key.aggregateId⟩]
  | .product => [.productsGet key.tenantId ⟨key.aggregateId⟩]

-- The views that answer them, and the one of what is due
def views (kind : AggregateKind) (key : StreamKey) (readModels : ReadModels)
    : List ((R : Type) × View R) :=
  match kind with
  | .inventoryItem => [⟨_, InventoryStockProjection.projection.view readModels.inventory key⟩]
  | .invoice => [
      ⟨_, InvoicesProjection.projection.view readModels.invoices key⟩,
      ⟨_, InvoiceAgingProjection.projection.view readModels.arAging key⟩]
  | .ledger => []
  | .user => []
  | .salesOrder => [⟨_, SalesOrdersProjection.projection.view readModels.sales key⟩]
  | .purchaseOrder => [⟨_, PurchaseOrdersProjection.projection.view readModels.purchases key⟩]
  | .party => [⟨_, PartyDirectoryProjection.projection.view readModels.parties key⟩]
  | .product => [⟨_, ProductCatalogProjection.projection.view readModels.products key⟩]

variable {kind : AggregateKind} {key : StreamKey} {readModels readModels' : ReadModels}

theorem row_of_view {R : Type} {view view' : View R} {rest rest' : List ((R : Type) × View R)}
    (h : (⟨R, view'⟩ : (R : Type) × View R) :: rest' = ⟨R, view⟩ :: rest)
    : view'.row = view.row := by
  have hhead := (List.cons.inj h).1
  cases hhead
  rfl

theorem views_congr {R : Type} {view view' : View R} {rest rest' : List ((R : Type) × View R)}
    (h : view' = view) (hrest : rest' = rest)
    : (⟨R, view'⟩ : (R : Type) × View R) :: rest' = ⟨R, view⟩ :: rest := by
  rw [h, hrest]

theorem read_eq_of_views (h : kind.views key readModels' = kind.views key readModels)
    : ∀ query ∈ kind.rowQueries key, readModels'.read query = readModels.read query := by
  intro query hquery
  cases kind with
  | ledger => cases hquery
  | user => cases hquery
  | invoice =>
    rw [List.mem_singleton.mp hquery]
    exact row_of_view h
  | inventoryItem =>
    rw [List.mem_singleton.mp hquery]
    exact row_of_view h
  | salesOrder =>
    rw [List.mem_singleton.mp hquery]
    exact row_of_view h
  | purchaseOrder =>
    rw [List.mem_singleton.mp hquery]
    exact row_of_view h
  | party =>
    rw [List.mem_singleton.mp hquery]
    exact row_of_view h
  | product =>
    rw [List.mem_singleton.mp hquery]
    exact row_of_view h

variable [Lowercase] [TextFormat Uuid] [TextFormat DateTime] {fresh : AggregateId} {now : DateTime}
variable {env : EventEnvelope JsonValue}
variable {p : {K R : Type} → CursorProjection K R kind.aggregate.Event → View R → Prop}

theorem ForViews.views_applyEnvelope (h : kind.ForViews key readModels p)
    (hinstep : readModels.InStep)
    (hstep : ∀ (K R : Type) [DecidableEq K] (P : CursorProjection K R kind.aggregate.Event)
      (st : Projection K R), P.Reads kind → p P (P.view st key) →
        P.view (P.applyEnvelope fresh st env).2 key = P.view st key)
    : kind.views key (readModels.applyEnvelope fresh now env).2 = kind.views key readModels := by
  unfold views
  cases kind with
  | ledger => rfl
  | user => rfl
  | invoice =>
    dsimp only
    rw [ReadModels.invoices_applyEnvelope, hinstep.arAging_applyEnvelope]
    have hinvoices := hstep _ _ _ _ InvoicesProjection.reads h.1
    have hdue := hstep _ _ _ _ InvoiceAgingProjection.reads h.2
    exact views_congr hinvoices (views_congr hdue rfl)
  | inventoryItem =>
    dsimp only
    rw [ReadModels.inventory_applyEnvelope]
    exact views_congr (hstep _ _ _ _ InventoryStockProjection.reads h) rfl
  | salesOrder =>
    dsimp only
    rw [ReadModels.sales_applyEnvelope]
    exact views_congr (hstep _ _ _ _ SalesOrdersProjection.reads h) rfl
  | purchaseOrder =>
    dsimp only
    rw [ReadModels.purchases_applyEnvelope]
    exact views_congr (hstep _ _ _ _ PurchaseOrdersProjection.reads h) rfl
  | party =>
    dsimp only
    rw [ReadModels.parties_applyEnvelope]
    exact views_congr (hstep _ _ _ _ PartyDirectoryProjection.reads h) rfl
  | product =>
    dsimp only
    rw [ReadModels.products_applyEnvelope]
    exact views_congr (hstep _ _ _ _ ProductCatalogProjection.reads h) rfl

-- An envelope of the stream other than the next one leaves its views where they are.
theorem ForViews.stay {stream : List StoredEvent} {commands : List kind.aggregate.Command}
    {e : StoredEvent}
    {n : Nat} (h : kind.ForViews key readModels (fun _ view => view.cursor = n)) (hpos : n ≠ 0)
    (hinstep : readModels.InStep) (hwf : InMemoryEventStore.WellFormedStream key stream)
    (hsourced : kind.Sourced key stream commands)
    (he : e.key = key → e ∈ stream ∧ e.sequenceNumber ≠ n + 1)
    : kind.views key (readModels.applyEnvelope fresh now e.toEnvelope).2 = kind.views key readModels
      ∧ kind.ForViews key (readModels.applyEnvelope fresh now e.toEnvelope).2
          (fun _ view => view.cursor = n) := by
  have hstay : ∀ (K R : Type) [DecidableEq K] (P : CursorProjection K R kind.aggregate.Event)
      (st : Projection K R), P.Reads kind → (P.view st key).cursor = n →
        P.view (P.applyEnvelope fresh st e.toEnvelope).2 key = P.view st key := by
    intro K R _ P st hreads hcursor
    by_cases hkey : e.key = key
    . rcases he hkey with ⟨hmem, hne⟩
      rcases (hreads.feeds hwf hsourced).carries hmem with ⟨ev, hev, hcarries, henvelope, -⟩
      have hview := P.view_applyEnvelope_of_carries fresh st hcarries
      rw [henvelope] at hview
      rw [hview]
      apply View.feed_of_ne_succ
      . rw [hcursor]
        exact hpos
      . rw [hcursor]
        exact hne
    . exact P.view_applyEnvelope_ne fresh st (Ne.symm hkey)
  constructor
  . exact h.views_applyEnvelope hinstep hstay
  . apply h.applyEnvelope hinstep
    intro K R _ P st hreads hcursor
    rw [hstay K R P st hreads hcursor]
    exact hcursor

end AggregateKind

namespace Server

open CommandDispatcher

section Stranded

variable [Lowercase] [TextFormat Uuid] [TextFormat DateTime]

/--
The rows of the stream end at `n`, the next event is stored, and it is no longer under way.
-/
structure Stranded (s : State) (key : StreamKey) (kind : AggregateKind) (n : Nat) : Prop where
  started : n ≠ 0
  stored : n < (s.store.loadStream key).length
  type_eq : ∀ e ∈ s.store.loadStream key, e.aggregateType = kind.aggregateType
  queue : ∀ env ∈ s.queue, env.key = key → env.sequenceNumber ≠ n + 1
  pending : ∀ i, ∀ e ∈ (s.sessions i).pending, e.key = key → e.sequenceNumber ≠ n + 1
  rows : kind.ForViews key s.readModels (fun _ view => view.cursor = n)

variable {config : Config} {s s' : State} {key : StreamKey} {kind : AggregateKind} {n : Nat}

omit [TextFormat Uuid] [TextFormat DateTime] in
theorem Stranded.frame (h : Stranded s key kind n) (hlog : SameLog s s') (hrows : SameRows s s')
    (hqueue : ∀ env ∈ s'.queue, env.key = key → env.sequenceNumber ≠ n + 1)
    (hpending : ∀ i, ∀ e ∈ (s'.sessions i).pending, e.key = key → e.sequenceNumber ≠ n + 1)
    : Stranded s' key kind n := by
  refine ⟨h.started, ?_, ?_, hqueue, hpending, ?_⟩
  . rw [hlog.streams]
    exact h.stored
  . rw [hlog.streams]
    exact h.type_eq
  . rw [hrows.readModels]
    exact h.rows

-- What is appended comes after what the row has missed.
theorem Stranded.append (h : Stranded s key kind n) (hinv' : Inv config s') {i : Nat}
    {call : DispatchCall}
    {committed : List StoredEvent}
    (hstreams : ∀ key, s'.store.loadStream key
      = if key = call.key then s.store.loadStream call.key ++ committed else s.store.loadStream key)
    (hrows : SameRows s s') (hqueue : s'.queue = s.queue)
    (hpending : ∀ j, (s'.sessions j).pending = if j = i then committed else (s.sessions j).pending)
    : Stranded s' key kind n := by
  have hgrow : ∃ more, s'.store.loadStream key = s.store.loadStream key ++ more := by
    rw [hstreams]
    split
    . next hkey => exact ⟨committed, by rw [hkey]⟩
    . exact ⟨[], (List.append_nil _).symm⟩
  rcases hgrow with ⟨more, hmore⟩
  have hwf' := hinv'.wellFormed key
  refine ⟨h.started, ?_, ?_, ?_, ?_, ?_⟩
  . rw [hmore, List.length_append]
    exact Nat.lt_add_right _ h.stored
  . intro e he
    rcases List.exists_mem_of_length_pos (Nat.zero_lt_of_lt h.stored) with ⟨first, hfirst⟩
    rw [← h.type_eq first hfirst]
    apply hwf'.type_eq e he
    rw [hmore]
    exact List.mem_append_left _ hfirst
  . rw [hqueue]
    exact h.queue
  . intro j e he hkey
    rw [hpending] at he
    split at he
    . have hlater : s'.store.loadStream call.key = s.store.loadStream call.key ++ committed := by
        rw [hstreams, if_pos rfl]
      have hsame := (hinv'.wellFormed call.key).key_eq e
        (by rw [hlater]; exact List.mem_append_right _ he)
      have hnumbered := (hinv'.wellFormed call.key).numbered
      rw [hlater, NumberedFrom.append_iff] at hnumbered
      have hbounds := (hnumbered.2.mem_bounds he).1
      have hstored := h.stored
      rw [← hkey, hsame] at hstored
      omega
    . exact h.pending j e he hkey
  . rw [hrows.readModels]
    exact h.rows

theorem Stranded.project (h : Stranded s key kind n) (hinv : Inv config s)
    (hlagging : Lagging s) {env : EventEnvelope JsonValue} (henv : env ∈ s.queue)
    (fresh : AggregateId)
    (now : DateTime)
    : kind.views key (s.readModels.project fresh now env).2 = kind.views key s.readModels
      ∧ kind.ForViews key (s.readModels.project fresh now env).2
          (fun _ view => view.cursor = n) := by
  rcases hinv.channels with ⟨toReadModels, toSaga, hbus, hqueued⟩
  rw [queue_of_bus hbus] at henv
  rcases hqueued env (List.mem_append_left _ henv) with ⟨e, he, rfl⟩
  rcases (hinv.authentic key).sourced h.type_eq with ⟨commands, -, hsourced⟩
  apply h.rows.stay h.started hlagging.inStep (hinv.wellFormed key) hsourced
  intro hkey
  subst hkey
  refine ⟨he, h.queue e.toEnvelope ?_ rfl⟩
  rw [queue_of_bus hbus]
  exact henv

theorem Effect.stranded (h : Stranded s key kind n) (hinv : Inv config s) (hinv' : Inv config s')
    (hlagging : Lagging s) (heffect : Effect s s')
    : kind.views key s'.readModels = kind.views key s.readModels ∧ Stranded s' key kind n := by
  cases heffect with
  | quiet hlog hrows hqueue hpending =>
    refine ⟨by rw [hrows.readModels], h.frame hlog hrows ?_ ?_⟩
    . rw [hqueue]
      exact h.queue
    . intro i
      rw [hpending]
      exact h.pending i
  | append _ hstreams hrows hqueue _ hpending =>
    exact ⟨by rw [hrows.readModels], h.append hinv' hstreams hrows hqueue hpending⟩
  | @publish i stored rest hlog hrows hqueue hfirst hpending =>
    refine ⟨by rw [hrows.readModels], h.frame hlog hrows ?_ ?_⟩
    . intro env henv
      rw [hqueue, List.mem_append, List.mem_singleton] at henv
      cases henv with
      | inl henv => exact h.queue env henv
      | inr henv =>
        rw [henv]
        apply h.pending i
        rw [hfirst]
        exact List.mem_cons_self
    . intro j e he
      rw [hpending] at he
      split at he
      . apply h.pending i
        rw [hfirst]
        exact List.mem_cons_of_mem _ he
      . exact h.pending j e he
  | @project fresh now env hlog hqueue hreadModels hrealtime hpending =>
    have hstay := h.project hinv hlagging (by rw [hqueue]; exact List.mem_cons_self) fresh now
    rw [← hreadModels] at hstay
    refine ⟨hstay.1, h.started, ?_, ?_, ?_, ?_, hstay.2⟩
    . rw [hlog.streams]
      exact h.stored
    . rw [hlog.streams]
      exact h.type_eq
    . intro env' henv'
      apply h.queue
      rw [hqueue]
      exact List.mem_cons_of_mem _ henv'
    . intro i
      rw [hpending]
      exact h.pending i

end Stranded

section Runs

variable [Lowercase] [TextFormat Uuid] [TextFormat DateTime] [ResponseText] [Rfc3339] [ParseRfc3339]

theorem stranded_rows_stay (config : Config) (s : State) (h : (system config).Reachable s)
    (key : StreamKey)
    (kind : AggregateKind) (n : Nat) (hstranded : Stranded s key kind n)
    (actions : List Action) (s' : State)
    (hrun : (system config).run s actions = some s')
    : Stranded s' key kind n
        ∧ ∀ query ∈ kind.rowQueries key, s'.readModels.read query = s.readModels.read query := by
  have hboth : (Inv config s' ∧ Lagging s')
      ∧ kind.views key s'.readModels = kind.views key s.readModels ∧ Stranded s' key kind n := by
    apply Machine.run_invariant _ ⟨lagging_of_reachable h, rfl, hstranded⟩ hrun
    rintro t action t' ⟨⟨hinv, hlagging⟩, hviews, hstill⟩ hstep
    have hsteps := steps_of_step hstep
    have hinv' := inv_steps hinv hsteps
    have heffect := effect_of_steps hinv hsteps
    rcases heffect.stranded hstill hinv hinv' hlagging with ⟨hviews', hstill'⟩
    exact ⟨⟨hinv', heffect.lagging hlagging hinv⟩, hviews'.trans hviews, hstill'⟩
  exact ⟨hboth.2.2, AggregateKind.read_eq_of_views hboth.2.1⟩

end Runs

end Server

namespace Workshop

open Concrete Server

-- After the race a third adjustment does not show either.
def later : List Action := [
  adjust 3 1, .advance 3, .advance 3, .advance 3, .advance 3, .project ⟨⟨0⟩⟩ ⟨0⟩]

theorem racing_stranded
    : ∃ s, (system config).run initial racing = some s ∧ Stranded s key .inventoryItem 2
        ∧ ∃ s', (system config).run s later = some s' ∧ (s'.store.loadStream key).length = 4 := by
  have hrun : ∃ s, (system config).run initial racing = some s
      ∧ (s.store.loadStream key).map StoredEvent.aggregateType
        = ["inventory.item", "inventory.item", "inventory.item"]
      ∧ s.queue = []
      ∧ AggregateKind.ForViews .inventoryItem key s.readModels (fun _ view => view.cursor = 2)
      ∧ (s.sessions 0).pending = [] ∧ (s.sessions 1).pending = [] ∧ (s.sessions 2).pending = []
      ∧ (∀ i, (s.sessions (i + 3)).pending = [])
      ∧ ∃ s', (system config).run s later = some s' ∧ (s'.store.loadStream key).length = 4 :=
    ⟨_, rfl, rfl, rfl, rfl, rfl, rfl, rfl, fun _ => rfl, _, rfl, rfl⟩
  rcases hrun with ⟨s, hs, htypes, hqueue, hrows, hzero, hone, htwo, hothers, hlater⟩
  have hlength : (s.store.loadStream key).length = 3 := by
    rw [← List.length_map, htypes]
    rfl
  refine ⟨s, hs, ⟨by decide, by omega, ?_, ?_, ?_, hrows⟩, hlater⟩
  . intro e he
    have htype := List.mem_map_of_mem (f := StoredEvent.aggregateType) he
    rw [htypes] at htype
    have hitem : e.aggregateType = "inventory.item" := by simpa using htype
    exact hitem
  . intro env henv
    rw [hqueue] at henv
    cases henv
  . intro i e he
    have hnone : (s.sessions i).pending = [] := by
      match i with
      | 0 => exact hzero
      | 1 => exact hone
      | 2 => exact htwo
      | i + 3 => exact hothers i
    rw [hnone] at he
    cases he

theorem stranded_rows_stay_racing
    : ∃ s s', (system config).run initial racing = some s ∧ (system config).run s later = some s'
        ∧ (s'.store.loadStream key).length = 4
        ∧ Stranded s' key .inventoryItem 2
        ∧ s'.readModels.read (.inventoryGet key.tenantId ⟨key.aggregateId⟩)
          = s.readModels.read (.inventoryGet key.tenantId ⟨key.aggregateId⟩) := by
  rcases racing_stranded with ⟨s, hs, hstranded, s', hs', hlength⟩
  rcases stranded_rows_stay config s (reachable_of_run racing hs) key .inventoryItem 2 hstranded
      later s' hs' with
    ⟨hstill, hread⟩
  exact ⟨s, s', hs, hs', hlength, hstill, hread _ (List.mem_singleton.mpr rfl)⟩

end Workshop
end ForgeErp
