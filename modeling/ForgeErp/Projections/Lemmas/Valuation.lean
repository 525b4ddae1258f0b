import ForgeErp.Domain.Lemmas.Decisions
import ForgeErp.Library.Machine
import ForgeErp.Projections.Impl.Summaries
import ForgeErp.Projections.Lemmas.Guarded

/-!
This module contains the verification of the inventory valuation. A row is the state of its item and
a cost that somebody set; its value follows from the two, as far as it fits into 64 bits.
-/

namespace ForgeErp

namespace InventoryItem

def after (id : InventoryItemId) (evs : List InventoryEvent) (n : Nat) : InventoryItem :=
  (evs.take n).foldl apply (empty id)

theorem after_succ {id : InventoryItemId} {evs : List InventoryEvent} {n : Nat}
    {ev : InventoryEvent} (h : evs[n]? = some ev)
    : after id evs (n + 1) = (after id evs n).apply ev := by
  unfold after
  rw [List.take_add_one, h, List.foldl_append]
  rfl

theorem handle_stock {item : InventoryItem} {command : InventoryCommand}
    {decided : List InventoryEvent} (h : item.handle command = .ok decided)
    : ∃ ev, decided = [ev] ∧ 0 ≤ (item.apply ev).stock := by
  cases command with
  | createItem cmd =>
    rcases handleCreate_eq_ok_iff.mp h with ⟨_, _, rfl⟩
    exact ⟨_, rfl, Int64.le_refl 0⟩
  | adjustStock cmd =>
    rcases handleAdjust_eq_ok_iff.mp h with ⟨_, _, _, _, hstock, rfl⟩
    rw [Int64.not_lt] at hstock
    exact ⟨_, rfl, hstock⟩

theorem after_concat (id : InventoryItemId) (evs : List InventoryEvent)
    (ev : InventoryEvent) (n : Nat)
    : after id (evs ++ [ev]) n
        =
      if n ≤ evs.length then after id evs n else (evs.foldl apply (empty id)).apply ev := by
  unfold after
  split
  . next hn => rw [List.take_append_of_le_length hn]
  . next hn =>
    have hlength : (evs ++ [ev]).length ≤ n := by
      rw [List.length_append, List.length_singleton]
      omega
    rw [List.take_of_length_le hlength, List.foldl_append]
    rfl

theorem stock_nonneg_concat {id : InventoryItemId} {evs : List InventoryEvent} {ev : InventoryEvent}
    (h : ∀ n, 0 ≤ (after id evs n).stock)
    (hlast : 0 ≤ ((evs.foldl apply (empty id)).apply ev).stock) (n : Nat)
    : 0 ≤ (after id (evs ++ [ev]) n).stock := by
  rw [after_concat]
  split
  . exact h n
  . exact hlast

theorem stock_nonneg {ok : InventoryCommand → Prop} {id : InventoryItemId}
    {evs : List aggregate.Event} (h : aggregate.Produced ok (empty id) evs)
    : ∀ n, 0 ≤ (after id evs n).stock := by
  induction h with
  | nil =>
    intro n
    cases n with
    | zero => exact Int64.le_refl 0
    | succ n => exact Int64.le_refl 0
  | step command _ _ hhandle ih =>
    rcases handle_stock hhandle with ⟨ev, rfl, hstock⟩
    exact stock_nonneg_concat ih hstock

end InventoryItem

namespace InventoryValuationProjection

/--
The value is the product of quantity and cost, or the largest one there is.
-/
structure Valued (row : InventoryValuation) : Prop where
  quantity : 0 ≤ row.quantity
  totalValue : row.totalValue.map (·.toNat)
    = row.unitCost.map (fun unitCost =>
        min (row.quantity.toInt.toNat * unitCost.toNat) (2 ^ 64 - 1))

/--
The rebuild succeeds and has the same items in stock, and a row without a cost is the same row.
-/
structure RebuildKeeps [TextFormat Uuid] [TextFormat DateTime] (fresh : Nat → AggregateId)
    (st : Projection InventoryItemId InventoryValuation)
    (envelopes : List (EventEnvelope JsonValue)) : Prop where
  completes : (projection.rebuildFromScratch fresh st envelopes).1 = .ok ()
  stock : ∀ t item,
    ((projection.rebuildFromScratch fresh st envelopes).2.store.get t item).map
        (fun row => (row.itemId, row.name, row.quantity))
      = (st.store.get t item).map (fun row => (row.itemId, row.name, row.quantity))
  unpriced : ∀ t item row, st.store.get t item = some row → row.unitCost = none →
    (projection.rebuildFromScratch fresh st envelopes).2.store.get t item = some row

-- `seen` counts the events of every stream that have been applied.
structure Shelf where
  st : Projection InventoryItemId InventoryValuation
  seen : StreamKey → Nat

inductive Call where
  | apply (fresh : AggregateId) (e : StoredEvent)
  | setUnitCost (tenantId : TenantId) (itemId : InventoryItemId) (unitCost : UInt64)
  | rebuild (fresh : Nat → AggregateId) (envelopes : List (EventEnvelope JsonValue))

variable [TextFormat Uuid] [TextFormat DateTime]

namespace Shelf

def apply (s : Shelf) (fresh : AggregateId) (e : StoredEvent) : Shelf where
  st := (projection.applyEnvelope fresh s.st e.toEnvelope).2
  seen := fun key => if key = e.key then max (s.seen key) e.sequenceNumber else s.seen key

def setUnitCost (s : Shelf) (tenantId : TenantId) (itemId : InventoryItemId) (unitCost : UInt64)
    : Shelf :=
  { s with st := InventoryValuationProjection.setUnitCost s.st tenantId itemId unitCost }

def rebuild (s : Shelf) (fresh : Nat → AggregateId) (envelopes : List (EventEnvelope JsonValue))
    : Shelf :=
  { s with st := (projection.rebuildFromScratch fresh s.st envelopes).2 }

end Shelf

def shelf : Machine Shelf Call where
  init s :=
    s.st.store = .new ∧ (∀ key, s.st.getCursor key = 0) ∧ ∀ key, s.seen key = 0
  step s call :=
    match call with
    | .apply fresh e => some (s.apply fresh e)
    | .setUnitCost tenantId itemId unitCost => some (s.setUnitCost tenantId itemId unitCost)
    | .rebuild fresh envelopes => some (s.rebuild fresh envelopes)

variable (log : List StoredEvent)

def seenLog (s : Shelf) : List StoredEvent :=
  log.filter (fun e => e.sequenceNumber ≤ s.seen e.key)

-- No event overtakes an earlier one, and a rebuild is handed all that has been applied.
def Admissible (s : Shelf) (call : Call) : Prop :=
  match call with
  | .apply _ e => e ∈ log ∧ e.sequenceNumber ≤ s.seen e.key + 1
  | .setUnitCost _ _ _ => True
  | .rebuild _ envelopes => envelopes.Perm ((seenLog log s).map StoredEvent.toEnvelope)

def InventoryLog : Prop :=
  ProducedLog (E := InventoryEvent) (fun key evs =>
    InventoryItem.aggregate.Produced (InventoryStockProjection.CommandFor key)
      (InventoryItem.empty ⟨key.aggregateId⟩) evs) log

def itemOf (s : Shelf) (key : StreamKey) : InventoryItem :=
  InventoryItem.after ⟨key.aggregateId⟩ (eventsIn InventoryEvent log key) (s.seen key)

def rowOf (item : InventoryItem) (unitCost : Option UInt64) : InventoryValuation :=
  InventoryValuation.recalculateValue {
    itemId := item.id
    name := item.name
    quantity := item.stock
    unitCost
    totalValue := none
  }

def shown (s : Shelf) (key : StreamKey) (unitCost : Option UInt64) : View InventoryValuation where
  cursor := s.seen key
  row := if s.seen key = 0 then none else some (rowOf (itemOf log s key) unitCost)

structure Tracks (s : Shelf) : Prop where
  bound : ∀ key, s.seen key ≤ (eventsIn InventoryEvent log key).length
  view : ∀ key, ∃ unitCost, projection.view s.st key = shown log s key unitCost

variable {log} in
theorem Tracks.get_eq {s : Shelf} (h : Tracks log s) (t : TenantId) (item : InventoryItemId)
    : ∃ unitCost, s.st.store.get t item = (shown log s ⟨t, item.aggregateId⟩ unitCost).row := by
  rcases h.view ⟨t, item.aggregateId⟩ with ⟨unitCost, hview⟩
  exact ⟨unitCost, congrArg View.row hview⟩

omit [TextFormat Uuid] [TextFormat DateTime] in
theorem modify_rowOf (item : InventoryItem) (unitCost : Option UInt64) (ev : InventoryEvent)
    : ∃ unitCost', projection.modify (rowOf item unitCost) ev
        = rowOf (item.apply ev) unitCost' := by
  cases ev with
  | itemCreated e => exact ⟨none, rfl⟩
  | stockAdjusted e => exact ⟨unitCost, rfl⟩

section Steps

variable {log} {s s' : Shelf} (hlog : InventoryLog log)
  (htype : ∀ e ∈ log, e.aggregateType = "inventory.item")

include hlog in
theorem first_created {key : StreamKey} {ev : InventoryEvent}
    (hev : (eventsIn InventoryEvent log key)[0]? = some ev) : ∃ e, ev = .itemCreated e := by
  rw [← List.head?_eq_getElem?] at hev
  rcases (ProducedLog.events hlog key).1.head hev with ⟨command, rest, _, hhandle⟩
  exact InventoryItem.handle_empty hhandle

include hlog htype in
theorem carries_event {e : StoredEvent} (he : e ∈ log)
    : ∃ ev, 1 ≤ e.sequenceNumber
        ∧ (eventsIn InventoryEvent log e.key)[e.sequenceNumber - 1]? = some ev
        ∧ projection.Carries e.toEnvelope ev := by
  rcases ProducedLog.event hlog he with ⟨ev, hpos, hev, hdec⟩
  have hids := InventoryStockProjection.ids_of_produced (ProducedLog.events hlog e.key).1 ev
    (List.mem_of_getElem? hev)
  exact ⟨ev, hpos, hev, htype e he, hdec, hids.1, congrArg InventoryItemId.aggregateId hids.2⟩

theorem shown_congr {key : StreamKey} (hseen : s'.seen key = s.seen key) (unitCost : Option UInt64)
    : shown log s' key unitCost = shown log s key unitCost := by
  rw [shown, shown, itemOf, itemOf, hseen]

include hlog in
theorem feed_shown {key : StreamKey} {ev : InventoryEvent} {unitCost : Option UInt64}
    (hev : (eventsIn InventoryEvent log key)[s.seen key]? = some ev)
    (hseen : s'.seen key = s.seen key + 1) (vacant : InventoryValuation)
    : ∃ unitCost', (shown log s key unitCost).feed projection.modify (s.seen key + 1) vacant ev
        = shown log s' key unitCost' := by
  have hgate : View.gate (shown log s key unitCost).cursor (s.seen key + 1) = .accept := by
    rw [View.gate_eq_accept_iff]
    exact ⟨Nat.lt_succ_self _, Or.inl rfl⟩
  have hitem : itemOf log s' key = (itemOf log s key).apply ev := by
    rw [itemOf, hseen]
    exact InventoryItem.after_succ hev
  have hmodify : ∃ unitCost', projection.modify ((shown log s key unitCost).row.getD vacant) ev
      = rowOf ((itemOf log s key).apply ev) unitCost' := by
    unfold shown
    dsimp only
    split
    . next hzero =>
      rw [hzero] at hev
      rcases first_created hlog hev with ⟨e, rfl⟩
      exact ⟨none, rfl⟩
    . exact modify_rowOf (itemOf log s key) unitCost ev
  rcases hmodify with ⟨unitCost', hmodify⟩
  refine ⟨unitCost', ?_⟩
  rw [View.feed_of_accept _ hgate, hmodify]
  unfold shown
  rw [hseen, hitem, if_neg (Nat.succ_ne_zero _)]

include hlog htype in
theorem tracks_apply {fresh : AggregateId} {e : StoredEvent} (h : Tracks log s) (he : e ∈ log)
    (hle : e.sequenceNumber ≤ s.seen e.key + 1)
    : Tracks log (s.apply fresh e) := by
  rcases carries_event hlog htype he with ⟨ev, hpos, hev, hcarries⟩
  have hst : (s.apply fresh e).st = (projection.applyEnvelope fresh s.st e.toEnvelope).2 := rfl
  have hseen : ∀ key, (s.apply fresh e).seen key
      = if key = e.key then max (s.seen key) e.sequenceNumber else s.seen key := fun _ => rfl
  have hkey : e.toEnvelope.key = e.key := rfl
  have hseq : e.toEnvelope.sequenceNumber = e.sequenceNumber := rfl
  constructor
  . intro key
    rw [hseen]
    split
    . next heq =>
      subst heq
      have hlength := (List.getElem?_eq_some_iff.mp hev).1
      have := h.bound e.key
      omega
    . exact h.bound key
  . intro key
    rw [hst]
    by_cases heq : key = e.key
    . subst heq
      rcases h.view e.key with ⟨unitCost, hview⟩
      have hfeed := projection.view_applyEnvelope_of_carries fresh s.st hcarries
      have hself := hseen e.key
      rw [hkey, hseq, hview] at hfeed
      rw [if_pos rfl] at hself
      rw [hfeed]
      by_cases hnext : e.sequenceNumber = s.seen e.key + 1
      . rw [hnext, Nat.add_sub_cancel] at hev
        rw [hnext]
        apply feed_shown hlog hev
        omega
      . have hgate : View.gate (shown log s e.key unitCost).cursor e.sequenceNumber ≠ .accept := by
          rw [ne_eq, View.gate_eq_accept_iff]
          have hcursor : (shown log s e.key unitCost).cursor = s.seen e.key := rfl
          omega
        refine ⟨unitCost, ?_⟩
        rw [View.feed_of_not_accept _ hgate, shown_congr]
        omega
    . rcases h.view key with ⟨unitCost, hview⟩
      refine ⟨unitCost, ?_⟩
      have hother := hseen key
      rw [if_neg heq] at hother
      rw [projection.view_applyEnvelope_ne fresh s.st (by rw [hkey]; exact heq), hview,
        shown_congr hother]

omit [TextFormat Uuid] [TextFormat DateTime] in
theorem view_setUnitCost (st : Projection InventoryItemId InventoryValuation) (tenantId : TenantId)
    (itemId : InventoryItemId) (unitCost : UInt64) (key : StreamKey)
    : projection.view (setUnitCost st tenantId itemId unitCost) key
        =
      if key = ⟨tenantId, itemId.aggregateId⟩ then
        ⟨st.getCursor key, (st.store.get tenantId itemId).map (fun val =>
          InventoryValuation.recalculateValue { val with unitCost := some unitCost })⟩
      else
        projection.view st key := by
  unfold setUnitCost CursorProjection.view
  split
  . next val hval =>
    split
    . next heq =>
      subst heq
      rw [hval]
      congr 1
      exact KeyMap.get_insert_self _ _ _
    . next hne =>
      congr 1
      apply KeyMap.get_insert_ne
      intro heq
      apply hne
      rw [Prod.mk.injEq] at heq
      rw [← heq.1, ← heq.2]
      rfl
  . next hval =>
    split
    . next heq =>
      subst heq
      rw [hval]
      congr 1
    . rfl

theorem tracks_setUnitCost {tenantId : TenantId} {itemId : InventoryItemId} {unitCost : UInt64}
    (h : Tracks log s) : Tracks log (s.setUnitCost tenantId itemId unitCost) := by
  refine ⟨h.bound, ?_⟩
  intro key
  rcases h.view key with ⟨before, hview⟩
  unfold Shelf.setUnitCost
  rw [view_setUnitCost]
  split
  . next heq =>
    refine ⟨some unitCost, ?_⟩
    have hcursor : s.st.getCursor key = s.seen key := congrArg View.cursor hview
    have hrow : s.st.store.get tenantId itemId = (shown log s key before).row := by
      rw [← hview, heq]
      rfl
    rw [hcursor, hrow]
    unfold shown
    dsimp only
    split
    . rfl
    . rfl
  . exact ⟨before, hview⟩

end Steps

section Rebuild

variable {log} {s : Shelf} {envelopes : List (EventEnvelope JsonValue)} (hlog : InventoryLog log)
  (htype : ∀ e ∈ log, e.aggregateType = "inventory.item")
  (hperm : envelopes.Perm ((seenLog log s).map StoredEvent.toEnvelope))

include hlog in
theorem streamIn_seenLog (s : Shelf) (key : StreamKey)
    : CursorProjection.streamIn (seenLog log s) key
        =
      (CursorProjection.streamIn log key).take (s.seen key) := by
  rw [← (hlog.wellFormed key).numbered.filter_lt (s.seen key)]
  unfold CursorProjection.streamIn seenLog
  rw [List.filter_filter, List.filter_filter]
  apply List.filter_congr
  intro e _
  by_cases hkey : e.key = key
  . have hlt : e.sequenceNumber ≤ s.seen key ↔ e.sequenceNumber < 1 + s.seen key := by omega
    simp [hkey, hlt]
  . simp [hkey]

include hlog htype in
theorem feeds_seenLog (s : Shelf) (key : StreamKey)
    : projection.Feeds key (CursorProjection.streamIn (seenLog log s) key)
        ((eventsIn InventoryEvent log key).take (s.seen key)) := by
  rcases hlog.produced key with ⟨evs, htyped, hproduced⟩
  rw [eventsIn_eq htyped, streamIn_seenLog hlog]
  have hids := InventoryStockProjection.ids_of_produced hproduced
  refine ⟨(hlog.wellFormed key).take _, htyped.take _, ?_, ?_, ?_⟩
  . intro e he
    have hmem := List.mem_of_mem_take he
    rw [CursorProjection.mem_streamIn] at hmem
    exact htype e hmem.1
  . intro ev hev
    exact (hids ev (List.mem_of_mem_take hev)).1
  . intro ev hev
    exact congrArg InventoryItemId.aggregateId (hids ev (List.mem_of_mem_take hev)).2

include hlog in
theorem rooted_take (key : StreamKey) (n : Nat)
    : View.Rooted projection.modify ((eventsIn InventoryEvent log key).take n) := by
  intro ev hev r r'
  have hfirst : (eventsIn InventoryEvent log key)[0]? = some ev := by
    cases n with
    | zero =>
      rw [List.take_zero] at hev
      cases hev
    | succ n =>
      rw [List.head?_take, if_neg (Nat.succ_ne_zero n)] at hev
      rw [← List.head?_eq_getElem?]
      exact hev
  rcases first_created hlog hfirst with ⟨e, rfl⟩
  rfl

include hlog htype in
theorem complete_seenLog (s : Shelf)
    : projection.CompleteLog (fun _ evs => View.Rooted projection.modify evs) (seenLog log s) := by
  constructor
  . intro key
    exact (feeds_seenLog hlog htype s key).wellFormed
  . intro key _
    have hfeeds := feeds_seenLog hlog htype s key
    exact ⟨_, hfeeds.typed, rooted_take hlog key _,
      fun ev hev => ⟨hfeeds.tenant ev hev, hfeeds.aggregate ev hev⟩⟩

omit [TextFormat Uuid] [TextFormat DateTime] in
theorem foldl_modify (item : InventoryItem) (evs : List InventoryEvent)
    : evs.foldl projection.modify (rowOf item none)
        = rowOf (evs.foldl InventoryItem.apply item) none := by
  induction evs generalizing item with
  | nil => rfl
  | cons ev evs ih =>
    have hmodify : projection.modify (rowOf item none) ev = rowOf (item.apply ev) none := by
      cases ev with
      | itemCreated e => rfl
      | stockAdjusted e => rfl
    rw [List.foldl_cons, hmodify, ih]
    rfl

include hlog in
theorem seen_eq_zero (h : Tracks log s) {key : StreamKey}
    (hperm : envelopes.Perm ((seenLog log s).map StoredEvent.toEnvelope))
    (htenant : ¬ ∃ env ∈ envelopes, env.tenantId = key.tenantId) : s.seen key = 0 := by
  by_contra hseen
  have hlength : 0 < (CursorProjection.streamIn (seenLog log s) key).length := by
    have := (ProducedLog.events hlog key).2
    have := h.bound key
    rw [streamIn_seenLog hlog, List.length_take]
    omega
  rcases List.exists_mem_of_length_pos hlength with ⟨e, he⟩
  rw [CursorProjection.mem_streamIn] at he
  apply htenant
  refine ⟨e.toEnvelope, ?_, congrArg StreamKey.tenantId he.2⟩
  rw [hperm.mem_iff]
  exact List.mem_map_of_mem he.1

include hlog htype hperm in
theorem view_rebuild (h : Tracks log s) (fresh : Nat → AggregateId)
    : (projection.rebuildFromScratch fresh s.st envelopes).1 = .ok ()
      ∧ ∀ key, projection.view (projection.rebuildFromScratch fresh s.st envelopes).2 key
          = shown log s key none := by
  have hcomplete := complete_seenLog hlog htype s
  have hmem : ∀ env, env ∈ envelopes ↔ ∃ e ∈ seenLog log s, env = e.toEnvelope := by
    intro env
    rw [hperm.mem_iff, List.mem_map]
    simp only [eq_comm]
  rcases hcomplete.rebuild_upToDate (fun _ _ hrooted => hrooted) hmem fresh s.st
      with ⟨heq, hrebuilt⟩
  refine ⟨by rw [heq], ?_⟩
  intro key
  by_cases htenant : ∃ env ∈ envelopes, env.tenantId = key.tenantId
  . rcases hrebuilt key _ htenant (feeds_seenLog hlog htype s key) (rooted_take hlog key _) with
      ⟨c, hc, hshows⟩
    have hlength : (CursorProjection.streamIn (seenLog log s) key).length = s.seen key := by
      have := (ProducedLog.events hlog key).2
      have := h.bound key
      rw [streamIn_seenLog hlog, List.length_take]
      omega
    have hreached := hc.unique _ _ (hcomplete.reached (by simpa using hmem) key)
    rw [hreached, hlength] at hshows
    have hrow := hshows.row (rowOf (InventoryItem.empty ⟨key.aggregateId⟩) none)
    rw [List.take_take, Nat.min_self] at hrow
    have hview : projection.view (projection.rebuildFromScratch fresh s.st envelopes).2 key
        = ⟨s.seen key, View.project projection.modify
            (rowOf (InventoryItem.empty ⟨key.aggregateId⟩) none)
            ((eventsIn InventoryEvent log key).take (s.seen key))⟩ := by
      rw [← hrow, ← hshows.cursor]
    rw [hview]
    unfold shown View.project
    congr 1
    by_cases hzero : s.seen key = 0
    . rw [if_pos hzero, hzero]
      rfl
    . have hne : ((eventsIn InventoryEvent log key).take (s.seen key)).isEmpty = false := by
        rw [List.isEmpty_eq_false_iff, ← List.length_pos_iff_ne_nil, List.length_take]
        have := h.bound key
        omega
      rw [if_neg hzero, hne, foldl_modify]
      rfl
  . have hzero := seen_eq_zero hlog h hperm htenant
    rcases h.view key with ⟨unitCost, hview⟩
    have hother : ∀ d ∈ CursorProjection.rebuildCalls fresh envelopes,
        d.2.key ≠ key ∨ d.2.aggregateType ≠ projection.aggregateType := by
      intro d hd
      left
      rintro rfl
      exact htenant ⟨d.2, CursorProjection.mem_of_mem_rebuildCalls hd, rfl⟩
    rw [heq, projection.view_deliver_of_ne hother, projection.view_clearTenants, if_neg, hview]
    . unfold shown
      rw [if_pos hzero, if_pos hzero]
    . rw [CursorProjection.mem_tenantsOf]
      exact htenant

end Rebuild

section Runs

omit [TextFormat Uuid] [TextFormat DateTime] in
theorem toNat_saturatingMul (a b : UInt64)
    : (saturatingMul a b).toNat = min (a.toNat * b.toNat) (2 ^ 64 - 1) := by
  unfold saturatingMul
  split
  . next h =>
    rw [UInt64.toNat_mul, Nat.mod_eq_of_lt h]
    omega
  . next h =>
    have hmax : (UInt64.ofNat (2 ^ 64 - 1)).toNat = 2 ^ 64 - 1 := rfl
    omega

omit [TextFormat Uuid] [TextFormat DateTime] in
theorem valued_rowOf {item : InventoryItem} (h : 0 ≤ item.stock) (unitCost : Option UInt64)
    : Valued (rowOf item unitCost) := by
  refine ⟨h, ?_⟩
  cases unitCost with
  | none => rfl
  | some unitCost =>
    have hvalue : (rowOf item (some unitCost)).totalValue
        = some (if item.stock > 0 then saturatingMul item.stock.toUInt64 unitCost else 0) := rfl
    rw [hvalue]
    simp only [Option.map_some]
    congr 1
    have hquantity : (rowOf item (some unitCost)).quantity = item.stock := rfl
    rw [hquantity]
    split
    . rw [toNat_saturatingMul, Int64.toNat_toUInt64_of_le h]
      rfl
    . next hzero =>
      -- the stock is zero
      have hle : item.stock.toInt ≤ 0 := by
        have := Int64.le_iff_toInt_le.mp (Int64.not_lt.mp hzero)
        exact this
      dsimp only
      rw [Int.toNat_of_nonpos hle, Nat.zero_mul]
      rfl

variable {log} {s : Shelf} (hlog : InventoryLog log)
  (htype : ∀ e ∈ log, e.aggregateType = "inventory.item")

include hlog htype

theorem tracks_of_reachable (hs : shelf.ReachableUnder (Admissible log) s) : Tracks log s := by
  revert s
  apply Machine.ReachableUnder.invariant
  . intro s hinit
    rcases hinit with ⟨hstore, hcursor, hseen⟩
    constructor
    . intro key
      rw [hseen key]
      omega
    . intro key
      refine ⟨none, ?_⟩
      unfold CursorProjection.view shown
      rw [hcursor, hseen, hstore]
      rfl
  . intro s call s' h hok hstep
    cases call with
    | apply fresh e =>
      cases hstep
      exact tracks_apply hlog htype h hok.1 hok.2
    | setUnitCost tenantId itemId unitCost =>
      cases hstep
      exact tracks_setUnitCost h
    | rebuild fresh envelopes =>
      cases hstep
      exact ⟨h.bound, fun key => ⟨none, (view_rebuild hlog htype hok h fresh).2 key⟩⟩

theorem valuation_holds (hs : shelf.ReachableUnder (Admissible log) s)
    : (∀ t item row, s.st.store.get t item = some row → Valued row)
      ∧ ∀ fresh envelopes, envelopes.Perm ((seenLog log s).map StoredEvent.toEnvelope) →
          RebuildKeeps fresh s.st envelopes := by
  have h := tracks_of_reachable hlog htype hs
  constructor
  . intro t item row hrow
    rcases h.get_eq t item with ⟨unitCost, hget⟩
    rw [hget] at hrow
    unfold shown at hrow
    dsimp only at hrow
    split at hrow
    . cases hrow
    . cases hrow
      exact valued_rowOf (InventoryItem.stock_nonneg (ProducedLog.events hlog _).1 _) unitCost
  . intro fresh envelopes hperm
    rcases view_rebuild hlog htype hperm h fresh with ⟨hok, hviews⟩
    have hrebuilt : ∀ t item,
        (projection.rebuildFromScratch fresh s.st envelopes).2.store.get t item
          = (shown log s ⟨t, item.aggregateId⟩ none).row := by
      intro t item
      exact congrArg View.row (hviews ⟨t, item.aggregateId⟩)
    refine ⟨hok, ?_, ?_⟩
    . intro t item
      rcases h.get_eq t item with ⟨unitCost, hget⟩
      rw [hrebuilt, hget]
      unfold shown
      dsimp only
      split
      . rfl
      . rfl
    . intro t item row hrow hcost
      rcases h.get_eq t item with ⟨unitCost, hget⟩
      rw [hrebuilt]
      rw [hget] at hrow
      unfold shown at hrow ⊢
      dsimp only at hrow ⊢
      split at hrow
      . cases hrow
      . next hseen =>
        cases hrow
        have hnone : unitCost = none := hcost
        rw [if_neg hseen, hnone]

end Runs

end InventoryValuationProjection

namespace Bolt

open Concrete InventoryValuationProjection

theorem stream_produced : InventoryLog stream := by
  constructor
  . intro k
    rw [streamIn_stream]
    split
    . next h =>
      subst h
      exact stream_wellFormed
    . exact ⟨NumberedFrom.nil, by simp, by simp⟩
  . intro k
    rw [streamIn_stream]
    split
    . next h =>
      subst h
      exact ⟨events, stream_typed, events_produced⟩
    . exact ⟨[], .nil, .nil⟩

theorem stream_type : ∀ e ∈ stream, e.aggregateType = "inventory.item" := by
  simp [stream, stored]

def start : Shelf :=
  ⟨InventoryValuationProjection.new, fun _ => 0⟩

def stocked : Shelf :=
  (start.apply ⟨⟨0⟩⟩ (stored 1 created)).apply ⟨⟨0⟩⟩ (stored 2 (adjusted 5))

theorem reachable_stocked : shelf.ReachableUnder (Admissible stream) stocked := by
  have hcreated : shelf.ReachableUnder (Admissible stream)
      (start.apply ⟨⟨0⟩⟩ (stored 1 created)) := by
    apply Machine.ReachableUnder.step (a := .apply ⟨⟨0⟩⟩ (stored 1 created)) (s := start) _ _ rfl
    . exact .init ⟨rfl, fun _ => rfl, fun _ => rfl⟩
    . exact ⟨by simp [stream], by decide⟩
  apply Machine.ReachableUnder.step (a := .apply ⟨⟨0⟩⟩ (stored 2 (adjusted 5))) hcreated _ rfl
  exact ⟨by simp [stream], by decide⟩

theorem reachable_priced (unitCost : UInt64)
    : shelf.ReachableUnder (Admissible stream) (stocked.setUnitCost tenantId itemId unitCost) :=
  .step (a := .setUnitCost tenantId itemId unitCost) reachable_stocked trivial rfl

def steep : UInt64 := UInt64.ofNat (2 ^ 62)

-- Five times `2 ^ 62` is more than there are numbers, and the rebuild has no cost at all.
theorem valuation_saturates
    : InventoryLog stream
      ∧ (∀ e ∈ stream, e.aggregateType = "inventory.item")
      ∧ shelf.ReachableUnder (Admissible stream) (stocked.setUnitCost tenantId itemId steep)
      ∧ ∃ row, (stocked.setUnitCost tenantId itemId steep).st.store.get tenantId itemId = some row
          ∧ row.quantity = 5 ∧ row.unitCost = some steep
          ∧ row.totalValue.map (·.toNat) ≠ some (5 * 2 ^ 62)
          ∧ (projection.rebuildFromScratch (fun _ => ⟨⟨0⟩⟩)
              (stocked.setUnitCost tenantId itemId steep).st
              (stream.map StoredEvent.toEnvelope)).2.store.get tenantId itemId ≠ some row := by
  refine ⟨stream_produced, stream_type, reachable_priced _, ?_⟩
  refine ⟨⟨itemId, "Bolt", 5, some steep, some (UInt64.ofNat (2 ^ 64 - 1))⟩, ?_, rfl,
    rfl, by decide, ?_⟩
  . decide
  . decide

theorem valuation_holds_bolt
    : ∃ row, (stocked.setUnitCost tenantId itemId 25).st.store.get tenantId itemId = some row
        ∧ Valued row
        ∧ RebuildKeeps (fun _ => ⟨⟨0⟩⟩) (stocked.setUnitCost tenantId itemId 25).st
            (stream.map StoredEvent.toEnvelope) := by
  have hholds := valuation_holds stream_produced stream_type (reachable_priced 25)
  have hrow : (stocked.setUnitCost tenantId itemId 25).st.store.get tenantId itemId
      = some ⟨itemId, "Bolt", 5, some 25, some 125⟩ := by
    decide
  have hseen : seenLog stream (stocked.setUnitCost tenantId itemId 25) = stream := rfl
  refine ⟨_, hrow, hholds.1 _ _ _ hrow, hholds.2 _ _ ?_⟩
  rw [hseen]

end Bolt

end ForgeErp
