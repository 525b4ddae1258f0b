import ForgeErp.Domain.Lemmas.Decisions
import ForgeErp.Domain.Runs
import ForgeErp.Projections.Impl.Restart
import ForgeErp.Projections.Lemmas.Genuine

/-!
This module contains the stock of an item whose projection is stopped and restarted. An adjustment
whose row was written before the stop and whose cursor was not is added a second time.
-/

namespace ForgeErp

theorem Projection.getCursor_restart {K R : Type} (self : Projection K R)
    (h : self.cursorStore.isSome)
    (key : StreamKey) : self.restart.getCursor key = self.getCursor key := by
  obtain ⟨table, htable⟩ := Option.isSome_iff_exists.1 h
  unfold restart
  rw [htable]
  unfold getCursor withPersistentCursors
  rw [htable]

theorem Projection.store_restart {K R : Type} (self : Projection K R)
    : self.restart.store = self.store := by
  unfold restart withPersistentCursors
  split <;> rfl

theorem Projection.isSome_restart {K R : Type} (self : Projection K R) (h : self.cursorStore.isSome)
    : self.restart.cursorStore.isSome := by
  obtain ⟨table, htable⟩ := Option.isSome_iff_exists.1 h
  unfold restart withPersistentCursors
  rw [htable]
  rfl

namespace InventoryItem

-- A new item is created, one that exists is adjusted.
def Decided (item : InventoryItem) (ev : InventoryEvent) : Prop :=
  if item.created then ∃ e, ev = .stockAdjusted e else ∃ e, ev = .itemCreated e

theorem handle_decided {item : InventoryItem} {command : InventoryCommand}
    {decided : List InventoryEvent}
    (h : item.handle command = .ok decided) : ∃ ev, decided = [ev] ∧ Decided item ev := by
  unfold Decided
  cases command with
  | createItem cmd =>
    rcases handleCreate_eq_ok_iff.1 h with ⟨hcreated, _, hdecided⟩
    exact ⟨_, hdecided, by simp [hcreated]⟩
  | adjustStock cmd =>
    rcases handleAdjust_eq_ok_iff.1 h with ⟨hcreated, _, _, _, _, hdecided⟩
    exact ⟨_, hdecided, by simp [hcreated]⟩

theorem created_foldl {item : InventoryItem} (h : item.created = true) (evs : List InventoryEvent)
    : (evs.foldl apply item).created = true := by
  induction evs generalizing item with
  | nil => exact h
  | cons ev evs ih =>
    apply ih
    cases ev with
    | itemCreated e => rfl
    | stockAdjusted e => exact h

end InventoryItem

def InventoryEvent.delta (self : InventoryEvent) : Int64 :=
  match self with
  | .itemCreated _ => 0
  | .stockAdjusted e => e.delta

namespace InventoryStockProjection

variable {key : StreamKey} {stream : List StoredEvent} {evs : List InventoryEvent}
variable {s t : Projection InventoryItemId InventoryReadModel}
variable {position : Nat} {extra : Int64} {ev : InventoryEvent}

def vacantRow (key : StreamKey) : InventoryReadModel where
  itemId := ⟨key.aggregateId⟩
  name := ""
  quantity := 0

/--
The quantity is the one of the stream, each event counted once.
-/
def CountsOnce (st : Projection InventoryItemId InventoryReadModel) (key : StreamKey)
    (evs : List InventoryEvent)
    : Prop :=
  (projection.view st key).row.map InventoryReadModel.quantity
    = (View.project projection.modify (vacantRow key) evs).map InventoryReadModel.quantity

-- What is added a second time because the process stopped between the row and the cursor of an
-- event.
def repeatedDelta (evs : List InventoryEvent) (position : Nat) (actions : List RestartAction)
    : Int64 :=
  match actions with
  | [] => 0
  | .deliver _ :: actions => repeatedDelta evs (position + 1) actions
  | .stop _ .beforeRow :: actions => repeatedDelta evs position actions
  | .stop _ .beforeCursor :: actions =>
    (evs[position]?.map InventoryEvent.delta).getD 0 + repeatedDelta evs position actions

-- The row has taken in the first events of the stream, and `extra` besides.
structure Inflated (key : StreamKey) (evs : List InventoryEvent) (position : Nat) (extra : Int64)
    (st : Projection InventoryItemId InventoryReadModel)
    : Prop where
  persistent : st.cursorStore.isSome
  cursor : st.getCursor key = position
  untouched : position = 0 → extra = 0
  quantity : 0 < position → ∃ row, (projection.view st key).row = some row
    ∧ row.quantity = ((evs.take position).foldl projection.modify (vacantRow key)).quantity + extra

theorem Inflated.restart (hs : Inflated key evs position extra s)
    : Inflated key evs position extra s.restart := by
  constructor
  . apply Projection.isSome_restart _ hs.persistent
  . rw [Projection.getCursor_restart _ hs.persistent]
    exact hs.cursor
  . exact hs.untouched
  . have := hs.quantity
    unfold CursorProjection.view at this ⊢
    rw [Projection.store_restart]
    exact this

theorem take_next (hev : evs[position]? = some ev)
    : evs.take (position + 1) = evs.take position ++ [ev] := by
  rw [List.take_add_one, hev]
  rfl

theorem Inflated.extra_eq_zero_iff (hs : Inflated key evs evs.length extra t) (hne : evs ≠ [])
    : CountsOnce t key evs ↔ extra = 0 := by
  rcases hs.quantity (List.length_pos_iff.2 hne) with ⟨row, hrow, hquantity⟩
  rw [List.take_length] at hquantity
  unfold CountsOnce View.project
  rw [hrow, if_neg (by simpa using hne), Option.map_some, Option.map_some,
    Option.some.injEq, hquantity,
    Int64.add_eq_left]

variable [TextFormat Uuid] [TextFormat DateTime]

theorem decided_of_getElem? (h : Genuine key stream evs) {n : Nat} {ev : InventoryEvent}
    (hev : evs[n]? = some ev)
    : InventoryItem.Decided ((evs.take n).foldl InventoryItem.apply (.empty ⟨key.aggregateId⟩))
        ev := by
  have hsteps := @Aggregate.Produced.steps InventoryItem.aggregate
    (fun (item : InventoryItem) _ ev => item.Decided ev) _ _ _ h.produced
    (fun item command decided hhandle => InventoryItem.handle_decided hhandle)
  rcases hsteps n ev hev with ⟨_, _, hstep⟩
  exact hstep

-- The first event creates the item, all others adjust it.
theorem decided_iff (h : Genuine key stream evs) {n : Nat} {ev : InventoryEvent}
    (hev : evs[n]? = some ev)
    : if n = 0 then ∃ e, ev = .itemCreated e else ∃ e, ev = .stockAdjusted e := by
  have hdecided := decided_of_getElem? h hev
  split
  . next hzero =>
    rw [hzero, List.take_zero, List.foldl_nil] at hdecided
    exact hdecided
  . next hpos =>
    cases evs with
    | nil => simp at hev
    | cons first rest =>
      have hfirst := decided_of_getElem? h (n := 0) List.getElem?_cons_zero
      obtain ⟨e, rfl⟩ : ∃ e, first = .itemCreated e := hfirst
      obtain ⟨m, rfl⟩ := Nat.exists_eq_succ_of_ne_zero hpos
      rw [List.take_succ_cons, List.foldl_cons] at hdecided
      unfold InventoryItem.Decided at hdecided
      rw [if_pos (InventoryItem.created_foldl rfl _)] at hdecided
      exact hdecided

-- The next event of the stream is accepted.
theorem accepts_next (h : Genuine key stream evs) {e : StoredEvent} {position : Nat}
    (hcursor : s.getCursor key = position) (he : stream[position]? = some e)
    : ∃ ev, evs[position]? = some ev ∧ projection.Accepts s e.toEnvelope ev ∧ e.toEnvelope.key = key
      ∧ e.toEnvelope.sequenceNumber = position + 1 := by
  have hmem := List.mem_of_getElem? he
  have hnumber : e.toEnvelope.sequenceNumber = position + 1 := by
    have := h.wellFormed.numbered.getElem? he
    rw [Nat.add_comm]
    exact this
  have hkey : e.toEnvelope.key = key := h.wellFormed.key_eq e hmem
  rcases h.feeds.carries hmem with ⟨ev, hev, hcarries⟩
  have hposition : e.sequenceNumber - 1 = position := by
    have : e.toEnvelope.sequenceNumber = e.sequenceNumber := rfl
    omega
  rw [hposition] at hev
  refine ⟨ev, hev, ⟨hcarries.1, ?_⟩, hkey, hnumber⟩
  rw [hkey, hcursor, hnumber, View.gate_eq_accept_iff]
  omega

theorem quantity_next (h : Genuine key stream evs) (hs : Inflated key evs position extra s)
    (hev : evs[position]? = some ev) (vacant : InventoryReadModel)
    : (projection.modify ((projection.view s key).row.getD vacant) ev).quantity
        = ((evs.take (position + 1)).foldl projection.modify (vacantRow key)).quantity + extra := by
  have hdecided := decided_iff h hev
  rw [take_next hev, List.foldl_append, List.foldl_cons, List.foldl_nil]
  split at hdecided
  . next hzero =>
    obtain ⟨e, rfl⟩ := hdecided
    rw [hs.untouched hzero]
    rfl
  . next hpos =>
    obtain ⟨e, rfl⟩ := hdecided
    rcases hs.quantity (Nat.pos_of_ne_zero hpos) with ⟨row, hrow, hquantity⟩
    rw [hrow, Option.getD_some]
    change row.quantity + e.delta = (_ + e.delta) + extra
    rw [hquantity, Int64.add_assoc, Int64.add_comm extra, ← Int64.add_assoc]

theorem quantity_repeated (h : Genuine key stream evs) (hs : Inflated key evs position extra s)
    (hev : evs[position]? = some ev) (vacant : InventoryReadModel)
    : (position = 0 → extra + ev.delta = 0)
      ∧ (0 < position → (projection.modify ((projection.view s key).row.getD vacant) ev).quantity
          = ((evs.take position).foldl projection.modify (vacantRow key)).quantity
              + (extra + ev.delta)) := by
  have hdecided := decided_iff h hev
  split at hdecided
  . next hzero =>
    obtain ⟨e, rfl⟩ := hdecided
    refine ⟨?_, by omega⟩
    intro _
    rw [hs.untouched hzero]
    rfl
  . next hpos =>
    obtain ⟨e, rfl⟩ := hdecided
    refine ⟨by omega, ?_⟩
    intro hlt
    rcases hs.quantity hlt with ⟨row, hrow, hquantity⟩
    rw [hrow, Option.getD_some]
    change row.quantity + e.delta = _
    rw [hquantity, Int64.add_assoc]
    rfl

theorem Inflated.deliver (h : Genuine key stream evs) (hs : Inflated key evs position extra s)
    {e : StoredEvent} (he : stream[position]? = some e) (fresh : AggregateId)
    : Inflated key evs (position + 1) extra (projection.applyEnvelope fresh s e.toEnvelope).2 := by
  rcases accepts_next h hs.cursor he with ⟨ev, hev, haccepts, hkey, hnumber⟩
  have hview := projection.view_write fresh s haccepts key
  rw [if_pos hkey.symm, View.feed_of_accept _ (by rw [← hkey]; exact haccepts.gate), hnumber]
    at hview
  rw [projection.applyEnvelope_of_accepts haccepts]
  constructor
  . have := hs.persistent
    unfold CursorProjection.write Projection.updateCursor
    simpa [Projection.upsert] using this
  . exact congrArg View.cursor hview
  . omega
  . intro _
    exact ⟨_, congrArg View.row hview, quantity_next h hs hev _⟩

theorem Inflated.stop (h : Genuine key stream evs) (hs : Inflated key evs position extra s)
    {e : StoredEvent} (he : stream[position]? = some e) (fresh : AggregateId)
    : Inflated key evs position (extra + (evs[position]?.map InventoryEvent.delta).getD 0)
        (projection.applyUntil .beforeCursor fresh s e.toEnvelope).restart := by
  rcases accepts_next h hs.cursor he with ⟨ev, hev, haccepts, hkey, hnumber⟩
  have hview := projection.view_write fresh s haccepts key
  rw [if_pos hkey.symm, View.feed_of_accept _ (by rw [← hkey]; exact haccepts.gate)] at hview
  rw [hev, Option.map_some, Option.getD_some]
  have hrepeated := quantity_repeated h hs hev
  unfold CursorProjection.applyUntil
  rw [projection.applyEnvelope_of_accepts haccepts]
  constructor
  . apply Projection.isSome_restart
    exact hs.persistent
  . have hcursor := Projection.getCursor_restart
      { s with store := (projection.write fresh s e.toEnvelope ev).store } hs.persistent key
    exact hcursor.trans hs.cursor
  . exact (hrepeated (vacantRow key)).1
  . intro hpos
    have hrow := congrArg View.row hview
    unfold CursorProjection.view at hrow ⊢
    rw [Projection.store_restart]
    exact ⟨_, hrow, (hrepeated _).2 hpos⟩

theorem Inflated.run (h : Genuine key stream evs) (hs : Inflated key evs position extra s)
    {actions : List RestartAction} (hrun : (projection.resuming key stream).run s actions = some t)
    : ∃ reached, Inflated key evs reached (extra + repeatedDelta evs position actions) t := by
  induction actions generalizing s position extra with
  | nil =>
    cases hrun
    unfold repeatedDelta
    rw [Int64.add_zero]
    exact ⟨position, hs⟩
  | cons action actions ih =>
    unfold Machine.run at hrun
    split at hrun
    . next s' hs' =>
      change stream[s.getCursor key]?.map _ = some s' at hs'
      rw [hs.cursor, Option.map_eq_some_iff] at hs'
      rcases hs' with ⟨e, he, rfl⟩
      cases action with
      | deliver fresh => exact ih (hs.deliver h he fresh) hrun
      | stop fresh point =>
        cases point with
        | beforeRow => exact ih hs.restart hrun
        | beforeCursor =>
          have := ih (hs.stop h he fresh) hrun
          rw [Int64.add_assoc] at this
          exact this
    . cases hrun

theorem resuming_nil {actions : List RestartAction}
    (hrun : (projection.resuming key []).run s actions = some t)
    : actions = [] ∧ t = s := by
  cases actions with
  | nil =>
    cases hrun
    exact ⟨rfl, rfl⟩
  | cons => cases hrun

/--
Once every event has been delivered the quantity is right if and only if what has been added a
second time amounts to nothing.
-/
theorem countsOnce_iff (key : StreamKey) (stream : List StoredEvent) (evs : List InventoryEvent)
    (h : Genuine key stream evs) (actions : List RestartAction)
    (hinit : (projection.resuming key stream).init s)
    (hrun : (projection.resuming key stream).run s actions = some t)
    (hdelivered : t.getCursor key = stream.length)
    : CountsOnce t key evs ↔ repeatedDelta evs 0 actions = 0 := by
  have hlength : stream.length = evs.length := h.typed.length_eq
  cases evs with
  | nil =>
    obtain rfl := List.length_eq_zero_iff.1 hlength
    rcases resuming_nil hrun with ⟨rfl, rfl⟩
    have hrow : (projection.view t key).row = none := hinit.2.2
    unfold CountsOnce repeatedDelta
    rw [hrow]
    exact iff_of_true rfl rfl
  | cons first rest =>
    have hstart : Inflated key (first :: rest) 0 0 s := ⟨hinit.1, hinit.2.1, fun _ => rfl, by omega⟩
    rcases hstart.run h hrun with ⟨reached, hreached⟩
    obtain rfl : reached = (first :: rest).length := by
      have := hreached.cursor
      omega
    rw [Int64.zero_add] at hreached
    exact hreached.extra_eq_zero_iff (List.cons_ne_nil _ _)

end InventoryStockProjection

namespace Bolt

open Concrete InventoryStockProjection

theorem events_genuine : Genuine key stream events := by
  have hcreate : InventoryItem.aggregate.Produced (CreatesOwn key)
      (InventoryItem.empty ⟨key.aggregateId⟩) ([] ++ [created]) :=
    .step (.createItem create : InventoryCommand) .nil ⟨rfl, rfl⟩ rfl
  have hadjust : CreatesOwn key (.adjustStock (adjust 5)) := trivial
  have hproduced : InventoryItem.aggregate.Produced (CreatesOwn key)
      (InventoryItem.empty ⟨key.aggregateId⟩) events :=
    .step (.adjustStock (adjust 5) : InventoryCommand) hcreate hadjust rfl
  refine ⟨stream_wellFormed, stream_typed, ?_, hproduced⟩
  simp [stream, stored]

def persisted : Projection InventoryItemId InventoryReadModel :=
  InventoryStockProjection.new.withPersistentCursors ⟨.empty⟩ "inventory_stock"

def delivered (actions : List RestartAction) : Projection InventoryItemId InventoryReadModel :=
  ((projection.resuming key stream).run persisted actions).getD persisted

-- The row has been adjusted and the cursor has not: the new process adjusts it once more.
theorem adjusted_twice
    : (projection.resuming key stream).init persisted
      ∧ Genuine key stream events
      ∧ (projection.resuming key stream).run persisted
          [.deliver ⟨⟨0⟩⟩, .stop ⟨⟨0⟩⟩ .beforeCursor, .deliver ⟨⟨0⟩⟩]
          = some (delivered [.deliver ⟨⟨0⟩⟩, .stop ⟨⟨0⟩⟩ .beforeCursor, .deliver ⟨⟨0⟩⟩])
      ∧ (delivered [.deliver ⟨⟨0⟩⟩, .stop ⟨⟨0⟩⟩ .beforeCursor, .deliver ⟨⟨0⟩⟩]).getCursor key
          = stream.length
      ∧ ¬ CountsOnce (delivered [.deliver ⟨⟨0⟩⟩, .stop ⟨⟨0⟩⟩ .beforeCursor, .deliver ⟨⟨0⟩⟩])
          key events := by
  refine ⟨⟨rfl, rfl, rfl⟩, events_genuine, rfl, rfl, ?_⟩
  intro hcounts
  have hten : some (10 : Int64) = some 5 := hcounts
  exact absurd hten (by decide)

-- A stop at the creation of the item does no harm.
theorem countsOnce_iff_created
    : CountsOnce (delivered [.stop ⟨⟨0⟩⟩ .beforeCursor, .deliver ⟨⟨0⟩⟩, .deliver ⟨⟨0⟩⟩]) key events
      ↔ repeatedDelta events 0 [.stop ⟨⟨0⟩⟩ .beforeCursor, .deliver ⟨⟨0⟩⟩, .deliver ⟨⟨0⟩⟩] = 0 :=
  countsOnce_iff (s := persisted) key stream events events_genuine _ ⟨rfl, rfl, rfl⟩ rfl rfl

end Bolt

end ForgeErp
