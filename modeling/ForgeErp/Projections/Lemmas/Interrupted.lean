import ForgeErp.EventStore.Lemmas.Isolation
import ForgeErp.Library.Refold
import ForgeErp.Projections.Lemmas.RunReplay

/-!
This module contains a replay that is cancelled, or stopped by an event that the projection refuses.
Whatever the clear has taken away and the replay has not brought back by then is gone.
-/

namespace ForgeErp
namespace Replay

open InventoryStockProjection (projection)

/-!
# What the loading loop finds
-/

section Loading

variable {store : InMemoryEventStore} {keys : List StreamKey} {tenantId : TenantId}
  {e : StoredEvent}

theorem stored_of_mem_tenantEvents (hwf : store.WellFormed)
    (he : e ∈ store.tenantEvents keys tenantId)
    : e.tenantId = tenantId ∧ e ∈ store.loadStream e.key := by
  rcases InMemoryEventStore.mem_tenantEvents he with ⟨key, htenant, hstream⟩
  have hkey := (hwf key).key_eq e hstream
  rw [← hkey] at htenant hstream
  exact ⟨htenant, hstream⟩

-- Which of the events it finds, and how often, is up to the queries.
theorem loadEvents_mem {overflowChecks : Bool} {queryEvents : QueryEvents} {log : List StoredEvent}
    (hquery : PageQuery overflowChecks tenantId log queryEvents) {cancellation : Nat → Bool}
    {aggregateTypes : List String} {fuel idx : Nat} {offset : UInt32}
    {allEvents events : List StoredEvent}
    (h : loadEvents overflowChecks queryEvents cancellation tenantId aggregateTypes fuel
      idx offset allEvents
      = .finished (.ok events)) (he : e ∈ events)
    : e ∈ allEvents ∨ (e ∈ log ∧ isRelevant aggregateTypes e = true) := by
  induction fuel generalizing idx offset allEvents with
  | zero => cases h
  | succ fuel ih =>
    unfold loadEvents at h
    split at h
    . cases h
    . dsimp only at h
      rcases hquery idx (.new (some pageSize) (some offset)) with ⟨ordered, harranges, hanswer⟩
      rw [hanswer] at h
      cases hmore : (Pagination.new (some pageSize) (some offset)).hasMore overflowChecks log.length
        with
      | none =>
        rw [hmore] at h
        cases h
      | some hasMore =>
        rw [hmore, Option.map_some] at h
        dsimp only at h
        have hpage : ∀ found ∈ ((Pagination.new (some pageSize) (some offset)).slice ordered).filter
            (isRelevant aggregateTypes), found ∈ log ∧ isRelevant aggregateTypes found = true := by
          intro found hfound
          rw [List.mem_filter] at hfound
          refine ⟨?_, hfound.2⟩
          rw [← harranges.1.mem_iff]
          exact List.mem_of_mem_drop (List.mem_of_mem_take hfound.1)
        have hsofar : ∀ found ∈ allEvents
              ++ ((Pagination.new (some pageSize) (some offset)).slice ordered).filter
                (isRelevant aggregateTypes),
            found ∈ allEvents ∨ (found ∈ log ∧ isRelevant aggregateTypes found = true) := by
          intro found hfound
          rw [List.mem_append] at hfound
          exact hfound.imp_right (hpage found)
        split at h
        . cases h
          exact hsofar e he
        . split at h
          . cases h
          . rcases ih h with hold | hnew
            . exact hsofar e hold
            . exact .inr hnew

end Loading

/-!
# What the projection makes of an event
-/

variable [TextFormat Uuid] [TextFormat DateTime]

-- What the projection reads from an event, if there is nothing wrong with it.
def readable (e : StoredEvent) : Option InventoryEvent :=
  match (Codec.dec e.payload : Except String InventoryEvent) with
  | .error _ => none
  | .ok ev =>
    if e.aggregateType = "inventory.item" ∧ ev.tenantId = e.tenantId
        ∧ ev.itemId.aggregateId = e.aggregateId then
      some ev
    else
      none

theorem readable_eq_some_iff {e : StoredEvent} {ev : InventoryEvent}
    : readable e = some ev ↔ projection.Carries e.toEnvelope ev := by
  unfold readable
  constructor
  . intro h
    split at h
    . cases h
    . next hdec =>
      split at h
      . next hchecks =>
        cases h
        exact ⟨hchecks.1, hdec, hchecks.2.1, hchecks.2.2⟩
      . cases h
  . intro h
    have hdec : Codec.dec e.payload = .ok ev := h.payload
    rw [hdec]
    exact if_pos ⟨h.type_eq, h.tenant, h.aggregate⟩

-- What an event does to the row of its item.
def effect (e : StoredEvent) : Option (Option InventoryReadModel → InventoryReadModel) :=
  (readable e).map fun ev row =>
    projection.modify (row.getD (projection.vacant e.aggregateId ev)) ev

theorem view_apply (fresh : AggregateId) (st : Projection InventoryItemId InventoryReadModel)
    (e : StoredEvent)
    (key : StreamKey)
    : projection.view (projection.applyEnvelope fresh st e.toEnvelope).2 key
        =
      if e.key = key then
        (projection.view st key).absorb StoredEvent.sequenceNumber effect e
      else
        projection.view st key := by
  split
  . next hkey =>
    subst hkey
    cases hreadable : readable e with
    | none =>
      rw [View.absorb_none (by simp [effect, hreadable]), projection.applyEnvelope_of_not_accepts]
      intro ev haccepts
      rw [readable_eq_some_iff.mpr haccepts.carries] at hreadable
      cases hreadable
    | some ev =>
      have heffect : effect e
          = some fun row =>
              projection.modify (row.getD (projection.vacant e.aggregateId ev)) ev := by
        simp [effect, hreadable]
      have hview := projection.view_applyEnvelope_of_carries fresh st
        (readable_eq_some_iff.mp hreadable)
      apply hview.trans
      by_cases hgate : View.gate (st.getCursor e.key) e.sequenceNumber = .accept
      . rw [View.absorb_accept heffect hgate]
        exact View.feed_of_accept _ hgate
      . rw [View.absorb_of_not_accept hgate]
        exact View.feed_of_not_accept _ hgate
  . next hkey => exact projection.view_applyEnvelope_ne fresh st (Ne.symm hkey)

-- The inventory projection makes no use of fresh identifiers.
def live (key : StreamKey) (events : List StoredEvent)
    : List (AggregateId × EventEnvelope JsonValue) :=
  events.map fun e => (key.aggregateId, e.toEnvelope)

theorem view_live (st : Projection InventoryItemId InventoryReadModel) (key : StreamKey)
    (events : List StoredEvent)
    : projection.view (projection.deliver st (live key events)) key
        = (events.filter fun e => e.key = key).foldl (View.absorb StoredEvent.sequenceNumber effect)
            (projection.view st key) := by
  induction events generalizing st with
  | nil => rfl
  | cons e events ih =>
    have hview := view_apply key.aggregateId st e key
    apply (ih _).trans
    rw [hview, List.filter_cons]
    by_cases hkey : e.key = key <;> simp [hkey]

/--
The tenant's rows and cursors are those of an empty projection to which the events of each stream
have been delivered.
-/
def IsFold (store : InMemoryEventStore) (tenantId : TenantId)
    (st : Projection InventoryItemId InventoryReadModel)
    : Prop :=
  ∀ key : StreamKey, key.tenantId = tenantId →
    projection.view st key
      = projection.view (projection.deliver InventoryStockProjection.new
          (live key (store.loadStream key))) key

/--
The read model is the fold of the log now, and remains so under live events that come in order.
-/
def KeepsUp (store : InMemoryEventStore) (tenantId : TenantId)
    (st : Projection InventoryItemId InventoryReadModel)
    : Prop :=
  ∀ (key : StreamKey) (more : List StoredEvent), key.tenantId = tenantId →
    projection.view (projection.deliver st (live key more)) key
      = projection.view
          (projection.deliver InventoryStockProjection.new
            (live key (store.loadStream key ++ more))) key

-- What the events of a stream make of an empty view.
def foldOf (store : InMemoryEventStore) (key : StreamKey) : View InventoryReadModel :=
  View.fold StoredEvent.sequenceNumber effect (store.loadStream key)

section Fold

variable {store : InMemoryEventStore} {tenantId : TenantId}
variable {st : Projection InventoryItemId InventoryReadModel}

omit [TextFormat Uuid] [TextFormat DateTime] in
theorem filter_loadStream (hwf : store.WellFormed) (key : StreamKey)
    : ((store.loadStream key).filter fun e => e.key = key) = store.loadStream key := by
  rw [List.filter_eq_self]
  intro e he
  simpa using (hwf key).key_eq e he

theorem isFold_iff (hwf : store.WellFormed) : IsFold store tenantId st
    ↔ ∀ key : StreamKey, key.tenantId = tenantId → projection.view st key = foldOf store key := by
  unfold IsFold
  simp only [view_live, filter_loadStream hwf]
  rfl

theorem keepsUp_iff (hwf : store.WellFormed) : KeepsUp store tenantId st
    ↔ ∀ key : StreamKey, key.tenantId = tenantId → projection.view st key = foldOf store key := by
  unfold KeepsUp
  simp only [view_live, List.filter_append, List.foldl_append, filter_loadStream hwf]
  constructor
  . intro h key hkey
    exact h key [] hkey
  . intro h key more hkey
    rw [h key hkey]
    rfl

end Fold

/-!
# Up to where the loaded events are replayed
-/

-- The number of the last event of the stream among those that have been replayed.
def lastReplayed (done : List StoredEvent) (key : StreamKey) : Nat :=
  ((done.filter fun e => e.key = key).getLast?.map StoredEvent.sequenceNumber).getD 0

-- The event leaves a gap, or it is the next one and cannot be read.
def isRefused (done : List StoredEvent) (e : StoredEvent) : Bool :=
  match View.gate (lastReplayed done e.key) e.sequenceNumber with
  | .ignore => false
  | .reject => true
  | .accept => (readable e).isNone

def replayedFrom (cancellation : Nat → Bool) (idx : Nat) (done events : List StoredEvent)
    : List StoredEvent :=
  match events with
  | [] => done
  | e :: events =>
    if cancellation idx || isRefused done e then
      done
    else
      replayedFrom cancellation (idx + 1) (done ++ [e]) events

-- The events that are replayed before the flag is set or one of them is refused.
def replayed (cancellation : Cancellation) (events : List StoredEvent) : List StoredEvent :=
  if cancellation.afterClear then [] else replayedFrom cancellation.replaying 0 [] events

structure Replayed (store : InMemoryEventStore) (tenantId : TenantId)
    (done events : List StoredEvent)
    (st : Projection InventoryItemId InventoryReadModel)
    : Prop where
  tenant : ∀ e ∈ events, e.tenantId = tenantId
  type : ∀ e ∈ events, e.aggregateType = "inventory.item"
  stored : ∀ e ∈ done ++ events, e ∈ store.loadStream e.key
  sorted : ∀ key, ((done ++ events).filter fun e => e.key = key).Pairwise
    fun a b => a.sequenceNumber ≤ b.sequenceNumber
  taken : ∀ key, View.Taken StoredEvent.sequenceNumber effect (done.filter fun e => e.key = key)
  views : ∀ key : StreamKey, key.tenantId = tenantId →
    projection.view st key = View.fold StoredEvent.sequenceNumber effect
      (done.filter fun e => e.key = key)

section Replayed

variable {store : InMemoryEventStore} {tenantId : TenantId} {done events : List StoredEvent}
  {e : StoredEvent}
variable {st st' : Projection InventoryItemId InventoryReadModel}

theorem Replayed.cursor_eq (h : Replayed store tenantId done (e :: events) st)
    : st.getCursor e.key = lastReplayed done e.key := by
  have hview := h.views e.key (h.tenant e List.mem_cons_self)
  have hcursor := congrArg View.cursor hview
  rw [(h.taken e.key).cursor_eq] at hcursor
  exact hcursor

theorem Replayed.last_le (h : Replayed store tenantId done (e :: events) st)
    : lastReplayed done e.key ≤ e.sequenceNumber := by
  have hsorted := h.sorted e.key
  rw [List.filter_append, List.filter_cons_of_pos (by simp), List.pairwise_append] at hsorted
  unfold lastReplayed
  cases hlast : (done.filter fun e' => e'.key = e.key).getLast? with
  | none => exact Nat.zero_le _
  | some last => exact hsorted.2.2 last (List.mem_of_getLast? hlast) e List.mem_cons_self

theorem Replayed.next (h : Replayed store tenantId done (e :: events) st) {fresh : AggregateId}
    (htaken : View.Taken StoredEvent.sequenceNumber effect
      ((done.filter fun e' => e'.key = e.key) ++ [e]))
    : Replayed store tenantId (done ++ [e]) events
        (projection.applyEnvelope fresh st e.toEnvelope).2 where
  tenant e' he' := h.tenant e' (List.mem_cons_of_mem _ he')
  type e' he' := h.type e' (List.mem_cons_of_mem _ he')
  stored := by
    rw [← List.append_cons]
    exact h.stored
  sorted := by
    rw [← List.append_cons]
    exact h.sorted
  taken key := by
    rw [List.filter_append]
    by_cases hkey : e.key = key
    . subst hkey
      rw [List.filter_cons_of_pos (by simp)]
      exact htaken
    . rw [List.filter_cons_of_neg (by simpa using hkey), List.filter_nil, List.append_nil]
      exact h.taken key
  views key htenant := by
    rw [view_apply, List.filter_append, h.views key htenant]
    split
    . next hkey =>
      rw [List.filter_cons_of_pos (by simpa using hkey), List.filter_nil, View.fold_concat]
    . next hkey =>
      rw [List.filter_cons_of_neg (by simpa using hkey), List.filter_nil, List.append_nil]

theorem Replayed.accepted (h : Replayed store tenantId done (e :: events) st)
    (hwf : store.WellFormed)
    (hrefused : isRefused done e = false) (fresh : AggregateId)
    : ∃ st', projection.applyEnvelope fresh st e.toEnvelope = (.ok (), st')
        ∧ Replayed store tenantId (done ++ [e]) events st' := by
  refine ⟨(projection.applyEnvelope fresh st e.toEnvelope).2, ?_⟩
  have hcursor := h.cursor_eq
  have hpos := ((hwf e.key).numbered.mem_bounds (h.stored e (by simp))).1
  have hfold := (h.taken e.key).cursor_eq
  unfold isRefused at hrefused
  split at hrefused
  . next hignore =>
    have hgate : View.gate (st.getCursor e.toEnvelope.key) e.toEnvelope.sequenceNumber
      = .ignore := by
      change View.gate (st.getCursor e.key) e.sequenceNumber = .ignore
      rw [hcursor]
      exact hignore
    have hok : projection.applyEnvelope fresh st e.toEnvelope = (.ok (), st) :=
      projection.applyEnvelope_of_known hgate
    refine ⟨by rw [hok], h.next (.again (h.taken e.key) ?_)⟩
    rw [View.gate_eq_ignore_iff] at hignore
    rw [hfold]
    exact Nat.le_antisymm hignore.2 h.last_le
  . cases hrefused
  . next haccept =>
    have hgate : View.gate (st.getCursor e.key) e.sequenceNumber = .accept := by
      rw [hcursor]
      exact haccept
    cases hreadable : readable e with
    | none =>
      rw [hreadable] at hrefused
      cases hrefused
    | some ev =>
      have hok : (projection.applyEnvelope fresh st e.toEnvelope).1 = .ok () := by
        apply projection.applyEnvelope_ok_of_carries (readable_eq_some_iff.mp hreadable)
        intro hreject
        cases hgate.symm.trans hreject
      refine ⟨Prod.ext hok rfl, h.next
        (.next (h.taken e.key) ?_ (by simp [effect, hreadable]; rfl))⟩
      rw [hfold]
      exact haccept

theorem Replayed.refused (h : Replayed store tenantId done (e :: events) st)
    (hrefused : isRefused done e = true) (fresh : AggregateId)
    : ∃ err, projection.applyEnvelope fresh st e.toEnvelope = (.error err, st) := by
  have hcursor : st.getCursor e.toEnvelope.key = lastReplayed done e.key := h.cursor_eq
  have houtcome := projection.applyEnvelope_outcome fresh st e.toEnvelope
  generalize projection.applyEnvelope fresh st e.toEnvelope = result at houtcome
  unfold isRefused at hrefused
  cases houtcome with
  | foreign hforeign => exact absurd (h.type e List.mem_cons_self) hforeign
  | known hknown =>
    rw [hcursor] at hknown
    rw [show View.gate (lastReplayed done e.key) e.sequenceNumber = .ignore from hknown] at hrefused
    cases hrefused
  | gap _ => exact ⟨_, rfl⟩
  | malformed _ => exact ⟨_, rfl⟩
  | accepted haccepts =>
    have hgate := haccepts.gate
    rw [hcursor] at hgate
    rw [show View.gate (lastReplayed done e.key) e.sequenceNumber = .accept from hgate,
      readable_eq_some_iff.mpr haccepts.carries] at hrefused
    cases hrefused

theorem Replayed.run (h : Replayed store tenantId done events st) (hwf : store.WellFormed)
    {cancellation : Nat → Bool} {fresh : Nat → AggregateId} {idx : Nat}
    {result : Except ReplayError Unit}
    (hrun : replayEvents false cancellation fresh idx events st = (result, st'))
    : ∃ rest, Replayed store tenantId (replayedFrom cancellation idx done events) rest st' := by
  induction events generalizing done st idx with
  | nil =>
    cases hrun
    exact ⟨[], h⟩
  | cons e events ih =>
    unfold replayEvents at hrun
    unfold replayedFrom
    split at hrun
    . next hcancelled =>
      cases hrun
      rw [if_pos (by simp [hcancelled])]
      exact ⟨e :: events, h⟩
    . next hcancelled =>
      rw [if_neg (by simp)] at hrun
      cases hrefused : isRefused done e with
      | true =>
        rcases h.refused hrefused (fresh idx) with ⟨err, herr⟩
        rw [herr] at hrun
        cases hrun
        rw [if_pos (by simp)]
        exact ⟨e :: events, h⟩
      | false =>
        rcases h.accepted hwf hrefused (fresh idx) with ⟨next, hok, hnext⟩
        rw [hok] at hrun
        rw [if_neg (by simp [hcancelled])]
        exact ih hnext hrun

theorem replayed_clear (st : Projection InventoryItemId InventoryReadModel)
    {allEvents : List StoredEvent}
    (hfound : ∀ e ∈ allEvents,
      e.tenantId = tenantId ∧ e.aggregateType = "inventory.item" ∧ e ∈ store.loadStream e.key)
    : Replayed store tenantId [] (sortEvents allEvents) (st.clearTenant tenantId) where
  tenant e he := (hfound e ((List.mem_insertionSort _).mp he)).1
  type e he := (hfound e ((List.mem_insertionSort _).mp he)).2.1
  stored e he := (hfound e ((List.mem_insertionSort _).mp he)).2.2
  sorted := sortEvents_sorted allEvents
  taken _ := .nil
  views key hkey := by
    rw [projection.view_clearTenant, if_pos hkey]
    rfl

end Replayed

/--
The last event that the row of the item has taken in has been replayed, and those that have not been
replayed make no difference to the row.
-/
structure BroughtBack (store : InMemoryEventStore)
    (st : Projection InventoryItemId InventoryReadModel)
    (done : List StoredEvent) (key : StreamKey)
    : Prop where
  last : ∀ e ∈ store.loadStream key, e.sequenceNumber = st.getCursor key → e ∈ done
  missed : View.rowOf effect
      (((store.loadStream key).filter fun e => e.sequenceNumber ≤ st.getCursor key).filter
        fun e => e.sequenceNumber ∈ (done.filter fun e => e.key = key).map
          StoredEvent.sequenceNumber)
    = View.rowOf effect ((store.loadStream key).filter fun e => e.sequenceNumber ≤ st.getCursor key)

/--
Once the tenant has been cleared, every item is brought back.
-/
def NothingMissing (store : InMemoryEventStore) (overflowChecks : Bool) (queryEvents : QueryEvents)
    (cancellation : Cancellation) (tenantId : TenantId) (fuel : Nat)
    (st : Projection InventoryItemId InventoryReadModel)
    : Prop :=
  ∀ allEvents,
    loadEvents overflowChecks queryEvents cancellation.loading tenantId
      ["inventory.item"] fuel 0 0 []
      = .finished (.ok allEvents) →
    cancellation.beforeClear = false →
    ∀ key : StreamKey, key.tenantId = tenantId →
      BroughtBack store st (replayed cancellation (sortEvents allEvents)) key

theorem Replayed.keepsUp_iff {store : InMemoryEventStore} (hwf : store.WellFormed)
    {tenantId : TenantId}
    {done rest : List StoredEvent} {st st' : Projection InventoryItemId InventoryReadModel}
    (h : Replayed store tenantId done rest st') (hfold : IsFold store tenantId st)
    : KeepsUp store tenantId st'
        ↔ ∀ key : StreamKey, key.tenantId = tenantId → BroughtBack store st done key := by
  rw [Replay.keepsUp_iff hwf]
  rw [isFold_iff hwf] at hfold
  have hstream : ∀ key : StreamKey, key.tenantId = tenantId →
      (projection.view st' key = foldOf store key ↔ BroughtBack store st done key) := by
    intro key hkey
    have hdone : ∀ e ∈ done.filter (fun e => e.key = key), e ∈ store.loadStream key := by
      intro e he
      rw [List.mem_filter, decide_eq_true_eq] at he
      rw [← he.2]
      exact h.stored e (List.mem_append_left _ he.1)
    have hcursor : st.getCursor key = (foldOf store key).cursor :=
      congrArg View.cursor (hfold key hkey)
    rw [h.views key hkey]
    unfold foldOf at hcursor ⊢
    rw [View.fold_eq_iff (hwf key).numbered hdone (h.taken key), ← hcursor]
    constructor
    . rintro ⟨hlast, hmissed⟩
      exact ⟨fun e he hnumber => List.mem_of_mem_filter (hlast e he hnumber), hmissed⟩
    . intro hback
      refine ⟨?_, hback.missed⟩
      intro e he hnumber
      rw [List.mem_filter, decide_eq_true_eq]
      exact ⟨hback.last e he hnumber, (hwf key).key_eq e he⟩
  constructor
  . intro hviews key hkey
    exact (hstream key hkey).mp (hviews key hkey)
  . intro hback key hkey
    exact (hstream key hkey).mpr (hback key hkey)

/--
A replay that does not complete leaves the read model intact if and only if it has not come to the
clear yet, or nothing is missing.
-/
theorem interrupted_keepsUp_iff (store : InMemoryEventStore) (hwf : store.WellFormed)
    (keys : List StreamKey)
    (tenantId : TenantId) (overflowChecks : Bool) (queryEvents : QueryEvents)
    (hquery : PageQuery overflowChecks tenantId (store.tenantEvents keys tenantId) queryEvents)
    (cancellation : Cancellation) (fuel : Nat) (eventId : Uuid) (aggregateId : AggregateId)
    (dummyFresh fresh : Nat → AggregateId) (st st' : Projection InventoryItemId InventoryReadModel)
    (err : ReplayError) (hfold : IsFold store tenantId st)
    (hrun : runReplay overflowChecks queryEvents cancellation tenantId false fuel eventId
      aggregateId dummyFresh
      fresh st = some (.error err, st'))
    : KeepsUp store tenantId st'
        ↔ NothingMissing store overflowChecks queryEvents cancellation tenantId fuel st := by
  have hbefore : KeepsUp store tenantId st := (keepsUp_iff hwf).mpr ((isFold_iff hwf).mp hfold)
  unfold runReplay at hrun
  unfold NothingMissing
  split at hrun
  . next herror =>
    cases hrun
    refine iff_of_true hbefore ?_
    intro allEvents hloaded
    cases herror.symm.trans hloaded
  . next allEvents hloaded =>
    split at hrun
    . next hcancelled =>
      cases hrun
      refine iff_of_true hbefore ?_
      intro _ _ hnot
      rw [hcancelled] at hnot
      cases hnot
    . next hnot =>
      have hfound : ∀ e ∈ allEvents,
          e.tenantId = tenantId ∧ e.aggregateType = "inventory.item"
            ∧ e ∈ store.loadStream e.key := by
        intro e he
        rcases loadEvents_mem hquery hloaded he with hnone | ⟨hlog, hrelevant⟩
        . cases hnone
        . rcases stored_of_mem_tenantEvents hwf hlog with ⟨htenant, hstored⟩
          exact ⟨htenant, by simpa [isRelevant] using hrelevant, hstored⟩
      dsimp only at hrun
      rw [if_neg Bool.false_ne_true, clearTenant_eq] at hrun
      have hstart := replayed_clear st hfound
      have hreplayed : ∃ rest,
          Replayed store tenantId (replayed cancellation (sortEvents allEvents)) rest st' := by
        unfold replayed
        split at hrun
        . next hafter =>
          cases hrun
          rw [if_pos hafter]
          exact ⟨_, hstart⟩
        . next hafter =>
          rw [if_neg hafter]
          exact hstart.run hwf (Option.some.inj hrun)
      rcases hreplayed with ⟨rest, hreplayed⟩
      rw [hreplayed.keepsUp_iff hwf hfold]
      constructor
      . intro h allEvents' hloaded' _
        cases hloaded.symm.trans hloaded'
        exact h
      . intro h
        exact h allEvents hloaded (by simpa using hnot)
  . cases hrun

end Replay

namespace Bolt

open Concrete Replay

open InventoryStockProjection (projection)

def stockroom : InMemoryEventStore :=
  ⟨KeyMap.empty.insert key stream⟩

theorem loadStream_stockroom (k : StreamKey)
    : stockroom.loadStream k = if k = key then stream else [] := by
  unfold stockroom
  rw [InMemoryEventStore.loadStream_insert]
  rfl

theorem wellFormed_stockroom : stockroom.WellFormed := by
  intro k
  rw [loadStream_stockroom]
  split
  . next hk =>
    rw [hk]
    exact stream_wellFormed
  . exact (genuine_nil k).wellFormed

theorem enumerates_stockroom : stockroom.streams.Enumerates [key] := by
  refine ⟨List.nodup_singleton _, ?_⟩
  intro k
  rw [List.mem_singleton]
  change _ ↔ ((KeyMap.empty.insert key stream).get k).isSome
  rw [KeyMap.get_insert]
  split
  . next hk => simp [hk]
  . next hk => simp [hk]

def shown : Projection InventoryItemId InventoryReadModel :=
  projection.deliver InventoryStockProjection.new (live key stream)

theorem isFold_shown : IsFold stockroom tenantId shown := by
  intro k _
  rw [loadStream_stockroom]
  split
  . next hk =>
    rw [hk]
    rfl
  . next hk =>
    unfold shown
    apply projection.view_deliver_of_ne
    intro d hd
    left
    rcases List.mem_map.mp hd with ⟨e, he, rfl⟩
    rintro rfl
    exact hk (stream_wellFormed.key_eq e he)

def readStockroom : QueryEvents :=
  fun _ tenantId filter pagination =>
    (stockroom.queryEvents true [key] tenantId filter pagination).map .ok

theorem pageQuery_stockroom
    : PageQuery true tenantId (stockroom.tenantEvents [key] tenantId) readStockroom := by
  apply pageQuery_inMemory enumerates_stockroom
  intro _
  exact enumerates_stockroom

-- The replay is cancelled before its second event.
def betweenEvents : Cancellation where
  loading _ := false
  beforeClear := false
  afterClear := false
  replaying idx := idx == 1

def interrupted (cancellation : Cancellation)
    : Option (Except ReplayError Unit × Projection InventoryItemId InventoryReadModel) :=
  runReplay true readStockroom cancellation tenantId false 1 ⟨0⟩ ⟨⟨0⟩⟩ (fun _ => ⟨⟨0⟩⟩)
    (fun _ => ⟨⟨0⟩⟩) shown

theorem interrupted_keepsUp_iff_betweenEvents
    : ∃ st, interrupted betweenEvents = some (.error .cancelled, st)
        ∧ (KeepsUp stockroom tenantId st
          ↔ NothingMissing stockroom true readStockroom betweenEvents tenantId 1 shown) :=
  ⟨_, rfl, interrupted_keepsUp_iff stockroom wellFormed_stockroom [key] tenantId true readStockroom
    pageQuery_stockroom betweenEvents 1 ⟨0⟩ ⟨⟨0⟩⟩ (fun _ => ⟨⟨0⟩⟩) (fun _ => ⟨⟨0⟩⟩)
      shown _ .cancelled
    isFold_shown rfl⟩

-- The adjustment is gone: the item is shown with quantity 0.
theorem adjustment_gone
    : IsFold stockroom tenantId shown
      ∧ PageQuery true tenantId (stockroom.tenantEvents [key] tenantId) readStockroom
      ∧ ∃ st, interrupted betweenEvents = some (.error .cancelled, st)
          ∧ ¬ KeepsUp stockroom tenantId st := by
  refine ⟨isFold_shown, pageQuery_stockroom, _, rfl, ?_⟩
  intro hkeeps
  have hview := hkeeps key [] rfl
  rw [List.append_nil, loadStream_stockroom, if_pos rfl] at hview
  have hquantity : some (0 : Int64) = some 5 :=
    congrArg (fun view => view.row.map InventoryReadModel.quantity) hview
  exact absurd hquantity (by decide)

end Bolt

end ForgeErp
