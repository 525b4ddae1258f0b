import ForgeErp.Core.Text
import ForgeErp.Domain.Lemmas.Produced
import ForgeErp.Projections.Impl.Members
import ForgeErp.Projections.Lemmas.Basic

/-!
This module contains what a projection shows after an unreliable delivery: envelopes of a stream may
arrive repeatedly, in any order, or not at all.
-/

namespace ForgeErp

namespace CursorProjection

variable {K R E : Type} [DecidableEq K] [Codec E] [Event E] (P : CursorProjection K R E)
variable {key : StreamKey} {stream : List StoredEvent} {evs : List E}

def DeliveriesOf (stream : List StoredEvent) (ds : List (AggregateId × EventEnvelope JsonValue))
    : Prop :=
  ∀ d ∈ ds, ∃ e ∈ stream, d.2 = e.toEnvelope

/--
Either no delivery was accepted, or the row is folded from the part of the stream that starts with
the first accepted envelope and ends at the cursor.
-/
def ShowsSegment (st : Projection K R) (key : StreamKey) (evs : List E)
    (ds : List (AggregateId × EventEnvelope JsonValue)) : Prop :=
  P.deliver st ds = st
  ∨ ∃ skipped fresh first rest ev,
    ds = skipped ++ (fresh, first) :: rest
    ∧ P.deliver st skipped = st
    ∧ evs[first.sequenceNumber - 1]? = some ev
    ∧ View.Covers P.modify evs (P.vacant fresh ev) first.sequenceNumber
        (P.view (P.deliver st ds) key)

omit [DecidableEq K] in
theorem accepts_getElem? (htyped : StreamOf stream evs)
    (hwf : InMemoryEventStore.WellFormedStream key stream) {st : Projection K R} {e : StoredEvent}
    (he : e ∈ stream) {ev : E} (h : P.Accepts st e.toEnvelope ev)
    : evs[e.sequenceNumber - 1]? = some ev := by
  rcases htyped.getElem? (hwf.numbered.getElem?_of_mem he) with ⟨ev', hev', hdec⟩
  have hpayload : Codec.dec e.payload = .ok ev := h.carries.payload
  have hdec : Codec.dec e.payload = .ok ev' := hdec
  rw [hpayload] at hdec
  cases hdec
  exact hev'

theorem deliver_showsSegment (hwf : InMemoryEventStore.WellFormedStream key stream)
    (htyped : StreamOf stream evs) (name : String)
    (ds : List (AggregateId × EventEnvelope JsonValue)) (hds : DeliveriesOf stream ds)
    : P.ShowsSegment (.new name) key evs ds := by
  induction ds using List.reverseRecOn with
  | nil => exact Or.inl rfl
  | append_singleton ds d ih =>
    have ih := ih (fun d' hd' => hds d' (by simp [hd']))
    rcases hds d (by simp) with ⟨e, he, henv⟩
    rcases d with ⟨fresh, envelope⟩
    subst henv
    have hkey : e.toEnvelope.key = key := hwf.key_eq e he
    have hpos := (hwf.numbered.mem_bounds he).1
    have hlast : P.deliver (.new name) (ds ++ [(fresh, e.toEnvelope)])
        = (P.applyEnvelope fresh (P.deliver (.new name) ds) e.toEnvelope).2 := by
      rw [deliver_append]
      rfl
    by_cases haccepts : ∃ ev, P.Accepts (P.deliver (.new name) ds) e.toEnvelope ev
    . rcases haccepts with ⟨ev, haccepts⟩
      have hev := P.accepts_getElem? htyped hwf he haccepts
      have hview := P.view_applyEnvelope_of_carries fresh
        (P.deliver (.new name) ds) haccepts.carries
      rw [hkey] at hview
      right
      cases ih with
      | inl hnone =>
        refine ⟨ds, fresh, e.toEnvelope, [], ev, rfl, hnone, hev, ?_⟩
        rw [hlast, hview, hnone]
        exact View.Covers.first P.modify _ rfl rfl hpos hev
      | inr hsome =>
        rcases hsome with ⟨skipped, fresh', first, rest, ev', hsplit, hskipped, hev', hcovers⟩
        refine ⟨skipped, fresh', first, rest ++ [(fresh, e.toEnvelope)], ev', ?_,
          hskipped, hev', ?_⟩
        . rw [hsplit]
          simp
        . rw [hlast, hview]
          apply hcovers.feed P.modify _ hpos hev
    . have hsame : P.deliver (.new name) (ds ++ [(fresh, e.toEnvelope)])
        = P.deliver (.new name) ds := by
        rw [hlast]
        apply P.applyEnvelope_of_not_accepts
        intro ev hev
        exact haccepts ⟨ev, hev⟩
      unfold ShowsSegment
      rw [hsame]
      cases ih with
      | inl hnone => exact Or.inl hnone
      | inr hsome =>
        rcases hsome with ⟨skipped, fresh', first, rest, ev', hsplit, hrest⟩
        refine Or.inr ⟨skipped, fresh', first, rest ++ [(fresh, e.toEnvelope)], ev', ?_, hrest⟩
        rw [hsplit]
        simp

def Unacceptable (envelope : EventEnvelope JsonValue) : Prop :=
  envelope.aggregateType ≠ P.aggregateType
  ∨ envelope.sequenceNumber = 0
  ∨ (∃ err, (Codec.dec envelope.payload : Except String E) = .error err)
  ∨ ∃ ev : E, Codec.dec envelope.payload = .ok ev
      ∧ (P.tenantOf ev ≠ envelope.tenantId ∨ P.id (P.idOf ev) ≠ envelope.aggregateId)

omit [DecidableEq K] [Event E] in
theorem Unacceptable.not_accepts {P : CursorProjection K R E} {envelope : EventEnvelope JsonValue}
    (h : P.Unacceptable envelope) (st : Projection K R) (ev : E) : ¬ P.Accepts st envelope ev := by
  intro haccepts
  have hcarries := haccepts.carries
  rcases h with htype | hzero | ⟨err, herr⟩ | ⟨ev', hdec, hids⟩
  . exact htype hcarries.type_eq
  . have := haccepts.gate
    rw [View.gate_eq_accept_iff] at this
    omega
  . rw [hcarries.payload] at herr
    cases herr
  . rw [hcarries.payload] at hdec
    cases hdec
    cases hids with
    | inl htenant => exact htenant hcarries.tenant
    | inr haggregate => exact haggregate hcarries.aggregate

def StartsAtOne (st : Projection K R) (key : StreamKey)
    (ds : List (AggregateId × EventEnvelope JsonValue)) : Prop :=
  ∀ pre d post, ds = pre ++ d :: post → d.2.key = key → (P.deliver st pre).getCursor key = 0 →
    (∃ ev, P.Accepts (P.deliver st pre) d.2 ev) → d.2.sequenceNumber = 1

theorem deliver_shows (h : P.Feeds key stream evs) (hrooted : View.Rooted P.modify evs)
    (name : String) (ds : List (AggregateId × EventEnvelope JsonValue))
    (hds : ∀ d ∈ ds, (∃ e ∈ stream, d.2 = e.toEnvelope) ∨ P.Unacceptable d.2 ∨ d.2.key ≠ key)
    (hfirst : P.StartsAtOne (.new name) key ds)
    : ∃ c, View.Shows P.modify evs c (P.view (P.deliver (.new name) ds) key) := by
  induction ds using List.reverseRecOn with
  | nil => exact ⟨0, View.Shows.empty P.modify evs⟩
  | append_singleton ds d ih =>
    have hpre : P.StartsAtOne (.new name) key ds := by
      intro pre d' post heq
      apply hfirst pre d' (post ++ [d])
      rw [heq]
      simp
    rcases ih (fun d' hd' => hds d' (by simp [hd'])) hpre with ⟨c, hshows⟩
    rw [deliver_append, deliver_cons, deliver_nil]
    rcases hds d (by simp) with ⟨e, he, henv⟩ | hunacceptable | hkey
    . rcases h.carries he with ⟨ev, hev, hcarries, hkey, hpos⟩
      rw [henv, ← hkey, P.view_applyEnvelope_of_carries _ _ hcarries, hkey]
      have hcursor : (P.deliver (.new name) ds).getCursor key = c := hshows.cursor
      refine ⟨_, hshows.feed P.modify hrooted _ hpos hev ?_⟩
      -- at cursor 0 every positive number is taken, so this is the first envelope
      by_cases hzero : c = 0
      . left
        rw [hzero] at hcursor
        have hone : d.2.sequenceNumber = 1 := by
          apply hfirst ds d [] (by simp) (by rw [henv, hkey]) hcursor
          refine ⟨ev, ?_⟩
          rw [henv]
          refine ⟨hcarries, ?_⟩
          rw [View.gate_eq_accept_iff, hkey, hcursor]
          have : e.toEnvelope.sequenceNumber = e.sequenceNumber := rfl
          omega
        rw [henv] at hone
        have : e.toEnvelope.sequenceNumber = e.sequenceNumber := rfl
        omega
      . exact Or.inr hzero
    . rw [P.applyEnvelope_of_not_accepts (hunacceptable.not_accepts _)]
      exact ⟨c, hshows⟩
    . rw [P.view_applyEnvelope_ne _ _ (Ne.symm hkey)]
      exact ⟨c, hshows⟩

/--
What is delivered for `key` are events of its stream, each of them behind all that come before it in
the stream. They may be repeated, and envelopes of other streams may arrive in between.
-/
def DeliveredInOrder (key : StreamKey) (stream : List StoredEvent)
    (ds : List (AggregateId × EventEnvelope JsonValue)) : Prop :=
  ∀ pre d post, ds = pre ++ d :: post → d.2.key = key →
    ∃ e ∈ stream, d.2 = e.toEnvelope
      ∧ ∀ i, 1 ≤ i → i < e.sequenceNumber → ∃ d' ∈ pre, d'.2.key = key ∧ d'.2.sequenceNumber = i

theorem DeliveredInOrder.init {ds : List (AggregateId × EventEnvelope JsonValue)}
    {d : AggregateId × EventEnvelope JsonValue} (h : DeliveredInOrder key stream (ds ++ [d]))
    : DeliveredInOrder key stream ds := by
  intro pre d' post heq
  apply h pre d' (post ++ [d])
  rw [heq]
  simp

theorem deliveredInOrder_map (hwf : InMemoryEventStore.WellFormedStream key stream)
    (fresh : AggregateId)
    : DeliveredInOrder key stream (stream.map (fun e => (fresh, e.toEnvelope))) := by
  intro pre d post heq _
  rw [List.map_eq_append_iff] at heq
  rcases heq with ⟨before, rest, hstream, hpre, hrest⟩
  rw [List.map_eq_cons_iff] at hrest
  rcases hrest with ⟨e, after, rfl, rfl, _⟩
  refine ⟨e, by simp [hstream], rfl, ?_⟩
  intro i hpos hlt
  have hnumbered := hwf.numbered
  have hat : stream[before.length]? = some e := by simp [hstream]
  have hlength := hnumbered.getElem? hat
  have hbefore : i - 1 < before.length := by omega
  have hget : stream[i - 1]? = some before[i - 1] := by
    rw [hstream, List.getElem?_append_left hbefore, List.getElem?_eq_getElem hbefore]
  have hi := hnumbered.getElem? hget
  have hmem : before[i - 1] ∈ stream := List.mem_of_getElem? hget
  refine ⟨(fresh, before[i - 1].toEnvelope), ?_, hwf.key_eq _ hmem, ?_⟩
  . rw [← hpre]
    exact List.mem_map_of_mem (List.getElem_mem hbefore)
  . have hseq : before[i - 1].toEnvelope.sequenceNumber = before[i - 1].sequenceNumber := rfl
    dsimp only
    omega

theorem deliver_inOrder (h : P.Feeds key stream evs) (hrooted : View.Rooted P.modify evs)
    (name : String) {ds : List (AggregateId × EventEnvelope JsonValue)}
    (hds : DeliveredInOrder key stream ds)
    : ∃ c, Reached EventEnvelope.key EventEnvelope.sequenceNumber (ds.map Prod.snd) key c
        ∧ View.Shows P.modify evs c (P.view (P.deliver (.new name) ds) key) := by
  induction ds using List.reverseRecOn with
  | nil => exact ⟨0, Reached.nil _ _ key, View.Shows.empty P.modify evs⟩
  | append_singleton ds d ih =>
    rcases ih hds.init with ⟨c, hreached, hshows⟩
    rw [deliver_append, deliver_cons, deliver_nil, List.map_append]
    refine ⟨_, hreached.concat _ _ d.2, ?_⟩
    by_cases hkey : d.2.key = key
    . rcases hds ds d [] rfl hkey with ⟨e, he, henv, hprev⟩
      rcases h.carries he with ⟨ev, hev, hcarries, hkey', hpos⟩
      have hseq : e.toEnvelope.sequenceNumber = e.sequenceNumber := rfl
      -- the number is at most one ahead of what the stream shows
      have hnext : e.sequenceNumber ≤ c + 1 := by
        by_cases hfirst : e.sequenceNumber ≤ 1
        . omega
        . rcases hprev (e.sequenceNumber - 1) (by omega) (by omega) with ⟨d', hd', hk, hn⟩
          have := hreached.le d'.2 (List.mem_map_of_mem hd') hk
          omega
      have hfeed := hshows.feed P.modify hrooted (P.vacant d.1 ev) hpos hev (Or.inl hnext)
      have hview := P.view_applyEnvelope_of_carries d.1 (P.deliver (.new name) ds) hcarries
      rw [hkey', hseq] at hview
      rw [henv, hkey', hseq, hview]
      by_cases hnew : e.sequenceNumber = c + 1
      . rw [if_pos hnew] at hfeed
        rw [if_pos ⟨rfl, by omega⟩]
        rw [hnew] at hfeed ⊢
        exact hfeed
      . rw [if_neg hnew] at hfeed
        rw [if_neg (by omega)]
        exact hfeed
    . rw [if_neg (by simp [hkey]), P.view_applyEnvelope_ne _ _ (Ne.symm hkey)]
      exact hshows

omit [DecidableEq K] [Codec E] [Event E] in
theorem row_of_shows {st : Projection K R} {c : Nat}
    (h : View.Shows P.modify evs c (P.view st key)) (vacant : R)
    : st.store.get key.tenantId (P.id.symm key.aggregateId)
        =
      if c = 0 then none else some ((evs.take c).foldl P.modify vacant) := by
  have hrow : st.store.get key.tenantId (P.id.symm key.aggregateId)
      = View.project P.modify vacant (evs.take c) := h.row vacant
  have hbound := h.bound
  rw [hrow, View.project]
  by_cases hzero : c = 0
  . simp [hzero]
  . rw [if_neg hzero, if_neg]
    rw [List.isEmpty_iff, ← List.length_eq_zero_iff, List.length_take]
    omega

theorem row_inOrder (h : P.Feeds key stream evs) (hrooted : View.Rooted P.modify evs)
    (name : String) {ds : List (AggregateId × EventEnvelope JsonValue)}
    (hds : DeliveredInOrder key stream ds)
    : ∃ c, Reached EventEnvelope.key EventEnvelope.sequenceNumber (ds.map Prod.snd) key c
        ∧ c ≤ evs.length
        ∧ ∀ vacant, (P.deliver (.new name) ds).store.get key.tenantId (P.id.symm key.aggregateId)
            = if c = 0 then none else some ((evs.take c).foldl P.modify vacant) := by
  rcases P.deliver_inOrder h hrooted name hds with ⟨c, hreached, hshows⟩
  exact ⟨c, hreached, hshows.bound, P.row_of_shows hshows⟩

omit [DecidableEq K] in
theorem Feeds.reached_all {P : CursorProjection K R E} (h : P.Feeds key stream evs)
    {ds : List (AggregateId × EventEnvelope JsonValue)} {c : Nat}
    (hreached : Reached EventEnvelope.key EventEnvelope.sequenceNumber (ds.map Prod.snd) key c)
    (hle : c ≤ evs.length) (hall : ∀ e ∈ stream, ∃ d ∈ ds, d.2 = e.toEnvelope)
    : c = evs.length := by
  have hlength := h.typed.length_eq
  have hnumbered := h.wellFormed.numbered
  have hlast := hnumbered.getLast?
  cases he : stream.getLast? with
  | none =>
    rw [List.getLast?_eq_none_iff] at he
    rw [he, List.length_nil] at hlength
    omega
  | some e =>
    have hmem := List.mem_of_getLast? he
    rw [he, Option.map_some, Option.getD_some] at hlast
    rcases hall e hmem with ⟨d, hd, henv⟩
    have hkey : d.2.key = key := by
      rw [henv]
      exact h.wellFormed.key_eq e hmem
    have hseq : d.2.sequenceNumber = e.sequenceNumber := by
      rw [henv]
      rfl
    have := hreached.le d.2 (List.mem_map_of_mem hd) hkey
    omega

/--
If the rows that are folded from a part of the stream show its aggregate, then so does the row of
the projection at any time, and in the end it shows the aggregate of the whole stream.
-/
theorem row_follows {S : Type} {apply : S → E → S} {s : S} {shows : Option R → S → Prop}
    (h : P.Feeds key stream evs) (hrooted : View.Rooted P.modify evs) (name : String)
    {ds : List (AggregateId × EventEnvelope JsonValue)} (hds : DeliveredInOrder key stream ds)
    (vacant : R) (hnone : shows none s)
    (hsome : ∀ c, c ≤ evs.length → c ≠ 0 →
      shows (some ((evs.take c).foldl P.modify vacant)) ((evs.take c).foldl apply s))
    : (∃ c, Reached EventEnvelope.key EventEnvelope.sequenceNumber (ds.map Prod.snd) key c
        ∧ shows ((P.deliver (.new name) ds).store.get key.tenantId (P.id.symm key.aggregateId))
            ((evs.take c).foldl apply s))
      ∧ ((∀ e ∈ stream, ∃ d ∈ ds, d.2 = e.toEnvelope) →
          shows ((P.deliver (.new name) ds).store.get key.tenantId (P.id.symm key.aggregateId))
            (evs.foldl apply s)) := by
  rcases P.row_inOrder h hrooted name hds with ⟨c, hreached, hle, hrow⟩
  have hshows : shows ((P.deliver (.new name) ds).store.get key.tenantId
      (P.id.symm key.aggregateId)) ((evs.take c).foldl apply s) := by
    rw [hrow vacant]
    split
    . next hzero =>
      rw [hzero]
      exact hnone
    . next hpos => exact hsome c hle hpos
  refine ⟨⟨c, hreached, hshows⟩, ?_⟩
  intro hall
  rw [h.reached_all hreached hle hall, List.take_length] at hshows
  exact hshows

end CursorProjection

section Segments

variable [TextFormat Uuid] [TextFormat DateTime]

theorem deliveries_show_segments
    : (∀ key stream (evs : List InventoryEvent) ds,
        InMemoryEventStore.WellFormedStream key stream →
        StreamOf stream evs →
        CursorProjection.DeliveriesOf stream ds →
        InventoryStockProjection.projection.ShowsSegment InventoryStockProjection.new key evs ds)
      ∧ (∀ key stream (evs : List SalesOrderEvent) ds,
          InMemoryEventStore.WellFormedStream key stream →
          StreamOf stream evs →
          CursorProjection.DeliveriesOf stream ds →
          SalesOrdersProjection.projection.ShowsSegment SalesOrdersProjection.new key evs ds)
      ∧ (∀ key stream (evs : List PurchaseOrderEvent) ds,
          InMemoryEventStore.WellFormedStream key stream →
          StreamOf stream evs →
          CursorProjection.DeliveriesOf stream ds →
          PurchaseOrdersProjection.projection.ShowsSegment PurchaseOrdersProjection.new key evs ds)
      ∧ (∀ key stream (evs : List PartyEvent) ds,
          InMemoryEventStore.WellFormedStream key stream →
          StreamOf stream evs →
          CursorProjection.DeliveriesOf stream ds →
          PartyDirectoryProjection.projection.ShowsSegment PartyDirectoryProjection.new
            key evs ds) := by
  refine ⟨?_, ?_, ?_, ?_⟩
  . intro key stream evs ds hwf htyped hds
    apply CursorProjection.deliver_showsSegment _ hwf htyped _ ds hds
  . intro key stream evs ds hwf htyped hds
    apply CursorProjection.deliver_showsSegment _ hwf htyped _ ds hds
  . intro key stream evs ds hwf htyped hds
    apply CursorProjection.deliver_showsSegment _ hwf htyped _ ds hds
  . intro key stream evs ds hwf htyped hds
    apply CursorProjection.deliver_showsSegment _ hwf htyped _ ds hds

end Segments

def InventoryStockProjection.CommandFor (key : StreamKey) (command : InventoryCommand) : Prop :=
  command.tenantId = key.tenantId ∧ command.itemId = ⟨key.aggregateId⟩

namespace Bolt

open Concrete

def key : StreamKey := ⟨tenantId, itemId.aggregateId⟩

def stored (n : Nat) (ev : InventoryEvent) : StoredEvent where
  eventId := ⟨BitVec.ofNat 128 n⟩
  tenantId
  aggregateId := itemId.aggregateId
  aggregateType := "inventory.item"
  sequenceNumber := n
  eventType := Event.eventType ev
  eventVersion := Event.version ev
  occurredAt := Event.occurredAt ev
  payload := Codec.enc ev

def events : List InventoryEvent := [created, adjusted 5]

def stream : List StoredEvent := [stored 1 created, stored 2 (adjusted 5)]

def deliver (n : Nat) (ev : InventoryEvent) : AggregateId × EventEnvelope JsonValue :=
  (⟨⟨0⟩⟩, (stored n ev).toEnvelope)

theorem stream_wellFormed : InMemoryEventStore.WellFormedStream key stream := by
  constructor
  . rfl
  . simp [stream, stored, StoredEvent.key, key]
  . simp [stream, stored]

theorem stream_typed : StreamOf stream events := by
  have hrep : ∀ n ev, (stored n ev).uncommitted.Represents ev := fun _ _ => ⟨rfl, rfl, rfl, rfl⟩
  exact .cons (hrep 1 _) (.cons (hrep 2 _) .nil)

theorem events_produced
    : InventoryItem.aggregate.Produced (InventoryStockProjection.CommandFor key)
        (InventoryItem.empty ⟨key.aggregateId⟩) events := by
  have hcreate : InventoryItem.aggregate.Produced (InventoryStockProjection.CommandFor key)
      (InventoryItem.empty ⟨key.aggregateId⟩) ([] ++ [created]) :=
    .step (.createItem create : InventoryCommand) .nil ⟨rfl, rfl⟩ rfl
  exact .step (.adjustStock (adjust 5) : InventoryCommand) hcreate ⟨rfl, rfl⟩ rfl

theorem view_deliver (st : Projection InventoryItemId InventoryReadModel) (n : Nat)
    (ev : InventoryEvent) (htenant : ev.tenantId = tenantId) (hitem : ev.itemId = itemId)
    : InventoryStockProjection.projection.view
        (InventoryStockProjection.projection.deliver st [deliver n ev]) key
        =
      (InventoryStockProjection.projection.view st key).feed
        InventoryStockProjection.projection.modify n
        (InventoryStockProjection.projection.vacant ⟨⟨0⟩⟩ ev) ev := by
  apply CursorProjection.view_applyEnvelope_of_carries
  exact ⟨rfl, Codec.dec_enc ev, htenant, congrArg InventoryItemId.aggregateId hitem⟩

-- Number 2 arrives first and is taken: the row has a quantity and no name.
theorem second_event_first
    : InMemoryEventStore.WellFormedStream key stream
      ∧ StreamOf stream events
      ∧ InventoryItem.aggregate.Produced (InventoryStockProjection.CommandFor key)
          (InventoryItem.empty ⟨key.aggregateId⟩) events
      ∧ CursorProjection.DeliveriesOf stream [deliver 2 (adjusted 5)]
      ∧ ¬ ∃ c vacant,
          (InventoryStockProjection.projection.view
            (InventoryStockProjection.projection.deliver InventoryStockProjection.new
              [deliver 2 (adjusted 5)]) key).cursor = c
          ∧ (InventoryStockProjection.projection.view
            (InventoryStockProjection.projection.deliver InventoryStockProjection.new
              [deliver 2 (adjusted 5)]) key).row
              =
            View.project InventoryStockProjection.projection.modify vacant (events.take c) := by
  refine ⟨stream_wellFormed, stream_typed, events_produced, ?_, ?_⟩
  . intro d hd
    rw [List.mem_singleton] at hd
    exact ⟨stored 2 (adjusted 5), by simp [stream], by rw [hd]; rfl⟩
  . rw [view_deliver _ _ _ rfl rfl]
    rintro ⟨c, vacant, rfl, hrow⟩
    have hname : some "" = some "Bolt" := congrArg (Option.map InventoryReadModel.name) hrow
    exact absurd hname (by decide)

theorem deliveries_show_segments_bolt
    : InventoryStockProjection.projection.ShowsSegment InventoryStockProjection.new key events
        [deliver 2 (adjusted 5), deliver 1 created, deliver 2 (adjusted 5)] := by
  apply deliveries_show_segments.1 key stream events _ stream_wellFormed stream_typed
  intro d hd
  simp only [List.mem_cons, List.not_mem_nil, or_false] at hd
  rcases hd with rfl | rfl | rfl
  . exact ⟨stored 2 (adjusted 5), by simp [stream], rfl⟩
  . exact ⟨stored 1 created, by simp [stream], rfl⟩
  . exact ⟨stored 2 (adjusted 5), by simp [stream], rfl⟩

end Bolt

namespace InventoryStockProjection

theorem rooted_of_produced {ok : InventoryCommand → Prop} {id : InventoryItemId}
    {evs : List InventoryEvent}
    (h : InventoryItem.aggregate.Produced ok (InventoryItem.empty id) evs)
    : View.Rooted projection.modify evs := by
  intro ev hev r r'
  rcases h.head hev with ⟨command, rest, -, hhandle⟩
  rcases InventoryItem.handle_empty hhandle with ⟨e, rfl⟩
  rfl

theorem ids_of_produced {key : StreamKey} {s : InventoryItem} {evs : List InventoryEvent}
    (h : InventoryItem.aggregate.Produced (CommandFor key) s evs)
    : ∀ ev ∈ evs, ev.tenantId = key.tenantId ∧ ev.itemId = ⟨key.aggregateId⟩ := by
  apply h.forall (fun ev : InventoryEvent =>
    ev.tenantId = key.tenantId ∧ ev.itemId = ⟨key.aggregateId⟩)
  intro s command decided hok hhandle ev hev
  rcases InventoryItem.handle_ids hhandle ev hev with ⟨htenant, hitem⟩
  exact ⟨htenant.trans hok.1, hitem.trans hok.2⟩

def Agrees (row : InventoryReadModel) (item : InventoryItem) : Prop :=
  row.name = item.name ∧ row.quantity = item.stock

theorem agrees_foldl {row : InventoryReadModel} {item : InventoryItem} (h : Agrees row item)
    (evs : List InventoryEvent)
    : Agrees (evs.foldl projection.modify row) (InventoryItem.aggregate.rehydrate item evs) := by
  induction evs generalizing row item with
  | nil => exact h
  | cons ev evs ih =>
    apply ih
    cases ev with
    | itemCreated e => exact ⟨rfl, rfl⟩
    | stockAdjusted e => exact ⟨h.1, congrArg (· + e.delta) h.2⟩

structure Mirrors (st : Projection InventoryItemId InventoryReadModel) (key : StreamKey)
    (evs : List InventoryEvent) : Prop where
  bound : st.getCursor key ≤ evs.length
  vacant : st.getCursor key = 0 → st.store.get key.tenantId ⟨key.aggregateId⟩ = none
  row : st.getCursor key ≠ 0 →
    ∃ row, st.store.get key.tenantId ⟨key.aggregateId⟩ = some row
      ∧ Agrees row
          (InventoryItem.aggregate.rehydrate (InventoryItem.empty ⟨key.aggregateId⟩)
            (evs.take (st.getCursor key)))

theorem mirrors_of_shows {st : Projection InventoryItemId InventoryReadModel} {key : StreamKey}
    {evs : List InventoryEvent} {c : Nat}
    (h : View.Shows projection.modify evs c (projection.view st key)) : Mirrors st key evs := by
  have hcursor : st.getCursor key = c := h.cursor
  have hrow := h.row ⟨⟨key.aggregateId⟩, "", 0⟩
  have hget : (projection.view st key).row = st.store.get key.tenantId ⟨key.aggregateId⟩ := rfl
  rw [hget] at hrow
  refine ⟨by rw [hcursor]; exact h.bound, ?_, ?_⟩
  . intro hzero
    rw [hcursor] at hzero
    rw [hrow, hzero]
    rfl
  . intro hpos
    rw [hcursor] at hpos ⊢
    have hne : (evs.take c).isEmpty = false := by
      rw [List.isEmpty_eq_false_iff, ← List.length_pos_iff, List.length_take]
      have := h.bound
      omega
    simp only [View.project, hne, Bool.false_eq_true, ↓reduceIte] at hrow
    exact ⟨_, hrow, agrees_foldl ⟨rfl, rfl⟩ _⟩

variable [TextFormat Uuid] [TextFormat DateTime]

theorem feeds_of_produced {key : StreamKey} {stream : List StoredEvent} {evs : List InventoryEvent}
    {s : InventoryItem}
    (hwf : InMemoryEventStore.WellFormedStream key stream) (htyped : StreamOf stream evs)
    (htype : ∀ e ∈ stream, e.aggregateType = "inventory.item")
    (hproduced : InventoryItem.aggregate.Produced (CommandFor key) s evs)
    : projection.Feeds key stream evs := by
  refine ⟨hwf, htyped, htype, ?_, ?_⟩
  . intro ev hev
    exact (ids_of_produced hproduced ev hev).1
  . intro ev hev
    apply congrArg InventoryItemId.aggregateId (ids_of_produced hproduced ev hev).2

theorem delivery_mirrors_item (key : StreamKey) (stream : List StoredEvent)
    (evs : List InventoryEvent)
    (hwf : InMemoryEventStore.WellFormedStream key stream) (htyped : StreamOf stream evs)
    (htype : ∀ e ∈ stream, e.aggregateType = "inventory.item")
    (hproduced : InventoryItem.aggregate.Produced (CommandFor key)
      (InventoryItem.empty ⟨key.aggregateId⟩) evs)
    (ds : List (AggregateId × EventEnvelope JsonValue))
    (hds : ∀ d ∈ ds,
      (∃ e ∈ stream, d.2 = e.toEnvelope) ∨ projection.Unacceptable d.2 ∨ d.2.key ≠ key)
    (hfirst : projection.StartsAtOne new key ds)
    : Mirrors (projection.deliver new ds) key evs
      ∧ ∀ fresh (st : Projection InventoryItemId InventoryReadModel) envelope,
          ((∃ err, (projection.applyEnvelope fresh st envelope).1 = .error err)
            ∨ envelope.aggregateType ≠ "inventory.item"
            ∨ envelope.sequenceNumber ≤ st.getCursor envelope.key) →
          (projection.applyEnvelope fresh st envelope).2 = st := by
  constructor
  . have hfeeds := feeds_of_produced hwf htyped htype hproduced
    rcases projection.deliver_shows hfeeds (rooted_of_produced hproduced) _ ds hds hfirst
      with ⟨c, hshows⟩
    apply mirrors_of_shows hshows
  . intro fresh st envelope h
    apply projection.applyEnvelope_of_not_accepts
    intro ev haccepts
    rcases h with ⟨err, herr⟩ | htype | hle
    . rw [projection.applyEnvelope_of_accepts haccepts] at herr
      cases herr
    . exact htype haccepts.carries.type_eq
    . have := haccepts.gate
      rw [View.gate_eq_accept_iff] at this
      omega

end InventoryStockProjection

namespace Bolt

open Concrete

theorem delivery_mirrors_item_bolt
    : InventoryStockProjection.Mirrors
        (InventoryStockProjection.projection.deliver InventoryStockProjection.new
          [deliver 1 created, deliver 2 (adjusted 5)]) key events := by
  have hgenuine : ∀ d ∈ [deliver 1 created, deliver 2 (adjusted 5)],
      ∃ e ∈ stream, d.2 = e.toEnvelope := by
    intro d hd
    simp only [List.mem_cons, List.not_mem_nil, or_false] at hd
    rcases hd with rfl | rfl
    . exact ⟨stored 1 created, by simp [stream], rfl⟩
    . exact ⟨stored 2 (adjusted 5), by simp [stream], rfl⟩
  refine (InventoryStockProjection.delivery_mirrors_item key stream events stream_wellFormed
    stream_typed (by simp [stream, stored]) events_produced _
    (fun d hd => Or.inl (hgenuine d hd)) ?_).1
  intro pre d post hsplit hkey hcursor haccepts
  cases pre with
  | nil =>
    cases hsplit
    rfl
  | cons d' pre =>
    cases pre with
    | nil =>
      cases hsplit
      have := congrArg View.cursor (view_deliver InventoryStockProjection.new 1 created rfl rfl)
      have : (InventoryStockProjection.projection.deliver InventoryStockProjection.new
          [deliver 1 created]).getCursor key = 1 := this
      omega
    | cons => simp at hsplit

end Bolt

end ForgeErp
