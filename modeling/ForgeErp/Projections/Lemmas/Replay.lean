import ForgeErp.Projections.Lemmas.Genuine
import ForgeErp.Projections.Lemmas.Loading
import ForgeErp.Projections.Lemmas.Rebuild

/-!
This module contains a replay of the inventory projection beside live delivery. The replay works
from a snapshot while live events move the same cursors. What goes wrong is an event that is
delivered too early: before the clear it is wiped out again, and after the clear a view that has
seen nothing takes it as its first event.
-/

namespace ForgeErp
namespace Replay

open InventoryStockProjection (CreatesOwn Genuine projection)

theorem sortEvents_sorted (events : List StoredEvent) (key : StreamKey)
    : ((sortEvents events).filter (fun e => e.key = key)).Pairwise
        (fun a b => a.sequenceNumber ≤ b.sequenceNumber) := by
  let r : StoredEvent → StoredEvent → Prop := fun a b =>
    CursorProjection.ReplayOrder a.toEnvelope b.toEnvelope
  have htotal : Std.Total r := ⟨fun a b =>
    Std.Total.total (r := CursorProjection.ReplayOrder) a.toEnvelope b.toEnvelope⟩
  have htrans : IsTrans StoredEvent r := ⟨fun a b c =>
    IsTrans.trans (r := CursorProjection.ReplayOrder) a.toEnvelope b.toEnvelope c.toEnvelope⟩
  have hkeys : ∀ e ∈ (sortEvents events).filter (fun e => e.key = key), e.key = key := by
    intro e he
    simpa using List.of_mem_filter he
  apply List.Pairwise.imp_of_mem _ ((List.pairwise_insertionSort r events).filter _)
  intro a b ha hb hab
  apply CursorProjection.sequenceNumber_le_of_replayOrder hab
  change a.key = b.key
  rw [hkeys a ha, hkeys b hb]

theorem sortEvents_stream {events stream : List StoredEvent} {key : StreamKey}
    (hwf : InMemoryEventStore.WellFormedStream key stream)
    (h : (events.filter (fun e => e.key = key)).Perm stream)
    : (sortEvents events).filter (fun e => e.key = key) = stream := by
  have hperm : ((sortEvents events).filter (fun e => e.key = key)).Perm stream :=
    ((List.perm_insertionSort _ events).filter _).trans h
  have hsorted := sortEvents_sorted events key
  have hstream : stream.Pairwise (fun a b => a.sequenceNumber ≤ b.sequenceNumber) := by
    apply hwf.numbered.pairwise_lt.imp
    intro a b hab
    omega
  apply List.Perm.eq_of_pairwise _ hsorted hstream hperm
  intro a b ha hb hab hba
  apply hwf.numbered.eq_of_mem (hperm.mem_iff.mp ha) hb
  omega

theorem load_stream_perm {store : InMemoryEventStore} (hwf : store.WellFormed)
    {keys : List StreamKey} (hkeys : store.streams.Enumerates keys) {key : StreamKey}
    {events : List StoredEvent}
    (hperm : events.Perm ((store.tenantEvents keys key.tenantId).filter
      (isRelevant ["inventory.item"])))
    (htype : ∀ e ∈ store.loadStream key, e.aggregateType = "inventory.item")
    : (events.filter (fun e => e.key = key)).Perm (store.loadStream key) := by
  have hstream := tenantEvents_loadStream hwf hkeys key
  apply (hperm.filter _).trans
  rw [List.filter_filter, List.filter_congr (q := fun e => e.key = key), hstream]
  intro e he
  by_cases hkey : e.key = key
  . have hmem : e ∈ store.loadStream key := by
      rw [← hstream, List.mem_filter]
      exact ⟨he, by simpa using hkey⟩
    simp [hkey, isRelevant, htype e hmem]
  . simp [hkey]

variable [TextFormat Uuid] [TextFormat DateTime]

structure Grows (key : StreamKey) (store store' : InMemoryEventStore) (committed : List StoredEvent)
    : Prop where
  wellFormed : store'.WellFormed
  own : store'.loadStream key = store.loadStream key ++ committed
  others : ∀ key', key' ≠ key → store'.loadStream key' = store.loadStream key'
  genuine : ∀ evs, Genuine key (store.loadStream key) evs →
    ∃ decided, Genuine key (store.loadStream key ++ committed) (evs ++ decided)
  foreign : store.loadStream key ≠ [] →
    (∀ e ∈ store.loadStream key, e.aggregateType ≠ "inventory.item") → committed = []

theorem Grows.refl {store store' : InMemoryEventStore} (hwf : store.WellFormed)
    (h : ∀ key, store'.loadStream key = store.loadStream key) (key : StreamKey)
    : Grows key store store' [] := by
  constructor
  . intro key'
    rw [h]
    apply hwf key'
  . rw [h, List.append_nil]
  . intro key' _
    apply h key'
  . intro evs hgenuine
    refine ⟨[], ?_⟩
    rw [List.append_nil, List.append_nil]
    exact hgenuine
  . intros
    rfl

theorem grows_append {store : InMemoryEventStore} {key : StreamKey} {command : InventoryCommand}
    {freshId : Nat → Uuid} {uncommitted : List UncommittedEvent} {expected : ExpectedVersion}
    (hwf : store.WellFormed) (hown : CreatesOwn key command)
    (hdecide : CommandDispatcher.decideEvents (inventoryRequest key command) (store.loadStream key)
      freshId = .ok (some (uncommitted, expected)))
    : ∃ committed, Grows key store (store.append uncommitted expected).2 committed := by
  rcases CommandDispatcher.decideEvents_uniform hdecide with ⟨huniform, hnonempty⟩
  have hwf' := InMemoryEventStore.wellFormed_append hwf uncommitted expected
  have houtcome := InMemoryEventStore.append_outcome store uncommitted expected
  generalize happend : store.append uncommitted expected = result at houtcome hwf' ⊢
  cases houtcome with
  | empty => exact absurd rfl hnonempty
  | invalid => exact ⟨[], Grows.refl hwf (fun _ => rfl) key⟩
  | conflict => exact ⟨[], Grows.refl hwf (InMemoryEventStore.loadStream_entryOr store _) key⟩
  | typeMismatch => exact ⟨[], Grows.refl hwf (InMemoryEventStore.loadStream_entryOr store _) key⟩
  | @committed first rest committed _ _ hhead hcommitted =>
    have hfirst : first.key = key := (huniform first (by simp)).1
    have htype : first.aggregateType = "inventory.item" := (huniform first (by simp)).2
    have hload : (InMemoryEventStore.mk (store.streams.insert first.key
        (store.loadStream first.key ++ committed))).loadStream key
          = store.loadStream key ++ committed := by
      rw [InMemoryEventStore.loadStream_insert, if_pos hfirst.symm, hfirst]
    refine ⟨committed, hwf', hload, ?_, ?_, ?_⟩
    . intro key' hne
      dsimp only
      rw [InMemoryEventStore.loadStream_insert, if_neg (by rw [hfirst]; exact hne)]
    . intro evs hgenuine
      rcases CommandDispatcher.decideEvents_eq_some hgenuine.wellFormed.numbered hgenuine.typed
        hdecide with ⟨decided, hdecision⟩
      refine ⟨decided, hgenuine.append hown hdecision.streamOf hdecision.handle ?_ ?_ ?_⟩
      . rw [hcommitted]
        apply StreamOf.assignSequence hdecision.represents
      . rw [← hload]
        apply hwf' key
      . intro e he
        rw [hcommitted] at he
        rcases mem_assignSequence he with ⟨u, hu, n, hn⟩
        rw [hn]
        exact (huniform u hu).2
    . intro hne hforeign
      exfalso
      rcases List.exists_cons_of_ne_nil hne with ⟨existing, others, hcons⟩
      apply hforeign existing (by simp [hcons])
      rw [← htype]
      apply hhead
      rw [hfirst, hcons]
      rfl

theorem grows_dispatch {store : InMemoryEventStore} {key : StreamKey} {command : InventoryCommand}
    (hwf : store.WellFormed) (hown : CreatesOwn key command) (freshId : Nat → Uuid)
    : ∃ committed, Grows key store
        (CommandDispatcher.dispatch InMemoryEventBus.toEventBus store ⟨[]⟩
          (inventoryRequest key command) freshId).2.1 committed := by
  rcases CommandDispatcher.dispatch_store InMemoryEventBus.toEventBus store ⟨[]⟩
    (inventoryRequest key command) freshId with hsame | ⟨uncommitted, expected, hdecide, happend⟩
  . rw [hsame]
    exact ⟨[], Grows.refl hwf (fun _ => rfl) key⟩
  . rw [happend]
    apply grows_append hwf hown hdecide

-- The envelope that is made up for the clear does not decode.
theorem clearTenant_eq (tenantId : TenantId) (eventId : Uuid) (aggregateId : AggregateId)
    (fresh : Nat → AggregateId) (st : Projection InventoryItemId InventoryReadModel)
    : clearTenant tenantId eventId aggregateId fresh st = st.clearTenant tenantId := by
  unfold clearTenant CursorProjection.rebuildFromScratch
  dsimp only
  rw [List.insertionSort_cons, List.insertionSort_nil, List.orderedInsert_nil]
  unfold CursorProjection.applyAll
  rw [show ∀ env : EventEnvelope JsonValue, CursorProjection.tenantsOf [env] = [env.tenantId] from
    fun _ => rfl, List.foldl_cons, List.foldl_nil]
  generalize st.clearTenant tenantId = cleared
  have hstate : (projection.applyEnvelope (fresh 0) cleared
      ⟨eventId, tenantId, aggregateId, "inventory.item", 1, .object []⟩).2 = cleared := by
    apply projection.applyEnvelope_of_not_accepts
    intro ev haccepts
    have := haccepts.carries.payload
    cases this
  split
  . next happly =>
    rw [happly] at hstate
    exact hstate
  . next happly =>
    rw [happly] at hstate
    exact hstate

inductive Steps (tenantId : TenantId) (s : System) : Action → System → Prop where
  | dispatch {key : StreamKey} {command : InventoryCommand} {freshId : Nat → Uuid} :
      Steps tenantId s (.dispatch key command freshId)
        { s with store := (CommandDispatcher.dispatch InMemoryEventBus.toEventBus s.store ⟨[]⟩
            (inventoryRequest key command) freshId).2.1 }
  | deliver {key : StreamKey} {fresh : AggregateId} {e : StoredEvent} :
      (s.store.loadStream key)[s.delivered key]? = some e →
      Steps tenantId s (.deliver key fresh)
        { s with
          projection := (projection.applyEnvelope fresh s.projection e.toEnvelope).2
          delivered := fun key' => if key' = key then s.delivered key + 1 else s.delivered key' }
  | load {overflowChecks : Bool} {queryEvents : QueryEvents} {fuel : Nat}
      {allEvents : List StoredEvent} :
      s.phase = .notStarted →
      loadEvents overflowChecks queryEvents (fun _ => false) tenantId ["inventory.item"] fuel 0 0 []
        = .finished (.ok allEvents) →
      Steps tenantId s (.load overflowChecks queryEvents fuel) { s with phase := .loaded allEvents }
  | clear {eventId : Uuid} {aggregateId : AggregateId} {fresh : Nat → AggregateId}
      {allEvents : List StoredEvent} :
      s.phase = .loaded allEvents →
      Steps tenantId s (.clear eventId aggregateId fresh)
        { s with
          projection := s.projection.clearTenant tenantId
          phase := .replaying (sortEvents allEvents) (sortEvents allEvents) }
  | replay {fresh : AggregateId} {allEvents remaining : List StoredEvent} {e : StoredEvent} :
      s.phase = .replaying allEvents (e :: remaining) →
      Steps tenantId s (.replay fresh)
        { s with
          projection := (projection.applyEnvelope fresh s.projection e.toEnvelope).2
          phase := .replaying allEvents remaining }
  | finish {fresh : AggregateId} {allEvents : List StoredEvent} :
      s.phase = .replaying allEvents [] →
      Steps tenantId s (.replay fresh) { s with phase := .complete }
  | fail {action : Action} {st : Projection InventoryItemId InventoryReadModel}
    {err : ReplayError} :
      Steps tenantId s action { s with projection := st, phase := .failed err }

theorem steps_of_step {tenantId : TenantId} {s s' : System} {action : Action}
    (h : step tenantId false s action = some s') : Steps tenantId s action s' := by
  unfold step at h
  split at h
  . cases h
    apply Steps.dispatch
  . split at h
    . cases h
    . next he =>
      cases h
      apply Steps.deliver he
  . split at h
    . next hphase =>
      split at h
      . next hload =>
        cases h
        apply Steps.load hphase hload
      . cases h
        apply Steps.fail
      . cases h
    . cases h
  . split at h
    . next hphase =>
      cases h
      rw [clearTenant_eq]
      apply Steps.clear hphase
    . cases h
  . split at h
    . next hphase =>
      cases h
      apply Steps.finish hphase
    . next e remaining hphase =>
      simp only [Bool.false_eq_true, ↓reduceIte] at h
      split at h
      . cases h
        apply Steps.fail
      . next st happly =>
        cases h
        have hst : st = _ := congrArg Prod.snd happly.symm
        rw [hst]
        apply Steps.replay hphase
    . cases h
  . split at h
    . cases h
    . cases h
    . cases h
      apply Steps.fail

def countOf (key : StreamKey) (events : List StoredEvent) : Nat :=
  (events.filter (fun e => e.key = key)).length

/--
What is known about a stream of the tenant while the replay goes on. From the clear on, the view may
be ahead of the replay; what live delivery skipped over is still to come from the snapshot.
-/
def Tracks (s : System) (key : StreamKey) (evs : List InventoryEvent) : Prop :=
  let shows c := View.Shows projection.modify evs c (projection.view s.projection key)
  match s.phase with
  | .notStarted => shows (s.delivered key)
  | .loaded allEvents =>
    ∃ n, n ≤ (s.store.loadStream key).length
      ∧ (allEvents.filter (fun e => e.key = key)).Perm ((s.store.loadStream key).take n)
      ∧ s.delivered key ≤ n
      ∧ shows (s.delivered key)
  | .replaying allEvents remaining =>
    ∃ n r c, countOf key allEvents = n
      ∧ n ≤ (s.store.loadStream key).length
      ∧ remaining.filter (fun e => e.key = key) = ((s.store.loadStream key).take n).drop r
      ∧ r ≤ c
      ∧ s.delivered key ≤ max c n
      ∧ shows c
  | .complete => ∃ c, s.delivered key ≤ c ∧ shows c
  | .failed _ => True

def Foreign (stream : List StoredEvent) : Prop :=
  stream ≠ [] ∧ ∀ e ∈ stream, e.aggregateType ≠ "inventory.item"

structure Inv (tenantId : TenantId) (s : System) : Prop where
  wellFormed : s.store.WellFormed
  streams : ∀ key, key.tenantId = tenantId →
    Foreign (s.store.loadStream key)
    ∨ ∃ evs, Genuine key (s.store.loadStream key) evs ∧ Tracks s key evs

/--
The replay starts on any store content, with a projection that shows what was delivered so far.
-/
structure Starts (tenantId : TenantId) (s : System) : Prop where
  phase : s.phase = .notStarted
  wellFormed : s.store.WellFormed
  streams : ∀ key, key.tenantId = tenantId →
    Foreign (s.store.loadStream key)
    ∨ ∃ evs, Genuine key (s.store.loadStream key) evs
      ∧ View.Shows projection.modify evs (s.delivered key) (projection.view s.projection key)

def replaying (tenantId : TenantId) : Machine System Action where
  init := Starts tenantId
  step := step tenantId false

/--
The steps that do no harm. A command that creates an item carries the identifiers of its stream; the
load finds what it has to find; and no event is delivered too early: between load and clear only
events of the snapshot, after the clear only events that the view is waiting for or has seen, or
events of the snapshot once the view has a first event.
-/
def Timely (tenantId : TenantId) (s : System) (action : Action) : Prop :=
  match action with
  | .dispatch key command _ => CreatesOwn key command
  | .load overflowChecks queryEvents _ =>
    ∃ keys, s.store.streams.Enumerates keys
      ∧ PageQuery overflowChecks tenantId (s.store.tenantEvents keys tenantId) queryEvents
      ∧ Pageable ["inventory.item"] (s.store.tenantEvents keys tenantId)
  | .deliver key _ =>
    key.tenantId = tenantId →
    ∀ e, (s.store.loadStream key)[s.delivered key]? = some e → e.aggregateType = "inventory.item" →
      match s.phase with
      | .loaded allEvents => e.sequenceNumber ≤ countOf key allEvents
      | .replaying allEvents _ =>
        e.sequenceNumber ≤ s.projection.getCursor key + 1
        ∨ (s.projection.getCursor key ≠ 0 ∧ e.sequenceNumber ≤ countOf key allEvents)
      | _ => True
  | _ => True

omit [TextFormat Uuid] [TextFormat DateTime] in
theorem Tracks.frame {s s' : System} {key : StreamKey} {evs : List InventoryEvent}
    (h : Tracks s key evs) (hphase : s'.phase = s.phase)
    (hstream : s'.store.loadStream key = s.store.loadStream key)
    (hdelivered : s'.delivered key = s.delivered key)
    (hview : projection.view s'.projection key = projection.view s.projection key)
    : Tracks s' key evs := by
  unfold Tracks at h ⊢
  rw [hphase, hstream, hdelivered, hview]
  exact h

omit [TextFormat Uuid] [TextFormat DateTime] in
theorem Tracks.grow {s : System} {store : InMemoryEventStore} {key : StreamKey}
    {committed : List StoredEvent} {evs : List InventoryEvent} (h : Tracks s key evs)
    (hstore : store.loadStream key = s.store.loadStream key ++ committed)
    (decided : List InventoryEvent) : Tracks { s with store } key (evs ++ decided) := by
  unfold Tracks at h ⊢
  dsimp only at h ⊢
  have htake : ∀ n, n ≤ (s.store.loadStream key).length →
      (store.loadStream key).take n = (s.store.loadStream key).take n := by
    intro n hn
    rw [hstore, List.take_append_of_le_length hn]
  have hlength : (s.store.loadStream key).length ≤ (store.loadStream key).length := by
    rw [hstore, List.length_append]
    omega
  cases hphase : s.phase with
  | notStarted =>
    rw [hphase] at h
    apply h.append
  | loaded allEvents =>
    rw [hphase] at h
    rcases h with ⟨n, hn, hperm, hdelivered, hshows⟩
    refine ⟨n, by omega, ?_, hdelivered, hshows.append _ decided⟩
    rw [htake n hn]
    exact hperm
  | replaying allEvents remaining =>
    rw [hphase] at h
    rcases h with ⟨n, r, c, hcount, hn, hremaining, hr, hdelivered, hshows⟩
    refine ⟨n, r, c, hcount, by omega, ?_, hr, hdelivered, hshows.append _ decided⟩
    rw [htake n hn]
    exact hremaining
  | complete =>
    rw [hphase] at h
    rcases h with ⟨c, hdelivered, hshows⟩
    exact ⟨c, hdelivered, hshows.append _ decided⟩
  | failed err => trivial

theorem Tracks.deliver {tenantId : TenantId} {s : System} {key : StreamKey}
    {evs : List InventoryEvent} {e : StoredEvent} {fresh : AggregateId} (h : Tracks s key evs)
    (hgenuine : Genuine key (s.store.loadStream key) evs) (hkey : key.tenantId = tenantId)
    (he : (s.store.loadStream key)[s.delivered key]? = some e)
    (hok : Timely tenantId s (.deliver key fresh))
    : Tracks
        { s with
          projection := (projection.applyEnvelope fresh s.projection e.toEnvelope).2
          delivered := fun key' => if key' = key then s.delivered key + 1 else s.delivered key' }
        key evs := by
  have hmem := List.mem_of_getElem? he
  have hseq : e.sequenceNumber = 1 + s.delivered key := hgenuine.wellFormed.numbered.getElem? he
  have hok := hok hkey e he (hgenuine.type_eq e hmem)
  have hcursor : ∀ c, View.Shows projection.modify evs c (projection.view s.projection key) →
      s.projection.getCursor key = c := fun c hshows => hshows.cursor
  unfold Tracks at h ⊢
  dsimp only at h ⊢
  rw [if_pos rfl]
  cases hphase : s.phase with
  | notStarted =>
    rw [hphase] at h
    have := hgenuine.shows_apply hmem h (by omega) fresh
    rw [if_pos (by omega)] at this
    exact this
  | loaded allEvents =>
    rw [hphase] at h hok
    rcases h with ⟨n, hn, hperm, hdelivered, hshows⟩
    have hcount : countOf key allEvents = n := by
      unfold countOf
      rw [hperm.length_eq, List.length_take, Nat.min_eq_left hn]
    refine ⟨n, hn, hperm, by omega, ?_⟩
    have := hgenuine.shows_apply hmem hshows (by omega) fresh
    rw [if_pos (by omega)] at this
    exact this
  | replaying allEvents remaining =>
    rw [hphase] at h hok
    rcases h with ⟨n, r, c, hcount, hn, hremaining, hr, hdelivered, hshows⟩
    dsimp only at hok
    rw [hcursor c hshows, hcount] at hok
    have hnext := hgenuine.shows_apply hmem hshows (by omega) fresh
    refine ⟨n, r, _, hcount, hn, hremaining, ?_, ?_, hnext⟩
    . split <;> omega
    . split <;> omega
  | complete =>
    rw [hphase] at h
    rcases h with ⟨c, hdelivered, hshows⟩
    have hnext := hgenuine.shows_apply hmem hshows (by omega) fresh
    refine ⟨_, ?_, hnext⟩
    split <;> omega
  | failed err => trivial

theorem Tracks.replay {s : System} {key : StreamKey} {evs : List InventoryEvent} {e : StoredEvent}
    {allEvents remaining : List StoredEvent} (h : Tracks s key evs)
    (hgenuine : Genuine key (s.store.loadStream key) evs)
    (hphase : s.phase = .replaying allEvents (e :: remaining)) (fresh : AggregateId)
    : Tracks
        { s with
          projection := (projection.applyEnvelope fresh s.projection e.toEnvelope).2
          phase := .replaying allEvents remaining }
        key evs := by
  unfold Tracks at h ⊢
  rw [hphase] at h
  rcases h with ⟨n, r, c, hcount, hn, hremaining, hr, hdelivered, hshows⟩
  by_cases hkey : e.key = key
  . rw [List.filter_cons_of_pos (by simpa using hkey)] at hremaining
    have hget : ((s.store.loadStream key).take n)[r]? = some e := by
      have := congrArg List.head? hremaining
      rw [List.head?_cons, List.head?_drop] at this
      exact this.symm
    have hdrop : remaining.filter (fun e => e.key = key)
        = ((s.store.loadStream key).take n).drop (r + 1) := by
      have := congrArg List.tail hremaining
      rw [List.tail_cons, List.tail_drop] at this
      exact this
    rw [List.getElem?_take] at hget
    split at hget
    . next hrn =>
      have hmem := List.mem_of_getElem? hget
      have hseq : e.sequenceNumber = 1 + r := hgenuine.wellFormed.numbered.getElem? hget
      have hnext := hgenuine.shows_apply hmem hshows (by omega) fresh
      refine ⟨n, r + 1, _, hcount, hn, hdrop, ?_, ?_, hnext⟩
      . split <;> omega
      . dsimp only
        split <;> omega
    . cases hget
  . rw [List.filter_cons_of_neg (by simpa using hkey)] at hremaining
    refine ⟨n, r, c, hcount, hn, hremaining, hr, hdelivered, ?_⟩
    have hne : key ≠ e.toEnvelope.key := fun heq => hkey heq.symm
    dsimp only
    rw [projection.view_applyEnvelope_ne fresh s.projection hne]
    exact hshows

omit [TextFormat Uuid] [TextFormat DateTime] in
theorem Tracks.finish {s : System} {key : StreamKey} {evs : List InventoryEvent}
    {allEvents : List StoredEvent} (h : Tracks s key evs)
    (hphase : s.phase = .replaying allEvents [])
    : Tracks { s with phase := .complete } key evs := by
  unfold Tracks at h ⊢
  rw [hphase] at h
  rcases h with ⟨n, r, c, hcount, hn, hremaining, hr, hdelivered, hshows⟩
  refine ⟨c, ?_, hshows⟩
  have hlength := congrArg List.length hremaining
  rw [List.filter_nil, List.length_nil, List.length_drop, List.length_take, Nat.min_eq_left hn]
    at hlength
  dsimp only
  omega

theorem Tracks.clear {tenantId : TenantId} {s : System} {key : StreamKey}
    {evs : List InventoryEvent}
    {allEvents : List StoredEvent} (h : Tracks s key evs)
    (hgenuine : Genuine key (s.store.loadStream key) evs) (hkey : key.tenantId = tenantId)
    (hphase : s.phase = .loaded allEvents)
    : Tracks
        { s with
          projection := s.projection.clearTenant tenantId
          phase := .replaying (sortEvents allEvents) (sortEvents allEvents) }
        key evs := by
  unfold Tracks at h ⊢
  rw [hphase] at h
  rcases h with ⟨n, hn, hperm, hdelivered, hshows⟩
  have hsorted := sortEvents_stream (hgenuine.wellFormed.take n) hperm
  refine ⟨n, 0, 0, ?_, hn, ?_, Nat.le_refl 0, ?_, ?_⟩
  . unfold countOf
    rw [hsorted, List.length_take, Nat.min_eq_left hn]
  . rw [hsorted]
    rfl
  . dsimp only
    omega
  . dsimp only
    rw [projection.view_clearTenant, if_pos hkey]
    apply View.Shows.empty

theorem Tracks.load {s : System} {key : StreamKey} {evs : List InventoryEvent}
    {allEvents : List StoredEvent} (h : Tracks s key evs) (hphase : s.phase = .notStarted)
    (hgenuine : Genuine key (s.store.loadStream key) evs)
    (hperm : (allEvents.filter (fun e => e.key = key)).Perm (s.store.loadStream key))
    : Tracks { s with phase := .loaded allEvents } key evs := by
  unfold Tracks at h ⊢
  rw [hphase] at h
  refine ⟨(s.store.loadStream key).length, Nat.le_refl _, ?_, ?_, h⟩
  . rw [List.take_length]
    exact hperm
  . dsimp only
    rw [hgenuine.typed.length_eq]
    exact h.bound

theorem Inv.dispatch {tenantId : TenantId} {s : System} (h : Inv tenantId s) {key : StreamKey}
    {command : InventoryCommand} (hown : CreatesOwn key command) (freshId : Nat → Uuid)
    : Inv tenantId { s with store := (CommandDispatcher.dispatch InMemoryEventBus.toEventBus s.store
        ⟨[]⟩ (inventoryRequest key command) freshId).2.1 } := by
  rcases grows_dispatch h.wellFormed hown freshId with ⟨committed, hgrows⟩
  refine ⟨hgrows.wellFormed, ?_⟩
  intro key' hkey'
  dsimp only
  by_cases hsame : key' = key
  . subst hsame
    rcases h.streams key' hkey' with hforeign | ⟨evs, hgenuine, htracks⟩
    . left
      rw [hgrows.own, hgrows.foreign hforeign.1 hforeign.2, List.append_nil]
      exact hforeign
    . right
      rcases hgrows.genuine evs hgenuine with ⟨decided, hgenuine'⟩
      refine ⟨evs ++ decided, ?_, htracks.grow hgrows.own decided⟩
      rw [hgrows.own]
      exact hgenuine'
  . rw [hgrows.others key' hsame]
    rcases h.streams key' hkey' with hforeign | ⟨evs, hgenuine, htracks⟩
    . exact .inl hforeign
    . right
      refine ⟨evs, hgenuine, htracks.frame rfl ?_ rfl rfl⟩
      apply hgrows.others key' hsame

theorem Inv.mono {tenantId : TenantId} {s s' : System} (h : Inv tenantId s)
    (hstore : s'.store = s.store)
    (htracks : ∀ key evs, key.tenantId = tenantId → Genuine key (s.store.loadStream key) evs →
      Tracks s key evs → Tracks s' key evs)
    : Inv tenantId s' := by
  refine ⟨by rw [hstore]; exact h.wellFormed, ?_⟩
  intro key hkey
  rw [hstore]
  rcases h.streams key hkey with hforeign | ⟨evs, hgenuine, htracks'⟩
  . exact .inl hforeign
  . exact .inr ⟨evs, hgenuine, htracks key evs hkey hgenuine htracks'⟩

theorem inv_step {tenantId : TenantId} {s s' : System} {action : Action} (h : Inv tenantId s)
    (hok : Timely tenantId s action) (hstep : step tenantId false s action = some s')
    : Inv tenantId s' := by
  cases steps_of_step hstep with
  | dispatch => exact h.dispatch hok _
  | @deliver key fresh e he =>
    refine h.mono rfl ?_
    intro key' evs hkey' hgenuine htracks
    by_cases hsame : key' = key
    . subst hsame
      apply htracks.deliver hgenuine hkey' he hok
    . apply htracks.frame
      . rfl
      . rfl
      . apply if_neg hsame
      . apply projection.view_applyEnvelope_ne
        intro heq
        apply hsame
        rw [heq]
        apply (h.wellFormed key).key_eq e (List.mem_of_getElem? he)
  | load hphase hload =>
    rcases hok with ⟨keys, hkeys, hquery, hpageable⟩
    rcases hpageable.loadsAll (tenantEvents_nodup h.wellFormed hkeys.nodup tenantId)
        tenantId _ _ hquery
      with ⟨fuel', events, hevents, hperm⟩
    cases loadEvents_unique hload hevents
    refine h.mono rfl ?_
    intro key evs hkey hgenuine htracks
    apply htracks.load hphase hgenuine
    rw [← hkey] at hperm
    apply load_stream_perm h.wellFormed hkeys hperm hgenuine.type_eq
  | clear hphase =>
    refine h.mono rfl ?_
    intro key evs hkey hgenuine htracks
    apply htracks.clear hgenuine hkey hphase
  | replay hphase =>
    refine h.mono rfl ?_
    intro key evs _ hgenuine htracks
    apply htracks.replay hgenuine hphase _
  | finish hphase =>
    refine h.mono rfl ?_
    intro key evs _ _ htracks
    apply htracks.finish hphase
  | fail =>
    refine h.mono rfl ?_
    intros
    trivial

theorem inv_of_reachable {tenantId : TenantId} {s : System}
    (h : (replaying tenantId).ReachableUnder (Timely tenantId) s) : Inv tenantId s := by
  apply Machine.ReachableUnder.invariant _ _ s h
  . intro s hstart
    refine ⟨hstart.wellFormed, ?_⟩
    intro key hkey
    rcases hstart.streams key hkey with hforeign | ⟨evs, hgenuine, hshows⟩
    . exact .inl hforeign
    . right
      refine ⟨evs, hgenuine, ?_⟩
      unfold Tracks
      rw [hstart.phase]
      exact hshows
  . intro s action s' hinv hok hstep
    apply inv_step hinv hok hstep

def ShowsAll (s : System) (key : StreamKey) : Prop :=
  ∃ evs : List InventoryEvent, StreamOf (s.store.loadStream key) evs
    ∧ s.projection.getCursor key = evs.length
    ∧ ∀ vacant, s.projection.store.get key.tenantId ⟨key.aggregateId⟩
        = View.project projection.modify vacant evs

theorem replay_beside_live (tenantId : TenantId) (s : System)
    (h : (replaying tenantId).ReachableUnder (Timely tenantId) s) (hcomplete : s.phase = .complete)
    (hdelivered : ∀ key, key.tenantId = tenantId →
      s.delivered key = (s.store.loadStream key).length)
    : ∀ key, key.tenantId = tenantId →
        (∀ e ∈ s.store.loadStream key, e.aggregateType = "inventory.item") → ShowsAll s key := by
  intro key hkey htype
  rcases (inv_of_reachable h).streams key hkey with hforeign | ⟨evs, hgenuine, htracks⟩
  . exfalso
    rcases List.exists_mem_of_ne_nil _ hforeign.1 with ⟨e, he⟩
    apply hforeign.2 e he (htype e he)
  . unfold Tracks at htracks
    rw [hcomplete] at htracks
    rcases htracks with ⟨c, hc, hshows⟩
    have hbound := hshows.bound
    have hlength := hgenuine.typed.length_eq
    rw [hdelivered key hkey] at hc
    have hall : c = evs.length := by omega
    subst hall
    exact ⟨evs, hgenuine.typed, hshows.cursor, hshows.row_eq⟩

end Replay
namespace Bolt

open Concrete Replay

open InventoryStockProjection (Genuine CreatesOwn projection)

def quiet : Replay.System where
  store := ⟨KeyMap.empty.insert key [stored 1 created]⟩
  delivered k := if k = key then 1 else 0
  projection := (projection.applyEnvelope ⟨⟨0⟩⟩ InventoryStockProjection.new
    (stored 1 created).toEnvelope).2
  phase := .notStarted

theorem loadStream_quiet (k : StreamKey)
    : quiet.store.loadStream k = if k = key then [stored 1 created] else [] := by
  unfold quiet
  rw [InMemoryEventStore.loadStream_insert]
  rfl

theorem genuine_created : Genuine key [stored 1 created] [created] := by
  have hproduced : InventoryItem.aggregate.Produced (CreatesOwn key)
      (InventoryItem.empty ⟨key.aggregateId⟩) ([] ++ [created]) :=
    .step (.createItem create : InventoryCommand) .nil ⟨rfl, rfl⟩ rfl
  refine ⟨stream_wellFormed.take 1, stream_typed.take 1, ?_, hproduced⟩
  simp [stored]

theorem genuine_nil (k : StreamKey) : Genuine k [] [] := by
  refine ⟨⟨.nil, by simp, by simp⟩, .nil, by simp, .nil⟩

theorem starts_quiet : Replay.Starts tenantId quiet := by
  refine ⟨rfl, ?_, ?_⟩
  . intro k
    rw [loadStream_quiet]
    split
    . next hk =>
      rw [hk]
      exact genuine_created.wellFormed
    . exact (genuine_nil k).wellFormed
  . intro k _
    right
    rw [loadStream_quiet]
    have hempty := View.Shows.empty projection.modify
    split
    . next hk =>
      subst hk
      refine ⟨[created], genuine_created, ?_⟩
      have hmem : stored 1 created ∈ [stored 1 created] := List.mem_singleton_self _
      have hview : View.Shows projection.modify [created] 0
          (projection.view InventoryStockProjection.new key) := hempty [created]
      exact genuine_created.shows_apply hmem hview (.inl (Nat.le_refl 1)) ⟨⟨0⟩⟩
    . next hk =>
      refine ⟨[], genuine_nil k, ?_⟩
      have hdelivered : quiet.delivered k = 0 := if_neg hk
      have hview : projection.view quiet.projection k = ⟨0, none⟩ := by
        apply projection.view_applyEnvelope_ne
        exact hk
      rw [hdelivered, hview]
      apply hempty

def query : QueryEvents :=
  fun _ tenantId filter pagination =>
    (quiet.store.queryEvents true [key] tenantId filter pagination).map .ok

theorem enumerates_quiet : quiet.store.streams.Enumerates [key] := by
  refine ⟨List.nodup_singleton _, ?_⟩
  intro k
  rw [List.mem_singleton]
  change _ ↔ ((KeyMap.empty.insert key [stored 1 created]).get k).isSome
  rw [KeyMap.get_insert]
  split
  . next hk => simp [hk]
  . next hk => simp [hk]

theorem pageQuery_quiet
    : PageQuery true tenantId (quiet.store.tenantEvents [key] tenantId) query := by
  apply pageQuery_inMemory enumerates_quiet
  intro _
  exact enumerates_quiet

def adjustment : Replay.Action :=
  .dispatch key (.adjustStock (adjust 5)) (fun _ => ⟨9⟩)

-- The adjustment is delivered after the load and before the clear.
def early : List Replay.Action := [
  .load true query 1,
  adjustment,
  .deliver key ⟨⟨0⟩⟩,
  .clear ⟨0⟩ ⟨⟨0⟩⟩ (fun _ => ⟨⟨0⟩⟩),
  .replay ⟨⟨0⟩⟩,
  .replay ⟨⟨0⟩⟩]

def adjustedStore : InMemoryEventStore :=
  (CommandDispatcher.dispatch InMemoryEventBus.toEventBus quiet.store ⟨[]⟩
    (inventoryRequest key (.adjustStock (adjust 5))) (fun _ => ⟨9⟩)).2.1

theorem loadStream_adjustedStore
    : adjustedStore.loadStream key
        = [stored 1 created, { stored 2 (adjusted 5) with eventId := ⟨9⟩ }] := by
  rfl

theorem loadStream_adjustedStore_ne {k : StreamKey} (h : k ≠ key)
    : adjustedStore.loadStream k = [] := by
  have hown : CreatesOwn key (.adjustStock (adjust 5)) := trivial
  rcases grows_dispatch starts_quiet.wellFormed hown (fun _ => ⟨9⟩) with ⟨committed, hgrows⟩
  have hothers := hgrows.others k h
  rw [loadStream_quiet, if_neg h] at hothers
  exact hothers

theorem run_early
    : ∃ s, (replaying tenantId).run quiet early = some s
      ∧ s.phase = .complete
      ∧ s.store = adjustedStore
      ∧ s.delivered = (fun k => if k = key then 2 else quiet.delivered k)
      ∧ s.projection.store.get tenantId itemId = some ⟨itemId, "Bolt", 0⟩ := by
  exact ⟨_, rfl, rfl, rfl, rfl, rfl⟩

theorem early_event_lost
    : Replay.Starts tenantId quiet
      ∧ PageQuery true tenantId (quiet.store.tenantEvents [key] tenantId) query
      ∧ ∃ s, (replaying tenantId).run quiet early = some s
        ∧ s.phase = .complete
        ∧ (∀ k, k.tenantId = tenantId → s.delivered k = (s.store.loadStream k).length)
        ∧ (∀ e ∈ s.store.loadStream key, e.aggregateType = "inventory.item")
        ∧ ∀ evs vacant, StreamOf (s.store.loadStream key) evs →
            s.projection.store.get tenantId itemId ≠ View.project projection.modify vacant evs := by
  refine ⟨starts_quiet, pageQuery_quiet, ?_⟩
  rcases run_early with ⟨s, hrun, hphase, hstore, hdelivered, hrow⟩
  refine ⟨s, hrun, hphase, ?_, ?_, ?_⟩
  . intro k _
    rw [hdelivered, hstore]
    dsimp only
    split
    . next hk =>
      rw [hk, loadStream_adjustedStore]
      rfl
    . next hk =>
      rw [loadStream_adjustedStore_ne hk]
      apply if_neg hk
  . rw [hstore, loadStream_adjustedStore]
    simp [stored]
  . intro evs vacant htyped heq
    rw [hstore, loadStream_adjustedStore] at htyped
    have hexpected : StreamOf [stored 1 created, { stored 2 (adjusted 5) with eventId := ⟨9⟩ }]
        [created, adjusted 5] := .cons ⟨rfl, rfl, rfl, rfl⟩ (.cons ⟨rfl, rfl, rfl, rfl⟩ .nil)
    cases htyped.unique hexpected
    rw [hrow] at heq
    have hquantity : some (0 : Int64) = some 5 :=
      congrArg (Option.map InventoryReadModel.quantity) heq
    exact absurd hquantity (by decide)

theorem pageable_quiet : Pageable ["inventory.item"] (quiet.store.tenantEvents [key] tenantId) := by
  have hlength : (quiet.store.tenantEvents [key] tenantId).length = 1 := rfl
  refine ⟨by omega, ?_⟩
  intro e _ _ i hcut
  have hupper : Paging.upper StoredEvent.QueryOrder (quiet.store.tenantEvents [key] tenantId) e
      ≤ _ := Paging.upper_le_length e
  omega

-- The adjustment is stored between load and clear and delivered between two replayed events.
def timely : List Replay.Action := [
  .load true query 1,
  adjustment,
  .clear ⟨0⟩ ⟨⟨0⟩⟩ (fun _ => ⟨⟨0⟩⟩),
  .replay ⟨⟨0⟩⟩,
  .deliver key ⟨⟨0⟩⟩,
  .replay ⟨⟨0⟩⟩]

theorem replay_beside_live_timely
    : ∃ s, (replaying tenantId).run quiet timely = some s
        ∧ s.projection.store.get tenantId itemId = some ⟨itemId, "Bolt", 5⟩
        ∧ ShowsAll s key := by
  have hloadOk : Timely tenantId quiet (.load true query 1) :=
    ⟨[key], enumerates_quiet, pageQuery_quiet, pageable_quiet⟩
  have hadjustOk : ∀ s, Timely tenantId s adjustment := fun _ => trivial
  have hclearOk : ∀ s, Timely tenantId s (.clear ⟨0⟩ ⟨⟨0⟩⟩ (fun _ => ⟨⟨0⟩⟩)) := fun _ => trivial
  have hreplayOk : ∀ s, Timely tenantId s (.replay ⟨⟨0⟩⟩) := fun _ => trivial
  have hstart : (replaying tenantId).ReachableUnder (Timely tenantId) quiet := .init starts_quiet
  have hload := hstart.step hloadOk rfl
  have hadjust := hload.step (hadjustOk _) rfl
  have hclear := hadjust.step (hclearOk _) rfl
  have hreplay := hclear.step (hreplayOk _) rfl
  have hdeliver := hreplay.step (a := .deliver key ⟨⟨0⟩⟩) ?_ rfl
  have hfinish := hdeliver.step (hreplayOk _) rfl
  refine ⟨_, rfl, rfl, replay_beside_live tenantId _ hfinish rfl ?_ key rfl ?_⟩
  . intro k _
    change (if k = key then 2 else quiet.delivered k) = (adjustedStore.loadStream k).length
    split
    . next hk =>
      rw [hk, loadStream_adjustedStore]
      rfl
    . next hk =>
      rw [loadStream_adjustedStore_ne hk]
      exact if_neg hk
  . intro e he
    change e ∈ adjustedStore.loadStream key at he
    rw [loadStream_adjustedStore] at he
    simp only [List.mem_cons, List.not_mem_nil, or_false] at he
    rcases he with rfl | rfl
    . rfl
    . rfl
  -- number 2 is what the view is waiting for
  . intro _ e he _
    cases he
    exact .inl (by decide)

end Bolt

end ForgeErp
