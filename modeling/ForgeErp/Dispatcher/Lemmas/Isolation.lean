import ForgeErp.Core.Text
import ForgeErp.Dispatcher.Lemmas.Decide
import ForgeErp.Dispatcher.WriteSide
import ForgeErp.Domain.Inventory
import ForgeErp.EventStore.Lemmas.Isolation

/-!
This module contains tenant isolation of the write side: what the other tenants do, with whatever
aggregate and event identifiers, does not show in the replies to one tenant.
-/

namespace ForgeErp

open InMemoryEventStore (SameFor)

/--
How a bus answers the messages of a tenant depends on the earlier messages of that tenant only: it
cannot tell states apart that are `same`.
-/
structure EventBus.Blind {B : Type} (eventBus : EventBus B (EventEnvelope JsonValue))
    (tenantId : TenantId) (same : B → B → Prop) : Prop where
  own : ∀ {bus bus' m}, same bus bus' → m.tenantId = tenantId →
    (eventBus.publish bus m).1 = (eventBus.publish bus' m).1
    ∧ same (eventBus.publish bus m).2 (eventBus.publish bus' m).2
  left : ∀ {bus bus' m}, same bus bus' → m.tenantId ≠ tenantId →
    same (eventBus.publish bus m).2 bus'
  right : ∀ {bus bus' m}, same bus bus' → m.tenantId ≠ tenantId →
    same bus (eventBus.publish bus' m).2

theorem EventBus.Blind.swap {B : Type} {eventBus : EventBus B (EventEnvelope JsonValue)}
    {tenantId : TenantId} {same : B → B → Prop} (h : eventBus.Blind tenantId same)
    : eventBus.Blind tenantId (fun bus bus' => same bus' bus) := by
  constructor
  . intro bus bus' m hsame hm
    rcases h.own hsame hm with ⟨hresult, hnext⟩
    exact ⟨hresult.symm, hnext⟩
  . intro bus bus' m hsame hm
    exact h.right hsame hm
  . intro bus bus' m hsame hm
    exact h.left hsame hm

-- It never fails, so there is nothing to tell apart.
theorem InMemoryEventBus.blind (tenantId : TenantId)
    : (InMemoryEventBus.toEventBus (M := EventEnvelope JsonValue)).Blind tenantId
        (fun _ _ => True) := by
  constructor
  . intros
    exact ⟨rfl, trivial⟩
  . intros
    trivial
  . intros
    trivial

namespace CommandDispatcher

variable {B : Type} {eventBus : EventBus B (EventEnvelope JsonValue)} {tenantId : TenantId}
  {same : B → B → Prop}

theorem publishAll_own (hblind : eventBus.Blind tenantId same) {bus bus' : B} (h : same bus bus')
    {committed : List StoredEvent} (hown : ∀ e ∈ committed, e.tenantId = tenantId)
    : (publishAll eventBus bus committed).1 = (publishAll eventBus bus' committed).1
      ∧ same (publishAll eventBus bus committed).2 (publishAll eventBus bus' committed).2 := by
  induction committed generalizing bus bus' with
  | nil => exact ⟨rfl, h⟩
  | cons e es ih =>
    rw [List.forall_mem_cons] at hown
    have hpublish := hblind.own h (m := e.toEnvelope) hown.1
    unfold publishAll
    generalize eventBus.publish bus e.toEnvelope = published at hpublish ⊢
    generalize eventBus.publish bus' e.toEnvelope = published' at hpublish ⊢
    rcases published with ⟨result, next⟩
    rcases published' with ⟨result', next'⟩
    rcases hpublish with ⟨hresult, hnext⟩
    dsimp only at hresult hnext
    subst hresult
    cases result with
    | error err => exact ⟨rfl, hnext⟩
    | ok => exact ih hnext hown.2

theorem publishAll_other (hblind : eventBus.Blind tenantId same) {bus bus' : B}
    (h : same bus bus') {committed : List StoredEvent}
    (hother : ∀ e ∈ committed, e.tenantId ≠ tenantId)
    : same (publishAll eventBus bus committed).2 bus' := by
  induction committed generalizing bus with
  | nil => exact h
  | cons e es ih =>
    rw [List.forall_mem_cons] at hother
    have hpublish := hblind.left h (m := e.toEnvelope) hother.1
    unfold publishAll
    split
    . next hresult =>
      rw [hresult] at hpublish
      exact hpublish
    . next hresult =>
      rw [hresult] at hpublish
      exact ih hpublish hother.2

variable {A : Aggregate} [Event A.Event] [Serde A.Event]

inductive Effects (eventBus : EventBus B (EventEnvelope JsonValue)) (store : InMemoryEventStore)
    (bus : B) (key : StreamKey) : InMemoryEventStore × B → Prop where
  | none : Effects eventBus store bus key (store, bus)
  | refused {us : List UncommittedEvent} (expected : ExpectedVersion) :
      (∀ u ∈ us, u.key = key) →
      Effects eventBus store bus key ((store.append us expected).2, bus)
  | stored {us : List UncommittedEvent} {expected : ExpectedVersion}
    {committed : List StoredEvent} :
      (∀ u ∈ us, u.key = key) →
      (store.append us expected).1 = .ok committed →
      Effects eventBus store bus key
        ((store.append us expected).2, (publishAll eventBus bus committed).2)

theorem dispatch_effects (eventBus : EventBus B (EventEnvelope JsonValue))
    (store : InMemoryEventStore) (bus : B) (request : Request A) (freshId : Nat → Uuid)
    : Effects eventBus store bus request.key (dispatch eventBus store bus request freshId).2 := by
  unfold dispatch
  split
  . exact .none
  . exact .none
  . next us expected hdecide =>
    have hkey : ∀ u ∈ us, u.key = request.key :=
      fun u hu => ((decideEvents_uniform hdecide).1 u hu).1
    split
    . next err store' happend =>
      have heffect : Effects eventBus store bus request.key ((store.append us expected).2, bus) :=
        .refused expected hkey
      rw [happend] at heffect
      exact heffect
    . next committed store' happend =>
      have heffect : Effects eventBus store bus request.key
          ((store.append us expected).2, (publishAll eventBus bus committed).2) :=
        .stored hkey (by rw [happend])
      rw [happend] at heffect
      split
      . next hpublish =>
        rw [hpublish] at heffect
        exact heffect
      . next hpublish =>
        rw [hpublish] at heffect
        exact heffect

theorem dispatch_other (hblind : eventBus.Blind tenantId same) (store : InMemoryEventStore)
    {bus bus' : B} (h : same bus bus') {request : Request A} (freshId : Nat → Uuid)
    (hother : request.key.tenantId ≠ tenantId)
    : SameFor tenantId store (dispatch eventBus store bus request freshId).2.1
      ∧ same (dispatch eventBus store bus request freshId).2.2 bus' := by
  have heffects := dispatch_effects eventBus store bus request freshId
  generalize (dispatch eventBus store bus request freshId).2 = after at heffects ⊢
  have hfirst : ∀ us : List UncommittedEvent, (∀ u ∈ us, u.key = request.key) →
      ∀ first, us.head? = some first → first.tenantId ≠ tenantId := by
    intro us hus first hhead
    rw [← hus first (List.mem_of_head? hhead)] at hother
    exact hother
  cases heffects with
  | none => exact ⟨fun _ _ => rfl, h⟩
  | refused expected hkey =>
    exact ⟨InMemoryEventStore.sameFor_append_other store expected (hfirst _ hkey), h⟩
  | @stored us expected committed hkey hcommitted =>
    refine ⟨InMemoryEventStore.sameFor_append_other store expected (hfirst _ hkey), ?_⟩
    apply publishAll_other hblind h
    intro e he
    have hmem : e ∈ InMemoryEventStore.committedBy (store.append us expected).1 := by
      rw [hcommitted]
      exact he
    rcases InMemoryEventStore.mem_committedBy hmem with ⟨first, hhead, hekey⟩
    have htenant : e.tenantId = first.tenantId := congrArg StreamKey.tenantId hekey
    rw [htenant]
    exact hfirst us hkey first hhead

theorem dispatch_own (hblind : eventBus.Blind tenantId same) {store store' : InMemoryEventStore}
    (hstore : SameFor tenantId store store') {bus bus' : B} (h : same bus bus')
    {request : Request A} (freshId : Nat → Uuid) (hown : request.key.tenantId = tenantId)
    : (dispatch eventBus store bus request freshId).1
          = (dispatch eventBus store' bus' request freshId).1
      ∧ SameFor tenantId (dispatch eventBus store bus request freshId).2.1
          (dispatch eventBus store' bus' request freshId).2.1
      ∧ same (dispatch eventBus store bus request freshId).2.2
          (dispatch eventBus store' bus' request freshId).2.2 := by
  unfold dispatch
  rw [hstore request.key hown]
  split
  . exact ⟨rfl, hstore, h⟩
  . exact ⟨rfl, hstore, h⟩
  . next us expected hdecide =>
    have hfirst : ∀ first, us.head? = some first → first.tenantId = tenantId := by
      intro first hhead
      have hkey := ((decideEvents_uniform hdecide).1 first (List.mem_of_head? hhead)).1
      rw [← hown, ← hkey]
      rfl
    have hcommitted := @InMemoryEventStore.mem_committedBy store us expected
    rcases hstore.append expected hfirst with ⟨hresult, hnext⟩
    generalize store.append us expected = appended at hcommitted hresult hnext ⊢
    generalize store'.append us expected = appended' at hresult hnext ⊢
    rcases appended with ⟨result, store₁⟩
    rcases appended' with ⟨result', store₁'⟩
    dsimp only at hresult hnext
    subst hresult
    cases result with
    | error err => exact ⟨rfl, hnext, h⟩
    | ok committed =>
      have htenant : ∀ e ∈ committed, e.tenantId = tenantId := by
        intro e he
        rcases hcommitted he with ⟨first, hhead, hekey⟩
        rw [← hfirst first hhead]
        exact congrArg StreamKey.tenantId hekey
      rcases publishAll_own hblind h htenant with ⟨hpublished, hbus⟩
      dsimp only
      generalize publishAll eventBus bus committed = published at hpublished hbus ⊢
      generalize publishAll eventBus bus' committed = published' at hpublished hbus ⊢
      rcases published with ⟨outcome, bus₁⟩
      rcases published' with ⟨outcome', bus₁'⟩
      dsimp only at hpublished hbus
      subst hpublished
      cases outcome with
      | error err => exact ⟨rfl, hnext, hbus⟩
      | ok => exact ⟨rfl, hnext, hbus⟩

end CommandDispatcher

namespace WriteSide

variable {ι : Type} {A : ι → Aggregate} [∀ i, Event (A i).Event] [∀ i, Serde (A i).Event]
variable {B : Type} {eventBus : EventBus B (EventEnvelope JsonValue)} {overflowChecks : Bool}
  {tenantId : TenantId} {same : B → B → Prop}

structure Same (tenantId : TenantId) (same : B → B → Prop) (s s' : State B) : Prop where
  store : SameFor tenantId s.store s'.store
  bus : same s.bus s'.bus

/--
The same reply; a query may order events differently that are tied. `fresh` says that the
identifiers of the tenant's events are unique, as those drawn for it are.
-/
def SameReply (fresh : Prop) (call : Call A) (served served' : Served) : Prop :=
  match call with
  | .queryEvents tenantId filter _ =>
    ∃ result result', served.reply = .queried result ∧ served'.reply = .queried result'
      ∧ Option.Rel (InMemoryEventStore.SameAnswer served.store tenantId filter) result result'
  | .getEventById _ _ => fresh → served.reply = served'.reply
  | _ => served.reply = served'.reply

theorem serve_dispatch (s : State B) (keys : List StreamKey) {i : ι}
    (request : CommandDispatcher.Request (A i)) (freshId : Nat → Uuid)
    : serve A eventBus overflowChecks s keys (.dispatch i request freshId)
        =
      (.dispatched (CommandDispatcher.dispatch eventBus s.store s.bus request freshId).1,
        ⟨(CommandDispatcher.dispatch eventBus s.store s.bus request freshId).2.1,
          (CommandDispatcher.dispatch eventBus s.store s.bus request freshId).2.2⟩) := rfl

theorem serve_append (s : State B) (keys : List StreamKey) (events : List UncommittedEvent)
    (expectedVersion : ExpectedVersion)
    : serve A eventBus overflowChecks s keys (.append events expectedVersion)
        =
      (.appended (s.store.append events expectedVersion).1,
        ⟨(s.store.append events expectedVersion).2, s.bus⟩) := rfl

theorem loadStream_subset_of_serves {s s' : State B} {call : Call A} {reply : Reply}
    (h : Serves A eventBus overflowChecks s call reply s') (key : StreamKey)
    : ∀ e ∈ s.store.loadStream key, e ∈ s'.store.loadStream key := by
  rcases h with ⟨keys, -, hserve⟩
  have hgrow : ∀ us expected, ∀ e ∈ s.store.loadStream key,
      e ∈ (s.store.append us expected).2.loadStream key := by
    intro us expected e he
    rw [InMemoryEventStore.append_loadStream, List.mem_append]
    exact Or.inl he
  cases call with
  | dispatch i request freshId =>
    have heffects := CommandDispatcher.dispatch_effects eventBus s.store s.bus request freshId
    rw [serve_dispatch] at hserve
    rw [← (Prod.mk.inj hserve).2]
    dsimp only
    generalize (CommandDispatcher.dispatch eventBus s.store s.bus request freshId).2 = after
      at heffects ⊢
    cases heffects with
    | none => exact fun _ he => he
    | refused expected _ => exact hgrow _ expected
    | stored _ _ => exact hgrow _ _
  | append events expectedVersion =>
    cases hserve
    exact hgrow events expectedVersion
  | loadStream key' =>
    cases hserve
    exact fun _ he => he
  | queryEvents t filter pagination =>
    cases hserve
    exact fun _ he => he
  | getAggregateEvents key' pagination =>
    cases hserve
    exact fun _ he => he
  | getEventById t eventId =>
    cases hserve
    exact fun _ he => he

theorem Same.swap {s t : State B} (h : Same tenantId same s t)
    : Same tenantId (fun bus bus' => same bus' bus) t s :=
  ⟨fun key hkey => (h.store key hkey).symm, h.bus⟩

theorem Same.serves_other (hblind : eventBus.Blind tenantId same) {s s' t : State B} {call : Call A}
    {reply : Reply} (h : Same tenantId same s t) (hother : call.tenant ≠ some tenantId)
    (hserves : Serves A eventBus overflowChecks s call reply s')
    : Same tenantId same s' t := by
  rcases hserves with ⟨keys, -, hserve⟩
  have hstore : ∀ {store : InMemoryEventStore}, SameFor tenantId s.store store →
      SameFor tenantId store t.store := by
    intro store hsame key hkey
    rw [← hsame key hkey, h.store key hkey]
  cases call with
  | dispatch i request freshId =>
    cases hserve
    have hkey : request.key.tenantId ≠ tenantId := fun heq => hother (congrArg some heq)
    rcases CommandDispatcher.dispatch_other hblind s.store h.bus freshId hkey with ⟨hsame, hbus⟩
    exact ⟨hstore hsame, hbus⟩
  | append events expectedVersion =>
    cases hserve
    have hfirst : ∀ first, events.head? = some first → first.tenantId ≠ tenantId := by
      intro first hhead heq
      apply hother
      simp [Call.tenant, hhead, heq]
    exact ⟨hstore (InMemoryEventStore.sameFor_append_other s.store expectedVersion hfirst), h.bus⟩
  | _ =>
    cases hserve
    exact h

theorem Same.serves_own (hblind : eventBus.Blind tenantId same) {fresh : Prop} {s s' t t' : State B}
    {call : Call A} {served served' : Served} (h : Same tenantId same s t)
    (hfresh : fresh → InMemoryEventStore.DistinctIds tenantId s.store)
    (hown : call.tenant = some tenantId)
    (hrecords : Records A eventBus overflowChecks s call served s')
    (hrecords' : Records A eventBus overflowChecks t call served' t')
    : SameReply fresh call served served' ∧ Same tenantId same s' t' := by
  rcases served with ⟨reply, store⟩
  rcases served' with ⟨reply', store'⟩
  rcases hrecords with ⟨⟨keys, hkeys, hserve⟩, rfl⟩
  rcases hrecords' with ⟨⟨keys', hkeys', hserve'⟩, rfl⟩
  dsimp only at hserve hserve'
  cases call with
  | dispatch i request freshId =>
    rcases CommandDispatcher.dispatch_own hblind h.store h.bus freshId (Option.some.inj hown) with
      ⟨hresult, hstore, hbus⟩
    rw [serve_dispatch] at hserve hserve'
    rcases Prod.mk.inj hserve with ⟨rfl, rfl⟩
    rcases Prod.mk.inj hserve' with ⟨rfl, rfl⟩
    exact ⟨congrArg Reply.dispatched hresult, hstore, hbus⟩
  | append events expectedVersion =>
    have hfirst : ∀ first, events.head? = some first → first.tenantId = tenantId := by
      intro first hhead
      simpa [Call.tenant, hhead] using hown
    rcases h.store.append expectedVersion hfirst with ⟨hresult, hstore⟩
    rw [serve_append] at hserve hserve'
    rcases Prod.mk.inj hserve with ⟨rfl, rfl⟩
    rcases Prod.mk.inj hserve' with ⟨rfl, rfl⟩
    exact ⟨congrArg Reply.appended hresult, hstore, h.bus⟩
  | loadStream key =>
    cases hserve
    cases hserve'
    exact ⟨congrArg Reply.loaded (h.store key (Option.some.inj hown)), h⟩
  | queryEvents t filter pagination =>
    cases hserve
    cases hserve'
    cases hown
    exact ⟨⟨_, _, rfl, rfl, h.store.queryEvents hkeys hkeys' overflowChecks filter pagination⟩, h⟩
  | getAggregateEvents key pagination =>
    cases hserve
    cases hserve'
    refine ⟨?_, h⟩
    dsimp only [SameReply, InMemoryEventStore.getAggregateEvents]
    rw [h.store key (Option.some.inj hown)]
  | getEventById t eventId =>
    cases hserve
    cases hserve'
    cases hown
    refine ⟨?_, h⟩
    intro hf
    exact congrArg Reply.found (h.store.getEventById (hfresh hf) hkeys hkeys' eventId)

theorem unwinding (hblind : eventBus.Blind tenantId same) (fresh : Prop)
    : Unwinding (Records A eventBus overflowChecks) (fun call => call.tenant = some tenantId)
        (fun s => fresh → InMemoryEventStore.DistinctIds tenantId s.store) (Same tenantId same)
        (SameReply fresh) := by
  constructor
  . intro s s' call served hrecords hdistinct hfresh key key' hkey hkey' e he e' he'
    apply hdistinct hfresh key key' hkey hkey'
    . exact loadStream_subset_of_serves hrecords.1 key e he
    . exact loadStream_subset_of_serves hrecords.1 key' e' he'
  . intro s s' t t' call served served' hsame hfresh hown hrecords hrecords'
    exact hsame.serves_own hblind hfresh hown hrecords hrecords'
  . intro s s' t call served hsame hother hrecords
    exact hsame.serves_other hblind hother hrecords.1
  . intro s t t' call served hsame hother hrecords
    exact (hsame.swap.serves_other hblind.swap hother hrecords.1).swap

theorem tenant_noninterference (hblind : eventBus.Blind tenantId same) (bus bus' : B)
    (hbus : same bus bus') (s s' : State B) (trace trace' : List (Call A × Served))
    (htrace : Trace (Records A eventBus overflowChecks) ⟨.new, bus⟩ trace s)
    (htrace' : Trace (Records A eventBus overflowChecks) ⟨.new, bus'⟩ trace' s')
    (hcalls : (trace.map Prod.fst).filter (fun call => call.tenant = some tenantId)
      = (trace'.map Prod.fst).filter (fun call => call.tenant = some tenantId))
    : List.Forall₂
        (fun x y => x.1 = y.1
          ∧ SameReply (InMemoryEventStore.DistinctIds tenantId s.store) x.1 x.2 y.2)
        (ownEntries (fun call : Call A => call.tenant = some tenantId) trace)
        (ownEntries (fun call : Call A => call.tenant = some tenantId) trace') := by
  apply (unwinding hblind _).replies _ _ htrace htrace' hcalls
  . exact ⟨fun _ _ => rfl, hbus⟩
  . exact id

end WriteSide

namespace Bolt

open Concrete WriteSide

def ownCall : Call (fun _ : Unit => InventoryItem.aggregate) :=
  .dispatch () {
      key := ⟨tenantId, itemId.aggregateId⟩
      aggregateType := "inventory.item"
      command := .createItem create
      makeAggregate := fun _ id => InventoryItem.empty ⟨id⟩
    } (fun _ => ⟨10⟩)

def ownQuery : Call (fun _ : Unit => InventoryItem.aggregate) :=
  .queryEvents tenantId .default .default

-- Another tenant uses the same aggregate and event identifiers.
def otherCall : Call (fun _ : Unit => InventoryItem.aggregate) :=
  .append [{
      eventId := ⟨10⟩
      tenantId := ⟨⟨9⟩⟩
      aggregateId := itemId.aggregateId
      aggregateType := "invoicing.invoice"
      eventType := "invoicing.invoice.voided"
      eventVersion := 1
      occurredAt := ⟨0⟩
      payload := .null
    }] .any

def Answers : State (InMemoryEventBus (EventEnvelope JsonValue)) →
    Call (fun _ : Unit => InventoryItem.aggregate) → Served →
    State (InMemoryEventBus (EventEnvelope JsonValue)) → Prop :=
  Records _ InMemoryEventBus.toEventBus true

theorem exists_trace (calls : List (Call (fun _ : Unit => InventoryItem.aggregate)))
    (s : State (InMemoryEventBus (EventEnvelope JsonValue)))
    : ∃ trace s', Trace Answers s trace s' ∧ trace.map Prod.fst = calls := by
  induction calls generalizing s with
  | nil => exact ⟨[], s, .nil s, rfl⟩
  | cons call calls ih =>
    rcases s.store.streams.exists_enumerates with ⟨keys, hkeys⟩
    rcases ih (serve _ InMemoryEventBus.toEventBus true s keys call).2 with
      ⟨trace, s', htrace, hcalls⟩
    refine ⟨(_, ⟨_, _⟩) :: trace, s', .cons ⟨⟨keys, hkeys, rfl⟩, rfl⟩ htrace, ?_⟩
    rw [List.map_cons, hcalls]

theorem tenant_noninterference_create
    : ∃ s s' trace trace',
        Trace Answers ⟨.new, ⟨[]⟩⟩ trace s
        ∧ Trace Answers ⟨.new, ⟨[]⟩⟩ trace' s'
        ∧ trace.map Prod.fst = [ownCall, ownQuery]
        ∧ trace'.map Prod.fst = [otherCall, ownCall, ownQuery]
        ∧ List.Forall₂
            (fun x y => x.1 = y.1
              ∧ SameReply (InMemoryEventStore.DistinctIds tenantId s.store) x.1 x.2 y.2)
            (ownEntries (fun call => call.tenant = some tenantId) trace)
            (ownEntries (fun call => call.tenant = some tenantId) trace') := by
  rcases exists_trace [ownCall, ownQuery] ⟨.new, ⟨[]⟩⟩ with ⟨trace, s, htrace, hcalls⟩
  rcases exists_trace [otherCall, ownCall, ownQuery] ⟨.new, ⟨[]⟩⟩
      with ⟨trace', s', htrace', hcalls'⟩
  refine ⟨s, s', trace, trace', htrace, htrace', hcalls, hcalls', ?_⟩
  apply tenant_noninterference (InMemoryEventBus.blind tenantId) ⟨[]⟩ ⟨[]⟩ trivial s s' trace trace'
    htrace htrace'
  rw [hcalls, hcalls']
  rfl

end Bolt

end ForgeErp
