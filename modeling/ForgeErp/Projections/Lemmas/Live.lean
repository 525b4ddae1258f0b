import ForgeErp.Dispatcher.Lemmas.Concurrent
import ForgeErp.Projections.Impl.Live
import ForgeErp.Projections.Lemmas.Genuine

/-!
This module contains the verification of the live path of the inventory projection. The subscriber
sees a stream in the order in which its events are published, and publishing is not part of the
append. As long as every event is published before the later ones of its stream, the stream splits
into a part that is in the row, a part that is in the channel and a part that is still to be
published.
-/

namespace ForgeErp
namespace Live

open InventoryStockProjection (CreatesOwn Genuine projection)

abbrev Phase :=
  CommandDispatcher.Phase (fun _ => InventoryItem.aggregate)

def pendingOf (phase : Phase) : List StoredEvent :=
  match phase with
  | .publishing _ rest => rest
  | _ => []

def IsPending (phases : Nat → Phase) (e : StoredEvent) : Prop :=
  ∃ i, e ∈ pendingOf (phases i)

/--
What a call publishes next is the first event of its stream that is still to be published.
-/
def PublishesFirst (phases : Nat → Phase) (i : Nat) : Prop :=
  ∀ e, (pendingOf (phases i)).head? = some e →
    ∀ e', IsPending phases e' → e'.key = e.key → e.sequenceNumber ≤ e'.sequenceNumber

def Orderly (s : System) (action : Action) : Prop :=
  match action with
  | .load _ key command => CreatesOwn key command
  | .publish i => PublishesFirst s.dispatcher.phases i
  | _ => True

theorem Orderly.publish {s : System} {i : Nat} (n : Nat)
    (hleast : ∀ j < n, ∀ e ∈ (pendingOf (s.dispatcher.phases i)).head?,
      ∀ e' ∈ pendingOf (s.dispatcher.phases j), e.sequenceNumber ≤ e'.sequenceNumber)
    (hidle : ∀ j, n ≤ j → pendingOf (s.dispatcher.phases j) = []) : Orderly s (.publish i) := by
  rintro e he e' ⟨j, hj⟩ _
  by_cases hlt : j < n
  . exact hleast j hlt e he e' hj
  . rw [hidle j (Nat.not_lt.mp hlt)] at hj
    cases hj

variable [TextFormat Uuid] [TextFormat DateTime]

/--
Of a stream the first `c` events are in the row and the following ones up to number `p` are in the
channel; the others have not been published.
-/
structure Tracks (key : StreamKey) (stream : List StoredEvent)
    (queue : List (EventEnvelope JsonValue))
    (view : View InventoryReadModel) (pending : StoredEvent → Prop) (evs : List InventoryEvent)
    (c p : Nat) : Prop where
  genuine : Genuine key stream evs
  shows : View.Shows projection.modify evs c view
  le : c ≤ p
  bound : p ≤ stream.length
  queued : queue.filter (fun env => env.key = key)
      =
    ((stream.take p).drop c).map StoredEvent.toEnvelope
  pending : ∀ e ∈ stream, p < e.sequenceNumber ↔ pending e

section Tracks

variable {key : StreamKey} {stream : List StoredEvent} {queue : List (EventEnvelope JsonValue)}
variable {view : View InventoryReadModel} {pending pending' : StoredEvent → Prop}
variable {evs : List InventoryEvent} {c p : Nat}

theorem Tracks.empty (key : StreamKey)
    : Tracks key [] [] (projection.view InventoryStockProjection.new key) pending [] 0 0 := by
  refine ⟨⟨⟨.nil, by simp, by simp⟩, .nil, by simp, .nil⟩, ?_, Nat.le_refl 0,
    Nat.le_refl 0, rfl, ?_⟩
  . apply View.Shows.empty
  . simp

theorem Tracks.congr (h : Tracks key stream queue view pending evs c p)
    (hpending : ∀ e ∈ stream, pending' e ↔ pending e)
    : Tracks key stream queue view pending' evs c p := by
  refine ⟨h.genuine, h.shows, h.le, h.bound, h.queued, ?_⟩
  intro e he
  rw [hpending e he]
  apply h.pending e he

theorem Tracks.enqueue_ne (h : Tracks key stream queue view pending evs c p)
    {env : EventEnvelope JsonValue} (hkey : env.key ≠ key)
    : Tracks key stream (queue ++ [env]) view pending evs c p := by
  refine ⟨h.genuine, h.shows, h.le, h.bound, ?_, h.pending⟩
  rw [List.filter_append, h.queued]
  simp [hkey]

theorem Tracks.sequenceNumber_eq (h : Tracks key stream queue view pending evs c p)
    {e : StoredEvent}
    (he : e ∈ stream) (hpending : pending e)
    (hfirst : ∀ e' ∈ stream, pending e' → e.sequenceNumber ≤ e'.sequenceNumber)
    : e.sequenceNumber = p + 1 := by
  have hnumbered := h.genuine.wellFormed.numbered
  have hbounds := hnumbered.mem_bounds he
  have hlt : p < e.sequenceNumber := (h.pending e he).mpr hpending
  have hp : p < stream.length := by omega
  have hnext := hnumbered.getElem? (List.getElem?_eq_getElem hp)
  have hmem : stream[p] ∈ stream := List.getElem_mem hp
  have hle := hfirst _ hmem ((h.pending _ hmem).mp (by omega))
  omega

theorem Tracks.enqueue (h : Tracks key stream queue view pending evs c p) {e : StoredEvent}
    (he : e ∈ stream) (hpending : pending e)
    (hfirst : ∀ e' ∈ stream, pending e' → e.sequenceNumber ≤ e'.sequenceNumber)
    (hpending' : ∀ e' ∈ stream, pending' e' ↔ pending e' ∧ e' ≠ e)
    : Tracks key stream (queue ++ [e.toEnvelope]) view pending' evs c (p + 1) := by
  have hseq := h.sequenceNumber_eq he hpending hfirst
  have hnumbered := h.genuine.wellFormed.numbered
  have hget : stream[p]? = some e := by
    have := hnumbered.getElem?_of_mem he
    rw [hseq, Nat.add_sub_cancel] at this
    exact this
  have hp : p < stream.length := by
    rw [List.getElem?_eq_some_iff] at hget
    exact hget.1
  have hle := h.le
  have hkey : e.toEnvelope.key = key := h.genuine.wellFormed.key_eq e he
  refine ⟨h.genuine, h.shows, by omega, by omega, ?_, ?_⟩
  . rw [List.filter_append, h.queued, List.take_add_one, hget, List.drop_append_of_le_length]
    . simp [hkey]
    . rw [List.length_take]
      omega
  . intro e' he'
    rw [hpending' e' he', ← h.pending e' he']
    constructor
    . intro hlt
      refine ⟨by omega, ?_⟩
      intro heq
      rw [heq] at hlt
      omega
    . rintro ⟨hlt, hne⟩
      have : e'.sequenceNumber ≠ e.sequenceNumber := fun heq => hne (hnumbered.eq_of_mem he' he heq)
      omega

theorem Tracks.grow (h : Tracks key stream queue view pending evs c p)
    {committed : List StoredEvent}
    {decided : List InventoryEvent} (hgenuine : Genuine key (stream ++ committed) (evs ++ decided))
    (hstream : ∀ e ∈ stream, pending' e ↔ pending e) (hcommitted : ∀ e ∈ committed, pending' e)
    : Tracks key (stream ++ committed) queue view pending' (evs ++ decided) c p := by
  have hbound := h.bound
  refine ⟨hgenuine, h.shows.append _ decided, h.le, ?_, ?_, ?_⟩
  . rw [List.length_append]
    omega
  . rw [List.take_append_of_le_length hbound]
    exact h.queued
  . intro e he
    rw [List.mem_append] at he
    cases he with
    | inl he =>
      rw [hstream e he]
      apply h.pending e he
    | inr he =>
      have hnumbered := hgenuine.wellFormed.numbered
      rw [NumberedFrom.append_iff] at hnumbered
      have hbounds := hnumbered.2.mem_bounds he
      constructor
      . intro _
        apply hcommitted e he
      . intro _
        omega

variable {st : Projection InventoryItemId InventoryReadModel} {env : EventEnvelope JsonValue}

theorem Tracks.dequeue_ne
    (h : Tracks key stream (env :: queue) (projection.view st key) pending evs c p)
    (hkey : env.key ≠ key) (fresh : AggregateId)
    : Tracks key stream queue (projection.view (projection.applyEnvelope fresh st env).2 key)
        pending
        evs c p := by
  rw [projection.view_applyEnvelope_ne fresh st hkey.symm]
  refine ⟨h.genuine, h.shows, h.le, h.bound, ?_, h.pending⟩
  rw [← h.queued, List.filter_cons_of_neg]
  simpa using hkey

theorem Tracks.dequeue
    (h : Tracks key stream (env :: queue) (projection.view st key) pending evs c p)
    (hkey : env.key = key) (fresh : AggregateId)
    : Tracks key stream queue (projection.view (projection.applyEnvelope fresh st env).2 key)
        pending
        evs (c + 1) p := by
  have hqueued := h.queued
  rw [List.filter_cons_of_pos (by simpa using hkey)] at hqueued
  have hc : c < p := by
    have hlength := congrArg List.length hqueued
    rw [List.length_cons, List.length_map, List.length_drop, List.length_take] at hlength
    omega
  have hbound := h.bound
  have hclt : c < stream.length := by omega
  rw [List.drop_eq_getElem_cons (by rw [List.length_take]; omega), List.map_cons, List.getElem_take]
    at hqueued
  rw [List.cons.injEq] at hqueued
  rcases hqueued with ⟨henv, hrest⟩
  have hmem : stream[c] ∈ stream := List.getElem_mem hclt
  have hseq := h.genuine.wellFormed.numbered.getElem? (List.getElem?_eq_getElem hclt)
  refine ⟨h.genuine, ?_, hc, hbound, hrest, h.pending⟩
  have hshows := h.genuine.shows_apply hmem h.shows (.inl (by omega)) fresh
  rw [if_pos (by omega)] at hshows
  rw [henv]
  exact hshows

theorem Tracks.cursor_eq (h : Tracks key stream [] view pending evs c p)
    (hpending : ∀ e, ¬ pending e) : c = evs.length := by
  have hbound := h.bound
  have hle := h.le
  have hp : p = stream.length := by
    by_contra hne
    have hp : p < stream.length := by omega
    have hseq := h.genuine.wellFormed.numbered.getElem? (List.getElem?_eq_getElem hp)
    apply hpending stream[p]
    apply (h.pending _ (List.getElem_mem hp)).mp
    omega
  have hlength := congrArg List.length h.queued
  rw [List.filter_nil, List.length_nil, List.length_map, List.length_drop, List.length_take]
    at hlength
  have := h.genuine.typed.length_eq
  omega

end Tracks

def IsOwn (call : CommandDispatcher.Call (fun _ => InventoryItem.aggregate)) : Prop :=
  ∃ key command, call = inventoryCall key command ∧ CreatesOwn key command

def OwnCall (phase : Phase) : Prop :=
  match phase with
  | .loaded call _ => IsOwn call
  | .decided call _ _ _ => IsOwn call
  | _ => True

structure Outstanding (phases : Nat → Phase) (store : InMemoryEventStore) : Prop where
  sorted : ∀ i, (pendingOf (phases i)).Pairwise (fun a b => a.sequenceNumber < b.sequenceNumber)
  stored : ∀ i, ∀ e ∈ pendingOf (phases i), e ∈ store.loadStream e.key
  apart : ∀ i j e, e ∈ pendingOf (phases i) → e ∈ pendingOf (phases j) → i = j

structure Inv (s : System) : Prop where
  dispatcher : CommandDispatcher.Inv s.dispatcher
  calls : ∀ i, OwnCall (s.dispatcher.phases i)
  outstanding : Outstanding s.dispatcher.phases s.dispatcher.store
  channel : ∃ queue, s.dispatcher.bus = ⟨[⟨queue, true⟩]⟩
    ∧ ∀ key, ∃ evs c p, Tracks key (s.dispatcher.store.loadStream key) queue
        (projection.view s.projection key) (IsPending s.dispatcher.phases) evs c p

omit [TextFormat Uuid] [TextFormat DateTime] in
theorem ownCall_setPhase {d : Dispatcher} {i : Nat} {phase : Phase} (h : ∀ j, OwnCall (d.phases j))
    (hphase : OwnCall phase) : ∀ j, OwnCall ((d.setPhase i phase).phases j) := by
  intro j
  unfold CommandDispatcher.System.setPhase
  dsimp only
  split
  . exact hphase
  . exact h j

omit [TextFormat Uuid] [TextFormat DateTime] in
theorem pendingOf_setPhase (d : Dispatcher) (i : Nat) (phase : Phase) (j : Nat)
    : pendingOf ((d.setPhase i phase).phases j)
        =
      if j = i then pendingOf phase else pendingOf (d.phases j) := by
  unfold CommandDispatcher.System.setPhase
  dsimp only
  split <;> rfl

-- Steps that neither grow a stream nor publish anything
theorem Inv.frame {s : System} (h : Inv s) {d : Dispatcher} (hinv : CommandDispatcher.Inv d)
    (hcalls : ∀ i, OwnCall (d.phases i))
    (hstreams : ∀ key, d.store.loadStream key = s.dispatcher.store.loadStream key)
    (hbus : d.bus = s.dispatcher.bus)
    (hpending : ∀ i, pendingOf (d.phases i) = pendingOf (s.dispatcher.phases i))
    : Inv { s with dispatcher := d } := by
  refine ⟨hinv, hcalls, ⟨?_, ?_, ?_⟩, ?_⟩
  . intro i
    dsimp only
    rw [hpending]
    apply h.outstanding.sorted i
  . intro i e he
    dsimp only at he ⊢
    rw [hpending] at he
    rw [hstreams]
    apply h.outstanding.stored i e he
  . intro i j e hi hj
    dsimp only at hi hj
    rw [hpending] at hi hj
    apply h.outstanding.apart i j e hi hj
  . rcases h.channel with ⟨queue, hqueue, htracks⟩
    refine ⟨queue, hbus.trans hqueue, ?_⟩
    intro key
    rcases htracks key with ⟨evs, c, p, htracks⟩
    refine ⟨evs, c, p, ?_⟩
    dsimp only
    rw [hstreams]
    apply htracks.congr
    intro e _
    unfold IsPending
    simp only [hpending]

theorem Inv.setPhase {s : System} (h : Inv s) {i : Nat} {phase : Phase}
    (hinv : CommandDispatcher.Inv (s.dispatcher.setPhase i phase)) (hcall : OwnCall phase)
    (hpending : pendingOf phase = pendingOf (s.dispatcher.phases i))
    : Inv { s with dispatcher := s.dispatcher.setPhase i phase } := by
  apply h.frame hinv (ownCall_setPhase h.calls hcall) (fun _ => rfl) rfl
  intro j
  rw [pendingOf_setPhase]
  split
  . next heq => rw [heq, hpending]
  . rfl

omit [TextFormat Uuid] [TextFormat DateTime] in
theorem Outstanding.publish {phases phases' : Nat → Phase} {store : InMemoryEventStore} {i : Nat}
    {stored : StoredEvent} {rest : List StoredEvent} (h : Outstanding phases store)
    (hbefore : pendingOf (phases i) = stored :: rest)
    (hafter : ∀ j, pendingOf (phases' j) = if j = i then rest else pendingOf (phases j))
    : Outstanding phases' store
      ∧ ∀ e, IsPending phases' e ↔ IsPending phases e ∧ e ≠ stored := by
  have hsorted := h.sorted i
  rw [hbefore, List.pairwise_cons] at hsorted
  have hsub : ∀ j, ∀ e ∈ pendingOf (phases' j), e ∈ pendingOf (phases j) := by
    intro j e he
    rw [hafter] at he
    split at he
    . next heq =>
      rw [heq, hbefore]
      apply List.mem_cons_of_mem _ he
    . exact he
  refine ⟨⟨?_, ?_, ?_⟩, ?_⟩
  . intro j
    rw [hafter]
    split
    . exact hsorted.2
    . exact h.sorted j
  . intro j e he
    apply h.stored j e (hsub j e he)
  . intro j j' e hj hj'
    apply h.apart j j' e (hsub j e hj) (hsub j' e hj')
  . intro e
    constructor
    . rintro ⟨j, hj⟩
      refine ⟨⟨j, hsub j e hj⟩, ?_⟩
      intro heq
      rw [hafter] at hj
      split at hj
      . have := hsorted.1 e hj
        rw [heq] at this
        omega
      . next hne =>
        apply hne
        apply h.apart j i e hj
        simp [hbefore, heq]
    . rintro ⟨⟨j, hj⟩, hne⟩
      refine ⟨j, ?_⟩
      rw [hafter]
      split
      . next heq =>
        rw [heq, hbefore, List.mem_cons] at hj
        apply hj.resolve_left hne
      . exact hj

theorem Inv.publish {s : System} (h : Inv s) {i : Nat} {committed rest : List StoredEvent}
    {stored : StoredEvent} {bus : InMemoryEventBus (EventEnvelope JsonValue)}
    (hphase : s.dispatcher.phases i = .publishing committed (stored :: rest))
    (hpublish : s.dispatcher.bus.publish stored.toEnvelope = (.ok (), bus))
    (hfirst : PublishesFirst s.dispatcher.phases i)
    (hinv : CommandDispatcher.Inv
      ({ s.dispatcher with bus }.setPhase i (.publishing committed rest)))
    : Inv { s with
        dispatcher := { s.dispatcher with bus }.setPhase i (.publishing committed rest) } := by
  have hbefore : pendingOf (s.dispatcher.phases i) = stored :: rest := by
    rw [hphase]
    rfl
  rcases h.outstanding.publish hbefore
    (pendingOf_setPhase { s.dispatcher with bus } i (.publishing committed rest))
    with ⟨houtstanding, hpending⟩
  refine ⟨hinv, ownCall_setPhase h.calls trivial, houtstanding, ?_⟩
  rcases h.channel with ⟨queue, hqueue, htracks⟩
  rw [hqueue] at hpublish
  cases hpublish
  refine ⟨queue ++ [stored.toEnvelope], rfl, ?_⟩
  intro key
  rcases htracks key with ⟨evs, c, p, htracks⟩
  have hkeys := htracks.genuine.wellFormed.key_eq
  by_cases hkey : stored.toEnvelope.key = key
  . refine ⟨evs, c, p + 1, htracks.enqueue ?_ ⟨i, ?_⟩ ?_ ?_⟩
    . rw [← hkey]
      apply h.outstanding.stored i stored
      simp [hbefore]
    . simp [hbefore]
    . intro e he hpending
      apply hfirst stored (by simp [hbefore]) e hpending
      rw [hkeys e he]
      exact hkey.symm
    . intro e _
      apply hpending e
  . refine ⟨evs, c, p, (htracks.enqueue_ne hkey).congr ?_⟩
    intro e he
    have hne : e ≠ stored := by
      intro heq
      apply hkey
      rw [← hkeys e he, heq]
      rfl
    rw [hpending]
    simp [hne]

theorem Outstanding.append {phases phases' : Nat → Phase} {store store' : InMemoryEventStore}
    {i : Nat} {call : CommandDispatcher.Call (fun _ => InventoryItem.aggregate)}
    {uncommitted : List UncommittedEvent} {expected : ExpectedVersion}
    {committed : List StoredEvent}
    {evs decided : List InventoryEvent} (h : Outstanding phases store) (hwf : store.WellFormed)
    (happended : CommandDispatcher.Appended store store' call uncommitted expected
      committed evs decided)
    (hbefore : pendingOf (phases i) = [])
    (hafter : ∀ j, pendingOf (phases' j) = if j = i then committed else pendingOf (phases j))
    : Outstanding phases' store'
      ∧ ∀ e, IsPending phases' e ↔ IsPending phases e ∨ e ∈ committed := by
  have hnew : ∀ j, ∀ e ∈ pendingOf (phases j), e ∉ committed := by
    intro j e he
    apply happended.not_mem hwf (h.stored j e he)
  refine ⟨⟨?_, ?_, ?_⟩, ?_⟩
  . intro j
    rw [hafter]
    split
    . exact happended.numbered.pairwise_lt
    . exact h.sorted j
  . intro j e he
    rw [hafter] at he
    rw [happended.load]
    split at he
    . rw [(happended.uniform e he).1, if_pos rfl]
      apply List.mem_append_right _ he
    . have hold := h.stored j e he
      split
      . exact List.mem_append_left _ hold
      . exact hold
  . intro j j' e hj hj'
    rw [hafter] at hj hj'
    split at hj
    . next heq =>
      split at hj'
      . next heq' => rw [heq, heq']
      . exact absurd hj (hnew j' e hj')
    . split at hj'
      . exact absurd hj' (hnew j e hj)
      . exact h.apart j j' e hj hj'
  . intro e
    constructor
    . rintro ⟨j, hj⟩
      rw [hafter] at hj
      split at hj
      . exact .inr hj
      . exact .inl ⟨j, hj⟩
    . rintro (⟨j, hj⟩ | hmem)
      . refine ⟨j, ?_⟩
        rw [hafter, if_neg]
        . exact hj
        . intro heq
          rw [heq, hbefore] at hj
          cases hj
      . refine ⟨i, ?_⟩
        rw [hafter, if_pos rfl]
        exact hmem

theorem Inv.append {s : System} (h : Inv s) {i : Nat}
    {call : CommandDispatcher.Call (fun _ => InventoryItem.aggregate)} {history : List StoredEvent}
    {uncommitted : List UncommittedEvent} {expected : ExpectedVersion}
    {committed : List StoredEvent} {store : InMemoryEventStore}
    {commits : List (CommandDispatcher.Commit (fun _ => InventoryItem.aggregate))}
    (hphase : s.dispatcher.phases i = .decided call history uncommitted expected)
    (happend : s.dispatcher.store.append uncommitted expected = (.ok committed, store))
    (hinv : CommandDispatcher.Inv
      ({ s.dispatcher with store, commits }.setPhase i (.publishing committed committed)))
    : Inv { s with
        dispatcher :=
          { s.dispatcher with store, commits }.setPhase i (.publishing committed committed) } := by
  have hcall := h.calls i
  rw [hphase] at hcall
  rcases hcall with ⟨key, command, rfl, hown⟩
  rcases h.dispatcher.appended hphase happend
    with ⟨evs', (decided : List InventoryEvent), happended⟩
  have hbefore : pendingOf (s.dispatcher.phases i) = [] := by
    rw [hphase]
    rfl
  rcases h.outstanding.append h.dispatcher.wellFormed happended hbefore
    (pendingOf_setPhase { s.dispatcher with store, commits } i (.publishing committed committed))
    with ⟨houtstanding, hpending⟩
  refine ⟨hinv, ownCall_setPhase h.calls trivial, houtstanding, ?_⟩
  rcases h.channel with ⟨queue, hqueue, htracks⟩
  refine ⟨queue, hqueue, ?_⟩
  intro key'
  rcases htracks key' with ⟨evs, c, p, htracks⟩
  have hold : ∀ e ∈ s.dispatcher.store.loadStream key',
      IsPending
          (({ s.dispatcher with store, commits }.setPhase i
            (.publishing committed committed)).phases) e
        ↔
      IsPending s.dispatcher.phases e := by
    intro e he
    rw [hpending]
    simp [happended.not_mem h.dispatcher.wellFormed he]
  have hload : store.loadStream key'
      =
    if key' = key then s.dispatcher.store.loadStream key' ++ committed
    else s.dispatcher.store.loadStream key' := happended.load key'
  change ∃ evs c p, Tracks key' (store.loadStream key') _ _ _ evs c p
  by_cases hkey : key' = key
  . subst hkey
    rw [if_pos rfl] at hload
    have hwf := happended.wellFormed key'
    rw [hload] at hwf ⊢
    refine ⟨evs ++ decided, c, p, htracks.grow ?_ hold ?_⟩
    . apply htracks.genuine.append hown happended.decision.streamOf happended.decision.handle
        happended.streamOf hwf
      intro e he
      exact (happended.uniform e he).2
    . intro e he
      rw [hpending]
      exact .inr he
  . rw [if_neg hkey] at hload
    rw [hload]
    exact ⟨evs, c, p, htracks.congr hold⟩

theorem Inv.deliver {s : System} (h : Inv s) {env : EventEnvelope JsonValue}
    {bus : InMemoryEventBus (EventEnvelope JsonValue)}
    (hrecv : s.dispatcher.bus.recv = some (env, bus)) (fresh : AggregateId)
    : Inv {
        dispatcher := { s.dispatcher with bus }
        projection := (projection.applyEnvelope fresh s.projection env).2
      } := by
  refine ⟨h.dispatcher.setBus bus, h.calls, h.outstanding, ?_⟩
  rcases h.channel with ⟨queue, hqueue, htracks⟩
  rw [hqueue] at hrecv
  cases queue with
  | nil => cases hrecv
  | cons env' queue =>
    cases hrecv
    refine ⟨queue, rfl, ?_⟩
    intro key
    rcases htracks key with ⟨evs, c, p, htracks⟩
    by_cases hkey : env.key = key
    . exact ⟨evs, c + 1, p, htracks.dequeue hkey fresh⟩
    . exact ⟨evs, c, p, htracks.dequeue_ne hkey fresh⟩

def OrderlyCall (d : Dispatcher)
    (action : CommandDispatcher.Action (fun _ => InventoryItem.aggregate)) : Prop :=
  match action with
  | .load _ call => IsOwn call
  | .publish i => PublishesFirst d.phases i
  | _ => True

theorem inv_stepDispatcher {s s' : System}
    {action : CommandDispatcher.Action (fun _ => InventoryItem.aggregate)} (h : Inv s)
    (hok : OrderlyCall s.dispatcher action)
    (hstep : stepDispatcher s action = some s') : Inv s' := by
  unfold stepDispatcher at hstep
  rw [Option.map_eq_some_iff] at hstep
  rcases hstep with ⟨d, hstep, rfl⟩
  have hinv := CommandDispatcher.inv_step h.dispatcher hstep
  cases CommandDispatcher.steps_of_step hstep with
  | load hphase =>
    apply h.setPhase hinv hok
    rw [hphase]
    rfl
  | decideReturn hphase =>
    apply h.setPhase hinv trivial
    rw [hphase]
    rfl
  | @decide i _ call _ _ _ hphase =>
    have hcall := h.calls i
    rw [hphase] at hcall
    apply h.setPhase hinv hcall
    rw [hphase]
    rfl
  | @appendFail i _ _ _ _ _ store hphase happend =>
    apply h.frame hinv
    . exact ownCall_setPhase h.calls trivial
    . exact CommandDispatcher.loadStream_append_error happend
    . rfl
    . intro j
      rw [pendingOf_setPhase]
      split
      . next heq =>
        rw [heq, hphase]
        rfl
      . rfl
  | append hphase happend => exact h.append hphase happend hinv
  | publishDone hphase =>
    apply h.setPhase hinv trivial
    rw [hphase]
    rfl
  | publishFail _ hpublish => cases hpublish
  | publish hphase hpublish => exact h.publish hphase hpublish hok hinv

theorem inv_step {s s' : System} {action : Action} (h : Inv s) (hok : Orderly s action)
    (hstep : step s action = some s') : Inv s' := by
  unfold step at hstep
  cases action with
  | load i key command =>
    apply inv_stepDispatcher h _ hstep
    exact ⟨key, command, rfl, hok⟩
  | decide i freshId =>
    apply inv_stepDispatcher h _ hstep
    trivial
  | append i =>
    apply inv_stepDispatcher h _ hstep
    trivial
  | publish i =>
    apply inv_stepDispatcher h _ hstep
    exact hok
  | deliver fresh =>
    dsimp only at hstep
    split at hstep
    . cases hstep
    . next hrecv =>
      cases hstep
      apply h.deliver hrecv fresh

theorem inv_initial : Inv initial := by
  refine ⟨?_, fun _ => trivial, ⟨?_, ?_, ?_⟩, ?_⟩
  . have hinit : (CommandDispatcher.system InMemoryEventBus.toEventBus initial.dispatcher.bus).init
        initial.dispatcher := ⟨rfl, rfl, fun _ => rfl, rfl⟩
    apply CommandDispatcher.inv_init hinit
  . intro i
    exact .nil
  . intro i e he
    cases he
  . intro i j e he
    cases he
  . refine ⟨[], rfl, ?_⟩
    intro key
    exact ⟨[], 0, 0, Tracks.empty key⟩

theorem inv_of_reachable {s : System} (h : system.ReachableUnder Orderly s) : Inv s := by
  apply Machine.ReachableUnder.invariant _ _ s h
  . intro s hs
    rw [hs]
    exact inv_initial
  . intro s action s' hinv hok hstep
    apply inv_step hinv hok hstep

structure Settled (s : System) : Prop where
  returned : ∀ i, s.dispatcher.phases i = .idle ∨ ∃ result, s.dispatcher.phases i = .returned result
  drained : ∀ channel ∈ s.dispatcher.bus.subscribers, channel.queue = []

def ShowsAll (s : System) (key : StreamKey) : Prop :=
  ∃ evs : List InventoryEvent, StreamOf (s.dispatcher.store.loadStream key) evs
    ∧ s.projection.getCursor key = evs.length
    ∧ ∀ vacant, s.projection.store.get key.tenantId ⟨key.aggregateId⟩
        = View.project projection.modify vacant evs

theorem live_shows_all (s : System) (h : system.ReachableUnder Orderly s) (hsettled : Settled s)
    (key : StreamKey) : ShowsAll s key := by
  have hinv := inv_of_reachable h
  rcases hinv.channel with ⟨queue, hqueue, htracks⟩
  have hempty : queue = [] := by
    apply hsettled.drained ⟨queue, true⟩
    rw [hqueue]
    apply List.mem_singleton_self
  have hpending : ∀ e, ¬ IsPending s.dispatcher.phases e := by
    rintro e ⟨i, hi⟩
    cases hsettled.returned i with
    | inl hidle =>
      rw [hidle] at hi
      cases hi
    | inr hreturned =>
      rcases hreturned with ⟨result, hresult⟩
      rw [hresult] at hi
      cases hi
  subst hempty
  rcases htracks key with ⟨evs, c, p, htracks⟩
  have hshows := htracks.shows
  rw [htracks.cursor_eq hpending] at hshows
  exact ⟨evs, htracks.genuine.typed, hshows.cursor, hshows.row_eq⟩

end Live
namespace Bolt

open Concrete Live

open InventoryStockProjection (projection)

def dispatched (i : Nat) (command : InventoryCommand) : List Live.Action := [
  .load i key command,
  .decide i (fun _ => ⟨9⟩),
  .append i]

-- The second adjustment is decided on the first one and overtakes it on the way to the bus.
def overtaken : List Live.Action :=
  dispatched 0 (.createItem create)
  ++ [.publish 0, .publish 0, .deliver ⟨⟨0⟩⟩]
  ++ dispatched 1 (.adjustStock (adjust 5))
  ++ dispatched 2 (.adjustStock (adjust 7))
  ++ [.publish 2, .publish 1, .publish 1, .publish 2, .deliver ⟨⟨0⟩⟩, .deliver ⟨⟨0⟩⟩]

def dispatchedEvent (n : Nat) (ev : InventoryEvent) : StoredEvent :=
  { stored n ev with eventId := ⟨9⟩ }

theorem run_overtaken
    : ∃ s, Live.system.run initial overtaken = some s
      ∧ Settled s
      ∧ s.dispatcher.store.loadStream key
          = [dispatchedEvent 1 created, dispatchedEvent 2 (adjusted 5),
              dispatchedEvent 3 (adjusted 7)]
      ∧ s.projection.getCursor key = 2
      ∧ s.projection.store.get tenantId itemId = some ⟨itemId, "Bolt", 5⟩ := by
  refine ⟨_, rfl, ⟨?_, ?_⟩, rfl, rfl, rfl⟩
  . intro i
    match i with
    | 0 => exact .inr ⟨_, rfl⟩
    | 1 => exact .inr ⟨_, rfl⟩
    | 2 => exact .inr ⟨_, rfl⟩
    | _ + 3 => exact .inl rfl
  . intro channel hchannel
    rw [List.mem_singleton.mp hchannel]

-- Number 3 is a gap when it is delivered and is not delivered again.
theorem overtaken_event_lost
    : ∃ s, Live.system.run initial overtaken = some s
      ∧ Settled s
      ∧ ∀ evs vacant, StreamOf (s.dispatcher.store.loadStream key) evs →
          s.projection.getCursor key ≠ evs.length
          ∧ s.projection.store.get tenantId itemId ≠ View.project projection.modify vacant evs := by
  rcases run_overtaken with ⟨s, hrun, hsettled, hstream, hcursor, hrow⟩
  refine ⟨s, hrun, hsettled, ?_⟩
  intro evs vacant htyped
  rw [hstream] at htyped
  have hrep : ∀ n ev, (dispatchedEvent n ev).uncommitted.Represents ev :=
    fun _ _ => ⟨rfl, rfl, rfl, rfl⟩
  cases htyped.unique (.cons (hrep 1 _) (.cons (hrep 2 _) (.cons (hrep 3 _) .nil)))
  rw [hcursor, hrow]
  refine ⟨by decide, ?_⟩
  intro heq
  have hquantity : some (5 : Int64) = some 12 :=
    congrArg (Option.map InventoryReadModel.quantity) heq
  exact absurd hquantity (by decide)

-- Both adjustments are decided before either of them is published, and are published as they were
-- stored.
def inTurn : List Live.Action :=
  dispatched 0 (.createItem create)
  ++ [.publish 0, .publish 0]
  ++ dispatched 1 (.adjustStock (adjust 5))
  ++ dispatched 2 (.adjustStock (adjust 7))
  ++ [.publish 1, .publish 2, .publish 2, .publish 1, .deliver ⟨⟨0⟩⟩,
    .deliver ⟨⟨0⟩⟩, .deliver ⟨⟨0⟩⟩]

theorem live_shows_all_inTurn
    : ∃ s, Live.system.run initial inTurn = some s ∧ s.projection.getCursor key = 3
        ∧ ShowsAll s key := by
  have hdispatched : ∀ s i command, InventoryStockProjection.CreatesOwn key command →
      ∀ a ∈ dispatched i command, Orderly s a := by
    intro s i command hown a ha
    simp only [dispatched, List.mem_cons, List.not_mem_nil, or_false] at ha
    rcases ha with rfl | rfl | rfl
    . exact hown
    . trivial
    . trivial
  have hdeliver : ∀ s, ∀ a ∈ List.replicate 3 (Live.Action.deliver ⟨⟨0⟩⟩), Orderly s a := by
    intro s a ha
    rw [List.eq_of_mem_replicate ha]
    trivial
  have hinit : Live.system.ReachableUnder Orderly initial := .init rfl
  have hcreate := hinit.run (fun s => hdispatched s 0 (.createItem create) ⟨rfl, rfl⟩) rfl
  have hpublish := hcreate.step (a := .publish 0) (Orderly.publish 3 ?_ ?_) rfl
  have hreturn := hpublish.step (a := .publish 0) (Orderly.publish 3 ?_ ?_) rfl
  have hadjust := hreturn.run (fun s => hdispatched s 1 (.adjustStock (adjust 5)) trivial) rfl
  have hagain := hadjust.run (fun s => hdispatched s 2 (.adjustStock (adjust 7)) trivial) rfl
  have hfirst := hagain.step (a := .publish 1) (Orderly.publish 3 ?_ ?_) rfl
  have hsecond := hfirst.step (a := .publish 2) (Orderly.publish 3 ?_ ?_) rfl
  have hreturn₂ := hsecond.step (a := .publish 2) (Orderly.publish 3 ?_ ?_) rfl
  have hreturn₁ := hreturn₂.step (a := .publish 1) (Orderly.publish 3 ?_ ?_) rfl
  have hdelivered := hreturn₁.run hdeliver rfl
  refine ⟨_, rfl, rfl, live_shows_all _ hdelivered ⟨?_, ?_⟩ key⟩
  . intro i
    match i with
    | 0 => exact .inr ⟨_, rfl⟩
    | 1 => exact .inr ⟨_, rfl⟩
    | 2 => exact .inr ⟨_, rfl⟩
    | _ + 3 => exact .inl rfl
  . intro channel hchannel
    rw [List.mem_singleton.mp hchannel]
  -- no publication passes an event that waits, and callers from the third on have none
  all_goals try decide
  all_goals
    intro j hj
    match j with
    | _ + 3 => exact rfl

end Bolt
end ForgeErp
