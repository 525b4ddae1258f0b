import ForgeErp.Core.Text
import ForgeErp.Dispatcher.Concurrent
import ForgeErp.Dispatcher.Lemmas.Decide
import ForgeErp.Domain.Inventory

/-!
This module contains the verification of concurrently running `dispatch` calls. The invariant ties
the prefix that every pending call has loaded to the stream as it is now: a stream only ever grows,
so an append whose expected version still matches finds exactly the history it was decided on.
-/

namespace ForgeErp
namespace CommandDispatcher

variable {A : StreamKey → Aggregate} [∀ key, Event (A key).Event] [∀ key, Serde (A key).Event]
variable {B : Type} {eventBus : EventBus B (EventEnvelope JsonValue)}

inductive Steps (eventBus : EventBus B (EventEnvelope JsonValue)) (s : System A B)
    : Action A → System A B → Prop where
  | load {i : Nat} {call : Call A} :
      s.phases i = .idle →
      Steps eventBus s (.load i call) (s.setPhase i (.loaded call (s.store.loadStream call.key)))
  | decideReturn {i : Nat} {freshId : Nat → Uuid} {call : Call A} {history : List StoredEvent}
      {result : Except DispatchError (List StoredEvent)} :
      s.phases i = .loaded call history →
      (∀ committed, result = .ok committed → committed = []) →
      Steps eventBus s (.decide i freshId) (s.setPhase i (.returned result))
  | decide {i : Nat} {freshId : Nat → Uuid} {call : Call A} {history : List StoredEvent}
      {uncommitted : List UncommittedEvent} {expected : ExpectedVersion} :
      s.phases i = .loaded call history →
      decideEvents call.request history freshId = .ok (some (uncommitted, expected)) →
      Steps eventBus s (.decide i freshId)
        (s.setPhase i (.decided call history uncommitted expected))
  | appendFail {i : Nat} {call : Call A} {history : List StoredEvent}
      {uncommitted : List UncommittedEvent} {expected : ExpectedVersion} {err : EventStoreError}
      {store : InMemoryEventStore} :
      s.phases i = .decided call history uncommitted expected →
      s.store.append uncommitted expected = (.error err, store) →
      Steps eventBus s (.append i)
        ({ s with store }.setPhase i (.returned (.error (.ofStore err))))
  | append {i : Nat} {call : Call A} {history : List StoredEvent}
      {uncommitted : List UncommittedEvent} {expected : ExpectedVersion}
      {committed : List StoredEvent} {store : InMemoryEventStore} :
      s.phases i = .decided call history uncommitted expected →
      s.store.append uncommitted expected = (.ok committed, store) →
      Steps eventBus s (.append i)
        ({ s with
            store
            commits := s.commits ++ [Commit.mk call (s.store.loadStream call.key).length committed]
          }.setPhase i (.publishing committed committed))
  | publishDone {i : Nat} {committed : List StoredEvent} :
      s.phases i = .publishing committed [] →
      Steps eventBus s (.publish i) (s.setPhase i (.returned (.ok committed)))
  | publishFail {i : Nat} {committed rest : List StoredEvent} {stored : StoredEvent} {err : String}
      {bus : B} :
      s.phases i = .publishing committed (stored :: rest) →
      eventBus.publish s.bus stored.toEnvelope = (.error err, bus) →
      Steps eventBus s (.publish i)
        ({ s with bus }.setPhase i (.returned (.error (.publish err))))
  | publish {i : Nat} {committed rest : List StoredEvent} {stored : StoredEvent} {bus : B} :
      s.phases i = .publishing committed (stored :: rest) →
      eventBus.publish s.bus stored.toEnvelope = (.ok (), bus) →
      Steps eventBus s (.publish i) ({ s with bus }.setPhase i (.publishing committed rest))

theorem steps_of_step {s s' : System A B} {action : Action A}
    (h : step eventBus s action = some s') : Steps eventBus s action s' := by
  unfold step at h
  split at h
  . split at h
    . next hphase =>
      cases h
      exact Steps.load hphase
    . cases h
  . split at h
    . next hphase =>
      split at h
      . cases h
        apply Steps.decideReturn hphase
        intro _ h
        cases h
      . cases h
        apply Steps.decideReturn hphase
        intro _ h
        cases h
        rfl
      . next hdecide =>
        cases h
        exact Steps.decide hphase hdecide
    . cases h
  . split at h
    . next hphase =>
      split at h
      . next happend =>
        cases h
        exact Steps.appendFail hphase happend
      . next happend =>
        cases h
        exact Steps.append hphase happend
    . cases h
  . split at h
    . next hphase =>
      cases h
      exact Steps.publishDone hphase
    . next hphase =>
      split at h
      . next hpublish =>
        cases h
        exact Steps.publishFail hphase hpublish
      . next hpublish =>
        cases h
        exact Steps.publish hphase hpublish
    . cases h

-- The batch sits at positions `base + 1, ...` of the stream and is the answer of `handle` to the
-- command in the state that the events before it rehydrate to.
structure Commit.Justified (c : Commit A) (stream : List StoredEvent) : Prop where
  bound : c.base + c.batch.length ≤ stream.length
  batch_eq : (stream.drop c.base).take c.batch.length = c.batch
  decision : ∃ evs decided : List (A c.call.key).Event,
    StreamOf (stream.take c.base) evs
    ∧ (A c.call.key).handle
        ((A c.call.key).rehydrate
          (c.call.makeAggregate c.call.key.tenantId c.call.key.aggregateId) evs)
        c.call.command
      = .ok decided
    ∧ StreamOf c.batch decided

theorem Commit.Justified.append {c : Commit A} {stream : List StoredEvent} (h : c.Justified stream)
    (more : List StoredEvent) : c.Justified (stream ++ more) := by
  have hbound := h.bound
  constructor
  . rw [List.length_append]
    omega
  . rw [List.drop_append_of_le_length (by omega), List.take_append_of_le_length, h.batch_eq]
    rw [List.length_drop]
    omega
  . rw [List.take_append_of_le_length (by omega)]
    exact h.decision

def committedTo (commits : List (Commit A)) (key : StreamKey) : List StoredEvent :=
  (commits.filter (fun c => c.call.key = key)).flatMap (·.batch)

def Phase.Consistent (store : InMemoryEventStore) (phase : Phase A) : Prop :=
  match phase with
  | .loaded call history => history <+: store.loadStream call.key
  | .decided call history uncommitted expected =>
    history <+: store.loadStream call.key
    ∧ ∃ evs decided, Decision call.request history uncommitted expected evs decided
  | _ => True

structure Inv (s : System A B) : Prop where
  wellFormed : s.store.WellFormed
  typed : ∀ key, ∃ evs : List (A key).Event, StreamOf (s.store.loadStream key) evs
  phases : ∀ i, (s.phases i).Consistent s.store
  commits : ∀ c ∈ s.commits, c.Justified (s.store.loadStream c.call.key)
  covered : ∀ key, s.store.loadStream key = committedTo s.commits key

theorem Phase.Consistent.mono {store store' : InMemoryEventStore} {phase : Phase A}
    (hgrow : ∀ key, store.loadStream key <+: store'.loadStream key)
    (h : phase.Consistent store) : phase.Consistent store' := by
  cases phase with
  | loaded call history => exact List.IsPrefix.trans h (hgrow call.key)
  | decided call history uncommitted expected => exact ⟨h.1.trans (hgrow call.key), h.2⟩
  | idle => trivial
  | publishing => trivial
  | returned => trivial

theorem Inv.setPhase {s : System A B} (h : Inv s) (i : Nat) (phase : Phase A)
    (hphase : phase.Consistent s.store) : Inv (s.setPhase i phase) := by
  refine ⟨h.wellFormed, h.typed, ?_, h.commits, h.covered⟩
  intro j
  unfold System.setPhase
  dsimp only
  split
  . exact hphase
  . exact h.phases j

theorem Inv.setBus {s : System A B} (h : Inv s) (bus : B) : Inv { s with bus } :=
  ⟨h.wellFormed, h.typed, h.phases, h.commits, h.covered⟩

theorem loadStream_append_error {store store' : InMemoryEventStore} {events : List UncommittedEvent}
    {expected : ExpectedVersion} {err : EventStoreError}
    (h : store.append events expected = (.error err, store'))
    : ∀ key, store'.loadStream key = store.loadStream key := by
  have houtcome := InMemoryEventStore.append_outcome store events expected
  rw [h] at houtcome
  cases houtcome with
  | invalid => exact fun _ => rfl
  | conflict => exact InMemoryEventStore.loadStream_entryOr store _
  | typeMismatch => exact InMemoryEventStore.loadStream_entryOr store _

theorem Inv.setStore {s : System A B} (h : Inv s) {store : InMemoryEventStore}
    (hstore : ∀ key, store.loadStream key = s.store.loadStream key) : Inv { s with store } := by
  constructor
  . intro key
    rw [hstore]
    apply h.wellFormed key
  . intro key
    rw [hstore]
    apply h.typed key
  . intro i
    apply (h.phases i).mono
    intro key
    rw [hstore]
  . intro c hc
    rw [hstore]
    apply h.commits c hc
  . intro key
    rw [hstore]
    apply h.covered key

-- The heart of optimistic concurrency: the version check succeeds only on the loaded history.
theorem Decision.loadStream_eq_history {request : Request (A key)} {store : InMemoryEventStore}
    {history : List StoredEvent} {uncommitted : List UncommittedEvent} {expected : ExpectedVersion}
    {evs decided : List (A key).Event} (hstore : store.WellFormed)
    (hpre : history <+: store.loadStream request.key)
    (h : Decision request history uncommitted expected evs decided)
    : expected.isMatch (InMemoryEventStore.currentVersion (store.loadStream request.key)) = true
        ↔
      store.loadStream request.key = history := by
  rcases hpre with ⟨more, hmore⟩
  have hwf := hstore request.key
  have hhistory : NumberedFrom 1 (·.sequenceNumber) history := by
    have := hwf.numbered
    rw [← hmore, NumberedFrom.append_iff] at this
    exact this.1
  have hversion : streamVersion history = history.length := by
    rw [← hhistory.getLast?]
    unfold streamVersion
    cases history.getLast? <;> rfl
  rw [h.expected_eq, ExpectedVersion.isMatch_exact, hwf.currentVersion_eq, hversion, ← hmore]
  constructor
  . intro hlength
    rw [List.length_append] at hlength
    have : more = [] := List.eq_nil_of_length_eq_zero (by omega)
    rw [this, List.append_nil]
  . intro heq
    rw [heq]

structure Appended (store store' : InMemoryEventStore) (call : Call A)
    (uncommitted : List UncommittedEvent) (expected : ExpectedVersion)
    (committed : List StoredEvent)
    (evs decided : List (A call.key).Event) : Prop where
  decision : Decision call.request (store.loadStream call.key) uncommitted expected evs decided
  wellFormed : store'.WellFormed
  committed_eq : committed = assignSequence ((store.loadStream call.key).length + 1) uncommitted
  load : ∀ key, store'.loadStream key
      =
    if key = call.key then store.loadStream key ++ committed else store.loadStream key

section Appended

variable {store store' : InMemoryEventStore} {call : Call A} {uncommitted : List UncommittedEvent}
variable {expected : ExpectedVersion} {committed : List StoredEvent}
variable {evs decided : List (A call.key).Event}

theorem Appended.streamOf
    (h : Appended store store' call uncommitted expected committed evs decided)
    : StreamOf committed decided := by
  rw [h.committed_eq]
  apply StreamOf.assignSequence h.decision.represents

theorem Appended.numbered
    (h : Appended store store' call uncommitted expected committed evs decided)
    : NumberedFrom ((store.loadStream call.key).length + 1) (·.sequenceNumber) committed := by
  rw [h.committed_eq]
  apply assignSequence_numbered

theorem Appended.uniform
    (h : Appended store store' call uncommitted expected committed evs decided)
    : ∀ e ∈ committed, e.key = call.key ∧ e.aggregateType = call.aggregateType := by
  intro e he
  rw [h.committed_eq] at he
  rcases mem_assignSequence he with ⟨u, hu, n, hn⟩
  rw [hn]
  apply h.decision.uniform u hu

theorem Appended.not_mem
    (h : Appended store store' call uncommitted expected committed evs decided)
    (hwf : store.WellFormed) {key : StreamKey} {e : StoredEvent} (he : e ∈ store.loadStream key)
    : e ∉ committed := by
  intro hmem
  have hkey : key = call.key := by
    rw [← (hwf key).key_eq e he]
    exact (h.uniform e hmem).1
  rw [hkey] at he
  have hold := (hwf call.key).numbered.mem_bounds he
  have hnew := h.numbered.mem_bounds hmem
  omega

end Appended

theorem Inv.appended {s : System A B} (h : Inv s) {i : Nat} {call : Call A}
    {history : List StoredEvent} {uncommitted : List UncommittedEvent} {expected : ExpectedVersion}
    {committed : List StoredEvent} {store : InMemoryEventStore}
    (hphase : s.phases i = .decided call history uncommitted expected)
    (happend : s.store.append uncommitted expected = (.ok committed, store))
    : ∃ evs decided, Appended s.store store call uncommitted expected committed evs decided := by
  have hconsistent := h.phases i
  rw [hphase] at hconsistent
  rcases hconsistent with ⟨hpre, evs, decided, hdecision⟩
  have houtcome := InMemoryEventStore.append_outcome s.store uncommitted expected
  have hwf := InMemoryEventStore.wellFormed_append h.wellFormed uncommitted expected
  rw [happend] at houtcome hwf
  cases houtcome with
  | empty => exact absurd rfl hdecision.nonempty
  | @committed first rest _ _ hmatch _ hcommitted =>
    have hkey : first.key = call.key := (hdecision.uniform first (by simp)).1
    rw [hkey] at hmatch hcommitted
    have hstream : s.store.loadStream call.key = history :=
      (hdecision.loadStream_eq_history h.wellFormed hpre).mp hmatch
    refine ⟨evs, decided, ?_, hwf, ?_, ?_⟩
    . rw [hstream]
      exact hdecision
    . rw [← (h.wellFormed call.key).currentVersion_eq]
      exact hcommitted
    . intro key
      rw [InMemoryEventStore.loadStream_insert, hkey]
      split
      . next heq => rw [heq]
      . rfl

theorem Inv.append {s : System A B} (h : Inv s) {i : Nat} {call : Call A}
    {history : List StoredEvent} {uncommitted : List UncommittedEvent} {expected : ExpectedVersion}
    {committed : List StoredEvent} {store : InMemoryEventStore}
    (hphase : s.phases i = .decided call history uncommitted expected)
    (happend : s.store.append uncommitted expected = (.ok committed, store))
    : Inv { s with
        store
        commits := s.commits ++ [Commit.mk call (s.store.loadStream call.key).length committed]
      } := by
  rcases h.appended hphase happend with ⟨evs, decided, happended⟩
  have hload := happended.load
  have hbatch := happended.streamOf
  refine ⟨?_, ?_, ?_, ?_, ?_⟩
  . exact happended.wellFormed
  . intro key
    dsimp only
    rw [hload]
    rcases h.typed key with ⟨evs', hevs'⟩
    split
    . next heq =>
      subst heq
      exact ⟨evs' ++ decided, hevs'.append hbatch⟩
    . exact ⟨evs', hevs'⟩
  . intro j
    apply (h.phases j).mono
    intro key
    dsimp only
    rw [hload]
    split
    . apply List.prefix_append
    . apply List.prefix_refl
  . intro c hc
    rw [List.mem_append, List.mem_singleton] at hc
    dsimp only
    rw [hload]
    cases hc with
    | inl hc =>
      split
      . apply (h.commits c hc).append
      . exact h.commits c hc
    | inr hc =>
      subst hc
      rw [if_pos rfl]
      refine ⟨by rw [List.length_append], by simp, evs, decided, ?_, ?_, hbatch⟩
      . rw [List.take_left']
        . exact happended.decision.streamOf
        . rfl
      . exact happended.decision.handle
  . intro key
    dsimp only
    rw [hload]
    unfold committedTo
    rw [List.filter_append, List.flatMap_append]
    have hcovered := h.covered key
    unfold committedTo at hcovered
    rw [← hcovered]
    split
    . next heq => simp [heq]
    . next hne =>
      have : ¬ call.key = key := fun heq => hne heq.symm
      simp [this]

theorem inv_step {s s' : System A B} {action : Action A} (h : Inv s)
    (hstep : step eventBus s action = some s') : Inv s' := by
  cases steps_of_step hstep with
  | load =>
    apply h.setPhase
    apply List.prefix_refl
  | decideReturn => exact h.setPhase _ _ trivial
  | @decide i freshId call history uncommitted expected hphase hdecide =>
    apply h.setPhase
    have hpre := h.phases i
    rw [hphase] at hpre
    refine ⟨hpre, ?_⟩
    rcases hpre with ⟨more, hmore⟩
    rcases h.typed call.key with ⟨evs, hevs⟩
    have hnumbered := (h.wellFormed call.key).numbered
    rw [← hmore, NumberedFrom.append_iff] at hnumbered
    have hhistory : StreamOf history (evs.take history.length) := by
      have := hevs.take history.length
      rwa [← hmore, List.take_left' rfl] at this
    rcases decideEvents_eq_some hnumbered.1 hhistory hdecide with ⟨decided, hdecision⟩
    exact ⟨_, decided, hdecision⟩
  | appendFail _ happend =>
    have hstore := h.setStore (loadStream_append_error happend)
    exact hstore.setPhase _ _ trivial
  | append hphase happend =>
    have hstore := h.append hphase happend
    exact hstore.setPhase _ _ trivial
  | publishDone => exact h.setPhase _ _ trivial
  | publishFail => exact (h.setBus _).setPhase _ _ trivial
  | publish => exact (h.setBus _).setPhase _ _ trivial

theorem inv_init {bus : B} {s : System A B} (h : (system eventBus bus).init s) : Inv s := by
  rcases h with ⟨hstore, -, hphases, hcommits⟩
  constructor
  . rw [hstore]
    exact InMemoryEventStore.wellFormed_new
  . intro key
    rw [hstore]
    exact ⟨[], List.Forall₂.nil⟩
  . intro i
    rw [hphases]
    trivial
  . simp [hcommits]
  . intro key
    rw [hstore, hcommits]
    rfl

theorem inv_of_reachable {bus : B} {s : System A B} (h : (system eventBus bus).Reachable s)
    : Inv s := by
  apply Machine.Reachable.invariant _ _ s h
  . intro s hs
    apply inv_init hs
  . intro s action s' hs hstep
    apply inv_step hs hstep

theorem step_append_of_extended {s s' : System A B} (h : Inv s) {i : Nat} {call : Call A}
    {history : List StoredEvent} {uncommitted : List UncommittedEvent} {expected : ExpectedVersion}
    (hphase : s.phases i = .decided call history uncommitted expected)
    (hextended : s.store.loadStream call.key ≠ history)
    (hstep : step eventBus s (.append i) = some s')
    : (∃ msg, s'.phases i = .returned (.error (.concurrency msg)))
      ∧ s'.commits = s.commits
      ∧ InMemoryEventStore.SameReads s.store s'.store := by
  have hconsistent := h.phases i
  rw [hphase] at hconsistent
  rcases hconsistent with ⟨hpre, evs, decided, hdecision⟩
  have hmatch := (hdecision.loadStream_eq_history h.wellFormed hpre).not.mpr hextended
  have hfirst : ∀ first rest, uncommitted = first :: rest → first.key = call.key := by
    intro first rest heq
    exact (hdecision.uniform first (by simp [heq])).1
  have hnonempty := hdecision.nonempty
  have huniform := hdecision.uniform
  generalize happend : s.store.append uncommitted expected = outcome
  have houtcome := InMemoryEventStore.append_outcome s.store uncommitted expected
  unfold step at hstep
  simp only [hphase, happend] at hstep
  rw [happend] at houtcome
  cases houtcome with
  | empty => exact absurd rfl hnonempty
  | @invalid first rest err herr =>
    have hkey : call.key = first.key := (hfirst first rest rfl).symm
    have htype : call.aggregateType = first.aggregateType := (huniform first (by simp)).2.symm
    have huniform' : InMemoryEventStore.Uniform call.key call.aggregateType (first :: rest) :=
      huniform
    rw [hkey, htype, ← InMemoryEventStore.validateBatch_eq_ok_iff] at huniform'
    rw [huniform'] at herr
    cases herr
  | @conflict first rest msg =>
    cases hstep
    refine ⟨⟨msg, ?_⟩, rfl, InMemoryEventStore.sameReads_entryOr _ _⟩
    simp [System.setPhase, DispatchError.ofStore]
  | @typeMismatch first rest _ _ _ hmatch' =>
    rw [hfirst first rest rfl] at hmatch'
    exact absurd hmatch' hmatch
  | @committed first rest _ _ hmatch' =>
    rw [hfirst first rest rfl] at hmatch'
    exact absurd hmatch' hmatch

theorem interleaved_dispatch_sound (bus : B) (s : System A B)
    (h : (system eventBus bus).Reachable s)
    : (∀ key, (s.store.loadStream key).map (·.sequenceNumber)
          =
        List.range' 1 (s.store.loadStream key).length)
      ∧ (∀ key, s.store.loadStream key = committedTo s.commits key)
      ∧ (∀ c ∈ s.commits, c.Justified (s.store.loadStream c.call.key))
      ∧ (∀ i call history uncommitted expected s',
          s.phases i = .decided call history uncommitted expected →
          s.store.loadStream call.key ≠ history →
          step eventBus s (.append i) = some s' →
          (∃ msg, s'.phases i = .returned (.error (.concurrency msg)))
          ∧ s'.commits = s.commits
          ∧ InMemoryEventStore.SameReads s.store s'.store) := by
  have hinv := inv_of_reachable h
  refine ⟨?_, hinv.covered, hinv.commits, ?_⟩
  . intro key
    exact (hinv.wellFormed key).numbered
  . intro i call history uncommitted expected s' hphase hextended hstep
    apply step_append_of_extended hinv hphase hextended hstep

section Race

open Concrete

def boltCall (command : InventoryCommand) : Call (fun _ => InventoryItem.aggregate) where
  key := ⟨Bolt.tenantId, Bolt.itemId.aggregateId⟩
  aggregateType := "inventory.item"
  command := command
  makeAggregate _ id := InventoryItem.empty ⟨id⟩

def boltSystem
    : Machine (System (fun _ => InventoryItem.aggregate)
        (InMemoryEventBus (EventEnvelope JsonValue)))
        (Action (fun _ => InventoryItem.aggregate)) :=
  system InMemoryEventBus.toEventBus ⟨[]⟩

def allIdle
    : System (fun _ => InventoryItem.aggregate) (InMemoryEventBus (EventEnvelope JsonValue)) where
  store := .new
  bus := ⟨[]⟩
  phases _ := .idle
  commits := []

-- Two clients decide to create the same item; one of them gets to append.
def race : List (Action (fun _ => InventoryItem.aggregate)) := [
  .load 0 (boltCall (.createItem Bolt.create)),
  .load 1 (boltCall (.createItem Bolt.create)),
  .decide 0 (fun _ => ⟨10⟩),
  .decide 1 (fun _ => ⟨20⟩),
  .append 0,
  .append 1]

theorem run_race_reachable
    {s : System (fun _ => InventoryItem.aggregate) (InMemoryEventBus (EventEnvelope JsonValue))}
    (h : boltSystem.run allIdle race = some s) : boltSystem.Reachable s := by
  apply Machine.ReachableUnder.run (.init _) _ h
  . exact ⟨rfl, rfl, fun _ => rfl, rfl⟩
  . intros
    trivial

theorem interleaved_dispatch_sound_race
    : ∃ s, boltSystem.run allIdle race = some s
      ∧ s.commits.length = 1
      ∧ ∀ c ∈ s.commits, c.Justified (s.store.loadStream c.call.key) := by
  have hrun : (boltSystem.run allIdle race).isSome = true := by decide
  have hcommits : ∀ s, boltSystem.run allIdle race = some s → s.commits.length = 1 := by
    intro s hs
    have : (boltSystem.run allIdle race).map (·.commits.length) = some 1 := by decide
    rw [hs, Option.map_some] at this
    apply Option.some.inj this
  rcases Option.isSome_iff_exists.mp hrun with ⟨s, hs⟩
  exact ⟨s, hs, hcommits s hs, (interleaved_dispatch_sound _ s (run_race_reachable hs)).2.2.1⟩

end Race

end CommandDispatcher
end ForgeErp
