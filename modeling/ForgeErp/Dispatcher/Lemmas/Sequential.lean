import ForgeErp.Dispatcher.Lemmas.Decide

/-!
This module contains the specification of a `dispatch` that is not interrupted: it either leaves the
store alone or extends the stream by its decision, and which of the two is settled by the stream.
-/

namespace ForgeErp

theorem InMemoryEventStore.entryOr_of_head? {store : InMemoryEventStore} {key : StreamKey}
    {e : StoredEvent} (h : (store.loadStream key).head? = some e)
    : store.streams.entryOr key [] = store.streams := by
  unfold KeyMap.entryOr
  split
  . rfl
  . next hvacant => simp [loadStream, hvacant] at h

namespace CommandDispatcher

theorem validateLoadedStream_go_eq_ok {key : StreamKey} {stream : List StoredEvent} {idx last : Nat}
    (hkey : ∀ e ∈ stream, e.key = key)
    (hnumbered : NumberedFrom (last + 1) (·.sequenceNumber) stream)
    : validateLoadedStream.go key idx last stream = .ok () := by
  induction stream generalizing idx last with
  | nil => rfl
  | cons e es ih =>
    rw [NumberedFrom.cons_iff] at hnumbered
    rw [List.forall_mem_cons] at hkey
    have htenant : e.tenantId = key.tenantId := congrArg StreamKey.tenantId hkey.1
    have haggregate : e.aggregateId = key.aggregateId := congrArg StreamKey.aggregateId hkey.1
    have hseq : e.sequenceNumber = last + 1 := hnumbered.1
    unfold validateLoadedStream.go
    rw [if_neg (by simpa using htenant), if_neg (by simpa using haggregate), if_neg (by omega),
      if_neg (by omega)]
    apply ih hkey.2
    rw [hseq]
    exact hnumbered.2

theorem validateLoadedStream_eq_ok {key : StreamKey} {stream : List StoredEvent}
    (h : InMemoryEventStore.WellFormedStream key stream)
    : validateLoadedStream key stream = .ok () := by
  apply validateLoadedStream_go_eq_ok h.key_eq
  exact h.numbered

theorem append_decided {store : InMemoryEventStore} {key : StreamKey} {aggregateType : String}
    {us : List UncommittedEvent}
    (hstream : InMemoryEventStore.WellFormedStream key (store.loadStream key))
    (huniform : InMemoryEventStore.Uniform key aggregateType us) (hne : us ≠ [])
    : ((∀ e ∈ store.loadStream key, e.aggregateType = aggregateType)
        ∧ store.append us (.exact (streamVersion (store.loadStream key)))
            = (.ok (assignSequence ((store.loadStream key).length + 1) us),
              ⟨store.streams.insert key
                (store.loadStream key ++ assignSequence ((store.loadStream key).length + 1) us)⟩))
      ∨ ((¬ ∀ e ∈ store.loadStream key, e.aggregateType = aggregateType)
        ∧ ∃ msg, store.append us (.exact (streamVersion (store.loadStream key)))
            = (.error (.aggregateTypeMismatch msg), store)) := by
  have houtcome := InMemoryEventStore.append_outcome store us
    (.exact (streamVersion (store.loadStream key)))
  generalize store.append us (.exact (streamVersion (store.loadStream key))) = result
    at houtcome ⊢
  have hfirst : ∀ first rest, us = first :: rest →
      first.key = key ∧ first.aggregateType = aggregateType := by
    intro first rest heq
    apply huniform first
    simp [heq]
  cases houtcome with
  | empty => exact absurd rfl hne
  | @invalid first rest err herr =>
    rcases hfirst first rest rfl with ⟨rfl, rfl⟩
    rw [InMemoryEventStore.validateBatch_eq_ok_iff.mpr huniform] at herr
    cases herr
  | @conflict first rest msg _ hmatch =>
    rcases hfirst first rest rfl with ⟨rfl, rfl⟩
    have hversion : streamVersion (store.loadStream first.key)
        = InMemoryEventStore.currentVersion (store.loadStream first.key) := rfl
    rw [hversion] at hmatch
    simp [ExpectedVersion.isMatch] at hmatch
  | @typeMismatch first rest existing msg _ _ hhead hdiffer =>
    rcases hfirst first rest rfl with ⟨rfl, rfl⟩
    right
    constructor
    . intro htype
      apply hdiffer
      apply htype
      apply List.mem_of_head? hhead
    . exact ⟨msg, by rw [InMemoryEventStore.entryOr_of_head? hhead]⟩
  | @committed first rest committed _ _ hhead hcommitted =>
    rcases hfirst first rest rfl with ⟨rfl, rfl⟩
    left
    constructor
    . apply hstream.type_of_head hhead
    . rw [hcommitted, hstream.currentVersion_eq]

theorem DispatchError.ofDomain_ne_publish (err : DomainError) (msg : String)
    : DispatchError.ofDomain err ≠ .publish msg := by
  cases err <;> simp [DispatchError.ofDomain]

theorem DispatchError.ofStore_ne_publish (err : EventStoreError) (msg : String)
    : DispatchError.ofStore err ≠ .publish msg := by
  cases err <;> simp [DispatchError.ofStore]

theorem publishAll_eq_error {B : Type} {eventBus : EventBus B (EventEnvelope JsonValue)}
    {bus bus' : B}
    {committed : List StoredEvent} {err : DispatchError}
    (h : publishAll eventBus bus committed = (.error err, bus')) : ∃ msg, err = .publish msg := by
  induction committed generalizing bus with
  | nil => cases h
  | cons stored rest ih =>
    unfold publishAll at h
    split at h
    . next msg _ _ =>
      cases h
      exact ⟨msg, rfl⟩
    . apply ih h

theorem applyHistory_go_eq_error {A : Aggregate} [Serde A.Event] {state : A.State}
    {stream : List StoredEvent} {err : DispatchError}
    (h : applyHistory.go A state stream = .error err) : ∃ msg, err = .deserialize msg := by
  induction stream generalizing state with
  | nil => cases h
  | cons e es ih =>
    unfold applyHistory.go at h
    split at h
    . next msg _ =>
      cases h
      exact ⟨msg, rfl⟩
    . apply ih h

variable {A : Aggregate} [Event A.Event] [Serde A.Event]

structure Decides (request : Request A) (history : List StoredEvent) (freshId : Nat → Uuid)
    (state : A.State) (decided : List A.Event) (committed : List StoredEvent) : Prop where
  applied : applyHistory A (request.makeAggregate request.key.tenantId request.key.aggregateId)
      history = .ok state
  handle : A.handle state request.command = .ok decided
  nonempty : decided ≠ []
  serialized : ∃ us, toUncommitted request.key request.aggregateType freshId 0 decided = .ok us
    ∧ committed = assignSequence (history.length + 1) us
  sameType : ∀ e ∈ history, e.aggregateType = request.aggregateType

theorem Decides.streamOf {request : Request A} {history : List StoredEvent} {freshId : Nat → Uuid}
    {state : A.State} {decided : List A.Event} {committed : List StoredEvent}
    (h : Decides request history freshId state decided committed) : StreamOf committed decided := by
  rcases h.serialized with ⟨us, hus, rfl⟩
  apply StreamOf.assignSequence
  exact (toUncommitted_eq_ok hus).1

theorem Decides.handle_of_applied {request : Request A} {history : List StoredEvent}
    {freshId : Nat → Uuid} {state state' : A.State} {decided : List A.Event}
    {committed : List StoredEvent} (h : Decides request history freshId state decided committed)
    (happlied : applyHistory A (request.makeAggregate request.key.tenantId request.key.aggregateId)
      history = .ok state')
    : A.handle state' request.command = .ok decided := by
  have hstate := h.applied.symm.trans happlied
  cases hstate
  exact h.handle

theorem Decides.sameType_append {request : Request A} {history : List StoredEvent}
    {freshId : Nat → Uuid} {state : A.State} {decided : List A.Event} {committed : List StoredEvent}
    (h : Decides request history freshId state decided committed)
    : ∀ e ∈ history ++ committed, e.aggregateType = request.aggregateType := by
  intro e he
  rw [List.mem_append] at he
  cases he with
  | inl he => exact h.sameType e he
  | inr he =>
    rcases h.serialized with ⟨us, hus, rfl⟩
    rcases mem_assignSequence he with ⟨u, hu, n, rfl⟩
    exact ((toUncommitted_eq_ok hus).2 u hu).2

/--
Everything an uninterrupted `dispatch` can do.
-/
inductive DispatchOutcome {B : Type} (eventBus : EventBus B (EventEnvelope JsonValue))
    (store : InMemoryEventStore) (bus : B) (request : Request A) (freshId : Nat → Uuid)
    : Except DispatchError (List StoredEvent) × InMemoryEventStore × B → Prop where
  | failed {err : DispatchError} :
      (∀ msg, err ≠ .publish msg) →
      (∀ state decided committed,
        ¬ Decides request (store.loadStream request.key) freshId state decided committed) →
      DispatchOutcome eventBus store bus request freshId (.error err, store, bus)
  | nothing {state : A.State} :
      applyHistory A (request.makeAggregate request.key.tenantId request.key.aggregateId)
        (store.loadStream request.key) = .ok state →
      A.handle state request.command = .ok [] →
      DispatchOutcome eventBus store bus request freshId (.ok [], store, bus)
  | stored {state : A.State} {decided : List A.Event} {committed : List StoredEvent} :
      Decides request (store.loadStream request.key) freshId state decided committed →
      DispatchOutcome eventBus store bus request freshId
        ((publishAll eventBus bus committed).1.map (fun _ => committed),
          ⟨store.streams.insert request.key (store.loadStream request.key ++ committed)⟩,
          (publishAll eventBus bus committed).2)

theorem dispatch_outcome {B : Type} (eventBus : EventBus B (EventEnvelope JsonValue))
    {store : InMemoryEventStore} (hstore : store.WellFormed) (bus : B) (request : Request A)
    (freshId : Nat → Uuid)
    : DispatchOutcome eventBus store bus request freshId
        (dispatch eventBus store bus request freshId) := by
  unfold dispatch decideEvents
  rw [validateLoadedStream_eq_ok (hstore request.key)]
  dsimp only
  cases happlied : applyHistory A
      (request.makeAggregate request.key.tenantId request.key.aggregateId)
      (store.loadStream request.key) with
  | error err =>
    apply DispatchOutcome.failed
    . intro msg hmsg
      rcases applyHistory_go_eq_error happlied with ⟨msg', hmsg'⟩
      rw [hmsg'] at hmsg
      cases hmsg
    . intro state decided committed h
      rw [h.applied] at happlied
      cases happlied
  | ok state =>
    dsimp only
    cases hhandle : A.handle state request.command with
    | error err =>
      apply DispatchOutcome.failed (DispatchError.ofDomain_ne_publish err)
      intro state' decided committed h
      rw [h.handle_of_applied happlied] at hhandle
      cases hhandle
    | ok decided =>
      cases decided with
      | nil => exact DispatchOutcome.nothing happlied hhandle
      | cons ev evs =>
        dsimp only
        cases hus : toUncommitted request.key request.aggregateType freshId 0 (ev :: evs) with
        | error err =>
          apply DispatchOutcome.failed (DispatchError.ofStore_ne_publish err)
          intro state' decided committed h
          have hdecided := (h.handle_of_applied happlied).symm.trans hhandle
          cases hdecided
          rcases h.serialized with ⟨us, hus', -⟩
          rw [hus'] at hus
          cases hus
        | ok us =>
          rcases toUncommitted_eq_ok hus with ⟨hrep, huniform⟩
          have hne : us ≠ [] := by
            intro hnil
            subst hnil
            cases hrep
          dsimp only
          cases append_decided (hstore request.key) huniform hne with
          | inl happend =>
            rcases happend with ⟨htype, happend⟩
            rw [happend]
            have hdecides : Decides request (store.loadStream request.key) freshId state (ev :: evs)
                (assignSequence ((store.loadStream request.key).length + 1) us) :=
              ⟨happlied, hhandle, by simp, ⟨us, hus, rfl⟩, htype⟩
            have houtcome : DispatchOutcome eventBus store bus request freshId _ := .stored hdecides
            dsimp only
            split
            . next herr =>
              rw [herr] at houtcome
              exact houtcome
            . next hok =>
              rw [hok] at houtcome
              exact houtcome
          | inr happend =>
            rcases happend with ⟨htype, msg, happend⟩
            rw [happend]
            apply DispatchOutcome.failed (DispatchError.ofStore_ne_publish _)
            intro state' decided committed h
            apply htype h.sameType

theorem Decides.unique {request : Request A} {history : List StoredEvent} {freshId : Nat → Uuid}
    {state state' : A.State} {decided decided' : List A.Event}
    {committed committed' : List StoredEvent}
    (h : Decides request history freshId state decided committed)
    (h' : Decides request history freshId state' decided' committed') : committed' = committed := by
  have hdecided := (h.handle_of_applied h'.applied).symm.trans h'.handle
  cases hdecided
  rcases h.serialized with ⟨us, hus, rfl⟩
  rcases h'.serialized with ⟨us', hus', rfl⟩
  cases hus.symm.trans hus'
  rfl

-- With a decision there is only one outcome left,
theorem dispatch_of_decides {B : Type} (eventBus : EventBus B (EventEnvelope JsonValue))
    {store : InMemoryEventStore} (hstore : store.WellFormed) (bus : B) {request : Request A}
    {freshId : Nat → Uuid} {state : A.State} {decided : List A.Event} {committed : List StoredEvent}
    (h : Decides request (store.loadStream request.key) freshId state decided committed)
    : dispatch eventBus store bus request freshId
        =
      ((publishAll eventBus bus committed).1.map (fun _ => committed),
        ⟨store.streams.insert request.key (store.loadStream request.key ++ committed)⟩,
        (publishAll eventBus bus committed).2) := by
  have houtcome := dispatch_outcome eventBus hstore bus request freshId
  generalize dispatch eventBus store bus request freshId = result at houtcome ⊢
  cases houtcome with
  | failed _ hnot => exact absurd h (hnot state decided committed)
  | nothing happlied hnothing =>
    have hnil := hnothing.symm.trans (h.handle_of_applied happlied)
    cases hnil
    exact absurd rfl h.nonempty
  | stored h' => rw [h.unique h']

-- and without one, where nothing is not an answer, as well.
theorem dispatch_of_not_decides {B : Type} (eventBus : EventBus B (EventEnvelope JsonValue))
    {store : InMemoryEventStore} (hstore : store.WellFormed) (bus : B) {request : Request A}
    {freshId : Nat → Uuid}
    (hnot : ∀ state decided committed,
      ¬ Decides request (store.loadStream request.key) freshId state decided committed)
    (hsome : ∀ state, A.handle state request.command ≠ .ok [])
    : ∃ err, dispatch eventBus store bus request freshId = (.error err, store, bus) := by
  have houtcome := dispatch_outcome eventBus hstore bus request freshId
  generalize dispatch eventBus store bus request freshId = result at houtcome ⊢
  cases houtcome with
  | @failed err _ _ => exact ⟨err, rfl⟩
  | @nothing state _ hnothing => exact absurd hnothing (hsome state)
  | @stored state decided committed h => exact absurd h (hnot state decided committed)

theorem dispatch_reachable {B : Type} (eventBus : EventBus B (EventEnvelope JsonValue))
    {store : InMemoryEventStore} (hstore : store.Reachable) (bus : B) (request : Request A)
    (freshId : Nat → Uuid) : (dispatch eventBus store bus request freshId).2.1.Reachable := by
  cases dispatch_store eventBus store bus request freshId with
  | inl hsame =>
    rw [hsame]
    exact hstore
  | inr happend =>
    rcases happend with ⟨uncommitted, expected, -, heq⟩
    rw [heq]
    exact .append uncommitted expected hstore

end CommandDispatcher
end ForgeErp
