import ForgeErp.Dispatcher.Basic
import ForgeErp.EventStore.Lemmas.InMemory
import Mathlib.Data.List.Forall2

/-!
This module contains the specification of `decideEvents`: rehydration folds `apply` over the typed
events behind the loaded stream, and what is handed to the store is the decision, event for event.
-/

namespace ForgeErp

structure UncommittedEvent.Represents {E : Type} [Event E] [Serde E] (u : UncommittedEvent) (ev : E)
    : Prop where
  payload : Serde.toValue ev = .ok u.payload
  eventType : u.eventType = Event.eventType ev
  eventVersion : u.eventVersion = Event.version ev
  occurredAt : u.occurredAt = Event.occurredAt ev

-- The stored stream carries exactly the typed events `evs`.
def StreamOf {E : Type} [Event E] [Serde E] (stream : List StoredEvent) (evs : List E) : Prop :=
  List.Forall₂ (fun e ev => e.uncommitted.Represents ev) stream evs

namespace StreamOf

variable {E : Type} [Event E] [Serde E] {stream stream' : List StoredEvent} {evs evs' : List E}

theorem append (h : StreamOf stream evs) (h' : StreamOf stream' evs')
    : StreamOf (stream ++ stream') (evs ++ evs') := by
  unfold StreamOf at h
  induction h with
  | nil => exact h'
  | cons hhead _ ih => exact List.Forall₂.cons hhead ih

theorem take (h : StreamOf stream evs) (n : Nat) : StreamOf (stream.take n) (evs.take n) := by
  apply List.forall₂_take n h

theorem length_eq (h : StreamOf stream evs) : stream.length = evs.length := by
  exact List.Forall₂.length_eq h

theorem getElem? (h : StreamOf stream evs) {i : Nat} {e : StoredEvent} (he : stream[i]? = some e)
    : ∃ ev, evs[i]? = some ev ∧ Serde.fromValue e.payload = .ok ev := by
  unfold StreamOf at h
  induction h generalizing i with
  | nil => simp at he
  | @cons e' ev stream evs hhead _ ih =>
    cases i with
    | zero =>
      simp only [List.getElem?_cons_zero, Option.some.injEq] at he
      subst he
      exact ⟨ev, by simp, Serde.fromValue_toValue hhead.payload⟩
    | succ i =>
      simp only [List.getElem?_cons_succ] at he ⊢
      apply ih he

theorem assignSequence {uncommitted : List UncommittedEvent} {next : Nat}
    (h : List.Forall₂ UncommittedEvent.Represents uncommitted evs)
    : StreamOf (assignSequence next uncommitted) evs := by
  induction h generalizing next with
  | nil => exact List.Forall₂.nil
  | cons hhead _ ih => exact List.Forall₂.cons hhead ih

end StreamOf

namespace CommandDispatcher

section Rehydrate

variable {A : Aggregate} [Event A.Event] [Serde A.Event]

theorem applyHistory_go_eq {stream : List StoredEvent} {evs : List A.Event}
    (h : StreamOf stream evs) (aggregate : A.State)
    : applyHistory.go A aggregate stream = .ok (A.rehydrate aggregate evs) := by
  unfold StreamOf at h
  induction h generalizing aggregate with
  | nil => rfl
  | @cons e ev stream evs hhead _ ih =>
    unfold applyHistory.go
    have : Serde.fromValue e.payload = .ok ev := Serde.fromValue_toValue hhead.payload
    rw [this]
    dsimp only
    rw [ih]
    rfl

theorem applyHistory_eq {stream : List StoredEvent} {evs : List A.Event} {n : Nat}
    (hnumbered : NumberedFrom n (·.sequenceNumber) stream) (h : StreamOf stream evs)
    (aggregate : A.State)
    : applyHistory A aggregate stream = .ok (A.rehydrate aggregate evs) := by
  unfold applyHistory
  have hsorted : stream.Pairwise (fun a b => a.sequenceNumber ≤ b.sequenceNumber) := by
    apply hnumbered.pairwise_lt.imp
    intros
    omega
  rw [hsorted.insertionSort_eq]
  apply applyHistory_go_eq h

end Rehydrate

theorem toUncommitted_eq_ok {E : Type} [Event E] [Serde E] {key : StreamKey}
    {aggregateType : String}
    {freshId : Nat → Uuid} {idx : Nat} {decided : List E} {us : List UncommittedEvent}
    (h : toUncommitted key aggregateType freshId idx decided = .ok us)
    : List.Forall₂ UncommittedEvent.Represents us decided
      ∧ InMemoryEventStore.Uniform key aggregateType us := by
  induction decided generalizing idx us with
  | nil =>
    unfold toUncommitted at h
    cases h
    exact ⟨List.Forall₂.nil, by simp [InMemoryEventStore.Uniform]⟩
  | cons ev evs ih =>
    unfold toUncommitted at h
    split at h
    . cases h
    . next u hu =>
      split at h
      . cases h
      . next us' hus' =>
        cases h
        rcases ih hus' with ⟨hrep, huniform⟩
        unfold UncommittedEvent.fromTyped at hu
        split at hu
        . cases hu
        . next payload hpayload =>
          cases hu
          constructor
          . exact List.Forall₂.cons ⟨hpayload, rfl, rfl, rfl⟩ hrep
          . intro e he
            rw [List.mem_cons] at he
            cases he with
            | inl he =>
              subst he
              exact ⟨rfl, rfl⟩
            | inr he => exact huniform e he

variable {A : Aggregate} [Event A.Event] [Serde A.Event]

structure Decision (request : Request A) (history : List StoredEvent)
    (uncommitted : List UncommittedEvent) (expected : ExpectedVersion) (evs decided : List A.Event)
    : Prop where
  streamOf : StreamOf history evs
  handle : A.handle
      (A.rehydrate (request.makeAggregate request.key.tenantId request.key.aggregateId) evs)
      request.command
    = .ok decided
  represents : List.Forall₂ UncommittedEvent.Represents uncommitted decided
  uniform : InMemoryEventStore.Uniform request.key request.aggregateType uncommitted
  nonempty : uncommitted ≠ []
  expected_eq : expected = .exact (streamVersion history)

theorem decideEvents_eq_some {request : Request A} {history : List StoredEvent}
    {freshId : Nat → Uuid} {uncommitted : List UncommittedEvent} {expected : ExpectedVersion}
    {n : Nat} {evs : List A.Event}
    (hnumbered : NumberedFrom n (·.sequenceNumber) history) (hhistory : StreamOf history evs)
    (h : decideEvents request history freshId = .ok (some (uncommitted, expected)))
    : ∃ decided, Decision request history uncommitted expected evs decided := by
  unfold decideEvents at h
  split at h
  . cases h
  . dsimp only at h
    rw [applyHistory_eq hnumbered hhistory] at h
    dsimp only at h
    split at h
    . cases h
    . cases h
    . next ev evs' hhandle =>
      split at h
      . cases h
      . next us hus =>
        cases h
        rcases toUncommitted_eq_ok hus with ⟨hrep, huniform⟩
        refine ⟨ev :: evs', hhistory, hhandle, hrep, huniform, ?_, rfl⟩
        intro hnil
        subst hnil
        cases hrep

theorem decideEvents_uniform {request : Request A} {history : List StoredEvent}
    {freshId : Nat → Uuid} {uncommitted : List UncommittedEvent} {expected : ExpectedVersion}
    (h : decideEvents request history freshId = .ok (some (uncommitted, expected)))
    : InMemoryEventStore.Uniform request.key request.aggregateType uncommitted
        ∧ uncommitted ≠ [] := by
  unfold decideEvents at h
  split at h
  . cases h
  . dsimp only at h
    split at h
    . cases h
    . split at h
      . cases h
      . cases h
      . split at h
        . cases h
        . next us hus =>
          cases h
          rcases toUncommitted_eq_ok hus with ⟨hrep, huniform⟩
          refine ⟨huniform, ?_⟩
          intro hnil
          subst hnil
          cases hrep

theorem decideEvents_ne_none {request : Request A} {history : List StoredEvent}
    {freshId : Nat → Uuid}
    (hsome : ∀ state, A.handle state request.command ≠ .ok [])
    : decideEvents request history freshId ≠ .ok none := by
  intro h
  unfold decideEvents at h
  split at h
  . cases h
  . dsimp only at h
    split at h
    . cases h
    . next state _ =>
      split at h
      . cases h
      . next hnil => exact hsome state hnil
      . split at h
        . cases h
        . cases h

theorem dispatch_store {B : Type} (eventBus : EventBus B (EventEnvelope JsonValue))
    (store : InMemoryEventStore) (bus : B) (request : Request A) (freshId : Nat → Uuid)
    : (dispatch eventBus store bus request freshId).2.1 = store
      ∨ ∃ uncommitted expected,
          decideEvents request (store.loadStream request.key) freshId
            = .ok (some (uncommitted, expected))
          ∧ (dispatch eventBus store bus request freshId).2.1
              = (store.append uncommitted expected).2 := by
  unfold dispatch
  split
  . left
    rfl
  . left
    rfl
  . next uncommitted expected hdecide =>
    right
    refine ⟨uncommitted, expected, hdecide, ?_⟩
    split
    . next happend => rw [happend]
    . next happend =>
      rw [happend]
      split <;> rfl

end CommandDispatcher
end ForgeErp
