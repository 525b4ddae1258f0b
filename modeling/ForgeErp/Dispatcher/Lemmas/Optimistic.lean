import ForgeErp.Dispatcher.Lemmas.Concurrent
import ForgeErp.Dispatcher.Lemmas.Sequential

/-!
This module contains the specification of an append that comes some time after the history was
loaded that it was decided on: where it succeeds, nothing has happened to the stream in between.
-/

namespace ForgeErp
namespace CommandDispatcher

variable {A : Aggregate} [Event A.Event] [Serde A.Event]
variable {request : Request A} {history : List StoredEvent} {freshId : Nat → Uuid}
variable {us : List UncommittedEvent} {expected : ExpectedVersion}

structure DecidedOn (request : Request A) (history : List StoredEvent) (freshId : Nat → Uuid)
    (us : List UncommittedEvent) (expected : ExpectedVersion) (state : A.State)
    (decided : List A.Event)
    : Prop where
  applied : applyHistory A (request.makeAggregate request.key.tenantId request.key.aggregateId)
      history = .ok state
  handle : A.handle state request.command = .ok decided
  nonempty : decided ≠ []
  serialized : toUncommitted request.key request.aggregateType freshId 0 decided = .ok us
  expected_eq : expected = .exact (streamVersion history)

theorem decidedOn_of_decideEvents
    (h : decideEvents request history freshId = .ok (some (us, expected)))
    : ∃ state decided, DecidedOn request history freshId us expected state decided := by
  unfold decideEvents at h
  split at h
  . cases h
  . dsimp only at h
    split at h
    . cases h
    . next state happlied =>
      split at h
      . cases h
      . cases h
      . next ev evs hhandle =>
        split at h
        . cases h
        . next hus =>
          cases h
          exact ⟨state, ev :: evs, happlied, hhandle, by simp, hus, rfl⟩

theorem eq_of_streamVersion {key : StreamKey} {stream : List StoredEvent}
    (hpre : history <+: stream)
    (hwf : InMemoryEventStore.WellFormedStream key stream)
    (hmatch : (ExpectedVersion.exact (streamVersion history)).isMatch
      (InMemoryEventStore.currentVersion stream) = true)
    : history = stream := by
  have hhistory : NumberedFrom 1 (·.sequenceNumber) history := by
    rcases hpre with ⟨more, hmore⟩
    have := hwf.numbered
    rw [← hmore, NumberedFrom.append_iff] at this
    exact this.1
  have hversion : streamVersion history = history.length := by
    rw [← hhistory.getLast?]
    unfold streamVersion
    cases history.getLast? <;> rfl
  rw [ExpectedVersion.isMatch_exact, hwf.currentVersion_eq, hversion] at hmatch
  exact hpre.eq_of_length hmatch

-- What an append adds that is accepted at last.
theorem decides_of_append {store store' : InMemoryEventStore} {committed : List StoredEvent}
    (hstore : store.WellFormed) (hpre : history <+: store.loadStream request.key)
    (hdecide : decideEvents request history freshId = .ok (some (us, expected)))
    (happend : store.append us expected = (.ok committed, store'))
    : (∃ state decided,
        Decides request (store.loadStream request.key) freshId state decided committed)
      ∧ store' = ⟨store.streams.insert request.key
          (store.loadStream request.key ++ committed)⟩ := by
  rcases decidedOn_of_decideEvents hdecide with ⟨state, decided, hdecided⟩
  have huniform := (decideEvents_uniform hdecide).1
  have houtcome := InMemoryEventStore.append_outcome store us expected
  rw [happend] at houtcome
  cases houtcome with
  | empty => exact absurd rfl (decideEvents_uniform hdecide).2
  | @committed first rest _ _ hmatch hhead hcommitted =>
    rcases huniform first (by simp) with ⟨hkey, htype⟩
    have hfirst : first.key = request.key := hkey
    rw [hfirst] at hmatch hhead hcommitted ⊢
    have hwf := hstore request.key
    rw [hdecided.expected_eq] at hmatch
    have hhistory := eq_of_streamVersion hpre hwf hmatch
    rw [hhistory] at hdecided
    refine ⟨⟨state, decided, hdecided.applied, hdecided.handle, hdecided.nonempty, ?_, ?_⟩, rfl⟩
    . exact ⟨_, hdecided.serialized, by rw [hcommitted, hwf.currentVersion_eq]⟩
    . have hsame := hwf.type_of_head hhead
      rw [htype] at hsame
      exact hsame

end CommandDispatcher
end ForgeErp
