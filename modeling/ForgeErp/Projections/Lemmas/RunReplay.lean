import ForgeErp.Projections.Lemmas.Replay

/-!
This module contains the relation between `run_replay` and the replay that runs beside commands and
live delivery: a call is a run in which nothing else happens.
-/

namespace ForgeErp
namespace Replay

open InventoryStockProjection (projection)

-- A flag that has not stopped the loading loop has made no difference.
theorem loadEvents_uncancelled {overflowChecks : Bool} {queryEvents : QueryEvents}
    {cancellation : Nat → Bool}
    {tenantId : TenantId} {aggregateTypes : List String} {fuel idx : Nat} {offset : UInt32}
    {allEvents : List StoredEvent} {result : Except ReplayError (List StoredEvent)}
    (h : loadEvents overflowChecks queryEvents cancellation tenantId aggregateTypes fuel
      idx offset allEvents
      = .finished result)
    : result = .error .cancelled
      ∨ loadEvents overflowChecks queryEvents (fun _ => false) tenantId aggregateTypes fuel
          idx offset allEvents
          = .finished result := by
  induction fuel generalizing idx offset allEvents with
  | zero => cases h
  | succ fuel ih =>
    unfold loadEvents at h ⊢
    split at h
    . cases h
      exact .inl rfl
    . rw [if_neg Bool.false_ne_true]
      dsimp only at h ⊢
      split at h
      . cases h
      . exact .inr h
      . split at h
        . next hmore =>
          rw [if_pos hmore]
          exact .inr h
        . next hmore =>
          rw [if_neg hmore]
          split at h
          . cases h
          . exact ih h

variable [TextFormat Uuid] [TextFormat DateTime]

section Step

variable {store : InMemoryEventStore} {delivered : StreamKey → Nat} {e : StoredEvent}
variable {st st' : Projection InventoryItemId InventoryReadModel} {tenantId : TenantId}
  {fresh : AggregateId}

theorem step_replay_ok (h : projection.applyEnvelope fresh st e.toEnvelope = (.ok (), st'))
    (allEvents events : List StoredEvent)
    : (replaying tenantId).step ⟨store, delivered, st, .replaying allEvents (e :: events)⟩
        (.replay fresh)
        = some ⟨store, delivered, st', .replaying allEvents events⟩ := by
  unfold replaying step
  dsimp only
  rw [if_neg Bool.false_ne_true, h]

theorem step_replay_error {err : ProjectionError}
    (h : projection.applyEnvelope fresh st e.toEnvelope = (.error err, st'))
    (allEvents events : List StoredEvent)
    : (replaying tenantId).step ⟨store, delivered, st, .replaying allEvents (e :: events)⟩
        (.replay fresh)
        = some ⟨store, delivered, st', .failed (.projection (displayError err))⟩ := by
  unfold replaying step
  dsimp only
  rw [if_neg Bool.false_ne_true, h]

theorem step_load {overflowChecks : Bool} {queryEvents : QueryEvents} {fuel : Nat}
    {allEvents : List StoredEvent}
    (h : loadEvents overflowChecks queryEvents (fun _ => false) tenantId
      ["inventory.item"] fuel 0 0 []
      = .finished (.ok allEvents))
    : (replaying tenantId).step ⟨store, delivered, st, .notStarted⟩
        (.load overflowChecks queryEvents fuel)
        = some ⟨store, delivered, st, .loaded allEvents⟩ := by
  unfold replaying step
  dsimp only
  rw [h]

theorem step_load_error {overflowChecks : Bool} {queryEvents : QueryEvents} {fuel : Nat}
    {err : ReplayError}
    (h : loadEvents overflowChecks queryEvents (fun _ => false) tenantId
      ["inventory.item"] fuel 0 0 []
      = .finished (.error err))
    : (replaying tenantId).step ⟨store, delivered, st, .notStarted⟩
        (.load overflowChecks queryEvents fuel)
        = some ⟨store, delivered, st, .failed err⟩ := by
  unfold replaying step
  dsimp only
  rw [h]

end Step

def ended (result : Except ReplayError Unit) : Phase :=
  match result with
  | .ok () => .complete
  | .error err => .failed err

-- The replay of the remaining events is a run of the machine in which nothing else happens.
theorem run_of_replayEvents (tenantId : TenantId) {s : System} {allEvents events : List StoredEvent}
    (hphase : s.phase = .replaying allEvents events) {cancellation : Nat → Bool}
    {fresh : Nat → AggregateId}
    {idx : Nat} {result : Except ReplayError Unit}
    {st : Projection InventoryItemId InventoryReadModel}
    (h : replayEvents false cancellation fresh idx events s.projection = (result, st))
    : ∃ actions, (replaying tenantId).run s actions
        = some { s with projection := st, phase := ended result } := by
  rcases s with ⟨store, delivered, before, phase⟩
  dsimp only at hphase h
  subst hphase
  induction events generalizing before idx with
  | nil =>
    cases h
    exact ⟨[.replay (fresh idx)], rfl⟩
  | cons e events ih =>
    unfold replayEvents at h
    split at h
    . cases h
      exact ⟨[.cancel], rfl⟩
    . rw [if_neg Bool.false_ne_true] at h
      split at h
      . next err next happly =>
        cases h
        exact ⟨[.replay (fresh idx)],
          Machine.run_cons (step_replay_error happly allEvents events) []⟩
      . next next happly =>
        rcases ih next h with ⟨actions, hrun⟩
        refine ⟨.replay (fresh idx) :: actions, ?_⟩
        rw [Machine.run_cons (step_replay_ok happly allEvents events)]
        exact hrun

/--
A call of `run_replay` is a run of the machine in which nothing else happens.
-/
theorem run_of_runReplay {tenantId : TenantId} {s : System} (hphase : s.phase = .notStarted)
    {overflowChecks : Bool} {queryEvents : QueryEvents} {cancellation : Cancellation}
    {fuel : Nat} {eventId : Uuid}
    {aggregateId : AggregateId} {dummyFresh fresh : Nat → AggregateId}
    {result : Except ReplayError Unit}
    {st : Projection InventoryItemId InventoryReadModel}
    (h : runReplay overflowChecks queryEvents cancellation tenantId false fuel eventId
      aggregateId dummyFresh fresh
      s.projection = some (result, st))
    : ∃ actions, (replaying tenantId).run s actions
        = some { s with projection := st, phase := ended result } := by
  rcases s with ⟨store, delivered, before, phase⟩
  dsimp only at hphase h
  subst hphase
  unfold runReplay at h
  split at h
  . next err hload =>
    cases h
    rcases loadEvents_uncancelled hload with hcancelled | hload
    . cases hcancelled
      exact ⟨[.cancel], rfl⟩
    . exact ⟨[.load overflowChecks queryEvents fuel], Machine.run_cons (step_load_error hload) []⟩
  . next allEvents hload =>
    have hload : loadEvents overflowChecks queryEvents (fun _ => false) tenantId
      ["inventory.item"] fuel 0 0 []
        = .finished (.ok allEvents) := (loadEvents_uncancelled hload).resolve_left (by simp)
    split at h
    . cases h
      exact ⟨[.load overflowChecks queryEvents fuel, .cancel],
        Machine.run_cons (step_load hload) [.cancel]⟩
    . dsimp only at h
      rw [if_neg Bool.false_ne_true] at h
      split at h
      . cases h
        exact ⟨[.load overflowChecks queryEvents fuel, .clear eventId aggregateId dummyFresh,
          .cancel],
          Machine.run_cons (step_load hload) [.clear eventId aggregateId dummyFresh, .cancel]⟩
      . rcases run_of_replayEvents tenantId (s := ⟨store, delivered,
          clearTenant tenantId eventId aggregateId dummyFresh before,
          .replaying (sortEvents allEvents) (sortEvents allEvents)⟩) rfl (Option.some.inj h)
            with ⟨actions, hrun⟩
        refine ⟨.load overflowChecks queryEvents fuel :: .clear eventId aggregateId
          dummyFresh :: actions, ?_⟩
        rw [Machine.run_cons (step_load hload)]
        exact hrun
  . cases h

end Replay

end ForgeErp
