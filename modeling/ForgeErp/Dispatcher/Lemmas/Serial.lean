import ForgeErp.Dispatcher.Calls
import ForgeErp.Dispatcher.Lemmas.Optimistic

/-!
This module contains dispatches that are made one after the other on a store in memory, to compare
others with.
-/

namespace ForgeErp

open CommandDispatcher

theorem publishAll_inMemory (bus : InMemoryEventBus (EventEnvelope JsonValue))
    (committed : List StoredEvent)
    : (publishAll InMemoryEventBus.toEventBus bus committed).1 = .ok () := by
  induction committed generalizing bus with
  | nil => rfl
  | cons stored rest ih =>
    unfold publishAll
    apply ih

variable [Lowercase] [TextFormat Uuid] [TextFormat DateTime]

namespace DispatchCall

/--
One after the other the calls are told these batches, and leave these streams behind.
-/
structure Serial (bus : InMemoryEventBus (EventEnvelope JsonValue)) (calls : List DispatchCall)
    (batches : List (List StoredEvent)) (streams : StreamKey → List StoredEvent)
    : Prop where
  results : (performAll InMemoryEventBus.toEventBus calls .new bus).1 = batches.map .ok
  loadStream : ∀ key,
    (performAll InMemoryEventBus.toEventBus calls .new bus).2.1.loadStream key = streams key

namespace Serial

variable {bus : InMemoryEventBus (EventEnvelope JsonValue)} {calls : List DispatchCall}
  {batches : List (List StoredEvent)} {streams : StreamKey → List StoredEvent}

theorem nil : Serial bus [] [] (fun _ => []) :=
  ⟨rfl, fun _ => rfl⟩

theorem congr (h : Serial bus calls batches streams) {streams' : StreamKey → List StoredEvent}
    (hstreams : ∀ key, streams' key = streams key)
    : Serial bus calls batches streams' := by
  refine ⟨h.results, ?_⟩
  intro key
  rw [hstreams]
  exact h.loadStream key

theorem concat (h : Serial bus calls batches streams) {call : DispatchCall}
    {state : call.kind.aggregate.State} {decided : List call.kind.aggregate.Event}
    {committed : List StoredEvent}
    (hwf : ∀ key, InMemoryEventStore.WellFormedStream key (streams key))
    (hdecides : Decides (call.kind.request call.key call.aggregateType call.command)
      (streams call.key)
      call.freshId state decided committed)
    : Serial bus (calls ++ [call]) (batches ++ [committed])
        (fun key => if key = call.key then streams call.key ++ committed else streams key) := by
  rcases hserial : performAll InMemoryEventBus.toEventBus calls .new bus with ⟨results, alone, bus'⟩
  have hresults := h.results
  have hload := h.loadStream
  rw [hserial] at hresults hload
  dsimp only at hresults hload
  have hwf' : alone.WellFormed := by
    intro key
    rw [hload]
    exact hwf key
  have hsame : Decides (call.kind.request call.key call.aggregateType call.command)
      (alone.loadStream call.key) call.freshId state decided committed := by
    rw [hload]
    exact hdecides
  have hperform : call.perform InMemoryEventBus.toEventBus alone bus' = _ :=
    dispatch_of_decides InMemoryEventBus.toEventBus hwf' bus' hsame
  rw [publishAll_inMemory] at hperform
  constructor
  . rw [performAll_concat, hserial]
    dsimp only
    rw [hperform, hresults, List.map_append]
    rfl
  . intro key
    rw [performAll_concat, hserial]
    dsimp only
    rw [hperform]
    dsimp only
    rw [InMemoryEventStore.loadStream_insert, hload, hload]
    rfl

end Serial

end DispatchCall

end ForgeErp
