import ForgeErp.Dispatcher.Basic
import ForgeErp.Domain.Kinds
import ForgeErp.Library.Machine

/-!
This module contains the `dispatch` calls of the API, each with the factory of its aggregate, and
the runs that are made of them.
-/

namespace ForgeErp

variable [TextFormat Uuid] [TextFormat DateTime] [Lowercase]

def AggregateKind.request (kind : AggregateKind) (key : StreamKey) (aggregateType : String)
    (command : kind.aggregate.Command)
    : CommandDispatcher.Request kind.aggregate where
  key
  aggregateType
  command
  makeAggregate := kind.makeAggregate

structure DispatchCall where
  kind : AggregateKind
  key : StreamKey
  aggregateType : String
  command : kind.aggregate.Command
  freshId : Nat → Uuid

namespace DispatchCall

variable {B : Type} (eventBus : EventBus B (EventEnvelope JsonValue))

def perform (call : DispatchCall) (store : InMemoryEventStore) (bus : B)
    : Except DispatchError (List StoredEvent) × InMemoryEventStore × B :=
  CommandDispatcher.dispatch eventBus store bus
    (call.kind.request call.key call.aggregateType call.command) call.freshId

def runs (bus : B) : Machine (InMemoryEventStore × B) DispatchCall where
  init s := s = (.new, bus)
  step s call := some (call.perform eventBus s.1 s.2).2

-- One call after the other, and what each of them was told
def performAll (calls : List DispatchCall) (store : InMemoryEventStore) (bus : B)
    : List (Except DispatchError (List StoredEvent)) × InMemoryEventStore × B :=
  match calls with
  | [] => ([], store, bus)
  | call :: calls =>
    let (result, store, bus) := call.perform eventBus store bus
    let (results, store, bus) := performAll calls store bus
    (result :: results, store, bus)

theorem performAll_concat (calls : List DispatchCall) (call : DispatchCall)
    (store : InMemoryEventStore)
    (bus : B)
    : performAll eventBus (calls ++ [call]) store bus
        =
      let (results, store, bus) := performAll eventBus calls store bus
      let (result, store, bus) := call.perform eventBus store bus
      (results ++ [result], store, bus) := by
  induction calls generalizing store bus with
  | nil => rfl
  | cons head calls ih =>
    rw [List.cons_append, performAll, performAll]
    rcases head.perform eventBus store bus with ⟨result, store, bus⟩
    dsimp only
    rw [ih]
    rfl

end DispatchCall

end ForgeErp
