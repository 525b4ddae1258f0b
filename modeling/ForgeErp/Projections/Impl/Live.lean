import ForgeErp.Dispatcher.Concurrent
import ForgeErp.Projections.Impl.Members

/-!
This module contains the live path of the inventory projection: concurrent `dispatch` calls of
inventory commands on one store and one bus, and the subscriber loop behind the bus.
-/

namespace ForgeErp

-- `Subscription::recv` on the first subscription. `none` is a receiver that waits.
def InMemoryEventBus.recv {M : Type} (bus : InMemoryEventBus M) : Option (M × InMemoryEventBus M) :=
  match bus.subscribers with
  | ⟨message :: queue, receiverAlive⟩ :: subscribers =>
    some (message, ⟨⟨queue, receiverAlive⟩ :: subscribers⟩)
  | _ => none

namespace Live

abbrev Dispatcher :=
  CommandDispatcher.System (fun _ => InventoryItem.aggregate)
    (InMemoryEventBus (EventEnvelope JsonValue))

structure System where
  dispatcher : Dispatcher
  projection : Projection InventoryItemId InventoryReadModel

inductive Action where
  | load (i : Nat) (key : StreamKey) (command : InventoryCommand)
  | decide (i : Nat) (freshId : Nat → Uuid)
  | append (i : Nat)
  | publish (i : Nat)
  | deliver (fresh : AggregateId)

def inventoryCall (key : StreamKey) (command : InventoryCommand)
    : CommandDispatcher.Call (fun _ => InventoryItem.aggregate) where
  key := key
  aggregateType := "inventory.item"
  command := command
  makeAggregate _ aggregateId := InventoryItem.empty ⟨aggregateId⟩

variable [TextFormat Uuid] [TextFormat DateTime]

def stepDispatcher (s : System)
    (action : CommandDispatcher.Action (fun _ => InventoryItem.aggregate)) : Option System :=
  (CommandDispatcher.step InMemoryEventBus.toEventBus s.dispatcher action).map
    (fun dispatcher => { s with dispatcher })

def step (s : System) (action : Action) : Option System :=
  match action with
  | .load i key command => stepDispatcher s (.load i (inventoryCall key command))
  | .decide i freshId => stepDispatcher s (.decide i freshId)
  | .append i => stepDispatcher s (.append i)
  | .publish i => stepDispatcher s (.publish i)
  | .deliver fresh =>
    match s.dispatcher.bus.recv with
    | none => none
    | some (env, bus) =>
      -- an error is logged and the envelope is gone
      let (_, projection) :=
        InventoryStockProjection.projection.applyEnvelope fresh s.projection env
      some { dispatcher := { s.dispatcher with bus }, projection }

-- `build_in_memory_services`: everything is new, and the subscriber is there before any command.
def initial : System where
  dispatcher := {
    store := .new
    bus := InMemoryEventBus.subscribe ⟨[]⟩
    phases _ := .idle
    commits := []
  }
  projection := InventoryStockProjection.new

def system : Machine System Action where
  init s := s = initial
  step := step

end Live

end ForgeErp
