import ForgeErp.Core.Basic
import ForgeErp.Library.Json

/-!
This module contains the event metadata trait, the envelope that carries an event over the bus, and
the bus itself.
-/

namespace ForgeErp

class Event (E : Type) where
  eventType : E → String
  version : E → UInt32
  occurredAt : E → DateTime

structure EventEnvelope (E : Type) where
  eventId : Uuid
  tenantId : TenantId
  aggregateId : AggregateId
  aggregateType : String
  sequenceNumber : Nat
  payload : E

structure EventBus (B M : Type) where
  publish : B → M → Except String Unit × B

/--
The sending half of an `mpsc` channel; sending fails once the receiver is gone.
-/
structure Channel (M : Type) where
  queue : List M
  receiverAlive : Bool

structure InMemoryEventBus (M : Type) where
  subscribers : List (Channel M)

namespace InMemoryEventBus

variable {M : Type}

def send (tx : Channel M) (message : M) : Option (Channel M) :=
  if tx.receiverAlive then
    some { tx with queue := tx.queue ++ [message] }
  else
    none

/--
Dead subscribers are dropped while publishing. The lock is never poisoned: no holder of it panics.
-/
def publish (bus : InMemoryEventBus M) (message : M) : Except String Unit × InMemoryEventBus M :=
  (.ok (), ⟨bus.subscribers.filterMap (send · message)⟩)

def subscribe (bus : InMemoryEventBus M) : InMemoryEventBus M :=
  ⟨bus.subscribers ++ [⟨[], true⟩]⟩

def toEventBus : EventBus (InMemoryEventBus M) M :=
  ⟨publish⟩

end InMemoryEventBus

end ForgeErp
