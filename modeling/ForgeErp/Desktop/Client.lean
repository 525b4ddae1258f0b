import ForgeErp.Desktop.SyncManager
import ForgeErp.Library.Machine

/-!
This module contains the desktop client in use: what is called on its queue in any order, and rounds
of synchronisation.
-/

namespace ForgeErp

open SyncManager (State)

structure DesktopClient (σ : Type) where
  state : State σ
  -- what has been enqueued so far, and what has been marked as synced
  enqueued : List QueuedCommand
  synced : List Uuid

inductive ClientCall where
  | enqueue (tenantId : TenantId) (commandType : String) (aggregateId : AggregateId)
    (payload : JsonValue)
      (id : Uuid) (createdAt : DateTime)
  | syncTenant (tenantId : TenantId) (surroundings : Uuid → CommandSurroundings)
  | markFailed (id : Uuid) (error : String)
  | retryFailed (id : Uuid)

namespace DesktopClient

variable {σ : Type}

def opened (cache : LocalCache) (server : σ) : DesktopClient σ where
  state := { queue := .new, cache, wire := { server, log := [] } }
  enqueued := []
  synced := []

-- `Uuid::now_v7()` does not come up with an identifier a second time.
def call (api : Api σ) (s : DesktopClient σ) : ClientCall → Option (DesktopClient σ)
  | .enqueue tenantId commandType aggregateId payload id createdAt =>
    if id ∈ s.enqueued.map QueuedCommand.id then
      none
    else
      let (cmd, queue) := s.state.queue.enqueue tenantId commandType aggregateId
        payload id createdAt
      some { s with state := { s.state with queue }, enqueued := s.enqueued ++ [cmd] }
  | .syncTenant tenantId surroundings =>
    let (result, state) := SyncManager.syncTenant api tenantId surroundings s.state
    some { s with state, synced := s.synced ++ result.syncedCommands }
  | .markFailed id error =>
    some { s with state := { s.state with queue := s.state.queue.markFailed id error } }
  | .retryFailed id =>
    some { s with state := { s.state with queue := s.state.queue.retryFailed id } }

def machine (api : Api σ) : Machine (DesktopClient σ) ClientCall where
  init s := ∃ cache server, s = opened cache server
  step := call api

end DesktopClient

/--
The surroundings of one round of synchronisation.
-/
structure Round where
  tenantId : TenantId
  surroundings : Uuid → CommandSurroundings

/--
Rounds of synchronisation, from any queue.
-/
def SyncManager.rounds {σ : Type} (api : Api σ) : Machine (State σ) Round where
  init s := s.wire.log = []
  step s round := some (syncTenant api round.tenantId round.surroundings s).2

end ForgeErp
