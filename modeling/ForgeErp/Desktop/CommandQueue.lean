import ForgeErp.Core.Basic
import ForgeErp.Library.Json
import Mathlib.Data.List.Nodup
import Mathlib.Data.List.Sort

/-!
This module contains the queue of the commands that are still to be sent: the table `command_queue`,
as long as the database answers, and the statements on it.
-/

namespace ForgeErp

inductive CommandStatus where
  | pending
  | syncing
  | synced
  | failed
  deriving DecidableEq, Repr

structure QueuedCommand where
  id : Uuid
  tenantId : TenantId
  commandType : String
  aggregateId : AggregateId
  payload : JsonValue
  status : CommandStatus
  createdAt : DateTime
  syncedAt : Option DateTime
  error : Option String

structure CommandQueue where
  rows : List QueuedCommand
  -- `id TEXT PRIMARY KEY`
  primaryKey : (rows.map QueuedCommand.id).Nodup

namespace CommandQueue

def new : CommandQueue where
  rows := []
  primaryKey := .nil

-- `INSERT INTO command_queue`, which fails on a row with the same key; the failure is logged.
def insert (self : CommandQueue) (cmd : QueuedCommand) : CommandQueue :=
  if h : cmd.id ∈ self.rows.map QueuedCommand.id then
    self
  else
    {
      rows := self.rows ++ [cmd]
      primaryKey := by
        rw [List.map_append, List.nodup_append]
        refine ⟨self.primaryKey, List.nodup_singleton _, ?_⟩
        intro id hid id' hid' heq
        rw [List.map_singleton, List.mem_singleton] at hid'
        exact h (hid' ▸ heq ▸ hid)
    }

-- `UPDATE command_queue SET ... WHERE id = ?1`, for a `SET` that leaves the key alone
def update (self : CommandQueue) (id : Uuid) (set : QueuedCommand → QueuedCommand)
    (hset : ∀ cmd, (set cmd).id = cmd.id)
    : CommandQueue where
  rows := self.rows.map fun cmd => if cmd.id = id then set cmd else cmd
  primaryKey := by
    have hids : (fun cmd => QueuedCommand.id (if cmd.id = id then set cmd else cmd))
      = QueuedCommand.id := by
      funext cmd
      split
      . exact hset cmd
      . rfl
    rw [List.map_map, Function.comp_def, hids]
    exact self.primaryKey

-- `id` is the `Uuid::now_v7()` of the call and `createdAt` its `Utc::now()`.
def enqueue (self : CommandQueue) (tenantId : TenantId) (commandType : String)
    (aggregateId : AggregateId)
    (payload : JsonValue) (id : Uuid) (createdAt : DateTime)
    : QueuedCommand × CommandQueue :=
  let cmd := {
    id
    tenantId
    commandType
    aggregateId
    payload
    status := .pending
    createdAt
    syncedAt := none
    error := none
  }
  (cmd, self.insert cmd)

def isListed (tenantId : TenantId) (cmd : QueuedCommand) : Bool :=
  cmd.tenantId = tenantId ∧ (cmd.status = .pending ∨ cmd.status = .failed)

-- Rows that were created at the same time come in some order.
def listPending (self : CommandQueue) (tenantId : TenantId) : List QueuedCommand :=
  (self.rows.filter (isListed tenantId)).insertionSort
    fun a b => a.createdAt.nanos ≤ b.createdAt.nanos

def updateStatus (self : CommandQueue) (id : Uuid) (status : CommandStatus)
    (syncedAt : Option DateTime)
    : CommandQueue :=
  self.update id (fun cmd => { cmd with status, syncedAt }) (fun _ => rfl)

def markSyncing (self : CommandQueue) (id : Uuid) : CommandQueue :=
  self.updateStatus id .syncing none

def markSynced (self : CommandQueue) (id : Uuid) (now : DateTime) : CommandQueue :=
  self.updateStatus id .synced (some now)

def markFailed (self : CommandQueue) (id : Uuid) (error : String) : CommandQueue :=
  self.update id (fun cmd => { cmd with status := .failed, error := some error }) (fun _ => rfl)

-- `AND status = 'Failed'`
def retryFailed (self : CommandQueue) (id : Uuid) : CommandQueue :=
  self.update id
    (fun cmd => if cmd.status = .failed then { cmd with status := .pending, error := none }
      else cmd)
    (fun cmd => by split <;> rfl)

end CommandQueue

end ForgeErp
