import ForgeErp.Jobs.Executor
import ForgeErp.Library.Machine

/-!
This module contains any number of executors and cancelling clients on one job store. Each call of
the store is a step of its own, and between two calls everybody works on a private copy of a job.
-/

namespace ForgeErp

inductive ExecutorPhase where
  | idle
  | claimed (job : Job)
  -- the handler is through, `update` is next
  | settled (job : Job) (reason : Option String)
  -- `update` is through, `dead_letter` is next
  | burying (job : Job) (reason : String)

namespace ExecutorPhase

def job? (self : ExecutorPhase) : Option Job :=
  match self with
  | .idle => none
  | .claimed job => some job
  | .settled job _ => some job
  | .burying job _ => some job

end ExecutorPhase

inductive FloorEvent where
  | handedOut (who : Nat) (job : Job)
  | stored (who : Nat) (job : Job)

namespace FloorEvent

def job (self : FloorEvent) : Job :=
  match self with
  | .handedOut _ job => job
  | .stored _ job => job

def handout? (self : FloorEvent) : Option (JobId × UInt32) :=
  match self with
  | .handedOut _ job => some (job.id, job.attempt)
  | .stored _ _ => none

end FloorEvent

structure JobFloor where
  store : InMemoryJobStore
  executors : Nat → ExecutorPhase
  clients : Nat → Option Job
  -- every identifier under which a job has been enqueued
  used : List JobId
  -- what executors have been handed and have stored, the latest first
  log : List FloorEvent

inductive JobMove where
  | enqueue (job : Job)
  | claimNext (who : Nat) (tenantId : Option TenantId) (order : List JobId) (now : DateTime)
  | handle (who : Nat) (executor : JobExecutor) (ks : List String) (clock : Nat → DateTime)
  | update (who : Nat)
  | deadLetter (who : Nat) (now deadLetteredAt : DateTime)
  | get (client : Nat) (tenantId : TenantId) (jobId : JobId)
  | cancel (client : Nat) (now : DateTime)

namespace JobFloor

def opened (store : InMemoryJobStore) : JobFloor where
  store
  executors _ := .idle
  clients _ := none
  used := []
  log := []

def setExecutor (s : JobFloor) (who : Nat) (phase : ExecutorPhase) : JobFloor :=
  { s with executors := fun n => if n = who then phase else s.executors n }

def setClient (s : JobFloor) (client : Nat) (job : Option Job) : JobFloor :=
  { s with clients := fun n => if n = client then job else s.clients n }

variable [Backoff] [DebugFormat JobKind]

def step (s : JobFloor) (move : JobMove) : Option JobFloor :=
  match move with
  | .enqueue job =>
    some { s with store := (s.store.enqueue job).2, used := job.id :: s.used }
  | .claimNext who tenantId order now =>
    match s.executors who with
    | .idle =>
      match s.store.claimNext tenantId order now with
      | (some job, store) =>
        some ({ s with store, log := .handedOut who job :: s.log }.setExecutor who (.claimed job))
      | (none, store) => some { s with store }
    | _ => none
  | .handle who executor ks clock =>
    match s.executors who with
    | .claimed job =>
      let (job, reason) := executor.settle ks clock job
      some (s.setExecutor who (.settled job reason))
    | _ => none
  | .update who =>
    match s.executors who with
    | .settled job reason =>
      match s.store.update job with
      | (.error _, store) => some ({ s with store }.setExecutor who .idle)
      | (.ok (), store) =>
        let phase :=
          match reason with
          | some reason => .burying job reason
          | none => .idle
        some ({ s with store, log := .stored who job :: s.log }.setExecutor who phase)
    | _ => none
  | .deadLetter who now deadLetteredAt =>
    match s.executors who with
    | .burying job reason =>
      let store := s.store.deadLetter job reason now deadLetteredAt
      some ({ s with store }.setExecutor who .idle)
    | _ => none
  | .get client tenantId jobId =>
    match s.store.get tenantId jobId with
    | .ok job => some (s.setClient client job)
    | .error _ => some (s.setClient client none)
  | .cancel client now =>
    match s.clients client with
    | some job =>
      let store := (s.store.update (job.markCancelled now)).2
      some ({ s with store }.setClient client none)
    | none => none

def runs (store : InMemoryJobStore) : Machine JobFloor JobMove where
  init s := s = opened store
  step := step

end JobFloor

end ForgeErp
