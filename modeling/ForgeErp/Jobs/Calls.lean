import ForgeErp.Jobs.Executor
import ForgeErp.Library.Machine

/-!
This module contains the runs of a job store that is called by its clients and by executors, one
call after the other. `execute_job` counts as one call. Its second half has the store by itself, and
all of its calls.
-/

namespace ForgeErp

structure JobDesk where
  store : InMemoryJobStore
  -- handed out by `claim_next` and not executed yet
  claimed : List Job
  -- enqueued and not deleted
  known : List JobId
  -- out of attempts, and neither retried nor deleted since
  exhausted : List JobId
  -- how often the handler has been invoked since the job was enqueued or retried
  invoked : JobId → Nat

inductive JobCall where
  | enqueue (job : Job)
  | claimNext (tenantId : Option TenantId) (order : List JobId) (now : DateTime)
  | executeJob (n : Nat) (executor : JobExecutor) (ks : List String) (clock : Nat → DateTime)
  | retryDeadLetter (tenantId : TenantId) (jobId : JobId) (now : DateTime)
  | deleteDeadLetter (tenantId : TenantId) (jobId : JobId)

namespace JobDesk

def new : JobDesk where
  store := .new
  claimed := []
  known := []
  exhausted := []
  invoked _ := 0

def setInvoked (invoked : JobId → Nat) (jobId : JobId) (n : Nat) : JobId → Nat :=
  fun id => if id = jobId then n else invoked id

def without (ids : List JobId) (jobId : JobId) : List JobId :=
  ids.filter (· ≠ jobId)

variable [Backoff] [DebugFormat JobKind] [TextFormat Uuid]

def execute (s : JobDesk) (n : Nat) (job : Job) (executor : JobExecutor) (ks : List String)
    (clock : Nat → DateTime)
    : JobDesk :=
  let (_, settled, store) := executor.executeJob ks clock s.store job
  { s with
    store
    claimed := s.claimed.eraseIdx n
    exhausted := if settled.status.isDeadLettered then job.id :: s.exhausted else s.exhausted
    invoked :=
      match executor.getHandler ks job.kind with
      | some _ => setInvoked s.invoked job.id (s.invoked job.id + 1)
      | none => s.invoked }

def step (s : JobDesk) (call : JobCall) : Option JobDesk :=
  match call with
  | .enqueue job =>
    match s.store.enqueue job with
    | (.ok jobId, store) =>
      some { s with store, known := jobId :: s.known, invoked := setInvoked s.invoked jobId 0 }
    | (.error _, store) => some { s with store }
  | .claimNext tenantId order now =>
    match s.store.claimNext tenantId order now with
    | (some job, store) => some { s with store, claimed := s.claimed ++ [job] }
    | (none, store) => some { s with store }
  | .executeJob n executor ks clock =>
    s.claimed[n]?.map fun job => s.execute n job executor ks clock
  | .retryDeadLetter tenantId jobId now =>
    match s.store.retryDeadLetter tenantId jobId now with
    | (.ok _, store) =>
      some { s with
        store
        exhausted := without s.exhausted jobId
        invoked := setInvoked s.invoked jobId 0 }
    | (.error _, store) => some { s with store }
  | .deleteDeadLetter tenantId jobId =>
    match s.store.deleteDeadLetter tenantId jobId with
    | (.ok _, store) =>
      some { s with store, known := without s.known jobId, exhausted := without s.exhausted jobId }
    | (.error _, store) => some { s with store }

def runs : Machine JobDesk JobCall where
  init s := s = .new
  step := step

end JobDesk

inductive JobStoreCall where
  | enqueue (job : Job)
  | get (tenantId : TenantId) (jobId : JobId)
  | update (job : Job)
  | claimNext (tenantId : Option TenantId) (order : List JobId) (now : DateTime)
  | listByStatus (tenantId : TenantId) (status : Option JobStatus) (limit : Nat)
  | listByKind (tenantId : TenantId) (kind : JobKind) (limit : Nat)
  | deadLetter (job : Job) (reason : String) (now deadLetteredAt : DateTime)
  | listDeadLetters (tenantId : TenantId) (limit : Nat)
  | retryDeadLetter (tenantId : TenantId) (jobId : JobId) (now : DateTime)
  | deleteDeadLetter (tenantId : TenantId) (jobId : JobId)
  | stats (tenantId : TenantId)

namespace JobStoreCall

-- The tenant that a call names, as an argument or as the tenant of the job.
def tenant? (self : JobStoreCall) : Option TenantId :=
  match self with
  | .enqueue job => some job.tenantId
  | .get tenantId _ => some tenantId
  | .update job => some job.tenantId
  | .claimNext tenantId _ _ => tenantId
  | .listByStatus tenantId _ _ => some tenantId
  | .listByKind tenantId _ _ => some tenantId
  | .deadLetter job _ _ _ => some job.tenantId
  | .listDeadLetters tenantId _ => some tenantId
  | .retryDeadLetter tenantId _ _ => some tenantId
  | .deleteDeadLetter tenantId _ => some tenantId
  | .stats tenantId => some tenantId

end JobStoreCall

namespace InMemoryJobStore

-- What a call leaves behind. Those that only read take no more than a read lock.
def apply (store : InMemoryJobStore) (call : JobStoreCall) : InMemoryJobStore :=
  match call with
  | .enqueue job => (store.enqueue job).2
  | .get _ _ => store
  | .update job => (store.update job).2
  | .claimNext tenantId order now => (store.claimNext tenantId order now).2
  | .listByStatus _ _ _ => store
  | .listByKind _ _ _ => store
  | .deadLetter job reason now deadLetteredAt => store.deadLetter job reason now deadLetteredAt
  | .listDeadLetters _ _ => store
  | .retryDeadLetter tenantId jobId now => (store.retryDeadLetter tenantId jobId now).2
  | .deleteDeadLetter tenantId jobId => (store.deleteDeadLetter tenantId jobId).2
  | .stats _ => store

def runs : Machine InMemoryJobStore JobStoreCall where
  init store := store = .new
  step store call := some (store.apply call)

end InMemoryJobStore

end ForgeErp
