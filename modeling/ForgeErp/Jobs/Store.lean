import ForgeErp.Jobs.Types
import ForgeErp.Library.Table
import Mathlib.Data.List.Sort

/-!
This module contains the in-memory job store. What cannot fail returns no `Result`. Whoever iterates
over a hash map is handed the order in which it is visited, as an enumeration of its keys.
-/

namespace ForgeErp

inductive JobStoreError where
  | notFound (jobId : JobId)
  | tenantIsolation
  | alreadyExists (jobId : JobId)
  | storage (msg : String)
  deriving DecidableEq

def JobStoreError.toString [TextFormat Uuid] (self : JobStoreError) : String :=
  match self with
  | .notFound jobId => "job not found: " ++ TextFormat.print jobId.asUuid
  | .tenantIsolation => "tenant isolation violation"
  | .alreadyExists jobId => "job already exists: " ++ TextFormat.print jobId.asUuid
  | .storage msg => "storage error: " ++ msg

structure JobStats where
  pending : Nat
  running : Nat
  completed : Nat
  failed : Nat
  deadLettered : Nat
  cancelled : Nat
  deriving DecidableEq, Repr

def JobStats.count (stats : JobStats) (status : JobStatus) : JobStats :=
  match status with
  | .pending => { stats with pending := stats.pending + 1 }
  | .running => { stats with running := stats.running + 1 }
  | .completed => { stats with completed := stats.completed + 1 }
  | .failed _ _ => { stats with failed := stats.failed + 1 }
  | .deadLettered _ _ => { stats with deadLettered := stats.deadLettered + 1 }
  | .cancelled => { stats with cancelled := stats.cancelled + 1 }

-- `std::mem::discriminant`
def JobStatus.sameVariant (a b : JobStatus) : Bool :=
  match a, b with
  | .pending, .pending => true
  | .running, .running => true
  | .completed, .completed => true
  | .failed _ _, .failed _ _ => true
  | .deadLettered _ _, .deadLettered _ _ => true
  | .cancelled, .cancelled => true
  | _, _ => false

def DeadLetterEntry.id (entry : DeadLetterEntry) : JobId :=
  entry.job.id

structure InMemoryJobStore where
  jobs : Table Job.id
  deadLetters : Table DeadLetterEntry.id

namespace InMemoryJobStore

def new : InMemoryJobStore where
  jobs := .empty
  deadLetters := .empty

def enqueue (store : InMemoryJobStore) (job : Job)
    : Except JobStoreError JobId × InMemoryJobStore :=
  match store.jobs.get job.id with
  | some _ => (.error (.alreadyExists job.id), store)
  | none => (.ok job.id, { store with jobs := store.jobs.insert job })

def get (store : InMemoryJobStore) (tenantId : TenantId) (jobId : JobId)
    : Except JobStoreError (Option Job) :=
  match store.jobs.get jobId with
  | some job => if job.tenantId = tenantId then .ok (some job) else .error .tenantIsolation
  | none => .ok none

def update (store : InMemoryJobStore) (job : Job) : Except JobStoreError Unit × InMemoryJobStore :=
  match store.jobs.get job.id with
  | none => (.error (.notFound job.id), store)
  | some _ => (.ok (), { store with jobs := store.jobs.insert job })

def claimable (tenantId : Option TenantId) (now : DateTime) (job : Job) : Bool :=
  (match job.status with
    | .pending | .failed _ _ => true
    | _ => false)
  && job.isReady now
  && (match tenantId with
    | some tenantId => job.tenantId == tenantId
    | none => true)

def CreatedOrder (a b : Job) : Prop :=
  a.createdAt.nanos ≤ b.createdAt.nanos

instance : DecidableRel CreatedOrder :=
  fun a b => inferInstanceAs (Decidable (a.createdAt.nanos ≤ b.createdAt.nanos))

/--
The whole call is made at one instant, under the lock of the jobs.
-/
def claimNext (store : InMemoryJobStore) (tenantId : Option TenantId) (ks : List JobId)
    (now : DateTime)
    : Option Job × InMemoryJobStore :=
  let candidates := (store.jobs.values ks).filter (claimable tenantId now)
  match (candidates.insertionSort CreatedOrder).head? with
  | some job =>
    match store.jobs.get job.id with
    | some job =>
      let job := job.markRunning now
      (some job, { store with jobs := store.jobs.insert job })
    | none => (none, store)
  | none => (none, store)

def listByStatus (store : InMemoryJobStore) (tenantId : TenantId) (status : Option JobStatus)
    (limit : Nat) (ks : List JobId)
    : List Job :=
  let result := (store.jobs.values ks).filter fun job =>
    job.tenantId == tenantId &&
      match status with
      | some status => job.status.sameVariant status
      | none => true
  (result.insertionSort CreatedOrder).take limit

def listByKind (store : InMemoryJobStore) (tenantId : TenantId) (kind : JobKind) (limit : Nat)
    (ks : List JobId)
    : List Job :=
  let result := (store.jobs.values ks).filter
    fun job => job.tenantId == tenantId && job.kind == kind
  (result.insertionSort CreatedOrder).take limit

def deadLetter (store : InMemoryJobStore) (job : Job) (reason : String)
    (now deadLetteredAt : DateTime)
    : InMemoryJobStore :=
  let job := { job with
    status := .deadLettered reason job.attempt
    updatedAt := now }
  { jobs := store.jobs.erase job.id
    deadLetters := store.deadLetters.insert { job, deadLetteredAt, reason } }

def DeadLetteredOrder (a b : DeadLetterEntry) : Prop :=
  a.deadLetteredAt.nanos ≤ b.deadLetteredAt.nanos

instance : DecidableRel DeadLetteredOrder :=
  fun a b => inferInstanceAs (Decidable (a.deadLetteredAt.nanos ≤ b.deadLetteredAt.nanos))

def listDeadLetters (store : InMemoryJobStore) (tenantId : TenantId) (limit : Nat) (ks : List JobId)
    : List DeadLetterEntry :=
  let result := (store.deadLetters.values ks).filter fun entry => entry.job.tenantId == tenantId
  (result.insertionSort DeadLetteredOrder).take limit

def retried (job : Job) (now : DateTime) : Job :=
  { job with
    status := .pending
    attempt := 0
    scheduledAt := none
    updatedAt := now
    history := [] }

-- An entry of another tenant is taken out and put back.
def retryDeadLetter (store : InMemoryJobStore) (tenantId : TenantId)
    (jobId : JobId) (now : DateTime)
    : Except JobStoreError Job × InMemoryJobStore :=
  match store.deadLetters.get jobId with
  | none => (.error (.notFound jobId), store)
  | some entry =>
    let deadLetters := store.deadLetters.erase jobId
    if entry.job.tenantId ≠ tenantId then
      (.error .tenantIsolation, { store with deadLetters := deadLetters.insert entry })
    else
      let job := retried entry.job now
      (.ok job, { jobs := store.jobs.insert job, deadLetters })

def deleteDeadLetter (store : InMemoryJobStore) (tenantId : TenantId) (jobId : JobId)
    : Except JobStoreError Unit × InMemoryJobStore :=
  match store.deadLetters.get jobId with
  | none => (.error (.notFound jobId), store)
  | some entry =>
    if entry.job.tenantId ≠ tenantId then
      (.error .tenantIsolation, store)
    else
      (.ok (), { store with deadLetters := store.deadLetters.erase jobId })

def stats (store : InMemoryJobStore) (tenantId : TenantId) (ks dls : List JobId) : JobStats :=
  let stats := (store.jobs.values ks).foldl
    (fun stats job => if job.tenantId ≠ tenantId then stats else stats.count job.status)
    ⟨0, 0, 0, 0, 0, 0⟩
  (store.deadLetters.values dls).foldl
    (fun stats entry =>
      if entry.job.tenantId = tenantId then
        { stats with deadLettered := stats.deadLettered + 1 }
      else
        stats)
    stats

end InMemoryJobStore

end ForgeErp
