import ForgeErp.Jobs.Store

/-!
This module contains the job executor: how the handler of a job is found, and what becomes of a job
that has been claimed. `execute_one` and `execute_job` are written out separately, as they are in
the source.
-/

namespace ForgeErp

-- The text that `{:?}` gives.
class DebugFormat (α : Type) where
  debug : α → String

abbrev JobHandler : Type :=
  Job → JobResult

structure JobExecutor where
  handlers : KeyMap String JobHandler

structure ExecutorStats where
  jobsProcessed : Nat
  jobsSucceeded : Nat
  jobsFailed : Nat
  jobsDeadLettered : Nat
  currentRunning : Nat
  deriving DecidableEq, Repr

namespace JobExecutor

def new : JobExecutor :=
  ⟨.empty⟩

def registerHandler (self : JobExecutor) (kindPattern : String) (handler : JobHandler)
    : JobExecutor :=
  ⟨self.handlers.insert kindPattern handler⟩

-- `pattern.ends_with(".*")` and `type_name.starts_with(&pattern[..pattern.len() - 2])`
def inCategory (pattern typeName : String) : Bool :=
  ['.', '*'].isSuffixOf pattern.toList
    && (pattern.toList.take (pattern.toList.length - 2)).isPrefixOf typeName.toList

def getHandler (self : JobExecutor) (ks : List String) (kind : JobKind) : Option JobHandler :=
  let typeName := kind.typeName
  match self.handlers.get typeName with
  | some handler => some handler
  | none =>
    let category := ks.findSome? fun pattern =>
      if inCategory pattern typeName then self.handlers.get pattern else none
    match category with
    | some handler => some handler
    | none => self.handlers.get "*"

variable [Backoff] [DebugFormat JobKind] [TextFormat Uuid]

/--
`clock` gives the readings of the clock in the order in which they are made.
-/
def executeOne (self : JobExecutor) (ks : List String) (clock : Nat → DateTime)
    (store : InMemoryJobStore) (job : Job)
    : Except String Unit × Job × InMemoryJobStore :=
  match self.getHandler ks job.kind with
  | none =>
    let kind := DebugFormat.debug job.kind
    (.error s!"no handler for job kind: {kind}", job, store)
  | some handler =>
    let started := clock 0
    let job := job.markRunning (clock 1)
    match handler job with
    | .success =>
      let job := job.markCompleted started (clock 2)
      match store.update job with
      | (.error e, store) => (.error e.toString, job, store)
      | (.ok (), store) => (.ok (), job, store)
    | .failure error =>
      let job := job.markFailed error started (clock 2)
      match store.update job with
      | (.error e, store) => (.error e.toString, job, store)
      | (.ok (), store) =>
        if job.status.isDeadLettered then
          (.error error, job, store.deadLetter job error (clock 3) (clock 4))
        else
          (.error error, job, store)
    | .retryNow =>
      let job := { job.markFailed "retry requested" started (clock 2) with scheduledAt := none }
      match store.update job with
      | (.error e, store) => (.error e.toString, job, store)
      | (.ok (), store) => (.error "retry requested", job, store)
    | .retryAfter delay =>
      let job := { job.markFailed "retry after delay" started (clock 2) with
        scheduledAt := some ((clock 3).after delay) }
      match store.update job with
      | (.error e, store) => (.error e.toString, job, store)
      | (.ok (), store) => (.error "retry after delay", job, store)

def executeJob (executor : JobExecutor) (ks : List String) (clock : Nat → DateTime)
    (store : InMemoryJobStore) (job : Job)
    : Except String Unit × Job × InMemoryJobStore :=
  match executor.getHandler ks job.kind with
  | none =>
    let kind := DebugFormat.debug job.kind
    let error := s!"no handler for job kind: {kind}"
    let job := job.markFailed error (clock 0) (clock 1)
    (.error error, job, (store.update job).2)
  | some handler =>
    let started := clock 0
    match handler job with
    | .success =>
      let job := job.markCompleted started (clock 1)
      match store.update job with
      | (.error e, store) => (.error e.toString, job, store)
      | (.ok (), store) => (.ok (), job, store)
    | .failure error =>
      let job := job.markFailed error started (clock 1)
      match store.update job with
      | (.error e, store) => (.error e.toString, job, store)
      | (.ok (), store) =>
        if job.status.isDeadLettered then
          (.error error, job, store.deadLetter job error (clock 2) (clock 3))
        else
          (.error error, job, store)
    | .retryNow =>
      let job := { job.markFailed "retry requested" started (clock 1) with scheduledAt := none }
      match store.update job with
      | (.error e, store) => (.error e.toString, job, store)
      | (.ok (), store) => (.error "retry requested", job, store)
    | .retryAfter delay =>
      let job := { job.markFailed "retry after delay" started (clock 1) with
        scheduledAt := some ((clock 2).after delay) }
      match store.update job with
      | (.error e, store) => (.error e.toString, job, store)
      | (.ok (), store) => (.error "retry after delay", job, store)

/--
`execute_job` up to its first call of the store: the job to be stored, and the reason for which it
is then moved to the dead letters, if it is.
-/
def settle (executor : JobExecutor) (ks : List String) (clock : Nat → DateTime) (job : Job)
    : Job × Option String :=
  match executor.getHandler ks job.kind with
  | none =>
    let kind := DebugFormat.debug job.kind
    (job.markFailed s!"no handler for job kind: {kind}" (clock 0) (clock 1), none)
  | some handler =>
    match handler job with
    | .success => (job.markCompleted (clock 0) (clock 1), none)
    | .failure error =>
      let job := job.markFailed error (clock 0) (clock 1)
      (job, if job.status.isDeadLettered then some error else none)
    | .retryNow =>
      ({ job.markFailed "retry requested" (clock 0) (clock 1) with scheduledAt := none }, none)
    | .retryAfter delay =>
      ({ job.markFailed "retry after delay" (clock 0) (clock 1) with
        scheduledAt := some ((clock 2).after delay) }, none)

def finish (clock : Nat → DateTime) (store : InMemoryJobStore) (settled : Job × Option String)
    : InMemoryJobStore :=
  match store.update settled.1 with
  | (.error _, store) => store
  | (.ok (), store) =>
    match settled.2 with
    | some reason => store.deadLetter settled.1 reason (clock 2) (clock 3)
    | none => store

def record (stats : ExecutorStats) (result : Except String Unit) (job : Job) : ExecutorStats :=
  let stats := { stats with
    currentRunning := stats.currentRunning - 1
    jobsProcessed := stats.jobsProcessed + 1 }
  match result with
  | .ok () => { stats with jobsSucceeded := stats.jobsSucceeded + 1 }
  | .error _ =>
    let stats := { stats with jobsFailed := stats.jobsFailed + 1 }
    if job.status.isTerminal then
      if job.status.isDeadLettered then
        { stats with jobsDeadLettered := stats.jobsDeadLettered + 1 }
      else
        stats
    else
      stats

/--
One round of `executor_loop`.
-/
def executorLoop (executor : JobExecutor) (tenantId : Option TenantId) (order : List JobId)
    (claimedAt : DateTime) (ks : List String) (clock : Nat → DateTime)
    (s : InMemoryJobStore × ExecutorStats)
    : InMemoryJobStore × ExecutorStats :=
  match s.1.claimNext tenantId order claimedAt with
  | (some job, store) =>
    let stats := { s.2 with currentRunning := s.2.currentRunning + 1 }
    let (result, job, store) := executeJob executor ks clock store job
    (store, record stats result job)
  | (none, store) => (store, s.2)

end JobExecutor

namespace Concrete

-- As far as policies with a fixed delay and no jitter need it.
scoped instance : Backoff where
  delayForAttempt policy attempt := if attempt = 0 then ⟨0⟩ else policy.baseDelay

-- As far as kinds need it whose names have nothing to escape.
scoped instance : DebugFormat JobKind where
  debug
    | .aiInference jobType => "AiInference " ++ (s!" job_type: \"{jobType}\" ").braced
    | .projectionRebuild projectionName =>
      "ProjectionRebuild " ++ (s!" projection_name: \"{projectionName}\" ").braced
    | .sagaStep sagaType stepName =>
      "SagaStep " ++ (s!" saga_type: \"{sagaType}\", step_name: \"{stepName}\" ").braced
    | .custom kind => "Custom " ++ (s!" kind: \"{kind}\" ").braced

end Concrete

end ForgeErp
