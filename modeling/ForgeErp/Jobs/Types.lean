import ForgeErp.Core.Serde

/-!
This module contains the background jobs and what their life is made of. `attempt` wraps, as it does
in a release build. Times are handed to whatever reads the clock.
-/

namespace ForgeErp

structure JobId where
  asUuid : Uuid
  deriving DecidableEq, Repr

-- `std::time::Duration`
structure Duration where
  nanos : Nat
  deriving DecidableEq, Repr

-- `now + chrono::Duration::from_std(delay).unwrap_or_default()`
def DateTime.after (now : DateTime) (delay : Duration) : DateTime :=
  if delay.nanos ≤ (2 ^ 63 - 1) * 1000000 then
    ⟨now.nanos + delay.nanos⟩
  else
    now

inductive JobKind where
  | aiInference (jobType : String)
  | projectionRebuild (projectionName : String)
  | sagaStep (sagaType stepName : String)
  | custom (kind : String)
  deriving DecidableEq, Repr

def JobKind.typeName (self : JobKind) : String :=
  match self with
  | .aiInference jobType => jobType
  | .projectionRebuild projectionName => projectionName
  | .sagaStep sagaType _ => sagaType
  | .custom kind => kind

inductive JobStatus where
  | pending
  | running
  | completed
  | failed (error : String) (attempt : UInt32)
  | deadLettered (error : String) (attempts : UInt32)
  | cancelled
  deriving DecidableEq, Repr

namespace JobStatus

def isTerminal (self : JobStatus) : Bool :=
  match self with
  | .completed | .deadLettered _ _ | .cancelled => true
  | _ => false

def isRetriable (self : JobStatus) : Bool :=
  match self with
  | .failed _ _ => true
  | _ => false

def isDeadLettered (self : JobStatus) : Bool :=
  match self with
  | .deadLettered _ _ => true
  | _ => false

end JobStatus

inductive BackoffStrategy where
  | fixed
  | exponential
  | linear
  deriving DecidableEq, Repr

structure RetryPolicy where
  maxAttempts : UInt32
  baseDelay : Duration
  maxDelay : Duration
  strategy : BackoffStrategy
  -- the bits of an `f64`
  jitter : BitVec 64
  deriving DecidableEq, Repr

/--
The delays are computed in floating point and enter as a parameter.
-/
class Backoff where
  delayForAttempt : RetryPolicy → UInt32 → Duration

def RetryPolicy.shouldRetry (self : RetryPolicy) (attempt : UInt32) : Bool :=
  attempt < self.maxAttempts

structure JobAttemptRecord where
  attempt : UInt32
  startedAt : DateTime
  finishedAt : DateTime
  success : Bool
  error : Option String
  durationMs : UInt64
  deriving DecidableEq, Repr

structure Job where
  id : JobId
  tenantId : TenantId
  kind : JobKind
  payload : JsonValue
  status : JobStatus
  retryPolicy : RetryPolicy
  attempt : UInt32
  createdAt : DateTime
  updatedAt : DateTime
  scheduledAt : Option DateTime
  history : List JobAttemptRecord

namespace Job

def new (id : JobId) (tenantId : TenantId) (kind : JobKind) (payload : JsonValue)
    (retryPolicy : RetryPolicy) (now : DateTime)
    : Job where
  id
  tenantId
  kind
  payload
  status := .pending
  retryPolicy
  attempt := 0
  createdAt := now
  updatedAt := now
  scheduledAt := none
  history := []

def isReady (self : Job) (now : DateTime) : Bool :=
  match self.scheduledAt with
  | some at_ => at_.nanos ≤ now.nanos
  | none => true

def markRunning (self : Job) (now : DateTime) : Job :=
  { self with
    status := .running
    attempt := self.attempt + 1
    updatedAt := now }

-- `(now - started_at).num_milliseconds().max(0) as u64`
def durationMs (startedAt now : DateTime) : UInt64 :=
  .ofNat ((now.nanos - startedAt.nanos).tdiv 1000000).toNat

def markCompleted (self : Job) (startedAt now : DateTime) : Job :=
  { self with
    status := .completed
    updatedAt := now
    history := self.history ++ [{
      attempt := self.attempt
      startedAt
      finishedAt := now
      success := true
      error := none
      durationMs := durationMs startedAt now
    }] }

def markFailed [Backoff] (self : Job) (error : String) (startedAt now : DateTime) : Job :=
  let self : Job := { self with
    updatedAt := now
    history := self.history ++ [{
      attempt := self.attempt
      startedAt
      finishedAt := now
      success := false
      error := some error
      durationMs := durationMs startedAt now
    }] }
  if self.retryPolicy.shouldRetry self.attempt then
    let delay := Backoff.delayForAttempt self.retryPolicy self.attempt
    { self with
      scheduledAt := some (now.after delay)
      status := .failed error self.attempt }
  else
    { self with status := .deadLettered error self.attempt }

def markCancelled (self : Job) (now : DateTime) : Job :=
  { self with
    status := .cancelled
    updatedAt := now }

end Job

inductive JobResult where
  | success
  | failure (error : String)
  | retryNow
  | retryAfter (delay : Duration)

structure DeadLetterEntry where
  job : Job
  deadLetteredAt : DateTime
  reason : String

end ForgeErp
