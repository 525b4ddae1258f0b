import ForgeErp.Ai.InventoryAnomaly
import ForgeErp.EventStore.Impl.Query
import ForgeErp.Jobs.Types
import ForgeErp.Library.Machine

/-!
This module contains the thread that looks for anomalies every `interval`. Whatever it reads from
its surroundings (the clock, the channels, the read model) is handed to it, one iteration at a time.
-/

namespace ForgeErp

inductive TenantScope where
  | any
  | tenant (tenantId : TenantId)
  deriving DecidableEq, Repr

def TenantScope.allows (self : TenantScope) (tenantId : TenantId) : Bool :=
  match self with
  | .any => true
  | .tenant t => t = tenantId

-- `AiScheduler::run`
def TenantScope.run [FloatText] [TextFormat Uuid] (overflowChecks : Bool) (self : TenantScope)
    (job : InventoryAnomalyJob)
    : Option (Except AiError AiResult) :=
  if !self.allows job.tenantId then
    some (.error (.invalidInput "tenant scope violation (job tenant not allowed by scheduler)"))
  else
    job.run overflowChecks

-- `std::time::Instant`, counted from some moment in the past.
structure Instant where
  nanos : Nat
  deriving DecidableEq, Repr

-- How a loop is after so many rounds.
inductive Loop (α : Type) where
  | running
  | panicked
  | ended (a : α)

-- `instant + duration`, which panics past `latest`, the last instant the platform can represent.
def Instant.add (latest : Nat) (self : Instant) (duration : Duration) : Option Instant :=
  if self.nanos + duration.nanos ≤ latest then some ⟨self.nanos + duration.nanos⟩ else none

structure InventoryAnomalyRunner where
  interval : Duration
  maxRetries : UInt32
  baseBackoff : Duration
  window : UInt64
  zThreshold : Float

namespace InventoryAnomalyRunner

def default : InventoryAnomalyRunner where
  interval := ⟨60 * 10 ^ 9⟩
  maxRetries := 5
  baseBackoff := ⟨250 * 10 ^ 6⟩
  window := 10
  zThreshold := 3.0

-- The minimum makes up for the saturation of the product.
def backoff (base : Duration) (attempt : UInt32) : Duration :=
  let pow := 2 ^ min (attempt.toNat - 1) 10
  let ms := base.nanos / 10 ^ 6 * pow
  ⟨min ms 10000 * 10 ^ 6⟩

-- `while next_tick <= now { next_tick += cfg.interval; }`
def catchUp (latest : Nat) (interval : Duration) (now : Instant) (fuel : Nat) (nextTick : Instant)
    : Loop Instant :=
  match fuel with
  | 0 => .running
  | fuel + 1 =>
    if nextTick.nanos ≤ now.nanos then
      match nextTick.add latest interval with
      | none => .panicked
      | some nextTick => catchUp latest interval now fuel nextTick
    else
      .ended nextTick

structure State where
  nextTick : Instant
  pending : Bool
  failures : UInt32
  backoffUntil : Option Instant
  emitted : List AiResult
  stopped : Bool

-- `now` is read at the top, `gateNow` at the backoff gate and `retryNow` after a failure.
structure Iteration where
  shutdown : Bool
  now : Instant
  triggered : Bool
  gateNow : Instant
  snapshot : Except AiError InventorySnapshot
  retryNow : Instant

variable (overflowChecks : Bool) (latest : Nat) (cfg : InventoryAnomalyRunner)

def start (now : Instant) : Option State :=
  (now.add latest cfg.interval).map fun nextTick => {
    nextTick
    pending := true
    failures := 0
    backoffUntil := none
    emitted := []
    stopped := false
  }

def tick (fuel : Nat) (s : State) (now : Instant) : Loop State :=
  if s.nextTick.nanos ≤ now.nanos then
    match catchUp latest cfg.interval now fuel s.nextTick with
    | .running => .running
    | .panicked => .panicked
    | .ended nextTick => .ended { s with pending := true, nextTick }
  else
    .ended s

-- The arms for a snapshot that is not there and for a job that failed.
def fail (s : State) (retryNow : Instant) : Loop State :=
  match addU32 overflowChecks s.failures 1 with
  | none => .panicked
  | some failures =>
    if failures ≤ cfg.maxRetries then
      match retryNow.add latest (backoff cfg.baseBackoff failures) with
      | none => .panicked
      | some deadline => .ended { s with failures, pending := true, backoffUntil := some deadline }
    else
      .ended { s with failures := 0 }

variable [FloatText] [TextFormat Uuid] (tenantId : TenantId)

def work (s : State) (it : Iteration) : Loop State :=
  let s := { s with pending := false }
  match it.snapshot with
  | .error _ => fail overflowChecks latest cfg s it.retryNow
  | .ok snapshot =>
    let job := ((InventoryAnomalyJob.new tenantId snapshot).withWindow cfg.window).withZThreshold
      cfg.zThreshold
    match (TenantScope.tenant tenantId).run overflowChecks job with
    | none => .panicked
    | some (.ok result) => .ended { s with failures := 0, emitted := s.emitted ++ [result] }
    | some (.error _) => fail overflowChecks latest cfg s it.retryNow

def iterate (fuel : Nat) (s : State) (it : Iteration) : Loop State :=
  if it.shutdown then
    .ended { s with stopped := true }
  else
    match tick latest cfg fuel s it.now with
    | .running => .running
    | .panicked => .panicked
    | .ended s =>
      let s := if it.triggered then { s with pending := true } else s
      let gated := s.backoffUntil.any (fun deadline => it.gateNow.nanos < deadline.nanos)
      if gated then
        .ended s
      else
        let s := { s with backoffUntil := none }
        if !s.pending then
          .ended s
        else
          work overflowChecks latest cfg tenantId s it

-- The thread with its first and its latest reading of the clock, which never goes back.
structure Thread where
  startedAt : Instant
  lastNow : Instant
  state : State

def runnerLoop : Machine Thread (Nat × Iteration) where
  init t := t.lastNow = t.startedAt ∧ start latest cfg t.startedAt = some t.state
  step t action :=
    let (fuel, it) := action
    -- a shutdown comes before the clock is read
    let now := if it.shutdown then t.lastNow else it.now
    if t.state.stopped || now.nanos < t.lastNow.nanos then
      none
    else
      match iterate overflowChecks latest cfg tenantId fuel t.state it with
      | .ended state => some { t with lastNow := now, state }
      | _ => none

end InventoryAnomalyRunner

end ForgeErp
