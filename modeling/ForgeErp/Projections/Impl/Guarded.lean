import ForgeErp.Projections.Impl.Basic

/-!
This module contains the skeleton of the cursor based projections whose events touch any number of
rows. The checks in front of an update are those of `CursorProjection`, except that not all of them
compare the aggregate of the event with the one of the envelope.
-/

namespace ForgeErp

namespace InMemoryTenantStore

variable {K V : Type}

-- `order` is the order in which the hash map happens to be visited.
def list (self : InMemoryTenantStore K V) (order : List (TenantId × K)) (tenantId : TenantId)
    : List V :=
  order.filterMap fun (t, k) => if t = tenantId then self.inner.get (t, k) else none

end InMemoryTenantStore

-- `side` is what a projection keeps besides its rows and cursors.
structure ProjectionWith (K R X : Type) extends Projection K R where
  side : X

namespace ProjectionWith

variable {K R X : Type}

def new (projectionName : String) (side : X) : ProjectionWith K R X where
  toProjection := .new projectionName
  side

def withPersistentCursors (self : ProjectionWith K R X) (cursorStore : CursorTable)
    (projectionName : String)
    : ProjectionWith K R X :=
  { self with toProjection := self.toProjection.withPersistentCursors cursorStore projectionName }

-- What an event may change; the cursors are kept apart from it.
def data (self : ProjectionWith K R X) : InMemoryTenantStore K R × X :=
  (self.store, self.side)

def withData (self : ProjectionWith K R X) (data : InMemoryTenantStore K R × X)
    : ProjectionWith K R X :=
  { self with store := data.1, side := data.2 }

def updateCursor (self : ProjectionWith K R X) (key : StreamKey) (sequenceNumber : Nat)
    : ProjectionWith K R X :=
  { self with toProjection := self.toProjection.updateCursor key sequenceNumber }

def clearTenant (self : ProjectionWith K R X) (tenantId : TenantId) : ProjectionWith K R X :=
  { self with toProjection := self.toProjection.clearTenant tenantId }

end ProjectionWith

/--
What tells the projections apart: `checkId` is the comparison with the aggregate of the envelope,
`update` the effect of an event, and `beforeReplay` what a rebuild does to `side` once the tenants
are cleared.
-/
structure GuardedProjection (K R X E : Type) where
  aggregateType : String
  tenantOf : E → TenantId
  checkId : E → AggregateId → Except String Unit
  update : DateTime → InMemoryTenantStore K R × X → StreamKey → E → InMemoryTenantStore K R × X
  beforeReplay : X → X

namespace GuardedProjection

variable {K R X E : Type} [Codec E] (P : GuardedProjection K R X E)

-- `now` supplies the `Utc::now()` of the call, for those that read the clock.
def applyEnvelope (now : DateTime) (self : ProjectionWith K R X)
    (envelope : EventEnvelope JsonValue)
    : Except ProjectionError Unit × ProjectionWith K R X :=
  if envelope.aggregateType ≠ P.aggregateType then
    (.ok (), self)
  else
    let seq := envelope.sequenceNumber
    let last := self.getCursor envelope.key
    if seq = 0 then
      (.error (.nonMonotonicSequence last seq), self)
    else if seq ≤ last then
      (.ok (), self)
    else if seq ≠ last + 1 ∧ last ≠ 0 then
      (.error (.nonMonotonicSequence last seq), self)
    else
      match (Codec.dec envelope.payload : Except String E) with
      | .error err => (.error (.deserialize err), self)
      | .ok ev =>
        if P.tenantOf ev ≠ envelope.tenantId then
          (.error (.tenantIsolation "event tenant_id does not match envelope tenant_id"), self)
        else
          match P.checkId ev envelope.aggregateId with
          | .error msg => (.error (.tenantIsolation msg), self)
          | .ok () =>
            let self := self.withData (P.update now self.data envelope.key ev)
            (.ok (), self.updateCursor envelope.key seq)

def deliver (self : ProjectionWith K R X) (deliveries : List (DateTime × EventEnvelope JsonValue))
    : ProjectionWith K R X :=
  deliveries.foldl (fun self d => (P.applyEnvelope d.1 self d.2).2) self

def applyAll (now : Nat → DateTime) (idx : Nat) (self : ProjectionWith K R X)
    (envelopes : List (EventEnvelope JsonValue))
    : Except ProjectionError Unit × ProjectionWith K R X :=
  match envelopes with
  | [] => (.ok (), self)
  | env :: envs =>
    match P.applyEnvelope (now idx) self env with
    | (.error err, self) => (.error err, self)
    | (.ok (), self) => applyAll now (idx + 1) self envs

def rebuildFromScratch (now : Nat → DateTime) (self : ProjectionWith K R X)
    (envelopes : List (EventEnvelope JsonValue))
    : Except ProjectionError Unit × ProjectionWith K R X :=
  let self := (CursorProjection.tenantsOf envelopes).foldl ProjectionWith.clearTenant self
  let self := { self with side := P.beforeReplay self.side }
  P.applyAll now 0 self (envelopes.insertionSort CursorProjection.ReplayOrder)

end GuardedProjection

end ForgeErp
