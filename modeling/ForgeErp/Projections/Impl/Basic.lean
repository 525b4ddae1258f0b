import ForgeErp.EventStore.Basic
import ForgeErp.Library.KeyMap
import Mathlib.Data.List.Sort
import Mathlib.Logic.Equiv.Defs

/-!
This module contains the skeleton of the cursor based projections. They differ in the events they
read and in the rows they keep; the checks in front of an update, the cursors and the rebuild are
the same code in each of them.
-/

namespace ForgeErp

structure InMemoryTenantStore (K V : Type) where
  inner : KeyMap (TenantId × K) V

namespace InMemoryTenantStore

variable {K V : Type}

def new : InMemoryTenantStore K V :=
  ⟨.empty⟩

def get (self : InMemoryTenantStore K V) (tenantId : TenantId) (key : K) : Option V :=
  self.inner.get (tenantId, key)

def upsert [DecidableEq K] (self : InMemoryTenantStore K V) (tenantId : TenantId) (key : K)
    (value : V)
    : InMemoryTenantStore K V :=
  ⟨self.inner.insert (tenantId, key) value⟩

def clearTenant (self : InMemoryTenantStore K V) (tenantId : TenantId) : InMemoryTenantStore K V :=
  ⟨self.inner.retain (fun (t, _) => t ≠ tenantId)⟩

end InMemoryTenantStore

-- The table `projection_offsets`, as long as the database answers.
structure CursorTable where
  offsets : KeyMap (StreamKey × String) Nat

namespace CursorTable

def getCursor (self : CursorTable) (key : StreamKey) (projectionName : String) : Option Nat :=
  self.offsets.get (key, projectionName)

def updateCursor (self : CursorTable) (key : StreamKey) (projectionName : String)
    (sequenceNumber : Nat)
    : CursorTable :=
  ⟨self.offsets.insert (key, projectionName) sequenceNumber⟩

def clearCursors (self : CursorTable) (tenantId : TenantId) (projectionName : String)
    : CursorTable :=
  ⟨self.offsets.retain (fun (key, name) => !(key.tenantId = tenantId && name = projectionName))⟩

end CursorTable

inductive ProjectionError where
  | deserialize (msg : String)
  | tenantIsolation (msg : String)
  | nonMonotonicSequence (last found : Nat)
  deriving DecidableEq, Repr

structure Projection (K R : Type) where
  store : InMemoryTenantStore K R
  cursors : KeyMap StreamKey Nat
  cursorStore : Option CursorTable
  projectionName : String

namespace Projection

variable {K R : Type}

def new (projectionName : String) : Projection K R where
  store := .new
  cursors := .empty
  cursorStore := none
  projectionName := projectionName

def withPersistentCursors (self : Projection K R) (cursorStore : CursorTable)
    (projectionName : String)
    : Projection K R where
  store := self.store
  cursors := .empty
  cursorStore := some cursorStore
  projectionName := projectionName

def getCursor (self : Projection K R) (key : StreamKey) : Nat :=
  match self.cursorStore with
  | some cursorStore => (cursorStore.getCursor key self.projectionName).getD 0
  | none => (self.cursors.get key).getD 0

def updateCursor (self : Projection K R) (key : StreamKey) (sequenceNumber : Nat)
    : Projection K R :=
  { self with
    cursors := self.cursors.insert key sequenceNumber
    cursorStore := self.cursorStore.map fun cursorStore =>
      cursorStore.updateCursor key self.projectionName sequenceNumber
  }

def clearCursors (self : Projection K R) (tenantId : TenantId) : Projection K R :=
  { self with
    cursors := self.cursors.retain (fun key => key.tenantId ≠ tenantId)
    cursorStore := self.cursorStore.map fun cursorStore =>
      cursorStore.clearCursors tenantId self.projectionName
  }

def upsert [DecidableEq K] (self : Projection K R) (tenantId : TenantId) (key : K) (row : R)
    : Projection K R :=
  { self with store := self.store.upsert tenantId key row }

def clearTenant (self : Projection K R) (tenantId : TenantId) : Projection K R :=
  { self with store := self.store.clearTenant tenantId }.clearCursors tenantId

end Projection

/--
What tells the projections apart. `modify` is the effect of an event on the row of its aggregate and
`vacant` the row it is given where there is none yet, which may contain a fresh identifier.
-/
structure CursorProjection (K R E : Type) where
  aggregateType : String
  idName : String
  id : K ≃ AggregateId
  tenantOf : E → TenantId
  idOf : E → K
  vacant : AggregateId → E → R
  modify : R → E → R

namespace CursorProjection

variable {K R E : Type} [DecidableEq K] [Codec E] (P : CursorProjection K R E)

-- `fresh` supplies the `AggregateId::new()` of the call.
def applyEnvelope (fresh : AggregateId) (self : Projection K R) (envelope : EventEnvelope JsonValue)
    : Except ProjectionError Unit × Projection K R :=
  if envelope.aggregateType ≠ P.aggregateType then
    (.ok (), self)
  else
    let seq := envelope.sequenceNumber
    let last := self.getCursor envelope.key
    if seq = 0 then
      (.error (.nonMonotonicSequence last seq), self)
    else if seq ≤ last then
      (.ok (), self)
    else if seq ≠ last + 1 ∧ last ≠ 0 then
      (.error (.nonMonotonicSequence last seq), self)
    else
      match (Codec.dec envelope.payload : Except String E) with
      | .error err => (.error (.deserialize err), self)
      | .ok ev =>
        if P.tenantOf ev ≠ envelope.tenantId then
          (.error (.tenantIsolation "event tenant_id does not match envelope tenant_id"), self)
        else if P.id (P.idOf ev) ≠ envelope.aggregateId then
          let idName := P.idName
          (.error (.tenantIsolation s!"event {idName} does not match envelope aggregate_id"), self)
        else
          let row := self.store.get envelope.tenantId (P.idOf ev)
          let row := P.modify (row.getD (P.vacant fresh ev)) ev
          let self := self.upsert envelope.tenantId (P.idOf ev) row
          (.ok (), self.updateCursor envelope.key seq)

-- A subscriber that drops what it cannot apply, see the bus loop of the services.
def deliver (self : Projection K R) (deliveries : List (AggregateId × EventEnvelope JsonValue))
    : Projection K R :=
  deliveries.foldl (fun self d => (P.applyEnvelope d.1 self d.2).2) self

def applyAll (fresh : Nat → AggregateId) (idx : Nat) (self : Projection K R)
    (envelopes : List (EventEnvelope JsonValue))
    : Except ProjectionError Unit × Projection K R :=
  match envelopes with
  | [] => (.ok (), self)
  | env :: envs =>
    match P.applyEnvelope (fresh idx) self env with
    | (.error err, self) => (.error err, self)
    | (.ok (), self) => applyAll fresh (idx + 1) self envs

-- `Vec::dedup`
def dedup {α : Type} [DecidableEq α] (l : List α) : List α :=
  match l with
  | [] => []
  | [a] => [a]
  | a :: b :: l => if a = b then dedup (b :: l) else a :: dedup (b :: l)

def tenantsOf (envelopes : List (EventEnvelope JsonValue)) : List TenantId :=
  let tenants := envelopes.map (·.tenantId)
  dedup (tenants.insertionSort (fun s t => s.asUuid.asBytes ≤ t.asUuid.asBytes))

-- tenant, aggregate, sequence
def ReplayOrder (a b : EventEnvelope JsonValue) : Prop :=
  a.tenantId.asUuid.asBytes < b.tenantId.asUuid.asBytes
  ∨ (a.tenantId.asUuid.asBytes = b.tenantId.asUuid.asBytes
    ∧ (a.aggregateId.asUuid.asBytes < b.aggregateId.asUuid.asBytes
      ∨ (a.aggregateId.asUuid.asBytes = b.aggregateId.asUuid.asBytes
        ∧ a.sequenceNumber ≤ b.sequenceNumber)))

instance : DecidableRel ReplayOrder := fun _ _ =>
  inferInstanceAs (Decidable (_ ∨ _))

def rebuildFromScratch (fresh : Nat → AggregateId) (self : Projection K R)
    (envelopes : List (EventEnvelope JsonValue))
    : Except ProjectionError Unit × Projection K R :=
  let self := (tenantsOf envelopes).foldl Projection.clearTenant self
  P.applyAll fresh 0 self (envelopes.insertionSort ReplayOrder)

end CursorProjection

end ForgeErp
