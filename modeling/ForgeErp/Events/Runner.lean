import ForgeErp.Events.Basic

/-!
This module contains the projection runner, which keeps one cursor for everything that it applies.
-/

namespace ForgeErp

/--
The `Projection` trait of the events crate.
-/
structure EventProjection (P E : Type) where
  apply : P → EventEnvelope E → P

structure ProjectionCursor where
  tenantId : TenantId
  lastSequenceNumber : Nat
  deriving DecidableEq, Repr

structure ProjectionRunner (P : Type) where
  projection : P
  cursor : Option ProjectionCursor

namespace ProjectionRunner

inductive Error where
  | tenantMismatch (expected found : TenantId)
  | nonMonotonicSequence (last found : Nat)
  deriving DecidableEq, Repr

variable {P E : Type}

def new (projection : P) : ProjectionRunner P where
  projection
  cursor := none

def newForTenant (tenantId : TenantId) (projection : P) : ProjectionRunner P where
  projection
  cursor := some { tenantId, lastSequenceNumber := 0 }

variable (trait : EventProjection P E)

def apply (self : ProjectionRunner P) (envelope : EventEnvelope E)
    : Except Error Unit × ProjectionRunner P :=
  let foundTenant := envelope.tenantId
  let foundSeq := envelope.sequenceNumber
  match self.cursor with
  | none =>
    (.ok (), {
      projection := trait.apply self.projection envelope
      cursor := some { tenantId := foundTenant, lastSequenceNumber := foundSeq }
    })
  | some c =>
    if c.tenantId ≠ foundTenant then
      (.error (.tenantMismatch c.tenantId foundTenant), self)
    else if foundSeq ≤ c.lastSequenceNumber then
      (.error (.nonMonotonicSequence c.lastSequenceNumber foundSeq), self)
    else
      (.ok (), {
        projection := trait.apply self.projection envelope
        cursor := some { c with lastSequenceNumber := foundSeq }
      })

def run (self : ProjectionRunner P) (envelopes : List (EventEnvelope E))
    : Except Error Unit × ProjectionRunner P :=
  match envelopes with
  | [] => (.ok (), self)
  | env :: envelopes =>
    match self.apply trait env with
    | (.error err, self) => (.error err, self)
    | (.ok (), self) => run self envelopes

-- `factory` is what the closure makes.
def rebuildFromScratch (factory : P) (envelopes : List (EventEnvelope E))
    : Except Error (P × Option ProjectionCursor) :=
  match (new factory).run trait envelopes with
  | (.error err, _) => .error err
  | (.ok (), runner) => .ok (runner.projection, runner.cursor)

end ProjectionRunner

end ForgeErp
