import ForgeErp.Library.Machine
import ForgeErp.Projections.Impl.Members

/-!
This module contains a projection with persistent cursors whose process may stop between any two
writes. The row and the cursor of an event are two writes, and what is in memory is lost.
-/

namespace ForgeErp

-- A new process finds the rows and the cursors that have been stored.
def Projection.restart {K R : Type} (self : Projection K R) : Projection K R :=
  match self.cursorStore with
  | some cursorStore => self.withPersistentCursors cursorStore self.projectionName
  | none => { self with cursors := .empty }

inductive StopPoint where
  | beforeRow
  | beforeCursor
  deriving DecidableEq, Repr

inductive RestartAction where
  | deliver (fresh : AggregateId)
  | stop (fresh : AggregateId) (point : StopPoint)

namespace CursorProjection

variable {K R E : Type} [DecidableEq K] [Codec E] (P : CursorProjection K R E)

-- What `applyEnvelope` has written when the process stops: nothing, or the row without the cursor.
def applyUntil (point : StopPoint) (fresh : AggregateId) (self : Projection K R)
    (envelope : EventEnvelope JsonValue)
    : Projection K R :=
  match point with
  | .beforeRow => self
  | .beforeCursor => { self with store := (P.applyEnvelope fresh self envelope).2.store }

/--
The delivery of one stream, resumed after the persistent cursor.
-/
def resuming (key : StreamKey) (stream : List StoredEvent)
    : Machine (Projection K R) RestartAction where
  init s :=
    s.cursorStore.isSome ∧ s.getCursor key = 0
    ∧ s.store.get key.tenantId (P.id.symm key.aggregateId) = none
  step s action :=
    stream[s.getCursor key]?.map fun e =>
      match action with
      | .deliver fresh => (P.applyEnvelope fresh s e.toEnvelope).2
      | .stop fresh point => (P.applyUntil point fresh s e.toEnvelope).restart

end CursorProjection

end ForgeErp
