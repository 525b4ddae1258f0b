import ForgeErp.EventStore.Impl.Postgres
import ForgeErp.Library.Machine

/-!
This module contains the system of concurrent `append_events` transactions on one events table, at
read committed isolation. An insert that collides with a committed row fails; one that collides with
a row in flight has to wait for its transaction, which is a step that cannot be taken yet.
-/

namespace ForgeErp
namespace PostgresEventStore

structure AppendCall where
  key : StreamKey
  events : List UncommittedEvent
  expectedVersion : ExpectedVersion

inductive TxPhase where
  | idle
  | begun (call : AppendCall) (aggregateType : String)
  | inserting (call : AppendCall) (aggregateType : String) (nextSequence : Nat)
      (remaining : List UncommittedEvent) (stored : List StoredEvent)
  | returned (result : Except EventStoreError (List StoredEvent))

def TxPhase.outcome (phase : TxPhase) : Option (Except EventStoreError (List StoredEvent)) :=
  match phase with
  | .idle => none
  | .begun _ _ => none
  | .inserting _ _ _ _ _ => none
  | .returned result => some result

-- What a transaction committed; only the specification reads it.
structure TxCommit where
  tx : Nat
  call : AppendCall
  rows : List EventRow
  stored : List StoredEvent

structure Database where
  committed : EventsTable
  inFlight : List (Nat × EventRow)
  txs : Nat → TxPhase
  commits : List TxCommit

namespace Database

def setTx (db : Database) (i : Nat) (phase : TxPhase) : Database :=
  { db with txs := fun j => if j = i then phase else db.txs j }

def rowsOf (db : Database) (i : Nat) : List EventRow :=
  (db.inFlight.filter (fun entry => entry.1 = i)).map Prod.snd

-- `ROLLBACK`, or the end of a transaction that failed
def rollback (db : Database) (i : Nat) (err : EventStoreError) : Database :=
  { db with inFlight := db.inFlight.filter (fun entry => entry.1 ≠ i) }.setTx i
    (.returned (.error err))

def commit (db : Database) (i : Nat) (call : AppendCall) (stored : List StoredEvent) : Database :=
  { db with
    committed := ⟨db.committed.rows ++ db.rowsOf i⟩
    inFlight := db.inFlight.filter (fun entry => entry.1 ≠ i)
    commits := db.commits ++ [TxCommit.mk i call (db.rowsOf i) stored]
  }.setTx i (.returned (.ok stored))

end Database

inductive TxAction where
  | begin (i : Nat) (call : AppendCall)
  | select (i : Nat)
  | insert (i : Nat)
  | commit (i : Nat)
  | fail (i : Nat) (err : EventStoreError)

def txStep (db : Database) (action : TxAction) : Option Database :=
  match action with
  | .begin i call =>
    match db.txs i with
    | .idle =>
      match call.events with
      | [] => some (db.setTx i (.returned (.ok [])))
      | first :: rest =>
        match validateBatch call.key.tenantId call.key.aggregateId first rest with
        | .error err => some (db.setTx i (.returned (.error err)))
        | .ok () => some (db.setTx i (.begun call first.aggregateType))
    | _ => none
  | .select i =>
    match db.txs i with
    | .begun call aggregateType =>
      let current := checkStreamVersion db.committed call.key
      match validateVersion aggregateType call.expectedVersion current with
      | .error err => some (db.rollback i err)
      | .ok () =>
        some (db.setTx i (.inserting call aggregateType (current.1 + 1) call.events []))
    | _ => none
  | .insert i =>
    match db.txs i with
    | .inserting call aggregateType nextSequence (event :: remaining) stored =>
      if event.tenantId ≠ call.key.tenantId ∨ event.aggregateId ≠ call.key.aggregateId then
        some (db.rollback i mismatchInBatch)
      else
        let row := toRow call.key aggregateType nextSequence event
        if db.committed.rows.any (fun other => row.Collides other)
            || (db.rowsOf i).any (fun other => row.Collides other) then
          some (db.rollback i (concurrentAppend nextSequence))
        else if db.inFlight.any (fun entry => entry.1 ≠ i && row.Collides entry.2) then
          none
        else
          some ({ db with inFlight := db.inFlight ++ [(i, row)] }.setTx i
            (.inserting call aggregateType (nextSequence + 1) remaining
              (stored ++ [event.toStored nextSequence])))
    | _ => none
  | .commit i =>
    match db.txs i with
    | .inserting call _ _ [] stored => some (db.commit i call stored)
    | _ => none
  -- the database may give up on an open transaction at any time
  | .fail i err =>
    match db.txs i with
    | .begun _ _ => some (db.rollback i err)
    | .inserting _ _ _ _ _ => some (db.rollback i err)
    | _ => none

def transactions : Machine Database TxAction where
  init db := db.committed = ⟨[]⟩ ∧ db.inFlight = [] ∧ (∀ i, db.txs i = .idle) ∧ db.commits = []
  step := txStep

end PostgresEventStore
end ForgeErp
