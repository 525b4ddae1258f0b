import ForgeErp.Dispatcher.Calls
import ForgeErp.EventStore.Impl.Transactions

/-!
This module contains the dispatcher on the Postgres event store, in use by any number of callers at
once: the events are loaded by a statement of its own, and appended by a transaction that other
transactions run beside. The callers are threads on which `block_on` may wait for the database. A
time that has been stored comes back as the column `occurred_at` keeps it, which is a `TIMESTAMPTZ`
and has no nanoseconds.
-/

namespace ForgeErp
namespace PersistentDispatcher

open CommandDispatcher PostgresEventStore

variable [Lowercase]

inductive Phase where
  | idle
  | loaded (call : DispatchCall) (history : List StoredEvent)
  | appending (call : DispatchCall) (history : List StoredEvent)
    (uncommitted : List UncommittedEvent)
      (expected : ExpectedVersion)
  | publishing (call : DispatchCall) (committed rest : List StoredEvent)
  | returned (call : DispatchCall) (result : Except DispatchError (List StoredEvent))

-- What the caller asked for
def Phase.call (phase : Phase) : Option DispatchCall :=
  match phase with
  | .idle => none
  | .loaded call _ => some call
  | .appending call _ _ _ => some call
  | .publishing call _ _ => some call
  | .returned call _ => some call

-- Caller `i` has transaction `i`. Only the specification reads the calls whose transactions were
-- committed.
structure State (B : Type) where
  db : Database
  bus : B
  phases : Nat → Phase
  calls : List DispatchCall

namespace State

variable {B : Type}

def setPhase (s : State B) (i : Nat) (phase : Phase) : State B :=
  { s with phases := fun j => if j = i then phase else s.phases j }

def transact (s : State B) (action : TxAction) : Option (State B) :=
  (txStep s.db action).map fun db => { s with db }

end State

inductive Action where
  | load (i : Nat) (call : DispatchCall)
  | unavailable (i : Nat) (call : DispatchCall) (err : EventStoreError)
  | decide (i : Nat)
  | select (i : Nat)
  | insert (i : Nat)
  | commit (i : Nat)
  | abort (i : Nat) (err : EventStoreError)
  | receive (i : Nat)
  | publish (i : Nat)

-- `append` is `append_events` with the identifiers of the first event.
def appendCall (key : StreamKey) (uncommitted : List UncommittedEvent) (expected : ExpectedVersion)
    : AppendCall where
  key :=
    match uncommitted with
    | [] => key
    | first :: _ => first.key
  events := uncommitted
  expectedVersion := expected

-- `timestamptz` is what the column keeps of a time.
def readBack (timestamptz : DateTime → DateTime) (stored : StoredEvent) : StoredEvent :=
  { stored with occurredAt := timestamptz stored.occurredAt }

def readStream (timestamptz : DateTime → DateTime) (table : EventsTable) (key : StreamKey)
    : List StoredEvent :=
  (PostgresEventStore.loadStream table key).map (readBack timestamptz)

variable [TextFormat Uuid] [TextFormat DateTime] {B : Type} (timestamptz : DateTime → DateTime)
  (eventBus : EventBus B (EventEnvelope JsonValue))

def step (s : State B) (action : Action) : Option (State B) :=
  match action with
  | .load i call =>
    match s.phases i with
    | .idle => some (s.setPhase i (.loaded call (readStream timestamptz s.db.committed call.key)))
    | _ => none
  -- the statement that loads the stream fails
  | .unavailable i call err =>
    match s.phases i with
    | .idle => some (s.setPhase i (.returned call (.error (.ofStore err))))
    | _ => none
  | .decide i =>
    match s.phases i with
    | .loaded call history =>
      match decideEvents (call.kind.request call.key call.aggregateType call.command) history
        call.freshId with
      | .error err => some (s.setPhase i (.returned call (.error err)))
      | .ok none => some (s.setPhase i (.returned call (.ok [])))
      | .ok (some (uncommitted, expected)) =>
        (s.transact (.begin i (appendCall call.key uncommitted expected))).map fun s =>
          s.setPhase i (.appending call history uncommitted expected)
    | _ => none
  | .select i => s.transact (.select i)
  | .insert i => s.transact (.insert i)
  | .commit i =>
    match s.phases i with
    | .appending call _ _ _ =>
      (s.transact (.commit i)).map fun s => { s with calls := s.calls ++ [call] }
    | _ => none
  | .abort i err => s.transact (.fail i err)
  | .receive i =>
    match s.phases i with
    | .appending call _ _ _ =>
      match (s.db.txs i).outcome with
      | some (.ok committed) => some (s.setPhase i (.publishing call committed committed))
      | some (.error err) => some (s.setPhase i (.returned call (.error (.ofStore err))))
      | none => none
    | _ => none
  | .publish i =>
    match s.phases i with
    | .publishing call committed [] => some (s.setPhase i (.returned call (.ok committed)))
    | .publishing call committed (stored :: rest) =>
      match eventBus.publish s.bus stored.toEnvelope with
      | (.error err, bus) =>
        some ({ s with bus }.setPhase i (.returned call (.error (.publish err))))
      | (.ok (), bus) => some ({ s with bus }.setPhase i (.publishing call committed rest))
    | _ => none

def started (bus : B) : State B where
  db := {
    committed := ⟨[]⟩
    inFlight := []
    txs _ := .idle
    commits := []
  }
  bus
  phases _ := .idle
  calls := []

def system (bus : B) : Machine (State B) Action where
  init s := s = started bus
  step := step timestamptz eventBus

end PersistentDispatcher
end ForgeErp
