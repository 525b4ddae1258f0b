import ForgeErp.Dispatcher.Basic
import ForgeErp.Library.Machine

/-!
This module contains the system of concurrently running `dispatch` calls on one in-memory event
store. The aggregate type behind a stream is fixed by the family `A`; callers are numbered, take
their steps in any order, and every step is one of the pieces of `CommandDispatcher.dispatch`.
-/

namespace ForgeErp
namespace CommandDispatcher

structure Call (A : StreamKey → Aggregate) where
  key : StreamKey
  aggregateType : String
  command : (A key).Command
  makeAggregate : TenantId → AggregateId → (A key).State

def Call.request {A : StreamKey → Aggregate} (call : Call A) : Request (A call.key) where
  key := call.key
  aggregateType := call.aggregateType
  command := call.command
  makeAggregate := call.makeAggregate

inductive Phase (A : StreamKey → Aggregate) where
  | idle
  | loaded (call : Call A) (history : List StoredEvent)
  | decided (call : Call A) (history : List StoredEvent) (uncommitted : List UncommittedEvent)
      (expected : ExpectedVersion)
  | publishing (committed rest : List StoredEvent)
  | returned (result : Except DispatchError (List StoredEvent))

-- What an append added, where, and on whose behalf; only the specification reads it.
structure Commit (A : StreamKey → Aggregate) where
  call : Call A
  base : Nat
  batch : List StoredEvent

structure System (A : StreamKey → Aggregate) (B : Type) where
  store : InMemoryEventStore
  bus : B
  phases : Nat → Phase A
  commits : List (Commit A)

namespace System

variable {A : StreamKey → Aggregate} {B : Type}

def setPhase (s : System A B) (i : Nat) (phase : Phase A) : System A B :=
  { s with phases := fun j => if j = i then phase else s.phases j }

end System

inductive Action (A : StreamKey → Aggregate) where
  | load (i : Nat) (call : Call A)
  | decide (i : Nat) (freshId : Nat → Uuid)
  | append (i : Nat)
  | publish (i : Nat)

variable {A : StreamKey → Aggregate} [∀ key, Event (A key).Event] [∀ key, Serde (A key).Event]
variable {B : Type} (eventBus : EventBus B (EventEnvelope JsonValue))

def step (s : System A B) (action : Action A) : Option (System A B) :=
  match action with
  | .load i call =>
    match s.phases i with
    | .idle => some (s.setPhase i (.loaded call (s.store.loadStream call.key)))
    | _ => none
  | .decide i freshId =>
    match s.phases i with
    | .loaded call history =>
      match decideEvents call.request history freshId with
      | .error err => some (s.setPhase i (.returned (.error err)))
      | .ok none => some (s.setPhase i (.returned (.ok [])))
      | .ok (some (uncommitted, expected)) =>
        some (s.setPhase i (.decided call history uncommitted expected))
    | _ => none
  | .append i =>
    match s.phases i with
    | .decided call _ uncommitted expected =>
      match s.store.append uncommitted expected with
      | (.error err, store) =>
        some ({ s with store }.setPhase i (.returned (.error (.ofStore err))))
      | (.ok committed, store) =>
        let commit := ⟨call, (s.store.loadStream call.key).length, committed⟩
        some ({ s with store, commits := s.commits ++ [commit] }.setPhase i
          (.publishing committed committed))
    | _ => none
  | .publish i =>
    match s.phases i with
    | .publishing committed [] => some (s.setPhase i (.returned (.ok committed)))
    | .publishing committed (stored :: rest) =>
      match eventBus.publish s.bus stored.toEnvelope with
      | (.error err, bus) => some ({ s with bus }.setPhase i (.returned (.error (.publish err))))
      | (.ok (), bus) => some ({ s with bus }.setPhase i (.publishing committed rest))
    | _ => none

def system (bus : B) : Machine (System A B) (Action A) where
  init s := s.store = .new ∧ s.bus = bus ∧ (∀ i, s.phases i = .idle) ∧ s.commits = []
  step := step eventBus

end CommandDispatcher
end ForgeErp
