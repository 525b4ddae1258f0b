import ForgeErp.Dispatcher.Lemmas.Concurrent
import ForgeErp.Dispatcher.Lemmas.Sequential
import ForgeErp.Domain.Kinds
import ForgeErp.Domain.Runs

/-!
This module contains the verification of rehydration. The store numbers the events of a stream and
an aggregate counts the events it has applied; the dispatcher relies on the two being the same.
-/

namespace ForgeErp

theorem Invoice.version_apply (inv : Invoice) (ev : InvoiceEvent)
    : (inv.apply ev).version = inv.version + 1 := by
  cases ev with
  | invoiceIssued e => rfl
  | paymentRegistered e =>
    unfold apply
    dsimp only
    split
    . rfl
    . rfl
  | invoiceVoided e => rfl

theorem Ledger.version_apply (ledger : Ledger) (ev : LedgerEvent)
    : (ledger.apply ev).version = ledger.version + 1 := by
  cases ev with
  | journalEntryPosted e =>
    unfold apply
    dsimp only
    split
    . rfl
    . rfl

namespace AggregateKind

variable [Lowercase]

theorem version_makeAggregate (kind : AggregateKind) (tenantId : TenantId) (id : AggregateId)
    : kind.version (kind.makeAggregate tenantId id) = 0 := by
  cases kind with
  | inventoryItem => rfl
  | invoice => rfl
  | ledger => rfl
  | user => rfl
  | salesOrder => rfl
  | purchaseOrder => rfl
  | party => rfl
  | product => rfl

theorem version_apply (kind : AggregateKind) (s : kind.aggregate.State) (ev : kind.aggregate.Event)
    : kind.version (kind.aggregate.apply s ev) = kind.version s + 1 := by
  cases kind with
  | inventoryItem => cases ev <;> rfl
  | invoice => exact Invoice.version_apply s ev
  | ledger => exact Ledger.version_apply s ev
  | user => cases ev <;> rfl
  | salesOrder => cases ev <;> rfl
  | purchaseOrder => cases ev <;> rfl
  | party => cases ev <;> rfl
  | product => cases ev <;> rfl

theorem version_rehydrate (kind : AggregateKind) (s : kind.aggregate.State)
    (history : List kind.aggregate.Event)
    : kind.version (kind.aggregate.rehydrate s history) = kind.version s + history.length :=
  Aggregate.rehydrate_count kind.version_apply s history

end AggregateKind

namespace CommandDispatcher

theorem streamVersion_eq_length {key : StreamKey} {stream : List StoredEvent}
    (h : InMemoryEventStore.WellFormedStream key stream) : streamVersion stream = stream.length :=
  h.currentVersion_eq

section Runs

variable [TextFormat Uuid] [TextFormat DateTime] [Lowercase]

/--
The stream passes the checks, stands in the order it is applied in, and leads to the state that its
events lead to, with a version that is the last number in the stream and the length of it.
-/
structure Rehydrates (kind : AggregateKind) (key : StreamKey) (stream : List StoredEvent)
    : Prop where
  validated : validateLoadedStream key stream = .ok ()
  sorted : stream.insertionSort (fun a b => a.sequenceNumber ≤ b.sequenceNumber) = stream
  applied : ∃ state, applyHistory kind.aggregate (kind.makeAggregate key.tenantId key.aggregateId)
    stream
      = .ok state
    ∧ (∃ evs : List kind.aggregate.Event, StreamOf stream evs
        ∧ state = kind.aggregate.rehydrate (kind.makeAggregate key.tenantId key.aggregateId) evs)
    ∧ kind.version state = streamVersion stream
    ∧ kind.version state = stream.length

theorem rehydrates_of_typed {kind : AggregateKind} {key : StreamKey} {stream : List StoredEvent}
    {evs : List kind.aggregate.Event} (hwf : InMemoryEventStore.WellFormedStream key stream)
    (htyped : StreamOf stream evs) : Rehydrates kind key stream := by
  have hversion : kind.version
      (kind.aggregate.rehydrate (kind.makeAggregate key.tenantId key.aggregateId) evs)
        = stream.length := by
    rw [kind.version_rehydrate, kind.version_makeAggregate, htyped.length_eq, Nat.zero_add]
  refine ⟨validateLoadedStream_eq_ok hwf, ?_, ?_⟩
  . have hsorted : stream.Pairwise (fun a b => a.sequenceNumber ≤ b.sequenceNumber) := by
      apply hwf.numbered.pairwise_lt.imp
      intros
      omega
    exact hsorted.insertionSort_eq
  . refine ⟨_, applyHistory_eq hwf.numbered htyped _, ⟨evs, htyped, rfl⟩, ?_, hversion⟩
    rw [hversion, streamVersion_eq_length hwf]

-- The type behind each stream is fixed; which step of which call comes next is not.
theorem rehydration_faithful {B : Type} (eventBus : EventBus B (EventEnvelope JsonValue)) (bus : B)
    (kindOf : StreamKey → AggregateKind) (s : System (fun key => (kindOf key).aggregate) B)
    (h : (system eventBus bus).Reachable s) (key : StreamKey)
    : Rehydrates (kindOf key) key (s.store.loadStream key) := by
  have hinv := inv_of_reachable h
  rcases hinv.typed key with ⟨evs, hevs⟩
  exact rehydrates_of_typed (hinv.wellFormed key) hevs

end Runs

section Item

open Concrete

abbrev ItemSystem : Type :=
  System (fun _ => AggregateKind.aggregate .inventoryItem)
    (InMemoryEventBus (EventEnvelope JsonValue))

def itemSystem : Machine ItemSystem (Action (fun _ => AggregateKind.aggregate .inventoryItem)) :=
  system InMemoryEventBus.toEventBus ⟨[]⟩

def itemCall (command : InventoryCommand)
    : Call (fun _ => AggregateKind.aggregate .inventoryItem) where
  key := ⟨Bolt.tenantId, Bolt.itemId.aggregateId⟩
  aggregateType := "inventory.item"
  command := command
  makeAggregate := AggregateKind.makeAggregate .inventoryItem

def emptyItemSystem : ItemSystem where
  store := .new
  bus := ⟨[]⟩
  phases _ := .idle
  commits := []

-- The second adjustment is refused by the store, and is decided again on what the first one left.
def itemSteps : List (Action (fun _ => AggregateKind.aggregate .inventoryItem)) := [
  .load 0 (itemCall (.createItem Bolt.create)),
  .decide 0 (fun _ => ⟨10⟩),
  .append 0,
  .load 1 (itemCall (.adjustStock (Bolt.adjust 5))),
  .load 2 (itemCall (.adjustStock (Bolt.adjust 7))),
  .decide 2 (fun _ => ⟨12⟩),
  .decide 1 (fun _ => ⟨11⟩),
  .append 1,
  .append 2,
  .load 3 (itemCall (.adjustStock (Bolt.adjust 7))),
  .decide 3 (fun _ => ⟨13⟩),
  .append 3]

theorem rehydration_faithful_adjusted
    : ∃ s, itemSystem.run emptyItemSystem itemSteps = some s
      ∧ (s.store.loadStream ⟨Bolt.tenantId, Bolt.itemId.aggregateId⟩).length = 3
      ∧ Rehydrates .inventoryItem ⟨Bolt.tenantId, Bolt.itemId.aggregateId⟩
          (s.store.loadStream ⟨Bolt.tenantId, Bolt.itemId.aggregateId⟩) := by
  have hrun : (itemSystem.run emptyItemSystem itemSteps).map
      (fun s => (s.store.loadStream ⟨Bolt.tenantId, Bolt.itemId.aggregateId⟩).length) = some 3 := by
    decide
  rcases Option.map_eq_some_iff.mp hrun with ⟨s, hs, hlength⟩
  have hreachable : itemSystem.Reachable s := by
    apply Machine.ReachableUnder.run (.init _) (fun _ _ _ => trivial) hs
    exact ⟨rfl, rfl, fun _ => rfl, rfl⟩
  exact ⟨s, hs, hlength, rehydration_faithful InMemoryEventBus.toEventBus ⟨[]⟩
    (fun _ => .inventoryItem) s
    hreachable _⟩

end Item

end CommandDispatcher

end ForgeErp
