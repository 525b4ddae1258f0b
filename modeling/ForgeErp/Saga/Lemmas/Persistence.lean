import ForgeErp.Domain.Lemmas.Decisions
import ForgeErp.Saga.Lemmas.Routing

/-!
This module contains the verification of what happens to the events of a saga. The stream of a saga
is that of its sales order, and the store keeps one type of aggregate in a stream.
-/

namespace ForgeErp

open CommandDispatcher

namespace SalesArSaga

-- The saga of the sales order under `key`.
def load (store : InMemoryEventStore) (key : StreamKey) : List StoredEvent :=
  SagaRepository.load store key.tenantId (sagaId key.tenantId ⟨key.aggregateId⟩)

structure Desk (B : Type) where
  store : InMemoryEventStore
  bus : B
  -- everything the repository has been given
  emitted : List UncommittedEvent

/--
The stream under the key begins with an event of the sales order.
-/
structure Desk.Taken (key : StreamKey) {B : Type} (s : Desk B) : Prop where
  reachable : s.store.Reachable
  head : ∃ existing, (s.store.loadStream key).head? = some existing
    ∧ existing.aggregateType = "sales.order"
  emitted : ∀ u ∈ s.emitted, u.aggregateType = "saga.sales_ar"

theorem Desk.Taken.load_ne {key : StreamKey} {B : Type} {s : Desk B} (h : Taken key s)
    : (load s.store key).map StoredEvent.uncommitted ≠ s.emitted := by
  intro hload
  rcases h.head with ⟨existing, hhead, htype⟩
  have hmem : existing.uncommitted ∈ s.emitted := by
    rw [← hload]
    apply List.mem_map_of_mem (List.mem_of_head? hhead)
  have hsaga : existing.aggregateType = "saga.sales_ar" := h.emitted _ hmem
  rw [htype] at hsaga
  have hother : "sales.order" ≠ "saga.sales_ar" := by decide
  apply hother hsaga

variable [TextFormat Uuid] [TextFormat DateTime]

structure Emit where
  eventType : String
  payload : JsonValue
  eventId : Uuid
  now : DateTime

namespace Emit

def event (self : Emit) (key : StreamKey) : UncommittedEvent :=
  SagaRepository.emitted saga key.tenantId (sagaId key.tenantId ⟨key.aggregateId⟩) self.eventType
    self.payload self.eventId self.now

def append (self : Emit) (key : StreamKey) (store : InMemoryEventStore)
    : Except EventStoreError (List StoredEvent) × InMemoryEventStore :=
  SagaRepository.appendEmit saga store key.tenantId (sagaId key.tenantId ⟨key.aggregateId⟩)
    self.eventType self.payload self.eventId self.now

theorem append_of_order (self : Emit) {key : StreamKey} {store : InMemoryEventStore}
    {existing : StoredEvent} (hhead : (store.loadStream key).head? = some existing)
    (htype : existing.aggregateType = "sales.order")
    : ∃ msg, self.append key store = (.error (.aggregateTypeMismatch msg), store) := by
  have houtcome := InMemoryEventStore.append_outcome store [self.event key] .any
  have happend : self.append key store = store.append [self.event key] .any := rfl
  rw [happend]
  have huniform : InMemoryEventStore.Uniform (self.event key).key (self.event key).aggregateType
      [self.event key] := by
    simp [InMemoryEventStore.Uniform]
  generalize store.append [self.event key] .any = result at houtcome ⊢
  cases houtcome with
  | invalid herr =>
    rw [InMemoryEventStore.validateBatch_eq_ok_iff.mpr huniform] at herr
    cases herr
  | conflict _ hmatch => cases hmatch
  | @typeMismatch _ _ existing msg _ _ hhead =>
    exact ⟨msg, by rw [InMemoryEventStore.entryOr_of_head? hhead]⟩
  | committed _ _ hsame =>
    have hsaga := hsame existing hhead
    rw [htype] at hsaga
    have hother : "sales.order" ≠ "saga.sales_ar" := by decide
    exact absurd hsaga hother

end Emit

variable {B : Type} {key : StreamKey}

theorem Desk.Taken.append {s : Desk B} (h : Taken key s) (emit : Emit)
    : ∃ msg, emit.append key s.store = (.error (.aggregateTypeMismatch msg), s.store) := by
  rcases h.head with ⟨existing, hhead, htype⟩
  apply emit.append_of_order hhead htype

variable (eventBus : EventBus B (EventEnvelope JsonValue))

def orderRequest (key : StreamKey) (command : SalesOrderCommand)
    : Request SalesOrder.aggregate where
  key
  aggregateType := "sales.order"
  command
  makeAggregate _ aggregateId := SalesOrder.empty ⟨aggregateId⟩

theorem Desk.taken_of_confirmed {store store' : InMemoryEventStore} (hstore : store.Reachable)
    {bus bus' : B} {cmd : ConfirmOrder} {freshId : Nat → Uuid} {committed : List StoredEvent}
    (h : dispatch eventBus store bus (orderRequest key (.confirmOrder cmd)) freshId
      = (.ok committed, store', bus'))
    : Taken key ⟨store', bus', []⟩ := by
  have hreachable := dispatch_reachable eventBus hstore bus
    (orderRequest key (.confirmOrder cmd)) freshId
  have houtcome := dispatch_outcome eventBus hstore.wellFormed bus
    (orderRequest key (.confirmOrder cmd)) freshId
  rw [h] at hreachable
  generalize dispatch eventBus store bus (orderRequest key (.confirmOrder cmd)) freshId = result
    at houtcome h
  refine ⟨hreachable, ?_, by simp⟩
  cases houtcome with
  | failed => cases h
  | nothing _ hhandle =>
    rcases SalesOrder.handleConfirm_eq_ok_iff.mp hhandle with ⟨-, -, -, -, -, hdecided⟩
    cases hdecided
  | @stored _ decided committed hdecides =>
    have hstored := congrArg (fun result => result.2.1) h
    dsimp only at hstored
    have hstream : store'.loadStream key = store.loadStream key ++ committed := by
      rw [← hstored, InMemoryEventStore.loadStream_insert]
      exact if_pos rfl
    have hne : store.loadStream key ++ committed ≠ [] := by
      have hlength := hdecides.streamOf.length_eq
      have hpos := List.length_pos_iff.mpr hdecides.nonempty
      intro hnil
      rw [(List.append_eq_nil_iff.mp hnil).2, List.length_nil] at hlength
      omega
    refine ⟨_, (congrArg List.head? hstream).trans (List.head?_eq_some_head hne), ?_⟩
    apply hdecides.sameType_append _ (List.head_mem hne)

variable [Lowercase]

inductive Step where
  | emit (emit : Emit)
  | dispatch (call : DispatchCall)

def Step.isDispatch (self : Step) : Bool :=
  match self with
  | .emit _ => false
  | .dispatch _ => true

variable (key)

def Desk.step (s : Desk B) (step : Step) : Desk B :=
  match step with
  | .emit emit => ⟨(emit.append key s.store).2, s.bus, s.emitted ++ [emit.event key]⟩
  | .dispatch call =>
    let (_, store, bus) := call.perform eventBus s.store s.bus
    ⟨store, bus, s.emitted⟩

def Desk.run (s : Desk B) (steps : List Step) : Desk B :=
  steps.foldl (Desk.step key eventBus) s

namespace Desk

variable {key}

theorem head?_perform {s : Desk B} (hstore : s.store.Reachable) (call : DispatchCall)
    {existing : StoredEvent} (h : (s.store.loadStream key).head? = some existing)
    : ((call.perform eventBus s.store s.bus).2.1.loadStream key).head? = some existing := by
  have houtcome := call.perform_outcome eventBus hstore s.bus
  generalize call.perform eventBus s.store s.bus = result at houtcome ⊢
  cases houtcome with
  | failed => exact h
  | nothing => exact h
  | stored hdecides =>
    rw [InMemoryEventStore.loadStream_insert]
    split
    . next hkey =>
      rw [hkey] at h
      rw [List.head?_append, h]
      rfl
    . exact h

theorem Taken.step {s : Desk B} (h : Taken key s) (step : Step)
    : Taken key (s.step key eventBus step) := by
  cases step with
  | emit emit =>
    rcases h.append emit with ⟨msg, hmsg⟩
    have hstep : s.step key eventBus (.emit emit)
      = ⟨s.store, s.bus, s.emitted ++ [emit.event key]⟩ := by
      dsimp only [Desk.step]
      rw [hmsg]
    rw [hstep]
    refine ⟨h.reachable, h.head, ?_⟩
    intro u hu
    rcases List.mem_append.mp hu with hu | hu
    . apply h.emitted u hu
    . rw [List.mem_singleton.mp hu]
      rfl
  | dispatch call =>
    rcases h.head with ⟨existing, hhead, htype⟩
    refine ⟨?_, ⟨existing, head?_perform eventBus h.reachable call hhead, htype⟩, h.emitted⟩
    apply call.perform_reachable eventBus h.reachable s.bus

theorem Taken.run {s : Desk B} (h : Taken key s) (steps : List Step)
    : Taken key (s.run key eventBus steps) := by
  induction steps generalizing s with
  | nil => exact h
  | cons step steps ih => apply ih (h.step eventBus step)

-- Leaving the emits out changes nothing but the record of them.
theorem Taken.run_filter {s t : Desk B} (h : Taken key s) (hstore : t.store = s.store)
    (hbus : t.bus = s.bus) (steps : List Step)
    : (s.run key eventBus steps).store
        = (t.run key eventBus (steps.filter Step.isDispatch)).store := by
  induction steps generalizing s t with
  | nil => exact hstore.symm
  | cons step steps ih =>
    cases step with
    | emit emit =>
      rcases h.append emit with ⟨msg, hmsg⟩
      apply ih (h.step eventBus (.emit emit))
      . dsimp only [Desk.step]
        rw [hmsg, hstore]
      . exact hbus
    | dispatch call =>
      have hsame : call.perform eventBus t.store t.bus = call.perform eventBus s.store s.bus := by
        rw [hstore, hbus]
      apply ih (h.step eventBus (.dispatch call))
      . dsimp only [Desk.step]
        rw [hsame]
      . dsimp only [Desk.step]
        rw [hsame]

end Desk

theorem emits_never_persisted (store store' : InMemoryEventStore) (hstore : store.Reachable)
    (bus bus' : B) (cmd : ConfirmOrder) (freshId : Nat → Uuid) (committed : List StoredEvent)
    (hconfirmed : dispatch eventBus store bus (orderRequest key (.confirmOrder cmd)) freshId
      = (.ok committed, store', bus'))
    (steps : List Step) (s : Desk B) (hs : s = Desk.run key eventBus ⟨store', bus', []⟩ steps)
    : (∀ emit : Emit, ∃ msg, emit.append key s.store
        = (.error (.aggregateTypeMismatch msg), s.store))
      ∧ (load s.store key).map StoredEvent.uncommitted ≠ s.emitted
      ∧ s.store
          = (Desk.run key eventBus ⟨store', bus', []⟩ (steps.filter Step.isDispatch)).store := by
  have htaken := Desk.taken_of_confirmed eventBus hstore hconfirmed
  rw [hs]
  have hrun := htaken.run eventBus steps
  exact ⟨hrun.append, hrun.load_ne, htaken.run_filter eventBus rfl rfl steps⟩

end SalesArSaga

namespace Shop

open Concrete SalesArSaga

def drafted : InMemoryEventStore × List (EventEnvelope JsonValue) :=
  ((runs ledgerId).run (.new, []) (actions.take 2)).getD (.new, [])

theorem drafted_reachable : (runs ledgerId).Reachable drafted := by
  apply Machine.ReachableUnder.run (.init rfl) (fun _ _ _ => trivial)
  exact (rfl : (runs ledgerId).run (.new, []) (actions.take 2) = some drafted)

def confirmation : Except DispatchError (List StoredEvent) × InMemoryEventStore
    × List (EventEnvelope JsonValue) :=
  dispatch channel drafted.1 drafted.2
    (orderRequest key (.confirmOrder ⟨key.tenantId, orderId, ⟨0⟩⟩)) (fun _ => ⟨12⟩)

theorem confirmation_accepted
    : confirmation = (.ok (confirmation.1.toOption.getD []), confirmation.2.1,
        confirmation.2.2) := by
  rfl

def received : Emit :=
  ⟨"order_confirmed_received", .object [], ⟨20⟩, ⟨0⟩⟩

def steps : List Step :=
  [.emit received, .dispatch (call (.markInvoiced ⟨key.tenantId, orderId, ⟨0⟩⟩) ⟨13⟩)]

def desk : Desk (List (EventEnvelope JsonValue)) :=
  Desk.run key channel ⟨confirmation.2.1, confirmation.2.2, []⟩ steps

theorem emits_never_persisted_invoiced
    : desk.emitted.length = 1
      ∧ (desk.store.loadStream key).length = 4
      ∧ (load desk.store key).map StoredEvent.uncommitted ≠ desk.emitted := by
  refine ⟨rfl, rfl, ?_⟩
  exact (emits_never_persisted key channel drafted.1 confirmation.2.1
    (inv_of_reachable drafted_reachable).reachable drafted.2 confirmation.2.2 _ _ _
    confirmation_accepted steps desk rfl).2.1

-- The order is confirmed, and the first event of its saga is refused.
theorem first_emit_refused
    : (applyHistory SalesOrder.aggregate (SalesOrder.empty orderId)
          (confirmation.2.1.loadStream key)).toOption.map SalesOrder.status = some .confirmed
      ∧ (received.append key confirmation.2.1).1 = .error (.aggregateTypeMismatch
          "stream aggregate_type is 'sales.order', attempted append with 'saga.sales_ar'")
      ∧ (load confirmation.2.1 key).length = 3 := by
  exact ⟨rfl, rfl, rfl⟩

end Shop

end ForgeErp
