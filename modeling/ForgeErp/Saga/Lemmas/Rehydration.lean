import ForgeErp.Saga.Lemmas.Routing

/-!
This module contains the verification of what a saga remembers of its own events. The subscriber
writes the payloads by hand and reads them back as the derived form of an internally tagged enum.
-/

namespace ForgeErp

namespace SagaAction

-- What the subscriber hands to the repository.
def stored? (self : SagaAction) : Option (String × JsonValue) :=
  match self with
  | .emit eventType payload => some (eventType, payload)
  | .command _ _ _ => none
  | .compensate _ _ _ => none
  | .complete => some ("saga.completed", .object [])

-- The event that an action names, with its fields in the payload.
def event? (self : SagaAction) : Option SalesArSagaEvent :=
  match self with
  | .emit eventType (.object fields) =>
    (Codec.dec (.object (("type", .string eventType) :: fields)) : Except String
      SalesArSagaEvent).toOption
  | .complete => some .sagaCompleted
  | _ => none

def isCommand (self : SagaAction) (aggregateType commandType : String) : Bool :=
  match self with
  | .command aggregateType' commandType' _ =>
    aggregateType' == aggregateType && commandType' == commandType
  | _ => false

end SagaAction

namespace SalesArSaga

variable [TextFormat Uuid] [TextFormat DateTime] {tenantId : TenantId} {correlation : SalesOrderId}

def streamKey (tenantId : TenantId) (correlation : SalesOrderId) : StreamKey :=
  ⟨tenantId, sagaId tenantId correlation⟩

/--
What the loop over the actions of one reaction does to the store through the repository.
-/
def persist (env : Surroundings) (tenantId : TenantId) (correlation : SalesOrderId)
    (store : InMemoryEventStore) (idx : Nat) (actions : List SagaAction)
    : InMemoryEventStore :=
  match actions with
  | [] => store
  | action :: actions =>
    match action.stored? with
    | some (eventType, payload) =>
      let store := (SagaRepository.appendEmit saga store tenantId (sagaId tenantId correlation)
        eventType payload (env.uuid idx 0) (env.now idx 0)).2
      persist env tenantId correlation store (idx + 1) actions
    | none => persist env tenantId correlation store (idx + 1) actions

def reaction (env : Surroundings) (tenantId : TenantId) (correlation : SalesOrderId)
    (store : InMemoryEventStore) (envelope : EventEnvelope JsonValue)
    : List SagaAction :=
  react (env.uuid 0 0) (env.now 0 0) (saga.rehydrate store tenantId correlation)
    tenantId correlation
    envelope

def applyAll (state : SalesArSagaState) (actions : List SagaAction) : SalesArSagaState :=
  (actions.filterMap SagaAction.event?).foldl apply state

/--
The saga finds itself where its own events say that it is.
-/
def Remembers (env : Surroundings) (tenantId : TenantId) (correlation : SalesOrderId)
    (store : InMemoryEventStore) (envelope : EventEnvelope JsonValue)
    : Prop :=
  saga.rehydrate (persist env tenantId correlation store 1
      (reaction env tenantId correlation store envelope)) tenantId correlation
    = applyAll (saga.rehydrate store tenantId correlation)
        (reaction env tenantId correlation store envelope)

/--
One event of the order after the other is handed to its saga, of which the actions are collected.
-/
def deliverAll (tenantId : TenantId) (correlation : SalesOrderId) (store : InMemoryEventStore)
    (deliveries : List (Surroundings × EventEnvelope JsonValue))
    : List SagaAction :=
  match deliveries with
  | [] => []
  | (env, envelope) :: deliveries =>
    let actions := reaction env tenantId correlation store envelope
    actions ++ deliverAll tenantId correlation (persist env tenantId correlation store 1 actions)
      deliveries

def confirms (envelope : EventEnvelope JsonValue) : Bool :=
  envelope.aggregateType == "sales.order" &&
    match envelope.payload with
    | .object (("OrderConfirmed", _) :: _) => true
    | _ => false

theorem rehydrate_eq_of_loadStream {store store' : InMemoryEventStore} {added : List StoredEvent}
    (hload : store'.loadStream (streamKey tenantId correlation)
      = store.loadStream (streamKey tenantId correlation) ++ added)
    (hadded : ∀ e ∈ added, Untyped e.payload)
    : saga.rehydrate store' tenantId correlation = saga.rehydrate store tenantId correlation := by
  have hload : store'.loadStream ⟨tenantId, saga.sagaId tenantId correlation⟩
      = store.loadStream ⟨tenantId, saga.sagaId tenantId correlation⟩ ++ added := hload
  unfold Saga.rehydrate SagaRepository.load
  dsimp only
  rw [hload, List.foldl_append]
  apply foldl_advance_of_untyped hadded

/--
Every event in the stream of the saga is one of its own.
-/
def Owned (tenantId : TenantId) (correlation : SalesOrderId) (store : InMemoryEventStore) : Prop :=
  ∀ e ∈ store.loadStream (streamKey tenantId correlation), e.aggregateType = sagaType

theorem loadStream_appendEmit {store : InMemoryEventStore} (h : Owned tenantId correlation store)
    (eventType : String) (payload : JsonValue) (eventId : Uuid) (now : DateTime)
    : ∃ n, (SagaRepository.appendEmit saga store tenantId (sagaId tenantId correlation)
        eventType payload
          eventId now).2.loadStream (streamKey tenantId correlation)
        = store.loadStream (streamKey tenantId correlation)
          ++ [(SagaRepository.emitted saga tenantId (sagaId tenantId correlation)
            eventType payload eventId
            now).toStored n] := by
  have houtcome := InMemoryEventStore.append_outcome store
    [SagaRepository.emitted saga tenantId (sagaId tenantId correlation) eventType payload
      eventId now] .any
  unfold SagaRepository.appendEmit
  generalize hemitted : SagaRepository.emitted saga tenantId (sagaId tenantId correlation) eventType
    payload eventId now = u at houtcome ⊢
  have hkey : u.key = streamKey tenantId correlation := by
    rw [← hemitted]
    rfl
  have htype : u.aggregateType = sagaType := by
    rw [← hemitted]
    rfl
  generalize store.append [u] .any = result at houtcome ⊢
  cases houtcome with
  | invalid herr =>
    have huniform : InMemoryEventStore.Uniform u.key u.aggregateType [u] := by
      simp [InMemoryEventStore.Uniform]
    rw [InMemoryEventStore.validateBatch_eq_ok_iff.mpr huniform] at herr
    cases herr
  | conflict _ hmatch => cases hmatch
  | typeMismatch _ _ hhead hne =>
    rw [hkey] at hhead
    rw [htype] at hne
    apply absurd (h _ (List.mem_of_head? hhead)) hne
  | committed _ _ _ hcommitted =>
    rw [hcommitted]
    dsimp only
    rw [InMemoryEventStore.loadStream_insert, if_pos hkey.symm, hkey]
    exact ⟨_, rfl⟩

theorem Owned.appendEmit {store : InMemoryEventStore} (h : Owned tenantId correlation store)
    (eventType : String) (payload : JsonValue) (eventId : Uuid) (now : DateTime)
    : Owned tenantId correlation (SagaRepository.appendEmit saga store tenantId
        (sagaId tenantId correlation) eventType payload eventId now).2 := by
  rcases loadStream_appendEmit h eventType payload eventId now with ⟨n, hload⟩
  intro e he
  rw [hload, List.mem_append, List.mem_singleton] at he
  rcases he with he | rfl
  . apply h e he
  . rfl

theorem loadStream_persist {store : InMemoryEventStore} (h : Owned tenantId correlation store)
    (env : Surroundings) (idx : Nat) (actions : List SagaAction)
    : ∃ added, (persist env tenantId correlation store idx actions).loadStream
            (streamKey tenantId correlation)
          = store.loadStream (streamKey tenantId correlation) ++ added
        ∧ added.map (fun e => (e.eventType, e.payload)) = actions.filterMap SagaAction.stored?
        ∧ Owned tenantId correlation (persist env tenantId correlation store idx actions) := by
  induction actions generalizing store idx with
  | nil => exact ⟨[], (List.append_nil _).symm, rfl, h⟩
  | cons action actions ih =>
    unfold persist
    cases hstored : action.stored? with
    | none =>
      rw [List.filterMap_cons_none hstored]
      apply ih h
    | some entry =>
      rcases entry with ⟨eventType, payload⟩
      rw [List.filterMap_cons_some hstored]
      dsimp only
      rcases loadStream_appendEmit h eventType payload (env.uuid idx 0) (env.now idx 0)
          with ⟨n, hload⟩
      rcases ih (h.appendEmit eventType payload (env.uuid idx 0) (env.now idx 0)) (idx + 1)
        with ⟨added, hadded, hpayloads, howned⟩
      rw [hload, List.append_assoc] at hadded
      refine ⟨_, hadded, ?_, howned⟩
      rw [List.singleton_append, List.map_cons, hpayloads]
      rfl

section React

variable (entryId : Uuid) (now : DateTime) (tenantId) (correlation)
  (envelope : EventEnvelope JsonValue)

theorem react_cases (state : SalesArSagaState)
    : react entryId now state tenantId correlation envelope = []
      ∨ (state = .waitingForOrderConfirmed ∧ confirms envelope = true
        ∧ react entryId now state tenantId correlation envelope
            = onOrderConfirmed tenantId correlation)
      ∨ (state = .waitingForInvoiceIssued
        ∧ ∃ invoiceId, react entryId now state tenantId correlation envelope
            = onInvoiceIssued entryId now tenantId invoiceId)
      ∨ ((∃ invoiceId, state = .waitingForLedgerPosted invoiceId)
        ∧ react entryId now state tenantId correlation envelope
            = [.emit "ledger_posted_received" (.object []), .complete]) := by
  by_cases hreact : react entryId now state tenantId correlation envelope = []
  . exact .inl hreact
  . refine .inr ?_
    cases state with
    | waitingForOrderConfirmed =>
      rcases react_waitingForOrderConfirmed.mp hreact with ⟨htype, body, rest, hpayload⟩
      refine .inl ⟨rfl, ?_, ?_⟩
      . simp [confirms, htype, hpayload]
      . simp [react, htype, hpayload]
    | waitingForInvoiceIssued =>
      rcases react_waitingForInvoiceIssued.mp hreact with
        ⟨htype, obj, evt, invoiceId, hpayload, hevt, hid⟩
      refine .inr (.inl ⟨rfl, invoiceId, ?_⟩)
      simp [react, htype, hpayload, hevt, hid]
    | waitingForLedgerPosted invoiceId =>
      rcases react_waitingForLedgerPosted.mp hreact with ⟨htype, obj, body, hpayload, hbody⟩
      refine .inr (.inr ⟨⟨invoiceId, rfl⟩, ?_⟩)
      simp [react, htype, hpayload, hbody]
    | completed => exact absurd rfl hreact
    | failed => exact absurd rfl hreact

variable {entryId now tenantId correlation envelope}

theorem untyped_of_react {state : SalesArSagaState} {entry : String × JsonValue}
    (h : entry ∈ (react entryId now state tenantId correlation envelope).filterMap
      SagaAction.stored?)
    : Untyped entry.2 := by
  rcases react_cases tenantId correlation entryId now envelope state with
    hreact | ⟨-, -, hreact⟩ | ⟨-, invoiceId, hreact⟩ | ⟨-, hreact⟩
  all_goals rw [hreact] at h
  . cases h
  . simp only [onOrderConfirmed, List.filterMap_cons, List.filterMap_nil, SagaAction.stored?,
      List.mem_cons, List.not_mem_nil, or_false] at h
    rcases h with rfl | rfl <;> exact ⟨_, rfl, rfl⟩
  . simp only [onInvoiceIssued, List.filterMap_cons, List.filterMap_nil, SagaAction.stored?,
      List.mem_cons, List.not_mem_nil, or_false] at h
    rcases h with rfl | rfl <;> exact ⟨_, rfl, rfl⟩
  . simp only [List.filterMap_cons, List.filterMap_nil, SagaAction.stored?, List.mem_cons,
      List.not_mem_nil, or_false] at h
    rcases h with rfl | rfl <;> exact ⟨_, rfl, rfl⟩

theorem applyAll_react_ne {state : SalesArSagaState}
    (h : react entryId now state tenantId correlation envelope ≠ [])
    : applyAll state (react entryId now state tenantId correlation envelope) ≠ state := by
  rcases react_cases tenantId correlation entryId now envelope state with
    hreact | ⟨rfl, -, hreact⟩ | ⟨rfl, invoiceId, hreact⟩ | ⟨⟨invoiceId, rfl⟩, hreact⟩
  . exact absurd hreact h
  all_goals
    rw [hreact]
    intro heq
    cases heq

end React

theorem rehydrate_persist {store : InMemoryEventStore} (h : Owned tenantId correlation store)
    (env : Surroundings) (envelope : EventEnvelope JsonValue)
    : saga.rehydrate (persist env tenantId correlation store 1
          (reaction env tenantId correlation store envelope)) tenantId correlation
        = saga.rehydrate store tenantId correlation := by
  rcases loadStream_persist h env 1 (reaction env tenantId correlation store envelope)
    with ⟨added, hadded, hpayloads, -⟩
  apply rehydrate_eq_of_loadStream hadded
  intro e he
  have hentry : (e.eventType, e.payload) ∈ added.map (fun e => (e.eventType, e.payload)) :=
    List.mem_map_of_mem he
  rw [hpayloads] at hentry
  apply untyped_of_react hentry

theorem not_remembers {store : InMemoryEventStore} (h : Owned tenantId correlation store)
    {env : Surroundings} {envelope : EventEnvelope JsonValue}
    (hreact : reaction env tenantId correlation store envelope ≠ [])
    : ¬ Remembers env tenantId correlation store envelope := by
  unfold Remembers
  rw [rehydrate_persist h]
  apply (applyAll_react_ne hreact).symm

theorem reaction_of_initial {store : InMemoryEventStore} (env : Surroundings)
    (envelope : EventEnvelope JsonValue)
    (h : saga.rehydrate store tenantId correlation = .waitingForOrderConfirmed)
    : reaction env tenantId correlation store envelope
        = if confirms envelope then onOrderConfirmed tenantId correlation else [] := by
  unfold reaction
  rw [h]
  rcases react_cases tenantId correlation (env.uuid 0 0) (env.now 0 0) envelope
    SalesArSagaState.waitingForOrderConfirmed with hreact | ⟨-, hconfirms, hreact⟩ | ⟨hstate, -⟩
    | ⟨⟨invoiceId, hstate⟩, -⟩
  . have hconfirms : confirms envelope = false := by
      rw [Bool.eq_false_iff]
      intro hconfirms
      apply react_waitingForOrderConfirmed.mpr _ hreact
      unfold confirms at hconfirms
      rw [Bool.and_eq_true, beq_iff_eq] at hconfirms
      refine ⟨hconfirms.1, ?_⟩
      have hmatch := hconfirms.2
      split at hmatch
      . next body rest hpayload => exact ⟨body, rest, hpayload⟩
      . cases hmatch
    rw [hreact, hconfirms]
    rfl
  . rw [hreact, hconfirms]
    rfl
  . cases hstate
  . cases hstate

theorem deliverAll_of_initial {store : InMemoryEventStore} (h : Owned tenantId correlation store)
    (hstate : saga.rehydrate store tenantId correlation = .waitingForOrderConfirmed)
    (deliveries : List (Surroundings × EventEnvelope JsonValue))
    : deliverAll tenantId correlation store deliveries
        = (deliveries.filter (fun delivery => confirms delivery.2)).flatMap
            (fun _ => onOrderConfirmed tenantId correlation) := by
  induction deliveries generalizing store with
  | nil => rfl
  | cons delivery deliveries ih =>
    rcases delivery with ⟨env, envelope⟩
    unfold deliverAll
    dsimp only
    rcases loadStream_persist h env 1 (reaction env tenantId correlation store envelope)
      with ⟨-, -, -, howned⟩
    rw [ih howned ((rehydrate_persist h env envelope).trans hstate),
      reaction_of_initial env envelope hstate]
    by_cases hconfirms : confirms envelope = true
    . simp [hconfirms]
    . simp [hconfirms]

def countCommands (actions : List SagaAction) (aggregateType commandType : String) : Nat :=
  actions.countP (fun action => action.isCommand aggregateType commandType)

omit [TextFormat DateTime] in
theorem countCommands_flatMap (confirmations : List (Surroundings × EventEnvelope JsonValue))
    (aggregateType commandType : String)
    : countCommands (confirmations.flatMap (fun _ => onOrderConfirmed tenantId correlation))
        aggregateType
          commandType
        = confirmations.length
          * countCommands (onOrderConfirmed tenantId correlation) aggregateType commandType := by
  unfold countCommands
  induction confirmations with
  | nil => simp
  | cons confirmation confirmations ih =>
    rw [List.flatMap_cons, List.countP_append, ih, List.length_cons, Nat.add_one_mul, Nat.add_comm]

/--
At most one invoice is asked for, and at most one entry in the ledger.
-/
def AtMostOnce (actions : List SagaAction) : Prop :=
  countCommands actions "Invoice" "IssueInvoice" ≤ 1
    ∧ countCommands actions "Ledger" "PostJournalEntry" ≤ 1

theorem atMostOnce_deliverAll_iff {store : InMemoryEventStore}
    (h : store.loadStream (streamKey tenantId correlation) = [])
    (deliveries : List (Surroundings × EventEnvelope JsonValue))
    : AtMostOnce (deliverAll tenantId correlation store deliveries)
        ↔ deliveries.countP (fun delivery => confirms delivery.2) ≤ 1 := by
  have howned : Owned tenantId correlation store := by
    intro e he
    rw [h] at he
    cases he
  have hstate : saga.rehydrate store tenantId correlation = .waitingForOrderConfirmed := by
    apply rehydrate_of_tagged
    intro e he
    rw [show store.loadStream ⟨tenantId, correlation.aggregateId⟩ = [] from h] at he
    cases he
  have hissue : countCommands (onOrderConfirmed tenantId correlation) "Invoice" "IssueInvoice"
    = 1 := by
    rfl
  have hpost : countCommands (onOrderConfirmed tenantId correlation) "Ledger" "PostJournalEntry"
    = 0 := by
    rfl
  unfold AtMostOnce
  rw [deliverAll_of_initial howned hstate, countCommands_flatMap,
    countCommands_flatMap, hissue, hpost,
    List.countP_eq_length_filter]
  omega

theorem remembers_never (tenantId : TenantId) (correlation : SalesOrderId)
    : (∀ (state : SalesArSagaState) (store : InMemoryEventStore) (env : Surroundings)
        (envelope : EventEnvelope JsonValue),
        Owned tenantId correlation store →
        saga.rehydrate store tenantId correlation = state →
        react (env.uuid 0 0) (env.now 0 0) state tenantId correlation envelope ≠ [] →
          ¬ Remembers env tenantId correlation store envelope)
      ∧ ∀ (store : InMemoryEventStore) (deliveries : List (Surroundings × EventEnvelope JsonValue)),
        store.loadStream (streamKey tenantId correlation) = [] →
          (AtMostOnce (deliverAll tenantId correlation store deliveries)
            ↔ deliveries.countP (fun delivery => confirms delivery.2) ≤ 1) := by
  constructor
  . rintro _ store env envelope howned rfl hreact
    apply not_remembers howned hreact
  . intro store deliveries hstore
    apply atMostOnce_deliverAll_iff hstore deliveries

end SalesArSaga

namespace Shop

open Concrete SalesArSaga

def confirmedEnvelope : EventEnvelope JsonValue where
  eventId := ⟨12⟩
  tenantId := key.tenantId
  aggregateId := key.aggregateId
  aggregateType := "sales.order"
  sequenceNumber := 3
  payload := Codec.enc (SalesOrderEvent.orderConfirmed ⟨key.tenantId, orderId, ⟨0⟩⟩)

theorem remembers_never_confirmation
    : ¬ Remembers env key.tenantId orderId .new confirmedEnvelope
      ∧ ¬ AtMostOnce (deliverAll key.tenantId orderId .new
          [(env, confirmedEnvelope), (env, confirmedEnvelope)]) := by
  have h := remembers_never key.tenantId orderId
  constructor
  . apply h.1 .waitingForOrderConfirmed .new env confirmedEnvelope
    . intro e he
      cases he
    . rfl
    . intro hreact
      cases hreact
  . rw [h.2 .new _ rfl]
    decide

-- After its first reaction the saga is where it was, and the second delivery asks for a second
-- invoice.
theorem confirmation_forgotten
    : Owned key.tenantId orderId .new
      ∧ reaction env key.tenantId orderId .new confirmedEnvelope ≠ []
      ∧ ¬ Remembers env key.tenantId orderId .new confirmedEnvelope
      ∧ countCommands (deliverAll key.tenantId orderId .new
          [(env, confirmedEnvelope), (env, confirmedEnvelope)]) "Invoice" "IssueInvoice" = 2 := by
  refine ⟨?_, ?_, ?_, rfl⟩
  . intro e he
    cases he
  . intro hreact
    cases hreact
  . intro hremembers
    have hstates : SalesArSagaState.waitingForOrderConfirmed = .waitingForInvoiceIssued :=
      hremembers
    cases hstates

end Shop

end ForgeErp
