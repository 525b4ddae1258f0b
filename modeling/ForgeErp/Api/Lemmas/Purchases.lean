import ForgeErp.Api.Purchases
import ForgeErp.Core.Text
import ForgeErp.Dispatcher.Lemmas.Sequential
import ForgeErp.Domain.Lemmas.Decisions
import ForgeErp.Library.JsonText

/-!
This module contains the verification of the route that creates purchase orders. Once the order
itself is in the store, whatever stops the loop over the lines leaves the order behind with the
lines so far.
-/

namespace ForgeErp

namespace Purchases

open CommandDispatcher
open Admin (Services)

section Permissions

variable {tenant : TenantContext} {principal : PrincipalContext} {required : String}

theorem authorizeCommand_eq_ok_iff
    : authorizeCommand tenant principal [required] = .ok ()
        ↔ "*" ∈ permissionsFromRoles principal.roles
            ∨ required ∈ permissionsFromRoles principal.roles := by
  unfold authorizeCommand authorizeCommand.go authorize
  dsimp only
  rw [if_neg (not_not_intro rfl)]
  by_cases hperm : "*" ∈ permissionsFromRoles principal.roles
      ∨ required ∈ permissionsFromRoles principal.roles
  . rw [if_pos (by simpa using hperm)]
    simp [authorizeCommand.go, hperm]
  . rw [if_neg (by simpa using hperm)]
    simp [hperm]

theorem not_mem_defaultRolePermissions (role : String)
    : "purchases.orders.create" ∉ defaultRolePermissions role := by
  unfold defaultRolePermissions
  split <;> decide

-- No role comes with one of the two permissions, so that whoever creates an order may add lines.
theorem authorizeCommand_add_line
    (h : authorizeCommand tenant principal ["purchases.orders.create"] = .ok ())
    : authorizeCommand tenant principal ["purchases.orders.add_line"] = .ok () := by
  rw [authorizeCommand_eq_ok_iff] at h ⊢
  rcases h with hall | hcreate
  . exact Or.inl hall
  . unfold permissionsFromRoles at hcreate
    rcases List.mem_flatMap.mp hcreate with ⟨role, _, hrole⟩
    exact absurd hrole (not_mem_defaultRolePermissions role.asStr)

end Permissions

section Responses

variable [ResponseText]

theorem jsonError_isSuccess {status : Nat} (h : 300 ≤ status) (code message : String)
    : (jsonError status code message).isSuccess = false := by
  unfold HttpResponse.isSuccess jsonError
  dsimp only
  rw [decide_eq_false (Nat.not_lt.mpr h), Bool.and_false]

omit [ResponseText] in
theorem status_ne_created {response : HttpResponse} (h : response.isSuccess = false)
    : response.status ≠ 201 := by
  intro hcreated
  unfold HttpResponse.isSuccess at h
  rw [hcreated] at h
  cases h

theorem dispatchErrorToResponse_isSuccess (err : DispatchError)
    : (dispatchErrorToResponse err).isSuccess = false := by
  cases err with
  | _ => exact jsonError_isSuccess (by decide) _ _

end Responses

section Events

variable (key : StreamKey) (surroundings : Surroundings)

def creation (supplier : Uuid) : PurchaseOrderEvent :=
  .purchaseOrderCreated ⟨key.tenantId, ⟨key.aggregateId⟩, ⟨⟨supplier⟩⟩, surroundings.now 0⟩

-- The line that comes after `n` others.
def addition (n : Nat) (line : Uuid × Int64) : PurchaseOrderEvent :=
  .purchaseOrderLineAdded ⟨key.tenantId, ⟨key.aggregateId⟩, UInt32.ofNat n + 1, ⟨⟨line.1⟩⟩, line.2,
    surroundings.now (n + 1)⟩

def parseLines [TextFormat Uuid] (lines : List PurchaseOrderLineRequest)
    : Option (List (Uuid × Int64)) :=
  lines.mapM fun l => (TextFormat.parse l.productId).map fun product => (product, l.quantity)

variable [TextFormat Uuid] [TextFormat DateTime]

-- The event that the command number `i` adds to the stream.
def storedEvent (i : Nat) (ev : PurchaseOrderEvent) : StoredEvent where
  eventId := surroundings.freshId i 0
  tenantId := key.tenantId
  aggregateId := key.aggregateId
  aggregateType := "purchasing.order"
  sequenceNumber := i + 1
  eventType := Event.eventType ev
  eventVersion := Event.version ev
  occurredAt := Event.occurredAt ev
  payload := Codec.enc ev

def createdEvent (supplier : Uuid) : StoredEvent :=
  storedEvent key surroundings 0 (creation key surroundings supplier)

def lineEvent (n : Nat) (line : Uuid × Int64) : StoredEvent :=
  storedEvent key surroundings (n + 1) (addition key surroundings n line)

def additions (n : Nat) (lines : List (Uuid × Int64)) : List StoredEvent :=
  match lines with
  | [] => []
  | line :: lines =>
    lineEvent key surroundings n line :: additions (n + 1) lines

-- One event for the order and one for each of its lines.
def orderStream (supplier : Uuid) (lines : List (Uuid × Int64)) : List StoredEvent :=
  createdEvent key surroundings supplier :: additions key surroundings 0 lines

end Events

section Dispatches

variable {B : Type} {eventBus : EventBus B (EventEnvelope JsonValue)} {services : Services B}
  {key : StreamKey}

-- The services after an event has been stored and given to the bus.
def recorded (eventBus : EventBus B (EventEnvelope JsonValue)) (services : Services B)
    (key : StreamKey)
    (e : StoredEvent)
    : Services B where
  store := ⟨services.store.streams.insert key (services.store.loadStream key ++ [e])⟩
  bus := (publishAll eventBus services.bus [e]).2

theorem loadStream_recorded (e : StoredEvent)
    : (recorded eventBus services key e).store.loadStream key
        = services.store.loadStream key ++ [e] := by
  unfold recorded
  rw [InMemoryEventStore.loadStream_insert, if_pos rfl]

variable [TextFormat Uuid] [TextFormat DateTime] {command : PurchaseOrderCommand}
  {freshId : Nat → Uuid}

theorem dispatch_faulty (hsome : ∀ order : PurchaseOrder, order.handle command ≠ .ok [])
    (fault : StoreFault)
    : ∃ err, dispatch eventBus services key command freshId (some fault)
        = (.error err, services) := by
  cases fault with
  | load err => exact ⟨_, rfl⟩
  | append err =>
    unfold dispatch
    dsimp only
    cases hdecide : decideEvents (orderRequest key command) (services.store.loadStream key) freshId
      with
    | error err' => exact ⟨err', rfl⟩
    | ok decision =>
      cases decision with
      | none => exact absurd hdecide (decideEvents_ne_none hsome)
      | some decision => exact ⟨_, rfl⟩

theorem dispatch_refused (hstore : services.store.WellFormed)
    (hsome : ∀ order : PurchaseOrder, order.handle command ≠ .ok [])
    (hnot : ∀ state decided committed,
      ¬ Decides (orderRequest key command) (services.store.loadStream key) freshId state
        decided committed)
    : ∃ err, dispatch eventBus services key command freshId none = (.error err, services) := by
  rcases dispatch_of_not_decides eventBus hstore services.bus hnot hsome with ⟨err, herr⟩
  unfold dispatch
  dsimp only
  rw [herr]
  exact ⟨err, rfl⟩

theorem dispatch_recorded (eventBus : EventBus B (EventEnvelope JsonValue))
    (hstore : services.store.WellFormed) {state : PurchaseOrder}
    {decided : List PurchaseOrderEvent} {e : StoredEvent}
    (h : Decides (orderRequest key command) (services.store.loadStream key) freshId
      state decided [e])
    : dispatch eventBus services key command freshId none
        = ((publishAll eventBus services.bus [e]).1.map (fun _ => [e]),
            recorded eventBus services key e) := by
  unfold dispatch
  dsimp only
  rw [dispatch_of_decides eventBus hstore services.bus h]
  rfl

theorem recorded_reachable (hstore : services.store.Reachable) {state : PurchaseOrder}
    {decided : List PurchaseOrderEvent} {e : StoredEvent}
    (h : Decides (orderRequest key command) (services.store.loadStream key) freshId
      state decided [e])
    : (recorded eventBus services key e).store.Reachable := by
  have hreachable := dispatch_reachable eventBus hstore services.bus
    (orderRequest key command) freshId
  rw [dispatch_of_decides eventBus hstore.wellFormed services.bus h] at hreachable
  exact hreachable

end Dispatches

section Drafts

variable {key : StreamKey} {surroundings : Surroundings} {n : Nat} {line : Uuid × Int64}

-- The order exists, lines can still be added to it, and there are `n` of them.
structure Drafted (key : StreamKey) (n : Nat) (order : PurchaseOrder) : Prop where
  created : order.created = true
  tenantId : order.tenantId = some key.tenantId
  id : order.id = ⟨key.aggregateId⟩
  status : order.status = .draft
  lines : order.lines.length = n

def createCommand (key : StreamKey) (surroundings : Surroundings) (supplier : Uuid)
    : PurchaseOrderCommand :=
  .createPurchaseOrder ⟨key.tenantId, ⟨key.aggregateId⟩, ⟨⟨supplier⟩⟩, surroundings.now 0⟩

def addCommand (key : StreamKey) (surroundings : Surroundings) (n : Nat) (line : Uuid × Int64)
    : PurchaseOrderCommand :=
  .addLine ⟨key.tenantId, ⟨key.aggregateId⟩, ⟨⟨line.1⟩⟩, line.2, surroundings.now (n + 1)⟩

theorem handle_createCommand_ne_nil (supplier : Uuid) (order : PurchaseOrder)
    : order.handle (createCommand key surroundings supplier) ≠ .ok [] := by
  intro h
  have hdecided := (PurchaseOrder.handleCreate_eq_ok_iff.mp h).2
  cases hdecided

theorem handle_addCommand_ne_nil (order : PurchaseOrder)
    : order.handle (addCommand key surroundings n line) ≠ .ok [] := by
  intro h
  have hdecided := (PurchaseOrder.handleAddLine_eq_ok_iff.mp h).2.2.2.2.2
  cases hdecided

theorem Drafted.handle {order : PurchaseOrder} (h : Drafted key n order) (hquantity : 0 < line.2)
    : order.handle (addCommand key surroundings n line)
        = .ok [addition key surroundings n line] := by
  apply PurchaseOrder.handleAddLine_eq_ok_iff.mpr
  refine ⟨h.created, h.tenantId, h.id, h.status, Int64.not_le.mpr hquantity, ?_⟩
  rw [h.lines]
  rfl

variable [TextFormat Uuid] [TextFormat DateTime] {store : InMemoryEventStore}

structure Draft (store : InMemoryEventStore) (key : StreamKey) (n : Nat) : Prop where
  drafted : ∃ evs : List PurchaseOrder.aggregate.Event, StreamOf (store.loadStream key) evs
    ∧ Drafted key n (PurchaseOrder.aggregate.rehydrate (PurchaseOrder.empty ⟨key.aggregateId⟩) evs)
  length : (store.loadStream key).length = n + 1
  sameType : ∀ e ∈ store.loadStream key, e.aggregateType = "purchasing.order"

theorem create_decides (surroundings : Surroundings) (supplier : Uuid)
    (hfresh : store.loadStream key = [])
    : Decides (orderRequest key (createCommand key surroundings supplier)) (store.loadStream key)
        (surroundings.freshId 0) (PurchaseOrder.empty ⟨key.aggregateId⟩)
          [creation key surroundings supplier]
        [createdEvent key surroundings supplier] := by
  rw [hfresh]
  constructor
  . rfl
  . rfl
  . simp
  . exact ⟨_, rfl, rfl⟩
  . intro e he
    cases he

theorem draft_created {store' : InMemoryEventStore} {supplier : Uuid}
    (hstream : store'.loadStream key = [createdEvent key surroundings supplier])
    : Draft store' key 0 := by
  constructor
  . refine ⟨[creation key surroundings supplier], ?_, ⟨rfl, rfl, rfl, rfl, rfl⟩⟩
    rw [hstream]
    exact .cons ⟨rfl, rfl, rfl, rfl⟩ .nil
  . rw [hstream]
    rfl
  . intro e he
    rw [hstream, List.mem_singleton] at he
    rw [he]
    rfl

theorem add_decides (hstore : store.WellFormed) (hdraft : Draft store key n)
    (hquantity : 0 < line.2)
    : ∃ order, Decides (orderRequest key (addCommand key surroundings n line))
        (store.loadStream key)
        (surroundings.freshId (n + 1)) order [addition key surroundings n line]
        [lineEvent key surroundings n line] := by
  rcases hdraft.drafted with ⟨evs, hstream, horder⟩
  refine ⟨_, applyHistory_eq (hstore key).numbered hstream _, horder.handle hquantity,
    by simp, ⟨_, rfl, ?_⟩,
    hdraft.sameType⟩
  rw [hdraft.length]
  rfl

theorem add_not_decides (hquantity : ¬ 0 < line.2) {freshId : Nat → Uuid}
    (history : List StoredEvent)
    : ∀ state decided committed,
        ¬ Decides (orderRequest key (addCommand key surroundings n line)) history
          freshId state decided
          committed := by
  intro state decided committed h
  have hpositive := (PurchaseOrder.handleAddLine_eq_ok_iff.mp h.handle).2.2.2.2.1
  exact hquantity (Int64.not_le.mp hpositive)

theorem draft_added (hdraft : Draft store key n) {store' : InMemoryEventStore}
    (hstream : store'.loadStream key
      = store.loadStream key ++ [lineEvent key surroundings n line])
    : Draft store' key (n + 1) := by
  rcases hdraft.drafted with ⟨evs, hevs, horder⟩
  let added : List PurchaseOrder.aggregate.Event := [addition key surroundings n line]
  have hadded : StreamOf [lineEvent key surroundings n line] added :=
    .cons ⟨rfl, rfl, rfl, rfl⟩ .nil
  constructor
  . refine ⟨evs ++ added, ?_, ?_⟩
    . rw [hstream]
      exact hevs.append hadded
    . have happend := PurchaseOrder.aggregate.rehydrate_append
        (PurchaseOrder.empty ⟨key.aggregateId⟩) evs added
      refine happend ▸ ⟨horder.created, horder.tenantId, horder.id, horder.status, ?_⟩
      exact (List.length_append).trans (congrArg (· + 1) horder.lines)
  . rw [hstream, List.length_append, hdraft.length]
    rfl
  . intro e he
    rw [hstream, List.mem_append, List.mem_singleton] at he
    rcases he with he | rfl
    . exact hdraft.sameType e he
    . rfl

end Drafts

section Lines

variable {B : Type} {eventBus : EventBus B (EventEnvelope JsonValue)}

theorem publishAll_cons_eq_ok {bus : B} {e : StoredEvent} {rest : List StoredEvent}
    : (publishAll eventBus bus (e :: rest)).1 = .ok ()
        ↔ (publishAll eventBus bus [e]).1 = .ok ()
          ∧ (publishAll eventBus (publishAll eventBus bus [e]).2 rest).1 = .ok () := by
  rcases hpublish : eventBus.publish bus e.toEnvelope with ⟨result, bus'⟩
  cases result with
  | error err => simp [publishAll.eq_def eventBus bus, hpublish]
  | ok _ =>
    have hone : publishAll eventBus bus [e] = (.ok (), bus') := by simp [publishAll, hpublish]
    rw [hone]
    simp [publishAll.eq_def eventBus bus, hpublish]

theorem parseLines_cons [TextFormat Uuid] {l : PurchaseOrderLineRequest}
    {lines : List PurchaseOrderLineRequest}
    {parsed : List (Uuid × Int64)}
    : parseLines (l :: lines) = some parsed
        ↔ ∃ product rest, TextFormat.parse l.productId = some product ∧ parseLines lines = some rest
            ∧ parsed = (product, l.quantity) :: rest := by
  unfold parseLines
  rw [List.mapM_cons]
  cases hproduct : (TextFormat.parse l.productId : Option Uuid) with
  | none => simp
  | some product =>
    cases hrest : lines.mapM
        fun l => (TextFormat.parse l.productId : Option Uuid).map
          fun product => (product, l.quantity) with
    | none => simp
    | some rest => simp [eq_comm]

variable [TextFormat Uuid] [TextFormat DateTime] {surroundings : Surroundings} {key : StreamKey}
  {services services' : Services B} {n : Nat} {l : PurchaseOrderLineRequest}
  {lines : List PurchaseOrderLineRequest} {product : Uuid}

-- Nothing stops the loop: all the lines can be added, stored and published.
structure LinesComplete (eventBus : EventBus B (EventEnvelope JsonValue)) (key : StreamKey)
    (surroundings : Surroundings) (bus : B) (n : Nat) (lines : List PurchaseOrderLineRequest)
    (parsed : List (Uuid × Int64))
    : Prop where
  parse : parseLines lines = some parsed
  positive : ∀ l ∈ lines, 0 < l.quantity
  faultless : ∀ i, n < i → i ≤ n + lines.length → surroundings.fault i = none
  published : (publishAll eventBus bus (additions key surroundings n parsed)).1 = .ok ()

structure LineTaken (eventBus : EventBus B (EventEnvelope JsonValue)) (key : StreamKey)
    (surroundings : Surroundings) (bus : B) (n : Nat) (line : Uuid × Int64)
    : Prop where
  positive : 0 < line.2
  faultless : surroundings.fault (n + 1) = none
  published : (publishAll eventBus bus [lineEvent key surroundings n line]).1 = .ok ()

theorem linesComplete_cons {bus : B} {parsed : List (Uuid × Int64)}
    (hproduct : TextFormat.parse l.productId = some product)
    : LinesComplete eventBus key surroundings bus n (l :: lines) ((product, l.quantity) :: parsed)
        ↔ LineTaken eventBus key surroundings bus n (product, l.quantity)
          ∧ LinesComplete eventBus key surroundings
              (publishAll eventBus bus [lineEvent key surroundings n (product, l.quantity)]).2
              (n + 1) lines parsed := by
  constructor
  . rintro ⟨hparsed, hpositive, hfault, hpublished⟩
    rcases parseLines_cons.mp hparsed with ⟨_, _, _, hrest, hcons⟩
    cases hcons
    rw [additions, publishAll_cons_eq_ok] at hpublished
    rw [List.forall_mem_cons] at hpositive
    refine ⟨⟨hpositive.1, hfault (n + 1) (by omega) (by simp), hpublished.1⟩,
      hrest, hpositive.2, ?_,
      hpublished.2⟩
    intro i hlt hle
    apply hfault i (by omega)
    rw [List.length_cons]
    omega
  . rintro ⟨htaken, hrest⟩
    refine ⟨parseLines_cons.mpr ⟨product, parsed, hproduct, hrest.parse, rfl⟩, ?_, ?_, ?_⟩
    . rw [List.forall_mem_cons]
      exact ⟨htaken.positive, hrest.positive⟩
    . intro i hlt hle
      rw [List.length_cons] at hle
      by_cases hfirst : i = n + 1
      . rw [hfirst]
        exact htaken.faultless
      . exact hrest.faultless i (by omega) (by omega)
    . rw [additions, publishAll_cons_eq_ok]
      exact ⟨htaken.published, hrest.published⟩

theorem not_linesComplete {bus : B} (hproduct : TextFormat.parse l.productId = some product)
    (hnot : ∀ parsed,
      ¬ LinesComplete eventBus key surroundings bus n (l :: lines)
        ((product, l.quantity) :: parsed))
    : ∀ parsed, ¬ LinesComplete eventBus key surroundings bus n (l :: lines) parsed := by
  intro parsed hcomplete
  rcases parseLines_cons.mp hcomplete.parse with ⟨product', rest, hproduct', _, rfl⟩
  cases hproduct.symm.trans hproduct'
  exact hnot rest hcomplete

-- Everything that the command for a line can do.
inductive LineOutcome (eventBus : EventBus B (EventEnvelope JsonValue)) (key : StreamKey)
    (surroundings : Surroundings) (services : Services B) (n : Nat) (line : Uuid × Int64)
    : Except DispatchError (List StoredEvent) × Services B → Prop where
  | refused {err : DispatchError} {services' : Services B} {more : List StoredEvent} :
      ¬ LineTaken eventBus key surroundings services.bus n line →
      services'.store.loadStream key = services.store.loadStream key ++ more →
      LineOutcome eventBus key surroundings services n line (.error err, services')
  | added :
      LineTaken eventBus key surroundings services.bus n line →
      (recorded eventBus services key (lineEvent key surroundings n line)).store.Reachable →
      LineOutcome eventBus key surroundings services n line
        (.ok [lineEvent key surroundings n line],
          recorded eventBus services key (lineEvent key surroundings n line))

theorem dispatch_addCommand (hstore : services.store.Reachable)
    (hdraft : Draft services.store key n)
    (line : Uuid × Int64)
    : LineOutcome eventBus key surroundings services n line
        (dispatch eventBus services key (addCommand key surroundings n line)
          (surroundings.freshId (n + 1))
          (surroundings.fault (n + 1))) := by
  cases hfault : surroundings.fault (n + 1) with
  | some fault =>
    rcases dispatch_faulty handle_addCommand_ne_nil fault with ⟨err, herr⟩
    rw [herr]
    refine .refused ?_ (List.append_nil _).symm
    intro htaken
    cases hfault.symm.trans htaken.faultless
  | none =>
    by_cases hquantity : 0 < line.2
    . rcases add_decides hstore.wellFormed hdraft hquantity with ⟨order, hdecides⟩
      rw [dispatch_recorded eventBus hstore.wellFormed hdecides]
      cases hpublished : (publishAll eventBus services.bus [lineEvent key surroundings n line]).1
        with
      | error err =>
        refine .refused ?_ (loadStream_recorded _)
        intro htaken
        cases hpublished.symm.trans htaken.published
      | ok _ => exact .added ⟨hquantity, hfault, hpublished⟩ (recorded_reachable hstore hdecides)
    . rcases dispatch_refused hstore.wellFormed handle_addCommand_ne_nil
          (add_not_decides hquantity _) with
        ⟨err, herr⟩
      rw [herr]
      exact .refused (fun htaken => hquantity htaken.positive) (List.append_nil _).symm

-- Everything that the loop over the lines can do to the stream of the order.
inductive AddOutcome (eventBus : EventBus B (EventEnvelope JsonValue)) (key : StreamKey)
    (surroundings : Surroundings) (services : Services B) (n : Nat)
    (lines : List PurchaseOrderLineRequest)
    : HttpResponse × Services B → Prop where
  | stopped {response : HttpResponse} {services' : Services B} {more : List StoredEvent} :
      response.isSuccess = false →
      (∀ parsed, ¬ LinesComplete eventBus key surroundings services.bus n lines parsed) →
      services'.store.loadStream key = services.store.loadStream key ++ more →
      AddOutcome eventBus key surroundings services n lines (response, services')
  | placed {response : HttpResponse} {services' : Services B} {parsed : List (Uuid × Int64)} :
      response.status = 201 →
      LinesComplete eventBus key surroundings services.bus n lines parsed →
      services'.store.loadStream key = services.store.loadStream key
        ++ additions key surroundings n parsed →
      AddOutcome eventBus key surroundings services n lines (response, services')

theorem AddOutcome.cons (hproduct : TextFormat.parse l.productId = some product)
    (htaken : LineTaken eventBus key surroundings services.bus n (product, l.quantity))
    {r : HttpResponse × Services B}
    (h : AddOutcome eventBus key surroundings
      (recorded eventBus services key (lineEvent key surroundings n (product, l.quantity)))
      (n + 1) lines r)
    : AddOutcome eventBus key surroundings services n (l :: lines) r := by
  cases h with
  | stopped hresponse hnot hstream =>
    rw [loadStream_recorded, List.append_assoc, List.singleton_append] at hstream
    refine .stopped hresponse (not_linesComplete hproduct ?_) hstream
    intro parsed hcomplete
    exact hnot parsed ((linesComplete_cons hproduct).mp hcomplete).2
  | placed hresponse hcomplete hstream =>
    rw [loadStream_recorded, List.append_assoc, List.singleton_append] at hstream
    exact .placed hresponse ((linesComplete_cons hproduct).mpr ⟨htaken, hcomplete⟩) hstream

variable [ResponseText] {tenant : TenantContext} {principal : PrincipalContext}
  {orderAgg : AggregateId}
  {total : Nat}

theorem addLines_of_error
    (hpermitted : authorizeCommand tenant principal ["purchases.orders.add_line"] = .ok ())
    (hproduct : TextFormat.parse l.productId = some product) {err : DispatchError}
    (hdispatch : dispatch eventBus services ⟨tenant.tenantId, orderAgg⟩
      (addCommand ⟨tenant.tenantId, orderAgg⟩ surroundings n (product, l.quantity))
      (surroundings.freshId (n + 1)) (surroundings.fault (n + 1)) = (.error err, services'))
    : addLines eventBus tenant principal orderAgg surroundings services total (n + 1) (l :: lines)
        = (dispatchErrorToResponse err, services') := by
  unfold addCommand at hdispatch
  unfold addLines
  rw [hproduct]
  dsimp only
  rw [hpermitted]
  dsimp only
  rw [hdispatch]

theorem addLines_of_ok
    (hpermitted : authorizeCommand tenant principal ["purchases.orders.add_line"] = .ok ())
    (hproduct : TextFormat.parse l.productId = some product) {committed : List StoredEvent}
    (hdispatch : dispatch eventBus services ⟨tenant.tenantId, orderAgg⟩
      (addCommand ⟨tenant.tenantId, orderAgg⟩ surroundings n (product, l.quantity))
      (surroundings.freshId (n + 1)) (surroundings.fault (n + 1)) = (.ok committed, services'))
    : addLines eventBus tenant principal orderAgg surroundings services total (n + 1) (l :: lines)
        = addLines eventBus tenant principal orderAgg surroundings services'
            (total + committed.length) (n + 2)
            lines := by
  unfold addCommand at hdispatch
  rw [addLines, hproduct]
  dsimp only
  rw [hpermitted]
  dsimp only
  rw [hdispatch]

theorem addLines_outcome
    (hpermitted : authorizeCommand tenant principal ["purchases.orders.add_line"] = .ok ())
    (hstore : services.store.Reachable)
    (hdraft : Draft services.store ⟨tenant.tenantId, orderAgg⟩ n)
    : AddOutcome eventBus ⟨tenant.tenantId, orderAgg⟩ surroundings services n lines
        (addLines eventBus tenant principal orderAgg surroundings services total
          (n + 1) lines) := by
  induction lines generalizing services n total with
  | nil =>
    refine .placed rfl ⟨rfl, ?_, ?_, rfl⟩ (List.append_nil _).symm
    . intro l hl
      cases hl
    . intro i hlt hle
      rw [List.length_nil] at hle
      omega
  | cons l lines ih =>
    cases hproduct : (TextFormat.parse l.productId : Option Uuid) with
    | none =>
      rw [addLines, hproduct]
      refine .stopped (jsonError_isSuccess (by decide) _ _) ?_ (List.append_nil _).symm
      intro parsed hcomplete
      rcases parseLines_cons.mp hcomplete.parse with ⟨product, _, hparse, _⟩
      cases hproduct.symm.trans hparse
    | some product =>
      have houtcome : LineOutcome eventBus _ surroundings services n (product, l.quantity) _ :=
        dispatch_addCommand hstore hdraft (product, l.quantity)
      generalize hdispatch : dispatch eventBus services ⟨tenant.tenantId, orderAgg⟩
        (addCommand ⟨tenant.tenantId, orderAgg⟩ surroundings n (product, l.quantity))
        (surroundings.freshId (n + 1)) (surroundings.fault (n + 1)) = result at houtcome
      cases houtcome with
      | @refused err services' more hnot hstream =>
        rw [addLines_of_error hpermitted hproduct hdispatch]
        refine .stopped (dispatchErrorToResponse_isSuccess err)
          (not_linesComplete hproduct ?_) hstream
        intro parsed hcomplete
        exact hnot ((linesComplete_cons hproduct).mp hcomplete).1
      | added htaken hreachable =>
        rw [addLines_of_ok hpermitted hproduct hdispatch]
        apply AddOutcome.cons hproduct htaken
        exact ih hreachable (draft_added hdraft (loadStream_recorded _))

end Lines

section Orders

variable {B : Type} [TextFormat Uuid] [TextFormat DateTime]
  {eventBus : EventBus B (EventEnvelope JsonValue)} {tenant : TenantContext}
    {principal : PrincipalContext}
  {orderAgg : AggregateId} {surroundings : Surroundings} {services services' : Services B}
  {body : CreatePurchaseOrderRequest} {supplier : Uuid}

/--
An error leaves nothing of the order behind, and a creation all of it.
-/
structure AllOrNothing (tenant : TenantContext) (orderAgg : AggregateId)
    (surroundings : Surroundings)
    (body : CreatePurchaseOrderRequest) (r : HttpResponse × Services B)
    : Prop where
  nothing : r.1.isSuccess = false → r.2.store.loadStream ⟨tenant.tenantId, orderAgg⟩ = []
  all : r.1.status = 201 →
    ∃ supplier lines, TextFormat.parse body.supplierId = some supplier
      ∧ parseLines body.lines = some lines
      ∧ r.2.store.loadStream ⟨tenant.tenantId, orderAgg⟩
          = orderStream ⟨tenant.tenantId, orderAgg⟩ surroundings supplier lines

-- The request does not get as far as the store.
def Refused (tenant : TenantContext) (principal : PrincipalContext) (surroundings : Surroundings)
    (body : CreatePurchaseOrderRequest) : Prop :=
  (TextFormat.parse body.supplierId : Option Uuid) = none
  ∨ authorizeCommand tenant principal ["purchases.orders.create"] ≠ .ok ()
  ∨ surroundings.fault 0 ≠ none

/--
Nothing stops the request: every line is a valid one, and the store and the bus do their part to the
end.
-/
structure Complete (eventBus : EventBus B (EventEnvelope JsonValue)) (tenant : TenantContext)
    (orderAgg : AggregateId) (surroundings : Surroundings) (bus : B)
    (body : CreatePurchaseOrderRequest)
    (supplier : Uuid) (lines : List (Uuid × Int64))
    : Prop where
  parseSupplier : TextFormat.parse body.supplierId = some supplier
  parse : parseLines body.lines = some lines
  positive : ∀ l ∈ body.lines, 0 < l.quantity
  faultless : ∀ i, i ≤ body.lines.length → surroundings.fault i = none
  published : (publishAll eventBus bus
    (orderStream ⟨tenant.tenantId, orderAgg⟩ surroundings supplier lines)).1 = .ok ()

theorem complete_iff {lines : List (Uuid × Int64)}
    (hsupplier : TextFormat.parse body.supplierId = some supplier)
    (hfault : surroundings.fault 0 = none) {bus : B}
    (hpublished : (publishAll eventBus bus
      [createdEvent ⟨tenant.tenantId, orderAgg⟩ surroundings supplier]).1 = .ok ())
    : Complete eventBus tenant orderAgg surroundings bus body supplier lines
        ↔ LinesComplete eventBus ⟨tenant.tenantId, orderAgg⟩ surroundings
            (publishAll eventBus bus
              [createdEvent ⟨tenant.tenantId, orderAgg⟩ surroundings supplier]).2 0
            body.lines lines := by
  constructor
  . intro h
    have hall := h.published
    rw [orderStream, publishAll_cons_eq_ok] at hall
    refine ⟨h.parse, h.positive, ?_, hall.2⟩
    intro i _ hle
    exact h.faultless i (by omega)
  . intro h
    refine ⟨hsupplier, h.parse, h.positive, ?_, ?_⟩
    . intro i hle
      by_cases hfirst : i = 0
      . rw [hfirst]
        exact hfault
      . exact h.faultless i (by omega) (by omega)
    . rw [orderStream, publishAll_cons_eq_ok]
      exact ⟨hpublished, h.published⟩

-- Everything that the request can do to the stream of the order.
inductive CreateOutcome (eventBus : EventBus B (EventEnvelope JsonValue)) (tenant : TenantContext)
    (principal : PrincipalContext) (orderAgg : AggregateId) (surroundings : Surroundings)
    (services : Services B) (body : CreatePurchaseOrderRequest)
    : HttpResponse × Services B → Prop where
  | refused {response : HttpResponse} :
      response.isSuccess = false →
      Refused tenant principal surroundings body →
      CreateOutcome eventBus tenant principal orderAgg surroundings services body
        (response, services)
  | broken {response : HttpResponse} {services' : Services B} :
      response.isSuccess = false →
      ¬ Refused tenant principal surroundings body →
      (∀ supplier lines,
        ¬ Complete eventBus tenant orderAgg surroundings services.bus body supplier lines) →
      services'.store.loadStream ⟨tenant.tenantId, orderAgg⟩ ≠ [] →
      CreateOutcome eventBus tenant principal orderAgg surroundings services body
        (response, services')
  | placed {response : HttpResponse} {services' : Services B} {supplier : Uuid}
      {lines : List (Uuid × Int64)} :
      response.status = 201 →
      Complete eventBus tenant orderAgg surroundings services.bus body supplier lines →
      services'.store.loadStream ⟨tenant.tenantId, orderAgg⟩
        = orderStream ⟨tenant.tenantId, orderAgg⟩ surroundings supplier lines →
      CreateOutcome eventBus tenant principal orderAgg surroundings services body
        (response, services')

omit [TextFormat DateTime] in
theorem not_refused (hsupplier : TextFormat.parse body.supplierId = some supplier)
    (hpermitted : authorizeCommand tenant principal ["purchases.orders.create"] = .ok ())
    (hfault : surroundings.fault 0 = none) : ¬ Refused tenant principal surroundings body := by
  rintro (hnone | hforbidden | hfaulty)
  . cases hsupplier.symm.trans hnone
  . exact hforbidden hpermitted
  . exact hfaulty hfault

theorem not_complete (hsupplier : TextFormat.parse body.supplierId = some supplier) {bus : B}
    (hnot : ∀ lines, ¬ Complete eventBus tenant orderAgg surroundings bus body supplier lines)
    : ∀ supplier lines, ¬ Complete eventBus tenant orderAgg surroundings bus body
        supplier lines := by
  intro supplier' lines hcomplete
  cases hsupplier.symm.trans hcomplete.parseSupplier
  exact hnot lines hcomplete

theorem CreateOutcome.of_addOutcome (hsupplier : TextFormat.parse body.supplierId = some supplier)
    (hpermitted : authorizeCommand tenant principal ["purchases.orders.create"] = .ok ())
    (hfault : surroundings.fault 0 = none)
    (hfresh : services.store.loadStream ⟨tenant.tenantId, orderAgg⟩ = [])
    (hpublished : (publishAll eventBus services.bus
      [createdEvent ⟨tenant.tenantId, orderAgg⟩ surroundings supplier]).1 = .ok ())
    {r : HttpResponse × Services B}
    (h : AddOutcome eventBus ⟨tenant.tenantId, orderAgg⟩ surroundings
      (recorded eventBus services ⟨tenant.tenantId, orderAgg⟩
        (createdEvent ⟨tenant.tenantId, orderAgg⟩ surroundings supplier)) 0 body.lines r)
    : CreateOutcome eventBus tenant principal orderAgg surroundings services body r := by
  have hcomplete := @complete_iff B _ _ eventBus tenant orderAgg surroundings body supplier
  cases h with
  | stopped hresponse hnot hstream =>
    refine .broken hresponse (not_refused hsupplier hpermitted hfault)
      (not_complete hsupplier ?_) ?_
    . intro lines hall
      exact hnot lines ((hcomplete hsupplier hfault hpublished).mp hall)
    . rw [hstream, loadStream_recorded, hfresh]
      simp
  | placed hresponse hlines hstream =>
    rw [loadStream_recorded, hfresh] at hstream
    exact .placed hresponse ((hcomplete hsupplier hfault hpublished).mpr hlines) hstream

variable [ResponseText]

theorem createPurchaseOrder_of_error (hsupplier : TextFormat.parse body.supplierId = some supplier)
    (hpermitted : authorizeCommand tenant principal ["purchases.orders.create"] = .ok ())
    {err : DispatchError}
    (hdispatch : dispatch eventBus services ⟨tenant.tenantId, orderAgg⟩
      (createCommand ⟨tenant.tenantId, orderAgg⟩ surroundings supplier) (surroundings.freshId 0)
      (surroundings.fault 0) = (.error err, services'))
    : createPurchaseOrder eventBus tenant principal orderAgg surroundings services body
        = (dispatchErrorToResponse err, services') := by
  unfold createCommand at hdispatch
  unfold createPurchaseOrder
  rw [hsupplier]
  dsimp only
  rw [hpermitted]
  dsimp only
  rw [hdispatch]

theorem createPurchaseOrder_of_ok (hsupplier : TextFormat.parse body.supplierId = some supplier)
    (hpermitted : authorizeCommand tenant principal ["purchases.orders.create"] = .ok ())
    {committed : List StoredEvent}
    (hdispatch : dispatch eventBus services ⟨tenant.tenantId, orderAgg⟩
      (createCommand ⟨tenant.tenantId, orderAgg⟩ surroundings supplier) (surroundings.freshId 0)
      (surroundings.fault 0) = (.ok committed, services'))
    : createPurchaseOrder eventBus tenant principal orderAgg surroundings services body
        = addLines eventBus tenant principal orderAgg surroundings services' committed.length
            1 body.lines := by
  unfold createCommand at hdispatch
  unfold createPurchaseOrder
  rw [hsupplier]
  dsimp only
  rw [hpermitted]
  dsimp only
  rw [hdispatch]

theorem createPurchaseOrder_outcome (hstore : services.store.Reachable)
    (hfresh : services.store.loadStream ⟨tenant.tenantId, orderAgg⟩ = [])
    : CreateOutcome eventBus tenant principal orderAgg surroundings services body
        (createPurchaseOrder eventBus tenant principal orderAgg surroundings services body) := by
  cases hsupplier : (TextFormat.parse body.supplierId : Option Uuid) with
  | none =>
    rw [createPurchaseOrder, hsupplier]
    exact .refused (jsonError_isSuccess (by decide) _ _) (.inl hsupplier)
  | some supplier =>
    cases hpermitted : authorizeCommand tenant principal ["purchases.orders.create"] with
    | error err =>
      rw [createPurchaseOrder, hsupplier]
      dsimp only
      rw [hpermitted]
      refine .refused (jsonError_isSuccess (by decide) _ _) (.inr (.inl ?_))
      rw [hpermitted]
      intro hok
      cases hok
    | ok _ =>
      cases hfault : surroundings.fault 0 with
      | some fault =>
        rcases dispatch_faulty (handle_createCommand_ne_nil supplier) fault with ⟨err, herr⟩
        rw [← hfault] at herr
        rw [createPurchaseOrder_of_error hsupplier hpermitted herr]
        refine .refused (dispatchErrorToResponse_isSuccess err) (.inr (.inr ?_))
        rw [hfault]
        intro hnone
        cases hnone
      | none =>
        have hdecides := create_decides surroundings supplier hfresh
        have hdispatch := dispatch_recorded eventBus hstore.wellFormed hdecides
        rw [← hfault] at hdispatch
        cases hpublished : (publishAll eventBus services.bus
            [createdEvent ⟨tenant.tenantId, orderAgg⟩ surroundings supplier]).1 with
        | error err =>
          rw [hpublished] at hdispatch
          rw [createPurchaseOrder_of_error hsupplier hpermitted hdispatch]
          refine .broken (dispatchErrorToResponse_isSuccess err)
            (not_refused hsupplier hpermitted hfault)
            (not_complete hsupplier ?_) ?_
          . intro lines hcomplete
            have hall := hcomplete.published
            rw [orderStream, publishAll_cons_eq_ok, hpublished] at hall
            cases hall.1
          . rw [loadStream_recorded, hfresh]
            simp
        | ok _ =>
          rw [hpublished] at hdispatch
          rw [createPurchaseOrder_of_ok hsupplier hpermitted hdispatch]
          apply CreateOutcome.of_addOutcome hsupplier hpermitted hfault hfresh hpublished
          apply addLines_outcome (authorizeCommand_add_line hpermitted)
            (recorded_reachable hstore hdecides)
          apply draft_created
          rw [loadStream_recorded, hfresh]
          rfl

theorem allOrNothing_iff (eventBus : EventBus B (EventEnvelope JsonValue)) (tenant : TenantContext)
    (principal : PrincipalContext) (orderAgg : AggregateId) (surroundings : Surroundings)
    (services : Services B) (body : CreatePurchaseOrderRequest) (hstore : services.store.Reachable)
    (hfresh : services.store.loadStream ⟨tenant.tenantId, orderAgg⟩ = [])
    : AllOrNothing tenant orderAgg surroundings body
        (createPurchaseOrder eventBus tenant principal orderAgg surroundings services body)
        ↔ Refused tenant principal surroundings body
          ∨ ∃ supplier lines,
              Complete eventBus tenant orderAgg surroundings services.bus body supplier lines := by
  have houtcome : CreateOutcome eventBus tenant principal orderAgg surroundings services body _ :=
    createPurchaseOrder_outcome hstore hfresh
  generalize createPurchaseOrder eventBus tenant principal orderAgg surroundings services body = r
    at houtcome ⊢
  cases houtcome with
  | @refused response hresponse hrefused =>
    refine iff_of_true ⟨fun _ => hfresh, ?_⟩ (Or.inl hrefused)
    intro hcreated
    exact absurd hcreated (status_ne_created hresponse)
  | @broken response services' hresponse hrefused hcomplete hstream =>
    refine iff_of_false ?_ ?_
    . intro hall
      exact hstream (hall.nothing hresponse)
    . rintro (h | ⟨supplier, lines, h⟩)
      . exact hrefused h
      . exact hcomplete supplier lines h
  | @placed response services' supplier lines hcreated hcomplete hstream =>
    refine iff_of_true ⟨?_, ?_⟩ (Or.inr ⟨supplier, lines, hcomplete⟩)
    . intro hresponse
      exact absurd hcreated (status_ne_created hresponse)
    . intro _
      exact ⟨supplier, lines, hcomplete.parseSupplier, hcomplete.parse, hstream⟩

end Orders

end Purchases

namespace Stationery

open Concrete Purchases

scoped instance : FloatJson := ⟨fun _ => "0.5"⟩

scoped instance : ResponseText := ⟨JsonValue.text, fun _ => "PublishFailed"⟩

def tenant : TenantContext := ⟨⟨⟨1⟩⟩⟩

def buyer : PrincipalContext := ⟨⟨5⟩, [⟨"admin"⟩]⟩

def orderAgg : AggregateId := ⟨⟨3⟩⟩

def quiet
    : Surroundings := ⟨fun _ => ⟨0⟩, fun i j => ⟨BitVec.ofNat 128 (10 * i + j)⟩, fun _ => none⟩

def services : Admin.Services (InMemoryEventBus (EventEnvelope JsonValue)) := ⟨.new, ⟨[]⟩⟩

def paper : PurchaseOrderLineRequest := ⟨"00000000-0000-0000-0000-000000000007", 2⟩

def pens : PurchaseOrderLineRequest := ⟨"pens", 5⟩

def supplierId : String := "00000000-0000-0000-0000-000000000002"

def create (lines : List PurchaseOrderLineRequest)
    : HttpResponse × Admin.Services (InMemoryEventBus (EventEnvelope JsonValue)) :=
  createPurchaseOrder InMemoryEventBus.toEventBus tenant buyer orderAgg quiet services
    ⟨supplierId, lines⟩

-- The second line stops the request, and the order stays with the first.
theorem half_an_order
    : (create [paper, pens]).1.status = 400
      ∧ ((create [paper, pens]).2.store.loadStream ⟨tenant.tenantId, orderAgg⟩).length = 2
      ∧ ¬ AllOrNothing tenant orderAgg quiet ⟨supplierId, [paper, pens]⟩
          (create [paper, pens]) := by
  have hstatus : (create [paper, pens]).1.status = 400 := by decide +kernel
  have hlength : ((create [paper, pens]).2.store.loadStream ⟨tenant.tenantId, orderAgg⟩).length
    = 2 := by
    decide +kernel
  refine ⟨hstatus, hlength, ?_⟩
  intro hall
  have hfailed : (create [paper, pens]).1.isSuccess = false := by
    unfold HttpResponse.isSuccess
    rw [hstatus]
    rfl
  rw [hall.nothing hfailed] at hlength
  cases hlength

def folders : PurchaseOrderLineRequest := ⟨"00000000-0000-0000-0000-000000000008", 5⟩

theorem allOrNothing_iff_folders
    : AllOrNothing tenant orderAgg quiet ⟨supplierId, [paper, folders, paper]⟩
        (create [paper, folders, paper]) := by
  apply (allOrNothing_iff InMemoryEventBus.toEventBus tenant buyer orderAgg quiet services
    ⟨supplierId, [paper, folders, paper]⟩ .new rfl).mpr
  refine Or.inr ⟨⟨2⟩, [(⟨7⟩, 2), (⟨8⟩, 5), (⟨7⟩, 2)], rfl, rfl, ?_, ?_, rfl⟩
  . intro l hl
    simp only [List.mem_cons, List.not_mem_nil, or_false] at hl
    rcases hl with rfl | rfl | rfl
    . decide
    . decide
    . decide
  . intro i _
    rfl

end Stationery

end ForgeErp
