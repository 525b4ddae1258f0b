import ForgeErp.Api.Routes
import ForgeErp.Library.Machine
import ForgeErp.Saga.Runner

/-!
This module contains the server with its in-memory services: the requests, each of which takes its
steps between those of all others, and the two subscribers of the bus, which keep the read models
and run the saga. Requests are numbered.
-/

namespace ForgeErp

-- Not those under `/admin/replay`, whose jobs clear rows and cursors and write them anew.
inductive ApiRequest where
  | whoami
  | createItem (body : CreateItemRequest)
  | adjustStock (id : String) (body : AdjustStockRequest)
  | getItem (id : String)
  | createProduct (body : CreateProductRequest)
  | activateProduct (id : String)
  | archiveProduct (id : String)
  | getProduct (id : String)
  | registerCustomer (body : RegisterPartyRequest)
  | updateCustomer (id : String) (body : UpdatePartyRequest)
  | suspendCustomer (id : String) (body : SuspendPartyRequest)
  | getCustomer (id : String)
  | registerSupplier (body : RegisterPartyRequest)
  | updateSupplier (id : String) (body : UpdatePartyRequest)
  | suspendSupplier (id : String) (body : SuspendPartyRequest)
  | getSupplier (id : String)
  | createSalesOrder
  | addSalesOrderLine (id : String) (body : CreateSalesOrderLineRequest)
  | confirmSalesOrder (id : String)
  | markSalesOrderInvoiced (id : String)
  | getSalesOrder (id : String)
  | issueInvoice (body : IssueInvoiceRequest)
  | registerInvoicePayment (id : String) (body : RegisterPaymentRequest)
  | voidInvoice (id : String) (body : VoidInvoiceRequest)
  | getInvoice (id : String)
  | createPurchaseOrder (body : CreatePurchaseOrderRequest)
  | addPurchaseOrderLine (id : String) (body : PurchaseOrderLineRequest)
  | approvePurchaseOrder (id : String)
  | receivePurchaseOrderGoods (id : String)
  | getPurchaseOrder (id : String)
  | postJournalEntry (body : PostJournalEntryRequest)
  | getLedgerBalance (code : String)
  | createUser (body : CreateUserRequest)
  | assignRole (id : String) (body : AssignRoleRequest)
  | revokeRole (id role : String)
  | suspendUser (id : String) (body : SuspendUserRequest)
  | activateUser (id : String)
  | getUser (id : String)
  | inspectPermissions (id : String)

section Handle

variable [TextFormat Uuid] [Lowercase] [ResponseText] [Rfc3339] [ParseRfc3339]

open Routes in
def ApiRequest.handle (request : ApiRequest) (defaultLedgerId : AggregateId)
    (tenant : TenantContext)
    (principal : PrincipalContext) (draws : Draws)
    : Handler :=
  match request with
  | .whoami => System.whoami tenant principal
  | .createItem body => Inventory.createItem tenant principal draws body
  | .adjustStock id body => Inventory.adjustStock tenant principal draws id body
  | .getItem id => Inventory.getItem tenant id
  | .createProduct body => Products.createProduct tenant principal draws body
  | .activateProduct id => Products.activateProduct tenant principal draws id
  | .archiveProduct id => Products.archiveProduct tenant principal draws id
  | .getProduct id => Products.getProduct tenant id
  | .registerCustomer body => Customers.registerCustomer tenant principal draws body
  | .updateCustomer id body => Customers.updateCustomer tenant principal draws id body
  | .suspendCustomer id body => Customers.suspendCustomer tenant principal draws id body
  | .getCustomer id => Customers.getCustomer tenant id
  | .registerSupplier body => Suppliers.registerSupplier tenant principal draws body
  | .updateSupplier id body => Suppliers.updateSupplier tenant principal draws id body
  | .suspendSupplier id body => Suppliers.suspendSupplier tenant principal draws id body
  | .getSupplier id => Suppliers.getSupplier tenant id
  | .createSalesOrder => Sales.createSalesOrder tenant principal draws
  | .addSalesOrderLine id body => Sales.addSalesOrderLine tenant principal draws id body
  | .confirmSalesOrder id => Sales.confirmSalesOrder tenant principal draws id
  | .markSalesOrderInvoiced id => Sales.markSalesOrderInvoiced tenant principal draws id
  | .getSalesOrder id => Sales.getSalesOrder tenant id
  | .issueInvoice body => Invoices.issueInvoice tenant principal draws body
  | .registerInvoicePayment id body =>
    Invoices.registerInvoicePayment tenant principal draws id body
  | .voidInvoice id body => Invoices.voidInvoice tenant principal draws id body
  | .getInvoice id => Invoices.getInvoice tenant id
  | .createPurchaseOrder body => Routes.Purchases.createPurchaseOrder tenant principal draws body
  | .addPurchaseOrderLine id body =>
    Routes.Purchases.addPurchaseOrderLine tenant principal draws id body
  | .approvePurchaseOrder id => Routes.Purchases.approvePurchaseOrder tenant principal draws id
  | .receivePurchaseOrderGoods id =>
    Routes.Purchases.receivePurchaseOrderGoods tenant principal draws id
  | .getPurchaseOrder id => Routes.Purchases.getPurchaseOrder tenant id
  | .postJournalEntry body =>
    LedgerRoutes.postJournalEntry tenant principal draws defaultLedgerId body
  | .getLedgerBalance code => LedgerRoutes.getLedgerBalance tenant code
  | .createUser body => AdminRoutes.createUser tenant principal draws body
  | .assignRole id body => AdminRoutes.assignRole tenant principal draws id body
  | .revokeRole id role => AdminRoutes.revokeRole tenant principal draws id role
  | .suspendUser id body => AdminRoutes.suspendUser tenant principal draws id body
  | .activateUser id => AdminRoutes.activateUser tenant principal draws id
  | .getUser id => AdminRoutes.getUser tenant principal id
  | .inspectPermissions id => AdminRoutes.inspectPermissions tenant principal id

end Handle

-- `Subscription::recv` on the subscription number `n`. `none` is a receiver that waits.
def InMemoryEventBus.recvAt {M : Type} (bus : InMemoryEventBus M) (n : Nat)
    : Option (M × InMemoryEventBus M) :=
  match bus.subscribers[n]? with
  | some ⟨message :: queue, receiverAlive⟩ =>
    some (message, ⟨bus.subscribers.set n ⟨queue, receiverAlive⟩⟩)
  | _ => none

namespace Server

section State

variable [Lowercase]

-- A request inside of a `dispatch` goes on with `next` when it is told the result.
inductive Session where
  | idle
  | running (handler : Handler)
  | loaded (call : DispatchCall) (history : List StoredEvent)
      (next : Except DispatchError (List StoredEvent) → Handler)
  | decided (call : DispatchCall) (history : List StoredEvent) (uncommitted : List UncommittedEvent)
      (expected : ExpectedVersion) (next : Except DispatchError (List StoredEvent) → Handler)
  | publishing (committed rest : List StoredEvent)
      (next : Except DispatchError (List StoredEvent) → Handler)
  | answered (response : HttpResponse)

-- Who was let in when, and what for; only the specification reads it,
structure Admission where
  authorization : Option String
  claims : JwtClaims
  now : DateTime
  request : ApiRequest

-- as it does what an append added and for which request.
structure Commit where
  session : Nat
  call : DispatchCall
  batch : List StoredEvent

structure State where
  store : InMemoryEventStore
  bus : InMemoryEventBus (EventEnvelope JsonValue)
  readModels : ReadModels
  realtime : List RealtimeMessage
  sessions : Nat → Session
  admissions : Nat → Option Admission
  commits : List Commit

def State.setSession (s : State) (i : Nat) (session : Session) : State :=
  { s with sessions := fun j => if j = i then session else s.sessions j }

def State.enter (s : State) (i : Nat) (admission : Admission) : State :=
  { s with admissions := fun j => if j = i then some admission else s.admissions j }

-- `build_in_memory_services`: both subscribers are there before any request.
def initial : State where
  store := .new
  bus := InMemoryEventBus.subscribe (InMemoryEventBus.subscribe ⟨[]⟩)
  readModels := .new
  realtime := []
  sessions _ := .idle
  admissions _ := none
  commits := []

end State

structure Config where
  jwt : Hs256JwtValidator
  defaultLedgerId : AggregateId

inductive Action where
  | arrive (i : Nat) (authorization : Option String) (now : DateTime)
    (request : ApiRequest) (draws : Draws)
  | advance (i : Nat)
  | project (fresh : AggregateId) (now : DateTime)
  | saga (uuid : Nat → Nat → Uuid) (now : Nat → Nat → DateTime)

variable [TextFormat Uuid] [TextFormat DateTime] [Lowercase]

section Advance

open CommandDispatcher

def advance (s : State) (i : Nat) : Option State :=
  match s.sessions i with
  | .running (.done response) => some (s.setSession i (.answered response))
  | .running (.ask (.read query) next) =>
    some (s.setSession i (.running (next (s.readModels.read query))))
  | .running (.ask (.dispatch call) next) =>
    some (s.setSession i (.loaded call (s.store.loadStream call.key) next))
  | .loaded call history next =>
    match decideEvents (call.kind.request call.key call.aggregateType call.command) history
      call.freshId with
    | .error err => some (s.setSession i (.running (next (.error err))))
    | .ok none => some (s.setSession i (.running (next (.ok []))))
    | .ok (some (uncommitted, expected)) =>
      some (s.setSession i (.decided call history uncommitted expected next))
  | .decided call _ uncommitted expected next =>
    match s.store.append uncommitted expected with
    | (.error err, store) =>
      some ({ s with store }.setSession i (.running (next (.error (.ofStore err)))))
    | (.ok committed, store) =>
      some ({ s with store, commits := s.commits ++ [Commit.mk i call committed] }.setSession i
        (.publishing committed committed next))
  | .publishing committed [] next => some (s.setSession i (.running (next (.ok committed))))
  | .publishing committed (stored :: rest) next =>
    match InMemoryEventBus.publish s.bus stored.toEnvelope with
    | (.error err, bus) =>
      some ({ s with bus }.setSession i (.running (next (.error (.publish err)))))
    | (.ok (), bus) => some ({ s with bus }.setSession i (.publishing committed rest next))
  | .idle => none
  | .answered _ => none

end Advance

def project (s : State) (fresh : AggregateId) (now : DateTime) : Option State :=
  match s.bus.recvAt 0 with
  | none => none
  | some (env, bus) =>
    let (messages, readModels) := s.readModels.project fresh now env
    some { s with bus, readModels, realtime := s.realtime ++ messages }

def saga (config : Config) (s : State) (uuid : Nat → Nat → Uuid)
    (now : Nat → Nat → DateTime)
    : Option State :=
  match s.bus.recvAt 1 with
  | none => none
  | some (env, bus) =>
    let order := (SalesArSaga.correlate env).bind fun correlation =>
      s.readModels.sales.store.get env.tenantId correlation
    let (store, bus) :=
      SalesArSaga.receive InMemoryEventBus.toEventBus config.defaultLedgerId ⟨uuid, now, order⟩
        (s.store, bus) env
    some { s with store, bus }

variable [ResponseText] [Rfc3339] [ParseRfc3339]

-- `auth_middleware` in front of the routes
def arrive (config : Config) (s : State) (i : Nat) (authorization : Option String) (now : DateTime)
    (request : ApiRequest) (draws : Draws)
    : Option State :=
  match s.sessions i with
  | .idle =>
    match AuthMiddleware.authenticate config.jwt authorization now with
    | none => some (s.setSession i (.answered ⟨401, ""⟩))
    | some claims =>
      let handler :=
        request.handle config.defaultLedgerId claims.tenantContext claims.principalContext draws
      some ((s.enter i ⟨authorization, claims, now, request⟩).setSession i (.running handler))
  | _ => none

def step (config : Config) (s : State) (action : Action) : Option State :=
  match action with
  | .arrive i authorization now request draws => arrive config s i authorization now request draws
  | .advance i => advance s i
  | .project fresh now => project s fresh now
  | .saga uuid now => saga config s uuid now

/--
The runs of the server without replays.
-/
def system (config : Config) : Machine State Action where
  init s := s = initial
  step := step config

end Server

end ForgeErp
