import ForgeErp.Api.Lemmas.Purchases
import ForgeErp.Api.Server
import ForgeErp.Domain.Lemmas.Identity
import ForgeErp.Domain.Lemmas.Users
import ForgeErp.Saga.Lemmas.Routing

/-!
This module contains what the handlers of the routes may ask the services for, whatever they are
told: a command is for the tenant of the token, names the stream it is dispatched to, and is only
dispatched for an administrator; a query is about a row of the tenant.
-/

namespace ForgeErp

-- How many commands a request is for
def ApiRequest.commands (request : ApiRequest) : Nat :=
  match request with
  | .whoami | .getItem _ | .getProduct _ | .getCustomer _ | .getSupplier _ | .getSalesOrder _
  | .getInvoice _ | .getPurchaseOrder _ | .getLedgerBalance _ | .getUser _
    | .inspectPermissions _ => 0
  | .createPurchaseOrder body => 1 + body.lines.length
  | _ => 1

namespace Routes

open ForgeErp.Purchases (jsonError_isSuccess dispatchErrorToResponse_isSuccess)

-- What the routes that dispatch commands require.
def commandPermissions : List String := [
  "inventory.items.create", "inventory.items.adjust", "products.create", "products.activate",
  "products.archive", "customers.register", "customers.update", "customers.suspend",
  "suppliers.register", "suppliers.update", "suppliers.suspend", "sales.orders.create",
  "sales.orders.add_line", "sales.orders.confirm", "sales.orders.mark_invoiced", "invoices.issue",
  "invoices.pay", "invoices.void", "purchases.orders.create", "purchases.orders.add_line",
  "purchases.orders.approve", "purchases.orders.receive", "ledger.post", "admin.users.create",
  "admin.users.assign_role", "admin.users.revoke_role", "admin.users.suspend",
    "admin.users.activate"]

theorem not_mem_defaultRolePermissions {required : String} (h : required ∈ commandPermissions)
    (role : String) : required ∉ defaultRolePermissions role := by
  intro hrole
  have hdisjoint : ∀ required ∈ commandPermissions, required ∉ defaultRolePermissions role := by
    unfold defaultRolePermissions
    split <;> decide
  exact hdisjoint required h hrole

theorem admin_of_wildcard {role : String} (h : "*" ∈ defaultRolePermissions role)
    : role = "admin" := by
  unfold defaultRolePermissions at h
  split at h
  . rfl
  all_goals exact absurd h (by decide)

-- None of these permissions comes with a role, so only the wildcard grants them.
theorem admin_of_authorized {tenant : TenantContext} {principal : PrincipalContext}
    {required : String}
    (hrequired : required ∈ commandPermissions)
    (h : authorizeCommand tenant principal [required] = .ok ())
    : (⟨"admin"⟩ : Role) ∈ principal.roles := by
  rw [Purchases.authorizeCommand_eq_ok_iff] at h
  unfold permissionsFromRoles at h
  rw [List.mem_flatMap, List.mem_flatMap] at h
  rcases h with ⟨role, hrole, hall⟩ | ⟨role, hrole, hperm⟩
  . have hadmin : role = ⟨"admin"⟩ := Role.asStr_inj.mp (admin_of_wildcard hall)
    rw [← hadmin]
    exact hrole
  . exact absurd hperm (not_mem_defaultRolePermissions hrequired role.asStr)

section Calls

variable [Lowercase]

/--
A dispatch that a route makes on behalf of `principal`.
-/
structure RouteCall (tenant : TenantContext) (principal : PrincipalContext) (call : DispatchCall)
    : Prop where
  tenant_eq : call.key.tenantId = tenant.tenantId
  ids_eq : call.kind.idsOf call.command = (call.key.tenantId, call.key.aggregateId)
  type_eq : call.aggregateType = call.kind.aggregateType
  admin : (⟨"admin"⟩ : Role) ∈ principal.roles

def Allowed (tenant : TenantContext) (principal : PrincipalContext) (call : ServiceCall) : Prop :=
  match call with
  | .dispatch call => RouteCall tenant principal call
  | .read query => query.tenantId = tenant.tenantId

end Calls

section Responses

variable [ResponseText]

theorem committedResponse_isSuccess [TextFormat Uuid] {status : Nat}
    (h : 200 ≤ status ∧ status < 300)
    (idName : String) (agg : AggregateId) (committed : List StoredEvent)
    : (committedResponse status idName agg committed).isSuccess = true := by
  unfold committedResponse HttpResponse.isSuccess
  simp only [h, decide_true, Bool.and_self]

/--
What the response to a request for `total` commands says about the number `n` of those that have
been stored.
-/
structure Fits (total n : Nat) (response : HttpResponse) : Prop where
  success : response.isSuccess = true → n = total
  failure : response.isSuccess = false → n = 0 ∨ n < total

omit [ResponseText] in
theorem Fits.of_success {total : Nat} {response : HttpResponse} (h : response.isSuccess = true)
    : Fits total total response := by
  refine ⟨fun _ => rfl, ?_⟩
  intro hfailure
  rw [h] at hfailure
  cases hfailure

omit [ResponseText] in
theorem Fits.of_failure {total n : Nat} {response : HttpResponse} (h : response.isSuccess = false)
    (hn : n = 0 ∨ n < total) : Fits total n response := by
  refine ⟨?_, fun _ => hn⟩
  intro hsuccess
  rw [h] at hsuccess
  cases hsuccess

omit [ResponseText] in
theorem Fits.nothing (response : HttpResponse) : Fits 0 0 response :=
  ⟨fun _ => rfl, fun _ => .inl rfl⟩

end Responses

section Serves

variable [Lowercase]

-- The account of a request is the number of its commands that have been stored: one event each.
def Answered (n : Nat) (call : ServiceCall) (answer : call.Answer) (n' : Nat) : Prop :=
  match call, answer with
  | .read _, _ => n' = n
  | .dispatch _, .error _ => n' = n
  | .dispatch _, .ok committed => n' = n + 1 ∧ committed.length = 1

def Serves (tenant : TenantContext) (principal : PrincipalContext) (total n : Nat)
    (handler : Handler)
    : Prop :=
  Program.Meets (fun _ => Allowed tenant principal) Answered (Fits total) n handler

variable {tenant : TenantContext} {principal : PrincipalContext} {total n : Nat}

theorem serves_failure {response : HttpResponse} (h : response.isSuccess = false)
    : Serves tenant principal total 0 (.done response) :=
  .done (.of_failure h (.inl rfl))

theorem serves_jsonError [ResponseText] {status : Nat} (h : 300 ≤ status) (code message : String)
    : Serves tenant principal total 0 (.done (jsonError status code message)) :=
  serves_failure (jsonError_isSuccess h code message)

-- A command that is stored as the only one left ends the request.
theorem serves_dispatch {call : DispatchCall}
    {next : Except DispatchError (List StoredEvent) → Handler}
    (hcall : RouteCall tenant principal call)
    (herror : ∀ err, Serves tenant principal total n (next (.error err)))
    (hok : ∀ committed : List StoredEvent, committed.length = 1 →
      Serves tenant principal total (n + 1) (next (.ok committed)))
    : Serves tenant principal total n (.ask (.dispatch call) next) := by
  apply Program.Meets.ask
  . exact hcall
  . intro result n' hanswered
    cases result with
    | error err =>
      cases hanswered
      exact herror err
    | ok committed =>
      rcases hanswered with ⟨rfl, hone⟩
      exact hok committed hone

theorem serves_read {query : Query} (h : query.tenantId = tenant.tenantId)
    {next : query.Answer → Handler}
    (hnext : ∀ row, Serves tenant principal total n (next row))
    : Serves tenant principal total n (.ask (.read query) next) := by
  apply Program.Meets.ask
  . exact h
  . intro row n' hanswered
    cases hanswered
    exact hnext row

end Serves

variable [TextFormat Uuid] [Lowercase] [ResponseText]
variable {tenant : TenantContext} {principal : PrincipalContext} {draws : Draws} {total : Nat}

omit [TextFormat Uuid] in
theorem command_serves {required : String} {call : DispatchCall}
    {respond : List StoredEvent → HttpResponse}
    (hrequired : required ∈ commandPermissions)
    (hcall : (⟨"admin"⟩ : Role) ∈ principal.roles → RouteCall tenant principal call)
    (hrespond : ∀ committed, (respond committed).isSuccess = true)
    : Serves tenant principal 1 0 (command tenant principal required call respond) := by
  unfold command
  cases hauth : authorizeCommand tenant principal [required] with
  | error e => exact serves_jsonError (by decide) _ _
  | ok =>
    apply serves_dispatch (hcall (admin_of_authorized hrequired hauth))
    . intro err
      exact serves_failure (dispatchErrorToResponse_isSuccess err)
    . intro committed _
      exact .done (.of_success (hrespond committed))

theorem onPath_serves {id message : String} {next : AggregateId → Handler}
    (h : ∀ agg, Serves tenant principal total 0 (next agg))
    : Serves tenant principal total 0 (onPath id message next) := by
  unfold onPath
  split
  . exact serves_jsonError (by decide) _ _
  . apply h

omit [TextFormat Uuid] [ResponseText] in
theorem row_serves {query : Query} (h : query.tenantId = tenant.tenantId)
    (respond : query.Answer → HttpResponse)
    : Serves tenant principal 0 0 (.ask (.read query) (fun row => .done (respond row))) := by
  apply serves_read h
  intro row
  exact .done (.nothing _)

omit [TextFormat Uuid] in
theorem guardKind_serves {kind : PartyKind} {agg : AggregateId} {next : Handler}
    (h : Serves tenant principal total 0 next)
    : Serves tenant principal total 0 (Parties.guardKind tenant kind agg next) := by
  unfold Parties.guardKind
  apply serves_read
  . rfl
  intro row
  split
  . split
    . exact serves_jsonError (by decide) _ _
    . exact h
  . exact h

-- `n` commands are stored, those for the lines are left.
theorem addLines_serves (hadmin : (⟨"admin"⟩ : Role) ∈ principal.roles) (committedTotal i n : Nat)
    (lines : List PurchaseOrderLineRequest)
    : Serves tenant principal (n + lines.length) n
        (Purchases.addLines tenant principal draws committedTotal i lines) := by
  induction lines generalizing committedTotal i n with
  | nil => exact .done (.of_success rfl)
  | cons l lines ih =>
    have hmore : n < n + (l :: lines).length := by simp
    unfold Purchases.addLines
    split
    . exact .done (.of_failure (jsonError_isSuccess (by decide) _ _) (.inr hmore))
    . dsimp only
      split
      . exact .done (.of_failure (jsonError_isSuccess (by decide) _ _) (.inr hmore))
      . apply serves_dispatch
        . exact ⟨rfl, rfl, rfl, hadmin⟩
        . intro err
          exact .done (.of_failure (dispatchErrorToResponse_isSuccess err) (.inr hmore))
        . intro committed _
          have hlength : n + (l :: lines).length = n + 1 + lines.length := by
            rw [List.length_cons]
            omega
          rw [hlength]
          apply ih

theorem createPurchaseOrder_serves (body : CreatePurchaseOrderRequest)
    : Serves tenant principal (1 + body.lines.length) 0
        (Purchases.createPurchaseOrder tenant principal draws body) := by
  apply onPath_serves
  intro supplierAgg
  dsimp only
  cases hauth : authorizeCommand tenant principal ["purchases.orders.create"] with
  | error e => exact serves_jsonError (by decide) _ _
  | ok =>
    have hadmin := admin_of_authorized (by decide) hauth
    apply serves_dispatch
    . exact ⟨rfl, rfl, rfl, hadmin⟩
    . intro err
      exact serves_failure (dispatchErrorToResponse_isSuccess err)
    . intro committed _
      exact addLines_serves hadmin _ _ 1 _

theorem issueInvoice_serves [ParseRfc3339] (body : IssueInvoiceRequest)
    : Serves tenant principal 1 0 (Invoices.issueInvoice tenant principal draws body) := by
  apply onPath_serves
  intro salesOrderAgg
  split
  . exact serves_jsonError (by decide) _ _
  . split
    . exact serves_jsonError (by decide) _ _
    . apply command_serves (by decide)
      . intro hadmin
        exact ⟨rfl, rfl, rfl, hadmin⟩
      . exact committedResponse_isSuccess (by decide) _ _

omit [TextFormat Uuid] in
theorem parseAccountKind_isSuccess {kind : String} {resp : HttpResponse}
    (h : Dto.parseAccountKind kind = .error resp) : resp.isSuccess = false := by
  unfold Dto.parseAccountKind at h
  split at h
  all_goals
    cases h
  exact jsonError_isSuccess (by decide) _ _

omit [TextFormat Uuid] in
theorem toJournalLines_isSuccess {lines : List CreateLedgerLineRequest} {resp : HttpResponse}
    (h : Dto.toJournalLines lines = .error resp) : resp.isSuccess = false := by
  induction lines with
  | nil => cases h
  | cons l lines ih =>
    unfold Dto.toJournalLines at h
    split at h
    . next hkind =>
      cases h
      exact parseAccountKind_isSuccess hkind
    . next hkind =>
      cases hrest : Dto.toJournalLines lines with
      | error resp' =>
        rw [hrest] at h
        cases h
        exact ih hrest
      | ok rest =>
        rw [hrest] at h
        cases h

theorem postJournalEntry_serves (defaultLedgerId : AggregateId) (body : PostJournalEntryRequest)
    : Serves tenant principal 1 0
        (LedgerRoutes.postJournalEntry tenant principal draws defaultLedgerId body) := by
  unfold LedgerRoutes.postJournalEntry
  split
  . exact serves_jsonError (by decide) _ _
  . split
    . next hlines => exact serves_failure (toJournalLines_isSuccess hlines)
    . apply command_serves (by decide)
      . intro hadmin
        exact ⟨rfl, rfl, rfl, hadmin⟩
      . exact committedResponse_isSuccess (by decide) _ _

theorem createUser_serves (body : CreateUserRequest)
    : Serves tenant principal 1 0 (AdminRoutes.createUser tenant principal draws body) := by
  unfold AdminRoutes.createUser
  dsimp only
  split
  . exact serves_jsonError (by decide) _ _
  . apply command_serves (by decide)
    . intro hadmin
      exact ⟨rfl, rfl, rfl, hadmin⟩
    . exact committedResponse_isSuccess (by decide) _ _

theorem onReadableUser_serves {id : String} {next : UserId → Handler}
    (h : ∀ userId, Serves tenant principal total 0 (next userId))
    : Serves tenant principal total 0 (AdminRoutes.onReadableUser tenant principal id next) := by
  unfold AdminRoutes.onReadableUser
  split
  . exact serves_jsonError (by decide) _ _
  . apply onPath_serves
    intro agg
    apply h

theorem onProduct_serves {id required : String} {cmd : ProductId → ProductCommand}
    (hrequired : required ∈ commandPermissions)
    (hids : ∀ productId, AggregateKind.idsOf .product (cmd productId)
      = (tenant.tenantId, productId.aggregateId))
    : Serves tenant principal 1 0 (Products.onProduct tenant principal draws id required cmd) := by
  apply onPath_serves
  intro agg
  apply command_serves hrequired
  . intro hadmin
    exact ⟨rfl, hids ⟨agg⟩, rfl, hadmin⟩
  . exact committedResponse_isSuccess (by decide) _ _

theorem onSalesOrder_serves {id required : String} {cmd : SalesOrderId → SalesOrderCommand}
    (hrequired : required ∈ commandPermissions)
    (hids : ∀ orderId, AggregateKind.idsOf .salesOrder (cmd orderId)
      = (tenant.tenantId, orderId.aggregateId))
    : Serves tenant principal 1 0 (Sales.onOrder tenant principal draws id required cmd) := by
  apply onPath_serves
  intro agg
  apply command_serves hrequired
  . intro hadmin
    exact ⟨rfl, hids ⟨agg⟩, rfl, hadmin⟩
  . exact committedResponse_isSuccess (by decide) _ _

theorem onInvoice_serves {id required : String} {cmd : InvoiceId → InvoiceCommand}
    (hrequired : required ∈ commandPermissions)
    (hids : ∀ invoiceId, AggregateKind.idsOf .invoice (cmd invoiceId)
      = (tenant.tenantId, invoiceId.aggregateId))
    : Serves tenant principal 1 0 (Invoices.onInvoice tenant principal draws id required cmd) := by
  apply onPath_serves
  intro agg
  apply command_serves hrequired
  . intro hadmin
    exact ⟨rfl, hids ⟨agg⟩, rfl, hadmin⟩
  . exact committedResponse_isSuccess (by decide) _ _

theorem onPurchaseOrder_serves {id required : String} {cmd : PurchaseOrderId → PurchaseOrderCommand}
    (hrequired : required ∈ commandPermissions)
    (hids : ∀ orderId, AggregateKind.idsOf .purchaseOrder (cmd orderId)
      = (tenant.tenantId, orderId.aggregateId))
    : Serves tenant principal 1 0 (Purchases.onOrder tenant principal draws id required cmd) := by
  apply onPath_serves
  intro agg
  apply command_serves hrequired
  . intro hadmin
    exact ⟨rfl, hids ⟨agg⟩, rfl, hadmin⟩
  . exact committedResponse_isSuccess (by decide) _ _

theorem onUser_serves {id required : String} {cmd : UserId → UserCommand}
    (hrequired : required ∈ commandPermissions)
    (hids : ∀ userId, AggregateKind.idsOf .user (cmd userId)
      = (tenant.tenantId, userId.aggregateId))
    : Serves tenant principal 1 0 (AdminRoutes.onUser tenant principal draws id required cmd) := by
  apply onPath_serves
  intro agg
  apply command_serves hrequired
  . intro hadmin
    exact ⟨rfl, hids ⟨agg.asUuid⟩, rfl, hadmin⟩
  . intro committed
    rfl

theorem adjustStock_serves (id : String) (body : AdjustStockRequest)
    : Serves tenant principal 1 0 (Inventory.adjustStock tenant principal draws id body) := by
  apply onPath_serves
  intro agg
  apply command_serves (by decide)
  . intro hadmin
    exact ⟨rfl, rfl, rfl, hadmin⟩
  . intro committed
    rfl

theorem registerParty_serves {perm : String} (hperm : perm ∈ commandPermissions) (kind : PartyKind)
    (body : RegisterPartyRequest)
    : Serves tenant principal 1 0 (Parties.registerParty tenant principal draws
        kind perm body) := by
  apply command_serves hperm
  . intro hadmin
    exact ⟨rfl, rfl, rfl, hadmin⟩
  . intro committed
    rfl

theorem addSalesOrderLine_serves (id : String) (body : CreateSalesOrderLineRequest)
    : Serves tenant principal 1 0 (Sales.addSalesOrderLine tenant principal draws id body) := by
  apply onPath_serves
  intro agg
  apply onPath_serves
  intro productAgg
  apply command_serves (by decide)
  . intro hadmin
    exact ⟨rfl, rfl, rfl, hadmin⟩
  . exact committedResponse_isSuccess (by decide) _ _

theorem addPurchaseOrderLine_serves (id : String) (body : PurchaseOrderLineRequest)
    : Serves tenant principal 1 0 (Purchases.addPurchaseOrderLine tenant principal
        draws id body) := by
  apply onPath_serves
  intro agg
  apply onPath_serves
  intro productAgg
  apply command_serves (by decide)
  . intro hadmin
    exact ⟨rfl, rfl, rfl, hadmin⟩
  . exact committedResponse_isSuccess (by decide) _ _

theorem updateParty_serves {perm : String} (hperm : perm ∈ commandPermissions) (kind : PartyKind)
    (id : String) (body : UpdatePartyRequest)
    : Serves tenant principal 1 0 (Parties.updateParty tenant principal draws id
        body kind perm) := by
  apply onPath_serves
  intro agg
  apply guardKind_serves
  apply command_serves hperm
  . intro hadmin
    exact ⟨rfl, rfl, rfl, hadmin⟩
  . exact committedResponse_isSuccess (by decide) _ _

theorem suspendParty_serves {perm : String} (hperm : perm ∈ commandPermissions) (kind : PartyKind)
    (id : String) (body : SuspendPartyRequest)
    : Serves tenant principal 1 0 (Parties.suspendParty tenant principal draws id
        body kind perm) := by
  apply onPath_serves
  intro agg
  apply guardKind_serves
  apply command_serves hperm
  . intro hadmin
    exact ⟨rfl, rfl, rfl, hadmin⟩
  . exact committedResponse_isSuccess (by decide) _ _

theorem handle_serves [Rfc3339] [ParseRfc3339] (request : ApiRequest)
    (defaultLedgerId : AggregateId)
    : Serves tenant principal request.commands 0
        (request.handle defaultLedgerId tenant principal draws) := by
  cases request with
  | whoami => exact .done (.nothing _)
  | createItem _ | createProduct _ | createSalesOrder =>
    apply command_serves (by decide)
    . intro hadmin
      exact ⟨rfl, rfl, rfl, hadmin⟩
    . exact committedResponse_isSuccess (by decide) _ _
  | registerCustomer body => exact registerParty_serves (by decide) .customer body
  | registerSupplier body => exact registerParty_serves (by decide) .supplier body
  | adjustStock id body => exact adjustStock_serves id body
  | activateProduct _ | archiveProduct _ =>
    dsimp only [ApiRequest.handle]
    apply onProduct_serves (by decide)
    intro _
    rfl
  | confirmSalesOrder _ | markSalesOrderInvoiced _ =>
    dsimp only [ApiRequest.handle]
    apply onSalesOrder_serves (by decide)
    intro _
    rfl
  | registerInvoicePayment _ _ | voidInvoice _ _ =>
    dsimp only [ApiRequest.handle]
    apply onInvoice_serves (by decide)
    intro _
    rfl
  | approvePurchaseOrder _ | receivePurchaseOrderGoods _ =>
    dsimp only [ApiRequest.handle]
    apply onPurchaseOrder_serves (by decide)
    intro _
    rfl
  | assignRole _ _ | revokeRole _ _ | suspendUser _ _ | activateUser _ =>
    dsimp only [ApiRequest.handle, AdminRoutes.suspendUser]
    apply onUser_serves (by decide)
    intro _
    rfl
  | getItem _ | getProduct _ | getCustomer _ | getSupplier _ | getSalesOrder _ | getInvoice _
  | getPurchaseOrder _ =>
    dsimp only [ApiRequest.handle, Customers.getCustomer, Suppliers.getSupplier]
    apply onPath_serves
    intro agg
    exact row_serves (by rfl) _
  | getUser _ | inspectPermissions _ =>
    dsimp only [ApiRequest.handle]
    apply onReadableUser_serves
    intro userId
    exact row_serves (by rfl) _
  | getLedgerBalance code => exact row_serves (by rfl) _
  | addSalesOrderLine id body => exact addSalesOrderLine_serves id body
  | addPurchaseOrderLine id body => exact addPurchaseOrderLine_serves id body
  | createPurchaseOrder body => exact createPurchaseOrder_serves body
  | issueInvoice body => exact issueInvoice_serves body
  | postJournalEntry body => exact postJournalEntry_serves defaultLedgerId body
  | createUser body => exact createUser_serves body
  | updateCustomer id body => exact updateParty_serves (by decide) .customer id body
  | suspendCustomer id body => exact suspendParty_serves (by decide) .customer id body
  | updateSupplier id body => exact updateParty_serves (by decide) .supplier id body
  | suspendSupplier id body => exact suspendParty_serves (by decide) .supplier id body

end Routes

end ForgeErp
