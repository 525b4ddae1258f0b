import ForgeErp.Dispatcher.Basic
import ForgeErp.Domain.Users
import ForgeErp.Library.Machine

/-!
This module contains the routes that administrate users, with the checks they make before they
dispatch a command. The success responses are reduced to the committed events.
-/

namespace ForgeErp

-- The mapping of roles to permissions that comes with the projection of the users.
def defaultRolePermissions (role : String) : List String :=
  match role with
  | "admin" => ["*"]
  | "manager" => [
      "inventory.read", "inventory.write", "products.read", "products.write", "sales.read",
      "sales.write", "invoices.read", "invoices.write", "purchases.read", "purchases.write",
      "parties.read", "parties.write", "ledger.read", "admin.users.list", "admin.users.read"]
  | "accountant" => [
      "inventory.read", "products.read", "sales.read", "purchases.read", "parties.read",
      "ledger.read", "ledger.write", "invoices.read", "invoices.write"]
  | "salesperson" => [
      "parties.read", "parties.write", "products.read", "sales.read",
        "sales.write", "invoices.read"]
  | "warehouse" => [
      "inventory.read", "inventory.write", "products.read", "purchases.read", "purchases.write"]
  | "user" => ["inventory.read", "products.read"]
  | _ => []

-- The set is kept as a list: only membership is asked for.
def permissionsFromRoles (roles : List Role) : List String :=
  roles.flatMap (fun role => defaultRolePermissions role.asStr)

structure TenantMembership where
  tenantId : TenantId
  roles : List Role
  permissions : List String

structure Principal where
  principalId : Uuid
  activeTenantId : TenantId
  membership : TenantMembership

inductive AuthzError where
  | tenantMismatch
  | forbidden (permission : String)
  deriving DecidableEq, Repr

def AuthzError.toString (self : AuthzError) : String :=
  match self with
  | .tenantMismatch => "tenant mismatch"
  | .forbidden permission => s!"forbidden: missing permission '{permission}'"

def authorize (principal : Principal) (required : String) : Except AuthzError Unit :=
  if principal.activeTenantId ≠ principal.membership.tenantId then
    .error .tenantMismatch
  else
    let perms := principal.membership.permissions
    if perms.contains "*" || perms.contains required then
      .ok ()
    else
      .error (.forbidden required)

structure TenantContext where
  tenantId : TenantId

structure PrincipalContext where
  principalId : Uuid
  roles : List Role

def authorizeCommand (tenant : TenantContext) (principal : PrincipalContext)
    (required : List String)
    : Except AuthzError Unit :=
  let membership := {
    tenantId := tenant.tenantId
    roles := principal.roles
    permissions := permissionsFromRoles principal.roles
  }
  let principal := {
    principalId := principal.principalId
    activeTenantId := tenant.tenantId
    membership
  }
  go principal required
where
  go (principal : Principal) (required : List String) : Except AuthzError Unit :=
    match required with
    | [] => .ok ()
    | perm :: perms =>
      match authorize principal perm with
      | .error err => .error err
      | .ok () => go principal perms

structure CreateUserRequest where
  email : String
  displayName : String
  initialRoles : Option (List String)

structure AssignRoleRequest where
  role : String

structure SuspendUserRequest where
  reason : Option String

-- `errors::json_error`, or what `errors::dispatch_error_to_response` is given.
inductive Rejection where
  | json (status : Nat) (code message : String)
  | dispatch (err : DispatchError)
  deriving DecidableEq

namespace Admin

variable {B : Type}

structure Services (B : Type) where
  store : InMemoryEventStore
  bus : B

abbrev Reply (B : Type) : Type :=
  Except Rejection (List StoredEvent) × Services B

variable [TextFormat Uuid] [TextFormat DateTime] [Lowercase]

def userRequest (key : StreamKey) (command : UserCommand)
    : CommandDispatcher.Request User.aggregate where
  key
  aggregateType := "auth.user"
  command
  makeAggregate tenantId aggregateId := User.new tenantId (.ofAggregateId aggregateId)

variable (eventBus : EventBus B (EventEnvelope JsonValue))

def dispatchUser (services : Services B) (key : StreamKey) (command : UserCommand)
    (freshId : Nat → Uuid)
    : Reply B :=
  let (result, store, bus) :=
    CommandDispatcher.dispatch eventBus services.store services.bus
      (userRequest key command) freshId
  (result.mapError .dispatch, ⟨store, bus⟩)

def authorized (services : Services B) (tenant : TenantContext) (principal : PrincipalContext)
    (required : String) (aggregateId : AggregateId) (command : UserCommand) (freshId : Nat → Uuid)
    : Reply B :=
  match authorizeCommand tenant principal [required] with
  | .error err => (.error (.json 403 "forbidden" err.toString), services)
  | .ok () => dispatchUser eventBus services ⟨tenant.tenantId, aggregateId⟩ command freshId

-- `agg` is the `AggregateId::new()` of the request and `now` its `Utc::now()`.
def createUser (services : Services B) (tenant : TenantContext) (principal : PrincipalContext)
    (body : CreateUserRequest) (agg : AggregateId) (now : DateTime) (freshId : Nat → Uuid)
    : Reply B :=
  let initialRoles := (body.initialRoles.getD []).map Role.mk
  let actorIsAdmin := User.hasRole principal.roles "admin"
  let excess := initialRoles.find? fun role =>
    !User.hasRole principal.roles role.asStr && role.asStr != "user"
  match (if actorIsAdmin then none else excess) with
  | some role =>
    let name := role.asStr
    (.error (.json 403 "privilege_escalation" s!"cannot assign role '{name}' that you don't have"),
      services)
  | none =>
    let cmd := .create {
      tenantId := tenant.tenantId
      userId := .ofAggregateId agg
      email := body.email
      displayName := body.displayName
      initialRoles
      occurredAt := now
    }
    authorized eventBus services tenant principal "admin.users.create" agg cmd freshId

-- The other handlers take the user from the path.
def onUser (services : Services B) (tenant : TenantContext) (principal : PrincipalContext)
    (id : String) (required : String) (command : UserId → UserCommand) (freshId : Nat → Uuid)
    : Reply B :=
  match (TextFormat.parse id : Option Uuid) with
  | none => (.error (.json 400 "invalid_id" "invalid user id"), services)
  | some uuid =>
    authorized eventBus services tenant principal required ⟨uuid⟩ (command ⟨uuid⟩) freshId

def assignRole (services : Services B) (tenant : TenantContext) (principal : PrincipalContext)
    (id : String) (body : AssignRoleRequest) (now : DateTime) (freshId : Nat → Uuid)
    : Reply B :=
  onUser eventBus services tenant principal id "admin.users.assign_role"
    (fun userId => .assignRole ⟨tenant.tenantId, userId, ⟨body.role⟩, principal.roles, now⟩) freshId

def revokeRole (services : Services B) (tenant : TenantContext) (principal : PrincipalContext)
    (id role : String) (now : DateTime) (freshId : Nat → Uuid)
    : Reply B :=
  onUser eventBus services tenant principal id "admin.users.revoke_role"
    (fun userId => .revokeRole ⟨tenant.tenantId, userId, ⟨role⟩, now⟩) freshId

def suspendUser (services : Services B) (tenant : TenantContext) (principal : PrincipalContext)
    (id : String) (body : SuspendUserRequest) (now : DateTime) (freshId : Nat → Uuid)
    : Reply B :=
  let reason := body.reason.getD "No reason provided"
  onUser eventBus services tenant principal id "admin.users.suspend"
    (fun userId => .suspend ⟨tenant.tenantId, userId, reason, now⟩) freshId

def activateUser (services : Services B) (tenant : TenantContext) (principal : PrincipalContext)
    (id : String) (now : DateTime) (freshId : Nat → Uuid)
    : Reply B :=
  onUser eventBus services tenant principal id "admin.users.activate"
    (fun userId => .activate ⟨tenant.tenantId, userId, now⟩) freshId

end Admin

end ForgeErp
