import ForgeErp.Domain.Users
import ForgeErp.Projections.Impl.Basic
import Mathlib.Data.List.Dedup

/-!
This module contains the projection of the users. It has no cursors: whatever arrives is applied.
-/

namespace ForgeErp

structure UserReadModel where
  userId : UserId
  tenantId : TenantId
  email : String
  displayName : String
  roles : List String
  status : String
  createdAt : DateTime
  updatedAt : DateTime
  deriving DecidableEq

-- `UserStatus::to_string`
def UserStatus.toString (self : UserStatus) : String :=
  match self with
  | .active => "Active"
  | .suspended => "Suspended"

structure EffectivePermissions where
  userId : UserId
  tenantId : TenantId
  roles : List String
  permissions : List String

structure UsersProjection where
  store : InMemoryTenantStore UserId UserReadModel

namespace UsersProjection

def new : UsersProjection :=
  ⟨.new⟩

def get (self : UsersProjection) (tenantId : TenantId) (userId : UserId) : Option UserReadModel :=
  self.store.get tenantId userId

-- A hash set is collected into a list without repetition, in no particular order.
def effectivePermissions (self : UsersProjection) (tenantId : TenantId) (userId : UserId)
    (rolePermissions : String → List String)
    : Option EffectivePermissions :=
  match self.get tenantId userId with
  | none => none
  | some model =>
    some {
      userId := model.userId
      tenantId := model.tenantId
      roles := model.roles
      permissions := (model.roles.flatMap rolePermissions).dedup
    }

def applyCreated (self : UsersProjection) (tenantId : TenantId) (e : UserCreated)
    : UsersProjection :=
  let model := {
    userId := e.userId
    tenantId := e.tenantId
    email := e.email
    displayName := e.displayName
    roles := e.initialRoles.map Role.asStr
    status := UserStatus.active.toString
    createdAt := e.occurredAt
    updatedAt := e.occurredAt
  }
  ⟨self.store.upsert tenantId e.userId model⟩

-- The other events change a row that exists and are dropped otherwise.
def modify (self : UsersProjection) (tenantId : TenantId) (userId : UserId) (occurredAt : DateTime)
    (f : UserReadModel → UserReadModel)
    : UsersProjection :=
  match self.store.get tenantId userId with
  | some model => ⟨self.store.upsert tenantId userId { f model with updatedAt := occurredAt }⟩
  | none => self

def applyRoleAssigned (self : UsersProjection) (tenantId : TenantId) (e : RoleAssigned)
    : UsersProjection :=
  self.modify tenantId e.userId e.occurredAt fun model =>
    if model.roles.contains e.role.asStr then
      model
    else
      { model with roles := model.roles ++ [e.role.asStr] }

def applyRoleRevoked (self : UsersProjection) (tenantId : TenantId) (e : RoleRevoked)
    : UsersProjection :=
  self.modify tenantId e.userId e.occurredAt fun model =>
    { model with roles := model.roles.filter (· ≠ e.role.asStr) }

def applySuspended (self : UsersProjection) (tenantId : TenantId) (e : UserSuspended)
    : UsersProjection :=
  self.modify tenantId e.userId e.occurredAt fun model =>
    { model with status := UserStatus.suspended.toString }

def applyActivated (self : UsersProjection) (tenantId : TenantId) (e : UserActivated)
    : UsersProjection :=
  self.modify tenantId e.userId e.occurredAt fun model =>
    { model with status := UserStatus.active.toString }

def applyEvent (self : UsersProjection) (tenantId : TenantId) (event : UserEvent)
    : UsersProjection :=
  match event with
  | .created e => self.applyCreated tenantId e
  | .roleAssigned e => self.applyRoleAssigned tenantId e
  | .roleRevoked e => self.applyRoleRevoked tenantId e
  | .suspended e => self.applySuspended tenantId e
  | .activated e => self.applyActivated tenantId e

variable [TextFormat Uuid] [TextFormat DateTime]

def applyEnvelope (self : UsersProjection) (envelope : EventEnvelope JsonValue)
    : Except String Unit × UsersProjection :=
  if !"auth.user".toList.isPrefixOf envelope.aggregateType.toList then
    (.ok (), self)
  else
    match (Codec.dec envelope.payload : Except String UserEvent) with
    | .error err => (.error err, self)
    | .ok event => (.ok (), self.applyEvent envelope.tenantId event)

-- A failed application is logged by the subscriber and the envelope is gone.
def deliver (self : UsersProjection) (envelopes : List (EventEnvelope JsonValue))
    : UsersProjection :=
  envelopes.foldl (fun self envelope => (self.applyEnvelope envelope).2) self

end UsersProjection

end ForgeErp
