import ForgeErp.Domain.Ids
import ForgeErp.Events.Basic

/-!
This module contains the user aggregate. `str::to_lowercase` follows the Unicode tables of the
standard library and enters as a parameter.
-/

namespace ForgeErp

class Lowercase where
  toLowercase : String → String

namespace Concrete

-- The part of the tables that ASCII texts need.
scoped instance : Lowercase where
  toLowercase s := String.ofList (s.toList.map Char.toLower)

end Concrete

-- `str::trim`
def trim (s : String) : String :=
  String.ofList ((s.toList.dropWhile isWhitespace).reverse.dropWhile isWhitespace).reverse

structure Role where
  asStr : String
  deriving DecidableEq, Repr

inductive UserStatus where
  | active
  | suspended
  deriving DecidableEq, Repr

structure User where
  id : UserId
  tenantId : Option TenantId
  email : String
  displayName : String
  roles : List Role
  status : UserStatus
  version : Nat
  created : Bool
  deriving DecidableEq

structure CreateUser where
  tenantId : TenantId
  userId : UserId
  email : String
  displayName : String
  initialRoles : List Role
  occurredAt : DateTime

structure AssignRole where
  tenantId : TenantId
  userId : UserId
  role : Role
  actorRoles : List Role
  occurredAt : DateTime

structure RevokeRole where
  tenantId : TenantId
  userId : UserId
  role : Role
  occurredAt : DateTime

structure SuspendUser where
  tenantId : TenantId
  userId : UserId
  reason : String
  occurredAt : DateTime

structure ActivateUser where
  tenantId : TenantId
  userId : UserId
  occurredAt : DateTime

inductive UserCommand where
  | create (cmd : CreateUser)
  | assignRole (cmd : AssignRole)
  | revokeRole (cmd : RevokeRole)
  | suspend (cmd : SuspendUser)
  | activate (cmd : ActivateUser)

structure UserCreated where
  tenantId : TenantId
  userId : UserId
  email : String
  displayName : String
  initialRoles : List Role
  occurredAt : DateTime
  deriving DecidableEq

structure RoleAssigned where
  tenantId : TenantId
  userId : UserId
  role : Role
  occurredAt : DateTime
  deriving DecidableEq

structure RoleRevoked where
  tenantId : TenantId
  userId : UserId
  role : Role
  occurredAt : DateTime
  deriving DecidableEq

structure UserSuspended where
  tenantId : TenantId
  userId : UserId
  reason : String
  occurredAt : DateTime
  deriving DecidableEq

structure UserActivated where
  tenantId : TenantId
  userId : UserId
  occurredAt : DateTime
  deriving DecidableEq

inductive UserEvent where
  | created (e : UserCreated)
  | roleAssigned (e : RoleAssigned)
  | roleRevoked (e : RoleRevoked)
  | suspended (e : UserSuspended)
  | activated (e : UserActivated)
  deriving DecidableEq

namespace UserEvent

def tenantId (self : UserEvent) : TenantId :=
  match self with
  | .created e => e.tenantId
  | .roleAssigned e => e.tenantId
  | .roleRevoked e => e.tenantId
  | .suspended e => e.tenantId
  | .activated e => e.tenantId

def userId (self : UserEvent) : UserId :=
  match self with
  | .created e => e.userId
  | .roleAssigned e => e.userId
  | .roleRevoked e => e.userId
  | .suspended e => e.userId
  | .activated e => e.userId

instance : Event UserEvent where
  eventType
    | .created _ => "auth.user.created"
    | .roleAssigned _ => "auth.user.role_assigned"
    | .roleRevoked _ => "auth.user.role_revoked"
    | .suspended _ => "auth.user.suspended"
    | .activated _ => "auth.user.activated"
  version _ := 1
  occurredAt
    | .created e => e.occurredAt
    | .roleAssigned e => e.occurredAt
    | .roleRevoked e => e.occurredAt
    | .suspended e => e.occurredAt
    | .activated e => e.occurredAt

end UserEvent

namespace User

def empty (id : UserId) : User where
  id
  tenantId := none
  email := ""
  displayName := ""
  roles := []
  status := .active
  version := 0
  created := false

def new (tenantId : TenantId) (id : UserId) : User :=
  { empty id with tenantId := some tenantId }

def applyCreated (self : User) (e : UserCreated) : User :=
  { self with
    id := e.userId
    tenantId := some e.tenantId
    email := e.email
    displayName := e.displayName
    roles := e.initialRoles
    status := .active
    created := true
  }

def applyRoleAssigned (self : User) (e : RoleAssigned) : User :=
  { self with roles := self.roles ++ [e.role] }

def applyRoleRevoked (self : User) (e : RoleRevoked) : User :=
  { self with roles := self.roles.filter (fun r => r.asStr ≠ e.role.asStr) }

def applySuspended (self : User) (_ : UserSuspended) : User :=
  { self with status := .suspended }

def applyActivated (self : User) (_ : UserActivated) : User :=
  { self with status := .active }

def apply (self : User) (event : UserEvent) : User :=
  let self :=
    match event with
    | .created e => self.applyCreated e
    | .roleAssigned e => self.applyRoleAssigned e
    | .roleRevoked e => self.applyRoleRevoked e
    | .suspended e => self.applySuspended e
    | .activated e => self.applyActivated e
  { self with version := self.version + 1 }

def ensureTenant (self : User) (tenantId : TenantId) : Except DomainError Unit :=
  if !self.created then
    .ok ()
  else if self.tenantId ≠ some tenantId then
    .error (.invariantViolation "tenant mismatch")
  else
    .ok ()

def ensureNotSuspended (self : User) : Except DomainError Unit :=
  if self.status = .suspended then
    .error (.invariantViolation "user is suspended")
  else
    .ok ()

def hasRole (roles : List Role) (name : String) : Bool :=
  roles.any (fun r => r.asStr == name)

def handleCreate [Lowercase] (self : User) (cmd : CreateUser)
    : Except DomainError (List UserEvent) :=
  if self.created then
    .error (.invariantViolation "user already exists")
  else if trimIsEmpty cmd.email || !cmd.email.toList.contains '@' then
    .error (.validation "invalid email format")
  else if trimIsEmpty cmd.displayName then
    .error (.validation "display name cannot be empty")
  else
    .ok [.created {
      tenantId := cmd.tenantId
      userId := cmd.userId
      email := Lowercase.toLowercase (trim cmd.email)
      displayName := trim cmd.displayName
      initialRoles := cmd.initialRoles
      occurredAt := cmd.occurredAt
    }]

-- No handler below looks at the `user_id` of its command.
def ensureExisting (self : User) (tenantId : TenantId) : Except DomainError Unit :=
  if !self.created then
    .error .notFound
  else
    self.ensureTenant tenantId

def handleAssignRole (self : User) (cmd : AssignRole) : Except DomainError (List UserEvent) :=
  match self.ensureExisting cmd.tenantId with
  | .error err => .error err
  | .ok () =>
    match self.ensureNotSuspended with
    | .error err => .error err
    | .ok () =>
      if hasRole self.roles cmd.role.asStr then
        .error (.invariantViolation "role already assigned")
      else
        let actorHasAdmin := hasRole cmd.actorRoles "admin"
        let actorHasRole := hasRole cmd.actorRoles cmd.role.asStr
        if !actorHasAdmin && !actorHasRole then
          .error .unauthorized
        else
          .ok [.roleAssigned {
            tenantId := cmd.tenantId
            userId := cmd.userId
            role := cmd.role
            occurredAt := cmd.occurredAt
          }]

def handleRevokeRole (self : User) (cmd : RevokeRole) : Except DomainError (List UserEvent) :=
  match self.ensureExisting cmd.tenantId with
  | .error err => .error err
  | .ok () =>
    if !hasRole self.roles cmd.role.asStr then
      .error (.invariantViolation "role not assigned")
    else
      .ok [.roleRevoked {
        tenantId := cmd.tenantId
        userId := cmd.userId
        role := cmd.role
        occurredAt := cmd.occurredAt
      }]

def handleSuspend (self : User) (cmd : SuspendUser) : Except DomainError (List UserEvent) :=
  match self.ensureExisting cmd.tenantId with
  | .error err => .error err
  | .ok () =>
    if self.status = .suspended then
      .error (.invariantViolation "user already suspended")
    else
      .ok [.suspended {
        tenantId := cmd.tenantId
        userId := cmd.userId
        reason := cmd.reason
        occurredAt := cmd.occurredAt
      }]

def handleActivate (self : User) (cmd : ActivateUser) : Except DomainError (List UserEvent) :=
  match self.ensureExisting cmd.tenantId with
  | .error err => .error err
  | .ok () =>
    if self.status = .active then
      .error (.invariantViolation "user already active")
    else
      .ok [.activated {
        tenantId := cmd.tenantId
        userId := cmd.userId
        occurredAt := cmd.occurredAt
      }]

variable [Lowercase]

def handle (self : User) (command : UserCommand) : Except DomainError (List UserEvent) :=
  match command with
  | .create cmd => self.handleCreate cmd
  | .assignRole cmd => self.handleAssignRole cmd
  | .revokeRole cmd => self.handleRevokeRole cmd
  | .suspend cmd => self.handleSuspend cmd
  | .activate cmd => self.handleActivate cmd

def aggregate : Aggregate where
  State := User
  Command := UserCommand
  Event := UserEvent
  apply := apply
  handle := handle

end User

section Serde

variable [TextFormat Uuid] [TextFormat DateTime]

instance : Codec Role :=
  Codec.transparent Role.asStr Role.mk (fun _ => rfl)

instance : Codec UserCreated where
  enc e := .object [
    ("tenant_id", Codec.enc e.tenantId),
    ("user_id", Codec.enc e.userId),
    ("email", Codec.enc e.email),
    ("display_name", Codec.enc e.displayName),
    ("initial_roles", Codec.enc e.initialRoles),
    ("occurred_at", Codec.enc e.occurredAt)]
  dec j := do
    let fields ← Codec.record
      ["tenant_id", "user_id", "email", "display_name", "initial_roles", "occurred_at"] j
    let tenantId ← Codec.field fields "tenant_id"
    let userId ← Codec.field fields "user_id"
    let email ← Codec.field fields "email"
    let displayName ← Codec.field fields "display_name"
    let initialRoles ← Codec.field fields "initial_roles"
    let occurredAt ← Codec.field fields "occurred_at"
    return { tenantId, userId, email, displayName, initialRoles, occurredAt }
  dec_enc e := by simp [Codec.record, Codec.field]

instance : Codec RoleAssigned where
  enc e := .object [
    ("tenant_id", Codec.enc e.tenantId),
    ("user_id", Codec.enc e.userId),
    ("role", Codec.enc e.role),
    ("occurred_at", Codec.enc e.occurredAt)]
  dec j := do
    let fields ← Codec.record ["tenant_id", "user_id", "role", "occurred_at"] j
    let tenantId ← Codec.field fields "tenant_id"
    let userId ← Codec.field fields "user_id"
    let role ← Codec.field fields "role"
    let occurredAt ← Codec.field fields "occurred_at"
    return { tenantId, userId, role, occurredAt }
  dec_enc e := by simp [Codec.record, Codec.field]

instance : Codec RoleRevoked where
  enc e := .object [
    ("tenant_id", Codec.enc e.tenantId),
    ("user_id", Codec.enc e.userId),
    ("role", Codec.enc e.role),
    ("occurred_at", Codec.enc e.occurredAt)]
  dec j := do
    let fields ← Codec.record ["tenant_id", "user_id", "role", "occurred_at"] j
    let tenantId ← Codec.field fields "tenant_id"
    let userId ← Codec.field fields "user_id"
    let role ← Codec.field fields "role"
    let occurredAt ← Codec.field fields "occurred_at"
    return { tenantId, userId, role, occurredAt }
  dec_enc e := by simp [Codec.record, Codec.field]

instance : Codec UserSuspended where
  enc e := .object [
    ("tenant_id", Codec.enc e.tenantId),
    ("user_id", Codec.enc e.userId),
    ("reason", Codec.enc e.reason),
    ("occurred_at", Codec.enc e.occurredAt)]
  dec j := do
    let fields ← Codec.record ["tenant_id", "user_id", "reason", "occurred_at"] j
    let tenantId ← Codec.field fields "tenant_id"
    let userId ← Codec.field fields "user_id"
    let reason ← Codec.field fields "reason"
    let occurredAt ← Codec.field fields "occurred_at"
    return { tenantId, userId, reason, occurredAt }
  dec_enc e := by simp [Codec.record, Codec.field]

instance : Codec UserActivated where
  enc e := .object [
    ("tenant_id", Codec.enc e.tenantId),
    ("user_id", Codec.enc e.userId),
    ("occurred_at", Codec.enc e.occurredAt)]
  dec j := do
    let fields ← Codec.record ["tenant_id", "user_id", "occurred_at"] j
    let tenantId ← Codec.field fields "tenant_id"
    let userId ← Codec.field fields "user_id"
    let occurredAt ← Codec.field fields "occurred_at"
    return { tenantId, userId, occurredAt }
  dec_enc e := by simp [Codec.record, Codec.field]

instance : Codec UserEvent where
  enc
    | .created e => .object [("Created", Codec.enc e)]
    | .roleAssigned e => .object [("RoleAssigned", Codec.enc e)]
    | .roleRevoked e => .object [("RoleRevoked", Codec.enc e)]
    | .suspended e => .object [("Suspended", Codec.enc e)]
    | .activated e => .object [("Activated", Codec.enc e)]
  dec := Codec.variant [
    ("Created", fun body => UserEvent.created <$> Codec.dec body),
    ("RoleAssigned", fun body => UserEvent.roleAssigned <$> Codec.dec body),
    ("RoleRevoked", fun body => UserEvent.roleRevoked <$> Codec.dec body),
    ("Suspended", fun body => UserEvent.suspended <$> Codec.dec body),
    ("Activated", fun body => UserEvent.activated <$> Codec.dec body)]
  dec_enc e := by cases e <;> simp [Codec.variant]

variable [Lowercase]

instance User.instEvent : Event User.aggregate.Event :=
  inferInstanceAs (Event UserEvent)

instance User.instSerde : Serde User.aggregate.Event :=
  inferInstanceAs (Serde UserEvent)

end Serde

end ForgeErp
