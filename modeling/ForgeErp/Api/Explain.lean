import ForgeErp.Api.Admin
import ForgeErp.Projections.Impl.Users

/-!
This module contains the explanation of authorization decisions, which computes the decision once
more.
-/

namespace ForgeErp

/--
`format!("{:?}", s)` for a `str`, which escapes what the Unicode tables call unprintable.
-/
class DebugText where
  debug : String → String

inductive DenialKind where
  | tenantMismatch
  | missingPermission
  deriving DecidableEq, Repr

structure DenialReason where
  kind : DenialKind
  message : String
  suggestions : List String

structure PrincipalState where
  principalId : Uuid
  activeTenantId : TenantId
  membershipTenantId : TenantId
  roles : List String
  effectivePermissions : List String
  hasWildcard : Bool

structure AuthorizationExplanation where
  requiredPermission : String
  granted : Bool
  reason : String
  principal : PrincipalState
  denialReason : Option DenialReason

def isWildcard (permission : String) : Bool :=
  permission == "*"

namespace Authorization

variable [TextFormat Uuid] [DebugText]

-- `{:?}` for a vector of strings
def debugList (texts : List String) : String :=
  "[" ++ ", ".intercalate (texts.map DebugText.debug) ++ "]"

def tenantMismatch (principal : Principal) (required : String) : AuthorizationExplanation :=
  let active := TextFormat.print principal.activeTenantId.asUuid
  let membership := TextFormat.print principal.membership.tenantId.asUuid
  {
    requiredPermission := required
    granted := false
    reason :=
      s!"Tenant mismatch: principal is active in tenant {active} but membership is for tenant {membership}"
    principal := {
      principalId := principal.principalId
      activeTenantId := principal.activeTenantId
      membershipTenantId := principal.membership.tenantId
      roles := principal.membership.roles.map Role.asStr
      effectivePermissions := principal.membership.permissions
      hasWildcard := principal.membership.permissions.any isWildcard
    }
    denialReason := some {
      kind := .tenantMismatch
      message := "Principal is authenticated in a different tenant than their membership"
      suggestions := [
        "Verify the tenant_id in the JWT token matches the principal's tenant membership",
        "Check that the principal has the correct tenant context for this operation"]
    }
  }

-- The roles of the principal that grant the permission; asked for when none of them can.
def grantingRoles (principal : Principal) (required : String)
    (rolePermissions : String → List String)
    : List String :=
  (principal.membership.roles.filter fun role =>
    (rolePermissions role.asStr).any fun p => p == required || p == "*").map Role.asStr

def missingPermission (principal : Principal) (required : String)
    (rolePermissions : String → List String)
    (effectivePerms : List String)
    : AuthorizationExplanation :=
  let granting := grantingRoles principal required rolePermissions
  let suggestions := [
    s!"Assign a role that grants the '{required}' permission",
    s!"Grant the '{required}' permission directly to the principal"]
  let assigned :=
    "One of the following roles already assigned would grant this permission (check role-permission mapping): "
      ++ debugList granting
  let current := debugList effectivePerms
  {
    requiredPermission := required
    granted := false
    reason := s!"Principal does not have permission '{required}'. Current permissions: {current}"
    principal := {
      principalId := principal.principalId
      activeTenantId := principal.activeTenantId
      membershipTenantId := principal.membership.tenantId
      roles := principal.membership.roles.map Role.asStr
      effectivePermissions := effectivePerms
      hasWildcard := false
    }
    denialReason := some {
      kind := .missingPermission
      message := s!"Missing required permission: '{required}'"
      suggestions := if granting.isEmpty then suggestions else assigned :: suggestions
    }
  }

def explainAuthorization (principal : Principal) (required : String)
    (rolePermissions : String → List String)
    : AuthorizationExplanation :=
  if principal.activeTenantId ≠ principal.membership.tenantId then
    tenantMismatch principal required
  else
    let granted := principal.membership.roles.flatMap fun role => rolePermissions role.asStr
    let effectivePerms := (granted ++ principal.membership.permissions).dedup
    let hasWildcard := effectivePerms.contains "*"
    let hasRequired := effectivePerms.contains required
    let effectivePermsList := effectivePerms.insertionSort (· ≤ ·)
    if hasWildcard || hasRequired then
      {
        requiredPermission := required
        granted := true
        reason :=
          if hasWildcard then
            "Principal has wildcard permission '*' (granted by admin role)"
          else
            s!"Principal has explicit permission '{required}'"
        principal := {
          principalId := principal.principalId
          activeTenantId := principal.activeTenantId
          membershipTenantId := principal.membership.tenantId
          roles := principal.membership.roles.map Role.asStr
          effectivePermissions := effectivePermsList
          hasWildcard
        }
        denialReason := none
      }
    else
      missingPermission principal required rolePermissions effectivePermsList

end Authorization

end ForgeErp
